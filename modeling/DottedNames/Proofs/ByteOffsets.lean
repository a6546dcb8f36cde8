import DottedNames.Proofs.Grammar

set_option autoImplicit false

namespace DottedNames

namespace Text

/-- An offset at which a character starts or the text ends. -/
def IsBoundary (text : Text) (offset : Nat) : Prop :=
  String.Pos.Raw.IsValid (String.ofList text) ⟨offset⟩

/-- What stands before and behind an offset, if that is a boundary. -/
def cutAtOffset? : Text → Nat → Option (Text × Text)
  | text, 0 => some ([], text)
  | [], _ + 1 => none
  | c :: rest, offset + 1 =>
      if c.utf8Size ≤ offset + 1 then
        (cutAtOffset? rest (offset + 1 - c.utf8Size)).map fun (front, back) => (c :: front, back)
      else none

/-- The offset of the first `mark`. -/
def offset? (mark : Char) : Text → Option Nat
  | [] => none
  | c :: rest => if c = mark then some 0 else (offset? mark rest).map (c.utf8Size + ·)

theorem utf8Length_eq_utf8ByteSize (text : Text) :
    utf8Length text = (String.ofList text).utf8ByteSize := by
  induction text with
  | nil => rfl
  | cons c rest ih =>
      have parts : String.ofList (c :: rest) = String.singleton c ++ String.ofList rest := by
        rw [String.singleton_eq_ofList, ← String.ofList_append, List.singleton_append]
      rw [parts, String.utf8ByteSize_append, String.utf8ByteSize_singleton, utf8Length_cons, ih]

theorem cutAtOffset?_append (front back : Text) :
    cutAtOffset? (front ++ back) (utf8Length front) = some (front, back) := by
  induction front with
  | nil => cases back <;> rfl
  | cons c front ih =>
      -- No character is without bytes, so behind it the offset is not at the start.
      have positive := c.utf8Size_pos
      obtain ⟨size, whole⟩ : ∃ size, c.utf8Size + utf8Length front = size + 1 :=
        ⟨c.utf8Size + utf8Length front - 1, by omega⟩
      have fits : c.utf8Size ≤ size + 1 := by omega
      have left : size + 1 - c.utf8Size = utf8Length front := by omega
      rw [List.cons_append, utf8Length_cons, whole, cutAtOffset?, if_pos fits, left, ih]
      rfl

theorem cutAtOffset?_eq_some_iff {text front back : Text} {offset : Nat} :
    cutAtOffset? text offset = some (front, back) ↔
      text = front ++ back ∧ utf8Length front = offset := by
  constructor
  · intro cut
    fun_induction cutAtOffset? text offset generalizing front with
    | case1 text =>
        cases cut
        exact ⟨rfl, rfl⟩
    | case2 => cases cut
    | case3 c rest offset fits ih =>
        obtain ⟨⟨before, behind⟩, found, same⟩ := Option.map_eq_some_iff.mp cut
        cases same
        obtain ⟨rfl, size⟩ := ih found
        refine ⟨rfl, ?_⟩
        rw [utf8Length_cons, size]
        omega
    | case4 => cases cut
  · rintro ⟨rfl, rfl⟩
    exact cutAtOffset?_append front back

/-- Cutting goes on behind a place at which a text was cut. -/
theorem cutAtOffset?_add {text front back middle rest : Text} {offset more : Nat}
    (cut : cutAtOffset? text offset = some (front, back))
    (again : cutAtOffset? back more = some (middle, rest)) :
    cutAtOffset? text (offset + more) = some (front ++ middle, rest) := by
  obtain ⟨rfl, rfl⟩ := cutAtOffset?_eq_some_iff.mp cut
  obtain ⟨rfl, rfl⟩ := cutAtOffset?_eq_some_iff.mp again
  exact cutAtOffset?_eq_some_iff.mpr ⟨(List.append_assoc _ _ _).symm, utf8Length_append _ _⟩

theorem isBoundary_iff {text : Text} {offset : Nat} :
    IsBoundary text offset ↔ ∃ front back, text = front ++ back ∧ utf8Length front = offset := by
  unfold IsBoundary
  rw [String.Pos.Raw.isValid_ofList]
  constructor
  · rintro ⟨i, same⟩
    refine ⟨text.take i, text.drop i, (List.take_append_drop i text).symm, ?_⟩
    rw [utf8Length_eq_utf8ByteSize]
    exact same.symm
  · rintro ⟨front, back, rfl, rfl⟩
    refine ⟨front.length, ?_⟩
    rw [List.take_left, ← utf8Length_eq_utf8ByteSize]

theorem isBoundary_iff_exists_cut {text : Text} {offset : Nat} : IsBoundary text offset ↔
    ∃ front back, cutAtOffset? text offset = some (front, back) := by
  simp only [isBoundary_iff, cutAtOffset?_eq_some_iff]

theorem IsBoundary.le_utf8Length {text : Text} {offset : Nat} (boundary : IsBoundary text offset) :
    offset ≤ utf8Length text := by
  obtain ⟨front, back, rfl, rfl⟩ := isBoundary_iff.mp boundary
  rw [utf8Length_append]
  exact Nat.le_add_right _ _

theorem offset?_eq_map_cutAt? (mark : Char) (text : Text) :
    offset? mark text = (cutAt? mark text).map fun (before, _) => utf8Length before := by
  induction text with
  | nil => rfl
  | cons c rest ih =>
      by_cases found : c = mark
      · simp only [offset?, cutAt?, found, ↓reduceIte, Option.map_some, utf8Length_nil]
      · simp only [offset?, cutAt?, found, ↓reduceIte, ih, Option.map_map]
        rfl

theorem offset?_eq_some_iff {mark : Char} {text : Text} {offset : Nat} :
    offset? mark text = some offset ↔
      ∃ before after, cutAt? mark text = some (before, after) ∧ utf8Length before = offset := by
  rw [offset?_eq_map_cutAt?, Option.map_eq_some_iff, Prod.exists]

end Text

namespace Dialect

variable (dialect : Dialect)

/-- The search for a closing quote by a loop that counts the bytes it has passed. It passes a pair
of quotes at once. -/
def closingFrom? : Nat → Text → Option Nat
  | _, [] => none
  | offset, [c] => if c = dialect.quote then some offset else none
  | offset, c :: next :: rest =>
      if c ≠ dialect.quote then closingFrom? (offset + c.utf8Size) (next :: rest)
      else if next = dialect.quote then
        closingFrom? (offset + c.utf8Size + next.utf8Size) rest
      else some offset

/-- The loop finds the closing quote at the same offset, counted from where it starts. -/
theorem closingFrom?_eq_map (offset : Nat) (body : Text) :
    dialect.closingFrom? offset body = (dialect.closingOffset? body).map (offset + ·) := by
  unfold closingOffset?
  fun_induction cutAtClosing? dialect body generalizing offset with
  | case1 => rfl
  | case2 =>
      rw [closingFrom?, if_pos rfl]
      rfl
  | case3 c other =>
      rw [closingFrom?, if_neg other]
      rfl
  | case4 c next rest plain ih =>
      rw [closingFrom?, if_pos plain, ih, Option.map_map, Option.map_map, Option.map_map]
      refine congrArg (Option.map · _) (funext fun parts => ?_)
      simp only [Function.comp_apply, Text.utf8Length_cons, Nat.add_assoc]
  | case5 c rest mark ih =>
      rw [closingFrom?, if_neg mark, if_pos rfl, ih, Option.map_map, Option.map_map,
        Option.map_map]
      refine congrArg (Option.map · _) (funext fun parts => ?_)
      simp only [Function.comp_apply, Text.utf8Length_cons, Nat.add_assoc]
  | case6 c next rest mark other =>
      rw [closingFrom?, if_neg mark, if_neg other]
      rfl

theorem closingFrom?_zero (body : Text) :
    dialect.closingFrom? 0 body = dialect.closingOffset? body := by
  rw [closingFrom?_eq_map]
  simp only [Nat.zero_add, Option.map_id_fun', id_eq]

/-- A body that starts with the doubled quotes of a value, with a closing quote and the tail behind
it. -/
structure Closes (body value tail : Text) : Prop where
  whole : body = dialect.doubleQuotes value ++ dialect.quote :: tail
  free : tail.head? ≠ some dialect.quote

variable {dialect} in
theorem closes_iff {body value tail : Text} : dialect.Closes body value tail ↔
    dialect.cutAtClosing? body = some (dialect.doubleQuotes value, tail) := by
  rw [cutAtClosing?_eq_some_iff]
  constructor
  · intro closes
    exact ⟨dialect.paired_doubleQuotes value, closes.whole, closes.free⟩
  · rintro ⟨_, whole, free⟩
    exact ⟨whole, free⟩

variable {dialect} in
theorem Closes.unique {body value tail other behind : Text}
    (closes : dialect.Closes body value tail) (again : dialect.Closes body other behind) :
    other = value ∧ behind = tail := by
  have same := (closes_iff.mp again).symm.trans (closes_iff.mp closes)
  obtain ⟨doubled, rest⟩ := Prod.mk.inj (Option.some.inj same)
  have undone := congrArg dialect.undoubleQuotes doubled
  rw [undoubleQuotes_doubleQuotes, undoubleQuotes_doubleQuotes] at undone
  exact ⟨undone, rest⟩

theorem closingOffset?_eq_some_iff {body : Text} {offset : Nat} :
    dialect.closingOffset? body = some offset ↔ ∃ value tail,
      dialect.Closes body value tail ∧ Text.utf8Length (dialect.doubleQuotes value) = offset := by
  rw [closingOffset?, Option.map_eq_some_iff]
  constructor
  · rintro ⟨⟨inner, tail⟩, cut, size⟩
    obtain ⟨value, rfl⟩ := (dialect.cutAtClosing?_eq_some_iff.mp cut).1.eq_doubleQuotes
    exact ⟨value, tail, closes_iff.mpr cut, size⟩
  · rintro ⟨value, tail, closes, size⟩
    exact ⟨_, closes_iff.mp closes, size⟩

theorem closingOffset?_eq_none_iff {body : Text} :
    dialect.closingOffset? body = none ↔ ∃ value, body = dialect.doubleQuotes value := by
  rw [closingOffset?, Option.map_eq_none_iff, cutAtClosing?_eq_none_iff]
  constructor
  · exact Paired.eq_doubleQuotes
  · rintro ⟨value, rfl⟩
    exact dialect.paired_doubleQuotes value

/-- A quoted body closes at the end of the doubled quotes of a value, at a quote that no other quote
follows; the value and the tail behind the quote are the only ones of that kind. It does not close
exactly if the doubled quotes of a value are all there is. A loop that counts bytes finds the same
offset. -/
theorem closingOffset?_ends_doubled_value (body : Text) :
    (∀ offset, dialect.closingOffset? body = some offset ↔ ∃ value tail,
      dialect.Closes body value tail ∧ Text.utf8Length (dialect.doubleQuotes value) = offset) ∧
    (∀ value tail other behind, dialect.Closes body value tail →
      dialect.Closes body other behind → other = value ∧ behind = tail) ∧
    (dialect.closingOffset? body = none ↔ ∃ value, body = dialect.doubleQuotes value) ∧
    dialect.closingFrom? 0 body = dialect.closingOffset? body := by
  refine ⟨fun offset => dialect.closingOffset?_eq_some_iff, ?_,
    dialect.closingOffset?_eq_none_iff, dialect.closingFrom?_zero body⟩
  intro value tail other behind closes again
  exact closes.unique again

/-- A pair of quotes of two bytes each is passed over, and the body closes at its end only. -/
theorem wide_quotes_close_behind_pair :
    let wide : Dialect := ⟨'§', by decide⟩
    let body := ['a', '§', '§', 'b', '§']
    wide.Closes body ['a', '§', 'b'] [] ∧ wide.closingOffset? body = some 6 ∧
      ∀ value tail, wide.Closes body value tail → value = ['a', '§', 'b'] ∧ tail = [] := by
  intro wide body
  obtain ⟨offsets, unique, _, _⟩ := wide.closingOffset?_ends_doubled_value body
  have closes : wide.Closes body ['a', '§', 'b'] [] := ⟨rfl, nofun⟩
  have offset : wide.closingOffset? body = some 6 := (offsets 6).mpr ⟨_, _, closes, rfl⟩
  exact ⟨closes, offset, fun value tail other => unique _ _ value tail closes other⟩

end Dialect

end DottedNames
