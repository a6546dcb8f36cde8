set_option autoImplicit false

namespace DottedNames

abbrev Text := List Char

/-- Mapping leaves a list as it is exactly if it leaves every item as it is. -/
theorem map_eq_self_iff {α : Type} {f : α → α} {items : List α} :
    items.map f = items ↔ ∀ item ∈ items, f item = item := by
  constructor
  · intro same
    exact List.map_inj_left.mp (same.trans (List.map_id items).symm)
  · intro fixed
    exact (List.map_congr_left fixed).trans (List.map_id items)

/-- What is done in two steps succeeds exactly if both steps do. -/
theorem bind_eq_ok_iff {ε α β : Type} {first : Except ε α} {next : α → Except ε β} {result : β} :
    (first >>= next) = .ok result ↔ ∃ value, first = .ok value ∧ next value = .ok result := by
  constructor
  · intro success
    cases first with
    | error failure => cases success
    | ok value => exact ⟨value, rfl, success⟩
  · intro steps
    obtain ⟨value, rfl, success⟩ := steps
    exact success

namespace Text

/-- The number of bytes that a text takes in UTF-8. -/
def utf8Length : Text → Nat
  | [] => 0
  | c :: rest => c.utf8Size + utf8Length rest

@[simp] theorem utf8Length_nil : utf8Length [] = 0 := rfl

@[simp] theorem utf8Length_cons (c : Char) (rest : Text) :
    utf8Length (c :: rest) = c.utf8Size + utf8Length rest := rfl

theorem utf8Length_append (first second : Text) :
    utf8Length (first ++ second) = utf8Length first + utf8Length second := by
  induction first with
  | nil => simp
  | cons c rest ih => simp [ih, Nat.add_assoc]

/-- Two texts of the same size are the same if the same text starts with both of them. -/
theorem eq_of_append_eq_of_utf8Length_eq {first second front back : Text}
    (same : first ++ front = second ++ back) (size : utf8Length first = utf8Length second) :
    first = second := by
  induction first generalizing second with
  | nil =>
      cases second with
      | nil => rfl
      | cons c second =>
          have positive := c.utf8Size_pos
          simp only [utf8Length_nil, utf8Length_cons] at size
          omega
  | cons c first ih =>
      cases second with
      | nil =>
          have positive := c.utf8Size_pos
          simp only [utf8Length_nil, utf8Length_cons] at size
          omega
      | cons d second =>
          obtain ⟨rfl, rest⟩ := List.cons.inj same
          simp only [utf8Length_cons, Nat.add_left_cancel_iff] at size
          rw [ih rest size]

/-- What stands before and after the first `mark`; the mark itself is in neither part. -/
def cutAt? (mark : Char) : Text → Option (Text × Text)
  | [] => none
  | c :: rest =>
      if c = mark then some ([], rest)
      else (cutAt? mark rest).map fun (before, after) => (c :: before, after)

theorem cutAt?_eq_none_iff {mark : Char} {text : Text} :
    cutAt? mark text = none ↔ mark ∉ text := by
  induction text with
  | nil => simp [cutAt?]
  | cons c rest ih =>
      by_cases found : c = mark
      · simp [cutAt?, found]
      · simp [cutAt?, found, ih, Ne.symm found]

theorem cutAt?_eq_some_iff {mark : Char} {text before after : Text} :
    cutAt? mark text = some (before, after) ↔
      mark ∉ before ∧ text = before ++ mark :: after := by
  induction text generalizing before with
  | nil => simp [cutAt?]
  | cons c rest ih =>
      by_cases found : c = mark
      · subst found
        cases before with
        | nil => simp [cutAt?]
        | cons d ds => simp +contextual [cutAt?, eq_comm]
      · cases before with
        | nil => simp [cutAt?, found]
        | cons d ds =>
            simp only [cutAt?, found, ↓reduceIte, Option.map_eq_some_iff, Prod.mk.injEq,
              Prod.exists, List.cons.injEq, List.mem_cons, not_or, List.cons_append]
            constructor
            · rintro ⟨front, back, cut, ⟨rfl, rfl⟩, rfl⟩
              have parts := ih.1 cut
              exact ⟨⟨Ne.symm found, parts.1⟩, rfl, parts.2⟩
            · rintro ⟨⟨_, free⟩, rfl, same⟩
              exact ⟨ds, after, ih.2 ⟨free, same⟩, ⟨rfl, rfl⟩, rfl⟩

theorem cutAt?_shorter {mark : Char} {text before after : Text}
    (cut : cutAt? mark text = some (before, after)) : after.length < text.length := by
  rw [(cutAt?_eq_some_iff.1 cut).2, List.length_append, List.length_cons]
  omega

/-- The parts of a text between the occurrences of `mark`. -/
def splitAt (mark : Char) (text : Text) : List Text :=
  match cut : cutAt? mark text with
  | none => [text]
  | some (before, after) =>
      have := cutAt?_shorter cut
      before :: splitAt mark after
termination_by text.length
decreasing_by assumption

/-- Takes away one carriage return at the end. -/
def dropReturn (line : Text) : Text :=
  if line.getLast? = some '\r' then line.dropLast else line

/-- The lines of a text, which line feeds end, each with or without a carriage return before it.
The last line may lack its line feed and keeps a carriage return then. -/
def lines (text : Text) : List Text :=
  match cut : cutAt? '\n' text with
  | none => if text = [] then [] else [text]
  | some (before, after) =>
      have := cutAt?_shorter cut
      dropReturn before :: lines after
termination_by text.length
decreasing_by assumption

/-- A number in decimal digits. -/
def ofNat (n : Nat) : Text := Nat.toDigits 10 n

theorem intercalate_append {between : Text} {front back : List Text} (filled : front ≠ [])
    (more : back ≠ []) :
    between.intercalate (front ++ back) =
      between.intercalate front ++ between ++ between.intercalate back := by
  induction front with
  | nil => exact absurd rfl filled
  | cons text front ih =>
      cases front with
      | nil =>
          rw [List.singleton_append, List.intercalate_singleton,
            List.intercalate_cons_of_ne_nil more]
      | cons next rest =>
          rw [List.cons_append, List.cons_append, List.intercalate_cons_cons, ← List.cons_append,
            ih (List.cons_ne_nil next rest), List.intercalate_cons_cons]
          simp only [List.append_assoc]

theorem intercalate_prefix_intercalate_append (between : Text) (front back : List Text) :
    between.intercalate front <+: between.intercalate (front ++ back) := by
  by_cases filled : front = []
  · subst filled
    exact List.nil_prefix
  by_cases more : back = []
  · exact ⟨[], by rw [more, List.append_nil, List.append_nil]⟩
  · rw [intercalate_append filled more, List.append_assoc]
    exact List.prefix_append _ _

/-- More texts take more room if the first of them is not empty. -/
theorem length_intercalate_lt {between next : Text} {front rest : List Text}
    (filled : next ≠ []) :
    (between.intercalate front).length < (between.intercalate (front ++ next :: rest)).length := by
  have room := (intercalate_prefix_intercalate_append between [next] rest).length_le
  have positive := List.length_pos_iff.mpr filled
  rw [List.intercalate_singleton, List.singleton_append] at room
  by_cases first : front = []
  · subst first
    rw [List.nil_append, List.intercalate_nil, List.length_nil]
    omega
  · rw [intercalate_append first (List.cons_ne_nil next rest)]
    simp only [List.length_append]
    omega

end Text

end DottedNames
