import DottedNames.Proofs.Pairing
import DottedNames.Proofs.Templates

set_option autoImplicit false

namespace DottedNames

open Statement

namespace Dialect

variable (dialect : Dialect)

/-- A quoted value in a text, with what stands before its opening and behind its closing quote. -/
structure Encloses (text before value behind : Text) : Prop where
  whole : text = before ++ dialect.quoteSegment value ++ behind
  /-- Read from right behind the opening quote, the segment closes at the quote that was inserted.
  -/
  closes_iff : dialect.closingOffset? (text.drop (before.length + 1)) =
      some (Text.utf8Length (dialect.doubleQuotes value)) ↔ behind.head? ≠ some dialect.quote
  /-- Where it closes elsewhere, it never closes inside the value. -/
  not_earlier : ∀ offset ∈ dialect.closingOffset? (text.drop (before.length + 1)),
    Text.utf8Length (dialect.doubleQuotes value) ≤ offset
  /-- The piece from the opening quote through the inserted closing one, measured in bytes, stands
  for the value. -/
  decoded : ∀ slice rest, text = before ++ slice ++ rest →
    Text.utf8Length slice = dialect.quote.utf8Size +
      Text.utf8Length (dialect.doubleQuotes value) + dialect.quote.utf8Size →
    dialect.decodeSegment slice = value

variable {dialect} in
theorem Paired.closingOffset?_append {inner : Text} (paired : dialect.Paired inner) (rest : Text) :
    dialect.closingOffset? (inner ++ rest) =
      (dialect.closingOffset? rest).map (Text.utf8Length inner + ·) := by
  simp only [closingOffset?, paired.cutAtClosing?_append_eq_map, Option.map_map]
  congr 1
  funext parts
  exact Text.utf8Length_append inner parts.1

theorem closingOffset?_quote_cons_iff {rest : Text} :
    dialect.closingOffset? (dialect.quote :: rest) = some 0 ↔
      rest.head? ≠ some dialect.quote := by
  constructor
  · intro closes head
    cases rest with
    | nil => cases head
    | cons c rest =>
        cases head
        rw [closingOffset?, cutAtClosing?_pair, Option.map_map] at closes
        obtain ⟨parts, _, size⟩ := Option.map_eq_some_iff.mp closes
        have positive := dialect.quote.utf8Size_pos
        simp only [Function.comp_apply, Text.utf8Length_cons] at size
        omega
  · intro free
    rw [closingOffset?, cutAtClosing?_closing dialect free]
    rfl

theorem utf8Length_quoteSegment (value : Text) :
    Text.utf8Length (dialect.quoteSegment value) = dialect.quote.utf8Size +
      Text.utf8Length (dialect.doubleQuotes value) + dialect.quote.utf8Size := by
  simp only [quoteSegment, List.cons_append, Text.utf8Length_cons, Text.utf8Length_append,
    Text.utf8Length_nil, Nat.add_zero, Nat.add_assoc]

theorem encloses_quoteSegment (before value behind : Text) :
    dialect.Encloses (before ++ dialect.quoteSegment value ++ behind) before value behind := by
  have body : (before ++ dialect.quoteSegment value ++ behind).drop (before.length + 1) =
      dialect.doubleQuotes value ++ dialect.quote :: behind := by
    rw [List.append_assoc, List.drop_length_add_append]
    simp only [quoteSegment, List.cons_append, List.drop_succ_cons, List.drop_zero,
      List.append_assoc, List.nil_append]
  have passed := (dialect.paired_doubleQuotes value).closingOffset?_append
    (dialect.quote :: behind)
  constructor
  case whole => rfl
  case closes_iff =>
    rw [body, passed, ← closingOffset?_quote_cons_iff, Option.map_eq_some_iff]
    constructor
    · rintro ⟨offset, closes, size⟩
      rw [closes, Nat.add_eq_left.mp size]
    · exact fun closes => ⟨0, closes, rfl⟩
  case not_earlier =>
    intro offset closes
    rw [body, passed] at closes
    obtain ⟨more, _, rfl⟩ := Option.map_eq_some_iff.mp closes
    exact Nat.le_add_right _ more
  case decoded =>
    intro slice rest whole size
    rw [← utf8Length_quoteSegment] at size
    rw [List.append_assoc, List.append_assoc, List.append_cancel_left_eq] at whole
    rw [← Text.eq_of_append_eq_of_utf8Length_eq whole size.symm]
    exact dialect.decodeSegment_quoteSegment value

theorem filledTemplate_append (first : Text) (earlier later : List Insertion) (each : Insertion) :
    filledTemplate dialect first (earlier ++ each :: later) =
      filledTemplate dialect first earlier ++ dialect.quoteSegment each.value ++
        filledTemplate dialect each.literal later := by
  simp only [filledTemplate, List.flatMap_append, List.flatMap_cons, List.append_assoc]

/-- What stands behind a value starts with a quote in two ways only: the template has one there, or
another placeholder follows at once. -/
theorem head?_filledTemplate_iff {first : Text} {insertions : List Insertion} :
    (filledTemplate dialect first insertions).head? = some dialect.quote ↔
      first.head? = some dialect.quote ∨ first = [] ∧ insertions ≠ [] := by
  cases first with
  | cons c first =>
      constructor
      · exact fun head => .inl head
      · exact fun shape => shape.resolve_right fun empty => nomatch empty.1
  | nil =>
      cases insertions with
      | nil =>
          have neither : ¬ (([] : Text).head? = some dialect.quote ∨
              ([] : Text) = [] ∧ ([] : List Insertion) ≠ []) := by
            rintro (head | ⟨_, filled⟩)
            · cases head
            · exact filled rfl
          exact iff_of_false dialect.head?_nil_ne neither
      | cons each insertions => exact iff_of_true rfl (.inr ⟨rfl, List.cons_ne_nil _ _⟩)

theorem eq_take_append_drop {insertions : List Insertion} {i : Nat} {each : Insertion}
    (here : insertions[i]? = some each) :
    insertions = insertions.take i ++ each :: insertions.drop (i + 1) := by
  obtain ⟨inside, rfl⟩ := List.getElem?_eq_some_iff.mp here
  rw [← List.drop_eq_getElem_cons inside, List.take_append_drop]

/-- In a filled template each value is enclosed by its own quotes: its segment closes at the closing
quote that was inserted, unless the template puts a quote or another placeholder right behind it,
and it never closes earlier. -/
theorem quoteForStatement_encloses {template text : Text} {values : List Text}
    (success : dialect.quoteForStatement template values = .ok text) :
    (∃ first insertions, insertions.map Insertion.value = values ∧
        template = writtenTemplate first insertions) ∧
      ∀ first insertions, insertions.map Insertion.value = values →
        template = writtenTemplate first insertions →
        text = filledTemplate dialect first insertions ∧
          ∀ (i : Nat) (each : Insertion), insertions[i]? = some each →
            let before := filledTemplate dialect first (insertions.take i)
            let behind := filledTemplate dialect each.literal (insertions.drop (i + 1))
            dialect.Encloses text before each.value behind ∧
              (behind.head? = some dialect.quote ↔ each.literal.head? = some dialect.quote ∨
                each.literal = [] ∧ i + 1 < insertions.length) := by
  constructor
  · obtain ⟨first, insertions, same, written, _⟩ := dialect.exists_insertions success
    exact ⟨first, insertions, same, written⟩
  · rintro first insertions rfl rfl
    rw [quoteForStatement_writtenTemplate] at success
    obtain rfl := Except.ok.inj success
    refine ⟨rfl, fun i each here => ⟨?_, ?_⟩⟩
    · have whole := congrArg (filledTemplate dialect first) (eq_take_append_drop here)
      rw [filledTemplate_append] at whole
      rw [whole]
      exact dialect.encloses_quoteSegment _ each.value _
    · rw [head?_filledTemplate_iff, ne_eq, List.drop_eq_nil_iff, Nat.not_le]

/-- Between two placeholders that touch, the closing quote of the first value and the opening quote
of the second make a pair, and one segment runs over both values. -/
theorem adjacent_values_run_together :
    let text := ['"', 'a', '"', '"', '"', '"', 'b', '"']
    (default : Dialect).quoteForStatement ['{', '}', '{', '}'] [['a', '"'], ['b']] = .ok text ∧
      (default : Dialect).Encloses text [] ['a', '"'] ['"', 'b', '"'] ∧
      (default : Dialect).closingOffset? (text.drop 1) = some 6 := by
  have success : (default : Dialect).quoteForStatement ['{', '}', '{', '}']
      [['a', '"'], ['b']] = .ok ['"', 'a', '"', '"', '"', '"', 'b', '"'] := rfl
  have enclosed := (quoteForStatement_encloses default success).2
    [] [⟨['a', '"'], []⟩, ⟨['b'], []⟩] rfl rfl
  exact ⟨success, (enclosed.2 0 _ rfl).1, rfl⟩

end Dialect

end DottedNames
