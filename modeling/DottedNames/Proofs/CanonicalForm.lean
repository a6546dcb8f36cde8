import DottedNames.Proofs.QuotedNames

set_option autoImplicit false

namespace DottedNames

namespace Dialect

variable (dialect : Dialect)

def canonical (text : Text) : Text := dialect.render (dialect.parse text) .quoted

theorem canonical_of_split_ok {text : Text} {segments : List Text}
    (read : dialect.split text = .ok segments) :
    dialect.canonical text = dialect.joinQuoted ((segments.map dialect.decodeSegment).take 4) := by
  rw [canonical, dialect.parse_of_split_ok read, nameOfSegments, render_ofSegments_quoted]

theorem canonical_of_split_error {text : Text} {error : SplitError}
    (failed : dialect.split text = .error error) : dialect.canonical text = [] := by
  rw [canonical, dialect.parse_of_split_error failed]
  rfl

theorem canonical_nil : dialect.canonical [] = [] :=
  dialect.canonical_of_split_ok (split_eq_ok_nil_iff.mpr rfl)

/-- A name that was read is read again from its quoted form, so a canonical form is its own. -/
theorem canonical_canonical (text : Text) :
    dialect.canonical (dialect.canonical text) = dialect.canonical text :=
  congrArg (dialect.render · .quoted) (dialect.parse_render_quoted_parse text)

/-- A text that splits and does not end in a separator is its segments with separators between. -/
theorem eq_join_of_split {text : Text} {segments : List Text}
    (read : dialect.split text = .ok segments) (ends : text.getLast? ≠ some separator) :
    text = [separator].intercalate segments := by
  rcases reads_or_isCut_of_split read with reads | ⟨front, last, rfl, cut, _⟩
  · have whole := reads.whole
    rw [List.append_nil] at whole
    rcases List.eq_nil_or_concat' segments with rfl | ⟨front, last, rfl⟩
    · exact whole
    · rw [whole, Text.terminated_concat, List.getLast?_concat] at ends
      exact absurd rfl ends
  · rw [Text.intercalate_concat]
    exact cut.whole

theorem map_quoteSegment_map_decodeSegment {segments : List Text}
    (quoted : ∀ raw ∈ segments, dialect.IsQuoted raw) :
    (segments.map dialect.decodeSegment).map dialect.quoteSegment = segments := by
  rw [List.map_map]
  exact map_eq_self_iff.mpr fun raw member => (dialect.isQuoted_iff.mp (quoted raw member)).symm

/-- A text of at most four quoted segments and nothing else is its own canonical form. -/
theorem canonical_eq_self {text : Text} {segments : List Text}
    (read : dialect.split text = .ok segments) (few : segments.length ≤ 4)
    (heads : ∀ raw ∈ segments, raw.head? = some dialect.quote)
    (ends : text.getLast? ≠ some separator) : dialect.canonical text = text := by
  have valid := isSegment_of_split read
  have quoted : ∀ raw ∈ segments, dialect.IsQuoted raw := fun raw member =>
    (valid raw member).isQuoted (heads raw member)
  have all : (segments.map dialect.decodeSegment).take 4 = segments.map dialect.decodeSegment := by
    rw [List.take_eq_self_iff, List.length_map]
    exact few
  calc dialect.canonical text
      = dialect.joinQuoted (segments.map dialect.decodeSegment) := by
        rw [dialect.canonical_of_split_ok read, all]
    _ = [separator].intercalate segments := by
        rw [joinQuoted, dialect.map_quoteSegment_map_decodeSegment quoted]
    _ = text := (dialect.eq_join_of_split read ends).symm

/-- A text that is its own canonical form is empty or shows its levels, each of them quoted. -/
theorem eq_nil_or_split_of_canonical_eq_self {text : Text}
    (same : dialect.canonical text = text) :
    text = [] ∨ ∃ segments, dialect.split text = .ok segments ∧
      1 ≤ segments.length ∧ segments.length ≤ 4 ∧
      (∀ raw ∈ segments, raw.head? = some dialect.quote) ∧ text.getLast? ≠ some separator := by
  cases read : dialect.split text with
  | error error =>
      rw [dialect.canonical_of_split_error read] at same
      exact .inl same.symm
  | ok segments =>
      have few := List.length_take_le 4 (segments.map dialect.decodeSegment)
      rw [dialect.canonical_of_split_ok read] at same
      generalize (segments.map dialect.decodeSegment).take 4 = levels at same few
      -- What was written from the levels is split into their quoted forms, and into nothing else.
      have written := dialect.split_joinQuoted levels
      rw [same, read] at written
      obtain rfl := Except.ok.inj written
      cases levels with
      | nil => exact .inl same.symm
      | cons level levels =>
          refine .inr ⟨_, rfl, ?_, ?_, ?_, ?_⟩
          · exact Nat.succ_pos _
          · rw [List.length_map]
            exact few
          · intro raw member
            obtain ⟨value, _, rfl⟩ := List.mem_map.mp member
            rfl
          · rw [← same, dialect.getLast?_joinQuoted (List.cons_ne_nil level levels)]
            exact fun quote => dialect.quote_ne_separator (Option.some.inj quote)

/-- The texts that are their own canonical form are the empty one and those that split into one to
four segments, each starting with a quote, with no separator at the end. The canonical form of any
text is one of them. -/
theorem canonical_eq_self_iff (text : Text) :
    (dialect.canonical text = text ↔
      text = [] ∨ ∃ segments, dialect.split text = .ok segments ∧
        1 ≤ segments.length ∧ segments.length ≤ 4 ∧
        (∀ raw ∈ segments, raw.head? = some dialect.quote) ∧ text.getLast? ≠ some separator) ∧
      dialect.canonical (dialect.canonical text) = dialect.canonical text := by
  refine ⟨⟨dialect.eq_nil_or_split_of_canonical_eq_self, ?_⟩, dialect.canonical_canonical text⟩
  rintro (rfl | ⟨segments, read, _, few, heads, ends⟩)
  · exact dialect.canonical_nil
  · exact dialect.canonical_eq_self read few heads ends

end Dialect

end DottedNames
