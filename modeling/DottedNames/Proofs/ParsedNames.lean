import DottedNames.Proofs.RoundTrip

set_option autoImplicit false

namespace DottedNames

namespace Dialect

variable (dialect : Dialect)

theorem get_nameOfSegments (segments : List Text) (level : Level) :
    (dialect.nameOfSegments segments).get level =
      segments[level.rank]?.map dialect.decodeSegment := by
  rw [nameOfSegments, QualifiedName.get_ofSegments, List.getElem?_map]

theorem depth_nameOfSegments (segments : List Text) :
    (dialect.nameOfSegments segments).depth = min 4 segments.length := by
  rw [nameOfSegments, QualifiedName.depth_ofSegments, List.length_map]

theorem isEmpty_nameOfSegments_iff {segments : List Text} :
    (dialect.nameOfSegments segments).isEmpty = true ↔ segments = [] := by
  cases segments with
  | nil => exact iff_of_true rfl rfl
  | cons raw segments => exact iff_of_false nofun nofun

variable {dialect}

theorem tryParse_eq_ok_parse {text : Text} {segments : List Text}
    (read : dialect.split text = .ok segments) :
    dialect.tryParse text = .ok (dialect.parse text) := by
  rw [dialect.tryParse_of_split read, dialect.parse_of_split_ok read]

theorem isEmpty_parse_iff {text : Text} :
    (dialect.parse text).isEmpty = true ↔
      text = [] ∨ ∃ error, dialect.split text = .error error := by
  cases read : dialect.split text with
  | error error =>
      rw [dialect.parse_of_split_error read]
      exact iff_of_true rfl (.inr ⟨error, rfl⟩)
  | ok segments =>
      have nothing : segments = [] ↔ text = [] := by
        rw [← split_eq_ok_nil_iff, read, Except.ok.injEq]
      rw [dialect.parse_of_split_ok read, isEmpty_nameOfSegments_iff, nothing]
      simp only [reduceCtorEq, exists_false, or_false]

/-- Well-formed segments, however many, are lost with a malformed rest behind them. -/
theorem IsCut.parse_eq {text rest : Text} {segments : List Text} {cause : Malformation}
    {reported : Option Text} (cut : dialect.IsCut text segments rest)
    (ends : dialect.Ends rest (.malformed cause reported)) : dialect.parse text = {} :=
  dialect.parse_of_split_error (cut.split_eq_error ends)

/-- If any level was read, the whole text was. -/
theorem exists_split_of_get_parse {text value : Text} {level : Level}
    (present : (dialect.parse text).get level = some value) :
    ∃ segments, dialect.split text = .ok segments := by
  cases read : dialect.split text with
  | ok segments => exact ⟨segments, rfl⟩
  | error error =>
      rw [dialect.parse_of_split_error read] at present
      cases level <;> cases present

variable (dialect)

/-- The lenient reading gives the empty name for a malformed text, and otherwise the same as the
strict one: a name without a gap, with as many levels as there are segments but four at most, each
of them present with the value of its segment. So the name is empty for an empty or a malformed text
only. A level is there only if all segments are well-formed, also those that no level is left for,
and what is malformed behind well-formed segments takes all levels away. -/
theorem parse_shape (text : Text) :
    (∀ error, dialect.split text = .error error →
      dialect.tryParse text = .error error ∧ dialect.parse text = {}) ∧
    (∀ segments, dialect.split text = .ok segments →
      dialect.tryParse text = .ok (dialect.parse text) ∧
      ¬ (dialect.parse text).HasGap ∧
      (dialect.parse text).depth = min 4 segments.length ∧
      ∀ level : Level,
        (dialect.parse text).get level = segments[level.rank]?.map dialect.decodeSegment) ∧
    ((dialect.parse text).isEmpty = true ↔
      text = [] ∨ ∃ error, dialect.split text = .error error) ∧
    (∀ level value, (dialect.parse text).get level = some value →
      ∃ segments, dialect.split text = .ok segments ∧
        ∀ raw ∈ segments, dialect.IsBare raw ∨ dialect.IsQuoted raw) ∧
    ∀ segments rest cause reported, dialect.IsCut text segments rest →
      dialect.Ends rest (.malformed cause reported) → dialect.parse text = {} := by
  refine ⟨?_, ?_, isEmpty_parse_iff, ?_, fun _ _ _ _ => IsCut.parse_eq⟩
  · intro error failed
    exact ⟨dialect.tryParse_of_split_error failed, dialect.parse_of_split_error failed⟩
  · intro segments read
    have name := dialect.parse_of_split_ok read
    refine ⟨tryParse_eq_ok_parse read, dialect.not_hasGap_parse text, ?_, ?_⟩
    · rw [name]
      exact dialect.depth_nameOfSegments segments
    · intro level
      rw [name]
      exact dialect.get_nameOfSegments segments level
  · intro level value present
    obtain ⟨segments, read⟩ := exists_split_of_get_parse present
    exact ⟨segments, read, isSegment_of_split read⟩

-- Four levels are left of five segments, the second of them present and empty.
example : (default : Dialect).parse ['a', '.', '.', 'b', '.', 'c', '.', 'd'] =
    ⟨some ['a'], some [], some ['b'], some ['c']⟩ := by cbv

end Dialect

end DottedNames
