import DottedNames.Name.Reading
import DottedNames.Name.Rendering
import DottedNames.Proofs.Levels
import DottedNames.Proofs.Splitting

set_option autoImplicit false

namespace DottedNames

namespace Dialect

variable (dialect : Dialect)

def IsFaithful (value : Text) (style : Style) : Prop :=
  dialect.IsSegment (dialect.renderSegment value style) ∧
    dialect.decodeSegment (dialect.renderSegment value style) = value

theorem tryParse_of_split {text : Text} {raw : List Text} (read : dialect.split text = .ok raw) :
    dialect.tryParse text = .ok (dialect.nameOfSegments raw) := by
  unfold tryParse
  rw [read]
  rfl

theorem tryParse_of_split_error {text : Text} {error : SplitError}
    (failed : dialect.split text = .error error) : dialect.tryParse text = .error error := by
  unfold tryParse
  rw [failed]
  rfl

theorem exists_split_of_tryParse {text : Text} {name : QualifiedName}
    (read : dialect.tryParse text = .ok name) :
    ∃ raw, dialect.split text = .ok raw ∧ dialect.nameOfSegments raw = name := by
  unfold tryParse at read
  cases result : dialect.split text with
  | error error =>
      rw [result] at read
      cases read
  | ok raw =>
      rw [result] at read
      exact ⟨raw, rfl, Except.ok.inj read⟩

/-- If the levels of a name are read back from a text, they are the values of its first segments. -/
theorem exists_split_of_read_back {text : Text} {name : QualifiedName}
    (read : dialect.tryParse text = .ok (.ofSegments name.segments)) :
    ∃ raw, dialect.split text = .ok raw ∧ name.segments <+: raw.map dialect.decodeSegment := by
  obtain ⟨raw, split, same⟩ := dialect.exists_split_of_tryParse read
  have levels := congrArg QualifiedName.segments same
  rw [nameOfSegments, QualifiedName.segments_ofSegments, QualifiedName.segments_ofSegments,
    QualifiedName.take_segments] at levels
  refine ⟨raw, split, ?_⟩
  rw [← levels]
  exact List.take_prefix 4 _

theorem parse_of_tryParse {text : Text} {name : QualifiedName}
    (read : dialect.tryParse text = .ok name) : dialect.parse text = name := by
  unfold parse
  rw [read]

theorem tryParse_render {name : QualifiedName} {style : Style}
    (faithful : ∀ value ∈ name.segments, dialect.IsFaithful value style)
    (filled : ∀ value ∈ name.segments.getLast?, dialect.renderSegment value style ≠ []) :
    dialect.tryParse (dialect.render name style) = .ok (.ofSegments name.segments) := by
  have valid : ∀ raw ∈ name.segments.map (dialect.renderSegment · style),
      dialect.IsSegment raw := by
    intro raw member
    obtain ⟨value, inside, rfl⟩ := List.mem_map.mp member
    exact (faithful value inside).1
  have last : (name.segments.map (dialect.renderSegment · style)).getLast? ≠ some [] := by
    intro empty
    rw [List.getLast?_map] at empty
    obtain ⟨value, last, nothing⟩ := Option.map_eq_some_iff.mp empty
    exact filled value last nothing
  have decoded : (name.segments.map (dialect.renderSegment · style)).map dialect.decodeSegment =
      name.segments := by
    rw [List.map_map]
    exact map_eq_self_iff.mpr fun value member => (faithful value member).2
  have read := dialect.tryParse_of_split (split_join valid last)
  rw [nameOfSegments, decoded] at read
  exact read

theorem decodeSegment_of_isBare {raw : Text} (bare : dialect.IsBare raw) :
    dialect.decodeSegment raw = dialect.undoubleQuotes raw := by
  rw [decodeSegment, stripQuotes_of_head_ne dialect bare.2]

/-- A segment that stands for itself is bare and holds no pair of quotes. -/
theorem isSegment_and_decodeSegment_eq_self_iff {raw : Text} :
    dialect.IsSegment raw ∧ dialect.decodeSegment raw = raw ↔
      dialect.IsBare raw ∧ ¬ [dialect.quote, dialect.quote] <:+: raw := by
  constructor
  · intro kept
    obtain ⟨bare | quoted, decoded⟩ := kept
    · rw [decodeSegment_of_isBare dialect bare] at decoded
      exact ⟨bare, dialect.undoubleQuotes_eq_self_iff.mp decoded⟩
    · have written := dialect.isQuoted_iff.mp quoted
      rw [decoded] at written
      exact absurd written.symm (dialect.quoteSegment_ne_self raw)
  · intro shape
    obtain ⟨bare, apart⟩ := shape
    refine ⟨.inl bare, ?_⟩
    rw [decodeSegment_of_isBare dialect bare]
    exact dialect.undoubleQuotes_eq_self_iff.mpr apart

theorem isFaithful_quoted (value : Text) : dialect.IsFaithful value .quoted :=
  ⟨.inr (dialect.isQuoted_quoteSegment value), dialect.decodeSegment_quoteSegment value⟩

theorem tryParse_render_quoted (name : QualifiedName) :
    dialect.tryParse (dialect.render name .quoted) = .ok (.ofSegments name.segments) :=
  dialect.tryParse_render (fun value _ => dialect.isFaithful_quoted value)
    fun _ _ => List.cons_ne_nil _ _

theorem not_hasGap_parse (text : Text) : ¬ (dialect.parse text).HasGap := by
  cases read : dialect.split text with
  | ok raw =>
      rw [dialect.parse_of_split_ok read]
      exact QualifiedName.not_hasGap_ofSegments _
  | error error =>
      rw [dialect.parse_of_split_error read]
      exact QualifiedName.not_hasGap_ofSegments []

/-- A name that was read has no gap, so its quoted form reads as the same name. -/
theorem parse_render_quoted_parse (text : Text) :
    dialect.parse (dialect.render (dialect.parse text) .quoted) = dialect.parse text := by
  rw [dialect.parse_of_tryParse (dialect.tryParse_render_quoted _)]
  exact QualifiedName.ofSegments_segments_eq_iff.mpr (dialect.not_hasGap_parse text)

/-- A quoted name is read back without the levels behind a gap, so only a name with a gap changes.
The lenient reading gives the same and takes no name that has a database for an empty one. -/
theorem render_quoted_round_trip (name : QualifiedName) :
    dialect.tryParse (dialect.render name .quoted) = .ok (.ofSegments name.segments) ∧
      (dialect.tryParse (dialect.render name .quoted) = .ok name ↔ ¬ name.HasGap) ∧
      dialect.parse (dialect.render name .quoted) = .ofSegments name.segments ∧
      ((dialect.parse (dialect.render name .quoted)).isEmpty = true ↔ name.database = none) := by
  have read := dialect.tryParse_render_quoted name
  have lenient := dialect.parse_of_tryParse read
  refine ⟨read, ?_, lenient, ?_⟩
  · rw [read, ← QualifiedName.ofSegments_segments_eq_iff]
    exact ⟨fun same => Except.ok.inj same, fun same => congrArg Except.ok same⟩
  · rw [lenient, QualifiedName.isEmpty_ofSegments_segments]
    exact Option.isNone_iff_eq_none

end Dialect

end DottedNames
