import DottedNames.Proofs.RoundTrip

set_option autoImplicit false

namespace DottedNames

open Text (terminated)

namespace Dialect

variable (dialect : Dialect)

theorem stripQuotes_sublist (text : Text) : (dialect.stripQuotes text).Sublist text := by
  cases text with
  | nil => exact .refl _
  | cons first rest =>
      by_cases closed : first = dialect.quote ∧ rest.getLast? = some dialect.quote
      · simp only [stripQuotes, closed, and_self, ↓reduceIte]
        exact .cons _ (List.dropLast_sublist rest)
      · simp only [stripQuotes, closed, ↓reduceIte]
        exact .refl _

theorem decodeSegment_sublist (raw : Text) : (dialect.decodeSegment raw).Sublist raw :=
  (dialect.undoubleQuotes_sublist _).trans (dialect.stripQuotes_sublist raw)

theorem length_terminated_le_of_prefix {values segments : List Text}
    (back : values <+: segments.map dialect.decodeSegment) :
    (terminated values).length ≤ (terminated segments).length := by
  induction segments generalizing values with
  | nil =>
      obtain rfl := List.prefix_nil.mp back
      exact Nat.le_refl _
  | cons raw segments ih =>
      cases values with
      | nil => exact Nat.zero_le _
      | cons value values =>
          obtain ⟨rfl, later⟩ := List.cons_prefix_cons.mp back
          have shorter := (dialect.decodeSegment_sublist raw).length_le
          have laterShorter := ih later
          simp only [terminated, List.flatMap_cons, List.length_append] at laterShorter ⊢
          omega

/-- Values that take no less room than the segments they were decoded from are these segments. -/
theorem eq_of_prefix_of_length_le {values segments : List Text}
    (back : values <+: segments.map dialect.decodeSegment)
    (long : (terminated segments).length ≤ (terminated values).length) : values = segments := by
  induction segments generalizing values with
  | nil => exact List.prefix_nil.mp back
  | cons raw segments ih =>
      cases values with
      | nil =>
          simp only [terminated, List.flatMap_cons, List.flatMap_nil, List.length_append,
            List.length_singleton, List.length_nil] at long
          omega
      | cons value values =>
          obtain ⟨rfl, later⟩ := List.cons_prefix_cons.mp back
          have shorter := (dialect.decodeSegment_sublist raw).length_le
          have laterShorter := dialect.length_terminated_le_of_prefix later
          simp only [terminated, List.flatMap_cons, List.length_append] at long laterShorter
          have kept := (dialect.decodeSegment_sublist raw).eq_of_length_le (by omega)
          rw [kept, ih later (by simp only [terminated]; omega)]

/-- If the levels of a name are read back from their own text, that text is split into them. -/
theorem segments_eq_of_read_back {values segments : List Text}
    (read : dialect.split ([separator].intercalate values) = .ok segments)
    (back : values <+: segments.map dialect.decodeSegment) : segments = values := by
  rcases List.eq_nil_or_concat' values with rfl | ⟨front, last, rfl⟩
  · have nothing : dialect.split [] = .ok [] := split_eq_ok_nil_iff.mpr rfl
    exact Except.ok.inj (read.symm.trans nothing)
  · have bound := length_terminated_le_of_split read
    have room := congrArg List.length (Text.terminated_concat front last)
    rw [List.length_append, List.length_singleton] at room
    exact (dialect.eq_of_prefix_of_length_le back (room ▸ bound)).symm

theorem getLast?_ne_of_split_join {values : List Text}
    (read : dialect.split ([separator].intercalate values) = .ok values) :
    values.getLast? ≠ some [] := by
  rcases reads_or_isCut_of_split read with reads | ⟨front, last, rfl, cut, _⟩
  · rcases List.eq_nil_or_concat' values with rfl | ⟨front, last, rfl⟩
    · exact fun none => nomatch none
    · have whole := reads.whole
      rw [List.append_nil, Text.terminated_concat] at whole
      exact nomatch List.self_eq_append_right.mp whole
  · rw [List.getLast?_concat]
    exact fun empty => cut.filled (Option.some.inj empty)

theorem isFaithful_unquoted_iff {value : Text} :
    dialect.IsFaithful value .unquoted ↔
      separator ∉ value ∧ value.head? ≠ some dialect.quote ∧
        ¬ [dialect.quote, dialect.quote] <:+: value :=
  dialect.isSegment_and_decodeSegment_eq_self_iff.trans and_assoc

/-- A name is read back from its unquoted form exactly if no level of it holds a separator, starts
with a quote or has two quotes side by side, and its last level is not the empty text. -/
theorem tryParse_render_unquoted_iff (name : QualifiedName) :
    dialect.tryParse (dialect.render name .unquoted) = .ok (.ofSegments name.segments) ↔
      (∀ value ∈ name.segments, separator ∉ value ∧ value.head? ≠ some dialect.quote ∧
        ¬ [dialect.quote, dialect.quote] <:+: value) ∧ name.segments.getLast? ≠ some [] := by
  have verbatim : dialect.render name .unquoted = [separator].intercalate name.segments := by
    unfold render
    exact congrArg _ (List.map_id _)
  constructor
  · intro read
    obtain ⟨raw, split, back⟩ := dialect.exists_split_of_read_back read
    rw [verbatim] at split
    obtain rfl := dialect.segments_eq_of_read_back split back
    have decoded : name.segments.map dialect.decodeSegment = name.segments.map id := by
      rw [List.map_id]
      exact (back.eq_of_length (List.length_map _).symm).symm
    refine ⟨fun value member => ?_, dialect.getLast?_ne_of_split_join split⟩
    apply dialect.isFaithful_unquoted_iff.mp
    exact ⟨isSegment_of_split split value member, List.map_inj_left.mp decoded value member⟩
  · intro shape
    obtain ⟨faithful, filled⟩ := shape
    apply dialect.tryParse_render
    · exact fun value member => dialect.isFaithful_unquoted_iff.mpr (faithful value member)
    · intro value last empty
      exact filled (last.trans (congrArg some empty))

end Dialect

end DottedNames
