import DottedNames.Proofs.QuotedNames
import Mathlib.Logic.Function.Iterate

set_option autoImplicit false

namespace DottedNames

namespace Dialect

variable (dialect : Dialect)

theorem joinQuoted_append {first second : List Text} (filled : first ≠ []) (more : second ≠ []) :
    dialect.joinQuoted (first ++ second) =
      dialect.joinQuoted first ++ separator :: dialect.joinQuoted second := by
  have mapped : first.map dialect.quoteSegment ≠ [] := List.map_eq_nil_iff.not.mpr filled
  have others : second.map dialect.quoteSegment ≠ [] := List.map_eq_nil_iff.not.mpr more
  rw [joinQuoted, List.map_append, Text.intercalate_append mapped others, List.append_assoc,
    List.singleton_append]
  rfl

/-- Quoted values with a separator behind each of them are read, whatever comes then. -/
theorem reads_joinQuoted_append {values : List Text} (filled : values ≠ []) (rest : Text) :
    dialect.Reads (dialect.joinQuoted values ++ separator :: rest)
      (values.map dialect.quoteSegment) rest := by
  rw [joinQuoted, Text.intercalate_append_separator (List.map_eq_nil_iff.not.mpr filled)]
  exact reads_terminated_append
    (fun _ member => .inr (dialect.isQuoted_of_mem_map_quoteSegment member))
    fun _ _ ends => dialect.isQuoted_of_mem_map_quoteSegment (List.mem_of_getLast? ends)

/-- A text of quoted values goes on behind others of them only with more of its own values. -/
theorem joinQuoted_append_separator_prefix_iff {first second : List Text} (filled : first ≠ []) :
    dialect.joinQuoted first ++ [separator] <+: dialect.joinQuoted second ↔
      first <+: second ∧ first ≠ second := by
  constructor
  · rintro ⟨rest, whole⟩
    rw [List.append_assoc, List.singleton_append] at whole
    have reads := dialect.reads_joinQuoted_append filled rest
    have split := dialect.split_joinQuoted second
    rw [← whole] at split
    refine ⟨?_, ?_⟩
    · cases later : dialect.split rest with
      | error error => cases (reads.split_eq_error later).symm.trans split
      | ok segments =>
          have parts := Except.ok.inj ((reads.split_eq_append later).symm.trans split)
          have start : first.map dialect.quoteSegment <+: second.map dialect.quoteSegment :=
            ⟨segments, parts⟩
          have decoded := start.map dialect.decodeSegment
          rw [map_decodeSegment_map_quoteSegment, map_decodeSegment_map_quoteSegment] at decoded
          exact decoded
    · rintro rfl
      exact nomatch List.self_eq_append_right.mp whole.symm
  · rintro ⟨⟨more, rfl⟩, differ⟩
    have others : more ≠ [] := by
      rintro rfl
      exact differ (List.append_nil first).symm
    rw [joinQuoted_append dialect filled others]
    exact ⟨dialect.joinQuoted more, List.append_assoc _ _ _⟩

theorem joinQuoted_take_append_separator_prefix {values : List Text} {count : Nat}
    (filled : 0 < count) (fewer : count < values.length) :
    dialect.joinQuoted (values.take count) ++ [separator] <+: dialect.joinQuoted values := by
  have room : (values.take count).length = count :=
    List.length_take_of_le (Nat.le_of_lt fewer)
  have first : values.take count ≠ [] := by
    rw [← List.length_pos_iff, room]
    exact filled
  refine (dialect.joinQuoted_append_separator_prefix_iff first).mpr
    ⟨List.take_prefix _ _, fun same => ?_⟩
  rw [same] at room
  omega

end Dialect

namespace QualifiedName

theorem segments_ofSegments_take (name : QualifiedName) (count : Nat) :
    (ofSegments (name.segments.take count)).segments = name.segments.take count := by
  rw [segments_ofSegments, List.take_take, Nat.min_comm, ← List.take_take, take_segments]

/-- Going up once or more leaves the leading levels but as many of them, and no gap. -/
theorem iterate_parent (name : QualifiedName) (k : Nat) :
    parent^[k + 1] name = ofSegments (name.segments.take (name.depth - (k + 1))) := by
  induction k with
  | zero => exact congrArg ofSegments List.dropLast_eq_take
  | succ k ih =>
      have fewer : min (name.depth - (k + 1)) name.depth - 1 = name.depth - (k + 1 + 1) := by omega
      rw [Function.iterate_succ_apply', ih, parent, segments_ofSegments_take,
        List.dropLast_eq_take, List.length_take, ← depth, fewer, List.take_take, Nat.min_eq_left]
      omega

end QualifiedName

open QualifiedName (parent)

/-- A quoted name with a separator behind it stands at the start of another one exactly if its
leading levels are the first ones of the other but not all of them. Going up as often as one likes
keeps the first of the leading levels and no gap, so what is left is found there. -/
theorem Dialect.ancestor_iff_textual_prefix (dialect : Dialect) :
    (∀ outer inner : QualifiedName, outer.database ≠ none →
      (dialect.render outer .quoted ++ [separator] <+: dialect.render inner .quoted ↔
        outer.segments <+: inner.segments ∧ outer.segments ≠ inner.segments)) ∧
      ∀ (name : QualifiedName) (k : Nat), 1 ≤ k →
        parent^[k] name = .ofSegments (name.segments.take (name.depth - k)) ∧
          ¬ (parent^[k] name).HasGap ∧
          (k < name.depth → dialect.render (parent^[k] name) .quoted ++ [separator] <+:
            dialect.render name .quoted) := by
  constructor
  · intro outer inner populated
    rw [render_quoted, render_quoted]
    exact dialect.joinQuoted_append_separator_prefix_iff
      (QualifiedName.segments_ne_nil populated)
  · intro name k once
    have up : parent^[k] name = .ofSegments (name.segments.take (name.depth - k)) := by
      obtain ⟨times, rfl⟩ := Nat.exists_eq_add_of_le' once
      exact name.iterate_parent times
    rw [up]
    refine ⟨rfl, QualifiedName.not_hasGap_ofSegments _, fun inside => ?_⟩
    rw [render_quoted, render_quoted, QualifiedName.segments_ofSegments_take]
    rw [QualifiedName.depth] at inside ⊢
    exact dialect.joinQuoted_take_append_separator_prefix (by omega) (by omega)

/-- Levels behind a gap do not count, and a separator inside a level is none between levels. -/
theorem Dialect.ancestor_of_name_with_gap :
    let dialect : Dialect := {}
    let outer : QualifiedName := { database := some ['a', '.'], table := some ['t'] }
    let inner : QualifiedName :=
      { database := some ['a', '.'], schema := some ['"'], column := some ['c'] }
    (outer.database ≠ none ∧ 1 < inner.depth) ∧
      dialect.render outer .quoted ++ [separator] <+: dialect.render inner .quoted ∧
      parent^[1] inner = { database := some ['a', '.'] } ∧
      dialect.render (parent^[1] inner) .quoted ++ [separator] <+:
        dialect.render inner .quoted := by
  intro dialect outer inner
  have populated : outer.database ≠ none := by decide
  have inside : 1 < inner.depth := by decide
  obtain ⟨levels, up⟩ := dialect.ancestor_iff_textual_prefix
  obtain ⟨one, _, below⟩ := up inner 1 (Nat.le_refl 1)
  exact ⟨⟨populated, inside⟩, (levels outer inner populated).mpr (by decide), one, below inside⟩

end DottedNames
