import DottedNames.Name

set_option autoImplicit false

namespace DottedNames

theorem getElem?_leading {α : Type} (values : List (Option α)) (i : Nat)
    (present : ∀ j < i, values[j]? ≠ some none) : (leading values)[i]? = values[i]?.join := by
  induction values generalizing i with
  | nil => rfl
  | cons value values ih =>
      cases value with
      | none =>
          cases i with
          | zero => rfl
          | succ i => exact absurd rfl (present 0 (Nat.succ_pos i))
      | some value =>
          cases i with
          | zero => rfl
          | succ i => exact ih i fun j below => present (j + 1) (Nat.succ_lt_succ below)

theorem length_leading_le {α : Type} {values : List (Option α)} {i : Nat}
    (absent : values[i]? = some none) : (leading values).length ≤ i := by
  induction values generalizing i with
  | nil => cases absent
  | cons value values ih =>
      cases value with
      | none => exact Nat.zero_le i
      | some value =>
          cases i with
          | zero => cases absent
          | succ i => exact Nat.succ_le_succ (ih absent)

theorem length_leading_le_length {α : Type} (values : List (Option α)) :
    (leading values).length ≤ values.length := by
  induction values with
  | nil => exact Nat.le_refl 0
  | cons value values ih =>
      cases value with
      | none => exact Nat.zero_le _
      | some value => exact Nat.succ_le_succ ih

theorem Level.exists_rank_eq {i : Nat} {level : Level} (outside : i < level.rank) :
    ∃ outer : Level, outer.rank = i := by
  have bound : level.rank ≤ 3 := by cases level <;> decide
  match i with
  | 0 => exact ⟨.database, rfl⟩
  | 1 => exact ⟨.schema, rfl⟩
  | 2 => exact ⟨.table, rfl⟩
  | i + 3 => omega

namespace QualifiedName

/-- A level is absent and one inside it is not. -/
def HasGap (name : QualifiedName) : Prop :=
  ∃ outer inner : Level, outer.rank < inner.rank ∧ name.get outer = none ∧ name.get inner ≠ none

theorem get_ofSegments (segments : List Text) (level : Level) :
    (ofSegments segments).get level = segments[level.rank]? := by
  cases level <;> rfl

theorem getElem?_levels (name : QualifiedName) (level : Level) :
    (Level.all.map name.get)[level.rank]? = some (name.get level) := by
  cases level <;> rfl

theorem not_hasGap_ofSegments (segments : List Text) : ¬ (ofSegments segments).HasGap := by
  intro gap
  obtain ⟨outer, inner, inside, absent, present⟩ := gap
  rw [get_ofSegments] at absent present
  have short := List.getElem?_eq_none_iff.mp absent
  exact present (List.getElem?_eq_none_iff.mpr (by omega))

theorem get_ofSegments_segments {name : QualifiedName} (gapless : ¬ name.HasGap) (level : Level) :
    (ofSegments name.segments).get level = name.get level := by
  rw [get_ofSegments, segments]
  by_cases cut : ∃ outer : Level, outer.rank < level.rank ∧ name.get outer = none
  · obtain ⟨outer, outside, absent⟩ := cut
    have here : name.get level = none :=
      Decidable.of_not_not fun present => gapless ⟨outer, level, outside, absent, present⟩
    have short := length_leading_le ((name.getElem?_levels outer).trans (congrArg some absent))
    rw [here]
    exact List.getElem?_eq_none_iff.mpr (by omega)
  · rw [getElem?_leading, getElem?_levels]
    · rfl
    · intro i outside absent
      obtain ⟨outer, rfl⟩ := Level.exists_rank_eq outside
      rw [getElem?_levels] at absent
      exact cut ⟨outer, outside, Option.some.inj absent⟩

theorem ofSegments_segments_eq_iff {name : QualifiedName} :
    ofSegments name.segments = name ↔ ¬ name.HasGap := by
  constructor
  · intro same
    rw [← same]
    exact not_hasGap_ofSegments name.segments
  · exact fun gapless => ext_get (get_ofSegments_segments gapless)

theorem take_segments (name : QualifiedName) : name.segments.take 4 = name.segments := by
  apply List.take_of_length_le
  exact length_leading_le_length (Level.all.map name.get)

theorem segments_ne_nil {name : QualifiedName} (populated : name.database ≠ none) :
    name.segments ≠ [] := by
  obtain ⟨value, present⟩ := Option.ne_none_iff_exists'.mp populated
  have first : name.segments = value :: leading [name.schema, name.table, name.column] := by
    simp only [segments, Level.all, List.map_cons, List.map_nil, get, present, leading]
  rw [first]
  exact List.cons_ne_nil _ _

theorem isEmpty_ofSegments_segments (name : QualifiedName) :
    (ofSegments name.segments).isEmpty = name.isEmpty := by
  have first := getElem?_leading (Level.all.map name.get) 0 fun _ below => nomatch below
  exact congrArg Option.isNone first

end QualifiedName

end DottedNames
