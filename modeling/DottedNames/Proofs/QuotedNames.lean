import DottedNames.Proofs.RoundTrip
import DottedNames.Proofs.Templates
import Mathlib.Data.List.TakeDrop

set_option autoImplicit false

namespace DottedNames

namespace Statement

def dottedTemplate (count : Nat) : Text :=
  [separator].intercalate (List.replicate count ['{', '}'])

/-- What is inserted into such a template: each value but the last has a separator behind it. -/
def dottedInsertions : List Text → List Insertion
  | [] => []
  | [value] => [⟨value, []⟩]
  | value :: next :: rest => ⟨value, [separator]⟩ :: dottedInsertions (next :: rest)

theorem map_value_dottedInsertions (values : List Text) :
    (dottedInsertions values).map Insertion.value = values := by
  fun_induction dottedInsertions values with
  | case1 => rfl
  | case2 value => rfl
  | case3 value next rest ih => exact congrArg (value :: ·) ih

theorem writtenTemplate_dottedInsertions (values : List Text) :
    writtenTemplate [] (dottedInsertions values) = dottedTemplate values.length := by
  fun_induction dottedInsertions values with
  | case1 => rfl
  | case2 value => rfl
  | case3 value next rest ih => exact congrArg (['{', '}', separator] ++ ·) ih

end Statement

open Statement

namespace Dialect

variable (dialect : Dialect)

def joinQuoted (values : List Text) : Text :=
  [separator].intercalate (values.map dialect.quoteSegment)

theorem render_quoted (name : QualifiedName) :
    dialect.render name .quoted = dialect.joinQuoted name.segments := rfl

theorem joinQuoted_cons_cons (value next : Text) (rest : List Text) :
    dialect.joinQuoted (value :: next :: rest) =
      dialect.quoteSegment value ++ [separator] ++ dialect.joinQuoted (next :: rest) :=
  List.intercalate_cons_cons

theorem filledTemplate_dottedInsertions (values : List Text) :
    filledTemplate dialect [] (dottedInsertions values) = dialect.joinQuoted values := by
  fun_induction dottedInsertions values with
  | case1 => rfl
  | case2 value =>
      simp only [filledTemplate, joinQuoted, List.flatMap_singleton, List.map_cons, List.map_nil,
        List.intercalate_singleton, List.append_nil, List.nil_append]
  | case3 value next rest ih =>
      rw [dialect.joinQuoted_cons_cons, ← ih]
      rfl

theorem quoteForStatement_dottedTemplate (values : List Text) :
    dialect.quoteForStatement (dottedTemplate values.length) values =
      .ok (dialect.joinQuoted values) := by
  have filled := dialect.quoteForStatement_writtenTemplate [] (dottedInsertions values)
  rw [writtenTemplate_dottedInsertions, map_value_dottedInsertions,
    filledTemplate_dottedInsertions] at filled
  exact filled

theorem isQuoted_of_mem_map_quoteSegment {values : List Text} {raw : Text}
    (member : raw ∈ values.map dialect.quoteSegment) : dialect.IsQuoted raw := by
  obtain ⟨value, _, rfl⟩ := List.mem_map.mp member
  exact dialect.isQuoted_quoteSegment value

theorem split_joinQuoted (values : List Text) :
    dialect.split (dialect.joinQuoted values) = .ok (values.map dialect.quoteSegment) := by
  apply split_join
  · exact fun raw member => .inr (dialect.isQuoted_of_mem_map_quoteSegment member)
  · intro empty
    rw [List.getLast?_map] at empty
    obtain ⟨value, _, nothing⟩ := Option.map_eq_some_iff.mp empty
    cases nothing

theorem map_decodeSegment_map_quoteSegment (values : List Text) :
    (values.map dialect.quoteSegment).map dialect.decodeSegment = values := by
  rw [List.map_map]
  exact map_eq_self_iff.mpr fun value _ => dialect.decodeSegment_quoteSegment value

theorem tryParse_joinQuoted (values : List Text) :
    dialect.tryParse (dialect.joinQuoted values) = .ok (.ofSegments values) := by
  rw [dialect.tryParse_of_split (dialect.split_joinQuoted values), nameOfSegments,
    map_decodeSegment_map_quoteSegment]

theorem getLast?_joinQuoted {values : List Text} (filled : values ≠ []) :
    (dialect.joinQuoted values).getLast? = some dialect.quote := by
  rcases List.eq_nil_or_concat' values with rfl | ⟨front, last, rfl⟩
  · exact absurd rfl filled
  · rw [joinQuoted, List.map_append, List.map_singleton, Text.intercalate_concat, quoteSegment,
      ← List.append_assoc, List.getLast?_concat]

theorem joinQuoted_inj {first second : List Text} :
    dialect.joinQuoted first = dialect.joinQuoted second ↔ first = second := by
  constructor
  · intro same
    have read := dialect.split_joinQuoted first
    rw [same, split_joinQuoted] at read
    have decoded := congrArg (List.map dialect.decodeSegment) (Except.ok.inj read)
    rw [map_decodeSegment_map_quoteSegment, map_decodeSegment_map_quoteSegment] at decoded
    exact decoded.symm
  · exact congrArg dialect.joinQuoted

theorem render_ofSegments_quoted (values : List Text) :
    dialect.render (.ofSegments values) .quoted = dialect.joinQuoted (values.take 4) := by
  rw [render_quoted, QualifiedName.segments_ofSegments]

/-- Values that fill a template of as many placeholders with separators between them make the same
text as quoted values joined by separators. That text is split into all of them and read as the name
they fill. The name itself is written from the first four in the same way, so it makes the text if
there are no more. -/
theorem dotted_assemblies_agree (values : List Text) :
    dialect.quoteForStatement (dottedTemplate values.length) values =
        .ok (dialect.joinQuoted values) ∧
      dialect.split (dialect.joinQuoted values) = .ok (values.map dialect.quoteSegment) ∧
      dialect.tryParse (dialect.joinQuoted values) = .ok (.ofSegments values) ∧
      dialect.quoteForStatement (dottedTemplate (min values.length 4)) (values.take 4) =
        .ok (dialect.render (.ofSegments values) .quoted) ∧
      dialect.render (.ofSegments values) .quoted = dialect.joinQuoted (values.take 4) ∧
      (dialect.render (.ofSegments values) .quoted = dialect.joinQuoted values ↔
        values.length ≤ 4) := by
  have written := dialect.render_ofSegments_quoted values
  refine ⟨dialect.quoteForStatement_dottedTemplate values, dialect.split_joinQuoted values,
    dialect.tryParse_joinQuoted values, ?_, written, ?_⟩
  · have filled := dialect.quoteForStatement_dottedTemplate (values.take 4)
    rw [List.length_take, Nat.min_comm] at filled
    rw [written]
    exact filled
  · rw [written, joinQuoted_inj]
    exact List.take_eq_self_iff values

end Dialect

end DottedNames
