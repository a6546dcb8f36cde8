import DottedNames.Proofs.Grammar
import Mathlib.Data.List.Basic

set_option autoImplicit false

namespace DottedNames

open Text (terminated)

namespace Dialect

variable (dialect : Dialect)

/-- A text cut into raw segments, each with a separator behind it, and a rest that is not empty. -/
structure IsCut (text : Text) (segments : List Text) (rest : Text) : Prop where
  valid : ∀ raw ∈ segments, dialect.IsSegment raw
  whole : text = terminated segments ++ rest
  filled : rest ≠ []

variable {dialect}

theorem Reads.isCut {text rest : Text} {segments : List Text} {ending : Ending}
    (reads : dialect.Reads text segments rest) (ends : dialect.Ends rest ending) :
    dialect.IsCut text segments rest :=
  ⟨reads.valid, reads.whole, ends.ne_nil⟩

theorem IsCut.reads {text rest : Text} {segments : List Text}
    (cut : dialect.IsCut text segments rest) : dialect.Reads text segments rest := by
  rw [cut.whole]
  exact reads_terminated_append cut.valid fun empty => absurd empty cut.filled

theorem IsCut.scan_eq {text rest : Text} {segments : List Text} {ending : Ending}
    (cut : dialect.IsCut text segments rest) (ends : dialect.Ends rest ending) :
    dialect.scan text = ⟨segments, ending⟩ := by
  rw [cut.reads.scan_eq, ends.scan_eq, List.append_nil]

/-- A text has one cut at most at which a scan can end, and it ends there in one way only. -/
theorem IsCut.unique {text front back : Text} {before after : List Text} {first second : Ending}
    (cut : dialect.IsCut text before front) (ends : dialect.Ends front first)
    (other : dialect.IsCut text after back) (otherEnds : dialect.Ends back second) :
    after = before ∧ back = front ∧ second = first := by
  have same := (other.scan_eq otherEnds).symm.trans (cut.scan_eq ends)
  cases same
  exact ⟨rfl, List.append_cancel_left (other.whole.symm.trans cut.whole), rfl⟩

theorem Reads.split_eq {text : Text} {segments : List Text}
    (reads : dialect.Reads text segments []) : dialect.split text = .ok segments := by
  unfold split
  rw [reads.scan_eq, scan_nil]
  simp only [Scan.result, List.append_nil, Option.toList_none]

theorem Reads.split_eq_append {text rest : Text} {segments later : List Text}
    (reads : dialect.Reads text segments rest) (success : dialect.split rest = .ok later) :
    dialect.split text = .ok (segments ++ later) := by
  unfold split at success ⊢
  rw [reads.scan_eq]
  generalize dialect.scan rest = scan at success
  obtain ⟨separated, ending⟩ := scan
  cases ending with
  | complete last =>
      cases success
      simp only [Scan.result, List.append_assoc]
  | malformed cause offending => cases success

/-- Behind segments that were read a text fails as its rest does, and reports them as well. -/
theorem Reads.split_eq_error {text rest : Text} {segments : List Text} {error : SplitError}
    (reads : dialect.Reads text segments rest) (failed : dialect.split rest = .error error) :
    dialect.split text = .error ⟨text, error.cause, segments ++ error.recovered⟩ := by
  unfold split at failed ⊢
  rw [reads.scan_eq]
  generalize dialect.scan rest = scan at failed
  obtain ⟨separated, ending⟩ := scan
  cases ending with
  | complete last => cases failed
  | malformed cause offending =>
      cases failed
      simp only [Scan.result, List.append_assoc]

theorem IsCut.split_eq {text last : Text} {segments : List Text}
    (cut : dialect.IsCut text segments last) (segment : dialect.IsSegment last) :
    dialect.split text = .ok (segments ++ [last]) := by
  unfold split
  rw [cut.scan_eq (.segment cut.filled segment)]
  rfl

theorem IsCut.split_eq_error {text rest : Text} {segments : List Text} {cause : Malformation}
    {reported : Option Text} (cut : dialect.IsCut text segments rest)
    (ends : dialect.Ends rest (.malformed cause reported)) :
    dialect.split text = .error ⟨text, cause, segments ++ reported.toList⟩ := by
  unfold split
  rw [cut.scan_eq ends]
  rfl

theorem split_join {segments : List Text}
    (valid : ∀ raw ∈ segments, dialect.IsSegment raw) (filled : segments.getLast? ≠ some []) :
    dialect.split ([separator].intercalate segments) = .ok segments := by
  rcases List.eq_nil_or_concat' segments with rfl | ⟨front, last, rfl⟩
  · exact Reads.split_eq .done
  · rw [List.getLast?_concat] at filled
    obtain ⟨valid, segment⟩ := List.forall_mem_append.mp valid
    have cut : dialect.IsCut ([separator].intercalate (front ++ [last])) front last :=
      ⟨valid, Text.intercalate_concat front last, fun empty => filled (congrArg some empty)⟩
    exact cut.split_eq (segment last (List.mem_singleton_self last))

theorem split_join_append_separator {segments : List Text} {last : Text}
    (valid : ∀ raw ∈ segments, dialect.IsSegment raw) (ends : segments.getLast? = some last)
    (quoted : dialect.IsQuoted last) :
    dialect.split ([separator].intercalate segments ++ [separator]) = .ok segments := by
  have dangling : ([] : Text) = [] → ∀ each ∈ segments.getLast?, dialect.IsQuoted each := by
    intro _ each member
    rw [ends] at member
    cases member
    exact quoted
  have reads := reads_terminated_append valid dangling
  rw [List.append_nil] at reads
  rcases List.eq_nil_or_concat' segments with rfl | ⟨front, back, rfl⟩
  · cases ends
  · rw [← Text.terminated_concat]
    exact reads.split_eq

variable (dialect)

theorem reads_or_isCut (text : Text) :
    (∃ segments, dialect.Reads text segments []) ∨
      (∃ segments last, dialect.IsCut text segments last ∧ dialect.IsSegment last) ∨
      ∃ segments rest cause reported, dialect.IsCut text segments rest ∧
        dialect.Ends rest (.malformed cause reported) := by
  obtain ⟨rest, reads, ⟨rfl, _⟩ | ends⟩ := dialect.reads_scan text
  · exact .inl ⟨_, reads⟩
  · have cut := reads.isCut ends
    generalize (dialect.scan text).ending = ending at ends
    cases ending with
    | complete last =>
        cases ends with
        | segment _ segment => exact .inr (.inl ⟨_, rest, cut, segment⟩)
    | malformed cause reported => exact .inr (.inr ⟨_, rest, cause, reported, cut, ends⟩)

variable {dialect}

theorem reads_or_isCut_of_split {text : Text} {segments : List Text}
    (success : dialect.split text = .ok segments) :
    dialect.Reads text segments [] ∨
      ∃ front last, segments = front ++ [last] ∧ dialect.IsCut text front last ∧
        dialect.IsSegment last := by
  rcases dialect.reads_or_isCut text with
    ⟨read, reads⟩ | ⟨front, last, cut, segment⟩ | ⟨front, rest, cause, reported, cut, ends⟩
  · rw [reads.split_eq] at success
    cases success
    exact .inl reads
  · rw [cut.split_eq segment] at success
    cases success
    exact .inr ⟨front, last, rfl, cut, segment⟩
  · rw [cut.split_eq_error ends] at success
    cases success

/-- Text that is not empty has a segment or is malformed. -/
theorem split_eq_ok_nil_iff {text : Text} : dialect.split text = .ok [] ↔ text = [] := by
  constructor
  · intro read
    rcases reads_or_isCut_of_split read with reads | ⟨front, last, whole, _⟩
    · exact reads.whole
    · exact absurd whole.symm (List.concat_ne_nil last front)
  · rintro rfl
    exact Reads.split_eq .done

theorem isSegment_of_split {text : Text} {segments : List Text}
    (success : dialect.split text = .ok segments) : ∀ raw ∈ segments, dialect.IsSegment raw := by
  rcases reads_or_isCut_of_split success with reads | ⟨front, last, rfl, cut, segment⟩
  · exact reads.valid
  · exact List.forall_mem_append.mpr ⟨cut.valid, List.forall_mem_singleton.mpr segment⟩

/-- Every segment takes its place in the text with a separator behind it, but the last one may lack
the separator. -/
theorem length_terminated_le_of_split {text : Text} {segments : List Text}
    (success : dialect.split text = .ok segments) :
    (terminated segments).length ≤ text.length + 1 := by
  rcases reads_or_isCut_of_split success with reads | ⟨front, last, rfl, cut, _⟩
  · rw [reads.whole, List.append_nil]
    exact Nat.le_succ _
  · apply Nat.le_of_eq
    rw [Text.terminated_concat, Text.intercalate_concat, ← cut.whole, List.length_append,
      List.length_singleton]

theorem isCut_of_split_error {text : Text} {error : SplitError}
    (failed : dialect.split text = .error error) :
    ∃ segments rest reported, dialect.IsCut text segments rest ∧
      dialect.Ends rest (.malformed error.cause reported) ∧
      error = ⟨text, error.cause, segments ++ reported.toList⟩ := by
  rcases dialect.reads_or_isCut text with
    ⟨read, reads⟩ | ⟨front, last, cut, segment⟩ | ⟨front, rest, cause, reported, cut, ends⟩
  · rw [reads.split_eq] at failed
    cases failed
  · rw [cut.split_eq segment] at failed
    cases failed
  · rw [cut.split_eq_error ends] at failed
    cases failed
    exact ⟨front, rest, reported, cut, ends, rfl⟩

/-- A text splits off its first segment, at its end or at a separator, and the rest splits alone. -/
theorem split_eq_ok_cons {text raw : Text} {segments : List Text}
    (success : dialect.split text = .ok (raw :: segments)) :
    dialect.Ends text (.complete (some raw)) ∨
      ∃ rest, dialect.Opens text (.separated raw rest) ∧ dialect.split rest = .ok segments := by
  rcases reads_or_isCut_of_split success with reads | ⟨front, last, whole, cut, segment⟩
  · cases reads with
    | separated opens later => exact .inr ⟨_, opens, later.split_eq⟩
  · have reads := cut.reads
    cases reads with
    | done =>
        cases whole
        exact .inl (.segment cut.filled segment)
    | separated opens later =>
        cases whole
        exact .inr ⟨_, opens, (later.isCut (.segment cut.filled segment)).split_eq segment⟩

variable (dialect)

/-- Splitting succeeds on texts of three shapes and gives the segments that they show: the empty
text, segments with separators between them and the last one not empty, and segments of which the
last one is quoted with one more separator behind it. -/
theorem split_eq_ok_iff {text : Text} {segments : List Text} :
    dialect.split text = .ok segments ↔
      (text = [] ∧ segments = []) ∨
      (segments ≠ [] ∧ (∀ raw ∈ segments, dialect.IsBare raw ∨ dialect.IsQuoted raw) ∧
        segments.getLast? ≠ some [] ∧ text = [separator].intercalate segments) ∨
      (segments ≠ [] ∧ (∀ raw ∈ segments, dialect.IsBare raw ∨ dialect.IsQuoted raw) ∧
        (∃ last, segments.getLast? = some last ∧ dialect.IsQuoted last) ∧
        text = [separator].intercalate segments ++ [separator]) := by
  constructor
  · intro success
    rcases reads_or_isCut_of_split success with reads | ⟨front, last, rfl, cut, segment⟩
    · have whole := reads.whole
      rw [List.append_nil] at whole
      rcases List.eq_nil_or_concat' segments with rfl | ⟨front, last, rfl⟩
      · exact .inl ⟨whole, rfl⟩
      · have quoted := reads.isQuoted_getLast rfl last List.getLast?_concat
        rw [Text.terminated_concat] at whole
        exact .inr (.inr ⟨List.concat_ne_nil last front,
          reads.valid, ⟨last, List.getLast?_concat, quoted⟩, whole⟩)
    · have valid : ∀ raw ∈ front ++ [last], dialect.IsSegment raw :=
        List.forall_mem_append.mpr ⟨cut.valid, List.forall_mem_singleton.mpr segment⟩
      refine .inr (.inl ⟨List.concat_ne_nil last front, valid, ?_, ?_⟩)
      · rw [List.getLast?_concat]
        exact fun same => cut.filled (Option.some.inj same)
      · rw [Text.intercalate_concat]
        exact cut.whole
  · intro shape
    rcases shape with
      ⟨rfl, rfl⟩ | ⟨_, valid, filled, rfl⟩ | ⟨_, valid, ⟨last, ends, quoted⟩, rfl⟩
    · exact Reads.split_eq .done
    · exact split_join valid filled
    · exact split_join_append_separator valid ends quoted

example : (default : Dialect).split "\"a\".".toList = .ok ["\"a\"".toList] := by cbv

/-- Splitting fails exactly where a cut leaves a malformed rest. The cut is the only one of the text
at which a scan can end, and the malformation the only thing that ends it there. -/
theorem split_eq_error_iff {text : Text} {error : SplitError} :
    dialect.split text = .error error ↔
      error.input = text ∧ ∃ segments rest reported,
        dialect.IsCut text segments rest ∧
        dialect.Ends rest (.malformed error.cause reported) ∧
        error.recovered = segments ++ reported.toList ∧
        ∀ others back ending, dialect.IsCut text others back → dialect.Ends back ending →
          others = segments ∧ back = rest ∧ ending = .malformed error.cause reported := by
  constructor
  · intro failed
    obtain ⟨segments, rest, reported, cut, ends, whole⟩ := isCut_of_split_error failed
    exact ⟨congrArg SplitError.input whole, segments, rest, reported, cut, ends,
      congrArg SplitError.recovered whole,
      fun _ _ _ other otherEnds => cut.unique ends other otherEnds⟩
  · intro place
    obtain ⟨rfl, segments, rest, reported, cut, ends, recovered, _⟩ := place
    rw [cut.split_eq_error ends, ← recovered]

end Dialect

end DottedNames
