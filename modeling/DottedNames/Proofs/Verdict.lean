import DottedNames.Manifest
import DottedNames.Proofs.RoundTrip

set_option autoImplicit false

namespace DottedNames

namespace Case

/-- The expectations on an input that splits: none of an error, and each of the others that is
stated is the answer to the input. -/
structure Meets (test : Case) (dialect : Dialect) (segments : List Text) : Prop where
  error : test.error = none
  segments : ∀ expected ∈ test.segments, expected = segments
  name : ∀ expected ∈ test.name, expected = dialect.parse test.input
  quoted : ∀ expected ∈ test.quoted,
    expected = dialect.render (dialect.parse test.input) .quoted
  unquoted : ∀ expected ∈ test.unquoted,
    expected = dialect.render (dialect.parse test.input) .unquoted
  minimal : ∀ expected ∈ test.minimal,
    expected = dialect.render (dialect.parse test.input) .minimal

/-- The causes of failure that no expectation stands behind. -/
def Failure.IsUnasked : Failure → Prop
  | .malformedNotEmpty _ _ | .roundTrip _ _ => True
  | _ => False

section Checks

variable {α β : Type} {first : Except Failure α} {next : α → Except Failure β}

theorem bind_eq_error {failure : Failure} (failed : (first >>= next) = .error failure) :
    first = .error failure ∨ ∃ value, first = .ok value ∧ next value = .error failure := by
  cases first with
  | error other =>
      cases failed
      exact .inl rfl
  | ok value => exact .inr ⟨value, rfl, failed⟩

variable [DecidableEq α] {expected : Option α} {actual : α} {cause : α → α → Failure}

theorem expect_eq_ok_iff {done : Unit} :
    expect expected actual cause = .ok done ↔ ∀ value ∈ expected, value = actual := by
  cases expected with
  | none => exact iff_of_true rfl nofun
  | some value =>
      by_cases same : value = actual
      · simp only [expect, same, ↓reduceIte, Option.mem_some_iff, forall_eq']
      · simp only [expect, same, ↓reduceIte, reduceCtorEq, Option.mem_some_iff, forall_eq']

theorem expect_eq_error {failure : Failure}
    (failed : expect expected actual cause = .error failure) :
    ∃ value, failure = cause value actual := by
  cases expected with
  | none => cases failed
  | some value =>
      unfold expect at failed
      dsimp only at failed
      split at failed
      · cases failed
      · exact ⟨value, (Except.error.inj failed).symm⟩

end Checks

variable {test : Case} {dialect : Dialect}

theorem dialect_eq_ok_iff : test.dialect = .ok dialect ↔ dialect.quote = test.quote.getD '"' := by
  unfold Case.dialect
  cases test.quote with
  | none =>
      constructor
      · intro same
        rw [← Except.ok.inj same]
        rfl
      · intro same
        have usual : dialect = default := Dialect.eq_of_quote_eq same
        rw [usual]
  | some quote =>
      change (Dialect.ofQuote quote).mapError Failure.dialect = .ok dialect ↔ dialect.quote = quote
      rw [← Dialect.ofQuote_eq_ok_iff]
      cases Dialect.ofQuote quote with
      | ok made => simp only [Except.mapError, Except.ok.injEq]
      | error error => exact iff_of_false nofun nofun

theorem dialect_eq_error {failure : Failure} (failed : test.dialect = .error failure) :
    ∃ error, failure = .dialect error := by
  unfold Case.dialect at failed
  split at failed
  · cases failed
  · rename_i quote _
    cases made : Dialect.ofQuote quote with
    | ok dialect =>
        rw [made] at failed
        cases failed
    | error error =>
        rw [made] at failed
        exact ⟨error, (Except.error.inj failed).symm⟩

theorem checkSegments_eq_ok_iff {segments : List Text} (silent : test.error = none) :
    test.checkSegments dialect segments = .ok () ↔ test.Meets dialect segments := by
  simp only [checkSegments, bind_eq_ok_iff, expect_eq_ok_iff, dialect.parse_render_quoted_parse,
    ↓reduceIte, exists_and_left, exists_const, and_true]
  constructor
  · rintro ⟨segments, name, quoted, unquoted, minimal⟩
    exact ⟨silent, segments, name, quoted, unquoted, minimal⟩
  · intro met
    exact ⟨met.segments, met.name, met.quoted, met.unquoted, met.minimal⟩

/-- What fails without an expectation behind it fails behind every expectation. -/
theorem failed_behind_expect {α β : Type} [DecidableEq α] {expected : Option α} {actual : α}
    {cause : α → α → Failure} {next : Unit → Except Failure β} {failure : Failure}
    (unasked : failure.IsUnasked) (asked : ∀ value, ¬ (cause value actual).IsUnasked)
    (failed : (expect expected actual cause >>= next) = .error failure) :
    next () = .error failure := by
  rcases bind_eq_error failed with failed | ⟨_, _, failed⟩
  · obtain ⟨value, rfl⟩ := expect_eq_error failed
    exact absurd unasked (asked value)
  · exact failed

theorem checkSegments_eq_error {segments : List Text} {failure : Failure}
    (failed : test.checkSegments dialect segments = .error failure) : ¬ failure.IsUnasked := by
  intro unasked
  simp only [checkSegments, dialect.parse_render_quoted_parse, ↓reduceIte] at failed
  have behindSegments := failed_behind_expect unasked (fun _ => id) failed
  have behindName := failed_behind_expect unasked (fun _ => id) behindSegments
  have behindQuoted := failed_behind_expect unasked (fun _ => id) behindName
  have behindUnquoted := failed_behind_expect unasked (fun _ => id) behindQuoted
  have behindMinimal := failed_behind_expect unasked (fun _ => id) behindUnquoted
  cases behindMinimal

theorem isEmpty_parse {error : SplitError} (malformed : dialect.split test.input = .error error) :
    (dialect.parse test.input).isEmpty = true := by
  rw [dialect.parse_of_split_error malformed]
  rfl

theorem checkError_eq_ok_iff {expected : Text} {actual : SplitError}
    (malformed : dialect.split test.input = .error actual) :
    test.checkError dialect expected actual = .ok () ↔ expected = actual.message := by
  simp only [checkError, isEmpty_parse malformed, ↓reduceIte]
  by_cases same : actual.message = expected
  · simp only [same, ↓reduceIte]
  · simp only [same, ↓reduceIte, reduceCtorEq, Ne.symm same]

theorem checkError_eq_error {expected : Text} {actual : SplitError} {failure : Failure}
    (malformed : dialect.split test.input = .error actual)
    (failed : test.checkError dialect expected actual = .error failure) :
    ¬ failure.IsUnasked := by
  simp only [checkError, isEmpty_parse malformed, ↓reduceIte] at failed
  split at failed
  · cases failed
  · cases failed
    exact id

/-- What splitting an input should give: the error that is stated, or segments that meet the other
expectations. -/
def IsAnswered (test : Case) (dialect : Dialect) : Prop :=
  (∃ error, dialect.split test.input = .error error ∧ test.error = some error.message) ∨
    ∃ segments, dialect.split test.input = .ok segments ∧ test.Meets dialect segments

theorem isAnswered_of_error {error : SplitError}
    (malformed : dialect.split test.input = .error error) :
    test.IsAnswered dialect ↔ test.error = some error.message := by
  simp only [IsAnswered, malformed, Except.error.injEq, reduceCtorEq, false_and, exists_false,
    or_false, exists_eq_left']

theorem isAnswered_of_ok {segments : List Text} (read : dialect.split test.input = .ok segments) :
    test.IsAnswered dialect ↔ test.Meets dialect segments := by
  simp only [IsAnswered, read, Except.ok.injEq, reduceCtorEq, false_and, exists_false, false_or,
    exists_eq_left']

theorem check_eq_ok_iff :
    test.check = .ok () ↔ ∃ dialect : Dialect, dialect.quote = test.quote.getD '"' ∧
      (∀ expected ∈ test.simple, expected = Text.isSimpleName test.input) ∧
        test.IsAnswered dialect := by
  simp only [check, bind_eq_ok_iff, dialect_eq_ok_iff, expect_eq_ok_iff, exists_and_left,
    exists_const]
  refine exists_congr fun dialect => and_congr_right fun _ => and_congr_right fun _ => ?_
  cases answer : dialect.split test.input with
  | ok segments =>
      rw [isAnswered_of_ok answer]
      cases stated : test.error with
      | none => exact checkSegments_eq_ok_iff stated
      | some expected =>
          refine iff_of_false nofun fun met => ?_
          rw [met.error] at stated
          cases stated
  | error error =>
      rw [isAnswered_of_error answer]
      cases test.error with
      | none => exact iff_of_false nofun nofun
      | some expected => exact (checkError_eq_ok_iff answer).trans (Option.some_inj).symm

theorem check_eq_error {failure : Failure} (failed : test.check = .error failure) :
    ¬ failure.IsUnasked := by
  intro unasked
  rcases bind_eq_error failed with failed | ⟨dialect, _, failed⟩
  · obtain ⟨error, rfl⟩ := dialect_eq_error failed
    exact unasked
  have behindSimple := failed_behind_expect unasked (fun _ => id) failed
  split at behindSimple
  · exact checkSegments_eq_error behindSimple unasked
  · cases behindSimple
    exact unasked
  · rename_i malformed _
    exact checkError_eq_error malformed behindSimple unasked
  · cases behindSimple
    exact unasked

theorem failure?_eq_none_iff : test.failure? = none ↔ test.check = .ok () := by
  unfold failure?
  split
  · rename_i passed
    exact iff_of_true rfl passed
  · rename_i failed
    rw [failed]
    exact iff_of_false nofun nofun

theorem check_eq_error_of_failure? {failure : Failure} (failed : test.failure? = some failure) :
    test.check = .error failure := by
  unfold failure? at failed
  split at failed
  · cases failed
  · rename_i other cause
    rw [cause, Option.some.inj failed]

/-- The wording of a message tells the causes that no expectation stands behind from the others. -/
theorem isUnasked_of_message {failure : Failure}
    (wording : "quoted format does not round trip".toList <+: failure.message ∨
      "malformed input `".toList <+: failure.message) : failure.IsUnasked := by
  rw [← List.isPrefixOf_iff_prefix, ← List.isPrefixOf_iff_prefix] at wording
  -- Any other message leaves both wordings within its fixed first words, whatever it goes on with.
  cases failure with
  | malformedNotEmpty _ _ => trivial
  | roundTrip _ _ => trivial
  | dialect error =>
      cases error
      rcases wording with wording | wording <;> exact absurd wording Bool.false_ne_true
  | otherRendering style _ _ =>
      cases style <;> rcases wording with wording | wording <;>
        exact absurd wording Bool.false_ne_true
  | _ => rcases wording with wording | wording <;> exact absurd wording Bool.false_ne_true

end Case

namespace Manifest

variable {manifest : Manifest}

theorem mem_failures_iff {key : Text} {failure : Case.Failure} :
    (key, failure) ∈ manifest.failures ↔
      ∃ test, (key, test) ∈ manifest.cases ∧ test.failure? = some failure := by
  simp only [failures, List.mem_filterMap, Option.map_eq_some_iff, Prod.mk.injEq, Prod.exists]
  constructor
  · rintro ⟨_, test, member, _, failed, rfl, rfl⟩
    exact ⟨test, member, failed⟩
  · rintro ⟨test, member, failed⟩
    exact ⟨key, test, member, failure, failed, rfl, rfl⟩

theorem map_fst_failures : manifest.failures.map Prod.fst =
    (manifest.cases.filter fun entry => entry.2.failure? ≠ none).map Prod.fst := by
  unfold failures
  generalize manifest.cases = entries
  induction entries with
  | nil => rfl
  | cons entry entries ih =>
      obtain ⟨key, test⟩ := entry
      cases verdict : test.failure? with
      | none => simpa only [List.filterMap_cons, List.filter_cons, verdict, Option.map_none,
          ne_eq, not_true_eq_false, decide_false, Bool.false_eq_true, ↓reduceIte] using ih
      | some failure => simpa only [List.filterMap_cons, List.filter_cons, verdict,
          Option.map_some, ne_eq, reduceCtorEq, not_false_eq_true, decide_true, ↓reduceIte,
          List.map_cons, List.cons.injEq, true_and] using ih

end Manifest

/-- A case passes exactly if its quote can quote and everything that it states of its input is so:
whether that is a simple name, and then either the message of its malformation, with nothing else
looked at, or its segments, its name and the three written forms of the name. No case fails with a
message about reading or writing as such, and a manifest reports the failing cases and no others. -/
theorem Case.passes_iff_expectations_hold :
    (∀ test : Case, test.failure? = none ↔ test.quote ≠ some separator ∧
      ∃ dialect : Dialect, dialect.quote = test.quote.getD '"' ∧
        (∀ expected ∈ test.simple, expected = Text.isSimpleName test.input) ∧
        ((∃ error, dialect.split test.input = .error error ∧ test.error = some error.message) ∨
          ∃ segments, dialect.split test.input = .ok segments ∧ test.Meets dialect segments)) ∧
    (∀ test : Case, ¬ ∃ failure, test.failure? = some failure ∧
      ("quoted format does not round trip".toList <+: failure.message ∨
        "malformed input `".toList <+: failure.message)) ∧
    ∀ manifest : Manifest,
      manifest.failures.map Prod.fst =
        (manifest.cases.filter fun entry => entry.2.failure? ≠ none).map Prod.fst ∧
      ∀ key failure, (key, failure) ∈ manifest.failures ↔
        ∃ test, (key, test) ∈ manifest.cases ∧ test.failure? = some failure := by
  refine ⟨fun test => ?_, fun test => ?_, fun manifest => ?_⟩
  · rw [failure?_eq_none_iff, check_eq_ok_iff]
    constructor
    · rintro ⟨dialect, quote, rest⟩
      refine ⟨fun refused => ?_, dialect, quote, rest⟩
      rw [refused] at quote
      exact dialect.quote_ne_separator quote
    · exact fun holds => holds.2
  · rintro ⟨failure, failed, wording⟩
    exact check_eq_error (check_eq_error_of_failure? failed) (isUnasked_of_message wording)
  · exact ⟨manifest.map_fst_failures, fun _ _ => manifest.mem_failures_iff⟩

end DottedNames
