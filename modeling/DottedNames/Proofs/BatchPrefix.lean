import DottedNames.Proofs.BatchRoundTrip

set_option autoImplicit false

namespace DottedNames

namespace Dialect

variable (dialect : Dialect)

def wellFormed (raw : List Text) : List Text :=
  raw.takeWhile fun text => (dialect.split text).isOk

theorem tryParse_of_mem_wellFormed {raw : List Text} {text : Text}
    (member : text ∈ dialect.wellFormed raw) :
    dialect.tryParse text = .ok (dialect.parse text) := by
  have passed := List.all_eq_true.mp List.all_takeWhile text member
  cases read : dialect.split text with
  | error error =>
      rw [read] at passed
      cases passed
  | ok segments => rw [dialect.tryParse_of_split read, dialect.parse_of_split_ok read]

/-- A batch is well formed throughout, or its well-formed front ends at a malformed name. -/
theorem wellFormed_eq_or_malformed (raw : List Text) :
    dialect.wellFormed raw = raw ∨
      ∃ text later error, raw = dialect.wellFormed raw ++ text :: later ∧
        dialect.split text = .error error := by
  have whole : dialect.wellFormed raw ++ raw.dropWhile (fun text => (dialect.split text).isOk) =
      raw := List.takeWhile_append_dropWhile
  have stop := List.head?_dropWhile_not (fun text => (dialect.split text).isOk) raw
  cases rest : raw.dropWhile fun text => (dialect.split text).isOk with
  | nil =>
      rw [rest, List.append_nil] at whole
      exact .inl whole
  | cons text later =>
      rw [rest] at whole stop
      cases read : dialect.split text with
      | error error => exact .inr ⟨text, later, error, whole.symm, read⟩
      | ok segments =>
          simp only [List.head?_cons, read] at stop
          cases stop

theorem wellFormed_eq_self_iff {raw : List Text} :
    dialect.wellFormed raw = raw ↔ ∀ text ∈ raw, ∃ segments, dialect.split text = .ok segments := by
  constructor
  · intro whole text member
    rw [← whole] at member
    obtain ⟨segments, read, _⟩ :=
      dialect.exists_split_of_tryParse (dialect.tryParse_of_mem_wellFormed member)
    exact ⟨segments, read⟩
  · intro read
    refine (dialect.wellFormed_eq_or_malformed raw).resolve_right ?_
    rintro ⟨text, later, error, whole, failed⟩
    obtain ⟨segments, success⟩ := read text (whole ▸ List.mem_append_right _ List.mem_cons_self)
    cases failed.symm.trans success

/-- The well-formed front is read in both ways alike, whatever comes behind it. -/
theorem strictBatch_wellFormed_append (raw back : List Text) :
    dialect.strictBatch (dialect.wellFormed raw ++ back) =
      ⟨(dialect.wellFormed raw).map dialect.parse ++ (dialect.strictBatch back).names,
        (dialect.strictBatch back).error⟩ := by
  apply dialect.strictBatch_append
  rw [List.map_map]
  exact List.map_congr_left fun text member => dialect.tryParse_of_mem_wellFormed member

/-- A strict reading takes the well-formed front of a batch and fails at the name behind it. -/
theorem strictBatch_of_malformed {raw later : List Text} {text : Text} {error : SplitError}
    (whole : raw = dialect.wellFormed raw ++ text :: later)
    (failed : dialect.split text = .error error) :
    dialect.strictBatch raw = ⟨(dialect.wellFormed raw).map dialect.parse, some error⟩ := by
  have stopped : dialect.strictBatch (text :: later) = ⟨[], some error⟩ := by
    simp only [strictBatch, dialect.tryParse_of_split_error failed]
  calc dialect.strictBatch raw
      = dialect.strictBatch (dialect.wellFormed raw ++ text :: later) := congrArg _ whole
    _ = ⟨(dialect.wellFormed raw).map dialect.parse, some error⟩ := by
        rw [strictBatch_wellFormed_append, stopped, List.append_nil]

theorem strictBatch_of_wellFormed {raw : List Text} (whole : dialect.wellFormed raw = raw) :
    dialect.strictBatch raw = dialect.lenientBatch raw := by
  have passed := dialect.strictBatch_wellFormed_append raw []
  rw [whole, List.append_nil] at passed
  rw [passed, strictBatch, List.append_nil, lenientBatch]

theorem names_strictBatch (raw : List Text) :
    (dialect.strictBatch raw).names = (dialect.wellFormed raw).map dialect.parse := by
  rcases dialect.wellFormed_eq_or_malformed raw with whole | ⟨text, later, error, whole, failed⟩
  · rw [dialect.strictBatch_of_wellFormed whole, whole, lenientBatch]
  · rw [dialect.strictBatch_of_malformed whole failed]

theorem error_strictBatch_eq_none_iff {raw : List Text} :
    (dialect.strictBatch raw).error = none ↔ dialect.wellFormed raw = raw := by
  constructor
  · intro passed
    refine (dialect.wellFormed_eq_or_malformed raw).resolve_right ?_
    rintro ⟨text, later, error, whole, failed⟩
    rw [dialect.strictBatch_of_malformed whole failed] at passed
    cases passed
  · intro whole
    rw [dialect.strictBatch_of_wellFormed whole, lenientBatch]

theorem error_strictBatch_of_next {raw : List Text} {text : Text}
    (next : raw[(dialect.wellFormed raw).length]? = some text) :
    ∃ error, dialect.split text = .error error ∧ (dialect.strictBatch raw).error = some error := by
  rcases dialect.wellFormed_eq_or_malformed raw with whole | ⟨found, later, error, whole, failed⟩
  · rw [whole, List.getElem?_length] at next
    cases next
  · have here : (dialect.wellFormed raw ++ found :: later)[(dialect.wellFormed raw).length]? =
        some found := by
      rw [List.getElem?_append_right (Nat.le_refl _), Nat.sub_self, List.getElem?_cons_zero]
    rw [← whole, next] at here
    cases here
    exact ⟨error, failed, by rw [dialect.strictBatch_of_malformed whole failed]⟩

end Dialect

namespace Command

/-- The records of the well-formed front are all records only if the front is the whole batch. -/
theorem records_wellFormed_eq_iff {dialect : Dialect} {raw : List Text} :
    records ((dialect.wellFormed raw).map dialect.parse) = records (raw.map dialect.parse) ↔
      dialect.wellFormed raw = raw := by
  constructor
  · intro same
    refine (dialect.wellFormed_eq_or_malformed raw).resolve_right ?_
    rintro ⟨text, later, error, whole, _⟩
    have longer := length_records_lt_length_records_append
      ((dialect.wellFormed raw).map dialect.parse) (dialect.parse text) (later.map dialect.parse)
    rw [← List.map_cons, ← List.map_append, ← whole, same] at longer
    exact Nat.lt_irrefl _ longer
  · exact fun whole => congrArg (fun names => records (names.map dialect.parse)) whole

section

variable {surroundings : Surroundings} {source : NameSource} {raw : List Text}

theorem exit_parse (delivered : source.names surroundings = .ok raw) (dialect : Dialect)
    (strict : Bool) (verbosity : Nat) (filter : Notice.Filter) :
    let report :=
      Invocation.report surroundings ⟨.parse source strict, dialect.quote, verbosity⟩
    let printed := printInTurn (dialect.reading strict) [] raw
    (report.exit filter).output = linesText printed.1 ∧
      report.failure = printed.2.map .split ∧
      (report.exit filter).code = if printed.2 = none then 0 else 1 := by
  intro report printed
  obtain ⟨output, failure⟩ := parseReport_in_turn dialect strict raw
  have report_eq : report = _ := report_parse delivered dialect strict verbosity
  have affirmed : report.affirmed = true := by
    rw [report_eq]
    rfl
  have failed : report.failure = printed.2.map .split := by
    rw [report_eq]
    exact failure
  refine ⟨?_, failed, ?_⟩
  · rw [report_eq]
    exact output
  · cases stopped : printed.2 with
    | none =>
        simp only [Report.exit, failed, stopped, affirmed]
        rfl
    | some error =>
        simp only [Report.exit, failed, stopped]
        rfl

/-- Each name is printed before the next one is read. The strict and the lenient reading of a batch
print the same up to the first malformed name. There the strict one fails, after the last record and
before the empty line of the next one. -/
theorem strict_agrees_up_to_first_malformed
    (delivered : source.names surroundings = .ok raw) (dialect : Dialect) (verbosity : Nat)
    (filter : Notice.Filter) :
    let report (strict : Bool) :=
      Invocation.report surroundings ⟨.parse source strict, dialect.quote, verbosity⟩
    let exit (strict : Bool) := (report strict).exit filter
    let printed (strict : Bool) := printInTurn (dialect.reading strict) [] raw
    let front := dialect.wellFormed raw
    (∀ strict, (exit strict).output = linesText (printed strict).1 ∧
        (report strict).failure = (printed strict).2.map .split) ∧
      ((exit false).output = linesText (recordRows (raw.map dialect.parse)) ∧
        (exit false).code = 0) ∧
      ((exit true).output = linesText (recordRows (front.map dialect.parse)) ∧
        ((exit true).code = 0 ↔ front.length = raw.length)) ∧
      (∀ text, raw[front.length]? = some text → ∃ error, dialect.split text = .error error ∧
        (report true).failure = some (.split error) ∧ (exit true).code = 1) ∧
      (exit true).output <+: (exit false).output ∧
      ((exit true).output = (exit false).output ↔
        ∀ text ∈ raw, ∃ segments, dialect.split text = .ok segments) := by
  intro report exit printed front
  have inTurn (strict : Bool) : (exit strict).output = linesText (printed strict).1 ∧
      (report strict).failure = (printed strict).2.map .split ∧
      (exit strict).code = if (printed strict).2 = none then 0 else 1 :=
    exit_parse delivered dialect strict verbosity filter
  obtain ⟨lenientOutput, _, lenientCode⟩ := inTurn false
  obtain ⟨strictOutput, failure, code⟩ := inTurn true
  have lenient : printed false = (recordRows (raw.map dialect.parse), none) :=
    printInTurn_lenient dialect [] raw
  have strict : printed true =
      (recordRows (front.map dialect.parse), (dialect.strictBatch raw).error) := by
    rw [← dialect.names_strictBatch]
    exact printInTurn_strict dialect [] raw
  have all : front = raw ↔ front.length = raw.length :=
    ⟨congrArg List.length, (List.takeWhile_prefix _).eq_of_length⟩
  rw [lenient] at lenientOutput lenientCode
  rw [strict] at strictOutput failure code
  refine ⟨fun strict => ⟨(inTurn strict).1, (inTurn strict).2.1⟩, ⟨lenientOutput, lenientCode⟩,
    ⟨strictOutput, ?_⟩, ?_, ?_, ?_⟩
  · rw [← all, ← dialect.error_strictBatch_eq_none_iff, code]
    by_cases passed : (dialect.strictBatch raw).error = none
    · simp only [passed, ↓reduceIte]
    · simp only [passed, ↓reduceIte, Nat.one_ne_zero]
  · intro text next
    obtain ⟨error, failed, stopped⟩ := dialect.error_strictBatch_of_next next
    rw [stopped] at failure code
    exact ⟨error, failed, failure, code⟩
  · rw [lenientOutput, strictOutput, linesText_recordRows, linesText_recordRows]
    exact records_prefix_of_prefix ((List.takeWhile_prefix _).map _)
  · rw [lenientOutput, strictOutput, linesText_recordRows, linesText_recordRows,
      records_wellFormed_eq_iff, dialect.wellFormed_eq_self_iff]

end

/-- Of three names the second one is malformed, so only the first one is printed. -/
theorem strict_stops_at_second_name :
    let dialect : Dialect := {}
    let raw : List Text := [['a'], ['b', '.'], ['c']]
    let surroundings : Surroundings :=
      { file := fun _ => .error .missing, input := some (.ok (linesText raw)) }
    let report := Invocation.report surroundings ⟨.parse .input true, dialect.quote, 0⟩
    let exit := report.exit (.choose 0 none)
    NameSource.input.names surroundings = .ok raw ∧
      exit.output = linesText (recordRows [{ database := some ['a'] }]) ∧
      report.failure = some (.split ⟨['b', '.'], .trailingSeparator, []⟩) ∧ exit.code = 1 := by
  intro dialect raw surroundings report exit
  have delivered : NameSource.input.names surroundings = .ok raw := by
    rw [NameSource.Delivers.names_eq (.input rfl), nameLines_linesText_iff.mpr (by decide)]
  have front : dialect.wellFormed raw = [['a']] := by cbv
  have first : dialect.parse ['a'] = { database := some ['a'] } := by cbv
  have second : dialect.split ['b', '.'] = .error ⟨['b', '.'], .trailingSeparator, []⟩ := by cbv
  have agreement := strict_agrees_up_to_first_malformed delivered dialect 0 (.choose 0 none)
  simp only [front, List.map_cons, List.map_nil, first] at agreement
  obtain ⟨_, _, ⟨output, _⟩, failed, _⟩ := agreement
  obtain ⟨error, malformed, failure, code⟩ := failed ['b', '.'] rfl
  cases second.symm.trans malformed
  exact ⟨delivered, output, failure, code⟩

end Command

end DottedNames
