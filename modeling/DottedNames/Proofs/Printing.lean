import DottedNames.Proofs.Lines

set_option autoImplicit false

namespace DottedNames

/-- A strict reading fails at a malformed name, and a lenient one takes it for an empty one. -/
def Dialect.reading (dialect : Dialect) (strict : Bool) :
    Text → Except SplitError QualifiedName :=
  if strict then dialect.tryParse else fun text => .ok (dialect.parse text)

namespace Command

def levelRows (name : QualifiedName) : List Text :=
  Level.all.map fun level => level.label ++ '=' :: (name.get level).getD "<absent>".toList

/-- The lines for names one after another, with an empty one between neighbours. -/
def recordRows (names : List QualifiedName) : List Text :=
  [[]].intercalate (names.map levelRows)

theorem linesText_levelRows (name : QualifiedName) :
    linesText (levelRows name) = levelLines name := by
  rw [linesText, levelRows, List.flatMap_map]
  rfl

theorem linesText_recordRows (names : List QualifiedName) :
    linesText (recordRows names) = records names := by
  induction names with
  | nil => rfl
  | cons name names ih =>
      cases names with
      | nil =>
          rw [recordRows, records, List.map_singleton, List.map_singleton,
            List.intercalate_singleton, List.intercalate_singleton, linesText_levelRows]
      | cons next rest =>
          simp only [recordRows, records, List.map_cons, List.intercalate_cons_cons,
            linesText_append, linesText_levelRows] at ih ⊢
          rw [ih]
          rfl

theorem recordRows_cons_cons (name next : QualifiedName) (rest : List QualifiedName) :
    recordRows (name :: next :: rest) = levelRows name ++ [[]] ++ recordRows (next :: rest) :=
  List.intercalate_cons_cons

theorem recordRows_eq_nil_iff {names : List QualifiedName} :
    recordRows names = [] ↔ names = [] := by
  cases names with
  | nil => exact iff_of_true rfl rfl
  | cons name rest =>
      refine iff_of_false (fun same => ?_) (List.cons_ne_nil _ _)
      cases rest with
      | nil => cases same
      | cons next rest => cases same

/-- One more name comes behind an empty line, unless it is the first. -/
theorem recordRows_concat (names : List QualifiedName) (name : QualifiedName) :
    recordRows (names ++ [name]) =
      recordRows names ++ (if names = [] then [] else [[]]) ++ levelRows name := by
  induction names with
  | nil => rfl
  | cons first names ih =>
      cases names with
      | nil => rfl
      | cons next rest =>
          rw [List.cons_append, List.cons_append, recordRows_cons_cons, ← List.cons_append, ih,
            recordRows_cons_cons]
          simp only [List.append_assoc, List.cons_ne_nil, ↓reduceIte]

/-- The lines that were printed, and the error that ended the printing, if each name is printed
before the next one is read. A name that was read has an empty line in front of its own lines,
unless nothing was printed before. -/
def printInTurn (read : Text → Except SplitError QualifiedName) :
    List Text → List Text → List Text × Option SplitError
  | printed, [] => (printed, none)
  | printed, text :: rest =>
      match read text with
      | .error error => (printed, some error)
      | .ok name =>
          printInTurn read (printed ++ (if printed = [] then [] else [[]]) ++ levelRows name) rest

theorem printInTurn_of_ok {read : Text → Except SplitError QualifiedName} {text : Text}
    {name : QualifiedName} (success : read text = .ok name) (names : List QualifiedName)
    (rest : List Text) :
    printInTurn read (recordRows names) (text :: rest) =
      printInTurn read (recordRows (names ++ [name])) rest := by
  simp only [printInTurn, success, recordRows_concat, recordRows_eq_nil_iff]

theorem printInTurn_strict (dialect : Dialect) (names : List QualifiedName) (raw : List Text) :
    printInTurn (dialect.reading true) (recordRows names) raw =
      (recordRows (names ++ (dialect.strictBatch raw).names), (dialect.strictBatch raw).error) := by
  unfold Dialect.reading
  simp only [↓reduceIte]
  induction raw generalizing names with
  | nil => rw [printInTurn, Dialect.strictBatch, List.append_nil]
  | cons text rest ih =>
      cases read : dialect.tryParse text with
      | error error => simp only [printInTurn, Dialect.strictBatch, read, List.append_nil]
      | ok name =>
          rw [printInTurn_of_ok read, ih]
          simp only [Dialect.strictBatch, read, List.append_assoc, List.singleton_append]

theorem printInTurn_lenient (dialect : Dialect) (names : List QualifiedName) (raw : List Text) :
    printInTurn (dialect.reading false) (recordRows names) raw =
      (recordRows (names ++ raw.map dialect.parse), none) := by
  induction raw generalizing names with
  | nil => rw [printInTurn, List.map_nil, List.append_nil]
  | cons text rest ih =>
      rw [printInTurn_of_ok rfl, ih, List.append_assoc]
      rfl

/-- Both readings print what comes of printing each name before the next one is read, and fail where
that ends. -/
theorem parseReport_in_turn (dialect : Dialect) (strict : Bool) (raw : List Text) :
    let printed := printInTurn (dialect.reading strict) [] raw
    (parseReport dialect strict raw).output = linesText printed.1 ∧
      (parseReport dialect strict raw).failure = printed.2.map .split := by
  intro printed
  cases strict with
  | false =>
      have whole : printed = (recordRows (raw.map dialect.parse), none) :=
        printInTurn_lenient dialect [] raw
      rw [whole, linesText_recordRows]
      exact ⟨rfl, rfl⟩
  | true =>
      have whole : printed =
          (recordRows (dialect.strictBatch raw).names, (dialect.strictBatch raw).error) :=
        printInTurn_strict dialect [] raw
      rw [whole, linesText_recordRows]
      exact ⟨rfl, rfl⟩

theorem records_prefix_of_prefix {front names : List QualifiedName} (start : front <+: names) :
    records front <+: records names := by
  obtain ⟨rest, rfl⟩ := start
  rw [records, records, List.map_append]
  exact Text.intercalate_prefix_intercalate_append _ _ _

theorem length_records_lt_length_records_append (front : List QualifiedName)
    (next : QualifiedName) (rest : List QualifiedName) :
    (records front).length < (records (front ++ next :: rest)).length := by
  rw [records, records, List.map_append, List.map_cons]
  exact Text.length_intercalate_lt (List.cons_ne_nil _ _)

end Command

end DottedNames
