import DottedNames.Manifest
import DottedNames.Proofs.YamlManifests

set_option autoImplicit false

namespace DottedNames

namespace Manifest

namespace Tree

/-- The entries that write a name. -/
structure WritesName (entries : List (Tree × Tree)) (name : QualifiedName) : Prop where
  keys : HasKeys (["database", "schema", "table", "column"].map String.toList) entries
  database : Gives entries "database".toList (IsOptional IsText) none name.database
  schema : Gives entries "schema".toList (IsOptional IsText) none name.schema
  table : Gives entries "table".toList (IsOptional IsText) none name.table
  column : Gives entries "column".toList (IsOptional IsText) none name.column

def IsName (tree : Tree) (name : QualifiedName) : Prop :=
  ∃ entries, tree.HasEntries entries ∧ WritesName entries name

/-- The entries that write a case. An input is a text, also where it looks absent. -/
structure WritesCase (entries : List (Tree × Tree)) (test : Case) : Prop where
  keys : HasKeys (["input", "quote", "segments", "name", "quoted", "unquoted", "minimal", "error",
    "simple"].map String.toList) entries
  input : Gives entries "input".toList IsText [] test.input
  quote : Gives entries "quote".toList (IsOptional IsChar) none test.quote
  segments : Gives entries "segments".toList (IsOptional (IsListOf IsText)) none test.segments
  name : Gives entries "name".toList (IsOptional IsName) none test.name
  quoted : Gives entries "quoted".toList (IsOptional IsText) none test.quoted
  unquoted : Gives entries "unquoted".toList (IsOptional IsText) none test.unquoted
  minimal : Gives entries "minimal".toList (IsOptional IsText) none test.minimal
  error : Gives entries "error".toList (IsOptional IsText) none test.error
  simple : Gives entries "simple".toList (IsOptional IsTruth) none test.simple

def IsCase (tree : Tree) (test : Case) : Prop :=
  ∃ entries, tree.HasEntries entries ∧ WritesCase entries test

def IsLevelValue (_ : Level) : Tree → Option Text → Prop := IsOptional IsText

def IsFieldValue : (field : Case.Field) → Tree → field.Value → Prop
  | .input => IsText
  | .quote => IsOptional IsChar
  | .segments => IsOptional (IsListOf IsText)
  | .name => IsOptional IsName
  | .quoted | .unquoted | .minimal | .error => IsOptional IsText
  | .simple => IsOptional IsTruth

variable {tree : Tree}

theorem isRecord_iff_isName {name : QualifiedName} :
    QualifiedName.recordType.IsRecord IsLevelValue tree name ↔ tree.IsName name := by
  refine exists_congr fun entries => and_congr_right fun _ => ?_
  refine (RecordType.describes_iff rfl).trans ?_
  constructor
  · rintro ⟨keys, gives⟩
    exact ⟨keys, gives .database, gives .schema, gives .table, gives .column⟩
  · intro writes
    refine ⟨writes.keys, fun level => ?_⟩
    cases level with
    | database => exact writes.database
    | schema => exact writes.schema
    | table => exact writes.table
    | column => exact writes.column

theorem isRecord_iff_isCase {test : Case} :
    Case.recordType.IsRecord IsFieldValue tree test ↔ tree.IsCase test := by
  refine exists_congr fun entries => and_congr_right fun _ => ?_
  refine (RecordType.describes_iff rfl).trans ?_
  constructor
  · rintro ⟨keys, gives⟩
    exact ⟨keys, gives .input, gives .quote, gives .segments, gives .name, gives .quoted,
      gives .unquoted, gives .minimal, gives .error, gives .simple⟩
  · intro writes
    refine ⟨writes.keys, fun field => ?_⟩
    cases field with
    | input => exact writes.input
    | quote => exact writes.quote
    | segments => exact writes.segments
    | name => exact writes.name
    | quoted => exact writes.quoted
    | unquoted => exact writes.unquoted
    | minimal => exact writes.minimal
    | error => exact writes.error
    | simple => exact writes.simple

end Tree

namespace Format.Lawful

variable {ν : Type} {format : Format ν} {IsDocument : Text → Tree → Prop} {Shows : ν → Tree → Prop}
  (lawful : format.Lawful IsDocument Shows)

include lawful

theorem name_reads : Reads Shows format.name Tree.IsName := by
  intro place tree shown name
  rw [← Tree.isRecord_iff_isName]
  exact lawful.record (fun _ line => lawful.optional lawful.text.present line) place tree shown name

theorem field_reads (field : Case.Field) (line : Option Nat) :
    Reads Shows (format.field field line) (Tree.IsFieldValue field) := by
  cases field with
  | input => exact lawful.text
  | quote => exact lawful.optional lawful.char.present line
  | segments => exact lawful.optional (lawful.items lawful.text) line
  | name => exact lawful.optional lawful.name_reads.present line
  | quoted | unquoted | minimal | error => exact lawful.optional lawful.text.present line
  | simple => exact lawful.optional lawful.truth.present line

theorem case_reads : Reads Shows format.case Tree.IsCase := by
  intro place tree shown test
  rw [← Tree.isRecord_iff_isCase]
  exact lawful.record lawful.field_reads place tree shown test

/-- The cases that a text holds are stored in the order in which they are written. -/
theorem load_eq_ok_iff {text : Text} {tree : Tree} (document : IsDocument text tree)
    {manifest : Manifest} :
    load format text = .ok manifest ↔
      ∃ written, tree.IsMappingOf Tree.IsText Tree.IsCase written ∧
        manifest = ofEntries written := by
  obtain ⟨root, shown, read⟩ := lawful.document document
  have entries := lawful.entries lawful.text lawful.case_reads root tree shown
  have loaded : load format text = .ok manifest ↔ format.manifest root = .ok manifest := by
    rw [← read]
    unfold load
    cases format.document format.manifest text with
    | ok stored => simp only [Except.mapError, Except.ok.injEq]
    | error refusal => exact iff_of_false nofun nofun
  rw [loaded, Format.manifest, bind_eq_ok_iff]
  refine exists_congr fun written => and_congr (entries written) ?_
  constructor
  · intro same
    cases same
    rfl
  · rintro rfl
    rfl

end Format.Lawful

theorem exists_forall₂_iff {σ τ : Type} {Related : σ → τ → Prop} {sources : List σ} :
    (∃ targets, List.Forall₂ Related sources targets) ↔
      ∀ source ∈ sources, ∃ target, Related source target := by
  induction sources with
  | nil => exact iff_of_true ⟨[], .nil⟩ nofun
  | cons source sources ih =>
      rw [List.forall_mem_cons, ← ih]
      constructor
      · rintro ⟨_, first | ⟨first, later⟩⟩
        exact ⟨⟨_, first⟩, _, later⟩
      · rintro ⟨⟨target, first⟩, targets, later⟩
        exact ⟨target :: targets, .cons first later⟩

theorem exists_isMappingOf_iff {tree : Tree} :
    (∃ written, tree.IsMappingOf Tree.IsText Tree.IsCase written) ↔
      ∃ entries, tree.HasEntries entries ∧ ∀ entry ∈ entries,
        (∃ key, entry.1.IsText key) ∧ ∃ test, entry.2.IsCase test := by
  unfold Tree.IsMappingOf Tree.IsEntry
  rw [exists_comm]
  refine exists_congr fun entries => ?_
  rw [exists_and_left, exists_forall₂_iff]
  refine and_congr_right fun _ => forall₂_congr fun entry _ => ?_
  rw [Prod.exists, exists_and_exists_comm]

structure KeepsLast (manifest : Manifest) (written : List (Text × Case)) : Prop where
  keys : ∀ key, key ∈ manifest.cases.map Prod.fst ↔ key ∈ written.map Prod.fst
  last : ∀ key test, (key, test) ∈ manifest.cases ↔ written.reverse.lookup key = some test

theorem mem_cases_put_iff {manifest : Manifest} {key other : Text} {test each : Case} :
    (other, each) ∈ (manifest.put key test).cases ↔
      other ≠ key ∧ (other, each) ∈ manifest.cases ∨ other = key ∧ each = test := by
  simp only [put, List.mem_append, List.mem_filter, List.mem_singleton, Prod.mk.injEq,
    decide_eq_true_eq]
  rw [and_comm]

theorem keys_put (manifest : Manifest) (key : Text) (test : Case) :
    (manifest.put key test).cases.map Prod.fst =
      (manifest.cases.map Prod.fst).filter (· ≠ key) ++ [key] := by
  rw [put, List.map_append, List.filter_map]
  rfl

/-- What is stored last is kept under its key, and the other keys keep what they had. -/
theorem KeepsLast.put {manifest : Manifest} {written : List (Text × Case)}
    (keeps : manifest.KeepsLast written) (key : Text) (test : Case) :
    (manifest.put key test).KeepsLast (written ++ [(key, test)]) := by
  constructor
  case keys =>
    intro other
    rw [keys_put, List.map_append, List.mem_append, List.mem_append, List.mem_filter, keeps.keys,
      List.map_singleton, List.mem_singleton, decide_eq_true_eq]
    by_cases same : other = key
    · simp only [same, or_true]
    · simp only [same, ne_eq, not_false_eq_true, and_true, or_false]
  case last =>
    intro other each
    -- From the end, what is stored last is found first.
    rw [mem_cases_put_iff, keeps.last, List.reverse_append, List.reverse_singleton,
      List.singleton_append, List.lookup_cons]
    by_cases same : other = key
    · simp only [same, ne_eq, not_true_eq_false, false_and, true_and, false_or, BEq.rfl,
        Option.some.injEq, eq_comm]
    · have different := beq_false_of_ne same
      simp only [same, ne_eq, not_false_eq_true, true_and, false_and, or_false, different]

theorem keepsLast_empty : KeepsLast {} [] where
  keys _ := Iff.rfl
  last _ _ := iff_of_false List.not_mem_nil nofun

theorem KeepsLast.foldl {manifest : Manifest} {before written : List (Text × Case)}
    (keeps : manifest.KeepsLast before) :
    KeepsLast (written.foldl (fun manifest entry => manifest.put entry.1 entry.2) manifest)
      (before ++ written) := by
  induction written generalizing manifest before with
  | nil =>
      rw [List.append_nil]
      exact keeps
  | cons stored written ih =>
      rw [List.append_cons]
      exact ih (keeps.put stored.1 stored.2)

theorem keepsLast_ofEntries (written : List (Text × Case)) :
    (ofEntries written).KeepsLast written := keepsLast_empty.foldl

/-- Where visitors keep to the laws of their format, a document is loaded exactly if it is empty or
a mapping of texts to cases, also those that are replaced. The manifest has the keys that are
written, with the case that is written last under each. -/
theorem loading_is_strict_and_lossless {ν : Type} {format : Format ν}
    {IsDocument : Text → Tree → Prop} {Shows : ν → Tree → Prop}
    (lawful : format.Lawful IsDocument Shows) {text : Text} {tree : Tree}
    (document : IsDocument text tree) :
    ((∃ manifest, load format text = .ok manifest) ↔
      ∃ entries, tree.HasEntries entries ∧ ∀ entry ∈ entries,
        (∃ key, entry.1.IsText key) ∧ ∃ test, entry.2.IsCase test) ∧
    ∀ manifest, load format text = .ok manifest →
      ∃ entries written, tree.HasEntries entries ∧
        List.Forall₂ (fun entry stored => entry.1.IsText stored.1 ∧ entry.2.IsCase stored.2)
          entries written ∧
        manifest.KeepsLast written := by
  constructor
  · rw [← exists_isMappingOf_iff]
    constructor
    · rintro ⟨manifest, loaded⟩
      obtain ⟨written, writes, _⟩ := (lawful.load_eq_ok_iff document).mp loaded
      exact ⟨written, writes⟩
    · rintro ⟨written, writes⟩
      exact ⟨_, (lawful.load_eq_ok_iff document).mpr ⟨written, writes, rfl⟩⟩
  · intro manifest loaded
    obtain ⟨written, ⟨entries, root, writes⟩, rfl⟩ := (lawful.load_eq_ok_iff document).mp loaded
    exact ⟨entries, written, root, writes, keepsLast_ofEntries written⟩

/-- Of two cases under one key the later one is loaded, with all that is written in it. A quoted
tilde is a quote or a level, and a plain one is none; as an item either is a text. -/
theorem later_case_of_key_loaded :
    let text : Text :=
      "a:\n  simple: True\na:\n  input: i\n  quote: '~'\n  segments:\n  - ~\n".toList ++
      "  name:\n    database: '~'\n    schema: s\n    table: t\n    column: ~\n".toList ++
      "  quoted: q\n  unquoted: u\n  minimal: m\n  error: e\n  simple: false\n".toList
    let test : Case :=
      { input := ['i'], quote := some '~', segments := some [['~']],
        name := some { database := some ['~'], schema := some ['s'], table := some ['t'] },
        quoted := some ['q'], unquoted := some ['u'], minimal := some ['m'], error := some ['e'],
        simple := some false }
    let manifest : Manifest := { cases := [(['a'], test)] }
    load .yaml text = .ok manifest ∧
      ∃ tree, Document.IsOf text tree ∧ ∃ entries written, tree.HasEntries entries ∧
        List.Forall₂ (fun entry stored => entry.1.IsText stored.1 ∧ entry.2.IsCase stored.2)
          entries written ∧
        manifest.KeepsLast written := by
  intro text test manifest
  have parsed : load .yaml text = .ok manifest ∧ (Document.ofText text).tree?.isSome := by
    decide +kernel
  obtain ⟨loaded, single⟩ := parsed
  obtain ⟨tree, document⟩ := Option.isSome_iff_exists.mp single
  obtain ⟨_, lossless⟩ := loading_is_strict_and_lossless Format.yaml_lawful document
  exact ⟨loaded, tree, document, lossless manifest loaded⟩

end Manifest

end DottedNames
