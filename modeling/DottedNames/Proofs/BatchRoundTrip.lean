import DottedNames.Proofs.Printing
import DottedNames.Proofs.QuotedNames

set_option autoImplicit false

namespace DottedNames

theorem Dialect.render_ofSegments_segments (dialect : Dialect) (name : QualifiedName)
    (style : Style) :
    dialect.render (.ofSegments name.segments) style = dialect.render name style := by
  rw [render, QualifiedName.segments_ofSegments, QualifiedName.take_segments, render]

namespace Command

/-- The sources that a content is read from: a file that holds it, or an input that delivers it. -/
inductive NameSource.Delivers (surroundings : Surroundings) (content : Text) :
    NameSource → Prop where
  | file {path : Text} : surroundings.file path = .ok content →
      Delivers surroundings content (.file path)
  | input : surroundings.input = some (.ok content) → Delivers surroundings content .input

theorem NameSource.Delivers.names_eq {surroundings : Surroundings} {content : Text}
    {source : NameSource} (delivers : source.Delivers surroundings content) :
    source.names surroundings = .ok (nameLines content) := by
  cases delivers with
  | file holds => simp only [names, holds]; rfl
  | input holds => simp only [names, holds]; rfl

/-- Texts that are not empty and hold no line feed are the names that a source delivers, in their
order and with all white space, exactly if none of them ends in a carriage return. It makes no
difference how each line ends, whether the last one ends at all, and where blank lines are. -/
theorem NameSource.Delivers.names_eq_ok_iff {surroundings : Surroundings} {texts : List Text}
    {content : Text} (framed : Framed texts content) {source : NameSource}
    (delivers : source.Delivers surroundings content) :
    source.names surroundings = .ok texts ↔ ∀ text ∈ texts, text.getLast? ≠ some '\r' := by
  rw [delivers.names_eq, Except.ok.injEq]
  exact framed.nameLines_eq_iff

/-- A carriage return at the start of a text stays. One at the end of it is lost, also where it is
the end of the content. -/
theorem names_between_blank_lines :
    let texts : List Text := [[' ', 'a', '\t'], ['\r', 'b', ' ']]
    let content : Text :=
      ['\r', '\n', ' ', 'a', '\t', '\r', '\n', '\n', '\r', '\n', '\r', 'b', ' ']
    let surroundings (content : Text) : Surroundings :=
      { file := fun _ => .error .missing, input := some (.ok content) }
    (Framed texts content ∧ NameSource.input.Delivers (surroundings content) content ∧
      NameSource.input.names (surroundings content) = .ok texts) ∧
    (Framed [['a', '\r']] ['a', '\r'] ∧
      NameSource.input.Delivers (surroundings ['a', '\r']) ['a', '\r'] ∧
      NameSource.input.names (surroundings ['a', '\r']) ≠ .ok [['a', '\r']]) := by
  intro texts content surroundings
  have framed : Framed texts content :=
    .blank .returnFeed (.line .returnFeed (List.cons_ne_nil _ _) (by decide)
      (.blank .feed (.blank .returnFeed (.unended (List.cons_ne_nil _ _) (by decide)))))
  have delivers : NameSource.input.Delivers (surroundings content) content := .input rfl
  have read := (NameSource.Delivers.names_eq_ok_iff framed delivers).mpr (by decide)
  have ended : Framed [['a', '\r']] ['a', '\r'] :=
    .unended (List.cons_ne_nil _ _) (by decide)
  have lost : NameSource.input.Delivers (surroundings ['a', '\r']) ['a', '\r'] := .input rfl
  refine ⟨⟨framed, delivers, read⟩, ended, lost, fun same => ?_⟩
  have plain := (NameSource.Delivers.names_eq_ok_iff ended lost).mp same
  exact plain _ (List.mem_singleton_self _) rfl

variable {dialect : Dialect} {names : List QualifiedName}

def printed (dialect : Dialect) (names : List QualifiedName) : List Text :=
  names.map (dialect.render · .quoted)

theorem report_of_dialect (dialect : Dialect) (surroundings : Surroundings) (task : Task)
    (verbosity : Nat) :
    Invocation.report surroundings ⟨task, dialect.quote, verbosity⟩ =
      { task.report dialect surroundings with
        notices := .dialectInUse dialect.quote :: (task.report dialect surroundings).notices } := by
  simp only [Invocation.report, Dialect.ofQuote_quote]

theorem report_parse {surroundings : Surroundings} {source : NameSource} {raw : List Text}
    (delivered : source.names surroundings = .ok raw) (dialect : Dialect) (strict : Bool)
    (verbosity : Nat) :
    Invocation.report surroundings ⟨.parse source strict, dialect.quote, verbosity⟩ =
      { parseReport dialect strict raw with
        notices := .dialectInUse dialect.quote :: (parseReport dialect strict raw).notices } := by
  simp only [report_of_dialect, Task.report, delivered]

theorem output_format (dialect : Dialect) (surroundings : Surroundings) (verbosity : Nat)
    (name : QualifiedName) :
    (Invocation.report surroundings
      ⟨.format name.segments .quoted, dialect.quote, verbosity⟩).output =
        dialect.render name .quoted ++ ['\n'] := by
  rw [report_of_dialect]
  simp only [Task.report, dialect.render_ofSegments_segments]
  exact linesText_cons _ []

theorem getLast?_of_mem_printed (populated : ∀ name ∈ names, name.database ≠ none) {text : Text}
    (member : text ∈ printed dialect names) : text.getLast? = some dialect.quote := by
  obtain ⟨name, inside, rfl⟩ := List.mem_map.mp member
  exact dialect.getLast?_joinQuoted (QualifiedName.segments_ne_nil (populated name inside))

/-- A printed name ends in a quote, so it is lost at the end of its line only if the quote is. -/
theorem nameLines_printed_iff (filled : names ≠ [])
    (populated : ∀ name ∈ names, name.database ≠ none) :
    nameLines (linesText (printed dialect names)) = printed dialect names ↔
      dialect.quote ≠ '\r' ∧ ∀ text ∈ printed dialect names, '\n' ∉ text := by
  rw [nameLines_linesText_iff]
  constructor
  · intro shape
    refine ⟨?_, fun text member => (shape text member).2.1⟩
    obtain ⟨name, inside⟩ := List.exists_mem_of_ne_nil names filled
    have member : dialect.render name .quoted ∈ printed dialect names := List.mem_map_of_mem inside
    have ends := (shape _ member).2.2
    rw [getLast?_of_mem_printed populated member] at ends
    exact fun same => ends (congrArg some same)
  · rintro ⟨plain, free⟩ text member
    have ends := getLast?_of_mem_printed populated member
    refine ⟨?_, free text member, ?_⟩
    · rintro rfl
      cases ends
    · rw [ends]
      exact fun same => plain (Option.some.inj same)

theorem strictBatch_printed (dialect : Dialect) (names : List QualifiedName) :
    dialect.strictBatch (printed dialect names) =
      ⟨names.map fun name => .ofSegments name.segments, none⟩ := by
  have read : (printed dialect names).map dialect.tryParse =
      (names.map fun name => QualifiedName.ofSegments name.segments).map .ok := by
    rw [printed, List.map_map, List.map_map]
    exact List.map_congr_left fun name _ => dialect.tryParse_render_quoted name
  have batch := dialect.strictBatch_append read []
  rw [List.append_nil] at batch
  rw [batch, Dialect.strictBatch, List.append_nil]

/-- Names with a database that are formatted one after another come back from a file or the input
line by line exactly if the quote is no carriage return and no line feed was printed inside a name.
Then reading them strictly succeeds and gives every name, in order, without what is behind a gap. -/
theorem printed_batch_read_back (filled : names ≠ [])
    (populated : ∀ name ∈ names, name.database ≠ none) {surroundings : Surroundings}
    {source : NameSource}
    (delivers : source.Delivers surroundings (linesText (printed dialect names)))
    (verbosity : Nat) :
    let format (name : QualifiedName) := Invocation.report surroundings
      ⟨.format name.segments .quoted, dialect.quote, verbosity⟩
    let parse := Invocation.report surroundings ⟨.parse source true, dialect.quote, verbosity⟩
    let leadingNames := names.map fun name => QualifiedName.ofSegments name.segments
    linesText (printed dialect names) = names.flatMap (fun name => (format name).output) ∧
      (source.names surroundings = .ok (printed dialect names) ↔
        dialect.quote ≠ '\r' ∧ ∀ text ∈ printed dialect names, '\n' ∉ text) ∧
      dialect.strictBatch (printed dialect names) = ⟨leadingNames, none⟩ ∧
      (source.names surroundings = .ok (printed dialect names) →
        parse.failure = none ∧ parse.output = linesText (recordRows leadingNames)) := by
  intro format parse leadingNames
  have batch := strictBatch_printed dialect names
  refine ⟨?_, ?_, batch, ?_⟩
  · rw [linesText, printed, List.flatMap_map]
    exact congrArg names.flatMap (funext fun name =>
      (output_format dialect surroundings verbosity name).symm)
  · rw [delivers.names_eq, Except.ok.injEq]
    exact nameLines_printed_iff filled populated
  · intro read
    obtain ⟨output, failure⟩ := parseReport_in_turn dialect true (printed dialect names)
    have inTurn := printInTurn_strict dialect [] (printed dialect names)
    rw [batch] at inTurn
    rw [show [] = recordRows [] from rfl, inTurn] at output failure
    rw [show parse = _ from report_parse read dialect true verbosity]
    exact ⟨failure, output⟩

/-- A carriage return inside a quoted level stays, and so do an empty level and a separator. -/
theorem printed_returns_read_back :
    let dialect : Dialect := { quote := '|' }
    let names : List QualifiedName :=
      [{ database := some ['a', '\r'] }, { database := some [], schema := some ['.', '|'] }]
    let surroundings : Surroundings :=
      { file := fun _ => .ok (linesText (printed dialect names)), input := none }
    let parse := Invocation.report surroundings ⟨.parse (.file ['n']) true, dialect.quote, 0⟩
    (names ≠ [] ∧ ∀ name ∈ names, name.database ≠ none) ∧
      (NameSource.file ['n']).Delivers surroundings (linesText (printed dialect names)) ∧
      (NameSource.file ['n']).names surroundings = .ok (printed dialect names) ∧
      parse.failure = none ∧ parse.output = linesText (recordRows names) := by
  intro dialect names surroundings parse
  have filled : names ≠ [] := List.cons_ne_nil _ _
  have populated : ∀ name ∈ names, name.database ≠ none := by decide
  have delivers : (NameSource.file ['n']).Delivers surroundings
      (linesText (printed dialect names)) := .file rfl
  have batch := printed_batch_read_back filled populated delivers 0
  have read := batch.2.1.mpr (by decide)
  exact ⟨⟨filled, populated⟩, delivers, read, batch.2.2.2 read⟩

end Command

end DottedNames
