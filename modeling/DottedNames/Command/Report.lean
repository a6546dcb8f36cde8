import DottedNames.Command.Batch
import DottedNames.Command.Invocation
import DottedNames.Content
import DottedNames.Statement

set_option autoImplicit false

namespace DottedNames

namespace Command

inductive Failure where
  | noNames
  | fileRead (path : Text) (cause : ReadFailure)
  | inputRead (cause : ReadFailure)
  | split (error : SplitError)
  | template (error : Statement.TemplateError)
  | dialect (error : DialectError)
deriving DecidableEq

/-- The lines that tell of a failure. What was recovered of a malformed name has a line of its
own. -/
def Failure.lines : Failure → List Text
  | .noNames =>
      ["[usage] missing qualified name: pass NAME, --file <PATH>, or pipe names via stdin".toList]
  | .fileRead path cause =>
      ["[io] while reading names file `".toList ++ path ++ "`: ".toList ++ cause.message]
  | .inputRead cause => ["[io] while reading names from stdin: ".toList ++ cause.message]
  | .split error =>
      ("[split] while splitting qualified name: ".toList ++ error.message) ::
        if error.recovered = [] then []
        else ["recovered before failure: ".toList ++ Text.literalList error.recovered]
  | .template error =>
      ["[template] while rendering statement template: ".toList ++ error.message]
  | .dialect error => ["[config] while reading name syntax options: ".toList ++ error.message]

structure Report where
  notices : List Notice := []
  output : Text := []
  failure : Option Failure := none
  /-- Whether a task that did not fail found what it was asked for. -/
  affirmed : Bool := true

structure Surroundings where
  file : Text → Content
  /-- The standard input, unless it is a terminal. -/
  input : Option Content

def Report.fail (failure : Failure) : Report := { failure := some failure }

def linesText (lines : List Text) : Text := lines.flatMap (· ++ ['\n'])

def NameSource.names (surroundings : Surroundings) : NameSource → Except Failure (List Text)
  | .given name => .ok [name]
  | .file path => ((surroundings.file path).map nameLines).mapError (.fileRead path)
  | .input =>
      match surroundings.input with
      | none => .error .noNames
      | some content => (content.map nameLines).mapError .inputRead

def splitReport (dialect : Dialect) (name : Text) : Report :=
  let notices := dialect.splitNotices name
  match dialect.split name with
  | .ok segments => { notices, output := linesText segments }
  | .error error => { notices, failure := some (.split error) }

def parseReport (dialect : Dialect) (strict : Bool) (raw : List Text) : Report :=
  let batch := if strict then dialect.strictBatch raw else dialect.lenientBatch raw
  { notices :=
      if strict then dialect.strictNotices raw else raw.flatMap dialect.parseNotices
    output := records batch.names
    failure := batch.error.map .split }

def Task.report (dialect : Dialect) (surroundings : Surroundings) : Task → Report
  | .split name => splitReport dialect name
  | .parse source strict =>
      match source.names surroundings with
      | .ok raw => parseReport dialect strict raw
      | .error failure => .fail failure
  | .format segments style =>
      { output := linesText [dialect.render (.ofSegments segments) style] }
  | .check segment =>
      if Text.isSimpleName segment then { output := linesText ["simple".toList] }
      else { output := linesText ["needs quoting".toList], affirmed := false }
  | .quote template values =>
      match dialect.quoteForStatement template values with
      | .ok statement => { output := linesText [statement] }
      | .error error => .fail (.template error)

/-- A task is carried out only if its quote makes a dialect. -/
def Invocation.report (surroundings : Surroundings) (invocation : Invocation) : Report :=
  match Dialect.ofQuote invocation.quote with
  | .error error => .fail (.dialect error)
  | .ok dialect =>
      let report := invocation.task.report dialect surroundings
      { report with notices := .dialectInUse dialect.quote :: report.notices }

structure Exit where
  code : Nat
  output : Text := []
  /-- The lines on the error stream; of a command line that cannot be read there are none. -/
  errors : List Text := []

def Report.exit (filter : Notice.Filter) (report : Report) : Exit where
  code := if report.failure.isSome || !report.affirmed then 1 else 0
  output := report.output
  errors := (report.notices.filter filter.admits).map Notice.line ++
    (report.failure.map Failure.lines).getD []

def versionLine : Text := "dotname 0.1.0".toList

def usageLines : List Text :=
  ["usage: dotname [--quote CHARACTER] [-v]... COMMAND".toList,
   "  split NAME".toList,
   "  parse [NAME | --file PATH] [--strict]".toList,
   "  format [--unquoted | --minimal] SEGMENT...".toList,
   "  check SEGMENT".toList,
   "  quote TEMPLATE [VALUE]...".toList]

def Stop.exit : Stop → Exit
  | .usage => { code := 2 }
  | .help => { code := 0, output := linesText usageLines }
  | .version => { code := 0, output := linesText [versionLine] }

/-- The whole command. The two settings of the surroundings are a quote and rules for notices. -/
def run (words : List Text) (quote rules : Option Text) (surroundings : Surroundings) : Exit :=
  match Invocation.read quote words with
  | .error stop => stop.exit
  | .ok invocation =>
      (invocation.report surroundings).exit (.choose invocation.verbosity rules)

end Command

end DottedNames
