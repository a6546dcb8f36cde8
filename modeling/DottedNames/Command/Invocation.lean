import DottedNames.Command.Words
import DottedNames.Name.Rendering

set_option autoImplicit false

namespace DottedNames

namespace Command

inductive Verb where
  | split
  | parse
  | format
  | check
  | quote
deriving DecidableEq

namespace Verb

def all : List Verb := [.split, .parse, .format, .check, .quote]

def label : Verb → Text
  | .split => "split".toList
  | .parse => "parse".toList
  | .format => "format".toList
  | .check => "check".toList
  | .quote => "quote".toList

def ofLabel? (label : Text) : Option Verb := all.find? fun verb => verb.label = label

def scope : Verb → Scope
  | .split | .check =>
      { settings := [.quote], switches := [.verbose, .help], most := some 1 }
  | .parse =>
      { settings := [.quote, .file], switches := [.verbose, .help, .strict], most := some 1 }
  | .format =>
      { settings := [.quote], switches := [.verbose, .help, .unquoted, .minimal]
        mostTogether := some Level.all.length }
  | .quote => { settings := [.quote], switches := [.verbose, .help] }

end Verb

def outerScope : Scope :=
  { settings := [.quote], switches := [.verbose, .help, .version], most := some 0 }

inductive NameSource where
  | given (name : Text)
  | file (path : Text)
  | input
deriving DecidableEq

inductive Task where
  | split (name : Text)
  | parse (source : NameSource) (strict : Bool)
  | format (segments : List Text) (style : Style)
  | check (segment : Text)
  | quote (template : Text) (values : List Text)
deriving DecidableEq

structure Invocation where
  task : Task
  quote : Char
  verbosity : Nat
deriving DecidableEq

def nameSource : List Text → Option Text → Except Stop NameSource
  | [], none => .ok .input
  | [], some path => .ok (.file path)
  | [name], none => .ok (.given name)
  | _, _ => .error .usage

def formatStyle (given : Given) : Except Stop Style :=
  match decide (.unquoted ∈ given.switches), decide (.minimal ∈ given.switches) with
  | false, false => .ok .quoted
  | true, false => .ok .unquoted
  | false, true => .ok .minimal
  | true, true => .error .usage

def Verb.task (verb : Verb) (given : Given) : Except Stop Task :=
  match verb, given.operands with
  | .split, [name] => .ok (.split name)
  | .check, [segment] => .ok (.check segment)
  | .parse, operands => do
      .ok (.parse (← nameSource operands given.file) (decide (.strict ∈ given.switches)))
  | .format, first :: rest => do .ok (.format (first :: rest) (← formatStyle given))
  | .quote, template :: values => .ok (.quote template values)
  | _, _ => .error .usage

/-- The quote of a level, or else the one of the surroundings, which has to be one character. -/
def Given.quoteOr (given : Given) (surrounding : Option Text) : Except Stop (Option Char) :=
  match given.quote, surrounding with
  | some _, _ => .ok none
  | none, none => .ok none
  | none, some [c] => .ok (some c)
  | none, some _ => .error .usage

/-- Joins the two levels. A quote given after the verb comes before one given in front of it, and
both before the one of the surroundings. -/
def Invocation.join (outer inner : Given) (surrounding : Option Text) (task : Task) :
    Except Stop Invocation := do
  let innerQuote ← inner.quoteOr surrounding
  let outerQuote ← outer.quoteOr surrounding
  .ok {
    task
    quote := (inner.quote <|> outer.quote <|> innerQuote <|> outerQuote).getD '"'
    verbosity := if inner.verbosity = 0 then outer.verbosity else inner.verbosity }

/-- A request for help may name one verb. -/
def helpStop : List Text → Stop
  | [] => .help
  | [word] => if word = "help".toList ∨ (Verb.ofLabel? word).isSome then .help else .usage
  | _ => .usage

def Progress.awaitsVerb (progress : Progress) : Bool :=
  !progress.optionsEnded &&
    match progress.pending with
    | .value _ => false
    | _ => true

/-- Reads a command line from its start. `surrounding` is the quote of the surroundings. -/
def Invocation.readFrom (surrounding : Option Text) :
    Progress → List Text → Except Stop Invocation
  | _, [] => .error .usage
  | outer, word :: rest =>
      if outer.awaitsVerb && word = "help".toList then .error (helpStop rest)
      else
        match Verb.ofLabel? word, outer.awaitsVerb with
        | some verb, true => do
            let inner ← verb.scope.read rest
            let task ← verb.task inner
            join (← outer.settle outerScope) inner surrounding task
        | _, _ => do readFrom surrounding (← outer.add outerScope word) rest

def Invocation.read (surrounding : Option Text) (words : List Text) : Except Stop Invocation :=
  readFrom surrounding {} words

end Command

end DottedNames
