import DottedNames.Text

set_option autoImplicit false

namespace DottedNames

namespace Command

inductive Stop where
  | usage
  | help
  | version
deriving DecidableEq

/-- Options with a value. -/
inductive Setting where
  | quote
  | file
deriving DecidableEq

/-- Options without a value. -/
inductive Switch where
  | verbose
  | strict
  | unquoted
  | minimal
  | help
  | version
deriving DecidableEq

def Setting.label : Setting → Text
  | .quote => "quote".toList
  | .file => "file".toList

def Switch.label : Switch → Text
  | .verbose => "verbose".toList
  | .strict => "strict".toList
  | .unquoted => "unquoted".toList
  | .minimal => "minimal".toList
  | .help => "help".toList
  | .version => "version".toList

def Switch.letter? : Switch → Option Char
  | .verbose => some 'v'
  | .help => some 'h'
  | .version => some 'V'
  | .strict | .unquoted | .minimal => none

inductive Word where
  | operand (text : Text)
  | endOfOptions
  | option (label : Text) (value : Option Text)
  | cluster (letters : Text)
deriving DecidableEq

/-- A dash alone is an operand. -/
def Word.read : Text → Word
  | ['-', '-'] => .endOfOptions
  | '-' :: '-' :: rest =>
      match Text.cutAt? '=' rest with
      | some (label, value) => .option label (some value)
      | none => .option rest none
  | '-' :: letter :: rest => .cluster (letter :: rest)
  | text => .operand text

structure Scope where
  settings : List Setting
  switches : List Switch
  /-- The most operands in all. -/
  most : Option Nat := none
  /-- The most operands that stand together with no option between them. -/
  mostTogether : Option Nat := none

structure Given where
  quote : Option Char := none
  file : Option Text := none
  verbosity : Nat := 0
  /-- The switches that may be given only once. -/
  switches : List Switch := []
  operands : List Text := []

/-- What the words so far leave open until an option or the end of the words settles it. -/
inductive Pending where
  | nothing
  /-- The value of an option is the next word. -/
  | value (setting : Setting)
  | setting (setting : Setting) (value : Text)
  | operands (count : Nat)
deriving DecidableEq

structure Progress where
  given : Given := {}
  pending : Pending := .nothing
  optionsEnded : Bool := false

def exceeds (count : Nat) : Option Nat → Bool
  | none => false
  | some most => most < count

/-- A quote is one character and a file has a name; neither may be given twice. -/
def Given.set (given : Given) : Setting → Text → Except Stop Given
  | .quote, [c] =>
      if given.quote.isSome then .error .usage else .ok { given with quote := some c }
  | .file, c :: rest =>
      if given.file.isSome then .error .usage else .ok { given with file := some (c :: rest) }
  | _, _ => .error .usage

def Given.switchOn (given : Given) : Switch → Except Stop Given
  | .help => .error .help
  | .version => .error .version
  | .verbose => .ok { given with verbosity := given.verbosity + 1 }
  | switch =>
      if switch ∈ given.switches then .error .usage
      else .ok { given with switches := switch :: given.switches }

def Progress.settle (scope : Scope) (progress : Progress) : Except Stop Given :=
  match progress.pending with
  | .nothing => .ok progress.given
  | .value _ => .error .usage
  | .setting setting value => progress.given.set setting value
  | .operands count =>
      if exceeds count scope.mostTogether then .error .usage else .ok progress.given

def Progress.addOperand (scope : Scope) (progress : Progress) (text : Text) :
    Except Stop Progress := do
  let (given, count) ← match progress.pending with
    | .operands count => pure (progress.given, count)
    | _ => do pure (← progress.settle scope, 0)
  let operands := given.operands ++ [text]
  if exceeds operands.length scope.most then .error .usage
  else .ok { progress with given := { given with operands }, pending := .operands (count + 1) }

def Progress.addOption (scope : Scope) (progress : Progress) (label : Text)
    (value : Option Text) : Except Stop Progress :=
  match scope.settings.find? (·.label = label), scope.switches.find? (·.label = label), value with
  | some setting, _, none => do
      .ok { progress with given := ← progress.settle scope, pending := .value setting }
  | some setting, _, some value => do
      let given ← progress.settle scope
      if value = [] then .error .usage
      else .ok { progress with given := ← given.set setting value, pending := .nothing }
  | none, some switch, none => do
      let given ← progress.settle scope
      .ok { progress with given := ← given.switchOn switch, pending := .nothing }
  | none, some _, some _ => .error .usage
  | none, none, _ => .error .usage

def Progress.addLetter (scope : Scope) (progress : Progress) (letter : Char) :
    Except Stop Progress :=
  match scope.switches.find? (·.letter? = some letter) with
  | none => .error .usage
  | some switch => do
      let given ← progress.settle scope
      .ok { progress with given := ← given.switchOn switch, pending := .nothing }

def Progress.add (scope : Scope) (progress : Progress) (text : Text) : Except Stop Progress :=
  match progress.pending with
  | .value setting =>
      match Word.read text with
      | .operand value => .ok { progress with pending := .setting setting value }
      | _ => .error .usage
  | _ =>
      if progress.optionsEnded then progress.addOperand scope text
      else
        match Word.read text with
        | .operand text => progress.addOperand scope text
        | .endOfOptions => .ok { progress with optionsEnded := true }
        | .option label value => progress.addOption scope label value
        | .cluster letters => letters.foldlM (·.addLetter scope) progress

def Scope.read (scope : Scope) (words : List Text) : Except Stop Given := do
  (← words.foldlM (·.add scope) ({} : Progress)).settle scope

end Command

end DottedNames
