import DottedNames.Notice
import DottedNames.Notice.Pattern
import DottedNames.Text.Space

set_option autoImplicit false

namespace DottedNames

namespace Notice

/-- Lets through the notices of a part of the program down to a severity, or none of them. -/
structure Rule where
  /-- Parts of the program whose names begin like this. -/
  target : Text := []
  /-- What a notice has to tell, if the rule is not for all notices. -/
  field : Option Text := none
  severity : Option Severity
deriving DecidableEq

abbrev Filter := List Rule

def Rule.applies (rule : Rule) (notice : Notice) : Bool :=
  rule.target.isPrefixOf notice.target && rule.field.all fun field => notice.fields.contains field

/-- Whether a rule is more specific than another one that applies to the same notices. -/
def Rule.isAbove (rule other : Rule) : Bool :=
  if rule.target.length ≠ other.target.length then other.target.length < rule.target.length
  else
    match rule.field, other.field with
    | some field, some otherField => otherField < field
    | some _, none => true
    | none, _ => false

/-- Of two rules the more specific one decides, and of equal ones the later. -/
def Rule.prefer (chosen : Option Rule) (rule : Rule) : Option Rule :=
  match chosen with
  | none => some rule
  | some other => if other.isAbove rule then some other else some rule

def Filter.rule? (filter : Filter) (notice : Notice) : Option Rule :=
  (filter.filter (·.applies notice)).foldl Rule.prefer none

def Filter.admits (filter : Filter) (notice : Notice) : Bool :=
  match (filter.rule? notice).bind Rule.severity with
  | none => false
  | some severity => notice.severity.rank ≤ severity.rank

def Filter.upTo (severity : Severity) : Filter := [{ severity := some severity }]

/-- A number in decimal digits, with or without a plus sign. -/
def number? (text : Text) : Option Nat :=
  let digits := if text.head? = some '+' then text.tail else text
  if digits = [] || !digits.all Char.isDigit then none
  else some (digits.foldl (fun n c => 10 * n + (c.toNat - '0'.toNat)) 0)

/-- A severity by its name in any case or by its number; `off` and zero admit nothing. -/
def threshold? (text : Text) : Option (Option Severity) :=
  match number? text with
  | some 0 => some none
  | some rank => (Severity.all.find? fun severity => severity.rank = rank).map some
  | none =>
      let named := text.map Char.toUpper
      if named = "OFF".toList then some none
      else (Severity.all.find? fun severity => severity.label = named).map some

/-- A severity behind an equals sign. It is the lowest one if it is left out. -/
def severityBehind? : Text → Option (Option Severity)
  | [] => some (some .trace)
  | '=' :: text => if text = [] then some (some .trace) else threshold? text
  | _ => none

def startsTarget (c : Char) : Bool := c = '-' || c = ':' || c = '_' || Text.isAlphanumeric c

/-- A number with a point or an exponent, or the name of one that is not finite. -/
def isDecimal (text : Text) : Bool :=
  let whole := text.takeWhile Char.isDigit
  let rest := text.drop whole.length
  let point := rest.head? = some '.'
  let fraction := if point then rest.tail.takeWhile Char.isDigit else []
  let exponent := if point then rest.tail.drop fraction.length else rest
  let isFinite := (whole ≠ [] || fraction ≠ []) &&
    match exponent with
    | [] => true
    | mark :: rest =>
        let digits := if rest.head?.any fun c => c = '+' || c = '-' then rest.tail else rest
        mark.toLower = 'e' && digits ≠ [] && digits.all Char.isDigit
  isFinite || ["inf", "infinity", "nan"].contains (String.ofList (text.map Char.toLower))

/-- The value of a field is a pattern or a number. Only numbers start with a plus sign. -/
def isValue (text : Text) : Bool :=
  match text with
  | '+' :: number => isDecimal number
  | text => isPattern text

/-- A field is a name, or a name and a value with an equals sign between them. -/
def isField (text : Text) : Bool :=
  match Text.cutAt? '=' text with
  | none => text ≠ []
  | some (_, value) => isValue (value.takeWhile fun c => c ≠ '=')

/-- What stands between brackets: the name of a span, or a field between braces behind it. -/
structure Scope where
  isSpan : Bool
  field : Option Text
  rest : Text

def Scope.read? (text : Text) : Option Scope :=
  let name := text.takeWhile fun c => c ≠ ']' && c ≠ '\x7b'
  match text.drop name.length with
  | ']' :: rest => some ⟨true, none, rest⟩
  | '\x7b' :: rest =>
      let field := rest.takeWhile (· ≠ '\x7d')
      match rest.drop field.length with
      | '\x7d' :: ']' :: rest =>
          if isField field then some ⟨name ≠ [], some field, rest⟩ else none
      | _ => none
  | _ => none

/-- A scope is about notices if it names no span and no value of a field. There are no spans. -/
def Scope.concernsNotices (scope : Scope) : Bool :=
  !scope.isSpan && scope.field.all fun field => !field.contains '='

/-- The rules that a text stands for, at most one: a severity for everything, or a target, a scope
or both, with or without a severity. White space in front belongs to the target, and it is malformed
in a rule that ends in a severity, as it is behind one. -/
def Rule.read? (text : Text) : Option (List Rule) :=
  let trimmed := Text.trim text
  let word := trimmed.takeWhile fun c => c ≠ '=' && c ≠ '['
  if !word.head?.all startsTarget then none
  else
    match word, trimmed.drop word.length with
    | [], [] => none
    | _, [] =>
        match threshold? text with
        | some severity => some [{ severity }]
        | none => some [{ target := text, severity := some .trace }]
    | [], '=' :: _ => none
    | word, '[' :: rest => do
        let scope ← Scope.read? rest
        let severity ← severityBehind? scope.rest
        if scope.rest ≠ [] && trimmed ≠ text then none
        else if scope.concernsNotices then
          let target := text.takeWhile Text.isSpace ++ word
          return [{ target, field := scope.field, severity }]
        else return []
    | word, rest => do
        let severity ← severityBehind? rest
        if trimmed ≠ text then none else return [{ target := word, severity }]

/-- Rules with commas between them. Empty ones are skipped; a malformed one makes the whole text
invalid. -/
def Filter.read? (text : Text) : Option Filter := do
  return (← ((Text.splitAt ',' text).filter (· ≠ [])).mapM Rule.read?).flatten

/-- A count of requests for more notices comes first, then the rules that the surroundings give.
Without valid ones, warnings and errors are shown. -/
def Filter.choose (verbosity : Nat) (rules : Option Text) : Filter :=
  match verbosity with
  | 0 => (rules.bind read?).getD (upTo .warn)
  | 1 => upTo .debug
  | _ => upTo .trace

end Notice

end DottedNames
