import DottedNames.Name.Reading
import DottedNames.Name.Rendering

set_option autoImplicit false

namespace DottedNames

/-- An input with the expectations that are stated for it; the absent ones are not looked at. -/
structure Case where
  input : Text := []
  /-- The quote of the dialect, if not the usual one. -/
  quote : Option Char := none
  segments : Option (List Text) := none
  /-- An expected name has the four levels of a name, each of which may be absent, and is kept as
  one. -/
  name : Option QualifiedName := none
  quoted : Option Text := none
  unquoted : Option Text := none
  minimal : Option Text := none
  /-- The message of the error that splitting the input should give. -/
  error : Option Text := none
  simple : Option Bool := none
deriving DecidableEq

namespace Case

instance : Inhabited Case := ⟨{}⟩

inductive Failure where
  | dialect (error : DialectError)
  | simpleName (input : Text) (expected actual : Bool)
  | noError (expected : Text) (segments : List Text)
  | otherError (expected : Text) (actual : SplitError)
  | unexpectedError (actual : SplitError)
  | malformedNotEmpty (input : Text) (parsed : QualifiedName)
  | otherSegments (expected actual : List Text)
  | otherName (expected actual : QualifiedName)
  | otherRendering (style : Style) (expected actual : Text)
  | roundTrip (parsed reparsed : QualifiedName)
deriving DecidableEq

def Failure.message : Failure → Text
  | .dialect error => error.message
  | .simpleName input expected actual =>
      "simple name mismatch for `".toList ++ input ++ "`; expected: ".toList ++
        (toString expected).toList ++ ", actual: ".toList ++ (toString actual).toList
  | .noError expected segments =>
      "expected error: ".toList ++ expected ++ ", but got segments: ".toList ++
        Text.literalList segments
  | .otherError expected actual =>
      "expected error: ".toList ++ expected ++ ", but got: ".toList ++ actual.message
  | .unexpectedError actual => "unexpected error: ".toList ++ actual.message
  | .malformedNotEmpty input parsed =>
      "malformed input `".toList ++ input ++ "` must parse to an empty name, got: ".toList ++
        parsed.literal
  | .otherSegments expected actual =>
      "segment mismatch; expected: ".toList ++ Text.literalList expected ++ ", actual: ".toList ++
        Text.literalList actual
  | .otherName expected actual =>
      "parsed name mismatch; expected: ".toList ++ expected.literal ++ ", actual: ".toList ++
        actual.literal
  | .otherRendering style expected actual =>
      style.label ++ " format mismatch; expected: ".toList ++ expected ++ ", actual: ".toList ++
        actual
  | .roundTrip parsed reparsed =>
      "quoted format does not round trip; parsed: ".toList ++ parsed.literal ++
        ", reparsed: ".toList ++ reparsed.literal

/-- An expectation that is stated has to be met. -/
def expect {α : Type} [DecidableEq α] (expected : Option α) (actual : α)
    (failure : α → α → Failure) : Except Failure Unit :=
  match expected with
  | none => .ok ()
  | some value => if value = actual then .ok () else .error (failure value actual)

def dialect (test : Case) : Except Failure Dialect :=
  match test.quote with
  | none => .ok default
  | some quote => (Dialect.ofQuote quote).mapError .dialect

def checkSegments (test : Case) (dialect : Dialect) (segments : List Text) :
    Except Failure Unit := do
  expect test.segments segments .otherSegments
  let parsed := dialect.parse test.input
  expect test.name parsed .otherName
  expect test.quoted (dialect.render parsed .quoted) (.otherRendering .quoted)
  expect test.unquoted (dialect.render parsed .unquoted) (.otherRendering .unquoted)
  expect test.minimal (dialect.render parsed .minimal) (.otherRendering .minimal)
  let reparsed := dialect.parse (dialect.render parsed .quoted)
  if reparsed = parsed then .ok () else .error (.roundTrip parsed reparsed)

/-- The expectations on a malformed input. The lenient reading of it has to be empty. -/
def checkError (test : Case) (dialect : Dialect) (expected : Text) (actual : SplitError) :
    Except Failure Unit :=
  if actual.message = expected then
    let parsed := dialect.parse test.input
    if parsed.isEmpty then .ok () else .error (.malformedNotEmpty test.input parsed)
  else .error (.otherError expected actual)

def check (test : Case) : Except Failure Unit := do
  let dialect ← test.dialect
  expect test.simple (Text.isSimpleName test.input) (.simpleName test.input)
  match dialect.split test.input, test.error with
  | .ok segments, none => test.checkSegments dialect segments
  | .ok segments, some expected => .error (.noError expected segments)
  | .error actual, some expected => test.checkError dialect expected actual
  | .error actual, none => .error (.unexpectedError actual)

def failure? (test : Case) : Option Failure :=
  match test.check with
  | .ok _ => none
  | .error failure => some failure

end Case

end DottedNames
