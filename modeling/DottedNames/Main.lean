import DottedNames.Command.Report

set_option autoImplicit false

namespace DottedNames

namespace Command

def readFailure (error : IO.Error) : ReadFailure :=
  match error with
  | .noFileOrDirectory _ _ _ => .missing
  | .permissionDenied _ _ _ => .noAccess
  | .inappropriateType _ code _ => if code = 20 then .notDirectory else .isDirectory
  | .invalidArgument _ code _ =>
      if code = 36 then .nameTooLong else .other (toString error).toList
  | _ => .other (toString error).toList

partial def readAll (stream : IO.FS.Stream) (before : ByteArray) : IO ByteArray := do
  let bytes ← stream.read 65536
  if bytes.isEmpty then return before else readAll stream (before ++ bytes)

def contentOf (read : IO ByteArray) : IO Content := do
  match ← read.toBaseIO with
  | .ok bytes => return .ofBytes bytes
  | .error error => return .error (readFailure error)

def noSurroundings : Surroundings := { file := fun _ => .error .missing, input := none }

/-- Fetches only what the task reads from. -/
def surroundingsFor : Task → IO Surroundings
  | .parse (.file path) _ => do
      let content ← contentOf (IO.FS.readBinFile (String.ofList path))
      return { noSurroundings with file := fun _ => content }
  | .parse .input _ => do
      let stream ← IO.getStdin
      if ← stream.isTty then return noSurroundings
      else return { noSurroundings with input := some (← contentOf (readAll stream .empty)) }
  | _ => return noSurroundings

def environment (name : String) : IO (Option Text) := do
  return (← IO.getEnv name).map String.toList

def main (arguments : List String) : IO UInt32 := do
  let words := arguments.map String.toList
  let quote ← environment "DOTNAME_QUOTE"
  let rules ← environment "RUST_LOG"
  let surroundings ←
    match Invocation.read quote words with
    | .ok invocation => surroundingsFor invocation.task
    | .error _ => pure noSurroundings
  let exit := run words quote rules surroundings
  IO.print (String.ofList exit.output)
  IO.eprint (String.ofList (linesText exit.errors))
  if exit.code = 2 then IO.eprint (String.ofList (linesText usageLines))
  return exit.code.toUInt32

end Command

end DottedNames

def main (arguments : List String) : IO UInt32 := DottedNames.Command.main arguments
