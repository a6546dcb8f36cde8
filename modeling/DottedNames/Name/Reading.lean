import DottedNames.Name
import DottedNames.Split

set_option autoImplicit false

namespace DottedNames

namespace Dialect

variable (dialect : Dialect)

def nameOfSegments (raw : List Text) : QualifiedName :=
  .ofSegments (raw.map dialect.decodeSegment)

def tryParse (text : Text) : Except SplitError QualifiedName :=
  (dialect.split text).map dialect.nameOfSegments

def parse (text : Text) : QualifiedName :=
  match dialect.tryParse text with
  | .ok name => name
  | .error _ => {}

theorem parse_of_split_ok {text : Text} {raw : List Text} (read : dialect.split text = .ok raw) :
    dialect.parse text = dialect.nameOfSegments raw := by
  simp [parse, tryParse, read, Except.map]

theorem parse_of_split_error {text : Text} {error : SplitError}
    (failed : dialect.split text = .error error) : dialect.parse text = {} := by
  simp [parse, tryParse, failed, Except.map]

end Dialect

end DottedNames
