import DottedNames.Text

set_option autoImplicit false

namespace DottedNames

inductive ReadFailure where
  | missing
  | isDirectory
  | notDirectory
  | noAccess
  | notUtf8
  /-- A path holds the character that would end it for the operating system. -/
  | brokenPath
  | nameTooLong
  | other (reason : Text)
deriving DecidableEq

def ReadFailure.message : ReadFailure → Text
  | .missing => "No such file or directory (os error 2)".toList
  | .isDirectory => "Is a directory (os error 21)".toList
  | .notDirectory => "Not a directory (os error 20)".toList
  | .noAccess => "Permission denied (os error 13)".toList
  | .notUtf8 => "stream did not contain valid UTF-8".toList
  | .brokenPath => "file name contained an unexpected NUL byte".toList
  | .nameTooLong => "File name too long (os error 36)".toList
  | .other reason => reason

abbrev Content := Except ReadFailure Text

def Content.ofBytes (bytes : ByteArray) : Content :=
  match String.fromUTF8? bytes with
  | some content => .ok content.toList
  | none => .error .notUtf8

end DottedNames
