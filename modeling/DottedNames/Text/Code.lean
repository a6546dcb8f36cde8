import DottedNames.Text

set_option autoImplicit false

namespace DottedNames

namespace Text

def hexDigit? (c : Char) : Option Nat :=
  if c.isDigit then some (c.toNat - '0'.toNat)
  else if 'a' ≤ c ∧ c ≤ 'f' then some (c.toNat - 'a'.toNat + 10)
  else if 'A' ≤ c ∧ c ≤ 'F' then some (c.toNat - 'A'.toNat + 10)
  else none

/-- The character whose code is written in a number of digits at the start of a text. -/
def codeChar? (digits : Nat) (text : Text) : Option Char :=
  let written := text.take digits
  if written.length = digits then
    match written.mapM hexDigit? with
    | none => none
    | some values =>
        let code := values.foldl (fun code value => 16 * code + value) 0
        if code.isValidChar then some (Char.ofNat code) else none
  else none

/-- The letters behind a backslash that a number of hexadecimal digits follows. -/
def codeEscapes : List (Char × Nat) := [('x', 2), ('u', 4), ('U', 8)]

end Text

end DottedNames
