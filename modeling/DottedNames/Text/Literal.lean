import DottedNames.Text
import DottedNames.Text.Hidden
import DottedNames.Text.Marks

set_option autoImplicit false

namespace DottedNames

namespace Text

/-- A character by its code point, in lower-case hexadecimal digits. -/
def codeEscape (c : Char) : Text :=
  '\\' :: 'u' :: '{' :: Nat.toDigits 16 c.toNat ++ ['}']

def literalChar (c : Char) : Text :=
  match c with
  | '\x00' => ['\\', '0']
  | '\t' => ['\\', 't']
  | '\n' => ['\\', 'n']
  | '\r' => ['\\', 'r']
  | '"' => ['\\', '"']
  | '\\' => ['\\', '\\']
  | _ => if isMark c || isHidden c then codeEscape c else [c]

def literal (text : Text) : Text :=
  '"' :: text.flatMap literalChar ++ ['"']

/-- Items with a comma and a blank between neighbours. -/
def commaList (items : List Text) : Text := [',', ' '].intercalate items

def literalList (texts : List Text) : Text :=
  '[' :: commaList (texts.map literal) ++ [']']

def literalOption : Option Text → Text
  | none => "None".toList
  | some text => "Some(".toList ++ literal text ++ [')']

end Text

end DottedNames
