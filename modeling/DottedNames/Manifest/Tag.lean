import DottedNames.Manifest.Scalar

set_option autoImplicit false

namespace DottedNames

namespace Manifest

/-- A character of an anchor, a handle or a directive's name. -/
def isNamePart (c : Char) : Bool := c.isAlphanum || c = '_' || c = '-'

/-- A tag as it is written. A handle stands for the start of the tag; there may be none. -/
structure Tag where
  handle : Text
  suffix : Text
deriving DecidableEq

inductive Directive where
  | version (major minor : Nat)
  | tag (handle start : Text)
deriving DecidableEq

namespace Tag

/-- The handles that need no directive. -/
def knownHandles : List (Text × Text) :=
  [(['!'], ['!']), (['!', '!'], "tag:yaml.org,2002:".toList)]

/-- A whole tag may hold some characters that a tag behind a handle must not hold. -/
def isPart (whole : Bool) (c : Char) : Bool :=
  isNamePart c || ";/?:@&=+$.!~*'()".toList.contains c || (whole && ",[]".toList.contains c)

def following? (octet : Nat) : Option Nat :=
  if octet < 0x80 then some 0
  else if 0xc0 ≤ octet ∧ octet < 0xe0 then some 1
  else if 0xe0 ≤ octet ∧ octet < 0xf0 then some 2
  else if 0xf0 ≤ octet ∧ octet < 0xf8 then some 3
  else none

def dueAfter? (due octet : Nat) : Option Nat :=
  if due = 0 then following? octet else if octet / 0x40 = 2 then some (due - 1) else none

/-- The characters of a tag. After a percent sign an octet is written in hexadecimal digits, and
octets have to make up characters. The third character of such an octet shows whether it is one. -/
def octets (whole : Bool) (due : Nat) : Text → Except Text (Text × Text)
  | '%' :: high :: low :: rest =>
      match Text.hexDigit? high, Text.hexDigit? low with
      | some first, some second =>
          let octet := 16 * first + second
          match dueAfter? due octet with
          | some due =>
              (octets whole due rest).map fun (text, after) => (Char.ofNat octet :: text, after)
          | none => .error (low :: rest)
      | _, _ => .error (low :: rest)
  | c :: rest =>
      if due ≠ 0 || c = '%' then .error (rest.drop 1)
      else if isPart whole c then
        (octets whole 0 rest).map fun (text, after) => (c :: text, after)
      else .ok ([], c :: rest)
  | [] => if due = 0 then .ok ([], []) else .error []

/-- What is kept of the octets of a tag: those in front of the first that is zero. -/
def kept (octets : Text) : Text := octets.takeWhile fun c => c ≠ '\x00'

/-- A handle and the text behind it. It is closed if an exclamation mark ends it. -/
def readHandle (text : Text) : Text × Text :=
  let name := text.tail.takeWhile isNamePart
  let rest := text.tail.drop name.length
  if rest.head? = some '!' then ('!' :: name ++ ['!'], rest.tail) else ('!' :: name, rest)

def isClosed (handle : Text) : Bool := 1 < handle.length && handle.getLast? = some '!'

/-- A tag that starts with an exclamation mark. A whole tag stands between angles. The mark alone is
a tag without a handle. -/
def read (text : Text) : Except Text (Tag × Text) :=
  match text with
  | '!' :: '<' :: rest => do
      let (tag, rest) ← octets true 0 rest
      if tag = [] || rest.head? ≠ some '>' then throw rest else return (⟨[], kept tag⟩, rest.tail)
  | _ => do
      let (handle, rest) := readHandle text
      let (octets, rest) ← octets false 0 rest
      if isClosed handle then
        if octets = [] then throw rest else return (⟨handle, kept octets⟩, rest)
      else
        let suffix := handle.tail ++ kept octets
        return (if suffix = [] then ⟨[], ['!']⟩ else ⟨['!'], suffix⟩, rest)

def expand? (handles : List (Text × Text)) (tag : Tag) : Option Text :=
  if tag.handle = [] then some tag.suffix
  else (handles.lookup tag.handle).map (· ++ tag.suffix)

end Tag

namespace Directive

/-- A number of at most nine digits. -/
def number (text : Text) : Except Text (Nat × Text) :=
  let digits := text.takeWhile Char.isDigit
  if digits = [] || 9 < digits.length then .error text
  else .ok (digits.foldl (fun n c => 10 * n + (c.toNat - '0'.toNat)) 0, text.drop digits.length)

def readVersion (text : Text) : Except Text (Directive × Text) := do
  let (major, rest) ← number text
  if rest.head? ≠ some '.' then throw rest
  else
    let (minor, rest) ← number rest.tail
    return (.version major minor, rest)

def readTag (text : Text) : Except Text (Directive × Text) := do
  if text.head? ≠ some '!' then throw text
  else
    let (handle, rest) := Tag.readHandle text
    if !(handle = ['!'] || Tag.isClosed handle) || !rest.head?.any isBlank then throw rest
    else
      let (start, rest) ← Tag.octets true 0 (rest.dropWhile isBlank)
      if start = [] || !endsWord rest then throw rest
      else return (.tag handle (Tag.kept start), rest)

/-- A directive behind its percent sign. The rest of its line is empty. -/
def read (text : Text) : Except Text (Directive × Text) := do
  let name := text.takeWhile isNamePart
  let rest := text.drop name.length
  if !endsWord rest then throw rest
  else
    let content := rest.dropWhile isBlank
    let (directive, rest) ←
      if name = "YAML".toList then readVersion content
      else if name = "TAG".toList then readTag content
      else throw rest
    match lineEnd? rest with
    | none => throw rest
    | some rest => return (directive, rest)

end Directive

end Manifest

end DottedNames
