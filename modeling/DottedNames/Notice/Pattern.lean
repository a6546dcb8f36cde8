import DottedNames.Text.Alphanumeric
import DottedNames.Text.Code

set_option autoImplicit false

namespace DottedNames

namespace Notice

namespace Pattern

inductive Escape where
  | char (c : Char)
  | anyOf
  | border
deriving DecidableEq

def namedEscapes : List (Char × Escape) :=
  [('a', .char '\x07'), ('f', .char '\x0c'), ('t', .char '\t'), ('n', .char '\n'),
   ('r', .char '\r'), ('v', .char '\x0b'), ('d', .anyOf), ('D', .anyOf), ('s', .anyOf),
   ('S', .anyOf), ('w', .anyOf), ('W', .anyOf), ('A', .border), ('z', .border)]

def isCategory (c : Char) : Bool := "CLMNPSZ".toList.contains c.toUpper

def isSign (c : Char) : Bool := c.toNat < 128 && !c.isAlphanum && c ≠ '<' && c ≠ '>'

def escape? : Text → Option (Escape × Text)
  | [] => none
  | c :: rest =>
      match namedEscapes.lookup c, Text.codeEscapes.lookup c with
      | some escape, _ => some (escape, rest)
      | none, some digits =>
          (Text.codeChar? digits rest).map fun value => (.char value, rest.drop digits)
      | none, none =>
          if isSign c then some (.char c, rest)
          else if (c = 'p' || c = 'P') && rest.head?.any isCategory then some (.anyOf, rest.tail)
          else none

/-- An item of a set: a character, or none for a class of them. -/
def item? : Text → Option (Option Char × Text)
  | [] => none
  | c :: rest =>
      if c = '\\' then
        match escape? rest with
        | some (.char c, rest) => some (some c, rest)
        | some (.anyOf, rest) => some (none, rest)
        | _ => none
      else some (some c, rest)

/-- An item, or two characters in order with a dash between them. -/
def range? (text : Text) : Option Text := do
  let (low, rest) ← item? text
  match rest with
  | '-' :: next :: after =>
      if next = ']' || next = '-' then return rest
      else
        let (high, rest) ← item? (next :: after)
        match low, high with
        | some low, some high => if low ≤ high then return rest else none
        | _, _ => none
  | _ => return rest

/-- The start of a set behind its bracket. Dashes there stand for themselves, and so does a closing
bracket. -/
def openSet (text : Text) : Text :=
  let text := if text.head? = some '^' then text.tail else text
  let rest := text.dropWhile fun c => c = '-'
  if rest.length = text.length && rest.head? = some ']' then rest.tail else rest

def setNames : List String :=
  ["alnum", "alpha", "ascii", "blank", "cntrl", "digit", "graph", "lower", "print", "punct",
   "space", "upper", "word", "xdigit"]

/-- A set given by its name between colons, behind its bracket. -/
def namedSet? : Text → Option Text
  | ':' :: text =>
      let text := if text.head? = some '^' then text.tail else text
      let name := text.takeWhile fun c => c ≠ ':'
      match text.drop name.length with
      | ':' :: ']' :: rest => if setNames.contains (String.ofList name) then some rest else none
      | _ => none
  | _ => none

/-- The text behind a set that is in a number of others. Each step passes a character at least. -/
def setFrom : Nat → Nat → Text → Option Text
  | 0, _, _ => none
  | fuel + 1, depth, text =>
      match text with
      | [] => none
      | '[' :: rest =>
          match namedSet? rest with
          | some rest => setFrom fuel depth rest
          | none => setFrom fuel (depth + 1) (openSet rest)
      | ']' :: rest =>
          match depth with
          | 0 => some rest
          | depth + 1 => setFrom fuel depth rest
      | '&' :: '&' :: rest | '-' :: '-' :: rest | '~' :: '~' :: rest => setFrom fuel depth rest
      | text => (range? text).bind (setFrom fuel depth)

def set? (text : Text) : Option Text := setFrom text.length 0 (openSet text)

structure Progress where
  depth : Nat := 0
  repeatable : Bool := false
  names : List Text := []

def Progress.enter (progress : Progress) : Progress :=
  { progress with depth := progress.depth + 1, repeatable := false }

def isName : Text → Bool
  | [] => false
  | c :: rest =>
      (c = '_' || (Text.isAlphanumeric c && !c.isDigit)) &&
        rest.all fun c => Text.isAlphanumeric c || "_.[]".toList.contains c

/-- A name of a group in front of an angle. Every name is given once. -/
def nameGroup? (progress : Progress) (text : Text) : Option (Progress × Text) :=
  let name := text.takeWhile fun c => c ≠ '>'
  let rest := text.drop name.length
  if rest = [] || !isName name || progress.names.contains name then none
  else some ({ progress.enter with names := name :: progress.names }, rest.tail)

/-- Flags, each of them once, and a dash in front of those that are switched off. -/
def areFlags (flags : Text) : Bool :=
  flags.all (fun c => "imsUuRx-".toList.contains c) && decide flags.Nodup &&
    flags.getLast? ≠ some '-'

/-- Flags behind a question mark, for a group or for what comes next. -/
def flagGroup? (progress : Progress) (text : Text) : Option (Progress × Text) :=
  let flags := text.takeWhile fun c => c ≠ ':' && c ≠ ')'
  match areFlags flags, text.drop flags.length with
  | true, ':' :: rest => some (progress.enter, rest)
  | true, ')' :: rest =>
      if flags = [] then none else some ({ progress with repeatable := false }, rest)
  | _, _ => none

def openGroup? (progress : Progress) : Text → Option (Progress × Text)
  | '?' :: 'P' :: '<' :: rest | '?' :: '<' :: rest => nameGroup? progress rest
  | '?' :: rest => flagGroup? progress rest
  | rest => some (progress.enter, rest)

def step (progress : Progress) (c : Char) (rest : Text) : Option (Progress × Text) :=
  let single : Progress := { progress with repeatable := true }
  if c = '(' then openGroup? progress rest
  else if c = ')' then
    if progress.depth = 0 then none
    else some ({ single with depth := progress.depth - 1 }, rest)
  else if c = '|' then some ({ progress with repeatable := false }, rest)
  else if c = '?' || c = '*' || c = '+' then
    if progress.repeatable then some (progress, rest) else none
  else if c = '\x7b' then none
  else if c = '[' then (set? rest).map fun rest => (single, rest)
  else if c = '\\' then (escape? rest).map fun (_, rest) => (single, rest)
  else some (single, rest)

/-- Whether a pattern goes on to its end. Each step passes a character at least. -/
def goesOn : Nat → Progress → Text → Bool
  | _, progress, [] => progress.depth = 0
  | 0, _, _ => false
  | fuel + 1, progress, c :: rest =>
      (step progress c rest).any fun (progress, rest) => goesOn fuel progress rest

end Pattern

/-- Only the form of a pattern is judged, because notices are not chosen by values. A rule has no
place for a closing brace, so nothing that needs one is in a pattern. -/
def isPattern (text : Text) : Bool := Pattern.goesOn text.length {} text

end Notice

end DottedNames
