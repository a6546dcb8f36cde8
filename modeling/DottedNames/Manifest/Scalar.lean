import DottedNames.Manifest.Cursor

set_option autoImplicit false

namespace DottedNames

namespace Manifest

/-- How a scalar is written. The last two are blocks of lines. -/
inductive Style where
  | plain
  | quoted
  | literal
  | folded
deriving DecidableEq

/-- The line breaks in white space, each as the character that it stands for. -/
def breaks : Text → Text
  | [] => []
  | c :: rest =>
      if !isBreak c || (c = '\r' && rest.head? = some '\n') then breaks rest
      else (if c = '\u2028' || c = '\u2029' then c else '\n') :: breaks rest

/-- What white space between two words of a scalar stands for. -/
def fold (white : Text) : Text :=
  match breaks white with
  | [] => white
  | '\n' :: [] => [' ']
  | '\n' :: more => more
  | first :: more => first :: more

structure Scalar where
  text : Text
  after : Cursor
  /-- Whether the place behind it is on a later line than its last word. -/
  crossed : Bool := false

def isFlowIndicator (c : Char) : Bool :=
  c = ',' || c = '[' || c = ']' || c = '{' || c = '}'

/-- In a flow collection a colon right before an indicator is neither text nor the end of a key. -/
def strayColon : Text → Bool
  | ':' :: c :: _ => isFlowIndicator c || c = '?'
  | _ => false

/-- The characters of a plain scalar up to white space or to what ends it. -/
def plainRun (inFlow : Bool) : Text → Text
  | [] => []
  | c :: rest =>
      if isWhite c || (c = ':' && endsWord rest) ||
          (inFlow && (isFlowIndicator c || strayColon (c :: rest))) then []
      else c :: plainRun inFlow rest

/-- A tab in the indentation of a later line of a plain scalar. -/
def indentTab? (indent : Nat) (start : Cursor) : Option Fault :=
  (start.trail start.white.length).findSome? fun place =>
    if start.line < place.line && place.column < indent && place.rest.head? = some '\t' then
      some ⟨place.line⟩
    else none

/-- Reads on in a plain scalar. `parts` are its words and what is between them, last first, and
`white` stands between the last word and the cursor. Outside flow collections the scalar ends before
a line that is indented less than `indent`. -/
def plainFrom (inFlow : Bool) (indent : Nat) (parts : List Text) (white : Text) (cursor : Cursor) :
    Except Fault Scalar :=
  if cursor.lacks 4 then .error .unreadable
  else if cursor.atDocumentMark || cursor.rest.head? = some '#' then
    .ok ⟨parts.reverse.flatten, cursor, breaks white ≠ []⟩
  else
    let run := plainRun inFlow cursor.rest
    let place := cursor.pass run.length
    if place.lacks 2 then .error .unreadable
    else if inFlow && strayColon place.rest then .error ⟨place.line⟩
    else if run = [] then .ok ⟨parts.reverse.flatten, cursor, breaks white ≠ []⟩
    else
      let parts := run :: fold white :: parts
      if _ended : place.white = [] then .ok ⟨parts.reverse.flatten, place, false⟩
      else
        match indentTab? indent place with
        | some fault => .error fault
        | none =>
            if place.passWhite.lacks 1 then .error .unreadable
            else if !inFlow && place.passWhite.column < indent then
              .ok ⟨parts.reverse.flatten, place.passWhite, breaks place.white ≠ []⟩
            else plainFrom inFlow indent parts place.white place.passWhite
termination_by cursor.rest.length
decreasing_by
  have shorter := Cursor.passWhite_shorter _ended
  simp only [place, run, Cursor.rest_pass, List.length_drop] at shorter ⊢
  omega

def Scalar.plain (inFlow : Bool) (indent : Nat) (cursor : Cursor) : Except Fault Scalar :=
  plainFrom inFlow indent [] [] cursor

inductive RunEnd where
  /-- White space or the closing quote. -/
  | regular
  /-- A line break behind a backslash. -/
  | escapedBreak
  /-- A backslash that does not escape anything. -/
  | malformed
deriving DecidableEq

structure Run where
  text : Text
  passed : Nat
  ending : RunEnd

def Run.cons (c : Char) (width : Nat) (run : Run) : Run :=
  { run with text := c :: run.text, passed := width + run.passed }

/-- Between single quotes a quote is written twice. -/
def singleRun : Text → Run
  | [] => ⟨[], 0, .regular⟩
  | [c] => if c = '\'' || isWhite c then ⟨[], 0, .regular⟩ else ⟨[c], 1, .regular⟩
  | c :: next :: rest =>
      if c = '\'' && next = '\'' then (singleRun rest).cons c 2
      else if c = '\'' || isWhite c then ⟨[], 0, .regular⟩
      else (singleRun (next :: rest)).cons c 1

/-- The characters after a backslash that stand for one character. -/
def namedEscapes : List (Char × Char) :=
  [('0', '\x00'), ('a', '\x07'), ('b', '\x08'), ('t', '\t'), ('\t', '\t'), ('n', '\n'),
   ('v', '\x0b'), ('f', '\x0c'), ('r', '\r'), ('e', '\x1b'), (' ', ' '), ('"', '"'), ('/', '/'),
   ('\\', '\\'), ('N', '\u0085'), ('_', '\u00a0'), ('L', '\u2028'), ('P', '\u2029')]

/-- The character that an escape stands for, and the number of characters after its backslash. -/
def escape? : Text → Option (Char × Nat)
  | [] => none
  | c :: rest =>
      match namedEscapes.lookup c, Text.codeEscapes.lookup c with
      | some value, _ => some (value, 1)
      | none, some digits => (Text.codeChar? digits rest).map fun value => (value, digits + 1)
      | none, none => none

/-- The number of characters that an escape takes with its backslash, malformed or not. -/
def escapeLength (text : Text) : Nat :=
  2 + ((text.tail.head?.bind fun c => Text.codeEscapes.lookup c).getD 0)

/-- Between double quotes a backslash escapes. -/
def doubleRun : Text → Run
  | [] => ⟨[], 0, .regular⟩
  | c :: rest =>
      if c = '\\' then
        if rest.head?.any isBreak then ⟨[], 1, .escapedBreak⟩
        else
          match escape? rest with
          | none => ⟨[], 0, .malformed⟩
          | some (value, width) => (doubleRun (rest.drop width)).cons value (width + 1)
      else if c = '"' || isWhite c then ⟨[], 0, .regular⟩
      else (doubleRun rest).cons c 1
termination_by text => text.length
decreasing_by all_goals simp only [List.length_drop, List.length_cons]; omega

def quotedRun (quote : Char) (text : Text) : Run :=
  if quote = '\'' then singleRun text else doubleRun text

/-- Reads on in a scalar between quotes. `parts` are its words and what is between them, last
first. -/
def quotedFrom (quote : Char) (parts : List Text) (cursor : Cursor) : Except Fault Scalar :=
  if cursor.lacks 4 then .error .unreadable
  else if cursor.atDocumentMark then .error ⟨cursor.line⟩
  else
    let run := quotedRun quote cursor.rest
    let place := cursor.pass run.passed
    if run.ending = .malformed then
      .error (if place.lacks (escapeLength place.rest) then .unreadable else ⟨place.line⟩)
    else if place.lacks 2 then .error .unreadable
    else if place.rest.head? = some quote then
      .ok ⟨(run.text :: parts).reverse.flatten, place.next, false⟩
    else if _ended : place.white = [] then .error ⟨place.line⟩
    else if place.passWhite.lacks 1 then .error .unreadable
    else
      let between :=
        if run.ending = .escapedBreak then (breaks place.white).tail else fold place.white
      quotedFrom quote (between :: run.text :: parts) place.passWhite
termination_by cursor.rest.length
decreasing_by
  have shorter := Cursor.passWhite_shorter _ended
  simp only [place, run, Cursor.rest_pass, List.length_drop] at shorter ⊢
  omega

def Scalar.quoted (quote : Char) (cursor : Cursor) : Except Fault Scalar :=
  quotedFrom quote [] cursor.next

end Manifest

end DottedNames
