import DottedNames.Text.Code

set_option autoImplicit false

namespace DottedNames

namespace Manifest

/-- The line at which a manifest cannot be read, counted from one. -/
structure Fault where
  line : Nat
deriving DecidableEq

/-- Where not even characters can be read, no line is known, and the first one stands for it. -/
def Fault.unreadable : Fault := ⟨1⟩

def isBlank (c : Char) : Bool := c = ' ' || c = '\t'

def isBreak (c : Char) : Bool :=
  c = '\n' || c = '\r' || c = '\u0085' || c = '\u2028' || c = '\u2029'

def isWhite (c : Char) : Bool := isBlank c || isBreak c

/-- Whether a text is at its end or goes on with white space. -/
def endsWord (text : Text) : Bool := text.head?.all isWhite

/-- The text from the end of its first line on, if the line holds nothing but blanks and a
comment. -/
def lineEnd? (text : Text) : Option Text :=
  let rest := text.dropWhile isBlank
  let rest := if rest.head? = some '#' then rest.dropWhile fun c => !isBreak c else rest
  if rest.head?.all isBreak then some rest else none

structure Cursor where
  rest : Text
  line : Nat := 1
  column : Nat := 0
  /-- The number of bytes before the cursor. -/
  offset : Nat := 0
  /-- Whether more of the text follows that cannot be read. -/
  cut : Bool := false

namespace Cursor

/-- Passes one character. A carriage return right before a line feed does not end the line; the
line feed does. -/
def next (cursor : Cursor) : Cursor :=
  match cursor.rest with
  | [] => cursor
  | c :: rest =>
      let cursor := { cursor with rest, offset := cursor.offset + c.utf8Size }
      if isBreak c && !(c = '\r' && rest.head? = some '\n') then
        { cursor with line := cursor.line + 1, column := 0 }
      else { cursor with column := cursor.column + 1 }

def pass : Nat → Cursor → Cursor
  | 0, cursor => cursor
  | count + 1, cursor => pass count cursor.next

def passTo (rest : Text) (cursor : Cursor) : Cursor :=
  pass (cursor.rest.length - rest.length) cursor

/-- Passes a line break. A carriage return and the line feed after it are one. -/
def passBreak (cursor : Cursor) : Cursor :=
  match cursor.rest with
  | '\r' :: '\n' :: _ => cursor.next.next
  | _ => cursor.next

def trail : Nat → Cursor → List Cursor
  | 0, _ => []
  | count + 1, cursor => cursor :: trail count cursor.next

@[simp] theorem rest_next (cursor : Cursor) : cursor.next.rest = cursor.rest.tail := by
  unfold next
  split
  · simp_all
  · rename_i c rest same
    simp only
    split <;> simp [same]

@[simp] theorem rest_pass (count : Nat) (cursor : Cursor) :
    (pass count cursor).rest = cursor.rest.drop count := by
  induction count generalizing cursor with
  | zero => simp [pass]
  | succ count ih => simp [pass, ih]

theorem passBreak_shorter {cursor : Cursor} (present : cursor.rest ≠ []) :
    cursor.passBreak.rest.length < cursor.rest.length := by
  have long : 0 < cursor.rest.length := List.length_pos_iff.2 present
  unfold passBreak
  split <;> simp only [rest_next, List.length_tail] <;> omega

/-- Whether fewer characters than a number are known from here on, although there are more. -/
def lacks (count : Nat) (cursor : Cursor) : Bool :=
  cursor.cut && (cursor.rest.take count).length < count

/-- Three dashes or three dots that stand alone at the start of a line. -/
def atDocumentMark (cursor : Cursor) : Bool :=
  cursor.column = 0 &&
    match cursor.rest with
    | '-' :: '-' :: '-' :: rest => endsWord rest
    | '.' :: '.' :: '.' :: rest => endsWord rest
    | _ => false

def white (cursor : Cursor) : Text := cursor.rest.takeWhile isWhite

def passWhite (cursor : Cursor) : Cursor := pass cursor.white.length cursor

theorem passWhite_shorter {cursor : Cursor} (present : cursor.white ≠ []) :
    cursor.passWhite.rest.length < cursor.rest.length := by
  have short := (List.takeWhile_sublist (l := cursor.rest) isWhite).length_le
  have long : 0 < cursor.white.length := List.length_pos_iff.2 present
  simp only [passWhite, rest_pass, List.length_drop]
  simp only [white] at long ⊢
  omega

end Cursor

end Manifest

end DottedNames
