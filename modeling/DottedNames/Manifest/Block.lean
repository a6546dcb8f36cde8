import DottedNames.Manifest.Scalar

set_option autoImplicit false

namespace DottedNames

namespace Manifest

namespace Block

/-- Which of the line breaks at the end of a block are kept: the first, none or all. -/
inductive Chomping where
  | clip
  | strip
  | keep
deriving DecidableEq

/-- What stands behind the indicator of a block on its line. -/
structure Header where
  chomping : Chomping
  /-- How much deeper than the collection around it a block is indented, if that is given. -/
  increment : Option Nat
  rest : Text

def sign : Text → Chomping × Text
  | '+' :: rest => (.keep, rest)
  | '-' :: rest => (.strip, rest)
  | text => (.clip, text)

/-- A digit at the start of a text, if it starts with one. A zero is malformed. -/
def increment? : Text → Option (Option Nat × Text)
  | [] => some (none, [])
  | c :: rest =>
      if c = '0' then none
      else if c.isDigit then some (some (c.toNat - '0'.toNat), rest)
      else some (none, c :: rest)

/-- The sign and the digit stand in either order, and both may be absent. -/
def header? (text : Text) : Option Header := do
  let (chomping, rest) := sign text
  let (increment, rest) ← increment? rest
  let (chomping, rest) := if chomping = .clip then sign rest else (chomping, rest)
  return ⟨chomping, increment, ← lineEnd? rest⟩

/-- The indentation and the empty lines in front of a line. -/
structure Margin where
  /-- The line breaks in it, each as the character that it stands for. -/
  breaks : Text
  place : Cursor
  /-- The deepest column that its lines reach. -/
  deepest : Nat

/-- The blanks at the cursor that indent a line of a block. -/
def indentation (indent? : Option Nat) (cursor : Cursor) : Nat :=
  let blanks := (cursor.rest.takeWhile fun c => c = ' ').length
  (indent?.map fun indent => min blanks (indent - cursor.column)).getD blanks

/-- The margin at the cursor. All blanks belong to it as long as the indentation is not known. -/
def margin (indent? : Option Nat) (cursor : Cursor) : Margin :=
  let place := cursor.pass (indentation indent? cursor)
  if _present : place.rest.head?.any isBreak then
    let more := margin indent? place.passBreak
    ⟨breaks (place.rest.take 1) ++ more.breaks, more.place, max place.column more.deepest⟩
  else ⟨[], place, place.column⟩
termination_by cursor.rest.length
decreasing_by
  have filled : place.rest ≠ [] := by
    intro bare
    simp [bare] at _present
  have shorter := Cursor.passBreak_shorter filled
  simp only [place, Cursor.rest_pass, List.length_drop] at shorter ⊢
  omega

theorem margin_length_le (indent? : Option Nat) (cursor : Cursor) :
    (margin indent? cursor).place.rest.length ≤ cursor.rest.length := by
  fun_induction margin indent? cursor with
  | case1 cursor place present more ih =>
      have filled : place.rest ≠ [] := by
        intro bare
        simp [bare] at present
      have shorter := Cursor.passBreak_shorter filled
      simp only [place, Cursor.rest_pass, List.length_drop] at shorter
      simp only [more, place] at ih ⊢
      omega
  | case2 cursor place => simp [place]

/-- A tab cannot indent a line. -/
def Margin.fault? (indent? : Option Nat) (margin : Margin) : Option Fault :=
  if margin.place.lacks 1 then some .unreadable
  else if margin.place.rest.head? = some '\t' && indent?.all (margin.place.column < ·) then
    some ⟨margin.place.line⟩
  else none

structure Line where
  text : Text
  breaks : Text

def lines (indent : Nat) (cursor : Cursor) : Except Fault (List Line × Cursor) :=
  let text := cursor.rest.takeWhile fun c => !isBreak c
  if _more : cursor.column = indent ∧ text ≠ [] then
    let behind := margin (some indent) (cursor.pass text.length)
    match behind.fault? (some indent) with
    | some fault => .error fault
    | none =>
        (lines indent behind.place).map fun (rest, after) => (⟨text, behind.breaks⟩ :: rest, after)
  else .ok ([], cursor)
termination_by cursor.rest.length
decreasing_by
  have long : 0 < text.length := List.length_pos_iff.2 _more.2
  have short := (List.takeWhile_sublist (l := cursor.rest) fun c => !isBreak c).length_le
  have bound := margin_length_le (some indent) (cursor.pass text.length)
  simp only [Cursor.rest_pass, List.length_drop] at bound
  simp only [text] at long bound ⊢
  omega

def Chomping.apply : Chomping → Text → Text
  | .clip, breaks => breaks.take 1
  | .strip, _ => []
  | .keep, breaks => breaks

def Line.isIndented (line : Line) : Bool := line.text.head?.any isBlank

def between (folds : Bool) (line next : Line) : Text :=
  if folds && !line.isIndented && !next.isIndented then fold line.breaks else line.breaks

def join (folds : Bool) (chomping : Chomping) : List Line → Text
  | [] => []
  | [line] => line.text ++ chomping.apply line.breaks
  | line :: next :: rest =>
      line.text ++ between folds line next ++ join folds chomping (next :: rest)

/-- The text of a block. The empty lines in front of its first line belong to it. -/
def text (folds : Bool) (chomping : Chomping) (lead : Text) (lines : List Line) : Text :=
  if lines.isEmpty then (if chomping = .keep then lead else [])
  else lead ++ join folds chomping lines

end Block

/-- A block whose indicator is at the cursor. It is indented deeper than the collection around it,
and not less than its first line unless its header says so. -/
def Scalar.block (folds : Bool) (outer : Option Nat) (cursor : Cursor) : Except Fault Scalar :=
  match Block.header? cursor.rest.tail with
  | none => .error ⟨cursor.line⟩
  | some header =>
    let place := cursor.passTo header.rest
    if place.lacks 1 then .error .unreadable
    else
      let indent? := header.increment.map fun increment => outer.getD 0 + increment
      let lead := Block.margin indent? place.passBreak
      match lead.fault? indent? with
      | some fault => .error fault
      | none =>
          let least := max lead.deepest (max 1 ((outer.map (· + 1)).getD 0))
          (Block.lines (indent?.getD least) lead.place).map fun (lines, after) =>
            ⟨Block.text folds header.chomping lead.breaks lines, after, true⟩

end Manifest

end DottedNames
