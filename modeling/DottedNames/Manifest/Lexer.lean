import DottedNames.Manifest.Token

set_option autoImplicit false

namespace DottedNames

namespace Manifest

/-- A token that becomes a key if a colon follows. -/
structure Candidate where
  index : Nat
  place : Cursor
  depth : Nat
  /-- Whether it starts a line of a block mapping, where nothing but a key may stand. -/
  required : Bool

/-- A key stands on one line and is not longer than this many bytes. -/
def keyReach : Nat := 1024

def Candidate.isStale (candidate : Candidate) (cursor : Cursor) : Bool :=
  candidate.place.line < cursor.line || candidate.place.offset + keyReach < cursor.offset

structure Lexer where
  cursor : Cursor
  /-- The tokens so far, last first. -/
  tokens : List Token := []
  count : Nat := 0
  ready : Nat := 0
  keyAllowed : Bool := true
  /-- The columns of the open block collections, innermost first. -/
  indents : List Nat := []
  depth : Nat := 0
  /-- The candidates, innermost first, at most one of each depth. -/
  candidates : List Candidate := []

namespace Lexer

def inFlow (lexer : Lexer) : Bool := lexer.depth ≠ 0

def line (lexer : Lexer) : Nat := lexer.cursor.line

def column (lexer : Lexer) : Nat := lexer.cursor.column

def fault {α : Type} (lexer : Lexer) : Except Fault α := .error ⟨lexer.line⟩

/-- Goes on if a number of characters are known from the cursor on, or all that there are. -/
def need (lexer : Lexer) (count : Nat) : Except Fault Lexer :=
  if lexer.cursor.lacks count then .error .unreadable else .ok lexer

def insert (lexer : Lexer) (index : Nat) (token : Token) : Lexer :=
  { lexer with
    tokens := lexer.tokens.insertIdx (lexer.count - index) token
    count := lexer.count + 1 }

def push (lexer : Lexer) (mark : Mark) : Lexer := lexer.insert lexer.count ⟨mark, lexer.line⟩

def pass (lexer : Lexer) (count : Nat) : Lexer :=
  { lexer with cursor := lexer.cursor.pass count }

def passTo (lexer : Lexer) (rest : Text) : Lexer :=
  { lexer with cursor := lexer.cursor.passTo rest }

def allowKey (lexer : Lexer) (allowed : Bool) : Lexer := { lexer with keyAllowed := allowed }

/-- Gives up the candidates that can be keys no more. Where one has to be a key, that is a fault. -/
def dropStale (lexer : Lexer) : Except Fault Lexer :=
  let isStale (candidate : Candidate) := candidate.isStale lexer.cursor
  if lexer.candidates.any fun candidate => candidate.required && isStale candidate then lexer.fault
  else .ok { lexer with candidates := lexer.candidates.filter fun candidate => !isStale candidate }

/-- The candidate that stands in the innermost flow collection, and the ones around it. -/
def innermost (lexer : Lexer) : Option Candidate × List Candidate :=
  match lexer.candidates with
  | [] => (none, [])
  | candidate :: outer =>
      if candidate.depth = lexer.depth then (some candidate, outer) else (none, candidate :: outer)

def dropCandidate (lexer : Lexer) : Except Fault Lexer :=
  match lexer.innermost with
  | (none, _) => .ok lexer
  | (some candidate, outer) =>
      if candidate.required then lexer.fault else .ok { lexer with candidates := outer }

/-- Makes the next token a candidate, where a key may stand. -/
def noteCandidate (lexer : Lexer) : Except Fault Lexer := do
  if lexer.keyAllowed then
    let lexer ← lexer.dropCandidate
    let required := !lexer.inFlow && lexer.indents.head? = some lexer.column
    let candidate := ⟨lexer.count, lexer.cursor, lexer.depth, required⟩
    return { lexer with candidates := candidate :: lexer.candidates }
  else return lexer

def openBlock (lexer : Lexer) (mark : Mark) (index : Nat) (place : Cursor) : Lexer :=
  if !lexer.inFlow && lexer.indents.head?.all (· < place.column) then
    { lexer.insert index ⟨mark, place.line⟩ with indents := place.column :: lexer.indents }
  else lexer

/-- Closes the block collections that are deeper than the given column, or all of them. -/
def closeBlocks (lexer : Lexer) (column : Option Nat) : Lexer :=
  if lexer.inFlow then lexer
  else
    let (deeper, indents) := lexer.indents.span fun indent => column.all (· < indent)
    deeper.foldl (fun lexer _ => lexer.push .blockEnd) { lexer with indents }

/-- A byte order mark may start a line, and what comes after it is indented. -/
def skipOrderMark (lexer : Lexer) : Lexer :=
  if lexer.column = 0 && lexer.cursor.rest.head? = some '\ufeff' then lexer.pass 1 else lexer

/-- Passes blanks and a comment. Tabs are blanks where no key may start. -/
def skipBlanks (lexer : Lexer) : Lexer :=
  let isBlank (c : Char) := c = ' ' || (c = '\t' && (lexer.inFlow || !lexer.keyAllowed))
  let lexer := lexer.pass (lexer.cursor.rest.takeWhile isBlank).length
  if lexer.cursor.rest.head? = some '#' then
    lexer.pass (lexer.cursor.rest.takeWhile fun c => !isBreak c).length
  else lexer

theorem skipOrderMark_length_le (lexer : Lexer) :
    lexer.skipOrderMark.cursor.rest.length ≤ lexer.cursor.rest.length := by
  unfold skipOrderMark
  split <;> simp [pass]

theorem skipBlanks_length_le (lexer : Lexer) :
    lexer.skipBlanks.cursor.rest.length ≤ lexer.cursor.rest.length := by
  simp only [skipBlanks]
  split <;> simp [pass]

/-- Passes white space and comments. After a line break a key may start in a block. -/
def skipWhite (lexer : Lexer) : Lexer :=
  let ahead := lexer.skipOrderMark.skipBlanks
  if _present : ahead.cursor.rest.head?.any isBreak then
    skipWhite ((ahead.pass 1).allowKey (ahead.keyAllowed || !ahead.inFlow))
  else ahead
termination_by lexer.cursor.rest.length
decreasing_by
  have filled : ahead.cursor.rest ≠ [] := by
    intro bare
    simp [bare] at _present
  have long : 0 < ahead.cursor.rest.length := List.length_pos_iff.2 filled
  have first := skipOrderMark_length_le lexer
  have second := skipBlanks_length_le lexer.skipOrderMark
  simp only [allowKey, pass, Cursor.rest_pass, List.length_drop]
  simp only [ahead] at long ⊢
  omega

def openFlow (lexer : Lexer) (mark : Mark) : Except Fault Lexer := do
  let lexer ← lexer.noteCandidate
  return { (lexer.push mark).pass 1 with
    keyAllowed := true, depth := lexer.depth + 1 }

def closeFlow (lexer : Lexer) (mark : Mark) : Except Fault Lexer := do
  let lexer ← lexer.dropCandidate
  return { (lexer.push mark).pass 1 with keyAllowed := false, depth := lexer.depth - 1 }

def flowEntry (lexer : Lexer) : Except Fault Lexer := do
  return ((← lexer.dropCandidate).push .flowEntry).pass 1 |>.allowKey true

def openBlockHere (lexer : Lexer) (mark : Mark) : Except Fault Lexer :=
  if lexer.inFlow then .ok lexer
  else if lexer.keyAllowed then .ok (lexer.openBlock mark lexer.count lexer.cursor)
  else lexer.fault

def blockEntry (lexer : Lexer) : Except Fault Lexer := do
  let lexer ← (← lexer.openBlockHere .blockSequenceStart).dropCandidate
  return (lexer.push .blockEntry).pass 1 |>.allowKey true

def explicitKey (lexer : Lexer) : Except Fault Lexer := do
  let lexer ← (← lexer.openBlockHere .blockMappingStart).dropCandidate
  return (lexer.push .key).pass 1 |>.allowKey (!lexer.inFlow)

/-- A colon makes a key of the candidate before it. -/
def value (lexer : Lexer) : Except Fault Lexer :=
  match lexer.innermost with
  | (some candidate, outer) =>
      let keyed := lexer.insert candidate.index ⟨.key, candidate.place.line⟩
      let opened := keyed.openBlock .blockMappingStart candidate.index candidate.place
      .ok { (opened.push .value).pass 1 with candidates := outer, keyAllowed := false }
  | (none, _) => do
      let lexer ← lexer.openBlockHere .blockMappingStart
      return (lexer.push .value).pass 1 |>.allowKey (!lexer.inFlow)

def quotedScalar (lexer : Lexer) (quote : Char) : Except Fault Lexer := do
  let lexer ← lexer.noteCandidate
  let scalar ← Scalar.quoted quote lexer.cursor
  return { lexer.push (.scalar scalar.text .quoted) with
    cursor := scalar.after, keyAllowed := false }

/-- After a plain scalar that ended on an earlier line a key may start. -/
def plainScalar (lexer : Lexer) : Except Fault Lexer := do
  let lexer ← lexer.noteCandidate
  let indent := (lexer.indents.head?.map (· + 1)).getD 0
  let scalar ← Scalar.plain lexer.inFlow indent lexer.cursor
  return { lexer.push (.scalar scalar.text .plain) with
    cursor := scalar.after, keyAllowed := scalar.crossed }

/-- A block is no key, and after it a key may start. -/
def blockScalar (lexer : Lexer) (style : Style) : Except Fault Lexer := do
  let lexer ← lexer.dropCandidate
  let scalar ← Scalar.block (style = .folded) lexer.indents.head? lexer.cursor
  return { lexer.push (.scalar scalar.text style) with cursor := scalar.after, keyAllowed := true }

/-- An anchor or a reference to one has a name, and an indicator or white space ends it. -/
def named (lexer : Lexer) (mark : Text → Mark) : Except Fault Lexer := do
  let lexer ← lexer.noteCandidate
  let name := lexer.cursor.rest.tail.takeWhile isNamePart
  let rest := lexer.cursor.rest.drop (name.length + 1)
  let _ ← (lexer.pass (name.length + 1)).need 1
  if name ≠ [] && (endsWord rest || rest.head?.any fun c => "?:,]\x7d%@`".toList.contains c) then
    return (lexer.push (mark name)).pass (name.length + 1) |>.allowKey false
  else lexer.fault

def stuck {α : Type} (lexer : Lexer) (rest : Text) : Except Fault α := do
  let _ ← (lexer.passTo rest).need 1
  lexer.fault

/-- White space ends a tag, or a comma in a flow collection. -/
def tag (lexer : Lexer) : Except Fault Lexer := do
  let lexer ← lexer.noteCandidate
  match Tag.read lexer.cursor.rest with
  | .error rest => lexer.stuck rest
  | .ok (tag, rest) =>
      let after ← (lexer.passTo rest).need 1
      if endsWord rest || (lexer.inFlow && rest.head? = some ',') then
        return { lexer.push (.tag tag) with cursor := after.cursor, keyAllowed := false }
      else lexer.fault

/-- A directive takes a line of its own. -/
def directive (lexer : Lexer) : Except Fault Lexer := do
  let lexer ← (lexer.closeBlocks none).dropCandidate
  match Directive.read lexer.cursor.rest.tail with
  | .error rest => lexer.stuck rest
  | .ok (directive, rest) =>
      let after ← (lexer.passTo rest).need 1
      return { lexer.push (.directive directive) with
        cursor := after.cursor.passBreak, keyAllowed := false }

def documentMark (lexer : Lexer) (mark : Mark) : Except Fault Lexer := do
  return ((← (lexer.closeBlocks none).dropCandidate).push mark).pass 3 |>.allowKey false

/-- The end of the text starts a line of its own. -/
def endOfText (lexer : Lexer) : Except Fault Lexer := do
  let cursor := lexer.cursor
  let lexer :=
    if cursor.column = 0 then lexer
    else { lexer with cursor := { cursor with line := cursor.line + 1, column := 0 } }
  return (← (lexer.closeBlocks none).dropCandidate).push .endOfText

/-- The characters other than white space that no plain scalar starts with. -/
def isIndicator (c : Char) : Bool :=
  isFlowIndicator c || c = '\'' || "-?:#&*!|>\"%@`".toList.contains c

/-- A plain scalar starts with text. A tab that is not passed as a blank starts nothing. -/
def startsPlain (inFlow : Bool) (c : Char) (rest : Text) : Bool :=
  !(isWhite c || isIndicator c) || (c = '-' && !rest.head?.any isBlank) ||
    (!inFlow && (c = '?' || c = ':') && !endsWord rest)

def token (lexer : Lexer) : Except Fault Lexer :=
  match lexer.cursor.rest with
  | [] => lexer.endOfText
  | c :: rest =>
      if lexer.column = 0 && c = '%' then lexer.directive
      else if lexer.cursor.atDocumentMark then
        lexer.documentMark (if c = '-' then .documentStart else .documentEnd)
      else if c = '[' then lexer.openFlow .flowSequenceStart
      else if c = '{' then lexer.openFlow .flowMappingStart
      else if c = ']' then lexer.closeFlow .flowSequenceEnd
      else if c = '}' then lexer.closeFlow .flowMappingEnd
      else if c = ',' then lexer.flowEntry
      else if c = '-' && endsWord rest then lexer.blockEntry
      else if c = '?' && (lexer.inFlow || endsWord rest) then lexer.explicitKey
      else if c = ':' && (lexer.inFlow || endsWord rest) then lexer.value
      else if c = '*' then lexer.named .reference
      else if c = '&' then lexer.named .anchor
      else if c = '!' then lexer.tag
      else if c = '|' && !lexer.inFlow then lexer.blockScalar .literal
      else if c = '>' && !lexer.inFlow then lexer.blockScalar .folded
      else if c = '\'' || c = '"' then lexer.quotedScalar c
      else if startsPlain lexer.inFlow c rest then lexer.plainScalar
      else lexer.fault

def release (lexer : Lexer) : Lexer :=
  { lexer with ready := (lexer.candidates.getLast?.map (·.index)).getD lexer.count }

def step (lexer : Lexer) : Except Fault Lexer := do
  let lexer ← (← lexer.skipWhite.need 1).dropStale
  let lexer ← ((← (lexer.closeBlocks (some lexer.column)).need 4)).token
  return (← lexer.dropStale).release

def isDone (lexer : Lexer) : Bool :=
  lexer.tokens.head?.any fun token => token.mark = .endOfText

def handedOn (lexer : Lexer) : List Token :=
  (lexer.tokens.drop (lexer.count - lexer.ready)).reverse

/-- Reads tokens to the end of the text. Each step passes a character at least, unless it is the
last one, so the text's length and one more is fuel enough. -/
def run : Nat → Lexer → List Token
  | 0, lexer => lexer.handedOn
  | fuel + 1, lexer =>
      match lexer.step with
      | .error fault => lexer.handedOn ++ [⟨.broken, fault.line⟩]
      | .ok next => if next.isDone then next.tokens.reverse else run fuel next

end Lexer

def isAllowed (c : Char) : Bool :=
  c = '\t' || c = '\n' || c = '\r' || c = '\u0085' || (' ' ≤ c && c ≤ '~') ||
    ('\u00a0' ≤ c && c ≠ '\ufffe' && c ≠ '\uffff')

/-- A text is decoded in blocks of at most this many bytes. -/
def blockSize : Nat := 16384

/-- The number of characters in front of the first block with a character that is not allowed. Of a
number of characters passed, those in front of the last block are known to be allowed, and the last
block has a size so far. -/
def readable (known size passed : Nat) : Text → Nat
  | [] => passed
  | c :: rest =>
      let filled := blockSize < size + c.utf8Size
      let known := if filled then passed else known
      let size := if filled then 0 else size
      if isAllowed c then readable known (size + c.utf8Size) (passed + 1) rest else known

/-- The tokens of a text. A character that is not allowed makes its block unreadable. -/
def tokens (text : Text) : List Token :=
  let length := readable 0 0 0 text
  let cursor : Cursor := { rest := text.take length, cut := length < text.length }
  Lexer.run (text.length + 1) { cursor }

end Manifest

end DottedNames
