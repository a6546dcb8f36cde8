import DottedNames.Segment

set_option autoImplicit false

namespace DottedNames

namespace Statement

inductive Piece where
  | literal (c : Char)
  | placeholder
deriving DecidableEq

def Piece.written : Piece → Text
  | .literal c => if c = '{' ∨ c = '}' then [c, c] else [c]
  | .placeholder => ['{', '}']

/-- The pieces at the start of a template, and what is left where a brace is neither doubled nor
part of a placeholder. -/
def pieces : Text → List Piece × Text
  | [] => ([], [])
  | '{' :: '{' :: rest => (.literal '{' :: (pieces rest).1, (pieces rest).2)
  | '{' :: '}' :: rest => (.placeholder :: (pieces rest).1, (pieces rest).2)
  | '}' :: '}' :: rest => (.literal '}' :: (pieces rest).1, (pieces rest).2)
  | c :: rest =>
      if c = '{' ∨ c = '}' then ([], c :: rest)
      else (.literal c :: (pieces rest).1, (pieces rest).2)

def written (read : List Piece) : Text := read.flatMap Piece.written

/-- The pieces that were read, and what was left unread, make up the template. -/
theorem written_append_unread (template : Text) :
    written (pieces template).1 ++ (pieces template).2 = template := by
  fun_induction pieces template <;> simp_all [written, Piece.written]

inductive TemplateError where
  | arityMismatch (placeholders values : Nat)
  /-- The position of the brace, in bytes of UTF-8. -/
  | unbalancedBrace (offset : Nat)
deriving DecidableEq

def TemplateError.message : TemplateError → Text
  | .arityMismatch placeholders values =>
      "template has ".toList ++ Text.ofNat placeholders ++ " placeholder(s) but ".toList ++
        Text.ofNat values ++ " value(s) were supplied".toList
  | .unbalancedBrace offset =>
      "unbalanced brace at byte offset ".toList ++ Text.ofNat offset ++ " in template".toList

/-- Fills the placeholders in order, each with the next value. -/
def fill (dialect : Dialect) : List Piece → List Text → Text
  | [], _ => []
  | .literal c :: rest, values => c :: fill dialect rest values
  | .placeholder :: rest, [] => fill dialect rest []
  | .placeholder :: rest, value :: values => dialect.quoteSegment value ++ fill dialect rest values

end Statement

open Statement in
/-- Fills a template. A stray brace is reported before a wrong number of values. -/
def Dialect.quoteForStatement (dialect : Dialect) (template : Text) (values : List Text) :
    Except TemplateError Text :=
  match pieces template with
  | (read, []) =>
      let placeholders := read.count .placeholder
      if placeholders = values.length then .ok (fill dialect read values)
      else .error (.arityMismatch placeholders values.length)
  | (read, _ :: _) => .error (.unbalancedBrace (Text.utf8Length (written read)))

end DottedNames
