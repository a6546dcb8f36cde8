import DottedNames.Notice.Filter

set_option autoImplicit false

namespace DottedNames

/-- The names of a content. A carriage return at the end of a line is no part of the name; other
white space is. -/
def nameLines (content : Text) : List Text :=
  ((Text.lines content).map Text.dropReturn).filter (· ≠ [])

def levelLines (name : QualifiedName) : Text :=
  Level.all.flatMap fun level =>
    level.label ++ '=' :: (name.get level).getD "<absent>".toList ++ ['\n']

/-- The levels of names with a blank line between two of them. -/
def records (names : List QualifiedName) : Text :=
  ['\n'].intercalate (names.map levelLines)

structure Batch where
  names : List QualifiedName
  error : Option SplitError
deriving DecidableEq

namespace Dialect

variable (dialect : Dialect)

/-- Reads every name; a malformed one counts as empty. -/
def lenientBatch (raw : List Text) : Batch := ⟨raw.map dialect.parse, none⟩

/-- Reads names up to the first malformed one. -/
def strictBatch : List Text → Batch
  | [] => ⟨[], none⟩
  | text :: rest =>
      match dialect.tryParse text with
      | .error error => ⟨[], some error⟩
      | .ok name => ⟨name :: (strictBatch rest).names, (strictBatch rest).error⟩

theorem strictBatch_append {front : List Text} {names : List QualifiedName}
    (read : front.map dialect.tryParse = names.map .ok) (back : List Text) :
    dialect.strictBatch (front ++ back) =
      ⟨names ++ (dialect.strictBatch back).names, (dialect.strictBatch back).error⟩ := by
  induction front generalizing names with
  | nil =>
      obtain rfl := List.map_eq_nil_iff.mp read.symm
      rfl
  | cons text front ih =>
      cases names with
      | nil => cases read
      | cons name names =>
          obtain ⟨here, later⟩ := List.cons.inj read
          simp only [List.cons_append, strictBatch, here, ih later]

def strictNotices : List Text → List Notice
  | [] => []
  | text :: rest =>
      match dialect.tryParse text with
      | .error _ => dialect.tryParseNotices text
      | .ok _ => dialect.tryParseNotices text ++ strictNotices rest

end Dialect

end DottedNames
