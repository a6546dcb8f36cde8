import DottedNames.Text.Literal

set_option autoImplicit false

namespace DottedNames

/-- The levels of a name, outermost first. -/
inductive Level where
  | database
  | schema
  | table
  | column
deriving DecidableEq

namespace Level

def all : List Level := [.database, .schema, .table, .column]

def label : Level → Text
  | .database => "database".toList
  | .schema => "schema".toList
  | .table => "table".toList
  | .column => "column".toList

def ofLabel? (label : Text) : Option Level := all.find? fun level => level.label = label

def rank : Level → Nat
  | .database => 0
  | .schema => 1
  | .table => 2
  | .column => 3

instance : Ord Level := ⟨fun outer inner => compare outer.rank inner.rank⟩

theorem ofLabel?_label (level : Level) : ofLabel? level.label = some level := by
  cases level <;> decide

end Level

structure QualifiedName where
  database : Option Text := none
  schema : Option Text := none
  table : Option Text := none
  column : Option Text := none
deriving DecidableEq

/-- The values in front of the first absent one. -/
def leading {α : Type} : List (Option α) → List α
  | some value :: rest => value :: leading rest
  | _ => []

namespace QualifiedName

instance : Inhabited QualifiedName := ⟨{}⟩

def get (name : QualifiedName) : Level → Option Text
  | .database => name.database
  | .schema => name.schema
  | .table => name.table
  | .column => name.column

def set (name : QualifiedName) (value : Option Text) : Level → QualifiedName
  | .database => { name with database := value }
  | .schema => { name with schema := value }
  | .table => { name with table := value }
  | .column => { name with column := value }

/-- Fills the levels from the outermost on; segments past the column are dropped. -/
def ofSegments (segments : List Text) : QualifiedName where
  database := segments[0]?
  schema := segments[1]?
  table := segments[2]?
  column := segments[3]?

def segments (name : QualifiedName) : List Text := leading (Level.all.map name.get)

def depth (name : QualifiedName) : Nat := name.segments.length

/-- A name without a database is empty, whatever its other levels hold. -/
def isEmpty (name : QualifiedName) : Bool := name.database.isNone

/-- The innermost leading level. -/
def leafLevel (name : QualifiedName) : Option Level := (Level.all.take name.depth).getLast?

/-- The name one level up. Levels behind a gap are lost. -/
def parent (name : QualifiedName) : QualifiedName := ofSegments name.segments.dropLast

/-- The literal form of a name: every level by its label, present or not. -/
def literal (name : QualifiedName) : Text :=
  let field (level : Level) := level.label ++ ':' :: ' ' :: Text.literalOption (name.get level)
  "QualifiedName ".toList ++ '{' :: ' ' :: Text.commaList (Level.all.map field) ++ [' ', '}']

@[simp] theorem get_set (name : QualifiedName) (value : Option Text) (level : Level) :
    (name.set value level).get level = value := by cases level <;> rfl

theorem get_set_of_ne (name : QualifiedName) (value : Option Text) {level other : Level}
    (different : other ≠ level) : (name.set value level).get other = name.get other := by
  cases level <;> cases other <;> first | rfl | exact absurd rfl different

theorem ext_get {first second : QualifiedName}
    (same : ∀ level, first.get level = second.get level) : first = second := by
  cases first
  cases second
  congr
  · exact same .database
  · exact same .schema
  · exact same .table
  · exact same .column

@[simp] theorem segments_ofSegments (segments : List Text) :
    (ofSegments segments).segments = segments.take 4 := by
  match segments with
  | [] | [_] | [_, _] | [_, _, _] => rfl
  | _ :: _ :: _ :: _ :: _ => rfl

theorem depth_ofSegments (segments : List Text) :
    (ofSegments segments).depth = min 4 segments.length := by
  simp [depth, List.length_take]

end QualifiedName

end DottedNames
