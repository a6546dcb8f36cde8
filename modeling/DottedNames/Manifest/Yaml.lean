import DottedNames.Manifest.Document
import DottedNames.Manifest.Format

set_option autoImplicit false

namespace DottedNames

namespace Manifest

namespace Node

/-- A text is any scalar, as it is written. -/
def text : Visitor Node Text
  | .scalar text _ _ _ => .ok text
  | node => .error ⟨node.line⟩

def isWord (words : List String) (text : Text) : Bool := words.any fun word => word.toList = text

def nullWords : List String := ["null", "Null", "NULL", "~"]

def nullTag : Text := "tag:yaml.org,2002:null".toList

def truthTag : Text := "tag:yaml.org,2002:bool".toList

/-- Whether a plain scalar stands for an absent value. With a tag only that of null does, and it has
to be written with one of the words; the fault is that of the record, whose line is given. -/
def isNull (record : Option Nat) : Visitor Node Bool
  | .scalar text .plain none _ => .ok (text = [] || isWord nullWords text)
  | .scalar text .plain (some tag) _ =>
      if tag ≠ nullTag then .ok false
      else if isWord nullWords text then .ok true
      else .error ⟨record⟩
  | _ => .ok false

def optional {α : Type} (record : Option Nat) (read : Visitor Node α) :
    Visitor Node (Option α) := fun node => do
  if ← node.isNull record then return none else return some (← read node)

def char : Visitor Node Char
  | .scalar [c] _ _ _ => .ok c
  | node => .error ⟨node.line⟩

/-- A truth value is a plain scalar, or a literal block with its tag. -/
def truth : Visitor Node Bool
  | .scalar text style tag line =>
      if !(style = .plain || (style = .literal && tag = some truthTag)) then .error ⟨line⟩
      else if isWord ["true", "True", "TRUE"] text then .ok true
      else if isWord ["false", "False", "FALSE"] text then .ok false
      else .error ⟨line⟩
  | node => .error ⟨node.line⟩

/-- The nodes of a list. A plain scalar that is left empty is an empty list. -/
def children : Visitor Node (List Node)
  | .sequence items _ => .ok items
  | .scalar [] .plain _ _ => .ok []
  | node => .error ⟨node.line⟩

def items {α : Type} (read : Visitor Node α) : Visitor Node (List α) := fun node => do
  (← node.children).mapM read

/-- The keys and values of a mapping. A plain scalar that is left empty is an empty mapping. -/
def pairs : Visitor Node (List (Node × Node))
  | .mapping entries _ => .ok entries
  | .scalar [] .plain _ _ => .ok []
  | node => .error ⟨node.line⟩

def entries {α β : Type} (readKey : Visitor Node α) (readValue : Visitor Node β) :
    Visitor Node (List (α × β)) := fun node => do
  (← node.pairs).mapM fun (key, value) => return (← readKey key, ← readValue value)

section Records

variable {φ ρ : Type} [DecidableEq φ] (type : RecordType φ ρ)
  (read : (field : φ) → Option Nat → Visitor Node (type.Value field))

/-- Reads the entries of a record in order. A key that names no field is reported at its own line,
and a field that was read before at the line where the record starts. -/
def readFields (line : Option Nat) : List φ → ρ → List (Node × Node) → Except Refusal ρ
  | _, record, [] => .ok record
  | seen, record, (key, value) :: rest => do
      match type.ofLabel? (← key.text) with
      | none => if type.closed then .error ⟨key.line⟩ else readFields line seen record rest
      | some field =>
          if field ∈ seen then .error ⟨line⟩
          else
            readFields line (field :: seen) (type.set record field (← read field line value)) rest

def record : Visitor Node ρ := fun node => do
  readFields type read node.line [] type.blank (← node.pairs)

end Records

end Node

/-- Reads the root. What does not fit there is reported before a fault behind the root, and that
before a second document. Several documents are refused as a whole. -/
def Document.read {α : Type} (visit : Visitor Node α) (document : Document) :
    Except Refusal α := do
  let value ← visit (document.root.getD (.empty 0))
  if document.fault.isSome then throw ⟨document.fault⟩
  else if document.continues then throw ⟨none⟩
  else return value

/-- The format in which manifests are written. What is said of loading rests on its laws alone. -/
def Format.yaml : Format Node where
  document visit text := (Document.ofText text).read visit
  text := Node.text
  char := Node.char
  truth := Node.truth
  optional := Node.optional
  items := Node.items
  entries := Node.entries
  record := Node.record

end Manifest

end DottedNames
