import DottedNames.Proofs.Trees

set_option autoImplicit false

namespace DottedNames

namespace Manifest

section

variable {ν α : Type} (Shows : ν → Tree → Prop) (read : Visitor ν α) (IsValue : Tree → α → Prop)

/-- A visitor gives a value exactly if the tree that is shown at the place stands for it. -/
def Reads : Prop :=
  ∀ place tree, Shows place tree → ∀ value, read place = .ok value ↔ IsValue tree value

def ReadsPresent : Prop :=
  ∀ place tree, Shows place tree → ¬ tree.IsAbsent →
    ∀ value, read place = .ok value ↔ IsValue tree value

variable {Shows read IsValue}

theorem Reads.present (reads : Reads Shows read IsValue) : ReadsPresent Shows read IsValue :=
  fun place tree shown _ => reads place tree shown

end

/-- What the reading of manifests rests on. `IsDocument` says which texts hold one document only,
and `Shows` which tree there is at a place. -/
structure Format.Lawful {ν : Type} (format : Format ν) (IsDocument : Text → Tree → Prop)
    (Shows : ν → Tree → Prop) : Prop where
  document : ∀ {text tree}, IsDocument text tree → ∃ root, Shows root tree ∧
    ∀ {α : Type} (read : Visitor ν α) (value : α),
      format.document read text = .ok value ↔ read root = .ok value
  text : Reads Shows format.text Tree.IsText
  char : Reads Shows format.char Tree.IsChar
  truth : Reads Shows format.truth Tree.IsTruth
  optional : ∀ {α : Type} {read : Visitor ν α} {IsValue : Tree → α → Prop},
    ReadsPresent Shows read IsValue →
      ∀ line, Reads Shows (format.optional line read) (Tree.IsOptional IsValue)
  items : ∀ {α : Type} {read : Visitor ν α} {IsItem : Tree → α → Prop},
    Reads Shows read IsItem → ReadsPresent Shows (format.items read) (Tree.IsListOf IsItem)
  entries : ∀ {α β : Type} {readKey : Visitor ν α} {readValue : Visitor ν β}
    {IsKey : Tree → α → Prop} {IsValue : Tree → β → Prop}, Reads Shows readKey IsKey →
      Reads Shows readValue IsValue →
        Reads Shows (format.entries readKey readValue) (Tree.IsMappingOf IsKey IsValue)
  /-- A record is refused if a field is repeated, if a key is unknown that has to be a label, or if
  a field is given what it does not hold. -/
  record : ∀ {φ ρ : Type} [DecidableEq φ] {type : RecordType φ ρ}
    {read : (field : φ) → Option Nat → Visitor ν (type.Value field)}
    {Holds : (field : φ) → Tree → type.Value field → Prop},
    (∀ field line, Reads Shows (read field line) (Holds field)) →
      Reads Shows (format.record type read) (type.IsRecord Holds)

end Manifest

end DottedNames
