import DottedNames.Text

set_option autoImplicit false

namespace DottedNames

namespace Manifest

/-- The line at which a manifest is refused, unless it is refused as a whole. -/
structure Refusal where
  line : Option Nat
deriving DecidableEq

/-- Reads a value at a place in a manifest. -/
abbrev Visitor (ν α : Type) := ν → Except Refusal α

/-- The fields of a record and their labels. -/
structure RecordType (φ ρ : Type) where
  all : List φ
  label : φ → Text
  Value : φ → Type
  get : ρ → (field : φ) → Value field
  set : ρ → (field : φ) → Value field → ρ
  /-- What the fields hold that are not written. -/
  blank : ρ
  /-- Whether a key has to be a label. -/
  closed : Bool
  find?_label : ∀ field, all.find? (fun other => label other = label field) = some field
  get_set : ∀ record field value, get (set record field value) field = value
  get_set_of_ne : ∀ record field value other, other ≠ field →
    get (set record field value) other = get record other
  ext : ∀ first second, (∀ field, get first field = get second field) → first = second

namespace RecordType

variable {φ ρ : Type} (type : RecordType φ ρ)

def ofLabel? (text : Text) : Option φ := type.all.find? fun field => type.label field = text

theorem ofLabel?_eq_some_iff {text : Text} {field : φ} :
    type.ofLabel? text = some field ↔ text = type.label field := by
  constructor
  · intro same
    have matched := List.find?_some same
    exact (of_decide_eq_true matched).symm
  · rintro rfl
    exact type.find?_label field

theorem label_inj {field other : φ} (same : type.label field = type.label other) :
    field = other := by
  have found := type.find?_label field
  rw [same, type.find?_label other] at found
  exact (Option.some.inj found).symm

end RecordType

/-- How the texts of manifests are read, by the places in them. -/
structure Format (ν : Type) where
  /-- Reads a value at the root of the only document in a text. -/
  document {α : Type} : Visitor ν α → Text → Except Refusal α
  text : Visitor ν Text
  char : Visitor ν Char
  truth : Visitor ν Bool
  /-- The line is that of the record with the value in it. -/
  optional {α : Type} : Option Nat → Visitor ν α → Visitor ν (Option α)
  items {α : Type} : Visitor ν α → Visitor ν (List α)
  entries {α β : Type} : Visitor ν α → Visitor ν β → Visitor ν (List (α × β))
  record {φ ρ : Type} [DecidableEq φ] (type : RecordType φ ρ) :
    ((field : φ) → Option Nat → Visitor ν (type.Value field)) → Visitor ν ρ

end Manifest

end DottedNames
