import DottedNames.Manifest.Format
import Mathlib.Data.List.Forall2
import Mathlib.Data.List.Pairwise

set_option autoImplicit false

namespace DottedNames

namespace Manifest

/-- The content of a manifest, whatever format it is written in. -/
inductive Tree where
  | plain (text : Text)
  | quoted (text : Text)
  | sequence (items : List Tree)
  | mapping (entries : List (Tree × Tree))

namespace Tree

def empty : Tree := .plain []

inductive IsText : Tree → Text → Prop where
  | plain {text : Text} : IsText (.plain text) text
  | quoted {text : Text} : IsText (.quoted text) text

def IsChar (tree : Tree) (c : Char) : Prop := tree.IsText [c]

def truthWords : Bool → List String
  | true => ["true", "True", "TRUE"]
  | false => ["false", "False", "FALSE"]

def IsTruth (tree : Tree) (value : Bool) : Prop :=
  ∃ word ∈ truthWords value, tree = .plain word.toList

/-- Between quotes nothing is absent. -/
def IsAbsent (tree : Tree) : Prop :=
  ∃ word ∈ ["", "~", "null", "Null", "NULL"], tree = .plain word.toList

inductive IsOptional {α : Type} (IsValue : Tree → α → Prop) (tree : Tree) : Option α → Prop where
  | absent : tree.IsAbsent → IsOptional IsValue tree none
  | present {value : α} : ¬ tree.IsAbsent → IsValue tree value →
      IsOptional IsValue tree (some value)

def IsListOf {α : Type} (IsItem : Tree → α → Prop) (tree : Tree) (values : List α) : Prop :=
  ∃ items, tree = .sequence items ∧ List.Forall₂ IsItem items values

/-- Where nothing is written there are no entries. -/
inductive HasEntries : Tree → List (Tree × Tree) → Prop where
  | mapping {entries : List (Tree × Tree)} : HasEntries (.mapping entries) entries
  | empty : HasEntries .empty []

def IsEntry {α β : Type} (IsKey : Tree → α → Prop) (IsValue : Tree → β → Prop)
    (entry : Tree × Tree) (stored : α × β) : Prop :=
  IsKey entry.1 stored.1 ∧ IsValue entry.2 stored.2

def IsMappingOf {α β : Type} (IsKey : Tree → α → Prop) (IsValue : Tree → β → Prop) (tree : Tree)
    (stored : List (α × β)) : Prop :=
  ∃ entries, tree.HasEntries entries ∧ List.Forall₂ (IsEntry IsKey IsValue) entries stored

/-- What is written under a label, or the default where the label is not written. -/
def Gives {α : Type} (entries : List (Tree × Tree)) (label : Text) (IsValue : Tree → α → Prop)
    (default value : α) : Prop :=
  (∃ entry ∈ entries, entry.1.IsText label ∧ IsValue entry.2 value) ∨
    (∀ entry ∈ entries, ¬ entry.1.IsText label) ∧ value = default

/-- Every key is a label, and no two of them are the same. -/
structure HasKeys (labels : List Text) (entries : List (Tree × Tree)) : Prop where
  known : ∀ entry ∈ entries, ∃ label ∈ labels, entry.1.IsText label
  distinct : entries.Pairwise fun first second =>
    ∀ key, first.1.IsText key → ¬ second.1.IsText key

theorem IsText.unique {tree : Tree} {text other : Text} (first : tree.IsText text)
    (second : tree.IsText other) : other = text := by
  cases first <;> cases second <;> rfl

end Tree

namespace RecordType

variable {φ ρ : Type} (type : RecordType φ ρ)
  (Holds : (field : φ) → Tree → type.Value field → Prop)

def IsFor (field : φ) (entry : Tree × Tree) : Prop := entry.1.IsText (type.label field)

/-- A key that is no label may stand in an open record only. -/
def IsKnown (entry : Tree × Tree) : Prop :=
  (∃ field, type.IsFor field entry) ∨ type.closed = false ∧ ∃ key, entry.1.IsText key

def AreDistinct (entries : List (Tree × Tree)) : Prop :=
  entries.Pairwise fun first second => ∀ field, type.IsFor field first → ¬ type.IsFor field second

/-- The record that some entries make of a base record. -/
structure Describes (entries : List (Tree × Tree)) (base record : ρ) : Prop where
  known : ∀ entry ∈ entries, type.IsKnown entry
  distinct : type.AreDistinct entries
  written : ∀ entry ∈ entries, ∀ field, type.IsFor field entry →
    Holds field entry.2 (type.get record field)
  unwritten : ∀ field, (∀ entry ∈ entries, ¬ type.IsFor field entry) →
    type.get record field = type.get base field

def IsRecord (tree : Tree) (record : ρ) : Prop :=
  ∃ entries, tree.HasEntries entries ∧ type.Describes Holds entries type.blank record

variable {type Holds} {field : φ} {entry : Tree × Tree} {entries : List (Tree × Tree)}
  {base record : ρ}

theorem IsFor.unique {other : φ} (first : type.IsFor field entry)
    (second : type.IsFor other entry) : other = field :=
  type.label_inj (Tree.IsText.unique first second)

theorem IsFor.forall_not_iff {fields : List φ} (first : type.IsFor field entry) :
    (∀ other ∈ fields, ¬ type.IsFor other entry) ↔ field ∉ fields := by
  constructor
  · intro apart member
    exact apart field member first
  · intro fresh other member second
    rw [first.unique second] at member
    exact fresh member

theorem describes_nil_iff : type.Describes Holds [] base record ↔ record = base := by
  constructor
  · intro describes
    exact type.ext record base fun field => describes.unwritten field nofun
  · rintro rfl
    exact ⟨nofun, .nil, nofun, fun _ _ => rfl⟩

theorem areDistinct_cons_iff (first : type.IsFor field entry) :
    type.AreDistinct (entry :: entries) ↔
      (∀ later ∈ entries, ¬ type.IsFor field later) ∧ type.AreDistinct entries := by
  unfold AreDistinct
  rw [List.pairwise_cons]
  refine and_congr_left fun _ => forall₂_congr fun later _ => ?_
  constructor
  · intro apart
    exact apart field first
  · intro apart other second
    rw [first.unique second]
    exact apart

theorem areDistinct_cons_iff_of_unknown (unknown : ∀ field, ¬ type.IsFor field entry) :
    type.AreDistinct (entry :: entries) ↔ type.AreDistinct entries := by
  unfold AreDistinct
  rw [List.pairwise_cons]
  exact and_iff_right fun _ _ field first => absurd first (unknown field)

/-- The first entry sets its field, and the others leave that field alone. -/
theorem describes_cons_iff (first : type.IsFor field entry) :
    type.Describes Holds (entry :: entries) base record ↔
      (∀ later ∈ entries, ¬ type.IsFor field later) ∧
      ∃ value, Holds field entry.2 value ∧
        type.Describes Holds entries (type.set base field value) record := by
  constructor
  · intro describes
    obtain ⟨later, distinct⟩ := (areDistinct_cons_iff first).mp describes.distinct
    obtain ⟨_, known⟩ := List.forall_mem_cons.mp describes.known
    obtain ⟨holds, written⟩ := List.forall_mem_cons.mp describes.written
    refine ⟨later, type.get record field, holds field first, known, distinct, written, ?_⟩
    intro each unwritten
    by_cases same : each = field
    · subst same
      rw [type.get_set]
    · have others : ∀ other ∈ entry :: entries, ¬ type.IsFor each other :=
        List.forall_mem_cons.mpr ⟨fun second => same (first.unique second), unwritten⟩
      rw [describes.unwritten each others, type.get_set_of_ne base field _ each same]
  · rintro ⟨later, value, holds, describes⟩
    -- The entries behind the first are for other fields, so the value set first is kept.
    have kept : type.get record field = value := by
      rw [describes.unwritten field later, type.get_set]
    refine ⟨List.forall_mem_cons.mpr ⟨.inl ⟨field, first⟩, describes.known⟩,
      (areDistinct_cons_iff first).mpr ⟨later, describes.distinct⟩,
      List.forall_mem_cons.mpr ⟨?_, describes.written⟩, ?_⟩
    · intro other second
      obtain rfl := first.unique second
      rw [kept]
      exact holds
    · intro each unwritten
      obtain ⟨head, tail⟩ := List.forall_mem_cons.mp unwritten
      have different : each ≠ field := by
        rintro rfl
        exact head first
      rw [describes.unwritten each tail, type.get_set_of_ne base field value each different]

theorem describes_cons_iff_of_unknown (unknown : ∀ field, ¬ type.IsFor field entry) :
    type.Describes Holds (entry :: entries) base record ↔
      (type.closed = false ∧ ∃ key, entry.1.IsText key) ∧
        type.Describes Holds entries base record := by
  have known : type.IsKnown entry ↔ type.closed = false ∧ ∃ key, entry.1.IsText key :=
    or_iff_right fun ⟨field, first⟩ => unknown field first
  constructor
  · intro describes
    obtain ⟨head, tail⟩ := List.forall_mem_cons.mp describes.known
    refine ⟨known.mp head, tail, (areDistinct_cons_iff_of_unknown unknown).mp describes.distinct,
      (List.forall_mem_cons.mp describes.written).2, fun field unwritten => ?_⟩
    exact describes.unwritten field (List.forall_mem_cons.mpr ⟨unknown field, unwritten⟩)
  · rintro ⟨head, describes⟩
    refine ⟨List.forall_mem_cons.mpr ⟨known.mpr head, describes.known⟩,
      (areDistinct_cons_iff_of_unknown unknown).mpr describes.distinct,
      List.forall_mem_cons.mpr ⟨fun field first => absurd first (unknown field),
        describes.written⟩, fun field unwritten => ?_⟩
    exact describes.unwritten field (List.forall_mem_cons.mp unwritten).2

theorem AreDistinct.unique {other : Tree × Tree} (distinct : type.AreDistinct entries)
    (member : entry ∈ entries) (first : type.IsFor field entry) (another : other ∈ entries)
    (second : type.IsFor field other) : entry = other := by
  have symmetric : Std.Symm fun first second : Tree × Tree =>
      ∀ field, type.IsFor field first → ¬ type.IsFor field second :=
    ⟨fun _ _ apart field here there => apart field there here⟩
  by_contra different
  exact distinct.forall member another different field first second

theorem hasKeys_iff (closed : type.closed = true) :
    Tree.HasKeys (type.all.map type.label) entries ↔
      (∀ entry ∈ entries, type.IsKnown entry) ∧ type.AreDistinct entries := by
  constructor
  · rintro ⟨known, distinct⟩
    refine ⟨fun entry member => ?_, distinct.imp fun apart field => apart (type.label field)⟩
    obtain ⟨label, listed, isText⟩ := known entry member
    obtain ⟨field, _, rfl⟩ := List.mem_map.mp listed
    exact .inl ⟨field, isText⟩
  · rintro ⟨known, distinct⟩
    have isFor : ∀ entry ∈ entries, ∃ field, type.IsFor field entry := by
      intro entry member
      refine (known entry member).resolve_right ?_
      rintro ⟨isOpen, _⟩
      exact Bool.false_ne_true (isOpen.symm.trans closed)
    constructor
    · intro entry member
      obtain ⟨field, first⟩ := isFor entry member
      have listed : field ∈ type.all := List.mem_of_find?_eq_some (type.find?_label field)
      exact ⟨type.label field, List.mem_map_of_mem listed, first⟩
    · refine distinct.imp_of_mem fun member _ apart key isText => ?_
      obtain ⟨field, first⟩ := isFor _ member
      obtain rfl := Tree.IsText.unique first isText
      exact apart field first

/-- In a closed record every field has what is written under its label. -/
theorem describes_iff (closed : type.closed = true) :
    type.Describes Holds entries base record ↔
      Tree.HasKeys (type.all.map type.label) entries ∧ ∀ field,
        Tree.Gives entries (type.label field) (Holds field) (type.get base field)
          (type.get record field) := by
  rw [hasKeys_iff closed]
  constructor
  · intro describes
    refine ⟨⟨describes.known, describes.distinct⟩, fun field => ?_⟩
    by_cases written : ∃ entry ∈ entries, type.IsFor field entry
    · obtain ⟨entry, member, first⟩ := written
      exact .inl ⟨entry, member, first, describes.written entry member field first⟩
    · have unwritten : ∀ entry ∈ entries, ¬ type.IsFor field entry := by
        intro entry member first
        exact written ⟨entry, member, first⟩
      exact .inr ⟨unwritten, describes.unwritten field unwritten⟩
  · rintro ⟨⟨known, distinct⟩, gives⟩
    refine ⟨known, distinct, fun entry member field first => ?_, fun field unwritten => ?_⟩
    · rcases gives field with ⟨other, another, second, holds⟩ | ⟨unwritten, _⟩
      · rw [distinct.unique member first another second]
        exact holds
      · exact absurd first (unwritten entry member)
    · rcases gives field with ⟨other, another, second, _⟩ | ⟨_, same⟩
      · exact absurd second (unwritten other another)
      · exact same

end RecordType

end Manifest

end DottedNames
