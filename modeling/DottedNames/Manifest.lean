import DottedNames.Content
import DottedNames.Manifest.Schema
import DottedNames.Manifest.Yaml
import DottedNames.Text.Space

set_option autoImplicit false

namespace DottedNames

structure Manifest where
  cases : List (Text × Case) := []
  distinct : (cases.map Prod.fst).Nodup := by decide
deriving DecidableEq

namespace Manifest

/-- Stores a case; an earlier one of the same key is replaced. -/
def put (manifest : Manifest) (key : Text) (test : Case) : Manifest where
  cases := manifest.cases.filter (fun entry => entry.1 ≠ key) ++ [(key, test)]
  distinct := by
    rw [List.map_append, List.nodup_append]
    refine ⟨?_, List.pairwise_singleton _ key, ?_⟩
    · exact manifest.distinct.sublist (List.filter_sublist.map Prod.fst)
    · intro other kept last single same
      obtain ⟨entry, member, rfl⟩ := List.mem_map.mp kept
      rw [List.map_singleton, List.mem_singleton] at single
      exact of_decide_eq_true (List.mem_filter.mp member).2 (same.trans single)

def ofEntries (entries : List (Text × Case)) : Manifest :=
  entries.foldl (fun manifest entry => manifest.put entry.1 entry.2) {}

def failures (manifest : Manifest) : List (Text × Case.Failure) :=
  manifest.cases.filterMap fun (key, test) => test.failure?.map fun failure => (key, failure)

inductive LoadError where
  | unread (path : Text) (cause : ReadFailure)
  | invalid (excerpt : Text) (line : Option Nat)
deriving DecidableEq

def LoadError.message : LoadError → Text
  | .unread path _ => "failed to read manifest `".toList ++ path ++ ['`']
  | .invalid excerpt line =>
      let place :=
        match line with
        | none => []
        | some line => " at line ".toList ++ Text.ofNat line
      "invalid manifest".toList ++ place ++ " near `".toList ++ excerpt ++ ['`']

def excerptLength : Nat := 256

/-- The start of a text, without the white space around the text. -/
def excerpt (text : Text) : Text :=
  let trimmed := Text.trim text
  if trimmed.length ≤ excerptLength then trimmed
  else trimmed.take excerptLength ++ "...".toList

/-- Every case is read, also one that a later case replaces. -/
def Format.manifest {ν : Type} (format : Format ν) : Visitor ν Manifest := fun place =>
  return .ofEntries (← format.entries format.text format.case place)

def load {ν : Type} (format : Format ν) (text : Text) : Except LoadError Manifest :=
  (format.document format.manifest text).mapError fun refusal =>
    .invalid (excerpt text) refusal.line

def ofText : Text → Except LoadError Manifest := load .yaml

def ofContent (path : Text) : Content → Except LoadError Manifest
  | .error cause => .error (.unread path cause)
  | .ok text => ofText text

end Manifest

end DottedNames
