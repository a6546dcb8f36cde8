import DottedNames.Case
import DottedNames.Manifest.Format

set_option autoImplicit false

namespace DottedNames

open Manifest (Format RecordType Visitor)

variable {ν : Type} (format : Format ν)

/-- A name is written as a record of its levels, each of which may be absent. -/
def QualifiedName.recordType : RecordType Level QualifiedName where
  all := Level.all
  label := Level.label
  Value _ := Option Text
  get := get
  set name level value := name.set value level
  blank := {}
  closed := true
  find?_label := Level.ofLabel?_label
  get_set name level value := get_set name value level
  get_set_of_ne name _ value _ different := get_set_of_ne name value different
  ext _ _ := ext_get

namespace Case

inductive Field where
  | input
  | quote
  | segments
  | name
  | quoted
  | unquoted
  | minimal
  | error
  | simple
deriving DecidableEq

namespace Field

def all : List Field :=
  [.input, .quote, .segments, .name, .quoted, .unquoted, .minimal, .error, .simple]

def label : Field → Text
  | .input => "input".toList
  | .quote => "quote".toList
  | .segments => "segments".toList
  | .name => "name".toList
  | .quoted => "quoted".toList
  | .unquoted => "unquoted".toList
  | .minimal => "minimal".toList
  | .error => "error".toList
  | .simple => "simple".toList

/-- Every value but the input may be absent. -/
def Value : Field → Type
  | .input => Text
  | .quote => Option Char
  | .segments => Option (List Text)
  | .name => Option QualifiedName
  | .quoted | .unquoted | .minimal | .error => Option Text
  | .simple => Option Bool

theorem find?_label (field : Field) :
    all.find? (fun other => other.label = field.label) = some field := by
  cases field <;> decide

end Field

def get (test : Case) : (field : Field) → field.Value
  | .input => test.input
  | .quote => test.quote
  | .segments => test.segments
  | .name => test.name
  | .quoted => test.quoted
  | .unquoted => test.unquoted
  | .minimal => test.minimal
  | .error => test.error
  | .simple => test.simple

def set (test : Case) : (field : Field) → field.Value → Case
  | .input, value => { test with input := value }
  | .quote, value => { test with quote := value }
  | .segments, value => { test with segments := value }
  | .name, value => { test with name := value }
  | .quoted, value => { test with quoted := value }
  | .unquoted, value => { test with unquoted := value }
  | .minimal, value => { test with minimal := value }
  | .error, value => { test with error := value }
  | .simple, value => { test with simple := value }

theorem ext_get {first second : Case} (same : ∀ field, first.get field = second.get field) :
    first = second := by
  cases first
  cases second
  congr
  · exact same .input
  · exact same .quote
  · exact same .segments
  · exact same .name
  · exact same .quoted
  · exact same .unquoted
  · exact same .minimal
  · exact same .error
  · exact same .simple

def recordType : RecordType Field Case where
  all := Field.all
  label := Field.label
  Value := Field.Value
  get := get
  set := set
  blank := {}
  closed := true
  find?_label := Field.find?_label
  get_set test field value := by cases field <;> rfl
  get_set_of_ne test field value other different := by
    cases field <;> cases other <;> first | rfl | exact absurd rfl different
  ext _ _ := ext_get

end Case

namespace Manifest

namespace Format

def name : Visitor ν QualifiedName :=
  format.record QualifiedName.recordType fun _ line => format.optional line format.text

def field : (field : Case.Field) → Option Nat → Visitor ν field.Value
  | .input, _ => format.text
  | .quote, line => format.optional line format.char
  | .segments, line => format.optional line (format.items format.text)
  | .name, line => format.optional line format.name
  | .quoted, line | .unquoted, line | .minimal, line | .error, line =>
      format.optional line format.text
  | .simple, line => format.optional line format.truth

def case : Visitor ν Case := format.record Case.recordType format.field

end Format

end Manifest

end DottedNames
