import DottedNames.Manifest.Block
import DottedNames.Manifest.Tag

set_option autoImplicit false

namespace DottedNames

namespace Manifest

inductive Mark where
  | directive (directive : Directive)
  | documentStart
  | documentEnd
  | blockSequenceStart
  | blockMappingStart
  | blockEnd
  | flowSequenceStart
  | flowSequenceEnd
  | flowMappingStart
  | flowMappingEnd
  | flowEntry
  | blockEntry
  | key
  | value
  | scalar (text : Text) (style : Style)
  | tag (tag : Tag)
  | anchor (name : Text)
  | reference (name : Text)
  | endOfText
  /-- The text cannot be read from here on. -/
  | broken
deriving DecidableEq

structure Token where
  mark : Mark
  line : Nat
deriving DecidableEq

end Manifest

end DottedNames
