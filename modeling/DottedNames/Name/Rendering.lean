import DottedNames.Name
import DottedNames.Name.Simple
import DottedNames.Segment

set_option autoImplicit false

namespace DottedNames

inductive Style where
  /-- Every level is quoted. -/
  | quoted
  /-- Every level is written as it is, whatever it holds. -/
  | unquoted
  /-- Simple names are written as they are and all others quoted. -/
  | minimal
deriving DecidableEq

def Style.label : Style → Text
  | .quoted => "quoted".toList
  | .unquoted => "unquoted".toList
  | .minimal => "minimal".toList

namespace Dialect

variable (dialect : Dialect)

def renderSegment (value : Text) : Style → Text
  | .quoted => dialect.quoteSegment value
  | .unquoted => value
  | .minimal => if Text.isSimpleName value then value else dialect.quoteSegment value

def render (name : QualifiedName) (style : Style) : Text :=
  [separator].intercalate (name.segments.map fun value => dialect.renderSegment value style)

end Dialect

/-- A name on its own is written quoted, in the dialect of double quotes. -/
def QualifiedName.display (name : QualifiedName) : Text :=
  (default : Dialect).render name .quoted

end DottedNames
