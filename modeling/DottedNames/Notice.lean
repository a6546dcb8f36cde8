import DottedNames.Name.Reading
import DottedNames.Text.Literal

set_option autoImplicit false

namespace DottedNames

inductive Severity where
  | error
  | warn
  | info
  | debug
  | trace
deriving DecidableEq

namespace Severity

def all : List Severity := [.error, .warn, .info, .debug, .trace]

def rank : Severity → Nat
  | .error => 1
  | .warn => 2
  | .info => 3
  | .debug => 4
  | .trace => 5

def label : Severity → Text
  | .error => "ERROR".toList
  | .warn => "WARN".toList
  | .info => "INFO".toList
  | .debug => "DEBUG".toList
  | .trace => "TRACE".toList

end Severity

inductive Notice where
  | dialectInUse (quote : Char)
  | bareSegment (segment : Text)
  | quotedSegment (segment : Text)
  | surplusSegments (input : Text) (count : Nat)
  | malformedName (error : SplitError)
deriving DecidableEq

namespace Notice

def severity : Notice → Severity
  | .bareSegment _ | .quotedSegment _ => .trace
  | .dialectInUse _ | .surplusSegments _ _ | .malformedName _ => .debug

def target : Notice → Text
  | .dialectInUse _ => "dotname".toList
  | .bareSegment _ | .quotedSegment _ => "dotname_core::segment".toList
  | .surplusSegments _ _ | .malformedName _ => "dotname_core::parse".toList

def body : Notice → Text
  | .dialectInUse quote => "using name syntax quote=".toList ++ [quote]
  | .bareSegment segment => "bare segment segment=".toList ++ Text.literal segment
  | .quotedSegment segment => "quoted segment segment=".toList ++ Text.literal segment
  | .surplusSegments input count =>
      "ignoring segments beyond the column level input=".toList ++ Text.literal input ++
        " segments=".toList ++ Text.ofNat count
  | .malformedName error =>
      "discarding malformed name error=".toList ++ error.message ++ " partial=".toList ++
        Text.literalList error.recovered

def line (notice : Notice) : Text :=
  notice.severity.label ++ ' ' :: notice.target ++ ':' :: ' ' :: notice.body

def fields : Notice → List Text
  | .dialectInUse _ => ["message".toList, "quote".toList]
  | .bareSegment _ | .quotedSegment _ => ["message".toList, "segment".toList]
  | .surplusSegments _ _ => ["message".toList, "input".toList, "segments".toList]
  | .malformedName _ => ["message".toList, "error".toList, "partial".toList]

end Notice

namespace Dialect

variable (dialect : Dialect)

/-- One notice for each segment that a separator followed. -/
def splitNotices (text : Text) : List Notice :=
  (dialect.scan text).separated.map fun segment =>
    if segment.head? = some dialect.quote then .quotedSegment segment else .bareSegment segment

def tryParseNotices (text : Text) : List Notice :=
  dialect.splitNotices text ++
    match dialect.split text with
    | .ok segments =>
        if Level.all.length < segments.length then [.surplusSegments text segments.length] else []
    | .error _ => []

/-- The notices of a lenient reading, which also tells of a name that it drops. -/
def parseNotices (text : Text) : List Notice :=
  dialect.tryParseNotices text ++
    match dialect.split text with
    | .ok _ => []
    | .error error => [.malformedName error]

end Dialect

end DottedNames
