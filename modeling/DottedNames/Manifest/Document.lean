import DottedNames.Manifest.Node

set_option autoImplicit false

namespace DottedNames

namespace Manifest

structure Document where
  /-- There is none in a text without content. -/
  root : Option Node
  /-- The line of a fault behind the root. -/
  fault : Option Nat := none
  /-- Whether another document follows, be it readable or not. -/
  continues : Bool := false

namespace Document

def endsDocument : Mark → Bool
  | .directive _ | .documentStart | .documentEnd | .endOfText => true
  | _ => false

def startsHeader : Mark → Bool
  | .directive _ | .documentStart => true
  | _ => false

def isKnownVersion (major minor : Nat) : Bool := major = 1 && (minor = 1 || minor = 2)

/-- What the handles stand for and the tokens behind the directives. The version is given once at
most, and so is each handle; a directive may redefine a handle that is known anyway. -/
def readDirectives (versioned : Bool) (handles : List (Text × Text)) :
    List Token → Except Fault Source
  | ⟨.directive (.version major minor), line⟩ :: rest =>
      if versioned || !isKnownVersion major minor then .error ⟨line⟩
      else readDirectives true handles rest
  | ⟨.directive (.tag handle start), line⟩ :: rest =>
      if (handles.lookup handle).isSome then .error ⟨line⟩
      else readDirectives versioned (handles ++ [(handle, start)]) rest
  | tokens => .ok { tokens, handles := handles ++ Tag.knownHandles }

/-- A level of nesting costs a step for the node and one for the list that it is in. -/
def fuelFor (tokens : List Token) : Nat := 2 * tokens.length + 2

/-- References may be followed so often for each event of the document. -/
def referenceRate : Nat := 100

/-- The most nodes that stand in each other in a manifest: cases by their keys, the fields of a
case, and the items or levels in a field. References below them need not be followed. -/
def depth : Nat := 4

/-- The document with a root, and the source behind the root, if there was no fault in it. -/
def close (root : Node) (source : Source) : Document :=
  let (root, _) := (root.resolve source.named depth).run (referenceRate * source.events)
  if source.tokens = [] then { root }
  else if source.nextIs (· = .broken) then { root, fault := source.nextLine }
  else
    let rest := source.go (source.tokens.dropWhile fun token => token.mark = .documentEnd)
    { root, continues := !rest.nextIs (· = .endOfText) }

/-- The document at the start of the tokens. Dashes start it, unless it starts with its content. -/
def ofTokens (tokens : List Token) : Document :=
  let source : Source := { tokens }
  let node := readNode (fuelFor tokens) true false
  if source.nextIs (· = .endOfText) then { root := none }
  else if source.nextIs startsHeader then
    match readDirectives false [] tokens with
    | .error fault => { root := some (.broken fault.line) }
    | .ok source =>
        if source.nextIs (· = .documentStart) then
          let source := source.go source.tokens.tail
          let (root, source) := (nodeUnless endsDocument source.nextLine node).run source
          close root source
        else { root := some (.broken source.nextLine) }
  else
    let (root, source) := node.run source
    close root source

def ofText (text : Text) : Document := ofTokens (tokens text)

end Document

end Manifest

end DottedNames
