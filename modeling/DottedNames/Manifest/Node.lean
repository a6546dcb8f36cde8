import DottedNames.Manifest.Lexer

set_option autoImplicit false

namespace DottedNames

namespace Manifest

inductive Node where
  | scalar (text : Text) (style : Style) (tag : Option Text) (line : Nat)
  | sequence (items : List Node) (line : Nat)
  | mapping (entries : List (Node × Node)) (line : Nat)
  /-- Stands for the node with the number. -/
  | reference (number : Nat) (line : Nat)
  /-- A place that cannot be read. Where the text breaks off there, it is the last thing of every
  collection around it, so whoever walks a tree in the order of the text meets it in its turn. -/
  | broken (line : Option Nat)

namespace Node

/-- The line of a node. A node has none if the manifest is broken as a whole. -/
def line : Node → Option Nat
  | .scalar _ _ _ line => line
  | .sequence _ line => line
  | .mapping _ line => line
  | .reference _ line => line
  | .broken line => line

def empty (line : Nat) : Node := .scalar [] .plain none line

/-- The node that a reference stands for. The state is the number of references that may still be
followed. -/
def follow (named : List (Nat × Node)) : Node → StateM Nat Node
  | .reference number line => do
      match ← get with
      | 0 => return .broken none
      | left + 1 =>
          set left
          return (named.lookup number).getD (.broken line)
  | node => return node

/-- Puts the nodes in the places of the references to them, in the order of the text, as deep as is
asked for. -/
def resolve (named : List (Nat × Node)) : Nat → Node → StateM Nat Node
  | 0, node => return node
  | depth + 1, node => do
      match ← follow named node with
      | .sequence items line => return .sequence (← items.mapM (resolve named depth)) line
      | .mapping entries line =>
          let entries ← entries.mapM fun (key, value) =>
            return (← resolve named depth key, ← resolve named depth value)
          return .mapping entries line
      | node => return node

end Node

/-- The tokens ahead and what is known from those before them. There is a token ahead until the text
breaks off. -/
structure Source where
  tokens : List Token
  handles : List (Text × Text) := Tag.knownHandles
  /-- The names that anchors gave, each with the number of the node that got it last. -/
  names : List (Text × Nat) := []
  /-- The nodes with anchors by their numbers. What started last comes first. -/
  named : List (Nat × Node) := []
  /-- The number of scalars and references so far, and of the starts and ends of collections. -/
  events : Nat := 0

namespace Source

def go (source : Source) (rest : List Token) : Source := { source with tokens := rest }

def nextIs (marks : Mark → Bool) (source : Source) : Bool :=
  source.tokens.head?.any fun token => marks token.mark

def nextLine (source : Source) : Nat := (source.tokens.head?.map (·.line)).getD 0

/-- Counts an event and passes its tokens. What is left out has none. Where the text breaks off
there is no event. -/
def pass (source : Source) (rest : List Token) : Source :=
  let present := source.nextIs (· ≠ .broken)
  { source with tokens := rest, events := if present then source.events + 1 else source.events }

def passEntry (source : Source) : Source :=
  match source.tokens with
  | ⟨.flowEntry, _⟩ :: rest => source.go rest
  | _ => source

/-- Gives a name to the node that starts here. It is numbered by how many different names there were
before, so with a name that was given before it shares its number with the next one named. -/
def enroll (source : Source) (name : Option Text) : Source :=
  match name with
  | none => source
  | some name =>
      let number := source.names.length
      { source with
        names := (name, number) :: source.names.filter fun entry => entry.1 ≠ name
        named := (number, .broken none) :: source.named }

/-- Notes a node that was given a name, when a number of others had one. -/
def settle (source : Source) (name : Option Text) (before : Nat) (node : Node) : Source :=
  match name with
  | none => source
  | some _ =>
      { source with
        named := source.named.modify (source.named.length - 1 - before) fun entry =>
          (entry.1, node) }

end Source

abbrev Reader := StateM Source

namespace Reader

def stop (line : Nat) : Reader Node := do
  modify (·.go [])
  return .broken line

def fail : Reader Node := do stop (← get).nextLine

/-- Reads a node that may have a name. References to it may stand inside it. -/
def naming (name : Option Text) (content : Reader Node) : Reader Node := do
  let source ← get
  set (source.enroll name)
  let node ← content
  modify (·.settle name source.named.length node)
  return node

end Reader

/-- An anchor and a tag, in either order. -/
structure Properties where
  anchor : Option Text
  tag : Option (Tag × Nat)
  rest : List Token

namespace Properties

def ofTokens : List Token → Properties
  | ⟨.anchor name, _⟩ :: ⟨.tag tag, line⟩ :: rest => ⟨some name, some (tag, line), rest⟩
  | ⟨.tag tag, line⟩ :: ⟨.anchor name, _⟩ :: rest => ⟨some name, some (tag, line), rest⟩
  | ⟨.anchor name, _⟩ :: rest => ⟨some name, none, rest⟩
  | ⟨.tag tag, line⟩ :: rest => ⟨none, some (tag, line), rest⟩
  | tokens => ⟨none, none, tokens⟩

def isEmpty (properties : Properties) : Bool :=
  properties.anchor.isNone && properties.tag.isNone

/-- The text of the tag. A handle that stands for nothing is a fault. -/
def tag? (properties : Properties) (handles : List (Text × Text)) : Except Fault (Option Text) :=
  match properties.tag with
  | none => .ok none
  | some (tag, line) =>
      match tag.expand? handles with
      | none => .error ⟨line⟩
      | some text => .ok (some text)

end Properties

open Reader (fail stop naming)

/-- The node that starts at a token, or an empty one in front of a token that ends the place. -/
def nodeUnless (ends : Mark → Bool) (line : Nat) (node : Reader Node) : Reader Node := do
  let source ← get
  if source.nextIs ends then
    set (source.pass source.tokens)
    return .empty line
  else node

def valueOf (ends : Mark → Bool) (node : Reader Node) : Reader Node := do
  let source ← get
  match source.tokens with
  | ⟨.value, line⟩ :: rest =>
      set (source.go rest)
      nodeUnless ends line node
  | _ => nodeUnless (· ≠ .broken) source.nextLine fail

def endsItem (mark : Mark) : Bool := mark = .blockEntry || mark = .blockEnd

def endsEntry (mark : Mark) : Bool := mark = .key || mark = .value || mark = .blockEnd

def endsFlow (close mark : Mark) : Bool := mark = .flowEntry || mark = close

mutual

/-- Reads a node. Block collections may start only in block places, and a sequence without an
indentation of its own only as a part of a block mapping. A node that is nothing but its properties
is an empty scalar, and a node starts at the line of its first property. -/
def readNode : Nat → Bool → Bool → Reader Node
  | 0, _, _ => fail
  | fuel + 1, inBlock, inMapping => do
      let source ← get
      let line := source.nextLine
      let properties := Properties.ofTokens source.tokens
      let content := source.go properties.rest
      set content
      if content.nextIs (· = .broken) then fail
      else
        match properties.tag? source.handles with
        | .error fault => stop fault.line
        | .ok tag =>
            let single (node : Node) (rest : List Token) :=
              naming properties.anchor do
                modify (·.pass rest)
                return node
            let sequence (items : Reader (List Node)) (rest : List Token) :=
              naming properties.anchor do
                modify (·.pass rest)
                return .sequence (← items) line
            let mapping (entries : Reader (List (Node × Node))) (rest : List Token) :=
              naming properties.anchor do
                modify (·.pass rest)
                return .mapping (← entries) line
            let absent : Reader Node :=
              if properties.isEmpty then fail
              else single (.scalar [] .plain tag line) properties.rest
            match properties.rest with
            | ⟨.reference name, _⟩ :: rest =>
                match properties.isEmpty, source.names.lookup name with
                | true, some number => single (.reference number line) rest
                | _, _ => absent
            | ⟨.scalar text style, _⟩ :: rest => single (.scalar text style tag line) rest
            | ⟨.flowSequenceStart, _⟩ :: rest => sequence (flowItems fuel true) rest
            | ⟨.flowMappingStart, _⟩ :: rest => mapping (flowEntries fuel true) rest
            | ⟨.blockSequenceStart, _⟩ :: rest =>
                if inBlock then sequence (blockItems fuel) rest else absent
            | ⟨.blockMappingStart, _⟩ :: rest =>
                if inBlock then mapping (blockEntries fuel) rest else absent
            | ⟨.blockEntry, _⟩ :: _ =>
                if inMapping then sequence (alignedItems fuel) properties.rest else absent
            | _ => absent

def blockItems : Nat → Reader (List Node)
  | 0 => return [← fail]
  | fuel + 1 => do
      let source ← get
      match source.tokens with
      | [] => return []
      | ⟨.blockEnd, _⟩ :: rest =>
          set (source.pass rest)
          return []
      | ⟨.blockEntry, line⟩ :: rest =>
          set (source.go rest)
          let item ← nodeUnless endsItem line (readNode fuel true false)
          return item :: (← blockItems fuel)
      | _ => return [← fail]

/-- The items of a sequence that stands at the column of its key. -/
def alignedItems : Nat → Reader (List Node)
  | 0 => return [← fail]
  | fuel + 1 => do
      let source ← get
      match source.tokens with
      | [] => return []
      | ⟨.blockEntry, line⟩ :: rest =>
          set (source.go rest)
          let ends (mark : Mark) := endsItem mark || endsEntry mark
          let item ← nodeUnless ends line (readNode fuel true false)
          return item :: (← alignedItems fuel)
      | ⟨.broken, _⟩ :: _ => return [← fail]
      | rest =>
          set (source.pass rest)
          return []

def blockEntries : Nat → Reader (List (Node × Node))
  | 0 => return [(← fail, ← fail)]
  | fuel + 1 => do
      let source ← get
      match source.tokens with
      | [] => return []
      | ⟨.blockEnd, _⟩ :: rest =>
          set (source.pass rest)
          return []
      | ⟨.key, line⟩ :: rest =>
          set (source.go rest)
          let key ← nodeUnless endsEntry line (readNode fuel true true)
          let value ← valueOf endsEntry (readNode fuel true true)
          return (key, value) :: (← blockEntries fuel)
      | _ => return [(← fail, ← fail)]

/-- The items of a flow sequence and its end. A key among them makes a mapping of one entry. -/
def flowItems : Nat → Bool → Reader (List Node)
  | 0, _ => return [← fail]
  | fuel + 1, first => do
      let source ← get
      if source.tokens = [] then return []
      else if !first && !source.nextIs (endsFlow .flowSequenceEnd) then return [← fail]
      else
        let source := if first then source else source.passEntry
        let ends := endsFlow .flowSequenceEnd
        match source.tokens with
        | ⟨.flowSequenceEnd, _⟩ :: rest =>
            set (source.pass rest)
            return []
        | ⟨.key, line⟩ :: rest =>
            set (source.pass rest)
            let endsKey (mark : Mark) := mark = .value || ends mark
            let key ← nodeUnless endsKey (source.go rest).nextLine (readNode fuel false false)
            let value ← valueOf ends (readNode fuel false false)
            modify fun source => source.pass source.tokens
            return .mapping [(key, value)] line :: (← flowItems fuel false)
        | _ =>
            set source
            let item ← readNode fuel false false
            return item :: (← flowItems fuel false)

/-- The entries of a flow mapping and its end. A node without a colon is a key without a value. -/
def flowEntries : Nat → Bool → Reader (List (Node × Node))
  | 0, _ => return [(← fail, ← fail)]
  | fuel + 1, first => do
      let source ← get
      if source.tokens = [] then return []
      else if !first && !source.nextIs (endsFlow .flowMappingEnd) then return [(← fail, ← fail)]
      else
        let source := if first then source else source.passEntry
        let ends := endsFlow .flowMappingEnd
        match source.tokens with
        | ⟨.flowMappingEnd, _⟩ :: rest =>
            set (source.pass rest)
            return []
        | ⟨.key, _⟩ :: rest =>
            set (source.go rest)
            let endsKey (mark : Mark) := mark = .value || ends mark
            let key ← nodeUnless endsKey (source.go rest).nextLine (readNode fuel false false)
            let value ← valueOf ends (readNode fuel false false)
            return (key, value) :: (← flowEntries fuel false)
        | _ =>
            set source
            let key ← readNode fuel false false
            let value ← nodeUnless (· ≠ .broken) (← get).nextLine fail
            return (key, value) :: (← flowEntries fuel false)

end

end Manifest

end DottedNames
