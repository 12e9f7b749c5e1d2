import Dialect.Yaml.Graph
import Dialect.Yaml.Lexer

namespace Dialect.Yaml

-- What is left to read, the tag handles of the document, the nodes so far and those of them with
-- an anchor.
structure Reading where
  tokens : List Token
  handles : List (String × String)
  graph : Graph
  anchors : List (String × Nat)
  -- anchors whose nodes are not complete yet
  opened : List String

abbrev Read := StateT Reading (Except ReadFault)

namespace Read

def malformed {α : Type} : Read α := throw .malformed

-- The next token. A scalar that cannot be built stops the work.
def peek : Read Token := do
  match (← get).tokens.head?.getD .streamEnd with
  | .broken e => throw (.refused e)
  | t => return t

def drop : Read Unit := modify fun s => { s with tokens := s.tokens.drop 1 }

-- Adds a node.
def create (tag : Tag) (body : Body) : Read Nat := do
  let s ← get
  set { s with graph := s.graph.push ⟨tag, body⟩ }
  return s.graph.size

-- Scalars that are not written at all.
def emptyNode : Read Nat := create .null (.scalar "")

-- What may stand before a node: an anchor and a tag, in either order.
structure Properties where
  anchor : Option String
  tag : Option (Option String × String)

def anchor? : Read (Option String) := do
  match ← peek with
  | .anchor name =>
    drop
    return some name
  | _ => return none

def tag? : Read (Option (Option String × String)) := do
  match ← peek with
  | .tag handle suffix =>
    drop
    return some (handle, suffix)
  | _ => return none

def properties : Read Properties := do
  match ← anchor? with
  | some a => return ⟨some a, ← tag?⟩
  | none =>
    let tag ← tag?
    match tag with
    | some _ => return ⟨← anchor?, tag⟩
    | none => return ⟨none, none⟩

-- The full name of a tag.
def tagName (tag : Option (Option String × String)) : Read (Option String) := do
  match tag with
  | none => return none
  | some (none, suffix) => return some suffix
  | some (some handle, suffix) =>
    match (← get).handles.find? fun e => e.1 == handle with
    | some (_, start) => return some (start ++ suffix)
    | none => malformed

-- The tag of a node: one that is left open is taken from what the node is.
def tagOf (name : Option String) (default : Tag) : Tag :=
  match name with
  | none => default
  | some "!" => default
  | some n => .ofName n

-- Notes that the node of an anchor begins; each anchor has one node.
def openAnchor (anchor : Option String) : Read Unit := do
  match anchor with
  | none => return ()
  | some a =>
    let s ← get
    if s.opened.contains a || s.anchors.any (·.1 == a) then malformed
    set { s with opened := a :: s.opened }

-- Notes the node of an anchor.
def closeAnchor (anchor : Option String) (n : Nat) : Read Nat := do
  match anchor with
  | none => return n
  | some a =>
    modify fun s => { s with anchors := (a, n) :: s.anchors, opened := s.opened.erase a }
    return n

def aliased (name : String) : Read Nat := do
  match (← get).anchors.find? fun e => e.1 == name with
  | some (_, n) => return n
  | none => malformed

-- Where a node stands: inside brackets, in a block, or in a block where the entries of a
-- sequence need no deeper indentation.
inductive Place where
  | flow
  | block
  | blockValue
deriving DecidableEq

def Place.isBlock : Place → Bool
  | .flow => false
  | _ => true

-- Tokens after which an entry of a block is empty.
def endsEntry : Token → Bool
  | .blockEntry | .blockEnd => true
  | _ => false

def endsIndentless : Token → Bool
  | .blockEntry | .key | .value | .blockEnd => true
  | _ => false

def endsPair : Token → Bool
  | .key | .value | .blockEnd => true
  | _ => false

-- Tokens after which a key or a value inside brackets is empty.
def endsFlowKey (closing : Token → Bool) : Token → Bool
  | .value | .flowEntry => true
  | t => closing t

def endsFlowValue (closing : Token → Bool) : Token → Bool
  | .flowEntry => true
  | t => closing t

def closesSequence : Token → Bool
  | .flowSequenceEnd => true
  | _ => false

def closesMapping : Token → Bool
  | .flowMappingEnd => true
  | _ => false

-- A comma between entries; none before the first.
def separator (first : Bool) : Read Unit := do
  unless first do
    match ← peek with
    | .flowEntry => drop
    | _ => malformed

mutual

-- A node with its properties. What follows them is looked at before the anchor.
def node : (fuel : Nat) → Place → Read Nat
  | 0, _ => malformed
  | fuel + 1, place => do
    match ← peek with
    | .alias name =>
      drop
      aliased name
    | _ =>
      let p ← properties
      let name ← tagName p.tag
      let _ ← peek
      openAnchor p.anchor
      closeAnchor p.anchor (← content fuel place p name)

-- What follows the properties of a node. With properties it may be nothing.
def content : (fuel : Nat) → Place → Properties → Option String → Read Nat
  | 0, _, _, _ => malformed
  | fuel + 1, place, p, name => do
    match ← peek with
    | .blockEntry =>
      if place = .blockValue then
        create (tagOf name .seq) (.sequence (← indentless fuel))
      else empty p name
    | .scalar text plain =>
      drop
      let default := if plain || name == some "!" then Tag.ofText text else .str
      create (tagOf name default) (.scalar text)
    | .flowSequenceStart =>
      drop
      create (tagOf name .seq) (.sequence (← flowItems fuel true))
    | .flowMappingStart =>
      drop
      create (tagOf name .map) (.mapping (← flowEntries fuel true))
    | .blockSequenceStart =>
      if place.isBlock then
        drop
        create (tagOf name .seq) (.sequence (← blockItems fuel))
      else empty p name
    | .blockMappingStart =>
      if place.isBlock then
        drop
        create (tagOf name .map) (.mapping (← blockEntries fuel))
      else empty p name
    | _ => empty p name

-- An empty scalar, which needs an anchor or a tag.
def empty (p : Properties) (name : Option String) : Read Nat :=
  if p.anchor.isSome || p.tag.isSome then create (tagOf name .null) (.scalar "") else malformed

-- The entries of an indented sequence.
def blockItems : (fuel : Nat) → Read (List Nat)
  | 0 => malformed
  | fuel + 1 => do
    match ← peek with
    | .blockEntry =>
      drop
      let n ← if endsEntry (← peek) then emptyNode else node fuel .block
      return n :: (← blockItems fuel)
    | .blockEnd =>
      drop
      return []
    | _ => malformed

-- The entries of a sequence at the indentation of the mapping it stands in.
def indentless : (fuel : Nat) → Read (List Nat)
  | 0 => malformed
  | fuel + 1 => do
    match ← peek with
    | .blockEntry =>
      drop
      let n ← if endsIndentless (← peek) then emptyNode else node fuel .block
      return n :: (← indentless fuel)
    | _ => return []

-- The entries of a mapping in a block.
def blockEntries : (fuel : Nat) → Read (List (Nat × Nat))
  | 0 => malformed
  | fuel + 1 => do
    match ← peek with
    | .key =>
      drop
      let k ← if endsPair (← peek) then emptyNode else node fuel .blockValue
      let v ← blockValue fuel
      return (k, v) :: (← blockEntries fuel)
    | .blockEnd =>
      drop
      return []
    | _ => malformed

-- The value of an entry in a block, if there is one.
def blockValue : (fuel : Nat) → Read Nat
  | 0 => malformed
  | fuel + 1 => do
    match ← peek with
    | .value =>
      drop
      if endsPair (← peek) then emptyNode else node fuel .blockValue
    | _ => emptyNode

-- The entries of a sequence in brackets; one with a key is a mapping of its own.
def flowItems : (fuel : Nat) → (first : Bool) → Read (List Nat)
  | 0, _ => malformed
  | fuel + 1, first => do
    match ← peek with
    | .flowSequenceEnd =>
      drop
      return []
    | _ =>
      separator first
      match ← peek with
      | .flowSequenceEnd =>
        drop
        return []
      | .key =>
        drop
        let k ← if endsFlowKey closesSequence (← peek) then emptyNode else node fuel .flow
        let v ← flowValue fuel closesSequence
        let n ← create .map (.mapping [(k, v)])
        return n :: (← flowItems fuel false)
      | _ =>
        let n ← node fuel .flow
        return n :: (← flowItems fuel false)

-- The entries of a mapping in braces; one without a key has no value.
def flowEntries : (fuel : Nat) → (first : Bool) → Read (List (Nat × Nat))
  | 0, _ => malformed
  | fuel + 1, first => do
    match ← peek with
    | .flowMappingEnd =>
      drop
      return []
    | _ =>
      separator first
      match ← peek with
      | .flowMappingEnd =>
        drop
        return []
      | .key =>
        drop
        let k ← if endsFlowKey closesMapping (← peek) then emptyNode else node fuel .flow
        let v ← flowValue fuel closesMapping
        return (k, v) :: (← flowEntries fuel false)
      | _ =>
        let k ← node fuel .flow
        let v ← emptyNode
        return (k, v) :: (← flowEntries fuel false)

-- The value after a key inside brackets, if there is one.
def flowValue : (fuel : Nat) → (Token → Bool) → Read Nat
  | 0, _ => malformed
  | fuel + 1, closing => do
    match ← peek with
    | .value =>
      drop
      if endsFlowValue closing (← peek) then emptyNode else node fuel .flow
    | _ => emptyNode

end

-- The handles that every document has.
def standardHandles : List (String × String) := [("!", "!"), ("!!", Tag.standard)]

-- Directives before a document; each version and each handle comes once.
def directives : (fuel : Nat) → (versioned : Bool) → List (String × String) →
    Read (List (String × String))
  | 0, _, handles => return handles
  | fuel + 1, versioned, handles => do
    match ← peek with
    | .version major =>
      if versioned || major != 1 then malformed
      drop
      directives fuel true handles
    | .tagHandle handle start =>
      if handles.any (·.1 == handle) then malformed
      drop
      directives fuel versioned (handles ++ [(handle, start)])
    | .otherDirective =>
      drop
      directives fuel versioned handles
    | _ => return handles

def room : Read Nat := return 4 * (← get).tokens.length + 10

-- Marks that a document has ended.
def skipEnds : (fuel : Nat) → Read Unit
  | 0 => return ()
  | fuel + 1 => do
    match ← peek with
    | .documentEnd =>
      drop
      skipEnds fuel
    | _ => return ()

-- A document that starts with directives or a marker. It may be empty.
def explicitDocument : Read Nat := do
  let handles ← directives (← room) false []
  match ← peek with
  | .documentStart =>
    drop
    modify fun s => { s with handles := handles ++ standardHandles }
    match ← peek with
    | .version _ | .tagHandle _ _ | .otherDirective | .documentStart | .documentEnd
    | .streamEnd => emptyNode
    | _ => node (← room) .block
  | _ => malformed

-- The only document of a text, if there is one. The directives of a second one are still read.
def document : Read (Option Nat) := do
  let found ← match ← peek with
    | .streamEnd => pure none
    | .version _ | .tagHandle _ _ | .otherDirective | .documentStart => some <$> explicitDocument
    | _ => some <$> node (← room) .block
  skipEnds (← room)
  match ← peek with
  | .streamEnd => return found
  | _ =>
    let _ ← directives (← room) false []
    malformed

end Read

-- The nodes of a text with at most one document, and which of them the document is.
def Graph.ofText (cs : List Char) : Except ReadFault (Option (Graph × Nat)) := do
  let ts ← tokens cs
  let (root, s) ← Read.document ⟨ts, Read.standardHandles, .empty, [], []⟩
  return root.map fun i => (s.graph, i)

end Dialect.Yaml
