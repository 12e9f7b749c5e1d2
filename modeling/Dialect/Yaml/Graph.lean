import Dialect.ReadFault
import Dialect.Yaml.Tag

namespace Dialect.Yaml

-- What a node holds: a text, or the numbers of its parts.
inductive Body where
  | scalar (text : String)
  | sequence (items : List Nat)
  | mapping (entries : List (Nat × Nat))
deriving Inhabited

structure Node where
  tag : Tag
  body : Body
deriving Inhabited

-- A node is known by its number, and an alias is the number of the node that it stands for. Nodes
-- are numbered as they end, so a node comes after its parts.
structure Graph where
  nodes : Array Node
deriving Inhabited

namespace Graph

def empty : Graph := ⟨#[]⟩

def size (g : Graph) : Nat := g.nodes.size

-- The node of a number.
def node (g : Graph) (i : Nat) : Node := g.nodes[i]?.getD default

def tag (g : Graph) (i : Nat) : Tag := (g.node i).tag

def body (g : Graph) (i : Nat) : Body := (g.node i).body

-- The entries of a mapping; no other node has any.
def entries (g : Graph) (i : Nat) : List (Nat × Nat) :=
  match g.body i with
  | .mapping es => es
  | _ => []

def isMapping (g : Graph) (i : Nat) : Bool :=
  match g.body i with
  | .mapping _ => true
  | _ => false

def push (g : Graph) (n : Node) : Graph := ⟨g.nodes.push n⟩

def set (g : Graph) (i : Nat) (n : Node) : Graph := ⟨g.nodes.setIfInBounds i n⟩

-- The same node with another tag.
def retag (g : Graph) (i : Nat) (t : Tag) : Graph := g.set i { g.node i with tag := t }

def setEntries (g : Graph) (i : Nat) (es : List (Nat × Nat)) : Graph :=
  g.set i { g.node i with body := .mapping es }

-- The text of a node that is used as a scalar: a mapping may give one under its default key.
-- `fuel` bounds how deep that goes.
def text? (g : Graph) : (fuel : Nat) → Nat → Option String
  | 0, _ => none
  | fuel + 1, i => match g.body i with
    | .scalar s => some s
    | .sequence _ => none
    | .mapping es => match es.find? fun e => g.tag e.1 == .value with
      | some e => g.text? fuel e.2
      | none => none

-- A mapping on the way to having no merge keys: the entries that they brought in so far, and its
-- own in reverse.
structure Merging where
  graph : Graph
  brought : List (Nat × Nat)
  own : List (Nat × Nat)

-- The entries of several mappings, each made flat first. Of two entries with the same key the later
-- one counts, so the first mapping comes last.
def mergeAll (flatten : Nat → Graph → Except ReadFault Graph) (g : Graph) (items : List Nat) :
    Except ReadFault (Graph × List (Nat × Nat)) :=
  items.foldlM (fun (g, es) i => do
    if g.isMapping i then
      let g ← flatten i g
      return (g, g.entries i ++ es)
    else .error .malformed) (g, [])

-- One entry: a merge key gives way to what it brings in, and the default key becomes a text.
def Merging.step (flatten : Nat → Graph → Except ReadFault Graph) (s : Merging) (e : Nat × Nat) :
    Except ReadFault Merging :=
  match s.graph.tag e.1 with
  | .merge => match s.graph.body e.2 with
    | .mapping _ => do
      let (g, es) ← mergeAll flatten s.graph [e.2]
      return { s with graph := g, brought := s.brought ++ es }
    | .sequence items => do
      let (g, es) ← mergeAll flatten s.graph items
      return { s with graph := g, brought := s.brought ++ es }
    | .scalar _ => .error .malformed
  | .value => return { s with graph := s.graph.retag e.1 .str, own := e :: s.own }
  | _ => return { s with own := e :: s.own }

-- Replaces the merge keys of a mapping, for every place that shares it. What they bring in comes
-- before its own entries. `fuel` is more than the depth of the node.
def flatten : (fuel : Nat) → Nat → Graph → Except ReadFault Graph
  | 0, _, g => .ok g
  | fuel + 1, i, g => do
    let s ← (g.entries i).foldlM (Merging.step (flatten fuel)) ⟨g, [], []⟩
    return s.graph.setEntries i (s.brought ++ s.own.reverse)

end Graph

end Dialect.Yaml
