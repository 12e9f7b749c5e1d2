import Dialect.Yaml.Content
import Dialect.Yaml.Node

namespace Dialect.Yaml

-- What a node has become: a value, or a collection of nodes.
inductive Built where
  | value (v : Value)
  | list (items : List Nat)
  | pairs (entries : List (Nat × Nat))
  | map (entries : List (Value × Nat))
  | set (members : List Value)
deriving Inhabited

-- The nodes, what they have become, and the collections that are not filled yet, the newest first.
structure Building where
  graph : Graph
  built : Array (Option Built)
  waiting : List Nat

abbrev Build := StateT Building (Except ReadFault)

namespace Build

def malformed {α : Type} : Build α := throw .malformed

def built? (i : Nat) : Build (Option Built) := return ((← get).built[i]?).join

def put (i : Nat) (b : Built) : Build Unit :=
  modify fun s => { s with built := s.built.setIfInBounds i (some b) }

-- The collection of a tag before it is filled.
def empty? : Tag → Option Built
  | .seq => some (.list [])
  | .omap | .pairs => some (.pairs [])
  | .map => some (.map [])
  | .set => some (.set [])
  | _ => none

-- A NaN of its own has the number of its node for a label, after the labels that are taken.
def label (i : Nat) : Nat := i + 4

-- The value of a node with the tag of a scalar. A date must be one itself: a default key does not
-- make it one.
def scalar (i : Nat) : Build Value := do
  let g := (← get).graph
  match g.text? (g.size + 1) i with
  | none => malformed
  | some text =>
    if g.isMapping i && g.tag i == .timestamp then
      throw (.refused (.kind (.notText .list)))
    match scalarContent? (label i) (g.tag i) text with
    | some (.ok v) => return v
    | some (.error f) => throw f
    | none => malformed

-- Builds a node, unless that has been done.
def node (i : Nat) : Build Unit := do
  if (← built? i).isNone then
    match empty? ((← get).graph.tag i) with
    | some b =>
      put i b
      modify fun s => { s with waiting := i :: s.waiting }
    | none => put i (.value (← scalar i))

-- A key, which only a scalar can be.
def key (i : Nat) : Build Value := do
  node i
  match ← built? i with
  | some (.value v) => return v
  | _ => malformed

-- The entries of a mapping without its merge keys, keys before values.
def mapEntries (i : Nat) : Build (List (Value × Nat)) := do
  let s ← get
  unless s.graph.isMapping i do malformed
  let g ← s.graph.flatten (s.graph.size + 1) i
  set { s with graph := g }
  (g.entries i).mapM fun (k, v) => do
    let k ← key k
    node v
    return (k, v)

-- The only entry of a mapping.
def single (i : Nat) : Build (Nat × Nat) := do
  match (← get).graph.body i with
  | .mapping [(k, v)] =>
    node k
    node v
    return (k, v)
  | _ => malformed

def items (i : Nat) : Build (List Nat) := do
  match (← get).graph.body i with
  | .sequence is => return is
  | _ => malformed

def atMost (a b : Value) : Bool :=
  match a.num?, b.num? with
  | some x, some y => x.order? y != some .gt
  | _, _ => true

-- The members of a set, each once. Numbers stand in increasing order.
def members (keys : List Value) : List Value :=
  let keys := Value.distinct keys
  if keys.all (·.num?.isSome) then keys.mergeSort atMost else keys

-- Fills a collection.
def fill (i : Nat) : Build Unit := do
  match (← get).graph.tag i with
  | .seq =>
    let is ← items i
    is.forM node
    put i (.list is)
  | .omap | .pairs => put i (.pairs (← (← items i).mapM single))
  | .set => put i (.set (members ((← mapEntries i).map (·.1))))
  | _ => put i (.map (← mapEntries i))

-- Fills all collections; each round takes those that the round before has left. So nodes are built
-- level by level, each of them once, and the first fault in that order decides.
def fillAll : (fuel : Nat) → Build Unit
  | 0 => return ()
  | fuel + 1 => do
    let s ← get
    unless s.waiting.isEmpty do
      set { s with waiting := [] }
      s.waiting.reverse.forM fill
      fillAll fuel

end Build

-- The value of a node once all is built. `fuel` is more than the depth of the node.
def Building.value (s : Building) : (fuel : Nat) → Nat → Value
  | 0, _ => .null
  | fuel + 1, i => match s.built[i]?.join with
    | none => .null
    | some (.value v) => v
    | some (.list is) => .list (is.map (s.value fuel))
    | some (.pairs es) => .list (es.map fun (k, v) => .tuple [s.value fuel k, s.value fuel v])
    | some (.map es) => .map (es.foldl (fun acc (k, v) => Value.insert acc k (s.value fuel v)) [])
    | some (.set vs) => .set vs

-- The value of one of the nodes.
def Graph.build (g : Graph) (root : Nat) : Except ReadFault Value := do
  let work : Build Unit := do
    Build.node root
    Build.fillAll (g.size + 1)
  let (_, s) ← work ⟨g, Array.replicate g.size none, []⟩
  return s.value (g.size + 1) root

-- The value of a text; an empty one stands for nothing.
def read (s : String) : Except ReadFault Value := do
  match ← Graph.ofText s.toList with
  | none => return .null
  | some (g, root) => g.build root

end Dialect.Yaml
