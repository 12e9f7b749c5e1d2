import Dialect.Scope.Path

namespace Dialect

abbrev ScopeId := Nat

-- A scope has names of its own and perhaps a parent, which was opened before it and never changes.
-- Lookups go from a scope towards its root.
structure Scope where
  parent : Option ScopeId
  bindings : Bindings
deriving Inhabited

-- All scopes, the newest first: a scope's number is how many were opened before it.
structure Store where
  scopes : List Scope
deriving Inhabited

namespace Store

def empty : Store := ⟨[]⟩

def size (s : Store) : Nat := s.scopes.length

-- The scope of a number.
def scopeIn : List Scope → ScopeId → Option Scope
  | [], _ => none
  | sc :: older, i => if i = older.length then some sc else scopeIn older i

def scope? (s : Store) (i : ScopeId) : Option Scope := scopeIn s.scopes i

-- A scope and its ancestors. A parent is looked for among the older scopes only, so every walk
-- comes to an end.
def chainIn : List Scope → ScopeId → List (ScopeId × Scope)
  | [], _ => []
  | sc :: older, i =>
    if i = older.length then
      (i, sc) :: (match sc.parent with
        | some p => chainIn older p
        | none => [])
    else chainIn older i

-- A scope and its ancestors, nearest first.
def chain (s : Store) (i : ScopeId) : List (ScopeId × Scope) := chainIn s.scopes i

-- The bindings of a scope and its ancestors, nearest first.
def view (s : Store) (i : ScopeId) : List Bindings := (s.chain i).map (·.2.bindings)

def parent? (s : Store) (i : ScopeId) : Option ScopeId := (s.scope? i).bind (·.parent)

def bindings (s : Store) (i : ScopeId) : Bindings := ((s.scope? i).map (·.bindings)).getD []

-- Replaces the bindings of one scope.
def updateIn (i : ScopeId) (b : Bindings) : List Scope → List Scope
  | [] => []
  | sc :: older =>
    if i = older.length then { sc with bindings := b } :: older else sc :: updateIn i b older

def setBindings (s : Store) (i : ScopeId) (b : Bindings) : Store := ⟨updateIn i b s.scopes⟩

-- Opens a scope; its number is the size of the store before.
def push (s : Store) (parent : Option ScopeId) (b : Bindings) : Store :=
  ⟨⟨parent, b⟩ :: s.scopes⟩

-- Adds names to a scope; on failure nothing changes.
def bind (s : Store) (i : ScopeId) (v : Value) : Except Error Store := do
  return s.setBindings i (← (s.bindings i).add v)

-- What stands at a path in the first scope of a chain that holds it.
def resolveAlong (path : String) : List (ScopeId × Scope) → Except Error Value
  | [] => .error (.unresolved path)
  | (_, sc) :: rest => do
    match ← sc.bindings.lookup (Path.parts path) with
    | some v => return v
    | none => resolveAlong path rest

-- What a path stands for, in the nearest scope that holds it.
def resolve (s : Store) (i : ScopeId) (path : String) : Except Error Value :=
  resolveAlong path (s.chain i)

-- Like `resolve`, with something else in place of a missing value.
def getD (s : Store) (i : ScopeId) (path : String) (default : Value) : Except Error Value :=
  match s.resolve i path with
  | .error (.unresolved _) => .ok default
  | found => found

-- The first scope of a chain that holds a path.
def ownerAlong (path : String) : List (ScopeId × Scope) → Except Error (Option ScopeId)
  | [] => .ok none
  | (i, sc) :: rest => do
    if (← sc.bindings.lookup (Path.parts path)).isSome then return some i
    else ownerAlong path rest

-- The nearest scope that holds a path.
def owner (s : Store) (i : ScopeId) (path : String) : Except Error (Option ScopeId) :=
  ownerAlong path (s.chain i)

-- Whether a value is a path that leads somewhere.
def contains (s : Store) (i : ScopeId) (v : Value) : Except Error Bool :=
  match v with
  | .str p => do return (← s.owner i p).isSome
  | _ => .ok false

-- Replaces what stands at a path in its nearest owner; never binds a new name.
def provide (s : Store) (i : ScopeId) (path : String) (v : Value) : Except Error Store := do
  match ← s.owner i path with
  | some j => return s.setBindings j ((s.bindings j).put v (Path.parts path))
  | none => .error (.pathNotFound path)

mutual

-- Replaces every text inside a value by what it stands for as a path. Keys stay.
def resolveIn (s : Store) (i : ScopeId) : Value → Except Error Value
  | .str p => s.resolve i p
  | .list xs => do return .list (← resolveAll s i xs)
  | .tuple xs => do return .tuple (← resolveAll s i xs)
  | .map es => do return .map (← resolveEntries s i es)
  | v => .ok v

def resolveAll (s : Store) (i : ScopeId) : List Value → Except Error (List Value)
  | [] => .ok []
  | v :: vs => do
    let x ← resolveIn s i v
    return x :: (← resolveAll s i vs)

def resolveEntries (s : Store) (i : ScopeId) :
    List (Value × Value) → Except Error (List (Value × Value))
  | [] => .ok []
  | (k, v) :: es => do
    let x ← resolveIn s i v
    return (k, x) :: (← resolveEntries s i es)

end

mutual

-- A value laid over another: mappings are merged, anything else hides what is below.
def layer (below : Option Value) : Value → Value
  | .map es => match below with
    | some (.map bs) => .map (layerAll bs es)
    | _ => .map es
  | v => v

def layerAll (bs : List (Value × Value)) : List (Value × Value) → List (Value × Value)
  | [] => bs
  | (k, v) :: es => layerAll (Value.insert bs k (layer (Value.find? bs k) v)) es

end

-- All that is visible from a scope in one mapping: nearer scopes are laid over farther ones.
def value (s : Store) (i : ScopeId) : Value :=
  .map ((s.view i).foldr
    (fun b below => layerAll below (b.map fun (n, v) => (.str n, v))) [])

-- A scope in words; `parent` is how its parent is called.
def describe (b : Bindings) (parent : Option String) : String :=
  "<Frame bindings=[" ++ ", ".intercalate b.names ++ "]"
    ++ ((parent.map fun p => ", parent=#" ++ p).getD "") ++ ">"

end Store

end Dialect
