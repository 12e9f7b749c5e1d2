import Dialect.Scope.Store

namespace Dialect

-- The bindings of a scope and its ancestors, nearest first. Lookups and resolution from a scope
-- depend on nothing else.
abbrev View := List Bindings

namespace View

-- What the nearest map that holds a path holds there.
def search (parts : List String) : View → Except Error (Option Value)
  | [] => .ok none
  | b :: rest => do
    match ← b.lookup parts with
    | some v => return some v
    | none => search parts rest

-- What a path stands for.
def resolve (view : View) (path : String) : Except Error Value := do
  match ← search (Path.parts path) view with
  | some v => return v
  | none => .error (.unresolved path)

-- A map that does not bind a name is looked through.
theorem search_cons_of_notMem {b : Bindings} {name : String} (h : name ∉ b.names) (rest : View) :
    search [name] (b :: rest) = search [name] rest := by
  have hb : b.find? name = none := by
    simp only [Bindings.find?, Option.map_eq_none_iff, List.find?_eq_none]
    intro e he heq
    exact h (List.mem_map.mpr ⟨e, he, by simpa using heq⟩)
  simp only [search, Bindings.lookup, hb]
  rfl

end View

namespace Value

mutual

-- Replaces every text inside a value by what it stands for. Keys stay.
def substitute (look : String → Except Error Value) : Value → Except Error Value
  | .str p => look p
  | .list xs => do return .list (← substituteAll look xs)
  | .tuple xs => do return .tuple (← substituteAll look xs)
  | .map es => do return .map (← substituteEntries look es)
  | v => .ok v

def substituteAll (look : String → Except Error Value) : List Value → Except Error (List Value)
  | [] => .ok []
  | v :: vs => do
    let x ← substitute look v
    return x :: (← substituteAll look vs)

def substituteEntries (look : String → Except Error Value) :
    List (Value × Value) → Except Error (List (Value × Value))
  | [] => .ok []
  | (k, v) :: es => do
    let x ← substitute look v
    return (k, x) :: (← substituteEntries look es)

end

end Value

namespace Path

-- Reading a part of a path fails only where a number is wanted.
theorem index?_ne_unresolved (part path : String) : index? part ≠ .error (.unresolved path) := by
  intro h
  unfold index? at h
  extract_lets at h
  split at h
  · cases h
  · split at h
    · cases h
    · split at h <;> cases h

-- So a path is never found missing while it is followed through a value.
theorem find_ne_unresolved (path : String) (ps : List String) (v : Value) :
    find v ps ≠ .error (.unresolved path) := by
  induction ps generalizing v with
  | nil => exact nofun
  | cons p ps ih =>
      have hmember (xs : List Value) : (do
          match (← index? p).bind (xs[·]?) with
          | some x => find x ps
          | none => return none) ≠ .error (.unresolved path) := by
        cases hindex : index? p with
        | error e =>
            rintro ⟨⟩
            exact index?_ne_unresolved p path hindex
        | ok n =>
            change (match n.bind (xs[·]?) with
              | some x => find x ps
              | none => return none) ≠ _
            cases n.bind (xs[·]?) with
            | none => exact nofun
            | some x => exact ih x
      cases v with
      | map es =>
          rw [find]
          cases Value.find? es (.str p) with
          | none => exact nofun
          | some x => exact ih x
      | list xs => exact hmember xs
      | tuple xs => exact hmember xs
      | _ => exact nofun

end Path

theorem Bindings.lookup_ne_unresolved (b : Bindings) (ps : List String) (path : String) :
    b.lookup ps ≠ .error (.unresolved path) := by
  cases ps with
  | nil => exact nofun
  | cons p ps =>
      rw [lookup]
      cases b.find? p with
      | none => exact nofun
      | some v => exact Path.find_ne_unresolved path ps v

namespace Store

-- The first scope of a chain that holds a path, and what it holds there. Resolving and asking for
-- the owner are loops of their own, and both find what this search finds.
def search (parts : List String) : List (ScopeId × Scope) → Except Error (Option (ScopeId × Value))
  | [] => .ok none
  | (i, sc) :: rest => do
    match ← sc.bindings.lookup parts with
    | some v => return some (i, v)
    | none => search parts rest

-- The nearest owner of a path and what stands there.
def locate (s : Store) (i : ScopeId) (path : String) : Except Error (Option (ScopeId × Value)) :=
  search (Path.parts path) (s.chain i)

theorem resolveAlong_eq_search (path : String) (c : List (ScopeId × Scope)) :
    resolveAlong path c = (do
      match ← search (Path.parts path) c with
      | some (_, v) => return v
      | none => .error (.unresolved path)) := by
  induction c with
  | nil => rfl
  | cons head rest ih =>
      obtain ⟨i, sc⟩ := head
      rw [resolveAlong, search]
      cases sc.bindings.lookup (Path.parts path) with
      | error e => rfl
      | ok found =>
          cases found with
          | some v => rfl
          | none => exact ih

theorem ownerAlong_eq_search (path : String) (c : List (ScopeId × Scope)) :
    ownerAlong path c = (do return (← search (Path.parts path) c).map (·.1)) := by
  induction c with
  | nil => rfl
  | cons head rest ih =>
      obtain ⟨i, sc⟩ := head
      rw [ownerAlong, search]
      cases sc.bindings.lookup (Path.parts path) with
      | error e => rfl
      | ok found =>
          cases found with
          | some v => rfl
          | none => exact ih

-- The search itself is never what finds a path missing.
theorem search_ne_unresolved (parts : List String) (path : String) (c : List (ScopeId × Scope)) :
    search parts c ≠ .error (.unresolved path) := by
  induction c with
  | nil => exact nofun
  | cons head rest ih =>
      obtain ⟨i, sc⟩ := head
      rw [search]
      cases hlookup : sc.bindings.lookup parts with
      | error e =>
          rintro ⟨⟩
          exact sc.bindings.lookup_ne_unresolved parts path hlookup
      | ok found =>
          cases found with
          | some v => exact nofun
          | none => exact ih

theorem resolve_eq_locate (s : Store) (i : ScopeId) (path : String) :
    s.resolve i path = (do
      match ← s.locate i path with
      | some (_, v) => return v
      | none => .error (.unresolved path)) :=
  resolveAlong_eq_search path (s.chain i)

theorem owner_eq_locate (s : Store) (i : ScopeId) (path : String) :
    s.owner i path = (do return (← s.locate i path).map (·.1)) :=
  ownerAlong_eq_search path (s.chain i)

theorem getD_eq_locate (s : Store) (i : ScopeId) (path : String) (default : Value) :
    s.getD i path default = (do return ((← s.locate i path).map (·.2)).getD default) := by
  rw [getD, resolve_eq_locate]
  cases hlocate : s.locate i path with
  | ok found => cases found <;> rfl
  | error e =>
      cases e with
      | unresolved p => exact absurd hlocate (search_ne_unresolved _ p _)
      | _ => rfl

-- The view from an optional scope: nothing is seen from no scope.
def viewFrom (s : Store) : Option ScopeId → View
  | some i => s.view i
  | none => []

@[simp] theorem size_push (s : Store) (p : Option ScopeId) (b : Bindings) :
    (s.push p b).size = s.size + 1 := rfl

theorem view_push_size (s : Store) (p : Option ScopeId) (b : Bindings) :
    (s.push p b).view s.size = b :: s.viewFrom p := by
  unfold view chain push size
  rw [chainIn, if_pos rfl]
  cases p <;> rfl

theorem scope?_push_of_ne (s : Store) (p : Option ScopeId) (b : Bindings) {i : ScopeId}
    (hi : i ≠ s.size) : (s.push p b).scope? i = s.scope? i := by
  unfold size at hi
  unfold scope? push
  rw [scopeIn, if_neg hi]

theorem search_eq_view (parts : List String) (c : List (ScopeId × Scope)) :
    (search parts c).map (·.map (·.2)) = View.search parts (c.map (·.2.bindings)) := by
  induction c with
  | nil => rfl
  | cons head rest ih =>
      obtain ⟨i, sc⟩ := head
      simp only [search, List.map_cons, View.search]
      cases sc.bindings.lookup parts with
      | error e => rfl
      | ok found =>
          cases found with
          | some v => rfl
          | none => exact ih

theorem locate_eq_view (s : Store) (i : ScopeId) (path : String) :
    (s.locate i path).map (·.map (·.2)) = View.search (Path.parts path) (s.view i) :=
  search_eq_view _ _

theorem resolve_eq_view (s : Store) (i : ScopeId) (path : String) :
    s.resolve i path = View.resolve (s.view i) path := by
  rw [resolve_eq_locate, View.resolve, ← locate_eq_view]
  cases s.locate i path with
  | error e => rfl
  | ok found => cases found <;> rfl

theorem getD_eq_view (s : Store) (i : ScopeId) (path : String) (default : Value) :
    s.getD i path default =
      (View.search (Path.parts path) (s.view i)).map (·.getD default) := by
  rw [getD_eq_locate, ← locate_eq_view]
  cases s.locate i path <;> rfl

mutual

theorem resolveIn_eq_substitute (s : Store) (i : ScopeId) (v : Value) :
    s.resolveIn i v = v.substitute (s.resolve i) := by
  cases v with
  | list xs => rw [resolveIn, Value.substitute, resolveAll_eq_substitute s i xs]
  | tuple xs => rw [resolveIn, Value.substitute, resolveAll_eq_substitute s i xs]
  | map es => rw [resolveIn, Value.substitute, resolveEntries_eq_substitute s i es]
  | _ => simp only [resolveIn, Value.substitute]

theorem resolveAll_eq_substitute (s : Store) (i : ScopeId) (vs : List Value) :
    s.resolveAll i vs = Value.substituteAll (s.resolve i) vs := by
  cases vs with
  | nil => simp only [resolveAll, Value.substituteAll]
  | cons v vs =>
      rw [resolveAll, Value.substituteAll, resolveIn_eq_substitute s i v,
        resolveAll_eq_substitute s i vs]

theorem resolveEntries_eq_substitute (s : Store) (i : ScopeId) (es : List (Value × Value)) :
    s.resolveEntries i es = Value.substituteEntries (s.resolve i) es := by
  cases es with
  | nil => simp only [resolveEntries, Value.substituteEntries]
  | cons e es =>
      obtain ⟨k, v⟩ := e
      rw [resolveEntries, Value.substituteEntries, resolveIn_eq_substitute s i v,
        resolveEntries_eq_substitute s i es]

end

theorem resolveIn_eq_view (s : Store) (i : ScopeId) (v : Value) :
    s.resolveIn i v = v.substitute (View.resolve (s.view i)) := by
  rw [resolveIn_eq_substitute]
  congr 1
  funext path
  exact resolve_eq_view s i path

end Store

end Dialect
