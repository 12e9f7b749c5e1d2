import Dialect.Proofs.Scope.Lens
import Dialect.Proofs.Scope.Sight

namespace Dialect

-- A write at a path that leads somewhere binds no new name.
theorem Bindings.names_put_of_lookup {b : Bindings} {ps : List String} {x : Value}
    (h : b.lookup ps = .ok (some x)) (v : Value) : (b.put v ps).names = b.names := by
  cases ps with
  | nil => rfl
  | cons p ps =>
      rw [lookup] at h
      cases hp : b.find? p with
      | none => simp [hp] at h
      | some y => rw [put, names_set, if_pos (mem_names_of_find? hp)]

namespace Store

theorem setBindings_self (s : Store) (i : ScopeId) : s.setBindings i (s.bindings i) = s := by
  obtain ⟨scopes⟩ := s
  unfold setBindings bindings scope?
  congr 1
  induction scopes with
  | nil => rfl
  | cons newest older ih =>
      rw [updateIn, scopeIn]
      by_cases hi : i = older.length
      · simp [hi]
      · simpa [hi] using ih

theorem setBindings_setBindings (s : Store) (i : ScopeId) (b b' : Bindings) :
    (s.setBindings i b).setBindings i b' = s.setBindings i b' := by
  obtain ⟨scopes⟩ := s
  have hlength (older : List Scope) : (updateIn i b older).length = older.length :=
    size_setBindings ⟨older⟩ i b
  unfold setBindings
  congr 1
  induction scopes with
  | nil => rfl
  | cons newest older ih =>
      simp only [updateIn]
      by_cases hi : i = older.length
      · simp [hi, updateIn]
      · simp [hi, updateIn, hlength, ih]

section

variable {s : Store} {i o : ScopeId} {path : String} {x : Value}

theorem owner_of_locate (h : s.locate i path = .ok (some (o, x))) :
    s.owner i path = .ok (some o) := by
  rw [owner_eq_locate, h]
  rfl

theorem resolve_of_locate (h : s.locate i path = .ok (some (o, x))) :
    s.resolve i path = .ok x := by
  rw [resolve_eq_locate, h]
  rfl

-- An owner holds the path; without one the search came to its end.
theorem locate_of_owner {found : Option ScopeId} (h : s.owner i path = .ok found) :
    (∃ o x, found = some o ∧ s.locate i path = .ok (some (o, x))) ∨
      found = none ∧ s.locate i path = .ok none := by
  rw [owner_eq_locate] at h
  cases hl : s.locate i path with
  | error e =>
      rw [hl] at h
      cases h
  | ok located =>
      rw [hl] at h
      cases h
      cases located with
      | none => exact .inr ⟨rfl, rfl⟩
      | some e => exact .inl ⟨e.1, e.2, rfl, rfl⟩

theorem locate_of_resolve (h : s.resolve i path = .ok x) :
    ∃ o, s.locate i path = .ok (some (o, x)) := by
  rw [resolve_eq_locate] at h
  cases hl : s.locate i path with
  | error e =>
      rw [hl] at h
      cases h
  | ok located =>
      rw [hl] at h
      cases located with
      | none => cases h
      | some e =>
          cases h
          exact ⟨e.1, rfl⟩

theorem provide_of_locate (h : s.locate i path = .ok (some (o, x))) (v : Value) :
    s.provide i path v = .ok (s.setBindings o ((s.bindings o).put v (Path.parts path))) := by
  rw [provide, owner_of_locate h]
  rfl

theorem provide_of_locate_none (h : s.locate i path = .ok none) (v : Value) :
    s.provide i path v = .error (.pathNotFound path) := by
  rw [provide, owner_eq_locate, h]
  rfl

-- Nothing is found exactly if no scope on the way holds the path.
theorem search_eq_none_iff {parts : List String} {c : List (ScopeId × Scope)} :
    search parts c = .ok none ↔ ∀ e ∈ c, e.2.bindings.lookup parts = .ok none := by
  induction c with
  | nil => simp [search]
  | cons e c ih =>
      obtain ⟨k, sc⟩ := e
      rw [search_cons, List.forall_mem_cons, ← ih]
      cases hb : sc.bindings.lookup parts with
      | error e => simp
      | ok found => cases found <;> simp

end

-- What a write of `v` at a path leaves behind, where the scope `o` was the owner of the path.
structure Written (s : Store) (i o : ScopeId) (path : String) (v : Value) (s' : Store) : Prop where
  owner : s'.owner i path = .ok (some o)
  resolve : s'.resolve i path = .ok v
  below (rest : String) : (s'.bindings o).lookup (Path.parts (path ++ "." ++ rest)) =
    Path.find v (Path.parts rest)
  apart (k : ScopeId) (q : String) :
    Path.Diverge (s.bindings o).toValue (Path.parts path) (Path.parts q) →
      s'.resolve k q = s.resolve k q
  names : (s'.bindings o).names = (s.bindings o).names
  shape (front rest : List String) : Path.parts path = front ++ rest → front ≠ [] → rest ≠ [] →
    ∃ c c', (s.bindings o).lookup front = .ok (some c) ∧
      (s'.bindings o).lookup front = .ok (some c') ∧ Path.SameShape c c'
  others (k : ScopeId) : k ≠ o → s'.bindings k = s.bindings k
  parent? (k : ScopeId) : s'.parent? k = s.parent? k

section

variable {s : Store} {i o : ScopeId} {path : String} {x : Value}

-- The bindings of the owner, seen as a mapping, are those with the new value put into them.
theorem written (h : s.locate i path = .ok (some (o, x))) (v : Value) :
    Written s i o path v (s.setBindings o ((s.bindings o).put v (Path.parts path))) := by
  obtain ⟨ho, hlookup⟩ := lookup_of_locate h
  have hnames := Bindings.names_put_of_lookup hlookup v
  have hne := Path.parts_ne_nil path
  rw [Bindings.lookup_eq_find _ hne] at hlookup
  have hput := Bindings.toValue_put (s.bindings o) v hne
  have hbindings := bindings_setBindings s ho ((s.bindings o).put v (Path.parts path))
  generalize (s.bindings o).put v (Path.parts path) = b at hnames hput hbindings ⊢
  have hnew : b.lookup (Path.parts path) = .ok (some v) := by
    rw [Bindings.lookup_eq_find _ hne, hput, Path.find_put hlookup v]
  have hlocate := locate_setBindings h hnew
  exact {
    owner := owner_of_locate hlocate
    resolve := resolve_of_locate hlocate
    below rest := by
      rw [hbindings, if_pos rfl, Path.parts_append, Bindings.lookup_eq_find _ (by simp [hne]), hput]
      exact Path.find_append (Path.find_put hlookup v) _
    apart k q hq := by
      have hsame : b.lookup (Path.parts q) = (s.bindings o).lookup (Path.parts q) := by
        rw [Bindings.lookup_eq_find _ (Path.parts_ne_nil q), hput,
          Path.find_put_of_diverge hq hlookup v, ← Bindings.lookup_eq_find _ (Path.parts_ne_nil q)]
      simp only [resolve_eq_locate, locate_setBindings_of_eq hsame]
    names := by rw [hbindings, if_pos rfl, hnames]
    shape front rest hpath hfront hrest := by
      rw [hbindings, if_pos rfl, Bindings.lookup_eq_find _ hfront, Bindings.lookup_eq_find _ hfront,
        hput]
      rw [hpath] at hlookup ⊢
      exact Path.sameShape_put hrest hlookup v
    others k hk := by rw [hbindings, if_neg hk]
    parent? := parent?_setBindings s o b }

-- Of two writes at a path the last counts.
theorem provide_setBindings (h : s.locate i path = .ok (some (o, x))) (v w : Value) :
    (s.setBindings o ((s.bindings o).put v (Path.parts path))).provide i path w =
      s.provide i path w := by
  obtain ⟨ho, hlookup⟩ := lookup_of_locate h
  have hne := Path.parts_ne_nil path
  rw [Bindings.lookup_eq_find _ hne] at hlookup
  have hnew : ((s.bindings o).put v (Path.parts path)).lookup (Path.parts path) = .ok (some v) := by
    rw [Bindings.lookup_eq_find _ hne, Bindings.toValue_put _ _ hne, Path.find_put hlookup v]
  have hagain : ((s.bindings o).put v (Path.parts path)).put w (Path.parts path) =
      (s.bindings o).put w (Path.parts path) := by
    refine Bindings.toValue_inj ?_
    rw [Bindings.toValue_put _ _ hne, Bindings.toValue_put _ _ hne, Bindings.toValue_put _ _ hne,
      Path.put_put hlookup]
  rw [provide_of_locate (locate_setBindings h hnew), provide_of_locate h,
    bindings_setBindings _ ho, if_pos rfl, setBindings_setBindings, hagain]

-- Writing what stands there changes nothing.
theorem provide_self (h : s.locate i path = .ok (some (o, x))) : s.provide i path x = .ok s := by
  have hlookup := (lookup_of_locate h).2
  have hne := Path.parts_ne_nil path
  rw [Bindings.lookup_eq_find _ hne] at hlookup
  have hput : (s.bindings o).put x (Path.parts path) = s.bindings o := by
    refine Bindings.toValue_inj ?_
    rw [Bindings.toValue_put _ _ hne, Path.put_self hlookup]
  rw [provide_of_locate h, hput, setBindings_self]

end

-- A write at a path whose search for an owner does not fail by itself: it fails exactly if no scope
-- on the way holds the path, and otherwise it is a lawful update of the owner.
theorem provide_lawful {s : Store} {i : ScopeId} {path : String} {found : Option ScopeId}
    (howner : s.owner i path = .ok found) (v w : Value) :
    (s.provide i path v = .error (.pathNotFound path) ↔
      ∀ e ∈ s.chain i, e.2.bindings.lookup (Path.parts path) = .ok none) ∧
    (∀ e, s.provide i path v = .error e → e = .pathNotFound path) ∧
    (∀ o, found = some o → ∃ s', s.provide i path v = .ok s' ∧ Written s i o path v s' ∧
      s'.provide i path w = s.provide i path w) ∧
    ∀ x, s.resolve i path = .ok x → s.provide i path x = .ok s := by
  rcases locate_of_owner howner with ⟨o, x, rfl, hlocate⟩ | ⟨rfl, hlocate⟩
  · have hsome : ¬∀ e ∈ s.chain i, e.2.bindings.lookup (Path.parts path) = .ok none := by
      rw [← search_eq_none_iff]
      intro hnone
      exact absurd (hlocate.symm.trans hnone) (by simp)
    have hprovide := provide_of_locate hlocate v
    refine ⟨?_, ?_, ?_, ?_⟩
    · simp only [hprovide, reduceCtorEq, false_iff]
      exact hsome
    · intro e he
      rw [hprovide] at he
      cases he
    · rintro o' ⟨⟩
      exact ⟨_, hprovide, written hlocate v, provide_setBindings hlocate v w⟩
    · intro y hy
      obtain ⟨o', hy⟩ := locate_of_resolve hy
      rw [hlocate] at hy
      cases hy
      exact provide_self hlocate
  · have hprovide := provide_of_locate_none hlocate v
    refine ⟨?_, ?_, ?_, ?_⟩
    · simp only [hprovide, true_iff]
      exact search_eq_none_iff.mp hlocate
    · intro e he
      rw [hprovide] at he
      cases he
      rfl
    · rintro o ⟨⟩
    · intro y hy
      obtain ⟨o, hy⟩ := locate_of_resolve hy
      rw [hlocate] at hy
      cases hy

end Store

namespace Sample

-- The nearer scope has only a part of the way to what the root holds.
def pantry : Store :=
  (Store.empty.push none
    [("rack", .object [("row", .tuple [.int 1, .list [.int 2, .int 3]])])]).push (some 0)
    [("rack", .object [("lid", .null)])]

-- The member of the tuple is told by a number with a zero in front.
theorem provide_lawful_pantry : pantry.owner 1 "rack.row.01.0" = .ok (some 0) ∧
    (∃ s', pantry.provide 1 "rack.row.01.0" (.int 9) = .ok s' ∧
      Store.Written pantry 1 0 "rack.row.01.0" (.int 9) s' ∧
      s'.provide 1 "rack.row.01.0" (.int 7) = pantry.provide 1 "rack.row.01.0" (.int 7)) ∧
    pantry.provide 1 "rack.row.01.0" (.int 2) = .ok pantry := by
  have howner : pantry.owner 1 "rack.row.01.0" = .ok (some 0) := rfl
  obtain ⟨-, -, hwritten, hself⟩ := Store.provide_lawful howner (.int 9) (.int 7)
  exact ⟨howner, hwritten 0 rfl, hself (.int 2) rfl⟩

end Sample

end Dialect
