import Dialect.Proofs.Scope.View
import Mathlib.Data.List.Nodup

namespace Dialect

namespace Bindings

theorem names_cons (e : String × Value) (b : Bindings) : names (e :: b) = e.1 :: b.names := rfl

theorem names_set (b : Bindings) (name : String) (v : Value) :
    (b.set name v).names = if name ∈ b.names then b.names else b.names ++ [name] := by
  induction b with
  | nil => rfl
  | cons e b ih =>
      obtain ⟨n, x⟩ := e
      rw [set]
      by_cases h : n = name
      · simp [h, names_cons]
      · simp only [beq_iff_eq, h, if_false, names_cons, ih, List.mem_cons, Ne.symm h, false_or]
        split <;> rfl

theorem names_prefix_set (b : Bindings) (name : String) (v : Value) :
    b.names <+: (b.set name v).names := by
  rw [names_set]
  split
  · exact List.prefix_rfl
  · exact List.prefix_append _ _

theorem nodup_set {b : Bindings} (hb : b.names.Nodup) (name : String) (v : Value) :
    (b.set name v).names.Nodup := by
  rw [names_set]
  split
  · exact hb
  · rename_i hname
    rw [← List.concat_eq_append]
    exact hb.concat hname

-- Names are added one after the other, as far as all keys are names.
theorem addAll_eq_ok {es : List (Value × Value)} {b b' : Bindings} (h : b.addAll es = .ok b') :
    b.names <+: b'.names ∧ (b.names.Nodup → b'.names.Nodup) := by
  induction es generalizing b with
  | nil =>
      cases h
      exact ⟨List.prefix_rfl, id⟩
  | cons e es ih =>
      obtain ⟨k, v⟩ := e
      cases k <;> simp only [addAll, reduceCtorEq] at h
      rename_i name
      obtain ⟨hfront, hnodup⟩ := ih h
      exact ⟨(names_prefix_set b name v).trans hfront, fun hb => hnodup (nodup_set hb name v)⟩

theorem add_eq_ok {b b' : Bindings} {v : Value} (h : b.add v = .ok b') :
    b.names <+: b'.names ∧ (b.names.Nodup → b'.names.Nodup) := by
  cases v <;> simp only [add, reduceCtorEq] at h
  exact addAll_eq_ok h

-- No names are added but the keys.
theorem mem_names_of_addAll {es : List (Value × Value)} {b b' : Bindings} {name : String}
    (h : b.addAll es = .ok b') (hname : name ∈ b'.names) :
    name ∈ b.names ∨ .str name ∈ es.map (·.1) := by
  induction es generalizing b with
  | nil =>
      cases h
      exact .inl hname
  | cons e es ih =>
      obtain ⟨k, v⟩ := e
      cases k <;> simp only [addAll, reduceCtorEq] at h
      rename_i key
      rcases ih h with hset | hrest
      · rw [names_set] at hset
        split at hset
        · exact .inl hset
        · rcases List.mem_append.mp hset with hold | hnew
          · exact .inl hold
          · exact .inr (by simp [List.mem_singleton.mp hnew])
      · exact .inr (List.mem_cons_of_mem _ hrest)

theorem nodup_of_add_nil {b : Bindings} {v : Value} (h : add [] v = .ok b) : b.names.Nodup :=
  (add_eq_ok h).2 List.nodup_nil

theorem names_put (b : Bindings) (new : Value) (parts : List String) :
    b.names <+: (b.put new parts).names ∧ (b.names.Nodup → (b.put new parts).names.Nodup) := by
  cases parts with
  | nil => exact ⟨List.prefix_rfl, id⟩
  | cons p ps => exact ⟨names_prefix_set b p _, fun hb => nodup_set hb p _⟩

end Bindings

namespace Store

theorem scope?_push_size (s : Store) (p : Option ScopeId) (b : Bindings) :
    (s.push p b).scope? s.size = some ⟨p, b⟩ := by
  unfold scope? push size
  rw [scopeIn, if_pos rfl]

theorem lt_size_of_scope? {s : Store} {i : ScopeId} {sc : Scope} (h : s.scope? i = some sc) :
    i < s.size := by
  obtain ⟨scopes⟩ := s
  unfold scope? size at *
  simp only [] at h ⊢
  induction scopes with
  | nil => cases h
  | cons newest older ih =>
      rw [scopeIn] at h
      split at h
      · rename_i hi
        simp [hi]
      · exact Nat.lt_succ_of_lt (ih h)

theorem exists_scope? {s : Store} {i : ScopeId} (h : i < s.size) : ∃ sc, s.scope? i = some sc := by
  obtain ⟨scopes⟩ := s
  unfold scope? size at *
  simp only [] at h ⊢
  induction scopes with
  | nil => cases h
  | cons newest older ih =>
      rw [scopeIn]
      split
      · exact ⟨newest, rfl⟩
      · rename_i hi
        exact ih (Nat.lt_of_le_of_ne (Nat.le_of_lt_succ h) hi)

@[simp] theorem size_setBindings (s : Store) (i : ScopeId) (b : Bindings) :
    (s.setBindings i b).size = s.size := by
  obtain ⟨scopes⟩ := s
  unfold setBindings size
  simp only []
  induction scopes with
  | nil => rfl
  | cons newest older ih =>
      rw [updateIn]
      split
      · rfl
      · simp only [List.length_cons, ih]

-- Only the bindings of the one scope are replaced.
theorem scope?_setBindings (s : Store) (i : ScopeId) (b : Bindings) (k : ScopeId) :
    (s.setBindings i b).scope? k =
      if k = i then (s.scope? k).map fun sc => { sc with bindings := b } else s.scope? k := by
  obtain ⟨scopes⟩ := s
  have hlength (older : List Scope) : (updateIn i b older).length = older.length :=
    size_setBindings ⟨older⟩ i b
  unfold setBindings scope?
  simp only []
  induction scopes with
  | nil => simp [updateIn, scopeIn]
  | cons newest older ih =>
      rw [updateIn]
      by_cases hi : i = older.length
      · rw [if_pos hi, scopeIn, scopeIn]
        by_cases hk : k = older.length
        · simp [hi, hk]
        · rw [if_neg hk, if_neg hk, if_neg (by rw [hi]; exact hk)]
      · rw [if_neg hi, scopeIn, scopeIn, hlength]
        by_cases hk : k = older.length
        · rw [if_pos hk, if_neg (by rw [hk]; exact Ne.symm hi)]
          rw [if_pos hk]
        · rw [if_neg hk, if_neg hk]
          exact ih

theorem parent?_setBindings (s : Store) (i : ScopeId) (b : Bindings) (k : ScopeId) :
    (s.setBindings i b).parent? k = s.parent? k := by
  unfold parent?
  rw [scope?_setBindings]
  split
  · cases s.scope? k <;> rfl
  · rfl

theorem bindings_setBindings (s : Store) {i : ScopeId} (hi : i < s.size) (b : Bindings)
    (k : ScopeId) : (s.setBindings i b).bindings k = if k = i then b else s.bindings k := by
  unfold bindings
  rw [scope?_setBindings]
  split
  · rename_i hk
    obtain ⟨sc, hsc⟩ := exists_scope? hi
    rw [hk, hsc]
    rfl
  · rfl

-- A scope that was added to a store has its own parent and bindings, the others keep theirs.
theorem parent?_push (s : Store) (p : Option ScopeId) (b : Bindings) (k : ScopeId) :
    (s.push p b).parent? k = if k = s.size then p else s.parent? k := by
  unfold parent?
  split
  · rename_i hk
    rw [hk, scope?_push_size]
    rfl
  · rename_i hk
    rw [scope?_push_of_ne s p b hk]

theorem bindings_push (s : Store) (p : Option ScopeId) (b : Bindings) (k : ScopeId) :
    (s.push p b).bindings k = if k = s.size then b else s.bindings k := by
  unfold bindings
  split
  · rename_i hk
    rw [hk, scope?_push_size]
    rfl
  · rename_i hk
    rw [scope?_push_of_ne s p b hk]

theorem bind_eq_ok {s s' : Store} {i : ScopeId} {v : Value} (h : s.bind i v = .ok s') :
    ∃ b, (s.bindings i).add v = .ok b ∧ s' = s.setBindings i b := by
  unfold bind at h
  cases hadd : (s.bindings i).add v with
  | error e =>
      rw [hadd] at h
      cases h
  | ok b =>
      rw [hadd] at h
      cases h
      exact ⟨b, rfl, rfl⟩

theorem provide_eq_ok {s s' : Store} {i : ScopeId} {path : String} {v : Value}
    (h : s.provide i path v = .ok s') :
    ∃ o, s.owner i path = .ok (some o) ∧
      s' = s.setBindings o ((s.bindings o).put v (Path.parts path)) := by
  unfold provide at h
  cases howner : s.owner i path with
  | error e =>
      rw [howner] at h
      cases h
  | ok found =>
      rw [howner] at h
      cases found with
      | none => cases h
      | some o =>
          cases h
          exact ⟨o, rfl, rfl⟩

-- What a search finds stands in one of the scopes that it goes through.
theorem mem_of_search {parts : List String} {c : List (ScopeId × Scope)} {o : ScopeId} {v : Value}
    (h : search parts c = .ok (some (o, v))) : ∃ sc, (o, sc) ∈ c := by
  induction c with
  | nil => cases h
  | cons head rest ih =>
      obtain ⟨i, sc⟩ := head
      simp only [search] at h
      cases hlookup : sc.bindings.lookup parts with
      | error e =>
          rw [hlookup] at h
          cases h
      | ok found =>
          rw [hlookup] at h
          cases found with
          | some x =>
              cases h
              exact ⟨sc, List.mem_cons_self⟩
          | none =>
              obtain ⟨sc', hmem⟩ := ih h
              exact ⟨sc', List.mem_cons_of_mem _ hmem⟩

-- The scopes of a chain are scopes of the store.
theorem scope?_of_mem_chain {s : Store} {i k : ScopeId} {sc : Scope} (h : (k, sc) ∈ s.chain i) :
    s.scope? k = some sc := by
  obtain ⟨scopes⟩ := s
  unfold chain scope? at *
  simp only [] at h ⊢
  induction scopes generalizing i with
  | nil => cases h
  | cons newest older ih =>
      have holder (hk : (k, sc) ∈ chainIn older i ∨ ∃ p, (k, sc) ∈ chainIn older p) :
          scopeIn (newest :: older) k = some sc := by
        have hscope : scopeIn older k = some sc := by
          rcases hk with hk | ⟨p, hk⟩ <;> exact ih hk
        have hlt : k < older.length := lt_size_of_scope? (s := ⟨older⟩) hscope
        rw [scopeIn, if_neg (Nat.ne_of_lt hlt)]
        exact hscope
      rw [chainIn] at h
      split at h
      · rename_i hi
        rcases List.mem_cons.mp h with heq | hmem
        · cases heq
          rw [scopeIn, if_pos hi]
        · cases hp : newest.parent with
          | none => simp [hp] at hmem
          | some p =>
              rw [hp] at hmem
              exact holder (.inr ⟨p, hmem⟩)
      · exact holder (.inl h)

theorem owner_lt {s : Store} {i o : ScopeId} {path : String}
    (h : s.owner i path = .ok (some o)) : o < s.size := by
  rw [owner_eq_locate, locate] at h
  cases hsearch : search (Path.parts path) (s.chain i) with
  | error e =>
      rw [hsearch] at h
      cases h
  | ok found =>
      rw [hsearch] at h
      cases found with
      | none => cases h
      | some x =>
          obtain ⟨o', v⟩ := x
          cases h
          obtain ⟨sc, hmem⟩ := mem_of_search hsearch
          exact lt_size_of_scope? (scope?_of_mem_chain hmem)

-- Parents are older than their children, and the names of a scope are distinct.
structure WellFormed (s : Store) : Prop where
  older {k p : ScopeId} : s.parent? k = some p → p < k
  nodup (k : ScopeId) : (s.bindings k).names.Nodup

-- Scopes keep their parents, and their names in order.
structure Grows (s s' : Store) : Prop where
  size_le : s.size ≤ s'.size
  parent {k : ScopeId} : k < s.size → s'.parent? k = s.parent? k
  names {k : ScopeId} : k < s.size → (s.bindings k).names <+: (s'.bindings k).names

theorem Grows.refl (s : Store) : s.Grows s :=
  ⟨Nat.le_refl _, fun _ => rfl, fun _ => List.prefix_rfl⟩

theorem Grows.trans {s t u : Store} (hst : s.Grows t) (htu : t.Grows u) : s.Grows u where
  size_le := Nat.le_trans hst.size_le htu.size_le
  parent hk := (htu.parent (Nat.lt_of_lt_of_le hk hst.size_le)).trans (hst.parent hk)
  names hk := (hst.names hk).trans (htu.names (Nat.lt_of_lt_of_le hk hst.size_le))

theorem wellFormed_empty : empty.WellFormed where
  older h := by cases h
  nodup _ := List.nodup_nil

section

variable {s : Store}

theorem WellFormed.push (hs : s.WellFormed) {p : Option ScopeId} {b : Bindings}
    (hp : ∀ q, p = some q → q < s.size) (hb : b.names.Nodup) : (s.push p b).WellFormed where
  older {k q} h := by
    rw [parent?_push] at h
    split at h
    · rename_i hk
      exact hk ▸ hp q h
    · exact hs.older h
  nodup k := by
    rw [bindings_push]
    split
    · exact hb
    · exact hs.nodup k

theorem Grows.push (s : Store) (p : Option ScopeId) (b : Bindings) : s.Grows (s.push p b) where
  size_le := Nat.le_succ _
  parent {k} hk := by rw [parent?_push, if_neg (Nat.ne_of_lt hk)]
  names {k} hk := ⟨[], by rw [List.append_nil, bindings_push, if_neg (Nat.ne_of_lt hk)]⟩

-- Replacing the bindings of a scope by ones with more names at the end.
theorem WellFormed.setBindings (hs : s.WellFormed) {i : ScopeId} (hi : i < s.size) {b : Bindings}
    (hb : b.names.Nodup) : (s.setBindings i b).WellFormed where
  older h := by
    rw [parent?_setBindings] at h
    exact hs.older h
  nodup k := by
    rw [bindings_setBindings s hi]
    split
    · exact hb
    · exact hs.nodup k

theorem Grows.setBindings {i : ScopeId} (hi : i < s.size) {b : Bindings}
    (hb : (s.bindings i).names <+: b.names) : s.Grows (s.setBindings i b) where
  size_le := Nat.le_of_eq (size_setBindings s i b).symm
  parent _ := parent?_setBindings s i b _
  names {k} _ := by
    rw [bindings_setBindings s hi]
    split
    · rename_i hk
      exact hk ▸ hb
    · exact List.prefix_rfl

theorem bind_grows {s' : Store} {i : ScopeId} {v : Value} (hi : i < s.size)
    (h : s.bind i v = .ok s') : s.Grows s' ∧ (s.WellFormed → s'.WellFormed) := by
  obtain ⟨b, hadd, rfl⟩ := bind_eq_ok h
  obtain ⟨hfront, hnodup⟩ := Bindings.add_eq_ok hadd
  exact ⟨.setBindings hi hfront, fun hs => hs.setBindings hi (hnodup (hs.nodup i))⟩

theorem provide_grows {s' : Store} {i : ScopeId} {path : String} {v : Value}
    (h : s.provide i path v = .ok s') : s.Grows s' ∧ (s.WellFormed → s'.WellFormed) := by
  obtain ⟨o, howner, rfl⟩ := provide_eq_ok h
  have ho := owner_lt howner
  obtain ⟨hfront, hnodup⟩ := Bindings.names_put (s.bindings o) v (Path.parts path)
  exact ⟨.setBindings ho hfront, fun hs => hs.setBindings ho (hnodup (hs.nodup o))⟩

end

-- The walk from a scope by parents comes to a root after these scopes.
inductive Climbs (s : Store) : ScopeId → List (ScopeId × Scope) → Prop where
  | root {i : ScopeId} {sc : Scope} (scope : s.scope? i = some sc) (parent : sc.parent = none) :
      Climbs s i [(i, sc)]
  | up {i p : ScopeId} {sc : Scope} {rest : List (ScopeId × Scope)}
      (scope : s.scope? i = some sc) (parent : sc.parent = some p) (climbs : Climbs s p rest) :
      Climbs s i ((i, sc) :: rest)

theorem chain_push_of_ne (s : Store) (p : Option ScopeId) (b : Bindings) {i : ScopeId}
    (hi : i ≠ s.size) : (s.push p b).chain i = s.chain i := by
  unfold size at hi
  unfold chain push
  rw [chainIn, if_neg hi]

-- A walk in an older store is one in a newer store.
theorem Climbs.push {s : Store} {i : ScopeId} {c : List (ScopeId × Scope)} (h : s.Climbs i c)
    (p : Option ScopeId) (b : Bindings) : (s.push p b).Climbs i c := by
  induction h with
  | root scope parent =>
      refine .root ?_ parent
      rw [scope?_push_of_ne s p b (Nat.ne_of_lt (lt_size_of_scope? scope)), scope]
  | up scope parent _ ih =>
      refine .up ?_ parent ih
      rw [scope?_push_of_ne s p b (Nat.ne_of_lt (lt_size_of_scope? scope)), scope]

-- A store without its newest scope is as good as it was.
theorem WellFormed.of_push {s : Store} {p : Option ScopeId} {b : Bindings}
    (h : (s.push p b).WellFormed) : s.WellFormed where
  older {k q} hk := by
    refine h.older ?_
    obtain ⟨sc, hsc, -⟩ := Option.bind_eq_some_iff.mp hk
    rw [parent?_push, if_neg (Nat.ne_of_lt (lt_size_of_scope? hsc)), hk]
  nodup k := by
    by_cases hk : k < s.size
    · have hnodup := h.nodup k
      rwa [bindings_push, if_neg (Nat.ne_of_lt hk)] at hnodup
    · unfold bindings
      cases hsc : s.scope? k with
      | none => exact List.nodup_nil
      | some sc => exact absurd (lt_size_of_scope? hsc) hk

-- By induction on the scopes, the newest first: the parent of the newest is one of the others.
theorem WellFormed.climbs {s : Store} (h : s.WellFormed) {i : ScopeId} (hi : i < s.size) :
    s.Climbs i (s.chain i) := by
  obtain ⟨scopes⟩ := s
  induction scopes generalizing i with
  | nil => cases hi
  | cons newest older ih =>
      obtain ⟨parent, b⟩ := newest
      change (Store.push ⟨older⟩ parent b).WellFormed at h
      change (Store.push ⟨older⟩ parent b).Climbs i ((Store.push ⟨older⟩ parent b).chain i)
      by_cases hnew : i = (⟨older⟩ : Store).size
      · subst hnew
        have hscope := scope?_push_size ⟨older⟩ parent b
        cases parent with
        | none =>
            have hchain : (Store.push ⟨older⟩ none b).chain (⟨older⟩ : Store).size =
                [((⟨older⟩ : Store).size, ⟨none, b⟩)] := by
              unfold chain Store.push size
              rw [chainIn, if_pos rfl]
            rw [hchain]
            exact .root hscope rfl
        | some p =>
            have hp : p < (⟨older⟩ : Store).size := by
              refine h.older ?_
              rw [parent?_push, if_pos rfl]
            have hchain : (Store.push ⟨older⟩ (some p) b).chain (⟨older⟩ : Store).size =
                ((⟨older⟩ : Store).size, ⟨some p, b⟩) :: (⟨older⟩ : Store).chain p := by
              unfold chain Store.push size
              rw [chainIn, if_pos rfl]
            rw [hchain]
            exact .up hscope rfl ((ih h.of_push hp).push _ _)
      · rw [chain_push_of_ne _ _ _ hnew]
        have hlt : i < (⟨older⟩ : Store).size :=
          Nat.lt_of_le_of_ne (Nat.le_of_lt_succ hi) hnew
        exact (ih h.of_push hlt).push _ _

end Store

end Dialect
