import Dialect.Proofs.Scope.Growth

namespace Dialect

namespace Bindings

theorem find?_set (b : Bindings) (name : String) (v : Value) (n : String) :
    (b.set name v).find? n = if n = name then some v else b.find? n := by
  unfold find?
  induction b with
  | nil => by_cases h : n = name <;> simp [set, h, Ne.symm]
  | cons e b ih =>
      obtain ⟨m, x⟩ := e
      rw [set]
      by_cases hm : m = name
      · subst hm
        by_cases hn : m = n
        · simp [hn]
        · simp [hn, Ne.symm hn]
      · by_cases hn : m = n
        · subst hn
          simp [hm]
        · simpa [hm, hn] using ih

theorem mem_names_of_find? {b : Bindings} {name : String} {v : Value}
    (h : b.find? name = some v) : name ∈ b.names := by
  obtain ⟨e, he, -⟩ := Option.map_eq_some_iff.mp h
  have hname : e.1 = name := by simpa using List.find?_some he
  exact List.mem_map.mpr ⟨e, List.mem_of_find?_eq_some he, hname⟩

theorem find?_eq_none {b : Bindings} {name : String} (h : name ∉ b.names) :
    b.find? name = none := by
  cases hv : b.find? name with
  | none => rfl
  | some v => exact absurd (mem_names_of_find? hv) h

-- A path of one part is a name.
theorem lookup_name (b : Bindings) (name : String) : b.lookup [name] = .ok (b.find? name) := by
  rw [lookup]
  cases b.find? name <;> rfl

end Bindings

namespace Store

-- A path is searched for in the first scope, then in the others.
theorem search_cons (parts : List String) (i : ScopeId) (sc : Scope)
    (rest : List (ScopeId × Scope)) :
    search parts ((i, sc) :: rest) = match sc.bindings.lookup parts with
      | .ok (some v) => .ok (some (i, v))
      | .ok none => search parts rest
      | .error e => .error e := by
  rw [search]
  cases sc.bindings.lookup parts with
  | error e => rfl
  | ok found => cases found <;> rfl

-- A scope of a chain, with other bindings if it is the one.
def replaceAt (o : ScopeId) (b : Bindings) (e : ScopeId × Scope) : ScopeId × Scope :=
  if e.1 = o then (e.1, { e.2 with bindings := b }) else e

-- Older scopes than the one with other bindings are not replaced.
theorem map_replaceAt_chain (s : Store) (b : Bindings) (k : ScopeId) :
    (s.chain k).map (replaceAt s.size b) = s.chain k := by
  have hsame : ∀ e ∈ s.chain k, replaceAt s.size b e = id e := by
    intro e he
    have hlt := lt_size_of_scope? (scope?_of_mem_chain he)
    exact if_neg (Nat.ne_of_lt hlt)
  rw [List.map_congr_left hsame, List.map_id]

theorem chain_setBindings (s : Store) (o : ScopeId) (b : Bindings) (k : ScopeId) :
    (s.setBindings o b).chain k = (s.chain k).map (replaceAt o b) := by
  obtain ⟨scopes⟩ := s
  have hlength (older : List Scope) : (updateIn o b older).length = older.length :=
    size_setBindings ⟨older⟩ o b
  unfold setBindings chain
  simp only []
  induction scopes generalizing k with
  | nil => rfl
  | cons newest older ih =>
      rw [updateIn]
      by_cases ho : o = older.length
      · have hsame (p : ScopeId) : (chainIn older p).map (replaceAt o b) = chainIn older p := by
          rw [ho]
          exact map_replaceAt_chain ⟨older⟩ b p
        rw [if_pos ho, chainIn, chainIn]
        by_cases hk : k = older.length
        · have hhead : replaceAt o b (k, newest) = (k, { newest with bindings := b }) :=
            if_pos (hk.trans ho.symm)
          rw [if_pos hk, if_pos hk, List.map_cons, hhead]
          cases hp : newest.parent with
          | none => rfl
          | some p => simp only [hsame]
        · rw [if_neg hk, if_neg hk, hsame]
      · rw [if_neg ho, chainIn, chainIn, hlength]
        by_cases hk : k = older.length
        · have hhead : replaceAt o b (k, newest) = (k, newest) :=
            if_neg fun h => ho (h.symm.trans hk)
          rw [if_pos hk, if_pos hk, List.map_cons, hhead]
          cases hp : newest.parent with
          | none => rfl
          | some p => simp only [ih]
        · rw [if_neg hk, if_neg hk, ih]

section

variable {parts : List String} {o : ScopeId} {b : Bindings} {c : List (ScopeId × Scope)}

theorem search_replaceAt {v v' : Value} (h : search parts c = .ok (some (o, v)))
    (hb : b.lookup parts = .ok (some v')) :
    search parts (c.map (replaceAt o b)) = .ok (some (o, v')) := by
  induction c with
  | nil => cases h
  | cons e c ih =>
      obtain ⟨i, sc⟩ := e
      rw [search_cons] at h
      rw [List.map_cons, replaceAt]
      by_cases hi : i = o
      · simp only [hi, if_true, search_cons, hb]
      · simp only [hi, if_false, search_cons]
        cases hv : sc.bindings.lookup parts with
        | error e => simp [hv] at h
        | ok found =>
            simp only [hv] at h ⊢
            cases found with
            | some x => simp [hi] at h
            | none => exact ih h

theorem search_replaceAt_of_eq (h : ∀ sc, (o, sc) ∈ c → b.lookup parts = sc.bindings.lookup parts) :
    search parts (c.map (replaceAt o b)) = search parts c := by
  induction c with
  | nil => rfl
  | cons e c ih =>
      obtain ⟨i, sc⟩ := e
      have hrest := ih fun sc hsc => h sc (List.mem_cons_of_mem _ hsc)
      rw [List.map_cons, replaceAt]
      by_cases hi : i = o
      · have hsc := h sc (hi ▸ List.mem_cons_self)
        simp only [hi, if_true, search_cons, hsc, hrest]
      · simp only [hi, if_false, search_cons, hrest]

-- What a search finds stands in the first scope that holds the path.
theorem exists_split_of_search {v : Value} (h : search parts c = .ok (some (o, v))) :
    ∃ near sc far, c = near ++ (o, sc) :: far ∧
      (∀ e ∈ near, e.2.bindings.lookup parts = .ok none) ∧
      sc.bindings.lookup parts = .ok (some v) := by
  induction c with
  | nil => cases h
  | cons e c ih =>
      obtain ⟨i, sc⟩ := e
      rw [search_cons] at h
      cases hv : sc.bindings.lookup parts with
      | error e => simp [hv] at h
      | ok found =>
          simp only [hv] at h
          cases found with
          | some x =>
              cases h
              exact ⟨[], sc, c, rfl, by simp, hv⟩
          | none =>
              obtain ⟨near, sc', far, rfl, hnear, hv'⟩ := ih h
              exact ⟨(i, sc) :: near, sc', far, rfl, by simpa [hv] using hnear, hv'⟩

end

section

variable {s : Store} {k o : ScopeId} {path : String}

theorem lookup_of_locate {v : Value} (h : s.locate k path = .ok (some (o, v))) :
    o < s.size ∧ (s.bindings o).lookup (Path.parts path) = .ok (some v) := by
  obtain ⟨near, sc, far, hchain, -, hv⟩ := exists_split_of_search h
  have hscope : s.scope? o = some sc := scope?_of_mem_chain (i := k) (by simp [hchain])
  refine ⟨lt_size_of_scope? hscope, ?_⟩
  unfold bindings
  rw [hscope]
  exact hv

-- Whoever has seen the path in a scope sees there what stands at it now.
theorem locate_setBindings {v v' : Value} (h : s.locate k path = .ok (some (o, v)))
    {b : Bindings} (hb : b.lookup (Path.parts path) = .ok (some v')) :
    (s.setBindings o b).locate k path = .ok (some (o, v')) := by
  unfold locate at h ⊢
  rw [chain_setBindings]
  exact search_replaceAt h hb

theorem locate_setBindings_of_eq {b : Bindings}
    (hb : b.lookup (Path.parts path) = (s.bindings o).lookup (Path.parts path)) :
    (s.setBindings o b).locate k path = s.locate k path := by
  unfold locate
  rw [chain_setBindings]
  refine search_replaceAt_of_eq fun sc hsc => ?_
  rw [hb]
  unfold bindings
  rw [scope?_of_mem_chain hsc]
  rfl

end

section

variable {name : String} (hname : Path.parts name = [name])
include hname

-- A new scope that does not bind the name sees what its parent sees.
theorem locate_push_size (s : Store) (p : ScopeId) {b : Bindings} (hb : name ∉ b.names) :
    (s.push p b).locate s.size name = s.locate p name := by
  have hchain : (s.push p b).chain s.size = (s.size, ⟨p, b⟩) :: s.chain p := by
    unfold chain push size
    rw [chainIn, if_pos rfl]
  have hlookup : b.lookup [name] = .ok none := by
    rw [Bindings.lookup_name, Bindings.find?_eq_none hb]
  unfold locate
  rw [hname, hchain, search_cons]
  simp only [hlookup]

end

theorem locate_push_of_ne (s : Store) (p : Option ScopeId) (b : Bindings) {k : ScopeId}
    (hk : k ≠ s.size) (name : String) : (s.push p b).locate k name = s.locate k name := by
  unfold locate
  rw [chain_push_of_ne s p b hk]

-- What is seen from a scope that does not exist is nothing.
theorem lt_size_of_locate {s : Store} {k o : ScopeId} {name : String} {v : Value}
    (h : s.locate k name = .ok (some (o, v))) : k < s.size := by
  obtain ⟨sc, hmem⟩ := mem_of_search h
  obtain ⟨scopes⟩ := s
  clear h
  unfold chain at hmem
  unfold size
  simp only [] at hmem ⊢
  induction scopes generalizing k with
  | nil => cases hmem
  | cons newest older ih =>
      rw [chainIn] at hmem
      split at hmem
      · rename_i hk
        rw [hk]
        exact Nat.lt_succ_self _
      · exact Nat.lt_succ_of_lt (ih hmem)

end Store

end Dialect
