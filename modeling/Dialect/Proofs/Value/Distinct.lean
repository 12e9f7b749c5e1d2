import Dialect.Proofs.Value.Entries

namespace Dialect.Value

-- Adds a value unless it matches one that is there.
def addNew (vs : List Value) (v : Value) : List Value :=
  if vs.any fun u => v.same u then vs else vs ++ [v]

-- No value matches one before it.
def Unmatched (vs : List Value) : Prop := vs.Pairwise fun u v => v.same u = false

theorem keys_insert (es : List (Value × Value)) (k v : Value) :
    (insert es k v).map (·.1) = addNew (es.map (·.1)) k := by
  induction es with
  | nil => simp [insert, addNew]
  | cons e es ih =>
      obtain ⟨k', x⟩ := e
      rw [insert]
      cases hk : k.same k' with
      | true => simp [addNew, hk]
      | false =>
          rw [if_neg Bool.false_ne_true, List.map_cons, ih, addNew, addNew]
          cases hany : (es.map (·.1)).any fun u => k.same u <;> simp [hk, hany]

theorem distinct_eq_foldl (vs : List Value) : distinct vs = vs.foldl addNew [] := by
  have hfold : ∀ es : List (Value × Value),
      (vs.foldl (fun es v => insert es v null) es).map (·.1) = vs.foldl addNew (es.map (·.1)) := by
    induction vs with
    | nil => exact fun _ => rfl
    | cons v vs ih =>
        intro es
        rw [List.foldl_cons, ih, keys_insert, List.foldl_cons]
  exact hfold []

section

variable {vs ws : List Value} {v : Value}

theorem mem_of_mem_addNew {u : Value} (h : u ∈ addNew vs v) : u ∈ vs ∨ u = v := by
  rw [addNew] at h
  split at h
  · exact .inl h
  · simpa using h

theorem Unmatched.addNew (h : Unmatched vs) (v : Value) : Unmatched (addNew vs v) := by
  rw [Value.addNew]
  split
  · exact h
  · rename_i hnew
    have hnone : ∀ u ∈ vs, v.same u = false := by simpa using hnew
    refine List.pairwise_append.mpr ⟨h, List.pairwise_singleton _ _, ?_⟩
    intro u hu w hw
    rw [List.mem_singleton.mp hw]
    exact hnone u hu

theorem unmatched_distinct (vs : List Value) : Unmatched (distinct vs) := by
  have hfold : ∀ us, Unmatched us → Unmatched (vs.foldl addNew us) := by
    induction vs with
    | nil => exact fun _ hus => hus
    | cons v vs ih => exact fun us hus => ih _ (hus.addNew v)
  rw [distinct_eq_foldl]
  exact hfold [] .nil

-- Values that match none before them are all added.
theorem foldl_addNew (h : Unmatched (vs ++ ws)) : ws.foldl addNew vs = vs ++ ws := by
  induction ws generalizing vs with
  | nil => exact (List.append_nil vs).symm
  | cons w ws ih =>
      have hnew : (vs.any fun u => w.same u) = false := by
        simpa using fun u hu => (List.pairwise_append.mp h).2.2 u hu w List.mem_cons_self
      have hadd : addNew vs w = vs ++ [w] := by rw [addNew, hnew, if_neg Bool.false_ne_true]
      rw [List.foldl_cons, hadd, ih (by simpa using h), List.append_assoc, List.singleton_append]

-- What was made distinct before more was added is made distinct with it.
theorem distinct_append (vs ws : List Value) :
    distinct (distinct vs ++ ws) = distinct (vs ++ ws) := by
  have hsame : (distinct vs).foldl addNew [] = distinct vs :=
    foldl_addNew (unmatched_distinct vs)
  rw [distinct_eq_foldl (distinct vs ++ ws), distinct_eq_foldl (vs ++ ws), List.foldl_append,
    List.foldl_append, hsame, ← distinct_eq_foldl]

theorem mem_of_mem_distinct (h : v ∈ distinct vs) : v ∈ vs := by
  have hfold : ∀ us, v ∈ vs.foldl addNew us → v ∈ us ∨ v ∈ vs := by
    clear h
    induction vs with
    | nil => exact fun _ hv => .inl hv
    | cons w vs ih =>
        intro us hv
        rcases ih _ hv with hv | hv
        · rcases mem_of_mem_addNew hv with hv | rfl
          · exact .inl hv
          · exact .inr List.mem_cons_self
        · exact .inr (List.mem_cons_of_mem _ hv)
  rw [distinct_eq_foldl] at h
  exact (hfold [] h).resolve_left List.not_mem_nil

-- A text matches itself only, so none gets lost.
theorem mem_distinct_str {k : String} : .str k ∈ distinct vs ↔ .str k ∈ vs := by
  refine ⟨mem_of_mem_distinct, fun h => ?_⟩
  have hadd : ∀ us w, .str k ∈ us ∨ .str k = w → .str k ∈ addNew us w := by
    intro us w hw
    rw [addNew]
    split
    · rename_i hany
      rcases hw with hw | rfl
      · exact hw
      · obtain ⟨u, hu, hsame⟩ := List.any_eq_true.mp hany
        exact same_str_iff.mp hsame ▸ hu
    · simpa using hw
  have hfold : ∀ us, .str k ∈ us ∨ .str k ∈ vs → .str k ∈ vs.foldl addNew us := by
    clear h
    induction vs with
    | nil => exact fun _ hv => hv.resolve_right List.not_mem_nil
    | cons w vs ih =>
        intro us hv
        rw [List.mem_cons, ← or_assoc] at hv
        exact ih _ (hv.imp_left (hadd us w))
  rw [distinct_eq_foldl]
  exact hfold [] (.inr h)

theorem unhashableIn?_eq_none_iff :
    unhashableIn? vs = none ↔ ∀ v ∈ vs, v.unhashable? = none := by
  induction vs with
  | nil => simp [unhashableIn?]
  | cons v vs ih =>
      rw [unhashableIn?, List.forall_mem_cons, ← ih]
      cases v.unhashable? <;> simp

theorem unhashableIn?_append (h : unhashableIn? vs = none) (ws : List Value) :
    unhashableIn? (vs ++ ws) = unhashableIn? ws := by
  rw [unhashableIn?_eq_none_iff] at h
  induction vs with
  | nil => rfl
  | cons v vs ih =>
      rw [List.cons_append, unhashableIn?, h v List.mem_cons_self]
      exact ih fun u hu => h u (List.mem_cons_of_mem _ hu)

theorem unhashableIn?_distinct (h : unhashableIn? vs = none) :
    unhashableIn? (distinct vs) = none := by
  rw [unhashableIn?_eq_none_iff] at h ⊢
  exact fun v hv => h v (mem_of_mem_distinct hv)

end

end Dialect.Value
