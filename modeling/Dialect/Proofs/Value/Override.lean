import Dialect.Proofs.Value.Distinct
import Mathlib.Data.List.Nodup

namespace Dialect.Value

section

variable {es more : List (Value × Value)} {p q : String} {v w : Value}

-- Setting a key that is there does not depend on what is set at another.
theorem insert_insert_of_ne (hq : (find? es (.str q)).isSome) (hne : p ≠ q) :
    insert (insert es (.str p) w) (.str q) v = insert (insert es (.str q) v) (.str p) w := by
  induction es with
  | nil => cases hq
  | cons e es ih =>
      obtain ⟨k, x⟩ := e
      by_cases hkq : k = .str q
      · have hself : (str q).same (.str q) = true := same_str_iff.mpr rfl
        have hp : (str p).same (.str q) = false :=
          same_str_of_ne fun h => hne (Value.str.inj h)
        simp [insert, hkq, hself, hp]
      · have hkq' : (str q).same k = false := by
          rw [Bool.eq_false_iff, ne_eq, same_str_iff]
          exact hkq
        have hrest : (find? es (.str q)).isSome := by
          simpa [find?, hkq'] using hq
        cases hkp : (str p).same k with
        | true => simp [insert, hkp, hkq']
        | false => simp [insert, hkp, hkq', ih hrest]

theorem insert_insertAll_of_notMem (hq : (find? es (.str q)).isSome)
    (htexts : ∀ e ∈ more, ∃ k, e.1 = .str k) (hmem : .str q ∉ more.map (·.1)) :
    insert (insertAll es more) (.str q) v = insertAll (insert es (.str q) v) more := by
  induction more generalizing es with
  | nil => rfl
  | cons e more ih =>
      obtain ⟨k, x⟩ := e
      obtain ⟨p, rfl : k = .str p⟩ := htexts _ List.mem_cons_self
      rw [List.map_cons, List.mem_cons, not_or] at hmem
      have hne : p ≠ q := fun h => hmem.1 (by rw [h])
      have hkept : (find? (insert es (.str p) x) (.str q)).isSome := by
        rw [find?_insert_of_ne es (fun h => hne (Value.str.inj h))]
        exact hq
      have hrest := ih hkept (fun e he => htexts e (List.mem_cons_of_mem _ he)) hmem.2
      rw [insertAll, List.foldl_cons, ← insertAll, hrest, insert_insert_of_ne hq hne]
      rfl

-- A key is set on top of a merged mapping, or in the mapping that is merged.
theorem insert_insertAll (es : List (Value × Value)) (htexts : ∀ e ∈ more, ∃ k, e.1 = .str k)
    (hmore : (more.map (·.1)).Nodup) (p : String) (v : Value) :
    insert (insertAll es more) (.str p) v = insertAll es (insert more (.str p) v) := by
  induction more generalizing es with
  | nil => rfl
  | cons e more ih =>
      obtain ⟨k, x⟩ := e
      obtain ⟨q, rfl : k = .str q⟩ := htexts _ List.mem_cons_self
      have htexts' : ∀ e ∈ more, ∃ k, e.1 = .str k := fun e he =>
        htexts e (List.mem_cons_of_mem _ he)
      rw [List.map_cons, List.nodup_cons] at hmore
      by_cases hpq : p = q
      · subst hpq
        have hself : (str p).same (.str p) = true := same_str_iff.mpr rfl
        have hthere : (find? (insert es (.str p) x) (.str p)).isSome := by
          rw [find?_insert_self]
          rfl
        have hset : insert ((.str p, x) :: more) (.str p) v = (.str p, v) :: more := by
          rw [insert, if_pos hself]
        calc insert (insertAll es ((.str p, x) :: more)) (.str p) v
            = insertAll (insert (insert es (.str p) x) (.str p) v) more :=
              insert_insertAll_of_notMem hthere htexts' hmore.1
          _ = insertAll (insert es (.str p) v) more := by rw [insert_insert]
          _ = insertAll es (insert ((.str p, x) :: more) (.str p) v) := by
              rw [hset]
              rfl
      · have hother : (str p).same (.str q) = false :=
          same_str_of_ne fun h => hpq (Value.str.inj h)
        have hset : insert ((.str q, x) :: more) (.str p) v =
            (.str q, x) :: insert more (.str p) v := by
          rw [insert, hother, if_neg Bool.false_ne_true]
        rw [hset]
        exact ih (insert es (.str q) x) htexts' hmore.2

end

-- Merging mappings is associative, with the order of their keys.
theorem insertAll_insertAll (es : List (Value × Value)) {more rest : List (Value × Value)}
    (hmore : ∀ e ∈ more, ∃ k, e.1 = .str k) (hnodup : (more.map (·.1)).Nodup)
    (hrest : ∀ e ∈ rest, ∃ k, e.1 = .str k) :
    insertAll (insertAll es more) rest = insertAll es (insertAll more rest) := by
  induction rest generalizing more with
  | nil => rfl
  | cons e rest ih =>
      obtain ⟨k, v⟩ := e
      obtain ⟨p, rfl : k = .str p⟩ := hrest _ List.mem_cons_self
      have hkeys := keys_insert more (.str p) v
      have htexts : ∀ e ∈ insert more (.str p) v, ∃ k, e.1 = .str k := by
        intro e he
        have hmem := List.mem_map_of_mem (f := (·.1)) he
        rw [hkeys] at hmem
        rcases mem_of_mem_addNew hmem with hmem | hp
        · obtain ⟨e', he', heq⟩ := List.mem_map.mp hmem
          exact heq ▸ hmore e' he'
        · exact ⟨p, hp⟩
      have hnodup' : ((insert more (.str p) v).map (·.1)).Nodup := by
        rw [hkeys, addNew]
        split
        · exact hnodup
        · rename_i hnew
          rw [← List.concat_eq_append]
          refine hnodup.concat fun hmem => hnew ?_
          exact List.any_eq_true.mpr ⟨_, hmem, same_str_iff.mpr rfl⟩
      calc insertAll (insertAll es more) ((.str p, v) :: rest)
          = insertAll (insert (insertAll es more) (.str p) v) rest := rfl
        _ = insertAll (insertAll es (insert more (.str p) v)) rest := by
            rw [insert_insertAll es hmore hnodup]
        _ = insertAll es (insertAll (insert more (.str p) v) rest) :=
            ih htexts hnodup' fun e he => hrest e (List.mem_cons_of_mem _ he)

end Dialect.Value
