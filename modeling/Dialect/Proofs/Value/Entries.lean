import Dialect.Value.Equality

namespace Dialect.Value

theorem eq_map_of_kind {v : Value} (h : v.kind = .map) : ∃ es, v = .map es := by
  cases v
  case map es => exact ⟨es, rfl⟩
  all_goals cases h

theorem same_str_iff {p : String} {v : Value} : (str p).same v = true ↔ v = str p := by
  cases v <;> simp [same, equal, numEqual, num?]
  exact eq_comm

theorem unhashableIn?_str (names : List String) : unhashableIn? (names.map .str) = none := by
  induction names with
  | nil => simp [unhashableIn?]
  | cons n names ih => simp [unhashableIn?, unhashable?, ih]

-- Values that are all texts are a list of texts.
theorem exists_eq_map_str {vs : List Value} (h : ∀ v ∈ vs, ∃ k, v = str k) :
    ∃ ks : List String, vs = ks.map str := by
  induction vs with
  | nil => exact ⟨[], rfl⟩
  | cons v vs ih =>
      obtain ⟨k, rfl⟩ := h v List.mem_cons_self
      obtain ⟨ks, rfl⟩ := ih fun v hv => h v (List.mem_cons_of_mem _ hv)
      exact ⟨k :: ks, rfl⟩

theorem find?_insert_self (es : List (Value × Value)) (p : String) (v : Value) :
    find? (insert es (str p) v) (str p) = some v := by
  have hself : (str p).same (str p) = true := same_str_iff.mpr rfl
  induction es with
  | nil => simp [insert, find?, hself]
  | cons e es ih =>
      obtain ⟨k, x⟩ := e
      unfold find? at ih ⊢
      cases hk : (str p).same k with
      | true => simp [insert, hk]
      | false => simpa [insert, hk] using ih

theorem same_str_of_ne {k : Value} {q : String} (h : k ≠ str q) : k.same (str q) = false := by
  cases k <;> simp_all [same, equal, numEqual, num?, isNan]

-- Setting another key, which need not be a text.
theorem find?_insert_of_ne (es : List (Value × Value)) {k : Value} {q : String} (h : k ≠ str q)
    (v : Value) : find? (insert es k v) (str q) = find? es (str q) := by
  have hne : (str q).same k = false := by
    rw [Bool.eq_false_iff, ne_eq, same_str_iff]
    exact h
  induction es with
  | nil => simp [insert, find?, hne]
  | cons e es ih =>
      obtain ⟨k', x⟩ := e
      unfold find? at ih ⊢
      rw [insert]
      cases hk : k.same k' with
      | true =>
          have hk' : (str q).same k' = false := by
            rw [Bool.eq_false_iff, ne_eq, same_str_iff]
            rintro rfl
            rw [same_str_of_ne h] at hk
            cases hk
          simp [hk']
      | false => simp only [Bool.false_eq_true, if_false, List.find?_cons]; split <;> simp_all

-- Setting a key to what it has already.
theorem insert_of_find? {es : List (Value × Value)} {k x : Value} (h : find? es k = some x) :
    insert es k x = es := by
  induction es with
  | nil => cases h
  | cons e es ih =>
      obtain ⟨k', y⟩ := e
      unfold find? at h ih
      rw [List.find?_cons] at h
      rw [insert]
      cases hk : k.same k' with
      | true =>
          simp only [hk, Option.map_some, Option.some.injEq] at h
          rw [h, if_pos rfl]
      | false =>
          simp only [hk] at h
          simp only [Bool.false_eq_true, if_false, ih h]

theorem insert_insert (es : List (Value × Value)) (p : String) (v w : Value) :
    insert (insert es (str p) v) (str p) w = insert es (str p) w := by
  have hself : (str p).same (str p) = true := same_str_iff.mpr rfl
  induction es with
  | nil => simp [insert, hself]
  | cons e es ih =>
      obtain ⟨k, x⟩ := e
      cases hk : (str p).same k <;> simp [insert, hk, ih]

-- A key that is there keeps its place.
theorem keys_insert_of_find? {es : List (Value × Value)} {k x : Value} (h : find? es k = some x)
    (v : Value) : (insert es k v).map (·.1) = es.map (·.1) := by
  induction es with
  | nil => cases h
  | cons e es ih =>
      obtain ⟨k', y⟩ := e
      unfold find? at h ih
      rw [List.find?_cons] at h
      rw [insert]
      cases hk : k.same k' with
      | true => simp
      | false =>
          simp only [hk] at h
          simp only [Bool.false_eq_true, if_false, List.map_cons, ih h]

theorem insert_append_of_find?_eq_none {es : List (Value × Value)} {k : Value}
    (h : find? es k = none) (more : List (Value × Value)) (v : Value) :
    insert (es ++ more) k v = es ++ insert more k v := by
  induction es with
  | nil => rfl
  | cons e es ih =>
      obtain ⟨k', v'⟩ := e
      unfold find? at h ih
      rw [List.find?_cons] at h
      cases hk : k.same k' with
      | true => simp [hk] at h
      | false =>
          simp only [hk] at h
          simp [insert, hk, ih h]

-- Entries whose keys are not there go to the end.
theorem insertAll_of_find?_eq_none {es new : List (Value × Value)}
    (h : ∀ e ∈ new, find? es e.1 = none) (more : List (Value × Value)) :
    insertAll (es ++ more) new = es ++ insertAll more new := by
  unfold insertAll
  induction new generalizing more with
  | nil => rfl
  | cons e new ih =>
      rw [List.foldl_cons, List.foldl_cons,
        insert_append_of_find?_eq_none (h e List.mem_cons_self)]
      exact ih (fun x hx => h x (List.mem_cons_of_mem _ hx)) _

end Dialect.Value
