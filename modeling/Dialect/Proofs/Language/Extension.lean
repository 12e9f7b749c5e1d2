import Dialect.Proofs.Language.Table
import Dialect.Proofs.Value.Entries
import Mathlib.Data.List.Basic

namespace Dialect

namespace Markers

-- Markers that were noted after others: for keys that had none, each once.
def Noted (found out : Markers) : Prop :=
  ∃ new, out = found ++ new ∧ (∀ e ∈ new, found.find? e.1 = none) ∧
    new.Pairwise fun e f => f.1.same e.1 = false

theorem find?_append (found new : Markers) (k : Value) :
    find? (found ++ new) k = (find? found k).or (find? new k) := by
  unfold find?
  rw [List.find?_append]
  cases List.find? (fun e => k.same e.1) found <;> rfl

theorem find?_eq_none_iff {found : Markers} {k : Value} :
    found.find? k = none ↔ ∀ e ∈ found, k.same e.1 = false := by
  unfold find?
  simp

theorem Noted.refl (found : Markers) : Noted found found := ⟨[], by simp, by simp, .nil⟩

theorem Noted.trans {a b c : Markers} (hab : Noted a b) (hbc : Noted b c) : Noted a c := by
  obtain ⟨new, rfl, hnew, hpair⟩ := hab
  obtain ⟨more, rfl, hmore, hpair'⟩ := hbc
  have hnone : ∀ e ∈ more, a.find? e.1 = none ∧ find? new e.1 = none := by
    intro e he
    have h := hmore e he
    rw [find?_append, Option.or_eq_none_iff] at h
    exact h
  refine ⟨new ++ more, by simp, ?_, ?_⟩
  · intro e he
    rcases List.mem_append.mp he with he | he
    · exact hnew e he
    · exact (hnone e he).1
  · rw [List.pairwise_append]
    refine ⟨hpair, hpair', ?_⟩
    intro e he f hf
    exact find?_eq_none_iff.mp (hnone f hf).2 e he

theorem noted_note {found out : Markers} {k : Value} {m : Option Marker}
    (h : note found k m = .ok out) : Noted found out := by
  cases m with
  | none =>
      cases h
      exact .refl found
  | some m =>
      rw [note] at h
      cases hf : found.find? k with
      | none =>
          simp only [hf] at h
          cases h
          exact ⟨[(k, m)], rfl, by simpa using hf, List.pairwise_singleton _ _⟩
      | some first =>
          simp only [hf] at h
          split at h
          · cases h
            exact .refl found
          · cases h

mutual

-- A walk only adds markers.
theorem noted_walk {found out : Markers} {v : Value} (h : walk found v = .ok out) :
    Noted found out := by
  cases v with
  | list xs =>
      rw [walk] at h
      exact noted_walkAll h
  | tuple xs =>
      rw [walk] at h
      exact noted_walkAll h
  | map es =>
      rw [walk] at h
      exact noted_walkEntries h
  | _ =>
      simp only [walk, Except.ok.injEq] at h
      exact h ▸ .refl found

theorem noted_walkAll {found out : Markers} {vs : List Value} (h : walkAll found vs = .ok out) :
    Noted found out := by
  cases vs with
  | nil =>
      rw [walkAll] at h
      cases h
      exact .refl found
  | cons v vs =>
      rw [walkAll] at h
      obtain ⟨mid, hv, hvs⟩ := exists_of_bind_eq_ok h
      exact (noted_walk hv).trans (noted_walkAll hvs)

theorem noted_walkEntries {found out : Markers} {es : List (Value × Value)}
    (h : walkEntries found es = .ok out) : Noted found out := by
  cases es with
  | nil =>
      rw [walkEntries] at h
      cases h
      exact .refl found
  | cons e es =>
      obtain ⟨k, term⟩ := e
      rw [walkEntries] at h
      obtain ⟨m, -, h⟩ := exists_of_bind_eq_ok h
      obtain ⟨noted, hnote, h⟩ := exists_of_bind_eq_ok h
      obtain ⟨mid, hterm, h⟩ := exists_of_bind_eq_ok h
      exact ((noted_note hnote).trans (noted_walk hterm)).trans (noted_walkEntries h)

end

theorem walkEntries_append (found : Markers) (es more : List (Value × Value)) :
    walkEntries found (es ++ more) = walkEntries found es >>= fun mid => walkEntries mid more := by
  induction es generalizing found with
  | nil => simp [walkEntries, bind, Except.bind]
  | cons e es ih =>
      obtain ⟨k, term⟩ := e
      simp only [List.cons_append, walkEntries, ih, bind_assoc]

theorem keysOf_append (ms new : Markers) (m : Marker) :
    keysOf (ms ++ new) m = keysOf ms m ++ keysOf new m := by
  simp [keysOf]

-- The texts among the keys of one marker are all different.
theorem nodup_of_keysOf {ms : Markers} (h : Noted [] ms) {m : Marker} {ks : List String}
    (hks : ms.keysOf m = ks.map .str) : ks.Nodup := by
  obtain ⟨new, rfl, -, hpair⟩ := h
  have hkeys : (ks.map Value.str).Pairwise fun a b => b.same a = false := by
    rw [← hks]
    unfold keysOf
    rw [List.pairwise_map]
    exact List.Pairwise.filter _ hpair
  rw [List.pairwise_map] at hkeys
  refine hkeys.imp ?_
  rintro a b hab rfl
  simp [Value.same, Value.equal] at hab

end Markers

namespace Language

-- A grammar marks a key.
def Marks (grammar : Value) (key : String) : Prop :=
  ∃ ms, Markers.ofGrammar grammar = .ok ms ∧ (ms.find? (.str key)).isSome

-- A key that an extended language marks and the language did not, or that a new aspect claims.
def Fresh (l l' : Language) (aspects : List (Aspect ⊕ Value)) (key : String) : Prop :=
  Marks l'.grammar key ∧ ¬Marks l.grammar key ∨ ∃ a, .inl a ∈ aspects ∧ a.key = key

theorem checkExplicit_eq_ok {allowed : List Value} {bindingKey : Value} {seen : List Aspect}
    {aspects : List (Aspect ⊕ Value)} {out : List Aspect}
    (h : checkExplicit allowed bindingKey seen aspects = .ok out) :
    ∃ as : List Aspect, aspects = as.map .inl ∧ out = seen ++ as := by
  induction aspects generalizing seen with
  | nil =>
      cases h
      exact ⟨[], rfl, by simp⟩
  | cons x rest ih =>
      cases x with
      | inr v => cases h
      | inl a =>
          simp only [checkExplicit] at h
          split at h
          · cases h
          · split at h
            · cases h
            · split at h
              · cases h
              · obtain ⟨as, rfl, rfl⟩ := ih h
                exact ⟨a :: as, rfl, by simp⟩

section

variable {p : String → Bool}

-- Entering an aspect for a key that does not count leaves the aspects that do.
theorem filter_enter {table : List (String × Aspect)} (htable : ∀ e ∈ table, e.1 = e.2.key)
    {a : Aspect} (ha : p a.key = false) :
    (∀ e ∈ enter table a, e.1 = e.2.key) ∧
      ((enter table a).map (·.2)).filter (p ·.key) = (table.map (·.2)).filter (p ·.key) := by
  induction table with
  | nil => simp [enter, ha]
  | cons e table ih =>
      obtain ⟨k, b⟩ := e
      obtain ⟨hkeys, hfilter⟩ := ih fun e he => htable e (List.mem_cons_of_mem _ he)
      have hk : k = b.key := htable (k, b) List.mem_cons_self
      by_cases h : k = a.key
      · have hb : p b.key = false := by rw [← hk, h, ha]
        refine ⟨?_, by simp [enter, h, ha, hb]⟩
        intro e he
        simp only [enter, h, beq_self_eq_true, if_true, List.mem_cons] at he
        rcases he with rfl | he
        · rfl
        · exact htable e (List.mem_cons_of_mem _ he)
      · refine ⟨?_, by simp [enter, h, List.filter_cons, hfilter]⟩
        intro e he
        simp only [enter, beq_iff_eq, h, if_false, List.mem_cons] at he
        rcases he with rfl | he
        · exact hk
        · exact hkeys e he

theorem filter_replaceAll {table out : List (String × Aspect)}
    (htable : ∀ e ∈ table, e.1 = e.2.key) {aspects : List (Aspect ⊕ Value)}
    (haspects : ∀ a, .inl a ∈ aspects → p a.key = false)
    (h : replaceAll table aspects = .ok out) :
    (out.map (·.2)).filter (p ·.key) = (table.map (·.2)).filter (p ·.key) := by
  induction aspects generalizing table with
  | nil =>
      cases h
      rfl
  | cons x rest ih =>
      cases x with
      | inr v => cases h
      | inl a =>
          obtain ⟨hkeys, hfilter⟩ := filter_enter htable (haspects a List.mem_cons_self)
          rw [← hfilter]
          exact ih hkeys (fun b hb => haspects b (List.mem_cons_of_mem _ hb)) h

theorem filter_eraseDups (xs : List String) :
    xs.eraseDups.filter p = (xs.filter p).eraseDups := by
  induction hn : xs.length using Nat.strongRecOn generalizing xs with
  | ind n ih =>
      cases xs with
      | nil => rfl
      | cons x xs =>
          have hlt : (xs.filter fun y => !y == x).length < n := by
            have := List.length_filter_le (fun y => !y == x) xs
            simp only [List.length_cons] at hn
            omega
          rw [List.eraseDups_cons, List.filter_cons, List.filter_cons, ih _ hlt _ rfl]
          cases hx : p x with
          | true =>
              simp only [if_true, List.eraseDups_cons, List.filter_filter, Bool.and_comm]
          | false =>
              simp only [Bool.false_eq_true, if_false, List.filter_filter]
              congr 1
              apply List.filter_congr
              intro y _
              cases hy : p y with
              | false => rfl
              | true =>
                  have : y ≠ x := by
                    rintro rfl
                    rw [hx] at hy
                    cases hy
                  simp [this]

theorem eraseDups_of_nodup {xs : List String} (h : xs.Nodup) : xs.eraseDups = xs := by
  induction xs with
  | nil => rfl
  | cons x xs ih =>
      rw [List.nodup_cons] at h
      have hfilter : xs.filter (fun y => !y == x) = xs := by
        rw [List.filter_eq_self]
        intro y hy
        have : y ≠ x := by
          rintro rfl
          exact h.1 hy
        simp [this]
      rw [List.eraseDups_cons, hfilter, ih h.2]

end

-- The step of a key.
def step? (l : Language) (key : String) : Option (String × Aspect) :=
  (l.aspect? key).map fun a => (key, a)

theorem filter_filterMap_step? (l : Language) (p : String → Bool) (ks : List String) :
    (ks.filterMap l.step?).filter (p ·.1) = (ks.filter p).filterMap l.step? := by
  induction ks with
  | nil => rfl
  | cons k ks ih =>
      rw [List.filterMap_cons, List.filter_cons]
      cases ha : l.aspect? k with
      | none => cases hp : p k <;> simpa [step?, ha] using ih
      | some a => cases hp : p k <;> simpa [step?, ha, hp] using ih

namespace Declared

variable {keys : List Value} {bindingKey grammar : Value} {aspects : List (Aspect ⊕ Value)}
  {l : Language} {ms : Markers} {ns bs ss : List String}

-- The last of these aspects with a key answers to it.
theorem aspect?_eq (h : Declared keys bindingKey grammar aspects l ms ns bs ss) (k : String) :
    l.aspect? k = (ns.map (Aspect.ofNamespace 0) ++ bs.map (Aspect.ofBindingForm 0)
      ++ l.explicit ++ ss.map (Aspect.ofSequence 0)).reverse.find? (·.key = k) := by
  rw [aspect?, h.table, lookup?_foldl_enter]
  simp [lookup?]

theorem noted (h : Declared keys bindingKey grammar aspects l ms ns bs ss) :
    Markers.Noted [] ms :=
  Markers.noted_walk h.markers

-- Namespaces come before all other keys, which are in the order of their first mention.
theorem order_eq (h : Declared keys bindingKey grammar aspects l ms ns bs ss) :
    l.order = ns ++ ((l.explicit.map (·.key) ++ ss ++ bs).removeAll ns).eraseDups := by
  rw [h.order, unique, List.append_assoc, List.append_assoc, ← List.append_assoc _ ss bs,
    List.eraseDups_append, eraseDups_of_nodup (Markers.nodup_of_keysOf h.noted h.namespaces)]

-- The binding key stands between the namespaces and all other keys.
theorem steps_eq (h : Declared keys bindingKey grammar aspects l ms ns bs ss) :
    l.steps = ns.filterMap l.step? ++ (l.bindingKey, l.bindingAspect) ::
      ((l.explicit.map (·.key) ++ ss ++ bs).removeAll ns).eraseDups.filterMap l.step? := by
  have hlength : (ns.filterMap l.step?).length = ns.length := by
    rw [List.filterMap_length_eq_length]
    intro k hk
    rw [step?, Option.isSome_map, h.aspect?_eq, List.find?_isSome]
    have hmem : Aspect.ofNamespace 0 k ∈ ns.map (Aspect.ofNamespace 0) := List.mem_map_of_mem hk
    exact ⟨.ofNamespace 0 k, by simp [hmem], by simp [Aspect.ofNamespace]⟩
  have hordered : l.ordered = ns.filterMap l.step? ++
      ((l.explicit.map (·.key) ++ ss ++ bs).removeAll ns).eraseDups.filterMap l.step? := by
    rw [← List.filterMap_append, ← h.order_eq]
    rfl
  rw [steps, hordered, h.bindingIndex, ← hlength, List.take_left, List.drop_left]

end Declared

section

variable {p : String → Bool}

-- Keys that were added to others and do not count make no difference.
theorem filter_of_map_str_eq {ks ks' : List String} {vs : List Value}
    (h : ks'.map Value.str = ks.map Value.str ++ vs) (hp : ∀ k, .str k ∈ vs → p k = false) :
    ks'.filter p = ks.filter p := by
  obtain ⟨first, rest, rfl, hfirst, rfl⟩ := List.map_eq_append_iff.mp h
  have hks : first = ks := (List.map_inj_right fun _ _ => Value.str.inj).mp hfirst
  have hrest : rest.filter p = [] := by
    rw [List.filter_eq_nil_iff]
    intro k hk
    rw [hp k (List.mem_map_of_mem hk)]
    simp
  rw [hks, List.filter_append, hrest, List.append_nil]

theorem find?_eq_of_filter_eq {as as' : List Aspect}
    (h : as'.filter (p ·.key) = as.filter (p ·.key)) {k : String} (hk : p k = true) :
    as'.reverse.find? (·.key = k) = as.reverse.find? (·.key = k) := by
  have hfind : ∀ as : List Aspect,
      as.reverse.find? (·.key = k) = (as.filter (p ·.key)).reverse.find? (·.key = k) := by
    intro as
    rw [← List.filter_reverse, List.find?_filter]
    congr 1
    funext a
    by_cases ha : a.key = k
    · simp [ha, hk]
    · simp [ha]
  rw [hfind as', h, ← hfind as]

theorem filter_removeAll (xs ns : List String) :
    (xs.removeAll ns).filter p = (xs.filter p).removeAll (ns.filter p) := by
  unfold List.removeAll
  rw [List.filter_filter, List.filter_filter]
  apply List.filter_congr
  intro x _
  cases hx : p x with
  | false => simp
  | true => simp [hx]

end

-- What an accepted extension declares.
theorem extend_eq_ok {l l' : Language} {keys grammar : Value} {aspects : List (Aspect ⊕ Value)}
    (h : l.extend keys grammar aspects = .ok l') :
    ∃ old new table more, l.grammar = .map old ∧ (new = [] ∨ grammar = .map new) ∧
      replaceAll (l.explicit.map fun a => (a.key, a)) aspects = .ok table ∧
      declare (l.allowed ++ more) (.str l.bindingKey) (.map (Value.insertAll old new))
        (table.map fun e => .inl e.2) = .ok l' := by
  have hentries : ∀ {v es}, grammarEntries v = .ok es → v = .map es := by
    intro v es h
    cases v <;> cases h
    rfl
  unfold extend at h
  obtain ⟨old, hold, h⟩ := exists_of_bind_eq_ok h
  have hnew : ∃ new, (new = [] ∨ grammar = .map new) ∧ (do
      let table ← replaceAll (l.explicit.map fun a => (a.key, a)) aspects
      let more ← keys.spread
      declare (l.allowed ++ more) (.str l.bindingKey) (.map (Value.insertAll old new))
        (table.map fun e => .inl e.2)) = Except.ok l' := by
    by_cases ht : grammar.truthy = true
    · rw [if_pos ht] at h
      obtain ⟨new, hnew, h⟩ := exists_of_bind_eq_ok h
      exact ⟨new, .inr (hentries hnew), h⟩
    · rw [if_neg ht] at h
      exact ⟨[], .inl rfl, h⟩
  obtain ⟨new, hnew, h⟩ := hnew
  obtain ⟨table, htable, h⟩ := exists_of_bind_eq_ok h
  obtain ⟨more, -, h⟩ := exists_of_bind_eq_ok h
  exact ⟨old, new, table, more, hentries hold, hnew, htable, h⟩

-- Two languages of which one has the aspects, keys and binding key of the other, as far as keys
-- count, walk through the same steps, as far as keys count.
theorem Declared.filter_steps_eq {keys keys' : List Value} {bindingKey grammar grammar' : Value}
    {aspects aspects' : List (Aspect ⊕ Value)} {l l' : Language} {ms ms' : Markers}
    {ns ns' bs bs' ss ss' : List String}
    (h : Declared keys bindingKey grammar aspects l ms ns bs ss)
    (h' : Declared keys' (.str l.bindingKey) grammar' aspects' l' ms' ns' bs' ss')
    {p : String → Bool} (hns : ns'.filter p = ns.filter p) (hbs : bs'.filter p = bs.filter p)
    (hss : ss'.filter p = ss.filter p)
    (hexplicit : l'.explicit.filter (p ·.key) = l.explicit.filter (p ·.key)) :
    l'.steps.filter (p ·.1) = l.steps.filter (p ·.1) := by
  have hmap : ∀ (f : String → Aspect), (∀ k, (f k).key = k) → ∀ ks : List String,
      (ks.map f).filter (p ·.key) = (ks.filter p).map f := by
    intro f hf ks
    rw [List.filter_map]
    congr 1
    apply List.filter_congr
    intro k _
    simp [hf]
  have haspect : ∀ k, p k = true → l'.step? k = l.step? k := by
    intro k hk
    unfold step?
    rw [h.aspect?_eq, h'.aspect?_eq]
    refine congrArg _ (find?_eq_of_filter_eq ?_ hk)
    simp only [List.filter_append, hexplicit, hmap (.ofNamespace 0) fun _ => rfl,
      hmap (.ofBindingForm 0) fun _ => rfl, hmap (.ofSequence 0) fun _ => rfl, hns, hbs, hss]
  have hsteps : ∀ {ks ks' : List String}, ks'.filter p = ks.filter p →
      (ks'.filterMap l'.step?).filter (p ·.1) = (ks.filterMap l.step?).filter (p ·.1) := by
    intro ks ks' hks
    rw [filter_filterMap_step?, filter_filterMap_step?, hks]
    apply List.filterMap_congr
    intro k hk
    exact haspect k (List.mem_filter.mp hk).2
  have hkeys : (l'.explicit.map (·.key)).filter p = (l.explicit.map (·.key)).filter p := by
    rw [List.filter_map, List.filter_map]
    exact congrArg _ hexplicit
  have hrest : (((l'.explicit.map (·.key) ++ ss' ++ bs').removeAll ns').eraseDups).filter p =
      (((l.explicit.map (·.key) ++ ss ++ bs).removeAll ns).eraseDups).filter p := by
    simp only [filter_eraseDups, filter_removeAll, List.filter_append, hns, hkeys, hss, hbs]
  have hbinding : l'.bindingKey = l.bindingKey := Value.str.inj h'.bindingName.symm
  rw [h.steps_eq, h'.steps_eq, List.filter_append, List.filter_append, List.filter_cons,
    List.filter_cons, hsteps hns, hsteps hrest, bindingAspect, bindingAspect, hbinding]

-- The markers of a merged grammar go on where those of the old one end.
theorem Declared.exists_added {keys : List Value} {bindingKey grammar : Value}
    {aspects : List (Aspect ⊕ Value)} {l : Language} {ms ms' : Markers} {ns bs ss : List String}
    (h : Declared keys bindingKey grammar aspects l ms ns bs ss) {old new : List (Value × Value)}
    (hold : l.grammar = .map old) (hnone : ∀ f ∈ new, Value.find? old f.1 = none)
    (hms' : Markers.ofGrammar (.map (Value.insertAll old new)) = .ok ms') :
    ∃ added, ms' = ms ++ added ∧ ∀ e ∈ added, ms.find? e.1 = none := by
  have hsplit := Value.insertAll_of_find?_eq_none hnone []
  rw [List.append_nil] at hsplit
  rw [hsplit, Markers.ofGrammar, Markers.walk, Markers.walkEntries_append] at hms'
  obtain ⟨mid, hmid, hms'⟩ := exists_of_bind_eq_ok hms'
  have hms := h.markers
  rw [← h.grammar, hold, Markers.ofGrammar, Markers.walk, hmid] at hms
  cases hms
  obtain ⟨added, hadded, hnone', -⟩ := Markers.noted_walkEntries hms'
  exact ⟨added, hadded, hnone'⟩

-- The steps of an extended language whose keys are not fresh are the old ones, in the old order.
theorem filter_steps_extend {l l' : Language} {keys grammar : Value}
    {aspects : List (Aspect ⊕ Value)}
    (hl : ∃ ks bk g as, declare ks bk g as = .ok l) (hext : l.extend keys grammar aspects = .ok l')
    (hnew : ∀ es fs, l.grammar = .map es → grammar = .map fs →
      ∀ f ∈ fs, Value.find? es f.1 = none)
    {p : String → Bool} (hp : ∀ key, Fresh l l' aspects key → p key = false) :
    l'.steps.filter (p ·.1) = l.steps.filter (p ·.1) := by
  obtain ⟨ks, bk, g, as, hl⟩ := hl
  obtain ⟨ms, ns, bs, ss, hd⟩ := declare_eq_ok hl
  obtain ⟨old, new, table, more, hold, hnews, htable, hext⟩ := extend_eq_ok hext
  obtain ⟨ms', ns', bs', ss', hd'⟩ := declare_eq_ok hext
  have hnone : ∀ f ∈ new, Value.find? old f.1 = none := by
    rcases hnews with rfl | hgrammar
    · simp
    · exact hnew old new hold hgrammar
  obtain ⟨added, rfl, hadded⟩ := hd.exists_added hold hnone hd'.markers
  have hfresh : ∀ m k, .str k ∈ Markers.keysOf added m → p k = false := by
    intro m k hk
    obtain ⟨e, he, hek⟩ := List.mem_map.mp hk
    have hmem := (List.mem_filter.mp he).1
    refine hp k (.inl ⟨⟨_, hd'.grammar ▸ hd'.markers, ?_⟩, ?_⟩)
    · rw [Markers.find?_append, Option.isSome_or, Bool.or_eq_true]
      right
      rw [Markers.find?, Option.isSome_map, List.find?_isSome]
      exact ⟨e, hmem, by simp [hek, Value.same, Value.equal]⟩
    · rintro ⟨ms', hms', hsome⟩
      rw [hd.grammar, hd.markers] at hms'
      cases hms'
      rw [← hek, hadded e hmem] at hsome
      cases hsome
  refine hd.filter_steps_eq hd' ?_ ?_ ?_ ?_
  · refine filter_of_map_str_eq ?_ (hfresh .nameSpace)
    rw [← hd'.namespaces, ← hd.namespaces, Markers.keysOf_append]
  · have hbindings := hd'.bindings
    rw [Markers.keysOf_append, List.filter_append, ← hd.bindingName, hd.bindings] at hbindings
    refine filter_of_map_str_eq hbindings.symm ?_
    intro k hk
    exact hfresh .bindingForm k (List.mem_filter.mp hk).1
  · refine filter_of_map_str_eq ?_ (hfresh .sequenceOf)
    rw [← hd'.sequences, ← hd.sequences, Markers.keysOf_append]
  · obtain ⟨explicit, hmap, hexplicit⟩ := checkExplicit_eq_ok hd'.explicit
    have hmap' : (table.map (·.2)).map (Sum.inl : Aspect → Aspect ⊕ Value) =
        explicit.map Sum.inl := by
      rw [List.map_map]
      exact hmap
    have htable' : table.map (·.2) = explicit :=
      (List.map_inj_right fun _ _ => Sum.inl.inj).mp hmap'
    rw [hexplicit, List.nil_append, ← htable', filter_replaceAll _ _ htable]
    · simp [Function.comp_def]
    · simp
    · intro a ha
      exact hp a.key (.inr ⟨a, ha, rfl⟩)

end Language

end Dialect
