import Dialect.Language

namespace Dialect

-- A sequence of two parts that may fail succeeds only if both do.
theorem exists_of_bind_eq_ok {ε α β : Type} {x : Except ε α} {f : α → Except ε β} {b : β}
    (h : (x >>= f) = .ok b) : ∃ a, x = .ok a ∧ f a = .ok b := by
  cases x with
  | error e => cases h
  | ok a => exact ⟨a, rfl, h⟩

theorem Aspect.keyOf_eq_ok {v : Value} {s : String} (h : Aspect.keyOf v = .ok s) : v = .str s := by
  cases v <;> simp only [Aspect.keyOf, Except.ok.injEq, reduceCtorEq] at h
  rw [h]

-- Keys that were read as texts are texts.
theorem Aspect.mapM_keyOf_eq_ok {vs : List Value} {ks : List String}
    (h : vs.mapM Aspect.keyOf = .ok ks) : vs = ks.map .str := by
  induction vs generalizing ks with
  | nil =>
      cases h
      rfl
  | cons v vs ih =>
      rw [List.mapM_cons] at h
      obtain ⟨k, hk, h⟩ := exists_of_bind_eq_ok h
      obtain ⟨rest, hrest, h⟩ := exists_of_bind_eq_ok h
      cases h
      rw [keyOf_eq_ok hk, ih hrest]
      rfl

namespace Language

theorem lookup?_enter (table : List (String × Aspect)) (a : Aspect) (key : String) :
    lookup? (enter table a) key = if a.key = key then some a else lookup? table key := by
  induction table with
  | nil =>
      by_cases h : a.key = key <;> simp [enter, lookup?, h]
  | cons head rest ih =>
      obtain ⟨k, b⟩ := head
      unfold lookup? at ih ⊢
      by_cases hk : k = a.key
      · subst hk
        by_cases h : a.key = key <;> simp [enter, h]
      · by_cases hkey : k = key
        · subst hkey
          simp [enter, hk, Ne.symm hk]
        · simpa [enter, hk, hkey] using ih

-- In a table that was filled one after the other, the last aspect of a key answers to it.
theorem lookup?_foldl_enter (aspects : List Aspect) (table : List (String × Aspect))
    (key : String) :
    lookup? (aspects.foldl enter table) key =
      (aspects.reverse.find? (·.key = key)).or (lookup? table key) := by
  induction aspects generalizing table with
  | nil => rfl
  | cons a rest ih =>
      rw [List.foldl_cons, ih, lookup?_enter, List.reverse_cons, List.find?_append]
      cases rest.reverse.find? (·.key = key) with
      | some b => rfl
      | none => by_cases h : a.key = key <;> simp [h]

-- The parts of an accepted declaration, which `declare_eq_ok` takes apart once and for all.
structure Declared (keys : List Value) (bindingKey grammar : Value)
    (aspects : List (Aspect ⊕ Value)) (l : Language) (ms : Markers) (ns bs ss : List String) :
    Prop where
  allowed : allowedKeys keys = .ok l.allowed
  bindingAllowed : isAllowed l.allowed bindingKey = true
  explicit : checkExplicit l.allowed bindingKey [] aspects = .ok l.explicit
  markers : Markers.ofGrammar grammar = .ok ms
  marked : checkMarked l.allowed ms = .ok ()
  binding : checkBinding bindingKey ms = .ok ()
  namespaces : ms.keysOf .nameSpace = ns.map .str
  bindings : (ms.keysOf .bindingForm).filter (fun k => !k.equal bindingKey) = bs.map .str
  sequences : ms.keysOf .sequenceOf = ss.map .str
  bindingName : bindingKey = .str l.bindingKey
  grammar : l.grammar = grammar
  table : l.table = (ns.map (Aspect.ofNamespace 0) ++ bs.map (Aspect.ofBindingForm 0)
    ++ l.explicit ++ ss.map (Aspect.ofSequence 0)).foldl enter []
  order : l.order = unique (ns ++ l.explicit.map (·.key) ++ ss ++ bs)
  bindingIndex : l.bindingIndex = ns.length

theorem declare_eq_ok {keys : List Value} {bindingKey grammar : Value}
    {aspects : List (Aspect ⊕ Value)} {l : Language}
    (h : declare keys bindingKey grammar aspects = .ok l) :
    ∃ ms ns bs ss, Declared keys bindingKey grammar aspects l ms ns bs ss := by
  unfold declare at h
  obtain ⟨allowed, hallowed, h⟩ := exists_of_bind_eq_ok h
  by_cases hb : isAllowed allowed bindingKey = true
  case neg =>
    rw [if_neg hb] at h
    cases h
  rw [if_pos hb] at h
  obtain ⟨-, -, h⟩ := exists_of_bind_eq_ok h
  obtain ⟨explicit, hexplicit, h⟩ := exists_of_bind_eq_ok h
  obtain ⟨markers, hmarkers, h⟩ := exists_of_bind_eq_ok h
  obtain ⟨⟨⟩, hmarked, h⟩ := exists_of_bind_eq_ok h
  obtain ⟨⟨⟩, hbinding, h⟩ := exists_of_bind_eq_ok h
  obtain ⟨namespaces, hn, h⟩ := exists_of_bind_eq_ok h
  obtain ⟨bindings, hbs, h⟩ := exists_of_bind_eq_ok h
  obtain ⟨sequences, hs, h⟩ := exists_of_bind_eq_ok h
  obtain ⟨key, hkey, h⟩ := exists_of_bind_eq_ok h
  cases h
  exact ⟨markers, namespaces, bindings, sequences, hallowed, hb, hexplicit, hmarkers, hmarked,
    hbinding, Aspect.mapM_keyOf_eq_ok hn, Aspect.mapM_keyOf_eq_ok hbs, Aspect.mapM_keyOf_eq_ok hs,
    Aspect.keyOf_eq_ok hkey, rfl, rfl, rfl, rfl⟩

-- A language that was declared without explicit aspects.
def Plain (l : Language) : Prop :=
  ∃ keys bindingKey grammar, declare keys bindingKey grammar [] = .ok l

end Language

-- The aspects that languages derive from the markers of their grammars.
inductive Aspect.Synthetic (key : String) : Aspect → Prop where
  | nameSpace : Synthetic key (.ofNamespace 0 key)
  | bindingForm : Synthetic key (.ofBindingForm 0 key)
  | sequence : Synthetic key (.ofSequence 0 key)

namespace Language

theorem mem_steps {l : Language} {key : String} {a : Aspect} (h : (key, a) ∈ l.steps) :
    l.aspect? key = some a ∨ key = l.bindingKey ∧ a = .ofBindingForm 0 key := by
  unfold steps at h
  rw [List.mem_append, List.mem_cons] at h
  have hordered : (key, a) ∈ l.ordered → l.aspect? key = some a := by
    intro h
    obtain ⟨k, -, hk⟩ := List.mem_filterMap.mp h
    obtain ⟨b, hb, he⟩ := Option.map_eq_some_iff.mp hk
    cases he
    exact hb
  rcases h with h | h | h
  · exact .inl (hordered (List.mem_of_mem_take h))
  · cases h
    exact .inr ⟨rfl, rfl⟩
  · exact .inl (hordered (List.mem_of_mem_drop h))

-- A step of a declared language is synthetic, or one of the explicit aspects.
theorem Declared.synthetic_or_explicit {keys : List Value} {bindingKey grammar : Value}
    {aspects : List (Aspect ⊕ Value)} {l : Language} {ms : Markers} {ns bs ss : List String}
    (hd : Declared keys bindingKey grammar aspects l ms ns bs ss) {key : String} {a : Aspect}
    (hstep : (key, a) ∈ l.steps) : a.Synthetic key ∨ a ∈ l.explicit := by
  rcases mem_steps hstep with ha | ⟨rfl, rfl⟩
  case inr => exact .inl .bindingForm
  rw [aspect?, hd.table, lookup?_foldl_enter] at ha
  -- Every aspect of the table was made for the key it stands under.
  simp only [List.find?_nil, lookup?, Option.map_none, Option.or_none] at ha
  have hkey : a.key = key := by simpa using List.find?_some ha
  have hmem := List.mem_of_find?_eq_some ha
  simp only [List.mem_reverse, List.mem_append, List.mem_map] at hmem
  rcases hmem with ((⟨k, -, rfl⟩ | ⟨k, -, rfl⟩) | hexplicit) | ⟨k, -, rfl⟩
  · cases hkey
    exact .inl .nameSpace
  · cases hkey
    exact .inl .bindingForm
  · exact .inr hexplicit
  · cases hkey
    exact .inl .sequence

theorem Plain.synthetic {l : Language} (h : l.Plain) {key : String} {a : Aspect}
    (hstep : (key, a) ∈ l.steps) : a.Synthetic key := by
  obtain ⟨keys, bindingKey, grammar, hl⟩ := h
  obtain ⟨ms, ns, bs, ss, hd⟩ := declare_eq_ok hl
  have hexplicit : l.explicit = [] := (Except.ok.inj hd.explicit).symm
  rcases hd.synthetic_or_explicit hstep with ha | ha
  · exact ha
  · rw [hexplicit] at ha
    cases ha

end Language

end Dialect
