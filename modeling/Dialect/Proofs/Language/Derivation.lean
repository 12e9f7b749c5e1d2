import Dialect.Macro
import Dialect.Pipeline.Language
import Dialect.Proofs.Language.Order

namespace Dialect

namespace Markers

-- The mark a grammar entry makes, if there is one.
def mark (key term : Value) : Markers :=
  match ofTerm term with
  | .ok (some m) => [(key, m)]
  | _ => []

mutual

-- All places of a grammar at which a key is marked, in the order of the walk.
def occurrences : Value → Markers
  | .list xs => occurrencesAll xs
  | .tuple xs => occurrencesAll xs
  | .map es => occurrencesEntries es
  | _ => []

def occurrencesAll : List Value → Markers
  | [] => []
  | v :: vs => occurrences v ++ occurrencesAll vs

def occurrencesEntries : List (Value × Value) → Markers
  | [] => []
  | (k, term) :: es => mark k term ++ occurrences term ++ occurrencesEntries es

end

-- Adds an occurrence of a key that was not met before.
def keep (found : Markers) (e : Value × Marker) : Markers :=
  if (found.find? e.1).isSome then found else found ++ [e]

-- Of the occurrences of a key, the first.
def firsts (ms : Markers) : Markers := ms.foldl keep []

-- The texts among the keys of one marker.
def names (ms : Markers) (m : Marker) : List String :=
  (ms.keysOf m).filterMap fun
    | .str k => some k
    | _ => none

theorem note_eq_ok {found out : Markers} {k term : Value} {m : Option Marker}
    (hm : ofTerm term = .ok m) (h : note found k m = .ok out) :
    out = (mark k term).foldl keep found := by
  cases m with
  | none =>
      cases h
      simp [mark, hm]
  | some m =>
      rw [note] at h
      cases hf : found.find? k with
      | none =>
          rw [hf] at h
          cases h
          simp [mark, hm, keep, hf]
      | some first =>
          simp only [hf] at h
          split at h
          · cases h
            simp [mark, hm, keep, hf]
          · cases h

mutual

-- A walk that succeeds keeps the first occurrences.
theorem walk_eq_ok {found out : Markers} {v : Value} (h : walk found v = .ok out) :
    out = (occurrences v).foldl keep found := by
  cases v with
  | list xs =>
      rw [walk] at h
      exact walkAll_eq_ok h
  | tuple xs =>
      rw [walk] at h
      exact walkAll_eq_ok h
  | map es =>
      rw [walk] at h
      exact walkEntries_eq_ok h
  | _ =>
      simp only [walk, Except.ok.injEq] at h
      simp [occurrences, h]

theorem walkAll_eq_ok {found out : Markers} {vs : List Value} (h : walkAll found vs = .ok out) :
    out = (occurrencesAll vs).foldl keep found := by
  cases vs with
  | nil =>
      rw [walkAll] at h
      cases h
      rfl
  | cons v vs =>
      rw [walkAll] at h
      obtain ⟨mid, hv, hvs⟩ := exists_of_bind_eq_ok h
      rw [occurrencesAll, List.foldl_append, ← walk_eq_ok hv]
      exact walkAll_eq_ok hvs

theorem walkEntries_eq_ok {found out : Markers} {es : List (Value × Value)}
    (h : walkEntries found es = .ok out) : out = (occurrencesEntries es).foldl keep found := by
  cases es with
  | nil =>
      rw [walkEntries] at h
      cases h
      rfl
  | cons e es =>
      obtain ⟨k, term⟩ := e
      rw [walkEntries] at h
      obtain ⟨m, hm, h⟩ := exists_of_bind_eq_ok h
      obtain ⟨noted, hnote, h⟩ := exists_of_bind_eq_ok h
      obtain ⟨mid, hterm, h⟩ := exists_of_bind_eq_ok h
      rw [occurrencesEntries, List.foldl_append, List.foldl_append, ← note_eq_ok hm hnote,
        ← walk_eq_ok hterm]
      exact walkEntries_eq_ok h

end

-- The marker of a key stays what it is.
theorem Noted.find?_eq_some {found out : Markers} (h : Noted found out) {k : Value} {m : Marker}
    (hk : found.find? k = some m) : out.find? k = some m := by
  obtain ⟨new, rfl, -, -⟩ := h
  rw [find?_append, hk]
  rfl

theorem find?_of_note {found out : Markers} {key : String} {m : Marker}
    (h : note found (.str key) (some m) = .ok out) : out.find? (.str key) = some m := by
  rw [note] at h
  cases hf : found.find? (.str key) with
  | none =>
      rw [hf] at h
      cases h
      rw [find?_append, hf]
      simp [find?, Value.same_str_iff.mpr]
  | some first =>
      simp only [hf] at h
      split at h
      case isTrue hm =>
        cases h
        rw [hf, hm]
      case isFalse => cases h

mutual

-- A grammar that passes the walk marks a key in the same way wherever it marks it.
theorem find?_of_walk {found out : Markers} {v : Value} (h : walk found v = .ok out)
    {key : String} {m : Marker} (hmem : (.str key, m) ∈ occurrences v) :
    out.find? (.str key) = some m := by
  cases v with
  | list xs =>
      rw [walk] at h
      exact find?_of_walkAll h hmem
  | tuple xs =>
      rw [walk] at h
      exact find?_of_walkAll h hmem
  | map es =>
      rw [walk] at h
      exact find?_of_walkEntries h hmem
  | _ => simp [occurrences] at hmem

theorem find?_of_walkAll {found out : Markers} {vs : List Value}
    (h : walkAll found vs = .ok out) {key : String} {m : Marker}
    (hmem : (.str key, m) ∈ occurrencesAll vs) : out.find? (.str key) = some m := by
  cases vs with
  | nil => cases hmem
  | cons v vs =>
      rw [walkAll] at h
      obtain ⟨mid, hv, hvs⟩ := exists_of_bind_eq_ok h
      rcases List.mem_append.mp hmem with hmem | hmem
      · exact (noted_walkAll hvs).find?_eq_some (find?_of_walk hv hmem)
      · exact find?_of_walkAll hvs hmem

theorem find?_of_walkEntries {found out : Markers} {es : List (Value × Value)}
    (h : walkEntries found es = .ok out) {key : String} {m : Marker}
    (hmem : (.str key, m) ∈ occurrencesEntries es) : out.find? (.str key) = some m := by
  cases es with
  | nil => cases hmem
  | cons e es =>
      obtain ⟨k, term⟩ := e
      rw [walkEntries] at h
      obtain ⟨m', hm', h⟩ := exists_of_bind_eq_ok h
      obtain ⟨noted, hnote, h⟩ := exists_of_bind_eq_ok h
      obtain ⟨mid, hterm, h⟩ := exists_of_bind_eq_ok h
      have hlater := (noted_walk hterm).trans (noted_walkEntries h)
      rw [occurrencesEntries, List.mem_append, List.mem_append] at hmem
      rcases hmem with (hmem | hmem) | hmem
      · cases m' with
        | none => simp [mark, hm'] at hmem
        | some first =>
            simp only [mark, hm', List.mem_singleton, Prod.mk.injEq] at hmem
            obtain ⟨rfl, rfl⟩ := hmem
            exact hlater.find?_eq_some (find?_of_note hnote)
      · exact (noted_walkEntries h).find?_eq_some (find?_of_walk hterm hmem)
      · exact find?_of_walkEntries h hmem

end

theorem mem_of_mem_foldl_keep {found ms : Markers} {e : Value × Marker}
    (h : e ∈ ms.foldl keep found) : e ∈ found ∨ e ∈ ms := by
  induction ms generalizing found with
  | nil => exact .inl h
  | cons first ms ih =>
      rcases ih h with h | h
      · rw [keep] at h
        split at h
        · exact .inl h
        · rcases List.mem_append.mp h with h | h
          · exact .inl h
          · exact .inr (List.mem_cons.mpr (.inl (List.mem_singleton.mp h)))
      · exact .inr (List.mem_cons_of_mem _ h)

theorem mem_of_find?_eq_some {ms : Markers} {key : String} {m : Marker}
    (h : ms.find? (.str key) = some m) : (.str key, m) ∈ ms := by
  obtain ⟨⟨k, m'⟩, he, hm⟩ := Option.map_eq_some_iff.mp h
  have hk : (Value.str key).same k = true := by simpa using List.find?_some he
  cases hm
  rw [← Value.same_str_iff.mp hk]
  exact List.mem_of_find?_eq_some he

-- The markers that a grammar gives to texts are those of all its occurrences.
theorem find?_eq_some_iff {grammar : Value} {ms : Markers} (h : ofGrammar grammar = .ok ms)
    {key : String} {m : Marker} :
    ms.find? (.str key) = some m ↔ (.str key, m) ∈ occurrences grammar := by
  constructor
  · intro hfind
    have hmem := mem_of_find?_eq_some hfind
    rw [walk_eq_ok h] at hmem
    exact (mem_of_mem_foldl_keep hmem).resolve_left (by simp)
  · exact find?_of_walk h

theorem names_eq {ms : Markers} {m : Marker} {ks : List String}
    (h : ms.keysOf m = ks.map .str) : ms.names m = ks := by
  simp [names, h, List.filterMap_map]

theorem mem_names_iff {ms : Markers} (h : Noted [] ms) {m : Marker} {key : String} :
    key ∈ ms.names m ↔ ms.find? (.str key) = some m := by
  have hmem : key ∈ ms.names m ↔ (.str key, m) ∈ ms := by
    simp only [names, keysOf, List.mem_filterMap, List.mem_map, List.mem_filter, beq_iff_eq]
    constructor
    · rintro ⟨v, ⟨⟨k, m'⟩, ⟨he, rfl⟩, rfl⟩, hv⟩
      cases k <;> cases hv
      exact he
    · intro he
      exact ⟨.str key, ⟨(.str key, m), ⟨he, rfl⟩, rfl⟩, rfl⟩
  rw [hmem]
  exact ⟨find?_of_mem h, mem_of_find?_eq_some⟩

end Markers

namespace Language

section

variable {table : List (String × Aspect)} {as : List Aspect} {key : String}

theorem keys_enter (table : List (String × Aspect)) (a : Aspect) :
    (enter table a).map (·.1) =
      if a.key ∈ table.map (·.1) then table.map (·.1) else table.map (·.1) ++ [a.key] := by
  induction table with
  | nil => simp [enter]
  | cons e table ih =>
      obtain ⟨k, b⟩ := e
      by_cases hk : k = a.key
      · simp [enter, hk]
      · simp only [enter, beq_iff_eq, hk, if_false, List.map_cons, ih, List.mem_cons,
          Ne.symm hk, false_or]
        split <;> simp

theorem nodup_foldl_enter (h : (table.map (·.1)).Nodup) :
    ((as.foldl enter table).map (·.1)).Nodup := by
  induction as generalizing table with
  | nil => exact h
  | cons a as ih =>
      refine ih ?_
      rw [keys_enter]
      split
      · exact h
      · rename_i hnew
        rw [← List.concat_eq_append]
        exact h.concat hnew

theorem mem_foldl_enter : key ∈ (as.foldl enter table).map (·.1) ↔
    key ∈ table.map (·.1) ∨ key ∈ as.map (·.key) := by
  induction as generalizing table with
  | nil => simp
  | cons a as ih =>
      rw [List.foldl_cons, ih, keys_enter, List.map_cons, List.mem_cons, ← or_assoc]
      refine or_congr_left ?_
      split
      · constructor
        · exact .inl
        · rintro (h | rfl) <;> assumption
      · simp

-- Entries of a table that was filled key by key stand under the keys of their aspects.
theorem key_foldl_enter (h : ∀ e ∈ table, e.2.key = e.1) :
    ∀ e ∈ as.foldl enter table, e.2.key = e.1 := by
  induction as generalizing table with
  | nil => exact h
  | cons a as ih =>
      have hall : ∀ e ∈ table, e.1 = e.2.key := fun e he => (h e he).symm
      exact ih fun e he => ((filter_enter (p := fun k => k != a.key) hall (by simp)).1 e he).symm

theorem find?_reverse_map {f : String → Aspect} (hf : ∀ k, (f k).key = k) (ks : List String)
    (key : String) :
    (ks.map f).reverse.find? (·.key = key) = if key ∈ ks then some (f key) else none := by
  induction ks with
  | nil => rfl
  | cons k ks ih =>
      rw [List.map_cons, List.reverse_cons, List.find?_append, ih]
      by_cases hmem : key ∈ ks
      · simp [hmem]
      · by_cases hk : k = key
        · simp [hmem, hk, hf]
        · simp [hmem, hk, hf, Ne.symm hk]

theorem find?_reverse_of_mem (h : (as.map (·.key)).Nodup) {a : Aspect} (ha : a ∈ as) :
    as.reverse.find? (·.key = a.key) = some a := by
  obtain ⟨b, hb⟩ := Option.isSome_iff_exists.mp
    (List.find?_isSome.mpr ⟨a, List.mem_reverse.mpr ha, by simp⟩ :
      (as.reverse.find? (·.key = a.key)).isSome)
  have hkey : b.key = a.key := by simpa using List.find?_some hb
  have hmem : b ∈ as := List.mem_reverse.mp (List.mem_of_find?_eq_some hb)
  rw [hb, List.inj_on_of_nodup_map h hmem ha hkey]

theorem find?_reverse_eq_none (h : key ∉ as.map (·.key)) :
    as.reverse.find? (·.key = key) = none := by
  rw [List.find?_eq_none]
  intro a ha
  simp only [decide_eq_true_eq]
  rintro rfl
  exact h (List.mem_map_of_mem (List.mem_reverse.mp ha))

end

-- Keys that come after others, without repetition, are those that are not among the others.
theorem unique_append (xs : List String) {ys : List String} (hy : ys.Nodup) :
    unique (xs ++ ys) = unique xs ++ ys.removeAll xs := by
  have hrest : (ys.removeAll xs).Nodup := hy.filter _
  rw [unique, unique, List.eraseDups_append, eraseDups_of_nodup hrest]

-- Explicit aspects that pass the check have allowed keys, all different and none the binding key.
theorem keys_of_checkExplicit {allowed : List Value} {bindingKey : String} {seen out : List Aspect}
    {aspects : List (Aspect ⊕ Value)} (hseen : (seen.map (·.key)).Nodup)
    (h : checkExplicit allowed (.str bindingKey) seen aspects = .ok out) :
    (out.map (·.key)).Nodup ∧ ∀ a ∈ out, a ∈ seen ∨
      a.key ≠ bindingKey ∧ isAllowed allowed (.str a.key) = true := by
  induction aspects generalizing seen with
  | nil =>
      cases h
      exact ⟨hseen, fun a ha => .inl ha⟩
  | cons x rest ih =>
      cases x with
      | inr v => cases h
      | inl a =>
          rw [checkExplicit] at h
          split at h
          case isTrue => cases h
          case isFalse hbinding =>
          split at h
          case isTrue => cases h
          case isFalse hallowed =>
          split at h
          case isTrue => cases h
          case isFalse hnew =>
          have hnodup : ((seen ++ [a]).map (·.key)).Nodup := by
            simp only [List.any_eq_true, beq_iff_eq, not_exists, not_and] at hnew
            rw [List.map_append, List.nodup_append]
            refine ⟨hseen, by simp, ?_⟩
            intro k hk k' hk'
            obtain ⟨b, hb, rfl⟩ := List.mem_map.mp hk
            obtain rfl : k' = a.key := by simpa using hk'
            exact hnew b hb
          obtain ⟨hout, hkeys⟩ := ih hnodup h
          refine ⟨hout, fun b hb => ?_⟩
          rcases hkeys b hb with hb | hb
          · rcases List.mem_append.mp hb with hb | hb
            · exact .inl hb
            · obtain rfl := List.mem_singleton.mp hb
              refine .inr ⟨?_, by simpa using hallowed⟩
              rintro rfl
              simp [Value.equal] at hbinding
          · exact .inr hb

-- The first occurrences of the keys that the grammar of a language marks.
def markers (l : Language) : Markers := Markers.firsts (Markers.occurrences l.grammar)

-- The binding forms but the binding key.
def bindingForms (l : Language) : List String :=
  (l.markers.names .bindingForm).filter (· ≠ l.bindingKey)

def explicitKeys (l : Language) : List String := l.explicit.map (·.key)

-- How the table, the firing order and the steps of a language hang together with the markers of
-- its grammar and its explicit aspects.
structure Arranged (l : Language) : Prop where
  -- a text has one marker, whatever place of the grammar marks it
  marked : ∀ k m, (.str k, m) ∈ Markers.occurrences l.grammar ↔ l.markers.find? (.str k) = some m
  -- the keys that get aspects are texts
  texts : ∀ m ∈ [Marker.nameSpace, .sequenceOf, .bindingForm],
    l.markers.keysOf m = (l.markers.names m).map .str
  nodup_order : l.order.Nodup
  nodup_table : (l.table.map (·.1)).Nodup
  mem_order_iff : ∀ k, k ∈ l.order ↔ k ∈ l.table.map (·.1)
  mem_table_iff : ∀ k, k ∈ l.table.map (·.1) ↔
    l.markers.find? (.str k) = some .nameSpace ∨ l.markers.find? (.str k) = some .sequenceOf ∨
      l.markers.find? (.str k) = some .bindingForm ∧ k ≠ l.bindingKey ∨ k ∈ l.explicitKeys
  key : ∀ e ∈ l.table, e.2.key = e.1
  ofSequence : ∀ k, l.markers.find? (.str k) = some .sequenceOf →
    l.aspect? k = some (.ofSequence 0 k)
  ofExplicit : ∀ a ∈ l.explicit, l.markers.find? (.str a.key) ≠ some .sequenceOf →
    l.aspect? a.key = some a
  ofNamespace : ∀ k, l.markers.find? (.str k) = some .nameSpace → k ∉ l.explicitKeys →
    l.aspect? k = some (.ofNamespace 0 k)
  ofBindingForm : ∀ k, l.markers.find? (.str k) = some .bindingForm → k ≠ l.bindingKey →
    k ∉ l.explicitKeys → l.aspect? k = some (.ofBindingForm 0 k)
  order_eq : l.order = l.markers.names .nameSpace ++
    l.explicitKeys.removeAll (l.markers.names .nameSpace) ++
    (l.markers.names .sequenceOf).removeAll (l.markers.names .nameSpace ++ l.explicitKeys) ++
    l.bindingForms.removeAll
      (l.markers.names .nameSpace ++ l.explicitKeys ++ l.markers.names .sequenceOf)
  -- every key of the order has a step, with the aspect that the table has for it
  steps_eq : ∃ before after,
    l.steps = before ++ (l.bindingKey, .ofBindingForm 0 l.bindingKey) :: after ∧
      before.map (·.1) = l.markers.names .nameSpace ∧
      before.map (·.1) ++ after.map (·.1) = l.order ∧
      ∀ e ∈ before ++ after, l.aspect? e.1 = some e.2
  nodup_steps : (l.steps.map (·.1)).Nodup
  allowed : ∀ e ∈ l.steps, isAllowed l.allowed (.str e.1) = true

namespace Declared

variable {keys : List Value} {bindingKey grammar : Value} {aspects : List (Aspect ⊕ Value)}
  {l : Language} {ms : Markers} {ns bs ss : List String}

theorem markers_eq (h : Declared keys bindingKey grammar aspects l ms ns bs ss) :
    l.markers = ms := by
  rw [Language.markers, h.grammar]
  exact (Markers.walk_eq_ok h.markers).symm

theorem keys_explicit (h : Declared keys bindingKey grammar aspects l ms ns bs ss) :
    l.explicitKeys.Nodup ∧ ∀ a ∈ l.explicit,
      a.key ≠ l.bindingKey ∧ isAllowed l.allowed (.str a.key) = true := by
  have hexplicit := h.explicit
  rw [h.bindingName] at hexplicit
  obtain ⟨hnodup, hkeys⟩ := keys_of_checkExplicit (by simp) hexplicit
  exact ⟨hnodup, fun a ha => (hkeys a ha).resolve_left (by simp)⟩

-- All binding forms are texts: the binding key is one, and the others were read as such.
theorem keysOf_bindingForm (h : Declared keys bindingKey grammar aspects l ms ns bs ss) :
    ms.keysOf .bindingForm = (ms.names .bindingForm).map .str ∧ l.bindingForms = bs := by
  have htexts : ∀ v ∈ ms.keysOf .bindingForm, ∃ k, v = .str k := by
    intro v hv
    by_cases hequal : v.equal bindingKey = true
    · rw [h.bindingName] at hequal
      refine ⟨l.bindingKey, ?_⟩
      cases v <;> simp_all [Value.equal, Value.numEqual, Value.num?]
    · have hmem : v ∈ (ms.keysOf .bindingForm).filter fun k => !k.equal bindingKey :=
        List.mem_filter.mpr ⟨hv, by simp [hequal]⟩
      rw [h.bindings] at hmem
      obtain ⟨k, -, rfl⟩ := List.mem_map.mp hmem
      exact ⟨k, rfl⟩
  have hkeys : ms.keysOf .bindingForm = (ms.names .bindingForm).map .str := by
    obtain ⟨ks, hks⟩ := Value.exists_eq_map_str htexts
    rw [Markers.names_eq hks, hks]
  refine ⟨hkeys, ?_⟩
  have hbindings := h.bindings
  rw [hkeys, h.bindingName, List.filter_map] at hbindings
  have hfilter := (List.map_inj_right fun _ _ => Value.str.inj).mp hbindings
  rw [bindingForms, h.markers_eq, ← hfilter]
  apply List.filter_congr
  intro k _
  by_cases hk : k = l.bindingKey <;> simp [Value.equal, hk]

theorem names_nameSpace (h : Declared keys bindingKey grammar aspects l ms ns bs ss) :
    l.markers.names .nameSpace = ns := by
  rw [h.markers_eq, Markers.names_eq h.namespaces]

theorem names_sequenceOf (h : Declared keys bindingKey grammar aspects l ms ns bs ss) :
    l.markers.names .sequenceOf = ss := by
  rw [h.markers_eq, Markers.names_eq h.sequences]

theorem mem_names_iff (h : Declared keys bindingKey grammar aspects l ms ns bs ss) {m : Marker}
    {k : String} : k ∈ l.markers.names m ↔ l.markers.find? (.str k) = some m := by
  rw [h.markers_eq]
  exact Markers.mem_names_iff h.noted

theorem mem_namespaces_iff (h : Declared keys bindingKey grammar aspects l ms ns bs ss)
    {k : String} : k ∈ ns ↔ l.markers.find? (.str k) = some .nameSpace := by
  rw [← h.mem_names_iff, h.names_nameSpace]

theorem mem_sequences_iff (h : Declared keys bindingKey grammar aspects l ms ns bs ss)
    {k : String} : k ∈ ss ↔ l.markers.find? (.str k) = some .sequenceOf := by
  rw [← h.mem_names_iff, h.names_sequenceOf]

theorem mem_bindings_iff (h : Declared keys bindingKey grammar aspects l ms ns bs ss)
    {k : String} :
    k ∈ bs ↔ l.markers.find? (.str k) = some .bindingForm ∧ k ≠ l.bindingKey := by
  rw [← h.mem_names_iff, ← h.keysOf_bindingForm.2, bindingForms, List.mem_filter,
    decide_eq_true_iff]

theorem nodup_bindings (h : Declared keys bindingKey grammar aspects l ms ns bs ss) :
    bs.Nodup := by
  obtain ⟨htexts, hbs⟩ := h.keysOf_bindingForm
  rw [← hbs, bindingForms, h.markers_eq]
  exact (Markers.nodup_of_keysOf h.noted htexts).filter _

-- A sequence hides an explicit aspect, and that a binding form or a namespace.
theorem aspect?_eq_or (h : Declared keys bindingKey grammar aspects l ms ns bs ss) (k : String) :
    l.aspect? k = (if k ∈ ss then some (.ofSequence 0 k) else none).or
      ((l.explicit.reverse.find? (·.key = k)).or
        ((if k ∈ bs then some (.ofBindingForm 0 k) else none).or
          (if k ∈ ns then some (.ofNamespace 0 k) else none))) := by
  rw [h.aspect?_eq, List.reverse_append, List.reverse_append, List.reverse_append,
    List.find?_append, List.find?_append, List.find?_append,
    find?_reverse_map (f := .ofSequence 0) fun _ => rfl,
    find?_reverse_map (f := .ofBindingForm 0) fun _ => rfl,
    find?_reverse_map (f := .ofNamespace 0) fun _ => rfl]

theorem mem_table_iff (h : Declared keys bindingKey grammar aspects l ms ns bs ss) (k : String) :
    k ∈ l.table.map (·.1) ↔ k ∈ ns ∨ k ∈ ss ∨ k ∈ bs ∨ k ∈ l.explicitKeys := by
  rw [h.table, mem_foldl_enter]
  simp only [List.map_nil, List.not_mem_nil, false_or, List.map_append, List.map_map,
    Function.comp_def, Aspect.ofNamespace, Aspect.ofBindingForm, Aspect.ofSequence, List.map_id',
    List.mem_append, explicitKeys]
  tauto

theorem mem_order_iff (h : Declared keys bindingKey grammar aspects l ms ns bs ss) (k : String) :
    k ∈ l.order ↔ k ∈ ns ∨ k ∈ ss ∨ k ∈ bs ∨ k ∈ l.explicitKeys := by
  rw [h.order, unique, List.mem_eraseDups, List.mem_append, List.mem_append, List.mem_append,
    explicitKeys]
  tauto

-- What is left of each group when the groups before it have fired.
theorem order_eq_removeAll (h : Declared keys bindingKey grammar aspects l ms ns bs ss) :
    l.order = ns ++ l.explicitKeys.removeAll ns ++ ss.removeAll (ns ++ l.explicitKeys) ++
      bs.removeAll (ns ++ l.explicitKeys ++ ss) := by
  have hns : unique ns = ns :=
    eraseDups_of_nodup (Markers.nodup_of_keysOf h.noted h.namespaces)
  rw [h.order]
  change unique (ns ++ l.explicitKeys ++ ss ++ bs) = _
  rw [unique_append _ h.nodup_bindings,
    unique_append _ (Markers.nodup_of_keysOf h.noted h.sequences),
    unique_append _ h.keys_explicit.1, hns]

theorem bindingKey_notMem_order (h : Declared keys bindingKey grammar aspects l ms ns bs ss) :
    l.bindingKey ∉ l.order := by
  rw [h.mem_order_iff]
  rintro (hmem | hmem | hmem | hmem)
  · have hbinding := h.binding
    rw [h.bindingName, checkBinding, ← h.markers_eq, h.mem_namespaces_iff.mp hmem] at hbinding
    cases hbinding
  · exact h.bindingKey_notMem hmem
  · exact (h.mem_bindings_iff.mp hmem).2 rfl
  · obtain ⟨a, ha, hkey⟩ := List.mem_map.mp hmem
    exact (h.keys_explicit.2 a ha).1 hkey

theorem isAllowed_of_mem_order (h : Declared keys bindingKey grammar aspects l ms ns bs ss)
    {k : String} (hk : k ∈ l.order) : isAllowed l.allowed (.str k) = true := by
  have hmarked : ∀ {m}, l.markers.find? (.str k) = some m →
      isAllowed l.allowed (.str k) = true := by
    intro m hm
    rw [h.markers_eq] at hm
    have hchecked := h.marked
    unfold checkMarked at hchecked
    split at hchecked
    case h_1 hnone =>
      have hall := List.filter_eq_nil_iff.mp hnone _ (Markers.mem_of_find?_eq_some hm)
      simpa using hall
    case h_2 =>
      obtain ⟨_, -, hfail⟩ := exists_of_bind_eq_ok hchecked
      cases hfail
  rcases (h.mem_order_iff k).mp hk with hmem | hmem | hmem | hmem
  · exact hmarked (h.mem_namespaces_iff.mp hmem)
  · exact hmarked (h.mem_sequences_iff.mp hmem)
  · exact hmarked (h.mem_bindings_iff.mp hmem).1
  · obtain ⟨a, ha, rfl⟩ := List.mem_map.mp hmem
    exact (h.keys_explicit.2 a ha).2

theorem isSome_aspect? (h : Declared keys bindingKey grammar aspects l ms ns bs ss) {k : String}
    (hk : k ∈ l.order) : (l.aspect? k).isSome := by
  rw [h.mem_order_iff, ← h.mem_table_iff] at hk
  obtain ⟨e, he, hek⟩ := List.mem_map.mp hk
  rw [aspect?, lookup?, Option.isSome_map, List.find?_isSome]
  exact ⟨e, he, by simp [hek]⟩

-- No key of the order lacks its step.
theorem steps_eq_append (h : Declared keys bindingKey grammar aspects l ms ns bs ss) :
    ∃ before after, l.steps = before ++ (l.bindingKey, l.bindingAspect) :: after ∧
      before.map (·.1) = ns ∧ before.map (·.1) ++ after.map (·.1) = l.order ∧
      ∀ e ∈ before ++ after, l.aspect? e.1 = some e.2 := by
  have hkeys : ∀ ks : List String, ks ⊆ l.order → (ks.filterMap l.step?).map (·.1) = ks := by
    intro ks hks
    induction ks with
    | nil => rfl
    | cons k ks ih =>
        obtain ⟨a, ha⟩ := Option.isSome_iff_exists.mp
          (h.isSome_aspect? (hks List.mem_cons_self))
        rw [List.filterMap_cons]
        simp only [step?, ha, Option.map_some, List.map_cons]
        exact congrArg _ (ih fun k' hk' => hks (List.mem_cons_of_mem _ hk'))
  have hstep : ∀ {ks : List String}, ∀ e ∈ ks.filterMap l.step?, l.aspect? e.1 = some e.2 := by
    intro ks e he
    obtain ⟨k, -, hk⟩ := List.mem_filterMap.mp he
    obtain ⟨a, ha, rfl⟩ := Option.map_eq_some_iff.mp hk
    exact ha
  have horder := h.order_eq
  refine ⟨_, _, h.steps_eq, ?_, ?_, ?_⟩
  · exact hkeys ns (horder ▸ List.subset_append_left _ _)
  · rw [hkeys ns (horder ▸ List.subset_append_left _ _),
      hkeys _ (horder ▸ List.subset_append_right _ _), horder]
  · intro e he
    rcases List.mem_append.mp he with he | he
    · exact hstep e he
    · exact hstep e he

theorem arranged (h : Declared keys bindingKey grammar aspects l ms ns bs ss) : l.Arranged := by
  obtain ⟨before, after, hsteps, hbefore, horder, haspects⟩ := h.steps_eq_append
  have hnodup : l.order.Nodup := by
    rw [h.order]
    exact nodup_unique _
  have hkeys : l.steps.map (·.1) = before.map (·.1) ++ l.bindingKey :: after.map (·.1) := by
    rw [hsteps, List.map_append, List.map_cons]
  exact {
    marked := by
      intro k m
      rw [h.markers_eq, h.grammar]
      exact (Markers.find?_eq_some_iff h.markers).symm
    texts := by
      intro m hm
      rw [h.markers_eq]
      simp only [List.mem_cons, List.not_mem_nil, or_false] at hm
      rcases hm with rfl | rfl | rfl
      · rw [Markers.names_eq h.namespaces, h.namespaces]
      · rw [Markers.names_eq h.sequences, h.sequences]
      · exact h.keysOf_bindingForm.1
    nodup_order := hnodup
    nodup_table := by
      rw [h.table]
      exact nodup_foldl_enter (by simp)
    mem_order_iff := by
      intro k
      rw [h.mem_order_iff, h.mem_table_iff]
    mem_table_iff := by
      intro k
      rw [h.mem_table_iff, h.mem_namespaces_iff, h.mem_sequences_iff, h.mem_bindings_iff]
    key := by
      rw [h.table]
      exact key_foldl_enter (by simp)
    ofSequence := by
      intro k hk
      rw [h.aspect?_eq_or, if_pos (h.mem_sequences_iff.mpr hk)]
      rfl
    ofExplicit := by
      intro a ha hk
      rw [h.aspect?_eq_or, if_neg (mt h.mem_sequences_iff.mp hk),
        find?_reverse_of_mem h.keys_explicit.1 ha]
      rfl
    ofNamespace := by
      intro k hk hexplicit
      have hss : k ∉ ss := by simp [h.mem_sequences_iff, hk]
      have hbs : k ∉ bs := by simp [h.mem_bindings_iff, hk]
      rw [h.aspect?_eq_or, if_neg hss, find?_reverse_eq_none hexplicit, if_neg hbs,
        if_pos (h.mem_namespaces_iff.mpr hk)]
      rfl
    ofBindingForm := by
      intro k hk hne hexplicit
      have hss : k ∉ ss := by simp [h.mem_sequences_iff, hk]
      rw [h.aspect?_eq_or, if_neg hss, find?_reverse_eq_none hexplicit,
        if_pos (h.mem_bindings_iff.mpr ⟨hk, hne⟩)]
      rfl
    order_eq := by
      rw [h.names_nameSpace, h.names_sequenceOf, h.keysOf_bindingForm.2]
      exact h.order_eq_removeAll
    steps_eq := ⟨before, after, hsteps, by rw [hbefore, h.names_nameSpace], horder, haspects⟩
    nodup_steps := by
      rw [hkeys, List.nodup_middle, List.nodup_cons, horder]
      exact ⟨h.bindingKey_notMem_order, hnodup⟩
    allowed := by
      intro e he
      have hmem : e.1 ∈ l.steps.map (·.1) := List.mem_map_of_mem he
      rw [hkeys, List.mem_append, List.mem_cons, or_left_comm, ← List.mem_append, horder] at hmem
      rcases hmem with hbinding | hmem
      · have hallowed := h.bindingAllowed
        rwa [h.bindingName, ← hbinding] at hallowed
      · exact h.isAllowed_of_mem_order hmem }

end Declared

-- The languages that calls make: declarations, extensions of other languages, and the languages of
-- macro definitions and of pipelines.
inductive Made (l : Language) : Prop where
  | declared {allowed bindingKey grammar : Value} {aspects : List (Aspect ⊕ Value)}
      (h : make allowed bindingKey grammar aspects = .ok l)
  | extended {base : Language} {keys grammar : Value} {aspects : List (Aspect ⊕ Value)}
      (h : base.extend keys grammar aspects = .ok l)
  | ofMacros {bindingKey : Value} (h : Macro.language bindingKey = .ok l)
  | ofPipelines {evaluator : Nat} (h : Pipeline.language evaluator = .ok l)

theorem Made.exists_declare {l : Language} (h : l.Made) :
    ∃ keys bindingKey grammar aspects, declare keys bindingKey grammar aspects = .ok l := by
  cases h with
  | declared h =>
      obtain ⟨keys, -, h⟩ := exists_of_bind_eq_ok h
      exact ⟨_, _, _, _, h⟩
  | extended h =>
      obtain ⟨_, _, _, _, -, -, -, h⟩ := extend_eq_ok h
      exact ⟨_, _, _, _, h⟩
  | ofMacros h => exact ⟨_, _, _, _, h⟩
  | ofPipelines h => exact ⟨_, _, _, _, h⟩

-- Every language that was made is arranged by the markers of its grammar and its explicit aspects.
-- A declared one has the grammar, the aspects and the keys of its declaration. The table is filled
-- in one order of the groups of keys and the firing order is built in another, so a key that is in
-- several groups is followed through both.
theorem arranged_of_made {l : Language} (h : l.Made) :
    l.Arranged ∧ ∀ {allowed bindingKey grammar aspects},
      make allowed bindingKey grammar aspects = .ok l →
        bindingKey = .str l.bindingKey ∧ l.grammar = grammar ∧
          aspects = l.explicit.map .inl ∧
          ∃ keys, allowed.members = .ok keys ∧ l.allowed = Value.distinct keys := by
  constructor
  · obtain ⟨_, _, _, _, hdeclare⟩ := h.exists_declare
    obtain ⟨_, _, _, _, hd⟩ := declare_eq_ok hdeclare
    exact hd.arranged
  · intro allowed bindingKey grammar aspects hmake
    obtain ⟨keys, hkeys, hdeclare⟩ := exists_of_bind_eq_ok hmake
    obtain ⟨_, _, _, _, hd⟩ := declare_eq_ok hdeclare
    obtain ⟨explicit, haspects, hexplicit⟩ := checkExplicit_eq_ok hd.explicit
    have hallowed := hd.allowed
    unfold allowedKeys at hallowed
    split at hallowed
    · cases hallowed
    · rw [List.nil_append] at hexplicit
      exact ⟨hd.bindingName, hd.grammar, hexplicit ▸ haspects, keys, hkeys,
        (Except.ok.inj hallowed).symm⟩

end Language

namespace Sample

-- A namespace and a sequence with explicit aspects of their own, and one key with nothing else.
def crowded : Except Error Language :=
  Language.make (.list (["config", "steps", "with", "extra", "bind"].map .str)) (.str "bind")
    (.object [("config", .str "namespace"),
      ("steps", .list [.str "sequence-of",
        .object [("with", .str "binding-form"), ("bind", .str "binding-form")]])])
    [.inl ⟨"extra", ⟨1, none, none, .noop⟩, true⟩, .inl ⟨"steps", ⟨2, none, none, .noop⟩, true⟩,
      .inl ⟨"config", ⟨3, none, none, .noop⟩, true⟩]

theorem arranged_crowded :
    ∃ l, crowded = .ok l ∧ l.order = ["config", "extra", "steps", "with"] ∧
      l.steps.map (·.1) = ["config", "bind", "extra", "steps", "with"] ∧
      (l.aspect? "config").map (·.handler.label) = some 3 ∧ l.Arranged := by
  have hmake : ∃ l, crowded = .ok l ∧ l.order = ["config", "extra", "steps", "with"] ∧
      l.steps.map (·.1) = ["config", "bind", "extra", "steps", "with"] ∧
      (l.aspect? "config").map (·.handler.label) = some 3 :=
    ⟨_, rfl, rfl, rfl, rfl⟩
  obtain ⟨l, hl, horder, hsteps, haspect⟩ := hmake
  exact ⟨l, hl, horder, hsteps, haspect,
    (Language.arranged_of_made (.declared hl)).1⟩

end Sample

end Dialect
