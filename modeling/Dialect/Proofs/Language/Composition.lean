import Dialect.Proofs.Language.Consistency
import Dialect.Proofs.Value.Override
import Dialect.Run.World

namespace Dialect

namespace Markers

section

variable {es more : List (Value × Value)}

theorem textKeys_map_iff :
    TextKeys (.map es) ↔ ∀ e ∈ es, (∃ k, e.1 = .str k) ∧ TextKeys e.2 := by
  constructor
  · intro h e he
    exact ⟨h e.1 e.2 (.here he), fun k t hgives => h k t (.inside he hgives)⟩
  · rintro h k t (hmem | ⟨he, hgives⟩)
    · exact (h _ hmem).1
    · exact (h _ he).2 k t hgives

theorem TextKeys.insert (h : TextKeys (.map es)) {k v : Value} (hk : ∃ s, k = .str s)
    (hv : TextKeys v) : TextKeys (.map (Value.insert es k v)) := by
  rw [textKeys_map_iff] at h ⊢
  induction es with
  | nil => simpa [Value.insert] using ⟨hk, hv⟩
  | cons e es ih =>
      obtain ⟨hhead, hes⟩ := List.forall_mem_cons.mp h
      rw [Value.insert]
      split
      · exact List.forall_mem_cons.mpr ⟨⟨hhead.1, hv⟩, hes⟩
      · exact List.forall_mem_cons.mpr ⟨hhead, ih hes⟩

-- Merged grammars have text keys if both have.
theorem TextKeys.insertAll (h : TextKeys (.map es)) (hmore : TextKeys (.map more)) :
    TextKeys (.map (Value.insertAll es more)) := by
  rw [textKeys_map_iff] at hmore
  induction more generalizing es with
  | nil => exact h
  | cons e more ih =>
      obtain ⟨⟨hkey, hterm⟩, hrest⟩ := List.forall_mem_cons.mp hmore
      exact ih (h.insert hkey hterm) hrest

end

end Markers

namespace Language

section

variable {l l' : Language} {keys ks : List Value} {bindingKey grammar : Value}
  {aspects : List (Aspect ⊕ Value)}

-- The explicit aspects of a language under their keys.
def explicitTable (l : Language) : List (String × Aspect) := l.explicit.map fun a => (a.key, a)

theorem replaceAll_eq_foldl (table : List (String × Aspect)) (as : List Aspect) :
    replaceAll table (as.map .inl) = .ok (as.foldl enter table) := by
  induction as generalizing table with
  | nil => rfl
  | cons a as ih => exact ih (enter table a)

-- An extension declares the keys, the entries and the aspects together.
theorem extend_eq {old new : List (Value × Value)} (hold : l.grammar = .map old)
    {grammar : Value} (hnew : grammar.truthy = false ∧ new = [] ∨ grammar = .map new)
    (ks : List Value) (as : List Aspect) :
    l.extend (.list ks) grammar (as.map .inl) = declare (l.allowed ++ ks) (.str l.bindingKey)
      (.map (Value.insertAll old new))
      (((as.foldl enter l.explicitTable).map (·.2)).map .inl) := by
  have hreplace := replaceAll_eq_foldl l.explicitTable as
  unfold explicitTable at hreplace ⊢
  unfold extend
  rw [hold, hreplace, List.map_map]
  rcases hnew with ⟨hfalsy, rfl⟩ | rfl
  · rw [hfalsy]
    rfl
  · cases new <;> rfl

-- A declaration depends on the keys as far as they are allowed.
theorem declare_congr (h : allowedKeys keys = allowedKeys ks) :
    declare keys bindingKey grammar aspects = declare ks bindingKey grammar aspects := by
  unfold declare
  rw [h]

theorem allowedKeys_eq_ok (h : allowedKeys keys = .ok ks) :
    Value.unhashableIn? keys = none ∧ ks = Value.distinct keys := by
  unfold allowedKeys at h
  split at h
  · cases h
  · rename_i hnone
    cases h
    exact ⟨hnone, rfl⟩

-- Keys that were allowed before others are added are allowed with them.
theorem allowedKeys_append (h : allowedKeys keys = .ok ks) (more : List Value) :
    allowedKeys (ks ++ more) = allowedKeys (keys ++ more) := by
  obtain ⟨hkeys, rfl⟩ := allowedKeys_eq_ok h
  have hdistinct := Value.unhashableIn?_distinct hkeys
  rw [allowedKeys, allowedKeys, Value.unhashableIn?_append hkeys,
    Value.unhashableIn?_append hdistinct, Value.distinct_append]

-- The parts of an extended language are those of the language with what was added.
theorem parts_of_extend {old new : List (Value × Value)} (hold : l.grammar = .map old)
    {ks : List Value} {as : List Aspect}
    (h : l.extend (.list ks) (.map new) (as.map .inl) = .ok l') :
    allowedKeys (l.allowed ++ ks) = .ok l'.allowed ∧ l'.bindingKey = l.bindingKey ∧
      l'.grammar = .map (Value.insertAll old new) ∧
      l'.explicitTable = as.foldl enter l.explicitTable := by
  rw [extend_eq hold (.inr rfl)] at h
  obtain ⟨ms, ns, bs, ss, hd⟩ := declare_eq_ok h
  obtain ⟨explicit, haspects, hexplicit⟩ := checkExplicit_eq_ok hd.explicit
  have hkeys : ∀ e ∈ as.foldl enter l.explicitTable, e.2.key = e.1 :=
    key_foldl_enter (by simp [explicitTable])
  rw [List.nil_append] at hexplicit
  have htable : (as.foldl enter l.explicitTable).map (·.2) = explicit :=
    (List.map_inj_right fun _ _ => Sum.inl.inj).mp haspects
  refine ⟨hd.allowed, (Value.str.inj hd.bindingName).symm, hd.grammar, ?_⟩
  rw [explicitTable, hexplicit, ← htable, List.map_map]
  refine (List.map_congr_left fun e he => ?_).trans (List.map_id _)
  exact Prod.ext (hkeys e he) rfl

-- Two extensions declare what one by both declares, and fail as it does.
theorem extend_extend {old n₁ n₂ : List (Value × Value)} (hold : l.grammar = .map old)
    (htexts₁ : ∀ e ∈ n₁, ∃ k, e.1 = .str k) (hnodup : (n₁.map (·.1)).Nodup)
    (htexts₂ : ∀ e ∈ n₂, ∃ k, e.1 = .str k) {k₁ : List Value} {a₁ : List Aspect}
    (h : l.extend (.list k₁) (.map n₁) (a₁.map .inl) = .ok l') (k₂ : List Value)
    (a₂ : List Aspect) :
    l'.extend (.list k₂) (.map n₂) (a₂.map .inl) =
      l.extend (.list (k₁ ++ k₂)) (.map (Value.insertAll n₁ n₂)) ((a₁ ++ a₂).map .inl) := by
  obtain ⟨hallowed, hbinding, hgrammar, hexplicit⟩ := parts_of_extend hold h
  rw [extend_eq hgrammar (.inr rfl), extend_eq hold (.inr rfl), hbinding, hexplicit,
    Value.insertAll_insertAll old htexts₁ hnodup htexts₂, List.foldl_append,
    declare_congr (allowedKeys_append hallowed k₂), List.append_assoc]

-- A language is declared again by its own parts.
theorem declare_self (h : declare keys bindingKey grammar aspects = .ok l) :
    declare l.allowed (.str l.bindingKey) l.grammar (l.explicit.map .inl) = .ok l := by
  obtain ⟨ms, ns, bs, ss, hd⟩ := declare_eq_ok h
  obtain ⟨explicit, haspects, hexplicit⟩ := checkExplicit_eq_ok hd.explicit
  have hkeys := allowedKeys_append hd.allowed []
  rw [List.append_nil, List.append_nil] at hkeys
  rw [List.nil_append] at hexplicit
  rw [declare_congr hkeys, hexplicit, ← haspects, hd.grammar, ← hd.bindingName, h]

theorem extend_nothing (hl : l.Made) {old : List (Value × Value)} (hold : l.grammar = .map old)
    {grammar : Value} (hnothing : grammar.truthy = false) :
    l.extend (.list []) grammar [] = .ok l := by
  obtain ⟨_, _, _, _, hdeclare⟩ := hl.exists_declare
  have htable : (l.explicitTable.map (·.2)).map (Sum.inl : Aspect → Aspect ⊕ Value) =
      l.explicit.map .inl := by
    simp [explicitTable]
  have hextend := extend_eq hold (.inl ⟨hnothing, rfl⟩) [] []
  rw [List.map_nil, List.foldl_nil, htable, List.append_nil, Value.insertAll, List.foldl_nil,
    ← hold] at hextend
  rw [hextend, declare_self hdeclare]

-- With text keys an extension is a language or a language error.
theorem language_or_ok_extend {old new : List (Value × Value)} (hold : l.grammar = .map old)
    (htexts : Markers.TextKeys (.map old)) (hnew : Markers.TextKeys (.map new))
    (hallowed : Value.unhashableIn? l.allowed = none) (ks : List String) (as : List Aspect) :
    (∃ f, l.extend (.list (ks.map .str)) (.map new) (as.map .inl) = .error (.language f)) ∨
      ∃ l', l.extend (.list (ks.map .str)) (.map new) (as.map .inl) = .ok l' := by
  have hkeys : Value.unhashableIn? (l.allowed ++ ks.map .str) = none := by
    rw [Value.unhashableIn?_append hallowed, Value.unhashableIn?_str]
  rw [extend_eq hold (.inr rfl)]
  exact (guards_declare hkeys (htexts.insertAll hnew) _ _).language_or_ok

end

-- Extending twice is extending by both at once: the outcomes are the same language or the same
-- error, which is a language error if the keys of the grammars are texts. Extending by nothing
-- changes nothing, and an extended language leaves the one that it extends in its place.
theorem extend_composes {l l₁ : Language} (hl : l.Made) {old n₁ n₂ : List (Value × Value)}
    (hold : l.grammar = .map old) (htexts₁ : ∀ e ∈ n₁, ∃ k, e.1 = .str k)
    (hnodup : (n₁.map (·.1)).Nodup) (htexts₂ : ∀ e ∈ n₂, ∃ k, e.1 = .str k)
    {k₁ : List String} {a₁ : List Aspect}
    (h : l.extend (.list (k₁.map .str)) (.map n₁) (a₁.map .inl) = .ok l₁) (k₂ : List String)
    (a₂ : List Aspect) :
    l₁.extend (.list (k₂.map .str)) (.map n₂) (a₂.map .inl) =
        l.extend (.list ((k₁ ++ k₂).map .str)) (.map (Value.insertAll n₁ n₂))
          ((a₁ ++ a₂).map .inl) ∧
      (Markers.TextKeys (.map old) → Markers.TextKeys (.map n₁) → Markers.TextKeys (.map n₂) →
        (∃ f, l₁.extend (.list (k₂.map .str)) (.map n₂) (a₂.map .inl) = .error (.language f)) ∨
          ∃ l₂, l₁.extend (.list (k₂.map .str)) (.map n₂) (a₂.map .inl) = .ok l₂) ∧
      (∀ g : Value, g.truthy = false → l.extend (.list []) g [] = .ok l) ∧
      ∀ (w : World) (i : Nat) (l₂ : Language), i < w.languages.length → w.language i = l →
        ({ w with languages := w.languages ++ [l₂] } : World).language i = l := by
  obtain ⟨hallowed, -, hgrammar, -⟩ := parts_of_extend hold h
  refine ⟨?_, fun hkeys hkeys₁ hkeys₂ => ?_, fun g hg => extend_nothing hl hold hg, ?_⟩
  · rw [List.map_append]
    exact extend_extend hold htexts₁ hnodup htexts₂ h _ a₂
  · obtain ⟨hhashable, hdistinct⟩ := allowedKeys_eq_ok hallowed
    have hallowed₁ : Value.unhashableIn? l₁.allowed = none := by
      rw [hdistinct]
      exact Value.unhashableIn?_distinct hhashable
    exact language_or_ok_extend hgrammar (hkeys.insertAll hkeys₁) hkeys₂ hallowed₁ k₂ a₂
  · intro w i l₂ hi hw
    rw [← hw]
    unfold World.language
    rw [List.getElem?_append_left hi]

end Language

namespace Sample

-- An aspect that does nothing, with a function of its own.
def idle (key : String) (label : Nat) : Aspect := ⟨key, ⟨label, none, none, .noop⟩, true⟩

-- A sequence with an explicit aspect.
def stall : Except Error Language :=
  Language.make (.list (["steps", "bind"].map .str)) (.str "bind")
    (.map [(.str "steps", .list [.str "sequence-of", .map []])]) ([idle "steps" 1].map .inl)

-- What is added first, and what is added then: a key of both gets another marker and aspect.
def first : List (Value × Value) := [(.str "new", .str "namespace")]

def second : List (Value × Value) :=
  [(.str "new", .str "binding-form"), (.str "more", .str "namespace")]

theorem extend_composes_stall : ∃ l l₁ l₂, stall = .ok l ∧
    l.extend (.list (["new"].map .str)) (.map first) ([idle "new" 2].map .inl) = .ok l₁ ∧
    l₁.extend (.list (["steps", "more"].map .str)) (.map second) ([idle "new" 3].map .inl) =
      .ok l₂ ∧
    l.extend (.list (["new", "steps", "more"].map .str)) (.map second)
      ([idle "new" 2, idle "new" 3].map .inl) = .ok l₂ ∧
    l₂.order = ["more", "steps", "new"] := by
  obtain ⟨l, l₁, l₂, hl, ⟨old, hold⟩, h, h₂, horder⟩ : ∃ l l₁ l₂, stall = .ok l ∧
      (∃ old, l.grammar = .map old) ∧
      l.extend (.list (["new"].map .str)) (.map first) ([idle "new" 2].map .inl) = .ok l₁ ∧
      l₁.extend (.list (["steps", "more"].map .str)) (.map second) ([idle "new" 3].map .inl) =
        .ok l₂ ∧ l₂.order = ["more", "steps", "new"] := ⟨_, _, _, rfl, ⟨_, rfl⟩, rfl, rfl, rfl⟩
  have htexts₁ : ∀ e ∈ first, ∃ k, e.1 = .str k := by simp [first]
  have htexts₂ : ∀ e ∈ second, ∃ k, e.1 = .str k := by simp [second]
  have hboth := (Language.extend_composes (.declared hl) hold htexts₁ (by simp [first]) htexts₂ h
    ["steps", "more"] [idle "new" 3]).1
  exact ⟨l, l₁, l₂, hl, h, h₂, hboth.symm.trans h₂, horder⟩

end Sample

end Dialect
