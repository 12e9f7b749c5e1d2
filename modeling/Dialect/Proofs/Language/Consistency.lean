import Dialect.Proofs.Language.Marking
import Dialect.Proofs.Value.Distinct

namespace Dialect

-- A check fails with a language error if something is wrong, and passes if it is not. Checks stop
-- at the first failure, but what they guard against together does not depend on their order.
def Guards {α : Type} (x : Except Error α) (wrong : Prop) : Prop :=
  (wrong → ∃ f, x = .error (.language f)) ∧ (¬wrong → ∃ a, x = .ok a)

namespace Guards

variable {α β : Type} {x : Except Error α} {wrong wrong' : Prop}

theorem pass (a : α) (h : ¬wrong) : Guards (.ok a) wrong :=
  ⟨fun hw => absurd hw h, fun _ => ⟨a, rfl⟩⟩

theorem fail (f : LanguageFault) (h : wrong) :
    Guards (.error (.language f) : Except Error α) wrong :=
  ⟨fun _ => ⟨f, rfl⟩, fun hw => absurd h hw⟩

theorem congr (h : Guards x wrong) (hiff : wrong ↔ wrong') : Guards x wrong' :=
  ⟨fun hw => h.1 (hiff.mpr hw), fun hw => h.2 fun hw' => hw (hiff.mp hw')⟩

-- A check before others guards against a part of what is wrong.
theorem bind (hx : Guards x wrong') (hwrong : wrong' → wrong) {f : α → Except Error β}
    (hf : ∀ a, x = .ok a → ¬wrong' → Guards (f a) wrong) : Guards (x >>= f) wrong := by
  by_cases hw : wrong'
  · obtain ⟨e, rfl⟩ := hx.1 hw
    exact .fail e (hwrong hw)
  · obtain ⟨a, rfl⟩ := hx.2 hw
    exact hf a rfl hw

theorem ok_iff (h : Guards x wrong) : (∃ a, x = .ok a) ↔ ¬wrong := by
  refine ⟨?_, h.2⟩
  rintro ⟨a, rfl⟩ hw
  obtain ⟨f, hf⟩ := h.1 hw
  cases hf

-- Nothing else goes wrong than what can be wrong.
theorem language_or_ok (h : Guards x wrong) : (∃ f, x = .error (.language f)) ∨ ∃ a, x = .ok a := by
  by_cases hw : wrong
  · exact .inl (h.1 hw)
  · exact .inr (h.2 hw)

end Guards

namespace Markers

-- Something is wrong with the terms that are still given, after some markers were found.
inductive Clash (found : Markers) (es : List (Value × Value)) : Prop where
  | unknownWord {k : Value} {w : String} (mem : (k, .str w) ∈ es)
      (unknown : ∀ m, ¬Means (.str w) m)
  | twoMarkers {k : Value} {m m' : Marker} (first : Holds found es k m)
      (second : Holds found es k m') (ne : m ≠ m')

section

variable {found out : Markers} {es : List (Value × Value)} {k : String} {t : Value}

-- Only a text that is no marker's word is refused.
theorem guards_ofTerm (t : Value) :
    Guards (ofTerm t) (∃ w, t = .str w ∧ ∀ m, ¬Means t m) := by
  unfold ofTerm
  split
  · rename_i w
    cases hw : Marker.ofWord? w with
    | none =>
        refine .fail _ ⟨w, rfl, fun m hm => ?_⟩
        rw [← ofTerm_eq_some_iff, ofTerm, hw] at hm
        cases hm
    | some m =>
        refine .pass _ ?_
        rintro ⟨-, -, hunknown⟩
        refine hunknown m (ofTerm_eq_some_iff.mp ?_)
        rw [ofTerm, hw]
  · exact .pass _ (by simp)
  · exact .pass _ (by simp)
  · rename_i hword _ _
    refine .pass _ ?_
    rintro ⟨w, ht, -⟩
    exact hword w ht

-- Only a marker other than the first is refused.
theorem guards_note (hfound : Noted [] found) (m : Option Marker) :
    Guards (note found (.str k) m)
      (∃ first m', (.str k, first) ∈ found ∧ m = some m' ∧ first ≠ m') := by
  cases m with
  | none => exact .pass _ (by simp)
  | some m =>
      rw [note]
      cases hf : found.find? (.str k) with
      | none =>
          refine .pass _ ?_
          rintro ⟨first, -, hmem, -, -⟩
          rw [find?_of_mem hfound hmem] at hf
          cases hf
      | some first =>
          by_cases hfirst : first = m
          · simp only [hfirst, if_true]
            refine .pass _ ?_
            rintro ⟨first', m', hmem, hm, hne⟩
            rw [find?_of_mem hfound hmem, Option.some.injEq] at hf
            exact hne (hf.trans (hfirst.trans (Option.some.inj hm)))
          · simp only [hfirst, if_false]
            exact .fail _ ⟨first, m, mem_of_find?_eq_some hf, rfl, hfirst⟩

-- A term is noted unless it is an unknown word or its key has another marker.
theorem guards_noteTerm (hfound : Noted [] found) : Guards (noteTerm found (.str k, t))
    ((∃ w, t = .str w ∧ ∀ m, ¬Means t m) ∨
      ∃ first m, (.str k, first) ∈ found ∧ Means t m ∧ first ≠ m) := by
  refine (guards_ofTerm t).bind .inl fun m hm hknown => (guards_note hfound m).congr ?_
  have hmeans : ∀ m', m = some m' ↔ Means t m' := by
    intro m'
    rw [← ofTerm_eq_some_iff, hm, Except.ok.injEq]
  simp only [hmeans, hknown, false_or]

-- By induction on what is given: what is found only grows, and every term is compared with it.
theorem guards_foldlM (hkeys : ∀ e ∈ es, ∃ k, e.1 = .str k) (hfound : Noted [] found)
    (htexts : ∀ e ∈ found, ∃ k, e.1 = .str k) : Guards (es.foldlM noteTerm found)
      (Clash found es) := by
  induction es generalizing found with
  | nil =>
      refine .pass found ?_
      rintro (⟨hmem, -⟩ | ⟨hfirst, hsecond, hne⟩)
      · cases hmem
      · simp only [Holds, List.not_mem_nil, false_and, exists_false, or_false] at hfirst hsecond
        obtain ⟨k, rfl⟩ := htexts _ hfirst
        have hsame := (find?_of_mem hfound hfirst).symm.trans (find?_of_mem hfound hsecond)
        exact hne (Option.some.inj hsame)
  | cons e es ih =>
      obtain ⟨k', t⟩ := e
      obtain ⟨k, rfl : k' = .str k⟩ := hkeys _ List.mem_cons_self
      rw [List.foldlM_cons]
      refine (guards_noteTerm hfound).bind ?_ fun mid hmid hfine => ?_
      · rintro (⟨w, rfl, hunknown⟩ | ⟨first, m, hmem, hm, hne⟩)
        · exact .unknownWord List.mem_cons_self hunknown
        · exact .twoMarkers (.inl hmem) (.inr ⟨t, List.mem_cons_self, hm⟩) hne
      · have hmidtexts : ∀ e ∈ mid, ∃ k, e.1 = .str k := by
          intro e he
          rcases (mem_noteTerm hmid).mp he with he | ⟨he, -⟩
          · exact htexts e he
          · exact ⟨k, he⟩
        have hrest := ih (fun e he => hkeys e (List.mem_cons_of_mem _ he))
          (hfound.trans (noted_noteTerm hmid)) hmidtexts
        refine hrest.congr ⟨?_, ?_⟩
        · rintro (⟨hmem, hunknown⟩ | ⟨hfirst, hsecond, hne⟩)
          · exact .unknownWord (List.mem_cons_of_mem _ hmem) hunknown
          · rw [holds_noteTerm hmid] at hfirst hsecond
            exact .twoMarkers hfirst hsecond hne
        · rintro (⟨hmem, hunknown⟩ | ⟨hfirst, hsecond, hne⟩)
          · rcases List.mem_cons.mp hmem with heq | hmem
            · cases heq
              exact absurd (.inl ⟨_, rfl, hunknown⟩) hfine
            · exact .unknownWord hmem hunknown
          · rw [← holds_noteTerm hmid] at hfirst hsecond
            exact .twoMarkers hfirst hsecond hne

end

theorem clash_given_iff {grammar : Value} :
    Clash [] (given grammar) ↔ Inconsistent grammar := by
  constructor
  · rintro (⟨hmem, hunknown⟩ | ⟨hfirst, hsecond, hne⟩)
    · exact .unknownWord (mem_given_iff.mp hmem) hunknown
    · exact .twoMarkers (holds_given_iff.mp hfirst) (holds_given_iff.mp hsecond) hne
  · rintro (⟨hgives, hunknown⟩ | ⟨hfirst, hsecond, hne⟩)
    · exact .unknownWord (mem_given_iff.mpr hgives) hunknown
    · exact .twoMarkers (holds_given_iff.mpr hfirst) (holds_given_iff.mpr hsecond) hne

-- The walk guards against inconsistent grammars.
theorem guards_ofGrammar {grammar : Value} (hkeys : TextKeys grammar) :
    Guards (ofGrammar grammar) (Inconsistent grammar) := by
  rw [ofGrammar, walk_eq_foldlM]
  exact (guards_foldlM hkeys.given (.refl []) (by simp)).congr clash_given_iff

theorem exists_text_of_mem_keysOf {ms : Markers} (h : ∀ e ∈ ms, ∃ k, e.1 = .str k) {m : Marker}
    {v : Value} (hv : v ∈ ms.keysOf m) : ∃ k, v = .str k := by
  obtain ⟨e, he, rfl⟩ := List.mem_map.mp hv
  exact h e (List.mem_filter.mp he).1

end Markers

theorem Value.texts_map_str (ks : List String) (n : Nat) : texts n (ks.map .str) = .ok ks := by
  induction ks generalizing n with
  | nil => rfl
  | cons k ks ih =>
      rw [List.map_cons, texts, ih]
      rfl

-- Texts are keys of aspects.
theorem Aspect.guards_mapM_keyOf {vs : List Value} (h : ∀ v ∈ vs, ∃ k, v = .str k) :
    Guards (vs.mapM keyOf) False := by
  obtain ⟨ks, rfl⟩ := Value.exists_eq_map_str h
  have hread : (ks.map Value.str).mapM keyOf = .ok ks := by
    clear h
    induction ks with
    | nil => rfl
    | cons k ks ih =>
        rw [List.map_cons, List.mapM_cons, ih]
        rfl
  rw [hread]
  exact .pass ks not_false

namespace Language

-- What is wrong with a declaration that is refused.
inductive Refused (keys : List Value) (bindingKey : String) (grammar : Value)
    (aspects : List Aspect) : Prop where
  | bindingNotAllowed (h : .str bindingKey ∉ keys)
  | bindingExplicit {a : Aspect} (mem : a ∈ aspects) (h : a.key = bindingKey)
  | aspectNotAllowed {a : Aspect} (mem : a ∈ aspects) (h : .str a.key ∉ keys)
  | aspectRepeated (h : ¬(aspects.map (·.key)).Nodup)
  | inconsistent (h : Markers.Inconsistent grammar)
  | markedNotAllowed {k : String} {m : Marker} (marked : Markers.Marked grammar (.str k) m)
      (h : .str k ∉ keys)
  | bindingMarked {m : Marker} (marked : Markers.Marked grammar (.str bindingKey) m)
      (h : m ≠ .bindingForm)

theorem isAllowed_iff {allowed : List Value} {k : String} :
    isAllowed allowed (.str k) = true ↔ .str k ∈ allowed := by
  simp [isAllowed, Value.same_str_iff]

theorem allowedKeys_eq {keys : List Value} (h : Value.unhashableIn? keys = none) :
    allowedKeys keys = .ok (Value.distinct keys) := by
  rw [allowedKeys, h]

section

variable {allowed : List Value} {bindingKey : String} {ms : Markers}

-- By induction on the aspects, with those that passed kept aside.
theorem guards_checkExplicit {seen aspects : List Aspect} (hseen : (seen.map (·.key)).Nodup) :
    Guards (checkExplicit allowed (.str bindingKey) seen (aspects.map .inl))
      ((∃ a ∈ aspects, a.key = bindingKey ∨ .str a.key ∉ allowed) ∨
        ¬((seen ++ aspects).map (·.key)).Nodup) := by
  induction aspects generalizing seen with
  | nil => exact .pass seen (by simpa using hseen)
  | cons a aspects ih =>
      rw [List.map_cons, checkExplicit]
      by_cases hbinding : a.key = bindingKey
      · rw [if_pos (by simp [hbinding, Value.equal])]
        exact .fail _ (.inl ⟨a, List.mem_cons_self, .inl hbinding⟩)
      rw [if_neg (by simpa [Value.equal] using hbinding)]
      by_cases hallowed : isAllowed allowed (.str a.key) = true
      case neg =>
        rw [if_pos (by simpa using hallowed)]
        exact .fail _ (.inl ⟨a, List.mem_cons_self, .inr (mt isAllowed_iff.mpr hallowed)⟩)
      rw [if_neg (by simpa using hallowed)]
      have happend : seen ++ a :: aspects = (seen ++ [a]) ++ aspects := by simp
      have hrepeated : (seen.any fun b => b.key == a.key) = true ↔ a.key ∈ seen.map (·.key) := by
        simp
      by_cases hmem : a.key ∈ seen.map (·.key)
      · rw [if_pos (hrepeated.mpr hmem)]
        refine .fail _ (.inr fun hnodup => ?_)
        rw [List.map_append, List.map_cons, List.nodup_middle, List.nodup_cons] at hnodup
        exact hnodup.1 (List.mem_append_left _ hmem)
      · rw [if_neg (mt hrepeated.mp hmem)]
        have hnodup : ((seen ++ [a]).map (·.key)).Nodup := by
          rw [List.map_append, List.map_singleton, ← List.concat_eq_append]
          exact hseen.concat hmem
        refine (ih hnodup).congr ?_
        rw [happend, List.exists_mem_cons_iff]
        simp [hbinding, isAllowed_iff.mp hallowed]

theorem guards_checkMarked (htexts : ∀ e ∈ ms, ∃ k, e.1 = .str k) :
    Guards (checkMarked allowed ms) (∃ k m, (.str k, m) ∈ ms ∧ .str k ∉ allowed) := by
  have hmem : ∀ e, e ∈ ms.filter (fun e => !isAllowed allowed e.1) ↔
      ∃ k m, e = (.str k, m) ∧ (.str k, m) ∈ ms ∧ .str k ∉ allowed := by
    intro e
    rw [List.mem_filter]
    constructor
    · rintro ⟨he, hallowed⟩
      obtain ⟨k, hk⟩ := htexts e he
      obtain ⟨v, m⟩ := e
      cases hk
      exact ⟨k, m, rfl, he, by simpa [← isAllowed_iff] using hallowed⟩
    · rintro ⟨k, m, rfl, he, hallowed⟩
      exact ⟨he, by simpa [← isAllowed_iff] using hallowed⟩
  obtain ⟨ks, hks⟩ : ∃ ks : List String,
      (ms.filter fun e => !isAllowed allowed e.1).map (·.1) = ks.map .str := by
    refine Value.exists_eq_map_str fun v hv => ?_
    obtain ⟨e, he, rfl⟩ := List.mem_map.mp hv
    exact htexts e (List.mem_filter.mp he).1
  unfold checkMarked
  split
  · rename_i hnone
    refine .pass () ?_
    rintro ⟨k, m, he, hallowed⟩
    have hin := (hmem (.str k, m)).mpr ⟨k, m, rfl, he, hallowed⟩
    rw [hnone] at hin
    cases hin
  · rename_i hsome
    obtain ⟨e, he⟩ := List.exists_mem_of_ne_nil _ hsome
    obtain ⟨k, m, -, hin, hallowed⟩ := (hmem e).mp he
    rw [hks, Value.texts_map_str]
    exact .fail _ ⟨k, m, hin, hallowed⟩

theorem guards_checkBinding (hms : Markers.Noted [] ms) :
    Guards (checkBinding (.str bindingKey) ms)
      (∃ m, (.str bindingKey, m) ∈ ms ∧ m ≠ .bindingForm) := by
  unfold checkBinding
  split
  · rename_i hnone
    refine .pass () ?_
    rintro ⟨m, hmem, -⟩
    rw [Markers.find?_of_mem hms hmem] at hnone
    cases hnone
  · rename_i hsome
    refine .pass () ?_
    rintro ⟨m, hmem, hne⟩
    rw [Markers.find?_of_mem hms hmem, Option.some.injEq] at hsome
    exact hne hsome
  · rename_i m hne hsome
    exact .fail _ ⟨m, Markers.mem_of_find?_eq_some hsome, hne⟩

end

-- A declaration with text keys is refused if something is wrong with it, and for nothing else.
theorem guards_declare {keys : List Value} (hhashable : Value.unhashableIn? keys = none)
    {grammar : Value} (htexts : Markers.TextKeys grammar) (bindingKey : String)
    (aspects : List Aspect) :
    Guards (declare keys (.str bindingKey) grammar (aspects.map .inl))
      (Refused keys bindingKey grammar aspects) := by
  have hallowed : ∀ k : String,
      isAllowed (Value.distinct keys) (.str k) = true ↔ .str k ∈ keys := by
    intro k
    rw [isAllowed_iff, Value.mem_distinct_str]
  unfold declare
  rw [allowedKeys_eq hhashable]
  refine .bind (.pass _ not_false) False.elim fun _ hkeys _ => ?_
  cases hkeys
  by_cases hbinding : isAllowed (Value.distinct keys) (.str bindingKey) = true
  case neg =>
    rw [if_neg hbinding]
    exact .fail _ (Refused.bindingNotAllowed (mt (hallowed _).mpr hbinding))
  rw [if_pos hbinding]
  have hnone : (([] : List Aspect).map (·.key)).Nodup := List.nodup_nil
  refine .bind (guards_checkExplicit hnone) ?_ fun explicit _ hexplicit => ?_
  · rintro (⟨a, ha, hkey | hkey⟩ | hnodup)
    · exact .bindingExplicit ha hkey
    · exact .aspectNotAllowed ha (mt Value.mem_distinct_str.mpr hkey)
    · exact .aspectRepeated hnodup
  refine .bind (Markers.guards_ofGrammar htexts) .inconsistent fun ms hms hconsistent => ?_
  have hmarked := Markers.mem_ofGrammar_iff htexts hms
  have hmstexts : ∀ e ∈ ms, ∃ k, e.1 = .str k := fun e he =>
    Markers.exists_text_of_mem htexts hms he
  refine .bind (guards_checkMarked hmstexts) ?_ fun _ _ hmarkedAllowed => ?_
  · rintro ⟨k, m, hmem, hkey⟩
    exact .markedNotAllowed ((hmarked _ _).mp hmem) (mt Value.mem_distinct_str.mpr hkey)
  refine .bind (guards_checkBinding (Markers.noted_walk hms)) ?_ fun _ _ hbindingMarked => ?_
  · rintro ⟨m, hmem, hne⟩
    exact .bindingMarked ((hmarked _ _).mp hmem) hne
  have hkeysOf : ∀ {m}, ∀ v ∈ ms.keysOf m, ∃ k, v = .str k := fun v hv =>
    Markers.exists_text_of_mem_keysOf hmstexts hv
  refine .bind (Aspect.guards_mapM_keyOf hkeysOf) False.elim fun namespaces _ _ => ?_
  refine .bind (Aspect.guards_mapM_keyOf fun v hv => hkeysOf v (List.mem_filter.mp hv).1)
    False.elim fun bindings _ _ => ?_
  refine .bind (Aspect.guards_mapM_keyOf hkeysOf) False.elim fun sequences _ _ => ?_
  refine .pass _ ?_
  rintro (hkey | ⟨ha, hkey⟩ | ⟨ha, hkey⟩ | hnodup | hbad | ⟨hm, hkey⟩ | ⟨hm, hne⟩)
  · exact hkey ((hallowed _).mp hbinding)
  · exact hexplicit (.inl ⟨_, ha, .inl hkey⟩)
  · exact hexplicit (.inl ⟨_, ha, .inr (mt Value.mem_distinct_str.mp hkey)⟩)
  · exact hexplicit (.inr hnodup)
  · exact hconsistent hbad
  · exact hmarkedAllowed ⟨_, _, (hmarked _ _).mpr hm, mt Value.mem_distinct_str.mp hkey⟩
  · exact hbindingMarked ⟨_, (hmarked _ _).mpr hm, hne⟩

theorem Refused.reordered {keys : List Value} {bindingKey : String} {g g' : Value}
    {aspects : List Aspect} (hr : Refused keys bindingKey g aspects) (h : Markers.Reordered g g') :
    Refused keys bindingKey g' aspects := by
  cases hr with
  | bindingNotAllowed hkey => exact .bindingNotAllowed hkey
  | bindingExplicit ha hkey => exact .bindingExplicit ha hkey
  | aspectNotAllowed ha hkey => exact .aspectNotAllowed ha hkey
  | aspectRepeated hnodup => exact .aspectRepeated hnodup
  | inconsistent hbad => exact .inconsistent (h.inconsistent hbad)
  | markedNotAllowed hm hkey => exact .markedNotAllowed (h.marked hm) hkey
  | bindingMarked hm hne => exact .bindingMarked (h.marked hm) hne

-- A grammar is accepted if it is consistent, and then its markers are those that it gives; a
-- language is accepted if nothing is wrong with its declaration. Either is refused with a language
-- error otherwise. The order of entries makes no difference to what is accepted.
theorem accepted_iff_consistent {grammar : Value} (htexts : Markers.TextKeys grammar)
    (keys : List String) (bindingKey : String) (aspects : List Aspect) :
    (Guards (Markers.ofGrammar grammar) (Markers.Inconsistent grammar) ∧
      ∀ ms, Markers.ofGrammar grammar = .ok ms →
        (ms.map (·.1)).Nodup ∧ ∀ k m, (k, m) ∈ ms ↔ Markers.Marked grammar k m) ∧
    Guards (make (.list (keys.map .str)) (.str bindingKey) grammar (aspects.map .inl))
      (Refused (keys.map .str) bindingKey grammar aspects) ∧
    ∀ grammar', Markers.Reordered grammar grammar' →
      ((∃ ms, Markers.ofGrammar grammar = .ok ms) ↔
        ∃ ms', Markers.ofGrammar grammar' = .ok ms') ∧
      (∀ ms ms', Markers.ofGrammar grammar = .ok ms → Markers.ofGrammar grammar' = .ok ms' →
        ms.Perm ms') ∧
      ((∃ l, make (.list (keys.map .str)) (.str bindingKey) grammar (aspects.map .inl) = .ok l) ↔
        ∃ l, make (.list (keys.map .str)) (.str bindingKey) grammar' (aspects.map .inl) =
          .ok l) := by
  have hmake : ∀ {g}, Markers.TextKeys g →
      Guards (make (.list (keys.map .str)) (.str bindingKey) g (aspects.map .inl))
        (Refused (keys.map .str) bindingKey g aspects) := fun hg =>
    guards_declare (Value.unhashableIn?_str keys) hg bindingKey aspects
  have hwalk : ∀ {g}, Markers.TextKeys g →
      Guards (Markers.ofGrammar g) (Markers.Inconsistent g) := Markers.guards_ofGrammar
  refine ⟨⟨hwalk htexts, fun ms hms => ⟨Markers.nodup_keys_ofGrammar htexts hms,
    Markers.mem_ofGrammar_iff htexts hms⟩⟩, hmake htexts, fun grammar' h => ?_⟩
  have htexts' := h.textKeys htexts
  refine ⟨?_, fun ms ms' hms hms' => ?_, ?_⟩
  · rw [(hwalk htexts).ok_iff, (hwalk htexts').ok_iff]
    exact not_congr ⟨h.inconsistent, h.symm.inconsistent⟩
  · have hnodup : ms.Nodup := (Markers.nodup_keys_ofGrammar htexts hms).of_map _
    have hnodup' : ms'.Nodup := (Markers.nodup_keys_ofGrammar htexts' hms').of_map _
    rw [List.perm_ext_iff_of_nodup hnodup hnodup']
    rintro ⟨k, m⟩
    rw [Markers.mem_ofGrammar_iff htexts hms, Markers.mem_ofGrammar_iff htexts' hms']
    exact ⟨h.marked, h.symm.marked⟩
  · rw [(hmake htexts).ok_iff, (hmake htexts').ok_iff]
    exact not_congr ⟨fun hr => hr.reordered h, fun hr => hr.reordered h.symm⟩

end Language

namespace Sample

-- Two subtrees far apart give a key two markers.
def torn : Value :=
  .object [("steps", .list [.str "sequence-of", .object [("with", .str "binding-form")]]),
    ("more", .tuple [.object [("with", .str "namespace")], .int 1])]

theorem torn_inconsistent : Markers.Inconsistent torn := by
  have hfirst : Markers.Marked torn (.str "with") .bindingForm :=
    ⟨_, .inside List.mem_cons_self (.inList (.tail _ List.mem_cons_self)
      (.here List.mem_cons_self)), Markers.ofTerm_eq_some_iff.mp rfl⟩
  have hsecond : Markers.Marked torn (.str "with") .nameSpace :=
    ⟨_, .inside (.tail _ List.mem_cons_self) (.inTuple List.mem_cons_self
      (.here List.mem_cons_self)), Markers.ofTerm_eq_some_iff.mp rfl⟩
  exact .twoMarkers hfirst hsecond (by decide)

theorem accepted_iff_consistent_torn :
    Markers.TextKeys torn ∧ (∃ f, Markers.ofGrammar torn = .error (.language f)) ∧
      ∃ f, Language.make (.list (["steps", "more", "with", "bind"].map .str)) (.str "bind") torn
        ([].map .inl) = .error (.language f) := by
  have htexts : Markers.TextKeys torn := by
    intro k t h
    rw [← Markers.mem_given_iff] at h
    simp only [torn, Value.object, List.map, Markers.given, Markers.givenEntries,
      Markers.givenAll, List.append_nil, List.nil_append, List.cons_append, List.mem_cons,
      Prod.mk.injEq, List.not_mem_nil, or_false] at h
    rcases h with ⟨rfl, -⟩ | ⟨rfl, -⟩ | ⟨rfl, -⟩ | ⟨rfl, -⟩ <;> exact ⟨_, rfl⟩
  obtain ⟨⟨hwalk, -⟩, hmake, -⟩ :=
    Language.accepted_iff_consistent htexts ["steps", "more", "with", "bind"] "bind" []
  exact ⟨htexts, hwalk.1 torn_inconsistent, hmake.1 (.inconsistent torn_inconsistent)⟩

end Sample

end Dialect
