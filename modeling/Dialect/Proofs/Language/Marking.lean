import Dialect.Proofs.Language.Derivation

namespace Dialect

namespace Markers

-- Some mapping in the grammar gives a key a term.
inductive Gives : Value → Value → Value → Prop where
  | here {es : List (Value × Value)} {k t : Value} (mem : (k, t) ∈ es) : Gives (.map es) k t
  | inside {es : List (Value × Value)} {e : Value × Value} {k t : Value} (mem : e ∈ es)
      (gives : Gives e.2 k t) : Gives (.map es) k t
  | inList {xs : List Value} {x k t : Value} (mem : x ∈ xs) (gives : Gives x k t) :
      Gives (.list xs) k t
  | inTuple {xs : List Value} {x k t : Value} (mem : x ∈ xs) (gives : Gives x k t) :
      Gives (.tuple xs) k t

-- A term stands for a marker: its word, or a pair whose first part is the word for sequences.
inductive Means : Value → Marker → Prop where
  | word {m : Marker} (h : m ≠ .sequenceOf) : Means (.str m.text) m
  | list (v : Value) : Means (.list [.str Marker.sequenceOf.text, v]) .sequenceOf
  | tuple (v : Value) : Means (.tuple [.str Marker.sequenceOf.text, v]) .sequenceOf

-- A key is given a marker somewhere in a grammar.
def Marked (grammar key : Value) (m : Marker) : Prop :=
  ∃ t, Gives grammar key t ∧ Means t m

-- All keys that are given anything are texts.
def TextKeys (grammar : Value) : Prop :=
  ∀ k t, Gives grammar k t → ∃ s, k = .str s

-- A key is given a text that is no marker's word, or two markers.
inductive Inconsistent (grammar : Value) : Prop where
  | unknownWord {k : Value} {w : String} (gives : Gives grammar k (.str w))
      (unknown : ∀ m, ¬Means (.str w) m)
  | twoMarkers {k : Value} {m m' : Marker} (first : Marked grammar k m)
      (second : Marked grammar k m') (ne : m ≠ m')

section

variable {t : Value} {m : Marker}

theorem ofTerm_eq_some_iff : ofTerm t = .ok (some m) ↔ Means t m := by
  constructor
  · intro h
    unfold ofTerm at h
    split at h
    · rename_i s
      cases hword : Marker.ofWord? s with
      | none => simp [hword] at h
      | some m' =>
          obtain ⟨hne, rfl⟩ := Marker.ofWord?_eq_some_iff.mp hword
          simp only [hword, Except.ok.injEq, Option.some.injEq] at h
          exact h ▸ .word hne
    · cases h
      exact .list _
    · cases h
      exact .tuple _
    · cases h
  · rintro (hne | v | v)
    · have hword := Marker.ofWord?_eq_some_iff.mpr ⟨hne, rfl⟩
      simp only [ofTerm, hword]
    · rfl
    · rfl

end

mutual

-- All that a grammar gives, in the order of the walk.
def given : Value → List (Value × Value)
  | .list xs => givenAll xs
  | .tuple xs => givenAll xs
  | .map es => givenEntries es
  | _ => []

def givenAll : List Value → List (Value × Value)
  | [] => []
  | v :: vs => given v ++ givenAll vs

def givenEntries : List (Value × Value) → List (Value × Value)
  | [] => []
  | (k, term) :: es => (k, term) :: given term ++ givenEntries es

end

mutual

theorem mem_given_iff {v k t : Value} : (k, t) ∈ given v ↔ Gives v k t := by
  cases v with
  | list xs =>
      rw [given, mem_givenAll_iff]
      exact ⟨fun ⟨_, hx, hg⟩ => .inList hx hg, fun | .inList hx hg => ⟨_, hx, hg⟩⟩
  | tuple xs =>
      rw [given, mem_givenAll_iff]
      exact ⟨fun ⟨_, hx, hg⟩ => .inTuple hx hg, fun | .inTuple hx hg => ⟨_, hx, hg⟩⟩
  | map es =>
      rw [given, mem_givenEntries_iff]
      constructor
      · rintro (hmem | ⟨e, he, hg⟩)
        · exact .here hmem
        · exact .inside he hg
      · rintro (hmem | ⟨he, hg⟩)
        · exact .inl hmem
        · exact .inr ⟨_, he, hg⟩
  | _ =>
      simp only [given, List.not_mem_nil, false_iff]
      exact nofun

theorem mem_givenAll_iff {vs : List Value} {k t : Value} :
    (k, t) ∈ givenAll vs ↔ ∃ v ∈ vs, Gives v k t := by
  cases vs with
  | nil => simp [givenAll]
  | cons v vs =>
      rw [givenAll, List.mem_append, mem_given_iff, mem_givenAll_iff, List.exists_mem_cons_iff]

theorem mem_givenEntries_iff {es : List (Value × Value)} {k t : Value} :
    (k, t) ∈ givenEntries es ↔ (k, t) ∈ es ∨ ∃ e ∈ es, Gives e.2 k t := by
  cases es with
  | nil => simp [givenEntries]
  | cons e es =>
      obtain ⟨k', term⟩ := e
      rw [givenEntries, List.cons_append, List.mem_cons, List.mem_append, mem_given_iff,
        mem_givenEntries_iff, List.mem_cons, List.exists_mem_cons_iff]
      tauto

end

-- Notes the marker that a term stands for, if it does.
def noteTerm (found : Markers) (e : Value × Value) : Except Error Markers := do
  note found e.1 (← ofTerm e.2)

mutual

-- The walk notes what is given, one term after the other.
theorem walk_eq_foldlM (found : Markers) (v : Value) :
    walk found v = (given v).foldlM noteTerm found := by
  cases v with
  | list xs => rw [walk, given, walkAll_eq_foldlM]
  | tuple xs => rw [walk, given, walkAll_eq_foldlM]
  | map es => rw [walk, given, walkEntries_eq_foldlM]
  | _ => rfl

theorem walkAll_eq_foldlM (found : Markers) (vs : List Value) :
    walkAll found vs = (givenAll vs).foldlM noteTerm found := by
  cases vs with
  | nil => rfl
  | cons v vs =>
      rw [walkAll, givenAll, List.foldlM_append, walk_eq_foldlM]
      exact congrArg _ (funext fun mid => walkAll_eq_foldlM mid vs)

theorem walkEntries_eq_foldlM (found : Markers) (es : List (Value × Value)) :
    walkEntries found es = (givenEntries es).foldlM noteTerm found := by
  cases es with
  | nil => rfl
  | cons e es =>
      obtain ⟨k, term⟩ := e
      rw [walkEntries, givenEntries, List.cons_append, List.foldlM_cons, noteTerm]
      simp only [bind_assoc, List.foldlM_append, walk_eq_foldlM, walkEntries_eq_foldlM]

end

-- A key has a marker already, or is still given it.
def Holds (found : Markers) (es : List (Value × Value)) (k : Value) (m : Marker) : Prop :=
  (k, m) ∈ found ∨ ∃ t, (k, t) ∈ es ∧ Means t m

section

variable {found out : Markers} {es : List (Value × Value)}

theorem mem_noteTerm {k : String} {t : Value} (h : noteTerm found (.str k, t) = .ok out)
    {e : Value × Marker} : e ∈ out ↔ e ∈ found ∨ e.1 = .str k ∧ Means t e.2 := by
  obtain ⟨noted, hterm, h⟩ := exists_of_bind_eq_ok h
  have hmeans : ∀ m, Means t m ↔ noted = some m := by
    intro m
    rw [← ofTerm_eq_some_iff, hterm, Except.ok.injEq]
  cases noted with
  | none =>
      cases h
      simp [hmeans]
  | some m =>
      have hmem : e.1 = .str k ∧ Means t e.2 ↔ e = (.str k, m) := by
        rw [hmeans, Option.some.injEq, Prod.ext_iff, eq_comm (a := m)]
      rw [note] at h
      rw [hmem]
      cases hf : found.find? (.str k) with
      | none =>
          rw [hf] at h
          cases h
          rw [List.mem_append, List.mem_singleton]
      | some first =>
          simp only [hf] at h
          split at h
          · rename_i hfirst
            cases h
            have hfound : (.str k, m) ∈ found := hfirst ▸ mem_of_find?_eq_some hf
            constructor
            · exact .inl
            · rintro (hmem | rfl)
              · exact hmem
              · exact hfound
          · cases h

-- Noting a term moves it from what is given to what is found.
theorem holds_noteTerm {k : String} {t : Value} (h : noteTerm found (.str k, t) = .ok out)
    (k' : Value) (m : Marker) : Holds out es k' m ↔ Holds found ((.str k, t) :: es) k' m := by
  unfold Holds
  rw [mem_noteTerm h, or_assoc]
  refine or_congr_right ?_
  simp only [List.mem_cons, Prod.mk.injEq, or_and_right, exists_or, and_assoc, exists_and_left,
    exists_eq_left]

theorem noted_noteTerm {e : Value × Value} (h : noteTerm found e = .ok out) : Noted found out := by
  obtain ⟨m, -, h⟩ := exists_of_bind_eq_ok h
  exact noted_note h

-- By induction on what is given, with what was found before kept in view.
theorem mem_foldlM (hkeys : ∀ e ∈ es, ∃ k, e.1 = .str k) (h : es.foldlM noteTerm found = .ok out)
    (k : Value) (m : Marker) : (k, m) ∈ out ↔ Holds found es k m := by
  induction es generalizing found with
  | nil =>
      cases h
      simp [Holds]
  | cons e es ih =>
      obtain ⟨k', t⟩ := e
      obtain ⟨s, rfl : k' = .str s⟩ := hkeys _ List.mem_cons_self
      rw [List.foldlM_cons] at h
      obtain ⟨mid, hnote, hrest⟩ := exists_of_bind_eq_ok h
      rw [← holds_noteTerm hnote]
      exact ih (fun e he => hkeys e (List.mem_cons_of_mem _ he)) hrest

end

section

variable {grammar : Value} {ms : Markers}

theorem TextKeys.given (h : TextKeys grammar) : ∀ e ∈ given grammar, ∃ k, e.1 = .str k :=
  fun e he => h e.1 e.2 (mem_given_iff.mp he)

theorem holds_given_iff {k : Value} {m : Marker} :
    Holds [] (given grammar) k m ↔ Marked grammar k m := by
  simp [Holds, Marked, mem_given_iff]

-- A grammar that passes the walk has the markers that it gives.
theorem mem_ofGrammar_iff (hkeys : TextKeys grammar) (h : ofGrammar grammar = .ok ms)
    (k : Value) (m : Marker) : (k, m) ∈ ms ↔ Marked grammar k m := by
  rw [ofGrammar, walk_eq_foldlM] at h
  rw [mem_foldlM hkeys.given h, holds_given_iff]

theorem exists_text_of_mem (hkeys : TextKeys grammar) (h : ofGrammar grammar = .ok ms)
    {e : Value × Marker} (he : e ∈ ms) : ∃ k, e.1 = .str k := by
  obtain ⟨t, hgives, -⟩ := (mem_ofGrammar_iff hkeys h e.1 e.2).mp he
  exact hkeys e.1 t hgives

-- No key is found twice.
theorem nodup_keys_ofGrammar (hkeys : TextKeys grammar) (h : ofGrammar grammar = .ok ms) :
    (ms.map (·.1)).Nodup := by
  have htexts := fun e (he : e ∈ ms) => exists_text_of_mem hkeys h he
  obtain ⟨new, rfl, -, hpair⟩ := noted_walk h
  rw [List.Nodup, List.pairwise_map]
  refine hpair.imp_of_mem fun he hf hsame => ?_
  rintro heq
  obtain ⟨k, hk⟩ := htexts _ he
  rw [← heq, hk, Bool.eq_false_iff] at hsame
  exact hsame (Value.same_str_iff.mpr rfl)

end

-- Grammars that differ in the order of the entries of their mappings, at any depth.
inductive Reordered : Value → Value → Prop where
  | refl (v : Value) : Reordered v v
  | trans {u v w : Value} (first : Reordered u v) (second : Reordered v w) : Reordered u w
  | perm {es fs : List (Value × Value)} (perm : es.Perm fs) : Reordered (.map es) (.map fs)
  | inMap {before after : List (Value × Value)} {k v w : Value} (inner : Reordered v w) :
      Reordered (.map (before ++ (k, v) :: after)) (.map (before ++ (k, w) :: after))
  | inList {before after : List Value} {v w : Value} (inner : Reordered v w) :
      Reordered (.list (before ++ v :: after)) (.list (before ++ w :: after))
  | inTuple {before after : List Value} {v w : Value} (inner : Reordered v w) :
      Reordered (.tuple (before ++ v :: after)) (.tuple (before ++ w :: after))

namespace Reordered

variable {g g' : Value}

theorem symm (h : Reordered g g') : Reordered g' g := by
  induction h with
  | refl v => exact .refl v
  | trans _ _ ih ih' => exact .trans ih' ih
  | perm hperm => exact .perm hperm.symm
  | inMap _ ih => exact .inMap ih
  | inList _ ih => exact .inList ih
  | inTuple _ ih => exact .inTuple ih

theorem eq_of_str {w : String} (h : Reordered (.str w) g) : g = .str w := by
  generalize hv : Value.str w = v at h
  induction h with
  | refl => rfl
  | trans _ _ ih ih' =>
      obtain rfl := ih hv
      exact ih' hv
  | _ => cases hv

-- An item of a sequence in which one was replaced stands for an item of the sequence before.
theorem exists_of_mem {α : Type} {before after : List α} {v w x : α}
    (hx : x ∈ before ++ v :: after) : x = v ∧ w ∈ before ++ w :: after ∨
      x ∈ before ++ w :: after := by
  simp only [List.mem_append, List.mem_cons] at hx ⊢
  tauto

-- What a grammar gives, the other gives up to order.
theorem gives (h : Reordered g g') {k t : Value} (hgives : Gives g k t) :
    ∃ t', Gives g' k t' ∧ Reordered t t' := by
  induction h generalizing k t with
  | refl v => exact ⟨t, hgives, .refl t⟩
  | trans _ _ ih ih' =>
      obtain ⟨u, hu, htu⟩ := ih hgives
      obtain ⟨t', ht', hut⟩ := ih' hu
      exact ⟨t', ht', .trans htu hut⟩
  | perm hperm =>
      cases hgives with
      | here hmem => exact ⟨t, .here (hperm.mem_iff.mp hmem), .refl t⟩
      | inside hmem hgives => exact ⟨t, .inside (hperm.mem_iff.mp hmem) hgives, .refl t⟩
  | @inMap before after key v w hinner ih =>
      cases hgives with
      | here hmem =>
          rcases exists_of_mem (w := (key, w)) hmem with ⟨heq, hmem'⟩ | hmem'
          · cases heq
            exact ⟨w, .here hmem', hinner⟩
          · exact ⟨t, .here hmem', .refl t⟩
      | inside hmem hgives =>
          rcases exists_of_mem (w := (key, w)) hmem with ⟨rfl, hmem'⟩ | hmem'
          · obtain ⟨t', ht', htt⟩ := ih hgives
            exact ⟨t', .inside hmem' ht', htt⟩
          · exact ⟨t, .inside hmem' hgives, .refl t⟩
  | @inList before after v w _ ih =>
      cases hgives with
      | inList hmem hgives =>
          rcases exists_of_mem (w := w) hmem with ⟨rfl, hmem'⟩ | hmem'
          · obtain ⟨t', ht', htt⟩ := ih hgives
            exact ⟨t', .inList hmem' ht', htt⟩
          · exact ⟨t, .inList hmem' hgives, .refl t⟩
  | @inTuple before after v w _ ih =>
      cases hgives with
      | inTuple hmem hgives =>
          rcases exists_of_mem (w := w) hmem with ⟨rfl, hmem'⟩ | hmem'
          · obtain ⟨t', ht', htt⟩ := ih hgives
            exact ⟨t', .inTuple hmem' ht', htt⟩
          · exact ⟨t, .inTuple hmem' hgives, .refl t⟩

-- The first part of such a pair is a text, so only the second can be reordered.
theorem exists_pair {before after : List Value} {v v' x : Value} {w : String}
    (h : before ++ v :: after = [.str w, x]) (hv : Reordered v v') :
    ∃ y, before ++ v' :: after = [.str w, y] := by
  obtain ⟨rfl, hfirst⟩ | ⟨rest, rfl, hrest⟩ := List.append_eq_cons_iff.mp h
  · cases hfirst
    exact ⟨x, by rw [hv.eq_of_str, List.nil_append]⟩
  · obtain ⟨rfl, hsecond⟩ | ⟨rest', rfl, hnil⟩ := List.append_eq_cons_iff.mp hrest.symm
    · cases hsecond
      exact ⟨v', rfl⟩
    · simp at hnil

theorem means (h : Reordered g g') {m : Marker} (hm : Means g m) : Means g' m := by
  induction h with
  | refl v => exact hm
  | trans _ _ ih ih' => exact ih' (ih hm)
  | perm _ => cases hm
  | inMap _ _ => cases hm
  | @inList before after v w hinner _ =>
      generalize hxs : before ++ v :: after = xs at hm
      cases hm with
      | list x =>
          obtain ⟨y, hy⟩ := exists_pair hxs hinner
          exact hy ▸ .list y
  | @inTuple before after v w hinner _ =>
      generalize hxs : before ++ v :: after = xs at hm
      cases hm with
      | tuple x =>
          obtain ⟨y, hy⟩ := exists_pair hxs hinner
          exact hy ▸ .tuple y

theorem marked (h : Reordered g g') {k : Value} {m : Marker} (hm : Marked g k m) :
    Marked g' k m := by
  obtain ⟨t, hgives, hmeans⟩ := hm
  obtain ⟨t', hgives', ht⟩ := h.gives hgives
  exact ⟨t', hgives', ht.means hmeans⟩

theorem textKeys (h : Reordered g g') (hkeys : TextKeys g) : TextKeys g' := by
  intro k t hgives
  obtain ⟨t', hgives', -⟩ := h.symm.gives hgives
  exact hkeys k t' hgives'

theorem inconsistent (h : Reordered g g') (hbad : Inconsistent g) : Inconsistent g' := by
  cases hbad with
  | unknownWord hgives hunknown =>
      obtain ⟨t', hgives', ht⟩ := h.gives hgives
      obtain rfl := ht.eq_of_str
      exact .unknownWord hgives' hunknown
  | twoMarkers hfirst hsecond hne => exact .twoMarkers (h.marked hfirst) (h.marked hsecond) hne

end Reordered

end Markers

end Dialect
