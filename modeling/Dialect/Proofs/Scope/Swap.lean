import Dialect.Proofs.Value.Swap

namespace Dialect

variable {l l' : Nat}

theorem forall₂_getElem? {α β : Type} {R : α → β → Prop} {xs : List α} {ys : List β}
    (h : List.Forall₂ R xs ys) (n : Nat) : Option.Rel R xs[n]? ys[n]? := by
  induction h generalizing n with
  | nil => exact .none
  | cons hx _ ih =>
      cases n with
      | zero => exact .some hx
      | succ n => simpa using ih n

theorem forall₂_modify {α β : Type} {R : α → β → Prop} {xs : List α} {ys : List β}
    (h : List.Forall₂ R xs ys) {f : α → α} {g : β → β} (hfg : ∀ x y, R x y → R (f x) (g y))
    (n : Nat) : List.Forall₂ R (xs.modify n f) (ys.modify n g) := by
  induction h generalizing n with
  | nil => simp
  | @cons x y xs ys hx hs ih =>
      cases n with
      | zero => exact .cons (hfg x y hx) hs
      | succ n => exact .cons hx (ih n)

namespace Swapped

theorem find {u v : Value} (h : Swapped l l' u v) (ps : List String) :
    SwappedOutcome (Option.Rel (Swapped l l')) (Path.find u ps) (Path.find v ps) := by
  induction ps generalizing u v with
  | nil => exact .some h
  | cons p ps ih =>
      have hitems : ∀ {xs ys : List Value}, List.Forall₂ (Swapped l l') xs ys →
          SwappedOutcome (Option.Rel (Swapped l l')) (Path.find (.list xs) (p :: ps))
            (Path.find (.list ys) (p :: ps)) := by
        intro xs ys hs
        simp only [Path.find]
        cases Path.index? p with
        | error e => rfl
        | ok i =>
            cases i with
            | none => exact .none
            | some n =>
                simp only [bind, Except.bind, Option.bind_some]
                rcases rel_cases (forall₂_getElem? hs n) with ⟨hx, hy⟩ | ⟨x, y, hx, hy, hxy⟩ <;>
                  rw [hx, hy]
                · exact .none
                · exact ih hxy
      cases h.view with
      | same =>
          refine .of_eq (fun a => ?_) rfl
          cases a with
          | none => exact .none
          | some a => exact .some (.refl a)
      | list hs => exact hitems hs
      | tuple hs => exact hitems hs
      | map hs =>
          simp only [Path.find]
          rcases rel_cases (SwappedEntries.find? hs p) with ⟨hx, hy⟩ | ⟨x, y, hx, hy, hxy⟩ <;>
            rw [hx, hy]
          · exact .none
          · exact ih hxy
      | _ => exact .none

theorem setAt {xs ys : List Value} (h : List.Forall₂ (Swapped l l') xs ys) (p : String)
    {f g : Value → Value} (hfg : ∀ x y, Swapped l l' x y → Swapped l l' (f x) (g y)) :
    List.Forall₂ (Swapped l l') (Path.setAt xs p f) (Path.setAt ys p g) := by
  unfold Path.setAt
  split
  · exact forall₂_modify h hfg _
  · exact h

theorem put {new new' : Value} (hnew : Swapped l l' new new') (ps : List String) {u v : Value}
    (h : Swapped l l' u v) : Swapped l l' (Path.put new ps u) (Path.put new' ps v) := by
  induction ps generalizing u v with
  | nil => exact hnew
  | cons p ps ih =>
      cases u with
      | map es =>
          simp only [Swapped] at h
          obtain ⟨fs, rfl, h⟩ := h
          rw [swappedEntries_iff] at h
          simp only [Path.put]
          refine of_map (SwappedEntries.insert h p (ih ?_))
          rcases rel_cases (SwappedEntries.find? h p) with ⟨hx, hy⟩ | ⟨x, y, hx, hy, hxy⟩ <;>
            rw [hx, hy]
          · exact .refl .null
          · exact hxy
      | list xs =>
          simp only [Swapped] at h
          obtain ⟨ys, rfl, h⟩ := h
          exact of_list (setAt (swappedAll_iff.mp h) p fun _ _ => ih)
      | tuple xs =>
          simp only [Swapped] at h
          obtain ⟨ys, rfl, h⟩ := h
          exact of_tuple (setAt (swappedAll_iff.mp h) p fun _ _ => ih)
      | _ =>
          cases h.view <;> exact h

end Swapped

variable (l l') in
-- The same names with alike values.
abbrev SwappedBindings : Bindings → Bindings → Prop :=
  List.Forall₂ fun e f => e.1 = f.1 ∧ Swapped l l' e.2 f.2

namespace SwappedBindings

variable {b b' : Bindings}

theorem refl (b : Bindings) : SwappedBindings l l' b b :=
  List.forall₂_same.mpr fun _ _ => ⟨rfl, .refl _⟩

theorem single (name : String) {u v : Value} (h : Swapped l l' u v) :
    SwappedBindings l l' [(name, u)] [(name, v)] :=
  .cons ⟨rfl, h⟩ .nil

theorem find? (h : SwappedBindings l l' b b') (name : String) :
    Option.Rel (Swapped l l') (b.find? name) (b'.find? name) := by
  unfold Bindings.find?
  induction h with
  | nil => exact .none
  | @cons e f b b' he _ ih =>
      rw [List.find?_cons, List.find?_cons, he.1]
      cases f.1 == name with
      | true => exact .some he.2
      | false => exact ih

theorem set (h : SwappedBindings l l' b b') (name : String) {u v : Value}
    (huv : Swapped l l' u v) : SwappedBindings l l' (b.set name u) (b'.set name v) := by
  induction h with
  | nil => exact .cons ⟨rfl, huv⟩ .nil
  | @cons e f b b' he hs ih =>
      obtain ⟨n, x⟩ := e
      obtain ⟨m, y⟩ := f
      obtain ⟨hn, hxy⟩ := he
      simp only at hn
      subst hn
      simp only [Bindings.set]
      split
      · exact .cons ⟨rfl, huv⟩ hs
      · exact .cons ⟨rfl, hxy⟩ ih

theorem lookup (h : SwappedBindings l l' b b') (ps : List String) :
    SwappedOutcome (Option.Rel (Swapped l l')) (b.lookup ps) (b'.lookup ps) := by
  cases ps with
  | nil => exact .none
  | cons p ps =>
      simp only [Bindings.lookup]
      rcases rel_cases (h.find? p) with ⟨hx, hy⟩ | ⟨x, y, hx, hy, hxy⟩ <;> rw [hx, hy]
      · exact .none
      · exact hxy.find ps

theorem put (h : SwappedBindings l l' b b') {u v : Value} (huv : Swapped l l' u v)
    (ps : List String) : SwappedBindings l l' (b.put u ps) (b'.put v ps) := by
  cases ps with
  | nil => exact h
  | cons p ps =>
      refine h.set p (Swapped.put huv ps ?_)
      rcases rel_cases (h.find? p) with ⟨hx, hy⟩ | ⟨x, y, hx, hy, hxy⟩ <;> rw [hx, hy]
      · exact .refl .null
      · exact hxy

theorem addAll (h : SwappedBindings l l' b b') {es fs : List (Value × Value)}
    (hs : List.Forall₂ (SwappedPair l l') es fs) :
    SwappedOutcome (SwappedBindings l l') (b.addAll es) (b'.addAll fs) := by
  induction hs generalizing b b' with
  | nil => exact h
  | @cons e f es fs he _ ih =>
      obtain ⟨k, u⟩ := e
      obtain ⟨k', v⟩ := f
      obtain ⟨hk, huv⟩ := he
      cases hk.view with
      | same =>
          cases k with
          | str n => exact ih (h.set n huv)
          | _ => rfl
      | _ => rfl

theorem add (h : SwappedBindings l l' b b') {u v : Value} (huv : Swapped l l' u v) :
    SwappedOutcome (SwappedBindings l l') (b.add u) (b'.add v) := by
  cases u with
  | map es =>
      simp only [Swapped] at huv
      obtain ⟨fs, rfl, hs⟩ := huv
      exact h.addAll (swappedEntries_iff.mp hs)
  | _ => cases huv.view <;> rfl

end SwappedBindings

variable (l l') in
def SwappedScope (a b : Scope) : Prop :=
  a.parent = b.parent ∧ SwappedBindings l l' a.bindings b.bindings

variable (l l') in
-- Stores with the same scopes, up to their runners.
def SwappedStore (s t : Store) : Prop := List.Forall₂ (SwappedScope l l') s.scopes t.scopes

namespace SwappedStore

variable {s t : Store}

theorem refl (s : Store) : SwappedStore l l' s s :=
  List.forall₂_same.mpr fun _ _ => ⟨rfl, .refl _⟩

theorem size_eq (h : SwappedStore l l' s t) : s.size = t.size := List.Forall₂.length_eq h

theorem push (h : SwappedStore l l' s t) (p : Option ScopeId) {b b' : Bindings}
    (hb : SwappedBindings l l' b b') : SwappedStore l l' (s.push p b) (t.push p b') :=
  .cons ⟨rfl, hb⟩ h

theorem scopeIn {xs ys : List Scope} (h : List.Forall₂ (SwappedScope l l') xs ys) (i : ScopeId) :
    Option.Rel (SwappedScope l l') (Store.scopeIn xs i) (Store.scopeIn ys i) := by
  induction h with
  | nil => exact .none
  | @cons sc sc' xs ys hsc hs ih =>
      rw [Store.scopeIn, Store.scopeIn, hs.length_eq]
      split
      · exact .some hsc
      · exact ih

theorem chainIn {xs ys : List Scope} (h : List.Forall₂ (SwappedScope l l') xs ys) (i : ScopeId) :
    List.Forall₂ (fun p q => p.1 = q.1 ∧ SwappedScope l l' p.2 q.2) (Store.chainIn xs i)
      (Store.chainIn ys i) := by
  induction h generalizing i with
  | nil => exact .nil
  | @cons sc sc' xs ys hsc hs ih =>
      rw [Store.chainIn, Store.chainIn, hs.length_eq]
      split
      · refine .cons ⟨rfl, hsc⟩ ?_
        rw [hsc.1]
        cases sc'.parent with
        | none => exact .nil
        | some p => exact ih p
      · exact ih i

-- What is seen from a scope: the same names with alike values, map by map.
theorem view (h : SwappedStore l l' s t) (i : ScopeId) :
    List.Forall₂ (SwappedBindings l l') (s.view i) (t.view i) := by
  refine List.forall₂_map_left_iff.mpr (List.forall₂_map_right_iff.mpr ?_)
  exact (chainIn h i).imp fun _ _ hp => hp.2.2

theorem parent?_eq (h : SwappedStore l l' s t) (i : ScopeId) : s.parent? i = t.parent? i := by
  unfold Store.parent? Store.scope?
  rcases rel_cases (scopeIn h i) with ⟨hx, hy⟩ | ⟨x, y, hx, hy, hxy⟩ <;> rw [hx, hy]
  exact hxy.1

theorem bindings (h : SwappedStore l l' s t) (i : ScopeId) :
    SwappedBindings l l' (s.bindings i) (t.bindings i) := by
  unfold Store.bindings Store.scope?
  rcases rel_cases (scopeIn h i) with ⟨hx, hy⟩ | ⟨x, y, hx, hy, hxy⟩ <;> rw [hx, hy]
  · exact .nil
  · exact hxy.2

theorem updateIn {xs ys : List Scope} (h : List.Forall₂ (SwappedScope l l') xs ys) (i : ScopeId)
    {b b' : Bindings} (hb : SwappedBindings l l' b b') :
    List.Forall₂ (SwappedScope l l') (Store.updateIn i b xs) (Store.updateIn i b' ys) := by
  induction h with
  | nil => exact .nil
  | @cons sc sc' xs ys hsc hs ih =>
      rw [Store.updateIn, Store.updateIn, hs.length_eq]
      split
      · exact .cons ⟨hsc.1, hb⟩ hs
      · exact .cons hsc ih

theorem setBindings (h : SwappedStore l l' s t) (i : ScopeId) {b b' : Bindings}
    (hb : SwappedBindings l l' b b') :
    SwappedStore l l' (s.setBindings i b) (t.setBindings i b') :=
  updateIn h i hb

theorem search {c d : List (ScopeId × Scope)}
    (h : List.Forall₂ (fun p q => p.1 = q.1 ∧ SwappedScope l l' p.2 q.2) c d) (ps : List String) :
    SwappedOutcome (Option.Rel fun p q => p.1 = q.1 ∧ Swapped l l' p.2 q.2) (Store.search ps c)
      (Store.search ps d) := by
  induction h with
  | nil => exact .none
  | @cons p q c d hp _ ih =>
      refine SwappedOutcome.bind (hp.2.2.lookup ps) ?_
      intro a b hab
      cases hab with
      | none => exact ih
      | some hxy => exact .some ⟨hp.1, hxy⟩

theorem locate (h : SwappedStore l l' s t) (i : ScopeId) (path : String) :
    SwappedOutcome (Option.Rel fun p q => p.1 = q.1 ∧ Swapped l l' p.2 q.2) (s.locate i path)
      (t.locate i path) :=
  search (chainIn h i) _

theorem resolve (h : SwappedStore l l' s t) (i : ScopeId) (path : String) :
    SwappedOutcome (Swapped l l') (s.resolve i path) (t.resolve i path) := by
  rw [Store.resolve_eq_locate, Store.resolve_eq_locate]
  refine SwappedOutcome.bind (h.locate i path) ?_
  intro a b hab
  cases hab with
  | none => rfl
  | some hxy => exact hxy.2

theorem getD (h : SwappedStore l l' s t) (i : ScopeId) (path : String) (v : Value) :
    SwappedOutcome (Swapped l l') (s.getD i path v) (t.getD i path v) := by
  rw [Store.getD_eq_locate, Store.getD_eq_locate]
  refine SwappedOutcome.bind (h.locate i path) ?_
  intro a b hab
  cases hab with
  | none => exact Swapped.refl v
  | some hxy => exact hxy.2

theorem owner (h : SwappedStore l l' s t) (i : ScopeId) (path : String) :
    SwappedOutcome Eq (s.owner i path) (t.owner i path) := by
  rw [Store.owner_eq_locate, Store.owner_eq_locate]
  refine SwappedOutcome.bind (h.locate i path) ?_
  intro a b hab
  cases hab with
  | none => rfl
  | some hxy => exact congrArg some hxy.1

theorem bind (h : SwappedStore l l' s t) (i : ScopeId) {u v : Value} (huv : Swapped l l' u v) :
    SwappedOutcome (SwappedStore l l') (s.bind i u) (t.bind i v) :=
  SwappedOutcome.bind ((h.bindings i).add huv) fun _ _ hb => h.setBindings i hb

theorem provide (h : SwappedStore l l' s t) (i : ScopeId) (path : String) {u v : Value}
    (huv : Swapped l l' u v) :
    SwappedOutcome (SwappedStore l l') (s.provide i path u) (t.provide i path v) := by
  refine SwappedOutcome.bind (h.owner i path) ?_
  rintro a b rfl
  cases a with
  | none => rfl
  | some j => exact h.setBindings j ((h.bindings j).put huv _)

mutual

theorem resolveIn (h : SwappedStore l l' s t) (i : ScopeId) {u v : Value}
    (huv : Swapped l l' u v) :
    SwappedOutcome (Swapped l l') (s.resolveIn i u) (t.resolveIn i v) := by
  cases u with
  | str p =>
      simp only [Swapped] at huv
      subst huv
      exact h.resolve i p
  | list xs =>
      simp only [Swapped] at huv
      obtain ⟨ys, rfl, huv⟩ := huv
      exact SwappedOutcome.bind (resolveAll h i huv) fun _ _ hs => Swapped.of_list hs
  | tuple xs =>
      simp only [Swapped] at huv
      obtain ⟨ys, rfl, huv⟩ := huv
      exact SwappedOutcome.bind (resolveAll h i huv) fun _ _ hs => Swapped.of_tuple hs
  | map es =>
      simp only [Swapped] at huv
      obtain ⟨fs, rfl, huv⟩ := huv
      exact SwappedOutcome.bind (resolveEntries h i huv) fun _ _ hs => Swapped.of_map hs
  | _ => cases huv.view <;> exact huv

theorem resolveAll (h : SwappedStore l l' s t) (i : ScopeId) {xs ys : List Value}
    (hs : SwappedAll l l' xs ys) :
    SwappedOutcome (List.Forall₂ (Swapped l l')) (s.resolveAll i xs) (t.resolveAll i ys) := by
  cases xs with
  | nil =>
      simp only [SwappedAll] at hs
      subst hs
      exact .nil
  | cons x xs =>
      simp only [SwappedAll] at hs
      obtain ⟨y, ys, rfl, hx, hs⟩ := hs
      exact SwappedOutcome.bind (resolveIn h i hx) fun _ _ hab =>
        SwappedOutcome.bind (resolveAll h i hs) fun _ _ hrest => .cons hab hrest

theorem resolveEntries (h : SwappedStore l l' s t) (i : ScopeId) {es fs : List (Value × Value)}
    (hs : SwappedEntries l l' es fs) :
    SwappedOutcome (List.Forall₂ (SwappedPair l l')) (s.resolveEntries i es)
      (t.resolveEntries i fs) := by
  cases es with
  | nil =>
      simp only [SwappedEntries] at hs
      subst hs
      exact .nil
  | cons e es =>
      obtain ⟨k, v⟩ := e
      simp only [SwappedEntries] at hs
      obtain ⟨k', v', fs, rfl, hk, hv, hs⟩ := hs
      exact SwappedOutcome.bind (resolveIn h i hv) fun _ _ hab =>
        SwappedOutcome.bind (resolveEntries h i hs) fun _ _ hrest => .cons ⟨hk, hab⟩ hrest

end

end SwappedStore

end Dialect
