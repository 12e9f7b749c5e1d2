import Dialect.Proofs.Expr.Memory
import Dialect.Proofs.Scope.Growth
import Dialect.Proofs.Scope.Relabel

namespace Dialect

open Dialect.Expr (Compiled Evaluator)

-- The same value, whatever the labels of its functions.
def Value.Twin (u v : Value) : Prop := u.relabel .blank = v.relabel .blank

-- The same names with twin values.
def Bindings.Twin (b c : Bindings) : Prop := b.relabel .blank = c.relabel .blank

-- Outcomes that agree after a reading are alike.
theorem SwappedOutcome.of_map {α β γ : Type} {x : Except Error α} {y : Except Error β} {f : α → γ}
    {g : β → γ} (h : x.map f = y.map g) : SwappedOutcome (fun a b => f a = g b) x y := by
  cases x <;> cases y
  · exact Except.error.inj h
  · cases h
  · cases h
  · exact Except.ok.inj h

theorem SwappedOutcome.imp {α β : Type} {R S : α → β → Prop} (hRS : ∀ a b, R a b → S a b)
    {x : Except Error α} {y : Except Error β} (h : SwappedOutcome R x y) :
    SwappedOutcome S x y := by
  cases x <;> cases y
  · exact h
  · exact h
  · exact h
  · exact hRS _ _ h

-- Two functions that are compiled from the same expression differ in their labels only.
theorem Expr.Compiled.Renders.relabel_blank_eq {f g : Compiled} {source : String}
    {params : List Value} (hf : f.Renders source params) (hg : g.Renders source params) :
    f.relabel .blank = g.relabel .blank := by
  have hbody : f.body = g.body := Except.ok.inj (hf.body_eq.symm.trans hg.body_eq)
  unfold relabel
  rw [hf.source_eq, hg.source_eq, hf.slots_eq, hg.slots_eq, hbody]
  rfl

namespace Value.Twin

variable {u v u' v' : Value}

theorem refl (v : Value) : v.Twin v := rfl

-- What does not depend on labels is the same for twins.
theorem congr {α : Type} (h : u.Twin v) {g : Value → α}
    (hg : ∀ v, g (v.relabel .blank) = g v) : g u = g v := by
  rw [← hg u, h, hg v]

theorem all_iff {xs ys : List Value} :
    List.Forall₂ Twin xs ys ↔ xs.map (relabel .blank) = ys.map (relabel .blank) := by
  rw [← List.forall₂_eq_eq_eq, List.forall₂_map_left_iff, List.forall₂_map_right_iff]
  rfl

theorem of_list {xs ys : List Value} (h : List.Forall₂ Twin xs ys) : (list xs).Twin (list ys) := by
  unfold Twin
  rw [relabel_list, relabel_list, all_iff.mp h]

theorem of_object (name : String) (h : u.Twin v) :
    (object [(name, u)]).Twin (object [(name, v)]) := by
  unfold Twin object
  simp only [relabel_map, List.map_cons, List.map_nil, relabelEntry]
  rw [h]

theorem of_compiled {f g : Compiled} (h : f.relabel .blank = g.relabel .blank) :
    (compiled f).Twin (compiled g) := by
  unfold Twin
  rw [relabel, relabel, h]

theorem of_keep {f g : Compiled} (h : f.relabel .blank = g.relabel .blank) (i j : ScopeId) :
    (keep f i).Twin (keep g j) := by
  unfold Twin
  rw [relabel, relabel, h]
  rfl

theorem of_branch {args args' : List Value} (h : List.Forall₂ Twin args args')
    {test test' yes yes' no no' : Compiled} (htest : test.relabel .blank = test'.relabel .blank)
    (hyes : yes.relabel .blank = yes'.relabel .blank)
    (hno : no.relabel .blank = no'.relabel .blank) (i j : ScopeId) :
    (branch args test yes no i).Twin (branch args' test' yes' no' j) := by
  unfold Twin
  simp only [relabel, relabelAll_eq_map, all_iff.mp h, htest, hyes, hno]
  rfl

theorem atName (h : u.Twin v) (p : String) : SwappedOutcome Twin (u.atName p) (v.atName p) := by
  refine .of_map ?_
  rw [← atName_relabel, h, atName_relabel]

theorem members (h : u.Twin v) : SwappedOutcome (List.Forall₂ Twin) u.members v.members := by
  have hmap : u.members.map (List.map (relabel .blank)) =
      v.members.map (List.map (relabel .blank)) :=
    h.congr (g := fun x => x.members.map (List.map (relabel .blank))) (members_relabel .blank)
  exact (SwappedOutcome.of_map hmap).imp fun _ _ => all_iff.mpr

theorem spread (h : u.Twin v) : SwappedOutcome (List.Forall₂ Twin) u.spread v.spread := by
  have hmap : u.spread.map (List.map (relabel .blank)) =
      v.spread.map (List.map (relabel .blank)) :=
    h.congr (g := fun x => x.spread.map (List.map (relabel .blank))) (spread_relabel .blank)
  exact (SwappedOutcome.of_map hmap).imp fun _ _ => all_iff.mpr

theorem add (h : u.Twin v) (h' : u'.Twin v') : SwappedOutcome Twin (u.add u') (v.add v') := by
  refine .of_map ?_
  rw [← add_relabel, h, h', add_relabel]

-- The entry of a mapping at a name, or nothing.
theorem entry {es fs : List (Value × Value)} (h : (map es).Twin (map fs)) (p : String) :
    ((find? es (str p)).getD null).Twin ((find? fs (str p)).getD null) := by
  unfold Twin at h
  rw [relabel_map, relabel_map] at h
  have hfind : (find? es (str p)).map (relabel .blank) =
      (find? fs (str p)).map (relabel .blank) := by
    rw [← find?_relabel, Value.map.inj h, find?_relabel]
  unfold Twin
  rw [← Option.getD_map (relabel .blank), ← Option.getD_map (relabel .blank), hfind]

-- Whatever evaluators have compiled before, they compile twins alike.
theorem compile (h : u.Twin v) {e e' : Evaluator} (he : e.Faithful) (he' : e'.Faithful)
    (params : List String) :
    SwappedOutcome (fun f g => f.relabel .blank = g.relabel .blank)
      (e.compile u (tuple (params.map str))).1 (e'.compile v (tuple (params.map str))).1 := by
  rw [← compile_relabel .blank u, h, compile_relabel]
  cases v with
  | str source =>
      rw [Evaluator.compile_str e source rfl, Evaluator.compile_str e' source rfl]
      have hleft := he.compileText_names source params
      have hright := he'.compileText_names source params
      cases hbody : Expr.body source (params.map some) with
      | error x =>
          rw [hbody] at hleft hright
          rw [hleft, hright]
          rfl
      | ok tree =>
          rw [hbody] at hleft hright
          obtain ⟨f, hf, hfrenders⟩ := hleft
          obtain ⟨g, hg, hgrenders⟩ := hright
          rw [hf, hg]
          exact hfrenders.relabel_blank_eq hgrenders
  | _ =>
      simp only [Evaluator.compile]
      split <;> rfl

end Value.Twin

namespace Bindings.Twin

variable {b c : Bindings}

theorem refl (b : Bindings) : b.Twin b := rfl

theorem single (name : String) {u v : Value} (h : u.Twin v) :
    Bindings.Twin [(name, u)] [(name, v)] := by
  unfold Twin relabel
  rw [List.map_cons, List.map_cons, h]

theorem add (h : b.Twin c) {u v : Value} (huv : u.Twin v) :
    SwappedOutcome Twin (b.add u) (c.add v) := by
  refine .of_map ?_
  rw [← add_relabel, h, huv, add_relabel]

theorem put (h : b.Twin c) {u v : Value} (huv : u.Twin v) (ps : List String) :
    (b.put u ps).Twin (c.put v ps) := by
  unfold Twin
  rw [put_relabel, put_relabel, h, huv]

theorem lookup (h : b.Twin c) (ps : List String) :
    SwappedOutcome (Option.Rel Value.Twin) (b.lookup ps) (c.lookup ps) := by
  have hmap : relabelFound .blank (b.lookup ps) = relabelFound .blank (c.lookup ps) := by
    rw [← lookup_relabel, h, lookup_relabel]
  refine (SwappedOutcome.of_map hmap).imp fun x y hxy => ?_
  cases x <;> cases y
  · exact .none
  · cases hxy
  · cases hxy
  · exact .some (Option.some.inj hxy)

end Bindings.Twin

namespace Store

-- The same scope, counted from where two stores end.
def Above (s₀ t₀ : Store) (i j : ScopeId) : Prop := ∃ k, i = s₀.size + k ∧ j = t₀.size + k

structure TwinScope (s₀ t₀ : Store) (a b : Scope) : Prop where
  parent : Option.Rel (Above s₀ t₀) a.parent b.parent
  bindings : a.bindings.Twin b.bindings

-- Scopes that were opened above two stores, the newest first.
inductive TwinScopes (s₀ t₀ : Store) : List Scope → List Scope → Prop where
  | base : TwinScopes s₀ t₀ s₀.scopes t₀.scopes
  | opened {a b : Scope} {xs ys : List Scope} (scope : TwinScope s₀ t₀ a b)
      (older : TwinScopes s₀ t₀ xs ys) : TwinScopes s₀ t₀ (a :: xs) (b :: ys)

-- Two stores have gone on alike from two older ones.
def Twins (s₀ t₀ s t : Store) : Prop := TwinScopes s₀ t₀ s.scopes t.scopes

variable {s₀ t₀ : Store}

theorem Above.eq_iff {i j i' j' : ScopeId} (h : Above s₀ t₀ i j) (h' : Above s₀ t₀ i' j') :
    i = i' ↔ j = j' := by
  obtain ⟨k, rfl, rfl⟩ := h
  obtain ⟨k', rfl, rfl⟩ := h'
  exact Nat.add_left_cancel_iff.trans Nat.add_left_cancel_iff.symm

theorem chain_of_size_le (s : Store) {i : ScopeId} (h : s.size ≤ i) : s.chain i = [] := by
  obtain ⟨scopes⟩ := s
  unfold chain size at *
  induction scopes with
  | nil => rfl
  | cons newest older ih =>
      have hlt : older.length < i := h
      rw [chainIn, if_neg (Nat.ne_of_gt hlt)]
      exact ih (Nat.le_of_lt hlt)

theorem scope?_of_size_le (s : Store) {i : ScopeId} (h : s.size ≤ i) : s.scope? i = none := by
  cases hi : s.scope? i with
  | none => rfl
  | some sc => exact absurd (lt_size_of_scope? hi) (Nat.not_lt.mpr h)

theorem setBindings_of_size_le (s : Store) {i : ScopeId} (h : s.size ≤ i) (b : Bindings) :
    s.setBindings i b = s := by
  obtain ⟨scopes⟩ := s
  unfold setBindings size at *
  congr 1
  induction scopes with
  | nil => rfl
  | cons newest older ih =>
      have hlt : older.length < i := h
      rw [updateIn, if_neg (Nat.ne_of_gt hlt), ih (Nat.le_of_lt hlt)]

namespace TwinScopes

variable {xs ys : List Scope} {i j : ScopeId}

theorem length_above (h : TwinScopes s₀ t₀ xs ys) : Above s₀ t₀ xs.length ys.length := by
  induction h with
  | base => exact ⟨0, rfl, rfl⟩
  | opened _ _ ih =>
      obtain ⟨k, hx, hy⟩ := ih
      exact ⟨k + 1, by rw [List.length_cons, hx]; rfl, by rw [List.length_cons, hy]; rfl⟩

theorem scopeIn (h : TwinScopes s₀ t₀ xs ys) (hij : Above s₀ t₀ i j) :
    Option.Rel (TwinScope s₀ t₀) (Store.scopeIn xs i) (Store.scopeIn ys j) := by
  induction h with
  | base =>
      obtain ⟨k, rfl, rfl⟩ := hij
      have hleft := s₀.scope?_of_size_le (Nat.le_add_right _ k)
      have hright := t₀.scope?_of_size_le (Nat.le_add_right _ k)
      unfold scope? at hleft hright
      rw [hleft, hright]
      exact .none
  | opened scope older ih =>
      simp only [Store.scopeIn, hij.eq_iff older.length_above]
      split
      · exact .some scope
      · exact ih

theorem chainIn (h : TwinScopes s₀ t₀ xs ys) (hij : Above s₀ t₀ i j) :
    List.Forall₂ (fun p q => Above s₀ t₀ p.1 q.1 ∧ TwinScope s₀ t₀ p.2 q.2) (Store.chainIn xs i)
      (Store.chainIn ys j) := by
  induction h generalizing i j with
  | base =>
      obtain ⟨k, rfl, rfl⟩ := hij
      have hleft := s₀.chain_of_size_le (Nat.le_add_right _ k)
      have hright := t₀.chain_of_size_le (Nat.le_add_right _ k)
      unfold chain at hleft hright
      rw [hleft, hright]
      exact .nil
  | @opened a b xs ys scope older ih =>
      simp only [Store.chainIn, hij.eq_iff older.length_above]
      split
      · refine .cons ⟨hij, scope⟩ ?_
        rcases rel_cases scope.parent with ⟨ha, hb⟩ | ⟨p, q, ha, hb, hpq⟩ <;> rw [ha, hb]
        · exact .nil
        · exact ih hpq
      · exact ih hij

theorem updateIn (h : TwinScopes s₀ t₀ xs ys) (hij : Above s₀ t₀ i j) {b c : Bindings}
    (hbc : b.Twin c) : TwinScopes s₀ t₀ (Store.updateIn i b xs) (Store.updateIn j c ys) := by
  induction h with
  | base =>
      obtain ⟨k, rfl, rfl⟩ := hij
      have hleft := congrArg scopes (s₀.setBindings_of_size_le (Nat.le_add_right _ k) b)
      have hright := congrArg scopes (t₀.setBindings_of_size_le (Nat.le_add_right _ k) c)
      unfold setBindings at hleft hright
      simp only [] at hleft hright
      rw [hleft, hright]
      exact .base
  | opened scope older ih =>
      simp only [Store.updateIn, hij.eq_iff older.length_above]
      split
      · exact .opened ⟨scope.parent, hbc⟩ older
      · exact .opened scope ih

end TwinScopes

namespace Twins

variable {s t : Store} {i j : ScopeId}

theorem refl (s t : Store) : Twins s t s t := .base

theorem size_above (h : Twins s₀ t₀ s t) : Above s₀ t₀ s.size t.size := TwinScopes.length_above h

theorem push (h : Twins s₀ t₀ s t) {p q : Option ScopeId} (hpq : Option.Rel (Above s₀ t₀) p q)
    {b c : Bindings} (hbc : b.Twin c) : Twins s₀ t₀ (s.push p b) (t.push q c) :=
  .opened ⟨hpq, hbc⟩ h

-- What was there before is there still.
theorem left_suffix (h : Twins s₀ t₀ s t) : s₀.scopes <:+ s.scopes := by
  unfold Twins at h
  generalize s.scopes = xs at h
  generalize t.scopes = ys at h
  induction h with
  | base => exact List.suffix_rfl
  | opened _ _ ih => exact ih.trans (List.suffix_cons _ _)

theorem view (h : Twins s₀ t₀ s t) (hij : Above s₀ t₀ i j) :
    (s.view i).map (Bindings.relabel .blank) = (t.view j).map (Bindings.relabel .blank) := by
  have hchain := TwinScopes.chainIn h hij
  unfold Store.view chain
  rw [List.map_map, List.map_map]
  generalize chainIn s.scopes i = c at hchain
  generalize chainIn t.scopes j = d at hchain
  induction hchain with
  | nil => rfl
  | cons hp _ ih =>
      rw [List.map_cons, List.map_cons, ih]
      exact congrArg (· :: _) hp.2.bindings

theorem parent? (h : Twins s₀ t₀ s t) (hij : Above s₀ t₀ i j) :
    Option.Rel (Above s₀ t₀) (s.parent? i) (t.parent? j) := by
  unfold Store.parent? Store.scope?
  rcases rel_cases (TwinScopes.scopeIn h hij) with ⟨hx, hy⟩ | ⟨x, y, hx, hy, hxy⟩ <;> rw [hx, hy]
  · exact .none
  · exact hxy.parent

theorem bindings (h : Twins s₀ t₀ s t) (hij : Above s₀ t₀ i j) :
    (s.bindings i).Twin (t.bindings j) := by
  unfold Store.bindings Store.scope?
  rcases rel_cases (TwinScopes.scopeIn h hij) with ⟨hx, hy⟩ | ⟨x, y, hx, hy, hxy⟩ <;> rw [hx, hy]
  · exact .refl []
  · exact hxy.bindings

theorem setBindings (h : Twins s₀ t₀ s t) (hij : Above s₀ t₀ i j) {b c : Bindings}
    (hbc : b.Twin c) : Twins s₀ t₀ (s.setBindings i b) (t.setBindings j c) :=
  TwinScopes.updateIn h hij hbc

theorem search {c d : List (ScopeId × Scope)}
    (h : List.Forall₂ (fun p q => Above s₀ t₀ p.1 q.1 ∧ TwinScope s₀ t₀ p.2 q.2) c d)
    (ps : List String) :
    SwappedOutcome (Option.Rel fun p q => Above s₀ t₀ p.1 q.1 ∧ Value.Twin p.2 q.2)
      (Store.search ps c) (Store.search ps d) := by
  induction h with
  | nil => exact .none
  | @cons p q c d hp _ ih =>
      refine SwappedOutcome.bind (hp.2.bindings.lookup ps) ?_
      intro a b hab
      cases hab with
      | none => exact ih
      | some hxy => exact .some ⟨hp.1, hxy⟩

theorem locate (h : Twins s₀ t₀ s t) (hij : Above s₀ t₀ i j) (path : String) :
    SwappedOutcome (Option.Rel fun p q => Above s₀ t₀ p.1 q.1 ∧ Value.Twin p.2 q.2)
      (s.locate i path) (t.locate j path) :=
  search (TwinScopes.chainIn h hij) _

theorem resolve (h : Twins s₀ t₀ s t) (hij : Above s₀ t₀ i j) (path : String) :
    SwappedOutcome Value.Twin (s.resolve i path) (t.resolve j path) := by
  rw [resolve_eq_locate, resolve_eq_locate]
  refine SwappedOutcome.bind (h.locate hij path) ?_
  intro a b hab
  cases hab with
  | none => rfl
  | some hxy => exact hxy.2

theorem getD (h : Twins s₀ t₀ s t) (hij : Above s₀ t₀ i j) (path : String) (v : Value) :
    SwappedOutcome Value.Twin (s.getD i path v) (t.getD j path v) := by
  rw [getD_eq_locate, getD_eq_locate]
  refine SwappedOutcome.bind (h.locate hij path) ?_
  intro a b hab
  cases hab with
  | none => exact Value.Twin.refl v
  | some hxy => exact hxy.2

-- Values are resolved by their texts alone, which twins have in common.
theorem resolveIn (h : Twins s₀ t₀ s t) (hij : Above s₀ t₀ i j) {u v : Value} (huv : u.Twin v) :
    SwappedOutcome Value.Twin (s.resolveIn i u) (t.resolveIn j v) := by
  have hresolve (p : String) : (s.resolve i p).map (Value.relabel .blank) =
      (t.resolve j p).map (Value.relabel .blank) := by
    have hp := h.resolve hij p
    cases hx : s.resolve i p <;> cases hy : t.resolve j p <;> rw [hx, hy] at hp
    · exact congrArg Except.error hp
    · exact hp.elim
    · exact hp.elim
    · exact congrArg Except.ok hp
  rw [resolveIn_eq_substitute, resolveIn_eq_substitute]
  refine .of_map ?_
  calc (u.substitute (s.resolve i)).map (Value.relabel .blank)
      = ((u.relabel .blank).substitute (s.resolve i)).map (Value.relabel .blank) :=
        (Value.substitute_relabel _ _ u).symm
    _ = ((v.relabel .blank).substitute (s.resolve i)).map (Value.relabel .blank) := by rw [huv]
    _ = (v.substitute (s.resolve i)).map (Value.relabel .blank) := Value.substitute_relabel _ _ v
    _ = (v.substitute (t.resolve j)).map (Value.relabel .blank) :=
        Value.substitute_congr v fun p _ => hresolve p

theorem bind (h : Twins s₀ t₀ s t) (hij : Above s₀ t₀ i j) {u v : Value} (huv : u.Twin v) :
    SwappedOutcome (Twins s₀ t₀) (s.bind i u) (t.bind j v) :=
  SwappedOutcome.bind ((h.bindings hij).add huv) fun _ _ hbc => h.setBindings hij hbc

theorem provide (h : Twins s₀ t₀ s t) (hij : Above s₀ t₀ i j) (path : String) {u v : Value}
    (huv : u.Twin v) : SwappedOutcome (Twins s₀ t₀) (s.provide i path u) (t.provide j path v) := by
  have howner : SwappedOutcome (Option.Rel (Above s₀ t₀)) (s.owner i path) (t.owner j path) := by
    rw [owner_eq_locate, owner_eq_locate]
    refine SwappedOutcome.bind (h.locate hij path) ?_
    intro a b hab
    cases hab with
    | none => exact .none
    | some hxy => exact .some hxy.1
  refine SwappedOutcome.bind howner ?_
  intro a b hab
  cases hab with
  | none => rfl
  | some ho => exact h.setBindings ho ((h.bindings ho).put huv _)

end Twins

end Store

end Dialect
