import Dialect.Proofs.Run.Languages
import Dialect.Proofs.Run.Refinement
import Dialect.Run.Report

namespace Dialect

-- What can be done with scopes from outside.
inductive Operation where
  | root (bindings : Value)
  | extend (scope : ScopeId)
  | extendWith (scope : ScopeId) (bindings : Value)
  | bind (scope : ScopeId) (bindings : Value)
  | provide (scope : ScopeId) (path value : Value)
  | goBack (scope : ScopeId)
  | apply (a : Aspect) (value : Value) (scope : ScopeId)
  | run (language : Nat) (program : Value) (scope : ScopeId)
  | callRunner (program : Value) (scope : ScopeId)
  | handle (runner : ProgramRunner) (program : Value) (scope : Option ScopeId)

namespace Operation

open Engine

-- The scopes that an operation is given.
def scopes : Operation → List ScopeId
  | root _ => []
  | extend i => [i]
  | extendWith i _ => [i]
  | bind i _ => [i]
  | provide i _ _ => [i]
  | goBack i => [i]
  | apply _ _ i => [i]
  | run _ _ i => [i]
  | callRunner _ i => [i]
  | handle _ _ scope => scope.toList

-- What an operation does; a report is never a failure.
def act : Operation → Engine (Option ScopeId)
  | root b => do return some (← openRoot b)
  | extend i => do return some (← openScope i [])
  | extendWith i b => do return some (← openWith i b)
  | bind i b => do
    change fun s => s.bind i b
    return some i
  | provide i path v => do
    let p ← ofExcept (Path.ofValue path)
    change fun s => s.provide i p v
    return none
  | goBack i => do return (← get).store.parent? i
  | apply a v i => do return some (← applyAspect a v i)
  | run l program i => do return some (← runProgram l program i)
  | callRunner program i => do return some (← Dialect.callRunner program i)
  | handle p program scope => fun w =>
    let (report, w') := p.handle program scope w
    .ok report.scope w'

-- The world after an operation, also if it failed.
def after (op : Operation) (w : World) : World := world (op.act w)

-- The scopes that an operation is given exist.
def Fits (op : Operation) (w : World) : Prop := ∀ i ∈ op.scopes, i < w.store.size

end Operation

namespace Session

-- One step of a session. Declaring languages, say, leaves the scopes alone.
inductive Step (w : World) : World → Prop where
  | operation (op : Operation) (fits : op.Fits w) : Step w (op.after w)
  | aside (w' : World) (scopes : w'.store = w.store) : Step w w'

-- A world that a session leads to from another one.
abbrev Leads : World → World → Prop := Relation.ReflTransGen Step

-- A world that some session leads to from no scopes at all.
def Reachable (w : World) : Prop := ∃ start, start.store = .empty ∧ Leads start w

end Session

theorem World.store_remember (w : World) (r : Raised) : (w.remember r).store = w.store := by
  unfold remember
  cases r.label <;> rfl

-- Scopes are kept as they should be. A scope can be worked in if it exists in such a store.
def Law.growth : Law where
  Done w w' := w.store.Grows w'.store ∧ (w.store.WellFormed → w'.store.WellFormed)
  Failed w _ w' := w.store.Grows w'.store ∧ (w.store.WellFormed → w'.store.WellFormed)
  Usable w i := w.store.WellFormed ∧ i < w.store.size
  aside h _ _ := h ▸ ⟨.refl _, id⟩
  trans huv hvw := ⟨huv.1.trans hvw.1, hvw.2 ∘ huv.2⟩
  usable h hi := ⟨h.2 hi.1, Nat.lt_of_lt_of_le hi.2 h.1.size_le⟩
  opened hi hb := by
    have hpush := hi.1.push (fun q hq => Option.some.inj hq ▸ hi.2) hb
    exact ⟨⟨.push _ _ _, fun _ => hpush⟩, hpush, Nat.lt_succ_self _⟩
  bound hi h := Store.bind_grows hi.2 h
  provided _ h := Store.provide_grows h
  up hi h := ⟨hi.1, Nat.lt_trans (hi.1.older h) hi.2⟩
  fresh _ _ := ⟨.refl _, id⟩
  again _ := ⟨.refl _, id⟩
  made _ _ := ⟨.refl _, id⟩
  after huv hvw := ⟨huv.1.trans hvw.1, hvw.2 ∘ huv.2⟩

theorem Law.growth_marks : Law.growth.Marks := by
  intro w w' r key h
  simp only [growth, World.store_remember]
  exact h

-- A world whose scopes are as they should be comes from another one.
def World.Follows (w' w : World) : Prop := w.store.Grows w'.store ∧ w'.store.WellFormed

theorem World.Follows.of_obeys {α : Type} {i : ScopeId} {x : Engine α} {Q : α → World → Prop}
    (h : Law.growth.Obeys i x Q) {w : World} (hw : w.store.WellFormed) (hi : i < w.store.size) :
    (Engine.world (x w)).Follows w := by
  cases hx : x w with
  | ok a w' =>
      have hdone := (h.of_ok ⟨hw, hi⟩ hx).1
      exact ⟨hdone.1, hdone.2 hw⟩
  | error r w' =>
      have hfailed := h.of_error ⟨hw, hi⟩ hx
      exact ⟨hfailed.1, hfailed.2 hw⟩

theorem World.Follows.refl {w : World} (hw : w.store.WellFormed) : w.Follows w := ⟨.refl _, hw⟩

theorem World.Follows.trans {u v w : World} (huv : v.Follows u) (hvw : w.Follows v) :
    w.Follows u := ⟨huv.1.trans hvw.1, hvw.2⟩

-- A new root is the newest scope, with names that are distinct.
theorem Engine.openRoot_apply (v : Value) (w : World) :
    (∃ e, openRoot v w = .error (.fresh e) w) ∨
      ∃ b : Bindings, b.names.Nodup ∧
        openRoot v w = .ok w.store.size { w with store := w.store.push none b } := by
  unfold openRoot
  split
  · unfold openWith
    rw [bind_apply, ofExcept_apply]
    cases hb : Bindings.add [] v with
    | error e => exact .inl ⟨e, rfl⟩
    | ok b => exact .inr ⟨b, Bindings.nodup_of_add_nil hb, rfl⟩
  · exact .inr ⟨[], List.nodup_nil, rfl⟩

theorem World.Follows.root {w : World} (hw : w.store.WellFormed) {b : Bindings}
    (hb : b.names.Nodup) : World.Follows { w with store := w.store.push none b } w :=
  ⟨.push _ _ _, hw.push (fun _ h => by cases h) hb⟩

namespace Operation

open Engine

variable {w : World}

theorem obeys_run (l : Nat) (data : Value) (i : ScopeId) :
    Law.growth.Obeys i (Dialect.run l data i) fun j w => Law.growth.Usable w j :=
  Law.growth_marks.obeys_runWith _ _ _ i

-- Work that gives a scope gives it as the scope of an operation.
theorem obeys_some {i : ScopeId} {x : Engine ScopeId} {Q : ScopeId → World → Prop}
    (hx : Law.growth.Obeys i x Q) :
    Law.growth.Obeys i (x >>= fun j => pure (some j)) fun _ _ => True :=
  hx.andThen fun _ => Law.obeys_pure fun _ _ => trivial

-- The report leaves the scopes as the run has left them.
theorem follows_report {x : EStateM.Result Raised World ScopeId} (h : (world x).Follows w) :
    (match x with
      | .ok i w' => (Report.ofSuccess i, w')
      | .error r w' => (.ofFailure r, ProgramRunner.clear w' r)).2.Follows w := by
  cases x with
  | ok i w' => exact h
  | error r w' =>
      have hstore : (ProgramRunner.clear w' r).store = w'.store := World.store_remember _ _
      simp only [World.Follows, hstore]
      exact h

theorem follows_handle (hw : w.store.WellFormed) (p : ProgramRunner) (program : Value)
    {scope : Option ScopeId} (hscope : ∀ i ∈ scope.toList, i < w.store.size) :
    (p.handle program scope w).2.Follows w := by
  unfold ProgramRunner.handle
  apply follows_report
  cases scope with
  | some i =>
      exact .of_obeys (Law.growth_marks.obeys_runProgram p.language program i) hw
        (hscope i (by simp))
  | none =>
      change (world ((p.rootScope >>= runProgram p.language program) w)).Follows w
      unfold ProgramRunner.rootScope
      rw [bind_apply]
      rcases openRoot_apply (.map p.bindings) w with ⟨e, h⟩ | ⟨b, hb, h⟩
      · rw [h]
        exact .refl hw
      · rw [h]
        have hroot := World.Follows.root hw hb
        have hrun := Law.growth_marks.obeys_runProgram p.language program w.store.size
        exact hroot.trans (.of_obeys hrun hroot.2 (Nat.lt_succ_self _))

-- Work in a single scope.
theorem obeys_act {op : Operation} {i : ScopeId} (h : op.scopes = [i])
    (hop : ∀ p program scope, op ≠ .handle p program scope) :
    Law.growth.Obeys i op.act fun _ _ => True := by
  cases op with
  | root b => cases h
  | handle p program scope => exact (hop p program scope rfl).elim
  | extend k =>
      cases h
      have hnodup : Bindings.names [] = [] := rfl
      exact obeys_some (Law.obeys_openScope (hnodup ▸ List.nodup_nil))
  | extendWith k b =>
      cases h
      exact obeys_some (Law.obeys_openWith b)
  | bind k b =>
      cases h
      exact (Law.obeys_rebind b).andThen fun _ => Law.obeys_pure fun _ _ => trivial
  | provide k path v =>
      cases h
      exact (Law.obeys_ofExcept _).andThen fun _ => (Law.obeys_provide _ v).andThen fun _ =>
        Law.obeys_pure fun _ _ => trivial
  | goBack k => exact fun w _ => ⟨Law.growth.refl w, trivial⟩
  | apply a v k =>
      cases h
      exact obeys_some (Law.obeys_apply obeys_run a v i)
  | run l program k =>
      cases h
      exact obeys_some (Law.growth_marks.obeys_runProgram l program i)
  | callRunner program k =>
      cases h
      exact obeys_some ((Law.obeys_ask _).andThen fun f => Law.obeys_call obeys_run f program i)

-- Whatever an operation does, and whether it fails or not.
theorem follows (op : Operation) (hw : w.store.WellFormed) (hfits : op.Fits w) :
    (op.after w).Follows w := by
  cases op with
  | root b =>
      unfold after
      rw [act, bind_apply]
      rcases openRoot_apply b w with ⟨e, h⟩ | ⟨b, hb, h⟩
      · rw [h]
        exact .refl hw
      · rw [h]
        exact .root hw hb
  | handle p program scope => exact follows_handle hw p program hfits
  | _ => exact .of_obeys (obeys_act rfl (by simp)) hw (hfits _ (by simp [scopes]))

theorem act_bind (i : ScopeId) (b : Value) (w : World) :
    (bind i b).act w = match w.store.bind i b with
      | .ok s => .ok (some i) { w with store := s }
      | .error e => .error (.fresh e) w := by
  rw [act, bind_apply, change_apply]
  cases w.store.bind i b <;> rfl

theorem act_provide (i : ScopeId) (path v : Value) (w : World) :
    (provide i path v).act w = match Path.ofValue path >>= fun p => w.store.provide i p v with
      | .ok s => .ok none { w with store := s }
      | .error e => .error (.fresh e) w := by
  rw [act, bind_apply, ofExcept_apply]
  cases Path.ofValue path with
  | error e => rfl
  | ok p =>
      change ((change fun s => s.provide i p v) >>= fun _ => pure none) w =
        match w.store.provide i p v with
        | .ok s => .ok none { w with store := s }
        | .error e => .error (.fresh e) w
      rw [bind_apply, change_apply]
      cases w.store.provide i p v <;> rfl

-- The operations that write into scopes that exist.
def Writes (op : Operation) : Prop :=
  (∃ i b, op = bind i b) ∨ ∃ i path v, op = provide i path v

theorem Writes.store_of_error {op : Operation} (h : op.Writes) {r : Raised} {w' : World}
    (hfail : op.act w = .error r w') : w'.store = w.store := by
  rcases h with ⟨i, b, rfl⟩ | ⟨i, path, v, rfl⟩
  · rw [act_bind] at hfail
    split at hfail <;> cases hfail
    rfl
  · rw [act_provide] at hfail
    split at hfail <;> cases hfail
    rfl

theorem scope?_after_bind {i k : ScopeId} (hk : k ≠ i) (b : Value) :
    ((bind i b).after w).store.scope? k = w.store.scope? k := by
  unfold after
  rw [act_bind]
  cases hs : w.store.bind i b with
  | error e => rfl
  | ok s =>
      obtain ⟨b', -, rfl⟩ := Store.bind_eq_ok hs
      exact (Store.scope?_setBindings _ _ _ _).trans (if_neg hk)

-- Only the nearest owner of the path can change.
theorem scope?_after_provide {i k : ScopeId} {path : Value}
    (hk : ∀ p, path = .str p → w.store.owner i p ≠ .ok (some k)) (v : Value) :
    ((provide i path v).after w).store.scope? k = w.store.scope? k := by
  unfold after
  rw [act_provide]
  cases hs : Path.ofValue path >>= fun p => w.store.provide i p v with
  | error e => rfl
  | ok s =>
      obtain ⟨p, hp, hs⟩ := exists_of_bind_eq_ok hs
      obtain ⟨o, howner, rfl⟩ := Store.provide_eq_ok hs
      have hpath : path = .str p := by
        cases path <;> cases hp
        rfl
      have hne : k ≠ o := fun h => hk p hpath (h ▸ howner)
      exact (Store.scope?_setBindings _ _ _ _).trans (if_neg hne)

end Operation

namespace Session

variable {w w' : World}

theorem Step.follows (h : Step w w') (hw : w.store.WellFormed) : w'.Follows w := by
  cases h with
  | operation op fits => exact op.follows hw fits
  | aside _ scopes => exact ⟨scopes ▸ .refl _, scopes ▸ hw⟩

-- What each step keeps, a session keeps.
theorem Leads.follows (h : Leads w w') (hw : w.store.WellFormed) : w'.Follows w := by
  induction h with
  | refl => exact .refl hw
  | tail _ step ih => exact ih.trans (step.follows ih.2)

theorem Reachable.wellFormed (h : Reachable w) : w.store.WellFormed := by
  obtain ⟨start, hstart, hleads⟩ := h
  exact (hleads.follows (hstart ▸ Store.wellFormed_empty)).2

-- In every world of every session: parents are older than their children, so that every walk from
-- a scope comes to a root, and the names of a scope are distinct. However the session goes on from
-- there, scopes keep their parents, and their names stay in front of new ones. Binding writes only
-- into the scope it is given, writing at a path only into the nearest owner of the path, and
-- neither writes anything if it fails.
theorem scopes_kept (h : Reachable w) :
    (∀ k p, w.store.parent? k = some p → p < k) ∧
    (∀ k < w.store.size, w.store.Climbs k (w.store.chain k)) ∧
    (∀ k, (w.store.bindings k).names.Nodup) ∧
    (∀ w', Leads w w' → ∀ k < w.store.size, k < w'.store.size ∧
      w'.store.parent? k = w.store.parent? k ∧
      (w.store.bindings k).names <+: (w'.store.bindings k).names) ∧
    (∀ i b k, k ≠ i → ((Operation.bind i b).after w).store.scope? k = w.store.scope? k) ∧
    (∀ i path v k, (∀ p, path = .str p → w.store.owner i p ≠ .ok (some k)) →
      ((Operation.provide i path v).after w).store.scope? k = w.store.scope? k) ∧
    (∀ op : Operation, op.Writes → ∀ r w', op.act w = .error r w' → w'.store = w.store) := by
  have hw := h.wellFormed
  refine ⟨fun _ _ => hw.older, fun _ => hw.climbs, hw.nodup, ?_, fun _ b _ hk => ?_,
    fun _ _ v _ hk => ?_, fun _ hop _ _ => hop.store_of_error⟩
  · intro w' hleads k hk
    have hgrows := (hleads.follows hw).1
    exact ⟨Nat.lt_of_lt_of_le hk hgrows.size_le, hgrows.parent hk, hgrows.names hk⟩
  · exact Operation.scope?_after_bind hk b
  · exact Operation.scope?_after_provide hk v

end Session

namespace Sample

-- A root, a child of it, a program that fails at its second step, and a binding that fails at its
-- second key.
def visit : List Operation := [
  .root (.object [("k", .int 3)]),
  .extend 0,
  .run 0 (.object [("config", .int 1), ("bind", .object [("x", .str "nowhere")])]) 1,
  .bind 1 (.map [(.str "y", .int 1), (.int 2, .int 2)]),
  .provide 2 (.str "k") (.int 4)]

-- The world after some operations, in a world with languages and no scopes.
def visited (count : Nat) : World :=
  (visit.take count).foldl (fun w op => op.after w) { World.empty with languages := [orders] }

theorem visited_step {n : Nat} {op : Operation} (hop : visit[n]? = some op)
    (h : op.scopes.all (· < (visited n).store.size) = true) :
    Session.Step (visited n) (visited (n + 1)) := by
  have hafter : visited (n + 1) = op.after (visited n) := by
    simp [visited, List.take_add_one, hop]
  rw [hafter]
  refine .operation op ?_
  intro i hi
  simpa using List.all_eq_true.mp h i hi

theorem visited_reachable : Session.Reachable (visited 5) := by
  refine ⟨visited 0, rfl, ?_⟩
  have h₁ : Session.Leads (visited 0) (visited 1) := .single (visited_step rfl rfl)
  have h₂ : Session.Leads (visited 0) (visited 2) := h₁.tail (visited_step rfl rfl)
  have h₃ : Session.Leads (visited 0) (visited 3) := h₂.tail (visited_step rfl rfl)
  have h₄ : Session.Leads (visited 0) (visited 4) := h₃.tail (visited_step rfl rfl)
  exact h₄.tail (visited_step rfl rfl)

-- Both failures have left the child without names of its own; what the run had opened remains.
theorem scopes_kept_visited : Session.Reachable (visited 5) ∧
    (visited 5).store.Climbs 3 [(3, ⟨some 2, [("@config", .int 1)]⟩),
      (2, ⟨some 1, [(runnerName, .runner 0 2)]⟩), (1, ⟨some 0, []⟩),
      (0, ⟨none, [("k", .int 4)]⟩)] := by
  refine ⟨visited_reachable, ?_⟩
  have hclimbs := (Session.scopes_kept visited_reachable).2.1 3 (by decide)
  have hchain : (visited 5).store.chain 3 = [(3, ⟨some 2, [("@config", .int 1)]⟩),
      (2, ⟨some 1, [(runnerName, .runner 0 2)]⟩), (1, ⟨some 0, []⟩),
      (0, ⟨none, [("k", .int 4)]⟩)] := rfl
  rw [hchain] at hclimbs
  exact hclimbs

end Sample

end Dialect
