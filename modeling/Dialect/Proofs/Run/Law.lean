import Dialect.Proofs.Run.Call
import Dialect.Proofs.Scope.Growth

namespace Dialect

-- What may have become of a world after work that has succeeded and after work that has failed, and
-- which scopes can be worked in. It is asked only of the few things that are done to a world at
-- all: opening a scope, binding names, writing at a path, raising an error object that is kept.
structure Law where
  -- what may have become of a world after work that succeeded
  Done : World → World → Prop
  -- the same after work that failed
  Failed : World → Raised → World → Prop
  -- the scopes of a world that can be worked in
  Usable : World → ScopeId → Prop
  aside {w w' : World} : w'.store = w.store → w'.languages = w.languages →
    w'.shared = w.shared → Done w w'
  trans {u v w : World} : Done u v → Done v w → Done u w
  usable {w w' : World} {i : ScopeId} : Done w w' → Usable w i → Usable w' i
  opened {w : World} {i : ScopeId} {b : Bindings} : Usable w i → b.names.Nodup →
    Done w { w with store := w.store.push i b } ∧
      Usable { w with store := w.store.push i b } w.store.size
  bound {w : World} {i : ScopeId} {v : Value} {s : Store} : Usable w i →
    w.store.bind i v = .ok s → Done w { w with store := s }
  provided {w : World} {i : ScopeId} {path : String} {v : Value} {s : Store} : Usable w i →
    w.store.provide i path v = .ok s → Done w { w with store := s }
  up {w : World} {i p : ScopeId} : Usable w i → w.store.parent? i = some p → Usable w p
  fresh (w : World) (e : Error) : Failed w (.fresh e) w
  -- an error object that exists is raised with the trail it carries, a new one with none
  again {w : World} {label : String} {e : Error} {trail : List String} :
    w.shared? label = some (e, trail) → Failed w ⟨e, trail, some label⟩ w
  made {w : World} {label : String} (e : Error) : w.shared? label = none →
    Failed w ⟨e, [], some label⟩ (w.keep label e [])
  after {u v w : World} {r : Raised} : Done u v → Failed v r w → Failed u r w

namespace Law

open Engine

variable {L : Law} {α β : Type}

theorem refl (L : Law) (w : World) : L.Done w w := L.aside rfl rfl rfl

-- A failure may be marked with the key of a step that it leaves.
def Marks (L : Law) : Prop :=
  ∀ {w w' : World} {r : Raised} (key : String), L.Failed w r w' →
    L.Failed w (r.through key) (w'.remember (r.through key))

-- An outcome that the law allows; `Q` is asked of what successful work gives.
def Allows (L : Law) (w : World) (Q : α → World → Prop) : EStateM.Result Raised World α → Prop
  | .ok a w' => L.Done w w' ∧ Q a w'
  | .error r w' => L.Failed w r w'

-- Work in a scope obeys the law, whatever world it starts from.
def Obeys (L : Law) (i : ScopeId) (x : Engine α) (Q : α → World → Prop) : Prop :=
  ∀ w, L.Usable w i → L.Allows w Q (x w)

-- What an action gives: if it is a scope, one that can be worked in.
def Gives (L : Law) (x : Except Kind ScopeId) (w : World) : Prop := ∀ j, x = .ok j → L.Usable w j

theorem Allows.after {u w : World} {Q : α → World → Prop} {x : EStateM.Result Raised World α}
    (h : L.Allows w Q x) (hu : L.Done u w) : L.Allows u Q x := by
  cases x with
  | ok a w' => exact ⟨L.trans hu h.1, h.2⟩
  | error r w' => exact L.after hu h

section

variable {i : ScopeId} {x : Engine α} {f : α → Engine β} {Q : α → World → Prop}
  {R : β → World → Prop}

theorem Obeys.bind (hx : L.Obeys i x Q)
    (hf : ∀ a w, L.Usable w i → Q a w → L.Allows w R (f a w)) : L.Obeys i (x >>= f) R := by
  intro w hi
  have h := hx w hi
  rw [bind_apply]
  cases hw : x w with
  | error r w' =>
      rw [hw] at h
      exact h
  | ok a w' =>
      rw [hw] at h
      exact (hf a w' (L.usable h.1 hi) h.2).after h.1

-- Work goes on in the same scope, or in the scope that was given.
theorem Obeys.andThen (hx : L.Obeys i x Q) (hf : ∀ a, L.Obeys i (f a) R) :
    L.Obeys i (x >>= f) R :=
  hx.bind fun a w hi _ => hf a w hi

theorem Obeys.into {x : Engine ScopeId} {f : ScopeId → Engine β}
    (hx : L.Obeys i x fun j w => L.Usable w j) (hf : ∀ j, L.Obeys j (f j) R) :
    L.Obeys i (x >>= f) R :=
  hx.bind fun j w _ hj => hf j w hj

theorem Obeys.mono {Q' : α → World → Prop} (hx : L.Obeys i x Q) (h : ∀ a w, Q a w → Q' a w) :
    L.Obeys i x Q' := by
  intro w hi
  have hw := hx w hi
  cases hr : x w with
  | error r w' =>
      rw [hr] at hw
      exact hw
  | ok a w' =>
      rw [hr] at hw
      exact ⟨hw.1, h a w' hw.2⟩

theorem obeys_pure {a : α} (ha : ∀ w, L.Usable w i → Q a w) : L.Obeys i (pure a) Q :=
  fun w hi => ⟨L.refl w, ha w hi⟩

theorem obeys_fail (e : Error) : L.Obeys i (fail e) Q := fun w _ => L.fresh w e

theorem obeys_ofExcept (y : Except Error α) : L.Obeys i (ofExcept y) fun a _ => y = .ok a := by
  intro w _
  cases y with
  | error e => exact L.fresh w e
  | ok a => exact ⟨L.refl w, rfl⟩

theorem obeys_ask (g : Store → Except Error α) : L.Obeys i (ask g) fun _ _ => True := by
  intro w hi
  rw [ask_apply]
  cases g w.store with
  | error e => exact L.fresh w e
  | ok a => exact ⟨L.refl w, trivial⟩

theorem obeys_openScope {b : Bindings} (hb : b.names.Nodup) :
    L.Obeys i (openScope (some i) b) fun j w => L.Usable w j :=
  fun _ hi => L.opened hi hb

theorem obeys_openWith (v : Value) : L.Obeys i (openWith (some i) v) fun j w => L.Usable w j :=
  (obeys_ofExcept _).bind fun _ w hi hb =>
    obeys_openScope (Bindings.nodup_of_add_nil hb) w hi

-- Changes to the scopes, of the two kinds there are.
theorem obeys_change {g : Store → Except Error Store}
    (hg : ∀ {w : World} {s : Store}, L.Usable w i → g w.store = .ok s →
      L.Done w { w with store := s }) : L.Obeys i (change g) fun _ _ => True := by
  intro w hi
  rw [change_apply]
  cases hs : g w.store with
  | error e => exact L.fresh w e
  | ok s => exact ⟨hg hi hs, trivial⟩

theorem obeys_provide (path : String) (v : Value) :
    L.Obeys i (change fun s => s.provide i path v) fun _ _ => True :=
  obeys_change L.provided

theorem obeys_rebind (v : Value) : L.Obeys i (change fun s => s.bind i v) fun _ _ => True :=
  obeys_change L.bound

theorem obeys_compile (evaluator : Nat) (expression : Value) (params : List String) :
    L.Obeys i (compile evaluator expression params) fun _ _ => True := by
  intro w hi
  rw [compile_apply]
  generalize (w.evaluator evaluator).compile expression (.tuple (params.map .str)) = answer
  have hdone : L.Done w { w with
      evaluators := w.evaluators.set evaluator answer.2
      journal := .asked expression params :: w.journal } := L.aside rfl rfl rfl
  have hanswer : L.Obeys i (ofExcept answer.1) fun _ _ => True :=
    (obeys_ofExcept answer.1).mono fun _ _ _ => trivial
  exact (hanswer _ (L.usable hdone hi)).after hdone

theorem obeys_compileAt (evaluator : Nat) (v : Value) (name : String) (params : List String) :
    L.Obeys i (compileAt evaluator v name params) fun _ _ => True :=
  (obeys_ofExcept _).andThen fun _ => obeys_compile _ _ _

theorem obeys_appendStep (step : Value) :
    L.Obeys i (appendStep i step) fun j w => L.Usable w j :=
  (obeys_ask _).andThen fun _ => (obeys_ofExcept _).andThen fun _ =>
    (obeys_provide _ _).andThen fun _ => obeys_pure fun _ hi => hi

theorem obeys_optional (v : Value) (name : String) :
    L.Obeys i (optional v name) fun _ _ => True := by
  cases v
  case map es => exact obeys_pure fun _ _ => trivial
  all_goals exact obeys_fail _

theorem obeys_conditionArgs (v : Value) : L.Obeys i (conditionArgs v) fun _ _ => True := by
  refine (obeys_optional v "args").andThen fun args => ?_
  split
  · exact (obeys_ofExcept _).mono fun _ _ _ => trivial
  · exact obeys_pure fun _ _ => trivial

theorem obeys_raise (c : ErrorClass) (args : List Value) (label : Option String) :
    L.Obeys i (raise c args label) Q := by
  cases label with
  | none => exact (obeys_ofExcept _).andThen fun e => obeys_fail e
  | some l =>
      intro w hi
      rw [raise_some_apply]
      cases hshared : w.shared? l with
      | some kept => exact L.again hshared
      | none =>
          simp only []
          cases c.construct args with
          | error e => exact L.fresh w e
          | ok e => exact L.made e hshared

theorem Obeys.under (hmarks : L.Marks) (hx : L.Obeys i x Q) (key : String) :
    L.Obeys i (under key x) Q := by
  intro w hi
  have h := hx w hi
  rw [under_apply]
  cases hw : x w with
  | ok a w' =>
      rw [hw] at h
      exact h
  | error r w' =>
      rw [hw] at h
      exact hmarks key h

-- An action that ends with a scope, or in the scope it was given.
theorem Obeys.scope {i : ScopeId} {x : Engine ScopeId} (hx : L.Obeys i x fun j w => L.Usable w j) :
    L.Obeys i (x >>= fun j => pure (Except.ok j : Except Kind ScopeId)) L.Gives := by
  refine hx.into fun j => obeys_pure fun w hj => ?_
  rintro k ⟨⟩
  exact hj

theorem obeys_same {i : ScopeId} : L.Obeys i (pure (.ok i)) L.Gives := by
  refine obeys_pure fun w hi => ?_
  rintro j ⟨⟩
  exact hi

end

section

variable {run : Runner} (hrun : ∀ l data i, L.Obeys i (run l data i) fun j w => L.Usable w j)
include hrun

theorem obeys_call (f sub : Value) (i : ScopeId) :
    L.Obeys i (run.call f sub i) fun j w => L.Usable w j := by
  cases f
  case runner l n =>
    rw [Runner.call]
    cases sub <;> exact hrun _ _ i
  all_goals exact obeys_fail _

theorem obeys_callAll (f : Value) (ms : List Value) (i : ScopeId) :
    L.Obeys i (run.callAll f ms i) fun j w => L.Usable w j := by
  induction ms generalizing i with
  | nil => exact obeys_pure fun _ hi => hi
  | cons m ms ih => exact (obeys_call hrun f m i).into ih

theorem obeys_perform (value : Value) (i : ScopeId) (action : Action) :
    L.Obeys i (action.perform run value i) L.Gives := by
  cases action with
  | bindForm key => exact (obeys_ask _).andThen fun v => (obeys_openWith v).scope
  | runSequence key =>
      refine (obeys_ask _).andThen fun f => ?_
      split
      · exact obeys_fail _
      · exact (obeys_ofExcept _).andThen fun ms => (obeys_callAll hrun f ms i).scope
  | bindNamespace key => exact (obeys_openScope (by simp [Bindings.names])).scope
  | transform evaluator =>
      exact (obeys_compileAt _ _ _ _).andThen fun f => (obeys_appendStep _).scope
  | filter evaluator =>
      exact (obeys_compileAt _ _ _ _).andThen fun f => (obeys_appendStep _).scope
  | choose evaluator =>
      exact (obeys_conditionArgs _).andThen fun args =>
        (obeys_compileAt _ _ _ _).andThen fun test => (obeys_compileAt _ _ _ _).andThen fun yes =>
        (obeys_compileAt _ _ _ _).andThen fun no => (obeys_appendStep _).scope
  | noop => exact obeys_same
  | bind name => exact (obeys_openScope (by simp [Bindings.names])).scope
  | rebind name => exact (obeys_rebind _).andThen fun _ => obeys_same
  | emit =>
      exact (obeys_ask _).andThen fun _ => (obeys_ofExcept _).andThen fun _ =>
        (obeys_provide _ _).andThen fun _ => obeys_same
  | add =>
      exact (obeys_ask _).andThen fun _ => (obeys_ofExcept _).andThen fun _ =>
        (obeys_provide _ _).andThen fun _ => obeys_same
  | provide =>
      exact (obeys_ofExcept _).andThen fun _ => (obeys_ofExcept _).andThen fun _ =>
        (obeys_ofExcept _).andThen fun _ => (obeys_provide _ _).andThen fun _ => obeys_same
  | lookup name =>
      exact (obeys_ofExcept _).andThen fun _ => (obeys_ask _).andThen fun _ =>
        (obeys_openScope (by simp [Bindings.names])).scope
  | pop =>
      intro w hi
      rw [Action.perform_pop]
      cases hp : w.store.parent? i with
      | none => exact ⟨L.refl w, fun j h => by cases h⟩
      | some p =>
          refine ⟨L.refl w, ?_⟩
          rintro j ⟨⟩
          exact L.up hi hp
  | give v => exact obeys_pure fun _ _ j h => by cases h
  | sub => exact (obeys_ask _).andThen fun f => (obeys_call hrun f value i).scope
  | fail c args label => exact obeys_raise c args label

theorem obeys_apply (a : Aspect) (value : Value) (i : ScopeId) :
    L.Obeys i (a.apply run value i) fun j w => L.Usable w j := by
  refine Obeys.bind (Q := L.Gives) ?_ fun x w hi hx => ?_
  · unfold Handler.call
    cases a.handler.journal with
    | none => exact obeys_perform hrun value i _
    | some key =>
        refine Obeys.andThen (Q := fun _ _ => True) ?_ fun _ => obeys_perform hrun value i _
        exact fun w _ => ⟨L.aside rfl rfl rfl, trivial⟩
  · cases x with
    | ok j => exact ⟨L.refl w, hx j rfl⟩
    | error k => exact L.fresh w _

theorem obeys_fireAt (hmarks : L.Marks) (key : String) (a : Aspect) (data : Value)
    (i : ScopeId) : L.Obeys i (fireAt run key a data i) fun j w => L.Usable w j := by
  refine (obeys_ofExcept _).andThen fun raw => Obeys.under hmarks ?_ key
  cases a.resolves with
  | false => exact obeys_apply hrun a raw i
  | true => exact (obeys_ask _).andThen fun value => obeys_apply hrun a value i

theorem obeys_fireAll (hmarks : L.Marks) (data : Value) (steps : List (String × Aspect))
    (i : ScopeId) : L.Obeys i (fireAll run data steps i) fun j w => L.Usable w j := by
  induction steps generalizing i with
  | nil => exact obeys_pure fun _ hi => hi
  | cons step steps ih =>
      refine (obeys_ofExcept _).andThen fun present => ?_
      cases present with
      | false => exact ih i
      | true => exact (obeys_fireAt hrun hmarks _ _ data i).into ih

end

-- By induction on the fuel: the runs within a run have less of it.
theorem Marks.obeys_runWith (hmarks : L.Marks) (fuel l : Nat) (data : Value) (i : ScopeId) :
    L.Obeys i (runWith fuel l data i) fun j w => L.Usable w j := by
  induction fuel generalizing l data i with
  | zero => exact obeys_fail _
  | succ fuel ih =>
      intro w hi
      have hopened : L.Obeys i (openScope (some i) [(runnerName, .runner l w.store.size)]) _ :=
        obeys_openScope (by simp [Bindings.names])
      exact hopened.into (fun j => obeys_fireAll ih hmarks data (w.language l).steps j) w hi

theorem Marks.obeys_runProgram (hmarks : L.Marks) (l : Nat) (program : Value) (i : ScopeId) :
    L.Obeys i (runProgram l program i) fun j w => L.Usable w j := by
  unfold runProgram Runner.start
  cases program <;> exact hmarks.obeys_runWith _ _ _ i

theorem Obeys.of_ok {i : ScopeId} {x : Engine α} {Q : α → World → Prop} (hx : L.Obeys i x Q)
    {w w' : World} {a : α} (hi : L.Usable w i) (h : x w = .ok a w') : L.Done w w' ∧ Q a w' := by
  have hw := hx w hi
  rw [h] at hw
  exact hw

theorem Obeys.of_error {i : ScopeId} {x : Engine α} {Q : α → World → Prop} (hx : L.Obeys i x Q)
    {w w' : World} {r : Raised} (hi : L.Usable w i) (h : x w = .error r w') : L.Failed w r w' := by
  have hw := hx w hi
  rw [h] at hw
  exact hw

section

variable (hmarks : L.Marks) {c c' : Call} (hc : L.Usable c.world c.scope) {n : Nat} {j : ScopeId}
  {w : World}
include hmarks hc

-- Wherever a call has come to, the law has been obeyed on its way.
theorem Marks.stands {done rest : List (String × Aspect)} (h : c.Stands n done rest j w) :
    L.Done c.world w ∧ L.Usable w j := by
  have hnodup : (Bindings.names [(runnerName, .runner c.language c.world.store.size)]).Nodup := by
    simp [Bindings.names]
  obtain ⟨hopened, husable⟩ := L.opened hc hnodup
  have hfired := (obeys_fireAll (hmarks.obeys_runWith n) hmarks c.data done _).of_ok husable h.fired
  exact ⟨L.trans hopened hfired.1, hfired.2⟩

theorem Marks.performs {action : Action} {value : Value} (h : c.Performs n action value j w) :
    L.Done c.world w ∧ L.Usable w j := by
  obtain ⟨before, key, a, raw, u, ⟨⟨after, hstands⟩, -, -⟩, -, -, rfl⟩ := h
  obtain ⟨hdone, hj⟩ := hmarks.stands hc hstands
  have hnoted : L.Done u (a.handler.noted value j u) := by
    unfold Handler.noted
    cases a.handler.journal <;> exact L.aside rfl rfl rfl
  exact ⟨L.trans hdone hnoted, L.usable hnoted hj⟩

theorem Marks.starts (h : c.Starts c') :
    L.Done c.world c'.world ∧ L.Usable c'.world c'.scope := by
  cases h with
  | member performs found members done =>
      obtain ⟨hdone, hj⟩ := hmarks.performs hc performs
      have hfirst := (obeys_callAll (hmarks.obeys_runWith _) _ _ _).of_ok hj done
      exact ⟨L.trans hdone hfirst.1, hfirst.2⟩
  | sub performs found => exact hmarks.performs hc performs

end

end Law

end Dialect
