import Dialect.Run.Basic

namespace Dialect

namespace Engine

variable {α β : Type}

-- Sequencing is opened once here, so that later proofs only split on how a part ended.
theorem bind_apply (x : Engine α) (f : α → Engine β) (w : World) :
    (x >>= f) w = match x w with
      | .ok a w' => f a w'
      | .error r w' => .error r w' := by
  change EStateM.bind x f w = _
  unfold EStateM.bind
  cases x w <;> rfl

theorem pure_apply (a : α) (w : World) : (pure a : Engine α) w = .ok a w := rfl

theorem ofExcept_apply (x : Except Error α) (w : World) :
    ofExcept x w = match x with
      | .ok a => .ok a w
      | .error e => .error (.fresh e) w := by
  cases x <;> rfl

theorem ask_apply (f : Store → Except Error α) (w : World) :
    ask f w = match f w.store with
      | .ok a => .ok a w
      | .error e => .error (.fresh e) w := by
  change ofExcept (f w.store) w = _
  cases f w.store <;> rfl

theorem ofExcept_eq_ok {x : Except Error α} {a : α} {w w' : World}
    (h : ofExcept x w = .ok a w') : x = .ok a ∧ w' = w := by
  cases x <;> cases h
  exact ⟨rfl, rfl⟩

theorem ask_eq_ok {f : Store → Except Error α} {a : α} {w w' : World}
    (h : ask f w = .ok a w') : f w.store = .ok a ∧ w' = w :=
  ofExcept_eq_ok h

theorem change_apply (f : Store → Except Error Store) (w : World) :
    change f w = match f w.store with
      | .ok s => .ok () { w with store := s }
      | .error e => .error (.fresh e) w := by
  change (ofExcept (f w.store) >>= fun s => modify fun w => { w with store := s }) w = _
  rw [bind_apply, ofExcept_apply]
  cases f w.store <;> rfl

theorem openScope_apply (p : Option ScopeId) (b : Bindings) (w : World) :
    openScope p b w = .ok w.store.size { w with store := w.store.push p b } := rfl

theorem under_apply (key : String) (x : Engine α) (w : World) :
    under key x w = match x w with
      | .ok a w' => .ok a w'
      | .error r w' => .error (r.through key) (w'.remember (r.through key)) := by
  unfold under
  cases x w <;> rfl

-- An evaluator remembers what it has compiled, and every request is noted.
theorem compile_apply (e : Nat) (x : Value) (params : List String) (w : World) :
    compile e x params w =
      ofExcept ((w.evaluator e).compile x (.tuple (params.map .str))).1 { w with
        evaluators := w.evaluators.set e ((w.evaluator e).compile x (.tuple (params.map .str))).2
        journal := .asked x params :: w.journal } := rfl

-- An error object that exists is raised as it is; a new one is kept.
theorem raise_some_apply (c : ErrorClass) (args : List Value) (label : String) (w : World) :
    (raise c args (some label) : Engine α) w = match w.shared? label with
      | some (e, trail) => .error ⟨e, trail, some label⟩ w
      | none => match c.construct args with
        | .error e => .error (.fresh e) w
        | .ok e => .error ⟨e, [], some label⟩ (w.keep label e []) := by
  have hget : (get : Engine World) w = .ok w w := rfl
  unfold raise
  simp only [bind_apply, hget]
  cases w.shared? label with
  | some kept => rfl
  | none =>
      simp only [bind_apply, ofExcept_apply]
      cases c.construct args <;> rfl

end Engine

-- An error without a label is kept nowhere.
theorem World.remember_of_label (w : World) (r : Raised) (h : r.label = none) :
    w.remember r = w := by
  unfold World.remember
  rw [h]

@[simp] theorem Raised.label_through (key : String) (r : Raised) :
    (r.through key).label = r.label := by
  unfold Raised.through
  split <;> rfl

theorem parts_runnerName : Path.parts runnerName = [runnerName] := by decide

open Engine

-- What a step does with the value at its key, once the value has been read.
theorem fireAt_apply (run : Runner) (key : String) (a : Aspect) (data : Value) (j : ScopeId)
    (w : World) : fireAt run key a data j w = match data.atName key with
      | .error e => .error (.fresh e) w
      | .ok raw => under key (do
          let value ← if a.resolves then ask fun s => s.resolveIn j raw else pure raw
          a.apply run value j) w := by
  unfold fireAt
  rw [bind_apply, ofExcept_apply]
  cases data.atName key <;> rfl

theorem fireAll_cons_apply (run : Runner) (data : Value) (key : String) (a : Aspect)
    (steps : List (String × Aspect)) (j : ScopeId) (w : World) :
    fireAll run data ((key, a) :: steps) j w = match data.hasName key with
      | .error e => .error (.fresh e) w
      | .ok false => fireAll run data steps j w
      | .ok true => match fireAt run key a data j w with
        | .ok j' w' => fireAll run data steps j' w'
        | .error r w' => .error r w' := by
  rw [fireAll, bind_apply, ofExcept_apply]
  cases data.hasName key with
  | error e => rfl
  | ok present =>
      cases present with
      | false => rfl
      | true =>
          change (fireAt run key a data j >>= fireAll run data steps) w = _
          rw [bind_apply]
          cases fireAt run key a data j w <;> rfl

theorem fireAll_append_apply (run : Runner) (data : Value) (first rest : List (String × Aspect))
    (j : ScopeId) (w : World) :
    fireAll run data (first ++ rest) j w = match fireAll run data first j w with
      | .ok j' w' => fireAll run data rest j' w'
      | .error r w' => .error r w' := by
  induction first generalizing j w with
  | nil => rfl
  | cons step first ih =>
      obtain ⟨key, a⟩ := step
      rw [List.cons_append, fireAll_cons_apply, fireAll_cons_apply]
      cases data.hasName key with
      | error e => rfl
      | ok present =>
          cases present with
          | false => exact ih j w
          | true =>
              cases fireAt run key a data j w with
              | error r w' => rfl
              | ok j' w' => exact ih j' w'

-- A walk that succeeds either skips its first step or fires it.
theorem fireAll_cons_eq_ok {run : Runner} {data : Value} {key : String} {a : Aspect}
    {steps : List (String × Aspect)} {j j' : ScopeId} {w w' : World}
    (h : fireAll run data ((key, a) :: steps) j w = .ok j' w') :
    data.hasName key = .ok false ∧ fireAll run data steps j w = .ok j' w' ∨
      data.hasName key = .ok true ∧ ∃ raw j₁ w₁, data.atName key = .ok raw ∧
        fireAt run key a data j w = .ok j₁ w₁ ∧ fireAll run data steps j₁ w₁ = .ok j' w' := by
  rw [fireAll_cons_apply] at h
  cases hpresent : data.hasName key with
  | error e => rw [hpresent] at h; cases h
  | ok present =>
      rw [hpresent] at h
      cases present with
      | false => exact .inl ⟨rfl, h⟩
      | true =>
          cases hfire : fireAt run key a data j w with
          | error r w₁ => simp only [hfire, reduceCtorEq] at h
          | ok j₁ w₁ =>
              simp only [hfire] at h
              cases hraw : data.atName key with
              | error e =>
                  rw [fireAt_apply, hraw] at hfire
                  cases hfire
              | ok raw => exact .inr ⟨rfl, raw, j₁, w₁, rfl, rfl, h⟩

-- A step that hands on its value as it is succeeds as its aspect does.
theorem apply_of_fireAt_eq_ok {run : Runner} {key : String} {a : Aspect} {data raw : Value}
    {j j' : ScopeId} {w w' : World} (ha : a.resolves = false) (hraw : data.atName key = .ok raw)
    (h : fireAt run key a data j w = .ok j' w') : a.apply run raw j w = .ok j' w' := by
  rw [fireAt_apply, hraw] at h
  simp only [ha, Bool.false_eq_true, if_false, pure_bind, under_apply] at h
  cases happly : a.apply run raw j w with
  | ok i v =>
      rw [happly] at h
      exact h
  | error r v =>
      rw [happly] at h
      cases h

theorem callAll_cons_apply (run : Runner) (f sub : Value) (subs : List Value) (j : ScopeId)
    (w : World) : run.callAll f (sub :: subs) j w = match run.call f sub j w with
      | .ok j' w' => run.callAll f subs j' w'
      | .error r w' => .error r w' := by
  rw [Runner.callAll, bind_apply]
  cases run.call f sub j w <;> rfl

theorem callAll_append_apply (run : Runner) (f : Value) (first rest : List Value) (j : ScopeId)
    (w : World) : run.callAll f (first ++ rest) j w = match run.callAll f first j w with
      | .ok j' w' => run.callAll f rest j' w'
      | .error r w' => .error r w' := by
  induction first generalizing j w with
  | nil => rfl
  | cons sub first ih =>
      rw [List.cons_append, callAll_cons_apply, callAll_cons_apply]
      cases run.call f sub j w with
      | error r w' => rfl
      | ok j' w' => exact ih j' w'

theorem runWith_succ_apply (fuel language : Nat) (data : Value) (i : ScopeId) (w : World) :
    runWith (fuel + 1) language data i w =
      fireAll (runWith fuel) data (w.language language).steps w.store.size
        { w with store := w.store.push i [(runnerName, .runner language w.store.size)] } := rfl

-- A function that keeps no journal only performs its action.
theorem Aspect.apply_of_journal {a : Aspect} (ha : a.handler.journal = none) (run : Runner)
    (v : Value) (j : ScopeId) (w : World) :
    a.apply run v j w = match a.handler.action.perform run v j w with
      | .ok (.ok i) w' => .ok i w'
      | .ok (.error k) w' => .error (.fresh (.kind (.notScope a.key k))) w'
      | .error r w' => .error r w' := by
  unfold Aspect.apply Handler.call
  rw [ha]
  simp only [bind_apply]
  cases a.handler.action.perform run v j w with
  | ok x w' => cases x <;> rfl
  | error r w' => rfl

namespace Action

theorem perform_bindForm (run : Runner) (key : String) (v : Value) (j : ScopeId) (w : World) :
    (bindForm key).perform run v j w = match w.store.resolveIn j v >>= Bindings.add [] with
      | .ok b => .ok (.ok w.store.size) { w with store := w.store.push j b }
      | .error e => .error (.fresh e) w := by
  simp only [perform, bind_apply, ask_apply, openWith, ofExcept_apply, openScope_apply, pure_apply]
  cases w.store.resolveIn j v with
  | error e => rfl
  | ok x =>
      change _ = match Bindings.add [] x with
        | .ok b => _
        | .error e => _
      simp only []
      cases Bindings.add [] x <;> rfl

theorem perform_pop (run : Runner) (v : Value) (j : ScopeId) (w : World) :
    pop.perform run v j w = match w.store.parent? j with
      | some p => .ok (.ok p) w
      | none => .ok (.error .null) w := by
  change (match w.store.parent? j with
    | some p => pure (.ok p)
    | none => pure (.error .null) : Engine (Except Kind ScopeId)) w = _
  cases w.store.parent? j <;> rfl

theorem perform_sub (run : Runner) (v : Value) (j : ScopeId) (w : World) :
    sub.perform run v j w = match w.store.resolve j runnerName with
      | .error e => .error (.fresh e) w
      | .ok f => match run.call f v j w with
        | .ok i w' => .ok (.ok i) w'
        | .error r w' => .error r w' := by
  simp only [perform, bind_apply, ask_apply]
  cases w.store.resolve j runnerName with
  | error e => rfl
  | ok f =>
      simp only []
      cases run.call f v j w <;> rfl

-- Without a function for sub-programs, or with members that cannot be walked through, nothing runs.
theorem perform_runSequence (run : Runner) (key : String) (v : Value) (j : ScopeId) (w : World) :
    (runSequence key).perform run v j w = match w.store.getD j runnerName .null with
      | .error e => .error (.fresh e) w
      | .ok .null => .error (.fresh (.missingRunner key)) w
      | .ok f => match v.members with
        | .error e => .error (.fresh e) w
        | .ok ms => match run.callAll f ms j w with
          | .ok i w' => .ok (.ok i) w'
          | .error r w' => .error r w' := by
  simp only [perform, bind_apply, ask_apply]
  cases w.store.getD j runnerName .null with
  | error e => rfl
  | ok f =>
      simp only []
      split
      · rfl
      · rename_i hf
        split
        · rename_i he
          cases he
        · rename_i he
          cases he
          exact (hf rfl).elim
        · rename_i he
          cases he
          simp only [bind_apply, ofExcept_apply]
          cases v.members with
          | error e => rfl
          | ok ms =>
              simp only []
              cases run.callAll f ms j w <;> rfl

end Action

-- Where there is a function for sub-programs, a sequence runs its members.
theorem apply_sequence {w : World} {j : ScopeId} {l k : Nat}
    (hfound : w.store.getD j runnerName .null = .ok (.runner l k)) {run : Runner} {key : String}
    {raw : Value} : (Aspect.ofSequence 0 key).apply run raw j w = match raw.members with
      | .error e => .error (.fresh e) w
      | .ok ms => run.callAll (.runner l k) ms j w := by
  rw [Aspect.apply_of_journal rfl]
  simp only [Aspect.ofSequence, Action.perform_runSequence, hfound]
  cases raw.members with
  | error e => rfl
  | ok ms =>
      simp only []
      cases run.callAll (.runner l k) ms j w <;> rfl

end Dialect
