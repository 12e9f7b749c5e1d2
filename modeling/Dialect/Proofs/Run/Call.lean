import Dialect.Proofs.Run.Engine
import Dialect.Proofs.Run.Evaluation
import Mathlib.Logic.Relation

namespace Dialect

-- A run that is about to start: fuel, language, data, and the scope of a world it starts from.
structure Call where
  fuel : Nat
  language : Nat
  data : Value
  scope : ScopeId
  world : World

-- The world after a function has noted its call, if it keeps a journal.
def Handler.noted (h : Handler) (value : Value) (scope : ScopeId) (w : World) : World :=
  match h.journal with
  | some key => w.note (.fired key value (w.store.bindings scope).names)
  | none => w

theorem Handler.call_apply (run : Runner) (h : Handler) (value : Value) (scope : ScopeId)
    (w : World) : h.call run value scope w =
      h.action.perform run value scope (h.noted value scope w) := by
  unfold Handler.call Handler.noted
  cases h.journal <;> rfl

theorem Aspect.apply_noted (a : Aspect) (run : Runner) (v : Value) (j : ScopeId) (w : World) :
    a.apply run v j w = match a.handler.action.perform run v j (a.handler.noted v j w) with
      | .ok (.ok i) w' => .ok i w'
      | .ok (.error k) w' => .error (.fresh (.kind (.notScope a.key k))) w'
      | .error r w' => .error r w' := by
  unfold Aspect.apply
  rw [Engine.bind_apply, Handler.call_apply]
  cases a.handler.action.perform run v j (a.handler.noted v j w) with
  | ok x w' => cases x <;> rfl
  | error r w' => rfl

-- One more member, after those that have succeeded.
theorem callAll_concat_eq_ok {run : Runner} {l k : Nat} {first : List Value} {m : Value}
    {j₀ j j' : ScopeId} {w₀ w w' : World}
    (hfirst : run.callAll (.runner l k) first j₀ w₀ = .ok j w)
    (hrun : run (Program.target l m).1 (Program.target l m).2 j w = .ok j' w') :
    run.callAll (.runner l k) (first ++ [m]) j₀ w₀ = .ok j' w' := by
  rw [callAll_append_apply, hfirst]
  simp only [callAll_cons_apply, Runner.call_runner, hrun]
  rfl

-- Whether a name occurs in data.
def Value.mentions (data : Value) (key : String) : Bool :=
  match data.hasName key with
  | .ok true => true
  | _ => false

namespace Call

-- The call that a run of a program makes.
def ofRun (language : Nat) (data : Value) (scope : ScopeId) (w : World) : Call :=
  ⟨data.depth + spareDepth, language, data, scope, w⟩

-- The world in which the walk through the steps begins, in the newest scope.
def opened (c : Call) : World :=
  let own := [(runnerName, .runner c.language c.world.store.size)]
  { c.world with store := c.world.store.push c.scope own }

-- The value that a step hands to its function.
def handed (a : Aspect) (raw : Value) (j : ScopeId) (w : World) : Except Error Value :=
  if a.resolves then w.store.resolveIn j raw else .ok raw

-- A step fires on the value that it hands on.
theorem fireAt_handed (run : Runner) {key : String} (a : Aspect) {data raw : Value}
    (hraw : data.atName key = .ok raw) (j : ScopeId) (w : World) :
    fireAt run key a data j w = match handed a raw j w with
      | .error e => Engine.under key (Engine.fail e) w
      | .ok value => Engine.under key (a.apply run value j) w := by
  rw [fireAt_apply, hraw]
  unfold handed
  cases a.resolves with
  | false => simp only [Bool.false_eq_true, if_false, pure_bind]
  | true =>
      simp only [if_true, Engine.under_apply, Engine.bind_apply, Engine.ask_apply]
      cases w.store.resolveIn j raw <;> rfl

-- The call has fired some of its steps and stands before the others, in a scope of a world.
structure Stands (c : Call) (n : Nat) (done rest : List (String × Aspect)) (j : ScopeId)
    (w : World) : Prop where
  fuel : c.fuel = n + 1
  steps : (c.world.language c.language).steps = done ++ rest
  fired : fireAll (runWith n) c.data done c.world.store.size c.opened = .ok j w

-- The call comes to a step whose key is present: the steps before it have succeeded.
structure ComesTo (c : Call) (n : Nat) (before : List (String × Aspect)) (key : String)
    (a : Aspect) (raw : Value) (j : ScopeId) (w : World) : Prop where
  stands : ∃ after, c.Stands n before ((key, a) :: after) j w
  present : c.data.hasName key = .ok true
  value : c.data.atName key = .ok raw

-- An action is performed on a value, in a scope of a world.
def Performs (c : Call) (fuel : Nat) (action : Action) (value : Value) (j : ScopeId) (v : World) :
    Prop :=
  ∃ before key a raw w, c.ComesTo fuel before key a raw j w ∧ a.handler.action = action ∧
    handed a raw j w = .ok value ∧ v = a.handler.noted value j w

-- A call starts another one: for a member of a sequence, once those before it have succeeded, or
-- for the value of an action that runs it.
inductive Starts (c : Call) : Call → Prop where
  | member {fuel : Nat} {key : String} {value m : Value} {j j' : ScopeId} {v v' : World}
      {l n : Nat} {before after : List Value}
      (performs : c.Performs fuel (.runSequence key) value j v)
      (found : v.store.getD j runnerName .null = .ok (.runner l n))
      (members : value.members = .ok (before ++ m :: after))
      (done : (runWith fuel).callAll (.runner l n) before j v = .ok j' v') :
      Starts c ⟨fuel, (Program.target l m).1, (Program.target l m).2, j', v'⟩
  | sub {fuel : Nat} {value : Value} {j : ScopeId} {v : World} {l n : Nat}
      (performs : c.Performs fuel .sub value j v)
      (found : v.store.resolve j runnerName = .ok (.runner l n)) :
      Starts c ⟨fuel, (Program.target l value).1, (Program.target l value).2, j, v⟩

-- A call and all calls that are started on its way.
abbrev Reaches : Call → Call → Prop := Relation.ReflTransGen Starts

-- A binding form or a namespace that the call or one on its way comes to binds the name.
def Binds (c : Call) (name : String) : Prop :=
  ∃ c', c.Reaches c' ∧ ∃ fuel value j v,
    (∃ key, c'.Performs fuel (.bindNamespace key) value j v ∧ name = "@" ++ key) ∨
    ∃ key b, c'.Performs fuel (.bindForm key) value j v ∧
      (v.store.resolveIn j value >>= Bindings.add []) = .ok b ∧ name ∈ b.names

-- A call comes to steps only whose keys occur in its data.
theorem ComesTo.mem_steps {c : Call} {n : Nat} {before : List (String × Aspect)} {key : String}
    {a : Aspect} {raw : Value} {j : ScopeId} {w : World}
    (h : c.ComesTo n before key a raw j w) :
    (key, a) ∈ (c.world.language c.language).steps.filter (c.data.mentions ·.1) := by
  obtain ⟨⟨after, hstands⟩, hpresent, -⟩ := h
  rw [hstands.steps]
  simp [Value.mentions, hpresent]

section

variable {c : Call} {n : Nat} {done rest : List (String × Aspect)} {key : String} {a : Aspect}
  {j : ScopeId} {w : World}

theorem Stands.start (h : c.fuel = n + 1) :
    c.Stands n [] (c.world.language c.language).steps c.world.store.size c.opened :=
  ⟨h, rfl, rfl⟩

theorem Stands.skip (h : c.Stands n done ((key, a) :: rest) j w)
    (habsent : c.data.hasName key = .ok false) : c.Stands n (done ++ [(key, a)]) rest j w where
  fuel := h.fuel
  steps := by rw [h.steps, List.append_cons]
  fired := by
    rw [fireAll_append_apply, h.fired]
    simp only []
    rw [fireAll_cons_apply, habsent]
    rfl

theorem Stands.next (h : c.Stands n done ((key, a) :: rest) j w)
    (hpresent : c.data.hasName key = .ok true) {j' : ScopeId} {w' : World}
    (hfire : fireAt (runWith n) key a c.data j w = .ok j' w') :
    c.Stands n (done ++ [(key, a)]) rest j' w' where
  fuel := h.fuel
  steps := by rw [h.steps, List.append_cons]
  fired := by
    rw [fireAll_append_apply, h.fired]
    simp only []
    rw [fireAll_cons_apply, hpresent, hfire]
    rfl

end

end Call

end Dialect
