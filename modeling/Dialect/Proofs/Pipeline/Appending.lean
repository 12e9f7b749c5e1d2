import Dialect.Pipeline.Language
import Dialect.Proofs.Expr.Memory
import Dialect.Proofs.Run.Isolation
import Dialect.Proofs.Scope.Sight

namespace Dialect

open Engine
open Dialect.Expr (Compiled Evaluator)

theorem parts_pipelineName : Path.parts pipelineName = [pipelineName] := by decide

-- A language is in force where the function for sub-programs is seen.
theorem World.InForce.locate {w : World} {i : ScopeId} {l : Nat} (h : w.InForce i l) :
    ∃ o n, w.store.locate i runnerName = .ok (some (o, .runner l n)) := by
  obtain ⟨n, h⟩ := h
  rw [Store.getD_eq_locate] at h
  cases hlocate : w.store.locate i runnerName with
  | error e =>
      rw [hlocate] at h
      cases h
  | ok found =>
      rw [hlocate] at h
      cases found with
      | none => cases h
      | some x =>
          obtain ⟨o, v⟩ := x
          cases h
          exact ⟨o, n, rfl⟩

theorem World.InForce.of_locate_eq {w w' : World} {i : ScopeId} {l : Nat} (h : w.InForce i l)
    (hlocate : w'.store.locate i runnerName = w.store.locate i runnerName) : w'.InForce i l := by
  unfold InForce at h ⊢
  rw [Store.getD_eq_locate] at h ⊢
  rw [hlocate]
  exact h

theorem World.faithful_set {w : World} {ev : Nat} (h : (w.evaluator ev).Faithful) {e : Evaluator}
    (he : e.Faithful) {journal : List Event} :
    (World.evaluator { w with evaluators := w.evaluators.set ev e, journal := journal }
      ev).Faithful := by
  unfold World.evaluator at h ⊢
  by_cases hev : ev < w.evaluators.length
  · simpa [hev] using he
  · have hnone : w.evaluators[ev]? = none := List.getElem?_eq_none (Nat.le_of_not_lt hev)
    simpa [hev, hnone] using h

namespace Pipeline

-- The list that the pipeline has in a scope has got new members at its end. Other scopes stay as
-- they are, and so do the other names of this one.
structure Appends (ev : Nat) (o : ScopeId) (new : List Value) (w w' : World) : Prop where
  size_le : w.store.size ≤ w'.store.size
  sees {k : ScopeId} {old : List Value} :
    w.store.locate k pipelineName = .ok (some (o, .list old)) →
    w'.store.locate k pipelineName = .ok (some (o, .list (old ++ new)))
  others {k : ScopeId} : k ≠ o → k < w.store.size → w'.store.scope? k = w.store.scope? k
  parent : w'.store.parent? o = w.store.parent? o
  names : (w'.store.bindings o).names = (w.store.bindings o).names
  values {name : String} : name ≠ pipelineName →
    (w'.store.bindings o).find? name = (w.store.bindings o).find? name
  inForce {k : ScopeId} {l : Nat} : w.InForce k l → w'.InForce k l
  languages : w'.languages = w.languages
  faithful : (w.evaluator ev).Faithful → (w'.evaluator ev).Faithful

namespace Appends

variable {ev : Nat} {o : ScopeId} {new more : List Value} {u v w w' : World}

-- The scopes and languages are the same, and evaluators have only learnt.
theorem of_store (hstore : w'.store = w.store) (hlanguages : w'.languages = w.languages)
    (hfaithful : (w.evaluator ev).Faithful → (w'.evaluator ev).Faithful) :
    Appends ev o [] w w' where
  size_le := Nat.le_of_eq (by rw [hstore])
  sees h := by rwa [hstore, List.append_nil]
  others _ _ := by rw [hstore]
  parent := by rw [hstore]
  names := by rw [hstore]
  values _ := by rw [hstore]
  inForce h := h.of_locate_eq (by rw [hstore])
  languages := hlanguages
  faithful := hfaithful

theorem refl (w : World) : Appends ev o [] w w := of_store rfl rfl id

theorem trans (huv : Appends ev o new u v) (hvw : Appends ev o more v w) :
    Appends ev o (new ++ more) u w where
  size_le := Nat.le_trans huv.size_le hvw.size_le
  sees h := by
    rw [← List.append_assoc]
    exact hvw.sees (huv.sees h)
  others hk hlt := (hvw.others hk (Nat.lt_of_lt_of_le hlt huv.size_le)).trans (huv.others hk hlt)
  parent := hvw.parent.trans huv.parent
  names := hvw.names.trans huv.names
  values hname := (hvw.values hname).trans (huv.values hname)
  inForce h := hvw.inForce (huv.inForce h)
  languages := hvw.languages.trans huv.languages
  faithful h := hvw.faithful (huv.faithful h)

theorem remember (w : World) (r : Raised) : Appends ev o [] w (w.remember r) := by
  unfold World.remember
  cases r.label <;> exact of_store rfl rfl id

theorem push (ho : o < w.store.size) (p : Option ScopeId) (b : Bindings) :
    Appends ev o [] w { w with store := w.store.push p b } where
  size_le := Nat.le_succ _
  sees h := by
    have hne := Nat.ne_of_lt (Store.lt_size_of_locate h)
    rw [List.append_nil, Store.locate_push_of_ne _ _ _ hne, h]
  others _ hk := Store.scope?_push_of_ne _ _ _ (Nat.ne_of_lt hk)
  parent := (Store.parent?_push _ _ _ _).trans (if_neg (Nat.ne_of_lt ho))
  names := by rw [Store.bindings_push, if_neg (Nat.ne_of_lt ho)]
  values _ := by rw [Store.bindings_push, if_neg (Nat.ne_of_lt ho)]
  inForce h := by
    obtain ⟨q, n, hlocate⟩ := h.locate
    exact h.of_locate_eq
      (Store.locate_push_of_ne _ _ _ (Nat.ne_of_lt (Store.lt_size_of_locate hlocate)) _)
  languages := rfl
  faithful := id

-- Writing a longer list in its place.
theorem write {j : ScopeId} {old : List Value}
    (h : w.store.locate j pipelineName = .ok (some (o, .list old))) (step : Value) :
    Appends ev o [step] w { w with
      store := w.store.setBindings o
        ((w.store.bindings o).set pipelineName (.list (old ++ [step]))) } := by
  have hname (b : Bindings) : b.lookup (Path.parts pipelineName) = .ok (b.find? pipelineName) := by
    rw [parts_pipelineName, Bindings.lookup_name]
  obtain ⟨ho, hlookup⟩ := Store.lookup_of_locate h
  have hfind := Except.ok.inj ((hname _).symm.trans hlookup)
  have hset (name : String) := Bindings.find?_set (w.store.bindings o) pipelineName
    (.list (old ++ [step])) name
  refine ⟨Nat.le_of_eq (Store.size_setBindings _ _ _).symm, ?_, ?_,
    Store.parent?_setBindings _ _ _ _, ?_, ?_, ?_, rfl, id⟩
  · intro k old' hk
    have hsame := (Store.lookup_of_locate hk).2
    rw [hlookup] at hsame
    cases hsame
    refine Store.locate_setBindings hk ?_
    rw [hname, hset, if_pos rfl]
  · intro k hk _
    exact (Store.scope?_setBindings _ _ _ _).trans (if_neg hk)
  · rw [Store.bindings_setBindings _ ho, if_pos rfl, Bindings.names_set,
      if_pos (Bindings.mem_names_of_find? hfind)]
  · intro name hname
    rw [Store.bindings_setBindings _ ho, if_pos rfl, hset, if_neg hname]
  · intro k l hl
    refine hl.of_locate_eq (Store.locate_setBindings_of_eq ?_)
    rw [parts_runnerName, Bindings.lookup_name, Bindings.lookup_name, hset, if_neg (by decide)]

end Appends

-- A function is compiled from the text at a name of a value.
def Compiles (value : Value) (name : String) (params : List String) (f : Compiled) : Prop :=
  ∃ source, value.atName name = .ok (.str source) ∧ f.Renders source (params.map .str)

-- The arguments of a condition: those that are given, or the item alone.
def Arguments (value : Value) (args : List Value) : Prop :=
  ∃ es, value = .map es ∧
    let given := (Value.find? es (.str "args")).getD .null
    if given.truthy then given.members = .ok args else args = [.mark .input]

-- The step that is made of a value in a scope, for each of the three keys.
inductive Makes (j : ScopeId) (value : Value) : String → Value → Prop where
  | transform {f : Compiled} (function : Compiles value "expression" (argNames 1) f) :
      Makes j value "transform" (.compiled f)
  | filter {f : Compiled} (function : Compiles value "expression" (argNames 1) f) :
      Makes j value "filter" (.keep f j)
  | choose {args : List Value} {test yes no : Compiled} (arguments : Arguments value args)
      (condition : Compiles value "condition" (argNames args.length) test)
      (consequent : Compiles value "consequent" (argNames 1) yes)
      (alternative : Compiles value "alternative" (argNames 1) no) :
      Makes j value "when" (.branch args test yes no j)

-- Work that adds nothing, and gives something with a property if it succeeds.
def Quiet {α : Type} (ev : Nat) (o : ScopeId) (P : α → Prop) (w : World) :
    EStateM.Result Raised World α → Prop
  | .ok a w' => P a ∧ Appends ev o [] w w'
  | .error _ w' => Appends ev o [] w w'

-- Work of a step: it adds what it makes, or fails and adds nothing.
def Adds (ev : Nat) (o j : ScopeId) (value : Value) (key : String) (w : World) :
    EStateM.Result Raised World (Except Kind ScopeId) → Prop
  | .ok x w' => x = .ok j ∧ ∃ step, Makes j value key step ∧ Appends ev o [step] w w'
  | .error _ w' => Appends ev o [] w w'

section

variable {ev : Nat} {o j : ScopeId} {w : World} {value : Value} {key : String}

theorem Quiet.bind {α : Type} {P : α → Prop} {x : Engine α} {f : α → Engine (Except Kind ScopeId)}
    (hx : Quiet ev o P w (x w))
    (hf : ∀ a w', P a → Appends ev o [] w w' → Adds ev o j value key w' (f a w')) :
    Adds ev o j value key w ((x >>= f) w) := by
  rw [bind_apply]
  cases hw : x w with
  | error r w' =>
      rw [hw] at hx
      exact hx
  | ok a w' =>
      rw [hw] at hx
      have h := hf a w' hx.1 hx.2
      simp only []
      cases hresult : f a w' with
      | error r w'' =>
          rw [hresult] at h
          exact hx.2.trans h
      | ok y w'' =>
          rw [hresult] at h
          obtain ⟨hy, step, hmakes, happends⟩ := h
          exact ⟨hy, step, hmakes, hx.2.trans happends⟩

theorem quiet_compile (hw : (w.evaluator ev).Faithful) (expression : Value)
    (params : List String) :
    Quiet ev o (fun f => ∃ source, expression = .str source ∧ f.Renders source (params.map .str)) w
      (compile ev expression params w) := by
  have happends (journal : List Event) : Appends ev o [] w { w with
      evaluators := w.evaluators.set ev
        ((w.evaluator ev).compile expression (.tuple (params.map .str))).2
      journal := journal } :=
    .of_store rfl rfl fun _ => World.faithful_set hw (hw.compile _ _)
  rw [compile_apply, ofExcept_apply]
  cases hanswer : ((w.evaluator ev).compile expression (.tuple (params.map .str))).1 with
  | error e => exact happends _
  | ok f => exact ⟨hw.renders_of_compile hanswer, happends _⟩

theorem quiet_compileAt (hw : (w.evaluator ev).Faithful) (value : Value) (name : String)
    (params : List String) :
    Quiet ev o (Compiles value name params) w (compileAt ev value name params w) := by
  unfold compileAt
  rw [bind_apply, ofExcept_apply]
  cases hvalue : value.atName name with
  | error e => exact .refl w
  | ok expression =>
      have hquiet := quiet_compile (o := o) hw expression params
      simp only []
      cases hcompile : compile ev expression params w with
      | error r w' =>
          rw [hcompile] at hquiet
          exact hquiet
      | ok f w' =>
          rw [hcompile] at hquiet
          obtain ⟨⟨source, rfl, hrenders⟩, happends⟩ := hquiet
          exact ⟨⟨source, hvalue, hrenders⟩, happends⟩

theorem quiet_conditionArgs (value : Value) (w : World) :
    Quiet ev o (Arguments value) w (conditionArgs value w) := by
  cases value
  case map es =>
    have hargs {args : List Value}
        (h : if ((Value.find? es (.str "args")).getD .null).truthy then
            ((Value.find? es (.str "args")).getD .null).members = .ok args
          else args = [.mark .input]) : Arguments (.map es) args := ⟨es, rfl, h⟩
    change Quiet ev o (Arguments (.map es)) w
      ((if ((Value.find? es (.str "args")).getD .null).truthy then
        ofExcept ((Value.find? es (.str "args")).getD .null).members
      else pure [.mark .input] : Engine (List Value)) w)
    by_cases hgiven : ((Value.find? es (.str "args")).getD .null).truthy = true
    · simp only [hgiven, if_true] at hargs ⊢
      rw [ofExcept_apply]
      cases hmembers : ((Value.find? es (.str "args")).getD .null).members with
      | error e => exact .refl w
      | ok args => exact ⟨hargs hmembers, .refl w⟩
    · simp only [hgiven] at hargs ⊢
      exact ⟨hargs rfl, .refl w⟩
  all_goals exact Appends.refl w

-- Adding a step puts it at the end of the list, where the list is found. If that fails, nothing is
-- added.
theorem adds_appendStep {old : List Value}
    (h : w.store.locate j pipelineName = .ok (some (o, .list old))) {step : Value}
    (hstep : Makes j value key step) :
    Adds ev o j value key w ((appendStep j step >>= fun i => pure (.ok i)) w) := by
  have hresolve : w.store.resolve j pipelineName = .ok (.list old) := by
    rw [Store.resolve_eq_locate, h]
    rfl
  have hprovide : w.store.provide j pipelineName (.list (old ++ [step])) =
      .ok (w.store.setBindings o
        ((w.store.bindings o).set pipelineName (.list (old ++ [step])))) := by
    rw [Store.provide, Store.owner_eq_locate, h, parts_pipelineName]
    rfl
  have happend : appendStep j step w = .ok j { w with
      store := w.store.setBindings o
        ((w.store.bindings o).set pipelineName (.list (old ++ [step]))) } := by
    unfold appendStep
    rw [bind_apply, ask_apply, hresolve]
    simp only [bind_apply, ofExcept_apply, Value.spread, Value.members?, change_apply, hprovide]
    rfl
  rw [bind_apply, happend]
  exact ⟨rfl, step, hstep, .write h step⟩

-- The actions of the three keys. What is compiled before the step is added leaves the list as it
-- was found.
theorem adds_perform (run : Runner) (hw : (w.evaluator ev).Faithful) {old : List Value}
    (h : w.store.locate j pipelineName = .ok (some (o, .list old))) {a : Aspect}
    (ha : a ∈ aspects ev) (value : Value) :
    Adds ev o j value a.key w (a.handler.action.perform run value j w) := by
  have hsees {w' : World} (happends : Appends ev o [] w w') :
      w'.store.locate j pipelineName = .ok (some (o, .list old)) := by
    rw [happends.sees h, List.append_nil]
  simp only [aspects, List.mem_cons, List.not_mem_nil, or_false] at ha
  rcases ha with rfl | rfl | rfl
  · exact (quiet_compileAt hw value _ _).bind fun f w₁ hf h₁ =>
      adds_appendStep (hsees h₁) (.transform hf)
  · exact (quiet_compileAt hw value _ _).bind fun f w₁ hf h₁ =>
      adds_appendStep (hsees h₁) (.filter hf)
  · refine (quiet_conditionArgs value w).bind fun args w₁ hargs h₁ => ?_
    refine (quiet_compileAt (h₁.faithful hw) value _ _).bind fun test w₂ htest h₂ => ?_
    refine (quiet_compileAt (h₂.faithful (h₁.faithful hw)) value _ _).bind fun yes w₃ hyes h₃ => ?_
    have h₁₃ : Appends ev o [] w w₃ := (h₁.trans h₂).trans h₃
    refine (quiet_compileAt (h₁₃.faithful hw) value _ _).bind fun no w₄ hno h₄ => ?_
    exact adds_appendStep (hsees (h₁₃.trans h₄)) (.choose hargs htest hyes hno)

end

end Pipeline

end Dialect
