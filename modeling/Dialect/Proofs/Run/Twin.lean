import Dialect.Proofs.Run.Failure
import Dialect.Proofs.Scope.Twin
import Dialect.Proofs.Value.Entries

namespace Dialect

open Engine
open Dialect.Expr (Compiled Evaluator)
open Store (Above Twins)

-- What an action that raises the error object of a label would make is something that the label may
-- stand for.
def Action.Makes (means : String → Except Error Error → Prop) (action : Action) : Prop :=
  ∀ c args label, action = .fail c args (some label) → means label (c.construct args)

-- Two worlds to start from: their scopes, their languages, and what the labels of error objects may
-- stand for.
structure Pairing where
  left : Store
  right : Store
  languages : List Language
  Means : String → Except Error Error → Prop
  makes : ∀ l : Nat, ∀ step ∈ (languages[l]?.getD default).steps,
    step.2.handler.action.Makes Means

-- The error object of a label exists, with a trail; all else is as it was.
structure World.Kept (label : String) (x : Error × List String) (w v : World) : Prop where
  languages : v.languages = w.languages
  evaluators : v.evaluators = w.evaluators
  store : v.store = w.store
  shared : ∀ l, v.shared? l = if l = label then some x else w.shared? l

theorem World.kept_keep (w : World) (label : String) (e : Error) (trail : List String) :
    World.Kept label (e, trail) w (w.keep label e trail) :=
  ⟨rfl, rfl, rfl, shared?_keep w label e trail⟩

theorem Value.kind_eq_null (v : Value) : v.kind = .null ↔ v = .null := by
  cases v <;> simp [kind]

theorem Engine.optional_of_kind {v : Value} (h : v.kind ≠ .map) (name : String) :
    optional v name = fail (.member v.kind "get") := by
  cases v
  case map es => exact (h rfl).elim
  all_goals rfl

-- A call does not see the label of the function.
theorem Runner.call_relabel (ρ : Relabel) (run : Runner) (f m : Value) (i : ScopeId) :
    run.call (f.relabel ρ) m i = run.call f m i := by
  cases f <;> simp [Value.relabel, call, Value.kind, Compiled.relabel]

theorem Value.Twin.target {m m' : Value} (h : m.Twin m') (l : Nat) :
    (Program.target l m).1 = (Program.target l m').1 ∧
      (Program.target l m).2.Twin (Program.target l m').2 := by
  constructor
  · refine h.congr (g := fun x => (Program.target l x).1) fun x => ?_
    cases x <;> simp [relabel, Program.target]
  · refine h.congr (g := fun x => (Program.target l x).2.relabel .blank) fun x => ?_
    have hx := relabel_relabel .blank x
    cases x <;> simp only [relabel, Program.target, Program.dataOf] at hx ⊢ <;> exact hx

-- The error object of a label is raised without a trail, and is there afterwards.
theorem Engine.raise_kept {α : Type} {c : ErrorClass} {args : List Value} {e : Error}
    (hc : c.construct args = .ok e) {label : String} {w : World}
    (hw : w.shared? label = none ∨ w.shared? label = some (e, [])) :
    ∃ v, (raise c args (some label) : Engine α) w = .error ⟨e, [], some label⟩ v ∧
      World.Kept label (e, []) w v := by
  rw [raise_some_apply]
  rcases hw with hw | hw
  · rw [hw]
    simp only [hc]
    exact ⟨_, rfl, w.kept_keep label e []⟩
  · rw [hw]
    refine ⟨w, rfl, rfl, rfl, rfl, fun l => ?_⟩
    split
    · rename_i hl
      rw [hl, hw]
    · rfl

namespace Pairing

variable (P : Pairing)

-- The same scope on both sides.
abbrev Same (i j : ScopeId) : Prop := Above P.left P.right i j

-- An error object is the same on both sides. If its label can only stand for one error, it may not
-- have been made yet, as long as it carries no trail.
def Objects (label : String) (x y : Option (Error × List String)) : Prop :=
  x = y ∨ ∃ e, (∀ z, P.Means label z → z = .ok e) ∧ (x = none ∨ x = some (e, [])) ∧
    (y = none ∨ y = some (e, []))

-- What is asked of the world on either side.
structure Admits (w : World) : Prop where
  languages : w.languages = P.languages
  faithful : ∀ e ∈ w.evaluators, e.Faithful
  meant : ∀ {label : String} {e : Error} {trail : List String},
    w.shared? label = some (e, trail) → P.Means label (.ok e)

structure Worlds (w w' : World) : Prop where
  left : P.Admits w
  right : P.Admits w'
  store : Twins P.left P.right w.store w'.store
  shared : ∀ label, P.Objects label (w.shared? label) (w'.shared? label)

-- A failure with an error object is one that its label may stand for.
def Names (r : Raised) : Prop := ∀ label, r.label = some label → P.Means label (.ok r.error)

-- Work has ended alike on both sides.
def Ends {α β : Type} (R : α → β → Prop) :
    EStateM.Result Raised World α → EStateM.Result Raised World β → Prop
  | .ok a w, .ok b w' => R a b ∧ P.Worlds w w'
  | .error r w, .error r' w' => r = r' ∧ P.Names r ∧ P.Worlds w w'
  | _, _ => False

-- Work ends alike wherever it begins on both sides.
def Matches {α β : Type} (R : α → β → Prop) (x : Engine α) (y : Engine β) : Prop :=
  ∀ w w', P.Worlds w w' → P.Ends R (x w) (y w')

-- What actions give on both sides.
def Given : Except Kind ScopeId → Except Kind ScopeId → Prop
  | .ok i, .ok j => P.Same i j
  | .error k, .error k' => k = k'
  | _, _ => False

variable {P} {w w' : World}

theorem names_fresh (e : Error) : P.Names (.fresh e) := fun _ h => by cases h

theorem Admits.evaluator (h : P.Admits w) (i : Nat) : (w.evaluator i).Faithful := by
  unfold World.evaluator
  cases hi : w.evaluators[i]? with
  | none => exact Evaluator.faithful_empty i
  | some e => exact h.faithful e (List.mem_of_getElem? hi)

theorem Worlds.language_eq (h : P.Worlds w w') (l : Nat) :
    w.language l = P.languages[l]?.getD default ∧ w'.language l = P.languages[l]?.getD default := by
  unfold World.language
  rw [h.left.languages, h.right.languages]
  exact ⟨rfl, rfl⟩

theorem Names.through {r : Raised} (h : P.Names r) (key : String) : P.Names (r.through key) := by
  intro label hlabel
  rw [Raised.label_through] at hlabel
  rw [Raised.error_through]
  exact h label hlabel

theorem Admits.kept (h : P.Admits w) {label : String} {e : Error} {trail : List String}
    (hmeans : P.Means label (.ok e)) {v : World} (hv : World.Kept label (e, trail) w v) :
    P.Admits v := by
  refine ⟨hv.languages.trans h.languages, hv.evaluators ▸ h.faithful, ?_⟩
  intro l e' trail' hl
  rw [hv.shared] at hl
  split at hl
  · rename_i hlabel
    cases hl
    exact hlabel ▸ hmeans
  · exact h.meant hl

-- The same error object, with the same trail, is now there on both sides.
theorem Worlds.kept (h : P.Worlds w w') {label : String} {e : Error} {trail : List String}
    (hmeans : P.Means label (.ok e)) {v v' : World} (hv : World.Kept label (e, trail) w v)
    (hv' : World.Kept label (e, trail) w' v') : P.Worlds v v' := by
  refine ⟨h.left.kept hmeans hv, h.right.kept hmeans hv', ?_, fun l => ?_⟩
  · rw [hv.store, hv'.store]
    exact h.store
  · rw [hv.shared, hv'.shared]
    split
    · exact .inl rfl
    · exact h.shared l

theorem Worlds.remember (h : P.Worlds w w') {r : Raised} (hr : P.Names r) :
    P.Worlds (w.remember r) (w'.remember r) := by
  unfold World.remember
  cases hlabel : r.label with
  | none => exact h
  | some label =>
      exact h.kept (hr label hlabel) (World.kept_keep _ _ _ _) (World.kept_keep _ _ _ _)

-- Both sides have changed their scopes alike.
theorem Worlds.withStore (h : P.Worlds w w') {s t : Store} (hst : Twins P.left P.right s t) :
    P.Worlds { w with store := s } { w' with store := t } :=
  ⟨⟨h.left.languages, h.left.faithful, h.left.meant⟩,
    ⟨h.right.languages, h.right.faithful, h.right.meant⟩, hst, h.shared⟩

section

variable {α β γ δ : Type} {R : α → β → Prop} {S : γ → δ → Prop}

namespace Matches

theorem bind {x : Engine α} {y : Engine β} {f : α → Engine γ} {g : β → Engine δ}
    (h : P.Matches R x y) (hf : ∀ a b, R a b → P.Matches S (f a) (g b)) :
    P.Matches S (x >>= f) (y >>= g) := by
  intro w w' hw
  have hends := h w w' hw
  rw [bind_apply, bind_apply]
  cases hx : x w <;> cases hy : y w' <;> rw [hx, hy] at hends
  · exact hf _ _ hends.1 _ _ hends.2
  · exact hends.elim
  · exact hends.elim
  · exact hends

theorem pure {a : α} {b : β} (h : R a b) : P.Matches R (Pure.pure a) (Pure.pure b) :=
  fun _ _ hw => ⟨h, hw⟩

theorem fail (e : Error) : P.Matches R (Engine.fail e) (Engine.fail e) :=
  fun _ _ hw => ⟨rfl, names_fresh e, hw⟩

theorem ofExcept {x : Except Error α} {y : Except Error β} (h : SwappedOutcome R x y) :
    P.Matches R (Engine.ofExcept x) (Engine.ofExcept y) := by
  cases x with
  | error e =>
      cases y with
      | error e' => exact (show e = e' from h) ▸ fail e
      | ok b => exact h.elim
  | ok a =>
      cases y with
      | error e' => exact h.elim
      | ok b => exact pure h

theorem ask {f : Store → Except Error α} {g : Store → Except Error β}
    (h : ∀ s t, Twins P.left P.right s t → SwappedOutcome R (f s) (g t)) :
    P.Matches R (Engine.ask f) (Engine.ask g) :=
  fun w w' hw => ofExcept (h _ _ hw.store) w w' hw

theorem change {f g : Store → Except Error Store}
    (h : ∀ s t, Twins P.left P.right s t →
      SwappedOutcome (Twins P.left P.right) (f s) (g t)) :
    P.Matches (fun _ _ => True) (Engine.change f) (Engine.change g) := by
  intro w w' hw
  have hst := h _ _ hw.store
  rw [change_apply, change_apply]
  cases hf : f w.store <;> cases hg : g w'.store <;> rw [hf, hg] at hst
  · exact ⟨congrArg Raised.fresh hst, names_fresh _, hw⟩
  · exact hst.elim
  · exact hst.elim
  · exact ⟨trivial, hw.withStore hst⟩

theorem openScope {p q : Option ScopeId} (hpq : Option.Rel P.Same p q) {b c : Bindings}
    (hbc : b.Twin c) : P.Matches P.Same (Engine.openScope p b) (Engine.openScope q c) :=
  fun _ _ hw => ⟨hw.store.size_above, hw.withStore (hw.store.push hpq hbc)⟩

theorem openWith {p q : Option ScopeId} (hpq : Option.Rel P.Same p q) {u v : Value}
    (huv : u.Twin v) : P.Matches P.Same (Engine.openWith p u) (Engine.openWith q v) :=
  (ofExcept (Bindings.Twin.add (.refl []) huv)).bind fun _ _ => openScope hpq

theorem under {x : Engine α} {y : Engine β} (h : P.Matches R x y) (key : String) :
    P.Matches R (Engine.under key x) (Engine.under key y) := by
  intro w w' hw
  have hends := h w w' hw
  rw [under_apply, under_apply]
  cases hx : x w <;> cases hy : y w' <;> rw [hx, hy] at hends
  · exact hends
  · exact hends
  · exact hends
  · obtain ⟨rfl, hnames, hv⟩ := hends
    exact ⟨rfl, hnames.through key, hv.remember (hnames.through key)⟩

-- An object that each side has without a trail or has yet to make ends up the same on both.
theorem raise_kept {c : ErrorClass} {args : List Value} {e : Error}
    (hc : c.construct args = .ok e) {label : String} (hmeans : P.Means label (.ok e))
    (hw : P.Worlds w w') (hleft : w.shared? label = none ∨ w.shared? label = some (e, []))
    (hright : w'.shared? label = none ∨ w'.shared? label = some (e, [])) :
    P.Ends R (Engine.raise c args (some label) w) (Engine.raise c args (some label) w') := by
  obtain ⟨v, hv, hkept⟩ := Engine.raise_kept hc hleft
  obtain ⟨v', hv', hkept'⟩ := Engine.raise_kept hc hright
  rw [hv, hv']
  refine ⟨rfl, ?_, hw.kept hmeans hkept hkept'⟩
  rintro _ ⟨⟩
  exact hmeans

theorem raise {c : ErrorClass} {args : List Value} {label : Option String}
    (h : ∀ l, label = some l → P.Means l (c.construct args)) :
    P.Matches R (Engine.raise c args label) (Engine.raise c args label) := by
  cases label with
  | none =>
      refine (ofExcept (.of_eq (R := Eq) (fun _ => rfl) rfl)).bind ?_
      rintro e _ rfl
      exact fail e
  | some l =>
      intro w w' hw
      have hmeans := h l rfl
      rcases hw.shared l with heq | ⟨e, honly, hleft, hright⟩
      · cases hobject : w'.shared? l with
        | some x =>
            rw [raise_some_apply, raise_some_apply, heq, hobject]
            refine ⟨rfl, ?_, hw⟩
            rintro _ ⟨⟩
            exact hw.right.meant hobject
        | none =>
            cases hc : c.construct args with
            | ok e =>
                exact raise_kept hc (hc ▸ hmeans) hw (.inl (heq.trans hobject)) (.inl hobject)
            | error e =>
                rw [raise_some_apply, raise_some_apply, heq, hobject, hc]
                exact ⟨rfl, names_fresh e, hw⟩
      · -- the label can only stand for one error, so that is what the step makes
        have hc : c.construct args = .ok e := honly _ hmeans
        exact raise_kept hc (hc ▸ hmeans) hw hleft hright

theorem compile (e : Nat) {u v : Value} (h : u.Twin v) (params : List String) :
    P.Matches (fun f g => f.relabel .blank = g.relabel .blank) (Engine.compile e u params)
      (Engine.compile e v params) := by
  intro w w' hw
  have hfaithful {u : World} (hu : P.Admits u) (x : Value) : ∀ a ∈ u.evaluators.set e
      ((u.evaluator e).compile x (.tuple (params.map .str))).2, a.Faithful := by
    intro a ha
    rcases List.mem_or_eq_of_mem_set ha with ha | rfl
    · exact hu.faithful a ha
    · exact (hu.evaluator e).compile _ _
  rw [compile_apply, compile_apply]
  refine ofExcept ?_ _ _ ⟨⟨hw.left.languages, hfaithful hw.left u, hw.left.meant⟩,
    ⟨hw.right.languages, hfaithful hw.right v, hw.right.meant⟩, hw.store, hw.shared⟩
  exact h.compile (hw.left.evaluator e) (hw.right.evaluator e) params

theorem compileAt (e : Nat) {u v : Value} (h : u.Twin v) (name : String) (params : List String) :
    P.Matches (fun f g => f.relabel .blank = g.relabel .blank) (Engine.compileAt e u name params)
      (Engine.compileAt e v name params) :=
  (ofExcept (h.atName name)).bind fun _ _ hx => compile e hx params

theorem appendStep {i j : ScopeId} (hij : P.Same i j) {u v : Value} (h : u.Twin v) :
    P.Matches P.Same (Engine.appendStep i u) (Engine.appendStep j v) := by
  refine (ask fun s t hst => hst.resolve hij pipelineName).bind fun _ _ hp => ?_
  refine (ofExcept hp.spread).bind fun xs ys hs => ?_
  refine (change fun s t hst => ?_).bind fun _ _ _ => pure hij
  exact hst.provide hij pipelineName (.of_list (List.rel_append hs (.cons h .nil)))

theorem optional {u v : Value} (h : u.Twin v) (name : String) :
    P.Matches Value.Twin (Engine.optional u name) (Engine.optional v name) := by
  have hkind : u.kind = v.kind := h.congr (Value.kind_relabel .blank)
  by_cases hmap : u.kind = .map
  · obtain ⟨es, rfl⟩ := Value.eq_map_of_kind hmap
    obtain ⟨fs, rfl⟩ := Value.eq_map_of_kind (hkind.symm.trans hmap)
    exact pure (h.entry name)
  · rw [optional_of_kind hmap, optional_of_kind (hkind ▸ hmap), hkind]
    exact fail _

theorem conditionArgs {u v : Value} (h : u.Twin v) :
    P.Matches (List.Forall₂ Value.Twin) (Engine.conditionArgs u) (Engine.conditionArgs v) := by
  refine (optional h "args").bind fun x y hxy => ?_
  rw [hxy.congr (Value.truthy_relabel .blank)]
  split
  · exact ofExcept hxy.members
  · exact pure (.cons (.refl _) .nil)

theorem scope {x y : Engine ScopeId} (h : P.Matches P.Same x y) :
    P.Matches P.Given (x >>= fun i => Pure.pure (.ok i)) (y >>= fun j => Pure.pure (.ok j)) :=
  h.bind fun _ _ hij => pure hij

end Matches

end

variable (P) in
-- Sub-programs are run alike on both sides.
def Runs (run : Runner) : Prop :=
  ∀ l data data' i j, data.Twin data' → P.Same i j → P.Matches P.Same (run l data i) (run l data' j)

section

variable {run : Runner} (hrun : P.Runs run)
include hrun

theorem call_matches {f f' m m' : Value} (hf : f.Twin f') (hm : m.Twin m') {i j : ScopeId}
    (hij : P.Same i j) : P.Matches P.Same (run.call f m i) (run.call f' m' j) := by
  rw [← hf.congr (g := fun x => run.call x m' j) (fun x => Runner.call_relabel .blank run x m' j)]
  cases f with
  | runner l n =>
      rw [Runner.call_runner, Runner.call_runner]
      obtain ⟨hlanguage, hdata⟩ := hm.target l
      rw [hlanguage]
      exact hrun _ _ _ _ _ hdata hij
  | _ => exact .fail _

theorem callAll_matches {f f' : Value} (hf : f.Twin f') {ms ms' : List Value}
    (hms : List.Forall₂ Value.Twin ms ms') {i j : ScopeId} (hij : P.Same i j) :
    P.Matches P.Same (run.callAll f ms i) (run.callAll f' ms' j) := by
  induction hms generalizing i j with
  | nil => exact .pure hij
  | cons hm _ ih => exact (call_matches hrun hf hm hij).bind fun _ _ => ih

-- By the action: each does the same to twin values in the same scope.
theorem perform_matches {action : Action} (haction : action.Makes P.Means) {u v : Value}
    (h : u.Twin v) {i j : ScopeId} (hij : P.Same i j) :
    P.Matches P.Given (action.perform run u i) (action.perform run v j) := by
  have hparent : Option.Rel P.Same (some i) (some j) := .some hij
  cases action with
  | bindForm key =>
      refine (Matches.ask fun s t hst => hst.resolveIn hij h).bind fun x y hxy => ?_
      exact Matches.scope (.openWith hparent hxy)
  | runSequence key =>
      refine (Matches.ask fun s t hst => hst.getD hij runnerName .null).bind fun f f' hf => ?_
      have hnull : f = .null ↔ f' = .null := by
        rw [← Value.kind_eq_null, ← Value.kind_eq_null, hf.congr (Value.kind_relabel .blank)]
      split <;> split
      · exact .fail _
      · rename_i hne
        exact (hne (hnull.mp rfl)).elim
      · rename_i hne _
        exact (hne (hnull.mpr rfl)).elim
      · refine (Matches.ofExcept h.members).bind fun ms ms' hms => ?_
        exact Matches.scope (callAll_matches hrun hf hms hij)
  | bindNamespace key => exact Matches.scope (.openScope hparent (.single _ h))
  | transform e =>
      refine (Matches.compileAt e h _ _).bind fun f g hfg => ?_
      exact Matches.scope (.appendStep hij (.of_compiled hfg))
  | filter e =>
      refine (Matches.compileAt e h _ _).bind fun f g hfg => ?_
      exact Matches.scope (.appendStep hij (.of_keep hfg _ _))
  | choose e =>
      refine (Matches.conditionArgs h).bind fun args args' hargs => ?_
      rw [hargs.length_eq]
      refine (Matches.compileAt e h _ _).bind fun test test' htest => ?_
      refine (Matches.compileAt e h _ _).bind fun yes yes' hyes => ?_
      refine (Matches.compileAt e h _ _).bind fun no no' hno => ?_
      exact Matches.scope (.appendStep hij (.of_branch hargs htest hyes hno _ _))
  | noop => exact .pure hij
  | bind name => exact Matches.scope (.openScope hparent (.single _ h))
  | rebind name =>
      refine (Matches.change fun s t hst => hst.bind hij ?_).bind fun _ _ _ => .pure hij
      exact .of_object name h
  | emit =>
      refine (Matches.ask fun s t hst => hst.resolve hij "out").bind fun x y hxy => ?_
      refine (Matches.ofExcept hxy.spread).bind fun xs ys hs => ?_
      refine (Matches.change fun s t hst => ?_).bind fun _ _ _ => .pure hij
      exact hst.provide hij "out" (.of_list (List.rel_append hs (.cons h .nil)))
  | add =>
      refine (Matches.ask fun s t hst => hst.resolve hij "total").bind fun x y hxy => ?_
      refine (Matches.ofExcept (hxy.add h)).bind fun sum sum' hsum => ?_
      refine (Matches.change fun s t hst => ?_).bind fun _ _ _ => .pure hij
      exact hst.provide hij "total" hsum
  | provide =>
      refine (Matches.ofExcept (h.atName "path")).bind fun x y hxy => ?_
      refine (Matches.ofExcept (h.atName "value")).bind fun new new' hnew => ?_
      rw [hxy.congr (Value.ofValue_relabel .blank)]
      refine (Matches.ofExcept (.of_eq (R := Eq) (fun _ => rfl) rfl)).bind ?_
      rintro path _ rfl
      refine (Matches.change fun s t hst => ?_).bind fun _ _ _ => .pure hij
      exact hst.provide hij path hnew
  | lookup name =>
      simp only [Action.perform, h.congr (Value.ofValue_relabel .blank)]
      refine (Matches.ofExcept (.of_eq (R := Eq) (fun _ => rfl) rfl)).bind ?_
      rintro path _ rfl
      refine (Matches.ask fun s t hst => hst.resolve hij path).bind fun x y hxy => ?_
      exact Matches.scope (.openScope hparent (.single _ hxy))
  | pop =>
      intro w w' hw
      rw [Action.perform_pop, Action.perform_pop]
      rcases rel_cases (hw.store.parent? hij) with ⟨hp, hq⟩ | ⟨p, q, hp, hq, hpq⟩ <;> rw [hp, hq]
      · exact ⟨rfl, hw⟩
      · exact ⟨hpq, hw⟩
  | give v => exact .pure rfl
  | sub =>
      refine (Matches.ask fun s t hst => hst.resolve hij runnerName).bind fun f f' hf => ?_
      exact Matches.scope (call_matches hrun hf h hij)
  | fail c args label => exact .raise fun l hl => haction c args l (hl ▸ rfl)

theorem apply_matches {a : Aspect} (ha : a.handler.action.Makes P.Means) {u v : Value}
    (h : u.Twin v) {i j : ScopeId} (hij : P.Same i j) :
    P.Matches P.Same (a.apply run u i) (a.apply run v j) := by
  intro w w' hw
  have hnoted : P.Worlds (a.handler.noted u i w) (a.handler.noted v j w') := by
    unfold Handler.noted
    cases a.handler.journal with
    | none => exact hw
    | some key => exact ⟨⟨hw.left.languages, hw.left.faithful, hw.left.meant⟩,
        ⟨hw.right.languages, hw.right.faithful, hw.right.meant⟩, hw.store, hw.shared⟩
  have hends := perform_matches hrun ha h hij _ _ hnoted
  rw [Aspect.apply_noted, Aspect.apply_noted]
  cases hx : a.handler.action.perform run u i (a.handler.noted u i w) <;>
    cases hy : a.handler.action.perform run v j (a.handler.noted v j w') <;> rw [hx, hy] at hends
  · rename_i x w₁ y w₂
    obtain ⟨hgiven, hworlds⟩ := hends
    cases x <;> cases y
    · rw [show _ = _ from hgiven]
      exact ⟨rfl, names_fresh _, hworlds⟩
    · exact hgiven.elim
    · exact hgiven.elim
    · exact ⟨hgiven, hworlds⟩
  · exact hends.elim
  · exact hends.elim
  · exact hends

theorem fireAt_matches {key : String} {a : Aspect} (ha : a.handler.action.Makes P.Means)
    {data data' : Value} (h : data.Twin data') {i j : ScopeId} (hij : P.Same i j) :
    P.Matches P.Same (fireAt run key a data i) (fireAt run key a data' j) := by
  refine (Matches.ofExcept (h.atName key)).bind fun raw raw' hraw => .under ?_ key
  cases a.resolves with
  | false => exact apply_matches hrun ha hraw hij
  | true =>
      refine (Matches.ask fun s t hst => hst.resolveIn hij hraw).bind fun value value' hvalue => ?_
      exact apply_matches hrun ha hvalue hij

theorem fireAll_matches {steps : List (String × Aspect)}
    (hsteps : ∀ step ∈ steps, step.2.handler.action.Makes P.Means) {data data' : Value}
    (h : data.Twin data') {i j : ScopeId} (hij : P.Same i j) :
    P.Matches P.Same (fireAll run data steps i) (fireAll run data' steps j) := by
  induction steps generalizing i j with
  | nil => exact .pure hij
  | cons step steps ih =>
      obtain ⟨key, a⟩ := step
      have hrest := fun step hstep => hsteps step (List.mem_cons_of_mem _ hstep)
      have hname : data.hasName key = data'.hasName key :=
        h.congr (g := fun x => x.hasName key) fun x => Value.hasName_relabel .blank x key
      unfold fireAll
      rw [hname]
      refine (Matches.ofExcept (.of_eq (R := Eq) (fun _ => rfl) rfl)).bind ?_
      rintro present _ rfl
      cases present with
      | false => exact ih hrest hij
      | true =>
          exact (fireAt_matches hrun (hsteps _ List.mem_cons_self) h hij).bind fun _ _ =>
            ih hrest

end

-- By induction on the fuel. The scope that a run opens holds a runner with the number of the scope,
-- which twins may differ in.
theorem runs_runWith (P : Pairing) (fuel : Nat) : P.Runs (runWith fuel) := by
  induction fuel with
  | zero => exact fun _ _ _ _ _ _ _ => .fail _
  | succ fuel ih =>
      intro l data data' i j h hij w w' hw
      obtain ⟨hleft, hright⟩ := hw.language_eq l
      have hopened : P.Matches P.Same
          (openScope (some i) [(runnerName, .runner l w.store.size)])
          (openScope (some j) [(runnerName, .runner l w'.store.size)]) :=
        .openScope (.some hij) (.single runnerName (by simp [Value.Twin, Relabel.blank]))
      rw [runWith_succ_apply, runWith_succ_apply, hleft, hright]
      exact hopened.bind (fun _ _ => fireAll_matches ih (P.makes l) h) w w' hw

end Pairing

end Dialect
