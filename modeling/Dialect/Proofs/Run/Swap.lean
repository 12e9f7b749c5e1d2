import Dialect.Proofs.Run.Call
import Dialect.Proofs.Scope.Swap

namespace Dialect

open Engine

variable (l l' : Nat)

-- Worlds that differ in the runners that their scopes hold, and in their journals.
structure SwappedWorld (w w' : World) : Prop where
  store : SwappedStore l l' w.store w'.store
  languages : w.languages = w'.languages
  evaluators : w.evaluators = w'.evaluators
  shared : w.shared = w'.shared

-- Work has ended alike in two worlds.
def Alike {α β : Type} (R : α → β → Prop) :
    EStateM.Result Raised World α → EStateM.Result Raised World β → Prop
  | .ok a w, .ok b w' => R a b ∧ SwappedWorld l l' w w'
  | .error r w, .error r' w' => r = r' ∧ SwappedWorld l l' w w'
  | _, _ => False

-- Work ends alike whenever it begins in alike worlds.
def Mirrors {α β : Type} (R : α → β → Prop) (x : Engine α) (y : Engine β) : Prop :=
  ∀ w w', SwappedWorld l l' w w' → Alike l l' R (x w) (y w')

variable {l l'}

theorem SwappedWorld.refl (w : World) : SwappedWorld l l' w w := ⟨.refl _, rfl, rfl, rfl⟩

theorem SwappedWorld.language_eq {w w' : World} (h : SwappedWorld l l' w w') (i : Nat) :
    w.language i = w'.language i := by
  unfold World.language
  rw [h.languages]

theorem SwappedWorld.remember {w w' : World} (h : SwappedWorld l l' w w') (r : Raised) :
    SwappedWorld l l' (w.remember r) (w'.remember r) := by
  unfold World.remember
  cases r.label with
  | none => exact h
  | some label => exact ⟨h.store, h.languages, h.evaluators, by simp [World.keep, h.shared]⟩

section

variable {α β γ δ : Type} {R : α → β → Prop} {S : γ → δ → Prop}

-- The second part is only asked for where the first one has led.
theorem Alike.bind {x : Engine α} {y : Engine β} {f : α → Engine γ} {g : β → Engine δ}
    {w w' : World} (h : Alike l l' R (x w) (y w'))
    (hf : ∀ a b v v', x w = .ok a v → R a b → SwappedWorld l l' v v' →
      Alike l l' S (f a v) (g b v')) :
    Alike l l' S ((x >>= f) w) ((y >>= g) w') := by
  rw [bind_apply, bind_apply]
  cases hx : x w <;> cases hy : y w' <;> rw [hx, hy] at h
  · exact hf _ _ _ _ hx h.1 h.2
  · exact h.elim
  · exact h.elim
  · exact h

theorem Alike.under {x : Engine α} {y : Engine β} {w w' : World}
    (h : Alike l l' R (x w) (y w')) (key : String) :
    Alike l l' R (under key x w) (under key y w') := by
  rw [under_apply, under_apply]
  cases hx : x w <;> cases hy : y w' <;> rw [hx, hy] at h
  · exact h
  · exact h
  · exact h
  · obtain ⟨rfl, hw⟩ := h
    exact ⟨rfl, hw.remember _⟩

namespace Mirrors

theorem bind {x : Engine α} {y : Engine β} {f : α → Engine γ} {g : β → Engine δ}
    (h : Mirrors l l' R x y) (hf : ∀ a b, R a b → Mirrors l l' S (f a) (g b)) :
    Mirrors l l' S (x >>= f) (y >>= g) := by
  intro w w' hw
  exact (h w w' hw).bind fun a b v v' _ hab hv => hf a b hab v v' hv

theorem pure {a : α} {b : β} (h : R a b) : Mirrors l l' R (Pure.pure a) (Pure.pure b) :=
  fun _ _ hw => ⟨h, hw⟩

theorem throw (r : Raised) :
    Mirrors l l' R (MonadExcept.throw r : Engine α) (MonadExcept.throw r : Engine β) :=
  fun _ _ hw => ⟨rfl, hw⟩

theorem ofExcept {x : Except Error α} {y : Except Error β} (h : SwappedOutcome R x y) :
    Mirrors l l' R (Engine.ofExcept x) (Engine.ofExcept y) := by
  intro w w' hw
  cases x <;> cases y
  · exact ⟨congrArg Raised.fresh h, hw⟩
  · exact h.elim
  · exact h.elim
  · exact ⟨h, hw⟩

theorem ask {f : Store → Except Error α} {g : Store → Except Error β}
    (h : ∀ s t, SwappedStore l l' s t → SwappedOutcome R (f s) (g t)) :
    Mirrors l l' R (Engine.ask f) (Engine.ask g) := by
  intro w w' hw
  exact ofExcept (h _ _ hw.store) w w' hw

theorem change {f g : Store → Except Error Store}
    (h : ∀ s t, SwappedStore l l' s t → SwappedOutcome (SwappedStore l l') (f s) (g t)) :
    Mirrors l l' Eq (Engine.change f) (Engine.change g) := by
  intro w w' hw
  refine Alike.bind (x := Engine.ofExcept (f w.store)) (y := Engine.ofExcept (g w'.store))
    (ofExcept (h _ _ hw.store) w w' hw) ?_
  intro s t v v' _ hst hv
  exact ⟨rfl, hst, hv.languages, hv.evaluators, hv.shared⟩

theorem openScope (p : Option ScopeId) {b b' : Bindings} (h : SwappedBindings l l' b b') :
    Mirrors l l' Eq (Engine.openScope p b) (Engine.openScope p b') := by
  intro w w' hw
  exact ⟨hw.store.size_eq, hw.store.push p h, hw.languages, hw.evaluators, hw.shared⟩

theorem openWith (p : Option ScopeId) {u v : Value} (h : Swapped l l' u v) :
    Mirrors l l' Eq (Engine.openWith p u) (Engine.openWith p v) :=
  (ofExcept (SwappedBindings.add .nil h)).bind fun _ _ hb => openScope p hb

theorem compile (e : Nat) {u v : Value} (h : Swapped l l' u v) (params : List String) :
    Mirrors l l' Eq (Engine.compile e u params) (Engine.compile e v params) := by
  intro w w' hw
  have hevaluator : w.evaluator e = w'.evaluator e := by
    unfold World.evaluator
    rw [hw.evaluators]
  rw [compile_apply, compile_apply, ← hevaluator, h.compile_eq, hw.evaluators]
  exact ofExcept (.of_eq (fun _ => rfl) rfl) _ _ ⟨hw.store, hw.languages, rfl, hw.shared⟩

theorem compileAt (e : Nat) {u v : Value} (h : Swapped l l' u v) (name : String)
    (params : List String) :
    Mirrors l l' Eq (Engine.compileAt e u name params) (Engine.compileAt e v name params) :=
  (ofExcept (h.atName name)).bind fun _ _ hx => compile e hx params

theorem appendStep (i : ScopeId) {u v : Value} (h : Swapped l l' u v) :
    Mirrors l l' Eq (Engine.appendStep i u) (Engine.appendStep i v) := by
  refine (ask fun s t hst => hst.resolve i pipelineName).bind fun _ _ hp => ?_
  refine (ofExcept hp.spread).bind fun xs ys hs => ?_
  refine (change fun s t hst => ?_).bind fun _ _ _ => pure rfl
  exact hst.provide i pipelineName (.of_list (List.rel_append hs (.cons h .nil)))

theorem optional {u v : Value} (h : Swapped l l' u v) (name : String) :
    Mirrors l l' (Swapped l l') (Engine.optional u name) (Engine.optional v name) := by
  cases u with
  | map es =>
      simp only [Swapped] at h
      obtain ⟨fs, rfl, h⟩ := h
      refine pure ?_
      rcases rel_cases (SwappedEntries.find? (swappedEntries_iff.mp h) name) with
        ⟨hx, hy⟩ | ⟨x, y, hx, hy, hxy⟩ <;> rw [hx, hy]
      · exact .refl .null
      · exact hxy
  | _ => cases h.view <;> exact throw _

theorem conditionArgs {u v : Value} (h : Swapped l l' u v) :
    Mirrors l l' (List.Forall₂ (Swapped l l')) (Engine.conditionArgs u)
      (Engine.conditionArgs v) := by
  refine (optional h "args").bind fun x y hxy => ?_
  rw [hxy.truthy_eq]
  split
  · exact ofExcept hxy.members
  · exact pure (.cons (.refl _) .nil)

theorem raise (c : ErrorClass) (args : List Value) (label : Option String) :
    Mirrors l l' R (Engine.raise c args label : Engine α)
      (Engine.raise c args label : Engine β) := by
  cases label with
  | none => exact (ofExcept (.of_eq (fun _ => rfl) rfl)).bind fun e _ he => he ▸ throw _
  | some label =>
      intro w w' hw
      have hshared : w.shared? label = w'.shared? label := by
        unfold World.shared?
        rw [hw.shared]
      unfold Engine.raise
      refine Alike.bind (R := fun u v => u = w ∧ v = w') ⟨⟨rfl, rfl⟩, hw⟩ ?_
      rintro u v _ _ - ⟨rfl, rfl⟩ hw
      rw [← hshared]
      cases u.shared? label with
      | some x => exact ⟨rfl, hw⟩
      | none =>
          cases c.construct args with
          | error e => exact ⟨rfl, hw⟩
          | ok e =>
              exact ⟨rfl, hw.store, hw.languages, hw.evaluators, by simp [World.keep, hw.shared]⟩

end Mirrors

end

variable (l l') in
-- The same language, or the second in place of the first.
def Exchanged (a b : Nat) : Prop := a = b ∨ a = l ∧ b = l'

variable (l l') in
-- A run of a sub-program ends like any run of alike data under an exchanged language.
def Follows (run : Runner) (own : Nat) (data : Value) (i : ScopeId) (w : World) : Prop :=
  ∀ b data' w', Exchanged l l' own b → Swapped l l' data data' → SwappedWorld l l' w w' →
    Alike l l' Eq (run own data i w) (run b data' i w')

theorem Swapped.target {m m' : Value} (h : Swapped l l' m m') {a b : Nat}
    (hab : Exchanged l l' a b) :
    Exchanged l l' (Program.target a m).1 (Program.target b m').1 ∧
      Swapped l l' (Program.target a m).2 (Program.target b m').2 := by
  cases h.view with
  | program own hd => exact ⟨.inl rfl, hd⟩
  | same =>
      cases m with
      | program d own => exact ⟨.inl rfl, .refl d⟩
      | _ => exact ⟨hab, .refl _⟩
  | _ => exact ⟨hab, h⟩

section

variable {run : Runner}

-- Members from left to right: what comes before a member has ended alike.
theorem callAll_alike {a b k : Nat} (hab : Exchanged l l' a b) {ms ms' : List Value}
    (hms : List.Forall₂ (Swapped l l') ms ms') {i : ScopeId} {w w' : World}
    (hfollows : ∀ first m rest j v, ms = first ++ m :: rest →
      run.callAll (.runner a k) first i w = .ok j v →
      Follows l l' run (Program.target a m).1 (Program.target a m).2 j v)
    (hw : SwappedWorld l l' w w') :
    Alike l l' Eq (run.callAll (.runner a k) ms i w) (run.callAll (.runner b k) ms' i w') := by
  induction hms generalizing i w w' with
  | nil => exact ⟨rfl, hw⟩
  | @cons m m' ms ms' hm _ ih =>
      obtain ⟨hlanguage, hdata⟩ := hm.target hab
      refine Alike.bind (R := Eq) ?_ ?_
      · rw [Runner.call_runner, Runner.call_runner]
        exact hfollows [] m ms i w rfl rfl _ _ w' hlanguage hdata hw
      · rintro j _ v v' hrun rfl hv
        refine ih ?_ hv
        intro first x rest j' u heq hfirst
        refine hfollows (m :: first) x rest j' u (by rw [heq]; rfl) ?_
        rw [callAll_cons_apply, hrun]
        exact hfirst

-- What is no function for sub-programs fails in the same way.
theorem call_mirrors {f f' : Value} (hf : Swapped l l' f f') (hrunner : ∀ a k, f ≠ .runner a k)
    (m m' : Value) (i : ScopeId) : Mirrors l l' Eq (run.call f m i) (run.call f' m' i) := by
  cases hf.view with
  | same =>
      cases f with
      | runner a k => exact (hrunner a k rfl).elim
      | _ => exact .throw _
  | runner k => exact (hrunner _ _ rfl).elim
  | _ => exact .throw _

theorem callAll_mirrors {f f' : Value} (hf : Swapped l l' f f') (hrunner : ∀ a k, f ≠ .runner a k)
    {ms ms' : List Value} (hms : List.Forall₂ (Swapped l l') ms ms') (i : ScopeId) :
    Mirrors l l' Eq (run.callAll f ms i) (run.callAll f' ms' i) := by
  induction hms generalizing i with
  | nil => exact .pure rfl
  | cons hm _ ih => exact (call_mirrors hf hrunner _ _ i).bind fun j _ hj => hj ▸ ih j

-- A function for sub-programs is only alike to one for an exchanged language.
theorem Swapped.eq_runner {a k : Nat} {f : Value} (h : Swapped l l' (.runner a k) f) :
    ∃ b, f = .runner b k ∧ Exchanged l l' a b := by
  simp only [Swapped] at h
  rcases h with rfl | ⟨rfl, rfl⟩
  · exact ⟨a, rfl, .inl rfl⟩
  · exact ⟨l', rfl, .inr ⟨rfl, rfl⟩⟩

theorem exists_runner_or (f : Value) : (∃ a k, f = .runner a k) ∨ ∀ a k, f ≠ .runner a k := by
  cases f with
  | runner a k => exact .inl ⟨a, k, rfl⟩
  | _ => exact .inr fun a k h => by cases h

end

-- The actions that start no runs do the same in alike worlds.
theorem perform_mirrors (run : Runner) {u v : Value} (h : Swapped l l' u v) (i : ScopeId)
    {action : Action} (hsequence : ∀ key, action ≠ .runSequence key) (hsub : action ≠ .sub) :
    Mirrors l l' Eq (action.perform run u i) (action.perform run v i) := by
  cases action with
  | bindForm key =>
      refine (Mirrors.ask fun s t hst => hst.resolveIn i h).bind fun x y hxy => ?_
      exact (Mirrors.openWith i hxy).bind fun j _ hj => .pure (congrArg _ hj)
  | runSequence key => exact (hsequence key rfl).elim
  | bindNamespace key =>
      exact (Mirrors.openScope i (.single _ h)).bind fun j _ hj => .pure (congrArg _ hj)
  | transform e =>
      refine (Mirrors.compileAt e h _ _).bind fun f _ hf => ?_
      subst hf
      exact (Mirrors.appendStep i (.refl _)).bind fun j _ hj => .pure (congrArg _ hj)
  | filter e =>
      refine (Mirrors.compileAt e h _ _).bind fun f _ hf => ?_
      subst hf
      exact (Mirrors.appendStep i (.refl _)).bind fun j _ hj => .pure (congrArg _ hj)
  | choose e =>
      refine (Mirrors.conditionArgs h).bind fun args args' hargs => ?_
      rw [hargs.length_eq]
      refine (Mirrors.compileAt e h _ _).bind fun test _ htest => ?_
      refine (Mirrors.compileAt e h _ _).bind fun yes _ hyes => ?_
      refine (Mirrors.compileAt e h _ _).bind fun no _ hno => ?_
      subst htest hyes hno
      exact (Mirrors.appendStep i (.of_branch hargs _ _ _ _)).bind fun j _ hj =>
        .pure (congrArg _ hj)
  | noop => exact .pure rfl
  | bind name =>
      exact (Mirrors.openScope i (.single _ h)).bind fun j _ hj => .pure (congrArg _ hj)
  | rebind name =>
      refine (Mirrors.change fun s t hst => hst.bind i ?_).bind fun _ _ _ => .pure rfl
      exact .of_map (.cons ⟨.refl _, h⟩ .nil)
  | emit =>
      refine (Mirrors.ask fun s t hst => hst.resolve i "out").bind fun x y hxy => ?_
      refine (Mirrors.ofExcept hxy.spread).bind fun xs ys hs => ?_
      refine (Mirrors.change fun s t hst => ?_).bind fun _ _ _ => .pure rfl
      exact hst.provide i "out" (.of_list (List.rel_append hs (.cons h .nil)))
  | add =>
      refine (Mirrors.ask fun s t hst => hst.resolve i "total").bind fun x y hxy => ?_
      refine (Mirrors.ofExcept (hxy.add h)).bind fun sum sum' hsum => ?_
      exact (Mirrors.change fun s t hst => hst.provide i "total" hsum).bind fun _ _ _ => .pure rfl
  | provide =>
      refine (Mirrors.ofExcept (h.atName "path")).bind fun x y hxy => ?_
      refine (Mirrors.ofExcept (h.atName "value")).bind fun new new' hnew => ?_
      rw [hxy.ofValue_eq]
      refine (Mirrors.ofExcept (.of_eq (fun _ => rfl) rfl)).bind fun path _ hpath => ?_
      subst hpath
      exact (Mirrors.change fun s t hst => hst.provide i path hnew).bind fun _ _ _ => .pure rfl
  | lookup name =>
      simp only [Action.perform, h.ofValue_eq]
      refine (Mirrors.ofExcept (.of_eq (fun _ => rfl) rfl)).bind fun path _ hpath => ?_
      subst hpath
      refine (Mirrors.ask fun s t hst => hst.resolve i path).bind fun x y hxy => ?_
      exact (Mirrors.openScope i (.single _ hxy)).bind fun j _ hj => .pure (congrArg _ hj)
  | pop =>
      intro w w' hw
      rw [Action.perform_pop, Action.perform_pop, hw.store.parent?_eq i]
      cases w'.store.parent? i <;> exact ⟨rfl, hw⟩
  | give v => exact .pure rfl
  | sub => exact (hsub rfl).elim
  | fail c args label => exact .raise c args label

end Dialect
