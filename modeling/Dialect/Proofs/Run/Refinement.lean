import Dialect.Proofs.Run.Engine
import Dialect.Proofs.Run.Evaluation

namespace Dialect

-- A world with more scopes than another and otherwise the same.
def World.Grown (w w' : World) : Prop :=
  ∃ new : List Scope, w' = { w with store := ⟨new ++ w.store.scopes⟩ }

namespace World.Grown

theorem refl (w : World) : Grown w w := ⟨[], rfl⟩

theorem trans {u v w : World} (huv : Grown u v) (hvw : Grown v w) : Grown u w := by
  obtain ⟨new, rfl⟩ := huv
  obtain ⟨more, rfl⟩ := hvw
  exact ⟨more ++ new, by simp⟩

theorem push (w : World) (p : Option ScopeId) (b : Bindings) :
    Grown w { w with store := w.store.push p b } := ⟨[⟨p, b⟩], rfl⟩

-- Scopes that were there keep their parents and their bindings.
theorem scope? {w w' : World} (h : Grown w w') {i : ScopeId} (hi : i < w.store.size) :
    w'.store.scope? i = w.store.scope? i := by
  obtain ⟨new, rfl⟩ := h
  induction new with
  | nil => rfl
  | cons sc new ih =>
      have hle : w.store.size ≤ (⟨new ++ w.store.scopes⟩ : Store).size := by simp [Store.size]
      have hne : i ≠ (⟨new ++ w.store.scopes⟩ : Store).size :=
        Nat.ne_of_lt (Nat.lt_of_lt_of_le hi hle)
      exact (Store.scope?_push_of_ne ⟨new ++ w.store.scopes⟩ sc.parent sc.bindings hne).trans ih

end World.Grown

-- Layers that a plain run without a new meaning for the runner's name can leave.
def Layer.Admissible (g : Ground) : Layer → Prop
  | start language _ => (g.language language).Plain
  | bound b => runnerName ∉ b.names

-- From a scope of a world the layers of an evaluation are seen.
structure Ground.Matches (g : Ground) (w : World) (i : ScopeId) (s : List Layer) : Prop where
  languages : w.languages = g.languages
  view : w.store.view i = g.view s
  size : w.store.size = g.scopes + s.length

-- A run and an evaluation end alike. Failures have no label, so nothing of them is kept.
def Ground.Agrees (g : Ground) (w : World) :
    EStateM.Result Raised World ScopeId → EStateM.Result Raised (List Layer) Unit → Prop
  | .ok i w', .ok _ s' => g.Matches w' i s' ∧ w.Grown w'
  | .error r w', .error r' _ => r = r' ∧ r.label = none ∧ w.Grown w'
  | _, _ => False

namespace Ground

variable {g : Ground} {w : World} {i : ScopeId} {s : List Layer}

theorem Agrees.of_fresh (e : Error) (s : List Layer) :
    g.Agrees w (.error (.fresh e) w) (.error (.fresh e) s) :=
  ⟨rfl, rfl, .refl w⟩

theorem Agrees.grown {u : World} {x : EStateM.Result Raised World ScopeId}
    {y : EStateM.Result Raised (List Layer) Unit} (h : g.Agrees w x y) (hu : u.Grown w) :
    g.Agrees u x y := by
  cases x <;> cases y
  · exact ⟨h.1, hu.trans h.2⟩
  · exact h
  · exact h
  · exact ⟨h.1, h.2.1, hu.trans h.2.2⟩

theorem Matches.language (h : g.Matches w i s) (l : Nat) : w.language l = g.language l := by
  unfold World.language Ground.language
  rw [h.languages]

-- Opening a scope is putting a layer in front.
theorem Matches.push (h : g.Matches w i s) (layer : Layer) :
    g.Matches { w with store := w.store.push i layer.bindings } w.store.size (layer :: s) where
  languages := h.languages
  view := by
    rw [Store.view_push_size]
    exact congrArg (layer.bindings :: ·) h.view
  size := by
    rw [Store.size_push, h.size, List.length_cons]
    omega

theorem Matches.push_agrees (h : g.Matches w i s) (layer : Layer) :
    g.Agrees w (.ok w.store.size { w with store := w.store.push i layer.bindings })
      (.ok () (layer :: s)) :=
  ⟨h.push layer, .push w i layer.bindings⟩

end Ground

-- The nearest function for sub-programs is that of the run that has started last.
theorem search_runnerName {g : Ground} {s : List Layer} (hadmissible : ∀ x ∈ s, x.Admissible g)
    (hstart : ∃ l n, Layer.start l n ∈ s) :
    ∃ l n, View.search (Path.parts runnerName) (g.view s) = .ok (some (.runner l n)) := by
  rw [parts_runnerName]
  induction s with
  | nil => simp at hstart
  | cons layer s ih =>
      cases layer with
      | start l n => exact ⟨l, n, by simp [Ground.view, Layer.bindings, View.search,
          Bindings.lookup, Bindings.find?, Path.find, bind, Except.bind, pure, Except.pure]⟩
      | bound b =>
          have hb : runnerName ∉ b.names := hadmissible _ List.mem_cons_self
          obtain ⟨l, n, h⟩ := ih (fun x hx => hadmissible x (List.mem_cons_of_mem _ hx)) (by
            obtain ⟨l, n, h⟩ := hstart
            exact ⟨l, n, by simpa using h⟩)
          exact ⟨l, n, (View.search_cons_of_notMem hb (g.view s)).trans h⟩

namespace Ground

variable {g : Ground} {w : World} {i : ScopeId} {s : List Layer}

-- A failure is marked with the same key on both sides.
theorem Agrees.under {x : Engine ScopeId} {y : Evaluation Unit} (h : g.Agrees w (x w) (y s))
    (key : String) : g.Agrees w (Engine.under key x w) (Evaluation.under key y s) := by
  rw [Engine.under_apply, Evaluation.under_apply]
  cases hx : x w with
  | ok i w' => cases hy : y s <;> rw [hx, hy] at h <;> exact h
  | error r w' =>
      cases hy : y s with
      | ok _ _ =>
          rw [hx, hy] at h
          exact h
      | error r' s' =>
          rw [hx, hy] at h
          obtain ⟨rfl, hlabel, hgrown⟩ := h
          have hlabel' : (r.through key).label = none := by rw [Raised.label_through, hlabel]
          refine ⟨rfl, hlabel', ?_⟩
          rw [World.remember_of_label _ _ hlabel']
          exact hgrown

end Ground

-- What is needed of the runs and evaluations of members: from matching states they end alike,
-- unless the evaluation leaves a layer that is not admissible.
def Ground.Simulates (g : Ground) (run : Runner) (ev : Nat → Value → Evaluation Unit) (l : Nat)
    (data : Value) : Prop :=
  ∀ w i s, g.Matches w i s → (∀ x ∈ Evaluation.layers (ev l data s), x.Admissible g) →
    g.Agrees w (run l data i w) (ev l data s)

section

open Evaluation

variable {g : Ground} {run : Runner} {ev : Nat → Value → Evaluation Unit}
  (hgrows : ∀ l data, Grows (ev l data))
include hgrows

-- Members from left to right. What is admissible at the end was so after each member.
theorem callAll_agrees (l n : Nat) {ms : List Value}
    (hsim : ∀ m ∈ ms, g.Simulates run ev (Program.target l m).1 (Program.target l m).2)
    {w : World} {i : ScopeId} {s : List Layer} (hmatch : g.Matches w i s)
    (hadmissible : ∀ x ∈ layers (members ev l ms s), x.Admissible g) :
    g.Agrees w (run.callAll (.runner l n) ms i w) (members ev l ms s) := by
  induction ms generalizing w i s with
  | nil => exact ⟨hmatch, .refl w⟩
  | cons m ms ih =>
      rw [members_cons_apply] at hadmissible ⊢
      rw [callAll_cons_apply, Runner.call_runner]
      have hm := hsim m List.mem_cons_self w i s hmatch
      cases hev : ev (Program.target l m).1 (Program.target l m).2 s with
      | error r s' =>
          rw [hev] at hm hadmissible
          have h := hm hadmissible
          cases hrun : run (Program.target l m).1 (Program.target l m).2 i w with
          | ok j w' => rw [hrun] at h; exact h.elim
          | error r' w' => rw [hrun] at h; exact h
      | ok _ s' =>
          rw [hev] at hm hadmissible
          have hsuffix := grows_members hgrows l ms s'
          have h := hm fun x hx => hadmissible x (hsuffix.subset hx)
          cases hrun : run (Program.target l m).1 (Program.target l m).2 i w with
          | error r' w' => rw [hrun] at h; exact h.elim
          | ok j w' =>
              rw [hrun] at h
              exact (ih (fun x hx => hsim x (List.mem_cons_of_mem _ hx)) h.1 hadmissible).grown h.2

-- One synthetic action. A sequence needs the layers to have a start, which tells its language.
theorem perform_agrees {key : String} {a : Aspect} (ha : a.Synthetic key) {raw : Value}
    (hsim : ∀ ms, raw.members = .ok ms → ∀ m ∈ ms, ∀ l,
      g.Simulates run ev (Program.target l m).1 (Program.target l m).2)
    {w : World} {i : ScopeId} {s : List Layer} (hmatch : g.Matches w i s)
    (hstart : ∃ l n, Layer.start l n ∈ s)
    (hadmissible : ∀ x ∈ layers (act g ev raw a.handler.action s), x.Admissible g) :
    g.Agrees w (a.apply run raw i w) (act g ev raw a.handler.action s) := by
  have hlayers : ∀ x ∈ s, x.Admissible g := fun x hx =>
    hadmissible x ((grows_act hgrows raw a.handler.action s).subset hx)
  cases ha with
  | nameSpace =>
      rw [Aspect.apply_of_journal rfl]
      exact hmatch.push_agrees (.bound [("@" ++ key, raw)])
  | bindingForm =>
      rw [Aspect.apply_of_journal rfl]
      simp only [Aspect.ofBindingForm, Action.perform_bindForm, act_bindForm_apply]
      rw [Store.resolveIn_eq_view, hmatch.view]
      cases raw.substitute (View.resolve (g.view s)) >>= Bindings.add [] with
      | error e => exact .of_fresh e s
      | ok b => exact hmatch.push_agrees (.bound b)
  | sequence =>
      obtain ⟨l, n, hfound⟩ := search_runnerName hlayers hstart
      have hget : w.store.getD i runnerName .null = .ok (.runner l n) := by
        rw [Store.getD_eq_view, hmatch.view, hfound]
        rfl
      rw [Aspect.apply_of_journal rfl]
      simp only [Aspect.ofSequence, Action.perform_runSequence, hget,
        act_runSequence_apply hfound] at hadmissible ⊢
      cases hms : raw.members with
      | error e => exact .of_fresh e s
      | ok ms =>
          rw [hms] at hadmissible
          have h := callAll_agrees hgrows l n (fun m hm => hsim ms hms m hm l) hmatch hadmissible
          simp only []
          cases hcall : run.callAll (.runner l n) ms i w <;> rw [hcall] at h <;> exact h

-- One step of a plain language, on a key that is present.
theorem fireAt_agrees {data : Value}
    (hsim : ∀ l sub, sub.depth < data.depth → g.Simulates run ev l sub)
    {key : String} {a : Aspect} (ha : a.Synthetic key) {raw : Value}
    (hraw : data.atName key = .ok raw)
    {w : World} {i : ScopeId} {s : List Layer} (hmatch : g.Matches w i s)
    (hstart : ∃ l n, Layer.start l n ∈ s)
    (hadmissible : ∀ x ∈ layers (under key (act g ev raw a.handler.action) s), x.Admissible g) :
    g.Agrees w (fireAt run key a data i w) (under key (act g ev raw a.handler.action) s) := by
  have hresolves : a.resolves = false := by cases ha <;> rfl
  have hlayers : layers (under key (act g ev raw a.handler.action) s) =
      layers (act g ev raw a.handler.action s) := by
    rw [under_apply]
    cases act g ev raw a.handler.action s <;> rfl
  rw [hlayers] at hadmissible
  rw [fireAt_apply, hraw]
  simp only [hresolves, Bool.false_eq_true, if_false, pure_bind]
  refine (perform_agrees hgrows ha ?_ hmatch hstart hadmissible).under key
  intro ms hms m hm l
  exact hsim _ _ (Program.depth_target_lt hraw hms hm l)

-- All steps of a plain language, in turn.
theorem fireAll_agrees {data : Value}
    (hsim : ∀ l sub, sub.depth < data.depth → g.Simulates run ev l sub)
    {rest : List (String × Aspect)} (hrest : ∀ key a, (key, a) ∈ rest → a.Synthetic key)
    {w : World} {i : ScopeId} {s : List Layer} (hmatch : g.Matches w i s)
    (hstart : ∃ l n, Layer.start l n ∈ s)
    (hadmissible : ∀ x ∈ layers (steps g ev data rest s), x.Admissible g) :
    g.Agrees w (fireAll run data rest i w) (steps g ev data rest s) := by
  induction rest generalizing w i s with
  | nil => exact ⟨hmatch, .refl w⟩
  | cons step rest ih =>
      obtain ⟨key, a⟩ := step
      have ha := hrest key a List.mem_cons_self
      have hrest' : ∀ key a, (key, a) ∈ rest → a.Synthetic key := fun key a h =>
        hrest key a (List.mem_cons_of_mem _ h)
      rw [steps_cons_apply] at hadmissible ⊢
      rw [fireAll_cons_apply]
      cases hpresent : data.hasName key with
      | error e => exact .of_fresh e s
      | ok present =>
          rw [hpresent] at hadmissible
          cases present with
          | false => exact ih hrest' hmatch hstart hadmissible
          | true =>
              cases hraw : data.atName key with
              | error e =>
                  rw [fireAt_apply, hraw]
                  exact .of_fresh e s
              | ok raw =>
                  simp only [hraw] at hadmissible ⊢
                  have hfire := fireAt_agrees hgrows hsim ha hraw hmatch hstart
                  have hgrow := ((grows_act hgrows raw a.handler.action).under key :
                    Grows (under key (act g ev raw a.handler.action))) s
                  cases hev : under key (act g ev raw a.handler.action) s with
                  | error r s' =>
                      rw [hev] at hfire hadmissible
                      have h := hfire hadmissible
                      cases hrun : fireAt run key a data i w with
                      | ok j w' => rw [hrun] at h; exact h.elim
                      | error r' w' => rw [hrun] at h; exact h
                  | ok _ s' =>
                      rw [hev] at hfire hadmissible hgrow
                      have hsuffix := grows_steps (g := g) hgrows data rest s'
                      have h := hfire fun x hx => hadmissible x (hsuffix.subset hx)
                      cases hrun : fireAt run key a data i w with
                      | error r w' => rw [hrun] at h; exact h.elim
                      | ok j w' =>
                          rw [hrun] at h
                          obtain ⟨l, n, hmem⟩ := hstart
                          exact (ih hrest' h.1 ⟨l, n, hgrow.subset hmem⟩ hadmissible).grown h.2

end

-- A run whose fuel exceeds the depth of its data never runs out of it.
theorem runWith_simulates (g : Ground) (fuel l : Nat) (data : Value) (hfuel : data.depth < fuel) :
    g.Simulates (runWith fuel) (evaluate g) l data := by
  induction fuel generalizing l data with
  | zero => omega
  | succ fuel ih =>
      intro w i s hmatch hadmissible
      rw [evaluate_eq] at hadmissible ⊢
      rw [runWith_succ_apply, hmatch.language, hmatch.size]
      have hpush := hmatch.push (.start l (g.scopes + s.length))
      rw [hmatch.size] at hpush
      have hsteps : ∀ key a, (key, a) ∈ (g.language l).steps → a.Synthetic key := by
        intro key a hstep
        have hplain : (g.language l).Plain :=
          hadmissible (.start l (g.scopes + s.length))
            ((Evaluation.grows_steps (grows_evaluate g) data _ _).subset List.mem_cons_self)
        exact hplain.synthetic hstep
      have hsim : ∀ l' sub, sub.depth < data.depth →
          g.Simulates (runWith fuel) (evaluate g) l' sub := by
        intro l' sub hsub
        exact ih l' sub (by omega)
      have h := fireAll_agrees (grows_evaluate g) hsim hsteps hpush
        ⟨l, g.scopes + s.length, List.mem_cons_self⟩ hadmissible
      exact h.grown (.push w i _)

-- What an evaluation from a scope stands on.
def World.ground (w : World) (i : ScopeId) : Ground := ⟨w.languages, w.store.view i, w.store.size⟩

theorem run_agrees (w : World) (l : Nat) (data : Value) (i : ScopeId)
    (h : ∀ x ∈ Evaluation.layers (evaluate (w.ground i) l data []), x.Admissible (w.ground i)) :
    (w.ground i).Agrees w (run l data i w) (evaluate (w.ground i) l data []) :=
  runWith_simulates _ _ l data (by unfold spareDepth; omega) w i [] ⟨rfl, rfl, rfl⟩ h

-- A run of a program and its evaluation end alike: both succeed, and from the scope that the run
-- gives the new maps are seen in front of all that was seen before; or both fail with the same
-- error and trail. Either way every scope that existed keeps its parent and its bindings.
theorem run_refines_evaluate (w : World) (l : Nat) (data : Value) (i : ScopeId)
    (h : ∀ x ∈ Evaluation.layers (evaluate (w.ground i) l (Program.dataOf data) []),
      x.Admissible (w.ground i)) :
    match run l (Program.dataOf data) i w,
      evaluate (w.ground i) l (Program.dataOf data) [] with
    | .ok j w', .ok _ layers =>
        w'.store.view j = layers.map Layer.bindings ++ w.store.view i ∧
          ∀ k < w.store.size, w'.store.scope? k = w.store.scope? k
    | .error r w', .error r' _ =>
        r = r' ∧ ∀ k < w.store.size, w'.store.scope? k = w.store.scope? k
    | _, _ => False := by
  have hagree := run_agrees w l (Program.dataOf data) i h
  cases hrun : run l (Program.dataOf data) i w <;>
    cases hev : evaluate (w.ground i) l (Program.dataOf data) [] <;>
    rw [hrun, hev] at hagree
  · exact ⟨hagree.1.view, fun k hk => hagree.2.scope? hk⟩
  · exact hagree
  · exact hagree
  · exact ⟨hagree.1, fun k hk => hagree.2.2.scope? hk⟩

namespace Sample

-- A language with one key of each kind.
def orders : Language :=
  (Language.declare (["config", "steps", "with", "bind"].map .str) (.str "bind")
    (.object [("config", .str "namespace"), ("steps", .list [.str "sequence-of", .map []]),
      ("with", .str "binding-form")]) []).toOption.getD default

-- Another one, with keys of its own.
def errands : Language :=
  (Language.declare (["go", "let"].map .str) (.str "let")
    (.object [("go", .list [.str "sequence-of", .map []])]) []).toOption.getD default

theorem plain_of_isOk {keys : List Value} {bindingKey grammar : Value}
    (h : (Language.declare keys bindingKey grammar []).isOk = true) :
    ((Language.declare keys bindingKey grammar []).toOption.getD default).Plain := by
  cases hd : Language.declare keys bindingKey grammar [] with
  | error e => rw [hd] at h; cases h
  | ok l => exact ⟨keys, bindingKey, grammar, hd⟩

theorem orders_plain : orders.Plain := plain_of_isOk rfl

theorem errands_plain : errands.Plain := plain_of_isOk rfl

def world : World :=
  { World.empty with
    languages := [orders, errands]
    store := Store.empty.push none [("k", .int 3)] }

-- A namespace, a reference into it, and a sequence with a member of each language.
def nested : Value := .object [
  ("config", .object [("a", .str "b")]),
  ("bind", .object [("x", .str "@config.a")]),
  ("steps", .list [.object [("bind", .object [("y", .str "x")])],
    .program (.object [("let", .object [("z", .list [.str "y", .str "k"])])]) 1])]

theorem evaluate_nested : evaluate (world.ground 0) 0 (Program.dataOf nested) [] = .ok () [
    .bound [("z", .list [.str "b", .int 3])], .start 1 6, .bound [("y", .str "b")], .start 0 4,
    .bound [("x", .str "b")], .bound [("@config", .object [("a", .str "b")])], .start 0 1] := by
  with_unfolding_all rfl

theorem run_refines_evaluate_nested :
    (∀ x ∈ Evaluation.layers (evaluate (world.ground 0) 0 (Program.dataOf nested) []),
      x.Admissible (world.ground 0)) ∧
    ∃ j w', run 0 (Program.dataOf nested) 0 world = .ok j w' ∧ w'.store.view j = [
      [("z", .list [.str "b", .int 3])], [(runnerName, .runner 1 6)], [("y", .str "b")],
      [(runnerName, .runner 0 4)], [("x", .str "b")], [("@config", .object [("a", .str "b")])],
      [(runnerName, .runner 0 1)], [("k", .int 3)]] := by
  have hadmissible : ∀ x ∈ Evaluation.layers
      (evaluate (world.ground 0) 0 (Program.dataOf nested) []), x.Admissible (world.ground 0) := by
    rw [evaluate_nested]
    simp only [Evaluation.layers, List.forall_mem_cons, Layer.Admissible]
    refine ⟨by decide, errands_plain, by decide, orders_plain, by decide, by decide,
      orders_plain, by simp⟩
  refine ⟨hadmissible, ?_⟩
  have h := run_refines_evaluate world 0 nested 0 hadmissible
  rw [evaluate_nested] at h
  cases hrun : run 0 (Program.dataOf nested) 0 world with
  | error r w' => rw [hrun] at h; exact h.elim
  | ok j w' =>
      rw [hrun] at h
      exact ⟨j, w', rfl, h.1⟩

end Sample

end Dialect
