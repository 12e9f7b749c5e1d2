import Dialect.Proofs.Run.Bound
import Dialect.Proofs.Run.Refinement
import Dialect.Proofs.Scope.Relabel

namespace Dialect

namespace Language

-- A member of one of the sequences of a program.
def Member (L : Language) (data m : Value) : Prop :=
  ∃ key raw ms, (key, .ofSequence 0 key) ∈ L.steps ∧ data.atName key = .ok raw ∧
    raw.members = .ok ms ∧ m ∈ ms

-- Data whose members have no language of their own, at any depth.
inductive AllRaw (L : Language) : Value → Prop where
  | mk {data : Value} (raw : ∀ m, L.Member data m → m.IsRaw)
      (below : ∀ m, L.Member data m → AllRaw L (Program.body m)) : AllRaw L data

-- A text that a binding form or the binding key of a program, or of a member at any depth, refers
-- to.
inductive Mentions (L : Language) : Value → String → Prop where
  | binding {data raw : Value} {key p : String} (step : (key, .ofBindingForm 0 key) ∈ L.steps)
      (value : data.atName key = .ok raw) (refers : p ∈ raw.references) : Mentions L data p
  | member {data m : Value} {p : String} (member : L.Member data m)
      (mentions : Mentions L (Program.body m) p) : Mentions L data p

-- Data is raw at any depth if it belongs to a set of data that is closed under members, all of
-- them raw. By induction on how deep the data is.
theorem allRaw_of_closed {L : Language} {D : Value → Prop}
    (hD : ∀ d, D d → ∀ m, L.Member d m → m.IsRaw ∧ D (Program.body m)) {data : Value}
    (hdata : D data) : L.AllRaw data := by
  induction hdepth : data.depth using Nat.strongRecOn generalizing data with
  | ind n ih =>
      subst hdepth
      refine ⟨fun m hm => (hD data hdata m hm).1, fun m hm => ?_⟩
      obtain ⟨key, raw, ms, -, hvalue, hms, hmem⟩ := id hm
      exact ih _ (Program.depth_target_lt hvalue hms hmem 0) (hD data hdata m hm).2 rfl

end Language

-- A layer of runs under one language that bind no function for sub-programs.
def Layer.OfLanguage (l : Nat) : Layer → Prop
  | start own _ => own = l
  | bound b => runnerName ∉ b.names

namespace Layer.OfLanguage

theorem admissible {g : Ground} {l : Nat} (hplain : (g.language l).Plain) {x : Layer}
    (h : x.OfLanguage l) : x.Admissible g := by
  cases x with
  | start own n =>
      cases h
      exact hplain
  | bound b => exact h

end Layer.OfLanguage

-- Layers of one language in which a run has started.
structure Started (l : Nat) (s : List Layer) : Prop where
  ofLanguage : ∀ x ∈ s, x.OfLanguage l
  start : ∃ n, .start l n ∈ s

namespace Started

variable {l : Nat} {s : List Layer}

theorem of_start (h : ∀ x ∈ s, x.OfLanguage l) (n : Nat) : Started l (.start l n :: s) :=
  ⟨List.forall_mem_cons.mpr ⟨rfl, h⟩, n, List.mem_cons_self⟩

theorem of_suffix (h : Started l s) {t : List Layer} (hsuffix : s <:+ t)
    (ht : ∀ x ∈ t, x.OfLanguage l) : Started l t := by
  obtain ⟨n, hn⟩ := h.start
  exact ⟨ht, n, hsuffix.subset hn⟩

-- The nearest function for sub-programs is one for the language.
theorem search (h : Started l s) (g : Ground) :
    ∃ n, View.search (Path.parts runnerName) (g.view s) = .ok (some (.runner l n)) := by
  rw [parts_runnerName]
  induction s with
  | nil =>
      obtain ⟨n, hn⟩ := h.start
      cases hn
  | cons x s ih =>
      cases x with
      | start own n =>
          have hown : own = l := h.ofLanguage _ List.mem_cons_self
          subst hown
          exact ⟨n, by simp [Ground.view, Layer.bindings, View.search, Bindings.lookup,
            Bindings.find?, Path.find, bind, Except.bind, pure, Except.pure]⟩
      | bound b =>
          have hb : runnerName ∉ b.names := h.ofLanguage _ List.mem_cons_self
          obtain ⟨k, hk⟩ := h.start
          obtain ⟨n, hn⟩ := ih ⟨fun x hx => h.ofLanguage x (List.mem_cons_of_mem _ hx), k,
            by simpa using hk⟩
          exact ⟨n, (View.search_cons_of_notMem hb (g.view s)).trans hn⟩

end Started

theorem Evaluation.layers_under {α : Type} (key : String) (x : Evaluation α) (s : List Layer) :
    layers (under key x s) = layers (x s) := by
  rw [under_apply]
  cases x s <;> rfl

section

open Evaluation

variable {g : Ground} {l : Nat}

-- What is to be shown of data: its evaluation leaves layers of one language only.
def Ground.Unmixed (g : Ground) (l fuel : Nat) (data : Value) : Prop :=
  ∀ w i s, g.Matches w i s → (∀ x ∈ s, x.OfLanguage l) →
    ¬Call.Binds ⟨fuel, l, data, i, w⟩ runnerName →
    ∀ x ∈ layers (evaluate g l data s), x.OfLanguage l

variable (hplain : (g.language l).Plain)
include hplain

-- Members from left to right: each is started by the call, from the world that those before it
-- have left.
theorem unmixed_members {c : Call} {n k : Nat} {before : List (String × Aspect)} {key : String}
    {raw : Value} {j₀ : ScopeId} {w₀ : World}
    (hcomes : c.ComesTo n before key (.ofSequence 0 key) raw j₀ w₀)
    (hbinds : ¬c.Binds runnerName)
    (hfound : w₀.store.getD j₀ runnerName .null = .ok (.runner l k)) {first ms : List Value}
    (hmembers : raw.members = .ok (first ++ ms)) (hraw : ∀ m ∈ ms, m.IsRaw)
    (hdepth : ∀ m ∈ ms, (Program.body m).depth < n)
    (hunmixed : ∀ m ∈ ms, g.Unmixed l n (Program.body m)) {w : World} {j : ScopeId}
    (hdone : (runWith n).callAll (.runner l k) first j₀ w₀ = .ok j w) {s : List Layer}
    (hmatch : g.Matches w j s) (hs : ∀ x ∈ s, x.OfLanguage l) :
    ∀ x ∈ layers (members (evaluate g) l ms s), x.OfLanguage l := by
  induction ms generalizing first w j s with
  | nil => exact hs
  | cons m ms ih =>
      have htarget := Program.target_of_raw (hraw m List.mem_cons_self) l
      have hstarts := hcomes.starts hfound hmembers hdone
      rw [htarget] at hstarts
      have hlayers := hunmixed m List.mem_cons_self w j s hmatch hs (hstarts.not_binds hbinds)
      have hagrees := runWith_simulates g n l (Program.body m) (hdepth m List.mem_cons_self) w j s
        hmatch fun x hx => (hlayers x hx).admissible hplain
      rw [members_cons_apply, htarget]
      simp only []
      cases hev : evaluate g l (Program.body m) s with
      | error r t =>
          rw [hev] at hlayers
          exact hlayers
      | ok _ t =>
          rw [hev] at hlayers hagrees
          cases hrun : runWith n l (Program.body m) j w with
          | error r w' =>
              rw [hrun] at hagrees
              exact hagrees.elim
          | ok j' w' =>
              rw [hrun] at hagrees
              have hrest : raw.members = .ok ((first ++ [m]) ++ ms) := by simpa using hmembers
              refine ih hrest
                (fun x hx => hraw x (List.mem_cons_of_mem _ hx))
                (fun x hx => hdepth x (List.mem_cons_of_mem _ hx))
                (fun x hx => hunmixed x (List.mem_cons_of_mem _ hx)) ?_ hagrees.1 hlayers
              exact callAll_concat_eq_ok hdone (by rw [htarget]; exact hrun)

-- One step that the call comes to.
theorem unmixed_act {c : Call} {n : Nat} {before : List (String × Aspect)} {key : String}
    {a : Aspect} (ha : a.Synthetic key) {raw : Value} {j : ScopeId} {w : World}
    (hcomes : c.ComesTo n before key a raw j w) (hbinds : ¬c.Binds runnerName)
    (hraw : ∀ ms, a = .ofSequence 0 key → raw.members = .ok ms → ∀ m ∈ ms, m.IsRaw ∧
      (Program.body m).depth < n ∧ g.Unmixed l n (Program.body m))
    {s : List Layer} (hmatch : g.Matches w j s) (hs : Started l s) :
    ∀ x ∈ layers (act g (evaluate g) raw a.handler.action s), x.OfLanguage l := by
  cases ha with
  | nameSpace =>
      refine List.forall_mem_cons.mpr ⟨fun hname => hbinds ?_, hs.ofLanguage⟩
      exact ⟨c, .refl, n, raw, j, w, .inl ⟨key, hcomes.performs rfl rfl,
        by simpa [Bindings.names] using hname⟩⟩
  | bindingForm =>
      simp only [Aspect.ofBindingForm, act_bindForm_apply]
      cases hb : raw.substitute (View.resolve (g.view s)) >>= Bindings.add [] with
      | error e => exact hs.ofLanguage
      | ok b =>
          refine List.forall_mem_cons.mpr ⟨fun hname => hbinds ?_, hs.ofLanguage⟩
          refine ⟨c, .refl, n, raw, j, w, .inr ⟨key, b, hcomes.performs rfl rfl, ?_, hname⟩⟩
          rw [Store.resolveIn_eq_view, hmatch.view]
          exact hb
  | sequence =>
      obtain ⟨k, hfound⟩ := hs.search g
      have hget : w.store.getD j runnerName .null = .ok (.runner l k) := by
        rw [Store.getD_eq_view, hmatch.view, hfound]
        rfl
      simp only [Aspect.ofSequence, act_runSequence_apply hfound]
      cases hms : raw.members with
      | error e => exact hs.ofLanguage
      | ok ms =>
          have hmember := hraw ms rfl hms
          have hmembers : raw.members = .ok ([] ++ ms) := hms
          exact unmixed_members hplain hcomes hbinds hget hmembers
            (fun m hm => (hmember m hm).1) (fun m hm => (hmember m hm).2.1)
            (fun m hm => (hmember m hm).2.2) rfl hmatch hs.ofLanguage

-- The steps of a call that stands before them.
theorem unmixed_steps {c : Call} {n : Nat} (hbinds : ¬c.Binds runnerName)
    (hdepth : c.data.depth ≤ n)
    (hmember : ∀ m, (g.language l).Member c.data m →
      m.IsRaw ∧ (Program.body m).depth < n ∧ g.Unmixed l n (Program.body m))
    {done rest : List (String × Aspect)} (hrest : ∀ step ∈ rest, step ∈ (g.language l).steps)
    {w : World} {j : ScopeId} (hstands : c.Stands n done rest j w) {s : List Layer}
    (hmatch : g.Matches w j s) (hs : Started l s) :
    ∀ x ∈ layers (steps g (evaluate g) c.data rest s), x.OfLanguage l := by
  induction rest generalizing done w j s with
  | nil => exact hs.ofLanguage
  | cons step rest ih =>
      obtain ⟨key, a⟩ := step
      have hstep := hrest _ List.mem_cons_self
      have hlater : ∀ step ∈ rest, step ∈ (g.language l).steps := fun step h =>
        hrest step (List.mem_cons_of_mem _ h)
      have ha := hplain.synthetic hstep
      rw [steps_cons_apply]
      cases hpresent : c.data.hasName key with
      | error e => exact hs.ofLanguage
      | ok present =>
          cases present with
          | false => exact ih hlater (hstands.skip hpresent) hmatch hs
          | true =>
              cases hvalue : c.data.atName key with
              | error e => exact hs.ofLanguage
              | ok raw =>
                  have hact := unmixed_act hplain ha ⟨⟨_, hstands⟩, hpresent, hvalue⟩ hbinds
                    (fun ms heq hms m hm =>
                      hmember m ⟨key, raw, ms, heq ▸ hstep, hvalue, hms, hm⟩) hmatch hs
                  have hgrow : s <:+ layers (act g (evaluate g) raw a.handler.action s) :=
                    grows_act (grows_evaluate g) raw a.handler.action s
                  rw [← layers_under key] at hact hgrow
                  have hagrees := fireAt_agrees (grows_evaluate g)
                    (fun own sub hsub => runWith_simulates g n own sub (by omega)) ha hvalue
                    hmatch ⟨l, hs.start⟩ fun x hx => (hact x hx).admissible hplain
                  simp only []
                  cases hev : under key (act g (evaluate g) raw a.handler.action) s with
                  | error r t =>
                      rw [hev] at hact
                      exact hact
                  | ok _ t =>
                      rw [hev] at hact hagrees hgrow
                      cases hfire : fireAt (runWith n) key a c.data j w with
                      | error r w' =>
                          rw [hfire] at hagrees
                          exact hagrees.elim
                      | ok j' w' =>
                          rw [hfire] at hagrees
                          exact ih hlater (hstands.next hpresent hfire) hagrees.1
                            (hs.of_suffix hgrow hact)

-- By induction on the fuel, which bounds the depth of the data.
theorem unmixed_of_allRaw (fuel : Nat) {data : Value} (hraw : (g.language l).AllRaw data)
    (hfuel : data.depth < fuel) : g.Unmixed l fuel data := by
  induction fuel generalizing data with
  | zero => omega
  | succ n ih =>
      intro w i s hmatch hs hbinds
      obtain ⟨hmembers, hbelow⟩ := hraw
      have hdepth : ∀ m, (g.language l).Member data m → (Program.body m).depth < n := by
        rintro m ⟨key, raw, ms, -, hvalue, hms, hm⟩
        have := Program.depth_target_lt hvalue hms hm 0
        unfold Program.body
        omega
      let c : Call := ⟨n + 1, l, data, i, w⟩
      have hstands : c.Stands n [] (g.language l).steps c.world.store.size c.opened := by
        rw [← hmatch.language]
        exact .start rfl
      have hopened : g.Matches c.opened w.store.size (.start l (g.scopes + s.length) :: s) := by
        unfold Call.opened
        rw [← hmatch.size]
        exact hmatch.push (.start l w.store.size)
      rw [evaluate_eq]
      exact unmixed_steps hplain (c := c) hbinds (by simp only [c]; omega)
        (fun m hm => ⟨hmembers m hm, hdepth m hm, ih (hbelow m hm) (hdepth m hm)⟩)
        (fun _ h => h) hstands hopened (.of_start hs _)

end

-- A run of raw data that never binds the name of the function for sub-programs: its evaluation
-- leaves layers of its own language only.
theorem ofLanguage_of_not_binds {w : World} {l : Nat} (hplain : (w.language l).Plain)
    {data : Value} (hraw : (w.language l).AllRaw data) {i : ScopeId}
    (hbinds : ¬(Call.ofRun l data i w).Binds runnerName) :
    ∀ x ∈ Evaluation.layers (evaluate (w.ground i) l data []), x.OfLanguage l :=
  unmixed_of_allRaw (g := w.ground i) hplain (data.depth + spareDepth) hraw
    (by unfold spareDepth; omega) w i [] ⟨rfl, rfl, rfl⟩ (by simp) hbinds

-- A run ends as its evaluation does, if that leaves layers of one plain language only.
section

variable {w : World} {l : Nat} (hplain : (w.language l).Plain) {data : Value} {i : ScopeId}
include hplain

theorem run_eq_ok_of_evaluate {s : List Layer}
    (h : evaluate (w.ground i) l data [] = .ok () s) (hs : ∀ x ∈ s, x.OfLanguage l) :
    ∃ j w', run l data i w = .ok j w' ∧ w'.store.view j = (w.ground i).view s := by
  have hagrees := run_agrees w l data i
  rw [h] at hagrees
  have hend := hagrees fun x hx => (hs x hx).admissible (g := w.ground i) hplain
  cases hrun : run l data i w with
  | error r w' =>
      rw [hrun] at hend
      exact hend.elim
  | ok j w' =>
      rw [hrun] at hend
      exact ⟨j, w', rfl, hend.1.view⟩

theorem run_eq_error_of_evaluate {r : Raised} {s : List Layer}
    (h : evaluate (w.ground i) l data [] = .error r s) (hs : ∀ x ∈ s, x.OfLanguage l) :
    ∃ w', run l data i w = .error r w' := by
  have hagrees := run_agrees w l data i
  rw [h] at hagrees
  have hend := hagrees fun x hx => (hs x hx).admissible (g := w.ground i) hplain
  cases hrun : run l data i w with
  | error r' w' =>
      rw [hrun] at hend
      exact ⟨w', by rw [hend.1]⟩
  | ok j w' =>
      rw [hrun] at hend
      exact hend.elim

end

namespace Sample

-- Programs that bind one name to what another stands for, or run programs of this kind one after
-- the other.
inductive IsErrand : Value → Prop where
  | bind {name : String} (other : name ≠ runnerName) (p : String) :
      IsErrand (.object [("let", .object [(name, .str p)])])
  | go {ms : List Value} (members : ∀ m ∈ ms, IsErrand m) : IsErrand (.object [("go", .list ms)])

theorem errands_steps :
    errands.steps = [("let", .ofBindingForm 0 "let"), ("go", .ofSequence 0 "go")] := rfl

theorem mem_errands_steps {key : String} {a : Aspect} : (key, a) ∈ errands.steps ↔
    key = "let" ∧ a = .ofBindingForm 0 "let" ∨ key = "go" ∧ a = .ofSequence 0 "go" := by
  simp [errands_steps]

-- Whatever number is asked for, where there is no other language.
theorem step_cases {l : Nat} {key : String} {a : Aspect}
    (h : (key, a) ∈ ([errands][l]?.getD default).steps) :
    key = "let" ∧ a = .ofBindingForm 0 "let" ∨ key = "go" ∧ a = .ofSequence 0 "go" ∨
      key = "" ∧ a = .ofBindingForm 0 "" := by
  cases l with
  | zero => exact (mem_errands_steps.mp h).imp_right .inl
  | succ l =>
      have hdefault : (key, a) ∈ (default : Language).steps := h
      rw [Language.steps_default, List.mem_singleton, Prod.mk.injEq] at hdefault
      exact .inr (.inr hdefault)

-- Data that has at the keys of errands one name bound to what another stands for, or programs of
-- this kind.
def HoldsErrands (d : Value) : Prop :=
  ∀ (l : Nat) key a raw, (key, a) ∈ ([errands][l]?.getD default).steps → d.atName key = .ok raw →
    (a = .ofBindingForm 0 key ∧ ∃ name p, name ≠ runnerName ∧ raw = .object [(name, .str p)]) ∨
      a = .ofSequence 0 key ∧ ∃ ms, raw = .list ms ∧ ∀ m ∈ ms, IsErrand m

section

variable {d m : Value}

theorem IsErrand.holdsErrands (h : IsErrand d) : HoldsErrands d := by
  intro l key a raw hstep hvalue
  cases h with
  | @bind name hname p =>
      rcases step_cases hstep with ⟨rfl, rfl⟩ | ⟨rfl, rfl⟩ | ⟨rfl, rfl⟩ <;> cases hvalue
      exact .inl ⟨rfl, name, p, hname, rfl⟩
  | @go ms hms =>
      rcases step_cases hstep with ⟨rfl, rfl⟩ | ⟨rfl, rfl⟩ | ⟨rfl, rfl⟩ <;> cases hvalue
      exact .inr ⟨rfl, ms, rfl, hms⟩

theorem IsErrand.isRaw (h : IsErrand d) : d.IsRaw := by
  cases h <;> simp [Value.IsRaw, Value.object, Value.kind]

theorem IsErrand.body_eq (h : IsErrand d) : Program.body d = d := by
  cases h <;> rfl

theorem HoldsErrands.of_member (h : HoldsErrands d) (hm : errands.Member d m) : IsErrand m := by
  obtain ⟨key, raw, ms, hstep, hvalue, hms, hmem⟩ := hm
  rcases h 0 key _ raw hstep hvalue with ⟨ha, -⟩ | ⟨-, xs, rfl, hxs⟩
  · cases ha
  · cases hms
    exact hxs m hmem

theorem HoldsErrands.allRaw (h : HoldsErrands d) : errands.AllRaw d := by
  refine Language.allRaw_of_closed (fun d hd m hm => ⟨(hd.of_member hm).isRaw, ?_⟩) h
  rw [(hd.of_member hm).body_eq]
  exact (hd.of_member hm).holdsErrands

theorem HoldsErrands.not_mayBind (h : HoldsErrands d) :
    ¬Program.MayBind [errands] runnerName d := by
  intro hmay
  induction hmay with
  | nameSpace step value =>
      rcases h _ _ _ _ step value with ⟨ha, -⟩ | ⟨ha, -⟩ <;> cases ha
  | bindingForm step value names =>
      rcases h _ _ _ _ step value with ⟨-, name, p, hne, rfl⟩ | ⟨ha, -⟩
      · simp [Value.MayName, Value.object, Ne.symm hne] at names
      · cases ha
  | member step value members mem _ ih =>
      rcases h _ _ _ _ step value with ⟨ha, -⟩ | ⟨-, ms, rfl, hms⟩
      · cases ha
      · cases members
        have hm := hms _ mem
        exact ih (hm.body_eq.symm ▸ hm.holdsErrands)

theorem HoldsErrands.not_binds {c : Call} (hc : c.world.languages = [errands])
    (h : HoldsErrands c.data) : ¬c.Binds runnerName := by
  intro hbinds
  have hmay := Call.mayBind_of_binds (by simp [hc, errands_plain]) hbinds
  rw [hc] at hmay
  exact h.not_mayBind hmay

theorem IsErrand.allRaw (h : IsErrand d) : errands.AllRaw d := h.holdsErrands.allRaw

theorem IsErrand.not_binds {c : Call} (hc : c.world.languages = [errands]) (h : IsErrand c.data) :
    ¬c.Binds runnerName := h.holdsErrands.not_binds hc

-- All that such a program mentions is written in it.
theorem IsErrand.of_mentions {p : String} (hp : errands.Mentions d p) (h : IsErrand d) :
    p ∈ d.references := by
  induction hp with
  | @binding data raw key p hstep hvalue hrefers =>
      rcases mem_errands_steps.mp hstep with ⟨rfl, -⟩ | ⟨-, ha⟩
      · cases h <;> cases hvalue
        simpa [Value.object, Value.references, Value.referencesEntries] using hrefers
      · cases ha
  | @member data m p hm _ ih =>
      have herrand := h.holdsErrands.of_member hm
      rw [herrand.body_eq] at ih
      have hp := ih herrand
      obtain ⟨key, raw, ms, hstep, hvalue, hms, hmem⟩ := hm
      rcases mem_errands_steps.mp hstep with ⟨-, ha⟩ | ⟨rfl, -⟩
      · cases ha
      · cases h <;> cases hvalue
        cases hms
        simpa [Value.object, Value.references, Value.referencesEntries] using
          Value.mem_referencesAll hmem hp

end

end Sample

end Dialect
