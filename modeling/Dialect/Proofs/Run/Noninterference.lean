import Dialect.Proofs.Run.Unmixed

namespace Dialect

variable (ρ : Relabel)

-- A layer with other labels.
def Layer.relabel : Layer → Layer
  | start l n => start l (ρ.runner n)
  | bound b => bound (b.relabel ρ)

namespace Layer

variable {ρ} {x y : Layer}

theorem relabel_bindings (x : Layer) : (x.relabel ρ).bindings = x.bindings.relabel ρ := by
  cases x <;> simp [relabel, bindings, Bindings.relabel]

theorem bindings_of_relabel (h : x.relabel ρ = y.relabel ρ) :
    x.bindings.relabel ρ = y.bindings.relabel ρ := by
  rw [← relabel_bindings, h, relabel_bindings]

theorem OfLanguage.of_relabel {l : Nat} (hx : x.OfLanguage l) (h : x.relabel ρ = y.relabel ρ) :
    y.OfLanguage l := by
  cases x <;> cases y <;> simp only [Layer.relabel, start.injEq, bound.injEq, reduceCtorEq] at h
  · exact h.1 ▸ hx
  · rename_i b b'
    have hnames : b.names = b'.names := by
      rw [← Bindings.names_relabel ρ b, h, Bindings.names_relabel]
    have hb : runnerName ∉ b.names := hx
    change runnerName ∉ b'.names
    rwa [← hnames]

end Layer

-- From two states of evaluation some texts stand for the same, and what is started next has the
-- same labels.
structure SeeAlike (texts : String → Prop) (g₁ : Ground) (s₁ : List Layer) (g₂ : Ground)
    (s₂ : List Layer) : Prop where
  resolve : ∀ p, texts p → (View.resolve (g₁.view s₁) p).map (Value.relabel ρ) =
    (View.resolve (g₂.view s₂) p).map (Value.relabel ρ)
  number : ∀ k, ρ.runner (g₁.scopes + s₁.length + k) = ρ.runner (g₂.scopes + s₂.length + k)

-- Two lists of layers have grown by the same layers, up to labels.
def GrownAlike (s₁ s₂ t₁ t₂ : List Layer) : Prop :=
  ∃ new₁ new₂, t₁ = new₁ ++ s₁ ∧ t₂ = new₂ ++ s₂ ∧
    new₁.map (Layer.relabel ρ) = new₂.map (Layer.relabel ρ)

-- Two evaluations end alike: with the same new layers, and with the same failure if they fail.
def EndAlike (s₁ s₂ : List Layer) :
    EStateM.Result Raised (List Layer) Unit → EStateM.Result Raised (List Layer) Unit → Prop
  | .ok _ t₁, .ok _ t₂ => GrownAlike ρ s₁ s₂ t₁ t₂
  | .error r t₁, .error r' t₂ => r = r' ∧ GrownAlike ρ s₁ s₂ t₁ t₂
  | _, _ => False

variable {ρ}

namespace GrownAlike

variable {s₁ s₂ t₁ t₂ u₁ u₂ : List Layer}

theorem refl (s₁ s₂ : List Layer) : GrownAlike ρ s₁ s₂ s₁ s₂ := ⟨[], [], rfl, rfl, rfl⟩

theorem trans (h : GrownAlike ρ s₁ s₂ t₁ t₂) (h' : GrownAlike ρ t₁ t₂ u₁ u₂) :
    GrownAlike ρ s₁ s₂ u₁ u₂ := by
  obtain ⟨new₁, new₂, rfl, rfl, hnew⟩ := h
  obtain ⟨more₁, more₂, rfl, rfl, hmore⟩ := h'
  exact ⟨more₁ ++ new₁, more₂ ++ new₂, by simp, by simp, by simp [hnew, hmore]⟩

theorem push {x y : Layer} (h : x.relabel ρ = y.relabel ρ) (s₁ s₂ : List Layer) :
    GrownAlike ρ s₁ s₂ (x :: s₁) (y :: s₂) := ⟨[x], [y], rfl, rfl, by simp [h]⟩

-- By induction on the new layers, which stand in pairs.
theorem preserves {P : List Layer → List Layer → Prop} (h : GrownAlike ρ s₁ s₂ t₁ t₂)
    (hs : P s₁ s₂)
    (hpush : ∀ x y u₁ u₂, x.relabel ρ = y.relabel ρ → P u₁ u₂ → P (x :: u₁) (y :: u₂)) :
    P t₁ t₂ := by
  obtain ⟨new₁, new₂, rfl, rfl, hnew⟩ := h
  induction new₁ generalizing new₂ with
  | nil =>
      cases new₂ with
      | nil => exact hs
      | cons y new₂ => cases hnew
  | cons x new₁ ih =>
      cases new₂ with
      | nil => cases hnew
      | cons y new₂ =>
          rw [List.map_cons, List.map_cons, List.cons.injEq] at hnew
          exact hpush x y _ _ hnew.1 (ih new₂ hnew.2)

theorem ofLanguage {l : Nat} (h : GrownAlike ρ s₁ s₂ t₁ t₂) (ht : ∀ x ∈ t₁, x.OfLanguage l)
    (hs : ∀ x ∈ s₂, x.OfLanguage l) : ∀ x ∈ t₂, x.OfLanguage l := by
  obtain ⟨new₁, new₂, rfl, rfl, hnew⟩ := h
  intro y hy
  rcases List.mem_append.mp hy with hy | hy
  · have hmem : y.relabel ρ ∈ new₁.map (Layer.relabel ρ) := hnew ▸ List.mem_map_of_mem hy
    obtain ⟨x, hx, hxy⟩ := List.mem_map.mp hmem
    exact (ht x (List.mem_append_left _ hx)).of_relabel hxy
  · exact hs y hy

end GrownAlike

namespace SeeAlike

variable {texts : String → Prop} {g₁ g₂ : Ground} {s₁ s₂ : List Layer}

theorem push (h : SeeAlike ρ texts g₁ s₁ g₂ s₂) {x y : Layer} (hxy : x.relabel ρ = y.relabel ρ) :
    SeeAlike ρ texts g₁ (x :: s₁) g₂ (y :: s₂) where
  resolve p hp := View.resolve_cons_relabel ρ (Layer.bindings_of_relabel hxy) (h.resolve p hp)
  number k := by
    have := h.number (k + 1)
    rw [List.length_cons, List.length_cons]
    convert this using 2 <;> omega

theorem grown (h : SeeAlike ρ texts g₁ s₁ g₂ s₂) {t₁ t₂ : List Layer}
    (hgrown : GrownAlike ρ s₁ s₂ t₁ t₂) : SeeAlike ρ texts g₁ t₁ g₂ t₂ :=
  hgrown.preserves (P := fun u₁ u₂ => SeeAlike ρ texts g₁ u₁ g₂ u₂) h
    fun _ _ _ _ hxy hu => hu.push hxy

end SeeAlike

namespace EndAlike

variable {s₁ s₂ : List Layer}

theorem of_fresh (e : Error) (s₁ s₂ : List Layer) :
    EndAlike ρ s₁ s₂ (.error (.fresh e) s₁) (.error (.fresh e) s₂) := ⟨rfl, .refl s₁ s₂⟩

theorem grown {t₁ t₂ : List Layer} {x y : EStateM.Result Raised (List Layer) Unit}
    (h : EndAlike ρ t₁ t₂ x y) (hgrown : GrownAlike ρ s₁ s₂ t₁ t₂) : EndAlike ρ s₁ s₂ x y := by
  cases x <;> cases y
  · exact hgrown.trans h
  · exact h
  · exact h
  · exact ⟨h.1, hgrown.trans h.2⟩

theorem ofLanguage {l : Nat} {x y : EStateM.Result Raised (List Layer) Unit}
    (h : EndAlike ρ s₁ s₂ x y) (hx : ∀ z ∈ Evaluation.layers x, z.OfLanguage l)
    (hs : ∀ z ∈ s₂, z.OfLanguage l) : ∀ z ∈ Evaluation.layers y, z.OfLanguage l := by
  cases x <;> cases y
  · exact GrownAlike.ofLanguage h hx hs
  · exact h.elim
  · exact h.elim
  · exact h.2.ofLanguage hx hs

end EndAlike

section

open Evaluation

variable {texts : String → Prop} {g₁ g₂ : Ground} {l : Nat}

-- What is to be shown of data: two evaluations that see its references alike end alike, if the
-- first leaves layers of one language only.
variable (ρ texts g₁ g₂ l) in
def EvaluateAlike (data : Value) : Prop :=
  ∀ s₁ s₂, SeeAlike ρ texts g₁ s₁ g₂ s₂ → (∀ x ∈ s₂, x.OfLanguage l) →
    (∀ x ∈ layers (evaluate g₁ l data s₁), x.OfLanguage l) →
    EndAlike ρ s₁ s₂ (evaluate g₁ l data s₁) (evaluate g₂ l data s₂)

-- Members from left to right.
theorem members_alike {ms : List Value} (hraw : ∀ m ∈ ms, m.IsRaw)
    (halike : ∀ m ∈ ms, EvaluateAlike ρ texts g₁ g₂ l (Program.body m)) {s₁ s₂ : List Layer}
    (hsee : SeeAlike ρ texts g₁ s₁ g₂ s₂) (hs : ∀ x ∈ s₂, x.OfLanguage l)
    (hlayers : ∀ x ∈ layers (members (evaluate g₁) l ms s₁), x.OfLanguage l) :
    EndAlike ρ s₁ s₂ (members (evaluate g₁) l ms s₁) (members (evaluate g₂) l ms s₂) := by
  induction ms generalizing s₁ s₂ with
  | nil => exact .refl s₁ s₂
  | cons m ms ih =>
      have hmember := halike m List.mem_cons_self s₁ s₂ hsee hs
      rw [members_cons_apply, Program.target_of_raw (hraw m List.mem_cons_self) l] at hlayers
      rw [members_cons_apply, members_cons_apply,
        Program.target_of_raw (hraw m List.mem_cons_self) l]
      simp only [] at hlayers ⊢
      cases h₁ : evaluate g₁ l (Program.body m) s₁ with
      | error r t₁ =>
          rw [h₁] at hmember hlayers
          have h := hmember hlayers
          cases h₂ : evaluate g₂ l (Program.body m) s₂ with
          | error r' t₂ =>
              rw [h₂] at h
              exact h
          | ok _ t₂ =>
              rw [h₂] at h
              exact h.elim
      | ok _ t₁ =>
          rw [h₁] at hmember hlayers
          simp only [] at hlayers
          have ht₁ : ∀ x ∈ t₁, x.OfLanguage l := fun x hx =>
            hlayers x ((grows_members (grows_evaluate g₁) l ms t₁).subset hx)
          have h := hmember ht₁
          cases h₂ : evaluate g₂ l (Program.body m) s₂ with
          | error r t₂ =>
              rw [h₂] at h
              exact h.elim
          | ok _ t₂ =>
              rw [h₂] at h
              exact (ih (fun x hx => hraw x (List.mem_cons_of_mem _ hx))
                (fun x hx => halike x (List.mem_cons_of_mem _ hx)) (hsee.grown h)
                (h.ofLanguage ht₁ hs) hlayers).grown h

-- One step. A binding form refers to nothing but what both sides see alike.
theorem act_alike {key : String} {a : Aspect} (ha : a.Synthetic key) {raw : Value}
    (href : a = .ofBindingForm 0 key → ∀ p ∈ raw.references, texts p)
    (hmember : ∀ ms, a = .ofSequence 0 key → raw.members = .ok ms →
      ∀ m ∈ ms, m.IsRaw ∧ EvaluateAlike ρ texts g₁ g₂ l (Program.body m))
    {s₁ s₂ : List Layer} (hsee : SeeAlike ρ texts g₁ s₁ g₂ s₂) (hs₁ : Started l s₁)
    (hs₂ : Started l s₂)
    (hlayers : ∀ x ∈ layers (act g₁ (evaluate g₁) raw a.handler.action s₁), x.OfLanguage l) :
    EndAlike ρ s₁ s₂ (act g₁ (evaluate g₁) raw a.handler.action s₁)
      (act g₂ (evaluate g₂) raw a.handler.action s₂) := by
  cases ha with
  | nameSpace => exact .push rfl s₁ s₂
  | bindingForm =>
      have hbound : (raw.substitute (View.resolve (g₁.view s₁)) >>= Bindings.add []).map
            (Bindings.relabel ρ) =
          (raw.substitute (View.resolve (g₂.view s₂)) >>= Bindings.add []).map
            (Bindings.relabel ρ) := by
        have hvalue : (raw.substitute (View.resolve (g₁.view s₁))).map (Value.relabel ρ) =
            (raw.substitute (View.resolve (g₂.view s₂))).map (Value.relabel ρ) :=
          Value.substitute_congr raw fun p hp => hsee.resolve p (href rfl p hp)
        refine map_bind_congr hvalue fun x y hxy => ?_
        rw [← Bindings.add_relabel, ← Bindings.add_relabel, hxy]
      simp only [Aspect.ofBindingForm, act_bindForm_apply]
      cases h₁ : raw.substitute (View.resolve (g₁.view s₁)) >>= Bindings.add [] <;>
        cases h₂ : raw.substitute (View.resolve (g₂.view s₂)) >>= Bindings.add [] <;>
        rw [h₁, h₂] at hbound
      · cases hbound
        exact .of_fresh _ s₁ s₂
      · cases hbound
      · cases hbound
      · exact .push (x := .bound _) (y := .bound _)
          (congrArg Layer.bound (Except.ok.inj hbound)) s₁ s₂
  | sequence =>
      obtain ⟨n₁, hfound₁⟩ := hs₁.search g₁
      obtain ⟨n₂, hfound₂⟩ := hs₂.search g₂
      simp only [Aspect.ofSequence, act_runSequence_apply hfound₁,
        act_runSequence_apply hfound₂] at hlayers ⊢
      cases hms : raw.members with
      | error e => exact .of_fresh e s₁ s₂
      | ok ms =>
          rw [hms] at hlayers
          exact members_alike (fun m hm => (hmember ms rfl hms m hm).1)
            (fun m hm => (hmember ms rfl hms m hm).2) hsee hs₂.ofLanguage hlayers

-- All steps of a plain language, in turn.
theorem steps_alike {data : Value} {rest : List (String × Aspect)}
    (hrest : ∀ key a, (key, a) ∈ rest → a.Synthetic key)
    (href : ∀ key raw, (key, .ofBindingForm 0 key) ∈ rest → data.atName key = .ok raw →
      ∀ p ∈ raw.references, texts p)
    (hmember : ∀ key raw ms, (key, .ofSequence 0 key) ∈ rest → data.atName key = .ok raw →
      raw.members = .ok ms →
      ∀ m ∈ ms, m.IsRaw ∧ EvaluateAlike ρ texts g₁ g₂ l (Program.body m))
    {s₁ s₂ : List Layer} (hsee : SeeAlike ρ texts g₁ s₁ g₂ s₂) (hs₁ : Started l s₁)
    (hs₂ : Started l s₂)
    (hlayers : ∀ x ∈ layers (steps g₁ (evaluate g₁) data rest s₁), x.OfLanguage l) :
    EndAlike ρ s₁ s₂ (steps g₁ (evaluate g₁) data rest s₁)
      (steps g₂ (evaluate g₂) data rest s₂) := by
  induction rest generalizing s₁ s₂ with
  | nil => exact .refl s₁ s₂
  | cons step rest ih =>
      obtain ⟨key, a⟩ := step
      replace ih {s₁ s₂ : List Layer} := @ih
        (fun key a h => hrest key a (List.mem_cons_of_mem _ h))
        (fun key raw h => href key raw (List.mem_cons_of_mem _ h))
        (fun key raw ms h => hmember key raw ms (List.mem_cons_of_mem _ h)) s₁ s₂
      have ha := hrest key a List.mem_cons_self
      rw [steps_cons_apply] at hlayers
      rw [steps_cons_apply, steps_cons_apply]
      cases hpresent : data.hasName key with
      | error e => exact .of_fresh e s₁ s₂
      | ok present =>
          rw [hpresent] at hlayers
          cases present with
          | false => exact ih hsee hs₁ hs₂ hlayers
          | true =>
              cases hvalue : data.atName key with
              | error e => exact .of_fresh e s₁ s₂
              | ok raw =>
                  simp only [hvalue] at hlayers ⊢
                  have hact := act_alike ha
                    (fun heq => href key raw (heq ▸ List.mem_cons_self) hvalue)
                    (fun ms heq => hmember key raw ms (heq ▸ List.mem_cons_self) hvalue)
                    hsee hs₁ hs₂
                  have hgrow₁ : s₁ <:+ layers (act g₁ (evaluate g₁) raw a.handler.action s₁) :=
                    grows_act (grows_evaluate g₁) raw a.handler.action s₁
                  have hgrow₂ : s₂ <:+ layers (act g₂ (evaluate g₂) raw a.handler.action s₂) :=
                    grows_act (grows_evaluate g₂) raw a.handler.action s₂
                  rw [under_apply] at hlayers
                  rw [under_apply, under_apply]
                  cases h₁ : act g₁ (evaluate g₁) raw a.handler.action s₁ with
                  | error r t₁ =>
                      rw [h₁] at hact hlayers
                      have h := hact hlayers
                      cases h₂ : act g₂ (evaluate g₂) raw a.handler.action s₂ with
                      | error r' t₂ =>
                          rw [h₂] at h
                          exact ⟨by rw [h.1], h.2⟩
                      | ok _ t₂ =>
                          rw [h₂] at h
                          exact h.elim
                  | ok _ t₁ =>
                      rw [h₁] at hact hlayers hgrow₁
                      have ht₁ : ∀ x ∈ t₁, x.OfLanguage l := fun x hx =>
                        hlayers x ((grows_steps (grows_evaluate g₁) data rest t₁).subset hx)
                      have h := hact ht₁
                      cases h₂ : act g₂ (evaluate g₂) raw a.handler.action s₂ with
                      | error r' t₂ =>
                          rw [h₂] at h
                          exact h.elim
                      | ok _ t₂ =>
                          rw [h₂] at h hgrow₂
                          exact (ih (hsee.grown h) (hs₁.of_suffix hgrow₁ ht₁)
                            (hs₂.of_suffix hgrow₂ (h.ofLanguage ht₁ hs₂.ofLanguage))
                            hlayers).grown h

-- By induction on how deep the data is.
theorem evaluate_alike (hlanguage : g₂.language l = g₁.language l)
    (hplain : (g₁.language l).Plain) {data : Value} (hraw : (g₁.language l).AllRaw data)
    (htexts : ∀ p, (g₁.language l).Mentions data p → texts p) :
    EvaluateAlike ρ texts g₁ g₂ l data := by
  induction hdepth : data.depth using Nat.strongRecOn generalizing data with
  | ind d ih =>
      subst hdepth
      obtain ⟨hmembers, hbelow⟩ := hraw
      intro s₁ s₂ hsee hs₂ hlayers
      have hstart : (Layer.start l (g₁.scopes + s₁.length)).relabel ρ =
          (Layer.start l (g₂.scopes + s₂.length)).relabel ρ := by
        simpa [Layer.relabel] using hsee.number 0
      rw [evaluate_eq] at hlayers
      rw [evaluate_eq, evaluate_eq, hlanguage]
      have hs₁ : ∀ x ∈ s₁, x.OfLanguage l := fun x hx => hlayers x
        ((grows_steps (grows_evaluate g₁) data _ _).subset (List.mem_cons_of_mem _ hx))
      have h := steps_alike (fun key a hstep => hplain.synthetic hstep)
        (fun key raw hstep hvalue p hp => htexts p (.binding hstep hvalue hp)) ?_
        (hsee.push hstart) (.of_start hs₁ _) (.of_start hs₂ _) hlayers
      · exact EndAlike.grown h (.push hstart s₁ s₂)
      · intro key raw ms hstep hvalue hms m hm
        have hmember : (g₁.language l).Member data m := ⟨key, raw, ms, hstep, hvalue, hms, hm⟩
        exact ⟨hmembers m hmember, ih _ (Program.depth_target_lt hvalue hms hm 0)
          (hbelow m hmember) (fun p hp => htexts p (.member hmember hp)) rfl⟩

end

-- Runs of the same raw data from two scopes, of two worlds, in which all texts that its binding
-- forms mention stand for the same: both succeed with the same maps in front of those that were
-- there, or both fail with the same error and trail. Only the first run has to be known not to
-- bind the name of the function for sub-programs.
theorem run_noninterference (ρ : Relabel) (w₁ w₂ : World) (i₁ i₂ : ScopeId) (l : Nat)
    (data : Value) (hlanguage : w₂.language l = w₁.language l) (hplain : (w₁.language l).Plain)
    (hraw : (w₁.language l).AllRaw data)
    (hbinds : ¬(Call.ofRun l data i₁ w₁).Binds runnerName)
    (hnumber : ∀ k, ρ.runner (w₁.store.size + k) = ρ.runner (w₂.store.size + k))
    (hresolve : ∀ p, (w₁.language l).Mentions data p →
      (w₁.store.resolve i₁ p).map (Value.relabel ρ) =
        (w₂.store.resolve i₂ p).map (Value.relabel ρ)) :
    match run l data i₁ w₁, run l data i₂ w₂ with
    | .ok j₁ w₁', .ok j₂ w₂' => ∃ new₁ new₂ : List Bindings,
        w₁'.store.view j₁ = new₁ ++ w₁.store.view i₁ ∧
        w₂'.store.view j₂ = new₂ ++ w₂.store.view i₂ ∧
        new₁.map (Bindings.relabel ρ) = new₂.map (Bindings.relabel ρ)
    | .error r₁ _, .error r₂ _ => r₁ = r₂
    | _, _ => False := by
  have hsee : SeeAlike ρ ((w₁.language l).Mentions data) (w₁.ground i₁) [] (w₂.ground i₂) [] := by
    refine ⟨fun p hp => ?_, hnumber⟩
    have h := hresolve p hp
    rwa [Store.resolve_eq_view, Store.resolve_eq_view] at h
  have hlayers := ofLanguage_of_not_binds hplain hraw hbinds
  have hground : (w₂.ground i₂).language l = (w₁.ground i₁).language l := hlanguage
  have hend := evaluate_alike hground hplain hraw (fun _ hp => hp) [] [] hsee (by simp) hlayers
  have hlayers₂ := hend.ofLanguage hlayers (by simp)
  have hplain₂ : (w₂.language l).Plain := hlanguage ▸ hplain
  cases h₁ : evaluate (w₁.ground i₁) l data [] with
  | ok _ t₁ =>
      cases h₂ : evaluate (w₂.ground i₂) l data [] with
      | error r t₂ =>
          rw [h₁, h₂] at hend
          exact hend.elim
      | ok _ t₂ =>
          rw [h₁, h₂] at hend
          rw [h₁] at hlayers
          rw [h₂] at hlayers₂
          obtain ⟨j₁, w₁', hrun₁, hview₁⟩ := run_eq_ok_of_evaluate hplain h₁ hlayers
          obtain ⟨j₂, w₂', hrun₂, hview₂⟩ := run_eq_ok_of_evaluate hplain₂ h₂ hlayers₂
          rw [hrun₁, hrun₂]
          obtain ⟨new₁, new₂, rfl, rfl, hnew⟩ := hend
          refine ⟨new₁.map Layer.bindings, new₂.map Layer.bindings, ?_, ?_, ?_⟩
          · simpa [Ground.view, World.ground] using hview₁
          · simpa [Ground.view, World.ground] using hview₂
          · have hmap := congrArg (List.map Layer.bindings) hnew
            simpa [Function.comp_def, Layer.relabel_bindings] using hmap
  | error r₁ t₁ =>
      cases h₂ : evaluate (w₂.ground i₂) l data [] with
      | ok _ t₂ =>
          rw [h₁, h₂] at hend
          exact hend.elim
      | error r₂ t₂ =>
          rw [h₁, h₂] at hend
          rw [h₁] at hlayers
          rw [h₂] at hlayers₂
          obtain ⟨w₁', hrun₁⟩ := run_eq_error_of_evaluate hplain h₁ hlayers
          obtain ⟨w₂', hrun₂⟩ := run_eq_error_of_evaluate hplain₂ h₂ hlayers₂
          rw [hrun₁, hrun₂]
          exact hend.1

namespace Sample

-- Two roots that differ in a name that is of no concern, and in the order of their names.
def town : World :=
  { World.empty with
    languages := [errands]
    store := (Store.empty.push none [("k", .int 3), ("purse", .int 5)]).push none
      [("purse", .int 8), ("k", .int 3)] }

-- One errand looks at a name of the root, the other at what the first has bound.
def trip : Value := .object [("go", .list [
  .object [("let", .object [("x", .str "k")])], .object [("let", .object [("y", .str "x")])]])]

theorem trip_isErrand : IsErrand trip := by
  refine .go ?_
  simp only [List.forall_mem_cons, List.not_mem_nil, false_imp_iff, implies_true, and_true]
  exact ⟨.bind (by decide) "k", .bind (by decide) "x"⟩

theorem resolve_of_mentions_trip {p : String} (h : errands.Mentions trip p) :
    town.store.resolve 0 p = town.store.resolve 1 p := by
  have hp := trip_isErrand.of_mentions h
  simp [trip, Value.object, Value.references, Value.referencesEntries, Value.referencesAll] at hp
  rcases hp with rfl | rfl <;> rfl

theorem run_noninterference_trip :
    (∀ p, errands.Mentions trip p → town.store.resolve 0 p = town.store.resolve 1 p) ∧
    ∃ j₁ w₁ j₂ w₂ new, run 0 trip 0 town = .ok j₁ w₁ ∧ run 0 trip 1 town = .ok j₂ w₂ ∧
      w₁.store.view j₁ = new ++ town.store.view 0 ∧
      w₂.store.view j₂ = new ++ town.store.view 1 := by
  refine ⟨fun p => resolve_of_mentions_trip, ?_⟩
  have h := run_noninterference .exact town town 0 1 0 trip rfl errands_plain trip_isErrand.allRaw
    (trip_isErrand.not_binds rfl) (fun _ => rfl)
    (fun p hp => congrArg _ (resolve_of_mentions_trip hp))
  have hrun : ∃ j w, run 0 trip 0 town = .ok j w := ⟨_, _, rfl⟩
  obtain ⟨j₁, w₁, h₁⟩ := hrun
  cases h₂ : run 0 trip 1 town with
  | error r w =>
      rw [h₁, h₂] at h
      exact h.elim
  | ok j₂ w₂ =>
      rw [h₁, h₂] at h
      obtain ⟨new₁, new₂, hview₁, hview₂, hnew⟩ := h
      rw [funext Bindings.relabel_exact, List.map_id', List.map_id'] at hnew
      exact ⟨j₁, w₁, j₂, w₂, new₁, h₁, rfl, hview₁, hnew ▸ hview₂⟩

end Sample

end Dialect
