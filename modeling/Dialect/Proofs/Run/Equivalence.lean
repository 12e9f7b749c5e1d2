import Dialect.Proofs.Run.Unmixed

namespace Dialect

namespace Language

mutual

-- Data that is the same, or mappings that have the same at every key of the language, and whatever
-- else, in any order: a run reads its data only at the keys of its language. The members of
-- sequences need only be equivalent in turn.
inductive Equivalent (L : Language) : Value → Value → Prop where
  | same (data : Value) : Equivalent L data data
  | mappings {es es' : List (Value × Value)}
      (entries : ∀ key a, (key, a) ∈ L.steps →
        EquivalentAt L key a (Value.find? es (.str key)) (Value.find? es' (.str key))) :
      Equivalent L (.map es) (.map es')

-- What two mappings have at the key of a step: the same value or none, or lists of as many members
-- each if the step is a sequence.
inductive EquivalentAt (L : Language) : String → Aspect → Option Value → Option Value → Prop where
  | same (key : String) (a : Aspect) (found : Option Value) : EquivalentAt L key a found found
  | lists {key : String} {a : Aspect} {ms ms' : List Value} (sequence : a = .ofSequence 0 key)
      (pairs : List.Forall₂ (Equivalent L) ms ms') :
      EquivalentAt L key a (some (.list ms)) (some (.list ms'))

end

variable {L : Language} {data data' : Value}

theorem Equivalent.isRaw (h : L.Equivalent data data') (hraw : data.IsRaw) : data'.IsRaw := by
  cases h with
  | same => exact hraw
  | mappings => simp [Value.IsRaw, Value.kind]

theorem Equivalent.body (h : L.Equivalent data data') :
    L.Equivalent (Program.body data) (Program.body data') := by
  cases h with
  | same => exact .same _
  | mappings entries => exact .mappings entries

section

variable {key : String} {a : Aspect} (hstep : (key, a) ∈ L.steps)
include hstep

theorem Equivalent.hasName (h : L.Equivalent data data') :
    data.hasName key = data'.hasName key := by
  cases h with
  | same => rfl
  | mappings entries =>
      have hat := entries key a hstep
      simp only [Value.hasName]
      generalize Value.find? _ _ = found at hat ⊢
      generalize Value.find? _ _ = found' at hat ⊢
      cases hat <;> rfl

-- At the key of a step both have values, or neither has and the errors are the same.
theorem Equivalent.atName (h : L.Equivalent data data') :
    (∃ e, data.atName key = .error e ∧ data'.atName key = .error e) ∨
      ∃ raw raw', data.atName key = .ok raw ∧ data'.atName key = .ok raw' ∧
        L.EquivalentAt key a (some raw) (some raw') := by
  cases h with
  | same =>
      cases hvalue : data.atName key with
      | error e => exact .inl ⟨e, rfl, rfl⟩
      | ok raw => exact .inr ⟨raw, raw, rfl, rfl, .same key a _⟩
  | mappings entries =>
      have hat := entries key a hstep
      simp only [Value.atName]
      generalize Value.find? _ _ = found at hat ⊢
      generalize Value.find? _ _ = found' at hat ⊢
      cases hat with
      | same key a found =>
          cases found with
          | none => exact .inl ⟨_, rfl, rfl⟩
          | some raw => exact .inr ⟨raw, raw, rfl, rfl, .same key a _⟩
      | lists sequence pairs => exact .inr ⟨_, _, rfl, rfl, .lists sequence pairs⟩

end

section

variable {key : String} {a : Aspect} {raw raw' : Value}

-- Only the values of sequences can differ.
theorem EquivalentAt.eq_of_ne (h : L.EquivalentAt key a (some raw) (some raw'))
    (ha : a ≠ .ofSequence 0 key) : raw = raw' := by
  cases h with
  | same => rfl
  | lists sequence => exact absurd sequence ha

theorem EquivalentAt.members (h : L.EquivalentAt key a (some raw) (some raw')) :
    (∃ e, raw.members = .error e ∧ raw'.members = .error e) ∨
      ∃ ms ms', raw.members = .ok ms ∧ raw'.members = .ok ms' ∧
        List.Forall₂ L.Equivalent ms ms' := by
  cases h with
  | same =>
      cases hms : raw.members with
      | error e => exact .inl ⟨e, rfl, rfl⟩
      | ok ms => exact .inr ⟨ms, ms, rfl, rfl, List.forall₂_same.mpr fun m _ => .same m⟩
  | lists _ pairs => exact .inr ⟨_, _, rfl, rfl, pairs⟩

end

end Language

-- Two runs end in the same result, which leaves the language in force if it is a success.
structure Concur (l : Nat) (x y : EStateM.Result Raised World ScopeId) : Prop where
  same : x = y
  inForce : ∀ j w, x = .ok j w → w.InForce j l

-- What is to be shown of two amounts of fuel that are both enough.
def RunsConcur (L : Language) (l n n' : Nat) : Prop :=
  ∀ data data', L.Equivalent data data' → L.AllRaw data → data.depth < n → data'.depth < n' →
    ∀ i w, w.language l = L → ¬Call.Binds ⟨n, l, data, i, w⟩ runnerName →
      Concur l (runWith n l data i w) (runWith n' l data' i w)

namespace Concur

variable {l : Nat} {j : ScopeId} {w : World}

theorem of_error (r : Raised) (w : World) : Concur l (.error r w) (.error r w) := ⟨rfl, nofun⟩

theorem of_ok (h : w.InForce j l) : Concur l (.ok j w) (.ok j w) :=
  ⟨rfl, fun _ _ heq => by cases heq; exact h⟩

theorem under {x y : Engine ScopeId} (h : Concur l (x w) (y w)) (key : String) :
    Concur l (Engine.under key x w) (Engine.under key y w) := by
  rw [Engine.under_apply, Engine.under_apply, ← h.same]
  cases hend : x w with
  | error r w' => exact .of_error _ _
  | ok j w' => exact .of_ok (h.inForce j w' hend)

end Concur

section

variable {L : Language} {c : Call} {n n' : Nat} {data' : Value}
  (hlanguage : c.world.language c.language = L) (hbinds : ¬c.Binds runnerName)
  (hruns : RunsConcur L c.language n n')
include hlanguage hbinds hruns

-- Members from left to right. Each is started by the call, from the world that those before it
-- have left.
theorem callAll_concur {before : List (String × Aspect)} {key : String} {raw : Value}
    {j₀ : ScopeId} {w₀ : World} (hcomes : c.ComesTo n before key (.ofSequence 0 key) raw j₀ w₀)
    {k : Nat} (hfound : w₀.store.getD j₀ runnerName .null = .ok (.runner c.language k))
    {first ms ms' : List Value} (hmembers : raw.members = .ok (first ++ ms))
    (hpairs : List.Forall₂ L.Equivalent ms ms')
    (hraw : ∀ m ∈ ms, m.IsRaw ∧ L.AllRaw (Program.body m) ∧ (Program.body m).depth < n)
    (hdepth : ∀ m ∈ ms', (Program.body m).depth < n') {j : ScopeId} {w : World}
    (hdone : (runWith n).callAll (.runner c.language k) first j₀ w₀ = .ok j w)
    (hforce : w.InForce j c.language) :
    Concur c.language ((runWith n).callAll (.runner c.language k) ms j w)
      ((runWith n').callAll (.runner c.language k) ms' j w) := by
  induction hpairs generalizing first j w with
  | nil => exact .of_ok hforce
  | @cons m m' ms ms' hm _ ih =>
      obtain ⟨⟨hisRaw, hallRaw, hless⟩, hraw⟩ := List.forall_mem_cons.mp hraw
      obtain ⟨hless', hdepth⟩ := List.forall_mem_cons.mp hdepth
      have htarget := Program.target_of_raw hisRaw c.language
      have htarget' := Program.target_of_raw (hm.isRaw hisRaw) c.language
      have hstarts := hcomes.starts hfound hmembers hdone
      rw [htarget] at hstarts
      have hworld : w.language c.language = L := by
        rw [← hlanguage]
        unfold World.language
        rw [hstarts.languages]
      have hrun := hruns _ _ hm.body hallRaw hless hless' j w hworld (hstarts.not_binds hbinds)
      rw [callAll_cons_apply, callAll_cons_apply, Runner.call_runner, Runner.call_runner, htarget,
        htarget', ← hrun.same]
      cases hend : runWith n c.language (Program.body m) j w with
      | error r w₁ => exact .of_error r w₁
      | ok j₁ w₁ =>
          have hrest : raw.members = .ok ((first ++ [m]) ++ ms) := by simpa using hmembers
          refine ih hrest hraw hdepth ?_ (hrun.inForce j₁ w₁ hend)
          exact callAll_concat_eq_ok hdone (by rw [htarget]; exact hend)

variable (hplain : L.Plain) (hallRaw : L.AllRaw c.data) (hdepth : c.data.depth ≤ n)
  (hdepth' : data'.depth ≤ n')
include hplain hallRaw hdepth hdepth'

-- One step that the call comes to. Namespaces and binding forms have the same value on both sides.
theorem apply_concur {done : List (String × Aspect)} {key : String} {a : Aspect}
    {raw raw' : Value} {j : ScopeId} {w : World} (hcomes : c.ComesTo n done key a raw j w)
    (hvalue' : data'.atName key = .ok raw') (hat : L.EquivalentAt key a (some raw) (some raw'))
    (hforce : w.InForce j c.language) :
    Concur c.language (a.apply (runWith n) raw j w) (a.apply (runWith n') raw' j w) := by
  have hstep : (key, a) ∈ L.steps := hlanguage ▸ List.mem_of_mem_filter hcomes.mem_steps
  cases hplain.synthetic hstep with
  | nameSpace =>
      obtain rfl := hat.eq_of_ne (by simp [Aspect.ofNamespace, Aspect.ofSequence])
      exact ⟨rfl, fun j' w' happly => hcomes.inForce (.inl rfl) hbinds hforce happly⟩
  | bindingForm =>
      obtain rfl := hat.eq_of_ne (by simp [Aspect.ofBindingForm, Aspect.ofSequence])
      exact ⟨rfl, fun j' w' happly => hcomes.inForce (.inr rfl) hbinds hforce happly⟩
  | sequence =>
      obtain ⟨k, hfound⟩ := hforce
      rw [apply_sequence hfound, apply_sequence hfound]
      rcases hat.members with ⟨e, hms, hms'⟩ | ⟨ms, ms', hms, hms', hpairs⟩ <;> rw [hms, hms']
      · exact .of_error _ w
      · have hmembers : raw.members = .ok ([] ++ ms) := hms
        refine callAll_concur hlanguage hbinds hruns hcomes hfound hmembers hpairs
          (fun m hm => ?_) (fun m hm => ?_) rfl ⟨k, hfound⟩
        · have hmember : L.Member c.data m := ⟨key, raw, ms, hstep, hcomes.value, hms, hm⟩
          obtain ⟨hisRaw, hbelow⟩ := hallRaw
          have hless := Program.depth_target_lt hcomes.value hms hm 0
          exact ⟨hisRaw m hmember, hbelow m hmember, Nat.lt_of_lt_of_le hless hdepth⟩
        · exact Nat.lt_of_lt_of_le (Program.depth_target_lt hvalue' hms' hm 0) hdepth'

-- All steps of the language, in turn.
theorem fireAll_concur (hequivalent : L.Equivalent c.data data')
    {done rest : List (String × Aspect)} {j : ScopeId} {w : World}
    (hstands : c.Stands n done rest j w) (hforce : w.InForce j c.language) :
    Concur c.language (fireAll (runWith n) c.data rest j w)
      (fireAll (runWith n') data' rest j w) := by
  induction rest generalizing done j w with
  | nil => exact .of_ok hforce
  | cons step rest ih =>
      obtain ⟨key, a⟩ := step
      have hstep : (key, a) ∈ L.steps := by
        rw [← hlanguage, hstands.steps]
        simp
      rw [fireAll_cons_apply, fireAll_cons_apply, ← hequivalent.hasName hstep]
      cases hpresent : c.data.hasName key with
      | error e => exact .of_error _ w
      | ok present =>
          cases present with
          | false => exact ih (hstands.skip hpresent) hforce
          | true =>
              have hfire : Concur c.language (fireAt (runWith n) key a c.data j w)
                  (fireAt (runWith n') key a data' j w) := by
                rw [fireAt_apply, fireAt_apply]
                rcases hequivalent.atName hstep with
                  ⟨e, hvalue, hvalue'⟩ | ⟨raw, raw', hvalue, hvalue', hat⟩ <;> rw [hvalue, hvalue']
                · exact .of_error _ w
                · have hresolves : a.resolves = false := by cases hplain.synthetic hstep <;> rfl
                  simp only [hresolves, Bool.false_eq_true, if_false, pure_bind]
                  exact (apply_concur hlanguage hbinds hruns hplain hallRaw hdepth hdepth'
                    ⟨⟨rest, hstands⟩, hpresent, hvalue⟩ hvalue' hat hforce).under key
              rw [← hfire.same]
              cases hend : fireAt (runWith n) key a c.data j w with
              | error r w₁ => exact .of_error r w₁
              | ok j₁ w₁ => exact ih (hstands.next hpresent hend) (hfire.inForce j₁ w₁ hend)

end

-- By induction on one amount of fuel; the other one has to be enough too.
theorem runsConcur {L : Language} (hplain : L.Plain) (l n n' : Nat) : RunsConcur L l n n' := by
  induction n generalizing n' with
  | zero =>
      intro data data' _ _ hdepth
      omega
  | succ n ih =>
      intro data data' hequivalent hallRaw hdepth hdepth' i w hlanguage hbinds
      obtain ⟨n', rfl⟩ := Nat.exists_eq_add_of_lt (Nat.zero_lt_of_lt hdepth')
      let c : Call := ⟨n + 1, l, data, i, w⟩
      have hstands : c.Stands n [] L.steps w.store.size c.opened := hlanguage ▸ .start rfl
      rw [runWith_succ_apply, Nat.zero_add, runWith_succ_apply, hlanguage]
      exact fireAll_concur hlanguage hbinds (ih n') hplain hallRaw (Nat.le_of_lt_succ hdepth)
        (by omega) hequivalent hstands c.inForce_opened

-- Runs of equivalent data from the same scope of the same world end in the same way: in the same
-- scope, before the same world with all its scopes, or with the same failure and trail.
theorem run_equivalent (w : World) (i : ScopeId) (l : Nat) (data data' : Value)
    (hplain : (w.language l).Plain) (hequivalent : (w.language l).Equivalent data data')
    (hallRaw : (w.language l).AllRaw data) (hbinds : ¬(Call.ofRun l data i w).Binds runnerName) :
    run l data i w = run l data' i w :=
  (runsConcur hplain l _ _ data data' hequivalent hallRaw (by unfold spareDepth; omega)
    (by unfold spareDepth; omega) i w rfl hbinds).same

namespace Sample

-- An errand on the way to two more, each of which looks at what the one before has bound.
def outing : Value := .object [
  ("let", .object [("x", .str "k")]),
  ("go", .list [.object [("let", .object [("y", .str "x")])],
    .object [("let", .object [("z", .str "y")])]])]

-- The same with notes, and written the other way round.
def diary : Value := .object [
  ("note", .null),
  ("go", .list [.object [("note", .str "y"), ("let", .object [("y", .str "x")])],
    .object [("let", .object [("z", .str "y")])]]),
  ("let", .object [("x", .str "k")])]

def village : World :=
  { World.empty with languages := [errands], store := Store.empty.push none [("k", .int 3)] }

theorem outing_holdsErrands : HoldsErrands outing := by
  intro l key a raw hstep hvalue
  rcases step_cases hstep with ⟨rfl, rfl⟩ | ⟨rfl, rfl⟩ | ⟨rfl, rfl⟩ <;> cases hvalue
  · exact .inl ⟨rfl, "x", "k", by decide, rfl⟩
  · refine .inr ⟨rfl, _, rfl, ?_⟩
    simp only [List.forall_mem_cons, List.not_mem_nil, false_imp_iff, implies_true, and_true]
    exact ⟨.bind (by decide) "x", .bind (by decide) "y"⟩

theorem outing_equivalent_diary : errands.Equivalent outing diary := by
  refine .mappings fun key a hstep => ?_
  rcases mem_errands_steps.mp hstep with ⟨rfl, rfl⟩ | ⟨rfl, rfl⟩
  · exact .same _ _ _
  · refine .lists rfl (.cons (.mappings fun key a hstep => ?_) (.cons (.same _) .nil))
    rcases mem_errands_steps.mp hstep with ⟨rfl, rfl⟩ | ⟨rfl, rfl⟩ <;> exact .same _ _ _

theorem run_equivalent_diary :
    ∃ j w, run 0 outing 0 village = .ok j w ∧ run 0 diary 0 village = .ok j w := by
  have h := run_equivalent village 0 0 outing diary errands_plain outing_equivalent_diary
    outing_holdsErrands.allRaw (outing_holdsErrands.not_binds rfl)
  have hrun : ∃ j w, run 0 outing 0 village = .ok j w := ⟨_, _, rfl⟩
  obtain ⟨j, w, hrun⟩ := hrun
  exact ⟨j, w, hrun, h ▸ hrun⟩

end Sample

end Dialect
