import Dialect.Proofs.Language.Extension
import Dialect.Proofs.Run.Languages
import Dialect.Proofs.Run.Swap

namespace Dialect

open Engine

variable {l l' : Nat}

section

variable {c : Call} {n : Nat}
  (hfollows : ∀ c', c.Starts c' → c'.fuel = n →
    Follows l l' (runWith n) c'.language c'.data c'.scope c'.world)
include hfollows

-- A sequence calls alike functions on alike members.
theorem perform_sequence_alike {key : String} {value value' : Value} {j : ScopeId} {v v' : World}
    (hperforms : c.Performs n (.runSequence key) value j v) (hvalue : Swapped l l' value value')
    (hv : SwappedWorld l l' v v') :
    Alike l l' Eq ((Action.runSequence key).perform (runWith n) value j v)
      ((Action.runSequence key).perform (runWith n) value' j v') := by
  have hask : Mirrors l l' (Swapped l l') (ask fun s => s.getD j runnerName .null)
      (ask fun s => s.getD j runnerName .null) :=
    .ask fun s t hst => hst.getD j runnerName .null
  refine (hask v v' hv).bind ?_
  intro f f' u u' hf hff hu
  obtain ⟨hfound, rfl⟩ := ask_eq_ok hf
  rcases exists_runner_or f with ⟨a, k, rfl⟩ | hrunner
  · obtain ⟨b, rfl, hab⟩ := hff.eq_runner
    refine (Mirrors.ofExcept hvalue.members _ _ hu).bind ?_
    intro ms ms' u₁ u₁' hms hmembers hu₁
    obtain ⟨hms', rfl⟩ := ofExcept_eq_ok hms
    refine (callAll_alike hab hmembers ?_ hu₁).bind ?_
    · rintro first m rest j' w' rfl hdone
      exact hfollows _ (.member hperforms hfound hms' hdone) rfl
    · rintro i _ u₂ u₂' - rfl hu₂
      exact ⟨rfl, hu₂⟩
  · have hcall : Mirrors l l' Eq
        (do return .ok (← (runWith n).callAll f (← ofExcept value.members) j) :
          Engine (Except Kind ScopeId))
        (do return .ok (← (runWith n).callAll f' (← ofExcept value'.members) j)) :=
      (Mirrors.ofExcept hvalue.members).bind fun ms ms' hms =>
        (callAll_mirrors hff hrunner hms j).bind fun i _ hi => .pure (congrArg _ hi)
    cases hff.view with
    | same =>
        cases f with
        | null => exact ⟨rfl, hu⟩
        | _ => exact hcall _ _ hu
    | _ => exact hcall _ _ hu

-- A sub-program is run by alike functions.
theorem perform_sub_alike {value value' : Value} {j : ScopeId} {v v' : World}
    (hperforms : c.Performs n .sub value j v) (hvalue : Swapped l l' value value')
    (hv : SwappedWorld l l' v v') :
    Alike l l' Eq (Action.sub.perform (runWith n) value j v)
      (Action.sub.perform (runWith n) value' j v') := by
  have hask : Mirrors l l' (Swapped l l') (ask fun s => s.resolve j runnerName)
      (ask fun s => s.resolve j runnerName) :=
    .ask fun s t hst => hst.resolve j runnerName
  refine (hask v v' hv).bind ?_
  intro f f' u u' hf hff hu
  obtain ⟨hfound, rfl⟩ := ask_eq_ok hf
  have hcall : Alike l l' Eq ((runWith n).call f value j u) ((runWith n).call f' value' j u') := by
    rcases exists_runner_or f with ⟨a, k, rfl⟩ | hrunner
    · obtain ⟨b, rfl, hab⟩ := hff.eq_runner
      obtain ⟨hlanguage, hdata⟩ := hvalue.target hab
      rw [Runner.call_runner, Runner.call_runner]
      exact hfollows _ (.sub hperforms hfound) rfl _ _ u' hlanguage hdata hu
    · exact call_mirrors hff hrunner value value' j u u' hu
  refine hcall.bind ?_
  rintro i _ u₂ u₂' - rfl hu₂
  exact ⟨rfl, hu₂⟩

theorem perform_alike {action : Action} {value value' : Value} {j : ScopeId} {v v' : World}
    (hperforms : c.Performs n action value j v) (hvalue : Swapped l l' value value')
    (hv : SwappedWorld l l' v v') :
    Alike l l' Eq (action.perform (runWith n) value j v)
      (action.perform (runWith n) value' j v') := by
  cases action with
  | runSequence key => exact perform_sequence_alike hfollows hperforms hvalue hv
  | sub => exact perform_sub_alike hfollows hperforms hvalue hv
  | _ => exact perform_mirrors _ hvalue j (by simp) (by simp) v v' hv

-- The function of a step notes its call, if it keeps a journal, and acts.
theorem apply_alike {before : List (String × Aspect)} {key : String} {a : Aspect}
    {raw value value' : Value} {j : ScopeId} {w w' : World}
    (hcomes : c.ComesTo n before key a raw j w) (hhanded : Call.handed a raw j w = .ok value)
    (hvalue : Swapped l l' value value') (hw : SwappedWorld l l' w w') :
    Alike l l' Eq (a.apply (runWith n) value j w) (a.apply (runWith n) value' j w') := by
  have hnoted : SwappedWorld l l' (a.handler.noted value j w) (a.handler.noted value' j w') := by
    unfold Handler.noted
    cases a.handler.journal <;> exact ⟨hw.store, hw.languages, hw.evaluators, hw.shared⟩
  have hcall : Alike l l' Eq (a.handler.call (runWith n) value j w)
      (a.handler.call (runWith n) value' j w') := by
    rw [Handler.call_apply, Handler.call_apply]
    exact perform_alike hfollows ⟨before, key, a, raw, w, hcomes, rfl, hhanded, rfl⟩ hvalue hnoted
  refine hcall.bind ?_
  rintro x _ v v' - rfl hv
  cases x with
  | ok i => exact ⟨rfl, hv⟩
  | error k => exact ⟨rfl, hv⟩

theorem fireAt_alike {before after : List (String × Aspect)} {key : String} {a : Aspect}
    {j : ScopeId} {w w' : World} (hstands : c.Stands n before ((key, a) :: after) j w)
    (hpresent : c.data.hasName key = .ok true) {data' : Value}
    (hdata : Swapped l l' c.data data') (hw : SwappedWorld l l' w w') :
    Alike l l' Eq (fireAt (runWith n) key a c.data j w) (fireAt (runWith n) key a data' j w') := by
  refine (Mirrors.ofExcept (hdata.atName key) w w' hw).bind ?_
  intro raw y v v' hx hxy hv
  obtain ⟨hraw, rfl⟩ := ofExcept_eq_ok hx
  have hcomes : c.ComesTo n before key a raw j v := ⟨⟨after, hstands⟩, hpresent, hraw⟩
  refine Alike.under ?_ key
  cases hresolves : a.resolves with
  | false => exact apply_alike hfollows hcomes (by simp [Call.handed, hresolves]) hxy hv
  | true =>
      have hask : Mirrors l l' (Swapped l l') (ask fun s => s.resolveIn j raw)
          (ask fun s => s.resolveIn j y) :=
        .ask fun s t hst => hst.resolveIn j hxy
      refine (hask v v' hv).bind ?_
      intro value value' u u' hvalue hswapped hu
      obtain ⟨hvalue', rfl⟩ := ask_eq_ok hvalue
      exact apply_alike hfollows hcomes (by simpa [Call.handed, hresolves] using hvalue') hswapped
        hu

-- The same steps on alike data, one after the other.
theorem fireAll_alike {done rest : List (String × Aspect)} {j : ScopeId} {w w' : World}
    (hstands : c.Stands n done rest j w) {data' : Value} (hdata : Swapped l l' c.data data')
    (hw : SwappedWorld l l' w w') :
    Alike l l' Eq (fireAll (runWith n) c.data rest j w) (fireAll (runWith n) data' rest j w') := by
  induction rest generalizing done j w w' with
  | nil => exact ⟨rfl, hw⟩
  | cons step rest ih =>
      obtain ⟨key, a⟩ := step
      rw [fireAll_cons_apply, fireAll_cons_apply, ← hdata.hasName_eq key]
      cases hpresent : c.data.hasName key with
      | error e => exact ⟨rfl, hw⟩
      | ok present =>
          cases present with
          | false => exact ih (hstands.skip hpresent) hw
          | true =>
              have hfire := fireAt_alike hfollows hstands hpresent hdata hw
              cases hx : fireAt (runWith n) key a c.data j w with
              | ok i v =>
                  cases hy : fireAt (runWith n) key a data' j w' with
                  | ok i' v' =>
                      rw [hx, hy] at hfire
                      obtain ⟨rfl, hv⟩ := hfire
                      exact ih (hstands.next hpresent hx) hv
                  | error r v' =>
                      rw [hx, hy] at hfire
                      exact hfire.elim
              | error r v =>
                  cases hy : fireAt (runWith n) key a data' j w' with
                  | ok i' v' =>
                      rw [hx, hy] at hfire
                      exact hfire.elim
                  | error r' v' =>
                      rw [hx, hy] at hfire
                      exact hfire

end

-- Data can be asked for every name, or for none.
theorem Value.hasName_cases (data : Value) :
    (∀ key, ∃ b, data.hasName key = .ok b) ∨ ∃ e, ∀ key, data.hasName key = .error e := by
  cases data with
  | map es => exact .inl fun _ => ⟨_, rfl⟩
  | list xs => exact .inl fun _ => ⟨_, rfl⟩
  | tuple xs => exact .inl fun _ => ⟨_, rfl⟩
  | set xs => exact .inl fun _ => ⟨_, rfl⟩
  | str s => exact .inl fun _ => ⟨_, rfl⟩
  | _ => exact .inr ⟨_, fun _ => rfl⟩

-- Steps whose keys do not occur in the data make no difference.
theorem fireAll_filter (run : Runner) {data : Value} (hdata : ∀ key, ∃ b, data.hasName key = .ok b)
    (steps : List (String × Aspect)) :
    fireAll run data (steps.filter (data.mentions ·.1)) = fireAll run data steps := by
  induction steps with
  | nil => rfl
  | cons step steps ih =>
      obtain ⟨key, a⟩ := step
      funext j w
      obtain ⟨b, hb⟩ := hdata key
      cases b with
      | false =>
          have habsent : data.mentions key = false := by simp [Value.mentions, hb]
          rw [List.filter_cons, habsent, fireAll_cons_apply, hb, ← ih]
          rfl
      | true =>
          have hpresent : data.mentions key = true := by simp [Value.mentions, hb]
          rw [List.filter_cons, hpresent, if_pos rfl, fireAll_cons_apply, fireAll_cons_apply, hb,
            ih]

-- Languages with the same steps for the keys of some data do the same to it.
theorem fireAll_steps_eq (run : Runner) {data : Value} {l l' : Language}
    (h : l'.steps.filter (data.mentions ·.1) = l.steps.filter (data.mentions ·.1)) :
    fireAll run data l'.steps = fireAll run data l.steps := by
  rcases data.hasName_cases with hdata | ⟨e, he⟩
  · rw [← fireAll_filter run hdata, h, fireAll_filter run hdata]
  · have hfail : ∀ l : Language, ∀ j w, fireAll run data l.steps j w = .error (.fresh e) w := by
      intro l j w
      obtain ⟨⟨key, a⟩, rest, hsteps⟩ : ∃ step rest, l.steps = step :: rest := by
        unfold Language.steps
        cases l.ordered.take l.bindingIndex with
        | nil => exact ⟨_, _, rfl⟩
        | cons step rest => exact ⟨step, _, rfl⟩
      rw [hsteps, fireAll_cons_apply, he]
    funext j w
    rw [hfail, hfail]

-- No data that is read under the language has one of the keys.
def Call.Avoids (c : Call) (l : Nat) (keys : String → Prop) : Prop :=
  ∀ c', c.Reaches c' → c'.language = l → ∀ key, keys key → c'.data.hasName key ≠ .ok true

theorem Call.Starts.avoids {c c' : Call} (h : c.Starts c') {keys : String → Prop}
    (havoids : c.Avoids l keys) : c'.Avoids l keys :=
  fun d hd => havoids d (.head h hd)

-- By induction on the fuel: a run under the language ends like one under the other, if their steps
-- differ in keys only that the data under the first does not have.
theorem runWith_follows {ls : List Language} {keys : String → Prop}
    (hsteps : ∀ p : String → Bool, (∀ key, keys key → p key = false) →
      (ls[l']?.getD default).steps.filter (p ·.1) = (ls[l]?.getD default).steps.filter (p ·.1))
    (c : Call) (hls : c.world.languages = ls) (havoids : c.Avoids l keys) :
    Follows l l' (runWith c.fuel) c.language c.data c.scope c.world := by
  induction hn : c.fuel generalizing c with
  | zero =>
      intro b data' w' hab hdata hw
      exact ⟨rfl, hw⟩
  | succ n ih =>
      intro b data' w' hab hdata hw
      have hfollows : ∀ c', c.Starts c' → c'.fuel = n →
          Follows l l' (runWith n) c'.language c'.data c'.scope c'.world :=
        fun c' hc' hfuel => ih c' (hc'.languages.trans hls) (hc'.avoids havoids) hfuel
      have hopened : SwappedWorld l l' c.opened { w' with
          store := w'.store.push c.scope [(runnerName, .runner b c.world.store.size)] } := by
        refine ⟨hw.store.push _ (.single _ ?_), hw.languages, hw.evaluators, hw.shared⟩
        rcases hab with rfl | ⟨hl, rfl⟩
        · exact .refl _
        · rw [hl]
          exact .of_runner _
      have hlanguage : fireAll (runWith n) data' (w'.language b).steps =
          fireAll (runWith n) data' (c.world.language c.language).steps := by
        rw [hw.language_eq]
        rcases hab with rfl | ⟨hl, rfl⟩
        · rfl
        · apply fireAll_steps_eq
          unfold World.language
          rw [← hw.languages, hls, hl]
          apply hsteps
          intro key hkey
          have habsent := havoids c .refl hl key hkey
          rw [hdata.hasName_eq] at habsent
          unfold Value.mentions
          split
          · rename_i hpresent
            exact (habsent hpresent).elim
          · rfl
      rw [runWith_succ_apply, runWith_succ_apply, hlanguage, ← hw.store.size_eq]
      exact fireAll_alike hfollows (.start hn) hdata hopened

-- Running a program under an extended language is running it under the language, up to the language
-- of the runners: the same scope with alike values in sight, or the same failure. No data that the
-- run reads under the language may have a key that is fresh in the extended one.
theorem run_extend_alike (w : World) (l l' : Nat) (data : Value) (i : ScopeId)
    (keys grammar : Value)
    (aspects : List (Aspect ⊕ Value))
    (hdeclared : ∃ ks bk g as, Language.declare ks bk g as = .ok (w.language l))
    (hextend : (w.language l).extend keys grammar aspects = .ok (w.language l'))
    (hnew : ∀ es fs, (w.language l).grammar = .map es → grammar = .map fs →
      ∀ f ∈ fs, Value.find? es f.1 = none)
    (havoids : (Call.ofRun l data i w).Avoids l
      ((w.language l).Fresh (w.language l') aspects)) :
    match run l data i w, run l' data i w with
    | .ok j v, .ok j' v' =>
        j = j' ∧ List.Forall₂ (SwappedBindings l l') (v.store.view j) (v'.store.view j')
    | .error r _, .error r' _ => r = r'
    | _, _ => False := by
  have hfollows := runWith_follows
    (fun p hp => Language.filter_steps_extend hdeclared hextend hnew hp) (.ofRun l data i w) rfl
    havoids
  have halike := hfollows l' data w (.inr ⟨rfl, rfl⟩) (.refl data) (.refl w)
  change Alike l l' Eq (run l data i w) (run l' data i w) at halike
  cases hx : run l data i w <;> cases hy : run l' data i w <;> rw [hx, hy] at halike
  · obtain ⟨rfl, hv⟩ := halike
    exact ⟨rfl, hv.store.view _⟩
  · exact halike
  · exact halike
  · exact halike.1

namespace Sample

-- A language with one sequence, and its extension by a namespace.
def narrow : Language :=
  (Language.declare (["steps", "bind"].map .str) (.str "bind")
    (.object [("steps", .list [.str "sequence-of", .map []])]) []).toOption.getD default

def widening : Value := .object [("new", .str "namespace")]

def wide : Language :=
  (narrow.extend (.list [.str "new"]) widening []).toOption.getD default

-- A language that can leave its scope and run what it likes there.
def usher : Language :=
  (Language.declare (["pop", "sub", "let"].map .str) (.str "let") (.map [])
    [.inl ⟨"pop", ⟨1, some "pop", none, .pop⟩, true⟩,
      .inl ⟨"sub", ⟨2, some "sub", none, .sub⟩, true⟩]).toOption.getD default

def towns : World :=
  { World.empty with
    languages := [narrow, wide, usher]
    store := Store.empty.push none [] }

theorem narrow_declare : ∃ ks bk g as, Language.declare ks bk g as = .ok narrow :=
  ⟨["steps", "bind"].map .str, .str "bind",
    .object [("steps", .list [.str "sequence-of", .map []])], [], rfl⟩

theorem narrow_extend : narrow.extend (.list [.str "new"]) widening [] = .ok wide := rfl

-- A member that is no mapping.
def letter : Value := .object [("steps", .list [.str "a new one"])]

-- A member of the third language that runs a program in the scope it came from.
def detour : Value :=
  .object [("steps", .list [.program
    (.object [("pop", .int 0), ("sub", .object [("new", .int 1)])]) 2])]

-- No mapping in the data has the new key, and yet the runs differ: the text has it as a part, and
-- the program of the third language starts another one that has it.
theorem run_letter_not_alike :
    (∃ j v, run 0 letter 0 towns = .ok j v) ∧
    (∃ v, run 1 letter 0 towns = .error ⟨.kind (.textIndex .str), ["steps"], none⟩ v) ∧
    (∃ j v, run 0 detour 0 towns = .ok j v ∧
      (v.store.view j).map Bindings.names = [[runnerName], [runnerName], []]) ∧
    ∃ j v, run 1 detour 0 towns = .ok j v ∧
      (v.store.view j).map Bindings.names = [["@new"], [runnerName], [runnerName], []] := by
  refine ⟨⟨_, _, rfl⟩, ⟨_, rfl⟩, ⟨_, _, rfl, rfl⟩, _, _, rfl, rfl⟩

-- A member that binds the function it is run by.
def keepsake : Value := .object [("bind", .object [("x", .str "@runner")])]

def voyage : Value := .object [("steps", .list [keepsake])]

-- Calls on a voyage, which read nothing but the two mappings.
def Travels (c : Call) : Prop :=
  c.world.languages = towns.languages ∧ (c.data = voyage ∨ c.data = keepsake)

theorem subset_singleton {α : Type} {xs : List α} {x : α} (h : xs = [x] ∨ xs = []) :
    xs ⊆ [x] := by
  rcases h with rfl | rfl <;> simp

theorem voyage_steps (i : Nat) : (towns.language i).steps.filter (voyage.mentions ·.1) ⊆
    [("steps", .ofSequence 0 "steps")] := by
  match i with
  | 0 => exact subset_singleton (.inl rfl)
  | 1 => exact subset_singleton (.inl rfl)
  | 2 => exact subset_singleton (.inr rfl)
  | i + 3 => exact subset_singleton (.inr rfl)

theorem keepsake_steps (i : Nat) : (towns.language i).steps.filter (keepsake.mentions ·.1) ⊆
    [("bind", .ofBindingForm 0 "bind")] := by
  match i with
  | 0 => exact subset_singleton (.inl rfl)
  | 1 => exact subset_singleton (.inl rfl)
  | 2 => exact subset_singleton (.inr rfl)
  | i + 3 => exact subset_singleton (.inr rfl)

theorem Travels.step {c : Call} (h : Travels c) {n : Nat} {before : List (String × Aspect)}
    {key : String} {a : Aspect} {raw : Value} {j : ScopeId} {w : World}
    (hcomes : c.ComesTo n before key a raw j w) :
    a = .ofSequence 0 "steps" ∧ raw = .list [keepsake] ∨ a = .ofBindingForm 0 "bind" := by
  have hmem := hcomes.mem_steps
  have hlanguage : c.world.language c.language = towns.language c.language := by
    unfold World.language
    rw [h.1]
  rw [hlanguage] at hmem
  have hraw := hcomes.value
  rcases h.2 with hdata | hdata <;> rw [hdata] at hmem hraw
  · have hstep := voyage_steps _ hmem
    simp only [List.mem_singleton, Prod.mk.injEq] at hstep
    obtain ⟨rfl, rfl⟩ := hstep
    exact .inl ⟨rfl, Except.ok.inj (hraw.symm.trans rfl)⟩
  · have hstep := keepsake_steps _ hmem
    simp only [List.mem_singleton, Prod.mk.injEq] at hstep
    exact .inr hstep.2

theorem Travels.starts {c c' : Call} (h : Travels c) (hstarts : c.Starts c') : Travels c' := by
  refine ⟨hstarts.languages.trans h.1, .inr ?_⟩
  cases hstarts with
  | @member fuel key value m j j' v v' l k first rest performs found members done =>
      obtain ⟨before, key, a, raw, w, hcomes, haction, hvalue, rfl⟩ := performs
      rcases h.step hcomes with ⟨rfl, rfl⟩ | rfl
      · cases hvalue
        have hm : m ∈ first ++ m :: rest := by simp
        rw [← Except.ok.inj members, List.mem_singleton] at hm
        subst hm
        rfl
      · cases haction
  | sub performs found =>
      obtain ⟨before, key, a, raw, w, hcomes, haction, -, -⟩ := performs
      rcases h.step hcomes with ⟨rfl, -⟩ | rfl <;> cases haction

-- The only key that is new in the extended language.
theorem eq_of_fresh {key : String} (h : narrow.Fresh wide [] key) : key = "new" := by
  have hwide : Markers.ofGrammar wide.grammar =
      .ok [(.str "steps", .sequenceOf), (.str "new", .nameSpace)] := rfl
  have hnarrow : Markers.ofGrammar narrow.grammar = .ok [(.str "steps", .sequenceOf)] := rfl
  rcases h with ⟨⟨ms, hms, hmarks⟩, hnot⟩ | ⟨a, ha, -⟩
  · rw [hwide] at hms
    cases hms
    by_contra hkey
    refine hnot ⟨_, hnarrow, ?_⟩
    simpa [Markers.find?, Value.same, Value.equal, hkey] using hmarks
  · cases ha

theorem voyage_avoids : (Call.ofRun 0 voyage 0 towns).Avoids 0 (narrow.Fresh wide []) := by
  rintro c hreaches - key hkey
  have htravels : Travels c := by
    induction hreaches with
    | refl => exact ⟨rfl, .inl rfl⟩
    | tail _ hstep ih => exact ih.starts hstep
  rw [eq_of_fresh hkey]
  rcases htravels.2 with hdata | hdata <;> rw [hdata]
  · have hnot : voyage.hasName "new" = .ok false := rfl
    rw [hnot]
    simp
  · have hnot : keepsake.hasName "new" = .ok false := rfl
    rw [hnot]
    simp

theorem run_extend_alike_voyage :
    (Call.ofRun 0 voyage 0 towns).Avoids 0 (narrow.Fresh wide []) ∧
    ∃ v v', run 0 voyage 0 towns = .ok 3 v ∧ run 1 voyage 0 towns = .ok 3 v' ∧
      v.store.view 3 = [[("x", .runner 0 2)], [(runnerName, .runner 0 2)],
        [(runnerName, .runner 0 1)], []] ∧
      List.Forall₂ (SwappedBindings 0 1) (v.store.view 3) (v'.store.view 3) := by
  refine ⟨voyage_avoids, ?_⟩
  have hrun : ∃ v, run 0 voyage 0 towns = .ok 3 v ∧ v.store.view 3 = [[("x", .runner 0 2)],
      [(runnerName, .runner 0 2)], [(runnerName, .runner 0 1)], []] := ⟨_, rfl, rfl⟩
  obtain ⟨v, hv, hview⟩ := hrun
  have hnew : ∀ es fs, narrow.grammar = .map es → widening = .map fs →
      ∀ f ∈ fs, Value.find? es f.1 = none := by
    intro es fs hes hfs f hf
    have hgrammar : narrow.grammar =
        .map [(.str "steps", .list [.str "sequence-of", .map []])] := rfl
    rw [hgrammar] at hes
    cases hes
    cases hfs
    rw [List.mem_singleton.mp hf]
    rfl
  have h := run_extend_alike towns 0 1 voyage 0 (.list [.str "new"]) widening [] narrow_declare
    narrow_extend hnew voyage_avoids
  rw [hv] at h
  cases hrun' : run 1 voyage 0 towns with
  | error r v' =>
      rw [hrun'] at h
      exact h.elim
  | ok j v' =>
      rw [hrun'] at h
      obtain ⟨rfl, h⟩ := h
      exact ⟨v, v', hv, rfl, hview, h⟩

end Sample

end Dialect
