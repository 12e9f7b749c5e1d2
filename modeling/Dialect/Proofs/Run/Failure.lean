import Dialect.Proofs.Run.Languages

namespace Dialect

-- A language that was declared, with any explicit aspects.
def Language.IsDeclared (l : Language) : Prop :=
  ∃ keys bindingKey grammar aspects, declare keys bindingKey grammar aspects = .ok l

namespace World

-- The trail that the error object of a label carries; a new one carries none.
def carried (w : World) : Option String → List String
  | none => []
  | some label => ((w.shared? label).map (·.2)).getD []

theorem carried_of_shared {w w' : World} (h : w'.shared = w.shared) : w'.carried = w.carried := by
  funext label
  unfold carried shared?
  rw [h]

-- No error that cannot carry a trail carries one.
def Clean (w : World) : Prop :=
  ∀ label e trail, w.shared? label = some (e, trail) → e.category = .untraceable → trail = []

theorem shared?_keep (w : World) (label : String) (e : Error) (trail : List String) (l : String) :
    (w.keep label e trail).shared? l = if l = label then some (e, trail) else w.shared? l := by
  unfold keep shared?
  simp only []
  induction w.shared with
  | nil => by_cases h : l = label <;> simp [keepIn, h, Ne.symm]
  | cons head rest ih =>
      obtain ⟨m, x⟩ := head
      rw [keepIn]
      by_cases hm : m = label
      · subst hm
        by_cases hl : m = l
        · simp [hl]
        · simp [hl, Ne.symm hl]
      · by_cases hl : m = l
        · subst hl
          simp [hm]
        · simpa [hm, hl] using ih

theorem Clean.keep {w : World} (hw : w.Clean) {label : String} {e : Error} {trail : List String}
    (h : e.category = .untraceable → trail = []) : (w.keep label e trail).Clean := by
  intro l e' trail' hl he'
  rw [shared?_keep] at hl
  split at hl
  · cases hl
    exact h he'
  · exact hw l e' trail' hl he'

end World

-- Work that succeeds leaves the error objects alone, and an action that fails by itself fails with
-- the trail that its error object carried.
def Law.raising : Law where
  Done w w' := w'.shared = w.shared
  Failed w r _ := r.trail = w.carried r.label
  Usable _ _ := True
  aside _ _ h := h
  trans huv hvw := hvw.trans huv
  usable _ _ := trivial
  opened _ _ := ⟨rfl, trivial⟩
  bound _ _ := rfl
  provided _ _ := rfl
  up _ _ := trivial
  fresh _ _ := rfl
  again h := by simp [World.carried, h]
  made _ h := by simp [World.carried, h]
  after huv h := h.trans (congrFun (World.carried_of_shared huv) _)

-- The object of a failure that has one is kept with the trail of the failure, and errors that
-- cannot carry a trail carry none.
def Law.keeping : Law where
  __ := Law.raising
  Failed w r w' := (∀ label, r.label = some label → w'.shared? label = some (r.error, r.trail)) ∧
    (w.Clean → w'.Clean ∧ (r.error.category = .untraceable → r.trail = []))
  fresh _ _ := ⟨nofun, fun hw => ⟨hw, fun _ => rfl⟩⟩
  again {_ label _ _} h := by
    refine ⟨?_, fun hw => ⟨hw, hw label _ _ h⟩⟩
    rintro _ ⟨⟩
    exact h
  made {w label} e _ := by
    refine ⟨?_, fun hw => ⟨hw.keep fun _ => rfl, fun _ => rfl⟩⟩
    rintro _ ⟨⟩
    rw [World.shared?_keep, if_pos rfl]
  after huv h := by
    refine ⟨h.1, fun hu => h.2 ?_⟩
    unfold World.Clean World.shared? at hu ⊢
    rw [huv]
    exact hu

theorem Raised.error_through (key : String) (r : Raised) : (r.through key).error = r.error := by
  unfold through
  split <;> rfl

theorem Raised.trail_through (key : String) (r : Raised) :
    (r.through key).trail = if r.traceable then r.trail ++ [key] else r.trail := by
  unfold through
  split <;> rfl

theorem Law.keeping_marks : Law.keeping.Marks := by
  intro w w' r key h
  have hlabel := Raised.label_through key r
  have htrail : (r.through key).error.category = .untraceable → w.Clean →
      (r.through key).trail = [] := by
    intro hr hw
    rw [Raised.error_through] at hr
    rw [Raised.trail_through, if_neg (by simp [Raised.traceable, hr])]
    exact (h.2 hw).2 hr
  refine ⟨?_, fun hw => ⟨?_, fun hr => htrail hr hw⟩⟩
  · intro label hl
    rw [World.remember, hl]
    simp only [World.shared?_keep, if_true]
  · unfold World.remember
    cases (r.through key).label with
    | none => exact (h.2 hw).1
    | some label => exact (h.2 hw).1.keep fun hr => htrail hr hw

-- The runs that an action starts, each with how many have succeeded before it.
inductive Action.Calls (n : Nat) (value : Value) (j : ScopeId) (v : World) :
    Action → Nat → Call → Prop where
  -- a member of a sequence, once those before it have succeeded
  | member {key : String} {l m : Nat} {first rest : List Value} {sub : Value} {j' : ScopeId}
      {v' : World} (found : v.store.getD j runnerName .null = .ok (.runner l m))
      (members : value.members = .ok (first ++ sub :: rest))
      (done : (runWith n).callAll (.runner l m) first j v = .ok j' v') :
      Calls n value j v (.runSequence key) first.length
        ⟨n, (Program.target l sub).1, (Program.target l sub).2, j', v'⟩
  -- the value itself
  | sub {l m : Nat} (found : v.store.resolve j runnerName = .ok (.runner l m)) :
      Calls n value j v .sub 0 ⟨n, (Program.target l value).1, (Program.target l value).2, j, v⟩

namespace Call

-- How the run of a call ends.
def result (c : Call) : EStateM.Result Raised World ScopeId :=
  runWith c.fuel c.language c.data c.scope c.world

-- A step of the call starts the run of another one, after so many that have succeeded.
def Begins (c : Call) (key : String) (k : Nat) (c' : Call) : Prop :=
  ∃ n before a raw value j w, c.ComesTo n before key a raw j w ∧ handed a raw j w = .ok value ∧
    Action.Calls n value j (a.handler.noted value j w) a.handler.action k c'

-- The call starts the run of a member of what stands at a sequence key of its language.
def Member (c : Call) (key : String) (k : Nat) (c' : Call) : Prop :=
  ∃ n before raw j w, c.ComesTo n before key (.ofSequence 0 key) raw j w ∧
    Action.Calls n raw j w (.runSequence key) k c'

-- An explicit aspect of the language of the call starts a run by itself.
def Aided (c : Call) (key : String) (k : Nat) (c' : Call) : Prop :=
  ∃ n before a raw value j w, c.ComesTo n before key a raw j w ∧
    a ∈ (c.world.language c.language).explicit ∧ handed a raw j w = .ok value ∧
    Action.Calls n value j (a.handler.noted value j w) a.handler.action k c'

-- In a declared language every run is started in one of these ways.
def Enters (c : Call) (key : String) (k : Nat) (c' : Call) : Prop :=
  c.Member key k c' ∨ c.Aided key k c'

-- The data cannot be read at a key before which no step has fired. Without fuel nothing is read.
inductive Unread (c : Call) : Raised → Prop where
  | spent (fuel : c.fuel = 0) : Unread c (.fresh .tooDeep)
  | key {n : Nat} {done rest : List (String × Aspect)} {key : String} {a : Aspect} {e : Error}
      (stands : c.Stands n done ((key, a) :: rest) c.world.store.size c.opened)
      (absent : ∀ step ∈ done, c.data.hasName step.1 = .ok false)
      (unreadable : c.data.hasName key = .error e ∨
        c.data.hasName key = .ok true ∧ c.data.atName key = .error e) : Unread c (.fresh e)

-- A step fails by itself: its value cannot be resolved, or its aspect fails without starting a run.
inductive Breaks (n : Nat) (a : Aspect) (raw : Value) (j : ScopeId) (w : World) :
    Raised → Prop where
  | resolving {e : Error} (unresolved : handed a raw j w = .error e) : Breaks n a raw j w (.fresh e)
  | applying {value : Value} {r : Raised} {w' : World} (resolved : handed a raw j w = .ok value)
      (raises : a.apply (runWith n) value j w = .error r w')
      (alone : ∀ k c', ¬Action.Calls n value j (a.handler.noted value j w) a.handler.action k c') :
      Breaks n a raw j w r

-- A call fails at the end of a path, with a failure that nothing has been marked on yet. The path
-- tells the key of each step that leads there and how many runs the step had completed; `E` says
-- how a call enters another one.
inductive Fails (E : Call → String → Nat → Call → Prop) :
    Call → List (String × Nat) → Raised → Prop where
  | unread {c : Call} {r : Raised} (unread : c.Unread r) : Fails E c [] r
  | own {c : Call} {n : Nat} {before : List (String × Aspect)} {key : String} {a : Aspect}
      {raw : Value} {j : ScopeId} {w : World} {r : Raised}
      (comes : c.ComesTo n before key a raw j w) (breaks : Breaks n a raw j w r) :
      Fails E c [(key, 0)] r
  | within {c c' : Call} {key : String} {k : Nat} {path : List (String × Nat)} {r r' : Raised}
      {w' : World} (enters : E c key k c') (raises : c'.result = .error r' w')
      (fails : Fails E c' path r) : Fails E c ((key, k) :: path) r

end Call

-- The failure after it has left the steps of a path, the innermost first.
def Raised.along (path : List (String × Nat)) (r : Raised) : Raised :=
  path.foldr (fun step r => r.through step.1) r

namespace Raised

theorem error_along (path : List (String × Nat)) (r : Raised) : (r.along path).error = r.error := by
  induction path with
  | nil => rfl
  | cons step path ih => exact (error_through step.1 _).trans ih

theorem label_along (path : List (String × Nat)) (r : Raised) : (r.along path).label = r.label := by
  induction path with
  | nil => rfl
  | cons step path ih => exact (label_through step.1 _).trans ih

-- Every key of the path is marked once, unless nothing can be marked.
theorem trail_along (path : List (String × Nat)) (r : Raised) :
    (r.along path).trail =
      if r.traceable then r.trail ++ (path.map (·.1)).reverse else r.trail := by
  induction path with
  | nil => simp [along]
  | cons step path ih =>
      have hcons : r.along (step :: path) = (r.along path).through step.1 := rfl
      have htraceable : (r.along path).traceable = r.traceable := by
        unfold traceable
        rw [error_along]
      rw [hcons, trail_through, htraceable, ih]
      split <;> simp

end Raised

-- Data that can be read at one name can be read at every name that it has.
theorem Value.readable {data raw : Value} {key : String} (h : data.atName key = .ok raw)
    (k : String) : data.hasName k = .ok false ∨
      data.hasName k = .ok true ∧ ∃ x, data.atName k = .ok x := by
  cases data <;> simp only [atName, reduceCtorEq] at h
  rename_i es
  simp only [hasName, atName]
  cases find? es (str k) <;> simp

-- Steps that have succeeded were all absent, or the data can be read.
theorem absent_or_readable {run : Runner} {data : Value} {done : List (String × Aspect)}
    {j j' : ScopeId} {w w' : World} (h : fireAll run data done j w = .ok j' w') :
    ((∀ step ∈ done, data.hasName step.1 = .ok false) ∧ j' = j ∧ w' = w) ∨
      ∃ key raw, data.atName key = .ok raw := by
  induction done generalizing j w with
  | nil =>
      cases h
      exact .inl ⟨by simp, rfl, rfl⟩
  | cons step done ih =>
      obtain ⟨key, a⟩ := step
      rcases fireAll_cons_eq_ok h with ⟨habsent, hrest⟩ | ⟨-, raw, -, -, hraw, -, -⟩
      · rcases ih hrest with ⟨hall, rfl, rfl⟩ | hread
        · exact .inl ⟨by simpa [habsent] using hall, rfl, rfl⟩
        · exact .inr hread
      · exact .inr ⟨key, raw, hraw⟩

namespace Call

variable {c : Call} {n : Nat} {done rest : List (String × Aspect)} {key : String} {a : Aspect}
  {j : ScopeId} {w w' : World}

-- A call ends as the walk through the steps that are left does.
theorem Stands.result_eq (h : c.Stands n done rest j w) :
    c.result = fireAll (runWith n) c.data rest j w := by
  unfold result
  have hfired := h.fired
  unfold opened at hfired
  rw [h.fuel, runWith_succ_apply, h.steps, fireAll_append_apply, hfired]

-- A key that cannot be read is the first one that would have been.
theorem Stands.unread (h : c.Stands n done ((key, a) :: rest) j w) {e : Error}
    (hkey : c.data.hasName key = .error e ∨
      c.data.hasName key = .ok true ∧ c.data.atName key = .error e) : c.Unread (.fresh e) := by
  rcases absent_or_readable h.fired with ⟨habsent, rfl, rfl⟩ | ⟨k, raw, hraw⟩
  · exact .key h habsent hkey
  · exfalso
    rcases hkey with hname | ⟨hname, hvalue⟩ <;>
      rcases Value.readable hraw key with hk | ⟨hk, x, hx⟩
    · rw [hname] at hk
      cases hk
    · rw [hname] at hk
      cases hk
    · rw [hname] at hk
      cases hk
    · rw [hvalue] at hx
      cases hx

-- What a step that comes to fire fails with, before it is marked with its key.
def Attempt (n : Nat) (a : Aspect) (raw : Value) (j : ScopeId) (w : World) (r : Raised) : Prop :=
  (∃ e, handed a raw j w = .error e ∧ r = .fresh e) ∨
    ∃ value w', handed a raw j w = .ok value ∧ a.apply (runWith n) value j w = .error r w'

theorem ComesTo.attempt {raw : Value} (h : c.ComesTo n done key a raw j w) {r : Raised}
    (hfire : fireAt (runWith n) key a c.data j w = .error r w') :
    ∃ r', Attempt n a raw j w r' ∧ r = r'.through key := by
  rw [fireAt_handed _ a h.value] at hfire
  cases hvalue : handed a raw j w with
  | error e =>
      rw [hvalue] at hfire
      cases hfire
      exact ⟨.fresh e, .inl ⟨e, hvalue, rfl⟩, rfl⟩
  | ok value =>
      simp only [hvalue, Engine.under_apply] at hfire
      cases happly : a.apply (runWith n) value j w with
      | ok i v => simp only [happly, reduceCtorEq] at hfire
      | error r' v =>
          simp only [happly] at hfire
          cases hfire
          exact ⟨r', .inr ⟨value, v, hvalue, happly⟩, rfl⟩

-- By induction on the steps that are left: the first one that fails is the one that fires last.
theorem Stands.fails (h : c.Stands n done rest j w) {r : Raised}
    (hfire : fireAll (runWith n) c.data rest j w = .error r w') :
    c.Unread r ∨ ∃ before key a raw j₁ w₁ r', c.ComesTo n before key a raw j₁ w₁ ∧
      Attempt n a raw j₁ w₁ r' ∧ r = r'.through key := by
  induction rest generalizing done j w with
  | nil => cases hfire
  | cons step rest ih =>
      obtain ⟨key, a⟩ := step
      rw [fireAll_cons_apply] at hfire
      cases hpresent : c.data.hasName key with
      | error e =>
          rw [hpresent] at hfire
          cases hfire
          exact .inl (h.unread (.inl hpresent))
      | ok present =>
          rw [hpresent] at hfire
          cases present with
          | false => exact ih (h.skip hpresent) hfire
          | true =>
              cases hraw : c.data.atName key with
              | error e =>
                  simp only [fireAt_apply, hraw] at hfire
                  cases hfire
                  exact .inl (h.unread (.inr ⟨hpresent, hraw⟩))
              | ok raw =>
                  cases hat : fireAt (runWith n) key a c.data j w with
                  | ok j₁ w₁ =>
                      simp only [hat] at hfire
                      exact ih (h.next hpresent hat) hfire
                  | error r₁ w₁ =>
                      simp only [hat] at hfire
                      cases hfire
                      have hcomes : c.ComesTo n done key a raw j w := ⟨⟨rest, h⟩, hpresent, hraw⟩
                      obtain ⟨r', hattempt, hr⟩ := hcomes.attempt hat
                      exact .inr ⟨done, key, a, raw, j, w, r', hcomes, hattempt, hr⟩

end Call

-- Members fail with the first of them that fails.
theorem callAll_eq_error {run : Runner} {l m : Nat} {ms : List Value} {j : ScopeId} {v v' : World}
    {r : Raised} (h : run.callAll (.runner l m) ms j v = .error r v') :
    ∃ first sub rest j₁ v₁, ms = first ++ sub :: rest ∧
      run.callAll (.runner l m) first j v = .ok j₁ v₁ ∧
      run (Program.target l sub).1 (Program.target l sub).2 j₁ v₁ = .error r v' := by
  induction ms generalizing j v with
  | nil => cases h
  | cons sub ms ih =>
      rw [callAll_cons_apply, Runner.call_runner] at h
      cases hrun : run (Program.target l sub).1 (Program.target l sub).2 j v with
      | error r₁ v₁ =>
          simp only [hrun] at h
          cases h
          exact ⟨[], sub, ms, j, v, rfl, rfl, hrun⟩
      | ok j₁ v₁ =>
          simp only [hrun] at h
          obtain ⟨first, x, rest, j₂, v₂, rfl, hfirst, hx⟩ := ih h
          refine ⟨sub :: first, x, rest, j₂, v₂, rfl, ?_, hx⟩
          rw [callAll_cons_apply, Runner.call_runner, hrun]
          exact hfirst

-- What is no function for sub-programs fails when it is called.
theorem call_of_not_runner (run : Runner) {f : Value} (hf : ∀ l m, f ≠ .runner l m) (sub : Value)
    (j : ScopeId) (v : World) : ∃ e, run.call f sub j v = .error (.fresh e) v := by
  cases f
  case runner l m => exact (hf l m rfl).elim
  all_goals exact ⟨_, rfl⟩

theorem callAll_of_not_runner {run : Runner} {f : Value} (hf : ∀ l m, f ≠ .runner l m)
    {ms : List Value} {j : ScopeId} {v v' : World} {r : Raised}
    (h : run.callAll f ms j v = .error r v') : ∃ e, r = .fresh e := by
  cases ms with
  | nil => cases h
  | cons sub ms =>
      obtain ⟨e, he⟩ := call_of_not_runner run hf sub j v
      rw [callAll_cons_apply, he] at h
      cases h
      exact ⟨e, rfl⟩

-- An action that fails has started no run, or fails with the run that it started last.
def Action.FailsBy (n : Nat) (value : Value) (j : ScopeId) (v : World) (action : Action)
    (r : Raised) : Prop :=
  ((∀ k c', ¬Calls n value j v action k c') ∧ r.trail = v.carried r.label) ∨
    ∃ k c' v', Calls n value j v action k c' ∧ c'.result = .error r v'

namespace Action

variable {n : Nat} {value : Value} {j : ScopeId} {v v' : World} {r : Raised}

theorem failsBy_runSequence {key : String}
    (h : (runSequence key).perform (runWith n) value j v = .error r v') :
    FailsBy n value j v (.runSequence key) r := by
  rw [perform_runSequence] at h
  split at h
  · rename_i e hget
    cases h
    refine .inl ⟨?_, rfl⟩
    rintro k c' ⟨found, -, -⟩
    rw [hget] at found
    cases found
  · rename_i hget
    cases h
    refine .inl ⟨?_, rfl⟩
    rintro k c' ⟨found, -, -⟩
    rw [hget] at found
    cases found
  · rename_i f _ hget
    split at h
    · rename_i e hms
      cases h
      refine .inl ⟨?_, rfl⟩
      rintro k c' ⟨-, members, -⟩
      rw [hms] at members
      cases members
    · rename_i ms hms
      split at h
      · cases h
      · rename_i hall
        cases h
        by_cases hrunner : ∃ l m, f = .runner l m
        · obtain ⟨l, m, rfl⟩ := hrunner
          obtain ⟨first, sub, rest, j₁, v₁, rfl, hfirst, hsub⟩ := callAll_eq_error hall
          exact .inr ⟨_, _, _, .member hget hms hfirst, hsub⟩
        · obtain ⟨e, rfl⟩ := callAll_of_not_runner (fun l m hf => hrunner ⟨l, m, hf⟩) hall
          refine .inl ⟨?_, rfl⟩
          rintro k c' ⟨found, -, -⟩
          rw [hget] at found
          cases found
          exact hrunner ⟨_, _, rfl⟩

theorem failsBy_sub (h : sub.perform (runWith n) value j v = .error r v') :
    FailsBy n value j v .sub r := by
  rw [perform_sub] at h
  split at h
  · rename_i e hfound
    cases h
    refine .inl ⟨?_, rfl⟩
    intro k c' hcalls
    cases hcalls with
    | sub found =>
        rw [hfound] at found
        cases found
  · rename_i f hfound
    split at h
    · cases h
    · rename_i hcall
      cases h
      by_cases hrunner : ∃ l m, f = .runner l m
      · obtain ⟨l, m, rfl⟩ := hrunner
        rw [Runner.call_runner] at hcall
        exact .inr ⟨_, _, _, .sub hfound, hcall⟩
      · obtain ⟨e, he⟩ :=
          call_of_not_runner (runWith n) (fun l m hf => hrunner ⟨l, m, hf⟩) value j v
        rw [he] at hcall
        cases hcall
        refine .inl ⟨?_, rfl⟩
        intro k c' hcalls
        cases hcalls with
        | sub found =>
            rw [hfound] at found
            cases found
            exact hrunner ⟨_, _, rfl⟩

-- The other actions do the same whatever runs programs, so they fail as if nothing did.
theorem trail_of_idle {action : Action} (hseq : ∀ key, action ≠ .runSequence key)
    (hsub : action ≠ .sub) (h : action.perform (runWith n) value j v = .error r v') :
    r.trail = v.carried r.label := by
  let idle : Runner := fun _ _ _ => Engine.fail .tooDeep
  have hperform : action.perform (runWith n) value j = action.perform idle value j := by
    cases action
    case runSequence key => exact (hseq key rfl).elim
    case sub => exact (hsub rfl).elim
    all_goals rfl
  have hidle (l : Nat) (data : Value) (i : ScopeId) :
      Law.raising.Obeys i (idle l data i) fun j w => Law.raising.Usable w j := Law.obeys_fail _
  rw [hperform] at h
  exact (Law.obeys_perform hidle value j action).of_error trivial h

theorem failsBy {action : Action} (h : action.perform (runWith n) value j v = .error r v') :
    FailsBy n value j v action r := by
  cases action
  case runSequence key => exact failsBy_runSequence h
  case sub => exact failsBy_sub h
  all_goals exact .inl ⟨nofun, trail_of_idle (by simp) (by simp) h⟩

theorem Calls.fuel_eq {action : Action} {k : Nat} {c' : Call}
    (h : Calls n value j v action k c') : c'.fuel = n := by
  cases h <;> rfl

-- An action that starts runs gives a scope, if it gives anything.
theorem Calls.gives_scope {action : Action} {k : Nat} {c' : Call}
    (h : Calls n value j v action k c') {x : Except Kind ScopeId}
    (hx : action.perform (runWith n) value j v = .ok x v') :
    ∃ i, x = .ok i := by
  cases h with
  | member found members _ =>
      simp only [perform_runSequence, found, members] at hx
      split at hx <;> cases hx
      exact ⟨_, rfl⟩
  | sub found =>
      simp only [perform_sub, found] at hx
      split at hx <;> cases hx
      exact ⟨_, rfl⟩

end Action

theorem World.carried_noted (w : World) (h : Handler) (value : Value) (j : ScopeId) :
    (h.noted value j w).carried = w.carried := by
  apply carried_of_shared
  unfold Handler.noted
  cases h.journal <;> rfl

theorem Aspect.failsBy {n : Nat} {a : Aspect} {value : Value} {j : ScopeId} {w w' : World}
    {r : Raised} (h : a.apply (runWith n) value j w = .error r w') :
    a.handler.action.FailsBy n value j (a.handler.noted value j w) r := by
  rw [apply_noted] at h
  split at h
  · cases h
  · rename_i hgives
    cases h
    refine .inl ⟨?_, rfl⟩
    intro k c' hcalls
    obtain ⟨i, hi⟩ := hcalls.gives_scope hgives
    cases hi
  · rename_i hfails
    cases h
    exact Action.failsBy hfails

theorem Language.IsDeclared.synthetic_or_explicit {l : Language} (h : l.IsDeclared) {key : String}
    {a : Aspect} (hstep : (key, a) ∈ l.steps) : a.Synthetic key ∨ a ∈ l.explicit := by
  obtain ⟨keys, bindingKey, grammar, aspects, hl⟩ := h
  obtain ⟨ms, ns, bs, ss, hd⟩ := declare_eq_ok hl
  exact hd.synthetic_or_explicit hstep

namespace World

-- The languages of a world were declared.
def Declared (w : World) : Prop := ∀ l ∈ w.languages, l.IsDeclared

-- A number that no language has stands for one with a single, synthetic step.
theorem Declared.synthetic_or_explicit {w : World} (hw : w.Declared) {l : Nat} {key : String}
    {a : Aspect} (hstep : (key, a) ∈ (w.language l).steps) :
    a.Synthetic key ∨ a ∈ (w.language l).explicit := by
  unfold language at hstep ⊢
  cases hl : w.languages[l]? with
  | some language =>
      rw [hl] at hstep
      exact (hw language (List.mem_of_getElem? hl)).synthetic_or_explicit hstep
  | none =>
      rw [hl] at hstep
      have hsteps : (default : Language).steps = [("", .ofBindingForm 0 "")] := rfl
      rw [Option.getD_none, hsteps, List.mem_singleton] at hstep
      cases hstep
      exact .inl .bindingForm

end World

namespace Call

variable {c c' : Call} {n : Nat} {before : List (String × Aspect)} {key : String} {a : Aspect}
  {raw value : Value} {j : ScopeId} {w : World} {k : Nat}

theorem Begins.starts (h : c.Begins key k c') : c.Starts c' := by
  obtain ⟨n, before, a, raw, value, j, w, hcomes, hvalue, hcalls⟩ := h
  have hperforms : c.Performs n a.handler.action value j (a.handler.noted value j w) :=
    ⟨before, key, a, raw, w, hcomes, rfl, hvalue, rfl⟩
  revert hcalls hperforms
  generalize a.handler.action = action
  intro hcalls hperforms
  cases hcalls with
  | member found members done => exact .member hperforms found members done
  | sub found => exact .sub hperforms found

theorem Member.begins (h : c.Member key k c') : c.Begins key k c' := by
  obtain ⟨n, before, raw, j, w, hcomes, hcalls⟩ := h
  exact ⟨n, before, _, raw, raw, j, w, hcomes, rfl, hcalls⟩

-- If a member fails, so does the call that has started it.
theorem Member.raises (h : c.Member key k c') {r : Raised} {w' : World}
    (hraises : c'.result = .error r w') :
    c.result = .error (r.through key) (w'.remember (r.through key)) := by
  obtain ⟨n, before, raw, j, w, hcomes, hcalls⟩ := h
  obtain ⟨after, hstands⟩ := hcomes.stands
  rw [hstands.result_eq, fireAll_cons_apply, hcomes.present]
  simp only [fireAt_handed _ _ hcomes.value]
  cases hcalls with
  | @member _ l m first rest sub j₁ w₁ found members done =>
      have happly : (Aspect.ofSequence 0 key).apply (runWith n) raw j w = .error r w' := by
        unfold result at hraises
        simp only [apply_sequence found, members, callAll_append_apply, done, callAll_cons_apply,
          Runner.call_runner, hraises]
      have hhanded : handed (.ofSequence 0 key) raw j w = .ok raw := rfl
      simp only [hhanded, Engine.under_apply, happly]

-- A run is started by a sequence key of the language, or by one of its explicit aspects.
theorem Begins.enters (h : c.Begins key k c') (hw : c.world.Declared) : c.Enters key k c' := by
  obtain ⟨n, before, a, raw, value, j, w, hcomes, hvalue, hcalls⟩ := h
  have hstep : (key, a) ∈ (c.world.language c.language).steps :=
    List.mem_of_mem_filter hcomes.mem_steps
  rcases hw.synthetic_or_explicit hstep with hsynthetic | hexplicit
  · cases hsynthetic with
    | nameSpace => cases hcalls
    | bindingForm => cases hcalls
    | sequence =>
        cases hvalue
        exact .inl ⟨n, before, raw, j, w, hcomes, hcalls⟩
  · exact .inr ⟨n, before, a, raw, value, j, w, hcomes, hexplicit, hvalue, hcalls⟩

theorem Fails.enters {path : List (String × Nat)} {r : Raised} (h : Fails Begins c path r)
    (hw : c.world.Declared) : Fails Enters c path r := by
  induction h with
  | unread unread => exact .unread unread
  | own comes breaks => exact .own comes breaks
  | @within c c' key k path r r' w' begins raises fails ih =>
      refine .within (begins.enters hw) raises (ih ?_)
      unfold World.Declared
      rw [begins.starts.languages]
      exact hw

-- By induction on the fuel, which every run within the run has less of. At each level the steps
-- before the failing one and the members before the failing one have succeeded, so the error
-- objects are those of the start.
theorem exists_fails (c : Call) {r : Raised} {w' : World} (h : c.result = .error r w') :
    ∃ path r₀, Fails Begins c path r₀ ∧ r = r₀.along path ∧
      r₀.trail = c.world.carried r₀.label := by
  induction hfuel : c.fuel generalizing c r w' with
  | zero =>
      have hunread : c.Unread (.fresh .tooDeep) := .spent hfuel
      unfold result at h
      rw [hfuel] at h
      cases h
      exact ⟨[], _, .unread hunread, rfl, rfl⟩
  | succ n ih =>
      unfold result at h
      rw [hfuel, runWith_succ_apply] at h
      rcases (Stands.start hfuel).fails h with
        hunread | ⟨before, key, a, raw, j, w, r', hcomes, hattempt, rfl⟩
      · refine ⟨[], r, .unread hunread, rfl, ?_⟩
        cases hunread <;> rfl
      · rcases hattempt with ⟨e, hvalue, rfl⟩ | ⟨value, u, hvalue, happly⟩
        · exact ⟨[(key, 0)], .fresh e, .own hcomes (.resolving hvalue), rfl, rfl⟩
        · rcases Aspect.failsBy happly with ⟨halone, htrail⟩ | ⟨k, c', u', hcalls, hresult⟩
          · refine ⟨[(key, 0)], r', .own hcomes (.applying hvalue happly halone), rfl, ?_⟩
            obtain ⟨after, hstands⟩ := hcomes.stands
            have hcarried : w.carried = c.world.carried :=
              World.carried_of_shared (Law.keeping_marks.stands trivial hstands).1
            rw [htrail, World.carried_noted, hcarried]
          · have hbegins : c.Begins key k c' :=
              ⟨n, before, a, raw, value, j, w, hcomes, hvalue, hcalls⟩
            obtain ⟨path, r₀, hfails, rfl, htrail⟩ := ih c' hresult hcalls.fuel_eq
            have hcarried : c'.world.carried = c.world.carried :=
              World.carried_of_shared (Law.keeping_marks.starts trivial hbegins.starts).1
            refine ⟨(key, k) :: path, r₀, .within hbegins hresult hfails, rfl, ?_⟩
            rw [htrail, hcarried]

end Call

-- The trail of a failure is what its error object carried before the run, and then the keys of the
-- failing path, the innermost first. An error that cannot carry a trail gets none. An error object
-- that is kept carries the trail afterwards.
theorem run_trail_eq_failing_path {w : World} (hw : w.Declared) {l : Nat} {data : Value}
    {i : ScopeId} {r : Raised} {w' : World} (h : run l data i w = .error r w') :
    ∃ path r₀, (Call.ofRun l data i w).Fails Call.Enters path r₀ ∧
      r₀.error = r.error ∧ r₀.label = r.label ∧ r₀.trail = w.carried r.label ∧
      (r.traceable → r.trail = w.carried r.label ++ (path.map (·.1)).reverse) ∧
      (¬r.traceable → r.trail = w.carried r.label ∧ (w.Clean → r.trail = [])) ∧
      (w.Clean → w'.Clean) ∧
      ∀ label, r.label = some label → w'.shared? label = some (r.error, r.trail) := by
  obtain ⟨path, r₀, hfails, rfl, htrail⟩ := (Call.ofRun l data i w).exists_fails h
  have hkeeping : Law.keeping.Failed w (r₀.along path) w' :=
    (Law.keeping_marks.obeys_runWith _ l data i).of_error trivial h
  have herror := Raised.error_along path r₀
  have hlabel := Raised.label_along path r₀
  have htraceable : (r₀.along path).traceable = r₀.traceable := by
    unfold Raised.traceable
    rw [herror]
  change r₀.trail = w.carried r₀.label at htrail
  rw [← hlabel] at htrail
  refine ⟨path, r₀, hfails.enters hw, herror.symm, hlabel.symm, htrail, ?_, ?_, fun hclean =>
    (hkeeping.2 hclean).1, hkeeping.1⟩
  · intro hr
    rw [Raised.trail_along, if_pos (htraceable ▸ hr), htrail]
  · intro hr
    refine ⟨?_, fun hclean => (hkeeping.2 hclean).2 ?_⟩
    · rw [Raised.trail_along, if_neg (htraceable ▸ hr), htrail]
    · simpa [Raised.traceable] using hr

namespace Sample

-- A language with a sequence, and one with explicit aspects that run their value and that fail.
def stages : Language :=
  (Language.declare (["steps", "bind"].map .str) (.str "bind")
    (.object [("steps", .list [.str "sequence-of", .map []])]) []).toOption.getD default

def courier : Language :=
  (Language.declare (["go", "zap", "let"].map .str) (.str "let") (.map []) [
    .inl ⟨"go", ⟨1, some "sub", none, .sub⟩, true⟩,
    .inl ⟨"zap", ⟨2, some "raise", none, .fail .value [.str "boom"] none⟩, true⟩]).toOption.getD
      default

def depot : World :=
  { World.empty with languages := [stages, courier], store := Store.empty.push none [] }

-- An empty program, and one of the other language that runs a program of its own.
def errand : Value :=
  .object [("steps", .list [.map [], .program (.object [("go", .object [("zap", .int 1)])]) 1])]

theorem run_errand : ∃ w', run 0 errand 0 depot =
    .error ⟨.raised .value [.str "boom"], ["zap", "go", "steps"], none⟩ w' := ⟨_, rfl⟩

theorem depot_declared : depot.Declared := by
  have hdeclared {keys : List Value} {bindingKey grammar : Value} {aspects : List (Aspect ⊕ Value)}
      (h : (Language.declare keys bindingKey grammar aspects).isOk = true) :
      ((Language.declare keys bindingKey grammar aspects).toOption.getD default).IsDeclared := by
    cases hd : Language.declare keys bindingKey grammar aspects with
    | error e => rw [hd] at h; cases h
    | ok l => exact ⟨keys, bindingKey, grammar, aspects, hd⟩
  intro l hl
  have hcases : l = stages ∨ l = courier := by simpa [depot] using hl
  rcases hcases with rfl | rfl
  · exact hdeclared rfl
  · exact hdeclared rfl

-- The second member fails in a run that an explicit aspect has started.
theorem errand_failing_path : depot.Declared ∧
    ∃ r w' path r₀, run 0 errand 0 depot = .error r w' ∧
      (Call.ofRun 0 errand 0 depot).Fails Call.Enters path r₀ ∧
      path.map (·.1) = ["steps", "go", "zap"] := by
  obtain ⟨w', hrun⟩ := run_errand
  obtain ⟨path, r₀, hfails, -, -, -, htrail, -⟩ := run_trail_eq_failing_path depot_declared hrun
  refine ⟨depot_declared, _, w', path, r₀, hrun, hfails, ?_⟩
  have hreverse : ["zap", "go", "steps"] = (path.map (·.1)).reverse := htrail rfl
  rw [← List.reverse_reverse (path.map (·.1)), ← hreverse]
  rfl

-- No language of the world has a sequence under that key.
theorem depot_no_sequence (l : Nat) :
    ("go", Aspect.ofSequence 0 "go") ∉ (depot.language l).steps := by
  intro h
  have hname : some "sequence_of[go]" ∈
      ((depot.language l).steps.filter (·.1 == "go")).map (·.2.handler.name) :=
    List.mem_map.mpr ⟨_, List.mem_filter.mpr ⟨h, rfl⟩, rfl⟩
  have hsub : ((depot.language l).steps.filter (·.1 == "go")).map (·.2.handler.name) ⊆
      [some "sub"] := by
    rcases l with _ | _ | l
    · have hnone : ((depot.language 0).steps.filter (·.1 == "go")).map (·.2.handler.name) = [] := by
        rfl
      rw [hnone]
      exact List.nil_subset _
    · have hone : ((depot.language 1).steps.filter (·.1 == "go")).map (·.2.handler.name) =
          [some "sub"] := rfl
      rw [hone]
      exact List.Subset.refl _
    · exact List.nil_subset _
  simpa using hsub hname

-- Without the runs that explicit aspects start, the trail has no path: the first language has no
-- explicit aspects, but that of the second member has.
theorem errand_trail_not_by_members : (depot.language 0).explicit = [] ∧
    ∃ r w', run 0 errand 0 depot = .error r w' ∧ r.traceable ∧
      ¬∃ path r₀, (Call.ofRun 0 errand 0 depot).Fails Call.Member path r₀ ∧
        r.trail = depot.carried r.label ++ (path.map (·.1)).reverse := by
  obtain ⟨w', hrun⟩ := run_errand
  refine ⟨rfl, _, w', hrun, rfl, ?_⟩
  rintro ⟨path, r₀, hfails, htrail⟩
  have hreverse : ["zap", "go", "steps"] = (path.map (·.1)).reverse := htrail
  have hpath : path.map (·.1) = ["steps", "go", "zap"] := by
    rw [← List.reverse_reverse (path.map (·.1)), ← hreverse]
    rfl
  obtain ⟨⟨key, k⟩, rest, rfl, rfl, hrest⟩ := List.map_eq_cons_iff.mp hpath
  obtain ⟨⟨key', k'⟩, rest', rfl, rfl, hrest'⟩ := List.map_eq_cons_iff.mp hrest
  cases hfails with
  | @within c₀ c₁ key k path r r' w' enters raises fails =>
      have hlanguages : c₁.world.languages = depot.languages := enters.begins.starts.languages
      cases fails with
      | own comes breaks => cases hrest'
      | within enters' raises' fails' =>
          obtain ⟨n', before', raw', j', w', hcomes', -⟩ := enters'
          have hstep := List.mem_of_mem_filter hcomes'.mem_steps
          have hlanguage : c₁.world.language c₁.language = depot.language c₁.language := by
            unfold World.language
            rw [hlanguages]
          rw [hlanguage] at hstep
          exact depot_no_sequence _ hstep

end Sample

end Dialect
