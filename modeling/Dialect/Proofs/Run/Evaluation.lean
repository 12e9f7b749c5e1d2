import Dialect.Proofs.Language.Table
import Dialect.Proofs.Scope.View
import Dialect.Run.Act

namespace Dialect

-- A map of bindings in an evaluation and what has put it there.
inductive Layer where
  -- the start of a run under a language; the number tells its function apart
  | start (language number : Nat)
  -- a step that binds names
  | bound (b : Bindings)

def Layer.bindings : Layer → Bindings
  | start language number => [(runnerName, .runner language number)]
  | bound b => b

-- What an evaluation stands on: languages by number, the maps below, and how many scopes there are
-- already. Its state is a list of maps that only grows, and a failure leaves the maps that were
-- there.
structure Ground where
  languages : List Language
  below : View
  scopes : Nat

namespace Ground

def language (g : Ground) (i : Nat) : Language := g.languages[i]?.getD default

-- All maps that a step sees.
def view (g : Ground) (layers : List Layer) : View := layers.map Layer.bindings ++ g.below

end Ground

-- The language and the data of a member of a sequence; `language` is for members without their own.
def Program.target (language : Nat) : Value → Nat × Value
  | .program data own => (own, data)
  | member => (language, dataOf member)

theorem Runner.call_runner (run : Runner) (l n : Nat) (m : Value) (i : ScopeId) :
    run.call (.runner l n) m i =
      run (Program.target l m).1 (Program.target l m).2 i := by
  cases m <;> rfl

namespace Value

theorem depth_le_of_mem {v : Value} {vs : List Value} (h : v ∈ vs) : v.depth ≤ depthAll vs := by
  induction vs with
  | nil => cases h
  | cons x xs ih =>
      rw [depthAll]
      rcases List.mem_cons.mp h with rfl | h
      · exact Nat.le_max_left _ _
      · exact Nat.le_trans (ih h) (Nat.le_max_right _ _)

theorem depth_le_of_mem_entries {e : Value × Value} {es : List (Value × Value)} (h : e ∈ es) :
    e.1.depth ≤ depthEntries es ∧ e.2.depth ≤ depthEntries es := by
  induction es with
  | nil => cases h
  | cons x xs ih =>
      obtain ⟨k, v⟩ := x
      rw [depthEntries]
      rcases List.mem_cons.mp h with rfl | h
      · simp only []
        omega
      · have := ih h
        omega

-- What stands at a name is less deep than the mapping it stands in.
theorem depth_lt_of_atName {data raw : Value} {key : String} (h : data.atName key = .ok raw) :
    raw.depth < data.depth := by
  cases data <;> simp only [atName, reduceCtorEq] at h
  rename_i es
  cases hf : find? es (str key) with
  | none => simp only [hf, reduceCtorEq] at h
  | some x =>
      simp only [hf, Except.ok.injEq] at h
      subst h
      obtain ⟨e, he, rfl⟩ := Option.map_eq_some_iff.mp hf
      have := (depth_le_of_mem_entries (List.mem_of_find?_eq_some he)).2
      rw [depth]
      omega

-- A member is less deep than the value it is a member of, unless both are letters or numbers.
theorem depth_member {v m : Value} {ms : List Value} (h : v.members = .ok ms) (hm : m ∈ ms) :
    m.depth < v.depth ∨ m.depth = 0 ∧ m.kind ≠ .null := by
  cases v <;> simp only [members, members?, reduceCtorEq, Except.ok.injEq] at h
  case list xs =>
    subst h
    have := depth_le_of_mem hm
    rw [depth]
    omega
  case tuple xs =>
    subst h
    have := depth_le_of_mem hm
    rw [depth]
    omega
  case map es =>
    subst h
    obtain ⟨e, he, rfl⟩ := List.mem_map.mp hm
    have := (depth_le_of_mem_entries he).1
    rw [depth]
    omega
  case set xs =>
    subst h
    have := depth_le_of_mem hm
    rw [depth]
    omega
  case str s =>
    subst h
    obtain ⟨c, -, rfl⟩ := List.mem_map.mp hm
    exact .inr ⟨by simp [depth], by simp [kind]⟩
  case bytes bs =>
    subst h
    obtain ⟨b, -, rfl⟩ := List.mem_map.mp hm
    exact .inr ⟨by simp [depth], by simp [kind]⟩

end Value

-- A sub-program is less deep than the data it is a part of. Nothing at all becomes an empty
-- mapping, which still is less deep than the two containers around it.
theorem Program.depth_target_lt {data raw m : Value} {key : String} {ms : List Value}
    (hraw : data.atName key = .ok raw) (hms : raw.members = .ok ms) (hm : m ∈ ms)
    (language : Nat) : (target language m).2.depth < data.depth := by
  have hdata := Value.depth_lt_of_atName hraw
  have hmember := Value.depth_member hms hm
  cases m <;> simp only [target, dataOf, Value.depth, Value.depthEntries, Value.kind, ne_eq,
    not_true_eq_false, and_false, or_false] at hmember ⊢
  all_goals omega

-- Work on a growing list of maps.
abbrev Evaluation := EStateM Raised (List Layer)

namespace Evaluation

variable {α β : Type}

def fail (e : Error) : Evaluation α := throw (.fresh e)

def ofExcept (x : Except Error α) : Evaluation α :=
  match x with
  | .ok a => pure a
  | .error e => fail e

def push (layer : Layer) : Evaluation Unit := modify (layer :: ·)

-- A failure is marked with the key of the step that it leaves.
def under (key : String) (x : Evaluation α) : Evaluation α := fun layers =>
  match x layers with
  | .ok a layers' => .ok a layers'
  | .error r layers' => .error (r.through key) layers'

-- The members of a sequence from left to right; `run` evaluates data under a language.
def members (run : Nat → Value → Evaluation Unit) (language : Nat) : List Value → Evaluation Unit
  | [] => pure ()
  | m :: ms => do
    run (Program.target language m).1 (Program.target language m).2
    members run language ms

-- A sequence looks up once what runs its members: the language of the nearest start.
def sequence (g : Ground) (run : Nat → Value → Evaluation Unit) (key : String) (raw : Value) :
    Evaluation Unit := do
  match ← ofExcept (View.search (Path.parts runnerName) (g.view (← get))) with
  | some (.runner language _) => members run language (← ofExcept raw.members)
  | _ => fail (.missingRunner key)

-- What a step does with the value at its key. Only the synthetic actions have a meaning here.
def act (g : Ground) (run : Nat → Value → Evaluation Unit) (raw : Value) :
    Action → Evaluation Unit
  | .bindNamespace key => push (.bound [("@" ++ key, raw)])
  | .bindForm _ => do
    let value ← ofExcept (raw.substitute (View.resolve (g.view (← get))))
    push (.bound (← ofExcept (Bindings.add [] value)))
  | .runSequence key => sequence g run key raw
  | _ => pure ()

-- The steps of a language whose keys occur in the data.
def steps (g : Ground) (run : Nat → Value → Evaluation Unit) (data : Value) :
    List (String × Aspect) → Evaluation Unit
  | [] => pure ()
  | (key, a) :: rest => do
    if ← ofExcept (data.hasName key) then
      let raw ← ofExcept (data.atName key)
      under key (act g run raw a.handler.action)
    steps g run data rest

-- The layers that an evaluation has left, also if it failed.
def layers : EStateM.Result Raised (List Layer) α → List Layer
  | .ok _ s => s
  | .error _ s => s

end Evaluation

open Evaluation in
-- Evaluates data under a language. The members of a sequence are less deep than the data they
-- stand in, so the test never fails.
def evaluate (g : Ground) (language : Nat) (data : Value) : Evaluation Unit := do
  push (.start language (g.scopes + (← get).length))
  steps g (fun own sub => if sub.depth < data.depth then evaluate g own sub else fail .tooDeep)
    data (g.language language).steps
termination_by data.depth

namespace Evaluation

variable {α β : Type}

theorem bind_apply (x : Evaluation α) (f : α → Evaluation β) (s : List Layer) :
    (x >>= f) s = match x s with
      | .ok a s' => f a s'
      | .error r s' => .error r s' := by
  change EStateM.bind x f s = _
  unfold EStateM.bind
  cases x s <;> rfl

theorem ofExcept_apply (x : Except Error α) (s : List Layer) :
    ofExcept x s = match x with
      | .ok a => .ok a s
      | .error e => .error (.fresh e) s := by
  cases x <;> rfl

theorem under_apply (key : String) (x : Evaluation α) (s : List Layer) :
    under key x s = match x s with
      | .ok a s' => .ok a s'
      | .error r s' => .error (r.through key) s' := by
  unfold under
  cases x s <;> rfl

theorem members_cons_apply (run : Nat → Value → Evaluation Unit) (language : Nat) (m : Value)
    (ms : List Value) (s : List Layer) :
    members run language (m :: ms) s =
      match run (Program.target language m).1 (Program.target language m).2 s with
      | .ok _ s' => members run language ms s'
      | .error r s' => .error r s' := by
  rw [members, bind_apply]
  cases run _ _ s <;> rfl

theorem steps_cons_apply (g : Ground) (run : Nat → Value → Evaluation Unit) (data : Value)
    (key : String) (a : Aspect) (rest : List (String × Aspect)) (s : List Layer) :
    steps g run data ((key, a) :: rest) s = match data.hasName key with
      | .error e => .error (.fresh e) s
      | .ok false => steps g run data rest s
      | .ok true => match data.atName key with
        | .error e => .error (.fresh e) s
        | .ok raw => match under key (act g run raw a.handler.action) s with
          | .ok _ s' => steps g run data rest s'
          | .error r s' => .error r s' := by
  rw [steps, bind_apply, ofExcept_apply]
  cases data.hasName key with
  | error e => rfl
  | ok present =>
      cases present with
      | false => rfl
      | true =>
          cases data.atName key with
          | error e => rfl
          | ok raw =>
              change (under key (act g run raw a.handler.action) >>= fun _ =>
                steps g run data rest) s = _
              rw [bind_apply]
              simp only []
              cases under key (act g run raw a.handler.action) s <;> rfl

theorem act_bindForm_apply (g : Ground) (run : Nat → Value → Evaluation Unit) (raw : Value)
    (key : String) (s : List Layer) : act g run raw (.bindForm key) s =
      match raw.substitute (View.resolve (g.view s)) >>= Bindings.add [] with
      | .ok b => .ok () (.bound b :: s)
      | .error e => .error (.fresh e) s := by
  change (ofExcept (raw.substitute (View.resolve (g.view s))) >>= fun value =>
    ofExcept (Bindings.add [] value) >>= fun b => push (.bound b)) s = _
  rw [bind_apply, ofExcept_apply]
  cases raw.substitute (View.resolve (g.view s)) with
  | error e => rfl
  | ok value =>
      change (ofExcept (Bindings.add [] value) >>= fun b => push (.bound b)) s =
        match Bindings.add [] value with
        | .ok b => .ok () (.bound b :: s)
        | .error e => .error (.fresh e) s
      rw [bind_apply, ofExcept_apply]
      cases Bindings.add [] value <;> rfl

-- The members of a sequence run under the language that was found.
theorem act_runSequence_apply {g : Ground} {s : List Layer} {l n : Nat}
    (h : View.search (Path.parts runnerName) (g.view s) = .ok (some (.runner l n)))
    (run : Nat → Value → Evaluation Unit) (raw : Value) (key : String) :
    act g run raw (.runSequence key) s = match raw.members with
      | .ok ms => members run l ms s
      | .error e => .error (.fresh e) s := by
  change (ofExcept (View.search (Path.parts runnerName) (g.view s)) >>= fun found =>
    match found with
    | some (.runner language _) => ofExcept raw.members >>= members run language
    | _ => fail (.missingRunner key)) s = _
  rw [h, bind_apply, ofExcept_apply]
  change (ofExcept raw.members >>= members run l) s = _
  rw [bind_apply, ofExcept_apply]
  cases raw.members <;> rfl

-- Only the members of sequences are handed to `run`.
theorem members_congr {run run' : Nat → Value → Evaluation Unit} {language : Nat}
    {ms : List Value} (h : ∀ m ∈ ms, run (Program.target language m).1 (Program.target language m).2
      = run' (Program.target language m).1 (Program.target language m).2) :
    members run language ms = members run' language ms := by
  induction ms with
  | nil => rfl
  | cons m ms ih =>
      rw [members, members, ih fun x hx => h x (List.mem_cons_of_mem _ hx)]
      simp only [h m List.mem_cons_self]

theorem act_congr {g : Ground} {run run' : Nat → Value → Evaluation Unit} {raw : Value}
    (h : ∀ language ms, raw.members = .ok ms → members run language ms = members run' language ms)
    (action : Action) : act g run raw action = act g run' raw action := by
  cases action <;> try rfl
  rename_i key
  change sequence g run key raw = sequence g run' key raw
  unfold sequence
  congr 1
  funext layers
  congr 1
  funext found
  cases hm : raw.members with
  | error e => rfl
  | ok ms =>
      split
      · exact h _ ms hm
      · rfl

theorem steps_congr {g : Ground} {run run' : Nat → Value → Evaluation Unit} {data : Value}
    (h : ∀ own sub, sub.depth < data.depth → run own sub = run' own sub)
    (rest : List (String × Aspect)) : steps g run data rest = steps g run' data rest := by
  induction rest with
  | nil => rfl
  | cons step rest ih =>
      obtain ⟨key, a⟩ := step
      funext s
      rw [steps_cons_apply, steps_cons_apply, ih]
      cases hraw : data.atName key with
      | error e => rfl
      | ok raw =>
          have hact : act g run raw a.handler.action = act g run' raw a.handler.action := by
            apply act_congr
            intro language ms hms
            apply members_congr
            intro m hm
            exact h _ _ (Program.depth_target_lt hraw hms hm language)
          simp only [hact]

end Evaluation

open Evaluation in
theorem evaluate_eq (g : Ground) (language : Nat) (data : Value) :
    evaluate g language data = (do
      push (.start language (g.scopes + (← get).length))
      steps g (evaluate g) data (g.language language).steps) := by
  rw [evaluate]
  congr 1
  funext layers
  congr 1
  funext _
  apply steps_congr
  intro own sub hsub
  rw [if_pos hsub]

namespace Evaluation

variable {α β : Type}

-- Work that leaves all layers that were there in their places.
def Grows (x : Evaluation α) : Prop := ∀ s, s <:+ layers (x s)

theorem grows_ofExcept (x : Except Error α) : Grows (ofExcept x) := by
  intro s
  rw [ofExcept_apply]
  cases x <;> exact List.suffix_refl s

theorem grows_push (layer : Layer) : Grows (push layer) := fun s => List.suffix_cons layer s

theorem Grows.bind {x : Evaluation α} {f : α → Evaluation β} (hx : Grows x)
    (hf : ∀ a, Grows (f a)) : Grows (x >>= f) := by
  intro s
  have h := hx s
  rw [bind_apply]
  cases hs : x s with
  | ok a s' =>
      rw [hs] at h
      exact h.trans (hf a s')
  | error r s' =>
      rw [hs] at h
      exact h

theorem Grows.under {x : Evaluation α} (hx : Grows x) (key : String) : Grows (under key x) := by
  intro s
  have h := hx s
  rw [under_apply]
  cases hs : x s <;> rw [hs] at h <;> exact h

theorem grows_get : Grows (get : Evaluation (List Layer)) := fun s => List.suffix_refl s

theorem grows_pure (a : α) : Grows (pure a : Evaluation α) := fun s => List.suffix_refl s

section

variable {g : Ground} {run : Nat → Value → Evaluation Unit} (hrun : ∀ own sub, Grows (run own sub))
include hrun

theorem grows_members (language : Nat) (ms : List Value) : Grows (members run language ms) := by
  induction ms with
  | nil => exact grows_pure ()
  | cons m ms ih => exact (hrun _ _).bind fun _ => ih

theorem grows_act (raw : Value) (action : Action) : Grows (act g run raw action) := by
  cases action
  case bindNamespace key => exact grows_push _
  case bindForm key =>
    exact grows_get.bind fun _ => (grows_ofExcept _).bind fun _ =>
      (grows_ofExcept _).bind fun _ => grows_push _
  case runSequence key =>
    refine grows_get.bind fun s => (grows_ofExcept _).bind fun found => ?_
    split
    · exact (grows_ofExcept _).bind fun ms => grows_members hrun _ ms
    · exact grows_ofExcept (.error _)
  all_goals exact grows_pure ()

theorem grows_steps (data : Value) (rest : List (String × Aspect)) :
    Grows (steps g run data rest) := by
  induction rest with
  | nil => exact grows_pure ()
  | cons step rest ih =>
      refine (grows_ofExcept _).bind fun present => ?_
      cases present with
      | false => exact ih
      | true =>
          exact (grows_ofExcept _).bind fun raw =>
            ((grows_act hrun raw _).under _).bind fun _ => ih

end

end Evaluation

open Evaluation in
-- No map is lost or changed once it is there.
theorem grows_evaluate (g : Ground) (language : Nat) (data : Value) :
    Grows (evaluate g language data) := by
  induction hd : data.depth using Nat.strongRecOn generalizing language data with
  | ind d ih =>
      rw [evaluate]
      refine grows_get.bind fun s => (grows_push _).bind fun _ => grows_steps ?_ data _
      intro own sub
      split
      · rename_i hsub
        exact ih sub.depth (hd ▸ hsub) own sub rfl
      · exact grows_ofExcept (.error _)

end Dialect
