import Dialect.Pipeline.Language
import Mathlib.Data.List.Basic

namespace Dialect.Pipeline

-- A function of one item: it gives a value, drops the item or fails.
abbrev Step := Value → Except Error Value

section

variable {m : Type → Type} [Monad m] [LawfulMonad m]

-- An item goes through the first steps and, unless one of them drops it, through the others.
theorem through_append (s t : List (Value → m Value)) {item : Value}
    (h : isDropped item = false) :
    through (s ++ t) item =
      through s item >>= fun mid => if isDropped mid then pure mid else through t mid := by
  induction s generalizing item with
  | nil => simp [through, h]
  | cons step s ih =>
      simp only [List.cons_append, through, bind_assoc]
      refine bind_congr fun next => ?_
      cases hnext : isDropped next with
      | true => simp [hnext]
      | false => simpa using ih hnext

-- Items go through one after the other.
theorem throughAll_append_items (s : List (Value → m Value)) (xs ys : List Value) :
    throughAll s (xs ++ ys) = do return (← throughAll s xs) ++ (← throughAll s ys) := by
  induction xs with
  | nil => simp [throughAll]
  | cons x xs ih =>
      simp only [List.cons_append, throughAll, ih, bind_assoc, pure_bind]
      refine bind_congr fun out => bind_congr fun rest => bind_congr fun more => ?_
      cases isDropped out <;> simp

end

section

variable {s t : List Step} {item : Value} {items out : List Value}

theorem eq_error_iff {α : Type} {x : Except Error α} :
    (∃ e, x = .error e) ↔ ∀ a, x ≠ .ok a := by
  cases x <;> simp

theorem bind_eq_ok_iff {α β : Type} {x : Except Error α} {f : α → Except Error β} {b : β} :
    (x >>= f) = .ok b ↔ ∃ a, x = .ok a ∧ f a = .ok b := by
  cases x with
  | error e => simp [bind, Except.bind]
  | ok a => simp [bind, Except.bind]

theorem through_append_eq_ok_iff (h : isDropped item = false) {r : Value} :
    through (s ++ t) item = .ok r ↔ ∃ mid, through s item = .ok mid ∧
      if isDropped mid then r = mid else through t mid = .ok r := by
  rw [through_append s t h, bind_eq_ok_iff]
  refine exists_congr fun mid => and_congr_right fun _ => ?_
  cases isDropped mid with
  | true => simp [pure, Except.pure, eq_comm]
  | false => simp

theorem throughAll_cons_eq_ok_iff :
    throughAll s (item :: items) = .ok out ↔ ∃ r rest, through s item = .ok r ∧
      throughAll s items = .ok rest ∧ out = if isDropped r then rest else r :: rest := by
  simp only [throughAll, bind_eq_ok_iff, pure, Except.pure, Except.ok.injEq]
  constructor
  · rintro ⟨r, hr, rest, hrest, rfl⟩
    exact ⟨r, rest, hr, hrest, rfl⟩
  · rintro ⟨r, rest, hr, hrest, rfl⟩
    exact ⟨r, hr, rest, hrest, rfl⟩

-- What comes out is what the items become, one by one, without those that are dropped.
theorem throughAll_eq_ok_iff : throughAll s items = .ok out ↔
    ∃ results, List.Forall₂ (fun v r => through s v = .ok r) items results ∧
      out = results.filter fun r => !isDropped r := by
  induction items generalizing out with
  | nil =>
      constructor
      · rintro ⟨⟩
        exact ⟨[], .nil, rfl⟩
      · rintro ⟨_, ⟨⟩, rfl⟩
        rfl
  | cons item items ih =>
      rw [throughAll_cons_eq_ok_iff]
      constructor
      · rintro ⟨r, rest, hr, hrest, rfl⟩
        obtain ⟨results, hall, rfl⟩ := ih.mp hrest
        refine ⟨r :: results, .cons hr hall, ?_⟩
        cases hdropped : isDropped r <;> simp [hdropped]
      · rintro ⟨_, hall, rfl⟩
        cases hall with
        | @cons _ r _ results hr hall =>
            refine ⟨r, _, hr, ih.mpr ⟨results, hall, rfl⟩, ?_⟩
            cases hdropped : isDropped r <;> simp [hdropped]

-- By induction on the items: of one that the first steps drop nothing is left for the others.
theorem throughAll_append_eq_ok_iff (h : ∀ v ∈ items, isDropped v = false) :
    throughAll (s ++ t) items = .ok out ↔
      ∃ mid, throughAll s items = .ok mid ∧ throughAll t mid = .ok out := by
  induction items generalizing out with
  | nil => simp [throughAll, pure, Except.pure]
  | cons item items ih =>
      obtain ⟨hitem, hitems⟩ := List.forall_mem_cons.mp h
      rw [throughAll_cons_eq_ok_iff]
      constructor
      · rintro ⟨r, rest, hr, hrest, rfl⟩
        obtain ⟨left, hleft, hrest⟩ := (ih hitems).mp hrest
        obtain ⟨mid, hmid, hr⟩ := (through_append_eq_ok_iff hitem).mp hr
        refine ⟨_, throughAll_cons_eq_ok_iff.mpr ⟨mid, left, hmid, hleft, rfl⟩, ?_⟩
        cases hdropped : isDropped mid with
        | true =>
            obtain rfl : r = mid := by simpa [hdropped] using hr
            simpa [hdropped] using hrest
        | false =>
            have hr : through t mid = .ok r := by simpa [hdropped] using hr
            exact throughAll_cons_eq_ok_iff.mpr ⟨r, rest, hr, hrest, rfl⟩
      · rintro ⟨_, hfirst, hsecond⟩
        obtain ⟨mid, left, hmid, hleft, rfl⟩ := throughAll_cons_eq_ok_iff.mp hfirst
        cases hdropped : isDropped mid with
        | true =>
            have hsecond : throughAll t left = .ok out := by simpa [hdropped] using hsecond
            refine ⟨mid, out, (through_append_eq_ok_iff hitem).mpr ⟨mid, hmid, ?_⟩,
              (ih hitems).mpr ⟨left, hleft, hsecond⟩, ?_⟩
            · simp [hdropped]
            · simp [hdropped]
        | false =>
            simp only [hdropped, Bool.false_eq_true, if_false] at hsecond
            obtain ⟨r, rest, hr, hrest, rfl⟩ := throughAll_cons_eq_ok_iff.mp hsecond
            refine ⟨r, rest, (through_append_eq_ok_iff hitem).mpr ⟨mid, hmid, ?_⟩,
              (ih hitems).mpr ⟨left, hleft, hrest⟩, rfl⟩
            simpa [hdropped] using hr

end

-- A step that notes its number and the item whenever it is applied, also if it fails then.
def noting (n : Nat) (step : Step) : Value → EStateM Error (List (Nat × Value)) Value :=
  fun item calls =>
    match step item with
    | .ok next => .ok next (calls ++ [(n, item)])
    | .error e => .error e (calls ++ [(n, item)])

-- Steps that note what they are applied to, numbered from a number on.
def notingFrom : Nat → List Step → List (Value → EStateM Error (List (Nat × Value)) Value)
  | _, [] => []
  | n, step :: steps => noting n step :: notingFrom (n + 1) steps

-- Which steps are applied on the way of an item, each with what it is applied to.
def calls (steps : List Step) (item : Value) : List (Nat × Value) :=
  match through (notingFrom 0 steps) item [] with
  | .ok _ made => made
  | .error _ made => made

theorem notingFrom_append (n : Nat) (s t : List Step) :
    notingFrom n (s ++ t) = notingFrom n s ++ notingFrom (n + s.length) t := by
  induction s generalizing n with
  | nil => rfl
  | cons step s ih =>
      have hlength : n + 1 + s.length = n + (step :: s).length := by
        rw [List.length_cons]
        omega
      rw [List.cons_append, notingFrom, notingFrom, ih, hlength, List.cons_append]

-- Noting changes nothing else, and an item that gets through meets the steps in their order.
theorem through_notingFrom {s : List Step} {item out : Value} (h : through s item = .ok out)
    (hout : isDropped out = false) (n : Nat) (made : List (Nat × Value)) :
    ∃ new, through (notingFrom n s) item made = .ok out (made ++ new) ∧
      new.map (·.1) = List.range' n s.length := by
  induction s generalizing item n made with
  | nil =>
      cases h
      exact ⟨[], by simp [notingFrom, through, pure, EStateM.pure], rfl⟩
  | cons step s ih =>
      rw [through, bind_eq_ok_iff] at h
      obtain ⟨next, hnext, h⟩ := h
      have hgoes : isDropped next = false := by
        cases hdropped : isDropped next with
        | false => rfl
        | true =>
            obtain rfl : next = out := by simpa [hdropped, pure, Except.pure] using h
            rw [hdropped] at hout
            cases hout
      rw [hgoes] at h
      obtain ⟨new, hnew, hnumbers⟩ := ih h (n + 1) (made ++ [(n, item)])
      refine ⟨(n, item) :: new, ?_, ?_⟩
      · simp only [notingFrom, through, bind, EStateM.bind, noting, hnext, hgoes,
          Bool.false_eq_true, if_false, hnew, List.append_assoc, List.singleton_append]
      · rw [List.map_cons, hnumbers, List.length_cons, List.range'_succ]

-- The step that drops an item is the last one that is applied to it.
theorem calls_of_dropped {before after : List Step} {step : Step} {item mid out : Value}
    (hitem : isDropped item = false) (hmid : through before item = .ok mid)
    (hgoes : isDropped mid = false) (hout : step mid = .ok out) (hdropped : isDropped out = true) :
    through (before ++ step :: after) item = .ok out ∧
      (calls (before ++ step :: after) item).map (·.1) = List.range (before.length + 1) := by
  constructor
  · rw [through_append_eq_ok_iff hitem]
    refine ⟨mid, hmid, ?_⟩
    simp [hgoes, through, hout, hdropped, bind, Except.bind, pure, Except.pure]
  · obtain ⟨new, hnew, hnumbers⟩ := through_notingFrom hmid hgoes 0 []
    have hmade : through (notingFrom 0 (before ++ step :: after)) item [] =
        .ok out (new ++ [(before.length, mid)]) := by
      rw [notingFrom_append, through_append _ _ hitem]
      simp [bind, EStateM.bind, hnew, hgoes, notingFrom, through, noting, hout, hdropped, pure,
        EStateM.pure]
    rw [calls, hmade, List.range_succ, List.map_append, hnumbers, List.range_eq_range']
    rfl

-- Two pipelines in one do what they do one after the other, and a pipeline treats every item alike.
-- `noting` shows that a dropped item meets no step after the one that dropped it.
theorem throughAll_fusion (s t : List Step) {items : List Value}
    (h : ∀ v ∈ items, isDropped v = false) :
    ((∃ e, throughAll (s ++ t) items = .error e) ↔
      ∃ e, throughAll s items >>= throughAll t = .error e) ∧
    (∀ out, throughAll (s ++ t) items = .ok out ↔ throughAll s items >>= throughAll t = .ok out) ∧
    (∀ xs ys, throughAll s (xs ++ ys) = do return (← throughAll s xs) ++ (← throughAll s ys)) ∧
    (∀ before step after item mid out, s = before ++ step :: after → item ∈ items →
      through before item = .ok mid → isDropped mid = false →
      step mid = .ok out → isDropped out = true →
      through s item = .ok out ∧ (calls s item).map (·.1) = List.range (before.length + 1)) ∧
    (∀ out, throughAll s items = .ok out →
      ∃ results, List.Forall₂ (fun v r => through s v = .ok r) items results ∧
        out = results.filter fun r => !isDropped r) ∧
    ∀ store scope steps, store.resolve scope pipelineName = .ok (.list steps) →
      s = steps.map callStep → applyIn store scope (.list items) = throughAll s items := by
  have hok : ∀ out, throughAll (s ++ t) items = .ok out ↔
      throughAll s items >>= throughAll t = .ok out := by
    intro out
    rw [bind_eq_ok_iff]
    exact throughAll_append_eq_ok_iff h
  refine ⟨?_, hok, throughAll_append_items s, ?_, fun out => throughAll_eq_ok_iff.mp, ?_⟩
  · rw [eq_error_iff, eq_error_iff]
    exact forall_congr' fun out => not_congr (hok out)
  · rintro before step after item mid out rfl hitem hmid hgoes hout hdropped
    exact calls_of_dropped (h item hitem) hmid hgoes hout hdropped
  · rintro store scope steps hsteps rfl
    simp [applyIn, hsteps, apply, Value.members, Value.members?, bind, Except.bind]

namespace Sample

-- Drops what counts as false.
def sieve : Value := .keep ⟨0, 0, "x", [some "x"], .leaf (.var "x")⟩ 0

def bump : Value :=
  .compiled ⟨0, 1, "x + 1", [some "x"], .binary .add (.leaf (.var "x")) (.leaf (.int 1))⟩

def belt : Store := Store.empty.push none [(pipelineName, .list [sieve, bump])]

-- The first item is dropped by the first step, and the other one is raised by both pipelines.
theorem throughAll_fusion_belt : (∀ v ∈ [Value.int 0, .int 4], isDropped v = false) ∧
    [sieve, bump].map callStep = [] ++ callStep sieve :: [callStep bump] ∧
    (through [] (.int 0) : Except Error Value) = .ok (.int 0) ∧ isDropped (.int 0) = false ∧
    callStep sieve (.int 0) = .ok (.mark .dropped) ∧ isDropped (.mark .dropped) = true ∧
    belt.resolve 0 pipelineName = .ok (.list [sieve, bump]) ∧
    applyIn belt 0 (.list [.int 0, .int 4]) = .ok [.int 5] ∧
    throughAll ([sieve, bump].map callStep) [.int 0, .int 4] >>= throughAll [callStep bump] =
      .ok [.int 6] ∧
    (calls ([sieve, bump].map callStep) (.int 0)).map (·.1) = [0] := by
  have hitems : ∀ v ∈ [Value.int 0, .int 4], isDropped v = false := by simp [isDropped]
  have hheld : belt.resolve 0 pipelineName = .ok (.list [sieve, bump]) := rfl
  obtain ⟨-, hfuse, -, hdrop, -, happly⟩ :=
    throughAll_fusion ([sieve, bump].map callStep) [callStep bump] hitems
  refine ⟨hitems, rfl, rfl, rfl, rfl, rfl, hheld, ?_, (hfuse _).mp rfl, ?_⟩
  · rw [happly belt 0 _ hheld rfl]
    rfl
  · exact (hdrop [] _ _ (.int 0) (.int 0) _ rfl List.mem_cons_self rfl rfl rfl rfl).2

end Sample

end Dialect.Pipeline
