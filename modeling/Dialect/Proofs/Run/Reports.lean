import Dialect.Proofs.Run.Session
import Dialect.Proofs.Run.Twin

namespace Dialect

open Engine

namespace World

-- No error object carries a trail.
def Unmarked (w : World) : Prop :=
  ∀ label e trail, w.shared? label = some (e, trail) → trail = []

-- What the error object of a label is, or what a step would make of it.
def Denotes (w : World) (label : String) (x : Except Error Error) : Prop :=
  (∃ e trail, w.shared? label = some (e, trail) ∧ x = .ok e) ∨
    ∃ l, ∃ step ∈ (w.language l).steps, ∃ c args,
      step.2.handler.action = .fail c args (some label) ∧ x = c.construct args

-- Every label stands for one error.
def Unambiguous (w : World) : Prop :=
  ∀ label x y, w.Denotes label x → w.Denotes label y → x = y

-- A fresh world in place of another one: any scopes, evaluators that have compiled anything, the
-- same languages. An error object of the other world is there without a trail; if its label can
-- only stand for one error, it may also be yet to be made.
structure Renews (u w : World) : Prop where
  languages : u.languages = w.languages
  faithful : ∀ e ∈ u.evaluators, e.Faithful
  unmarked : u.Unmarked
  objects : ∀ label, u.shared? label = (w.shared? label).map (fun x => (x.1, [])) ∨
    ∃ e, ∀ x, u.Denotes label x ∨ w.Denotes label x → x = .ok e

end World

-- What a report shows: how the call ended, what is bound in the scope it gave and in the ancestors
-- of that, the message and the trail. Of the functions that are bound, it shows what they do.
structure Shown where
  status : Status
  chain : Option View
  message : Value
  trail : List String

def Report.shown (r : Report) (w : World) : Shown :=
  ⟨r.status, r.scope.map fun i => (w.store.view i).map (Bindings.relabel .blank), r.message,
    r.trail⟩

namespace ProgramRunner

variable (p : ProgramRunner)

-- The run of a program from a new root.
def fromRoot (program : Value) : Engine ScopeId := do
  runProgram p.language program (← p.rootScope)

-- The world after calls for programs, one after the other.
def after (programs : List Value) (w : World) : World :=
  programs.foldl (fun w program => (p.handle program none w).2) w

-- What the report of a call shows.
def shows (program : Value) (w : World) : Shown :=
  (p.handle program none w).1.shown (p.handle program none w).2

theorem handle_none (program : Value) (w : World) :
    p.handle program none w = match p.fromRoot program w with
      | .ok i w' => (.ofSuccess i, w')
      | .error r w' => (.ofFailure r, clear w' r) := rfl

theorem after_append (first rest : List Value) (w : World) :
    p.after (first ++ rest) w = p.after rest (p.after first w) := List.foldl_append

end ProgramRunner

theorem Error.summary_ne_empty (e : Error) : e.summary ≠ "" := by
  unfold summary
  split <;> simp [← String.toList_inj]

-- A failure is shown with its trail, the outermost key first.
theorem Report.formatError_ofFailure (r : Raised) :
    (ofFailure r).formatError = if r.trail = [] then r.error.summary
      else r.error.summary ++ "\nIn aspect: " ++ " > ".intercalate r.trail.reverse := by
  have htruthy : (Value.str r.error.summary).truthy = true := by
    simp [Value.truthy, r.error.summary_ne_empty]
  simp only [formatError, ofFailure, htruthy, if_true, Value.text, List.isEmpty_iff]

-- Work that succeeds leaves the error objects alone. Work that fails leaves at most the object of
-- the failure with a trail, if none had one before.
def Law.marking : Law where
  __ := Law.raising
  Failed w r w' := w.Unmarked → ∀ label e trail, w'.shared? label = some (e, trail) →
    r.label ≠ some label → trail = []
  fresh _ _ hw label e trail h _ := hw label e trail h
  again _ hw label e trail h _ := hw label e trail h
  made _ _ hw l e' trail h hl := by
    rw [World.shared?_keep] at h
    split at h
    · rename_i heq
      exact (hl (congrArg some heq.symm)).elim
    · exact hw l e' trail h
  after huv h hu := by
    refine h ?_
    unfold World.Unmarked World.shared? at hu ⊢
    rw [huv]
    exact hu

theorem Law.marking_marks : Law.marking.Marks := by
  intro w w' r key h hw label e trail hlabel hne
  rw [Raised.label_through] at hne
  unfold World.remember at hlabel
  cases hr : (r.through key).label with
  | none =>
      rw [hr] at hlabel
      exact h hw label e trail hlabel hne
  | some l =>
      rw [hr] at hlabel
      simp only [World.shared?_keep] at hlabel
      split at hlabel
      · rename_i heq
        rw [Raised.label_through] at hr
        exact (hne (hr.trans (congrArg some heq.symm))).elim
      · exact h hw label e trail hlabel hne

namespace ProgramRunner

variable (p : ProgramRunner) {w : World}

theorem marking_fromRoot (program : Value) (w : World) :
    Law.marking.Allows w (fun _ _ => True) (p.fromRoot program w) := by
  unfold fromRoot rootScope
  rw [bind_apply]
  rcases openRoot_apply (.map p.bindings) w with ⟨e, h⟩ | ⟨b, -, h⟩
  · rw [h]
    exact Law.marking.fresh w e
  · rw [h]
    have hrun : Law.marking.Obeys w.store.size
        (runProgram p.language program w.store.size) fun _ _ => True :=
      (Law.marking_marks.obeys_runProgram p.language program _).mono fun _ _ _ => trivial
    exact (hrun _ trivial).after rfl

-- A call takes the trail off the only error object that it can have left with one.
theorem unmarked_handle (hw : w.Unmarked) (program : Value) :
    (p.handle program none w).2.Unmarked := by
  have hallows := p.marking_fromRoot program w
  rw [handle_none]
  cases hrun : p.fromRoot program w with
  | ok i w' =>
      rw [hrun] at hallows
      have hshared : w'.shared = w.shared := hallows.1
      unfold World.Unmarked World.shared? at hw ⊢
      simp only [hshared]
      exact hw
  | error r w' =>
      rw [hrun] at hallows
      intro label e trail hlabel
      simp only [clear, World.remember] at hlabel
      cases hr : r.label with
      | none =>
          rw [hr] at hlabel
          exact hallows hw label e trail hlabel (by simp [hr])
      | some l =>
          rw [hr] at hlabel
          simp only [World.shared?_keep] at hlabel
          split at hlabel
          · cases hlabel
            rfl
          · rename_i hne
            refine hallows hw label e trail hlabel ?_
            rw [hr]
            exact fun heq => hne (Option.some.inj heq).symm

theorem unmarked_after (hw : w.Unmarked) (done : List Value) : (p.after done w).Unmarked := by
  induction done generalizing w with
  | nil => exact hw
  | cons program done ih => exact ih (p.unmarked_handle hw program)

end ProgramRunner

namespace Pairing

variable {P : Pairing} (p : ProgramRunner) {w w' : World}

-- The root bindings are the same on both sides.
theorem fromRoot_matches (program : Value) :
    P.Matches P.Same (p.fromRoot program) (p.fromRoot program) := by
  have hroot : P.Matches P.Same p.rootScope p.rootScope := by
    unfold ProgramRunner.rootScope openRoot
    split
    · exact .openWith .none (.refl _)
    · exact .openScope .none (.refl [])
  refine hroot.bind fun i j hij => ?_
  unfold runProgram Runner.start
  cases program <;> exact P.runs_runWith _ _ _ _ _ _ (.refl _) hij

theorem handle_matches (program : Value) (hw : P.Worlds w w') :
    p.shows program w = p.shows program w' ∧
      P.Worlds (p.handle program none w).2 (p.handle program none w').2 := by
  have hends := fromRoot_matches p program w w' hw
  unfold ProgramRunner.shows
  rw [p.handle_none, p.handle_none]
  cases hx : p.fromRoot program w <;> cases hy : p.fromRoot program w' <;> rw [hx, hy] at hends
  · obtain ⟨hij, hv⟩ := hends
    refine ⟨?_, hv⟩
    simp only [Report.shown, Report.ofSuccess, Option.map_some, hv.store.view hij]
  · exact hends.elim
  · exact hends.elim
  · obtain ⟨rfl, hnames, hv⟩ := hends
    exact ⟨rfl, hv.remember hnames⟩

-- A call beside itself: what is asked of a world is kept, and so are the scopes that were there.
theorem Admits.handle (h : P.Admits w) (program : Value) :
    P.Admits (p.handle program none w).2 ∧
      w.store.scopes <:+ (p.handle program none w).2.store.scopes := by
  let Q : Pairing := { P with left := w.store, right := w.store }
  have hadmits : Q.Admits w := ⟨h.languages, h.faithful, h.meant⟩
  have hworlds : Q.Worlds w w := ⟨hadmits, hadmits, .refl _ _, fun _ => .inl rfl⟩
  have hnext := (handle_matches p program hworlds).2
  exact ⟨⟨hnext.left.languages, hnext.left.faithful, hnext.left.meant⟩, hnext.store.left_suffix⟩

theorem Admits.after (h : P.Admits w) (done : List Value) :
    P.Admits (p.after done w) ∧ w.store.scopes <:+ (p.after done w).store.scopes := by
  induction done generalizing w with
  | nil => exact ⟨h, List.suffix_rfl⟩
  | cons program done ih =>
      obtain ⟨hnext, hsuffix⟩ := h.handle p program
      obtain ⟨hafter, hrest⟩ := ih hnext
      exact ⟨hafter, hsuffix.trans hrest⟩

end Pairing

namespace World

variable {u w now : World}

-- Two worlds side by side, with all that labels denote in one of them.
def beside (u w : World) : Pairing where
  left := w.store
  right := u.store
  languages := w.languages
  Means label x := u.Denotes label x ∨ w.Denotes label x
  makes l step hstep c args _ haction := .inr (.inr ⟨l, step, hstep, c, args, haction, rfl⟩)

theorem admits_beside (hw : ∀ e ∈ w.evaluators, e.Faithful) : (u.beside w).Admits w :=
  ⟨rfl, hw, fun {_ e trail} h => .inr (.inl ⟨e, trail, h, rfl⟩)⟩

theorem Renews.worlds (h : u.Renews w) (hw : w.Unmarked)
    (hfaithful : ∀ e ∈ w.evaluators, e.Faithful) : (u.beside w).Worlds w u where
  left := admits_beside hfaithful
  right := ⟨h.languages, h.faithful, fun {_ e trail} h => .inl (.inl ⟨e, trail, h, rfl⟩)⟩
  store := .refl _ _
  shared label := by
    rcases h.objects label with heq | ⟨e, honly⟩
    · refine .inl ?_
      rw [heq]
      cases hs : w.shared? label with
      | none => rfl
      | some x =>
          obtain ⟨e, trail⟩ := x
          rw [hw label e trail hs]
          rfl
    · have hobject {v : World} (hv : v.Unmarked)
          (hdenotes : ∀ x, v.Denotes label x → x = .ok e) :
          v.shared? label = none ∨ v.shared? label = some (e, []) := by
        cases hs : v.shared? label with
        | none => exact .inl rfl
        | some x =>
            obtain ⟨e', trail⟩ := x
            have he : e' = e := Except.ok.inj (hdenotes _ (.inl ⟨e', trail, hs, rfl⟩))
            rw [he, hv label e' trail hs]
            exact .inr rfl
      exact .inr ⟨e, honly, hobject hw fun x hx => honly x (.inr hx),
        hobject h.unmarked fun x hx => honly x (.inl hx)⟩

-- In a world that has come of another one, labels denote nothing new.
theorem Denotes.of_admits (h : (w.beside w).Admits now) {label : String} {x : Except Error Error}
    (hx : now.Denotes label x) : w.Denotes label x := by
  rcases hx with ⟨e, trail, hs, rfl⟩ | ⟨l, step, hstep, c, args, haction, rfl⟩
  · exact (h.meant hs).elim id id
  · unfold language at hstep
    rw [h.languages] at hstep
    exact .inr ⟨l, step, hstep, c, args, haction, rfl⟩

-- If every label stands for one error, the world at the start is a fresh one.
theorem Unambiguous.renews (h : w.Unambiguous) (hw : w.Unmarked)
    (hfaithful : ∀ e ∈ w.evaluators, e.Faithful) (hnow : (w.beside w).Admits now) :
    w.Renews now where
  languages := hnow.languages.symm
  faithful := hfaithful
  unmarked := hw
  objects label := by
    have honly {e : Error} (he : w.Denotes label (.ok e)) (x : Except Error Error)
        (hx : w.Denotes label x ∨ now.Denotes label x) : x = .ok e :=
      h label x _ (hx.elim id (Denotes.of_admits hnow)) he
    cases hs : w.shared? label with
    | some x => exact .inr ⟨x.1, honly (.inl ⟨x.1, x.2, hs, rfl⟩)⟩
    | none =>
        cases hn : now.shared? label with
        | none => exact .inl rfl
        | some x =>
            exact .inr ⟨x.1, honly (Denotes.of_admits hnow (.inl ⟨x.1, x.2, hn, rfl⟩))⟩

end World

-- What is seen from a scope does not change when others are opened.
theorem Store.view_of_suffix {s t : Store} (h : s.scopes <:+ t.scopes) {i : ScopeId}
    (hi : i < s.size) : t.view i = s.view i := by
  obtain ⟨new, hnew⟩ := h
  obtain ⟨scopes⟩ := t
  simp only at hnew
  subst hnew
  unfold view
  induction new with
  | nil => rfl
  | cons newest new ih =>
      have hne : i ≠ (new ++ s.scopes).length := by
        rw [List.length_append]
        exact Nat.ne_of_lt (Nat.lt_of_lt_of_le hi (Nat.le_add_left _ _))
      rw [← ih]
      unfold chain
      rw [List.cons_append, chainIn, if_neg hne]

namespace ProgramRunner

variable (p : ProgramRunner) {w : World}

theorem wellFormed_after (hw : w.store.WellFormed) (done : List Value) :
    (p.after done w).store.WellFormed := by
  induction done generalizing w with
  | nil => exact hw
  | cons program done ih => exact ih (Operation.follows_handle hw p program (by simp)).2

-- A scope that is reported is one that there is.
theorem scope_lt_of_handle (hw : w.store.WellFormed) (program : Value) {i : ScopeId}
    (hi : i ∈ (p.handle program none w).1.scope) :
    i < (p.handle program none w).2.store.size := by
  rw [handle_none] at hi ⊢
  cases hrun : p.fromRoot program w with
  | error r v =>
      rw [hrun] at hi
      cases hi
  | ok j v =>
      rw [hrun] at hi
      cases hi
      unfold fromRoot rootScope at hrun
      rw [bind_apply] at hrun
      rcases openRoot_apply (.map p.bindings) w with ⟨e, h⟩ | ⟨b, hb, h⟩
      · rw [h] at hrun
        cases hrun
      · rw [h] at hrun
        have hroot := (World.Follows.root hw hb).2
        have hobeys := Law.growth_marks.obeys_runProgram p.language program w.store.size
        exact (hobeys.of_ok ⟨hroot, Nat.lt_succ_self _⟩ hrun).2.2

-- A report shows the same after any further calls.
theorem shown_after (hw : w.store.WellFormed) (hfaithful : ∀ e ∈ w.evaluators, e.Faithful)
    (program : Value) (more : List Value) :
    (p.handle program none w).1.shown (p.after (program :: more) w) = p.shows program w := by
  have hnext := ((World.admits_beside (u := w) hfaithful).handle p program).1
  have hsuffix := (hnext.after p more).2
  have hlt {i : ScopeId} := p.scope_lt_of_handle hw program (i := i)
  unfold shows Report.shown
  cases hscope : (p.handle program none w).1.scope with
  | none => rfl
  | some i =>
      have hview := Store.view_of_suffix hsuffix (hlt hscope)
      have hafter : p.after (program :: more) w = p.after more (p.handle program none w).2 := rfl
      simp only [Option.map_some, hafter, hview]

-- A runner is called for programs, one after the other, in a world without trails. Then each call
-- reports what it reports in any fresh world; and so it does in the world before the first call, if
-- labels stand for one error each. It reports a success, with the scope and the world that running
-- the program from a new root gives, if and only if that run succeeds. Otherwise it reports the
-- error of the run and the trail that the run has left, and shows the trail with the outermost key
-- first. After each call no error object carries a trail. What a report shows is not changed by
-- further calls.
theorem calls_independent (hunmarked : w.Unmarked) (hfaithful : ∀ e ∈ w.evaluators, e.Faithful)
    (done : List Value) (program : Value) :
    (∀ u, u.Renews (p.after done w) → p.shows program (p.after done w) = p.shows program u) ∧
    (w.Unambiguous → w.Renews (p.after done w)) ∧
    (∀ i v, p.handle program none (p.after done w) = (⟨.success, some i, .null, []⟩, v) ↔
      p.fromRoot program (p.after done w) = .ok i v) ∧
    (∀ r v, p.fromRoot program (p.after done w) = .error r v →
      (p.handle program none (p.after done w)).1 =
        ⟨.error, none, .str r.error.summary, r.trail⟩ ∧
      (p.handle program none (p.after done w)).1.formatError =
        if r.trail = [] then r.error.summary
        else r.error.summary ++ "\nIn aspect: " ++ " > ".intercalate r.trail.reverse) ∧
    (p.after (done ++ [program]) w).Unmarked ∧
    (w.store.WellFormed → ∀ more, (p.handle program none (p.after done w)).1.shown
      (p.after (done ++ program :: more) w) = p.shows program (p.after done w)) := by
  have hnow := p.unmarked_after hunmarked done
  have hadmits := ((World.admits_beside (u := w) hfaithful).after p done).1
  refine ⟨fun u hu => ?_, fun h => h.renews hunmarked hfaithful hadmits, fun i v => ?_,
    fun r v hrun => ?_, p.unmarked_after hunmarked _, fun hw more => ?_⟩
  · exact (Pairing.handle_matches p program (hu.worlds hnow hadmits.faithful)).1
  · rw [handle_none]
    constructor
    · intro h
      cases hrun : p.fromRoot program (p.after done w) <;> rw [hrun] at h <;> cases h
      rfl
    · intro h
      rw [h]
      rfl
  · rw [handle_none, hrun]
    exact ⟨rfl, Report.formatError_ofFailure r⟩
  · rw [after_append]
    exact p.shown_after (p.wellFormed_after hw done) hadmits.faithful program more

end ProgramRunner

namespace Sample

-- A language with a sequence, an aspect that writes where its value says, and one that raises the
-- same error object every time.
def counter : Language :=
  (Language.declare (["steps", "tell", "zap", "let"].map .str) (.str "let")
    (.object [("steps", .list [.str "sequence-of", .map []])]) [
    .inl ⟨"tell", ⟨1, some "provide", none, .provide⟩, false⟩,
    .inl ⟨"zap", ⟨2, some "raise", none, .fail .value [.str "boom"] (some "bell")⟩, true⟩]
    ).toOption.getD default

def lobby : World := { World.empty with languages := [counter] }

def clerk : ProgramRunner := ⟨0, [(.str "k", .int 1)]⟩

-- Writes into the root scope, and then fails.
def spoil : Value := .object [("tell", .object [("path", .str "k"), ("value", .int 5)]),
  ("zap", .list [])]

-- Looks at the root scope, in a sub-program.
def peek : Value := .object [("steps", .list [.object [("let", .object [("seen", .str "k")])]])]

-- Fails in a sub-program.
def ring : Value := .object [("steps", .list [.map [], .object [("zap", .list [])]])]

theorem lobby_unmarked : lobby.Unmarked := fun _ _ _ h => by cases h

-- There is one step that raises an error object.
theorem lobby_unambiguous : lobby.Unambiguous := by
  have hone {label : String} {x : Except Error Error} (h : lobby.Denotes label x) :
      x = .ok (.raised .value [.str "boom"]) := by
    rcases h with ⟨_, _, hs, _⟩ | ⟨l, step, hstep, c, args, haction, rfl⟩
    · cases hs
    · have hactions : (lobby.language l).steps.map (·.2.handler.action) ⊆
          [.provide, .fail .value [.str "boom"] (some "bell"), .bindForm "let", .bindForm "",
            .runSequence "steps"] := by
        rcases l with _ | l
        · have hsteps : (lobby.language 0).steps.map (·.2.handler.action) = [.bindForm "let",
              .provide, .fail .value [.str "boom"] (some "bell"), .runSequence "steps"] := rfl
          rw [hsteps]
          simp
        · have hsteps : (lobby.language (l + 1)).steps.map (·.2.handler.action) =
              [.bindForm ""] := by rfl
          rw [hsteps]
          simp
      have hmem := hactions (List.mem_map_of_mem hstep)
      simp only [haction, List.mem_cons, reduceCtorEq, Action.fail.injEq, List.not_mem_nil,
        false_or, or_false] at hmem
      obtain ⟨rfl, rfl, -⟩ := hmem
      rfl
  intro label x y hx hy
  rw [hone hx, hone hy]

theorem fromRoot_ring : ∃ v, clerk.fromRoot ring lobby =
    .error ⟨.raised .value [.str "boom"], ["zap", "steps"], some "bell"⟩ v := ⟨_, rfl⟩

-- The root of the last call is as good as new, and so is the error object.
theorem calls_independent_lobby : lobby.Unmarked ∧ lobby.Unambiguous ∧
    clerk.shows ring (clerk.after [spoil, peek, ring] lobby) = clerk.shows ring lobby ∧
    clerk.shows peek (clerk.after [spoil, ring] lobby) = clerk.shows peek lobby ∧
    (clerk.shows ring lobby).trail = ["zap", "steps"] ∧
    (clerk.after ([spoil, peek] ++ [ring]) lobby).Unmarked := by
  have hcalls := clerk.calls_independent lobby_unmarked (by simp [lobby, World.empty])
  obtain ⟨hring, hfresh, -⟩ := hcalls [spoil, peek, ring] ring
  obtain ⟨hpeek, hfresh', -⟩ := hcalls [spoil, ring] peek
  obtain ⟨-, -, -, -, hunmarked, -⟩ := hcalls [spoil, peek] ring
  have htrail : (clerk.shows ring lobby).trail = ["zap", "steps"] := by
    obtain ⟨v, hrun⟩ := fromRoot_ring
    obtain ⟨-, -, -, hfailed, -⟩ := hcalls [] ring
    exact congrArg Report.trail (hfailed _ v hrun).1
  exact ⟨lobby_unmarked, lobby_unambiguous, hring lobby (hfresh lobby_unambiguous),
    hpeek lobby (hfresh' lobby_unambiguous), htrail, hunmarked⟩

end Sample

end Dialect
