import Dialect.Proofs.Pipeline.Appending
import Dialect.Proofs.Pipeline.Sites
import Dialect.Proofs.Run.Failure

namespace Dialect

open Dialect.Expr (Evaluator)

-- The call that a call leads to by way of members with these numbers.
inductive Call.At : Call → List Nat → Call → Prop where
  | here (c : Call) : At c [] c
  | member {c c' c'' : Call} {k : Nat} {ks : List Nat} (enters : c.Member "steps" k c')
      (rest : At c' ks c'') : At c (k :: ks) c''

namespace Pipeline

-- What a run of the pipeline language walks through.
def steps (ev : Nat) : List (String × Aspect) :=
  [("config", .ofNamespace 0 "config"), ("bind", .ofBindingForm 0 "bind"),
    ("transform", stepAspect "transform" "transform" (.transform ev)),
    ("filter", stepAspect "filter" "filter_" (.filter ev)),
    ("when", stepAspect "when" "when" (.choose ev)), ("steps", .ofSequence 0 "steps")]

theorem mem_steps {ev : Nat} {key : String} {a : Aspect} : (key, a) ∈ steps ev ↔
    key = "config" ∧ a = .ofNamespace 0 "config" ∨ key = "bind" ∧ a = .ofBindingForm 0 "bind" ∨
    key = "transform" ∧ a = stepAspect "transform" "transform" (.transform ev) ∨
    key = "filter" ∧ a = stepAspect "filter" "filter_" (.filter ev) ∨
    key = "when" ∧ a = stepAspect "when" "when" (.choose ev) ∨
    key = "steps" ∧ a = .ofSequence 0 "steps" := by
  simp [steps]

theorem steps_of_language {ev : Nat} {l : Language} (h : language ev = .ok l) :
    l.steps = steps ev := by
  have hsteps : (language ev).map (·.steps) = .ok (steps ev) := rfl
  rw [h] at hsteps
  exact Except.ok.inj hsteps

theorem keys_steps (ev : Nat) : (steps ev).map (·.1) = keyOrder := rfl

-- At a site of the data of a call a step has been made: a run on the way has come to it, and has
-- made the step of the value that it resolved there.
def Made (c : Call) (site : Site) (step : Value) : Prop :=
  ∃ c' n before a j w value, c.At site.address c' ∧
    c'.ComesTo n before site.key a site.raw j w ∧ Call.handed a site.raw j w = .ok value ∧
    Makes j value site.key step

theorem Made.below {c c' : Call} {k : Nat} (h : c.Member "steps" k c') {site : Site} {step : Value}
    (hmade : Made c' site step) : Made c (site.below k) step := by
  obtain ⟨c'', n, before, a, j, w, value, hat, hrest⟩ := hmade
  exact ⟨c'', n, before, a, j, w, value, .member h hat, hrest⟩

-- A call of the pipeline language, on data without other languages, that sees a list to add to.
structure Feeds (ev : Nat) (o : ScopeId) (c : Call) : Prop where
  language : language ev = .ok (c.world.language c.language)
  raw : AllRaw c.data
  pipelineFree : ¬c.Binds pipelineName
  runnerFree : ¬c.Binds runnerName
  faithful : (c.world.evaluator ev).Faithful
  sees : ∃ old, c.world.store.locate c.scope pipelineName = .ok (some (o, .list old))

-- The call has come to a scope of a world, with new members of the list. The scope sees the list
-- that the call started with, and raw members run in the language of the call.
structure Stage (ev : Nat) (o : ScopeId) (c : Call) (new : List Value) (j : ScopeId) (w : World) :
    Prop where
  appends : Appends ev o new c.world w
  sees : w.store.locate j pipelineName = w.store.locate c.scope pipelineName
  inForce : w.InForce j c.language

section

variable {ev : Nat} {o : ScopeId} {c : Call} {new more : List Value} {j : ScopeId} {w w' : World}

theorem Stage.located (h : Stage ev o c new j w) (hc : Feeds ev o c) :
    ∃ old, w.store.locate j pipelineName = .ok (some (o, .list old)) ∧
      w.store.locate c.scope pipelineName = .ok (some (o, .list old)) := by
  obtain ⟨old, hold⟩ := hc.sees
  have hscope := h.appends.sees hold
  exact ⟨old ++ new, h.sees.trans hscope, hscope⟩

theorem Stage.push (h : Stage ev o c new j w) (hc : Feeds ev o c) {b : Bindings}
    (hpipeline : pipelineName ∉ b.names) (hrunner : runnerName ∉ b.names) :
    Stage ev o c new w.store.size { w with store := w.store.push j b } := by
  obtain ⟨old, hj, hscope⟩ := h.located hc
  have ho := (Store.lookup_of_locate hj).1
  refine ⟨?_, ?_, h.inForce.push hrunner⟩
  · have happends := h.appends.trans (.push ho j b)
    rwa [List.append_nil] at happends
  · have hne := Nat.ne_of_lt (Store.lt_size_of_locate hscope)
    rw [Store.locate_push_size parts_pipelineName _ _ hpipeline, Store.locate_push_of_ne _ _ _ hne]
    exact h.sees

theorem Stage.start (hc : Feeds ev o c) : Stage ev o c [] c.world.store.size c.opened := by
  obtain ⟨old, hold⟩ := hc.sees
  have ho := (Store.lookup_of_locate hold).1
  have hfree : pipelineName ∉
      Bindings.names [(runnerName, .runner c.language c.world.store.size)] := by
    simp [Bindings.names, pipelineName, runnerName]
  refine ⟨.push ho _ _, ?_, c.inForce_opened⟩
  unfold Call.opened
  have hne := Nat.ne_of_lt (Store.lt_size_of_locate hold)
  rw [Store.locate_push_size parts_pipelineName _ _ hfree, Store.locate_push_of_ne _ _ _ hne]

-- Work that adds to the list and stays in the scope.
theorem Stage.add (h : Stage ev o c new j w) (hc : Feeds ev o c)
    (hadd : Appends ev o more w w') : Stage ev o c (new ++ more) j w' := by
  obtain ⟨old, hj, hscope⟩ := h.located hc
  exact ⟨h.appends.trans hadd, (hadd.sees hj).trans (hadd.sees hscope).symm,
    hadd.inForce h.inForce⟩

-- A run of a member that has succeeded is a part of the run it was started in.
theorem Stage.within {c' : Call} {j' : ScopeId} (h' : Stage ev o c' more j' w')
    (hc : Feeds ev o c) (hlanguage : c'.language = c.language)
    (h : Stage ev o c new c'.scope c'.world) : Stage ev o c (new ++ more) j' w' := by
  have hadd := h.add hc h'.appends
  exact ⟨hadd.appends, h'.sees.trans hadd.sees, hlanguage ▸ h'.inForce⟩

end

-- The call has come to a scope of a world, with the steps made for some sites.
def Collected (ev : Nat) (o : ScopeId) (c : Call) (done : List Site) (j : ScopeId) (w : World) :
    Prop :=
  ∃ new, Stage ev o c new j w ∧ List.Forall₂ (Made c) done new

-- Calls with so much fuel that succeed have made the steps for all sites of their data.
def Collecting (ev : Nat) (o : ScopeId) (n : Nat) : Prop :=
  ∀ c : Call, c.fuel = n → Feeds ev o c → ∀ j w, c.result = .ok j w →
    Collected ev o c (sites c.data) j w

section

variable {ev : Nat} {o : ScopeId} {c : Call} {n m : Nat} {before : List (String × Aspect)}
  {key : String} {a : Aspect} {raw : Value} {new : List Value} {done : List Site}
  {j₀ j j' : ScopeId} {w₀ w w' : World}

-- The steps that a call can come to: those that open scopes, those that the language has aspects
-- for, and its sequence.
theorem Feeds.step_cases (hc : Feeds ev o c) (hcomes : c.ComesTo n before key a raw j w) :
    (a = .ofNamespace 0 key ∨ a = .ofBindingForm 0 key) ∧ sitesAt sites c.data key = [] ∨
      (a ∈ aspects ev ∧ a.key = key ∧ a.handler.journal = none) ∧
        sitesAt sites c.data key = [⟨[], key, raw⟩] ∨
      key = "steps" ∧ a = .ofSequence 0 "steps" := by
  have hstep := List.mem_of_mem_filter hcomes.mem_steps
  rw [steps_of_language hc.language] at hstep
  have hsites (hkey : key ∈ stepKeys) : sitesAt sites c.data key = [⟨[], key, raw⟩] := by
    rw [sitesAt, if_pos hkey, hcomes.value]
  rcases mem_steps.mp hstep with
    ⟨rfl, rfl⟩ | ⟨rfl, rfl⟩ | ⟨rfl, rfl⟩ | ⟨rfl, rfl⟩ | ⟨rfl, rfl⟩ | ⟨rfl, rfl⟩
  · exact .inl ⟨.inl rfl, rfl⟩
  · exact .inl ⟨.inr rfl, rfl⟩
  · exact .inr (.inl ⟨⟨by simp [aspects], rfl, rfl⟩, hsites (by decide)⟩)
  · exact .inr (.inl ⟨⟨by simp [aspects], rfl, rfl⟩, hsites (by decide)⟩)
  · exact .inr (.inl ⟨⟨by simp [aspects], rfl, rfl⟩, hsites (by decide)⟩)
  · exact .inr (.inr ⟨rfl, rfl⟩)

-- A member of the sequence is a call of the same kind, after those before it have succeeded.
theorem Feeds.member (hc : Feeds ev o c)
    (hcomes : c.ComesTo n before "steps" (.ofSequence 0 "steps") raw j₀ w₀)
    (hfound : w₀.store.getD j₀ runnerName .null = .ok (.runner c.language m))
    {first rest : List Value} {sub : Value} (hms : raw.members = .ok (first ++ sub :: rest))
    (hfirst : (runWith n).callAll (.runner c.language m) first j₀ w₀ = .ok j w)
    (h : Stage ev o c new j w) :
    Program.target c.language sub = (c.language, Program.body sub) ∧
      c.Member "steps" first.length ⟨n, c.language, Program.body sub, j, w⟩ ∧
      Feeds ev o ⟨n, c.language, Program.body sub, j, w⟩ := by
  obtain ⟨old, hj, -⟩ := h.located hc
  obtain ⟨hraw, hbelow⟩ := hc.raw
  have hsub : sub ∈ members c.data := by simp [members_eq hcomes.value hms]
  have htarget := Program.target_of_raw (hraw sub hsub) c.language
  have hmember : c.Member "steps" first.length ⟨n, c.language, Program.body sub, j, w⟩ := by
    have hcalls : Action.Calls n raw j₀ w₀ (.runSequence "steps") first.length _ :=
      .member hfound hms hfirst
    rw [htarget] at hcalls
    exact ⟨n, before, raw, j₀, w₀, hcomes, hcalls⟩
  have hstarts := hmember.begins.starts
  refine ⟨htarget, hmember, ?_, hbelow sub hsub, hstarts.not_binds hc.pipelineFree,
    hstarts.not_binds hc.runnerFree, h.appends.faithful hc.faithful, old, hj⟩
  have hlanguage := hc.language
  unfold World.language at hlanguage ⊢
  rw [h.appends.languages]
  exact hlanguage

-- By induction on the members that are left; `first` are those that have succeeded.
theorem Collected.members (hn : Collecting ev o n) (hc : Feeds ev o c)
    (hcomes : c.ComesTo n before "steps" (.ofSequence 0 "steps") raw j₀ w₀)
    (hfound : w₀.store.getD j₀ runnerName .null = .ok (.runner c.language m))
    {first ms rest : List Value} (hms : raw.members = .ok (first ++ ms ++ rest))
    (hfirst : (runWith n).callAll (.runner c.language m) first j₀ w₀ = .ok j w)
    (h : Collected ev o c done j w)
    (hcall : (runWith n).callAll (.runner c.language m) ms j w = .ok j' w') :
    Collected ev o c (done ++ memberSites sites first.length ms) j' w' := by
  induction ms generalizing first done j w with
  | nil =>
      cases hcall
      rwa [memberSites, List.append_nil]
  | cons sub ms ih =>
      obtain ⟨new, hstage, hmade⟩ := h
      have hsplit : raw.members = .ok (first ++ sub :: (ms ++ rest)) := by simpa using hms
      obtain ⟨htarget, hmember, hfeeds⟩ := hc.member hcomes hfound hsplit hfirst hstage
      rw [callAll_cons_apply, Runner.call_runner, htarget] at hcall
      cases hrun : runWith n c.language (Program.body sub) j w with
      | error r w₁ => simp only [hrun, reduceCtorEq] at hcall
      | ok j₁ w₁ =>
          simp only [hrun] at hcall
          obtain ⟨added, hstage₁, hmade₁⟩ := hn _ rfl hfeeds j₁ w₁ hrun
          have hbelow : List.Forall₂ (Made c) ((sites (Program.body sub)).map (.below first.length))
              added := by
            rw [List.forall₂_map_left_iff]
            exact hmade₁.imp fun _ _ hstep => hstep.below hmember
          have hfirst₁ : (runWith n).callAll (.runner c.language m) (first ++ [sub]) j₀ w₀ =
              .ok j₁ w₁ := callAll_concat_eq_ok hfirst (by rw [htarget]; exact hrun)
          have hms₁ : raw.members = .ok ((first ++ [sub]) ++ ms ++ rest) := by simpa using hms
          have hrest := ih hms₁ hfirst₁
            ⟨new ++ added, hstage₁.within hc rfl hstage, List.rel_append hmade hbelow⟩ hcall
          rw [List.length_append, List.append_assoc] at hrest
          exact hrest

-- A step of the language that makes a step of the pipeline.
theorem Collected.fire_step (hc : Feeds ev o c) (h : Collected ev o c done j w)
    (hcomes : c.ComesTo n before a.key a raw j w) (ha : a ∈ aspects ev)
    (hjournal : a.handler.journal = none)
    (hfire : fireAt (runWith n) a.key a c.data j w = .ok j' w') :
    Collected ev o c (done ++ [⟨[], a.key, raw⟩]) j' w' := by
  obtain ⟨new, hstage, hmade⟩ := h
  obtain ⟨old, hj, -⟩ := hstage.located hc
  rw [Call.fireAt_handed _ a hcomes.value] at hfire
  cases hvalue : Call.handed a raw j w with
  | error e =>
      rw [hvalue] at hfire
      cases hfire
  | ok value =>
      have hadds := adds_perform (runWith n) (hstage.appends.faithful hc.faithful) hj ha value
      simp only [hvalue, Engine.under_apply, Aspect.apply_of_journal hjournal] at hfire
      cases hperform : a.handler.action.perform (runWith n) value j w with
      | error r w₁ => simp only [hperform, reduceCtorEq] at hfire
      | ok x w₁ =>
          rw [hperform] at hadds hfire
          obtain ⟨rfl, step, hmakes, happends⟩ := hadds
          cases hfire
          exact ⟨new ++ [step], hstage.add hc happends, List.rel_append hmade
            (.cons ⟨c, n, before, a, j, w, value, .here c, hcomes, hvalue, hmakes⟩ .nil)⟩

-- One step of the language that succeeds.
theorem Collected.fire (hn : Collecting ev o n) (hc : Feeds ev o c)
    (h : Collected ev o c done j w) (hcomes : c.ComesTo n before key a raw j w)
    (hfire : fireAt (runWith n) key a c.data j w = .ok j' w') :
    Collected ev o c (done ++ sitesAt sites c.data key) j' w' := by
  rcases hc.step_cases hcomes with ⟨ha, hsites⟩ | ⟨⟨ha, rfl, hjournal⟩, hsites⟩ | ⟨rfl, rfl⟩
  · have happly := apply_of_fireAt_eq_ok (by rcases ha with rfl | rfl <;> rfl) hcomes.value hfire
    obtain ⟨b, hb, rfl, rfl⟩ := hcomes.opens ha happly
    obtain ⟨new, hstage, hmade⟩ := h
    rw [hsites, List.append_nil]
    exact ⟨new, hstage.push hc (fun hname => hc.pipelineFree (hb _ hname))
      fun hname => hc.runnerFree (hb _ hname), hmade⟩
  · rw [hsites]
    exact h.fire_step hc hcomes ha hjournal hfire
  · obtain ⟨new, hstage, hmade⟩ := h
    obtain ⟨m, hfound⟩ := hstage.inForce
    obtain ⟨ms, hms, hcall⟩ :=
      perform_sequence_eq_ok hfound (apply_of_fireAt_eq_ok rfl hcomes.value hfire)
    have hsites : sitesAt sites c.data "steps" = memberSites sites 0 ms := by
      rw [← members_eq hcomes.value hms]
      rfl
    have hall : raw.members = .ok ([] ++ ms ++ []) := by simpa using hms
    rw [hsites]
    exact Collected.members hn hc hcomes hfound hall rfl ⟨new, hstage, hmade⟩ hcall

-- By induction on the steps that the walk has before it.
theorem Collected.walk (hn : Collecting ev o n) (hc : Feeds ev o c)
    (h : Collected ev o c done j w) {first rest : List (String × Aspect)}
    (hstands : c.Stands n before (first ++ rest) j w)
    (hfire : fireAll (runWith n) c.data first j w = .ok j' w') :
    Collected ev o c (done ++ (first.map (·.1)).flatMap (sitesAt sites c.data)) j' w' := by
  induction first generalizing before done j w with
  | nil =>
      cases hfire
      rwa [List.map_nil, List.flatMap_nil, List.append_nil]
  | cons step first ih =>
      obtain ⟨key, a⟩ := step
      rw [List.map_cons, List.flatMap_cons]
      rcases fireAll_cons_eq_ok hfire with
        ⟨habsent, hrest⟩ | ⟨hpresent, raw, j₁, w₁, hraw, hat, hrest⟩
      · rw [sitesAt_of_absent sites habsent, List.nil_append]
        exact ih h (hstands.skip habsent) hrest
      · have hcomes : c.ComesTo n before key a raw j w := ⟨⟨_, hstands⟩, hpresent, hraw⟩
        rw [← List.append_assoc]
        exact ih (h.fire hn hc hcomes hat) (hstands.next hpresent hat) hrest

-- What has been collected where a call stands.
theorem Collected.of_stands (hn : Collecting ev o n) (hc : Feeds ev o c)
    {rest : List (String × Aspect)} (hstands : c.Stands n before rest j w) :
    Collected ev o c ((before.map (·.1)).flatMap (sitesAt sites c.data)) j w := by
  have hstart : c.Stands n [] (before ++ rest) c.world.store.size c.opened :=
    ⟨hstands.fuel, hstands.steps, rfl⟩
  have hnone : Collected ev o c [] c.world.store.size c.opened := ⟨[], .start hc, .nil⟩
  exact hnone.walk hn hc hstart hstands.fired

end

-- By induction on the fuel.
theorem collecting (ev : Nat) (o : ScopeId) (n : Nat) : Collecting ev o n := by
  induction n with
  | zero =>
      intro c hfuel hc j w hresult
      unfold Call.result at hresult
      rw [hfuel] at hresult
      cases hresult
  | succ n ih =>
      intro c hfuel hc j w hresult
      unfold Call.result at hresult
      rw [hfuel, runWith_succ_apply] at hresult
      have hstands : c.Stands n (c.world.language c.language).steps [] j w :=
        ⟨hfuel, (List.append_nil _).symm, hresult⟩
      have hall := Collected.of_stands ih hc hstands
      rwa [steps_of_language hc.language, keys_steps, ← sites_eq] at hall

section

variable {ev : Nat} {o : ScopeId} {c : Call} {n : Nat} {before : List (String × Aspect)}
  {key : String} {a : Aspect} {raw value : Value} {new : List Value} {j : ScopeId} {w w' : World}
  {r r₀ : Raised}

-- The keys before the one that a call comes to.
theorem keys_before (hc : Feeds ev o c) (hcomes : c.ComesTo n before key a raw j w) :
    before.map (·.1) = keyOrder.takeWhile (· ≠ key) := by
  obtain ⟨after, hstands⟩ := hcomes.stands
  have hkeys : keyOrder = before.map (·.1) ++ key :: after.map (·.1) := by
    rw [← keys_steps ev, ← steps_of_language hc.language, hstands.steps]
    simp
  have hnodup : (before.map (·.1) ++ key :: after.map (·.1)).Nodup := by
    rw [← hkeys]
    decide
  have hkey : ∀ k ∈ before.map (·.1), k ≠ key := by
    rintro k hk rfl
    exact List.disjoint_of_nodup_append hnodup hk List.mem_cons_self
  rw [hkeys, List.takeWhile_append_of_pos (by simpa using hkey)]
  simp

-- A step that fails without starting a run has added nothing.
theorem Stage.apply_alone (h : Stage ev o c new j w) (hc : Feeds ev o c)
    (hcomes : c.ComesTo n before key a raw j w)
    (happly : a.apply (runWith n) value j w = .error r w')
    (halone : ∀ k c', ¬Action.Calls n value j (a.handler.noted value j w) a.handler.action k c') :
    Appends ev o [] w w' := by
  obtain ⟨old, hj, -⟩ := h.located hc
  rcases hc.step_cases hcomes with ⟨rfl | rfl, -⟩ | ⟨⟨ha, rfl, hjournal⟩, -⟩ | ⟨rfl, rfl⟩
  · cases happly
  · rw [Aspect.apply_of_journal rfl] at happly
    simp only [Aspect.ofBindingForm, Action.perform_bindForm] at happly
    cases hb : w.store.resolveIn j value >>= Bindings.add [] with
    | error e =>
        simp only [hb] at happly
        cases happly
        exact .refl w
    | ok b => simp only [hb, reduceCtorEq] at happly
  · have hadds := adds_perform (runWith n) (h.appends.faithful hc.faithful) hj ha value
    rw [Aspect.apply_of_journal hjournal] at happly
    cases hperform : a.handler.action.perform (runWith n) value j w with
    | error r w₁ =>
        rw [hperform] at hadds happly
        cases happly
        exact hadds
    | ok x w₁ =>
        rw [hperform] at hadds happly
        obtain ⟨rfl, -⟩ := hadds
        cases happly
  · obtain ⟨m, hfound⟩ := h.inForce
    rw [apply_sequence hfound] at happly
    cases hms : value.members with
    | error e =>
        rw [hms] at happly
        cases happly
        exact .refl w
    | ok ms =>
        rw [hms] at happly
        obtain ⟨first, sub, rest, j₁, w₁, rfl, hfirst, -⟩ := callAll_eq_error happly
        exact (halone _ _ (.member hfound hms hfirst)).elim

-- A step that fails by itself has added nothing.
theorem Stage.breaks (h : Stage ev o c new j w) (hc : Feeds ev o c)
    (hcomes : c.ComesTo n before key a raw j w) (hbreaks : Call.Breaks n a raw j w r) :
    ∃ w', fireAt (runWith n) key a c.data j w = .error (r.through key) w' ∧
      Appends ev o [] w w' := by
  rw [Call.fireAt_handed _ a hcomes.value]
  cases hbreaks with
  | resolving unresolved =>
      rw [unresolved]
      exact ⟨_, rfl, .remember w _⟩
  | @applying value r w₁ resolved raises alone =>
      simp only [resolved, Engine.under_apply, raises]
      exact ⟨_, rfl, (h.apply_alone hc hcomes raises alone).trans (.remember _ _)⟩

-- Only the sequence starts runs.
theorem Feeds.member_of_begins (hc : Feeds ev o c) {c' : Call} {k : Nat}
    (hbegins : c.Begins key k c') : key = "steps" ∧ c.Member "steps" k c' := by
  obtain ⟨n, before, a, raw, value, j, w, hcomes, hvalue, hcalls⟩ := hbegins
  rcases hc.step_cases hcomes with ⟨rfl | rfl, -⟩ | ⟨⟨ha, rfl, -⟩, -⟩ | ⟨rfl, rfl⟩
  · cases hcalls
  · cases hcalls
  · simp only [aspects, List.mem_cons, List.not_mem_nil, or_false] at ha
    rcases ha with rfl | rfl | rfl <;> cases hcalls
  · cases hvalue
    exact ⟨rfl, n, before, raw, j, w, hcomes, hcalls⟩

-- What has been collected when a member is started.
theorem Feeds.collected_of_member (hc : Feeds ev o c) {c' : Call} {k : Nat}
    (hmember : c.Member "steps" k c') :
    Feeds ev o c' ∧ (∃ sub, (members c.data)[k]? = some sub ∧ c'.data = Program.body sub) ∧
      Collected ev o c ((keyOrder.takeWhile (· ≠ "steps")).flatMap (sitesAt sites c.data) ++
        memberSites sites 0 ((members c.data).take k)) c'.scope c'.world := by
  obtain ⟨n, before, raw, j, w, hcomes, hcalls⟩ := hmember
  obtain ⟨after, hstands⟩ := hcomes.stands
  have hbefore := Collected.of_stands (collecting ev o n) hc hstands
  rw [keys_before hc hcomes] at hbefore
  cases hcalls with
  | @member _ l m first rest sub j' w' found hms done =>
      have hl : l = c.language := by
        obtain ⟨new, hstage, -⟩ := hbefore
        exact World.InForce.unique ⟨m, found⟩ hstage.inForce
      subst hl
      have hmembers := members_eq hcomes.value hms
      have hall : raw.members = .ok ([] ++ first ++ sub :: rest) := hms
      have hcollected := Collected.members (collecting ev o n) hc hcomes found hall rfl hbefore done
      obtain ⟨new, hstage, hmade⟩ := hcollected
      obtain ⟨htarget, -, hfeeds⟩ := hc.member hcomes found hms done hstage
      rw [htarget]
      refine ⟨hfeeds, ⟨sub, by simp [hmembers], rfl⟩, ?_⟩
      rw [hmembers, List.take_left]
      exact ⟨new, hstage, hmade⟩

-- A run that fails has made the steps for the sites before the end of its failing path. By
-- induction on the path.
theorem appends_of_fails {path : List (String × Nat)} (h : c.Fails Call.Begins path r₀)
    (hc : Feeds ev o c) (hresult : c.result = .error r w') :
    ∃ new, Appends ev o new c.world w' ∧
      List.Forall₂ (Made c) (sitesBefore c.data path) new := by
  induction h generalizing r w' with
  | unread unread =>
      refine ⟨[], ?_, .nil⟩
      cases unread with
      | spent fuel =>
          unfold Call.result at hresult
          rw [fuel] at hresult
          cases hresult
          exact .refl _
      | key stands absent unreadable =>
          rw [stands.result_eq, fireAll_cons_apply] at hresult
          have hstart := (Stage.start hc).appends
          rcases unreadable with hname | ⟨hname, hvalue⟩
          · rw [hname] at hresult
            cases hresult
            exact hstart
          · simp only [hname, fireAt_apply, hvalue] at hresult
            cases hresult
            exact hstart
  | @own c n before key a raw j w r₀ comes breaks =>
      obtain ⟨after, hstands⟩ := comes.stands
      obtain ⟨new, hstage, hmade⟩ := Collected.of_stands (collecting ev o n) hc hstands
      rw [keys_before hc comes] at hmade
      obtain ⟨w₁, hfire, happends⟩ := hstage.breaks hc comes breaks
      rw [hstands.result_eq, fireAll_cons_apply, comes.present] at hresult
      simp only [hfire] at hresult
      cases hresult
      refine ⟨new ++ [], hstage.appends.trans happends, ?_⟩
      rwa [sitesBefore_single, List.append_nil]
  | @within c c' key k path r₀ r₁ w₁ enters raises fails ih =>
      obtain ⟨rfl, hmember⟩ := hc.member_of_begins enters
      obtain ⟨hc', ⟨sub, hsub, hdata⟩, new, hstage, hmade⟩ := hc.collected_of_member hmember
      obtain ⟨added, happends, hmade'⟩ := ih hc' raises
      rw [hmember.raises raises] at hresult
      cases hresult
      refine ⟨new ++ added, ?_, ?_⟩
      · have hall := (hstage.appends.trans happends).trans (.remember w₁ (r₁.through "steps"))
        rwa [List.append_nil] at hall
      · rw [sitesBefore, if_pos rfl, hsub, ← List.append_assoc]
        refine List.rel_append hmade ?_
        rw [List.forall₂_map_left_iff, ← hdata]
        exact hmade'.imp fun _ _ hstep => hstep.below hmember

-- A scope sees this list, where it has seen one before, and nothing else that existed has changed.
structure Holds (i o : ScopeId) (list : List Value) (w w' : World) : Prop where
  sees : w'.store.locate i pipelineName = .ok (some (o, .list list))
  others : ∀ k, k ≠ o → k < w.store.size → w'.store.scope? k = w.store.scope? k
  parent : w'.store.parent? o = w.store.parent? o
  names : (w'.store.bindings o).names = (w.store.bindings o).names
  values : ∀ name, name ≠ pipelineName →
    (w'.store.bindings o).find? name = (w.store.bindings o).find? name

theorem Appends.holds (h : Appends ev o new w w') {i : ScopeId} {old : List Value}
    (hold : w.store.locate i pipelineName = .ok (some (o, .list old))) :
    Holds i o (old ++ new) w w' :=
  ⟨h.sees hold, fun _ => h.others, h.parent, h.names, fun _ => h.values⟩

end

-- A run that succeeds adds one step for each site of its data, in order; one that fails adds those
-- for the sites before the end of its failing path. The list stays where it was, and nothing else
-- that existed before is changed.
theorem run_collects_steps {ev l : Nat} {w : World} (hlanguage : language ev = .ok (w.language l))
    {id : Nat} {requests : List (Value × Value)} (hev : w.evaluator ev = .after id requests)
    {data : Value} (hraw : AllRaw data) {i o : ScopeId} {old : List Value}
    (hlist : w.store.locate i pipelineName = .ok (some (o, .list old)))
    (hpipeline : ¬(Call.ofRun l data i w).Binds pipelineName)
    (hrunner : ¬(Call.ofRun l data i w).Binds runnerName) :
    (∀ j w', run l data i w = .ok j w' →
      ∃ new, List.Forall₂ (Made (.ofRun l data i w)) (sites data) new ∧
        Holds i o (old ++ new) w w' ∧
        w'.store.locate j pipelineName = .ok (some (o, .list (old ++ new)))) ∧
    ∀ r w', run l data i w = .error r w' →
      ∃ path r₀ new, (Call.ofRun l data i w).Fails Call.Begins path r₀ ∧ r = r₀.along path ∧
        sitesBefore data path <+: sites data ∧
        List.Forall₂ (Made (.ofRun l data i w)) (sitesBefore data path) new ∧
        Holds i o (old ++ new) w w' := by
  have hfaithful : (w.evaluator ev).Faithful := by
    rw [hev]
    exact Evaluator.faithful_after id requests
  have hc : Feeds ev o (.ofRun l data i w) :=
    ⟨hlanguage, hraw, hpipeline, hrunner, hfaithful, old, hlist⟩
  constructor
  · intro j w' hrun
    obtain ⟨new, hstage, hmade⟩ := collecting ev o _ (.ofRun l data i w) rfl hc j w' hrun
    have hholds := hstage.appends.holds hlist
    exact ⟨new, hmade, hholds, hstage.sees.trans hholds.sees⟩
  · intro r w' hrun
    obtain ⟨path, r₀, hfails, hr, -⟩ := (Call.ofRun l data i w).exists_fails hrun
    obtain ⟨new, happends, hmade⟩ := appends_of_fails hfails hc hrun
    exact ⟨path, r₀, new, hfails, hr, sitesBefore_prefix_sites data path, hmade,
      happends.holds hlist⟩

namespace Sample

-- A world with the pipeline language, a list that is not empty, and a scope below it.
def mill : World :=
  { World.empty with
    languages := [(language 0).toOption.getD default]
    evaluators := [.empty 0]
    store := (Store.empty.push none [(pipelineName, .list [.null])]).push (some 0) [("n", .int 1)] }

theorem mill_language : language 0 = .ok (mill.language 0) := rfl

-- A program with one step, which refers to an expression.
def single (key path : String) : Value := .object [(key, .object [("expression", .str path)])]

def inner : Value :=
  .object [("bind", .object [("n", .int 2)]),
    ("steps", .list [single "transform" "@config.more", single "transform" "@config.broken"])]

-- A program whose second member fails in its second member.
def grist : Value :=
  .object [("config", .object [("more", .str "x + 1"), ("odd", .str "x % 2"),
      ("broken", .str "(")]),
    ("steps", .list [single "filter" "@config.odd", inner, single "transform" "@config.more"]),
    ("transform", .object [("expression", .str "@config.more")])]

-- The data of the program and of all its members.
def parts : List Value :=
  [grist, inner, single "filter" "@config.odd", single "transform" "@config.more",
    single "transform" "@config.broken"]

theorem parts_members {d m : Value} (hd : d ∈ parts) (hm : m ∈ members d) :
    m.kind ≠ .program ∧ Program.body m ∈ parts := by
  have hall : parts.flatMap members = [single "filter" "@config.odd", inner,
      single "transform" "@config.more", single "transform" "@config.more",
      single "transform" "@config.broken"] := rfl
  have hmem := List.mem_flatMap.mpr ⟨d, hd, hm⟩
  rw [hall] at hmem
  simp only [List.mem_cons, List.not_mem_nil, or_false] at hmem
  rcases hmem with rfl | rfl | rfl | rfl | rfl <;>
    exact ⟨by decide, by simp [parts, Program.body, Program.target, Program.dataOf, single, inner,
      Value.object]⟩

theorem parts_bind {d raw : Value} (hd : d ∈ parts) (h : d.atName "bind" = .ok raw) :
    raw = .object [("n", .int 2)] := by
  have hall : parts.map (·.atName "bind") =
      [.error (.missingKey (.str "bind")), .ok (.object [("n", .int 2)]),
        .error (.missingKey (.str "bind")), .error (.missingKey (.str "bind")),
        .error (.missingKey (.str "bind"))] := rfl
  have hmem : d.atName "bind" ∈ parts.map (·.atName "bind") := List.mem_map_of_mem hd
  rw [hall, h] at hmem
  simpa using hmem

theorem parts_empty {d : Value} (hd : d ∈ parts) :
    d.atName "" = .error (.missingKey (.str "")) := by
  have hall : parts.map (·.atName "") = List.replicate 5 (.error (.missingKey (.str ""))) := rfl
  have hmem : d.atName "" ∈ parts.map (·.atName "") := List.mem_map_of_mem hd
  rw [hall] at hmem
  exact List.eq_of_mem_replicate hmem

-- Calls that read nothing else.
def ReadsParts (c : Call) : Prop := c.world.languages = mill.languages ∧ c.data ∈ parts

theorem ReadsParts.step {c : Call} (h : ReadsParts c) {n : Nat} {before : List (String × Aspect)}
    {key : String} {a : Aspect} {raw : Value} {j : ScopeId} {w : World}
    (hcomes : c.ComesTo n before key a raw j w) : (key, a) ∈ steps 0 := by
  have hstep := List.mem_of_mem_filter hcomes.mem_steps
  have hlanguage : c.world.language c.language = mill.language c.language := by
    unfold World.language
    rw [h.1]
  rw [hlanguage] at hstep
  cases hl : c.language with
  | zero =>
      rw [hl, steps_of_language mill_language] at hstep
      exact hstep
  | succ l =>
      -- a number without a language stands for one whose only key is empty
      have hsteps : (mill.language (l + 1)).steps = [("", .ofBindingForm 0 "")] := rfl
      rw [hl, hsteps, List.mem_singleton] at hstep
      cases hstep
      have hvalue := hcomes.value
      rw [parts_empty h.2] at hvalue
      cases hvalue

theorem ReadsParts.starts {c c' : Call} (h : ReadsParts c) (hstarts : c.Starts c') :
    ReadsParts c' := by
  refine ⟨hstarts.languages.trans h.1, ?_⟩
  cases hstarts with
  | @member fuel key value m j j' v v' l k first rest performs found hms done =>
      obtain ⟨before, key, a, raw, w, hcomes, haction, hvalue, rfl⟩ := performs
      rcases mem_steps.mp (h.step hcomes) with
        ⟨rfl, rfl⟩ | ⟨rfl, rfl⟩ | ⟨rfl, rfl⟩ | ⟨rfl, rfl⟩ | ⟨rfl, rfl⟩ | ⟨rfl, rfl⟩ <;>
        cases haction
      cases hvalue
      rw [Program.target_body]
      exact (parts_members h.2 (by simp [members_eq hcomes.value hms])).2
  | sub performs found =>
      obtain ⟨before, key, a, raw, w, hcomes, haction, -, -⟩ := performs
      rcases mem_steps.mp (h.step hcomes) with
        ⟨rfl, rfl⟩ | ⟨rfl, rfl⟩ | ⟨rfl, rfl⟩ | ⟨rfl, rfl⟩ | ⟨rfl, rfl⟩ | ⟨rfl, rfl⟩ <;>
        cases haction

theorem grist_not_binds {name : String} (hname : name ∉ ["@config", "n"]) :
    ¬(Call.ofRun 0 grist 1 mill).Binds name := by
  rintro ⟨c, hreaches, hbinds⟩
  have hparts : ReadsParts c := by
    clear hbinds
    induction hreaches with
    | refl => exact ⟨rfl, List.mem_cons_self⟩
    | tail _ hstep ih => exact ih.starts hstep
  obtain ⟨fuel, value, j, v, hbinds⟩ := hbinds
  rcases hbinds with ⟨key, ⟨before, key', a, raw, w, hcomes, haction, -, -⟩, rfl⟩ |
    ⟨key, b, ⟨before, key', a, raw, w, hcomes, haction, hvalue, -⟩, hb, hmem⟩
  all_goals
    rcases mem_steps.mp (hparts.step hcomes) with
      ⟨rfl, rfl⟩ | ⟨rfl, rfl⟩ | ⟨rfl, rfl⟩ | ⟨rfl, rfl⟩ | ⟨rfl, rfl⟩ | ⟨rfl, rfl⟩ <;>
      cases haction
  · exact hname List.mem_cons_self
  · cases hvalue
    obtain rfl := parts_bind hparts.2 hcomes.value
    have hnames : v.store.resolveIn j (.object [("n", .int 2)]) >>= Bindings.add [] =
        .ok [("n", .int 2)] := rfl
    rw [hnames] at hb
    cases hb
    exact hname (List.mem_cons_of_mem _ hmem)

-- A failure that leaves three steps behind what the list of the root scope held.
def failsAfterThree : EStateM.Result Raised World ScopeId → Bool
  | .ok _ _ => false
  | .error _ w => match w.store.locate 1 pipelineName with
    | .ok (some (0, .list [.null, _, _, _])) => true
    | _ => false

theorem run_grist : ∃ r w' x y z, run 0 grist 1 mill = .error r w' ∧
    w'.store.locate 1 pipelineName = .ok (some (0, .list [.null, x, y, z])) := by
  have hfails : failsAfterThree (run 0 grist 1 mill) = true := by decide +kernel
  unfold failsAfterThree at hfails
  split at hfails
  next => cases hfails
  next r w' hrun =>
    split at hfails
    next x y z hlist => exact ⟨r, w', x, y, z, hrun, hlist⟩
    next => cases hfails

-- Three steps are made before the program fails, and they are added to what the root scope held.
theorem run_collects_steps_grist : ¬(Call.ofRun 0 grist 1 mill).Binds pipelineName ∧
    ∃ r w' path r₀ new, run 0 grist 1 mill = .error r w' ∧
      (Call.ofRun 0 grist 1 mill).Fails Call.Begins path r₀ ∧
      List.Forall₂ (Made (.ofRun 0 grist 1 mill)) (sitesBefore grist path) new ∧
      Holds 1 0 (.null :: new) mill w' ∧ new.length = 3 := by
  have hpipeline : ¬(Call.ofRun 0 grist 1 mill).Binds pipelineName := grist_not_binds (by decide)
  have hraw : AllRaw grist :=
    allRaw_of_closed (D := (· ∈ parts)) (fun d hd m => parts_members hd) List.mem_cons_self
  have hlist : mill.store.locate 1 pipelineName = .ok (some (0, .list [.null])) := rfl
  have hev : mill.evaluator 0 = .after 0 [] := rfl
  obtain ⟨r, w', x, y, z, hrun, hafter⟩ := run_grist
  obtain ⟨path, r₀, new, hfails, -, -, hmade, hholds⟩ :=
    (run_collects_steps mill_language hev hraw hlist hpipeline (grist_not_binds (by decide))).2
      r w' hrun
  have hnew : new = [x, y, z] := by
    have hsees := hholds.sees
    rw [hafter] at hsees
    simpa using hsees.symm
  exact ⟨hpipeline, r, w', path, r₀, new, hrun, hfails, hmade, hholds, by rw [hnew]; rfl⟩

end Sample

end Pipeline

end Dialect
