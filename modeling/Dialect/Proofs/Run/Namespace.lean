import Dialect.Proofs.Language.Derivation
import Dialect.Proofs.Run.Unmixed
import Dialect.Proofs.Scope.Update

namespace Dialect

namespace Path

theorem splitDots_of_notMem {cs : List Char} (h : '.' ∉ cs) : splitDots cs = [cs] := by
  induction cs with
  | nil => rfl
  | cons c cs ih =>
      have hc : c ≠ '.' := fun hc => h (hc ▸ List.mem_cons_self)
      rw [splitDots, if_neg hc, ih fun hcs => h (List.mem_cons_of_mem _ hcs)]

-- A name without a dot is a path of one part.
theorem parts_of_notMem {name : String} (h : '.' ∉ name.toList) : parts name = [name] := by
  simp [parts, splitDots_of_notMem h]

theorem parts_at {key : String} (h : '.' ∉ key.toList) : parts ("@" ++ key) = ["@" ++ key] := by
  refine parts_of_notMem ?_
  rw [String.toList_append, List.mem_append]
  exact fun hmem => hmem.elim (by decide) h

end Path

namespace Store

section

variable {name : String} (hname : Path.parts name = [name])
include hname

theorem resolve_push_of_notMem (s : Store) (p : ScopeId) {b : Bindings} (hb : name ∉ b.names) :
    (s.push p b).resolve s.size name = s.resolve p name := by
  rw [resolve_eq_locate, resolve_eq_locate, locate_push_size hname s p hb]

theorem resolve_push_self (s : Store) (p : ScopeId) (r : Value) :
    (s.push p [(name, r)]).resolve s.size name = .ok r := by
  rw [resolve_eq_view, view_push_size]
  have hlookup : Bindings.lookup [(name, r)] [name] = .ok (some r) := by
    simp [Bindings.lookup, Bindings.find?, Path.find]
  rw [View.resolve, hname, View.search, hlookup]
  rfl

end

theorem getD_of_resolve {s : Store} {i : ScopeId} {path : String} {x : Value}
    (h : s.resolve i path = .ok x) (d : Value) : s.getD i path d = .ok x := by
  obtain ⟨o, ho⟩ := locate_of_resolve h
  rw [getD_eq_locate, ho]
  rfl

end Store

-- A sequence that succeeds has no members, or has run them by a function for sub-programs.
theorem apply_sequence_eq_ok {run : Runner} {key : String} {raw : Value} {j j' : ScopeId}
    {w w' : World} (h : (Aspect.ofSequence 0 key).apply run raw j w = .ok j' w') :
    (j' = j ∧ w' = w) ∨ ∃ l k ms, w.store.getD j runnerName .null = .ok (.runner l k) ∧
      raw.members = .ok ms ∧ run.callAll (.runner l k) ms j w = .ok j' w' := by
  cases hfound : w.store.getD j runnerName .null with
  | error e =>
      rw [Aspect.apply_of_journal rfl] at h
      simp only [Aspect.ofSequence, Action.perform_runSequence, hfound, reduceCtorEq] at h
  | ok f =>
      by_cases hf : ∃ l k, f = .runner l k
      · obtain ⟨l, k, rfl⟩ := hf
        obtain ⟨ms, hms, hcall⟩ := perform_sequence_eq_ok hfound h
        exact .inr ⟨l, k, ms, rfl, hms, hcall⟩
      · have hcall : ∀ m ms, ∃ r v, run.callAll f (m :: ms) j w = .error r v := by
          intro m ms
          rw [callAll_cons_apply]
          cases f with
          | runner l k => exact absurd ⟨l, k, rfl⟩ hf
          | _ => exact ⟨_, _, rfl⟩
        rw [Aspect.apply_of_journal rfl] at h
        simp only [Aspect.ofSequence, Action.perform_runSequence, hfound] at h
        by_cases hnull : f = .null
        · simp [hnull] at h
        · cases hms : raw.members with
          | error e => simp [hms] at h
          | ok ms =>
              cases ms with
              | nil =>
                  have hnone : run.callAll f [] j w = .ok j w := rfl
                  simp only [hms, hnone, EStateM.Result.ok.injEq] at h
                  exact .inl ⟨h.1.symm, h.2.symm⟩
              | cons m ms =>
                  obtain ⟨r, v, hr⟩ := hcall m ms
                  simp [hms, hr] at h

namespace Language

-- The namespaces of a plain language are its first steps, and all of them stand there.
theorem Plain.namespaces {L : Language} (h : L.Plain) :
    L.bindingIndex ≤ L.steps.length ∧ (∀ k, (.str k, .nameSpace) ∈ Markers.occurrences L.grammar →
      (k, .ofNamespace 0 k) ∈ L.steps.take L.bindingIndex) ∧
    ∀ step ∈ L.steps.take L.bindingIndex, step.2 = .ofNamespace 0 step.1 := by
  obtain ⟨keys, bindingKey, grammar, hL⟩ := h
  obtain ⟨ms, ns, bs, ss, hd⟩ := declare_eq_ok hL
  have hexplicit : L.explicitKeys = [] := by
    rw [explicitKeys, ← Except.ok.inj hd.explicit, List.map_nil]
  have harranged := hd.arranged
  obtain ⟨before, after, hsteps, hbefore, -, haspects⟩ := harranged.steps_eq
  have hlength : before.length = L.bindingIndex := by
    rw [hd.bindingIndex, ← hd.names_nameSpace, ← hbefore, List.length_map]
  have htake : L.steps.take L.bindingIndex = before := by
    rw [hsteps, ← hlength, List.take_left]
  have haspect {k : String} (hk : L.markers.find? (.str k) = some .nameSpace) :
      L.aspect? k = some (.ofNamespace 0 k) :=
    harranged.ofNamespace k hk (by simp [hexplicit])
  rw [htake]
  refine ⟨by rw [hsteps, ← hlength]; simp, fun k hk => ?_, fun step hstep => ?_⟩
  · rw [harranged.marked] at hk
    have hmem : k ∈ before.map (·.1) := by
      rw [hbefore]
      exact hd.mem_names_iff.mpr hk
    obtain ⟨⟨k', a⟩, he, rfl⟩ := List.mem_map.mp hmem
    have ha := haspects _ (List.mem_append_left _ he)
    rw [haspect hk] at ha
    obtain rfl : .ofNamespace 0 k' = a := Option.some.inj ha
    exact he
  · have hmem : step.1 ∈ L.markers.names .nameSpace := hbefore ▸ List.mem_map_of_mem hstep
    have ha := haspects step (List.mem_append_left _ hstep)
    rw [haspect (hd.mem_names_iff.mp hmem)] at ha
    exact (Option.some.inj ha).symm

end Language

namespace Call

-- A binding form that the call or one on its way comes to binds the name.
def FormBinds (c : Call) (name : String) : Prop :=
  ∃ c', c.Reaches c' ∧ ∃ fuel key value b j v, c'.Performs fuel (.bindForm key) value j v ∧
    (v.store.resolveIn j value >>= Bindings.add []) = .ok b ∧ name ∈ b.names

-- Nothing in a call or on its way binds the name of a namespace to another value: only plain
-- languages are used, binding forms leave the name alone, and where the key occurs in data, the
-- value stands at it. Every run binds one name itself, that of the function for sub-programs.
structure Spares (c : Call) (key : String) (r : Value) : Prop where
  plain : c.AllPlain
  whole : '.' ∉ key.toList
  forms : ¬c.FormBinds ("@" ++ key)
  value : ∀ c', c.Reaches c' → c'.data.hasName key = .ok true → c'.data.atName key = .ok r
  function : key = "runner" → ∀ l n, r ≠ .runner l n

theorem Starts.fuel_eq {c c' : Call} (h : c.Starts c') : c.fuel = c'.fuel + 1 := by
  cases h with
  | member performs =>
      obtain ⟨_, _, _, _, _, ⟨⟨_, hstands⟩, -, -⟩, -⟩ := performs
      exact hstands.fuel
  | sub performs =>
      obtain ⟨_, _, _, _, _, ⟨⟨_, hstands⟩, -, -⟩, -⟩ := performs
      exact hstands.fuel

-- A run of the call that succeeds ends in a scope that sees the value.
def Carries (c : Call) (name : String) (r : Value) : Prop :=
  ∀ j w, runWith c.fuel c.language c.data c.scope c.world = .ok j w →
    w.store.resolve j name = .ok r

section

variable {c c' : Call} {key : String} {r : Value} {n : Nat} {j j' : ScopeId} {w w' : World}

theorem Spares.of_starts (h : c.Spares key r) (hstarts : c.Starts c') : c'.Spares key r where
  plain := hstarts.allPlain h.plain
  whole := h.whole
  forms := by
    rintro ⟨d, hd, hbinds⟩
    exact h.forms ⟨d, .head hstarts hd, hbinds⟩
  value d hd := h.value d (.head hstarts hd)
  function := h.function

theorem Spares.synthetic (h : c.Spares key r) {before : List (String × Aspect)} {own : String}
    {a : Aspect} {raw : Value} (hcomes : c.ComesTo n before own a raw j w) : a.Synthetic own :=
  (h.plain c .refl).synthetic (List.mem_of_mem_filter hcomes.mem_steps)

-- Where the value is seen and there is a function for sub-programs, that has another name.
theorem Spares.ne_runnerName (h : c.Spares key r) (hsees : w.store.resolve j ("@" ++ key) = .ok r)
    {l k : Nat} (hfound : w.store.getD j runnerName .null = .ok (.runner l k)) :
    "@" ++ key ≠ runnerName := by
  intro heq
  have hkey : key = "runner" := String.append_right_inj "@" |>.mp heq
  rw [heq] at hsees
  rw [Store.getD_of_resolve hsees] at hfound
  exact h.function hkey l k (Except.ok.inj hfound)

-- The scope of a namespace or a binding form still sees the value.
theorem Spares.resolve_of_opens (h : c.Spares key r) {before : List (String × Aspect)}
    {own : String} {a : Aspect} {raw : Value} (hcomes : c.ComesTo n before own a raw j w)
    (ha : a = .ofNamespace 0 own ∨ a = .ofBindingForm 0 own)
    (hsees : w.store.resolve j ("@" ++ key) = .ok r)
    (happly : a.apply (runWith n) raw j w = .ok j' w') :
    w'.store.resolve j' ("@" ++ key) = .ok r := by
  have hname := Path.parts_at h.whole
  rcases ha with rfl | rfl
  · rw [Aspect.apply_of_journal rfl] at happly
    cases happly
    by_cases hown : own = key
    · subst hown
      have hraw := hcomes.value.symm.trans (h.value c .refl hcomes.present)
      rw [Except.ok.inj hraw]
      exact Store.resolve_push_self hname w.store j r
    · refine (Store.resolve_push_of_notMem hname w.store j fun hmem => hown ?_).trans hsees
      have heq : "@" ++ key = "@" ++ own := by simpa [Bindings.names] using hmem
      exact (String.append_right_inj "@" |>.mp heq).symm
  · rw [Aspect.apply_of_journal rfl] at happly
    simp only [Aspect.ofBindingForm, Action.perform_bindForm] at happly
    cases hb : w.store.resolveIn j raw >>= Bindings.add [] with
    | error e => simp only [hb, reduceCtorEq] at happly
    | ok b =>
        simp only [hb] at happly
        cases happly
        refine (Store.resolve_push_of_notMem hname w.store j fun hmem => h.forms ?_).trans hsees
        exact ⟨c, .refl, n, own, raw, b, j, w, hcomes.performs rfl rfl, hb, hmem⟩

-- Members hand the sight of the value on, from left to right, if runs that succeed do.
theorem resolve_of_callAll {before : List (String × Aspect)} {own : String} {raw : Value}
    {j₀ : ScopeId} {w₀ : World} (hcomes : c.ComesTo n before own (.ofSequence 0 own) raw j₀ w₀)
    {l k : Nat} (hfound : w₀.store.getD j₀ runnerName .null = .ok (.runner l k))
    (hruns : ∀ c', c.Starts c' → c'.world.store.resolve c'.scope ("@" ++ key) = .ok r →
      c'.Carries ("@" ++ key) r)
    {first ms rest : List Value} (hms : raw.members = .ok (first ++ (ms ++ rest)))
    (hdone : (runWith n).callAll (.runner l k) first j₀ w₀ = .ok j w)
    (hsees : w.store.resolve j ("@" ++ key) = .ok r)
    (hcall : (runWith n).callAll (.runner l k) ms j w = .ok j' w') :
    w'.store.resolve j' ("@" ++ key) = .ok r := by
  induction ms generalizing first j w with
  | nil =>
      cases hcall
      exact hsees
  | cons m ms ih =>
      have hstarts := hcomes.starts hfound hms hdone
      rw [callAll_cons_apply, Runner.call_runner] at hcall
      cases hrun : runWith n (Program.target l m).1 (Program.target l m).2 j w with
      | error e w₁ => simp only [hrun, reduceCtorEq] at hcall
      | ok j₁ w₁ =>
          simp only [hrun] at hcall
          have hrest : raw.members = .ok ((first ++ [m]) ++ (ms ++ rest)) := by simpa using hms
          exact ih hrest (callAll_concat_eq_ok hdone hrun) (hruns _ hstarts hsees j₁ w₁ hrun) hcall

-- Steps hand it on. By induction on the steps, from left to right.
theorem Spares.resolve_of_fireAll (h : c.Spares key r)
    (hruns : "@" ++ key ≠ runnerName → ∀ c', c.Starts c' →
      c'.world.store.resolve c'.scope ("@" ++ key) = .ok r → c'.Carries ("@" ++ key) r)
    {done rest after : List (String × Aspect)} (hstands : c.Stands n done (rest ++ after) j w)
    (hsees : w.store.resolve j ("@" ++ key) = .ok r)
    (hfire : fireAll (runWith n) c.data rest j w = .ok j' w') :
    w'.store.resolve j' ("@" ++ key) = .ok r := by
  induction rest generalizing done j w with
  | nil =>
      cases hfire
      exact hsees
  | cons step rest ih =>
      obtain ⟨own, a⟩ := step
      rcases fireAll_cons_eq_ok hfire with
        ⟨habsent, hrest⟩ | ⟨hpresent, raw, j₁, w₁, hraw, hat, hrest⟩
      · exact ih (hstands.skip habsent) hsees hrest
      · have hcomes : c.ComesTo n done own a raw j w := ⟨⟨_, hstands⟩, hpresent, hraw⟩
        have hsynthetic := h.synthetic hcomes
        have happly : a.apply (runWith n) raw j w = .ok j₁ w₁ :=
          apply_of_fireAt_eq_ok (by cases hsynthetic <;> rfl) hraw hat
        refine ih (hstands.next hpresent hat) ?_ hrest
        cases hsynthetic with
        | nameSpace => exact h.resolve_of_opens hcomes (.inl rfl) hsees happly
        | bindingForm => exact h.resolve_of_opens hcomes (.inr rfl) hsees happly
        | sequence =>
            rcases apply_sequence_eq_ok happly with ⟨rfl, rfl⟩ | ⟨l, k, ms, hfound, hms, hcall⟩
            · exact hsees
            · have hname := h.ne_runnerName hsees hfound
              have hall : raw.members = .ok ([] ++ (ms ++ [])) := by simpa using hms
              exact resolve_of_callAll hcomes hfound (hruns hname) hall rfl hsees hcall

-- The scope in which a run walks through its steps sees what is seen where it starts.
theorem Spares.resolve_opened (h : c.Spares key r) (hname : "@" ++ key ≠ runnerName)
    (hsees : c.world.store.resolve c.scope ("@" ++ key) = .ok r) :
    c.opened.store.resolve c.world.store.size ("@" ++ key) = .ok r := by
  refine (Store.resolve_push_of_notMem (Path.parts_at h.whole) _ _ fun hmem => hname ?_).trans hsees
  simpa [Bindings.names] using hmem

-- By induction on the fuel.
theorem Spares.carries (h : c.Spares key r) (hname : "@" ++ key ≠ runnerName)
    (hsees : c.world.store.resolve c.scope ("@" ++ key) = .ok r) : c.Carries ("@" ++ key) r := by
  induction hfuel : c.fuel generalizing c with
  | zero =>
      intro j w hrun
      rw [hfuel] at hrun
      cases hrun
  | succ n ih =>
      intro j w hrun
      rw [hfuel, runWith_succ_apply] at hrun
      have hstands : c.Stands n [] ((c.world.language c.language).steps ++ []) c.world.store.size
          c.opened := by
        rw [List.append_nil]
        exact .start hfuel
      refine h.resolve_of_fireAll (fun _ c' hstarts hsees' => ?_) hstands
        (h.resolve_opened hname hsees) hrun
      have hless := hstarts.fuel_eq
      exact ih (h.of_starts hstarts) hsees' (by omega)

-- From where the value is seen, it is seen on.
theorem Spares.resolve_of_stands (h : c.Spares key r) {done rest after : List (String × Aspect)}
    (hstands : c.Stands n done (rest ++ after) j w)
    (hsees : w.store.resolve j ("@" ++ key) = .ok r)
    (hfire : fireAll (runWith n) c.data rest j w = .ok j' w') :
    w'.store.resolve j' ("@" ++ key) = .ok r :=
  h.resolve_of_fireAll (fun hname _ hstarts hsees' => (h.of_starts hstarts).carries hname hsees')
    hstands hsees hfire

-- A call that starts where the value is seen sees it before each of its steps.
theorem Spares.resolve_of_start (h : c.Spares key r) (hname : "@" ++ key ≠ runnerName)
    (hsees : c.world.store.resolve c.scope ("@" ++ key) = .ok r)
    {done rest : List (String × Aspect)} (hstands : c.Stands n done rest j w) :
    w.store.resolve j ("@" ++ key) = .ok r := by
  have hstart : c.Stands n [] (done ++ rest) c.world.store.size c.opened := by
    rw [← hstands.steps]
    exact .start hstands.fuel
  exact h.resolve_of_stands hstart (h.resolve_opened hname hsees) hstands.fired

-- Calls are started by sequences only. If the value is seen before each step from some place on,
-- and no sequence stands before that place, they start where it is seen.
theorem Spares.resolve_of_starts (h : c.Spares key r) {m : Nat}
    (hseen : ∀ n done rest j w, c.Stands n done rest j w → m ≤ done.length →
      w.store.resolve j ("@" ++ key) = .ok r)
    (hfirst : ∀ step ∈ (c.world.language c.language).steps.take m, step.2 = .ofNamespace 0 step.1)
    (hstarts : c.Starts c') :
    "@" ++ key ≠ runnerName ∧ c'.world.store.resolve c'.scope ("@" ++ key) = .ok r := by
  cases hstarts with
  | @member fuel own value x j j' v v' l k before rest performs found members done =>
      obtain ⟨fired, own', a, raw, w, hcomes, haction, hvalue, rfl⟩ := performs
      obtain ⟨after, hstands⟩ := hcomes.stands
      cases h.synthetic hcomes with
      | nameSpace => cases haction
      | bindingForm => cases haction
      | sequence =>
          cases hvalue
          have hlength : m ≤ fired.length := by
            by_contra hlt
            have hstep := hfirst (own', .ofSequence 0 own') <| by
              rw [hstands.steps, List.take_append, List.mem_append]
              refine .inr ?_
              obtain ⟨d, hd⟩ : ∃ d, m - fired.length = d + 1 := ⟨m - fired.length - 1, by omega⟩
              simp [hd]
            cases hstep
          have hsees := hseen _ _ _ _ _ hstands hlength
          have hname := h.ne_runnerName hsees found
          have hms : value.members = .ok ([] ++ (before ++ x :: rest)) := members
          refine ⟨hname, resolve_of_callAll hcomes found (fun c' hstarts hsees' => ?_) hms rfl hsees
            done⟩
          exact (h.of_starts hstarts).carries hname hsees'
  | sub performs found =>
      obtain ⟨fired, own, a, raw, w, hcomes, haction, -, -⟩ := performs
      cases h.synthetic hcomes <;> cases haction

-- The namespace has fired before the steps from the binding key on.
theorem Spares.resolve_of_bindingIndex (h : c.Spares key r)
    (hstep : (key, .ofNamespace 0 key) ∈
      (c.world.language c.language).steps.take (c.world.language c.language).bindingIndex)
    (hvalue : c.data.atName key = .ok r) {done rest : List (String × Aspect)}
    (hstands : c.Stands n done rest j w)
    (hlength : (c.world.language c.language).bindingIndex ≤ done.length) :
    w.store.resolve j ("@" ++ key) = .ok r := by
  rw [hstands.steps, List.take_append_of_le_length hlength] at hstep
  obtain ⟨first, later, rfl⟩ := List.append_of_mem (List.mem_of_mem_take hstep)
  have hfired := hstands.fired
  rw [fireAll_append_apply] at hfired
  cases hfire : fireAll (runWith n) c.data first c.world.store.size c.opened with
  | error e v => simp only [hfire, reduceCtorEq] at hfired
  | ok j₀ w₀ =>
      simp only [hfire] at hfired
      have hstands₀ : c.Stands n first ((key, .ofNamespace 0 key) :: (later ++ rest)) j₀ w₀ :=
        ⟨hstands.fuel, by rw [hstands.steps, List.append_assoc]; rfl, hfire⟩
      rcases fireAll_cons_eq_ok hfired with
        ⟨habsent, -⟩ | ⟨hpresent, raw, j₁, w₁, hraw, hat, hrest⟩
      · obtain ⟨e, he⟩ := Value.atName_of_absent habsent
        simp [he] at hvalue
      · have happly := apply_of_fireAt_eq_ok rfl hraw hat
        rw [Aspect.apply_of_journal rfl] at happly
        cases happly
        cases hvalue.symm.trans hraw
        exact h.resolve_of_stands (hstands₀.next hpresent hat)
          (Store.resolve_push_self (Path.parts_at h.whole) w₀.store j₀ r) hrest

-- A call that starts another with the value in sight, hands it on to all calls on its way.
theorem Spares.of_transGen (h : c.Spares key r) {m : Nat}
    (hseen : ∀ n done rest j w, c.Stands n done rest j w → m ≤ done.length →
      w.store.resolve j ("@" ++ key) = .ok r)
    (hfirst : ∀ step ∈ (c.world.language c.language).steps.take m, step.2 = .ofNamespace 0 step.1)
    (hbelow : Relation.TransGen Starts c c') :
    c'.Spares key r ∧ "@" ++ key ≠ runnerName ∧
      c'.world.store.resolve c'.scope ("@" ++ key) = .ok r := by
  induction hbelow with
  | single hstarts => exact ⟨h.of_starts hstarts, h.resolve_of_starts hseen hfirst hstarts⟩
  | tail _ hstarts ih =>
      obtain ⟨hspares, hname, hsees⟩ := ih
      refine ⟨hspares.of_starts hstarts, hspares.resolve_of_starts (m := 0) ?_ (by simp) hstarts⟩
      intro n done rest j w hstands _
      exact hspares.resolve_of_start hname hsees hstands

end

end Call

-- What stands at a namespace key is seen under the key after an at sign, as it was written, before
-- each step from the binding key on, before each step of every call that is started on the way, and
-- after a run that succeeds. The key must be one part of a path, no data of a sub-program mentions
-- it, and binding forms leave the name alone; all languages on the way are plain.
theorem Call.resolve_namespace (c : Call) {key : String} {r : Value} (hplain : c.AllPlain)
    (hmarked : (.str key, .nameSpace) ∈
      Markers.occurrences (c.world.language c.language).grammar)
    (hvalue : c.data.atName key = .ok r) (hwhole : '.' ∉ key.toList)
    (hfunction : key = "runner" → ∀ l n, r ≠ .runner l n)
    (hbelow : ∀ c', Relation.TransGen Starts c c' → c'.data.mentions key = false)
    (hforms : ¬c.FormBinds ("@" ++ key)) :
    (∀ n done rest j w, c.Stands n done rest j w →
      (c.world.language c.language).bindingIndex ≤ done.length →
        w.store.resolve j ("@" ++ key) = .ok r) ∧
    (∀ c', Relation.TransGen Starts c c' → ∀ n done rest j w, c'.Stands n done rest j w →
      w.store.resolve j ("@" ++ key) = .ok r) ∧
    ∀ j w, runWith c.fuel c.language c.data c.scope c.world = .ok j w →
      w.store.resolve j ("@" ++ key) = .ok r := by
  have hspares : c.Spares key r := by
    refine ⟨hplain, hwhole, hforms, fun c' hc' hpresent => ?_, hfunction⟩
    rcases Relation.reflTransGen_iff_eq_or_transGen.mp hc' with rfl | hc'
    · exact hvalue
    · have habsent := hbelow c' hc'
      simp [Value.mentions, hpresent] at habsent
  obtain ⟨hindex, hfired, hfirst⟩ := (hplain c .refl).namespaces
  have hseen (n : Nat) (done rest : List (String × Aspect)) (j : ScopeId) (w : World)
      (hstands : c.Stands n done rest j w)
      (hlength : (c.world.language c.language).bindingIndex ≤ done.length) :
      w.store.resolve j ("@" ++ key) = .ok r :=
    hspares.resolve_of_bindingIndex (hfired key hmarked) hvalue hstands hlength
  refine ⟨hseen, fun c' hc' n done rest j w hstands => ?_, fun j w hrun => ?_⟩
  · obtain ⟨hspares', hname, hsees⟩ := hspares.of_transGen hseen hfirst hc'
    exact hspares'.resolve_of_start hname hsees hstands
  · cases hfuel : c.fuel with
    | zero =>
        rw [hfuel] at hrun
        cases hrun
    | succ n =>
        rw [hfuel, runWith_succ_apply] at hrun
        have hstands : c.Stands n (c.world.language c.language).steps [] j w :=
          ⟨hfuel, by rw [List.append_nil], hrun⟩
        exact hseen n _ _ j w hstands hindex

namespace Sample

-- A program with a namespace, a reference into it, and a sub-program of the same language.
def chore : Value := .object [("bind", .object [("y", .str "x")])]

def household : Call :=
  .ofRun 0 (.object [("config", .object [("a", .str "b")]),
    ("bind", .object [("x", .str "@config.a")]), ("steps", .list [.program chore 0])]) 0 world

-- The program, and the sub-program.
def IsHouseholdOrChore (c : Call) : Prop :=
  c.world.languages = [orders, errands] ∧ c.language = 0 ∧
    (c.data = household.data ∨ c.data = chore)

theorem IsHouseholdOrChore.step {c : Call} (h : IsHouseholdOrChore c) {n : Nat}
    {before : List (String × Aspect)} {key : String} {a : Aspect} {raw : Value} {j : ScopeId}
    {w : World} (hcomes : c.ComesTo n before key a raw j w) :
    a = .ofNamespace 0 key ∨
      (a = .ofBindingForm 0 key ∧ ∃ name p, name ≠ "@config" ∧ raw = .object [(name, .str p)]) ∨
      a = .ofSequence 0 key ∧ raw = .list [.program chore 0] := by
  obtain ⟨hlanguages, hlanguage, hdata⟩ := h
  have hmem := hcomes.mem_steps
  have hraw := hcomes.value
  unfold World.language at hmem
  rw [hlanguages, hlanguage] at hmem
  rcases hdata with hdata | hdata <;> rw [hdata] at hmem hraw
  · have hsteps : orders.steps.filter (household.data.mentions ·.1) =
        [("config", .ofNamespace 0 "config"), ("bind", .ofBindingForm 0 "bind"),
          ("steps", .ofSequence 0 "steps")] := rfl
    change (key, a) ∈ orders.steps.filter (household.data.mentions ·.1) at hmem
    rw [hsteps] at hmem
    simp only [List.mem_cons, Prod.mk.injEq, List.not_mem_nil, or_false] at hmem
    rcases hmem with ⟨rfl, rfl⟩ | ⟨rfl, rfl⟩ | ⟨rfl, rfl⟩
    · exact .inl rfl
    · exact .inr (.inl ⟨rfl, "x", "@config.a", by decide,
        Except.ok.inj (hraw.symm.trans rfl)⟩)
    · exact .inr (.inr ⟨rfl, Except.ok.inj (hraw.symm.trans rfl)⟩)
  · have hsteps : orders.steps.filter (chore.mentions ·.1) =
        [("bind", .ofBindingForm 0 "bind")] := rfl
    change (key, a) ∈ orders.steps.filter (chore.mentions ·.1) at hmem
    rw [hsteps] at hmem
    simp only [List.mem_cons, Prod.mk.injEq, List.not_mem_nil, or_false] at hmem
    obtain ⟨rfl, rfl⟩ := hmem
    exact .inr (.inl ⟨rfl, "y", "x", by decide, Except.ok.inj (hraw.symm.trans rfl)⟩)

theorem IsHouseholdOrChore.starts {c c' : Call} (h : IsHouseholdOrChore c) (hstarts : c.Starts c') :
    IsHouseholdOrChore c' ∧ c'.data = chore := by
  have hlanguages := hstarts.languages.trans h.1
  cases hstarts with
  | @member fuel key value m j j' v v' l k first rest performs found members done =>
      obtain ⟨before, key, a, raw, w, hcomes, haction, hvalue, rfl⟩ := performs
      rcases h.step hcomes with rfl | ⟨rfl, -⟩ | ⟨rfl, rfl⟩
      · cases haction
      · cases haction
      · cases hvalue
        have hm : m ∈ first ++ m :: rest := by simp
        rw [← Except.ok.inj members, List.mem_singleton] at hm
        subst hm
        exact ⟨⟨hlanguages, rfl, .inr rfl⟩, rfl⟩
  | sub performs found =>
      obtain ⟨before, key, a, raw, w, hcomes, haction, -, -⟩ := performs
      rcases h.step hcomes with rfl | ⟨rfl, -⟩ | ⟨rfl, -⟩ <;> cases haction

theorem isHouseholdOrChore_of_reaches {c : Call} (h : household.Reaches c) :
    IsHouseholdOrChore c := by
  induction h with
  | refl => exact ⟨rfl, rfl, .inl rfl⟩
  | tail _ hstep ih => exact (ih.starts hstep).1

theorem household_not_formBinds : ¬household.FormBinds "@config" := by
  rintro ⟨c, hreaches, fuel, key, value, b, j, v,
    ⟨before, key', a, raw, w, hcomes, haction, hvalue, -⟩, hb, hname⟩
  rcases (isHouseholdOrChore_of_reaches hreaches).step hcomes with
    rfl | ⟨rfl, name, p, hne, rfl⟩ | ⟨rfl, -⟩
  · cases haction
  · cases hvalue
    rw [Store.resolveIn_eq_view] at hb
    have hmay := Value.mayName_of_add hb hname
    simp [Value.MayName, Value.object, Ne.symm hne] at hmay
  · cases haction

theorem resolve_namespace_household :
    ∃ j w, run 0 household.data 0 world = .ok j w ∧
      w.store.resolve j "@config" = .ok (.object [("a", .str "b")]) := by
  have hplain : household.AllPlain := by
    intro c hreaches
    rw [(isHouseholdOrChore_of_reaches hreaches).2.1]
    exact orders_plain
  have hmarkers : Markers.occurrences orders.grammar = [(.str "config", .nameSpace),
      (.str "steps", .sequenceOf), (.str "with", .bindingForm)] := rfl
  have hmarked : (.str "config", .nameSpace) ∈
      Markers.occurrences (household.world.language household.language).grammar := by
    change _ ∈ Markers.occurrences orders.grammar
    simp [hmarkers]
  have hbelow : ∀ c, Relation.TransGen Call.Starts household c →
      c.data.mentions "config" = false := by
    intro c hc
    obtain ⟨d, hd, hstep⟩ := Relation.TransGen.tail'_iff.mp hc
    rw [((isHouseholdOrChore_of_reaches hd).starts hstep).2]
    rfl
  have hrun : ∃ j w, run 0 household.data 0 world = .ok j w := ⟨_, _, rfl⟩
  obtain ⟨j, w, hrun⟩ := hrun
  exact ⟨j, w, hrun, (Call.resolve_namespace household hplain hmarked rfl (by decide)
    (fun h => absurd h (by decide)) hbelow household_not_formBinds).2.2 j w hrun⟩

-- A language whose namespace has a dot in its key, one that has the key of the function for
-- sub-programs, and one with an explicit aspect.
def dotted : Language :=
  (Language.declare (["a.b", "bind"].map .str) (.str "bind")
    (.object [("a.b", .str "namespace")]) []).toOption.getD default

def running : Language :=
  (Language.declare (["runner", "steps", "bind"].map .str) (.str "bind")
    (.object [("runner", .str "namespace"),
      ("steps", .list [.str "sequence-of", .map []])]) []).toOption.getD default

def meddling : Language :=
  (Language.declare (["@config", "let"].map .str) (.str "let") (.map [])
    [.inl ⟨"@config", ⟨1, none, none, .bind "@config"⟩, false⟩]).toOption.getD default

def hamlet : World :=
  { World.empty with
    languages := [dotted, running, orders, meddling]
    store := Store.empty.push none [] }

-- The value is out of reach if the key has a dot. It is hidden by the runs of sub-programs if it is
-- itself a function for them and the key is that of this function, and by an explicit aspect of a
-- sub-program that binds the same name.
theorem namespace_out_of_sight :
    (dotted.Plain ∧ (.str "a.b", .nameSpace) ∈ Markers.occurrences dotted.grammar ∧
      ∃ j w, run 0 (.object [("a.b", .int 7)]) 0 hamlet = .ok j w ∧
        w.store.resolve j "@a.b" = .error (.unresolved "@a.b")) ∧
    (running.Plain ∧ (.str "runner", .nameSpace) ∈ Markers.occurrences running.grammar ∧
      ∃ j w, run 1 (.object [("runner", .runner 1 0), ("steps", .list [.map []])]) 0 hamlet =
          .ok j w ∧ w.store.resolve j "@runner" = .ok (.runner 1 3)) ∧
    orders.Plain ∧ (.str "config", .nameSpace) ∈ Markers.occurrences orders.grammar ∧
      ∃ j w, run 2 (.object [("config", .int 7),
          ("steps", .list [.program (.object [("@config", .int 8)]) 3])]) 0 hamlet = .ok j w ∧
        w.store.resolve j "@config" = .ok (.int 8) := by
  refine ⟨⟨plain_of_isOk rfl, ?_, _, _, rfl, rfl⟩,
    ⟨plain_of_isOk rfl, ?_, _, _, rfl, rfl⟩, orders_plain, ?_, _, _, rfl, rfl⟩
  · have hmarkers : Markers.occurrences dotted.grammar = [(.str "a.b", .nameSpace)] := rfl
    simp [hmarkers]
  · have hmarkers : Markers.occurrences running.grammar =
        [(.str "runner", .nameSpace), (.str "steps", .sequenceOf)] := rfl
    simp [hmarkers]
  · have hmarkers : Markers.occurrences orders.grammar = [(.str "config", .nameSpace),
        (.str "steps", .sequenceOf), (.str "with", .bindingForm)] := rfl
    simp [hmarkers]

end Sample

end Dialect
