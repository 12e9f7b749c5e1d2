import Dialect.Proofs.Run.Call
import Dialect.Proofs.Run.Languages

namespace Dialect

-- The function for sub-programs that a scope sees is one for the language.
def World.InForce (w : World) (i : ScopeId) (l : Nat) : Prop :=
  ∃ n, w.store.getD i runnerName .null = .ok (.runner l n)

-- Data without a language of its own.
def Value.IsRaw (v : Value) : Prop := v.kind ≠ .program

namespace World

theorem inForce_iff {w : World} {i : ScopeId} {l : Nat} :
    w.InForce i l ↔ ∃ n, View.search [runnerName] (w.store.view i) = .ok (some (.runner l n)) := by
  unfold InForce
  simp only [Store.getD_eq_view, parts_runnerName]
  constructor
  · rintro ⟨n, h⟩
    cases hs : View.search [runnerName] (w.store.view i) with
    | error e => rw [hs] at h; cases h
    | ok found =>
        cases found with
        | none => rw [hs] at h; cases h
        | some v =>
            rw [hs] at h
            cases h
            exact ⟨n, rfl⟩
  · rintro ⟨n, h⟩
    exact ⟨n, by rw [h]; rfl⟩

theorem InForce.unique {w : World} {i : ScopeId} {l r : Nat} (hl : w.InForce i l)
    (hr : w.InForce i r) : l = r := by
  obtain ⟨n, hn⟩ := hl
  obtain ⟨m, hm⟩ := hr
  rw [hn] at hm
  cases hm
  rfl

-- A scope that binds other names sees the same function.
theorem InForce.push {w : World} {i : ScopeId} {l : Nat} (h : w.InForce i l) {b : Bindings}
    (hb : runnerName ∉ b.names) :
    InForce { w with store := w.store.push i b } w.store.size l := by
  rw [inForce_iff] at h ⊢
  obtain ⟨n, hn⟩ := h
  refine ⟨n, ?_⟩
  rw [Store.view_push_size, View.search_cons_of_notMem hb]
  exact hn

end World

-- A run begins with its own language in force.
theorem Call.inForce_opened (c : Call) : c.opened.InForce c.world.store.size c.language := by
  rw [World.inForce_iff]
  refine ⟨c.world.store.size, ?_⟩
  unfold opened
  rw [Store.view_push_size]
  simp [View.search, Bindings.lookup, Bindings.find?, Path.find, bind, Except.bind, pure,
    Except.pure]

-- A sequence that succeeds has run its members, under the language in force.
theorem perform_sequence_eq_ok {run : Runner} {key : String} {raw : Value} {j j' : ScopeId}
    {w w' : World} {l k : Nat} (hfound : w.store.getD j runnerName .null = .ok (.runner l k))
    (h : (Aspect.ofSequence 0 key).apply run raw j w = .ok j' w') :
    ∃ ms, raw.members = .ok ms ∧ run.callAll (.runner l k) ms j w = .ok j' w' := by
  rw [apply_sequence hfound] at h
  cases hms : raw.members with
  | error e => simp only [hms, reduceCtorEq] at h
  | ok ms =>
      rw [hms] at h
      exact ⟨ms, rfl, h⟩

-- Parts of a run: a program, some of the steps of a program, some members of a sequence. Members
-- carry the language that raw ones are run under.
inductive Part where
  | program (language : Nat) (data : Value)
  | steps (data : Value) (rest : List (String × Aspect))
  | members (language : Nat) (ms : List Value)

-- If one language is in force before a part of a run that succeeds, the other is after it: the
-- nearest function for sub-programs is that of the program that was started last, at whatever
-- depth. Only for programs of plain languages can this be told from the data.
inductive Leaves (ls : List Language) : Part → Nat → Nat → Prop where
  | program {own l r : Nat} {data : Value} (plain : (ls[own]?.getD default).Plain)
      (steps : Leaves ls (.steps data (ls[own]?.getD default).steps) own r) :
      Leaves ls (.program own data) l r
  | finish {l : Nat} {data : Value} : Leaves ls (.steps data []) l l
  | pass {key : String} {a : Aspect} {l r : Nat} {data : Value} {rest : List (String × Aspect)}
      (quiet : data.hasName key = .ok false ∨ a = .ofNamespace 0 key ∨ a = .ofBindingForm 0 key)
      (steps : Leaves ls (.steps data rest) l r) : Leaves ls (.steps data ((key, a) :: rest)) l r
  | sequence {key : String} {l m r : Nat} {data raw : Value} {ms : List Value}
      {rest : List (String × Aspect)} (present : data.hasName key = .ok true)
      (value : data.atName key = .ok raw) (members : raw.members = .ok ms)
      (runs : Leaves ls (.members l ms) l m) (steps : Leaves ls (.steps data rest) m r) :
      Leaves ls (.steps data ((key, .ofSequence 0 key) :: rest)) l r
  | none {own l : Nat} : Leaves ls (.members own []) l l
  | member {own l m r : Nat} {v : Value} {ms : List Value}
      (run : Leaves ls (.program (Program.target own v).1 (Program.target own v).2) l m)
      (runs : Leaves ls (.members own ms) m r) : Leaves ls (.members own (v :: ms)) l r

namespace Call

variable {c : Call} {n : Nat} {before : List (String × Aspect)} {key : String} {a : Aspect}
  {raw : Value} {j : ScopeId} {w : World}

-- A step that keeps no journal and hands on its value performs its action on the value itself.
theorem ComesTo.performs (h : c.ComesTo n before key a raw j w)
    (hresolves : a.resolves = false) (hjournal : a.handler.journal = none) :
    c.Performs n a.handler.action raw j w := by
  refine ⟨before, key, a, raw, w, h, rfl, ?_, ?_⟩
  · simp [handed, hresolves]
  · simp [Handler.noted, hjournal]

-- A namespace or a binding form opens a scope, with names only that the call binds.
theorem ComesTo.opens (h : c.ComesTo n before key a raw j w)
    (ha : a = .ofNamespace 0 key ∨ a = .ofBindingForm 0 key) {j' : ScopeId} {w' : World}
    (happly : a.apply (runWith n) raw j w = .ok j' w') :
    ∃ b : Bindings, (∀ name ∈ b.names, c.Binds name) ∧ j' = w.store.size ∧
      w' = { w with store := w.store.push j b } := by
  rcases ha with rfl | rfl
  · rw [Aspect.apply_of_journal rfl] at happly
    cases happly
    refine ⟨[("@" ++ key, raw)], ?_, rfl, rfl⟩
    intro name hname
    have hkey : name = "@" ++ key := by simpa [Bindings.names] using hname
    exact ⟨c, .refl, n, raw, j, w, .inl ⟨key, h.performs rfl rfl, hkey⟩⟩
  · rw [Aspect.apply_of_journal rfl] at happly
    simp only [Aspect.ofBindingForm, Action.perform_bindForm] at happly
    cases hb : w.store.resolveIn j raw >>= Bindings.add [] with
    | error e => simp only [hb, reduceCtorEq] at happly
    | ok b =>
        simp only [hb] at happly
        cases happly
        refine ⟨b, ?_, rfl, rfl⟩
        intro name hname
        exact ⟨c, .refl, n, raw, j, w, .inr ⟨key, b, h.performs rfl rfl, hb, hname⟩⟩

-- If it does not bind the name, it leaves the language in force.
theorem ComesTo.inForce (h : c.ComesTo n before key a raw j w)
    (ha : a = .ofNamespace 0 key ∨ a = .ofBindingForm 0 key) (hbinds : ¬c.Binds runnerName)
    {l : Nat} (hl : w.InForce j l) {j' : ScopeId} {w' : World}
    (happly : a.apply (runWith n) raw j w = .ok j' w') : w'.InForce j' l := by
  obtain ⟨b, hb, rfl, rfl⟩ := h.opens ha happly
  exact hl.push fun hname => hbinds (hb _ hname)

-- What a call on the way binds, the call binds.
theorem Starts.not_binds {c' : Call} {name : String} (h : c.Starts c') (hbinds : ¬c.Binds name) :
    ¬c'.Binds name := by
  rintro ⟨d, hd, hb⟩
  exact hbinds ⟨d, .head h hd, hb⟩

-- The language of a member is that of a call which the sequence starts.
theorem ComesTo.starts (h : c.ComesTo n before key (.ofSequence 0 key) raw j w) {l k : Nat}
    (hfound : w.store.getD j runnerName .null = .ok (.runner l k)) {first rest : List Value}
    {m : Value} (hms : raw.members = .ok (first ++ m :: rest)) {j' : ScopeId} {w' : World}
    (hdone : (runWith n).callAll (.runner l k) first j w = .ok j' w') :
    c.Starts ⟨n, (Program.target l m).1, (Program.target l m).2, j', w'⟩ :=
  .member (h.performs rfl rfl) hfound hms hdone

-- All programs that a call starts on its way are of plain languages.
def AllPlain (c : Call) : Prop := ∀ c', c.Reaches c' → (c.world.language c'.language).Plain

theorem Starts.allPlain {c' : Call} (h : c.Starts c') (hplain : c.AllPlain) : c'.AllPlain := by
  intro d hd
  have hlanguage := hplain d (.head h hd)
  unfold World.language at hlanguage ⊢
  rw [h.languages]
  exact hlanguage

end Call

-- What `Leaves` promises of a part: the second language is in force after it, if the first was
-- before it. The calls of a part must not bind the name of the function for sub-programs.
def Part.Sound (ls : List Language) (l r : Nat) : Part → Prop
  | program own data => ∀ n i w j w', w.languages = ls →
      ¬Call.Binds ⟨n, own, data, i, w⟩ runnerName → runWith n own data i w = .ok j w' →
      w'.InForce j r
  | steps data rest => ∀ (c : Call) n done after j w j' w', c.world.languages = ls →
      c.data = data → ¬c.Binds runnerName → c.Stands n done (rest ++ after) j w →
      w.InForce j l → fireAll (runWith n) data rest j w = .ok j' w' → w'.InForce j' r
  | members own ms => ∀ n k j w j' w', w.languages = ls →
      (∀ first m rest j₁ w₁, ms = first ++ m :: rest →
        (runWith n).callAll (.runner own k) first j w = .ok j₁ w₁ →
        ¬Call.Binds ⟨n, (Program.target own m).1, (Program.target own m).2, j₁, w₁⟩ runnerName) →
      w.InForce j l → (runWith n).callAll (.runner own k) ms j w = .ok j' w' → w'.InForce j' r

-- By induction on the derivation: programs start with their own language in force, steps and
-- members hand on what is in force from left to right.
theorem Leaves.sound {ls : List Language} {part : Part} {l r : Nat} (h : Leaves ls part l r) :
    part.Sound ls l r := by
  induction h with
  | @program own l r data plain steps ih =>
      intro n i w j w' hls hbinds hrun
      cases n with
      | zero => cases hrun
      | succ n =>
          subst hls
          rw [runWith_succ_apply] at hrun
          let c : Call := ⟨n + 1, own, data, i, w⟩
          have hstands : c.Stands n [] ((w.language own).steps ++ []) w.store.size c.opened := by
            rw [List.append_nil]
            exact .start rfl
          exact ih c n [] [] _ _ j w' rfl rfl hbinds hstands c.inForce_opened hrun
  | finish =>
      intro c n done after j w j' w' hls hdata hbinds hstands hl hfire
      cases hfire
      exact hl
  | pass quiet steps ih =>
      intro c n done after j w j' w' hls hdata hbinds hstands hl hfire
      subst hdata
      rcases fireAll_cons_eq_ok hfire with
        ⟨habsent, hrest⟩ | ⟨hpresent, raw, j₁, w₁, hraw, hat, hrest⟩
      · exact ih c n _ after j w j' w' hls rfl hbinds (hstands.skip habsent) hl hrest
      · have ha := quiet.resolve_left (by rw [hpresent]; simp)
        have hcomes : c.ComesTo n done _ _ raw j w := ⟨⟨_, hstands⟩, hpresent, hraw⟩
        have happly := apply_of_fireAt_eq_ok (by rcases ha with rfl | rfl <;> rfl) hraw hat
        have hl₁ := hcomes.inForce ha hbinds hl happly
        exact ih c n _ after j₁ w₁ j' w' hls rfl hbinds (hstands.next hpresent hat) hl₁ hrest
  | sequence present value members runs steps ihruns ihsteps =>
      intro c n done after j w j' w' hls hdata hbinds hstands hl hfire
      subst hdata
      rcases fireAll_cons_eq_ok hfire with
        ⟨habsent, hrest⟩ | ⟨hpresent, raw, j₁, w₁, hraw, hat, hrest⟩
      · rw [present] at habsent
        cases habsent
      · obtain ⟨k, hfound⟩ := hl
        have hcomes : c.ComesTo n done _ _ raw j w := ⟨⟨_, hstands⟩, hpresent, hraw⟩
        obtain ⟨ms, hms, hcall⟩ :=
          perform_sequence_eq_ok hfound (apply_of_fireAt_eq_ok rfl hraw hat)
        rw [value] at hraw
        cases hraw
        rw [members] at hms
        cases hms
        have hl₁ := ihruns n k j w j₁ w₁ (hstands.languages.trans hls)
          (fun first m rest j₂ w₂ heq hfirst =>
            (hcomes.starts hfound (heq ▸ members) hfirst).not_binds hbinds) ⟨k, hfound⟩ hcall
        exact ihsteps c n _ after j₁ w₁ j' w' hls rfl hbinds (hstands.next hpresent hat) hl₁ hrest
  | none =>
      intro n k j w j' w' hls hstart hl hcall
      cases hcall
      exact hl
  | @member own l m r v ms run runs ihrun ihruns =>
      intro n k j w j' w' hls hstart hl hcall
      rw [callAll_cons_apply, Runner.call_runner] at hcall
      cases hrun : runWith n (Program.target own v).1 (Program.target own v).2 j w with
      | error e w₁ => simp only [hrun, reduceCtorEq] at hcall
      | ok j₁ w₁ =>
          simp only [hrun] at hcall
          have hl₁ := ihrun n j w j₁ w₁ hls (hstart [] v ms j w rfl rfl) hrun
          have hls₁ : w₁.languages = ls := ((keepsLanguages_runWith n _ _ j).of_ok hrun).trans hls
          refine ihruns n k j₁ w₁ j' w' hls₁ ?_ hl₁ hcall
          intro first x rest j₂ w₂ heq hfirst
          refine hstart (v :: first) x rest j₂ w₂ (by rw [heq]; rfl) ?_
          rw [callAll_cons_apply, Runner.call_runner, hrun]
          exact hfirst

section

variable {n : Nat} {ls : List Language}

-- What a program of plain languages leaves in force can be told.
def Part.Told (ls : List Language) (n : Nat) : Prop :=
  ∀ own data i w j w', w.languages = ls → ¬Call.Binds ⟨n, own, data, i, w⟩ runnerName →
    Call.AllPlain ⟨n, own, data, i, w⟩ → runWith n own data i w = .ok j w' →
    ∃ r, ∀ l, Leaves ls (.program own data) l r

theorem exists_leaves_members (htold : Part.Told ls n) (own k : Nat) {ms : List Value}
    {j j' : ScopeId} {w w' : World} (hls : w.languages = ls)
    (hstart : ∀ first m rest j₁ w₁, ms = first ++ m :: rest →
      (runWith n).callAll (.runner own k) first j w = .ok j₁ w₁ →
      ¬Call.Binds ⟨n, (Program.target own m).1, (Program.target own m).2, j₁, w₁⟩ runnerName ∧
      Call.AllPlain ⟨n, (Program.target own m).1, (Program.target own m).2, j₁, w₁⟩)
    (hcall : (runWith n).callAll (.runner own k) ms j w = .ok j' w') (l : Nat) :
    ∃ r, Leaves ls (.members own ms) l r := by
  induction ms generalizing j w l with
  | nil => exact ⟨l, .none⟩
  | cons v ms ih =>
      rw [callAll_cons_apply, Runner.call_runner] at hcall
      cases hrun : runWith n (Program.target own v).1 (Program.target own v).2 j w with
      | error e w₁ => simp only [hrun, reduceCtorEq] at hcall
      | ok j₁ w₁ =>
          simp only [hrun] at hcall
          obtain ⟨hbinds, hplain⟩ := hstart [] v ms j w rfl rfl
          obtain ⟨m, hm⟩ := htold _ _ j w j₁ w₁ hls hbinds hplain hrun
          have hls₁ : w₁.languages = ls := ((keepsLanguages_runWith n _ _ j).of_ok hrun).trans hls
          obtain ⟨r, hr⟩ := ih hls₁ (fun first x rest j₂ w₂ heq hfirst => by
            refine hstart (v :: first) x rest j₂ w₂ (by rw [heq]; rfl) ?_
            rw [callAll_cons_apply, Runner.call_runner, hrun]
            exact hfirst) hcall m
          exact ⟨r, .member (hm l) hr⟩

theorem exists_leaves_steps (htold : Part.Told ls n) {c : Call} (hls : c.world.languages = ls)
    (hbinds : ¬c.Binds runnerName) (hplain : c.AllPlain) {done rest after : List (String × Aspect)}
    {j j' : ScopeId} {w w' : World} (hstands : c.Stands n done (rest ++ after) j w) {l : Nat}
    (hl : w.InForce j l) (hfire : fireAll (runWith n) c.data rest j w = .ok j' w') :
    ∃ r, Leaves ls (.steps c.data rest) l r := by
  induction rest generalizing done j w l with
  | nil => exact ⟨l, .finish⟩
  | cons step rest ih =>
      obtain ⟨key, a⟩ := step
      have hsynthetic : a.Synthetic key := by
        refine (hplain c .refl).synthetic ?_
        rw [hstands.steps]
        simp
      rcases fireAll_cons_eq_ok hfire with
        ⟨habsent, hrest⟩ | ⟨hpresent, raw, j₁, w₁, hraw, hat, hrest⟩
      · obtain ⟨r, hr⟩ := ih (hstands.skip habsent) hl hrest
        exact ⟨r, .pass (.inl habsent) hr⟩
      · have hcomes : c.ComesTo n done key a raw j w := ⟨⟨_, hstands⟩, hpresent, hraw⟩
        have hnext := hstands.next hpresent hat
        have happly : a.apply (runWith n) raw j w = .ok j₁ w₁ :=
          apply_of_fireAt_eq_ok (by cases hsynthetic <;> rfl) hraw hat
        cases hsynthetic with
        | nameSpace =>
            obtain ⟨r, hr⟩ := ih hnext (hcomes.inForce (.inl rfl) hbinds hl happly) hrest
            exact ⟨r, .pass (.inr (.inl rfl)) hr⟩
        | bindingForm =>
            obtain ⟨r, hr⟩ := ih hnext (hcomes.inForce (.inr rfl) hbinds hl happly) hrest
            exact ⟨r, .pass (.inr (.inr rfl)) hr⟩
        | sequence =>
            obtain ⟨k, hfound⟩ := hl
            obtain ⟨ms, hms, hcall⟩ := perform_sequence_eq_ok hfound happly
            have hstart : ∀ first m rest j₁ w₁, ms = first ++ m :: rest →
                (runWith n).callAll (.runner l k) first j w = .ok j₁ w₁ → c.Starts
                  ⟨n, (Program.target l m).1, (Program.target l m).2, j₁, w₁⟩ :=
              fun first m rest j₂ w₂ heq hfirst => hcomes.starts hfound (heq ▸ hms) hfirst
            have hls₁ := hstands.languages.trans hls
            obtain ⟨m, hm⟩ := exists_leaves_members htold l k hls₁
              (fun first m rest j₂ w₂ heq hfirst =>
                ⟨(hstart first m rest j₂ w₂ heq hfirst).not_binds hbinds,
                  (hstart first m rest j₂ w₂ heq hfirst).allPlain hplain⟩) hcall l
            have hl₁ := hm.sound n k j w j₁ w₁ hls₁
              (fun first x rest j₂ w₂ heq hfirst =>
                (hstart first x rest j₂ w₂ heq hfirst).not_binds hbinds) ⟨k, hfound⟩ hcall
            obtain ⟨r, hr⟩ := ih hnext hl₁ hrest
            exact ⟨r, .sequence hpresent hraw hms hm hr⟩

end

theorem told (ls : List Language) (n : Nat) : Part.Told ls n := by
  induction n with
  | zero =>
      intro own data i w j w' hls hbinds hplain hrun
      cases hrun
  | succ n ih =>
      intro own data i w j w' hls hbinds hplain hrun
      rw [runWith_succ_apply] at hrun
      let c : Call := ⟨n + 1, own, data, i, w⟩
      have hstands : c.Stands n [] ((w.language own).steps ++ []) w.store.size c.opened := by
        rw [List.append_nil]
        exact .start rfl
      obtain ⟨r, hr⟩ := exists_leaves_steps ih hls hbinds hplain hstands c.inForce_opened hrun
      subst hls
      exact ⟨r, fun l => .program (hplain c .refl) hr⟩

namespace Call

-- The call comes to a sequence whose value has these members.
def ComesToSequence (c : Call) (n : Nat) (before : List (String × Aspect)) (key : String)
    (ms : List Value) (j : ScopeId) (w : World) : Prop :=
  ∃ raw, c.ComesTo n before key (.ofSequence 0 key) raw j w ∧ raw.members = .ok ms

-- A call starts a raw member of one of its sequences, under the language in force.
inductive StartsRaw (c : Call) : Call → Prop where
  | member {n l k : Nat} {before : List (String × Aspect)} {key : String} {first rest : List Value}
      {m : Value} {j j' : ScopeId} {w w' : World}
      (comes : c.ComesToSequence n before key (first ++ m :: rest) j w) (raw : m.IsRaw)
      (found : w.store.getD j runnerName .null = .ok (.runner l k))
      (done : (runWith n).callAll (.runner l k) first j w = .ok j' w') :
      StartsRaw c ⟨n, l, Program.dataOf m, j', w'⟩

-- A call, the raw members of its sequences, their raw members and so on.
abbrev Lineage : Call → Call → Prop := Relation.ReflTransGen StartsRaw

-- All of the lineage is run under the language of the call: wherever it comes to a sequence with
-- raw members, the function that is called on them is one for this language.
def Isolated (c : Call) : Prop :=
  ∀ c₁, c.Lineage c₁ → c₁.language = c.language ∧
    ∀ n before key ms j w, c₁.ComesToSequence n before key ms j w → (∃ m ∈ ms, m.IsRaw) →
      w.InForce j c.language

-- Wherever the lineage comes to a sequence with raw members, the steps before the sequence leave
-- the language of the call in force.
def Undisturbed (c : Call) : Prop :=
  ∀ c₁, c.Lineage c₁ → c₁.language = c.language →
    ∀ n before key ms j w, c₁.ComesToSequence n before key ms j w → (∃ m ∈ ms, m.IsRaw) →
      Leaves c.world.languages (.steps c₁.data before) c.language c.language

theorem StartsRaw.starts {c c' : Call} (h : c.StartsRaw c') : c.Starts c' := by
  cases h with
  | @member n l k before key first rest m j j' w w' comes raw found done =>
      obtain ⟨v, hcomes, hms⟩ := comes
      have htarget : Program.target l m = (l, Program.dataOf m) := by
        cases m <;> first | rfl | exact (raw rfl).elim
      have hstarts := hcomes.starts found hms done
      rwa [htarget] at hstarts

theorem Lineage.not_binds {c c₁ : Call} (h : c.Lineage c₁) {name : String}
    (hbinds : ¬c.Binds name) : ¬c₁.Binds name := by
  induction h with
  | refl => exact hbinds
  | tail _ hstep ih => exact hstep.starts.not_binds ih

theorem Lineage.languages {c c₁ : Call} (h : c.Lineage c₁) :
    c₁.world.languages = c.world.languages := by
  induction h with
  | refl => rfl
  | tail _ hstep ih => exact hstep.starts.languages.trans ih

theorem Lineage.allPlain {c c₁ : Call} (h : c.Lineage c₁) (hplain : c.AllPlain) :
    c₁.AllPlain := by
  induction h with
  | refl => exact hplain
  | tail _ hstep ih => exact hstep.starts.allPlain ih

-- What `Leaves` tells of the steps before a sequence is what the sequence finds.
theorem ComesToSequence.inForce {c : Call} {n : Nat} {before : List (String × Aspect)}
    {key : String} {ms : List Value} {j : ScopeId} {w : World}
    (h : c.ComesToSequence n before key ms j w) (hbinds : ¬c.Binds runnerName) {r : Nat}
    (hr : Leaves c.world.languages (.steps c.data before) c.language r) : w.InForce j r := by
  obtain ⟨raw, ⟨⟨after, hstands⟩, -, -⟩, -⟩ := h
  have hstart : c.Stands n [] (before ++ (key, .ofSequence 0 key) :: after) c.world.store.size
      c.opened := by
    rw [← hstands.steps]
    exact .start hstands.fuel
  exact hr.sound c n [] _ _ _ j w rfl rfl hbinds hstart c.inForce_opened hstands.fired

theorem ComesToSequence.exists_leaves {c : Call} {n : Nat} {before : List (String × Aspect)}
    {key : String} {ms : List Value} {j : ScopeId} {w : World}
    (h : c.ComesToSequence n before key ms j w) (hbinds : ¬c.Binds runnerName)
    (hplain : c.AllPlain) : ∃ r, Leaves c.world.languages (.steps c.data before) c.language r := by
  obtain ⟨raw, ⟨⟨after, hstands⟩, -, -⟩, -⟩ := h
  have hstart : c.Stands n [] (before ++ (key, .ofSequence 0 key) :: after) c.world.store.size
      c.opened := by
    rw [← hstands.steps]
    exact .start hstands.fuel
  exact exists_leaves_steps (told _ n) rfl hbinds hplain hstart c.inForce_opened hstands.fired

end Call

-- Raw members, and recursively their raw members, are run under the language of the program they
-- stand in if the steps before each sequence leave this language in force, whatever the languages
-- of other programs; and if those are plain, only then.
theorem isolated_of_undisturbed (c : Call) (hbinds : ¬c.Binds runnerName) :
    (c.Undisturbed → c.Isolated) ∧ (c.AllPlain → c.Isolated → c.Undisturbed) := by
  constructor
  · intro hundisturbed
    have hforce : ∀ c₁, c.Lineage c₁ → c₁.language = c.language →
        ∀ n before key ms j w, c₁.ComesToSequence n before key ms j w → (∃ m ∈ ms, m.IsRaw) →
          w.InForce j c.language := by
      intro c₁ hc₁ hlanguage n before key ms j w hcomes hraw
      refine hcomes.inForce (hc₁.not_binds hbinds) ?_
      rw [hc₁.languages, hlanguage]
      exact hundisturbed c₁ hc₁ hlanguage n before key ms j w hcomes hraw
    -- The language is handed down the lineage: each raw member is started under what its
    -- sequence finds in force.
    have hlanguage : ∀ c₁, c.Lineage c₁ → c₁.language = c.language := by
      intro c₁ hc₁
      induction hc₁ with
      | refl => rfl
      | @tail d c₁ hd hstep ih =>
          cases hstep with
          | @member n l k before key first rest m j j' w w' comes raw found done =>
              have hl := hforce d hd ih n before key _ j w comes ⟨m, by simp, raw⟩
              exact World.InForce.unique ⟨k, found⟩ hl
    intro c₁ hc₁
    exact ⟨hlanguage c₁ hc₁, hforce c₁ hc₁ (hlanguage c₁ hc₁)⟩
  · intro hplain hisolated c₁ hc₁ hlanguage n before key ms j w hcomes hraw
    have hbinds₁ := hc₁.not_binds hbinds
    obtain ⟨r, hr⟩ := hcomes.exists_leaves hbinds₁ (hc₁.allPlain hplain)
    have hforce := hcomes.inForce hbinds₁ hr
    have heq : r = c.language :=
      hforce.unique ((hisolated c₁ hc₁).2 n before key ms j w hcomes hraw)
    rw [hc₁.languages, hlanguage, heq] at hr
    exact hr

namespace Sample

-- A language with two sequences, and one with a binding key only.
def relay : Language :=
  (Language.declare (["a", "b", "bind"].map .str) (.str "bind")
    (.object [("a", .list [.str "sequence-of", .map []]),
      ("b", .list [.str "sequence-of", .map []])]) []).toOption.getD default

def mute : Language :=
  (Language.declare [.str "let"] (.str "let") (.map []) []).toOption.getD default

-- A program of the other language in the first sequence, raw data in the second.
def mixed : Call :=
  .ofRun 0 (.object [("a", .list [.program (.map []) 1]), ("b", .list [.map []])]) 0
    { World.empty with languages := [relay, mute], store := Store.empty.push none [] }

-- The second sequence finds the function of the other language.
theorem mixed_not_isolated : ¬mixed.Isolated := by
  intro h
  have hcomes : ∃ w, mixed.ComesToSequence 1003
      [("bind", .ofBindingForm 0 "bind"), ("a", .ofSequence 0 "a")] "b" [.map []] 2 w ∧
      w.store.getD 2 runnerName .null = .ok (.runner 1 2) :=
    ⟨_, ⟨_, ⟨⟨[], rfl, rfl, rfl⟩, rfl, rfl⟩, rfl⟩, rfl⟩
  obtain ⟨w, hw, hfound⟩ := hcomes
  have hraw : (Value.map []).IsRaw := by simp [Value.IsRaw, Value.kind]
  have hforce := (h mixed .refl).2 _ _ _ _ _ _ hw ⟨_, List.mem_singleton_self _, hraw⟩
  exact absurd (World.InForce.unique ⟨2, hfound⟩ hforce) (by decide)

-- Data of which only sequences are read, with members that are empty.
def IsMixedOrEmpty (c : Call) : Prop :=
  c.world.languages = [relay, mute] ∧ (c.data = mixed.data ∨ c.data = .map [])

theorem IsMixedOrEmpty.step {c : Call} (h : IsMixedOrEmpty c) {n : Nat}
    {before : List (String × Aspect)} {key : String} {a : Aspect} {raw : Value} {j : ScopeId}
    {w : World} (hcomes : c.ComesTo n before key a raw j w) :
    a = .ofSequence 0 key ∧ (raw = .list [.program (.map []) 1] ∨ raw = .list [.map []]) := by
  have hmem := hcomes.mem_steps
  have hraw := hcomes.value
  unfold World.language at hmem
  rw [h.1] at hmem
  rcases h.2 with hdata | hdata <;> rw [hdata] at hmem hraw
  case inr => simp [Value.mentions, Value.hasName, Value.find?] at hmem
  generalize c.language = own at hmem
  rcases own with _ | _ | own
  · have hsteps : relay.steps.filter (mixed.data.mentions ·.1) =
        [("a", .ofSequence 0 "a"), ("b", .ofSequence 0 "b")] := rfl
    change (key, a) ∈ relay.steps.filter (mixed.data.mentions ·.1) at hmem
    rw [hsteps] at hmem
    simp only [List.mem_cons, Prod.mk.injEq, List.not_mem_nil, or_false] at hmem
    rcases hmem with ⟨rfl, rfl⟩ | ⟨rfl, rfl⟩
    · exact ⟨rfl, .inl (Except.ok.inj (hraw.symm.trans rfl))⟩
    · exact ⟨rfl, .inr (Except.ok.inj (hraw.symm.trans rfl))⟩
  · have hsteps : mute.steps.filter (mixed.data.mentions ·.1) = [] := rfl
    change (key, a) ∈ mute.steps.filter (mixed.data.mentions ·.1) at hmem
    rw [hsteps] at hmem
    cases hmem
  · have hsteps : (default : Language).steps.filter (mixed.data.mentions ·.1) = [] := rfl
    change (key, a) ∈ (default : Language).steps.filter (mixed.data.mentions ·.1) at hmem
    rw [hsteps] at hmem
    cases hmem

theorem IsMixedOrEmpty.starts {c c' : Call} (h : IsMixedOrEmpty c) (hstarts : c.Starts c') :
    IsMixedOrEmpty c' := by
  refine ⟨hstarts.languages.trans h.1, .inr ?_⟩
  cases hstarts with
  | @member fuel key value m j j' v v' l k first rest performs found members done =>
      obtain ⟨before, key, a, raw, w, hcomes, haction, hvalue, rfl⟩ := performs
      obtain ⟨rfl, hraw⟩ := h.step hcomes
      cases hvalue
      have hm : m ∈ first ++ m :: rest := by simp
      rcases hraw with rfl | rfl
      all_goals
        rw [← Except.ok.inj members, List.mem_singleton] at hm
        subst hm
        rfl
  | sub performs found =>
      obtain ⟨before, key, a, raw, w, hcomes, haction, -, -⟩ := performs
      obtain ⟨rfl, -⟩ := h.step hcomes
      cases haction

theorem mixed_not_binds : ¬mixed.Binds runnerName := by
  rintro ⟨c, hreaches, hbinds⟩
  have hmixed : IsMixedOrEmpty c := by
    clear hbinds
    induction hreaches with
    | refl => exact ⟨rfl, .inl rfl⟩
    | tail _ hstep ih => exact ih.starts hstep
  obtain ⟨fuel, value, j, v, hbinds⟩ := hbinds
  rcases hbinds with ⟨key, ⟨before, key', a, raw, w, hcomes, haction, -⟩, -⟩ |
    ⟨key, b, ⟨before, key', a, raw, w, hcomes, haction, -⟩, -⟩
  all_goals
    obtain ⟨rfl, -⟩ := hmixed.step hcomes
    cases haction

-- The condition fails where isolation does.
theorem mixed_not_undisturbed : ¬mixed.Binds runnerName ∧ ¬mixed.Undisturbed := by
  refine ⟨mixed_not_binds, ?_⟩
  intro h
  exact mixed_not_isolated ((isolated_of_undisturbed mixed mixed_not_binds).1 h)

end Sample

end Dialect
