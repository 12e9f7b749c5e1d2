import Dialect.Proofs.Language.Order
import Dialect.Proofs.Run.Failure
import Dialect.Proofs.Run.Noninterference
import Dialect.Proofs.Scope.Merge

namespace Dialect

open Evaluation

namespace Value

-- Setting a key to what it has already, up to labels.
theorem insert_relabel_of_find? {ρ : Relabel} {es : List (Value × Value)} {k v x : Value}
    (h : find? es k = some x) (hx : v.relabel ρ = x.relabel ρ) :
    (insert es k v).map (relabelEntry ρ) = es.map (relabelEntry ρ) := by
  induction es with
  | nil => cases h
  | cons e es ih =>
      obtain ⟨k', y⟩ := e
      unfold find? at h ih
      rw [List.find?_cons] at h
      rw [insert]
      cases hk : k.same k' with
      | true =>
          simp only [hk, Option.map_some, Option.some.injEq] at h
          subst h
          simp [relabelEntry, hx]
      | false =>
          simp only [hk] at h
          simp only [Bool.false_eq_true, if_false, List.map_cons, ih h]

end Value

theorem View.merged_start (l n : Nat) (v : View) :
    merged ([(runnerName, .runner l n)] :: v) =
      Value.insert (merged v) (.str runnerName) (.runner l n) := by
  rw [merged_cons]
  simp only [List.map_cons, List.map_nil, Store.layerAll, Store.layer]

namespace Evaluation

theorem members_append_apply (run : Nat → Value → Evaluation Unit) (l : Nat)
    (first rest : List Value) (s : List Layer) :
    members run l (first ++ rest) s = match members run l first s with
      | .ok _ s' => members run l rest s'
      | .error r s' => .error r s' := by
  induction first generalizing s with
  | nil => rfl
  | cons m first ih =>
      rw [List.cons_append, members_cons_apply, members_cons_apply]
      cases run (Program.target l m).1 (Program.target l m).2 s with
      | error r s' => rfl
      | ok _ s' => exact ih s'

-- Steps whose keys do not occur are skipped.
theorem steps_append_of_absent (g : Ground) (run : Nat → Value → Evaluation Unit) {data : Value}
    {first : List (String × Aspect)} (h : ∀ step ∈ first, data.hasName step.1 = .ok false)
    (rest : List (String × Aspect)) (s : List Layer) :
    steps g run data (first ++ rest) s = steps g run data rest s := by
  induction first with
  | nil => rfl
  | cons step first ih =>
      obtain ⟨key, a⟩ := step
      have habsent : data.hasName key = .ok false := h (key, a) List.mem_cons_self
      rw [List.cons_append, steps_cons_apply, habsent]
      exact ih fun step hstep => h step (List.mem_cons_of_mem _ hstep)

end Evaluation

section

variable {g : Ground} {l : Nat} (hplain : (g.language l).Plain)
include hplain

-- A program that only runs a sequence.
theorem evaluate_sequence {key : String} (hkey : (key, .ofSequence 0 key) ∈ (g.language l).steps)
    (ms : List Value) (s : List Layer) : evaluate g l (.object [(key, .list ms)]) s =
      under key (members (evaluate g) l ms) (.start l (g.scopes + s.length) :: s) := by
  obtain ⟨before, after, hsteps, hother⟩ := hplain.exists_split hkey
  have habsent : ∀ step ∈ before ++ after,
      (Value.object [(key, .list ms)]).hasName step.1 = .ok false := by
    intro step hstep
    have hne := hother step hstep
    simp [Value.object, Value.hasName, Value.find?, Value.same, Value.equal, hne]
  have hpresent : (Value.object [(key, .list ms)]).hasName key = .ok true := by
    simp [Value.object, Value.hasName, Value.find?, Value.same, Value.equal]
  have hvalue : (Value.object [(key, .list ms)]).atName key = .ok (.list ms) := by
    simp [Value.object, Value.atName, Value.find?, Value.same, Value.equal]
  have hfound : View.search (Path.parts runnerName)
      (g.view (.start l (g.scopes + s.length) :: s)) =
      .ok (some (.runner l (g.scopes + s.length))) := by
    rw [parts_runnerName]
    simp [Ground.view, Layer.bindings, View.search, Bindings.lookup, Bindings.find?, Path.find,
      bind, Except.bind, pure, Except.pure]
  have hafter : ∀ t, steps g (evaluate g) (.object [(key, .list ms)]) after t = .ok () t := by
    intro t
    have h := steps_append_of_absent g (evaluate g)
      (fun step hstep => habsent step (List.mem_append_right _ hstep)) [] t
    rwa [List.append_nil] at h
  rw [evaluate_eq, hsteps]
  change steps g (evaluate g) _ _ (.start l (g.scopes + s.length) :: s) = _
  rw [steps_append_of_absent g (evaluate g) fun step hstep =>
      habsent step (List.mem_append_left _ hstep), steps_cons_apply, hpresent, hvalue]
  have hmembers : (Value.list ms).members = .ok ms := rfl
  simp only [Aspect.ofSequence, under_apply, act_runSequence_apply hfound, hmembers]
  cases members (evaluate g) l ms (.start l (g.scopes + s.length) :: s) with
  | ok a t => exact hafter t
  | error r t => rfl

end

namespace Started

variable {l : Nat} {s : List Layer}

-- Another start of the same language changes nothing that can be seen but the label of a function.
theorem see_start (h : Started l s) (g : Ground) (n : Nat) :
    SeeAlike .byLanguage (fun _ => True) g s g (.start l n :: s) where
  resolve p _ := by
    obtain ⟨k, hk⟩ := h.search g
    rw [parts_runnerName] at hk
    change _ = (View.resolve ([(runnerName, .runner l n)] :: g.view s) p).map _
    rw [View.resolve_cons]
    cases hparts : Path.parts p with
    | nil => rfl
    | cons q qs =>
        by_cases hq : runnerName = q
        · subst hq
          cases qs with
          | nil =>
              have hresolve : View.resolve (g.view s) p = .ok (.runner l k) := by
                unfold View.resolve
                rw [hparts, hk]
                rfl
              rw [hresolve]
              simp [Bindings.lookup, Bindings.find?, Path.find, Except.map, Relabel.byLanguage]
          | cons r rs => simp [Bindings.lookup, Bindings.find?, Path.find]
        · simp [Bindings.lookup, Bindings.find?, hq]
  number _ := rfl

-- The mapping of all that is visible has an entry for the function already.
theorem find?_merged (h : Started l s) (g : Ground) :
    ∃ n, Value.find? (View.merged (g.view s)) (.str runnerName) = some (.runner l n) := by
  induction s with
  | nil =>
      obtain ⟨n, hn⟩ := h.start
      cases hn
  | cons x s ih =>
      cases x with
      | start own n =>
          have hown : own = l := h.ofLanguage _ List.mem_cons_self
          subst hown
          refine ⟨n, ?_⟩
          change Value.find? (View.merged ([(runnerName, .runner own n)] :: g.view s)) _ = _
          rw [View.merged_start]
          exact Value.find?_insert_self _ _ _
      | bound b =>
          have hb : runnerName ∉ b.names := h.ofLanguage _ List.mem_cons_self
          obtain ⟨k, hk⟩ := h.start
          obtain ⟨n, hn⟩ := ih ⟨fun x hx => h.ofLanguage x (List.mem_cons_of_mem _ hx), k,
            by simpa using hk⟩
          rw [← Value.keyNames_entries] at hb
          exact ⟨n, (Store.find?_layerAll_of_notMem hb _).trans hn⟩

theorem merged_start (h : Started l s) (g : Ground) (n : Nat) :
    (View.merged (g.view s)).map (Value.relabelEntry .byLanguage) =
      (View.merged (g.view (.start l n :: s))).map (Value.relabelEntry .byLanguage) := by
  obtain ⟨k, hk⟩ := h.find?_merged g
  change _ = (View.merged ([(runnerName, .runner l n)] :: g.view s)).map _
  rw [View.merged_start]
  exact (Value.insert_relabel_of_find? hk (by simp [Relabel.byLanguage])).symm

end Started

-- What is visible in one mapping stays alike under layers that are alike.
theorem GrownAlike.merged {ρ : Relabel} {g : Ground} {s₁ s₂ t₁ t₂ : List Layer}
    (h : GrownAlike ρ s₁ s₂ t₁ t₂)
    (hs : (View.merged (g.view s₁)).map (Value.relabelEntry ρ) =
      (View.merged (g.view s₂)).map (Value.relabelEntry ρ)) :
    (View.merged (g.view t₁)).map (Value.relabelEntry ρ) =
      (View.merged (g.view t₂)).map (Value.relabelEntry ρ) :=
  h.preserves (P := fun u₁ u₂ => (View.merged (g.view u₁)).map (Value.relabelEntry ρ) =
      (View.merged (g.view u₂)).map (Value.relabelEntry ρ)) hs
    fun _ _ _ _ hxy hu => View.merged_cons_relabel ρ (Layer.bindings_of_relabel hxy) hu

section

variable {g : Ground} {l : Nat} (hplain : (g.language l).Plain)
include hplain

-- Members that are raw evaluate alike wherever the same is seen.
theorem members_alike_of_see {ms : List Value}
    (hraw : ∀ m ∈ ms, m.IsRaw ∧ (g.language l).AllRaw (Program.body m)) {s₁ s₂ : List Layer}
    (hsee : SeeAlike .byLanguage (fun _ => True) g s₁ g s₂) (hs : ∀ x ∈ s₂, x.OfLanguage l)
    (hlayers : ∀ x ∈ layers (members (evaluate g) l ms s₁), x.OfLanguage l) :
    EndAlike .byLanguage s₁ s₂ (members (evaluate g) l ms s₁) (members (evaluate g) l ms s₂) :=
  members_alike (fun m hm => (hraw m hm).1)
    (fun m hm => evaluate_alike rfl hplain (hraw m hm).2 fun _ _ => trivial) hsee hs hlayers

theorem members_nested_apply {key : String}
    (hkey : (key, .ofSequence 0 key) ∈ (g.language l).steps) (ys zs : List Value)
    (s : List Layer) :
    members (evaluate g) l ([.object [(key, .list ys)]] ++ zs) s =
      match members (evaluate g) l ys (.start l (g.scopes + s.length) :: s) with
      | .ok _ s' => members (evaluate g) l zs s'
      | .error r s' => .error (r.through key) s' := by
  have htarget : Program.target l (.object [(key, .list ys)]) =
      (l, .object [(key, .list ys)]) := rfl
  rw [List.singleton_append, members_cons_apply, htarget]
  simp only [evaluate_sequence hplain hkey, under_apply]
  cases members (evaluate g) l ys (.start l (g.scopes + s.length) :: s) <;> rfl

-- Some members in a sequence of their own, between others. The first are evaluated in the same
-- state; from there on the states differ by one start.
theorem members_flatten {key : String} (hkey : (key, .ofSequence 0 key) ∈ (g.language l).steps)
    {xs ys zs : List Value}
    (hraw : ∀ m ∈ xs ++ ys ++ zs, m.IsRaw ∧ (g.language l).AllRaw (Program.body m))
    {s : List Layer} (hs : Started l s)
    (hlayers : ∀ x ∈ layers (members (evaluate g) l (xs ++ ys ++ zs) s), x.OfLanguage l) :
    (∃ t n u u', Started l t ∧ members (evaluate g) l (xs ++ ys ++ zs) s = .ok () u ∧
      members (evaluate g) l (xs ++ [.object [(key, .list ys)]] ++ zs) s = .ok () u' ∧
      GrownAlike .byLanguage t (.start l n :: t) u u') ∨
    ∃ r r' u u', members (evaluate g) l (xs ++ ys ++ zs) s = .error r u ∧
      members (evaluate g) l (xs ++ [.object [(key, .list ys)]] ++ zs) s = .error r' u' ∧
      r.error = r'.error ∧ ∀ x ∈ u', x.OfLanguage l := by
  have hgrow (ms : List Value) (t : List Layer) : t <:+ layers (members (evaluate g) l ms t) :=
    grows_members (grows_evaluate g) l ms t
  rw [List.append_assoc, members_append_apply] at hlayers
  rw [List.append_assoc, List.append_assoc, members_append_apply, members_append_apply]
  cases hxs : members (evaluate g) l xs s with
  | error r t =>
      rw [hxs] at hlayers
      exact .inr ⟨r, r, t, t, rfl, rfl, rfl, hlayers⟩
  | ok _ t =>
      rw [hxs] at hlayers
      simp only [] at hlayers ⊢
      have hstarted : Started l t := by
        refine hs.of_suffix ?_ fun x hx => hlayers x ((hgrow _ t).subset hx)
        have h := hgrow xs s
        rwa [hxs] at h
      have hstart := Started.of_start hstarted.ofLanguage (g.scopes + t.length)
      have hsee := hstarted.see_start g (g.scopes + t.length)
      have hys : ∀ m ∈ ys, m.IsRaw ∧ (g.language l).AllRaw (Program.body m) := fun m hm =>
        hraw m (by simp [hm])
      have hzs : ∀ m ∈ zs, m.IsRaw ∧ (g.language l).AllRaw (Program.body m) := fun m hm =>
        hraw m (by simp [hm])
      have hinner := members_alike_of_see hplain hys hsee hstart.ofLanguage
      rw [members_append_apply] at hlayers
      rw [members_append_apply, members_nested_apply hplain hkey]
      cases h₁ : members (evaluate g) l ys t with
      | error r u =>
          rw [h₁] at hlayers hinner
          have h := hinner hlayers
          cases h₂ : members (evaluate g) l ys (.start l (g.scopes + t.length) :: t) with
          | ok _ u' =>
              rw [h₂] at h
              exact h.elim
          | error r' u' =>
              rw [h₂] at h
              refine .inr ⟨r, r'.through key, u, u', rfl, rfl, ?_,
                h.2.ofLanguage hlayers hstart.ofLanguage⟩
              rw [h.1, Raised.error_through]
      | ok _ u =>
          rw [h₁] at hlayers hinner
          simp only [] at hlayers ⊢
          have hu : ∀ x ∈ u, x.OfLanguage l := fun x hx => hlayers x ((hgrow zs u).subset hx)
          have h := hinner hu
          cases h₂ : members (evaluate g) l ys (.start l (g.scopes + t.length) :: t) with
          | error r' u' =>
              rw [h₂] at h
              exact h.elim
          | ok _ u' =>
              rw [h₂] at h
              have hgrown : GrownAlike .byLanguage t (.start l (g.scopes + t.length) :: t) u u' := h
              have hu' := hgrown.ofLanguage hu hstart.ofLanguage
              have hrest := members_alike_of_see hplain hzs (hsee.grown hgrown) hu' hlayers
              simp only []
              cases h₃ : members (evaluate g) l zs u <;> cases h₄ : members (evaluate g) l zs u' <;>
                rw [h₃, h₄] at hrest
              · exact .inl ⟨t, _, _, _, hstarted, rfl, rfl, hgrown.trans hrest⟩
              · exact hrest.elim
              · exact hrest.elim
              · rw [h₃] at hlayers
                exact .inr ⟨_, _, _, _, rfl, rfl, by rw [hrest.1], hrest.2.ofLanguage hlayers hu'⟩

-- The same for a program that only runs the sequence.
theorem evaluate_flatten {key : String} (hkey : (key, .ofSequence 0 key) ∈ (g.language l).steps)
    {xs ys zs : List Value}
    (hraw : ∀ m ∈ xs ++ ys ++ zs, m.IsRaw ∧ (g.language l).AllRaw (Program.body m))
    {s : List Layer} (hs : ∀ x ∈ s, x.OfLanguage l)
    (hlayers : ∀ x ∈ layers (evaluate g l (.object [(key, .list (xs ++ ys ++ zs))]) s),
      x.OfLanguage l) :
    (∃ t n u u', Started l t ∧
      evaluate g l (.object [(key, .list (xs ++ ys ++ zs))]) s = .ok () u ∧
      evaluate g l (.object [(key, .list (xs ++ [.object [(key, .list ys)]] ++ zs))]) s =
        .ok () u' ∧
      GrownAlike .byLanguage t (.start l n :: t) u u') ∨
    ∃ r r' u u', evaluate g l (.object [(key, .list (xs ++ ys ++ zs))]) s = .error r u ∧
      evaluate g l (.object [(key, .list (xs ++ [.object [(key, .list ys)]] ++ zs))]) s =
        .error r' u' ∧
      r.error = r'.error ∧ ∀ x ∈ u', x.OfLanguage l := by
  rw [evaluate_sequence hplain hkey, layers_under] at hlayers
  rw [evaluate_sequence hplain hkey, evaluate_sequence hplain hkey, under_apply, under_apply]
  rcases members_flatten hplain hkey hraw (.of_start hs _) hlayers with
    ⟨t, n, u, u', ht, hu, hu', hgrown⟩ | ⟨r, r', u, u', hu, hu', herror, hlayers'⟩
  · rw [hu, hu']
    exact .inl ⟨t, n, u, u', ht, rfl, rfl, hgrown⟩
  · rw [hu, hu']
    exact .inr ⟨_, _, u, u', rfl, rfl, by rw [Raised.error_through, Raised.error_through, herror],
      hlayers'⟩

end

theorem allRaw_sequence {L : Language} {key : String} {ms : List Value}
    (h : ∀ m ∈ ms, m.IsRaw ∧ L.AllRaw (Program.body m)) : L.AllRaw (.object [(key, .list ms)]) := by
  have hmember : ∀ m, L.Member (.object [(key, .list ms)]) m → m ∈ ms := by
    rintro m ⟨k, raw, ms', -, hvalue, hms, hm⟩
    by_cases hk : k = key
    · subst hk
      simp [Value.object, Value.atName, Value.find?, Value.same, Value.equal] at hvalue
      subst hvalue
      cases hms
      exact hm
    · simp [Value.object, Value.atName, Value.find?, Value.same, Value.equal, hk] at hvalue
  exact ⟨fun m hm => (h m (hmember m hm)).1, fun m hm => (h m (hmember m hm)).2⟩

-- A sequence of raw members, some of them in a sequence of their own or not: both runs succeed, and
-- every path stands for the same in the two scopes they give, where also all that is visible is the
-- same; or both fail with the same error. The two runs differ by one map that binds the function
-- for sub-programs, and functions count as the same if they are for the same language.
theorem run_flatten (w : World) (i : ScopeId) (l : Nat) (key : String) (xs ys zs : List Value)
    (hplain : (w.language l).Plain) (hkey : (key, .ofSequence 0 key) ∈ (w.language l).steps)
    (hraw : ∀ m ∈ xs ++ ys ++ zs, m.IsRaw ∧ (w.language l).AllRaw (Program.body m))
    (hbinds : ¬(Call.ofRun l (.object [(key, .list (xs ++ ys ++ zs))]) i w).Binds runnerName) :
    match run l (.object [(key, .list (xs ++ [.object [(key, .list ys)]] ++ zs))]) i w,
      run l (.object [(key, .list (xs ++ ys ++ zs))]) i w with
    | .ok j₁ w₁, .ok j₂ w₂ =>
        (∀ p, (w₁.store.resolve j₁ p).map (Value.relabel .byLanguage) =
          (w₂.store.resolve j₂ p).map (Value.relabel .byLanguage)) ∧
        (w₁.store.value j₁).relabel .byLanguage = (w₂.store.value j₂).relabel .byLanguage
    | .error r₁ _, .error r₂ _ => r₁.error = r₂.error
    | _, _ => False := by
  have hlayers := ofLanguage_of_not_binds hplain (allRaw_sequence hraw) hbinds
  have hground : ((w.ground i).language l).Plain := hplain
  rcases evaluate_flatten hground hkey hraw (by simp) hlayers with
    ⟨t, n, u, u', ht, hflat, hnested, hgrown⟩ | ⟨r, r', u, u', hflat, hnested, herror, hlayers'⟩
  · rw [hflat] at hlayers
    have hlayers' : ∀ x ∈ u', x.OfLanguage l :=
      hgrown.ofLanguage hlayers (Started.of_start ht.ofLanguage n).ofLanguage
    obtain ⟨j₁, w₁, hrun₁, hview₁⟩ := run_eq_ok_of_evaluate hplain hnested hlayers'
    obtain ⟨j₂, w₂, hrun₂, hview₂⟩ := run_eq_ok_of_evaluate hplain hflat hlayers
    rw [hrun₁, hrun₂]
    have hsee := (ht.see_start (w.ground i) n).grown hgrown
    have hmerged := hgrown.merged (ht.merged_start (w.ground i) n)
    refine ⟨fun p => ?_, ?_⟩
    · rw [Store.resolve_eq_view, Store.resolve_eq_view, hview₁, hview₂]
      exact (hsee.resolve p trivial).symm
    · rw [Store.value_eq_view, Store.value_eq_view, hview₁, hview₂, Value.relabel_map,
        Value.relabel_map, hmerged]
  · rw [hflat] at hlayers
    obtain ⟨w₁, hrun₁⟩ := run_eq_error_of_evaluate hplain hnested hlayers'
    obtain ⟨w₂, hrun₂⟩ := run_eq_error_of_evaluate hplain hflat hlayers
    rw [hrun₁, hrun₂]
    exact herror.symm

namespace Sample

-- An errand that binds a name to what another stands for.
def stop (name p : String) : Value := .object [("let", .object [(name, .str p)])]

-- Three errands in a row, each looking at what the one before has bound.
def stroll : Value :=
  .object [("go", .list ([stop "x" "k"] ++ [stop "y" "x"] ++ [stop "z" "y"]))]

-- The same with a stop on the way.
def roundabout : Value :=
  .object [("go", .list ([stop "x" "k"] ++ [.object [("go", .list [stop "y" "x"])]] ++
    [stop "z" "y"]))]

theorem stop_isErrand {name : String} (h : name ≠ runnerName) (p : String) :
    IsErrand (stop name p) := .bind h p

theorem run_flatten_roundabout : ∃ j₁ w₁ j₂ w₂, run 0 roundabout 0 town = .ok j₁ w₁ ∧
    run 0 stroll 0 town = .ok j₂ w₂ ∧
    (∀ p, (w₁.store.resolve j₁ p).map (Value.relabel .byLanguage) =
      (w₂.store.resolve j₂ p).map (Value.relabel .byLanguage)) ∧
    (w₁.store.value j₁).relabel .byLanguage = (w₂.store.value j₂).relabel .byLanguage := by
  have herrand : ∀ m ∈ [stop "x" "k"] ++ [stop "y" "x"] ++ [stop "z" "y"], IsErrand m := by
    simp only [List.cons_append, List.nil_append, List.forall_mem_cons,
      List.not_mem_nil, false_imp_iff, implies_true, and_true]
    exact ⟨stop_isErrand (by decide) _, stop_isErrand (by decide) _, stop_isErrand (by decide) _⟩
  have hkey : ("go", .ofSequence 0 "go") ∈ (town.language 0).steps := by
    change _ ∈ errands.steps
    rw [errands_steps]
    exact List.mem_cons_of_mem _ List.mem_cons_self
  have h := run_flatten town 0 0 "go" [stop "x" "k"] [stop "y" "x"] [stop "z" "y"]
    errands_plain hkey
    (fun m hm => ⟨(herrand m hm).isRaw, (herrand m hm).body_eq.symm ▸ (herrand m hm).allRaw⟩)
    ((IsErrand.go herrand).not_binds rfl)
  have hrun : ∃ j w, run 0 stroll 0 town = .ok j w := ⟨_, _, rfl⟩
  obtain ⟨j₂, w₂, h₂⟩ := hrun
  cases h₁ : run 0 roundabout 0 town <;> unfold roundabout at h₁ <;> unfold stroll at h₂ <;>
    rw [h₁, h₂] at h
  · exact ⟨_, _, j₂, w₂, rfl, h₂, h⟩
  · exact h.elim

end Sample

end Dialect
