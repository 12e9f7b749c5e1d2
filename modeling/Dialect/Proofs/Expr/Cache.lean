import Dialect.Proofs.Expr.Memory

namespace Dialect

theorem Value.equalAll_str_self (names : List String) :
    equalAll (names.map .str) (names.map .str) = true := by
  induction names with
  | nil => simp [equalAll]
  | cons n names ih => simp [equalAll, equal, ih]

namespace Expr

-- A request to compile a value over a sequence of names.
structure Request where
  expression : Value
  params : Value
  names : List String
  isSequence : params.members = .ok (names.map .str)

namespace Evaluator

-- The evaluator after requests.
def asked (id : Nat) (history : List Request) : Evaluator :=
  after id (history.map fun r => (r.expression, r.params))

-- The answer to a request after others.
def answer (id : Nat) (history : List Request) (r : Request) : Except Error Compiled :=
  ((asked id history).compile r.expression r.params).1

-- Functions are numbered in the order in which they were made.
def Numbered (e : Evaluator) : Prop :=
  ∀ (i : Nat) (x : Entry), e.entries[i]? = some x → x.function.owner = e.id ∧ x.function.index = i

-- An evaluator that has compiled more than another.
structure Later (e e' : Evaluator) : Prop where
  id : e'.id = e.id
  entries : e.entries <+: e'.entries

variable {e e' : Evaluator}

namespace Later

theorem refl (e : Evaluator) : Later e e := ⟨rfl, List.prefix_refl _⟩

theorem trans {d : Evaluator} (h : Later d e) (h' : Later e e') : Later d e' :=
  ⟨h'.id.trans h.id, h.entries.trans h'.entries⟩

-- An entry stays where it is.
theorem entry (h : Later e e') {i : Nat} {x : Entry} (hx : e.entries[i]? = some x) :
    e'.entries[i]? = some x := by
  obtain ⟨more, hmore⟩ := h.entries
  rw [← hmore, List.getElem?_append_left (List.getElem?_eq_some_iff.mp hx).1, hx]

-- What was found is found again.
theorem find? (h : Later e e') {source : String} {params : List Value} {f : Compiled}
    (hf : e.find? source params = some f) : e'.find? source params = some f := by
  obtain ⟨more, hmore⟩ := h.entries
  obtain ⟨x, hx, rfl⟩ := Option.map_eq_some_iff.mp hf
  unfold Evaluator.find?
  rw [← hmore, List.find?_append, hx]
  rfl

end Later

theorem compileText_of_find? {source : String} {params : List Value} {f : Compiled}
    (h : e.find? source params = some f) : e.compileText source params = (.ok f, e) := by
  unfold compileText
  rw [h]

-- What compiling a text can do: it finds a function, or fails, or makes a function and keeps it.
inductive Step (e : Evaluator) (source : String) (params : List Value) :
    Except Error Compiled × Evaluator → Prop where
  | found {f : Compiled} (kept : e.find? source params = some f) : Step e source params (.ok f, e)
  | failed {x : Error} (bad : body source (params.map slotOf) = .error x) :
      Step e source params (.error x, e)
  | made {tree : Tree Atom} {f : Compiled} (new : e.find? source params = none)
      (good : body source (params.map slotOf) = .ok tree)
      (function : f = ⟨e.id, e.entries.length, source, params.map slotOf, tree⟩) :
      Step e source params (.ok f, { e with entries := e.entries ++ [⟨source, params, f⟩] })

theorem step_compileText (e : Evaluator) (source : String) (params : List Value) :
    Step e source params (e.compileText source params) := by
  unfold compileText
  cases hfind : e.find? source params with
  | some f => exact .found hfind
  | none =>
      simp only []
      cases hbody : body source (params.map slotOf) with
      | error x => exact .failed hbody
      | ok tree => exact .made hfind hbody rfl

-- A request for a text is compiled over its names; any other is refused for what it looks like.
theorem compile_request (r : Request) :
    (∃ source, r.expression = .str source ∧
      ∀ e : Evaluator, e.compile r.expression r.params =
        e.compileText source (r.names.map .str)) ∨
    ∃ x, ∀ e : Evaluator, e.compile r.expression r.params = (.error x, e) := by
  cases hr : r.expression with
  | str source => exact .inl ⟨source, rfl, fun e => compile_str e source r.isSequence⟩
  | _ =>
      right
      simp only [compile]
      split
      · exact ⟨_, fun _ => rfl⟩
      · exact ⟨_, fun _ => rfl⟩

-- The entry that a step leaves for what it gives: in the place of the function's number.
theorem Step.entry {source : String} {names : List String} {out : Except Error Compiled × Evaluator}
    (h : Step e source (names.map .str) out) (he : e.Numbered) {f : Compiled}
    (hf : out.1 = .ok f) :
    ∃ x : Entry, out.2.entries[f.index]? = some x ∧ x.function = f ∧ x.source = source ∧
      x.params = names.map .str := by
  cases h with
  | found kept =>
      cases hf
      obtain ⟨x, hx, rfl⟩ := Option.map_eq_some_iff.mp kept
      have hmatch := List.find?_some hx
      simp only [Bool.and_eq_true, beq_iff_eq] at hmatch
      obtain ⟨i, hi⟩ := List.getElem?_of_mem (List.mem_of_find?_eq_some hx)
      rw [(he i x hi).2]
      exact ⟨x, hi, rfl, hmatch.1, Value.eq_of_equalAll_str hmatch.2⟩
  | failed bad => cases hf
  | made new good function =>
      cases hf
      subst function
      exact ⟨_, List.getElem?_concat_length, rfl, rfl, rfl⟩

theorem Step.later {source : String} {params : List Value} {out : Except Error Compiled × Evaluator}
    (h : Step e source params out) : Later e out.2 := by
  cases h with
  | found _ => exact .refl e
  | failed _ => exact .refl e
  | made _ _ _ => exact ⟨rfl, List.prefix_append _ _⟩

theorem Step.numbered {source : String} {params : List Value}
    {out : Except Error Compiled × Evaluator} (h : Step e source params out) (he : e.Numbered) :
    out.2.Numbered := by
  cases h with
  | found _ => exact he
  | failed _ => exact he
  | made _ _ function =>
      subst function
      intro i x hx
      rw [List.getElem?_append] at hx
      split at hx
      · exact he i x hx
      · rename_i hi
        rw [List.getElem?_singleton] at hx
        split at hx
        · cases hx
          exact ⟨rfl, by simp only []; omega⟩
        · cases hx

-- A function that a step gives is found from then on.
theorem Step.find? {source : String} {names : List String}
    {out : Except Error Compiled × Evaluator} (h : Step e source (names.map .str) out)
    {f : Compiled} (hf : out.1 = .ok f) : out.2.find? source (names.map .str) = some f := by
  cases h with
  | found kept =>
      cases hf
      exact kept
  | failed bad => cases hf
  | made new good function =>
      cases hf
      unfold Evaluator.find? at new ⊢
      rw [List.find?_append, Option.map_eq_none_iff.mp new]
      simp [Value.equalAll_str_self]

theorem asked_append (id : Nat) (history : List Request) (r : Request) (later : List Request) :
    asked id (history ++ r :: later) = later.foldl (fun e r => (e.compile r.expression r.params).2)
      ((asked id history).compile r.expression r.params).2 := by
  simp only [asked, after, List.map_append, List.map_cons, List.foldl_append, List.foldl_cons,
    List.foldl_map]

-- A request leaves an evaluator that is numbered and has all that was there.
theorem compile_keeps (he : e.Numbered) (r : Request) :
    (e.compile r.expression r.params).2.Numbered ∧
      Later e (e.compile r.expression r.params).2 := by
  rcases compile_request r with ⟨source, -, heq⟩ | ⟨x, heq⟩
  · rw [heq]
    have hstep := step_compileText e source (r.names.map .str)
    exact ⟨hstep.numbered he, hstep.later⟩
  · rw [heq]
    exact ⟨he, .refl e⟩

theorem foldl_keeps (he : e.Numbered) (rs : List Request) :
    (rs.foldl (fun e r => (e.compile r.expression r.params).2) e).Numbered ∧
      Later e (rs.foldl (fun e r => (e.compile r.expression r.params).2) e) := by
  induction rs generalizing e with
  | nil => exact ⟨he, .refl e⟩
  | cons r rs ih =>
      obtain ⟨hnumbered, hlater⟩ := compile_keeps he r
      obtain ⟨hnumbered', hlater'⟩ := ih hnumbered
      exact ⟨hnumbered', hlater.trans hlater'⟩

theorem numbered_asked (id : Nat) (history : List Request) : (asked id history).Numbered := by
  have hempty : (Evaluator.empty id).Numbered := by
    intro i x hx
    cases hx
  have h := (foldl_keeps hempty history).1
  simpa only [asked, after, List.foldl_map] using h

-- Two functions of one evaluator are the same exactly if their expressions and names are.
theorem same_iff_of_answer {id : Nat} {history between : List Request} {r r' : Request}
    {f f' : Compiled} (hf : answer id history r = .ok f)
    (hf' : answer id (history ++ r :: between) r' = .ok f') :
    f.same f' = true ↔ r.expression = r'.expression ∧ r.names = r'.names := by
  unfold answer at hf hf'
  rw [asked_append] at hf'
  have hnumbered := numbered_asked id history
  generalize asked id history = e at hf hf' hnumbered
  rcases compile_request r with ⟨source, hr, heq⟩ | ⟨x, heq⟩
  case inr =>
    rw [heq] at hf
    cases hf
  rcases compile_request r' with ⟨source', hr', heq'⟩ | ⟨x, heq'⟩
  case inr =>
    rw [heq'] at hf'
    cases hf'
  rw [heq] at hf hf'
  rw [heq'] at hf'
  have hstep := step_compileText e source (r.names.map .str)
  obtain ⟨hnumbered', hlater⟩ := foldl_keeps (hstep.numbered hnumbered) between
  have hstep' := step_compileText (between.foldl (fun e r => (e.compile r.expression r.params).2)
    (e.compileText source (r.names.map .str)).2) source' (r'.names.map .str)
  have hkept := hlater.find? (hstep.find? hf)
  rw [hr, hr', Value.str.injEq]
  constructor
  · -- The entries of the two functions stand in the same place.
    intro hsame
    obtain ⟨x, hx, -, hsource, hparams⟩ := hstep.entry hnumbered hf
    obtain ⟨x', hx', -, hsource', hparams'⟩ := hstep'.entry hnumbered' hf'
    have hindex : f.index = f'.index := by
      simp only [Compiled.same, Bool.and_eq_true, beq_iff_eq] at hsame
      exact hsame.2
    have hentry := (hlater.trans hstep'.later).entry hx
    rw [hindex, hx'] at hentry
    cases hentry
    refine ⟨hsource.symm.trans hsource', ?_⟩
    have hmap := hparams.symm.trans hparams'
    exact (List.map_inj_right fun _ _ h => Value.str.inj h).mp hmap
  · rintro ⟨rfl, hnames⟩
    rw [← hnames, compileText_of_find? hkept] at hf'
    cases hf'
    simp [Compiled.same]

-- A failed request changes nothing.
theorem compile_of_error {r : Request} {x : Error}
    (h : (e.compile r.expression r.params).1 = .error x) :
    (e.compile r.expression r.params).2 = e := by
  rcases compile_request r with ⟨source, -, heq⟩ | ⟨y, heq⟩
  · rw [heq] at h ⊢
    have hstep := step_compileText e source (r.names.map .str)
    generalize e.compileText source (r.names.map .str) = out at h hstep ⊢
    cases hstep with
    | found _ => cases h
    | failed _ => rfl
    | made _ _ _ => cases h
  · rw [heq]

-- Functions are alike if only their owners and numbers differ.
theorem call_eq_of_renders {f g : Compiled} {source : String} {params : List Value}
    (hf : f.Renders source params) (hg : g.Renders source params) (args : List Value) :
    f.call args = g.call args := by
  have hbody : f.body = g.body := Except.ok.inj (hf.body_eq.symm.trans hg.body_eq)
  unfold Compiled.call
  rw [hf.slots_eq, hg.slots_eq, hf.source_eq, hg.source_eq, hbody]

-- Two evaluators whose functions are what compiling gives answer a request alike.
theorem Faithful.compile_alike (he : e.Faithful) (he' : e'.Faithful) (r : Request) :
    match (e.compile r.expression r.params).1, (e'.compile r.expression r.params).1 with
    | .ok f, .ok g => ∀ args, f.call args = g.call args
    | .error x, .error y => x = y
    | _, _ => False := by
  rcases compile_request r with ⟨source, -, heq⟩ | ⟨y, heq⟩
  · rw [heq, heq]
    have h := he.compileText_names source r.names
    have h' := he'.compileText_names source r.names
    cases hbody : body source (r.names.map some) with
    | error x =>
        rw [hbody] at h h'
        rw [h, h']
    | ok tree =>
        rw [hbody] at h h'
        obtain ⟨f, hf, hrenders⟩ := h
        obtain ⟨g, hg, hrenders'⟩ := h'
        rw [hf, hg]
        exact call_eq_of_renders hrenders hrenders'
  · rw [heq, heq]

-- Whatever was asked for before: a request is answered as a new evaluator answers it, with the
-- same error or with a function that does the same; a later request gives the same function if and
-- only if it is for the same expression and names; and if the request fails, the evaluator is as
-- before and the request will always fail so.
theorem answer_transparent (id other : Nat) (history : List Request) (r : Request) :
    (match answer id history r, answer other [] r with
      | .ok f, .ok g => ∀ args, f.call args = g.call args
      | .error x, .error y => x = y
      | _, _ => False) ∧
    (∀ f between r' f', answer id history r = .ok f →
      answer id (history ++ r :: between) r' = .ok f' →
      (f.same f' = true ↔ r.expression = r'.expression ∧ r.names = r'.names)) ∧
    ∀ x, answer id history r = .error x →
      asked id (history ++ [r]) = asked id history ∧
      ∀ between, answer id (history ++ r :: between) r = .error x := by
  have hfaithful (id : Nat) (history : List Request) : (asked id history).Faithful :=
    faithful_after id _
  refine ⟨(hfaithful id history).compile_alike (hfaithful other []) r,
    fun f between r' f' => same_iff_of_answer, fun x hx => ⟨?_, fun between => ?_⟩⟩
  · rw [asked_append]
    exact compile_of_error hx
  · have h := (hfaithful id history).compile_alike (hfaithful id (history ++ r :: between)) r
    unfold answer at hx ⊢
    rw [hx] at h
    cases hy : ((asked id (history ++ r :: between)).compile r.expression r.params).1 with
    | ok g =>
        rw [hy] at h
        exact h.elim
    | error y =>
        rw [hy] at h
        rw [h]

end Evaluator

namespace Sample

-- The next number, over one name; and the same text over two.
def next : Request := ⟨.str "x + 1", .list [.str "x"], ["x"], rfl⟩

def nextOfTwo : Request := ⟨.str "x + 1", .list [.str "x", .str "y"], ["x", "y"], rfl⟩

-- Half of it.
def half : Request := ⟨.str "x +", .tuple [.str "x"], ["x"], rfl⟩

-- Asked for twice, with other requests in between, it is the same function; over two names it is
-- another one.
theorem answer_transparent_next : ∃ f g h, Evaluator.answer 0 [half] next = .ok f ∧
    Evaluator.answer 0 [half, next] nextOfTwo = .ok g ∧
    Evaluator.answer 0 [half, next, nextOfTwo] next = .ok h ∧
    f.same g = false ∧ f.same h = true ∧
    ∃ x, Evaluator.answer 0 [] half = .error x ∧
      Evaluator.answer 0 [half, next] half = .error x := by
  obtain ⟨f, hf⟩ : ∃ f, Evaluator.answer 0 [half] next = .ok f := ⟨_, rfl⟩
  obtain ⟨g, hg⟩ : ∃ g, Evaluator.answer 0 [half, next] nextOfTwo = .ok g := ⟨_, rfl⟩
  obtain ⟨h, hh⟩ : ∃ h, Evaluator.answer 0 [half, next, nextOfTwo] next = .ok h := ⟨_, rfl⟩
  obtain ⟨x, hx⟩ : ∃ x, Evaluator.answer 0 [] half = .error x := ⟨_, rfl⟩
  obtain ⟨-, hsame, -⟩ := Evaluator.answer_transparent 0 1 [half] next
  obtain ⟨-, -, hfails⟩ := Evaluator.answer_transparent 0 1 [] half
  refine ⟨f, g, h, hf, hg, hh, ?_, ?_, x, hx, (hfails x hx).2 [next]⟩
  · rw [Bool.eq_false_iff]
    intro heq
    exact absurd ((hsame f [] nextOfTwo g hf hg).mp heq).2 (by decide)
  · exact (hsame f [nextOfTwo] next h hf hh).mpr ⟨rfl, rfl⟩

end Sample

end Expr

end Dialect
