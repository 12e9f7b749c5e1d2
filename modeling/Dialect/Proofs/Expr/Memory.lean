import Dialect.Expr.Evaluator
import Dialect.Proofs.Value.Entries

namespace Dialect

namespace Value

theorem eq_of_equal_str {s : String} {v : Value} (h : equal (.str s) v = true) : v = .str s := by
  cases v <;> simp [equal, numEqual, num?] at h
  rw [h]

-- Parameters that are names are only equal to themselves.
theorem eq_of_equalAll_str {names : List String} {vs : List Value}
    (h : equalAll (names.map .str) vs = true) : vs = names.map .str := by
  induction names generalizing vs with
  | nil =>
      cases vs with
      | nil => rfl
      | cons v vs => simp [equalAll] at h
  | cons n names ih =>
      cases vs with
      | nil => simp [equalAll] at h
      | cons v vs =>
          simp only [List.map_cons, equalAll, Bool.and_eq_true] at h
          rw [eq_of_equal_str h.1, ih h.2, List.map_cons]

end Value

namespace Expr

theorem map_slotOf_str (names : List String) :
    (names.map Value.str).map slotOf = names.map some := by
  simp [slotOf]

-- The function is what compiling the expression over the parameters gives.
structure Compiled.Renders (f : Compiled) (source : String) (params : List Value) : Prop where
  source_eq : f.source = source
  slots_eq : f.slots = params.map slotOf
  body_eq : Expr.body source (params.map slotOf) = .ok f.body

namespace Evaluator

-- The functions that an evaluator holds are what compiling their expressions gives.
def Faithful (e : Evaluator) : Prop := ∀ x ∈ e.entries, x.function.Renders x.source x.params

-- The evaluator after requests to compile, of expressions over parameters.
def after (id : Nat) (requests : List (Value × Value)) : Evaluator :=
  requests.foldl (fun e r => (e.compile r.1 r.2).2) (.empty id)

variable {e : Evaluator}

theorem Faithful.compileText (h : e.Faithful) (source : String) (params : List Value) :
    (e.compileText source params).2.Faithful := by
  unfold Evaluator.compileText
  split
  · exact h
  · simp only []
    split
    · exact h
    · rename_i tree hbody
      intro x hx
      rcases List.mem_append.mp hx with hx | hx
      · exact h x hx
      · obtain rfl := List.mem_singleton.mp hx
        exact ⟨rfl, rfl, hbody⟩

theorem Faithful.compile (h : e.Faithful) (expression params : Value) :
    (e.compile expression params).2.Faithful := by
  unfold Evaluator.compile
  split
  · split
    · exact h
    · exact h.compileText _ _
  · split <;> exact h

theorem faithful_empty (id : Nat) : (Evaluator.empty id).Faithful := by
  intro x hx
  cases hx

theorem faithful_after (id : Nat) (requests : List (Value × Value)) :
    (after id requests).Faithful := by
  have hall : ∀ e : Evaluator, e.Faithful →
      (requests.foldl (fun e r => (e.compile r.1 r.2).2) e).Faithful := by
    induction requests with
    | nil => exact fun e he => he
    | cons r requests ih => exact fun e he => ih _ (he.compile r.1 r.2)
  exact hall _ (faithful_empty id)

-- Compiling over names fails exactly if the expression is bad, whatever was compiled before.
theorem Faithful.compileText_names (h : e.Faithful) (source : String) (names : List String) :
    match body source (names.map some) with
    | .error x => (e.compileText source (names.map .str)).1 = .error x
    | .ok _ => ∃ f, (e.compileText source (names.map .str)).1 = .ok f ∧
        f.Renders source (names.map .str) := by
  unfold Evaluator.compileText
  cases hfind : e.find? source (names.map .str) with
  | some f =>
      obtain ⟨x, hx, rfl⟩ := Option.map_eq_some_iff.mp hfind
      have hmatch := List.find?_some hx
      simp only [Bool.and_eq_true, beq_iff_eq] at hmatch
      have hrenders := h x (List.mem_of_find?_eq_some hx)
      rw [hmatch.1, Value.eq_of_equalAll_str hmatch.2] at hrenders
      have hbody := hrenders.body_eq
      rw [map_slotOf_str] at hbody
      rw [hbody]
      exact ⟨x.function, rfl, hrenders⟩
  | none =>
      simp only [map_slotOf_str]
      cases hbody : body source (names.map some) with
      | error x => rfl
      | ok tree =>
          refine ⟨_, rfl, rfl, (map_slotOf_str names).symm, ?_⟩
          rw [map_slotOf_str, hbody]

theorem Faithful.compileText_eq_error_iff (h : e.Faithful) {source : String} {names : List String}
    {x : Error} : (e.compileText source (names.map .str)).1 = .error x ↔
      body source (names.map some) = .error x := by
  have hnames := h.compileText_names source names
  cases hbody : body source (names.map some) with
  | error y =>
      rw [hbody] at hnames
      rw [hnames]
      simp
  | ok tree =>
      rw [hbody] at hnames
      obtain ⟨f, hf, -⟩ := hnames
      rw [hf]
      simp

theorem Faithful.exists_compileText_eq_ok_iff (h : e.Faithful) {source : String}
    {names : List String} : (∃ f, (e.compileText source (names.map .str)).1 = .ok f) ↔
      ∃ tree, body source (names.map some) = .ok tree := by
  have hnames := h.compileText_names source names
  cases hbody : body source (names.map some) with
  | error y =>
      rw [hbody] at hnames
      rw [hnames]
      simp
  | ok tree =>
      rw [hbody] at hnames
      obtain ⟨f, hf, -⟩ := hnames
      rw [hf]
      simp

theorem Faithful.renders_of_compileText (h : e.Faithful) {source : String} {names : List String}
    {f : Compiled} (hf : (e.compileText source (names.map .str)).1 = .ok f) :
    f.Renders source (names.map .str) := by
  have hnames := h.compileText_names source names
  cases hbody : body source (names.map some) with
  | error x =>
      rw [hbody, hf] at hnames
      cases hnames
  | ok tree =>
      rw [hbody, hf] at hnames
      obtain ⟨g, hg, hrenders⟩ := hnames
      exact Except.ok.inj hg ▸ hrenders

theorem compile_str (e : Evaluator) (source : String) {params : Value} {names : List String}
    (hparams : params.members = .ok (names.map .str)) :
    e.compile (.str source) params = e.compileText source (names.map .str) := by
  have hparameters : parameters params = .ok (names.map .str) := by
    unfold parameters
    rw [hparams]
    simp only [bind, Except.bind, Value.unhashableIn?_str]
  simp only [Evaluator.compile, hparameters]

-- Over names, a text whose compiled tree is known is compiled to a function with that tree.
theorem Faithful.exists_compile_eq (h : e.Faithful) {source : String} {params : Value}
    {names : List String} {tree : Tree Atom} (hparams : params.members = .ok (names.map .str))
    (hbody : body source (names.map some) = .ok tree) :
    ∃ f, (e.compile (.str source) params).1 = .ok f ∧ f.slots = names.map some ∧ f.body = tree := by
  have hcompile := h.compileText_names source names
  rw [hbody] at hcompile
  obtain ⟨f, hf, hrenders⟩ := hcompile
  have hslots := hrenders.slots_eq
  have hrendered := hrenders.body_eq
  rw [map_slotOf_str] at hslots hrendered
  rw [hbody] at hrendered
  exact ⟨f, by rw [compile_str _ _ hparams, hf], hslots, (Except.ok.inj hrendered).symm⟩

-- Only texts are compiled, and what comes of them over names is what compiling them gives.
theorem Faithful.renders_of_compile (h : e.Faithful) {expression : Value} {names : List String}
    {f : Compiled} (hf : (e.compile expression (.tuple (names.map .str))).1 = .ok f) :
    ∃ source, expression = .str source ∧ f.Renders source (names.map .str) := by
  cases expression
  case str source =>
    rw [compile_str e source rfl] at hf
    exact ⟨source, rfl, h.renders_of_compileText hf⟩
  all_goals
    simp only [Evaluator.compile] at hf
    split at hf <;> cases hf

end Evaluator

end Expr

end Dialect
