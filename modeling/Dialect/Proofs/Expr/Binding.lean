import Dialect.Proofs.Expr.Memory
import Dialect.Proofs.Language.Table

namespace Dialect.Expr

-- The last place among the parameters that has the name.
def LastAt (names : List String) (name : String) (i : Nat) : Prop :=
  names[i]? = some name ∧ ∀ j, i < j → names[j]? ≠ some name

-- Whether the left operand alone is the answer.
def BinaryOp.decidedBy : BinaryOp → Value → Bool
  | or, a => a.truthy
  | and, a => !a.truthy
  | _, _ => false

-- Evaluation comes to a variable that has no value.
inductive Strays (env : String → Option Value) : Tree Atom → Prop
  | var {n} : env n = none → Strays env (.leaf (.var n))
  | unary {op t} : Strays env t → Strays env (.unary op t)
  | left {o l r} : Strays env l → Strays env (.binary o l r)
  | right {o l r a} : eval env l = .ok a → o.decidedBy a = false → Strays env r →
      Strays env (.binary o l r)

variable {env env' : String → Option Value} {names : List String} {name : String} {i : Nat}
  {args : List Value}

theorem exists_lastAt (h : name ∈ names) : ∃ i, LastAt names name i := by
  obtain ⟨after, before, hsplit, hafter⟩ :=
    List.eq_append_cons_of_mem (List.mem_reverse.mpr h)
  have hnames : names = before.reverse ++ name :: after.reverse := by
    rw [← List.reverse_reverse names, hsplit]
    simp
  refine ⟨before.length, ?_, fun j hj hname => ?_⟩
  · simp [hnames]
  · obtain ⟨k, rfl⟩ := Nat.exists_eq_add_of_lt hj
    rw [hnames, List.getElem?_append_right (by simp; omega)] at hname
    have hmem : name ∈ after.reverse := by
      refine List.mem_of_getElem? (i := k) ?_
      rw [← hname]
      simp [Nat.add_assoc]
    exact hafter (List.mem_reverse.mp hmem)

-- Where names are distinct, every place of a name is the last one.
theorem lastAt_of_nodup (hdistinct : names.Nodup) (h : names[i]? = some name) :
    LastAt names name i := by
  refine ⟨h, fun j hj hother => ?_⟩
  have hlt : i < names.length := (List.getElem?_eq_some_iff.mp h).1
  have hsame : i = j := (List.getElem?_inj hlt hdistinct).mp (h.trans hother.symm)
  exact absurd hsame (Nat.ne_of_lt hj)

-- A name is bound to the argument in its last place: from behind, the first pair with the name.
theorem bound_of_lastAt (h : LastAt names name i) (hargs : args.length = names.length) :
    bound (names.map some) args name = args[i]? := by
  obtain ⟨hi, hlast⟩ := h
  obtain ⟨hlt, hname⟩ := List.getElem?_eq_some_iff.mp hi
  have hlength : ((names.map some).zip args).length = names.length := by simp [hargs]
  have hfind : ((names.map some).zip args).reverse.find? (fun p => p.1 == some name) =
      some (some name, args[i]) := by
    refine List.find?_eq_some_iff_getElem.mpr
      ⟨by simp, names.length - 1 - i, by simp [hargs]; omega, ?_, fun j hj => ?_⟩
    · have hback : names.length - 1 - (names.length - 1 - i) = i := by omega
      simp only [List.getElem_reverse, hlength, hback, List.getElem_zip, List.getElem_map, hname]
    · have hother := hlast (names.length - 1 - j) (by omega)
      rw [List.getElem?_eq_getElem (by omega), Ne, Option.some.injEq] at hother
      simpa only [List.getElem_reverse, hlength, List.getElem_zip, List.getElem_map,
        Bool.not_eq_true', beq_eq_false_iff_ne, Ne, Option.some.injEq] using hother
  rw [bound, hfind, Option.map_some, List.getElem?_eq_getElem]

theorem eval_unary (op : UnaryOp) (t : Tree Atom) :
    eval env (.unary op t) = match eval env t with
      | .error x => .error x
      | .ok a => op.apply a := by
  rw [eval]
  cases eval env t <;> rfl

-- The operators that may leave their right operand alone and those that need both, in one.
theorem eval_binary (o : BinaryOp) (l r : Tree Atom) :
    eval env (.binary o l r) = match eval env l with
      | .error x => .error x
      | .ok a => if o.decidedBy a then .ok a else match eval env r with
        | .error x => .error x
        | .ok b => o.apply a b := by
  cases o with
  | or | and =>
      rw [eval]
      cases eval env l with
      | error x => rfl
      | ok a =>
          simp only [BinaryOp.decidedBy, BinaryOp.apply, bind, Except.bind, pure, Except.pure]
          by_cases ha : a.truthy = true <;> cases eval env r <;> simp [ha]
  | eq | ne | lt | le | gt | ge | add | sub | mul | div | floorDiv | mod | pow =>
      rw [eval]
      · cases eval env l with
        | error x => rfl
        | ok a => cases eval env r <;> rfl
      all_goals exact BinaryOp.noConfusion

-- Evaluation depends on the values of variables that occur.
theorem eval_congr {t : Tree Atom} (h : ∀ n, .var n ∈ t.leaves → env n = env' n) :
    eval env t = eval env' t := by
  induction t with
  | leaf a =>
      cases a with
      | var n => simp only [eval, Atom.value, h n (by simp [Tree.leaves])]
      | none | bool b | int n | float x | str s => rfl
  | unary op t ih => rw [eval_unary, eval_unary, ih h]
  | binary o l r ihl ihr =>
      have hl := ihl fun n hn => h n (List.mem_append_left _ hn)
      have hr := ihr fun n hn => h n (List.mem_append_right _ hn)
      rw [eval_binary, eval_binary, hl, hr]

-- A variable without a value ends the evaluation that comes to it.
theorem Strays.eval_eq {t : Tree Atom} (h : Strays env t) :
    ∃ n, env n = none ∧ eval env t = .error (.missingKey (.str n)) := by
  induction h with
  | @var n hn => exact ⟨n, hn, by simp [eval, Atom.value, hn]⟩
  | unary _ ih =>
      obtain ⟨n, hn, ht⟩ := ih
      exact ⟨n, hn, by rw [eval_unary, ht]⟩
  | left _ ih =>
      obtain ⟨n, hn, hl⟩ := ih
      exact ⟨n, hn, by rw [eval_binary, hl]⟩
  | right hl hundecided _ ih =>
      obtain ⟨n, hn, hr⟩ := ih
      exact ⟨n, hn, by simp [eval_binary, hl, hundecided, hr]⟩

-- An evaluation that comes to none has all it asks for: more values do not change it. By induction
-- on the tree; what the left operand decides leaves the right one alone in both.
theorem eval_eq_of_not_strays {t : Tree Atom} (h : ¬Strays env t)
    (hmore : ∀ n v, env n = some v → env' n = some v) : eval env t = eval env' t := by
  induction t with
  | leaf a =>
      cases a with
      | var n =>
          cases hn : env n with
          | none => exact absurd (.var hn) h
          | some v => simp only [eval, Atom.value, hn, hmore n v hn]
      | none | bool b | int n | float x | str s => rfl
  | unary op t ih => rw [eval_unary, eval_unary, ih fun hs => h (.unary hs)]
  | binary o l r ihl ihr =>
      rw [eval_binary, eval_binary, ← ihl fun hs => h (.left hs)]
      cases hl : eval env l with
      | error x => rfl
      | ok a =>
          cases hdecided : o.decidedBy a with
          | true => simp only [hdecided, if_true]
          | false => simp only [hdecided, ihr fun hs => h (.right hl hdecided hs)]

-- Evaluation only comes to variables that occur.
theorem Strays.exists_var {t : Tree Atom} (h : Strays env t) :
    ∃ n, .var n ∈ t.leaves ∧ env n = none := by
  induction h with
  | @var n hn => exact ⟨n, by simp [Tree.leaves], hn⟩
  | unary _ ih => exact ih
  | left _ ih =>
      obtain ⟨n, hmem, hn⟩ := ih
      exact ⟨n, List.mem_append_left _ hmem, hn⟩
  | right _ _ _ ih =>
      obtain ⟨n, hmem, hn⟩ := ih
      exact ⟨n, List.mem_append_right _ hmem, hn⟩

-- The leaves of a tree that was walked over are what the walk makes of its leaves.
theorem Tree.exists_of_mem_traverse {α β ε : Type} {f : α → Except ε β} {t : Tree α} {t' : Tree β}
    (h : t.traverse f = .ok t') {b : β} (hb : b ∈ t'.leaves) : ∃ a ∈ t.leaves, f a = .ok b := by
  induction t generalizing t' with
  | leaf a =>
      obtain ⟨b', ha, h⟩ := exists_of_bind_eq_ok h
      cases h
      obtain rfl := List.mem_singleton.mp hb
      exact ⟨a, List.mem_singleton_self a, ha⟩
  | unary op t ih =>
      obtain ⟨u, ht, h⟩ := exists_of_bind_eq_ok h
      cases h
      exact ih ht hb
  | binary o l r ihl ihr =>
      obtain ⟨l', hl, h⟩ := exists_of_bind_eq_ok h
      obtain ⟨r', hr, h⟩ := exists_of_bind_eq_ok h
      cases h
      rcases List.mem_append.mp hb with hb | hb
      · obtain ⟨a, ha, hfa⟩ := ihl hl hb
        exact ⟨a, List.mem_append_left _ ha, hfa⟩
      · obtain ⟨a, ha, hfa⟩ := ihr hr hb
        exact ⟨a, List.mem_append_right _ ha, hfa⟩

-- Only a name is compiled to a variable, and it is a parameter.
theorem Leaf.resolve_eq_var {l : Leaf} {source : String}
    (h : l.resolve source (names.map some) = .ok (.var name)) : l = .name name ∧ name ∈ names := by
  cases l with
  | name n =>
      rw [resolve] at h
      split at h
      · rename_i hmem
        obtain rfl : n = name := by simpa using h
        exact ⟨rfl, by simpa using hmem⟩
      · cases h
  | number text =>
      simp only [resolve, numberAtom] at h
      split at h
      · cases h
      · split at h <;> cases h
  | string text =>
      simp only [resolve] at h
      split at h <;> cases h
  | true | false | none => cases h

theorem Compiled.Renders.exists_tree {f : Compiled} {source : String}
    (h : f.Renders source (names.map .str)) : ∃ tree, parse source = .ok tree ∧
      tree.traverse (Leaf.resolve source (names.map some)) = .ok f.body := by
  have hbody := h.body_eq
  rw [map_slotOf_str, Expr.body] at hbody
  cases hparse : parse source with
  | error column =>
      rw [hparse] at hbody
      cases hbody
  | ok tree =>
      rw [hparse] at hbody
      exact ⟨tree, rfl, hbody⟩

-- Whatever an evaluator has compiled before: what it compiles over names, called with an argument
-- for each, never comes to a name without a value, and of the arguments it only depends on those in
-- the last places of the names that the expression has. With fewer or more arguments it fails
-- whatever its tree is.
theorem Evaluator.call_closed (id : Nat) (requests : List (Value × Value)) (source : String)
    (params : Value) (names : List String) (hparams : params.members = .ok (names.map .str))
    (f : Compiled) (hf : ((after id requests).compile (.str source) params).1 = .ok f) :
    ∃ tree, parse source = .ok tree ∧
      (∀ args, args.length = names.length → ¬Strays (bound f.slots args) f.body) ∧
      (∀ args args', args.length = names.length → args'.length = names.length →
        (∀ n i, .name n ∈ tree.leaves → LastAt names n i → args[i]? = args'[i]?) →
        f.call args = f.call args') ∧
      ∀ args, args.length ≠ names.length → ∀ other : Tree Atom,
        { f with body := other }.call args =
          .error (.kind (.arity source names.length args.length)) := by
  rw [compile_str _ source hparams] at hf
  have hrenders := (faithful_after id requests).renders_of_compileText hf
  have hslots : f.slots = names.map some := hrenders.slots_eq.trans (map_slotOf_str names)
  obtain ⟨tree, hparse, htraverse⟩ := hrenders.exists_tree
  -- every variable is a name of the text, and bound to the argument in the last place of that
  have hbound : ∀ args, args.length = names.length → ∀ n, .var n ∈ f.body.leaves →
      .name n ∈ tree.leaves ∧ ∃ i, LastAt names n i ∧ bound f.slots args n = args[i]? := by
    intro args hargs n hn
    obtain ⟨l, hl, hresolve⟩ := Tree.exists_of_mem_traverse htraverse hn
    obtain ⟨rfl, hmem⟩ := Leaf.resolve_eq_var hresolve
    obtain ⟨i, hi⟩ := exists_lastAt hmem
    exact ⟨hl, i, hi, by rw [hslots, bound_of_lastAt hi hargs]⟩
  refine ⟨tree, hparse, fun args hargs hstrays => ?_, fun args args' hargs hargs' hagree => ?_,
    fun args hargs other => ?_⟩
  · obtain ⟨n, hn, hunbound⟩ := hstrays.exists_var
    obtain ⟨-, i, hi, hvalue⟩ := hbound args hargs n hn
    have hlt : i < names.length := (List.getElem?_eq_some_iff.mp hi.1).1
    rw [hvalue, List.getElem?_eq_getElem (hargs ▸ hlt)] at hunbound
    cases hunbound
  · have heval : eval (bound f.slots args) f.body = eval (bound f.slots args') f.body := by
      refine eval_congr fun n hn => ?_
      obtain ⟨hname, i, hi, hvalue⟩ := hbound args hargs n hn
      rw [hvalue, hagree n i hname hi, hslots, bound_of_lastAt hi hargs']
    simp only [Compiled.call, hslots, List.length_map, hargs, hargs', if_true]
    rwa [hslots] at heval
  · simp [Compiled.call, hslots, hargs, hrenders.source_eq]

namespace Sample

-- The second name stands twice among the parameters, and only its last place counts; what the third
-- stands for is not mentioned.
theorem call_closed_shadowed :
    (Value.list [.str "x", .str "y", .str "z", .str "y"]).members =
        .ok (["x", "y", "z", "y"].map .str) ∧
      ∃ f, ((Evaluator.after 0 []).compile (.str "x and y + 1")
          (.list [.str "x", .str "y", .str "z", .str "y"])).1 = .ok f ∧
        ¬Strays (bound f.slots [.int 1, .null, .null, .int 4]) f.body ∧
        f.call [.int 1, .null, .null, .int 4] = f.call [.int 1, .int 2, .int 3, .int 4] ∧
        f.call [.int 1] = .error (.kind (.arity "x and y + 1" 4 1)) := by
  obtain ⟨f, hf⟩ : ∃ f, ((Evaluator.after 0 []).compile (.str "x and y + 1")
      (.list [.str "x", .str "y", .str "z", .str "y"])).1 = .ok f := ⟨_, rfl⟩
  obtain ⟨tree, hparse, hclosed, hagree, harity⟩ := Evaluator.call_closed 0 [] "x and y + 1"
    (.list [.str "x", .str "y", .str "z", .str "y"]) ["x", "y", "z", "y"] rfl f hf
  have hread : parse "x and y + 1" = .ok (.binary .and (.leaf (.name "x"))
      (.binary .add (.leaf (.name "y")) (.leaf (.number "1")))) := by cbv
  obtain rfl := Except.ok.inj (hread.symm.trans hparse)
  refine ⟨rfl, f, hf, hclosed _ rfl, hagree _ _ rfl rfl ?_, harity _ (by decide) f.body⟩
  intro n i hn hlast
  have hword : n = "x" ∨ n = "y" := by simpa [Tree.leaves] using hn
  -- the places in between are not the last of any name that is mentioned
  rcases i with _ | _ | _ | _ | i
  · rfl
  · obtain rfl : "y" = n := Option.some.inj hlast.1
    exact absurd rfl (hlast.2 3 (by decide))
  · obtain rfl : "z" = n := Option.some.inj hlast.1
    simp at hword
  · rfl
  · rfl

end Sample

end Dialect.Expr
