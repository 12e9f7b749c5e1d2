import Dialect.Proofs.Expr.Binding
import Dialect.Proofs.Expr.Printing
import Dialect.Proofs.Expr.Spelling

namespace Dialect.Expr

-- A number as it is written and what it denotes. The digits of a whole number are limited.
structure NumberLiteral where
  text : String
  value : Value
  denotes : Denotes text.toList value
  short : (text.toList.filter Text.isAsciiDigit).length ≤ digitLimit

-- A quoted text as it is written, without its quotes, and what it spells.
structure TextLiteral where
  inner : List Char
  value : List Char
  spells : Literal.Spells inner value

-- A word that is a name wherever it stands.
structure Identifier where
  name : String
  isName : Name name.toList
  free : name ∉ ["true", "false", "none", "not"]

-- Operands carry their own meaning: numbers and quoted texts with what they stand for, and
-- variables.
inductive Operand where
  | number (n : NumberLiteral)
  | text (t : TextLiteral)
  | bool (b : Bool)
  | none
  | var (x : Identifier)

namespace Operand

-- How an operand is written.
def leaf : Operand → Leaf
  | number n => .number n.text
  | text t => .string (String.ofList ('"' :: (t.inner ++ ['"'])))
  | bool true => .true
  | bool false => .false
  | none => .none
  | var x => .name x.name

-- What an operand stands for, given the values of variables.
def value (given : String → Value) : Operand → Value
  | number n => n.value
  | text t => .str (String.ofList t.value)
  | bool b => .bool b
  | none => .null
  | var x => given x.name

end Operand

namespace Tree

-- The value of an expression. Operands are evaluated from left to right, the right one only if the
-- left one does not decide; the first error is the answer.
def value (given : String → Value) : Tree Operand → Except Error Value
  | leaf a => .ok (a.value given)
  | unary op t => match t.value given with
    | .error x => .error x
    | .ok a => op.apply a
  | binary o l r => match l.value given with
    | .error x => .error x
    | .ok a =>
      if o.decidedBy a then .ok a
      else match r.value given with
        | .error x => .error x
        | .ok b => o.apply a b

-- An expression as it is written.
def written (e : Tree Operand) : Tree Leaf := e.map Operand.leaf

-- The text of an expression, with one blank between any two tokens.
def text (e : Tree Operand) : String := spaced e.written.tokens

end Tree

-- The argument of a name: that of its place among the parameters.
def argument (params : List String) (args : List Value) (name : String) : Value :=
  args.getD (params.idxOf name) .null

variable {α β : Type}

theorem Tree.leaves_map (f : α → β) (t : Tree α) : (t.map f).leaves = t.leaves.map f := by
  induction t with
  | leaf a => rfl
  | unary op t ih => exact ih
  | binary o l r ihl ihr => simp [Tree.map, Tree.leaves, ihl, ihr]

theorem Operand.wellFormed_leaf (a : Operand) : a.leaf.WellFormed := by
  match a with
  | .number n => exact numeral_iff_denotes.mpr ⟨n.value, n.denotes⟩
  | .text t =>
      change Quotation (String.ofList ('"' :: (t.inner ++ ['"']))).toList
      rw [String.toList_ofList]
      exact t.spells.quotation
  | .bool true | .bool false | .none => trivial
  | .var x => exact x.isName

theorem Operand.leaf_eq_name {a : Operand} {w : String} (h : a.leaf = .name w) :
    w ∉ ["true", "false", "none", "not"] := by
  match a with
  | .var x =>
      obtain rfl : x.name = w := Leaf.name.inj h
      exact x.free
  | .bool true | .bool false => cases h

theorem parse_text (e : Tree Operand) : parse e.text = .ok e.written := by
  refine parse_tokens ?_ ?_
  · intro l hl
    rw [Tree.written, Tree.leaves_map] at hl
    obtain ⟨a, -, rfl⟩ := List.mem_map.mp hl
    exact a.wellFormed_leaf
  · intro w hw
    rw [Tree.written, Tree.leaves_map] at hw
    obtain ⟨a, -, ha⟩ := List.mem_map.mp hw
    exact Operand.leaf_eq_name ha

variable {given : String → Value} {env : String → Option Value}

-- Compiling an operand finds what it stands for.
theorem Operand.resolve_leaf (a : Operand) (source : String) {names : List (Option String)}
    (hvar : ∀ x, a = .var x → some x.name ∈ names ∧ env x.name = some (given x.name)) :
    ∃ b, a.leaf.resolve source names = .ok b ∧ b.value env = .ok (a.value given) := by
  match a with
  | .number n =>
      obtain ⟨b, hb, hvalue⟩ := numberAtom_of_denotes n.denotes n.short
      exact ⟨b, hb, hvalue env⟩
  | .text t =>
      have hdecode := Literal.decode_of_spells String.toList_ofList t.spells
      refine ⟨.str (String.ofList t.value), ?_, rfl⟩
      simp only [Operand.leaf, Leaf.resolve, hdecode]
  | .bool true => exact ⟨.bool true, rfl, rfl⟩
  | .bool false => exact ⟨.bool false, rfl, rfl⟩
  | .none => exact ⟨.none, rfl, rfl⟩
  | .var x =>
      obtain ⟨hname, henv⟩ := hvar x rfl
      refine ⟨.var x.name, ?_, ?_⟩
      · simp [Operand.leaf, Leaf.resolve, hname]
      · simp [Atom.value, henv, Operand.value]

-- The compiled tree has the value of the expression. The induction is on the expression.
theorem exists_traverse_eq (e : Tree Operand) (source : String) {names : List (Option String)}
    (hvar : ∀ x, .var x ∈ e.leaves →
      some x.name ∈ names ∧ env x.name = some (given x.name)) :
    ∃ t, e.written.traverse (Leaf.resolve source names) = .ok t ∧
      eval env t = e.value given := by
  induction e with
  | leaf a =>
      obtain ⟨b, hb, hvalue⟩ := a.resolve_leaf source fun x hx => hvar x (by simp [Tree.leaves, hx])
      refine ⟨.leaf b, ?_, hvalue⟩
      change (a.leaf.resolve source names >>= fun b => _) = _
      rw [hb]
      rfl
  | unary op e ih =>
      obtain ⟨t, ht, hvalue⟩ := ih hvar
      refine ⟨.unary op t, ?_, ?_⟩
      · change (e.written.traverse (Leaf.resolve source names) >>= fun t => _) = _
        rw [ht]
        rfl
      · rw [eval_unary, hvalue]
        rfl
  | binary o l r ihl ihr =>
      obtain ⟨tl, htl, hl⟩ := ihl fun x hx => hvar x (by simp [Tree.leaves, hx])
      obtain ⟨tr, htr, hr⟩ := ihr fun x hx => hvar x (by simp [Tree.leaves, hx])
      refine ⟨.binary o tl tr, ?_, ?_⟩
      · change (l.written.traverse (Leaf.resolve source names) >>= fun tl =>
          r.written.traverse (Leaf.resolve source names) >>= fun tr => _) = _
        rw [htl, htr]
        rfl
      · rw [eval_binary, hl, hr]
        rfl

-- With distinct parameters every name is bound to the argument of its place.
theorem bound_eq_argument {params : List String} {args : List Value} (hdistinct : params.Nodup)
    (hargs : args.length = params.length) {name : String} (hname : name ∈ params) :
    bound (params.map some) args name = some (argument params args name) := by
  have hlt : params.idxOf name < params.length := List.idxOf_lt_length_of_mem hname
  have hplace : params[params.idxOf name]? = some name := by
    rw [List.getElem?_eq_getElem hlt, List.getElem_idxOf hlt]
  rw [bound_of_lastAt (lastAt_of_nodup hdistinct hplace) hargs, argument,
    List.getD_eq_getElem?_getD, List.getElem?_eq_getElem (hargs ▸ hlt)]
  rfl

-- The text of an expression is the shortest that the grammar derives it from, and what it is
-- compiled to gives the value of the expression or fails with the error that evaluation meets.
theorem call_compile_eq_value (id : Nat) (requests : List (Value × Value)) (e : Tree Operand)
    (params : List String) (args : List Value) (hdistinct : params.Nodup)
    (hvars : ∀ x, .var x ∈ e.leaves → x.name ∈ params)
    (hargs : args.length = params.length) :
    (∀ ts, Derives .disjunction ts e.written → e.written.tokens.length ≤ ts.length) ∧
    ∃ f, ((Evaluator.after id requests).compile (.str e.text) (.list (params.map .str))).1 = .ok f ∧
      f.call args = e.value (argument params args) := by
  refine ⟨fun ts hts => hts.phrase.length_tokensAt_le, ?_⟩
  have hbound : ∀ x, .var x ∈ e.leaves → some x.name ∈ params.map some ∧
      bound (params.map some) args x.name = some (argument params args x.name) := by
    intro x hx
    exact ⟨List.mem_map_of_mem (hvars x hx), bound_eq_argument hdistinct hargs (hvars x hx)⟩
  obtain ⟨t, ht, hvalue⟩ := exists_traverse_eq e e.text hbound
  have hbody : body e.text (params.map some) = .ok t := by
    rw [body, parse_text]
    exact ht
  have hcompile := (Evaluator.faithful_after id requests).compileText_names e.text params
  rw [hbody] at hcompile
  obtain ⟨f, hf, hrenders⟩ := hcompile
  refine ⟨f, ?_, ?_⟩
  · rw [Evaluator.compile_str _ _ rfl, hf]
  · have hslots : f.slots = params.map some := hrenders.slots_eq.trans (map_slotOf_str params)
    have htree : f.body = t := by
      have hrendered := hrenders.body_eq
      rw [map_slotOf_str, hbody] at hrendered
      exact (Except.ok.inj hrendered).symm
    rw [Compiled.call, hslots, htree, if_pos (by simpa using hargs), hvalue]

namespace Sample

def x : Identifier := ⟨"x", .mk rfl (by simp), by decide⟩

def y : Identifier := ⟨"y", .mk rfl (by simp), by decide⟩

def two : NumberLiteral :=
  ⟨"2", .int 2, .whole (by decide) (by simp [AllDigits, Text.isAsciiDigit]), by decide⟩

def tab : TextLiteral := ⟨['\\', 't'], ['\t'], @Literal.Spells.escape 't' [] [] ['\t'] []
  (.mark (by decide)) .nil⟩

-- The comparison is only reached if the left side does not decide.
def guarded : Tree Operand :=
  .binary .and (.binary .or (.leaf (.var x)) (.leaf (.var y)))
    (.binary .ne (.leaf (.text tab))
      (.unary .neg (.binary .pow (.leaf (.var x)) (.leaf (.number two)))))

-- One call gives a value, another one fails on its power.
theorem call_compile_guarded :
    ["x", "y"].Nodup ∧ (∀ v, .var v ∈ guarded.leaves → v.name ∈ ["x", "y"]) ∧
    (∃ f, ((Evaluator.after 0 [(.str "y", .list [.str "y"])]).compile
        (.str "( x or y ) and \"\\t\" != - x ** 2") (.list [.str "x", .str "y"])).1 = .ok f ∧
      f.call [.int 0, .int 3] = .ok (.bool true)) ∧
    ∃ f, ((Evaluator.after 0 []).compile
        (.str "( x or y ) and \"\\t\" != - x ** 2") (.list [.str "x", .str "y"])).1 = .ok f ∧
      f.call [.null, .int 3] = .error (.kind (.operands "** or pow()" .null .int)) := by
  have hvars : ∀ v, .var v ∈ guarded.leaves → v.name ∈ ["x", "y"] := by
    intro v hv
    simp only [guarded, Tree.leaves, List.mem_append, List.mem_singleton, Operand.var.injEq,
      reduceCtorEq, or_false, false_or] at hv
    rcases hv with (rfl | rfl) | rfl <;> decide
  have htext : guarded.text = "( x or y ) and \"\\t\" != - x ** 2" := by cbv
  have hvalue : guarded.value (argument ["x", "y"] [.int 0, .int 3]) = .ok (.bool true) := by cbv
  have herror : guarded.value (argument ["x", "y"] [.null, .int 3]) =
      .error (.kind (.operands "** or pow()" .null .int)) := by cbv
  have hfirst := (call_compile_eq_value 0 [(.str "y", .list [.str "y"])] guarded ["x", "y"]
    [.int 0, .int 3] (by decide) hvars rfl).2
  have hsecond := (call_compile_eq_value 0 [] guarded ["x", "y"] [.null, .int 3] (by decide)
    hvars rfl).2
  rw [htext, hvalue] at hfirst
  rw [htext, herror] at hsecond
  exact ⟨by decide, hvars, hfirst, hsecond⟩

end Sample

end Dialect.Expr
