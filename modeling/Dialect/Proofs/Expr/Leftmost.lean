import Dialect.Proofs.Expr.Recognition
import Dialect.Proofs.Expr.Refusal

namespace Dialect.Expr

def Token.leaf? : Token → Option Leaf
  | leaf l => some l
  | _ => none

-- A name is a parameter, a whole number has not too many digits, and a quoted text decodes.
def Leaf.InOrder (names : List String) : Leaf → Prop
  | name n => n ∈ names
  | number text => ¬text.toList.any isFloatMark → text.toList.length ≤ digitLimit
  | string text => ∃ s, Literal.decode text = .ok s
  | _ => True

variable {ts : List Token} {t : Tree Leaf} {n : Nat} {source : String} {names : List String}
  {l : Leaf} {e : Error}

-- The leaves of a tree are the operands of its text in the order in which they stand there. By
-- induction on the phrase: what its operators and parentheses add to the tokens is no leaf.
theorem Phrase.leaves_eq (h : Phrase n ts t) : t.leaves = ts.filterMap Token.leaf? := by
  induction h with
  | leaf a => rfl
  | paren _ ih => simpa [List.filterMap_cons, Token.leaf?] using ih
  | unary op _ ih =>
      cases op <;> simpa [Tree.leaves, List.filterMap_cons, Token.leaf?, UnaryOp.token] using ih
  | binary o _ _ ihl ihr => simp [Tree.leaves, List.filterMap_cons, Token.leaf?, ihl, ihr]
  | lift _ ih => exact ih

theorem Leaf.inOrder_iff : l.InOrder names ↔ ¬l.Unreadable ∧ l.Known names := by
  constructor
  · intro h
    refine ⟨?_, ?_⟩
    · rintro (⟨whole, long⟩ | bad)
      · exact absurd (h whole) (Nat.not_le.mpr long)
      · obtain ⟨s, hs⟩ := h
        rw [hs] at bad
        cases bad
    · rintro n rfl
      exact h
  · rintro ⟨hread, hknown⟩
    cases l with
    | name n => exact hknown n rfl
    | number text => exact fun whole => Nat.not_lt.mp fun long => hread (.number whole long)
    | string text =>
        cases hdecode : Literal.decode text with
        | ok s => exact ⟨s, hdecode⟩
        | error fault => exact absurd (.string hdecode) hread
    | true | false | none => trivial

theorem Leaf.resolve_eq_ok_iff_inOrder :
    (∃ a, l.resolve source (names.map some) = .ok a) ↔ l.InOrder names :=
  resolve_eq_ok_iff.trans inOrder_iff.symm

theorem Leaf.resolve_eq_error_iff :
    l.resolve source (names.map some) = .error e ↔ l.Faulty source names e := by
  constructor
  · intro h
    have hbad : ¬∃ a, l.resolve source (names.map some) = .ok a := by simp [h]
    rw [resolve_eq_ok_iff_inOrder] at hbad
    cases l with
    | name n =>
        have habsent : n ∉ names := hbad
        simp only [resolve, List.contains_eq_mem, List.mem_map, Option.some.injEq, exists_eq_right,
          habsent, decide_false, Bool.false_eq_true, if_false, Except.error.injEq] at h
        exact h ▸ .unknown habsent
    | number text =>
        simp only [InOrder, Classical.not_imp, Nat.not_le] at hbad
        rw [resolve, numberAtom_eq, if_neg hbad.1, if_pos hbad.2] at h
        exact Except.error.inj h ▸ .overlong hbad.1 hbad.2
    | string text =>
        cases hdecode : Literal.decode text with
        | ok s => exact absurd ⟨s, hdecode⟩ hbad
        | error fault =>
            rw [resolve, hdecode] at h
            exact Except.error.inj h ▸ .undecodable hdecode
    | true | false | none => exact absurd trivial hbad
  · exact Faulty.resolve_eq

theorem Token.leaf?_eq_some_iff {a : Token} : a.leaf? = some l ↔ a = .leaf l := by
  cases a <;> simp [leaf?]

-- The first leaf that fails, told by the tokens.
theorem firstFails_leaves_iff {f : Leaf → Except Error Atom} :
    FirstFails f (ts.filterMap Token.leaf?) e ↔
      ∃ before l after, ts = before ++ .leaf l :: after ∧
        (∀ m, .leaf m ∈ before → ∃ x, f m = .ok x) ∧ f l = .error e := by
  constructor
  · rintro ⟨first, l, rest, hsplit, hfirst, hl⟩
    obtain ⟨before, more, rfl, rfl, hmore⟩ := List.filterMap_eq_append_iff.mp hsplit
    obtain ⟨gap, a, after, rfl, hgap, ha, -⟩ := List.filterMap_eq_cons_iff.mp hmore
    obtain rfl := Token.leaf?_eq_some_iff.mp ha
    refine ⟨before ++ gap, l, after, by simp, fun m hm => ?_, hl⟩
    rcases List.mem_append.mp hm with hm | hm
    · exact hfirst m (List.mem_filterMap.mpr ⟨.leaf m, hm, rfl⟩)
    · cases hgap _ hm
  · rintro ⟨before, l, after, rfl, hbefore, hl⟩
    refine ⟨before.filterMap Token.leaf?, l, after.filterMap Token.leaf?, ?_, fun m hm => ?_, hl⟩
    · simp [Token.leaf?]
    · obtain ⟨a, ha, hm⟩ := List.mem_filterMap.mp hm
      obtain rfl := Token.leaf?_eq_some_iff.mp hm
      exact hbefore m ha

theorem forall_mem_leaves_iff {p : Leaf → Prop} :
    (∀ l ∈ ts.filterMap Token.leaf?, p l) ↔ ∀ l, .leaf l ∈ ts → p l := by
  simp only [List.mem_filterMap, Token.leaf?_eq_some_iff, exists_eq_right]

-- Whatever an evaluator has compiled before: over names, a text that does not parse is refused with
-- the column, whatever names it has; one that parses is compiled if and only if all operands that
-- stand in it are in order, and otherwise the leftmost that is not gives the error.
theorem Evaluator.compile_decided_by_leftmost (id : Nat) (requests : List (Value × Value))
    (source : String) (params : Value) (names : List String)
    (hparams : params.members = .ok (names.map .str)) :
    (∀ column, parse source = .error column →
      ((after id requests).compile (.str source) params).1 =
        .error (.expression source (.column column))) ∧
    ∀ tree, parse source = .ok tree → ∃ ts, Laid ts source.toList ∧ Derives .disjunction ts tree ∧
      ((∃ f, ((after id requests).compile (.str source) params).1 = .ok f) ↔
        ∀ l, .leaf l ∈ ts → l.InOrder names) ∧
      ∀ e, ((after id requests).compile (.str source) params).1 = .error e ↔
        ∃ before l after, ts = before ++ .leaf l :: after ∧
          (∀ m, .leaf m ∈ before → m.InOrder names) ∧ l.Faulty source names e := by
  have hfaithful := faithful_after id requests
  rw [compile_str _ source hparams, hfaithful.exists_compileText_eq_ok_iff]
  simp only [hfaithful.compileText_eq_error_iff, body]
  refine ⟨fun column hparse => by rw [hparse], fun tree hparse => ?_⟩
  obtain ⟨ts, hscans, hderives⟩ := parse_eq_ok_iff_scans.mp hparse
  refine ⟨ts, hscans.laid.1, hderives, ?_, fun e => ?_⟩
  · simp only [hparse, Tree.exists_traverse_eq_ok_iff, hderives.phrase.leaves_eq,
      forall_mem_leaves_iff, Leaf.resolve_eq_ok_iff_inOrder]
  · simp only [hparse, Tree.traverse_eq_error_iff, hderives.phrase.leaves_eq,
      firstFails_leaves_iff, Leaf.resolve_eq_ok_iff_inOrder, Leaf.resolve_eq_error_iff]

namespace Sample

-- A name that is a parameter, and a quoted text and two names that are not in order.
def burdened : Tree Leaf :=
  .binary .or (.leaf (.name "x"))
    (.binary .pow (.binary .add (.leaf (.string "\"\\x\"")) (.leaf (.name "y")))
      (.leaf (.name "z")))

-- The quoted text stands in front of the names, though it is deeper in the tree than one of them.
theorem compile_decided_by_leftmost_burdened :
    (Value.list [.str "x"]).members = .ok (["x"].map .str) ∧
      parse "x or (\"\\x\" + y) ** z" = .ok burdened ∧
      ((Evaluator.after 0 []).compile (.str "x or (\"\\x\" + y) ** z") (.list [.str "x"])).1 =
        .error (.literal (.escape 0 1 "truncated \\xXX escape" 1)) := by
  have hparse : parse "x or (\"\\x\" + y) ** z" = .ok burdened := by cbv
  have hdecode : Literal.decode "\"\\x\"" =
      .error (.escape 0 1 "truncated \\xXX escape" 1) := by cbv
  refine ⟨rfl, hparse, ?_⟩
  obtain ⟨ts, -, hderives, -, herror⟩ :=
    (Evaluator.compile_decided_by_leftmost 0 [] _ (.list [.str "x"]) ["x"] rfl).2 burdened hparse
  have hfirst : FirstFails (Leaf.resolve "x or (\"\\x\" + y) ** z" (["x"].map some)) burdened.leaves
      (.literal (.escape 0 1 "truncated \\xXX escape" 1)) :=
    ⟨[.name "x"], .string "\"\\x\"", [.name "y", .name "z"], rfl,
      fun m hm => ⟨.var "x", by obtain rfl := List.mem_singleton.mp hm; rfl⟩,
      (Leaf.Faulty.undecodable hdecode).resolve_eq⟩
  rw [hderives.phrase.leaves_eq, firstFails_leaves_iff] at hfirst
  simp only [Leaf.resolve_eq_ok_iff_inOrder, Leaf.resolve_eq_error_iff] at hfirst
  exact (herror _).mpr hfirst

end Sample

end Dialect.Expr
