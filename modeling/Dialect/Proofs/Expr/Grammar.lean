import Dialect.Expr.Parser

namespace Dialect.Expr

-- The chain from disjunctions down to atoms says how tightly operators bind.
inductive Nonterminal where
  | disjunction | conjunction | inversion | comparison | sum | product | unary | power | atom
deriving Repr, DecidableEq, Inhabited

-- `Derives n ts t`: the tokens `ts` are derived from `n`, with the tree `t`. A production that only
-- passes from one nonterminal to the next adds nothing to the tree, nor do parentheses.
inductive Derives : Nonterminal → List Token → Tree Leaf → Prop
  | disjunction {ts t} : Derives .conjunction ts t → Derives .disjunction ts t
  | or {ls rs l r} : Derives .disjunction ls l → Derives .conjunction rs r →
      Derives .disjunction (ls ++ .op .or :: rs) (.binary .or l r)
  | conjunction {ts t} : Derives .inversion ts t → Derives .conjunction ts t
  | and {ls rs l r} : Derives .conjunction ls l → Derives .inversion rs r →
      Derives .conjunction (ls ++ .op .and :: rs) (.binary .and l r)
  | inversion {ts t} : Derives .comparison ts t → Derives .inversion ts t
  | not {ts t} : Derives .inversion ts t → Derives .inversion (.not :: ts) (.unary .not t)
  | comparison {ts t} : Derives .sum ts t → Derives .comparison ts t
  | compare {o ls rs l r} : o ∈ [.eq, .ne, .lt, .le, .gt, .ge] →
      Derives .sum ls l → Derives .sum rs r →
      Derives .comparison (ls ++ .op o :: rs) (.binary o l r)
  | sum {ts t} : Derives .product ts t → Derives .sum ts t
  | add {o ls rs l r} : o ∈ [.add, .sub] →
      Derives .sum ls l → Derives .product rs r →
      Derives .sum (ls ++ .op o :: rs) (.binary o l r)
  | product {ts t} : Derives .unary ts t → Derives .product ts t
  | multiply {o ls rs l r} : o ∈ [.mul, .div, .floorDiv, .mod] →
      Derives .product ls l → Derives .unary rs r →
      Derives .product (ls ++ .op o :: rs) (.binary o l r)
  | unary {ts t} : Derives .power ts t → Derives .unary ts t
  | neg {ts t} : Derives .unary ts t → Derives .unary (.op .sub :: ts) (.unary .neg t)
  | pos {ts t} : Derives .unary ts t → Derives .unary (.op .add :: ts) (.unary .pos t)
  | power {ts t} : Derives .atom ts t → Derives .power ts t
  | pow {ls rs l r} : Derives .atom ls l → Derives .unary rs r →
      Derives .power (ls ++ .op .pow :: rs) (.binary .pow l r)
  | leaf (a : Leaf) : Derives .atom [.leaf a] (.leaf a)
  | paren {ts t} : Derives .disjunction ts t → Derives .atom (.opening :: ts ++ [.closing]) t

-- A token may come after others if some expression goes on with it.
def Admits (before : List Token) (token : Token) : Prop :=
  ∃ after t, Derives .disjunction (before ++ token :: after) t

-- The token of an operator in front of its operand.
def UnaryOp.token : UnaryOp → Token
  | not => .not
  | neg => .op .sub
  | pos => .op .add

-- The grammar by levels: atoms are at level 8, and what is at a level is also at those below. The
-- productions of all operators become one, so that a proof about all of the grammar has five cases
-- and not nineteen.
inductive Phrase : Nat → List Token → Tree Leaf → Prop
  | leaf (a : Leaf) : Phrase 8 [.leaf a] (.leaf a)
  | paren {ts t} : Phrase 0 ts t → Phrase 8 (.opening :: ts ++ [.closing]) t
  | unary {ts t} (op : UnaryOp) : Phrase op.level ts t →
      Phrase op.level (op.token :: ts) (.unary op t)
  | binary {ls rs l r} (o : BinaryOp) : Phrase o.leftLevel ls l → Phrase o.rightLevel rs r →
      Phrase o.level (ls ++ .op o :: rs) (.binary o l r)
  | lift {n ts t} : Phrase (n + 1) ts t → Phrase n ts t

variable {ts : List Token} {t : Tree Leaf} {n : Nat}

theorem Phrase.mono {m : Nat} (hle : m ≤ n) (h : Phrase n ts t) : Phrase m ts t := by
  induction hle with
  | refl => exact h
  | step _ ih => exact ih h.lift

-- The production of an operator, at levels that are known to be its own.
theorem Phrase.binary_of {ls rs : List Token} {l r : Tree Leaf} {o : BinaryOp} {i j k : Nat}
    (hi : o.leftLevel = i) (hj : o.rightLevel = j) (hk : o.level = k)
    (hl : Phrase i ls l) (hr : Phrase j rs r) : Phrase k (ls ++ .op o :: rs) (.binary o l r) := by
  subst hi hj hk
  exact .binary o hl hr

namespace Nonterminal

def rank : Nonterminal → Nat
  | disjunction => 0
  | conjunction => 1
  | inversion => 2
  | comparison => 3
  | sum => 4
  | product => 5
  | unary => 6
  | power => 7
  | atom => 8

def ofRank : Nat → Nonterminal
  | 0 => disjunction
  | 1 => conjunction
  | 2 => inversion
  | 3 => comparison
  | 4 => sum
  | 5 => product
  | 6 => unary
  | 7 => power
  | _ => atom

theorem ofRank_rank (n : Nonterminal) : ofRank n.rank = n := by
  cases n <;> rfl

end Nonterminal

theorem Derives.phrase {n : Nonterminal} (h : Derives n ts t) : Phrase n.rank ts t := by
  induction h with
  | disjunction _ ih | conjunction _ ih | inversion _ ih | comparison _ ih | sum _ ih
  | product _ ih | unary _ ih | power _ ih => exact ih.lift
  | or _ _ ihl ihr => exact .binary .or ihl ihr
  | and _ _ ihl ihr => exact .binary .and ihl ihr
  | not _ ih => exact .unary .not ih
  | neg _ ih => exact .unary .neg ih
  | pos _ ih => exact .unary .pos ih
  | pow _ _ ihl ihr => exact .binary .pow ihl ihr
  | compare ho _ _ ihl ihr | add ho _ _ ihl ihr | multiply ho _ _ ihl ihr =>
      -- the operators of one production share all three levels
      simp only [List.mem_cons, List.not_mem_nil, or_false] at ho
      rcases ho with rfl | rfl | rfl | rfl | rfl | rfl <;> exact .binary_of rfl rfl rfl ihl ihr
  | leaf a => exact .leaf a
  | paren _ ih => exact .paren ih

-- Each nonterminal has the production that passes to the next one.
theorem Derives.lift (h : Derives (.ofRank (n + 1)) ts t) : Derives (.ofRank n) ts t := by
  match n with
  | 0 => exact .disjunction h
  | 1 => exact .conjunction h
  | 2 => exact .inversion h
  | 3 => exact .comparison h
  | 4 => exact .sum h
  | 5 => exact .product h
  | 6 => exact .unary h
  | 7 => exact .power h
  | _ + 8 => exact h

theorem Phrase.derives (h : Phrase n ts t) : Derives (.ofRank n) ts t := by
  induction h with
  | leaf a => exact .leaf a
  | paren _ ih => exact .paren ih
  | lift _ ih => exact ih.lift
  | unary op _ ih =>
      cases op with
      | not => exact .not ih
      | neg => exact .neg ih
      | pos => exact .pos ih
  | binary o _ _ ihl ihr =>
      cases o with
      | or => exact .or ihl ihr
      | and => exact .and ihl ihr
      | eq | ne | lt | le | gt | ge => exact .compare (by simp) ihl ihr
      | add | sub => exact .add (by simp) ihl ihr
      | mul | div | floorDiv | mod => exact .multiply (by simp) ihl ihr
      | pow => exact .pow ihl ihr

theorem derives_iff_phrase {n : Nonterminal} : Derives n ts t ↔ Phrase n.rank ts t := by
  constructor
  · exact Derives.phrase
  · intro h
    have hd := h.derives
    rwa [Nonterminal.ofRank_rank] at hd

end Dialect.Expr
