namespace Dialect.Expr

inductive UnaryOp where
  | not | neg | pos
deriving Repr, DecidableEq, Inhabited

inductive BinaryOp where
  | or | and
  | eq | ne | lt | le | gt | ge
  | add | sub
  | mul | div | floorDiv | mod
  | pow
deriving Repr, DecidableEq, Inhabited

-- Prefix and infix operators inside and something at the leaves: what was written (`Leaf`) right
-- after parsing, constants and variables (`Atom`) once the tree is compiled.
inductive Tree (α : Type) where
  | leaf (a : α)
  | unary (op : UnaryOp) (arg : Tree α)
  | binary (op : BinaryOp) (left right : Tree α)
deriving Repr, DecidableEq, Inhabited

-- An operand as it was written: digits, a quoted text with its quotes, a name or a keyword.
inductive Leaf where
  | number (text : String)
  | string (text : String)
  | true
  | false
  | none
  | name (text : String)
deriving Repr, DecidableEq, Inhabited

-- An operand of a compiled expression.
inductive Atom where
  | none
  | bool (b : Bool)
  | int (n : Nat)
  | float (x : Float)
  | str (s : String)
  | var (name : String)
deriving DecidableEq, Inhabited

variable {α β ε : Type}

-- The leaves from left to right.
def Tree.leaves : Tree α → List α
  | leaf a => [a]
  | unary _ t => t.leaves
  | binary _ l r => l.leaves ++ r.leaves

-- Replaces every leaf, from left to right; the first leaf that fails ends the work.
def Tree.traverse (f : α → Except ε β) : Tree α → Except ε (Tree β)
  | leaf a => do return leaf (← f a)
  | unary op t => do return unary op (← t.traverse f)
  | binary op l r => do
    let l' ← l.traverse f
    let r' ← r.traverse f
    return binary op l' r'

-- A compiled expression. Slots are its parameters in order; a slot without a name takes an
-- argument that the expression cannot mention. The owner and the index tell functions apart: an
-- evaluator numbers the functions it has made.
structure Compiled where
  owner : Nat
  index : Nat
  source : String
  slots : List (Option String)
  body : Tree Atom
deriving Inhabited

def Compiled.same (a b : Compiled) : Bool := a.owner == b.owner && a.index == b.index

end Dialect.Expr
