import Dialect.Expr.Tree
import Dialect.Value.Order
import Dialect.Value.Template

namespace Dialect.Expr

def Atom.value (env : String → Option Value) : Atom → Except Error Value
  | none => .ok .null
  | bool b => .ok (.bool b)
  | int n => .ok (.int n)
  | float x => .ok (.float x)
  | str s => .ok (.str s)
  | var n => match env n with
    | some v => .ok v
    | .none => .error (.missingKey (.str n))

def UnaryOp.apply : UnaryOp → Value → Except Error Value
  | not, v => .ok (.bool !v.truthy)
  | neg, v => v.neg
  | pos, v => v.pos

def related (r : Rel) (a b : Value) : Except Error Value := (a.related r b).map .bool

-- An operator on two values, both of which are needed.
def BinaryOp.apply : BinaryOp → Value → Value → Except Error Value
  | or, a, b => .ok (if a.truthy then a else b)
  | and, a, b => .ok (if a.truthy then b else a)
  | eq, a, b => .ok (.bool (a.equal b))
  | ne, a, b => .ok (.bool !a.equal b)
  | lt, a, b => related .lt a b
  | le, a, b => related .le a b
  | gt, a, b => related .gt a b
  | ge, a, b => related .ge a b
  | add, a, b => a.add b
  | sub, a, b => a.sub b
  | mul, a, b => a.mul b
  | div, a, b => a.div b
  | floorDiv, a, b => a.quot b
  | mod, a, b => a.mod b
  | pow, a, b => a.pow b

-- The value of an expression in an environment. Operands are evaluated from left to right; `or` and
-- `and` give the operand that decides and leave the right one alone if the left one does.
def eval (env : String → Option Value) : Tree Atom → Except Error Value
  | .leaf a => a.value env
  | .unary op e => do op.apply (← eval env e)
  | .binary .or l r => do
    let a ← eval env l
    if a.truthy then return a else eval env r
  | .binary .and l r => do
    let a ← eval env l
    if a.truthy then eval env r else return a
  | .binary op l r => do
    let a ← eval env l
    let b ← eval env r
    op.apply a b

-- The last argument whose slot has the name.
def bound (slots : List (Option String)) (args : List Value) (name : String) : Option Value :=
  ((slots.zip args).reverse.find? fun p => p.1 == some name).map (·.2)

-- Calls a compiled expression; it takes one argument per slot.
def Compiled.call (f : Compiled) (args : List Value) : Except Error Value :=
  if args.length = f.slots.length then eval (bound f.slots args) f.body
  else .error (.kind (.arity f.source f.slots.length args.length))

end Dialect.Expr
