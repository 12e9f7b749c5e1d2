import Dialect.Expr.Token

namespace Dialect.Expr

namespace BinaryOp

-- The level of an operator: `or`, `and`, `not`, comparisons, sums, products, signs, powers.
def level : BinaryOp → Nat
  | or => 0
  | and => 1
  | eq | ne | lt | le | gt | ge => 3
  | add | sub => 4
  | mul | div | floorDiv | mod => 5
  | pow => 7

-- The least level of a left operand: a power takes an operand without operators, a comparison a
-- sum, the others are grouped from the left.
def leftLevel : BinaryOp → Nat
  | pow => 8
  | eq | ne | lt | le | gt | ge => 4
  | op => op.level

-- The least level of a right operand: a power takes a sign on its right.
def rightLevel : BinaryOp → Nat
  | pow => 6
  | op => op.level + 1

end BinaryOp

namespace UnaryOp

def level : UnaryOp → Nat
  | not => 2
  | neg | pos => 6

end UnaryOp

-- What waits for an operand to its right.
inductive Pending where
  | paren
  | unary (op : UnaryOp)
  | binary (op : BinaryOp) (left : Tree Leaf)
deriving Repr, DecidableEq, Inhabited

-- The state between two tokens: an operand is wanted, or one has just been read. What waits is
-- listed innermost first.
inductive State where
  | wanting (stack : List Pending)
  | holding (stack : List Pending) (operand : Tree Leaf)
deriving Repr, DecidableEq, Inhabited

-- Completes what waits at this level or above, up to the next parenthesis.
def collapse (level : Nat) : List Pending → Tree Leaf → List Pending × Tree Leaf
  | .unary op :: stack, e =>
    if op.level ≥ level then collapse level stack (.unary op e) else (.unary op :: stack, e)
  | .binary op l :: stack, e =>
    if op.level ≥ level then collapse level stack (.binary op l e)
    else (.binary op l :: stack, e)
  | stack, e => (stack, e)

-- The least level that the innermost waiting thing takes on its right.
def room : List Pending → Nat
  | .unary op :: _ => op.level
  | .binary op _ :: _ => op.rightLevel
  | _ => 0

-- One token. An operator first completes what binds its left operand tighter, and then waits for an
-- operand to its right.
def step : State → Token → Option State
  | .wanting stack, .leaf l => some (.holding stack (.leaf l))
  | .wanting stack, .opening => some (.wanting (.paren :: stack))
  | .wanting stack, .not => some (.wanting (.unary .not :: stack))
  | .wanting stack, .op .add => some (.wanting (.unary .pos :: stack))
  | .wanting stack, .op .sub => some (.wanting (.unary .neg :: stack))
  | .holding stack e, .op o =>
    let (stack, e) := collapse o.leftLevel stack e
    if o.level ≥ room stack then some (.wanting (.binary o e :: stack)) else none
  | .holding stack e, .closing => match collapse 0 stack e with
    | (.paren :: stack, e) => some (.holding stack e)
    | _ => none
  | _, _ => none

-- The tree, once the text is at its end and nothing waits.
def State.finish : State → Option (Tree Leaf)
  | .holding stack e => match collapse 0 stack e with
    | ([], e) => some e
    | _ => none
  | .wanting _ => none

-- All tokens in turn; a token that does not fit is answered by its column.
def steps : State → List Lexeme → Except Nat State
  | s, [] => .ok s
  | s, l :: ls => match step s l.token with
    | some s => steps s ls
    | none => .error l.column

-- The column of the last token, which stands for the end of the text.
def lastColumn (ls : List Lexeme) : Nat := (ls.getLast?.map (·.column)).getD 1

-- Parses a text; failing that, gives the column of the first token or character that does not
-- fit. A text that ends too early is charged to its last token.
def parse (s : String) : Except Nat (Tree Leaf) := do
  let (ls, stuck) := lexemes s.toList
  let state ← steps (.wanting []) ls
  match stuck with
  | some column => .error column
  | none => match state.finish with
    | some e => .ok e
    | none => .error (lastColumn ls)

end Dialect.Expr
