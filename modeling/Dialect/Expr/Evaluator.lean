import Dialect.Expr.Eval
import Dialect.Expr.Literal
import Dialect.Expr.Parser
import Dialect.Number.Decimal

namespace Dialect.Expr

-- Number text with a point or an exponent is a double, else a whole number.
def numberAtom (text : String) : Except Error Atom :=
  let cs := text.toList
  if cs.any fun c => c = '.' || c = 'e' || c = 'E' then
    .ok (.float ((Number.readFloat? cs).getD 0))
  else if cs.length > digitLimit then .error (.number (.digitsRead cs.length))
  else .ok (.int (Number.natOf cs))

-- What a leaf stands for, given the source it occurs in and the names it may use.
def Leaf.resolve (source : String) (names : List (Option String)) : Leaf → Except Error Atom
  | number t => numberAtom t
  | string t => match Literal.decode t with
    | .ok s => .ok (.str s)
    | .error f => .error (.literal f)
  | true => .ok (.bool Bool.true)
  | false => .ok (.bool Bool.false)
  | none => .ok .none
  | name n =>
    if names.contains (some n) then .ok (.var n) else .error (.expression source (.unknown n))

-- Parses and checks an expression. The leaves are checked from left to right: names must be
-- parameters, whole numbers must not have too many digits, quoted texts must decode.
def body (source : String) (names : List (Option String)) : Except Error (Tree Atom) :=
  match parse source with
  | .error column => .error (.expression source (.column column))
  | .ok tree => tree.traverse (Leaf.resolve source names)

-- A parameter as it can be mentioned: only texts are names.
def slotOf : Value → Option String
  | .str s => some s
  | _ => none

-- A compiled expression and what it was asked for with.
structure Entry where
  source : String
  params : List Value
  function : Compiled

-- Compiles expressions and remembers them, oldest first: the same expression over the same
-- parameters gives the same function.
structure Evaluator where
  id : Nat
  entries : List Entry

namespace Evaluator

def empty (id : Nat) : Evaluator := ⟨id, []⟩

def find? (e : Evaluator) (source : String) (params : List Value) : Option Compiled :=
  (e.entries.find? fun x => x.source == source && Value.equalAll params x.params).map (·.function)

-- Compiles a text over parameters, or finds it among those compiled before.
def compileText (e : Evaluator) (source : String) (params : List Value) :
    Except Error Compiled × Evaluator :=
  match e.find? source params with
  | some f => (.ok f, e)
  | none =>
    let slots := params.map slotOf
    match body source slots with
    | .error x => (.error x, e)
    | .ok tree =>
      let f := { owner := e.id, index := e.entries.length, source, slots, body := tree }
      (.ok f, { e with entries := e.entries ++ [⟨source, params, f⟩] })

-- The parameters: members of any value that has some, if each of them can be a key.
def parameters (params : Value) : Except Error (List Value) := do
  let names ← params.members
  match Value.unhashableIn? names with
  | some k => .error (.kind (.unhashable k))
  | none => .ok names

-- Compiles any value: one that is no text is refused.
def compile (e : Evaluator) (expression params : Value) : Except Error Compiled × Evaluator :=
  match expression with
  | .str source => match parameters params with
    | .error x => (.error x, e)
    | .ok names => e.compileText source names
  | v => match v.repr? with
    | .error x => (.error x, e)
    | .ok shown => (.error (.expression shown .notText), e)

end Evaluator

end Dialect.Expr
