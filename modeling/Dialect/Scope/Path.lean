import Dialect.Value.Access

namespace Dialect

-- Names with values, in the order of their first binding.
abbrev Bindings := List (String × Value)

namespace Path

-- The runs between dots; there is always one more than dots.
def splitDots : List Char → List (List Char)
  | [] => [[]]
  | c :: cs =>
    if c = '.' then [] :: splitDots cs
    else match splitDots cs with
      | [] => [[c]]
      | part :: parts => (c :: part) :: parts

-- The parts of a path, which are divided by dots. A part selects an entry of a mapping by key, or a
-- member of a list or tuple by its number in the digits of any script.
def parts (s : String) : List String := (splitDots s.toList).map String.ofList

-- A value used as a path must be a text.
def ofValue (v : Value) : Except Error String :=
  match v with
  | .str s => .ok s
  | v => .error (.kind (.path v.kind))

-- The number that a part denotes: none unless all of it are digits. Digits that are not decimal
-- have no number, and there is a limit to their count.
def index? (part : String) : Except Error (Option Nat) :=
  let cs := part.toList
  if cs.isEmpty || !cs.all Text.isDigit then .ok none
  else
    let run := cs.takeWhile fun c => (Text.decimalValue? c).isSome
    if run.length > digitLimit then .error (.number (.digitsRead run.length))
    else match cs.mapM Text.decimalValue? with
      | some ds => .ok (some (Text.ofDigits 10 ds))
      | none => .error (.number (.literal 10 part))

-- What stands at the end of a path through a value, if the path leads anywhere.
def find (v : Value) : List String → Except Error (Option Value)
  | [] => .ok (some v)
  | p :: ps => match v with
    | .map es => match Value.find? es (.str p) with
      | some x => find x ps
      | none => .ok none
    | .list xs => do
      match (← index? p).bind (xs[·]?) with
      | some x => find x ps
      | none => return none
    | .tuple xs => do
      match (← index? p).bind (xs[·]?) with
      | some x => find x ps
      | none => return none
    | _ => .ok none

-- The member of that number, replaced.
def setAt (xs : List Value) (part : String) (f : Value → Value) : List Value :=
  match index? part with
  | .ok (some n) => xs.modify n f
  | _ => xs

-- The value with what stands at a path replaced; only the containers along the path change.
def put (new : Value) : List String → Value → Value
  | [], _ => new
  | p :: ps, v => match v with
    | .map es => .map (Value.insert es (.str p) (put new ps ((Value.find? es (.str p)).getD .null)))
    | .list xs => .list (setAt xs p (put new ps))
    | .tuple xs => .tuple (setAt xs p (put new ps))
    | v => v

end Path

namespace Bindings

def find? (b : Bindings) (name : String) : Option Value :=
  (List.find? (fun e => e.1 == name) b).map (·.2)

-- Binds a name: a bound name keeps its place, a new one goes to the end.
def set (b : Bindings) (name : String) (v : Value) : Bindings :=
  match b with
  | [] => [(name, v)]
  | (n, x) :: rest => if n == name then (n, v) :: rest else (n, x) :: set rest name v

def names (b : Bindings) : List String := b.map (·.1)

def toValue (b : Bindings) : Value := Value.object b

-- What stands at a path, whose first part is a name.
def lookup (b : Bindings) : List String → Except Error (Option Value)
  | [] => .ok none
  | p :: ps => match find? b p with
    | some v => Path.find v ps
    | none => .ok none

-- The bindings with what stands at a path replaced.
def put (b : Bindings) (new : Value) : List String → Bindings
  | [] => b
  | p :: ps => set b p (Path.put new ps ((find? b p).getD .null))

-- Adds the entries of a mapping one after the other; all keys must be names.
def addAll (b : Bindings) : List (Value × Value) → Except Error Bindings
  | [] => .ok b
  | (.str n, v) :: es => addAll (set b n v) es
  | (k, _) :: _ => .error (.kind (.name k.kind))

-- Adds what a value binds; it must be a mapping.
def add (b : Bindings) (v : Value) : Except Error Bindings :=
  match v with
  | .map es => addAll b es
  | v => .error (.kind (.bindings v.kind))

end Bindings

end Dialect
