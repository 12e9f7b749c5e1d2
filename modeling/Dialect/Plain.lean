import Dialect.Value.Access

namespace Dialect

-- What the text formats can write. Tuples become lists, keys become texts, and a value of any other
-- kind is written as the text that shows it.
inductive Plain where
  | null
  | bool (b : Bool)
  | int (n : Int)
  | float (x : Float)
  | str (s : String)
  | list (items : List Plain)
  | object (entries : List (String × Plain))
deriving Inhabited

namespace Plain

-- Sets a key: an entry with this key keeps its place, a new one goes to the end.
def insert (entries : List (String × Plain)) (key : String) (p : Plain) :
    List (String × Plain) :=
  match entries with
  | [] => [(key, p)]
  | (k, q) :: es => if k = key then (k, p) :: es else (k, q) :: insert es key p

mutual

def toValue : Plain → Value
  | null => .null
  | bool b => .bool b
  | int n => .int n
  | float x => .ofFloat x
  | str s => .str s
  | list ps => .list (toValues ps)
  | object es => .map (toEntries es)

def toValues : List Plain → List Value
  | [] => []
  | p :: ps => p.toValue :: toValues ps

def toEntries : List (String × Plain) → List (Value × Value)
  | [] => []
  | (k, p) :: es => (.str k, p.toValue) :: toEntries es

end

mutual

-- Whether a whole number in it is too long to be written.
def overlong : Plain → Bool
  | int n => tooLong n
  | list ps => overlongAny ps
  | object es => overlongEntry es
  | _ => false

def overlongAny : List Plain → Bool
  | [] => false
  | p :: ps => p.overlong || overlongAny ps

def overlongEntry : List (String × Plain) → Bool
  | [] => false
  | (_, p) :: es => p.overlong || overlongEntry es

end

end Plain

namespace Value

mutual

-- The plain form of a value. It exists unless a key or a leaf has a number that is too long to
-- be written.
def plain : Value → Except Error Plain
  | null => .ok .null
  | bool b => .ok (.bool b)
  | int n => .ok (.int n)
  | float x => .ok (.float x)
  | nan _ => .ok (.float (Number.infinity - Number.infinity))
  | str s => .ok (.str s)
  | list xs => do return .list (← plainAll xs)
  | tuple xs => do return .list (← plainAll xs)
  | map es => do return .object (← plainEntries [] es)
  | v => do return .str (← v.repr?)

def plainAll : List Value → Except Error (List Plain)
  | [] => .ok []
  | v :: vs => do
    let p ← v.plain
    return p :: (← plainAll vs)

def plainEntries (acc : List (String × Plain)) :
    List (Value × Value) → Except Error (List (String × Plain))
  | [] => .ok acc
  | (k, v) :: es => do
    let key ← k.text?
    let p ← v.plain
    plainEntries (Plain.insert acc key p) es

end

end Value

end Dialect
