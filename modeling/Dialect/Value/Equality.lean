import Dialect.Number.Binary64
import Dialect.Value.Basic

namespace Dialect

-- A number: what arithmetic and comparison see of a value.
inductive Num where
  | int (n : Int)
  | float (x : Float)
deriving Inhabited

namespace Num

-- Exact equality of whole numbers and doubles.
def equal : Num → Num → Bool
  | int a, int b => a == b
  | float a, float b => a == b
  | int a, float b => match Number.decode? b with
    | some (negative, g) => Number.compareInt a negative g == .eq
    | none => false
  | float a, int b => match Number.decode? a with
    | some (negative, g) => Number.compareInt b negative g == .eq
    | none => false

-- Exact order of whole numbers and doubles; `none` if one is NaN.
def order? : Num → Num → Option Ordering
  | int a, int b => some (compare a b)
  | float a, float b =>
    if a < b then some .lt else if b < a then some .gt else if a == b then some .eq else none
  | int a, float b => match Number.decode? b with
    | some (negative, g) => some (Number.compareInt a negative g)
    | none => if b.isNaN then none else some (if b < 0 then .gt else .lt)
  | float a, int b => match Number.decode? a with
    | some (negative, g) => some (Number.compareInt b negative g).swap
    | none => if a.isNaN then none else some (if a < 0 then .lt else .gt)

end Num

namespace Value

def num? : Value → Option Num
  | bool b => some (.int (if b then 1 else 0))
  | int n => some (.int n)
  | float x => some (.float x)
  | nan _ => some (.float (Number.infinity - Number.infinity))
  | _ => none

-- Whether a value is NaN of the given label.
def isNan (label : Nat) : Value → Bool
  | nan l => l == label
  | _ => false

-- Dates with an offset are compared as instants; one with and one without never agree.
def sameMoment (d d' : Date) (c c' : Clock) : Option Int → Option Int → Bool
  | none, none => d == d' && c == c'
  | some o, some o' => instant d c o == instant d' c' o'
  | _, _ => false

def numEqual (a b : Value) : Bool :=
  match a.num?, b.num? with
  | some x, some y => x.equal y
  | _, _ => false

mutual

-- Equality of two values. A truth value counts as 0 or 1, mappings are equal whatever the order of
-- their entries, lists never equal tuples.
def equal : Value → Value → Bool
  | null, null => true
  | complex re im, complex re' im' => re == re' && im == im'
  | complex re im, b => match b.num? with
    | some n => im == 0 && (Num.float re).equal n
    | none => false
  | a, complex re im => match a.num? with
    | some n => im == 0 && (Num.float re).equal n
    | none => false
  | str s, str t => s == t
  | bytes x, bytes y => x == y
  | list xs, list ys => equalAll xs ys
  | tuple xs, tuple ys => equalAll xs ys
  | map es, map fs => es.length == fs.length && equalEntries es fs
  | set xs, set ys => xs.length == ys.length && equalMembers xs ys
  | date d, date d' => d == d'
  | time c, time c' => c == c'
  | datetime d c o, datetime d' c' o' => sameMoment d d' c c' o o'
  | mark m, mark m' => m == m'
  | program d l, program d' l' => l == l' && equal d d'
  | runner _ s, runner _ s' => s == s'
  | compiled f, compiled g => f.same g
  | keep _ s, keep _ s' => s == s'
  | branch _ _ _ _ s, branch _ _ _ _ s' => s == s'
  | a, b => numEqual a b
termination_by structural x => x

-- Equality of members, where a value also matches itself.
def equalAll : List Value → List Value → Bool
  | [], [] => true
  | x :: xs, y :: ys => (match x with
    | nan l => isNan l y
    | _ => equal x y) && equalAll xs ys
  | _, _ => false
termination_by structural xs => xs

-- Every value has a partner among the others.
def equalMembers : List Value → List Value → Bool
  | [], _ => true
  | x :: xs, ys =>
    (ys.any fun y => (match x with
      | nan l => isNan l y
      | _ => equal x y)) && equalMembers xs ys
termination_by structural xs => xs

-- Every entry has a partner with a matching key and a matching value.
def equalEntries : List (Value × Value) → List (Value × Value) → Bool
  | [], _ => true
  | (k, v) :: es, fs =>
    (match fs.find? fun f => (match k with
        | nan l => isNan l f.1
        | _ => equal k f.1) with
    | some f => (match v with
        | nan l => isNan l f.2
        | _ => equal v f.2)
    | none => false) && equalEntries es fs
termination_by structural es => es

end

-- Equal, or the very same NaN: how keys and members are matched.
def same (a b : Value) : Bool :=
  match a with
  | nan l => isNan l b
  | _ => equal a b

-- The value at a key of a mapping's entries.
def find? (entries : List (Value × Value)) (key : Value) : Option Value :=
  (entries.find? fun e => key.same e.1).map (·.2)

-- Sets a key: an entry with this key keeps its place and its key, a new one goes to the end.
def insert (entries : List (Value × Value)) (key value : Value) : List (Value × Value) :=
  match entries with
  | [] => [(key, value)]
  | (k, v) :: es => if key.same k then (k, value) :: es else (k, v) :: insert es key value

-- The entries of a second mapping set on top of a first, one after the other.
def insertAll (entries more : List (Value × Value)) : List (Value × Value) :=
  more.foldl (fun es e => insert es e.1 e.2) entries

-- The first occurrence of every value.
def distinct (vs : List Value) : List Value :=
  (vs.foldl (fun es v => insert es v null) []).map (·.1)

mutual

-- The first part that cannot be a key, if there is one: lists, mappings, sets and programs, also
-- inside tuples.
def unhashable? : Value → Option Kind
  | list _ => some .list
  | map _ => some .map
  | set _ => some .set
  | program _ _ => some .program
  | tuple xs => unhashableIn? xs
  | _ => none

def unhashableIn? : List Value → Option Kind
  | [] => none
  | v :: vs => match v.unhashable? with
    | some k => some k
    | none => unhashableIn? vs

end

end Value

end Dialect
