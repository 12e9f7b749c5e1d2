import Dialect.Error
import Dialect.Value.Equality

namespace Dialect

-- The four order relations.
inductive Rel where
  | lt | le | gt | ge
deriving Repr, DecidableEq, Inhabited

namespace Rel

def text : Rel → String
  | lt => "<"
  | le => "<="
  | gt => ">"
  | ge => ">="

def holds : Rel → Ordering → Bool
  | lt, .lt => true
  | le, .lt => true
  | le, .eq => true
  | gt, .gt => true
  | ge, .gt => true
  | ge, .eq => true
  | _, _ => false

end Rel

namespace Value

-- Texts by their code points.
def textOrder (s t : String) : Ordering :=
  compareOfLessAndEq s t

def bytesOrder : List UInt8 → List UInt8 → Ordering
  | [], [] => .eq
  | [], _ => .lt
  | _, [] => .gt
  | x :: xs, y :: ys => (compare x y).then (bytesOrder xs ys)

def dateOrder (d e : Date) : Ordering :=
  (compare d.year e.year).then ((compare d.month e.month).then (compare d.day e.day))

def clockOrder (c d : Clock) : Ordering :=
  (compare c.hour d.hour).then <| (compare c.minute d.minute).then <|
    (compare c.second d.second).then (compare c.micro d.micro)

-- Dates with an offset are compared as instants; one with and one without have no order.
def momentOrder (d d' : Date) (c c' : Clock) : Option Int → Option Int → Except Error Ordering
  | none, none => .ok ((dateOrder d d').then (clockOrder c c'))
  | some o, some o' => .ok (compare (instant d c o) (instant d' c' o'))
  | _, _ => .error (.kind .mixedOffsets)

-- Whether every member of one set is in the other.
def included (xs ys : List Value) : Bool := xs.all fun x => ys.any fun y => x.same y

-- Sets by inclusion; the strict relations ask for a larger set as well.
def relatedSets : Rel → List Value → List Value → Bool
  | .lt, xs, ys => xs.length < ys.length && included xs ys
  | .le, xs, ys => included xs ys
  | .gt, xs, ys => ys.length < xs.length && included ys xs
  | .ge, xs, ys => included ys xs

def unordered (r : Rel) (a b : Value) : Except Error Bool :=
  .error (.kind (.unordered r.text a.kind b.kind))

mutual

-- Whether two values stand in a relation; an error if their kinds have no order. Numbers are
-- ordered exactly across kinds, texts by code point, bytes by value, lists and tuples by their
-- first members that do not match, sets by inclusion, dates and times of day by when they are.
def related (r : Rel) : Value → Value → Except Error Bool
  | str s, str t => .ok (r.holds (textOrder s t))
  | bytes x, bytes y => .ok (r.holds (bytesOrder x y))
  | list xs, list ys => relatedAll r xs ys
  | tuple xs, tuple ys => relatedAll r xs ys
  | set xs, set ys => .ok (relatedSets r xs ys)
  | date d, date e => .ok (r.holds (dateOrder d e))
  | time c, time d => .ok (r.holds (clockOrder c d))
  | datetime d c o, datetime d' c' o' => (momentOrder d d' c c' o o').map r.holds
  | date _, datetime _ _ _ => .error (.kind .mixedMoments)
  | datetime _ _ _, date _ => .error (.kind .mixedMoments)
  | a, b => match a.num?, b.num? with
    | some x, some y => .ok (match x.order? y with
      | some o => r.holds o
      | none => false)
    | _, _ => unordered r a b

-- The first members that do not match decide; without such, the lengths.
def relatedAll (r : Rel) : List Value → List Value → Except Error Bool
  | x :: xs, y :: ys => if x.same y then relatedAll r xs ys else related r x y
  | xs, ys => .ok (r.holds (compare xs.length ys.length))

end

end Value

end Dialect
