import Dialect.Number.Binary64
import Dialect.Text.Digit

namespace Dialect.Number

-- A decimal `0.d₁d₂… * 10 ^ point`: its digits, the first not zero, and the place of the point.
structure Digits where
  digits : List Nat
  point : Int
deriving Repr, DecidableEq

-- The numbers that round to a double, as a closed or open interval around it: numerators over
-- one denominator.
structure Interval where
  low : Nat
  value : Nat
  high : Nat
  den : Nat
  closed : Bool

-- Half the distance to each neighbour, which below a power of two is half as far. The ends round
-- to the double when its mantissa is even.
def Magnitude.interval (g : Magnitude) : Interval :=
  let scale := fun n => n * twoTo (g.q - 2).toNat
  let below := if g.m = twoTo 52 ∧ g.q > -1074 then 1 else 2
  { low := scale (4 * g.m - below), value := scale (4 * g.m), high := scale (4 * g.m + 2),
    den := twoTo (2 - g.q).toNat, closed := g.m % 2 = 0 }

def Interval.contains (i : Interval) (num den : Nat) : Bool :=
  if i.closed then i.low * den ≤ num * i.den && num * i.den ≤ i.high * den
  else i.low * den < num * i.den && num * i.den < i.high * den

-- The place of the point: the least `k`, counted up from `k`, with `value < 10 ^ k`.
def Interval.pointFrom (i : Interval) : (fuel : Nat) → Int → Int
  | 0, k => k
  | fuel + 1, k =>
    if i.value * tenTo (-k).toNat < i.den * tenTo k.toNat then k else i.pointFrom fuel (k + 1)

-- A number below ten to the `k` and not below ten to the `k - 1`. The logarithm to base two gives
-- `k` but for one step.
def Interval.point (i : Interval) : Int :=
  let bits : Int := (i.value.log2 : Int) - (i.den.log2 : Int) - 1
  i.pointFrom 4 (Int.fdiv (bits * 30103) 100000)

-- The neighbours of the value on the grid of `count` digits; the nearer one that reads back, and
-- at the same distance the even one.
def Interval.grid? (i : Interval) (point : Int) (count : Nat) : Option Nat :=
  let step : Int := point - count
  let up := tenTo step.toNat
  let down := tenTo (-step).toNat
  let d := i.value * down / (i.den * up)
  let inside := fun n => i.contains (n * up) down
  match inside d, inside (d + 1) with
  | true, true =>
    let middle := (2 * d + 1) * up * i.den
    let twice := 2 * i.value * down
    if middle < twice ∨ (middle = twice ∧ d % 2 = 1) then some (d + 1) else some d
  | true, false => some d
  | false, true => some (d + 1)
  | false, false => none

-- The first grid with a hit, with no more than `count + fuel` digits.
def Interval.search (i : Interval) (point : Int) : (fuel count : Nat) → Nat × Nat
  | 0, count => (i.value / i.den, count)
  | fuel + 1, count =>
    match i.grid? point count with
    | some n => (n, count)
    | none => i.search point fuel (count + 1)

-- The fewest digits that read back to a positive magnitude, and of these the ones nearest to it.
def shortest (g : Magnitude) : Digits :=
  let i := g.interval
  let point := i.point
  let (n, count) := i.search point 17 1
  let ds := Text.digitsFrom 10 (n.log2 + 1) n []
  { digits := (ds.reverse.dropWhile (· = 0)).reverse, point := point + (ds.length - count : Int) }

-- Digits as text.
def digitText (ds : List Nat) : String := String.ofList (ds.map Text.digitChar)

-- An exponent has a sign and at least two digits.
def exponentText (e : Int) : String :=
  let t := Text.ofNat 10 e.natAbs
  (if e < 0 then "e-" else "e+") ++ (if t.length < 2 then "0" ++ t else t)

def zeros (n : Nat) : String := String.ofList (List.replicate n '0')

-- Positional text while the point stands within the first sixteen places or up to three zeros
-- before the digits; else one digit, the point and an exponent. Whole numbers keep `.0`, if asked,
-- and an exponent has none.
def Digits.render (d : Digits) (whole : String) : String :=
  let n : Int := d.digits.length
  if d.point > 16 ∨ d.point ≤ -4 then
    let tail := match d.digits.drop 1 with
      | [] => ""
      | rest => "." ++ digitText rest
    digitText (d.digits.take 1) ++ tail ++ exponentText (d.point - 1)
  else if d.point ≤ 0 then "0." ++ zeros (-d.point).toNat ++ digitText d.digits
  else if n ≤ d.point then digitText d.digits ++ zeros (d.point - n).toNat ++ whole
  else digitText (d.digits.take d.point.toNat) ++ "." ++ digitText (d.digits.drop d.point.toNat)

-- The text of a double, with the given ending for whole numbers. It is positional for exponents
-- from -4 to 15 and has an exponent otherwise.
def floatTextWith (whole : String) (x : Float) : String :=
  match decode? x with
  | none => if x.isNaN then "nan" else if isNegative x then "-inf" else "inf"
  | some (negative, g) =>
    let text := if g.m = 0 then "0" ++ whole else (shortest g).render whole
    if negative then "-" ++ text else text

-- The text of a double: `0.1`, `1e+16`, `-0.0`, `inf`, `nan`.
def floatText (x : Float) : String := floatTextWith ".0" x

end Dialect.Number
