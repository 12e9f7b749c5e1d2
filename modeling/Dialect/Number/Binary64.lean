import Dialect.Number.Power

namespace Dialect.Number

-- `n * 2 ^ e` over the power of two that a negative exponent leaves below the line.
structure Magnitude where
  m : Nat
  q : Int
deriving Repr, DecidableEq

-- A finite double is its sign and magnitude; infinities and NaN have none.
def decode? (x : Float) : Option (Bool × Magnitude) :=
  let bits : Nat := x.toBits.toNat
  let exponent : Nat := bits / twoTo 52 % twoTo 11
  let fraction : Nat := bits % twoTo 52
  if exponent = 2047 then none
  else if exponent = 0 then some (bits ≥ twoTo 63, ⟨fraction, -1074⟩)
  else some (bits ≥ twoTo 63, ⟨fraction + twoTo 52, (exponent : Int) - 1075⟩)

def Magnitude.num (g : Magnitude) : Nat := g.m * twoTo g.q.toNat

def Magnitude.den (g : Magnitude) : Nat := twoTo (-g.q).toNat

-- The quotient rounded to the nearest whole number, a tie to the even one.
def roundDiv (num den : Nat) : Nat :=
  let q := num / den
  let r := num % den
  if 2 * r < den then q
  else if 2 * r > den then q + 1
  else if q % 2 = 0 then q else q + 1

-- The exponent at which `num / den` has 53 binary digits before the point, but not below the one
-- of the least positive double.
def exponentOf (num den : Nat) : Int :=
  let e : Int := (num.log2 : Int) - (den.log2 : Int) - 52
  let e := if num * twoTo (-e).toNat / (den * twoTo e.toNat) < twoTo 52 then e - 1 else e
  max e (-1074)

-- The bits of the positive double nearest to `num / den`; above the greatest double it is
-- infinity. A mantissa that rounds up to `2 ^ 53` carries into the exponent by itself.
def nearestBits (num den : Nat) : Nat :=
  if num = 0 then 0
  else
    let e := exponentOf num den
    let q := roundDiv (num * twoTo (-e).toNat) (den * twoTo e.toNat)
    min ((e + 1074).toNat * twoTo 52 + q) (2047 * twoTo 52)

-- The double nearest to `num / den`, or to its negative. A tie goes to the even mantissa.
def ofRatio (negative : Bool) (num den : Nat) : Float :=
  Float.ofBits (UInt64.ofNat (nearestBits num den + (if negative then twoTo 63 else 0)))

def infinity : Float := Float.ofBits (UInt64.ofNat (2047 * twoTo 52))

-- The sign bit, which zeros have too.
def isNegative (x : Float) : Bool := x.toBits.toNat ≥ twoTo 63

-- The double nearest to a whole number; `none` beyond the greatest double.
def ofInt? (n : Int) : Option Float :=
  let x := ofRatio (n < 0) n.natAbs 1
  if x.isFinite then some x else none

-- The order of a whole number and a finite double, by cross multiplication.
def compareInt (n : Int) (negative : Bool) (g : Magnitude) : Ordering :=
  let left := n * (g.den : Int)
  let right := if negative then -(g.num : Int) else (g.num : Int)
  compare left right

-- The whole part of a finite double, toward zero.
def truncate? (x : Float) : Option Int :=
  (decode? x).map fun (negative, g) =>
    let n : Int := ((g.num / g.den : Nat) : Int)
    if negative then -n else n

-- The remainder of `x` by `y` with the sign of `x`; exact, so no rounding takes place.
def remainder (x y : Float) : Float :=
  match decode? x, decode? y with
  | some (negative, a), some (_, b) =>
    let low := min a.q b.q
    let p := a.m * twoTo (a.q - low).toNat
    let d := b.m * twoTo (b.q - low).toNat
    if d = 0 then x
    else ofRatio negative ((p % d) * twoTo low.toNat) (twoTo (-low).toNat)
  | _, _ => x

end Dialect.Number
