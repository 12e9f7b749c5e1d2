import Dialect.Number.Binary64

namespace Dialect.Number

-- The whole root of a number below `4 ^ fuel`: each step finds one binary digit more.
def rootFrom : (fuel n : Nat) → Nat
  | 0, _ => 0
  | fuel + 1, n =>
    let r := 2 * rootFrom fuel (n / 4)
    if (r + 1) * (r + 1) ≤ n then r + 1 else r

-- The greatest number whose square is not above `n`.
def root (n : Nat) : Nat := rootFrom (n.log2 / 2 + 1) n

-- How many binary digits of a root are found below its last whole one. Together with the digits
-- before them they are more than a double has.
def rootPlaces : Nat := 64

-- The double nearest to the root of `n * 4 ^ q`. What is left of an inexact root goes into one more
-- digit, so that it cannot be taken for a tie.
def nearestRoot (n : Nat) (q : Int) : Float :=
  let scaled := n * twoTo (2 * rootPlaces)
  let r := root scaled
  let r := 2 * r + (if r * r = scaled then 0 else 1)
  ofRatio false (r * twoTo q.toNat) (twoTo (rootPlaces + 1) * twoTo (-q).toNat)

-- The length of a vector; infinite if one of its parts is.
def hypot (x y : Float) : Float :=
  if x.isInf || y.isInf then infinity
  else match decode? x, decode? y with
    | some (_, a), some (_, b) =>
      let q := min a.q b.q
      let p := a.m * twoTo (a.q - q).toNat
      let r := b.m * twoTo (b.q - q).toNat
      nearestRoot (p * p + r * r) q
    | _, _ => x + y

end Dialect.Number
