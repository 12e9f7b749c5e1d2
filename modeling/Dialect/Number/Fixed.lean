import Dialect.Number.Shortest

namespace Dialect.Number

-- Digits with the point `places` before the end.
def pointed (places : Nat) (alt : Bool) (n : Nat) : String :=
  let ds := Text.digitsFrom 10 (n.log2 + 1) n []
  let ds := List.replicate (places + 1 - ds.length) 0 ++ ds
  let whole := digitText (ds.take (ds.length - places))
  if places = 0 then whole ++ (if alt then "." else "")
  else whole ++ "." ++ digitText (ds.drop (ds.length - places))

-- A magnitude with fixed places after the point. The exact value is rounded once, a tie to the even
-- digit.
def Magnitude.fixed (g : Magnitude) (places : Nat) (alt : Bool) : String :=
  pointed places alt (roundDiv (g.num * tenTo places) g.den)

-- The exponent and the digits of a magnitude rounded to `places` after the first digit.
def Magnitude.rounded (g : Magnitude) (places : Nat) : Int × Nat :=
  if g.m = 0 then (0, 0)
  else
    let e : Int := g.interval.point - 1
    let shift : Int := places - e
    let n := roundDiv (g.num * tenTo shift.toNat) (g.den * tenTo (-shift).toNat)
    if n < tenTo (places + 1) then (e, n) else (e + 1, n / 10)

-- A magnitude with one digit before the point and an exponent.
def Magnitude.scientific (g : Magnitude) (places : Nat) (alt : Bool) : String :=
  let (e, n) := g.rounded places
  pointed places alt n ++ exponentText e

-- Zeros at the end of a fraction, and the point if nothing follows it.
def stripZeros (s : String) : String :=
  if s.toList.contains '.' then
    let cs := s.toList.reverse.dropWhile (· = '0')
    String.ofList (match cs with
      | '.' :: r => r.reverse
      | r => r.reverse)
  else s

-- A magnitude with so many significant digits: positional for exponents from -4 up to that
-- number, and without zeros at the end unless asked.
def Magnitude.general (g : Magnitude) (digits : Nat) (alt : Bool) : String :=
  let p := max digits 1
  let (e, n) := g.rounded (p - 1)
  if -4 ≤ e ∧ e < p then
    let text := g.fixed ((p : Int) - 1 - e).toNat alt
    if alt then text else stripZeros text
  else
    let text := pointed (p - 1) alt n
    (if alt then text else stripZeros text) ++ exponentText e

end Dialect.Number
