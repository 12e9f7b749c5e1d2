import Dialect.Number.Binary64
import Dialect.Text.Digit

namespace Dialect.Number

-- The double nearest to `n * 10 ^ e`, negated if asked. With `d` digits in `n` the number lies
-- between `10 ^ (d + e - 1)` and `10 ^ (d + e)`. Exponents far outside the range of doubles are
-- answered without building the power of ten.
def ofDecimal (negative : Bool) (n : Nat) (e : Int) : Float :=
  let size : Int := (n.log2 : Int) * 30103 / 100000 + e
  if n = 0 then ofRatio negative 0 1
  else if size > 320 then (if negative then -infinity else infinity)
  else if size < -360 then ofRatio negative 0 1
  else ofRatio negative (n * tenTo e.toNat) (tenTo (-e).toNat)

-- A sign in front of a number.
def splitSign : List Char → Bool × List Char
  | '-' :: cs => (true, cs)
  | '+' :: cs => (false, cs)
  | cs => (false, cs)

-- The value of ASCII digits.
def natOf (cs : List Char) : Nat := Text.ofDigits 10 (cs.map fun c => c.toNat - 48)

-- An exponent part: absent, or a mark, a sign and at least one digit, and nothing after it.
def exponentOf? : List Char → Option Int
  | [] => some 0
  | c :: cs =>
    if c = 'e' ∨ c = 'E' then
      let (negative, ds) := splitSign cs
      if ds ≠ [] ∧ ds.all Text.isAsciiDigit then
        some (if negative then -(natOf ds : Int) else natOf ds)
      else none
    else none

-- Reads digits with an optional point and exponent; a digit must stand on one side of the
-- point. The words for infinity and NaN are read too, in any case.
def readFloat? (s : List Char) : Option Float :=
  let (negative, cs) := splitSign s
  let word := cs.map Char.toLower
  if word = ['i', 'n', 'f'] ∨ word = "infinity".toList then
    some (if negative then -infinity else infinity)
  else if word = ['n', 'a', 'n'] then some (infinity - infinity)
  else
    let whole := cs.takeWhile Text.isAsciiDigit
    let (part, rest) := match cs.dropWhile Text.isAsciiDigit with
      | '.' :: r => (r.takeWhile Text.isAsciiDigit, r.dropWhile Text.isAsciiDigit)
      | r => ([], r)
    if whole.isEmpty ∧ part.isEmpty then none
    else (exponentOf? rest).map fun e =>
      ofDecimal negative (natOf (whole ++ part)) (e - part.length)

end Dialect.Number
