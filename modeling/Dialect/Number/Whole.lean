import Dialect.Error
import Dialect.Number.Decimal
import Dialect.Text.Blank

namespace Dialect.Number

-- Numbers are read in ASCII: digits of other scripts and the blanks outside ASCII have their like
-- there, and other characters are part of no number.
def plainChar (c : Char) : Char :=
  if c.toNat < 127 then c
  else if Text.isBlank c then ' '
  else ((Text.decimalValue? c).map Text.digitChar).getD '?'

-- The white space that may stand around a number.
def isSpace (c : Char) : Bool := c == ' ' || ('\t' ≤ c && c ≤ '\r')

-- The mark that numbers of a base may have after a zero.
def hasMark (base : Nat) (c : Char) : Bool :=
  (base == 16 && (c == 'x' || c == 'X')) || (base == 8 && (c == 'o' || c == 'O'))
    || (base == 2 && (c == 'b' || c == 'B'))

-- Drops the mark of the base and an underscore behind it.
def dropMark (base : Nat) : List Char → List Char
  | '0' :: c :: cs =>
    if hasMark base c then
      match cs with
      | '_' :: r => r
      | r => r
    else '0' :: c :: cs
  | cs => cs

-- Digits with single underscores between them; `open_` tells whether an underscore may come.
def digitsOf? (base : Nat) : (open_ : Bool) → List Char → Option (List Nat)
  | false, [] => none
  | true, [] => some []
  | mayLine, c :: cs =>
    if c = '_' then if mayLine then digitsOf? base false cs else none
    else match Text.hexDigit? c with
      | some d => if d < base then (digitsOf? base true cs).map (d :: ·) else none
      | none => none

def isDigitOf (base : Nat) (c : Char) : Bool := ((Text.hexDigit? c).filter (· < base)).isSome

-- Reads a whole number: a sign, perhaps a mark of the base, and digits of any script with single
-- underscores between them, all of it with white space around. Only numbers in base ten have a
-- limit of digits, which is looked at before what follows the digits.
def readInt (base : Nat) (s : String) : Except NumberFault Int :=
  let (negative, body) := splitSign ((s.toList.map plainChar).dropWhile isSpace)
  let cs := dropMark base body
  let inRun := fun c => isDigitOf base c || c == '_'
  match digitsOf? base false (cs.takeWhile inRun) with
  | none => .error (.literal base s)
  | some ds =>
    if base = 10 ∧ ds.length > digitLimit then .error (.digitsRead ds.length)
    else if (cs.dropWhile inRun).all isSpace then
      let n : Int := Text.ofDigits base ds
      .ok (if negative then -n else n)
    else .error (.literal base s)

end Dialect.Number
