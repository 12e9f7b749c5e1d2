namespace Dialect.Text

-- The zero of every run of ten decimal digits, as in version 14 of the Unicode standard.
def decimalZeros : List Nat := [
  48, 1632, 1776, 1984, 2406, 2534, 2662, 2790, 2918, 3046, 3174, 3302, 3430, 3558, 3664, 3792,
  3872, 4160, 4240, 6112, 6160, 6470, 6608, 6784, 6800, 6992, 7088, 7232, 7248, 42528, 43216,
  43264, 43472, 43504, 43600, 44016, 65296, 66720, 68912, 69734, 69872, 69942, 70096, 70384,
  70736, 70864, 71248, 71360, 71472, 71904, 72016, 72784, 73040, 73120, 92768, 92864, 93008,
  120782, 120792, 120802, 120812, 120822, 123200, 123632, 125264, 130032
]

-- The first and last characters of the runs of digits that are not decimal digits.
def otherDigits : List (Nat × Nat) := [
  (178, 179), (185, 185), (4969, 4977), (6618, 6618), (8304, 8304), (8308, 8313), (8320, 8329),
  (9312, 9320), (9332, 9340), (9352, 9360), (9450, 9450), (9461, 9469), (9471, 9471),
  (10102, 10110), (10112, 10120), (10122, 10130), (68160, 68163), (69216, 69224), (69714, 69722),
  (127232, 127242)
]

-- The value of a decimal digit of any script.
def decimalValue? (c : Char) : Option Nat :=
  (decimalZeros.find? fun z => z ≤ c.toNat && c.toNat < z + 10).map fun z => c.toNat - z

-- Decimal digits, and the superscript, subscript and enclosed ones, which denote no number.
def isDigit (c : Char) : Bool :=
  (decimalValue? c).isSome || otherDigits.any fun r => r.1 ≤ c.toNat && c.toNat ≤ r.2

-- The value of a run of digits, most significant first, in the given base.
def ofDigits (base : Nat) (ds : List Nat) : Nat :=
  ds.foldl (fun n d => n * base + d) 0

-- The value of an ASCII letter or digit as a digit of a base up to 36.
def asciiDigit? (c : Char) : Option Nat :=
  if '0' ≤ c ∧ c ≤ '9' then some (c.toNat - 48)
  else if 'a' ≤ c ∧ c ≤ 'z' then some (c.toNat - 87)
  else if 'A' ≤ c ∧ c ≤ 'Z' then some (c.toNat - 55)
  else none

-- The value of a hexadecimal digit.
def hexDigit? (c : Char) : Option Nat :=
  (asciiDigit? c).filter (· < 16)

-- ASCII decimal digits.
def isAsciiDigit (c : Char) : Bool := '0' ≤ c && c ≤ '9'

-- The digits of `n` in base `base`, most significant first; `fuel` bounds their number.
def digitsFrom (base : Nat) : (fuel n : Nat) → List Nat → List Nat
  | 0, _, acc => acc
  | fuel + 1, n, acc =>
    if n < base then n :: acc else digitsFrom base fuel (n / base) (n % base :: acc)

-- The character of a digit below 36, in lower case.
def digitChar (d : Nat) : Char :=
  if d < 10 then Char.ofNat (48 + d) else Char.ofNat (87 + d)

-- The text of a number in base 2, 8, 10 or 16, in lower case and without leading zeros.
def ofNat (base n : Nat) : String :=
  String.ofList ((digitsFrom base (n.log2 + 1) n []).map digitChar)

-- Hexadecimal text of at least the given width, filled with zeros.
def hexPadded (width n : Nat) : String :=
  let t := ofNat 16 n
  String.ofList (List.replicate (width - t.length) '0') ++ t

end Dialect.Text
