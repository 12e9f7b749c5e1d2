import Dialect.Error
import Dialect.Number.Complex
import Dialect.Value.Equality

namespace Dialect

namespace Number

-- Remainder in doubles; no remainder by infinity, none of infinity.
def fmod (x y : Float) : Float :=
  if x.isNaN || y.isNaN || x.isInf then infinity - infinity
  else if y.isInf then x
  else remainder x y

def copySign (x sign : Float) : Float := if isNegative sign then -x.abs else x.abs

-- The remainder with the sign of the divisor.
def floorMod (x y : Float) : Float :=
  let r := fmod x y
  if r == 0 then copySign 0 y
  else if (y < 0) != (r < 0) then r + y else r

-- The quotient rounded to the floor, as far as doubles allow.
def floorDiv (x y : Float) : Float :=
  let r := fmod x y
  let d := (x - r) / y
  let d := if r != 0 && (y < 0) != (r < 0) then d - 1 else d
  if d == 0 then copySign 0 (x / y)
  else
    let f := d.floor
    if d - f > 0.5 then f + 1 else f

def isOddWhole (x : Float) : Bool := (fmod x.abs 2) == 1

end Number

namespace Value

open Number

-- A number on its way into arithmetic: whole, double or complex.
inductive Operand where
  | int (n : Int)
  | float (x : Float)
  | complex (z : ComplexNumber)

def operand? : Value → Option Operand
  | complex re im => some (.complex ⟨re, im⟩)
  | v => v.num?.map fun
    | .int n => .int n
    | .float x => .float x

def fault {α : Type} (f : NumberFault) : Except Error α := .error (.number f)

def ofComplex (z : ComplexNumber) : Value := complex z.re z.im

-- How the faults of complex numbers are reported.
def complexFault : ComplexFault → NumberFault
  | .zeroDivisor => .complexDivision
  | .zeroBase => .complexZeroPower
  | .overflow => .complexPower

def toFloat (n : Int) : Except Error Float :=
  match ofInt? n with
  | some x => .ok x
  | none => fault .tooLarge

-- One arithmetic operation on numbers, for each of the three sorts. Whole numbers are unbounded, a
-- double on either side makes the operation one of doubles, division and remainder go to the floor.
structure Operation where
  text : String
  ints : Int → Int → Except Error Value
  floats : Float → Float → Except Error Value
  complexes : Option (ComplexNumber → ComplexNumber → Except ComplexFault ComplexNumber)

-- A whole number or a double as a complex one.
def Operand.widen : Operand → Except Error ComplexNumber
  | int n => return ⟨← toFloat n, 0⟩
  | float x => .ok ⟨x, 0⟩
  | complex z => .ok z

def Operation.complexRun (o : Operation) (a b : Operand) : Option (Except Error Value) :=
  o.complexes.map fun f => do
    match f (← a.widen) (← b.widen) with
    | .ok z => return ofComplex z
    | .error e => fault (complexFault e)

-- Numbers are brought to the wider of their sorts before the operation.
def Operation.apply (o : Operation) (a b : Operand) : Option (Except Error Value) :=
  match a, b with
  | .int x, .int y => some (o.ints x y)
  | .int x, .float y => some do o.floats (← toFloat x) y
  | .float x, .int y => some do o.floats x (← toFloat y)
  | .float x, .float y => some (o.floats x y)
  | a, b => o.complexRun a b

def Operation.run (o : Operation) (a b : Value) : Except Error Value :=
  let wrong := .error (.kind (.operands o.text a.kind b.kind))
  match a.operand?, b.operand? with
  | some x, some y => (o.apply x y).getD wrong
  | _, _ => wrong

def plus : Operation where
  text := "+"
  ints x y := .ok (int (x + y))
  floats x y := .ok (ofFloat (x + y))
  complexes := some fun z w => .ok (z.add w)

def minus : Operation where
  text := "-"
  ints x y := .ok (int (x - y))
  floats x y := .ok (ofFloat (x - y))
  complexes := some fun z w => .ok (z.sub w)

def times : Operation where
  text := "*"
  ints x y := .ok (int (x * y))
  floats x y := .ok (ofFloat (x * y))
  complexes := some fun z w => .ok (z.mul w)

-- The exact quotient of two whole numbers, rounded once.
def quotient (x y : Int) : Except Error Value :=
  if y = 0 then fault .division
  else
    let q := ofRatio ((x < 0) != (y < 0)) x.natAbs y.natAbs
    if q.isInf then fault .quotient else .ok (float q)

def division : Operation where
  text := "/"
  ints := quotient
  floats x y := if y == 0 then fault .floatDivision else .ok (ofFloat (x / y))
  complexes := some fun z w => match z.div? w with
    | some q => .ok q
    | none => .error .zeroDivisor

def floorDivision : Operation where
  text := "//"
  ints x y := if y = 0 then fault .wholeDivision else .ok (int (Int.fdiv x y))
  floats x y := if y == 0 then fault .floatFloor else .ok (ofFloat (floorDiv x y))
  complexes := none

def modulo : Operation where
  text := "%"
  ints x y := if y = 0 then fault .wholeModulo else .ok (int (Int.fmod x y))
  floats x y := if y == 0 then fault .floatModulo else .ok (ofFloat (floorMod x y))
  complexes := none

-- Powers of doubles. A negative base with a broken exponent leaves the real line.
def floatPower (x y : Float) : Except Error Value :=
  if y == 0 then .ok (float 1)
  else if x.isNaN then .ok (ofFloat x)
  else if y.isNaN then .ok (if x == 1 then float 1 else ofFloat y)
  else if y.isInf then
    .ok (float (if x.abs == 1 then 1 else if (y > 0) == (x.abs > 1) then infinity else 0))
  else if x.isInf then
    let odd := isOddWhole y
    .ok (float (if y > 0 then (if odd then x else infinity) else if odd then copySign 0 x else 0))
  else if x == 0 then
    if y < 0 then fault .zeroPower else .ok (float (if isOddWhole y then x else 0))
  else if x < 0 && y != y.floor then
    match ComplexNumber.pow ⟨x, 0⟩ ⟨y, 0⟩ with
    | .ok z => .ok (ofComplex z)
    | .error e => fault (complexFault e)
  else
    let p := x.abs.pow y
    let p := if x < 0 && isOddWhole y then -p else p
    if p.isInf then fault .power else .ok (ofFloat p)

-- A power of whole numbers. Those of numbers up to one in size need no multiplication.
def wholePower (x : Int) (n : Nat) : Int :=
  if x = 1 then 1
  else if x = -1 then (if n % 2 = 0 then 1 else -1)
  else if x = 0 then (if n = 0 then 1 else 0)
  else Int.pow x n

theorem wholePower_eq (x : Int) (n : Nat) : wholePower x n = Int.pow x n := by
  unfold wholePower
  split
  case isTrue h => subst h; exact Int.one_pow.symm
  case isFalse =>
    split
    case isTrue h =>
      subst h
      have even (k : Nat) : Int.pow (-1) (2 * k) = 1 := Int.pow_mul.trans Int.one_pow
      split
      case isTrue hn =>
        obtain ⟨k, rfl⟩ := Nat.dvd_of_mod_eq_zero hn
        exact (even k).symm
      case isFalse hn =>
        obtain ⟨k, rfl⟩ : ∃ k, n = 2 * k + 1 := ⟨n / 2, by omega⟩
        have odd : Int.pow (-1) (2 * k + 1) = Int.pow (-1) (2 * k) * -1 := Int.pow_succ ..
        rw [odd, even, Int.one_mul]
    case isFalse =>
      split
      case isTrue h =>
        subst h
        split
        case isTrue hn => subst hn; rfl
        case isFalse hn => exact (Int.zero_pow hn).symm
      case isFalse => rfl

def intPower (x y : Int) : Except Error Value :=
  if y ≥ 0 then .ok (int (wholePower x y.toNat)) else do floatPower (← toFloat x) (← toFloat y)

def power : Operation where
  text := "** or pow()"
  ints := intPower
  floats := floatPower
  complexes := some ComplexNumber.pow

-- Sum of numbers; texts, lists, tuples and bytes are joined with their like.
def add (a b : Value) : Except Error Value :=
  match a, b with
  | str s, str t => .ok (str (s ++ t))
  | list xs, list ys => .ok (list (xs ++ ys))
  | tuple xs, tuple ys => .ok (tuple (xs ++ ys))
  | bytes x, bytes y => .ok (bytes (x ++ y))
  | str _, b => .error (.kind (.concat .str b.kind))
  | list _, b => .error (.kind (.concat .list b.kind))
  | tuple _, b => .error (.kind (.concat .tuple b.kind))
  | bytes _, b => .error (.kind (.concat .bytes b.kind))
  | a, b => plus.run a b

-- Difference of numbers, and of sets.
def sub (a b : Value) : Except Error Value :=
  match a, b with
  | set xs, set ys => .ok (set (xs.filter fun x => !ys.any fun y => x.same y))
  | a, b => minus.run a b

-- A count of repetitions: whole numbers only, and none that leaves the range of indices.
def count? : Value → Option Int
  | bool b => some (if b then 1 else 0)
  | int n => some n
  | _ => none

def repeated {α : Type} (xs : List α) (n : Nat) : List α :=
  if xs.isEmpty then [] else (List.replicate n xs).flatten

-- The members of a sequence, and what is said if there are more of them than indices.
def length : Value → Nat × NumberFault
  | str s => (s.length, .longText)
  | bytes bs => (bs.length, .longBytes)
  | list xs => (xs.length, .noRoom)
  | tuple xs => (xs.length, .noRoom)
  | _ => (0, .noRoom)

-- A sequence so many times over; a negative count counts as none. There is no room for sequences
-- that are far too long.
def repeatSequence (v count : Value) : Except Error Value :=
  match count.count? with
  | none => .error (.kind (.repeatBy count.kind))
  | some n =>
    let (size, tooLong) := v.length
    if n ≥ twoTo 63 ∨ n < -(twoTo 63 : Int) then fault .repetition
    else if size * n.toNat ≥ twoTo 63 then fault tooLong
    else if size * n.toNat ≥ twoTo 40 then fault .noRoom
    else .ok (match v with
      | str s => str (String.ofList (repeated s.toList n.toNat))
      | list xs => list (repeated xs n.toNat)
      | tuple xs => tuple (repeated xs n.toNat)
      | bytes bs => bytes (repeated bs n.toNat)
      | v => v)

def isSequence : Value → Bool
  | str _ => true
  | list _ => true
  | tuple _ => true
  | bytes _ => true
  | _ => false

-- Product of numbers, or a sequence repeated by a number on either side.
def mul (a b : Value) : Except Error Value :=
  if a.isSequence then repeatSequence a b
  else if b.isSequence then repeatSequence b a
  else times.run a b

def div (a b : Value) : Except Error Value := division.run a b

def quot (a b : Value) : Except Error Value := floorDivision.run a b

def pow (a b : Value) : Except Error Value := power.run a b

def neg (v : Value) : Except Error Value :=
  match v.operand? with
  | some (.int n) => .ok (int (-n))
  | some (.float x) => .ok (ofFloat (-x))
  | some (.complex z) => .ok (complex (-z.re) (-z.im))
  | none => .error (.kind (.operand "-" v.kind))

def pos (v : Value) : Except Error Value :=
  match v with
  | bool b => .ok (int (if b then 1 else 0))
  | v => match v.operand? with
    | some _ => .ok v
    | none => .error (.kind (.operand "+" v.kind))

end Value

end Dialect
