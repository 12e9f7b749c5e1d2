import Dialect.Number.Root

namespace Dialect.Number

structure ComplexNumber where
  re : Float
  im : Float

-- Why complex numbers have no quotient or power.
inductive ComplexFault where
  | zeroDivisor
  | zeroBase
  | overflow
deriving Repr, DecidableEq, Inhabited

namespace ComplexNumber

def one : ComplexNumber := ⟨1, 0⟩

def add (z w : ComplexNumber) : ComplexNumber := ⟨z.re + w.re, z.im + w.im⟩

def sub (z w : ComplexNumber) : ComplexNumber := ⟨z.re - w.re, z.im - w.im⟩

def mul (z w : ComplexNumber) : ComplexNumber :=
  ⟨z.re * w.re - z.im * w.im, z.re * w.im + z.im * w.re⟩

def isZero (z : ComplexNumber) : Bool := z.re == 0 && z.im == 0

def isInfinite (z : ComplexNumber) : Bool := z.re.isInf || z.im.isInf

-- The quotient; none by zero, and no number if a part of the divisor is none. It is scaled by the
-- larger part of the divisor first, so that no square can overflow.
def div? (z w : ComplexNumber) : Option ComplexNumber :=
  if w.re.abs ≥ w.im.abs then
    if w.re == 0 then none
    else
      let ratio := w.im / w.re
      let size := w.re + w.im * ratio
      some ⟨(z.re + z.im * ratio) / size, (z.im - z.re * ratio) / size⟩
  else if w.im.abs ≥ w.re.abs then
    let ratio := w.re / w.im
    let size := w.re * ratio + w.im
    some ⟨(z.re * ratio + z.im) / size, (z.im * ratio - z.re) / size⟩
  else some ⟨infinity - infinity, infinity - infinity⟩

-- The product of the squares of `square` that the binary digits of `n` choose, times `product`.
def powersFrom : (fuel n : Nat) → (product square : ComplexNumber) → ComplexNumber
  | 0, _, product, _ => product
  | fuel + 1, n, product, square =>
    if n = 0 then product
    else
      let product := if n % 2 = 1 then product.mul square else product
      powersFrom fuel (n / 2) product (square.mul square)

-- A power with a natural exponent.
def natPower (z : ComplexNumber) (n : Nat) : ComplexNumber := powersFrom (n.log2 + 1) n one z

-- A power by length and angle. An angle without bounds has no direction.
def polarPower (z w : ComplexNumber) : Except ComplexFault ComplexNumber :=
  let length := hypot z.re z.im
  let angle := Float.atan2 z.im z.re
  let size := length.pow w.re
  let phase := angle * w.re
  let size := if w.im == 0 then size else size / (angle * w.im).exp
  let phase := if w.im == 0 then phase else phase + w.im * length.log
  if phase.isInf then .error .zeroBase else .ok ⟨size * phase.cos, size * phase.sin⟩

-- Exponents up to this size are small.
def smallExponent : Float := 100

-- A power before its size is checked.
def rawPower (z w : ComplexNumber) : Except ComplexFault ComplexNumber :=
  let small := w.im == 0 && w.re == w.re.floor && w.re.abs ≤ smallExponent
  match if small then truncate? w.re else none with
  | some n =>
    if n > 0 then .ok (z.natPower n.toNat)
    else match one.div? (z.natPower n.natAbs) with
      | some q => .ok q
      | none => .error .zeroBase
  | none =>
    if w.isZero then .ok one
    else if z.isZero then
      if w.im != 0 || w.re < 0 then .error .zeroBase else .ok ⟨0, 0⟩
    else z.polarPower w

-- A power, which must not be infinite. One with a small whole exponent is a product of squares, any
-- other one goes by length and angle.
def pow (z w : ComplexNumber) : Except ComplexFault ComplexNumber := do
  let p ← z.rawPower w
  if p.isInfinite then .error .overflow else return p

end ComplexNumber

end Dialect.Number
