namespace Dialect.Text.Utf8

-- Why bytes are no character: the part of one that was right so far is a flaw, or one byte.
inductive Flaw where
  | start
  | continuation
  | unfinished
deriving Repr, DecidableEq, Inhabited

def Flaw.text : Flaw → String
  | start => "invalid start byte"
  | continuation => "invalid continuation byte"
  | unfinished => "unexpected end of data"

-- What a leading byte promises: its own bits, the number of bytes after it, and the range of the
-- first of these, which leaves out overlong forms, surrogates and numbers beyond Unicode.
structure Lead where
  bits : Nat
  owed : Nat
  low : Nat
  high : Nat

def lead? (b : Nat) : Option Lead :=
  if b < 0x80 then some ⟨b, 0, 0x80, 0xBF⟩
  else if b < 0xC2 then none
  else if b < 0xE0 then some ⟨b - 0xC0, 1, 0x80, 0xBF⟩
  else if b < 0xF0 then
    some ⟨b - 0xE0, 2, if b = 0xE0 then 0xA0 else 0x80, if b = 0xED then 0x9F else 0xBF⟩
  else if b < 0xF5 then
    some ⟨b - 0xF0, 3, if b = 0xF0 then 0x90 else 0x80, if b = 0xF4 then 0x8F else 0xBF⟩
  else none

-- The bytes after a leading one, six bits each; `used` counts them.
def tails (bits low high used : Nat) : (owed : Nat) → List UInt8 → Except (Flaw × Nat) (Char × Nat)
  | 0, _ => .ok (Char.ofNat bits, used)
  | _ + 1, [] => .error (.unfinished, used)
  | n + 1, b :: bs =>
    if low ≤ b.toNat ∧ b.toNat ≤ high then
      tails (bits * 64 + b.toNat % 64) 0x80 0xBF (used + 1) n bs
    else .error (.continuation, used)

-- The character that starts with a byte, or a flaw, and how many more bytes belong to it.
def next (b : UInt8) (bs : List UInt8) : Except (Flaw × Nat) (Char × Nat) :=
  match lead? b.toNat with
  | none => .error (.start, 0)
  | some l => tails l.bits l.low l.high 0 l.owed bs

-- Decodes bytes; every flaw becomes a replacement character.
def decode : List UInt8 → List Char
  | [] => []
  | b :: bs => match next b bs with
    | .ok (c, n) => c :: decode (bs.drop n)
    | .error (_, n) => '\ufffd' :: decode (bs.drop n)
termination_by bs => bs.length
decreasing_by all_goals simp only [List.length_drop, List.length_cons]; omega

-- The first flaw of a text in bytes: where it is, its first byte and how long it is.
structure Bad where
  position : Nat
  byte : UInt8
  length : Nat
  flaw : Flaw
deriving Repr, Inhabited

-- Decodes bytes from a position on; the first flaw ends the work.
def decodeFrom (position : Nat) : List UInt8 → Except Bad (List Char)
  | [] => .ok []
  | b :: bs => match next b bs with
    | .ok (c, n) => do return c :: (← decodeFrom (position + n + 1) (bs.drop n))
    | .error (flaw, n) => .error ⟨position, b, n + 1, flaw⟩
termination_by bs => bs.length
decreasing_by simp only [List.length_drop, List.length_cons]; omega

def decodeStrict (bs : List UInt8) : Except Bad (List Char) := decodeFrom 0 bs

end Dialect.Text.Utf8
