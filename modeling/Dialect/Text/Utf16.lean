namespace Dialect.Text.Utf16

-- A unit of two bytes, the first of which may be the lower or the higher one.
def unit (little : Bool) (a b : UInt8) : Nat :=
  if little then a.toNat + 256 * b.toNat else 256 * a.toNat + b.toNat

def isHigh (u : Nat) : Bool := 0xD800 ≤ u && u < 0xDC00

def isLow (u : Nat) : Bool := 0xDC00 ≤ u && u < 0xE000

-- The character of a pair.
def join (high low : Nat) : Char := Char.ofNat (0x10000 + (high - 0xD800) * 0x400 + (low - 0xDC00))

-- Decodes bytes of one byte order. A unit that is half of a pair without the other half, and what
-- is left over at the end, become one replacement character each.
def decode (little : Bool) : List UInt8 → List Char
  | [] => []
  | [_] => ['\ufffd']
  | a :: b :: rest =>
    let u := unit little a b
    if isLow u then '\ufffd' :: decode little rest
    else if isHigh u then
      match rest with
      | c :: d :: after =>
        let v := unit little c d
        if isLow v then join u v :: decode little after
        else '\ufffd' :: decode little (c :: d :: after)
      | _ => ['\ufffd']
    else Char.ofNat u :: decode little rest

-- Decodes bytes whose order a mark in front may give; without one the lower byte is first.
def decodeMarked : List UInt8 → List Char
  | 0xFF :: 0xFE :: rest => decode true rest
  | 0xFE :: 0xFF :: rest => decode false rest
  | bs => decode true bs

end Dialect.Text.Utf16
