namespace Dialect.Text.Base64

def digit? (c : Char) : Option Nat :=
  if 'A' ≤ c ∧ c ≤ 'Z' then some (c.toNat - 65)
  else if 'a' ≤ c ∧ c ≤ 'z' then some (c.toNat - 97 + 26)
  else if '0' ≤ c ∧ c ≤ '9' then some (c.toNat - 48 + 52)
  else if c = '+' then some 62
  else if c = '/' then some 63
  else none

-- The bytes of a text. `place` is how many digits of the current group have been read, `left`
-- what they leave over, `pads` how many padding signs came in a row.
def bytesFrom (acc : List UInt8) (place left pads : Nat) : List Char → Option (List UInt8)
  | [] => if place = 0 then some acc.reverse else none
  | c :: cs =>
    if c = '=' then
      if 2 ≤ place then
        if 4 ≤ place + (pads + 1) then some acc.reverse else bytesFrom acc place left (pads + 1) cs
      else bytesFrom acc place left pads cs
    else match digit? c with
      | none => bytesFrom acc place left pads cs
      | some d => match place with
        | 0 => bytesFrom acc 1 d 0 cs
        | 1 => bytesFrom (UInt8.ofNat (left * 4 + d / 16) :: acc) 2 (d % 16) 0 cs
        | 2 => bytesFrom (UInt8.ofNat (left * 16 + d / 4) :: acc) 3 (d % 4) 0 cs
        | _ => bytesFrom (UInt8.ofNat (left * 64 + d) :: acc) 0 0 0 cs

-- Decodes a text, unless its last group is incomplete. Characters that are no digits are passed
-- over; padding ends the text once it completes a group.
def decode? (cs : List Char) : Option (List UInt8) := bytesFrom [] 0 0 0 cs

end Dialect.Text.Base64
