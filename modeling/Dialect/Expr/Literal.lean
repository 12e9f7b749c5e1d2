import Dialect.Text.CharName

namespace Dialect.Expr.Literal

inductive Fault where
  | nul
  -- the line on which the text stops
  | unterminated (line : Nat)
  -- first and last byte of an escape, the reason, and the last line of the text
  | escape (first last : Nat) (reason : String) (line : Nat)
deriving Repr, DecidableEq, Inhabited

def Fault.message : Fault → String
  | nul => "source code string cannot contain null bytes"
  | unterminated n =>
    "unterminated string literal (detected at line " ++ Text.ofNat 10 n ++ ") (<unknown>, line 1)"
  | escape a b r n =>
    "(unicode error) 'unicodeescape' codec can't decode bytes in position " ++ Text.ofNat 10 a
      ++ "-" ++ Text.ofNat 10 b ++ ": " ++ r ++ " (<unknown>, line " ++ Text.ofNat 10 n ++ ")"

-- The bytes that a character takes in positions. These count bytes of a form in which every
-- character outside ASCII is written as an escape of ten bytes, and a backslash in front of one as
-- an escape of six.
def width (c : Char) : Nat := if c.toNat < 128 then 1 else 10

-- The bytes that a backslash and the character behind it take.
def pairWidth (c : Char) : Nat := if c.toNat < 128 then 2 else 16

-- The bytes that a name takes, which may have backslashes in it.
def nameWidth : List Char → Nat
  | '\\' :: c :: cs => pairWidth c + nameWidth cs
  | c :: cs => width c + nameWidth cs
  | [] => 0

-- The line on which a text without backslash meets a line break.
def brokenLine? (line : Nat) : List Char → Option Nat
  | [] => none
  | ['\\'] => none
  | '\\' :: c :: cs => brokenLine? (if c = '\n' then line + 1 else line) cs
  | c :: cs => if c = '\n' then some line else brokenLine? line cs

-- The single letters and signs that stand for a character after a backslash.
def simpleEscape? : Char → Option Char
  | '\\' => some '\\'
  | '\'' => some '\''
  | '"' => some '"'
  | 'a' => some '\x07'
  | 'b' => some '\x08'
  | 'f' => some '\x0c'
  | 'n' => some '\n'
  | 'r' => some '\r'
  | 't' => some '\t'
  | 'v' => some '\x0b'
  | _ => none

def isOctal (c : Char) : Bool := '0' ≤ c && c ≤ '7'

def isHex (c : Char) : Bool := (Text.hexDigit? c).isSome

def hexValue (cs : List Char) : Nat := Text.ofDigits 16 (cs.filterMap Text.hexDigit?)

-- The reason and the span of a bad escape, in bytes from the backslash.
abbrev Bad := Nat × String

-- An escape by number: so many hexadecimal digits, and a code point that exists.
def numbered (digits : Nat) (reason : String) (cs : List Char) :
    Except Bad (Char × List Char × Nat) :=
  let ds := (cs.take digits).takeWhile isHex
  let n := hexValue ds
  if ds.length < digits then .error (2 + ds.length, reason)
  else if n ≥ 0x110000 then .error (2 + digits, "illegal Unicode character")
  else .ok (Char.ofNat n, cs.drop digits, 2 + digits)

-- An escape by name, which stands in braces.
def named (cs : List Char) : Except Bad (Char × List Char × Nat) :=
  match cs with
  | '\x7b' :: rest =>
    let name := rest.takeWhile (· ≠ '\x7d')
    let size := nameWidth name
    if rest.length = name.length then .error (3 + size, "malformed \\N character escape")
    else if name.isEmpty then .error (3, "malformed \\N character escape")
    else match Text.CharName.find? name with
      | some c => .ok (c, rest.drop (name.length + 1), 4 + size)
      | none => .error (4 + size, "unknown Unicode character name")
  | _ => .error (2, "malformed \\N character escape")

-- What follows a backslash: the characters it stands for, the rest, and the bytes taken. An unknown
-- escape stands for itself and its backslash.
def escape (c : Char) (cs : List Char) : Except Bad (List Char × List Char × Nat) :=
  match simpleEscape? c with
  | some x => .ok ([x], cs, 2)
  | none =>
    if c = '\n' then .ok ([], cs, 2)
    else if isOctal c then
      let ds := c :: (cs.take 2).takeWhile isOctal
      .ok ([Char.ofNat (Text.ofDigits 8 (ds.map fun d => d.toNat - 48))], cs.drop (ds.length - 1),
        1 + ds.length)
    else if c = 'x' then (numbered 2 "truncated \\xXX escape" cs).map fun (x, r, n) => ([x], r, n)
    else if c = 'u' then (numbered 4 "truncated \\uXXXX escape" cs).map fun (x, r, n) => ([x], r, n)
    else if c = 'U' then
      (numbered 8 "truncated \\UXXXXXXXX escape" cs).map fun (x, r, n) => ([x], r, n)
    else if c = 'N' then (named cs).map fun (x, r, n) => ([x], r, n)
    else .ok (['\\', c], cs, pairWidth c)

-- Replaces the escapes of a text from byte `start` on; `fuel` is at least its length.
def unescape : (fuel : Nat) → (start : Nat) → List Char → Except (Nat × Bad) (List Char)
  | 0, _, _ => .ok []
  | _ + 1, _, [] => .ok []
  | _ + 1, _, ['\\'] => .ok ['\\']
  | fuel + 1, start, '\\' :: c :: cs => match escape c cs with
    | .error bad => .error (start, bad)
    | .ok (shown, rest, n) => (unescape fuel (start + n) rest).map (shown ++ ·)
  | fuel + 1, start, c :: cs => (unescape fuel (start + width c) cs).map (c :: ·)

-- The text that a quoted text, given with its quotes, stands for. A carriage return ends the line,
-- which only a backslash in front of it allows.
def decode (s : String) : Except Fault String :=
  let body := ((s.toList.drop 1).dropLast).map fun c => if c = '\r' then '\n' else c
  if body.contains '\x00' then .error .nul
  else match brokenLine? 1 body with
    | some line => .error (.unterminated line)
    | none => match unescape (body.length + 1) 0 body with
      | .ok cs => .ok (String.ofList cs)
      | .error (start, span, reason) =>
        .error (.escape start (start + span - 1) reason (1 + body.count '\n'))

end Dialect.Expr.Literal
