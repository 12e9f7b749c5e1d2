import Dialect.Number.Decimal
import Dialect.ReadFault
import Dialect.Value.Equality

namespace Dialect

namespace Json

def malformed {α : Type} : Except ReadFault α := .error .malformed

def isSpace (c : Char) : Bool := c == ' ' || c == '\t' || c == '\n' || c == '\r'

def skip (cs : List Char) : List Char := cs.dropWhile isSpace

-- Four hexadecimal digits.
def hex4? : List Char → Option (Nat × List Char)
  | a :: b :: c :: d :: cs => match [a, b, c, d].mapM Text.hexDigit? with
    | some ds => some (Text.ofDigits 16 ds, cs)
    | none => none
  | _ => none

-- A code point by number; two halves of a pair join.
def unicode (n : Nat) (cs : List Char) : Option (Char × List Char) :=
  if 0xD800 ≤ n ∧ n < 0xDC00 then
    match cs with
    | '\\' :: 'u' :: r => match hex4? r with
      | some (m, r) =>
        if 0xDC00 ≤ m ∧ m < 0xE000 then
          some (Char.ofNat (0x10000 + (n - 0xD800) * 0x400 + (m - 0xDC00)), r)
        else some ('\ufffd', cs)
      | none => some ('\ufffd', cs)
    | _ => some ('\ufffd', cs)
  else if 0xDC00 ≤ n ∧ n < 0xE000 then some ('\ufffd', cs)
  else some (Char.ofNat n, cs)

-- The character of an escape by letter.
def simple? : Char → Option Char
  | '"' => some '"'
  | '\\' => some '\\'
  | '/' => some '/'
  | 'b' => some '\x08'
  | 'f' => some '\x0c'
  | 'n' => some '\n'
  | 'r' => some '\r'
  | 't' => some '\t'
  | _ => none

-- The rest of a quoted text, from behind its first quote. Control characters must be escaped.
def quoted : (fuel : Nat) → List Char → List Char → Except ReadFault (String × List Char)
  | 0, _, _ => malformed
  | _ + 1, _, [] => malformed
  | fuel + 1, acc, c :: cs =>
    if c = '"' then .ok (String.ofList acc.reverse, cs)
    else if c.toNat < 32 then malformed
    else if c = '\\' then
      match cs with
      | 'u' :: r => match (hex4? r).bind fun (n, r) => unicode n r with
        | some (x, r) => quoted fuel (x :: acc) r
        | none => malformed
      | e :: r => match simple? e with
        | some x => quoted fuel (x :: acc) r
        | none => malformed
      | [] => malformed
    else quoted fuel (c :: acc) cs

-- Digits after a point, if there are any.
def fraction (cs : List Char) : List Char × List Char :=
  match cs with
  | '.' :: r =>
    let ds := r.takeWhile Text.isAsciiDigit
    if ds.isEmpty then ([], cs) else (ds, r.dropWhile Text.isAsciiDigit)
  | _ => ([], cs)

-- An exponent, if it is complete.
def exponent (cs : List Char) : Option Int × List Char :=
  match cs with
  | c :: r =>
    if c = 'e' ∨ c = 'E' then
      let (negative, body) := Number.splitSign r
      let ds := body.takeWhile Text.isAsciiDigit
      if ds.isEmpty then (none, cs)
      else
        let n : Int := Number.natOf ds
        (some (if negative then -n else n), body.dropWhile Text.isAsciiDigit)
    else (none, cs)
  | [] => (none, cs)

-- A number: no leading zeros, digits after a point, an exponent.
def number (negative : Bool) (cs : List Char) : Except ReadFault (Value × List Char) :=
  let whole := match cs with
    | '0' :: _ => ['0']
    | _ => cs.takeWhile Text.isAsciiDigit
  if whole.isEmpty then malformed
  else
    let (part, rest) := fraction (cs.drop whole.length)
    let (e, rest) := exponent rest
    if part.isEmpty && e.isNone then
      if whole.length > digitLimit then .error (.refused (.number (.digitsRead whole.length)))
      else
        let n : Int := Number.natOf whole
        .ok (.int (if negative then -n else n), rest)
    else .ok (.float (Number.ofDecimal negative (Number.natOf (whole ++ part))
      (e.getD 0 - part.length)), rest)

-- A word that stands for a value.
def word? (cs : List Char) : Option (Value × List Char) :=
  [("null", Value.null), ("true", .bool true), ("false", .bool false), ("NaN", .nan 1),
    ("Infinity", .float Number.infinity), ("-Infinity", .float (-Number.infinity))].findSome?
    fun (w, v) => if w.toList.isPrefixOf cs then some (v, cs.drop w.length) else none

mutual

-- The value at the start of a text.
def value : (fuel : Nat) → List Char → Except ReadFault (Value × List Char)
  | 0, _ => malformed
  | _ + 1, [] => malformed
  | fuel + 1, c :: cs =>
    if c = '"' then (quoted (cs.length + 1) [] cs).map fun (s, r) => (.str s, r)
    else if c = '[' then
      match skip cs with
      | ']' :: r => .ok (.list [], r)
      | r => elements fuel [] r
    else if c = '\x7b' then
      match skip cs with
      | '\x7d' :: r => .ok (.map [], r)
      | r => entries fuel [] r
    else match word? (c :: cs) with
      | some found => .ok found
      | none => if c = '-' then number true cs else number false (c :: cs)

-- Members up to the closing bracket, gathered in reverse.
def elements : (fuel : Nat) → List Value → List Char → Except ReadFault (Value × List Char)
  | 0, _, _ => malformed
  | fuel + 1, acc, cs => do
    let (v, r) ← value fuel cs
    match skip r with
    | ',' :: r => elements fuel (v :: acc) (skip r)
    | ']' :: r => return (.list (v :: acc).reverse, r)
    | _ => malformed

-- Entries up to the closing brace. A repeated key keeps its first place and its last value.
def entries : (fuel : Nat) → List (Value × Value) → List Char → Except ReadFault (Value × List Char)
  | 0, _, _ => malformed
  | fuel + 1, acc, cs => match cs with
    | '"' :: r => do
      let (k, r) ← quoted (r.length + 1) [] r
      match skip r with
      | ':' :: r =>
        let (v, r) ← value fuel (skip r)
        let acc := Value.insert acc (.str k) v
        match skip r with
        | ',' :: r => entries fuel acc (skip r)
        | '\x7d' :: r => return (.map acc, r)
        | _ => malformed
      | _ => malformed
    | _ => malformed

end

-- The value of a whole text, with blanks around it.
def read (s : String) : Except ReadFault Value := do
  let cs := s.toList
  let (v, r) ← value (cs.length + 1) (skip cs)
  if (skip r).isEmpty then return v else malformed

end Json

end Dialect
