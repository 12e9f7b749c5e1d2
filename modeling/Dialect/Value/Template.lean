import Dialect.Number.Fixed
import Dialect.Value.Access
import Dialect.Value.Arithmetic

namespace Dialect.Value.Template

-- What remains to be filled in: the members of a tuple, or one value and whether it was used.
inductive Supply where
  | many (rest : List Value)
  | one (v : Value) (used : Bool)

-- A directive has an optional key in parentheses, flags, a width, a precision and a conversion.
structure Directive where
  left : Bool := false
  plus : Bool := false
  space : Bool := false
  alt : Bool := false
  zero : Bool := false
  width : Nat := 0
  precision : Option Nat := none

def fail {α : Type} (c : ErrorClass) (reason : String) : Except Error α :=
  .error (.template c reason)

def next : Supply → Except Error (Value × Supply)
  | .many (v :: rest) => .ok (v, .many rest)
  | .one v false => .ok (v, .one v true)
  | _ => fail .type "not enough arguments for format string"

def Supply.leftOver : Supply → Bool
  | .many rest => !rest.isEmpty
  | .one _ used => !used

-- Flags in any order and number.
def flags (d : Directive) : List Char → Directive × List Char
  | '-' :: cs => flags { d with left := true } cs
  | '+' :: cs => flags { d with plus := true } cs
  | ' ' :: cs => flags { d with space := true } cs
  | '#' :: cs => flags { d with alt := true } cs
  | '0' :: cs => flags { d with zero := true } cs
  | cs => (d, cs)

-- The key up to the closing parenthesis, with inner pairs counted.
def keyText : (depth : Nat) → List Char → List Char → Option (List Char × List Char)
  | _, _, [] => none
  | depth, acc, c :: cs =>
    if c = ')' then
      match depth with
      | 0 => some (acc.reverse, cs)
      | d + 1 => keyText d (c :: acc) cs
    else if c = '(' then keyText (depth + 1) (c :: acc) cs
    else keyText depth (c :: acc) cs

-- The greatest width and the greatest precision.
structure Bound where
  name : String
  limit : Nat
  range : String

def widths : Bound := ⟨"width", Number.twoTo 63, "ssize_t"⟩

def precisions (binary : Bool) : Bound :=
  ⟨if binary then "prec" else "precision", Number.twoTo 31, "int"⟩

-- A width or a precision, and whether it stands there in digits.
structure Amount where
  value : Option Int
  inDigits : Bool

-- A number written out or taken from the arguments.
def amount (b : Bound) (cs : List Char) (s : Supply) :
    Except Error (Amount × List Char × Supply) :=
  match cs with
  | '*' :: rest => do
    let (v, s) ← next s
    match v.count? with
    | some n =>
      if n.natAbs ≥ b.limit then
        fail .overflow ("Python int too large to convert to C " ++ b.range)
      else .ok (⟨some n, false⟩, rest, s)
    | none => fail .type "* wants int"
  | cs =>
    let ds := cs.takeWhile Text.isAsciiDigit
    let n := Text.ofDigits 10 (ds.map fun c => c.toNat - 48)
    if ds.isEmpty then .ok (⟨none, false⟩, cs, s)
    else if n ≥ b.limit then fail .value (b.name ++ " too big")
    else .ok (⟨some n, true⟩, cs.dropWhile Text.isAsciiDigit, s)

-- A sign and a base mark stand before the zeros that fill up the width, after other filling.
def layout (d : Directive) (zeroFill : Bool) (sign mark body : String) : String :=
  let room := d.width - (sign.length + mark.length + body.length)
  let fill := fun c => String.ofList (List.replicate room c)
  if d.left then sign ++ mark ++ body ++ fill ' '
  else if zeroFill then sign ++ mark ++ fill '0' ++ body
  else fill ' ' ++ sign ++ mark ++ body

def signOf (d : Directive) (negative : Bool) : String :=
  if negative then "-" else if d.plus then "+" else if d.space then " " else ""

def upper (s : String) : String := String.ofList (s.toList.map Char.toUpper)

def wrongKind {α : Type} (c : Char) (v : Value) : Except Error α :=
  fail .type ("%" ++ String.ofList [c] ++ " format: "
    ++ (if c = 'o' ∨ c = 'x' ∨ c = 'X' then "an integer" else "a real number")
    ++ " is required, not " ++ v.kind.name)

-- The whole number that a numeric conversion shows.
def wholeOf (c : Char) (v : Value) : Except Error Int :=
  match v with
  | bool b => .ok (if b then 1 else 0)
  | int n => .ok n
  | float x =>
    if c = 'o' ∨ c = 'x' ∨ c = 'X' then wrongKind c v
    else match Number.truncate? x with
      | some n => .ok n
      | none => fail .overflow "cannot convert float infinity to integer"
  | nan _ =>
    if c = 'o' ∨ c = 'x' ∨ c = 'X' then wrongKind c v
    else fail .value "cannot convert float NaN to integer"
  | v => wrongKind c v

def whole (d : Directive) (c : Char) (v : Value) : Except Error String := do
  let n ← wholeOf c v
  let base := if c = 'o' then 8 else if c = 'x' ∨ c = 'X' then 16 else 10
  if base = 10 ∧ tooLong n then .error (.number .digitsWritten)
  else
    let digits := Text.ofNat base n.natAbs
    let digits := String.ofList (List.replicate (d.precision.getD 0 - digits.length) '0') ++ digits
    let mark := if d.alt then (if base = 8 then "0o" else if base = 16 then "0x" else "") else ""
    let (digits, mark) := if c = 'X' then (upper digits, upper mark) else (digits, mark)
    return layout d d.zero (signOf d (n < 0)) mark digits

def floatOf (v : Value) : Except Error Float :=
  match v with
  | bool b => .ok (if b then 1 else 0)
  | int n => toFloat n
  | float x => .ok x
  | nan _ => .ok (Number.infinity - Number.infinity)
  | v => fail .type ("must be real number, not " ++ v.kind.name)

-- In byte strings all that is no double, or has none, is of the wrong kind.
def byteFloatOf (v : Value) : Except Error Float :=
  match floatOf v with
  | .ok x => .ok x
  | .error _ => fail .type ("float argument required, not " ++ v.kind.name)

def real (binary : Bool) (d : Directive) (c : Char) (v : Value) : Except Error String := do
  let x ← if binary then byteFloatOf v else floatOf v
  let p := d.precision.getD 6
  let lower := c.toLower
  let (negative, body) := match Number.decode? x with
    | none => if x.isNaN then (false, "nan") else (Number.isNegative x, "inf")
    | some (negative, g) =>
      (negative, if lower = 'f' then g.fixed p d.alt
        else if lower = 'e' then g.scientific p d.alt
        else g.general p d.alt)
  return layout d d.zero (signOf d negative) "" (if c = lower then body else upper body)

-- Text conversions are cut to the precision.
def textual (d : Directive) (s : String) : String :=
  let s := match d.precision with
    | some p => String.ofList (s.toList.take p)
    | none => s
  layout d false "" "" s

def character (d : Directive) (v : Value) : Except Error String :=
  let laid := fun s => .ok (layout d false "" "" s)
  match v with
  | str s => if s.length = 1 then laid s else fail .type "%c requires int or char"
  | v => match v.count? with
    | some n =>
      if 0 ≤ n ∧ n < 0x110000 then laid (String.ofList [Char.ofNat n.toNat])
      else fail .overflow "%c arg not in range(0x110000)"
    | none => fail .type "%c requires int or char"

-- Bytes are carried as the characters of the same numbers.
def ofBytes (bs : List UInt8) : String := String.ofList (bs.map fun b => Char.ofNat b.toNat)

def byteCharacter (d : Directive) (v : Value) : Except Error String :=
  let laid := fun s => .ok (layout d false "" "" s)
  match v with
  | bytes [b] => laid (ofBytes [b])
  | v => match v.count? with
    | some n =>
      if 0 ≤ n ∧ n < 256 then laid (String.ofList [Char.ofNat n.toNat])
      else fail .overflow "%c arg not in range(256)"
    | none => fail .type "%c requires an integer in range(256) or a single byte"

def asciiRepr (v : Value) : Except Error String := do
  let s ← v.repr?
  return String.join (s.toList.map fun c =>
    if c.toNat < 128 then String.ofList [c] else Text.escapeNumber c.toNat)

-- One directive's conversion; `binary` for byte strings. In these a character outside ASCII is not
-- even named, unless it comes right after `digits`.
def convert (binary : Bool) (d : Directive) (digits : Bool) (c : Char) (index : Nat) (v : Value) :
    Except Error String :=
  match c with
  | 'i' => whole d (if binary then 'd' else 'i') v
  | 'd' | 'u' | 'o' | 'x' | 'X' => whole d c v
  | 'e' | 'E' | 'f' | 'F' | 'g' | 'G' => real binary d c v
  | 'a' => do return textual d (← asciiRepr v)
  | 'r' => do return textual d (← if binary then asciiRepr v else v.repr?)
  | 'c' => if binary then byteCharacter d v else character d v
  | 's' | 'b' =>
    if binary then
      match v with
      | bytes bs => .ok (textual d (ofBytes bs))
      | v => fail .type ("%b requires a bytes-like object, or an object that implements __bytes__, "
          ++ "not '" ++ v.kind.name ++ "'")
    else if c = 's' then do return textual d (← v.text?)
    else unsupported c index
  | c => unsupported c index
where
  unsupported (c : Char) (index : Nat) : Except Error String :=
    let shown := if 31 ≤ c.toNat ∧ c.toNat < 127 then c else '?'
    if binary ∧ 128 ≤ c.toNat ∧ !digits then fail .value ""
    else fail .value ("unsupported format character '"
      ++ String.ofList [if binary then c else shown]
      ++ "' (0x" ++ Text.ofNat 16 c.toNat ++ ") at index " ++ Text.ofNat 10 index)

-- The value at a directive's key.
def keyed (binary : Bool) (args : Value) (key : List Char) : Except Error Value :=
  if binary then
    match args with
    | map es =>
      let k := bytes (key.map fun c => UInt8.ofNat c.toNat)
      match find? es k with
      | some v => .ok v
      | none => .error (.missingKey k)
    | v => .error (.kind (.index (if v.kind = .list then "list" else "byte") .bytes))
  else args.atName (String.ofList key)

-- Arguments by key come from a mapping, a list or, in a template that is text, from bytes; only a
-- mapping has them.
def isKeyed (binary : Bool) : Value → Bool
  | map _ => true
  | list _ => true
  | bytes _ => !binary
  | _ => false

-- Walks through a template. `total` is its length, for positions in messages; `fuel` bounds the
-- number of directives.
def fill (binary : Bool) (args : Value) (total : Nat) :
    (fuel : Nat) → Supply → List Char → Except Error String
  | 0, _, _ => .ok ""
  | fuel + 1, s, cs => do
    let plain := cs.takeWhile (· ≠ '%')
    match cs.dropWhile (· ≠ '%') with
    | [] =>
      if s.leftOver && !isKeyed binary args then
        fail .type ("not all arguments converted during "
          ++ (if binary then "bytes" else "string") ++ " formatting")
      else return String.ofList plain
    | _ :: '%' :: rest =>
      return String.ofList plain ++ "%" ++ (← fill binary args total fuel s rest)
    | _ :: rest =>
      let (s, rest) ← match rest with
        | '(' :: r =>
          if !isKeyed binary args then fail .type "format requires a mapping"
          else match keyText 0 [] r with
            | none => fail .value "incomplete format key"
            | some (key, r) => do
              let v ← keyed binary args key
              pure (Supply.one v false, r)
        | r => pure (s, r)
      let (d, rest) := flags {} rest
      let (width, rest, s) ← amount widths rest s
      let d := match width.value with
        | some n => { d with width := n.natAbs, left := d.left || n < 0 }
        | none => d
      let (d, digits, rest, s) ← match rest with
        | '.' :: r => do
          let (p, r, s) ← amount (precisions binary) r s
          pure ({ d with precision := some (p.value.getD 0).toNat }, p.inDigits, r, s)
        | r => pure (d, width.inDigits, r, s)
      let (digits, rest) := match rest with
        | 'h' :: r => (false, r)
        | 'l' :: r => (false, r)
        | 'L' :: r => (false, r)
        | r => (digits, r)
      match rest with
      | [] => fail .value "incomplete format"
      | c :: r => do
        let (v, s) ← next s
        let shown ← convert binary d digits c (total - r.length - 1) v
        return String.ofList plain ++ shown ++ (← fill binary args total fuel s r)

def run (binary : Bool) (cs : List Char) (args : Value) : Except Error String :=
  let supply := match args with
    | tuple xs => Supply.many xs
    | v => Supply.one v false
  fill binary args cs.length (cs.length + 1) supply cs

end Template

-- Remainder of numbers; a text or a byte string on the left is a template.
def mod (a b : Value) : Except Error Value :=
  match a with
  | str s => do return str (← Template.run false s.toList b)
  | bytes bs => do
    let s ← Template.run true (Template.ofBytes bs).toList b
    return bytes (s.toList.map fun c => UInt8.ofNat c.toNat)
  | a => modulo.run a b

end Dialect.Value
