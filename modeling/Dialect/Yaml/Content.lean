import Dialect.Number.Decimal
import Dialect.Number.Whole
import Dialect.Text.Base64
import Dialect.Text.Lower
import Dialect.Value.Equality
import Dialect.Yaml.Tag

namespace Dialect.Yaml

-- The text without underscores.
def withoutLines (s : String) : List Char := s.toList.filter (· != '_')

def indexFault : ReadFault := .refused (.content .index "string index out of range")

def ofNumber {α : Type} (r : Except NumberFault α) : Except ReadFault α :=
  match r with
  | .ok a => .ok a
  | .error f => .error (.refused (.number f))

def readInt (base : Nat) (cs : List Char) : Except ReadFault Int :=
  ofNumber (Number.readInt base (String.ofList cs))

-- A whole number without its sign.
def natural (cs : List Char) : Except ReadFault Int :=
  match cs with
  | [] => .error indexFault
  | ['0'] => .ok 0
  | '0' :: 'b' :: ds => readInt 2 ds
  | '0' :: 'x' :: ds => readInt 16 ds
  | '0' :: _ => readInt 8 cs
  | _ =>
    if cs.contains ':' then do
      let parts ← (cs.splitOn ':').mapM (readInt 10)
      return parts.foldl (fun acc d => acc * 60 + d) 0
    else readInt 10 cs

-- A whole number in any of the notations.
def intContent (s : String) : Except ReadFault Value :=
  match withoutLines s with
  | [] => .error indexFault
  | '-' :: cs => do return .int (-(← natural cs))
  | '+' :: cs => do return .int (← natural cs)
  | cs => do return .int (← natural cs)

def readFloat (cs : List Char) : Except ReadFault Float :=
  match Number.readFloat? (Text.trim Number.isSpace (cs.map Number.plainChar)) with
  | some x => .ok x
  | none => .error (.refused (.number (.floatLiteral (String.ofList cs))))

-- Sums parts in base sixty, the last of which counts ones. The weight of a part is a whole number,
-- which must not be too large for a double.
def sixtySum (weight : Nat) : List Float → Float → Except ReadFault Float
  | [], sum => .ok sum
  | x :: xs, sum => match Number.ofInt? weight with
    | some w => sixtySum (weight * 60) xs (sum + x * w)
    | none => .error (.refused (.number .tooLarge))

-- A double without its sign.
def magnitude (cs : List Char) : Except ReadFault Float :=
  if cs.contains ':' then do
    let parts ← (cs.splitOn ':').mapM readFloat
    sixtySum 1 parts.reverse 0
  else readFloat cs

-- A double with its sign. NaN has none: the word for it stands for one NaN, and a number that is
-- none is a NaN of its own, with the given label.
def signed (label : Nat) (negative : Bool) (cs : List Char) : Except ReadFault Value :=
  if String.ofList cs == ".nan" then .ok (.nan 2)
  else if String.ofList cs == ".inf" then
    .ok (.float (if negative then -Number.infinity else Number.infinity))
  else do
    let x ← magnitude cs
    return if x.isNaN then .nan label else .float (if negative then -x else x)

-- A double in any of the notations.
def floatContent (label : Nat) (s : String) : Except ReadFault Value :=
  match (Text.lower (String.ofList (withoutLines s))).toList with
  | [] => .error indexFault
  | '-' :: cs => signed label true cs
  | '+' :: cs => signed label false cs
  | cs => signed label false cs

def boolContent (s : String) : Except ReadFault Value :=
  let word := Text.lower s
  if ["yes", "true", "on"].contains word then .ok (.bool true)
  else if ["no", "false", "off"].contains word then .ok (.bool false)
  else .error (.refused (.missingKey (.str word)))

def ofMoment {α : Type} (r : Except MomentFault α) : Except ReadFault α :=
  match r with
  | .ok a => .ok a
  | .error f => .error (.refused (.moment f))

-- The offset in seconds, which is checked first.
def stampSeconds : Option (Option Char × List Char × List Char) → Except ReadFault (Option Int)
  | none => .ok none
  | some (none, _, _) => .ok (some 0)
  | some (some sign, hour, minute) => do
    let n : Int := Number.natOf hour * 3600 + Number.natOf minute * 60
    let seconds := if sign = '-' then -n else n
    ofMoment (checkOffset seconds)
    return some seconds

-- A date, or a date with a time. Digits after the sixth of a fraction have no effect.
def stampContent (s : String) : Except ReadFault Value :=
  match stamp? s.toList with
  | none => .error (.refused (.member .null "groupdict"))
  | some t => do
    let date : Date := ⟨Number.natOf t.year, Number.natOf t.month, Number.natOf t.day⟩
    match t.clock with
    | none =>
      ofMoment date.check
      return .date date
    | some (hour, minute, second) =>
      let micro := Number.natOf ((t.fraction ++ List.replicate 6 '0').take 6)
      let offset ← stampSeconds t.offset
      let clock : Clock := ⟨Number.natOf hour, Number.natOf minute, Number.natOf second, micro⟩
      ofMoment date.check
      ofMoment clock.check
      return .datetime date clock offset

def binaryContent (s : String) : Except ReadFault Value :=
  let cs := s.toList
  if cs.all fun c => c.toNat < 128 then
    match Text.Base64.decode? cs with
    | some bs => .ok (.bytes bs)
    | none => .error .malformed
  else .error .malformed

-- The value of a text under the tag of a scalar, if it is one; a NaN gets the given label.
def scalarContent? (label : Nat) (tag : Tag) (s : String) : Option (Except ReadFault Value) :=
  match tag with
  | .null => some (.ok .null)
  | .bool => some (boolContent s)
  | .int => some (intContent s)
  | .float => some (floatContent label s)
  | .binary => some (binaryContent s)
  | .timestamp => some (stampContent s)
  | .str => some (.ok (.str s))
  | _ => none

end Dialect.Yaml
