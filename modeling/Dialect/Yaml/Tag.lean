import Dialect.Yaml.Cursor

namespace Dialect.Yaml

-- The tags with a meaning here. A node may name its tag; a plain scalar without one has the tag
-- that its text looks like.
inductive Tag where
  | null | bool | int | float | binary | timestamp
  | str | seq | map | omap | pairs | set
  -- keys that bring in the entries of other mappings, and the default key
  | merge | value
  | other
deriving Repr, DecidableEq, Inhabited

namespace Tag

-- What the names of the standard tags start with.
def standard : String := "tag:yaml.org,2002:"

def words : List (String × Tag) := [("null", null), ("bool", bool), ("int", int), ("float", float),
  ("binary", binary), ("timestamp", timestamp), ("str", str), ("seq", seq), ("map", map),
  ("omap", omap), ("pairs", pairs), ("set", set), ("merge", merge), ("value", value)]

def ofName (name : String) : Tag :=
  ((words.find? fun e => standard ++ e.1 == name).map (·.2)).getD other

end Tag

-- A sign that does not count.
def dropSign : List Char → List Char
  | '-' :: cs => cs
  | '+' :: cs => cs
  | cs => cs

def isDigitOrLine (c : Char) : Bool := Text.isAsciiDigit c || c == '_'

def isBoolWord (s : String) : Bool :=
  ["yes", "Yes", "YES", "no", "No", "NO", "true", "True", "TRUE", "false", "False", "FALSE",
    "on", "On", "ON", "off", "Off", "OFF"].contains s

def isNullWord (s : String) : Bool := ["", "~", "null", "Null", "NULL"].contains s

-- Groups of one or two digits below sixty, each after a colon; what follows them is left.
def sixties : List Char → List Char
  | ':' :: a :: b :: cs =>
    if '0' ≤ a && a ≤ '5' && Text.isAsciiDigit b then sixties cs
    else if Text.isAsciiDigit a then sixties (b :: cs)
    else ':' :: a :: b :: cs
  | [':', a] => if Text.isAsciiDigit a then [] else [':', a]
  | cs => cs

-- A whole number: binary, octal, hexadecimal, decimal or in base sixty.
def looksInt (text : List Char) : Bool :=
  match dropSign text with
  | ['0'] => true
  | '0' :: 'b' :: ds => !ds.isEmpty && ds.all fun c => c == '0' || c == '1' || c == '_'
  | '0' :: 'x' :: ds => !ds.isEmpty && ds.all fun c => (Text.hexDigit? c).isSome || c == '_'
  | '0' :: ds => !ds.isEmpty && ds.all fun c => ('0' ≤ c && c ≤ '7') || c == '_'
  | c :: ds =>
    if '1' ≤ c && c ≤ '9' then (sixties (ds.dropWhile isDigitOrLine)).isEmpty
    else false
  | [] => false

-- An exponent, which has a sign, or nothing.
def looksExponent : List Char → Bool
  | [] => true
  | e :: s :: ds =>
    (e == 'e' || e == 'E') && (s == '+' || s == '-') && !ds.isEmpty && ds.all Text.isAsciiDigit
  | _ => false

-- A point, digits and an exponent.
def looksFraction (cs : List Char) : Bool :=
  match cs with
  | '.' :: r => looksExponent (r.dropWhile isDigitOrLine)
  | _ => false

-- Digits behind a point, without an exponent.
def looksPlaces : List Char → Bool
  | '.' :: r => r.all isDigitOrLine
  | _ => false

-- A double: with a point, in base sixty, or a word after a point.
def looksFloat (text : List Char) : Bool :=
  let unsigned := dropSign text
  let word := String.ofList unsigned
  [".inf", ".Inf", ".INF"].contains word
    || [".nan", ".NaN", ".NAN"].contains (String.ofList text)
    || (match text with
      | '.' :: d :: _ => Text.isAsciiDigit d && looksFraction text
      | _ => false)
    || (match unsigned with
      | d :: ds =>
        let r := ds.dropWhile isDigitOrLine
        Text.isAsciiDigit d
          && (looksFraction r || (r.head? == some ':' && looksPlaces (sixties r)))
      | [] => false)

-- Digits at the start of a text, at least and at most so many.
def digitsBetween (low high : Nat) (cs : List Char) : Option (List Char × List Char) :=
  let ds := (cs.take high).takeWhile Text.isAsciiDigit
  if low ≤ ds.length then some (ds, cs.drop ds.length) else none

def dropChar? (c : Char) : List Char → Option (List Char)
  | d :: cs => if d = c then some cs else none
  | [] => none

-- The parts of a date with or without a time.
structure Stamp where
  year : List Char
  month : List Char
  day : List Char
  -- hour, minute and second
  clock : Option (List Char × List Char × List Char)
  fraction : List Char
  -- the sign, hours and minutes of an offset; no sign stands for universal time
  offset : Option (Option Char × List Char × List Char)

-- An offset at the end of a date with a time, or nothing.
def stampOffset? (cs : List Char) : Option (Option (Option Char × List Char × List Char)) :=
  match cs with
  | [] => some none
  | _ => match cs.dropWhile isBlank with
    | ['Z'] => some (some (none, [], []))
    | s :: r => do
      if s ≠ '+' ∧ s ≠ '-' then none
      else
        let (hour, r) ← digitsBetween 1 2 r
        match r with
        | [] => some (some (some s, hour, []))
        | _ =>
          let (minute, r) ← digitsBetween 2 2 (← dropChar? ':' r)
          if r.isEmpty then some (some (some s, hour, minute)) else none
    | [] => none

-- What stands between a date and a time.
def stampGap? : List Char → Option (List Char)
  | 'T' :: cs => some cs
  | 't' :: cs => some cs
  | c :: cs => if isBlank c then some (cs.dropWhile isBlank) else none
  | [] => none

-- A line feed at the very end of a text does not count for what it looks like.
def withoutFeed (cs : List Char) : List Char :=
  if cs.getLast? = some '\n' then cs.dropLast else cs

-- Takes a date, perhaps with a time, apart.
def stamp? (cs : List Char) : Option Stamp := do
  let (year, r) ← digitsBetween 4 4 (withoutFeed cs)
  let (month, r) ← digitsBetween 1 2 (← dropChar? '-' r)
  let (day, r) ← digitsBetween 1 2 (← dropChar? '-' r)
  if r.isEmpty then return ⟨year, month, day, none, [], none⟩
  let (hour, r) ← digitsBetween 1 2 (← stampGap? r)
  let (minute, r) ← digitsBetween 2 2 (← dropChar? ':' r)
  let (second, r) ← digitsBetween 2 2 (← dropChar? ':' r)
  let (fraction, r) := match r with
    | '.' :: s => (s.takeWhile Text.isAsciiDigit, s.dropWhile Text.isAsciiDigit)
    | _ => ([], r)
  let offset ← stampOffset? r
  return ⟨year, month, day, some (hour, minute, second), fraction, offset⟩

-- A date looks like one only with all its digits, unless a time follows.
def looksStamp (cs : List Char) : Bool :=
  match stamp? cs with
  | some s => s.clock.isSome || (s.month.length == 2 && s.day.length == 2)
  | none => false

-- The tag that a text looks like. Some signs look like the start of something else.
def Tag.ofText (text : String) : Tag :=
  let cs := withoutFeed text.toList
  let s := String.ofList cs
  if text == "\n" then .str
  else if isBoolWord s then .bool
  else if looksFloat cs then .float
  else if looksInt cs then .int
  else if s == "<<" then .merge
  else if isNullWord s then .null
  else if looksStamp cs then .timestamp
  else if s == "=" then .value
  else if ["!", "&", "*"].contains s then .other
  else .str

end Dialect.Yaml
