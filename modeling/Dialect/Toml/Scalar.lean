import Dialect.Number.Decimal
import Dialect.ReadFault

namespace Dialect.Toml

def malformed {α : Type} : Except ReadFault α := .error .malformed

-- Control characters other than the tab.
def isControl (c : Char) : Bool := (c.toNat < 32 || c.toNat == 127) && c != '\t'

def isSpace (c : Char) : Bool := c == ' ' || c == '\t'

def isSpaceOrNewline (c : Char) : Bool := isSpace c || c == '\n'

-- The character of an escape with so many hexadecimal digits.
def hexChar (count : Nat) (cs : List Char) : Except ReadFault (Char × List Char) :=
  if cs.length < count then malformed
  else match (cs.take count).mapM Text.hexDigit? with
    | none => malformed
    | some ds =>
      let n := Text.ofDigits 16 ds
      if n < 0xD800 ∨ (0xE000 ≤ n ∧ n < 0x110000) then .ok (Char.ofNat n, cs.drop count)
      else malformed

-- The character of an escape by letter.
def simple? : Char → Option Char
  | 'b' => some '\x08'
  | 't' => some '\t'
  | 'n' => some '\n'
  | 'f' => some '\x0c'
  | 'r' => some '\r'
  | '"' => some '"'
  | '\\' => some '\\'
  | _ => none

-- What is left after an escaped line end: blanks up to it and all blank lines after it.
def joinLines (cs : List Char) : Except ReadFault (List Char) :=
  match cs.dropWhile isSpace with
  | [] => .ok []
  | '\n' :: r => .ok (r.dropWhile isSpaceOrNewline)
  | _ => malformed

-- An escape behind its backslash; an escaped line end stands for nothing.
def escape (multiline : Bool) : List Char → Except ReadFault (List Char × List Char)
  | [] => malformed
  | c :: cs =>
    if multiline && isSpaceOrNewline c then do return ([], ← joinLines (c :: cs))
    else if c = 'u' then do
      let (x, r) ← hexChar 4 cs
      return ([x], r)
    else if c = 'U' then do
      let (x, r) ← hexChar 8 cs
      return ([x], r)
    else match simple? c with
      | some x => .ok ([x], cs)
      | none => malformed

-- The rest of a text in double quotes; `acc` is what has been read, reversed.
def basic (multiline : Bool) : (fuel : Nat) → (acc : List Char) → List Char →
    Except ReadFault (List Char × List Char)
  | 0, _, _ => malformed
  | _ + 1, _, [] => malformed
  | fuel + 1, acc, c :: cs =>
    if c = '"' then
      if !multiline then .ok (acc.reverse, cs)
      else match cs with
        | '"' :: '"' :: r => .ok (acc.reverse, r)
        | _ => basic multiline fuel (c :: acc) cs
    else if c = '\\' then do
      let (x, r) ← escape multiline cs
      basic multiline fuel (x.reverse ++ acc) r
    else if isControl c && !(multiline && c == '\n') then malformed
    else basic multiline fuel (c :: acc) cs

-- The rest of a text in single quotes, which has no escapes.
def verbatim (cs : List Char) : Except ReadFault (List Char × List Char) :=
  let body := cs.takeWhile (· != '\'')
  match cs.drop body.length with
  | _ :: r => if body.any isControl then malformed else .ok (body, r)
  | [] => malformed

-- The rest of a text in three single quotes.
def verbatimLines (acc : List Char) : List Char → Except ReadFault (List Char × List Char)
  | [] => malformed
  | '\'' :: '\'' :: '\'' :: r => .ok (acc.reverse, r)
  | c :: cs => if isControl c && c != '\n' then malformed else verbatimLines (c :: acc) cs

-- Up to two more quotes right after the closing ones belong to the text.
def extraQuotes (quote : Char) (body : List Char) : List Char → List Char × List Char
  | a :: b :: r =>
    if a = quote then
      if b = quote then (body ++ [quote, quote], r) else (body ++ [quote], b :: r)
    else (body, a :: b :: r)
  | [a] => if a = quote then (body ++ [quote], []) else (body, [a])
  | [] => (body, [])

-- A line end right after the opening quotes does not count.
def dropNewline : List Char → List Char
  | '\n' :: r => r
  | cs => cs

-- A quoted text of any kind, from its first quote on.
def text? : List Char → Option (Except ReadFault (List Char × List Char))
  | '"' :: '"' :: '"' :: r => some do
    let (body, r) ← basic true (r.length + 1) [] (dropNewline r)
    return extraQuotes '"' body r
  | '"' :: r => some (basic false (r.length + 1) [] r)
  | '\'' :: '\'' :: '\'' :: r => some do
    let (body, r) ← verbatimLines [] (dropNewline r)
    return extraQuotes '\'' body r
  | '\'' :: r => some (verbatim r)
  | _ => none

-- So many digits, as a number.
def digits? (count : Nat) (cs : List Char) : Option (Nat × List Char) :=
  let ds := cs.take count
  if ds.length = count ∧ ds.all Text.isAsciiDigit then some (Number.natOf ds, cs.drop count)
  else none

-- So many digits whose number lies between two bounds.
def within? (count low high : Nat) (cs : List Char) : Option (Nat × List Char) :=
  match digits? count cs with
  | some (n, r) => if low ≤ n ∧ n ≤ high then some (n, r) else none
  | none => none

-- A character that must come next.
def expect? (c : Char) : List Char → Option (List Char)
  | d :: r => if d = c then some r else none
  | [] => none

-- Six digits after a point are the microseconds; more digits have no effect.
def micros (cs : List Char) : Nat × List Char :=
  match cs with
  | '.' :: r =>
    let ds := r.takeWhile Text.isAsciiDigit
    if ds.isEmpty then (0, cs)
    else (Number.natOf ((ds ++ List.replicate 6 '0').take 6), r.drop ds.length)
  | _ => (0, cs)

-- A time of day.
def clock? (cs : List Char) : Option (Clock × List Char) := do
  let (hour, r) ← within? 2 0 23 cs
  let (minute, r) ← within? 2 0 59 (← expect? ':' r)
  let (second, r) ← within? 2 0 59 (← expect? ':' r)
  let (micro, r) := micros r
  return (⟨hour, minute, second, micro⟩, r)

-- A date, whose day may not exist.
def date? (cs : List Char) : Option (Date × List Char) := do
  let (year, r) ← digits? 4 cs
  let (month, r) ← within? 2 1 12 (← expect? '-' r)
  let (day, r) ← within? 2 1 31 (← expect? '-' r)
  return (⟨year, month, day⟩, r)

-- An offset in seconds behind a time, if there is one.
def offset (cs : List Char) : Option Int × List Char :=
  match cs with
  | c :: r =>
    if c = 'Z' ∨ c = 'z' then (some 0, r)
    else if c = '+' ∨ c = '-' then
      let found := do
        let (hour, r) ← within? 2 0 23 r
        let (minute, r) ← within? 2 0 59 (← expect? ':' r)
        return (hour * 3600 + minute * 60, r)
      match found with
      | some (n, r) => (some (if c = '-' then -(n : Int) else n), r)
      | none => (none, cs)
    else (none, cs)
  | [] => (none, cs)

-- A time behind a date, if there is one.
def clockAfter? : List Char → Option (Clock × List Char)
  | c :: r => if c = 'T' ∨ c = 't' ∨ c = ' ' then clock? r else none
  | [] => none

-- A date, a date with a time, or a time.
def moment? (cs : List Char) : Option (Except ReadFault (Value × List Char)) :=
  match date? cs with
  | some (d, r) => some (match d.check with
    | .error _ => malformed
    | .ok _ => match clockAfter? r with
      | some (c, r) =>
        let (o, r) := offset r
        .ok (.datetime d c o, r)
      | none => .ok (.date d, r))
  | none => (clock? cs).map fun (c, r) => .ok (.time c, r)

-- Digits of a base with single underscores between them, and what is left.
def underscored (isDigit : Char → Bool) : List Char → List Char × List Char
  | '_' :: c :: cs =>
    if isDigit c then
      let (ds, r) := underscored isDigit cs
      (c :: ds, r)
    else ([], '_' :: c :: cs)
  | c :: cs =>
    if isDigit c then
      let (ds, r) := underscored isDigit cs
      (c :: ds, r)
    else ([], c :: cs)
  | [] => ([], [])

-- At least one digit, the first without an underscore before it.
def digitRun? (isDigit : Char → Bool) (cs : List Char) : Option (List Char × List Char) :=
  match cs with
  | c :: _ => if isDigit c then some (underscored isDigit cs) else none
  | [] => none

def isBaseDigit (base : Nat) (c : Char) : Bool :=
  match Text.hexDigit? c with
  | some d => d < base
  | none => false

-- The base that a letter after a zero announces.
def baseOf? : Char → Option Nat
  | 'x' => some 16
  | 'o' => some 8
  | 'b' => some 2
  | _ => none

-- A whole number in another base than ten.
def based? : List Char → Option (Nat × List Char)
  | '0' :: c :: cs => do
    let base ← baseOf? c
    let (ds, r) ← digitRun? (isBaseDigit base) cs
    return (Text.ofDigits base (ds.filterMap Text.hexDigit?), r)
  | _ => none

-- The digits before a point: no leading zeros.
def whole? (cs : List Char) : Option (List Char × List Char) :=
  match cs with
  | '0' :: r => some (['0'], r)
  | _ => digitRun? Text.isAsciiDigit cs

-- A point with digits behind it.
def fraction (cs : List Char) : Option (List Char) × List Char :=
  match cs with
  | '.' :: r => match digitRun? Text.isAsciiDigit r with
    | some (ds, r) => (some ds, r)
    | none => (none, cs)
  | _ => (none, cs)

-- An exponent with at least one digit.
def exponent (cs : List Char) : Option Int × List Char :=
  match cs with
  | c :: r =>
    if c = 'e' ∨ c = 'E' then
      let (negative, r) := Number.splitSign r
      match digitRun? Text.isAsciiDigit r with
      | some (ds, r) =>
        let n : Int := Number.natOf ds
        (some (if negative then -n else n), r)
      | none => (none, cs)
    else (none, cs)
  | [] => (none, cs)

-- A decimal number: with a fraction or an exponent a double, else a whole number.
def decimal? (cs : List Char) : Option (Except ReadFault (Value × List Char)) :=
  let (negative, body) := Number.splitSign cs
  (whole? body).map fun (ds, r) =>
    let (part, r) := fraction r
    let (e, r) := exponent r
    if part.isNone && e.isNone then
      if ds.length > digitLimit then .error (.refused (.number (.digitsRead ds.length)))
      else
        let n : Int := Number.natOf ds
        .ok (.int (if negative then -n else n), r)
    else
      let places := part.getD []
      .ok (.float (Number.ofDecimal negative (Number.natOf (ds ++ places))
        (e.getD 0 - places.length)), r)

-- The words for truth and for the doubles that have no digits.
def words : List (String × Value) := [("true", .bool true), ("false", .bool false),
  ("inf", .float Number.infinity), ("nan", .nan 3), ("-inf", .float (-Number.infinity)),
  ("+inf", .float Number.infinity), ("-nan", .nan 3), ("+nan", .nan 3)]

def word? (cs : List Char) : Option (Value × List Char) :=
  words.findSome? fun (w, v) =>
    if w.toList.isPrefixOf cs then some (v, cs.drop w.length) else none

-- Any scalar at the start of a text.
def scalar (cs : List Char) : Except ReadFault (Value × List Char) :=
  match text? cs with
  | some r => do
    let (body, r) ← r
    return (.str (String.ofList body), r)
  | none => match moment? cs with
    | some r => r
    | none => match based? cs with
      | some (n, r) => .ok (.int n, r)
      | none => match decimal? cs with
        | some r => r
        | none => match word? cs with
          | some found => .ok found
          | none => malformed

end Dialect.Toml
