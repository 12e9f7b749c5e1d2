import Dialect.Toml.Scalar
import Dialect.Toml.Table

namespace Dialect.Toml

def isBareChar (c : Char) : Bool := c.isAlphanum || c == '-' || c == '_'

-- One part of a key: bare or quoted in one line.
def keyPart (cs : List Char) : Except ReadFault (String × List Char) :=
  match cs with
  | '"' :: r => do
    let (s, r) ← basic false (r.length + 1) [] r
    return (String.ofList s, r)
  | '\'' :: r => do
    let (s, r) ← verbatim r
    return (String.ofList s, r)
  | _ =>
    let s := cs.takeWhile isBareChar
    if s.isEmpty then malformed else .ok (String.ofList s, cs.drop s.length)

-- A key: parts with points between them and blanks around these.
def key : (fuel : Nat) → List Char → Except ReadFault (Key × List Char)
  | 0, _ => malformed
  | fuel + 1, cs => do
    let (part, r) ← keyPart cs
    match r.dropWhile isSpace with
    | '.' :: r =>
      let (parts, r) ← key fuel (r.dropWhile isSpace)
      return (part :: parts, r)
    | r => return ([part], r)

def keyOf (cs : List Char) : Except ReadFault (Key × List Char) := key (cs.length + 1) cs

-- What is left after a comment, which has no control characters.
def skipComment (cs : List Char) : Except ReadFault (List Char) :=
  match cs with
  | '#' :: r =>
    let body := r.takeWhile (· != '\n')
    if body.any isControl then malformed else .ok (r.drop body.length)
  | cs => .ok cs

-- What is left after blanks, line ends and comments.
def skipAll : (fuel : Nat) → List Char → Except ReadFault (List Char)
  | 0, cs => .ok cs
  | fuel + 1, cs => do
    match cs.dropWhile isSpaceOrNewline with
    | '#' :: r => skipAll fuel (← skipComment ('#' :: r))
    | r => return r

def skipLines (cs : List Char) : Except ReadFault (List Char) := skipAll (cs.length + 1) cs

-- Splits off the last part of a key.
def splitLast (k : Key) : Key × String := (k.dropLast, k.getLast?.getD "")

mutual

-- The value at the start of a text.
def value : (fuel : Nat) → List Char → Except ReadFault (Value × List Char)
  | 0, _ => malformed
  | fuel + 1, cs => match cs with
    | '[' :: r => do
      match ← skipLines r with
      | ']' :: r => return (.list [], r)
      | r => elements fuel [] r
    | '\x7b' :: r => match r.dropWhile isSpace with
      | '\x7d' :: r => .ok (.map [], r)
      | r => inlineEntries fuel [] .empty r
    | cs => scalar cs

-- Members up to the closing bracket, gathered in reverse; a comma may follow the last.
def elements : (fuel : Nat) → List Value → List Char → Except ReadFault (Value × List Char)
  | 0, _, _ => malformed
  | fuel + 1, acc, cs => do
    let (v, r) ← value fuel cs
    match ← skipLines r with
    | ']' :: r => return (.list (v :: acc).reverse, r)
    | ',' :: r =>
      match ← skipLines r with
      | ']' :: r => return (.list (v :: acc).reverse, r)
      | r => elements fuel (v :: acc) r
    | _ => malformed

-- Entries of an inline table up to the closing brace.
def inlineEntries : (fuel : Nat) → Entries → Closed → List Char →
    Except ReadFault (Value × List Char)
  | 0, _, _, _ => malformed
  | fuel + 1, es, closed, cs => do
    let (k, v, r) ← pair fuel cs
    if closed.isInline k then malformed
    else
      let (path, name) := splitLast k
      let es ← update false (setNew name v) path es
      match r.dropWhile isSpace with
      | '\x7d' :: r => return (.map es, r)
      | ',' :: r =>
        inlineEntries fuel es (if isNested v then closed.addInline k else closed)
          (r.dropWhile isSpace)
      | _ => malformed

-- A key, an equals sign and a value.
def pair : (fuel : Nat) → List Char → Except ReadFault (Key × Value × List Char)
  | 0, _ => malformed
  | fuel + 1, cs => do
    let (k, r) ← keyOf cs
    match r with
    | '=' :: r =>
      let (v, r) ← value fuel (r.dropWhile isSpace)
      return (k, v, r)
    | _ => malformed

end

-- A document while it is being read: what it holds, what is closed, the tables that are closed
-- as soon as the next head comes, and the key of the current table.
structure Draft where
  entries : Entries
  closed : Closed
  pending : List Key
  head : Key

namespace Draft

def empty : Draft := ⟨[], .empty, [], []⟩

-- Closes the tables that keys of several parts have made.
def settle (d : Draft) : Draft :=
  { d with closed := d.pending.foldl Closed.declare d.closed, pending := [] }

-- The keys of the tables between the current one and an entry.
def between (head k : Key) : List Key :=
  (List.range (k.length - 1)).map fun i => head ++ k.take (i + 1)

-- Adds an entry to the current table.
def put (d : Draft) (k : Key) (v : Value) : Except ReadFault Draft := do
  let tables := between d.head k
  let (path, name) := splitLast k
  if tables.any d.closed.isDeclared then malformed
  else if d.closed.isInline (d.head ++ path) then malformed
  else
    let entries ← update true (setNew name v) (d.head ++ path) d.entries
    return { d with
      entries
      pending := d.pending ++ tables
      closed := if isNested v then d.closed.addInline (d.head ++ k) else d.closed }

-- Starts a table.
def startTable (d : Draft) (k : Key) : Except ReadFault Draft := do
  if d.closed.isDeclared k || d.closed.isInline k then malformed
  else return { d with
    entries := ← update true .ok k d.entries
    closed := d.closed.declare k
    head := k }

-- Starts another table of a list.
def startListed (d : Draft) (k : Key) : Except ReadFault Draft := do
  if d.closed.isInline k then malformed
  else
    let (path, name) := splitLast k
    return { d with
      entries := ← update true (appendTable name) path d.entries
      closed := (d.closed.release k).declare k
      head := k }

end Draft

-- Reads one statement; what is left starts behind it.
def statement (d : Draft) (cs : List Char) : Except ReadFault (Draft × List Char) :=
  match cs with
  | '[' :: '[' :: r => do
    let (k, r) ← keyOf (r.dropWhile isSpace)
    let d ← d.settle.startListed k
    match r with
    | ']' :: ']' :: r => return (d, r)
    | _ => malformed
  | '[' :: r => do
    let (k, r) ← keyOf (r.dropWhile isSpace)
    let d ← d.settle.startTable k
    match r with
    | ']' :: r => return (d, r)
    | _ => malformed
  | c :: r =>
    if isBareChar c || c == '"' || c == '\'' then do
      let (k, v, r) ← pair (r.length + 2) (c :: r)
      return (← d.put k v, r)
    else if c = '#' then .ok (d, c :: r)
    else malformed
  | [] => .ok (d, [])

-- Reads statements up to the end.
def statements : (fuel : Nat) → Draft → List Char → Except ReadFault Draft
  | 0, d, _ => .ok d
  | fuel + 1, d, cs => do
    match cs.dropWhile isSpace with
    | [] => return d
    | '\n' :: r => statements fuel d r
    | r =>
      let (d, r) ← statement d r
      match ← skipComment (r.dropWhile isSpace) with
      | [] => return d
      | '\n' :: r => statements fuel d r
      | _ => malformed

-- A line may also end with a carriage return.
def plainLines : List Char → List Char
  | '\r' :: '\n' :: cs => '\n' :: plainLines cs
  | c :: cs => c :: plainLines cs
  | [] => []

-- The table that a whole text describes.
def read (s : String) : Except ReadFault Value := do
  let cs := plainLines s.toList
  let d ← statements (cs.length + 1) .empty cs
  return .map d.entries

end Dialect.Toml
