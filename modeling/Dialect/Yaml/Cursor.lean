import Dialect.ReadFault

namespace Dialect.Yaml

-- The characters that a text may have.
def isAllowed (c : Char) : Bool :=
  let n := c.toNat
  c == '\t' || c == '\n' || c == '\r' || (0x20 ≤ n && n ≤ 0x7E) || n == 0x85
    || (0xA0 ≤ n && n ≤ 0xD7FF) || (0xE000 ≤ n && n ≤ 0xFFFD) || 0x10000 ≤ n

def isBreak (c : Char) : Bool :=
  c == '\r' || c == '\n' || c == '\x85' || c == '\u2028' || c == '\u2029'

-- A line break or the end of the text.
def isLineEnd (c : Char) : Bool := c == '\x00' || isBreak c

def isSpaceOrEnd (c : Char) : Bool := c == ' ' || isLineEnd c

def isBlankOrEnd (c : Char) : Bool := c == '\t' || isSpaceOrEnd c

def isBlank (c : Char) : Bool := c == ' ' || c == '\t'

-- Letters, digits, hyphens and underscores make names.
def isWordChar (c : Char) : Bool := c.isAlphanum || c == '-' || c == '_'

-- A place in a text: what is left, and how far it is from the start of the text and of its line.
-- The end of the text reads as the null character, which no text contains.
structure Cursor where
  rest : List Char
  index : Nat
  line : Nat
  column : Nat
deriving Inhabited

namespace Cursor

def start (cs : List Char) : Cursor := ⟨cs, 0, 0, 0⟩

def peekAt (c : Cursor) (k : Nat) : Char := c.rest[k]?.getD '\x00'

def peek (c : Cursor) : Char := c.rest.head?.getD '\x00'

-- One character on. A carriage return before a line feed does not end the line, and a byte order
-- mark takes no room.
def forward (c : Cursor) : Cursor :=
  match c.rest with
  | [] => c
  | x :: rest =>
    if x == '\n' || x == '\x85' || x == '\u2028' || x == '\u2029'
        || (x == '\r' && rest.head? != some '\n') then
      ⟨rest, c.index + 1, c.line + 1, 0⟩
    else ⟨rest, c.index + 1, c.line, if x == '\ufeff' then c.column else c.column + 1⟩

def skip : Nat → Cursor → Cursor
  | 0, c => c
  | n + 1, c => skip n c.forward

end Cursor

-- Work that reads on in a text.
abbrev Scan := StateT Cursor (Except ReadFault)

namespace Scan

def malformed {α : Type} : Scan α := throw .malformed

def peek : Scan Char := return (← get).peek

def peekAt (k : Nat) : Scan Char := return (← get).peekAt k

def forward : Scan Unit := modify Cursor.forward

def skip (n : Nat) : Scan Unit := modify (Cursor.skip n)

-- The characters of a class that come next.
def takeWhile (p : Char → Bool) : Scan (List Char) := do
  let cs := (← get).rest.takeWhile p
  skip cs.length
  return cs

-- So many characters.
def takeCount (n : Nat) : Scan (List Char) := do
  let cs := (← get).rest.take n
  skip n
  return cs

def column : Scan Nat := return (← get).column

-- How often a loop over what is left can go on at most.
def room : Scan Nat := return (← get).rest.length + 1

-- A line break, if one comes next: two characters may be one break, and most of them count as a
-- line feed.
def lineBreak : Scan (List Char) := do
  let c ← peek
  if c == '\r' && (← peekAt 1) == '\n' then
    skip 2
    return ['\n']
  else if c == '\r' || c == '\n' || c == '\x85' then
    forward
    return ['\n']
  else if c == '\u2028' || c == '\u2029' then
    forward
    return [c]
  else return []

-- Whether three hyphens or three points that stand alone come next.
def atMarker : Scan Bool := do
  let three := (← get).rest.take 3
  return (three == ['-', '-', '-'] || three == ['.', '.', '.']) && isBlankOrEnd (← peekAt 3)

-- Requires that the next character is of a class.
def require (p : Char → Bool) : Scan Unit := do
  unless p (← peek) do malformed

-- Spaces, perhaps a comment, and the end of the line.
def restOfLine : Scan Unit := do
  let _ ← takeWhile (· == ' ')
  if (← peek) == '#' then
    let _ ← takeWhile fun c => !isLineEnd c
  require isLineEnd
  let _ ← lineBreak

end Scan

end Dialect.Yaml
