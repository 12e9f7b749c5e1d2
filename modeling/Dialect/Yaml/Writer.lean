import Dialect.Plain
import Dialect.Yaml.Style

namespace Dialect.Yaml

-- A page that is being written.
structure Page where
  text : String
  column : Nat
  -- whether a blank or nothing came last
  whitespace : Bool
  -- whether the line has only indentation and indicators so far
  indention : Bool
deriving Inhabited

abbrev Write := StateM Page

-- Lines may be longer than this only where they cannot be broken.
def width : Nat := 80

namespace Write

def put (s : String) : Write Unit :=
  modify fun p => { p with text := p.text ++ s, column := p.column + s.length }

def lineBreak (s : String) : Write Unit :=
  modify fun p => ⟨p.text ++ s, 0, true, true⟩

-- Goes to a column, on a new line unless this one has nothing else yet.
def indentTo (column : Nat) : Write Unit := do
  let p ← get
  if !p.indention || p.column > column || (p.column == column && !p.whitespace) then lineBreak "\n"
  let p ← get
  if p.column < column then
    put (String.ofList (List.replicate (column - p.column) ' '))
    modify fun p => { p with whitespace := true }

def flags (whitespace indention : Bool) : Write Unit :=
  modify fun p => { p with whitespace, indention }

-- An indicator, with a space before it where one is needed.
def indicator (s : String) (apart whitespace indention : Bool) : Write Unit := do
  let p ← get
  put (if p.whitespace || !apart then s else " " ++ s)
  flags whitespace (p.indention && indention)

-- A run of characters that stay together, of spaces, or of line breaks.
inductive Run where
  | chars (cs : List Char)
  | spaces (n : Nat)
  | breaks (cs : List Char)

-- Adds a character to the run it belongs to.
def addTo (c : Char) (runs : List Run) : List Run :=
  if c == ' ' then
    match runs with
    | .spaces n :: rest => .spaces (n + 1) :: rest
    | rest => .spaces 1 :: rest
  else if isWrittenBreak c then
    match runs with
    | .breaks cs :: rest => .breaks (c :: cs) :: rest
    | rest => .breaks [c] :: rest
  else
    match runs with
    | .chars cs :: rest => .chars (c :: cs) :: rest
    | rest => .chars [c] :: rest

def runs (cs : List Char) : List Run := cs.foldr addTo []

def spacesText (n : Nat) : String := String.ofList (List.replicate n ' ')

-- Plain text; a single space may become a line break.
def plainRuns (split : Bool) (indent : Nat) : List Run → Write Unit
  | [] => return ()
  | r :: rest => do
    match r with
    | .chars cs => put (String.ofList cs)
    | .breaks cs => put (String.ofList cs)
    | .spaces n =>
      if n == 1 && (← get).column > width && split then
        indentTo indent
        flags false false
      else put (spacesText n)
    plainRuns split indent rest

def plain (split : Bool) (indent : Nat) (cs : List Char) : Write Unit := do
  unless cs.isEmpty do
    unless (← get).whitespace do put " "
    flags false false
    plainRuns split indent (runs cs)

-- Inside single quotes a quote is written twice.
def doubled (cs : List Char) : String :=
  String.join (cs.map fun c => if c = '\'' then "''" else String.ofList [c])

-- Line breaks in single quotes: one more than there are, each on its own.
def writtenBreaks (cs : List Char) : List String :=
  (if cs.head? == some '\n' then ["\n"] else []) ++ cs.map fun c => String.ofList [c]

-- Text in single quotes; a single space inside may become a line break.
def singleRuns (split : Bool) (indent : Nat) : (first : Bool) → List Run → Write Unit
  | _, [] => return ()
  | first, r :: rest => do
    match r with
    | .chars cs => put (doubled cs)
    | .breaks cs =>
      for b in writtenBreaks cs do lineBreak b
      indentTo indent
    | .spaces n =>
      if n == 1 && (← get).column > width && split && !first && !rest.isEmpty then indentTo indent
      else put (spacesText n)
    singleRuns split indent false rest

def single (split : Bool) (indent : Nat) (cs : List Char) : Write Unit := do
  indicator "'" true false false
  singleRuns split indent true (runs cs)
  indicator "'" false false false

-- Escapes by letter.
def letterEscape? : Char → Option Char
  | '\x00' => some '0'
  | '\x07' => some 'a'
  | '\x08' => some 'b'
  | '\t' => some 't'
  | '\n' => some 'n'
  | '\x0b' => some 'v'
  | '\x0c' => some 'f'
  | '\r' => some 'r'
  | '\x1b' => some 'e'
  | '"' => some '"'
  | '\\' => some '\\'
  | '\x85' => some 'N'
  | '\xa0' => some '_'
  | '\u2028' => some 'L'
  | '\u2029' => some 'P'
  | _ => none

def upperHex (digits n : Nat) : String :=
  String.ofList ((Text.hexPadded digits n).toList.map Char.toUpper)

-- The escape of a character.
def escaped (c : Char) : String :=
  match letterEscape? c with
  | some l => String.ofList ['\\', l]
  | none =>
    let n := c.toNat
    if n ≤ 0xFF then "\\x" ++ upperHex 2 n
    else if n ≤ 0xFFFF then "\\u" ++ upperHex 4 n
    else "\\U" ++ upperHex 8 n

def isVerbatim (c : Char) : Bool := 0x20 ≤ c.toNat && c.toNat ≤ 0x7E && c != '"' && c != '\\'

-- Text in double quotes. `held` are characters that are not written yet, reversed; `inside`
-- tells whether a character came before. Lines are broken after a backslash, before a space or
-- after an escape.
def doubleChars (split : Bool) (indent : Nat) : (inside : Bool) → (held : List Char) → List Char →
    Write Unit
  | _, held, [] => put (String.ofList held.reverse)
  | inside, held, c :: cs => do
    let mut waiting := held
    let mut escapedNow := false
    if !isVerbatim c then
      put (String.ofList held.reverse)
      put (escaped c)
      waiting := []
      escapedNow := true
    let column := (← get).column
    let full := if escapedNow then column > width + 1 else column + waiting.length > width
    if inside && !cs.isEmpty && (c == ' ' || escapedNow || waiting.isEmpty) && full && split then
      put (String.ofList waiting.reverse ++ "\\")
      waiting := []
      indentTo indent
      flags false false
      let next := if escapedNow then cs.head? else some c
      if next == some ' ' then put "\\"
    doubleChars split indent true (if escapedNow then waiting else c :: waiting) cs

def double (split : Bool) (indent : Nat) (cs : List Char) : Write Unit := do
  indicator "\"" true false false
  doubleChars split indent false [] cs
  indicator "\"" false false false

-- A scalar in its style.
def scalar (style : Style) (split : Bool) (indent : Nat) (cs : List Char) : Write Unit :=
  match style with
  | .plain => plain split indent cs
  | .single => single split indent cs
  | .double => double split indent cs

end Write

-- Doubles always have a point, and words for those without digits.
def floatText (x : Float) : String :=
  if x.isNaN then ".nan"
  else if x == Number.infinity then ".inf"
  else if x == -Number.infinity then "-.inf"
  else
    let cs := (Number.floatText x).toList
    if cs.contains '.' then String.ofList cs
    else String.ofList (cs.flatMap fun c => if c = 'e' then ['.', '0', 'e'] else [c])

-- The text of a scalar and whether that text alone reads as the scalar.
def scalarText? : Plain → Option (String × Bool)
  | .null => some ("null", true)
  | .bool true => some ("true", true)
  | .bool false => some ("false", true)
  | .int n => some (intText n, true)
  | .float x => some (floatText x, true)
  | .str s => some (s, Tag.ofText s == .str)
  | _ => none

-- Where a node stands: alone, in a sequence, in a mapping, or as a key with its value on the
-- same line.
inductive Context where
  | root
  | member
  | entry
  | simpleKey
deriving Repr, DecidableEq, Inhabited

open Write in
def writeScalar (indent : Option Nat) (ctx : Context) (text : String) (own : Bool) :
    Write Unit := do
  let cs := text.toList
  let simple := ctx == .simpleKey
  let inner := match indent with
    | none => 2
    | some n => n + 2
  scalar (chooseStyle own simple (shape cs)) (!simple) inner cs

-- Whether a key can stand on one line with its value.
def isSimpleKey (key : String) : Bool :=
  let s := shape key.toList
  key.length + 5 < 128 && !s.empty && !s.multiline

open Write in
mutual

-- Writes a node that stands at an indentation.
def writeNode (indent : Option Nat) (ctx : Context) : Plain → Write Unit
  | .list [] => do
    indicator "[" true true false
    indicator "]" false false false
  | .object [] => do
    indicator "\x7b" true true false
    indicator "\x7d" false false false
  | .list (p :: ps) => do
    let aligned := ctx == .entry && !(← get).indention
    let inner := match indent with
      | none => 0
      | some n => if aligned then n else n + 2
    writeItems inner (p :: ps)
  | .object (e :: es) => writeEntries ((indent.map (· + 2)).getD 0) (e :: es)
  | p => match scalarText? p with
    | some (text, own) => writeScalar indent ctx text own
    | none => return ()

def writeItems (indent : Nat) : List Plain → Write Unit
  | [] => return ()
  | p :: ps => do
    indentTo indent
    indicator "-" true false true
    writeNode (some indent) .member p
    writeItems indent ps

def writeEntries (indent : Nat) : List (String × Plain) → Write Unit
  | [] => return ()
  | (k, p) :: es => do
    indentTo indent
    let own := Tag.ofText k == .str
    if isSimpleKey k then
      writeScalar (some indent) .simpleKey k own
      indicator ":" false false false
    else
      indicator "?" true false true
      writeScalar (some indent) .entry k own
      indentTo indent
      indicator ":" true false true
    writeNode (some indent) .entry p
    writeEntries indent es

end

-- Whether a document is a plain scalar, whose end has to be marked.
def isOpenEnded (p : Plain) : Bool :=
  match scalarText? p with
  | some (text, own) => chooseStyle own false (shape text.toList) == .plain
  | none => false

open Write in
-- Writes a whole document, in blocks with two spaces of indentation. Scalars are broken at spaces
-- once a line is longer than eighty characters. Keys of more than one line, empty and very long
-- ones are marked with a question mark.
def write (p : Plain) : String :=
  let act : Write Unit := do
    writeNode none .root p
    indentTo 0
    if isOpenEnded p then
      indicator "..." true false false
      indentTo 0
  (act.run ⟨"", 0, true, true⟩).2.text

end Dialect.Yaml
