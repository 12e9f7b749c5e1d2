import Dialect.Yaml.Cursor

namespace Dialect.Yaml

open Scan

-- The character of an escape by letter.
def simpleEscape? : Char → Option Char
  | '0' => some '\x00'
  | 'a' => some '\x07'
  | 'b' => some '\x08'
  | 't' => some '\t'
  | '\t' => some '\t'
  | 'n' => some '\n'
  | 'v' => some '\x0b'
  | 'f' => some '\x0c'
  | 'r' => some '\r'
  | 'e' => some '\x1b'
  | ' ' => some ' '
  | '"' => some '"'
  | '\\' => some '\\'
  | '/' => some '/'
  | 'N' => some '\x85'
  | '_' => some '\xa0'
  | 'L' => some '\u2028'
  | 'P' => some '\u2029'
  | _ => none

-- How many hexadecimal digits an escape by number has.
def numberEscape? : Char → Option Nat
  | 'x' => some 2
  | 'u' => some 4
  | 'U' => some 8
  | _ => none

-- The character of a number, which may lie beyond all characters.
def charOf (n : Nat) : Except ReadFault Char :=
  if n < 0x110000 then .ok (Char.ofNat n)
  else if n < Number.twoTo 31 then
    .error (.refused (.content .value "chr() arg not in range(0x110000)"))
  else .error (.refused (.content .overflow "Python int too large to convert to C int"))

-- Breaks that follow a line break inside quotes, with blanks before them. A marker at the start
-- of a line ends the document, which cannot be inside quotes.
def quotedBreaks : (fuel : Nat) → List Char → Scan (List Char)
  | 0, acc => return acc
  | fuel + 1, acc => do
    if ← atMarker then malformed
    let _ ← takeWhile isBlank
    match ← lineBreak with
    | [] => return acc
    | b => quotedBreaks fuel (acc ++ b)

-- What a first line break and the breaks after it stand for: a single one becomes a space, of
-- several the first vanishes.
def folded (first breaks : List Char) : List Char :=
  if first != ['\n'] then first ++ breaks
  else if breaks.isEmpty then [' ']
  else breaks

-- Blanks or line breaks inside quotes.
def quotedSpaces : Scan (List Char) := do
  let blanks ← takeWhile isBlank
  if (← peek) == '\x00' then malformed
  match ← lineBreak with
  | [] => return blanks
  | b => return folded b (← quotedBreaks (← room) [])

-- An escape in double quotes, from behind its backslash.
def quotedEscape : Scan (List Char) := do
  let c ← peek
  match simpleEscape? c with
  | some x =>
    forward
    return [x]
  | none => match numberEscape? c with
    | some count =>
      forward
      let ds ← takeCount count
      match ds.mapM Text.hexDigit? with
      | some ns =>
        if ns.length = count then return [← charOf (Text.ofDigits 16 ns)] else malformed
      | none => malformed
    | none =>
      match ← lineBreak with
      | [] => malformed
      | _ => quotedBreaks (← room) []

-- Everything between quotes but blanks and line breaks.
def quotedChars (double : Bool) : (fuel : Nat) → List Char → Scan (List Char)
  | 0, acc => return acc
  | fuel + 1, acc => do
    let plain ← takeWhile fun c => !(c == '\'' || c == '"' || c == '\\' || isBlankOrEnd c)
    let acc := acc ++ plain
    let c ← peek
    if !double && c == '\'' && (← peekAt 1) == '\'' then
      skip 2
      quotedChars double fuel (acc ++ ['\''])
    else if (double && c == '\'') || (!double && (c == '"' || c == '\\')) then
      forward
      quotedChars double fuel (acc ++ [c])
    else if double && c == '\\' then
      forward
      quotedChars double fuel (acc ++ (← quotedEscape))
    else return acc

-- Runs of characters and of spaces up to the closing quote.
def quotedRuns (quote : Char) : (fuel : Nat) → List Char → Scan (List Char)
  | 0, _ => malformed
  | fuel + 1, acc => do
    if (← peek) == quote then
      forward
      return acc
    else
      let spaces ← quotedSpaces
      let chars ← quotedChars (quote == '"') (← room) []
      quotedRuns quote fuel (acc ++ spaces ++ chars)

-- A scalar in single or double quotes.
def quotedScalar : Scan (List Char) := do
  let quote ← peek
  forward
  let chars ← quotedChars (quote == '"') (← room) []
  quotedRuns quote (← room) chars

-- The length of a run of plain characters. A colon with a blank after it ends the run, and inside
-- brackets so do the characters that structure the collection.
def plainLength (flow : Bool) : List Char → Nat
  | [] => 0
  | c :: cs =>
    let next := cs.head?.getD '\x00'
    if isBlankOrEnd c then 0
    else if c == ':' && (isBlankOrEnd next
        || (flow && [',', '[', ']', '\x7b', '\x7d'].contains next))
    then 0
    else if flow && [',', '?', '[', ']', '\x7b', '\x7d'].contains c then 0
    else plainLength flow cs + 1

-- Line breaks and spaces after a first line break of a plain scalar, unless a marker comes.
def plainBreaks : (fuel : Nat) → List Char → Scan (Option (List Char))
  | 0, acc => return some acc
  | fuel + 1, acc => do
    if (← peek) == ' ' then
      forward
      plainBreaks fuel acc
    else match ← lineBreak with
      | [] => return some acc
      | b => if ← atMarker then return none else plainBreaks fuel (acc ++ b)

-- What stands between two runs of a plain scalar, nothing if the scalar ends there, and whether
-- a line ended.
def plainSpaces : Scan (List Char × Bool) := do
  let spaces ← takeWhile (· == ' ')
  match ← lineBreak with
  | [] => return (spaces, false)
  | b =>
    if ← atMarker then return ([], true)
    match ← plainBreaks (← room) [] with
    | none => return ([], true)
    | some breaks => return (folded b breaks, true)

-- Runs of plain characters; `spaces` came before the next one, `broke` tells whether a line ended
-- there.
def plainRuns (flow : Bool) (indent : Int) :
    (fuel : Nat) → (acc spaces : List Char) → (broke : Bool) → Scan (List Char × Bool)
  | 0, acc, _, broke => return (acc, broke)
  | fuel + 1, acc, spaces, broke => do
    if (← peek) == '#' then return (acc, broke)
    let run ← takeCount (plainLength flow (← get).rest)
    if run.isEmpty then return (acc, broke)
    let acc := acc ++ spaces ++ run
    let (spaces, broke) ← plainSpaces
    if spaces.isEmpty || (← peek) == '#' || (!flow && (← column) < indent) then
      return (acc, broke)
    else plainRuns flow indent fuel acc spaces broke

-- A plain scalar, and whether a line ended after it.
def plainScalar (flow : Bool) (indent : Int) : Scan (List Char × Bool) := do
  plainRuns flow indent (← room) [] [] false

-- What happens to the line breaks at the end of a block: one is kept, none or all.
inductive Chomping where
  | clip
  | strip
  | keep
deriving Repr, DecidableEq, Inhabited

def chomping? : Char → Option Chomping
  | '+' => some .keep
  | '-' => some .strip
  | _ => none

-- The indentation a block is written with, if a digit gives it.
def increment : Scan (Option Nat) := do
  match (Text.asciiDigit? (← peek)).filter (· < 10) with
  | some 0 => malformed
  | some d =>
    forward
    return some d
  | none => return none

-- The head of a block: a sign and a digit in either order.
def blockHead : Scan (Chomping × Option Nat) := do
  let head ← match chomping? (← peek) with
    | some ch => do
      forward
      pure (ch, ← increment)
    | none => do
      match ← increment with
      | none => pure (.clip, none)
      | some d => match chomping? (← peek) with
        | some ch =>
          forward
          pure (ch, some d)
        | none => pure (.clip, some d)
  require isSpaceOrEnd
  return head

-- Empty lines before the first line of a block, and the deepest column that their spaces reach.
def blockIndent : (fuel : Nat) → List Char → Nat → Scan (List Char × Nat)
  | 0, acc, deepest => return (acc, deepest)
  | fuel + 1, acc, deepest => do
    if (← peek) == ' ' then
      forward
      blockIndent fuel acc (max deepest (← column))
    else match ← lineBreak with
      | [] => return (acc, deepest)
      | b => blockIndent fuel (acc ++ b) deepest

-- Spaces up to a column.
def skipIndent (indent : Int) : (fuel : Nat) → Scan Unit
  | 0 => return ()
  | fuel + 1 => do
    if (← column) < indent && (← peek) == ' ' then
      forward
      skipIndent indent fuel

-- Empty lines in or after a block.
def blockBreaks (indent : Int) : (fuel : Nat) → List Char → Scan (List Char)
  | 0, acc => return acc
  | fuel + 1, acc => do
    skipIndent indent (← room)
    match ← lineBreak with
    | [] => return acc
    | b => blockBreaks indent fuel (acc ++ b)

-- Whether the next line still belongs to the block.
def inBlock (indent : Int) : Scan Bool := return (← column) == indent && (← peek) != '\x00'

-- The lines of a block. `breaks` are the empty lines before the next one; the result has the last
-- line break and the empty lines after it.
def blockLines (fold : Bool) (indent : Int) : (fuel : Nat) → (acc breaks : List Char) →
    Scan (List Char × List Char × List Char)
  | 0, acc, breaks => return (acc, [], breaks)
  | fuel + 1, acc, breaks => do
    let flush := !isBlank (← peek)
    let line ← takeWhile fun c => !isLineEnd c
    let acc := acc ++ breaks ++ line
    let b ← lineBreak
    let breaks ← blockBreaks indent (← room) []
    if ← inBlock indent then
      if fold && b == ['\n'] && flush && !isBlank (← peek) then
        blockLines fold indent fuel (if breaks.isEmpty then acc ++ [' '] else acc) breaks
      else blockLines fold indent fuel (acc ++ b) breaks
    else return (acc, b, breaks)

-- A block of lines. `outer` is the indentation of what it stands in.
def blockScalar (outer : Int) : Scan (List Char) := do
  let fold := (← peek) == '>'
  forward
  let (chomp, given) ← blockHead
  restOfLine
  let least := max (outer + 1) 1
  let (indent, breaks) ← match given with
    | some d => do
      let indent := least + d - 1
      pure (indent, ← blockBreaks indent (← room) [])
    | none => do
      let (breaks, deepest) ← blockIndent (← room) [] 0
      pure (max least (deepest : Int), breaks)
  let (body, last, after) ←
    if ← inBlock indent then blockLines fold indent (← room) [] breaks
    else pure ([], [], breaks)
  match chomp with
  | .clip => return body ++ last
  | .strip => return body
  | .keep => return body ++ last ++ after

end Dialect.Yaml
