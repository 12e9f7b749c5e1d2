import Dialect.Yaml.Token

namespace Dialect.Yaml

-- A place where a key may have started: a word may turn out to be a key only when a colon follows
-- it, and the key token is put there then. A required key must be one: it stands where the entries
-- of its block start.
structure KeyPlace where
  -- how many tokens came before it
  position : Nat
  required : Bool
  index : Nat
  line : Nat
  column : Nat
deriving Inhabited

structure Lexer where
  cursor : Cursor
  -- the newest token first
  tokens : List Token
  -- how many brackets are open
  flowLevel : Nat
  indent : Int
  -- the indentations of the blocks around
  indents : List Int
  -- whether a key may start here
  allowKey : Bool
  -- at most one place for each level of brackets
  keys : List (Nat × KeyPlace)
deriving Inhabited

abbrev Lex := StateT Lexer (Except ReadFault)

namespace Lex

def malformed {α : Type} : Lex α := throw .malformed

def scan {α : Type} (act : Scan α) : Lex α := fun s => do
  let (a, c) ← act s.cursor
  return (a, { s with cursor := c })

def peek : Lex Char := return (← get).cursor.peek

def peekAt (k : Nat) : Lex Char := return (← get).cursor.peekAt k

def emit (t : Token) : Lex Unit := modify fun s => { s with tokens := t :: s.tokens }

def inFlow : Lex Bool := return (← get).flowLevel != 0

def setAllowKey (b : Bool) : Lex Unit := modify fun s => { s with allowKey := b }

def column : Lex Nat := return (← get).cursor.column

-- Puts a token where so many tokens come before it.
def insertAt (position : Nat) (t : Token) : Lex Unit := modify fun s =>
  let later := s.tokens.length - position
  { s with tokens := s.tokens.take later ++ t :: s.tokens.drop later }

-- Forgets places for keys that are on an earlier line or too far back.
def dropStale : Lex Unit := do
  let s ← get
  let stale (k : KeyPlace) : Bool :=
    k.line != s.cursor.line || s.cursor.index - k.index > 1024
  if s.keys.any fun e => stale e.2 && e.2.required then malformed
  set { s with keys := s.keys.filter fun e => !stale e.2 }

def keyHere? : Lex (Option KeyPlace) := do
  let s ← get
  return (s.keys.find? fun e => e.1 == s.flowLevel).map (·.2)

def forgetKey : Lex Unit :=
  modify fun s => { s with keys := s.keys.filter fun e => e.1 != s.flowLevel }

-- Gives up the place for a key at this level.
def removeKey : Lex Unit := do
  if (← keyHere?).any (·.required) then malformed
  forgetKey

-- Remembers this place as one where a key may start.
def saveKey : Lex Unit := do
  let s ← get
  if s.allowKey then
    removeKey
    let c := s.cursor
    let required := s.flowLevel == 0 && s.indent == (c.column : Int)
    let place : KeyPlace := ⟨s.tokens.length, required, c.index, c.line, c.column⟩
    modify fun s => { s with keys := s.keys ++ [(s.flowLevel, place)] }

-- Closes blocks that are indented deeper than a column.
def closeBlocks (column : Int) : List Int → Int → List Token → List Int × Int × List Token
  | [], indent, tokens => ([], indent, tokens)
  | outer :: indents, indent, tokens =>
    if indent > column then closeBlocks column indents outer (.blockEnd :: tokens)
    else (outer :: indents, indent, tokens)

-- Closes blocks up to a column; inside brackets indentation does not count.
def unwind (column : Int) : Lex Unit := do
  let s ← get
  if s.flowLevel == 0 then
    let (indents, indent, tokens) := closeBlocks column s.indents s.indent s.tokens
    set { s with indents, indent, tokens }

-- Starts a block at a column, unless there is one.
def startBlock (column : Nat) : Lex Bool := do
  let s ← get
  if s.indent < (column : Int) then
    set { s with indents := s.indent :: s.indents, indent := column }
    return true
  else return false

-- Spaces, comments and line breaks; after a line break outside of brackets a key may start.
def skipBlank : (fuel : Nat) → Lex Unit
  | 0 => return ()
  | fuel + 1 => do
    let _ ← scan (Scan.takeWhile (· == ' '))
    if (← peek) == '#' then
      let _ ← scan (Scan.takeWhile fun c => !isLineEnd c)
    match ← scan Scan.lineBreak with
    | [] => return ()
    | _ =>
      unless ← inFlow do setAllowKey true
      skipBlank fuel

def toNextToken : Lex Unit := do
  if (← get).cursor.index == 0 && (← peek) == '\ufeff' then scan Scan.forward
  skipBlank (← scan Scan.room)

-- A token at the top of the text, which closes all blocks.
def outermost (act : Lex Token) : Lex Unit := do
  unwind (-1)
  removeKey
  setAllowKey false
  emit (← act)

def flowStart (t : Token) : Lex Unit := do
  saveKey
  modify fun s => { s with flowLevel := s.flowLevel + 1, allowKey := true }
  scan Scan.forward
  emit t

def flowEnd (t : Token) : Lex Unit := do
  removeKey
  if (← get).flowLevel == 0 then malformed
  modify fun s => { s with flowLevel := s.flowLevel - 1, allowKey := false }
  scan Scan.forward
  emit t

def flowEntry : Lex Unit := do
  setAllowKey true
  removeKey
  scan Scan.forward
  emit .flowEntry

-- The start of an entry or of a key that is marked as one.
def blockItem (opening item : Token) (thenKey : Bool) : Lex Unit := do
  unless ← inFlow do
    unless (← get).allowKey do malformed
    if ← startBlock (← column) then emit opening
  setAllowKey thenKey
  removeKey
  scan Scan.forward
  emit item

-- A colon: what came before it on the line may now be known as a key.
def mapValue : Lex Unit := do
  match ← keyHere? with
  | some place =>
    forgetKey
    insertAt place.position .key
    unless ← inFlow do
      if ← startBlock place.column then insertAt place.position .blockMappingStart
    setAllowKey false
    scan Scan.forward
    emit .value
  | none =>
    blockItem .blockMappingStart .value !(← inFlow)

-- A token that may start a key.
def keyStart (act : Lex Token) : Lex Unit := do
  saveKey
  setAllowKey false
  emit (← act)

def blockText : Lex Unit := do
  setAllowKey true
  removeKey
  let text ← scan (blockScalar (← get).indent)
  emit (.scalar (String.ofList text) false)

def quotedText : Lex Token := do
  return .scalar (String.ofList (← scan quotedScalar)) false

def plainText : Lex Token := do
  let (text, broke) ← scan (plainScalar (← inFlow) ((← get).indent + 1))
  if broke then setAllowKey true
  return .scalar (String.ofList text) true

-- Characters that no plain scalar starts with.
def indicators : List Char := "-?:,[]\x7b\x7d#&*!|>'\"%@\x60".toList

-- Whether a plain scalar starts here. Three of the indicators can start one if no blank follows
-- them, two of these only outside of brackets.
def startsPlain (flow : Bool) (c next : Char) : Bool :=
  !(isBlankOrEnd c || indicators.contains c)
    || (!isBlankOrEnd next && (c == '-' || (!flow && (c == '?' || c == ':'))))

-- The next token, and whether it was the last.
def step : Lex Bool := do
  toNextToken
  dropStale
  unwind (← column)
  let c ← peek
  let next ← peekAt 1
  let flow ← inFlow
  let marker := (← column) == 0 && (← scan Scan.atMarker)
  if c == '\x00' then
    outermost (pure .streamEnd)
    return true
  if c == '%' && (← column) == 0 then outermost (scan directiveToken)
  else if c == '-' && marker then
    outermost do
      scan (Scan.skip 3)
      return .documentStart
  else if c == '.' && marker then
    outermost do
      scan (Scan.skip 3)
      return .documentEnd
  else if c == '[' then flowStart .flowSequenceStart
  else if c == '\x7b' then flowStart .flowMappingStart
  else if c == ']' then flowEnd .flowSequenceEnd
  else if c == '\x7d' then flowEnd .flowMappingEnd
  else if c == ',' then flowEntry
  else if c == '-' && isBlankOrEnd next then blockItem .blockSequenceStart .blockEntry true
  else if c == '?' && (flow || isBlankOrEnd next) then blockItem .blockMappingStart .key !flow
  else if c == ':' && (flow || isBlankOrEnd next) then mapValue
  else if c == '*' then keyStart (.alias <$> scan anchorName)
  else if c == '&' then keyStart (.anchor <$> scan anchorName)
  else if c == '!' then keyStart (scan tagToken)
  else if (c == '|' || c == '>') && !flow then blockText
  else if c == '\'' || c == '"' then keyStart quotedText
  else if startsPlain flow c next then keyStart plainText
  else malformed
  return false

end Lex

-- How many tokens are certain: none from the first place on where a key may still be put.
def Lexer.certain (s : Lexer) : Nat :=
  match Lex.dropStale s with
  | .ok (_, s) => s.keys.foldl (fun n e => min n e.2.position) s.tokens.length
  | .error _ => s.tokens.length

-- All tokens from a state on. Something that cannot be built ends them, and takes the tokens with
-- it that were not certain yet.
def tokensFrom : (fuel : Nat) → Lexer → Except ReadFault (List Token)
  | 0, _ => .error .malformed
  | fuel + 1, s => match Lex.step s with
    | .ok (true, s') => .ok s'.tokens.reverse
    | .ok (false, s') => tokensFrom fuel s'
    | .error .malformed => .error .malformed
    | .error (.refused e) => .ok (s.tokens.reverse.take s.certain ++ [.broken e])

-- The tokens of a text.
def tokens (cs : List Char) : Except ReadFault (List Token) :=
  if cs.all isAllowed then
    tokensFrom (cs.length + 2) ⟨Cursor.start cs, [], 0, -1, [], true, []⟩
  else .error .malformed

end Dialect.Yaml
