import Dialect.Text.Utf8
import Dialect.Yaml.Scalar

namespace Dialect.Yaml

open Scan

inductive Token where
  | version (major : Nat)
  | tagHandle (handle start : String)
  | otherDirective
  | documentStart
  | documentEnd
  | blockSequenceStart
  | blockMappingStart
  | blockEnd
  | flowSequenceStart
  | flowSequenceEnd
  | flowMappingStart
  | flowMappingEnd
  | blockEntry
  | flowEntry
  | key
  | value
  | alias (name : String)
  | anchor (name : String)
  -- a tag without a handle is verbatim
  | tag (handle : Option String) (suffix : String)
  | scalar (text : String) (plain : Bool)
  | streamEnd
  -- something that cannot be built, such as a character that does not exist
  | broken (e : Error)
deriving Inhabited

-- The name of an anchor or an alias, from the character that announces it.
def anchorName : Scan String := do
  forward
  let name ← takeWhile isWordChar
  if name.isEmpty then malformed
  require fun c => isBlankOrEnd c || ['?', ':', ',', ']', '\x7d', '%', '@', '\x60'].contains c
  return String.ofList name

def isUriChar (c : Char) : Bool :=
  c.isAlphanum || "-;/?:@&=+$,_.!~*'()[]%".toList.contains c

-- Bytes of a character by number, each after a percent sign.
def uriBytes : (fuel : Nat) → List UInt8 → Scan (List UInt8)
  | 0, acc => return acc
  | fuel + 1, acc => do
    if (← peek) == '%' then
      forward
      match (← takeCount 2).mapM Text.hexDigit? with
      | some [a, b] => uriBytes fuel (acc ++ [UInt8.ofNat (a * 16 + b)])
      | _ => malformed
    else return acc

def uriEscapes : Scan (List Char) := do
  match Text.Utf8.decodeStrict (← uriBytes (← room) []) with
  | .ok cs => return cs
  | .error _ => malformed

-- Runs of characters and of escapes.
def uriRuns : (fuel : Nat) → List Char → Scan (List Char)
  | 0, acc => return acc
  | fuel + 1, acc => do
    let run ← takeWhile fun c => isUriChar c && c != '%'
    if (← peek) == '%' then uriRuns fuel (acc ++ run ++ (← uriEscapes))
    else return acc ++ run

-- The part of a tag behind its handle.
def tagUri : Scan String := do
  let first ← peek
  unless isUriChar first do malformed
  return String.ofList (← uriRuns (← room) [])

-- A tag handle: an exclamation mark, or a word between two of them.
def tagHandleWord : Scan String := do
  require (· == '!')
  forward
  if (← peek) == ' ' then return "!"
  let word ← takeWhile isWordChar
  require (· == '!')
  forward
  return "!" ++ String.ofList word ++ "!"

-- Whether a second exclamation mark comes before the next space.
def hasHandle (cs : List Char) : Bool :=
  (cs.takeWhile fun c => !isSpaceOrEnd c).contains '!'

-- A tag, from its exclamation mark.
def tagToken : Scan Token := do
  let c ← peekAt 1
  let token ←
    if c == '<' then do
      skip 2
      let suffix ← tagUri
      require (· == '>')
      forward
      pure (Token.tag none suffix)
    else if isBlankOrEnd c then do
      forward
      pure (Token.tag none "!")
    else if hasHandle ((← get).rest.drop 1) then do
      let handle ← tagHandleWord
      pure (Token.tag (some handle) (← tagUri))
    else do
      forward
      pure (Token.tag (some "!") (← tagUri))
  require isSpaceOrEnd
  return token

-- A number in a directive.
def directiveNumber : Scan Nat := do
  let ds ← takeWhile Text.isAsciiDigit
  if ds.isEmpty then malformed
  if ds.length > digitLimit then throw (.refused (.number (.digitsRead ds.length)))
  return Text.ofDigits 10 (ds.filterMap Text.asciiDigit?)

def skipSpaces : Scan Unit := do
  let _ ← takeWhile (· == ' ')

-- A directive, from its percent sign to the end of its line.
def directiveToken : Scan Token := do
  forward
  let name ← takeWhile isWordChar
  if name.isEmpty then malformed
  require isSpaceOrEnd
  let token ←
    if String.ofList name == "YAML" then do
      skipSpaces
      let major ← directiveNumber
      require (· == '.')
      forward
      let _ ← directiveNumber
      require isSpaceOrEnd
      pure (Token.version major)
    else if String.ofList name == "TAG" then do
      skipSpaces
      let handle ← tagHandleWord
      require (· == ' ')
      skipSpaces
      let start ← tagUri
      require isSpaceOrEnd
      pure (Token.tagHandle handle start)
    else do
      let _ ← takeWhile fun c => !isLineEnd c
      pure Token.otherDirective
  restOfLine
  return token

end Dialect.Yaml
