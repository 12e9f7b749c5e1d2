import Dialect.Yaml.Tag

namespace Dialect.Yaml

inductive Style where
  | plain
  | single
  | double
deriving Repr, DecidableEq, Inhabited

-- The line breaks that a writer tells from other characters.
def isWrittenBreak (c : Char) : Bool := c == '\n' || c == '\x85' || c == '\u2028' || c == '\u2029'

-- What decides how a scalar can be written.
structure Shape where
  empty : Bool
  multiline : Bool
  -- whether it can stand without quotes, as far as its characters go
  bare : Bool
  -- whether single quotes keep it
  quotable : Bool
deriving Repr, Inhabited

-- Characters that mean something at the start of a scalar.
def leadIndicators : List Char := "#,[]\x7b\x7d&*!|>'\"%@\x60".toList

-- Whether a character means something where it stands, given its neighbours.
def isIndicator (before : Option Char) (c : Char) (after : Option Char) : Bool :=
  let blankAfter := after.all isBlankOrEnd
  match before with
  | none =>
    leadIndicators.contains c || ((c == '?' || c == ':' || c == '-') && blankAfter)
  | some b => (c == ':' && blankAfter) || (c == '#' && isBlankOrEnd b)

-- Whether any character means something where it stands.
def hasIndicator (before : Option Char) : List Char → Bool
  | [] => false
  | c :: cs => isIndicator before c cs.head? || hasIndicator (some c) cs

-- Whether a character of the first class comes right before one of the second.
def adjacent (p q : Char → Bool) : List Char → Bool
  | a :: b :: cs => (p a && q b) || adjacent p q (b :: cs)
  | _ => false

def needsEscape (c : Char) : Bool := !(c == '\n' || (0x20 ≤ c.toNat && c.toNat ≤ 0x7E))

def startsLikeMarker (cs : List Char) : Bool :=
  ['-', '-', '-'].isPrefixOf cs || ['.', '.', '.'].isPrefixOf cs

def isSpaceChar (c : Char) : Bool := c == ' '

def shape (cs : List Char) : Shape :=
  let atEnds := [cs.head?, cs.getLast?].any fun e =>
    e.any fun c => isSpaceChar c || isWrittenBreak c
  let breakSpace := adjacent isWrittenBreak isSpaceChar cs
  let spaceBreak := adjacent isSpaceChar isWrittenBreak cs
  let special := cs.any needsEscape
  let multiline := cs.any isWrittenBreak
  let quotable := !(breakSpace || spaceBreak || special)
  { empty := cs.isEmpty
    multiline
    bare := quotable && !atEnds && !multiline && !startsLikeMarker cs && !hasIndicator none cs
    quotable }

-- The style of a scalar: plain if it then reads as what it is, else in single quotes, and in double
-- quotes if it has characters that need escapes. `own` tells whether its text alone would read as
-- what it is. A key on one line with its value can be neither empty nor of several lines unless it
-- is escaped.
def chooseStyle (own simpleKey : Bool) (s : Shape) : Style :=
  if own && s.bare && !(simpleKey && (s.empty || s.multiline)) then .plain
  else if s.quotable && !(simpleKey && s.multiline) then .single
  else .double

end Dialect.Yaml
