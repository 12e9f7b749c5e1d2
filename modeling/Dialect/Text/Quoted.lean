import Dialect.Text.Digit
import Dialect.Text.Printable

namespace Dialect.Text

-- The quote that a text is shown between: apostrophes, or quotation marks if the text has an
-- apostrophe and no quotation mark.
def quoteFor (cs : List Char) : Char :=
  if cs.contains '\'' && !cs.contains '"' then '"' else '\''

-- A character by its number, in the shortest of the three forms.
def escapeNumber (n : Nat) : String :=
  if n < 256 then "\\x" ++ hexPadded 2 n
  else if n < 65536 then "\\u" ++ hexPadded 4 n
  else "\\U" ++ hexPadded 8 n

-- A character between quotes; `shown` says which characters stand for themselves.
def escapeChar (quote : Char) (shown : Char → Bool) (c : Char) : String :=
  if c = quote ∨ c = '\\' then String.ofList ['\\', c]
  else if c = '\n' then "\\n"
  else if c = '\r' then "\\r"
  else if c = '\t' then "\\t"
  else if shown c then String.ofList [c]
  else escapeNumber c.toNat

-- A text between quotes, with printable characters kept.
def quoted (s : String) : String :=
  let q := quoteFor s.toList
  let mark := String.ofList [q]
  mark ++ String.join (s.toList.map (escapeChar q isPrintable)) ++ mark

-- Bytes between quotes.
def quotedBytes (bs : List UInt8) : String :=
  let cs := bs.map fun b => Char.ofNat b.toNat
  let q := quoteFor cs
  let mark := String.ofList [q]
  "b" ++ mark ++ String.join (cs.map (escapeChar q fun c => c.toNat < 127 && isPrintable c)) ++ mark

end Dialect.Text
