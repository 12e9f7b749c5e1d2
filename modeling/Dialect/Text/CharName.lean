import Dialect.Text.CharName.Aliases
import Dialect.Text.CharName.Eastern
import Dialect.Text.CharName.Historic
import Dialect.Text.CharName.Letters
import Dialect.Text.CharName.Pictures
import Dialect.Text.CharName.Signs
import Dialect.Text.Digit

namespace Dialect.Text.CharName

-- Words that the tables write as one small letter.
def shortWords : List (Char × String) := [
  ('a', "ARROW"), ('b', "ABOVE"), ('c', "CAPITAL"), ('d', "DOUBLE"), ('e', "BELOW"),
  ('f', "FORM"), ('g', "RIGHTWARDS"), ('h', "AND"), ('i', "SIGN"), ('j', "LEFTWARDS"),
  ('k', "INITIAL"), ('l', "LETTER"), ('m', "THREE"), ('n', "FINAL"), ('o', "ISOLATED"),
  ('p', "TRIANGLE-HEADED"), ('q', "STROKE"), ('r', "RIGHT"), ('s', "SMALL"), ('t', "LEFT"),
  ('u', "BLACK"), ('v', "VERTICAL"), ('w', "WITH"), ('x', "WHITE"), ('y', "SYMBOL"),
  ('z', "HORIZONTAL")]

def wordOf (w : List Char) : List Char :=
  match w with
  | [c] => ((shortWords.find? fun e => e.1 == c).map (·.2.toList)).getD w
  | w => w

-- The words of a name in a table, after the words of the name before it: a name starts with the
-- number of words that the two share.
def wordsOf (previous : List (List Char)) : List Char → List (List Char)
  | [] => []
  | d :: [] => previous.take (d.toNat - 48)
  | d :: rest => previous.take (d.toNat - 48) ++ (rest.splitOn ' ').map wordOf

-- A walk through a table: the words of the last name, the number of the next character, and the
-- character that was looked for.
structure Search where
  previous : List (List Char)
  code : Nat
  found : Option Nat

def Search.step (words : List (List Char)) (s : Search) (entry : List Char) : Search :=
  let name := wordsOf s.previous entry
  ⟨name, s.code + 1, s.found.or (if name = words then some s.code else none)⟩

-- The names of one line.
def Search.through (words : List (List Char)) (s : Search) (line : List Char) : Search :=
  match line.dropWhile (· = ' ') with
  | [] => s
  | cs =>
    let code := ofDigits 16 ((cs.takeWhile (· ≠ ' ')).filterMap hexDigit?)
    let entries := ((cs.dropWhile (· ≠ ' ')).drop 1).splitOn ';'
    entries.foldl (Search.step words) { s with code }

-- The character whose name has the given words.
def inTable? (words : List (List Char)) (table : String) : Option Nat :=
  ((table.toList.splitOn '\n').foldl (Search.through words) ⟨[], 0, none⟩).found

-- A line of a table has the number of a character and the names from there on.
def tables : List String := [letters, signs, eastern, historic, pictures, aliases]

-- Names that end in the number of the character.
def numberedNames : List (String × List (Nat × Nat)) := [
  ("CJK COMPATIBILITY IDEOGRAPH-", [(0xF900, 0xFA6D), (0xFA70, 0xFAD9), (0x2F800, 0x2FA1D)]),
  ("KHITAN SMALL SCRIPT CHARACTER-", [(0x18B00, 0x18CD5)]),
  ("NUSHU CHARACTER-", [(0x1B170, 0x1B2FB)])]

def ideographs : List (Nat × Nat) := [(0x3400, 0x4DBF), (0x4E00, 0x9FFF), (0x20000, 0x2A6DF),
  (0x2A700, 0x2B738), (0x2B740, 0x2B81D), (0x2B820, 0x2CEA1), (0x2CEB0, 0x2EBE0),
  (0x30000, 0x3134A)]

def inRanges (ranges : List (Nat × Nat)) (n : Nat) : Bool :=
  ranges.any fun r => r.1 ≤ n && n ≤ r.2

-- What follows the first text at the start of the second.
def after? (start : String) (cs : List Char) : Option (List Char) :=
  if start.toList.isPrefixOf cs then some (cs.drop start.length) else none

def isUpperHex (c : Char) : Bool := isAsciiDigit c || ('A' ≤ c && c ≤ 'F')

-- A character by its number, without zeros in front.
def numbered? (name : List Char) (e : String × List (Nat × Nat)) : Option Nat :=
  (after? e.1 name).bind fun ds =>
    let n := ofDigits 16 (ds.filterMap hexDigit?)
    if inRanges e.2 n && (ofNat 16 n).toList.map Char.toUpper == ds then some n else none

-- An ideograph by its number of four or five digits.
def ideograph? (ds : List Char) : Option Nat :=
  let n := ofDigits 16 (ds.filterMap hexDigit?)
  if (ds.length = 4 ∨ ds.length = 5) ∧ ds.all isUpperHex ∧ inRanges ideographs n then some n
  else none

-- The sounds that begin, carry and end a syllable.
def initials : List String := ["G", "GG", "N", "D", "DD", "R", "M", "B", "BB", "S", "SS", "", "J",
  "JJ", "C", "K", "T", "P", "H"]

def vowels : List String := ["A", "AE", "YA", "YAE", "EO", "E", "YEO", "YE", "O", "WA", "WAE", "OE",
  "YO", "U", "WEO", "WE", "WI", "YU", "EU", "YI", "I"]

def finals : List String := ["", "G", "GG", "GS", "N", "NJ", "NH", "D", "L", "LG", "LM", "LB", "LS",
  "LT", "LP", "LH", "M", "B", "BS", "S", "SS", "NG", "J", "C", "K", "T", "P", "H"]

-- The longest sound that a text starts with, by its place, and what follows it.
def sound? (sounds : List String) (cs : List Char) : Option (Nat × List Char) :=
  (sounds.zipIdx.foldl (fun (best : Option (Nat × Nat)) (s, i) =>
    if s.toList.isPrefixOf cs && best.all (·.1 < s.length) then some (s.length, i) else best)
    none).map fun (n, i) => (i, cs.drop n)

-- A syllable by its sounds.
def syllable? (cs : List Char) : Option Nat := do
  let (l, cs) ← sound? initials cs
  let (v, cs) ← sound? vowels cs
  let (t, cs) ← sound? finals cs
  if cs.isEmpty then some (0xAC00 + (l * vowels.length + v) * finals.length + t) else none

-- The character of a name, as in version 14 of the Unicode standard. Only the names of ideographs
-- and syllables must be in capitals.
def find? (name : List Char) : Option Char :=
  Char.ofNat <$> match after? "HANGUL SYLLABLE " name, after? "CJK UNIFIED IDEOGRAPH-" name with
    | some sounds, _ => syllable? sounds
    | _, some ds => ideograph? ds
    | none, none =>
      let capitals := name.map Char.toUpper
      (numberedNames.findSome? (numbered? capitals)).or
        (tables.findSome? (inTable? (capitals.splitOn ' ')))

end Dialect.Text.CharName
