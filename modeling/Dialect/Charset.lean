import Dialect.Text.Blank
import Dialect.Text.Utf16
import Dialect.Text.Utf8

namespace Dialect

inductive Charset where
  | utf8
  | utf8Marked
  | latin1
  | windows1252
  | ascii
  | utf16
  | utf16Little
  | utf16Big
deriving Repr, DecidableEq, Inhabited

namespace Charset

-- All names of the sets, in the form that `plainName` gives; the proper name comes first.
def names : List (Charset × List String) := [
  (utf8, ["utf_8", "u8", "utf", "utf8", "utf8_ucs2", "utf8_ucs4", "cp65001"]),
  (utf8Marked, ["utf_8_sig"]),
  (latin1, ["latin_1", "8859", "cp819", "csisolatin1", "ibm819", "iso8859", "iso8859_1",
    "iso_8859_1", "iso_8859_1_1987", "iso_ir_100", "l1", "latin", "latin1"]),
  (windows1252, ["cp1252", "1252", "windows_1252"]),
  (ascii, ["ascii", "646", "ansi_x3.4_1968", "ansi_x3_4_1968", "ansi_x3.4_1986", "cp367", "csascii",
    "ibm367", "iso646_us", "iso_646.irv_1991", "iso_ir_6", "us", "us_ascii"]),
  (utf16, ["utf_16", "u16", "utf16"]),
  (utf16Little, ["utf_16_le", "utf_16le", "unicodelittleunmarked"]),
  (utf16Big, ["utf_16_be", "utf_16be", "unicodebigunmarked"])]

-- Letters, digits and points count; runs of anything else are one underscore between them.
def plainChars (started pending : Bool) : List Char → List Char
  | [] => []
  | c :: cs =>
    if c.isAlphanum || c == '.' then
      if pending && started then '_' :: c.toLower :: plainChars true false cs
      else c.toLower :: plainChars true false cs
    else plainChars started true cs

def plainName (s : String) : String := String.ofList (plainChars false false s.toList)

-- The set of a name. Case and punctuation do not count; in the names after the proper one, a point
-- may stand for an underscore.
def ofName? (s : String) : Option Charset :=
  let name := plainName s
  let alike := String.ofList (name.toList.map fun c => if c = '.' then '_' else c)
  (names.find? fun e => e.2.contains name || e.2.tail.contains alike).map (·.1)

-- The upper half of the set that is neither controls nor Latin 1; the unassigned ones are zero.
def windowsHigh : List Nat := [
  0x20AC, 0, 0x201A, 0x0192, 0x201E, 0x2026, 0x2020, 0x2021,
  0x02C6, 0x2030, 0x0160, 0x2039, 0x0152, 0, 0x017D, 0,
  0, 0x2018, 0x2019, 0x201C, 0x201D, 0x2022, 0x2013, 0x2014,
  0x02DC, 0x2122, 0x0161, 0x203A, 0x0153, 0, 0x017E, 0x0178]

def windowsChar (b : UInt8) : Char :=
  let n := b.toNat
  if 0x80 ≤ n ∧ n < 0xA0 then
    match windowsHigh[n - 0x80]?.getD 0 with
    | 0 => '\ufffd'
    | m => Char.ofNat m
  else Char.ofNat n

-- Decodes bytes in a set. No bytes are refused: those that mean nothing become replacement
-- characters.
def decode (c : Charset) (bs : List UInt8) : List Char :=
  match c with
  | utf8 => Text.Utf8.decode bs
  | utf8Marked => match bs with
    | 0xEF :: 0xBB :: 0xBF :: rest => Text.Utf8.decode rest
    | bs => Text.Utf8.decode bs
  | latin1 => bs.map fun b => Char.ofNat b.toNat
  | windows1252 => bs.map windowsChar
  | ascii => bs.map fun b => if b < 0x80 then Char.ofNat b.toNat else '\ufffd'
  | utf16 => Text.Utf16.decodeMarked bs
  | utf16Little => Text.Utf16.decode true bs
  | utf16Big => Text.Utf16.decode false bs

-- The word that announces a set, in any case; the long s is a small s.
def keyword : List (List Char) := [['c', 'C'], ['h', 'H'], ['a', 'A'], ['r', 'R'],
  ['s', 'S', '\u017f'], ['e', 'E'], ['t', 'T']]

-- What follows the word at the start of a text.
def afterKeyword : List (List Char) → List Char → Option (List Char)
  | [], cs => some cs
  | _ :: _, [] => none
  | k :: ks, c :: cs => if k.contains c then afterKeyword ks cs else none

-- The value after the word and an equals sign: it has neither blanks nor semicolons.
def valueAt? (cs : List Char) : Option (List Char) :=
  (afterKeyword keyword cs).bind fun r => match r.dropWhile Text.isBlank with
    | '=' :: v =>
      match (v.dropWhile Text.isBlank).takeWhile fun c => !Text.isBlank c && c != ';' with
      | [] => none
      | name => some name
    | _ => none

def search : List Char → Option (List Char)
  | [] => none
  | c :: cs => (valueAt? (c :: cs)).or (search cs)

-- The name of a set that a content type gives, without quotes around it.
def nameIn? (contentType : String) : Option String :=
  (search contentType.toList).map fun name =>
    String.ofList (Text.trim (· == '\'') (Text.trim (· == '"') name))

-- The set of a content type.
def ofContentType (contentType : Option String) : Charset :=
  ((contentType.bind nameIn?).bind ofName?).getD utf8

end Charset

end Dialect
