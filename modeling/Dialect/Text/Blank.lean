namespace Dialect.Text

-- White space in the wide sense: next line, no-break space, the separators and the file, group,
-- record and unit separators belong to it.
def isBlank (c : Char) : Bool :=
  let n := c.toNat
  (9 ≤ n && n ≤ 13) || (28 ≤ n && n ≤ 32) || n == 133 || n == 160 || n == 5760
    || (8192 ≤ n && n ≤ 8202) || n == 8232 || n == 8233 || n == 8239 || n == 8287 || n == 12288

-- Drops the characters of class `p` at both ends.
def trim (p : Char → Bool) (cs : List Char) : List Char :=
  ((cs.dropWhile p).reverse.dropWhile p).reverse

-- ASCII letters in lower case. The words this is compared with have no letter that is the
-- lower case of a character outside ASCII, so other characters need no case.
def lowerAscii (s : String) : String :=
  String.ofList (s.toList.map Char.toLower)

end Dialect.Text
