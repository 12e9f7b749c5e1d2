import Dialect.Plain

namespace Dialect.Json

-- Characters outside ASCII stand for themselves.
def escape (c : Char) : String :=
  if c = '"' then "\\\""
  else if c = '\\' then "\\\\"
  else if c = '\n' then "\\n"
  else if c = '\r' then "\\r"
  else if c = '\t' then "\\t"
  else if c = '\x0c' then "\\f"
  else if c = '\x08' then "\\b"
  else if c.toNat < 32 then "\\u" ++ Text.hexPadded 4 c.toNat
  else String.ofList [c]

def quote (s : String) : String := "\"" ++ String.join (s.toList.map escape) ++ "\""

def floatText (x : Float) : String :=
  if x.isNaN then "NaN"
  else if x.isInf then (if x < 0 then "-Infinity" else "Infinity")
  else Number.floatText x

-- How containers are laid out: what stands between members, before the first and after the last.
structure Layout where
  between : String
  first : String
  last : String

-- On one line, or one member a line at the depth of the members.
def layoutAt (pretty : Bool) (depth : Nat) : Layout :=
  let line := fun n => "\n" ++ String.ofList (List.replicate (2 * n) ' ')
  if pretty then ⟨"," ++ line (depth + 1), line (depth + 1), line depth⟩ else ⟨", ", "", ""⟩

def bracket (opening closing : String) (l : Layout) (parts : List String) : String :=
  if parts.isEmpty then opening ++ closing
  else opening ++ l.first ++ l.between.intercalate parts ++ l.last ++ closing

mutual

def render (pretty : Bool) (depth : Nat) : Plain → String
  | .null => "null"
  | .bool true => "true"
  | .bool false => "false"
  | .int n => intText n
  | .float x => floatText x
  | .str s => quote s
  | .list ps => bracket "[" "]" (layoutAt pretty depth) (renderAll pretty (depth + 1) ps)
  | .object es =>
    bracket "\x7b" "\x7d" (layoutAt pretty depth) (renderEntries pretty (depth + 1) es)

def renderAll (pretty : Bool) (depth : Nat) : List Plain → List String
  | [] => []
  | p :: ps => render pretty depth p :: renderAll pretty depth ps

def renderEntries (pretty : Bool) (depth : Nat) : List (String × Plain) → List String
  | [] => []
  | (k, p) :: es => (quote k ++ ": " ++ render pretty depth p) :: renderEntries pretty depth es

end

-- The JSON text of plain data.
def write (pretty : Bool) (p : Plain) : String := render pretty 0 p

end Dialect.Json
