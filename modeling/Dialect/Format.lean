import Dialect.Error
import Dialect.Text.Blank
import Dialect.Text.Occurrence
import Dialect.Value.Text

namespace Dialect

open Text (lowerAscii)

inductive Format where
  | json
  | yaml
  | toml
deriving Repr, DecidableEq, Inhabited

namespace Format

def name : Format → String
  | json => "json"
  | yaml => "yaml"
  | toml => "toml"

def ofName? : String → Option Format
  | "json" => some json
  | "yaml" => some yaml
  | "toml" => some toml
  | _ => none

-- The first format whose name occurs in a content type.
def ofContentType? (contentType : String) : Option Format :=
  let cs := (lowerAscii contentType).toList
  [json, yaml, toml].find? fun f => Text.occursIn f.name.toList cs

-- What a text looks like: one that starts with a bracket is JSON, any other YAML.
def sniff (text : String) : Format :=
  match text.toList.dropWhile Text.isBlank with
  | '\x7b' :: _ => json
  | '[' :: _ => json
  | _ => yaml

-- The format that a content type tells, else the one that a text looks like.
def detect (contentType : Option String) (text : String) : Format :=
  (contentType.bind ofContentType?).getD (sniff text)

-- A text or nothing; anything else is asked for a member that only texts have.
def textOr (member : String) (v : Value) : Except Error String :=
  match v with
  | .str s => .ok s
  | v => .error (.member v.kind member)

-- A content type of any kind; one that counts as false is none.
def contentTypeOf (v : Value) : Except Error String :=
  if v.truthy then
    match v with
    | .bytes _ => .error (.kind (.notBytes .str))
    | v => textOr "lower" v
  else .ok ""

-- The format of a content type and a piece of data, either of which may be missing.
def detectIn (contentType hint : Value) : Except Error (Option Format) := do
  match ofContentType? (← contentTypeOf contentType) with
  | some f => return some f
  | none =>
    match hint with
    | .null => return none
    | .bytes _ => .error (.content .type
        "startswith first arg must be bytes or a tuple of bytes, not str")
    | v => return some (sniff (← textOr "lstrip" v))

end Format

end Dialect
