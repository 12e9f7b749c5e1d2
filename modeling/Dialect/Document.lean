import Dialect.Charset
import Dialect.Format
import Dialect.Json.Reader
import Dialect.Json.Writer
import Dialect.Toml.Reader
import Dialect.Yaml.Reader
import Dialect.Yaml.Writer

namespace Dialect.Document

-- What a text says, or the text itself where it is not of the format.
def orText (text : String) (r : Except ReadFault Value) : Except Error Value :=
  match r with
  | .ok v => .ok v
  | .error .malformed => .ok (.str text)
  | .error (.refused e) => .error e

-- Reads a text in a format. Text that is not JSON may still be YAML, which has more to it.
def readAs (f : Format) (text : String) : Except Error Value :=
  match f with
  | .json => match Json.read text with
    | .error .malformed => orText text (Yaml.read text)
    | r => orText text r
  | .yaml => orText text (Yaml.read text)
  | .toml => orText text (Toml.read text)

-- Reads a text. A format may be given by name; text in a format without a reader stays text.
def read (format contentType : Option String) (text : String) : Except Error Value :=
  match format with
  | none => readAs (Format.detect contentType text) text
  | some "" => readAs (Format.detect contentType text) text
  | some name => match Format.ofName? name with
    | some f => readAs f text
    | none => .ok (.str text)

-- The text of data in bytes or of any other kind. The name of a character set cannot have a null
-- character.
def textOf (contentType : Option String) (v : Value) : Except Error String :=
  match v with
  | .bytes bs =>
    if ((contentType.bind Charset.nameIn?).getD "").toList.contains '\x00' then
      .error (.content .value "embedded null character")
    else .ok (String.ofList ((Charset.ofContentType contentType).decode bs))
  | v => v.text?

-- Reads data of any kind.
def deserialize (format contentType : Option String) (v : Value) : Except Error Value := do
  read format contentType (← textOf contentType v)

-- The name of a format in lower case; only texts and bytes have a case.
def formatName (v : Value) : Except Error String :=
  if v.truthy then
    match v with
    | .str s => .ok (Text.lowerAscii s)
    | .bytes _ => .ok ""
    | v => .error (.member v.kind "lower")
  else .ok ""

-- Whole numbers that are too long cannot be written.
def checked (p : Plain) (text : String) : Except Error String :=
  if p.overlong then .error (.number .digitsWritten) else .ok text

-- Writes a value in the format of a name.
def serialize (format : Value) (pretty : Bool) (v : Value) : Except Error String := do
  let name ← formatName format
  let p ← v.plain
  match Format.ofName? name with
  | some .json => checked p (Json.write pretty p)
  | some .yaml => checked p (Yaml.write p)
  | _ => .error (.content .value ("Unsupported serialization format: " ++ (← format.repr?)))

end Dialect.Document
