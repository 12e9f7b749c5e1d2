import Dialect.Number.Shortest
import Dialect.Text.Quoted
import Dialect.Value.Basic

namespace Dialect

open Text (quoted quotedBytes)

-- The name of a compiled expression as a function.
def Expr.Compiled.name (f : Expr.Compiled) : String := "expr[" ++ f.source ++ "]"

def intText (n : Int) : String :=
  if n < 0 then "-" ++ Text.ofNat 10 n.natAbs else Text.ofNat 10 n.natAbs

-- Whole numbers of more digits than this are neither written nor read.
def digitLimit : Nat := 4300

-- Few numbers need their digits counted: ten to the limit has more than `13000` binary digits.
def tooLong (n : Int) : Bool := n.natAbs ≥ Number.twoTo 13000 && n.natAbs ≥ Number.tenTo digitLimit

-- The real or imaginary part of a complex number: whole numbers have no point.
def partText (x : Float) : String := Number.floatTextWith "" x

def complexText (re im : Float) : String :=
  if re == 0 && !Number.isNegative re then partText im ++ "j"
  else
    let plus := if Number.isNegative im && !im.isNaN then "" else "+"
    "(" ++ partText re ++ plus ++ partText im ++ "j)"

def Mark.text : Mark → String
  | .input => "<input>"
  | .dropped => "<dropped>"

-- A span of time in days and seconds, the seconds never negative.
def spanText (seconds : Int) : String :=
  let days := Int.fdiv seconds 86400
  let rest := Int.fmod seconds 86400
  let parts := (if days = 0 then [] else ["days=" ++ intText days])
    ++ (if rest = 0 then [] else ["seconds=" ++ intText rest])
  "datetime.timedelta(" ++ (if parts.isEmpty then "0" else ", ".intercalate parts) ++ ")"

def zoneText : Option Int → String
  | none => ""
  | some 0 => ", tzinfo=datetime.timezone.utc"
  | some s => ", tzinfo=datetime.timezone(" ++ spanText s ++ ")"

-- The numbers of a time of day, without trailing zeros after the minutes.
def Clock.parts (c : Clock) : List Nat :=
  if c.micro ≠ 0 then [c.hour, c.minute, c.second, c.micro]
  else if c.second ≠ 0 then [c.hour, c.minute, c.second]
  else [c.hour, c.minute]

def commaText (ns : List Nat) : String := ", ".intercalate (ns.map (Text.ofNat 10))

-- One member has a comma of its own.
def tupleText : List String → String
  | [x] => "(" ++ x ++ ",)"
  | xs => "(" ++ ", ".intercalate xs ++ ")"

-- The names at the top of program data, as they stand between brackets.
def keyNames (entries : List (Value × Value)) : List String :=
  entries.filterMap fun (k, _) => match k with
    | .str s => some s
    | _ => none

namespace Value

def functionName : Value → String
  | runner _ _ => "runner"
  | compiled f => f.name
  | keep _ _ => "keep"
  | branch _ _ _ _ _ => "branch"
  | _ => ""

mutual

-- A value with its kind visible: texts are quoted, containers have brackets.
def repr : Value → String
  | null => "None"
  | bool true => "True"
  | bool false => "False"
  | int n => intText n
  | float x => Number.floatText x
  | nan _ => "nan"
  | complex re im => complexText re im
  | str s => quoted s
  | bytes bs => quotedBytes bs
  | list xs => "[" ++ ", ".intercalate (reprAll xs) ++ "]"
  | tuple xs => tupleText (reprAll xs)
  | map es => "\x7b" ++ ", ".intercalate (reprEntries es) ++ "\x7d"
  | set [] => "set()"
  | set (x :: xs) => "\x7b" ++ ", ".intercalate (x.repr :: reprAll xs) ++ "\x7d"
  | date d => "datetime.date(" ++ commaText [d.year, d.month, d.day] ++ ")"
  | time c => "datetime.time(" ++ commaText c.parts ++ ")"
  | datetime d c o =>
    "datetime.datetime(" ++ commaText ([d.year, d.month, d.day] ++ c.parts) ++ zoneText o ++ ")"
  | mark m => m.text
  | program (map es) l =>
    "<Program keys=[" ++ ", ".intercalate (keyNames es) ++ "] language=#" ++ Text.ofNat 10 l ++ ">"
  | program _ l => "<Program keys=[] language=#" ++ Text.ofNat 10 l ++ ">"
  | runner l s => "<function " ++ functionName (runner l s) ++ ">"
  | compiled f => "<function " ++ f.name ++ ">"
  | keep _ _ => "<function keep>"
  | branch _ _ _ _ _ => "<function branch>"

def reprAll : List Value → List String
  | [] => []
  | v :: vs => v.repr :: reprAll vs

def reprEntries : List (Value × Value) → List String
  | [] => []
  | (k, v) :: es => (k.repr ++ ": " ++ v.repr) :: reprEntries es

end

-- A value as text: a text is itself, dates are in the standard form.
def text : Value → String
  | str s => s
  | date d => d.text
  | time c => c.text
  | datetime d c o => d.text ++ " " ++ c.text ++ (o.map offsetText).getD ""
  | v => v.repr

mutual

-- Whether the text of a value would have a whole number beyond the limit of digits.
def overlong : Value → Bool
  | int n => tooLong n
  | list xs => overlongAny xs
  | tuple xs => overlongAny xs
  | map es => overlongEntry es
  | set xs => overlongAny xs
  | _ => false

def overlongAny : List Value → Bool
  | [] => false
  | v :: vs => v.overlong || overlongAny vs

def overlongEntry : List (Value × Value) → Bool
  | [] => false
  | (k, v) :: es => k.overlong || v.overlong || overlongEntry es

end

end Value

end Dialect
