import Dialect.Expr.Literal
import Dialect.Marker
import Dialect.Value.Text

namespace Dialect

open Text (quoted)

-- The classes under which errors are reported.
inductive ErrorClass where
  | type | value | key | index | member | zeroDivision | overflow | memory | literal | decoding
  | recursion | engine | pathNotFound | unresolved | missingRunner | language | expression
  | untraceable
  | other (name : String)
deriving Repr, DecidableEq, Inhabited

def ErrorClass.name : ErrorClass → String
  | type => "TypeError"
  | value => "ValueError"
  | key => "KeyError"
  | index => "IndexError"
  | member => "AttributeError"
  | zeroDivision => "ZeroDivisionError"
  | overflow => "OverflowError"
  | memory => "MemoryError"
  | literal => "SyntaxError"
  | decoding => "UnicodeDecodeError"
  | recursion => "RecursionError"
  | engine => "KrikkitError"
  | pathNotFound => "PathNotFound"
  | unresolved => "UnresolvedReference"
  | missingRunner => "MissingRunner"
  | language => "LanguageError"
  | expression => "ExpressionError"
  | untraceable => "Untraceable"
  | other n => n

def ErrorClass.ofName (s : String) : ErrorClass :=
  ([type, value, key, index, member, zeroDivision, overflow, memory, literal, decoding, recursion,
    engine, pathNotFound, unresolved, missingRunner, language, expression, untraceable].find?
      fun c => c.name == s).getD (other s)

-- A value of a kind that the operation at hand cannot use.
inductive KindFault where
  -- no meaning for an operator
  | operands (op : String) (left right : Kind)
  | operand (op : String) (arg : Kind)
  | unordered (op : String) (left right : Kind)
  | mixedOffsets
  | mixedMoments
  | concat (left right : Kind)
  | repeatBy (count : Kind)
  -- no such use of a value
  | notIterable (k : Kind)
  | notCallable (k : Kind)
  | notSubscriptable (k : Kind)
  | notMapping (k : Kind)
  | notWhole (k : Kind)
  | notContainer (k : Kind)
  | notUnpackable (k : Kind)
  | notBytes (k : Kind)
  | notText (k : Kind)
  | unhashable (k : Kind)
  -- indexing by something that is no number
  | index (container : String) (k : Kind)
  | textIndex (k : Kind)
  -- joining names
  | joined (position : Nat) (k : Kind)
  -- a mapping from pairs
  | notPair (position : Nat)
  -- scopes
  | path (k : Kind)
  | name (k : Kind)
  | bindings (k : Kind)
  -- aspects
  | aspectKey (k : Kind)
  | notAspect (k : Kind)
  | notScope (key : String) (k : Kind)
  -- calls
  | arity (source : String) (wanted got : Nat)
  | arguments (text : String)
deriving Repr, DecidableEq, Inhabited

def KindFault.message : KindFault → String
  | operands op a b =>
    "unsupported operand type(s) for " ++ op ++ ": '" ++ a.name ++ "' and '" ++ b.name ++ "'"
  | operand op a => "bad operand type for unary " ++ op ++ ": '" ++ a.name ++ "'"
  | unordered op a b =>
    "'" ++ op ++ "' not supported between instances of '" ++ a.name ++ "' and '" ++ b.name ++ "'"
  | mixedOffsets => "can't compare offset-naive and offset-aware datetimes"
  | mixedMoments => "can't compare datetime.datetime to datetime.date"
  | concat .bytes b => "can't concat " ++ b.name ++ " to bytes"
  | concat a b =>
    "can only concatenate " ++ a.name ++ " (not \"" ++ b.name ++ "\") to " ++ a.name
  | repeatBy k => "can't multiply sequence by non-int of type '" ++ k.name ++ "'"
  | notIterable k => "'" ++ k.name ++ "' object is not iterable"
  | notCallable k => "'" ++ k.name ++ "' object is not callable"
  | notSubscriptable k => "'" ++ k.name ++ "' object is not subscriptable"
  | notMapping k => "'" ++ k.name ++ "' object is not a mapping"
  | notWhole k => "'" ++ k.name ++ "' object cannot be interpreted as an integer"
  | notContainer k => "argument of type '" ++ k.name ++ "' is not iterable"
  | notUnpackable k => "Value after * must be an iterable, not " ++ k.name
  | notBytes k => "a bytes-like object is required, not '" ++ k.name ++ "'"
  | notText k => "expected string or bytes-like object, got '" ++ k.name ++ "'"
  | unhashable k => "unhashable type: '" ++ k.name ++ "'"
  | index c k => c ++ " indices must be integers or slices, not " ++ k.name
  | textIndex k => "string indices must be integers, not '" ++ k.name ++ "'"
  | joined n k =>
    "sequence item " ++ Text.ofNat 10 n ++ ": expected str instance, " ++ k.name ++ " found"
  | notPair n =>
    "cannot convert dictionary update sequence element #" ++ Text.ofNat 10 n ++ " to a sequence"
  | path k => "Frame path must be a str, not " ++ k.classText
  | name k => "Frame key must be a str, not " ++ k.classText
  | bindings k => "bind expects a mapping, not " ++ k.shortName
  | aspectKey k => "Aspect key must be a str, not " ++ k.classText
  | notAspect k => "Expected an Aspect, not " ++ k.shortName
  | notScope key k => "aspect " ++ quoted key ++ " must return a Frame, not " ++ k.shortName
  | arity s n m =>
    "expression " ++ quoted s ++ " takes " ++ Text.ofNat 10 n ++ " argument(s), got "
      ++ Text.ofNat 10 m
  | arguments t => t

-- Arithmetic without an answer, and numbers that cannot be read or written.
inductive NumberFault where
  | division
  | wholeDivision
  | wholeModulo
  | floatDivision
  | floatFloor
  | floatModulo
  | zeroPower
  | complexDivision
  | complexZeroPower
  | complexPower
  | tooLarge
  | quotient
  | power
  | repetition
  | longText
  | longBytes
  | noRoom
  | digitsRead (count : Nat)
  | digitsWritten
  | literal (base : Nat) (text : String)
  | floatLiteral (text : String)
deriving Repr, DecidableEq, Inhabited

def NumberFault.category : NumberFault → ErrorClass
  | division | wholeDivision | wholeModulo | floatDivision | floatFloor | floatModulo | zeroPower
  | complexDivision | complexZeroPower => .zeroDivision
  | complexPower | tooLarge | quotient | power | repetition | longText | longBytes => .overflow
  | noRoom => .memory
  | digitsRead _ | digitsWritten | literal _ _ | floatLiteral _ => .value

def NumberFault.message : NumberFault → String
  | division => "division by zero"
  | wholeDivision => "integer division or modulo by zero"
  | wholeModulo => "integer modulo by zero"
  | floatDivision => "float division by zero"
  | floatFloor => "float floor division by zero"
  | floatModulo => "float modulo"
  | zeroPower => "0.0 cannot be raised to a negative power"
  | complexDivision => "complex division by zero"
  | complexZeroPower => "0.0 to a negative or complex power"
  | complexPower => "complex exponentiation"
  | tooLarge => "int too large to convert to float"
  | quotient => "integer division result too large for a float"
  | power => "(34, 'Numerical result out of range')"
  | repetition => "cannot fit 'int' into an index-sized integer"
  | longText => "repeated string is too long"
  | longBytes => "repeated bytes are too long"
  | noRoom => ""
  | digitsRead n =>
    "Exceeds the limit (4300 digits) for integer string conversion: value has " ++ Text.ofNat 10 n
      ++ " digits; use sys.set_int_max_str_digits() to increase the limit"
  | digitsWritten => "Exceeds the limit (4300 digits) for integer string conversion; "
      ++ "use sys.set_int_max_str_digits() to increase the limit"
  | literal base t =>
    "invalid literal for int() with base " ++ Text.ofNat 10 base ++ ": "
      ++ String.ofList ((quoted t).toList.take 200)
  | floatLiteral t => "could not convert string to float: " ++ quoted t

-- An expression that cannot be compiled.
inductive ExprFault where
  | column (n : Nat)
  | unknown (name : String)
  | notText
deriving Repr, DecidableEq, Inhabited

def ExprFault.message : ExprFault → String
  | column n => "syntax error at column " ++ Text.ofNat 10 n
  | unknown n => "unknown name " ++ quoted n
  | notText => "expression must be a string"

-- A language definition that does not hold together.
inductive LanguageFault where
  | bindingNotAllowed (key : Value)
  | bindingExplicit (key : Value)
  | aspectNotAllowed (key : String)
  | aspectRepeated (key : String)
  | unknownMarker (word : String)
  | twoMarkers (key : Value) (first second : Marker)
  | keysNotAllowed (keys : List String)
  | bindingMarked (key : Value) (marker : Marker)
deriving Inhabited

def LanguageFault.message : LanguageFault → String
  | bindingNotAllowed k => "Binding key " ++ k.repr ++ " is not an allowed key"
  | bindingExplicit k => "Binding key " ++ k.repr ++ " cannot have an explicit aspect"
  | aspectNotAllowed k => "Aspect key " ++ quoted k ++ " is not an allowed key"
  | aspectRepeated k => "More than one aspect declared for " ++ quoted k
  | unknownMarker w => "Unknown grammar marker: " ++ quoted w
  | twoMarkers k a b =>
    "Grammar key " ++ k.repr ++ " is marked both " ++ quoted a.text ++ " and " ++ quoted b.text
  | keysNotAllowed ks => "Grammar keys are not allowed keys: " ++ ", ".intercalate ks
  | bindingMarked k m =>
    "Binding key " ++ k.repr ++ " is marked " ++ quoted m.text ++ ", not a binding form"

def MomentFault.message : MomentFault → String
  | year n => "year " ++ Text.ofNat 10 n ++ " is out of range"
  | month => "month must be in 1..12"
  | day => "day is out of range for month"
  | hour => "hour must be in 0..23"
  | minute => "minute must be in 0..59"
  | second => "second must be in 0..59"
  | offset s => "offset must be a timedelta strictly between -timedelta(hours=24) and "
      ++ "timedelta(hours=24), not " ++ spanText s ++ "."

-- Every error is a cause with its data; `Error.message` gives its wording and `Error.category` the
-- class it is reported under.
inductive Error where
  | unresolved (path : String)
  | pathNotFound (path : String)
  | missingRunner (key : String)
  | missingKey (key : Value)
  | expression (source : String) (fault : ExprFault)
  | language (fault : LanguageFault)
  | kind (fault : KindFault)
  | number (fault : NumberFault)
  | moment (fault : MomentFault)
  -- a value without the named member
  | member (k : Kind) (name : String)
  -- a pair that is none
  | pairLength (position length : Nat)
  -- a quoted text that cannot be decoded
  | literal (fault : Expr.Literal.Fault)
  -- a text template that does not fit its arguments
  | template (c : ErrorClass) (reason : String)
  -- a value that a text format cannot take
  | content (c : ErrorClass) (reason : String)
  -- raised on purpose, by class and arguments
  | raised (c : ErrorClass) (args : List Value)
  | tooDeep
deriving Inhabited

namespace Error

def category : Error → ErrorClass
  | unresolved _ => .unresolved
  | pathNotFound _ => .pathNotFound
  | missingRunner _ => .missingRunner
  | missingKey _ => .key
  | expression _ _ => .expression
  | language _ => .language
  | kind _ => .type
  | number f => f.category
  | moment _ => .value
  | member _ _ => .member
  | pairLength _ _ => .value
  | literal _ => .literal
  | template c _ => c
  | content c _ => c
  | raised c _ => c
  | tooDeep => .recursion

-- The text of an error raised by class and arguments.
def raisedMessage : ErrorClass → List Value → String
  | .unresolved, [p] => "unresolved reference: " ++ p.repr
  | .pathNotFound, [p] => "path not found in any frame: " ++ p.repr
  | .missingRunner, [k] => "'@runner' is not bound; cannot run sequence " ++ k.repr
  | .expression, [e, m] => m.text ++ " in expression " ++ e.repr
  | .key, [k] => k.repr
  | _, [] => ""
  | _, [v] => v.text
  | _, vs => (Value.tuple vs).repr

def message : Error → String
  | unresolved p => "unresolved reference: " ++ quoted p
  | pathNotFound p => "path not found in any frame: " ++ quoted p
  | missingRunner k => "'@runner' is not bound; cannot run sequence " ++ quoted k
  | missingKey k => k.repr
  | expression s f => f.message ++ " in expression " ++ quoted s
  | language f => f.message
  | kind f => f.message
  | number f => f.message
  | moment f => f.message
  | member k n => "'" ++ k.name ++ "' object has no attribute '" ++ n ++ "'"
  | pairLength n k =>
    "dictionary update sequence element #" ++ Text.ofNat 10 n ++ " has length " ++ Text.ofNat 10 k
      ++ "; 2 is required"
  | literal f => f.message
  | template _ r => r
  | content _ r => r
  | raised c args => raisedMessage c args
  | tooDeep => "maximum recursion depth exceeded"

end Error

end Dialect
