import Dialect.Expr.Tree
import Dialect.Moment

namespace Dialect

open Dialect.Expr (Compiled)

-- Markers compared by identity: the value flowing through a pipeline, and one that was dropped.
inductive Mark where
  | input
  | dropped
deriving Repr, DecidableEq, Inhabited

-- What programs are made of and what scopes hold. Mappings keep their entries in the order of
-- insertion and have keys of any kind. Functions are values too: the runner that a run leaves in
-- its scope, compiled expressions and the steps of a pipeline.
inductive Value where
  | null
  | bool (b : Bool)
  | int (n : Int)
  -- a double other than NaN
  | float (x : Float)
  -- NaN; the label tells two of them apart inside containers
  | nan (label : Nat)
  | complex (re im : Float)
  | str (s : String)
  | bytes (bs : List UInt8)
  | list (items : List Value)
  | tuple (items : List Value)
  | map (entries : List (Value × Value))
  -- members without repetition
  | set (members : List Value)
  | date (d : Date)
  | time (c : Clock)
  | datetime (d : Date) (c : Clock) (offset : Option Int)
  | mark (m : Mark)
  -- program data paired with the language of that number
  | program (data : Value) (language : Nat)
  -- the function that runs sub-programs of a language; the scope it was first bound in
  | runner (language scope : Nat)
  | compiled (f : Compiled)
  -- keeps an item that passes the test
  | keep (test : Compiled) (scope : Nat)
  -- sends an item through one of two functions
  | branch (args : List Value) (test yes no : Compiled) (scope : Nat)
deriving Inhabited

-- The kinds of values that error messages tell apart.
inductive Kind where
  | null | bool | int | float | complex | str | bytes | list | tuple | map | set
  | date | time | datetime | mark | program | function
deriving Repr, DecidableEq, Inhabited

namespace Value

def kind : Value → Kind
  | null => .null
  | bool _ => .bool
  | int _ => .int
  | float _ => .float
  | nan _ => .float
  | complex _ _ => .complex
  | str _ => .str
  | bytes _ => .bytes
  | list _ => .list
  | tuple _ => .tuple
  | map _ => .map
  | set _ => .set
  | date _ => .date
  | time _ => .time
  | datetime _ _ _ => .datetime
  | mark _ => .mark
  | program _ _ => .program
  | runner _ _ => .function
  | compiled _ => .function
  | keep _ _ => .function
  | branch _ _ _ _ _ => .function

-- NaN as a result of arithmetic has no label of its own.
def ofFloat (x : Float) : Value := if x.isNaN then nan 0 else float x

-- Empty things, zeros, false and null count as false.
def truthy : Value → Bool
  | null => false
  | bool b => b
  | int n => n != 0
  | float x => x != 0
  | complex re im => re != 0 || im != 0
  | str s => s != ""
  | bytes bs => !bs.isEmpty
  | list xs => !xs.isEmpty
  | tuple xs => !xs.isEmpty
  | map es => !es.isEmpty
  | set xs => !xs.isEmpty
  | _ => true

-- A mapping with text keys from its entries.
def object (entries : List (String × Value)) : Value :=
  map (entries.map fun (k, v) => (str k, v))

mutual

-- How deep containers and program data are nested.
def depth : Value → Nat
  | list xs => depthAll xs + 1
  | tuple xs => depthAll xs + 1
  | map es => depthEntries es + 1
  | set xs => depthAll xs + 1
  | program d _ => d.depth + 1
  | _ => 0

def depthAll : List Value → Nat
  | [] => 0
  | v :: vs => max v.depth (depthAll vs)

def depthEntries : List (Value × Value) → Nat
  | [] => 0
  | (k, v) :: es => max (max k.depth v.depth) (depthEntries es)

end

end Value

namespace Kind

-- The name of a kind in messages about operations.
def name : Kind → String
  | null => "NoneType"
  | bool => "bool"
  | int => "int"
  | float => "float"
  | complex => "complex"
  | str => "str"
  | bytes => "bytes"
  | list => "list"
  | tuple => "tuple"
  | map => "dict"
  | set => "set"
  | date => "datetime.date"
  | time => "datetime.time"
  | datetime => "datetime.datetime"
  | mark => "Sentinel"
  | program => "Program"
  | function => "function"

-- The last part of the name.
def shortName : Kind → String
  | date => "date"
  | time => "time"
  | datetime => "datetime"
  | k => k.name

-- The name with its origin, as a class is shown.
def classText (k : Kind) : String :=
  match k with
  | mark => "<class 'krikkit.krikkit_datatypes.Sentinel'>"
  | program => "<class 'krikkit.krikkit_datatypes.Program'>"
  | k => "<class '" ++ k.name ++ "'>"

end Kind

end Dialect
