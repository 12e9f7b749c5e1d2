import Dialect.Language

namespace Dialect

open Text (quoted)

-- A macro definition as data; nothing here expands it. Arguments are `true` for none, a text for
-- one argument or the merge operator, or a sequence of arguments that may end with the merge
-- operator.
structure Macro where
  key : Value
  args : Value
  body : List (Value × Value)
  defaults : List (Value × Value)
  methods : List Value
deriving Inhabited

namespace Macro

-- Stands for all fields of the input.
def mergeOperator : String := "..."

-- A definition from its parts; body and default values may be left out.
def make (key args body defaults methods : Value) : Except Error Macro := do
  return ⟨key, args, ← body.optionalEntries, ← defaults.optionalEntries, ← methods.members⟩

def isMerge (v : Value) : Bool := v.equal (.str mergeOperator)

-- The named arguments, without the merge operator.
def namedArgs (m : Macro) : Except Error (List Value) :=
  match m.args with
  | .bool true => .ok []
  | .str s => .ok (if s = mergeOperator then [] else [.str s])
  | v => do return (← v.members).filter fun a => !isMerge a

-- Whether the macro takes every field of its input.
def merges (m : Macro) : Bool :=
  match m.args with
  | .str s => s == mergeOperator
  | .list xs => xs.getLast?.any isMerge
  | .tuple xs => xs.getLast?.any isMerge
  | _ => false

def describe (m : Macro) : Except Error String := do
  return "<Macro " ++ (← m.key.repr?) ++ " args=" ++ (← m.args.repr?) ++ ">"

-- All parts of a definition, for comparison.
def parts (m : Macro) : Value :=
  .tuple [m.key, m.args, .map m.body, .map m.defaults, .list m.methods]

def agrees (a b : Macro) : Bool := a.parts.equal b.parts

-- The keys that macro definitions are written with.
def keys : List String := ["args", "defaults", "methods", "body"]

-- The grammar of macro definitions; later entries win where the binding key is one of the others.
def grammar (bindingKey : Value) : Value :=
  .map (Value.insertAll [(bindingKey, .str Marker.bindingForm.text)]
    [(.str "args", .str Marker.argList.text), (.str "defaults", .list [.map []])])

-- The language that macro definitions are written in.
def language (bindingKey : Value) : Except Error Language :=
  Language.declare (keys.map .str ++ [bindingKey]) bindingKey (grammar bindingKey) []

-- Reads a definition out of program data.
def ofData (key data : Value) : Except Error Macro :=
  match data with
  | .map es =>
    let entry (name : String) (default : Value) := (Value.find? es (.str name)).getD default
    make key (entry "args" (.bool true)) (entry "body" .null) (entry "defaults" .null)
      (entry "methods" (.tuple []))
  | v => .error (.member v.kind "get")

end Macro

end Dialect
