import Dialect.ReadFault
import Dialect.Value.Equality

namespace Dialect.Toml

abbrev Key := List String

abbrev Entries := List (Value × Value)

-- Changes the table at a key. A key of several parts leads through tables, which are made where
-- they are missing. With `throughLists` a list on the way stands for its last table.
def update (throughLists : Bool) (f : Entries → Except ReadFault Entries) :
    Key → Entries → Except ReadFault Entries
  | [], es => f es
  | k :: ks, es => do
    match Value.find? es (.str k) with
    | none => return Value.insert es (.str k) (.map (← update throughLists f ks []))
    | some (.map inner) =>
      return Value.insert es (.str k) (.map (← update throughLists f ks inner))
    | some (.list xs) =>
      match throughLists, xs.getLast? with
      | true, some (.map inner) =>
        return Value.insert es (.str k)
          (.list (xs.dropLast ++ [.map (← update throughLists f ks inner)]))
      | _, _ => .error .malformed
    | some _ => .error .malformed

-- Sets a name that must be new.
def setNew (name : String) (v : Value) (es : Entries) : Except ReadFault Entries :=
  match Value.find? es (.str name) with
  | some _ => .error .malformed
  | none => .ok (Value.insert es (.str name) v)

-- Adds an empty table to the list under a name.
def appendTable (name : String) (es : Entries) : Except ReadFault Entries :=
  match Value.find? es (.str name) with
  | none => .ok (Value.insert es (.str name) (.list [.map []]))
  | some (.list xs) => .ok (Value.insert es (.str name) (.list (xs ++ [.map []])))
  | some _ => .error .malformed

-- What is closed: tables that were declared, which cannot be declared again, and inline values with
-- all that is in them, which cannot grow.
structure Closed where
  declared : List Key
  inline : List Key

namespace Closed

def empty : Closed := ⟨[], []⟩

def isDeclared (c : Closed) (key : Key) : Bool := c.declared.contains key

-- Whether a key leads into an inline value.
def isInline (c : Closed) (key : Key) : Bool := c.inline.any fun k => k.isPrefixOf key

def declare (c : Closed) (key : Key) : Closed := { c with declared := key :: c.declared }

def addInline (c : Closed) (key : Key) : Closed := { c with inline := key :: c.inline }

-- Opens everything at a key and below it.
def release (c : Closed) (key : Key) : Closed :=
  ⟨c.declared.filter fun k => !key.isPrefixOf k, c.inline.filter fun k => !key.isPrefixOf k⟩

end Closed

-- Whether a value is written with brackets, and so closed.
def isNested : Value → Bool
  | .map _ => true
  | .list _ => true
  | _ => false

end Dialect.Toml
