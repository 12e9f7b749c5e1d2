import Dialect.Error
import Dialect.Text.Occurrence
import Dialect.Value.Equality

namespace Dialect.Value

-- The characters of a text, each as a text.
def letters (s : String) : List Value := s.toList.map fun c => str (String.ofList [c])

-- The members that walking through a value meets: keys for a mapping. Those of a set come in the
-- order in which they were put in.
def members? : Value → Option (List Value)
  | list xs => some xs
  | tuple xs => some xs
  | set xs => some xs
  | str s => some (letters s)
  | map es => some (es.map (·.1))
  | bytes bs => some (bs.map fun b => int b.toNat)
  | _ => none

def members (v : Value) : Except Error (List Value) :=
  match v.members? with
  | some xs => .ok xs
  | none => .error (.kind (.notIterable v.kind))

-- The members as they are spread into a new list.
def spread (v : Value) : Except Error (List Value) :=
  match v.members? with
  | some xs => .ok xs
  | none => .error (.kind (.notUnpackable v.kind))

-- Whether a name occurs in program data: as a key, a member or a part of a text.
def hasName (v : Value) (name : String) : Except Error Bool :=
  match v with
  | map es => .ok (find? es (str name)).isSome
  | list xs => .ok (xs.any fun x => (str name).same x)
  | tuple xs => .ok (xs.any fun x => (str name).same x)
  | set xs => .ok (xs.any fun x => (str name).same x)
  | str s => .ok (Text.occursIn name.toList s.toList)
  | bytes _ => .error (.kind (.notBytes .str))
  | v => .error (.kind (.notContainer v.kind))

-- What stands at a name.
def atName (v : Value) (name : String) : Except Error Value :=
  match v with
  | map es => match find? es (str name) with
    | some x => .ok x
    | none => .error (.missingKey (str name))
  | str _ => .error (.kind (.textIndex .str))
  | list _ => .error (.kind (.index "list" .str))
  | tuple _ => .error (.kind (.index "tuple" .str))
  | bytes _ => .error (.kind (.index "byte" .str))
  | v => .error (.kind (.notSubscriptable v.kind))

-- A member with two parts of its own becomes an entry.
def pairOf (position : Nat) (v : Value) : Except Error (Value × Value) :=
  match v.members? with
  | none => .error (.kind (.notPair position))
  | some [k, x] => match k.unhashable? with
    | some h => .error (.kind (.unhashable h))
    | none => .ok (k, x)
  | some xs => .error (.pairLength position xs.length)

def entriesFrom (position : Nat) (acc : List (Value × Value)) :
    List Value → Except Error (List (Value × Value))
  | [] => .ok acc
  | v :: vs => do
    let (k, x) ← pairOf position v
    entriesFrom (position + 1) (insert acc k x) vs

-- A mapping's entries, or those that a sequence of pairs makes.
def toEntries (v : Value) : Except Error (List (Value × Value)) :=
  match v with
  | map es => .ok es
  | v => do entriesFrom 0 [] (← v.members)

-- Entries from a value that may be left out: anything that counts as false gives none.
def optionalEntries (v : Value) : Except Error (List (Value × Value)) :=
  if v.truthy then v.toEntries else .ok []

-- The members of a list of names; one that is no text stops the work.
def texts (position : Nat) : List Value → Except Error (List String)
  | [] => .ok []
  | str s :: rest => do return s :: (← texts (position + 1) rest)
  | v :: _ => .error (.kind (.joined position v.kind))

-- Names joined by commas.
def joinNames (vs : List Value) : Except Error String := do
  return ", ".intercalate (← texts 0 vs)

-- A value with its kind visible, unless a number in it is too long to be written.
def repr? (v : Value) : Except Error String :=
  if v.overlong then .error (.number .digitsWritten) else .ok v.repr

-- A value as text, unless a number in it is too long to be written.
def text? (v : Value) : Except Error String :=
  if v.overlong then .error (.number .digitsWritten) else .ok v.text

end Dialect.Value
