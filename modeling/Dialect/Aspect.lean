import Dialect.Error

namespace Dialect

open Text (quoted)

-- What can be done with a value in a scope.
inductive Action where
  -- resolves the value and opens a scope with what it binds
  | bindForm (key : String)
  -- runs the members of the value one after the other
  | runSequence (key : String)
  -- opens a scope that holds the value as it is, under the key after an at sign
  | bindNamespace (key : String)
  -- pipeline steps, compiled by the evaluator of that number
  | transform (evaluator : Nat)
  | filter (evaluator : Nat)
  | choose (evaluator : Nat)
  -- the scope as it is
  | noop
  -- opens a scope with one name in it
  | bind (name : String)
  -- binds one name in the scope itself
  | rebind (name : String)
  -- adds the value to the list called `out`
  | emit
  -- adds the value to the number called `total`
  | add
  -- writes the value's `value` at the value's `path`
  | provide
  -- opens a scope with what the value as a path stands for
  | lookup (name : String)
  -- goes back to the parent
  | pop
  -- gives a value in place of a scope
  | give (v : Value)
  -- runs the value as a sub-program
  | sub
  -- raises an error; one with a label is the same object every time
  | fail (c : ErrorClass) (args : List Value) (label : Option String)
deriving Inhabited

-- A function that aspects can share. Two with different labels are different functions, whatever
-- they do. A journal key makes it note every call.
structure Handler where
  label : Nat
  name : Option String
  journal : Option String
  action : Action
deriving Inhabited

-- An aspect answers to one key of a program and takes the key's value and a scope to a new scope.
-- What it does is one of a closed list of actions, so that runs can be reasoned about.
structure Aspect where
  key : String
  handler : Handler
  -- whether the value is resolved before the handler gets it
  resolves : Bool
deriving Inhabited

namespace Aspect

-- The aspect that opens a scope for a binding form; it resolves the value itself.
def ofBindingForm (label : Nat) (key : String) : Aspect :=
  ⟨key, ⟨label, some ("binding_form[" ++ key ++ "]"), none, .bindForm key⟩, false⟩

-- The aspect that runs the sub-programs of a sequence.
def ofSequence (label : Nat) (key : String) : Aspect :=
  ⟨key, ⟨label, some ("sequence_of[" ++ key ++ "]"), none, .runSequence key⟩, false⟩

-- The aspect that exposes its value verbatim.
def ofNamespace (label : Nat) (key : String) : Aspect :=
  ⟨key, ⟨label, some ("namespace[" ++ key ++ "]"), none, .bindNamespace key⟩, false⟩

-- A key must be a text.
def keyOf (v : Value) : Except Error String :=
  match v with
  | .str s => .ok s
  | v => .error (.kind (.aspectKey v.kind))

-- An aspect for a key of any kind.
def make (key : Value) (handler : Handler) (resolves : Bool) : Except Error Aspect := do
  return ⟨← keyOf key, handler, resolves⟩

def name (a : Aspect) : String := a.handler.name.getD "<callable>"

def describe (a : Aspect) : String :=
  "<Aspect " ++ quoted a.key ++ " -> " ++ a.name ++ (if a.resolves then "" else ", raw") ++ ">"

-- Aspects agree if they have the same key, the same function and resolve alike.
def agrees (a b : Aspect) : Bool :=
  a.key == b.key && a.handler.label == b.handler.label && a.resolves == b.resolves

-- Of aspects that agree, the first.
def distinct : List Aspect → List Aspect
  | [] => []
  | a :: as => a :: (distinct as).filter fun b => !a.agrees b

end Aspect

end Dialect
