import Dialect.Expr.Evaluator
import Dialect.Failure
import Dialect.Language
import Dialect.Scope.Store

namespace Dialect

open Dialect.Expr (Evaluator)

-- What a journal notes.
inductive Event where
  -- an aspect got a value in a scope with these names
  | fired (key : String) (value : Value) (names : List String)
  -- an evaluator was asked for an expression
  | asked (expression : Value) (params : List String)
deriving Inhabited

-- Scopes, languages and expression evaluators by number, error objects that are raised more than
-- once, and a journal.
structure World where
  store : Store
  languages : List Language
  evaluators : List Evaluator
  -- errors that exist once, with the trails they carry
  shared : List (String × Error × List String)
  -- the newest event first
  journal : List Event
deriving Inhabited

-- Work in a world that may fail; what it did to the world before it failed remains.
abbrev Engine := EStateM Raised World

namespace World

def empty : World := ⟨.empty, [], [], [], []⟩

def language (w : World) (i : Nat) : Language := w.languages[i]?.getD default

def evaluator (w : World) (i : Nat) : Evaluator := w.evaluators[i]?.getD (.empty i)

-- The error object of a label, if it exists already.
def shared? (w : World) (label : String) : Option (Error × List String) :=
  (w.shared.find? fun e => e.1 == label).map (·.2)

-- Sets what is kept for a label.
def keepIn (label : String) (x : Error × List String) :
    List (String × Error × List String) → List (String × Error × List String)
  | [] => [(label, x)]
  | (l, y) :: rest => if l == label then (l, x) :: rest else (l, y) :: keepIn label x rest

def keep (w : World) (label : String) (e : Error) (trail : List String) : World :=
  { w with shared := keepIn label (e, trail) w.shared }

-- Remembers the trail of an error object that may be raised again.
def remember (w : World) (r : Raised) : World :=
  match r.label with
  | some l => w.keep l r.error r.trail
  | none => w

def note (w : World) (e : Event) : World := { w with journal := e :: w.journal }

end World

namespace Engine

variable {α : Type}

-- Fails with an error of its own.
def fail (e : Error) : Engine α := throw (.fresh e)

def ofExcept (x : Except Error α) : Engine α :=
  match x with
  | .ok a => pure a
  | .error e => fail e

-- Reads something off the scopes.
def ask (f : Store → Except Error α) : Engine α := do ofExcept (f (← get).store)

-- Changes the scopes, or fails and leaves them.
def change (f : Store → Except Error Store) : Engine Unit := do
  let s ← ofExcept (f (← get).store)
  modify fun w => { w with store := s }

-- Opens a scope.
def openScope (parent : Option ScopeId) (b : Bindings) : Engine ScopeId := do
  let s := (← get).store
  modify fun w => { w with store := s.push parent b }
  return s.size

-- Opens a scope with what a value binds.
def openWith (parent : Option ScopeId) (v : Value) : Engine ScopeId := do
  openScope parent (← ofExcept (Bindings.add [] v))

-- Opens a root scope; bindings that count as false are none.
def openRoot (v : Value) : Engine ScopeId :=
  if v.truthy then openWith none v else openScope none []

-- Runs an action under a key: a failure is marked with the key on its way out.
def under (key : String) (act : Engine α) : Engine α := fun w =>
  match act w with
  | .ok a w' => .ok a w'
  | .error r w' => .error (r.through key) (w'.remember (r.through key))

-- Raises an error by class and arguments; with a label, the object made the first time.
def raise (c : ErrorClass) (args : List Value) (label : Option String) : Engine α := do
  match label with
  | none => fail (← ofExcept (c.construct args))
  | some l =>
    match (← get).shared? l with
    | some (e, trail) => throw ⟨e, trail, some l⟩
    | none =>
      let e ← ofExcept (c.construct args)
      modify fun w => w.keep l e []
      throw ⟨e, [], some l⟩

end Engine

end Dialect
