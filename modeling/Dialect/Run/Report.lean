import Dialect.Run.Basic

namespace Dialect

inductive Status where
  | success
  | error
deriving Repr, DecidableEq, Inhabited

def Status.text : Status → String
  | success => "success"
  | error => "error"

structure Report where
  status : Status
  -- the scope that a successful run gave
  scope : Option ScopeId
  message : Value
  -- the keys that a failure has passed through, innermost first
  trail : List String
deriving Inhabited

namespace Report

-- The error with the path of aspects that led to it, outermost first.
def formatError (r : Report) : String :=
  match r.status with
  | .success => ""
  | .error =>
    let text := if r.message.truthy then r.message.text else "Unknown error"
    if r.trail.isEmpty then text
    else text ++ "\nIn aspect: " ++ " > ".intercalate r.trail.reverse

def ofSuccess (scope : ScopeId) : Report := ⟨.success, some scope, .null, []⟩

def ofFailure (r : Raised) : Report := ⟨.error, none, .str r.error.summary, r.trail⟩

end Report

-- Runs programs of one language from fixed root bindings; it reports how a run ended and raises
-- nothing.
structure ProgramRunner where
  language : Nat
  bindings : List (Value × Value)
deriving Inhabited

namespace ProgramRunner

-- A runner; root bindings that count as false are none.
def make (language : Nat) (bindings : Value) : Except Error ProgramRunner := do
  return ⟨language, ← bindings.optionalEntries⟩

-- A new root scope with the root bindings.
def rootScope (p : ProgramRunner) : Engine ScopeId := Engine.openRoot (.map p.bindings)

-- Forgets the trail that a failure has left on its error object.
def clear (w : World) (r : Raised) : World := w.remember { r with trail := [] }

-- Runs a program, from a scope or from a new root, and reports the outcome.
def handle (p : ProgramRunner) (program : Value) (scope : Option ScopeId) (w : World) :
    Report × World :=
  let act : Engine ScopeId := do
    let start ← match scope with
      | some i => pure i
      | none => p.rootScope
    runProgram p.language program start
  match act w with
  | .ok i w' => (.ofSuccess i, w')
  | .error r w' => (.ofFailure r, clear w' r)

end ProgramRunner

end Dialect
