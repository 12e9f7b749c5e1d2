import Dialect.Run.Act

namespace Dialect

open Engine

-- Fires one aspect on its part of the data. A failure is marked with the key, unless the data
-- cannot even be read at the key.
def fireAt (run : Runner) (key : String) (a : Aspect) (data : Value) (scope : ScopeId) :
    Engine ScopeId := do
  let raw ← ofExcept (data.atName key)
  under key do
    let value ← if a.resolves then ask fun s => s.resolveIn scope raw else pure raw
    a.apply run value scope

-- Walks through the steps of a language; absent keys are skipped.
def fireAll (run : Runner) (data : Value) : List (String × Aspect) → ScopeId → Engine ScopeId
  | [], scope => pure scope
  | (key, a) :: steps, scope => do
    if ← ofExcept (data.hasName key) then
      fireAll run data steps (← fireAt run key a data scope)
    else fireAll run data steps scope

-- Runs program data under a language: a scope is opened that holds the function for sub-programs,
-- and each step whose key occurs in the data gets the scope of the step before. The fuel bounds how
-- deep sub-programs can be nested.
def runWith : Nat → Runner
  | 0, _, _, _ => fail .tooDeep
  | fuel + 1, language, data, scope => do
    let w ← get
    let inner ← openScope scope [(runnerName, .runner language w.store.size)]
    fireAll (runWith fuel) data (w.language language).steps inner

-- How deep sub-programs may be nested beyond what the data shows.
def spareDepth : Nat := 1000

-- Runs program data under a language. Sub-programs that are written in the data always have
-- enough fuel.
def run (language : Nat) (data : Value) (scope : ScopeId) : Engine ScopeId :=
  runWith (data.depth + spareDepth) language data scope

-- Runs a program or plain data, from a scope.
def runProgram (language : Nat) (program : Value) (scope : ScopeId) : Engine ScopeId :=
  Runner.start run language program scope

-- Calls what a scope holds as the function for sub-programs.
def callRunner (program : Value) (scope : ScopeId) : Engine ScopeId := do
  Runner.call run (← ask fun s => s.resolve scope runnerName) program scope

-- Applies an aspect outside of any run.
def applyAspect (a : Aspect) (value : Value) (scope : ScopeId) : Engine ScopeId :=
  a.apply run value scope

end Dialect
