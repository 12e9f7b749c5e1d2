import Dialect.Pipeline.Step
import Dialect.Program
import Dialect.Run.World

namespace Dialect

open Dialect.Expr (Compiled)

-- The name under which a run leaves the function for its sub-programs.
def runnerName : String := "@runner"

-- The name under which a pipeline is collected.
def pipelineName : String := "@pipeline"

-- Runs program data under the language of a number, from a scope. Actions are given such a function
-- from outside, so that everything here is plain recursion on lists.
abbrev Runner := Nat → Value → ScopeId → Engine ScopeId

namespace Runner

-- Runs a sub-program: data without a language of its own takes the given one, nothing at all is
-- an empty program.
def start (run : Runner) (language : Nat) (sub : Value) (scope : ScopeId) : Engine ScopeId :=
  match sub with
  | .program data own => run own data scope
  | data => run language (Program.dataOf data) scope

-- Calls a value as a function that runs sub-programs.
def call (run : Runner) (f sub : Value) (scope : ScopeId) : Engine ScopeId :=
  match f with
  | .runner language _ => run.start language sub scope
  | .compiled g => .fail (.kind (.arity g.source g.slots.length 2))
  | .keep _ _ => .fail (.kind (.arguments
      (ErrorClass.surplusText "pipeline_language.<locals>.filter_.<locals>.keep" 1 2)))
  | .branch _ _ _ _ _ => .fail (.kind (.arguments
      (ErrorClass.surplusText "pipeline_language.<locals>.when.<locals>.branch" 1 2)))
  | v => .fail (.kind (.notCallable v.kind))

-- Runs sub-programs from left to right, each from the scope that the one before gave.
def callAll (run : Runner) (f : Value) : List Value → ScopeId → Engine ScopeId
  | [], scope => pure scope
  | sub :: subs, scope => do callAll run f subs (← run.call f sub scope)

end Runner

namespace Engine

-- Compiles an expression over positional parameters.
def compile (evaluator : Nat) (expression : Value) (params : List String) : Engine Compiled := do
  let w ← get
  let (r, e) := (w.evaluator evaluator).compile expression (.tuple (params.map .str))
  set { w with
    evaluators := w.evaluators.set evaluator e
    journal := .asked expression params :: w.journal }
  ofExcept r

-- Adds a step at the end of the pipeline.
def appendStep (scope : ScopeId) (step : Value) : Engine ScopeId := do
  let pipeline ← ask fun s => s.resolve scope pipelineName
  let steps ← ofExcept pipeline.spread
  change fun s => s.provide scope pipelineName (.list (steps ++ [step]))
  return scope

-- Compiles what stands at a name of a value.
def compileAt (evaluator : Nat) (v : Value) (name : String) (params : List String) :
    Engine Compiled := do
  compile evaluator (← ofExcept (v.atName name)) params

-- An optional entry: only mappings can be asked.
def optional (v : Value) (name : String) : Engine Value :=
  match v with
  | .map es => return (Value.find? es (.str name)).getD .null
  | v => fail (.member v.kind "get")

-- The arguments of a condition: the item alone, unless some are given.
def conditionArgs (v : Value) : Engine (List Value) := do
  let args ← optional v "args"
  if args.truthy then ofExcept args.members else return [.mark .input]

end Engine

open Engine in
-- Performs an action. What comes out is a scope, or something else of that kind.
def Action.perform (run : Runner) (value : Value) (scope : ScopeId) :
    Action → Engine (Except Kind ScopeId)
  | bindForm _ => do
    return .ok (← openWith scope (← ask fun s => s.resolveIn scope value))
  | runSequence key => do
    match ← ask fun s => s.getD scope runnerName .null with
    | .null => Engine.fail (.missingRunner key)
    | f => return .ok (← run.callAll f (← ofExcept value.members) scope)
  | bindNamespace key => return .ok (← openScope scope [("@" ++ key, value)])
  | transform evaluator => do
    let f ← compileAt evaluator value "expression" (Pipeline.argNames 1)
    return .ok (← appendStep scope (.compiled f))
  | filter evaluator => do
    let f ← compileAt evaluator value "expression" (Pipeline.argNames 1)
    return .ok (← appendStep scope (.keep f scope))
  | choose evaluator => do
    let args ← conditionArgs value
    let test ← compileAt evaluator value "condition" (Pipeline.argNames args.length)
    let yes ← compileAt evaluator value "consequent" (Pipeline.argNames 1)
    let no ← compileAt evaluator value "alternative" (Pipeline.argNames 1)
    return .ok (← appendStep scope (.branch args test yes no scope))
  | noop => return .ok scope
  | bind name => return .ok (← openScope scope [(name, value)])
  | rebind name => do
    change fun s => s.bind scope (.object [(name, value)])
    return .ok scope
  | emit => do
    let out ← ofExcept (← ask fun s => s.resolve scope "out").spread
    change fun s => s.provide scope "out" (.list (out ++ [value]))
    return .ok scope
  | add => do
    let total ← ask fun s => s.resolve scope "total"
    let sum ← ofExcept (total.add value)
    change fun s => s.provide scope "total" sum
    return .ok scope
  | provide => do
    let path ← ofExcept (value.atName "path")
    let new ← ofExcept (value.atName "value")
    let path ← ofExcept (Path.ofValue path)
    change fun s => s.provide scope path new
    return .ok scope
  | lookup name => do
    let path ← ofExcept (Path.ofValue value)
    return .ok (← openScope scope [(name, ← ask fun s => s.resolve scope path)])
  | pop => do
    match (← get).store.parent? scope with
    | some p => return .ok p
    | none => return .error .null
  | give v => return .error v.kind
  | sub => do
    let f ← ask fun s => s.resolve scope runnerName
    return .ok (← run.call f value scope)
  | fail c args label => raise c args label

-- Calls a function: the call is noted first, if it keeps a journal.
def Handler.call (run : Runner) (h : Handler) (value : Value) (scope : ScopeId) :
    Engine (Except Kind ScopeId) := do
  if let some key := h.journal then
    modify fun w => w.note (.fired key value (w.store.bindings scope).names)
  h.action.perform run value scope

-- Applies an aspect; what comes out must be a scope.
def Aspect.apply (run : Runner) (a : Aspect) (value : Value) (scope : ScopeId) :
    Engine ScopeId := do
  match ← a.handler.call run value scope with
  | .ok i => return i
  | .error k => Engine.fail (.kind (.notScope a.key k))

end Dialect
