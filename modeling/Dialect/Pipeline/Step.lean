import Dialect.Expr.Eval
import Dialect.Failure
import Dialect.Value.Access

namespace Dialect.Pipeline

open Dialect.Expr (Compiled)

-- The name of the parameter at a position.
def argName (i : Nat) : String :=
  match i with
  | 0 => "x"
  | 1 => "y"
  | 2 => "z"
  | i => "x" ++ Text.ofNat 10 i

-- Parameter names for an expression of so many arguments: x, y, z, x3, x4 and so on.
def argNames (count : Nat) : List String := (List.range count).map argName

-- As many names as a value counts.
def argNamesOf (count : Value) : Except Error (List String) :=
  match count with
  | .int n => .ok (argNames n.toNat)
  | .bool b => .ok (argNames b.toNat)
  | v => .error (.kind (.notWhole v.kind))

-- The arguments of a condition: the item itself stands where the input mark is.
def fill (item : Value) (args : List Value) : List Value :=
  args.map fun a => match a with
    | .mark .input => item
    | a => a

-- Sends an item through one step.
def callStep (step item : Value) : Except Error Value :=
  match step with
  | .compiled f => f.call [item]
  | .keep test _ => do
    return if (← test.call [item]).truthy then item else .mark .dropped
  | .branch args test yes no _ => do
    if (← test.call (fill item args)).truthy then yes.call [item] else no.call [item]
  | .runner _ _ =>
    .error (.kind (.arguments (ErrorClass.missingText "_runner_for.<locals>.runner" ["scope"])))
  | v => .error (.kind (.notCallable v.kind))

-- Whether an item has been dropped.
def isDropped : Value → Bool
  | .mark .dropped => true
  | _ => false

-- Sends an item through steps one after the other, or until it is dropped. What else a step does
-- on the way to its result is up to it.
def through {m : Type → Type} [Monad m] : List (Value → m Value) → Value → m Value
  | [], item => pure item
  | step :: steps, item => do
    let next ← step item
    if isDropped next then return next else through steps next

-- Sends all items through, each through all steps before the next; what is dropped is left out.
def throughAll {m : Type → Type} [Monad m] (steps : List (Value → m Value)) :
    List Value → m (List Value)
  | [] => pure []
  | item :: items => do
    let out ← through steps item
    let rest ← throughAll steps items
    return if isDropped out then rest else out :: rest

-- What the steps of a pipeline make of an item.
def applySteps (steps : List Value) (item : Value) : Except Error Value :=
  through (steps.map callStep) item

-- What a pipeline makes of the members of a value.
def apply (pipeline items : Value) : Except Error (List Value) := do
  let steps ← pipeline.members
  throughAll (steps.map callStep) (← items.members)

end Dialect.Pipeline
