import Dialect.Run.Report

namespace Dialect.Pipeline

-- The name under which the input mark is bound.
def inputName : String := "@input"

-- An aspect whose function has a name of its own.
def stepAspect (key name : String) (action : Action) : Aspect :=
  ⟨key, ⟨0, some name, none, action⟩, true⟩

-- The aspects of the three kinds of steps.
def aspects (evaluator : Nat) : List Aspect :=
  [stepAspect "transform" "transform" (.transform evaluator),
    stepAspect "filter" "filter_" (.filter evaluator),
    stepAspect "when" "when" (.choose evaluator)]

def allowedKeys : List String := ["config", "steps", "transform", "filter", "when", "bind"]

-- A grammar entry for a key that is marked with a word.
def marked (key : String) (m : Marker) : String × Value := (key, .str m.text)

def grammar : Value :=
  .object [marked "config" .nameSpace,
    ("steps", .list [.str Marker.sequenceOf.text,
      .object [marked "transform" .bindingForm, marked "filter" .bindingForm,
        marked "when" .bindingForm]])]

-- The pipeline language around the evaluator of a number. A program has a namespace of expressions
-- and a sequence of steps; each step compiles what it refers to and adds a function to the pipeline
-- that the root scope holds.
def language (evaluator : Nat) : Except Error Language :=
  Language.declare (allowedKeys.map .str) (.str "bind") grammar ((aspects evaluator).map .inl)

-- A root scope with an empty pipeline and the input mark; more bindings may hide either.
def rootBindings (bindings : Value) : Except Error Value := do
  let more ← if bindings.truthy then Language.grammarEntries bindings else pure []
  let own : List (Value × Value) :=
    [(.str pipelineName, .list []), (.str inputName, .mark .input)]
  return .map (Value.insertAll own more)

-- Opens such a root scope.
def openRoot (bindings : Value) : Engine ScopeId := do
  Engine.openWith none (← Engine.ofExcept (rootBindings bindings))

-- What the pipeline that a scope sees makes of the members of a value.
def applyIn (s : Store) (scope : ScopeId) (items : Value) : Except Error (List Value) := do
  apply (← s.resolve scope pipelineName) items

end Dialect.Pipeline
