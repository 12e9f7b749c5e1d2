import Dialect.Aspect
import Dialect.Value.Access

namespace Dialect

-- Keys with their markers, in the order in which a walk through a grammar first meets them.
abbrev Markers := List (Value × Marker)

namespace Markers

def find? (ms : Markers) (key : Value) : Option Marker :=
  (List.find? (fun e => key.same e.1) ms).map (·.2)

-- The keys of one marker.
def keysOf (ms : Markers) (m : Marker) : List Value :=
  (List.filter (fun e => e.2 == m) ms).map (·.1)

-- The marker a term puts on its key. A text must be a marker's word.
def ofTerm : Value → Except Error (Option Marker)
  | .str s => match Marker.ofWord? s with
    | some m => .ok (some m)
    | none => .error (.language (.unknownMarker s))
  | .list [.str "sequence-of", _] => .ok (some .sequenceOf)
  | .tuple [.str "sequence-of", _] => .ok (some .sequenceOf)
  | _ => .ok none

-- Notes a marker for a key; a key has one marker only.
def note (found : Markers) (key : Value) : Option Marker → Except Error Markers
  | none => .ok found
  | some m => match found.find? key with
    | none => .ok (found ++ [(key, m)])
    | some first =>
      if first = m then .ok found else .error (.language (.twoMarkers key first m))

mutual

-- Walks through a grammar, top down and from left to right. A grammar is a tree of mappings and
-- sequences whose keys may carry a marker.
def walk (found : Markers) : Value → Except Error Markers
  | .list xs => walkAll found xs
  | .tuple xs => walkAll found xs
  | .map es => walkEntries found es
  | _ => .ok found

def walkAll (found : Markers) : List Value → Except Error Markers
  | [] => .ok found
  | v :: vs => do walkAll (← walk found v) vs

def walkEntries (found : Markers) : List (Value × Value) → Except Error Markers
  | [] => .ok found
  | (k, term) :: es => do
    let noted ← note found k (← ofTerm term)
    walkEntries (← walk noted term) es

end

-- All marked keys of a grammar.
def ofGrammar (grammar : Value) : Except Error Markers := walk [] grammar

end Markers

-- From the markers of a grammar and a list of explicit aspects a language derives which aspect
-- answers to which key, and in which order aspects fire.
structure Language where
  allowed : List Value
  bindingKey : String
  grammar : Value
  -- the aspect of each key but the binding key
  table : List (String × Aspect)
  -- the keys in the order in which they fire
  order : List String
  explicit : List Aspect
  -- how many keys fire before the binding key
  bindingIndex : Nat
deriving Inhabited

namespace Language

-- The aspect that answers to a key in a table.
def lookup? (table : List (String × Aspect)) (key : String) : Option Aspect :=
  (table.find? fun e => e.1 == key).map (·.2)

-- Puts an aspect under its key: a key that is there keeps its place.
def enter (table : List (String × Aspect)) (a : Aspect) : List (String × Aspect) :=
  match table with
  | [] => [(a.key, a)]
  | (k, b) :: rest => if k == a.key then (k, a) :: rest else (k, b) :: enter rest a

def aspect? (l : Language) (key : String) : Option Aspect := lookup? l.table key

def bindingAspect (l : Language) : Aspect := .ofBindingForm 0 l.bindingKey

-- The aspects in the order in which they fire, without the binding key's.
def ordered (l : Language) : List (String × Aspect) :=
  l.order.filterMap fun k => (l.aspect? k).map fun a => (k, a)

-- What a run walks through: the binding key fires right after the namespaces, so that its values
-- may refer to them.
def steps (l : Language) : List (String × Aspect) :=
  l.ordered.take l.bindingIndex ++ (l.bindingKey, l.bindingAspect) :: l.ordered.drop l.bindingIndex

def describe (l : Language) : String :=
  "<Language binding=" ++ Text.quoted l.bindingKey ++ " order=[" ++ ", ".intercalate l.order ++ "]>"

-- Of equal names, the first.
def unique (names : List String) : List String := names.eraseDups

-- The allowed keys: the members of a value, each once. All must be able to be keys.
def allowedKeys (keys : List Value) : Except Error (List Value) :=
  match Value.unhashableIn? keys with
  | some k => .error (.kind (.unhashable k))
  | none => .ok (Value.distinct keys)

def isAllowed (allowed : List Value) (key : Value) : Bool := allowed.any fun k => key.same k

-- Explicit aspects must be aspects, each for an allowed key of its own.
def checkExplicit (allowed : List Value) (bindingKey : Value) (seen : List Aspect) :
    List (Aspect ⊕ Value) → Except Error (List Aspect)
  | [] => .ok seen
  | .inr v :: _ => .error (.kind (.notAspect v.kind))
  | .inl a :: rest =>
    if (Value.str a.key).equal bindingKey then
      .error (.language (.bindingExplicit bindingKey))
    else if !isAllowed allowed (.str a.key) then .error (.language (.aspectNotAllowed a.key))
    else if seen.any fun b => b.key == a.key then .error (.language (.aspectRepeated a.key))
    else checkExplicit allowed bindingKey (seen ++ [a]) rest

-- Marked keys must be allowed.
def checkMarked (allowed : List Value) (markers : Markers) : Except Error Unit :=
  match markers.filter fun e => !isAllowed allowed e.1 with
  | [] => .ok ()
  | unknown => do .error (.language (.keysNotAllowed (← Value.texts 0 (unknown.map (·.1)))))

-- The binding key may only be marked as what it is.
def checkBinding (bindingKey : Value) (markers : Markers) : Except Error Unit :=
  match markers.find? bindingKey with
  | none => .ok ()
  | some .bindingForm => .ok ()
  | some m => .error (.language (.bindingMarked bindingKey m))

-- Declares a language. In the table a sequence aspect hides an explicit one of the same key, and
-- that a binding form or a namespace. Namespaces fire first, then explicit aspects, sequences and
-- binding forms.
def declare (keys : List Value) (bindingKey grammar : Value) (aspects : List (Aspect ⊕ Value)) :
    Except Error Language := do
  let allowed ← allowedKeys keys
  unless isAllowed allowed bindingKey do
    throw (.language (.bindingNotAllowed bindingKey))
  let explicit ← checkExplicit allowed bindingKey [] aspects
  let markers ← Markers.ofGrammar grammar
  checkMarked allowed markers
  checkBinding bindingKey markers
  let namespaces ← (markers.keysOf .nameSpace).mapM Aspect.keyOf
  let others := (markers.keysOf .bindingForm).filter fun k => !k.equal bindingKey
  let bindings ← others.mapM Aspect.keyOf
  let sequences ← (markers.keysOf .sequenceOf).mapM Aspect.keyOf
  let table := (namespaces.map (Aspect.ofNamespace 0) ++ bindings.map (Aspect.ofBindingForm 0)
    ++ explicit ++ sequences.map (Aspect.ofSequence 0)).foldl enter []
  let order := unique (namespaces ++ explicit.map (·.key) ++ sequences ++ bindings)
  return {
    allowed, bindingKey := ← Aspect.keyOf bindingKey, grammar, table, order, explicit
    bindingIndex := namespaces.length }

-- Declares a language whose allowed keys are the members of a value.
def make (allowed bindingKey grammar : Value) (aspects : List (Aspect ⊕ Value)) :
    Except Error Language := do
  declare (← allowed.members) bindingKey grammar aspects

-- The entries of a grammar that is to be merged.
def grammarEntries (v : Value) : Except Error (List (Value × Value)) :=
  match v with
  | .map es => .ok es
  | v => .error (.kind (.notMapping v.kind))

-- New aspects after old ones; one for the same key takes the old one's place.
def replaceAll (table : List (String × Aspect)) :
    List (Aspect ⊕ Value) → Except Error (List (String × Aspect))
  | [] => .ok table
  | .inl a :: rest => replaceAll (enter table a) rest
  | .inr v :: _ => .error (.member v.kind "key")

-- A language with more keys, grammar and aspects and the same binding key.
def extend (l : Language) (keys grammar : Value) (aspects : List (Aspect ⊕ Value)) :
    Except Error Language := do
  let old ← grammarEntries l.grammar
  let new ← if grammar.truthy then grammarEntries grammar else pure []
  let table ← replaceAll (l.explicit.map fun a => (a.key, a)) aspects
  let more ← keys.spread
  declare (l.allowed ++ more) (.str l.bindingKey) (.map (Value.insertAll old new))
    (table.map fun e => .inl e.2)

end Language

end Dialect
