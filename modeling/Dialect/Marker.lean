namespace Dialect

-- What a key of a grammar stands for. Four of the markers are written as words, the fifth as a pair
-- of the word `sequence-of` and a nested grammar.
inductive Marker where
  | bindingForm
  | sequenceOf
  | nameSpace
  | valueReference
  | argList
deriving Repr, DecidableEq, Inhabited

namespace Marker

def text : Marker → String
  | bindingForm => "binding-form"
  | sequenceOf => "sequence-of"
  | nameSpace => "namespace"
  | valueReference => "value-reference"
  | argList => "arg-list"

-- The markers that are written as a word of their own.
def ofWord? : String → Option Marker
  | "binding-form" => some bindingForm
  | "namespace" => some nameSpace
  | "value-reference" => some valueReference
  | "arg-list" => some argList
  | _ => none

theorem ofWord?_eq_some_iff {s : String} {m : Marker} :
    ofWord? s = some m ↔ m ≠ sequenceOf ∧ m.text = s := by
  constructor
  · intro h
    unfold ofWord? at h
    split at h <;> simp_all [text]
    all_goals subst h; simp
  · rintro ⟨h, rfl⟩
    cases m <;> simp_all [ofWord?, text]

end Marker

end Dialect
