import Dialect.Proofs.Run.Law

namespace Dialect

theorem World.languages_remember (w : World) (r : Raised) :
    (w.remember r).languages = w.languages := by
  unfold remember
  cases r.label <;> rfl

-- Languages stay as they are.
def Law.languages : Law where
  Done w w' := w'.languages = w.languages
  Failed w _ w' := w'.languages = w.languages
  Usable _ _ := True
  aside _ h _ := h
  trans huv hvw := hvw.trans huv
  usable _ _ := trivial
  opened _ _ := ⟨rfl, trivial⟩
  bound _ _ := rfl
  provided _ _ := rfl
  up _ _ := trivial
  fresh _ _ := rfl
  again _ := rfl
  made _ _ := rfl
  after huv hvw := hvw.trans huv

theorem Law.languages_marks : Law.languages.Marks :=
  fun _ h => (World.languages_remember _ _).trans h

namespace Engine

variable {α : Type}

-- The world that work has left, also if it failed.
def world : EStateM.Result Raised World α → World
  | .ok _ w => w
  | .error _ w => w

-- Work that leaves the languages of the world as they are.
def KeepsLanguages (x : Engine α) : Prop := ∀ w, (world (x w)).languages = w.languages

theorem KeepsLanguages.of_ok {x : Engine α} (hx : KeepsLanguages x) {a : α} {w w' : World}
    (h : x w = .ok a w') : w'.languages = w.languages := by
  have hw := hx w
  rw [h] at hw
  exact hw

end Engine

open Engine

-- No run declares, changes or forgets a language.
theorem keepsLanguages_runWith (fuel l : Nat) (data : Value) (i : ScopeId) :
    KeepsLanguages (runWith fuel l data i) := by
  intro w
  have hobeys := Law.languages_marks.obeys_runWith fuel l data i
  cases hrun : runWith fuel l data i w with
  | ok j w' => exact (hobeys.of_ok trivial hrun).1
  | error r w' => exact hobeys.of_error trivial hrun

namespace Call

variable {c : Call} {n : Nat} {j : ScopeId} {w : World}

-- All calls on the way of a call meet the same languages.
theorem Stands.languages {done rest : List (String × Aspect)} (h : c.Stands n done rest j w) :
    w.languages = c.world.languages :=
  (Law.languages_marks.stands trivial h).1

theorem Starts.languages {c' : Call} (h : c.Starts c') :
    c'.world.languages = c.world.languages :=
  (Law.languages_marks.starts trivial h).1

end Call

end Dialect
