import Dialect.Expr.Evaluator
import Dialect.Proofs.Scope.View
import Dialect.Value.Arithmetic
import Mathlib.Data.List.Forall2

namespace Dialect

variable (l l' : Nat)

mutual

-- One value is the other with some runners of the first language exchanged for the second.
def Swapped : Value → Value → Prop
  | .runner a n, v => v = .runner a n ∨ a = l ∧ v = .runner l' n
  | .list xs, v => ∃ ys, v = .list ys ∧ SwappedAll xs ys
  | .tuple xs, v => ∃ ys, v = .tuple ys ∧ SwappedAll xs ys
  | .set xs, v => ∃ ys, v = .set ys ∧ SwappedAll xs ys
  | .map es, v => ∃ fs, v = .map fs ∧ SwappedEntries es fs
  | .program d a, v => ∃ d', v = .program d' a ∧ Swapped d d'
  | .branch args test yes no n, v => ∃ args', v = .branch args' test yes no n ∧
      SwappedAll args args'
  | u, v => v = u

def SwappedAll : List Value → List Value → Prop
  | [], ys => ys = []
  | x :: xs, ys => ∃ y ys', ys = y :: ys' ∧ Swapped x y ∧ SwappedAll xs ys'

def SwappedEntries : List (Value × Value) → List (Value × Value) → Prop
  | [], fs => fs = []
  | (k, v) :: es, fs => ∃ k' v' fs', fs = (k', v') :: fs' ∧ Swapped k k' ∧ Swapped v v' ∧
      SwappedEntries es fs'

end

-- Outcomes of work that may fail: alike results, or the same error.
def SwappedOutcome {α β : Type} (R : α → β → Prop) : Except Error α → Except Error β → Prop
  | .ok a, .ok b => R a b
  | .error e, .error e' => e = e'
  | _, _ => False

variable {l l'}

mutual

theorem Swapped.refl (v : Value) : Swapped l l' v v := by
  cases v with
  | list xs => exact ⟨xs, rfl, SwappedAll.refl xs⟩
  | tuple xs => exact ⟨xs, rfl, SwappedAll.refl xs⟩
  | set xs => exact ⟨xs, rfl, SwappedAll.refl xs⟩
  | map es => exact ⟨es, rfl, SwappedEntries.refl es⟩
  | program d a => exact ⟨d, rfl, Swapped.refl d⟩
  | branch args test yes no n => exact ⟨args, rfl, SwappedAll.refl args⟩
  | runner a n => exact .inl rfl
  | _ => simp only [Swapped]

theorem SwappedAll.refl (vs : List Value) : SwappedAll l l' vs vs := by
  cases vs with
  | nil => simp only [SwappedAll]
  | cons v vs => exact ⟨v, vs, rfl, Swapped.refl v, SwappedAll.refl vs⟩

theorem SwappedEntries.refl (es : List (Value × Value)) : SwappedEntries l l' es es := by
  cases es with
  | nil => simp only [SwappedEntries]
  | cons e es =>
      obtain ⟨k, v⟩ := e
      exact ⟨k, v, es, rfl, Swapped.refl k, Swapped.refl v, SwappedEntries.refl es⟩

end

theorem swappedAll_iff {xs ys : List Value} :
    SwappedAll l l' xs ys ↔ List.Forall₂ (Swapped l l') xs ys := by
  induction xs generalizing ys with
  | nil => simp [SwappedAll, List.forall₂_nil_left_iff]
  | cons x xs ih =>
      simp only [SwappedAll, List.forall₂_cons_left_iff, ih]
      constructor
      · rintro ⟨y, ys', rfl, h, hs⟩
        exact ⟨y, ys', h, hs, rfl⟩
      · rintro ⟨y, ys', h, hs, rfl⟩
        exact ⟨y, ys', rfl, h, hs⟩

theorem swappedEntries_iff {es fs : List (Value × Value)} :
    SwappedEntries l l' es fs ↔
      List.Forall₂ (fun e f => Swapped l l' e.1 f.1 ∧ Swapped l l' e.2 f.2) es fs := by
  induction es generalizing fs with
  | nil => simp [SwappedEntries, List.forall₂_nil_left_iff]
  | cons e es ih =>
      simp only [SwappedEntries, List.forall₂_cons_left_iff, ih]
      constructor
      · rintro ⟨k, v, fs', rfl, hk, hv, hs⟩
        exact ⟨(k, v), fs', ⟨hk, hv⟩, hs, rfl⟩
      · rintro ⟨⟨k, v⟩, fs', ⟨hk, hv⟩, hs, rfl⟩
        exact ⟨k, v, fs', rfl, hk, hv, hs⟩

variable (l l') in
-- Two values that differ in their runners only, by the outermost difference.
inductive SwapView : Value → Value → Prop where
  | same (v : Value) : SwapView v v
  | runner (n : Nat) : SwapView (.runner l n) (.runner l' n)
  | list {xs ys : List Value} (h : List.Forall₂ (Swapped l l') xs ys) :
      SwapView (.list xs) (.list ys)
  | tuple {xs ys : List Value} (h : List.Forall₂ (Swapped l l') xs ys) :
      SwapView (.tuple xs) (.tuple ys)
  | set {xs ys : List Value} (h : List.Forall₂ (Swapped l l') xs ys) :
      SwapView (.set xs) (.set ys)
  | map {es fs : List (Value × Value)}
      (h : List.Forall₂ (fun e f => Swapped l l' e.1 f.1 ∧ Swapped l l' e.2 f.2) es fs) :
      SwapView (.map es) (.map fs)
  | program {d d' : Value} (a : Nat) (h : Swapped l l' d d') :
      SwapView (.program d a) (.program d' a)
  | branch {args args' : List Value} (test yes no : Expr.Compiled) (n : Nat)
      (h : List.Forall₂ (Swapped l l') args args') :
      SwapView (.branch args test yes no n) (.branch args' test yes no n)

namespace Swapped

variable {u v : Value}

theorem view (h : Swapped l l' u v) : SwapView l l' u v := by
  cases u <;> simp only [Swapped] at h
  case runner a n =>
    rcases h with rfl | ⟨rfl, rfl⟩
    · exact .same _
    · exact .runner n
  case list xs =>
    obtain ⟨ys, rfl, h⟩ := h
    exact .list (swappedAll_iff.mp h)
  case tuple xs =>
    obtain ⟨ys, rfl, h⟩ := h
    exact .tuple (swappedAll_iff.mp h)
  case set xs =>
    obtain ⟨ys, rfl, h⟩ := h
    exact .set (swappedAll_iff.mp h)
  case map es =>
    obtain ⟨fs, rfl, h⟩ := h
    exact .map (swappedEntries_iff.mp h)
  case program d a =>
    obtain ⟨d', rfl, h⟩ := h
    exact .program a h
  case branch args test yes no n =>
    obtain ⟨args', rfl, h⟩ := h
    exact .branch test yes no n (swappedAll_iff.mp h)
  all_goals
    subst h
    exact .same _

theorem of_list {xs ys : List Value} (h : List.Forall₂ (Swapped l l') xs ys) :
    Swapped l l' (.list xs) (.list ys) := by
  simp only [Swapped]
  exact ⟨ys, rfl, swappedAll_iff.mpr h⟩

theorem of_tuple {xs ys : List Value} (h : List.Forall₂ (Swapped l l') xs ys) :
    Swapped l l' (.tuple xs) (.tuple ys) := by
  simp only [Swapped]
  exact ⟨ys, rfl, swappedAll_iff.mpr h⟩

theorem of_map {es fs : List (Value × Value)}
    (h : List.Forall₂ (fun e f => Swapped l l' e.1 f.1 ∧ Swapped l l' e.2 f.2) es fs) :
    Swapped l l' (.map es) (.map fs) := by
  simp only [Swapped]
  exact ⟨fs, rfl, swappedEntries_iff.mpr h⟩

theorem of_branch {args args' : List Value} (h : List.Forall₂ (Swapped l l') args args')
    (test yes no : Expr.Compiled) (n : Nat) :
    Swapped l l' (.branch args test yes no n) (.branch args' test yes no n) := by
  simp only [Swapped]
  exact ⟨args', rfl, swappedAll_iff.mpr h⟩

theorem of_runner (n : Nat) : Swapped l l' (.runner l n) (.runner l' n) := by
  simp [Swapped]

theorem kind_eq (h : Swapped l l' u v) : u.kind = v.kind := by
  cases h.view <;> rfl

theorem truthy_eq (h : Swapped l l' u v) : u.truthy = v.truthy := by
  cases h.view with
  | list hs => cases hs <;> rfl
  | tuple hs => cases hs <;> rfl
  | set hs => cases hs <;> rfl
  | map hs => cases hs <;> rfl
  | _ => rfl

-- A text matches both or none.
theorem same_str (h : Swapped l l' u v) (p : String) :
    (Value.str p).same u = (Value.str p).same v := by
  cases h.view <;> rfl

theorem operand?_eq (h : Swapped l l' u v) : u.operand? = v.operand? := by
  cases h.view <;> rfl

theorem ofValue_eq (h : Swapped l l' u v) : Path.ofValue u = Path.ofValue v := by
  cases h.view <;> rfl

end Swapped

-- Two options that are alike are both empty or both hold something.
theorem rel_cases {α β : Type} {R : α → β → Prop} {a : Option α} {b : Option β}
    (h : Option.Rel R a b) : a = none ∧ b = none ∨ ∃ x y, a = some x ∧ b = some y ∧ R x y := by
  cases h with
  | none => exact .inl ⟨rfl, rfl⟩
  | some h => exact .inr ⟨_, _, rfl, rfl, h⟩

namespace SwappedOutcome

variable {α β γ δ : Type} {R : α → β → Prop} {S : γ → δ → Prop}

theorem bind {x : Except Error α} {y : Except Error β} {f : α → Except Error γ}
    {g : β → Except Error δ} (h : SwappedOutcome R x y)
    (hf : ∀ a b, R a b → SwappedOutcome S (f a) (g b)) : SwappedOutcome S (x >>= f) (y >>= g) := by
  cases x <;> cases y
  · exact h
  · exact h.elim
  · exact h.elim
  · exact hf _ _ h

theorem of_eq {R : α → α → Prop} (hR : ∀ a, R a a) {x y : Except Error α} (h : x = y) :
    SwappedOutcome R x y := by
  subst h
  cases x
  · rfl
  · exact hR _

end SwappedOutcome

section

variable {es fs : List (Value × Value)} {u v : Value}

-- Entries with alike keys and values.
variable (l l') in
def SwappedPair (e f : Value × Value) : Prop := Swapped l l' e.1 f.1 ∧ Swapped l l' e.2 f.2

theorem SwappedEntries.find? (h : List.Forall₂ (SwappedPair l l') es fs) (p : String) :
    Option.Rel (Swapped l l') (Value.find? es (.str p)) (Value.find? fs (.str p)) := by
  unfold Value.find?
  induction h with
  | nil => exact .none
  | @cons e f es fs he _ ih =>
      rw [List.find?_cons, List.find?_cons, he.1.same_str p]
      cases (Value.str p).same f.1 with
      | true => exact .some he.2
      | false => exact ih

theorem SwappedEntries.insert (h : List.Forall₂ (SwappedPair l l') es fs) (p : String)
    (huv : Swapped l l' u v) :
    List.Forall₂ (SwappedPair l l') (Value.insert es (.str p) u) (Value.insert fs (.str p) v) := by
  induction h with
  | nil => exact .cons ⟨.refl _, huv⟩ .nil
  | @cons e f es fs he hs ih =>
      obtain ⟨k, x⟩ := e
      obtain ⟨k', y⟩ := f
      simp only [Value.insert, he.1.same_str p]
      split
      · exact .cons ⟨he.1, huv⟩ hs
      · exact .cons he ih

namespace Swapped

theorem members? (h : Swapped l l' u v) :
    Option.Rel (List.Forall₂ (Swapped l l')) u.members? v.members? := by
  cases h.view with
  | same =>
      cases u.members? with
      | none => exact .none
      | some xs => exact .some (List.forall₂_same.mpr fun x _ => .refl x)
  | list hs => exact .some hs
  | tuple hs => exact .some hs
  | set hs => exact .some hs
  | map hs =>
      refine .some (List.forall₂_map_left_iff.mpr (List.forall₂_map_right_iff.mpr ?_))
      exact hs.imp fun _ _ he => he.1
  | _ => exact .none

theorem members (h : Swapped l l' u v) :
    SwappedOutcome (List.Forall₂ (Swapped l l')) u.members v.members := by
  unfold Value.members
  rcases rel_cases h.members? with ⟨hu, hv⟩ | ⟨xs, ys, hu, hv, hs⟩
  · rw [hu, hv, h.kind_eq]
    rfl
  · rw [hu, hv]
    exact hs

theorem spread (h : Swapped l l' u v) :
    SwappedOutcome (List.Forall₂ (Swapped l l')) u.spread v.spread := by
  unfold Value.spread
  rcases rel_cases h.members? with ⟨hu, hv⟩ | ⟨xs, ys, hu, hv, hs⟩
  · rw [hu, hv, h.kind_eq]
    rfl
  · rw [hu, hv]
    exact hs

theorem any_same_eq {xs ys : List Value} (h : List.Forall₂ (Swapped l l') xs ys) (p : String) :
    (xs.any fun x => (Value.str p).same x) = ys.any fun y => (Value.str p).same y := by
  induction h with
  | nil => rfl
  | cons hx _ ih => rw [List.any_cons, List.any_cons, hx.same_str p, ih]

theorem hasName_eq (h : Swapped l l' u v) (p : String) : u.hasName p = v.hasName p := by
  cases h.view with
  | list hs => exact congrArg Except.ok (any_same_eq hs p)
  | tuple hs => exact congrArg Except.ok (any_same_eq hs p)
  | set hs => exact congrArg Except.ok (any_same_eq hs p)
  | map hs =>
      simp only [Value.hasName]
      rcases rel_cases (SwappedEntries.find? hs p) with ⟨hu, hv⟩ | ⟨x, y, hu, hv, -⟩ <;>
        simp [hu, hv]
  | _ => rfl

theorem atName (h : Swapped l l' u v) (p : String) :
    SwappedOutcome (Swapped l l') (u.atName p) (v.atName p) := by
  cases h.view with
  | same v => exact .of_eq .refl rfl
  | map hs =>
      simp only [Value.atName]
      rcases rel_cases (SwappedEntries.find? hs p) with ⟨hu, hv⟩ | ⟨x, y, hu, hv, hx⟩
      · rw [hu, hv]
        rfl
      · rw [hu, hv]
        exact hx
  | _ => rfl

theorem add {u' v' : Value} (h : Swapped l l' u v) (h' : Swapped l l' u' v') :
    SwappedOutcome (Swapped l l') (u.add u') (v.add v') := by
  have hplus : Value.plus.run u u' = Value.plus.run v v' := by
    unfold Value.Operation.run
    rw [h.operand?_eq, h'.operand?_eq, h.kind_eq, h'.kind_eq]
  have hrefl : ∀ xs : List Value, List.Forall₂ (Swapped l l') xs xs := fun xs =>
    List.forall₂_same.mpr fun x _ => .refl x
  -- Lists and tuples are joined with their like; all else depends on the kinds alone.
  cases h.view with
  | same =>
      cases h'.view with
      | same => exact .of_eq .refl rfl
      | list hs' =>
          cases u with
          | list xs => exact of_list (List.rel_append (hrefl xs) hs')
          | _ => rfl
      | tuple hs' =>
          cases u with
          | tuple xs => exact of_tuple (List.rel_append (hrefl xs) hs')
          | _ => rfl
      | _ => cases u <;> rfl
  | list hs =>
      cases h'.view with
      | list hs' => exact of_list (List.rel_append hs hs')
      | same =>
          cases u' with
          | list xs => exact of_list (List.rel_append hs (hrefl xs))
          | _ => rfl
      | _ => rfl
  | tuple hs =>
      cases h'.view with
      | tuple hs' => exact of_tuple (List.rel_append hs hs')
      | same =>
          cases u' with
          | tuple xs => exact of_tuple (List.rel_append hs (hrefl xs))
          | _ => rfl
      | _ => rfl
  | _ => exact .of_eq .refl hplus

end Swapped

mutual

theorem Swapped.overlong_eq {u v : Value} (h : Swapped l l' u v) : u.overlong = v.overlong := by
  cases u with
  | list xs =>
      simp only [Swapped] at h
      obtain ⟨ys, rfl, h⟩ := h
      exact SwappedAll.overlong_eq h
  | tuple xs =>
      simp only [Swapped] at h
      obtain ⟨ys, rfl, h⟩ := h
      exact SwappedAll.overlong_eq h
  | set xs =>
      simp only [Swapped] at h
      obtain ⟨ys, rfl, h⟩ := h
      exact SwappedAll.overlong_eq h
  | map es =>
      simp only [Swapped] at h
      obtain ⟨fs, rfl, h⟩ := h
      exact SwappedEntries.overlong_eq h
  | _ => cases h.view <;> rfl

theorem SwappedAll.overlong_eq {xs ys : List Value} (h : SwappedAll l l' xs ys) :
    Value.overlongAny xs = Value.overlongAny ys := by
  cases xs with
  | nil =>
      simp only [SwappedAll] at h
      rw [h]
  | cons x xs =>
      simp only [SwappedAll] at h
      obtain ⟨y, ys, rfl, hx, hs⟩ := h
      rw [Value.overlongAny, Value.overlongAny, hx.overlong_eq, hs.overlong_eq]

theorem SwappedEntries.overlong_eq {es fs : List (Value × Value)} (h : SwappedEntries l l' es fs) :
    Value.overlongEntry es = Value.overlongEntry fs := by
  cases es with
  | nil =>
      simp only [SwappedEntries] at h
      rw [h]
  | cons e es =>
      obtain ⟨k, v⟩ := e
      simp only [SwappedEntries] at h
      obtain ⟨k', v', fs, rfl, hk, hv, hs⟩ := h
      rw [Value.overlongEntry, Value.overlongEntry, hk.overlong_eq, hv.overlong_eq, hs.overlong_eq]

end

theorem Swapped.keyNames_eq {es fs : List (Value × Value)}
    (h : List.Forall₂ (SwappedPair l l') es fs) : keyNames es = keyNames fs := by
  induction h with
  | nil => rfl
  | @cons e f es fs he _ ih =>
      obtain ⟨k, v⟩ := e
      obtain ⟨k', v'⟩ := f
      unfold keyNames at ih ⊢
      rw [List.filterMap_cons, List.filterMap_cons, ih]
      cases he.1.view <;> rfl

-- The texts of containers, one equation for each.
theorem Value.repr_list (xs : List Value) :
    (Value.list xs).repr = "[" ++ ", ".intercalate (Value.reprAll xs) ++ "]" := rfl

theorem Value.repr_tuple (xs : List Value) :
    (Value.tuple xs).repr = tupleText (Value.reprAll xs) := rfl

theorem Value.repr_set (x : Value) (xs : List Value) : (Value.set (x :: xs)).repr =
    "\x7b" ++ ", ".intercalate (x.repr :: Value.reprAll xs) ++ "\x7d" := rfl

theorem Value.repr_map (es : List (Value × Value)) :
    (Value.map es).repr = "\x7b" ++ ", ".intercalate (Value.reprEntries es) ++ "\x7d" := rfl

theorem Value.repr_program (es : List (Value × Value)) (l : Nat) :
    (Value.program (.map es) l).repr =
      "<Program keys=[" ++ ", ".intercalate (keyNames es) ++ "] language=#" ++ Text.ofNat 10 l
        ++ ">" := rfl

theorem SwapView.repr_program_eq {d d' : Value} (h : SwapView l l' d d') (a : Nat) :
    (Value.program d a).repr = (Value.program d' a).repr := by
  cases h with
  | map hs => rw [Value.repr_program, Value.repr_program, Swapped.keyNames_eq hs]
  | _ => rfl

mutual

-- A function for sub-programs looks the same whatever its language.
theorem Swapped.repr_eq {u v : Value} (h : Swapped l l' u v) : u.repr = v.repr := by
  cases u with
  | list xs =>
      simp only [Swapped] at h
      obtain ⟨ys, rfl, h⟩ := h
      rw [Value.repr_list, Value.repr_list, SwappedAll.repr_eq h]
  | tuple xs =>
      simp only [Swapped] at h
      obtain ⟨ys, rfl, h⟩ := h
      rw [Value.repr_tuple, Value.repr_tuple, SwappedAll.repr_eq h]
  | set xs =>
      simp only [Swapped] at h
      obtain ⟨ys, rfl, h⟩ := h
      cases xs with
      | nil =>
          simp only [SwappedAll] at h
          rw [h]
      | cons x xs =>
          simp only [SwappedAll] at h
          obtain ⟨y, ys, rfl, hx, hs⟩ := h
          rw [Value.repr_set, Value.repr_set, hx.repr_eq, hs.repr_eq]
  | map es =>
      simp only [Swapped] at h
      obtain ⟨fs, rfl, h⟩ := h
      rw [Value.repr_map, Value.repr_map, SwappedEntries.repr_eq h]
  | program d a =>
      simp only [Swapped] at h
      obtain ⟨d', rfl, h⟩ := h
      exact h.view.repr_program_eq a
  | runner a n => cases h.view <;> rfl
  | branch args test yes no n => cases h.view <;> rfl
  | _ =>
      simp only [Swapped] at h
      rw [h]

theorem SwappedAll.repr_eq {xs ys : List Value} (h : SwappedAll l l' xs ys) :
    Value.reprAll xs = Value.reprAll ys := by
  cases xs with
  | nil =>
      simp only [SwappedAll] at h
      rw [h]
  | cons x xs =>
      simp only [SwappedAll] at h
      obtain ⟨y, ys, rfl, hx, hs⟩ := h
      exact congrArg₂ List.cons hx.repr_eq hs.repr_eq

theorem SwappedEntries.repr_eq {es fs : List (Value × Value)} (h : SwappedEntries l l' es fs) :
    Value.reprEntries es = Value.reprEntries fs := by
  cases es with
  | nil =>
      simp only [SwappedEntries] at h
      rw [h]
  | cons e es =>
      obtain ⟨k, v⟩ := e
      simp only [SwappedEntries] at h
      obtain ⟨k', v', fs, rfl, hk, hv, hs⟩ := h
      have hentry : k.repr ++ ": " ++ v.repr = k'.repr ++ ": " ++ v'.repr := by
        rw [hk.repr_eq, hv.repr_eq]
      exact congrArg₂ List.cons hentry hs.repr_eq

end

-- Compiling sees no difference: texts are the same, and all else is refused by what it looks like.
theorem Swapped.compile_eq {u v : Value} (h : Swapped l l' u v) (e : Expr.Evaluator)
    (params : Value) : e.compile u params = e.compile v params := by
  have hrepr : u.repr? = v.repr? := by
    unfold Value.repr?
    rw [h.overlong_eq, h.repr_eq]
  cases h.view with
  | same => rfl
  | _ =>
      unfold Expr.Evaluator.compile
      simp only [hrepr]

end

end Dialect
