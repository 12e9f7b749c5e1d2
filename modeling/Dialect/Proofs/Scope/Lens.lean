import Dialect.Proofs.Value.Entries
import Dialect.Scope.Path
import Mathlib.Data.List.Basic

namespace Dialect

namespace Path

-- What a part selects in a container.
def child (v : Value) (p : String) : Except Error (Option Value) :=
  match v with
  | .map es => .ok (Value.find? es (.str p))
  | .list xs => (index? p).map (·.bind (xs[·]?))
  | .tuple xs => (index? p).map (·.bind (xs[·]?))
  | _ => .ok none

-- The container with what a part selects replaced. Reading and writing at a path go through a value
-- one part at a time, so the laws are shown for one part and carried along paths.
def setChild (v : Value) (p : String) (f : Value → Value) : Value :=
  match v with
  | .map es => .map (Value.insert es (.str p) (f ((Value.find? es (.str p)).getD .null)))
  | .list xs => .list (setAt xs p f)
  | .tuple xs => .tuple (setAt xs p f)
  | v => v

theorem find_cons (v : Value) (p : String) (ps : List String) :
    find v (p :: ps) = match child v p with
      | .ok (some x) => find x ps
      | .ok none => .ok none
      | .error e => .error e := by
  cases v with
  | map es =>
      simp only [find, child]
      cases Value.find? es (.str p) <;> rfl
  | list xs | tuple xs =>
      simp only [find, child]
      cases index? p with
      | error e => rfl
      | ok i =>
          simp only [Except.map, bind, Except.bind]
          cases i.bind (xs[·]?) <;> rfl
  | _ => rfl

theorem put_cons (new : Value) (p : String) (ps : List String) (v : Value) :
    put new (p :: ps) v = setChild v p (put new ps) := by
  cases v <;> rfl

-- What stands at a path stands at the rest of it in what the first part selects.
theorem find_cons_eq_some {v y : Value} {p : String} {ps : List String}
    (h : find v (p :: ps) = .ok (some y)) :
    ∃ x, child v p = .ok (some x) ∧ find x ps = .ok (some y) := by
  rw [find_cons] at h
  cases hx : child v p with
  | error e => simp [hx] at h
  | ok found =>
      cases found with
      | none => simp [hx] at h
      | some x =>
          rw [hx] at h
          exact ⟨x, rfl, h⟩

theorem find_cons_of_child {v x : Value} {p : String} (h : child v p = .ok (some x))
    (ps : List String) : find v (p :: ps) = find x ps := by
  rw [find_cons, h]

theorem find_append {v x : Value} {ps : List String} (h : find v ps = .ok (some x))
    (qs : List String) : find v (ps ++ qs) = find x qs := by
  induction ps generalizing v with
  | nil =>
      cases h
      rfl
  | cons p ps ih =>
      obtain ⟨y, hy, hx⟩ := find_cons_eq_some h
      rw [List.cons_append, find_cons_of_child hy, ih hx]

-- Two parts select the same member: the same key, or the same number however it is spelled.
def Together (v : Value) (p q : String) : Prop :=
  match v with
  | .map _ => p = q
  | .list _ => ∃ n, index? p = .ok (some n) ∧ index? q = .ok (some n)
  | .tuple _ => ∃ n, index? p = .ok (some n) ∧ index? q = .ok (some n)
  | _ => False

-- Two parts select different members: different keys, or different numbers.
def Apart (v : Value) (p q : String) : Prop :=
  match v with
  | .map _ => p ≠ q
  | .list _ => ∃ m n, index? p = .ok (some m) ∧ index? q = .ok (some n) ∧ m ≠ n
  | .tuple _ => ∃ m n, index? p = .ok (some m) ∧ index? q = .ok (some n) ∧ m ≠ n
  | _ => False

-- Two paths that part in a value: up to some place they select the same members.
inductive Diverge : Value → List String → List String → Prop where
  | here {v : Value} {p q : String} {ps qs : List String} (apart : Apart v p q) :
      Diverge v (p :: ps) (q :: qs)
  | later {v x : Value} {p q : String} {ps qs : List String} (together : Together v p q)
      (child : child v p = .ok (some x)) (diverge : Diverge x ps qs) :
      Diverge v (p :: ps) (q :: qs)

-- Containers of the same kind, with the same keys in the same order or with as many members.
def SameShape : Value → Value → Prop
  | .map es, .map fs => es.map (·.1) = fs.map (·.1)
  | .list xs, .list ys => xs.length = ys.length
  | .tuple xs, .tuple ys => xs.length = ys.length
  | _, _ => False

section

variable {v x : Value} {p q : String}

-- A part that selects a member of a sequence is its number.
theorem index_of_child {xs : List Value} (h : (index? p).map (·.bind (xs[·]?)) = .ok (some x)) :
    ∃ n, index? p = .ok (some n) ∧ xs[n]? = some x := by
  cases hp : index? p with
  | error e => simp [hp, Except.map] at h
  | ok i =>
      cases i with
      | none => simp [hp, Except.map] at h
      | some n => exact ⟨n, rfl, by simpa [hp, Except.map] using h⟩

theorem together_self (h : child v p = .ok (some x)) : Together v p p := by
  cases v with
  | map es => rfl
  | list xs | tuple xs =>
      obtain ⟨n, hn, -⟩ := index_of_child h
      exact ⟨n, hn, hn⟩
  | _ => cases h

theorem setAt_of_index {n : Nat} (h : index? p = .ok (some n)) (xs : List Value)
    (f : Value → Value) : setAt xs p f = xs.modify n f := by
  simp only [setAt, h]

theorem child_setChild (h : child v p = .ok (some x)) (hq : Together v p q) (f : Value → Value) :
    child (setChild v p f) q = .ok (some (f x)) := by
  cases v with
  | map es =>
      obtain rfl : p = q := hq
      have hx : Value.find? es (.str p) = some x := Except.ok.inj h
      simp only [child, setChild, Value.find?_insert_self, hx, Option.getD_some]
  | list xs | tuple xs =>
      obtain ⟨n, hp, hq⟩ := hq
      obtain ⟨m, hm, hx⟩ := index_of_child h
      obtain rfl : n = m := by simpa [hp] using hm
      simp only [child, setChild, hq, setAt_of_index hp, Except.map, Option.bind_some,
        List.getElem?_modify_eq, hx]
      rfl
  | _ => cases h

theorem child_setChild_of_apart (hq : Apart v p q) (f : Value → Value) :
    child (setChild v p f) q = child v q := by
  cases v with
  | map es =>
      have hne : Value.str p ≠ .str q := fun h => hq (Value.str.inj h)
      simp only [child, setChild, Value.find?_insert_of_ne es hne]
  | list xs | tuple xs =>
      obtain ⟨m, n, hp, hq, hne⟩ := hq
      simp only [child, setChild, hq, setAt_of_index hp, Except.map, Option.bind_some,
        List.getElem?_modify_ne f xs hne]
  | _ => cases hq

theorem child_of_together (h : child v p = .ok (some x)) (hq : Together v p q) :
    child v q = .ok (some x) := by
  cases v with
  | map es =>
      obtain rfl : p = q := hq
      exact h
  | list xs | tuple xs =>
      obtain ⟨n, hp, hq⟩ := hq
      simpa only [child, hp, hq] using h
  | _ => cases h

theorem setChild_setChild (h : child v p = .ok (some x)) (f g : Value → Value) :
    setChild (setChild v p f) p g = setChild v p fun y => g (f y) := by
  cases v with
  | map es =>
      have hx : Value.find? es (.str p) = some x := Except.ok.inj h
      simp only [setChild, Value.find?_insert_self, Value.insert_insert, hx, Option.getD_some]
  | list xs | tuple xs =>
      obtain ⟨n, hp, -⟩ := index_of_child h
      simp only [setChild, setAt_of_index hp, List.modify_modify_eq]
      rfl
  | _ => cases h

theorem setChild_congr (h : child v p = .ok (some x)) {f g : Value → Value} (hfg : f x = g x) :
    setChild v p f = setChild v p g := by
  cases v with
  | map es =>
      have hx : Value.find? es (.str p) = some x := Except.ok.inj h
      simp only [setChild, hx, Option.getD_some, hfg]
  | list xs | tuple xs =>
      obtain ⟨n, hp, hx⟩ := index_of_child h
      obtain ⟨hn, rfl⟩ := List.getElem?_eq_some_iff.mp hx
      simp only [setChild, setAt_of_index hp, List.modify_eq_take_cons_drop hn, hfg]
  | _ => cases h

theorem setChild_id (h : child v p = .ok (some x)) : setChild v p id = v := by
  cases v with
  | map es =>
      have hx : Value.find? es (.str p) = some x := Except.ok.inj h
      simp only [setChild, hx, Option.getD_some, id, Value.insert_of_find? hx]
  | list xs | tuple xs =>
      obtain ⟨n, hp, -⟩ := index_of_child h
      simp only [setChild, setAt_of_index hp, List.modify_id]
  | _ => cases h

theorem sameShape_setChild (h : child v p = .ok (some x)) (f : Value → Value) :
    SameShape v (setChild v p f) := by
  cases v with
  | map es => exact (Value.keys_insert_of_find? (Except.ok.inj h) _).symm
  | list xs | tuple xs =>
      obtain ⟨n, hp, -⟩ := index_of_child h
      simp only [setChild, SameShape, setAt_of_index hp, List.length_modify]
  | _ => cases h

end

section

variable {v x : Value} {ps : List String}

-- What was written is read.
theorem find_put (h : find v ps = .ok (some x)) (new : Value) :
    find (put new ps v) ps = .ok (some new) := by
  induction ps generalizing v with
  | nil => rfl
  | cons p ps ih =>
      obtain ⟨y, hy, hx⟩ := find_cons_eq_some h
      rw [put_cons, find_cons_of_child (child_setChild hy (together_self hy) _), ih hx]

-- Writing what is there changes nothing.
theorem put_self (h : find v ps = .ok (some x)) : put x ps v = v := by
  induction ps generalizing v with
  | nil =>
      cases h
      rfl
  | cons p ps ih =>
      obtain ⟨y, hy, hx⟩ := find_cons_eq_some h
      have hsame : put x ps y = id y := ih hx
      rw [put_cons, setChild_congr hy hsame, setChild_id hy]

-- The last write counts.
theorem put_put (h : find v ps = .ok (some x)) (old new : Value) :
    put new ps (put old ps v) = put new ps v := by
  induction ps generalizing v with
  | nil => rfl
  | cons p ps ih =>
      obtain ⟨y, hy, hx⟩ := find_cons_eq_some h
      rw [put_cons, put_cons, put_cons, setChild_setChild hy, setChild_congr hy (ih hx)]

-- By induction on the place where the paths part.
theorem find_put_of_diverge {qs : List String} (hd : Diverge v ps qs)
    (h : find v ps = .ok (some x)) (new : Value) : find (put new ps v) qs = find v qs := by
  induction hd with
  | here hapart => rw [put_cons, find_cons, find_cons, child_setChild_of_apart hapart]
  | later htogether hchild _ ih =>
      rw [find_cons_of_child hchild] at h
      rw [put_cons, find_cons_of_child (child_setChild hchild htogether _),
        find_cons_of_child (child_of_together hchild htogether), ih h]

-- The containers on the way keep their shape.
theorem sameShape_put {as bs : List String} (hb : bs ≠ []) (h : find v (as ++ bs) = .ok (some x))
    (new : Value) : ∃ c c', find v as = .ok (some c) ∧
      find (put new (as ++ bs) v) as = .ok (some c') ∧ SameShape c c' := by
  induction as generalizing v with
  | nil =>
      obtain ⟨p, ps, rfl⟩ := List.exists_cons_of_ne_nil hb
      obtain ⟨y, hy, -⟩ := find_cons_eq_some h
      refine ⟨v, _, rfl, rfl, ?_⟩
      rw [List.nil_append, put_cons]
      exact sameShape_setChild hy _
  | cons p as ih =>
      obtain ⟨y, hy, hx⟩ := find_cons_eq_some h
      obtain ⟨c, c', hc, hc', hshape⟩ := ih hx
      refine ⟨c, c', ?_, ?_, hshape⟩
      · rw [find_cons_of_child hy, hc]
      · rw [List.cons_append, put_cons, find_cons_of_child (child_setChild hy (together_self hy) _),
          hc']

end

theorem splitDots_ne_nil (cs : List Char) : splitDots cs ≠ [] := by
  cases cs with
  | nil => simp [splitDots]
  | cons c cs =>
      rw [splitDots]
      split
      · simp
      · split <;> simp

theorem splitDots_append (cs ds : List Char) :
    splitDots (cs ++ '.' :: ds) = splitDots cs ++ splitDots ds := by
  induction cs with
  | nil => simp [splitDots]
  | cons c cs ih =>
      rw [List.cons_append, splitDots, splitDots, ih]
      split
      · rfl
      · cases h : splitDots cs with
        | nil => exact absurd h (splitDots_ne_nil cs)
        | cons part parts => rfl

theorem parts_ne_nil (s : String) : parts s ≠ [] := by
  simpa [parts] using splitDots_ne_nil s.toList

-- A path through another.
theorem parts_append (s t : String) : parts (s ++ "." ++ t) = parts s ++ parts t := by
  have hdots : (s ++ "." ++ t).toList = s.toList ++ '.' :: t.toList := by simp
  rw [parts, hdots, splitDots_append, List.map_append]
  rfl

end Path

namespace Bindings

theorem find?_entries (b : Bindings) (name : String) :
    Value.find? (b.map fun (n, v) => (.str n, v)) (.str name) = b.find? name := by
  induction b with
  | nil => rfl
  | cons e b ih =>
      obtain ⟨n, v⟩ := e
      unfold Value.find? find? at ih ⊢
      by_cases hn : n = name
      · simp [hn, Value.same_str_iff.mpr]
      · have hsame : (Value.str name).same (.str n) = false := by
          rw [Bool.eq_false_iff, ne_eq, Value.same_str_iff]
          simpa using hn
        simpa [hn, hsame] using ih

-- Bindings as a mapping are read and written at paths as they are.
theorem lookup_eq_find (b : Bindings) {ps : List String} (hps : ps ≠ []) :
    b.lookup ps = Path.find b.toValue ps := by
  obtain ⟨p, ps, rfl⟩ := List.exists_cons_of_ne_nil hps
  rw [Path.find_cons, lookup]
  simp only [toValue, Value.object, Path.child, find?_entries]
  cases b.find? p <;> rfl

theorem entries_set (b : Bindings) (name : String) (v : Value) :
    (b.set name v).map (fun (n, v) => (Value.str n, v)) =
      Value.insert (b.map fun (n, v) => (.str n, v)) (.str name) v := by
  induction b with
  | nil => rfl
  | cons e b ih =>
      obtain ⟨n, x⟩ := e
      by_cases hn : n = name
      · simp [set, Value.insert, hn, Value.same_str_iff.mpr]
      · have hsame : (Value.str name).same (.str n) = false := by
          rw [Bool.eq_false_iff, ne_eq, Value.same_str_iff]
          simpa using hn
        simpa [set, Value.insert, hn, hsame] using ih

theorem toValue_put (b : Bindings) (new : Value) {ps : List String} (hps : ps ≠ []) :
    (b.put new ps).toValue = Path.put new ps b.toValue := by
  obtain ⟨p, ps, rfl⟩ := List.exists_cons_of_ne_nil hps
  rw [Path.put_cons, put]
  simp only [toValue, Value.object, Path.setChild, find?_entries, entries_set]

theorem toValue_inj {b b' : Bindings} (h : b.toValue = b'.toValue) : b = b' := by
  have hentries := Value.map.inj h
  refine List.map_injective_iff.mpr ?_ hentries
  rintro ⟨n, v⟩ ⟨n', v'⟩ heq
  simpa using heq

end Bindings

end Dialect
