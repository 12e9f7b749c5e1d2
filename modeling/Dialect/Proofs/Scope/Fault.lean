import Dialect.Proofs.Scope.Update
import Mathlib.Data.List.TakeWhile

namespace Dialect

namespace Path

-- A part that is made of digits and denotes no number: some of them are no decimal digits, or there
-- are too many.
structure Unreadable (p : String) : Prop where
  nonempty : p.toList ≠ []
  digits : ∀ c ∈ p.toList, Text.isDigit c = true
  unread : (∃ c ∈ p.toList, Text.decimalValue? c = none) ∨ digitLimit < p.toList.length

-- The walk along a path comes to a sequence with a part that cannot be read.
inductive Stumbles : Value → List String → Prop where
  | list {xs : List Value} {p : String} {ps : List String} (unreadable : Unreadable p) :
      Stumbles (.list xs) (p :: ps)
  | tuple {xs : List Value} {p : String} {ps : List String} (unreadable : Unreadable p) :
      Stumbles (.tuple xs) (p :: ps)
  | later {v x : Value} {p : String} {ps : List String} (child : child v p = .ok (some x))
      (stumbles : Stumbles x ps) : Stumbles v (p :: ps)

section

variable {p : String}

theorem mapM_decimalValue?_eq_none_iff {cs : List Char} :
    cs.mapM Text.decimalValue? = none ↔ ∃ c ∈ cs, Text.decimalValue? c = none := by
  induction cs with
  | nil => simp
  | cons c cs ih =>
      rw [List.mapM_cons, List.exists_mem_cons_iff, ← ih]
      cases hc : Text.decimalValue? c with
      | none => simp
      | some d => cases cs.mapM Text.decimalValue? <;> simp

-- A part that can be read has a number or is no number at all.
theorem index?_of_readable (h : ¬Unreadable p) : ∃ n, index? p = .ok n := by
  unfold index?
  simp only
  split
  · exact ⟨none, rfl⟩
  · rename_i hdigits
    simp only [Bool.or_eq_true, List.isEmpty_iff, Bool.not_eq_true', Bool.not_eq_false,
      not_or, List.all_eq_true] at hdigits
    obtain ⟨hne, hall⟩ := hdigits
    have hrun := (List.takeWhile_sublist (l := p.toList)
      fun c => (Text.decimalValue? c).isSome).length_le
    split
    · rename_i hlong
      exact absurd ⟨hne, hall, .inr (by omega)⟩ h
    · cases hread : p.toList.mapM Text.decimalValue? with
      | some ds => exact ⟨_, rfl⟩
      | none => exact absurd ⟨hne, hall, .inl (mapM_decimalValue?_eq_none_iff.mp hread)⟩ h

theorem index?_of_unreadable (h : Unreadable p) :
    ∃ f : NumberFault, f.category = .value ∧ index? p = .error (.number f) := by
  have hdigits : (p.toList.isEmpty || !p.toList.all Text.isDigit) = false := by
    simpa [h.nonempty] using h.digits
  unfold index?
  simp only [hdigits, Bool.false_eq_true, if_false]
  split
  · exact ⟨_, rfl, rfl⟩
  · rename_i hshort
    have hread : p.toList.mapM Text.decimalValue? = none := by
      rw [mapM_decimalValue?_eq_none_iff]
      refine h.unread.elim id fun hlong => ?_
      by_contra! hall
      have hdecimal : ∀ c ∈ p.toList, (Text.decimalValue? c).isSome := fun c hc =>
        Option.isSome_iff_ne_none.mpr (hall c hc)
      rw [List.takeWhile_eq_self_iff.mpr hdecimal] at hshort
      exact hshort hlong
    rw [hread]
    exact ⟨_, rfl, rfl⟩

end

section

variable {v : Value} {p : String} {ps : List String}

-- Only sequences read a part as a number.
theorem child_of_not_stumbles (h : ¬Stumbles v (p :: ps)) : ∃ found, child v p = .ok found := by
  cases v with
  | list xs =>
      obtain ⟨n, hn⟩ := index?_of_readable fun hbad => h (.list hbad)
      exact ⟨n.bind (xs[·]?), by rw [child, hn, Except.map]⟩
  | tuple xs =>
      obtain ⟨n, hn⟩ := index?_of_readable fun hbad => h (.tuple hbad)
      exact ⟨n.bind (xs[·]?), by rw [child, hn, Except.map]⟩
  | _ => exact ⟨_, rfl⟩

theorem Stumbles.exists_unreadable (h : Stumbles v ps) : ∃ p ∈ ps, Unreadable p := by
  induction h with
  | list hbad => exact ⟨_, List.mem_cons_self, hbad⟩
  | tuple hbad => exact ⟨_, List.mem_cons_self, hbad⟩
  | later _ _ ih =>
      obtain ⟨p, hp, hbad⟩ := ih
      exact ⟨p, List.mem_cons_of_mem _ hp, hbad⟩

-- By induction on the way to the sequence.
theorem find_of_stumbles (h : Stumbles v ps) :
    ∃ f : NumberFault, f.category = .value ∧ find v ps = .error (.number f) := by
  induction h with
  | list hbad =>
      obtain ⟨f, hf, hread⟩ := index?_of_unreadable hbad
      exact ⟨f, hf, by rw [find_cons, child, hread, Except.map]⟩
  | tuple hbad =>
      obtain ⟨f, hf, hread⟩ := index?_of_unreadable hbad
      exact ⟨f, hf, by rw [find_cons, child, hread, Except.map]⟩
  | later hchild _ ih => rwa [find_cons_of_child hchild]

-- By induction on the path.
theorem find_of_not_stumbles (h : ¬Stumbles v ps) : ∃ found, find v ps = .ok found := by
  induction ps generalizing v with
  | nil => exact ⟨some v, rfl⟩
  | cons p ps ih =>
      obtain ⟨found, hchild⟩ := child_of_not_stumbles h
      cases found with
      | none => exact ⟨none, by rw [find_cons, hchild]⟩
      | some x =>
          rw [find_cons_of_child hchild]
          exact ih fun hx => h (.later hchild hx)

end

end Path

namespace Store

section

variable {s : Store} {i : ScopeId} {path : String}

-- The first scope from here whose bindings do not simply lack the path has the search stumble.
def Stumbles (s : Store) (i : ScopeId) (path : String) : Prop :=
  ∃ front e rest, s.chain i = front ++ e :: rest ∧
    (∀ f ∈ front, f.2.bindings.lookup (Path.parts path) = .ok none) ∧
    Path.Stumbles e.2.bindings.toValue (Path.parts path)

-- Scopes that lack the path are passed by.
theorem search_append {parts : List String} {front : List (ScopeId × Scope)}
    (h : ∀ f ∈ front, f.2.bindings.lookup parts = .ok none) (rest : List (ScopeId × Scope)) :
    search parts (front ++ rest) = search parts rest := by
  induction front with
  | nil => rfl
  | cons f front ih =>
      have hmiss := h f List.mem_cons_self
      rw [List.cons_append, search_cons, hmiss]
      exact ih fun g hg => h g (List.mem_cons_of_mem _ hg)

theorem locate_of_stumbles (h : s.Stumbles i path) :
    ∃ f : NumberFault, f.category = .value ∧ s.locate i path = .error (.number f) := by
  obtain ⟨front, e, rest, hchain, hfront, hbad⟩ := h
  obtain ⟨f, hf, hfind⟩ := Path.find_of_stumbles hbad
  have hlookup : e.2.bindings.lookup (Path.parts path) = .error (.number f) := by
    rw [Bindings.lookup_eq_find _ (Path.parts_ne_nil path), hfind]
  refine ⟨f, hf, ?_⟩
  rw [locate, hchain, search_append hfront, search_cons, hlookup]

-- By induction on the chain, with what was passed by kept aside.
theorem search_of_not_stumbles {parts : List String} (hparts : parts ≠ [])
    {c : List (ScopeId × Scope)}
    (h : ∀ front e rest, c = front ++ e :: rest →
      (∀ f ∈ front, f.2.bindings.lookup parts = .ok none) →
      ¬Path.Stumbles e.2.bindings.toValue parts) : ∃ found, search parts c = .ok found := by
  induction c with
  | nil => exact ⟨none, rfl⟩
  | cons e c ih =>
      obtain ⟨j, sc⟩ := e
      obtain ⟨found, hfind⟩ := Path.find_of_not_stumbles (h [] (j, sc) c rfl (by simp))
      rw [← Bindings.lookup_eq_find _ hparts] at hfind
      rw [search_cons, hfind]
      cases found with
      | some v => exact ⟨some (j, v), rfl⟩
      | none =>
          refine ih fun front e rest hc hfront => h ((j, sc) :: front) e rest (by rw [hc]; rfl) ?_
          rintro f (_ | ⟨_, hf⟩)
          · exact hfind
          · exact hfront f hf

theorem locate_of_not_stumbles (h : ¬s.Stumbles i path) : ∃ found, s.locate i path = .ok found :=
  search_of_not_stumbles (Path.parts_ne_nil path) fun front e rest hchain hfront hbad =>
    h ⟨front, e, rest, hchain, hfront, hbad⟩

-- What the operations on a path may do, by their description: find it, or say that it is not there
-- in their own way.
structure Documented (s : Store) (i : ScopeId) (path : String) : Prop where
  resolve : (∃ v, s.resolve i path = .ok v) ∨ s.resolve i path = .error (.unresolved path)
  getD : ∀ d, ∃ v, s.getD i path d = .ok v ∧
    (s.resolve i path = .error (.unresolved path) → v = d)
  contains : ∃ b, s.contains i (.str path) = .ok b
  owner : ∃ o, s.owner i path = .ok o
  provide : ∀ v, (∃ s', s.provide i path v = .ok s') ∨
    s.provide i path v = .error (.pathNotFound path)

-- Each operation fails with the error.
structure Fails (s : Store) (i : ScopeId) (path : String) (e : Error) : Prop where
  resolve : s.resolve i path = .error e
  getD : ∀ d, s.getD i path d = .error e
  contains : s.contains i (.str path) = .error e
  owner : s.owner i path = .error e
  provide : ∀ v, s.provide i path v = .error e

-- All operations search in the same way.
theorem fails_of_locate {e : Error} (h : s.locate i path = .error e) : s.Fails i path e where
  resolve := by rw [resolve_eq_locate, h]; rfl
  getD _ := by rw [getD_eq_locate, h]; rfl
  contains := by rw [contains, owner_eq_locate, h]; rfl
  owner := by rw [owner_eq_locate, h]; rfl
  provide _ := by rw [provide, owner_eq_locate, h]; rfl

theorem documented_of_locate {found : Option (ScopeId × Value)} (h : s.locate i path = .ok found) :
    s.Documented i path := by
  cases found with
  | none =>
      exact {
        resolve := .inr (by rw [resolve_eq_locate, h]; rfl)
        getD := fun d => ⟨d, by rw [getD_eq_locate, h]; rfl, fun _ => rfl⟩
        contains := ⟨false, by rw [contains, owner_eq_locate, h]; rfl⟩
        owner := ⟨none, by rw [owner_eq_locate, h]; rfl⟩
        provide := fun _ => .inr (by rw [provide, owner_eq_locate, h]; rfl) }
  | some f =>
      have hresolve : s.resolve i path = .ok f.2 := by
        rw [resolve_eq_locate, h]
        rfl
      exact {
        resolve := .inl ⟨f.2, hresolve⟩
        getD := fun d => ⟨f.2, by rw [getD_eq_locate, h]; rfl, by simp [hresolve]⟩
        contains := ⟨true, by rw [contains, owner_eq_locate, h]; rfl⟩
        owner := ⟨some f.1, by rw [owner_eq_locate, h]; rfl⟩
        provide := fun _ => .inl ⟨_, by rw [provide, owner_eq_locate, h]; rfl⟩ }

-- A path whose parts all have a number, or are no numbers, is looked up as described everywhere.
theorem documented_of_readable (s : Store) (i : ScopeId)
    (h : ∀ p ∈ Path.parts path, ¬Path.Unreadable p) : s.Documented i path := by
  have hgoes : ¬s.Stumbles i path := by
    rintro ⟨-, e, -, -, -, hbad⟩
    obtain ⟨p, hp, hread⟩ := hbad.exists_unreadable
    exact h p hp hread
  obtain ⟨found, hlocate⟩ := locate_of_not_stumbles hgoes
  exact documented_of_locate hlocate

-- The operations do what their description says, unless the search stumbles; then each of them
-- fails, and the fault is that of reading the number.
theorem documented_iff_not_stumbles (s : Store) (i : ScopeId) (path : String) :
    (s.Documented i path ↔ ¬s.Stumbles i path) ∧
      (s.Stumbles i path →
        ∃ f : NumberFault, f.category = .value ∧ s.Fails i path (.number f)) := by
  have hfails (h : s.Stumbles i path) :
      ∃ f : NumberFault, f.category = .value ∧ s.Fails i path (.number f) := by
    obtain ⟨f, hf, hlocate⟩ := locate_of_stumbles h
    exact ⟨f, hf, fails_of_locate hlocate⟩
  refine ⟨⟨fun hdoc hbad => ?_, fun h => ?_⟩, hfails⟩
  · obtain ⟨f, -, hf⟩ := hfails hbad
    obtain ⟨o, howner⟩ := hdoc.owner
    simp [hf.owner] at howner
  · obtain ⟨found, hlocate⟩ := locate_of_not_stumbles h
    exact documented_of_locate hlocate

end

end Store

namespace Sample

-- A list with one member.
def shelf : Store := ⟨[⟨none, [("items", .list [.int 1])]⟩]⟩

theorem shelf_stumbles : shelf.Stumbles 0 "items.²" := by
  have hdigit : Text.isDigit '²' = true := by decide +kernel
  have hother : Text.decimalValue? '²' = none := by decide +kernel
  have hchars : "²".toList = ['²'] := rfl
  have hpart : Path.Unreadable "²" :=
    ⟨by simp [hchars], by simp [hchars, hdigit], .inl ⟨'²', by simp [hchars], hother⟩⟩
  have hparts : Path.parts "items.²" = ["items", "²"] := rfl
  refine ⟨[], (0, ⟨none, [("items", .list [.int 1])]⟩), [], rfl, by simp, ?_⟩
  rw [hparts]
  exact .later rfl (.list hpart)

theorem documented_iff_not_stumbles_shelf :
    shelf.Stumbles 0 "items.²" ∧ ¬shelf.Documented 0 "items.²" ∧
      ∃ f : NumberFault, f.category = .value ∧ shelf.Fails 0 "items.²" (.number f) := by
  obtain ⟨hiff, hfails⟩ := Store.documented_iff_not_stumbles shelf 0 "items.²"
  exact ⟨shelf_stumbles, fun hdoc => hiff.mp hdoc shelf_stumbles, hfails shelf_stumbles⟩

end Sample

end Dialect
