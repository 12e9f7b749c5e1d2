import Dialect.Proofs.Run.Engine
import Dialect.Proofs.Scope.Fault

namespace Dialect

namespace Store

-- The scopes before the one that cannot be searched lack the path.
def Breaks (s : Store) (i : ScopeId) (path : String) (e : Error) : Prop :=
  ∃ near f far, s.chain i = near ++ f :: far ∧
    (∀ g ∈ near, g.2.bindings.lookup (Path.parts path) = .ok none) ∧
    f.2.bindings.lookup (Path.parts path) = .error e

-- A scope is the first on the way whose bindings hold the path, with a value.
def FirstHolds (s : Store) (i : ScopeId) (path : String) (o : ScopeId) (x : Value) : Prop :=
  ∃ near sc far, s.chain i = near ++ (o, sc) :: far ∧
    (∀ g ∈ near, g.2.bindings.lookup (Path.parts path) = .ok none) ∧
    sc.bindings.lookup (Path.parts path) = .ok (some x)

-- The operations speak of the same scope and the same value.
structure Agree (s : Store) (i : ScopeId) (path : String) : Prop where
  owner : ∃ found, s.owner i path = .ok found ∧
    ∀ o, found = some o ↔ ∃ x, s.FirstHolds i path o x
  value (x : Value) : s.resolve i path = .ok x ↔ ∃ o, s.FirstHolds i path o x
  resolve : (∃ x, s.resolve i path = .ok x) ↔ ∃ o, s.owner i path = .ok (some o)
  contains : ∃ b, s.contains i (.str path) = .ok b ∧
    (b = true ↔ ∃ o, s.owner i path = .ok (some o))
  provide (v : Value) : (∃ s', s.provide i path v = .ok s') ↔ ∃ o, s.owner i path = .ok (some o)
  found (x d : Value) : s.resolve i path = .ok x → s.getD i path d = .ok x
  missing (d : Value) : (∀ x, s.resolve i path ≠ .ok x) →
    s.resolve i path = .error (.unresolved path) ∧ s.getD i path d = .ok d
  atOwner (o : ScopeId) : s.owner i path = .ok (some o) → s.resolve o path = s.resolve i path

section

variable {s : Store} {i o : ScopeId} {path : String} {x : Value} {e : Error}

-- The way up from a scope on the way is the rest of the way. By induction on the scopes, the
-- newest first.
theorem chain_of_mem {near far : List (ScopeId × Scope)} {sc : Scope}
    (h : s.chain i = near ++ (o, sc) :: far) : s.chain o = (o, sc) :: far := by
  have hlt : o < s.size := by
    have hscope : s.scope? o = some sc := scope?_of_mem_chain (i := i) (by simp [h])
    exact lt_size_of_scope? hscope
  obtain ⟨scopes⟩ := s
  unfold chain at *
  simp only [] at h ⊢
  induction scopes generalizing i near with
  | nil => cases near <;> cases h
  | cons newest older ih =>
      -- A scope that is found among the older ones is one of them.
      have hfound {k : ScopeId} {front : List (ScopeId × Scope)}
          (hk : chainIn older k = front ++ (o, sc) :: far) :
          chainIn (newest :: older) o = (o, sc) :: far := by
        have hscope : (⟨older⟩ : Store).scope? o = some sc :=
          scope?_of_mem_chain (i := k) (by unfold chain; simp [hk])
        have ho : o < older.length := lt_size_of_scope? hscope
        rw [chainIn, if_neg (Nat.ne_of_lt ho)]
        exact ih hk ho
      have hchain := h
      rw [chainIn] at h
      split at h
      · cases near with
        | nil =>
            rw [List.nil_append] at h hchain
            obtain ⟨rfl, -⟩ := Prod.mk.inj (List.cons.inj h).1
            exact hchain
        | cons g near =>
            cases hp : newest.parent with
            | none => simp [hp] at h
            | some p =>
                simp only [hp, List.cons_append, List.cons.injEq] at h
                exact hfound h.2
      · exact hfound h

theorem locate_of_breaks (h : s.Breaks i path e) : s.locate i path = .error e := by
  obtain ⟨near, f, far, hchain, hnear, hf⟩ := h
  rw [locate, hchain, search_append hnear, search_cons, hf]

theorem locate_eq_some_iff :
    s.locate i path = .ok (some (o, x)) ↔ s.FirstHolds i path o x := by
  refine ⟨exists_split_of_search, ?_⟩
  rintro ⟨near, sc, far, hchain, hnear, hx⟩
  rw [locate, hchain, search_append hnear, search_cons, hx]

-- By induction on the chain, with what was passed by kept aside.
theorem exists_split_of_search_error {parts : List String} {c : List (ScopeId × Scope)}
    (h : search parts c = .error e) :
    ∃ near f far, c = near ++ f :: far ∧
      (∀ g ∈ near, g.2.bindings.lookup parts = .ok none) ∧
      f.2.bindings.lookup parts = .error e := by
  induction c with
  | nil => cases h
  | cons f c ih =>
      rw [search_cons] at h
      cases hf : f.2.bindings.lookup parts with
      | error e' =>
          rw [hf] at h
          cases h
          exact ⟨[], f, c, rfl, by simp, hf⟩
      | ok found =>
          rw [hf] at h
          cases found with
          | some x => cases h
          | none =>
              obtain ⟨near, g, far, rfl, hnear, hg⟩ := ih h
              exact ⟨f :: near, g, far, rfl, by simpa [hf] using hnear, hg⟩

-- The search ends with an error only at a scope that cannot be searched.
theorem locate_eq_error_iff : s.locate i path = .error e ↔ s.Breaks i path e :=
  ⟨exists_split_of_search_error, locate_of_breaks⟩

-- From its owner a path is found at once.
theorem locate_of_firstHolds (h : s.FirstHolds i path o x) :
    s.locate o path = .ok (some (o, x)) := by
  obtain ⟨near, sc, far, hchain, -, hx⟩ := h
  exact locate_eq_some_iff.mpr ⟨[], sc, far, chain_of_mem hchain, by simp, hx⟩

theorem agree_of_found (h : s.locate i path = .ok (some (o, x))) : s.Agree i path := by
  have howner := owner_of_locate h
  have hresolve := resolve_of_locate h
  have hholds := locate_eq_some_iff.mp h
  have howned : ∃ k, s.owner i path = .ok (some k) := ⟨o, howner⟩
  exact {
    owner := by
      refine ⟨some o, howner, fun k => ⟨?_, ?_⟩⟩
      · rintro ⟨⟩
        exact ⟨x, hholds⟩
      · rintro ⟨y, hy⟩
        have hsame := h.symm.trans (locate_eq_some_iff.mpr hy)
        cases hsame
        rfl
    value := fun y => by
      rw [hresolve]
      constructor
      · rintro ⟨⟩
        exact ⟨o, hholds⟩
      · rintro ⟨k, hk⟩
        have hsame := h.symm.trans (locate_eq_some_iff.mpr hk)
        cases hsame
        rfl
    resolve := ⟨fun _ => howned, fun _ => ⟨x, hresolve⟩⟩
    contains := ⟨true, by rw [contains, howner]; rfl, ⟨fun _ => howned, fun _ => rfl⟩⟩
    provide := fun v => ⟨fun _ => howned, fun _ => ⟨_, provide_of_locate h v⟩⟩
    found := fun y d hy => by
      rw [hresolve] at hy
      cases hy
      rw [getD_eq_locate, h]
      rfl
    missing := fun _ hnone => absurd hresolve (hnone x)
    atOwner := fun k hk => by
      rw [howner] at hk
      cases hk
      rw [hresolve, resolve_of_locate (locate_of_firstHolds hholds)] }

theorem agree_of_missing (h : s.locate i path = .ok none) : s.Agree i path := by
  have howner : s.owner i path = .ok none := by
    rw [owner_eq_locate, h]
    rfl
  have hresolve : s.resolve i path = .error (.unresolved path) := by
    rw [resolve_eq_locate, h]
    rfl
  have hholds (o : ScopeId) (x : Value) : ¬s.FirstHolds i path o x := fun hx => by
    have hsame := h.symm.trans (locate_eq_some_iff.mpr hx)
    cases hsame
  exact {
    owner := ⟨none, howner, fun o => by simp [hholds]⟩
    value := fun x => by simp [hresolve, hholds]
    resolve := by simp [hresolve, howner]
    contains := ⟨false, by rw [contains, howner]; rfl, by simp [howner]⟩
    provide := fun v => by simp [provide_of_locate_none h, howner]
    found := fun x d hx => by simp [hresolve] at hx
    missing := fun d _ => ⟨hresolve, by rw [getD_eq_locate, h]; rfl⟩
    atOwner := fun o ho => by simp [howner] at ho }

end

end Store

open Engine

-- Each operation ends with the error, and the world is as before.
structure World.Refuses (w : World) (i : ScopeId) (path : String) (e : Error) : Prop where
  resolve : ask (fun s => s.resolve i path) w = .error (.fresh e) w
  getD : ∀ d, ask (fun s => s.getD i path d) w = .error (.fresh e) w
  owner : ask (fun s => s.owner i path) w = .error (.fresh e) w
  contains : ask (fun s => s.contains i (.str path)) w = .error (.fresh e) w
  provide : ∀ v, change (fun s => s.provide i path v) w = .error (.fresh e) w

theorem World.refuses_of_fails {w : World} {i : ScopeId} {path : String} {e : Error}
    (h : w.store.Fails i path e) : w.Refuses i path e where
  resolve := by rw [ask_apply, h.resolve]
  getD d := by rw [ask_apply, h.getD d]
  owner := by rw [ask_apply, h.owner]
  contains := by rw [ask_apply, h.contains]
  provide v := by rw [change_apply, h.provide v]

-- All operations on a path fail with the error of the first scope that cannot be searched, if it
-- comes before one that holds the path; otherwise they agree on the first scope that holds it.
theorem World.lookups_agree (w : World) (i : ScopeId) (path : String) :
    (∀ e, w.store.Breaks i path e → w.Refuses i path e) ∧
      ((¬∃ e, w.store.Breaks i path e) → w.store.Agree i path) := by
  refine ⟨fun e he => refuses_of_fails (Store.fails_of_locate (Store.locate_of_breaks he)), ?_⟩
  intro hgoes
  cases hlocate : w.store.locate i path with
  | error e => exact absurd ⟨e, Store.locate_eq_error_iff.mp hlocate⟩ hgoes
  | ok found =>
      cases found with
      | none => exact Store.agree_of_missing hlocate
      | some f => exact Store.agree_of_found hlocate

namespace Sample

-- A scope with a mapping that lacks a part of the path, over one that holds null there.
def cellar : World :=
  { World.empty with store := ⟨[
      ⟨some 0, [("a", .map [(.str "y", .int 2)])]⟩,
      ⟨none, [("a", .map [(.str "x", .null)]), ("items", .list [.int 1])]⟩]⟩ }

theorem cellar_breaks : cellar.store.Breaks 1 "items.²" (.number (.literal 10 "²")) := by
  have hdigit : Text.isDigit '²' = true := by decide +kernel
  have hother : Text.decimalValue? '²' = none := by decide +kernel
  have hchars : "²".toList = ['²'] := rfl
  have hindex : Path.index? "²" = .error (.number (.literal 10 "²")) := by
    simp [Path.index?, hchars, hdigit, hother]
  have hfind : Path.find (.list [.int 1]) ["²"] = .error (.number (.literal 10 "²")) := by
    rw [Path.find, hindex]
    rfl
  exact ⟨[(1, ⟨some 0, [("a", .map [(.str "y", .int 2)])]⟩)],
    (0, ⟨none, [("a", .map [(.str "x", .null)]), ("items", .list [.int 1])]⟩), [], rfl,
    fun g hg => by cases List.mem_singleton.mp hg; rfl, hfind⟩

theorem cellar_locate : cellar.store.locate 1 "a.x" = .ok (some (0, .null)) := rfl

theorem lookups_agree_cellar :
    cellar.Refuses 1 "items.²" (.number (.literal 10 "²")) ∧
      cellar.store.locate 1 "a.x" = .ok (some (0, .null)) ∧ cellar.store.Agree 1 "a.x" := by
  have hgoes : ¬∃ e, cellar.store.Breaks 1 "a.x" e := by
    rintro ⟨e, he⟩
    have hlocate := Store.locate_of_breaks he
    rw [cellar_locate] at hlocate
    cases hlocate
  exact ⟨(cellar.lookups_agree 1 "items.²").1 _ cellar_breaks, cellar_locate,
    (cellar.lookups_agree 1 "a.x").2 hgoes⟩

end Sample

end Dialect
