import Dialect.Proofs.Scope.Lens
import Dialect.Proofs.Scope.View
import Dialect.Proofs.Value.Relabel

namespace Dialect

open Dialect.Expr (Compiled)

variable (ρ : Relabel)

-- What may be missing or fail, with other labels.
abbrev relabelFound : Except Error (Option Value) → Except Error (Option Value) :=
  Except.map (Option.map (Value.relabel ρ))

namespace Path

-- A list and a tuple are read alike, at a number.
theorem child_relabel (v : Value) (p : String) :
    child (v.relabel ρ) p = relabelFound ρ (child v p) := by
  cases v with
  | map es =>
      rw [Value.relabel_map, child, child, Value.find?_relabel]
      rfl
  | list xs | tuple xs =>
      simp only [Value.relabel_list, Value.relabel_tuple, child]
      cases index? p with
      | error e => rfl
      | ok k => cases k <;> simp [Except.map]
  | _ => simp [Value.relabel, child, Except.map]

theorem find_relabel (v : Value) (ps : List String) :
    find (v.relabel ρ) ps = relabelFound ρ (find v ps) := by
  induction ps generalizing v with
  | nil => simp [find, Except.map]
  | cons p ps ih =>
      rw [find_cons, find_cons, child_relabel]
      cases child v p with
      | error e => rfl
      | ok found =>
          cases found with
          | none => rfl
          | some x => exact ih x

theorem setAt_relabel {f g : Value → Value} (h : ∀ x, (f x).relabel ρ = g (x.relabel ρ))
    (xs : List Value) (p : String) :
    (setAt xs p f).map (Value.relabel ρ) = setAt (xs.map (Value.relabel ρ)) p g := by
  unfold setAt
  split
  · refine List.ext_getElem? fun k => ?_
    simp only [List.getElem?_map, List.getElem?_modify]
    cases xs[k]? with
    | none => rfl
    | some x =>
        simp only [Option.map_some]
        split <;> simp [h]
  · rfl

theorem setChild_relabel {f g : Value → Value} (h : ∀ x, (f x).relabel ρ = g (x.relabel ρ))
    (v : Value) (p : String) :
    (setChild v p f).relabel ρ = setChild (v.relabel ρ) p g := by
  cases v with
  | map es =>
      rw [setChild, Value.relabel_map, Value.relabel_map, setChild, Value.insert_relabel, h,
        Value.find?_relabel]
      cases Value.find? es (.str p) with
      | none => rw [Option.map_none, Option.getD_none, Value.relabel_null]
      | some x => rfl
  | list xs =>
      rw [setChild, Value.relabel_list, Value.relabel_list, setChild, setAt_relabel ρ h]
  | tuple xs =>
      rw [setChild, Value.relabel_tuple, Value.relabel_tuple, setChild, setAt_relabel ρ h]
  | _ => simp [Value.relabel, setChild]

theorem put_relabel (new : Value) (ps : List String) (v : Value) :
    (put new ps v).relabel ρ = put (new.relabel ρ) ps (v.relabel ρ) := by
  induction ps generalizing v with
  | nil => rfl
  | cons p ps ih => rw [put_cons, put_cons, setChild_relabel ρ ih]

end Path

namespace Bindings

-- Bindings with other labels in their values.
def relabel (b : Bindings) : Bindings := b.map fun e => (e.1, e.2.relabel ρ)

@[simp] theorem names_relabel (b : Bindings) : (b.relabel ρ).names = b.names := by
  simp [names, relabel]

theorem relabel_exact (b : Bindings) : b.relabel .exact = b := by
  simp [relabel, Value.relabel_exact]

theorem find?_relabel (b : Bindings) (name : String) :
    (b.relabel ρ).find? name = (b.find? name).map (Value.relabel ρ) := by
  unfold find? relabel
  rw [List.find?_map, Option.map_map, Option.map_map]
  rfl

theorem lookup_relabel (b : Bindings) (ps : List String) :
    (b.relabel ρ).lookup ps = relabelFound ρ (b.lookup ps) := by
  cases ps with
  | nil => rfl
  | cons p ps =>
      rw [lookup, lookup, find?_relabel]
      cases b.find? p with
      | none => rfl
      | some v => exact Path.find_relabel ρ v ps

theorem set_relabel (b : Bindings) (name : String) (v : Value) :
    (b.set name v).relabel ρ = (b.relabel ρ).set name (v.relabel ρ) := by
  induction b with
  | nil => rfl
  | cons e b ih =>
      simp only [set, relabel, List.map_cons] at ih ⊢
      split
      · rfl
      · exact congrArg _ ih

theorem put_relabel (b : Bindings) (new : Value) (ps : List String) :
    (b.put new ps).relabel ρ = (b.relabel ρ).put (new.relabel ρ) ps := by
  cases ps with
  | nil => rfl
  | cons p ps =>
      rw [put, put, set_relabel, Path.put_relabel, find?_relabel]
      cases b.find? p with
      | none => rw [Option.map_none, Option.getD_none, Value.relabel_null]
      | some x => rfl

theorem addAll_relabel (b : Bindings) (es : List (Value × Value)) :
    (b.relabel ρ).addAll (es.map (Value.relabelEntry ρ)) =
      (b.addAll es).map (Bindings.relabel ρ) := by
  induction es generalizing b with
  | nil => rfl
  | cons e es ih =>
      obtain ⟨k, v⟩ := e
      cases k with
      | str n =>
          rw [List.map_cons, Value.relabelEntry, addAll, addAll, ← set_relabel]
          exact ih (b.set n v)
      | _ => rfl

theorem add_relabel (b : Bindings) (v : Value) :
    (b.relabel ρ).add (v.relabel ρ) = (b.add v).map (Bindings.relabel ρ) := by
  cases v with
  | map es =>
      rw [Value.relabel_map]
      exact addAll_relabel ρ b es
  | _ => simp [Value.relabel, add, Except.map, Value.kind]

end Bindings

namespace View

-- What a path stands for in a map in front of others.
theorem resolve_cons (b : Bindings) (v : View) (path : String) :
    resolve (b :: v) path = match b.lookup (Path.parts path) with
      | .error e => .error e
      | .ok (some x) => .ok x
      | .ok none => resolve v path := by
  unfold resolve
  rw [search]
  cases b.lookup (Path.parts path) with
  | error e => rfl
  | ok found => cases found <;> rfl

-- Maps that are the same up to labels hide the same of what is behind them.
theorem resolve_cons_relabel {b b' : Bindings} (hb : b.relabel ρ = b'.relabel ρ) {v v' : View}
    {path : String}
    (h : (resolve v path).map (Value.relabel ρ) = (resolve v' path).map (Value.relabel ρ)) :
    (resolve (b :: v) path).map (Value.relabel ρ) =
      (resolve (b' :: v') path).map (Value.relabel ρ) := by
  have hlookup : relabelFound ρ (b.lookup (Path.parts path)) =
      relabelFound ρ (b'.lookup (Path.parts path)) := by
    rw [← Bindings.lookup_relabel, ← Bindings.lookup_relabel, hb]
  rw [resolve_cons, resolve_cons]
  cases hx : b.lookup (Path.parts path) with
  | error e =>
      cases hy : b'.lookup (Path.parts path) with
      | error e' =>
          rw [hx, hy] at hlookup
          cases hlookup
          rfl
      | ok found =>
          rw [hx, hy] at hlookup
          cases hlookup
  | ok found =>
      cases hy : b'.lookup (Path.parts path) with
      | error e' =>
          rw [hx, hy] at hlookup
          cases hlookup
      | ok found' =>
          rw [hx, hy] at hlookup
          have hfound : found.map (Value.relabel ρ) = found'.map (Value.relabel ρ) :=
            Except.ok.inj hlookup
          cases found <;> cases found' <;> simp only [Option.map, Option.some.injEq,
            reduceCtorEq] at hfound
          · exact h
          · exact congrArg Except.ok hfound

end View

namespace Value

mutual

-- The texts inside a value that resolution replaces.
def references : Value → List String
  | .str p => [p]
  | .list xs => referencesAll xs
  | .tuple xs => referencesAll xs
  | .map es => referencesEntries es
  | _ => []

def referencesAll : List Value → List String
  | [] => []
  | v :: vs => references v ++ referencesAll vs

def referencesEntries : List (Value × Value) → List String
  | [] => []
  | (_, v) :: es => references v ++ referencesEntries es

end

theorem mem_referencesAll {v : Value} {vs : List Value} (hv : v ∈ vs) {p : String}
    (hp : p ∈ v.references) : p ∈ referencesAll vs := by
  induction vs with
  | nil => cases hv
  | cons u vs ih =>
      rw [referencesAll, List.mem_append]
      rcases List.mem_cons.mp hv with rfl | hv
      · exact .inl hp
      · exact .inr (ih hv)

mutual

-- Functions hold no references.
theorem substitute_relabel (f : String → Except Error Value) (v : Value) :
    ((v.relabel ρ).substitute f).map (relabel ρ) = (v.substitute f).map (relabel ρ) := by
  cases v with
  | list xs =>
      rw [relabel, substitute, substitute]
      refine map_bind_congr (substituteAll_relabel f xs) fun ys zs hyz => congrArg Except.ok ?_
      rw [relabel_list, relabel_list, hyz]
  | tuple xs =>
      rw [relabel, substitute, substitute]
      refine map_bind_congr (substituteAll_relabel f xs) fun ys zs hyz => congrArg Except.ok ?_
      rw [relabel_tuple, relabel_tuple, hyz]
  | map es =>
      rw [relabel, substitute, substitute]
      refine map_bind_congr (substituteEntries_relabel f es) fun fs gs hfg =>
        congrArg Except.ok ?_
      rw [relabel_map, relabel_map, hfg]
  | str p => rw [relabel_str]
  | branch args test yes no n =>
      have h := relabel_relabel ρ (branch args test yes no n)
      rw [relabel] at h ⊢
      exact congrArg Except.ok h
  | _ => simp [relabel, substitute, Except.map, Compiled.relabel_relabel, ρ.runner_idem,
      ρ.step_idem]

theorem substituteAll_relabel (f : String → Except Error Value) (vs : List Value) :
    (substituteAll f (relabelAll ρ vs)).map (List.map (relabel ρ)) =
      (substituteAll f vs).map (List.map (relabel ρ)) := by
  cases vs with
  | nil => rw [relabelAll]
  | cons v vs =>
      rw [relabelAll, substituteAll, substituteAll]
      refine map_bind_congr (substitute_relabel f v) fun x y hxy => ?_
      refine map_bind_congr (substituteAll_relabel f vs) fun ys zs hyz => ?_
      exact congrArg Except.ok (by rw [List.map_cons, List.map_cons, hxy, hyz])

theorem substituteEntries_relabel (f : String → Except Error Value) (es : List (Value × Value)) :
    (substituteEntries f (relabelEntries ρ es)).map (List.map (relabelEntry ρ)) =
      (substituteEntries f es).map (List.map (relabelEntry ρ)) := by
  cases es with
  | nil => rw [relabelEntries]
  | cons e es =>
      obtain ⟨k, v⟩ := e
      rw [relabelEntries, substituteEntries, substituteEntries]
      refine map_bind_congr (substitute_relabel f v) fun x y hxy => ?_
      refine map_bind_congr (substituteEntries_relabel f es) fun fs gs hfg => ?_
      exact congrArg Except.ok (by simp only [List.map_cons, relabelEntry, hxy, hfg])

end

section

variable {ρ}

mutual

-- Ways to look texts up that agree on the references of a value resolve it alike.
theorem substitute_congr {f g : String → Except Error Value} (v : Value)
    (h : ∀ p ∈ v.references, (f p).map (relabel ρ) = (g p).map (relabel ρ)) :
    (v.substitute f).map (relabel ρ) = (v.substitute g).map (relabel ρ) := by
  cases v with
  | str p =>
      rw [substitute, substitute]
      exact h p (by simp [references])
  | list xs =>
      rw [substitute, substitute]
      rw [references] at h
      refine map_bind_congr (substituteAll_congr xs h) fun ys zs hyz => congrArg Except.ok ?_
      rw [relabel_list, relabel_list, hyz]
  | tuple xs =>
      rw [substitute, substitute]
      rw [references] at h
      refine map_bind_congr (substituteAll_congr xs h) fun ys zs hyz => congrArg Except.ok ?_
      rw [relabel_tuple, relabel_tuple, hyz]
  | map es =>
      rw [substitute, substitute]
      rw [references] at h
      refine map_bind_congr (substituteEntries_congr es h) fun fs gs hfg => congrArg Except.ok ?_
      rw [relabel_map, relabel_map, hfg]
  | _ => simp only [substitute]

theorem substituteAll_congr {f g : String → Except Error Value} (vs : List Value)
    (h : ∀ p ∈ referencesAll vs, (f p).map (relabel ρ) = (g p).map (relabel ρ)) :
    (substituteAll f vs).map (List.map (relabel ρ)) =
      (substituteAll g vs).map (List.map (relabel ρ)) := by
  cases vs with
  | nil => simp only [substituteAll]
  | cons v vs =>
      simp only [referencesAll, List.mem_append] at h
      rw [substituteAll, substituteAll]
      refine map_bind_congr (substitute_congr v fun p hp => h p (.inl hp)) fun x y hxy => ?_
      refine map_bind_congr (substituteAll_congr vs fun p hp => h p (.inr hp)) fun ys zs hyz => ?_
      exact congrArg Except.ok (by rw [List.map_cons, List.map_cons, hxy, hyz])

theorem substituteEntries_congr {f g : String → Except Error Value} (es : List (Value × Value))
    (h : ∀ p ∈ referencesEntries es, (f p).map (relabel ρ) = (g p).map (relabel ρ)) :
    (substituteEntries f es).map (List.map (relabelEntry ρ)) =
      (substituteEntries g es).map (List.map (relabelEntry ρ)) := by
  cases es with
  | nil => simp only [substituteEntries]
  | cons e es =>
      obtain ⟨k, v⟩ := e
      simp only [referencesEntries, List.mem_append] at h
      rw [substituteEntries, substituteEntries]
      refine map_bind_congr (substitute_congr v fun p hp => h p (.inl hp)) fun x y hxy => ?_
      refine map_bind_congr (substituteEntries_congr es fun p hp => h p (.inr hp))
        fun fs gs hfg => ?_
      exact congrArg Except.ok (by simp only [List.map_cons, relabelEntry, hxy, hfg])

end

end

end Value

namespace Store

mutual

theorem layer_relabel (below : Option Value) (v : Value) :
    (layer below v).relabel ρ = layer (below.map (Value.relabel ρ)) (v.relabel ρ) := by
  cases v with
  | map es =>
      cases below with
      | none => simp [layer]
      | some b =>
          cases b with
          | map bs => simp [layer, layerAll_relabel bs es]
          | _ => simp [layer, Value.relabel, Value.relabelEntries_eq_map]
  | _ => simp [layer, Value.relabel, Value.relabelAll_eq_map]

-- Merging commutes with relabelling: keys are compared, and they stay.
theorem layerAll_relabel (bs es : List (Value × Value)) :
    (layerAll bs es).map (Value.relabelEntry ρ) =
      layerAll (bs.map (Value.relabelEntry ρ)) (es.map (Value.relabelEntry ρ)) := by
  cases es with
  | nil => simp [layerAll]
  | cons e es =>
      obtain ⟨k, v⟩ := e
      rw [layerAll, layerAll_relabel _ es, Value.insert_relabel, layer_relabel _ v, List.map_cons,
        Value.relabelEntry, layerAll, Value.find?_relabel]

end

end Store

namespace View

-- All that is visible in a view in one mapping.
def merged (v : View) : List (Value × Value) :=
  v.foldr (fun b below => Store.layerAll below (b.map fun (n, x) => (.str n, x))) []

theorem merged_cons (b : Bindings) (v : View) :
    merged (b :: v) = Store.layerAll (merged v) (b.map fun (n, x) => (.str n, x)) := rfl

-- What is merged depends on the maps up to labels only.
theorem merged_cons_relabel {b b' : Bindings} (hb : b.relabel ρ = b'.relabel ρ) {v v' : View}
    (h : (merged v).map (Value.relabelEntry ρ) = (merged v').map (Value.relabelEntry ρ)) :
    (merged (b :: v)).map (Value.relabelEntry ρ) =
      (merged (b' :: v')).map (Value.relabelEntry ρ) := by
  have hentries (b : Bindings) : (b.map fun (n, x) => (Value.str n, x)).map (Value.relabelEntry ρ) =
      (b.relabel ρ).map fun (n, x) => (.str n, x) := by
    simp [Bindings.relabel, Value.relabelEntry, Function.comp_def]
  rw [merged_cons, merged_cons, Store.layerAll_relabel, Store.layerAll_relabel, h, hentries,
    hentries, hb]

end View

theorem Store.value_eq_view (s : Store) (i : ScopeId) :
    s.value i = .map (View.merged (s.view i)) := rfl

end Dialect
