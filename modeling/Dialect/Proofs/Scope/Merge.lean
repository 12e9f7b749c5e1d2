import Dialect.Proofs.Scope.Relabel
import Dialect.Proofs.Scope.Update

namespace Dialect

namespace Value

mutual

-- No mapping has a text key twice, nor does one inside it. A mapping is a table, so this holds of
-- all that setting keys makes; only a list of entries can break it.
def Distinct : Value → Prop
  | map es => (keyNames es).Nodup ∧ DistinctEntries es
  | _ => True

def DistinctEntries : List (Value × Value) → Prop
  | [] => True
  | (_, v) :: es => v.Distinct ∧ DistinctEntries es

end

theorem distinctEntries_iff {es : List (Value × Value)} :
    DistinctEntries es ↔ ∀ e ∈ es, e.2.Distinct := by
  induction es with
  | nil => simp [DistinctEntries]
  | cons e es ih =>
      obtain ⟨k, v⟩ := e
      simp [DistinctEntries, ih]

theorem mem_of_find? {es : List (Value × Value)} {p : String} {x : Value}
    (h : find? es (.str p) = some x) : (.str p, x) ∈ es := by
  obtain ⟨⟨k, y⟩, he, rfl⟩ := Option.map_eq_some_iff.mp h
  obtain rfl : k = .str p := same_str_iff.mp (by simpa using List.find?_some he)
  exact List.mem_of_find?_eq_some he

theorem mem_keyNames_iff {es : List (Value × Value)} {p : String} :
    p ∈ keyNames es ↔ ∃ x, (.str p, x) ∈ es := by
  unfold keyNames
  rw [List.mem_filterMap]
  constructor
  · rintro ⟨⟨k, x⟩, he, hk⟩
    cases k <;> simp_all
    exact ⟨x, he⟩
  · rintro ⟨x, he⟩
    exact ⟨_, he, rfl⟩

theorem keyNames_entries (b : Bindings) :
    keyNames (b.map fun (n, v) => (.str n, v)) = b.names := by
  simp [keyNames, Bindings.names, List.filterMap_map]

theorem Distinct.of_find? {es : List (Value × Value)} (h : (map es).Distinct) {p : String}
    {x : Value} (hx : find? es (.str p) = some x) : x.Distinct :=
  distinctEntries_iff.mp h.2 _ (mem_of_find? hx)

end Value

namespace Store

section

variable {bs es : List (Value × Value)} {p : String}

-- Entries leave alone what they are laid over under names that they do not have.
theorem find?_layerAll_of_notMem (h : p ∉ keyNames es) (bs : List (Value × Value)) :
    Value.find? (layerAll bs es) (.str p) = Value.find? bs (.str p) := by
  induction es generalizing bs with
  | nil => rw [layerAll]
  | cons e es ih =>
      obtain ⟨k, v⟩ := e
      have hk : k ≠ .str p := by
        rintro rfl
        exact h (by simp [keyNames])
      have hes : p ∉ keyNames es := by
        intro hmem
        obtain ⟨x, hx⟩ := Value.mem_keyNames_iff.mp hmem
        exact h (Value.mem_keyNames_iff.mpr ⟨x, List.mem_cons_of_mem _ hx⟩)
      rw [layerAll, ih hes, Value.find?_insert_of_ne bs hk]

-- Entries are laid over others name by name.
theorem find?_layerAll (h : (keyNames es).Nodup) (bs : List (Value × Value)) (p : String) :
    Value.find? (layerAll bs es) (.str p) = match Value.find? es (.str p) with
      | some v => some (layer (Value.find? bs (.str p)) v)
      | none => Value.find? bs (.str p) := by
  induction es generalizing bs with
  | nil => rw [layerAll]; rfl
  | cons e es ih =>
      obtain ⟨k, v⟩ := e
      rw [layerAll]
      by_cases hk : k = .str p
      · subst hk
        have hp : p ∉ keyNames es := by
          simp only [keyNames, List.filterMap_cons, List.nodup_cons] at h
          exact h.1
        rw [find?_layerAll_of_notMem hp, Value.find?_insert_self]
        simp [Value.find?, Value.same_str_iff.mpr]
      · have hes : (keyNames es).Nodup := by
          simp only [keyNames, List.filterMap_cons] at h
          split at h
          · exact h
          · exact (List.nodup_cons.mp h).2
        have hsame : (Value.str p).same k = false := by
          rw [Bool.eq_false_iff, ne_eq, Value.same_str_iff]
          exact hk
        have hfind : Value.find? ((k, v) :: es) (.str p) = Value.find? es (.str p) := by
          simp [Value.find?, hsame]
        rw [ih hes, Value.find?_insert_of_ne bs hk, hfind]

theorem layer_none (v : Value) : layer none v = v := by
  cases v <;> simp only [layer]

theorem layer_map_map (bs es : List (Value × Value)) :
    layer (some (.map bs)) (.map es) = .map (layerAll bs es) := by
  rw [layer]

-- Only a mapping over a mapping is merged.
theorem layer_of_kind {below top : Value} (h : below.kind = .map → top.kind ≠ .map) :
    layer (some below) top = top := by
  cases top with
  | map es => cases below <;> simp_all [layer, Value.kind]
  | _ => simp only [layer]

theorem kind_layer (below : Option Value) (top : Value) : (layer below top).kind = top.kind := by
  cases below with
  | none => rw [layer_none]
  | some u =>
      by_cases h : u.kind = .map ∧ top.kind = .map
      · obtain ⟨bs, rfl⟩ := Value.eq_map_of_kind h.1
        obtain ⟨es, rfl⟩ := Value.eq_map_of_kind h.2
        rw [layer_map_map]
        rfl
      · rw [layer_of_kind fun hu htop => h ⟨hu, htop⟩]

end

-- What a value lets be seen of another that it is laid over: it has nothing at the path, and where
-- it has something on the way both are mappings.
inductive Through : Value → Value → List String → Prop where
  | absent {es bs : List (Value × Value)} {p : String} {ps : List String}
      (absent : Value.find? es (.str p) = none) : Through (.map es) (.map bs) (p :: ps)
  | inside {es bs : List (Value × Value)} {x y : Value} {p : String} {ps : List String}
      (top : Value.find? es (.str p) = some x) (below : Value.find? bs (.str p) = some y)
      (through : Through x y ps) : Through (.map es) (.map bs) (p :: ps)

-- A merged value follows another along a path: on the way the one is a mapping where the other is.
inductive Follows : Value → Value → List String → Prop where
  | done (m v : Value) : Follows m v []
  | leaf {m v : Value} {ps : List String} (merged : m.kind ≠ .map) (own : v.kind ≠ .map) :
      Follows m v ps
  | inside {ms vs : List (Value × Value)} {x y : Value} {p : String} {ps : List String}
      (merged : Value.find? ms (.str p) = some x) (own : Value.find? vs (.str p) = some y)
      (follows : Follows x y ps) : Follows (.map ms) (.map vs) (p :: ps)

section

variable {below top : Value} {ps : List String}

theorem child_map (es : List (Value × Value)) (p : String) :
    Path.child (.map es) p = .ok (Value.find? es (.str p)) := rfl

-- What is on top is seen: itself, or merged with what is below if it is a mapping.
theorem find_layer_of_some (hd : top.Distinct) {t : Value} (h : Path.find top ps = .ok (some t))
    (below : Option Value) : Follows (layer below top) top ps ∧
      ∃ m, Path.find (layer below top) ps = .ok (some m) ∧
        (m = t ∨ m.kind = .map ∧ t.kind = .map) := by
  induction ps generalizing top below with
  | nil =>
      obtain rfl : top = t := by simpa [Path.find] using h
      refine ⟨.done _ _, layer below top, rfl, ?_⟩
      by_cases hmap : top.kind = .map
      · exact .inr ⟨(kind_layer below top).trans hmap, hmap⟩
      · cases below with
        | none => exact .inl (layer_none top)
        | some u => exact .inl (layer_of_kind fun _ => hmap)
  | cons p ps ih =>
      obtain ⟨x, hx, ht⟩ := Path.find_cons_eq_some h
      by_cases hmap : top.kind = .map
      · obtain ⟨es, rfl⟩ := Value.eq_map_of_kind hmap
        have hx' : Value.find? es (.str p) = some x := Except.ok.inj hx
        -- What stands under the name is laid over what stood there, if that was a mapping too.
        obtain ⟨fs, hlayer, y, hy⟩ : ∃ fs, layer below (.map es) = .map fs ∧
            ∃ y, Value.find? fs (.str p) = some (layer y x) := by
          by_cases hbelow : ∃ bs, below = some (.map bs)
          · obtain ⟨bs, rfl⟩ := hbelow
            refine ⟨_, layer_map_map bs es, Value.find? bs (.str p), ?_⟩
            rw [find?_layerAll hd.1, hx']
          · refine ⟨es, ?_, none, by rw [hx', layer_none]⟩
            cases below with
            | none => exact layer_none _
            | some u =>
                refine layer_of_kind fun hu => ?_
                obtain ⟨bs, rfl⟩ := Value.eq_map_of_kind hu
                exact absurd ⟨bs, rfl⟩ hbelow
        obtain ⟨hfollows, m, hm, hmt⟩ := ih (hd.of_find? hx') ht y
        rw [hlayer, Path.find_cons, child_map, hy]
        exact ⟨.inside hy hx' hfollows, m, hm, hmt⟩
      · have hsame : layer below top = top := by
          cases below with
          | none => exact layer_none top
          | some u => exact layer_of_kind fun _ => hmap
        rw [hsame]
        exact ⟨.leaf hmap hmap, t, h, .inl rfl⟩

-- Where the top has nothing at a path, it lets what is below be seen or hides it.
theorem find_layer_of_none (below : Value) (hd : top.Distinct) (h : Path.find top ps = .ok none) :
    (Through top below ps → Path.find (layer (some below) top) ps = Path.find below ps) ∧
    (¬Through top below ps → Path.find (layer (some below) top) ps = .ok none) := by
  induction ps generalizing top below with
  | nil => cases h
  | cons p ps ih =>
      by_cases hmaps : ∃ es bs, top = .map es ∧ below = .map bs
      · obtain ⟨es, bs, rfl, rfl⟩ := hmaps
        have hchild := find?_layerAll hd.1 bs p
        rw [layer_map_map, Path.find_cons, Path.find_cons, child_map, child_map, hchild]
        rw [Path.find_cons, child_map] at h
        cases hx : Value.find? es (.str p) with
        | none => exact ⟨fun _ => rfl, fun hnot => absurd (.absent hx) hnot⟩
        | some x =>
            rw [hx] at h
            cases hy : Value.find? bs (.str p) with
            | none =>
                simp only [layer_none, h, implies_true, and_true]
            | some y =>
                obtain ⟨hthrough, hhidden⟩ := @ih x y (hd.of_find? hx) h
                refine ⟨?_, fun hnot => hhidden fun hxy => hnot (.inside hx hy hxy)⟩
                intro hxy
                cases hxy with
                | absent hnone => simp [hx] at hnone
                | inside hx' hy' hxy =>
                    rw [hx] at hx'
                    rw [hy] at hy'
                    cases hx'
                    cases hy'
                    exact hthrough hxy
      · have hnot : ¬Through top below (p :: ps) := by
          intro hthrough
          cases hthrough <;> exact hmaps ⟨_, _, rfl, rfl⟩
        have hsame : layer (some below) top = top := by
          refine layer_of_kind fun hbelow htop => hmaps ?_
          obtain ⟨bs, rfl⟩ := Value.eq_map_of_kind hbelow
          obtain ⟨es, rfl⟩ := Value.eq_map_of_kind htop
          exact ⟨es, bs, rfl, rfl⟩
        rw [hsame]
        exact ⟨fun hthrough => absurd hthrough hnot, fun _ => h⟩

-- Laying over lets as much be seen of a merged value as of one that it follows, and follows it on.
theorem Follows.through_iff {m v h : Value} (hf : Follows m v ps) :
    Through h m ps ↔ Through h v ps := by
  induction hf generalizing h with
  | done m v => constructor <;> (intro h; cases h)
  | leaf hm hv =>
      constructor
      · intro h
        cases h <;> exact absurd rfl hm
      · intro h
        cases h <;> exact absurd rfl hv
  | inside hx hy _ ih =>
      constructor
      · intro h
        cases h with
        | absent hnone => exact .absent hnone
        | inside htop hbelow h =>
            rw [hx] at hbelow
            cases hbelow
            exact .inside htop hy (ih.mp h)
      · intro h
        cases h with
        | absent hnone => exact .absent hnone
        | inside htop hbelow h =>
            rw [hy] at hbelow
            cases hbelow
            exact .inside htop hx (ih.mpr h)

theorem Follows.layer {m v h : Value} (hf : Follows m v ps) (hd : h.Distinct)
    (hthrough : Through h m ps) : Follows (layer (some m) h) v ps := by
  induction hf generalizing h with
  | done m v => exact .done _ _
  | leaf hm hv => cases hthrough <;> exact absurd rfl hm
  | @inside ms vs x y p ps hx hy _ ih =>
      cases hthrough with
      | @absent es _ _ _ hnone =>
          rw [layer_map_map]
          refine .inside (x := x) ?_ hy ‹_›
          rw [find?_layerAll hd.1, hnone, hx]
      | @inside es _ x' _ _ _ htop hbelow hthrough =>
          rw [hx] at hbelow
          cases hbelow
          rw [layer_map_map]
          refine .inside ?_ hy (ih (hd.of_find? htop) hthrough)
          rw [find?_layerAll hd.1, htop, hx]

-- By induction on the path: at each place on the way either the top has nothing, and then it has
-- nothing further on, or both have a mapping.
theorem through_iff {near own v : Value} (hnear : Path.find near ps = .ok none)
    (hown : Path.find own ps = .ok (some v)) :
    Through near own ps ↔ ∀ front rest, ps = front ++ rest → rest ≠ [] →
      ∀ x, Path.find near front = .ok (some x) →
        x.kind = .map ∧ ∃ y, Path.find own front = .ok (some y) ∧ y.kind = .map := by
  induction ps generalizing near own with
  | nil => cases hnear
  | cons p ps ih =>
      obtain ⟨y, hy, hv⟩ := Path.find_cons_eq_some hown
      constructor
      · intro hthrough front rest hps hrest x hx
        cases front with
        | nil =>
            cases hx
            cases hthrough <;> exact ⟨rfl, _, rfl, rfl⟩
        | cons q front =>
            obtain ⟨rfl, rfl⟩ := List.cons.inj hps
            obtain ⟨z, hz, hzx⟩ := Path.find_cons_eq_some hx
            cases hthrough with
            | absent hnone =>
                rw [child_map, hnone] at hz
                cases hz
            | inside htop hbelow hthrough =>
                rw [child_map, htop] at hz
                cases hz
                rw [child_map, hbelow] at hy
                cases hy
                rw [Path.find_cons_of_child (by rw [child_map, htop])] at hnear
                obtain ⟨hmap, u, hu, humap⟩ :=
                  (ih hnear hv).mp hthrough front rest rfl hrest x hzx
                exact ⟨hmap, u, by rw [Path.find_cons_of_child (by rw [child_map, hbelow]), hu],
                  humap⟩
      · intro h
        obtain ⟨hmap, own', hown', hmap'⟩ := h [] (p :: ps) rfl (by simp) near rfl
        cases hown'
        obtain ⟨es, rfl⟩ := Value.eq_map_of_kind hmap
        obtain ⟨bs, rfl⟩ := Value.eq_map_of_kind hmap'
        cases hx : Value.find? es (.str p) with
        | none => exact .absent hx
        | some x =>
            have hchild : Path.child (.map es) p = .ok (some x) := by rw [child_map, hx]
            rw [Path.find_cons_of_child hchild] at hnear
            refine .inside hx (Except.ok.inj hy) ((ih hnear hv).mpr ?_)
            rintro front rest rfl hrest z hz
            have hfront := h (p :: front) rest rfl hrest z
              (by rw [Path.find_cons_of_child hchild, hz])
            rwa [Path.find_cons_of_child hy] at hfront

end

section

variable {ps : List String}

theorem toValue_merged (b : Bindings) (view : View) :
    Value.map (View.merged (b :: view)) = layer (some (.map (View.merged view))) b.toValue := by
  rw [View.merged_cons, Bindings.toValue, Value.object, layer_map_map]

theorem find_merged_of_none {view : View} (hd : ∀ b ∈ view, b.toValue.Distinct) (hps : ps ≠ [])
    (h : ∀ b ∈ view, b.lookup ps = .ok none) :
    Path.find (.map (View.merged view)) ps = .ok none := by
  induction view with
  | nil =>
      obtain ⟨p, ps, rfl⟩ := List.exists_cons_of_ne_nil hps
      rfl
  | cons b view ih =>
      have hrest := ih (fun x hx => hd x (List.mem_cons_of_mem _ hx))
        fun x hx => h x (List.mem_cons_of_mem _ hx)
      have hb := h b List.mem_cons_self
      rw [Bindings.lookup_eq_find b hps] at hb
      obtain ⟨hthrough, hhidden⟩ := find_layer_of_none (.map (View.merged view))
        (hd b List.mem_cons_self) hb
      rw [toValue_merged]
      by_cases hb : Through b.toValue (.map (View.merged view)) ps
      · rw [hthrough hb, hrest]
      · exact hhidden hb

-- By induction on the nearer bindings: as long as all of them let it be seen, the merged value
-- follows the bindings that hold the path, so that the next are compared with these.
theorem find_merged {near far : View} {own : Bindings}
    (hd : ∀ b ∈ near ++ own :: far, b.toValue.Distinct) (hps : ps ≠ [])
    (hnear : ∀ b ∈ near, b.lookup ps = .ok none) {v : Value}
    (hown : own.lookup ps = .ok (some v)) :
    ((∀ b ∈ near, Through b.toValue own.toValue ps) ∧
      Follows (.map (View.merged (near ++ own :: far))) own.toValue ps ∧
      ∃ m, Path.find (.map (View.merged (near ++ own :: far))) ps = .ok (some m) ∧
        (m = v ∨ m.kind = .map ∧ v.kind = .map)) ∨
    (¬∀ b ∈ near, Through b.toValue own.toValue ps) ∧
      Path.find (.map (View.merged (near ++ own :: far))) ps = .ok none := by
  rw [Bindings.lookup_eq_find own hps] at hown
  induction near with
  | nil =>
      rw [List.nil_append, toValue_merged]
      have hfind := find_layer_of_some (hd own List.mem_cons_self) hown
        (some (.map (View.merged far)))
      exact .inl ⟨by simp, hfind⟩
  | cons b near ih =>
      rw [List.cons_append, toValue_merged]
      have hdb := hd b List.mem_cons_self
      have hb := hnear b List.mem_cons_self
      rw [Bindings.lookup_eq_find b hps] at hb
      obtain ⟨hthrough, hhidden⟩ := find_layer_of_none
        (.map (View.merged (near ++ own :: far))) hdb hb
      rcases ih (fun x hx => hd x (List.mem_cons_of_mem _ hx))
          (fun x hx => hnear x (List.mem_cons_of_mem _ hx)) with
        ⟨hall, hfollows, m, hm, hmv⟩ | ⟨hall, hnone⟩
      · rw [List.forall_mem_cons, ← hfollows.through_iff]
        by_cases hbm : Through b.toValue (.map (View.merged (near ++ own :: far))) ps
        · exact .inl ⟨⟨hbm, hall⟩, hfollows.layer hdb hbm, m, by rw [hthrough hbm, hm], hmv⟩
        · exact .inr ⟨fun h => hbm h.1, hhidden hbm⟩
      · refine .inr ⟨fun h => hall (List.forall_mem_cons.mp h).2, ?_⟩
        by_cases hbm : Through b.toValue (.map (View.merged (near ++ own :: far))) ps
        · rw [hthrough hbm, hnone]
        · exact hhidden hbm

end

end Store

-- Nearer bindings let be seen what others hold at a path: wherever on the way they have something,
-- both have a mapping.
def Bindings.Clears (near own : Bindings) (parts : List String) : Prop :=
  ∀ front rest, parts = front ++ rest → front ≠ [] → rest ≠ [] →
    ∀ x, near.lookup front = .ok (some x) →
      x.kind = .map ∧ ∃ y, own.lookup front = .ok (some y) ∧ y.kind = .map

theorem Bindings.clears_iff {near own : Bindings} {ps : List String} (hps : ps ≠ []) {v : Value}
    (hnear : near.lookup ps = .ok none) (hown : own.lookup ps = .ok (some v)) :
    near.Clears own ps ↔ Store.Through near.toValue own.toValue ps := by
  rw [lookup_eq_find _ hps] at hnear hown
  rw [Store.through_iff hnear hown]
  constructor
  · intro h front rest hsplit hrest x hx
    by_cases hfront : front = []
    · subst hfront
      cases hx
      exact ⟨rfl, _, rfl, rfl⟩
    · have hclears := h front rest hsplit hfront hrest x
      rw [lookup_eq_find _ hfront, lookup_eq_find _ hfront] at hclears
      exact hclears hx
  · intro h front rest hsplit hfront hrest x hx
    rw [lookup_eq_find _ hfront] at hx ⊢
    exact h front rest hsplit hrest x hx

-- A part of a path leads to a container in which the rest is looked for.
theorem Path.exists_of_find_append {v x : Value} {front rest : List String} (hrest : rest ≠ [])
    (h : Path.find v (front ++ rest) = .ok (some x)) :
    ∃ y, Path.find v front = .ok (some y) ∧ (y.kind = .map ∨ y.kind = .list ∨ y.kind = .tuple) := by
  induction front generalizing v with
  | nil =>
      obtain ⟨p, ps, rfl⟩ := List.exists_cons_of_ne_nil hrest
      obtain ⟨y, hy, -⟩ := find_cons_eq_some h
      refine ⟨v, rfl, ?_⟩
      cases v <;> simp_all [child, Value.kind]
  | cons p front ih =>
      obtain ⟨y, hy, hx⟩ := find_cons_eq_some h
      rw [find_cons_of_child hy]
      exact ih hx

-- Nearer bindings hide what others hold at a path where they have something that is no mapping, or
-- a mapping in place of a sequence.
theorem Bindings.not_clears_iff {near own : Bindings} {ps : List String} {v : Value}
    (hown : own.lookup ps = .ok (some v)) :
    ¬near.Clears own ps ↔ ∃ front rest x, ps = front ++ rest ∧ front ≠ [] ∧ rest ≠ [] ∧
      near.lookup front = .ok (some x) ∧ (x.kind ≠ .map ∨ x.kind = .map ∧
        ∃ y, own.lookup front = .ok (some y) ∧ (y.kind = .list ∨ y.kind = .tuple)) := by
  unfold Clears
  push Not
  constructor
  · rintro ⟨front, rest, rfl, hfront, hrest, x, hx, hhides⟩
    refine ⟨front, rest, x, rfl, hfront, hrest, hx, ?_⟩
    by_cases hmap : x.kind = .map
    · rw [lookup_eq_find _ (by simp [hfront])] at hown
      obtain ⟨y, hy, hkind⟩ := Path.exists_of_find_append hrest hown
      rw [← lookup_eq_find _ hfront] at hy
      exact .inr ⟨hmap, y, hy, hkind.resolve_left (hhides hmap y hy)⟩
    · exact .inl hmap
  · rintro ⟨front, rest, x, hps, hfront, hrest, hx, hhides⟩
    refine ⟨front, rest, hps, hfront, hrest, x, hx, fun hmap y hy => ?_⟩
    rcases hhides with hnot | ⟨-, z, hz, hkind⟩
    · exact absurd hmap hnot
    · rw [hy] at hz
      cases hz
      rcases hkind with hkind | hkind <;> simp [hkind]

namespace Store

-- The scopes on the way from a scope to one that it is in.
def nearer (s : Store) (i o : ScopeId) : List (ScopeId × Scope) :=
  (s.chain i).takeWhile fun e => e.1 != o

variable {s : Store} {i o : ScopeId} {path : String} {v : Value}

-- The view of a scope from which a path is found: first the scopes that do not hold it.
theorem view_of_locate (h : s.locate i path = .ok (some (o, v))) :
    ∃ far, s.view i = (s.nearer i o).map (·.2.bindings) ++ s.bindings o :: far ∧
      ∀ e ∈ s.nearer i o, e.2.bindings.lookup (Path.parts path) = .ok none := by
  obtain ⟨near, sc, far, hchain, hnear, hsc⟩ := exists_split_of_search h
  have hscope : s.scope? o = some sc := scope?_of_mem_chain (i := i) (by simp [hchain])
  have hne : ∀ e ∈ near, (e.1 != o) = true := by
    rintro ⟨k, sc'⟩ he
    rw [bne_iff_ne]
    rintro rfl
    have hscope' : s.scope? k = some sc' := scope?_of_mem_chain (i := i) (by simp [hchain, he])
    rw [hscope] at hscope'
    cases hscope'
    exact absurd ((hnear _ he).symm.trans hsc) (by simp)
  have hnearer : s.nearer i o = near := by
    unfold nearer
    rw [hchain, List.takeWhile_append_of_pos hne]
    simp
  refine ⟨far.map (·.2.bindings), ?_, hnearer ▸ hnear⟩
  rw [hnearer, view, hchain]
  simp [bindings, hscope]

-- What is found at a path is shown as it is, or merged if it is a mapping; or nothing is shown,
-- where it is hidden by a nearer scope.
theorem find_value_of_locate (hd : ∀ b ∈ s.view i, b.toValue.Distinct)
    (h : s.locate i path = .ok (some (o, v))) :
    ((∀ e ∈ s.nearer i o, e.2.bindings.Clears (s.bindings o) (Path.parts path)) ∧
      ∃ m, Path.find (s.value i) (Path.parts path) = .ok (some m) ∧
        (m = v ∨ m.kind = .map ∧ v.kind = .map)) ∨
    (¬∀ e ∈ s.nearer i o, e.2.bindings.Clears (s.bindings o) (Path.parts path)) ∧
      Path.find (s.value i) (Path.parts path) = .ok none := by
  have hps := Path.parts_ne_nil path
  have hown := (lookup_of_locate h).2
  obtain ⟨far, hview, hnear⟩ := view_of_locate h
  have hclears : (∀ e ∈ s.nearer i o, e.2.bindings.Clears (s.bindings o) (Path.parts path)) ↔
      ∀ b ∈ (s.nearer i o).map (·.2.bindings),
        Through b.toValue (s.bindings o).toValue (Path.parts path) := by
    rw [List.forall_mem_map]
    exact forall₂_congr fun e he => Bindings.clears_iff hps (hnear e he) hown
  rw [value_eq_view, hclears]
  rw [hview] at hd ⊢
  have hnone : ∀ b ∈ (s.nearer i o).map (·.2.bindings), b.lookup (Path.parts path) = .ok none :=
    List.forall_mem_map.mpr hnear
  rcases find_merged hd hps hnone hown with ⟨hthrough, -, hfind⟩ | hhidden
  · exact .inl ⟨hthrough, hfind⟩
  · exact .inr hhidden

-- Where no mapping stands, the merged view shows what is found at a path exactly if the nearer
-- scopes let it be seen; it shows nothing there exactly if one of them has something on the way
-- that is no mapping, or a mapping in place of a sequence.
theorem find_value_iff {found : Option ScopeId} (hd : ∀ b ∈ s.view i, b.toValue.Distinct)
    (howner : s.owner i path = .ok found) (hv : v.kind ≠ .map) :
    (Path.find (s.value i) (Path.parts path) = .ok (some v) ↔
      s.resolve i path = .ok v ∧ ∃ o, found = some o ∧
        ∀ e ∈ s.nearer i o, e.2.bindings.Clears (s.bindings o) (Path.parts path)) ∧
    (s.resolve i path = .ok v → ∀ o, found = some o →
      (Path.find (s.value i) (Path.parts path) = .ok none ↔
        ∃ e ∈ s.nearer i o, ∃ front rest x, Path.parts path = front ++ rest ∧ front ≠ [] ∧
          rest ≠ [] ∧ e.2.bindings.lookup front = .ok (some x) ∧
          (x.kind ≠ .map ∨ x.kind = .map ∧ ∃ y, (s.bindings o).lookup front = .ok (some y) ∧
            (y.kind = .list ∨ y.kind = .tuple)))) := by
  rcases locate_of_owner howner with ⟨o, x, rfl, hlocate⟩ | ⟨rfl, hlocate⟩
  case inr =>
    have hunresolved : s.resolve i path ≠ .ok v := by
      intro hx
      obtain ⟨o, hx⟩ := locate_of_resolve hx
      rw [hlocate] at hx
      cases hx
    have hnone : ∀ b ∈ s.view i, b.lookup (Path.parts path) = .ok none :=
      List.forall_mem_map.mpr (search_eq_none_iff.mp hlocate)
    rw [value_eq_view, find_merged_of_none hd (Path.parts_ne_nil path) hnone]
    simp [hunresolved]
  have hown := (lookup_of_locate hlocate).2
  have hresolve : s.resolve i path = .ok v ↔ x = v := by
    rw [resolve_of_locate hlocate, Except.ok.injEq]
  have hhides : (¬∀ e ∈ s.nearer i o, e.2.bindings.Clears (s.bindings o) (Path.parts path)) ↔
      ∃ e ∈ s.nearer i o, ¬e.2.bindings.Clears (s.bindings o) (Path.parts path) := by
    push Not
    rfl
  rw [hresolve]
  rcases find_value_of_locate hd hlocate with ⟨hclears, m, hm, hmx⟩ | ⟨hnot, hnone⟩
  · rw [hm, Except.ok.injEq, Option.some.injEq]
    refine ⟨⟨?_, ?_⟩, ?_⟩
    · rintro rfl
      exact ⟨(hmx.resolve_right fun h => hv h.1).symm, o, rfl, hclears⟩
    · rintro ⟨rfl, -⟩
      exact hmx.resolve_right fun h => hv h.2
    · rintro rfl o' ⟨⟩
      simp only [Except.ok.injEq, reduceCtorEq, false_iff, ← Bindings.not_clears_iff hown,
        ← hhides, not_not]
      exact hclears
  · rw [hnone]
    refine ⟨⟨fun h => absurd h (by simp), ?_⟩, ?_⟩
    · rintro ⟨-, o', ⟨⟩, hclears⟩
      exact absurd hclears hnot
    · rintro rfl o' ⟨⟩
      simp only [true_iff, ← Bindings.not_clears_iff hown, ← hhides]
      exact hnot

end Store

namespace Sample

-- The scope in the middle lays a mapping over one of the root's, the nearest has a mapping where
-- the root has a list.
def attic : Store :=
  ((Store.empty.push none
      [("box", .object [("lid", .object [("key", .int 1)])]),
        ("shelf", .list [.int 2, .object [("x", .int 5)]])]).push
    (some 0) [("box", .object [("lid", .object [("tag", .null)])])]).push
    (some 1) [("shelf", .object [("1", .object [("y", .null)])])]

theorem attic_distinct : ∀ b ∈ attic.view 2, b.toValue.Distinct := by
  have hview : attic.view 2 = [[("shelf", .object [("1", .object [("y", .null)])])],
      [("box", .object [("lid", .object [("tag", .null)])])],
      [("box", .object [("lid", .object [("key", .int 1)])]),
        ("shelf", .list [.int 2, .object [("x", .int 5)]])]] := rfl
  rw [hview]
  simp [Bindings.toValue, Value.object, Value.Distinct, Value.DistinctEntries, keyNames]

-- The one path is seen through both nearer scopes, the other is hidden by the nearest.
theorem find_value_attic :
    (attic.owner 2 "box.lid.key" = .ok (some 0) ∧
      Path.find (attic.value 2) (Path.parts "box.lid.key") = .ok (some (.int 1)) ∧
      ∀ e ∈ attic.nearer 2 0,
        e.2.bindings.Clears (attic.bindings 0) (Path.parts "box.lid.key")) ∧
    attic.owner 2 "shelf.1.x" = .ok (some 0) ∧ attic.resolve 2 "shelf.1.x" = .ok (.int 5) ∧
      Path.find (attic.value 2) (Path.parts "shelf.1.x") = .ok none ∧
      ∃ e ∈ attic.nearer 2 0, ∃ front rest x, Path.parts "shelf.1.x" = front ++ rest ∧
        front ≠ [] ∧ rest ≠ [] ∧ e.2.bindings.lookup front = .ok (some x) ∧
        (x.kind ≠ .map ∨ x.kind = .map ∧ ∃ y, (attic.bindings 0).lookup front = .ok (some y) ∧
          (y.kind = .list ∨ y.kind = .tuple)) := by
  have hbox : attic.owner 2 "box.lid.key" = .ok (some 0) := rfl
  have hshelf : attic.owner 2 "shelf.1.x" = .ok (some 0) := rfl
  have hshown : Path.find (attic.value 2) (Path.parts "box.lid.key") = .ok (some (.int 1)) := rfl
  have hhidden : Path.find (attic.value 2) (Path.parts "shelf.1.x") = .ok none := rfl
  have hresolve : attic.resolve 2 "shelf.1.x" = .ok (.int 5) := rfl
  have hone : (Value.int 1).kind ≠ .map := by decide
  have hfive : (Value.int 5).kind ≠ .map := by decide
  obtain ⟨-, o, ⟨⟩, hclears⟩ := (Store.find_value_iff attic_distinct hbox hone).1.mp hshown
  have hhides := ((Store.find_value_iff attic_distinct hshelf hfive).2 hresolve 0 rfl).mp hhidden
  exact ⟨⟨hbox, hshown, hclears⟩, hshelf, hresolve, hhidden, hhides⟩

end Sample

end Dialect
