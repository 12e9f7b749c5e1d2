import Dialect.Proofs.Yaml.Composing
import Dialect.Proofs.Yaml.Content
import Dialect.Yaml.Reader

namespace Dialect.Yaml

variable {cause : Error → Prop}

namespace Graph

variable {g g' g'' : Graph} {i : Nat}

-- A graph after some of its merge keys have been replaced. That changes the entries of mappings,
-- but no scalar and no tag that matters here.
structure Flattened (g g' : Graph) : Prop where
  -- default keys become texts
  tag (i : Nat) : g'.tag i = g.tag i ∨ g'.tag i = .str
  scalar (i : Nat) (s : String) : g'.body i = .scalar s → g.body i = .scalar s
  mapping (i : Nat) : g'.isMapping i = g.isMapping i

theorem Flattened.refl (g : Graph) : Flattened g g :=
  ⟨fun _ => .inl rfl, fun _ _ h => h, fun _ => rfl⟩

theorem Flattened.trans (h : Flattened g g') (h' : Flattened g' g'') : Flattened g g'' where
  tag i := by
    rcases h'.tag i with ht | ht
    · rw [ht]
      exact h.tag i
    · exact .inr ht
  scalar i s hs := h.scalar i s (h'.scalar i s hs)
  mapping i := (h'.mapping i).trans (h.mapping i)

theorem node_set (g : Graph) (i j : Nat) (n : Node) :
    (g.set i n).node j = if i = j ∧ i < g.size then n else g.node j := by
  unfold node set size
  simp only [Array.getElem?_setIfInBounds]
  by_cases hij : i = j
  · subst hij
    by_cases hi : i < g.nodes.size <;> simp [hi]
  · simp [hij]

theorem flattened_retag (g : Graph) (i : Nat) : Flattened g (g.retag i .str) := by
  have hnode (j : Nat) : (g.retag i .str).node j = g.node j ∨
      (g.retag i .str).node j = { g.node j with tag := .str } := by
    rw [retag, node_set]
    split
    · next h => exact .inr (by rw [h.1])
    · exact .inl rfl
  have hbody (j : Nat) : (g.retag i .str).body j = g.body j := by
    unfold body
    rcases hnode j with h | h <;> rw [h]
  refine ⟨fun j => ?_, fun j s h => ?_, fun j => ?_⟩
  · unfold tag
    rcases hnode j with h | h
    · exact .inl (by rw [h])
    · exact .inr (by rw [h])
  · rwa [hbody] at h
  · rw [isMapping, hbody, ← isMapping]

theorem flattened_setEntries (h : g.isMapping i) (es : List (Nat × Nat)) :
    Flattened g (g.setEntries i es) := by
  have hnode (j : Nat) : (g.setEntries i es).node j = g.node j ∨
      i = j ∧ (g.setEntries i es).node j = { g.node j with body := .mapping es } := by
    rw [setEntries, node_set]
    split
    · next h => exact .inr ⟨h.1, by rw [h.1]⟩
    · exact .inl rfl
  refine ⟨fun j => .inl ?_, fun j s hs => ?_, fun j => ?_⟩
  · unfold tag
    rcases hnode j with h | ⟨-, h⟩ <;> rw [h]
  · unfold body at hs ⊢
    rcases hnode j with h | ⟨-, h⟩
    · rwa [h] at hs
    · rw [h] at hs
      cases hs
  · rcases hnode j with hj | ⟨rfl, hj⟩
    · rw [isMapping, body, hj]
      rfl
    · rw [isMapping, body, hj, h]

end Graph

theorem meets_foldlM {α β : Type} {I : β → Prop} {f : β → α → Except ReadFault β}
    (h : ∀ b a, I b → Meets cause I (f b a)) (as : List α) {b : β} (hb : I b) :
    Meets cause I (as.foldlM f b) := by
  induction as generalizing b with
  | nil => exact hb
  | cons a as ih =>
      rw [List.foldlM_cons]
      exact (h b a hb).bind fun _ => ih

namespace Graph

variable {g g₀ : Graph} {i : Nat}

theorem mergeAll_meets {f : Nat → Graph → Except ReadFault Graph}
    (hf : ∀ i g, Flattened g₀ g → g.isMapping i → Meets cause (Flattened g₀) (f i g))
    (items : List Nat) (hg : Flattened g₀ g) :
    Meets cause (fun y => Flattened g₀ y.1) (mergeAll f g items) := by
  refine meets_foldlM ?_ items hg
  rintro ⟨g, es⟩ i hg
  dsimp only
  split
  · next hmap => exact (hf i g hg hmap).bind fun _ hg => hg
  · exact .malformed

theorem step_meets {f : Nat → Graph → Except ReadFault Graph}
    (hf : ∀ i g, Flattened g₀ g → g.isMapping i → Meets cause (Flattened g₀) (f i g))
    {s : Merging} (e : Nat × Nat) (hs : Flattened g₀ s.graph) :
    Meets cause (fun s => Flattened g₀ s.graph) (s.step f e) := by
  unfold Merging.step
  split
  · split
    · exact (mergeAll_meets hf _ hs).bind fun _ h => h
    · exact (mergeAll_meets hf _ hs).bind fun _ h => h
    · exact .malformed
  · exact hs.trans (flattened_retag _ _)
  · exact hs

theorem flatten_meets (fuel : Nat) (hg : Flattened g₀ g) (hmap : g.isMapping i) :
    Meets cause (Flattened g₀) (flatten fuel i g) := by
  induction fuel generalizing i g with
  | zero => exact hg
  | succ fuel ih =>
      unfold flatten
      have hsteps : Meets cause (fun s => Flattened g₀ s.graph)
          ((g.entries i).foldlM (Merging.step (flatten fuel)) ⟨g, [], []⟩) :=
        meets_foldlM (fun _ e hs => step_meets (fun _ _ => ih) e hs) _ hg
      refine hsteps.bind fun s hs => hs.trans (flattened_setEntries ?_ _)
      rwa [hs.mapping, ← hg.mapping]

-- A node holds a text itself, or it is a mapping, which can stand for a text under its default key.
def Tells (g : Graph) (i : Nat) (s : String) : Prop :=
  g.body i = .scalar s ∨ g.isMapping i ∧ ∃ j, g.body j = .scalar s

theorem tells_of_text? {fuel : Nat} {s : String} (h : g.text? fuel i = some s) : g.Tells i s := by
  induction fuel generalizing i with
  | zero => cases h
  | succ fuel ih =>
      unfold text? at h
      split at h
      · next hbody => exact .inl (hbody.trans (congrArg _ (Option.some.inj h)))
      · cases h
      · next es hbody =>
          split at h
          · refine .inr ⟨by simp [isMapping, hbody], ?_⟩
            rcases ih h with hs | ⟨-, hs⟩
            · exact ⟨_, hs⟩
            · exact hs
          · cases h

theorem Flattened.tells {s : String} (h : Flattened g₀ g) (hs : g.Tells i s) : g₀.Tells i s := by
  rcases hs with hs | ⟨hmap, j, hs⟩
  · exact .inl (h.scalar i s hs)
  · exact .inr ⟨h.mapping i ▸ hmap, j, h.scalar j s hs⟩

-- What the nodes of a text have that cannot be built.
inductive Refuses (g : Graph) : Error → Prop where
  | scalar {i : Nat} {s : String} {e : Error} (hs : g.Tells i s) (h : Unbuildable (g.tag i) s e) :
      Refuses g e
  | mapping {i : Nat} {s : String} (hs : g.Tells i s) (hmap : g.isMapping i)
      (htag : g.tag i = .timestamp) : Refuses g (.kind (.notText .list))

-- No text is refused for being one, so a tag that has changed refuses nothing.
theorem Flattened.refuses {s : String} {e : Error} (h : Flattened g₀ g) (hs : g.Tells i s)
    (he : Unbuildable (g.tag i) s e) : g₀.Refuses e := by
  rcases h.tag i with htag | htag
  · exact .scalar (h.tells hs) (htag ▸ he)
  · rw [htag] at he
    cases he

end Graph

namespace Build

variable {α β : Type} {g : Graph}

abbrev Stays (g : Graph) (x : Build α) : Prop :=
  Keeps g.Refuses (fun s => g.Flattened s.graph) x

theorem malformed_stays : Stays (α := α) g malformed := .malformed

theorem built?_stays (i : Nat) : Stays g (built? i) := .bind .get fun _ => .pure _

theorem put_stays (i : Nat) (b : Built) : Stays g (put i b) := by
  unfold put
  exact .modify fun s hs => hs

theorem scalar_stays (i : Nat) : Stays g (scalar i) := by
  unfold scalar
  refine .get_bind fun s hs => ?_
  dsimp only
  split
  · exact .malformed
  · next text htext =>
      have htells := Graph.tells_of_text? htext
      refine Keeps.when_bind (fun hstamp => .refused ?_) ?_
      · obtain ⟨hmap, htag⟩ : s.graph.isMapping i ∧ s.graph.tag i = .timestamp := by
          simpa using hstamp
        have hbefore : g.tag i = .timestamp := by
          rcases hs.tag i with h | h
          · rw [← h, htag]
          · rw [htag] at h
            cases h
        exact .mapping (hs.tells htells) (hs.mapping i ▸ hmap) hbefore
      · split
        · exact .pure _
        · next f hf =>
            have hmeets := scalarContent?_meets hf
            cases f with
            | malformed => exact .malformed
            | refused e => exact .refused (hs.refuses htells hmeets)
        · exact .malformed

theorem node_stays (i : Nat) : Stays g (node i) := by
  unfold node
  refine .bind (built?_stays i) fun b => .ite (.bind .get fun s => ?_) (.pure _)
  split
  · exact .bind (put_stays i _) fun _ => .modify fun s hs => hs
  · exact .bind (scalar_stays i) fun v => put_stays i _

theorem key_stays (i : Nat) : Stays g (key i) := by
  unfold key
  refine .bind (node_stays i) fun _ => .bind (built?_stays i) fun b => ?_
  split
  · exact .pure _
  · exact malformed_stays

theorem mapM_stays {f : α → Build β} (h : ∀ a, Stays g (f a)) (as : List α) :
    Stays g (as.mapM f) := by
  induction as with
  | nil => exact .pure _
  | cons a as ih =>
      rw [List.mapM_cons]
      exact .bind (h a) fun _ => .bind ih fun _ => .pure _

theorem forM_stays {f : α → Build PUnit} (h : ∀ a, Stays g (f a)) (as : List α) :
    Stays g (as.forM f) := by
  induction as with
  | nil => exact .pure _
  | cons a as ih => exact .bind (h a) fun _ => ih

theorem mapEntries_stays (i : Nat) : Stays g (mapEntries i) := by
  unfold mapEntries
  refine .get_bind fun s hs => ?_
  split
  · next hmap =>
      refine .lift_bind (Graph.flatten_meets _ hs hmap) fun g' hg' => ?_
      refine .bind (.set hg') fun _ => mapM_stays (fun _ => ?_) _
      exact .bind (key_stays _) fun _ => .bind (node_stays _) fun _ => .pure _
  · exact fun _ _ => trivial

theorem single_stays (i : Nat) : Stays g (single i) := by
  unfold single
  refine .bind .get fun s => ?_
  split
  · exact .bind (node_stays _) fun _ => .bind (node_stays _) fun _ => .pure _
  · exact malformed_stays

theorem items_stays (i : Nat) : Stays g (items i) := by
  unfold items
  refine .bind .get fun s => ?_
  split
  · exact .pure _
  · exact malformed_stays

theorem fill_stays (i : Nat) : Stays g (fill i) := by
  unfold fill
  have hpairs : Stays g (do put i (.pairs (← (← items i).mapM single))) :=
    .bind (items_stays i) fun is => .bind (mapM_stays single_stays is) fun es => put_stays i _
  refine .bind .get fun s => ?_
  split
  · exact .bind (items_stays i) fun is => .bind (forM_stays node_stays is) fun _ => put_stays i _
  · exact hpairs
  · exact hpairs
  · exact .bind (mapEntries_stays i) fun es => put_stays i _
  · exact .bind (mapEntries_stays i) fun es => put_stays i _

theorem fillAll_stays (fuel : Nat) : Stays g (fillAll fuel) := by
  induction fuel with
  | zero => exact .pure _
  | succ fuel ih =>
      unfold fillAll
      refine .get_bind fun s hs => .ite (.pure _) (.bind (.set hs) fun _ => ?_)
      exact .bind (forM_stays fill_stays _) fun _ => ih

end Build

theorem Graph.build_meets (g : Graph) (root : Nat) :
    Meets g.Refuses (fun _ => True) (g.build root) := by
  have hwork : Build.Stays g (do
      Build.node root
      Build.fillAll (g.size + 1)) :=
    .bind (Build.node_stays root) fun _ => Build.fillAll_stays _
  exact (hwork _ (.refl g)).bind fun _ _ => Meets.pure.mpr trivial

-- What a text has that its reader refuses: something that its scanner refuses, or a node that
-- cannot be built.
def Refuses (text : List Char) (e : Error) : Prop :=
  Unscannable text e ∨ ∃ g root, Graph.ofText text = .ok (some (g, root)) ∧ g.Refuses e

theorem read_meets (s : String) : Meets (Refuses s.toList) (fun _ => True) (read s) := by
  unfold read
  have hnodes := Graph.ofText_meets s.toList
  match hgraph : Graph.ofText s.toList, hnodes with
  | .ok none, _ => trivial
  | .ok (some (g, root)), _ =>
      exact (g.build_meets root).imp (fun e he => .inr ⟨g, root, hgraph, he⟩) fun _ _ => trivial
  | .error .malformed, _ => trivial
  | .error (.refused e), he => exact .inl he

end Dialect.Yaml
