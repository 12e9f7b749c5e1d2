import Dialect.Proofs.Language.Extension
import Mathlib.Data.List.Nodup

namespace Dialect

-- Noted markers have one entry for a text.
theorem Markers.find?_of_mem {ms : Markers} (h : Noted [] ms) {key : String} {m : Marker}
    (hmem : (.str key, m) ∈ ms) : ms.find? (.str key) = some m := by
  obtain ⟨new, hnew, -, hpair⟩ := h
  rw [List.nil_append] at hnew
  obtain ⟨before, after, rfl⟩ := List.append_of_mem hmem
  rw [← hnew, List.pairwise_append] at hpair
  have hbefore : find? before (.str key) = none :=
    find?_eq_none_iff.mpr fun e he => hpair.2.2 e he _ List.mem_cons_self
  rw [find?_append, hbefore]
  simp [find?, Value.same, Value.equal]

namespace Language

theorem nodup_unique (names : List String) : (unique names).Nodup := by
  unfold unique
  induction hn : names.length using Nat.strongRecOn generalizing names with
  | ind n ih =>
      cases names with
      | nil => simp
      | cons x names =>
          have hlt : (names.filter fun y => !y == x).length < n := by
            have := List.length_filter_le (fun y => !y == x) names
            simp only [List.length_cons] at hn
            omega
          rw [List.eraseDups_cons, List.nodup_cons]
          exact ⟨by simp, ih _ hlt _ rfl⟩

namespace Declared

variable {keys : List Value} {bindingKey grammar : Value} {aspects : List (Aspect ⊕ Value)}
  {l : Language} {ms : Markers} {ns bs ss : List String}

-- The binding key is not marked as a sequence: its only marker would be refused.
theorem bindingKey_notMem (h : Declared keys bindingKey grammar aspects l ms ns bs ss) :
    l.bindingKey ∉ ss := by
  intro hmem
  have hkey : Value.str l.bindingKey ∈ ms.keysOf .sequenceOf := by
    rw [h.sequences]
    exact List.mem_map_of_mem hmem
  obtain ⟨⟨k, m⟩, he, hk⟩ := List.mem_map.mp hkey
  obtain ⟨hmarked, hm⟩ := List.mem_filter.mp he
  simp only [beq_iff_eq] at hk hm
  subst hk hm
  have hfind := Markers.find?_of_mem h.noted hmarked
  have hbinding := h.binding
  rw [h.bindingName, checkBinding, hfind] at hbinding
  cases hbinding

-- No key but the binding key occurs twice among the steps.
theorem count_steps_le_one (h : Declared keys bindingKey grammar aspects l ms ns bs ss)
    {key : String} (hkey : key ≠ l.bindingKey) : (l.steps.map (·.1)).count key ≤ 1 := by
  have hperm : (l.steps.map (·.1)).Perm (l.bindingKey :: l.ordered.map (·.1)) := by
    have hmiddle : l.steps.Perm ((l.bindingKey, l.bindingAspect) :: l.ordered) := by
      have h : l.steps.Perm ((l.bindingKey, l.bindingAspect) ::
          (l.ordered.take l.bindingIndex ++ l.ordered.drop l.bindingIndex)) := List.perm_middle
      rwa [List.take_append_drop] at h
    exact hmiddle.map _
  have hsublist (ks : List String) : ((ks.filterMap l.step?).map (·.1)).Sublist ks := by
    induction ks with
    | nil => exact .slnil
    | cons k ks ih =>
        rw [List.filterMap_cons]
        cases ha : l.aspect? k with
        | none => simpa [step?, ha] using ih.cons k
        | some a => simpa [step?, ha] using ih
  have hnodup : (l.ordered.map (·.1)).Nodup := by
    refine (hsublist l.order).nodup ?_
    rw [h.order]
    exact nodup_unique _
  rw [hperm.count_eq, List.count_cons_of_ne hkey.symm]
  exact List.nodup_iff_count_le_one.mp hnodup key

end Declared

-- The one step of a sequence, among the others.
theorem Plain.exists_split {l : Language} (h : l.Plain) {key : String}
    (hkey : (key, .ofSequence 0 key) ∈ l.steps) :
    ∃ before after, l.steps = before ++ (key, .ofSequence 0 key) :: after ∧
      ∀ step ∈ before ++ after, step.1 ≠ key := by
  obtain ⟨keys, bindingKey, grammar, hl⟩ := h
  obtain ⟨ms, ns, bs, ss, hd⟩ := declare_eq_ok hl
  have hmem : key ∈ ss := by
    have hexplicit : l.explicit = [] := (Except.ok.inj hd.explicit).symm
    have haspect := (mem_steps hkey).resolve_right (by rintro ⟨-, ha⟩; cases ha)
    rw [hd.aspect?_eq, hexplicit] at haspect
    have hmem := List.mem_of_find?_eq_some haspect
    simp only [List.append_nil, List.mem_reverse, List.mem_append, List.mem_map] at hmem
    rcases hmem with (⟨k, -, hk⟩ | ⟨k, -, hk⟩) | ⟨k, hk, heq⟩
    · cases hk
    · cases hk
    · have hkey : k = key := congrArg Aspect.key heq
      exact hkey ▸ hk
  have hne : key ≠ l.bindingKey := fun heq => hd.bindingKey_notMem (heq ▸ hmem)
  obtain ⟨before, after, hsteps⟩ := List.append_of_mem hkey
  have hcount := hd.count_steps_le_one hne
  rw [hsteps] at hcount
  refine ⟨before, after, hsteps, ?_⟩
  rintro step hstep rfl
  have hpos : 0 < ((before ++ after).map (·.1)).count step.1 :=
    List.count_pos_iff.mpr (List.mem_map_of_mem hstep)
  simp only [List.map_append, List.map_cons, List.count_append, List.count_cons_self] at hcount hpos
  omega

end Language

end Dialect
