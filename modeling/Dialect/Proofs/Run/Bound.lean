import Dialect.Proofs.Pipeline.Sites
import Dialect.Proofs.Run.Isolation

namespace Dialect

namespace Value

-- A name that a binding form with this value may bind. What a text stands for is not known.
def MayName (name : String) : Value → Prop
  | .map es => .str name ∈ es.map (·.1)
  | .str _ => True
  | _ => False

theorem map_fst_substituteEntries {look : String → Except Error Value}
    {es fs : List (Value × Value)} (h : substituteEntries look es = .ok fs) :
    fs.map (·.1) = es.map (·.1) := by
  induction es generalizing fs with
  | nil =>
      cases h
      rfl
  | cons e es ih =>
      obtain ⟨k, v⟩ := e
      obtain ⟨x, -, h⟩ := exists_of_bind_eq_ok h
      obtain ⟨gs, hgs, h⟩ := exists_of_bind_eq_ok h
      cases h
      simp [ih hgs]

theorem mayName_of_add {look : String → Except Error Value} {raw : Value} {b : Bindings}
    {name : String} (h : (raw.substitute look >>= Bindings.add []) = .ok b)
    (hname : name ∈ b.names) : raw.MayName name := by
  obtain ⟨v, hv, hb⟩ := exists_of_bind_eq_ok h
  cases raw with
  | str p => trivial
  | map es =>
      obtain ⟨fs, hfs, hmap⟩ := exists_of_bind_eq_ok hv
      cases hmap
      rcases Bindings.mem_names_of_addAll hb hname with hnil | hkey
      · cases hnil
      · rwa [map_fst_substituteEntries hfs] at hkey
  | list xs =>
      obtain ⟨ys, -, hlist⟩ := exists_of_bind_eq_ok hv
      cases hlist
      cases hb
  | tuple xs =>
      obtain ⟨ys, -, htuple⟩ := exists_of_bind_eq_ok hv
      cases htuple
      cases hb
  | _ =>
      cases hv
      cases hb

end Value

-- A name that a program, or a member at any depth, may bind under some language of the list. A
-- binding form keeps the keys of its value, so all names are written in the data, unless the form
-- refers to a mapping that stands elsewhere.
inductive Program.MayBind (ls : List Language) (name : String) : Value → Prop where
  | nameSpace {l : Nat} {key : String} {data raw : Value}
      (step : (key, .ofNamespace 0 key) ∈ (ls[l]?.getD default).steps)
      (value : data.atName key = .ok raw) (own : name = "@" ++ key) : MayBind ls name data
  | bindingForm {l : Nat} {key : String} {data raw : Value}
      (step : (key, .ofBindingForm 0 key) ∈ (ls[l]?.getD default).steps)
      (value : data.atName key = .ok raw) (names : raw.MayName name) : MayBind ls name data
  | member {l : Nat} {key : String} {data raw m : Value} {ms : List Value}
      (step : (key, .ofSequence 0 key) ∈ (ls[l]?.getD default).steps)
      (value : data.atName key = .ok raw) (members : raw.members = .ok ms) (mem : m ∈ ms)
      (binds : MayBind ls name (body m)) : MayBind ls name data

namespace Language

theorem steps_default : (default : Language).steps = [("", .ofBindingForm 0 "")] := rfl

-- Whatever number is asked for: outside of the list there is a binding key only.
theorem synthetic_of_plain {ls : List Language} (hplain : ∀ L ∈ ls, L.Plain) {l : Nat}
    {key : String} {a : Aspect} (hstep : (key, a) ∈ (ls[l]?.getD default).steps) :
    a.Synthetic key := by
  cases hl : ls[l]? with
  | some L =>
      rw [hl] at hstep
      exact (hplain L (List.mem_of_getElem? hl)).synthetic hstep
  | none =>
      rw [hl, Option.getD_none, steps_default, List.mem_singleton] at hstep
      cases hstep
      exact .bindingForm

end Language

namespace Call

variable {c : Call} {name : String} (hplain : ∀ L ∈ c.world.languages, L.Plain)
include hplain

theorem ComesTo.synthetic {n : Nat} {before : List (String × Aspect)} {key : String} {a : Aspect}
    {raw : Value} {j : ScopeId} {w : World} (h : c.ComesTo n before key a raw j w) :
    (key, a) ∈ (c.world.languages[c.language]?.getD default).steps ∧ a.Synthetic key := by
  have hstep := List.mem_of_mem_filter h.mem_steps
  exact ⟨hstep, Language.synthetic_of_plain hplain hstep⟩

-- What a call that is started may bind, the call may bind.
theorem Starts.mayBind {c' : Call} (h : c.Starts c')
    (hmay : Program.MayBind c.world.languages name c'.data) :
    Program.MayBind c.world.languages name c.data := by
  cases h with
  | @member fuel key value m j j' v v' l k first rest performs found members done =>
      obtain ⟨before, key', a, raw, w, hcomes, haction, hvalue, -⟩ := performs
      obtain ⟨hstep, ha⟩ := hcomes.synthetic hplain
      cases ha <;> cases haction
      cases hvalue
      refine .member hstep hcomes.value members (m := m) (by simp) ?_
      rwa [← Program.target_body l m]
  | sub performs found =>
      obtain ⟨before, key, a, raw, w, hcomes, haction, -, -⟩ := performs
      cases (hcomes.synthetic hplain).2 <;> cases haction

-- By induction on the calls from the one that binds the name back to the first one.
theorem mayBind_of_binds (h : c.Binds name) : Program.MayBind c.world.languages name c.data := by
  obtain ⟨c', hreaches, fuel, value, j, v, hbinds⟩ := h
  induction hreaches using Relation.ReflTransGen.head_induction_on with
  | refl =>
      rcases hbinds with ⟨key, ⟨before, key', a, raw, w, hcomes, haction, -⟩, hname⟩ |
        ⟨key, b, ⟨before, key', a, raw, w, hcomes, haction, hvalue, -⟩, hb, hname⟩
      · obtain ⟨hstep, ha⟩ := hcomes.synthetic hplain
        cases ha <;> cases haction
        exact .nameSpace hstep hcomes.value hname
      · obtain ⟨hstep, ha⟩ := hcomes.synthetic hplain
        cases ha <;> cases haction
        cases hvalue
        rw [Store.resolveIn_eq_view] at hb
        exact .bindingForm hstep hcomes.value (Value.mayName_of_add hb hname)
  | head hstarts _ ih =>
      have hls := hstarts.languages
      rw [hls] at ih
      exact hstarts.mayBind hplain (ih hplain)

end Call

end Dialect
