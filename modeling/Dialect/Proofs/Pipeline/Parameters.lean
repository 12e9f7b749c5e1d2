import Dialect.Pipeline.Step
import Dialect.Proofs.Expr.Meaning
import Dialect.Proofs.Text.Digits

namespace Dialect.Pipeline

open Dialect.Expr
open Text (ofNat)

variable {m n i : Nat}

-- From the fourth on, a name is a letter and the number of its place.
theorem argName_of_le (h : 3 ≤ i) : argName i = "x" ++ ofNat 10 i := by
  obtain ⟨k, rfl⟩ := Nat.exists_eq_add_of_le' h
  rfl

theorem toList_argName_of_le (h : 3 ≤ i) : (argName i).toList = 'x' :: (ofNat 10 i).toList := by
  rw [argName_of_le h, String.toList_append]
  rfl

-- The first three names are letters, and no other name is.
theorem length_argName_eq_one_iff : (argName i).toList.length = 1 ↔ i < 3 := by
  by_cases h : i < 3
  · have hletters : ∀ k < 3, (argName k).toList.length = 1 := by decide
    simp [h, hletters i h]
  · have hdigits := List.length_pos_iff.mpr (Text.ofNat_ne_nil i)
    rw [toList_argName_of_le (Nat.not_lt.mp h), List.length_cons]
    omega

theorem argName_injective : Function.Injective argName := by
  intro i j hij
  have hletter : i < 3 ↔ j < 3 := by
    rw [← length_argName_eq_one_iff, ← length_argName_eq_one_iff, hij]
  by_cases hi : i < 3
  · have hletters : ∀ a < 3, ∀ b < 3, argName a = argName b → a = b := by decide
    exact hletters i hi j (hletter.mp hi) hij
  · have hj : ¬j < 3 := fun hj => hi (hletter.mpr hj)
    rw [argName_of_le (Nat.not_lt.mp hi), argName_of_le (Nat.not_lt.mp hj),
      String.append_right_inj] at hij
    -- the digits of a place can be read back
    rw [← Text.natOf_ofNat i, hij, Text.natOf_ofNat]

theorem length_argNames (n : Nat) : (argNames n).length = n := by simp [argNames]

theorem getElem?_argNames (h : i < n) : (argNames n)[i]? = some (argName i) := by
  simp [argNames, h]

theorem nodup_argNames (n : Nat) : (argNames n).Nodup :=
  (List.nodup_map_iff argName_injective).mpr List.nodup_range

theorem argNames_isPrefix (h : m ≤ n) : argNames m <+: argNames n := by
  have htake : argNames m = (argNames n).take m := by
    rw [argNames, argNames, ← List.map_take, List.take_range, Nat.min_eq_left h]
  rw [htake]
  exact List.take_prefix m _

-- The name of a place as an identifier of expressions.
def parameter (i : Nat) : Identifier where
  name := argName i
  isName := by
    by_cases h : i < 3
    · match i with
      | 0 | 1 | 2 => exact .mk rfl (by simp)
    · rw [toList_argName_of_le (Nat.not_lt.mp h)]
      refine .mk rfl fun d hd => ?_
      simp [isNameChar, Text.allDigits_ofNat i d hd]
  free := by
    have hletters : ∀ k < 3, argName k ∉ ["true", "false", "none", "not"] := by decide
    by_cases h : i < 3
    · exact hletters i h
    · intro hword
      have hhead := toList_argName_of_le (Nat.not_lt.mp h)
      simp only [List.mem_cons, List.not_mem_nil, or_false] at hword
      rcases hword with hword | hword | hword | hword <;> rw [hword] at hhead <;> cases hhead

-- A name by itself is an expression, and is compiled to the variable of that name.
theorem body_argName (h : i < n) :
    body (argName i) ((argNames n).map some) = .ok (.leaf (.var (argName i))) := by
  have hparse : parse (argName i) = .ok (.leaf (.name (argName i))) :=
    parse_text (.leaf (.var (parameter i)))
  have hmem : argName i ∈ argNames n := List.mem_of_getElem? (getElem?_argNames h)
  rw [body, hparse]
  simp [Expr.Tree.traverse, Leaf.resolve, hmem, bind, Except.bind, pure, Except.pure]

-- For every count there are as many names, no two of them the same, of which fewer arguments take
-- the first ones. Whatever an evaluator has compiled before, it compiles each name over all of them
-- to a function that gives the argument in the name's place.
theorem argNames_denote (n : Nat) :
    (argNames n).length = n ∧ (argNames n).Nodup ∧ (∀ m ≤ n, argNames m <+: argNames n) ∧
    ∀ i < n, ∃ name, (argNames n)[i]? = some name ∧ ∀ id requests, ∃ f,
      ((Evaluator.after id requests).compile (.str name) (.tuple ((argNames n).map .str))).1 =
        .ok f ∧
      ∀ args, args.length = n → ∃ v, args[i]? = some v ∧ f.call args = .ok v := by
  refine ⟨length_argNames n, nodup_argNames n, fun m => argNames_isPrefix, fun i hi => ?_⟩
  refine ⟨argName i, getElem?_argNames hi, fun id requests => ?_⟩
  have hparams : (Value.tuple ((argNames n).map .str)).members = .ok ((argNames n).map .str) := rfl
  obtain ⟨f, hf, hslots, hbody⟩ :=
    (Evaluator.faithful_after id requests).exists_compile_eq hparams (body_argName hi)
  refine ⟨f, hf, fun args hargs => ⟨args[i], List.getElem?_eq_getElem _, ?_⟩⟩
  have hlast : LastAt (argNames n) (argName i) i :=
    lastAt_of_nodup (nodup_argNames n) (getElem?_argNames hi)
  have hbound : bound ((argNames n).map some) args (argName i) = some args[i] := by
    rw [bound_of_lastAt hlast (hargs.trans (length_argNames n).symm), List.getElem?_eq_getElem]
  rw [Compiled.call, hslots, hbody, if_pos (by simp [hargs, length_argNames])]
  simp [eval, Atom.value, hbound]

namespace Sample

-- The fifth of five arguments, after the evaluator has compiled the same name over others.
theorem argNames_denote_fifth : 4 ≤ 5 ∧ 4 < 5 ∧ argNames 4 <+: argNames 5 ∧
    argNames 5 = ["x", "y", "z", "x3", "x4"] ∧
    ∃ f, ((Evaluator.after 0 [(.str "x4", .list [.str "x4"])]).compile (.str "x4")
        (.tuple [.str "x", .str "y", .str "z", .str "x3", .str "x4"])).1 = .ok f ∧
      f.call [.int 0, .null, .str "x", .int 3, .bool true] = .ok (.bool true) := by
  obtain ⟨-, -, hprefix, hdenote⟩ := argNames_denote 5
  obtain ⟨name, hname, hcompile⟩ := hdenote 4 (by decide)
  obtain rfl : "x4" = name := Option.some.inj hname
  obtain ⟨f, hf, hcall⟩ := hcompile 0 [(.str "x4", .list [.str "x4"])]
  obtain ⟨v, hv, hresult⟩ := hcall [.int 0, .null, .str "x", .int 3, .bool true] rfl
  obtain rfl : .bool true = v := Option.some.inj hv
  exact ⟨by decide, by decide, hprefix 4 (by decide), rfl, f, hf, hresult⟩

end Sample

end Dialect.Pipeline
