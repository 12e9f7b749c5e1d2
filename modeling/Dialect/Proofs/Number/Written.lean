import Dialect.Number.Shortest
import Dialect.Proofs.Expr.Spelling
import Dialect.Proofs.Text.Digits
import Mathlib.Data.List.DropRight

namespace Dialect.Number

open Dialect.Expr (AllDigits Exponent signed StartsNumber readFloat?_scaled readFloat?_point)
open Text (digitChar)
open Float.Model (Format UnpackedFloat)

-- Digits of which the first is no zero, unless it is the only one.
structure Leading (ds : List Char) : Prop where
  ne_nil : ds ≠ []
  allDigits : AllDigits ds
  zero : ds.head? = some '0' → ds = ['0']

-- A decimal `n * 10 ^ e` with a point, an exponent or both.
inductive Decimal : List Char → Nat → Int → Prop
  | scaled {ds es e} : Leading ds → es ≠ [] → Exponent es e → Decimal (ds ++ es) (natOf ds) e
  | point {ds fs es e} : Leading ds → fs ≠ [] → AllDigits fs → Exponent es e →
      Decimal (ds ++ '.' :: (fs ++ es)) (natOf (ds ++ fs)) (e - fs.length)

-- The text of a finite double: a sign, and a decimal without leading zeros. Nothing here says which
-- digits are written; that these give back the double is what `Restorable` asks.
def IsDecimal (cs : List Char) : Prop := ∃ n e, Decimal cs n e

-- A double that is not NaN and that its text reads back to.
def Restorable (x : Float) : Prop :=
  x.isNaN = false ∧ readFloat? (floatText x).toList = some x

theorem Decimal.readFloat?_eq {cs : List Char} {n : Nat} {e : Int} (h : Decimal cs n e)
    (negative : Bool) : readFloat? (signed negative cs) = some (ofDecimal negative n e) := by
  cases h with
  | scaled hds _ he => exact readFloat?_scaled negative hds.ne_nil hds.allDigits he
  | point hds _ hfs he => exact readFloat?_point negative (.inl hds.ne_nil) hds.allDigits hfs he

theorem leading_cons {d : Nat} {ds : List Char} (hd : d < 10) (hne : d ≠ 0)
    (hds : AllDigits ds) : Leading (digitChar d :: ds) where
  ne_nil := List.cons_ne_nil _ _
  allDigits := List.forall_mem_cons.mpr ⟨Text.isAsciiDigit_digitChar d hd, hds⟩
  zero := by
    have hchar : ∀ d < 10, d ≠ 0 → digitChar d ≠ '0' := by decide
    intro h
    exact absurd (Option.some.inj h) (hchar d hd hne)

theorem leading_zero : Leading ['0'] := ⟨by simp, by simp [AllDigits]; decide, fun _ => rfl⟩

theorem leading_ofNat (n : Nat) : Leading (Text.ofNat 10 n).toList := by
  rw [Text.ofNat_eq]
  rcases Nat.eq_zero_or_pos n with rfl | hn
  · exact leading_zero
  · obtain ⟨d, ds, hdigits, hd⟩ := Text.digits_eq_cons (show 1 < 10 by decide) hn
    have hlt : ∀ x ∈ d :: ds, x < 10 := fun x hx =>
      Text.lt_of_mem_digits (by decide) (hdigits ▸ hx)
    obtain ⟨hfirst, hrest⟩ := List.forall_mem_cons.mp hlt
    rw [hdigits]
    exact leading_cons hfirst hd (Text.allDigits_map_digitChar hrest)

theorem allDigits_replicate (n : Nat) : AllDigits (List.replicate n '0') := by
  intro c hc
  rw [List.eq_of_mem_replicate hc]
  decide

theorem natOf_replicate (n : Nat) : natOf (List.replicate n '0') = 0 := by
  rw [natOf, List.map_replicate]
  simpa [Text.ofDigits] using Text.ofDigits_replicate_append 10 n []

theorem isDecimal_point {ds fs : List Char} (hds : Leading ds) (hne : fs ≠ [])
    (hfs : AllDigits fs) : IsDecimal (ds ++ '.' :: fs) := by
  have h := Decimal.point hds hne hfs .absent
  rw [List.append_nil] at h
  exact ⟨_, _, h⟩

theorem exists_exponentText (e : Int) :
    ∃ es e', (exponentText e).toList = 'e' :: es ∧ Exponent ('e' :: es) e' := by
  obtain ⟨ds, hne, hall, hds⟩ : ∃ ds, ds ≠ [] ∧ AllDigits ds ∧
      (if (Text.ofNat 10 e.natAbs).length < 2 then "0" ++ Text.ofNat 10 e.natAbs
        else Text.ofNat 10 e.natAbs).toList = ds := by
    have hall := Text.allDigits_ofNat e.natAbs
    split
    · refine ⟨'0' :: (Text.ofNat 10 e.natAbs).toList, by simp, ?_, by simp⟩
      exact List.forall_mem_cons.mpr ⟨by decide, hall⟩
    · exact ⟨_, Text.ofNat_ne_nil e.natAbs, hall, rfl⟩
  simp only [exponentText, String.toList_append, hds]
  split
  · exact ⟨'-' :: ds, _, rfl, .minus (.inl rfl) hne hall⟩
  · exact ⟨'+' :: ds, _, rfl, .plus (.inl rfl) hne hall⟩

theorem digitText_toList (ds : List Nat) : (digitText ds).toList = ds.map digitChar :=
  String.toList_ofList

theorem zeros_toList (n : Nat) : (zeros n).toList = List.replicate n '0' := String.toList_ofList

-- Digits of a number without leading zeros.
structure Digits.Proper (d : Digits) : Prop where
  lt_ten : ∀ x ∈ d.digits, x < 10
  head : ∃ x xs, d.digits = x :: xs ∧ x ≠ 0

theorem Digits.Proper.isDecimal {d : Digits} (h : d.Proper) :
    IsDecimal (d.render ".0").toList := by
  obtain ⟨x, xs, hdigits, hx⟩ := h.head
  obtain ⟨hlt, hxs⟩ := List.forall_mem_cons.mp (hdigits ▸ h.lt_ten)
  have hall {ys : List Nat} (hys : ys ⊆ xs) : AllDigits (ys.map digitChar) :=
    Text.allDigits_map_digitChar fun y hy => hxs y (hys hy)
  have hleading {cs : List Char} (hcs : AllDigits cs) : Leading (digitChar x :: cs) :=
    leading_cons hlt hx hcs
  simp only [Digits.render, hdigits]
  split
  case isTrue =>
    obtain ⟨es, e, htext, he⟩ := exists_exponentText (d.point - 1)
    have hone : Leading [digitChar x] := hleading (by simp [AllDigits])
    cases xs with
    | nil =>
        have hscaled : Decimal ([digitChar x] ++ 'e' :: es) _ e := .scaled hone (by simp) he
        exact ⟨_, _, by simpa [digitText_toList, htext] using hscaled⟩
    | cons y ys =>
        have hpoint := Decimal.point hone (by simp) (hall fun _ h => h) he
        exact ⟨_, _, by simpa [digitText_toList, htext] using hpoint⟩
  case isFalse =>
  split
  case isTrue =>
    have hfs : AllDigits (List.replicate (-d.point).toNat '0' ++ (x :: xs).map digitChar) := by
      refine List.forall_mem_append.mpr ⟨allDigits_replicate _, ?_⟩
      exact (hleading (hall fun _ h => h)).allDigits
    simpa [digitText_toList, zeros_toList] using isDecimal_point leading_zero (by simp) hfs
  case isFalse hpoint =>
  split
  case isTrue =>
    have hds : Leading (digitChar x :: (xs.map digitChar ++
        List.replicate (d.point - (x :: xs).length).toNat '0')) :=
      hleading (List.forall_mem_append.mpr ⟨hall fun _ h => h, allDigits_replicate _⟩)
    simpa [digitText_toList, zeros_toList] using
      isDecimal_point hds (List.cons_ne_nil '0' []) leading_zero.allDigits
  case isFalse hlong =>
    -- the point is behind the first digit and before the last
    obtain ⟨k, hk⟩ : ∃ k : Nat, d.point.toNat = k + 1 := ⟨d.point.toNat - 1, by omega⟩
    have hds := hleading (hall (List.take_subset k xs))
    have hdrop : (xs.drop k).map digitChar ≠ [] := by
      simp only [ne_eq, List.map_eq_nil_iff, List.drop_eq_nil_iff, List.length_cons] at hlong ⊢
      omega
    simpa [digitText_toList, hk] using isDecimal_point hds hdrop (hall (List.drop_subset k xs))

-- What is found for a magnitude is written without zeros at either end, if it is not zero.
theorem shortest_proper (g : Magnitude) : (shortest g).digits = [] ∨ (shortest g).Proper := by
  obtain ⟨n, hdigits⟩ : ∃ n, (shortest g).digits = (Text.digits 10 n).rdropWhile (· = 0) :=
    ⟨_, rfl⟩
  have hfront : (shortest g).digits <+: Text.digits 10 n :=
    hdigits ▸ List.rdropWhile_prefix _ _
  by_cases hne : (shortest g).digits = []
  · exact .inl hne
  · obtain ⟨x, xs, hcons⟩ := List.exists_cons_of_ne_nil hne
    have hlt : ∀ y ∈ (shortest g).digits, y < 10 := fun y hy =>
      Text.lt_of_mem_digits (by decide) (hfront.subset hy)
    refine .inr ⟨hlt, x, xs, hcons, ?_⟩
    have hn : 0 < n := by
      rw [Nat.pos_iff_ne_zero]
      rintro rfl
      rw [hdigits, Text.digits_zero (by decide)] at hne
      exact hne (by decide)
    obtain ⟨y, ys, hfirst, hy⟩ := Text.digits_eq_cons (show 1 < 10 by decide) hn
    rw [hcons, hfirst] at hfront
    rw [(List.cons_prefix_cons.mp hfront).1]
    exact hy

theorem ofDecimal_zero (negative : Bool) (e : Int) :
    ofDecimal negative 0 e = ofRatio negative 0 1 := by
  rw [ofDecimal, if_pos rfl]

theorem decode?_ofRatio_zero (negative : Bool) :
    decode? (ofRatio negative 0 1) = some (negative, ⟨0, -1074⟩) := by
  cases negative <;> decide

-- Without digits there is at most a zero to read.
theorem readFloat?_render_nil {d : Digits} (h : d.digits = []) (negative : Bool) {x : Float}
    (hx : readFloat? (signed negative (d.render ".0").toList) = some x) :
    x = ofRatio negative 0 1 := by
  have hzero (ds fs : List Char) (hne : ds ≠ [] ∨ fs ≠ []) (hds : AllDigits ds)
      (hfs : AllDigits fs) (hn : natOf (ds ++ fs) = 0)
      (hx : readFloat? (signed negative (ds ++ '.' :: fs)) = some x) :
      x = ofRatio negative 0 1 := by
    have hpoint := readFloat?_point negative hne hds hfs .absent
    rw [List.append_nil, hn, ofDecimal_zero] at hpoint
    exact Option.some.inj (hx.symm.trans hpoint)
  simp only [Digits.render, h, List.take_nil, List.drop_nil] at hx
  split at hx
  case isTrue =>
    obtain ⟨es, e, htext, -⟩ := exists_exponentText (d.point - 1)
    have hsplit : splitSign (signed negative ('e' :: es)) = (negative, 'e' :: es) := by
      cases negative <;> rfl
    have hmark : Text.isAsciiDigit 'e' = false := by decide
    have hnone : readFloat? (signed negative ('e' :: es)) = none := by
      simp [readFloat?, hsplit, hmark]
    simp [digitText_toList, htext, hnone] at hx
  case isFalse =>
  split at hx
  case isTrue =>
    refine hzero ['0'] (List.replicate (-d.point).toNat '0') (.inl (by simp))
      leading_zero.allDigits (allDigits_replicate _) (natOf_replicate (_ + 1)) ?_
    simpa [digitText_toList, zeros_toList] using hx
  case isFalse hpoint =>
  split at hx
  case isTrue =>
    refine hzero (List.replicate d.point.toNat '0') ['0'] (.inr (by simp))
      (allDigits_replicate _) leading_zero.allDigits ?_ ?_
    · rw [← List.replicate_succ']
      exact natOf_replicate _
    · simpa [digitText_toList, zeros_toList] using hx
  case isFalse hlong =>
    simp only [List.length_nil] at hlong
    omega

-- Infinities have no magnitude.
theorem decode?_eq_none_of_isInf {x : Float} (h : x.isInf = true) : decode? x = none := by
  let bits : BitVec Format.binary64.numBits := x.toModel.toBits.toBitVec
  change (UnpackedFloat.unpack Format.binary64 bits).isInf = true at h
  unfold UnpackedFloat.unpack at h
  dsimp only at h
  by_cases hall : UnpackedFloat.unpackExponent bits = -1#_
  · have hbits := congrArg BitVec.toNat hall
    simp only [UnpackedFloat.unpackExponent, BitVec.toNat_cast,
      BitVec.extractLsb_toNat, Nat.shiftRight_eq_div_pow] at hbits
    exact if_pos hbits
  · rw [if_neg hall] at h
    by_cases hzero : UnpackedFloat.unpackExponent bits = 0#_
    · rw [if_pos hzero] at h
      by_cases hm : UnpackedFloat.unpackMantissa bits = 0#_
      · rw [dif_pos hm] at h
        cases h
      · rw [dif_neg hm] at h
        cases h
    · rw [if_neg hzero] at h
      cases h

-- The text of a double that it reads back to.
theorem Restorable.text {x : Float} (h : Restorable x) :
    x = infinity ∨ x = -infinity ∨ x.isInf = false ∧ ∃ negative cs n e,
      (floatText x).toList = signed negative cs ∧ Decimal cs n e ∧ ofDecimal negative n e = x := by
  obtain ⟨hnan, hread⟩ := h
  cases hdecode : decode? x with
  | none =>
      have htext : floatText x = if isNegative x then "-inf" else "inf" := by
        simp only [floatText, floatTextWith, hdecode, hnan, Bool.false_eq_true, if_false]
      rw [htext] at hread
      split at hread
      · exact .inr (.inl (Option.some.inj hread).symm)
      · exact .inl (Option.some.inj hread).symm
  | some found =>
      obtain ⟨negative, g⟩ := found
      have hfinite : x.isInf = false := by
        rw [Bool.eq_false_iff]
        intro hinf
        rw [decode?_eq_none_of_isInf hinf] at hdecode
        cases hdecode
      have htext : (floatText x).toList =
          signed negative (if g.m = 0 then "0.0" else (shortest g).render ".0").toList := by
        simp only [floatText, floatTextWith, hdecode, signed]
        split <;> split <;> simp
      have hdecimal : IsDecimal (if g.m = 0 then "0.0" else (shortest g).render ".0").toList := by
        split
        case isTrue => exact isDecimal_point leading_zero (by simp) leading_zero.allDigits
        case isFalse hm =>
          refine (shortest_proper g).elim (fun hnil => ?_) Digits.Proper.isDecimal
          rw [htext, if_neg hm] at hread
          rw [readFloat?_render_nil hnil negative hread, decode?_ofRatio_zero] at hdecode
          cases hdecode
          exact absurd rfl hm
      obtain ⟨n, e, hdecimal⟩ := hdecimal
      rw [htext, hdecimal.readFloat?_eq] at hread
      exact .inr (.inr ⟨hfinite, negative, _, n, e, htext, hdecimal, Option.some.inj hread⟩)

end Dialect.Number
