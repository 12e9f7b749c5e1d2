import Dialect.Proofs.Expr.Terminal
import Dialect.Number.Decimal
import Mathlib.Data.Nat.Digits.Lemmas

namespace Dialect.Text

open Dialect.Expr (AllDigits)
open Number (natOf)

variable {base n : Nat}

theorem digitsFrom_eq_append (base fuel n : Nat) (acc : List Nat) :
    digitsFrom base fuel n acc = digitsFrom base fuel n [] ++ acc := by
  induction fuel generalizing n acc with
  | zero => rfl
  | succ fuel ih =>
      rw [digitsFrom, digitsFrom]
      split
      · rfl
      · rw [ih (n / base) (n % base :: acc), ih (n / base) [n % base], List.append_assoc]
        rfl

-- Enough fuel finds all digits, the lowest of which comes last.
theorem digitsFrom_eq_reverse (hb : 1 < base) {fuel : Nat} (hn : 0 < n) (hfuel : n < base ^ fuel) :
    digitsFrom base fuel n [] = (Nat.digits base n).reverse := by
  induction fuel generalizing n with
  | zero => simp at hfuel; omega
  | succ fuel ih =>
      rw [digitsFrom]
      split
      case isTrue hlt => rw [Nat.digits_of_lt base n hn.ne' hlt]; rfl
      case isFalse hge =>
        have hpos : 0 < n / base := Nat.div_pos (Nat.not_lt.mp hge) (by omega)
        have hlt : n / base < base ^ fuel := by
          rw [Nat.div_lt_iff_lt_mul (by omega), ← Nat.pow_succ]
          exact hfuel
        rw [digitsFrom_eq_append, ih hpos hlt, Nat.digits_def' hb hn, List.reverse_cons]

-- The digits of a number as they are written.
def digits (base n : Nat) : List Nat := digitsFrom base (n.log2 + 1) n []

theorem ofNat_eq (base n : Nat) : (ofNat base n).toList = (digits base n).map digitChar :=
  String.toList_ofList

theorem digits_zero (hb : 1 < base) : digits base 0 = [0] := by
  rw [digits, digitsFrom, if_pos (by omega)]

theorem digits_eq_reverse (hb : 1 < base) (hn : 0 < n) :
    digits base n = (Nat.digits base n).reverse := by
  refine digitsFrom_eq_reverse hb hn (lt_of_lt_of_le Nat.lt_log2_self ?_)
  exact Nat.pow_le_pow_left hb _

theorem ofDigits_reverse (base : Nat) (ds : List Nat) :
    ofDigits base ds.reverse = Nat.ofDigits base ds := by
  rw [ofDigits, List.foldl_reverse, Nat.ofDigits_eq_foldr]
  congr 1
  funext d n
  simp only [Nat.cast_id]
  ring

theorem ofDigits_digits (hb : 1 < base) (n : Nat) : ofDigits base (digits base n) = n := by
  rcases Nat.eq_zero_or_pos n with rfl | hn
  · simp [digits_zero hb, ofDigits]
  · rw [digits_eq_reverse hb hn, ofDigits_reverse, Nat.ofDigits_digits]

theorem lt_of_mem_digits (hb : 1 < base) {d : Nat} (hd : d ∈ digits base n) : d < base := by
  rcases Nat.eq_zero_or_pos n with rfl | hn
  · rw [digits_zero hb, List.mem_singleton] at hd
    omega
  · rw [digits_eq_reverse hb hn, List.mem_reverse] at hd
    exact Nat.digits_lt_base hb hd

-- A positive number has a first digit, which is not zero.
theorem digits_eq_cons (hb : 1 < base) (hn : 0 < n) :
    ∃ d ds, digits base n = d :: ds ∧ d ≠ 0 := by
  have hne : Nat.digits base n ≠ [] := Nat.digits_ne_nil_iff_ne_zero.mpr hn.ne'
  refine ⟨(Nat.digits base n).getLast hne, (Nat.digits base n).dropLast.reverse, ?_,
    Nat.getLast_digit_ne_zero base hn.ne'⟩
  have hlast := congrArg List.reverse (List.dropLast_append_getLast hne)
  rw [List.reverse_append] at hlast
  rw [digits_eq_reverse hb hn, ← hlast]
  rfl

theorem digits_ne_nil (hb : 1 < base) (n : Nat) : digits base n ≠ [] := by
  rcases Nat.eq_zero_or_pos n with rfl | hn
  · simp [digits_zero hb]
  · obtain ⟨d, ds, h, -⟩ := digits_eq_cons hb hn
    simp [h]

theorem length_digits_le (hb : 1 < base) {k : Nat} (hk : 0 < k) (h : n < base ^ k) :
    (digits base n).length ≤ k := by
  rcases Nat.eq_zero_or_pos n with rfl | hn
  · rw [digits_zero hb]
    exact hk
  · rw [digits_eq_reverse hb hn, List.length_reverse, Nat.digits_length_le_iff hb]
    exact h

-- Zeros in front do not count.
theorem ofDigits_replicate_append (base k : Nat) (ds : List Nat) :
    ofDigits base (List.replicate k 0 ++ ds) = ofDigits base ds := by
  induction k with
  | zero => rfl
  | succ k ih =>
      rw [List.replicate_succ, List.cons_append, ← ih]
      simp [ofDigits]

theorem hexDigit?_digitChar : ∀ d < 16, hexDigit? (digitChar d) = some d := by decide

theorem isAsciiDigit_digitChar : ∀ d < 10, isAsciiDigit (digitChar d) = true := by decide

theorem toNat_digitChar : ∀ d < 10, (digitChar d).toNat - 48 = d := by decide

theorem mapM_hexDigit? {ds : List Nat} (h : ∀ d ∈ ds, d < 16) :
    (ds.map digitChar).mapM hexDigit? = some ds := by
  induction ds with
  | nil => rfl
  | cons d ds ih =>
      rw [List.map_cons, List.mapM_cons, hexDigit?_digitChar d (h d List.mem_cons_self),
        ih fun x hx => h x (List.mem_cons_of_mem _ hx)]
      rfl

theorem allDigits_map_digitChar {ds : List Nat} (h : ∀ d ∈ ds, d < 10) :
    AllDigits (ds.map digitChar) := by
  intro c hc
  obtain ⟨d, hd, rfl⟩ := List.mem_map.mp hc
  exact isAsciiDigit_digitChar d (h d hd)

theorem natOf_map_digitChar {ds : List Nat} (h : ∀ d ∈ ds, d < 10) :
    natOf (ds.map digitChar) = ofDigits 10 ds := by
  rw [natOf, List.map_map]
  congr 1
  refine (List.map_congr_left fun d hd => ?_).trans (List.map_id ds)
  exact toNat_digitChar d (h d hd)

theorem allDigits_ofNat (n : Nat) : AllDigits (ofNat 10 n).toList := by
  rw [ofNat_eq]
  exact allDigits_map_digitChar fun d hd => lt_of_mem_digits (by decide) hd

theorem natOf_ofNat (n : Nat) : natOf (ofNat 10 n).toList = n := by
  rw [ofNat_eq, natOf_map_digitChar fun d hd => lt_of_mem_digits (by decide) hd,
    ofDigits_digits (by decide)]

theorem ofNat_ne_nil (n : Nat) : (ofNat 10 n).toList ≠ [] := by
  rw [ofNat_eq]
  simpa using digits_ne_nil (by decide) n

end Dialect.Text
