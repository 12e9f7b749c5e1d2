import Dialect.Json.Reader
import Dialect.Json.Writer
import Dialect.Proofs.Number.Written

namespace Dialect.Json

open Dialect.Expr (AllDigits Exponent StartsNumber signed span_append)
open Number (Decimal Leading Restorable natOf ofDecimal)
open Text (isAsciiDigit digitChar hexPadded)

-- What may follow a value: nothing, a comma, the end of a line, or a closing bracket.
def Ends (rest : List Char) : Prop := ∀ c ∈ rest.head?, c ∈ [',', '\n', ']', '\x7d']

variable {c : Char} {rest : List Char}

theorem Ends.head (h : Ends rest) :
    ∀ c ∈ rest.head?, isAsciiDigit c = false ∧ c ≠ '.' ∧ c ≠ 'e' ∧ c ≠ 'E' := by
  intro c hc
  have hmem := h c hc
  simp only [List.mem_cons, List.not_mem_nil, or_false] at hmem
  rcases hmem with rfl | rfl | rfl | rfl <;> decide

theorem hexPadded_toList (width n : Nat) : (hexPadded width n).toList =
    (List.replicate (width - (Text.digits 16 n).length) 0 ++ Text.digits 16 n).map digitChar := by
  have hlength : (Text.ofNat 16 n).length = (Text.digits 16 n).length := by
    rw [← String.length_toList, Text.ofNat_eq, List.length_map]
  rw [hexPadded, String.toList_append, String.toList_ofList, Text.ofNat_eq, hlength,
    List.map_append, List.map_replicate]
  rfl

theorem hex4?_hexPadded {n : Nat} (h : n < 16 ^ 4) (rest : List Char) :
    hex4? ((hexPadded 4 n).toList ++ rest) = some (n, rest) := by
  have hlength := Text.length_digits_le (show 1 < 16 by decide) (show 0 < 4 by decide) h
  have hdigits : ∀ d ∈ List.replicate (4 - (Text.digits 16 n).length) 0 ++ Text.digits 16 n,
      d < 16 := by
    intro d hd
    rcases List.mem_append.mp hd with hd | hd
    · rw [List.eq_of_mem_replicate hd]
      decide
    · exact Text.lt_of_mem_digits (by decide) hd
  have hvalue := Text.ofDigits_replicate_append 16 (4 - (Text.digits 16 n).length)
    (Text.digits 16 n)
  rw [Text.ofDigits_digits (by decide)] at hvalue
  rw [hexPadded_toList]
  generalize hds : List.replicate (4 - (Text.digits 16 n).length) 0 ++ Text.digits 16 n = ds
    at hdigits hvalue
  have hfour : ds.length = 4 := by
    rw [← hds, List.length_append, List.length_replicate]
    omega
  obtain ⟨a, b, c, d, rfl⟩ : ∃ a b c d, ds = [a, b, c, d] := by
    match ds, hfour with
    | [a, b, c, d], _ => exact ⟨a, b, c, d, rfl⟩
  have hmap := Text.mapM_hexDigit? hdigits
  simp only [List.map_cons, List.map_nil] at hmap
  simp only [List.map_cons, List.map_nil, List.cons_append, List.nil_append, hex4?, hmap, hvalue]

-- A character that was escaped is read as itself.
theorem quoted_escape (c : Char) (fuel : Nat) (acc rest : List Char) :
    quoted (fuel + 1) acc ((escape c).toList ++ rest) = quoted fuel (c :: acc) rest := by
  unfold escape
  split_ifs with hquote hback hline hreturn htab hfeed hbackspace hcontrol
  case pos => subst hquote; rfl
  case pos => subst hback; rfl
  case pos => subst hline; rfl
  case pos => subst hreturn; rfl
  case pos => subst htab; rfl
  case pos => subst hfeed; rfl
  case pos => subst hbackspace; rfl
  case pos =>
    have hhex : hex4? ((hexPadded 4 c.toNat).toList ++ rest) = some (c.toNat, rest) :=
      hex4?_hexPadded (by omega) rest
    have hunicode : unicode c.toNat rest = some (c, rest) := by
      unfold unicode
      rw [if_neg (by omega), if_neg (by omega), Char.ofNat_toNat]
    simp [quoted, hhex, hunicode]
  case neg => simp [quoted, hquote, hback, hcontrol]

theorem quoted_flatMap (s : List Char) {fuel : Nat} (hfuel : s.length < fuel)
    (acc rest : List Char) :
    quoted fuel acc (s.flatMap (fun c => (escape c).toList) ++ '"' :: rest) =
      .ok (String.ofList (acc.reverse ++ s), rest) := by
  induction s generalizing fuel acc with
  | nil =>
      obtain ⟨fuel, rfl⟩ : ∃ f, fuel = f + 1 := ⟨fuel - 1, by simp at hfuel; omega⟩
      simp [quoted]
  | cons c s ih =>
      obtain ⟨fuel, rfl⟩ : ∃ f, fuel = f + 1 := ⟨fuel - 1, by simp at hfuel; omega⟩
      rw [List.flatMap_cons, List.append_assoc, quoted_escape,
        ih (by simpa using hfuel) (c :: acc)]
      simp

theorem quote_toList (s : String) :
    (quote s).toList = '"' :: (s.toList.flatMap (fun c => (escape c).toList) ++ ['"']) := by
  simp [quote, String.toList_join, List.flatMap_map]

theorem length_le_flatMap (s : List Char) :
    s.length ≤ (s.flatMap fun c => (escape c).toList).length := by
  induction s with
  | nil => simp
  | cons c s ih =>
      have hne : 0 < (escape c).toList.length := by
        unfold escape
        split_ifs <;> simp
      rw [List.flatMap_cons, List.length_append, List.length_cons]
      omega

-- With as much fuel as there are characters, a quoted text is read behind its first quote.
theorem quoted_quote (s : String) (rest : List Char) :
    ∃ cs, (quote s).toList ++ rest = '"' :: cs ∧ quoted (cs.length + 1) [] cs = .ok (s, rest) := by
  refine ⟨_, by rw [quote_toList, List.cons_append, List.append_assoc], ?_⟩
  have hlength := length_le_flatMap s.toList
  rw [List.singleton_append, quoted_flatMap]
  · simp
  · rw [List.length_append]
    omega

theorem exponent_append {es : List Char} {e : Int} (h : Exponent es e) (hrest : Ends rest) :
    ∃ found, exponent (es ++ rest) = (found, rest) ∧ found.getD 0 = e ∧
      (found.isNone ↔ es = []) := by
  have hhead : ∀ c ∈ rest.head?, isAsciiDigit c = false := fun c hc => (hrest.head c hc).1
  have hstart : ∀ {ds}, ds ≠ [] → AllDigits ds → ∀ tail, StartsNumber (ds ++ tail) := by
    intro ds hne hds tail
    exact Expr.startsNumber_append hds fun h => absurd h hne
  cases h with
  | absent =>
      refine ⟨none, ?_, rfl, by simp⟩
      cases rest with
      | nil => rfl
      | cons c rest =>
          obtain ⟨-, -, he, hE⟩ := hrest.head c rfl
          simp [exponent, he, hE]
  | @unsigned mark ds hmark hne hds =>
      have hsplit : Number.splitSign (ds ++ rest) = (false, ds ++ rest) :=
        (hstart hne hds rest).splitSign false
      obtain ⟨htake, hdrop⟩ := span_append hds hhead
      exact ⟨some (natOf ds), by simp [exponent, hmark, hsplit, htake, hdrop, hne], rfl, by simp⟩
  | @plus mark ds hmark hne hds =>
      obtain ⟨htake, hdrop⟩ := span_append hds hhead
      exact ⟨some (natOf ds), by
        simp [exponent, hmark, Number.splitSign, htake, hdrop, hne], rfl, by simp⟩
  | @minus mark ds hmark hne hds =>
      obtain ⟨htake, hdrop⟩ := span_append hds hhead
      exact ⟨some (-natOf ds), by
        simp [exponent, hmark, Number.splitSign, htake, hdrop, hne], rfl, by simp⟩

-- Digits without a leading zero are taken as a whole; what the number is depends on what follows.
theorem number_append {ds : List Char} (h : Leading ds) (negative : Bool)
    (hrest : ∀ c ∈ rest.head?, isAsciiDigit c = false) {part : List Char} {e : Option Int}
    {after left : List Char} (hpart : fraction rest = (part, after))
    (he : exponent after = (e, left)) :
    number negative (ds ++ rest) =
      if part.isEmpty && e.isNone then
        if ds.length > digitLimit then .error (.refused (.number (.digitsRead ds.length)))
        else .ok (.int (if negative then -(natOf ds : Int) else natOf ds), left)
      else
        .ok (.float (ofDecimal negative (natOf (ds ++ part)) (e.getD 0 - part.length)), left) := by
  have hne : ds.isEmpty = false := by simpa using h.ne_nil
  obtain ⟨d, tail, rfl⟩ := List.exists_cons_of_ne_nil h.ne_nil
  obtain ⟨htake, -⟩ := span_append h.allDigits hrest
  by_cases hd : d = '0'
  · subst hd
    obtain rfl : tail = [] := by simpa using h.zero rfl
    simp [number, hpart, he]
  · have hdrop : ((d :: tail) ++ rest).drop (d :: tail).length = rest := List.drop_left
    unfold number
    split
    · rename_i heq
      exact absurd (List.cons.inj heq).1 hd
    · simp only [htake, hne, hdrop, hpart, he, Bool.false_eq_true, if_false]

theorem fraction_eq_nil (h : ∀ c ∈ rest.head?, c ≠ '.') : fraction rest = ([], rest) := by
  unfold fraction
  split
  · exact absurd rfl (h '.' rfl)
  · rfl

theorem number_ofNat (negative : Bool) {n : Nat} (hn : (Text.digits 10 n).length ≤ digitLimit)
    (hrest : Ends rest) :
    number negative ((Text.ofNat 10 n).toList ++ rest) =
      .ok (.int (if negative then -(n : Int) else n), rest) := by
  obtain ⟨e, he, -, hnone⟩ := exponent_append .absent hrest
  have hlength : ¬ (Text.ofNat 10 n).toList.length > digitLimit := by
    rw [Text.ofNat_eq, List.length_map]
    omega
  rw [number_append (Number.leading_ofNat n) negative (fun c hc => (hrest.head c hc).1)
    (fraction_eq_nil fun c hc => (hrest.head c hc).2.1) he, if_neg hlength, Text.natOf_ofNat]
  simp [hnone]

theorem number_decimal {cs : List Char} {n : Nat} {e : Int} (h : Decimal cs n e) (negative : Bool)
    (hrest : Ends rest) :
    number negative (cs ++ rest) = .ok (.float (ofDecimal negative n e), rest) := by
  cases h with
  | @scaled ds es e hds hes hexp =>
      obtain ⟨found, he, hvalue, hnone⟩ := exponent_append hexp hrest
      have hhead : ∀ c ∈ (es ++ rest).head?, isAsciiDigit c = false ∧ c ≠ '.' := by
        rw [List.head?_append_of_ne_nil _ hes]
        exact hexp.head
      rw [List.append_assoc, number_append hds negative (fun c hc => (hhead c hc).1)
        (fraction_eq_nil fun c hc => (hhead c hc).2) he]
      simp [hvalue, hnone, hes]
  | @point ds fs es e hds hne hfs hexp =>
      obtain ⟨found, he, hvalue, -⟩ := exponent_append hexp hrest
      have hhead : ∀ c ∈ (es ++ rest).head?, isAsciiDigit c = false := by
        by_cases hes : es = []
        · subst hes
          exact fun c hc => (hrest.head c hc).1
        · rw [List.head?_append_of_ne_nil _ hes]
          exact fun c hc => (hexp.head c hc).1
      obtain ⟨htake, hdrop⟩ := span_append hfs hhead
      have hempty : fs.isEmpty = false := by simpa using hne
      have hfraction : fraction ('.' :: (fs ++ (es ++ rest))) = (fs, es ++ rest) := by
        simp only [fraction, htake, hdrop, hempty, Bool.false_eq_true, if_false]
      have hdot : ∀ c ∈ ('.' :: (fs ++ (es ++ rest))).head?, isAsciiDigit c = false := by
        intro c hc
        obtain rfl : '.' = c := Option.some.inj hc
        decide
      have hassoc : ds ++ '.' :: (fs ++ es) ++ rest = ds ++ '.' :: (fs ++ (es ++ rest)) := by simp
      rw [hassoc, number_append hds negative hdot hfraction he]
      simp [hempty, hvalue]

theorem word?_eq_none {d : Char} (hd : isAsciiDigit d = true) (cs : List Char) :
    word? (d :: cs) = none ∧ word? ('-' :: d :: cs) = none := by
  have hne : 'n' ≠ d ∧ 't' ≠ d ∧ 'f' ≠ d ∧ 'N' ≠ d ∧ 'I' ≠ d ∧ '-' ≠ d := by
    refine ⟨?_, ?_, ?_, ?_, ?_, ?_⟩ <;> (rintro rfl; cases hd)
  simp [word?, hne]

-- What starts with a digit, behind a sign if there is one, is read as a number.
theorem value_signed {cs : List Char} (h : Leading cs) (negative : Bool) (fuel : Nat)
    (rest : List Char) :
    value (fuel + 1) (signed negative (cs ++ rest)) = number negative (cs ++ rest) := by
  obtain ⟨d, tail, rfl⟩ := List.exists_cons_of_ne_nil h.ne_nil
  have hd : isAsciiDigit d = true := h.allDigits d List.mem_cons_self
  have hne : d ≠ '"' ∧ d ≠ '[' ∧ d ≠ '\x7b' ∧ d ≠ '-' := by
    refine ⟨?_, ?_, ?_, ?_⟩ <;> (rintro rfl; cases hd)
  obtain ⟨hword, hminus⟩ := word?_eq_none hd (tail ++ rest)
  cases negative <;> simp [signed, value, hne, hword, hminus]

theorem signed_append (negative : Bool) (cs rest : List Char) :
    signed negative cs ++ rest = signed negative (cs ++ rest) := by
  cases negative <;> rfl

theorem tenTo_eq_pow (n : Nat) : Number.tenTo n = 10 ^ n := rfl

-- A whole number that is not too long to be written is not too long to be read.
theorem length_digits_of_short {n : Int} (h : tooLong n = false) :
    (Text.digits 10 n.natAbs).length ≤ digitLimit := by
  have hpowers : Number.twoTo 13000 ≤ Number.tenTo digitLimit := by decide +kernel
  have hlimit : n.natAbs < Number.tenTo digitLimit := by
    simp only [tooLong, ge_iff_le, Bool.and_eq_false_iff, decide_eq_false_iff_not, not_le] at h
    exact h.elim (fun h => lt_of_lt_of_le h hpowers) id
  rw [tenTo_eq_pow] at hlimit
  exact Text.length_digits_le (by decide) (by decide) hlimit

theorem ite_neg_natAbs (n : Int) :
    (if decide (n < 0) then -(n.natAbs : Int) else n.natAbs) = n := by
  by_cases hn : n < 0 <;> simp only [hn, decide_true, decide_false, Bool.false_eq_true, if_true,
    if_false] <;> omega

theorem value_int {n : Int} (h : tooLong n = false) (hrest : Ends rest) (fuel : Nat) :
    value (fuel + 1) ((intText n).toList ++ rest) = .ok (.int n, rest) := by
  have htext : (intText n).toList = signed (n < 0) (Text.ofNat 10 n.natAbs).toList := by
    unfold intText signed
    by_cases hn : n < 0 <;> simp [hn]
  rw [htext, signed_append, value_signed (Number.leading_ofNat _),
    number_ofNat _ (length_digits_of_short h) hrest, ite_neg_natAbs]

theorem value_float {x : Float} (h : Restorable x) (hrest : Ends rest) (fuel : Nat) :
    value (fuel + 1) ((floatText x).toList ++ rest) = .ok (.float x, rest) := by
  rcases h.text with rfl | rfl | ⟨hfinite, negative, cs, n, e, htext, hdecimal, hx⟩
  · have htext : floatText Number.infinity = "Infinity" := by decide
    rw [htext]
    rfl
  · have htext : floatText (-Number.infinity) = "-Infinity" := by decide
    rw [htext]
    rfl
  · have hplain : floatText x = Number.floatText x := by
      simp only [floatText, h.1, hfinite, Bool.false_eq_true, if_false]
    have hleading : ∃ ds tail, Leading ds ∧ cs = ds ++ tail := by
      cases hdecimal with
      | scaled hds _ _ => exact ⟨_, _, hds, rfl⟩
      | point hds _ _ _ => exact ⟨_, _, hds, rfl⟩
    obtain ⟨ds, tail, hds, hcs⟩ := hleading
    rw [hplain, htext, signed_append, hcs, List.append_assoc, value_signed hds,
      ← List.append_assoc, ← hcs, number_decimal hdecimal negative hrest, hx]

theorem value_quote (s : String) (rest : List Char) (fuel : Nat) :
    value (fuel + 1) ((quote s).toList ++ rest) = .ok (.str s, rest) := by
  obtain ⟨cs, htext, hread⟩ := quoted_quote s rest
  rw [htext, value, if_pos rfl, hread]
  rfl

theorem value_word {w : String} {v : Value}
    (h : (w, v) ∈ [("null", .null), ("true", .bool true), ("false", .bool false)])
    (rest : List Char) (fuel : Nat) :
    value (fuel + 1) (w.toList ++ rest) = .ok (v, rest) := by
  simp only [List.mem_cons, List.not_mem_nil, or_false, Prod.mk.injEq] at h
  rcases h with ⟨rfl, rfl⟩ | ⟨rfl, rfl⟩ | ⟨rfl, rfl⟩ <;> rfl

end Dialect.Json
