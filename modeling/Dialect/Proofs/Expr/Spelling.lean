import Dialect.Expr.Evaluator
import Dialect.Proofs.Expr.Terminal
import Mathlib.Data.List.TakeWhile

namespace Dialect.Expr

open Text (isAsciiDigit)
open Number (natOf ofDecimal)

-- The power of ten at the end of a number.
inductive Exponent : List Char → Int → Prop
  | absent : Exponent [] 0
  | unsigned {mark ds} : mark = 'e' ∨ mark = 'E' → ds ≠ [] → AllDigits ds →
      Exponent (mark :: ds) (natOf ds)
  | plus {mark ds} : mark = 'e' ∨ mark = 'E' → ds ≠ [] → AllDigits ds →
      Exponent (mark :: '+' :: ds) (natOf ds)
  | minus {mark ds} : mark = 'e' ∨ mark = 'E' → ds ≠ [] → AllDigits ds →
      Exponent (mark :: '-' :: ds) (-(natOf ds : Int))

-- The value of a number: digits alone are whole, anything else is the nearest double.
inductive Denotes : List Char → Value → Prop
  | whole {ds} : ds ≠ [] → AllDigits ds → Denotes ds (.int (natOf ds))
  | scaled {ds es e} : ds ≠ [] → AllDigits ds → es ≠ [] → Exponent es e →
      Denotes (ds ++ es) (.float (ofDecimal false (natOf ds) e))
  | point {ds fs es e} : ds ≠ [] ∨ fs ≠ [] → AllDigits ds → AllDigits fs → Exponent es e →
      Denotes (ds ++ '.' :: (fs ++ es))
        (.float (ofDecimal false (natOf (ds ++ fs)) (e - fs.length)))

section

variable {c : Char} {cs ds es rest : List Char} {e : Int} {v : Value}

theorem Exponent.scale (h : Exponent es e) : Scale es := by
  cases h with
  | absent => exact .nil
  | @unsigned _ ds hmark hne hds => exact @Scale.exponent _ [] ds hmark (by simp) hne hds
  | @plus _ ds hmark hne hds => exact @Scale.exponent _ ['+'] ds hmark (by simp) hne hds
  | @minus _ ds hmark hne hds => exact @Scale.exponent _ ['-'] ds hmark (by simp) hne hds

theorem Scale.exists_exponent (h : Scale es) : ∃ e, Exponent es e := by
  cases h with
  | nil => exact ⟨0, .absent⟩
  | exponent hmark hsign hne hds =>
      simp only [List.mem_cons, List.not_mem_nil, or_false] at hsign
      rcases hsign with rfl | rfl | rfl
      · exact ⟨_, .unsigned hmark hne hds⟩
      · exact ⟨_, .plus hmark hne hds⟩
      · exact ⟨_, .minus hmark hne hds⟩

-- The numbers with a value are those of the grammar.
theorem numeral_iff_denotes : Numeral cs ↔ ∃ v, Denotes cs v := by
  constructor
  · intro h
    cases h with
    | @whole ds es hne hds hscale =>
        obtain ⟨e, he⟩ := hscale.exists_exponent
        by_cases hes : es = []
        · subst hes
          rw [List.append_nil]
          exact ⟨_, .whole hne hds⟩
        · exact ⟨_, .scaled hne hds hes he⟩
    | point hne hds hfs hscale =>
        obtain ⟨e, he⟩ := hscale.exists_exponent
        exact ⟨_, .point hne hds hfs he⟩
  · rintro ⟨v, h⟩
    cases h with
    | whole hne hds =>
        have hnumeral := Numeral.whole hne hds .nil
        rwa [List.append_nil] at hnumeral
    | scaled hne hds _ he => exact .whole hne hds he.scale
    | point hne hds hfs he => exact .point hne hds hfs he.scale

theorem exponentOf?_eq (h : Exponent es e) : Number.exponentOf? es = some e := by
  cases h with
  | absent => rfl
  | unsigned hmark hne hds =>
      obtain ⟨d, ds, rfl⟩ := List.exists_cons_of_ne_nil hne
      have hd : isAsciiDigit d = true := hds d List.mem_cons_self
      have hplus : d ≠ '+' := fun heq => by simp [heq, isAsciiDigit] at hd
      have hminus : d ≠ '-' := fun heq => by simp [heq, isAsciiDigit] at hd
      have hall : (d :: ds).all isAsciiDigit = true := List.all_eq_true.mpr hds
      simp [Number.exponentOf?, Number.splitSign, hmark, hplus, hminus, hall]
  | plus hmark hne hds =>
      have hall : List.all _ isAsciiDigit = true := List.all_eq_true.mpr hds
      simp [Number.exponentOf?, Number.splitSign, hmark, hne, hall]
  | minus hmark hne hds =>
      have hall : List.all _ isAsciiDigit = true := List.all_eq_true.mpr hds
      simp [Number.exponentOf?, Number.splitSign, hmark, hne, hall]

-- What starts like a number has no sign and is none of the words that are read as doubles.
def StartsNumber (cs : List Char) : Prop := ∀ c ∈ cs.head?, isAsciiDigit c = true ∨ c = '.'

-- A number with a minus sign in front, if it is to be negative.
def signed (negative : Bool) (cs : List Char) : List Char := if negative then '-' :: cs else cs

theorem StartsNumber.splitSign (h : StartsNumber cs) (negative : Bool) :
    Number.splitSign (signed negative cs) = (negative, cs) := by
  match negative, cs with
  | true, _ => rfl
  | false, [] => rfl
  | false, c :: cs =>
      have hc := h c rfl
      have hplus : c ≠ '+' := by
        rintro rfl
        exact absurd hc (by decide)
      have hminus : c ≠ '-' := by
        rintro rfl
        exact absurd hc (by decide)
      simp [signed, Number.splitSign, hplus, hminus]

theorem StartsNumber.map_toLower_ne (h : StartsNumber cs) {w : Char} {ws : List Char}
    (hw : w = 'i' ∨ w = 'n') : cs.map Char.toLower ≠ w :: ws := by
  match cs with
  | [] => simp
  | c :: cs =>
      intro heq
      have hhead : c.toLower = w := (List.cons.inj heq).1
      have hsame : c.toLower = c := by
        rcases h c rfl with hc | rfl
        · have hlow : ¬ 'A' ≤ c := by
            simp only [isAsciiDigit, Bool.and_eq_true, decide_eq_true_eq] at hc
            exact fun ha => absurd (Char.le_trans ha hc.2) (by decide)
          unfold Char.toLower
          exact dif_neg fun hupper => hlow hupper.1
        · rfl
      rw [hsame] at hhead
      subst hhead
      rcases hw with rfl | rfl <;> exact absurd (h _ rfl) (by decide)

theorem StartsNumber.not_word (h : StartsNumber cs) :
    ¬ (cs.map Char.toLower = ['i', 'n', 'f'] ∨ cs.map Char.toLower = "infinity".toList) ∧
      cs.map Char.toLower ≠ ['n', 'a', 'n'] := by
  refine ⟨?_, h.map_toLower_ne (.inr rfl)⟩
  rintro (heq | heq)
  · exact h.map_toLower_ne (.inl rfl) heq
  · exact h.map_toLower_ne (.inl rfl) heq

theorem startsNumber_append (hds : AllDigits ds) (hrest : ds = [] → StartsNumber rest) :
    StartsNumber (ds ++ rest) := by
  match ds with
  | [] => exact hrest rfl
  | d :: ds =>
      intro c hc
      obtain rfl : d = c := Option.some.inj hc
      exact .inl (hds d List.mem_cons_self)

theorem Exponent.head (h : Exponent es e) :
    ∀ c ∈ es.head?, isAsciiDigit c = false ∧ c ≠ '.' := by
  have hapart : Apart [] := trivial
  have hhead := h.scale.head hapart
  rwa [List.append_nil] at hhead

theorem readFloat?_scaled (negative : Bool) (hne : ds ≠ []) (hds : AllDigits ds)
    (he : Exponent es e) :
    Number.readFloat? (signed negative (ds ++ es)) = some (ofDecimal negative (natOf ds) e) := by
  have hstart : StartsNumber (ds ++ es) := startsNumber_append hds fun h => absurd h hne
  obtain ⟨htake, hdrop⟩ := span_append hds fun c hc => (he.head c hc).1
  unfold Number.readFloat?
  simp only [hstart.splitSign, if_neg hstart.not_word.1, if_neg hstart.not_word.2, htake, hdrop]
  split
  · rename_i r
    exact absurd rfl (he.head '.' rfl).2
  · simp [hne, exponentOf?_eq he]

theorem readFloat?_point (negative : Bool) {fs : List Char} (hne : ds ≠ [] ∨ fs ≠ [])
    (hds : AllDigits ds) (hfs : AllDigits fs) (he : Exponent es e) :
    Number.readFloat? (signed negative (ds ++ '.' :: (fs ++ es))) =
      some (ofDecimal negative (natOf (ds ++ fs)) (e - fs.length)) := by
  have hstart : StartsNumber (ds ++ '.' :: (fs ++ es)) := by
    refine startsNumber_append hds fun _ c hc => .inr ?_
    exact (Option.some.inj hc).symm
  have hdot : ∀ c ∈ ('.' :: (fs ++ es)).head?, isAsciiDigit c = false := by
    intro c hc
    obtain rfl : '.' = c := Option.some.inj hc
    decide
  obtain ⟨htake, hdrop⟩ := span_append hds hdot
  obtain ⟨htake', hdrop'⟩ := span_append hfs fun c hc => (he.head c hc).1
  have hsome : ¬ (ds.isEmpty = true ∧ fs.isEmpty = true) := by
    rw [List.isEmpty_iff, List.isEmpty_iff]
    exact Classical.not_and_iff_not_or_not.mpr hne
  unfold Number.readFloat?
  simp only [hstart.splitSign, if_neg hstart.not_word.1, if_neg hstart.not_word.2, htake, hdrop,
    htake', hdrop', if_neg hsome, exponentOf?_eq he, Option.map_some]

-- What marks a number as a double.
def isFloatMark (c : Char) : Bool := c = '.' || c = 'e' || c = 'E'

theorem isFloatMark_of_digit (h : isAsciiDigit c = true) : isFloatMark c = false := by
  have hne : c ≠ '.' ∧ c ≠ 'e' ∧ c ≠ 'E' := by
    refine ⟨?_, ?_, ?_⟩ <;> rintro rfl <;> exact absurd h (by decide)
  simp [isFloatMark, hne]

theorem numberAtom_eq (text : String) :
    numberAtom text =
      if text.toList.any isFloatMark then .ok (.float ((Number.readFloat? text.toList).getD 0))
      else if text.toList.length > digitLimit then
        .error (.number (.digitsRead text.toList.length))
      else .ok (.int (natOf text.toList)) := rfl

-- Reading a number finds its value, unless it is whole and has too many digits.
theorem numberAtom_of_denotes {text : String} (h : Denotes text.toList v)
    (hshort : (text.toList.filter isAsciiDigit).length ≤ digitLimit) :
    ∃ a, numberAtom text = .ok a ∧ ∀ env, a.value env = .ok v := by
  rw [numberAtom_eq]
  generalize text.toList = cs at h hshort
  cases h with
  | whole hne hds =>
      rw [List.filter_eq_self.mpr hds] at hshort
      have hnone : ¬ cs.any isFloatMark = true := by
        rw [List.any_eq_true]
        rintro ⟨c, hc, hmark⟩
        rw [isFloatMark_of_digit (hds c hc)] at hmark
        cases hmark
      refine ⟨.int (natOf cs), ?_, fun _ => rfl⟩
      rw [if_neg hnone, if_neg (Nat.not_lt.mpr hshort)]
  | @scaled ds es e hne hds hes he =>
      have hmark : (ds ++ es).any isFloatMark = true := by
        cases he with
        | absent => exact absurd rfl hes
        | unsigned hmark | plus hmark | minus hmark =>
            rcases hmark with rfl | rfl <;> simp [isFloatMark]
      refine ⟨.float (ofDecimal false (natOf ds) e), ?_, fun _ => rfl⟩
      have hread : Number.readFloat? (ds ++ es) = some (ofDecimal false (natOf ds) e) :=
        readFloat?_scaled false hne hds he
      rw [if_pos hmark, hread]
      rfl
  | @point ds fs es e hne hds hfs he =>
      have hmark : (ds ++ '.' :: (fs ++ es)).any isFloatMark = true := by simp [isFloatMark]
      refine ⟨.float (ofDecimal false (natOf (ds ++ fs)) (e - fs.length)), ?_, fun _ => rfl⟩
      have hread : Number.readFloat? (ds ++ '.' :: (fs ++ es)) =
          some (ofDecimal false (natOf (ds ++ fs)) (e - fs.length)) :=
        readFloat?_point false hne hds hfs he
      rw [if_pos hmark, hread]
      rfl

end

namespace Literal

-- The letters and signs that stand for a character behind a backslash.
def marks : List (Char × Char) :=
  [('\\', '\\'), ('\'', '\''), ('"', '"'), ('a', '\x07'), ('b', '\x08'), ('f', '\x0c'),
    ('n', '\n'), ('r', '\r'), ('t', '\t'), ('v', '\x0b')]

-- The letters that announce the number of a character, and how many digits it has.
def codes : List (Char × Nat) := [('x', 2), ('u', 4), ('U', 8)]

-- A character that stands for itself.
def IsPlain (c : Char) : Prop := c ≠ '"' ∧ c ≠ '\\' ∧ c ≠ '\n' ∧ c ≠ '\r' ∧ c ≠ '\x00'

-- `Escape c ds rest meant`: a backslash, `c` and `ds` in front of `rest` stand for `meant`. The
-- number of a character in base eight has up to three digits and takes all that it can. A
-- backslash at the end of a line joins it to the next, and in front of any other character it
-- stands for itself.
inductive Escape : Char → List Char → List Char → List Char → Prop
  | mark {c x rest} : (c, x) ∈ marks → Escape c [] rest [x]
  | octal {d ds rest} : (∀ c ∈ d :: ds, isOctal c = true) → ds.length ≤ 2 →
      (ds.length < 2 → ∀ c ∈ rest.head?, isOctal c = false) →
      Escape d ds rest [Char.ofNat (Text.ofDigits 8 ((d :: ds).map fun c => c.toNat - 48))]
  | code {c n ds rest} : (c, n) ∈ codes → ds.length = n → (∀ d ∈ ds, isHex d = true) →
      (hexValue ds).isValidChar → Escape c ds rest [Char.ofNat (hexValue ds)]
  | named {name x rest} : name ≠ [] → (∀ c ∈ name, IsPlain c ∧ c ≠ '\x7d') →
      Text.CharName.find? name = some x → Escape 'N' ('\x7b' :: (name ++ ['\x7d'])) rest [x]
  | join {rest} : Escape '\r' [] rest []
  | other {c rest} : c ∉ marks.map (·.1) → isOctal c = false → c ∉ codes.map (·.1) →
      c ∉ ['N', '\n', '\r', '\x00'] → Escape c [] rest ['\\', c]

-- `Spells cs s`: between quotes, `cs` stands for `s`.
inductive Spells : List Char → List Char → Prop
  | nil : Spells [] []
  | plain {c cs s} : IsPlain c → Spells cs s → Spells (c :: cs) (c :: s)
  | escape {c ds cs meant s} : Escape c ds cs meant → Spells cs s →
      Spells ('\\' :: c :: (ds ++ cs)) (meant ++ s)

variable {c : Char} {cs ds rest meant s : List Char}

theorem simpleEscape?_eq_some_iff {x : Char} : simpleEscape? c = some x ↔ (c, x) ∈ marks := by
  constructor
  · intro h
    unfold simpleEscape? at h
    split at h <;> cases h <;> decide
  · intro h
    simp only [marks, List.mem_cons, Prod.mk.injEq, List.not_mem_nil, or_false] at h
    rcases h with ⟨rfl, rfl⟩ | ⟨rfl, rfl⟩ | ⟨rfl, rfl⟩ | ⟨rfl, rfl⟩ | ⟨rfl, rfl⟩ | ⟨rfl, rfl⟩ |
      ⟨rfl, rfl⟩ | ⟨rfl, rfl⟩ | ⟨rfl, rfl⟩ | ⟨rfl, rfl⟩ <;> rfl

theorem simpleEscape?_eq_none (h : c ∉ marks.map (·.1)) : simpleEscape? c = none := by
  cases hc : simpleEscape? c with
  | none => rfl
  | some x => exact absurd (List.mem_map_of_mem (simpleEscape?_eq_some_iff.mp hc)) h

theorem isPlain_of_octal (h : isOctal c = true) : IsPlain c := by
  refine ⟨?_, ?_, ?_, ?_, ?_⟩ <;> rintro rfl <;> exact absurd h (by decide)

theorem isPlain_of_hex (h : isHex c = true) : IsPlain c := by
  refine ⟨?_, ?_, ?_, ?_, ?_⟩ <;> rintro rfl <;> exact absurd h (by decide)

-- What an escape consists of besides its backslash.
theorem Escape.parts (h : Escape c ds rest meant) :
    c ≠ '\n' ∧ c ≠ '\x00' ∧ ∀ d ∈ ds, IsPlain d := by
  cases h with
  | mark hmark =>
      have hne : ∀ p ∈ marks, p.1 ≠ '\n' ∧ p.1 ≠ '\x00' := by decide
      exact ⟨(hne _ hmark).1, (hne _ hmark).2, by simp⟩
  | octal hoctal _ _ =>
      obtain ⟨-, -, hline, -, hnul⟩ := isPlain_of_octal (hoctal c List.mem_cons_self)
      exact ⟨hline, hnul, fun d hd => isPlain_of_octal (hoctal d (List.mem_cons_of_mem _ hd))⟩
  | code hcode _ hhex _ =>
      have hne : ∀ p ∈ codes, p.1 ≠ '\n' ∧ p.1 ≠ '\x00' := by decide
      exact ⟨(hne _ hcode).1, (hne _ hcode).2, fun d hd => isPlain_of_hex (hhex d hd)⟩
  | named _ hname _ =>
      refine ⟨by decide, by decide, ?_⟩
      intro d hd
      simp only [List.mem_cons, List.mem_append, List.not_mem_nil, or_false] at hd
      rcases hd with rfl | hd | rfl
      · exact ⟨by decide, by decide, by decide, by decide, by decide⟩
      · exact (hname d hd).1
      · exact ⟨by decide, by decide, by decide, by decide, by decide⟩
  | join => exact ⟨by decide, by decide, by simp⟩
  | other _ _ _ hc =>
      simp only [List.mem_cons, List.not_mem_nil, or_false, not_or] at hc
      exact ⟨hc.2.1, hc.2.2.2, by simp⟩

-- Reading a quoted text begins with making line feeds of carriage returns.
def lineEnd (c : Char) : Char := if c = '\r' then '\n' else c

theorem IsPlain.lineEnd_eq (h : IsPlain c) : lineEnd c = c := if_neg h.2.2.2.1

theorem map_lineEnd_of_plain (h : ∀ d ∈ ds, IsPlain d) : ds.map lineEnd = ds := by
  induction ds with
  | nil => rfl
  | cons d ds ih =>
      rw [List.forall_mem_cons] at h
      rw [List.map_cons, h.1.lineEnd_eq, ih h.2]

theorem quoteTail_append (h : ∀ d ∈ ds, IsPlain d) (hrest : QuoteTail rest) :
    QuoteTail (ds ++ rest) := by
  induction ds with
  | nil => exact hrest
  | cons d ds ih =>
      rw [List.forall_mem_cons] at h
      exact .plain h.1.1 h.1.2.1 h.1.2.2.1 (ih h.2)

-- What spells a text is a quoted text of the grammar.
theorem Spells.quotation (h : Spells cs s) : Quotation ('"' :: (cs ++ ['"'])) := by
  refine .mk ?_
  induction h with
  | nil => exact .close
  | plain hc _ ih => exact .plain hc.1 hc.2.1 hc.2.2.1 ih
  | @escape c ds cs meant s hescape _ ih =>
      obtain ⟨hline, -, hds⟩ := hescape.parts
      rw [List.cons_append, List.cons_append, List.append_assoc]
      exact .escaped hline (quoteTail_append hds ih)

theorem Spells.nul_notMem (h : Spells cs s) : '\x00' ∉ cs.map lineEnd := by
  have hlineEnd : ∀ c : Char, c ≠ '\x00' → lineEnd c ≠ '\x00' := by
    intro c hc
    unfold lineEnd
    split
    · decide
    · exact hc
  induction h with
  | nil => simp
  | plain hc _ ih =>
      rw [List.map_cons, List.mem_cons, not_or]
      exact ⟨(hlineEnd _ hc.2.2.2.2).symm, ih⟩
  | @escape c ds cs meant s hescape _ ih =>
      obtain ⟨-, hnul, hds⟩ := hescape.parts
      simp only [List.map_cons, List.map_append, List.mem_cons, List.mem_append, not_or,
        map_lineEnd_of_plain hds]
      refine ⟨by decide, (hlineEnd _ hnul).symm, ?_, ih⟩
      exact fun hmem => (hds _ hmem).2.2.2.2 rfl

theorem brokenLine?_append (h : ∀ d ∈ ds, IsPlain d) (line : Nat) :
    brokenLine? line (ds ++ rest) = brokenLine? line rest := by
  induction ds with
  | nil => rfl
  | cons d ds ih =>
      rw [List.forall_mem_cons] at h
      obtain ⟨⟨-, hback, hline, -, -⟩, hds⟩ := h
      rw [List.cons_append, brokenLine?, if_neg hline, ih hds]
      · exact fun heq => absurd heq hback
      · exact fun _ _ heq => absurd heq hback

theorem Spells.brokenLine? (h : Spells cs s) (line : Nat) :
    brokenLine? line (cs.map lineEnd) = none := by
  induction h generalizing line with
  | nil => rfl
  | @plain c cs s hc _ ih =>
      have hone : ∀ d ∈ [c], IsPlain d := by simpa using hc
      rw [List.map_cons, hc.lineEnd_eq]
      exact (brokenLine?_append hone line).trans (ih line)
  | @escape c ds cs meant s hescape _ ih =>
      obtain ⟨-, -, hds⟩ := hescape.parts
      rw [List.map_cons, List.map_cons, List.map_append, map_lineEnd_of_plain hds]
      change Literal.brokenLine? _ (ds ++ cs.map lineEnd) = none
      rw [brokenLine?_append hds, ih]

theorem simpleEscape?_of_octal (h : isOctal c = true) : simpleEscape? c = none := by
  apply simpleEscape?_eq_none
  intro hmem
  have hnone : (marks.map (·.1)).all (fun d => !isOctal d) = true := by decide
  have hc := List.all_eq_true.mp hnone c hmem
  rw [h] at hc
  cases hc

-- The further digits of a number in base eight are those that follow, up to two.
theorem takeWhile_octal (h : ∀ d ∈ ds, isOctal d = true) (hlength : ds.length ≤ 2)
    (hrest : ds.length < 2 → ∀ d ∈ rest.head?, isOctal d = false) :
    ((ds ++ rest).take 2).takeWhile isOctal = ds := by
  by_cases htwo : ds.length = 2
  · rw [List.take_left' htwo]
    exact List.takeWhile_eq_self_iff.mpr h
  · have hhead := hrest (by omega)
    rw [List.take_append, List.take_of_length_le hlength]
    refine (span_append h ?_).1
    intro d hd
    apply hhead d
    cases rest with
    | nil => simp at hd
    | cons r rest =>
        obtain ⟨n, hn⟩ : ∃ n, 2 - ds.length = n + 1 := ⟨1 - ds.length, by omega⟩
        rwa [hn] at hd

theorem numbered_append {n : Nat} (reason : String) (hlength : ds.length = n)
    (hhex : ∀ d ∈ ds, isHex d = true) (hvalid : (hexValue ds).isValidChar) (rest : List Char) :
    numbered n reason (ds ++ rest) = .ok (Char.ofNat (hexValue ds), rest, 2 + n) := by
  have htake : ((ds ++ rest).take n).takeWhile isHex = ds := by
    rw [List.take_left' hlength]
    exact List.takeWhile_eq_self_iff.mpr hhex
  have hsmall : ¬ hexValue ds ≥ 0x110000 := by
    unfold Nat.isValidChar at hvalid
    omega
  unfold numbered
  rw [htake, List.drop_left' hlength, if_neg (by omega), if_neg hsmall]

theorem named_append {name : List Char} {x : Char} (hne : name ≠ [])
    (hname : ∀ d ∈ name, d ≠ '\x7d') (hfind : Text.CharName.find? name = some x)
    (rest : List Char) :
    named ('\x7b' :: (name ++ '\x7d' :: rest)) =
      .ok (x, rest, 4 + nameWidth name) := by
  have htake : (name ++ '\x7d' :: rest).takeWhile (· ≠ '\x7d') = name := by
    refine (span_append ?_ ?_).1
    · intro d hd
      simpa using hname d hd
    · intro d hd
      obtain rfl : '\x7d' = d := Option.some.inj hd
      rfl
  have hempty : ¬ name.isEmpty = true := by simpa using hne
  have hdrop : (name ++ '\x7d' :: rest).drop (name.length + 1) = rest := by simp
  have hlength : ¬ (name ++ '\x7d' :: rest).length = name.length := by simp
  unfold named
  simp only [htake, if_neg hlength, if_neg hempty, hfind, hdrop]

theorem Escape.escape_eq (h : Escape c ds rest meant) :
    ∃ n, escape (lineEnd c) (ds ++ rest.map lineEnd) = .ok (meant, rest.map lineEnd, n) := by
  cases h with
  | @mark _ x _ hmark =>
      have hne : ∀ p ∈ marks, p.1 ≠ '\r' := by decide
      refine ⟨2, ?_⟩
      rw [lineEnd, if_neg (hne _ hmark), escape, simpleEscape?_eq_some_iff.mpr hmark]
      rfl
  | octal hoctal hlength hrest =>
      rw [List.forall_mem_cons] at hoctal
      have hplain := isPlain_of_octal hoctal.1
      have hhead : ds.length < 2 → ∀ d ∈ (rest.map lineEnd).head?, isOctal d = false := by
        intro hlt d hd
        rw [List.head?_map, Option.mem_def, Option.map_eq_some_iff] at hd
        obtain ⟨r, hr, rfl⟩ := hd
        unfold lineEnd
        split
        · decide
        · exact hrest hlt r hr
      refine ⟨1 + (ds.length + 1), ?_⟩
      rw [hplain.lineEnd_eq, escape, simpleEscape?_of_octal hoctal.1]
      simp only [if_neg hplain.2.2.1, if_pos hoctal.1, takeWhile_octal hoctal.2 hlength hhead]
      simp
  | @code _ n _ _ hcode hlength hhex hvalid =>
      have hnumbered := fun reason =>
        numbered_append reason hlength hhex hvalid (rest.map lineEnd)
      refine ⟨2 + n, ?_⟩
      simp only [codes, List.mem_cons, Prod.mk.injEq, List.not_mem_nil, or_false] at hcode
      rcases hcode with ⟨rfl, rfl⟩ | ⟨rfl, rfl⟩ | ⟨rfl, rfl⟩
      all_goals
        change (numbered _ _ _).map _ = _
        rw [hnumbered]
        rfl
  | @named name x _ hne hname hfind =>
      have hn := named_append hne (fun d hd => (hname d hd).2) hfind (rest.map lineEnd)
      refine ⟨4 + nameWidth name, ?_⟩
      rw [List.cons_append, List.append_assoc, List.singleton_append]
      change (Literal.named _).map _ = _
      rw [hn]
      rfl
  | join => exact ⟨2, rfl⟩
  | other hmark hoctal hcode hc =>
      simp only [codes, List.map_cons, List.map_nil, List.mem_cons, List.not_mem_nil, or_false,
        not_or] at hcode hc
      refine ⟨pairWidth c, ?_⟩
      rw [lineEnd, if_neg hc.2.2.1, escape, simpleEscape?_eq_none hmark]
      simp only [if_neg hc.2.1, hoctal, Bool.false_eq_true, if_false, if_neg hcode.1,
        if_neg hcode.2.1, if_neg hcode.2.2, if_neg hc.1, List.nil_append]

theorem Spells.unescape (h : Spells cs s) {fuel : Nat} (hfuel : cs.length < fuel) (start : Nat) :
    unescape fuel start (cs.map lineEnd) = .ok s := by
  induction h generalizing fuel start with
  | nil => cases fuel <;> rfl
  | @plain c cs s hc _ ih =>
      obtain ⟨fuel, rfl⟩ : ∃ f, fuel = f + 1 := ⟨fuel - 1, by omega⟩
      rw [List.length_cons] at hfuel
      rw [List.map_cons, hc.lineEnd_eq, Literal.unescape, ih (by omega)]
      · rfl
      · exact fun heq => absurd heq hc.2.1
      · exact fun _ _ heq => absurd heq hc.2.1
  | @escape c ds cs meant s hescape _ ih =>
      obtain ⟨fuel, rfl⟩ : ∃ f, fuel = f + 1 := ⟨fuel - 1, by omega⟩
      obtain ⟨-, -, hds⟩ := hescape.parts
      obtain ⟨n, hn⟩ := hescape.escape_eq
      simp only [List.length_cons, List.length_append] at hfuel
      rw [List.map_cons, List.map_cons, List.map_append, map_lineEnd_of_plain hds]
      have hback : lineEnd '\\' = '\\' := rfl
      rw [hback, Literal.unescape, hn]
      simp only []
      rw [ih (by omega)]
      rfl

-- Reading a quoted text finds what it spells.
theorem decode_of_spells {text : String} (htext : text.toList = '"' :: (cs ++ ['"']))
    (h : Spells cs s) : decode text = .ok (String.ofList s) := by
  have hbody : ((text.toList.drop 1).dropLast).map (fun c => if c = '\r' then '\n' else c) =
      cs.map lineEnd := by
    simp [htext, lineEnd]
  have hnul : (cs.map lineEnd).contains '\x00' = false := by simpa using h.nul_notMem
  have hfuel : cs.length < (cs.map lineEnd).length + 1 := by simp
  unfold decode
  simp only [hbody, hnul, Bool.false_eq_true, if_false, h.brokenLine? 1, h.unescape hfuel 0]

-- How a character can always be written.
def written (c : Char) : List Char :=
  if c = '"' then ['\\', '"']
  else if c = '\\' then ['\\', '\\']
  else if c = '\n' then ['\\', 'n']
  else if c = '\r' then ['\\', 'r']
  else if c = '\x00' then ['\\', 'x', '0', '0']
  else [c]

-- Every text can be written.
theorem spells_written (s : List Char) : Spells (s.flatMap written) s := by
  induction s with
  | nil => exact .nil
  | cons c s ih =>
      rw [List.flatMap_cons]
      generalize s.flatMap written = cs at ih
      unfold written
      split_ifs with hquote hback hline hreturn hnul
      · subst hquote
        exact @Spells.escape '"' [] cs ['"'] s (.mark (by decide)) ih
      · subst hback
        exact @Spells.escape '\\' [] cs ['\\'] s (.mark (by decide)) ih
      · subst hline
        exact @Spells.escape 'n' [] cs ['\n'] s (.mark (by decide)) ih
      · subst hreturn
        exact @Spells.escape 'r' [] cs ['\r'] s (.mark (by decide)) ih
      · subst hnul
        exact @Spells.escape 'x' ['0', '0'] cs ['\x00'] s
          (.code (n := 2) (by decide) rfl (List.all_eq_true.mp (by decide)) (by decide)) ih
      · exact .plain ⟨hquote, hback, hline, hreturn, hnul⟩ ih

end Literal

end Dialect.Expr
