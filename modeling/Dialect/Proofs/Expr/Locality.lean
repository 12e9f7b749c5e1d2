import Dialect.Proofs.Expr.Terminal

namespace Dialect.Expr

open Text (isAsciiDigit)

-- Nothing follows, or a blank, or a closing parenthesis.
def Parted (cs : List Char) : Prop := ∀ c ∈ cs.head?, c = ' ' ∨ c = ')'

-- One more character makes the second operator of the first.
inductive Token.Lengthened : Token → Token → Prop
  | le : Lengthened (.op .lt) (.op .le)
  | ge : Lengthened (.op .gt) (.op .ge)
  | pow : Lengthened (.op .mul) (.op .pow)
  | floorDiv : Lengthened (.op .div) (.op .floorDiv)

variable {cs rest w z z' es ds : List Char} {t : Token} {expect : Expect}

theorem Apart.parted (h : Apart cs) : Parted cs := by
  cases cs with
  | nil => simp [Parted]
  | cons c cs =>
      obtain rfl : c = ' ' := h
      simp [Parted]

theorem BinaryOp.text_parts (o : BinaryOp) : ∀ c ∈ o.text.toList, c ≠ ' ' ∧ c ≠ ')' := by
  have hall : (o.text.toList.all fun c => c != ' ' && c != ')') = true := by
    cases o <;> rfl
  simpa using hall

-- Of what follows, the end of a class is seen in the first character.
theorem Parted.head {p : Char → Bool} (hz : Parted z') (hblank : p ' ' = false)
    (hclose : p ')' = false) (h : ∀ c ∈ (w ++ z).head?, p c = false) :
    ∀ c ∈ (w ++ z').head?, p c = false := by
  cases w with
  | nil =>
      intro c hc
      rcases hz c hc with rfl | rfl
      · exact hblank
      · exact hclose
  | cons d w => exact h

-- What is at the front and has neither a blank nor a closing parenthesis has nothing of what takes
-- the place of the rest.
theorem Parted.prefix_of_append (hz : Parted z') {u : List Char} (hu : ∀ c ∈ u, c ≠ ' ' ∧ c ≠ ')')
    (h : u <+: w ++ z') : u <+: w := by
  obtain ⟨rest, hrest⟩ := h
  rcases List.append_eq_append_iff.mp hrest with ⟨v, rfl, -⟩ | ⟨v, rfl, rfl⟩
  · exact List.prefix_append u v
  · cases v with
    | nil => simp
    | cons c v =>
        obtain ⟨hblank, hclose⟩ := hu c (by simp)
        exact absurd (hz c rfl) (not_or.mpr ⟨hblank, hclose⟩)

theorem Parted.prefix_replace (hz : Parted z') {u : List Char} (hu : ∀ c ∈ u, c ≠ ' ' ∧ c ≠ ')')
    (h : u <+: w ++ z') : u <+: w ++ z :=
  (hz.prefix_of_append hu h).trans (List.prefix_append w z)

-- No exponent is found exactly if there is none at the front.
theorem exponent_eq_nil_iff :
    (exponent cs).1 = [] ↔ ∀ es, Scale es → es <+: cs → es = [] := by
  constructor
  · rintro hnil es hscale ⟨rest, rfl⟩
    cases hscale with
    | nil => rfl
    | @exponent mark sign ds hmark hsign hne hds =>
        have hmore : AllDigits (ds ++ rest.takeWhile isAsciiDigit) := by
          intro c hc
          exact (List.mem_append.mp hc).elim (hds c) (allDigits_takeWhile rest c)
        have hlong : Scale (mark :: (sign ++ (ds ++ rest.takeWhile isAsciiDigit))) :=
          .exponent hmark hsign (by simp [hne]) hmore
        have hfound := exponent_append_of_ne_nil hlong (List.cons_ne_nil _ _)
          (head_dropWhile isAsciiDigit rest)
        simp only [List.cons_append, List.append_assoc, List.takeWhile_append_dropWhile] at hfound
        simp [hfound] at hnil
  · intro hnone
    obtain ⟨hscale, hsplit⟩ := exponent_split cs
    exact hnone _ hscale ⟨_, hsplit.symm⟩

theorem head_exponent (hne : (exponent cs).1 ≠ []) :
    ∀ c ∈ (exponent cs).2.head?, isAsciiDigit c = false := by
  revert hne
  fun_cases exponent cs with
  | case1 | case3 | case4 => simp
  | case2 mark rest hmark sign body hsplit ds hds => exact fun _ => head_dropWhile isAsciiDigit body

theorem Scale.parts (h : Scale es) : ∀ c ∈ es, c ≠ ' ' ∧ c ≠ ')' := by
  have hdigit : ∀ c, isAsciiDigit c = true → c ≠ ' ' ∧ c ≠ ')' := by
    intro c hc
    constructor <;> rintro rfl <;> exact absurd hc (by decide)
  cases h with
  | nil => simp
  | @exponent mark sign ds hmark hsign _ hds =>
      simp only [List.mem_cons, List.mem_append, List.not_mem_nil, or_false] at hsign ⊢
      rintro c (rfl | hc | hc)
      · rcases hmark with rfl | rfl <;> decide
      · rcases hsign with rfl | rfl | rfl
        · cases hc
        · obtain rfl := List.mem_singleton.mp hc
          decide
        · obtain rfl := List.mem_singleton.mp hc
          decide
      · exact hdigit c (hds c hc)

theorem exponent_replace (h : exponent (es ++ (w ++ z)) = (es, w ++ z)) (hz : Parted z') :
    exponent (es ++ (w ++ z')) = (es, w ++ z') := by
  obtain ⟨hscale, -⟩ := exponent_split (es ++ (w ++ z))
  rw [h] at hscale
  by_cases hne : es = []
  · subst hne
    rw [List.nil_append] at h ⊢
    have hnone := exponent_eq_nil_iff.mp (congrArg Prod.fst h)
    have hnil : (exponent (w ++ z')).1 = [] := by
      refine exponent_eq_nil_iff.mpr fun es hes hbegins => hnone es hes ?_
      exact hz.prefix_replace hes.parts hbegins
    obtain ⟨-, hsplit⟩ := exponent_split (w ++ z')
    rw [hnil, List.nil_append] at hsplit
    exact Prod.ext hnil hsplit.symm
  · have hfound : (exponent (es ++ (w ++ z))).1 ≠ [] := by rwa [h]
    have hhead := head_exponent hfound
    rw [h] at hhead
    exact exponent_append_of_ne_nil hscale hne (hz.head (by decide) (by decide) hhead)

theorem number?_replace {s : String} (h : number? cs = some (s, w ++ z)) (hz : Parted z') :
    number? (s.toList ++ (w ++ z')) = some (s, w ++ z') := by
  apply FrontNumber.number?_eq
  cases frontNumber_of_number? h with
  | @whole ds tail es _ hne hds hhead hexponent =>
      obtain ⟨-, hsplit⟩ := exponent_split tail
      rw [hexponent, ← List.append_assoc] at hsplit
      subst hsplit
      rw [List.append_assoc] at hexponent
      rw [String.toList_ofList, List.append_assoc, ← List.append_assoc es]
      refine .whole hne hds ?_ ?_
      · have hdigit := hz.head (by decide) (by decide) fun c hc => (hhead c hc).1
        have hpoint := hz.head (p := (· == '.')) (by decide) (by decide)
          fun c hc => by simpa using (hhead c hc).2
        exact fun c hc => ⟨hdigit c hc, by simpa using hpoint c hc⟩
      · rw [List.append_assoc]
        exact exponent_replace hexponent hz
  | @point ds fs tail es _ hne hds hfs hhead hexponent =>
      obtain ⟨-, hsplit⟩ := exponent_split tail
      rw [hexponent, ← List.append_assoc] at hsplit
      subst hsplit
      rw [List.append_assoc] at hexponent
      rw [String.toList_ofList, List.append_assoc, List.cons_append, List.append_assoc,
        ← List.append_assoc es]
      refine .point hne hds hfs (hz.head (by decide) (by decide) hhead) ?_
      rw [List.append_assoc]
      exact exponent_replace hexponent hz

theorem operand?_replace {negatable : Bool} (h : operand? negatable cs = some (t, w ++ z))
    (hz : Parted z') : operand? negatable (t.text.toList ++ (w ++ z')) = some (t, w ++ z') := by
  have hsplit := (operand?_fronts h).split
  revert h
  fun_cases operand? negatable cs with
  | case1 => simp
  | case2 | case3 | case4 =>
      rintro ⟨⟩
      rfl
  | case5 r =>
      intro h
      obtain ⟨⟨taken, after⟩, hclose, heq⟩ := Option.map_eq_some_iff.mp h
      cases heq
      obtain ⟨tail, htail, rfl, -⟩ := closeQuote_eq_some hclose
      have htaken := operand?_quotation (.mk htail) negatable (w ++ z')
      change operand? negatable ((String.ofList ('"' :: tail)).toList ++ (w ++ z')) = _
      rwa [String.toList_ofList]
  | case6 c tail _ _ _ _ hstart =>
      intro h
      obtain ⟨hword, hdrop⟩ := Prod.mk.inj (Option.some.inj h)
      have htext : (c :: tail).takeWhile isNameChar = t.text.toList := by
        refine List.append_cancel_right (Eq.trans ?_ hsplit)
        rw [← hdrop, List.takeWhile_append_dropWhile]
      have hhead := head_dropWhile isNameChar (c :: tail)
      rw [hdrop] at hhead
      rw [← htext, ← hword]
      exact operand?_name (name_takeWhile hstart tail) negatable
        (hz.head (by decide) (by decide) hhead)
  | case7 c tail =>
      intro h
      obtain ⟨⟨text, after⟩, hnumber, heq⟩ := Option.map_eq_some_iff.mp h
      cases heq
      obtain ⟨hnumeral, -⟩ := number?_eq_some hnumber
      exact operand?_numeral hnumeral negatable (number?_replace hnumber hz)

-- An operator is not taken where it could be longer.
theorem head_operator? (h : operator? cs = some (t, rest)) :
    ∀ c ∈ rest.head?, t.lengthenedBy c = false := by
  revert h
  fun_cases operator? cs with
  | case6 r hnext | case8 r hnext | case12 r hnext | case14 r hnext =>
      rintro ⟨⟩ c hc
      simp only [Token.lengthenedBy, beq_eq_false_iff_ne]
      rintro rfl
      obtain ⟨r', hr'⟩ := List.head?_eq_some_iff.mp hc
      exact hnext r' hr'
  | _ => rintro ⟨⟩ <;> exact fun _ _ => rfl

theorem operator?_replace (h : operator? cs = some (t, w ++ z)) (hz : Parted z') :
    operator? (t.text.toList ++ (w ++ z')) = some (t, w ++ z') := by
  have hlonger : t.lengthenedBy ' ' = false ∧ t.lengthenedBy ')' = false := by
    unfold Token.lengthenedBy
    split <;> exact ⟨rfl, rfl⟩
  exact operator?_eq_some (operator?_fronts h).admitted
    (hz.head hlonger.1 hlonger.2 (head_operator? h))

-- A token is taken whatever comes behind a part of what follows it, if that is a blank, a closing
-- parenthesis or nothing: no token that might be longer goes on with them.
theorem token?_replace (h : token? expect cs = some (t, w ++ z)) (hz : Parted z') :
    token? expect (t.text.toList ++ (w ++ z')) = some (t, w ++ z') := by
  cases expect with
  | operand negatable => exact operand?_replace h hz
  | operator => exact operator?_replace h hz

-- A number is found exactly where a digit is, or a point with a digit.
theorem number?_eq_none_iff :
    number? cs = none ↔ ∀ d, isAsciiDigit d = true → ¬[d] <+: cs ∧ ¬['.', d] <+: cs := by
  constructor
  · intro hnone d hd
    have hdigit : cs.takeWhile isAsciiDigit = [] → ¬[d] <+: cs := by
      rintro hempty ⟨r, rfl⟩
      simp [hd] at hempty
    revert hnone
    fun_cases number? cs with
    | case1 ds tail r htail fs hempty =>
        obtain ⟨hds, hfs⟩ : ds = [] ∧ fs = [] := by simpa using hempty
        refine fun _ => ⟨hdigit hds, ?_⟩
        rintro ⟨r', rfl⟩
        have hcs : ds ++ tail = '.' :: d :: r' := List.takeWhile_append_dropWhile
        rw [hds, htail, List.nil_append, List.cons.injEq] at hcs
        obtain rfl := hcs.2
        simp [fs, hd] at hfs
    | case3 ds tail hempty hpoint =>
        have hds : ds = [] := by simpa using hempty
        refine fun _ => ⟨hdigit hds, ?_⟩
        rintro ⟨r', rfl⟩
        have hcs : ds ++ tail = '.' :: d :: r' := List.takeWhile_append_dropWhile
        rw [hds, List.nil_append] at hcs
        exact hpoint (d :: r') hcs
    | case2 | case4 => simp
  · intro hdigit
    cases hnumber : number? cs with
    | none => rfl
    | some found =>
        obtain ⟨text, after⟩ := found
        cases frontNumber_of_number? hnumber with
        | @whole ds _ _ _ hne hds _ _ =>
            obtain ⟨d, ds, rfl⟩ := List.exists_cons_of_ne_nil hne
            exact absurd (by simp) (hdigit d (hds d (by simp))).1
        | @point ds fs _ _ _ hne hds hfs _ _ =>
            cases ds with
            | cons d ds => exact absurd (by simp) (hdigit d (hds d (by simp))).1
            | nil =>
                cases fs with
                | cons f fs => exact absurd (by simp) (hdigit f (hfs f (by simp))).2
                | nil => simp at hne

theorem number?_replace_none (h : number? (w ++ z) = none) (hz : Parted z') :
    number? (w ++ z') = none := by
  have hdigit : ∀ d, isAsciiDigit d = true → d ≠ ' ' ∧ d ≠ ')' := by
    intro d hd
    constructor <;> rintro rfl <;> exact absurd hd (by decide)
  refine number?_eq_none_iff.mpr fun d hd => ?_
  obtain ⟨hplain, hpoint⟩ := number?_eq_none_iff.mp h d hd
  constructor
  · intro hbegins
    exact hplain (hz.prefix_replace (by simpa using hdigit d hd) hbegins)
  · intro hbegins
    exact hpoint (hz.prefix_replace (by simpa using hdigit d hd) hbegins)

-- Where no operand starts, none starts if the text is cut off behind a first character that is not
-- a quote.
theorem operand?_replace_none {negatable : Bool} (h : operand? negatable (w ++ z) = none)
    (hne : w ≠ []) (hquote : w.head? ≠ some '"') (hz : Parted z') :
    operand? negatable (w ++ z') = none := by
  obtain ⟨c, w, rfl⟩ := List.exists_cons_of_ne_nil hne
  have hdistinct : c ≠ '(' ∧ c ≠ '+' ∧ c ≠ '-' ∧ c ≠ '"' := by
    refine ⟨?_, ?_, ?_, by simpa using hquote⟩ <;> rintro rfl <;> simp [operand?] at h
  have hstart : isNameStart c = false := by
    cases hstart : isNameStart c with
    | false => rfl
    | true => simp [operand?, hdistinct, hstart] at h
  have hnumber : number? (c :: w ++ z) = none := by
    simpa [operand?, hdistinct, hstart] using h
  have hcut := number?_replace_none hnumber hz
  rw [List.cons_append] at hcut ⊢
  simp [operand?, hdistinct, hstart, hcut]

-- Where the text of an operator stands, it is taken, or else a longer one that begins with it.
theorem operator?_of_prefix (hallowed : Admitted .operator t) (h : t.text.toList <+: cs) :
    ∃ u after, operator? cs = some (u, after) ∧ (u = t ∨ t.Lengthened u) := by
  obtain ⟨after, rfl⟩ := h
  have htaken (hshort : ∀ c ∈ after.head?, t.lengthenedBy c = false) :
      operator? (t.text.toList ++ after) = some (t, after) := operator?_eq_some hallowed hshort
  match after with
  | [] => exact ⟨t, [], htaken (by simp), .inl rfl⟩
  | c :: after =>
      cases hlonger : t.lengthenedBy c with
      | false => exact ⟨t, c :: after, htaken (by simpa using hlonger), .inl rfl⟩
      | true =>
          match t with
          | .op .lt | .op .gt | .op .mul | .op .div =>
              obtain rfl := beq_iff_eq.mp hlonger
              exact ⟨_, after, rfl, .inr (by constructor)⟩

end Dialect.Expr
