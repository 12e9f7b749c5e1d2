import Dialect.Proofs.Expr.Reading

namespace Dialect.Expr

open Text (isAsciiDigit)

def AllDigits (cs : List Char) : Prop := ∀ c ∈ cs, isAsciiDigit c = true

-- The end of a number: nothing, or a mark, an optional sign and digits.
inductive Scale : List Char → Prop
  | nil : Scale []
  | exponent {mark sign ds} : mark = 'e' ∨ mark = 'E' → sign ∈ [[], ['+'], ['-']] →
      ds ≠ [] → AllDigits ds → Scale (mark :: (sign ++ ds))

-- Digits, or digits with a point before, among or behind them.
inductive Numeral : List Char → Prop
  | whole {ds es} : ds ≠ [] → AllDigits ds → Scale es → Numeral (ds ++ es)
  | point {ds fs es} : ds ≠ [] ∨ fs ≠ [] → AllDigits ds → AllDigits fs → Scale es →
      Numeral (ds ++ '.' :: (fs ++ es))

-- A quoted text behind its first quote: a backslash takes the next character along, and the first
-- quote that is not so taken is the last character. It stays on one line.
inductive QuoteTail : List Char → Prop
  | close : QuoteTail ['"']
  | plain {c cs} : c ≠ '"' → c ≠ '\\' → c ≠ '\n' → QuoteTail cs → QuoteTail (c :: cs)
  | escaped {c cs} : c ≠ '\n' → QuoteTail cs → QuoteTail ('\\' :: c :: cs)

inductive Quotation : List Char → Prop
  | mk {cs} : QuoteTail cs → Quotation ('"' :: cs)

inductive Name : List Char → Prop
  | mk {c cs} : isNameStart c = true → (∀ d ∈ cs, isNameChar d = true) → Name (c :: cs)

namespace Leaf

def text : Leaf → String
  | number s => s
  | string s => s
  | true => "true"
  | false => "false"
  | none => "none"
  | name s => s

def WellFormed : Leaf → Prop
  | number s => Numeral s.toList
  | string s => Quotation s.toList
  | name s => Name s.toList
  | _ => True

end Leaf

def BinaryOp.text : BinaryOp → String
  | or => "or"
  | and => "and"
  | eq => "=="
  | ne => "!="
  | lt => "<"
  | le => "<="
  | gt => ">"
  | ge => ">="
  | add => "+"
  | sub => "-"
  | mul => "*"
  | div => "/"
  | floorDiv => "//"
  | mod => "%"
  | pow => "**"

namespace Token

def text : Token → String
  | leaf a => a.text
  | opening => "("
  | closing => ")"
  | not => "not"
  | op o => o.text

def WellFormed : Token → Prop
  | leaf a => a.WellFormed
  | _ => True

-- A name is not a keyword where it stands.
def Plain (expect : Expect) : Token → Prop
  | leaf (.name w) => w ∉ ["true", "false", "none"] ∧ (expect = .operand true → w ≠ "not")
  | _ => True

end Token

variable {cs rest : List Char}

theorem allDigits_takeWhile (cs : List Char) : AllDigits (cs.takeWhile isAsciiDigit) := by
  intro c hc
  exact List.all_eq_true.mp List.all_takeWhile c hc

-- An exponent and what is left behind it make up the text.
theorem exponent_split (cs : List Char) :
    Scale (exponent cs).1 ∧ cs = (exponent cs).1 ++ (exponent cs).2 := by
  fun_cases exponent cs with
  | case1 | case3 | case4 => exact ⟨.nil, rfl⟩
  | case2 mark rest hmark sign body hsplit ds hds =>
      have hsign : sign ∈ [[], ['+'], ['-']] ∧ rest = sign ++ body := by
        split at hsplit <;> cases hsplit <;> simp
      have hne : ds ≠ [] := by simpa using hds
      refine ⟨.exponent hmark hsign.1 hne (allDigits_takeWhile body), ?_⟩
      have hbody : ds ++ body.dropWhile isAsciiDigit = body := List.takeWhile_append_dropWhile
      simp only [hsign.2, List.cons_append, List.append_assoc, hbody]

-- A number at the front of a text: its digits end where the class does, and the exponent is what is
-- found behind them.
inductive FrontNumber : List Char → String → List Char → Prop
  | whole {ds tail es rest} : ds ≠ [] → AllDigits ds →
      (∀ c ∈ tail.head?, isAsciiDigit c = false ∧ c ≠ '.') → exponent tail = (es, rest) →
      FrontNumber (ds ++ tail) (String.ofList (ds ++ es)) rest
  | point {ds fs tail es rest} : ds ≠ [] ∨ fs ≠ [] → AllDigits ds → AllDigits fs →
      (∀ c ∈ tail.head?, isAsciiDigit c = false) → exponent tail = (es, rest) →
      FrontNumber (ds ++ '.' :: (fs ++ tail)) (String.ofList (ds ++ '.' :: (fs ++ es))) rest

theorem head_dropWhile (p : Char → Bool) (cs : List Char) :
    ∀ c ∈ (cs.dropWhile p).head?, p c = false := by
  intro c hc
  have hstop := List.head?_dropWhile_not p cs
  rwa [Option.mem_def.mp hc] at hstop

theorem frontNumber_of_number? {t : String} (h : number? cs = some (t, rest)) :
    FrontNumber cs t rest := by
  have hcs : cs.takeWhile isAsciiDigit ++ cs.dropWhile isAsciiDigit = cs :=
    List.takeWhile_append_dropWhile
  revert h
  fun_cases number? cs with
  | case1 | case3 => simp
  | case2 ds tail r htail fs hsome es after hexponent =>
      intro h
      obtain ⟨rfl, rfl⟩ : String.ofList (ds ++ '.' :: (fs ++ es)) = t ∧ after = rest := by
        simpa using h
      have hr : fs ++ r.dropWhile isAsciiDigit = r := List.takeWhile_append_dropWhile
      have hne : ds ≠ [] ∨ fs ≠ [] := by
        simp only [Bool.and_eq_true, List.isEmpty_iff] at hsome
        exact Classical.not_and_iff_not_or_not.mp hsome
      have hfront := FrontNumber.point hne (allDigits_takeWhile cs) (allDigits_takeWhile r)
        (head_dropWhile isAsciiDigit r) hexponent
      rwa [hr, ← htail, hcs] at hfront
  | case4 ds tail hsome es after hpoint hexponent =>
      intro h
      obtain ⟨rfl, rfl⟩ : String.ofList (ds ++ es) = t ∧ after = rest := by simpa using h
      have hne : ds ≠ [] := by simpa using hsome
      have hhead : ∀ c ∈ tail.head?, isAsciiDigit c = false ∧ c ≠ '.' := by
        intro c hc
        refine ⟨head_dropWhile isAsciiDigit cs c hc, ?_⟩
        rintro rfl
        obtain ⟨r, hr⟩ := List.head?_eq_some_iff.mp (Option.mem_def.mp hc)
        exact hpoint r hr
      have hfront := FrontNumber.whole hne (allDigits_takeWhile cs) hhead hexponent
      rwa [hcs] at hfront

theorem number?_eq_some {t : String} (h : number? cs = some (t, rest)) :
    Numeral t.toList ∧ cs = t.toList ++ rest := by
  cases frontNumber_of_number? h with
  | @whole ds tail es _ hne hds _ hexponent =>
      obtain ⟨hscale, hsplit⟩ := exponent_split tail
      rw [hexponent] at hscale hsplit
      rw [String.toList_ofList, List.append_assoc, ← hsplit]
      exact ⟨.whole hne hds hscale, rfl⟩
  | @point ds fs tail es _ hne hds hfs _ hexponent =>
      obtain ⟨hscale, hsplit⟩ := exponent_split tail
      rw [hexponent] at hscale hsplit
      rw [String.toList_ofList]
      refine ⟨.point hne hds hfs hscale, ?_⟩
      rw [hsplit]
      simp

-- The quoted text taken up to its last quote, behind what was taken before.
theorem closeQuote_eq_some {acc taken : List Char} (h : closeQuote acc cs = some (taken, rest)) :
    ∃ tail, QuoteTail tail ∧ taken = acc.reverse ++ tail ∧ cs = tail ++ rest := by
  fun_induction closeQuote acc cs with
  | case1 | case3 | case4 => cases h
  | case2 acc cs =>
      obtain ⟨rfl, rfl⟩ : ('"' :: acc).reverse = taken ∧ cs = rest := by simpa using h
      exact ⟨['"'], .close, by simp, rfl⟩
  | case5 acc cs => simp at h
  | case6 acc c cs hc ih =>
      obtain ⟨tail, htail, rfl, rfl⟩ := ih h
      exact ⟨'\\' :: c :: tail, .escaped hc htail, by simp, rfl⟩
  | case7 acc c cs hquote hline hlast hescape ih =>
      have hback : c ≠ '\\' := by
        intro hc
        cases cs with
        | nil => exact hlast hc rfl
        | cons d ds => exact hescape d ds hc rfl
      obtain ⟨tail, htail, rfl, rfl⟩ := ih h
      exact ⟨c :: tail, .plain hquote hback hline htail, by simp, rfl⟩

-- The token `t` is at the front of the text, and may be.
structure Fronts (expect : Expect) (cs : List Char) (t : Token) (rest : List Char) : Prop where
  split : cs = t.text.toList ++ rest
  wellFormed : t.WellFormed
  admitted : Admitted expect t

theorem fronts_wordToken (negatable : Bool) {w : List Char} (hw : Name w) (rest : List Char) :
    Fronts (.operand negatable) (w ++ rest) (wordToken negatable (String.ofList w)) rest := by
  have hsplit : w ++ rest = (String.ofList w).toList ++ rest := by rw [String.toList_ofList]
  generalize htext : String.ofList w = text at hsplit
  fun_cases wordToken negatable text with
  | case1 heq | case2 _ heq | case3 _ _ heq =>
      subst heq
      exact ⟨hsplit, trivial, trivial⟩
  | case4 _ _ _ heq =>
      obtain ⟨hnot, hneg⟩ : text = "not" ∧ negatable = true := by simpa using heq
      subst hnot
      exact ⟨hsplit, trivial, hneg⟩
  | case5 =>
      have hname : Name text.toList := by rwa [← htext, String.toList_ofList]
      exact ⟨hsplit, hname, trivial⟩

theorem name_takeWhile {c : Char} (hstart : isNameStart c = true) (cs : List Char) :
    Name ((c :: cs).takeWhile isNameChar) := by
  have hchar : isNameChar c = true := by simp [isNameChar, hstart]
  rw [List.takeWhile_cons_of_pos hchar]
  exact .mk hstart (List.all_eq_true.mp List.all_takeWhile)

theorem operand?_fronts {negatable : Bool} {t : Token}
    (h : operand? negatable cs = some (t, rest)) : Fronts (.operand negatable) cs t rest := by
  revert h
  fun_cases operand? negatable cs with
  | case1 => simp
  | case2 r =>
      rintro ⟨⟩
      exact ⟨rfl, trivial, trivial⟩
  | case3 r =>
      rintro ⟨⟩
      exact ⟨rfl, trivial, .inl rfl⟩
  | case4 r =>
      rintro ⟨⟩
      exact ⟨rfl, trivial, .inr rfl⟩
  | case5 r =>
      intro h
      obtain ⟨⟨taken, after⟩, hclose, heq⟩ := Option.map_eq_some_iff.mp h
      cases heq
      obtain ⟨tail, htail, rfl, rfl⟩ := closeQuote_eq_some hclose
      have htext : (String.ofList (['"'].reverse ++ tail)).toList = '"' :: tail :=
        String.toList_ofList
      have hquoted : Quotation (String.ofList (['"'].reverse ++ tail)).toList := by
        rw [htext]
        exact .mk htail
      exact ⟨congrArg (· ++ rest) htext.symm, hquoted, trivial⟩
  | case6 c tail _ _ _ _ hstart =>
      intro h
      cases h
      have hfronts := fronts_wordToken negatable (name_takeWhile hstart tail)
        ((c :: tail).dropWhile isNameChar)
      rwa [List.takeWhile_append_dropWhile] at hfronts
  | case7 c tail =>
      intro h
      obtain ⟨⟨text, after⟩, hnumber, heq⟩ := Option.map_eq_some_iff.mp h
      cases heq
      obtain ⟨hnumeral, hsplit⟩ := number?_eq_some hnumber
      exact ⟨hsplit, hnumeral, trivial⟩

-- Whether a character would make a longer operator of this one.
def Token.lengthenedBy : Token → Char → Bool
  | op .lt, c => c == '='
  | op .gt, c => c == '='
  | op .mul, c => c == '*'
  | op .div, c => c == '/'
  | _, _ => false

theorem operator?_fronts {t : Token} (h : operator? cs = some (t, rest)) :
    Fronts .operator cs t rest := by
  revert h
  fun_cases operator? cs <;> rintro ⟨⟩ <;> exact ⟨rfl, trivial, trivial⟩

-- What is taken from the front of a text is a well-formed token that may stand there.
theorem token?_fronts {expect : Expect} {t : Token} (h : token? expect cs = some (t, rest)) :
    Fronts expect cs t rest := by
  cases expect with
  | operand negatable => exact operand?_fronts h
  | operator => exact operator?_fronts h

-- Nothing or a blank follows.
def Apart : List Char → Prop
  | [] => True
  | c :: _ => c = ' '

-- A run of characters of a class ends where the class does.
theorem span_append {p : Char → Bool} {ds : List Char} (hds : ∀ c ∈ ds, p c = true)
    (hrest : ∀ c ∈ rest.head?, p c = false) :
    (ds ++ rest).takeWhile p = ds ∧ (ds ++ rest).dropWhile p = rest := by
  rw [List.takeWhile_append_of_pos hds, List.dropWhile_append_of_pos hds]
  cases rest with
  | nil => simp
  | cons c rest =>
      have hc : p c = false := hrest c rfl
      simp [hc]

theorem Scale.head {es : List Char} (h : Scale es) (hrest : Apart rest) :
    ∀ c ∈ (es ++ rest).head?, isAsciiDigit c = false ∧ c ≠ '.' := by
  cases h with
  | nil =>
      cases rest with
      | nil => simp
      | cons c rest =>
          obtain rfl : c = ' ' := hrest
          intro c hc
          obtain rfl : ' ' = c := Option.some.inj hc
          decide
  | exponent hmark _ _ _ =>
      intro c hc
      obtain rfl : _ = c := Option.some.inj hc
      rcases hmark with rfl | rfl <;> decide

theorem Apart.head {p : Char → Bool} (hrest : Apart rest) (hp : p ' ' = false) :
    ∀ c ∈ rest.head?, p c = false := by
  cases rest with
  | nil => simp
  | cons c rest =>
      obtain rfl : c = ' ' := hrest
      intro c hc
      obtain rfl : ' ' = c := Option.some.inj hc
      exact hp

-- An exponent takes all digits that follow its mark and sign.
theorem exponent_append_of_ne_nil {es : List Char} (h : Scale es) (hne : es ≠ [])
    (hrest : ∀ c ∈ rest.head?, isAsciiDigit c = false) :
    exponent (es ++ rest) = (es, rest) := by
  cases h with
  | nil => exact absurd rfl hne
  | @exponent mark sign ds hmark hsign hdigits hds =>
      obtain ⟨htake, hdrop⟩ := span_append hds hrest
      have hempty : ds.isEmpty = false := by simpa using hdigits
      simp only [List.mem_cons, List.not_mem_nil, or_false] at hsign
      rcases hsign with rfl | rfl | rfl
      · -- without a sign, what stands where it would is a digit
        obtain ⟨d, ds', rfl⟩ := List.exists_cons_of_ne_nil hdigits
        have hd : isAsciiDigit d = true := hds d List.mem_cons_self
        have hplus : d ≠ '+' := fun heq => by simp [heq, isAsciiDigit] at hd
        have hminus : d ≠ '-' := fun heq => by simp [heq, isAsciiDigit] at hd
        simp only [List.cons_append] at htake hdrop
        simp [exponent, hmark, hplus, hminus, htake, hdrop]
      · simp [exponent, hmark, htake, hdrop, hempty]
      · simp [exponent, hmark, htake, hdrop, hempty]

theorem exponent_append {es : List Char} (h : Scale es) (hrest : Apart rest) :
    exponent (es ++ rest) = (es, rest) := by
  by_cases hne : es = []
  · subst hne
    cases rest with
    | nil => rfl
    | cons c rest =>
        obtain rfl : c = ' ' := hrest
        rfl
  · exact exponent_append_of_ne_nil h hne (hrest.head (by decide))

theorem FrontNumber.number?_eq {t : String} (h : FrontNumber cs t rest) :
    number? cs = some (t, rest) := by
  cases h with
  | @whole ds tail es _ hne hds hhead hexponent =>
      obtain ⟨htake, hdrop⟩ := span_append hds fun c hc => (hhead c hc).1
      have hpoint : ∀ r, tail ≠ '.' :: r := fun r heq => (hhead '.' (by simp [heq])).2 rfl
      have hempty : ds.isEmpty = false := by simpa using hne
      rw [number?, htake, hdrop]
      split
      · rename_i r
        exact absurd rfl (hpoint r)
      · simp [hempty, hexponent]
  | @point ds fs tail es _ hne hds hfs hhead hexponent =>
      have hdot : ∀ c ∈ ('.' :: (fs ++ tail)).head?, isAsciiDigit c = false := by
        intro c hc
        obtain rfl : '.' = c := Option.some.inj hc
        decide
      obtain ⟨htake, hdrop⟩ := span_append hds hdot
      obtain ⟨htake', hdrop'⟩ := span_append hfs hhead
      have hempty : (ds.isEmpty && fs.isEmpty) = false := by
        rcases hne with hne | hne
        · simp [hne]
        · simp [hne]
      rw [number?, htake, hdrop]
      simp [htake', hdrop', hempty, hexponent]

theorem number?_append {ds : List Char} (h : Numeral ds) (hrest : Apart rest) :
    number? (ds ++ rest) = some (String.ofList ds, rest) := by
  apply FrontNumber.number?_eq
  cases h with
  | @whole ds es hne hds hscale =>
      rw [List.append_assoc]
      exact .whole hne hds (hscale.head hrest) (exponent_append hscale hrest)
  | @point ds fs es hne hds hfs hscale =>
      rw [List.append_assoc, List.cons_append, List.append_assoc]
      exact .point hne hds hfs (fun c hc => (hscale.head hrest c hc).1)
        (exponent_append hscale hrest)

theorem closeQuote_append {tail : List Char} (h : QuoteTail tail) (acc rest : List Char) :
    closeQuote acc (tail ++ rest) = some (acc.reverse ++ tail, rest) := by
  induction h generalizing acc with
  | close => simp [closeQuote]
  | plain hquote hback hline _ ih =>
      simp [closeQuote, hback, ih]
  | escaped hline _ ih =>
      simp [closeQuote, hline, ih]

theorem operand?_name {w : List Char} (hw : Name w) (negatable : Bool)
    (hrest : ∀ c ∈ rest.head?, isNameChar c = false) :
    operand? negatable (w ++ rest) = some (wordToken negatable (String.ofList w), rest) := by
  cases hw with
  | @mk c cs hstart hcs =>
      have hall : ∀ d ∈ c :: cs, isNameChar d = true := by
        simpa [isNameChar, hstart] using hcs
      obtain ⟨htake, hdrop⟩ := span_append hall hrest
      rw [List.cons_append] at htake hdrop ⊢
      have hother : c ≠ '(' ∧ c ≠ '+' ∧ c ≠ '-' ∧ c ≠ '"' := by
        refine ⟨?_, ?_, ?_, ?_⟩ <;> rintro rfl <;> exact absurd hstart (by decide)
      simp [operand?, hother, hstart, htake, hdrop]

theorem isNameStart_of_digit {c : Char} (h : isAsciiDigit c = true) : isNameStart c = false := by
  simp only [isAsciiDigit, Bool.and_eq_true, decide_eq_true_eq] at h
  have hlow : ¬ 'a' ≤ c := fun ha => absurd (Char.le_trans ha h.2) (by decide)
  have hhigh : ¬ 'A' ≤ c := fun ha => absurd (Char.le_trans ha h.2) (by decide)
  have hline : c ≠ '_' := fun heq => absurd (heq ▸ h.2) (by decide)
  simp [isNameStart, hlow, hhigh, hline]

theorem Numeral.front {ds : List Char} (h : Numeral ds) :
    ∃ c cs, ds = c :: cs ∧ (isAsciiDigit c = true ∨ c = '.') := by
  cases h with
  | whole hne hds _ =>
      obtain ⟨d, ds', rfl⟩ := List.exists_cons_of_ne_nil hne
      exact ⟨d, _, rfl, .inl (hds d List.mem_cons_self)⟩
  | @point ds fs es _ hds _ _ =>
      cases ds with
      | nil => exact ⟨'.', _, rfl, .inr rfl⟩
      | cons d ds => exact ⟨d, _, rfl, .inl (hds d List.mem_cons_self)⟩

theorem operand?_numeral {ds : List Char} {t : String} (h : Numeral ds) (negatable : Bool)
    (hnumber : number? (ds ++ rest) = some (t, rest)) :
    operand? negatable (ds ++ rest) = some (.leaf (.number t), rest) := by
  obtain ⟨c, cs, rfl, hc⟩ := h.front
  have hother : c ≠ '(' ∧ c ≠ '+' ∧ c ≠ '-' ∧ c ≠ '"' := by
    refine ⟨?_, ?_, ?_, ?_⟩ <;> rintro rfl <;> exact absurd hc (by decide)
  have hname : isNameStart c = false := by
    rcases hc with hc | rfl
    · exact isNameStart_of_digit hc
    · decide
  rw [List.cons_append] at hnumber ⊢
  simp [operand?, hother, hname, hnumber]

theorem operand?_quotation {text : List Char} (h : Quotation text) (negatable : Bool)
    (rest : List Char) :
    operand? negatable (text ++ rest) = some (.leaf (.string (String.ofList text)), rest) := by
  cases h with
  | mk htail => simp [operand?, closeQuote_append htail]

theorem operand?_leaf {negatable : Bool} {a : Leaf} (hwell : a.WellFormed)
    (hplain : (Token.leaf a).Plain (.operand negatable)) (hrest : Apart rest) :
    operand? negatable (a.text.toList ++ rest) = some (.leaf a, rest) := by
  cases a with
  | number s =>
      have htaken := operand?_numeral hwell negatable (number?_append hwell hrest)
      rwa [String.ofList_toList] at htaken
  | string s =>
      have htaken := operand?_quotation hwell negatable rest
      rwa [String.ofList_toList] at htaken
  | name s =>
      have htaken := operand?_name hwell negatable (hrest.head (by decide))
      rw [String.ofList_toList] at htaken
      obtain ⟨hword, hnot⟩ := hplain
      simp only [List.mem_cons, List.not_mem_nil, or_false, not_or] at hword
      have hkeyword : (s = "not" && negatable) = false := by
        cases negatable with
        | false => simp
        | true => simp [hnot rfl]
      rwa [wordToken, if_neg hword.1, if_neg hword.2.1, if_neg hword.2.2, hkeyword] at htaken
  | true | false | none =>
      exact operand?_name (.mk rfl (List.all_eq_true.mp rfl)) negatable (hrest.head (by decide))

theorem operand?_text {negatable : Bool} {t : Token} (hallowed : Admitted (.operand negatable) t)
    (hwell : t.WellFormed) (hplain : t.Plain (.operand negatable)) (hrest : Apart rest) :
    operand? negatable (t.text.toList ++ rest) = some (t, rest) := by
  match t with
  | .leaf a => exact operand?_leaf hwell hplain hrest
  | .opening => rfl
  | .not =>
      obtain rfl : negatable = true := hallowed
      exact operand?_name (.mk rfl (List.all_eq_true.mp rfl)) true (hrest.head (by decide))
  | .op o => rcases hallowed with rfl | rfl <;> rfl

theorem operator?_eq_some {t : Token} (hallowed : Admitted .operator t)
    (hrest : ∀ c ∈ rest.head?, t.lengthenedBy c = false) :
    operator? (t.text.toList ++ rest) = some (t, rest) := by
  match t with
  | .closing => rfl
  | .op o =>
      cases o with
      | or | and | eq | ne | le | ge | add | sub | floorDiv | mod | pow => rfl
      | lt | gt | mul | div =>
          cases rest with
          | nil => rfl
          | cons c rest =>
              have hc := hrest c rfl
              simp only [Token.lengthenedBy, beq_eq_false_iff_ne] at hc
              simp [operator?, Token.text, BinaryOp.text, hc]

theorem operator?_text {t : Token} (hallowed : Admitted .operator t) (hrest : Apart rest) :
    operator? (t.text.toList ++ rest) = some (t, rest) := by
  have hblank : t.lengthenedBy ' ' = false := by
    unfold Token.lengthenedBy
    split <;> rfl
  exact operator?_eq_some hallowed (hrest.head hblank)

-- A token that may stand there is taken if nothing or a blank follows it.
theorem token?_text {expect : Expect} {t : Token} (hallowed : Admitted expect t)
    (hwell : t.WellFormed) (hplain : t.Plain expect) (hrest : Apart rest) :
    token? expect (t.text.toList ++ rest) = some (t, rest) := by
  cases expect with
  | operand negatable => exact operand?_text hallowed hwell hplain hrest
  | operator => exact operator?_text hallowed hrest

end Dialect.Expr
