import Dialect.Proofs.Expr.Locality

namespace Dialect.Expr

-- The text is these tokens, with only blanks around and between them.
inductive Laid : List Token → List Char → Prop
  | nil {blanks} : (∀ c ∈ blanks, isSpace c = true) → Laid [] blanks
  | cons {blanks t ts cs} : (∀ c ∈ blanks, isSpace c = true) → Laid ts cs →
      Laid (t :: ts) (blanks ++ (t.text.toList ++ cs))

-- The text of tokens with one blank between any two.
def spaced (ts : List Token) : String := " ".intercalate (ts.map Token.text)

-- `Scans rest expect cs ts`: in front of `rest`, the text `cs` is the tokens `ts` and blanks, and
-- each token is what is taken from the front of all that is left.
inductive Scans (rest : List Char) : Expect → List Char → List Token → Prop
  | nil {expect blanks} : (∀ c ∈ blanks, isSpace c = true) → Scans rest expect blanks []
  | cons {expect blanks t cs ts} : (∀ c ∈ blanks, isSpace c = true) →
      token? expect (t.text.toList ++ (cs ++ rest)) = some (t, cs ++ rest) →
      Scans rest t.after cs ts → Scans rest expect (blanks ++ (t.text.toList ++ cs)) (t :: ts)

variable {ts us : List Token} {t : Token} {cs ds rest w z z' : List Char} {expect : Expect}

-- No token starts with a blank.
theorem token?_blank {c : Char} (hc : isSpace c = true) (expect : Expect) (cs : List Char) :
    token? expect (c :: cs) = none := by
  simp only [isSpace, Bool.or_eq_true, beq_iff_eq] at hc
  rcases hc with (((rfl | rfl) | rfl) | rfl) | rfl <;> cases expect <;> rfl

theorem token?_nil (expect : Expect) : token? expect [] = none := by
  cases expect <;> rfl

theorem Numeral.ne_nil (h : Numeral cs) : cs ≠ [] := by
  cases h with
  | whole hne _ _ => simp [hne]
  | point _ _ _ _ => simp

theorem Token.WellFormed.ne_nil (h : t.WellFormed) : t.text.toList ≠ [] := by
  match t with
  | .leaf (.number s) => exact Numeral.ne_nil h
  | .leaf (.string s) =>
      intro hnil
      have hquote : Quotation [] := hnil ▸ h
      cases hquote
  | .leaf (.name s) =>
      intro hnil
      have hname : Name [] := hnil ▸ h
      cases hname
  | .leaf .true | .leaf .false | .leaf .none | .opening | .closing | .not => decide
  | .op o => cases o <;> decide

namespace Scans

theorem laid (h : Scans rest expect cs ts) :
    Laid ts cs ∧ (∀ t ∈ ts, t.WellFormed) ∧ Placed expect ts := by
  induction h with
  | nil hblanks => exact ⟨.nil hblanks, by simp, trivial⟩
  | cons hblanks htoken _ ih =>
      obtain ⟨hlaid, hwell, hplaced⟩ := ih
      have hfronts := token?_fronts htoken
      exact ⟨.cons hblanks hlaid, List.forall_mem_cons.mpr ⟨hfronts.wellFormed, hwell⟩,
        hfronts.admitted, hplaced⟩

-- What follows may be cut off anywhere.
theorem replace (h : Scans (w ++ z) expect cs ts) (hz : Parted z') :
    Scans (w ++ z') expect cs ts := by
  induction h with
  | nil hblanks => exact .nil hblanks
  | @cons expect _ t cs _ hblanks htoken _ ih =>
      have hcut : token? expect (t.text.toList ++ (cs ++ (w ++ z))) = some (t, cs ++ w ++ z) := by
        rw [htoken, List.append_assoc]
      have htaken := token?_replace hcut hz
      rw [List.append_assoc] at htaken
      exact .cons hblanks htaken ih

theorem behind (blanks : List Char) (hblanks : ∀ c ∈ blanks, isSpace c = true)
    (h : Scans rest expect cs ts) : Scans rest expect (blanks ++ cs) ts := by
  have hmore : ∀ {more : List Char}, (∀ c ∈ more, isSpace c = true) →
      ∀ c ∈ blanks ++ more, isSpace c = true := by
    intro more hmore c hc
    exact (List.mem_append.mp hc).elim (hblanks c) (hmore c)
  cases h with
  | nil hcs => exact .nil (hmore hcs)
  | cons hcs htoken hrest =>
      rw [← List.append_assoc]
      exact .cons (hmore hcs) htoken hrest

theorem append (h : Scans (ds ++ rest) expect cs ts) (h' : Scans rest (expected expect ts) ds us) :
    Scans rest expect (cs ++ ds) (ts ++ us) := by
  induction h with
  | nil hblanks => exact h'.behind _ hblanks
  | cons hblanks htoken _ ih =>
      rw [List.append_assoc, List.append_assoc]
      refine .cons hblanks ?_ (ih h')
      rwa [List.append_assoc]

theorem token (h : token? expect (t.text.toList ++ (cs ++ rest)) = some (t, cs ++ rest))
    (hmore : Scans rest t.after cs ts) : Scans rest expect (t.text.toList ++ cs) (t :: ts) :=
  @Scans.cons rest expect [] t cs ts (by simp) h hmore

theorem single (h : token? expect (t.text.toList ++ rest) = some (t, rest)) :
    Scans rest expect t.text.toList [t] := by
  have hnil : Scans rest t.after [] [] := .nil (by simp)
  have hone := Scans.token h hnil
  rwa [List.append_nil] at hone

end Scans

theorem scan_space {c : Char} (hc : isSpace c = true) (fuel : Nat) (expect : Expect) (column : Nat)
    (cs : List Char) :
    scan fuel expect column (c :: cs) =
      scan fuel expect (if c = '\n' then 1 else column + 1) cs := by
  cases fuel with
  | zero => rfl
  | succ fuel => simp only [scan, skipSpace, hc, if_true]

-- Blanks only move the column.
theorem scan_blanks {blanks : List Char} (hblanks : ∀ c ∈ blanks, isSpace c = true) (fuel : Nat)
    (expect : Expect) (column : Nat) (cs : List Char) :
    ∃ column', scan fuel expect column (blanks ++ cs) = scan fuel expect column' cs ∧
      ('\n' ∉ blanks → column' = column + blanks.length) := by
  induction blanks generalizing column with
  | nil => exact ⟨column, rfl, fun _ => rfl⟩
  | cons c blanks ih =>
      obtain ⟨hc, hblanks⟩ := List.forall_mem_cons.mp hblanks
      obtain ⟨column', hscan, hcolumn⟩ := ih hblanks (if c = '\n' then 1 else column + 1)
      refine ⟨column', (scan_space hc fuel expect column _).trans hscan, fun hline => ?_⟩
      rw [List.mem_cons, not_or] at hline
      rw [hcolumn hline.2, if_neg (Ne.symm hline.1), List.length_cons]
      omega

theorem head_of_token? {found : Token × List Char} (h : token? expect cs = some found) :
    ∀ c ∈ cs.head?, isSpace c = false := by
  intro c hc
  obtain ⟨cs', rfl⟩ := List.head?_eq_some_iff.mp hc
  cases hspace : isSpace c with
  | false => rfl
  | true =>
      rw [token?_blank hspace] at h
      cases h

theorem scan_token {after : List Char} (h : token? expect cs = some (t, after))
    (fuel column : Nat) :
    scan (fuel + 1) expect column cs =
      (⟨t, column⟩ :: (scan fuel t.after (column + (cs.length - after.length)) after).1,
        (scan fuel t.after (column + (cs.length - after.length)) after).2) := by
  cases cs with
  | nil =>
      rw [token?_nil] at h
      cases h
  | cons c cs =>
      have hc := head_of_token? h c rfl
      simp only [scan, skipSpace, hc, Bool.false_eq_true, if_false, h]

-- Where no blank is in front, the tokenizer is at the end, stops at what is no token, or takes one.
theorem scan_cases (hhead : ∀ c ∈ cs.head?, isSpace c = false) (fuel : Nat) (expect : Expect)
    (column : Nat) :
    (cs = [] ∧ scan (fuel + 1) expect column cs = ([], none)) ∨
    (cs ≠ [] ∧ token? expect cs = none ∧ scan (fuel + 1) expect column cs = ([], some column)) ∨
    ∃ t after, token? expect cs = some (t, after) ∧ scan (fuel + 1) expect column cs =
      (⟨t, column⟩ :: (scan fuel t.after (column + (cs.length - after.length)) after).1,
        (scan fuel t.after (column + (cs.length - after.length)) after).2) := by
  cases cs with
  | nil => exact .inl ⟨rfl, rfl⟩
  | cons c cs =>
      have hc := hhead c rfl
      cases htoken : token? expect (c :: cs) with
      | none =>
          refine .inr (.inl ⟨List.cons_ne_nil c cs, rfl, ?_⟩)
          simp only [scan, skipSpace, hc, Bool.false_eq_true, if_false, htoken]
      | some found =>
          obtain ⟨t, after⟩ := found
          exact .inr (.inr ⟨t, after, rfl, scan_token htoken fuel column⟩)

-- The tokenizer goes through a scanned text and then on. The induction is on the scan: each token
-- takes one of the fuel and at least one character.
theorem Scans.scan_eq (h : Scans rest expect cs ts) {fuel : Nat}
    (hfuel : (cs ++ rest).length < fuel) (column : Nat) :
    ∃ ls fuel' column', ls.map (·.token) = ts ∧ rest.length < fuel' ∧
      scan fuel expect column (cs ++ rest) =
        (ls ++ (scan fuel' (expected expect ts) column' rest).1,
          (scan fuel' (expected expect ts) column' rest).2) := by
  induction h generalizing fuel column with
  | @nil expect blanks hblanks =>
      obtain ⟨column', hscan, -⟩ := scan_blanks hblanks fuel expect column rest
      refine ⟨[], fuel, column', rfl, ?_, hscan⟩
      rw [List.length_append] at hfuel
      omega
  | @cons expect blanks t cs ts hblanks htoken _ ih =>
      obtain ⟨column₁, hscan, -⟩ := scan_blanks hblanks fuel expect column
        (t.text.toList ++ (cs ++ rest))
      obtain ⟨fuel, rfl⟩ : ∃ f, fuel = f + 1 := ⟨fuel - 1, by omega⟩
      have hlength : (cs ++ rest).length < fuel := by
        have hpos := List.length_pos_iff.mpr (token?_fronts htoken).wellFormed.ne_nil
        simp only [List.length_append] at hfuel ⊢
        omega
      rw [scan_token htoken] at hscan
      obtain ⟨ls, fuel', column', hls, hfuel', hrest⟩ := ih hlength
        (column₁ + ((t.text.toList ++ (cs ++ rest)).length - (cs ++ rest).length))
      rw [hrest] at hscan
      refine ⟨⟨t, column₁⟩ :: ls, fuel', column', by rw [List.map_cons, hls], hfuel', ?_⟩
      rw [List.append_assoc, List.append_assoc]
      exact hscan

-- The tokenizer starts with the blanks that are in front.
theorem scan_skip (fuel : Nat) (expect : Expect) (column : Nat) (cs : List Char) :
    ∃ blanks rest column', cs = blanks ++ rest ∧ (∀ c ∈ blanks, isSpace c = true) ∧
      (∀ c ∈ rest.head?, isSpace c = false) ∧
      ('\n' ∉ blanks → column' = column + blanks.length) ∧
      scan fuel expect column cs = scan fuel expect column' rest := by
  have hskip : cs.takeWhile isSpace ++ cs.dropWhile isSpace = cs :=
    List.takeWhile_append_dropWhile
  have hblanks : ∀ c ∈ cs.takeWhile isSpace, isSpace c = true :=
    List.all_eq_true.mp List.all_takeWhile
  obtain ⟨column', hscan, hcolumn⟩ :=
    scan_blanks hblanks fuel expect column (cs.dropWhile isSpace)
  rw [hskip] at hscan
  exact ⟨_, _, column', hskip.symm, hblanks, head_dropWhile isSpace cs, hcolumn, hscan⟩

-- At each point of its way the tokenizer has scanned what is in front and has the rest before it.
-- On one line the column tells how much is in front. The induction is on the tokens so far.
theorem scans_of_scan {before after : List Lexeme} {stuck : Option Nat} {fuel column : Nat}
    (hfuel : cs.length < fuel) (h : scan fuel expect column cs = (before ++ after, stuck)) :
    ∃ front rest fuel' column', cs = front ++ rest ∧
      Scans rest expect front (before.map (·.token)) ∧
      (∀ c ∈ rest.head?, isSpace c = false) ∧
      ('\n' ∉ front → column' = column + front.length) ∧
      scan (fuel' + 1) (expected expect (before.map (·.token))) column' rest = (after, stuck) := by
  induction before generalizing expect cs fuel column with
  | nil =>
      obtain ⟨fuel, rfl⟩ : ∃ f, fuel = f + 1 := ⟨fuel - 1, by omega⟩
      obtain ⟨blanks, rest, column', hcs, hblanks, hhead, hcolumn, hscan⟩ :=
        scan_skip (fuel + 1) expect column cs
      exact ⟨blanks, rest, fuel, column', hcs, .nil hblanks, hhead, hcolumn, hscan.symm.trans h⟩
  | cons l before ih =>
      obtain ⟨fuel, rfl⟩ : ∃ f, fuel = f + 1 := ⟨fuel - 1, by omega⟩
      obtain ⟨blanks, rest, column₁, rfl, hblanks, hhead, hcolumn, hscan⟩ :=
        scan_skip (fuel + 1) expect column cs
      rw [h] at hscan
      rcases scan_cases hhead fuel expect column₁ with ⟨-, hend⟩ | ⟨-, -, hstop⟩ |
        ⟨t, more, htoken, htaken⟩
      · cases hscan.trans hend
      · cases hscan.trans hstop
      · have hfronts := token?_fronts htoken
        obtain rfl := hfronts.split
        have hpos := List.length_pos_iff.mpr hfronts.wellFormed.ne_nil
        have hlength : more.length < fuel := by
          simp only [List.length_append] at hfuel
          omega
        obtain ⟨hcons, hstuck⟩ := Prod.mk.inj (hscan.trans htaken)
        obtain ⟨rfl, hmore⟩ := List.cons.inj hcons
        obtain ⟨front, rest, fuel', column', rfl, hscans, hhead', hcolumn', hrest⟩ :=
          ih hlength (Prod.ext hmore.symm hstuck.symm)
        refine ⟨blanks ++ (t.text.toList ++ front), rest, fuel', column', by simp,
          .cons hblanks htoken hscans, hhead', fun hline => ?_, hrest⟩
        simp only [List.mem_append, not_or] at hline
        rw [hcolumn' hline.2.2, hcolumn hline.1]
        simp only [List.length_append]
        omega

-- The tokens of a text that is split without a stop are those that are scanned.
theorem exists_lexemes_iff :
    (∃ ls, lexemes cs = (ls, none) ∧ ls.map (·.token) = ts) ↔ Scans [] (.operand true) cs ts := by
  constructor
  · rintro ⟨ls, hls, rfl⟩
    have hscan : scan (cs.length + 1) (.operand true) 1 cs = (ls ++ [], none) := by
      rwa [List.append_nil]
    obtain ⟨front, rest, fuel, column, rfl, hscans, hhead, -, hrest⟩ :=
      scans_of_scan (Nat.lt_succ_self _) hscan
    rcases scan_cases hhead fuel (expected (.operand true) (ls.map (·.token))) column with
      ⟨rfl, -⟩ | ⟨-, -, hstop⟩ | ⟨t, more, -, htaken⟩
    · rwa [List.append_nil]
    · cases hrest.symm.trans hstop
    · cases hrest.symm.trans htaken
  · intro h
    obtain ⟨ls, fuel, column, hls, hfuel, hscan⟩ :=
      h.scan_eq (Nat.lt_succ_self (cs ++ []).length) 1
    obtain ⟨fuel, rfl⟩ : ∃ f, fuel = f + 1 := ⟨fuel - 1, by simp at hfuel; omega⟩
    refine ⟨ls, ?_, hls⟩
    rw [List.append_nil] at hscan
    simpa [lexemes, scan, skipSpace] using hscan

-- A text that is split without a stop consists of the tokens it is split into.
theorem lexemes_laid {ls : List Lexeme} (h : lexemes cs = (ls, none)) :
    Laid (ls.map (·.token)) cs ∧ (∀ t ∈ ls.map (·.token), t.WellFormed) ∧
      Placed (.operand true) (ls.map (·.token)) :=
  (exists_lexemes_iff.mp ⟨ls, h, rfl⟩).laid

-- A token is taken from the front of a text if a blank or nothing follows it.
def Taken (expect : Expect) (t : Token) : Prop :=
  ∀ rest, Apart rest → token? expect (t.text.toList ++ rest) = some (t, rest)

-- The text of tokens with a blank in front of each.
def behindBlanks : List Token → List Char
  | [] => []
  | t :: ts => ' ' :: (t.text.toList ++ behindBlanks ts)

theorem apart_behindBlanks (ts : List Token) : Apart (behindBlanks ts) := by
  cases ts with
  | nil => trivial
  | cons t ts => rfl

theorem toList_spaced (t : Token) (ts : List Token) :
    (spaced (t :: ts)).toList = t.text.toList ++ behindBlanks ts := by
  induction ts generalizing t with
  | nil => simp [spaced, behindBlanks]
  | cons u ts ih =>
      have hrest := ih u
      simp only [spaced, List.map_cons] at hrest ⊢
      rw [String.intercalate_cons_cons, String.toList_append, hrest]
      simp [behindBlanks]

theorem scans_behindBlanks (h : Along Taken expect ts) :
    Scans [] expect (behindBlanks ts) ts := by
  induction ts generalizing expect with
  | nil => exact .nil (by simp [behindBlanks])
  | cons t ts ih =>
      obtain ⟨htaken, hmore⟩ := h
      have htoken := htaken (behindBlanks ts) (apart_behindBlanks ts)
      have hall : Scans [] expect (t.text.toList ++ behindBlanks ts) (t :: ts) :=
        .token (by rwa [List.append_nil]) (ih hmore)
      exact hall.behind [' '] (by simp [isSpace])

-- Tokens that are written with one blank between any two are found again.
theorem lexemes_spaced (h : Along Taken (.operand true) ts) :
    ∃ ls, lexemes (spaced ts).toList = (ls, none) ∧ ls.map (·.token) = ts := by
  cases ts with
  | nil => exact ⟨[], by simp [spaced, lexemes, scan, skipSpace], rfl⟩
  | cons t ts =>
      obtain ⟨htaken, hmore⟩ := h
      have htoken := htaken (behindBlanks ts) (apart_behindBlanks ts)
      rw [toList_spaced]
      exact exists_lexemes_iff.mpr
        (.token (by rwa [List.append_nil]) (scans_behindBlanks hmore))

end Dialect.Expr
