import Dialect.Proofs.Expr.Lexing

namespace Dialect.Expr

-- No name is a keyword where it stands. The word `not` is a name where the grammar admits no
-- negation.
def Unmistaken (ts : List Token) : Prop :=
  ∀ before w after, ts = before ++ .leaf (.name w) :: after →
    w ∉ ["true", "false", "none"] ∧ (Admits before .not → w ≠ "not")

variable {ts : List Token} {t : Tree Leaf}

-- What the grammar says about names, told by what is expected where they stand.
theorem Derives.unmistaken_iff (h : Derives .disjunction ts t) :
    Unmistaken ts ↔ Along (fun expect a => a.Plain expect) (.operand true) ts := by
  rw [along_iff]
  constructor
  · rintro hnames before a after rfl
    match a with
    | .leaf (.name w) =>
        obtain ⟨hword, hnot⟩ := hnames before w after rfl
        exact ⟨hword, fun hexpect => hnot (h.admits_not_iff.mpr hexpect)⟩
    | .leaf (.number _) | .leaf (.string _) | .leaf .true | .leaf .false | .leaf .none
    | .opening | .closing | .not | .op _ => trivial
  · rintro hplain before w after rfl
    obtain ⟨hword, hnot⟩ := hplain before _ after rfl
    exact ⟨hword, fun hallowed => hnot (h.admits_not_iff.mp hallowed)⟩

-- Each token of an expression is taken where it stands.
theorem Derives.taken (h : Derives .disjunction ts t) (hwell : ∀ a ∈ ts, a.WellFormed)
    (hnames : Unmistaken ts) : Along Taken (.operand true) ts := by
  rw [along_iff]
  intro before a after hts behind hapart
  have hallowed := along_iff.mp h.placed before a after hts
  have hplain := along_iff.mp (h.unmistaken_iff.mp hnames) before a after hts
  exact token?_text hallowed (hwell a (by simp [hts])) hplain hapart

theorem steps_eq_ok_iff {s s' : State} {ls : List Lexeme} :
    steps s ls = .ok s' ↔ (ls.map (·.token)).foldlM step s = some s' := by
  induction ls generalizing s with
  | nil => simp [steps]
  | cons l ls ih =>
      rw [steps, List.map_cons, List.foldlM_cons]
      cases hstep : step s l.token with
      | none => simp
      | some s₁ => simpa using ih

theorem parse_eq_ok_iff {text : String} :
    parse text = .ok t ↔
      ∃ ls, lexemes text.toList = (ls, none) ∧ treeOf (ls.map (·.token)) = some t := by
  simp only [treeOf, Option.bind_eq_some_iff, ← steps_eq_ok_iff, parse]
  generalize lexemes text.toList = found
  obtain ⟨ls, stuck⟩ := found
  cases hsteps : steps (.wanting []) ls with
  | error column => simp [bind, Except.bind, hsteps]
  | ok s =>
      cases stuck with
      | some column => simp [bind, Except.bind]
      | none => cases hfinish : s.finish <;> simp [bind, Except.bind, hsteps, hfinish]

-- The texts of a tree are those that are scanned to tokens from which the grammar derives it.
theorem parse_eq_ok_iff_scans {text : String} :
    parse text = .ok t ↔
      ∃ ts, Scans [] (.operand true) text.toList ts ∧ Derives .disjunction ts t := by
  rw [parse_eq_ok_iff]
  constructor
  · rintro ⟨ls, hlexemes, htree⟩
    have hscans := exists_lexemes_iff.mp ⟨ls, hlexemes, rfl⟩
    exact ⟨ls.map (·.token), hscans, derives_iff_treeOf.mpr ⟨hscans.laid.2.2, htree⟩⟩
  · rintro ⟨ts, hscans, hderives⟩
    obtain ⟨ls, hlexemes, rfl⟩ := exists_lexemes_iff.mpr hscans
    exact ⟨ls, hlexemes, hderives.treeOf_eq⟩

-- The parser and the grammar agree: a text that is parsed is made of tokens from which the grammar
-- derives the tree and no other, and what the grammar derives is parsed when it is written with one
-- blank between any two tokens, unless a name is taken for a keyword.
theorem parse_recognizes :
    (∀ (text : String) (t : Tree Leaf), parse text = .ok t →
      ∃ ts, Laid ts text.toList ∧ (∀ a ∈ ts, a.WellFormed) ∧ Derives .disjunction ts t ∧
        ∀ t', Derives .disjunction ts t' → t' = t) ∧
    (∀ (ts : List Token) (t : Tree Leaf), Derives .disjunction ts t →
      (∀ a ∈ ts, a.WellFormed) → Unmistaken ts → parse (spaced ts) = .ok t) := by
  constructor
  · intro text t hparse
    obtain ⟨ls, hlexemes, htree⟩ := parse_eq_ok_iff.mp hparse
    obtain ⟨hlaid, hwell, hplaced⟩ := lexemes_laid hlexemes
    have hderives := derives_iff_treeOf.mpr ⟨hplaced, htree⟩
    exact ⟨ls.map (·.token), hlaid, hwell, hderives, fun t' ht' => hderives.unique ht'⟩
  · intro ts t hderives hwell hnames
    have htaken := hderives.taken hwell hnames
    obtain ⟨ls, hlexemes, hls⟩ := lexemes_spaced htaken
    exact parse_eq_ok_iff.mpr ⟨ls, hlexemes, hls ▸ hderives.treeOf_eq⟩

namespace Sample

-- The last `not` stands where no negation may start.
def denial : List Token :=
  [.not, .opening, .leaf (.name "x"), .op .eq, .op .sub, .leaf (.number "2"), .op .pow,
    .leaf (.name "not"), .closing]

def denied : Tree Leaf :=
  .unary .not (.binary .eq (.leaf (.name "x"))
    (.unary .neg (.binary .pow (.leaf (.number "2")) (.leaf (.name "not")))))

theorem denial_derives : Derives .disjunction denial denied :=
  derives_iff_treeOf.mpr ⟨by simp [denial, Placed, Along, Admitted, Token.after], rfl⟩

theorem denial_wellFormed : ∀ a ∈ denial, a.WellFormed := by
  have hdigits : AllDigits ['2'] := by
    simp only [AllDigits, List.mem_singleton, forall_eq]
    rfl
  have htwo : Numeral (['2'] ++ []) := .whole (by decide) hdigits .nil
  have hx : Name ['x'] := .mk rfl (by simp)
  have hnot : Name ['n', 'o', 't'] := .mk rfl (List.all_eq_true.mp rfl)
  simpa [denial, Token.WellFormed, Leaf.WellFormed] using ⟨hx, htwo, hnot⟩

theorem denial_unmistaken : Unmistaken denial := by
  rw [denial_derives.unmistaken_iff]
  simp [denial, Along, Token.Plain, Token.after]

-- Both halves at work; without a blank the second word is an operator and a name.
theorem parse_recognizes_denial :
    parse (spaced denial) = .ok denied ∧
      ∃ ts, Laid ts "x orx".toList ∧ (∀ a ∈ ts, a.WellFormed) ∧
        Derives .disjunction ts (.binary .or (.leaf (.name "x")) (.leaf (.name "x"))) ∧
        ∀ t', Derives .disjunction ts t' →
          t' = .binary .or (.leaf (.name "x")) (.leaf (.name "x")) :=
  ⟨parse_recognizes.2 denial denied denial_derives denial_wellFormed denial_unmistaken,
    parse_recognizes.1 "x orx" _ (by cbv)⟩

end Sample

end Dialect.Expr
