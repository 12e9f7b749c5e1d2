import Dialect.Proofs.Expr.Recognition

namespace Dialect.Expr

namespace Tree

variable {α β : Type}

def map (f : α → β) : Tree α → Tree β
  | leaf a => leaf (f a)
  | unary op t => unary op (t.map f)
  | binary op l r => binary op (l.map f) (r.map f)

-- The level at which a tree is an operand.
def level : Tree α → Nat
  | leaf _ => 8
  | unary op _ => op.level
  | binary o _ _ => o.level

-- Tokens in parentheses if the tree they stand for is not at the level that is wanted.
def enclose (wanted own : Nat) (ts : List Token) : List Token :=
  if own < wanted then .opening :: ts ++ [.closing] else ts

-- The tokens of a tree where a level of at least `n` is wanted, with parentheses only around trees
-- of a lower level.
def tokensAt (wanted : Nat) : Tree Leaf → List Token
  | leaf a => enclose wanted 8 [.leaf a]
  | unary op t => enclose wanted op.level (op.token :: t.tokensAt op.level)
  | binary o l r =>
    enclose wanted o.level (l.tokensAt o.leftLevel ++ .op o :: r.tokensAt o.rightLevel)

-- The tree as an expression of its own.
def tokens (t : Tree Leaf) : List Token := t.tokensAt 0

end Tree

variable {n own : Nat} {ts us : List Token} {t : Tree Leaf}

theorem Phrase.enclose (h : Phrase own ts t) (hn : n ≤ 8) : Phrase n (Tree.enclose n own ts) t := by
  unfold Tree.enclose
  split
  · exact (Phrase.paren (h.mono (Nat.zero_le own))).mono hn
  · rename_i hlevel
    exact h.mono (Nat.not_lt.mp hlevel)

theorem phrase_tokensAt (t : Tree Leaf) (hn : n ≤ 8) : Phrase n (t.tokensAt n) t := by
  induction t generalizing n with
  | leaf a => exact (Phrase.leaf a).enclose hn
  | unary op t ih =>
      have hlevel : op.level ≤ 8 := Nat.le_trans op.level_le (by decide)
      exact (Phrase.unary op (ih hlevel)).enclose hn
  | binary o l r ihl ihr =>
      have hright : o.rightLevel ≤ 8 := Nat.le_trans o.rightLevel_le (by decide)
      exact (Phrase.binary o (ihl o.leftLevel_le) (ihr hright)).enclose hn

theorem derives_tokens (t : Tree Leaf) : Derives .disjunction t.tokens t :=
  derives_iff_phrase.mpr (phrase_tokensAt t (Nat.zero_le 8))

-- A tree is written at two levels with the same tokens, but perhaps for parentheses.
theorem exists_tokensAt_eq (t : Tree Leaf) :
    ∃ us, ∀ n, t.tokensAt n = Tree.enclose n t.level us := by
  cases t with
  | leaf a => exact ⟨_, fun _ => rfl⟩
  | unary op t => exact ⟨_, fun _ => rfl⟩
  | binary o l r => exact ⟨_, fun _ => rfl⟩

theorem length_enclose (n own : Nat) (us : List Token) :
    (Tree.enclose n own us).length = us.length + if own < n then 2 else 0 := by
  unfold Tree.enclose
  split
  · simp
  · rfl

-- No tokens from which the grammar derives the tree are fewer than those that are written. The
-- induction is on the derivation: where it has parentheses, the writing has at most as many.
theorem Phrase.length_tokensAt_le (h : Phrase n us t) : (t.tokensAt n).length ≤ us.length := by
  induction h with
  | leaf a => exact Nat.le_refl 1
  | @paren us t _ ih =>
      obtain ⟨ts, hts⟩ := exists_tokensAt_eq t
      rw [hts, length_enclose] at ih ⊢
      simp only [Nat.not_lt_zero, if_false, Nat.add_zero] at ih
      simp only [List.cons_append, List.length_cons, List.length_append, List.length_nil]
      split <;> omega
  | unary op _ ih =>
      rw [Tree.tokensAt, length_enclose, if_neg (Nat.lt_irrefl _)]
      simpa using ih
  | binary o _ _ ihl ihr =>
      rw [Tree.tokensAt, length_enclose, if_neg (Nat.lt_irrefl _)]
      simp only [List.length_append, List.length_cons]
      omega
  | @lift n us t _ ih =>
      obtain ⟨ts, hts⟩ := exists_tokensAt_eq t
      rw [hts, length_enclose] at ih ⊢
      split at ih <;> split <;> omega

-- The tokens of a tree are its leaves, operators and parentheses.
theorem mem_tokensAt {a : Token} (h : a ∈ t.tokensAt n) :
    (∃ l ∈ t.leaves, a = .leaf l) ∨ ∀ l, a ≠ .leaf l := by
  have henclose : ∀ {m own : Nat} {ts : List Token}, a ∈ Tree.enclose m own ts →
      a ∈ ts ∨ ∀ l, a ≠ .leaf l := by
    intro m own ts ha
    unfold Tree.enclose at ha
    split at ha
    · simp only [List.cons_append, List.mem_cons, List.mem_append, List.not_mem_nil,
        or_false] at ha
      rcases ha with rfl | ha | rfl
      · exact .inr fun _ => Token.noConfusion
      · exact .inl ha
      · exact .inr fun _ => Token.noConfusion
    · exact .inl ha
  induction t generalizing n with
  | leaf l =>
      rcases henclose h with ha | ha
      · exact .inl ⟨l, by simp [Tree.leaves], by simpa using ha⟩
      · exact .inr ha
  | unary op t ih =>
      rcases henclose h with ha | ha
      · rcases List.mem_cons.mp ha with rfl | ha
        · cases op <;> exact .inr fun _ => Token.noConfusion
        · exact ih ha
      · exact .inr ha
  | binary o l r ihl ihr =>
      rcases henclose h with ha | ha
      · rw [List.mem_append, List.mem_cons] at ha
        simp only [Tree.leaves, List.mem_append]
        rcases ha with ha | rfl | ha
        · rcases ihl ha with ⟨a, hmem, rfl⟩ | hnone
          · exact .inl ⟨a, .inl hmem, rfl⟩
          · exact .inr hnone
        · exact .inr fun _ => Token.noConfusion
        · rcases ihr ha with ⟨a, hmem, rfl⟩ | hnone
          · exact .inl ⟨a, .inr hmem, rfl⟩
          · exact .inr hnone
      · exact .inr ha

-- What is written is parsed, if every number, quoted text and name in it is one and no name is a
-- keyword anywhere.
theorem parse_tokens (hwell : ∀ l ∈ t.leaves, l.WellFormed)
    (hnames : ∀ w, .name w ∈ t.leaves → w ∉ ["true", "false", "none", "not"]) :
    parse (spaced t.tokens) = .ok t := by
  have hderives := derives_tokens t
  have htokens : ∀ a ∈ t.tokens, a.WellFormed := by
    intro a ha
    rcases mem_tokensAt ha with ⟨l, hl, rfl⟩ | hnone
    · exact hwell l hl
    · match a with
      | .leaf l => exact absurd rfl (hnone l)
      | .opening | .closing | .not | .op _ => trivial
  have hunmistaken : Unmistaken t.tokens := by
    intro before w after heq
    have hmem : .leaf (.name w) ∈ t.tokens := by simp [heq]
    rcases mem_tokensAt hmem with ⟨l, hl, hleaf⟩ | hnone
    · cases hleaf
      have hw := hnames w hl
      simp only [List.mem_cons, List.not_mem_nil, or_false, not_or] at hw ⊢
      exact ⟨⟨hw.1, hw.2.1, hw.2.2.1⟩, fun _ => hw.2.2.2⟩
    · exact absurd rfl (hnone _)
  obtain ⟨ls, hlexemes, hls⟩ := lexemes_spaced (hderives.taken htokens hunmistaken)
  exact parse_eq_ok_iff.mpr ⟨ls, hlexemes, hls ▸ hderives.treeOf_eq⟩

end Dialect.Expr
