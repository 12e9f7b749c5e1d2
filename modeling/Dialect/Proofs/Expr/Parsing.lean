import Dialect.Proofs.Expr.Grammar

namespace Dialect.Expr

variable {ts : List Token} {t : Tree Leaf} {n k : Nat} {stack : List Pending} {s : State}

namespace BinaryOp

theorem level_le_leftLevel (o : BinaryOp) : o.level ≤ o.leftLevel := by
  cases o <;> decide

theorem leftLevel_le (o : BinaryOp) : o.leftLevel ≤ 8 := by
  cases o <;> decide

theorem leftLevel_ne_seven (o : BinaryOp) : o.leftLevel ≠ 7 := by
  cases o <;> decide

-- Only a power takes on its right what is below its own level, and then by one.
theorem le_rightLevel (o : BinaryOp) (hle : k ≤ o.level) (hne : k ≠ 7) : k ≤ o.rightLevel := by
  cases o <;> simp only [level, rightLevel] at hle ⊢ <;> omega

theorem rightLevel_le (o : BinaryOp) : o.rightLevel ≤ 6 := by
  cases o <;> decide

-- Where an operator has room to the right of another, it takes the operand away from it.
theorem level_lt_leftLevel {o p : BinaryOp} (h : p.rightLevel ≤ o.level) :
    p.level < o.leftLevel := by
  cases o <;> simp only [level, leftLevel] at h ⊢ <;> cases p <;> simp [level, rightLevel] at h ⊢

end BinaryOp

namespace UnaryOp

theorem level_le (op : UnaryOp) : op.level ≤ 6 := by
  cases op <;> decide

theorem level_lt_leftLevel {op : UnaryOp} {o : BinaryOp} (h : op.level ≤ o.level) :
    op.level < o.leftLevel := by
  cases o <;> simp only [BinaryOp.level, BinaryOp.leftLevel] at h ⊢ <;> cases op <;>
    simp [level] at h ⊢

end UnaryOp

theorem room_le (stack : List Pending) : room stack ≤ 6 := by
  match stack with
  | [] | .paren :: _ => exact Nat.zero_le 6
  | .unary op :: _ => exact op.level_le
  | .binary o _ :: _ => exact o.rightLevel_le

-- An operator that has room leaves what waits as it is.
theorem collapse_leftLevel {o : BinaryOp} (hroom : room stack ≤ o.level) (e : Tree Leaf) :
    collapse o.leftLevel stack e = (stack, e) := by
  match stack with
  | [] | .paren :: _ => rfl
  | .unary op :: _ =>
      have hlt : op.level < o.leftLevel := UnaryOp.level_lt_leftLevel hroom
      simp only [collapse, ge_iff_le, if_neg (Nat.not_le.mpr hlt)]
  | .binary p _ :: _ =>
      have hlt : p.level < o.leftLevel := BinaryOp.level_lt_leftLevel hroom
      simp only [collapse, ge_iff_le, if_neg (Nat.not_le.mpr hlt)]

theorem step_token (op : UnaryOp) (stack : List Pending) :
    step (.wanting stack) op.token = some (.wanting (.unary op :: stack)) := by
  cases op <;> rfl

-- Reading a phrase at level `n` with the tree `t` leaves this: whoever completes what waits, from a
-- level up to `n`, finds the whole phrase. The level 7 is left out, as a power on the right of a
-- power waits there; no operator completes from it.
def HoldsPhrase (n : Nat) (stack : List Pending) (t : Tree Leaf) : State → Prop
  | .holding stack' e => ∀ k ≤ n, k ≠ 7 → collapse k stack' e = collapse k stack t
  | .wanting _ => False

theorem HoldsPhrase.mono {m : Nat} (hle : m ≤ n) (h : HoldsPhrase n stack t s) :
    HoldsPhrase m stack t s := by
  cases s with
  | wanting _ => exact h
  | holding stack' e =>
      intro k hk hne
      exact h k (Nat.le_trans hk hle) hne

-- An operator that has room completes a phrase at its left level, and nothing beyond it.
theorem HoldsPhrase.step_op {o : BinaryOp} (h : HoldsPhrase o.leftLevel stack t s)
    (hroom : room stack ≤ o.level) : step s (.op o) = some (.wanting (.binary o t :: stack)) := by
  cases s with
  | wanting _ => exact h.elim
  | holding stack' e =>
      have hall := h _ (Nat.le_refl _) o.leftLevel_ne_seven
      rw [collapse_leftLevel hroom] at hall
      simp only [step, hall, ge_iff_le, if_pos hroom]

theorem HoldsPhrase.step_closing (h : HoldsPhrase 0 (.paren :: stack) t s) :
    step s .closing = some (.holding stack t) := by
  cases s with
  | wanting _ => exact h.elim
  | holding stack' e =>
      have hall : collapse 0 stack' e = (.paren :: stack, t) := h 0 (Nat.le_refl 0) (by decide)
      simp only [step, hall]

theorem HoldsPhrase.finish (h : HoldsPhrase 0 [] t s) : s.finish = some t := by
  cases s with
  | wanting _ => exact h.elim
  | holding stack' e =>
      have hall : collapse 0 stack' e = ([], t) := h 0 (Nat.le_refl 0) (by decide)
      simp only [State.finish, hall]

theorem HoldsPhrase.of_unary {op : UnaryOp} (h : HoldsPhrase op.level (.unary op :: stack) t s) :
    HoldsPhrase op.level stack (.unary op t) s := by
  cases s with
  | wanting _ => exact h
  | holding stack' e =>
      intro k hk hne
      rw [h k hk hne, collapse, if_pos hk]

theorem HoldsPhrase.of_binary {o : BinaryOp} {l r : Tree Leaf}
    (h : HoldsPhrase o.rightLevel (.binary o l :: stack) r s) :
    HoldsPhrase o.level stack (.binary o l r) s := by
  cases s with
  | wanting _ => exact h
  | holding stack' e =>
      intro k hk hne
      rw [h k (o.le_rightLevel hk hne) hne, collapse, if_pos hk]

-- From a state that has room for a phrase, the parser goes through its tokens and ends up with what
-- collapses to its tree. The induction is on the phrase, for every stack that has room for it.
theorem Phrase.foldlM_step (h : Phrase n ts t) (stack : List Pending) (hroom : room stack ≤ n) :
    ∃ s, ts.foldlM step (.wanting stack) = some s ∧ HoldsPhrase n stack t s := by
  induction h generalizing stack with
  | leaf a =>
      exact ⟨.holding stack (.leaf a), rfl, fun _ _ _ => rfl⟩
  | @paren _ t _ ih =>
      obtain ⟨s, hrun, hs⟩ := ih (.paren :: stack) (Nat.le_refl 0)
      have hopen : step (.wanting stack) .opening = some (.wanting (.paren :: stack)) := rfl
      refine ⟨.holding stack t, ?_, fun _ _ _ => rfl⟩
      simp only [List.cons_append, List.foldlM_cons, List.foldlM_append, List.foldlM_nil, hopen,
        Option.bind_eq_bind, Option.bind_some, hrun, hs.step_closing, Option.pure_def]
  | unary op _ ih =>
      obtain ⟨s, hrun, hs⟩ := ih (.unary op :: stack) (Nat.le_refl _)
      refine ⟨s, ?_, hs.of_unary⟩
      simp only [List.foldlM_cons, step_token, Option.bind_eq_bind, Option.bind_some, hrun]
  | @binary _ _ l _ o _ _ ihl ihr =>
      obtain ⟨s₁, hrun₁, hs₁⟩ := ihl stack (Nat.le_trans hroom o.level_le_leftLevel)
      obtain ⟨s₂, hrun₂, hs₂⟩ := ihr (.binary o l :: stack) (Nat.le_refl _)
      refine ⟨s₂, ?_, hs₂.of_binary⟩
      simp only [List.foldlM_append, List.foldlM_cons, hrun₁, hs₁.step_op hroom,
        Option.bind_eq_bind, Option.bind_some, hrun₂]
  | lift _ ih =>
      obtain ⟨s, hrun, hs⟩ := ih stack (Nat.le_succ_of_le hroom)
      exact ⟨s, hrun, hs.mono (Nat.le_succ _)⟩

-- The tree that the parser builds from tokens.
def treeOf (ts : List Token) : Option (Tree Leaf) :=
  (ts.foldlM step (.wanting [])).bind State.finish

theorem Derives.treeOf_eq (h : Derives .disjunction ts t) : treeOf ts = some t := by
  obtain ⟨s, hrun, hs⟩ := h.phrase.foldlM_step [] (Nat.le_refl 0)
  simp only [treeOf, hrun, Option.bind_some, hs.finish]

-- The grammar is unambiguous, as the parser has one answer.
theorem Derives.unique {t' : Tree Leaf} (h : Derives .disjunction ts t)
    (h' : Derives .disjunction ts t') : t' = t := by
  have heq : some t' = some t := h'.treeOf_eq.symm.trans h.treeOf_eq
  exact Option.some.inj heq

end Dialect.Expr
