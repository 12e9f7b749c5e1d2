import Dialect.Proofs.Expr.Parsing

namespace Dialect.Expr

-- The tokens that may stand where this is expected.
def Admitted : Expect → Token → Prop
  | .operand _, .leaf _ => True
  | .operand _, .opening => True
  | .operand negatable, .not => negatable = true
  | .operand _, .op o => o = .add ∨ o = .sub
  | .operator, .op _ => True
  | .operator, .closing => True
  | _, _ => False

-- A property of each token together with what is expected where it stands.
def Along (p : Expect → Token → Prop) : Expect → List Token → Prop
  | _, [] => True
  | expect, t :: ts => p expect t ∧ Along p t.after ts

-- Each token stands where the one before it lets it stand.
def Placed : Expect → List Token → Prop := Along Admitted

-- What is expected behind tokens.
def expected (expect : Expect) (ts : List Token) : Expect := ts.foldl (fun _ t => t.after) expect

-- `Waits stack ps`: the tokens `ps` have been read, and what they have left waiting is `stack`.
-- Each entry stands where the one before it has room for its level.
inductive Waits : List Pending → List Token → Prop
  | nil : Waits [] []
  | paren {stack ps} : Waits stack ps → Waits (.paren :: stack) (ps ++ [.opening])
  | unary {stack ps op} : Waits stack ps → room stack ≤ op.level →
      Waits (.unary op :: stack) (ps ++ [op.token])
  | binary {stack ps o ls l} : Waits stack ps → room stack ≤ o.level → Phrase o.leftLevel ls l →
      Waits (.binary o l :: stack) (ps ++ (ls ++ [.op o]))

-- `Reads expect s ts`: after the tokens `ts` the parser is in the state `s`, and what may come next
-- is `expect`. Where a negation may start there is room for one.
inductive Reads : Expect → State → List Token → Prop
  | wanting {negatable stack ps} : Waits stack ps → (negatable = true → room stack ≤ 2) →
      Reads (.operand negatable) (.wanting stack) ps
  | holding {stack ps ts e} : Waits stack ps → Phrase 8 ts e →
      Reads .operator (.holding stack e) (ps ++ ts)

variable {ts ps : List Token} {t e : Tree Leaf} {n k : Nat} {stack : List Pending} {s s' : State}

theorem along_append {p : Expect → Token → Prop} {expect : Expect} {ts rs : List Token} :
    Along p expect (ts ++ rs) ↔ Along p expect ts ∧ Along p (expected expect ts) rs := by
  induction ts generalizing expect with
  | nil => simp [Along, expected]
  | cons t ts ih =>
      simp only [List.cons_append, Along, expected, List.foldl_cons, and_assoc]
      exact and_congr_right fun _ => ih

theorem along_iff {p : Expect → Token → Prop} {expect : Expect} {ts : List Token} :
    Along p expect ts ↔
      ∀ before t after, ts = before ++ t :: after → p (expected expect before) t := by
  constructor
  · rintro h before t after rfl
    exact (along_append.mp h).2.1
  · intro h
    induction ts generalizing expect with
    | nil => trivial
    | cons t ts ih =>
        refine ⟨h [] t ts rfl, ih ?_⟩
        rintro before t' after rfl
        exact h (t :: before) t' after rfl

theorem expected_append (expect : Expect) (ts rs : List Token) :
    expected expect (ts ++ rs) = expected (expected expect ts) rs := List.foldl_append

-- Behind a phrase an operator is expected.
theorem Phrase.expected_eq (h : Phrase n ts t) (expect : Expect) :
    expected expect ts = .operator := by
  induction h generalizing expect with
  | leaf a => rfl
  | paren _ _ => exact expected_append _ _ _
  | unary op _ ih => exact ih _
  | binary o _ _ _ ihr =>
      rw [expected_append]
      exact ihr _
  | lift _ ih => exact ih expect

-- The tokens of a phrase are placed where an operand may start, one that may be negated if the
-- phrase may be a negation. The induction is on the phrase, for all that may come behind it.
theorem Phrase.placed (h : Phrase n ts t) {negatable : Bool} (hneg : n ≤ 2 → negatable = true)
    {rest : List Token} (hrest : Placed .operator rest) :
    Placed (.operand negatable) (ts ++ rest) := by
  induction h generalizing negatable rest with
  | leaf a => exact ⟨trivial, hrest⟩
  | paren _ ih =>
      rw [List.cons_append, List.cons_append, List.append_assoc]
      exact ⟨trivial, ih (fun _ => rfl) ⟨trivial, hrest⟩⟩
  | unary op _ ih =>
      cases op with
      | not => exact ⟨hneg (by decide), ih (fun _ => rfl) hrest⟩
      | neg => exact ⟨.inr rfl, ih (fun hle => absurd hle (by decide)) hrest⟩
      | pos => exact ⟨.inl rfl, ih (fun hle => absurd hle (by decide)) hrest⟩
  | @binary _ rs _ _ o _ _ ihl ihr =>
      rw [List.append_assoc]
      have hright : Placed (Token.op o).after (rs ++ rest) := by
        cases o with
        | or | and => exact ihr (fun _ => rfl) hrest
        | eq | ne | lt | le | gt | ge | add | sub | mul | div | floorDiv | mod | pow =>
            exact ihr (fun hle => absurd hle (by decide)) hrest
      exact ihl (fun hle => hneg (Nat.le_trans o.level_le_leftLevel hle)) ⟨trivial, hright⟩
  | lift _ ih => exact ih (fun hle => hneg (by omega)) hrest

theorem Derives.placed (h : Derives .disjunction ts t) : Placed (.operand true) ts := by
  have hend : Placed .operator [] := trivial
  have hplaced := h.phrase.placed (fun _ => rfl) hend
  rwa [List.append_nil] at hplaced

-- Completing what waits makes a phrase of it and the operand that is held.
theorem Waits.collapse {ts : List Token} (hw : Waits stack ps) (he : Phrase n ts e)
    (hroom : room stack ≤ n) (hk : k ≤ n) :
    ∃ ps' ts', Waits (collapse k stack e).1 ps' ∧ Phrase k ts' (collapse k stack e).2 ∧
      ps ++ ts = ps' ++ ts' := by
  induction hw generalizing n e ts with
  | nil => exact ⟨_, ts, .nil, he.mono hk, rfl⟩
  | paren hw _ => exact ⟨_, ts, .paren hw, he.mono hk, rfl⟩
  | @unary stack ps op hw hop ih =>
      rw [Expr.collapse]
      split
      · rename_i hge
        obtain ⟨ps', ts', hw', he', heq⟩ := ih (.unary op (he.mono hroom)) hop hge
        exact ⟨ps', ts', hw', he', by simpa using heq⟩
      · exact ⟨_, ts, .unary hw hop, he.mono hk, rfl⟩
  | @binary stack ps o ls l hw hop hl ih =>
      rw [Expr.collapse]
      split
      · rename_i hge
        obtain ⟨ps', ts', hw', he', heq⟩ := ih (.binary o hl (he.mono hroom)) hop hge
        exact ⟨ps', ts', hw', he', by simpa using heq⟩
      · exact ⟨_, ts, .binary hw hop hl, he.mono hk, rfl⟩

-- Completing all that waits below an operand of its own.
theorem Waits.collapse_atom (hw : Waits stack ps) (he : Phrase 8 ts e) (hk : k ≤ 8)
    {stack' : List Pending} {e' : Tree Leaf} (heq : Expr.collapse k stack e = (stack', e')) :
    ∃ ps' ts', Waits stack' ps' ∧ Phrase k ts' e' ∧ ps ++ ts = ps' ++ ts' := by
  have hroom : room stack ≤ 8 := Nat.le_trans (room_le stack) (by decide)
  have hall := hw.collapse he hroom hk
  rwa [heq] at hall

theorem Waits.reads_token (op : UnaryOp) (hw : Waits stack ps) (hroom : room stack ≤ op.level) :
    Reads op.token.after (.wanting (.unary op :: stack)) (ps ++ [op.token]) := by
  have hw' : Waits (.unary op :: stack) (ps ++ [op.token]) := .unary hw hroom
  cases op with
  | not => exact .wanting hw' (fun _ => Nat.le_refl 2)
  | neg | pos => exact .wanting hw' (fun h => nomatch h)

-- Behind an operator a negation may start only if its right operand has room for one.
theorem Waits.reads_op {o : BinaryOp} {l : Tree Leaf} (hw : Waits (.binary o l :: stack) ps) :
    Reads (Token.op o).after (.wanting (.binary o l :: stack)) ps := by
  cases o with
  | or => exact .wanting hw (fun _ => Nat.le_succ 1)
  | and => exact .wanting hw (fun _ => Nat.le_refl 2)
  | eq | ne | lt | le | gt | ge | add | sub | mul | div | floorDiv | mod | pow =>
      exact .wanting hw (fun h => nomatch h)

-- One token. The cases are those of the parser's step; a negation has room as it is admitted.
theorem Reads.step {expect : Expect} {token : Token} (h : Reads expect s ts)
    (hallowed : Admitted expect token) (hstep : Expr.step s token = some s') :
    Reads token.after s' (ts ++ [token]) := by
  cases h with
  | @wanting negatable stack _ hw hroom =>
      match token with
      | .leaf a =>
          obtain rfl : _ = s' := Option.some.inj hstep
          exact .holding hw (.leaf a)
      | .opening =>
          obtain rfl : _ = s' := Option.some.inj hstep
          exact .wanting (.paren hw) (fun _ => Nat.zero_le 2)
      | .not =>
          obtain rfl : _ = s' := Option.some.inj hstep
          exact hw.reads_token .not (hroom hallowed)
      | .op o =>
          rcases hallowed with rfl | rfl
          · obtain rfl : _ = s' := Option.some.inj hstep
            exact hw.reads_token .pos (room_le stack)
          · obtain rfl : _ = s' := Option.some.inj hstep
            exact hw.reads_token .neg (room_le stack)
  | @holding stack ps ts e hw he =>
      match token with
      | .op o =>
          simp only [Expr.step] at hstep
          generalize hcollapse : Expr.collapse o.leftLevel stack e = below at hstep
          split at hstep
          · rename_i hroom
            obtain rfl : _ = s' := Option.some.inj hstep
            obtain ⟨ps', ts', hw', he', heq⟩ := hw.collapse_atom he o.leftLevel_le hcollapse
            rw [heq, List.append_assoc]
            exact (Waits.binary hw' hroom he').reads_op
          · cases hstep
      | .closing =>
          simp only [Expr.step] at hstep
          split at hstep
          · rename_i stack' e' hcollapse
            obtain rfl : _ = s' := Option.some.inj hstep
            obtain ⟨ps', ts', hw', he', heq⟩ := hw.collapse_atom he (Nat.zero_le 8) hcollapse
            cases hw' with
            | @paren _ qs hw'' =>
                rw [heq]
                have hheld := Reads.holding hw'' (.paren he')
                simpa [Token.after] using hheld
          · cases hstep

theorem Reads.foldlM {expect : Expect} (h : Reads expect s ps) (hplaced : Placed expect ts)
    (hrun : ts.foldlM Expr.step s = some s') : Reads (expected expect ts) s' (ps ++ ts) := by
  induction ts generalizing expect s ps with
  | nil =>
      obtain rfl : s = s' := Option.some.inj hrun
      rwa [List.append_nil]
  | cons t ts ih =>
      rw [List.foldlM_cons] at hrun
      obtain ⟨s₁, hstep, hrest⟩ := Option.bind_eq_some_iff.mp hrun
      have hnext := ih (h.step hplaced.1 hstep) hplaced.2 hrest
      rwa [List.append_assoc] at hnext

theorem Reads.finish {expect : Expect} (h : Reads expect s ts) (hfinish : s.finish = some t) :
    Derives .disjunction ts t := by
  cases h with
  | wanting _ _ => cases hfinish
  | @holding stack ps ts e hw he =>
      simp only [State.finish] at hfinish
      split at hfinish
      · rename_i e' hcollapse
        obtain rfl : e' = t := Option.some.inj hfinish
        obtain ⟨ps', ts', hw', he', heq⟩ := hw.collapse_atom he (Nat.zero_le 8) hcollapse
        cases hw' with
        | nil =>
            rw [heq]
            exact derives_iff_phrase.mpr he'
      · cases hfinish

theorem Reads.start : Reads (.operand true) (.wanting []) [] :=
  .wanting .nil (fun _ => Nat.zero_le 2)

-- The parser accepts tokens in their places exactly if the grammar derives them.
theorem derives_iff_treeOf :
    Derives .disjunction ts t ↔ Placed (.operand true) ts ∧ treeOf ts = some t := by
  constructor
  · intro h
    exact ⟨h.placed, h.treeOf_eq⟩
  · rintro ⟨hplaced, htree⟩
    obtain ⟨s, hrun, hfinish⟩ := Option.bind_eq_some_iff.mp htree
    exact (Reads.start.foldlM hplaced hrun).finish hfinish

-- Closings see of a state only what is left once all that waits is completed.
theorem closings_congr {stack' : List Pending} {e' : Tree Leaf}
    (h : collapse 0 stack e = collapse 0 stack' e') (n : Nat) :
    ((List.replicate n .closing).foldlM step (.holding stack e)).bind State.finish =
      ((List.replicate n .closing).foldlM step (.holding stack' e')).bind State.finish := by
  cases n with
  | zero => simp only [List.replicate_zero, List.foldlM_nil, Option.pure_def, Option.bind_some,
      State.finish, h]
  | succ n => simp only [List.replicate_succ, List.foldlM_cons, step, h]

-- Once an operand is held, closing what is open completes an expression.
theorem exists_closings (stack : List Pending) (e : Tree Leaf) :
    ∃ n t, ((List.replicate n .closing).foldlM step (.holding stack e)).bind State.finish =
      some t := by
  induction stack generalizing e with
  | nil => exact ⟨0, e, rfl⟩
  | cons pending stack ih =>
      cases pending with
      | paren =>
          obtain ⟨n, t, hclose⟩ := ih e
          exact ⟨n + 1, t, hclose⟩
      | unary op =>
          obtain ⟨n, t, hclose⟩ := ih (.unary op e)
          have hsame : collapse 0 (.unary op :: stack) e = collapse 0 stack (.unary op e) :=
            if_pos (Nat.zero_le _)
          exact ⟨n, t, (closings_congr hsame n).trans hclose⟩
      | binary o l =>
          obtain ⟨n, t, hclose⟩ := ih (.binary o l e)
          have hsame : collapse 0 (.binary o l :: stack) e = collapse 0 stack (.binary o l e) :=
            if_pos (Nat.zero_le _)
          exact ⟨n, t, (closings_congr hsame n).trans hclose⟩

theorem placed_closings (n : Nat) : Placed .operator (List.replicate n .closing) := by
  induction n with
  | zero => trivial
  | succ n ih => exact ⟨trivial, ih⟩

-- A negation may come exactly where an operand is expected that may be negated. For the converse,
-- the operand is negated and what is open is closed.
theorem Derives.admits_not_iff {a : Leaf} (h : Derives .disjunction (ps ++ .leaf a :: ts) t) :
    Admits ps .not ↔ expected (.operand true) ps = .operand true := by
  constructor
  · rintro ⟨after, t', h'⟩
    obtain ⟨-, hallowed, -⟩ := along_append.mp h'.placed
    match hexpect : expected (.operand true) ps with
    | .operator =>
        rw [hexpect] at hallowed
        exact hallowed.elim
    | .operand negatable =>
        rw [hexpect] at hallowed
        exact congrArg Expect.operand hallowed
  · intro hexpect
    obtain ⟨hplaced, htree⟩ := derives_iff_treeOf.mp h
    obtain ⟨hbefore, -⟩ := along_append.mp hplaced
    obtain ⟨s, hrun, -⟩ := Option.bind_eq_some_iff.mp htree
    rw [List.foldlM_append] at hrun
    obtain ⟨s₁, hrun₁, -⟩ := Option.bind_eq_some_iff.mp hrun
    have hreads := Reads.start.foldlM hbefore hrun₁
    rw [hexpect] at hreads
    cases hreads with
    | @wanting _ stack _ _ _ =>
        obtain ⟨n, t', hclose⟩ := exists_closings (.unary .not :: stack) (.leaf a)
        refine ⟨.leaf a :: List.replicate n .closing, t', derives_iff_treeOf.mpr ⟨?_, ?_⟩⟩
        · refine along_append.mpr ⟨hbefore, ?_⟩
          rw [hexpect]
          exact ⟨rfl, trivial, placed_closings n⟩
        · rw [treeOf, List.foldlM_append, hrun₁]
          exact hclose

end Dialect.Expr
