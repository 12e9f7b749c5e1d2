import Dialect.Proofs.Expr.Recognition

namespace Dialect.Expr

variable {text : String} {t : Tree Leaf}

-- In parentheses an expression is an atom, wherever an operand may start and whatever follows: the
-- opening one leaves what is expected as it is at the start, and the closing one ends the last
-- token.
theorem exists_enclosed (h : parse text = .ok t) :
    ∃ ts, Phrase 8 ts t ∧ ∀ negatable rest,
      Scans rest (.operand negatable) ('(' :: (text.toList ++ [')'])) ts := by
  obtain ⟨ts, hscans, hderives⟩ := parse_eq_ok_iff_scans.mp h
  refine ⟨.opening :: ts ++ [.closing], .paren hderives.phrase, fun negatable rest => ?_⟩
  have hparted : Parted (')' :: rest) := by simp [Parted]
  have hinside : Scans ([')'] ++ rest) (.operand true) text.toList ts :=
    hscans.replace (w := []) (z := []) hparted
  have hclosing : Scans rest (expected (.operand true) ts) [')'] [.closing] := by
    rw [hderives.phrase.expected_eq]
    exact .single (t := .closing) rfl
  exact .token (t := .opening) rfl (hinside.append hclosing)

-- What may follow an operator is an operand.
theorem exists_after_op (o : BinaryOp) : ∃ negatable, (Token.op o).after = .operand negatable := by
  cases o with
  | or | and => exact ⟨true, rfl⟩
  | eq | ne | lt | le | gt | ge | add | sub | mul | div | floorDiv | mod | pow =>
      exact ⟨false, rfl⟩

theorem exists_after_token (op : UnaryOp) : ∃ negatable, op.token.after = .operand negatable := by
  cases op with
  | not => exact ⟨true, rfl⟩
  | neg | pos => exact ⟨false, rfl⟩

-- An operator in front of an expression in parentheses, if it ends where they begin.
theorem parse_unary {op : UnaryOp} (blanks : List Char) (h : parse text = .ok t)
    (hblanks : ∀ c ∈ blanks, isSpace c = true)
    (htoken : ∀ rest, token? (.operand true) (op.token.text.toList ++ (blanks ++ '(' :: rest)) =
      some (op.token, blanks ++ '(' :: rest)) {whole : String}
    (hwhole : whole.toList = op.token.text.toList ++ (blanks ++ '(' :: (text.toList ++ [')']))) :
    parse whole = .ok (.unary op t) := by
  obtain ⟨ts, hphrase, hscans⟩ := exists_enclosed h
  obtain ⟨negatable, hafter⟩ := exists_after_token op
  refine parse_eq_ok_iff_scans.mpr ⟨op.token :: ts, ?_, ?_⟩
  · have hbehind : Scans [] op.token.after (blanks ++ '(' :: (text.toList ++ [')'])) ts := by
      rw [hafter]
      exact (hscans negatable []).behind blanks hblanks
    have hop := htoken (text.toList ++ [')'])
    rw [hwhole]
    exact .token (by rwa [List.append_nil]) hbehind
  · have hle : op.level ≤ 8 := Nat.le_trans op.level_le (by decide)
    exact derives_iff_phrase.mpr ((Phrase.unary op (hphrase.mono hle)).mono (Nat.zero_le _))

theorem parse_binary {left right : String} {l r : Tree Leaf} (hl : parse left = .ok l)
    (hr : parse right = .ok r) (o : BinaryOp) :
    parse ("(" ++ left ++ ") " ++ o.text ++ " (" ++ right ++ ")") = .ok (.binary o l r) := by
  obtain ⟨ls, hleft, hscansl⟩ := exists_enclosed hl
  obtain ⟨rs, hright, hscansr⟩ := exists_enclosed hr
  obtain ⟨negatable, hafter⟩ := exists_after_op o
  refine parse_eq_ok_iff_scans.mpr ⟨ls ++ (.op o :: rs), ?_, ?_⟩
  · have hbehind : Scans [] (Token.op o).after (' ' :: '(' :: (right.toList ++ [')'])) rs := by
      rw [hafter]
      exact (hscansr negatable []).behind [' '] (by simp [isSpace])
    have hop : Scans [] .operator
        (' ' :: ((Token.op o).text.toList ++ (' ' :: '(' :: (right.toList ++ [')']))))
        (.op o :: rs) := by
      refine .behind [' '] (by simp [isSpace]) (.token ?_ hbehind)
      exact operator?_text trivial rfl
    rw [← hleft.expected_eq (.operand true)] at hop
    have hall := Scans.append (hscansl true _) hop
    simpa [Token.text] using hall
  · have hphrase := Phrase.binary o (hleft.mono o.leftLevel_le)
      (hright.mono (Nat.le_trans o.rightLevel_le (by decide)))
    exact derives_iff_phrase.mpr (hphrase.mono (Nat.zero_le _))

-- Whatever texts two expressions have: each may stand in parentheses on its own, behind an operator
-- and on both sides of one, and the trees are put together accordingly.
theorem parse_composes {a b : String} {s t : Tree Leaf} (ha : parse a = .ok s)
    (hb : parse b = .ok t) :
    (∀ o : BinaryOp, parse ("(" ++ a ++ ") " ++ o.text ++ " (" ++ b ++ ")") =
      .ok (.binary o s t)) ∧
    parse ("(" ++ a ++ ")") = .ok s ∧
    parse ("not (" ++ a ++ ")") = .ok (.unary .not s) ∧
    parse ("-(" ++ a ++ ")") = .ok (.unary .neg s) ∧
    parse ("+(" ++ a ++ ")") = .ok (.unary .pos s) := by
  refine ⟨parse_binary ha hb, ?_, ?_, ?_, ?_⟩
  · obtain ⟨ts, hphrase, hscans⟩ := exists_enclosed ha
    refine parse_eq_ok_iff_scans.mpr ⟨ts, ?_, derives_iff_phrase.mpr (hphrase.mono (Nat.zero_le 8))⟩
    simpa using hscans true []
  · refine parse_unary [' '] ha (by simp [isSpace]) (fun rest => ?_)
      (by simp [UnaryOp.token, Token.text])
    exact operand?_text (t := .not) rfl trivial trivial rfl
  · exact parse_unary [] ha (by simp) (fun rest => rfl)
      (by simp [UnaryOp.token, Token.text, BinaryOp.text])
  · exact parse_unary [] ha (by simp) (fun rest => rfl)
      (by simp [UnaryOp.token, Token.text, BinaryOp.text])

namespace Sample

def glued : Tree Leaf := .binary .or (.leaf (.name "x")) (.leaf (.name "x"))

def quoted : Tree Leaf := .binary .eq (.leaf (.string "\")\"")) (.leaf (.name "not"))

-- An operator that runs into a name, a quoted parenthesis, and a name that is a keyword elsewhere.
theorem parse_composes_glued :
    parse "x orx" = .ok glued ∧ parse "\")\"== not" = .ok quoted ∧
      parse "(x orx) ** (\")\"== not)" = .ok (.binary .pow glued quoted) ∧
      parse "not (x orx)" = .ok (.unary .not glued) := by
  have hglued : parse "x orx" = .ok glued := by cbv
  have hquoted : parse "\")\"== not" = .ok quoted := by cbv
  have hall := parse_composes hglued hquoted
  exact ⟨hglued, hquoted, hall.1 .pow, hall.2.2.1⟩

end Sample

end Dialect.Expr
