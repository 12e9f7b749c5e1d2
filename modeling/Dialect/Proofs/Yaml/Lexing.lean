import Dialect.Proofs.Yaml.Scanning

namespace Dialect.Yaml

variable {cause : Error → Prop} {text : List Char}

-- A token that can be built.
def Token.Whole : Token → Prop
  | .broken _ => False
  | _ => True

-- The place of a lexer is in the text, and all its tokens can be built.
structure Lexer.Sound (text : List Char) (s : Lexer) : Prop where
  cursor : s.cursor.In text
  tokens : ∀ t ∈ s.tokens, t.Whole

namespace Lex

abbrev Stays {α : Type} (cause : Error → Prop) (text : List Char) (x : Lex α) : Prop :=
  Keeps cause (Lexer.Sound text) x

variable {α : Type}

theorem malformed_stays : Stays (α := α) cause text malformed := .malformed

theorem scan_stays {act : Scan α} (h : Scan.Stays cause text act) : Stays cause text (scan act) :=
  fun _ hs => (h _ hs.cursor).bind fun _ hy => ⟨hy, hs.tokens⟩

theorem peek_stays : Stays cause text peek := .bind .get fun _ => .pure _

theorem peekAt_stays (k : Nat) : Stays cause text (peekAt k) := .bind .get fun _ => .pure _

theorem emit_stays {t : Token} (h : t.Whole) : Stays cause text (emit t) := by
  unfold emit
  exact .modify fun s hs => ⟨hs.cursor, List.forall_mem_cons.mpr ⟨h, hs.tokens⟩⟩

theorem inFlow_stays : Stays cause text inFlow := .bind .get fun _ => .pure _

theorem setAllowKey_stays (b : Bool) : Stays cause text (setAllowKey b) := by
  unfold setAllowKey
  exact .modify fun s hs => ⟨hs.cursor, hs.tokens⟩

theorem column_stays : Stays cause text column := .bind .get fun _ => .pure _

theorem insertAt_stays {t : Token} (position : Nat) (h : t.Whole) :
    Stays cause text (insertAt position t) := by
  unfold insertAt
  refine .modify fun s hs => ⟨hs.cursor, fun t' ht' => ?_⟩
  rcases List.mem_append.mp ht' with ht' | ht'
  · exact hs.tokens _ (List.mem_of_mem_take ht')
  · rcases List.mem_cons.mp ht' with rfl | ht'
    · exact h
    · exact hs.tokens _ (List.mem_of_mem_drop ht')

theorem dropStale_stays : Stays cause text dropStale := by
  unfold dropStale
  refine .get_bind fun s hs => .when_bind (fun _ => malformed_stays) ?_
  exact .set ⟨hs.cursor, hs.tokens⟩

theorem keyHere?_stays : Stays cause text keyHere? := .bind .get fun _ => .pure _

theorem forgetKey_stays : Stays cause text forgetKey := by
  unfold forgetKey
  exact .modify fun s hs => ⟨hs.cursor, hs.tokens⟩

theorem removeKey_stays : Stays cause text removeKey := by
  unfold removeKey
  exact .bind keyHere?_stays fun place => .when_bind (fun _ => malformed_stays) forgetKey_stays

theorem saveKey_stays : Stays cause text saveKey := by
  unfold saveKey
  refine .bind .get fun s => .ite (.bind removeKey_stays fun _ => ?_) (.pure _)
  exact .modify fun s hs => ⟨hs.cursor, hs.tokens⟩

theorem closeBlocks_whole (column : Int) (indents : List Int) (indent : Int) {tokens : List Token}
    (h : ∀ t ∈ tokens, t.Whole) :
    ∀ t ∈ (closeBlocks column indents indent tokens).2.2, t.Whole := by
  induction indents generalizing indent tokens with
  | nil => exact h
  | cons outer indents ih =>
      unfold closeBlocks
      split
      · exact ih _ (List.forall_mem_cons.mpr ⟨trivial, h⟩)
      · exact h

theorem unwind_stays (column : Int) : Stays cause text (unwind column) := by
  unfold unwind
  refine .get_bind fun s hs => .ite ?_ (.pure _)
  exact .set ⟨hs.cursor, closeBlocks_whole _ _ _ hs.tokens⟩

theorem startBlock_stays (column : Nat) : Stays cause text (startBlock column) := by
  unfold startBlock
  refine .get_bind fun s hs => .ite ?_ (.pure _)
  exact .bind (.set ⟨hs.cursor, hs.tokens⟩) fun _ => .pure _

theorem skipBlank_stays (fuel : Nat) : Stays cause text (skipBlank fuel) := by
  induction fuel with
  | zero => exact .pure _
  | succ fuel ih =>
      unfold skipBlank
      refine .bind (scan_stays (Scan.takeWhile_stays _)) fun _ => .bind peek_stays fun c => ?_
      refine .ite (.bind (scan_stays (Scan.takeWhile_stays _)) fun _ => ?_) ?_
      -- behind a comment or not, the line ends or the next token starts
      all_goals
        refine .bind (scan_stays Scan.lineBreak_stays) fun b => ?_
        split
        · exact .pure _
        · exact .bind inFlow_stays fun flow => .unless_bind (fun _ => setAllowKey_stays true) ih

theorem toNextToken_stays : Stays cause text toNextToken := by
  unfold toNextToken
  refine .bind .get fun s => .bind peek_stays fun c => ?_
  refine .when_bind (fun _ => scan_stays Scan.forward_stays) ?_
  exact .bind (scan_stays Scan.room_stays) fun n => skipBlank_stays n

-- What a token that closes or starts something does besides does not touch the tokens before it.
theorem emitted_stays {act : Lex Token} (h : Stays cause text act)
    (hwhole : Yields Token.Whole act) : Stays cause text (act >>= emit) :=
  Runs.bind (h.yields hwhole) fun _ s hs => emit_stays hs.1 s hs.2

theorem outermost_stays {act : Lex Token} (h : Stays cause text act)
    (hwhole : Yields Token.Whole act) : Stays cause text (outermost act) := by
  unfold outermost
  refine .bind (unwind_stays (-1)) fun _ => .bind removeKey_stays fun _ => ?_
  exact .bind (setAllowKey_stays false) fun _ => emitted_stays h hwhole

theorem keyStart_stays {act : Lex Token} (h : Stays cause text act)
    (hwhole : Yields Token.Whole act) : Stays cause text (keyStart act) := by
  unfold keyStart
  refine .bind saveKey_stays fun _ => .bind (setAllowKey_stays false) fun _ => ?_
  exact emitted_stays h hwhole

theorem flowStart_stays {t : Token} (h : t.Whole) : Stays cause text (flowStart t) := by
  unfold flowStart
  refine .bind saveKey_stays fun _ => .bind (.modify fun s hs => ?_) fun _ => ?_
  · exact ⟨hs.cursor, hs.tokens⟩
  · exact .bind (scan_stays Scan.forward_stays) fun _ => emit_stays h

theorem flowEnd_stays {t : Token} (h : t.Whole) : Stays cause text (flowEnd t) := by
  unfold flowEnd
  refine .bind removeKey_stays fun _ => .bind .get fun s => ?_
  refine .when_bind (fun _ => malformed_stays) (.bind (.modify fun s hs => ?_) fun _ => ?_)
  · exact ⟨hs.cursor, hs.tokens⟩
  · exact .bind (scan_stays Scan.forward_stays) fun _ => emit_stays h

theorem flowEntry_stays : Stays cause text flowEntry := by
  unfold flowEntry
  refine .bind (setAllowKey_stays true) fun _ => .bind removeKey_stays fun _ => ?_
  exact .bind (scan_stays Scan.forward_stays) fun _ => emit_stays trivial

theorem blockItem_stays {opening item : Token} (thenKey : Bool) (hopening : opening.Whole)
    (hitem : item.Whole) : Stays cause text (blockItem opening item thenKey) := by
  have hend : Stays cause text (do
      setAllowKey thenKey
      removeKey
      scan Scan.forward
      emit item) :=
    .bind (setAllowKey_stays thenKey) fun _ => .bind removeKey_stays fun _ =>
      .bind (scan_stays Scan.forward_stays) fun _ => emit_stays hitem
  unfold blockItem
  refine .bind inFlow_stays fun flow => .ite hend (.bind .get fun s => ?_)
  refine .unless_bind (fun _ => malformed_stays) (.bind column_stays fun c => ?_)
  exact .bind (startBlock_stays c) fun opens => .when_bind (fun _ => emit_stays hopening) hend

theorem mapValue_stays : Stays cause text mapValue := by
  have hend : Stays cause text (do
      setAllowKey false
      scan Scan.forward
      emit .value) :=
    .bind (setAllowKey_stays false) fun _ =>
      .bind (scan_stays Scan.forward_stays) fun _ => emit_stays trivial
  unfold mapValue
  refine .bind keyHere?_stays fun place => ?_
  split
  · refine .bind forgetKey_stays fun _ => .bind (insertAt_stays _ trivial) fun _ => ?_
    refine .bind inFlow_stays fun flow => .ite hend (.bind (startBlock_stays _) fun opens => ?_)
    exact .when_bind (fun _ => insertAt_stays _ trivial) hend
  · exact .bind inFlow_stays fun flow => blockItem_stays _ trivial trivial

theorem blockText_stays : Stays cause text blockText := by
  unfold blockText
  refine .bind (setAllowKey_stays true) fun _ => .bind removeKey_stays fun _ => ?_
  exact .bind .get fun s => .bind (scan_stays (blockScalar_stays _)) fun cs => emit_stays trivial

theorem quotedText_stays : Stays (Unscannable text) text quotedText := by
  unfold quotedText
  exact .bind (scan_stays quotedScalar_stays) fun cs => .pure _

theorem plainText_stays : Stays cause text plainText := by
  unfold plainText
  refine .bind inFlow_stays fun flow => .bind .get fun s => ?_
  refine .bind (scan_stays (plainScalar_stays _ _)) fun y => ?_
  exact .when_bind (fun _ => setAllowKey_stays true) (.pure _)

section Yields

theorem yields_scan {R : α → Prop} {act : Scan α} (h : Yields R act) : Yields R (scan act) := by
  intro s a s' hs
  change (act s.cursor >>= fun y => .ok (y.1, { s with cursor := y.2 })) = .ok (a, s') at hs
  cases hact : act s.cursor with
  | ok y =>
      rw [hact] at hs
      cases hs
      exact h _ _ _ hact
  | error f =>
      rw [hact] at hs
      cases hs

-- Whatever the way, the last step makes the token.
theorem yields_directiveToken : Yields Token.Whole directiveToken := by
  have hend {t : Token} (h : t.Whole) : Yields Token.Whole (do Scan.restOfLine; return t) :=
    .bind fun _ => .pure h
  unfold directiveToken
  refine .bind fun _ => .bind fun name => .when_bind (.bind fun _ => .ite ?_ (.ite ?_ ?_))
  · exact .bind fun _ => .bind fun major => .bind fun _ => .bind fun _ => .bind fun _ =>
      .bind fun _ => hend trivial
  · exact .bind fun _ => .bind fun handle => .bind fun _ => .bind fun _ => .bind fun start =>
      .bind fun _ => hend trivial
  · exact .bind fun _ => hend trivial

theorem yields_tagToken : Yields Token.Whole tagToken := by
  have hend {t : Token} (h : t.Whole) :
      Yields Token.Whole (do Scan.require isSpaceOrEnd; return t) :=
    .bind fun _ => .pure h
  unfold tagToken
  refine .bind fun c => .bind fun s => .ite ?_ (.ite ?_ (.ite ?_ ?_))
  · exact .bind fun _ => .bind fun suffix => .bind fun _ => .bind fun _ => hend trivial
  · exact .bind fun _ => hend trivial
  · exact .bind fun handle => .bind fun suffix => hend trivial
  · exact .bind fun _ => .bind fun suffix => hend trivial

theorem yields_quotedText : Yields Token.Whole quotedText := by
  unfold quotedText
  exact .bind fun cs => .pure trivial

theorem yields_plainText : Yields Token.Whole plainText := by
  unfold plainText
  exact .bind fun flow => .bind fun s => .bind fun y => .when_bind (.pure trivial)

end Yields

theorem marker_stays {t : Token} (n : Nat) (h : t.Whole) : Stays cause text (outermost do
    scan (Scan.skip n)
    return t) :=
  outermost_stays (.bind (scan_stays (Scan.skip_stays n)) fun _ => .pure t) (.bind fun _ => .pure h)

theorem step_stays : Stays (Unscannable text) text step := by
  unfold step
  refine .bind toNextToken_stays fun _ => .bind dropStale_stays fun _ =>
    .bind column_stays fun c => .bind (unwind_stays c) fun _ => .bind peek_stays fun c =>
    .bind (peekAt_stays 1) fun next => .bind inFlow_stays fun flow => .bind column_stays fun _ => ?_
  refine .bind (scan_stays Scan.atMarker_stays) fun marker => ?_
  refine .ite ?_ (.bind column_stays fun n => ?_)
  · exact .bind (outermost_stays (.pure _) (.pure trivial)) fun _ => .pure _
  have hgo {x : Lex Unit} (h : Stays (Unscannable text) text x) :
      Stays (Unscannable text) text (do x; return false) :=
    .bind h fun _ => .pure false
  refine .ite (hgo (outermost_stays (scan_stays directiveToken_stays)
    (yields_scan yields_directiveToken))) ?_
  refine .ite (hgo (marker_stays 3 trivial)) (.ite (hgo (marker_stays 3 trivial)) ?_)
  refine .ite (hgo (flowStart_stays trivial)) (.ite (hgo (flowStart_stays trivial)) ?_)
  refine .ite (hgo (flowEnd_stays trivial)) (.ite (hgo (flowEnd_stays trivial)) ?_)
  refine .ite (hgo flowEntry_stays) ?_
  refine .ite (hgo (blockItem_stays true trivial trivial)) ?_
  refine .ite (hgo (blockItem_stays _ trivial trivial)) (.ite (hgo mapValue_stays) ?_)
  -- tokens that may start a key
  have hname : Stays (Unscannable text) text (scan anchorName) := scan_stays anchorName_stays
  refine .ite (hgo (keyStart_stays hname.map (.map fun _ => trivial))) ?_
  refine .ite (hgo (keyStart_stays hname.map (.map fun _ => trivial))) ?_
  refine .ite (hgo (keyStart_stays (scan_stays tagToken_stays) (yields_scan yields_tagToken))) ?_
  refine .ite (hgo blockText_stays) ?_
  refine .ite (hgo (keyStart_stays quotedText_stays yields_quotedText)) ?_
  exact .ite (hgo (keyStart_stays plainText_stays yields_plainText)) (hgo malformed_stays)

end Lex

-- A token that cannot be built stands for something that the text has.
def Explained (text : List Char) (ts : List Token) : Prop :=
  ∀ e, .broken e ∈ ts → Unscannable text e

-- By induction on the steps: only a step that is refused leaves such a token, and it is the last.
theorem tokensFrom_meets (fuel : Nat) {s : Lexer} (hs : s.Sound text) :
    Meets cause (Explained text) (tokensFrom fuel s) := by
  induction fuel generalizing s with
  | zero => exact .malformed
  | succ fuel ih =>
      have hstep := Lex.step_stays s hs
      unfold tokensFrom
      match hresult : Lex.step s, hstep with
      | .ok (true, s'), h =>
          intro e he
          exact (h.tokens _ (List.mem_reverse.mp he)).elim
      | .ok (false, s'), h => exact ih h
      | .error .malformed, _ => exact .malformed
      | .error (.refused e), h =>
          intro e' he
          rcases List.mem_append.mp he with he | he
          · have hmem := List.mem_reverse.mp (List.mem_of_mem_take he)
            exact (hs.tokens _ hmem).elim
          · obtain rfl : e' = e := by simpa using he
            exact h

theorem tokens_meets (text : List Char) : Meets cause (Explained text) (tokens text) := by
  unfold tokens
  split
  · exact tokensFrom_meets _ ⟨List.suffix_rfl, by simp⟩
  · exact .malformed

end Dialect.Yaml
