import Dialect.Proofs.Expr.Recognition
import Dialect.Proofs.Expr.Refusal

namespace Dialect.Expr

-- After the tokens of what is in front of the rest, the parser is in the state.
structure Reached (front rest : List Char) (ts : List Token) (s : State) : Prop where
  scans : Scans rest (.operand true) front ts
  run : ts.foldlM step (.wanting []) = some s

-- The parser has no step for what is taken next, if anything is.
def Offends (expect : Expect) (s : State) (cs : List Char) : Prop :=
  ∀ t after, token? expect cs = some (t, after) → step s t = none

-- The text is split to its end and none of its tokens offends, but what they begin is not complete.
def EndsEarly (text : String) : Prop :=
  ∃ ls s, lexemes text.toList = (ls, none) ∧ steps (.wanting []) ls = .ok s ∧ s.finish = none

variable {front rest w z : List Char} {ts : List Token} {t u : Token} {s s' : State}
  {stack : List Pending} {e : Tree Leaf} {expect : Expect} {text : String} {c fuel column : Nat}
  {l : Lexeme} {ls : List Lexeme} {stuck : Option Nat}

theorem taken_closings (n : Nat) : Along Taken .operator (List.replicate n .closing) := by
  induction n with
  | zero => trivial
  | succ n ih => exact ⟨fun rest _ => rfl, ih⟩

-- From every state an expression can be completed: by an operand, if one is wanted, and by closing
-- what is open.
theorem Reads.exists_completion (h : Reads expect s ts) :
    ∃ us t, Along Taken expect us ∧ (us.foldlM Expr.step s).bind State.finish = some t := by
  cases h with
  | @wanting negatable stack _ _ _ =>
      obtain ⟨n, t, hclose⟩ := exists_closings stack (.leaf .none)
      refine ⟨.leaf .none :: List.replicate n .closing, t, ⟨?_, taken_closings n⟩, hclose⟩
      exact fun rest hrest => token?_text trivial trivial trivial hrest
  | @holding stack _ _ e _ _ =>
      obtain ⟨n, t, hclose⟩ := exists_closings stack e
      exact ⟨List.replicate n .closing, t, taken_closings n, hclose⟩

namespace Reached

theorem reads (h : Reached front rest ts s) : Reads (expected (.operand true) ts) s ts :=
  Reads.start.foldlM h.scans.laid.2.2 h.run

-- The completion is written with blanks in front of its tokens, which end the last token before.
theorem exists_continuation (h : Reached front rest ts s) :
    ∃ more t, parse (String.ofList (front ++ more)) = .ok t := by
  obtain ⟨us, t, htaken, hfinish⟩ := h.reads.exists_completion
  have hparted : Parted (behindBlanks us ++ []) := by
    rw [List.append_nil]
    exact (apart_behindBlanks us).parted
  have hfront : Scans (behindBlanks us ++ []) (.operand true) front ts :=
    h.scans.replace (w := []) hparted
  have hall := hfront.append (scans_behindBlanks htaken)
  refine ⟨behindBlanks us, t, parse_eq_ok_iff_scans.mpr ⟨ts ++ us, ?_, ?_⟩⟩
  · rwa [String.toList_ofList]
  · refine derives_iff_treeOf.mpr ⟨hall.laid.2.2, ?_⟩
    rw [treeOf, List.foldlM_append, h.run]
    exact hfinish

end Reached

theorem EndsEarly.exists_continuation (h : EndsEarly text) :
    ∃ more t, parse (String.ofList (text.toList ++ more)) = .ok t := by
  obtain ⟨ls, s, hlexemes, hsteps, -⟩ := h
  have hreached : Reached text.toList [] (ls.map (·.token)) s :=
    ⟨exists_lexemes_iff.mp ⟨ls, hlexemes, rfl⟩, steps_eq_ok_iff.mp hsteps⟩
  exact hreached.exists_continuation

-- What follows may be cut off anywhere.
theorem Reached.cut (h : Reached front (w ++ z) ts s) (more : List Char) :
    Reached front (w ++ ' ' :: more) ts s :=
  ⟨h.scans.replace (by simp [Parted]), h.run⟩

theorem step_op_eq_none_iff {o : BinaryOp} :
    step (.holding stack e) (.op o) = none ↔ o.level < room (collapse o.leftLevel stack e).1 := by
  simp [step]

-- If the parser has no step for an operator, it has none for one that the operator begins with.
theorem step_eq_none_of_lengthened (h : step (.holding stack e) u = none)
    (hlonger : t.Lengthened u) : step (.holding stack e) t = none := by
  cases hlonger with
  | le | ge | floorDiv =>
      -- both are on one level
      have hroom := step_op_eq_none_iff.mp h
      exact step_op_eq_none_iff.mpr hroom
  | pow =>
      -- a power always has room
      have hroom := step_op_eq_none_iff.mp h
      have hle := room_le (collapse BinaryOp.pow.leftLevel stack e).1
      exact absurd (Nat.lt_of_lt_of_le hroom hle) (by decide)

theorem exists_step_of_admitted {negatable : Bool} (h : Admitted (.operand negatable) t) :
    ∃ s, step (.wanting stack) t = some s := by
  match t with
  | .leaf _ | .opening | .not => exact ⟨_, rfl⟩
  | .op o => rcases h with rfl | rfl <;> exact ⟨_, rfl⟩

-- Wherever the text is cut off, what is left of it offends.
theorem Offends.cut (h : Offends expect s (w ++ z)) (hreads : Reads expect s ts) (hne : w ≠ [])
    (hquote : w.head? ≠ some '"') (more : List Char) : Offends expect s (w ++ ' ' :: more) := by
  have hparted : Parted (' ' :: more) := by simp [Parted]
  intro t after htaken
  cases hreads with
  | @wanting negatable stack _ _ _ =>
      -- the parser has a step for every operand, so none has been found
      have hnone : operand? negatable (w ++ z) = none := by
        cases hfound : operand? negatable (w ++ z) with
        | none => rfl
        | some found =>
            obtain ⟨u, after⟩ := found
            obtain ⟨s, hs⟩ := exists_step_of_admitted (operand?_fronts hfound).admitted
            rw [h u after hfound] at hs
            cases hs
      have hcut := operand?_replace_none hnone hne hquote hparted
      rw [token?, hcut] at htaken
      cases htaken
  | @holding stack _ _ e _ _ =>
      have hfronts := operator?_fronts htaken
      have hbegins : t.text.toList <+: w := by
        cases t with
        | op o => exact hparted.prefix_of_append o.text_parts ⟨after, hfronts.split.symm⟩
        | closing =>
            obtain ⟨c, w, rfl⟩ := List.exists_cons_of_ne_nil hne
            obtain rfl : c = ')' := (List.cons.inj hfronts.split).1
            exact ⟨w, rfl⟩
        | leaf _ | opening | not => exact hfronts.admitted.elim
      obtain ⟨u, after, hfound, hcase⟩ := operator?_of_prefix hfronts.admitted
        (hbegins.trans (List.prefix_append w z))
      have hnone : step (.holding stack e) u = none := h u after hfound
      rcases hcase with rfl | hlonger
      · exact hnone
      · exact step_eq_none_of_lengthened hnone hlonger

-- No expression has in front of the offending text what has been read, and then that.
theorem Reached.parse_ne_ok (h : Reached front rest ts s) (hne : rest ≠ [])
    (hhead : ∀ c ∈ rest.head?, isSpace c = false)
    (hoffends : Offends (expected (.operand true) ts) s rest) (e : Tree Leaf) :
    parse (String.ofList (front ++ rest)) ≠ .ok e := by
  intro hparse
  obtain ⟨ls, hlexemes, htree⟩ := parse_eq_ok_iff.mp hparse
  rw [String.toList_ofList, lexemes] at hlexemes
  obtain ⟨before, fuel, column, hbefore, hfuel, hscan⟩ :=
    h.scans.scan_eq (Nat.lt_succ_self (front ++ rest).length) 1
  obtain ⟨fuel, rfl⟩ : ∃ f, fuel = f + 1 := ⟨fuel - 1, by omega⟩
  rw [hscan] at hlexemes
  rcases scan_cases hhead fuel (expected (.operand true) ts) column with ⟨hend, -⟩ |
    ⟨-, -, hstop⟩ | ⟨t, after, htoken, htaken⟩
  · exact hne hend
  · rw [hstop] at hlexemes
    cases hlexemes
  · rw [htaken] at hlexemes
    obtain rfl := (Prod.mk.inj hlexemes).1
    simp only [treeOf, List.map_append, List.map_cons, hbefore, List.foldlM_append,
      List.foldlM_cons, h.run, hoffends t after htoken, Option.bind_eq_bind, Option.bind_some,
      Option.bind_none, reduceCtorEq] at htree

theorem steps_eq_error (h : steps s ls = .error c) :
    ∃ before l after s', ls = before ++ l :: after ∧
      (before.map (·.token)).foldlM step s = some s' ∧ step s' l.token = none ∧ l.column = c := by
  induction ls generalizing s with
  | nil => cases h
  | cons l ls ih =>
      rw [steps] at h
      cases hstep : step s l.token with
      | none =>
          rw [hstep] at h
          exact ⟨[], l, ls, s, rfl, rfl, hstep, Except.error.inj h⟩
      | some s₁ =>
          rw [hstep] at h
          obtain ⟨before, l', after, s', rfl, hrun, hnone, hcolumn⟩ := ih h
          refine ⟨l :: before, l', after, s', rfl, ?_, hnone, hcolumn⟩
          rwa [List.map_cons, List.foldlM_cons, hstep]

-- The tokenizer has found a token, so it is taken from the front.
theorem token?_of_scan (h : scan (fuel + 1) expect column rest = (l :: ls, stuck))
    (hhead : ∀ c ∈ rest.head?, isSpace c = false) :
    ∃ after, token? expect rest = some (l.token, after) ∧ l.column = column := by
  rcases scan_cases hhead fuel expect column with ⟨-, hend⟩ | ⟨-, -, hstop⟩ |
    ⟨t, after, htoken, htaken⟩
  · cases h.symm.trans hend
  · cases h.symm.trans hstop
  · obtain ⟨hcons, -⟩ := Prod.mk.inj (h.symm.trans htaken)
    obtain ⟨rfl, -⟩ := List.cons.inj hcons
    exact ⟨after, htoken, rfl⟩

theorem token?_of_stuck (h : scan (fuel + 1) expect column rest = ([], some c))
    (hhead : ∀ c ∈ rest.head?, isSpace c = false) :
    rest ≠ [] ∧ token? expect rest = none ∧ c = column := by
  rcases scan_cases hhead fuel expect column with ⟨-, hend⟩ | ⟨hne, hnone, hstop⟩ |
    ⟨t, after, -, htaken⟩
  · cases h.symm.trans hend
  · cases h.symm.trans hstop
    exact ⟨hne, hnone, rfl⟩
  · cases h.symm.trans htaken

-- A syntax error is charged to a token for which the parser has no step, to a character at which no
-- token starts, or to the last token of a text that ends too early.
theorem parse_eq_error (h : parse text = .error c) :
    (∃ before l after s stuck, lexemes text.toList = (before ++ l :: after, stuck) ∧
      (before.map (·.token)).foldlM step (.wanting []) = some s ∧ step s l.token = none ∧
      l.column = c) ∨
    (∃ ls s, lexemes text.toList = (ls, some c) ∧
      (ls.map (·.token)).foldlM step (.wanting []) = some s) ∨
    ∃ ls s, lexemes text.toList = (ls, none) ∧
      (ls.map (·.token)).foldlM step (.wanting []) = some s ∧ s.finish = none ∧
      lastColumn ls = c := by
  unfold parse at h
  generalize lexemes text.toList = found at h
  obtain ⟨ls, stuck⟩ := found
  cases hsteps : steps (.wanting []) ls with
  | error column =>
      obtain rfl : column = c := by simpa [bind, Except.bind, hsteps] using h
      obtain ⟨before, l, after, s, rfl, hrun, hnone, hcolumn⟩ := steps_eq_error hsteps
      exact .inl ⟨before, l, after, s, stuck, rfl, hrun, hnone, hcolumn⟩
  | ok s =>
      have hrun := steps_eq_ok_iff.mp hsteps
      cases stuck with
      | some column =>
          obtain rfl : column = c := by simpa [bind, Except.bind, hsteps] using h
          exact .inr (.inl ⟨ls, s, rfl, hrun⟩)
      | none =>
          cases hfinish : s.finish with
          | some e => simp [bind, Except.bind, hsteps, hfinish] at h
          | none =>
              have hcolumn : lastColumn ls = c := by
                simpa [bind, Except.bind, hsteps, hfinish] using h
              exact .inr (.inr ⟨ls, s, rfl, hrun, hfinish, hcolumn⟩)

-- The tokenizer and the parser on their way: with these tokens behind them.
theorem exists_reached_of_lexemes {before after : List Lexeme}
    (h : lexemes text.toList = (before ++ after, stuck))
    (hrun : (before.map (·.token)).foldlM step (.wanting []) = some s) :
    ∃ front rest fuel column, text.toList = front ++ rest ∧
      Reached front rest (before.map (·.token)) s ∧ (∀ c ∈ rest.head?, isSpace c = false) ∧
      ('\n' ∉ front → column = 1 + front.length) ∧
      scan (fuel + 1) (expected (.operand true) (before.map (·.token))) column rest =
        (after, stuck) := by
  obtain ⟨front, rest, fuel, column, htext, hscans, hhead, hcolumn, hscan⟩ :=
    scans_of_scan (Nat.lt_succ_self text.toList.length) h
  exact ⟨front, rest, fuel, column, htext, ⟨hscans, hrun⟩, hhead, hcolumn, hscan⟩

-- In front of the column is what has been read, and behind it is what offends, if the text does not
-- end too early.
theorem exists_reached_of_parse_eq_error (h : parse text = .error c) :
    ∃ front rest ts s, text.toList = front ++ rest ∧ Reached front rest ts s ∧
      ('\n' ∉ front → c = 1 + front.length) ∧
      (¬EndsEarly text → rest ≠ [] ∧ (∀ c ∈ rest.head?, isSpace c = false) ∧
        Offends (expected (.operand true) ts) s rest) := by
  rcases parse_eq_error h with ⟨before, l, after, s, stuck, hlexemes, hrun, hnone, rfl⟩ |
    ⟨ls, s, hlexemes, hrun⟩ | ⟨ls, s, hlexemes, hrun, hfinish, rfl⟩
  · obtain ⟨front, rest, fuel, column, htext, hreached, hhead, hcolumn, hscan⟩ :=
      exists_reached_of_lexemes hlexemes hrun
    obtain ⟨behind, htoken, rfl⟩ := token?_of_scan hscan hhead
    refine ⟨front, rest, _, s, htext, hreached, hcolumn, fun _ => ⟨?_, hhead, ?_⟩⟩
    · rintro rfl
      rw [token?_nil] at htoken
      cases htoken
    · intro t after' ht
      obtain rfl := (Prod.mk.inj (Option.some.inj (htoken.symm.trans ht))).1
      exact hnone
  · have hall : lexemes text.toList = (ls ++ [], some c) := by rwa [List.append_nil]
    obtain ⟨front, rest, fuel, column, htext, hreached, hhead, hcolumn, hscan⟩ :=
      exists_reached_of_lexemes hall hrun
    obtain ⟨hne, hnone, rfl⟩ := token?_of_stuck hscan hhead
    refine ⟨front, rest, _, s, htext, hreached, hcolumn, fun _ => ⟨hne, hhead, ?_⟩⟩
    intro t after ht
    rw [hnone] at ht
    cases ht
  · have hearly : EndsEarly text := ⟨ls, s, hlexemes, steps_eq_ok_iff.mpr hrun, hfinish⟩
    rcases List.eq_nil_or_concat ls with rfl | ⟨before, l, hls⟩
    · exact ⟨[], text.toList, [], .wanting [], rfl, ⟨.nil (by simp), rfl⟩, fun _ => rfl,
        absurd hearly⟩
    · rw [List.concat_eq_append] at hls
      subst hls
      rw [List.map_append, List.foldlM_append] at hrun
      obtain ⟨s', hrun', -⟩ := Option.bind_eq_some_iff.mp hrun
      obtain ⟨front, rest, fuel, column, htext, hreached, hhead, hcolumn, hscan⟩ :=
        exists_reached_of_lexemes hlexemes hrun'
      obtain ⟨behind, -, rfl⟩ := token?_of_scan hscan hhead
      refine ⟨front, rest, _, s', htext, hreached, fun hline => ?_, absurd hearly⟩
      simpa [lastColumn] using hcolumn hline

theorem Leaf.resolve_ne_column (l : Leaf) (source : String) (names : List (Option String)) :
    l.resolve source names ≠ .error (.expression source (.column c)) := by
  cases l with
  | number text =>
      rw [resolve, numberAtom_eq]
      split
      · simp
      · split <;> simp
  | string text =>
      rw [resolve]
      split <;> simp
  | name n =>
      rw [resolve]
      split <;> simp
  | true | false | none => simp [resolve]

theorem parse_eq_error_of_body {source : String} {names : List (Option String)}
    (h : body source names = .error (.expression source (.column c))) :
    parse source = .error c := by
  rw [body] at h
  cases hparse : parse source with
  | error column =>
      rw [hparse] at h
      cases h
      rfl
  | ok tree =>
      rw [hparse] at h
      obtain ⟨_, l, _, -, -, hl⟩ := Tree.traverse_eq_error_iff.mp h
      exact absurd hl (l.resolve_ne_column source names)

namespace Evaluator

theorem parameters_ne_column {params : Value} {source : String} :
    parameters params ≠ .error (.expression source (.column c)) := by
  simp only [parameters, Value.members]
  cases params.members? with
  | none => simp [bind, Except.bind]
  | some names =>
      simp only [bind, Except.bind]
      split <;> simp

-- Only a text that does not parse is answered by a column.
theorem parse_eq_error_of_compile {ev : Evaluator} {source : String} {params : Value}
    (h : (ev.compile (.str source) params).1 = .error (.expression source (.column c))) :
    parse source = .error c := by
  rw [compile] at h
  cases hparams : parameters params with
  | error x =>
      rw [hparams] at h
      cases h
      exact absurd hparams parameters_ne_column
  | ok names =>
      rw [hparams] at h
      simp only [compileText] at h
      cases hfind : ev.find? source names with
      | some f =>
          rw [hfind] at h
          cases h
      | none =>
          rw [hfind] at h
          cases hbody : body source (names.map slotOf) with
          | error x =>
              rw [hbody] at h
              cases h
              exact parse_eq_error_of_body hbody
          | ok tree =>
              rw [hbody] at h
              cases h

-- Whatever evaluator reports a syntax error in a text of one line: the column is one of the text or
-- the one behind it, and what is in front of it begins an expression. So does the whole of a text
-- that ends too early. Otherwise no expression begins with what is in front of the column, then any
-- part of what stands there, and a blank, unless that is a quote, which may yet be closed.
theorem column_behind_viable_prefix (ev : Evaluator) (source : String) (params : Value) (c : Nat)
    (hline : '\n' ∉ source.toList)
    (h : (ev.compile (.str source) params).1 = .error (.expression source (.column c))) :
    1 ≤ c ∧ c ≤ source.length + 1 ∧
      (∃ more t, parse (String.ofList (source.toList.take (c - 1) ++ more)) = .ok t) ∧
      (EndsEarly source → ∃ more t, parse (String.ofList (source.toList ++ more)) = .ok t) ∧
      (¬EndsEarly source → c ≤ source.length ∧
        ∀ w, w ≠ [] → w <+: source.toList.drop (c - 1) → w.head? ≠ some '"' →
          ∀ more t, parse (String.ofList (source.toList.take (c - 1) ++ (w ++ ' ' :: more))) ≠
            .ok t) := by
  obtain ⟨front, rest, ts, s, htext, hreached, hcolumn, hstop⟩ :=
    exists_reached_of_parse_eq_error (parse_eq_error_of_compile h)
  rw [htext, List.mem_append, not_or] at hline
  obtain rfl := hcolumn hline.1
  have hlength : source.length = front.length + rest.length := by
    rw [← String.length_toList, htext, List.length_append]
  have hfront : source.toList.take (1 + front.length - 1) = front := by
    rw [htext, Nat.add_sub_cancel_left, List.take_left]
  have hrest : source.toList.drop (1 + front.length - 1) = rest := by
    rw [htext, Nat.add_sub_cancel_left, List.drop_left]
  rw [hfront, hrest]
  refine ⟨by omega, by omega, hreached.exists_continuation, EndsEarly.exists_continuation,
    fun hearly => ?_⟩
  obtain ⟨hne, hhead, hoffends⟩ := hstop hearly
  refine ⟨?_, fun w hw hbegins hquote more t => ?_⟩
  · have hpos := List.length_pos_iff.mpr hne
    omega
  · obtain ⟨z, rfl⟩ := hbegins
    have hblank : ∀ c ∈ (w ++ ' ' :: more).head?, isSpace c = false := by
      cases w with
      | nil => exact absurd rfl hw
      | cons c w => exact hhead
    exact (hreached.cut more).parse_ne_ok (by simp) hblank
      (hoffends.cut hreached.reads hw hquote more) t

end Evaluator

-- A quote may be closed after all.
example : parse "\"a" = .error 1 ∧ parse "\"a \"" = .ok (.leaf (.string "\"a \"")) := by
  constructor <;> cbv

namespace Sample

-- The second comparison has no place, in its first character or as a whole.
theorem column_behind_viable_prefix_compared :
    '\n' ∉ "(1 <= 2 <= 3".toList ∧
      ((Evaluator.empty 0).compile (.str "(1 <= 2 <= 3") (.list [])).1 =
        .error (.expression "(1 <= 2 <= 3" (.column 9)) ∧
      (∃ more t, parse (String.ofList ("(1 <= 2 ".toList ++ more)) = .ok t) ∧
      ¬EndsEarly "(1 <= 2 <= 3" ∧
      (∀ more t, parse (String.ofList ("(1 <= 2 <= ".toList ++ more)) ≠ .ok t) ∧
      ∀ more t, parse (String.ofList ("(1 <= 2 < ".toList ++ more)) ≠ .ok t := by
  have hline : '\n' ∉ "(1 <= 2 <= 3".toList := by decide
  have hcompile : ((Evaluator.empty 0).compile (.str "(1 <= 2 <= 3") (.list [])).1 =
      .error (.expression "(1 <= 2 <= 3" (.column 9)) := by cbv
  have hearly : ¬EndsEarly "(1 <= 2 <= 3" := by
    rintro ⟨ls, s, hlexemes, hsteps, -⟩
    have hstop : steps (.wanting []) (lexemes "(1 <= 2 <= 3".toList).1 = .error 9 := by cbv
    rw [hlexemes, hsteps] at hstop
    cases hstop
  obtain ⟨-, -, hviable, -, hstop⟩ :=
    Evaluator.column_behind_viable_prefix (Evaluator.empty 0) _ (.list []) 9 hline hcompile
  obtain ⟨-, hnone⟩ := hstop hearly
  exact ⟨hline, hcompile, hviable, hearly, hnone ['<', '='] (by simp) ⟨[' ', '3'], rfl⟩ (by simp),
    hnone ['<'] (by simp) ⟨['=', ' ', '3'], rfl⟩ (by simp)⟩

end Sample

end Dialect.Expr
