import Dialect.Proofs.Document.Contract
import Dialect.Toml.Reader

namespace Dialect.Toml

variable {cause : Error → Prop} {text cs r : List Char}

section Texts

theorem hexChar_readsOn (count : Nat) (hcs : cs <:+ text) :
    ReadsOn cause text (hexChar count cs) := by
  unfold hexChar
  refine .ite .malformed ?_
  split
  · exact .malformed
  · exact .ite (drop_suffix_of count hcs) .malformed

theorem joinLines_meets (hcs : cs <:+ text) : Meets cause (· <:+ text) (joinLines cs) := by
  unfold joinLines
  split
  · exact List.nil_suffix
  · next h => exact dropWhile_suffix_of (suffix_of_dropWhile_eq_cons h hcs)
  · exact .malformed

theorem escape_readsOn (multiline : Bool) (hcs : cs <:+ text) :
    ReadsOn cause text (escape multiline cs) := by
  cases cs with
  | nil => exact .malformed
  | cons c cs =>
      have hrest := suffix_of_cons hcs
      unfold escape
      refine .ite (.bind_rest (joinLines_meets hcs) fun r hr => hr) ?_
      refine .ite ((hexChar_readsOn 4 hrest).bind fun x r hr => hr) ?_
      refine .ite ((hexChar_readsOn 8 hrest).bind fun x r hr => hr) ?_
      split
      · exact hrest
      · exact .malformed

theorem basic_readsOn (multiline : Bool) (fuel : Nat) (acc : List Char) (hcs : cs <:+ text) :
    ReadsOn cause text (basic multiline fuel acc cs) := by
  induction fuel generalizing acc cs with
  | zero => exact .malformed
  | succ fuel ih =>
      cases cs with
      | nil => exact .malformed
      | cons c cs =>
          have hrest := suffix_of_cons hcs
          unfold basic
          refine .ite (.ite hrest ?_) (.ite ?_ (.ite .malformed (ih _ hrest)))
          -- a quote ends the text only if two more follow
          · split
            · exact drop_suffix_of 2 hrest
            · exact ih _ hrest
          · exact (escape_readsOn multiline hrest).bind fun x r hr => ih _ hr

theorem verbatim_readsOn (hcs : cs <:+ text) : ReadsOn cause text (verbatim cs) := by
  unfold verbatim
  dsimp only
  split
  · next h => exact .ite .malformed (suffix_of_drop_eq_cons h hcs)
  · exact .malformed

theorem verbatimLines_readsOn (acc : List Char) (hcs : cs <:+ text) :
    ReadsOn cause text (verbatimLines acc cs) := by
  fun_induction verbatimLines acc cs with
  | case1 => exact .malformed
  | case2 acc r => exact drop_suffix_of 3 hcs
  | case3 => exact .malformed
  | case4 acc c cs _ _ ih => exact ih (suffix_of_cons hcs)

theorem extraQuotes_suffix (quote : Char) (body : List Char) (hcs : cs <:+ text) :
    (extraQuotes quote body cs).2 <:+ text := by
  unfold extraQuotes
  split
  · split
    · split
      · exact drop_suffix_of 2 hcs
      · exact suffix_of_cons hcs
    · exact hcs
  · split
    · exact suffix_of_cons hcs
    · exact hcs
  · exact hcs

theorem dropNewline_suffix (hcs : cs <:+ text) : dropNewline cs <:+ text := by
  unfold dropNewline
  split
  · exact suffix_of_cons hcs
  · exact hcs

theorem text?_readsOn {x : Except ReadFault (List Char × List Char)} (hcs : cs <:+ text)
    (h : text? cs = some x) : ReadsOn cause text x := by
  unfold text? at h
  split at h
  · cases h
    have hbody := dropNewline_suffix (drop_suffix_of 3 hcs)
    exact (basic_readsOn true _ [] hbody).bind fun body r hr => extraQuotes_suffix '"' body hr
  · cases h
    exact basic_readsOn false _ [] (suffix_of_cons hcs)
  · cases h
    have hbody := dropNewline_suffix (drop_suffix_of 3 hcs)
    exact (verbatimLines_readsOn [] hbody).bind fun body r hr => extraQuotes_suffix '\'' body hr
  · cases h
    exact verbatim_readsOn (suffix_of_cons hcs)
  · cases h

end Texts

section Moments

theorem digits?_suffix {count n : Nat} (hcs : cs <:+ text) (h : digits? count cs = some (n, r)) :
    r <:+ text := by
  unfold digits? at h
  dsimp only at h
  split at h
  · cases h
    exact drop_suffix_of count hcs
  · cases h

theorem within?_suffix {count low high n : Nat} (hcs : cs <:+ text)
    (h : within? count low high cs = some (n, r)) : r <:+ text := by
  unfold within? at h
  split at h
  · next hdigits =>
    split at h
    · cases h
      exact digits?_suffix hcs hdigits
    · cases h
  · cases h

theorem expect?_suffix {c : Char} (hcs : cs <:+ text) (h : expect? c cs = some r) : r <:+ text := by
  unfold expect? at h
  split at h
  · split at h
    · cases h
      exact suffix_of_cons hcs
    · cases h
  · cases h

theorem micros_suffix (hcs : cs <:+ text) : (micros cs).2 <:+ text := by
  unfold micros
  split
  · dsimp only
    split
    · exact hcs
    · exact drop_suffix_of _ (suffix_of_cons hcs)
  · exact hcs

theorem clock?_suffix {c : Clock} (hcs : cs <:+ text) (h : clock? cs = some (c, r)) :
    r <:+ text := by
  simp only [clock?, Option.bind_eq_bind, Option.bind_eq_some_iff, Prod.exists] at h
  obtain ⟨hour, r₁, h₁, r₂, h₂, minute, r₃, h₃, r₄, h₄, second, r₅, h₅, h⟩ := h
  have hminute := within?_suffix (expect?_suffix (within?_suffix hcs h₁) h₂) h₃
  have hsecond := within?_suffix (expect?_suffix hminute h₄) h₅
  cases h
  exact micros_suffix hsecond

theorem date?_suffix {d : Date} (hcs : cs <:+ text) (h : date? cs = some (d, r)) :
    r <:+ text := by
  simp only [date?, Option.bind_eq_bind, Option.bind_eq_some_iff, Prod.exists] at h
  obtain ⟨year, r₁, h₁, r₂, h₂, month, r₃, h₃, r₄, h₄, day, r₅, h₅, h⟩ := h
  have hmonth := within?_suffix (expect?_suffix (digits?_suffix hcs h₁) h₂) h₃
  cases h
  exact within?_suffix (expect?_suffix hmonth h₄) h₅

theorem offset_suffix (hcs : cs <:+ text) : (offset cs).2 <:+ text := by
  unfold offset
  split
  · next c r =>
      have hr : r <:+ text := suffix_of_cons hcs
      split
      · exact hr
      · split
        · dsimp only
          split
          · next n r₀ h =>
              simp only [Option.bind_eq_bind, Option.bind_eq_some_iff, Prod.exists] at h
              obtain ⟨hour, r₁, h₁, r₂, h₂, minute, r₃, h₃, h⟩ := h
              cases h
              exact within?_suffix (expect?_suffix (within?_suffix hr h₁) h₂) h₃
          · exact hcs
        · exact hcs
  · exact hcs

theorem clockAfter?_suffix {c : Clock} (hcs : cs <:+ text) (h : clockAfter? cs = some (c, r)) :
    r <:+ text := by
  unfold clockAfter? at h
  split at h
  · split at h
    · exact clock?_suffix (suffix_of_cons hcs) h
    · cases h
  · cases h

theorem moment?_readsOn {x : Except ReadFault (Value × List Char)} (hcs : cs <:+ text)
    (h : moment? cs = some x) : ReadsOn cause text x := by
  unfold moment? at h
  split at h
  · next hdate =>
    have hr := date?_suffix hcs hdate
    obtain rfl := Option.some.inj h
    split
    · exact .malformed
    · split
      · next hclock => exact offset_suffix (clockAfter?_suffix hr hclock)
      · exact hr
  · obtain ⟨⟨c, r⟩, hclock, rfl⟩ := Option.map_eq_some_iff.mp h
    exact clock?_suffix hcs hclock

end Moments

section Numbers

variable {isDigit : Char → Bool} {ds : List Char}

-- The digits of whole numbers and what may stand between them.
def isNumeral (c : Char) : Bool := Text.isAsciiDigit c || c == '_'

theorem underscored_suffix (isDigit : Char → Bool) (cs : List Char) :
    (underscored isDigit cs).2 <:+ cs := by
  fun_induction underscored isDigit cs with
  | case1 c cs _ ds r hrest ih =>
      rw [hrest] at ih
      exact ih.trans (List.suffix_append ['_', c] cs)
  | case2 => exact List.suffix_rfl
  | case3 c cs _ _ ds r hrest ih =>
      rw [hrest] at ih
      exact ih.trans (List.suffix_cons c cs)
  | case4 => exact List.suffix_rfl
  | case5 => exact List.suffix_rfl

theorem digitRun?_eq_some (h : digitRun? isDigit cs = some (ds, r)) :
    underscored isDigit cs = (ds, r) := by
  unfold digitRun? at h
  split at h
  · split at h
    · exact Option.some.inj h
    · cases h
  · cases h

theorem digitRun?_suffix (hcs : cs <:+ text) (h : digitRun? isDigit cs = some (ds, r)) :
    r <:+ text := by
  have hsuffix := underscored_suffix isDigit cs
  rw [digitRun?_eq_some h] at hsuffix
  exact hsuffix.trans hcs

theorem based?_suffix {n : Nat} (hcs : cs <:+ text) (h : based? cs = some (n, r)) : r <:+ text := by
  unfold based? at h
  split at h
  · simp only [Option.bind_eq_bind, Option.bind_eq_some_iff, Prod.exists] at h
    obtain ⟨base, -, ds, r, hrun, h⟩ := h
    cases h
    exact digitRun?_suffix (drop_suffix_of 2 hcs) hrun
  · cases h

theorem whole?_suffix (hcs : cs <:+ text) (h : whole? cs = some (ds, r)) : r <:+ text := by
  unfold whole? at h
  split at h
  · cases h
    exact suffix_of_cons hcs
  · exact digitRun?_suffix hcs h

theorem fraction_suffix (hcs : cs <:+ text) : (fraction cs).2 <:+ text := by
  unfold fraction
  split
  · split
    · next hrun => exact digitRun?_suffix (suffix_of_cons hcs) hrun
    · exact hcs
  · exact hcs

theorem exponent_suffix (hcs : cs <:+ text) : (exponent cs).2 <:+ text := by
  unfold exponent
  split
  · have hbody := splitSign_suffix_of (suffix_of_cons hcs)
    split
    · dsimp only
      split
      · next hrun => exact digitRun?_suffix hbody hrun
      · exact hcs
    · exact hcs
  · exact hcs

-- Digits are read off a run of digits and underscores.
theorem underscored_eq (cs : List Char) : ∃ run, run.all isNumeral ∧
    run.filter Text.isAsciiDigit = (underscored Text.isAsciiDigit cs).1 ∧
    cs = run ++ (underscored Text.isAsciiDigit cs).2 := by
  have hline : Text.isAsciiDigit '_' = false := by decide
  fun_induction underscored Text.isAsciiDigit cs with
  | case1 c cs hc ds r hrest ih =>
      obtain ⟨run, hall, hdigits, hcs⟩ := ih
      exact ⟨'_' :: c :: run, by grind [isNumeral], by grind, by grind⟩
  | case2 => exact ⟨[], by simp, rfl, rfl⟩
  | case3 c cs _ hc ds r hrest ih =>
      obtain ⟨run, hall, hdigits, hcs⟩ := ih
      exact ⟨c :: run, by grind [isNumeral], by grind, by grind⟩
  | case4 => exact ⟨[], by simp, rfl, rfl⟩
  | case5 => exact ⟨[], by simp, rfl, rfl⟩

theorem overlong_of_whole? (hcs : cs <:+ text) (h : whole? cs = some (ds, r))
    (hlong : digitLimit < ds.length) :
    Overlong isNumeral text (.number (.digitsRead ds.length)) := by
  have hrun : ∃ run, run.all isNumeral ∧ run.filter Text.isAsciiDigit = ds ∧ cs = run ++ r := by
    unfold whole? at h
    split at h
    · cases h
      exact ⟨['0'], by decide, by decide, rfl⟩
    · have hrun := underscored_eq cs
      rwa [digitRun?_eq_some h] at hrun
  obtain ⟨run, hall, rfl, rfl⟩ := hrun
  exact ⟨run, (List.prefix_append run r).isInfix.trans hcs.isInfix, hall, hlong, rfl⟩

theorem decimal?_readsOn {x : Except ReadFault (Value × List Char)} (hcs : cs <:+ text)
    (h : decimal? cs = some x) : ReadsOn (Overlong isNumeral text) text x := by
  have hbody := splitSign_suffix_of hcs
  unfold decimal? at h
  obtain ⟨⟨ds, r⟩, hwhole, rfl⟩ := Option.map_eq_some_iff.mp h
  have hrest := exponent_suffix (fraction_suffix (whole?_suffix hbody hwhole))
  refine .ite ?_ hrest
  split
  · next hlong => exact overlong_of_whole? hbody hwhole hlong
  · exact hrest

theorem word?_suffix {v : Value} (hcs : cs <:+ text) (h : word? cs = some (v, r)) : r <:+ text :=
  suffix_of_word hcs h

theorem scalar_readsOn (hcs : cs <:+ text) :
    ReadsOn (Overlong isNumeral text) text (scalar cs) := by
  unfold scalar
  split
  · next h => exact (text?_readsOn hcs h).bind fun _ _ hr => hr
  · split
    · next h => exact moment?_readsOn hcs h
    · split
      · next h => exact based?_suffix hcs h
      · split
        · next h => exact decimal?_readsOn hcs h
        · split
          · next h => exact word?_suffix hcs h
          · exact .malformed

end Numbers

section Tables

theorem keyPart_readsOn (hcs : cs <:+ text) : ReadsOn cause text (keyPart cs) := by
  unfold keyPart
  split
  · exact (basic_readsOn false _ [] (suffix_of_cons hcs)).bind fun s r hr => hr
  · exact (verbatim_readsOn (suffix_of_cons hcs)).bind fun s r hr => hr
  · exact .ite .malformed (drop_suffix_of _ hcs)

theorem key_readsOn (fuel : Nat) (hcs : cs <:+ text) : ReadsOn cause text (key fuel cs) := by
  induction fuel generalizing cs with
  | zero => exact .malformed
  | succ fuel ih =>
      unfold key
      refine (keyPart_readsOn hcs).bind fun part r hr => ?_
      dsimp only
      split
      · next h =>
        have hparts := ih (dropWhile_suffix_of (p := isSpace) (suffix_of_dropWhile_eq_cons h hr))
        exact hparts.bind fun parts r hr => hr
      · exact dropWhile_suffix_of hr

theorem keyOf_readsOn (hcs : cs <:+ text) : ReadsOn cause text (keyOf cs) := key_readsOn _ hcs

theorem skipComment_meets (hcs : cs <:+ text) : Meets cause (· <:+ text) (skipComment cs) := by
  unfold skipComment
  split
  · dsimp only
    split
    · exact .malformed
    · exact drop_suffix_of _ (suffix_of_cons hcs)
  · exact hcs

theorem skipAll_meets (fuel : Nat) (hcs : cs <:+ text) :
    Meets cause (· <:+ text) (skipAll fuel cs) := by
  induction fuel generalizing cs with
  | zero => exact hcs
  | succ fuel ih =>
      unfold skipAll
      split
      · next h => exact (skipComment_meets (h ▸ dropWhile_suffix_of hcs)).bind fun r hr => ih hr
      · exact dropWhile_suffix_of hcs

theorem skipLines_meets (hcs : cs <:+ text) : Meets cause (· <:+ text) (skipLines cs) :=
  skipAll_meets _ hcs

theorem update_meets (throughLists : Bool) {f : Entries → Except ReadFault Entries}
    (hf : ∀ es, Meets cause (fun _ => True) (f es)) (k : Key) (es : Entries) :
    Meets cause (fun _ => True) (update throughLists f k es) := by
  induction k generalizing es with
  | nil => exact hf es
  | cons k ks ih =>
      unfold update
      split
      · exact (ih _).bind fun _ _ => trivial
      · exact (ih _).bind fun _ _ => trivial
      · split
        · exact (ih _).bind fun _ _ => trivial
        · exact .malformed
      · exact .malformed

theorem setNew_meets (name : String) (v : Value) (es : Entries) :
    Meets cause (fun _ => True) (setNew name v es) := by
  unfold setNew
  split
  · exact .malformed
  · exact trivial

theorem appendTable_meets (name : String) (es : Entries) :
    Meets cause (fun _ => True) (appendTable name es) := by
  unfold appendTable
  split
  · exact trivial
  · exact trivial
  · exact .malformed

end Tables

section Values

theorem containers_readOn (fuel : Nat) :
    (∀ cs, cs <:+ text → ReadsOn (Overlong isNumeral text) text (value fuel cs)) ∧
      (∀ acc cs, cs <:+ text → ReadsOn (Overlong isNumeral text) text (elements fuel acc cs)) ∧
      (∀ es closed cs, cs <:+ text →
        ReadsOn (Overlong isNumeral text) text (inlineEntries fuel es closed cs)) ∧
      ∀ cs, cs <:+ text →
        Meets (Overlong isNumeral text) (fun y => y.2.2 <:+ text) (pair fuel cs) := by
  induction fuel with
  | zero =>
      exact ⟨fun _ _ => .malformed, fun _ _ _ => .malformed, fun _ _ _ _ => .malformed,
        fun _ _ => .malformed⟩
  | succ fuel ih =>
      obtain ⟨ihvalue, ihelements, ihentries, ihpair⟩ := ih
      refine ⟨fun cs hcs => ?_, fun acc cs hcs => ?_, fun es closed cs hcs => ?_, fun cs hcs => ?_⟩
      · unfold value
        split
        · refine .bind_rest (skipLines_meets (suffix_of_cons hcs)) fun r hr => ?_
          split
          · exact suffix_of_cons hr
          · exact ihelements _ _ hr
        · split
          · next h => exact suffix_of_dropWhile_eq_cons h (suffix_of_cons hcs)
          · exact ihentries _ _ _ (dropWhile_suffix_of (suffix_of_cons hcs))
        · exact scalar_readsOn hcs
      · unfold elements
        refine (ihvalue cs hcs).bind fun v r hr => .bind_rest (skipLines_meets hr) fun r hr => ?_
        split
        · exact suffix_of_cons hr
        · refine .bind_rest (skipLines_meets (suffix_of_cons hr)) fun r hr => ?_
          split
          · exact suffix_of_cons hr
          · exact ihelements _ _ hr
        · exact .malformed
      · unfold inlineEntries splitLast
        refine Meets.bind (ihpair cs hcs) ?_
        rintro ⟨k, v, r⟩ hr
        dsimp only
        refine ReadsOn.ite .malformed ?_
        refine Meets.bind (update_meets false (setNew_meets _ v) _ es) fun es _ => ?_
        split
        · next h => exact suffix_of_dropWhile_eq_cons h hr
        · next h =>
          exact ihentries _ _ _ (dropWhile_suffix_of (suffix_of_dropWhile_eq_cons h hr))
        · exact .malformed
      · unfold pair
        refine Meets.bind (keyOf_readsOn hcs) ?_
        rintro ⟨k, r⟩ hr
        dsimp only
        split
        · have hrest := dropWhile_suffix_of (p := isSpace) (suffix_of_cons hr)
          exact Meets.bind (ihvalue _ hrest) fun _ hr => hr
        · exact .malformed

end Values

section Statements

theorem Draft.put_meets (d : Draft) (k : Key) (v : Value) :
    Meets cause (fun _ => True) (d.put k v) := by
  unfold put splitLast
  dsimp only
  split
  · exact .malformed
  · split
    · exact .malformed
    · exact (update_meets true (setNew_meets _ v) _ _).bind fun _ _ => trivial

theorem Draft.startTable_meets (d : Draft) (k : Key) :
    Meets cause (fun _ => True) (d.startTable k) := by
  unfold startTable
  split
  · exact .malformed
  · exact (update_meets true (fun _ => Meets.ok.mpr trivial) _ _).bind fun _ _ => trivial

theorem Draft.startListed_meets (d : Draft) (k : Key) :
    Meets cause (fun _ => True) (d.startListed k) := by
  unfold startListed splitLast
  split
  · exact .malformed
  · exact (update_meets true (appendTable_meets _) _ _).bind fun _ _ => trivial

theorem statement_readsOn (d : Draft) (hcs : cs <:+ text) :
    ReadsOn (Overlong isNumeral text) text (statement d cs) := by
  unfold statement
  split
  · refine (keyOf_readsOn (dropWhile_suffix_of (drop_suffix_of 2 hcs))).bind fun k r hr => ?_
    refine Meets.bind (d.settle.startListed_meets k) fun d _ => ?_
    split
    · exact drop_suffix_of 2 hr
    · exact .malformed
  · refine (keyOf_readsOn (dropWhile_suffix_of (suffix_of_cons hcs))).bind fun k r hr => ?_
    refine Meets.bind (d.settle.startTable_meets k) fun d _ => ?_
    split
    · exact suffix_of_cons hr
    · exact .malformed
  · next c r _ _ =>
    refine .ite ?_ (.ite hcs .malformed)
    refine Meets.bind ((containers_readOn (r.length + 2)).2.2.2 _ hcs) ?_
    rintro ⟨k, v, r⟩ hr
    exact Meets.bind (d.put_meets k v) fun _ _ => hr
  · exact hcs

theorem statements_meets (fuel : Nat) (d : Draft) (hcs : cs <:+ text) :
    Meets (Overlong isNumeral text) (fun _ => True) (statements fuel d cs) := by
  induction fuel generalizing d cs with
  | zero => trivial
  | succ fuel ih =>
      unfold statements
      split
      · trivial
      · next h => exact ih d (suffix_of_dropWhile_eq_cons h hcs)
      · refine Meets.bind (statement_readsOn d (dropWhile_suffix_of hcs)) ?_
        rintro ⟨d, r⟩ hr
        refine (skipComment_meets (dropWhile_suffix_of hr)).bind fun r hr => ?_
        split
        · trivial
        · exact ih d (suffix_of_cons hr)
        · exact .malformed

end Statements

section Lines

variable {run : List Char}

-- What stands in one line stands together in a text whichever way its lines end.
theorem prefix_of_plainLines (hrun : '\n' ∉ run) (h : run <+: plainLines cs) : run <+: cs := by
  fun_induction plainLines cs generalizing run with
  | case1 cs ih =>
      cases run with
      | nil => exact List.nil_prefix
      | cons c run =>
          obtain ⟨rfl, -⟩ := List.cons_prefix_cons.mp h
          exact absurd List.mem_cons_self hrun
  | case2 c cs _ ih =>
      cases run with
      | nil => exact List.nil_prefix
      | cons d run =>
          obtain ⟨rfl, hrest⟩ := List.cons_prefix_cons.mp h
          exact List.cons_prefix_cons.mpr ⟨rfl, ih (List.not_mem_of_not_mem_cons hrun) hrest⟩
  | case3 => exact h

theorem infix_of_plainLines (hrun : '\n' ∉ run) (h : run <:+: plainLines cs) : run <:+: cs := by
  fun_induction plainLines cs with
  | case1 cs ih =>
      rcases List.infix_cons_iff.mp h with h | h
      · have hprefix : run <+: '\r' :: '\n' :: cs := prefix_of_plainLines hrun h
        exact hprefix.isInfix
      · exact (ih h).trans (List.suffix_append ['\r', '\n'] cs).isInfix
  | case2 c cs hplain ih =>
      rcases List.infix_cons_iff.mp h with h | h
      · rw [← plainLines.eq_2 c cs hplain] at h
        exact (prefix_of_plainLines hrun h).isInfix
      · exact (ih h).trans (List.suffix_cons c cs).isInfix
  | case3 => exact h

end Lines

-- The reader refuses a whole number in base ten with too many digits, and nothing else.
theorem read_meets (s : String) :
    Meets (Overlong isNumeral s.toList) (fun _ => True) (read s) := by
  have hread : Meets (Overlong isNumeral (plainLines s.toList)) (fun _ => True) (read s) :=
    (statements_meets _ _ List.suffix_rfl).bind fun _ _ => Meets.ok.mpr trivial
  refine hread.imp ?_ fun _ _ => trivial
  rintro e ⟨run, hrun, hall, hlong, rfl⟩
  have hline : '\n' ∉ run := fun h => absurd (List.all_eq_true.mp hall _ h) (by decide)
  exact ⟨run, infix_of_plainLines hline hrun, hall, hlong, rfl⟩

end Dialect.Toml
