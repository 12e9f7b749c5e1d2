import Dialect.Proofs.Document.Contract
import Dialect.Yaml.Lexer

namespace Dialect.Yaml

open Scan

variable {cause : Error → Prop} {text : List Char}

-- A place in a text: what is left is an end of it.
def Cursor.In (text : List Char) (c : Cursor) : Prop := c.rest <:+ text

namespace Cursor

variable {c : Cursor}

theorem rest_forward (c : Cursor) : c.forward.rest = c.rest.tail := by
  unfold forward
  split
  · next h => rw [h, List.tail_nil]
  · next x rest h =>
    rw [h, List.tail_cons]
    split <;> rfl

theorem rest_skip (n : Nat) (c : Cursor) : (c.skip n).rest = c.rest.drop n := by
  induction n generalizing c with
  | zero => rfl
  | succ n ih => rw [skip, ih, rest_forward, List.drop_tail]

theorem In.forward (h : c.In text) : c.forward.In text := by
  rw [In, rest_forward]
  exact (List.tail_suffix _).trans h

theorem In.skip (n : Nat) (h : c.In text) : (c.skip n).In text := by
  rw [In, rest_skip]
  exact drop_suffix_of n h

end Cursor

namespace Scan

variable {α : Type}

-- Scanning stays in the text.
abbrev Stays (cause : Error → Prop) (text : List Char) (x : Scan α) : Prop :=
  Keeps cause (Cursor.In text) x

theorem malformed_stays : Stays (α := α) cause text malformed := .malformed

theorem peek_stays : Stays cause text peek := .bind .get fun _ => .pure _

theorem peekAt_stays (k : Nat) : Stays cause text (peekAt k) := .bind .get fun _ => .pure _

theorem forward_stays : Stays cause text forward := .modify fun _ h => h.forward

theorem skip_stays (n : Nat) : Stays cause text (skip n) := .modify fun _ h => h.skip n

theorem takeWhile_stays (p : Char → Bool) : Stays cause text (takeWhile p) := by
  unfold takeWhile
  exact .get_bind fun s _ => .bind (skip_stays _) fun _ => .pure _

theorem takeCount_stays (n : Nat) : Stays cause text (takeCount n) := by
  unfold takeCount
  exact .get_bind fun s _ => .bind (skip_stays n) fun _ => .pure _

theorem column_stays : Stays cause text column := .bind .get fun _ => .pure _

theorem room_stays : Stays cause text room := .bind .get fun _ => .pure _

theorem lineBreak_stays : Stays cause text lineBreak := by
  unfold lineBreak
  refine .bind peek_stays fun c => .bind (peekAt_stays 1) fun d => ?_
  refine .ite (.bind (skip_stays 2) fun _ => .pure _) ?_
  refine .ite (.bind forward_stays fun _ => .pure _) ?_
  exact .ite (.bind forward_stays fun _ => .pure _) (.pure _)

theorem atMarker_stays : Stays cause text atMarker := by
  unfold atMarker
  exact .bind .get fun s => .bind (peekAt_stays 3) fun c => .pure _

theorem require_stays (p : Char → Bool) : Stays cause text (require p) := by
  unfold require
  exact .bind peek_stays fun c => .ite (.pure _) malformed_stays

theorem restOfLine_stays : Stays cause text restOfLine := by
  unfold restOfLine
  refine .bind (takeWhile_stays _) fun spaces => .bind peek_stays fun c => ?_
  have hend : Stays cause text (do require isLineEnd; let _ ← lineBreak) :=
    .bind (require_stays _) fun _ => .bind lineBreak_stays fun _ => .pure _
  exact .ite (.bind (takeWhile_stays _) fun _ => hend) hend

end Scan

section Names

theorem anchorName_stays : Stays cause text anchorName := by
  unfold anchorName
  refine .bind forward_stays fun _ => .bind (takeWhile_stays _) fun name => ?_
  refine .when_bind (fun _ => malformed_stays) ?_
  exact .bind (require_stays _) fun _ => .pure _

theorem uriBytes_stays (fuel : Nat) (acc : List UInt8) : Stays cause text (uriBytes fuel acc) := by
  induction fuel generalizing acc with
  | zero => exact .pure acc
  | succ fuel ih =>
      unfold uriBytes
      refine .bind peek_stays fun c => .ite ?_ (.pure acc)
      refine .bind forward_stays fun _ => .bind (takeCount_stays 2) fun ds => ?_
      split
      · exact ih _
      · exact malformed_stays

theorem uriEscapes_stays : Stays cause text uriEscapes := by
  unfold uriEscapes
  refine .bind room_stays fun n => .bind (uriBytes_stays n []) fun bs => ?_
  split
  · exact .pure _
  · exact malformed_stays

theorem uriRuns_stays (fuel : Nat) (acc : List Char) : Stays cause text (uriRuns fuel acc) := by
  induction fuel generalizing acc with
  | zero => exact .pure acc
  | succ fuel ih =>
      unfold uriRuns
      refine .bind (takeWhile_stays _) fun run => .bind peek_stays fun c => ?_
      exact .ite (.bind uriEscapes_stays fun escapes => ih _) (.pure _)

theorem tagUri_stays : Stays cause text tagUri := by
  unfold tagUri
  refine .bind peek_stays fun first => .unless_bind (fun _ => malformed_stays) ?_
  exact .bind room_stays fun n => .bind (uriRuns_stays n []) fun _ => .pure _

theorem tagHandleWord_stays : Stays cause text tagHandleWord := by
  unfold tagHandleWord
  refine .bind (require_stays _) fun _ => .bind forward_stays fun _ => ?_
  refine .bind peek_stays fun c => .ite (.pure _) ?_
  refine .bind (takeWhile_stays _) fun word => .bind (require_stays _) fun _ => ?_
  exact .bind forward_stays fun _ => .pure _

theorem tagToken_stays : Stays cause text tagToken := by
  unfold tagToken
  refine .bind (peekAt_stays 1) fun c => ?_
  have hend (t : Token) : Stays cause text (do require isSpaceOrEnd; return t) :=
    .bind (require_stays _) fun _ => .pure _
  refine .bind .get fun s => .ite ?_ (.ite ?_ (.ite ?_ ?_))
  · refine .bind (skip_stays 2) fun _ => .bind tagUri_stays fun suffix => ?_
    exact .bind (require_stays _) fun _ => .bind forward_stays fun _ => hend _
  · exact .bind forward_stays fun _ => hend _
  · exact .bind tagHandleWord_stays fun handle => .bind tagUri_stays fun suffix => hend _
  · exact .bind forward_stays fun _ => .bind tagUri_stays fun suffix => hend _

theorem skipSpaces_stays : Stays cause text skipSpaces := by
  unfold skipSpaces
  exact .bind (takeWhile_stays _) fun _ => .pure _

end Names

section Plain

theorem plainBreaks_stays (fuel : Nat) (acc : List Char) :
    Stays cause text (plainBreaks fuel acc) := by
  induction fuel generalizing acc with
  | zero => exact .pure _
  | succ fuel ih =>
      unfold plainBreaks
      refine .bind peek_stays fun c => .ite (.bind forward_stays fun _ => ih _) ?_
      refine .bind lineBreak_stays fun b => ?_
      split
      · exact .pure _
      · exact .bind atMarker_stays fun marker => .ite (.pure _) (ih _)

theorem plainSpaces_stays : Stays cause text plainSpaces := by
  unfold plainSpaces
  refine .bind (takeWhile_stays _) fun spaces => .bind lineBreak_stays fun b => ?_
  split
  · exact .pure _
  · refine .bind atMarker_stays fun marker => .ite (.pure _) ?_
    refine .bind room_stays fun n => .bind (plainBreaks_stays n []) fun breaks => ?_
    split
    · exact .pure _
    · exact .pure _

theorem plainRuns_stays (flow : Bool) (indent : Int) (fuel : Nat) (acc spaces : List Char)
    (broke : Bool) : Stays cause text (plainRuns flow indent fuel acc spaces broke) := by
  induction fuel generalizing acc spaces broke with
  | zero => exact .pure _
  | succ fuel ih =>
      unfold plainRuns
      refine .bind peek_stays fun c => .ite (.pure _) ?_
      refine .bind .get fun s => .bind (takeCount_stays _) fun run => .ite (.pure _) ?_
      refine .bind plainSpaces_stays fun y => .bind peek_stays fun c => ?_
      exact .bind column_stays fun n => .ite (.pure _) (ih _ _ _)

theorem plainScalar_stays (flow : Bool) (indent : Int) :
    Stays cause text (plainScalar flow indent) := by
  unfold plainScalar
  exact .bind room_stays fun n => plainRuns_stays flow indent n [] [] false

end Plain

section Block

theorem increment_stays : Stays cause text increment := by
  unfold increment
  refine .bind peek_stays fun c => ?_
  split
  · exact malformed_stays
  · exact .bind forward_stays fun _ => .pure _
  · exact .pure _

theorem blockHead_stays : Stays cause text blockHead := by
  unfold blockHead
  have hend (head : Chomping × Option Nat) :
      Stays cause text (do require isSpaceOrEnd; return head) :=
    .bind (require_stays _) fun _ => .pure _
  refine .bind peek_stays fun c => ?_
  split
  · exact .bind forward_stays fun _ => .bind increment_stays fun d => hend _
  · refine .bind increment_stays fun d => ?_
    split
    · exact hend _
    · refine .bind peek_stays fun c => ?_
      split
      · exact .bind forward_stays fun _ => hend _
      · exact hend _

theorem blockIndent_stays (fuel : Nat) (acc : List Char) (deepest : Nat) :
    Stays cause text (blockIndent fuel acc deepest) := by
  induction fuel generalizing acc deepest with
  | zero => exact .pure _
  | succ fuel ih =>
      unfold blockIndent
      refine .bind peek_stays fun c => .ite ?_ ?_
      · exact .bind forward_stays fun _ => .bind column_stays fun n => ih _ _
      · refine .bind lineBreak_stays fun b => ?_
        split
        · exact .pure _
        · exact ih _ _

theorem skipIndent_stays (indent : Int) (fuel : Nat) :
    Stays cause text (skipIndent indent fuel) := by
  induction fuel with
  | zero => exact .pure _
  | succ fuel ih =>
      unfold skipIndent
      refine .bind column_stays fun n => .bind peek_stays fun c => .ite ?_ (.pure _)
      exact .bind forward_stays fun _ => ih

theorem blockBreaks_stays (indent : Int) (fuel : Nat) (acc : List Char) :
    Stays cause text (blockBreaks indent fuel acc) := by
  induction fuel generalizing acc with
  | zero => exact .pure _
  | succ fuel ih =>
      unfold blockBreaks
      refine .bind room_stays fun n => .bind (skipIndent_stays indent n) fun _ => ?_
      refine .bind lineBreak_stays fun b => ?_
      split
      · exact .pure _
      · exact ih _

theorem inBlock_stays (indent : Int) : Stays cause text (inBlock indent) := by
  unfold inBlock
  exact .bind column_stays fun n => .bind peek_stays fun c => .pure _

theorem blockLines_stays (fold : Bool) (indent : Int) (fuel : Nat) (acc breaks : List Char) :
    Stays cause text (blockLines fold indent fuel acc breaks) := by
  induction fuel generalizing acc breaks with
  | zero => exact .pure _
  | succ fuel ih =>
      unfold blockLines
      refine .bind peek_stays fun c => .bind (takeWhile_stays _) fun line => ?_
      refine .bind lineBreak_stays fun b => .bind room_stays fun n => ?_
      refine .bind (blockBreaks_stays indent n []) fun breaks => ?_
      refine .bind (inBlock_stays indent) fun more => .ite ?_ (.pure _)
      exact .bind peek_stays fun c => .ite (ih _ _) (ih _ _)

-- What comes behind the indentation of a block scalar: its lines, and what is made of them.
theorem blockLines_bind {α : Type} {next : List Char × List Char × List Char → Scan α}
    (hnext : ∀ lines, Stays cause text (next lines)) (folded : Bool) (indent : Int)
    (breaks : List Char) : Stays cause text (do
      if ← inBlock indent then blockLines folded indent (← room) [] breaks >>= next
      else pure ([], [], breaks) >>= next) := by
  refine .bind (inBlock_stays indent) fun more => .ite ?_ (.bind (.pure _) hnext)
  exact .bind room_stays fun n => .bind (blockLines_stays _ _ n _ _) hnext

theorem blockScalar_stays (outer : Int) : Stays cause text (blockScalar outer) := by
  unfold blockScalar
  refine .bind peek_stays fun c => .bind forward_stays fun _ => .bind blockHead_stays fun head =>
    .bind restOfLine_stays fun _ => ?_
  obtain ⟨chomp, given⟩ := head
  dsimp only
  split
  · refine .bind room_stays fun n => .bind (blockBreaks_stays _ n _) fun breaks => ?_
    refine .bind (.pure _) fun place => blockLines_bind (fun lines => ?_) _ _ _
    cases chomp <;> exact .pure _
  · refine .bind room_stays fun n => .bind (blockIndent_stays n _ _) fun y => ?_
    refine .bind (.pure _) fun place => blockLines_bind (fun lines => ?_) _ _ _
    cases chomp <;> exact .pure _

end Block

section Quoted

theorem quotedBreaks_stays (fuel : Nat) (acc : List Char) :
    Stays cause text (quotedBreaks fuel acc) := by
  induction fuel generalizing acc with
  | zero => exact .pure _
  | succ fuel ih =>
      unfold quotedBreaks
      refine .bind atMarker_stays fun marker => .when_bind (fun _ => malformed_stays) ?_
      refine .bind (takeWhile_stays _) fun blanks => .bind lineBreak_stays fun b => ?_
      split
      · exact .pure _
      · exact ih _

theorem quotedSpaces_stays : Stays cause text quotedSpaces := by
  unfold quotedSpaces
  refine .bind (takeWhile_stays _) fun blanks => .bind peek_stays fun c => ?_
  refine .when_bind (fun _ => malformed_stays) (.bind lineBreak_stays fun b => ?_)
  split
  · exact .pure _
  · exact .bind room_stays fun n => .bind (quotedBreaks_stays n []) fun breaks => .pure _

-- An escape by number whose number is beyond all characters.
def BadEscape (text : List Char) (e : Error) : Prop :=
  ∃ letter ds ns, '\\' :: letter :: ds <:+: text ∧ ds.mapM Text.hexDigit? = some ns ∧
    numberEscape? letter = some ns.length ∧ charOf (Text.ofDigits 16 ns) = .error (.refused e)

-- What a text has that its scanner refuses.
def Unscannable (text : List Char) (e : Error) : Prop :=
  Overlong Text.isAsciiDigit text e ∨ BadEscape text e

variable {pre : Cursor → Prop} {before : List Char} {c : Char}

theorem peek_runs : Runs cause pre (fun c s => pre s ∧ s.peek = c) peek := fun _ hs => ⟨hs, rfl⟩

theorem peekAt_runs (k : Nat) : Runs cause pre (fun _ => pre) (peekAt k) := fun _ hs => hs

-- A character that is there is taken from what is left.
theorem forward_runs (hc : c ≠ '\x00') :
    Runs cause (fun s => before ++ s.rest <:+ text ∧ s.peek = c)
      (fun _ s => before ++ [c] ++ s.rest <:+ text) forward := by
  rintro s ⟨hs, hpeek⟩
  have hrest : s.rest = c :: s.rest.tail := by
    unfold Cursor.peek at hpeek
    cases h : s.rest with
    | nil => exact absurd (by simpa [h] using hpeek.symm) hc
    | cons d rest => simpa [h] using hpeek
  change before ++ [c] ++ s.forward.rest <:+ text
  rwa [Cursor.rest_forward, List.append_assoc, List.singleton_append, ← hrest]

theorem takeCount_runs (n : Nat) : Runs cause (fun s => before ++ s.rest <:+ text)
    (fun ds s => before ++ ds <:+: text ∧ s.In text) (takeCount n) := by
  intro s hs
  change before ++ s.rest.take n <:+: text ∧ (s.skip n).rest <:+ text
  rw [Cursor.rest_skip]
  refine ⟨?_, drop_suffix_of n ((List.suffix_append _ _).trans hs)⟩
  exact (List.prefix_append_right_inj _ |>.mpr (List.take_prefix n s.rest)).isInfix.trans hs.isInfix

-- As many digits as its letter wants stand in an escape by number, and its number decides.
theorem quotedEscape_runs : Runs (Unscannable text) (fun s => ['\\'] ++ s.rest <:+ text)
    (fun _ => Cursor.In text) quotedEscape := by
  unfold quotedEscape
  refine Runs.bind peek_runs fun c => ?_
  have hstay : ∀ s : Cursor, ['\\'] ++ s.rest <:+ text ∧ s.peek = c → s.In text :=
    fun s hs => suffix_of_cons hs.1
  split
  · exact Keeps.runs (.bind forward_stays fun _ => .pure _) hstay
  · split
    · next count hcount =>
      have hc : c ≠ '\x00' := by
        rintro rfl
        cases hcount
      refine Runs.bind (forward_runs hc) fun _ => Runs.bind (takeCount_runs count) fun ds => ?_
      rintro s ⟨hds, hs⟩
      refine (show Stays (Unscannable text) text _ from ?_) s hs
      split
      · next ns hns =>
        split
        · next hlength =>
          refine .lift_bind (Q := fun _ => True) ?_ fun x _ => .pure _
          cases hchar : charOf (Text.ofDigits 16 ns) with
          | ok x => trivial
          | error f =>
              cases f with
              | malformed => trivial
              | refused e => exact .inr ⟨c, ds, ns, hds, hns, hlength ▸ hcount, hchar⟩
        · exact malformed_stays
      · exact malformed_stays
    · refine Keeps.runs (.bind lineBreak_stays fun b => ?_) hstay
      split
      · exact malformed_stays
      · exact .bind room_stays fun n => quotedBreaks_stays n []

theorem quotedChars_stays (double : Bool) (fuel : Nat) (acc : List Char) :
    Stays (Unscannable text) text (quotedChars double fuel acc) := by
  induction fuel generalizing acc with
  | zero => exact .pure acc
  | succ fuel ih =>
      unfold quotedChars
      refine .bind (takeWhile_stays _) fun plain => Runs.bind peek_runs fun c =>
        Runs.bind (peekAt_runs 1) fun d => ?_
      by_cases hescape : double && c == '\\'
      · obtain ⟨rfl, rfl⟩ : double = true ∧ c = '\\' := by simpa using hescape
        have hforward : Runs (Unscannable text) (fun s => [] ++ s.rest <:+ text ∧ s.peek = '\\')
            (fun _ s => ['\\'] ++ s.rest <:+ text) forward :=
          forward_runs (by decide)
        exact Runs.bind hforward fun _ => Runs.bind quotedEscape_runs fun x => ih _
      · simp only [hescape]
        refine Keeps.runs (.ite ?_ (.ite ?_ (.pure _))) fun s hs => hs.1
        · exact .bind (skip_stays 2) fun _ => ih _
        · exact .bind forward_stays fun _ => ih _

theorem quotedRuns_stays (quote : Char) (fuel : Nat) (acc : List Char) :
    Stays (Unscannable text) text (quotedRuns quote fuel acc) := by
  induction fuel generalizing acc with
  | zero => exact malformed_stays
  | succ fuel ih =>
      unfold quotedRuns
      refine .bind peek_stays fun c => .ite (.bind forward_stays fun _ => .pure _) ?_
      refine .bind quotedSpaces_stays fun spaces => .bind room_stays fun n => ?_
      exact .bind (quotedChars_stays _ n []) fun chars => ih _

theorem quotedScalar_stays : Stays (Unscannable text) text quotedScalar := by
  unfold quotedScalar
  refine .bind peek_stays fun quote => .bind forward_stays fun _ => .bind room_stays fun n => ?_
  refine .bind (quotedChars_stays _ n []) fun chars => .bind room_stays fun n => ?_
  exact quotedRuns_stays quote n chars

end Quoted

section Directives

theorem takeWhile_runs (p : Char → Bool) : Runs cause (Cursor.In text)
    (fun cs s => (cs <:+: text ∧ cs.all p) ∧ s.In text) (takeWhile p) :=
  fun _ hs => ⟨⟨takeWhile_infix_of hs, List.all_takeWhile⟩, hs.skip _⟩

theorem directiveNumber_stays : Stays (Unscannable text) text directiveNumber := by
  unfold directiveNumber
  refine Runs.bind (takeWhile_runs _) fun ds => ?_
  rintro s ⟨⟨hds, hall⟩, hs⟩
  refine (show Stays (Unscannable text) text _ from ?_) s hs
  refine .when_bind (fun _ => malformed_stays) ?_
  refine .when_bind (fun hlong => .refused (.inl ?_)) (.pure _)
  exact overlong_of_digits hds hall hlong

theorem directiveToken_stays : Stays (Unscannable text) text directiveToken := by
  unfold directiveToken
  have hend (t : Token) : Stays (Unscannable text) text (do restOfLine; return t) :=
    .bind restOfLine_stays fun _ => .pure _
  refine .bind forward_stays fun _ => .bind (takeWhile_stays _) fun name => ?_
  refine .when_bind (fun _ => malformed_stays) (.bind (require_stays _) fun _ => ?_)
  refine .ite ?_ (.ite ?_ ?_)
  · refine .bind skipSpaces_stays fun _ => .bind directiveNumber_stays fun major => ?_
    refine .bind (require_stays _) fun _ => .bind forward_stays fun _ => ?_
    exact .bind directiveNumber_stays fun _ => .bind (require_stays _) fun _ => hend _
  · refine .bind skipSpaces_stays fun _ => .bind tagHandleWord_stays fun handle => ?_
    refine .bind (require_stays _) fun _ => .bind skipSpaces_stays fun _ => ?_
    exact .bind tagUri_stays fun start => .bind (require_stays _) fun _ => hend _
  · exact .bind (takeWhile_stays _) fun _ => hend _

end Directives

end Dialect.Yaml
