import Dialect.Json.Reader
import Dialect.Proofs.Document.Contract

namespace Dialect.Json

variable {cause : Error → Prop} {text cs r : List Char}

theorem hex4?_suffix {n : Nat} (hcs : cs <:+ text) (h : hex4? cs = some (n, r)) : r <:+ text := by
  unfold hex4? at h
  split at h
  · split at h
    · cases h
      exact drop_suffix_of 4 hcs
    · cases h
  · cases h

-- The second half of a pair is read only if it follows at once.
theorem unicode_suffix {c : Char} {n : Nat} (hcs : cs <:+ text) (h : unicode n cs = some (c, r)) :
    r <:+ text := by
  unfold unicode at h
  split at h
  · split at h
    · next r' =>
      have hr' : r' <:+ text := drop_suffix_of 2 hcs
      split at h
      · next hex =>
        split at h
        · obtain ⟨-, rfl⟩ := Prod.mk.inj (Option.some.inj h)
          exact hex4?_suffix hr' hex
        · cases h
          exact hcs
      · cases h
        exact hcs
    · cases h
      exact hcs
  · split at h
    · cases h
      exact hcs
    · cases h
      exact hcs

theorem escape_suffix {c : Char} (hcs : cs <:+ text)
    (h : ((hex4? cs).bind fun (n, r) => unicode n r) = some (c, r)) : r <:+ text := by
  obtain ⟨⟨n, r⟩, hr, h⟩ := Option.bind_eq_some_iff.mp h
  exact unicode_suffix (hex4?_suffix hcs hr) h

theorem quoted_readsOn (fuel : Nat) (acc : List Char) (hcs : cs <:+ text) :
    ReadsOn cause text (quoted fuel acc cs) := by
  induction fuel generalizing acc cs with
  | zero => exact .malformed
  | succ fuel ih =>
      cases cs with
      | nil => exact .malformed
      | cons c cs =>
          have hcs := suffix_of_cons hcs
          unfold quoted
          refine .ite hcs (.ite .malformed (.ite ?_ (ih _ hcs)))
          -- the character behind a backslash
          split
          · next r =>
            split
            · next h => exact ih _ (escape_suffix (suffix_of_cons hcs) h)
            · exact .malformed
          · split
            · exact ih _ (suffix_of_cons hcs)
            · exact .malformed
          · exact .malformed

theorem fraction_suffix (hcs : cs <:+ text) : (fraction cs).2 <:+ text := by
  unfold fraction
  split
  · dsimp only
    split
    · exact hcs
    · exact dropWhile_suffix_of (suffix_of_cons hcs)
  · exact hcs

theorem exponent_suffix (hcs : cs <:+ text) : (exponent cs).2 <:+ text := by
  unfold exponent
  split
  · have hbody := splitSign_suffix_of (suffix_of_cons hcs)
    split
    · dsimp only
      split
      · exact hcs
      · exact dropWhile_suffix_of hbody
    · exact hcs
  · exact hcs

-- The digits before a point or an exponent stand together in the text.
theorem number_readsOn (negative : Bool) (hcs : cs <:+ text) :
    ReadsOn (Overlong Text.isAsciiDigit text) text (number negative cs) := by
  unfold number
  extract_lets whole
  have hrun : whole <:+: text ∧ whole.all Text.isAsciiDigit := by
    unfold whole
    split
    · exact ⟨(List.prefix_append ['0'] _).isInfix.trans hcs.isInfix, by decide⟩
    · exact ⟨takeWhile_infix_of hcs, List.all_takeWhile⟩
  clear_value whole
  have hrest := exponent_suffix (fraction_suffix (drop_suffix_of whole.length hcs))
  refine .ite .malformed (.ite ?_ hrest)
  split
  · next hlong => exact overlong_of_digits hrun.1 hrun.2 hlong
  · exact hrest

theorem word?_suffix {v : Value} (hcs : cs <:+ text) (h : word? cs = some (v, r)) : r <:+ text :=
  suffix_of_word hcs h

theorem containers_readOn (fuel : Nat) :
    (∀ cs, cs <:+ text → ReadsOn (Overlong Text.isAsciiDigit text) text (value fuel cs)) ∧
      (∀ acc cs, cs <:+ text →
        ReadsOn (Overlong Text.isAsciiDigit text) text (elements fuel acc cs)) ∧
      ∀ acc cs, cs <:+ text →
        ReadsOn (Overlong Text.isAsciiDigit text) text (entries fuel acc cs) := by
  induction fuel with
  | zero => exact ⟨fun _ _ => .malformed, fun _ _ _ => .malformed, fun _ _ _ => .malformed⟩
  | succ fuel ih =>
      obtain ⟨ihvalue, ihelements, ihentries⟩ := ih
      refine ⟨fun cs hcs => ?_, fun acc cs hcs => ?_, fun acc cs hcs => ?_⟩
      · cases cs with
        | nil => exact .malformed
        | cons c cs =>
            have hrest := suffix_of_cons hcs
            have hskip : skip cs <:+ text := dropWhile_suffix_of hrest
            unfold value
            refine .ite ((quoted_readsOn _ _ hrest).map fun _ _ hr => hr) (.ite ?_ (.ite ?_ ?_))
            · split
              · next h => exact suffix_of_dropWhile_eq_cons h hrest
              · exact ihelements _ _ hskip
            · split
              · next h => exact suffix_of_dropWhile_eq_cons h hrest
              · exact ihentries _ _ hskip
            · split
              · next h => exact word?_suffix hcs h
              · exact .ite (number_readsOn _ hrest) (number_readsOn _ hcs)
      · unfold elements
        refine (ihvalue cs hcs).bind fun v r hr => ?_
        dsimp only
        split
        · next h => exact ihelements _ _ (dropWhile_suffix_of (suffix_of_dropWhile_eq_cons h hr))
        · next h => exact suffix_of_dropWhile_eq_cons h hr
        · exact .malformed
      · unfold entries
        split
        · refine (quoted_readsOn _ _ (suffix_of_cons hcs)).bind fun k r hr => ?_
          dsimp only
          split
          · next h =>
            have hr := dropWhile_suffix_of (p := isSpace) (suffix_of_dropWhile_eq_cons h hr)
            refine (ihvalue _ hr).bind fun v r hr => ?_
            dsimp only
            split
            · next h => exact ihentries _ _ (dropWhile_suffix_of (suffix_of_dropWhile_eq_cons h hr))
            · next h => exact suffix_of_dropWhile_eq_cons h hr
            · exact .malformed
          · exact .malformed
        · exact .malformed

-- All but a whole number with too many digits is either read or not JSON.
theorem read_meets (s : String) :
    Meets (Overlong Text.isAsciiDigit s.toList) (fun _ => True) (read s) := by
  have hstart : skip s.toList <:+ s.toList := List.dropWhile_suffix _
  refine Meets.bind ((containers_readOn (s.toList.length + 1)).1 _ hstart) fun y _ => ?_
  dsimp only
  split
  · exact trivial
  · exact .malformed

end Dialect.Json
