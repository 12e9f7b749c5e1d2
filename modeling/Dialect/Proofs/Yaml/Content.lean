import Dialect.Proofs.Document.Contract
import Dialect.Yaml.Content
import Mathlib.Algebra.Group.Nat.Defs

namespace Dialect.Yaml

-- The table of small letters is too large to be computed with.
attribute [local irreducible] Text.lower

-- The parts of a whole number without its sign, each with its base.
def intParts : List Char → List (Nat × List Char)
  | '0' :: 'b' :: ds => [(2, ds)]
  | '0' :: 'x' :: ds => [(16, ds)]
  | '0' :: ds => [(8, '0' :: ds)]
  | cs => if cs.contains ':' then (cs.splitOn ':').map (10, ·) else [(10, cs)]

-- The text of a double without underscores, in small letters.
def floatChars (s : String) : List Char := (Text.lower (String.ofList (withoutLines s))).toList

-- The parts of a double without its sign.
def floatParts (cs : List Char) : List (List Char) :=
  if cs.contains ':' then cs.splitOn ':' else [cs]

def Stamp.date (t : Stamp) : Date := ⟨Number.natOf t.year, Number.natOf t.month, Number.natOf t.day⟩

-- Why the text of a scalar cannot be built under its tag. A tag that is written out can stand
-- before any text, and one that a text looks like admits texts that stand for nothing, such as a
-- date that does not exist.
inductive Unbuildable : Tag → String → Error → Prop where
  | bool {s : String} (h : Text.lower s ∉ ["yes", "true", "on", "no", "false", "off"]) :
      Unbuildable .bool s (.missingKey (.str (Text.lower s)))
  | int {s : String} (h : dropSign (withoutLines s) = []) :
      Unbuildable .int s (.content .index "string index out of range")
  | intPart {s : String} {base : Nat} {part : List Char} {f : NumberFault}
      (hpart : (base, part) ∈ intParts (dropSign (withoutLines s)))
      (h : Number.readInt base (String.ofList part) = .error f) : Unbuildable .int s (.number f)
  | float {s : String} (h : floatChars s = []) :
      Unbuildable .float s (.content .index "string index out of range")
  | floatPart {s : String} {part : List Char} (hpart : part ∈ floatParts (dropSign (floatChars s)))
      (h : Number.readFloat? (Text.trim Number.isSpace (part.map Number.plainChar)) = none) :
      Unbuildable .float s (.number (.floatLiteral (String.ofList part)))
  -- in base sixty the weight of a part is too large for a double
  | floatWeight {s : String} {i : Nat} (hi : i < (floatParts (dropSign (floatChars s))).length)
      (h : Number.ofInt? ((60 ^ i : Nat) : Int) = none) : Unbuildable .float s (.number .tooLarge)
  | timestamp {s : String} (h : stamp? s.toList = none) :
      Unbuildable .timestamp s (.member .null "groupdict")
  | date {s : String} {t : Stamp} {f : MomentFault} (ht : stamp? s.toList = some t)
      (h : t.date.check = .error f) : Unbuildable .timestamp s (.moment f)
  | clock {s : String} {t : Stamp} {hour minute second : List Char} {micro : Nat} {f : MomentFault}
      (ht : stamp? s.toList = some t) (hclock : t.clock = some (hour, minute, second))
      (h : Clock.check ⟨Number.natOf hour, Number.natOf minute, Number.natOf second, micro⟩ =
        .error f) : Unbuildable .timestamp s (.moment f)
  | offset {s : String} {t : Stamp} {sign : Char} {hour minute : List Char} {n : Int}
      {f : MomentFault} (ht : stamp? s.toList = some t)
      (hoffset : t.offset = some (some sign, hour, minute))
      (hn : n = Number.natOf hour * 3600 + Number.natOf minute * 60)
      (h : checkOffset (if sign = '-' then -n else n) = .error f) :
      Unbuildable .timestamp s (.moment f)

section

variable {α β : Type} {cause : Error → Prop}

theorem meets_mapM {f : α → Except ReadFault β} {as : List α}
    (h : ∀ a ∈ as, Meets cause (fun _ => True) (f a)) :
    Meets cause (fun _ => True) (as.mapM f) := by
  induction as with
  | nil => trivial
  | cons a as ih =>
      rw [List.mapM_cons]
      refine (h a List.mem_cons_self).bind fun _ _ => ?_
      exact (ih fun b hb => h b (List.mem_cons_of_mem a hb)).bind fun _ _ => Meets.pure.mpr trivial

theorem readInt_meets {base : Nat} {cs : List Char}
    (h : ∀ f, Number.readInt base (String.ofList cs) = .error f → cause (.number f)) :
    Meets cause (fun _ => True) (readInt base cs) := by
  unfold readInt ofNumber
  split
  · trivial
  · next f hf => exact h f hf

theorem natural_meets {cs : List Char}
    (hnone : cs = [] → cause (.content .index "string index out of range"))
    (hparts : ∀ base part f, (base, part) ∈ intParts cs →
      Number.readInt base (String.ofList part) = .error f → cause (.number f)) :
    Meets cause (fun _ => True) (natural cs) := by
  have hread {base : Nat} {part : List Char} (h : (base, part) ∈ intParts cs) :
      Meets cause (fun _ => True) (readInt base part) :=
    readInt_meets fun f => hparts base part f h
  unfold natural
  split
  · exact hnone rfl
  · trivial
  · exact hread (by simp [intParts])
  · exact hread (by simp [intParts])
  · exact hread (by grind [intParts])
  · split
    · refine (meets_mapM fun part hpart => hread ?_).bind fun _ _ => Meets.pure.mpr trivial
      unfold intParts
      grind
    · refine hread ?_
      unfold intParts
      grind

theorem dropSign_eq_self {cs : List Char} (hminus : ∀ r, cs ≠ '-' :: r)
    (hplus : ∀ r, cs ≠ '+' :: r) : dropSign cs = cs := by
  unfold dropSign
  split
  · exact absurd rfl (hminus _)
  · exact absurd rfl (hplus _)
  · rfl

theorem intContent_meets (s : String) :
    Meets (Unbuildable .int s) (fun _ => True) (intContent s) := by
  have hnatural : Meets (Unbuildable .int s) (fun _ => True)
      (natural (dropSign (withoutLines s))) :=
    natural_meets .int fun _ _ _ => .intPart
  unfold intContent
  split
  · next h => exact .int (by rw [h]; rfl)
  · next h =>
      rw [h] at hnatural
      exact hnatural.bind fun _ _ => Meets.pure.mpr trivial
  · next h =>
      rw [h] at hnatural
      exact hnatural.bind fun _ _ => Meets.pure.mpr trivial
  · next hminus hplus =>
      rw [dropSign_eq_self hminus hplus] at hnatural
      exact hnatural.bind fun _ _ => Meets.pure.mpr trivial

theorem readFloat_meets {cs : List Char}
    (h : Number.readFloat? (Text.trim Number.isSpace (cs.map Number.plainChar)) = none →
      cause (.number (.floatLiteral (String.ofList cs)))) :
    Meets cause (fun _ => True) (readFloat cs) := by
  unfold readFloat
  split
  · trivial
  · next hnone => exact h hnone

-- A weight is looked at as long as there are parts left.
theorem sixtySum_meets (i : Nat) (xs : List Float) (sum : Float)
    (h : ∀ j < i + xs.length, Number.ofInt? ((60 ^ j : Nat) : Int) = none →
      cause (.number .tooLarge)) :
    Meets cause (fun _ => True) (sixtySum (60 ^ i) xs sum) := by
  induction xs generalizing i sum with
  | nil => exact trivial
  | cons x xs ih =>
      unfold sixtySum
      split
      · rw [← Nat.pow_succ]
        exact ih (i + 1) _ fun j hj => h j (by simp at hj ⊢; omega)
      · next hnone => exact h i (by simp) hnone

-- There are as many doubles as there are parts.
theorem mapM_readFloat_meets {parts : List (List Char)}
    (hpart : ∀ part ∈ parts,
      Number.readFloat? (Text.trim Number.isSpace (part.map Number.plainChar)) = none →
        cause (.number (.floatLiteral (String.ofList part)))) :
    Meets cause (fun xs => xs.length = parts.length) (parts.mapM readFloat) := by
  induction parts with
  | nil => exact rfl
  | cons part parts ih =>
      rw [List.mapM_cons]
      refine (readFloat_meets (hpart part List.mem_cons_self)).bind fun x _ => ?_
      refine (ih fun p hp => hpart p (List.mem_cons_of_mem part hp)).bind fun xs hxs => ?_
      exact congrArg (· + 1) hxs

theorem magnitude_meets {cs : List Char}
    (hpart : ∀ part ∈ floatParts cs,
      Number.readFloat? (Text.trim Number.isSpace (part.map Number.plainChar)) = none →
        cause (.number (.floatLiteral (String.ofList part))))
    (hweight : ∀ i < (floatParts cs).length, Number.ofInt? ((60 ^ i : Nat) : Int) = none →
      cause (.number .tooLarge)) :
    Meets cause (fun _ => True) (magnitude cs) := by
  unfold magnitude
  unfold floatParts at hpart hweight
  split
  · next hcolon =>
      rw [if_pos hcolon] at hpart hweight
      refine (mapM_readFloat_meets hpart).bind fun xs hxs => ?_
      refine sixtySum_meets 0 xs.reverse 0 fun i hi => hweight i ?_
      rwa [List.length_reverse, hxs, Nat.zero_add] at hi
  · next hcolon =>
      rw [if_neg hcolon] at hpart
      exact readFloat_meets (hpart cs List.mem_cons_self)

theorem signed_meets {cs : List Char} (label : Nat) (negative : Bool)
    (h : Meets cause (fun _ => True) (magnitude cs)) :
    Meets cause (fun _ => True) (signed label negative cs) := by
  unfold signed
  split
  · exact trivial
  · split
    · exact trivial
    · exact h.bind fun _ _ => Meets.pure.mpr trivial

theorem floatContent_meets (label : Nat) (s : String) :
    Meets (Unbuildable .float s) (fun _ => True) (floatContent label s) := by
  have hmagnitude : Meets (Unbuildable .float s) (fun _ => True)
      (magnitude (dropSign (floatChars s))) := by
    refine magnitude_meets (fun part hpart h => ?_) fun i hi h => ?_
    · exact .floatPart hpart h
    · exact .floatWeight hi h
  unfold floatContent
  split
  · next h => exact .float h
  · next h =>
      rw [floatChars, h] at hmagnitude
      exact signed_meets label true hmagnitude
  · next h =>
      rw [floatChars, h] at hmagnitude
      exact signed_meets label false hmagnitude
  · next hminus hplus =>
      have hdrop : dropSign (floatChars s) = floatChars s := dropSign_eq_self hminus hplus
      rw [hdrop] at hmagnitude
      exact signed_meets label false hmagnitude

theorem boolContent_meets (s : String) :
    Meets (Unbuildable .bool s) (fun _ => True) (boolContent s) := by
  unfold boolContent
  dsimp only
  split
  · exact trivial
  · split
    · exact trivial
    · exact .bool (by grind)

theorem ofMoment_meets {x : Except MomentFault α} (h : ∀ f, x = .error f → cause (.moment f)) :
    Meets cause (fun _ => True) (ofMoment x) := by
  unfold ofMoment
  split
  · exact trivial
  · exact h _ rfl

theorem stampSeconds_meets {offset : Option (Option Char × List Char × List Char)}
    (h : ∀ sign hour minute (n : Int) f, offset = some (some sign, hour, minute) →
      n = Number.natOf hour * 3600 + Number.natOf minute * 60 →
      checkOffset (if sign = '-' then -n else n) = .error f → cause (.moment f)) :
    Meets cause (fun _ => True) (stampSeconds offset) := by
  unfold stampSeconds
  split
  · exact trivial
  · exact trivial
  · next sign hour minute =>
      exact (ofMoment_meets fun f => h sign hour minute _ f rfl rfl).bind fun _ _ =>
        Meets.pure.mpr trivial

theorem stampContent_meets (s : String) :
    Meets (Unbuildable .timestamp s) (fun _ => True) (stampContent s) := by
  unfold stampContent
  split
  · next h => exact .timestamp h
  · next t ht =>
      have hdate : Meets (Unbuildable .timestamp s) (fun _ => True) (ofMoment t.date.check) :=
        ofMoment_meets fun f h => .date ht h
      dsimp only
      split
      · exact hdate.bind fun _ _ => Meets.pure.mpr trivial
      · next hour minute second hclock =>
          refine (stampSeconds_meets fun _ _ _ _ _ hoffset hn h => .offset ht hoffset hn h).bind
            fun offset _ => hdate.bind fun _ _ => ?_
          exact (ofMoment_meets fun f h => .clock ht hclock h).bind fun _ _ =>
            Meets.pure.mpr trivial

theorem binaryContent_meets (s : String) : Meets cause (fun _ => True) (binaryContent s) := by
  unfold binaryContent
  dsimp only
  split
  · split
    · trivial
    · exact .malformed
  · exact .malformed

-- A text that is refused under a tag has a reason for it.
theorem scalarContent?_meets {label : Nat} {tag : Tag} {s : String} {x : Except ReadFault Value}
    (h : scalarContent? label tag s = some x) : Meets (Unbuildable tag s) (fun _ => True) x := by
  unfold scalarContent? at h
  cases tag
  case null =>
    rw [← Option.some.inj h]
    exact trivial
  case bool =>
    rw [← Option.some.inj h]
    exact boolContent_meets s
  case int =>
    rw [← Option.some.inj h]
    exact intContent_meets s
  case float =>
    rw [← Option.some.inj h]
    exact floatContent_meets label s
  case binary =>
    rw [← Option.some.inj h]
    exact binaryContent_meets s
  case timestamp =>
    rw [← Option.some.inj h]
    exact stampContent_meets s
  case str =>
    rw [← Option.some.inj h]
    exact trivial
  all_goals cases h

end

end Dialect.Yaml
