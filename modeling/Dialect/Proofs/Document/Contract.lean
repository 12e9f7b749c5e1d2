import Dialect.Number.Decimal
import Dialect.ReadFault

namespace Dialect

-- What a reader may do with a text: it gets through with a result that is as `post` says, it finds
-- that the text is not of its format, or it refuses the text for a `cause`.
def Meets {α : Type} (cause : Error → Prop) (post : α → Prop) : Except ReadFault α → Prop
  | .ok a => post a
  | .error .malformed => True
  | .error (.refused e) => cause e

namespace Meets

variable {α β : Type} {cause : Error → Prop} {Q : α → Prop} {R : β → Prop}

theorem ok {a : α} : Meets cause Q (.ok a) ↔ Q a := Iff.rfl

theorem pure {a : α} : Meets cause Q (pure a) ↔ Q a := Iff.rfl

theorem malformed : Meets cause Q (.error .malformed) := trivial

theorem imp {cause' : Error → Prop} {Q' : α → Prop} {x : Except ReadFault α} (hx : Meets cause Q x)
    (hcause : ∀ e, cause e → cause' e) (hpost : ∀ a, Q a → Q' a) : Meets cause' Q' x := by
  match x, hx with
  | .ok a, h => exact hpost a h
  | .error .malformed, _ => trivial
  | .error (.refused e), h => exact hcause e h

theorem bind {x : Except ReadFault α} {f : α → Except ReadFault β} (hx : Meets cause Q x)
    (hf : ∀ a, Q a → Meets cause R (f a)) : Meets cause R (x >>= f) := by
  match x, hx with
  | .ok a, h => exact hf a h
  | .error .malformed, _ => trivial
  | .error (.refused _), h => exact h

theorem map {x : Except ReadFault α} {f : α → β} (hx : Meets cause Q x) (hf : ∀ a, Q a → R (f a)) :
    Meets cause R (x.map f) := by
  match x, hx with
  | .ok a, h => exact hf a h
  | .error .malformed, _ => trivial
  | .error (.refused _), h => exact h

end Meets

-- A text has a run of characters of a class with more digits than a whole number may have, and the
-- error tells how many.
def Overlong (p : Char → Bool) (text : List Char) (e : Error) : Prop :=
  ∃ run, run <:+: text ∧ run.all p ∧ digitLimit < (run.filter Text.isAsciiDigit).length ∧
    e = .number (.digitsRead (run.filter Text.isAsciiDigit).length)

theorem overlong_of_digits {run text : List Char} (hrun : run <:+: text)
    (hdigits : run.all Text.isAsciiDigit) (hlong : digitLimit < run.length) :
    Overlong Text.isAsciiDigit text (.number (.digitsRead run.length)) := by
  have hfilter : run.filter Text.isAsciiDigit = run :=
    List.filter_eq_self.mpr (List.all_eq_true.mp hdigits)
  exact ⟨run, hrun, hdigits, by rwa [hfilter], by rw [hfilter]⟩

section

variable {c : Char} {p : Char → Bool} {cs r text : List Char}

theorem suffix_of_cons (h : c :: cs <:+ text) : cs <:+ text := (List.suffix_cons c cs).trans h

theorem drop_suffix_of (n : Nat) (h : cs <:+ text) : cs.drop n <:+ text :=
  (List.drop_suffix n cs).trans h

theorem dropWhile_suffix_of (h : cs <:+ text) : cs.dropWhile p <:+ text :=
  (List.dropWhile_suffix p).trans h

theorem suffix_of_dropWhile_eq_cons (hr : cs.dropWhile p = c :: r) (h : cs <:+ text) : r <:+ text :=
  suffix_of_cons (hr ▸ dropWhile_suffix_of h)

theorem suffix_of_drop_eq_cons {n : Nat} (hr : cs.drop n = c :: r) (h : cs <:+ text) :
    r <:+ text :=
  suffix_of_cons (hr ▸ drop_suffix_of n h)

theorem splitSign_suffix_of (h : cs <:+ text) : (Number.splitSign cs).2 <:+ text := by
  unfold Number.splitSign
  split
  · exact suffix_of_cons h
  · exact suffix_of_cons h
  · exact h

-- What is left behind the first word of a table that the text starts with.
theorem suffix_of_word {α : Type} {words : List (String × α)} {v : α} (h : cs <:+ text)
    (hword : (words.findSome? fun e =>
      if e.1.toList.isPrefixOf cs then some (e.2, cs.drop e.1.length) else none) = some (v, r)) :
    r <:+ text := by
  obtain ⟨e, -, he⟩ := List.exists_of_findSome?_eq_some hword
  split at he
  · cases he
    exact drop_suffix_of e.1.length h
  · cases he

theorem takeWhile_infix_of (h : cs <:+ text) : cs.takeWhile p <:+: text :=
  (List.takeWhile_prefix p).isInfix.trans h.isInfix

end

-- A reader leaves an end of the text that it starts in, and refuses only for a cause.
def ReadsOn {α : Type} (cause : Error → Prop) (text : List Char)
    (x : Except ReadFault (α × List Char)) : Prop :=
  Meets cause (fun y => y.2 <:+ text) x

namespace ReadsOn

variable {α β : Type} {cause : Error → Prop} {text : List Char}
  {x : Except ReadFault (α × List Char)}

theorem malformed : ReadsOn cause text (.error .malformed : Except ReadFault (α × List Char)) :=
  trivial

theorem ite {c : Prop} [Decidable c] {y : Except ReadFault (α × List Char)}
    (hx : ReadsOn cause text x) (hy : ReadsOn cause text y) :
    ReadsOn cause text (if c then x else y) := by
  split
  · exact hx
  · exact hy

theorem bind {f : α × List Char → Except ReadFault (β × List Char)} (hx : ReadsOn cause text x)
    (hf : ∀ a r, r <:+ text → ReadsOn cause text (f (a, r))) : ReadsOn cause text (x >>= f) :=
  Meets.bind hx fun y hy => hf y.1 y.2 hy

-- The same behind work that leaves an end of the text and nothing else.
theorem bind_rest {x : Except ReadFault (List Char)}
    {f : List Char → Except ReadFault (β × List Char)} (hx : Meets cause (· <:+ text) x)
    (hf : ∀ r, r <:+ text → ReadsOn cause text (f r)) : ReadsOn cause text (x >>= f) :=
  Meets.bind hx hf

theorem map {f : α × List Char → β × List Char} (hx : ReadsOn cause text x)
    (hf : ∀ a r, r <:+ text → (f (a, r)).2 <:+ text) : ReadsOn cause text (x.map f) :=
  Meets.map hx fun y hy => hf y.1 y.2 hy

end ReadsOn

-- Work over a state that is as `pre` says ends with a result and a state that are as `post` says.
def Runs {σ α : Type} (cause : Error → Prop) (pre : σ → Prop) (post : α → σ → Prop)
    (x : StateT σ (Except ReadFault) α) : Prop :=
  ∀ s, pre s → Meets cause (fun y => post y.1 y.2) (x s)

-- Work over a state keeps what `inv` says of it, whatever its result.
def Keeps {σ α : Type} (cause : Error → Prop) (inv : σ → Prop)
    (x : StateT σ (Except ReadFault) α) : Prop :=
  Runs cause inv (fun _ => inv) x

section

variable {σ α β : Type} {cause : Error → Prop} {pre inv : σ → Prop} {mid : α → σ → Prop}
  {post : β → σ → Prop} {x : StateT σ (Except ReadFault) α}
  {f : α → StateT σ (Except ReadFault) β}

theorem Runs.bind (hx : Runs cause pre mid x) (hf : ∀ a, Runs cause (mid a) post (f a)) :
    Runs cause pre post (x >>= f) :=
  fun s hs => (hx s hs).bind fun y hy => hf y.1 y.2 hy

namespace Keeps

theorem runs (hx : Keeps cause inv x) (hpre : ∀ s, pre s → inv s) :
    Runs cause pre (fun _ => inv) x :=
  fun s hs => hx s (hpre s hs)

theorem pure (a : α) : Keeps cause inv (pure a : StateT σ (Except ReadFault) α) := fun _ hs => hs

theorem malformed : Keeps cause inv (throw .malformed : StateT σ (Except ReadFault) α) :=
  fun _ _ => trivial

theorem refused {e : Error} (h : cause e) :
    Keeps cause inv (throw (.refused e) : StateT σ (Except ReadFault) α) :=
  fun _ _ => h

theorem get : Keeps cause inv (get : StateT σ (Except ReadFault) σ) := fun _ hs => hs

theorem set {s : σ} (h : inv s) : Keeps cause inv (set s : StateT σ (Except ReadFault) PUnit) :=
  fun _ _ => h

theorem modify {g : σ → σ} (h : ∀ s, inv s → inv (g s)) :
    Keeps cause inv (modify g : StateT σ (Except ReadFault) PUnit) :=
  fun s hs => h s hs

theorem bind (hx : Keeps cause inv x) (hf : ∀ a, Keeps cause inv (f a)) :
    Keeps cause inv (x >>= f) :=
  Runs.bind hx hf

theorem ite {c : Prop} [Decidable c] {y : StateT σ (Except ReadFault) α} (hx : Keeps cause inv x)
    (hy : Keeps cause inv y) : Keeps cause inv (if c then x else y) := by
  split
  · exact hx
  · exact hy

-- Work that is done before the rest in one case only.
theorem when_bind {c : Prop} [Decidable c] {x : StateT σ (Except ReadFault) Unit}
    {f : Unit → StateT σ (Except ReadFault) β} (hx : c → Keeps cause inv x)
    (hf : Keeps cause inv (f ())) : Keeps cause inv (if c then x >>= f else f ()) := by
  split
  · next hc => exact (hx hc).bind fun _ => hf
  · exact hf

theorem unless_bind {c : Prop} [Decidable c] {x : StateT σ (Except ReadFault) Unit}
    {f : Unit → StateT σ (Except ReadFault) β} (hx : ¬c → Keeps cause inv x)
    (hf : Keeps cause inv (f ())) : Keeps cause inv (if c then f () else x >>= f) := by
  split
  · exact hf
  · next hc => exact (hx hc).bind fun _ => hf

theorem get_bind {f : σ → StateT σ (Except ReadFault) α} (hf : ∀ s, inv s → Keeps cause inv (f s)) :
    Keeps cause inv (MonadState.get >>= f) :=
  fun s hs => hf s hs s hs

-- Work without a state tells what comes after it about its result.
theorem lift_bind {Q : α → Prop} {y : Except ReadFault α} (hy : Meets cause Q y)
    (hf : ∀ a, Q a → Keeps cause inv (f a)) :
    Keeps cause inv ((liftM y : StateT σ (Except ReadFault) α) >>= f) := by
  have hlift : Runs cause inv (fun a s => Q a ∧ inv s)
      (liftM y : StateT σ (Except ReadFault) α) :=
    fun _ hs => hy.bind fun _ ha => Meets.pure.mpr ⟨ha, hs⟩
  exact Runs.bind hlift fun a s hs => hf a hs.1 s hs.2

theorem map {g : α → β} (hx : Keeps cause inv x) : Keeps cause inv (g <$> x) :=
  hx.bind fun a => pure (g a)

end Keeps

-- Whatever work comes to is as `R` says.
def Yields (R : β → Prop) (x : StateT σ (Except ReadFault) β) : Prop :=
  ∀ s b s', x s = .ok (b, s') → R b

section

variable {R : β → Prop}

theorem Yields.pure {b : β} (h : R b) : Yields R (pure b : StateT σ (Except ReadFault) β) := by
  rintro s b' s' hs
  cases hs
  exact h

theorem Yields.bind (h : ∀ a, Yields R (f a)) : Yields R (x >>= f) := by
  intro s b s' hs
  change (x s >>= fun y => f y.1 y.2) = .ok (b, s') at hs
  cases hx : x s with
  | ok y => exact h y.1 y.2 b s' (by rwa [hx] at hs)
  | error e =>
      rw [hx] at hs
      cases hs

theorem Yields.ite {c : Prop} [Decidable c] {y z : StateT σ (Except ReadFault) β}
    (hy : Yields R y) (hz : Yields R z) : Yields R (if c then y else z) := by
  split
  · exact hy
  · exact hz

theorem Yields.when_bind {c : Prop} [Decidable c] {x : StateT σ (Except ReadFault) Unit}
    {f : Unit → StateT σ (Except ReadFault) β} (h : Yields R (f ())) :
    Yields R (if c then x >>= f else f ()) :=
  .ite (.bind fun _ => h) h

theorem Yields.map {g : α → β} (h : ∀ a, R (g a)) : Yields R (g <$> x) :=
  .bind fun a => .pure (h a)

theorem Keeps.yields {y : StateT σ (Except ReadFault) β} (hy : Keeps cause inv y)
    (hR : Yields R y) : Runs cause inv (fun b s => R b ∧ inv s) y := by
  intro s hs
  have hmeets := hy s hs
  match hys : y s, hmeets with
  | .ok (b, s'), h => exact ⟨hR s b s' hys, h⟩
  | .error .malformed, _ => trivial
  | .error (.refused _), h => exact h

end

end

end Dialect
