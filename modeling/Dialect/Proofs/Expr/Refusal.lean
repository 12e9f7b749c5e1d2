import Dialect.Proofs.Expr.Memory
import Dialect.Proofs.Expr.Spelling

namespace Dialect.Expr

section

variable {α β ε : Type} {f : α → Except ε β} {as bs : List α} {e e' : ε}

-- The first member for which a check fails, fails with the error.
def FirstFails (f : α → Except ε β) (as : List α) (e : ε) : Prop :=
  ∃ before a after, as = before ++ a :: after ∧ (∀ b ∈ before, ∃ x, f b = .ok x) ∧ f a = .error e

theorem FirstFails.append (h : FirstFails f as e) (bs : List α) : FirstFails f (as ++ bs) e := by
  obtain ⟨before, a, after, rfl, hbefore, ha⟩ := h
  exact ⟨before, a, after ++ bs, by simp, hbefore, ha⟩

theorem FirstFails.append_of_ok (h : FirstFails f bs e) (has : ∀ a ∈ as, ∃ x, f a = .ok x) :
    FirstFails f (as ++ bs) e := by
  obtain ⟨before, a, after, rfl, hbefore, ha⟩ := h
  refine ⟨as ++ before, a, after, by simp, fun b hb => ?_, ha⟩
  exact (List.mem_append.mp hb).elim (has b) (hbefore b)

theorem FirstFails.not_ok (h : FirstFails f as e) : ¬∀ a ∈ as, ∃ x, f a = .ok x := by
  obtain ⟨before, a, after, rfl, -, ha⟩ := h
  intro hall
  obtain ⟨x, hx⟩ := hall a (by simp)
  rw [ha] at hx
  cases hx

-- What a walk over the leaves comes to is decided by the leaves in their order, whatever stands
-- above them. By induction on the tree.
theorem Tree.traverse_cases (f : α → Except ε β) (t : Tree α) :
    (∃ t', t.traverse f = .ok t' ∧ ∀ a ∈ t.leaves, ∃ x, f a = .ok x) ∨
      ∃ e, t.traverse f = .error e ∧ FirstFails f t.leaves e := by
  induction t with
  | leaf a =>
      cases ha : f a with
      | ok x => exact .inl ⟨.leaf x, by rw [traverse, ha]; rfl, by simp [leaves, ha]⟩
      | error e => exact .inr ⟨e, by rw [traverse, ha]; rfl, [], a, [], rfl, by simp, ha⟩
  | unary op t ih =>
      rcases ih with ⟨t', ht, hall⟩ | ⟨e, ht, hfirst⟩
      · exact .inl ⟨.unary op t', by rw [traverse, ht]; rfl, hall⟩
      · exact .inr ⟨e, by rw [traverse, ht]; rfl, hfirst⟩
  | binary op l r ihl ihr =>
      rcases ihl with ⟨l', hl, hleft⟩ | ⟨e, hl, hfirst⟩
      · rcases ihr with ⟨r', hr, hright⟩ | ⟨e, hr, hfirst⟩
        · refine .inl ⟨.binary op l' r', by rw [traverse, hl, hr]; rfl, fun a ha => ?_⟩
          exact (List.mem_append.mp ha).elim (hleft a) (hright a)
        · exact .inr ⟨e, by rw [traverse, hl, hr]; rfl, hfirst.append_of_ok hleft⟩
      · exact .inr ⟨e, by rw [traverse, hl]; rfl, hfirst.append _⟩

-- The walk succeeds exactly if no leaf fails.
theorem Tree.exists_traverse_eq_ok_iff {t : Tree α} :
    (∃ t', t.traverse f = .ok t') ↔ ∀ a ∈ t.leaves, ∃ x, f a = .ok x := by
  rcases t.traverse_cases f with ⟨t', ht, hall⟩ | ⟨e, ht, hfirst⟩
  · exact ⟨fun _ => hall, fun _ => ⟨t', ht⟩⟩
  · simp only [ht, reduceCtorEq, exists_false, false_iff]
    exact hfirst.not_ok

theorem FirstFails.unique (h : FirstFails f as e) (h' : FirstFails f as e') : e = e' := by
  obtain ⟨before, a, after, rfl, hbefore, ha⟩ := h
  induction before with
  | nil =>
      obtain ⟨before', a', after', heq, hbefore', ha'⟩ := h'
      cases before' with
      | nil =>
          obtain ⟨rfl, -⟩ := List.cons.inj heq
          exact Except.error.inj (ha.symm.trans ha')
      | cons b before' =>
          obtain ⟨rfl, -⟩ := List.cons.inj heq
          obtain ⟨x, hx⟩ := hbefore' a List.mem_cons_self
          simp [ha] at hx
  | cons b before ih =>
      obtain ⟨before', a', after', heq, hbefore', ha'⟩ := h'
      obtain ⟨x, hx⟩ := hbefore b List.mem_cons_self
      cases before' with
      | nil =>
          obtain ⟨rfl, -⟩ := List.cons.inj heq
          simp [ha'] at hx
      | cons b' before' =>
          exact ih ⟨before', a', after', (List.cons.inj heq).2,
            fun c hc => hbefore' c (List.mem_cons_of_mem _ hc), ha'⟩
            fun c hc => hbefore c (List.mem_cons_of_mem _ hc)

-- The walk fails exactly with the error of the first leaf that fails.
theorem Tree.traverse_eq_error_iff {t : Tree α} :
    t.traverse f = .error e ↔ FirstFails f t.leaves e := by
  rcases t.traverse_cases f with ⟨t', ht, hall⟩ | ⟨e', ht, hfirst⟩
  · simp only [ht, reduceCtorEq, false_iff]
    exact fun h => h.not_ok hall
  · rw [ht]
    exact ⟨fun h => Except.error.inj h ▸ hfirst, fun h => congrArg _ (hfirst.unique h)⟩

end

-- A leaf that the grammar admits and that cannot be read: a whole number with too many digits, or a
-- quoted text that does not decode.
inductive Leaf.Unreadable : Leaf → Prop where
  | number {text : String} (whole : ¬text.toList.any isFloatMark)
      (long : digitLimit < text.toList.length) : Unreadable (.number text)
  | string {text : String} {fault : Literal.Fault} (bad : Literal.decode text = .error fault) :
      Unreadable (.string text)

-- What is wrong with a leaf and the error that reports it.
inductive Leaf.Faulty (source : String) (names : List String) : Leaf → Error → Prop where
  | unknown {n : String} (absent : n ∉ names) :
      Faulty source names (.name n) (.expression source (.unknown n))
  | overlong {text : String} (whole : ¬text.toList.any isFloatMark)
      (long : digitLimit < text.toList.length) :
      Faulty source names (.number text) (.number (.digitsRead text.toList.length))
  | undecodable {text : String} {fault : Literal.Fault}
      (bad : Literal.decode text = .error fault) :
      Faulty source names (.string text) (.literal fault)

-- A name is one of the parameters.
def Leaf.Known (names : List String) (l : Leaf) : Prop := ∀ n, l = .name n → n ∈ names

-- The text is an expression, and the first of its leaves that is not in order cannot be read.
def Trips (source : String) (names : List String) : Prop :=
  ∃ tree before l after, parse source = .ok tree ∧ tree.leaves = before ++ l :: after ∧
    (∀ m ∈ before, ¬m.Unreadable ∧ m.Known names) ∧ l.Unreadable

section

variable {source : String} {names : List String} {l : Leaf} {e : Error}

theorem Leaf.Faulty.resolve_eq (h : l.Faulty source names e) :
    l.resolve source (names.map some) = .error e := by
  cases h with
  | unknown absent => simp [resolve, absent]
  | overlong whole long => rw [resolve, numberAtom_eq, if_neg whole, if_pos long]
  | undecodable bad => rw [resolve, bad]

-- Reading a leaf fails with an error of numbers or of quoted texts.
theorem Leaf.resolve_of_unreadable (h : l.Unreadable) (source : String) (names : List String) :
    ∃ e, l.resolve source (names.map some) = .error e ∧
      (e.category = .value ∨ e.category = .literal) := by
  cases h with
  | number whole long => exact ⟨_, (Faulty.overlong whole long).resolve_eq, .inl rfl⟩
  | string bad => exact ⟨_, (Faulty.undecodable bad).resolve_eq, .inr rfl⟩

theorem Leaf.resolve_of_readable (h : ¬l.Unreadable) (hknown : l.Known names) (source : String) :
    ∃ a, l.resolve source (names.map some) = .ok a := by
  cases l with
  | number text =>
      by_cases hmark : text.toList.any isFloatMark
      · exact ⟨_, by rw [resolve, numberAtom_eq, if_pos hmark]⟩
      · have hshort : ¬text.toList.length > digitLimit := fun hlong => h (.number hmark hlong)
        exact ⟨_, by rw [resolve, numberAtom_eq, if_neg hmark, if_neg hshort]⟩
  | string text =>
      cases hdecode : Literal.decode text with
      | ok s => exact ⟨.str s, by rw [resolve, hdecode]⟩
      | error fault => exact absurd (.string hdecode) h
  | true => exact ⟨_, rfl⟩
  | false => exact ⟨_, rfl⟩
  | none => exact ⟨_, rfl⟩
  | name n => exact ⟨.var n, by simp [resolve, hknown n rfl]⟩

theorem Leaf.resolve_of_unknown (h : ¬l.Known names) (source : String) :
    ∃ n, l.resolve source (names.map some) = .error (.expression source (.unknown n)) := by
  unfold Known at h
  simp only [not_forall] at h
  obtain ⟨n, rfl, hn⟩ := h
  exact ⟨n, (Faulty.unknown hn).resolve_eq⟩

-- A leaf is in order, is a name that is no parameter, or cannot be read.
theorem Leaf.resolve_eq_ok_iff :
    (∃ a, l.resolve source (names.map some) = .ok a) ↔ ¬l.Unreadable ∧ l.Known names := by
  refine ⟨fun ⟨a, ha⟩ => ⟨fun hbad => ?_, ?_⟩, fun h => resolve_of_readable h.1 h.2 source⟩
  · obtain ⟨e, he, -⟩ := resolve_of_unreadable hbad source names
    simp [ha] at he
  · by_contra hunknown
    obtain ⟨n, hn⟩ := resolve_of_unknown hunknown source
    simp [ha] at hn

theorem body_of_trips (h : Trips source names) :
    ∃ e, body source (names.map some) = .error e ∧
      (e.category = .value ∨ e.category = .literal) := by
  obtain ⟨tree, before, l, after, hparse, hleaves, hbefore, hbad⟩ := h
  obtain ⟨e, he, hcategory⟩ := l.resolve_of_unreadable hbad source names
  refine ⟨e, ?_, hcategory⟩
  simp only [body, hparse]
  exact Tree.traverse_eq_error_iff.mpr ⟨before, l, after, hleaves,
    fun m hm => Leaf.resolve_eq_ok_iff.mpr (hbefore m hm), he⟩

theorem body_of_not_trips (h : ¬Trips source names) :
    (∃ tree, body source (names.map some) = .ok tree) ∨
      ∃ fault, body source (names.map some) = .error (.expression source fault) := by
  cases hparse : parse source with
  | error column => exact .inr ⟨.column column, by simp only [body, hparse]⟩
  | ok tree =>
      simp only [body, hparse]
      rcases tree.traverse_cases (Leaf.resolve source (names.map some)) with
        ⟨t, ht, -⟩ | ⟨e, ht, hfirst⟩
      · exact .inl ⟨t, ht⟩
      · obtain ⟨before, l, after, hleaves, hbefore, hl⟩ := hfirst
        have hread : ¬l.Unreadable := fun hbad => h ⟨tree, before, l, after, hparse, hleaves,
          fun m hm => Leaf.resolve_eq_ok_iff.mp (hbefore m hm), hbad⟩
        have hunknown : ¬l.Known names := fun hknown => by
          obtain ⟨a, ha⟩ := Leaf.resolve_of_readable hread hknown source
          simp [hl] at ha
        obtain ⟨n, hn⟩ := Leaf.resolve_of_unknown hunknown source
        rw [hl] at hn
        cases hn
        exact .inr ⟨.unknown n, ht⟩

end

-- Over names, an evaluator answers a text by a function or by an error that carries the text,
-- whatever it has compiled before, unless the text trips it: a number or a quoted text that the
-- grammar admits cannot be read, and the error of reading it comes out as it is.
theorem Evaluator.compile_answers_iff_not_trips (id : Nat) (requests : List (Value × Value))
    (source : String) (params : Value) (names : List String)
    (hparams : params.members = .ok (names.map .str)) :
    (((∃ f, ((after id requests).compile (.str source) params).1 = .ok f) ∨
        ∃ fault, ((after id requests).compile (.str source) params).1 =
          .error (.expression source fault)) ↔ ¬Trips source names) ∧
      (Trips source names → ∃ e, ((after id requests).compile (.str source) params).1 = .error e ∧
        (e.category = .value ∨ e.category = .literal)) := by
  have hanswer := (faithful_after id requests).compileText_names source names
  rw [compile_str _ source hparams]
  generalize (after id requests).compileText source (names.map .str) = answer at hanswer ⊢
  have htrips (h : Trips source names) :
      ∃ e, answer.1 = .error e ∧ (e.category = .value ∨ e.category = .literal) := by
    obtain ⟨e, he, hcategory⟩ := body_of_trips h
    rw [he] at hanswer
    exact ⟨e, hanswer, hcategory⟩
  refine ⟨⟨fun hanswered h => ?_, fun h => ?_⟩, htrips⟩
  · obtain ⟨e, he, hcategory⟩ := htrips h
    rcases hanswered with ⟨f, hf⟩ | ⟨fault, hfault⟩
    · simp [hf] at he
    · rw [hfault] at he
      cases he
      simp [Error.category] at hcategory
  · rcases body_of_not_trips h with ⟨tree, htree⟩ | ⟨fault, hfault⟩
    · rw [htree] at hanswer
      obtain ⟨f, hf, -⟩ := hanswer
      exact .inl ⟨f, hf⟩
    · rw [hfault] at hanswer
      exact .inr ⟨fault, hanswer⟩

namespace Sample

-- The escape takes two digits.
theorem trips_escape : Trips "\"\\x\"" [] := by
  have hparse : parse "\"\\x\"" = .ok (.leaf (.string "\"\\x\"")) := by cbv
  have hdecode : Literal.decode "\"\\x\"" =
      .error (.escape 0 1 "truncated \\xXX escape" 1) := by cbv
  exact ⟨_, [], _, [], hparse, rfl, by simp, .string hdecode⟩

theorem compile_answers_iff_not_trips_escape :
    Trips "\"\\x\"" [] ∧
      ((∀ f, ((Evaluator.after 0 []).compile (.str "\"\\x\"") (.list [])).1 ≠ .ok f) ∧
        ∀ fault, ((Evaluator.after 0 []).compile (.str "\"\\x\"") (.list [])).1 ≠
          .error (.expression "\"\\x\"" fault)) := by
  have hiff := (Evaluator.compile_answers_iff_not_trips 0 [] "\"\\x\"" (.list []) [] rfl).1
  have hneither := mt hiff.mp (not_not_intro trips_escape)
  exact ⟨trips_escape, fun f hf => hneither (.inl ⟨f, hf⟩),
    fun fault hfault => hneither (.inr ⟨fault, hfault⟩)⟩

end Sample

end Dialect.Expr
