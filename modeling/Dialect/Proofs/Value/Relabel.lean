import Dialect.Proofs.Value.Swap

namespace Dialect

open Dialect.Expr (Compiled Evaluator)

-- Other labels for the functions of each kind, which tell them apart: a runner has the number of
-- the scope it was first bound in, a step of a pipeline that of the scope it was made in, a
-- compiled expression its owner and its number there. New labels are their own new labels.
structure Relabel where
  runner : Nat → Nat
  step : Nat → Nat
  compiled : Nat × Nat → Nat × Nat
  runner_idem : ∀ n, runner (runner n) = runner n
  step_idem : ∀ n, step (step n) = step n
  compiled_idem : ∀ x, compiled (compiled x) = compiled x

namespace Relabel

-- The labels as they are.
def exact : Relabel := ⟨id, id, id, fun _ => rfl, fun _ => rfl, fun _ => rfl⟩

-- Runners are told apart by their languages only; other functions keep their labels.
def byLanguage : Relabel := ⟨fun _ => 0, id, id, fun _ => rfl, fun _ => rfl, fun _ => rfl⟩

-- No labels at all: functions are what they do.
def blank : Relabel :=
  ⟨fun _ => 0, fun _ => 0, fun _ => (0, 0), fun _ => rfl, fun _ => rfl, fun _ => rfl⟩

end Relabel

def Expr.Compiled.relabel (ρ : Relabel) (f : Compiled) : Compiled :=
  { f with owner := (ρ.compiled (f.owner, f.index)).1, index := (ρ.compiled (f.owner, f.index)).2 }

-- Two outcomes that agree after a reading, followed by work that respects the reading.
theorem map_bind_congr {ε α α' β β' γ δ : Type} {x : Except ε α} {y : Except ε α'} {f : α → γ}
    {f' : α' → γ} (h : x.map f = y.map f') {p : α → Except ε β} {q : α' → Except ε β'}
    {k : β → δ} {k' : β' → δ} (hpq : ∀ a b, f a = f' b → (p a).map k = (q b).map k') :
    (x >>= p).map k = (y >>= q).map k' := by
  cases x with
  | error e =>
      cases y with
      | error e' =>
          cases h
          rfl
      | ok b => cases h
  | ok a =>
      cases y with
      | error e' => cases h
      | ok b => exact hpq a b (Except.ok.inj h)

variable (ρ : Relabel)

theorem Expr.Compiled.relabel_relabel (f : Compiled) : (f.relabel ρ).relabel ρ = f.relabel ρ := by
  simp [relabel, ρ.compiled_idem]

namespace Value

mutual

-- The keys of mappings, the members of sets and the data of programs stay as they are: no run puts
-- a function there.
def relabel : Value → Value
  | .runner l n => .runner l (ρ.runner n)
  | .compiled f => .compiled (f.relabel ρ)
  | .keep test n => .keep (test.relabel ρ) (ρ.step n)
  | .branch args test yes no n =>
    .branch (relabelAll args) (test.relabel ρ) (yes.relabel ρ) (no.relabel ρ) (ρ.step n)
  | .list xs => .list (relabelAll xs)
  | .tuple xs => .tuple (relabelAll xs)
  | .map es => .map (relabelEntries es)
  | v => v

def relabelAll : List Value → List Value
  | [] => []
  | v :: vs => relabel v :: relabelAll vs

def relabelEntries : List (Value × Value) → List (Value × Value)
  | [] => []
  | (k, v) :: es => (k, relabel v) :: relabelEntries es

end

-- An entry with other labels in its value.
def relabelEntry (e : Value × Value) : Value × Value := (e.1, e.2.relabel ρ)

theorem relabelAll_eq_map (vs : List Value) : relabelAll ρ vs = vs.map (relabel ρ) := by
  induction vs with
  | nil => simp [relabelAll]
  | cons v vs ih => simp [relabelAll, ih]

theorem relabelEntries_eq_map (es : List (Value × Value)) :
    relabelEntries ρ es = es.map (relabelEntry ρ) := by
  induction es with
  | nil => simp [relabelEntries]
  | cons e es ih => simp [relabelEntries, relabelEntry, ih]

@[simp] theorem relabel_null : (null).relabel ρ = null := by simp [relabel]

@[simp] theorem relabel_str (s : String) : (str s).relabel ρ = str s := by simp [relabel]

@[simp] theorem relabel_runner (l n : Nat) :
    (runner l n).relabel ρ = runner l (ρ.runner n) := by simp [relabel]

@[simp] theorem relabel_list (xs : List Value) :
    (list xs).relabel ρ = list (xs.map (relabel ρ)) := by simp [relabel, relabelAll_eq_map]

@[simp] theorem relabel_tuple (xs : List Value) :
    (tuple xs).relabel ρ = tuple (xs.map (relabel ρ)) := by simp [relabel, relabelAll_eq_map]

@[simp] theorem relabel_map (es : List (Value × Value)) :
    (map es).relabel ρ = map (es.map (relabelEntry ρ)) := by simp [relabel, relabelEntries_eq_map]

theorem kind_relabel (v : Value) : (v.relabel ρ).kind = v.kind := by
  cases v <;> simp [relabel, kind]

theorem truthy_relabel (v : Value) : (v.relabel ρ).truthy = v.truthy := by
  cases v <;> simp [relabel, truthy, relabelAll_eq_map, relabelEntries_eq_map]

mutual

theorem relabel_relabel (v : Value) : (v.relabel ρ).relabel ρ = v.relabel ρ := by
  cases v with
  | runner l n => simp [ρ.runner_idem]
  | compiled f => simp [relabel, f.relabel_relabel]
  | keep test n => simp [relabel, test.relabel_relabel, ρ.step_idem]
  | branch args test yes no n =>
      simp [relabel, relabelAll_relabelAll args, Compiled.relabel_relabel, ρ.step_idem]
  | list xs => simp only [relabel, relabelAll_relabelAll xs]
  | tuple xs => simp only [relabel, relabelAll_relabelAll xs]
  | map es => simp only [relabel, relabelEntries_relabelEntries es]
  | _ => simp [relabel]

theorem relabelAll_relabelAll (vs : List Value) :
    relabelAll ρ (relabelAll ρ vs) = relabelAll ρ vs := by
  cases vs with
  | nil => simp [relabelAll]
  | cons v vs => simp [relabelAll, relabel_relabel v, relabelAll_relabelAll vs]

theorem relabelEntries_relabelEntries (es : List (Value × Value)) :
    relabelEntries ρ (relabelEntries ρ es) = relabelEntries ρ es := by
  cases es with
  | nil => simp [relabelEntries]
  | cons e es =>
      obtain ⟨k, v⟩ := e
      simp [relabelEntries, relabel_relabel v, relabelEntries_relabelEntries es]

end

mutual

theorem relabel_exact (v : Value) : v.relabel .exact = v := by
  cases v with
  | branch args test yes no n =>
      simp only [relabel, relabelAll_exact args]
      rfl
  | list xs => simp only [relabel, relabelAll_exact xs]
  | tuple xs => simp only [relabel, relabelAll_exact xs]
  | map es => simp only [relabel, relabelEntries_exact es]
  | _ => simp [relabel, Relabel.exact, Compiled.relabel]

theorem relabelAll_exact (vs : List Value) : relabelAll .exact vs = vs := by
  cases vs with
  | nil => simp [relabelAll]
  | cons v vs => simp [relabelAll, relabel_exact v, relabelAll_exact vs]

theorem relabelEntries_exact (es : List (Value × Value)) : relabelEntries .exact es = es := by
  cases es with
  | nil => simp [relabelEntries]
  | cons e es =>
      obtain ⟨k, v⟩ := e
      simp [relabelEntries, relabel_exact v, relabelEntries_exact es]

end

-- A text matches no function, whatever its label.
theorem same_str_relabel (p : String) (v : Value) :
    (str p).same (v.relabel ρ) = (str p).same v := by
  cases v <;> simp [relabel, same, equal, numEqual, num?]

theorem find?_relabel (es : List (Value × Value)) (k : Value) :
    find? (es.map (relabelEntry ρ)) k = (find? es k).map (relabel ρ) := by
  unfold find?
  rw [List.find?_map, Option.map_map, Option.map_map]
  rfl

theorem insert_relabel (es : List (Value × Value)) (k v : Value) :
    (insert es k v).map (relabelEntry ρ) = insert (es.map (relabelEntry ρ)) k (v.relabel ρ) := by
  induction es with
  | nil => rfl
  | cons e es ih =>
      simp only [insert, List.map_cons, relabelEntry] at ih ⊢
      split
      · rfl
      · exact congrArg _ ih

-- The members of a mapping are its keys, which stay as they are.
theorem members?_relabel (v : Value) :
    (v.relabel ρ).members?.map (List.map (relabel ρ)) = v.members?.map (List.map (relabel ρ)) := by
  have hall (xs : List Value) : (xs.map (relabel ρ)).map (relabel ρ) = xs.map (relabel ρ) := by
    simp [relabel_relabel]
  cases v with
  | list xs => rw [relabel_list, members?, members?, Option.map_some, Option.map_some, hall]
  | tuple xs => rw [relabel_tuple, members?, members?, Option.map_some, Option.map_some, hall]
  | map es => simp [members?, relabelEntry]
  | _ => simp [relabel, members?]

-- Members before and after relabelling, if there are any.
theorem members?_relabel_cases (v : Value) :
    v.members? = none ∧ (v.relabel ρ).members? = none ∨
      ∃ xs ys, v.members? = some xs ∧ (v.relabel ρ).members? = some ys ∧
        ys.map (relabel ρ) = xs.map (relabel ρ) := by
  have h := members?_relabel ρ v
  cases hv : v.members? with
  | none =>
      rw [hv, Option.map_none, Option.map_eq_none_iff] at h
      exact .inl ⟨rfl, h⟩
  | some xs =>
      rw [hv, Option.map_some] at h
      obtain ⟨ys, hys, hmap⟩ := Option.map_eq_some_iff.mp h
      exact .inr ⟨xs, ys, rfl, hys, hmap⟩

theorem members_relabel (v : Value) :
    (v.relabel ρ).members.map (List.map (relabel ρ)) = v.members.map (List.map (relabel ρ)) := by
  unfold members
  rw [kind_relabel]
  rcases members?_relabel_cases ρ v with ⟨hv, hr⟩ | ⟨xs, ys, hv, hr, hmap⟩
  · rw [hv, hr]
  · rw [hv, hr]
    exact congrArg Except.ok hmap

theorem spread_relabel (v : Value) :
    (v.relabel ρ).spread.map (List.map (relabel ρ)) = v.spread.map (List.map (relabel ρ)) := by
  unfold spread
  rw [kind_relabel]
  rcases members?_relabel_cases ρ v with ⟨hv, hr⟩ | ⟨xs, ys, hv, hr, hmap⟩
  · rw [hv, hr]
  · rw [hv, hr]
    exact congrArg Except.ok hmap

theorem hasName_relabel (v : Value) (p : String) : (v.relabel ρ).hasName p = v.hasName p := by
  have hany (xs : List Value) : ((xs.map (relabel ρ)).any fun x => (str p).same x) =
      xs.any fun x => (str p).same x := by
    rw [List.any_map]
    congr 1
    funext x
    exact same_str_relabel ρ p x
  cases v with
  | list xs => rw [relabel_list, hasName, hasName, hany]
  | tuple xs => rw [relabel_tuple, hasName, hasName, hany]
  | map es => rw [relabel_map, hasName, hasName, find?_relabel, Option.isSome_map]
  | _ => simp [relabel, hasName, kind]

theorem atName_relabel (v : Value) (p : String) :
    (v.relabel ρ).atName p = (v.atName p).map (relabel ρ) := by
  cases v with
  | map es =>
      rw [relabel_map, atName, atName, find?_relabel]
      cases find? es (str p) <;> rfl
  | _ => simp [relabel, atName, kind, Except.map]

theorem ofValue_relabel (v : Value) : Path.ofValue (v.relabel ρ) = Path.ofValue v := by
  cases v <;> simp [relabel, Path.ofValue, kind]

theorem operand?_relabel (v : Value) : (v.relabel ρ).operand? = v.operand? := by
  cases v <;> simp [relabel, operand?, num?]

-- A sum of numbers is no function.
theorem relabel_plus (u v : Value) : (plus.run u v).map (relabel ρ) = plus.run u v := by
  have hfloat (x : Float) : (ofFloat x).relabel ρ = ofFloat x := by
    unfold ofFloat
    split <;> simp [relabel]
  have hwide (x y : Operand) : (plus.complexRun x y).map (Except.map (relabel ρ)) =
      plus.complexRun x y := by
    simp only [Operation.complexRun, plus, Option.map_some]
    cases x.widen with
    | error e => rfl
    | ok z =>
        cases y.widen with
        | error e => rfl
        | ok z' => simp [bind, Except.bind, pure, Except.pure, Except.map, ofComplex, relabel]
  have hone (x y : Operand) : (plus.apply x y).map (Except.map (relabel ρ)) = plus.apply x y := by
    cases x <;> cases y
    case int.int => simp [Operation.apply, plus, Except.map, relabel]
    case int.float x y =>
      cases h : toFloat x <;>
        simp [Operation.apply, plus, h, bind, Except.bind, Except.map, hfloat]
    case float.int x y =>
      cases h : toFloat y <;>
        simp [Operation.apply, plus, h, bind, Except.bind, Except.map, hfloat]
    case float.float => simp [Operation.apply, plus, Except.map, hfloat]
    all_goals exact hwide _ _
  unfold Operation.run
  cases u.operand? with
  | none => rfl
  | some x =>
      cases v.operand? with
      | none => rfl
      | some y =>
          have h := hone x y
          simp only []
          cases hxy : plus.apply x y with
          | none => rfl
          | some z =>
              rw [hxy] at h
              exact Option.some.inj h

-- Lists and tuples are joined with their like; all else is a matter of kinds and numbers.
theorem add_relabel (u v : Value) :
    (u.relabel ρ).add (v.relabel ρ) = (u.add v).map (relabel ρ) := by
  have hplus : (plus.run u v).map (relabel ρ) = plus.run (u.relabel ρ) (v.relabel ρ) := by
    rw [relabel_plus]
    unfold Operation.run
    rw [operand?_relabel, operand?_relabel, kind_relabel, kind_relabel]
  cases u with
  | str s => cases v <;> simp [relabel, add, Except.map, kind]
  | bytes bs => cases v <;> simp [relabel, add, Except.map, kind]
  | list xs => cases v <;> simp [relabel, add, Except.map, kind, relabelAll_eq_map]
  | tuple xs => cases v <;> simp [relabel, add, Except.map, kind, relabelAll_eq_map]
  | _ => exact hplus.symm

mutual

theorem overlong_relabel (v : Value) : (v.relabel ρ).overlong = v.overlong := by
  cases v with
  | list xs => rw [relabel, overlong, overlong, overlongAny_relabel xs]
  | tuple xs => rw [relabel, overlong, overlong, overlongAny_relabel xs]
  | map es => rw [relabel, overlong, overlong, overlongEntry_relabel es]
  | _ => simp [relabel, overlong]

theorem overlongAny_relabel (vs : List Value) : overlongAny (relabelAll ρ vs) = overlongAny vs := by
  cases vs with
  | nil => simp [relabelAll]
  | cons v vs =>
      rw [relabelAll, overlongAny, overlongAny, overlong_relabel v, overlongAny_relabel vs]

theorem overlongEntry_relabel (es : List (Value × Value)) :
    overlongEntry (relabelEntries ρ es) = overlongEntry es := by
  cases es with
  | nil => simp [relabelEntries]
  | cons e es =>
      obtain ⟨k, v⟩ := e
      rw [relabelEntries, overlongEntry, overlongEntry, overlong_relabel v,
        overlongEntry_relabel es]

end

mutual

-- The text of a function does not show its label.
theorem repr_relabel (v : Value) : (v.relabel ρ).repr = v.repr := by
  cases v with
  | list xs => rw [relabel, repr_list, repr_list, reprAll_relabel xs]
  | tuple xs => rw [relabel, repr_tuple, repr_tuple, reprAll_relabel xs]
  | map es => rw [relabel, repr_map, repr_map, reprEntries_relabel es]
  | runner l n => rw [relabel]; rfl
  | compiled f => rw [relabel]; rfl
  | keep test n => rw [relabel]; rfl
  | branch args test yes no n => rw [relabel]; rfl
  | _ => simp [relabel]

theorem reprAll_relabel (vs : List Value) : reprAll (relabelAll ρ vs) = reprAll vs := by
  cases vs with
  | nil => simp [relabelAll]
  | cons v vs =>
      rw [relabelAll]
      exact congrArg₂ List.cons (repr_relabel v) (reprAll_relabel vs)

theorem reprEntries_relabel (es : List (Value × Value)) :
    reprEntries (relabelEntries ρ es) = reprEntries es := by
  cases es with
  | nil => simp [relabelEntries]
  | cons e es =>
      obtain ⟨k, v⟩ := e
      have hentry : k.repr ++ ": " ++ (v.relabel ρ).repr = k.repr ++ ": " ++ v.repr := by
        rw [repr_relabel v]
      rw [relabelEntries]
      exact congrArg₂ List.cons hentry (reprEntries_relabel es)

end

-- Texts are compiled as they are, and all else is refused by what it looks like.
theorem compile_relabel (v : Value) (e : Evaluator) (params : Value) :
    e.compile (v.relabel ρ) params = e.compile v params := by
  have hrepr : (v.relabel ρ).repr? = v.repr? := by
    unfold repr?
    rw [overlong_relabel, repr_relabel]
  cases v
  case str s => rw [relabel_str]
  all_goals simp only [relabel] at hrepr ⊢ <;> simp only [Evaluator.compile, hrepr]

end Value

end Dialect
