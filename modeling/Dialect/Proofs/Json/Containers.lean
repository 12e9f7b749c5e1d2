import Dialect.Proofs.Json.Scanning
import Dialect.Proofs.Value.Entries

namespace Dialect

open Json (Layout layoutAt bracket render renderAll renderEntries quote)

mutual

-- Plain data that can be read back: whole numbers are not too long, doubles are read back from
-- their texts, and no object has a key twice.
def Plain.Readable : Plain → Prop
  | .int n => tooLong n = false
  | .float x => Number.Restorable x
  | .list ps => ReadableAll ps
  | .object es => (es.map (·.1)).Nodup ∧ ReadableEntries es
  | _ => True

def Plain.ReadableAll : List Plain → Prop
  | [] => True
  | p :: ps => p.Readable ∧ ReadableAll ps

def Plain.ReadableEntries : List (String × Plain) → Prop
  | [] => True
  | (_, p) :: es => p.Readable ∧ ReadableEntries es

end

namespace Json

variable {rest : List Char} {fuel : Nat}

theorem skip_append {ws : List Char} (h : ∀ c ∈ ws, isSpace c = true) (cs : List Char) :
    skip (ws ++ cs) = skip cs :=
  List.dropWhile_append_of_pos h

theorem skip_cons {c : Char} (h : isSpace c = false) (cs : List Char) : skip (c :: cs) = c :: cs :=
  List.dropWhile_cons_of_neg (by simp [h])

-- A comma separates members, and nothing else stands around them but blanks.
structure Layout.Airy (l : Layout) : Prop where
  between : ∃ ws, l.between.toList = ',' :: ws ∧ ∀ c ∈ ws, isSpace c = true
  first : ∀ c ∈ l.first.toList, isSpace c = true
  last : ∀ c ∈ l.last.toList, isSpace c = true
  ends : ∀ c ∈ [']', '\x7d'], ∀ rest, Ends (l.last.toList ++ c :: rest)

theorem airy_layoutAt (pretty : Bool) (depth : Nat) : (layoutAt pretty depth).Airy := by
  have hline : ∀ n, ∀ c ∈ '\n' :: List.replicate n ' ', isSpace c = true := by
    intro n c hc
    rcases List.mem_cons.mp hc with rfl | hc
    · rfl
    · rw [List.eq_of_mem_replicate hc]
      rfl
  cases pretty with
  | true =>
      refine ⟨⟨'\n' :: List.replicate (2 * (depth + 1)) ' ', ?_, hline _⟩, ?_, ?_, ?_⟩
      · simp [layoutAt]
      · simpa [layoutAt] using hline (2 * (depth + 1))
      · simpa [layoutAt] using hline (2 * depth)
      · intro c _ rest
        simp [layoutAt, Ends]
  | false =>
      refine ⟨⟨[' '], by simp [layoutAt], by simp [isSpace]⟩, by simp [layoutAt],
        by simp [layoutAt], ?_⟩
      intro c hc rest
      simp only [List.mem_cons, List.not_mem_nil, or_false] at hc
      rcases hc with rfl | rfl <;> simp [layoutAt, Ends]

-- The text of members and of what follows the last of them.
def joined (l : Layout) (parts : List String) : List Char := (l.between.intercalate parts).toList

theorem joined_singleton (l : Layout) (part : String) : joined l [part] = part.toList := rfl

theorem joined_cons_cons (l : Layout) (part next : String) (parts : List String) :
    joined l (part :: next :: parts) =
      part.toList ++ (l.between.toList ++ joined l (next :: parts)) := by
  rw [joined, String.intercalate_cons_cons, String.toList_append, String.toList_append,
    List.append_assoc]
  rfl

theorem bracket_toList {opening closing : String} {o c : Char} (ho : opening.toList = [o])
    (hc : closing.toList = [c]) (l : Layout) {parts : List String} (hne : parts ≠ []) :
    (bracket opening closing l parts).toList =
      o :: (l.first.toList ++ (joined l parts ++ (l.last.toList ++ [c]))) := by
  simp [bracket, joined, hne, ho, hc]

theorem bracket_head {opening : String} {o : Char} (ho : opening.toList = [o]) (closing : String)
    (l : Layout) (parts : List String) :
    ∃ tail, (bracket opening closing l parts).toList = o :: tail := by
  unfold bracket
  split
  · exact ⟨closing.toList, by simp [ho]⟩
  · rw [String.append_assoc, String.append_assoc, String.append_assoc, String.toList_append, ho]
    exact ⟨_, rfl⟩

-- A value does not start with a blank or with what closes a list.
theorem head_of_value_eq_ok {cs : List Char} {found : Value × List Char}
    (h : value fuel cs = .ok found) :
    ∃ c tail, cs = c :: tail ∧ isSpace c = false ∧ c ≠ ']' := by
  cases fuel with
  | zero => cases h
  | succ fuel =>
      cases cs with
      | nil => cases h
      | cons c tail =>
          refine ⟨c, tail, rfl, ?_, ?_⟩
          · rw [Bool.eq_false_iff]
            intro hspace
            simp only [isSpace, Bool.or_eq_true, beq_iff_eq] at hspace
            rcases hspace with ((rfl | rfl) | rfl) | rfl <;> cases h
          · rintro rfl
            cases h

theorem head_of_elements_eq_ok {acc : List Value} {cs : List Char} {found : Value × List Char}
    (h : elements fuel acc cs = .ok found) :
    ∃ c tail, cs = c :: tail ∧ isSpace c = false ∧ c ≠ ']' := by
  cases fuel with
  | zero => cases h
  | succ fuel =>
      rw [elements] at h
      cases hv : value fuel cs with
      | error e => rw [hv] at h; cases h
      | ok first => exact head_of_value_eq_ok hv

theorem elements_last {cs r : List Char} {v : Value} (hv : value fuel cs = .ok (v, r))
    (hr : skip r = ']' :: rest) (acc : List Value) :
    elements (fuel + 1) acc cs = .ok (.list (acc.reverse ++ [v]), rest) := by
  rw [elements, hv, ← List.reverse_cons]
  simp only [bind, Except.bind, hr]
  rfl

theorem elements_more {cs r r' : List Char} {v : Value} (hv : value fuel cs = .ok (v, r))
    (hr : skip r = ',' :: r') (acc : List Value) :
    elements (fuel + 1) acc cs = elements fuel (v :: acc) (skip r') := by
  rw [elements, hv]
  simp only [bind, Except.bind, hr]

theorem value_elements {cs cs' : List Char} (hcs : skip cs = skip cs') {found : Value × List Char}
    (h : elements fuel [] cs' = .ok found) : value (fuel + 1) ('[' :: cs) = .ok found := by
  obtain ⟨c, tail, rfl, hspace, hc⟩ := head_of_elements_eq_ok h
  rw [skip_cons hspace] at hcs
  simp only [value, hcs]
  simpa [hc] using h

-- An entry: the text of a key, a colon, a blank and the text of a value.
theorem entries_eq (key : String) {part r : List Char} {v : Value}
    (hv : value fuel (part ++ r) = .ok (v, r)) (acc : List (Value × Value)) :
    entries (fuel + 1) acc ((quote key ++ ": ").toList ++ (part ++ r)) =
      match skip r with
      | ',' :: r => entries fuel (Value.insert acc (.str key) v) (skip r)
      | '\x7d' :: r => .ok (.map (Value.insert acc (.str key) v), r)
      | _ => malformed := by
  obtain ⟨c, tail, hcs, hspace, -⟩ := head_of_value_eq_ok hv
  obtain ⟨cs, htext, hquoted⟩ := quoted_quote key (':' :: ' ' :: (part ++ r))
  have hcolon : skip (':' :: ' ' :: (part ++ r)) = ':' :: ' ' :: (part ++ r) :=
    skip_cons (by decide) _
  have hblank : skip (' ' :: (part ++ r)) = part ++ r := by
    have hspaces : ∀ c ∈ [' '], isSpace c = true := by simp [isSpace]
    rw [hcs]
    exact (skip_append hspaces _).trans (skip_cons hspace tail)
  have hassoc : (quote key ++ ": ").toList ++ (part ++ r) = '"' :: cs := by
    rw [← htext, String.toList_append, List.append_assoc]
    rfl
  rw [hassoc, entries]
  simp only [hquoted, bind, Except.bind, hcolon, hblank, hv]
  rfl

theorem head_of_entries_eq_ok {acc : List (Value × Value)} {cs : List Char}
    {found : Value × List Char} (h : entries fuel acc cs = .ok found) :
    ∃ tail, cs = '"' :: tail := by
  cases fuel with
  | zero => cases h
  | succ fuel =>
      unfold entries at h
      split at h
      · exact ⟨_, rfl⟩
      · cases h

theorem value_entries {cs cs' : List Char} (hcs : skip cs = skip cs') {found : Value × List Char}
    (h : entries fuel [] cs' = .ok found) : value (fuel + 1) ('\x7b' :: cs) = .ok found := by
  obtain ⟨tail, rfl⟩ := head_of_entries_eq_ok h
  rw [skip_cons (by decide)] at hcs
  simpa [value, hcs] using h

-- Entries with different texts as keys are set one behind the other.
theorem insertAll_toEntries {es : List (String × Plain)} (h : (es.map (·.1)).Nodup) :
    Value.insertAll [] (Plain.toEntries es) = Plain.toEntries es := by
  induction es with
  | nil => rfl
  | cons e es ih =>
      obtain ⟨k, p⟩ := e
      rw [List.map_cons, List.nodup_cons] at h
      have hkeys : ∀ es : List (String × Plain),
          (Plain.toEntries es).map (·.1) = es.map fun e => .str e.1 := by
        intro es
        induction es with
        | nil => rfl
        | cons e es ih => simp [Plain.toEntries, ih]
      have hnew : ∀ e ∈ Plain.toEntries es, Value.find? [(.str k, p.toValue)] e.1 = none := by
        intro e he
        have hmem : e.1 ∈ es.map fun e => Value.str e.1 := hkeys es ▸ List.mem_map_of_mem he
        obtain ⟨f, hf, hkey⟩ := List.mem_map.mp hmem
        have hne : Value.str k ≠ .str f.1 := by
          intro heq
          exact h.1 (List.mem_map.mpr ⟨f, hf, (Value.str.inj heq).symm⟩)
        rw [← hkey]
        have hsame : (Value.str f.1).same (.str k) = false := Value.same_str_of_ne hne.symm
        simp [Value.find?, hsame]
      have happend := Value.insertAll_of_find?_eq_none hnew []
      rw [List.append_nil, ih h.2] at happend
      exact happend

-- What takes one step is read if the text is at most as long as the fuel.
theorem value_of_succ {text : List Char} {v : Value}
    (h : ∀ rest, Ends rest → ∀ fuel, value (fuel + 1) (text ++ rest) = .ok (v, rest))
    (hrest : Ends rest) (hfuel : text.length ≤ fuel) :
    value fuel (text ++ rest) = .ok (v, rest) := by
  cases fuel with
  | zero =>
      obtain rfl : text = [] := by simpa using hfuel
      obtain ⟨c, tail, hcs, -⟩ := head_of_value_eq_ok (h [] (by simp [Ends]) 0)
      cases hcs
  | succ fuel => exact h rest hrest fuel

theorem ends_comma (cs : List Char) : Ends (',' :: cs) := by simp [Ends]

theorem skip_last {l : Layout} (hl : l.Airy) {c : Char} (hc : isSpace c = false)
    (cs : List Char) : skip (l.last.toList ++ c :: cs) = c :: cs := by
  rw [skip_append hl.last, skip_cons hc]

-- Without members a container is its two brackets.
theorem value_bracket_nil (l : Layout) (rest : List Char) (fuel : Nat) :
    value (fuel + 1) ((bracket "[" "]" l []).toList ++ rest) = .ok (.list [], rest) ∧
      value (fuel + 1) ((bracket "\x7b" "\x7d" l []).toList ++ rest) = .ok (.map [], rest) := by
  have hlist : (bracket "[" "]" l []).toList = ['[', ']'] := by simp [bracket]
  have hobject : (bracket "\x7b" "\x7d" l []).toList = ['\x7b', '\x7d'] := by simp [bracket]
  rw [hlist, hobject]
  exact ⟨rfl, rfl⟩

mutual

-- The length of a text is enough fuel to read it: a list gives one step away for its bracket and
-- one for each member, and so does its text. By induction on the data; members and entries are
-- followed through the rest of their container.
theorem value_render (pretty : Bool) (p : Plain) (hp : p.Readable) (depth : Nat)
    {rest : List Char} (hrest : Ends rest) {fuel : Nat}
    (hfuel : (render pretty depth p).toList.length ≤ fuel) :
    value fuel ((render pretty depth p).toList ++ rest) = .ok (p.toValue, rest) := by
  cases p with
  | null =>
      rw [render] at hfuel ⊢
      exact value_of_succ (fun rest _ => value_word (by simp [Plain.toValue]) rest) hrest hfuel
  | bool b =>
      cases b <;> rw [render] at hfuel ⊢ <;>
        exact value_of_succ (fun rest _ => value_word (by simp [Plain.toValue]) rest) hrest hfuel
  | int n =>
      rw [render] at hfuel ⊢
      exact value_of_succ (fun rest h => value_int hp h) hrest hfuel
  | float x =>
      rw [render] at hfuel ⊢
      rw [Plain.toValue, Value.ofFloat, if_neg (Bool.eq_false_iff.mp hp.1)]
      exact value_of_succ (fun rest h => value_float hp h) hrest hfuel
  | str s =>
      rw [render] at hfuel ⊢
      exact value_of_succ (fun rest _ => value_quote s rest) hrest hfuel
  | list ps =>
      have hl := airy_layoutAt pretty depth
      rw [render] at hfuel ⊢
      cases ps with
      | nil =>
          exact value_of_succ (fun rest _ fuel => (value_bracket_nil _ rest fuel).1) hrest hfuel
      | cons p ps =>
          have htext := bracket_toList (show "[".toList = ['['] by simp)
            (show "]".toList = [']'] by simp) (layoutAt pretty depth)
            (show renderAll pretty (depth + 1) (p :: ps) ≠ [] by simp [renderAll])
          rw [htext] at hfuel ⊢
          simp only [List.length_cons, List.length_append] at hfuel
          obtain ⟨fuel, rfl⟩ : ∃ f, fuel = f + 1 := ⟨fuel - 1, by omega⟩
          simp only [List.cons_append, List.append_assoc]
          refine value_elements (skip_append hl.first _) ?_
          exact elements_render pretty (p :: ps) (by simp) hp (depth + 1) hl [] rest fuel (by omega)
  | object es =>
      have hl := airy_layoutAt pretty depth
      rw [render] at hfuel ⊢
      cases es with
      | nil =>
          exact value_of_succ (fun rest _ fuel => (value_bracket_nil _ rest fuel).2) hrest hfuel
      | cons e es =>
          have htext := bracket_toList (show "\x7b".toList = ['\x7b'] by simp)
            (show "\x7d".toList = ['\x7d'] by simp) (layoutAt pretty depth)
            (show renderEntries pretty (depth + 1) (e :: es) ≠ [] by simp [renderEntries])
          rw [htext] at hfuel ⊢
          simp only [List.length_cons, List.length_append] at hfuel
          obtain ⟨fuel, rfl⟩ : ∃ f, fuel = f + 1 := ⟨fuel - 1, by omega⟩
          simp only [List.cons_append, List.append_assoc]
          refine value_entries (skip_append hl.first _) ?_
          rw [Plain.toValue, ← insertAll_toEntries hp.1]
          exact entries_render pretty (e :: es) (by simp) hp.2 (depth + 1) hl [] rest fuel
            (by omega)
termination_by structural p

theorem elements_render (pretty : Bool) (ps : List Plain) (hne : ps ≠ [])
    (hps : Plain.ReadableAll ps) (depth : Nat) {l : Layout} (hl : l.Airy) (acc : List Value)
    (rest : List Char) (fuel : Nat)
    (hfuel : (joined l (renderAll pretty depth ps)).length < fuel) :
    elements fuel acc (joined l (renderAll pretty depth ps) ++ (l.last.toList ++ ']' :: rest)) =
      .ok (.list (acc.reverse ++ Plain.toValues ps), rest) := by
  obtain ⟨fuel, rfl⟩ : ∃ f, fuel = f + 1 := ⟨fuel - 1, by omega⟩
  cases ps with
  | nil => exact absurd rfl hne
  | cons p ps =>
      cases ps with
      | nil =>
          have hv := value_render pretty p hps.1 depth (hl.ends ']' (by simp) rest)
            (Nat.le_of_lt_succ hfuel)
          exact elements_last hv (skip_last hl (by decide) rest) acc
      | cons q qs =>
          obtain ⟨ws, hbetween, hws⟩ := hl.between
          have htext : joined l (renderAll pretty depth (p :: q :: qs)) =
              (render pretty depth p).toList ++
                (',' :: (ws ++ joined l (renderAll pretty depth (q :: qs)))) := by
            rw [renderAll, renderAll, joined_cons_cons, hbetween]
            rfl
          rw [htext] at hfuel ⊢
          simp only [List.length_append, List.length_cons] at hfuel
          have hmore := elements_render pretty (q :: qs) (by simp) hps.2 depth hl
            (p.toValue :: acc) rest fuel (by omega)
          obtain ⟨c, tail, hcs, hspace, -⟩ := head_of_elements_eq_ok hmore
          have hv := value_render pretty p hps.1 depth (ends_comma (ws ++
            (joined l (renderAll pretty depth (q :: qs)) ++ (l.last.toList ++ ']' :: rest))))
            (show (render pretty depth p).toList.length ≤ fuel by omega)
          simp only [List.append_assoc, List.cons_append]
          rw [elements_more hv (skip_cons (by decide) _), skip_append hws, hcs, skip_cons hspace,
            ← hcs, hmore, List.reverse_cons, List.append_assoc]
          rfl
termination_by structural ps

theorem entries_render (pretty : Bool) (es : List (String × Plain)) (hne : es ≠ [])
    (hes : Plain.ReadableEntries es) (depth : Nat) {l : Layout} (hl : l.Airy)
    (acc : List (Value × Value)) (rest : List Char) (fuel : Nat)
    (hfuel : (joined l (renderEntries pretty depth es)).length < fuel) :
    entries fuel acc (joined l (renderEntries pretty depth es) ++
        (l.last.toList ++ '\x7d' :: rest)) =
      .ok (.map (Value.insertAll acc (Plain.toEntries es)), rest) := by
  obtain ⟨fuel, rfl⟩ : ∃ f, fuel = f + 1 := ⟨fuel - 1, by omega⟩
  cases es with
  | nil => exact absurd rfl hne
  | cons e es =>
      obtain ⟨k, p⟩ := e
      cases es with
      | nil =>
          rw [renderEntries, renderEntries, joined_singleton, String.toList_append] at hfuel ⊢
          rw [List.length_append] at hfuel
          have hv := value_render pretty p hes.1 depth (hl.ends '\x7d' (by simp) rest)
            (show (render pretty depth p).toList.length ≤ fuel by omega)
          rw [List.append_assoc, entries_eq k hv, skip_last hl (by decide)]
          rfl
      | cons f es =>
          obtain ⟨ws, hbetween, hws⟩ := hl.between
          have htext : joined l (renderEntries pretty depth ((k, p) :: f :: es)) =
              (quote k ++ ": ").toList ++ ((render pretty depth p).toList ++
                (',' :: (ws ++ joined l (renderEntries pretty depth (f :: es))))) := by
            rw [renderEntries, renderEntries, joined_cons_cons, hbetween, String.toList_append,
              List.append_assoc]
            rfl
          rw [htext] at hfuel ⊢
          simp only [List.length_append, List.length_cons] at hfuel
          have hmore := entries_render pretty (f :: es) (by simp) hes.2 depth hl
            (Value.insert acc (.str k) p.toValue) rest fuel (by omega)
          obtain ⟨tail, hcs⟩ := head_of_entries_eq_ok hmore
          have hv := value_render pretty p hes.1 depth (ends_comma (ws ++
            (joined l (renderEntries pretty depth (f :: es)) ++ (l.last.toList ++ '\x7d' :: rest))))
            (show (render pretty depth p).toList.length ≤ fuel by omega)
          simp only [List.append_assoc, List.cons_append]
          rw [entries_eq k hv, skip_cons (by decide)]
          simp only [skip_append hws, hcs, skip_cons (show isSpace '"' = false by decide)]
          rw [← hcs, hmore]
          rfl
termination_by structural es

end

end Json

end Dialect
