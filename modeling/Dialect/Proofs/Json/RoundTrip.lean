import Dialect.Document
import Dialect.Proofs.Json.Containers

namespace Dialect

namespace Value

mutual

-- What is left of a value as plain data. Keys that have the same text become one entry, with the
-- place of the first and the value of the last.
def normal : Value → Value
  | null => null
  | bool b => bool b
  | int n => int n
  | float x => float x
  | nan l => nan l
  | str s => str s
  | list xs => list (normalAll xs)
  | tuple xs => list (normalAll xs)
  | map es => map (normalEntries [] es)
  | v => str v.repr

def normalAll : List Value → List Value
  | [] => []
  | v :: vs => v.normal :: normalAll vs

def normalEntries (acc : List (Value × Value)) : List (Value × Value) → List (Value × Value)
  | [] => acc
  | (k, v) :: es => normalEntries (insert acc (str k.text) v.normal) es

end

mutual

-- The doubles among the leaves are read back from their texts, and none is NaN.
def Restorable : Value → Prop
  | float x => Number.Restorable x
  | nan _ => False
  | list xs => RestorableAll xs
  | tuple xs => RestorableAll xs
  | map es => RestorableEntries es
  | _ => True

def RestorableAll : List Value → Prop
  | [] => True
  | v :: vs => v.Restorable ∧ RestorableAll vs

def RestorableEntries : List (Value × Value) → Prop
  | [] => True
  | (_, v) :: es => v.Restorable ∧ RestorableEntries es

end

end Value

namespace Plain

theorem toEntries_insert (es : List (String × Plain)) (k : String) (p : Plain) :
    toEntries (insert es k p) = Value.insert (toEntries es) (.str k) p.toValue := by
  induction es with
  | nil => rfl
  | cons e es ih =>
      obtain ⟨k', q⟩ := e
      rw [insert, toEntries, Value.insert]
      by_cases hk : k' = k
      · rw [if_pos hk, if_pos (Value.same_str_iff.mpr (by rw [hk])), toEntries]
      · have hsame : ¬ (Value.str k).same (.str k') = true := by
          rw [Value.same_str_iff, Value.str.injEq]
          exact hk
        rw [if_neg hk, if_neg hsame, toEntries, ih]

theorem keys_insert (es : List (String × Plain)) (k : String) (p : Plain) :
    (insert es k p).map (·.1) =
      if k ∈ es.map (·.1) then es.map (·.1) else es.map (·.1) ++ [k] := by
  induction es with
  | nil => rfl
  | cons e es ih =>
      obtain ⟨k', q⟩ := e
      rw [insert]
      by_cases hk : k' = k
      · simp [hk]
      · rw [if_neg hk, List.map_cons, ih]
        by_cases hmem : k ∈ es.map (·.1)
        · simp [hmem]
        · simp [hmem, Ne.symm hk]

theorem nodup_insert {es : List (String × Plain)} (h : (es.map (·.1)).Nodup) (k : String)
    (p : Plain) : ((insert es k p).map (·.1)).Nodup := by
  rw [keys_insert]
  split
  case isTrue => exact h
  case isFalse hnew =>
    rw [← List.concat_eq_append]
    exact h.concat hnew

theorem readableEntries_insert {es : List (String × Plain)} (h : ReadableEntries es) (k : String)
    {p : Plain} (hp : p.Readable) : ReadableEntries (insert es k p) := by
  induction es with
  | nil => exact ⟨hp, trivial⟩
  | cons e es ih =>
      obtain ⟨k', q⟩ := e
      rw [insert]
      split
      · exact ⟨hp, h.2⟩
      · exact ⟨h.1, ih h.2⟩

mutual

-- What can be read back is short enough to be written.
theorem overlong_of_readable {p : Plain} (h : p.Readable) : p.overlong = false := by
  cases p with
  | int n => exact h
  | list ps => exact overlongAny_of_readable h
  | object es => exact overlongEntry_of_readable h.2
  | _ => rfl

theorem overlongAny_of_readable {ps : List Plain} (h : ReadableAll ps) :
    overlongAny ps = false := by
  cases ps with
  | nil => rfl
  | cons p ps => rw [overlongAny, overlong_of_readable h.1, overlongAny_of_readable h.2]; rfl

theorem overlongEntry_of_readable {es : List (String × Plain)} (h : ReadableEntries es) :
    overlongEntry es = false := by
  cases es with
  | nil => rfl
  | cons e es =>
      obtain ⟨k, p⟩ := e
      rw [overlongEntry, overlong_of_readable h.1, overlongEntry_of_readable h.2]
      rfl

end

end Plain

namespace Value

theorem repr?_eq_ok {v : Value} (h : v.overlong = false) : v.repr? = .ok v.repr := by
  rw [repr?, h]
  rfl

theorem text?_eq_ok {v : Value} (h : v.overlong = false) : v.text? = .ok v.text := by
  rw [text?, h]
  rfl

mutual

-- The plain form of a value is its normal form, and it can be read back.
theorem plain_eq_ok {v : Value} (hshort : v.overlong = false) (h : v.Restorable) :
    ∃ p, v.plain = .ok p ∧ p.toValue = v.normal ∧ p.Readable := by
  cases v with
  | null | bool | str => exact ⟨_, rfl, rfl, trivial⟩
  | int n => exact ⟨.int n, rfl, rfl, hshort⟩
  | float x =>
      refine ⟨.float x, rfl, ?_, h⟩
      rw [Plain.toValue, ofFloat, if_neg (Bool.eq_false_iff.mp h.1)]
      rfl
  | nan l => exact h.elim
  | list xs =>
      obtain ⟨ps, hplain, hnormal, hps⟩ := plainAll_eq_ok hshort h
      exact ⟨.list ps, by rw [plain, hplain]; rfl, congrArg list hnormal, hps⟩
  | tuple xs =>
      obtain ⟨ps, hplain, hnormal, hps⟩ := plainAll_eq_ok hshort h
      exact ⟨.list ps, by rw [plain, hplain]; rfl, congrArg list hnormal, hps⟩
  | map es =>
      obtain ⟨ps, hplain, hnormal, hps⟩ := plainEntries_eq_ok [] hshort h .nil trivial
      exact ⟨.object ps, by rw [plain, hplain]; rfl, congrArg map hnormal, hps⟩
  | _ => exact ⟨.str _, by simp only [plain, repr?_eq_ok hshort]; rfl, rfl, trivial⟩

theorem plainAll_eq_ok {vs : List Value} (hshort : overlongAny vs = false)
    (h : RestorableAll vs) :
    ∃ ps, plainAll vs = .ok ps ∧ Plain.toValues ps = normalAll vs ∧ Plain.ReadableAll ps := by
  cases vs with
  | nil => exact ⟨[], rfl, rfl, trivial⟩
  | cons v vs =>
      rw [overlongAny, Bool.or_eq_false_iff] at hshort
      obtain ⟨p, hplain, hnormal, hp⟩ := plain_eq_ok hshort.1 h.1
      obtain ⟨ps, hplains, hnormals, hps⟩ := plainAll_eq_ok hshort.2 h.2
      refine ⟨p :: ps, ?_, ?_, hp, hps⟩
      · rw [plainAll, hplain, hplains]
        rfl
      · rw [Plain.toValues, hnormal, hnormals]
        rfl

-- Entries are set one after the other on those that were set before.
theorem plainEntries_eq_ok (acc : List (String × Plain)) {es : List (Value × Value)}
    (hshort : overlongEntry es = false) (h : RestorableEntries es)
    (hkeys : (acc.map (·.1)).Nodup) (hacc : Plain.ReadableEntries acc) :
    ∃ out, plainEntries acc es = .ok out ∧
      Plain.toEntries out = normalEntries (Plain.toEntries acc) es ∧
      (out.map (·.1)).Nodup ∧ Plain.ReadableEntries out := by
  cases es with
  | nil => exact ⟨acc, rfl, rfl, hkeys, hacc⟩
  | cons e es =>
      obtain ⟨k, v⟩ := e
      rw [overlongEntry, Bool.or_eq_false_iff, Bool.or_eq_false_iff] at hshort
      obtain ⟨⟨hk, hv⟩, hes⟩ := hshort
      obtain ⟨p, hplain, hnormal, hp⟩ := plain_eq_ok hv h.1
      obtain ⟨out, hout, hentries, hresult⟩ := plainEntries_eq_ok _ hes h.2
        (Plain.nodup_insert hkeys k.text p) (Plain.readableEntries_insert hacc k.text hp)
      refine ⟨out, ?_, ?_, hresult⟩
      · rw [plainEntries, text?_eq_ok hk, hplain]
        exact hout
      · rw [hentries, Plain.toEntries_insert, hnormal]
        rfl

end

end Value

namespace Json

theorem read_write (pretty : Bool) {p : Plain} (hp : p.Readable) :
    read (write pretty p) = .ok p.toValue := by
  have hread {fuel : Nat} (hfuel : (write pretty p).toList.length ≤ fuel) :
      value fuel (write pretty p).toList = .ok (p.toValue, []) := by
    have h : value fuel ((write pretty p).toList ++ []) = .ok (p.toValue, []) :=
      value_render pretty p hp 0 (by simp [Ends]) hfuel
    rwa [List.append_nil] at h
  obtain ⟨c, tail, htext, hspace, -⟩ := head_of_value_eq_ok (hread le_rfl)
  have hskip : skip (write pretty p).toList = (write pretty p).toList := by
    rw [htext, skip_cons hspace]
  rw [read, hskip, hread (Nat.le_succ _)]
  rfl

-- A container is recognised by its first bracket.
theorem sniff_write (pretty : Bool) {p : Plain} (h : p.toValue.kind ∈ [.list, .map]) :
    Format.sniff (write pretty p) = .json := by
  have hsniff : ∀ {text : String} {c : Char}, c = '[' ∨ c = '\x7b' →
      (∃ tail, text.toList = c :: tail) → Format.sniff text = .json := by
    rintro text c (rfl | rfl) ⟨tail, htext⟩
    · rw [Format.sniff, htext, List.dropWhile_cons_of_neg (by decide)]
      rfl
    · rw [Format.sniff, htext, List.dropWhile_cons_of_neg (by decide)]
      rfl
  cases p with
  | list ps => exact hsniff (.inl rfl) (bracket_head (by simp) _ _ _)
  | object es => exact hsniff (.inr rfl) (bracket_head (by simp) _ _ _)
  | float x =>
      rw [Plain.toValue, Value.ofFloat] at h
      split at h <;> simp [Value.kind] at h
  | _ => simp [Plain.toValue, Value.kind] at h

end Json

namespace Document

-- What was written as JSON is read as the normal form of the value, whatever content type comes
-- with it. Containers are read in the same way if no format is given.
theorem deserialize_serialize (pretty : Bool) {v : Value} (hshort : v.overlong = false)
    (hfloats : v.Restorable) :
    ∃ text, serialize (.str "json") pretty v = .ok text ∧
      (∀ contentType, deserialize (some "json") contentType (.str text) = .ok v.normal) ∧
      (v.kind ∈ [.list, .tuple, .map] → deserialize none none (.str text) = .ok v.normal) := by
  obtain ⟨p, hplain, hnormal, hp⟩ := Value.plain_eq_ok hshort hfloats
  have hread : readAs .json (Json.write pretty p) = .ok v.normal := by
    rw [readAs, Json.read_write pretty hp, hnormal]
    rfl
  have hname : formatName (.str "json") = .ok "json" := rfl
  refine ⟨Json.write pretty p, ?_, fun contentType => hread, fun hkind => ?_⟩
  · have hchecked : checked p (Json.write pretty p) = .ok (Json.write pretty p) :=
      if_neg (by simp [Plain.overlong_of_readable hp])
    rw [serialize, hname, hplain]
    exact hchecked
  · have hcontainer : p.toValue.kind ∈ [.list, .map] := by
      rw [hnormal]
      cases v <;> simp_all [Value.normal, Value.kind]
    change readAs (Format.sniff (Json.write pretty p)) (Json.write pretty p) = .ok v.normal
    rw [Json.sniff_write pretty hcontainer, hread]

end Document

namespace Sample

def half : Float := Number.ofRatio false 1 2

-- A mapping in which two keys have the same text, with leaves that JSON has no form for.
def parcel : Value :=
  .map [(.int 1, .tuple [.float half, .mark .input]), (.str "a\n\"b", .bytes [104, 105]),
    (.str "1", .list [.null, .bool true, .int (-12), .float (-Number.infinity), .map []])]

theorem restorable_half : Number.Restorable half := by
  have htext : Number.floatText half = "0.5" := by decide
  exact ⟨by decide, by rw [htext]; rfl⟩

theorem restorable_infinity : Number.Restorable (-Number.infinity) := by
  have htext : Number.floatText (-Number.infinity) = "-inf" := by decide
  exact ⟨by decide, by rw [htext]; rfl⟩

theorem deserialize_serialize_parcel : ∃ text,
    Document.serialize (.str "json") true parcel = .ok text ∧
      Document.deserialize none none (.str text) = .ok parcel.normal ∧
      parcel.normal = .map [
        (.str "1", .list [.null, .bool true, .int (-12), .float (-Number.infinity), .map []]),
        (.str "a\n\"b", .str "b'hi'")] := by
  have hfloats : parcel.Restorable :=
    ⟨⟨restorable_half, trivial, trivial⟩, trivial,
      ⟨trivial, trivial, trivial, restorable_infinity, trivial, trivial⟩, trivial⟩
  obtain ⟨text, hwrite, -, hread⟩ :=
    Document.deserialize_serialize true (v := parcel) (by decide +kernel) hfloats
  exact ⟨text, hwrite, hread (by decide), by rfl⟩

end Sample

end Dialect
