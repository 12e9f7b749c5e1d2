import Dialect.Pipeline.Language
import Dialect.Proofs.Run.Evaluation

namespace Dialect

-- The data that is run for a member of a sequence.
def Program.body (m : Value) : Value := (target 0 m).2

theorem Program.target_body (l : Nat) (m : Value) : (target l m).2 = body m := by
  cases m <;> rfl

-- Data without a language of its own is run in the language that is given.
theorem Program.target_of_raw {m : Value} (h : m.kind ≠ .program) (l : Nat) :
    target l m = (l, body m) := by
  cases m <;> first | rfl | exact (h rfl).elim

-- What a name does not occur in cannot be read at it.
theorem Value.atName_of_absent {data : Value} {key : String} (h : data.hasName key = .ok false) :
    ∃ e, data.atName key = .error e := by
  cases data
  case map es =>
    simp only [Value.hasName, Except.ok.injEq, Option.isSome_eq_false_iff,
      Option.isNone_iff_eq_none] at h
    simp [Value.atName, h]
  all_goals exact ⟨_, rfl⟩

namespace Pipeline

-- A place where a step is written: the numbers of the members that lead to its program, from
-- outside in, and the key and the value of the step.
structure Site where
  address : List Nat
  key : String
  raw : Value

def Site.below (k : Nat) (s : Site) : Site := { s with address := k :: s.address }

-- The keys of a program in the order in which they fire, and those of them that make steps.
def keyOrder : List String := ["config", "bind", "transform", "filter", "when", "steps"]

def stepKeys : List String := ["transform", "filter", "when"]

-- The members of the sequence of a program.
def members (data : Value) : List Value :=
  match data.atName "steps" with
  | .ok raw => raw.members.toOption.getD []
  | .error _ => []

-- The sites of members, which are numbered from `k` on.
def memberSites (below : Value → List Site) (k : Nat) : List Value → List Site
  | [] => []
  | m :: ms => (below (Program.body m)).map (.below k) ++ memberSites below (k + 1) ms

-- The sites at one key of a program.
def sitesAt (below : Value → List Site) (data : Value) (key : String) : List Site :=
  if key ∈ stepKeys then
    match data.atName key with
    | .ok raw => [⟨[], key, raw⟩]
    | .error _ => []
  else if key = "steps" then memberSites below 0 (members data) else []

-- All sites of a program. Members are less deep than the data they stand in, so the test never
-- fails.
def sites (data : Value) : List Site :=
  keyOrder.flatMap
    (sitesAt (fun sub => if sub.depth < data.depth then sites sub else []) data)
termination_by data.depth

-- The sites before the end of a path, whose entries are keys and numbers of members.
def sitesBefore (data : Value) : List (String × Nat) → List Site
  | [] => []
  | (key, k) :: path =>
    (keyOrder.takeWhile (· ≠ key)).flatMap (sitesAt sites data) ++
      if key = "steps" then
        memberSites sites 0 ((members data).take k) ++
          match (members data)[k]? with
          | some m => (sitesBefore (Program.body m) path).map (.below k)
          | none => []
      else []

-- Data whose members have no language of their own, at any depth.
inductive AllRaw : Value → Prop where
  | mk {data : Value} (raw : ∀ m ∈ members data, m.kind ≠ .program)
      (below : ∀ m ∈ members data, AllRaw (Program.body m)) : AllRaw data

theorem members_eq {data raw : Value} {ms : List Value} (hraw : data.atName "steps" = .ok raw)
    (hms : raw.members = .ok ms) : members data = ms := by
  unfold members
  rw [hraw]
  simp only [hms]
  rfl

theorem mem_members {data m : Value} (h : m ∈ members data) :
    ∃ raw ms, data.atName "steps" = .ok raw ∧ raw.members = .ok ms ∧ m ∈ ms := by
  unfold members at h
  split at h
  · rename_i raw hraw
    cases hms : raw.members with
    | error e =>
        rw [hms] at h
        cases h
    | ok ms =>
        rw [hms] at h
        exact ⟨raw, ms, hraw, hms, h⟩
  · cases h

-- Data is raw at any depth if it belongs to a set of raw data that is closed under members. By
-- induction on how deep the data is.
theorem allRaw_of_closed {D : Value → Prop}
    (hD : ∀ d, D d → ∀ m ∈ members d, m.kind ≠ .program ∧ D (Program.body m)) {data : Value}
    (hdata : D data) : AllRaw data := by
  induction hdepth : data.depth using Nat.strongRecOn generalizing data with
  | ind n ih =>
      subst hdepth
      refine ⟨fun m hm => (hD data hdata m hm).1, fun m hm => ?_⟩
      obtain ⟨raw, ms, hraw, hms, hmem⟩ := mem_members hm
      exact ih _ (Program.depth_target_lt hraw hms hmem 0) (hD data hdata m hm).2 rfl

theorem sitesAt_of_absent (below : Value → List Site) {data : Value} {key : String}
    (h : data.hasName key = .ok false) : sitesAt below data key = [] := by
  obtain ⟨e, he⟩ := Value.atName_of_absent h
  unfold sitesAt members
  rw [he]
  split
  · rfl
  · split
    · rename_i hkey
      subst hkey
      rw [he]
      rfl
    · rfl

theorem memberSites_congr {f g : Value → List Site} {ms : List Value}
    (h : ∀ m ∈ ms, f (Program.body m) = g (Program.body m)) (k : Nat) :
    memberSites f k ms = memberSites g k ms := by
  induction ms generalizing k with
  | nil => rfl
  | cons m ms ih =>
      rw [memberSites, memberSites, h m List.mem_cons_self,
        ih fun x hx => h x (List.mem_cons_of_mem _ hx)]

theorem sites_eq (data : Value) : sites data = keyOrder.flatMap (sitesAt sites data) := by
  rw [sites]
  congr 1
  funext key
  unfold sitesAt
  have hmembers : memberSites (fun sub => if sub.depth < data.depth then sites sub else []) 0
      (members data) = memberSites sites 0 (members data) := by
    refine memberSites_congr (fun m hm => ?_) 0
    obtain ⟨raw, ms, hraw, hms, hmem⟩ := mem_members hm
    exact if_pos (Program.depth_target_lt hraw hms hmem 0)
  rw [hmembers]

theorem memberSites_append (f : Value → List Site) (k : Nat) (ms more : List Value) :
    memberSites f k (ms ++ more) = memberSites f k ms ++ memberSites f (k + ms.length) more := by
  induction ms generalizing k with
  | nil => simp [memberSites]
  | cons m ms ih =>
      rw [List.cons_append, memberSites, memberSites, ih, List.append_assoc, List.length_cons]
      congr 3
      omega

-- The members before one of them, and a first part of what stands in that one.
theorem memberSites_front {f : Value → List Site} {ms : List Value} {k : Nat} {m : Value}
    (hm : ms[k]? = some m) {front : List Site} (hfront : front <+: f (Program.body m)) :
    memberSites f 0 (ms.take k) ++ front.map (.below k) <+: memberSites f 0 ms := by
  obtain ⟨hk, rfl⟩ := List.getElem?_eq_some_iff.mp hm
  have hsplit : ms = ms.take k ++ ms[k] :: ms.drop (k + 1) := by
    rw [← List.drop_eq_getElem_cons hk, List.take_append_drop]
  have hlength : (ms.take k).length = k := by simp [Nat.le_of_lt hk]
  have hsites := memberSites_append f 0 (ms.take k) (ms[k] :: ms.drop (k + 1))
  rw [← hsplit, hlength, Nat.zero_add, memberSites] at hsites
  rw [hsites]
  exact (List.prefix_append_right_inj _).mpr
    ((hfront.map _).trans (List.prefix_append _ _))

-- Where a key fails by itself, nothing at the key comes before the failure.
theorem sitesBefore_single (data : Value) (key : String) :
    sitesBefore data [(key, 0)] =
      (keyOrder.takeWhile (· ≠ key)).flatMap (sitesAt sites data) := by
  rw [sitesBefore]
  split
  · cases (members data)[0]? <;> simp [memberSites, sitesBefore]
  · exact List.append_nil _

-- What comes before a failure is a first part of all sites. By induction on the path.
theorem sitesBefore_prefix_sites (data : Value) (path : List (String × Nat)) :
    sitesBefore data path <+: sites data := by
  induction path generalizing data with
  | nil => exact List.nil_prefix
  | cons step path ih =>
      obtain ⟨key, k⟩ := step
      rw [sites_eq, sitesBefore]
      by_cases hkey : key = "steps"
      · subst hkey
        have horder : keyOrder = keyOrder.takeWhile (· ≠ "steps") ++ ["steps"] := by decide
        have hsteps : sitesAt sites data "steps" = memberSites sites 0 (members data) := by
          simp [sitesAt, stepKeys]
        have hall := congrArg (List.flatMap (sitesAt sites data)) horder
        rw [List.flatMap_append, List.flatMap_singleton, hsteps] at hall
        rw [hall, if_pos rfl]
        refine (List.prefix_append_right_inj _).mpr ?_
        cases hm : (members data)[k]? with
        | some m => exact memberSites_front hm (ih _)
        | none =>
            have htake := List.take_of_length_le (List.getElem?_eq_none_iff.mp hm)
            exact ⟨[], by rw [htake, List.append_nil, List.append_nil]⟩
      · obtain ⟨rest, hrest⟩ := List.takeWhile_prefix (l := keyOrder) (· ≠ key)
        have hall := congrArg (List.flatMap (sitesAt sites data)) hrest
        rw [List.flatMap_append] at hall
        rw [← hall, if_neg hkey, List.append_nil]
        exact List.prefix_append _ _

end Pipeline

end Dialect
