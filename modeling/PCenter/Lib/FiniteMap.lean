import Mathlib.Data.List.AList
import Mathlib.Data.List.Dedup
import Mathlib.Data.List.Induction

/-!
# Finite maps kept up to date by reports

A finite map is a list of entries in which no key occurs twice; the order of the
entries is the order in which a program iterates over the map. Several reporters
share one map. A *report* writes every value it lists, each merged with the value
stored before under its key, and then removes the entries that belong to the
reporter and are not listed.

Nothing is assumed about the listed values: keys may repeat within one report and
may clash with the entries of another reporter.
-/

namespace FiniteMap

universe u v

abbrev Map (K : Type u) (V : Type v) := AList (fun _ : K => V)

variable {K : Type u} {V : Type v} [DecidableEq K]

/-- The values in iteration order. -/
def values (m : Map K V) : List V :=
  m.entries.map (fun entry => entry.2)

theorem mem_values_iff {m : Map K V} {v : V} :
    v ∈ values m ↔ ∃ k, m.lookup k = some v := by
  constructor
  · intro member
    obtain ⟨⟨k, w⟩, inside, rfl⟩ := List.mem_map.mp member
    exact ⟨k, AList.mem_lookup_iff.mpr inside⟩
  · rintro ⟨k, found⟩
    exact List.mem_map.mpr ⟨⟨k, v⟩, AList.mem_lookup_iff.mp found, rfl⟩

/-- Lookup after an insertion, as one equation. -/
theorem lookup_insert_eq (m : Map K V) (k k' : K) (v : V) :
    (m.insert k v).lookup k' = if k' = k then some v else m.lookup k' := by
  by_cases same : k' = k
  · subst same
    simp
  · simp [same]

theorem countP_erase {m : Map K V} {k : K} {v : V} (found : m.lookup k = some v)
    (test : (Sigma fun _ : K => V) → Bool) :
    m.entries.countP test = (m.erase k).entries.countP test + if test ⟨k, v⟩ then 1 else 0 := by
  have member : (⟨k, v⟩ : Sigma fun _ : K => V) ∈ m.entries := AList.mem_lookup_iff.mp found
  obtain ⟨w, before, after, _, split, erased⟩ :=
    List.exists_of_kerase (List.mem_keys_of_mem member)
  have same : m.lookup k = some w :=
    AList.mem_lookup_iff.mpr (by rw [split]; exact List.mem_append_right _ List.mem_cons_self)
  obtain rfl := Option.some.inj (found.symm.trans same)
  have entries : (m.erase k).entries = before ++ after := erased
  rw [entries, split, List.countP_append, List.countP_append, List.countP_cons]
  exact (Nat.add_assoc _ _ _).symm

theorem countP_erase_le (m : Map K V) (k : K) (test : (Sigma fun _ : K => V) → Bool) :
    (m.erase k).entries.countP test ≤ m.entries.countP test :=
  (List.kerase_sublist k m.entries).countP_le

theorem countP_insert_le (m : Map K V) (k : K) (v : V) (test : (Sigma fun _ : K => V) → Bool) :
    (m.insert k v).entries.countP test ≤ m.entries.countP test + if test ⟨k, v⟩ then 1 else 0 := by
  rw [AList.entries_insert, List.countP_cons]
  exact Nat.add_le_add_right ((List.kerase_sublist k m.entries).countP_le) _

/-- Keep the entries a test accepts. -/
def select (keep : K → V → Bool) (m : Map K V) : Map K V :=
  ⟨m.entries.filter (fun entry => keep entry.1 entry.2),
    m.nodupKeys.sublist List.filter_sublist⟩

theorem lookup_select (keep : K → V → Bool) (m : Map K V) (k : K) :
    (select keep m).lookup k = (m.lookup k).filter (keep k) := by
  apply Option.ext
  intro v
  have kept : (select keep m).lookup k = some v ↔ m.lookup k = some v ∧ keep k v = true := by
    have left : v ∈ (select keep m).lookup k ↔ ⟨k, v⟩ ∈ (select keep m).entries :=
      AList.mem_lookup_iff
    have right : v ∈ m.lookup k ↔ ⟨k, v⟩ ∈ m.entries := AList.mem_lookup_iff
    rw [Option.mem_def] at left right
    rw [left, right]
    simp [select]
  rw [kept, Option.filter_eq_some_iff]

section Report

variable (key : V → K) (merge : Option V → V → V) (mine : V → Bool)

/-- Write one listed value; `merge` sees what was stored under its key. -/
def put (m : Map K V) (v : V) : Map K V :=
  m.insert (key v) (merge (m.lookup (key v)) v)

def putAll (vs : List V) (m : Map K V) : Map K V :=
  vs.foldl (put key merge) m

/-- Remove the reporter's entries that the report leaves out. -/
def sweep (vs : List V) (m : Map K V) : Map K V :=
  select (fun k v => !mine v || vs.any (fun w => key w == k)) m

def report (vs : List V) (m : Map K V) : Map K V :=
  sweep key mine vs (putAll key merge vs m)

/-- The part of the map that belongs to the reporter, as a partial function. -/
def held (m : Map K V) (k : K) : Option V :=
  (m.lookup k).filter mine

variable {key merge mine}

theorem lookup_put (m : Map K V) (v : V) (k : K) :
    (put key merge m v).lookup k =
      if key v = k then some (merge (m.lookup k) v) else m.lookup k := by
  unfold put
  rw [lookup_insert_eq]
  by_cases same : key v = k
  · subst same
    simp
  · simp [same, Ne.symm same]

/-- Each key sees only the listed values that carry it, in the listed order. -/
theorem lookup_putAll (vs : List V) (m : Map K V) (k : K) :
    (putAll key merge vs m).lookup k =
      (vs.filter (fun v => key v == k)).foldl (fun old v => some (merge old v)) (m.lookup k) := by
  unfold putAll
  induction vs generalizing m with
  | nil => rfl
  | cons v rest ih =>
      rw [List.foldl_cons, ih, lookup_put]
      by_cases same : key v = k
      · simp [same]
      · simp [same]

theorem lookup_putAll_of_unlisted {vs : List V} {k : K} (m : Map K V)
    (unlisted : ∀ v ∈ vs, key v ≠ k) :
    (putAll key merge vs m).lookup k = m.lookup k := by
  have none_left : vs.filter (fun v => key v == k) = [] := by
    simpa [List.filter_eq_nil_iff] using unlisted
  rw [lookup_putAll, none_left, List.foldl_nil]

theorem foldl_some_isSome {A : Type*} (f : Option V → A → V) (first : A) (rest : List A)
    (start : Option V) :
    ((first :: rest).foldl (fun old a => some (f old a)) start).isSome := by
  induction rest generalizing first start with
  | nil => rfl
  | cons next rest ih => exact ih next (some (f start first))

theorem lookup_putAll_isSome {vs : List V} {v : V} (m : Map K V) (listed : v ∈ vs) :
    ((putAll key merge vs m).lookup (key v)).isSome := by
  rw [lookup_putAll]
  have inside : v ∈ vs.filter (fun w => key w == key v) := by simp [listed]
  cases shape : vs.filter (fun w => key w == key v) with
  | nil => simp [shape] at inside
  | cons first rest => exact foldl_some_isSome _ first rest _

theorem lookup_report_of_listed {vs : List V} {v : V} (m : Map K V) (listed : v ∈ vs) :
    (report key merge mine vs m).lookup (key v) = (putAll key merge vs m).lookup (key v) := by
  have covered : (vs.any (fun w => key w == key v)) = true := by
    simpa using ⟨v, listed, rfl⟩
  unfold report sweep
  rw [lookup_select]
  cases (putAll key merge vs m).lookup (key v) with
  | none => rfl
  | some w => simp [covered]

theorem lookup_report_of_unlisted {vs : List V} {k : K} (m : Map K V)
    (unlisted : ∀ v ∈ vs, key v ≠ k) :
    (report key merge mine vs m).lookup k = (m.lookup k).filter (fun v => !mine v) := by
  have uncovered : (vs.any (fun w => key w == k)) = false := by
    simpa using unlisted
  unfold report sweep
  rw [lookup_select, lookup_putAll_of_unlisted m unlisted]
  simp [uncovered]

/-- An entry disappears only if it is the reporter's and the report leaves it out. -/
theorem report_lost {vs : List V} {m : Map K V} {k : K} {old : V}
    (before : m.lookup k = some old) (after : (report key merge mine vs m).lookup k = none) :
    mine old = true ∧ ∀ v ∈ vs, key v ≠ k := by
  by_cases listed : ∃ v ∈ vs, key v = k
  · obtain ⟨v, inside, rfl⟩ := listed
    have present : ((putAll key merge vs m).lookup (key v)).isSome :=
      lookup_putAll_isSome m inside
    have same : (report key merge mine vs m).lookup (key v) = _ :=
      lookup_report_of_listed m inside
    rw [← same, after] at present
    simp at present
  · have unlisted : ∀ v ∈ vs, key v ≠ k := fun v inside same => listed ⟨v, inside, same⟩
    refine ⟨?_, unlisted⟩
    rw [lookup_report_of_unlisted m unlisted, before] at after
    simpa using after

/-- The empty report removes everything the reporter holds. -/
theorem held_report_nil (m : Map K V) (k : K) :
    held mine (report key merge mine [] m) k = none := by
  unfold held
  rw [lookup_report_of_unlisted m (by simp)]
  cases m.lookup k with
  | none => rfl
  | some v => cases owned : mine v <;> simp

theorem held_eq_none_iff {m : Map K V} {k : K} :
    held mine m k = none ↔ ∀ v, m.lookup k = some v → mine v = false := by
  unfold held
  cases m.lookup k with
  | none => simp
  | some v => simp [Option.filter_eq_none_iff]

/-- When a later value absorbs an earlier one of the same key, only the last listed value
of each key counts, and the reporter ends up holding just what it listed. -/
theorem held_report_last {vs : List V} (m : Map K V) (k : K)
    (owned : ∀ old, ∀ v ∈ vs, mine (merge old v) = true)
    (absorb : ∀ old, ∀ v ∈ vs, ∀ w ∈ vs, key v = key w →
      merge (some (merge old v)) w = merge old w) :
    held mine (report key merge mine vs m) k =
      ((vs.filter (fun v => key v == k)).getLast?).map (merge (m.lookup k)) := by
  have folded : ∀ part : List V, (∀ v ∈ part, v ∈ vs ∧ key v = k) → part ≠ [] →
      part.foldl (fun old v => some (merge old v)) (m.lookup k) =
        part.getLast?.map (merge (m.lookup k)) := by
    intro part inside nonempty
    induction part using List.reverseRecOn with
    | nil => exact absurd rfl nonempty
    | append_singleton front last ih =>
        rw [List.foldl_append, List.getLast?_concat]
        cases front with
        | nil => rfl
        | cons first rest =>
            have earlier := ih (fun v member => inside v (List.mem_append_left _ member)) (by simp)
            obtain ⟨w, shape⟩ : ∃ w, (first :: rest).getLast? = some w :=
              ⟨_, List.getLast?_eq_some_getLast (by simp)⟩
            have listed : w ∈ first :: rest := List.mem_of_getLast? shape
            have wIn := inside w (List.mem_append_left _ listed)
            have lastIn := inside last (by simp)
            rw [earlier, shape]
            simp only [Option.map_some, List.foldl_cons, List.foldl_nil]
            rw [absorb _ w wIn.1 last lastIn.1 (wIn.2.trans lastIn.2.symm)]
  unfold held
  by_cases listed : ∃ v ∈ vs, key v = k
  · obtain ⟨v, inside, rfl⟩ := listed
    have nonempty : vs.filter (fun w => key w == key v) ≠ [] := by
      intro empty
      have member : v ∈ vs.filter (fun w => key w == key v) := by simp [inside]
      simp [empty] at member
    rw [lookup_report_of_listed m inside, lookup_putAll,
      folded _ (by simp) nonempty]
    obtain ⟨last, shape⟩ : ∃ last, (vs.filter (fun w => key w == key v)).getLast? = some last :=
      ⟨_, List.getLast?_eq_some_getLast nonempty⟩
    have member := List.mem_of_getLast? shape
    rw [shape]
    simp [owned _ last (List.mem_of_mem_filter member)]
  · have unlisted : ∀ v ∈ vs, key v ≠ k := fun v inside same => listed ⟨v, inside, same⟩
    have empty : vs.filter (fun v => key v == k) = [] := by
      simpa [List.filter_eq_nil_iff] using unlisted
    rw [lookup_report_of_unlisted m unlisted, empty]
    cases m.lookup k with
    | none => rfl
    | some old => cases owns : mine old <;> simp

variable (key) in
/-- Every value is stored under its own key. -/
def KeyedBy (m : Map K V) : Prop := ∀ k v, m.lookup k = some v → key v = k

theorem KeyedBy.nodup_values {m : Map K V} (keyed : KeyedBy key m) :
    ((values m).map key).Nodup := by
  have keys : (values m).map key = m.entries.map Sigma.fst := by
    rw [values, List.map_map]
    refine List.map_congr_left ?_
    rintro ⟨k, v⟩ member
    exact keyed k v (AList.mem_lookup_iff.mpr member)
  rw [keys]
  exact m.nodupKeys

theorem KeyedBy.insert {m : Map K V} {k : K} {v : V} (keyed : KeyedBy key m) (own : key v = k) :
    KeyedBy key (m.insert k v) := by
  intro k' v' found
  rw [lookup_insert_eq] at found
  split at found
  · rename_i same
    rw [← Option.some.inj found, own, same]
  · exact keyed k' v' found

theorem KeyedBy.select {m : Map K V} {keep : K → V → Bool} (keyed : KeyedBy key m) :
    KeyedBy key (select keep m) := by
  intro k v found
  rw [lookup_select] at found
  exact keyed k v (Option.filter_eq_some_iff.mp found).1

/-- A report keeps the keys when its merge does. -/
theorem KeyedBy.report {vs : List V} {m : Map K V} (keyed : KeyedBy key m)
    (kept : ∀ old v, key (merge old v) = key v) : KeyedBy key (report key merge mine vs m) := by
  have put : KeyedBy key (putAll key merge vs m) := by
    induction vs generalizing m with
    | nil => exact keyed
    | cons v rest ih => exact ih (keyed.insert (kept _ v))
  exact put.select

theorem KeyedBy.find?_values {m : Map K V} (keyed : KeyedBy key m) (k : K) :
    (values m).find? (key · = k) = m.lookup k := by
  cases found : m.lookup k with
  | none =>
      refine List.find?_eq_none.mpr ?_
      intro v member same
      obtain ⟨k', there⟩ := mem_values_iff.mp member
      have own : k' = k := (keyed k' v there).symm.trans (of_decide_eq_true same)
      rw [own, found] at there
      exact nomatch there
  | some v =>
      have some_ : ((values m).find? (key · = k)).isSome := by
        refine List.find?_isSome.mpr ⟨v, mem_values_iff.mpr ⟨k, found⟩, ?_⟩
        exact decide_eq_true (keyed k v found)
      obtain ⟨w, first⟩ := Option.isSome_iff_exists.mp some_
      obtain ⟨k', there⟩ := mem_values_iff.mp (List.mem_of_find?_eq_some first)
      have same : key w = k := by simpa using List.find?_some first
      rw [← keyed k' w there, same, found] at there
      rw [first, there]

/-- The values of a map, written over another one under their own keys, come first. -/
theorem KeyedBy.lookup_writeAll {W : Type*} {m : Map K V} (keyed : KeyedBy key m) (f : V → W)
    (old : Map K W) (k : K) :
    ((values m).foldl (fun new v => new.insert (key v) (f v)) old).lookup k =
      ((m.lookup k).map f).or (old.lookup k) := by
  have written : ∀ vs : List V, (vs.map key).Nodup → ∀ old : Map K W,
      (vs.foldl (fun new v => new.insert (key v) (f v)) old).lookup k =
        ((vs.find? (key · = k)).map f).or (old.lookup k) := by
    intro vs
    induction vs with
    | nil => exact fun _ _ => rfl
    | cons v rest ih =>
        intro unique old
        obtain ⟨fresh, unique⟩ := List.nodup_cons.mp unique
        rw [List.foldl_cons, ih unique, lookup_insert_eq]
        by_cases same : key v = k
        · have later : rest.find? (key · = k) = none := by
            refine List.find?_eq_none.mpr ?_
            intro w member key
            exact fresh (same ▸ of_decide_eq_true key ▸ List.mem_map_of_mem member)
          simp [later, same]
        · simp [same, Ne.symm same]
  rw [written (values m) keyed.nodup_values old, keyed.find?_values]

end Report

section Rounds

variable {R : Type*} [DecidableEq R] (key : V → K) (merge : Option V → V → V) (owner : V → R)
  (part : R → List V)

/-- Every reporter of the order reports its part, one after the other. -/
def reportAll (order : List R) (m : Map K V) : Map K V :=
  order.foldl (fun m r => report key merge (fun v => owner v == r) (part r) m) m

variable {key merge owner part}

/-- What no one lists stays while its owner has not reported. -/
theorem lookup_reportAll_of_unlisted {order : List R} {k : K} (m : Map K V)
    (unlisted : ∀ r ∈ order, ∀ v ∈ part r, key v ≠ k) :
    (reportAll key merge owner part order m).lookup k =
      (m.lookup k).filter (fun v => owner v ∉ order) := by
  induction order generalizing m with
  | nil =>
      change m.lookup k = _
      cases m.lookup k with
      | none => rfl
      | some v => simp [Option.filter]
  | cons r rest ih =>
      have later := ih (report key merge (fun v => owner v == r) (part r) m)
        fun r' member => unlisted r' (List.mem_cons_of_mem _ member)
      rw [lookup_report_of_unlisted m (unlisted r List.mem_cons_self), Option.filter_filter] at later
      refine later.trans (congrArg (fun test => (m.lookup k).filter test) ?_)
      funext v
      by_cases own : owner v = r <;> simp [own]

theorem filter_key_eq_singleton {vs : List V} {v : V} (unique : (vs.map key).Nodup)
    (listed : v ∈ vs) : vs.filter (fun w => key w == key v) = [v] := by
  induction vs with
  | nil => cases listed
  | cons w rest ih =>
      obtain ⟨fresh, unique⟩ := List.nodup_cons.mp unique
      rcases List.mem_cons.mp listed with rfl | inner
      · have others : rest.filter (fun w => key w == key v) = [] := by
          refine List.filter_eq_nil_iff.mpr fun w member same => ?_
          exact fresh (List.mem_map.mpr ⟨w, member, by simpa using same⟩)
        simp [others]
      · have other : key w ≠ key v := fun same => fresh (same ▸ List.mem_map_of_mem inner)
        simpa [other] using ih unique inner

theorem lookup_report_of_single {vs : List V} {v : V} {mine : V → Bool} (m : Map K V)
    (unique : (vs.map key).Nodup) (listed : v ∈ vs) :
    (report key merge mine vs m).lookup (key v) = some (merge (m.lookup (key v)) v) := by
  rw [lookup_report_of_listed m listed, lookup_putAll, filter_key_eq_singleton unique listed]
  rfl

/-- A value that one reporter lists is merged with the entry that is left when its turn comes. -/
theorem lookup_reportAll_of_listed {before after : List R} {r : R} {v : V} (m : Map K V)
    (unique : ((part r).map key).Nodup) (listed : v ∈ part r)
    (others : ∀ r' ∈ before ++ after, ∀ w ∈ part r', key w ≠ key v)
    (kept : ∀ old, owner (merge old v) ∉ after) :
    (reportAll key merge owner part (before ++ r :: after) m).lookup (key v) =
      some (merge ((m.lookup (key v)).filter (fun w => owner w ∉ before)) v) := by
  have first := @lookup_reportAll_of_unlisted _ _ _ _ _ key merge owner part before (key v) m
    fun r' member => others r' (List.mem_append_left _ member)
  have turn := @lookup_report_of_single _ _ _ key merge _ v (fun v => owner v == r)
    (reportAll key merge owner part before m) unique listed
  have last := @lookup_reportAll_of_unlisted _ _ _ _ _ key merge owner part after (key v)
    (report key merge (fun v => owner v == r) (part r) (reportAll key merge owner part before m))
    fun r' member => others r' (List.mem_append_right _ member)
  rw [turn, first] at last
  have split : reportAll key merge owner part (before ++ r :: after) m =
      reportAll key merge owner part after (report key merge (fun v => owner v == r) (part r)
        (reportAll key merge owner part before m)) := by
    simp only [reportAll, List.foldl_append, List.foldl_cons]
  rw [split, last]
  simp [kept]

variable {owners : List R}

omit [DecidableEq K] [DecidableEq R] in
/-- What belongs to one reporter is not listed by another one. -/
theorem listed_once {r r' : R} {v w : V} (disjoint : ((owners.flatMap part).map key).Nodup)
    (placed : ∀ r ∈ owners, ∀ v ∈ part r, owner v = r) (member : r ∈ owners)
    (listed : v ∈ part r) (member' : r' ∈ owners) (listed' : w ∈ part r')
    (same : key w = key v) : r' = r := by
  have equal : w = v := List.inj_on_of_nodup_map disjoint
    (List.mem_flatMap.mpr ⟨r', member', listed'⟩) (List.mem_flatMap.mpr ⟨r, member, listed⟩) same
  rw [← placed r' member' w listed', equal, placed r member v listed]

omit [DecidableEq K] [DecidableEq R] in
theorem nodup_part {r : R} (disjoint : ((owners.flatMap part).map key).Nodup)
    (member : r ∈ owners) : ((part r).map key).Nodup := by
  rw [List.map_flatMap] at disjoint
  exact (List.nodup_flatMap.mp disjoint).1 r member

omit [DecidableEq R] in
theorem find?_parts {r : R} {v : V} (disjoint : ((owners.flatMap part).map key).Nodup)
    (member : r ∈ owners) (listed : v ∈ part r) :
    (owners.flatMap part).find? (fun w => key w = key v) = some v := by
  have inside : v ∈ owners.flatMap part := List.mem_flatMap.mpr ⟨r, member, listed⟩
  cases found : (owners.flatMap part).find? (fun w => key w = key v) with
  | none => exact absurd (decide_eq_true rfl) (List.find?_eq_none.mp found v inside)
  | some w =>
      have same : key w = key v := by simpa using List.find?_some found
      rw [List.inj_on_of_nodup_map disjoint (List.mem_of_find?_eq_some found) inside same]

/-- A round in any order leaves the union of the parts exactly when no value needs an entry that
belongs to another reporter, which may be gone when the value is listed. -/
theorem reportAll_eq_union_iff {m : Map K V} (distinct : owners.Nodup)
    (placed : ∀ r ∈ owners, ∀ v ∈ part r, owner v = r)
    (own : ∀ old v, owner (merge old v) = owner v)
    (disjoint : ((owners.flatMap part).map key).Nodup)
    (inside : ∀ k v, m.lookup k = some v → owner v ∈ owners) :
    (∀ order : List R, order.Perm owners → ∀ k,
        (reportAll key merge owner part order m).lookup k =
          ((owners.flatMap part).find? (fun v => key v = k)).map (merge (m.lookup k))) ↔
      ∀ r ∈ owners, ∀ v ∈ part r, ∀ old ∈ m.lookup (key v),
        owner old = r ∨ merge none v = merge (some old) v := by
  -- the turn of a reporter, between those that came before and those that come after
  have turn : ∀ {before after : List R} {r : R} {v : V}, (before ++ r :: after).Perm owners →
      v ∈ part r → (reportAll key merge owner part (before ++ r :: after) m).lookup (key v) =
        some (merge ((m.lookup (key v)).filter (fun w => owner w ∉ before)) v) := by
    intro before after r v perm listed
    have member : r ∈ owners :=
      perm.mem_iff.mp (List.mem_append_right _ List.mem_cons_self)
    have apart : r ∉ before ++ after :=
      (List.nodup_cons.mp (List.perm_middle.nodup_iff.mp (perm.nodup_iff.mpr distinct))).1
    refine lookup_reportAll_of_listed m (nodup_part disjoint member) listed ?_ ?_
    · intro r' member' w listed' same
      have there : r' ∈ owners := by
        refine perm.mem_iff.mp ?_
        rcases List.mem_append.mp member' with first | last
        · exact List.mem_append_left _ first
        · exact List.mem_append_right _ (List.mem_cons_of_mem _ last)
      exact apart (listed_once disjoint placed member listed there listed' same ▸ member')
    · intro old later
      rw [own, placed r member v listed] at later
      exact apart (List.mem_append_right _ later)
  constructor
  · intro all r member v listed old found
    by_cases home : owner old = r
    · exact Or.inl home
    right
    have there : owner old ∈ owners := inside _ _ found
    have rest : r ∈ owners.erase (owner old) :=
      (List.mem_erase_of_ne (Ne.symm home)).mpr member
    obtain ⟨before, after, split⟩ := List.append_of_mem rest
    have perm : ((owner old :: before) ++ r :: after).Perm owners := by
      rw [List.cons_append, ← split]
      exact (List.perm_cons_erase there).symm
    have result := all _ perm (key v)
    rw [turn perm listed, find?_parts disjoint member listed, found] at result
    simpa [Option.filter] using result
  · intro stays order perm k
    by_cases listed : ∃ r ∈ owners, ∃ v ∈ part r, key v = k
    · obtain ⟨r, member, v, listed, rfl⟩ := listed
      obtain ⟨before, after, rfl⟩ := List.append_of_mem (perm.mem_iff.mpr member)
      rw [turn perm listed, find?_parts disjoint member listed, Option.map_some]
      refine congrArg some ?_
      cases found : m.lookup (key v) with
      | none => rfl
      | some old =>
          by_cases gone : owner old ∈ before
          · have away : owner old ≠ r := by
              rintro rfl
              have unique := perm.nodup_iff.mpr distinct
              exact (List.nodup_append.mp unique).2.2 _ gone _ List.mem_cons_self rfl
            rw [← (stays r member v listed old found).resolve_left away]
            simp [Option.filter, gone]
          · simp [Option.filter, gone]
    · have unlisted : ∀ r ∈ owners, ∀ v ∈ part r, key v ≠ k :=
        fun r member v inside same => listed ⟨r, member, v, inside, same⟩
      have none_ : (owners.flatMap part).find? (fun v => key v = k) = none := by
        refine List.find?_eq_none.mpr fun v member same => ?_
        obtain ⟨r, there, inside⟩ := List.mem_flatMap.mp member
        exact unlisted r there v inside (of_decide_eq_true same)
      rw [none_, lookup_reportAll_of_unlisted m fun r member => unlisted r (perm.mem_iff.mp member)]
      cases found : m.lookup k with
      | none => rfl
      | some old =>
          have there : owner old ∈ order := perm.mem_iff.mpr (inside k old found)
          simp [Option.filter, there]

end Rounds

section Iteration

/-- The keys in an order that the runtime picks: those of `order` first. -/
def inOrder (order ks : List K) : List K :=
  (order.filter (· ∈ ks)).dedup ++ ks.filter (· ∉ order)

theorem mem_inOrder {order ks : List K} {k : K} : k ∈ inOrder order ks ↔ k ∈ ks := by
  by_cases picked : k ∈ order
  · simp [inOrder, picked]
  · simp [inOrder, picked]

theorem nodup_inOrder {order ks : List K} (distinct : ks.Nodup) : (inOrder order ks).Nodup := by
  refine List.nodup_append.mpr ⟨List.nodup_dedup _, distinct.filter _, ?_⟩
  rintro a first b later rfl
  have picked : a ∈ order := (List.mem_filter.mp (List.mem_dedup.mp first)).1
  simpa [picked] using (List.mem_filter.mp later).2

end Iteration

end FiniteMap
