import Mathlib.Data.List.Nodup

/-!
# Ledgers

A ledger is a list of entries under keys. A value is set at the first entry of its key, or at a
new one at the end. A key may stand in the ledger more than once: then the later entries are never
set, and keep the value that a new ledger has throughout. After many settings a key has the value
that was set last.
-/

namespace Ledger

variable {K V : Type*}

/-- Behind an entry of the same key nothing is set. -/
def Shadowed (fresh : V) (l : List (K × V)) : Prop :=
  l.Pairwise fun e f => e.1 = f.1 → f.2 = fresh

section Shadows

variable {fresh : V} {l : List (K × V)}

theorem shadowed_of_fresh (all : ∀ e ∈ l, e.2 = fresh) : Shadowed fresh l :=
  List.pairwise_iff_forall_sublist.mpr fun sub _ => all _ (sub.subset (by simp))

theorem Shadowed.nodup_keys (shadowed : Shadowed fresh l) (changed : ∀ e ∈ l, e.2 ≠ fresh) :
    (l.map Prod.fst).Nodup := by
  rw [List.Nodup, List.pairwise_map]
  exact shadowed.imp_of_mem fun _ later behind same => changed _ later (behind same)

end Shadows

section Setting

variable [DecidableEq K]

def set (k : K) (v : V) : List (K × V) → List (K × V)
  | [] => [(k, v)]
  | e :: rest => if e.1 = k then (e.1, v) :: rest else e :: set k v rest

variable {k : K} {v fresh : V} {l : List (K × V)}

theorem keys_set_of_mem (listed : k ∈ l.map Prod.fst) :
    (set k v l).map Prod.fst = l.map Prod.fst := by
  induction l with
  | nil => cases listed
  | cons e rest ih =>
      rw [set]
      split_ifs with here
      · rfl
      · rcases List.mem_cons.mp listed with first | later
        · exact absurd first.symm here
        · rw [List.map_cons, List.map_cons, ih later]

theorem keys_set_of_not_mem (unlisted : k ∉ l.map Prod.fst) :
    (set k v l).map Prod.fst = l.map Prod.fst ++ [k] := by
  induction l with
  | nil => rfl
  | cons e rest ih =>
      rw [List.map_cons, List.mem_cons, not_or] at unlisted
      rw [set, if_neg fun here => unlisted.1 here.symm, List.map_cons, List.map_cons,
        ih unlisted.2, List.cons_append]

theorem nodup_keys_set (nodup : (l.map Prod.fst).Nodup) :
    ((set k v l).map Prod.fst).Nodup := by
  by_cases listed : k ∈ l.map Prod.fst
  · rwa [keys_set_of_mem listed]
  · rw [keys_set_of_not_mem listed, List.nodup_append]
    refine ⟨nodup, List.nodup_singleton k, ?_⟩
    rintro key member _ last rfl
    exact listed (List.mem_singleton.mp last ▸ member)

theorem mem_set {e : K × V} (member : e ∈ set k v l) : e ∈ l ∨ e = (k, v) := by
  induction l with
  | nil => exact .inr (List.mem_singleton.mp member)
  | cons first rest ih =>
      rw [set] at member
      split_ifs at member with here
      · rcases List.mem_cons.mp member with rfl | later
        · exact .inr (by rw [here])
        · exact .inl (List.mem_cons_of_mem first later)
      · rcases List.mem_cons.mp member with rfl | later
        · exact .inl List.mem_cons_self
        · rcases ih later with old | new
          · exact .inl (List.mem_cons_of_mem first old)
          · exact .inr new

theorem keys_prefix_set : l.map Prod.fst <+: (set k v l).map Prod.fst := by
  by_cases listed : k ∈ l.map Prod.fst
  · exact ⟨[], by rw [List.append_nil, keys_set_of_mem listed]⟩
  · rw [keys_set_of_not_mem listed]
    exact List.prefix_append _ _

theorem Shadowed.set (shadowed : Shadowed fresh l) (k : K) (v : V) :
    Shadowed fresh (Ledger.set k v l) := by
  induction l with
  | nil => exact List.pairwise_singleton _ _
  | cons first rest ih =>
      obtain ⟨behind, others⟩ := List.pairwise_cons.mp shadowed
      rw [Ledger.set]
      split_ifs with here
      · exact List.pairwise_cons.mpr ⟨behind, others⟩
      · refine List.pairwise_cons.mpr ⟨fun e member same => ?_, ih others⟩
        rcases mem_set member with old | rfl
        · exact behind e old same
        · exact absurd same here

end Setting

section Lookups

variable [BEq K] [LawfulBEq K] {k k' : K} {v fresh : V} {l : List (K × V)}

theorem lookup_set [DecidableEq K] :
    (set k v l).lookup k' = if k' = k then some v else l.lookup k' := by
  induction l with
  | nil =>
      by_cases same : k' = k
      · simp [set, same]
      · simp [set, same, List.lookup_cons, beq_false_of_ne same]
  | cons e rest ih =>
      rw [set]
      by_cases here : e.1 = k
      · rw [if_pos here]
        by_cases same : k' = k
        · simp [same, here]
        · have apart : k' ≠ e.1 := fun other => same (other.trans here)
          rw [List.lookup_cons, List.lookup_cons, beq_false_of_ne apart, if_neg same]
      · rw [if_neg here, List.lookup_cons, List.lookup_cons, ih]
        by_cases first : k' = e.1
        · have apart : k' ≠ k := fun other => here (first.symm.trans other)
          simp [first, here]
        · simp [beq_false_of_ne first]

/-- A ledger that is kept as a list of records. -/
theorem lookup_map [DecidableEq K] {A : Type*} {key : A → K} {value : A → V} (records : List A) :
    (records.map fun a => (key a, value a)).lookup k =
      (records.find? fun a => key a = k).map value := by
  induction records with
  | nil => rfl
  | cons a rest ih =>
      rw [List.map_cons, List.lookup_cons, List.find?_cons, ih]
      by_cases here : key a = k
      · simp [here]
      · simp [here, beq_false_of_ne (Ne.symm here)]

theorem mem_of_lookup (found : l.lookup k = some v) : (k, v) ∈ l := by
  obtain ⟨before, after, rfl, -⟩ := List.lookup_eq_some_iff.mp found
  exact List.mem_append_right before List.mem_cons_self

/-- An entry that was set is the first of its key. -/
theorem Shadowed.lookup_eq {e : K × V} (shadowed : Shadowed fresh l) (member : e ∈ l)
    (changed : e.2 ≠ fresh) : l.lookup e.1 = some e.2 := by
  induction l with
  | nil => cases member
  | cons first rest ih =>
      obtain ⟨behind, others⟩ := List.pairwise_cons.mp shadowed
      rw [List.lookup_cons]
      rcases List.mem_cons.mp member with rfl | later
      · simp
      · have apart : e.1 ≠ first.1 := fun same => changed (behind e later same.symm)
        rw [beq_false_of_ne apart]
        exact ih others later

/-- With one entry for a key, an entry is what its key has. -/
theorem lookup_eq_of_mem {e : K × V} (unique : (l.map Prod.fst).Nodup) (member : e ∈ l) :
    l.lookup e.1 = some e.2 := by
  induction l with
  | nil => cases member
  | cons first rest ih =>
      obtain ⟨absent, others⟩ := List.nodup_cons.mp unique
      rw [List.lookup_cons]
      rcases List.mem_cons.mp member with rfl | later
      · simp
      · have apart : e.1 ≠ first.1 := by
          intro same
          exact absent (same ▸ List.mem_map_of_mem later)
        rw [beq_false_of_ne apart]
        exact ih others later

end Lookups

section Logs

variable [DecidableEq K] {fresh : V} {l sets sets' : List (K × V)}

/-- One setting after the other. -/
def setAll (sets l : List (K × V)) : List (K × V) := sets.foldl (fun l e => set e.1 e.2 l) l

theorem setAll_append : setAll (sets ++ sets') l = setAll sets' (setAll sets l) :=
  List.foldl_append

theorem Shadowed.setAll (shadowed : Shadowed fresh l) : Shadowed fresh (setAll sets l) := by
  induction sets generalizing l with
  | nil => exact shadowed
  | cons e rest ih => exact ih (shadowed.set e.1 e.2)

theorem nodup_keys_setAll (nodup : (l.map Prod.fst).Nodup) :
    ((setAll sets l).map Prod.fst).Nodup := by
  induction sets generalizing l with
  | nil => exact nodup
  | cons e rest ih => exact ih (nodup_keys_set nodup)

theorem keys_prefix_setAll : l.map Prod.fst <+: (setAll sets l).map Prod.fst := by
  induction sets generalizing l with
  | nil => exact List.prefix_rfl
  | cons e rest ih => exact keys_prefix_set.trans ih

end Logs

section Last

variable [BEq K] {k : K} {l sets sets' : List (K × V)}

/-- The value that a key is set to last. -/
def lastSet (sets : List (K × V)) (k : K) : Option V := sets.reverse.lookup k

@[simp] theorem lastSet_nil : lastSet ([] : List (K × V)) k = none := rfl

theorem lastSet_append :
    lastSet (sets ++ sets') k = (lastSet sets' k).or (lastSet sets k) := by
  rw [lastSet, List.reverse_append, List.lookup_append]
  rfl

variable [LawfulBEq K]

theorem lastSet_eq_none_iff : lastSet sets k = none ↔ k ∉ sets.map Prod.fst := by
  rw [lastSet, List.lookup_eq_none_iff, List.mem_map, not_exists]
  constructor
  · intro apart e here
    have other := apart e (List.mem_reverse.mpr here.1)
    exact absurd here.2.symm (by simpa using other)
  · intro absent e member
    have other : k ≠ e.1 := fun same => absent e ⟨List.mem_reverse.mp member, same.symm⟩
    simpa using other

theorem mem_of_lastSet {v : V} (last : lastSet sets k = some v) : (k, v) ∈ sets :=
  List.mem_reverse.mp (mem_of_lookup last)

/-- Settings that are set again do not matter. -/
theorem lastSet_append_of_covered (covered : ∀ e ∈ sets, e.1 ∈ sets'.map Prod.fst) :
    lastSet (sets ++ sets') k = lastSet sets' k := by
  rw [lastSet_append]
  cases last : lastSet sets' k with
  | some v => rfl
  | none =>
      rw [Option.none_or, lastSet_eq_none_iff]
      intro listed
      obtain ⟨e, member, rfl⟩ := List.mem_map.mp listed
      exact lastSet_eq_none_iff.mp last (covered e member)

variable [DecidableEq K]

theorem lastSet_cons {e : K × V} :
    lastSet (e :: sets) k = (lastSet sets k).or (if k = e.1 then some e.2 else none) := by
  have last : lastSet [e] k = if k = e.1 then some e.2 else none := by
    rw [lastSet, List.reverse_singleton, List.lookup_cons]
    by_cases same : k = e.1
    · simp [same]
    · simp [same, beq_false_of_ne same]
  rw [← last]
  exact @lastSet_append K V _ k [e] sets

theorem lookup_setAll : (setAll sets l).lookup k = (lastSet sets k).or (l.lookup k) := by
  induction sets generalizing l with
  | nil => rfl
  | cons e rest ih =>
      rw [setAll, List.foldl_cons, lastSet_cons]
      refine ih.trans ?_
      rw [lookup_set]
      by_cases same : k = e.1
      · rw [if_pos same, if_pos same, Option.or_assoc]
        rfl
      · rw [if_neg same, if_neg same, Option.or_none]

/-- Settings under other names, of other values. -/
theorem lastSet_map_of_injective {K' V' : Type*} [BEq K'] [LawfulBEq K'] [DecidableEq K']
    {key : K → K'} (injective : Function.Injective key) (value : V → V') :
    lastSet (sets.map fun e => (key e.1, value e.2)) (key k) = (lastSet sets k).map value := by
  induction sets with
  | nil => rfl
  | cons e rest ih =>
      rw [List.map_cons, lastSet_cons, lastSet_cons, ih, Option.map_or]
      by_cases same : k = e.1
      · rw [if_pos (congrArg key same), if_pos same]
        rfl
      · rw [if_neg (fun other => same (injective other)), if_neg same]
        rfl

/-- Settings of every key of a list, one value for a key. -/
theorem lastSet_map {A : Type*} {key : A → K} {value : K → V} (records : List A) :
    lastSet (records.map fun a => (key a, value (key a))) k =
      if k ∈ records.map key then some (value k) else none := by
  induction records with
  | nil => rfl
  | cons a rest ih =>
      have inside : k ∈ (a :: rest).map key ↔ k = key a ∨ k ∈ rest.map key := List.mem_cons
      rw [List.map_cons, lastSet_cons, ih]
      by_cases listed : k ∈ rest.map key
      · rw [if_pos listed, if_pos (inside.mpr (.inr listed))]
        rfl
      · by_cases here : k = key a
        · rw [if_neg listed, if_pos here, if_pos (inside.mpr (.inl here)), here]
          rfl
        · rw [if_neg listed, if_neg here, if_neg (fun both => (inside.mp both).elim here listed)]
          rfl

end Last

end Ledger
