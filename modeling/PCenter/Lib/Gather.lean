import Mathlib.Data.Finset.Card
import Mathlib.Data.List.Dedup
import Mathlib.Data.List.Perm.Basic
import PCenter.Lib.FiniteMap

/-!
# Rows gathered under keys

A loop over rows keeps one value for each key and adds every row to the value of its key; rows
without a key are passed over. What ends up under a key is made of the rows that have it, in
their order. Where a key does not tell two kinds of rows apart, no way to share out the rows
into as many parts as there are keys does so either.
-/

namespace FiniteMap

universe u v w

variable {K : Type u} {S : Type v} {R : Type w} [DecidableEq K]

section Gather

variable (label : R → Option (K × S)) (add : S → R → S)

def gatherOne (m : Map K S) (r : R) : Map K S :=
  match label r with
  | none => m
  | some (k, fresh) => m.insert k (add ((m.lookup k).getD fresh) r)

def gather (rows : List R) : Map K S := rows.foldl (gatherOne label add) ∅

/-- The rows with a key. -/
def under (rows : List R) (k : K) : List R := rows.filter fun r => (label r).map (·.1) = some k

variable {label add}

theorem mem_under {rows : List R} {k : K} {r : R} :
    r ∈ under label rows k ↔ r ∈ rows ∧ (label r).map (·.1) = some k := by
  rw [under, List.mem_filter, decide_eq_true_iff]

theorem under_append (rows rows' : List R) (k : K) :
    under label (rows ++ rows') k = under label rows k ++ under label rows' k :=
  List.filter_append _ _

theorem under_nil_iff {rows : List R} {k : K} :
    under label rows k = [] ↔ ∀ r ∈ rows, (label r).map (·.1) ≠ some k := by
  rw [under, List.filter_eq_nil_iff]
  exact forall₂_congr fun r _ => by rw [decide_eq_true_iff]

/-- What is under a key: its rows added one after another to what the first of them starts. -/
def gathered (label : R → Option (K × S)) (add : S → R → S) (rows : List R) (k : K) : Option S :=
  match under label rows k with
  | [] => none
  | r :: rest => (label r).map fun start => (r :: rest).foldl add start.2

theorem lookup_gather (rows : List R) (k : K) :
    (gather label add rows).lookup k = gathered label add rows k := by
  induction rows using List.reverseRecOn with
  | nil => rfl
  | append_singleton rows r ih =>
      rw [gather, List.foldl_append, List.foldl_cons, List.foldl_nil]
      change (gatherOne label add (gather label add rows) r).lookup k = _
      rw [gathered, under_append]
      cases named : label r with
      | none =>
          have alone : under label [r] k = [] := by
            simp [under, named]
          simp only [gatherOne, named]
          rw [ih, alone, List.append_nil, gathered]
      | some start =>
          obtain ⟨k', fresh⟩ := start
          simp only [gatherOne, named]
          rw [lookup_insert_eq]
          by_cases same : k = k'
          · subst same
            have alone : under label [r] k = [r] := by
              simp [under, named]
            rw [if_pos rfl, ih, alone, gathered]
            cases before : under label rows k with
            | nil =>
                rw [List.nil_append]
                simp only [named, Option.getD_none, Option.map_some, List.foldl_cons,
                  List.foldl_nil]
            | cons r' rest =>
                have member : r' ∈ under label rows k := by
                  rw [before]
                  exact List.mem_cons_self
                obtain ⟨start, is, -⟩ := Option.map_eq_some_iff.mp (mem_under.mp member).2
                simp only [is, List.cons_append, Option.map_some, Option.getD_some,
                  List.foldl_cons, List.foldl_append, List.foldl_nil]
          · have alone : under label [r] k = [] := by
              simp [under, named, Ne.symm same]
            rw [if_neg same, ih, alone, List.append_nil, gathered]

/-- The keys of the rows, each once. -/
def keysOf (label : R → Option (K × S)) (rows : List R) : List K :=
  (rows.filterMap fun r => (label r).map (·.1)).dedup

theorem mem_keysOf {rows : List R} {k : K} :
    k ∈ keysOf label rows ↔ ∃ r ∈ rows, (label r).map (·.1) = some k := by
  rw [keysOf, List.mem_dedup, List.mem_filterMap]

theorem keys_gather (rows : List R) :
    (gather label add rows).keys.Perm (keysOf label rows) := by
  have distinct : (keysOf label rows).Nodup := List.nodup_dedup _
  refine (List.perm_ext_iff_of_nodup (AList.keys_nodup _) distinct).mpr fun k => ?_
  refine AList.lookup_isSome.symm.trans ?_
  rw [lookup_gather, mem_keysOf, gathered]
  cases those : under label rows k with
  | nil =>
      have nobody := under_nil_iff.mp those
      simp only [Option.isSome_none, Bool.false_eq_true, false_iff]
      rintro ⟨r, member, named⟩
      exact nobody r member named
  | cons r rest =>
      have member : r ∈ under label rows k := by
        rw [those]
        exact List.mem_cons_self
      obtain ⟨inside, named⟩ := mem_under.mp member
      obtain ⟨start, is, -⟩ := Option.map_eq_some_iff.mp named
      simp only [is, Option.map_some, Option.isSome_some, true_iff]
      exact ⟨r, inside, named⟩

theorem values_gather (rows : List R) :
    (values (gather label add rows)).Perm
      ((keysOf label rows).filterMap (gathered label add rows)) := by
  have looked : ∀ m : Map K S, values m = m.keys.filterMap m.lookup := by
    intro m
    rw [values, AList.keys, List.keys, List.filterMap_map, ← List.filterMap_eq_map]
    refine List.filterMap_congr fun entry inside => ?_
    exact (AList.mem_lookup_iff.mpr inside).symm
  rw [looked]
  have each : (gather label add rows).lookup = gathered label add rows :=
    funext fun k => lookup_gather rows k
  rw [each]
  exact (keys_gather rows).filterMap _

end Gather

section Groups

variable {label : R → Option (K × S)} {add : S → R → S}

/-- The rows of each key. -/
def groups (label : R → Option (K × S)) (rows : List R) : List (List R) :=
  (keysOf label rows).map (under label rows)

theorem flatMap_under {ks : List K} (distinct : ks.Nodup) (rows : List R) :
    (ks.flatMap (under label rows)).Perm
      (rows.filter fun r => decide (∃ k ∈ ks, (label r).map (·.1) = some k)) := by
  induction ks with
  | nil => simp
  | cons k ks ih =>
      obtain ⟨fresh, distinct⟩ := List.nodup_cons.mp distinct
      rw [List.flatMap_cons]
      refine ((ih distinct).append_left _).trans ?_
      have split := List.filter_append_perm (fun r => decide ((label r).map (·.1) = some k))
        (rows.filter fun r => decide (∃ k' ∈ k :: ks, (label r).map (·.1) = some k'))
      rw [List.filter_filter, List.filter_filter] at split
      refine List.Perm.trans (List.Perm.of_eq ?_) split
      rw [under]
      congr 1
      · refine List.filter_congr fun r _ => ?_
        rw [← Bool.decide_and, decide_eq_decide]
        constructor
        · intro here
          exact ⟨here, k, List.mem_cons_self, here⟩
        · exact And.left
      · refine List.filter_congr fun r _ => ?_
        rw [← decide_not, ← Bool.decide_and, decide_eq_decide]
        constructor
        · rintro ⟨k', inside, there⟩
          refine ⟨fun here => ?_, k', List.mem_cons_of_mem k inside, there⟩
          obtain rfl := Option.some.inj (here.symm.trans there)
          exact fresh inside
        · rintro ⟨other, k', inside, there⟩
          rcases List.mem_cons.mp inside with rfl | inside
          · exact absurd there other
          · exact ⟨k', inside, there⟩

/-- Every row with a key is in one group. -/
theorem flatten_groups {rows : List R} (all : ∀ r ∈ rows, (label r).isSome = true) :
    (groups label rows).flatten.Perm rows := by
  rw [groups, ← List.flatMap_def]
  refine (flatMap_under (List.nodup_dedup _) rows).trans (List.Perm.of_eq ?_)
  refine List.filter_eq_self.mpr fun r member => decide_eq_true ?_
  obtain ⟨start, is⟩ := Option.isSome_iff_exists.mp (all r member)
  have named : (label r).map (·.1) = some start.1 := by
    rw [is, Option.map_some]
  exact ⟨start.1, mem_keysOf.mpr ⟨r, member, named⟩, named⟩

/-- What a loop over the rows of one key makes, it makes for every key. -/
theorem forall₂_groups {P : S → List R → Prop} {rows : List R}
    (each : ∀ k r rest fresh, under label rows k = r :: rest → label r = some (k, fresh) →
      P ((r :: rest).foldl add fresh) (r :: rest)) :
    List.Forall₂ P ((keysOf label rows).filterMap (gathered label add rows))
      (groups label rows) := by
  have listed : ∀ k ∈ keysOf label rows, ∃ s, gathered label add rows k = some s ∧
      P s (under label rows k) := by
    intro k member
    cases those : under label rows k with
    | nil =>
        obtain ⟨r, inside, named⟩ := mem_keysOf.mp member
        exact absurd named (under_nil_iff.mp those r inside)
    | cons r rest =>
        have first : r ∈ under label rows k := by
          rw [those]
          exact List.mem_cons_self
        obtain ⟨⟨k', fresh⟩, is, named⟩ := Option.map_eq_some_iff.mp (mem_under.mp first).2
        obtain rfl : k' = k := named
        refine ⟨(r :: rest).foldl add fresh, ?_, each k' r rest fresh those is⟩
        simp only [gathered, those, is, Option.map_some]
  rw [groups]
  generalize keysOf label rows = ks at listed
  induction ks with
  | nil => exact .nil
  | cons k ks ih =>
      obtain ⟨s, made, holds⟩ := listed k List.mem_cons_self
      rw [List.filterMap_cons_some made, List.map_cons]
      exact .cons holds (ih fun k' inside => listed k' (List.mem_cons_of_mem k inside))

theorem card_keys {rows : List R} (all : ∀ r ∈ rows, (label r).isSome = true) :
    (rows.map fun r => (label r).map (·.1)).toFinset.card = (keysOf label rows).length := by
  have mapped : (rows.map fun r => (label r).map (·.1)) =
      (rows.filterMap fun r => (label r).map (·.1)).map some := by
    induction rows with
    | nil => rfl
    | cons r rows ih =>
        obtain ⟨start, is⟩ := Option.isSome_iff_exists.mp (all r List.mem_cons_self)
        have named : (label r).map (·.1) = some start.1 := by
          rw [is, Option.map_some]
        have rest := ih fun r' inside => all r' (List.mem_cons_of_mem r inside)
        simp only [List.map_cons, List.filterMap_cons, named, rest]
  rw [mapped, List.card_toFinset, List.dedup_map_of_injective (Option.some_injective K),
    List.length_map, keysOf]

end Groups

section Kinds

variable {I : Type*} [DecidableEq I]

/-- Parts of one kind each are at least as many as there are kinds. -/
theorem kinds_le {kind : R → I} {parts : List (List R)}
    (alike : ∀ part ∈ parts, ∀ r ∈ part, ∀ r' ∈ part, kind r = kind r') :
    (parts.flatten.map kind).toFinset.card ≤ parts.length := by
  induction parts with
  | nil => simp
  | cons part parts ih =>
      rw [List.flatten_cons, List.map_append, List.toFinset_append, List.length_cons]
      have one : (part.map kind).toFinset.card ≤ 1 := by
        refine Finset.card_le_one.mpr fun i member i' member' => ?_
        obtain ⟨r, inside, rfl⟩ := List.mem_map.mp (List.mem_toFinset.mp member)
        obtain ⟨r', inside', rfl⟩ := List.mem_map.mp (List.mem_toFinset.mp member')
        exact alike part List.mem_cons_self r inside r' inside'
      have others := ih fun p inside => alike p (List.mem_cons_of_mem part inside)
      have both := Finset.card_union_le (part.map kind).toFinset (parts.flatten.map kind).toFinset
      omega

/-- Kinds with a key each that are no more than the keys have keys of their own. -/
theorem apart_of_card_le {kind : R → I} {key : I → K} {rows : List R}
    (few : (rows.map kind).toFinset.card ≤ (rows.map fun r => key (kind r)).toFinset.card)
    {r r' : R} (member : r ∈ rows) (member' : r' ∈ rows) (same : key (kind r) = key (kind r')) :
    kind r = kind r' := by
  have image : (rows.map fun r => key (kind r)).toFinset =
      (rows.map kind).toFinset.image key := by
    ext k
    simp
  rw [image] at few
  have apart := Finset.card_image_iff.mp (le_antisymm Finset.card_image_le few)
  apply apart _ _ same
  · exact List.mem_toFinset.mpr (List.mem_map_of_mem member)
  · exact List.mem_toFinset.mpr (List.mem_map_of_mem member')

end Kinds

/-- Pairs are distinct iff within each first component the second ones are. -/
theorem nodup_pair_iff {A : Type*} {B : Type*} [DecidableEq A] {f : R → A} {g : R → B}
    {rows : List R} :
    (rows.map fun r => (f r, g r)).Nodup ↔
      ∀ a, ((rows.filter fun r => f r = a).map g).Nodup := by
  rw [List.Nodup, List.pairwise_map]
  have each : ∀ a, ((rows.filter fun r => f r = a).map g).Nodup ↔
      rows.Pairwise fun r r' => f r = a → f r' = a → g r ≠ g r' := by
    intro a
    rw [List.Nodup, List.pairwise_map, List.pairwise_filter]
    simp only [decide_eq_true_iff]
  constructor
  · intro distinct a
    refine (each a).mpr (distinct.imp fun {r r'} apart here there same => ?_)
    exact apart (Prod.ext (here.trans there.symm) same)
  · intro within
    have all : rows.Pairwise fun r r' => ∀ a, f r = a → f r' = a → g r ≠ g r' := by
      rw [List.pairwise_iff_getElem]
      intro i j hi hj lt a
      exact List.pairwise_iff_getElem.mp ((each a).mp (within a)) i j hi hj lt
    refine all.imp fun {r r'} apart same => ?_
    obtain ⟨first, second⟩ := Prod.ext_iff.mp same
    exact apart (f r) rfl first.symm second

end FiniteMap
