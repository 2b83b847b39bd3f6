import PCenter.Lib.MapOrder
import Mathlib.Data.List.Perm.Basic

/-!
# Loops over the maps of a map

A loop over a map whose entries hold maps themselves, with a loop over each of them inside. All
of the loops go in orders of their own. What such a loop appends to one list is the same in all
orders only if what is appended first can as well be appended second.
-/

namespace FiniteMap

universe u v

/-- Every order of a list is one in which a loop may go. -/
theorem Order.exists_arrange {A : Type u} {l l' : List A} (perm : l'.Perm l) :
    ∃ o : Order A, o.arrange l = l' := by
  classical
  refine ⟨⟨fun x => if x = l then l' else x, fun x => ?_⟩, if_pos rfl⟩
  split_ifs with same
  · rw [same]
    exact perm
  · exact .refl x

section Blocks

variable {A : Type u} {B : Type v}

/-- The order of a loop shows in what it appends unless all pieces commute. -/
theorem flatMap_arrange_iff {l : List A} {piece : A → List B} :
    (∀ o o' : Order A, (o.arrange l).flatMap piece = (o'.arrange l).flatMap piece) ↔
      ∀ a ∈ l, ∀ b ∈ l, piece a ++ piece b = piece b ++ piece a := by
  classical
  constructor
  · intro same a inside b inside'
    by_cases equal : a = b
    · rw [equal]
    · have second : b ∈ l.erase a := (List.mem_erase_of_ne (Ne.symm equal)).mpr inside'
      have front : (a :: b :: (l.erase a).erase b).Perm l :=
        ((List.perm_cons_erase inside).trans ((List.perm_cons_erase second).cons a)).symm
      obtain ⟨o, arranged⟩ := Order.exists_arrange front
      obtain ⟨o', arranged'⟩ := Order.exists_arrange ((List.Perm.swap a b _).trans front)
      have flat := same o o'
      rw [arranged, arranged', List.flatMap_cons, List.flatMap_cons, List.flatMap_cons,
        List.flatMap_cons, ← List.append_assoc, ← List.append_assoc] at flat
      exact List.append_cancel_right flat
  · intro commute o o'
    have all {k k' : List A} (perm : k.Perm k') (within : ∀ a ∈ k, a ∈ l) :
        k.flatMap piece = k'.flatMap piece := by
      induction perm with
      | nil => rfl
      | cons a _ ih =>
          rw [List.flatMap_cons, List.flatMap_cons,
            ih fun b inside => within b (List.mem_cons_of_mem _ inside)]
      | swap a b rest =>
          have swapped := commute b (within b List.mem_cons_self) a
            (within a (List.mem_cons_of_mem _ List.mem_cons_self))
          rw [List.flatMap_cons, List.flatMap_cons, List.flatMap_cons, List.flatMap_cons,
            ← List.append_assoc, ← List.append_assoc, swapped]
      | trans before _ ih ih' =>
          exact (ih within).trans (ih' fun a inside => within a (before.mem_iff.mpr inside))
    exact all ((o.perm l).trans (o'.perm l).symm) fun a inside => Order.mem_arrange.mp inside

end Blocks

/-- The order of a loop over a map, and of the loops over the maps of its entries. -/
structure Loop (K : Type u) (C : Type u) (L : Type u) (V : Type u) where
  outer : Order (Sigma fun _ : K => C)
  inner : K → Order (Sigma fun _ : L => V)

namespace Loop

variable {K C L V : Type u} {m : Map K C} {part : C → Map L V}

def asGiven : Loop K C L V := ⟨.asGiven, fun _ => .asGiven⟩

/-- The entry of the map and that of its own map, as the loop meets them. -/
def visit (loop : Loop K C L V) (m : Map K C) (part : C → Map L V) :
    List ((Sigma fun _ : K => C) × (Sigma fun _ : L => V)) :=
  (loop.outer.arrange m.entries).flatMap fun c =>
    ((loop.inner c.1).arrange (part c.2).entries).map fun e => (c, e)

theorem mem_visit {loop : Loop K C L V}
    {p : (Sigma fun _ : K => C) × (Sigma fun _ : L => V)} :
    p ∈ loop.visit m part ↔ p.1 ∈ m.entries ∧ p.2 ∈ (part p.1.2).entries := by
  simp only [visit, List.mem_flatMap, List.mem_map, Order.mem_arrange]
  constructor
  · rintro ⟨c, inside, e, inside', rfl⟩
    exact ⟨inside, inside'⟩
  · rintro ⟨inside, inside'⟩
    exact ⟨p.1, inside, p.2, inside', rfl⟩

theorem visit_perm (loop loop' : Loop K C L V) :
    (loop.visit m part).Perm (loop'.visit m part) := by
  have inner (c : Sigma fun _ : K => C) :
      (((loop.inner c.1).arrange (part c.2).entries).map fun e => (c, e)).Perm
        (((loop'.inner c.1).arrange (part c.2).entries).map fun e => (c, e)) :=
    (((loop.inner c.1).perm _).trans ((loop'.inner c.1).perm _).symm).map _
  exact (((loop.outer.perm _).trans (loop'.outer.perm _).symm).flatMap_right _).trans
    (List.Perm.flatMap_left _ fun c _ => inner c)

/-- The loop can be made to meet any entry first. -/
theorem exists_visit_cons {p : (Sigma fun _ : K => C) × (Sigma fun _ : L => V)}
    (inside : p ∈ asGiven.visit m part) :
    ∃ (loop : Loop K C L V) (rest : List _), loop.visit m part = p :: rest := by
  classical
  obtain ⟨outside, within⟩ := mem_visit.mp inside
  obtain ⟨outer, first⟩ := Order.exists_arrange (List.perm_cons_erase outside).symm
  obtain ⟨inner, first'⟩ := Order.exists_arrange (List.perm_cons_erase within).symm
  refine ⟨⟨outer, fun _ => inner⟩, ?_⟩
  rw [visit, first, List.flatMap_cons, first', List.map_cons]
  exact ⟨_, rfl⟩

/-- The loop can be made to meet any entry last. -/
theorem exists_visit_concat {p : (Sigma fun _ : K => C) × (Sigma fun _ : L => V)}
    (inside : p ∈ asGiven.visit m part) :
    ∃ (loop : Loop K C L V) (rest : List _), loop.visit m part = rest ++ [p] := by
  classical
  obtain ⟨outside, within⟩ := mem_visit.mp inside
  have last {A : Type u} {l : List A} {a : A} (mem : a ∈ l) : (l.erase a ++ [a]).Perm l :=
    (List.perm_append_comm).trans (List.perm_cons_erase mem).symm
  obtain ⟨outer, last'⟩ := Order.exists_arrange (last outside)
  obtain ⟨inner, last''⟩ := Order.exists_arrange (last within)
  refine ⟨⟨outer, fun _ => inner⟩, ?_⟩
  rw [visit, last', List.flatMap_append, List.flatMap_singleton, last'', List.map_append,
    ← List.append_assoc]
  exact ⟨_, rfl⟩

/-- What the loop reads of the entries does not show the order exactly if it reads one thing. -/
theorem map_visit_iff {B : Type v} {read : V → B} :
    (∀ loop loop' : Loop K C L V, ((loop.visit m part).map fun p => read p.2.2) =
        (loop'.visit m part).map fun p => read p.2.2) ↔
      ∀ p ∈ asGiven.visit m part, ∀ q ∈ asGiven.visit m part, read p.2.2 = read q.2.2 := by
  constructor
  · intro same p inside q inside'
    obtain ⟨loop, rest, first⟩ := exists_visit_cons inside
    obtain ⟨loop', rest', first'⟩ := exists_visit_cons inside'
    have lists := same loop loop'
    rw [first, first', List.map_cons, List.map_cons] at lists
    exact (List.cons.inj lists).1
  · intro equal loop loop'
    have perm := (@visit_perm _ _ _ _ m part loop loop').map fun p => read p.2.2
    apply perm.eq_of_pairwise _ (List.pairwise_of_forall fun _ _ => trivial)
      (List.pairwise_of_forall fun _ _ => trivial)
    intro a b inside inside' _ _
    obtain ⟨p, met, rfl⟩ := List.mem_map.mp inside
    obtain ⟨q, met', rfl⟩ := List.mem_map.mp inside'
    exact equal p (mem_visit.mpr (mem_visit.mp met)) q (mem_visit.mpr (mem_visit.mp met'))

section Blocks

variable {B : Type v} {piece : (Sigma fun _ : L => V) → List B}

theorem visit_flatMap (loop : Loop K C L V) :
    ((loop.visit m part).flatMap fun p => piece p.2) =
      (loop.outer.arrange m.entries).flatMap fun c =>
        ((loop.inner c.1).arrange (part c.2).entries).flatMap piece := by
  rw [visit, List.flatMap_assoc]
  exact List.flatMap_congr fun c _ => List.flatMap_map _ _ _

/-- What is appended does not show the order exactly if the pieces of each inner map commute, and
so do the inner maps as a whole. -/
theorem visit_flatMap_iff :
    (∀ loop loop' : Loop K C L V, ((loop.visit m part).flatMap fun p => piece p.2) =
        (loop'.visit m part).flatMap fun p => piece p.2) ↔
      (∀ c ∈ m.entries, ∀ e ∈ (part c.2).entries, ∀ e' ∈ (part c.2).entries,
        piece e ++ piece e' = piece e' ++ piece e) ∧
      ∀ c ∈ m.entries, ∀ c' ∈ m.entries,
        (part c.2).entries.flatMap piece ++ (part c'.2).entries.flatMap piece =
          (part c'.2).entries.flatMap piece ++ (part c.2).entries.flatMap piece := by
  classical
  simp only [visit_flatMap]
  constructor
  · intro same
    refine ⟨fun c inside => flatMap_arrange_iff.mp fun o o' => ?_,
      flatMap_arrange_iff.mp fun o o' => same ⟨o, fun _ => .asGiven⟩ ⟨o', fun _ => .asGiven⟩⟩
    obtain ⟨outer, first⟩ := Order.exists_arrange (List.perm_cons_erase inside).symm
    have flat := same ⟨outer, fun _ => o⟩ ⟨outer, fun _ => o'⟩
    simp only [first, List.flatMap_cons] at flat
    refine (List.append_inj flat ?_).1
    exact ((((o.perm _).trans (o'.perm _).symm).flatMap_right piece).length_eq)
  · rintro ⟨within, between⟩ loop loop'
    have whole (loop : Loop K C L V) (c : Sigma fun _ : K => C) (inside : c ∈ m.entries) :
        ((loop.inner c.1).arrange (part c.2).entries).flatMap piece =
          (part c.2).entries.flatMap piece :=
      flatMap_arrange_iff.mpr (within c inside) _ .asGiven
    rw [List.flatMap_congr fun c inside => whole loop c (Order.mem_arrange.mp inside),
      List.flatMap_congr fun c inside => whole loop' c (Order.mem_arrange.mp inside)]
    exact flatMap_arrange_iff.mpr between _ _

end Blocks

end Loop

section Written

variable {K : Type u} {V : Type v} [DecidableEq K]

/-- What is written under the keys one after the other. -/
def written (l : List (K × V)) : Map K V := l.foldl (fun m p => m.insert p.1 p.2) ∅

theorem lookup_written_concat (l : List (K × V)) (p : K × V) (k : K) :
    (written (l ++ [p])).lookup k = if k = p.1 then some p.2 else (written l).lookup k := by
  rw [written, List.foldl_append, List.foldl_cons, List.foldl_nil, lookup_insert_eq]
  rfl

theorem mem_of_lookup_written {l : List (K × V)} {k : K} {v : V}
    (found : (written l).lookup k = some v) : (k, v) ∈ l := by
  induction l using List.reverseRecOn with
  | nil => cases found
  | append_singleton l p ih =>
      rw [lookup_written_concat] at found
      split_ifs at found with same
      · obtain rfl := Option.some.inj found
        rw [same]
        exact List.mem_append_right _ List.mem_cons_self
      · exact List.mem_append_left _ (ih found)

theorem lookup_written_eq_none {l : List (K × V)} {k : K} :
    (written l).lookup k = none ↔ ∀ p ∈ l, p.1 ≠ k := by
  induction l using List.reverseRecOn with
  | nil => simp [written]
  | append_singleton l p ih =>
      rw [lookup_written_concat]
      split_ifs with same
      · simp only [false_iff, not_forall]
        exact ⟨p, List.mem_append_right _ List.mem_cons_self, fun other => other same.symm⟩
      · rw [ih, List.forall_mem_append, List.forall_mem_singleton]
        exact (and_iff_left fun equal => same equal.symm).symm

/-- A map copied entry by entry, whatever the order. -/
theorem lookup_copy {W : Type v} (o : Order (Sigma fun _ : K => V)) (m : Map K V) (base : Map K W)
    (f : V → W) (k : K) :
    ((o.arrange m.entries).foldl (fun d e => d.insert e.1 (f e.2)) base).lookup k =
      ((m.lookup k).map f).or (base.lookup k) := by
  have copied (l : List (Sigma fun _ : K => V)) (distinct : l.NodupKeys) (base : Map K W) :
      (l.foldl (fun d e => d.insert e.1 (f e.2)) base).lookup k =
        ((l.dlookup k).map f).or (base.lookup k) := by
    induction l generalizing base with
    | nil => rfl
    | cons e l ih =>
        obtain ⟨fresh, later⟩ := List.nodupKeys_cons.mp distinct
        rw [List.foldl_cons, ih later, lookup_insert_eq]
        by_cases here : k = e.1
        · subst here
          rw [if_pos rfl, List.dlookup_eq_none.mpr fresh, List.dlookup_cons_eq]
          rfl
        · rw [if_neg here, List.dlookup_cons_ne _ _ here]
  have distinct := (List.perm_nodupKeys (o.perm m.entries)).mpr m.nodupKeys
  rw [copied _ distinct, List.perm_dlookup k distinct (o.perm m.entries)]
  rfl

end Written

end FiniteMap
