import Mathlib.Data.List.Sort

/-!
# A sort that need not be stable

A sorted list has no element before one that is less than it. How elements stand of which
neither is less than the other is left to the sort, and may depend on the whole list. So a
program that sorts the lists of several runs is sure to get the same list only if nothing is
left open, or if there is only one list to sort.
-/

namespace Sorting

universe u v

variable {A : Type u} {less : A → A → Prop}

/-- What a sort asks of `less`. -/
structure WeakOrder (less : A → A → Prop) : Prop where
  asymm : ∀ {a b}, less a b → ¬less b a
  trans : ∀ {a b c}, ¬less b a → ¬less c b → ¬less c a

theorem WeakOrder.total (weak : WeakOrder less) (a b : A) : ¬less b a ∨ ¬less a b := by
  by_cases before : less b a
  · exact .inr (weak.asymm before)
  · exact .inl before

structure Sorter (less : A → A → Prop) where
  arrange : List A → List A
  perm : ∀ l, (arrange l).Perm l
  sorted : ∀ l, (arrange l).Pairwise fun a b => ¬less b a

def Tied (less : A → A → Prop) (a b : A) : Prop := ¬less a b ∧ ¬less b a

/-- Lists of the same elements are sorted alike if no two of them are tied. -/
theorem Sorter.arrange_eq (s : Sorter less) {l l' : List A} (perm : l.Perm l')
    (ties : ∀ a ∈ l, ∀ b ∈ l, Tied less a b → a = b) : s.arrange l = s.arrange l' := by
  apply List.Perm.eq_of_pairwise _ (s.sorted l) (s.sorted l')
  · exact (s.perm l).trans (perm.trans (s.perm l').symm)
  · intro a b inside inside' before after
    exact ties a ((s.perm l).mem_iff.mp inside) b
      (perm.mem_iff.mpr ((s.perm l').mem_iff.mp inside')) ⟨after, before⟩

/-- The sort, but with an answer of its own for the other orders of a list. -/
def Sorter.except [DecidableEq A] (s : Sorter less) {l m : List A} (perm : m.Perm l)
    (sorted : m.Pairwise fun a b => ¬less b a) : Sorter less where
  arrange x := if x.Perm l ∧ x ≠ l then m else s.arrange x
  perm x := by
    split_ifs with aside
    · exact perm.trans aside.1.symm
    · exact s.perm x
  sorted x := by
    split_ifs
    · exact sorted
    · exact s.sorted x

section Stable

variable [DecidableRel less] (weak : WeakOrder less)

/-- The sort that leaves elements in place of which neither is less. -/
def stable : Sorter less where
  arrange l := l.mergeSort fun a b => !decide (less b a)
  perm l := List.mergeSort_perm l _
  sorted l := by
    have sorted := @List.pairwise_mergeSort A (fun a b => !decide (less b a))
      (by simpa using fun a b c => weak.trans) (by simpa using weak.total) l
    exact sorted.imp fun {a b} before => by simpa using before

variable {weak}

/-- What is tied with an element stays in its order. -/
theorem filter_stable (l : List A) (a : A) [DecidablePred (Tied less a)] :
    ((stable weak).arrange l).filter (Tied less a ·) = l.filter (Tied less a ·) := by
  have tied : (l.filter (Tied less a ·)).Pairwise fun b c => !decide (less c b) := by
    refine List.pairwise_of_forall_mem_list fun b inside c inside' => ?_
    have before := (of_decide_eq_true (List.mem_filter.mp inside).2).1
    have after := (of_decide_eq_true (List.mem_filter.mp inside').2).2
    simpa using weak.trans before after
  have kept := @List.sublist_mergeSort A (fun b c => !decide (less c b)) l
    (by simpa using fun a b c => weak.trans) (by simpa using weak.total) _ tied
    List.filter_sublist
  have within := kept.filter (Tied less a ·)
  rw [List.filter_filter] at within
  have again : (l.filter fun b => decide (Tied less a b) && decide (Tied less a b)) =
      l.filter (Tied less a ·) := by
    simp
  rw [again] at within
  exact (within.eq_of_length ((((stable weak).perm l).filter _).length_eq.symm)).symm

end Stable

/-- A list in which two different elements are tied can be sorted in two ways. -/
theorem exists_sorted_ne (weak : WeakOrder less) {l : List A} {a b : A} (inside : a ∈ l)
    (inside' : b ∈ l) (tied : Tied less a b) (different : a ≠ b) (other : List A) :
    ∃ m : List A, m.Perm l ∧ (m.Pairwise fun a b => ¬less b a) ∧ m ≠ other := by
  classical
  have second : b ∈ l.erase a := (List.mem_erase_of_ne different.symm).mpr inside'
  have front : l.Perm (a :: b :: (l.erase a).erase b) :=
    (List.perm_cons_erase inside).trans ((List.perm_cons_erase second).cons a)
  have swapped : l.Perm (b :: a :: (l.erase a).erase b) := front.trans (.swap b a _)
  have self : Tied less a a := ⟨fun before => weak.asymm before before,
    fun before => weak.asymm before before⟩
  have unlike : (stable weak).arrange (a :: b :: (l.erase a).erase b) ≠
      (stable weak).arrange (b :: a :: (l.erase a).erase b) := by
    intro same
    have filtered := congrArg (List.filter (Tied less a ·)) same
    simp only [filter_stable, List.filter_cons, self, tied, decide_true, if_true,
      List.cons.injEq] at filtered
    exact different filtered.1
  by_cases taken : (stable weak).arrange (a :: b :: (l.erase a).erase b) = other
  · exact ⟨_, ((stable weak).perm _).trans swapped.symm, (stable weak).sorted _,
      fun same => unlike (taken.trans same.symm)⟩
  · exact ⟨_, ((stable weak).perm _).trans front.symm, (stable weak).sorted _, taken⟩

/-- A family of lists is always sorted to one list exactly if its members have the same elements
and no ties are left open, or they are one list to begin with. -/
theorem arrange_same_iff (weak : WeakOrder less) {O : Type v} {f : O → List A} :
    (∀ (s : Sorter less) (o o' : O), s.arrange (f o) = s.arrange (f o')) ↔
      (∀ o o', (f o).Perm (f o')) ∧
        ((∀ o, ∀ a ∈ f o, ∀ b ∈ f o, Tied less a b → a = b) ∨ ∀ o o', f o = f o') := by
  classical
  constructor
  · intro same
    have perms (o o' : O) : (f o).Perm (f o') := by
      have equal := same (stable weak) o o'
      exact (((stable weak).perm _).symm.trans (equal ▸ .refl _)).trans ((stable weak).perm _)
    refine ⟨perms, ?_⟩
    by_contra neither
    simp only [not_or, not_forall] at neither
    obtain ⟨⟨o, a, inside, b, inside', tied, different⟩, o₁, o₂, unlike⟩ := neither
    obtain ⟨m, perm, sorted, other⟩ := exists_sorted_ne weak ((perms o o₁).mem_iff.mp inside)
      ((perms o o₁).mem_iff.mp inside') tied different ((stable weak).arrange (f o₁))
    have left : ((stable weak).except perm sorted).arrange (f o₁) = (stable weak).arrange (f o₁) :=
      if_neg fun aside => aside.2 rfl
    have right : ((stable weak).except perm sorted).arrange (f o₂) = m :=
      if_pos ⟨perms o₂ o₁, fun equal => unlike equal.symm⟩
    exact other (right.symm.trans ((same _ o₂ o₁).trans left))
  · rintro ⟨perms, untied | equal⟩ s o o'
    · exact s.arrange_eq (perms o o') (untied o)
    · rw [equal o o']

end Sorting
