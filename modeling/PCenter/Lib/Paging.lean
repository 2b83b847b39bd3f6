import Mathlib.Data.List.Infix
import Mathlib.Data.List.Sort

/-!
# Reading a list page by page

A reader asks for one page after the other of a list that changes in the meantime. What stays
in the list and is never moved forward is on one of the pages, if the last page is short. From
a list that only loses its end nothing is read twice.

The lists are sorted ones, so what happens to the elements is what happens to the list.
-/

namespace Paging

universe u

variable {A : Type u}

def page (limit k : Nat) (l : List A) : List A := (l.drop (k * limit)).take limit

/-- The pages, from the `k`-th, each of the list as it is when it is asked for. -/
def pages (limit : Nat) : Nat → List (List A) → List (List A)
  | _, [] => []
  | k, l :: rest => page limit k l :: pages limit (k + 1) rest

section Complete

variable [DecidableEq A] {a : A} {l l' : List A} {limit k : Nat}

theorem mem_page (inside : a ∈ l) (low : k * limit ≤ l.idxOf a)
    (high : l.idxOf a < (k + 1) * limit) : a ∈ page limit k l := by
  have bound : l.idxOf a < l.length := List.idxOf_lt_length_iff.mpr inside
  rw [Nat.add_mul, Nat.one_mul] at high
  refine List.mem_iff_getElem.mpr ⟨l.idxOf a - k * limit, ?_, ?_⟩
  · rw [page, List.length_take, List.length_drop]
    omega
  · simp only [page, List.getElem_take, List.getElem_drop]
    have place : k * limit + (l.idxOf a - k * limit) = l.idxOf a := by omega
    simp only [place]
    exact List.getElem_idxOf bound

theorem idxOf_lt_of_short (inside : a ∈ l) (short : (page limit k l).length < limit) :
    l.idxOf a < (k + 1) * limit := by
  have bound : l.idxOf a < l.length := List.idxOf_lt_length_iff.mpr inside
  rw [page, List.length_take, List.length_drop] at short
  rw [Nat.add_mul, Nat.one_mul]
  omega

theorem mem_pages {ls : List (List A)} (inside : ∀ l ∈ ls, a ∈ l)
    (later : ls.Pairwise fun l l' => l.idxOf a ≤ l'.idxOf a)
    (start : ∀ l ∈ ls.head?, k * limit ≤ l.idxOf a) (asked : ls ≠ [])
    (short : ∀ p ∈ (pages limit k ls).getLast?, p.length < limit) :
    ∃ p ∈ pages limit k ls, a ∈ p := by
  induction ls generalizing k with
  | nil => exact absurd rfl asked
  | cons l rest ih =>
      have here := inside l List.mem_cons_self
      by_cases high : l.idxOf a < (k + 1) * limit
      · exact ⟨_, List.mem_cons_self, mem_page here (start l rfl) high⟩
      · cases rest with
        | nil => exact absurd (idxOf_lt_of_short here (short _ rfl)) high
        | cons l' rest =>
            -- it has not been moved forward, so it is on no page that was read
            have next : (k + 1) * limit ≤ l'.idxOf a := by
              have moved := (List.pairwise_cons.mp later).1 l' List.mem_cons_self
              omega
            obtain ⟨p, among, found⟩ := ih
              (fun m member => inside m (List.mem_cons_of_mem _ member))
              (List.pairwise_cons.mp later).2 (by simpa using next) (List.cons_ne_nil _ _)
              (fun p last => short p (by simpa [pages] using last))
            exact ⟨p, List.mem_cons_of_mem _ among, found⟩

theorem idxOf_le_of_sublist (fewer : l.Sublist l') (once : l'.Nodup) (inside : a ∈ l) :
    l.idxOf a ≤ l'.idxOf a := by
  induction fewer with
  | slnil => exact Nat.le_refl _
  | cons x fewer ih =>
      have other : x ≠ a := by
        rintro rfl
        exact (List.nodup_cons.mp once).1 (fewer.subset inside)
      rw [List.idxOf_cons_ne _ other]
      have below := ih (List.nodup_cons.mp once).2 inside
      omega
  | cons_cons x fewer ih =>
      by_cases same : x = a
      · rw [same, List.idxOf_cons_self]
        exact Nat.zero_le _
      · rw [List.idxOf_cons_ne _ same, List.idxOf_cons_ne _ same]
        have below := ih (List.nodup_cons.mp once).2
          ((List.mem_cons.mp inside).resolve_left fun h => same h.symm)
        omega

theorem idxOf_prefix_eq (whole : l <+: l') (inside : a ∈ l) : l'.idxOf a = l.idxOf a := by
  obtain ⟨rest, rfl⟩ := whole
  exact List.idxOf_append_of_mem inside

end Complete

/-- What is read from a list that only loses its end. -/
theorem pages_sublist {limit k : Nat} {whole : List A} {ls : List (List A)}
    (parts : ∀ l ∈ ls, l <+: whole) :
    (pages limit k ls).flatten.Sublist (whole.drop (k * limit)) := by
  induction ls generalizing k with
  | nil => exact List.nil_sublist _
  | cons l rest ih =>
      have first : (page limit k l).Sublist ((whole.drop (k * limit)).take limit) :=
        (List.IsPrefix.take (List.IsPrefix.drop (parts l List.mem_cons_self) _) _).sublist
      have others := ih (k := k + 1) fun m member => parts m (List.mem_cons_of_mem _ member)
      have split : whole.drop (k * limit) =
          (whole.drop (k * limit)).take limit ++ whole.drop ((k + 1) * limit) := by
        rw [Nat.add_mul, Nat.one_mul, ← List.drop_drop, List.take_append_drop]
      rw [pages, List.flatten_cons, split]
      exact first.append others

section Sorted

variable {r : A → A → Prop}

/-- Sorting what is left of a list is leaving out of the sorted list. -/
theorem insertionSort_filter [DecidableRel r] [Std.Total r] [IsTrans A r] {l : List A}
    (test : A → Bool) (antisymm : ∀ a ∈ l, ∀ b ∈ l, r a b → r b a → a = b) :
    (l.filter test).insertionSort r = (l.insertionSort r).filter test := by
  apply List.Perm.eq_of_pairwise
  · intro a b inside inside' before later
    have left := (List.perm_insertionSort r _).mem_iff.mp inside
    have right := (List.perm_insertionSort r _).mem_iff.mp (List.mem_filter.mp inside').1
    exact antisymm a (List.mem_filter.mp left).1 b right before later
  · exact List.pairwise_insertionSort r _
  · exact (List.pairwise_insertionSort r l).filter test
  · exact (List.perm_insertionSort r _).trans ((List.perm_insertionSort r l).symm.filter test)

/-- A test that only elements of the end fail keeps the beginning of a sorted list. -/
theorem filter_prefix {l : List A} {test : A → Bool} (sorted : l.Pairwise r)
    (down : ∀ a b, r a b → test b = true → test a = true) : l.filter test <+: l := by
  induction l with
  | nil => exact List.prefix_refl _
  | cons a rest ih =>
      obtain ⟨first, others⟩ := List.pairwise_cons.mp sorted
      by_cases met : test a = true
      · rw [List.filter_cons_of_pos met]
        exact List.cons_prefix_cons.mpr ⟨rfl, ih others⟩
      · have empty : rest.filter test = [] := by
          apply List.filter_eq_nil_iff.mpr
          intro b member passed
          exact met (down a b (first b member) passed)
        rw [List.filter_cons_of_neg met, empty]
        exact List.nil_prefix

end Sorted

end Paging
