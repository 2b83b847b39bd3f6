import Mathlib.Data.List.Basic
import Mathlib.Logic.Function.Basic

/-!
# Slices that share their arrays

A slice names an array and how much of it is seen; a copy of the slice sees the same array. To
delete an element in place moves the elements behind it to the front in that array, so that older
slices, and pointers to a place of the array, see other elements than before.
-/

namespace Slices

variable {A : Type*}

/-- The arrays by their numbers. -/
abbrev Heap (A : Type*) := ℕ → List A

structure Slice where
  array : ℕ
  len : ℕ
  deriving DecidableEq, Repr

def Slice.view (h : Heap A) (s : Slice) : List A := (h s.array).take s.len

/-- The first `n` elements without the one at `i`, and behind them what was there. -/
def closeUp (l : List A) (n i : ℕ) : List A := l.take i ++ (l.take n).drop (i + 1) ++ l.drop (n - 1)

/-- The array after `append(s[:i], s[i+1:]...)`. -/
def deleteAt (h : Heap A) (s : Slice) (i : ℕ) : Heap A :=
  Function.update h s.array (closeUp (h s.array) s.len i)

/-- The slice that the deletion answers. -/
def Slice.shorter (s : Slice) : Slice := ⟨s.array, s.len - 1⟩

theorem length_closeUp {l : List A} {n i : ℕ} (inside : i < n) (fits : n ≤ l.length) :
    (closeUp l n i).length = l.length := by
  simp only [closeUp, List.length_append, List.length_take, List.length_drop]
  omega

theorem take_closeUp {l : List A} {n i : ℕ} (inside : i < n) (fits : n ≤ l.length) :
    (closeUp l n i).take (n - 1) = (l.take n).eraseIdx i := by
  have front : (l.take i ++ (l.take n).drop (i + 1)).length = n - 1 := by
    simp only [List.length_append, List.length_take, List.length_drop]
    omega
  rw [closeUp, List.take_append_of_le_length (Nat.le_of_eq front.symm), List.take_of_length_le (Nat.le_of_eq front),
    List.eraseIdx_eq_take_drop_succ, List.take_take, Nat.min_eq_left (Nat.le_of_lt inside)]

theorem getElem?_closeUp {l : List A} {n i j : ℕ} (before : j < i) (inside : i ≤ l.length) :
    (closeUp l n i)[j]? = l[j]? := by
  have early : j < (l.take i).length := by
    rw [List.length_take]
    omega
  rw [closeUp, List.append_assoc, List.getElem?_append_left early, List.getElem?_take_of_lt before]

/-- In the place of the deleted element stands the next one, if there is a next one. -/
theorem getElem?_closeUp_self {l : List A} {n i : ℕ} (inside : i < n) (fits : n ≤ l.length) :
    (closeUp l n i)[i]? = if i + 1 < n then l[i + 1]? else l[i]? := by
  have early : (l.take i).length = i := List.length_take_of_le (by omega)
  have middle : ((l.take n).drop (i + 1)).length = n - (i + 1) := by
    rw [List.length_drop, List.length_take]
    omega
  rw [closeUp, List.append_assoc, List.getElem?_append_right (Nat.le_of_eq early), early,
    Nat.sub_self]
  split_ifs with followed
  · rw [List.getElem?_append_left (by omega), List.getElem?_drop, Nat.add_zero,
      List.getElem?_take_of_lt followed]
  · have last : n - 1 = i := by omega
    rw [List.getElem?_append_right (by omega), middle, List.getElem?_drop, last]
    exact congrArg (l[·]?) (by omega)

theorem mem_of_mem_closeUp {l : List A} {n i : ℕ} {x : A} (member : x ∈ closeUp l n i) : x ∈ l := by
  rcases List.mem_append.mp member with front | rest
  · rcases List.mem_append.mp front with first | second
    · exact List.mem_of_mem_take first
    · exact List.mem_of_mem_take (List.mem_of_mem_drop second)
  · exact List.mem_of_mem_drop rest

variable {h : Heap A} {s t : Slice} {i : ℕ}

theorem view_deleteAt (inside : i < s.len) (fits : s.len ≤ (h s.array).length) :
    s.shorter.view (deleteAt h s i) = (s.view h).eraseIdx i := by
  have here : deleteAt h s i s.array = closeUp (h s.array) s.len i := Function.update_self ..
  rw [Slice.view, Slice.shorter, here, take_closeUp inside fits, Slice.view]

theorem deleteAt_of_ne {a : ℕ} (other : a ≠ s.array) : deleteAt h s i a = h a :=
  Function.update_of_ne other ..

theorem mem_of_mem_deleteAt {a : ℕ} {x : A} (member : x ∈ deleteAt h s i a) : x ∈ h a := by
  by_cases same : a = s.array
  · subst same
    rw [deleteAt, Function.update_self] at member
    exact mem_of_mem_closeUp member
  · rwa [deleteAt_of_ne same] at member

theorem length_deleteAt (inside : i < s.len) (fits : s.len ≤ (h s.array).length) (a : ℕ) :
    (deleteAt h s i a).length = (h a).length := by
  by_cases same : a = s.array
  · subst same
    rw [deleteAt, Function.update_self, length_closeUp inside fits]
  · rw [deleteAt_of_ne same]

end Slices
