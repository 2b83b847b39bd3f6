import Mathlib.Algebra.BigOperators.Group.List.Basic
import Mathlib.Algebra.Order.Field.Basic
import Mathlib.Data.List.Perm.Basic
import Mathlib.Data.Nat.Cast.Basic
import Mathlib.Tactic.Ring

/-!
# Summaries of values, and summaries of summaries

A summary holds the least value, the greatest, the mean and the number. When values are divided
into parts, the summary of the whole follows from those of the parts that are not empty: the
means are weighted with the numbers.
-/

namespace Aggregate

section Selections

variable {V : Type*}

/-- The choice of the value that is related to all. -/
structure Selects (pick : List V → Option V) (R : V → V → Prop) : Prop where
  some_iff : ∀ l a, pick l = some a ↔ a ∈ l ∧ ∀ b ∈ l, R a b
  total : ∀ l, l ≠ [] → (pick l).isSome
  trans : ∀ a b c, R a b → R b c → R a c
  antisymm : ∀ a b, R a b → R b a → a = b

theorem selects_min [LinearOrder V] : Selects (V := V) List.min? (· ≤ ·) where
  some_iff := fun _ _ => List.min?_eq_some_iff
  total := fun _ some_ => List.isSome_min?_of_ne_nil some_
  trans := fun _ _ _ => le_trans
  antisymm := fun _ _ => le_antisymm

theorem selects_max [LinearOrder V] : Selects (V := V) List.max? (fun a b => b ≤ a) where
  some_iff := fun _ _ => List.max?_eq_some_iff
  total := fun _ some_ => List.isSome_max?_of_ne_nil some_
  trans := fun _ _ _ first second => le_trans second first
  antisymm := fun _ _ first second => le_antisymm second first

variable {pick : List V → Option V} {R : V → V → Prop}

theorem Selects.perm (selects : Selects pick R) {l l' : List V} (perm : l.Perm l') :
    pick l = pick l' := by
  apply Option.ext
  intro a
  rw [selects.some_iff, selects.some_iff, perm.mem_iff]
  apply and_congr_right
  intro _
  exact forall_congr' fun b => imp_congr_left perm.mem_iff

/-- The choice among the choices of the parts. -/
theorem Selects.parts (selects : Selects pick R) (parts : List (List V)) :
    pick (parts.filterMap pick) = pick parts.flatten := by
  have chosen : ∀ l ∈ parts, ∀ b ∈ l, ∃ c, pick l = some c ∧ c ∈ parts.filterMap pick ∧
      c ∈ parts.flatten ∧ R c b := by
    intro l part b inside
    obtain ⟨c, picked⟩ := Option.isSome_iff_exists.mp (selects.total l (List.ne_nil_of_mem inside))
    obtain ⟨member, related⟩ := (selects.some_iff l c).mp picked
    exact ⟨c, picked, List.mem_filterMap.mpr ⟨l, part, picked⟩,
      List.mem_flatten.mpr ⟨l, part, member⟩, related b inside⟩
  apply Option.ext
  intro a
  rw [selects.some_iff, selects.some_iff]
  constructor
  · rintro ⟨member, related⟩
    obtain ⟨l, part, picked⟩ := List.mem_filterMap.mp member
    refine ⟨List.mem_flatten.mpr ⟨l, part, ((selects.some_iff l a).mp picked).1⟩, ?_⟩
    intro b inside
    obtain ⟨l', part', here⟩ := List.mem_flatten.mp inside
    obtain ⟨c, -, among, -, below⟩ := chosen l' part' b here
    exact selects.trans a c b (related c among) below
  · rintro ⟨member, related⟩
    obtain ⟨l, part, here⟩ := List.mem_flatten.mp member
    obtain ⟨c, picked, among, flat, below⟩ := chosen l part a here
    have same : a = c := selects.antisymm a c (related c flat) below
    refine ⟨same ▸ among, ?_⟩
    intro b inside
    obtain ⟨l', part', picked'⟩ := List.mem_filterMap.mp inside
    exact related b (List.mem_flatten.mpr ⟨l', part', ((selects.some_iff l' b).mp picked').1⟩)

end Selections

variable {V : Type*}

structure Summary (V : Type*) where
  least : V
  greatest : V
  mean : V
  count : ℕ

variable [Field V] [LinearOrder V]

/-- The values have a summary unless there are none. -/
def summarize (vs : List V) : Option (Summary V) := do
  let least ← vs.min?
  let greatest ← vs.max?
  some ⟨least, greatest, vs.sum / vs.length, vs.length⟩

def combine (ss : List (Summary V)) : Option (Summary V) := do
  let least ← (ss.map Summary.least).min?
  let greatest ← (ss.map Summary.greatest).max?
  some ⟨least, greatest,
    (ss.map fun s => s.mean * (s.count : V)).sum / ((ss.map Summary.count).sum : ℕ),
    (ss.map Summary.count).sum⟩

theorem summarize_nil : summarize ([] : List V) = none := rfl

theorem summarize_perm {vs ws : List V} (perm : vs.Perm ws) : summarize vs = summarize ws := by
  rw [summarize, summarize, selects_min.perm perm, selects_max.perm perm, perm.sum_eq,
    perm.length_eq]

theorem combine_perm {ss ts : List (Summary V)} (perm : ss.Perm ts) : combine ss = combine ts := by
  rw [combine, combine, selects_min.perm (perm.map _), selects_max.perm (perm.map _),
    (perm.map _).sum_eq, (perm.map Summary.count).sum_eq]

theorem summarize_of_ne_nil {vs : List V} (some_ : vs ≠ []) :
    ∃ least greatest, vs.min? = some least ∧ vs.max? = some greatest ∧
      summarize vs = some ⟨least, greatest, vs.sum / vs.length, vs.length⟩ := by
  obtain ⟨least, low⟩ := Option.isSome_iff_exists.mp (List.isSome_min?_of_ne_nil some_)
  obtain ⟨greatest, high⟩ := Option.isSome_iff_exists.mp (List.isSome_max?_of_ne_nil some_)
  exact ⟨least, greatest, low, high, by simp [summarize, low, high]⟩

theorem summarize_eq_none_iff {vs : List V} : summarize vs = none ↔ vs = [] := by
  constructor
  · intro none_
    by_contra some_
    obtain ⟨least, greatest, -, -, made⟩ := summarize_of_ne_nil some_
    rw [made] at none_
    cases none_
  · rintro rfl
    rfl

section Parts

theorem least_summarize (vs : List V) : (summarize vs).map Summary.least = vs.min? := by
  by_cases none_ : vs = []
  · subst none_
    rfl
  · obtain ⟨least, greatest, low, -, made⟩ := summarize_of_ne_nil none_
    rw [made, low, Option.map_some]

theorem greatest_summarize (vs : List V) : (summarize vs).map Summary.greatest = vs.max? := by
  by_cases none_ : vs = []
  · subst none_
    rfl
  · obtain ⟨least, greatest, -, high, made⟩ := summarize_of_ne_nil none_
    rw [made, high, Option.map_some]

variable (parts : List (List V))

theorem sum_count_summarize :
    ((parts.filterMap summarize).map Summary.count).sum = parts.flatten.length := by
  induction parts with
  | nil => rfl
  | cons vs rest ih =>
      rw [List.flatten_cons, List.length_append, ← ih]
      by_cases none_ : vs = []
      · subst none_
        rw [List.filterMap_cons_none summarize_nil, List.length_nil, Nat.zero_add]
      · obtain ⟨least, greatest, -, -, made⟩ := summarize_of_ne_nil none_
        rw [List.filterMap_cons_some made, List.map_cons, List.sum_cons]

/-- A mean times its number is the sum. -/
theorem sum_mean_summarize [CharZero V] :
    ((parts.filterMap summarize).map fun s => s.mean * (s.count : V)).sum = parts.flatten.sum := by
  induction parts with
  | nil => rfl
  | cons vs rest ih =>
      rw [List.flatten_cons, List.sum_append, ← ih]
      by_cases none_ : vs = []
      · subst none_
        rw [List.filterMap_cons_none summarize_nil, List.sum_nil, zero_add]
      · obtain ⟨least, greatest, -, -, made⟩ := summarize_of_ne_nil none_
        have counted : (vs.length : V) ≠ 0 := by
          rw [Nat.cast_ne_zero]
          exact fun empty => none_ (List.length_eq_zero_iff.mp empty)
        rw [List.filterMap_cons_some made, List.map_cons, List.sum_cons, div_mul_cancel₀ _ counted]

/-- The summaries of the parts make up the summary of the whole. -/
theorem combine_summarize [CharZero V] :
    combine (parts.filterMap summarize) = summarize parts.flatten := by
  have least : (parts.filterMap summarize).map Summary.least = parts.filterMap List.min? := by
    rw [List.map_filterMap]
    exact List.filterMap_congr fun vs _ => least_summarize vs
  have greatest : (parts.filterMap summarize).map Summary.greatest = parts.filterMap List.max? := by
    rw [List.map_filterMap]
    exact List.filterMap_congr fun vs _ => greatest_summarize vs
  rw [combine, summarize, least, greatest, selects_min.parts, selects_max.parts,
    sum_count_summarize, sum_mean_summarize]

end Parts

section Windows

variable {A : Type*} (time : A → ℤ) (l : List A)

/-- What lies in a time, without its end. -/
def window (start stop : ℤ) : List A := l.filter fun a => start ≤ time a ∧ time a < stop

variable {time} {l}

theorem mem_window {start stop : ℤ} {a : A} :
    a ∈ window time l start stop ↔ a ∈ l ∧ start ≤ time a ∧ time a < stop := by
  simp [window]

theorem window_append_perm {start middle stop : ℤ} (first : start ≤ middle)
    (second : middle ≤ stop) :
    (window time l start stop).Perm (window time l start middle ++ window time l middle stop) := by
  have early : window time l start middle =
      (window time l start stop).filter fun a => time a < middle := by
    rw [window, window, List.filter_filter]
    apply List.filter_congr
    intro a _
    rw [← Bool.decide_and, decide_eq_decide]
    omega
  have late : window time l middle stop =
      (window time l start stop).filter fun a => !decide (time a < middle) := by
    rw [window, window, List.filter_filter]
    apply List.filter_congr
    intro a _
    rw [← decide_not, ← Bool.decide_and, decide_eq_decide]
    omega
  rw [early, late]
  exact (List.filter_append_perm _ _).symm

/-- A time divided into parts of one length. -/
theorem window_perm (start unit : ℤ) (forward : 0 ≤ unit) (n : ℕ) :
    (window time l start (start + n * unit)).Perm
      ((List.range n).flatMap fun i : ℕ =>
        window time l (start + i * unit) (start + i * unit + unit)) := by
  induction n with
  | zero =>
      have none_ : window time l start (start + (0 : ℕ) * unit) = [] := by
        apply List.filter_eq_nil_iff.mpr
        intro a _ inside
        have bounds := of_decide_eq_true inside
        simp only [Nat.cast_zero, zero_mul, add_zero] at bounds
        omega
      rw [none_]
      rfl
  | succ n ih =>
      have later : (0 : ℤ) ≤ n * unit := mul_nonneg (Int.natCast_nonneg n) forward
      have stop : start + ((n + 1 : ℕ) : ℤ) * unit = start + n * unit + unit := by
        push_cast
        ring
      rw [List.range_succ, List.flatMap_append, List.flatMap_singleton, stop]
      have split := @window_append_perm A time l start (start + n * unit) (start + n * unit + unit)
        (by omega) (by omega)
      exact split.trans (ih.append_right _)

end Windows

end Aggregate
