import Mathlib.Algebra.Group.Nat.Defs
import Mathlib.Algebra.Order.Field.Power
import Mathlib.Data.Nat.Log
import Mathlib.Data.Rat.Floor
import Mathlib.Tactic.Linarith
import Mathlib.Tactic.Positivity

/-!
# The shortest text of a float

The decimal with the fewest digits that is read back as a 64-bit float, the nearest of them if
there are several, and the way it is written: with an exponent from 10^6 on and below 10^-4, and
as a plain decimal in between. Whole numbers below 10^6 are written as their digits, and from
there on never.
-/

namespace FloatText

section Digits

/-- The power of a base. -/
def power (b : Nat) (k : Int) : Rat :=
  if 0 ≤ k then ((b ^ k.toNat : Nat) : Rat) else 1 / ((b ^ (-k).toNat : Nat) : Rat)

/-- The largest exponent whose power does not exceed the number. -/
def log (b : Nat) (f : Rat) : Int :=
  if 1 ≤ f then (Nat.log b f.floor.toNat : Int) else -(Nat.clog b (1 / f).ceil.toNat : Int)

/-- The distance from a float to the next larger one. -/
def spacing (f : Rat) : Rat := power 2 (max (log 2 f - 52) (-1074))

/-- To the next smaller one, where it is half as much below a power of two. -/
def spacingBelow (f : Rat) : Rat :=
  if f = power 2 (log 2 f) ∧ -1022 < log 2 f then spacing f / 2 else spacing f

/-- The number is rounded to the float when it is read: to nearest, ties to even. -/
def readsAs (f x : Rat) : Bool :=
  if (f / spacing f).floor % 2 = 0 then
    f - spacingBelow f / 2 ≤ x && x ≤ f + spacing f / 2
  else f - spacingBelow f / 2 < x && x < f + spacing f / 2

/-- The unit of the last of so many digits. -/
def unit (f : Rat) (n : Nat) : Rat := power 10 (log 10 f + 1 - n)

/-- The float in these units, rounded down or up to a number that is read back. -/
def rounded (f : Rat) (n : Nat) : Option Nat :=
  let u := unit f n
  let down := (f / u).floor.toNat
  let up := (f / u).ceil.toNat
  match readsAs f (down * u), readsAs f (up * u) with
  | true, true =>
      if f - down * u < up * u - f ∨ (f - down * u = up * u - f ∧ down % 2 = 0) then some down
      else some up
  | true, false => some down
  | false, true => some up
  | false, false => none

/-- The number that is written, and of how many units it is. -/
def shortest (f : Rat) : Nat × Nat :=
  ((List.range 17).findSome? fun i => (rounded f (i + 1)).map fun d => (d, i + 1)).getD
    ((f / unit f 17).floor.toNat, 17)

end Digits

section Format

/-- Without the zeros at its end. -/
def trimmed (digits : List Char) : List Char := (digits.reverse.dropWhile (· = '0')).reverse

/-- A plain decimal with its point after so many digits. -/
def fmtF (digits : List Char) (point : Int) : List Char :=
  (if point ≤ 0 then ['0']
    else digits.take point.toNat ++ List.replicate (point.toNat - digits.length) '0') ++
  if (digits.length : Int) ≤ point then []
  else '.' :: (List.replicate (-point).toNat '0' ++ digits.drop point.toNat)

/-- At least two digits. -/
def fmtExp (n : Nat) : List Char := List.leftpad 2 '0' (Nat.toDigits 10 n)

def fmtE (digits : List Char) (exp : Int) : List Char :=
  digits.take 1 ++ (if digits.length ≤ 1 then [] else '.' :: digits.drop 1) ++
    'e' :: (if exp < 0 then '-' else '+') :: fmtExp exp.natAbs

/-- The format `%g` of a positive float. -/
def fmtPositive (f : Rat) : List Char :=
  let s := shortest f
  let all := Nat.toDigits 10 s.1
  let point : Int := log 10 f + 1 - s.2 + all.length
  if point - 1 < -4 ∨ 6 ≤ point - 1 then fmtE (trimmed all) (point - 1)
  else fmtF (trimmed all) point

def fmtG (f : Rat) : String :=
  if f = 0 then "0"
  else if f < 0 then String.ofList ('-' :: fmtPositive (-f))
  else String.ofList (fmtPositive f)

end Format

section Powers

variable {b : Nat}

theorem power_eq_zpow (k : Int) : power b k = (b : Rat) ^ k := by
  rw [power]
  split_ifs with nonneg
  · rw [Nat.cast_pow, ← zpow_natCast, Int.toNat_of_nonneg nonneg]
  · rw [Nat.cast_pow, one_div, ← zpow_natCast, ← zpow_neg, Int.toNat_of_nonneg (by omega),
      neg_neg]

theorem power_pos (positive : 0 < b) (k : Int) : 0 < power b k := by
  rw [power_eq_zpow]
  positivity

theorem power_natCast (n : Nat) : power b n = ((b ^ n : Nat) : Rat) := by
  rw [power_eq_zpow, zpow_natCast, Nat.cast_pow]

theorem floor_natCast (n : Nat) : (n : Rat).floor = n := by
  rw [← Int.cast_natCast, Rat.floor_intCast]

theorem ceil_natCast (n : Nat) : (n : Rat).ceil = n := by
  rw [← Int.cast_natCast, Rat.ceil_intCast]

theorem log_natCast {n : Nat} (positive : 0 < n) : log b (n : Rat) = Nat.log b n := by
  rw [log, if_pos (by exact_mod_cast positive), floor_natCast, Int.toNat_natCast]

theorem spacing_pos (f : Rat) : 0 < spacing f := power_pos (by omega) _

theorem spacingBelow_pos (f : Rat) : 0 < spacingBelow f := by
  rw [spacingBelow]
  split_ifs
  · exact half_pos (spacing_pos f)
  · exact spacing_pos f

theorem spacingBelow_le (f : Rat) : spacingBelow f ≤ spacing f := by
  have positive := spacing_pos f
  rw [spacingBelow]
  split_ifs
  · linarith
  · exact le_refl _

end Powers

section Whole

variable {n : Nat}

theorem readsAs_self (f : Rat) : readsAs f f = true := by
  have above := spacing_pos f
  have below := spacingBelow_pos f
  rw [readsAs]
  split_ifs
  · simp only [Bool.and_eq_true, decide_eq_true_eq]
    constructor <;> linarith
  · simp only [Bool.and_eq_true, decide_eq_true_eq]
    constructor <;> linarith

theorem bounds_of_readsAs {f x : Rat} (reads : readsAs f x = true) :
    f - spacing f / 2 ≤ x ∧ x ≤ f + spacing f / 2 := by
  have below := spacingBelow_le f
  rw [readsAs] at reads
  split_ifs at reads
  · simp only [Bool.and_eq_true, decide_eq_true_eq] at reads
    exact ⟨by linarith [reads.1], reads.2⟩
  · simp only [Bool.and_eq_true, decide_eq_true_eq] at reads
    exact ⟨by linarith [reads.1], reads.2.le⟩

theorem spacing_lt_one (positive : 0 < n) (small : n < 10 ^ 6) : spacing (n : Rat) < 1 := by
  have bits : Nat.log 2 n < 20 := Nat.log_lt_of_lt_pow (by omega) (by omega)
  rw [spacing, log_natCast positive, power_eq_zpow]
  exact zpow_lt_one_of_neg₀ (by norm_num) (by omega)

/-- No other whole number is read as a small one. -/
theorem eq_of_readsAs (positive : 0 < n) (small : n < 10 ^ 6) {m : Nat}
    (reads : readsAs (n : Rat) (m : Rat) = true) : m = n := by
  have near := spacing_lt_one positive small
  obtain ⟨below, above⟩ := bounds_of_readsAs reads
  have left : (n : Rat) < m + 1 := by linarith
  have right : (m : Rat) < n + 1 := by linarith
  have left' : n < m + 1 := by exact_mod_cast left
  have right' : m < n + 1 := by exact_mod_cast right
  omega

theorem readsAs_of_rounded {f : Rat} {k d : Nat} (found : rounded f k = some d) :
    readsAs f (d * unit f k) = true := by
  rw [rounded] at found
  cases down : readsAs f ((f / unit f k).floor.toNat * unit f k) with
  | true =>
      cases up : readsAs f ((f / unit f k).ceil.toNat * unit f k) with
      | true =>
          simp only [down, up] at found
          split_ifs at found <;> rw [← Option.some.inj found]
          · exact down
          · exact up
      | false =>
          simp only [down, up] at found
          rw [← Option.some.inj found]
          exact down
  | false =>
      cases up : readsAs f ((f / unit f k).ceil.toNat * unit f k) with
      | true =>
          simp only [down, up] at found
          rw [← Option.some.inj found]
          exact up
      | false => simp [down, up] at found

theorem unit_natCast (positive : 0 < n) {k : Nat} (few : k ≤ Nat.log 10 n + 1) :
    unit (n : Rat) k = ((10 ^ (Nat.log 10 n + 1 - k) : Nat) : Rat) := by
  have exponent : (Nat.log 10 n : Int) + 1 - k = (Nat.log 10 n + 1 - k : Nat) := by omega
  rw [unit, log_natCast positive, exponent, power_natCast]

theorem rounded_all (positive : 0 < n) : rounded (n : Rat) (Nat.log 10 n + 1) = some n := by
  have one : unit (n : Rat) (Nat.log 10 n + 1) = 1 := by
    rw [unit_natCast positive (Nat.le_refl _), Nat.sub_self]
    rfl
  have down : ((n : Rat) / 1).floor.toNat = n := by
    rw [div_one, floor_natCast, Int.toNat_natCast]
  have up : ((n : Rat) / 1).ceil.toNat = n := by
    rw [div_one, ceil_natCast, Int.toNat_natCast]
  rw [rounded, one]
  simp only [down, up, mul_one, readsAs_self, lt_irrefl, sub_self, false_or]
  split_ifs <;> rfl

/-- The number that is written for a small whole number is its value in the last unit. -/
theorem shortest_natCast (positive : 0 < n) (small : n < 10 ^ 6) :
    ∃ j : Nat, (shortest (n : Rat)).1 * 10 ^ j = n ∧
      (Nat.log 10 n + 1 : Int) - (shortest (n : Rat)).2 = j := by
  have six : Nat.log 10 n < 6 := Nat.log_lt_of_lt_pow (by omega) small
  obtain ⟨rest, split⟩ : ∃ rest, List.range 17 = List.range (Nat.log 10 n + 1) ++ rest := by
    have more : 17 = (Nat.log 10 n + 1) + (16 - Nat.log 10 n) := by omega
    rw [more, List.range_add]
    exact ⟨_, rfl⟩
  have some : ((List.range (Nat.log 10 n + 1)).findSome? fun i =>
      (rounded (n : Rat) (i + 1)).map fun d => (d, i + 1)).isSome := by
    rw [List.findSome?_isSome_iff]
    exact ⟨Nat.log 10 n, List.mem_range.mpr (Nat.lt_succ_self _), by rw [rounded_all positive]; rfl⟩
  obtain ⟨s, found⟩ := Option.isSome_iff_exists.mp some
  have chosen : shortest (n : Rat) = s := by
    rw [shortest, split, List.findSome?_append, found]
    rfl
  obtain ⟨i, inside, taken⟩ := List.exists_of_findSome?_eq_some found
  obtain ⟨d, here, rfl⟩ := Option.map_eq_some_iff.mp taken
  have few : i + 1 ≤ Nat.log 10 n + 1 := List.mem_range.mp inside
  refine ⟨Nat.log 10 n + 1 - (i + 1), ?_, ?_⟩
  · have reads := readsAs_of_rounded here
    rw [unit_natCast positive few, ← Nat.cast_mul] at reads
    rw [chosen]
    exact eq_of_readsAs positive small reads
  · rw [chosen]
    push_cast
    omega

end Whole

section Texts

theorem toDigits_mul_pow {d : Nat} (positive : 0 < d) (j : Nat) :
    Nat.toDigits 10 (d * 10 ^ j) = Nat.toDigits 10 d ++ List.replicate j '0' := by
  induction j with
  | zero => simp
  | succ j ih =>
      have more : 0 < d * 10 ^ j := by positivity
      have split := Nat.toDigits_append_toDigits (show 1 < 10 by omega) more (show 0 < 10 by omega)
      have product : 10 * (d * 10 ^ j) + 0 = d * 10 ^ (j + 1) := by
        ring
      rw [product, ih, List.append_assoc] at split
      rw [← split, List.replicate_succ']
      rfl

theorem trimmed_append (digits : List Char) :
    ∃ m, digits = trimmed digits ++ List.replicate m '0' := by
  have zeros : digits.reverse.takeWhile (· = '0') =
      List.replicate (digits.reverse.takeWhile (· = '0')).length '0' := by
    refine List.eq_replicate_of_mem fun c member => ?_
    exact of_decide_eq_true (List.all_eq_true.mp List.all_takeWhile c member)
  refine ⟨(digits.reverse.takeWhile (· = '0')).length, ?_⟩
  have split := List.takeWhile_append_dropWhile (p := fun c => decide (c = '0')) (l := digits.reverse)
  rw [zeros] at split
  have back := congrArg List.reverse split
  rw [List.reverse_append, List.reverse_replicate, List.reverse_reverse] at back
  exact back.symm

theorem fmtF_whole {digits : List Char} {point : Nat} (some : 0 < point)
    (short : digits.length ≤ point) :
    fmtF digits point = digits ++ List.replicate (point - digits.length) '0' := by
  have positive : ¬(point : Int) ≤ 0 := by omega
  have whole : (digits.length : Int) ≤ point := by omega
  rw [fmtF, if_neg positive, if_pos whole, Int.toNat_natCast, List.take_of_length_le short,
    List.append_nil]

/-- A small whole number is written as its digits. -/
theorem fmtPositive_natCast {n : Nat} (positive : 0 < n) (small : n < 10 ^ 6) :
    fmtPositive (n : Rat) = Nat.toDigits 10 n := by
  obtain ⟨j, value, places⟩ := shortest_natCast positive small
  have more : 0 < (shortest (n : Rat)).1 := by
    by_contra zero
    rw [Nat.eq_zero_of_not_pos zero, Nat.zero_mul] at value
    omega
  have digits := toDigits_mul_pow more j
  rw [value] at digits
  have length : (Nat.toDigits 10 n).length = (Nat.toDigits 10 (shortest (n : Rat)).1).length + j := by
    rw [digits, List.length_append, List.length_replicate]
  have few : (Nat.toDigits 10 n).length ≤ 6 :=
    (Nat.length_toDigits_le_iff (by omega) (by omega)).mpr small
  have some : 0 < (Nat.toDigits 10 n).length := Nat.length_toDigits_pos
  have point : log 10 (n : Rat) + 1 - (shortest (n : Rat)).2 +
      (Nat.toDigits 10 (shortest (n : Rat)).1).length = (Nat.toDigits 10 n).length := by
    rw [log_natCast positive]
    omega
  obtain ⟨m, trim⟩ := trimmed_append (Nat.toDigits 10 (shortest (n : Rat)).1)
  have whole : Nat.toDigits 10 n =
      trimmed (Nat.toDigits 10 (shortest (n : Rat)).1) ++ List.replicate (m + j) '0' := by
    rw [digits, List.replicate_add, ← List.append_assoc, ← trim]
  have count := congrArg List.length whole
  rw [List.length_append, List.length_replicate] at count
  rw [fmtPositive, point, if_neg (by omega), fmtF_whole some (by omega)]
  have rest : (Nat.toDigits 10 n).length -
      (trimmed (Nat.toDigits 10 (shortest (n : Rat)).1)).length = m + j := by
    omega
  rw [rest, ← whole]

theorem power_log_le {f : Rat} (large : 1 ≤ f) : power 10 (log 10 f) ≤ f := by
  have floor : 1 ≤ f.floor := Rat.le_floor_iff.mpr (by exact_mod_cast large)
  rw [log, if_pos large, power_natCast]
  have below : 10 ^ Nat.log 10 f.floor.toNat ≤ f.floor.toNat := Nat.pow_log_le_self 10 (by omega)
  have cast : ((f.floor.toNat : Nat) : Rat) ≤ f := by
    have same : ((f.floor.toNat : Nat) : Rat) = (f.floor : Rat) := by
      rw [← Int.cast_natCast, Int.toNat_of_nonneg (by omega)]
    rw [same]
    exact Rat.floor_le f
  exact le_trans (by exact_mod_cast below) cast

theorem down_le_of_rounded {f : Rat} {k d : Nat} (found : rounded f k = some d) :
    (f / unit f k).floor.toNat ≤ d := by
  have order : (f / unit f k).floor.toNat ≤ (f / unit f k).ceil.toNat := by
    apply Int.toNat_le_toNat
    exact_mod_cast le_trans (Rat.floor_le (f / unit f k)) Rat.le_ceil
  rw [rounded] at found
  split at found
  · split_ifs at found <;> rw [← Option.some.inj found]
    exact order
  · rw [← Option.some.inj found]
  · rw [← Option.some.inj found]
    exact order
  · cases found

/-- The number that is written has as many digits as it has places. -/
theorem length_shortest {f : Rat} (large : 1 ≤ f) :
    (shortest f).2 ≤ (Nat.toDigits 10 (shortest f).1).length := by
  have enough {k d : Nat} (down : (f / unit f (k + 1)).floor.toNat ≤ d) :
      k + 1 ≤ (Nat.toDigits 10 d).length := by
    have units : power 10 k ≤ f / unit f (k + 1) := by
      refine (le_div_iff₀ (power_pos (by omega) _)).mpr (le_trans (le_of_eq ?_) (power_log_le large))
      rw [power_eq_zpow, power_eq_zpow, power_eq_zpow, ← zpow_add₀ (by norm_num)]
      congr 1
      push_cast
      omega
    rw [power_natCast] at units
    have floor : ((10 ^ k : Nat) : Int) ≤ (f / unit f (k + 1)).floor :=
      Rat.le_floor_iff.mpr (by exact_mod_cast units)
    have digits : 10 ^ k ≤ d := by omega
    cases k with
    | zero =>
        have some : 0 < (Nat.toDigits 10 d).length := Nat.length_toDigits_pos
        omega
    | succ k =>
        by_contra short
        have small := (Nat.length_toDigits_le_iff (n := d) (show 1 < 10 by omega)
          (Nat.succ_pos k)).mp (by omega)
        omega
  rw [shortest]
  cases found : (List.range 17).findSome? fun i =>
      (rounded f (i + 1)).map fun d => (d, i + 1) with
  | none => exact enough (Nat.le_refl _)
  | some s =>
      obtain ⟨i, -, taken⟩ := List.exists_of_findSome?_eq_some found
      obtain ⟨d, here, rfl⟩ := Option.map_eq_some_iff.mp taken
      exact enough (down_le_of_rounded here)

/-- A large number is written with an exponent. -/
theorem mem_fmtPositive {f : Rat} (large : 10 ^ 6 ≤ f) : 'e' ∈ fmtPositive f := by
  have one : 1 ≤ f := le_trans (by norm_num) large
  have six : 6 ≤ log 10 f := by
    have floor : (10 ^ 6 : Int) ≤ f.floor := Rat.le_floor_iff.mpr (by exact_mod_cast large)
    have exponent : 6 ≤ Nat.log 10 f.floor.toNat := Nat.le_log_of_pow_le (by omega) (by omega)
    rw [log, if_pos one]
    exact_mod_cast exponent
  have digits := length_shortest one
  rw [fmtPositive, if_pos (.inr (by omega)), fmtE]
  exact List.mem_append_right _ List.mem_cons_self

end Texts

section Integers

theorem toString_natCast (n : Nat) :
    toString (n : Int) = String.ofList (Nat.toDigits 10 n) := by
  rw [Int.toString_eq_repr, Int.repr_eq_if, if_pos (by omega), Nat.repr_eq_ofList_toDigits,
    Int.toNat_natCast]

theorem toString_neg {n : Nat} (positive : 0 < n) :
    toString (-(n : Int)) = String.ofList ('-' :: Nat.toDigits 10 n) := by
  rw [Int.toString_eq_repr, Int.repr_eq_if, if_neg (by omega), Nat.repr_eq_ofList_toDigits,
    neg_neg, Int.toNat_natCast, String.ext_iff]
  simp only [String.toList_append, String.toList_ofList]
  rfl

theorem e_not_mem_toDigits (n : Nat) : 'e' ∉ Nat.toDigits 10 n := by
  intro member
  have digit := Nat.isDigit_of_mem_toDigits (by omega) (by omega) member
  revert digit
  decide

theorem fmtPositive_iff {n : Nat} (positive : 0 < n) :
    fmtPositive (n : Rat) = Nat.toDigits 10 n ↔ n < 10 ^ 6 := by
  constructor
  · intro same
    by_contra large
    have exponent := mem_fmtPositive (f := (n : Rat)) (by exact_mod_cast not_lt.mp large)
    rw [same] at exponent
    exact e_not_mem_toDigits n exponent
  · exact fmtPositive_natCast positive

/-- An integer is written as its digits exactly if it has six of them at most. -/
theorem fmtG_intCast_iff (z : Int) : fmtG (z : Rat) = toString z ↔ z.natAbs < 10 ^ 6 := by
  rcases Int.lt_trichotomy z 0 with negative | rfl | positive
  · obtain ⟨n, rfl⟩ : ∃ n : Nat, z = -(n : Int) := ⟨z.natAbs, by omega⟩
    have some : 0 < n := by omega
    have below : ((-(n : Int) : Int) : Rat) < 0 := by exact_mod_cast negative
    have back : -((-(n : Int) : Int) : Rat) = (n : Rat) := by push_cast; ring
    rw [fmtG, if_neg below.ne, if_pos below, back, toString_neg some, String.ofList_inj,
      List.cons.injEq, and_iff_right rfl, fmtPositive_iff some, Int.natAbs_neg, Int.natAbs_natCast]
  · decide
  · obtain ⟨n, rfl⟩ := Int.eq_ofNat_of_zero_le positive.le
    have some : 0 < n := by omega
    have above : (0 : Rat) < ((n : Int) : Rat) := by exact_mod_cast positive
    rw [fmtG, if_neg above.ne', if_neg (not_lt.mpr above.le), toString_natCast,
      String.ofList_inj, Int.cast_natCast, fmtPositive_iff some, Int.natAbs_natCast]

end Integers

end FloatText
