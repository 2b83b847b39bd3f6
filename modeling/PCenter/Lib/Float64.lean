import Mathlib.Tactic.FieldSimp
import PCenter.Lib.FloatText

/-!
# Numbers in a 64-bit float

A binary float of 64 bits has 53 significant bits: a number is rounded to the nearest multiple of
a power of two, ties to even, and whole numbers of 53 bits are kept. This is what becomes of a
number that passes through a decoder whose only number is the float. The conversion back to an
integer drops the fraction; a value out of range becomes the least integer, as on amd64.
-/

namespace Float64

/-- How many low bits of a number do not fit. -/
def excess (n : Nat) : Nat := n.log2 - 52

def roundNat (n : Nat) : Nat :=
  let unit := 2 ^ excess n
  let q := n / unit
  let r := n % unit
  if 2 * r < unit ∨ (2 * r = unit ∧ q % 2 = 0) then q * unit else (q + 1) * unit

/-- The float nearest to an integer. -/
def ofInt (n : Int) : Int := n.sign * roundNat n.natAbs

/-- The float nearest to the integer is finite. -/
def inRange (n : Int) : Prop := (roundNat n.natAbs).log2 < 1024

instance (n : Int) : Decidable (inRange n) := inferInstanceAs (Decidable (_ < _))

/-- The whole number nearest to a rational, the even one of two. -/
def roundEven (x : Rat) : Int :=
  if x - x.floor < 1 / 2 ∨ (x - x.floor = 1 / 2 ∧ x.floor % 2 = 0) then x.floor else x.floor + 1

/-- The float nearest to a number that is not negative. -/
def nearest (x : Rat) : Rat := roundEven (x / FloatText.spacing x) * FloatText.spacing x

/-- The float nearest to a rational. -/
def ofRat (q : Rat) : Rat := if q < 0 then -nearest (-q) else nearest q

/-- The float nearest to the rational is finite. -/
def finite (q : Rat) : Prop := |ofRat q| < 2 ^ 1024

instance (q : Rat) : Decidable (finite q) := inferInstanceAs (Decidable (_ < _))

/-- `int(f)` of a whole-valued or fractional float. -/
def toInt64 (f : Rat) : Int64 :=
  let whole := if 0 ≤ f then f.floor else f.ceil
  if -2 ^ 63 ≤ whole ∧ whole < 2 ^ 63 then Int64.ofInt whole else Int64.minValue

/-- An integer sent as a JSON number and read as a float. -/
def through (n : Int64) : Int64 := toInt64 (ofInt n.toInt)

theorem unit_le {n : Nat} (positive : 0 < n) : 2 ^ excess n ≤ n := by
  have below := Nat.log2_self_le (Nat.pos_iff_ne_zero.mp positive)
  exact le_trans (Nat.pow_le_pow_right (by omega) (Nat.sub_le _ _)) below

theorem roundNat_pos {n : Nat} (positive : 0 < n) : 0 < roundNat n := by
  have unit_pos : 0 < 2 ^ excess n := by positivity
  have quotient : 0 < n / 2 ^ excess n := Nat.div_pos (unit_le positive) unit_pos
  simp only [roundNat]
  split
  · exact Nat.mul_pos quotient unit_pos
  · exact Nat.mul_pos (Nat.succ_pos _) unit_pos

theorem ofInt_pos_iff {n : Int} : 0 < ofInt n ↔ 0 < n := by
  constructor
  · intro rounded
    by_contra nonpositive
    have sign : n.sign ≤ 0 := Int.sign_nonpos_iff.mpr (not_lt.mp nonpositive)
    have product := Int.mul_nonpos_of_nonpos_of_nonneg sign
      (Int.natCast_nonneg (roundNat n.natAbs))
    exact absurd rounded (not_lt.mpr product)
  · intro positive
    have magnitude := roundNat_pos (n := n.natAbs) (by omega)
    rw [ofInt, Int.sign_eq_one_of_pos positive, Int.one_mul]
    exact_mod_cast magnitude

section Whole

theorem roundEven_natCast_div (n : Nat) {unit : Nat} (positive : 0 < unit) :
    roundEven ((n : Rat) / unit) =
      if 2 * (n % unit) < unit ∨ (2 * (n % unit) = unit ∧ n / unit % 2 = 0) then
        ((n / unit : Nat) : Int)
      else ((n / unit + 1 : Nat) : Int) := by
  have scale : (0 : Rat) < unit := by exact_mod_cast positive
  have floor : ((n : Rat) / unit).floor = ((n / unit : Nat) : Int) := by
    exact (Rat.floor_natCast_div_natCast n unit).trans (Int.natCast_div n unit).symm
  have rest : (n : Rat) / unit - ((n / unit : Nat) : Int) = ((n % unit : Nat) : Rat) / unit := by
    have whole : (n : Rat) = (unit : Rat) * (n / unit : Nat) + (n % unit : Nat) := by
      exact_mod_cast (Nat.div_add_mod n unit).symm
    rw [Int.cast_natCast, sub_eq_iff_eq_add]
    field_simp
    linarith
  have below : ((n % unit : Nat) : Rat) / unit < 1 / 2 ↔ 2 * (n % unit) < unit := by
    rw [div_lt_div_iff₀ scale two_pos, one_mul, mul_comm]
    exact_mod_cast Iff.rfl
  have between : ((n % unit : Nat) : Rat) / unit = 1 / 2 ↔ 2 * (n % unit) = unit := by
    rw [div_eq_div_iff scale.ne' two_ne_zero, one_mul, mul_comm]
    exact_mod_cast Iff.rfl
  have even : ((n / unit : Nat) : Int) % 2 = 0 ↔ n / unit % 2 = 0 := by omega
  simp only [roundEven, floor, rest, below, between, even]
  split <;> simp

theorem nearest_natCast (n : Nat) : nearest (n : Rat) = (roundNat n : Nat) := by
  rcases Nat.eq_zero_or_pos n with rfl | positive
  · have zero : roundEven 0 = 0 := by decide +kernel
    have zero' : roundNat 0 = 0 := by decide
    rw [nearest, Nat.cast_zero, zero_div, zero, zero']
    simp
  have bits : FloatText.log 2 (n : Rat) = n.log2 := by
    rw [FloatText.log_natCast positive, Nat.log2_eq_log_two]
  by_cases long : 52 ≤ n.log2
  · have spacing : FloatText.spacing (n : Rat) = ((2 ^ excess n : Nat) : Rat) := by
      have exponent : max ((n.log2 : Int) - 52) (-1074) = (excess n : Nat) := by
        rw [excess]
        omega
      rw [FloatText.spacing, bits, exponent, FloatText.power_natCast]
    have unit_pos : 0 < 2 ^ excess n := by positivity
    rw [nearest, spacing, roundEven_natCast_div n unit_pos, roundNat]
    split <;> push_cast <;> rfl
  · have whole : excess n = 0 := by
      rw [excess]
      omega
    have kept : roundNat n = n := by simp [roundNat, whole, Nat.mod_one]
    obtain ⟨k, spacing⟩ : ∃ k : Nat, FloatText.spacing (n : Rat) = 1 / ((2 ^ k : Nat) : Rat) := by
      refine ⟨52 - n.log2, ?_⟩
      have exponent : max ((n.log2 : Int) - 52) (-1074) = -((52 - n.log2 : Nat) : Int) := by omega
      rw [FloatText.spacing, bits, exponent, FloatText.power_eq_zpow, zpow_neg, zpow_natCast, one_div]
      push_cast
      rfl
    have shifted := roundEven_natCast_div (n * 2 ^ k) Nat.one_pos
    rw [Nat.cast_one, div_one, Nat.mod_one, if_pos (.inl (by omega)), Nat.div_one] at shifted
    have scale : ((2 ^ k : Nat) : Rat) ≠ 0 := by positivity
    rw [nearest, spacing, kept, div_div_eq_mul_div, div_one, ← Nat.cast_mul, shifted,
      Int.cast_natCast, Nat.cast_mul, mul_one_div, mul_div_cancel_right₀ _ scale]

/-- Rounding a whole number as a rational is rounding it. -/
theorem ofRat_intCast (n : Int) : ofRat (n : Rat) = (ofInt n : Int) := by
  rw [ofRat, ofInt]
  rcases lt_trichotomy n 0 with negative | rfl | positive
  · have magnitude : (-(n : Rat)) = (n.natAbs : Nat) := by
      rw [Nat.cast_natAbs, abs_of_neg negative]
      push_cast
      rfl
    rw [if_pos (by exact_mod_cast negative), magnitude, nearest_natCast,
      Int.sign_eq_neg_one_of_neg negative]
    push_cast
    ring
  · have zero := nearest_natCast 0
    have none_ : roundNat 0 = 0 := by decide
    simpa [none_] using zero
  · have magnitude : (n : Rat) = (n.natAbs : Nat) := by
      rw [Nat.cast_natAbs, abs_of_pos positive]
    rw [if_neg (by exact_mod_cast not_lt.mpr positive.le), Int.sign_eq_one_of_pos positive,
      Int.one_mul, magnitude, nearest_natCast]
    push_cast
    rfl

end Whole

theorem toInt64_intCast {n : Int} (low : -2 ^ 63 ≤ n) (high : n < 2 ^ 63) :
    toInt64 n = Int64.ofInt n := by
  have whole : (if 0 ≤ (n : Rat) then (n : Rat).floor else (n : Rat).ceil) = n := by
    split <;> simp
  simp only [toInt64, whole]
  exact if_pos ⟨low, high⟩

end Float64
