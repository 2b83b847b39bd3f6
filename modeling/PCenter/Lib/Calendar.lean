import Mathlib.Data.Int.Init

/-!
# The calendar

Days are counted from the first of January 1970, in the Gregorian calendar without end in
either direction. Inside, a year begins in March, so that the day that a leap year adds is
its last one; a cycle of 400 years has 146097 days.
-/

namespace Calendar

structure Date where
  year : Int
  month : Int
  day : Int
  deriving DecidableEq, Repr

/-- The date of a day. -/
def dateOf (n : Int) : Date :=
  let cycle := (n + 719468) / 146097
  let inCycle := (n + 719468) % 146097
  let century := min (inCycle / 36524) 3
  let inCentury := inCycle - 36524 * century
  let inFour := inCentury % 1461
  let year := min (inFour / 365) 3
  let inYear := inFour - 365 * year
  let month := (5 * inYear + 2) / 153
  let day := inYear - (153 * month + 2) / 5 + 1
  let march := 400 * cycle + 100 * century + 4 * (inCentury / 1461) + year
  if month < 10 then ⟨march, month + 3, day⟩ else ⟨march + 1, month - 9, day⟩

/-- The day of the week, from Sunday. -/
def weekday (n : Int) : Int := (n + 4) % 7

/-- What a clock on the wall shows. -/
structure Reading where
  date : Date
  weekday : Int
  hour : Int
  minute : Int
  second : Int
  deriving DecidableEq, Repr

/-- The reading after a number of seconds of local time. -/
def reading (s : Int) : Reading where
  date := dateOf (s / 86400)
  weekday := weekday (s / 86400)
  hour := s % 86400 / 3600
  minute := s % 3600 / 60
  second := s % 60

example : [0, 59, 60, 11016, 19782, 19783, -1].map dateOf =
    [⟨1970, 1, 1⟩, ⟨1970, 3, 1⟩, ⟨1970, 3, 2⟩, ⟨2000, 2, 29⟩, ⟨2024, 2, 29⟩, ⟨2024, 3, 1⟩,
      ⟨1969, 12, 31⟩] := by decide

example : reading 1709210096 = ⟨⟨2024, 2, 29⟩, 4, 12, 34, 56⟩ := by decide

section Months

theorem rest_pred {unit x : Int} (known : unit = 365 ∨ unit = 36524)
    (later : 1 ≤ x - unit * min (x / unit) 3) :
    x - 1 - unit * min ((x - 1) / unit) 3 = x - unit * min (x / unit) 3 - 1 := by
  rcases known with rfl | rfl
  · omega
  · omega

/-- The day of a month, from the days since the first of March. -/
def dayIn (inYear : Int) : Int := inYear - (153 * ((5 * inYear + 2) / 153) + 2) / 5 + 1

theorem dayIn_pred {inYear : Int} (begun : 0 ≤ inYear) (later : 1 < dayIn inYear) :
    1 ≤ inYear ∧ dayIn (inYear - 1) = dayIn inYear - 1 := by
  unfold dayIn at *
  have month : (5 * (inYear - 1) + 2) / 153 = (5 * inYear + 2) / 153 := by omega
  rw [month]
  omega

/-- The days since the first of March. -/
def inYear (n : Int) : Int :=
  let inCycle := (n + 719468) % 146097
  let inCentury := inCycle - 36524 * min (inCycle / 36524) 3
  let inFour := inCentury % 1461
  inFour - 365 * min (inFour / 365) 3

theorem day_dateOf (n : Int) : (dateOf n).day = dayIn (inYear n) := by
  simp only [dateOf]
  split <;> rfl

theorem inYear_nonneg (n : Int) : 0 ≤ inYear n := by
  simp only [inYear]
  omega

theorem inYear_pred {n : Int} (later : 1 ≤ inYear n) : inYear (n - 1) = inYear n - 1 := by
  simp only [inYear] at *
  generalize inCycle_eq : (n + 719468) % 146097 = inCycle at *
  generalize inCentury_eq : inCycle - 36524 * min (inCycle / 36524) 3 = inCentury at *
  generalize inFour_eq : inCentury % 1461 = inFour at *
  have four : 1 ≤ inFour := by omega
  have century : 1 ≤ inCentury := by omega
  have cycle : (n - 1 + 719468) % 146097 = inCycle - 1 := by omega
  have century' := rest_pred (.inr rfl) (inCentury_eq ▸ century)
  rw [inCentury_eq] at century'
  have four' : (inCentury - 1) % 1461 = inFour - 1 := by omega
  rw [cycle, century', four']
  exact rest_pred (.inl rfl) later

/-- Within a month the day before has the number before. -/
theorem day_pred {n : Int} (later : 1 < (dateOf n).day) :
    (dateOf (n - 1)).day = (dateOf n).day - 1 := by
  rw [day_dateOf] at later ⊢
  obtain ⟨begun, before⟩ := dayIn_pred (inYear_nonneg n) later
  rw [day_dateOf, inYear_pred begun, before]

theorem one_le_day (n : Int) : 1 ≤ (dateOf n).day := by
  rw [day_dateOf, dayIn]
  have := inYear_nonneg n
  omega

end Months

end Calendar
