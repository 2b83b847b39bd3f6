import Mathlib.Order.Bounds.Defs
import PCenter.CronGrammar

/-!
# The search for the next time

The search looks at the whole minutes after an instant, for 366 days. It returns the first one
whose reading on the local clock the five fields allow. The minutes are those of UTC; where the
offset is not a whole number of minutes, the local clock shows seconds at them.
-/

namespace Cron

open Calendar

/-- The texts of the five fields. -/
structure Expression where
  minutes : String
  hours : String
  dom : String
  months : String
  dow : String
  deriving DecidableEq, Repr

namespace Expression

variable (e : Expression)

def texts : List String := [e.minutes, e.hours, e.dom, e.months, e.dow]

def Valid : Prop :=
  InGrammar .minute e.minutes ∧ InGrammar .hour e.hours ∧ InGrammar .dom e.dom ∧
    InGrammar .month e.months ∧ InGrammar .dow e.dow

/-- The month, the day, the weekday, the hour and the minute are all denoted. -/
def Allows (r : Reading) : Prop :=
  r.date.month ∈ denotes .month e.months ∧ r.date.day ∈ denotes .dom e.dom ∧
    r.weekday ∈ denotes .dow e.dow ∧ r.hour ∈ denotes .hour e.hours ∧
    r.minute ∈ denotes .minute e.minutes

/-- The whole minutes after an instant that match, up to 366 days from the next minute. -/
def times (offset after : Int) : Set Int :=
  {t | t % minute = 0 ∧ after < t ∧ t < nextMinute after + horizon * minute ∧
    e.Allows (localTime (fun _ => offset) t)}

end Expression

section Readings

theorem one_le_month (n : Int) : 1 ≤ (dateOf n).month := by
  have begun : 0 ≤ inYear n := inYear_nonneg n
  have month : (dateOf n).month =
      if (5 * inYear n + 2) / 153 < 10 then (5 * inYear n + 2) / 153 + 3
      else (5 * inYear n + 2) / 153 - 9 := apply_ite Date.month _ _ _
  rw [month]
  split_ifs
  · omega
  · omega

theorem reading_nonneg (s : Int) :
    0 ≤ (reading s).date.month ∧ 0 ≤ (reading s).date.day ∧ 0 ≤ (reading s).weekday ∧
      0 ≤ (reading s).hour ∧ 0 ≤ (reading s).minute := by
  have month := one_le_month (s / 86400)
  have day := one_le_day (s / 86400)
  simp only [reading, weekday]
  omega

theorem second_of_whole {offset t : Int} (whole : t % minute = 0) (even : offset % 60 = 0) :
    (localTime (fun _ => offset) t).second = 0 := by
  have unit : minute = 60000000000 := rfl
  have unit' : second = 1000000000 := rfl
  rw [unit] at whole
  simp only [localTime, reading, unix, unit']
  omega

end Readings

section Search

variable {zone : Zone} {sets : Sets} {e : Expression} {expr : String} {after : Int}

theorem search_first {n : Nat} {t u : Int} (found : search zone sets n t = some u) :
    ∃ k < n, u = t + k * minute ∧ sets.allow (localTime zone u) = true ∧
      ∀ j < k, sets.allow (localTime zone (t + j * minute)) = false := by
  induction n generalizing t with
  | zero => cases found
  | succ n ih =>
      rw [search] at found
      split_ifs at found with here
      · obtain rfl := Option.some.inj found
        refine ⟨0, by omega, by simp, here, ?_⟩
        intro j before
        omega
      · obtain ⟨k, inside, rfl, allowed, before⟩ := ih found
        refine ⟨k + 1, by omega, later_minute t k, allowed, ?_⟩
        intro j earlier
        cases j with
        | zero => simpa using here
        | succ j =>
            rw [← later_minute]
            exact before j (by omega)

theorem whole_minutes {t : Int} :
    t % minute = 0 ∧ after < t ∧ t < nextMinute after + horizon * minute ↔
      ∃ k < horizon, t = nextMinute after + k * minute := by
  have unit : minute = 60000000000 := rfl
  rw [nextMinute, unit]
  constructor
  · rintro ⟨whole, later, inside⟩
    have length : (horizon : Int) = 527040 := rfl
    refine ⟨((t - (after - after % 60000000000 + 60000000000)) / 60000000000).toNat, ?_, ?_⟩
    · omega
    · omega
  · rintro ⟨k, inside, rfl⟩
    omega

theorem parseCron_of_valid (split : fields expr = e.texts) (valid : e.Valid) :
    ∃ sets, parseCron expr = .ok sets ∧
      ∀ s, sets.allow (reading s) = true ↔ e.Allows (reading s) := by
  obtain ⟨minutes, hours, dom, months, dow⟩ := valid
  obtain ⟨minuteSet, parsed, isMinute⟩ := parseCronField_of_inGrammar minutes
  obtain ⟨hourSet, parsed', isHour⟩ := parseCronField_of_inGrammar hours
  obtain ⟨domSet, parsed'', isDay⟩ := parseCronField_of_inGrammar dom
  obtain ⟨monthSet, parsed''', isMonth⟩ := parseCronField_of_inGrammar months
  obtain ⟨dowSet, parsed'''', isWeekday⟩ := parseCronField_of_inGrammar dow
  refine ⟨⟨minuteSet, hourSet, domSet, monthSet, dowSet⟩, ?_, ?_⟩
  · rw [parseCron, split, Expression.texts]
    simp only [Field.min, Field.max] at parsed parsed' parsed'' parsed''' parsed''''
    simp only [parsed, parsed', parsed'', parsed''', parsed'''']
    rfl
  · intro s
    obtain ⟨month, day, weekday, hour, minute⟩ := reading_nonneg s
    rw [Sets.allow, Expression.Allows, ← isMonth _ month, ← isDay _ day, ← isWeekday _ weekday,
      ← isHour _ hour, ← isMinute _ minute]
    simp only [Bool.and_eq_true, List.contains_iff_mem, and_assoc]

/-- The search is sound, complete and minimal. -/
theorem nextCronTime_least (split : fields expr = e.texts) (valid : e.Valid)
    (offset after : Int) :
    ((e.times offset after).Nonempty →
      ∃ t, nextCronTime (fun _ => offset) expr after = .ok t ∧
        IsLeast (e.times offset after) t) ∧
    (¬(e.times offset after).Nonempty →
      ∃ err, nextCronTime (fun _ => offset) expr after = .error err) := by
  obtain ⟨sets, parsed, allows⟩ := parseCron_of_valid split valid
  rw [nextCronTime_of_valid parsed]
  have allowed : ∀ t, sets.allow (localTime (fun _ => offset) t) = true ↔
      e.Allows (localTime (fun _ => offset) t) := fun t => allows _
  cases searched : search (fun _ => offset) sets horizon (nextMinute after) with
  | none =>
      have never := search_eq_none_iff.mp searched
      refine ⟨?_, fun _ => ⟨_, rfl⟩⟩
      rintro ⟨t, whole, later, inside, allows'⟩
      obtain ⟨k, early, rfl⟩ := whole_minutes.mp ⟨whole, later, inside⟩
      have refused := never k early
      rw [(allowed _).mpr allows'] at refused
      exact nomatch refused
  | some t =>
      obtain ⟨k, inside, rfl, here, before⟩ := search_first searched
      obtain ⟨whole, later, below⟩ := whole_minutes.mpr ⟨k, inside, rfl⟩
      have found : nextMinute after + k * minute ∈ e.times offset after :=
        ⟨whole, later, below, (allowed _).mp here⟩
      refine ⟨fun _ => ⟨_, rfl, found, ?_⟩, fun empty => absurd ⟨_, found⟩ empty⟩
      rintro u ⟨whole, later, below, allows'⟩
      obtain ⟨j, _, rfl⟩ := whole_minutes.mp ⟨whole, later, below⟩
      by_contra earlier
      have unit : minute = 60000000000 := rfl
      have first : j < k := by
        rw [unit] at earlier
        omega
      have refused := before j first
      rw [(allowed _).mpr allows'] at refused
      exact nomatch refused

end Search

section Main

/-- The parser accepts the grammar and reads the union of the items; the search returns the
first whole minute that matches, and an error if there is none. -/
theorem cron_spec :
    (∀ f text, ((∃ set, parseCronField text f.min f.max = .ok set) ↔ InGrammar f text) ∧
      ∀ set, parseCronField text f.min f.max = .ok set →
        ∀ v, 0 ≤ v → (v ∈ set ↔ v ∈ denotes f text)) ∧
    ∀ expr (e : Expression) (offset after : Int), fields expr = e.texts → e.Valid →
      ((e.times offset after).Nonempty →
        ∃ t, nextCronTime (fun _ => offset) expr after = .ok t ∧
          IsLeast (e.times offset after) t ∧ after < t ∧ t % minute = 0 ∧
          (offset % 60 = 0 → (localTime (fun _ => offset) t).second = 0)) ∧
      (¬(e.times offset after).Nonempty →
        ∃ err, nextCronTime (fun _ => offset) expr after = .error err) := by
  refine ⟨?_, ?_⟩
  · intro f text
    refine ⟨⟨?_, ?_⟩, ?_⟩
    · rintro ⟨set, parsed⟩
      exact inGrammar_of_parseCronField parsed
    · intro grammatical
      obtain ⟨set, parsed, _⟩ := parseCronField_of_inGrammar grammatical
      exact ⟨set, parsed⟩
    · intro set parsed
      obtain ⟨set', parsed', union⟩ :=
        parseCronField_of_inGrammar (inGrammar_of_parseCronField parsed)
      obtain rfl : set = set' := Except.ok.inj (parsed.symm.trans parsed')
      exact union
  · intro expr e offset after split valid
    obtain ⟨finds, fails⟩ := nextCronTime_least split valid offset after
    refine ⟨?_, fails⟩
    intro some_
    obtain ⟨t, found, least⟩ := finds some_
    obtain ⟨whole, later, _⟩ := least.1
    exact ⟨t, found, least, later, whole, second_of_whole whole⟩

/-- A sign, an offset of half a minute, and the greatest step. -/
theorem signs_seconds_and_overflow :
    (parseCronField "+5" 0 59 = .ok [5] ∧
      ¬∃ denoted, Item Numeral Numeral .minute "+5".toList denoted) ∧
    (nextCronTime (fun _ => 30) "* * * * *" 0 = .ok 60000000000 ∧
      (localTime (fun _ => 30) 60000000000).second = 30) ∧
    parseCronField "*/9223372036854775807" 1 31 = .ok [1, -2 ^ 63, -1] := by
  refine ⟨⟨by decide +kernel, ?_⟩, ⟨by decide +kernel, by decide +kernel⟩, by decide +kernel⟩
  rintro ⟨denoted, item⟩
  obtain ⟨text, letters⟩ : ∃ text, text = "+5".toList := ⟨_, rfl⟩
  rw [← letters] at item
  cases item with
  | every => exact absurd letters (by decide)
  | step _ _ =>
      have starred : some '*' = "+5".toList.head? := congrArg List.head? letters
      exact absurd starred (by decide)
  | value number _ _ =>
      obtain ⟨_, digits, _⟩ := number
      rw [letters] at digits
      exact absurd digits (by decide)
  | range _ _ _ _ _ =>
      have minus : '-' ∈ "+5".toList := by
        rw [← letters]
        simp
      exact absurd minus (by decide)

end Main

end Cron
