import Mathlib.Algebra.Group.Nat.Defs
import PCenter.Lib.Calendar
import PCenter.Lib.Text

/-!
# The cron parser of the scheduler

`nextCronTime` and `parseCronField` of `internal/scheduler/service.go`. An instant is a
number of nanoseconds since the epoch; the local time zone gives the offset in seconds at
each second. The set of a field is the list of the values it allows.
-/

namespace Cron

open GoText

/-- The offset of the local time from UTC, in seconds. -/
abbrev Zone := Int → Int

def second : Int := 1000000000

def minute : Int := 60 * second

/-- `t.Unix()` -/
def unix (t : Int) : Int := t / second

def localTime (zone : Zone) (t : Int) : Calendar.Reading :=
  Calendar.reading (unix t + zone (unix t))

/-- `strings.Fields` -/
def fields (s : String) : List String :=
  ((s.toList.splitOnP isSpace).filter (· ≠ [])).map String.ofList

/-- The loop `for i := first; i <= max; i += step`, with the addition of the machine. -/
def counted (max step : Int) : Nat → Int → List Int
  | 0, _ => []
  | n + 1, i => if i ≤ max then i :: counted max step n (Int.bmod (i + step) (2 ^ 64)) else []

/-- The values of that loop; when the addition overflows, three turns are made. -/
def steps (min max step : Int) : List Int := counted max step (max - min + 3).toNat min

/-- The values that an item of the list adds to the set. -/
def parsePart (min max : Int) (part : String) : Except String (List Int) :=
  if hasPrefix "*/" part then
    match atoi (String.ofList (part.toList.drop 2)) with
    | none => .error ("invalid step: " ++ part)
    | some step =>
        if step.toInt ≤ 0 then .error ("invalid step: " ++ part)
        else .ok (steps min max step.toInt)
  else if part = "*" then .ok (steps min max 1)
  else
    match cut '-' part with
    | (first, some last) =>
        match atoi first, atoi last with
        | some start, some stop =>
            if start.toInt < min ∨ stop.toInt > max ∨ start.toInt > stop.toInt then
              .error ("invalid range: " ++ part)
            else .ok (steps start.toInt stop.toInt 1)
        | _, _ => .error ("invalid range: " ++ part)
    | (_, none) =>
        match atoi part with
        | none => .error ("invalid value: " ++ part)
        | some val =>
            if val.toInt < min ∨ val.toInt > max then .error ("invalid value: " ++ part)
            else .ok [val.toInt]

def parseCronField (field : String) (min max : Int) : Except String (List Int) := do
  let parts ← (split ',' field).mapM fun part => parsePart min max (trimSpace part)
  if parts.flatten = [] then .error "empty field" else .ok parts.flatten

/-- The sets of the five fields. -/
structure Sets where
  minutes : List Int
  hours : List Int
  dom : List Int
  months : List Int
  dow : List Int
  deriving DecidableEq, Repr

def named (name : String) (parsed : Except String (List Int)) : Except String (List Int) :=
  parsed.mapError fun err => name ++ ": " ++ err

def parseCron (expr : String) : Except String Sets :=
  match fields expr with
  | [minutes, hours, dom, months, dow] => do
      let minuteSet ← named "minute" (parseCronField minutes 0 59)
      let hourSet ← named "hour" (parseCronField hours 0 23)
      let domSet ← named "dom" (parseCronField dom 1 31)
      let monthSet ← named "month" (parseCronField months 1 12)
      let dowSet ← named "dow" (parseCronField dow 0 6)
      .ok ⟨minuteSet, hourSet, domSet, monthSet, dowSet⟩
  | _ => .error "cron expression must have 5 fields"

def Sets.allow (sets : Sets) (r : Calendar.Reading) : Bool :=
  sets.months.contains r.date.month && sets.dom.contains r.date.day &&
    sets.dow.contains r.weekday && sets.hours.contains r.hour && sets.minutes.contains r.minute

/-- The next minute after the instant. -/
def nextMinute (after : Int) : Int := after - after % minute + minute

/-- How many minutes the search looks at. -/
def horizon : Nat := 366 * 24 * 60

section Search

variable (zone : Zone) (sets : Sets)

def search : Nat → Int → Option Int
  | 0, _ => none
  | n + 1, t => if sets.allow (localTime zone t) then some t else search n (t + minute)

def nextCronTime (expr : String) (after : Int) : Except String Int := do
  let sets ← parseCron expr
  match search zone sets horizon (nextMinute after) with
  | some t => .ok t
  | none => .error "no matching time found within 1 year"

/-- A minute within the horizon is allowed. -/
def Matchable (after : Int) : Prop :=
  ∃ k < horizon, sets.allow (localTime zone (nextMinute after + k * minute)) = true

/-- The expression is valid and names a minute within the horizon. -/
def Recurs (expr : String) (after : Int) : Prop :=
  match parseCron expr with
  | .ok sets => Matchable zone sets after
  | .error _ => False

variable {zone sets}

theorem later_minute (t : Int) (k : Nat) :
    t + minute + k * minute = t + (k + 1 : Nat) * minute := by
  rw [Int.natCast_succ, Int.add_mul, Int.one_mul]
  omega

theorem search_eq_none_iff {n : Nat} {t : Int} :
    search zone sets n t = none ↔
      ∀ k < n, sets.allow (localTime zone (t + k * minute)) = false := by
  induction n generalizing t with
  | zero => simp [search]
  | succ n ih =>
      rw [search]
      by_cases here : sets.allow (localTime zone t) = true
      · rw [if_pos here]
        refine ⟨nofun, fun never => ?_⟩
        have first := never 0 (by omega)
        simp [here] at first
      · rw [if_neg here, ih]
        constructor
        · intro never k below
          cases k with
          | zero => simpa using here
          | succ k =>
              rw [← later_minute]
              exact never k (by omega)
        · intro never k below
          rw [later_minute]
          exact never (k + 1) (by omega)

theorem search_eq_some {n : Nat} {t u : Int} (found : search zone sets n t = some u) :
    t ≤ u ∧ sets.allow (localTime zone u) = true := by
  induction n generalizing t with
  | zero => exact nomatch found
  | succ n ih =>
      rw [search] at found
      split_ifs at found with here
      · obtain rfl := Option.some.inj found
        exact ⟨Int.le_refl _, here⟩
      · obtain ⟨later, allowed⟩ := ih found
        have positive : 0 < minute := by decide
        exact ⟨by omega, allowed⟩

theorem whole_of_search {n : Nat} {t u : Int} (whole : t % minute = 0)
    (found : search zone sets n t = some u) : u % minute = 0 := by
  induction n generalizing t with
  | zero => exact nomatch found
  | succ n ih =>
      rw [search] at found
      split_ifs at found
      · obtain rfl := Option.some.inj found
        exact whole
      · exact ih (by rw [Int.add_emod_right, whole]) found

theorem lt_nextMinute (after : Int) : after < nextMinute after := by
  have positive : 0 < minute := by decide
  have below := Int.emod_lt_of_pos after positive
  rw [nextMinute]
  omega

/-- The search succeeds iff a minute within the horizon is allowed. -/
theorem exists_search_iff {after : Int} :
    (∃ t, search zone sets horizon (nextMinute after) = some t) ↔ Matchable zone sets after := by
  rw [← Option.ne_none_iff_exists', Ne, search_eq_none_iff, Matchable]
  simp only [not_forall, Bool.not_eq_false, exists_prop]

theorem nextCronTime_of_valid {expr : String} (valid : parseCron expr = .ok sets) (after : Int) :
    nextCronTime zone expr after =
      match search zone sets horizon (nextMinute after) with
      | some t => .ok t
      | none => .error "no matching time found within 1 year" := by
  rw [nextCronTime, valid]
  rfl

theorem valid_of_nextCronTime {expr : String} {after t : Int}
    (found : nextCronTime zone expr after = .ok t) : ∃ sets, parseCron expr = .ok sets := by
  rw [nextCronTime] at found
  cases parsed : parseCron expr with
  | error err =>
      rw [parsed] at found
      exact nomatch found
  | ok sets => exact ⟨sets, rfl⟩

theorem search_of_nextCronTime {expr : String} (valid : parseCron expr = .ok sets)
    {after t : Int} (found : nextCronTime zone expr after = .ok t) :
    search zone sets horizon (nextMinute after) = some t := by
  rw [nextCronTime_of_valid valid] at found
  cases searched : search zone sets horizon (nextMinute after) with
  | none =>
      rw [searched] at found
      exact nomatch found
  | some u =>
      rw [searched] at found
      obtain rfl := Except.ok.inj found
      rfl

theorem later_of_nextCronTime {expr : String} {after t : Int}
    (found : nextCronTime zone expr after = .ok t) : after < t := by
  obtain ⟨sets, valid⟩ := valid_of_nextCronTime found
  have first := (search_eq_some (search_of_nextCronTime valid found)).1
  have later := lt_nextMinute after
  omega

theorem unix_mul_of_nextCronTime {expr : String} {after t : Int}
    (found : nextCronTime zone expr after = .ok t) : unix t * second = t := by
  obtain ⟨sets, valid⟩ := valid_of_nextCronTime found
  have start : nextMinute after % minute = 0 := by
    rw [nextMinute, Int.add_emod_right]
    exact Int.emod_eq_zero_of_dvd (Int.dvd_self_sub_emod)
  have whole := whole_of_search start (search_of_nextCronTime valid found)
  have seconds : second ∣ t :=
    Int.dvd_trans ⟨60, rfl⟩ (Int.dvd_of_emod_eq_zero whole)
  exact Int.ediv_mul_cancel seconds

theorem allow_of_nextCronTime {expr : String} (valid : parseCron expr = .ok sets)
    {after t : Int} (found : nextCronTime zone expr after = .ok t) :
    sets.allow (localTime zone t) = true :=
  (search_eq_some (search_of_nextCronTime valid found)).2

theorem nextCronTime_ok_iff {expr : String} (valid : parseCron expr = .ok sets) {after : Int} :
    (∃ t, nextCronTime zone expr after = .ok t) ↔ Matchable zone sets after := by
  rw [nextCronTime_of_valid valid, ← exists_search_iff]
  cases search zone sets horizon (nextMinute after) <;> simp

instance decidableMatchable (after : Int) : Decidable (Matchable zone sets after) :=
  decidable_of_iff ((search zone sets horizon (nextMinute after)).isSome = true)
    (by rw [Option.isSome_iff_exists, exists_search_iff])

instance decidableRecurs (expr : String) (after : Int) : Decidable (Recurs zone expr after) :=
  match parsed : parseCron expr with
  | .ok sets =>
      decidable_of_iff (Matchable zone sets after) (by rw [Recurs, parsed])
  | .error _ => isFalse (by rw [Recurs, parsed]; exact id)

theorem nextCronTime_of_recurs {expr : String} {after : Int} (recurs : Recurs zone expr after) :
    ∃ t, nextCronTime zone expr after = .ok t := by
  rw [Recurs] at recurs
  cases parsed : parseCron expr with
  | error err =>
      rw [parsed] at recurs
      exact recurs.elim
  | ok sets =>
      rw [parsed] at recurs
      exact (nextCronTime_ok_iff parsed).mpr recurs

end Search

example : (parseCron "*/20 1-3,5 * 12 0").toOption =
    some ⟨[0, 20, 40], [1, 2, 3, 5], steps 1 31 1, [12], [0]⟩ := by decide

end Cron
