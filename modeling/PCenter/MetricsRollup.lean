import Mathlib.Algebra.GroupWithZero.Nat
import Mathlib.Algebra.Order.BigOperators.Group.List
import Mathlib.Algebra.Order.Group.Nat
import Mathlib.Algebra.Ring.Int.Defs
import Mathlib.Data.List.Dedup
import Mathlib.Order.Defs.LinearOrder
import Mathlib.Order.Lattice
import PCenter.Lib.Calendar
import PCenter.Lib.Transition

/-!
# The rollup of metrics

The tables of `internal/metrics` and the jobs of `RollupService`, each at the time at which
it runs. Values are of any linearly ordered type and how averages are taken is a parameter,
as nothing depends on it. Seconds are counted from 1970; the loops that wait for the next
time are left out, and so are failures of the database.
-/

namespace Metrics

open Calendar Transition

variable {V : Type}

/-- The columns that the rollups group by. -/
structure Series where
  cluster : String
  resourceType : String
  resourceID : String
  metricTypeID : Nat
  deriving DecidableEq, Repr

structure RawMetric (V : Type) where
  timestamp : Int
  series : Series
  value : V

structure RollupMetric (V : Type) where
  bucketTimestamp : Int
  series : Series
  minValue : V
  maxValue : V
  avgValue : V
  sampleCount : Nat

structure RetentionConfig where
  rawHours : Int
  hourlyDays : Int
  dailyDays : Int
  weeklyMonths : Int

def defaultRetention : RetentionConfig :=
  { rawHours := 24, hourlyDays := 7, dailyDays := 30, weeklyMonths := 12 }

/-- `AVG(value)` and `SUM(avg_value * sample_count) / SUM(sample_count)` -/
structure Averages (V : Type) where
  plain : List V → V
  weighted : List (V × Nat) → V

structure DB (V : Type) where
  raw : List (RawMetric V)
  hourly : List (RollupMetric V)
  daily : List (RollupMetric V)
  weekly : List (RollupMetric V)
  monthly : List (RollupMetric V)

/-- What the unique index of a rollup table is over. -/
def RollupMetric.key (r : RollupMetric V) : Int × Series := (r.bucketTimestamp, r.series)

/-- `INSERT OR REPLACE` of rows with distinct keys. -/
def insertOrReplace (table rows : List (RollupMetric V)) : List (RollupMetric V) :=
  table.filter (fun r => r.key ∉ rows.map RollupMetric.key) ++ rows

/-- `GROUP BY` with one row for each group. -/
def groupBy {R : Type} (series : R → Series) (row : Series → List R → Option (RollupMetric V))
    (rows : List R) : List (RollupMetric V) :=
  (rows.map series).dedup.filterMap fun g => row g (rows.filter fun r => series r = g)

/-- The rows whose bucket begins within a time. -/
def within (start stop : Int) (rows : List (RollupMetric V)) : List (RollupMetric V) :=
  rows.filter fun r => start ≤ r.bucketTimestamp ∧ r.bucketTimestamp < stop

section Rows

variable [LinearOrder V] (averages : Averages V)

/-- The hourly row of a group of samples. -/
def hourlyRow (bucket : Int) (g : Series) (samples : List (RawMetric V)) :
    Option (RollupMetric V) := do
  let lo ← (samples.map (·.value)).min?
  let hi ← (samples.map (·.value)).max?
  some
    { bucketTimestamp := bucket, series := g, minValue := lo, maxValue := hi
      avgValue := averages.plain (samples.map (·.value)), sampleCount := samples.length }

/-- The daily, weekly or monthly row of a group of rows. -/
def rollupRow (bucket : Int) (g : Series) (rows : List (RollupMetric V)) :
    Option (RollupMetric V) := do
  let lo ← (rows.map (·.minValue)).min?
  let hi ← (rows.map (·.maxValue)).max?
  some
    { bucketTimestamp := bucket, series := g, minValue := lo, maxValue := hi
      avgValue := averages.weighted (rows.map fun r => (r.avgValue, r.sampleCount))
      sampleCount := (rows.map (·.sampleCount)).sum }

def rollup (start stop : Int) (rows : List (RollupMetric V)) : List (RollupMetric V) :=
  groupBy (·.series) (rollupRow averages start) (within start stop rows)

end Rows

/-- The first day of the month of a day, as `time.Date(year, month, 1, ...)` gives it. -/
def firstOfMonth (day : Int) : Int := day - (dateOf day).day + 1

/-- The first day of the month before. -/
def firstOfPreviousMonth (day : Int) : Int := firstOfMonth (firstOfMonth day - 1)

def midnight (day : Int) : Int := day * 86400

def dayOf (now : Int) : Int := now / 86400

def monthStart (now : Int) : Int := midnight (firstOfPreviousMonth (dayOf now))

def monthEnd (now : Int) : Int := midnight (firstOfMonth (dayOf now))

/-- The days back to the last Monday, by the number of the weekday. -/
def daysFromMonday (day : Int) : Int := if weekday day = 0 then 7 else weekday day

section Jobs

variable [LinearOrder V] (averages : Averages V) (retention : RetentionConfig) (now : Int)
  (db : DB V)

def rollupHourly : DB V :=
  let hourEnd := now / 3600 * 3600
  let hourStart := hourEnd - 3600
  let samples := db.raw.filter fun m => hourStart ≤ m.timestamp ∧ m.timestamp < hourEnd
  { db with
    hourly := insertOrReplace db.hourly
      (groupBy (·.series) (hourlyRow averages hourStart) samples) }

/-- The rows of the previous day. -/
def dailyRows : List (RollupMetric V) :=
  rollup averages (midnight (dayOf now) - 86400) (midnight (dayOf now)) db.hourly

def rollupDaily : DB V := { db with daily := insertOrReplace db.daily (dailyRows averages now db) }

def rollupWeekly : DB V :=
  let weekEnd := midnight (dayOf now - daysFromMonday (dayOf now) + 1)
  { db with
    weekly := insertOrReplace db.weekly
      (rollup averages (weekEnd - 7 * 86400) weekEnd db.daily) }

def rollupMonthly : DB V :=
  { db with
    monthly := insertOrReplace db.monthly
      (rollup averages (monthStart now) (monthEnd now) db.daily) }

/-- `DELETE ... WHERE bucket_timestamp < ?` -/
def expire (cutoff : Int) (rows : List (RollupMetric V)) : List (RollupMetric V) :=
  rows.filter fun r => cutoff ≤ r.bucketTimestamp

/-- The cleanup, which keeps monthly rows forever. -/
def cleanup : DB V :=
  { db with
    raw := db.raw.filter fun m => now - retention.rawHours * 3600 ≤ m.timestamp
    hourly := expire (now - retention.hourlyDays * 86400) db.hourly
    daily := expire (now - retention.dailyDays * 86400) db.daily
    weekly := expire (now - retention.weeklyMonths * 30 * 86400) db.weekly }

end Jobs

inductive Event (V : Type) where
  | insertRawMetric (m : RawMetric V)
  | rollupHourly
  | rollupDaily
  | rollupWeekly
  | rollupMonthly
  | cleanup

/-- The tables, and beside them what a run has done: the daily rows that it wrote, whatever
became of them, and the times of the last cleanup and of the last event. -/
structure World (V : Type) where
  db : DB V
  written : List (RollupMetric V)
  cleaned : Option Int
  clock : Int

def World.start (clock : Int) : World V := ⟨⟨[], [], [], [], []⟩, [], none, clock⟩

section Runs

variable [LinearOrder V] (averages : Averages V)

/-- An event at a time, under the default retention. -/
def go (w : World V) (e : Int × Event V) : World V :=
  match e with
  | (now, .insertRawMetric m) =>
      { w with db := { w.db with raw := w.db.raw ++ [m] }, clock := now }
  | (now, .rollupHourly) => { w with db := rollupHourly averages now w.db, clock := now }
  | (now, .rollupDaily) =>
      { w with
        db := rollupDaily averages now w.db
        written := insertOrReplace w.written (dailyRows averages now w.db), clock := now }
  | (now, .rollupWeekly) => { w with db := rollupWeekly averages now w.db, clock := now }
  | (now, .rollupMonthly) => { w with db := rollupMonthly averages now w.db, clock := now }
  | (now, .cleanup) =>
      { w with db := cleanup defaultRetention now w.db, cleaned := some now, clock := now }

/-- Time does not go back. -/
def Ordered (w : World V) (e : Int × Event V) : Prop := w.clock ≤ e.1

instance (w : World V) (e : Int × Event V) : Decidable (Ordered w e) :=
  inferInstanceAs (Decidable (w.clock ≤ e.1))

variable {averages}

section Tables

variable {rows table : List (RollupMetric V)} {r : RollupMetric V} {start stop : Int}

omit [LinearOrder V] in
theorem mem_insertOrReplace (member : r ∈ insertOrReplace table rows) : r ∈ table ∨ r ∈ rows := by
  rcases List.mem_append.mp member with old | new
  · exact Or.inl (List.mem_filter.mp old).1
  · exact Or.inr new

omit [LinearOrder V] in
/-- Rows that a filter keeps can be inserted before it or after it. -/
theorem filter_insertOrReplace {keep : RollupMetric V → Bool} (all : ∀ r ∈ rows, keep r = true) :
    (insertOrReplace table rows).filter keep = insertOrReplace (table.filter keep) rows := by
  rw [insertOrReplace, List.filter_append, List.filter_eq_self.mpr all, List.filter_filter,
    insertOrReplace, List.filter_filter]
  simp only [Bool.and_comm]

omit [LinearOrder V] in
theorem mem_groupBy {R : Type} {series : R → Series}
    {row : Series → List R → Option (RollupMetric V)} {l : List R}
    (member : r ∈ groupBy series row l) :
    ∃ a ∈ l, row (series a) (l.filter fun b => series b = series a) = some r := by
  obtain ⟨g, group, made⟩ := List.mem_filterMap.mp member
  obtain ⟨a, there, rfl⟩ := List.mem_map.mp (List.mem_dedup.mp group)
  exact ⟨a, there, made⟩

theorem rollupRow_eq_some_iff {bucket : Int} {g : Series} :
    rollupRow averages bucket g rows = some r ↔
      r.bucketTimestamp = bucket ∧ r.series = g ∧
        (rows.map (·.minValue)).min? = some r.minValue ∧
        (rows.map (·.maxValue)).max? = some r.maxValue ∧
        r.avgValue = averages.weighted (rows.map fun r => (r.avgValue, r.sampleCount)) ∧
        r.sampleCount = (rows.map (·.sampleCount)).sum := by
  simp only [rollupRow]
  cases (rows.map (·.minValue)).min? with
  | none => simp
  | some lo =>
      cases (rows.map (·.maxValue)).max? with
      | none => simp
      | some hi =>
          cases r
          simp only [Option.bind_eq_bind, Option.bind_some, Option.some.injEq, RollupMetric.mk.injEq]
          tauto

theorem mem_hourlyRow {bucket : Int} {g : Series} {samples : List (RawMetric V)}
    (made : hourlyRow averages bucket g samples = some r) : r.sampleCount = samples.length := by
  simp only [hourlyRow, Option.bind_eq_bind, Option.bind_eq_some_iff] at made
  obtain ⟨lo, -, hi, -, row⟩ := made
  exact (congrArg RollupMetric.sampleCount (Option.some.inj row)).symm

theorem bucket_of_rollup (member : r ∈ rollup averages start stop rows) :
    r.bucketTimestamp = start := by
  obtain ⟨a, -, made⟩ := mem_groupBy member
  exact (rollupRow_eq_some_iff.mp made).1

/-- The rows of a series in a time. -/
def ofSeries (start stop : Int) (g : Series) (rows : List (RollupMetric V)) :
    List (RollupMetric V) :=
  (within start stop rows).filter fun r => r.series = g

theorem mem_rollup_iff :
    r ∈ rollup averages start stop rows ↔
      rollupRow averages start r.series (ofSeries start stop r.series rows) = some r := by
  constructor
  · intro member
    obtain ⟨a, -, made⟩ := mem_groupBy member
    have series : r.series = a.series := (rollupRow_eq_some_iff.mp made).2.1
    rw [series]
    exact made
  · intro made
    refine List.mem_filterMap.mpr ⟨r.series, List.mem_dedup.mpr ?_, made⟩
    obtain ⟨-, -, least, -⟩ := rollupRow_eq_some_iff.mp made
    obtain ⟨a, there, -⟩ := List.mem_map.mp (List.min?_mem least)
    obtain ⟨inside, same⟩ := List.mem_filter.mp there
    exact List.mem_map.mpr ⟨a, inside, of_decide_eq_true same⟩

theorem counted_of_rollup (counted : ∀ r ∈ rows, 0 < r.sampleCount)
    (member : r ∈ rollup averages start stop rows) : 0 < r.sampleCount := by
  obtain ⟨a, there, made⟩ := mem_groupBy member
  obtain ⟨-, -, -, -, -, sum⟩ := rollupRow_eq_some_iff.mp made
  have group : a ∈ (within start stop rows).filter fun b => b.series = a.series :=
    List.mem_filter.mpr ⟨there, decide_eq_true rfl⟩
  have one : a.sampleCount ≤ r.sampleCount := by
    rw [sum]
    exact List.le_sum_of_mem (List.mem_map_of_mem group)
  have positive := counted a (List.mem_filter.mp there).1
  omega

omit [LinearOrder V] in
theorem find_insertOrReplace (k : Int × Series) :
    (insertOrReplace table rows).find? (fun r => r.key = k) =
      (rows.find? fun r => r.key = k).or (table.find? fun r => r.key = k) := by
  rw [insertOrReplace, List.find?_append]
  cases new : rows.find? fun r => r.key = k with
  | none =>
      have absent : k ∉ rows.map RollupMetric.key := by
        intro member
        obtain ⟨r, there, key⟩ := List.mem_map.mp member
        exact absurd (decide_eq_true key) (List.find?_eq_none.mp new r there)
      rw [Option.or_none, Option.none_or, List.find?_filter]
      congr 1
      funext r
      by_cases key : r.key = k
      · simp [key, absent]
      · simp [key]
  | some r =>
      have key : r.key = k := by simpa using List.find?_some new
      have member : k ∈ rows.map RollupMetric.key :=
        List.mem_map.mpr ⟨r, List.mem_of_find?_eq_some new, key⟩
      have old : ((table.filter fun r => r.key ∉ rows.map RollupMetric.key).find?
          fun r => r.key = k) = none := by
        refine List.find?_eq_none.mpr ?_
        intro other there same
        have fresh := of_decide_eq_true (List.mem_filter.mp there).2
        exact fresh (of_decide_eq_true same ▸ member)
      rw [old]
      rfl

theorem find_rollup (g : Series) :
    (rollup averages start stop rows).find? (fun r => r.key = (start, g)) =
      rollupRow averages start g (ofSeries start stop g rows) := by
  cases made : rollupRow averages start g (ofSeries start stop g rows) with
  | none =>
      refine List.find?_eq_none.mpr ?_
      intro r member key
      have series : r.series = g := congrArg Prod.snd (of_decide_eq_true key)
      have row := mem_rollup_iff.mp member
      rw [series, made] at row
      exact nomatch row
  | some r =>
      obtain ⟨bucket, series, -⟩ := rollupRow_eq_some_iff.mp made
      have member : r ∈ rollup averages start stop rows := by
        refine mem_rollup_iff.mpr ?_
        rw [series]
        exact made
      have known : ((rollup averages start stop rows).find? fun r => r.key = (start, g)).isSome := by
        refine List.find?_isSome.mpr ⟨r, member, decide_eq_true ?_⟩
        rw [RollupMetric.key, bucket, series]
      obtain ⟨other, found⟩ := Option.isSome_iff_exists.mp known
      have key : other.key = (start, g) := by simpa using List.find?_some found
      have row := mem_rollup_iff.mp (List.mem_of_find?_eq_some found)
      have same : other.series = g := congrArg Prod.snd key
      rw [same, made] at row
      rw [found, row]

end Tables

/-- A cleanup at the given time, if there was one, has left the row. -/
def Survives (cleaned : Option Int) (r : RollupMetric V) : Prop :=
  ∀ c ∈ cleaned, c - 30 * 86400 ≤ r.bucketTimestamp

omit [LinearOrder V] in
instance (cleaned : Option Int) : DecidablePred (Survives (V := V) cleaned) :=
  fun r => inferInstanceAs (Decidable (∀ c ∈ cleaned, c - 30 * 86400 ≤ r.bucketTimestamp))

/-- The daily table is what has been written without what the last cleanup found too old. -/
structure Sound (w : World V) : Prop where
  hourly : ∀ r ∈ w.db.hourly, 0 < r.sampleCount
  counts : ∀ r ∈ w.written, 0 < r.sampleCount
  days : ∀ r ∈ w.written, 86400 ∣ r.bucketTimestamp
  past : ∀ c ∈ w.cleaned, c ≤ w.clock
  kept : w.db.daily = w.written.filter fun r => Survives w.cleaned r

omit [LinearOrder V] in
theorem sound_start (clock : Int) : Sound (World.start (V := V) clock) where
  hourly := List.forall_mem_nil _
  counts := List.forall_mem_nil _
  days := List.forall_mem_nil _
  past := fun _ none => nomatch none
  kept := rfl

theorem sound_rollupDaily {w : World V} {now : Int} (sound : Sound w) (later : w.clock ≤ now) :
    Sound (go averages w (now, .rollupDaily)) := by
  have rows : ∀ r ∈ dailyRows averages now w.db,
      0 < r.sampleCount ∧ r.bucketTimestamp = midnight (dayOf now) - 86400 := by
    intro r member
    exact ⟨counted_of_rollup sound.hourly member, bucket_of_rollup member⟩
  have past : ∀ c ∈ w.cleaned, c ≤ now := fun c cleaned => (sound.past c cleaned).trans later
  have survive : ∀ r ∈ dailyRows averages now w.db, decide (Survives w.cleaned r) = true := by
    intro r member
    refine decide_eq_true ?_
    intro c cleaned
    have bucket := (rows r member).2
    have before := past c cleaned
    simp only [midnight, dayOf] at bucket
    omega
  refine ⟨sound.hourly, ?_, ?_, past, ?_⟩
  · intro r member
    rcases mem_insertOrReplace member with old | new
    · exact sound.counts r old
    · exact (rows r new).1
  · intro r member
    rcases mem_insertOrReplace member with old | new
    · exact sound.days r old
    · have bucket := (rows r new).2
      simp only [midnight] at bucket
      omega
  · change insertOrReplace w.db.daily _ = (insertOrReplace w.written _).filter _
    have kept := @filter_insertOrReplace V _ w.written _ survive
    rw [← sound.kept] at kept
    exact kept.symm

theorem sound_cleanup {w : World V} {now : Int} (sound : Sound w) (later : w.clock ≤ now) :
    Sound (go averages w (now, .cleanup)) := by
  refine ⟨?_, sound.counts, sound.days, ?_, ?_⟩
  · intro r member
    exact sound.hourly r (List.mem_filter.mp member).1
  · rintro c ⟨⟩
    exact Int.le_refl now
  · change expire (now - 30 * 86400) w.db.daily = w.written.filter _
    rw [sound.kept, expire, List.filter_filter]
    refine List.filter_congr ?_
    intro r _
    rw [← Bool.decide_and, decide_eq_decide]
    constructor
    · rintro ⟨young, -⟩ c ⟨⟩
      exact young
    · intro young
      refine ⟨young now rfl, ?_⟩
      intro c cleaned
      have before := sound.past c cleaned
      have limit := young now rfl
      omega

theorem sound_go {w : World V} {e : Int × Event V} (sound : Sound w) (later : Ordered w e) :
    Sound (go averages w e) := by
  obtain ⟨now, event⟩ := e
  have past : ∀ c ∈ w.cleaned, c ≤ now := fun c cleaned => (sound.past c cleaned).trans later
  cases event with
  | insertRawMetric m => exact { sound with past := past }
  | rollupHourly =>
      refine { sound with hourly := ?_, past := past }
      intro r member
      rcases mem_insertOrReplace member with old | new
      · exact sound.hourly r old
      · obtain ⟨a, there, made⟩ := mem_groupBy new
        rw [mem_hourlyRow made]
        exact List.length_pos_of_mem (List.mem_filter.mpr ⟨there, decide_eq_true rfl⟩)
  | rollupDaily => exact sound_rollupDaily sound later
  | rollupWeekly => exact { sound with past := past }
  | rollupMonthly => exact { sound with past := past }
  | cleanup => exact sound_cleanup sound later

theorem sound_run {w : World V} {run : List (Int × Event V)} (sound : Sound w)
    (ordered : Along (go averages) Ordered w run) : Sound (run.foldl (go averages) w) := by
  induction run generalizing w with
  | nil => exact sound
  | cons e es ih => exact ih (sound_go sound ordered.1) ordered.2

theorem mem_monthly {w : World V} {run : List (Int × Event V)} {r : RollupMetric V}
    (member : r ∈ (run.foldl (go averages) w).db.monthly) :
    r ∈ w.db.monthly ∨
      ∃ e ∈ run, e.2 = .rollupMonthly ∧ r.bucketTimestamp = monthStart e.1 := by
  induction run generalizing w with
  | nil => exact Or.inl member
  | cons e es ih =>
      rcases ih member with first | ⟨later, there, monthly, bucket⟩
      · obtain ⟨now, event⟩ := e
        cases event with
        | rollupMonthly =>
            rcases mem_insertOrReplace first with old | new
            · exact Or.inl old
            · exact Or.inr ⟨_, List.mem_cons_self, rfl, bucket_of_rollup new⟩
        | insertRawMetric m => exact Or.inl first
        | rollupHourly => exact Or.inl first
        | rollupDaily => exact Or.inl first
        | rollupWeekly => exact Or.inl first
        | cleanup => exact Or.inl first
      · exact Or.inr ⟨later, List.mem_cons_of_mem e there, monthly, bucket⟩

end Runs

/-- The row of a series and a month. -/
def DB.monthlyRow (db : DB V) (start : Int) (g : Series) : Option (RollupMetric V) :=
  db.monthly.find? fun r => r.key = (start, g)

/-- The row of a month and a series is what the daily rows of the month sum up to, when there
are any. -/
def Complete [LinearOrder V] (daily : List (RollupMetric V)) (start stop : Int) (db : DB V)
    (g : Series) : Prop :=
  ofSeries start stop g daily ≠ [] →
    ∃ row, db.monthlyRow start g = some row ∧
      row.sampleCount = ((ofSeries start stop g daily).map (·.sampleCount)).sum ∧
      ((ofSeries start stop g daily).map (·.minValue)).min? = some row.minValue ∧
      ((ofSeries start stop g daily).map (·.maxValue)).max? = some row.maxValue

section Months

variable [LinearOrder V] {averages : Averages V}

theorem monthlyRow_rollupMonthly (now : Int) (db : DB V) (g : Series) :
    (rollupMonthly averages now db).monthlyRow (monthStart now) g =
      (rollupRow averages (monthStart now) g
        (ofSeries (monthStart now) (monthEnd now) g db.daily)).or
        (db.monthlyRow (monthStart now) g) := by
  rw [DB.monthlyRow, rollupMonthly, find_insertOrReplace, find_rollup]
  rfl

omit [LinearOrder V] in
theorem ofSeries_filter {start stop : Int} {g : Series} {rows : List (RollupMetric V)}
    {keep : RollupMetric V → Bool} :
    ofSeries start stop g (rows.filter keep) = (ofSeries start stop g rows).filter keep := by
  simp only [ofSeries, within, List.filter_filter]
  refine List.filter_congr ?_
  intro r _
  ac_rfl

omit [LinearOrder V] in
/-- A filter that drops a row which counts something makes the sum smaller. -/
theorem sum_filter_lt {rows : List (RollupMetric V)} {keep : RollupMetric V → Bool}
    {r : RollupMetric V} (member : r ∈ rows) (dropped : keep r = false)
    (counted : 0 < r.sampleCount) :
    ((rows.filter keep).map (·.sampleCount)).sum < (rows.map (·.sampleCount)).sum := by
  have split := ((List.filter_append_perm keep rows).map (·.sampleCount)).sum_eq
  rw [List.map_append, List.sum_append] at split
  have out : r ∈ rows.filter fun r => !keep r := List.mem_filter.mpr ⟨member, by simp [dropped]⟩
  have one : r.sampleCount ≤ ((rows.filter fun r => !keep r).map (·.sampleCount)).sum :=
    List.le_sum_of_mem (List.mem_map_of_mem out)
  omega

/-- A rollup of rows, of which some have been dropped, is complete iff none was. -/
theorem complete_iff_kept {rows : List (RollupMetric V)} {db : DB V} {now : Int} {g : Series}
    {keep : RollupMetric V → Bool} (counted : ∀ r ∈ rows, 0 < r.sampleCount)
    (kept : db.daily = rows.filter keep) (first : db.monthlyRow (monthStart now) g = none) :
    Complete rows (monthStart now) (monthEnd now) (rollupMonthly averages now db) g ↔
      ∀ r ∈ ofSeries (monthStart now) (monthEnd now) g rows, keep r = true := by
  rw [Complete, monthlyRow_rollupMonthly, first, Option.or_none, kept, ofSeries_filter]
  constructor
  · intro complete r member
    by_contra lost
    have dropped : keep r = false := by simpa using lost
    obtain ⟨row, made, count, -⟩ := complete (List.ne_nil_of_mem member)
    obtain ⟨-, -, -, -, -, sum⟩ := rollupRow_eq_some_iff.mp made
    have inside : r ∈ rows := (List.mem_filter.mp (List.mem_filter.mp member).1).1
    have less := sum_filter_lt member dropped (counted r inside)
    omega
  · intro all some_
    rw [List.filter_eq_self.mpr all]
    have nonempty : ∀ view : RollupMetric V → V,
        (ofSeries (monthStart now) (monthEnd now) g rows).map view ≠ [] := by
      intro view empty
      exact some_ (List.map_eq_nil_iff.mp empty)
    obtain ⟨lo, least⟩ := Option.isSome_iff_exists.mp
      (List.isSome_min?_of_ne_nil (nonempty (·.minValue)))
    obtain ⟨hi, greatest⟩ := Option.isSome_iff_exists.mp
      (List.isSome_max?_of_ne_nil (nonempty (·.maxValue)))
    let buckets := ofSeries (monthStart now) (monthEnd now) g rows
    let row : RollupMetric V :=
      { bucketTimestamp := monthStart now, series := g, minValue := lo, maxValue := hi
        avgValue := averages.weighted (buckets.map fun r => (r.avgValue, r.sampleCount))
        sampleCount := (buckets.map (·.sampleCount)).sum }
    refine ⟨row, ?_, rfl, least, greatest⟩
    exact rollupRow_eq_some_iff.mpr ⟨rfl, rfl, least, greatest, rfl, rfl⟩

/-- What the schedule says of the run before a monthly rollup on the first of a month: time
went on, the last cleanup was within the last hour, and the month was not rolled up before. -/
structure Scheduled (averages : Averages V) (clock now : Int) (run : List (Int × Event V)) :
    Prop where
  ordered : Along (go averages) Ordered (World.start clock) run
  before : (run.foldl (go averages) (World.start clock)).clock ≤ now
  hourly : ∃ c, (run.foldl (go averages) (World.start clock)).cleaned = some c ∧ now - 3600 ≤ c
  first : ∀ e ∈ run, e.2 = .rollupMonthly → monthStart e.1 ≠ monthStart now

/-- The monthly rollup at two on the first of a month is complete for every series iff no
daily row lies more than 29 days before the end of its month. -/
theorem monthly_complete_iff {clock now : Int} {run : List (Int × Event V)}
    (scheduled : Scheduled averages clock now run) (first : (dateOf (dayOf now)).day = 1)
    (two : now % 86400 = 7200) :
    let w := run.foldl (go averages) (World.start clock)
    (∀ g, Complete w.written (monthStart now) (monthEnd now) (rollupMonthly averages now w.db) g) ↔
      ∀ r ∈ within (monthStart now) (monthEnd now) w.written,
        monthEnd now - 29 * 86400 ≤ r.bucketTimestamp := by
  intro w
  have sound : Sound w := sound_run (sound_start clock) scheduled.ordered
  obtain ⟨c, cleaned, recent⟩ := scheduled.hourly
  have cleaned : w.cleaned = some c := cleaned
  have past : c ≤ now := (sound.past c cleaned).trans scheduled.before
  have ends : monthEnd now = now - 7200 := by
    rw [monthEnd, firstOfMonth, midnight, first, dayOf]
    omega
  have survives : ∀ r ∈ w.written,
      (Survives w.cleaned r ↔ monthEnd now - 29 * 86400 ≤ r.bucketTimestamp) := by
    intro r member
    have day := sound.days r member
    have limit : Survives w.cleaned r ↔ c - 30 * 86400 ≤ r.bucketTimestamp := by
      rw [Survives, cleaned]
      simp
    rw [limit, ends]
    omega
  have unrolled : ∀ g, w.db.monthlyRow (monthStart now) g = none := by
    intro g
    refine List.find?_eq_none.mpr ?_
    intro r member key
    have bucket : r.bucketTimestamp = monthStart now := congrArg Prod.fst (of_decide_eq_true key)
    rcases mem_monthly member with old | ⟨e, there, monthly, earlier⟩
    · exact nomatch old
    · exact scheduled.first e there monthly (earlier.symm.trans bucket)
  have each := fun g => @complete_iff_kept V _ averages _ _ _ _ _ sound.counts sound.kept (unrolled g)
  constructor
  · intro complete r member
    have inside := (List.mem_filter.mp member).1
    have series : r ∈ ofSeries (monthStart now) (monthEnd now) r.series w.written :=
      List.mem_filter.mpr ⟨member, decide_eq_true rfl⟩
    exact (survives r inside).mp (of_decide_eq_true ((each r.series).mp (complete _) r series))
  · intro young g
    refine (each g).mpr ?_
    intro r member
    have month := (List.mem_filter.mp member).1
    exact decide_eq_true ((survives r (List.mem_filter.mp month).1).mpr (young r month))

end Months

def cpu : Series := ⟨"lab", "node", "pve1", 1⟩

def means : Averages Int where
  plain := fun values => values.sum / values.length
  weighted := fun rows => (rows.map fun r => r.1 * (r.2 : Int)).sum / (rows.map (·.2)).sum

/-- An hour of the service. A sample comes in on the first two days of a month. -/
def serviceHour (month hour : Nat) : List (Int × Event Int) :=
  let start : Int := hour * 3600
  ([(start + 300, .rollupHourly)] : List (Int × Event Int)) ++
    (if hour % 24 = 0 then [(start + 900, .rollupDaily)] else [] : List (Int × Event Int)) ++
    ([(start + 1800, .cleanup)] : List (Int × Event Int)) ++
    (if hour % 24 = 7 ∧ hour / 24 < month + 2 then
      [(start + 2400, .insertRawMetric ⟨start + 2400, cpu, hour⟩)]
    else [] : List (Int × Event Int))

/-- The service from the first day of a month until two on the first of the next one. -/
def serviceMonth (month days : Nat) : List (Int × Event Int) :=
  (List.range (days * 24 + 2)).flatMap fun hour => serviceHour month (month * 24 + hour)

theorem not_monthly {month days : Nat} {e : Int × Event Int}
    (member : e ∈ serviceMonth month days) : e.2 ≠ .rollupMonthly := by
  obtain ⟨hour, -, there⟩ := List.mem_flatMap.mp member
  intro monthly
  simp only [serviceHour, List.mem_append, List.mem_singleton] at there
  rcases there with ((rfl | daily) | rfl) | sample
  · exact nomatch monthly
  · split at daily
    · obtain rfl := List.mem_singleton.mp daily
      exact nomatch monthly
    · exact nomatch daily
  · exact nomatch monthly
  · split at sample
    · obtain rfl := List.mem_singleton.mp sample
      exact nomatch monthly
    · exact nomatch sample

/-- At two on the first of a month. -/
def atTwo (day : Nat) : Int := day * 86400 + 7200

theorem february_scheduled : Scheduled means 0 (atTwo 59) (serviceMonth 31 28) where
  ordered := by decide +kernel
  before := by decide +kernel
  hourly := ⟨59 * 86400 + 5400, by decide +kernel, by decide +kernel⟩
  first := fun _ member monthly => absurd monthly (not_monthly member)

theorem february_complete :
    Scheduled means 0 (atTwo 59) (serviceMonth 31 28) ∧
      ∀ g, Complete ((serviceMonth 31 28).foldl (go means) (World.start 0)).written
        (monthStart (atTwo 59)) (monthEnd (atTwo 59))
        (rollupMonthly means (atTwo 59)
          ((serviceMonth 31 28).foldl (go means) (World.start 0)).db) g := by
  refine ⟨february_scheduled, (monthly_complete_iff february_scheduled ?_ ?_).mpr ?_⟩
  · decide +kernel
  · decide +kernel
  · decide +kernel

/-- Of a month with thirty days the first one is gone. -/
theorem april_incomplete :
    ¬∀ g, Complete ((serviceMonth 90 30).foldl (go means) (World.start 0)).written
      (monthStart (atTwo 120)) (monthEnd (atTwo 120))
      (rollupMonthly means (atTwo 120)
        ((serviceMonth 90 30).foldl (go means) (World.start 0)).db) g := by
  intro complete
  have counts :
      (((rollupMonthly means (atTwo 120)
        ((serviceMonth 90 30).foldl (go means) (World.start 0)).db).monthlyRow
          (monthStart (atTwo 120)) cpu).map (·.sampleCount),
        (ofSeries (monthStart (atTwo 120)) (monthEnd (atTwo 120)) cpu
          ((serviceMonth 90 30).foldl (go means) (World.start 0)).written).map
            (·.sampleCount)) = (some 1, [1, 1]) := by
    decide +kernel
  obtain ⟨stored, written⟩ := Prod.mk.inj counts
  obtain ⟨row, found, sum, -⟩ := complete cpu (fun none => by simp [none] at written)
  rw [found] at stored
  have one : row.sampleCount = 1 := Option.some.inj stored
  rw [written, one] at sum
  exact absurd sum (by decide)

end Metrics
