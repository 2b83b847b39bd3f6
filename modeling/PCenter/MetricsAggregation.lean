import PCenter.Lib.Aggregate
import PCenter.MetricsRollup

/-!
# The rollups of a month and its samples

Values are rational numbers here, and the averages are those that the statements compute. A row
of any of the three levels is to hold what the samples of its time sum up to, although the daily
rows are made from hourly ones and the monthly rows from daily ones.
-/

namespace Metrics

open Aggregate Calendar

/-- `AVG(value)`, and the means of rows weighted with their numbers of samples. -/
def exact : Averages ℚ where
  plain := fun values => values.sum / values.length
  weighted := fun rows =>
    (rows.map fun r => r.1 * (r.2 : ℚ)).sum / ((rows.map (·.2)).sum : ℕ)

inductive Job where
  | rollupHourly
  | rollupDaily
  | rollupWeekly
  | rollupMonthly
  deriving DecidableEq

/-- A job at a time. -/
def perform (db : DB ℚ) : Int × Job → DB ℚ
  | (now, .rollupHourly) => rollupHourly exact now db
  | (now, .rollupDaily) => rollupDaily exact now db
  | (now, .rollupWeekly) => rollupWeekly exact now db
  | (now, .rollupMonthly) => rollupMonthly exact now db

def sampled (raw : List (RawMetric ℚ)) : DB ℚ := ⟨raw, [], [], [], []⟩

/-- The completed hour, as the hourly rollup finds it. -/
def hourStart (now : Int) : Int := now / 3600 * 3600 - 3600

def dayStart (now : Int) : Int := midnight (dayOf now) - 86400

def HourRolled (run : List (Int × Job)) (hour : Int) : Prop :=
  ∃ now, (now, Job.rollupHourly) ∈ run ∧ hourStart now = hour

/-- The day was rolled up after each of its hours. -/
def DayRolled (run : List (Int × Job)) (day : Int) : Prop :=
  ∃ before now after, run = before ++ (now, Job.rollupDaily) :: after ∧ dayStart now = day ∧
    ∀ i : ℕ, i < 24 → HourRolled before (day + i * 3600)

/-- The month was rolled up after each of its days, at the given time. -/
def MonthRolled (run : List (Int × Job)) (now : Int) : Prop :=
  ∃ before after, run = before ++ (now, Job.rollupMonthly) :: after ∧
    ∀ day, 86400 ∣ day → monthStart now ≤ day → day < monthEnd now → DayRolled before day

/-- The row of a bucket and a series. -/
def rowAt (table : List (RollupMetric ℚ)) (bucket : Int) (g : Series) : Option (RollupMetric ℚ) :=
  table.find? fun r => r.key = (bucket, g)

def valuesIn (raw : List (RawMetric ℚ)) (start stop : Int) (g : Series) : List ℚ :=
  ((window RawMetric.timestamp raw start stop).filter fun m => m.series = g).map (·.value)

def rowOf (bucket : Int) (g : Series) (s : Summary ℚ) : RollupMetric ℚ :=
  ⟨bucket, g, s.least, s.greatest, s.mean, s.count⟩

/-- The row that the samples themselves give. -/
def direct (raw : List (RawMetric ℚ)) (start stop : Int) (g : Series) : Option (RollupMetric ℚ) :=
  (summarize (valuesIn raw start stop g)).map (rowOf start g)

def Unique (table : List (RollupMetric ℚ)) : Prop := (table.map RollupMetric.key).Nodup

/-- Every row of a month is what its samples give, and there are no other rows for it. -/
structure Aggregated (db : DB ℚ) (start stop : Int) : Prop where
  unique : Unique db.hourly ∧ Unique db.daily ∧ Unique db.monthly
  hourly : ∀ hour, 3600 ∣ hour → start ≤ hour → hour < stop → ∀ g,
    rowAt db.hourly hour g = direct db.raw hour (hour + 3600) g
  daily : ∀ day, 86400 ∣ day → start ≤ day → day < stop → ∀ g,
    rowAt db.daily day g = direct db.raw day (day + 86400) g
  monthly : ∀ g, rowAt db.monthly start g = direct db.raw start stop g

/-- The job is for an hour of the month, a day of it or the month itself. -/
def ForMonth (start stop : Int) : Int × Job → Prop
  | (now, .rollupHourly) => start ≤ hourStart now ∧ hourStart now < stop
  | (now, .rollupDaily) => start ≤ dayStart now ∧ dayStart now < stop
  | (_, .rollupWeekly) => False
  | (now, .rollupMonthly) => monthStart now = start

/-- The same rows, whatever their order. -/
structure SameRows (db db' : DB ℚ) : Prop where
  raw : db'.raw = db.raw
  hourly : db'.hourly.Perm db.hourly
  daily : db'.daily.Perm db.daily
  weekly : db'.weekly.Perm db.weekly
  monthly : db'.monthly.Perm db.monthly

section Rows

variable {bucket : Int} {g : Series} {table rows : List (RollupMetric ℚ)} {r : RollupMetric ℚ}

def summaryOf (r : RollupMetric ℚ) : Summary ℚ :=
  ⟨r.minValue, r.maxValue, r.avgValue, r.sampleCount⟩

theorem hourlyRow_exact (samples : List (RawMetric ℚ)) :
    hourlyRow exact bucket g samples =
      (summarize (samples.map (·.value))).map (rowOf bucket g) := by
  simp only [hourlyRow, summarize, exact]
  cases (samples.map (·.value)).min? with
  | none => rfl
  | some lo =>
      cases (samples.map (·.value)).max? with
      | none => rfl
      | some hi => simp [rowOf]

theorem rollupRow_exact (rows : List (RollupMetric ℚ)) :
    rollupRow exact bucket g rows = (combine (rows.map summaryOf)).map (rowOf bucket g) := by
  have least : (rows.map summaryOf).map Summary.least = rows.map (·.minValue) := by
    rw [List.map_map]
    rfl
  have greatest : (rows.map summaryOf).map Summary.greatest = rows.map (·.maxValue) := by
    rw [List.map_map]
    rfl
  simp only [rollupRow, combine, least, greatest, exact]
  cases (rows.map (·.minValue)).min? with
  | none => rfl
  | some lo =>
      cases (rows.map (·.maxValue)).max? with
      | none => rfl
      | some hi => simp [rowOf, summaryOf, Function.comp_def]

theorem find_groupBy {R : Type} {series : R → Series}
    {row : Series → List R → Option (RollupMetric ℚ)}
    (keyed : ∀ g l r, row g l = some r → r.key = (bucket, g)) (empty : ∀ g, row g [] = none)
    (l : List R) (g : Series) :
    rowAt (groupBy series row l) bucket g = row g (l.filter fun a => series a = g) := by
  cases made : row g (l.filter fun a => series a = g) with
  | none =>
      apply List.find?_eq_none.mpr
      intro r member key
      obtain ⟨a, -, other⟩ := mem_groupBy member
      have same : series a = g :=
        congrArg Prod.snd ((keyed _ _ _ other).symm.trans (of_decide_eq_true key))
      rw [same, made] at other
      cases other
  | some r =>
      have some_ : l.filter (fun a => series a = g) ≠ [] := by
        intro none_
        rw [none_, empty] at made
        cases made
      obtain ⟨a, inside⟩ := List.exists_mem_of_ne_nil _ some_
      obtain ⟨here, same⟩ := List.mem_filter.mp inside
      have group : g ∈ (l.map series).dedup :=
        List.mem_dedup.mpr (List.mem_map.mpr ⟨a, here, of_decide_eq_true same⟩)
      have member : r ∈ groupBy series row l := List.mem_filterMap.mpr ⟨g, group, made⟩
      have known : (rowAt (groupBy series row l) bucket g).isSome :=
        List.find?_isSome.mpr ⟨r, member, decide_eq_true (keyed g _ r made)⟩
      obtain ⟨other, found⟩ := Option.isSome_iff_exists.mp known
      have key : other.key = (bucket, g) := by simpa using List.find?_some found
      obtain ⟨b, -, also⟩ := mem_groupBy (List.mem_of_find?_eq_some found)
      have series' : series b = g := congrArg Prod.snd ((keyed _ _ _ also).symm.trans key)
      rw [series', made] at also
      rw [found, also]

theorem unique_groupBy {R : Type} {series : R → Series}
    {row : Series → List R → Option (RollupMetric ℚ)}
    (keyed : ∀ g l r, row g l = some r → r.key = (bucket, g)) (l : List R) :
    Unique (groupBy series row l) := by
  rw [Unique, List.Nodup, List.pairwise_map, groupBy, List.pairwise_filterMap]
  apply (List.nodup_dedup (l.map series)).imp
  intro g g' different r made r' made' same
  have keys := (keyed _ _ _ made).symm.trans (same.trans (keyed _ _ _ made'))
  exact different (congrArg Prod.snd keys)

theorem rowAt_eq_some_iff (unique : Unique table) :
    rowAt table bucket g = some r ↔ r ∈ table ∧ r.key = (bucket, g) := by
  constructor
  · intro found
    exact ⟨List.mem_of_find?_eq_some found, by simpa using List.find?_some found⟩
  · rintro ⟨member, key⟩
    have known : (rowAt table bucket g).isSome :=
      List.find?_isSome.mpr ⟨r, member, decide_eq_true key⟩
    obtain ⟨other, found⟩ := Option.isSome_iff_exists.mp known
    have key' : other.key = (bucket, g) := by simpa using List.find?_some found
    have same := List.inj_on_of_nodup_map unique (List.mem_of_find?_eq_some found) member
      (key'.trans key.symm)
    rw [found, same]

theorem Unique.insertOrReplace (unique : Unique table) (fresh : Unique rows) :
    Unique (insertOrReplace table rows) := by
  rw [Unique, Metrics.insertOrReplace, List.map_append]
  apply List.Nodup.append _ fresh
  · intro key old new
    obtain ⟨r, member, rfl⟩ := List.mem_map.mp old
    exact of_decide_eq_true (List.mem_filter.mp member).2 new
  · exact unique.sublist (List.filter_sublist.map _)

theorem insertOrReplace_perm (unique : Unique table) (fresh : Unique rows)
    (all : ∀ r ∈ rows, r ∈ table) : (insertOrReplace table rows).Perm table := by
  have inserted :
      (table.filter fun r => !decide (r.key ∉ rows.map RollupMetric.key)).Perm rows := by
    apply (List.perm_ext_iff_of_nodup (unique.of_map.filter _) fresh.of_map).mpr
    intro r
    constructor
    · intro member
      obtain ⟨old, named⟩ := List.mem_filter.mp member
      have key : r.key ∈ rows.map RollupMetric.key := by simpa using named
      obtain ⟨r', new, same⟩ := List.mem_map.mp key
      exact List.inj_on_of_nodup_map unique (all r' new) old same ▸ new
    · intro new
      exact List.mem_filter.mpr ⟨all r new, by simpa using ⟨r, new, rfl⟩⟩
  rw [insertOrReplace]
  exact (inserted.symm.append_left _).trans (List.filter_append_perm _ table)

end Rows

section Levels

variable {raw : List (RawMetric ℚ)} {table : List (RollupMetric ℚ)} {start stop unit : Int}
  {g : Series}

theorem eq_of_aligned {a b : Int} (left : unit ∣ a) (right : unit ∣ b) (from_ : a ≤ b)
    (to_ : b < a + unit) : b = a := by
  obtain ⟨k, rest⟩ := Int.dvd_sub right left
  have low : 0 ≤ unit * k := by omega
  have high : unit * k < unit := by omega
  have positive : 0 < unit := by omega
  have zero : k = 0 := by
    have first : 0 ≤ k := by
      by_contra negative
      have := Int.mul_le_mul_of_nonneg_left (show k ≤ -1 by omega) (Int.le_of_lt positive)
      omega
    by_contra other
    have := Int.mul_le_mul_of_nonneg_left (show 1 ≤ k by omega) (Int.le_of_lt positive)
    omega
  rw [zero, Int.mul_zero] at rest
  omega

theorem bucket_perm (unique : Unique table) (aligned : ∀ r ∈ table, unit ∣ r.bucketTimestamp)
    (positive : 0 < unit) (begins : unit ∣ start) :
    (window RollupMetric.bucketTimestamp (table.filter fun r => r.series = g) start
      (start + unit)).Perm (rowAt table start g).toList := by
  have distinct : (window RollupMetric.bucketTimestamp (table.filter fun r => r.series = g) start
      (start + unit)).Nodup := (unique.of_map.filter _).filter _
  apply (List.perm_ext_iff_of_nodup distinct ?_).mpr
  · intro r
    rw [mem_window, Option.mem_toList, rowAt_eq_some_iff unique, List.mem_filter,
      decide_eq_true_eq, RollupMetric.key, Prod.mk.injEq]
    constructor
    · rintro ⟨⟨member, series⟩, low, high⟩
      exact ⟨member, eq_of_aligned begins (aligned r member) low high, series⟩
    · rintro ⟨member, bucket, series⟩
      exact ⟨⟨member, series⟩, by omega, by omega⟩
  · cases rowAt table start g with
    | none => exact List.nodup_nil
    | some r => exact List.nodup_singleton r

/-- The rows that a rollup reads are those of the parts of its time. -/
theorem ofSeries_perm (unique : Unique table) (aligned : ∀ r ∈ table, unit ∣ r.bucketTimestamp)
    (positive : 0 < unit) (begins : unit ∣ start) (n : ℕ) :
    (ofSeries start (start + n * unit) g table).Perm
      ((List.range n).filterMap fun i : ℕ => rowAt table (start + i * unit) g) := by
  have rows : ofSeries start (start + n * unit) g table =
      window RollupMetric.bucketTimestamp (table.filter fun r => r.series = g) start
        (start + n * unit) := by
    rw [ofSeries, within, window, List.filter_filter, List.filter_filter]
    apply List.filter_congr
    intro r _
    exact Bool.and_comm _ _
  rw [rows, List.filterMap_eq_flatMap_toList]
  apply (window_perm start unit (by omega) n).trans
  apply List.Perm.flatMap_left
  intro i _
  apply bucket_perm unique aligned positive
  exact Int.dvd_add begins (Int.dvd_mul_left _ _)

theorem valuesIn_perm (begins : 0 ≤ unit) (n : ℕ) :
    (valuesIn raw start (start + n * unit) g).Perm
      ((List.range n).map fun i : ℕ =>
        valuesIn raw (start + i * unit) (start + i * unit + unit) g).flatten := by
  have parts := ((@window_perm _ RawMetric.timestamp raw start unit begins n).filter
    fun m => decide (m.series = g)).map (·.value)
  rw [List.filter_flatMap, List.map_flatMap] at parts
  exact parts

theorem rollupRow_direct (unique : Unique table)
    (aligned : ∀ r ∈ table, unit ∣ r.bucketTimestamp) (positive : 0 < unit) (begins : unit ∣ start)
    (n : ℕ) (rows : ∀ i : ℕ, i < n → rowAt table (start + i * unit) g =
      direct raw (start + i * unit) (start + i * unit + unit) g) :
    rollupRow exact start g (ofSeries start (start + n * unit) g table) =
      direct raw start (start + n * unit) g := by
  have read := (ofSeries_perm (g := g) unique aligned positive begins n).map summaryOf
  have parts : ((List.range n).filterMap fun i : ℕ => rowAt table (start + i * unit) g).map
      summaryOf = ((List.range n).map fun i : ℕ =>
        valuesIn raw (start + i * unit) (start + i * unit + unit) g).filterMap summarize := by
    rw [List.map_filterMap, List.filterMap_map]
    apply List.filterMap_congr
    intro i inside
    rw [rows i (List.mem_range.mp inside), direct, Option.map_map]
    exact congrFun Option.map_id _
  rw [rollupRow_exact, combine_perm read, parts, combine_summarize,
    ← summarize_perm (valuesIn_perm (by omega) n)]
  rfl

end Levels

section Months

variable {n k t t' : Int}

theorem firstOfMonth_le (n : Int) : firstOfMonth n ≤ n := by
  have first := one_le_day n
  unfold firstOfMonth
  omega

theorem firstOfMonth_of_between (low : firstOfMonth n ≤ k) (high : k ≤ n) :
    firstOfMonth k = firstOfMonth n := by
  obtain ⟨j, rfl⟩ : ∃ j : ℕ, k = n - j := ⟨(n - k).toNat, by omega⟩
  induction j with
  | zero => simp
  | succ j ih =>
      have before := ih (by omega) (by omega)
      have later : 1 < (dateOf (n - j)).day := by
        unfold firstOfMonth at before low
        omega
      have day := day_pred later
      have next : n - ((j + 1 : ℕ) : Int) = n - j - 1 := by omega
      rw [next, ← before]
      unfold firstOfMonth
      omega

theorem firstOfMonth_firstOfMonth (n : Int) : firstOfMonth (firstOfMonth n) = firstOfMonth n :=
  firstOfMonth_of_between (Int.le_refl _) (firstOfMonth_le n)

theorem firstOfMonth_le_of_previous
    (same : firstOfPreviousMonth n = firstOfPreviousMonth k) : firstOfMonth n ≤ firstOfMonth k := by
  by_contra later
  unfold firstOfPreviousMonth at same
  have before := firstOfMonth_le (firstOfMonth k - 1)
  have between : firstOfMonth (firstOfMonth k) = firstOfMonth (firstOfMonth n - 1) :=
    firstOfMonth_of_between (by omega) (by omega)
  rw [firstOfMonth_firstOfMonth] at between
  omega

theorem monthEnd_eq_of_monthStart (same : monthStart t = monthStart t') :
    monthEnd t = monthEnd t' := by
  have previous : firstOfPreviousMonth (dayOf t) = firstOfPreviousMonth (dayOf t') := by
    unfold monthStart midnight at same
    omega
  have first := firstOfMonth_le_of_previous previous
  have second := firstOfMonth_le_of_previous previous.symm
  rw [monthEnd, monthEnd, Int.le_antisymm first second]

theorem dvd_monthStart (t : Int) : 86400 ∣ monthStart t := Int.dvd_mul_left _ _

theorem dvd_monthEnd (t : Int) : 86400 ∣ monthEnd t := Int.dvd_mul_left _ _

end Months

section Jobs

variable {raw : List (RawMetric ℚ)} {db : DB ℚ} {start stop hour day now : Int} {g : Series}
  {table rows : List (RollupMetric ℚ)} {r : RollupMetric ℚ}

theorem isSome_direct_iff : (direct raw start stop g).isSome ↔
    ∃ m ∈ raw, m.series = g ∧ start ≤ m.timestamp ∧ m.timestamp < stop := by
  rw [direct, Option.isSome_map, Option.isSome_iff_ne_none, Ne, summarize_eq_none_iff, valuesIn,
    List.map_eq_nil_iff, List.filter_eq_nil_iff]
  constructor
  · intro some_
    by_contra none_
    refine some_ fun m member series => none_ ?_
    obtain ⟨inside, low, high⟩ := mem_window.mp member
    exact ⟨m, inside, of_decide_eq_true series, low, high⟩
  · rintro ⟨m, inside, series, low, high⟩ none_
    exact none_ m (mem_window.mpr ⟨inside, low, high⟩) (decide_eq_true series)

/-- What the hourly rollup inserts. -/
def hourlyRows (raw : List (RawMetric ℚ)) (now : Int) : List (RollupMetric ℚ) :=
  groupBy (·.series) (hourlyRow exact (hourStart now))
    (window RawMetric.timestamp raw (hourStart now) (hourStart now + 3600))

theorem rollupHourly_eq :
    rollupHourly exact now db =
      { db with hourly := insertOrReplace db.hourly (hourlyRows db.raw now) } := by
  have stop : hourStart now + 3600 = now / 3600 * 3600 := by
    unfold hourStart
    omega
  rw [hourlyRows, stop]
  rfl

theorem key_hourlyRow {samples : List (RawMetric ℚ)}
    (made : hourlyRow exact start g samples = some r) : r.key = (start, g) := by
  rw [hourlyRow_exact, Option.map_eq_some_iff] at made
  obtain ⟨s, -, rfl⟩ := made
  rfl

theorem key_rollupRow (made : rollupRow exact start g rows = some r) : r.key = (start, g) := by
  obtain ⟨bucket, series, -⟩ := rollupRow_eq_some_iff.mp made
  rw [RollupMetric.key, bucket, series]

theorem unique_hourlyRows : Unique (hourlyRows raw now) :=
  unique_groupBy (fun _ _ _ made => key_hourlyRow made) _

theorem unique_rollup : Unique (rollup exact start stop rows) :=
  unique_groupBy (fun _ _ _ made => key_rollupRow made) _

theorem rowAt_hourlyRows :
    rowAt (hourlyRows raw now) (hourStart now) g =
      direct raw (hourStart now) (hourStart now + 3600) g := by
  rw [hourlyRows, find_groupBy (fun _ _ _ made => key_hourlyRow made) (fun _ => rfl),
    hourlyRow_exact]
  rfl

theorem rowAt_rollup :
    rowAt (rollup exact start stop rows) start g =
      rollupRow exact start g (ofSeries start stop g rows) := find_rollup g

theorem direct_of_mem_hourlyRows (member : r ∈ hourlyRows raw now) :
    r.bucketTimestamp = hourStart now ∧
      direct raw (hourStart now) (hourStart now + 3600) r.series = some r := by
  obtain ⟨m, -, made⟩ := mem_groupBy member
  have key := key_hourlyRow made
  have bucket : r.bucketTimestamp = hourStart now := congrArg Prod.fst key
  refine ⟨bucket, ?_⟩
  rw [← rowAt_hourlyRows]
  exact (rowAt_eq_some_iff unique_hourlyRows).mpr ⟨member, by rw [RollupMetric.key, bucket]⟩

theorem rowAt_insertOrReplace : rowAt (insertOrReplace table rows) start g =
    (rowAt rows start g).or (rowAt table start g) := find_insertOrReplace _

theorem rowAt_insertOrReplace_of_ne (all : ∀ r ∈ rows, r.bucketTimestamp = stop)
    (other : start ≠ stop) : rowAt (insertOrReplace table rows) start g = rowAt table start g := by
  have none_ : rowAt rows start g = none := by
    apply List.find?_eq_none.mpr
    intro r member key
    exact other ((congrArg Prod.fst (of_decide_eq_true key)).symm.trans (all r member))
  rw [rowAt_insertOrReplace, none_, Option.none_or]

/-- What a database keeps in any run: its rows come from samples of their times. -/
structure Faithful (raw : List (RawMetric ℚ)) (db : DB ℚ) : Prop where
  samples : db.raw = raw
  unique : Unique db.hourly ∧ Unique db.daily ∧ Unique db.monthly
  hourly : ∀ r ∈ db.hourly, 3600 ∣ r.bucketTimestamp ∧
    direct raw r.bucketTimestamp (r.bucketTimestamp + 3600) r.series = some r
  daily : ∀ r ∈ db.daily, 86400 ∣ r.bucketTimestamp ∧
    (direct raw r.bucketTimestamp (r.bucketTimestamp + 86400) r.series).isSome
  monthly : ∀ r ∈ db.monthly, ∃ t, monthStart t = r.bucketTimestamp ∧
    (direct raw (monthStart t) (monthEnd t) r.series).isSome

theorem faithful_sampled : Faithful raw (sampled raw) where
  samples := rfl
  unique := ⟨List.nodup_nil, List.nodup_nil, List.nodup_nil⟩
  hourly := List.forall_mem_nil _
  daily := List.forall_mem_nil _
  monthly := List.forall_mem_nil _

theorem Faithful.rollupHourly (faithful : Faithful raw db) :
    Faithful raw (rollupHourly exact now db) := by
  rw [rollupHourly_eq]
  refine { faithful with unique := ⟨?_, faithful.unique.2⟩, hourly := ?_ }
  · exact faithful.unique.1.insertOrReplace unique_hourlyRows
  · intro r member
    rcases mem_insertOrReplace member with old | new
    · exact faithful.hourly r old
    · rw [faithful.samples] at new
      obtain ⟨bucket, made⟩ := direct_of_mem_hourlyRows new
      rw [bucket]
      exact ⟨by unfold hourStart; omega, made⟩

/-- A row that a rollup makes comes from a row of its time. -/
theorem source_of_rollup (member : r ∈ rollup exact start stop rows) :
    r.bucketTimestamp = start ∧ ∃ a ∈ rows, a.series = r.series ∧ start ≤ a.bucketTimestamp ∧
      a.bucketTimestamp < stop := by
  obtain ⟨a, inside, made⟩ := mem_groupBy member
  obtain ⟨here, bounds⟩ := List.mem_filter.mp inside
  obtain ⟨bucket, series, -⟩ := rollupRow_eq_some_iff.mp made
  exact ⟨bucket, a, here, series.symm, of_decide_eq_true bounds⟩

theorem Faithful.rollupDaily (faithful : Faithful raw db) :
    Faithful raw (rollupDaily exact now db) := by
  refine { faithful with
    unique := ⟨faithful.unique.1, ?_, faithful.unique.2.2⟩, daily := ?_ }
  · exact faithful.unique.2.1.insertOrReplace unique_rollup
  · intro r member
    rcases mem_insertOrReplace member with old | new
    · exact faithful.daily r old
    · obtain ⟨bucket, a, row, series, low, high⟩ := source_of_rollup new
      obtain ⟨aligned, made⟩ := faithful.hourly a row
      obtain ⟨m, sample, own, from_, until_⟩ :=
        isSome_direct_iff.mp (Option.isSome_of_eq_some made)
      unfold midnight at *
      refine ⟨by omega, isSome_direct_iff.mpr ⟨m, sample, own.trans series, ?_, ?_⟩⟩
      · omega
      · omega

theorem Faithful.rollupMonthly (faithful : Faithful raw db) :
    Faithful raw (rollupMonthly exact now db) := by
  refine { faithful with
    unique := ⟨faithful.unique.1, faithful.unique.2.1, ?_⟩, monthly := ?_ }
  · exact faithful.unique.2.2.insertOrReplace unique_rollup
  · intro r member
    rcases mem_insertOrReplace member with old | new
    · exact faithful.monthly r old
    · obtain ⟨bucket, a, row, series, low, high⟩ := source_of_rollup new
      obtain ⟨aligned, made⟩ := faithful.daily a row
      obtain ⟨m, sample, own, from_, until_⟩ := isSome_direct_iff.mp made
      have ends := dvd_monthEnd now
      refine ⟨now, bucket.symm, isSome_direct_iff.mpr ⟨m, sample, own.trans series, ?_, ?_⟩⟩
      · omega
      · omega

theorem Faithful.perform (faithful : Faithful raw db) (e : Int × Job) :
    Faithful raw (perform db e) := by
  obtain ⟨now, job⟩ := e
  cases job with
  | rollupHourly => exact faithful.rollupHourly
  | rollupDaily => exact faithful.rollupDaily
  | rollupWeekly => exact { faithful with }
  | rollupMonthly => exact faithful.rollupMonthly

end Jobs

section Done

variable {raw : List (RawMetric ℚ)} {db : DB ℚ} {start stop hour day now : Int} {g : Series}
  {table rows : List (RollupMetric ℚ)} {run : List (Int × Job)} {e : Int × Job}

def HourDone (raw : List (RawMetric ℚ)) (db : DB ℚ) (hour : Int) : Prop :=
  ∀ g, rowAt db.hourly hour g = direct raw hour (hour + 3600) g

structure DayDone (raw : List (RawMetric ℚ)) (db : DB ℚ) (day : Int) : Prop where
  hours : ∀ i : ℕ, i < 24 → HourDone raw db (day + i * 3600)
  row : ∀ g, rowAt db.daily day g = direct raw day (day + 86400) g

structure MonthDone (raw : List (RawMetric ℚ)) (db : DB ℚ) (start stop : Int) : Prop where
  days : ∀ day, 86400 ∣ day → start ≤ day → day < stop → DayDone raw db day
  row : ∀ g, rowAt db.monthly start g = direct raw start stop g

theorem rowAt_of_new {value : Option (RollupMetric ℚ)} (new : rowAt rows start g = value)
    (old : ∀ r, rowAt table start g = some r → value.isSome) :
    rowAt (insertOrReplace table rows) start g = value := by
  rw [rowAt_insertOrReplace, new]
  cases value with
  | some r => rfl
  | none =>
      rw [Option.none_or]
      cases held : rowAt table start g with
      | none => rfl
      | some r => cases old r held

theorem hourDone_rollupHourly (faithful : Faithful raw db) :
    HourDone raw (rollupHourly exact now db) (hourStart now) := by
  intro g
  rw [rollupHourly_eq, faithful.samples]
  apply rowAt_of_new rowAt_hourlyRows
  intro r held
  obtain ⟨member, key⟩ := (rowAt_eq_some_iff faithful.unique.1).mp held
  obtain ⟨bucket, series⟩ := Prod.mk.inj key
  have made := (faithful.hourly r member).2
  rw [bucket, series] at made
  exact Option.isSome_of_eq_some made

theorem HourDone.perform (faithful : Faithful raw db) (done : HourDone raw db hour) :
    HourDone raw (perform db e) hour := by
  obtain ⟨now, job⟩ := e
  cases job with
  | rollupHourly =>
      by_cases same : hour = hourStart now
      · subst same
        exact hourDone_rollupHourly faithful
      · intro g
        rw [← done g, Metrics.perform, rollupHourly_eq]
        exact rowAt_insertOrReplace_of_ne
          (fun r member => (direct_of_mem_hourlyRows member).1) same
  | rollupDaily => exact done
  | rollupWeekly => exact done
  | rollupMonthly => exact done

/-- What the daily rollup inserts, after the hours of the day. -/
theorem rowAt_dailyRows (faithful : Faithful raw db)
    (hours : ∀ i : ℕ, i < 24 → HourDone raw db (dayStart now + i * 3600)) (g : Series) :
    rowAt (dailyRows exact now db) (dayStart now) g =
      direct raw (dayStart now) (dayStart now + 86400) g := by
  have begins : (3600 : Int) ∣ dayStart now := by
    unfold dayStart midnight
    omega
  have rows := rollupRow_direct faithful.unique.1 (fun r member => (faithful.hourly r member).1)
    (by decide) begins 24 fun i inside => hours i inside g
  have stop : dayStart now + (24 : ℕ) * 3600 = midnight (dayOf now) := by
    unfold dayStart
    omega
  have length : dayStart now + 86400 = midnight (dayOf now) := by
    unfold dayStart
    omega
  rw [stop] at rows
  rw [length]
  exact rowAt_rollup.trans rows

theorem dayDone_rollupDaily (faithful : Faithful raw db)
    (hours : ∀ i : ℕ, i < 24 → HourDone raw db (dayStart now + i * 3600)) :
    DayDone raw (rollupDaily exact now db) (dayStart now) := by
  refine ⟨hours, fun g => ?_⟩
  apply rowAt_of_new (rowAt_dailyRows faithful hours g)
  intro r held
  obtain ⟨member, key⟩ := (rowAt_eq_some_iff faithful.unique.2.1).mp held
  obtain ⟨bucket, series⟩ := Prod.mk.inj key
  have made := (faithful.daily r member).2
  rw [bucket, series] at made
  exact made

theorem DayDone.perform (faithful : Faithful raw db) (done : DayDone raw db day) :
    DayDone raw (perform db e) day := by
  have hours : ∀ i : ℕ, i < 24 → HourDone raw (Metrics.perform db e) (day + i * 3600) :=
    fun i inside => (done.hours i inside).perform faithful
  obtain ⟨now, job⟩ := e
  cases job with
  | rollupHourly =>
      refine ⟨hours, fun g => ?_⟩
      rw [← done.row g, Metrics.perform, rollupHourly_eq]
  | rollupDaily =>
      by_cases same : day = dayStart now
      · subst same
        exact dayDone_rollupDaily faithful done.hours
      · refine ⟨hours, fun g => ?_⟩
        rw [← done.row g]
        exact rowAt_insertOrReplace_of_ne (fun r member => (source_of_rollup member).1) same
  | rollupWeekly => exact ⟨hours, done.row⟩
  | rollupMonthly => exact ⟨hours, done.row⟩

/-- What the monthly rollup inserts, after the days of the month. -/
theorem rowAt_monthlyRows (faithful : Faithful raw db)
    (days : ∀ day, 86400 ∣ day → monthStart now ≤ day → day < monthEnd now → DayDone raw db day)
    (g : Series) :
    rowAt (rollup exact (monthStart now) (monthEnd now) db.daily) (monthStart now) g =
      direct raw (monthStart now) (monthEnd now) g := by
  have begins := dvd_monthStart now
  have ends := dvd_monthEnd now
  have forward : monthStart now ≤ monthEnd now := by
    have first := firstOfMonth_le (firstOfMonth (dayOf now) - 1)
    unfold monthStart monthEnd midnight firstOfPreviousMonth
    omega
  obtain ⟨n, length⟩ : ∃ n : ℕ, monthEnd now = monthStart now + n * 86400 :=
    ⟨((monthEnd now - monthStart now) / 86400).toNat, by omega⟩
  have rows := @rollupRow_direct raw db.daily (monthStart now) 86400 g faithful.unique.2.1
    (fun r member => (faithful.daily r member).1) (by decide) begins n fun i inside =>
      (days _ (by omega) (by omega) (by omega)).row g
  rw [← length] at rows
  exact rowAt_rollup.trans rows

theorem monthDone_rollupMonthly (faithful : Faithful raw db)
    (days : ∀ day, 86400 ∣ day → monthStart now ≤ day → day < monthEnd now → DayDone raw db day) :
    MonthDone raw (rollupMonthly exact now db) (monthStart now) (monthEnd now) := by
  refine ⟨fun day aligned low high => ⟨(days day aligned low high).hours,
    (days day aligned low high).row⟩, fun g => ?_⟩
  apply rowAt_of_new (rowAt_monthlyRows faithful days g)
  intro r held
  obtain ⟨member, key⟩ := (rowAt_eq_some_iff faithful.unique.2.2).mp held
  obtain ⟨bucket, series⟩ := Prod.mk.inj key
  obtain ⟨t, begun, made⟩ := faithful.monthly r member
  have same : monthStart t = monthStart now := begun.trans bucket
  rw [monthEnd_eq_of_monthStart same, same, series] at made
  exact made

theorem MonthDone.perform (faithful : Faithful raw db)
    (done : MonthDone raw db (monthStart now) (monthEnd now)) :
    MonthDone raw (perform db e) (monthStart now) (monthEnd now) := by
  have days : ∀ day, 86400 ∣ day → monthStart now ≤ day → day < monthEnd now →
      DayDone raw (Metrics.perform db e) day :=
    fun day aligned low high => (done.days day aligned low high).perform faithful
  obtain ⟨t, job⟩ := e
  cases job with
  | rollupHourly =>
      refine ⟨days, fun g => ?_⟩
      rw [← done.row g, Metrics.perform, rollupHourly_eq]
  | rollupDaily => exact ⟨days, done.row⟩
  | rollupWeekly => exact ⟨days, done.row⟩
  | rollupMonthly =>
      by_cases same : monthStart now = monthStart t
      · have ends := monthEnd_eq_of_monthStart same
        rw [same, ends] at done ⊢
        exact monthDone_rollupMonthly faithful done.days
      · refine ⟨days, fun g => ?_⟩
        rw [← done.row g]
        exact rowAt_insertOrReplace_of_ne (fun r member => (source_of_rollup member).1) same

/-- A rollup whose rows are in the table writes nothing new. -/
theorem insertOrReplace_perm_of_agree (unique : Unique table) (fresh : Unique rows)
    (all : ∀ r ∈ rows, r.bucketTimestamp = start)
    (agree : ∀ g, rowAt rows start g = rowAt table start g) :
    (insertOrReplace table rows).Perm table := by
  apply insertOrReplace_perm unique fresh
  intro r member
  have key : r.key = (start, r.series) := by rw [RollupMetric.key, all r member]
  have held : rowAt rows start r.series = some r := (rowAt_eq_some_iff fresh).mpr ⟨member, key⟩
  rw [agree] at held
  exact ((rowAt_eq_some_iff unique).mp held).1

theorem MonthDone.hourDone (done : MonthDone raw db start stop) (begins : 86400 ∣ start)
    (ends : 86400 ∣ stop) (aligned : 3600 ∣ hour) (low : start ≤ hour) (high : hour < stop) :
    HourDone raw db hour := by
  have day := done.days (hour / 86400 * 86400) (Int.dvd_mul_left _ _) (by omega) (by omega)
  have place : hour = hour / 86400 * 86400 + ((hour % 86400 / 3600).toNat : ℕ) * 3600 := by
    omega
  rw [place]
  exact day.hours _ (by omega)

theorem MonthDone.sameRows (faithful : Faithful raw db)
    (done : MonthDone raw db (monthStart now) (monthEnd now))
    (forMonth : ForMonth (monthStart now) (monthEnd now) e) :
    SameRows db (Metrics.perform db e) := by
  obtain ⟨t, job⟩ := e
  cases job with
  | rollupHourly =>
      have aligned : (3600 : Int) ∣ hourStart t := by
        unfold hourStart
        omega
      have hour :=
        done.hourDone (dvd_monthStart now) (dvd_monthEnd now) aligned forMonth.1 forMonth.2
      rw [Metrics.perform, rollupHourly_eq, faithful.samples]
      refine ⟨faithful.samples.symm, ?_, List.Perm.refl _, List.Perm.refl _, List.Perm.refl _⟩
      exact insertOrReplace_perm_of_agree faithful.unique.1 unique_hourlyRows
        (fun r member => (direct_of_mem_hourlyRows member).1)
        fun g => rowAt_hourlyRows.trans (hour g).symm
  | rollupDaily =>
      have aligned : (86400 : Int) ∣ dayStart t := by
        unfold dayStart midnight
        omega
      have day := done.days (dayStart t) aligned forMonth.1 forMonth.2
      refine ⟨rfl, List.Perm.refl _, ?_, List.Perm.refl _, List.Perm.refl _⟩
      exact insertOrReplace_perm_of_agree faithful.unique.2.1 unique_rollup
        (fun r member => (source_of_rollup member).1)
        fun g => (rowAt_dailyRows faithful day.hours g).trans (day.row g).symm
  | rollupWeekly => exact forMonth.elim
  | rollupMonthly =>
      have same : monthStart now = monthStart t := forMonth.symm
      rw [same, monthEnd_eq_of_monthStart same] at done
      refine ⟨rfl, List.Perm.refl _, List.Perm.refl _, List.Perm.refl _, ?_⟩
      exact insertOrReplace_perm_of_agree faithful.unique.2.2 unique_rollup
        (fun r member => (source_of_rollup member).1)
        fun g => (rowAt_monthlyRows faithful done.days g).trans (done.row g).symm

end Done

section Runs

variable {raw : List (RawMetric ℚ)} {run : List (Int × Job)} {now hour day : Int}

theorem faithful_run (raw : List (RawMetric ℚ)) (run : List (Int × Job)) :
    Faithful raw (run.foldl perform (sampled raw)) :=
  Transition.invariant_foldl (P := Faithful raw) (fun _ e faithful => faithful.perform e)
    faithful_sampled run

/-- What a job brings about and no job undoes. -/
theorem kept_later {P : DB ℚ → Prop} (kept : ∀ db e, Faithful raw db → P db → P (perform db e))
    {db : DB ℚ} (faithful : Faithful raw db) (holds : P db) (later : List (Int × Job)) :
    P (later.foldl perform db) := by
  have step : ∀ t e, Faithful raw t ∧ P t → Faithful raw (perform t e) ∧ P (perform t e) :=
    fun t e both => ⟨both.1.perform e, kept t e both.1 both.2⟩
  have both := Transition.invariant_foldl step ⟨faithful, holds⟩ later
  exact both.2

theorem hourDone_of_rolled (rolled : HourRolled run hour) :
    HourDone raw (run.foldl perform (sampled raw)) hour := by
  obtain ⟨now, member, rfl⟩ := rolled
  obtain ⟨before, after, rfl⟩ := List.append_of_mem member
  have faithful := faithful_run raw before
  rw [List.foldl_append, List.foldl_cons]
  apply kept_later (P := fun db => HourDone raw db (hourStart now)) _ (faithful.perform _)
  · exact hourDone_rollupHourly faithful
  · exact fun _ _ faithful done => done.perform faithful

theorem dayDone_of_rolled (rolled : DayRolled run day) :
    DayDone raw (run.foldl perform (sampled raw)) day := by
  obtain ⟨before, now, after, rfl, rfl, hours⟩ := rolled
  have faithful := faithful_run raw before
  rw [List.foldl_append, List.foldl_cons]
  apply kept_later (P := fun db => DayDone raw db (dayStart now)) _ (faithful.perform _)
  · exact dayDone_rollupDaily faithful fun i inside => hourDone_of_rolled (hours i inside)
  · exact fun _ _ faithful done => done.perform faithful

theorem monthDone_of_rolled (rolled : MonthRolled run now) :
    MonthDone raw (run.foldl perform (sampled raw)) (monthStart now) (monthEnd now) := by
  obtain ⟨before, after, rfl, days⟩ := rolled
  have faithful := faithful_run raw before
  rw [List.foldl_append, List.foldl_cons]
  apply kept_later (P := fun db => MonthDone raw db (monthStart now) (monthEnd now)) _
    (faithful.perform _)
  · exact monthDone_rollupMonthly faithful fun day aligned low high =>
      dayDone_of_rolled (days day aligned low high)
  · exact fun _ _ faithful done => done.perform faithful

/-- After the rollups of its hours, of its days and then of itself, the rows of a month are what
the samples give, and a second rollup of any of them changes nothing. -/
theorem rollups_aggregate_samples (raw : List (RawMetric ℚ))
    (rolled : MonthRolled run now) :
    Aggregated (run.foldl perform (sampled raw)) (monthStart now) (monthEnd now) ∧
      ∀ e, ForMonth (monthStart now) (monthEnd now) e →
        SameRows (run.foldl perform (sampled raw))
          (perform (run.foldl perform (sampled raw)) e) := by
  have faithful := faithful_run raw run
  have done : MonthDone raw (run.foldl perform (sampled raw)) (monthStart now) (monthEnd now) :=
    monthDone_of_rolled rolled
  refine ⟨⟨faithful.unique, ?_, ?_, ?_⟩, fun e forMonth => done.sameRows faithful forMonth⟩
  · intro hour aligned low high g
    rw [faithful.samples]
    exact done.hourDone (dvd_monthStart now) (dvd_monthEnd now) aligned low high g
  · intro day aligned low high g
    rw [faithful.samples]
    exact (done.days day aligned low high).row g
  · intro g
    rw [faithful.samples]
    exact done.row g

/-- The hours of a day five minutes later each, and then the day. -/
def dayRun (day : Int) : List (Int × Job) :=
  (List.range 24).map (fun i : ℕ => (day + i * 3600 + 3900, Job.rollupHourly)) ++
    [(day + 87300, Job.rollupDaily)]

/-- The days from the given one on, and then the month. -/
def monthRun (start : Int) (days : ℕ) (now : Int) : List (Int × Job) :=
  (List.range days).flatMap (fun i : ℕ => dayRun (start + i * 86400)) ++
    [(now, Job.rollupMonthly)]

theorem dayRolled_dayRun (aligned : 86400 ∣ day) (before after : List (Int × Job)) :
    DayRolled (before ++ dayRun day ++ after) day := by
  refine ⟨before ++ (List.range 24).map (fun i : ℕ => (day + i * 3600 + 3900, Job.rollupHourly)),
    day + 87300, after, by simp [dayRun], ?_, ?_⟩
  · unfold dayStart midnight dayOf
    omega
  · intro i inside
    refine ⟨day + i * 3600 + 3900, List.mem_append_right before ?_, ?_⟩
    · exact List.mem_map.mpr ⟨i, List.mem_range.mpr inside, rfl⟩
    · unfold hourStart
      omega

/-- The jobs as they are scheduled roll the month up. -/
theorem monthRolled_monthRun {days : ℕ} (length : monthEnd now = monthStart now + days * 86400) :
    MonthRolled (monthRun (monthStart now) days now) now := by
  refine ⟨_, [], rfl, fun day aligned low high => ?_⟩
  have begins := dvd_monthStart now
  obtain ⟨i, place⟩ : ∃ i : ℕ, day = monthStart now + i * 86400 :=
    ⟨((day - monthStart now) / 86400).toNat, by omega⟩
  have inside : i ∈ List.range days := List.mem_range.mpr (by omega)
  obtain ⟨before, after, split⟩ := List.append_of_mem inside
  rw [split, List.flatMap_append, List.flatMap_cons, ← List.append_assoc, ← place]
  exact dayRolled_dayRun aligned _ _

end Runs

/-- Two samples of one series, on the first and on the last day of a February. -/
def februarySamples : List (RawMetric ℚ) :=
  [⟨31 * 86400 + 60, cpu, 1 / 3⟩, ⟨59 * 86400 - 60, cpu, 2⟩]

theorem february_aggregated :
    let db := (monthRun (monthStart (atTwo 59)) 28 (atTwo 59)).foldl perform
      (sampled februarySamples)
    Aggregated db (monthStart (atTwo 59)) (monthEnd (atTwo 59)) ∧
      ∀ e, ForMonth (monthStart (atTwo 59)) (monthEnd (atTwo 59)) e → SameRows db (perform db e) :=
  rollups_aggregate_samples februarySamples (monthRolled_monthRun (by decide +kernel))

example : (direct februarySamples (monthStart (atTwo 59)) (monthEnd (atTwo 59)) cpu).map
    (fun r => (r.minValue, r.maxValue, r.avgValue, r.sampleCount)) =
      some (1 / 3, 2, 7 / 6, 2) := by
  decide +kernel

end Metrics
