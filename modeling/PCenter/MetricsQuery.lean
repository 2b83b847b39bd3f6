import Mathlib.Algebra.Ring.Rat
import Mathlib.Data.Prod.Lex
import Mathlib.Data.String.Basic
import PCenter.Lib.Gather
import PCenter.Lib.MapOrder
import PCenter.Lib.Traverse
import PCenter.MetricsRollup

/-!
# Queries of metrics

`QueryService` groups the rows that match a query into series. The rows of a table are told
apart by cluster, type, id and metric, but the key of a series is made of the id, the type and
the name of the metric alone: a query over several clusters draws resources of one name into
one series. Rows that the order of a query leaves tied come in an order of their own, and so do
the series. Times are in nanoseconds, and failures of the database are left out.
-/

namespace Metrics

open FiniteMap

structure MetricType where
  id : Nat
  name : String
  unit : String
  deriving DecidableEq, Repr

def metricTypes : List MetricType :=
  [⟨1, "cpu", "percent"⟩, ⟨2, "mem", "bytes"⟩, ⟨3, "mem_percent", "percent"⟩,
    ⟨4, "disk", "bytes"⟩, ⟨5, "disk_percent", "percent"⟩, ⟨6, "netin", "bytes_per_sec"⟩,
    ⟨7, "netout", "bytes_per_sec"⟩, ⟨8, "diskread", "bytes_per_sec"⟩,
    ⟨9, "diskwrite", "bytes_per_sec"⟩, ⟨10, "swap", "bytes"⟩, ⟨11, "swap_percent", "percent"⟩,
    ⟨12, "loadavg_1m", "ratio"⟩, ⟨13, "loadavg_5m", "ratio"⟩, ⟨14, "loadavg_15m", "ratio"⟩,
    ⟨15, "uptime", "seconds"⟩, ⟨16, "ceph_used", "bytes"⟩, ⟨17, "ceph_avail", "bytes"⟩,
    ⟨18, "ceph_health", "enum"⟩, ⟨19, "pgpgin", "pages_per_sec"⟩,
    ⟨20, "pgpgout", "pages_per_sec"⟩]

/-- The id is zero where there is no such metric. -/
def metricTypeByName (name : String) : Nat :=
  ((metricTypes.find? (·.name = name)).map (·.id)).getD 0

def metricTypeByID (id : Nat) : Option MetricType := metricTypes.find? (·.id = id)

structure MetricQuery where
  cluster : String
  resourceType : String
  resourceID : String
  metricTypes : List String
  startTime : Int
  endTime : Int
  resolution : String

structure MetricDataPoint (V : Type) where
  timestamp : Int
  value : V
  min : V
  max : V
  deriving DecidableEq

structure MetricSeries (V : Type) where
  metric : String
  resourceID : String
  unit : String
  data : List (MetricDataPoint V)
  deriving DecidableEq

structure MetricsMeta where
  start : Int
  stop : Int
  resolution : String
  pointCount : Nat

structure MetricsResponse (V : Type) where
  series : List (MetricSeries V)
  info : MetricsMeta

inductive Table where
  | raw
  | hourly
  | daily
  | weekly
  | monthly
  deriving DecidableEq

def Table.resolution : Table → String
  | .raw => "raw"
  | .hourly => "hourly"
  | .daily => "daily"
  | .weekly => "weekly"
  | .monthly => "monthly"

/-- A resolution that is none of these is chosen by the duration. -/
def selectTable (resolution : String) (duration : Int) : Table :=
  let hour : Int := 3600 * 10 ^ 9
  if resolution = "raw" then .raw
  else if resolution = "hourly" then .hourly
  else if resolution = "daily" then .daily
  else if resolution = "weekly" then .weekly
  else if resolution = "monthly" then .monthly
  else if duration ≤ 6 * hour then .raw
  else if duration ≤ 3 * 24 * hour then .hourly
  else if duration ≤ 30 * 24 * hour then .daily
  else if duration ≤ 365 * 24 * hour then .weekly
  else .monthly

/-- The table of a query by its times. -/
def MetricQuery.table (q : MetricQuery) : Table :=
  selectTable q.resolution (q.endTime - q.startTime)

/-- The ids of the metrics of a query, without names that are unknown. -/
def MetricQuery.metricTypeIDs (q : MetricQuery) : List Nat :=
  (q.metricTypes.map metricTypeByName).filter (0 < ·)

/-- `Time.Unix` -/
def unix (time : Int) : Int := time / 10 ^ 9

variable {V : Type}

/-- A row as it is scanned. -/
structure Row (V : Type) where
  ts : Int
  series : Series
  value : V
  minVal : V
  maxVal : V

def RawMetric.scan (m : RawMetric V) : Row V :=
  { ts := m.timestamp, series := m.series, value := m.value, minVal := m.value, maxVal := m.value }

def RollupMetric.scan (r : RollupMetric V) : Row V :=
  { ts := r.bucketTimestamp, series := r.series, value := r.avgValue, minVal := r.minValue
    maxVal := r.maxValue }

def DB.rows (db : DB V) : Table → List (Row V)
  | .raw => db.raw.map RawMetric.scan
  | .hourly => db.hourly.map RollupMetric.scan
  | .daily => db.daily.map RollupMetric.scan
  | .weekly => db.weekly.map RollupMetric.scan
  | .monthly => db.monthly.map RollupMetric.scan

/-- The `WHERE` clause of a query for metrics by their ids. -/
def MetricQuery.selects (q : MetricQuery) (metricTypeIDs : List Nat) (r : Row V) : Bool :=
  unix q.startTime ≤ r.ts && r.ts < unix q.endTime &&
    (q.cluster == "" || r.series.cluster == q.cluster) &&
    (q.resourceType == "" || r.series.resourceType == q.resourceType) &&
    (q.resourceID == "" || q.resourceID == "all" || r.series.resourceID == q.resourceID) &&
    (metricTypeIDs.isEmpty || metricTypeIDs.contains r.series.metricTypeID)

/-- `ORDER BY resource_id, metric_type_id, timestamp` -/
def Row.place (r : Row V) : String ×ₗ Nat ×ₗ Int :=
  toLex (r.series.resourceID, toLex (r.series.metricTypeID, r.ts))

def DB.matching (db : DB V) (table : Table) (q : MetricQuery) (metricTypeIDs : List Nat) :
    List (Row V) :=
  (db.rows table).filter (q.selects metricTypeIDs)

/-- The rows that the database answers with. -/
def DB.answer (db : DB V) (ties : Order (Row V)) (table : Table) (q : MetricQuery)
    (metricTypeIDs : List Nat) : List (Row V) :=
  (ties.arrange (db.matching table q metricTypeIDs)).mergeSort
    fun r r' => decide (r.place ≤ r'.place)

/-- `fmt.Sprintf("%s:%s:%s", resourceID, resourceType, mt.Name)` -/
def seriesKey (g : Series) : Option String :=
  (metricTypeByID g.metricTypeID).map fun mt =>
    g.resourceID ++ ":" ++ g.resourceType ++ ":" ++ mt.name

/-- The key of a row and the series that it begins, if its metric is known. -/
def newSeries (r : Row V) : Option (String × MetricSeries V) := do
  let mt ← metricTypeByID r.series.metricTypeID
  let key ← seriesKey r.series
  some (key, { metric := mt.name, resourceID := r.series.resourceID, unit := mt.unit, data := [] })

section Query

variable [Zero V]

/-- Raw points are without a minimum and a maximum. -/
def dataPoint (table : Table) (r : Row V) : MetricDataPoint V :=
  if table = .raw then { timestamp := r.ts, value := r.value, min := 0, max := 0 }
  else { timestamp := r.ts, value := r.value, min := r.minVal, max := r.maxVal }

def addPoint (table : Table) (series : MetricSeries V) (r : Row V) : MetricSeries V :=
  { series with data := series.data ++ [dataPoint table r] }

def queryTable (db : DB V) (ties : Order (Row V)) (order : Order (MetricSeries V)) (table : Table)
    (q : MetricQuery) (metricTypeIDs : List Nat) : List (MetricSeries V) :=
  let rows := db.answer ties table q metricTypeIDs
  order.arrange (values (gather newSeries (addPoint table) rows))

def query (db : DB V) (ties : Order (Row V)) (order : Order (MetricSeries V)) (q : MetricQuery) :
    Except String (MetricsResponse V) :=
  if q.metricTypeIDs = [] then .error "no valid metric types specified"
  else
    let series := queryTable db ties order q.table q q.metricTypeIDs
    .ok
      { series
        info :=
          { start := unix q.startTime, stop := unix q.endTime, resolution := q.table.resolution
            pointCount := (series.map (·.data.length)).sum } }

end Query

section Rows

theorem key_newSeries (r : Row V) :
    (newSeries r).map (·.1) = seriesKey r.series := by
  rw [newSeries, seriesKey]
  cases metricTypeByID r.series.metricTypeID with
  | none => rfl
  | some mt => rfl

theorem isSome_newSeries (r : Row V) :
    (newSeries r).isSome = (metricTypeByID r.series.metricTypeID).isSome := by
  rw [← Option.isSome_map, key_newSeries, seriesKey, Option.isSome_map]

theorem newSeries_eq {r : Row V} {key : String} {fresh : MetricSeries V}
    (new : newSeries r = some (key, fresh)) :
    ∃ mt, metricTypeByID r.series.metricTypeID = some mt ∧
      fresh = { metric := mt.name, resourceID := r.series.resourceID, unit := mt.unit
                data := [] } := by
  rw [newSeries] at new
  cases known : metricTypeByID r.series.metricTypeID with
  | none =>
      rw [known] at new
      exact nomatch new
  | some mt =>
      simp only [known, seriesKey, Option.map_some, Option.bind_eq_bind, Option.bind_some] at new
      exact ⟨mt, rfl, (Prod.mk.inj (Option.some.inj new)).2.symm⟩

theorem answer_perm (db : DB V) (ties : Order (Row V)) (table : Table) (q : MetricQuery)
    (metricTypeIDs : List Nat) :
    (db.answer ties table q metricTypeIDs).Perm (db.matching table q metricTypeIDs) :=
  (List.mergeSort_perm _ _).trans (ties.perm _)

theorem answer_sorted (db : DB V) (ties : Order (Row V)) (table : Table) (q : MetricQuery)
    (metricTypeIDs : List Nat) :
    (db.answer ties table q metricTypeIDs).Pairwise fun r r' => r.place ≤ r'.place := by
  refine (List.pairwise_mergeSort ?_ ?_ _).imp fun {r r'} => of_decide_eq_true
  · intro a b c first second
    exact decide_eq_true (le_trans (of_decide_eq_true first) (of_decide_eq_true second))
  · intro a b
    rw [Bool.or_eq_true, decide_eq_true_iff, decide_eq_true_iff]
    exact le_total _ _

theorem seriesKey_of_under {k : String} {r : Row V} {rows : List (Row V)}
    (inside : r ∈ under newSeries rows k) :
    r ∈ rows ∧ seriesKey r.series = some k := by
  obtain ⟨member, named⟩ := mem_under.mp inside
  exact ⟨member, (key_newSeries r).symm.trans named⟩

theorem ts_le_of_place {r r' : Row V} (ordered : r.place ≤ r'.place) (same : r.series = r'.series) :
    r.ts ≤ r'.ts := by
  rw [Row.place, Row.place, same, Prod.Lex.toLex_le_toLex] at ordered
  rcases ordered with before | ⟨-, ordered⟩
  · exact absurd before (lt_irrefl _)
  · rcases Prod.Lex.toLex_le_toLex.mp ordered with before | ⟨-, ordered⟩
    · exact absurd before (lt_irrefl _)
    · exact ordered

end Rows

section Purity

variable [Zero V] {table : Table}

/-- A series that shows rows of one cluster, type, id and metric. -/
structure Shows (table : Table) (s : MetricSeries V) (rows : List (Row V)) : Prop where
  alike : ∀ r ∈ rows, ∀ r' ∈ rows, r.series = r'.series
  header : ∀ r ∈ rows, ∃ mt, metricTypeByID r.series.metricTypeID = some mt ∧
    s.metric = mt.name ∧ s.unit = mt.unit ∧ s.resourceID = r.series.resourceID
  points : s.data = rows.map (dataPoint table)

/-- The rows are shared out among the series, which show them in the order of time. -/
structure PureSeries (table : Table) (rows : List (Row V)) (series : List (MetricSeries V)) :
    Prop where
  shared : ∃ parts, List.Forall₂ (Shows table) series parts ∧ parts.flatten.Perm rows
  increasing : ∀ s ∈ series, s.data.Pairwise (·.timestamp < ·.timestamp)

theorem foldl_addPoint (table : Table) (rows : List (Row V)) (s : MetricSeries V) :
    rows.foldl (addPoint table) s = { s with data := s.data ++ rows.map (dataPoint table) } := by
  induction rows generalizing s with
  | nil => simp
  | cons r rows ih =>
      rw [List.foldl_cons, ih, addPoint]
      simp

theorem timestamp_dataPoint (r : Row V) : (dataPoint table r).timestamp = r.ts := by
  unfold dataPoint
  split <;> rfl

/-- The series that the rows of each key are drawn into. -/
def drawn (table : Table) (rows : List (Row V)) : List (MetricSeries V) :=
  (keysOf newSeries rows).filterMap (gathered newSeries (addPoint table) rows)

theorem queryTable_perm (db : DB V) (ties : Order (Row V)) (order : Order (MetricSeries V))
    (table : Table) (q : MetricQuery) (metricTypeIDs : List Nat) :
    (queryTable db ties order table q metricTypeIDs).Perm
      (drawn table (db.answer ties table q metricTypeIDs)) :=
  (order.perm _).trans (values_gather _)

variable {rows : List (Row V)}

/-- Every key has a series, with the points of its rows. -/
theorem drawn_points (table : Table) (rows : List (Row V)) :
    List.Forall₂ (fun s part => s.data = part.map (dataPoint table)) (drawn table rows)
      (groups newSeries rows) := by
  apply forall₂_groups
  intro k r rest fresh _ new
  obtain ⟨mt, -, rfl⟩ := newSeries_eq new
  rw [foldl_addPoint]
  exact List.nil_append _

theorem drawn_shows
    (apart : ∀ r ∈ rows, ∀ r' ∈ rows,
      seriesKey r.series = seriesKey r'.series → r.series = r'.series) :
    List.Forall₂ (Shows table) (drawn table rows) (groups newSeries rows) := by
  apply forall₂_groups
  intro k r rest fresh those new
  obtain ⟨mt, known, rfl⟩ := newSeries_eq new
  have alike : ∀ a ∈ r :: rest, ∀ b ∈ r :: rest, a.series = b.series := by
    rw [← those]
    intro a inside b inside'
    obtain ⟨member, named⟩ := seriesKey_of_under inside
    obtain ⟨member', named'⟩ := seriesKey_of_under inside'
    exact apart a member b member' (named.trans named'.symm)
  rw [foldl_addPoint]
  constructor
  · exact alike
  · intro a inside
    rw [alike a inside r List.mem_cons_self]
    exact ⟨mt, known, rfl, rfl, rfl⟩
  · exact List.nil_append _

theorem increasing_part {part : List (Row V)} (sorted : part.Pairwise fun r r' => r.place ≤ r'.place)
    (alike : ∀ r ∈ part, ∀ r' ∈ part, r.series = r'.series)
    (distinct : (part.map fun r => (r.series, r.ts)).Nodup) :
    (part.map (dataPoint table)).Pairwise (·.timestamp < ·.timestamp) := by
  rw [List.pairwise_map]
  have both := sorted.and (List.pairwise_map.mp distinct)
  refine both.imp_of_mem fun {r r'} inside inside' => ?_
  rintro ⟨ordered, apart⟩
  have same := alike r inside r' inside'
  have earlier := ts_le_of_place ordered same
  have other : r.ts ≠ r'.ts := fun equal => apart (Prod.ext same equal)
  rw [timestamp_dataPoint, timestamp_dataPoint]
  omega

theorem pureSeries_of_apart {series : List (MetricSeries V)} (perm : series.Perm (drawn table rows))
    (sorted : rows.Pairwise fun r r' => r.place ≤ r'.place)
    (known : ∀ r ∈ rows, (metricTypeByID r.series.metricTypeID).isSome = true)
    (apart : ∀ r ∈ rows, ∀ r' ∈ rows,
      seriesKey r.series = seriesKey r'.series → r.series = r'.series)
    (distinct : (rows.map fun r => (r.series, r.ts)).Nodup) :
    PureSeries table rows series := by
  have shows_ := @drawn_shows _ _ table _ apart
  constructor
  · obtain ⟨parts, shown, perm'⟩ := List.perm_comp_forall₂ perm shows_
    refine ⟨parts, shown, perm'.flatten.trans (flatten_groups fun r inside => ?_)⟩
    rw [isSome_newSeries]
    exact known r inside
  · intro s inside
    obtain ⟨part, listed, shown⟩ := Traverse.partner_of_mem shows_ s (perm.mem_iff.mp inside)
    obtain ⟨k, -, rfl⟩ := List.mem_map.mp listed
    rw [shown.points]
    have sub : (under newSeries rows k).Sublist rows := List.filter_sublist
    exact increasing_part (sorted.sublist sub) shown.alike (distinct.sublist (sub.map _))

theorem known_of_pureSeries {series : List (MetricSeries V)} (pure_ : PureSeries table rows series)
    {r : Row V} (inside : r ∈ rows) : (metricTypeByID r.series.metricTypeID).isSome = true := by
  obtain ⟨parts, shown, perm⟩ := pure_.shared
  obtain ⟨part, listed, member⟩ := List.mem_flatten.mp (perm.mem_iff.mpr inside)
  obtain ⟨s, -, shows_⟩ := Traverse.source_of_mem shown part listed
  obtain ⟨mt, known, -⟩ := shows_.header r member
  exact Option.isSome_of_mem known

/-- There are no more kinds of rows than there are keys. -/
theorem apart_of_pureSeries {series : List (MetricSeries V)}
    (perm : series.Perm (drawn table rows)) (pure_ : PureSeries table rows series) {r r' : Row V}
    (inside : r ∈ rows) (inside' : r' ∈ rows)
    (same : seriesKey r.series = seriesKey r'.series) : r.series = r'.series := by
  obtain ⟨parts, shown, perm'⟩ := pure_.shared
  have labelled : ∀ r ∈ rows, (newSeries r).isSome = true := by
    intro r inside
    rw [isSome_newSeries]
    exact known_of_pureSeries pure_ inside
  have kinds : (parts.flatten.map (·.series)).toFinset.card ≤ parts.length := by
    apply kinds_le
    intro part listed
    obtain ⟨s, -, shows_⟩ := Traverse.source_of_mem shown part listed
    exact shows_.alike
  have rows_ : (parts.flatten.map (·.series)).toFinset = (rows.map (·.series)).toFinset :=
    List.toFinset_eq_of_perm _ _ (perm'.map _)
  have lengths : parts.length = (keysOf newSeries rows).length := by
    rw [← shown.length_eq, perm.length_eq, (drawn_points table rows).length_eq, groups,
      List.length_map]
  have keys : (rows.map fun r => seriesKey r.series).toFinset.card =
      (keysOf newSeries rows).length := by
    rw [← card_keys labelled]
    simp only [key_newSeries]
  have few : (rows.map (·.series)).toFinset.card ≤
      (rows.map fun r => seriesKey r.series).toFinset.card := by
    rw [keys, ← lengths, ← rows_]
    exact kinds
  exact apart_of_card_le few inside inside' same

theorem distinct_of_pureSeries {series : List (MetricSeries V)}
    (perm : series.Perm (drawn table rows)) (pure_ : PureSeries table rows series) :
    (rows.map fun r => (r.series, r.ts)).Nodup := by
  have keyed : (rows.map fun r => (seriesKey r.series, r.ts)).Nodup := by
    rw [nodup_pair_iff]
    intro key
    cases key with
    | none =>
        have nothing : (rows.filter fun r => seriesKey r.series = none) = [] := by
          refine List.filter_eq_nil_iff.mpr fun r inside keyless => ?_
          have known := known_of_pureSeries pure_ inside
          rw [seriesKey, decide_eq_true_iff, Option.map_eq_none_iff] at keyless
          rw [keyless] at known
          exact nomatch known
        rw [nothing]
        exact List.nodup_nil
    | some k =>
        have part : (rows.filter fun r => seriesKey r.series = some k) =
            under newSeries rows k := by
          simp only [under, key_newSeries]
        rw [part]
        by_cases listed : k ∈ keysOf newSeries rows
        · obtain ⟨s, inside, points⟩ := Traverse.source_of_mem (drawn_points table rows) _
            (List.mem_map_of_mem listed)
          have increasing := pure_.increasing s (perm.mem_iff.mpr inside)
          rw [points, List.pairwise_map] at increasing
          rw [List.Nodup, List.pairwise_map]
          refine increasing.imp fun {r r'} before same => ?_
          rw [timestamp_dataPoint, timestamp_dataPoint] at before
          omega
        · have nothing : under newSeries rows k = [] := by
            refine under_nil_iff.mpr fun r inside named => listed ?_
            exact mem_keysOf.mpr ⟨r, inside, named⟩
          rw [nothing]
          exact List.nodup_nil
  have projected : (rows.map fun r => (seriesKey r.series, r.ts)) =
      (rows.map fun r => (r.series, r.ts)).map (Prod.map seriesKey id) := by
    rw [List.map_map]
    rfl
  rw [projected] at keyed
  exact keyed.of_map

theorem pureSeries_iff {series : List (MetricSeries V)} (perm : series.Perm (drawn table rows))
    (sorted : rows.Pairwise fun r r' => r.place ≤ r'.place) :
    PureSeries table rows series ↔
      (∀ r ∈ rows, (metricTypeByID r.series.metricTypeID).isSome = true) ∧
      (∀ r ∈ rows, ∀ r' ∈ rows,
        seriesKey r.series = seriesKey r'.series → r.series = r'.series) ∧
      (rows.map fun r => (r.series, r.ts)).Nodup := by
  constructor
  · intro pure_
    refine ⟨fun r => known_of_pureSeries pure_, ?_, distinct_of_pureSeries perm pure_⟩
    intro r inside r' inside'
    exact apart_of_pureSeries perm pure_ inside inside'
  · rintro ⟨known, apart, distinct⟩
    exact pureSeries_of_apart perm sorted known apart distinct

theorem pureSeries_perm {rows' : List (Row V)} {series : List (MetricSeries V)}
    (perm : rows.Perm rows') : PureSeries table rows series ↔ PureSeries table rows' series := by
  constructor
  · rintro ⟨⟨parts, shown, shared⟩, increasing⟩
    exact ⟨⟨parts, shown, shared.trans perm⟩, increasing⟩
  · rintro ⟨⟨parts, shown, shared⟩, increasing⟩
    exact ⟨⟨parts, shown, shared.trans perm.symm⟩, increasing⟩

variable (db : DB V) (ties : Order (Row V)) (order : Order (MetricSeries V))

/-- The series of a query are pure if the rows that match it are of known metrics, have keys that
tell their series apart, and are one for each series and time. -/
theorem series_pure_iff (table : Table) (q : MetricQuery) (metricTypeIDs : List Nat) :
    PureSeries table (db.matching table q metricTypeIDs)
        (queryTable db ties order table q metricTypeIDs) ↔
      (∀ r ∈ db.matching table q metricTypeIDs,
        (metricTypeByID r.series.metricTypeID).isSome = true) ∧
      (∀ r ∈ db.matching table q metricTypeIDs, ∀ r' ∈ db.matching table q metricTypeIDs,
        seriesKey r.series = seriesKey r'.series → r.series = r'.series) ∧
      ((db.matching table q metricTypeIDs).map fun r => (r.series, r.ts)).Nodup := by
  have perm := answer_perm db ties table q metricTypeIDs
  rw [← pureSeries_perm perm]
  rw [pureSeries_iff (queryTable_perm db ties order table q metricTypeIDs)
    (answer_sorted db ties table q metricTypeIDs)]
  refine and_congr ?_ (and_congr ?_ (perm.map _).nodup_iff)
  · exact forall_congr' fun r => imp_congr_left perm.mem_iff
  · refine forall_congr' fun r => imp_congr perm.mem_iff ?_
    exact forall_congr' fun r' => imp_congr_left perm.mem_iff

end Purity

section Counterexample

/-- One node of each of two clusters, with a sample each. -/
def twoClusters : DB Rat :=
  { raw := [⟨0, ⟨"east", "node", "pve1", 1⟩, 20⟩, ⟨30, ⟨"west", "node", "pve1", 1⟩, 80⟩]
    hourly := [], daily := [], weekly := [], monthly := [] }

/-- What is asked for the metrics of a node, in the first minute. -/
def nodeMetrics (node : String) : MetricQuery :=
  { cluster := "", resourceType := "node", resourceID := node
    metricTypes := ["cpu", "mem_percent"], startTime := 0, endTime := 60 * 10 ^ 9
    resolution := "" }

/-- Both nodes are drawn into one series. -/
theorem clusters_share_series :
    ¬∀ (ties : Order (Row Rat)) (order : Order (MetricSeries Rat)),
      PureSeries .raw (twoClusters.matching .raw (nodeMetrics "pve1") [1, 3])
        (queryTable twoClusters ties order .raw (nodeMetrics "pve1") [1, 3]) := by
  intro pure_
  have perm := answer_perm twoClusters Order.asGiven .raw (nodeMetrics "pve1") [1, 3]
  have mixed := (pureSeries_perm perm).mpr (pure_ Order.asGiven Order.asGiven)
  have matched : ∀ m ∈ twoClusters.raw,
      m.scan ∈ twoClusters.answer Order.asGiven .raw (nodeMetrics "pve1") [1, 3] := by
    intro m inside
    refine perm.mem_iff.mpr (List.mem_filter.mpr ⟨List.mem_map_of_mem inside, ?_⟩)
    rcases List.mem_pair.mp inside with rfl | rfl
    · decide
    · decide
  have alike := apart_of_pureSeries (queryTable_perm _ _ _ _ _ _) mixed
    (matched _ List.mem_cons_self) (matched _ (List.mem_cons_of_mem _ List.mem_cons_self)) rfl
  exact absurd alike (by decide)

end Counterexample

end Metrics
