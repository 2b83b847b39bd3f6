import PCenter.MetricsRollup

/-!
# The rollup service across restarts

The loops of a `RollupService` while processes come and go. Instants are nanoseconds since 1970,
and a timer fires at the instant at which it is due. The hourly rollup and the cleanup come when
their loops call them; the other rollups touch neither the samples nor the hourly rows and may come
at any time. A batch of the collector is stored within five minutes of its time stamp, which is
what the hourly loop allows for.
-/

namespace RollupService

open Metrics Transition

variable {V : Type}

def second : Int := 1000000000

/-- `time.Minute` -/
def minute : Int := 60000000000

/-- `time.Hour` -/
def hour : Int := 3600000000000

def unix (now : Int) : Int := now / second

/-- Where `runHourlyLoop` sleeps until. -/
def nextHour (now : Int) : Int := now / hour * hour + hour + 5 * minute

/-- A process: when it started, and when its hourly loop and its cleanup loop go on. -/
structure Service where
  started : Int
  rollup : Int
  cleanup : Int

/-- `Start`, with the initial cleanup still to come. -/
def Service.start (now : Int) : Service := ⟨now, nextHour now, now⟩

inductive Event (V : Type) where
  | start
  | stop
  | collect (batch : List (RawMetric V))
  | rollupHourly
  | rollupDaily
  | rollupWeekly
  | rollupMonthly
  | cleanup

/-- The tables and the process, and beside them what a run has done: when the processes before
started and stopped, and the hourly rows that it wrote, whatever became of them. -/
structure World (V : Type) where
  db : DB V
  service : Option Service
  ended : List (Int × Int)
  written : List (RollupMetric V)
  clock : Int

def World.start (clock : Int) : World V := ⟨⟨[], [], [], [], []⟩, none, [], [], clock⟩

/-- The bucket of a time stamp. -/
def hourOf (timestamp : Int) : Int := timestamp / 3600 * 3600

/-- Five minutes after an hour. -/
def mark (bucket : Int) : Int := (bucket + 3900) * second

section Runs

variable [LinearOrder V] (averages : Averages V) (retention : RetentionConfig)

/-- What `rollupHourly` inserts. -/
def hourlyRows (now : Int) (db : DB V) : List (RollupMetric V) :=
  groupBy (·.series) (hourlyRow averages (now / 3600 * 3600 - 3600))
    (db.raw.filter fun m =>
      now / 3600 * 3600 - 3600 ≤ m.timestamp ∧ m.timestamp < now / 3600 * 3600)

def go (w : World V) (e : Int × Event V) : World V :=
  match e with
  | (t, .start) => { w with service := some (Service.start t), clock := t }
  | (t, .stop) =>
      { w with
        service := none
        ended := w.ended ++ (w.service.map fun s => (s.started, t)).toList
        clock := t }
  | (t, .collect batch) => { w with db := { w.db with raw := w.db.raw ++ batch }, clock := t }
  | (t, .rollupHourly) =>
      { w with
        db := rollupHourly averages (unix t) w.db
        service := w.service.map fun s => { s with rollup := s.rollup + hour }
        written := w.written ++ hourlyRows averages (unix t) w.db
        clock := t }
  | (t, .rollupDaily) => { w with db := rollupDaily averages (unix t) w.db, clock := t }
  | (t, .rollupWeekly) => { w with db := rollupWeekly averages (unix t) w.db, clock := t }
  | (t, .rollupMonthly) => { w with db := rollupMonthly averages (unix t) w.db, clock := t }
  | (t, .cleanup) =>
      { w with
        db := cleanup retention (unix t) w.db
        service := w.service.map fun s => { s with cleanup := s.cleanup + hour }
        clock := t }

end Runs

/-- What a process does when. A rollup that is due is not left out by a stop. -/
def Due (s : Service) (t : Int) : Event V → Prop
  | .start => False
  | .stop => t < s.rollup
  | .collect batch => ∀ m ∈ batch, m.timestamp ≤ unix t ∧ unix t < m.timestamp + 300
  | .rollupHourly => t = s.rollup
  | .cleanup => t = s.cleanup
  | .rollupDaily | .rollupWeekly | .rollupMonthly => True

instance decidableDue (s : Service) (t : Int) : DecidablePred (Due (V := V) s t)
  | .start => isFalse id
  | .stop => inferInstanceAs (Decidable (t < s.rollup))
  | .collect batch =>
      inferInstanceAs
        (Decidable (∀ m ∈ batch, m.timestamp ≤ unix t ∧ unix t < m.timestamp + 300))
  | .rollupHourly => inferInstanceAs (Decidable (t = s.rollup))
  | .cleanup => inferInstanceAs (Decidable (t = s.cleanup))
  | .rollupDaily => isTrue trivial
  | .rollupWeekly => isTrue trivial
  | .rollupMonthly => isTrue trivial

def Event.isStart : Event V → Bool
  | .start => true
  | _ => false

def Permitted (t : Int) (e : Event V) : Option Service → Prop
  | none => e.isStart = true
  | some s => t ≤ s.rollup ∧ t ≤ s.cleanup ∧ Due s t e

instance decidablePermitted (t : Int) (e : Event V) : DecidablePred (Permitted t e)
  | none => inferInstanceAs (Decidable (e.isStart = true))
  | some s => inferInstanceAs (Decidable (t ≤ s.rollup ∧ t ≤ s.cleanup ∧ Due s t e))

/-- Time does not go back, timers are on time, and there is at most one process. -/
def Legal (w : World V) (e : Int × Event V) : Prop := w.clock ≤ e.1 ∧ Permitted e.1 e.2 w.service

instance decidableLegal (w : World V) (e : Int × Event V) : Decidable (Legal w e) :=
  inferInstanceAs (Decidable (w.clock ≤ e.1 ∧ Permitted e.1 e.2 w.service))

/-- A process that was started before the end of the hour went on past five minutes after it. -/
def Outlasted (w : World V) (bucket : Int) : Prop :=
  (∃ s ∈ w.service, unix s.started < bucket + 3600 ∧ mark bucket < s.rollup) ∨
    ∃ life ∈ w.ended, unix life.1 < bucket + 3600 ∧ mark bucket ≤ life.2

/-- The samples that a cleanup would delete and whose hour is over are of such hours. -/
def Covered (retention : RetentionConfig) (w : World V) (now : Int) : Prop :=
  ∀ m ∈ w.db.raw, m.timestamp < now - retention.rawHours * 3600 →
    hourOf m.timestamp + 3600 ≤ now → Outlasted w (hourOf m.timestamp)

section Losses

variable [LinearOrder V] (averages : Averages V) (retention : RetentionConfig)

/-- A row of the hour and the series of the sample was made from samples among which it is. -/
def Aggregated (w : World V) (m : RawMetric V) : Prop :=
  ∃ r ∈ w.written, ∃ samples,
    m ∈ samples ∧ hourlyRow averages (hourOf m.timestamp) m.series samples = some r

/-- What a cleanup deletes of a completed hour has been aggregated. -/
def Lossless (w : World V) (now : Int) : Prop :=
  ∀ m ∈ w.db.raw, m ∉ (cleanup retention now w.db).raw →
    hourOf m.timestamp + 3600 ≤ now → Aggregated averages w m

/-- The invariant of a run. -/
structure Timed (w : World V) : Prop where
  running : ∀ s ∈ w.service, nextHour s.started ≤ s.rollup ∧ s.rollup % hour = 5 * minute ∧
    (s.rollup = nextHour s.started ∨ s.rollup - hour ≤ w.clock)
  ended : ∀ life ∈ w.ended, life.2 ≤ w.clock
  rows : ∀ r ∈ w.written, 3600 ∣ r.bucketTimestamp ∧ Outlasted w r.bucketTimestamp
  samples : ∀ m ∈ w.db.raw, Outlasted w (hourOf m.timestamp) → Aggregated averages w m

variable {averages} {retention}

theorem clock_go (w : World V) (e : Int × Event V) : (go averages retention w e).clock = e.1 := by
  obtain ⟨t, event⟩ := e
  cases event <;> rfl

theorem timed_start (clock : Int) : Timed averages (World.start clock) :=
  ⟨by rintro s ⟨⟩, by simp [World.start], by simp [World.start], by simp [World.start]⟩

theorem bucket_of_hourlyRow {bucket : Int} {g : Series} {samples : List (RawMetric V)}
    {r : RollupMetric V} (made : hourlyRow averages bucket g samples = some r) :
    r.bucketTimestamp = bucket := by
  simp only [hourlyRow, Option.bind_eq_bind, Option.bind_eq_some_iff] at made
  obtain ⟨lo, -, hi, -, row⟩ := made
  exact (congrArg RollupMetric.bucketTimestamp (Option.some.inj row)).symm

theorem hourlyRow_isSome {bucket : Int} {g : Series} {samples : List (RawMetric V)}
    {m : RawMetric V} (member : m ∈ samples) :
    ∃ r, hourlyRow averages bucket g samples = some r := by
  have some_ : samples.map (·.value) ≠ [] := by
    intro empty
    exact List.ne_nil_of_mem member (List.map_eq_nil_iff.mp empty)
  obtain ⟨lo, least⟩ := Option.isSome_iff_exists.mp (List.isSome_min?_of_ne_nil some_)
  obtain ⟨hi, greatest⟩ := Option.isSome_iff_exists.mp (List.isSome_max?_of_ne_nil some_)
  exact ⟨_, by rw [hourlyRow, least, greatest]; rfl⟩

omit [LinearOrder V] in
theorem dvd_hourOf (timestamp : Int) : 3600 ∣ hourOf timestamp := by
  simp only [hourOf]
  omega

theorem mark_le_clock {w : World V} (timed : Timed averages w) {bucket : Int}
    (aligned : 3600 ∣ bucket) (outlasted : Outlasted w bucket) : mark bucket ≤ w.clock := by
  rcases outlasted with ⟨s, here, early, late⟩ | ⟨life, there, -, late⟩
  · obtain ⟨first, five, fired⟩ := timed.running s here
    simp only [nextHour, unix, mark, hour, minute, second] at *
    omega
  · have before := timed.ended life there
    omega

/-- What the hourly rollup of a process takes is the hour that ended five minutes ago. -/
theorem mark_fired {s : Service} (first : nextHour s.started ≤ s.rollup)
    (five : s.rollup % hour = 5 * minute) :
    unix s.started < unix s.rollup / 3600 * 3600 ∧
      mark (unix s.rollup / 3600 * 3600 - 3600) = s.rollup := by
  simp only [nextHour, unix, mark, hour, minute, second] at *
  omega

theorem timed_of_kept {w w' : World V} (timed : Timed averages w)
    (running : ∀ s ∈ w'.service, nextHour s.started ≤ s.rollup ∧ s.rollup % hour = 5 * minute ∧
      (s.rollup = nextHour s.started ∨ s.rollup - hour ≤ w'.clock))
    (ended : ∀ life ∈ w'.ended, life.2 ≤ w'.clock)
    (kept : ∀ bucket, 3600 ∣ bucket → (Outlasted w' bucket ↔ Outlasted w bucket))
    (written : w'.written = w.written)
    (raw : ∀ m ∈ w'.db.raw, m ∈ w.db.raw ∨ ¬Outlasted w (hourOf m.timestamp)) :
    Timed averages w' := by
  refine ⟨running, ended, ?_, ?_⟩
  · intro r member
    rw [written] at member
    obtain ⟨aligned, outlasted⟩ := timed.rows r member
    exact ⟨aligned, (kept _ aligned).mpr outlasted⟩
  · intro m member outlasted
    have before := (kept _ (dvd_hourOf m.timestamp)).mp outlasted
    rcases raw m member with old | fresh
    · obtain ⟨r, there, made⟩ := timed.samples m old before
      exact ⟨r, written ▸ there, made⟩
    · exact absurd before fresh

omit [LinearOrder V] in
theorem outlasted_congr {w w' : World V} {bucket : Int}
    (service : w'.service.map (fun s => (s.started, s.rollup)) =
      w.service.map fun s => (s.started, s.rollup))
    (ended : w'.ended = w.ended) : Outlasted w' bucket ↔ Outlasted w bucket := by
  have view : ∀ v : World V, Outlasted v bucket ↔
      (∃ p ∈ v.service.map fun s => (s.started, s.rollup),
        unix p.1 < bucket + 3600 ∧ mark bucket < p.2) ∨
      ∃ life ∈ v.ended, unix life.1 < bucket + 3600 ∧ mark bucket ≤ life.2 := by
    intro v
    simp [Outlasted]
  rw [view, view, service, ended]

theorem timed_startService {w : World V} {t : Int} (timed : Timed averages w)
    (later : w.clock ≤ t) (down : w.service = none) :
    Timed averages (go averages retention w (t, .start)) := by
  apply timed_of_kept timed
  · rintro s ⟨⟩
    refine ⟨Int.le_refl _, ?_, Or.inl rfl⟩
    simp only [Service.start, nextHour, hour, minute]
    omega
  · intro life there
    exact (timed.ended life there).trans later
  · intro bucket aligned
    constructor
    · rintro (⟨s, ⟨⟩, early, late⟩ | over_)
      · simp only [Service.start, nextHour, unix, mark, hour, minute, second] at *
        omega
      · exact Or.inr over_
    · rintro (⟨s, here, -⟩ | over_)
      · rw [down] at here
        cases here
      · exact Or.inr over_
  · rfl
  · exact fun m member => Or.inl member

theorem timed_stop {w : World V} {t : Int} {s : Service} (timed : Timed averages w)
    (later : w.clock ≤ t) (up : w.service = some s) (ahead : t < s.rollup) :
    Timed averages (go averages retention w (t, .stop)) := by
  have ended : (go averages retention w (t, .stop)).ended = w.ended ++ [(s.started, t)] := by
    simp [go, up]
  apply timed_of_kept timed
  · rintro s ⟨⟩
  · intro life there
    rw [ended] at there
    rcases List.mem_append.mp there with old | new
    · exact (timed.ended life old).trans later
    · obtain rfl := List.mem_singleton.mp new
      exact Int.le_refl t
  · intro bucket aligned
    rw [Outlasted, ended]
    constructor
    · rintro (⟨s, ⟨⟩, -⟩ | ⟨life, there, early, late⟩)
      rcases List.mem_append.mp there with old | new
      · exact Or.inr ⟨life, old, early, late⟩
      · obtain rfl := List.mem_singleton.mp new
        exact Or.inl ⟨s, up, early, late.trans_lt ahead⟩
    · intro outlasted
      have past := mark_le_clock timed aligned outlasted
      rcases outlasted with ⟨s', here, early, -⟩ | ⟨life, there, early, late⟩
      · obtain rfl : s = s' := Option.some.inj (up.symm.trans here)
        exact Or.inr ⟨_, List.mem_append_right _ (List.mem_singleton_self _), early,
          past.trans later⟩
      · exact Or.inr ⟨life, List.mem_append_left _ there, early, late⟩
  · rfl
  · exact fun m member => Or.inl member

theorem timed_still {w w' : World V} (timed : Timed averages w) (later : w.clock ≤ w'.clock)
    (service : w'.service.map (fun s => (s.started, s.rollup)) =
      w.service.map fun s => (s.started, s.rollup))
    (ended : w'.ended = w.ended) (written : w'.written = w.written)
    (raw : ∀ m ∈ w'.db.raw, m ∈ w.db.raw ∨ ¬Outlasted w (hourOf m.timestamp)) :
    Timed averages w' := by
  apply timed_of_kept timed
  · intro s here
    have viewed : (s.started, s.rollup) ∈ w'.service.map fun s => (s.started, s.rollup) :=
      Option.mem_map_of_mem _ here
    rw [service] at viewed
    obtain ⟨s', here', same⟩ := Option.map_eq_some_iff.mp viewed
    obtain ⟨started, rollup⟩ := Prod.mk.inj same
    obtain ⟨first, five, fired⟩ := timed.running s' here'
    rw [started, rollup] at *
    omega
  · intro life there
    rw [ended] at there
    exact (timed.ended life there).trans later
  · exact fun bucket _ => outlasted_congr service ended
  · exact written
  · exact raw

theorem timed_collect {w : World V} {t : Int} {batch : List (RawMetric V)}
    (timed : Timed averages w) (later : w.clock ≤ t)
    (prompt : ∀ m ∈ batch, m.timestamp ≤ unix t ∧ unix t < m.timestamp + 300) :
    Timed averages (go averages retention w (t, .collect batch)) := by
  refine @timed_still _ _ averages w (go averages retention w (t, .collect batch)) timed later
    rfl rfl rfl ?_
  intro m member
  rcases List.mem_append.mp member with old | new
  · exact Or.inl old
  · right
    intro outlasted
    have past := mark_le_clock timed (dvd_hourOf m.timestamp) outlasted
    have soon := (prompt m new).2
    simp only [mark, hourOf, unix, second] at *
    omega

/-- The row that a rollup inserts for a sample. -/
theorem hourlyRows_of_mem {now : Int} {db : DB V} {m : RawMetric V} (member : m ∈ db.raw)
    (inside : now / 3600 * 3600 - 3600 = hourOf m.timestamp) :
    ∃ r ∈ hourlyRows averages now db, ∃ samples,
      m ∈ samples ∧ hourlyRow averages (hourOf m.timestamp) m.series samples = some r := by
  have taken : m ∈ db.raw.filter fun m =>
      now / 3600 * 3600 - 3600 ≤ m.timestamp ∧ m.timestamp < now / 3600 * 3600 := by
    apply List.mem_filter.mpr
    refine ⟨member, decide_eq_true ?_⟩
    simp only [hourOf] at inside
    omega
  have group : m ∈ (db.raw.filter fun m => now / 3600 * 3600 - 3600 ≤ m.timestamp ∧
      m.timestamp < now / 3600 * 3600).filter fun s => s.series = m.series :=
    List.mem_filter.mpr ⟨taken, decide_eq_true rfl⟩
  obtain ⟨r, made⟩ :=
    @hourlyRow_isSome _ _ averages (now / 3600 * 3600 - 3600) m.series _ m group
  refine ⟨r, ?_, _, group, inside ▸ made⟩
  apply List.mem_filterMap.mpr
  exact ⟨m.series, List.mem_dedup.mpr (List.mem_map_of_mem taken), made⟩

theorem timed_rollupHourly {w : World V} {t : Int} {s : Service} (timed : Timed averages w)
    (later : w.clock ≤ t) (up : w.service = some s) (due : t = s.rollup) :
    Timed averages (go averages retention w (t, .rollupHourly)) := by
  obtain ⟨first, five, -⟩ := timed.running s up
  obtain ⟨early, fired⟩ := mark_fired first five
  rw [← due] at early fired
  have service : (go averages retention w (t, .rollupHourly)).service =
      some { s with rollup := s.rollup + hour } := by
    simp [go, up]
  have grown : ∀ bucket, Outlasted w bucket →
      Outlasted (go averages retention w (t, .rollupHourly)) bucket := by
    rintro bucket (⟨s', here, before, late⟩ | over_)
    · obtain rfl : s = s' := Option.some.inj (up.symm.trans here)
      refine Or.inl ⟨_, service, before, ?_⟩
      simp only [hour]
      omega
    · exact Or.inr over_
  refine ⟨?_, ?_, ?_, ?_⟩
  · intro s' here
    obtain rfl := Option.some.inj (service.symm.trans here)
    have clock : (go averages retention w (t, .rollupHourly)).clock = t := rfl
    simp only [due, nextHour, hour, minute] at *
    omega
  · intro life there
    exact (timed.ended life there).trans later
  · intro r member
    rcases List.mem_append.mp member with old | new
    · obtain ⟨aligned, outlasted⟩ := timed.rows r old
      exact ⟨aligned, grown _ outlasted⟩
    · obtain ⟨m, -, made⟩ := mem_groupBy new
      have bucket := bucket_of_hourlyRow made
      refine ⟨by omega, Or.inl ⟨_, service, ?_, ?_⟩⟩
      · rw [bucket]
        change unix s.started < _
        omega
      · rw [bucket, fired]
        simp only [hour]
        omega
  · intro m member outlasted
    have aligned := dvd_hourOf m.timestamp
    by_cases inside : unix t / 3600 * 3600 - 3600 = hourOf m.timestamp
    · obtain ⟨r, there, made⟩ := @hourlyRows_of_mem _ _ averages _ _ _ member inside
      exact ⟨r, List.mem_append_right _ there, made⟩
    · have before : Outlasted w (hourOf m.timestamp) := by
        rcases outlasted with ⟨s', here, started, late⟩ | over_
        · obtain rfl := Option.some.inj (service.symm.trans here)
          refine Or.inl ⟨s, up, started, ?_⟩
          simp only [mark, unix, hour, second] at *
          omega
        · exact Or.inr over_
      obtain ⟨r, there, made⟩ := timed.samples m member before
      exact ⟨r, List.mem_append_left _ there, made⟩

theorem timed_go {w : World V} {e : Int × Event V} (timed : Timed averages w)
    (legal : Legal w e) : Timed averages (go averages retention w e) := by
  obtain ⟨t, event⟩ := e
  obtain ⟨later, permitted⟩ := legal
  cases up : w.service with
  | none =>
      rw [up] at permitted
      cases event with
      | start => exact timed_startService timed later up
      | stop | collect _ | rollupHourly | rollupDaily | rollupWeekly | rollupMonthly | cleanup =>
          cases permitted
  | some s =>
      rw [up] at permitted
      obtain ⟨-, -, due⟩ := permitted
      have still := @timed_still _ _ averages w (go averages retention w (t, event)) timed
        (later.trans_eq (clock_go w (t, event)).symm)
      cases event with
      | start => cases due
      | stop => exact timed_stop timed later up due
      | collect batch => exact timed_collect timed later due
      | rollupHourly => exact timed_rollupHourly timed later up due
      | rollupDaily => exact still rfl rfl rfl fun m member => Or.inl member
      | rollupWeekly => exact still rfl rfl rfl fun m member => Or.inl member
      | rollupMonthly => exact still rfl rfl rfl fun m member => Or.inl member
      | cleanup =>
          apply still _ rfl rfl
          · exact fun m member => Or.inl (List.mem_filter.mp member).1
          · simp [go, Function.comp_def]

theorem lossless_iff_covered {w : World V} {now : Int} (timed : Timed averages w) :
    Lossless averages retention w now ↔ Covered retention w now := by
  constructor
  · intro lossless m member old over_
    have deleted : m ∉ (cleanup retention now w.db).raw := by
      intro still
      have young := of_decide_eq_true (List.mem_filter.mp still).2
      omega
    obtain ⟨r, there, samples, -, made⟩ := lossless m member deleted over_
    rw [← bucket_of_hourlyRow made]
    exact (timed.rows r there).2
  · intro covered m member deleted over_
    apply timed.samples m member
    apply covered m member _ over_
    by_contra young
    exact deleted (List.mem_filter.mpr ⟨member, decide_eq_true (by omega)⟩)

/-- No cleanup of a run deletes what has not been aggregated iff each of them finds only hours
that a process of before their end has outlasted. -/
theorem cleanups_lossless_iff {clock : Int} {run : List (Int × Event V)}
    (legal : Along (go averages retention) Legal (World.start clock) run) :
    Along (go averages retention)
        (fun w e => e.2 = .cleanup → Lossless averages retention w (unix e.1))
        (World.start clock) run ↔
      Along (go averages retention) (fun w e => e.2 = .cleanup → Covered retention w (unix e.1))
        (World.start clock) run := by
  have timed : ∀ w e, Timed averages w → Legal w e → Timed averages (go averages retention w e) :=
    fun w e timed legal => timed_go timed legal
  exact along_congr_along timed
    (fun w e timed => imp_congr_right fun _ => lossless_iff_covered timed) (timed_start clock) legal

end Losses

/-- An instant in seconds. -/
def atSecond (seconds : Int) : Int := seconds * second

/-- A process that starts in the first five minutes of an hour, finds a batch a minute later and
goes on for most of a day. -/
def serviceDay (start : Int) (batch : List (RawMetric Int)) : List (Int × Event Int) :=
  [(atSecond start, Event.start), (atSecond start, .cleanup),
    (atSecond (start + 60), .collect batch)] ++
    (List.range 23).flatMap fun i : ℕ =>
      [(atSecond (start + (i + 1) * 3600), Event.cleanup),
        (atSecond (start / 3600 * 3600 + 3900 + i * 3600), .rollupHourly)]

def sample (timestamp : Int) : RawMetric Int := ⟨timestamp, cpu, 1⟩

def quietDay : List (Int × Event Int) :=
  serviceDay 36120 [sample 36180] ++
    [(atSecond 122520, Event.cleanup), (atSecond 122700, .rollupHourly),
      (atSecond 126120, .cleanup)]

theorem quiet_day_lossless :
    Along (go means defaultRetention)
        (fun w e => e.2 = .cleanup → Lossless means defaultRetention w (unix e.1))
        (World.start 0) quietDay ↔
      Along (go means defaultRetention)
        (fun w e => e.2 = .cleanup → Covered defaultRetention w (unix e.1))
        (World.start 0) quietDay :=
  cleanups_lossless_iff (by decide +kernel)

/-- A process of two minutes past ten that is started again at two minutes past eleven. -/
def restarted : List (Int × Event Int) :=
  [(atSecond 36120, .start), (atSecond 36120, .cleanup),
    (atSecond 36180, .collect [sample 36180]), (atSecond 39720, .cleanup),
    (atSecond 39720, .stop)] ++
    serviceDay 39721 []

/-- The new process rolls up from eleven on, and a day later the sample is gone. -/
theorem restart_loses_hour :
    Along (go means defaultRetention) Legal (World.start 0)
        (restarted ++ [(atSecond 126121, .cleanup)]) ∧
      ¬Along (go means defaultRetention)
        (fun w e => e.2 = .cleanup → Lossless means defaultRetention w (unix e.1))
        (World.start 0) (restarted ++ [(atSecond 126121, .cleanup)]) := by
  constructor
  · decide +kernel
  · intro lossless
    obtain ⟨-, last, -⟩ := (along_append _ _ _).mp lossless
    obtain ⟨m, member, stamp⟩ : ∃ m ∈
        (restarted.foldl (go means defaultRetention) (World.start 0)).db.raw,
        m.timestamp = 36180 := by
      decide +kernel
    have unwritten : ∀ r ∈ (restarted.foldl (go means defaultRetention) (World.start 0)).written,
        r.bucketTimestamp ≠ hourOf 36180 := by
      decide +kernel
    have deleted : m ∉ (cleanup defaultRetention (unix (atSecond 126121))
        (restarted.foldl (go means defaultRetention) (World.start 0)).db).raw := by
      intro still
      have young := of_decide_eq_true (List.mem_filter.mp still).2
      rw [stamp] at young
      exact absurd young (by decide)
    obtain ⟨r, there, samples, -, made⟩ := last rfl m member deleted (by rw [stamp]; decide)
    rw [stamp] at made
    exact unwritten r there (bucket_of_hourlyRow made)

end RollupService
