import Mathlib.Algebra.Group.Nat.Defs
import Mathlib.Data.Nat.Find

/-!
# Waiting for a task

`WaitForTask` of `internal/pve/client.go` in simulated time, and the waits of the Ceph jobs in
`internal/cephcluster`. A status query takes no time, and its answer depends on when it is made.
The jobs pass their five minutes as the poll interval, under a context that is never done, so a
wait looks at its start and then every five minutes for ever: `bounded_iff`.
-/

namespace TaskWaits

section Model

/-- In nanoseconds, as `time.Duration` is. -/
def second : ℕ := 1000000000

def minute : ℕ := 60 * second

structure Task where
  status : String
  exitCode : String
  deriving DecidableEq, Repr

/-- `logErr` is what `GetTaskError` has found; the texts of the errors are made of these. -/
inductive Failure where
  | upidRequired
  | failed (exitCode logErr : String)
  | contextDone
  deriving DecidableEq, Repr

/-- PVE and the context of a wait. -/
structure Outside where
  /-- What `GetTaskStatus` answers at a time; `none` is an error. -/
  taskStatus : ℕ → Option Task
  taskError : ℕ → String
  /-- When the context is done, if that ends the pause of a round before the ticker does. -/
  contextDone : ℕ → Option ℕ

/-- An answer that ends the loop. -/
def ended : Option Task → Option Task
  | some task => if task.status ≠ "running" then some task else none
  | none => none

def report (logErr : String) (task : Task) : Except Failure Task :=
  if task.status = "stopped" ∧ task.exitCode ≠ "OK" then .error (.failed task.exitCode logErr)
  else .ok task

/-- Some rounds of the loop, and the time at which it has returned. The ticker ticks at the
multiples of the interval. -/
def poll (o : Outside) (interval : ℕ) : ℕ → ℕ → Option (ℕ × Except Failure Task)
  | 0, _ => none
  | fuel + 1, round =>
      match ended (o.taskStatus (round * interval)) with
      | some task => some (round * interval, report (o.taskError (round * interval)) task)
      | none =>
          match o.contextDone round with
          | some time => some (time, .error .contextDone)
          | none => poll o interval fuel (round + 1)

def clamp (pollInterval : ℤ) : ℕ :=
  if pollInterval < second then second else pollInterval.toNat

def waitForTask (o : Outside) (upid : String) (pollInterval : ℤ) (fuel : ℕ) :
    Option (ℕ × Except Failure Task) :=
  if upid = "" then some (0, .error .upidRequired) else poll o (clamp pollInterval) fuel 0

inductive Phase where
  | createMON
  | createMGR
  | deleteOSD
  deriving DecidableEq, Repr

/-- What each phase passes to `WaitForTask`. -/
def Phase.pollInterval : Phase → ℤ
  | .createMON => 5 * minute
  | .createMGR => 5 * minute
  | .deleteOSD => 5 * minute

/-- The jobs run under `context.Background()`. -/
def background (taskStatus : ℕ → Option Task) (taskError : ℕ → String) : Outside where
  taskStatus := taskStatus
  taskError := taskError
  contextDone _ := none

/-- The wait of a phase has returned at that time. -/
def Returns (phase : Phase) (taskStatus : ℕ → Option Task) (taskError : ℕ → String)
    (upid : String) (time : ℕ) (result : Except Failure Task) : Prop :=
  ∃ fuel, waitForTask (background taskStatus taskError) upid phase.pollInterval fuel =
    some (time, result)

end Model

section Property

/-- PVE says at that time that the task has ended. -/
def Ended (taskStatus : ℕ → Option Task) (time : ℕ) : Prop := (ended (taskStatus time)).isSome

instance (taskStatus : ℕ → Option Task) (time : ℕ) : Decidable (Ended taskStatus time) :=
  inferInstanceAs (Decidable (_ = _))

/-- A wait ends in time, with a timeout if the task has not ended until then, and otherwise with
its result and with no more delay than `slack`. -/
structure Bounded (phase : Phase) (taskStatus : ℕ → Option Task) (taskError : ℕ → String)
    (upid : String) (slack : ℕ) : Prop where
  ends : ∃ time result, Returns phase taskStatus taskError upid time result ∧ time ≤ 5 * minute
  timesOut : upid ≠ "" → (∀ u ≤ 5 * minute, ¬Ended taskStatus u) →
    ∃ time, Returns phase taskStatus taskError upid time (.error .contextDone)
  reports : upid ≠ "" → ∀ u ≤ 5 * minute, Ended taskStatus u →
    ∃ time task, time ≤ u + slack ∧ ended (taskStatus time) = some task ∧
      Returns phase taskStatus taskError upid time (report (taskError time) task)

end Property

section Polling

variable {o : Outside} {interval : ℕ} {time : ℕ} {result : Except Failure Task}

theorem poll_skip (forever : ∀ round, o.contextDone round = none) {round n : ℕ}
    (waits : ∀ m < n, ended (o.taskStatus ((round + m) * interval)) = none) (fuel : ℕ) :
    poll o interval (fuel + n) round = poll o interval fuel (round + n) := by
  induction n generalizing round with
  | zero => rfl
  | succ n ih =>
      have first := waits 0 (by omega)
      rw [Nat.add_zero] at first
      have later := @ih (round + 1) fun m inside => by
        have next := waits (m + 1) (by omega)
        have place : round + (m + 1) = round + 1 + m := by omega
        rwa [place] at next
      rw [← Nat.add_assoc, poll, first, forever round]
      exact later.trans (congrArg (poll o interval fuel) (by omega))

theorem first_of_poll (forever : ∀ round, o.contextDone round = none) {fuel round : ℕ}
    (returned : poll o interval fuel round = some (time, result)) :
    ∃ n task, time = n * interval ∧ ended (o.taskStatus time) = some task ∧
      result = report (o.taskError time) task ∧
      ∀ m, round ≤ m → m < n → ended (o.taskStatus (m * interval)) = none := by
  induction fuel generalizing round with
  | zero => cases returned
  | succ fuel ih =>
      rw [poll] at returned
      cases answer : ended (o.taskStatus (round * interval)) with
      | some task =>
          rw [answer] at returned
          obtain ⟨rfl, rfl⟩ := Prod.mk.inj (Option.some.inj returned)
          exact ⟨round, task, rfl, answer, rfl, fun m start before => by omega⟩
      | none =>
          simp only [answer, forever round] at returned
          obtain ⟨n, task, place, last, outcome, earlier⟩ := ih returned
          refine ⟨n, task, place, last, outcome, fun m start before => ?_⟩
          rcases Nat.lt_or_eq_of_le start with later | rfl
          · exact earlier m later before
          · exact answer

/-- The loop returns the first answer that ends it. -/
theorem poll_returns_iff (forever : ∀ round, o.contextDone round = none) :
    (∃ fuel, poll o interval fuel 0 = some (time, result)) ↔
      ∃ n task, time = n * interval ∧ ended (o.taskStatus time) = some task ∧
        result = report (o.taskError time) task ∧
        ∀ m < n, ended (o.taskStatus (m * interval)) = none := by
  constructor
  · rintro ⟨fuel, returned⟩
    obtain ⟨n, task, place, last, outcome, earlier⟩ := first_of_poll forever returned
    exact ⟨n, task, place, last, outcome, fun m before => earlier m (by omega) before⟩
  · rintro ⟨n, task, rfl, last, rfl, earlier⟩
    refine ⟨1 + n, ?_⟩
    rw [poll_skip forever (fun m before => by rw [Nat.zero_add]; exact earlier m before),
      Nat.zero_add, poll, last]

end Polling

section Waits

variable {phase : Phase} {taskStatus : ℕ → Option Task} {taskError : ℕ → String} {upid : String}
variable {time : ℕ} {result : Except Failure Task}

theorem clamp_pollInterval (phase : Phase) : clamp phase.pollInterval = 5 * minute := by
  cases phase <;> rfl

theorem returns_of_empty : Returns phase taskStatus taskError "" 0 (.error .upidRequired) :=
  ⟨0, rfl⟩

/-- A wait for a task looks every five minutes. -/
theorem returns_iff (named : upid ≠ "") :
    Returns phase taskStatus taskError upid time result ↔
      ∃ n task, time = n * (5 * minute) ∧ ended (taskStatus time) = some task ∧
        result = report (taskError time) task ∧
        ∀ m < n, ¬Ended taskStatus (m * (5 * minute)) := by
  have rounds := @poll_returns_iff (background taskStatus taskError) (5 * minute) time result
    fun _ => rfl
  simp only [Returns, waitForTask, if_neg named, clamp_pollInterval]
  refine rounds.trans ?_
  simp only [Ended, Option.not_isSome_iff_eq_none]
  rfl

/-- What a wait has returned by five minutes it has seen then or at its start. -/
theorem round_of_le (named : upid ≠ "") (returned : Returns phase taskStatus taskError upid time
    result) (early : time ≤ 5 * minute) :
    (time = 0 ∧ Ended taskStatus 0) ∨
      (time = 5 * minute ∧ Ended taskStatus (5 * minute) ∧ ¬Ended taskStatus 0) := by
  obtain ⟨n, task, rfl, last, -, earlier⟩ := (returns_iff named).mp returned
  have shown : Ended taskStatus (n * (5 * minute)) := by
    rw [Ended, last]
    rfl
  have five : 5 * minute = 300000000000 := rfl
  rw [five] at early shown earlier ⊢
  have rounds : n = 0 ∨ n = 1 := by omega
  rcases rounds with rfl | rfl
  · rw [Nat.zero_mul] at shown ⊢
    exact .inl ⟨rfl, shown⟩
  · have start := earlier 0 (by omega)
    rw [Nat.one_mul] at shown ⊢
    rw [Nat.zero_mul] at start
    exact .inr ⟨rfl, shown, start⟩

theorem returns_start (named : upid ≠ "") {task : Task} (last : ended (taskStatus 0) = some task) :
    Returns phase taskStatus taskError upid 0 (report (taskError 0) task) :=
  (returns_iff named).mpr ⟨0, task, by omega, last, rfl, fun m before => by omega⟩

theorem returns_five (named : upid ≠ "") {task : Task}
    (last : ended (taskStatus (5 * minute)) = some task) (runs : ¬Ended taskStatus 0) :
    Returns phase taskStatus taskError upid (5 * minute)
      (report (taskError (5 * minute)) task) := by
  refine (returns_iff named).mpr ⟨1, task, by omega, last, rfl, fun m before => ?_⟩
  obtain rfl : m = 0 := by omega
  rwa [Nat.zero_mul]

/-- A wait of a Ceph job is bounded precisely if there is no task, or it has ended when the wait
starts, or it has ended after five minutes exactly and is not seen to end long before. -/
theorem bounded_iff (phase : Phase) (taskStatus : ℕ → Option Task) (taskError : ℕ → String)
    (upid : String) (slack : ℕ) :
    Bounded phase taskStatus taskError upid slack ↔
      upid = "" ∨ Ended taskStatus 0 ∨
        (Ended taskStatus (5 * minute) ∧
          ∀ u < 5 * minute, Ended taskStatus u → 5 * minute ≤ u + slack) := by
  by_cases named : upid = ""
  · subst named
    refine iff_of_true ⟨⟨0, _, returns_of_empty, Nat.zero_le _⟩, ?_, ?_⟩ (.inl rfl)
    · exact fun some_ => absurd rfl some_
    · exact fun some_ => absurd rfl some_
  constructor
  · intro bounded
    obtain ⟨time, result, returned, early⟩ := bounded.ends
    rcases round_of_le named returned early with ⟨-, start⟩ | ⟨-, five, runs⟩
    · exact .inr (.inl start)
    · refine .inr (.inr ⟨five, fun u before shown => ?_⟩)
      obtain ⟨time', task, soon, last, returned'⟩ := bounded.reports named u (by omega) shown
      obtain ⟨n, task', rfl, -⟩ := (returns_iff named).mp returned'
      have later : n ≠ 0 := by
        rintro rfl
        rw [Nat.zero_mul] at last
        exact runs (by rw [Ended, last]; rfl)
      have once : 5 * minute ≤ n * (5 * minute) := Nat.le_mul_of_pos_left _ (by omega)
      omega
  · rintro (none_ | start | ⟨five, soon⟩)
    · exact absurd none_ named
    · obtain ⟨task, last⟩ := Option.isSome_iff_exists.mp start
      have returned := @returns_start phase taskStatus taskError upid named task last
      refine ⟨⟨0, _, returned, Nat.zero_le _⟩, fun _ never => ?_, fun _ u _ _ => ?_⟩
      · exact absurd start (never 0 (Nat.zero_le _))
      · exact ⟨0, task, Nat.zero_le _, last, returned⟩
    · by_cases start : Ended taskStatus 0
      · obtain ⟨task, last⟩ := Option.isSome_iff_exists.mp start
        have returned := @returns_start phase taskStatus taskError upid named task last
        refine ⟨⟨0, _, returned, Nat.zero_le _⟩, fun _ never => ?_, fun _ u _ _ => ?_⟩
        · exact absurd start (never 0 (Nat.zero_le _))
        · exact ⟨0, task, Nat.zero_le _, last, returned⟩
      · obtain ⟨task, last⟩ := Option.isSome_iff_exists.mp five
        have returned := @returns_five phase taskStatus taskError upid named task last start
        refine ⟨⟨5 * minute, _, returned, Nat.le_refl _⟩, fun _ never => ?_, fun _ u by_ shown => ?_⟩
        · exact absurd five (never _ (Nat.le_refl _))
        · refine ⟨5 * minute, task, ?_, last, returned⟩
          rcases Nat.lt_or_eq_of_le by_ with before | same
          · exact soon u before shown
          · omega

/-- A task that runs for ever is waited for for ever. -/
theorem runs_for_ever : ¬∃ slack, ∀ (phase : Phase) (taskStatus : ℕ → Option Task)
    (taskError : ℕ → String) (upid : String), Bounded phase taskStatus taskError upid slack := by
  rintro ⟨slack, always⟩
  have named : "UPID:pve1:1" ≠ "" := by decide
  have running : ∀ time, ¬Ended (fun _ => some ⟨"running", ""⟩) time := by
    intro time
    rw [Ended]
    decide
  obtain ⟨time, result, returned, early⟩ :=
    (always .createMON (fun _ => some ⟨"running", ""⟩) (fun _ => "") "UPID:pve1:1").ends
  rcases round_of_le named returned early with ⟨-, start⟩ | ⟨-, five, -⟩
  · exact running 0 start
  · exact running _ five

end Waits

end TaskWaits
