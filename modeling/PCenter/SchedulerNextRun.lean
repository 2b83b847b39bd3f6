import PCenter.Scheduler

/-!
# What one execution leaves in `next_run`

An execution by itself, from its start to its end: an attempt, on one of several paths, and
then the computation of the next time. The attempt never touches `next_run`.
-/

namespace Scheduler

open Cron Program

/-- The commands of an attempt. -/
def Attempts : Cmd → Prop
  | .startedAt | .since _ | .resolveNode _ _ _ | .executeAction _ _ _ _ => True
  | .addRun _ _ _ _ _ _ | .setLastRun _ _ => True
  | .now | .setNextRun _ _ | .getDueTasks _ | .goExecuteTask _ => False

section Attempt

variable (zone : Zone) (task : ScheduledTask)

def attemptOn (startedAt : Int) (node : String) : Code Unit :=
  if taskTypeToAction task = "" then
    recordRun task.id startedAt false "" ("unknown task type: " ++ task.taskType.text)
  else do
    let answer ← issue
      (.executeAction task.cluster node (taskTypeToAction task) (mergeParams task))
    match answer with
    | .error err => recordRun task.id startedAt false "" err
    | .ok upid => recordRun task.id startedAt true upid ""

/-- An execution without its last part. -/
def attempt : Code Unit := do
  let startedAt ← issue .startedAt
  if isClusterWideTask task.taskType then attemptOn task startedAt ""
  else
    let node ← issue (.resolveNode task.cluster task.targetType task.targetID)
    if node = "" then recordRun task.id startedAt false "" "could not resolve target node"
    else attemptOn task startedAt node

theorem executeOn_eq (startedAt : Int) (node : String) :
    executeOn zone task startedAt node =
      attemptOn task startedAt node >>= fun _ => advanceNextRun zone task := by
  rw [executeOn, attemptOn]
  by_cases unknown : taskTypeToAction task = ""
  · rw [if_pos unknown, if_pos unknown]
  · rw [if_neg unknown, if_neg unknown, bind_assoc]
    apply congrArg
    funext answer
    cases answer <;> rfl

theorem executeTask_eq :
    executeTask zone task = attempt task >>= fun _ => advanceNextRun zone task := by
  rw [executeTask, attempt, bind_assoc]
  apply congrArg
  funext startedAt
  by_cases wide : isClusterWideTask task.taskType = true
  · rw [if_pos wide, if_pos wide, executeOn_eq]
  · rw [if_neg wide, if_neg wide, bind_assoc]
    apply congrArg
    funext node
    by_cases unresolved : node = ""
    · rw [if_pos unresolved, if_pos unresolved]
    · rw [if_neg unresolved, if_neg unresolved, executeOn_eq]

abbrev Attempting {A : Type} (code : Code A) : Prop := Keeps Attempts (fun _ _ => True) code

variable {task}

theorem attempting_recordRun (taskID : String) (startedAt : Int) (success : Bool)
    (upid errMsg : String) : Attempting (recordRun taskID startedAt success upid errMsg) :=
  ⟨trivial, fun _ _ => ⟨trivial, fun _ _ => ⟨trivial, fun _ _ => trivial⟩⟩⟩

theorem attempting_attemptOn (startedAt : Int) (node : String) :
    Attempting (attemptOn task startedAt node) := by
  apply keeps_ite
  · intro _
    apply attempting_recordRun
  · intro _
    refine ⟨trivial, fun answer _ => ?_⟩
    cases answer with
    | error err => apply attempting_recordRun
    | ok upid => apply attempting_recordRun

theorem attempting_attempt : Attempting (attempt task) := by
  refine ⟨trivial, fun startedAt _ => ?_⟩
  apply keeps_ite
  · intro _
    apply attempting_attemptOn
  · intro _
    refine ⟨trivial, fun node _ => ?_⟩
    apply keeps_ite
    · intro _
      apply attempting_recordRun
    · intro _
      apply attempting_attemptOn

end Attempt

theorem clock_perform (outside : Outside) (c : Cmd) (m : Memory) :
    (perform outside c m).2.clock = m.clock + outside.elapsed := by
  cases c <;> rfl

theorem nextRun_perform {outside : Outside} {c : Cmd} {m : Memory} (id : String)
    (same : ∀ id' t, c ≠ .setNextRun id' t) :
    (perform outside c m).2.db.nextRun id = m.db.nextRun id := by
  cases c with
  | setLastRun id' t => exact nextRun_setLastRun
  | setNextRun id' t => exact absurd rfl (same id' t)
  | _ => rfl

/-- An execution that has the database to itself. -/
structure Alone where
  memory : Memory
  asked : Nat

def serve (outside : Nat → Outside) (c : Cmd) (s : Alone) : Option (Answer c × Alone) :=
  let answer := perform (outside s.asked) c s.memory
  some (answer.1, ⟨answer.2, s.asked + 1⟩)

def reading : Sigma Answer → Option Int
  | ⟨.now, t⟩ => some t
  | _ => none

/-- After the instant the task waits for a time that its expression names. -/
structure Advanced (zone : Zone) (sets : Sets) (db : DB) (id : String) (instant : Int) : Prop where
  later : ∃ next, db.nextRun id = some next ∧ instant < next * second
  quiet : ∀ now, (∃ row ∈ db.getDueTasks now, row.id = id) →
    ∃ t, instant < t ∧ t ≤ now ∧ sets.allow (localTime zone t) = true

section Advance

variable {zone : Zone} {sets : Sets} {db : DB} {task : ScheduledTask} {instant clock : Int}
  {outside : Nat → Outside} {h : List (Sigma Answer)} {s t : Alone} {u : Unit}

theorem exists_executed (outside : Nat → Outside) (code : Code Unit) (s : Alone) :
    ∃ h u t, Ran (serve outside) code s h u t :=
  exists_ran (fun _ _ => ⟨_, rfl⟩) code s

theorem readings_of_attempting {code : Code Unit} (attempting : Attempting code)
    (ran : Ran (serve outside) code s h u t) : h.filterMap reading = [] := by
  rw [List.filterMap_eq_nil_iff]
  rintro ⟨c, r⟩ member
  have issued : Attempts c := issues_of_ran attempting ran ⟨c, r⟩ member
  cases c <;> first | rfl | exact issued.elim

theorem kept_of_attempting {code : Code Unit} (attempting : Attempting code)
    (ran : Ran (serve outside) code s h u t) (id : String) :
    t.memory.db.nextRun id = s.memory.db.nextRun id ∧ s.memory.clock ≤ t.memory.clock := by
  change (fun t : Alone => t.memory.db.nextRun id = s.memory.db.nextRun id ∧
    s.memory.clock ≤ t.memory.clock) t
  apply invariant_of_ran ?_ attempting ran
  · exact ⟨rfl, Int.le_refl _⟩
  · intro c r _ r' issued served same
    obtain ⟨rfl, rfl⟩ := Prod.mk.inj (Option.some.inj served)
    have advanced := clock_perform (outside r.asked) c r.memory
    constructor
    · rw [nextRun_perform, same.1]
      rintro id' v rfl
      exact issued
    · have sofar := same.2
      simp only [advanced]
      omega

/-- What follows the search for the next time. -/
def storeNext (task : ScheduledTask) : Except String Int → Code Unit
  | .error _ => pure ()
  | .ok next => issue (.setNextRun task.id next)

/-- The computation of the next time either stores one, or leaves everything as it was. -/
theorem advance_cases (ran : Ran (serve outside) (advanceNextRun zone task) s h u t) :
    ∃ now, now = s.memory.clock + (outside s.asked).elapsed ∧ h.filterMap reading = [now] ∧
      ((∃ next, nextCronTime zone task.cronExpr now = .ok next ∧
          t.memory.db = s.memory.db.setNextRun task.id next) ∨
        (∃ err, nextCronTime zone task.cronExpr now = .error err) ∧
          t.memory.db = s.memory.db) := by
  obtain ⟨now, r, h', served, rfl, later⟩ := ran_act.mp ran
  obtain ⟨rfl, rfl⟩ := Prod.mk.inj (Option.some.inj served)
  refine ⟨s.memory.clock + (outside s.asked).elapsed, rfl, ?_⟩
  change Ran (serve outside) (storeNext task
    (nextCronTime zone task.cronExpr (s.memory.clock + (outside s.asked).elapsed))) _ h' u t
      at later
  cases found : nextCronTime zone task.cronExpr (s.memory.clock + (outside s.asked).elapsed) with
  | error err =>
      rw [found] at later
      obtain ⟨rfl, _, rfl⟩ := ran_done.mp later
      exact ⟨rfl, .inr ⟨⟨err, rfl⟩, rfl⟩⟩
  | ok next =>
      rw [found] at later
      obtain ⟨_, _, rest, served, rfl, ended⟩ := ran_act.mp later
      obtain ⟨rfl, _, rfl⟩ := ran_done.mp ended
      obtain ⟨rfl, rfl⟩ := Prod.mk.inj (Option.some.inj served)
      exact ⟨rfl, .inl ⟨next, rfl, rfl⟩⟩

/-- An execution reads the clock for the next time once, after its attempt. -/
theorem executed_cases {m : Memory}
    (ran : Ran (serve outside) (executeTask zone task) ⟨m, 0⟩ h u s) :
    ∃ now, m.clock ≤ now ∧ h.filterMap reading = [now] ∧
      ((∃ next, nextCronTime zone task.cronExpr now = .ok next ∧
          ∀ old, m.db.nextRun task.id = some old →
            s.memory.db.nextRun task.id = some (unix next)) ∨
        (∃ err, nextCronTime zone task.cronExpr now = .error err) ∧
          s.memory.db.nextRun task.id = m.db.nextRun task.id) := by
  rw [executeTask_eq] at ran
  obtain ⟨v, t, first, last, rfl, attempted, advanced⟩ := ran_bind.mp ran
  obtain ⟨same, sofar⟩ := kept_of_attempting attempting_attempt attempted task.id
  obtain ⟨now, passed, readings, stored⟩ := advance_cases advanced
  refine ⟨now, by simp only at sofar; omega, ?_, ?_⟩
  · rw [List.filterMap_append, readings_of_attempting attempting_attempt attempted, readings]
    rfl
  · rcases stored with ⟨next, found, set⟩ | ⟨failed, unset⟩
    · refine .inl ⟨next, found, fun old known => ?_⟩
      rw [set]
      exact nextRun_setNextRun (same.trans known)
    · exact .inr ⟨failed, by rw [unset, same]⟩

theorem nextRun_of_due (due : task ∈ db.getDueTasks instant) :
    ∃ next, db.nextRun task.id = some next ∧ next * second ≤ instant := by
  obtain ⟨member, isDue⟩ := mem_getDueTasks_iff.mp due
  obtain ⟨_, next, known, past⟩ := due_iff.mp isDue
  refine ⟨next, (nextRun_of_mem member).trans known, ?_⟩
  exact (Int.le_ediv_iff_mul_le (by decide)).mp past

theorem advanced_of_nextRun {next : Int} (stored : db.nextRun task.id = some (unix next))
    (whole : unix next * second = next) (later : instant < next)
    (allowed : sets.allow (localTime zone next) = true) :
    Advanced zone sets db task.id instant := by
  refine ⟨⟨unix next, stored, by rwa [whole]⟩, ?_⟩
  rintro now ⟨row, due, same⟩
  obtain ⟨v, known, past⟩ := nextRun_of_due due
  rw [same, stored] at known
  obtain rfl := Option.some.inj known
  rw [whole] at past
  exact ⟨next, later, past, allowed⟩

/-- A task that has been executed waits for its next time iff its expression names a minute of
the 366 days after the clock is read. -/
theorem advanced_iff_matchable (due : task ∈ db.getDueTasks instant)
    (valid : parseCron task.cronExpr = .ok sets) (begun : instant ≤ clock)
    (ran : Ran (serve outside) (executeTask zone task) ⟨⟨db, clock⟩, 0⟩ h u s) :
    ∃ now, h.filterMap reading = [now] ∧
      (Advanced zone sets s.memory.db task.id instant ↔ Matchable zone sets now) := by
  obtain ⟨old, known, past⟩ := nextRun_of_due due
  obtain ⟨now, sofar, readings, stored⟩ := executed_cases ran
  refine ⟨now, readings, ?_⟩
  rw [← nextCronTime_ok_iff valid]
  rcases stored with ⟨next, found, set⟩ | ⟨⟨err, failed⟩, unset⟩
  · refine iff_of_true ?_ ⟨next, found⟩
    have later : now < next := later_of_nextCronTime found
    have begun' : clock ≤ now := sofar
    exact advanced_of_nextRun (set old known) (unix_mul_of_nextCronTime found) (by omega)
      (allow_of_nextCronTime valid found)
  · refine iff_of_false ?_ ?_
    · rintro ⟨⟨next, same, later⟩, _⟩
      rw [unset] at same
      obtain rfl := Option.some.inj (known.symm.trans same)
      omega
    · rintro ⟨next, found⟩
      exact nomatch found.symm.trans failed

end Advance

section Lab

def utc : Zone := fun _ => 0

def labTask (cronExpr : String) (nextRun : Int) : ScheduledTask :=
  ⟨"a1", "start", true, .powerOn, .vm, 100, "lab", cronExpr, none, none, some nextRun⟩

def labDB (task : ScheduledTask) : DB := ⟨[task], [], List.nodup_singleton task.id⟩

/-- Every command takes a millisecond. -/
def labOutside : Nat → Outside := fun _ => ⟨1000000, "pve1", .ok "UPID:pve1:a:"⟩

/-- The first second of the 29th of February 2028. -/
def leapDay : Int := 1835395200

def leapSets : Sets := ⟨[0], [0], [29], [2], steps 0 6 1⟩

theorem parse_leap : parseCron "0 0 29 2 *" = .ok leapSets := by
  have parsed : (parseCron "0 0 29 2 *").toOption = some leapSets := by decide
  cases known : parseCron "0 0 29 2 *" with
  | error err => simp [known, Except.toOption] at parsed
  | ok sets =>
      rw [known] at parsed
      rw [Option.some.inj parsed]

theorem advanced_after_start :
    parseCron (labTask "0 0 29 2 *" leapDay).cronExpr = .ok leapSets ∧
      ∃ h u s now,
        Ran (serve labOutside) (executeTask utc (labTask "0 0 29 2 *" leapDay))
          ⟨⟨labDB (labTask "0 0 29 2 *" leapDay), leapDay * second⟩, 0⟩ h u s ∧
        h.filterMap reading = [now] ∧
        (Advanced utc leapSets s.memory.db "a1" (leapDay * second) ↔
          Matchable utc leapSets now) := by
  obtain ⟨h, u, s, ran⟩ := exists_executed labOutside
    (executeTask utc (labTask "0 0 29 2 *" leapDay))
    ⟨⟨labDB (labTask "0 0 29 2 *" leapDay), leapDay * second⟩, 0⟩
  have due : labTask "0 0 29 2 *" leapDay ∈
      (labDB (labTask "0 0 29 2 *" leapDay)).getDueTasks (leapDay * second) :=
    mem_getDueTasks_iff.mpr ⟨List.mem_singleton_self _, by decide⟩
  obtain ⟨now, readings, iff⟩ :=
    advanced_iff_matchable due parse_leap (Int.le_refl _) ran
  exact ⟨parse_leap, h, u, s, now, ran, readings, iff⟩

theorem not_matchable_leap {now : Int} (first : leapDay * second ≤ now)
    (soon : now < leapDay * second + minute) : ¬Matchable utc leapSets now := by
  rintro ⟨k, below, allowed⟩
  have seconds : unix (nextMinute now + k * minute) = leapDay + 60 * (k + 1) := by
    simp only [unix, nextMinute, minute, second, leapDay] at first soon ⊢
    omega
  have days : ∀ d < 367, (Calendar.dateOf (21243 + (d : Nat))).month = 2 →
      (Calendar.dateOf (21243 + (d : Nat))).day = 29 → d = 0 := by decide +kernel
  have today := days ((k + 1) / 1440) (by simp only [horizon] at below; omega)
  have date : (leapDay + 60 * ((k : Int) + 1)) / 86400 = 21243 + ((k + 1) / 1440 : Nat) := by
    simp only [leapDay]
    omega
  simp only [Sets.allow, localTime, seconds, utc, Int.add_zero, Calendar.reading, date, leapSets,
    Bool.and_eq_true, List.contains_iff_mem, List.mem_singleton] at allowed
  obtain ⟨⟨⟨⟨month, day⟩, _⟩, hour⟩, exact_minute⟩ := allowed
  have same := today month day
  simp only [leapDay] at hour exact_minute
  omega

/-- On the 29th of February the task finds no later day and stays due. -/
theorem due_again_on_leap_day :
    ¬∀ (zone : Zone) (sets : Sets) (db : DB) (task : ScheduledTask) (instant clock : Int)
      (outside : Nat → Outside) (h : List (Sigma Answer)) (u : Unit) (s : Alone),
      task ∈ db.getDueTasks instant → parseCron task.cronExpr = .ok sets → instant ≤ clock →
        Ran (serve outside) (executeTask zone task) ⟨⟨db, clock⟩, 0⟩ h u s →
          Advanced zone sets s.memory.db task.id instant := by
  intro claim
  let task := labTask "0 0 29 2 *" leapDay
  let start : Alone := ⟨⟨labDB task, leapDay * second⟩, 0⟩
  have due : task ∈ (labDB task).getDueTasks (leapDay * second) :=
    mem_getDueTasks_iff.mpr ⟨List.mem_singleton_self _, by decide⟩
  obtain ⟨h, u, s, ran⟩ := exists_executed labOutside (executeTask utc task) start
  obtain ⟨⟨next, stored, later⟩, _⟩ := claim utc leapSets (labDB task) task (leapDay * second)
    (leapDay * second) labOutside h u s due parse_leap (Int.le_refl _) ran
  rw [executeTask_eq] at ran
  obtain ⟨v, t, first, last, _, attempted, advanced⟩ := ran_bind.mp ran
  have spent : (record (serve labOutside) (attempt task) start).map (·.2.1.memory.clock) =
      some (leapDay * second + 6000000) := by decide +kernel
  rw [Ran] at attempted
  rw [attempted] at spent
  have clock : t.memory.clock = leapDay * second + 6000000 := Option.some.inj spent
  obtain ⟨now, passed, _, ⟨found, ok, _⟩ | ⟨_, unset⟩⟩ := advance_cases advanced
  · refine not_matchable_leap ?_ ?_ ((nextCronTime_ok_iff parse_leap).mp ⟨found, ok⟩)
    · simp only [labOutside] at passed
      omega
    · simp only [labOutside, minute, second] at passed clock ⊢
      omega
  · have known : (labDB task).nextRun task.id = some leapDay := rfl
    rw [unset, (kept_of_attempting attempting_attempt attempted task.id).1, known] at stored
    obtain rfl := Option.some.inj stored
    omega

end Lab

end Scheduler
