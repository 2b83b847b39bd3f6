import PCenter.Lib.Thread
import PCenter.SchedulerNextRun

/-!
# Ticks and executions at the same time

The loop of the service wakes every minute and starts an execution of each task that is due;
nothing marks a task whose execution has begun. Loop and executions take their steps in any
order, and any time may pass before a step. An occurrence is a task with one of its
`next_run` values. Ticks that the loop misses are dropped; the requests that change the
tasks and the daily removal of old runs are left out.
-/

namespace Scheduler

open Cron Program Transition

inductive Goroutine where
  /-- `Service.Start`, which waits for the tick after some time when it has nothing to do. -/
  | loop (tick : Int) (rest : Code Unit)
  | executing (task : ScheduledTask) (rest : Code Unit)

abbrev Occurrence := String × Option Int

def occurrence (task : ScheduledTask) : Occurrence := (task.id, task.nextRun)

structure Shared where
  memory : Memory
  /-- The calls of `executeAction` so far, each with its occurrence. -/
  calls : List Occurrence

def nextTick (tick clock : Int) : Int := tick + minute * ((clock - tick) / minute + 1)

def calledFor (task : ScheduledTask) : Cmd → List Occurrence
  | .executeAction _ _ _ _ => [occurrence task]
  | _ => []

section Steps

variable (zone : Zone)

def started : Cmd → List Goroutine
  | .goExecuteTask task => [.executing task (executeTask zone task)]
  | _ => []

def advance : Goroutine → Outside → Shared → Option (Goroutine × Shared × List Goroutine)
  | .loop tick (.done _), outside, s =>
      let clock := s.memory.clock + outside.elapsed
      let rest := if tick ≤ clock then runDueTasks else .done ()
      let tick := if tick ≤ clock then nextTick tick clock else tick
      some (.loop tick rest, ⟨⟨s.memory.db, clock⟩, s.calls⟩, [])
  | .loop tick (.act c next), outside, s =>
      let answer := perform outside c s.memory
      some (.loop tick (next answer.1), ⟨answer.2, s.calls⟩, started zone c)
  | .executing task (.done _), _, s => some (.executing task (.done ()), s, [])
  | .executing task (.act c next), outside, s =>
      let answer := perform outside c s.memory
      some (.executing task (next answer.1), ⟨answer.2, s.calls ++ calledFor task c⟩, [])

abbrev World := Thread.World Goroutine Shared

abbrev Event := Thread.Event Empty Outside

def request : Empty → Goroutine := nofun

abbrev step : World → Event → World := Thread.step (advance zone) request

/-- A service that waits for its first tick. -/
def service (db : DB) (clock tick : Int) : World :=
  ⟨⟨⟨db, clock⟩, []⟩, [.loop tick (.done ())], false⟩

def Goroutine.isLoop : Goroutine → Bool
  | loop _ _ => true
  | executing _ _ => false

/-- An execution that has not ended. -/
def Goroutine.atWork : Goroutine → Bool
  | executing _ (.act _ _) => true
  | _ => false

/-- The next command asks for the tasks that are due. -/
def queries : Code Unit → Bool
  | .act (.getDueTasks _) _ => true
  | _ => false

/-- The next command reads the clock for the next time. -/
def computes : Code Unit → Bool
  | .act .now _ => true
  | _ => false

/-- What is asked of a step of a goroutine. -/
def Allowed (w : World) : Goroutine × Outside → Prop
  | (.loop _ rest, _) => queries rest = true → ∀ g ∈ w.pool, g.atWork = false
  | (.executing task rest, outside) =>
      computes rest = true → Recurs zone task.cronExpr (w.shared.memory.clock + outside.elapsed)

/-- The loop asks for the tasks that are due only when every execution has ended, and an
execution that computes the next time finds one. -/
def Calm (w : World) (e : Event) : Prop := ∀ actor ∈ Thread.actor request w e, Allowed zone w actor

end Steps

section Invariant

/-- A task of an earlier query: it was due, and its `next_run` is still stored. -/
structure Waiting (s : Shared) (task : ScheduledTask) : Prop where
  due : ∃ v, task.nextRun = some v ∧ v ≤ unix s.memory.clock
  stored : s.memory.db.nextRun task.id = task.nextRun

def IsAction : Cmd → Prop
  | .executeAction _ _ _ _ => True
  | _ => False

/-- How far an execution is. -/
inductive Executes (zone : Zone) (s : Shared) (task : ScheduledTask) : Code Unit → Prop where
  | attempting (p : Code Unit) : Attempting p → Once IsAction p →
      (occurrence task ∈ s.calls → Never IsAction p) → Waiting s task →
        Executes zone s task (p >>= fun _ => advanceNextRun zone task)
  | storing (v next : Int) : task.nextRun = some v → s.memory.db.nextRun task.id = some v →
      v < unix next → Executes zone s task (issue (.setNextRun task.id next))
  | ended (v v' : Int) : task.nextRun = some v → s.memory.db.nextRun task.id = some v' →
      v < v' → Executes zone s task (.done ())

def startAll (tasks : List ScheduledTask) : Code Unit :=
  tasks.forM fun task => issue (.goExecuteTask task)

/-- How far the loop is. -/
inductive Round (s : Shared) : Code Unit → Prop where
  | reading : Round s runDueTasks
  | querying (now : Int) : now ≤ s.memory.clock →
      Round s (issue (.getDueTasks now) >>= startAll)
  | starting (tasks : List ScheduledTask) :
      (∀ task ∈ tasks, Waiting s task ∧ occurrence task ∉ s.calls) → Round s (startAll tasks)

def pending : Code Unit → List ScheduledTask
  | .act (.goExecuteTask task) next => task :: pending (next ())
  | _ => []

/-- The occurrences that a goroutine may call the action for. -/
def Goroutine.claims : Goroutine → List Occurrence
  | loop _ rest => (pending rest).map occurrence
  | executing task _ => [occurrence task]

def Goroutine.Sound (zone : Zone) (s : Shared) : Goroutine → Prop
  | loop _ rest => Round s rest
  | executing task rest => Executes zone s task rest

/-- What holds in every state of a calm run. -/
structure Inv (zone : Zone) (w : World) : Prop where
  sound : ∀ g ∈ w.pool, g.Sound zone w.shared
  single : w.pool.countP Goroutine.isLoop ≤ 1
  distinct : (w.pool.flatMap Goroutine.claims).Nodup
  known : ∀ o ∈ w.shared.calls, ∃ task rest,
    .executing task rest ∈ w.pool ∧ occurrence task = o
  once : w.shared.calls.Nodup

/-- What a step of the goroutine that has the claims leaves to the others. -/
structure Kept (own : List Occurrence) (s s' : Shared) : Prop where
  clock : s.memory.clock ≤ s'.memory.clock
  calls : ∀ o ∈ s'.calls, o ∈ s.calls ∨ o ∈ own
  stored : ∀ id, s'.memory.db.nextRun id = s.memory.db.nextRun id ∨
    ∃ v v', (id, some v) ∈ own ∧ s.memory.db.nextRun id = some v ∧
      s'.memory.db.nextRun id = some v' ∧ v < v'

variable {zone : Zone} {s s' : Shared} {own : List Occurrence} {task : ScheduledTask}

theorem unix_mono {t t' : Int} (le : t ≤ t') : unix t ≤ unix t' :=
  Int.ediv_le_ediv (by decide) le

theorem Waiting.kept (waiting : Waiting s task) (kept : Kept own s s')
    (other : occurrence task ∉ own) : Waiting s' task := by
  obtain ⟨v, known, past⟩ := waiting.due
  refine ⟨⟨v, known, Int.le_trans past (unix_mono kept.clock)⟩, ?_⟩
  rcases kept.stored task.id with same | ⟨u, _, claimed, before, _, _⟩
  · exact same.trans waiting.stored
  · have here : task.nextRun = some u := waiting.stored.symm.trans before
    rw [occurrence, here] at other
    exact absurd claimed other

theorem Kept.uncalled (kept : Kept own s s') {o : Occurrence} (other : o ∉ own)
    (uncalled : o ∉ s.calls) : o ∉ s'.calls := by
  intro called
  rcases kept.calls o called with earlier | mine
  · exact uncalled earlier
  · exact other mine

theorem Executes.kept {rest : Code Unit} (executes : Executes zone s task rest)
    (kept : Kept own s s') (other : occurrence task ∉ own) : Executes zone s' task rest := by
  cases executes with
  | attempting p attempts once spent waiting =>
      refine .attempting p attempts once ?_ (waiting.kept kept other)
      intro called
      rcases kept.calls _ called with earlier | mine
      · exact spent earlier
      · exact absurd mine other
  | storing v next known stored later =>
      rcases kept.stored task.id with same | ⟨u, _, claimed, before, _, _⟩
      · exact .storing v next known (same.trans stored) later
      · obtain rfl := Option.some.inj (before.symm.trans stored)
        rw [occurrence, known] at other
        exact absurd claimed other
  | ended v v' known stored later =>
      rcases kept.stored task.id with same | ⟨u, u', _, before, after, larger⟩
      · exact .ended v v' known (same.trans stored) later
      · obtain rfl := Option.some.inj (before.symm.trans stored)
        exact .ended v u' known after (Int.lt_trans later larger)

theorem pending_startAll (tasks : List ScheduledTask) : pending (startAll tasks) = tasks := by
  induction tasks with
  | nil => rfl
  | cons task tasks ih => exact congrArg (task :: ·) ih

theorem Round.kept {rest : Code Unit} (round : Round s rest) (kept : Kept own s s')
    (others : ∀ o ∈ (pending rest).map occurrence, o ∉ own) : Round s' rest := by
  cases round with
  | reading => exact .reading
  | querying now past => exact .querying now (Int.le_trans past kept.clock)
  | starting tasks waiting =>
      rw [pending_startAll] at others
      apply Round.starting
      intro task member
      have other := others _ (List.mem_map_of_mem member)
      exact ⟨(waiting task member).1.kept kept other,
        kept.uncalled other (waiting task member).2⟩

theorem Goroutine.Sound.kept {g : Goroutine} (sound : g.Sound zone s) (kept : Kept own s s')
    (others : ∀ o ∈ g.claims, o ∉ own) : g.Sound zone s' := by
  cases g with
  | loop tick rest => exact Round.kept sound kept others
  | executing task rest => exact Executes.kept sound kept (others _ (List.mem_singleton_self _))

theorem ended_of_done (executes : Executes zone s task (.done ())) :
    ∃ v v', task.nextRun = some v ∧ s.memory.db.nextRun task.id = some v' ∧ v < v' := by
  generalize same : Prog.done () = rest at executes
  cases executes with
  | attempting p => cases p <;> exact nomatch same
  | storing => exact nomatch same
  | ended v v' known stored later => exact ⟨v, v', known, stored, later⟩

theorem clock_le_perform (outside : Outside) (c : Cmd) (m : Memory) :
    m.clock ≤ (perform outside c m).2.clock := by
  rw [clock_perform]
  omega

theorem mem_calledFor {c : Cmd} {o : Occurrence} (member : o ∈ calledFor task c) :
    o = occurrence task ∧ IsAction c := by
  cases c with
  | executeAction cluster node action params => exact ⟨List.mem_singleton.mp member, trivial⟩
  | _ => exact nomatch member

theorem kept_of_calls {m : Memory} {c : Cmd} (clock : s.memory.clock ≤ m.clock)
    (same : ∀ id, m.db.nextRun id = s.memory.db.nextRun id) :
    Kept [occurrence task] s ⟨m, s.calls ++ calledFor task c⟩ := by
  refine ⟨clock, ?_, fun id => .inl (same id)⟩
  intro o member
  rcases List.mem_append.mp member with earlier | here
  · exact .inl earlier
  · exact .inr (List.mem_singleton.mpr (mem_calledFor here).1)

theorem kept_of_same {m : Memory} (clock : s.memory.clock ≤ m.clock)
    (same : ∀ id, m.db.nextRun id = s.memory.db.nextRun id) : Kept own s ⟨m, s.calls⟩ :=
  ⟨clock, fun _ member => .inl member, fun id => .inl (same id)⟩

theorem kept_setNextRun {v next : Int} {outside : Outside} (known : task.nextRun = some v)
    (stored : s.memory.db.nextRun task.id = some v) (later : v < unix next) :
    Kept [occurrence task] s
      ⟨(perform outside (.setNextRun task.id next) s.memory).2,
        s.calls ++ calledFor task (.setNextRun task.id next)⟩ := by
  refine ⟨clock_le_perform outside _ s.memory, ?_, ?_⟩
  · intro o member
    rcases List.mem_append.mp member with earlier | here
    · exact .inl earlier
    · exact nomatch here
  · intro id
    by_cases here : id = task.id
    · subst here
      refine .inr ⟨v, unix next, ?_, stored, nextRun_setNextRun stored, later⟩
      rw [occurrence, known]
      exact List.mem_singleton_self _
    · exact .inl (nextRun_setNextRun_of_ne here)

theorem nodup_calls {c : Cmd} (once : s.calls.Nodup)
    (fresh : IsAction c → occurrence task ∉ s.calls) : (s.calls ++ calledFor task c).Nodup := by
  cases c with
  | executeAction cluster node action params =>
      apply List.nodup_append.mpr
      refine ⟨once, List.nodup_singleton _, ?_⟩
      rintro o member o' here rfl
      obtain rfl := List.mem_singleton.mp here
      exact fresh trivial member
  | _ => simpa [calledFor] using once

theorem ne_setNextRun_of_attempts {c : Cmd} (attempts : Attempts c) (id : String) (t : Int) :
    c ≠ .setNextRun id t := by
  rintro rfl
  exact attempts

theorem lt_of_found {v now next : Int} {expr : String} (past : v ≤ unix now)
    (found : nextCronTime zone expr now = .ok next) : v < unix next := by
  have whole := unix_mul_of_nextCronTime found
  have later := later_of_nextCronTime found
  have before : v * second ≤ now := (Int.le_ediv_iff_mul_le (by decide)).mp past
  simp only [second] at whole before
  omega

theorem execution_step {c : Cmd} {next : Answer c → Code Unit} {outside : Outside}
    (executes : Executes zone s task (.act c next))
    (recurs : computes (.act c next) = true →
      Recurs zone task.cronExpr (s.memory.clock + outside.elapsed)) (once : s.calls.Nodup) :
    Executes zone ⟨(perform outside c s.memory).2, s.calls ++ calledFor task c⟩ task
        (next (perform outside c s.memory).1) ∧
      Kept [occurrence task] s ⟨(perform outside c s.memory).2, s.calls ++ calledFor task c⟩ ∧
        (s.calls ++ calledFor task c).Nodup := by
  generalize same : Prog.act c next = rest at executes
  cases executes with
  | attempting p attempts single spent waiting =>
      cases p with
      | done a =>
          change Prog.act c next = .act .now _ at same
          cases same
          obtain ⟨t, found⟩ := nextCronTime_of_recurs (recurs rfl)
          obtain ⟨v, known, past⟩ := waiting.due
          have clock := clock_le_perform outside .now s.memory
          have later : v < unix t :=
            lt_of_found (Int.le_trans past (unix_mono clock)) found
          refine ⟨?_, kept_of_calls clock fun _ => rfl, by simpa [calledFor] using once⟩
          change Executes zone _ task (storeNext task
            (nextCronTime zone task.cronExpr (s.memory.clock + outside.elapsed)))
          rw [found]
          exact .storing v t known (waiting.stored.trans known) later
      | act c' next' =>
          change Prog.act c next = .act c' _ at same
          cases same
          have plain := ne_setNextRun_of_attempts attempts.1
          have clock := clock_le_perform outside c s.memory
          have unchanged : ∀ id, (perform outside c s.memory).2.db.nextRun id =
              s.memory.db.nextRun id := fun id => nextRun_perform id plain
          refine ⟨?_, kept_of_calls clock unchanged,
            nodup_calls once fun action called => (spent called).1 action⟩
          refine .attempting (next' _) (attempts.2 _ trivial) (single _).1 ?_ ?_
          · intro called
            rcases List.mem_append.mp called with earlier | here
            · exact (spent earlier).2 _ trivial
            · exact (single _).2 (mem_calledFor here).2
          · obtain ⟨due, stored⟩ :=
              waiting.kept (kept_of_same clock unchanged) (List.not_mem_nil (a := occurrence task))
            exact ⟨due, stored⟩
  | storing v t known stored later =>
      cases same
      refine ⟨.ended v (unix t) known (nextRun_setNextRun stored) later,
        kept_setNextRun known stored later, by simpa [calledFor] using once⟩
  | ended => exact nomatch same

theorem never_recordRun (taskID : String) (startedAt : Int) (success : Bool)
    (upid errMsg : String) : Never IsAction (recordRun taskID startedAt success upid errMsg) :=
  ⟨id, fun _ _ => ⟨id, fun _ _ => ⟨id, fun _ _ => trivial⟩⟩⟩

theorem once_attemptOn (startedAt : Int) (node : String) :
    Once IsAction (attemptOn task startedAt node) := by
  apply once_ite
  · apply once_of_never
    apply never_recordRun
  · apply once_act
    intro answer
    cases answer with
    | error err => apply never_recordRun
    | ok upid => apply never_recordRun

theorem once_attempt : Once IsAction (attempt task) := by
  refine once_later id fun startedAt => ?_
  apply once_ite
  · apply once_attemptOn
  · refine once_later id fun node => ?_
    apply once_ite
    · apply once_of_never
      apply never_recordRun
    · apply once_attemptOn

theorem executes_executeTask (waiting : Waiting s task) (uncalled : occurrence task ∉ s.calls) :
    Executes zone s task (executeTask zone task) := by
  rw [executeTask_eq]
  exact .attempting (attempt task) attempting_attempt once_attempt
    (fun called => absurd called uncalled) waiting

/-- All that a step of one goroutine does, when the others have the claims `others`. -/
structure Moved (zone : Zone) (others : List Occurrence) (s s' : Shared) (g g' : Goroutine)
    (new : List Goroutine) : Prop where
  kept : Kept g.claims s s'
  sound : ∀ j ∈ g' :: new, j.Sound zone s'
  loops : (g' :: new).countP Goroutine.isLoop = [g].countP Goroutine.isLoop
  distinct : ((g' :: new).flatMap Goroutine.claims ++ others).Nodup
  carried : ∀ task rest, g = .executing task rest → ∃ rest', g' = .executing task rest'
  known : ∀ o ∈ s'.calls, o ∈ s.calls ∨ ∃ task rest, g' = .executing task rest ∧ occurrence task = o
  once : s'.calls.Nodup

variable {before after : List Goroutine} {g g' : Goroutine} {new : List Goroutine} {down : Bool}

theorem claims_middle : ((before ++ g' :: after ++ new).flatMap Goroutine.claims).Perm
    ((g' :: new).flatMap Goroutine.claims ++ (before ++ after).flatMap Goroutine.claims) := by
  rw [← List.flatMap_append]
  apply List.Perm.flatMap_right
  have front : (before ++ (g' :: (after ++ new))).Perm (g' :: (before ++ (after ++ new))) :=
    List.perm_middle
  have back : (before ++ after ++ new).Perm (new ++ (before ++ after)) := List.perm_append_comm
  simpa using front.trans (by simpa using back.cons g')

theorem inv_of_moved (inv : Inv zone ⟨s, before ++ g :: after, down⟩)
    (moved : Moved zone ((before ++ after).flatMap Goroutine.claims) s s' g g' new) :
    Inv zone ⟨s', before ++ g' :: after ++ new, false⟩ := by
  have apart := (@claims_middle before after g []).nodup_iff.mp (by simpa using inv.distinct)
  refine ⟨?_, ?_, ?_, ?_, moved.once⟩
  · intro j member
    by_cases other : j ∈ before ++ after
    · refine (inv.sound j ?_).kept moved.kept ?_
      · exact ((List.sublist_cons_self g after).append_left before).subset other
      · intro o theirs mine
        refine (List.nodup_append.mp apart).2.2 o ?_ o ?_ rfl
        · exact List.mem_flatMap.mpr ⟨g, List.mem_singleton_self g, mine⟩
        · exact List.mem_flatMap.mpr ⟨j, other, theirs⟩
    · apply moved.sound
      simp only [List.mem_append, List.mem_cons] at member other ⊢
      tauto
  · have before_step := inv.single
    have same := moved.loops
    simp only [List.countP_append, List.countP_cons, List.countP_nil] at before_step same ⊢
    omega
  · exact claims_middle.nodup_iff.mpr moved.distinct
  · intro o called
    rcases moved.known o called with earlier | ⟨task, rest, here, same⟩
    · obtain ⟨task, rest, member, same⟩ := inv.known o earlier
      simp only [List.mem_append, List.mem_cons] at member
      rcases member with left | mine | right
      · exact ⟨task, rest, by simp [left], same⟩
      · obtain ⟨rest', rfl⟩ := moved.carried task rest mine.symm
        exact ⟨task, rest', by simp, same⟩
      · exact ⟨task, rest, by simp [right], same⟩
    · exact ⟨task, rest, by simp [here], same⟩

theorem moved_execution {rest : Code Unit} {outside : Outside} {others : List Occurrence}
    (executes : Executes zone s task rest)
    (recurs : computes rest = true →
      Recurs zone task.cronExpr (s.memory.clock + outside.elapsed))
    (once : s.calls.Nodup)
    (distinct : ([occurrence task] ++ others).Nodup) :
    ∃ s' g' new, advance zone (.executing task rest) outside s = some (g', s', new) ∧
      Moved zone others s s' (.executing task rest) g' new := by
  cases rest with
  | done u =>
      refine ⟨s, _, [], rfl, ?_⟩
      refine ⟨⟨Int.le_refl _, fun _ => .inl, fun _ => .inl rfl⟩, ?_, rfl, distinct, ?_, ?_, once⟩
      · intro j member
        obtain rfl := List.mem_singleton.mp member
        exact executes
      · intro task' rest' same
        obtain ⟨rfl, _⟩ := Goroutine.executing.inj same
        exact ⟨_, rfl⟩
      · exact fun o called => .inl called
  | act c next =>
      obtain ⟨later, kept, once'⟩ := execution_step executes recurs once
      refine ⟨_, _, [], rfl, ?_⟩
      refine ⟨kept, ?_, rfl, distinct, ?_, ?_, once'⟩
      · intro j member
        obtain rfl := List.mem_singleton.mp member
        exact later
      · intro task' rest' same
        obtain ⟨rfl, _⟩ := Goroutine.executing.inj same
        exact ⟨_, rfl⟩
      · intro o called
        rcases List.mem_append.mp called with earlier | here
        · exact .inl earlier
        · exact .inr ⟨task, _, rfl, (mem_calledFor here).1.symm⟩

section Loop

variable {others : List Occurrence} {rest rest' : Code Unit} {tick tick' : Int}

theorem moved_of_round {m : Memory} (clock : s.memory.clock ≤ m.clock)
    (same : ∀ id, m.db.nextRun id = s.memory.db.nextRun id) (round : Round ⟨m, s.calls⟩ rest')
    (new_sound : ∀ j ∈ new, j.Sound zone ⟨m, s.calls⟩)
    (executions : new.countP Goroutine.isLoop = 0)
    (distinct : ((pending rest').map occurrence ++ new.flatMap Goroutine.claims ++ others).Nodup)
    (once : s.calls.Nodup) :
    Moved zone others s ⟨m, s.calls⟩ (.loop tick rest) (.loop tick' rest') new := by
  refine ⟨kept_of_same clock same, ?_, ?_, distinct,
    fun _ _ same => Goroutine.noConfusion same, fun o called => .inl called, once⟩
  · intro j member
    rcases List.mem_cons.mp member with rfl | later
    · exact round
    · exact new_sound j later
  · rw [List.countP_cons, executions]
    rfl

theorem nodup_due (db : DB) (now : Int) : ((db.getDueTasks now).map occurrence).Nodup := by
  apply List.Nodup.of_map Prod.fst
  rw [List.map_map]
  have sorted := (List.perm_insertionSort
    (fun a b : ScheduledTask => a.nextRun.getD 0 ≤ b.nextRun.getD 0)
    (db.tasks.filter fun task => task.due now)).map ScheduledTask.id
  apply sorted.nodup_iff.mpr
  exact db.unique.sublist (List.filter_sublist.map _)

theorem waiting_of_due {now : Int} {calls : List Occurrence} {m : Memory}
    (due : task ∈ m.db.getDueTasks now) (past : now ≤ m.clock) : Waiting ⟨m, calls⟩ task := by
  obtain ⟨member, isDue⟩ := mem_getDueTasks_iff.mp due
  obtain ⟨_, v, known, passed⟩ := due_iff.mp isDue
  exact ⟨⟨v, known, Int.le_trans passed (unix_mono past)⟩, nextRun_of_mem member⟩

/-- The occurrence is over: a later `next_run` is stored. -/
def Stale (s : Shared) (o : Occurrence) : Prop :=
  ∃ v v', o.2 = some v ∧ s.memory.db.nextRun o.1 = some v' ∧ v < v'

theorem Waiting.not_stale (waiting : Waiting s task) : ¬Stale s (occurrence task) := by
  rintro ⟨v, v', known, stored, later⟩
  have same : some v' = some v := stored.symm.trans (waiting.stored.trans known)
  obtain rfl := Option.some.inj same
  omega

theorem moved_loop {outside : Outside} (round : Round s rest)
    (stale : queries rest = true → ∀ o, o ∈ s.calls ∨ o ∈ others → Stale s o)
    (distinct : ((pending rest).map occurrence ++ others).Nodup) (once : s.calls.Nodup) :
    ∃ s' g' new, advance zone (.loop tick rest) outside s = some (g', s', new) ∧
      Moved zone others s s' (.loop tick rest) g' new := by
  have passed : s.memory.clock ≤ s.memory.clock + outside.elapsed := by omega
  cases round with
  | reading =>
      refine ⟨_, _, [], rfl, ?_⟩
      exact moved_of_round passed (fun _ => rfl) (.querying _ (Int.le_refl _))
        (List.forall_mem_nil _) rfl distinct once
  | querying now past =>
      have nothing := stale rfl
      have earlier : now ≤ s.memory.clock + outside.elapsed := Int.le_trans past passed
      have fresh : ∀ task ∈ s.memory.db.getDueTasks now, ¬Stale s (occurrence task) :=
        fun task due => Waiting.not_stale (s := s) (waiting_of_due due past)
      refine ⟨_, _, [], rfl,
        moved_of_round passed (fun _ => rfl) ?_ (List.forall_mem_nil _) rfl ?_ once⟩
      · apply Round.starting (s.memory.db.getDueTasks now)
        intro task due
        exact ⟨waiting_of_due due earlier,
          fun called => fresh task due (nothing _ (.inl called))⟩
      · change ((pending (startAll (s.memory.db.getDueTasks now))).map occurrence ++ [] ++
          others).Nodup
        rw [pending_startAll, List.append_nil]
        apply List.nodup_append.mpr
        refine ⟨nodup_due s.memory.db now, distinct, ?_⟩
        rintro o member o' other rfl
        obtain ⟨task, due, rfl⟩ := List.mem_map.mp member
        exact fresh task due (nothing _ (.inr other))
  | starting tasks waiting =>
      have kept : Kept [] s ⟨⟨s.memory.db, s.memory.clock + outside.elapsed⟩, s.calls⟩ :=
        kept_of_same passed fun _ => rfl
      rw [pending_startAll] at distinct
      cases tasks with
      | nil =>
          refine ⟨_, _, [], rfl,
            moved_of_round passed (fun _ => rfl) ?_ (List.forall_mem_nil _) rfl ?_ once⟩
          · by_cases ticks : tick ≤ s.memory.clock + outside.elapsed
            · simp only [ticks, if_true]
              exact .reading
            · simp only [ticks, if_false]
              exact .starting [] (List.forall_mem_nil _)
          · by_cases ticks : tick ≤ s.memory.clock + outside.elapsed
            · simp only [ticks, if_true]
              exact distinct
            · simp only [ticks, if_false]
              exact distinct
      | cons task tasks =>
          have here := waiting task List.mem_cons_self
          refine ⟨_, _, _, rfl, moved_of_round passed (fun _ => rfl) ?_ ?_ rfl ?_ once⟩
          · apply Round.starting tasks
            intro later member
            have waits := waiting later (List.mem_cons_of_mem task member)
            exact ⟨waits.1.kept kept List.not_mem_nil, waits.2⟩
          · intro j member
            obtain rfl := List.mem_singleton.mp member
            exact executes_executeTask (here.1.kept kept List.not_mem_nil) here.2
          · change ((pending (startAll tasks)).map occurrence ++ [occurrence task] ++ others).Nodup
            rw [pending_startAll]
            have swap : (tasks.map occurrence ++ [occurrence task]).Perm
                ((task :: tasks).map occurrence) := List.perm_append_comm
            exact (swap.append_right others).nodup_iff.mpr distinct

end Loop

section Runs

variable {w : World} {e : Event}

theorem stale_of_done {g : Goroutine} (sound : g.Sound zone s) (execution : g.isLoop = false)
    (ended : g.atWork = false) {o : Occurrence} (claimed : o ∈ g.claims) : Stale s o := by
  cases g with
  | loop tick rest => exact nomatch execution
  | executing task rest =>
      obtain rfl := List.mem_singleton.mp claimed
      cases rest with
      | act c next => exact nomatch ended
      | done u => exact ended_of_done sound

/-- When every execution has ended, every occurrence that was ever claimed is over. -/
theorem stale_of_idle {tick : Int} {rest : Code Unit} {o : Occurrence}
    (inv : Inv zone ⟨s, before ++ .loop tick rest :: after, down⟩)
    (idle : ∀ g ∈ before ++ .loop tick rest :: after, g.atWork = false)
    (mentioned : o ∈ s.calls ∨ o ∈ (before ++ after).flatMap Goroutine.claims) : Stale s o := by
  rcases mentioned with called | claimed
  · obtain ⟨task, rest', member, rfl⟩ := inv.known o called
    exact stale_of_done (inv.sound _ member) rfl (idle _ member) (List.mem_singleton_self _)
  · obtain ⟨g, other, claimed⟩ := List.mem_flatMap.mp claimed
    have member : g ∈ before ++ .loop tick rest :: after :=
      ((List.sublist_cons_self _ after).append_left before).subset other
    have single := inv.single
    rw [Thread.countP_middle] at single
    have alone : (before ++ after).countP Goroutine.isLoop = 0 := by
      simp only [List.countP_singleton, Goroutine.isLoop, if_true] at single
      omega
    have execution : g.isLoop = false := by
      simpa using List.countP_eq_zero.mp alone g other
    exact stale_of_done (inv.sound g member) execution (idle g member) claimed

theorem inv_step (inv : Inv zone w) (calm : Calm zone w e) : Inv zone (step zone w e) := by
  rcases Thread.step_cases (advance zone) request w e with ⟨_, same⟩ |
    ⟨g, outside, before, after, acts, _, turn, rest⟩
  · rw [step, same]
    exact inv
  · have allowed := calm (g, outside) acts
    obtain ⟨s, pool, down⟩ := w
    cases turn with
    | begins q => exact nomatch q
    | goes i _ _ _ _ here split =>
        obtain rfl : pool = before ++ g :: after := split
        have apart := (@claims_middle before after g []).nodup_iff.mp (by simpa using inv.distinct)
        have sound := inv.sound g (by simp)
        obtain ⟨s', g', new, advanced, moved⟩ : ∃ s' g' new,
            advance zone g outside s = some (g', s', new) ∧
              Moved zone ((before ++ after).flatMap Goroutine.claims) s s' g g' new := by
          cases g with
          | loop tick rest =>
              refine moved_loop sound ?_ (by simpa [Goroutine.claims] using apart) inv.once
              intro querying o mentioned
              exact stale_of_idle inv (allowed querying) mentioned
          | executing task rest => exact moved_execution sound allowed inv.once apart
        rcases rest with ⟨stuck, _⟩ | ⟨g'', s'', new', same, moves⟩
        · exact nomatch advanced.symm.trans stuck
        · obtain ⟨rfl, rfl, rfl⟩ : g' = g'' ∧ s' = s'' ∧ new = new' := by
            simpa using advanced.symm.trans same
          rw [step, moves]
          exact inv_of_moved inv moved

theorem inv_service (db : DB) (clock tick : Int) : Inv zone (service db clock tick) := by
  refine ⟨?_, Nat.le_refl 1, List.nodup_nil, List.forall_mem_nil _, List.nodup_nil⟩
  intro g member
  obtain rfl := List.mem_singleton.mp member
  exact Round.starting [] (List.forall_mem_nil _)

/-- In a calm run no occurrence leads to a second call. -/
theorem calledOnce_of_calm (zone : Zone) (db : DB) (clock tick : Int) (es : List Event)
    (calm : Along (step zone) (Calm zone) (service db clock tick) es) :
    ∀ w ∈ states (step zone) (service db clock tick) es, w.shared.calls.Nodup := by
  intro w member
  have kept : ∀ w e, Inv zone w → Calm zone w e → Inv zone (step zone w e) :=
    fun _ _ => inv_step
  exact (invariant_along kept (inv_service db clock tick) calm w member).once

end Runs

end Invariant

section Minutes

instance decidableAllowed (zone : Zone) (w : World) :
    (actor : Goroutine × Outside) → Decidable (Allowed zone w actor)
  | (.loop _ rest, _) =>
      inferInstanceAs (Decidable (queries rest = true → ∀ g ∈ w.pool, g.atWork = false))
  | (.executing task rest, outside) =>
      inferInstanceAs (Decidable (computes rest = true →
        Recurs zone task.cronExpr (w.shared.memory.clock + outside.elapsed)))

instance decidableCalm (zone : Zone) (w : World) (e : Event) : Decidable (Calm zone w e) :=
  inferInstanceAs (Decidable (∀ actor ∈ Thread.actor request w e, Allowed zone w actor))

/-- A service with a task for every minute, the first of them a minute away. -/
def everyMinute : World :=
  service (labDB (labTask "* * * * *" leapDay)) ((leapDay - 60) * second) (leapDay * second)

/-- Steps of a goroutine, so many milliseconds each. -/
def turns (elapsed i n : Nat) : List Event :=
  List.replicate n (.goes i ⟨1000000 * elapsed, "pve1", .ok "UPID:pve1:a:"⟩)

/-- The tick of the next minute, and the steps up to the start of an execution. -/
def round : List Event := turns 60000 0 1 ++ turns 1 0 3

/-- The first execution ends before the second tick. -/
def quietMinutes : List Event := round ++ turns 1 1 8 ++ round ++ turns 1 2 3

example : (quietMinutes.foldl (step utc) everyMinute).shared.calls =
    [("a1", some leapDay), ("a1", some (leapDay + 60))] := by decide +kernel

theorem calledOnce_in_quietMinutes :
    Along (step utc) (Calm utc) everyMinute quietMinutes ∧
      ∀ w ∈ states (step utc) everyMinute quietMinutes, w.shared.calls.Nodup := by
  have calm : Along (step utc) (Calm utc) everyMinute quietMinutes := by decide +kernel
  exact ⟨calm, calledOnce_of_calm utc _ _ _ quietMinutes calm⟩

/-- The second tick comes while the first execution waits for its action, which takes 60
seconds. -/
def busyMinutes : List Event :=
  round ++ turns 1 1 3 ++ turns 59994 0 1 ++ turns 0 0 3 ++ turns 0 2 3 ++ turns 6 1 1

theorem called_twice_in_busyMinutes :
    ¬∀ (zone : Zone) (db : DB) (clock tick : Int) (es : List Event),
      ∀ w ∈ states (step zone) (service db clock tick) es, w.shared.calls.Nodup := by
  intro claim
  have last := claim utc (labDB (labTask "* * * * *" leapDay)) ((leapDay - 60) * second)
    (leapDay * second) busyMinutes _ (last_mem_states _ _)
  exact absurd last (by decide +kernel)

end Minutes

end Scheduler
