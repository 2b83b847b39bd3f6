import PCenter.SchedulerRequests

/-!
# The history of tasks that are gone

The rows of `task_runs` refer to tasks, and the schema says that they go with them, but the
connection does not turn foreign keys on. What is stored refers to stored tasks as long as no task
with a history is deleted and no execution outlives its task.
-/

namespace Scheduler.Requests

open Cron Program Transition

/-- Every run is one of a stored task. -/
def Linked (db : DB) : Prop := ∀ r ∈ db.runs, r.taskID ∈ db.tasks.map ScheduledTask.id

instance decidableLinked (db : DB) : Decidable (Linked db) :=
  inferInstanceAs (Decidable (∀ r ∈ db.runs, r.taskID ∈ db.tasks.map ScheduledTask.id))

/-- The task whose run is about to be stored. -/
def records : Code Unit → Option String
  | .act (.addRun taskID _ _ _ _ _) _ => some taskID
  | _ => none

/-- What is asked of a step of a goroutine. -/
def TidyTurn (db : DB) : Goroutine → Prop
  | .dispatching rest | .executing _ rest | .storing _ rest =>
      ∀ id ∈ records rest, id ∈ db.tasks.map ScheduledTask.id
  | .deleting id => ∀ r ∈ db.runs, r.taskID ≠ id
  | _ => True

instance decidableTidyTurn (db : DB) : DecidablePred (TidyTurn db)
  | .executing _ rest =>
      inferInstanceAs (Decidable (∀ id ∈ records rest, id ∈ db.tasks.map ScheduledTask.id))
  | .deleting id => inferInstanceAs (Decidable (∀ r ∈ db.runs, r.taskID ≠ id))
  | .dispatching rest =>
      inferInstanceAs (Decidable (∀ id ∈ records rest, id ∈ db.tasks.map ScheduledTask.id))
  | .storing _ rest =>
      inferInstanceAs (Decidable (∀ id ∈ records rest, id ∈ db.tasks.map ScheduledTask.id))
  | .creating _ => isTrue trivial
  | .updating _ _ => isTrue trivial
  | .computing _ => isTrue trivial
  | .ended => isTrue trivial

/-- Only tasks without runs are deleted, and runs are stored only for tasks that are there. -/
def Tidy (w : World) (e : Event) : Prop :=
  ∀ actor ∈ Thread.actor request w e, TidyTurn w.shared.db actor.1

instance decidableTidy (w : World) (e : Event) : Decidable (Tidy w e) :=
  inferInstanceAs (Decidable (∀ actor ∈ Thread.actor request w e, TidyTurn w.shared.db actor.1))

/-- An execution that has not ended. -/
def Goroutine.executes : Goroutine → Bool
  | .executing _ (.act _ _) => true
  | _ => false

section History

variable {zone : Zone} {db : DB} {m : Memory} {outside : Outside} {id : String}

theorem ids_update {change : ScheduledTask → ScheduledTask}
    {keeps : ∀ task, (change task).id = task.id} :
    (db.update id change keeps).tasks.map ScheduledTask.id = db.tasks.map ScheduledTask.id := by
  rw [DB.update, List.map_map]
  apply List.map_congr_left
  intro task _
  rw [Function.comp_apply]
  split
  · exact keeps task
  · rfl

/-- The commands that leave the runs alone, and the ids of the tasks. -/
theorem linked_perform {c : Cmd} {next : Answer c → Code Unit} :
    Linked (perform outside c m).2.db ↔
      Linked m.db ∧ ∀ id ∈ records (.act c next), id ∈ m.db.tasks.map ScheduledTask.id := by
  cases c with
  | addRun taskID startedAt durationMs success upid errMsg =>
      constructor
      · intro linked
        constructor
        · exact fun r there => linked r (List.mem_append_left _ there)
        · rintro _ ⟨⟩
          exact linked _ (List.mem_append_right _ (List.mem_singleton_self _))
      · rintro ⟨linked, known⟩ r there
        rcases List.mem_append.mp there with old | new
        · exact linked r old
        · obtain rfl := List.mem_singleton.mp new
          exact known taskID rfl
  | setLastRun id t =>
      have same : Linked (m.db.setLastRun id t) ↔ Linked m.db := by
        rw [Linked, DB.setLastRun, ids_update]
        rfl
      simpa [perform, records] using same
  | setNextRun id t =>
      have same : Linked (m.db.setNextRun id t) ↔ Linked m.db := by
        rw [Linked, DB.setNextRun, ids_update]
        rfl
      simpa [perform, records] using same
  | _ => simp [perform, records]

theorem linked_createTask {row : ScheduledTask} {db' : DB} (made : db.createTask row = some db')
    (linked : Linked db) : Linked db' := by
  rw [DB.createTask] at made
  split at made
  · obtain rfl := Option.some.inj made
    intro r there
    rw [List.map_append]
    exact List.mem_append_left _ (linked r there)
  · cases made

theorem linked_deleteTask (linked : Linked db) :
    Linked (db.deleteTask id) ↔ ∀ r ∈ db.runs, r.taskID ≠ id := by
  constructor
  · rintro kept r there rfl
    obtain ⟨task, left, same⟩ := List.mem_map.mp (kept r there)
    exact of_decide_eq_true (List.mem_filter.mp left).2 same
  · intro none_ r there
    obtain ⟨task, stored, same⟩ := List.mem_map.mp (linked r there)
    apply List.mem_map.mpr
    refine ⟨task, List.mem_filter.mpr ⟨stored, decide_eq_true ?_⟩, same⟩
    rw [same]
    exact none_ r there

theorem linked_updateTask {req : UpdateTaskRequest} :
    Linked (db.updateTask id req) ↔ Linked db := by
  rw [Linked, DB.updateTask, ids_update]
  rfl

theorem linked_advance {g g' : Goroutine} {m' : Memory} {new : List Goroutine}
    (linked : Linked m.db) (advanced : advance zone g outside m = some (g', m', new)) :
    Linked m'.db ↔ TidyTurn m.db g := by
  have same : m'.db = m.db → TidyTurn m.db g → (Linked m'.db ↔ TidyTurn m.db g) :=
    fun db tidy => iff_of_true (db ▸ linked) tidy
  have command : ∀ (c : Cmd) (next : Answer c → Code Unit),
      Linked (perform outside c m).2.db ↔
        ∀ id ∈ records (.act c next), id ∈ m.db.tasks.map ScheduledTask.id :=
    fun c next => linked_perform.trans (and_iff_right linked)
  cases g with
  | dispatching rest =>
      cases rest with
      | done u =>
          cases advanced
          exact same rfl fun _ none_ => by cases none_
      | act c next =>
          cases advanced
          exact command c next
  | executing task rest =>
      cases rest with
      | done u =>
          cases advanced
          exact same rfl fun _ none_ => by cases none_
      | act c next =>
          cases advanced
          exact command c next
  | storing task rest =>
      cases rest with
      | done u =>
          cases advanced
          exact same rfl fun _ none_ => by cases none_
      | act c next =>
          cases advanced
          exact command c next
  | creating row =>
      cases made : m.db.createTask row with
      | none =>
          rw [advance, made] at advanced
          cases advanced
          exact same rfl trivial
      | some db' =>
          rw [advance, made] at advanced
          cases advanced
          exact iff_of_true (linked_createTask made linked) trivial
  | updating id req =>
      cases found : m.db.getTask id with
      | none =>
          rw [advance, found] at advanced
          cases advanced
          exact same rfl trivial
      | some task =>
          rw [advance, found] at advanced
          cases advanced
          exact iff_of_true (linked_updateTask.mpr linked) trivial
  | deleting id =>
      cases advanced
      exact linked_deleteTask linked
  | computing id =>
      cases advanced
      exact same rfl trivial
  | ended =>
      cases advanced
      exact same rfl trivial

theorem advance_isSome (g : Goroutine) : ∃ next, advance zone g outside m = some next := by
  cases g with
  | dispatching rest => cases rest <;> exact ⟨_, rfl⟩
  | executing task rest => cases rest <;> exact ⟨_, rfl⟩
  | storing task rest => cases rest <;> exact ⟨_, rfl⟩
  | creating row => cases made : m.db.createTask row <;> exact ⟨_, by rw [advance, made]⟩
  | updating id req => cases found : m.db.getTask id <;> exact ⟨_, by rw [advance, found]⟩
  | deleting id => exact ⟨_, rfl⟩
  | computing id => exact ⟨_, rfl⟩
  | ended => exact ⟨_, rfl⟩

theorem linked_step_iff {w : World} {e : Event} (linked : Linked w.shared.db) :
    Linked (step zone w e).shared.db ↔ Tidy w e := by
  rcases Thread.step_cases (advance zone) request w e with ⟨idle, same⟩ |
    ⟨g, outside, before, after, acts, _, _, rest⟩
  · rw [step, same, Tidy, idle]
    exact iff_of_true linked fun _ none_ => by cases none_
  · have turn : Tidy w e ↔ TidyTurn w.shared.db g := by
      rw [Tidy, acts]
      exact ⟨fun all => all _ rfl, fun tidy _ actor => Option.some.inj actor ▸ tidy⟩
    rcases rest with ⟨stuck, -⟩ | ⟨g', m', new, advanced, moved⟩
    · obtain ⟨next, advanced⟩ := @advance_isSome zone w.shared outside g
      cases stuck.symm.trans advanced
    · rw [turn, step, moved]
      exact linked_advance linked advanced

/-- Every run is one of a stored task all along iff every event is tidy. -/
theorem linked_iff_tidy {es : List Event} (linked : Linked m.db) :
    (∀ w ∈ states (step zone) (service m) es, Linked w.shared.db) ↔
      Along (step zone) Tidy (service m) es :=
  @invariant_iff_along _ _ _ _ (fun w : World => Linked w.shared.db) _ _
    (fun _ _ _ linked => linked_step_iff linked) linked

/-- After tidy events no run is left of a task that is gone once the executions have ended. -/
theorem no_orphans_of_tidy {es : List Event} (linked : Linked m.db)
    (tidy : Along (step zone) Tidy (service m) es) :
    ∀ w ∈ states (step zone) (service m) es, (∀ g ∈ w.pool, g.executes = false) →
      Linked w.shared.db :=
  fun w member _ => (linked_iff_tidy linked).mpr tidy w member

end History

section Lab

/-- The execution of a task that is due, and then the deletion of the task. -/
def deletedAfter : List Event := comes .tick :: turns 0 2 ++ turns 1 8 ++ [comes (.delete "a1")]

theorem run_orphaned :
    ¬∀ (zone : Zone) (m : Memory) (es : List Event), Linked m.db →
      ∀ w ∈ states (step zone) (service m) es, (∀ g ∈ w.pool, g.executes = false) →
        Linked w.shared.db := by
  intro claim
  have last := claim utc everyMinute deletedAfter (by decide) _ (last_mem_states _ _)
  exact absurd last (by decide +kernel)

theorem no_orphans_updateBetween :
    Linked everyMinute.db ∧ Along (step utc) Tidy (service everyMinute) updateBetween ∧
      ∀ w ∈ states (step utc) (service everyMinute) updateBetween,
        (∀ g ∈ w.pool, g.executes = false) → Linked w.shared.db := by
  have linked : Linked everyMinute.db := by decide
  have tidy : Along (step utc) Tidy (service everyMinute) updateBetween := by decide +kernel
  exact ⟨linked, tidy, no_orphans_of_tidy linked tidy⟩

end Lab

end Scheduler.Requests
