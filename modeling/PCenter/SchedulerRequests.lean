import Mathlib.Data.List.Perm.Basic
import PCenter.Lib.Thread
import PCenter.SchedulerNextRun

/-!
# Requests beside the executions of the scheduler

The handlers that create, update and delete tasks, the ticks of the service and the executions of
tasks, each of them a thread whose statements are atomic, in any order. An execution works on the
row as it was when its task was due; the recalculation of `next_run` that follows an update works
on the row that it reads. Names, parameters and the replies to the requests change nothing here
and are kept only where a row has them.
-/

namespace Scheduler

open Cron Program Transition

structure CreateTaskRequest where
  name : String
  taskType : TaskType
  targetType : TargetType
  targetID : Int64
  cluster : String
  cronExpr : String
  params : Option GoJson.Json
  enabled : Bool

structure UpdateTaskRequest where
  name : String
  cronExpr : String
  params : Option GoJson.Json
  enabled : Bool

/-- What the handler asks for. -/
def CreateTaskRequest.complete (req : CreateTaskRequest) : Bool :=
  req.name ≠ "" && req.taskType.text ≠ "" && req.targetType.text ≠ "" && req.targetID ≠ 0 &&
    req.cronExpr ≠ ""

def CreateTaskRequest.row (id : String) (req : CreateTaskRequest) : ScheduledTask :=
  ⟨id, req.name, req.enabled, req.taskType, req.targetType, req.targetID, req.cluster,
    req.cronExpr, req.params, none, none⟩

namespace DB

variable (db : DB)

/-- The insertion fails when the id is taken. -/
def createTask (row : ScheduledTask) : Option DB :=
  if fresh : row.id ∉ db.tasks.map ScheduledTask.id then
    some
      { db with
        tasks := db.tasks ++ [row]
        unique := by
          rw [List.map_append]
          exact List.nodup_append.mpr ⟨db.unique, List.nodup_singleton _, fun a there b last same =>
            fresh (List.mem_singleton.mp last ▸ same ▸ there)⟩ }
  else none

def updateTask (id : String) (req : UpdateTaskRequest) : DB :=
  db.update id
    (fun task =>
      { task with
        name := req.name
        cronExpr := req.cronExpr
        params := req.params
        enabled := req.enabled }) fun _ => rfl

/-- Foreign keys are not enforced, and the runs of the task stay. -/
def deleteTask (id : String) : DB where
  tasks := db.tasks.filter fun task => task.id ≠ id
  runs := db.runs
  unique := db.unique.sublist (List.filter_sublist.map _)

end DB

/-- The columns that say when a task runs. -/
structure Plan where
  enabled : Bool
  cronExpr : String
  nextRun : Option Int
  deriving DecidableEq

def ScheduledTask.plan (task : ScheduledTask) : Plan := ⟨task.enabled, task.cronExpr, task.nextRun⟩

def DB.plan (db : DB) (id : String) : Option Plan := (db.getTask id).map ScheduledTask.plan

section Plans

variable {db : DB} {id id' : String}

theorem plan_update {change : ScheduledTask → ScheduledTask}
    {keeps : ∀ task, (change task).id = task.id} :
    (db.update id change keeps).plan id' =
      if id' = id then (db.getTask id').map fun task => (change task).plan else db.plan id' := by
  rw [DB.plan, getTask_update, Option.map_map]
  by_cases here : id' = id
  · simp only [here, if_true]
    rfl
  · simp only [here, if_false]
    rfl

theorem plan_setLastRun {t : Int} : (db.setLastRun id t).plan id' = db.plan id' := by
  rw [DB.setLastRun, plan_update]
  split <;> rfl

theorem plan_setNextRun {t : Int} : (db.setNextRun id t).plan id' =
    if id' = id then (db.plan id').map fun p => { p with nextRun := some (unix t) }
    else db.plan id' := by
  rw [DB.setNextRun, plan_update, DB.plan, Option.map_map]
  rfl

theorem plan_updateTask {req : UpdateTaskRequest} : (db.updateTask id req).plan id' =
    if id' = id then (db.plan id').map fun p => ⟨req.enabled, req.cronExpr, p.nextRun⟩
    else db.plan id' := by
  rw [DB.updateTask, plan_update, DB.plan, Option.map_map]
  rfl

theorem getTask_createTask {row : ScheduledTask} {db' : DB} (made : db.createTask row = some db')
    (other : id ≠ row.id) : db'.getTask id = db.getTask id := by
  rw [DB.createTask] at made
  split at made
  · obtain rfl := Option.some.inj made
    rw [DB.getTask, List.find?_append, DB.getTask]
    cases db.tasks.find? fun task => task.id = id with
    | some task => rfl
    | none =>
        apply List.find?_eq_none.mpr
        intro task last
        obtain rfl := List.mem_singleton.mp last
        simpa using other.symm
  · cases made

theorem getTask_deleteTask : (db.deleteTask id).getTask id' =
    if id' = id then none else db.getTask id' := by
  rw [DB.getTask, DB.deleteTask, List.find?_filter, DB.getTask]
  by_cases here : id' = id
  · rw [if_pos here]
    apply List.find?_eq_none.mpr
    intro task _
    simp [here]
  · rw [if_neg here]
    congr 1
    funext task
    by_cases this : task.id = id'
    · simp [this, here]
    · simp [this]

theorem plan_perform {outside : Outside} {c : Cmd} {m : Memory}
    (same : ∀ id t, c ≠ .setNextRun id t) :
    (perform outside c m).2.db.plan id = m.db.plan id := by
  cases c with
  | setLastRun id' t => exact plan_setLastRun
  | setNextRun id' t => exact absurd rfl (same id' t)
  | _ => rfl

end Plans

namespace Requests

inductive Goroutine where
  /-- A tick of the service, which starts an execution of each task that is due. -/
  | dispatching (rest : Code Unit)
  | executing (task : ScheduledTask) (rest : Code Unit)
  | creating (row : ScheduledTask)
  | updating (id : String) (req : UpdateTaskRequest)
  | deleting (id : String)
  /-- `ComputeNextRun`, which is about to read the task -/
  | computing (id : String)
  /-- What is left of it, with the row that it read. -/
  | storing (task : ScheduledTask) (rest : Code Unit)
  | ended

inductive Request where
  | tick
  /-- The new task gets the random identifier. -/
  | create (id : String) (req : CreateTaskRequest)
  | update (id : String) (req : UpdateTaskRequest)
  | delete (id : String)

def request : Request → Goroutine
  | .tick => .dispatching runDueTasks
  | .create id req => if req.complete then .creating (req.row id) else .ended
  | .update id req => .updating id req
  | .delete id => .deleting id

section Steps

variable (zone : Zone)

def started : Cmd → List Goroutine
  | .goExecuteTask task => [.executing task (executeTask zone task)]
  | _ => []

/-- `ComputeNextRun` goes on when there is a task and it is enabled. -/
def computeNextRun : Option ScheduledTask → Goroutine
  | none => .ended
  | some task => if task.enabled then .storing task (advanceNextRun zone task) else .ended

def advance : Goroutine → Outside → Memory → Option (Goroutine × Memory × List Goroutine)
  | .dispatching (.act c next), outside, m =>
      let answer := perform outside c m
      some (.dispatching (next answer.1), answer.2, started zone c)
  | .executing task (.act c next), outside, m =>
      let answer := perform outside c m
      some (.executing task (next answer.1), answer.2, [])
  | .storing task (.act c next), outside, m =>
      let answer := perform outside c m
      some (.storing task (next answer.1), answer.2, [])
  | .creating row, outside, m =>
      match m.db.createTask row with
      | none => some (.ended, ⟨m.db, m.clock + outside.elapsed⟩, [])
      | some db => some (.computing row.id, ⟨db, m.clock + outside.elapsed⟩, [])
  | .updating id req, outside, m =>
      match m.db.getTask id with
      | none => some (.ended, ⟨m.db, m.clock + outside.elapsed⟩, [])
      | some _ => some (.computing id, ⟨m.db.updateTask id req, m.clock + outside.elapsed⟩, [])
  | .deleting id, outside, m =>
      some (.ended, ⟨m.db.deleteTask id, m.clock + outside.elapsed⟩, [])
  | .computing id, outside, m =>
      some (computeNextRun zone (m.db.getTask id), ⟨m.db, m.clock + outside.elapsed⟩, [])
  | g, _, m => some (g, m, [])

abbrev World := Thread.World Goroutine Memory

abbrev Event := Thread.Event Request Outside

abbrev step : World → Event → World := Thread.step (advance zone) request

def service (m : Memory) : World := ⟨m, [], false⟩

end Steps

/-- The goroutine may still read or write the task. -/
def Goroutine.WorksOn (id : String) : Goroutine → Prop
  | .executing task (.act _ _) => task.id = id
  | .creating row => row.id = id
  | .updating id' _ | .deleting id' | .computing id' => id' = id
  | .storing task (.act _ _) => task.id = id
  | _ => False

section Schedules

variable (zone : Zone)

/-- The expression names the instant. -/
def Names (expr : String) (t : Int) : Prop :=
  ∃ sets, parseCron expr = .ok sets ∧ sets.allow (localTime zone t) = true

/-- The time that is stored is one that the expression names. -/
def Follows (p : Plan) : Prop := ∃ v, p.nextRun = some v ∧ Names zone p.cronExpr (v * second)

/-- The other expression names whatever this one names. -/
def Covers (expr expr' : String) : Prop := ∀ t, Names zone expr t → Names zone expr' t

/-- The goroutine is about to compute the next time from the expression that is stored. -/
def Serves (id : String) (p : Plan) : Goroutine → Prop
  | .computing id' => id' = id
  | .storing task (.act _ _) => task.id = id ∧ Covers zone task.cronExpr p.cronExpr
  | _ => False

def stores : Code Unit → Bool
  | .act (.setNextRun _ _) _ => true
  | _ => false

/-- The next command reads the clock for the next time. -/
def computes : Code Unit → Bool
  | .act .now _ => true
  | _ => false

/-- A time that was computed from the expression of a row may be stored. -/
def Fresh (db : DB) (others : List Goroutine) (task : ScheduledTask) : Prop :=
  ∀ p, db.plan task.id = some p → p.enabled = true →
    Covers zone task.cronExpr p.cronExpr ∨ ∃ g ∈ others, Serves zone task.id p g

/-- The recalculation may fail. -/
def Dispensable (db : DB) (others : List Goroutine) (id : String) : Prop :=
  ∀ p, db.plan id = some p → p.enabled = true →
    Follows zone p ∨ ∃ g ∈ others, Serves zone id p g

/-- What is asked of a step of a goroutine beside others. -/
def Allowed (m : Memory) (others : List Goroutine) (outside : Outside) : Goroutine → Prop
  | .executing task rest => stores rest = true → Fresh zone m.db others task
  | .storing task rest =>
      (stores rest = true → Fresh zone m.db others task) ∧
        (computes rest = true → Recurs zone task.cronExpr (m.clock + outside.elapsed) ∨
          Dispensable zone m.db others task.id)
  | _ => True

/-- Whenever a `next_run` is stored, the expression it was computed from is covered by the one
that is stored then, and whenever one is recalculated, there is one; or another request is going
to recalculate it. -/
def Calm (w : World) : Event → Prop
  | .begins _ _ => True
  | .goes i outside =>
      ∀ g ∈ w.pool[i]?, Allowed zone w.shared (w.pool.eraseIdx i) outside g

/-- How far an execution is. -/
inductive Executes (task : ScheduledTask) : Code Unit → Prop where
  | attempting (p : Code Unit) : Attempting p →
      Executes task (p >>= fun _ => advanceNextRun zone task)
  | setting (next : Int) : Names zone task.cronExpr next → unix next * second = next →
      Executes task (issue (.setNextRun task.id next))
  | ended : Executes task (.done ())

/-- How far a recalculation is. -/
inductive Stores (task : ScheduledTask) : Code Unit → Prop where
  | reading : Stores task (advanceNextRun zone task)
  | setting (next : Int) : Names zone task.cronExpr next → unix next * second = next →
      Stores task (issue (.setNextRun task.id next))
  | ended : Stores task (.done ())

def Dispatches : Cmd → Prop
  | .now | .getDueTasks _ | .goExecuteTask _ => True
  | _ => False

def Goroutine.Sound : Goroutine → Prop
  | .dispatching rest => Keeps Dispatches (fun _ _ => True) rest
  | .executing task rest => Executes zone task rest
  | .storing task rest => Stores zone task rest
  | _ => True

/-- The invariant of a run. -/
structure Inv (w : World) : Prop where
  sound : ∀ g ∈ w.pool, g.Sound zone
  served : ∀ id p, w.shared.db.plan id = some p → p.enabled = true →
    Follows zone p ∨ ∃ g ∈ w.pool, Serves zone id p g

end Schedules

section Invariant

variable {zone : Zone} {m : Memory} {others : List Goroutine} {outside : Outside}
  {task : ScheduledTask} {c : Cmd} {next : Answer c → Code Unit}

theorem covers_refl (expr : String) : Covers zone expr expr := fun _ names => names

theorem names_of_found {expr : String} {now t : Int}
    (found : nextCronTime zone expr now = .ok t) : Names zone expr t := by
  obtain ⟨sets, valid⟩ := valid_of_nextCronTime found
  exact ⟨sets, valid, allow_of_nextCronTime valid found⟩

theorem stores_storeNext (now : Int) :
    Stores zone task (storeNext task (nextCronTime zone task.cronExpr now)) := by
  cases found : nextCronTime zone task.cronExpr now with
  | error err => exact .ended
  | ok t => exact .setting t (names_of_found found) (unix_mul_of_nextCronTime found)

theorem executes_of_stores {rest : Code Unit} (stores : Stores zone task rest) :
    Executes zone task rest := by
  cases stores with
  | reading => exact .attempting (.done ()) trivial
  | setting t names whole => exact .setting t names whole
  | ended => exact .ended

theorem executes_step (executes : Executes zone task (.act c next)) :
    Executes zone task (next (perform outside c m).1) ∧
      ((∀ id t, c ≠ .setNextRun id t) ∨
        ∃ t, c = .setNextRun task.id t ∧ Names zone task.cronExpr (unix t * second)) := by
  generalize same : Prog.act c next = rest at executes
  cases executes with
  | attempting p attempts =>
      cases p with
      | done a =>
          change Prog.act c next = .act .now _ at same
          cases same
          exact ⟨executes_of_stores (stores_storeNext _), Or.inl fun id t set => by cases set⟩
      | act c' next' =>
          change Prog.act c next = .act c' _ at same
          cases same
          refine ⟨.attempting _ (attempts.2 _ trivial), Or.inl ?_⟩
          rintro id t rfl
          exact attempts.1
  | setting t names whole =>
      cases same
      exact ⟨.ended, Or.inr ⟨t, rfl, by rw [whole]; exact names⟩⟩
  | ended => cases same

/-- What a step of a goroutine has to leave to the tasks. -/
def Leaves (zone : Zone) (others : List Goroutine) (m m' : Memory) (g g' : Goroutine) : Prop :=
  (∀ id p, m.db.plan id = some p → p.enabled = true →
      Follows zone p ∨ Serves zone id p g ∨ ∃ o ∈ others, Serves zone id p o) →
    ∀ id p, m'.db.plan id = some p → p.enabled = true →
      Follows zone p ∨ Serves zone id p g' ∨ ∃ o ∈ others, Serves zone id p o

theorem inv_of_kept {w : World} {before after new : List Goroutine} {m' : Memory}
    {g g' : Goroutine} (inv : Inv zone w) (pool : w.pool = before ++ g :: after)
    (sound : g'.Sound zone) (fresh : ∀ o ∈ new, o.Sound zone)
    (kept : Leaves zone (before ++ after) w.shared m' g g') (down : Bool) :
    Inv zone ⟨m', before ++ g' :: after ++ new, down⟩ := by
  constructor
  · intro o member
    simp only [List.mem_append, List.mem_cons] at member
    rcases member with (there | rfl | there) | there
    · exact inv.sound o (by rw [pool]; exact List.mem_append_left _ there)
    · exact sound
    · exact inv.sound o
        (by rw [pool]; exact List.mem_append_right _ (List.mem_cons_of_mem _ there))
    · exact fresh o there
  · intro id p planned enabled
    have sofar : ∀ id p, w.shared.db.plan id = some p → p.enabled = true →
        Follows zone p ∨ Serves zone id p g ∨ ∃ o ∈ before ++ after, Serves zone id p o := by
      intro id p planned enabled
      rcases inv.served id p planned enabled with follows | ⟨o, member, serves⟩
      · exact Or.inl follows
      · rw [pool] at member
        simp only [List.mem_append, List.mem_cons] at member
        rcases member with there | rfl | there
        · exact Or.inr (Or.inr ⟨o, List.mem_append_left _ there, serves⟩)
        · exact Or.inr (Or.inl serves)
        · exact Or.inr (Or.inr ⟨o, List.mem_append_right _ there, serves⟩)
    rcases kept sofar id p planned enabled with follows | serves | ⟨o, member, serves⟩
    · exact Or.inl follows
    · exact Or.inr ⟨g', by simp, serves⟩
    · refine Or.inr ⟨o, ?_, serves⟩
      simp only [List.mem_append, List.mem_cons] at member ⊢
      tauto

theorem leaves_of_same {m' : Memory} {g g' : Goroutine}
    (same : ∀ id, m'.db.plan id = m.db.plan id)
    (serves : ∀ id p, Serves zone id p g → Serves zone id p g') :
    Leaves zone others m m' g g' := by
  intro sofar id p planned enabled
  rw [same] at planned
  rcases sofar id p planned enabled with follows | served | served
  · exact Or.inl follows
  · exact Or.inr (Or.inl (serves id p served))
  · exact Or.inr (Or.inr served)

theorem leaves_setNextRun {t : Int} {g g' : Goroutine}
    (names : Names zone task.cronExpr (unix t * second))
    (fresh : Fresh zone m.db others task)
    (serves : ∀ id p, Serves zone id p g → id = task.id) :
    Leaves zone others m (perform outside (.setNextRun task.id t) m).2 g g' := by
  intro sofar id p planned enabled
  change (m.db.setNextRun task.id t).plan id = some p at planned
  rw [plan_setNextRun] at planned
  by_cases here : id = task.id
  · rw [if_pos here] at planned
    subst here
    obtain ⟨old, before, rfl⟩ := Option.map_eq_some_iff.mp planned
    rcases fresh old before enabled with covers | ⟨o, member, later⟩
    · exact Or.inl ⟨unix t, rfl, covers _ names⟩
    · exact Or.inr (Or.inr ⟨o, member, by cases o <;> exact later⟩)
  · rw [if_neg here] at planned
    rcases sofar id p planned enabled with follows | served | served
    · exact Or.inl follows
    · exact absurd (serves id p served) here
    · exact Or.inr (Or.inr served)

theorem leaves_executing (executes : Executes zone task (.act c next))
    (allowed : Allowed zone m others outside (.executing task (.act c next))) :
    Leaves zone others m (perform outside c m).2 (.executing task (.act c next))
      (.executing task (next (perform outside c m).1)) := by
  rcases (@executes_step zone m outside task c next executes).2 with same | ⟨t, rfl, names⟩
  · exact leaves_of_same (fun id => plan_perform same) fun _ _ served => served
  · exact leaves_setNextRun names (allowed rfl) fun _ _ served => served.elim

theorem leaves_storing (storing : Stores zone task (.act c next))
    (allowed : Allowed zone m others outside (.storing task (.act c next))) :
    Stores zone task (next (perform outside c m).1) ∧
      Leaves zone others m (perform outside c m).2 (.storing task (.act c next))
        (.storing task (next (perform outside c m).1)) := by
  generalize same : Prog.act c next = rest at storing
  cases storing with
  | reading =>
      change Prog.act c next = .act .now _ at same
      cases same
      refine ⟨stores_storeNext _, ?_⟩
      change Leaves zone others m _ _ (.storing task (storeNext task
        (nextCronTime zone task.cronExpr (m.clock + outside.elapsed))))
      cases found : nextCronTime zone task.cronExpr (m.clock + outside.elapsed) with
      | ok t => exact leaves_of_same (fun id => rfl) fun _ _ served => served
      | error err =>
          rcases allowed.2 rfl with recurs | dispensable
          · obtain ⟨t, ok⟩ := nextCronTime_of_recurs recurs
            cases found.symm.trans ok
          · intro sofar id p planned enabled
            by_cases here : id = task.id
            · subst here
              rcases dispensable p planned enabled with follows | served
              · exact Or.inl follows
              · exact Or.inr (Or.inr served)
            · rcases sofar id p planned enabled with follows | served | served
              · exact Or.inl follows
              · exact absurd served.1.symm here
              · exact Or.inr (Or.inr served)
  | setting t names whole =>
      cases same
      refine ⟨.ended, ?_⟩
      exact leaves_setNextRun (by rw [whole]; exact names) (allowed.1 rfl)
        fun _ _ served => served.1.symm
  | ended => cases same

theorem leaves_creating {row : ScheduledTask} {db' : DB} {clock : Int}
    (made : m.db.createTask row = some db') :
    Leaves zone others m ⟨db', clock⟩ (.creating row) (.computing row.id) := by
  intro sofar id p planned enabled
  by_cases here : id = row.id
  · exact Or.inr (Or.inl here.symm)
  · have same : db'.plan id = m.db.plan id := by
      rw [DB.plan, getTask_createTask made here, DB.plan]
    rw [same] at planned
    rcases sofar id p planned enabled with follows | served | served
    · exact Or.inl follows
    · exact served.elim
    · exact Or.inr (Or.inr served)

theorem leaves_updating {id : String} {req : UpdateTaskRequest} {clock : Int} :
    Leaves zone others m ⟨m.db.updateTask id req, clock⟩ (.updating id req) (.computing id) := by
  intro sofar id' p planned enabled
  change (m.db.updateTask id req).plan id' = some p at planned
  rw [plan_updateTask] at planned
  by_cases here : id' = id
  · exact Or.inr (Or.inl here.symm)
  · rw [if_neg here] at planned
    rcases sofar id' p planned enabled with follows | served | served
    · exact Or.inl follows
    · exact served.elim
    · exact Or.inr (Or.inr served)

theorem leaves_deleting {id : String} {clock : Int} :
    Leaves zone others m ⟨m.db.deleteTask id, clock⟩ (.deleting id) .ended := by
  intro sofar id' p planned enabled
  change (m.db.deleteTask id).plan id' = some p at planned
  rw [DB.plan, getTask_deleteTask] at planned
  by_cases here : id' = id
  · rw [if_pos here] at planned
    cases planned
  · rw [if_neg here] at planned
    rcases sofar id' p planned enabled with follows | served | served
    · exact Or.inl follows
    · exact served.elim
    · exact Or.inr (Or.inr served)

theorem leaves_computing {id : String} {clock : Int} :
    Leaves zone others m ⟨m.db, clock⟩ (.computing id) (computeNextRun zone (m.db.getTask id)) := by
  intro sofar id' p planned enabled
  rcases sofar id' p planned enabled with follows | served | served
  · exact Or.inl follows
  · obtain rfl : id = id' := served
    right
    left
    obtain ⟨task, read, rfl⟩ := Option.map_eq_some_iff.mp planned
    have own : task.id = id := by simpa using List.find?_some read
    have on : task.enabled = true := enabled
    rw [read, computeNextRun, if_pos on]
    exact ⟨own, covers_refl _⟩
  · exact Or.inr (Or.inr served)

theorem sound_computeNextRun (read : Option ScheduledTask) :
    (computeNextRun zone read).Sound zone := by
  cases read with
  | none => trivial
  | some task =>
      rw [computeNextRun]
      split
      · exact Stores.reading
      · trivial

theorem keeps_runDueTasks : Keeps Dispatches (fun _ _ => True) runDueTasks := by
  refine ⟨trivial, fun now _ => ⟨trivial, fun tasks _ => ?_⟩⟩
  exact keeps_forM fun _ _ => ⟨trivial, fun _ _ => trivial⟩

theorem sound_started : ∀ o ∈ started zone c, o.Sound zone := by
  intro o member
  cases c with
  | goExecuteTask task =>
      obtain rfl := List.mem_singleton.mp member
      change Executes zone task (executeTask zone task)
      rw [executeTask_eq]
      exact .attempting _ attempting_attempt
  | _ => cases member

theorem advance_leaves {g : Goroutine} (sound : g.Sound zone)
    (allowed : Allowed zone m others outside g) :
    ∃ g' m' new, advance zone g outside m = some (g', m', new) ∧ g'.Sound zone ∧
      (∀ o ∈ new, o.Sound zone) ∧ Leaves zone others m m' g g' := by
  have none_ : ∀ o ∈ ([] : List Goroutine), o.Sound zone := fun _ member => by cases member
  have still : ∀ {g' : Goroutine}, Leaves zone others m m g' g' :=
    leaves_of_same (fun _ => rfl) fun _ _ served => served
  cases g with
  | dispatching rest =>
      cases rest with
      | done u => exact ⟨_, _, _, rfl, sound, none_, still⟩
      | act c next =>
          refine ⟨_, _, _, rfl, sound.2 _ trivial, sound_started, ?_⟩
          apply leaves_of_same
          · intro id
            apply plan_perform
            rintro id t rfl
            exact sound.1
          · exact fun _ _ served => served
  | executing task rest =>
      cases rest with
      | done u => exact ⟨_, _, _, rfl, sound, none_, still⟩
      | act c next =>
          exact ⟨_, _, _, rfl, (executes_step sound).1, none_, leaves_executing sound allowed⟩
  | storing task rest =>
      cases rest with
      | done u => exact ⟨_, _, _, rfl, sound, none_, still⟩
      | act c next =>
          obtain ⟨storing, leaves⟩ := leaves_storing sound allowed
          exact ⟨_, _, _, rfl, storing, none_, leaves⟩
  | creating row =>
      cases made : m.db.createTask row with
      | none =>
          refine ⟨.ended, _, _, by rw [advance, made], trivial, none_, ?_⟩
          exact leaves_of_same (fun _ => rfl) fun _ _ served => served
      | some db' =>
          exact ⟨.computing row.id, _, _, by rw [advance, made], trivial, none_,
            leaves_creating made⟩
  | updating id req =>
      cases found : m.db.getTask id with
      | none =>
          refine ⟨.ended, _, _, by rw [advance, found], trivial, none_, ?_⟩
          exact leaves_of_same (fun _ => rfl) fun _ _ served => served
      | some task =>
          exact ⟨.computing id, _, _, by rw [advance, found], trivial, none_, leaves_updating⟩
  | deleting id => exact ⟨_, _, _, rfl, trivial, none_, leaves_deleting⟩
  | computing id => exact ⟨_, _, _, rfl, sound_computeNextRun _, none_, leaves_computing⟩
  | ended => exact ⟨_, _, _, rfl, trivial, none_, still⟩

theorem sound_request (q : Request) : (request q).Sound zone := by
  cases q with
  | tick => exact keeps_runDueTasks
  | create id req =>
      rw [request]
      split <;> trivial
  | update id req => trivial
  | delete id => trivial

theorem allowed_request (q : Request) : Allowed zone m others outside (request q) := by
  cases q with
  | tick => trivial
  | create id req =>
      rw [request]
      split <;> trivial
  | update id req => trivial
  | delete id => trivial

theorem allowed_perm {others' : List Goroutine} {g : Goroutine} (perm : others.Perm others')
    (allowed : Allowed zone m others outside g) : Allowed zone m others' outside g := by
  have served : ∀ id p, (∃ o ∈ others, Serves zone id p o) → ∃ o ∈ others', Serves zone id p o :=
    fun _ _ ⟨o, member, serves⟩ => ⟨o, perm.mem_iff.mp member, serves⟩
  have fresh : ∀ task, Fresh zone m.db others task → Fresh zone m.db others' task :=
    fun _ fresh p planned enabled => (fresh p planned enabled).imp_right (served _ _)
  cases g with
  | executing task rest => exact fun storing => fresh task (allowed storing)
  | storing task rest =>
      refine ⟨fun storing => fresh task (allowed.1 storing), fun computing => ?_⟩
      exact (allowed.2 computing).imp_right fun dispensable p planned enabled =>
        (dispensable p planned enabled).imp_right (served _ _)
  | _ => trivial

theorem allowed_of_turn {w : World} {e : Event} {g : Goroutine} {before after : List Goroutine}
    (calm : Calm zone w e) (turn : Thread.Turn request w e g outside before after) :
    Allowed zone w.shared (before ++ after) outside g := by
  cases turn with
  | begins q => exact allowed_request q
  | goes i _ _ _ _ here split =>
      obtain ⟨inside, rfl⟩ := List.getElem?_eq_some_iff.mp here
      have erased := List.getElem_cons_eraseIdx_perm inside
      have middle := @List.perm_middle _ w.pool[i] before after
      rw [← split] at middle
      exact allowed_perm (erased.trans middle).cons_inv (calm _ here)

theorem inv_called {w : World} {e : Event} (inv : Inv zone w) :
    Inv zone ⟨w.shared, Thread.called request w e, w.down⟩ := by
  cases e with
  | goes i outside => exact inv
  | begins q outside =>
      constructor
      · intro o member
        rcases List.mem_append.mp member with there | last
        · exact inv.sound o there
        · obtain rfl := List.mem_singleton.mp last
          exact sound_request q
      · intro id p planned enabled
        rcases inv.served id p planned enabled with follows | ⟨o, there, serves⟩
        · exact Or.inl follows
        · exact Or.inr ⟨o, List.mem_append_left _ there, serves⟩

theorem inv_step {w : World} {e : Event} (inv : Inv zone w) (calm : Calm zone w e) :
    Inv zone (step zone w e) := by
  rcases Thread.step_cases (advance zone) request w e with ⟨_, same⟩ |
    ⟨g, outside, before, after, _, _, turn, rest⟩
  · rw [step, same]
    exact inv
  · have called := @inv_called zone w e inv
    have pool := turn.called_eq
    have sound : g.Sound zone := by
      apply called.sound g
      change g ∈ Thread.called request w e
      rw [pool]
      exact List.mem_append_right _ List.mem_cons_self
    obtain ⟨g', m', new, advanced, kept, fresh, leaves⟩ :=
      advance_leaves sound (allowed_of_turn calm turn)
    rcases rest with ⟨stuck, -⟩ | ⟨g'', m'', new', advanced', moved⟩
    · cases advanced.symm.trans stuck
    · obtain ⟨rfl, rfl, rfl⟩ : g' = g'' ∧ m' = m'' ∧ new = new' := by
        simpa using advanced.symm.trans advanced'
      rw [step, moved]
      exact inv_of_kept called pool kept fresh leaves false

/-- In a calm run every enabled task that nobody is at work on has a time that its expression
names. -/
theorem nextRun_follows {m : Memory} {es : List Event}
    (start : ∀ row ∈ m.db.tasks, row.enabled = true → Follows zone row.plan)
    (calm : Along (step zone) (Calm zone) (service m) es) :
    ∀ w ∈ states (step zone) (service m) es, ∀ row ∈ w.shared.db.tasks, row.enabled = true →
      (∀ g ∈ w.pool, ¬g.WorksOn row.id) → Follows zone row.plan := by
  have first : Inv zone (service m) := by
    constructor
    · intro g member
      cases member
    · intro id p planned enabled
      obtain ⟨row, read, rfl⟩ := Option.map_eq_some_iff.mp planned
      exact Or.inl (start row (List.mem_of_find?_eq_some read) enabled)
  have kept : ∀ w e, Inv zone w → Calm zone w e → Inv zone (step zone w e) :=
    fun w e inv calm => inv_step inv calm
  intro w member row there enabled idle
  have inv := invariant_along kept first calm w member
  have planned : w.shared.db.plan row.id = some row.plan := by
    rw [DB.plan, getTask_of_mem there]
    rfl
  rcases inv.served row.id row.plan planned enabled with follows | ⟨g, at_work, serves⟩
  · exact follows
  · refine absurd ?_ (idle g at_work)
    cases g with
    | computing id => exact serves
    | storing task rest =>
        cases rest with
        | done u => exact serves.elim
        | act c next => exact serves.1
    | _ => exact serves.elim

end Invariant

section Steady

variable (zone : Zone)

/-- The goroutine works with the expression that is stored. -/
def Current (db : DB) (task : ScheduledTask) : Prop :=
  ∀ p ∈ db.plan task.id, p.cronExpr = task.cronExpr

def SteadyTurn (m : Memory) (outside : Outside) : Goroutine → Prop
  | .executing task rest => stores rest = true → Current m.db task
  | .storing task rest =>
      (stores rest = true → Current m.db task) ∧
        (computes rest = true → Recurs zone task.cronExpr (m.clock + outside.elapsed))
  | _ => True

/-- No expression changes between its reading and the storing of a time computed from it. -/
def Steady (w : World) : Event → Prop
  | .begins _ _ => True
  | .goes i outside => ∀ g ∈ w.pool[i]?, SteadyTurn zone w.shared outside g

instance decidableCurrent (db : DB) (task : ScheduledTask) : Decidable (Current db task) :=
  inferInstanceAs (Decidable (∀ p ∈ db.plan task.id, p.cronExpr = task.cronExpr))

instance decidableSteadyTurn (m : Memory) (outside : Outside) :
    DecidablePred (SteadyTurn zone m outside)
  | .executing task rest => inferInstanceAs (Decidable (stores rest = true → Current m.db task))
  | .storing task rest =>
      inferInstanceAs (Decidable ((stores rest = true → Current m.db task) ∧
        (computes rest = true → Recurs zone task.cronExpr (m.clock + outside.elapsed))))
  | .dispatching _ => isTrue trivial
  | .creating _ => isTrue trivial
  | .updating _ _ => isTrue trivial
  | .deleting _ => isTrue trivial
  | .computing _ => isTrue trivial
  | .ended => isTrue trivial

instance decidableSteady (w : World) : DecidablePred (Steady zone w)
  | .begins _ _ => isTrue trivial
  | .goes i outside =>
      inferInstanceAs (Decidable (∀ g ∈ w.pool[i]?, SteadyTurn zone w.shared outside g))

variable {zone}

theorem fresh_of_current {db : DB} {others : List Goroutine} {task : ScheduledTask}
    (current : Current db task) : Fresh zone db others task := by
  intro p planned _
  left
  rw [current p planned]
  exact covers_refl _

theorem calm_of_steady {w : World} {e : Event} (steady : Steady zone w e) : Calm zone w e := by
  cases e with
  | begins q outside => trivial
  | goes i outside =>
      intro g here
      have turn := steady g here
      cases g with
      | executing task rest => exact fun storing => fresh_of_current (turn storing)
      | storing task rest =>
          exact ⟨fun storing => fresh_of_current (turn.1 storing),
            fun computing => Or.inl (turn.2 computing)⟩
      | _ => trivial

end Steady

section Lab

instance decidableWorksOn (id : String) : DecidablePred (Goroutine.WorksOn id)
  | .dispatching _ => isFalse fun none => none
  | .executing task (.act _ _) => inferInstanceAs (Decidable (task.id = id))
  | .executing _ (.done _) => isFalse fun none => none
  | .creating row => inferInstanceAs (Decidable (row.id = id))
  | .updating id' _ => inferInstanceAs (Decidable (id' = id))
  | .deleting id' => inferInstanceAs (Decidable (id' = id))
  | .computing id' => inferInstanceAs (Decidable (id' = id))
  | .storing task (.act _ _) => inferInstanceAs (Decidable (task.id = id))
  | .storing _ (.done _) => isFalse fun none => none
  | .ended => isFalse fun none => none

instance decidableNames (zone : Zone) (expr : String) (t : Int) : Decidable (Names zone expr t) :=
  match parsed : parseCron expr with
  | .ok sets =>
      decidable_of_iff (sets.allow (localTime zone t) = true)
        ⟨fun allowed => ⟨sets, parsed, allowed⟩, fun ⟨sets', parsed', allowed⟩ => by
          obtain rfl := Except.ok.inj (parsed.symm.trans parsed')
          exact allowed⟩
  | .error _ => isFalse fun ⟨_, parsed', _⟩ => by cases parsed.symm.trans parsed'

instance decidableFollows (zone : Zone) (p : Plan) : Decidable (Follows zone p) :=
  decidable_of_iff (∃ v ∈ p.nextRun, Names zone p.cronExpr (v * second)) (by simp [Follows])

/-- A task for every minute, which is due. -/
def everyMinute : Memory := ⟨labDB (labTask "* * * * *" leapDay), leapDay * second⟩

def toFivePast : UpdateTaskRequest := ⟨"start", "5 0 * * *", none, true⟩

/-- Steps of a goroutine, a millisecond each. -/
def turns (i n : Nat) : List Event :=
  List.replicate n (.goes i ⟨1000000, "pve1", .ok "UPID:pve1:a:"⟩)

def comes (q : Request) : Event := .begins q ⟨1000000, "", .ok ""⟩

/-- While the task is executed it gets another name, and then, when the execution has ended,
another expression. -/
def updateAfter : List Event :=
  comes .tick :: turns 0 2 ++ turns 1 3 ++
    comes (.update "a1" ⟨"wake", "* * * * *", none, true⟩) :: turns 1 2 ++ turns 2 2 ++
    turns 1 3 ++ turns 2 1 ++ comes (.update "a1" toFivePast) :: turns 3 3

example : ((updateAfter.foldl (step utc) (service everyMinute)).shared.db.plan "a1") =
    some ⟨true, "5 0 * * *", some (leapDay + 300)⟩ := by decide +kernel

theorem follows_updateAfter :
    (∀ row ∈ everyMinute.db.tasks, row.enabled = true → Follows utc row.plan) ∧
      Along (step utc) (Calm utc) (service everyMinute) updateAfter ∧
      ∀ w ∈ states (step utc) (service everyMinute) updateAfter, ∀ row ∈ w.shared.db.tasks,
        row.enabled = true → (∀ g ∈ w.pool, ¬g.WorksOn row.id) → Follows utc row.plan := by
  have start : ∀ row ∈ everyMinute.db.tasks, row.enabled = true → Follows utc row.plan := by
    decide +kernel
  have steady : Along (step utc) (Steady utc) (service everyMinute) updateAfter := by
    decide +kernel
  have calm := along_mono (fun _ _ => calm_of_steady) steady
  exact ⟨start, calm, nextRun_follows start calm⟩

/-- The update comes and goes while the execution waits for its action. -/
def updateBetween : List Event :=
  comes .tick :: turns 0 2 ++ turns 1 3 ++ comes (.update "a1" toFivePast) :: turns 2 3 ++
    turns 1 5

/-- In the end the task waits for the next minute. -/
theorem update_overwritten :
    ¬∀ (zone : Zone) (m : Memory) (es : List Event),
      (∀ row ∈ m.db.tasks, row.enabled = true → Follows zone row.plan) →
        ∀ w ∈ states (step zone) (service m) es, ∀ row ∈ w.shared.db.tasks, row.enabled = true →
          (∀ g ∈ w.pool, ¬g.WorksOn row.id) → Follows zone row.plan := by
  intro claim
  have last := claim utc everyMinute updateBetween (by decide +kernel) _ (last_mem_states _ _)
  exact absurd last (by decide +kernel)

end Lab

end Requests

end Scheduler
