import Mathlib.Data.List.Sort
import PCenter.Cron
import PCenter.Lib.FiniteMap
import PCenter.Lib.Json
import PCenter.Lib.Program

/-!
# The scheduler

The tables of the scheduler's database, and what the service does with a task that is due.
A goroutine is a program of commands: a reading of the clock, a statement of the database, a
call to the outside; before each some time passes. The clock never goes back, and the
database answers every statement. Log messages are left out, and so are the random
identifiers of the runs and the times of creation and update.
-/

namespace Scheduler

open GoJson Cron Program

inductive TaskType where
  | powerOn
  | powerOff
  | shutdown
  | snapshotCreate
  | snapshotCleanup
  | snapshotRotate
  | backupCreate
  | acmeRenew
  | migrate
  | other (name : String)
  deriving DecidableEq, Repr

def TaskType.text : TaskType → String
  | powerOn => "power_on"
  | powerOff => "power_off"
  | shutdown => "shutdown"
  | snapshotCreate => "snapshot_create"
  | snapshotCleanup => "snapshot_cleanup"
  | snapshotRotate => "snapshot_rotate"
  | backupCreate => "backup_create"
  | acmeRenew => "acme_renew"
  | migrate => "migrate"
  | other name => name

inductive TargetType where
  | vm
  | container
  | other (name : String)
  deriving DecidableEq, Repr

def TargetType.text : TargetType → String
  | vm => "vm"
  | container => "ct"
  | other name => name

/-- A row of `scheduled_tasks`; times are in seconds. -/
structure ScheduledTask where
  id : String
  name : String
  enabled : Bool
  taskType : TaskType
  targetType : TargetType
  targetID : Int64
  cluster : String
  cronExpr : String
  /-- The document, when the text is one that `encoding/json` parses. -/
  params : Option Json
  lastRun : Option Int
  nextRun : Option Int

/-- A row of `task_runs`. -/
structure TaskRun where
  taskID : String
  startedAt : Int
  durationMs : Int
  success : Bool
  upid : String
  error : String
  deriving DecidableEq, Repr

structure DB where
  tasks : List ScheduledTask
  runs : List TaskRun
  /-- The primary key. -/
  unique : (tasks.map ScheduledTask.id).Nodup

def ScheduledTask.due (task : ScheduledTask) (now : Int) : Bool :=
  task.enabled && match task.nextRun with
    | none => false
    | some next => next ≤ unix now

namespace DB

variable (db : DB)

def getTask (id : String) : Option ScheduledTask := db.tasks.find? fun task => task.id = id

/-- The `next_run` that is stored for a task. -/
def nextRun (id : String) : Option Int := (db.getTask id).bind ScheduledTask.nextRun

def getDueTasks (now : Int) : List ScheduledTask :=
  (db.tasks.filter fun task => task.due now).insertionSort fun s t =>
    s.nextRun.getD 0 ≤ t.nextRun.getD 0

/-- `UPDATE scheduled_tasks SET … WHERE id = ?` -/
def update (id : String) (change : ScheduledTask → ScheduledTask)
    (keeps : ∀ task, (change task).id = task.id) : DB where
  tasks := db.tasks.map fun task => if task.id = id then change task else task
  runs := db.runs
  unique := by
    rw [List.map_map]
    have same : ScheduledTask.id ∘ (fun task => if task.id = id then change task else task) =
        ScheduledTask.id := by
      funext task
      by_cases here : task.id = id
      · simp [here, keeps]
      · simp [here]
    rw [same]
    exact db.unique

def setNextRun (id : String) (nextRun : Int) : DB :=
  db.update id (fun task => { task with nextRun := some (unix nextRun) }) fun _ => rfl

def setLastRun (id : String) (lastRun : Int) : DB :=
  db.update id (fun task => { task with lastRun := some (unix lastRun) }) fun _ => rfl

def addRun (taskID : String) (startedAt durationMs : Int) (success : Bool)
    (upid errMsg : String) : DB :=
  { db with runs := db.runs ++ [⟨taskID, unix startedAt, durationMs, success, upid, errMsg⟩] }

end DB

/-- A value of `map[string]interface{}`: the number that the scheduler puts there, or what the
decoder makes of a document. -/
inductive Value where
  | int (n : Int64)
  | decoded (v : Json)

abbrev Params := FiniteMap.Map String Value

inductive Cmd where
  /-- The `time.Now()` that an execution begins with. -/
  | startedAt
  /-- `time.Now()` -/
  | now
  /-- `time.Since` -/
  | since (t : Int)
  | resolveNode (cluster : String) (targetType : TargetType) (targetID : Int64)
  | executeAction (cluster node action : String) (params : Params)
  | addRun (taskID : String) (startedAt durationMs : Int) (success : Bool) (upid errMsg : String)
  | setLastRun (id : String) (lastRun : Int)
  | setNextRun (id : String) (nextRun : Int)
  | getDueTasks (now : Int)
  /-- `go s.executeTask(ctx, task)` -/
  | goExecuteTask (task : ScheduledTask)

abbrev Answer : Cmd → Type
  | .startedAt => Int
  | .now => Int
  | .since _ => Int
  | .resolveNode _ _ _ => String
  | .executeAction _ _ _ _ => Except String String
  | .addRun _ _ _ _ _ _ => Unit
  | .setLastRun _ _ => Unit
  | .setNextRun _ _ => Unit
  | .getDueTasks _ => List ScheduledTask
  | .goExecuteTask _ => Unit

abbrev Code := Prog Cmd Answer

def issue (c : Cmd) : Code (Answer c) := ask c

def isClusterWideTask : TaskType → Bool
  | .acmeRenew => true
  | _ => false

def taskTypeToAction (task : ScheduledTask) : String :=
  match task.taskType with
  | .powerOn => task.targetType.text ++ "_start"
  | .powerOff => task.targetType.text ++ "_stop"
  | .shutdown => task.targetType.text ++ "_shutdown"
  | .snapshotCreate => task.targetType.text ++ "_snapshot_create"
  | .snapshotCleanup => task.targetType.text ++ "_snapshot_delete"
  | .snapshotRotate => task.targetType.text ++ "_snapshot_rotate"
  | .backupCreate => task.targetType.text ++ "_backup"
  | .acmeRenew => "cluster_acme_renew"
  | .migrate => task.targetType.text ++ "_migrate"
  | .other _ => ""

/-- `json.Unmarshal` of the task's own document into a map, if it gives no error. -/
def extraParams (task : ScheduledTask) : Option Fields :=
  task.params.bind fun doc => (assignMap [] doc).toOption

/-- The identifier of the guest, and over it what the task's own document has. -/
def mergeParams (task : ScheduledTask) : Params :=
  let params : Params := (∅ : Params).insert "vmid" (.int task.targetID)
  match extraParams task with
  | some extra => extra.foldr (fun entry params => params.insert entry.1 (.decoded entry.2)) params
  | none => params

def recordRun (taskID : String) (startedAt : Int) (success : Bool) (upid errMsg : String) :
    Code Unit := do
  let elapsed ← issue (.since startedAt)
  issue (.addRun taskID startedAt (elapsed / 1000000) success upid errMsg)
  issue (.setLastRun taskID startedAt)

section Execution

variable (zone : Zone) (task : ScheduledTask)

def advanceNextRun : Code Unit := do
  let now ← issue .now
  match nextCronTime zone task.cronExpr now with
  | .error _ => pure ()
  | .ok next => issue (.setNextRun task.id next)

/-- The part of `executeTask` that begins with the name of the action. -/
def executeOn (startedAt : Int) (node : String) : Code Unit :=
  if taskTypeToAction task = "" then do
    recordRun task.id startedAt false "" ("unknown task type: " ++ task.taskType.text)
    advanceNextRun zone task
  else do
    let answer ← issue
      (.executeAction task.cluster node (taskTypeToAction task) (mergeParams task))
    match answer with
    | .error err => recordRun task.id startedAt false "" err
    | .ok upid => recordRun task.id startedAt true upid ""
    advanceNextRun zone task

def executeTask : Code Unit := do
  let startedAt ← issue .startedAt
  if isClusterWideTask task.taskType then executeOn zone task startedAt ""
  else
    let node ← issue (.resolveNode task.cluster task.targetType task.targetID)
    if node = "" then
      recordRun task.id startedAt false "" "could not resolve target node"
      advanceNextRun zone task
    else executeOn zone task startedAt node

end Execution

def runDueTasks : Code Unit := do
  let now ← issue .now
  let tasks ← issue (.getDueTasks now)
  tasks.forM fun task => issue (.goExecuteTask task)

/-- What the goroutines share; the clock counts nanoseconds. -/
structure Memory where
  db : DB
  clock : Int

/-- What the outside contributes to a command. -/
structure Outside where
  /-- The nanoseconds that pass before the command. -/
  elapsed : Nat
  node : String
  outcome : Except String String

def perform (outside : Outside) (c : Cmd) (m : Memory) : Answer c × Memory :=
  let clock := m.clock + outside.elapsed
  match c with
  | .startedAt => (clock, ⟨m.db, clock⟩)
  | .now => (clock, ⟨m.db, clock⟩)
  | .since t => (clock - t, ⟨m.db, clock⟩)
  | .resolveNode _ _ _ => (outside.node, ⟨m.db, clock⟩)
  | .executeAction _ _ _ _ => (outside.outcome, ⟨m.db, clock⟩)
  | .addRun taskID startedAt durationMs success upid errMsg =>
      ((), ⟨m.db.addRun taskID startedAt durationMs success upid errMsg, clock⟩)
  | .setLastRun id lastRun => ((), ⟨m.db.setLastRun id lastRun, clock⟩)
  | .setNextRun id nextRun => ((), ⟨m.db.setNextRun id nextRun, clock⟩)
  | .getDueTasks now => (m.db.getDueTasks now, ⟨m.db, clock⟩)
  | .goExecuteTask _ => ((), ⟨m.db, clock⟩)

section Tables

variable {db : DB} {id : String} {task : ScheduledTask} {now : Int}

theorem mem_getDueTasks_iff : task ∈ db.getDueTasks now ↔ task ∈ db.tasks ∧ task.due now = true := by
  rw [DB.getDueTasks, List.mem_insertionSort, List.mem_filter]

theorem due_iff : task.due now = true ↔
    task.enabled = true ∧ ∃ next, task.nextRun = some next ∧ next ≤ unix now := by
  cases known : task.nextRun <;> simp [ScheduledTask.due, known]

theorem getTask_of_mem (member : task ∈ db.tasks) : db.getTask task.id = some task := by
  cases found : db.getTask task.id with
  | none =>
      have absent := List.find?_eq_none.mp found task member
      simp at absent
  | some row =>
      have same : row.id = task.id := by simpa using List.find?_some found
      have inside : row ∈ db.tasks := List.mem_of_find?_eq_some found
      rw [List.inj_on_of_nodup_map db.unique inside member same]

theorem nextRun_of_mem (member : task ∈ db.tasks) : db.nextRun task.id = task.nextRun := by
  rw [DB.nextRun, getTask_of_mem member]
  rfl

theorem getTask_update {id' : String} {change : ScheduledTask → ScheduledTask}
    {keeps : ∀ task, (change task).id = task.id} :
    (db.update id change keeps).getTask id' =
      (db.getTask id').map fun task => if id' = id then change task else task := by
  have test : ((fun task => decide (task.id = id')) ∘
      fun task => if task.id = id then change task else task) =
        fun task : ScheduledTask => decide (task.id = id') := by
    funext task
    by_cases here : task.id = id
    · simp [here, keeps]
    · simp [here]
  rw [DB.getTask, DB.update, List.find?_map, test, DB.getTask]
  cases found : db.tasks.find? fun task => task.id = id' with
  | none => rfl
  | some row =>
      have same : row.id = id' := by simpa using List.find?_some found
      simp [same]

theorem nextRun_update {id' : String} {change : ScheduledTask → ScheduledTask}
    {keeps : ∀ task, (change task).id = task.id}
    (same : ∀ task, (change task).nextRun = task.nextRun) :
    (db.update id change keeps).nextRun id' = db.nextRun id' := by
  rw [DB.nextRun, getTask_update, DB.nextRun]
  cases db.getTask id' with
  | none => rfl
  | some row =>
      by_cases here : id' = id
      · simp [here, same]
      · simp [here]

theorem nextRun_setLastRun {id' : String} {lastRun : Int} :
    (db.setLastRun id lastRun).nextRun id' = db.nextRun id' := nextRun_update fun _ => rfl

theorem nextRun_setNextRun_of_ne {id' : String} {t : Int} (other : id' ≠ id) :
    (db.setNextRun id t).nextRun id' = db.nextRun id' := by
  rw [DB.nextRun, DB.setNextRun, getTask_update, DB.nextRun]
  cases db.getTask id' <;> simp [other]

theorem nextRun_setNextRun {t old : Int} (stored : db.nextRun id = some old) :
    (db.setNextRun id t).nextRun id = some (unix t) := by
  obtain ⟨row, found, _⟩ := Option.bind_eq_some_iff.mp stored
  rw [DB.nextRun, DB.setNextRun, getTask_update, found]
  simp

end Tables

end Scheduler
