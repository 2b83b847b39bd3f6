import PCenter.GuestGuards
import PCenter.ScheduledTargets
import PCenter.SchedulerRequests
import PCenter.SnapshotRetention

/-!
# Permissions for what a request schedules

A task that a request stores is executed later, by the scheduler. The handlers that store tasks
check no permission, so the permissions are kept only if the task may do nothing, on whatever
node and with whatever connections it is executed, that the user may not do.
-/

namespace GuestSchedules

open GoJson Program GuestTasks Executor Handlers Auth GuestOps GuestGuards
open Routes (Endpoint)
open Scheduler (TaskType TargetType ScheduledTask CreateTaskRequest UpdateTaskRequest
  taskTypeToAction mergeParams)
open ScheduledActions (Ask Carrier Code carry clientVmid clients fallback labEnv
  rotateSnapshots scheduleAction wireFields)
open ScheduledTargets (Connected trySend_of_connected trySend_of_not_connected)
open SnapshotRetention (asks)

section Storing

def taskTypes : List TaskType :=
  [.powerOn, .powerOff, .shutdown, .snapshotCreate, .snapshotCleanup, .snapshotRotate,
    .backupCreate, .acmeRenew, .migrate]

def taskTypeOf (text : String) : TaskType :=
  (taskTypes.find? (·.text = text)).getD (.other text)

def targetTypeOf (text : String) : TargetType :=
  ([.vm, .container].find? (·.text = text)).getD (.other text)

/-- What the handlers of the tasks find: the tables, if there is a scheduler, how the texts of
parameters parse, the random identifier and the time zone. -/
structure Tasks where
  db : Option Scheduler.DB
  parse : String → Option Json
  id : String
  zone : Cron.Zone

variable (tasks : Tasks)

def readCreateTaskRequest (o : Fields) : Except String CreateTaskRequest := do
  let name ← stringField o "name"
  let taskType ← stringField o "task_type"
  let targetType ← stringField o "target_type"
  let targetID ← intField o "target_id"
  let cluster ← stringField o "cluster"
  let cronExpr ← stringField o "cron_expr"
  let params ← stringField o "params"
  let enabled ← boolField o "enabled"
  pure ⟨name, taskTypeOf taskType, targetTypeOf targetType, targetID, cluster, cronExpr,
    tasks.parse params, enabled⟩

def readUpdateTaskRequest (o : Fields) : Except String UpdateTaskRequest := do
  let name ← stringField o "name"
  let cronExpr ← stringField o "cron_expr"
  let params ← stringField o "params"
  let enabled ← boolField o "enabled"
  pure ⟨name, cronExpr, tasks.parse params, enabled⟩

/-- The task as the handler of a request has stored it. -/
def stored (r : Request) (values : List (String × String)) : Endpoint → Option ScheduledTask
  | .createScheduledTask => do
      let db ← tasks.db
      let req ← decoded r (readCreateTaskRequest tasks)
      guard (req.complete = true)
      let db ← db.createTask (req.row tasks.id)
      db.getTask tasks.id
  | .updateScheduledTask => do
      let db ← tasks.db
      let req ← decoded r (readUpdateTaskRequest tasks)
      (db.updateTask (pathValue values "id") req).getTask (pathValue values "id")
  | _ => none

/-- The task is enabled and has a next time, or is given one by `ComputeNextRun`. -/
def ComesDue (task : ScheduledTask) : Prop :=
  task.enabled = true ∧ (task.nextRun.isSome = true ∨
    ∃ now next, Cron.nextCronTime tasks.zone task.cronExpr now = .ok next)

end Storing

section Executing

def askOp (cluster : String) : Ask → Option GuestOp
  | .start call => some (taskOp cluster call)
  | _ => none

/-- The operations among what an execution sends. -/
def ops (server : ScheduledActions.Server) (cluster : String) : Carrier → List GuestOp
  | .command _ _ cmd => (commandOp cluster cmd.action cmd.params).toList
  | .client node code => (asks server node code []).filterMap (askOp cluster)
  | .acmeRenew _ | .nobody _ => []

/-- Some execution of the task, on a node that was found, sends the operation. -/
def Performs (task : ScheduledTask) (op : GuestOp) : Prop :=
  ∃ (env : Env) (server : ScheduledActions.Server) (node : String), node ≠ "" ∧
    op ∈ ops server task.cluster (carry env node task)

/-- The actions of the fallback that operate on guests. -/
def fallbackOps : List (String × GuestType × OpKind) :=
  [("vm_start", .vm, .power), ("vm_stop", .vm, .power), ("vm_shutdown", .vm, .power),
    ("ct_start", .ct, .power), ("ct_stop", .ct, .power), ("ct_shutdown", .ct, .power),
    ("vm_snapshot_rotate", .vm, .snapshot), ("ct_snapshot_rotate", .ct, .snapshot)]

/-- The operation that a stored task names: as its agent reads the command, or as the fallback
reads the parameters. -/
def Names (task : ScheduledTask) (op : GuestOp) : Prop :=
  commandOp task.cluster (taskTypeToAction task) (wireFields (mergeParams task)) = some op ∨
    ∃ gt kind, (taskTypeToAction task, gt, kind) ∈ fallbackOps ∧
      op = ⟨kind, gt, task.cluster, clientVmid (mergeParams task)⟩

end Executing

section Executions

variable {server : ScheduledActions.Server} {node cluster : String} {gt : GuestType} {vmid : Int64}
  {params : Scheduler.Params} {task : ScheduledTask} {op : GuestOp}

theorem mem_asks_of_keeps {A : Type} {P : Ask → Prop} {code : Code A}
    (keeps : Keeps P (fun _ _ => True) code) (sent : List ApiCall) :
    ∀ c ∈ asks server node code sent, P c := by
  induction code generalizing sent with
  | done a =>
      intro c member
      cases member
  | act first next ih =>
      intro c member
      rw [asks] at member
      rcases List.mem_cons.mp member with rfl | later
      · exact keeps.1
      · split_ifs at later with crash
        · cases later
        · exact ih _ (keeps.2 _ trivial) _ c later

/-- All that a rotation does is about the snapshots of the guest. -/
theorem mem_ops_rotate :
    op ∈ ops server cluster (.client node (rotateSnapshots gt vmid params)) ↔
      op = ⟨.snapshot, gt, cluster, vmid⟩ := by
  constructor
  · intro member
    obtain ⟨c, asked, sends⟩ := List.mem_filterMap.mp member
    cases mem_asks_of_keeps ScheduledTargets.keeps_rotateSnapshots [] c asked with
    | create name => cases gt <;> exact (Option.some.inj sends).symm
    | delete name => exact (Option.some.inj sends).symm
    | now | list | crash => cases sends
  · rintro rfl
    obtain ⟨next, began⟩ := @ScheduledTargets.rotateSnapshots_eq gt vmid params
    have ticks : Ask.now ≠ .crash := by
      intro same
      cases same
    have starts (call : TaskCall) : Ask.start call ≠ .crash := by
      intro same
      cases same
    refine List.mem_filterMap.mpr ⟨.start (ScheduledActions.createCall gt vmid
      (ScheduledActions.autoPrefix ++ ScheduledActions.stamp (server .now ticks [])) params),
      ?_, ?_⟩
    · rw [began, SnapshotRetention.asks_act ticks, SnapshotRetention.asks_act (starts _)]
      exact List.mem_cons_of_mem _ List.mem_cons_self
    · cases gt <;> rfl

theorem mem_ops_start {call : TaskCall} :
    op ∈ ops server cluster (.client node (ScheduledActions.issue (.start call))) ↔
      op = taskOp cluster call := by
  have asked : ops server cluster (.client node (ScheduledActions.issue (.start call))) =
      [taskOp cluster call] := rfl
  rw [asked, List.mem_singleton]

/-- An action is listed once. -/
theorem exists_listed_iff {action : String} {gt : GuestType} {kind : OpKind}
    (listed : (action, gt, kind) ∈ fallbackOps) :
    (∃ gt kind, (action, gt, kind) ∈ fallbackOps ∧ op = ⟨kind, gt, cluster, vmid⟩) ↔
      op = ⟨kind, gt, cluster, vmid⟩ := by
  constructor
  · rintro ⟨gt', kind', listed', rfl⟩
    have once : (fallbackOps.map Prod.fst).Nodup := by decide
    obtain ⟨-, rfl, rfl⟩ : action = action ∧ gt' = gt ∧ kind' = kind := by
      simpa using List.inj_on_of_nodup_map once listed' listed rfl
    rfl
  · intro named
    exact ⟨gt, kind, listed, named⟩

/-- What the fallback does to guests. -/
theorem mem_ops_fallback {action : String} :
    op ∈ ops server cluster (.client node (fallback action params)) ↔
      ∃ gt kind, (action, gt, kind) ∈ fallbackOps ∧
        op = ⟨kind, gt, cluster, clientVmid params⟩ := by
  rw [fallback]
  by_cases h1 : action = "vm_start"
  · rw [if_pos h1]
    exact mem_ops_start.trans (exists_listed_iff (h1 ▸ by decide)).symm
  rw [if_neg h1]
  by_cases h2 : action = "vm_stop"
  · rw [if_pos h2]
    exact mem_ops_start.trans (exists_listed_iff (h2 ▸ by decide)).symm
  rw [if_neg h2]
  by_cases h3 : action = "vm_shutdown"
  · rw [if_pos h3]
    exact mem_ops_start.trans (exists_listed_iff (h3 ▸ by decide)).symm
  rw [if_neg h3]
  by_cases h4 : action = "ct_start"
  · rw [if_pos h4]
    exact mem_ops_start.trans (exists_listed_iff (h4 ▸ by decide)).symm
  rw [if_neg h4]
  by_cases h5 : action = "ct_stop"
  · rw [if_pos h5]
    exact mem_ops_start.trans (exists_listed_iff (h5 ▸ by decide)).symm
  rw [if_neg h5]
  by_cases h6 : action = "ct_shutdown"
  · rw [if_pos h6]
    exact mem_ops_start.trans (exists_listed_iff (h6 ▸ by decide)).symm
  rw [if_neg h6]
  by_cases h7 : action = "vm_snapshot_rotate"
  · rw [if_pos h7]
    exact mem_ops_rotate.trans (exists_listed_iff (h7 ▸ by decide)).symm
  rw [if_neg h7]
  by_cases h8 : action = "ct_snapshot_rotate"
  · rw [if_pos h8]
    exact mem_ops_rotate.trans (exists_listed_iff (h8 ▸ by decide)).symm
  rw [if_neg h8]
  have unlisted : action ∉ fallbackOps.map Prod.fst := by
    simp [fallbackOps, h1, h2, h3, h4, h5, h6, h7, h8]
  refine iff_of_false (fun member => ?_) ?_
  · obtain ⟨c, asked, sends⟩ := List.mem_filterMap.mp member
    have quiet : askOp cluster c = none := by
      refine mem_asks_of_keeps (P := fun c => askOp cluster c = none) ?_ [] c asked
      split_ifs with backup missing
      · trivial
      · rw [ScheduledActions.createVzdump, if_neg (List.cons_ne_nil _ _), if_neg missing]
        exact ⟨rfl, fun _ _ => trivial⟩
      · trivial
    rw [quiet] at sends
    cases sends
  · rintro ⟨gt, kind, listed, -⟩
    exact unlisted (List.mem_map_of_mem listed)

/-- A connected agent gets a command, and without one the client does what it knows. -/
theorem mem_ops_carry {env : Env} :
    op ∈ ops server task.cluster (carry env node task) ↔
      Connected env task.cluster node ∧
          commandOp task.cluster (taskTypeToAction task) (wireFields (mergeParams task)) = some op ∨
        ¬Connected env task.cluster node ∧ node ∈ clients env task.cluster ∧
          ∃ gt kind, (taskTypeToAction task, gt, kind) ∈ fallbackOps ∧
            op = ⟨kind, gt, task.cluster, clientVmid (mergeParams task)⟩ := by
  rw [carry, scheduleAction]
  by_cases renews : taskTypeToAction task = "cluster_acme_renew"
  · rw [if_pos renews, renews]
    refine iff_of_false (fun member => ?_) ?_
    · split at member
      · cases member
      · split_ifs at member <;> cases member
    · rintro (⟨-, named⟩ | ⟨-, -, gt, kind, listed, -⟩)
      · cases named
      · simp [fallbackOps] at listed
  rw [if_neg renews]
  by_cases connected : Connected env task.cluster node
  · rw [trySend_of_connected connected]
    simp [ops, connected]
  · rw [trySend_of_not_connected connected]
    by_cases client : node ∈ clients env task.cluster
    · simp [client, connected, mem_ops_fallback]
    · simp [client, connected, ops]

/-- What executions of the task send is what the task names. -/
theorem performs_iff : Performs task op ↔ Names task op := by
  constructor
  · rintro ⟨env, server, node, -, member⟩
    rcases mem_ops_carry.mp member with ⟨-, named⟩ | ⟨-, -, named⟩
    · exact .inl named
    · exact .inr named
  · rintro (named | named)
    · refine ⟨{ labEnv with agentHub := some ⟨[Env.key task.cluster "pve1"], fun _ => true⟩ },
        ScheduledActions.labServer, "pve1", by decide, mem_ops_carry.mpr (.inl ⟨?_, named⟩)⟩
      exact ⟨_, rfl, List.mem_singleton_self _, rfl⟩
    · refine ⟨{ labEnv with agentHub := none, poller := some fun _ => some ["pve1"] },
        ScheduledActions.labServer, "pve1", by decide,
        mem_ops_carry.mpr (.inr ⟨?_, List.mem_singleton_self _, named⟩)⟩
      rintro ⟨hub, none_, -⟩
      cases none_

end Executions

section Permissions

variable (s : Server) (tasks : Tasks) (r : Request)

/-- The task that a request leaves to the scheduler. -/
def scheduled : Option ScheduledTask :=
  match (Router.serve s.auth s.env.now s.env.agentHub.isSome r s.db).1 with
  | .runs e _ values => stored tasks r values e
  | _ => none

/-- Whatever a user without the admin role makes the server send is permitted: while it handles
the request, and whenever it executes the task that the request left. -/
def Permitted : Prop :=
  ∀ rbac session user, s.env.rbac = some rbac →
    s.auth.accepted s.env.now r s.db = some (session, user) → user.role ≠ roleAdmin →
    (∀ op ∈ serverOps s r, Granted s.env rbac user op) ∧
      ∀ task ∈ scheduled s tasks r, ComesDue tasks task →
        ∀ op, Performs task op → Granted s.env rbac user op

/-- A request keeps to the permissions exactly when every operation that it asks for on a path
without the operation's own check, and every one that a task which it stores names, is granted
anyway. -/
theorem permitted_iff :
    Permitted s tasks r ↔
      ∀ rbac session user, s.env.rbac = some rbac →
        s.auth.accepted s.env.now r s.db = some (session, user) → user.role ≠ roleAdmin →
        (∀ e ctx values op,
          (Router.serve s.auth s.env.now s.env.agentHub.isSome r s.db).1 =
            .runs e ctx values →
          Asked s.env r values ctx e op → Unchecked values e op →
          Granted s.env rbac user op) ∧
        ∀ task ∈ scheduled s tasks r, ComesDue tasks task →
          ∀ op, Names task op → Granted s.env rbac user op := by
  constructor
  · intro permitted rbac session user configured carried ordinary
    have authorised : Authorised s r := fun rbac session user configured carried ordinary =>
      (permitted rbac session user configured carried ordinary).1
    refine ⟨(authorised_iff s r).mp authorised rbac session user configured carried ordinary, ?_⟩
    intro task left due op names
    exact (permitted rbac session user configured carried ordinary).2 task left due op
      (performs_iff.mpr names)
  · intro covered rbac session user configured carried ordinary
    have authorised : Authorised s r := (authorised_iff s r).mpr
      fun rbac session user configured carried ordinary =>
        (covered rbac session user configured carried ordinary).1
    refine ⟨authorised rbac session user configured carried ordinary, ?_⟩
    intro task left due op performs
    exact (covered rbac session user configured carried ordinary).2 task left due op
      (performs_iff.mp performs)

/-- A server without a scheduler. -/
def noTasks : Tasks := ⟨none, fun _ => none, "", Scheduler.utc⟩

/-- A user without any permission stops a VM by the route for all clusters. -/
theorem stop_unpermitted :
    ¬Permitted (labServer "running" "user" none) noTasks (post ["api", "vms", "100", "stop"]) := by
  intro permitted
  apply stop_without_permission
  intro rbac session user configured carried ordinary
  exact (permitted rbac session user configured carried ordinary).1

end Permissions

end GuestSchedules
