import PCenter.ScheduledActions
import PCenter.SchedulerNextRun

/-!
# The guest that a scheduled task acts on

`executeTask` resolves the node of the task's own target, and then merges the parameters that the
user has stored over the VMID of the target. So a stored `vmid` decides which guest the agent or
the client of that node acts on.
-/

namespace ScheduledTargets

open GoJson GoText GuestTasks Executor Scheduler Program ScheduledActions
open Handlers (Env)
open Transports (agentCall)

section Property

/-- The request is about the guest on the node, and about no other. -/
def About (node : String) (gt : GuestType) (vmid : Int64) (call : ApiCall) : Prop :=
  OnGuest node gt vmid call.path ∨
    call.path = "/nodes/" ++ node ++ "/vzdump" ∧
      ∀ value, (Form.utf8 "vmid", value) ∈ Form.decodeForm call.body ↔
        value = Form.utf8 (itoa vmid)

/-- The VMID of a command, as the agent decodes it. -/
def commandVmid (fields : Fields) : Option Int64 :=
  (number (field fields "vmid")).map Float64.toInt64

/-- What is carried out is about the guest on the node: the command is for the agent of the
node and carries the VMID, and so do all requests that come of it. -/
def CarriesOut (cluster node : String) (gt : GuestType) (vmid : Int64) : Carrier → Prop
  | .command cluster' node' cmd =>
      cluster' = cluster ∧ node' = node ∧ commandVmid cmd.params = some vmid ∧
        ∀ agent, ∀ call ∈ agentCall agent node' cmd, About node gt vmid call
  | .client node' code =>
      node' = node ∧ ∀ server, ∀ call ∈ performed server node' code [], About node gt vmid call
  | .acmeRenew _ => False
  | .nobody _ => True

/-- In every run of the task in which its guest is found on the node, all that the task has
carried out is about this guest. -/
def OwnTarget (zone : Cron.Zone) (env : Env) (gt : GuestType) (task : ScheduledTask)
    (node : String) : Prop :=
  ∀ (S : Type) (serve : (c : Cmd) → S → Option (Answer c × S)) (s s' : S) (h : List (Sigma Answer)),
    Ran serve (executeTask zone task) s h () s' →
      ⟨.resolveNode task.cluster task.targetType task.targetID, node⟩ ∈ h →
        ∀ cluster node' action params answer,
          ⟨.executeAction cluster node' action params, answer⟩ ∈ h →
            CarriesOut task.cluster node gt task.targetID
              (scheduleAction env cluster node' action params)

/-- What is stored under a key, as the decoder leaves it. A document that is no object or has a
number, wherever, that is too large for a float, stores nothing. -/
def stored (task : ScheduledTask) (key : String) : Option Json :=
  (extraParams task).bind (·.lookup key)

/-- What the agent makes of the stored VMID. Without one it gets that of the target, as a number
of JSON. -/
def agentReads (task : ScheduledTask) : Option Int64 :=
  match stored task "vmid" with
  | none => some (Float64.through task.targetID)
  | some v => (number v).map Float64.toInt64

/-- What the fallback makes of it. -/
def clientReads (task : ScheduledTask) : Int64 :=
  match stored task "vmid" with
  | none => task.targetID
  | some v => ((number v).map Float64.toInt64).getD 0

/-- The agent of the node takes commands. -/
def Connected (env : Env) (cluster node : String) : Prop :=
  ∃ hub, env.agentHub = some hub ∧ Env.key cluster node ∈ hub.agents ∧
    hub.accepts (Env.key cluster node) = true

/-- The fallback asks the client for something. -/
def Asks (task : ScheduledTask) : Prop :=
  match task.taskType with
  | .powerOn | .powerOff | .shutdown | .snapshotRotate => True
  | .backupCreate => ∃ storage, stored task "storage" = some (.str storage) ∧ storage ≠ ""
  | .snapshotCreate | .snapshotCleanup | .migrate | .acmeRenew | .other _ => False

/-- Whoever acts reads the VMID of the target. -/
structure KeepsTarget (env : Env) (task : ScheduledTask) (node : String) : Prop where
  agent : Connected env task.cluster node → agentReads task = some task.targetID
  client : ¬Connected env task.cluster node → node ∈ clients env task.cluster → Asks task →
    clientReads task = task.targetID

end Property

section Runs

variable {zone : Cron.Zone} {env : Env} {gt : GuestType} {task : ScheduledTask} {node : String}

/-- After its node is resolved, a task resolves nothing more and executes its own action. -/
def Later (task : ScheduledTask) (node : String) : Cmd → Prop
  | .resolveNode _ _ _ => False
  | .executeAction cluster node' action params =>
      node ≠ "" ∧ cluster = task.cluster ∧ node' = node ∧ action = taskTypeToAction task ∧
        params = mergeParams task
  | .startedAt | .now | .since _ | .addRun _ _ _ _ _ _ | .setLastRun _ _ | .setNextRun _ _
    | .getDueTasks _ | .goExecuteTask _ => True

theorem later_recordRun (startedAt : Int) (success : Bool) (upid errMsg : String) :
    Keeps (Later task node) (fun _ _ => True)
      (recordRun task.id startedAt success upid errMsg) :=
  ⟨trivial, fun _ _ => ⟨trivial, fun _ _ => ⟨trivial, fun _ _ => trivial⟩⟩⟩

theorem later_advanceNextRun :
    Keeps (Later task node) (fun _ _ => True) (advanceNextRun zone task) := by
  refine ⟨trivial, fun now _ => ?_⟩
  dsimp only [Prog.bind]
  cases Cron.nextCronTime zone task.cronExpr now with
  | error err => trivial
  | ok next => exact ⟨trivial, fun _ _ => trivial⟩

theorem later_executeOn (resolved : node ≠ "") (startedAt : Int) :
    Keeps (Later task node) (fun _ _ => True) (executeOn zone task startedAt node) := by
  rw [executeOn_eq]
  apply keeps_bind
  · apply keeps_ite
    · intro _
      apply later_recordRun
    · intro _
      refine ⟨⟨resolved, rfl, rfl, rfl, rfl⟩, fun answer _ => ?_⟩
      cases answer with
      | error err => apply later_recordRun
      | ok upid => apply later_recordRun
  · intro _
    exact later_advanceNextRun

theorem executeTask_guest (guest : isClusterWideTask task.taskType = false) :
    executeTask zone task =
      .act .startedAt fun t => .act (.resolveNode task.cluster task.targetType task.targetID)
        fun node => if node = "" then
          recordRun task.id t false "" "could not resolve target node" >>= fun _ =>
            advanceNextRun zone task
        else executeOn zone task t node := by
  rw [executeTask, Scheduler.issue, ask_bind]
  apply congrArg
  funext t
  rw [guest, if_neg Bool.false_ne_true, Scheduler.issue, ask_bind]

/-- A run executes the task's own action, on the node that it has resolved. -/
theorem executed_of_ran {S : Type} {serve : (c : Cmd) → S → Option (Answer c × S)} {s s' : S}
    {h : List (Sigma Answer)} (guest : isClusterWideTask task.taskType = false)
    (ran : Ran serve (executeTask zone task) s h () s')
    (resolved : ⟨.resolveNode task.cluster task.targetType task.targetID, node⟩ ∈ h)
    {cluster node' action : String} {params : Params} {answer : Except String String}
    (executed : ⟨.executeAction cluster node' action params, answer⟩ ∈ h) :
    Later task node (.executeAction cluster node' action params) := by
  rw [executeTask_guest guest] at ran
  obtain ⟨t, s₁, h₁, -, rfl, begun⟩ := ran_act.mp ran
  obtain ⟨found, s₂, h₂, -, rfl, later⟩ := ran_act.mp begun
  by_cases unresolved : found = ""
  · rw [if_pos unresolved] at later
    have nothing : Keeps (Later task found) (fun _ _ => True)
        (recordRun task.id t false "" "could not resolve target node" >>= fun _ =>
          advanceNextRun zone task) :=
      keeps_bind (later_recordRun _ _ _ _) fun _ => later_advanceNextRun
    have issued := issues_of_ran nothing later
    simp only [List.mem_cons, reduceCtorEq, Sigma.mk.injEq, false_and, false_or] at executed
    exact absurd unresolved (issued _ executed).1
  · rw [if_neg unresolved] at later
    have issued := issues_of_ran (later_executeOn unresolved t) later
    simp only [List.mem_cons, reduceCtorEq, Sigma.mk.injEq, false_and, false_or] at executed
    have same : node = found := by
      simp only [List.mem_cons, reduceCtorEq, Sigma.mk.injEq, false_and, false_or, true_and,
        heq_eq_eq] at resolved
      rcases resolved with same | again
      · exact same
      · exact (issued _ again).elim
    rw [same]
    exact issued _ executed

/-- Everything is answered: the node with its name, and the rest with whatever comes. -/
def answering (node : String) : (c : Cmd) → Unit → Option (Answer c × Unit)
  | .startedAt, _ => some (0, ())
  | .now, _ => some (0, ())
  | .since _, _ => some (0, ())
  | .resolveNode _ _ _, _ => some (node, ())
  | .executeAction _ _ _ _, _ => some (.ok "", ())
  | .addRun _ _ _ _ _ _, _ => some ((), ())
  | .setLastRun _ _, _ => some ((), ())
  | .setNextRun _ _, _ => some ((), ())
  | .getDueTasks _, _ => some ([], ())
  | .goExecuteTask _, _ => some ((), ())

theorem exists_executed (guest : isClusterWideTask task.taskType = false) (resolved : node ≠ "")
    (known : taskTypeToAction task ≠ "") :
    ∃ h : List (Sigma Answer), Ran (answering node) (executeTask zone task) () h () () ∧
      ⟨.resolveNode task.cluster task.targetType task.targetID, node⟩ ∈ h ∧
        ⟨.executeAction task.cluster node (taskTypeToAction task) (mergeParams task), .ok ""⟩ ∈ h := by
  have total : ∀ c s, ∃ answer, answering node c s = some answer := by
    intro c s
    cases c <;> exact ⟨_, rfl⟩
  obtain ⟨later, a, s', ran⟩ := exists_ran total
    (recordRun task.id 0 true "" "" >>= fun _ => advanceNextRun zone task) ()
  refine ⟨⟨.startedAt, 0⟩ :: ⟨.resolveNode task.cluster task.targetType task.targetID, node⟩ ::
    ⟨.executeAction task.cluster node (taskTypeToAction task) (mergeParams task), .ok ""⟩ :: later,
    ?_, by simp, by simp⟩
  rw [executeTask_guest guest]
  refine ran_act.mpr ⟨0, (), _, rfl, rfl, ran_act.mpr ⟨node, (), _, rfl, rfl, ?_⟩⟩
  rw [if_neg resolved, executeOn, if_neg known]
  exact ran_act.mpr ⟨.ok "", (), _, rfl, rfl, ran⟩

/-- The runs of a task come down to what is carried out on a node that was found. -/
theorem ownTarget_iff_carry (guest : isClusterWideTask task.taskType = false)
    (known : taskTypeToAction task ≠ "") :
    OwnTarget zone env gt task node ↔
      (node ≠ "" → CarriesOut task.cluster node gt task.targetID (carry env node task)) := by
  constructor
  · intro own resolved
    obtain ⟨h, ran, found, executed⟩ := exists_executed guest resolved known
    exact own Unit (answering node) () () h ran found _ _ _ _ _ executed
  · intro carried S serve s s' h ran found cluster node' action params answer executed
    obtain ⟨resolved, rfl, rfl, rfl, rfl⟩ := executed_of_ran guest ran found executed
    exact carried resolved

end Runs

section Requests

variable {node : String} {gt : GuestType} {m n : Int64} {call : ApiCall} {params : Params}

theorem not_onGuest_vzdump : ¬OnGuest node gt n ("/nodes/" ++ node ++ "/vzdump") := by
  intro names
  have head := names.head
  cases gt <;> simp [GuestType.api] at head

theorem about_iff_of_onGuest (names : OnGuest node gt m call.path) :
    About node gt n call ↔ m = n := by
  constructor
  · rintro (names' | ⟨dump, -⟩)
    · exact names.vmid_eq names'
    · rw [dump] at names
      exact absurd names not_onGuest_vzdump
  · rintro rfl
    exact .inl names

theorem about_vzdump {opts : VzdumpOptions} (one : opts.vmids = [m]) :
    About node gt n (GuestTasks.post ("/nodes/" ++ node ++ "/vzdump") (vzdumpParams opts)) ↔
      m = n := by
  have sent (value : Form.Bytes) : (Form.utf8 "vmid", value) ∈ Form.decodeForm
      (GuestTasks.post ("/nodes/" ++ node ++ "/vzdump") (vzdumpParams opts)).body ↔
        value = Form.utf8 (itoa m) := by
    rw [(decodeForm_post _ _).mem_iff, vzdumpParams, one]
    have others (key : String) (differs : Form.utf8 "vmid" ≠ Form.utf8 key) (text : String) :
        (Form.utf8 "vmid", value) ∉ optional key text := by
      rw [mem_optional_iff]
      rintro ⟨-, same⟩
      exact differs (Prod.mk.inj same).1
    have single : String.intercalate "," [itoa m] = itoa m := rfl
    simp only [List.map_cons, List.map_nil, single, List.mem_cons, List.mem_append,
      others "mode" (by decide), others "compress" (by decide),
      others "notes-template" (by decide), or_false, param, Prod.mk.injEq, true_and,
      show Form.utf8 "vmid" ≠ Form.utf8 "storage" by decide, false_and]
  constructor
  · rintro (names | ⟨-, only⟩)
    · exact absurd names not_onGuest_vzdump
    · have value := (only (Form.utf8 (itoa m))).mp ((sent _).mpr rfl)
      exact itoa_injective (Form.utf8_injective value)
  · rintro rfl
    exact .inr ⟨rfl, sent⟩

theorem performed_of_keeps {A : Type} {P : ApiCall → Prop} {code : ScheduledActions.Code A}
    (keeps : Keeps (fun c : Ask => ∀ call ∈ c.apiCall node, P call) (fun _ _ => True) code)
    (server : Server) (asked : List ApiCall) :
    ∀ call ∈ performed server node code asked, call ∈ asked ∨ P call := by
  induction code generalizing asked with
  | done a => exact fun call member => .inl member
  | act c next ih =>
      rw [performed]
      split_ifs with crash
      · exact fun call member => .inl member
      · intro call member
        rcases ih _ (keeps.2 _ trivial) _ call member with before | kind
        · rcases List.mem_append.mp before with before | here
          · exact .inl before
          · exact .inr (keeps.1 call (Option.mem_toList.mp here))
        · exact .inr kind

/-- The asks about a guest. -/
def AsksAbout (node : String) (gt : GuestType) (vmid : Int64) (c : Ask) : Prop :=
  ∀ call ∈ c.apiCall node, OnGuest node gt vmid call.path

/-- What a rotation asks for. -/
inductive Rotates (gt : GuestType) (vmid : Int64) (params : Params) : Ask → Prop where
  | now : Rotates gt vmid params .now
  | list : Rotates gt vmid params (.listSnapshots gt vmid)
  | create (name : String) : Rotates gt vmid params (.start (createCall gt vmid name params))
  | delete (name : String) : Rotates gt vmid params (.start (.deleteSnapshot gt vmid name))
  | crash : Rotates gt vmid params .crash

theorem onGuest_create (name : String) :
    OnGuest node gt m ((createCall gt m name params).apiCall node).path := by
  cases gt <;> exact ⟨"/snapshot", rfl, by decide⟩

theorem Rotates.about {c : Ask} (rotates : Rotates gt m params c) : AsksAbout node gt m c := by
  intro call sent
  cases rotates with
  | now | crash => cases sent
  | list =>
      obtain rfl := Option.some.inj sent
      exact ⟨"/snapshot", rfl, by decide⟩
  | create name =>
      obtain rfl := Option.some.inj sent
      exact onGuest_create name
  | delete name =>
      obtain rfl := Option.some.inj sent
      refine ⟨"/snapshot/" ++ name, rfl, fun c first => ?_⟩
      rw [String.toList_append] at first
      exact .inl (Option.mem_some_iff.mp first).symm

theorem keeps_issue {c : Ask} (rotates : Rotates gt m params c) :
    Keeps (Rotates gt m params) (fun _ _ => True) (ScheduledActions.issue c) :=
  ⟨rotates, fun _ _ => trivial⟩

theorem keeps_deleteAll (snaps : List Snapshot) :
    Keeps (Rotates gt m params) (fun _ _ => True) (deleteAll gt m snaps) := by
  induction snaps with
  | nil => trivial
  | cons s rest ih =>
      refine ⟨.delete s.name, fun answer _ => ?_⟩
      apply keeps_bind ih
      intro errs
      cases answer <;> trivial

theorem keeps_pruneAutoSnapshots (retention : Int64) :
    Keeps (Rotates gt m params) (fun _ _ => True) (pruneAutoSnapshots gt m retention) := by
  apply keeps_bind (keeps_issue .list)
  intro listed
  cases listed with
  | error err => trivial
  | ok snaps =>
      apply keeps_ite
      · intro _
        trivial
      · intro _
        apply keeps_ite
        · intro _
          apply keeps_bind (keeps_issue .crash)
          intro never
          cases never
        · intro _
          apply keeps_bind (keeps_deleteAll _)
          intro errs
          apply keeps_ite <;> exact fun _ => trivial

theorem keeps_rotateSnapshots :
    Keeps (Rotates gt m params) (fun _ _ => True) (rotateSnapshots gt m params) := by
  apply keeps_bind (keeps_issue .now)
  intro now
  apply keeps_bind (keeps_issue (.create _))
  intro created
  cases created with
  | error err => trivial
  | ok upid =>
      apply keeps_bind (keeps_pruneAutoSnapshots _)
      intro pruned
      cases pruned <;> trivial

theorem rotateSnapshots_eq :
    ∃ next : Int → Except String String → ScheduledActions.Code (Except String String),
      rotateSnapshots gt m params = .act .now fun now =>
        .act (.start (createCall gt m (autoPrefix ++ stamp now) params)) (next now) :=
  ⟨_, rfl⟩

theorem create_mem_rotate (server : Server) :
    ∃ name, (createCall gt m name params).apiCall node ∈
      performed server node (rotateSnapshots gt m params) [] := by
  obtain ⟨next, began⟩ := @rotateSnapshots_eq gt m params
  have ticks : Ask.now ≠ .crash := by
    intro same
    cases same
  have starts (task : TaskCall) : Ask.start task ≠ .crash := by
    intro same
    cases same
  refine ⟨autoPrefix ++ stamp (server .now ticks []), ?_⟩
  rw [began, performed_act ticks, performed_act (starts _)]
  exact (prefix_performed _ _).subset (by simp [Ask.apiCall])

end Requests

section Client

variable {node : String} {gt : GuestType} {vmid : Int64} {params : Params}

/-- `Asks`, of the merged parameters. -/
def AsksWith (params : Params) : TaskType → Prop
  | .powerOn | .powerOff | .shutdown | .snapshotRotate => True
  | .backupCreate => asString params "storage" ≠ ""
  | .snapshotCreate | .snapshotCleanup | .migrate | .acmeRenew | .other _ => False

theorem issue_iff {c : Ask} {call : ApiCall} {m : Int64} (sent : c.apiCall node = some call)
    (about : About node gt vmid call ↔ m = vmid) :
    (∀ server, ∀ call ∈ performed server node (ScheduledActions.issue c) [],
      About node gt vmid call) ↔ m = vmid := by
  simp only [performed_issue sent, List.mem_singleton, forall_eq]
  exact ⟨fun all => about.mp (all labServer), fun same _ => about.mpr same⟩

theorem power_iff {m : Int64} (power : Power) :
    (∀ server, ∀ call ∈ performed server node
        (ScheduledActions.issue (.start (.power gt m power))) [], About node gt vmid call) ↔
      m = vmid := by
  refine issue_iff rfl (about_iff_of_onGuest ⟨"/status/" ++ power.name, rfl, ?_⟩)
  cases power <;> decide

theorem rotate_iff {m : Int64} :
    (∀ server, ∀ call ∈ performed server node (rotateSnapshots gt m params) [],
      About node gt vmid call) ↔ m = vmid := by
  constructor
  · intro all
    obtain ⟨name, member⟩ := @create_mem_rotate node gt m params labServer
    exact (about_iff_of_onGuest (onGuest_create name)).mp (all labServer _ member)
  · intro same server call member
    have keeps : Keeps (AsksAbout node gt m) (fun _ _ => True) (rotateSnapshots gt m params) :=
      keeps_mono (fun _ => Rotates.about) (fun _ _ answered => answered) keeps_rotateSnapshots
    rcases performed_of_keeps keeps server [] call member with asked | names
    · cases asked
    · exact (about_iff_of_onGuest names).mpr same

theorem backup_iff {m : Int64} :
    (∀ server, ∀ call ∈ performed server node
        (if asString params "storage" = "" then
          pure (.error "backup task requires 'storage' param")
        else
          createVzdump ⟨[m], asString params "storage", asString params "mode",
            asString params "compress", ""⟩) [], About node gt vmid call) ↔
      (asString params "storage" ≠ "" → m = vmid) := by
  by_cases missing : asString params "storage" = ""
  · rw [if_pos missing]
    refine iff_of_true ?_ fun given => absurd missing given
    intro server call member
    cases member
  · rw [if_neg missing, createVzdump, if_neg (List.cons_ne_nil _ _), if_neg missing]
    exact (issue_iff rfl (about_vzdump rfl)).trans (imp_iff_right missing).symm

/-- The fallback asks for the guest whose VMID it reads. -/
theorem fallback_iff {kind : TaskType} (offered : kind ∈ guestTasks) :
    (∀ server, ∀ call ∈ performed server node
        (fallback (actionPrefix gt ++ suffix kind) params) [], About node gt vmid call) ↔
      (AsksWith params kind → clientVmid params = vmid) := by
  have powered (power : Power) (known : fallback (actionPrefix gt ++ suffix kind) params =
      ScheduledActions.issue (.start (.power gt (clientVmid params) power)))
      (asks : AsksWith params kind) :
      (∀ server, ∀ call ∈ performed server node
          (fallback (actionPrefix gt ++ suffix kind) params) [], About node gt vmid call) ↔
        (AsksWith params kind → clientVmid params = vmid) := by
    rw [known]
    exact (power_iff power).trans (imp_iff_right asks).symm
  have unsupported (known : fallback (actionPrefix gt ++ suffix kind) params = pure (.error
      ("unsupported action for poller fallback: " ++ (actionPrefix gt ++ suffix kind)))) (asks : ¬AsksWith params kind) :
      (∀ server, ∀ call ∈ performed server node
          (fallback (actionPrefix gt ++ suffix kind) params) [], About node gt vmid call) ↔
        (AsksWith params kind → clientVmid params = vmid) := by
    rw [known]
    refine iff_of_true ?_ fun asked => absurd asked asks
    intro server call member
    cases member
  cases kind with
  | powerOn => exact powered .start (by cases gt <;> rfl) trivial
  | powerOff => exact powered .stop (by cases gt <;> rfl) trivial
  | shutdown => exact powered .shutdown (by cases gt <;> rfl) trivial
  | snapshotCreate | snapshotCleanup | migrate =>
      exact unsupported (by cases gt <;> rfl) fun never => never
  | snapshotRotate =>
      have rotates : fallback (actionPrefix gt ++ suffix .snapshotRotate) params =
          rotateSnapshots gt (clientVmid params) params := by cases gt <;> rfl
      rw [rotates]
      exact rotate_iff.trans (imp_iff_right trivial).symm
  | backupCreate =>
      have backs : fallback (actionPrefix gt ++ suffix .backupCreate) params =
          if asString params "storage" = "" then
            pure (.error "backup task requires 'storage' param")
          else
            createVzdump ⟨[clientVmid params], asString params "storage",
              asString params "mode", asString params "compress", ""⟩ := by cases gt <;> rfl
      rw [backs]
      exact backup_iff
  | acmeRenew | other _ => simp [guestTasks] at offered

end Client

section Command

variable {agent : Agent} {node id : String} {gt : GuestType} {vmid : Int64} {params : Params}

theorem getVMID_of_commandVmid {fields : Fields} (read : commandVmid fields = some vmid) :
    getVMID fields = vmid := by
  obtain ⟨f, found, same⟩ := Option.map_eq_some_iff.mp read
  rw [getVMID, getParamInt, found]
  exact same

/-- The agent asks for the guest that its command names. -/
theorem about_agentCall {action : String} {fields : Fields} {call : ApiCall} {verb : Verb}
    (listed : guestActions.lookup action = some (gt, verb))
    (read : commandVmid fields = some vmid)
    (called : agentCall agent node ⟨id, action, fields⟩ = some call) :
    About node gt vmid call := by
  rw [agentCall, execute] at called
  cases valid : validate ⟨id, action, fields⟩ with
  | error err => simp [valid] at called
  | ok accepted =>
      simp only [valid, listed] at called
      cases handled : executeGuest { agent with nodeName := node } gt fields verb with
      | error err => simp [handled, Except.map] at called
      | ok request =>
          simp only [handled, Except.map, Option.some.injEq] at called
          subst called
          refine (about_iff_of_onGuest (onGuest_executeGuest handled)).mpr ?_
          exact getVMID_of_commandVmid read

theorem taskAction_cases {kind : TaskType} (offered : kind ∈ guestTasks) :
    (∃ verb, guestActions.lookup (actionPrefix gt ++ suffix kind) = some (gt, verb)) ∨
      actionPrefix gt ++ suffix kind ∉ allowedActions := by
  have handled (verb : Verb) (same : suffix kind = verb.name) :
      ∃ verb, guestActions.lookup (actionPrefix gt ++ suffix kind) = some (gt, verb) :=
    ⟨verb, GuestOps.lookup_action_iff.mpr ⟨rfl, by rw [same]⟩⟩
  cases kind with
  | powerOn => exact .inl (handled .start rfl)
  | powerOff => exact .inl (handled .stop rfl)
  | shutdown => exact .inl (handled .shutdown rfl)
  | snapshotCreate => exact .inl (handled .snapshotCreate rfl)
  | snapshotCleanup => exact .inl (handled .snapshotDelete rfl)
  | migrate => exact .inl (handled .migrate rfl)
  | snapshotRotate | backupCreate => exact .inr (by cases gt <;> decide)
  | acmeRenew | other _ => simp [guestTasks] at offered

theorem command_iff {cluster : String} {kind : TaskType} {fields : Fields}
    (offered : kind ∈ guestTasks) :
    CarriesOut cluster node gt vmid
        (.command cluster node ⟨id, actionPrefix gt ++ suffix kind, fields⟩) ↔
      commandVmid fields = some vmid := by
  constructor
  · rintro ⟨-, -, read, -⟩
    exact read
  · intro read
    refine ⟨rfl, rfl, read, fun agent call called => ?_⟩
    rcases @taskAction_cases gt kind offered with ⟨verb, listed⟩ | unlisted
    · exact about_agentCall listed read called
    · rw [agentCall_unlisted unlisted] at called
      cases called

end Command

section Merge

variable {task : ScheduledTask} {key : String}

theorem lookup_insertAll (extra : Fields) (params : Params) :
    (extra.foldr (fun entry params => params.insert entry.1 (.decoded entry.2)) params).lookup key =
      ((extra.lookup key).map Value.decoded).or (params.lookup key) := by
  induction extra with
  | nil => rfl
  | cons entry extra ih =>
      rw [List.foldr_cons, FiniteMap.lookup_insert_eq, ih]
      by_cases here : key = entry.1
      · rw [if_pos here, here, List.lookup_cons_self]
        rfl
      · have differs : (key == entry.1) = false := by simpa using here
        rw [if_neg here, List.lookup_cons, differs]

theorem lookup_mergeParams :
    (mergeParams task).lookup key = ((stored task key).map Value.decoded).or
      (if key = "vmid" then some (.int task.targetID) else none) := by
  have base : ((∅ : Params).insert "vmid" (.int task.targetID)).lookup key =
      if key = "vmid" then some (.int task.targetID) else none := by
    rw [FiniteMap.lookup_insert_eq]
    rfl
  rw [← base, mergeParams, stored]
  cases extraParams task with
  | none => rfl
  | some extra => exact lookup_insertAll extra _

theorem commandVmid_eq : commandVmid (wireFields (mergeParams task)) = agentReads task := by
  rw [commandVmid, field, lookup_wireFields, lookup_mergeParams, agentReads, if_pos rfl]
  cases stored task "vmid" with
  | none => rfl
  | some v => rfl

theorem clientVmid_eq : clientVmid (mergeParams task) = clientReads task := by
  rw [clientVmid, asInt, asFloat, lookup_mergeParams, clientReads, if_pos rfl]
  cases stored task "vmid" with
  | none => rfl
  | some v => cases read : number v <;> simp [read]

theorem asksWith_iff : AsksWith (mergeParams task) task.taskType ↔ Asks task := by
  have storage : asString (mergeParams task) "storage" ≠ "" ↔
      ∃ storage, stored task "storage" = some (.str storage) ∧ storage ≠ "" := by
    rw [asString, lookup_mergeParams, if_neg (by decide)]
    cases stored task "storage" with
    | none => simp
    | some v => cases v <;> simp
  cases kind : task.taskType with
  | backupCreate => simpa [Asks, kind, AsksWith] using storage
  | powerOn | powerOff | shutdown | snapshotCreate | snapshotCleanup | snapshotRotate | acmeRenew
    | migrate | other _ => simp [Asks, kind, AsksWith]

end Merge

section Result

variable {zone : Cron.Zone} {env : Env} {gt : GuestType} {task : ScheduledTask} {node : String}

theorem trySend_of_connected {cluster action : String} {params : Params}
    (connected : Connected env cluster node) :
    trySend env cluster node action params = some ⟨cmdID env action, action, wireFields params⟩ := by
  obtain ⟨hub, configured, listed, fits⟩ := connected
  rw [trySend, configured]
  simp only [listed, not_true_eq_false, if_false, fits, if_true]
  rfl

theorem trySend_of_not_connected {cluster action : String} {params : Params}
    (unconnected : ¬Connected env cluster node) :
    trySend env cluster node action params = none := by
  rw [trySend]
  cases configured : env.agentHub with
  | none => rfl
  | some hub =>
      dsimp only
      by_cases listed : Env.key cluster node ∈ hub.agents
      · by_cases fits : hub.accepts (Env.key cluster node) = true
        · exact absurd ⟨hub, configured, listed, fits⟩ unconnected
        · rw [if_neg (not_not.mpr listed), if_neg fits]
      · rw [if_pos listed]

theorem carry_iff (guest : task.targetType = target gt) (offered : task.taskType ∈ guestTasks) :
    CarriesOut task.cluster node gt task.targetID (carry env node task) ↔
      KeepsTarget env task node := by
  have action := taskTypeToAction_eq guest offered
  have other : taskTypeToAction task ≠ "cluster_acme_renew" := by
    rw [action]
    cases kind : task.taskType <;> cases gt <;> simp [kind, guestTasks] at offered <;> decide
  rw [carry, scheduleAction, if_neg other]
  by_cases connected : Connected env task.cluster node
  · rw [trySend_of_connected connected, action]
    refine (command_iff offered).trans ⟨fun read => ⟨fun _ => ?_, fun never => ?_⟩, fun keeps => ?_⟩
    · exact commandVmid_eq.symm.trans read
    · exact absurd connected never
    · exact commandVmid_eq.trans (keeps.agent connected)
  · rw [trySend_of_not_connected connected]
    by_cases client : node ∈ clients env task.cluster
    · rw [if_pos client, action, CarriesOut, and_iff_right rfl]
      refine (fallback_iff offered).trans ?_
      rw [asksWith_iff, clientVmid_eq]
      exact ⟨fun keeps => ⟨fun agent => absurd agent connected, fun _ _ => keeps⟩,
        fun keeps => keeps.client connected client⟩
    · rw [if_neg client]
      exact iff_of_true trivial
        ⟨fun agent => absurd agent connected, fun _ present => absurd present client⟩

/-- A task on a guest acts on its own guest in all runs exactly if its node is not found or
whoever acts reads the VMID of the target. -/
theorem ownTarget_iff (zone : Cron.Zone) (env : Env) (gt : GuestType) (task : ScheduledTask)
    (node : String) (guest : task.targetType = target gt)
    (offered : task.taskType ∈ guestTasks) :
    OwnTarget zone env gt task node ↔ (node ≠ "" → KeepsTarget env task node) := by
  have narrow : isClusterWideTask task.taskType = false := by
    cases kind : task.taskType <;> simp [kind, guestTasks] at offered <;> rfl
  have known : taskTypeToAction task ≠ "" := by
    rw [taskTypeToAction_eq guest offered]
    cases kind : task.taskType <;> cases gt <;> simp [kind, guestTasks] at offered <;> decide
  rw [ownTarget_iff_carry narrow known]
  exact imp_congr_right fun _ => carry_iff guest offered

/-- The stored parameters name another guest. -/
def redirected : ScheduledTask := labTask .powerOff (some (.obj [("vmid", .int 101)]))

/-- The guest 101 is stopped in place of the guest 100. -/
theorem stored_vmid_wins : ¬OwnTarget (fun _ => 0) labEnv .vm redirected "pve1" := by
  intro own
  have carried := (ownTarget_iff_carry (by decide) (by decide)).mp own (by decide)
  have keeps := (@carry_iff labEnv .vm redirected "pve1" rfl (by decide)).mp carried
  have read := keeps.agent labEnv_ready.agent
  revert read
  decide +kernel

theorem shutdown_keeps_target :
    OwnTarget (fun _ => 0) labEnv .vm
      (labTask .shutdown (some (.obj [("timeout", .int 60)]))) "pve1" :=
  (ownTarget_iff (fun _ => 0) labEnv .vm (labTask .shutdown (some (.obj [("timeout", .int 60)])))
    "pve1" rfl (by decide)).mpr fun _ =>
      ⟨fun _ => by decide +kernel, fun unconnected => absurd labEnv_ready.agent unconnected⟩

end Result

end ScheduledTargets
