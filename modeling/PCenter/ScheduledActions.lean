import PCenter.Lib.Calendar
import PCenter.Lib.Program
import PCenter.Scheduler
import PCenter.Transports

/-!
# What a scheduled task does

The action function that `cmd/server/main.go` hands to the scheduler, with the rotation of
snapshots in `cmd/server/snapshot_rotate.go`. A connected agent gets the action as a command
and the poller's client is not asked any more; without an agent a switch over the actions
calls the client. The two read the same parameters, but not under the same names, and they do
not know the same actions: `Portable` says for which parameters they come to the same.
-/

namespace ScheduledActions

open GoJson GoText GuestTasks Executor Scheduler Program
open Handlers (Env)
open Transports (agentCall withoutAgents)

section Values

/-- What `json.Marshal` makes of a parameter, as the agent decodes it. -/
def wire : Value → Json
  | .int n => encodeInt n
  | .decoded v => v

def wireFields (params : Params) : Fields :=
  params.entries.map fun entry => (entry.1, wire entry.2)

variable (params : Params) (key : String)

/-- `params[key].(float64)` -/
def asFloat : Option Rat :=
  match params.lookup key with
  | some (.decoded v) => number v
  | _ => none

/-- `params[key].(int)` -/
def asInt : Option Int64 :=
  match params.lookup key with
  | some (.int n) => some n
  | _ => none

/-- `params[key].(string)`, or the empty string. -/
def asString : String :=
  match params.lookup key with
  | some (.decoded (.str s)) => s
  | _ => ""

def asBool : Bool :=
  match params.lookup key with
  | some (.decoded (.bool b)) => b
  | _ => false

end Values

section Client

/-- `Snapshot`, as far as it is read. -/
structure Snapshot where
  name : String
  snapTime : Int64
  deriving DecidableEq, Repr

/-- `VzdumpOptions`, without the field that is not sent. -/
structure VzdumpOptions where
  vmids : List Int64
  storage : String
  mode : String
  compress : String
  notes : String
  deriving DecidableEq, Repr

/-- What is asked of the client of a node, the clock among it. -/
inductive Ask where
  | now
  | start (call : TaskCall)
  | listSnapshots (gt : GuestType) (vmid : Int64)
  | vzdump (opts : VzdumpOptions)
  /- A slice out of its bounds ends the process. -/
  | crash

abbrev Reply : Ask → Type
  | .now => Int
  | .start _ => Except String String
  | .listSnapshots _ _ => Except String (List Snapshot)
  | .vzdump _ => Except String String
  | .crash => Empty

abbrev Code := Prog Ask Reply

def issue (c : Ask) : Code (Reply c) := ask c

/-- The parameters of `CreateVzdump`. -/
def vzdumpParams (opts : VzdumpOptions) : List Form.Pair :=
  param "vmid" (String.intercalate "," (opts.vmids.map itoa)) :: param "storage" opts.storage ::
    (optional "mode" opts.mode ++ optional "compress" opts.compress ++
      optional "notes-template" opts.notes)

/-- The request to Proxmox. -/
def Ask.apiCall (nodeName : String) : Ask → Option ApiCall
  | .now => none
  | .start call => some (call.apiCall nodeName)
  | .listSnapshots gt vmid => some ⟨.get, guestPath nodeName gt vmid "/snapshot", []⟩
  | .vzdump opts =>
      some (GuestTasks.post ("/nodes/" ++ nodeName ++ "/vzdump") (vzdumpParams opts))
  | .crash => none

def createVzdump (opts : VzdumpOptions) : Code (Except String String) :=
  if opts.vmids = [] then pure (.error "at least one VMID required")
  else if opts.storage = "" then pure (.error "storage required")
  else issue (.vzdump opts)

end Client

section Rotation

/-- `snapshotAutoPrefix` -/
def autoPrefix : String := "auto-"

def digits (width : Nat) (n : Int) : String :=
  String.ofList (List.leftpad width '0' (toString n).toList)

/-- `Format("20060102-150405")` of a time in seconds. -/
def stamp (now : Int) : String :=
  let r := Calendar.reading now
  digits 4 r.date.year ++ digits 2 r.date.month ++ digits 2 r.date.day ++ "-" ++
    digits 2 r.hour ++ digits 2 r.minute ++ digits 2 r.second

example : stamp 1709210096 = "20240229-123456" := by decide +kernel

/-- The order of the pruning: newest first, and by name where the times agree. -/
def newer (a b : Snapshot) : Bool :=
  if a.snapTime ≠ b.snapTime then a.snapTime > b.snapTime else a.name > b.name

def eligible (snaps : List Snapshot) : List Snapshot :=
  (snaps.filter fun s => s.name ≠ "current" && hasPrefix autoPrefix s.name).mergeSort
    fun a b => !newer b a

variable (gt : GuestType) (vmid : Int64)

/-- The deletions of `pruneAutoSnapshots`, with the errors that they end in. -/
def deleteAll : List Snapshot → Code (List String)
  | [] => pure []
  | s :: rest => do
      let answer ← issue (.start (.deleteSnapshot gt vmid s.name))
      let errs ← deleteAll rest
      match answer with
      | .ok _ => pure errs
      | .error err => pure ((s.name ++ ": " ++ err) :: errs)

def pruneAutoSnapshots (retention : Int64) : Code (Except String Unit) := do
  let listed ← issue (.listSnapshots gt vmid)
  match listed with
  | .error err => pure (.error ("list snapshots: " ++ err))
  | .ok snaps =>
      if ((eligible snaps).length : Int) ≤ retention.toInt then pure (.ok ())
      else if retention.toInt < 0 then do
        let none_ ← issue .crash
        nomatch none_
      else do
        let deleteErrs ← deleteAll gt vmid ((eligible snaps).drop retention.toInt.toNat)
        if deleteErrs = [] then pure (.ok ())
        else
          pure (.error ("failed to delete " ++ toString deleteErrs.length ++ ": " ++
            String.intercalate "; " deleteErrs))

def retentionOf (params : Params) : Int64 :=
  match asFloat params "retention", asInt params "retention" with
  | some v, _ => if 0 < v then Float64.toInt64 v else 7
  | none, some v => if 0 < v.toInt then v else 7
  | none, none => 7

/-- `CreateVMSnapshot` or `CreateContainerSnapshot` -/
def createCall (name : String) (params : Params) : TaskCall :=
  let description :=
    if asString params "description" = "" then "pCenter scheduled snapshot"
    else asString params "description"
  match gt with
  | .vm => .createVMSnapshot vmid name description (asBool params "vmstate")
  | .ct => .createContainerSnapshot vmid name description

def rotateSnapshots (params : Params) : Code (Except String String) := do
  let now ← issue .now
  let created ← issue (.start (createCall gt vmid (autoPrefix ++ stamp now) params))
  match created with
  | .error err => pure (.error ("create snapshot: " ++ err))
  | .ok upid => do
      let pruned ← pruneAutoSnapshots gt vmid (retentionOf params)
      match pruned with
      | .ok () => pure (.ok upid)
      | .error err =>
          pure (.error ("snapshot created (" ++ upid ++ ") but prune failed: " ++ err))

end Rotation

section Action

/-- The VMID as the fallback reads it. -/
def clientVmid (params : Params) : Int64 :=
  match asInt params "vmid", asFloat params "vmid" with
  | some v, _ => v
  | none, some v => Float64.toInt64 v
  | none, none => 0

/-- The switch of the fallback. -/
def fallback (action : String) (params : Params) : Code (Except String String) :=
  let vmid := clientVmid params
  if action = "vm_start" then issue (.start (.power .vm vmid .start))
  else if action = "vm_stop" then issue (.start (.power .vm vmid .stop))
  else if action = "vm_shutdown" then issue (.start (.power .vm vmid .shutdown))
  else if action = "ct_start" then issue (.start (.power .ct vmid .start))
  else if action = "ct_stop" then issue (.start (.power .ct vmid .stop))
  else if action = "ct_shutdown" then issue (.start (.power .ct vmid .shutdown))
  else if action = "vm_snapshot_rotate" then rotateSnapshots .vm vmid params
  else if action = "ct_snapshot_rotate" then rotateSnapshots .ct vmid params
  else if action = "vm_backup" ∨ action = "ct_backup" then
    if asString params "storage" = "" then pure (.error "backup task requires 'storage' param")
    else
      createVzdump
        ⟨[vmid], asString params "storage", asString params "mode", asString params "compress", ""⟩
  else pure (.error ("unsupported action for poller fallback: " ++ action))

/-- Who carries the action out. -/
inductive Carrier where
  /- `clusterACMERenew` asks the clients of all nodes at once. -/
  | acmeRenew (nodes : List String)
  | command (cluster node : String) (cmd : Command)
  | client (node : String) (code : Code (Except String String))
  | nobody (err : String)

/-- The command that the agent of the node has taken. -/
def trySend (env : Env) (cluster node action : String) (params : Params) : Option Command :=
  match env.agentHub with
  | none => none
  | some hub =>
      if Env.key cluster node ∉ hub.agents then none
      else if hub.accepts (Env.key cluster node) then
        some ⟨"sched-" ++ toString env.now ++ "-" ++ action, action, wireFields params⟩
      else none

/-- `GetClusterClients`; a cluster without clients has none of them. -/
def clients (env : Env) (cluster : String) : List String :=
  (env.poller.bind fun clients => clients cluster).getD []

def scheduleAction (env : Env) (cluster node action : String) (params : Params) : Carrier :=
  if action = "cluster_acme_renew" then
    match env.poller with
    | none =>
        .nobody "poller not available (agent-only mode); ACME renew not supported yet"
    | some _ =>
        if clients env cluster = [] then .nobody ("no clients for cluster \"" ++ cluster ++ "\"")
        else .acmeRenew (clients env cluster)
  else
    match trySend env cluster node action params with
    | some cmd => .command cluster node cmd
    | none =>
        if node ∈ clients env cluster then .client node (fallback action params)
        else .nobody ("no agent or poller client for " ++ cluster ++ "/" ++ node)

end Action

section Operations

/-- The clock, and how Proxmox answers, given what it was asked before. -/
abbrev Server := (c : Ask) → c ≠ .crash → List ApiCall → Reply c

instance (c : Ask) : Decidable (c = .crash) :=
  match c with
  | .crash => .isTrue rfl
  | .now | .start _ | .listSnapshots _ _ | .vzdump _ => .isFalse nofun

/-- What is asked of Proxmox. -/
def performed {A : Type} (server : Server) (node : String) : Code A → List ApiCall → List ApiCall
  | .done _, asked => asked
  | .act c next, asked =>
      if crash : c = .crash then asked
      else
        performed server node (next (server c crash asked)) (asked ++ (c.apiCall node).toList)

/-- The operations at Proxmox that an action comes to. -/
def operations (agent : Agent) (server : Server) : Carrier → List ApiCall
  | .acmeRenew nodes =>
      nodes.map fun node => ⟨.put, "/nodes/" ++ node ++ "/certificates/acme/certificate", []⟩
  | .command _ node cmd => (agentCall agent node cmd).toList
  | .client node code => performed server node code []
  | .nobody _ => []

/-- What the scheduler has done for a task whose guest is on the node. -/
def carry (env : Env) (node : String) (task : ScheduledTask) : Carrier :=
  scheduleAction env task.cluster node (taskTypeToAction task) (mergeParams task)

/-- The agent of the node is connected and the poller has a client for it. -/
structure Ready (env : Env) (cluster node : String) : Prop where
  agent : ∃ hub, env.agentHub = some hub ∧ Env.key cluster node ∈ hub.agents ∧
    hub.accepts (Env.key cluster node) = true
  client : node ∈ clients env cluster

/-- A task does the same with the agent and without it. -/
def SameOnBoth (agent : Agent) (server : Server) (env : Env) (node : String)
    (task : ScheduledTask) : Prop :=
  List.Forall₂ ApiCall.Same (operations agent server (carry env node task))
    (operations agent server (carry (withoutAgents env) node task))

end Operations

section Commands

variable {agent : Agent} {node id action : String} {gt : GuestType} {verb : Verb} {params : Params}

theorem lookup_wireFields (key : String) :
    (wireFields params).lookup key = (params.lookup key).map wire := by
  have entries (l : List (Sigma fun _ : String => Value)) :
      (l.map fun entry => (entry.1, wire entry.2)).lookup key = (l.dlookup key).map wire := by
    induction l with
    | nil => rfl
    | cons entry rest ih =>
        obtain ⟨k, v⟩ := entry
        by_cases here : key = k
        · subst here
          simp [List.dlookup_cons_eq]
        · have differs : (key == k) = false := by simpa using here
          rw [List.dlookup_cons_ne _ _ here, List.map_cons, List.lookup_cons, differs]
          exact ih
  exact entries params.entries

/-- The VMID of a command that the agent accepts, as it reads it. -/
def acceptedVmid (params : Params) : Option Int64 :=
  match (params.lookup "vmid").bind fun v => number (wire v) with
  | some f => if f ≤ 0 then none else some (Float64.toInt64 f)
  | none => none

theorem getVMID_eq {vmid : Int64} (accepted : acceptedVmid params = some vmid) :
    getVMID (wireFields params) = vmid := by
  rw [getVMID, getParamInt, field, lookup_wireFields]
  cases given : params.lookup "vmid" with
  | none => simp [acceptedVmid, given] at accepted
  | some v =>
      cases read : number (wire v) with
      | none => simp [acceptedVmid, given, read] at accepted
      | some f =>
          simp only [acceptedVmid, given, Option.bind_some, read] at accepted
          split_ifs at accepted with nonpositive
          simpa [read] using Option.some.inj accepted

/-- A command about a guest is refused for a missing target or for its VMID. -/
theorem agentCall_wired (identified : id ≠ "") :
    agentCall agent node ⟨id, actionPrefix gt ++ verb.name, wireFields params⟩ =
      if verb = .migrate ∧ params.lookup "target" = none then none
      else
        match acceptedVmid params with
        | none => none
        | some _ =>
            (executeGuest { agent with nodeName := node } gt (wireFields params)
              verb).toOption := by
  have listed : guestActions.lookup (actionPrefix gt ++ verb.name) = some (gt, verb) :=
    GuestOps.lookup_action_iff.mpr ⟨rfl, rfl⟩
  have target : (wireFields params).lookup "target" = none ↔ params.lookup "target" = none := by
    rw [lookup_wireFields, Option.map_eq_none_iff]
  rw [agentCall, execute, Transports.validate_action identified]
  simp only [target]
  by_cases untargeted : verb = .migrate ∧ params.lookup "target" = none
  · rw [if_pos untargeted, if_pos untargeted]
  · rw [if_neg untargeted, if_neg untargeted, lookup_wireFields]
    cases given : params.lookup "vmid" with
    | none => simp [acceptedVmid, given]
    | some v =>
        cases read : number (wire v) with
        | none => simp [acceptedVmid, given, read]
        | some f =>
            by_cases nonpositive : f ≤ 0
            · simp [acceptedVmid, given, read, nonpositive]
            · simp only [acceptedVmid, given, read, Option.map_some, Option.bind_some,
                nonpositive, if_false, listed]
              cases executeGuest { agent with nodeName := node } gt (wireFields params) verb <;> rfl

theorem agentCall_unlisted {fields : Fields} (unlisted : action ∉ allowedActions) :
    agentCall agent node ⟨id, action, fields⟩ = none := by
  by_cases identified : id = "" <;> simp [agentCall, execute, validate, identified, unlisted]

end Commands

section Fallback

variable {A : Type} {server : Server} {node : String} {gt : GuestType} {params : Params}

theorem prefix_performed (code : Code A) (asked : List ApiCall) :
    asked <+: performed server node code asked := by
  induction code generalizing asked with
  | done _ => exact List.prefix_refl asked
  | act c next ih =>
      rw [performed]
      split_ifs with crash
      · exact List.prefix_refl asked
      · exact (List.prefix_append _ _).trans (ih _ _)

theorem performed_act {c : Ask} {next : Reply c → Code A} {asked : List ApiCall}
    (answered : c ≠ .crash) :
    performed server node (.act c next) asked =
      performed server node (next (server c answered asked))
        (asked ++ (c.apiCall node).toList) := by
  rw [performed, dif_neg answered]

theorem performed_issue {c : Ask} {call : ApiCall} (sent : c.apiCall node = some call) :
    performed server node (issue c) [] = [call] := by
  have answered : c ≠ .crash := by
    rintro rfl
    cases sent
  rw [issue, ask, performed_act answered, performed, sent]
  rfl

/-- A rotation begins with a new snapshot. -/
theorem performed_rotateSnapshots (vmid : Int64) :
    performed server node (rotateSnapshots gt vmid params) [] ≠ [] := by
  obtain ⟨next, began⟩ : ∃ next : Int → Except String String → Code (Except String String),
      rotateSnapshots gt vmid params = .act .now fun now =>
        .act (.start (createCall gt vmid (autoPrefix ++ stamp now) params)) (next now) :=
    ⟨_, rfl⟩
  rw [began, performed_act (c := .now) nofun, performed_act (c := .start _) nofun]
  intro nothing
  have kept := (prefix_performed _ _).length_le.trans_eq (congrArg List.length nothing)
  simp [Ask.apiCall] at kept

end Fallback

section Comparison

/-- The types of the tasks on a guest. -/
def guestTasks : List TaskType :=
  [.powerOn, .powerOff, .shutdown, .snapshotCreate, .snapshotCleanup, .snapshotRotate,
    .backupCreate, .migrate]

def target : GuestType → TargetType
  | .vm => .vm
  | .ct => .container

/-- When a task does the same over both transports: power tasks if the agent accepts the VMID
and reads it as it is, the others if neither of the two does anything. -/
def Portable (params : Params) : TaskType → Prop
  | .powerOn | .powerOff | .shutdown => acceptedVmid params = some (clientVmid params)
  | .snapshotCreate => acceptedVmid params = none
  | .snapshotCleanup => acceptedVmid params = none ∨ asString params "snapname" = ""
  | .migrate => acceptedVmid params = none ∨ params.lookup "target" = none
  | .backupCreate => asString params "storage" = ""
  | .snapshotRotate | .acmeRenew | .other _ => False

variable {agent : Agent} {server : Server} {env : Env} {node : String} {task : ScheduledTask}

/-- The identifier of a command of the scheduler. -/
def cmdID (env : Env) (action : String) : String := "sched-" ++ toString env.now ++ "-" ++ action

theorem cmdID_ne_empty (action : String) : cmdID env action ≠ "" := by
  intro empty
  have chars := congrArg String.toList empty
  simp [cmdID] at chars

theorem sameOnBoth_iff_calls (task : ScheduledTask) (ready : Ready env task.cluster node)
    (guest : taskTypeToAction task ≠ "cluster_acme_renew") :
    SameOnBoth agent server env node task ↔
      List.Forall₂ ApiCall.Same
        (agentCall agent node ⟨cmdID env (taskTypeToAction task), taskTypeToAction task,
          wireFields (mergeParams task)⟩).toList
        (performed server node (fallback (taskTypeToAction task) (mergeParams task)) []) := by
  obtain ⟨hub, configured, connected, fits⟩ := ready.agent
  have sent : trySend env task.cluster node (taskTypeToAction task) (mergeParams task) =
      some ⟨cmdID env (taskTypeToAction task), taskTypeToAction task,
        wireFields (mergeParams task)⟩ := by
    rw [trySend, configured]
    simp only [connected, not_true_eq_false, if_false, fits, if_true]
    rfl
  have client : node ∈ clients (withoutAgents env) task.cluster := ready.client
  have direct : carry (withoutAgents env) node task =
      .client node (fallback (taskTypeToAction task) (mergeParams task)) := by
    rw [carry, scheduleAction, if_neg guest]
    exact if_pos client
  have command : carry env node task = .command task.cluster node
      ⟨cmdID env (taskTypeToAction task), taskTypeToAction task,
        wireFields (mergeParams task)⟩ := by
    rw [carry, scheduleAction, if_neg guest, sent]
  rw [SameOnBoth, direct, command]
  rfl

section Kinds

variable {gt : GuestType} {params : Params} {id : String}

theorem forall₂_nil_iff {call : Option ApiCall} :
    List.Forall₂ ApiCall.Same call.toList [] ↔ call = none := by
  cases call <;> simp

theorem performed_error (err : String) :
    performed server node (pure (.error err) : Code (Except String String)) [] = [] := rfl

/-- The power actions: what the agent makes of its parameters against the client's VMID. -/
theorem power_same_iff {verb : Verb} {power : Power} (identified : id ≠ "")
    (verbs : (verb, power) ∈ [(.start, .start), (.stop, .stop), (.shutdown, .shutdown)]) :
    List.Forall₂ ApiCall.Same
        (agentCall agent node ⟨id, actionPrefix gt ++ verb.name, wireFields params⟩).toList
        (performed server node (issue (.start (.power gt (clientVmid params) power))) []) ↔
      acceptedVmid params = some (clientVmid params) := by
  have migrates : ¬(verb = .migrate ∧ params.lookup "target" = none) := by
    rintro ⟨rfl, -⟩
    simp at verbs
  have sent : (Ask.start (.power gt (clientVmid params) power)).apiCall node =
      some ((TaskCall.power gt (clientVmid params) power).apiCall node) := rfl
  rw [performed_issue sent, agentCall_wired identified, if_neg migrates]
  cases accepted : acceptedVmid params with
  | none => simp
  | some vmid =>
      have posted :
          (executeGuest { agent with nodeName := node } gt (wireFields params) verb).toOption =
            some (Executor.post (guestPath node gt vmid ("/status/" ++ power.name))) := by
        rw [← getVMID_eq accepted]
        simp only [List.mem_cons, Prod.mk.injEq, List.not_mem_nil, or_false] at verbs
        rcases verbs with ⟨rfl, rfl⟩ | ⟨rfl, rfl⟩ | ⟨rfl, rfl⟩ <;> rfl
      have calls : ApiCall.Same (Executor.post (guestPath node gt vmid ("/status/" ++ power.name)))
          ((TaskCall.power gt (clientVmid params) power).apiCall node) ↔
            vmid = clientVmid params :=
        Transports.same_post_iff.trans (and_iff_left (.refl _))
      simp [posted, calls]

theorem getString_wireFields (key : String) :
    getString (wireFields params) key = asString params key := by
  rw [getString, field, lookup_wireFields, asString]
  cases params.lookup key with
  | none => rfl
  | some v => cases v with
    | int n => rfl
    | decoded v => cases v <;> rfl

theorem agent_only_same_iff (verb : Verb) (identified : id ≠ "")
    (unknown : fallback (actionPrefix gt ++ verb.name) params = pure (.error
      ("unsupported action for poller fallback: " ++ (actionPrefix gt ++ verb.name)))) :
    List.Forall₂ ApiCall.Same
        (agentCall agent node ⟨id, actionPrefix gt ++ verb.name, wireFields params⟩).toList
        (performed server node (fallback (actionPrefix gt ++ verb.name) params) []) ↔
      acceptedVmid params = none ∨ (verb = .migrate ∧ params.lookup "target" = none) ∨
        (executeGuest { agent with nodeName := node } gt (wireFields params) verb).toOption =
          none := by
  rw [unknown, performed_error, forall₂_nil_iff, agentCall_wired identified]
  by_cases untargeted : verb = .migrate ∧ params.lookup "target" = none
  · simp [untargeted]
  · rw [if_neg untargeted]
    cases acceptedVmid params with
    | none => simp
    | some vmid => simp [untargeted]

theorem onSnapshot_none_iff {call : String → ApiCall} {rest : String} :
    (onSnapshot agent gt (wireFields params) call rest).toOption = none ↔
      asString params "snapname" = "" := by
  rw [onSnapshot, getString_wireFields]
  by_cases unnamed : asString params "snapname" = "" <;> simp [unnamed, Except.toOption]

theorem client_only_same_iff {action : String} (unlisted : action ∉ allowedActions) :
    List.Forall₂ ApiCall.Same
        (agentCall agent node ⟨id, action, wireFields params⟩).toList
        (performed server node (fallback action params) []) ↔
      performed server node (fallback action params) [] = [] := by
  rw [agentCall_unlisted unlisted, Option.toList_none, List.forall₂_nil_left_iff]

theorem performed_backup_iff {vmid : Int64} :
    performed server node
        (if asString params "storage" = "" then
          pure (.error "backup task requires 'storage' param")
        else
          createVzdump ⟨[vmid], asString params "storage", asString params "mode",
            asString params "compress", ""⟩) [] = [] ↔
      asString params "storage" = "" := by
  by_cases missing : asString params "storage" = ""
  · rw [if_pos missing]
    exact iff_of_true rfl missing
  · rw [if_neg missing, createVzdump, if_neg (List.cons_ne_nil _ _), if_neg missing,
      performed_issue rfl]
    exact iff_of_false (List.cons_ne_nil _ _) missing

/-- What stands behind the prefix in the action of a task. -/
def suffix : TaskType → String
  | .powerOn => "start"
  | .powerOff => "stop"
  | .shutdown => "shutdown"
  | .snapshotCreate => "snapshot_create"
  | .snapshotCleanup => "snapshot_delete"
  | .snapshotRotate => "snapshot_rotate"
  | .backupCreate => "backup"
  | .migrate => "migrate"
  | .acmeRenew | .other _ => ""

theorem taskTypeToAction_eq (guest : task.targetType = target gt)
    (offered : task.taskType ∈ guestTasks) :
    taskTypeToAction task = actionPrefix gt ++ suffix task.taskType := by
  rw [taskTypeToAction, guest]
  cases kind : task.taskType with
  | acmeRenew | other _ => simp [kind, guestTasks] at offered
  | powerOn | powerOff | shutdown | snapshotCreate | snapshotCleanup | snapshotRotate
    | backupCreate | migrate => cases gt <;> rfl

theorem calls_same_iff (gt : GuestType) {kind : TaskType} (identified : id ≠ "")
    (offered : kind ∈ guestTasks) :
    List.Forall₂ ApiCall.Same
        (agentCall agent node ⟨id, actionPrefix gt ++ suffix kind, wireFields params⟩).toList
        (performed server node (fallback (actionPrefix gt ++ suffix kind) params) []) ↔
      Portable params kind := by
  have powered (verb : Verb) (power : Power)
      (verbs : (verb, power) ∈ [(Verb.start, Power.start), (.stop, .stop), (.shutdown, .shutdown)])
      (known : fallback (actionPrefix gt ++ verb.name) params =
        issue (.start (.power gt (clientVmid params) power))) :
      List.Forall₂ ApiCall.Same
          (agentCall agent node ⟨id, actionPrefix gt ++ verb.name, wireFields params⟩).toList
          (performed server node (fallback (actionPrefix gt ++ verb.name) params) []) ↔
        acceptedVmid params = some (clientVmid params) := by
    rw [known]
    exact power_same_iff identified verbs
  cases kind with
  | powerOn => exact powered .start .start (by decide) (by cases gt <;> rfl)
  | powerOff => exact powered .stop .stop (by decide) (by cases gt <;> rfl)
  | shutdown => exact powered .shutdown .shutdown (by decide) (by cases gt <;> rfl)
  | snapshotCreate =>
      refine (agent_only_same_iff .snapshotCreate identified
        (by cases gt <;> rfl)).trans ?_
      simp [Portable, executeGuest, Except.toOption]
  | snapshotCleanup =>
      refine (agent_only_same_iff .snapshotDelete identified
        (by cases gt <;> rfl)).trans ?_
      rw [executeGuest, onSnapshot_none_iff]
      simp [Portable]
  | migrate =>
      refine (agent_only_same_iff .migrate identified (by cases gt <;> rfl)).trans ?_
      simp [Portable, executeGuest, Except.toOption]
  | snapshotRotate =>
      refine (client_only_same_iff (by cases gt <;> decide)).trans ?_
      have rotates : fallback (actionPrefix gt ++ suffix .snapshotRotate) params =
          rotateSnapshots gt (clientVmid params) params := by cases gt <;> rfl
      rw [rotates]
      exact iff_of_false (performed_rotateSnapshots _) fun never => never
  | backupCreate =>
      refine (client_only_same_iff (by cases gt <;> decide)).trans ?_
      have backs : fallback (actionPrefix gt ++ suffix .backupCreate) params =
          if asString params "storage" = "" then
            pure (.error "backup task requires 'storage' param")
          else
            createVzdump ⟨[clientVmid params], asString params "storage",
              asString params "mode", asString params "compress", ""⟩ := by cases gt <;> rfl
      rw [backs]
      exact performed_backup_iff
  | acmeRenew | other _ => simp [guestTasks] at offered

end Kinds

/-- A task on a guest does the same over both transports exactly if it is portable. -/
theorem sameOnBoth_iff (agent : Agent) (server : Server) (env : Env) (node : String)
    (task : ScheduledTask) (gt : GuestType) (guest : task.targetType = target gt)
    (offered : task.taskType ∈ guestTasks) (ready : Ready env task.cluster node) :
    SameOnBoth agent server env node task ↔ Portable (mergeParams task) task.taskType := by
  have action := taskTypeToAction_eq guest offered
  have other : taskTypeToAction task ≠ "cluster_acme_renew" := by
    rw [action]
    cases kind : task.taskType <;> cases gt <;> simp [kind, guestTasks] at offered <;> decide
  rw [sameOnBoth_iff_calls task ready other, action]
  exact calls_same_iff gt (cmdID_ne_empty _) offered

/-- An agent and a client for the node `pve1` of the cluster `lab`. -/
def labEnv : Env :=
  { (GuestOps.labServer "running" "admin" (some GuestOps.labHub)).env with
    poller := some fun cluster => if cluster = "lab" then some ["pve1"] else none }

theorem labEnv_ready : Ready labEnv "lab" "pve1" :=
  ⟨⟨GuestOps.labHub, rfl, by decide, rfl⟩, by decide⟩

def labTask (kind : TaskType) (params : Option Json) : ScheduledTask :=
  ⟨"t1", "nightly", true, kind, .vm, 100, "lab", "0 2 * * *", params, none, none⟩

/-- A server that answers with errors only. -/
def labServer : Server := fun c answered _ =>
  match c with
  | .now => 0
  | .start _ | .listSnapshots _ _ | .vzdump _ => .error "timeout"
  | .crash => absurd rfl answered

theorem power_task_same :
    SameOnBoth Transports.labAgent labServer labEnv "pve1" (labTask .powerOn none) := by
  have portable : acceptedVmid (mergeParams (labTask .powerOn none)) =
      some (clientVmid (mergeParams (labTask .powerOn none))) := by decide +kernel
  exact (sameOnBoth_iff Transports.labAgent labServer labEnv "pve1" (labTask .powerOn none)
    .vm rfl (by decide) labEnv_ready).mpr portable

/-- The agent rejects the rotation of snapshots, and the client is not asked. -/
theorem rotation_rejected :
    (labTask .snapshotRotate none).targetType = target .vm ∧
      (labTask .snapshotRotate none).taskType ∈ guestTasks ∧ Ready labEnv "lab" "pve1" ∧
      ¬SameOnBoth Transports.labAgent labServer labEnv "pve1" (labTask .snapshotRotate none) := by
  refine ⟨rfl, by decide, labEnv_ready, ?_⟩
  intro same
  have calls := (sameOnBoth_iff_calls (labTask .snapshotRotate none) labEnv_ready
    (by decide)).mp same
  have listed : TaskType.snapshotRotate ∈ guestTasks := by decide
  exact (calls_same_iff .vm (cmdID_ne_empty _) listed).mp calls

end Comparison

end ScheduledActions
