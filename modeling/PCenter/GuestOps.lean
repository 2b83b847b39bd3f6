import PCenter.Handlers

/-!
# Operations on guests

What a request makes the server send, seen as operations on guests: starting and stopping,
configuring, snapshots, cloning, migrating, moving disks, converting into a template,
deleting. `Asks` lists, endpoint by endpoint, when a request asks for an operation and
which permission check stands in front of it; `mem_ops_handle_iff` says that exactly the
operations asked for behind a check that passes are sent.
-/

namespace GuestOps

open GoJson GoText GuestTasks Executor Handlers Auth
open Routes (Endpoint)

inductive OpKind where
  | power
  | config
  | snapshot
  | clone
  | migrate
  | diskMove
  | convertToTemplate
  | delete
  deriving DecidableEq, Repr

structure GuestOp where
  kind : OpKind
  gt : GuestType
  cluster : String
  vmid : Int64
  deriving DecidableEq, Repr

section Operations

/-- The operation behind an agent's action; two actions only read. -/
def kindOf : Verb → Option OpKind
  | .start | .stop | .shutdown | .reboot => some .power
  | .migrate => some .migrate
  | .clone => some .clone
  | .delete => some .delete
  | .configSet => some .config
  | .convertToTemplate => some .convertToTemplate
  | .snapshotCreate | .snapshotDelete | .snapshotRollback => some .snapshot
  | .configGet | .snapshotList => none

/-- The VMID that a command names, if it names one. -/
def namedVMID (params : Fields) : Option Int64 :=
  match field params "vmid" with
  | .int n => some (Float64.toInt64 n)
  | .float q => some (Float64.toInt64 q)
  | _ => none

def commandOp (cluster action : String) (params : Fields) : Option GuestOp := do
  let (gt, verb) ← guestActions.lookup action
  let kind ← kindOf verb
  let vmid ← namedVMID params
  some ⟨kind, gt, cluster, vmid⟩

def taskOp (cluster : String) : TaskCall → GuestOp
  | .power gt vmid _ => ⟨.power, gt, cluster, vmid⟩
  | .delete gt vmid _ => ⟨.delete, gt, cluster, vmid⟩
  | .migrate gt vmid _ _ => ⟨.migrate, gt, cluster, vmid⟩
  | .moveVMDisk vmid _ _ _ _ => ⟨.diskMove, .vm, cluster, vmid⟩
  | .moveContainerVolume vmid _ _ _ => ⟨.diskMove, .ct, cluster, vmid⟩
  | .clone gt vmid _ => ⟨.clone, gt, cluster, vmid⟩
  | .convertToTemplate gt vmid => ⟨.convertToTemplate, gt, cluster, vmid⟩
  | .createVMSnapshot vmid _ _ _ => ⟨.snapshot, .vm, cluster, vmid⟩
  | .createContainerSnapshot vmid _ _ => ⟨.snapshot, .ct, cluster, vmid⟩
  | .rollbackSnapshot gt vmid _ => ⟨.snapshot, gt, cluster, vmid⟩
  | .deleteSnapshot gt vmid _ => ⟨.snapshot, gt, cluster, vmid⟩

def sentOp : Sent → Option GuestOp
  | .task client call => some (taskOp client.cluster call)
  | .config client gt vmid _ => some ⟨.config, gt, client.cluster, vmid⟩
  | .command cluster _ cmd => commandOp cluster cmd.action cmd.params

/-- The operations among what a handler sends. -/
def ops : Result → List GuestOp
  | .ok sent => sent.filterMap sentOp
  | .error _ => []

end Operations

section Transports

variable (env : Env) (cluster node action : String)

/-- The agent of the node takes the command. -/
def Takes : Prop :=
  ∃ hub, env.agentHub = some hub ∧ action ∈ allowedAgentActions ∧
    Env.key cluster node ∈ hub.agents ∧ hub.accepts (Env.key cluster node) = true

def HasClient : Prop := (env.getClient cluster node).isSome

def Reaches : Prop := Takes env cluster node action ∨ HasClient env cluster node

variable {env cluster node action}

theorem getClient_eq {client : Client} (there : env.getClient cluster node = some client) :
    client = ⟨cluster, node⟩ := by
  simp only [Env.getClient] at there
  split at there
  · exact (Option.some.inj there).symm
  · split at there
    · exact (Option.some.inj there).symm
    · exact nomatch there

theorem getClient_eq_some_iff {client : Client} :
    env.getClient cluster node = some client ↔
      HasClient env cluster node ∧ client = ⟨cluster, node⟩ := by
  constructor
  · intro there
    exact ⟨by simp [HasClient, there], getClient_eq there⟩
  · rintro ⟨has, rfl⟩
    obtain ⟨client, there⟩ := Option.isSome_iff_exists.mp has
    rw [there, getClient_eq there]

theorem sendCommand_eq_ok_iff {hub : Hub} {params : Fields} {sent : Sent} :
    env.sendCommand hub cluster node action params = .ok sent ↔
      Env.key cluster node ∈ hub.agents ∧ hub.accepts (Env.key cluster node) = true ∧
        sent = .command cluster node
          ⟨"cmd-" ++ toString env.now ++ "-" ++ action, action, params⟩ := by
  by_cases connected : Env.key cluster node ∈ hub.agents
  · by_cases fits : hub.accepts (Env.key cluster node) = true
    · simp [Env.sendCommand, connected, fits, @eq_comm _ sent]
    · simp [Env.sendCommand, connected, fits]
  · simp [Env.sendCommand, connected]

theorem tryAgentAction_eq_some_iff {params : Fields} {sent : Sent} :
    env.tryAgentAction cluster node action params = some sent ↔
      Takes env cluster node action ∧ sent = .command cluster node
        ⟨"cmd-" ++ toString env.now ++ "-" ++ action, action, params⟩ := by
  cases hub : env.agentHub with
  | none => simp [Env.tryAgentAction, Takes, hub]
  | some hub' =>
      by_cases allowed : action ∈ allowedAgentActions
      · by_cases connected : Env.key cluster node ∈ hub'.agents
        · have answered : env.tryAgentAction cluster node action params = some sent ↔
              env.sendCommand hub' cluster node action params = .ok sent := by
            simp only [Env.tryAgentAction, hub, allowed, connected, not_true_eq_false, if_false]
            cases env.sendCommand hub' cluster node action params <;> simp [Except.toOption]
          rw [answered, sendCommand_eq_ok_iff]
          simp [Takes, hub, allowed, connected]
        · simp [Env.tryAgentAction, Takes, hub, allowed, connected]
      · simp [Env.tryAgentAction, Takes, hub, allowed]

theorem tryAgentAction_eq_none {params : Fields} (refused : ¬Takes env cluster node action) :
    env.tryAgentAction cluster node action params = none := by
  cases tried : env.tryAgentAction cluster node action params with
  | none => rfl
  | some sent => exact absurd (tryAgentAction_eq_some_iff.mp tried).1 refused

end Transports

section Actions

theorem actionPrefix_append_inj {gt gt' : GuestType} {a b : String}
    (same : actionPrefix gt ++ a = actionPrefix gt' ++ b) : gt' = gt ∧ b = a := by
  have apart : ∀ s t : String, "vm_" ++ s ≠ "ct_" ++ t := by
    intro s t equal
    have chars := congrArg String.toList equal
    simp at chars
  cases gt <;> cases gt'
  · exact ⟨rfl, ((String.append_right_inj _).mp same).symm⟩
  · exact absurd same (apart _ _)
  · exact absurd same.symm (apart _ _)
  · exact ⟨rfl, ((String.append_right_inj _).mp same).symm⟩

theorem spelled_of_mem {entry : String × GuestType × Verb} (listed : entry ∈ guestActions) :
    entry.1 = actionPrefix entry.2.1 ++ entry.2.2.name := by
  have spelled : ∀ e ∈ guestActions, e.1 = actionPrefix e.2.1 ++ e.2.2.name := by decide
  exact spelled entry listed

theorem spelled_of_lookup {action : String} {gt : GuestType} {verb : Verb}
    (listed : guestActions.lookup action = some (gt, verb)) :
    action = actionPrefix gt ++ verb.name := by
  obtain ⟨before, after, shape, -⟩ := List.lookup_eq_some_iff.mp listed
  have member : (action, gt, verb) ∈ guestActions := by
    rw [shape]
    simp
  exact spelled_of_mem member

/-- The action that a power request hands to the agent. -/
theorem lookup_action_iff {gt gt' : GuestType} {action : String} {verb : Verb} :
    guestActions.lookup (actionPrefix gt ++ action) = some (gt', verb) ↔
      gt' = gt ∧ verb.name = action := by
  constructor
  · intro listed
    exact actionPrefix_append_inj (spelled_of_lookup listed)
  · rintro ⟨rfl, rfl⟩
    cases gt' <;> cases verb <;> rfl

theorem namedVMID_encodeInt (vmid : Int64) (rest : Fields) :
    namedVMID (("vmid", encodeInt vmid) :: rest) = some vmid := by
  have named : field (("vmid", encodeInt vmid) :: rest) "vmid" = .int vmid.toInt := rfl
  simp only [namedVMID, named]
  rw [Float64.toInt64_intCast vmid.le_toInt vmid.toInt_lt, Int64.ofInt_toInt]

theorem commandOp_eq_some_iff {cluster action : String} {gt : GuestType} {vmid : Int64}
    {rest : Fields} {op : GuestOp} :
    commandOp cluster (actionPrefix gt ++ action) (("vmid", encodeInt vmid) :: rest) = some op ↔
      ∃ verb kind, verb.name = action ∧ kindOf verb = some kind ∧
        op = ⟨kind, gt, cluster, vmid⟩ := by
  simp only [commandOp, namedVMID_encodeInt, Option.bind_eq_bind, Option.bind_eq_some_iff,
    Option.some.injEq, Prod.exists]
  constructor
  · rintro ⟨gt', verb, listed, kind, kinded, vmid', rfl, rfl⟩
    obtain ⟨rfl, spelled⟩ := lookup_action_iff.mp listed
    exact ⟨verb, kind, spelled, kinded, rfl⟩
  · rintro ⟨verb, kind, spelled, kinded, rfl⟩
    exact ⟨gt, verb, lookup_action_iff.mpr ⟨rfl, spelled⟩, kind, kinded, vmid, rfl, rfl⟩

end Actions

/-- A permission check that a handler makes. -/
structure Check where
  permission : String
  objectType : String
  objectID : String
  deriving DecidableEq, Repr

/-- The check stands and lets the request through, or there is none. -/
def Passes (env : Env) (ctx : Context) (check : Option Check) : Prop :=
  ∀ c, check = some c →
    env.requirePermission ctx c.permission c.objectType c.objectID = .ok ()

section Steps

/-! The operations of a handler, step by step. -/

variable {A : Type} {op : GuestOp} {env : Env} {ctx : Context} {r : Request}
variable {values : List (String × String)}

theorem mem_ops_found {value : Option A} {refusal : Refusal} {next : A → Result} :
    op ∈ ops (found value refusal >>= next) ↔ ∃ a, value = some a ∧ op ∈ ops (next a) := by
  cases value with
  | none => simp [found, ops, bind, Except.bind]
  | some a => simp [found, bind, Except.bind]

theorem mem_ops_refuseIf {p : Prop} [Decidable p] {refusal : Refusal} {next : Unit → Result} :
    op ∈ ops (refuseIf p refusal >>= next) ↔ ¬p ∧ op ∈ ops (next ()) := by
  by_cases holds : p
  · simp [refuseIf, holds, ops, bind, Except.bind]
  · simp [refuseIf, holds, bind, Except.bind]

theorem mem_ops_requirePermission {permission objectType objectID : String}
    {next : Unit → Result} :
    op ∈ ops (env.requirePermission ctx permission objectType objectID >>= next) ↔
      Passes env ctx (some ⟨permission, objectType, objectID⟩) ∧ op ∈ ops (next ()) := by
  cases checked : env.requirePermission ctx permission objectType objectID with
  | error refusal => simp [Passes, checked, ops, bind, Except.bind]
  | ok done => simp [Passes, checked, bind, Except.bind]

theorem mem_ops_guestInCluster {gt : GuestType} {vmid : Int64} {notFound : String}
    {next : Guest → Result} :
    op ∈ ops (guestInCluster env values gt vmid notFound >>= next) ↔
      ∃ guest, recorded env.store (pathValue values "cluster") gt vmid = some guest ∧
        op ∈ ops (next guest) := by
  rw [guestInCluster, bind_assoc, mem_ops_found]
  simp only [mem_ops_found, recorded, Option.bind_eq_some_iff]
  constructor
  · rintro ⟨cs, known, guest, listed, member⟩
    exact ⟨guest, ⟨cs, known, listed⟩, member⟩
  · rintro ⟨guest, ⟨cs, known, listed⟩, member⟩
    exact ⟨cs, known, guest, listed, member⟩

theorem mem_ops_getClient {cluster node : String} {refusal : Refusal}
    {next : Client → Result} :
    op ∈ ops (found (env.getClient cluster node) refusal >>= next) ↔
      HasClient env cluster node ∧ op ∈ ops (next ⟨cluster, node⟩) := by
  rw [mem_ops_found]
  constructor
  · rintro ⟨client, there, member⟩
    obtain ⟨has, rfl⟩ := getClient_eq_some_iff.mp there
    exact ⟨has, member⟩
  · rintro ⟨has, member⟩
    exact ⟨_, getClient_eq_some_iff.mpr ⟨has, rfl⟩, member⟩

theorem mem_ops_task {client : Client} {call : TaskCall} :
    op ∈ ops (.ok [.task client call]) ↔ op = taskOp client.cluster call := by
  simp [ops, sentOp, @eq_comm _ op]

theorem mem_ops_run {p : AgentFirst} :
    op ∈ ops (p.run env) ↔
      (Takes env p.cluster p.node p.action ∧
        commandOp p.cluster p.action p.params = some op) ∨
      (¬Takes env p.cluster p.node p.action ∧ HasClient env p.cluster p.node ∧
        ∃ call, p.fallback = .ok call ∧ op = taskOp p.cluster call) := by
  by_cases taken : Takes env p.cluster p.node p.action
  · have tried : env.tryAgentAction p.cluster p.node p.action p.params = some _ :=
      tryAgentAction_eq_some_iff.mpr ⟨taken, rfl⟩
    cases named : commandOp p.cluster p.action p.params with
    | none => simp [AgentFirst.run, tried, taken, ops, sentOp, named]
    | some op' => simp [AgentFirst.run, tried, taken, ops, sentOp, named, @eq_comm _ op]
  · simp only [AgentFirst.run, tryAgentAction_eq_none taken, taken, false_and, false_or,
      not_false_eq_true, true_and, mem_ops_getClient]
    cases p.fallback with
    | error refusal => simp [ops, bind, Except.bind]
    | ok call =>
        have next : ((Except.ok call : Except Refusal TaskCall) >>= fun call =>
            (Except.ok [Sent.task ⟨p.cluster, p.node⟩ call] : Result)) =
            .ok [Sent.task ⟨p.cluster, p.node⟩ call] := rfl
        simp [next, mem_ops_task]

theorem mem_ops_run_of_same {p : AgentFirst} {same : GuestOp} {call : TaskCall}
    (command : commandOp p.cluster p.action p.params = some same)
    (fallback : p.fallback = .ok call) (task : taskOp p.cluster call = same) :
    op ∈ ops (p.run env) ↔ Reaches env p.cluster p.node p.action ∧ op = same := by
  rw [mem_ops_run, command, fallback]
  by_cases taken : Takes env p.cluster p.node p.action
  · simp [Reaches, taken, @eq_comm _ op]
  · simp [Reaches, taken, task]

end Steps

section Handlers

variable (env : Env) (r : Request) (values : List (String × String))

def clusterOf : String := pathValue values "cluster"

/-- The member of a pair of endpoints. -/
def forType (vm ct : Endpoint) : GuestType → Endpoint
  | .vm => vm
  | .ct => ct

def checkOf (gt : GuestType) (kind : String) : Check :=
  ⟨perm gt kind, object gt, pathValue values "vmid"⟩

/-- When a request to an endpoint asks for an operation, behind which check. -/
inductive Asks : Endpoint → Option Check → GuestOp → Prop where
  | power {gt : GuestType} {vmid : Int64} {guest : Guest} {verb : Power}
      (parsed : atoi (pathValue values "vmid") = some vmid)
      (known : storeGuest env.store vmid gt = some guest)
      (client : HasClient env guest.cluster guest.node)
      (action : powerOf (pathValue values "action") = some verb) :
      Asks (forType .vMAction .containerAction gt) none ⟨.power, gt, guest.cluster, vmid⟩
  | agentAction {gt : GuestType} {vmid : Int64} {guest : Guest} {verb : Verb} {kind : OpKind}
      (parsed : atoi (pathValue values "vmid") = some vmid)
      (known : recorded env.store (clusterOf values) gt vmid = some guest)
      (action : verb.name = pathValue values "action") (kinded : kindOf verb = some kind)
      (taken : Takes env (clusterOf values) guest.node (actionPrefix gt ++ verb.name)) :
      Asks (forType .clusterVMAction .clusterContainerAction gt)
        (some (checkOf values gt "power")) ⟨kind, gt, clusterOf values, vmid⟩
  | clientAction {gt : GuestType} {vmid : Int64} {guest : Guest} {verb : Power}
      (parsed : atoi (pathValue values "vmid") = some vmid)
      (known : recorded env.store (clusterOf values) gt vmid = some guest)
      (action : powerOf (pathValue values "action") = some verb)
      (refused : ¬Takes env (clusterOf values) guest.node
        (actionPrefix gt ++ pathValue values "action"))
      (client : HasClient env (clusterOf values) guest.node) :
      Asks (forType .clusterVMAction .clusterContainerAction gt)
        (some (checkOf values gt "power")) ⟨.power, gt, clusterOf values, vmid⟩
  | delete {gt : GuestType} {vmid : Int64} {guest : Guest}
      (parsed : atoi (pathValue values "vmid") = some vmid)
      (known : recorded env.store (clusterOf values) gt vmid = some guest)
      (stopped : guest.status ≠ "running")
      (reaches : Reaches env (clusterOf values) guest.node (actionPrefix gt ++ "delete")) :
      Asks (forType .deleteClusterVM .deleteClusterContainer gt)
        (some (checkOf values gt "delete")) ⟨.delete, gt, clusterOf values, vmid⟩
  | migrate {gt : GuestType} {vmid : Int64} {guest : Guest} {req : MigrateRequest}
      (parsed : atoi (pathValue values "vmid") = some vmid)
      (body : decoded r readMigrateRequest = some req) (target : req.targetNode ≠ "")
      (known : storeGuest env.store vmid gt = some guest)
      (elsewhere : guest.node ≠ req.targetNode)
      (client : HasClient env guest.cluster guest.node) :
      Asks (forType .migrateVM .migrateContainer gt) none ⟨.migrate, gt, guest.cluster, vmid⟩
  | clusterMigrate {gt : GuestType} {vmid : Int64} {guest : Guest} {req : MigrateRequest}
      (parsed : atoi (pathValue values "vmid") = some vmid)
      (body : decoded r readMigrateRequest = some req) (target : req.targetNode ≠ "")
      (known : recorded env.store (clusterOf values) gt vmid = some guest)
      (elsewhere : guest.node ≠ req.targetNode)
      (reaches : Reaches env (clusterOf values) guest.node (actionPrefix gt ++ "migrate")) :
      Asks (forType .clusterMigrateVM .clusterMigrateContainer gt)
        (some (checkOf values gt "migrate")) ⟨.migrate, gt, clusterOf values, vmid⟩
  | moveDisk {gt : GuestType} {vmid : Int64} {guest : Guest} {req : MoveDiskRequest}
      (parsed : atoi (pathValue values "vmid") = some vmid)
      (body : decoded r readMoveDiskRequest = some req) (disk : req.disk ≠ "")
      (target : req.targetStorage ≠ "")
      (known : recorded env.store (clusterOf values) gt vmid = some guest)
      (client : HasClient env (clusterOf values) guest.node) :
      Asks (forType .clusterMoveVMDisk .clusterMoveContainerVolume gt)
        (some (checkOf values gt "disk_move")) ⟨.diskMove, gt, clusterOf values, vmid⟩
  | config {gt : GuestType} {vmid : Int64} {guest : Guest} {req : ConfigUpdateRequest}
      (parsed : atoi (pathValue values "vmid") = some vmid)
      (body : decoded r readConfigUpdateRequest = some req) (digest : req.digest ≠ "")
      (known : recorded env.store (clusterOf values) gt vmid = some guest)
      (client : HasClient env (clusterOf values) guest.node) :
      Asks (forType .updateClusterVMConfig .updateClusterContainerConfig gt)
        (some (checkOf values gt "config")) ⟨.config, gt, clusterOf values, vmid⟩
  | clone {gt : GuestType} {vmid : Int64} {guest : Guest} {req : CloneOptions}
      (parsed : atoi (pathValue values "vmid") = some vmid)
      (body : decoded r readCloneRequest = some req) (newID : req.newID ≠ 0)
      (known : recorded env.store (clusterOf values) gt vmid = some guest)
      (reaches : Reaches env (clusterOf values) guest.node (actionPrefix gt ++ "clone")) :
      Asks (forType .cloneVM .cloneContainer gt) none ⟨.clone, gt, clusterOf values, vmid⟩
  | convert {gt : GuestType} {vmid : Int64} {guest : Guest}
      (parsed : atoi (pathValue values "vmid") = some vmid)
      (known : recorded env.store (clusterOf values) gt vmid = some guest)
      (plain : guest.template = false) (stopped : guest.status ≠ "running")
      (reaches : Reaches env (clusterOf values) guest.node
        (actionPrefix gt ++ "convert_to_template")) :
      Asks (forType .convertVMToTemplate .convertContainerToTemplate gt) none
        ⟨.convertToTemplate, gt, clusterOf values, vmid⟩
  | createSnapshot {gt : GuestType} {vmid : Int64} {guest : Guest}
      {req : CreateSnapshotRequest}
      (parsed : atoi (pathValue values "vmid") = some vmid)
      (body : decoded r readCreateSnapshotRequest = some req) (named : req.name ≠ "")
      (known : recorded env.store (clusterOf values) gt vmid = some guest)
      (client : HasClient env (clusterOf values) guest.node) :
      Asks (forType .createVMSnapshot .createContainerSnapshot gt) none
        ⟨.snapshot, gt, clusterOf values, vmid⟩
  | rollbackSnapshot {gt : GuestType} {vmid : Int64} {guest : Guest}
      (parsed : atoi (pathValue values "vmid") = some vmid)
      (known : recorded env.store (clusterOf values) gt vmid = some guest)
      (client : HasClient env (clusterOf values) guest.node) :
      Asks (forType .rollbackVMSnapshot .rollbackContainerSnapshot gt) none
        ⟨.snapshot, gt, clusterOf values, vmid⟩
  | deleteSnapshot {gt : GuestType} {vmid : Int64} {guest : Guest}
      (parsed : atoi (pathValue values "vmid") = some vmid)
      (known : recorded env.store (clusterOf values) gt vmid = some guest)
      (client : HasClient env (clusterOf values) guest.node) :
      Asks (forType .deleteVMSnapshot .deleteContainerSnapshot gt) none
        ⟨.snapshot, gt, clusterOf values, vmid⟩
  | applyDRS {found : DRSRecommendation}
      (listed : (env.drsRecommendations (clusterOf values)).find?
        (·.id = pathValue values "id") = some found)
      (client : HasClient env (clusterOf values) found.fromNode) :
      Asks .applyDRSRecommendation none
        ⟨.migrate, drsGuestType found.guestType, clusterOf values, found.vmid⟩
  | evacuate {poller : String → Option (List String)} {clients : List String}
      {target : String} {cs : State.ClusterStore} {gt : GuestType} {guest : Guest}
      (polled : env.poller = some poller) (listed : poller (clusterOf values) = some clients)
      (member : pathValue values "node" ∈ clients)
      (noout : env.setCephNoout (clusterOf values) (pathValue values "node") = .ok ())
      (other : targetFor (pathValue values "node") clients = some target)
      (known : env.store.getCluster (clusterOf values) = some cs)
      (hosted : (gt, guest) ∈ guestsToMigrate cs (pathValue values "node")) :
      Asks .enterMaintenanceMode none ⟨.migrate, gt, clusterOf values, guest.vmid⟩
  | deploy {library : String → Option LibraryItem} {item : LibraryItem} {req : DeployRequest}
      (enabled : env.library = some library)
      (listed : library (pathValue values "id") = some item)
      (body : decoded r readDeployRequest = some req) (cluster : req.targetCluster ≠ "")
      (node : req.targetNode ≠ "") (type : item.type = "vm-template") (source : item.vmid ≠ 0)
      (client : HasClient env req.targetCluster req.targetNode) :
      Asks .deployLibraryItem none ⟨.clone, .vm, req.targetCluster, item.vmid⟩
  | command {req : AgentCommandRequest} {op : GuestOp}
      (body : decoded r readAgentCommandRequest = some req) (cluster : req.cluster ≠ "")
      (node : req.node ≠ "") (action : req.action ≠ "")
      (taken : Takes env req.cluster req.node req.action)
      (operation : commandOp req.cluster req.action req.params = some op) :
      Asks .agentCommand none op

variable {env r values} {ctx : Context} {gt : GuestType} {op : GuestOp}

theorem mem_ops_ok_bind {A : Type} {a : A} {next : A → Result} :
    op ∈ ops ((Except.ok a : Except Refusal A) >>= next) ↔ op ∈ ops (next a) := Iff.rfl

/-! What each handler sends, read off its steps. -/

theorem mem_ops_guestAction :
    op ∈ ops (guestAction env values gt) ↔
      ∃ vmid, atoi (pathValue values "vmid") = some vmid ∧
      ∃ guest, storeGuest env.store vmid gt = some guest ∧
        HasClient env guest.cluster guest.node ∧
        ∃ verb, powerOf (pathValue values "action") = some verb ∧
          op = ⟨.power, gt, guest.cluster, vmid⟩ := by
  simp only [guestAction, vmidOf, mem_ops_found, mem_ops_task, getClient_eq_some_iff, taskOp,
    and_assoc, exists_and_left, exists_eq_left]

theorem mem_ops_clusterGuestAction :
    op ∈ ops (clusterGuestAction env ctx values gt >>= AgentFirst.run env) ↔
      Passes env ctx (some (checkOf values gt "power")) ∧
      ∃ vmid, atoi (pathValue values "vmid") = some vmid ∧
      ∃ guest, recorded env.store (clusterOf values) gt vmid = some guest ∧
        ((Takes env (clusterOf values) guest.node
            (actionPrefix gt ++ pathValue values "action") ∧
          ∃ verb kind, verb.name = pathValue values "action" ∧ kindOf verb = some kind ∧
            op = ⟨kind, gt, clusterOf values, vmid⟩) ∨
        (¬Takes env (clusterOf values) guest.node
            (actionPrefix gt ++ pathValue values "action") ∧
          HasClient env (clusterOf values) guest.node ∧
          ∃ verb, powerOf (pathValue values "action") = some verb ∧
            op = ⟨.power, gt, clusterOf values, vmid⟩)) := by
  simp only [clusterGuestAction, bind_assoc, mem_ops_requirePermission, vmidOf, mem_ops_found,
    mem_ops_guestInCluster, mem_ops_ok_bind, mem_ops_run, commandOp_eq_some_iff, checkOf,
    clusterOf]
  cases powerOf (pathValue values "action") <;> simp [found, Except.map, taskOp]

theorem mem_ops_run_iff {cluster node action : String} {vmid : Int64} {rest : Fields}
    {noClient : Refusal} {call : TaskCall} {verb : Verb} {kind : OpKind}
    (spelled : verb.name = action) (kinded : kindOf verb = some kind)
    (task : taskOp cluster call = ⟨kind, gt, cluster, vmid⟩) :
    op ∈ ops (AgentFirst.run env ⟨cluster, node, actionPrefix gt ++ action,
        ("vmid", encodeInt vmid) :: rest, noClient, .ok call⟩) ↔
      Reaches env cluster node (actionPrefix gt ++ action) ∧ op = ⟨kind, gt, cluster, vmid⟩ :=
  mem_ops_run_of_same (commandOp_eq_some_iff.mpr ⟨verb, kind, spelled, kinded, rfl⟩) rfl task

theorem mem_ops_deleteClusterGuest :
    op ∈ ops (deleteClusterGuest env r ctx values gt >>= AgentFirst.run env) ↔
      Passes env ctx (some (checkOf values gt "delete")) ∧
      ∃ vmid, atoi (pathValue values "vmid") = some vmid ∧
      ∃ guest, recorded env.store (clusterOf values) gt vmid = some guest ∧
        guest.status ≠ "running" ∧
        Reaches env (clusterOf values) guest.node (actionPrefix gt ++ "delete") ∧
        op = ⟨.delete, gt, clusterOf values, vmid⟩ := by
  have last (cluster node : String) (vmid : Int64) (refusal : Refusal) (purge : Bool) :
      op ∈ ops (AgentFirst.run env ⟨cluster, node, actionPrefix gt ++ "delete",
        [("vmid", encodeInt vmid)], refusal, .ok (.delete gt vmid purge)⟩) ↔ _ :=
    mem_ops_run_iff (show Verb.delete.name = "delete" from rfl) rfl rfl
  simp only [deleteClusterGuest, bind_assoc, mem_ops_requirePermission, vmidOf, mem_ops_found,
    mem_ops_guestInCluster, mem_ops_refuseIf, mem_ops_ok_bind, checkOf, clusterOf,
    last, ne_eq]

theorem mem_ops_migrateGuest :
    op ∈ ops (migrateGuest env r values gt) ↔
      ∃ vmid, atoi (pathValue values "vmid") = some vmid ∧
      ∃ req, decoded r readMigrateRequest = some req ∧ req.targetNode ≠ "" ∧
      ∃ guest, storeGuest env.store vmid gt = some guest ∧ guest.node ≠ req.targetNode ∧
        HasClient env guest.cluster guest.node ∧
        op = ⟨.migrate, gt, guest.cluster, vmid⟩ := by
  simp only [migrateGuest, vmidOf, mem_ops_found, mem_ops_refuseIf, mem_ops_task,
    getClient_eq_some_iff, taskOp, and_assoc, exists_and_left, exists_eq_left, ne_eq]

theorem mem_ops_clusterMigrateGuest :
    op ∈ ops (clusterMigrateGuest env r ctx values gt >>= AgentFirst.run env) ↔
      Passes env ctx (some (checkOf values gt "migrate")) ∧
      ∃ vmid, atoi (pathValue values "vmid") = some vmid ∧
      ∃ req, decoded r readMigrateRequest = some req ∧ req.targetNode ≠ "" ∧
      ∃ guest, recorded env.store (clusterOf values) gt vmid = some guest ∧
        guest.node ≠ req.targetNode ∧
        Reaches env (clusterOf values) guest.node (actionPrefix gt ++ "migrate") ∧
        op = ⟨.migrate, gt, clusterOf values, vmid⟩ := by
  have last (cluster node : String) (vmid : Int64) (refusal : Refusal) (t : String) (b : Bool) :
      op ∈ ops (AgentFirst.run env ⟨cluster, node, actionPrefix gt ++ "migrate",
        [("vmid", encodeInt vmid), ("target", .str t), ("online", .bool b)], refusal,
        .ok (.migrate gt vmid t b)⟩) ↔ _ :=
    mem_ops_run_iff (show Verb.migrate.name = "migrate" from rfl) rfl rfl
  simp only [clusterMigrateGuest, bind_assoc, mem_ops_requirePermission, vmidOf, mem_ops_found,
    mem_ops_guestInCluster, mem_ops_refuseIf, mem_ops_ok_bind, checkOf, clusterOf,
    last, ne_eq]

theorem mem_ops_clusterMoveDisk :
    op ∈ ops (clusterMoveDisk env r ctx values gt) ↔
      Passes env ctx (some (checkOf values gt "disk_move")) ∧
      ∃ vmid, atoi (pathValue values "vmid") = some vmid ∧
      ∃ req, decoded r readMoveDiskRequest = some req ∧ req.disk ≠ "" ∧
        req.targetStorage ≠ "" ∧
      ∃ guest, recorded env.store (clusterOf values) gt vmid = some guest ∧
        HasClient env (clusterOf values) guest.node ∧
        op = ⟨.diskMove, gt, clusterOf values, vmid⟩ := by
  have task : ∀ cluster vmid req,
      taskOp cluster (moveCall vmid req gt) = ⟨.diskMove, gt, cluster, vmid⟩ := by
    intro cluster vmid req
    cases gt <;> rfl
  simp only [clusterMoveDisk, mem_ops_requirePermission, vmidOf, mem_ops_found,
    mem_ops_guestInCluster, mem_ops_refuseIf, mem_ops_task, getClient_eq_some_iff, checkOf,
    clusterOf, task, and_assoc, exists_and_left, exists_eq_left, ne_eq]

theorem mem_ops_updateClusterGuestConfig :
    op ∈ ops (updateClusterGuestConfig env r ctx values gt) ↔
      Passes env ctx (some (checkOf values gt "config")) ∧
      ∃ vmid, atoi (pathValue values "vmid") = some vmid ∧
      ∃ req, decoded r readConfigUpdateRequest = some req ∧ req.digest ≠ "" ∧
      ∃ guest, recorded env.store (clusterOf values) gt vmid = some guest ∧
        HasClient env (clusterOf values) guest.node ∧
        op = ⟨.config, gt, clusterOf values, vmid⟩ := by
  have last : ∀ client vmid req, op ∈ ops (.ok [.config client gt vmid req]) ↔
      op = ⟨.config, gt, client.cluster, vmid⟩ := by
    intro client vmid req
    simp [ops, sentOp, @eq_comm _ op]
  simp only [updateClusterGuestConfig, mem_ops_requirePermission, vmidOf, mem_ops_found,
    mem_ops_guestInCluster, mem_ops_refuseIf, last, getClient_eq_some_iff, checkOf, clusterOf,
    and_assoc, exists_and_left, exists_eq_left, ne_eq]

theorem mem_ops_cloneGuest :
    op ∈ ops (cloneGuest env r values gt >>= AgentFirst.run env) ↔
      ∃ vmid, atoi (pathValue values "vmid") = some vmid ∧
      ∃ req, decoded r readCloneRequest = some req ∧ req.newID ≠ 0 ∧
      ∃ guest, recorded env.store (clusterOf values) gt vmid = some guest ∧
        Reaches env (clusterOf values) guest.node (actionPrefix gt ++ "clone") ∧
        op = ⟨.clone, gt, clusterOf values, vmid⟩ := by
  have last (cluster node : String) (vmid : Int64) (refusal : Refusal) (req : CloneOptions) :
      op ∈ ops (AgentFirst.run env ⟨cluster, node, actionPrefix gt ++ "clone",
        [("vmid", encodeInt vmid), ("newid", encodeInt req.newID), (nameKey gt, .str req.name),
          ("target", .str req.targetNode), ("full", .bool req.full)], refusal,
        .ok (.clone gt vmid req)⟩) ↔ _ :=
    mem_ops_run_iff (show Verb.clone.name = "clone" from rfl) rfl rfl
  simp only [cloneGuest, bind_assoc, vmidOf, mem_ops_found, mem_ops_guestInCluster,
    mem_ops_refuseIf, mem_ops_ok_bind, clusterOf,
    last, ne_eq]

theorem mem_ops_convertToTemplate :
    op ∈ ops (convertToTemplate env values gt >>= AgentFirst.run env) ↔
      ∃ vmid, atoi (pathValue values "vmid") = some vmid ∧
      ∃ guest, recorded env.store (clusterOf values) gt vmid = some guest ∧
        guest.template = false ∧ guest.status ≠ "running" ∧
        Reaches env (clusterOf values) guest.node
          (actionPrefix gt ++ "convert_to_template") ∧
        op = ⟨.convertToTemplate, gt, clusterOf values, vmid⟩ := by
  have last (cluster node : String) (vmid : Int64) (refusal : Refusal) :
      op ∈ ops (AgentFirst.run env ⟨cluster, node, actionPrefix gt ++ "convert_to_template",
        [("vmid", encodeInt vmid)], refusal, .ok (.convertToTemplate gt vmid)⟩) ↔ _ :=
    mem_ops_run_iff (show Verb.convertToTemplate.name = "convert_to_template" from rfl) rfl rfl
  simp only [convertToTemplate, bind_assoc, vmidOf, mem_ops_found, mem_ops_guestInCluster,
    mem_ops_refuseIf, mem_ops_ok_bind, clusterOf, Bool.not_eq_true, ne_eq,
    last]

theorem mem_ops_createSnapshot :
    op ∈ ops (createSnapshot env r values gt) ↔
      ∃ vmid, atoi (pathValue values "vmid") = some vmid ∧
      ∃ req, decoded r readCreateSnapshotRequest = some req ∧ req.name ≠ "" ∧
      ∃ guest, recorded env.store (clusterOf values) gt vmid = some guest ∧
        HasClient env (clusterOf values) guest.node ∧
        op = ⟨.snapshot, gt, clusterOf values, vmid⟩ := by
  have task : ∀ cluster vmid req,
      taskOp cluster (snapshotCall vmid req gt) = ⟨.snapshot, gt, cluster, vmid⟩ := by
    intro cluster vmid req
    cases gt <;> rfl
  simp only [createSnapshot, vmidOf, mem_ops_found, mem_ops_guestInCluster, mem_ops_refuseIf,
    mem_ops_task, getClient_eq_some_iff, clusterOf, task, and_assoc, exists_and_left,
    exists_eq_left, ne_eq]

theorem mem_ops_withSnapshot {call : Int64 → String → TaskCall}
    (task : ∀ cluster vmid name,
      taskOp cluster (call vmid name) = ⟨.snapshot, gt, cluster, vmid⟩) :
    op ∈ ops (withSnapshot env values gt call) ↔
      ∃ vmid, atoi (pathValue values "vmid") = some vmid ∧
      ∃ guest, recorded env.store (clusterOf values) gt vmid = some guest ∧
        HasClient env (clusterOf values) guest.node ∧
        op = ⟨.snapshot, gt, clusterOf values, vmid⟩ := by
  simp only [withSnapshot, vmidOf, mem_ops_found, mem_ops_guestInCluster, mem_ops_task,
    getClient_eq_some_iff, clusterOf, task, and_assoc, exists_and_left, exists_eq_left]

theorem mem_ops_applyDRSRecommendation :
    op ∈ ops (applyDRSRecommendation env values) ↔
      ∃ found, (env.drsRecommendations (clusterOf values)).find?
          (·.id = pathValue values "id") = some found ∧
        HasClient env (clusterOf values) found.fromNode ∧
        op = ⟨.migrate, drsGuestType found.guestType, clusterOf values, found.vmid⟩ := by
  simp only [applyDRSRecommendation, mem_ops_found, mem_ops_task, getClient_eq_some_iff, taskOp,
    clusterOf, and_assoc, exists_and_left, exists_eq_left]

theorem mem_ops_enterMaintenanceMode :
    op ∈ ops (enterMaintenanceMode env values) ↔
      ∃ poller, env.poller = some poller ∧
      ∃ clients, poller (clusterOf values) = some clients ∧
        pathValue values "node" ∈ clients ∧
        env.setCephNoout (clusterOf values) (pathValue values "node") = .ok () ∧
      ∃ target, targetFor (pathValue values "node") clients = some target ∧
      ∃ cs, env.store.getCluster (clusterOf values) = some cs ∧
      ∃ gt guest, (gt, guest) ∈ guestsToMigrate cs (pathValue values "node") ∧
        op = ⟨.migrate, gt, clusterOf values, guest.vmid⟩ := by
  have noout (next : Unit → Result) :
      op ∈ ops ((env.setCephNoout (pathValue values "cluster")
          (pathValue values "node")).mapError (fun err => (⟨500, err⟩ : Refusal)) >>= next) ↔
        env.setCephNoout (pathValue values "cluster") (pathValue values "node") = .ok () ∧
          op ∈ ops (next ()) := by
    cases env.setCephNoout (pathValue values "cluster") (pathValue values "node") with
    | error err => simp [Except.mapError, ops, bind, Except.bind]
    | ok done => simp [Except.mapError, bind, Except.bind]
  have moved (clients : List String) :
      op ∈ ops (.ok (evacuateNode env (pathValue values "cluster") (pathValue values "node")
        clients)) ↔
      ∃ target, targetFor (pathValue values "node") clients = some target ∧
      ∃ cs, env.store.getCluster (pathValue values "cluster") = some cs ∧
      ∃ gt guest, (gt, guest) ∈ guestsToMigrate cs (pathValue values "node") ∧
        op = ⟨.migrate, gt, pathValue values "cluster", guest.vmid⟩ := by
    rw [evacuateNode]
    cases targetFor (pathValue values "node") clients with
    | none => simp [ops]
    | some target =>
        cases env.store.getCluster (pathValue values "cluster") with
        | none => simp [ops]
        | some cs =>
            simp [ops, List.filterMap_map, Function.comp_def, sentOp, taskOp, @eq_comm _ op]
  simp only [enterMaintenanceMode, mem_ops_found, mem_ops_refuseIf, not_not, noout, moved,
    clusterOf]

theorem mem_ops_deployLibraryItem :
    op ∈ ops (deployLibraryItem env r values) ↔
      ∃ library, env.library = some library ∧
      ∃ item, library (pathValue values "id") = some item ∧
      ∃ req, decoded r readDeployRequest = some req ∧ req.targetCluster ≠ "" ∧
        req.targetNode ≠ "" ∧ item.type = "vm-template" ∧ item.vmid ≠ 0 ∧
        HasClient env req.targetCluster req.targetNode ∧
        op = ⟨.clone, .vm, req.targetCluster, item.vmid⟩ := by
  have body (next : DeployRequest → Result) :
      op ∈ ops ((decode r readDeployRequest).mapError
          (fun err => (⟨400, "invalid request: " ++ err⟩ : Refusal)) >>= next) ↔
        ∃ req, decoded r readDeployRequest = some req ∧ op ∈ ops (next req) := by
    rw [decoded]
    cases decode r readDeployRequest with
    | error err => simp [Except.mapError, Except.toOption, ops, bind, Except.bind]
    | ok req => simp [Except.mapError, Except.toOption, bind, Except.bind]
  have deployed (item : LibraryItem) (req : DeployRequest) :
      op ∈ ops (if item.type = "vm-template" then deployVMTemplate env item req
        else if item.type ∈ fileTypes then .error ⟨501,
          "file deployment not yet implemented - use storage upload for ISOs/templates"⟩
        else .error ⟨400, "unsupported item type for deploy: " ++ item.type⟩) ↔
      item.type = "vm-template" ∧ item.vmid ≠ 0 ∧
        HasClient env req.targetCluster req.targetNode ∧
        op = ⟨.clone, .vm, req.targetCluster, item.vmid⟩ := by
    by_cases template : item.type = "vm-template"
    · rw [if_pos template]
      simp only [deployVMTemplate, mem_ops_refuseIf, mem_ops_found, mem_ops_task,
        getClient_eq_some_iff, taskOp, template, true_and, and_assoc, exists_and_left,
        exists_eq_left, ne_eq]
    · by_cases file : item.type ∈ fileTypes <;> simp [template, file, ops]
  simp only [deployLibraryItem, mem_ops_found, body, mem_ops_refuseIf, deployed, ne_eq]

theorem mem_ops_agentCommand :
    op ∈ ops (agentCommand env r) ↔
      ∃ req, decoded r readAgentCommandRequest = some req ∧ req.cluster ≠ "" ∧
        req.node ≠ "" ∧ req.action ≠ "" ∧ Takes env req.cluster req.node req.action ∧
        commandOp req.cluster req.action req.params = some op := by
  have sent (hub : Hub) (cluster node action : String) (params : Fields) :
      op ∈ ops ((env.sendCommand hub cluster node action params).mapError
          (fun err => (⟨503, err⟩ : Refusal)) >>= fun sent => .ok [sent]) ↔
        Env.key cluster node ∈ hub.agents ∧ hub.accepts (Env.key cluster node) = true ∧
          commandOp cluster action params = some op := by
    have answer := @sendCommand_eq_ok_iff env cluster node action hub params
    cases given : env.sendCommand hub cluster node action params with
    | error err =>
        refine iff_of_false (by simp [Except.mapError, ops, bind, Except.bind]) ?_
        rintro ⟨connected, fits, -⟩
        exact nomatch given.symm.trans (answer.mpr ⟨connected, fits, rfl⟩)
    | ok sent =>
        obtain ⟨connected, fits, rfl⟩ := answer.mp given
        cases named : commandOp cluster action params with
        | none => simp [Except.mapError, ops, bind, Except.bind, sentOp, named]
        | some op' =>
            simp [Except.mapError, ops, bind, Except.bind, sentOp, named, connected, fits,
              @eq_comm _ op]
  simp only [agentCommand, mem_ops_found, mem_ops_refuseIf, sent, not_or, not_not, Takes]
  constructor
  · rintro ⟨hub, there, req, body, ⟨cluster, node, action⟩, allowed, connected, fits, named⟩
    exact ⟨req, body, cluster, node, action, ⟨hub, there, allowed, connected, fits⟩, named⟩
  · rintro ⟨req, body, cluster, node, action, ⟨hub, there, allowed, connected, fits⟩, named⟩
    exact ⟨hub, there, req, body, ⟨cluster, node, action⟩, allowed, connected, fits, named⟩

theorem passes_none : Passes env ctx none := fun _ none' => nomatch none'

/-- The endpoint is asked for the operation, and the check in front lets the request
through. -/
def Asked (env : Env) (r : Request) (values : List (String × String)) (ctx : Context)
    (e : Endpoint) (op : GuestOp) : Prop :=
  ∃ check, Asks env r values e check op ∧ Passes env ctx check

theorem asked_of_guestAction
    (sent : op ∈ ops (guestAction env values gt)) :
    Asked env r values ctx (forType .vMAction .containerAction gt) op := by
  obtain ⟨vmid, parsed, guest, known, client, verb, action, rfl⟩ :=
    mem_ops_guestAction.mp sent
  exact ⟨none, .power parsed known client action, passes_none⟩

theorem asked_of_clusterGuestAction
    (sent : op ∈ ops (clusterGuestAction env ctx values gt >>= AgentFirst.run env)) :
    Asked env r values ctx (forType .clusterVMAction .clusterContainerAction gt) op := by
  obtain ⟨passes, vmid, parsed, guest, known, by_agent | by_client⟩ :=
    mem_ops_clusterGuestAction.mp sent
  · obtain ⟨taken, verb, kind, action, kinded, rfl⟩ := by_agent
    exact ⟨_, .agentAction parsed known action kinded (action ▸ taken), passes⟩
  · obtain ⟨refused, client, verb, action, rfl⟩ := by_client
    exact ⟨_, .clientAction parsed known action refused client, passes⟩

theorem asked_of_deleteClusterGuest
    (sent : op ∈ ops (deleteClusterGuest env r ctx values gt >>= AgentFirst.run env)) :
    Asked env r values ctx (forType .deleteClusterVM .deleteClusterContainer gt) op := by
  obtain ⟨passes, vmid, parsed, guest, known, stopped, reaches, rfl⟩ :=
    mem_ops_deleteClusterGuest.mp sent
  exact ⟨_, .delete parsed known stopped reaches, passes⟩

theorem asked_of_migrateGuest
    (sent : op ∈ ops (migrateGuest env r values gt)) :
    Asked env r values ctx (forType .migrateVM .migrateContainer gt) op := by
  obtain ⟨vmid, parsed, req, body, target, guest, known, elsewhere, client, rfl⟩ :=
    mem_ops_migrateGuest.mp sent
  exact ⟨none, .migrate parsed body target known elsewhere client, passes_none⟩

theorem asked_of_clusterMigrateGuest
    (sent : op ∈ ops (clusterMigrateGuest env r ctx values gt >>= AgentFirst.run env)) :
    Asked env r values ctx (forType .clusterMigrateVM .clusterMigrateContainer gt) op := by
  obtain ⟨passes, vmid, parsed, req, body, target, guest, known, elsewhere, reaches, rfl⟩ :=
    mem_ops_clusterMigrateGuest.mp sent
  exact ⟨_, .clusterMigrate parsed body target known elsewhere reaches, passes⟩

theorem asked_of_clusterMoveDisk
    (sent : op ∈ ops (clusterMoveDisk env r ctx values gt)) :
    Asked env r values ctx (forType .clusterMoveVMDisk .clusterMoveContainerVolume gt) op := by
  obtain ⟨passes, vmid, parsed, req, body, disk, target, guest, known, client, rfl⟩ :=
    mem_ops_clusterMoveDisk.mp sent
  exact ⟨_, .moveDisk parsed body disk target known client, passes⟩

theorem asked_of_updateClusterGuestConfig
    (sent : op ∈ ops (updateClusterGuestConfig env r ctx values gt)) :
    Asked env r values ctx (forType .updateClusterVMConfig .updateClusterContainerConfig gt) op := by
  obtain ⟨passes, vmid, parsed, req, body, digest, guest, known, client, rfl⟩ :=
    mem_ops_updateClusterGuestConfig.mp sent
  exact ⟨_, .config parsed body digest known client, passes⟩

theorem asked_of_cloneGuest
    (sent : op ∈ ops (cloneGuest env r values gt >>= AgentFirst.run env)) :
    Asked env r values ctx (forType .cloneVM .cloneContainer gt) op := by
  obtain ⟨vmid, parsed, req, body, newID, guest, known, reaches, rfl⟩ :=
    mem_ops_cloneGuest.mp sent
  exact ⟨none, .clone parsed body newID known reaches, passes_none⟩

theorem asked_of_convertToTemplate
    (sent : op ∈ ops (convertToTemplate env values gt >>= AgentFirst.run env)) :
    Asked env r values ctx (forType .convertVMToTemplate .convertContainerToTemplate gt) op := by
  obtain ⟨vmid, parsed, guest, known, plain, stopped, reaches, rfl⟩ :=
    mem_ops_convertToTemplate.mp sent
  exact ⟨none, .convert parsed known plain stopped reaches, passes_none⟩

theorem asked_of_createSnapshot
    (sent : op ∈ ops (createSnapshot env r values gt)) :
    Asked env r values ctx (forType .createVMSnapshot .createContainerSnapshot gt) op := by
  obtain ⟨vmid, parsed, req, body, named, guest, known, client, rfl⟩ :=
    mem_ops_createSnapshot.mp sent
  exact ⟨none, .createSnapshot parsed body named known client, passes_none⟩

theorem asked_of_rollbackSnapshot
    (sent : op ∈ ops (rollbackSnapshot env values gt)) :
    Asked env r values ctx (forType .rollbackVMSnapshot .rollbackContainerSnapshot gt) op := by
  obtain ⟨vmid, parsed, guest, known, client, rfl⟩ :=
    (mem_ops_withSnapshot fun _ _ _ => rfl).mp sent
  exact ⟨none, .rollbackSnapshot parsed known client, passes_none⟩

theorem asked_of_deleteSnapshot
    (sent : op ∈ ops (deleteSnapshot env values gt)) :
    Asked env r values ctx (forType .deleteVMSnapshot .deleteContainerSnapshot gt) op := by
  obtain ⟨vmid, parsed, guest, known, client, rfl⟩ :=
    (mem_ops_withSnapshot fun _ _ _ => rfl).mp sent
  exact ⟨none, .deleteSnapshot parsed known client, passes_none⟩

/-- Whatever is sent was asked for. -/
theorem asked_of_mem_ops {e : Endpoint} (sent : op ∈ ops (handle env r ctx values e)) :
    Asked env r values ctx e op := by
  simp only [handle] at sent
  split at sent
  · exact asked_of_guestAction sent
  · exact asked_of_guestAction sent
  · exact asked_of_clusterGuestAction sent
  · exact asked_of_clusterGuestAction sent
  · exact asked_of_deleteClusterGuest sent
  · exact asked_of_deleteClusterGuest sent
  · exact asked_of_migrateGuest sent
  · exact asked_of_migrateGuest sent
  · exact asked_of_clusterMigrateGuest sent
  · exact asked_of_clusterMigrateGuest sent
  · exact asked_of_clusterMoveDisk sent
  · exact asked_of_clusterMoveDisk sent
  · exact asked_of_updateClusterGuestConfig sent
  · exact asked_of_updateClusterGuestConfig sent
  · exact asked_of_cloneGuest sent
  · exact asked_of_cloneGuest sent
  · exact asked_of_convertToTemplate sent
  · exact asked_of_convertToTemplate sent
  · exact asked_of_createSnapshot sent
  · exact asked_of_createSnapshot sent
  · exact asked_of_rollbackSnapshot sent
  · exact asked_of_rollbackSnapshot sent
  · exact asked_of_deleteSnapshot sent
  · exact asked_of_deleteSnapshot sent
  · obtain ⟨found, listed, client, rfl⟩ := mem_ops_applyDRSRecommendation.mp sent
    exact ⟨none, .applyDRS listed client, passes_none⟩
  · obtain ⟨poller, polled, clients, listed, member, noout, target, other, cs, known, gt, guest,
      hosted, rfl⟩ := mem_ops_enterMaintenanceMode.mp sent
    exact ⟨none, .evacuate polled listed member noout other known hosted, passes_none⟩
  · obtain ⟨library, enabled, item, listed, req, body, cluster, node, type, source, client,
      rfl⟩ := mem_ops_deployLibraryItem.mp sent
    exact ⟨none, .deploy enabled listed body cluster node type source client, passes_none⟩
  · obtain ⟨req, body, cluster, node, action, taken, operation⟩ := mem_ops_agentCommand.mp sent
    exact ⟨none, .command body cluster node action taken operation, passes_none⟩
  · simp [ops] at sent

/-- Whatever is asked for is sent. -/
theorem mem_ops_of_asked {e : Endpoint} (asked : Asked env r values ctx e op) :
    op ∈ ops (handle env r ctx values e) := by
  obtain ⟨check, asks, passes⟩ := asked
  cases asks with
  | @power gt vmid guest verb parsed known client action =>
      have sent := mem_ops_guestAction.mpr ⟨_, parsed, _, known, client, _, action, rfl⟩
      cases gt <;> exact sent
  | @agentAction gt vmid guest verb kind parsed known action kinded taken =>
      have sent := mem_ops_clusterGuestAction.mpr
        ⟨passes, _, parsed, _, known, .inl ⟨action ▸ taken, _, _, action, kinded, rfl⟩⟩
      cases gt <;> exact sent
  | @clientAction gt vmid guest verb parsed known action refused client =>
      have sent := mem_ops_clusterGuestAction.mpr
        ⟨passes, _, parsed, _, known, .inr ⟨refused, client, _, action, rfl⟩⟩
      cases gt <;> exact sent
  | @delete gt vmid guest parsed known stopped reaches =>
      have sent : _ ∈ ops (deleteClusterGuest env r ctx values gt >>= AgentFirst.run env) :=
        mem_ops_deleteClusterGuest.mpr ⟨passes, _, parsed, _, known, stopped, reaches, rfl⟩
      cases gt <;> exact sent
  | @migrate gt vmid guest req parsed body target known elsewhere client =>
      have sent := mem_ops_migrateGuest.mpr
        ⟨_, parsed, _, body, target, _, known, elsewhere, client, rfl⟩
      cases gt <;> exact sent
  | @clusterMigrate gt vmid guest req parsed body target known elsewhere reaches =>
      have sent := mem_ops_clusterMigrateGuest.mpr
        ⟨passes, _, parsed, _, body, target, _, known, elsewhere, reaches, rfl⟩
      cases gt <;> exact sent
  | @moveDisk gt vmid guest req parsed body disk target known client =>
      have sent := mem_ops_clusterMoveDisk.mpr
        ⟨passes, _, parsed, _, body, disk, target, _, known, client, rfl⟩
      cases gt <;> exact sent
  | @config gt vmid guest req parsed body digest known client =>
      have sent := mem_ops_updateClusterGuestConfig.mpr
        ⟨passes, _, parsed, _, body, digest, _, known, client, rfl⟩
      cases gt <;> exact sent
  | @clone gt vmid guest req parsed body newID known reaches =>
      have sent := mem_ops_cloneGuest.mpr ⟨_, parsed, _, body, newID, _, known, reaches, rfl⟩
      cases gt <;> exact sent
  | @convert gt vmid guest parsed known plain stopped reaches =>
      have sent := mem_ops_convertToTemplate.mpr
        ⟨_, parsed, _, known, plain, stopped, reaches, rfl⟩
      cases gt <;> exact sent
  | @createSnapshot gt vmid guest req parsed body named known client =>
      have sent := mem_ops_createSnapshot.mpr ⟨_, parsed, _, body, named, _, known, client, rfl⟩
      cases gt <;> exact sent
  | @rollbackSnapshot gt vmid guest parsed known client =>
      have sent : _ ∈ ops (rollbackSnapshot env values gt) :=
        (mem_ops_withSnapshot fun _ _ _ => rfl).mpr ⟨_, parsed, _, known, client, rfl⟩
      cases gt <;> exact sent
  | @deleteSnapshot gt vmid guest parsed known client =>
      have sent : _ ∈ ops (deleteSnapshot env values gt) :=
        (mem_ops_withSnapshot fun _ _ _ => rfl).mpr ⟨_, parsed, _, known, client, rfl⟩
      cases gt <;> exact sent
  | applyDRS listed client =>
      exact mem_ops_applyDRSRecommendation.mpr ⟨_, listed, client, rfl⟩
  | evacuate polled listed member noout other known hosted =>
      exact mem_ops_enterMaintenanceMode.mpr
        ⟨_, polled, _, listed, member, noout, _, other, _, known, _, _, hosted, rfl⟩
  | deploy enabled listed body cluster node type source client =>
      exact mem_ops_deployLibraryItem.mpr
        ⟨_, enabled, _, listed, _, body, cluster, node, type, source, client, rfl⟩
  | command body cluster node action taken operation =>
      exact mem_ops_agentCommand.mpr ⟨_, body, cluster, node, action, taken, operation⟩

theorem mem_ops_handle_iff {e : Endpoint} :
    op ∈ ops (handle env r ctx values e) ↔ Asked env r values ctx e op :=
  ⟨asked_of_mem_ops, mem_ops_of_asked⟩

end Handlers

/-- The operations that a request makes the server send. -/
def serverOps (s : Server) (r : Request) : List GuestOp := (s.sends r).filterMap sentOp

theorem mem_serverOps_iff {s : Server} {r : Request} {op : GuestOp} :
    op ∈ serverOps s r ↔
      ∃ e ctx values,
        (Router.serve s.auth s.env.now s.env.agentHub.isSome r s.db).1 = .runs e ctx values ∧
          Asked s.env r values ctx e op := by
  rw [serverOps, Server.sends]
  cases outcome : (Router.serve s.auth s.env.now s.env.agentHub.isSome r s.db).1 with
  | noContent => simp
  | redirect => simp
  | notFound => simp
  | refused refusal => simp
  | runs e ctx values =>
      have handled : op ∈ (match handle s.env r ctx values e with
          | .ok sent => sent
          | .error _ => []).filterMap sentOp ↔ Asked s.env r values ctx e op := by
        rw [← mem_ops_handle_iff]
        cases handle s.env r ctx values e <;> simp [ops]
      refine handled.trans ⟨?_, ?_⟩
      · intro asked
        exact ⟨e, ctx, values, rfl, asked⟩
      · rintro ⟨e', ctx', values', same, asked⟩
        obtain ⟨rfl, rfl, rfl⟩ := Router.Outcome.runs.inj same
        exact asked

section Lab

/-- A stopped or running VM 100 of the cluster `lab`, on its node `pve1`. -/
def labVM (status : String) : Pve.VM :=
  ⟨"lab", 100, "db", "pve1", status, 0, 2, 0, 0, 0, 0, 0, 0, 0, 0, 0, false, "", "", []⟩

def labStore (status : String) : State.Store :=
  ⟨(∅ : FiniteMap.Map String State.ClusterStore).insert "lab"
    { State.ClusterStore.new "lab" with
      vms := (∅ : FiniteMap.Map Int64 Pve.VM).insert 100 (labVM status) }⟩

/-- A server with that VM, one user with a session, no role and no assignment. -/
def labServer (status : String) (role : String) (agentHub : Option Hub) : Server where
  auth := ⟨some, 8⟩
  db := ⟨[⟨"s1", "u1", "cookie", "token", false, 1, 0⟩], [⟨"u1", role, false⟩]⟩
  env :=
    { store := labStore status
      rbac := some ⟨⟨[], []⟩, ∅⟩
      getAncestors := fun _ _ => []
      now := 0
      agentHub := agentHub
      poller := none
      clusters := ["lab"]
      drsRecommendations := fun _ => []
      library := none
      setCephNoout := fun _ _ => .ok () }

def post (path : List String) : Request := ⟨"POST", path, [], some "cookie", "", none⟩

theorem labServer_hasClient (status role : String) (agentHub : Option Hub) :
    HasClient (labServer status role agentHub).env "lab" "pve1" :=
  (rfl : ((labServer status role agentHub).env.getClient "lab" "pve1").isSome = true)

/-- The agent of the node is connected. -/
def labHub : Hub := ⟨["lab/pve1"], fun _ => true⟩

end Lab

end GuestOps
