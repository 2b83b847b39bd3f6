import PCenter.Executor
import PCenter.Router
import PCenter.Rbac
import PCenter.State

/-!
# The handlers that operate on guests

The handlers of `internal/api` that start, stop, configure, snapshot, clone, migrate,
convert or delete a guest, by the backend's own client or through the agent of the guest's
node. A handler's result is what it sends, or its refusal. What the servers answer is left
out: no handler sends anything because of an answer, and an evacuation goes on after a
failed migration.

The handlers for VMs and for containers differ in the words of their messages and in what
they call, so each pair is one definition. All other handlers of the server send none of
these operations.
-/

namespace Handlers

open GoJson GoText GuestTasks Executor Auth
open Routes (Endpoint)

/-- The whitelist `AllowedAgentActions` of the backend. -/
def allowedAgentActions : List String :=
  [ "vm_start", "vm_stop", "vm_shutdown", "vm_reboot",
    "vm_clone", "vm_delete", "vm_config_get", "vm_config_set", "vm_convert_to_template",
    "vm_snapshot_list", "vm_snapshot_create", "vm_snapshot_delete", "vm_snapshot_rollback",
    "ct_start", "ct_stop", "ct_shutdown", "ct_reboot",
    "ct_clone", "ct_delete", "ct_config_get", "ct_config_set", "ct_convert_to_template",
    "ct_snapshot_list", "ct_snapshot_create", "ct_snapshot_delete", "ct_snapshot_rollback",
    "vm_migrate", "ct_migrate",
    "ceph_pg_repair", "ceph_health_detail", "ceph_osd_tree", "ceph_status", "ceph_pg_query",
    "storage_content" ]

/-- Both sides keep the same list. -/
theorem allowedAgentActions_eq : allowedAgentActions = allowedActions := rfl

/-- What the handlers read of a recorded guest. -/
structure Guest where
  cluster : String
  vmid : Int64
  name : String
  node : String
  status : String
  template : Bool
  deriving DecidableEq, Repr

def ofVM (vm : Pve.VM) : Guest :=
  ⟨vm.cluster, vm.vmid, vm.name, vm.node, vm.status, vm.template⟩

def ofContainer (ct : Pve.Container) : Guest :=
  ⟨ct.cluster, ct.vmid, ct.name, ct.node, ct.status, ct.template⟩

/-- `GetVM` and `GetContainer` of one cluster's store. -/
def clusterStoreGuest (cs : State.ClusterStore) (vmid : Int64) : GuestType → Option Guest
  | .vm => (cs.getVM vmid).map ofVM
  | .ct => (cs.getContainer vmid).map ofContainer

/-- `GetVM` and `GetContainer` of the whole store. -/
def storeGuest (s : State.Store) (vmid : Int64) : GuestType → Option Guest
  | .vm => (s.getVM vmid).map ofVM
  | .ct => (s.getContainer vmid).map ofContainer

/-- The guest that a cluster's store records under a VMID. -/
def recorded (s : State.Store) (cluster : String) (gt : GuestType) (vmid : Int64) :
    Option Guest :=
  (s.getCluster cluster).bind (clusterStoreGuest · vmid gt)

/-- The connected agents by key, and whether a message fits into an agent's buffer. -/
structure Hub where
  agents : List String
  accepts : String → Bool

structure DRSRecommendation where
  id : String
  guestType : String
  vmid : Int64
  fromNode : String
  toNode : String
  deriving DecidableEq, Repr

/-- `library.Item` -/
structure LibraryItem where
  name : String
  type : String
  storage : String
  vmid : Int64
  deriving DecidableEq, Repr

/-- What the handlers see of the server when a request comes in. The permission service is
only asked; what a check leaves in its cache gives the same answers later. -/
structure Env where
  store : State.Store
  rbac : Option Rbac.Service
  getAncestors : String → String → List Rbac.ObjectRef
  now : Int
  agentHub : Option Hub
  /-- `GetClusterClients`: the nodes of a cluster in map order. -/
  poller : Option (String → Option (List String))
  /-- The names of the configured clusters. -/
  clusters : List String
  drsRecommendations : String → List DRSRecommendation
  library : Option (String → Option LibraryItem)
  /-- The outcome of setting the Ceph flag from the node. -/
  setCephNoout : String → String → Except String Unit

/-- A client for one node of a cluster. -/
structure Client where
  cluster : String
  nodeName : String
  deriving DecidableEq, Repr

/-- `ConfigUpdateRequest` -/
structure ConfigUpdateRequest where
  digest : String
  changes : Fields
  delete : List String

inductive Sent where
  | task (client : Client) (call : TaskCall)
  | config (client : Client) (gt : GuestType) (vmid : Int64) (req : ConfigUpdateRequest)
  | command (cluster node : String) (cmd : Command)

abbrev Result := Except Refusal (List Sent)

section Steps

variable {A : Type}

/-- A value that must be there. -/
def found (value : Option A) (refusal : Refusal) : Except Refusal A :=
  match value with
  | some a => .ok a
  | none => .error refusal

def refuseIf (p : Prop) [Decidable p] (refusal : Refusal) : Except Refusal Unit :=
  if p then .error refusal else .ok ()

def decode (r : Request) (read : Fields → Except String A) : Except String A :=
  match r.body with
  | none => .error "EOF"
  | some body => decodeObject body >>= read

/-- `json.NewDecoder(r.Body).Decode(&req)` -/
def decoded (r : Request) (read : Fields → Except String A) : Option A :=
  (decode r read).toOption

def invalidBody : Refusal := ⟨400, "invalid request body"⟩

def pathValue (values : List (String × String)) (name : String) : String :=
  (values.lookup name).getD ""

end Steps

namespace Env

variable (env : Env)

/-- `requirePermission` -/
def requirePermission (ctx : Context) (permission objectType objectID : String) :
    Except Refusal Unit :=
  match env.rbac with
  | none => .ok ()
  | some rbac =>
      match ctx with
      | none => .error unauthorized
      | some (_, user) =>
          if user.role = roleAdmin then .ok ()
          else if (rbac.hasPermission env.getAncestors env.now user.id permission objectType
              objectID).1 then .ok ()
          else .error ⟨403, "insufficient permissions"⟩

def getClient (cluster node : String) : Option Client :=
  let nodes := env.poller.bind fun clients => clients cluster
  if node ∈ nodes.getD [] then some ⟨cluster, node⟩
  else if cluster ∈ env.clusters then some ⟨cluster, node⟩
  else none

def key (cluster node : String) : String := cluster ++ "/" ++ node

/-- `SendCommand` with a command of the given time. -/
def sendCommand (hub : Hub) (cluster node action : String) (params : Fields) :
    Except String Sent :=
  let cmdID := "cmd-" ++ toString env.now ++ "-" ++ action
  if key cluster node ∉ hub.agents then .error ("agent not connected: " ++ key cluster node)
  else if hub.accepts (key cluster node) then .ok (.command cluster node ⟨cmdID, action, params⟩)
  else .error "agent send buffer full"

/-- `tryAgentAction`: the command that was sent; none when the caller should fall back. -/
def tryAgentAction (cluster node action : String) (params : Fields) : Option Sent :=
  match env.agentHub with
  | none => none
  | some hub =>
      if action ∉ allowedAgentActions then none
      else if key cluster node ∉ hub.agents then none
      else (env.sendCommand hub cluster node action params).toOption

end Env

/-- A handler's own nouns. -/
def noun : GuestType → String
  | .vm => "VM"
  | .ct => "container"

/-- The permission of the kind on guests of the type. -/
def perm (gt : GuestType) (kind : String) : String :=
  match gt with
  | .vm => "vm." ++ kind
  | .ct => "ct." ++ kind

/-- `ObjectVM` and `ObjectCT` -/
def object : GuestType → String
  | .vm => "vm"
  | .ct => "ct"

/-- The switch over the actions of a power request. -/
def powerOf (action : String) : Option Power :=
  if action = "start" then some .start
  else if action = "stop" then some .stop
  else if action = "shutdown" then some .shutdown
  else none

/-- What a handler that tries the agent first has decided before it does. -/
structure AgentFirst where
  cluster : String
  node : String
  action : String
  params : Fields
  noClient : Refusal
  fallback : Except Refusal TaskCall

/-- The agent if it takes the command, else the client. -/
def AgentFirst.run (env : Env) (p : AgentFirst) : Result :=
  match env.tryAgentAction p.cluster p.node p.action p.params with
  | some sent => .ok [sent]
  | none => do
      let client ← found (env.getClient p.cluster p.node) p.noClient
      let call ← p.fallback
      .ok [.task client call]

section Requests

structure MigrateRequest where
  targetNode : String
  online : Bool

def readMigrateRequest (o : Fields) : Except String MigrateRequest := do
  let targetNode ← stringField o "target_node"
  let online ← boolField o "online"
  pure ⟨targetNode, online⟩

/-- `MoveDiskRequest`, without the storage that is only displayed. -/
structure MoveDiskRequest where
  disk : String
  targetStorage : String
  deleteSource : Bool
  format : String

def readMoveDiskRequest (o : Fields) : Except String MoveDiskRequest := do
  let disk ← stringField o "disk"
  let targetStorage ← stringField o "target_storage"
  let deleteSource ← boolField o "delete_source"
  let format ← stringField o "format"
  let _ ← stringField o "from_storage"
  pure ⟨disk, targetStorage, deleteSource, format⟩

/-- `CloneRequest`, which becomes the client's options field by field. -/
def readCloneRequest (o : Fields) : Except String CloneOptions := do
  let newID ← intField o "new_id"
  let name ← stringField o "name"
  let targetNode ← stringField o "target_node"
  let full ← boolField o "full"
  let storage ← stringField o "storage"
  let description ← stringField o "description"
  pure ⟨newID, name, targetNode, full, storage, description⟩

structure CreateSnapshotRequest where
  name : String
  description : String
  vmstate : Bool

def readCreateSnapshotRequest (o : Fields) : Except String CreateSnapshotRequest := do
  let name ← stringField o "name"
  let description ← stringField o "description"
  let vmstate ← boolField o "vmstate"
  pure ⟨name, description, vmstate⟩

def readConfigUpdateRequest (o : Fields) : Except String ConfigUpdateRequest := do
  let digest ← stringField o "digest"
  let changes ← mapField o "changes"
  let delete ← stringsField o "delete"
  pure ⟨digest, changes, delete⟩

/-- `library.DeployRequest` -/
structure DeployRequest where
  targetCluster : String
  targetNode : String
  targetStorage : String
  newName : String
  newVMID : Int64
  full : Bool

def readDeployRequest (o : Fields) : Except String DeployRequest := do
  let targetCluster ← stringField o "target_cluster"
  let targetNode ← stringField o "target_node"
  let targetStorage ← stringField o "target_storage"
  let newName ← stringField o "new_name"
  let newVMID ← intField o "new_vmid"
  let full ← boolField o "full"
  pure ⟨targetCluster, targetNode, targetStorage, newName, newVMID, full⟩

structure AgentCommandRequest where
  cluster : String
  node : String
  action : String
  params : Fields

def readAgentCommandRequest (o : Fields) : Except String AgentCommandRequest := do
  let cluster ← stringField o "cluster"
  let node ← stringField o "node"
  let action ← stringField o "action"
  let params ← mapField o "params"
  pure ⟨cluster, node, action, params⟩

end Requests

section Handlers

variable (env : Env) (r : Request) (ctx : Context) (values : List (String × String))

def vmidOf : Except Refusal Int64 :=
  found (atoi (pathValue values "vmid")) ⟨400, "invalid vmid"⟩

/-- The guest that the path names, in the cluster that it names. -/
def guestInCluster (gt : GuestType) (vmid : Int64) (notFound : String) :
    Except Refusal Guest := do
  let cs ← found (env.store.getCluster (pathValue values "cluster")) ⟨404, "cluster not found"⟩
  found (clusterStoreGuest cs vmid gt) ⟨404, notFound⟩

variable (gt : GuestType)

/-- `VMAction` and `ContainerAction` -/
def guestAction : Result := do
  let vmid ← vmidOf values
  let guest ← found (storeGuest env.store vmid gt) ⟨404, noun gt ++ " not found"⟩
  let client ← found (env.getClient guest.cluster guest.node) ⟨500, "node client not found"⟩
  let verb ← found (powerOf (pathValue values "action")) ⟨400, "invalid action"⟩
  .ok [.task client (.power gt vmid verb)]

/-- `ClusterVMAction` and `ClusterContainerAction`, as far as the choice of transport. -/
def clusterGuestAction : Except Refusal AgentFirst := do
  let cluster := pathValue values "cluster"
  let action := pathValue values "action"
  env.requirePermission ctx (perm gt "power") (object gt) (pathValue values "vmid")
  let vmid ← vmidOf values
  let guest ← guestInCluster env values gt vmid (noun gt ++ " not found in cluster")
  .ok ⟨cluster, guest.node, actionPrefix gt ++ action, [("vmid", encodeInt vmid)],
    ⟨500, "node client not found"⟩,
    (found (powerOf action) ⟨400, "invalid action"⟩).map (.power gt vmid)⟩

/-- `DeleteClusterVM` and `DeleteClusterContainer` -/
def deleteClusterGuest : Except Refusal AgentFirst := do
  let cluster := pathValue values "cluster"
  env.requirePermission ctx (perm gt "delete") (object gt) (pathValue values "vmid")
  let vmid ← vmidOf values
  let guest ← guestInCluster env values gt vmid (noun gt ++ " not found in cluster")
  refuseIf (guest.status = "running") ⟨409, noun gt ++ " must be stopped before deletion"⟩
  let purge := r.query.lookup "purge" = some "1"
  .ok ⟨cluster, guest.node, actionPrefix gt ++ "delete", [("vmid", encodeInt vmid)],
    ⟨404, "node not found in cluster"⟩, .ok (.delete gt vmid purge)⟩

/-- `MigrateVM` and `MigrateContainer` -/
def migrateGuest : Result := do
  let vmid ← vmidOf values
  let req ← found (decoded r readMigrateRequest) invalidBody
  refuseIf (req.targetNode = "") ⟨400, "target_node required"⟩
  let guest ← found (storeGuest env.store vmid gt) ⟨404, noun gt ++ " not found"⟩
  refuseIf (guest.node = req.targetNode) ⟨400, noun gt ++ " already on target node"⟩
  let client ← found (env.getClient guest.cluster guest.node)
    ⟨500, "source node client not found"⟩
  .ok [.task client (.migrate gt vmid req.targetNode req.online)]

/-- `ClusterMigrateVM` and `ClusterMigrateContainer` -/
def clusterMigrateGuest : Except Refusal AgentFirst := do
  let cluster := pathValue values "cluster"
  env.requirePermission ctx (perm gt "migrate") (object gt) (pathValue values "vmid")
  let vmid ← vmidOf values
  let req ← found (decoded r readMigrateRequest) invalidBody
  refuseIf (req.targetNode = "") ⟨400, "target_node required"⟩
  let guest ← guestInCluster env values gt vmid (noun gt ++ " not found in cluster")
  refuseIf (guest.node = req.targetNode) ⟨400, noun gt ++ " already on target node"⟩
  .ok ⟨cluster, guest.node, actionPrefix gt ++ "migrate",
    [("vmid", encodeInt vmid), ("target", .str req.targetNode), ("online", .bool req.online)],
    ⟨500, "source node client not found"⟩,
    .ok (.migrate gt vmid req.targetNode req.online)⟩

/-- The words of `ClusterMoveVMDisk` and `ClusterMoveContainerVolume` for a missing disk. -/
def diskRequired : GuestType → String
  | .vm => "disk required"
  | .ct => "disk (volume) required"

def moveCall (vmid : Int64) (req : MoveDiskRequest) : GuestType → TaskCall
  | .vm => .moveVMDisk vmid req.disk req.targetStorage req.deleteSource req.format
  | .ct => .moveContainerVolume vmid req.disk req.targetStorage req.deleteSource

/-- `ClusterMoveVMDisk` and `ClusterMoveContainerVolume` -/
def clusterMoveDisk : Result := do
  env.requirePermission ctx (perm gt "disk_move") (object gt) (pathValue values "vmid")
  let vmid ← vmidOf values
  let req ← found (decoded r readMoveDiskRequest) invalidBody
  refuseIf (req.disk = "") ⟨400, diskRequired gt⟩
  refuseIf (req.targetStorage = "") ⟨400, "target_storage required"⟩
  let guest ← guestInCluster env values gt vmid (noun gt ++ " not found in cluster")
  let client ← found (env.getClient (pathValue values "cluster") guest.node)
    ⟨500, "node client not found"⟩
  .ok [.task client (moveCall vmid req gt)]

/-- `UpdateClusterVMConfig` and `UpdateClusterContainerConfig` -/
def updateClusterGuestConfig : Result := do
  env.requirePermission ctx (perm gt "config") (object gt) (pathValue values "vmid")
  let vmid ← vmidOf values
  let req ← found (decoded r readConfigUpdateRequest) invalidBody
  refuseIf (req.digest = "") ⟨400, "digest required for config updates"⟩
  let guest ← guestInCluster env values gt vmid (noun gt ++ " not found in cluster")
  let client ← found (env.getClient (pathValue values "cluster") guest.node)
    ⟨503, "node client not available"⟩
  .ok [.config client gt vmid req]

/-- `CloneVM` and `CloneContainer` -/
def cloneGuest : Except Refusal AgentFirst := do
  let cluster := pathValue values "cluster"
  let vmid ← vmidOf values
  let req ← found (decoded r readCloneRequest) invalidBody
  refuseIf (req.newID = 0) ⟨400, "new_id is required"⟩
  let guest ← guestInCluster env values gt vmid (noun gt ++ " not found")
  .ok ⟨cluster, guest.node, actionPrefix gt ++ "clone",
    [("vmid", encodeInt vmid), ("newid", encodeInt req.newID), (nameKey gt, .str req.name),
      ("target", .str req.targetNode), ("full", .bool req.full)],
    ⟨500, "source node client not found"⟩, .ok (.clone gt vmid req)⟩

/-- `ConvertVMToTemplate` and `ConvertContainerToTemplate` -/
def convertToTemplate : Except Refusal AgentFirst := do
  let cluster := pathValue values "cluster"
  let vmid ← vmidOf values
  let guest ← guestInCluster env values gt vmid (noun gt ++ " not found")
  refuseIf (guest.template = true) ⟨400, noun gt ++ " is already a template"⟩
  refuseIf (guest.status = "running") ⟨400, noun gt ++ " must be stopped before conversion"⟩
  .ok ⟨cluster, guest.node, actionPrefix gt ++ "convert_to_template",
    [("vmid", encodeInt vmid)], ⟨500, "node client not found"⟩,
    .ok (.convertToTemplate gt vmid)⟩

def snapshotCall (vmid : Int64) (req : CreateSnapshotRequest) : GuestType → TaskCall
  | .vm => .createVMSnapshot vmid req.name req.description req.vmstate
  | .ct => .createContainerSnapshot vmid req.name req.description

/-- `CreateVMSnapshot` and `CreateContainerSnapshot` -/
def createSnapshot : Result := do
  let vmid ← vmidOf values
  let req ← found (decoded r readCreateSnapshotRequest) invalidBody
  refuseIf (req.name = "") ⟨400, "snapshot name is required"⟩
  let guest ← guestInCluster env values gt vmid (noun gt ++ " not found")
  let client ← found (env.getClient (pathValue values "cluster") guest.node)
    ⟨404, "node not available"⟩
  .ok [.task client (snapshotCall vmid req gt)]

/-- What rolling back to a snapshot and deleting it have in common. -/
def withSnapshot (call : Int64 → String → TaskCall) : Result := do
  let vmid ← vmidOf values
  let guest ← guestInCluster env values gt vmid (noun gt ++ " not found")
  let client ← found (env.getClient (pathValue values "cluster") guest.node)
    ⟨404, "node not available"⟩
  .ok [.task client (call vmid (pathValue values "snapname"))]

/-- `RollbackVMSnapshot` and `RollbackContainerSnapshot` -/
def rollbackSnapshot : Result := withSnapshot env values gt (.rollbackSnapshot gt)

/-- `DeleteVMSnapshot` and `DeleteContainerSnapshot` -/
def deleteSnapshot : Result := withSnapshot env values gt (.deleteSnapshot gt)

/-- Anything but `vm` is taken for a container. -/
def drsGuestType (guestType : String) : GuestType := if guestType = "vm" then .vm else .ct

def applyDRSRecommendation : Result := do
  let cluster := pathValue values "cluster"
  let rec' ← found ((env.drsRecommendations cluster).find? (·.id = pathValue values "id"))
    ⟨404, "recommendation not found"⟩
  let client ← found (env.getClient cluster rec'.fromNode) ⟨500, "source node client not found"⟩
  .ok [.task client (.migrate (drsGuestType rec'.guestType) rec'.vmid rec'.toNode true)]

/-- The VM that carries the quorum device. -/
def isCritical (name : String) : Bool :=
  includes "osd-mon" name.toLower

/-- The guests to move, critical VMs first. -/
def guestsToMigrate (cs : State.ClusterStore) (nodeName : String) :
    List (GuestType × Guest) :=
  let vms := ((FiniteMap.values cs.vms).map ofVM).filter (·.node = nodeName)
  let containers := ((FiniteMap.values cs.containers).map ofContainer).filter (·.node = nodeName)
  vms.foldl (fun guests vm =>
      if isCritical vm.name then (.vm, vm) :: guests else guests ++ [(.vm, vm)]) [] ++
    containers.map fun ct => (.ct, ct)

/-- The first other node; one without a name counts as none. -/
def targetFor (nodeName : String) (clients : List String) : Option String :=
  (clients.find? (· ≠ nodeName)).filter (· ≠ "")

/-- The background part of entering maintenance. -/
def evacuateNode (cluster nodeName : String) (clients : List String) : List Sent :=
  match targetFor nodeName clients with
  | none => []
  | some targetNode =>
      match env.store.getCluster cluster with
      | none => []
      | some cs =>
          (guestsToMigrate cs nodeName).map fun (gt, guest) =>
            .task ⟨cluster, nodeName⟩
              (.migrate gt guest.vmid targetNode (guest.status = "running"))

def enterMaintenanceMode : Result := do
  let cluster := pathValue values "cluster"
  let node := pathValue values "node"
  let poller ← found env.poller ⟨503, "feature unavailable in agent-only mode"⟩
  let clients ← found (poller cluster) ⟨404, "cluster not found"⟩
  refuseIf (node ∉ clients) ⟨404, "node not found"⟩
  (env.setCephNoout cluster node).mapError fun err => ⟨500, err⟩
  .ok (evacuateNode env cluster node clients)

/-- The items whose deployment is not implemented. -/
def fileTypes : List String := ["iso", "vztmpl", "snippet", "ova"]

def deployVMTemplate (item : LibraryItem) (req : DeployRequest) : Result := do
  refuseIf (item.vmid = 0) ⟨500, "item has no source VMID"⟩
  let client ← found (env.getClient req.targetCluster req.targetNode)
    ⟨500, "no client for " ++ req.targetCluster ++ "/" ++ req.targetNode⟩
  let storage := if req.targetStorage = "" then item.storage else req.targetStorage
  let name := if req.newName = "" then item.name ++ "-deployed" else req.newName
  .ok [.task client
    (.clone .vm item.vmid ⟨req.newVMID, name, req.targetNode, req.full, storage, ""⟩)]

def deployLibraryItem : Result := do
  let library ← found env.library ⟨503, "content library not enabled"⟩
  let item ← found (library (pathValue values "id")) ⟨404, "item not found"⟩
  let req ← (decode r readDeployRequest).mapError fun err => ⟨400, "invalid request: " ++ err⟩
  refuseIf (req.targetCluster = "") ⟨400, "target_cluster is required"⟩
  refuseIf (req.targetNode = "") ⟨400, "target_node is required"⟩
  if item.type = "vm-template" then deployVMTemplate env item req
  else if item.type ∈ fileTypes then
    .error ⟨501,
      "file deployment not yet implemented - use storage upload for ISOs/templates"⟩
  else .error ⟨400, "unsupported item type for deploy: " ++ item.type⟩

def agentCommand : Result := do
  let hub ← found env.agentHub ⟨503, "agent hub not configured"⟩
  let req ← found (decoded r readAgentCommandRequest) invalidBody
  refuseIf (req.cluster = "" ∨ req.node = "" ∨ req.action = "")
    ⟨400, "cluster, node, and action required"⟩
  refuseIf (req.action ∉ allowedAgentActions) ⟨400, "action not allowed: " ++ req.action⟩
  let sent ← (env.sendCommand hub req.cluster req.node req.action req.params).mapError
    fun err => ⟨503, err⟩
  .ok [sent]

/-- The handler of an endpoint. -/
def handle (e : Endpoint) : Result :=
  match e with
  | .vMAction => guestAction env values .vm
  | .containerAction => guestAction env values .ct
  | .clusterVMAction => clusterGuestAction env ctx values .vm >>= AgentFirst.run env
  | .clusterContainerAction => clusterGuestAction env ctx values .ct >>= AgentFirst.run env
  | .deleteClusterVM => deleteClusterGuest env r ctx values .vm >>= AgentFirst.run env
  | .deleteClusterContainer => deleteClusterGuest env r ctx values .ct >>= AgentFirst.run env
  | .migrateVM => migrateGuest env r values .vm
  | .migrateContainer => migrateGuest env r values .ct
  | .clusterMigrateVM => clusterMigrateGuest env r ctx values .vm >>= AgentFirst.run env
  | .clusterMigrateContainer => clusterMigrateGuest env r ctx values .ct >>= AgentFirst.run env
  | .clusterMoveVMDisk => clusterMoveDisk env r ctx values .vm
  | .clusterMoveContainerVolume => clusterMoveDisk env r ctx values .ct
  | .updateClusterVMConfig => updateClusterGuestConfig env r ctx values .vm
  | .updateClusterContainerConfig => updateClusterGuestConfig env r ctx values .ct
  | .cloneVM => cloneGuest env r values .vm >>= AgentFirst.run env
  | .cloneContainer => cloneGuest env r values .ct >>= AgentFirst.run env
  | .convertVMToTemplate => convertToTemplate env values .vm >>= AgentFirst.run env
  | .convertContainerToTemplate => convertToTemplate env values .ct >>= AgentFirst.run env
  | .createVMSnapshot => createSnapshot env r values .vm
  | .createContainerSnapshot => createSnapshot env r values .ct
  | .rollbackVMSnapshot => rollbackSnapshot env values .vm
  | .rollbackContainerSnapshot => rollbackSnapshot env values .ct
  | .deleteVMSnapshot => deleteSnapshot env values .vm
  | .deleteContainerSnapshot => deleteSnapshot env values .ct
  | .applyDRSRecommendation => applyDRSRecommendation env values
  | .enterMaintenanceMode => enterMaintenanceMode env values
  | .deployLibraryItem => deployLibraryItem env r values
  | .agentCommand => agentCommand env r
  | _ => .ok []

end Handlers

/-- A server: its sessions, and what its handlers see. -/
structure Server where
  auth : Auth.Service
  db : Auth.DB
  env : Env

/-- All that is sent while a request is handled. -/
def Server.sends (s : Server) (r : Request) : List Sent :=
  match (Router.serve s.auth s.env.now s.env.agentHub.isSome r s.db).1 with
  | .runs e ctx values =>
      match handle s.env r ctx values e with
      | .ok sent => sent
      | .error _ => []
  | _ => []

end Handlers
