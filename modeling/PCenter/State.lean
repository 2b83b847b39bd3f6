import PCenter.Pve

/-!
# The cluster store

The state the backend keeps for one Proxmox cluster, and the merge by which a report
about one node reaches it (`internal/state/state.go`). Both the poller and the agents
write through `updateNode`. Each method runs under the store's lock, so it is one step.

The SDN, HA, certificate, SMART and topology caches are not written by these reports
and are left out. `now` is the reading of the clock.
-/

namespace State

open FiniteMap

structure ClusterStore where
  name : String
  nodes : Map String Pve.Node
  nodeDetails : Map String Pve.NodeStatus
  vmStats : Map String Pve.VmStats
  vms : Map Int64 Pve.VM
  containers : Map Int64 Pve.Container
  storage : Map String (List Pve.Storage)
  ceph : Map String (Option Pve.CephStatus)
  networkInterfaces : Map String (List Pve.NetworkInterface)
  lastUpdate : Map String Int
  errors : Map String String

/-- A cluster nothing has reported to yet. -/
def ClusterStore.new (name : String) : ClusterStore :=
  ⟨name, ∅, ∅, ∅, ∅, ∅, ∅, ∅, ∅, ∅, ∅⟩

/-- NICs the caller did not provide are kept from the previous entry. -/
def keepNICs (prev : Option (List Pve.GuestNIC)) (nics : List Pve.GuestNIC) :
    List Pve.GuestNIC :=
  match prev with
  | some old => if nics.length = 0 ∧ old.length > 0 then old else nics
  | none => nics

def mergeVM (cluster : String) (prev : Option Pve.VM) (vm : Pve.VM) : Pve.VM :=
  { vm with cluster := cluster, nics := keepNICs (prev.map (·.nics)) vm.nics }

def mergeContainer (cluster : String) (prev : Option Pve.Container) (ct : Pve.Container) :
    Pve.Container :=
  { ct with cluster := cluster, nics := keepNICs (prev.map (·.nics)) ct.nics }

theorem keepNICs_eq (prev : Option (List Pve.GuestNIC)) (nics : List Pve.GuestNIC) :
    keepNICs prev nics = if nics = [] then prev.getD [] else nics := by
  cases prev with
  | none => cases nics <;> rfl
  | some old => cases old <;> cases nics <;> simp [keepNICs]

/-- Merging the same NICs once more changes nothing. -/
theorem keepNICs_keepNICs (prev : Option (List Pve.GuestNIC)) (nics : List Pve.GuestNIC) :
    keepNICs (some (keepNICs prev nics)) nics = keepNICs prev nics := by
  by_cases empty : nics = []
  · simp [keepNICs_eq, empty]
  · simp [keepNICs_eq, empty]

namespace ClusterStore

def updateNode (cs : ClusterStore) (now : Int) (nodeName : String) (node : Pve.Node)
    (vms : List Pve.VM) (cts : List Pve.Container) (storage : List Pve.Storage)
    (ceph : Option Pve.CephStatus) : ClusterStore :=
  { cs with
    nodes := cs.nodes.insert nodeName { node with cluster := cs.name }
    storage := cs.storage.insert nodeName (storage.map (fun entry => { entry with cluster := cs.name }))
    ceph := cs.ceph.insert nodeName ceph
    lastUpdate := cs.lastUpdate.insert nodeName now
    errors := cs.errors.erase nodeName
    vms := report Pve.VM.vmid (mergeVM cs.name) (·.node == nodeName) vms cs.vms
    containers := report Pve.Container.vmid (mergeContainer cs.name) (·.node == nodeName)
      cts cs.containers }

def setNodeError (cs : ClusterStore) (now : Int) (nodeName : String) (err : String) :
    ClusterStore :=
  { cs with
    errors := cs.errors.insert nodeName err
    lastUpdate := cs.lastUpdate.insert nodeName now }

def setNodeDetails (cs : ClusterStore) (nodeName : String) (details : Pve.NodeStatus) :
    ClusterStore :=
  { cs with nodeDetails := cs.nodeDetails.insert nodeName details }

def setVmStats (cs : ClusterStore) (nodeName : String) (stats : Pve.VmStats) :
    ClusterStore :=
  { cs with vmStats := cs.vmStats.insert nodeName stats }

def updateNetworkInterfaces (cs : ClusterStore) (nodeName : String)
    (ifaces : List Pve.NetworkInterface) : ClusterStore :=
  { cs with
    networkInterfaces := cs.networkInterfaces.insert nodeName
      (ifaces.map (fun iface => { iface with cluster := cs.name, node := nodeName })) }

def getVM (cs : ClusterStore) (vmid : Int64) : Option Pve.VM := cs.vms.lookup vmid

def getContainer (cs : ClusterStore) (vmid : Int64) : Option Pve.Container :=
  cs.containers.lookup vmid

/-- The VMs recorded for a node, by VMID. -/
def vmsOn (cs : ClusterStore) (nodeName : String) (vmid : Int64) : Option Pve.VM :=
  held (fun vm => vm.node == nodeName) cs.vms vmid

/-- The containers recorded for a node, by VMID. -/
def containersOn (cs : ClusterStore) (nodeName : String) (vmid : Int64) :
    Option Pve.Container :=
  held (fun ct => ct.node == nodeName) cs.containers vmid

/-- The storage entries recorded for a node, as `GetStorage` returns them. -/
def storageOn (cs : ClusterStore) (nodeName : String) : List Pve.Storage :=
  (cs.storage.lookup nodeName).getD []

/-- The figures recorded for a node, if the node is known at all. -/
def figuresOn (cs : ClusterStore) (nodeName : String) : Option Pve.NodeFigures :=
  (cs.nodes.lookup nodeName).map (·.figures)

section Updates

variable (cs : ClusterStore) (now : Int) (nodeName : String)

@[simp] theorem setNodeDetails_vms (details : Pve.NodeStatus) :
    (cs.setNodeDetails nodeName details).vms = cs.vms := rfl

@[simp] theorem setNodeDetails_containers (details : Pve.NodeStatus) :
    (cs.setNodeDetails nodeName details).containers = cs.containers := rfl

@[simp] theorem setNodeDetails_storage (details : Pve.NodeStatus) :
    (cs.setNodeDetails nodeName details).storage = cs.storage := rfl

@[simp] theorem setNodeDetails_nodes (details : Pve.NodeStatus) :
    (cs.setNodeDetails nodeName details).nodes = cs.nodes := rfl

@[simp] theorem setNodeDetails_name (details : Pve.NodeStatus) :
    (cs.setNodeDetails nodeName details).name = cs.name := rfl

@[simp] theorem setVmStats_vms (stats : Pve.VmStats) :
    (cs.setVmStats nodeName stats).vms = cs.vms := rfl

@[simp] theorem setVmStats_containers (stats : Pve.VmStats) :
    (cs.setVmStats nodeName stats).containers = cs.containers := rfl

@[simp] theorem setVmStats_storage (stats : Pve.VmStats) :
    (cs.setVmStats nodeName stats).storage = cs.storage := rfl

@[simp] theorem setVmStats_nodes (stats : Pve.VmStats) :
    (cs.setVmStats nodeName stats).nodes = cs.nodes := rfl

@[simp] theorem updateNetworkInterfaces_vms (ifaces : List Pve.NetworkInterface) :
    (cs.updateNetworkInterfaces nodeName ifaces).vms = cs.vms := rfl

@[simp] theorem updateNetworkInterfaces_containers (ifaces : List Pve.NetworkInterface) :
    (cs.updateNetworkInterfaces nodeName ifaces).containers = cs.containers := rfl

@[simp] theorem updateNetworkInterfaces_storage (ifaces : List Pve.NetworkInterface) :
    (cs.updateNetworkInterfaces nodeName ifaces).storage = cs.storage := rfl

@[simp] theorem updateNetworkInterfaces_nodes (ifaces : List Pve.NetworkInterface) :
    (cs.updateNetworkInterfaces nodeName ifaces).nodes = cs.nodes := rfl

end Updates

end ClusterStore

/-- The aggregated state of all clusters, by cluster name. -/
structure Store where
  clusters : Map String ClusterStore

namespace Store

/-- The cluster's store, created when it is not there yet. -/
def getOrCreateCluster (s : Store) (name : String) : ClusterStore :=
  (s.clusters.lookup name).getD (ClusterStore.new name)

def getCluster (s : Store) (name : String) : Option ClusterStore := s.clusters.lookup name

/-- The store after the cluster's own store has been written to. -/
def putCluster (s : Store) (name : String) (cs : ClusterStore) : Store :=
  ⟨s.clusters.insert name cs⟩

def removeCluster (s : Store) (name : String) : Store := ⟨s.clusters.erase name⟩

/-- The first cluster in map order that knows the VMID answers. -/
def getVM (s : Store) (vmid : Int64) : Option Pve.VM :=
  (values s.clusters).findSome? (·.getVM vmid)

def getContainer (s : Store) (vmid : Int64) : Option Pve.Container :=
  (values s.clusters).findSome? (·.getContainer vmid)

@[simp] theorem getOrCreateCluster_putCluster (s : Store) (name : String)
    (cs : ClusterStore) : (s.putCluster name cs).getOrCreateCluster name = cs := by
  simp [putCluster, getOrCreateCluster]

end Store

end State
