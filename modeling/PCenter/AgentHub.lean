import PCenter.Poller
import PCenter.AgentWire

/-!
# An agent's report about its node

One cycle of the agent and what the backend makes of it: `Collector.collect` of
`pve-agent/internal/collector/collector.go` builds the status message, and
`AgentConn.handleStatus` of `internal/agent/hub.go` writes it to the cluster store.

A failed request leaves the corresponding part of the message nil. On the wire nil and
empty differ for the two lists of guests, but `handleStatus` builds its own slices of
the received length and so loses the difference.
-/

namespace AgentHub

open FiniteMap State AgentWire
open Poller (Failed orNil orNil_of_failed)

/-- The answers to the agent's requests of one cycle. -/
structure AgentFetch where
  nodeStatus : Except String NodeStatus
  vms : Except String (List VMStatus)
  containers : Except String (List CTStatus)
  storage : Except String (List StorageStatus)
  networks : Except String (List AgentWire.NetworkInterface)
  ceph : Except String AgentWire.CephStatus

/-- The part of the agent's configuration that the collector reads. -/
structure Config where
  nodeName : String
  cluster : String
  includeCeph : Bool

def collect (cfg : Config) (f : AgentFetch) : StatusData where
  node := cfg.nodeName
  cluster := cfg.cluster
  nodeStatus := f.nodeStatus.toOption
  vms := f.vms.toOption
  containers := f.containers.toOption
  storage := orNil f.storage
  networks := orNil f.networks
  ceph := if cfg.includeCeph then f.ceph.toOption else none

section Convert

variable (status : StatusData)

def convertNIC (nic : AgentWire.GuestNIC) : Pve.GuestNIC where
  name := nic.name
  bridge := nic.bridge
  mac := nic.mac
  model := nic.model
  tag := nic.tag

/-- The node is online because its agent reports; the figures stay zero without a node
status. -/
def convertNode : Pve.Node :=
  let node : Pve.Node :=
    { (default : Pve.Node) with
      node := status.node
      cluster := status.cluster
      status := "online" }
  match status.nodeStatus with
  | none => node
  | some ns =>
      { node with
        cpu := ns.cpu
        maxCPU := ns.maxCPU
        mem := ns.mem
        maxMem := ns.maxMem
        disk := ns.disk
        maxDisk := ns.maxDisk
        uptime := ns.uptime }

def convertDetails (ns : NodeStatus) : Pve.NodeStatus :=
  { (default : Pve.NodeStatus) with
    pveVersion := ns.pveVersion
    kernelVersion := ns.kVersion
    loadAvg := ns.loadAvg }

def convertVM (vm : VMStatus) : Pve.VM :=
  { (default : Pve.VM) with
    vmid := vm.vmid
    name := vm.name
    node := status.node
    cluster := status.cluster
    status := vm.status
    cpu := vm.cpu
    cpus := vm.cpus
    mem := vm.mem
    maxMem := vm.maxMem
    disk := vm.disk
    maxDisk := vm.maxDisk
    netIn := vm.netIn
    netOut := vm.netOut
    diskRead := vm.diskRead
    diskWrite := vm.diskWrite
    uptime := vm.uptime
    template := vm.template
    nics := vm.nics.map convertNIC }

/-- The template flag of a container is not copied. -/
def convertCT (ct : CTStatus) : Pve.Container :=
  { (default : Pve.Container) with
    vmid := ct.vmid
    name := ct.name
    node := status.node
    cluster := status.cluster
    status := ct.status
    cpu := ct.cpu
    cpus := ct.cpus
    mem := ct.mem
    maxMem := ct.maxMem
    disk := ct.disk
    maxDisk := ct.maxDisk
    swap := ct.swap
    maxSwap := ct.maxSwap
    netIn := ct.netIn
    netOut := ct.netOut
    diskRead := ct.diskRead
    diskWrite := ct.diskWrite
    uptime := ct.uptime
    nics := ct.nics.map convertNIC }

def convertStorage (s : StorageStatus) : Pve.Storage :=
  { (default : Pve.Storage) with
    storage := s.storage
    node := status.node
    cluster := status.cluster
    type := s.type
    status := s.status
    total := s.total
    used := s.used
    avail := s.avail
    shared := if s.shared then 1 else 0
    content := s.content }

def convertNetwork (n : AgentWire.NetworkInterface) : Pve.NetworkInterface where
  cluster := status.cluster
  node := status.node
  iface := n.iface
  type := n.type
  active := n.active
  autostart := n.autostart
  method := n.method
  method6 := n.method6
  address := n.address
  netmask := n.netmask
  gateway := n.gateway
  cidr := n.cidr
  address6 := n.address6
  netmask6 := n.netmask6
  gateway6 := n.gateway6
  bridgePorts := n.bridgePorts
  bridgeSTP := n.bridgeSTP
  bridgeFD := n.bridgeFD
  bridgeVlanAware := 0
  bondSlaves := n.bondSlaves
  bondMode := n.bondMode
  bondPrimary := ""
  vlanRawDevice := n.vlanRawDev
  vlanID := GoJson.encodeInt n.vlanID
  mtu := n.mtu
  comments := n.comments

def convertCeph (ceph : AgentWire.CephStatus) : Pve.CephStatus :=
  { (default : Pve.CephStatus) with
    healthStatus := ceph.health
    bytesTotal := ceph.bytesTotal
    bytesUsed := ceph.bytesUsed
    bytesAvail := ceph.bytesAvail }

end Convert

/-- The cluster's own store after a status message about one of its nodes. -/
def storeStatus (cs : ClusterStore) (now : Int) (status : StatusData) : ClusterStore :=
  let cs := match status.nodeStatus with
    | some ns => cs.setNodeDetails status.node (convertDetails ns)
    | none => cs
  let cs := cs.updateNode now status.node (convertNode status)
    ((status.vms.getD []).map (convertVM status))
    ((status.containers.getD []).map (convertCT status))
    (status.storage.map (convertStorage status))
    (status.ceph.map convertCeph)
  let networks := status.networks.map (convertNetwork status)
  if networks.length > 0 then cs.updateNetworkInterfaces status.node networks else cs

/-- A message that cannot be read changes nothing. -/
def handleStatus (s : Store) (now : Int) (data : GoJson.Json) : Store :=
  match StatusData.decode data with
  | .error _ => s
  | .ok status =>
      s.putCluster status.cluster
        (storeStatus (s.getOrCreateCluster status.cluster) now status)

section Effect

variable (cs : ClusterStore) (now : Int) (status : StatusData)

theorem storeStatus_effect :
    (storeStatus cs now status).vms =
        report Pve.VM.vmid (mergeVM cs.name) (·.node == status.node)
          ((status.vms.getD []).map (convertVM status)) cs.vms ∧
      (storeStatus cs now status).containers =
        report Pve.Container.vmid (mergeContainer cs.name) (·.node == status.node)
          ((status.containers.getD []).map (convertCT status)) cs.containers ∧
      (storeStatus cs now status).storage =
        cs.storage.insert status.node ((status.storage.map (convertStorage status)).map
          (fun entry => { entry with cluster := cs.name })) ∧
      (storeStatus cs now status).nodes =
        cs.nodes.insert status.node { convertNode status with cluster := cs.name } := by
  unfold storeStatus
  cases status.nodeStatus with
  | none =>
      by_cases any : (status.networks.map (convertNetwork status)).length > 0
      · simp only [if_pos any]
        exact ⟨rfl, rfl, rfl, rfl⟩
      · simp only [if_neg any]
        exact ⟨rfl, rfl, rfl, rfl⟩
  | some ns =>
      by_cases any : (status.networks.map (convertNetwork status)).length > 0
      · simp only [if_pos any]
        exact ⟨rfl, rfl, rfl, rfl⟩
      · simp only [if_neg any]
        exact ⟨rfl, rfl, rfl, rfl⟩

theorem handleStatus_encode (s : Store) :
    handleStatus s now status.encode =
      s.putCluster status.cluster
        (storeStatus (s.getOrCreateCluster status.cluster) now status) := by
  unfold handleStatus
  rw [decode_encode]

theorem storeStatus_figuresOn :
    (storeStatus cs now status).figuresOn status.node = some (convertNode status).figures := by
  unfold ClusterStore.figuresOn
  rw [(storeStatus_effect cs now status).2.2.2, AList.lookup_insert]
  rfl

theorem storeStatus_storageOn :
    (storeStatus cs now status).storageOn status.node =
      (status.storage.map (convertStorage status)).map
        (fun entry => { entry with cluster := cs.name }) := by
  unfold ClusterStore.storageOn
  rw [(storeStatus_effect cs now status).2.2.1, AList.lookup_insert]
  rfl

theorem storeStatus_vmsOn_of_nil (absent : status.vms = none) (vmid : Int64) :
    (storeStatus cs now status).vmsOn status.node vmid = none := by
  unfold ClusterStore.vmsOn
  rw [(storeStatus_effect cs now status).1, absent]
  exact held_report_nil cs.vms vmid

theorem storeStatus_containersOn_of_nil (absent : status.containers = none)
    (vmid : Int64) : (storeStatus cs now status).containersOn status.node vmid = none := by
  unfold ClusterStore.containersOn
  rw [(storeStatus_effect cs now status).2.1, absent]
  exact held_report_nil cs.containers vmid

end Effect

section FailedRequests

/-- A failed request of the agent changes nothing that it was about. -/
structure InventoryKept (nodeName : String) (f : AgentFetch) (cs cs' : ClusterStore) :
    Prop where
  vms : Failed f.vms → ∀ vmid, cs'.vmsOn nodeName vmid = cs.vmsOn nodeName vmid
  containers : Failed f.containers →
    ∀ vmid, cs'.containersOn nodeName vmid = cs.containersOn nodeName vmid
  storage : Failed f.storage → cs'.storageOn nodeName = cs.storageOn nodeName
  figures : Failed f.nodeStatus → cs'.figuresOn nodeName = cs.figuresOn nodeName

/-- Each failed request was about something of which the store records nothing, or, for
the node status, only zeros. -/
structure NothingAtStake (nodeName : String) (f : AgentFetch) (cs : ClusterStore) :
    Prop where
  vms : Failed f.vms → ∀ vmid, cs.vmsOn nodeName vmid = none
  containers : Failed f.containers → ∀ vmid, cs.containersOn nodeName vmid = none
  storage : Failed f.storage → cs.storageOn nodeName = []
  figures : Failed f.nodeStatus → cs.figuresOn nodeName = some Pve.NodeFigures.zero

variable {A : Type}

theorem toOption_of_failed {answer : Except String A} (failed : Failed answer) :
    answer.toOption = none := by
  obtain ⟨err, rfl⟩ := failed
  rfl

/-- The cluster's store after one agent cycle: collect, encode, decode, handle. -/
def agentCycle (s : Store) (now : Int) (cfg : Config) (f : AgentFetch) : ClusterStore :=
  (handleStatus s now (collect cfg f).encode).getOrCreateCluster cfg.cluster

variable (s : Store) (now : Int) (cfg : Config) (f : AgentFetch)

theorem agentCycle_eq :
    agentCycle s now cfg f =
      storeStatus (s.getOrCreateCluster cfg.cluster) now (collect cfg f) := by
  unfold agentCycle
  rw [handleStatus_encode]
  exact Store.getOrCreateCluster_putCluster s cfg.cluster _

theorem agentCycle_vmsOn_of_failed (failed : Failed f.vms) (vmid : Int64) :
    (agentCycle s now cfg f).vmsOn cfg.nodeName vmid = none := by
  rw [agentCycle_eq]
  exact storeStatus_vmsOn_of_nil _ now (collect cfg f) (toOption_of_failed failed) vmid

theorem agentCycle_containersOn_of_failed (failed : Failed f.containers) (vmid : Int64) :
    (agentCycle s now cfg f).containersOn cfg.nodeName vmid = none := by
  rw [agentCycle_eq]
  exact storeStatus_containersOn_of_nil _ now (collect cfg f) (toOption_of_failed failed) vmid

theorem agentCycle_storageOn_of_failed (failed : Failed f.storage) :
    (agentCycle s now cfg f).storageOn cfg.nodeName = [] := by
  have empty : (collect cfg f).storage = [] := orNil_of_failed failed
  have read := storeStatus_storageOn (s.getOrCreateCluster cfg.cluster) now (collect cfg f)
  rw [agentCycle_eq]
  rw [empty] at read
  exact read

theorem agentCycle_figuresOn_of_failed (failed : Failed f.nodeStatus) :
    (agentCycle s now cfg f).figuresOn cfg.nodeName = some Pve.NodeFigures.zero := by
  have absent : (collect cfg f).nodeStatus = none := toOption_of_failed failed
  have read := storeStatus_figuresOn (s.getOrCreateCluster cfg.cluster) now (collect cfg f)
  rw [agentCycle_eq]
  unfold convertNode at read
  rw [absent] at read
  exact read

/-- One agent cycle keeps what its failed requests were about exactly when nothing is at
stake: nil and empty are the same to the merge. -/
theorem agentCycle_kept_iff :
    InventoryKept cfg.nodeName f (s.getOrCreateCluster cfg.cluster) (agentCycle s now cfg f) ↔
      NothingAtStake cfg.nodeName f (s.getOrCreateCluster cfg.cluster) := by
  constructor
  · intro kept
    refine ⟨fun failed vmid => ?_, fun failed vmid => ?_, fun failed => ?_, fun failed => ?_⟩
    · rw [← kept.vms failed vmid]
      exact agentCycle_vmsOn_of_failed s now cfg f failed vmid
    · rw [← kept.containers failed vmid]
      exact agentCycle_containersOn_of_failed s now cfg f failed vmid
    · rw [← kept.storage failed]
      exact agentCycle_storageOn_of_failed s now cfg f failed
    · rw [← kept.figures failed]
      exact agentCycle_figuresOn_of_failed s now cfg f failed
  · intro nothing
    refine ⟨fun failed vmid => ?_, fun failed vmid => ?_, fun failed => ?_, fun failed => ?_⟩
    · rw [nothing.vms failed vmid]
      exact agentCycle_vmsOn_of_failed s now cfg f failed vmid
    · rw [nothing.containers failed vmid]
      exact agentCycle_containersOn_of_failed s now cfg f failed vmid
    · rw [nothing.storage failed]
      exact agentCycle_storageOn_of_failed s now cfg f failed
    · rw [nothing.figures failed]
      exact agentCycle_figuresOn_of_failed s now cfg f failed

/-- The store of a backend that knows one running VM and a busy node. -/
def busyStore : Store :=
  ⟨(∅ : Map String ClusterStore).insert "home"
    { Poller.oneGuestStore with
      nodes := (∅ : Map String Pve.Node).insert "pve1"
        { (default : Pve.Node) with
          node := "pve1"
          status := "online"
          cpu := 1 / 2
          mem := 1024 } }⟩

def pve1Agent : Config := ⟨"pve1", "home", false⟩

/-- All requests of the agent are refused. -/
def allFail : AgentFetch where
  nodeStatus := .error "API error 401"
  vms := .error "API error 401"
  containers := .error "API error 401"
  storage := .error "API error 401"
  networks := .error "API error 401"
  ceph := .error "API error 401"

/-- The node loses its guest and its figures. -/
theorem allFail_empties_inventory :
    (agentCycle busyStore 0 pve1Agent allFail).vmsOn "pve1" 100 = none ∧
      (agentCycle busyStore 0 pve1Agent allFail).figuresOn "pve1" =
        some Pve.NodeFigures.zero ∧
      ¬ InventoryKept pve1Agent.nodeName allFail
        (busyStore.getOrCreateCluster pve1Agent.cluster)
        (agentCycle busyStore 0 pve1Agent allFail) := by
  have emptied := agentCycle_vmsOn_of_failed busyStore 0 pve1Agent allFail ⟨_, rfl⟩ 100
  have idle := agentCycle_figuresOn_of_failed busyStore 0 pve1Agent allFail ⟨_, rfl⟩
  refine ⟨emptied, idle, fun kept => ?_⟩
  have same := kept.vms ⟨_, rfl⟩ 100
  have recorded : (busyStore.getOrCreateCluster pve1Agent.cluster).vmsOn
      pve1Agent.nodeName 100 = some Poller.webServer := by decide
  rw [recorded, emptied] at same
  simp at same

end FailedRequests

end AgentHub
