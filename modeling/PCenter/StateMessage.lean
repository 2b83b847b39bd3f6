import PCenter.State
import PCenter.Lib.NestedLoop
import PCenter.Lib.Sorting

/-!
# The state that is broadcast

`websocket.go` builds the lists of nodes, guests and storage of all clusters anew for every
broadcast. The clusters and most of what they hold are maps, and Go loops over a map in an order
that changes from one loop to the next. The nodes are then sorted by name and the guests by VMID,
with `sort.Slice`; neither is unique across clusters, and the storage is not sorted at all.

The clusters, the counts, Ceph and the jobs of the message are left out.
-/

namespace StateMessage

open FiniteMap Sorting
open State (ClusterStore Store)

section Rows

/-- Status info for a node. -/
structure NodeStatus where
  lastUpdate : Int
  error : Option String
  deriving DecidableEq, Repr

/-- A node with its polling status and details. -/
structure NodeWithStatus where
  cluster : String
  node : String
  status : String
  cpu : Rat
  maxCPU : Int64
  mem : Int64
  maxMem : Int64
  disk : Int64
  maxDisk : Int64
  uptime : Int64
  lastUpdate : Int
  error : String
  pveVersion : String
  kernelVersion : String
  cpuModel : String
  loadAvg : List String
  deriving DecidableEq, Repr

/-- Unified VM/CT representation. -/
structure Guest where
  cluster : String
  vmid : Int64
  name : String
  node : String
  type : String
  status : String
  cpu : Rat
  cpus : Int64
  mem : Int64
  maxMem : Int64
  disk : Int64
  maxDisk : Int64
  uptime : Int64
  tags : String
  haState : String
  nics : List Pve.GuestNIC
  deriving DecidableEq, Repr

structure StorageInfo where
  cluster : String
  storage : String
  node : String
  type : String
  status : String
  shared : Bool
  content : String
  used : Int64
  avail : Int64
  total : Int64
  deriving DecidableEq, Repr

/-- `time.Time.Unix` of a time in nanoseconds. -/
def unix (t : Int) : Int := t / 1000000000

/-- The row of a node, given the status and the details found for it. -/
def nodeWithStatus (n : Pve.Node) (status : Option NodeStatus) (details : Option Pve.NodeStatus) :
    NodeWithStatus where
  cluster := n.cluster
  node := n.node
  status := n.status
  cpu := n.cpu
  maxCPU := n.maxCPU
  mem := n.mem
  maxMem := n.maxMem
  disk := n.disk
  maxDisk := n.maxDisk
  uptime := n.uptime
  lastUpdate := (status.map fun s => unix s.lastUpdate).getD 0
  error := (status.bind (·.error)).getD ""
  pveVersion := (details.map (·.pveVersion)).getD ""
  kernelVersion := (details.map (·.kernelVersion)).getD ""
  cpuModel := (details.map (·.cpuModel)).getD ""
  loadAvg := (details.map (·.loadAvg)).getD []

def ofVM (vm : Pve.VM) : Guest where
  cluster := vm.cluster
  vmid := vm.vmid
  name := vm.name
  node := vm.node
  type := "qemu"
  status := vm.status
  cpu := vm.cpu
  cpus := vm.cpus
  mem := vm.mem
  maxMem := vm.maxMem
  disk := vm.disk
  maxDisk := vm.maxDisk
  uptime := vm.uptime
  tags := vm.tags
  haState := vm.haState
  nics := vm.nics

def ofContainer (ct : Pve.Container) : Guest where
  cluster := ct.cluster
  vmid := ct.vmid
  name := ct.name
  node := ct.node
  type := "lxc"
  status := ct.status
  cpu := ct.cpu
  cpus := ct.cpus
  mem := ct.mem
  maxMem := ct.maxMem
  disk := ct.disk
  maxDisk := ct.maxDisk
  uptime := ct.uptime
  tags := ct.tags
  haState := ct.haState
  nics := ct.nics

def storageInfo (s : Pve.Storage) : StorageInfo where
  cluster := s.cluster
  storage := s.storage
  node := s.node
  type := s.type
  status := s.status
  shared := s.shared == 1
  content := s.content
  used := s.used
  avail := s.avail
  total := s.total

end Rows

section Build

/-- The orders of the loops of one broadcast. -/
structure Orders where
  nodes : Loop String ClusterStore String Pve.Node
  statuses : Loop String ClusterStore String NodeStatus
  details : Loop String ClusterStore String Pve.NodeStatus
  vms : Loop String ClusterStore Int64 Pve.VM
  containers : Loop String ClusterStore Int64 Pve.Container
  storage : Loop String ClusterStore String (List Pve.Storage)

/-- `ClusterStore.GetAllNodeStatuses` -/
def allNodeStatuses (cs : ClusterStore) : Map String NodeStatus :=
  ⟨cs.lastUpdate.entries.map fun e => ⟨e.1, ⟨e.2, cs.errors.lookup e.1⟩⟩, by
    have keys : (cs.lastUpdate.entries.map fun e =>
        (⟨e.1, ⟨e.2, cs.errors.lookup e.1⟩⟩ : Sigma fun _ : String => NodeStatus)).keys =
          cs.lastUpdate.entries.keys := by
      simp [List.keys]
    rw [List.NodupKeys, keys]
    exact cs.lastUpdate.nodupKeys⟩

/-- What all clusters hold of their nodes, by cluster and node. -/
def collect {V : Type} (loop : Loop String ClusterStore String V) (s : Store)
    (part : ClusterStore → Map String V) : Map String V :=
  written ((loop.visit s.clusters part).map fun p => (p.1.1 ++ "/" ++ p.2.1, p.2.2))

variable (o : Orders) (s : Store)

/-- `Store.GetNodes` -/
def getNodes : List Pve.Node := (o.nodes.visit s.clusters (·.nodes)).map (·.2.2)

/-- `Store.GetAllNodeStatuses` -/
def getAllNodeStatuses : Map String NodeStatus := collect o.statuses s allNodeStatuses

/-- The details of the nodes of all clusters. This loop goes over the clusters in the order in
which the summary lists them. -/
def allNodeDetails : Map String Pve.NodeStatus := collect o.details s (·.nodeDetails)

/-- Looked up under cluster and node, and under the node alone if there is none. -/
def statusOf (statuses : Map String NodeStatus) (n : Pve.Node) : Option NodeStatus :=
  match statuses.lookup (n.cluster ++ "/" ++ n.node) with
  | some status => some status
  | none => statuses.lookup n.node

/-- The node with what is found for it. -/
def rowOf (n : Pve.Node) : NodeWithStatus :=
  nodeWithStatus n (statusOf (getAllNodeStatuses o s) n)
    ((allNodeDetails o s).lookup (n.cluster ++ "/" ++ n.node))

/-- The list of the nodes before it is sorted. -/
def nodeList : List NodeWithStatus := (getNodes o s).map (rowOf o s)

/-- `Store.GetVMs` -/
def getVMs : List Pve.VM := (o.vms.visit s.clusters (·.vms)).map (·.2.2)

/-- `Store.GetContainers` -/
def getContainers : List Pve.Container := (o.containers.visit s.clusters (·.containers)).map (·.2.2)

/-- The list of the guests before it is sorted. -/
def guests : List Guest := (getVMs o s).map ofVM ++ (getContainers o s).map ofContainer

/-- `Store.GetStorage` of all nodes -/
def getStorage : List Pve.Storage := (o.storage.visit s.clusters (·.storage)).flatMap (·.2.2)

structure Message where
  nodes : List NodeWithStatus
  guests : List Guest
  storage : List StorageInfo
  deriving DecidableEq, Repr

def byNode (a b : NodeWithStatus) : Prop := a.node < b.node

instance : DecidableRel byNode := fun a b => inferInstanceAs (Decidable (a.node < b.node))

def byVMID (a b : Guest) : Prop := a.vmid < b.vmid

instance : DecidableRel byVMID := fun a b => inferInstanceAs (Decidable (a.vmid < b.vmid))

/-- The lists of `buildStateMessage`, with what `sort.Slice` makes of the two that are sorted. -/
def buildStateMessage (sortNodes : Sorter byNode) (sortGuests : Sorter byVMID) : Message where
  nodes := sortNodes.arrange (nodeList o s)
  guests := sortGuests.arrange (guests o s)
  storage := (getStorage o s).map storageInfo

end Build

section Property

variable (s : Store)

/-- The message does not show in which order the loops went. -/
def OrderFree : Prop :=
  ∀ (sortNodes : Sorter byNode) (sortGuests : Sorter byVMID) (o o' : Orders),
    buildStateMessage o s sortNodes sortGuests = buildStateMessage o' s sortNodes sortGuests

/-- A value that some cluster files for one of its nodes is filed under the text. -/
def Filed {V : Type} (part : ClusterStore → Map String V) (text : String) (v : V) : Prop :=
  ∃ cluster cs node, s.clusters.lookup cluster = some cs ∧ (part cs).lookup node = some v ∧
    cluster ++ "/" ++ node = text

/-- What the lookup of a node's status may find. -/
def Status (n : Pve.Node) (status : Option NodeStatus) : Prop :=
  match status with
  | some v => Filed s allNodeStatuses (n.cluster ++ "/" ++ n.node) v ∨
      (∀ w, ¬Filed s allNodeStatuses (n.cluster ++ "/" ++ n.node) w) ∧
        Filed s allNodeStatuses n.node v
  | none => ∀ w, ¬Filed s allNodeStatuses (n.cluster ++ "/" ++ n.node) w ∧
      ¬Filed s allNodeStatuses n.node w

/-- What the lookup of a node's details may find. -/
def Details (n : Pve.Node) (details : Option Pve.NodeStatus) : Prop :=
  match details with
  | some v => Filed s (·.nodeDetails) (n.cluster ++ "/" ++ n.node) v
  | none => ∀ w, ¬Filed s (·.nodeDetails) (n.cluster ++ "/" ++ n.node) w

/-- A row that the node may get. -/
def NodeRow (n : Pve.Node) (row : NodeWithStatus) : Prop :=
  ∃ status details, Status s n status ∧ Details s n details ∧
    row = nodeWithStatus n status details

def anyOrder : Orders := ⟨.asGiven, .asGiven, .asGiven, .asGiven, .asGiven, .asGiven⟩

/-- Nodes of one name get one row only. -/
def NodesAgree : Prop :=
  ∀ n ∈ getNodes anyOrder s, ∀ n' ∈ getNodes anyOrder s, n.node = n'.node →
    ∀ row row', NodeRow s n row → NodeRow s n' row' → row = row'

/-- Guests of one VMID have one row only, or all VMs have one and all containers have one. -/
def GuestsAgree : Prop :=
  (∀ g ∈ guests anyOrder s, ∀ g' ∈ guests anyOrder s, g.vmid = g'.vmid → g = g') ∨
    (∀ vm ∈ getVMs anyOrder s, ∀ vm' ∈ getVMs anyOrder s, ofVM vm = ofVM vm') ∧
      ∀ ct ∈ getContainers anyOrder s, ∀ ct' ∈ getContainers anyOrder s,
        ofContainer ct = ofContainer ct'

/-- The storage rows of a cluster. -/
def storageRows (cs : ClusterStore) : List StorageInfo :=
  cs.storage.entries.flatMap fun e => e.2.map storageInfo

/-- It does not matter which of two nodes of a cluster, or of two clusters, comes first. -/
def StorageAgrees : Prop :=
  (∀ c ∈ s.clusters.entries, ∀ e ∈ c.2.storage.entries, ∀ e' ∈ c.2.storage.entries,
    e.2.map storageInfo ++ e'.2.map storageInfo = e'.2.map storageInfo ++ e.2.map storageInfo) ∧
  ∀ c ∈ s.clusters.entries, ∀ c' ∈ s.clusters.entries,
    storageRows c.2 ++ storageRows c'.2 = storageRows c'.2 ++ storageRows c.2

end Property

section Lookups

variable {V : Type} {s : Store} {part : ClusterStore → Map String V} {text : String}

theorem mem_keyed {loop : Loop String ClusterStore String V} {v : V} :
    (text, v) ∈ (loop.visit s.clusters part).map
        (fun p => (p.1.1 ++ "/" ++ p.2.1, p.2.2)) ↔ Filed s part text v := by
  constructor
  · intro inside
    obtain ⟨p, met, same⟩ := List.mem_map.mp inside
    obtain ⟨outside, within⟩ := Loop.mem_visit.mp met
    obtain ⟨rfl, rfl⟩ := Prod.mk.inj same
    exact ⟨p.1.1, p.1.2, p.2.1, AList.mem_lookup_iff.mpr outside, AList.mem_lookup_iff.mpr within,
      rfl⟩
  · rintro ⟨cluster, cs, node, found, found', rfl⟩
    exact List.mem_map.mpr ⟨(⟨cluster, cs⟩, ⟨node, v⟩), Loop.mem_visit.mpr
      ⟨AList.mem_lookup_iff.mp found, AList.mem_lookup_iff.mp found'⟩, rfl⟩

theorem filed_of_lookup {loop : Loop String ClusterStore String V} {v : V}
    (found : (collect loop s part).lookup text = some v) : Filed s part text v :=
  mem_keyed.mp (mem_of_lookup_written found)

theorem lookup_eq_none {loop : Loop String ClusterStore String V} :
    (collect loop s part).lookup text = none ↔ ∀ v, ¬Filed s part text v := by
  rw [collect, lookup_written_eq_none]
  constructor
  · intro missing v filed
    exact missing _ (mem_keyed.mpr filed) rfl
  · rintro unfiled ⟨key, v⟩ inside rfl
    exact unfiled v (mem_keyed.mp inside)

/-- Whatever is filed is found in some order of the loops. -/
theorem exists_lookup {v : V} (filed : Filed s part text v) :
    ∃ loop, (collect loop s part).lookup text = some v := by
  obtain ⟨p, met, same⟩ := List.mem_map.mp ((@mem_keyed V s part text .asGiven v).mpr filed)
  obtain ⟨loop, rest, last⟩ := Loop.exists_visit_concat met
  obtain ⟨rfl, rfl⟩ := Prod.mk.inj same
  refine ⟨loop, ?_⟩
  rw [collect, last, List.map_append, List.map_singleton, lookup_written_concat, if_pos rfl]

theorem status_iff {n : Pve.Node} {status : Option NodeStatus} :
    Status s n status ↔ ∃ loop, statusOf (collect loop s allNodeStatuses) n = status := by
  constructor
  · intro possible
    cases status with
    | none =>
        refine ⟨.asGiven, ?_⟩
        rw [statusOf, lookup_eq_none.mpr fun w => (possible w).1]
        exact lookup_eq_none.mpr fun w => (possible w).2
    | some v =>
        rcases possible with filed | ⟨unfiled, filed⟩
        · obtain ⟨loop, found⟩ := exists_lookup filed
          exact ⟨loop, by rw [statusOf, found]⟩
        · obtain ⟨loop, found⟩ := exists_lookup filed
          exact ⟨loop, by rw [statusOf, lookup_eq_none.mpr unfiled, found]⟩
  · rintro ⟨loop, rfl⟩
    rw [statusOf]
    cases own : (collect loop s allNodeStatuses).lookup (n.cluster ++ "/" ++ n.node) with
    | some v => exact .inl (filed_of_lookup own)
    | none =>
        have unfiled := lookup_eq_none.mp own
        cases other : (collect loop s allNodeStatuses).lookup n.node with
        | some v => exact .inr ⟨unfiled, filed_of_lookup other⟩
        | none => exact fun w => ⟨unfiled w, lookup_eq_none.mp other w⟩

theorem details_iff {n : Pve.Node} {details : Option Pve.NodeStatus} :
    Details s n details ↔
      ∃ loop, (collect loop s (·.nodeDetails)).lookup (n.cluster ++ "/" ++ n.node) = details := by
  constructor
  · intro possible
    cases details with
    | none => exact ⟨.asGiven, lookup_eq_none.mpr possible⟩
    | some v => exact exists_lookup possible
  · rintro ⟨loop, rfl⟩
    cases own : (collect loop s (·.nodeDetails)).lookup (n.cluster ++ "/" ++ n.node) with
    | some v => exact filed_of_lookup own
    | none => exact lookup_eq_none.mp own

/-- A node may get a row if some run gives it to it, in whichever order the nodes are met. -/
theorem nodeRow_iff {n : Pve.Node} {row : NodeWithStatus}
    (met : Loop String ClusterStore String Pve.Node) :
    NodeRow s n row ↔ ∃ o : Orders, o.nodes = met ∧ rowOf o s n = row := by
  constructor
  · rintro ⟨status, details, possible, possible', rfl⟩
    obtain ⟨statuses, rfl⟩ := status_iff.mp possible
    obtain ⟨loop, rfl⟩ := details_iff.mp possible'
    exact ⟨{ anyOrder with nodes := met, statuses := statuses, details := loop }, rfl, rfl⟩
  · rintro ⟨o, -, rfl⟩
    exact ⟨_, _, status_iff.mpr ⟨_, rfl⟩, details_iff.mpr ⟨_, rfl⟩, rfl⟩

end Lookups

section Nodes

variable {s : Store}

theorem byNode_weak : WeakOrder byNode where
  asymm before after := String.lt_irrefl _ (String.lt_trans before after)
  trans before after := String.not_lt.mpr (String.le_trans (String.not_lt.mp before)
    (String.not_lt.mp after))

theorem tied_byNode {a b : NodeWithStatus} : Tied byNode a b ↔ a.node = b.node := by
  constructor
  · intro tied
    exact String.le_antisymm (String.not_lt.mp tied.2) (String.not_lt.mp tied.1)
  · intro same
    rw [Tied, byNode, byNode, same]
    exact ⟨String.lt_irrefl _, String.lt_irrefl _⟩

theorem mem_getNodes {o o' : Orders} {n : Pve.Node} : n ∈ getNodes o s ↔ n ∈ getNodes o' s :=
  ((Loop.visit_perm o.nodes o'.nodes).map _).mem_iff

theorem rowOf_eq {o : Orders} {n m : Pve.Node} (cluster : m.cluster = n.cluster)
    (node : m.node = n.node) :
    rowOf o s m = nodeWithStatus m (statusOf (getAllNodeStatuses o s) n)
      ((allNodeDetails o s).lookup (n.cluster ++ "/" ++ n.node)) := by
  rw [rowOf, statusOf, statusOf, cluster, node]

/-- A row tells what was found for its node. -/
theorem nodeWithStatus_congr {n m : Pve.Node} {status status' : Option NodeStatus}
    {details details' : Option Pve.NodeStatus}
    (same : nodeWithStatus m status details = nodeWithStatus n status' details') :
    nodeWithStatus n status details = nodeWithStatus n status' details' := by
  simp only [nodeWithStatus, NodeWithStatus.mk.injEq] at same ⊢
  simp only [same, true_and]

/-- If all runs list the same rows, a node has one row. -/
theorem row_unique (perms : ∀ o o', (nodeList o s).Perm (nodeList o' s)) {n : Pve.Node}
    (inside : n ∈ getNodes anyOrder s) {row row' : NodeWithStatus} (possible : NodeRow s n row)
    (possible' : NodeRow s n row') : row = row' := by
  obtain ⟨o, -, rfl⟩ := (nodeRow_iff .asGiven).mp possible
  obtain ⟨o', -, rfl⟩ := (nodeRow_iff .asGiven).mp possible'
  have listed : rowOf o' s n ∈ nodeList o' s :=
    List.mem_map.mpr ⟨n, mem_getNodes.mp inside, rfl⟩
  obtain ⟨m, -, same⟩ := List.mem_map.mp ((perms o' o).mem_iff.mp listed)
  have cluster : m.cluster = n.cluster := congrArg NodeWithStatus.cluster same
  have node : m.node = n.node := congrArg NodeWithStatus.node same
  rw [rowOf_eq cluster node] at same
  exact nodeWithStatus_congr same

theorem nodesAgree_of_same
    (same : ∀ (sorter : Sorter byNode) (o o' : Orders),
      sorter.arrange (nodeList o s) = sorter.arrange (nodeList o' s)) : NodesAgree s := by
  obtain ⟨perms, open_⟩ := (arrange_same_iff byNode_weak).mp same
  intro n inside n' inside' equal row row' possible possible'
  have unique {m : Pve.Node} (member : m ∈ getNodes anyOrder s) (o o' : Orders) :
      rowOf o s m = rowOf o' s m :=
    row_unique perms member ((nodeRow_iff o.nodes).mpr ⟨o, rfl, rfl⟩)
      ((nodeRow_iff o'.nodes).mpr ⟨o', rfl, rfl⟩)
  obtain ⟨o, -, rfl⟩ := (nodeRow_iff .asGiven).mp possible
  obtain ⟨o', -, rfl⟩ := (nodeRow_iff .asGiven).mp possible'
  rw [unique inside' o' o]
  rcases open_ with untied | alike
  · exact untied o _ (List.mem_map.mpr ⟨n, mem_getNodes.mp inside, rfl⟩) _
      (List.mem_map.mpr ⟨n', mem_getNodes.mp inside', rfl⟩) (tied_byNode.mpr equal)
  · obtain ⟨p, met, rfl⟩ := List.mem_map.mp inside
    obtain ⟨p', met', rfl⟩ := List.mem_map.mp inside'
    obtain ⟨loop, rest, first⟩ := Loop.exists_visit_cons met
    obtain ⟨loop', rest', first'⟩ := Loop.exists_visit_cons met'
    have lists := alike { o with nodes := loop } { o with nodes := loop' }
    rw [nodeList, nodeList, getNodes, getNodes, first, first'] at lists
    exact (List.cons.inj lists).1

theorem same_of_nodesAgree (agree : NodesAgree s) (sorter : Sorter byNode) (o o' : Orders) :
    sorter.arrange (nodeList o s) = sorter.arrange (nodeList o' s) := by
  have row (o : Orders) (n : Pve.Node) : NodeRow s n (rowOf o s n) :=
    (nodeRow_iff o.nodes).mpr ⟨o, rfl, rfl⟩
  have member {o : Orders} {n : Pve.Node} : n ∈ getNodes o s → n ∈ getNodes anyOrder s :=
    mem_getNodes.mp
  refine (arrange_same_iff byNode_weak (f := fun o => nodeList o s)).mpr ⟨?_, ?_⟩ sorter o o'
  · intro o o'
    have rows : nodeList o' s = (getNodes o' s).map (rowOf o s) :=
      List.map_congr_left fun n inside =>
        agree n (member inside) n (member inside) rfl _ _ (row o' n) (row o n)
    rw [rows]
    exact ((Loop.visit_perm o.nodes o'.nodes).map _).map _
  · refine .inl fun o a inside b inside' tied => ?_
    obtain ⟨n, mem, rfl⟩ := List.mem_map.mp inside
    obtain ⟨n', mem', rfl⟩ := List.mem_map.mp inside'
    exact agree n (member mem) n' (member mem') (tied_byNode.mp tied) _ _ (row o n) (row o n')

end Nodes

section Guests

variable {s : Store}

theorem byVMID_weak : WeakOrder byVMID where
  asymm before after := by
    rw [byVMID, Int64.lt_iff_toInt_lt] at before after
    omega
  trans before after := by
    rw [byVMID, Int64.lt_iff_toInt_lt] at before after ⊢
    omega

theorem tied_byVMID {a b : Guest} : Tied byVMID a b ↔ a.vmid = b.vmid := by
  rw [Tied, byVMID, byVMID, Int64.lt_iff_toInt_lt, Int64.lt_iff_toInt_lt, ← Int64.toInt_inj]
  omega

theorem guests_perm (o o' : Orders) : (guests o s).Perm (guests o' s) :=
  (((Loop.visit_perm o.vms o'.vms).map _).map _).append
    (((Loop.visit_perm o.containers o'.containers).map _).map _)

theorem vms_same_iff :
    (∀ o o' : Orders, (getVMs o s).map ofVM = (getVMs o' s).map ofVM) ↔
      ∀ vm ∈ getVMs anyOrder s, ∀ vm' ∈ getVMs anyOrder s, ofVM vm = ofVM vm' := by
  have loops := @Loop.map_visit_iff _ _ _ _ s.clusters (·.vms) _ ofVM
  simp only [getVMs, List.map_map, List.forall_mem_map]
  refine Iff.trans ⟨fun same loop loop' => ?_, fun same o o' => ?_⟩ loops
  · exact same { anyOrder with vms := loop } { anyOrder with vms := loop' }
  · exact same o.vms o'.vms

theorem containers_same_iff :
    (∀ o o' : Orders, (getContainers o s).map ofContainer = (getContainers o' s).map ofContainer) ↔
      ∀ ct ∈ getContainers anyOrder s, ∀ ct' ∈ getContainers anyOrder s,
        ofContainer ct = ofContainer ct' := by
  have loops := @Loop.map_visit_iff _ _ _ _ s.clusters (·.containers) _ ofContainer
  simp only [getContainers, List.map_map, List.forall_mem_map]
  refine Iff.trans ⟨fun same loop loop' => ?_, fun same o o' => ?_⟩ loops
  · exact same { anyOrder with containers := loop } { anyOrder with containers := loop' }
  · exact same o.containers o'.containers

/-- The VMs come first, so their part of the list ends at the same place in all runs. -/
theorem guests_same_iff :
    (∀ o o' : Orders, guests o s = guests o' s) ↔
      (∀ vm ∈ getVMs anyOrder s, ∀ vm' ∈ getVMs anyOrder s, ofVM vm = ofVM vm') ∧
        ∀ ct ∈ getContainers anyOrder s, ∀ ct' ∈ getContainers anyOrder s,
          ofContainer ct = ofContainer ct' := by
  rw [← vms_same_iff, ← containers_same_iff]
  constructor
  · intro same
    have parts (o o' : Orders) := List.append_inj (same o o')
      ((((Loop.visit_perm o.vms o'.vms).map _).map _).length_eq)
    exact ⟨fun o o' => (parts o o').1, fun o o' => (parts o o').2⟩
  · rintro ⟨left, right⟩ o o'
    rw [guests, guests, left o o', right o o']

theorem guestsAgree_iff :
    (∀ (sorter : Sorter byVMID) (o o' : Orders),
      sorter.arrange (guests o s) = sorter.arrange (guests o' s)) ↔ GuestsAgree s := by
  rw [arrange_same_iff byVMID_weak, GuestsAgree, guests_same_iff, and_iff_right guests_perm]
  refine or_congr_left ?_
  simp only [tied_byVMID]
  constructor
  · intro untied
    exact untied anyOrder
  · intro untied o a inside b inside'
    exact untied a ((guests_perm o anyOrder).mem_iff.mp inside) b
      ((guests_perm o anyOrder).mem_iff.mp inside')

end Guests

section Result

variable {s : Store}

theorem storageAgrees_iff :
    (∀ o o' : Orders, (getStorage o s).map storageInfo = (getStorage o' s).map storageInfo) ↔
      StorageAgrees s := by
  have loops := @Loop.visit_flatMap_iff _ _ _ _ s.clusters (·.storage) _
    fun e => e.2.map storageInfo
  simp only [getStorage, List.map_flatMap]
  refine Iff.trans ⟨fun same loop loop' => ?_, fun same o o' => ?_⟩ loops
  · exact same { anyOrder with storage := loop } { anyOrder with storage := loop' }
  · exact same o.storage o'.storage

/-- A broadcast shows no order exactly if the nodes of a name, the guests of a VMID and the
storage of all clusters leave none open. -/
theorem orderFree_iff : OrderFree s ↔ NodesAgree s ∧ GuestsAgree s ∧ StorageAgrees s := by
  rw [← guestsAgree_iff, ← storageAgrees_iff]
  constructor
  · intro same
    have fields (sortNodes : Sorter byNode) (sortGuests : Sorter byVMID) (o o' : Orders) :=
      Message.mk.inj (same sortNodes sortGuests o o')
    exact ⟨nodesAgree_of_same fun sorter o o' => (fields sorter (stable byVMID_weak) o o').1,
      fun sorter o o' => (fields (stable byNode_weak) sorter o o').2.1,
      fun o o' => (fields (stable byNode_weak) (stable byVMID_weak) o o').2.2⟩
  · rintro ⟨nodes, guests, storage⟩ sortNodes sortGuests o o'
    rw [buildStateMessage, buildStateMessage, same_of_nodesAgree nodes sortNodes o o',
      guests sortGuests o o', storage o o']

def emptyVM : Pve.VM := default

/-- A cluster with one guest of VMID 100. -/
def oneGuest (name : String) : ClusterStore :=
  { ClusterStore.new name with
    vms := (∅ : Map Int64 Pve.VM).insert 100 { emptyVM with cluster := name, vmid := 100 } }

def twoClusters : Store :=
  ⟨((∅ : Map String ClusterStore).insert "a" (oneGuest "a")).insert "b" (oneGuest "b")⟩

/-- Two clusters have a guest 100 each, and the loop over the clusters decides which comes
first. -/
theorem two_clusters_change : ¬OrderFree twoClusters := by
  intro same
  have agree : GuestsAgree twoClusters := guestsAgree_iff.mp fun sorter o o' =>
    (Message.mk.inj (same (stable byNode_weak) sorter o o')).2.1
  revert agree
  unfold GuestsAgree
  decide +kernel

end Result

end StateMessage
