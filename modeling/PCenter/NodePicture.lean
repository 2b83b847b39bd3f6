import PCenter.PveContent
import Mathlib.Data.Option.Basic

/-!
# Do the agent and the poller record the same picture of a node?

Both read the same API of one node and write to the same store: one cycle of the agent,
over the wire and through `handleStatus`, against one cycle of `fetchNode`. The two
pictures agree only under conditions, which are stated on the content of the API and on
the NICs recorded before.
-/

namespace NodePicture

open FiniteMap State GoJson NicOptions PveContent
open PveClient (Server)

/-- The answers that do not reach the compared parts of the store. -/
structure OtherAnswers where
  nodeDetails : Except String (Option Pve.NodeStatus)
  vmStats : Except String (Option Pve.VmStats)
  ceph : Except String Pve.CephStatus
  netIfaces : Except String (List Pve.NetworkInterface)
  agentNetworks : Except String (List AgentWire.NetworkInterface)
  agentCeph : Except String AgentWire.CephStatus

def pollerFetch (srv : Server) (nodeName : String) (other : OtherAnswers) :
    Poller.NodeFetch where
  node := PveClient.getNodeStatus srv nodeName
  nodeDetails := other.nodeDetails
  vmStats := other.vmStats
  vms := PveClient.getVMs srv nodeName
  containers := PveClient.getContainers srv nodeName
  storage := PveClient.getStorage srv nodeName
  ceph := other.ceph
  netIfaces := other.netIfaces

def agentFetch (srv : Server) (nodeName : String) (other : OtherAnswers) :
    AgentHub.AgentFetch where
  nodeStatus := AgentClient.getNodeStatus srv nodeName
  vms := AgentClient.getVMs srv nodeName
  containers := AgentClient.getContainers srv nodeName
  storage := AgentClient.getStorage srv nodeName
  networks := other.agentNetworks
  ceph := other.agentCeph

/-- The same figures, guests and storage figures of a node in two stores. -/
structure SamePicture (nodeName : String) (a b : ClusterStore) : Prop where
  figures : a.figuresOn nodeName = b.figuresOn nodeName
  vms : ∀ vmid, Option.Rel Pve.SameGuest ((a.vmsOn nodeName vmid).map (·.view))
    ((b.vmsOn nodeName vmid).map (·.view))
  containers : ∀ vmid, Option.Rel Pve.SameGuest ((a.containersOn nodeName vmid).map (·.view))
    ((b.containersOn nodeName vmid).map (·.view))
  storage : (a.storageOn nodeName).map (·.figures) = (b.storageOn nodeName).map (·.figures)

section LastRows

variable {G : Type} {rows : List Fields}

/-- The last row with a VMID is the one that counts. -/
def lastRow (rows : List Fields) (vmid : Int64) : Option Fields :=
  (rows.filter (fun row => intOf row "vmid" == vmid)).getLast?

theorem lastRow_mem {vmid : Int64} {row : Fields} (last : lastRow rows vmid = some row) :
    row ∈ rows ∧ intOf row "vmid" = vmid := by
  have member := List.mem_of_getLast? last
  simpa using List.mem_filter.mp member

theorem lastRow_isSome {row : Fields} (listed : row ∈ rows) :
    ∃ last, lastRow rows (intOf row "vmid") = some last := by
  have member : row ∈ rows.filter (fun r => intOf r "vmid" == intOf row "vmid") := by
    simp [listed]
  exact ⟨_, List.getLast?_eq_some_getLast (List.ne_nil_of_mem member)⟩

theorem getLast?_filter_map {f : Fields → G} {key : G → Int64}
    (same : ∀ row, key (f row) = intOf row "vmid") (vmid : Int64) :
    ((rows.map f).filter (fun g => key g == vmid)).getLast? = (lastRow rows vmid).map f := by
  unfold lastRow
  rw [List.filter_map, List.getLast?_map]
  simp only [Function.comp_def, same]

/-- Two pictures built from the same rows agree when each row's two entries do. -/
theorem rel_lastRow_iff {R : G → G → Prop} {C : Int64 → Prop} {F H : Int64 → Fields → G}
    (each : ∀ row ∈ rows,
      (R (F (intOf row "vmid") row) (H (intOf row "vmid") row) ↔ C (intOf row "vmid"))) :
    (∀ vmid, Option.Rel R ((lastRow rows vmid).map (F vmid))
        ((lastRow rows vmid).map (H vmid))) ↔
      ∀ row ∈ rows, C (intOf row "vmid") := by
  constructor
  · intro same row listed
    obtain ⟨last, shape⟩ := lastRow_isSome listed
    obtain ⟨member, id⟩ := lastRow_mem shape
    have rel := same (intOf row "vmid")
    rw [shape, ← id] at rel
    rw [← id]
    cases rel with
    | some rel => exact (each last member).mp rel
  · intro all vmid
    cases shape : lastRow rows vmid with
    | none => exact .none
    | some row =>
        obtain ⟨member, rfl⟩ := lastRow_mem shape
        exact .some ((each row member).mpr (all row member))

end LastRows

section Guests

variable {srv : Server} (s : Store) (now : Int) (cfg : AgentHub.Config)
  (content : NodeContent srv cfg.nodeName) (other : OtherAnswers)

/-- The cluster's store before the two cycles. -/
def before : ClusterStore := s.getOrCreateCluster cfg.cluster

/-- The store after one cycle of the agent. -/
def afterAgent (srv : Server) : ClusterStore :=
  AgentHub.agentCycle s now cfg (agentFetch srv cfg.nodeName other)

/-- The store after one cycle of the poller. -/
def afterPoller (srv : Server) : ClusterStore :=
  Poller.fetchNode (before s cfg) now cfg.nodeName (pollerFetch srv cfg.nodeName other)

/-- The message of the agent's cycle. -/
def message (srv : Server) : AgentWire.StatusData :=
  AgentHub.collect cfg (agentFetch srv cfg.nodeName other)

theorem afterAgent_eq (srv : Server) :
    afterAgent s now cfg other srv =
      AgentHub.storeStatus (before s cfg) now (message cfg other srv) :=
  AgentHub.agentCycle_eq s now cfg _

def prevVMNICs (vmid : Int64) : Option (List Pve.GuestNIC) :=
  ((before s cfg).vms.lookup vmid).map (·.nics)

def prevCTNICs (vmid : Int64) : Option (List Pve.GuestNIC) :=
  ((before s cfg).containers.lookup vmid).map (·.nics)

theorem afterAgent_vmsOn (vmid : Int64) :
    (afterAgent s now cfg other srv).vmsOn cfg.nodeName vmid =
      (lastRow content.qemu vmid).map (fun row =>
        mergeVM (before s cfg).name ((before s cfg).vms.lookup vmid)
          (AgentHub.convertVM (message cfg other srv) (content.agentVMOf row))) := by
  have effect := (AgentHub.storeStatus_effect (before s cfg) now (message cfg other srv)).1
  have sent : (message cfg other srv).vms = some (content.qemu.map content.agentVMOf) :=
    congrArg Except.toOption content.agent_getVMs_eq
  have node : (message cfg other srv).node = cfg.nodeName := rfl
  rw [sent, Option.getD_some, List.map_map, node] at effect
  unfold ClusterStore.vmsOn
  rw [afterAgent_eq, effect, held_report_last]
  · rw [getLast?_filter_map (fun row => rfl), Option.map_map]
    rfl
  · intro old vm listed
    obtain ⟨row, _, rfl⟩ := List.mem_map.mp listed
    simp [mergeVM, AgentHub.convertVM, message, AgentHub.collect]
  · intro old a listedA b listedB same
    obtain ⟨rowA, _, rfl⟩ := List.mem_map.mp listedA
    obtain ⟨rowB, _, rfl⟩ := List.mem_map.mp listedB
    have id : intOf rowA "vmid" = intOf rowB "vmid" := same
    simp [mergeVM, AgentHub.convertVM, NodeContent.agentVMOf, id, keepNICs_keepNICs]

theorem afterAgent_containersOn (vmid : Int64) :
    (afterAgent s now cfg other srv).containersOn cfg.nodeName vmid =
      (lastRow content.lxc vmid).map (fun row =>
        mergeContainer (before s cfg).name ((before s cfg).containers.lookup vmid)
          (AgentHub.convertCT (message cfg other srv) (content.agentCTOf row))) := by
  have effect := (AgentHub.storeStatus_effect (before s cfg) now (message cfg other srv)).2.1
  have sent : (message cfg other srv).containers = some (content.lxc.map content.agentCTOf) :=
    congrArg Except.toOption content.agent_getContainers_eq
  have node : (message cfg other srv).node = cfg.nodeName := rfl
  rw [sent, Option.getD_some, List.map_map, node] at effect
  unfold ClusterStore.containersOn
  rw [afterAgent_eq, effect, held_report_last]
  · rw [getLast?_filter_map (fun row => rfl), Option.map_map]
    rfl
  · intro old ct listed
    obtain ⟨row, _, rfl⟩ := List.mem_map.mp listed
    simp [mergeContainer, AgentHub.convertCT, message, AgentHub.collect]
  · intro old a listedA b listedB same
    obtain ⟨rowA, _, rfl⟩ := List.mem_map.mp listedA
    obtain ⟨rowB, _, rfl⟩ := List.mem_map.mp listedB
    have id : intOf rowA "vmid" = intOf rowB "vmid" := same
    simp [mergeContainer, AgentHub.convertCT, NodeContent.agentCTOf, id, keepNICs_keepNICs]

include content in
theorem pollerFetch_node : ∃ node, (pollerFetch srv cfg.nodeName other).node = .ok node := by
  obtain ⟨row, named⟩ := content.namedRow_isSome
  exact ⟨_, content.getNodeStatus_eq named⟩

theorem afterPoller_vmsOn (absent : ∀ row ∈ content.qemu, field row "template" = .null)
    (vmid : Int64) :
    (afterPoller s now cfg other srv).vmsOn cfg.nodeName vmid =
      (lastRow content.qemu vmid).map (fun row =>
        mergeVM (before s cfg).name ((before s cfg).vms.lookup vmid)
          (content.polledVMOf row)) := by
  obtain ⟨node, answered⟩ := pollerFetch_node cfg content other
  have effect := (Poller.fetchNode_effect (before s cfg) now cfg.nodeName answered).1
  have listed : Poller.orNil (pollerFetch srv cfg.nodeName other).vms =
      content.qemu.map content.polledVMOf :=
    congrArg Poller.orNil (content.getVMs_eq absent)
  rw [listed] at effect
  unfold ClusterStore.vmsOn afterPoller
  rw [effect, held_report_last]
  · rw [getLast?_filter_map (fun row => rfl), Option.map_map]
    rfl
  · intro old vm member
    obtain ⟨row, _, rfl⟩ := List.mem_map.mp member
    simp [mergeVM, NodeContent.polledVMOf]
  · intro old a memberA b memberB same
    obtain ⟨rowA, _, rfl⟩ := List.mem_map.mp memberA
    obtain ⟨rowB, _, rfl⟩ := List.mem_map.mp memberB
    have id : intOf rowA "vmid" = intOf rowB "vmid" := same
    simp [mergeVM, NodeContent.polledVMOf, id, keepNICs_keepNICs]

theorem afterPoller_containersOn (absent : ∀ row ∈ content.lxc, field row "template" = .null)
    (vmid : Int64) :
    (afterPoller s now cfg other srv).containersOn cfg.nodeName vmid =
      (lastRow content.lxc vmid).map (fun row =>
        mergeContainer (before s cfg).name ((before s cfg).containers.lookup vmid)
          (content.polledContainerOf row)) := by
  obtain ⟨node, answered⟩ := pollerFetch_node cfg content other
  have effect := (Poller.fetchNode_effect (before s cfg) now cfg.nodeName answered).2.1
  have listed : Poller.orNil (pollerFetch srv cfg.nodeName other).containers =
      content.lxc.map content.polledContainerOf :=
    congrArg Poller.orNil (content.getContainers_eq absent)
  rw [listed] at effect
  unfold ClusterStore.containersOn afterPoller
  rw [effect, held_report_last]
  · rw [getLast?_filter_map (fun row => rfl), Option.map_map]
    rfl
  · intro old ct member
    obtain ⟨row, _, rfl⟩ := List.mem_map.mp member
    simp [mergeContainer, NodeContent.polledContainerOf]
  · intro old a memberA b memberB same
    obtain ⟨rowA, _, rfl⟩ := List.mem_map.mp memberA
    obtain ⟨rowB, _, rfl⟩ := List.mem_map.mp memberB
    have id : intOf rowA "vmid" = intOf rowB "vmid" := same
    simp [mergeContainer, NodeContent.polledContainerOf, id, keepNICs_keepNICs]

end Guests

section Conditions

/-- The figures that a missing row stands for are zero. -/
def reported : Option Fields → Pve.NodeFigures
  | none => Pve.NodeFigures.zero
  | some row => rowFigures row

/-- When the two cycles agree: the row with the first status has the figures of the row
with the node's name, no guest carries a template flag, and the NICs agree. -/
structure Agreeable {srv : Server} (s : Store) (cfg : AgentHub.Config)
    (content : NodeContent srv cfg.nodeName) : Prop where
  node : reported content.statusRow = reported content.namedRow
  qemuTemplates : ∀ row ∈ content.qemu, field row "template" = .null
  lxcTemplates : ∀ row ∈ content.lxc, field row "template" = .null
  qemuNICs : ∀ row ∈ content.qemu, NICsAlike agentVMReading
    (content.qemuConfig (intOf row "vmid")) ((prevVMNICs s cfg (intOf row "vmid")).getD [])
  lxcNICs : ∀ row ∈ content.lxc, NICsAlike agentCTReading
    (content.lxcConfig (intOf row "vmid")) ((prevCTNICs s cfg (intOf row "vmid")).getD [])

variable {srv : Server} (s : Store) (now : Int) (cfg : AgentHub.Config)
  (content : NodeContent srv cfg.nodeName) (other : OtherAnswers)

theorem afterAgent_figuresOn :
    (afterAgent s now cfg other srv).figuresOn cfg.nodeName =
      some (reported content.statusRow) := by
  have figures := AgentHub.storeStatus_figuresOn (before s cfg) now (message cfg other srv)
  rw [afterAgent_eq]
  refine figures.trans (congrArg some ?_)
  have sent : (message cfg other srv).nodeStatus =
      (AgentClient.getNodeStatus srv cfg.nodeName).toOption := rfl
  unfold AgentHub.convertNode
  rw [sent, content.agent_getNodeStatus_eq]
  cases content.statusRow with
  | none => rfl
  | some row =>
      simp only [Except.toOption, AgentClient.nodeStatusOf]
      cases AgentClient.get srv AgentClient.decodeRawNodeStatus
        ("/nodes/" ++ cfg.nodeName ++ "/status") with
      | error err => rfl
      | ok details => rfl

theorem afterPoller_figuresOn :
    (afterPoller s now cfg other srv).figuresOn cfg.nodeName =
      some (reported content.namedRow) := by
  obtain ⟨row, named⟩ := content.namedRow_isSome
  have answered : (pollerFetch srv cfg.nodeName other).node = .ok (polledNode row) :=
    content.getNodeStatus_eq named
  unfold ClusterStore.figuresOn afterPoller
  rw [(Poller.fetchNode_effect (before s cfg) now cfg.nodeName answered).2.2.2,
    AList.lookup_insert, named]
  rfl

include content in
theorem storage_agrees :
    ((afterAgent s now cfg other srv).storageOn cfg.nodeName).map (·.figures) =
      ((afterPoller s now cfg other srv).storageOn cfg.nodeName).map (·.figures) := by
  obtain ⟨node, answered⟩ := pollerFetch_node cfg content other
  have polled := Poller.fetchNode_storageOn (before s cfg) now cfg.nodeName answered
  have pushed := AgentHub.storeStatus_storageOn (before s cfg) now (message cfg other srv)
  have listed : Poller.orNil (pollerFetch srv cfg.nodeName other).storage =
      content.storage.map (fun row => { polledStorage row with node := cfg.nodeName }) :=
    congrArg Poller.orNil content.getStorage_eq
  have sent : (message cfg other srv).storage = content.storage.map agentStorage :=
    congrArg Poller.orNil content.agent_getStorage_eq
  rw [listed] at polled
  rw [sent] at pushed
  have node : (message cfg other srv).node = cfg.nodeName := rfl
  rw [node] at pushed
  unfold afterPoller
  rw [afterAgent_eq, pushed, polled]
  simp only [List.map_map]
  rfl

/-- Without a template flag the two entries of a VM differ at most in their NICs. -/
theorem sameVM_iff (vmid : Int64) (row : Fields) (absent : field row "template" = .null)
    (id : intOf row "vmid" = vmid) :
    Pve.SameGuest
        (mergeVM (before s cfg).name ((before s cfg).vms.lookup vmid)
          (AgentHub.convertVM (message cfg other srv) (content.agentVMOf row))).view
        (mergeVM (before s cfg).name ((before s cfg).vms.lookup vmid)
          (content.polledVMOf row)).view ↔
      NICsAlike agentVMReading (content.qemuConfig vmid) ((prevVMNICs s cfg vmid).getD []) := by
  subst id
  rw [← kept_iff_nicsAlike parseVMNetConfig_eq (content.qemuDistinct (intOf row "vmid"))
    (prevVMNICs s cfg (intOf row "vmid"))]
  have flag : (intOf row "template" == 1) = false := by
    rw [(template_absent absent).2]
    rfl
  constructor
  · exact fun same => same.nics
  · exact fun nics => ⟨rfl, rfl, rfl, flag, nics⟩

theorem sameContainer_iff (vmid : Int64) (row : Fields) (id : intOf row "vmid" = vmid) :
    Pve.SameGuest
        (mergeContainer (before s cfg).name ((before s cfg).containers.lookup vmid)
          (AgentHub.convertCT (message cfg other srv) (content.agentCTOf row))).view
        (mergeContainer (before s cfg).name ((before s cfg).containers.lookup vmid)
          (content.polledContainerOf row)).view ↔
      NICsAlike agentCTReading (content.lxcConfig vmid) ((prevCTNICs s cfg vmid).getD []) := by
  subst id
  rw [← kept_iff_nicsAlike parseCTNetConfig_eq (content.lxcDistinct (intOf row "vmid"))
    (prevCTNICs s cfg (intOf row "vmid"))]
  constructor
  · exact fun same => same.nics
  · exact fun nics => ⟨rfl, rfl, rfl, rfl, nics⟩

/-- The VMs agree exactly when none carries a template flag and the NICs of each do. -/
theorem sameVMs_iff :
    (∀ vmid, Option.Rel Pve.SameGuest
        (((afterAgent s now cfg other srv).vmsOn cfg.nodeName vmid).map (·.view))
        (((afterPoller s now cfg other srv).vmsOn cfg.nodeName vmid).map (·.view))) ↔
      (∀ row ∈ content.qemu, field row "template" = .null) ∧
        ∀ row ∈ content.qemu, NICsAlike agentVMReading
          (content.qemuConfig (intOf row "vmid"))
          ((prevVMNICs s cfg (intOf row "vmid")).getD []) := by
  have compare : (∀ row ∈ content.qemu, field row "template" = .null) →
      ((∀ vmid, Option.Rel Pve.SameGuest
        (((afterAgent s now cfg other srv).vmsOn cfg.nodeName vmid).map (·.view))
        (((afterPoller s now cfg other srv).vmsOn cfg.nodeName vmid).map (·.view))) ↔
      ∀ row ∈ content.qemu, NICsAlike agentVMReading (content.qemuConfig (intOf row "vmid"))
        ((prevVMNICs s cfg (intOf row "vmid")).getD [])) := by
    intro absent
    simp only [afterAgent_vmsOn s now cfg content other,
      afterPoller_vmsOn s now cfg content other absent, Option.map_map]
    refine rel_lastRow_iff (C := fun vmid => NICsAlike agentVMReading
      (content.qemuConfig vmid) ((prevVMNICs s cfg vmid).getD [])) ?_
    intro row listed
    exact sameVM_iff s cfg content other _ row (absent row listed) rfl
  have absent_of_same : (∀ vmid, Option.Rel Pve.SameGuest
        (((afterAgent s now cfg other srv).vmsOn cfg.nodeName vmid).map (·.view))
        (((afterPoller s now cfg other srv).vmsOn cfg.nodeName vmid).map (·.view))) →
      ∀ row ∈ content.qemu, field row "template" = .null := by
    intro same row listed
    by_contra present
    obtain ⟨node, answered⟩ := pollerFetch_node cfg content other
    have dropped := Poller.fetchNode_vmsOn_of_failed (before s cfg) now cfg.nodeName answered
      (content.getVMs_refused listed present) (intOf row "vmid")
    obtain ⟨last, shape⟩ := lastRow_isSome listed
    have rel := same (intOf row "vmid")
    unfold afterPoller at rel
    rw [dropped, afterAgent_vmsOn s now cfg content other, shape] at rel
    cases rel
  exact ⟨fun same => ⟨absent_of_same same, (compare (absent_of_same same)).mp same⟩,
    fun both => (compare both.1).mpr both.2⟩

theorem sameContainers_iff :
    (∀ vmid, Option.Rel Pve.SameGuest
        (((afterAgent s now cfg other srv).containersOn cfg.nodeName vmid).map (·.view))
        (((afterPoller s now cfg other srv).containersOn cfg.nodeName vmid).map (·.view))) ↔
      (∀ row ∈ content.lxc, field row "template" = .null) ∧
        ∀ row ∈ content.lxc, NICsAlike agentCTReading
          (content.lxcConfig (intOf row "vmid"))
          ((prevCTNICs s cfg (intOf row "vmid")).getD []) := by
  have compare : (∀ row ∈ content.lxc, field row "template" = .null) →
      ((∀ vmid, Option.Rel Pve.SameGuest
        (((afterAgent s now cfg other srv).containersOn cfg.nodeName vmid).map (·.view))
        (((afterPoller s now cfg other srv).containersOn cfg.nodeName vmid).map (·.view))) ↔
      ∀ row ∈ content.lxc, NICsAlike agentCTReading (content.lxcConfig (intOf row "vmid"))
        ((prevCTNICs s cfg (intOf row "vmid")).getD [])) := by
    intro absent
    simp only [afterAgent_containersOn s now cfg content other,
      afterPoller_containersOn s now cfg content other absent, Option.map_map]
    refine rel_lastRow_iff (C := fun vmid => NICsAlike agentCTReading
      (content.lxcConfig vmid) ((prevCTNICs s cfg vmid).getD [])) ?_
    intro row _
    exact sameContainer_iff s cfg content other _ row rfl
  have absent_of_same : (∀ vmid, Option.Rel Pve.SameGuest
        (((afterAgent s now cfg other srv).containersOn cfg.nodeName vmid).map (·.view))
        (((afterPoller s now cfg other srv).containersOn cfg.nodeName vmid).map (·.view))) →
      ∀ row ∈ content.lxc, field row "template" = .null := by
    intro same row listed
    by_contra present
    obtain ⟨node, answered⟩ := pollerFetch_node cfg content other
    have dropped := Poller.fetchNode_containersOn_of_failed (before s cfg) now cfg.nodeName
      answered (content.getContainers_refused listed present) (intOf row "vmid")
    obtain ⟨last, shape⟩ := lastRow_isSome listed
    have rel := same (intOf row "vmid")
    unfold afterPoller at rel
    rw [dropped, afterAgent_containersOn s now cfg content other, shape] at rel
    cases rel
  exact ⟨fun same => ⟨absent_of_same same, (compare (absent_of_same same)).mp same⟩,
    fun both => (compare both.1).mpr both.2⟩

/-- One agent cycle and one poller cycle on the same content, from the same store, record
the same picture of the node exactly when the content is agreeable. -/
theorem samePicture_iff :
    SamePicture cfg.nodeName (afterAgent s now cfg other srv)
        (afterPoller s now cfg other srv) ↔
      Agreeable s cfg content := by
  have node : (afterAgent s now cfg other srv).figuresOn cfg.nodeName =
      (afterPoller s now cfg other srv).figuresOn cfg.nodeName ↔
      reported content.statusRow = reported content.namedRow := by
    rw [afterAgent_figuresOn s now cfg content other,
      afterPoller_figuresOn s now cfg content other, Option.some_inj]
  have vms := sameVMs_iff s now cfg content other
  have containers := sameContainers_iff s now cfg content other
  constructor
  · intro same
    obtain ⟨qemuTemplates, qemuNICs⟩ := vms.mp same.vms
    obtain ⟨lxcTemplates, lxcNICs⟩ := containers.mp same.containers
    exact ⟨node.mp same.figures, qemuTemplates, lxcTemplates, qemuNICs, lxcNICs⟩
  · intro agreeable
    exact ⟨node.mpr agreeable.node, vms.mpr ⟨agreeable.qemuTemplates, agreeable.qemuNICs⟩,
      containers.mpr ⟨agreeable.lxcTemplates, agreeable.lxcNICs⟩,
      storage_agrees s now cfg content other⟩

end Conditions

section Example

/-- A row of the node list. -/
def nodeRow (name : String) (cpu : Rat) (uptime : Int) : Fields :=
  [("node", .str name), ("status", .str "online"), ("cpu", .float cpu),
    ("maxcpu", .int 8), ("uptime", .int uptime)]

/-- A row of the guest list, with its template flag if it has one. -/
def vmRow (flag : Fields) : Fields :=
  [("vmid", .int 9000), ("name", .str "debian"), ("status", .str "stopped")] ++ flag

/-- The host `pve2`, with one VM. -/
def pve2Server (nodes : List Fields) (vm config : Fields) : Server := fun path =>
  if path = "/nodes" then .ok (rowsDoc nodes)
  else if path = "/nodes/pve2/qemu" then .ok (rowsDoc [vm])
  else if path = "/nodes/pve2/lxc" then .ok (rowsDoc [])
  else if path = "/nodes/pve2/storage" then .ok (rowsDoc [])
  else if path = "/nodes/pve2/qemu/9000/config" then .ok (envelope (.obj config))
  else .error "API error 501"

def pve2Agent : AgentHub.Config := ⟨"pve2", "home", false⟩

def nothingElse : OtherAnswers where
  nodeDetails := .ok none
  vmStats := .ok none
  ceph := .error "API error 500"
  netIfaces := .ok []
  agentNetworks := .ok []
  agentCeph := .error "API error 500"

/-- The content of `pve2`, for rows that are well-formed. -/
def pve2Content (nodes : List Fields) (vm config : Fields)
    (nodeRows : ∀ row ∈ nodes, NodeRow row) (vmRow : GuestRow vm)
    (named : intOf vm "vmid" = 9000) (distinct : Distinct config)
    (member : ∃ row ∈ nodes, stringOf row "node" = "pve2") :
    NodeContent (pve2Server nodes vm config) "pve2" where
  nodes := nodes
  qemu := [vm]
  lxc := []
  storage := []
  qemuConfig _ := config
  lxcConfig _ := []
  nodesAnswer := rfl
  qemuAnswer := rfl
  lxcAnswer := rfl
  storageAnswer := rfl
  qemuConfigAnswer := by
    intro row listed
    have same : row = vm := by simpa using listed
    rw [same, named]
    rfl
  lxcConfigAnswer := by simp
  nodeRows := nodeRows
  qemuRows := by
    intro row listed
    have same : row = vm := by simpa using listed
    rw [same]
    exact vmRow
  lxcRows := by simp
  storageRows := by simp
  qemuDistinct _ := distinct
  lxcDistinct _ := List.nodup_nil
  member := member

def twoNodes : List Fields := [nodeRow "pve1" (1 / 10) 86400, nodeRow "pve2" (9 / 10) 3600]

def templateVM : Fields := vmRow [("template", .int 1)]

def bridged : Fields := [("net0", .str "virtio=BC:24:11:2E:0A:01,bridge=vmbr0,tag=20")]

theorem twoNodes_rows : ∀ row ∈ twoNodes, NodeRow row := by
  intro row listed
  simp only [twoNodes, List.mem_cons, List.not_mem_nil, or_false] at listed
  rcases listed with rfl | rfl
  · exact ⟨by decide, by decide, by decide⟩
  · exact ⟨by decide, by decide, by decide⟩

def twoNodesContent :
    NodeContent (pve2Server twoNodes templateVM bridged) pve2Agent.nodeName :=
  pve2Content twoNodes templateVM bridged twoNodes_rows
    ⟨by decide, by decide, by decide, Or.inr (Or.inr rfl)⟩ rfl (by decide)
    ⟨_, List.mem_cons_of_mem _ List.mem_cons_self, rfl⟩

def emptyStore : Store := ⟨∅⟩

/-- The agent of `pve2` records the figures of `pve1`, the first node of the list, and the
poller loses the template that the agent records. -/
theorem twoNodes_pictures_differ :
    (afterAgent emptyStore 0 pve2Agent nothingElse
        (pve2Server twoNodes templateVM bridged)).figuresOn pve2Agent.nodeName =
          some (rowFigures (nodeRow "pve1" (1 / 10) 86400)) ∧
      (afterPoller emptyStore 0 pve2Agent nothingElse
        (pve2Server twoNodes templateVM bridged)).figuresOn pve2Agent.nodeName =
          some (rowFigures (nodeRow "pve2" (9 / 10) 3600)) ∧
      (afterPoller emptyStore 0 pve2Agent nothingElse
        (pve2Server twoNodes templateVM bridged)).vmsOn pve2Agent.nodeName 9000 = none ∧
      ¬ SamePicture pve2Agent.nodeName
        (afterAgent emptyStore 0 pve2Agent nothingElse (pve2Server twoNodes templateVM bridged))
        (afterPoller emptyStore 0 pve2Agent nothingElse
          (pve2Server twoNodes templateVM bridged)) := by
  have pushed := afterAgent_figuresOn emptyStore 0 pve2Agent twoNodesContent nothingElse
  have polled := afterPoller_figuresOn emptyStore 0 pve2Agent twoNodesContent nothingElse
  have first : reported twoNodesContent.statusRow =
      rowFigures (nodeRow "pve1" (1 / 10) 86400) := rfl
  have second : reported twoNodesContent.namedRow =
      rowFigures (nodeRow "pve2" (9 / 10) 3600) := rfl
  rw [first] at pushed
  rw [second] at polled
  obtain ⟨node, answered⟩ := pollerFetch_node pve2Agent twoNodesContent nothingElse
  have listed : templateVM ∈ twoNodesContent.qemu := List.mem_cons_self
  have present : field templateVM "template" ≠ .null := by
    intro absent
    cases absent
  have dropped := Poller.fetchNode_vmsOn_of_failed (before emptyStore pve2Agent) 0
    pve2Agent.nodeName answered (twoNodesContent.getVMs_refused listed present) 9000
  refine ⟨pushed, polled, dropped, fun same => ?_⟩
  have figures := same.figures
  rw [pushed, polled, Option.some_inj] at figures
  have uptimes : (86400 : Int64) = 3600 := congrArg Pve.NodeFigures.uptime figures
  exact absurd uptimes (by decide)

def oneNode : List Fields := [nodeRow "pve2" (9 / 10) 3600]

def plainVM : Fields := vmRow []

theorem oneNode_rows : ∀ row ∈ oneNode, NodeRow row := by
  intro row listed
  simp only [oneNode, List.mem_cons, List.not_mem_nil, or_false] at listed
  subst listed
  exact ⟨by decide, by decide, by decide⟩

def oneNodeContent :
    NodeContent (pve2Server oneNode plainVM bridged) pve2Agent.nodeName :=
  pve2Content oneNode plainVM bridged oneNode_rows
    ⟨by decide, by decide, by decide, Or.inl rfl⟩ rfl (by decide)
    ⟨_, List.mem_cons_self, rfl⟩

/-- On a single node with a VM that is no template the two pictures agree, NIC included. -/
theorem oneNode_pictures_agree :
    SamePicture pve2Agent.nodeName
      (afterAgent emptyStore 0 pve2Agent nothingElse (pve2Server oneNode plainVM bridged))
      (afterPoller emptyStore 0 pve2Agent nothingElse
        (pve2Server oneNode plainVM bridged)) := by
  refine (samePicture_iff emptyStore 0 pve2Agent oneNodeContent nothingElse).mpr
    ⟨rfl, ?_, ?_, ?_, ?_⟩
  · intro row listed
    have same : row = plainVM := List.mem_singleton.mp listed
    rw [same]
    rfl
  · intro row listed
    cases listed
  · intro row listed
    refine Or.inl ?_
    intro key value member named
    have entry : (key, Json.str value) = ("net0", _) := List.mem_singleton.mp member
    cases entry
    exact Or.inl (by decide)
  · intro row listed
    cases listed

end Example

end NodePicture
