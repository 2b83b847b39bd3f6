import PCenter.Evacuation
import PCenter.Lib.MapOrder

/-!
# What is announced before maintenance

The preflight request looks for a node that can take the guests, asks the node's host about
Ceph and the quorum device, and lists the guests that will be moved. Entering maintenance is
another request: the evacuation looks for the target and the guests by itself. Each of them
loops over the maps of clients and guests in an order of its own.
-/

namespace Maintenance

open FiniteMap GoText Program GuestTasks Handlers Auth

structure MaintenancePreflightCheck where
  name : String
  status : String
  message : String
  blocking : Bool
  deriving DecidableEq, Repr

structure GuestToMove where
  vmid : Int64
  name : String
  gt : GuestType
  status : String
  targetNode : String
  isCritical : Bool
  reason : String
  deriving DecidableEq, Repr

structure MaintenancePreflight where
  node : String
  canEnter : Bool
  checks : List MaintenancePreflightCheck
  guestsToMove : List GuestToMove
  criticalGuests : List GuestToMove
  deriving DecidableEq, Repr

namespace MaintenancePreflight

variable (preflight : MaintenancePreflight)

def check (name status message : String) : MaintenancePreflight :=
  { preflight with checks := preflight.checks ++ [⟨name, status, message, false⟩] }

def block (name message : String) : MaintenancePreflight :=
  { preflight with
    checks := preflight.checks ++ [⟨name, "error", message, true⟩]
    canEnter := false }

end MaintenancePreflight

/-- The host of the node's client, and what commands on that host answer. -/
structure Probes where
  host : String
  cephHealth : Except String String
  qdevice : Except String String
  cephOsdSetNoout : Except String Unit

def Probes.setCephNoout (probes : Probes) : Except String Unit :=
  if probes.host = "" then .error "could not determine node host" else probes.cephOsdSetNoout

/-- The first other node; a node without a name counts as none. -/
def otherNode (node : String) (allNodes : List String) : String :=
  (allNodes.find? (· ≠ node)).getD ""

def checkCeph (probes : Probes) (preflight : MaintenancePreflight) : MaintenancePreflight :=
  match probes.cephHealth with
  | .error _ => preflight
  | .ok cephOutput =>
      if includes "CEPH_NOT_AVAILABLE" cephOutput then preflight
      else
        let cephHealth := trimSpace cephOutput
        if cephHealth = "HEALTH_OK" then
          preflight.check "Ceph Health" "ok" "Ceph cluster is healthy"
        else if includes "HEALTH_WARN" cephHealth then
          preflight.check "Ceph Health" "warning" ("Ceph has warnings: " ++ cephHealth)
        else preflight.block "Ceph Health" ("Ceph is unhealthy: " ++ cephHealth)

def checkQDevice (probes : Probes) (preflight : MaintenancePreflight) : MaintenancePreflight :=
  match probes.qdevice with
  | .error _ => preflight
  | .ok qdeviceOutput =>
      if includes "NO_QDEVICE" qdeviceOutput then preflight
      else if includes "Connected" qdeviceOutput then
        preflight.check "QDevice Connected" "ok"
          "Cluster qdevice is connected and will maintain quorum"
      else
        preflight.block "QDevice Connected"
          "QDevice is not connected - maintenance would break quorum"

/-- `GetMaintenancePreflight` of the client. -/
def clientPreflight (probes : Probes) (targetNode : String) (allNodes : List String) :
    Except String MaintenancePreflight :=
  if probes.host = "" then .error "could not determine node host"
  else
    let preflight : MaintenancePreflight := ⟨targetNode, true, [], [], []⟩
    let other := otherNode targetNode allNodes
    if other = "" then
      .ok (preflight.block "Target Node Available" "No other node available for migration")
    else
      let preflight :=
        preflight.check "Target Node Available" "ok" ("Guests will migrate to " ++ other)
      .ok ((checkQDevice probes (checkCeph probes preflight)).check "Ceph OSD Flags" "warning"
        "Will set 'noout' flag to prevent OSD rebalancing during maintenance")

/-- Whether a VM is announced as critical. -/
def isQDevice (name : String) : Bool :=
  isCritical name || includes "qdevice" (toLower name)

def vmToMove (targetNode : String) (vm : Guest) : GuestToMove :=
  if isQDevice vm.name then
    ⟨vm.vmid, vm.name, .vm, vm.status, targetNode, true,
      "QDevice/Ceph Monitor - must migrate first"⟩
  else ⟨vm.vmid, vm.name, .vm, vm.status, targetNode, false, ""⟩

def containerToMove (targetNode : String) (ct : Guest) : GuestToMove :=
  ⟨ct.vmid, ct.name, .ct, ct.status, targetNode, false, ""⟩

def vmsOn (cs : State.ClusterStore) (node : String) : List Guest :=
  ((values cs.vms).map ofVM).filter (·.node = node)

def containersOn (cs : State.ClusterStore) (node : String) : List Guest :=
  ((values cs.containers).map ofContainer).filter (·.node = node)

def MaintenancePreflight.listGuests (preflight : MaintenancePreflight) (cs : State.ClusterStore)
    (node targetNode : String) : MaintenancePreflight :=
  let vms := (vmsOn cs node).map (vmToMove targetNode)
  let containers := (containersOn cs node).map (containerToMove targetNode)
  { preflight with
    guestsToMove := preflight.guestsToMove ++ (vms ++ containers)
    criticalGuests := preflight.criticalGuests ++ vms.filter (·.isCritical) }

def MaintenancePreflight.countGuests (preflight : MaintenancePreflight) : MaintenancePreflight :=
  let preflight :=
    if preflight.guestsToMove.length > 0 then
      preflight.check "Guests to Migrate" "warning"
        (toString preflight.guestsToMove.length ++ " guests will be migrated")
    else preflight
  if preflight.criticalGuests.length > 0 then
    preflight.check "Critical Guests" "warning"
      (toString preflight.criticalGuests.length ++
        " critical guests (qdevice) will be migrated first")
  else preflight

/-- What both requests find: the poller, the cluster's store and the host of the node. -/
structure Situation where
  poller : Poller
  store : Option State.ClusterStore
  probes : Probes

/-- The orders in which a request meets the entries of the maps. -/
structure Orders where
  clients : Order String
  vms : Order (Sigma fun _ : Int64 => Pve.VM)
  containers : Order (Sigma fun _ : Int64 => Pve.Container)

def Orders.store (o : Orders) (cs : State.ClusterStore) : State.ClusterStore :=
  { cs with vms := arranged o.vms cs.vms, containers := arranged o.containers cs.containers }

section Requests

variable (cluster node : String) (sit : Situation)

/-- `GetMaintenancePreflight` of the handler. -/
def getMaintenancePreflight (o : Orders) : Except Refusal MaintenancePreflight := do
  let clients ← nodeClients cluster node sit.poller
  let allNodes := o.clients.arrange clients
  let preflight ← (clientPreflight sit.probes node allNodes).mapError fun err => ⟨500, err⟩
  match sit.store with
  | none => .ok preflight.countGuests
  | some cs =>
      .ok (preflight.listGuests (o.store cs) node (otherNode node allNodes)).countGuests

/-- What a request to enter maintenance gets from the outside. -/
def Situation.outside : Outside := ⟨sit.probes.setCephNoout, sit.store, .error ""⟩

end Requests

section Announced

variable {probes : Probes} {preflight : MaintenancePreflight} {node : String}

/-- Ceph is there and neither healthy nor warns. -/
def CephBlocks (probes : Probes) : Prop :=
  ∃ out, probes.cephHealth = .ok out ∧ includes "CEPH_NOT_AVAILABLE" out = false ∧
    trimSpace out ≠ "HEALTH_OK" ∧ includes "HEALTH_WARN" (trimSpace out) = false

/-- There is a quorum device, and it is not connected. -/
def QDeviceBlocks (probes : Probes) : Prop :=
  ∃ out, probes.qdevice = .ok out ∧ includes "NO_QDEVICE" out = false ∧
    includes "Connected" out = false

theorem canEnter_checkCeph :
    (checkCeph probes preflight).canEnter = true ↔
      preflight.canEnter = true ∧ ¬CephBlocks probes := by
  rw [checkCeph, CephBlocks]
  cases probes.cephHealth with
  | error err => simp
  | ok out =>
      simp only
      split_ifs with missing healthy warns
      · simp [missing]
      · simp [MaintenancePreflight.check, healthy]
      · simp [MaintenancePreflight.check, warns]
      · simp [MaintenancePreflight.block, missing, healthy, warns]

theorem canEnter_checkQDevice :
    (checkQDevice probes preflight).canEnter = true ↔
      preflight.canEnter = true ∧ ¬QDeviceBlocks probes := by
  rw [checkQDevice, QDeviceBlocks]
  cases probes.qdevice with
  | error err => simp
  | ok out =>
      simp only
      split_ifs with missing connected
      · simp [missing]
      · simp [MaintenancePreflight.check, connected]
      · simp [MaintenancePreflight.block, missing, connected]

/-- The node may be entered as long as no check blocks. -/
def MaintenancePreflight.Sound (preflight : MaintenancePreflight) : Prop :=
  preflight.canEnter = true ↔ ∀ check ∈ preflight.checks, check.blocking = false

theorem sound_check (sound : preflight.Sound) (name status message : String) :
    (preflight.check name status message).Sound := by
  constructor
  · intro enters check member
    rcases List.mem_append.mp member with old | new
    · exact sound.mp enters check old
    · rw [List.mem_singleton.mp new]
  · intro free
    apply sound.mpr
    intro check member
    exact free check (List.mem_append_left _ member)

theorem sound_block (name message : String) : (preflight.block name message).Sound := by
  constructor
  · intro enters
    exact nomatch enters
  · intro free
    have blocks := free ⟨name, "error", message, true⟩ (List.mem_append_right _ (by simp))
    exact nomatch blocks

theorem sound_checkCeph (sound : preflight.Sound) : (checkCeph probes preflight).Sound := by
  rw [checkCeph]
  cases probes.cephHealth with
  | error err => exact sound
  | ok out =>
      simp only
      split_ifs
      · exact sound
      · exact sound_check sound _ _ _
      · exact sound_check sound _ _ _
      · exact sound_block _ _

theorem sound_checkQDevice (sound : preflight.Sound) : (checkQDevice probes preflight).Sound := by
  rw [checkQDevice]
  cases probes.qdevice with
  | error err => exact sound
  | ok out =>
      simp only
      split_ifs
      · exact sound
      · exact sound_check sound _ _ _
      · exact sound_block _ _

theorem sound_countGuests (sound : preflight.Sound) : preflight.countGuests.Sound := by
  rw [MaintenancePreflight.countGuests]
  split_ifs
  · exact sound_check (sound_check sound _ _ _) _ _ _
  · exact sound_check sound _ _ _
  · exact sound_check sound _ _ _
  · exact sound

theorem sound_clientPreflight {allNodes : List String}
    (answered : clientPreflight probes node allNodes = .ok preflight) : preflight.Sound := by
  rw [clientPreflight] at answered
  split_ifs at answered with unknown
  simp only at answered
  have empty : (MaintenancePreflight.mk node true [] [] []).Sound := by
    simp [MaintenancePreflight.Sound]
  split_ifs at answered with none_
  · rw [← Except.ok.inj answered]
    exact sound_block _ _
  · rw [← Except.ok.inj answered]
    exact sound_check (sound_checkQDevice (sound_checkCeph (sound_check empty _ _ _))) _ _ _

/-- The node of the client may be entered. -/
theorem canEnter_clientPreflight {allNodes : List String}
    (answered : clientPreflight probes node allNodes = .ok preflight) :
    preflight.canEnter = true ↔
      otherNode node allNodes ≠ "" ∧ ¬CephBlocks probes ∧ ¬QDeviceBlocks probes := by
  rw [clientPreflight] at answered
  split_ifs at answered with unknown
  simp only at answered
  split_ifs at answered with none_
  · rw [← Except.ok.inj answered]
    simp [MaintenancePreflight.block, none_]
  · rw [← Except.ok.inj answered]
    simp only [MaintenancePreflight.check]
    rw [canEnter_checkQDevice, canEnter_checkCeph]
    simp [none_]

theorem guests_checkCeph : (checkCeph probes preflight).guestsToMove = preflight.guestsToMove ∧
    (checkCeph probes preflight).criticalGuests = preflight.criticalGuests := by
  rw [checkCeph]
  cases probes.cephHealth with
  | error err => exact ⟨rfl, rfl⟩
  | ok out =>
      simp only
      split_ifs
      all_goals exact ⟨rfl, rfl⟩

theorem guests_checkQDevice :
    (checkQDevice probes preflight).guestsToMove = preflight.guestsToMove ∧
      (checkQDevice probes preflight).criticalGuests = preflight.criticalGuests := by
  rw [checkQDevice]
  cases probes.qdevice with
  | error err => exact ⟨rfl, rfl⟩
  | ok out =>
      simp only
      split_ifs
      all_goals exact ⟨rfl, rfl⟩

theorem guests_clientPreflight {allNodes : List String}
    (answered : clientPreflight probes node allNodes = .ok preflight) :
    preflight.guestsToMove = [] ∧ preflight.criticalGuests = [] := by
  rw [clientPreflight] at answered
  split_ifs at answered with unknown
  simp only at answered
  split_ifs at answered with none_
  · rw [← Except.ok.inj answered]
    exact ⟨rfl, rfl⟩
  · rw [← Except.ok.inj answered]
    simp only [MaintenancePreflight.check]
    rw [guests_checkQDevice.1, guests_checkQDevice.2, guests_checkCeph.1, guests_checkCeph.2]
    exact ⟨rfl, rfl⟩

@[simp] theorem canEnter_countGuests :
    preflight.countGuests.canEnter = preflight.canEnter := by
  rw [MaintenancePreflight.countGuests]
  split_ifs
  all_goals rfl

@[simp] theorem guestsToMove_countGuests :
    preflight.countGuests.guestsToMove = preflight.guestsToMove := by
  rw [MaintenancePreflight.countGuests]
  split_ifs
  all_goals rfl

@[simp] theorem criticalGuests_countGuests :
    preflight.countGuests.criticalGuests = preflight.criticalGuests := by
  rw [MaintenancePreflight.countGuests]
  split_ifs
  all_goals rfl

variable {cluster : String} {sit : Situation} {o : Orders} {clients : List String}

/-- What a preflight request answers. -/
inductive Answers (node : String) (sit : Situation) (o : Orders) (clients : List String)
    (preflight : MaintenancePreflight) : Prop where
  | unknown (missing : sit.store = none) (guests : preflight.guestsToMove = [])
      (critical : preflight.criticalGuests = [])
  | known (cs : State.ClusterStore) (stored : sit.store = some cs)
      (guests : preflight.guestsToMove =
        (vmsOn (o.store cs) node).map (vmToMove (otherNode node (o.clients.arrange clients))) ++
          (containersOn (o.store cs) node).map
            (containerToMove (otherNode node (o.clients.arrange clients))))
      (critical : preflight.criticalGuests =
        ((vmsOn (o.store cs) node).map
          (vmToMove (otherNode node (o.clients.arrange clients)))).filter (·.isCritical))

theorem getMaintenancePreflight_answers (known : nodeClients cluster node sit.poller = .ok clients)
    (reached : sit.probes.host ≠ "") (o : Orders) :
    ∃ preflight, getMaintenancePreflight cluster node sit o = .ok preflight ∧ preflight.Sound ∧
      (preflight.canEnter = true ↔ otherNode node (o.clients.arrange clients) ≠ "" ∧
        ¬CephBlocks sit.probes ∧ ¬QDeviceBlocks sit.probes) ∧
      Answers node sit o clients preflight := by
  obtain ⟨preflight, answered⟩ : ∃ preflight,
      clientPreflight sit.probes node (o.clients.arrange clients) = .ok preflight := by
    rw [clientPreflight, if_neg reached]
    simp only
    split_ifs
    all_goals exact ⟨_, rfl⟩
  obtain ⟨guests, critical⟩ := guests_clientPreflight answered
  have sound := sound_clientPreflight answered
  have enters := canEnter_clientPreflight answered
  rw [getMaintenancePreflight, known]
  simp only [bind, Except.bind, answered, Except.mapError]
  cases stored : sit.store with
  | none =>
      refine ⟨_, rfl, sound_countGuests sound, by simpa using enters, ?_⟩
      exact .unknown stored (by simpa using guests) (by simpa using critical)
  | some cs =>
      refine ⟨_, rfl, sound_countGuests sound, ?_, ?_⟩
      · simpa [MaintenancePreflight.listGuests] using enters
      · apply Answers.known cs stored
        · simp [MaintenancePreflight.listGuests, guests]
        · simp [MaintenancePreflight.listGuests, critical]

end Announced

end Maintenance
