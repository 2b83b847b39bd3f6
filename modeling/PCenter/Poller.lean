import PCenter.State

/-!
# One poll of a node

`ClusterPoller.fetchNode` of `internal/poller/poller.go`. Eight requests run side by
side and may fail independently; a failed list request leaves a nil slice. The answers
are an argument here, so that every pattern of failures is covered; how the API client
decodes them is the subject of `PveClient`.

Only a failed node status stops the cycle. The two lists and the storage are merged
whether or not their requests succeeded, so a failed list is merged like an empty one.
-/

namespace Poller

open FiniteMap State

/-- The answers to the requests of one cycle. -/
structure NodeFetch where
  node : Except String Pve.Node
  nodeDetails : Except String (Option Pve.NodeStatus)
  vmStats : Except String (Option Pve.VmStats)
  vms : Except String (List Pve.VM)
  containers : Except String (List Pve.Container)
  storage : Except String (List Pve.Storage)
  ceph : Except String Pve.CephStatus
  netIfaces : Except String (List Pve.NetworkInterface)

variable {A : Type}

/-- What the variable of a list request holds when the request is over. -/
def orNil : Except String (List A) → List A
  | .ok items => items
  | .error _ => []

def Failed (answer : Except String A) : Prop := ∃ err, answer = .error err

theorem orNil_of_failed {answer : Except String (List A)} (failed : Failed answer) :
    orNil answer = [] := by
  obtain ⟨err, rfl⟩ := failed
  rfl

theorem ok_of_not_failed {answer : Except String A} (succeeded : ¬ Failed answer) :
    ∃ a, answer = .ok a := by
  cases answer with
  | ok a => exact ⟨a, rfl⟩
  | error err => exact absurd ⟨err, rfl⟩ succeeded

def storeInterfaces (nodeName : String) (answer : Except String (List Pve.NetworkInterface))
    (cs : ClusterStore) : ClusterStore :=
  match answer with
  | .ok ifaces => cs.updateNetworkInterfaces nodeName ifaces
  | .error _ => cs

def storeDetails (nodeName : String) (answer : Except String (Option Pve.NodeStatus))
    (cs : ClusterStore) : ClusterStore :=
  match answer with
  | .ok (some details) => cs.setNodeDetails nodeName details
  | _ => cs

def storeVmStats (nodeName : String) (answer : Except String (Option Pve.VmStats))
    (cs : ClusterStore) : ClusterStore :=
  match answer with
  | .ok (some stats) => cs.setVmStats nodeName stats
  | _ => cs

def fetchNode (cs : ClusterStore) (now : Int) (nodeName : String) (f : NodeFetch) :
    ClusterStore :=
  match f.node with
  | .error err => cs.setNodeError now nodeName err
  | .ok node =>
      let cs := cs.updateNode now nodeName node (orNil f.vms) (orNil f.containers)
        (orNil f.storage) f.ceph.toOption
      let cs := storeInterfaces nodeName f.netIfaces cs
      let cs := storeDetails nodeName f.nodeDetails cs
      storeVmStats nodeName f.vmStats cs

section Parts

variable (nodeName : String) (cs : ClusterStore)

/-- The three guarded updates reach neither the guests nor the storage nor the nodes. -/
theorem storeInterfaces_frame (answer : Except String (List Pve.NetworkInterface)) :
    (storeInterfaces nodeName answer cs).vms = cs.vms ∧
      (storeInterfaces nodeName answer cs).containers = cs.containers ∧
      (storeInterfaces nodeName answer cs).storage = cs.storage ∧
      (storeInterfaces nodeName answer cs).nodes = cs.nodes := by
  cases answer with
  | ok ifaces => exact ⟨rfl, rfl, rfl, rfl⟩
  | error err => exact ⟨rfl, rfl, rfl, rfl⟩

theorem storeDetails_frame (answer : Except String (Option Pve.NodeStatus)) :
    (storeDetails nodeName answer cs).vms = cs.vms ∧
      (storeDetails nodeName answer cs).containers = cs.containers ∧
      (storeDetails nodeName answer cs).storage = cs.storage ∧
      (storeDetails nodeName answer cs).nodes = cs.nodes := by
  rcases answer with err | (_ | details)
  · exact ⟨rfl, rfl, rfl, rfl⟩
  · exact ⟨rfl, rfl, rfl, rfl⟩
  · exact ⟨rfl, rfl, rfl, rfl⟩

theorem storeVmStats_frame (answer : Except String (Option Pve.VmStats)) :
    (storeVmStats nodeName answer cs).vms = cs.vms ∧
      (storeVmStats nodeName answer cs).containers = cs.containers ∧
      (storeVmStats nodeName answer cs).storage = cs.storage ∧
      (storeVmStats nodeName answer cs).nodes = cs.nodes := by
  rcases answer with err | (_ | stats)
  · exact ⟨rfl, rfl, rfl, rfl⟩
  · exact ⟨rfl, rfl, rfl, rfl⟩
  · exact ⟨rfl, rfl, rfl, rfl⟩

end Parts

section Cycle

variable {f : NodeFetch} {node : Pve.Node}

/-- What one cycle does to the guests, the storage and the nodes. -/
theorem fetchNode_effect (cs : ClusterStore) (now : Int) (nodeName : String)
    (answered : f.node = .ok node) :
    (fetchNode cs now nodeName f).vms =
        report Pve.VM.vmid (mergeVM cs.name) (·.node == nodeName) (orNil f.vms) cs.vms ∧
      (fetchNode cs now nodeName f).containers =
        report Pve.Container.vmid (mergeContainer cs.name) (·.node == nodeName)
          (orNil f.containers) cs.containers ∧
      (fetchNode cs now nodeName f).storage =
        cs.storage.insert nodeName
          ((orNil f.storage).map (fun entry => { entry with cluster := cs.name })) ∧
      (fetchNode cs now nodeName f).nodes =
        cs.nodes.insert nodeName { node with cluster := cs.name } := by
  let merged := cs.updateNode now nodeName node (orNil f.vms) (orNil f.containers)
    (orNil f.storage) f.ceph.toOption
  let networked := storeInterfaces nodeName f.netIfaces merged
  let detailed := storeDetails nodeName f.nodeDetails networked
  have whole : fetchNode cs now nodeName f = storeVmStats nodeName f.vmStats detailed := by
    unfold fetchNode
    rw [answered]
  obtain ⟨vms₁, cts₁, storage₁, nodes₁⟩ := storeVmStats_frame nodeName detailed f.vmStats
  obtain ⟨vms₂, cts₂, storage₂, nodes₂⟩ := storeDetails_frame nodeName networked f.nodeDetails
  obtain ⟨vms₃, cts₃, storage₃, nodes₃⟩ := storeInterfaces_frame nodeName merged f.netIfaces
  rw [whole]
  exact ⟨vms₁.trans (vms₂.trans vms₃), cts₁.trans (cts₂.trans cts₃),
    storage₁.trans (storage₂.trans storage₃), nodes₁.trans (nodes₂.trans nodes₃)⟩

/-- A failed node status leaves the whole picture of the cluster alone. -/
theorem fetchNode_node_failed (cs : ClusterStore) (now : Int) (nodeName : String)
    (failed : Failed f.node) :
    (fetchNode cs now nodeName f).vms = cs.vms ∧
      (fetchNode cs now nodeName f).containers = cs.containers ∧
      (fetchNode cs now nodeName f).storage = cs.storage ∧
      (fetchNode cs now nodeName f).nodes = cs.nodes := by
  obtain ⟨err, shape⟩ := failed
  unfold fetchNode
  rw [shape]
  exact ⟨rfl, rfl, rfl, rfl⟩

end Cycle

section FailedRequests

/-- A failed request changes nothing that it was about, and a guest is lost only when
a successful list for its node omits it. -/
structure CacheIntact (nodeName : String) (f : NodeFetch) (cs cs' : ClusterStore) :
    Prop where
  vms : Failed f.vms → ∀ vmid, cs'.vmsOn nodeName vmid = cs.vmsOn nodeName vmid
  containers : Failed f.containers →
    ∀ vmid, cs'.containersOn nodeName vmid = cs.containersOn nodeName vmid
  storage : Failed f.storage → cs'.storageOn nodeName = cs.storageOn nodeName
  lostVM : ∀ vmid vm, cs.getVM vmid = some vm → cs'.getVM vmid = none →
    ∃ listed, f.vms = .ok listed ∧ vm.node = nodeName ∧ ∀ v ∈ listed, v.vmid ≠ vmid
  lostContainer : ∀ vmid ct, cs.getContainer vmid = some ct →
    cs'.getContainer vmid = none →
    ∃ listed, f.containers = .ok listed ∧ ct.node = nodeName ∧
      ∀ c ∈ listed, c.vmid ≠ vmid

/-- Each failed request was about something of which the store records nothing. -/
structure NothingAtStake (nodeName : String) (f : NodeFetch) (cs : ClusterStore) :
    Prop where
  vms : Failed f.vms → ∀ vmid, cs.vmsOn nodeName vmid = none
  containers : Failed f.containers → ∀ vmid, cs.containersOn nodeName vmid = none
  storage : Failed f.storage → cs.storageOn nodeName = []

variable {f : NodeFetch} {node : Pve.Node} (cs : ClusterStore) (now : Int)
  (nodeName : String)

theorem fetchNode_vmsOn_of_failed (answered : f.node = .ok node) (failed : Failed f.vms)
    (vmid : Int64) : (fetchNode cs now nodeName f).vmsOn nodeName vmid = none := by
  unfold ClusterStore.vmsOn
  rw [(fetchNode_effect cs now nodeName answered).1, orNil_of_failed failed]
  exact held_report_nil cs.vms vmid

theorem fetchNode_containersOn_of_failed (answered : f.node = .ok node)
    (failed : Failed f.containers) (vmid : Int64) :
    (fetchNode cs now nodeName f).containersOn nodeName vmid = none := by
  unfold ClusterStore.containersOn
  rw [(fetchNode_effect cs now nodeName answered).2.1, orNil_of_failed failed]
  exact held_report_nil cs.containers vmid

theorem fetchNode_storageOn (answered : f.node = .ok node) :
    (fetchNode cs now nodeName f).storageOn nodeName =
      (orNil f.storage).map (fun entry => { entry with cluster := cs.name }) := by
  unfold ClusterStore.storageOn
  rw [(fetchNode_effect cs now nodeName answered).2.2.1, AList.lookup_insert]
  rfl

theorem fetchNode_lostVM (answered : f.node = .ok node) {vmid : Int64} {vm : Pve.VM}
    (before : cs.getVM vmid = some vm)
    (after : (fetchNode cs now nodeName f).getVM vmid = none) :
    vm.node = nodeName ∧ ∀ v ∈ orNil f.vms, v.vmid ≠ vmid := by
  unfold ClusterStore.getVM at before after
  rw [(fetchNode_effect cs now nodeName answered).1] at after
  obtain ⟨owned, omitted⟩ := report_lost before after
  exact ⟨by simpa using owned, omitted⟩

theorem fetchNode_lostContainer (answered : f.node = .ok node) {vmid : Int64}
    {ct : Pve.Container} (before : cs.getContainer vmid = some ct)
    (after : (fetchNode cs now nodeName f).getContainer vmid = none) :
    ct.node = nodeName ∧ ∀ c ∈ orNil f.containers, c.vmid ≠ vmid := by
  unfold ClusterStore.getContainer at before after
  rw [(fetchNode_effect cs now nodeName answered).2.1] at after
  obtain ⟨owned, omitted⟩ := report_lost before after
  exact ⟨by simpa using owned, omitted⟩

/-- A cycle leaves the cache intact exactly when nothing is at stake: whatever a failed
list was about is dropped. -/
theorem fetchNode_intact_iff (answered : f.node = .ok node) :
    CacheIntact nodeName f cs (fetchNode cs now nodeName f) ↔
      NothingAtStake nodeName f cs := by
  constructor
  · intro intact
    refine ⟨fun failed vmid => ?_, fun failed vmid => ?_, fun failed => ?_⟩
    · rw [← intact.vms failed vmid]
      exact fetchNode_vmsOn_of_failed cs now nodeName answered failed vmid
    · rw [← intact.containers failed vmid]
      exact fetchNode_containersOn_of_failed cs now nodeName answered failed vmid
    · rw [← intact.storage failed, fetchNode_storageOn cs now nodeName answered,
        orNil_of_failed failed]
      rfl
  · intro nothing
    refine ⟨fun failed vmid => ?_, fun failed vmid => ?_, fun failed => ?_, ?_, ?_⟩
    · rw [nothing.vms failed vmid]
      exact fetchNode_vmsOn_of_failed cs now nodeName answered failed vmid
    · rw [nothing.containers failed vmid]
      exact fetchNode_containersOn_of_failed cs now nodeName answered failed vmid
    · rw [nothing.storage failed, fetchNode_storageOn cs now nodeName answered,
        orNil_of_failed failed]
      rfl
    · intro vmid vm before after
      obtain ⟨owned, omitted⟩ := fetchNode_lostVM cs now nodeName answered before after
      have succeeded : ¬ Failed f.vms := by
        intro failed
        have kept := held_eq_none_iff.mp (nothing.vms failed vmid) vm before
        simp [owned] at kept
      obtain ⟨listed, shape⟩ := ok_of_not_failed succeeded
      rw [shape] at omitted
      exact ⟨listed, shape, owned, omitted⟩
    · intro vmid ct before after
      obtain ⟨owned, omitted⟩ := fetchNode_lostContainer cs now nodeName answered before after
      have succeeded : ¬ Failed f.containers := by
        intro failed
        have kept := held_eq_none_iff.mp (nothing.containers failed vmid) ct before
        simp [owned] at kept
      obtain ⟨listed, shape⟩ := ok_of_not_failed succeeded
      rw [shape] at omitted
      exact ⟨listed, shape, owned, omitted⟩

/-- A running VM on `pve1`. -/
def webServer : Pve.VM :=
  { (default : Pve.VM) with vmid := 100, name := "web", node := "pve1", status := "running" }

def oneGuestStore : ClusterStore :=
  { ClusterStore.new "home" with vms := (∅ : Map Int64 Pve.VM).insert 100 webServer }

/-- A cycle on `pve1` in which the VM list times out and everything else is answered. -/
def vmListFails : NodeFetch where
  node := .ok { (default : Pve.Node) with node := "pve1", status := "online" }
  nodeDetails := .ok none
  vmStats := .ok none
  vms := .error "do request: context deadline exceeded"
  containers := .ok []
  storage := .ok []
  ceph := .error "API error 500"
  netIfaces := .ok []

/-- One timed-out VM list removes the running guest from the store. -/
theorem vmListFails_drops_guest :
    oneGuestStore.getVM 100 = some webServer ∧
      (fetchNode oneGuestStore 0 "pve1" vmListFails).getVM 100 = none ∧
      ¬ CacheIntact "pve1" vmListFails oneGuestStore
        (fetchNode oneGuestStore 0 "pve1" vmListFails) := by
  have recorded : oneGuestStore.vmsOn "pve1" 100 = some webServer := by decide
  have gone : (fetchNode oneGuestStore 0 "pve1" vmListFails).vmsOn "pve1" 100 = none := by
    decide
  refine ⟨by decide, by decide, fun intact => ?_⟩
  have kept := intact.vms ⟨_, rfl⟩ 100
  rw [recorded, gone] at kept
  simp at kept

/-- The guest has been moved to `pve2`. -/
def movedGuestStore : ClusterStore :=
  { ClusterStore.new "home" with
    vms := (∅ : Map Int64 Pve.VM).insert 100 { webServer with node := "pve2" } }

/-- To a guest of another node the same failure is harmless. -/
theorem vmListFails_harmless :
    CacheIntact "pve1" vmListFails movedGuestStore
      (fetchNode movedGuestStore 0 "pve1" vmListFails) := by
  have elsewhere : ∀ vmid, movedGuestStore.vmsOn "pve1" vmid = none := by
    intro vmid
    refine held_eq_none_iff.mpr fun vm found => ?_
    have entry : ((∅ : Map Int64 Pve.VM).insert 100 { webServer with node := "pve2" }).lookup
        vmid = some vm := found
    rw [lookup_insert_eq] at entry
    split at entry
    · obtain rfl := Option.some.inj entry
      rfl
    · exact nomatch entry
  exact (fetchNode_intact_iff movedGuestStore 0 "pve1" rfl).mpr
    ⟨fun _ => elsewhere, fun _ _ => rfl, fun _ => rfl⟩

end FailedRequests

end Poller
