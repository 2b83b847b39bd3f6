import PCenter.AgentHub

/-!
# Reports of all nodes

The agents of a cluster report one node each, and `UpdateNode` merges a report into the maps that
all of them share. A guest is kept under its VMID, whatever node it is on: the report of the node
that it has left must not take it away, and the report of its node finds what an earlier one has
left.
-/

namespace NodeReports

open FiniteMap State

/-- The arguments of `UpdateNode`, but for the name of the node. -/
structure Report where
  now : Int
  node : Pve.Node
  vms : List Pve.VM
  containers : List Pve.Container
  storage : List Pve.Storage
  ceph : Option Pve.CephStatus

abbrev Snapshot := String → Report

def updateNode (cs : ClusterStore) (n : String) (r : Report) : ClusterStore :=
  cs.updateNode r.now n r.node r.vms r.containers r.storage r.ceph

/-- The reports of the nodes, in the given order. -/
def updateAll (snapshot : Snapshot) (order : List String) (cs : ClusterStore) : ClusterStore :=
  order.foldl (fun cs n => updateNode cs n (snapshot n)) cs

def allVMs (snapshot : Snapshot) (N : List String) : List Pve.VM :=
  N.flatMap fun n => (snapshot n).vms

def allContainers (snapshot : Snapshot) (N : List String) : List Pve.Container :=
  N.flatMap fun n => (snapshot n).containers

/-- Every guest is on one node, and says so. -/
structure Consistent (snapshot : Snapshot) (N : List String) : Prop where
  distinct : N.Nodup
  vmsPlaced : ∀ n ∈ N, ∀ vm ∈ (snapshot n).vms, vm.node = n
  vmsOnce : ((allVMs snapshot N).map Pve.VM.vmid).Nodup
  containersPlaced : ∀ n ∈ N, ∀ ct ∈ (snapshot n).containers, ct.node = n
  containersOnce : ((allContainers snapshot N).map Pve.Container.vmid).Nodup

/-- What the store records lies on the nodes. -/
structure Inside (cs : ClusterStore) (N : List String) : Prop where
  vms : ∀ k vm, cs.vms.lookup k = some vm → vm.node ∈ N
  containers : ∀ k ct, cs.containers.lookup k = some ct → ct.node ∈ N
  storage : ∀ n entries, cs.storage.lookup n = some entries → n ∈ N

/-- The store holds the snapshot and nothing else: each guest as it was reported, with the NICs
that were recorded for its VMID when it was reported without. -/
structure IsSnapshot (snapshot : Snapshot) (N : List String) (cs t : ClusterStore) : Prop where
  vms : ∀ k, t.vms.lookup k =
    ((allVMs snapshot N).find? (·.vmid = k)).map (mergeVM cs.name (cs.vms.lookup k))
  containers : ∀ k, t.containers.lookup k =
    ((allContainers snapshot N).find? (·.vmid = k)).map
      (mergeContainer cs.name (cs.containers.lookup k))
  storage : ∀ n, t.storage.lookup n =
    if n ∈ N then some ((snapshot n).storage.map fun entry => { entry with cluster := cs.name })
    else none

/-- What is recorded for other nodes and is not part of the report stays. -/
structure Untouched (n : String) (r : Report) (cs t : ClusterStore) : Prop where
  vms : ∀ k vm, cs.vms.lookup k = some vm → vm.node ≠ n → (∀ w ∈ r.vms, w.vmid ≠ k) →
    t.vms.lookup k = some vm
  containers : ∀ k ct, cs.containers.lookup k = some ct → ct.node ≠ n →
    (∀ w ∈ r.containers, w.vmid ≠ k) → t.containers.lookup k = some ct
  storage : ∀ m, m ≠ n → t.storage.lookup m = cs.storage.lookup m
  nodes : ∀ m, m ≠ n → t.nodes.lookup m = cs.nodes.lookup m

/-- The reports of all nodes lead to the snapshot, in whatever order they come. -/
structure Converges (snapshot : Snapshot) (N : List String) (cs : ClusterStore) : Prop where
  union : ∀ order : List String, order.Perm N →
    IsSnapshot snapshot N cs (updateAll snapshot order cs)
  untouched : ∀ (s : ClusterStore) (n : String) (r : Report), Untouched n r s (updateNode s n r)

/-- No guest that is recorded with NICs on one node is reported without NICs by another. -/
def NICsStay (snapshot : Snapshot) (N : List String) (cs : ClusterStore) : Prop :=
  (∀ n ∈ N, ∀ vm ∈ (snapshot n).vms, vm.nics = [] →
    ∀ old ∈ cs.vms.lookup vm.vmid, old.node = n ∨ old.nics = []) ∧
  ∀ n ∈ N, ∀ ct ∈ (snapshot n).containers, ct.nics = [] →
    ∀ old ∈ cs.containers.lookup ct.vmid, old.node = n ∨ old.nics = []

instance decidableNICsStay (snapshot : Snapshot) (N : List String) (cs : ClusterStore) :
    Decidable (NICsStay snapshot N cs) :=
  inferInstanceAs (Decidable ((∀ n ∈ N, ∀ vm ∈ (snapshot n).vms, vm.nics = [] → _) ∧
    ∀ n ∈ N, ∀ ct ∈ (snapshot n).containers, ct.nics = [] → _))

section Messages

variable (cs : ClusterStore) (now : Int) (status : AgentWire.StatusData)

/-- The report that `handleStatus` makes of a message. -/
def ofStatus : Report where
  now := now
  node := AgentHub.convertNode status
  vms := (status.vms.getD []).map (AgentHub.convertVM status)
  containers := (status.containers.getD []).map (AgentHub.convertCT status)
  storage := status.storage.map (AgentHub.convertStorage status)
  ceph := status.ceph.map AgentHub.convertCeph

/-- A message does to guests and storage what its report does. -/
theorem storeStatus_eq_updateNode :
    (AgentHub.storeStatus cs now status).vms =
        (updateNode cs status.node (ofStatus now status)).vms ∧
      (AgentHub.storeStatus cs now status).containers =
        (updateNode cs status.node (ofStatus now status)).containers ∧
      (AgentHub.storeStatus cs now status).storage =
        (updateNode cs status.node (ofStatus now status)).storage := by
  obtain ⟨vms, containers, storage, -⟩ := AgentHub.storeStatus_effect cs now status
  exact ⟨vms, containers, storage⟩

end Messages

section Run

variable {snapshot : Snapshot} {cs : ClusterStore}

theorem updateAll_guests (snapshot : Snapshot) (order : List String) (cs : ClusterStore) :
    (updateAll snapshot order cs).vms =
        reportAll Pve.VM.vmid (mergeVM cs.name) (·.node) (fun n => (snapshot n).vms) order cs.vms ∧
      (updateAll snapshot order cs).containers =
        reportAll Pve.Container.vmid (mergeContainer cs.name) (·.node)
          (fun n => (snapshot n).containers) order cs.containers := by
  induction order generalizing cs with
  | nil => exact ⟨rfl, rfl⟩
  | cons n rest ih => exact ih (updateNode cs n (snapshot n))

/-- The storage of a node is what it reported last. -/
theorem updateAll_storage (order : List String) (m : String) :
    (updateAll snapshot order cs).storage.lookup m =
      if m ∈ order then
        some ((snapshot m).storage.map fun entry => { entry with cluster := cs.name })
      else cs.storage.lookup m := by
  induction order generalizing cs with
  | nil => rfl
  | cons n rest ih =>
      refine (@ih (updateNode cs n (snapshot n))).trans ?_
      have first : (updateNode cs n (snapshot n)).storage.lookup m =
          if m = n then
            some ((snapshot n).storage.map fun entry => { entry with cluster := cs.name })
          else cs.storage.lookup m := lookup_insert_eq _ _ _ _
      rw [first]
      by_cases later : m ∈ rest
      · rw [if_pos later, if_pos (List.mem_cons_of_mem _ later)]
        rfl
      · rw [if_neg later]
        by_cases here : m = n
        · subst here
          rw [if_pos rfl, if_pos List.mem_cons_self]
        · rw [if_neg here, if_neg (List.not_mem_cons_of_ne_of_not_mem here later)]

theorem untouched_updateNode (s : ClusterStore) (n : String) (r : Report) :
    Untouched n r s (updateNode s n r) := by
  constructor
  · intro k vm found other unlisted
    refine (lookup_report_of_unlisted s.vms unlisted).trans ?_
    simp [found, Option.filter, other]
  · intro k ct found other unlisted
    refine (lookup_report_of_unlisted s.containers unlisted).trans ?_
    simp [found, Option.filter, other]
  · intro m other
    exact (lookup_insert_eq _ _ _ _).trans (if_neg other)
  · intro m other
    exact (lookup_insert_eq _ _ _ _).trans (if_neg other)

/-- An earlier entry matters for the NICs alone. -/
theorem keepNICs_none_iff {old nics : List Pve.GuestNIC} :
    keepNICs none nics = keepNICs (some old) nics ↔ (nics = [] → old = []) := by
  rw [keepNICs_eq, keepNICs_eq]
  by_cases bare : nics = []
  · simp [bare, eq_comm]
  · simp [bare]

theorem mergeVM_none_iff {cluster : String} {old vm : Pve.VM} :
    mergeVM cluster none vm = mergeVM cluster (some old) vm ↔ (vm.nics = [] → old.nics = []) := by
  rw [← keepNICs_none_iff]
  simp [mergeVM]

theorem mergeContainer_none_iff {cluster : String} {old ct : Pve.Container} :
    mergeContainer cluster none ct = mergeContainer cluster (some old) ct ↔
      (ct.nics = [] → old.nics = []) := by
  rw [← keepNICs_none_iff]
  simp [mergeContainer]

end Run

variable {snapshot : Snapshot} {N : List String} {cs : ClusterStore}

/-- The reports of a consistent snapshot converge exactly when no guest comes to another node
without the NICs that were recorded for it. -/
theorem reports_converge_iff (consistent : Consistent snapshot N) (inside : Inside cs N) :
    Converges snapshot N cs ↔ NICsStay snapshot N cs := by
  have vms := @reportAll_eq_union_iff _ _ _ _ _ _ (mergeVM cs.name) _ _ _ _ consistent.distinct
    consistent.vmsPlaced (fun _ _ => rfl) consistent.vmsOnce inside.vms
  have containers := @reportAll_eq_union_iff _ _ _ _ _ _ (mergeContainer cs.name) _ _ _ _
    consistent.distinct consistent.containersPlaced (fun _ _ => rfl) consistent.containersOnce
    inside.containers
  constructor
  · intro converges
    constructor
    · intro n member vm listed bare old found
      refine (vms.mp ?_ n member vm listed old found).imp_right fun same => ?_
      · intro order perm k
        rw [← (updateAll_guests snapshot order cs).1]
        exact (converges.union order perm).vms k
      · exact mergeVM_none_iff.mp same bare
    · intro n member ct listed bare old found
      refine (containers.mp ?_ n member ct listed old found).imp_right fun same => ?_
      · intro order perm k
        rw [← (updateAll_guests snapshot order cs).2]
        exact (converges.union order perm).containers k
      · exact mergeContainer_none_iff.mp same bare
  · rintro ⟨vmsStay, containersStay⟩
    refine ⟨fun order perm => ⟨fun k => ?_, fun k => ?_, fun n => ?_⟩, untouched_updateNode⟩
    · rw [(updateAll_guests snapshot order cs).1]
      refine vms.mpr (fun n member vm listed old found => ?_) order perm k
      rw [mergeVM_none_iff]
      by_cases home : old.node = n
      · exact Or.inl home
      · exact Or.inr fun bare => (vmsStay n member vm listed bare old found).resolve_left home
    · rw [(updateAll_guests snapshot order cs).2]
      refine containers.mpr (fun n member ct listed old found => ?_) order perm k
      rw [mergeContainer_none_iff]
      by_cases home : old.node = n
      · exact Or.inl home
      · exact Or.inr fun bare =>
          (containersStay n member ct listed bare old found).resolve_left home
    · rw [updateAll_storage]
      by_cases member : n ∈ N
      · rw [if_pos member, if_pos (perm.mem_iff.mpr member)]
      · rw [if_neg member, if_neg fun listed => member (perm.mem_iff.mp listed)]
        cases stored : cs.storage.lookup n with
        | none => rfl
        | some entries => exact absurd (inside.storage n entries stored) member

/-- A report of guests that are on the node. -/
def ofVMs (n : String) (vms : List Pve.VM) : Report where
  now := 0
  node := { (default : Pve.Node) with node := n }
  vms := vms.map fun vm => { vm with node := n }
  containers := []
  storage := []
  ceph := none

def guest (vmid : Int64) (nics : List Pve.GuestNIC) : Pve.VM :=
  { (default : Pve.VM) with vmid := vmid, nics := nics }

def nic : Pve.GuestNIC := { (default : Pve.GuestNIC) with name := "net0", bridge := "vmbr0" }

/-- Both guests are on the first node. -/
def recorded : ClusterStore :=
  updateNode (ClusterStore.new "lab") "pve1" (ofVMs "pve1" [guest 100 [nic], guest 101 [nic]])

/-- The first guest is on the second node now. -/
def migrated (nics : List Pve.GuestNIC) : Snapshot := fun n =>
  if n = "pve2" then ofVMs n [guest 100 nics] else ofVMs n [guest 101 []]

theorem consistent_migrated (nics : List Pve.GuestNIC) :
    Consistent (migrated nics) ["pve1", "pve2"] where
  distinct := by decide
  vmsPlaced := by simp [migrated, ofVMs]
  vmsOnce := by simp [allVMs, migrated, ofVMs, guest]
  containersPlaced := by simp [migrated, ofVMs]
  containersOnce := by simp [allContainers, migrated, ofVMs]

theorem inside_recorded : Inside recorded ["pve1", "pve2"] where
  vms := by
    have all : ∀ entry ∈ recorded.vms.entries, entry.2.node ∈ ["pve1", "pve2"] := by decide +kernel
    exact fun k vm found => all ⟨k, vm⟩ (AList.mem_lookup_iff.mp found)
  containers := by
    have none_ : recorded.containers.entries = [] := by decide +kernel
    intro k ct found
    have member := AList.mem_lookup_iff.mp found
    rw [none_] at member
    cases member
  storage := by
    have all : ∀ entry ∈ recorded.storage.entries, entry.1 ∈ ["pve1", "pve2"] := by decide +kernel
    exact fun n entries found => all ⟨n, entries⟩ (AList.mem_lookup_iff.mp found)

theorem guest_with_nics_converges : Converges (migrated [nic]) ["pve1", "pve2"] recorded :=
  (reports_converge_iff (consistent_migrated [nic]) inside_recorded).mpr (by decide +kernel)

/-- The NICs of a guest that is reported without them depend on the order. -/
theorem nics_lost :
    ((updateAll (migrated []) ["pve1", "pve2"] recorded).vms.lookup 100).map (·.nics) = some [] ∧
      ((updateAll (migrated []) ["pve2", "pve1"] recorded).vms.lookup 100).map (·.nics) =
        some [nic] ∧
      ¬Converges (migrated []) ["pve1", "pve2"] recorded := by
  have first : ((updateAll (migrated []) ["pve1", "pve2"] recorded).vms.lookup 100).map (·.nics) =
      some [] := by decide +kernel
  have expected : (((allVMs (migrated []) ["pve1", "pve2"]).find? (·.vmid = 100)).map
      (mergeVM recorded.name (recorded.vms.lookup 100))).map (·.nics) = some [nic] := by
    decide +kernel
  refine ⟨first, by decide +kernel, fun converges => ?_⟩
  have union := (converges.union ["pve1", "pve2"] (.refl _)).vms 100
  rw [union, expected] at first
  cases first

end NodeReports
