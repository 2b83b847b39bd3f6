import PCenter.InventoryFiling
import PCenter.Rbac
import PCenter.State

/-!
# The objects above an object

`StateResolver`, which answers a permission check with the ancestors of an object: the node and
the cluster come from the state of the polled clusters, the datacenter from the inventory. An
object is a type with a bare name or VMID, and the first cluster that knows it answers, in
whatever order the map of the clusters is iterated.

The store and the inventory are both configured, as `main.go` does.
-/

namespace Rbac

open FiniteMap GoText

def objectDatacenter : String := "datacenter"

def objectCluster : String := "cluster"

def objectNode : String := "node"

def objectVM : String := "vm"

def objectCT : String := "ct"

def objectStorage : String := "storage"

/-- The node and the cluster that the entry of a guest names. -/
def locateGuest (cs : State.ClusterStore) (guestType : String) (vmid : Int64) :
    Option (String × String) :=
  if guestType = objectVM then (cs.getVM vmid).map fun vm => (vm.node, vm.cluster)
  else (cs.getContainer vmid).map fun ct => (ct.node, ct.cluster)

def hasNode (cs : State.ClusterStore) (nodeName : String) : Bool :=
  (values cs.nodes).any fun node => node.node = nodeName

def hasStorage (cs : State.ClusterStore) (storageID : String) : Bool :=
  (values cs.storage).any fun pools =>
    pools.any fun pool => pool.node ++ "-" ++ pool.storage = storageID

structure StateResolver where
  store : State.Store
  inventory : Inventory.Store
  /-- What `GetClusterNames` answers. -/
  names : List String

namespace StateResolver

variable (r : StateResolver)

/-- The first cluster that has what is looked for. -/
def firstCluster {A : Type} (look : String → State.ClusterStore → Option A) : Option A :=
  r.names.findSome? fun name => (r.store.getCluster name).bind (look name)

def findGuestLocation (guestType guestID : String) : String × String :=
  match atoi guestID with
  | none => ("", "")
  | some vmid => (r.firstCluster fun _ cs => locateGuest cs guestType vmid).getD ("", "")

def findNodeCluster (nodeName : String) : String :=
  (r.firstCluster fun name cs => if hasNode cs nodeName then some name else none).getD ""

def findStorageCluster (storageID : String) : String :=
  (r.firstCluster fun name cs => if hasStorage cs storageID then some name else none).getD ""

def findDatacenterForCluster (clusterName : String) : String :=
  match r.inventory.getClusterByName clusterName with
  | none => ""
  | some cluster => cluster.datacenterID.getD ""

/-- The object with the identifier, unless that is empty. -/
def found (type id : String) : List ObjectRef := if id = "" then [] else [⟨type, id⟩]

/-- A cluster that was found, with the datacenter that was found for it. -/
def clusterAndAbove (clusterName : String) : List ObjectRef :=
  if clusterName = "" then []
  else ⟨objectCluster, clusterName⟩ ::
    found objectDatacenter (r.findDatacenterForCluster clusterName)

def getAncestors (objectType objectID : String) : List ObjectRef :=
  let ancestors :=
    if objectType = objectVM ∨ objectType = objectCT then
      let location := r.findGuestLocation objectType objectID
      found objectNode location.1 ++ r.clusterAndAbove location.2
    else if objectType = objectNode then r.clusterAndAbove (r.findNodeCluster objectID)
    else if objectType = objectStorage then r.clusterAndAbove (r.findStorageCluster objectID)
    else if objectType = objectCluster then
      found objectDatacenter (r.findDatacenterForCluster objectID)
    else []
  ancestors ++ [⟨objectRoot, ""⟩]

end StateResolver

section Grants

/-- The role of the assignment is loaded and has the permission. -/
def Carries (roles : List Role) (a : RoleAssignment) (permission : String) : Prop :=
  ∃ role, roles.find? (·.id = a.roleID) = some role ∧ roleHasPermission role permission = true

def RoleAssignment.object (a : RoleAssignment) : ObjectRef := ⟨a.objectType, a.objectID⟩

/-- What one assignment allows at one level of the chain. -/
def allows (loaded : List RoleAssignment × List Role) (permission : String) (ref : ObjectRef)
    (i : Nat) (a : RoleAssignment) : Bool :=
  a.objectType = ref.type && a.objectID = ref.id && (i = 0 || a.propagate) &&
    match loaded.2.find? (·.id = a.roleID) with
    | none => false
    | some role => roleHasPermission role permission

theorem allows_iff {loaded : List RoleAssignment × List Role} {permission : String}
    {ref : ObjectRef} {i : Nat} {a : RoleAssignment} :
    allows loaded permission ref i a = true ↔
      a.object = ref ∧ (i = 0 ∨ a.propagate = true) ∧ Carries loaded.2 a permission := by
  obtain ⟨type, id⟩ := ref
  cases found : loaded.2.find? (·.id = a.roleID) with
  | none => simp [allows, Carries, found]
  | some role => simp [allows, Carries, found, RoleAssignment.object, and_assoc]

theorem any_zipIdx_succ {A : Type} {test : A → Nat → Bool} {above : A → Bool}
    (same : ∀ a i, test a (i + 1) = above a) {l : List A} {k : Nat} :
    (l.zipIdx (k + 1)).any (fun p => test p.1 p.2) = l.any above := by
  induction l generalizing k with
  | nil => rfl
  | cons a l ih => rw [List.zipIdx_cons, List.any_cons, List.any_cons, same, ih]

/-- What a check rests on, by the objects above the object. -/
theorem grants_iff_above {getAncestors : String → String → List ObjectRef}
    {loaded : List RoleAssignment × List Role} {permission objectType objectID : String}
    {above : List ObjectRef}
    (refs : chain getAncestors objectType objectID = ⟨objectType, objectID⟩ :: above) :
    grants getAncestors loaded permission objectType objectID = true ↔
      ∃ a ∈ loaded.1, Carries loaded.2 a permission ∧
        (a.object = ⟨objectType, objectID⟩ ∨ a.propagate = true ∧ a.object ∈ above) := by
  have levels : grants getAncestors loaded permission objectType objectID =
      (chain getAncestors objectType objectID).zipIdx.any fun p =>
        loaded.1.any (allows loaded permission p.1 p.2) := rfl
  have further := @any_zipIdx_succ ObjectRef
    (fun ref i => loaded.1.any (allows loaded permission ref i))
    (fun ref => loaded.1.any (allows loaded permission ref 1)) (fun _ _ => rfl) above 0
  rw [levels, refs, List.zipIdx_cons, List.any_cons, further, Bool.or_eq_true]
  simp only [List.any_eq_true, allows_iff]
  constructor
  · rintro (⟨a, member, here, -, carries⟩ | ⟨ref, there, a, member, here, far, carries⟩)
    · exact ⟨a, member, carries, Or.inl here⟩
    · exact ⟨a, member, carries, Or.inr ⟨by simpa using far, here ▸ there⟩⟩
  · rintro ⟨a, member, carries, here | ⟨propagates, there⟩⟩
    · exact Or.inl ⟨a, member, here, Or.inl trivial, carries⟩
    · exact Or.inr ⟨a.object, there, a, member, rfl, Or.inr propagates, carries⟩

/-- What a check with a root above the object rests on. -/
theorem grants_iff {getAncestors : String → String → List ObjectRef}
    {loaded : List RoleAssignment × List Role} {permission objectType objectID : String}
    (rooted : ⟨objectRoot, ""⟩ ∈ getAncestors objectType objectID) :
    grants getAncestors loaded permission objectType objectID = true ↔
      ∃ a ∈ loaded.1, Carries loaded.2 a permission ∧
        (a.object = ⟨objectType, objectID⟩ ∨
          a.propagate = true ∧ a.object ∈ getAncestors objectType objectID) := by
  apply grants_iff_above
  refine if_pos (List.any_eq_true.mpr ⟨_, List.mem_cons_of_mem _ rooted, ?_⟩)
  exact decide_eq_true rfl

theorem StateResolver.rooted (r : StateResolver) (objectType objectID : String) :
    ⟨objectRoot, ""⟩ ∈ r.getAncestors objectType objectID :=
  List.mem_append_right _ (List.mem_singleton_self _)

/-- A user with one role on one object, and the role permits everything. -/
def holder (object : ObjectRef) : Service :=
  ⟨⟨[⟨"r", "all", "", false, [permAll], 0, 0⟩],
    [⟨"a", "u", "r", object.type, object.id, true, 0⟩]⟩, ∅⟩

theorem assignments_holder (object : ObjectRef) :
    (holder object).db.getUserAssignments "u" =
      ([⟨"a", "u", "r", object.type, object.id, true, 0⟩],
        [⟨"r", "all", "", false, [permAll], 0, 0⟩]) := by
  simp [holder, DB.getUserAssignments, DB.listAssignments, DB.getRole]

/-- Behind a coherent cache the assignments decide, with what is above the object. -/
theorem hasPermission_iff {r : StateResolver} {s : Service} {userID permission : String} {now : Int}
    {object : ObjectRef} (coherent : s.Coherent) (named : userID ≠ "") :
    (s.hasPermission r.getAncestors now userID permission object.type object.id).1 = true ↔
      ∃ a ∈ (s.db.getUserAssignments userID).1,
        Carries (s.db.getUserAssignments userID).2 a permission ∧
          (a.object = object ∨
            a.propagate = true ∧ a.object ∈ r.getAncestors object.type object.id) := by
  rw [coherent.hasPermission_eq r.getAncestors now named, Service.granted,
    grants_iff (r.rooted object.type object.id)]

theorem holder_permitted_iff {r : StateResolver} {now : Int} {permission : String}
    {held object : ObjectRef} :
    ((holder held).hasPermission r.getAncestors now "u" permission object.type object.id).1 = true ↔
      held = object ∨ held ∈ r.getAncestors object.type object.id := by
  have carries : Carries [⟨"r", "all", "", false, [permAll], 0, 0⟩]
      ⟨"a", "u", "r", held.type, held.id, true, 0⟩ permission := by
    refine ⟨_, rfl, ?_⟩
    simp [roleHasPermission, matchPermission]
  rw [hasPermission_iff (Service.coherent_of_empty rfl) (by decide), assignments_holder]
  simp [carries, RoleAssignment.object]

end Grants

namespace StateResolver

section Lookups

variable {r : StateResolver}

theorem firstCluster_some {A : Type} {look : String → State.ClusterStore → Option A} {a : A}
    (first : r.firstCluster look = some a) :
    ∃ name cs, r.store.getCluster name = some cs ∧ look name cs = some a := by
  obtain ⟨name, -, here⟩ := List.exists_of_findSome?_eq_some first
  obtain ⟨cs, known, looked⟩ := Option.bind_eq_some_iff.mp here
  exact ⟨name, cs, known, looked⟩

theorem mem_keys_of_getCluster {store : State.Store} {name : String} {cs : State.ClusterStore}
    (known : store.getCluster name = some cs) : name ∈ store.clusters.keys :=
  AList.mem_keys.mp (AList.lookup_isSome.mp (Option.isSome_iff_exists.mpr ⟨cs, known⟩))

theorem exists_order {A : Type} {store : State.Store} {inventory : Inventory.Store}
    {look : String → State.ClusterStore → Option A} {name : String} {cs : State.ClusterStore}
    {a : A} (known : store.getCluster name = some cs) (looked : look name cs = some a) :
    ∃ names : List String, names.Perm store.clusters.keys ∧
      (StateResolver.mk store inventory names).firstCluster look = some a := by
  have listed := mem_keys_of_getCluster known
  refine ⟨name :: store.clusters.keys.erase name, (List.perm_cons_erase listed).symm, ?_⟩
  rw [firstCluster, List.findSome?_cons, known, Option.bind_some, looked]

theorem firstCluster_isSome {A : Type} {look : String → State.ClusterStore → Option A}
    (names : r.names.Perm r.store.clusters.keys) {name : String} {cs : State.ClusterStore} {a : A}
    (known : r.store.getCluster name = some cs) (looked : look name cs = some a) :
    (r.firstCluster look).isSome := by
  have listed : name ∈ r.names := names.mem_iff.mpr (mem_keys_of_getCluster known)
  rw [firstCluster, List.findSome?_isSome_iff]
  refine ⟨name, listed, ?_⟩
  rw [known, Option.bind_some, looked]
  rfl

theorem mem_found {ref : ObjectRef} {type id : String} :
    ref ∈ found type id ↔ id ≠ "" ∧ ref = ⟨type, id⟩ := by
  by_cases empty : id = "" <;> simp [found, empty]

theorem mem_clusterAndAbove {ref : ObjectRef} {clusterName : String} :
    ref ∈ r.clusterAndAbove clusterName ↔ clusterName ≠ "" ∧
      (ref = ⟨objectCluster, clusterName⟩ ∨
        r.findDatacenterForCluster clusterName ≠ "" ∧
          ref = ⟨objectDatacenter, r.findDatacenterForCluster clusterName⟩) := by
  by_cases empty : clusterName = ""
  · simp [clusterAndAbove, empty]
  · simp [clusterAndAbove, empty, mem_found]

end Lookups

end StateResolver

/-- Where a cluster has the guest, under the identifier that a request names. -/
def guestIn (cs : State.ClusterStore) (object : ObjectRef) : Option (String × String) :=
  (atoi object.id).bind (locateGuest cs object.type)

def ObjectRef.IsGuest (object : ObjectRef) : Prop :=
  object.type = objectVM ∨ object.type = objectCT

namespace StateResolver

variable {r : StateResolver}

theorem findGuestLocation_eq (object : ObjectRef) :
    r.findGuestLocation object.type object.id =
      (r.firstCluster fun _ cs => guestIn cs object).getD ("", "") := by
  rw [findGuestLocation]
  cases parsed : atoi object.id with
  | none =>
      have nowhere : r.firstCluster (fun _ cs => guestIn cs object) = none := by
        rw [Option.eq_none_iff_forall_ne_some]
        intro place first
        obtain ⟨name, cs, -, looked⟩ := firstCluster_some first
        rw [guestIn, parsed] at looked
        cases looked
      rw [nowhere]
      rfl
  | some vmid =>
      have same : (fun (_ : String) (cs : State.ClusterStore) => guestIn cs object) =
          fun _ cs => locateGuest cs object.type vmid := by
        funext _ cs
        rw [guestIn, parsed, Option.bind_some]
      rw [same]

theorem mem_ancestors_guest {ref object : ObjectRef} (guest : object.IsGuest) :
    ref ∈ r.getAncestors object.type object.id ↔
      (ref ∈ found objectNode (r.findGuestLocation object.type object.id).1 ∨
        ref ∈ r.clusterAndAbove (r.findGuestLocation object.type object.id).2) ∨
        ref = ⟨objectRoot, ""⟩ := by
  have kind : object.type = objectVM ∨ object.type = objectCT := guest
  rw [getAncestors, if_pos kind]
  simp [List.mem_append, or_assoc]

end StateResolver

section Clusters

variable {store : State.Store} {inventory : Inventory.Store} {cluster : String}
  {object : ObjectRef}

/-- The object is one of the cluster's nodes or one of its guests. -/
def InCluster (cs : State.ClusterStore) (object : ObjectRef) : Prop :=
  (object.type = objectNode ∧ hasNode cs object.id = true) ∨
    object.IsGuest ∧ (guestIn cs object).isSome

/-- The object is the cluster, or in it. -/
def OnCluster (store : State.Store) (cluster : String) (object : ObjectRef) : Prop :=
  object = ⟨objectCluster, cluster⟩ ∨
    ∃ cs, store.getCluster cluster = some cs ∧ InCluster cs object

/-- Whoever has roles only on the cluster, on its nodes and on its guests has no permission on
the object, in whatever order the clusters are looked through. -/
def Isolated (store : State.Store) (inventory : Inventory.Store) (cluster : String)
    (object : ObjectRef) : Prop :=
  ∀ names : List String, names.Perm store.clusters.keys →
    ∀ (s : Service) (userID : String), s.Coherent → userID ≠ "" →
      (∀ a ∈ (s.db.getUserAssignments userID).1, OnCluster store cluster a.object) →
        ∀ (now : Int) (permission : String),
          (s.hasPermission (StateResolver.mk store inventory names).getAncestors now userID
            permission object.type object.id).1 = false

/-- The cluster has no guest of the type under the VMID, and whatever cluster has one names a
node for it that is none of the cluster's nodes. -/
structure GuestApart (store : State.Store) (cluster : String) (object : ObjectRef) : Prop where
  unshared : ∀ cs, store.getCluster cluster = some cs → guestIn cs object = none
  elsewhere : ∀ name cs place, store.getCluster name = some cs → guestIn cs object = some place →
    place.2 ≠ "" → place.2 ≠ cluster
  nodes : ∀ name cs place own, store.getCluster name = some cs → guestIn cs object = some place →
    store.getCluster cluster = some own → place.1 ≠ "" → hasNode own place.1 = false

/-- The place that the resolver finds is the one that some cluster names. -/
theorem findGuestLocation_cases (r : StateResolver) (object : ObjectRef) :
    r.findGuestLocation object.type object.id = ("", "") ∨
      ∃ name cs, r.store.getCluster name = some cs ∧
        guestIn cs object = some (r.findGuestLocation object.type object.id) := by
  rw [r.findGuestLocation_eq object]
  cases first : r.firstCluster fun _ cs => guestIn cs object with
  | none => exact Or.inl rfl
  | some place =>
      obtain ⟨name, cs, known, here⟩ := StateResolver.firstCluster_some first
      exact Or.inr ⟨name, cs, known, here⟩

theorem ObjectRef.IsGuest.other (guest : object.IsGuest) :
    object.type ≠ objectNode ∧ object.type ≠ objectCluster ∧ object.type ≠ objectDatacenter ∧
      object.type ≠ objectRoot := by
  rcases guest with vm | ct
  · rw [vm]
    decide
  · rw [ct]
    decide

theorem onCluster_guest (guest : object.IsGuest) (on : OnCluster store cluster object) :
    ∃ cs, store.getCluster cluster = some cs ∧ (guestIn cs object).isSome := by
  rcases on with rfl | ⟨cs, known, ⟨node, -⟩ | ⟨-, here⟩⟩
  · exact absurd rfl guest.other.2.1
  · exact absurd node guest.other.1
  · exact ⟨cs, known, here⟩

theorem onCluster_node {nodeName : String}
    (on : OnCluster store cluster ⟨objectNode, nodeName⟩) :
    ∃ cs, store.getCluster cluster = some cs ∧ hasNode cs nodeName = true := by
  rcases on with same | ⟨cs, known, ⟨-, here⟩ | ⟨guest, -⟩⟩
  · exact absurd (congrArg ObjectRef.type same) (show objectNode ≠ objectCluster by decide)
  · exact ⟨cs, known, here⟩
  · exact absurd rfl guest.other.1

theorem onCluster_cluster {name : String} (on : OnCluster store cluster ⟨objectCluster, name⟩) :
    name = cluster := by
  rcases on with same | ⟨cs, -, ⟨node, -⟩ | ⟨guest, -⟩⟩
  · exact congrArg ObjectRef.id same
  · exact absurd node (show objectCluster ≠ objectNode by decide)
  · exact absurd rfl guest.other.2.1

theorem not_onCluster (above : object.type = objectDatacenter ∨ object.type = objectRoot) :
    ¬OnCluster store cluster object := by
  rintro (rfl | ⟨cs, -, ⟨node, -⟩ | ⟨guest, -⟩⟩)
  · exact absurd above
      (show ¬(objectCluster = objectDatacenter ∨ objectCluster = objectRoot) by decide)
  · rw [node] at above
    exact absurd above (by decide)
  · rcases above with datacenter | root
    · exact guest.other.2.2.1 datacenter
    · exact guest.other.2.2.2 root

theorem isolated_of_guestApart (guest : object.IsGuest)
    (apart : GuestApart store cluster object) : Isolated store inventory cluster object := by
  intro names _ s userID coherent named confined now permission
  rw [Bool.eq_false_iff, Ne, hasPermission_iff coherent named]
  rintro ⟨a, member, -, here | ⟨-, above⟩⟩
  · obtain ⟨cs, known, shared⟩ := onCluster_guest guest (here ▸ confined a member)
    rw [apart.unshared cs known] at shared
    cases shared
  · have on := confined a member
    rw [StateResolver.mem_ancestors_guest guest, StateResolver.mem_found,
      StateResolver.mem_clusterAndAbove] at above
    rcases findGuestLocation_cases ⟨store, inventory, names⟩ object with
      nowhere | ⟨name, cs, known, place⟩
    · rw [nowhere] at above
      rcases above with (⟨given, -⟩ | ⟨given, -⟩) | root
      · exact given rfl
      · exact given rfl
      · rw [root] at on
        exact not_onCluster (Or.inr rfl) on
    · rcases above with (⟨given, node⟩ | ⟨given, higher⟩) | root
      · rw [node] at on
        obtain ⟨own, there, listed⟩ := onCluster_node on
        rw [apart.nodes name cs _ own known place there given] at listed
        cases listed
      · rcases higher with same | ⟨-, datacenter⟩
        · rw [same] at on
          exact apart.elsewhere name cs _ known place given (onCluster_cluster on)
        · rw [datacenter] at on
          exact not_onCluster (Or.inl rfl) on
      · rw [root] at on
        exact not_onCluster (Or.inr rfl) on

/-- What one user is permitted who has one role, on something of the cluster. -/
theorem not_permitted_of_isolated (isolated : Isolated store inventory cluster object)
    {names : List String} (order : names.Perm store.clusters.keys) {held : ObjectRef}
    (on : OnCluster store cluster held) :
    held ≠ object ∧
      held ∉ (StateResolver.mk store inventory names).getAncestors object.type object.id := by
  have refused := isolated names order (holder held) "u" (Service.coherent_of_empty rfl) (by decide)
    (by
      intro a member
      rw [assignments_holder] at member
      obtain rfl := List.mem_singleton.mp member
      exact on) 0 ""
  rw [Bool.eq_false_iff, Ne, holder_permitted_iff, not_or] at refused
  exact refused

theorem guestApart_of_isolated (guest : object.IsGuest)
    (isolated : Isolated store inventory cluster object) : GuestApart store cluster object := by
  constructor
  · intro cs known
    rw [Option.eq_none_iff_forall_ne_some]
    intro place here
    have on : OnCluster store cluster object :=
      Or.inr ⟨cs, known, Or.inr ⟨guest, Option.isSome_iff_exists.mpr ⟨place, here⟩⟩⟩
    exact (not_permitted_of_isolated isolated (List.Perm.refl _) on).1 rfl
  · intro name cs place known here given same
    obtain ⟨names, order, first⟩ := @StateResolver.exists_order _ store inventory
      (fun _ cs => guestIn cs object) name cs place known here
    refine (not_permitted_of_isolated isolated order (Or.inl rfl)).2 ?_
    rw [StateResolver.mem_ancestors_guest guest, StateResolver.findGuestLocation_eq, first,
      StateResolver.mem_clusterAndAbove]
    exact Or.inl (Or.inr ⟨given, Or.inl (by rw [Option.getD_some, same])⟩)
  · intro name cs place own known here there given
    rw [Bool.eq_false_iff]
    intro listed
    obtain ⟨names, order, first⟩ := @StateResolver.exists_order _ store inventory
      (fun _ cs => guestIn cs object) name cs place known here
    have on : OnCluster store cluster ⟨objectNode, place.1⟩ :=
      Or.inr ⟨own, there, Or.inl ⟨rfl, listed⟩⟩
    refine (not_permitted_of_isolated isolated order on).2 ?_
    rw [StateResolver.mem_ancestors_guest guest, StateResolver.findGuestLocation_eq, first,
      StateResolver.mem_found]
    exact Or.inl (Or.inl ⟨given, rfl⟩)

/-- No privilege on a cluster reaches a guest, wherever that lives, iff the cluster has no guest
of the type under its VMID and the guest's node is not named like one of the cluster's nodes. -/
theorem guest_isolated_iff (guest : object.IsGuest) :
    Isolated store inventory cluster object ↔ GuestApart store cluster object :=
  ⟨guestApart_of_isolated guest, isolated_of_guestApart guest⟩

/-- A cluster whose node runs a VM. -/
def withVM (name nodeName : String) (vmid : Int64) : State.ClusterStore :=
  { State.ClusterStore.new name with
    nodes :=
      AList.singleton nodeName { (default : Pve.Node) with cluster := name, node := nodeName }
    vms := AList.singleton vmid
      { (default : Pve.VM) with cluster := name, vmid := vmid, node := nodeName } }

/-- A cluster with VM 100, and one with a VM of the number. -/
def twoClusters (vmid : Int64) : State.Store :=
  ⟨(AList.singleton "main" (withVM "main" "pve1" 100)).insert "lab" (withVM "lab" "lab1" vmid)⟩

def vm100 : ObjectRef := ⟨objectVM, "100"⟩

/-- Both clusters number their VM alike, and a role on one powers off the VM of the other one. -/
theorem role_crosses_clusters :
    (∃ cs, (twoClusters 100).getCluster "main" = some cs ∧ InCluster cs vm100) ∧
      ¬Isolated (twoClusters 100) Inventory.Store.empty "lab" vm100 := by
  constructor
  · exact ⟨withVM "main" "pve1" 100, rfl, Or.inr ⟨Or.inl rfl, by decide⟩⟩
  · intro isolated
    have apart := guestApart_of_isolated (Or.inl rfl) isolated
    have absent := apart.unshared (withVM "lab" "lab1" 100) rfl
    have present : (guestIn (withVM "lab" "lab1" 100) vm100).isSome := by decide
    rw [absent] at present
    cases present

theorem twoClusters_getCluster {vmid : Int64} {name : String} {cs : State.ClusterStore}
    (known : (twoClusters vmid).getCluster name = some cs) :
    cs = withVM "lab" "lab1" vmid ∨ cs = withVM "main" "pve1" 100 := by
  rw [State.Store.getCluster, twoClusters] at known
  by_cases lab : name = "lab"
  · rw [lab, AList.lookup_insert] at known
    exact Or.inl (Option.some.inj known).symm
  · rw [AList.lookup_insert_ne lab] at known
    have row := List.mem_singleton.mp (AList.mem_lookup_iff.mp known)
    cases row
    exact Or.inr rfl

/-- The VMs have different numbers, and no role on one cluster reaches the VM of the other one. -/
theorem role_stays_in_lab : Isolated (twoClusters 101) Inventory.Store.empty "lab" vm100 := by
  refine (guest_isolated_iff (Or.inl rfl)).mpr ⟨?_, ?_, ?_⟩
  · intro cs known
    obtain rfl : withVM "lab" "lab1" 101 = cs := Option.some.inj known
    decide
  · intro name cs place known here given
    rcases twoClusters_getCluster known with rfl | rfl
    · cases here
    · obtain rfl : ("pve1", "main") = place := Option.some.inj here
      decide
  · intro name cs place own known here there given
    obtain rfl : withVM "lab" "lab1" 101 = own := Option.some.inj there
    rcases twoClusters_getCluster known with rfl | rfl
    · cases here
    · obtain rfl : ("pve1", "main") = place := Option.some.inj here
      decide

end Clusters

section Datacenters

variable {store : State.Store} {inventory : Inventory.Store} {object : ObjectRef} {d : String}

/-- The name under which a cluster or a standalone host of the datacenter is polled. -/
def FiledUnder (inventory : Inventory.Store) (datacenterID key : String) : Prop :=
  (∃ c ∈ inventory.clusters, c.datacenterID = some datacenterID ∧ c.configName = key) ∨
    ∃ host ∈ inventory.hosts, host.clusterID = "" ∧ host.datacenterID = datacenterID ∧
      Inventory.standaloneName host.id = key

/-- The name by which the resolver knows the cluster that has the object. -/
def homeIn (name : String) (cs : State.ClusterStore) (object : ObjectRef) : Option String :=
  if object.type = objectNode then if hasNode cs object.id then some name else none
  else (guestIn cs object).map (·.2)

/-- A cluster of the datacenter has the display name. -/
def DisplayedUnder (inventory : Inventory.Store) (datacenterID name : String) : Prop :=
  ∃ c, inventory.getClusterByName name = some c ∧ c.datacenterID = some datacenterID

/-- Whoever has a role on the datacenter that propagates has its permissions on all that is filed
under it, in whatever order the clusters are looked through. -/
def GrantsReach (inventory : Inventory.Store) (store : State.Store) : Prop :=
  ∀ (d key : String) (cs : State.ClusterStore) (object : ObjectRef),
    FiledUnder inventory d key → store.getCluster key = some cs → InCluster cs object →
      ∀ names : List String, names.Perm store.clusters.keys →
        ∀ (s : Service) (userID permission : String), s.Coherent → userID ≠ "" →
          (∃ a ∈ (s.db.getUserAssignments userID).1, a.object = ⟨objectDatacenter, d⟩ ∧
            a.propagate = true ∧ Carries (s.db.getUserAssignments userID).2 a permission) →
            ∀ now : Int,
              (s.hasPermission (StateResolver.mk store inventory names).getAncestors now userID
                permission object.type object.id).1 = true

/-- Whatever cluster knows an object of the datacenter has the display name of a cluster that is
filed under the datacenter. -/
def KnownUnder (inventory : Inventory.Store) (store : State.Store) : Prop :=
  ∀ (d key : String) (cs : State.ClusterStore) (object : ObjectRef),
    FiledUnder inventory d key → store.getCluster key = some cs → InCluster cs object →
      ∀ (name : String) (other : State.ClusterStore) (home : String),
        store.getCluster name = some other → homeIn name other object = some home →
          home ≠ "" ∧ DisplayedUnder inventory d home

theorem homeIn_of_inCluster {name : String} {cs : State.ClusterStore} (here : InCluster cs object) :
    ∃ home, homeIn name cs object = some home := by
  rcases here with ⟨node, listed⟩ | ⟨guest, placed⟩
  · exact ⟨name, by rw [homeIn, if_pos node, if_pos listed]⟩
  · obtain ⟨place, located⟩ := Option.isSome_iff_exists.mp placed
    exact ⟨place.2, by rw [homeIn, if_neg guest.other.1, located, Option.map_some]⟩

theorem findDatacenterForCluster_eq_iff {r : StateResolver} {name : String} (given : d ≠ "") :
    r.findDatacenterForCluster name = d ↔ DisplayedUnder r.inventory d name := by
  rw [StateResolver.findDatacenterForCluster, DisplayedUnder]
  cases found : r.inventory.getClusterByName name with
  | none => simpa using given.symm
  | some cluster =>
      cases reference : cluster.datacenterID with
      | none => simpa [reference] using given.symm
      | some id => simp [reference]

theorem mem_ancestors_node {r : StateResolver} {ref : ObjectRef} (node : object.type = objectNode) :
    ref ∈ r.getAncestors object.type object.id ↔
      ref ∈ r.clusterAndAbove (r.findNodeCluster object.id) ∨ ref = ⟨objectRoot, ""⟩ := by
  rw [node]
  exact List.mem_append.trans (or_congr_right List.mem_singleton)

theorem firstCluster_map {A B : Type} {r : StateResolver} {f : A → B}
    {look : String → State.ClusterStore → Option A} :
    (r.firstCluster fun name cs => (look name cs).map f) = (r.firstCluster look).map f := by
  rw [StateResolver.firstCluster, StateResolver.firstCluster, List.map_findSome?]
  congr 1
  funext name
  cases known : r.store.getCluster name with
  | none => simp [known]
  | some cs => simp [known]

/-- The datacenter above a cluster that may have been found. -/
theorem datacenter_above_iff {r : StateResolver} {chosen : Option String} (given : d ≠ "") :
    ⟨objectDatacenter, d⟩ ∈ r.clusterAndAbove (chosen.getD "") ↔
      ∃ home, chosen = some home ∧ home ≠ "" ∧ DisplayedUnder r.inventory d home := by
  have cluster : ∀ name : String, (⟨objectDatacenter, d⟩ : ObjectRef) ≠ ⟨objectCluster, name⟩ :=
    fun _ same => absurd (congrArg ObjectRef.type same)
      (show objectDatacenter ≠ objectCluster by decide)
  cases chosen with
  | none => simp [StateResolver.mem_clusterAndAbove]
  | some home =>
      rw [Option.getD_some, StateResolver.mem_clusterAndAbove, or_iff_right (cluster home)]
      constructor
      · rintro ⟨known, -, same⟩
        refine ⟨home, rfl, known, (findDatacenterForCluster_eq_iff given).mp ?_⟩
        exact (congrArg ObjectRef.id same).symm
      · rintro ⟨shown, chosen, known, displayed⟩
        obtain rfl := Option.some.inj chosen
        have same := (findDatacenterForCluster_eq_iff given).mpr displayed
        exact ⟨known, same ▸ given, by rw [same]⟩

theorem datacenter_mem_ancestors_iff {r : StateResolver} (scope : object.type = objectNode ∨
    object.IsGuest) (given : d ≠ "") :
    ⟨objectDatacenter, d⟩ ∈ r.getAncestors object.type object.id ↔
      ∃ home, (r.firstCluster fun name cs => homeIn name cs object) = some home ∧ home ≠ "" ∧
        DisplayedUnder r.inventory d home := by
  have root : (⟨objectDatacenter, d⟩ : ObjectRef) ≠ ⟨objectRoot, ""⟩ := fun same =>
    absurd (congrArg ObjectRef.type same) (show objectDatacenter ≠ objectRoot by decide)
  rcases scope with node | guest
  · have look : (fun name cs => homeIn name cs object) =
        fun name cs => if hasNode cs object.id then some name else none := by
      funext name cs
      rw [homeIn, if_pos node]
    rw [mem_ancestors_node node, StateResolver.findNodeCluster, ← look, or_iff_left root]
    exact datacenter_above_iff given
  · have look : (fun name cs => homeIn name cs object) =
        fun name cs => (guestIn cs object).map (·.2) := by
      funext name cs
      rw [homeIn, if_neg guest.other.1]
    have node : (⟨objectDatacenter, d⟩ : ObjectRef) ∉
        StateResolver.found objectNode (r.findGuestLocation object.type object.id).1 := by
      rw [StateResolver.mem_found]
      exact fun ⟨_, same⟩ =>
        absurd (congrArg ObjectRef.type same) (show objectDatacenter ≠ objectNode by decide)
    rw [StateResolver.mem_ancestors_guest guest, or_iff_left root, or_iff_right node,
      StateResolver.findGuestLocation_eq, look, firstCluster_map, ← datacenter_above_iff given]
    cases r.firstCluster fun _ cs => guestIn cs object with
    | none => exact Iff.rfl
    | some place => exact Iff.rfl

theorem named_of_filedUnder {key : String} (filed : Inventory.Filed inventory)
    (under : FiledUnder inventory d key) : d ≠ "" := by
  rintro rfl
  rcases under with ⟨c, member, reference, -⟩ | ⟨host, there, alone, none, -⟩
  · have known := Inventory.hasDatacenter_iff.mp (filed.references c member) "" reference
    exact filed.created known
  · rcases filed.placed host there with ⟨-, member⟩ | ⟨-, member⟩
    · exact filed.inserted (alone ▸ member)
    · exact filed.created (none ▸ member)

theorem InCluster.scope {cs : State.ClusterStore} (here : InCluster cs object) :
    object.type = objectNode ∨ object.IsGuest := here.imp And.left And.left

theorem knownUnder_of_grantsReach (filed : Inventory.Filed inventory)
    (reach : GrantsReach inventory store) : KnownUnder inventory store := by
  intro d key cs object under known here name other home listed placed
  have given := named_of_filedUnder filed under
  obtain ⟨names, order, first⟩ := @StateResolver.exists_order _ store inventory
    (fun name cs => homeIn name cs object) name other home listed placed
  have permitted := reach d key cs object under known here names order
    (holder ⟨objectDatacenter, d⟩) "u" "" (Service.coherent_of_empty rfl) (by decide) (by
      rw [assignments_holder]
      refine ⟨_, List.mem_singleton_self _, rfl, rfl, _, rfl, ?_⟩
      simp [roleHasPermission, matchPermission]) 0
  rw [holder_permitted_iff] at permitted
  rcases permitted with same | above
  · rcases here.scope with node | guest
    · rw [← same] at node
      exact absurd node (show objectDatacenter ≠ objectNode by decide)
    · exact absurd (congrArg ObjectRef.type same).symm guest.other.2.2.1
  · obtain ⟨shown, chosen, displayed⟩ :=
      (datacenter_mem_ancestors_iff here.scope given).mp above
    obtain rfl := Option.some.inj (first.symm.trans chosen)
    exact displayed

theorem grantsReach_of_knownUnder (filed : Inventory.Filed inventory)
    (displayed : KnownUnder inventory store) : GrantsReach inventory store := by
  rintro d key cs object under known here names order s userID permission coherent named
    ⟨a, member, on, propagates, carries⟩ now
  have given := named_of_filedUnder filed under
  obtain ⟨home, placed⟩ := @homeIn_of_inCluster object key cs here
  obtain ⟨first, chosen⟩ := Option.isSome_iff_exists.mp
    (@StateResolver.firstCluster_isSome ⟨store, inventory, names⟩ _
      (fun name cs => homeIn name cs object) order key cs home known placed)
  obtain ⟨name, other, listed, found⟩ := StateResolver.firstCluster_some chosen
  have display := displayed d key cs object under known here name other first listed found
  rw [hasPermission_iff coherent named]
  refine ⟨a, member, carries, Or.inr ⟨propagates, ?_⟩⟩
  rw [on]
  exact (datacenter_mem_ancestors_iff here.scope given).mpr ⟨first, chosen, display⟩

/-- In every state of the inventory the roles on datacenters reach all that is filed under them
iff the clusters that know an object of a datacenter are displayed under it. -/
theorem datacenter_grants_reach_iff {ops : List Inventory.Operation}
    (reached : inventory ∈ Transition.states Inventory.operate Inventory.Store.empty ops) :
    GrantsReach inventory store ↔ KnownUnder inventory store :=
  ⟨knownUnder_of_grantsReach (Inventory.filed_states _ reached),
    grantsReach_of_knownUnder (Inventory.filed_states _ reached)⟩

/-- A datacenter with a cluster that is polled. -/
def withLab : List Inventory.Operation :=
  [.createDatacenter (Inventory.drawn "d-1" Inventory.given_d1) "main",
    .createCluster (Inventory.drawn "c-1" Inventory.given_c1) ⟨"lab", some "d-1", ""⟩,
    .addHost "c-1" (Inventory.drawn "h-1" Inventory.given_h1) (.error "")
      (Inventory.withToken "10.0.0.1:8006"),
    .setHostStatus "h-1" .online "" "pve1", .setClusterStatus "c-1" .active]

/-- The cluster gets another display name. -/
def withOldLab : List Inventory.Operation :=
  withLab ++ [Inventory.Operation.updateCluster "c-1" ⟨"old lab", some "d-1", true⟩]

def inventoryAfter (ops : List Inventory.Operation) : Inventory.Store :=
  ops.foldl Inventory.operate Inventory.Store.empty

theorem inventoryAfter_reached (ops : List Inventory.Operation) :
    inventoryAfter ops ∈ Transition.states Inventory.operate Inventory.Store.empty ops :=
  Transition.last_mem_states _ _

/-- The one cluster that is polled. -/
def labStore : State.Store := ⟨AList.singleton "lab" (withVM "lab" "pve1" 100)⟩

def pve1 : ObjectRef := ⟨objectNode, "pve1"⟩

theorem labStore_getCluster {name : String} {cs : State.ClusterStore}
    (known : labStore.getCluster name = some cs) : name = "lab" ∧ cs = withVM "lab" "pve1" 100 := by
  have key : name = "lab" := by
    have listed := StateResolver.mem_keys_of_getCluster known
    exact List.mem_singleton.mp listed
  subst key
  exact ⟨rfl, (Option.some.inj known).symm⟩

theorem homeIn_withVM {name nodeName home : String} {vmid : Int64}
    (placed : homeIn name (withVM name nodeName vmid) object = some home) : home = name := by
  rw [homeIn] at placed
  split at placed
  · split at placed
    · exact (Option.some.inj placed).symm
    · cases placed
  · obtain ⟨place, located, rfl⟩ := Option.map_eq_some_iff.mp placed
    obtain ⟨id, -, found⟩ := Option.bind_eq_some_iff.mp located
    rw [locateGuest] at found
    split at found
    · obtain ⟨vm, there, rfl⟩ := Option.map_eq_some_iff.mp found
      have row := List.mem_singleton.mp (AList.mem_lookup_iff.mp there)
      cases row
      rfl
    · obtain ⟨ct, there, rfl⟩ := Option.map_eq_some_iff.mp found
      cases there

/-- The state has the cluster under the name that the configuration gives it, and a role on the
datacenter has no permission on its node. -/
theorem renamed_cluster_ungranted :
    ((inventoryAfter withOldLab).getClusterConfigs fun _ => "").map (·.name) =
        labStore.clusters.keys ∧
      ¬GrantsReach (inventoryAfter withOldLab) labStore := by
  refine ⟨by decide +kernel, fun reach => ?_⟩
  have displayed := knownUnder_of_grantsReach (Inventory.filed_states _ (inventoryAfter_reached _)) reach
  have under : FiledUnder (inventoryAfter withOldLab) "d-1" "lab" := Or.inl (by decide +kernel)
  obtain ⟨-, c, found, -⟩ := displayed "d-1" "lab" (withVM "lab" "pve1" 100) pve1 under rfl
    (Or.inl ⟨rfl, by decide⟩) "lab" (withVM "lab" "pve1" 100) "lab" rfl (by decide)
  have unknown : ((inventoryAfter withOldLab).getClusterByName "lab").isNone := by decide +kernel
  rw [found] at unknown
  cases unknown

/-- Before the cluster is renamed the roles on the datacenter reach all of it. -/
theorem lab_granted : GrantsReach (inventoryAfter withLab) labStore := by
  refine (datacenter_grants_reach_iff (inventoryAfter_reached withLab)).mpr ?_
  intro d key cs object under known here name other home listed placed
  obtain ⟨rfl, rfl⟩ := labStore_getCluster listed
  obtain rfl := homeIn_withVM placed
  have reference : ((inventoryAfter withLab).getClusterByName "lab").map (·.datacenterID) =
      some (some "d-1") := by decide +kernel
  have inside : ∀ c ∈ (inventoryAfter withLab).clusters, c.datacenterID = some "d-1" := by
    decide +kernel
  have hosts : ∀ host ∈ (inventoryAfter withLab).hosts, host.clusterID ≠ "" := by
    decide +kernel
  rcases under with ⟨c, member, filed, -⟩ | ⟨host, there, alone, -⟩
  · obtain rfl : d = "d-1" := Option.some.inj (filed.symm.trans (inside c member))
    obtain ⟨shown, found, parent⟩ := Option.map_eq_some_iff.mp reference
    exact ⟨by decide, shown, found, parent⟩
  · exact absurd alone (hosts host there)

end Datacenters

end Rbac
