import Mathlib.Data.List.Perm.Basic
import PCenter.InventoryRuns

/-!
# Where the hosts are filed

Every operation of the inventory is a chain of statements on the tables, and each statement
leaves every host either in one cluster or in one datacenter. `GetDatacenterTree`, which is put
together from three queries, then lists everything once.
-/

namespace Inventory

open GoText Procedure Transition

/-- One statement that is carried out, with what the operations give to it. -/
inductive Statement (s s' : Store) : Prop where
  | createDatacenter (id : UUID) (name : String) (done : s.createDatacenter id name = .ok s')
  | updateDatacenter (id name : String) (done : s.updateDatacenter id name = .ok s')
  | deleteDatacenter (id : String) (done : s.deleteDatacenter id = .ok s')
  | insertCluster (id : UUID) (req : CreateClusterRequest)
      (done : s.insertCluster (Store.newCluster id req) req.pveClusterName = .ok s')
  | setPVEClusterName (id pveName : String) (done : s.setPVEClusterName id pveName = .ok s')
  | updateCluster (id : String) (req : UpdateClusterRequest) (done : s.updateCluster id req = .ok s')
  | deleteCluster (id : String) (done : s.deleteCluster id = .ok s')
  | setClusterEnabled (id : String) (enabled : Bool) (done : s.setClusterEnabled id enabled = .ok s')
  | setClusterStatus (id : String) (status : ClusterStatus)
      (done : s.setClusterStatus id status = .ok s')
  | addHost (id : UUID) (clusterID : String) (req : AddHostRequest)
      (done : s.addHost id clusterID req = .ok s')
  | addDatacenterHost (id : UUID) (datacenterID : String) (req : AddHostRequest)
      (done : s.addDatacenterHost id datacenterID req = .ok s')
  | updateHost (id : String) (req : UpdateHostRequest) (done : s.updateHost id req = .ok s')
  | setHostStatus (id : String) (status : HostStatus) (error nodeName : String)
      (done : s.setHostStatus id status error nodeName = .ok s')
  | moveHostToCluster (hostID clusterID : String)
      (done : s.moveHostToCluster hostID clusterID = .ok s')
  | deleteHost (id : String) (done : s.deleteHost id = .ok s')
  | formClusterFromHosts (id : UUID) (req : FormClusterFromHostsRequest)
      (done : s.formClusterFromHosts id req = .ok s')
  | addHostsToCluster (req : AddHostsToClusterRequest) (done : s.addHostsToCluster req = .ok s')

section Operations

variable {R : Store → Store → Prop}

theorem chains_withCluster {find : Store → Option Cluster} {next : Cluster → Action Unit}
    (later : ∀ c, Chains R (next c)) : Chains R (Service.withCluster find next) := by
  refine chains_read_bind fun found => ?_
  cases found with
  | none => exact chains_throw _
  | some c => exact later c

theorem chains_checkDatacenter {id : Option String} : Chains R (Service.checkDatacenter id) :=
  chains_read_bind fun _ => chains_ite (chains_pure ()) (chains_throw _)

theorem chains_leaveEmpty {cluster : Cluster} {status : ClusterStatus}
    (set : ∀ s s', s.setClusterStatus cluster.id status = .ok s' → R s s') :
    Chains R (Service.leaveEmpty cluster status) :=
  chains_ite (chains_ignore (chains_commit set)) (chains_pure ())

theorem chains_createDatacenter {uuid : UUID} {name : String}
    (create : ∀ s s', s.createDatacenter uuid (trimSpace name) = .ok s' → R s s') :
    Chains R (Service.createDatacenter uuid name) := by
  refine chains_ite (chains_throw _) (chains_read_bind fun _ => ?_)
  exact chains_ite (chains_throw _) (chains_commit create)

theorem chains_updateDatacenter {id name : String}
    (update : ∀ s s', s.updateDatacenter id (trimSpace name) = .ok s' → R s s') :
    Chains R (Service.updateDatacenter id name) := by
  refine chains_ite (chains_throw _) (chains_read_bind fun found => ?_)
  cases found with
  | none => exact chains_throw _
  | some dc => exact chains_read_bind fun _ => chains_ite (chains_throw _) (chains_commit update)

theorem chains_deleteDatacenter {id : String}
    (delete : ∀ s s', s.deleteDatacenter id = .ok s' → R s s') :
    Chains R (Service.deleteDatacenter id) := by
  refine chains_read_bind fun found => ?_
  cases found with
  | none => exact chains_throw _
  | some dc => exact chains_commit delete

theorem chains_storeCluster {uuid : UUID} {req : CreateClusterRequest}
    (insert : ∀ s s' req, s.insertCluster (Store.newCluster uuid req) req.pveClusterName = .ok s' →
      R s s') : Chains R (Store.createCluster uuid req) :=
  chains_bind (chains_commit fun s s' => insert s s' req) fun _ => chains_pure _

theorem chains_createCluster {uuid : UUID} {req : CreateClusterRequest}
    (insert : ∀ s s' req, s.insertCluster (Store.newCluster uuid req) req.pveClusterName = .ok s' →
      R s s') : Chains R (Service.createCluster uuid req) := by
  refine chains_ite (chains_throw _) (chains_read_bind fun _ => chains_ite (chains_throw _) ?_)
  exact chains_bind chains_checkDatacenter fun _ => chains_storeCluster insert

theorem chains_updateCluster {id : String} {req : UpdateClusterRequest}
    (update : ∀ s s' req, s.updateCluster id req = .ok s' → R s s') :
    Chains R (Service.updateCluster id req) := by
  refine chains_ite (chains_throw _) (chains_read_bind fun found => ?_)
  cases found with
  | none => exact chains_throw _
  | some cluster =>
      refine chains_read_bind fun _ => chains_ite (chains_throw _) ?_
      exact chains_bind chains_checkDatacenter fun _ => chains_commit fun s s' => update s s' _

theorem chains_deleteCluster {find : Store → Option Cluster} {key : Cluster → String}
    (delete : ∀ s s' id, s.deleteCluster id = .ok s' → R s s') :
    Chains R (Service.withCluster find fun c => commit fun s => s.deleteCluster (key c)) :=
  chains_withCluster fun _ => chains_commit fun s s' => delete s s' _

theorem chains_setClusterEnabled {id : String} {enabled : Bool}
    (set : ∀ s s', s.setClusterEnabled id enabled = .ok s' → R s s') :
    Chains R (Service.setClusterEnabled id enabled) :=
  chains_withCluster fun _ => chains_commit set

theorem chains_moveClusterToDatacenter {name : String} {dc : Option String}
    (update : ∀ s s' id req, s.updateCluster id req = .ok s' → R s s') :
    Chains R (Service.moveClusterToDatacenter name dc) :=
  chains_withCluster fun _ => chains_bind chains_checkDatacenter fun _ =>
    chains_commit fun s s' => update s s' _ _

theorem chains_addHost {clusterID : String} {uuid : UUID} {answer : Except String Token}
    {req : AddHostRequest}
    (add : ∀ s s' id req, s.addHost uuid id req = .ok s' → R s s')
    (set : ∀ s s' id status, s.setClusterStatus id status = .ok s' → R s s') :
    Chains R (Service.addHost clusterID uuid answer req) := by
  refine chains_withCluster fun cluster => chains_orThrow_bind fun _ => ?_
  refine chains_bind (chains_commit fun s s' => add s s' _ _) fun _ => ?_
  exact chains_leaveEmpty fun s s' => set s s' _ _

theorem chains_findOrCreateCluster {uuid : UUID} {datacenterID pveName address : String}
    (insert : ∀ s s' req, s.insertCluster (Store.newCluster uuid req) req.pveClusterName = .ok s' →
      R s s') : Chains R (Service.findOrCreateCluster uuid datacenterID pveName address) := by
  refine chains_read_bind fun found => ?_
  cases found with
  | none => exact chains_read_bind fun _ => chains_storeCluster insert
  | some cluster => exact chains_pure _

theorem chains_addDatacenterHost {dc : String} {uuid : UUID} {answer : Except String Token}
    {req : AddHostRequest}
    (add : ∀ s s' req, s.addDatacenterHost uuid dc req = .ok s' → R s s') :
    Chains R (Service.addDatacenterHost dc uuid answer req) := by
  refine chains_bind chains_checkDatacenter fun _ => chains_orThrow_bind fun _ => ?_
  exact chains_rename (chains_commit fun s s' => add s s' _)

theorem chains_deleteHost {id : String}
    (delete : ∀ s s', s.deleteHost id = .ok s' → R s s')
    (set : ∀ s s' id status, s.setClusterStatus id status = .ok s' → R s s') :
    Chains R (Service.deleteHost id) := by
  refine chains_read_bind fun found => ?_
  cases found with
  | none => exact chains_throw _
  | some host =>
      refine chains_bind (chains_commit delete) fun _ => chains_read_bind fun _ => ?_
      exact chains_ite (chains_ignore (chains_commit fun s s' => set s s' _ _)) (chains_pure ())

theorem chains_moveHostToCluster {hostID clusterID : String}
    (move : ∀ s s', s.moveHostToCluster hostID clusterID = .ok s' → R s s')
    (set : ∀ s s' id status, s.setClusterStatus id status = .ok s' → R s s') :
    Chains R (Service.moveHostToCluster hostID clusterID) := by
  refine chains_withCluster fun _ => chains_bind (chains_commit move) fun _ => ?_
  exact chains_leaveEmpty fun s s' => set s s' _ _

theorem exec_createCluster_ok {s t : Store} {uuid : UUID} {req : CreateClusterRequest}
    (done : s.insertCluster (Store.newCluster uuid req) req.pveClusterName = .ok t) :
    exec (Store.createCluster uuid req) s = (.ok (Store.newCluster uuid req), t) :=
  exec_commit_bind_ok done

theorem exec_createCluster_error {s : Store} {uuid : UUID} {req : CreateClusterRequest}
    {failure : String}
    (failed : s.insertCluster (Store.newCluster uuid req) req.pveClusterName = .error failure) :
    exec (Store.createCluster uuid req) s = (.error failure, s) :=
  exec_commit_bind_error failed

/-- The request for the cluster that a host of a PVE cluster brings with it. -/
def routedRequest (s : Store) (datacenterID pveName address : String) : CreateClusterRequest :=
  ⟨Service.nameFor s pveName address, some datacenterID, pveName⟩

theorem findOrCreateCluster_cases (s : Store) (uuid : UUID) (dc pveName address : String) :
    (∃ c, s.getClusterByPVEName pveName = some c ∧
      exec (Service.findOrCreateCluster uuid dc pveName address) s = (.ok c, s)) ∨
    s.getClusterByPVEName pveName = none ∧
      ((∃ t, s.insertCluster (Store.newCluster uuid (routedRequest s dc pveName address))
            pveName = .ok t ∧
          exec (Service.findOrCreateCluster uuid dc pveName address) s =
            (.ok (Store.newCluster uuid (routedRequest s dc pveName address)), t)) ∨
        ∃ failure, s.insertCluster (Store.newCluster uuid (routedRequest s dc pveName address))
            pveName = .error failure ∧
          exec (Service.findOrCreateCluster uuid dc pveName address) s = (.error failure, s)) := by
  rw [Service.findOrCreateCluster, exec_read_bind]
  cases known : s.getClusterByPVEName pveName with
  | some c => exact Or.inl ⟨c, rfl, rfl⟩
  | none =>
      change _ ∨ _ ∧ ((∃ t, _ ∧ exec (Store.createCluster uuid
          (routedRequest s dc pveName address)) s = _) ∨
        ∃ failure, _ ∧ exec (Store.createCluster uuid (routedRequest s dc pveName address)) s = _)
      refine Or.inr ⟨rfl, ?_⟩
      cases outcome : s.insertCluster (Store.newCluster uuid (routedRequest s dc pveName address))
          pveName with
      | error failure => exact Or.inr ⟨failure, rfl, exec_createCluster_error outcome⟩
      | ok t => exact Or.inl ⟨t, rfl, exec_createCluster_ok outcome⟩

end Operations

section Statements

theorem chains_addHostAutoRoute {datacenterID : String} {clusterUUID hostUUID : UUID}
    {answer : Except String Token} {probe : Except String ClusterMembership}
    {req : AddHostRequest} :
    Chains Statement
      (Service.addHostAutoRoute datacenterID clusterUUID hostUUID answer probe req) := by
  refine chains_bind chains_checkDatacenter fun _ => chains_orThrow_bind fun _ =>
    chains_orThrow_bind fun _ => chains_ite ?_ (chains_rename (chains_commit ?_))
  · refine chains_bind (chains_rename (chains_findOrCreateCluster ?_)) fun cluster => ?_
    · exact fun _ _ _ done => .insertCluster _ _ done
    refine chains_bind (chains_rename (chains_commit ?_)) fun _ => chains_leaveEmpty ?_
    · exact fun _ _ done => .addHost _ _ _ done
    · exact fun _ _ done => .setClusterStatus _ _ done
  · exact fun _ _ done => .addDatacenterHost _ _ _ done

theorem chains_promoteStandalone {uuid : UUID} {host : InventoryHost} {dc pveName : String} :
    Chains Statement (Reconciler.promoteStandalone uuid host dc pveName) := by
  refine chains_bind (chains_findOrCreateCluster ?_) fun cluster => ?_
  · exact fun _ _ _ done => .insertCluster _ _ done
  refine chains_bind (chains_commit ?_) fun _ => chains_leaveEmpty ?_
  · exact fun _ _ done => .moveHostToCluster _ _ done
  · exact fun _ _ done => .setClusterStatus _ _ done

theorem chains_reconcileLegacy {uuid : UUID} {c : Cluster} {pveName : String}
    {probe : Except String ClusterMembership} :
    Chains Statement (Reconciler.reconcileLegacy uuid c pveName probe) := by
  refine chains_ite (chains_throw _) (chains_read_bind fun hosts => chains_ite (chains_throw _) ?_)
  refine chains_orThrow_bind fun membership => chains_ite (chains_commit ?_) ?_
  · exact fun _ _ done => .setPVEClusterName _ _ done
  · split
    · refine chains_bind (chains_commit fun _ _ done => .deleteHost _ done) fun _ => ?_
      refine chains_bind (chains_commit fun _ _ done => .addDatacenterHost _ _ _ done) fun _ => ?_
      refine chains_bind (chains_ignore (chains_commit ?_)) fun _ => chains_commit ?_
      · exact fun _ _ done => .setHostStatus _ _ _ _ done
      · exact fun _ _ done => .deleteCluster _ done
    · exact chains_throw _
    · exact chains_throw _

theorem chains_perform (op : Operation) : Chains Statement (perform op) := by
  have insert : ∀ uuid s s' req,
      s.insertCluster (Store.newCluster uuid req) req.pveClusterName = .ok s' → Statement s s' :=
    fun _ _ _ _ done => .insertCluster _ _ done
  have update : ∀ s s' id req, s.updateCluster id req = .ok s' → Statement s s' :=
    fun _ _ _ _ done => .updateCluster _ _ done
  have delete : ∀ s s' id, s.deleteCluster id = .ok s' → Statement s s' :=
    fun _ _ _ done => .deleteCluster _ done
  have add : ∀ uuid s s' id req, s.addHost uuid id req = .ok s' → Statement s s' :=
    fun _ _ _ _ _ done => .addHost _ _ _ done
  have set : ∀ s s' id status, s.setClusterStatus id status = .ok s' → Statement s s' :=
    fun _ _ _ _ done => .setClusterStatus _ _ done
  cases op with
  | createDatacenter uuid name =>
      exact chains_createDatacenter fun _ _ done => .createDatacenter _ _ done
  | updateDatacenter id name =>
      exact chains_updateDatacenter fun _ _ done => .updateDatacenter _ _ done
  | deleteDatacenter id => exact chains_deleteDatacenter fun _ _ done => .deleteDatacenter _ done
  | createCluster uuid req => exact chains_ignore (chains_createCluster (insert uuid))
  | updateCluster id req => exact chains_updateCluster fun s s' => update s s' id
  | updateClusterByName name req =>
      exact chains_withCluster fun c => chains_updateCluster fun s s' => update s s' c.id
  | deleteCluster id => exact chains_deleteCluster delete
  | deleteClusterByName name => exact chains_deleteCluster delete
  | setClusterEnabled id enabled =>
      exact chains_setClusterEnabled fun _ _ done => .setClusterEnabled _ _ done
  | setClusterStatus id status => exact chains_commit fun s s' => set s s' id status
  | moveClusterToDatacenter name dc => exact chains_moveClusterToDatacenter update
  | addHost clusterID uuid answer req => exact chains_addHost (add uuid) set
  | addHostByClusterName name uuid answer req =>
      exact chains_withCluster fun _ => chains_addHost (add uuid) set
  | addHostAutoRoute dc clusterUUID hostUUID answer probe req => exact chains_addHostAutoRoute
  | addDatacenterHost dc uuid answer req =>
      exact chains_addDatacenterHost fun _ _ _ done => .addDatacenterHost _ _ _ done
  | updateHost id req => exact chains_commit fun _ _ done => .updateHost _ _ done
  | deleteHost id => exact chains_deleteHost (fun _ _ done => .deleteHost _ done) set
  | moveHostToCluster hostID clusterID =>
      exact chains_moveHostToCluster (fun _ _ done => .moveHostToCluster _ _ done) set
  | setHostStatus id status error nodeName =>
      exact chains_commit fun _ _ done => .setHostStatus _ _ _ _ done
  | formClusterFromHosts uuid req =>
      exact chains_commit fun _ _ done => .formClusterFromHosts _ _ done
  | addHostsToCluster req => exact chains_commit fun _ _ done => .addHostsToCluster _ done
  | promoteStandalone uuid host dc pveName => exact chains_promoteStandalone
  | reconcileLegacy uuid c pveName probe => exact chains_reconcileLegacy

end Statements

def Store.clusterIDs (s : Store) : List String := s.clusters.map (·.id)

/-- The host is in one cluster, or in one datacenter. -/
def Placed (s : Store) (host : InventoryHost) : Prop :=
  (host.datacenterID = "" ∧ host.clusterID ∈ s.clusterIDs) ∨
    (host.clusterID = "" ∧ host.datacenterID ∈ s.datacenters)

/-- What the keys and the references of the tables keep. -/
structure Filed (s : Store) : Prop where
  datacenters : s.datacenters.Nodup
  clusters : s.clusterIDs.Nodup
  hosts : (s.hosts.map (·.id)).Nodup
  created : "" ∉ s.datacenters
  inserted : "" ∉ s.clusterIDs
  references : ∀ c ∈ s.clusters, s.hasDatacenter c.datacenterID = true
  placed : ∀ host ∈ s.hosts, Placed s host

theorem filed_empty : Filed Store.empty where
  datacenters := List.nodup_nil
  clusters := List.nodup_nil
  hosts := List.nodup_nil
  created := List.not_mem_nil
  inserted := List.not_mem_nil
  references := List.forall_mem_nil _
  placed := List.forall_mem_nil _

section Filing

variable {s s' : Store}

theorem hasDatacenter_iff {id : Option String} :
    s.hasDatacenter id = true ↔ ∀ d ∈ id, d ∈ s.datacenters := by
  cases id <;> simp [Store.hasDatacenter]

theorem Filed.congr (filed : Filed s) (same : s'.toDB = s.toDB) : Filed s' := by
  obtain ⟨db, datacenterName, pveClusterName⟩ := s'
  obtain rfl : db = s.toDB := same
  exact ⟨filed.datacenters, filed.clusters, filed.hosts, filed.created, filed.inserted,
    filed.references, filed.placed⟩

theorem Filed.setHosts {hosts : List InventoryHost} (filed : Filed s)
    (unique : (hosts.map (·.id)).Nodup) (placed : ∀ host ∈ hosts, Placed s host) :
    Filed { s with hosts := hosts } where
  datacenters := filed.datacenters
  clusters := filed.clusters
  hosts := unique
  created := filed.created
  inserted := filed.inserted
  references := filed.references
  placed := placed

theorem Filed.mapClusters {set : Cluster → Cluster} (filed : Filed s)
    (keys : ∀ c, (set c).id = c.id)
    (references : ∀ c ∈ s.clusters, s.hasDatacenter (set c).datacenterID = true) :
    Filed { s with clusters := s.clusters.map set } := by
  have same : ({ s with clusters := s.clusters.map set } : Store).clusterIDs = s.clusterIDs := by
    simp only [Store.clusterIDs, List.map_map, Function.comp_def, keys]
  constructor
  · exact filed.datacenters
  · rw [same]
    exact filed.clusters
  · exact filed.hosts
  · exact filed.created
  · rw [same]
    exact filed.inserted
  · exact List.forall_mem_map.mpr references
  · intro host there
    rw [Placed, same]
    exact filed.placed host there

theorem filed_createDatacenter {id : UUID} {name : String} (filed : Filed s)
    (done : s.createDatacenter id name = .ok s') : Filed s' := by
  simp only [Store.createDatacenter] at done
  split_ifs at done with taken
  obtain rfl := Except.ok.inj done
  have kept : ∀ d ∈ s.datacenters, d ∈ s.datacenters ++ [id.text] :=
    fun _ => List.mem_append_left _
  constructor
  · refine List.nodup_append.mpr ⟨filed.datacenters, List.nodup_singleton _, ?_⟩
    rintro d there _ last rfl
    exact taken (List.mem_singleton.mp last ▸ there)
  · exact filed.clusters
  · exact filed.hosts
  · rintro empty
    rcases List.mem_append.mp empty with earlier | last
    · exact filed.created earlier
    · exact id.nonempty (List.mem_singleton.mp last).symm
  · exact filed.inserted
  · intro c member
    refine hasDatacenter_iff.mpr fun d here => kept d ?_
    exact hasDatacenter_iff.mp (filed.references c member) d here
  · intro host there
    exact (filed.placed host there).imp_right (And.imp_right (kept _))

theorem filed_deleteDatacenter {id : String} (filed : Filed s)
    (done : s.deleteDatacenter id = .ok s') : Filed s' := by
  simp only [Store.deleteDatacenter] at done
  split_ifs at done
  obtain rfl := Except.ok.inj done
  have keys : (s.clusters.map fun c =>
      if c.datacenterID = some id then { c with datacenterID := none } else c).map (·.id) =
        s.clusterIDs := by
    rw [List.map_map]
    refine List.map_congr_left fun c _ => ?_
    simp only [Function.comp_apply]
    split <;> rfl
  constructor
  · exact filed.datacenters.filter _
  · rw [Store.clusterIDs, keys]
    exact filed.clusters
  · exact (List.filter_sublist.map _).nodup filed.hosts
  · exact fun empty => filed.created (List.mem_of_mem_filter empty)
  · rw [Store.clusterIDs, keys]
    exact filed.inserted
  · refine List.forall_mem_map.mpr fun c member => hasDatacenter_iff.mpr ?_
    split
    · exact fun _ none_ => by cases none_
    · rename_i other
      intro d here
      refine List.mem_filter.mpr ⟨hasDatacenter_iff.mp (filed.references c member) d here, ?_⟩
      refine decide_eq_true ?_
      rintro rfl
      exact other here
  · intro host there
    obtain ⟨there, other⟩ := List.mem_filter.mp there
    rcases filed.placed host there with ⟨none_, cluster⟩ | ⟨none_, datacenter⟩
    · left
      rw [Store.clusterIDs, keys]
      exact ⟨none_, cluster⟩
    · exact Or.inr ⟨none_, List.mem_filter.mpr ⟨datacenter, other⟩⟩

theorem Filed.addCluster {cluster : Cluster} (filed : Filed s) (nonempty : cluster.id ≠ "")
    (fresh : (s.getCluster cluster.id).isSome = false)
    (reference : s.hasDatacenter cluster.datacenterID = true) :
    Filed { s with clusters := s.clusters ++ [cluster] } := by
  have keys : ({ s with clusters := s.clusters ++ [cluster] } : Store).clusterIDs =
      s.clusterIDs ++ [cluster.id] := List.map_append
  constructor
  · exact filed.datacenters
  · exact nodup_concat filed.clusters (getCluster_isNone_iff.mp fresh)
  · exact filed.hosts
  · exact filed.created
  · rw [keys]
    intro empty
    rcases List.mem_append.mp empty with earlier | last
    · exact filed.inserted earlier
    · exact nonempty (List.mem_singleton.mp last).symm
  · intro c member
    rcases List.mem_append.mp member with earlier | last
    · exact filed.references c earlier
    · rw [List.mem_singleton.mp last]
      exact reference
  · intro host there
    rw [Placed, keys]
    exact (filed.placed host there).imp_left (And.imp_right (List.mem_append_left _))

theorem filed_insertCluster {uuid : UUID} {req : CreateClusterRequest} (filed : Filed s)
    (done : s.insertCluster (Store.newCluster uuid req) req.pveClusterName = .ok s') :
    Filed s' := by
  simp only [Store.insertCluster] at done
  split_ifs at done with taken _ missing
  obtain rfl := Except.ok.inj done
  exact (filed.addCluster uuid.nonempty (Bool.eq_false_iff.mpr taken) missing).congr rfl

theorem filed_deleteCluster {id : String} (filed : Filed s) (done : s.deleteCluster id = .ok s') :
    Filed s' := by
  simp only [Store.deleteCluster] at done
  split_ifs at done
  obtain rfl := Except.ok.inj done
  constructor
  · exact filed.datacenters
  · exact (List.filter_sublist.map _).nodup filed.clusters
  · exact (List.filter_sublist.map _).nodup filed.hosts
  · exact filed.created
  · exact fun empty => filed.inserted ((List.filter_sublist.map _).subset empty)
  · exact fun c member => filed.references c (List.mem_of_mem_filter member)
  · intro host there
    obtain ⟨there, other⟩ := List.mem_filter.mp there
    refine (filed.placed host there).imp_left (And.imp_right fun cluster => ?_)
    obtain ⟨c, member, key⟩ := List.mem_map.mp cluster
    refine List.mem_map.mpr ⟨c, List.mem_filter.mpr ⟨member, ?_⟩, key⟩
    rw [key]
    exact other

theorem filed_mapCluster {id : String} {set : Cluster → Cluster} (filed : Filed s)
    (keys : ∀ c, (set c).id = c.id)
    (references : ∀ c ∈ s.clusters, s.hasDatacenter (set c).datacenterID = true) :
    Filed (s.mapCluster id set) := by
  refine filed.mapClusters ?_ ?_
  · intro c
    split
    · exact keys c
    · rfl
  · intro c member
    split
    · exact references c member
    · exact filed.references c member

theorem filed_setCluster {id : String} {set : Cluster → Cluster} (filed : Filed s)
    (keys : ∀ c, (set c).id = c.id) (references : ∀ c, (set c).datacenterID = c.datacenterID)
    (done : s.setCluster id set = .ok s') : Filed s' := by
  simp only [Store.setCluster] at done
  split_ifs at done
  obtain rfl := Except.ok.inj done
  refine filed_mapCluster filed keys fun c member => ?_
  rw [references c]
  exact filed.references c member

theorem filed_updateCluster {id : String} {req : UpdateClusterRequest} (filed : Filed s)
    (done : s.updateCluster id req = .ok s') : Filed s' := by
  simp only [Store.updateCluster] at done
  split_ifs at done with _ _ missing
  obtain rfl := Except.ok.inj done
  exact filed_mapCluster filed (fun _ => rfl) fun _ _ => missing

theorem filed_insertHost {words : String} {host : InventoryHost} (filed : Filed s)
    (one : host.clusterID = "" ∨ host.datacenterID = "")
    (done : s.insertHost words host = .ok s') : Filed s' := by
  simp only [Store.insertHost] at done
  split_ifs at done with taken refused
  obtain rfl := Except.ok.inj done
  have new : ∀ other ∈ s.hosts, other.id ≠ host.id := by
    apply row_isNone_iff.mp
    simpa using taken
  simp only [not_or, not_and] at refused
  obtain ⟨given, cluster, datacenter⟩ := refused
  refine filed.setHosts (nodup_concat filed.hosts new) ?_
  intro other there
  rcases List.mem_append.mp there with earlier | last
  · exact filed.placed other earlier
  · rw [List.mem_singleton.mp last]
    rcases one with none_ | none_
    · exact Or.inr ⟨none_, not_not.mp (datacenter (given none_))⟩
    · have some_ : host.clusterID ≠ "" := fun empty => given empty none_
      refine Or.inl ⟨none_, ?_⟩
      cases found : s.getCluster host.clusterID with
      | none => exact absurd (by rw [found]; rfl) (cluster some_)
      | some c =>
          have key : c.id = host.clusterID := by simpa using List.find?_some found
          exact List.mem_map.mpr ⟨c, List.mem_of_find?_eq_some found, key⟩

theorem filed_updateRow {id : String} {set : InventoryHost → InventoryHost} {db : DB}
    (filed : Filed s) (keys : ∀ host, (set host).id = host.id)
    (placed : ∀ host, Placed s host → Placed s (set host))
    (done : s.updateRow id set = some db) : Filed { s with toDB := db } := by
  simp only [DB.updateRow] at done
  split_ifs at done
  obtain rfl := Option.some.inj done
  refine filed.setHosts ?_ ?_
  · have same : ∀ host : InventoryHost, (if host.id = id then set host else host).id = host.id := by
      intro host
      split
      · exact keys host
      · rfl
    simp only [List.map_map, Function.comp_def, same]
    exact filed.hosts
  · refine List.forall_mem_map.mpr fun host there => ?_
    split
    · exact placed host (filed.placed host there)
    · exact filed.placed host there

theorem filed_setHost {id : String} {set : InventoryHost → InventoryHost} (filed : Filed s)
    (keys : ∀ host, (set host).id = host.id)
    (placed : ∀ host, Placed s host → Placed s (set host)) (done : s.setHost id set = .ok s') :
    Filed s' := by
  simp only [Store.setHost] at done
  split at done
  · rename_i updated
    obtain rfl := Except.ok.inj done
    exact filed_updateRow filed keys placed updated
  · cases done

theorem filed_moveHostToCluster {hostID clusterID : String} (filed : Filed s)
    (done : s.moveHostToCluster hostID clusterID = .ok s') : Filed s' := by
  simp only [Store.moveHostToCluster] at done
  split_ifs at done with refused
  simp only [Store.setHost] at done
  split at done
  · rename_i updated
    obtain rfl := Except.ok.inj done
    cases found : s.getCluster clusterID with
    | none =>
        refine absurd ⟨DB.row_of_updateRow updated, ?_⟩ refused
        rw [found]
        rfl
    | some c =>
        have key : c.id = clusterID := by simpa using List.find?_some found
        have there : clusterID ∈ s.clusterIDs :=
          List.mem_map.mpr ⟨c, List.mem_of_find?_eq_some found, key⟩
        refine filed_updateRow filed ?_ ?_ updated
        · exact fun _ => rfl
        · exact fun _ _ => Or.inl ⟨rfl, there⟩
  · cases done

theorem filed_updateHost {id : String} {req : UpdateHostRequest} (filed : Filed s)
    (done : s.updateHost id req = .ok s') : Filed s' := by
  obtain ⟨db, updated, rfl⟩ := map_eq_ok_iff.mp done
  simp only [Service.updateHost, DB.updateHost] at updated
  split_ifs at updated
  split at updated
  · rename_i changed
    obtain rfl := Except.ok.inj updated
    refine filed_updateRow filed ?_ ?_ changed
    · exact fun _ => rfl
    · exact fun _ placed => placed
  · cases updated

theorem filed_deleteHost {id : String} (filed : Filed s) (done : s.deleteHost id = .ok s') :
    Filed s' := by
  simp only [Store.deleteHost] at done
  split_ifs at done
  obtain rfl := Except.ok.inj done
  refine filed.setHosts ((List.filter_sublist.map _).nodup filed.hosts) ?_
  exact fun host there => filed.placed host (List.mem_of_mem_filter there)

theorem filed_moveHosts {clusterID : String} {updates : TokenUpdates} {ids : List String}
    {db : DB} (filed : Filed s) (there : clusterID ∈ s.clusterIDs)
    (done : DB.moveHosts clusterID updates ids s.toDB = .ok db) :
    Filed { s with toDB := db } := by
  induction ids generalizing s with
  | nil =>
      obtain rfl := Except.ok.inj done
      exact filed
  | cons id rest ih =>
      simp only [DB.moveHosts] at done
      split at done
      · rename_i next moved
        have first : Filed { s with toDB := next } := by
          refine filed_updateRow filed ?_ ?_ moved
          · intro host
            simp only [DB.moveColumns]
            split <;> rfl
          · intro host _
            have datacenter : (DB.moveColumns clusterID (updates.lookup id) host).datacenterID = "" := by
              simp only [DB.moveColumns]
              split <;> rfl
            have cluster : (DB.moveColumns clusterID (updates.lookup id) host).clusterID = clusterID := by
              simp only [DB.moveColumns]
              split <;> rfl
            exact Or.inl ⟨datacenter, by rw [cluster]; exact there⟩
        have clusters : next.clusters = s.clusters := by
          simp only [DB.updateRow] at moved
          split_ifs at moved
          rw [← Option.some.inj moved]
        refine @ih { s with toDB := next } first ?_ done
        rw [Store.clusterIDs, clusters]
        exact there
      · cases done

theorem filed_addHostsToCluster {req : AddHostsToClusterRequest} (filed : Filed s)
    (done : s.addHostsToCluster req = .ok s') : Filed s' := by
  obtain ⟨db, moved, rfl⟩ := map_eq_ok_iff.mp done
  simp only [Service.addHostsToCluster, DB.addHostsToCluster] at moved
  split at moved
  · cases moved
  · rename_i c found
    split_ifs at moved
    have key : c.id = req.clusterID := by simpa using List.find?_some found
    exact filed_moveHosts filed (List.mem_map.mpr ⟨c, List.mem_of_find?_eq_some found, key⟩) moved

theorem filed_formClusterFromHosts {uuid : UUID} {req : FormClusterFromHostsRequest}
    (filed : Filed s) (done : s.formClusterFromHosts uuid req = .ok s') : Filed s' := by
  simp only [Store.formClusterFromHosts] at done
  obtain ⟨⟨cluster, db⟩, formed, later⟩ := bind_eq_ok_iff.mp done
  split_ifs at later with taken
  obtain rfl := Except.ok.inj later
  obtain ⟨key, -, ⟨reference, -, -⟩, moved⟩ := formed_of_ok formed
  let t : Store := { s with clusters := s.clusters ++ [cluster] }
  have appended : Filed t := by
    refine filed.addCluster ?_ ?_ reference
    · exact key ▸ uuid.nonempty
    · simpa [key] using taken
  have there : uuid.text ∈ t.clusterIDs := by
    rw [← key]
    exact List.mem_map_of_mem (List.mem_append_right _ (List.mem_singleton_self cluster))
  exact (@filed_moveHosts t _ _ _ _ appended there moved).congr rfl

theorem filed_statement (statement : Statement s s') (filed : Filed s) : Filed s' := by
  cases statement with
  | createDatacenter id name done => exact filed_createDatacenter filed done
  | updateDatacenter id name done =>
      simp only [Store.updateDatacenter] at done
      split_ifs at done
      obtain rfl := Except.ok.inj done
      exact filed.congr rfl
  | deleteDatacenter id done => exact filed_deleteDatacenter filed done
  | insertCluster id req done => exact filed_insertCluster filed done
  | setPVEClusterName id pveName done =>
      simp only [Store.setPVEClusterName] at done
      split_ifs at done
      obtain rfl := Except.ok.inj done
      exact filed.congr rfl
  | updateCluster id req done => exact filed_updateCluster filed done
  | deleteCluster id done => exact filed_deleteCluster filed done
  | setClusterEnabled id enabled done =>
      refine filed_setCluster filed ?_ ?_ done
      · exact fun _ => rfl
      · exact fun _ => rfl
  | setClusterStatus id status done =>
      refine filed_setCluster filed ?_ ?_ done
      · exact fun _ => rfl
      · exact fun _ => rfl
  | addHost id clusterID req done => exact filed_insertHost filed (Or.inr rfl) done
  | addDatacenterHost id datacenterID req done => exact filed_insertHost filed (Or.inl rfl) done
  | updateHost id req done => exact filed_updateHost filed done
  | setHostStatus id status error nodeName done =>
      refine filed_setHost filed ?_ ?_ done
      · exact fun _ => rfl
      · exact fun _ placed => placed
  | moveHostToCluster hostID clusterID done => exact filed_moveHostToCluster filed done
  | deleteHost id done => exact filed_deleteHost filed done
  | formClusterFromHosts id req done => exact filed_formClusterFromHosts filed done
  | addHostsToCluster req done => exact filed_addHostsToCluster filed done

theorem filed_operate (op : Operation) (filed : Filed s) : Filed (operate s op) :=
  (chains_perform op).keeps (fun _ _ step => filed_statement step) filed

theorem filed_states {ops : List Operation} : ∀ s ∈ states operate Store.empty ops, Filed s :=
  invariant_states (fun _ op filed => filed_operate op filed) filed_empty

theorem filed_foldl (filed : Filed s) (ops : List Operation) : Filed (ops.foldl operate s) :=
  invariant_foldl (P := Filed) (fun _ op filed => filed_operate op filed) filed ops

end Filing

section Tree

/-- A cluster of the tree, with its hosts filled in. -/
structure ClusterEntry where
  cluster : Cluster
  hosts : List InventoryHost

structure DatacenterEntry where
  datacenter : Datacenter
  clusters : List ClusterEntry
  hosts : List InventoryHost

/-- `GetDatacenterTree`: the datacenters and the orphan clusters. -/
def Store.getDatacenterTree (s : Store) : List DatacenterEntry × List ClusterEntry :=
  let clusters : List ClusterEntry :=
    s.listClusters.map fun c => ⟨c, s.listHostsByCluster c.id⟩
  let datacenters : List DatacenterEntry := s.listDatacenters.map fun id =>
    { datacenter := ⟨id, s.datacenterName id⟩
      clusters := clusters.filter fun entry => entry.cluster.datacenterID = some id
      hosts := s.listHostsByDatacenter id }
  (datacenters, clusters.filter fun entry => entry.cluster.datacenterID = none)

/-- Every cluster that the tree lists, under a datacenter or as an orphan. -/
def treeClusters (tree : List DatacenterEntry × List ClusterEntry) : List ClusterEntry :=
  tree.1.flatMap (·.clusters) ++ tree.2

/-- Every host that the tree lists, under a cluster or under a datacenter. -/
def treeHosts (tree : List DatacenterEntry × List ClusterEntry) : List InventoryHost :=
  tree.1.flatMap (fun entry => entry.clusters.flatMap (·.hosts) ++ entry.hosts) ++
    tree.2.flatMap (·.hosts)

theorem perm_flatMap_filter {α κ : Type} [DecidableEq κ] {key : α → κ} {keys : List κ}
    {rows : List α} (unique : keys.Nodup) (covered : ∀ row ∈ rows, key row ∈ keys) :
    (keys.flatMap fun k => rows.filter (key · = k)).Perm rows := by
  induction keys generalizing rows with
  | nil =>
      have none : rows = [] := List.eq_nil_iff_forall_not_mem.mpr fun row member =>
        List.not_mem_nil (covered row member)
      rw [none]
      exact List.Perm.refl _
  | cons k keys ih =>
      obtain ⟨fresh, unique⟩ := List.nodup_cons.mp unique
      have others : (keys.flatMap fun other => rows.filter (key · = other)) =
          keys.flatMap fun other => (rows.filter fun row => !decide (key row = k)).filter
            (key · = other) := by
        refine List.flatMap_congr fun other member => ?_
        rw [List.filter_filter]
        refine List.filter_congr fun row _ => ?_
        have apart : other ≠ k := fun same => fresh (same ▸ member)
        by_cases here : key row = other <;> simp [here, apart]
      rw [List.flatMap_cons, others]
      refine (List.Perm.append_left _ (ih unique ?_)).trans (List.filter_append_perm _ rows)
      intro row member
      obtain ⟨there, apart⟩ := List.mem_filter.mp member
      rcases List.mem_cons.mp (covered row there) with here | later
      · simp [here] at apart
      · exact later

variable {s : Store}

theorem perm_listClusters : s.listClusters.Perm s.clusters := List.perm_insertionSort _ _

theorem perm_listDatacenters : s.listDatacenters.Perm s.datacenters :=
  List.perm_insertionSort _ _

/-- The clusters of the datacenters and the orphans are all that were listed. -/
theorem perm_treeClusters (filed : Filed s) :
    (treeClusters s.getDatacenterTree).Perm
      (s.listClusters.map fun c => ⟨c, s.listHostsByCluster c.id⟩) := by
  let keys : List (Option String) := s.listDatacenters.map some ++ [none]
  have unique : keys.Nodup := by
    refine List.nodup_append.mpr ⟨?_, List.nodup_singleton _, ?_⟩
    · exact (perm_listDatacenters.nodup_iff.mpr filed.datacenters).map (Option.some_injective _)
    · rintro _ given _ last rfl
      obtain ⟨d, -, same⟩ := List.mem_map.mp given
      cases same.trans (List.mem_singleton.mp last)
  let clusters : List ClusterEntry :=
    s.listClusters.map fun c => ⟨c, s.listHostsByCluster c.id⟩
  have covered : ∀ entry ∈ clusters, entry.cluster.datacenterID ∈ keys := by
    refine List.forall_mem_map.mpr fun c listed => ?_
    have referenced := filed.references c (perm_listClusters.mem_iff.mp listed)
    cases reference : c.datacenterID with
    | none => exact List.mem_append_right _ (List.mem_singleton_self none)
    | some d =>
        have there : d ∈ s.datacenters := hasDatacenter_iff.mp referenced d reference
        exact List.mem_append_left _ (List.mem_map_of_mem (perm_listDatacenters.mem_iff.mpr there))
  have all := @perm_flatMap_filter _ _ _ (fun entry : ClusterEntry => entry.cluster.datacenterID)
    _ _ unique covered
  simpa [treeClusters, Store.getDatacenterTree, keys, clusters, List.flatMap_append,
    List.flatMap_map] using all

/-- The hosts under the clusters first, then those under the datacenters. -/
theorem perm_treeHosts (tree : List DatacenterEntry × List ClusterEntry) :
    (treeHosts tree).Perm
      ((treeClusters tree).flatMap (·.hosts) ++ tree.1.flatMap (·.hosts)) := by
  have apart := List.flatMap_append_perm tree.1
    (fun entry => entry.clusters.flatMap (·.hosts)) (fun entry => entry.hosts)
  refine (List.Perm.append_right _ apart.symm).trans ?_
  rw [treeClusters, List.flatMap_append, List.flatMap_assoc, List.append_assoc, List.append_assoc]
  exact List.Perm.append_left _ List.perm_append_comm

theorem perm_clusterHosts (filed : Filed s) :
    ((treeClusters s.getDatacenterTree).flatMap (·.hosts)).Perm
      (s.hosts.filter (·.datacenterID = "")) := by
  have listed : ((treeClusters s.getDatacenterTree).flatMap (·.hosts)).Perm
      (s.clusterIDs.flatMap s.listHostsByCluster) := by
    refine ((perm_treeClusters filed).flatMap_right _).trans ?_
    rw [List.flatMap_map, Store.clusterIDs, List.flatMap_map]
    exact perm_listClusters.flatMap_right _
  have rows : s.clusterIDs.flatMap s.listHostsByCluster = s.clusterIDs.flatMap fun k =>
      (s.hosts.filter (·.datacenterID = "")).filter (·.clusterID = k) := by
    refine List.flatMap_congr fun k member => ?_
    have unselected : ∀ host ∈ s.hosts, host.clusterID = k → host.datacenterID = "" := by
      rintro host there rfl
      rcases filed.placed host there with ⟨none, -⟩ | ⟨none, -⟩
      · exact none
      · exact absurd (none ▸ member) filed.inserted
    have same : s.hosts.filter (·.clusterID = k) =
        (s.hosts.filter (·.datacenterID = "")).filter (·.clusterID = k) := by
      rw [List.filter_filter]
      refine List.filter_congr fun host there => ?_
      by_cases here : host.clusterID = k
      · simp [here, unselected host there here]
      · simp [here]
    rw [DB.listHostsByCluster, ← same]
    refine (List.map_congr_left fun host member => ?_).trans (List.map_id' _)
    obtain ⟨there, here⟩ := List.mem_filter.mp member
    rw [← unselected host there (of_decide_eq_true here)]
  rw [rows] at listed
  refine listed.trans (perm_flatMap_filter filed.clusters fun host member => ?_)
  obtain ⟨there, none⟩ := List.mem_filter.mp member
  rcases filed.placed host there with ⟨-, member⟩ | ⟨-, member⟩
  · exact member
  · exact absurd (of_decide_eq_true none ▸ member) filed.created

theorem perm_standaloneHosts (filed : Filed s) :
    (s.listDatacenters.flatMap s.listHostsByDatacenter).Perm
      (s.hosts.filter fun host => !decide (host.datacenterID = "")) := by
  have rows : s.datacenters.flatMap s.listHostsByDatacenter = s.datacenters.flatMap fun k =>
      (s.hosts.filter fun host => !decide (host.datacenterID = "")).filter
        (·.datacenterID = k) := by
    refine List.flatMap_congr fun k member => ?_
    rw [Store.listHostsByDatacenter, List.filter_filter]
    refine List.filter_congr fun host there => ?_
    rcases filed.placed host there with ⟨none, -⟩ | ⟨none, -⟩
    · have other : k ≠ "" := fun same => filed.created (same ▸ member)
      simp [none, Ne.symm other]
    · by_cases here : host.datacenterID = k
      · have other : k ≠ "" := fun same => filed.created (same ▸ member)
        simp [here, none, other]
      · simp [here]
  refine (perm_listDatacenters.flatMap_right _).trans ?_
  rw [rows]
  refine perm_flatMap_filter filed.datacenters fun host member => ?_
  obtain ⟨there, given⟩ := List.mem_filter.mp member
  rcases filed.placed host there with ⟨none, -⟩ | ⟨-, member⟩
  · simp [none] at given
  · exact member

/-- Each host is in one cluster or one datacenter that exists, and the tree lists each cluster
and each host once. -/
structure FiledOnce (s : Store) : Prop where
  owned : ∀ host ∈ s.hosts,
    (host.clusterID ≠ "" ∧ host.datacenterID = "" ∧ (s.getCluster host.clusterID).isSome) ∨
      (host.clusterID = "" ∧ host.datacenterID ≠ "" ∧
        (s.getDatacenter host.datacenterID).isSome)
  clusters : ((treeClusters s.getDatacenterTree).map (·.cluster)).Perm s.clusters
  clusterIDs : (s.clusters.map (·.id)).Nodup
  hosts : (treeHosts s.getDatacenterTree).Perm s.hosts
  hostIDs : (s.hosts.map (·.id)).Nodup

theorem filedOnce_of_filed (filed : Filed s) : FiledOnce s := by
  constructor
  · intro host there
    rcases filed.placed host there with ⟨none, member⟩ | ⟨none, member⟩
    · refine Or.inl ⟨fun empty => filed.inserted (empty ▸ member), none, ?_⟩
      obtain ⟨c, row, key⟩ := List.mem_map.mp member
      exact List.find?_isSome.mpr ⟨c, row, by simpa using key⟩
    · refine Or.inr ⟨none, fun empty => filed.created (empty ▸ member), ?_⟩
      rw [Store.getDatacenter, if_pos member]
      rfl
  · refine ((perm_treeClusters filed).map _).trans ?_
    rw [List.map_map]
    exact (List.Perm.of_eq (List.map_id' _)).trans perm_listClusters
  · exact filed.clusters
  · refine (perm_treeHosts _).trans ?_
    have standalone : s.getDatacenterTree.1.flatMap (·.hosts) =
        s.listDatacenters.flatMap s.listHostsByDatacenter := by
      rw [Store.getDatacenterTree, List.flatMap_map]
    rw [standalone]
    refine ((perm_clusterHosts filed).append (perm_standaloneHosts filed)).trans ?_
    exact List.filter_append_perm _ _
  · exact filed.hosts

/-- In every run from empty tables every host is filed once. -/
theorem every_host_is_filed_once (ops : List Operation) :
    ∀ s ∈ states operate Store.empty ops, FiledOnce s := by
  intro s reached
  exact filedOnce_of_filed (filed_states s reached)

theorem office_filed_once :
    FiledOnce ((renamedThenCreated "office").foldl operate Store.empty) :=
  every_host_is_filed_once (renamedThenCreated "office") _ (last_mem_states _ _)

end Tree

end Inventory
