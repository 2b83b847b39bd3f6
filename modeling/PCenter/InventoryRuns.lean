import PCenter.InventoryStore
import PCenter.Lib.Transition

/-!
# Runs of the inventory

The operations in any order, and what they do to the names under which clusters are polled.
A display name is unique by its column, and the agent name of a new cluster is copied from
it; but the display name can be changed later and the agent name never is.
-/

namespace Inventory

open GoText Procedure Transition

inductive Operation where
  | createDatacenter (uuid : UUID) (name : String)
  | updateDatacenter (id name : String)
  | deleteDatacenter (id : String)
  | createCluster (uuid : UUID) (req : CreateClusterRequest)
  | updateCluster (id : String) (req : UpdateClusterRequest)
  | updateClusterByName (name : String) (req : UpdateClusterRequest)
  | deleteCluster (id : String)
  | deleteClusterByName (name : String)
  | setClusterEnabled (id : String) (enabled : Bool)
  | setClusterStatus (id : String) (status : ClusterStatus)
  | moveClusterToDatacenter (name : String) (datacenterID : Option String)
  | addHost (clusterID : String) (uuid : UUID) (answer : Except String Token)
      (req : AddHostRequest)
  | addHostByClusterName (name : String) (uuid : UUID) (answer : Except String Token)
      (req : AddHostRequest)
  | addHostAutoRoute (datacenterID : String) (clusterUUID hostUUID : UUID)
      (answer : Except String Token) (probe : Except String ClusterMembership)
      (req : AddHostRequest)
  | addDatacenterHost (datacenterID : String) (uuid : UUID) (answer : Except String Token)
      (req : AddHostRequest)
  | updateHost (id : String) (req : UpdateHostRequest)
  | deleteHost (id : String)
  | moveHostToCluster (hostID clusterID : String)
  | setHostStatus (id : String) (status : HostStatus) (error nodeName : String)
  | formClusterFromHosts (uuid : UUID) (req : FormClusterFromHostsRequest)
  | addHostsToCluster (req : AddHostsToClusterRequest)
  | promoteStandalone (uuid : UUID) (host : InventoryHost) (datacenterID pveName : String)
  | reconcileLegacy (uuid : UUID) (c : Cluster) (pveName : String)
      (probe : Except String ClusterMembership)

def perform : Operation → Action Unit
  | .createDatacenter uuid name => Service.createDatacenter uuid name
  | .updateDatacenter id name => Service.updateDatacenter id name
  | .deleteDatacenter id => Service.deleteDatacenter id
  | .createCluster uuid req => ignore (Service.createCluster uuid req)
  | .updateCluster id req => Service.updateCluster id req
  | .updateClusterByName name req => Service.updateClusterByName name req
  | .deleteCluster id => Service.deleteCluster id
  | .deleteClusterByName name => Service.deleteClusterByName name
  | .setClusterEnabled id enabled => Service.setClusterEnabled id enabled
  | .setClusterStatus id status => commit fun s => s.setClusterStatus id status
  | .moveClusterToDatacenter name dc => Service.moveClusterToDatacenter name dc
  | .addHost clusterID uuid answer req => Service.addHost clusterID uuid answer req
  | .addHostByClusterName name uuid answer req =>
      Service.addHostByClusterName name uuid answer req
  | .addHostAutoRoute dc clusterUUID hostUUID answer probe req =>
      Service.addHostAutoRoute dc clusterUUID hostUUID answer probe req
  | .addDatacenterHost dc uuid answer req => Service.addDatacenterHost dc uuid answer req
  | .updateHost id req => commit fun s => s.updateHost id req
  | .deleteHost id => Service.deleteHost id
  | .moveHostToCluster hostID clusterID => Service.moveHostToCluster hostID clusterID
  | .setHostStatus id status error nodeName =>
      commit fun s => s.setHostStatus id status error nodeName
  | .formClusterFromHosts uuid req => commit fun s => s.formClusterFromHosts uuid req
  | .addHostsToCluster req => commit fun s => s.addHostsToCluster req
  | .promoteStandalone uuid host dc pveName =>
      Reconciler.promoteStandalone uuid host dc pveName
  | .reconcileLegacy uuid c pveName probe => Reconciler.reconcileLegacy uuid c pveName probe

/-- An operation keeps what it did before it failed. -/
def operate (s : Store) (op : Operation) : Store := (exec (perform op) s).2

/-- What an operation is to name: a new cluster, a cluster that gets another display name,
or a new standalone host. -/
inductive Naming where
  | created (name agentName : String)
  | renamed (id name : String)
  | standalone (hostID : String)

namespace Store

variable (s : Store)

/-- A new cluster, when its display name is free and its datacenter exists. -/
def created (name agentName : String) (datacenterID : Option String) : Option Naming :=
  if (s.getClusterByName name).isNone ∧ s.hasDatacenter datacenterID then
    some (.created name agentName)
  else none

/-- The cluster that a host of a PVE cluster is to bring with it. -/
def routed (pveName address datacenterID : String) : Option Naming :=
  if (s.getClusterByPVEName pveName).isSome then none
  else
    s.created (Service.nameFor s pveName address) (Service.nameFor s pveName address)
      (some datacenterID)

def updated (id : String) (req : UpdateClusterRequest) : Option Naming :=
  let name := trimSpace req.name
  if name = "" ∨ ¬s.hasDatacenter req.datacenterID ∨
      s.clusters.any fun d => d.id ≠ id ∧ d.name = name then none
  else some (.renamed id name)

def formed (req : FormClusterFromHostsRequest) : Option Naming :=
  let name := trimSpace req.name
  if name = "" ∨ req.hostIDs = [] ∨ ¬req.hostIDs.all fun id => (s.row id).isSome then none
  else
    s.created name (if req.agentName = "" then name else req.agentName)
      (if req.datacenterID = "" then none else some req.datacenterID)

def requested (req : CreateClusterRequest) : Option Naming :=
  let name := trimSpace req.name
  if name = "" then none else s.created name name req.datacenterID

def autoRouted (datacenterID : String) (hostUUID : UUID) (answer : Except String Token)
    (probe : Except String ClusterMembership) (req : AddHostRequest) : Option Naming := do
  let req ← (Service.resolveHostAuth answer req).toOption
  let membership ← probe.toOption
  if membership.isCluster then s.routed membership.clusterName req.address datacenterID
  else some (.standalone hostUUID.text)

/-- What the operation is to name in the state that it finds. -/
def naming : Operation → Option Naming
  | .createCluster _ req => s.requested req
  | .updateCluster id req => s.updated id req
  | .updateClusterByName name req =>
      (s.getClusterByName name).bind fun cluster => s.updated cluster.id req
  | .formClusterFromHosts _ req => s.formed req
  | .addHostAutoRoute datacenterID _ hostUUID answer probe req =>
      s.autoRouted datacenterID hostUUID answer probe req
  | .promoteStandalone _ host datacenterID pveName => s.routed pveName host.address datacenterID
  | .addDatacenterHost _ uuid _ _ => some (.standalone uuid.text)
  | .reconcileLegacy uuid _ _ _ => some (.standalone uuid.text)
  | _ => none

/-- Nothing but the cluster with the key is polled under the name. -/
def Unused (id : Option String) (name : String) : Prop :=
  (∀ c ∈ s.clusters, some c.id ≠ id → c.configName ≠ name) ∧
    ∀ host ∈ s.hosts, host.clusterID = "" → standaloneName host.id ≠ name

/-- The name is one that nothing else has. -/
def Fresh : Naming → Prop
  | .created name agentName =>
      agentName ∉ s.agentNames ∧ s.Unused none (if agentName = "" then name else agentName)
  | .renamed id name =>
      ∀ c ∈ s.clusters, c.id = id → c.agentName = "" → s.Unused (some id) name
  | .standalone hostID => ∀ c ∈ s.clusters, c.configName ≠ standaloneName hostID

instance (n : Naming) : Decidable (s.Fresh n) :=
  match n with
  | .created _ _ => inferInstanceAs (Decidable (_ ∧ _ ∧ _))
  | .renamed id _ =>
      inferInstanceAs (Decidable (∀ c ∈ s.clusters, c.id = id → c.agentName = "" → _ ∧ _))
  | .standalone hostID =>
      inferInstanceAs (Decidable (∀ c ∈ s.clusters, c.configName ≠ standaloneName hostID))

end Store

/-- The operation gives no name that something else has. -/
def NamesApart (s : Store) (op : Operation) : Prop := ∀ n ∈ s.naming op, s.Fresh n

instance (s : Store) (op : Operation) : Decidable (NamesApart s op) :=
  inferInstanceAs (Decidable (∀ n ∈ s.naming op, s.Fresh n))

/-- Keys are keys, and no two things are polled under one name. -/
structure Named (s : Store) : Prop where
  clusterIDs : (s.clusters.map (·.id)).Nodup
  hostIDs : (s.hosts.map (·.id)).Nodup
  datacenters : s.datacenters.Nodup
  inserted : ∀ c ∈ s.clusters, c.id ≠ ""
  agentNames : s.agentNames.Nodup
  configNames : (s.clusters.map (·.configName)).Nodup
  apart : ∀ c ∈ s.clusters, ∀ host ∈ s.hosts, host.clusterID = "" →
    standaloneName host.id ≠ c.configName

theorem named_empty : Named Store.empty where
  clusterIDs := List.nodup_nil
  hostIDs := List.nodup_nil
  datacenters := List.nodup_nil
  inserted := List.forall_mem_nil _
  agentNames := List.nodup_nil
  configNames := List.nodup_nil
  apart := List.forall_mem_nil _

section Statements

variable {s s' : Store}

/-- What the names depend on in a row. -/
def Cluster.naming (c : Cluster) : String × String × String := (c.id, c.agentName, c.configName)

/-- No row, no name and no standalone host is new. -/
structure Within (s s' : Store) : Prop where
  rows : (s'.clusters.map Cluster.naming).Sublist (s.clusters.map Cluster.naming)
  hostIDs : (s'.hosts.map (·.id)).Sublist (s.hosts.map (·.id))
  standalone : ∀ host' ∈ s'.hosts, host'.clusterID = "" →
    ∃ host ∈ s.hosts, host.clusterID = "" ∧ host.id = host'.id
  datacenters : s.datacenters.Nodup → s'.datacenters.Nodup

theorem Named.within (named : Named s) (within : Within s s') : Named s' := by
  have columns : ∀ view : String × String × String → String,
      (s'.clusters.map fun c => view c.naming).Sublist (s.clusters.map fun c => view c.naming) := by
    intro view
    have mapped := within.rows.map view
    simpa only [List.map_map, Function.comp_def] using mapped
  have row : ∀ c' ∈ s'.clusters, ∃ c ∈ s.clusters, c.naming = c'.naming := by
    intro c' member
    exact List.mem_map.mp (within.rows.subset (List.mem_map_of_mem member))
  constructor
  · exact (columns Prod.fst).nodup named.clusterIDs
  · exact within.hostIDs.nodup named.hostIDs
  · exact within.datacenters named.datacenters
  · intro c' member
    obtain ⟨c, earlier, same⟩ := row c' member
    have key : c.id = c'.id := congrArg Prod.fst same
    rw [← key]
    exact named.inserted c earlier
  · exact (columns (·.2.1)).nodup named.agentNames
  · exact (columns (·.2.2)).nodup named.configNames
  · intro c' member host' there alone
    obtain ⟨c, earlier, same⟩ := row c' member
    obtain ⟨host, before, single, key⟩ := within.standalone host' there alone
    have name : c.configName = c'.configName := congrArg (·.2.2) same
    rw [← name, ← key]
    exact named.apart c earlier host before single

theorem within_of_hosts (hosts : s'.hosts.Sublist s.hosts)
    (rows : (s'.clusters.map Cluster.naming).Sublist (s.clusters.map Cluster.naming))
    (datacenters : s.datacenters.Nodup → s'.datacenters.Nodup) : Within s s' := by
  refine ⟨rows, hosts.map _, ?_, datacenters⟩
  intro host there alone
  exact ⟨host, hosts.subset there, alone, rfl⟩

theorem within_refl : Within s s :=
  within_of_hosts (List.Sublist.refl _) (List.Sublist.refl _) id

theorem within_setCluster {id : String} {set : Cluster → Cluster}
    (same : ∀ c, (set c).naming = c.naming) (done : s.setCluster id set = .ok s') :
    Within s s' := by
  simp only [Store.setCluster] at done
  split_ifs at done
  obtain rfl := Except.ok.inj done
  refine within_of_hosts (List.Sublist.refl _) ?_ (fun unique => unique)
  have rows : ∀ c : Cluster, (if c.id = id then set c else c).naming = c.naming := by
    intro c
    split
    · exact same c
    · rfl
  simp only [Store.mapCluster, List.map_map, Function.comp_def, rows]
  exact List.Sublist.refl _

theorem within_setClusterStatus {id : String} {status : ClusterStatus}
    (done : s.setClusterStatus id status = .ok s') : Within s s' := by
  refine within_setCluster ?_ done
  exact fun _ => rfl

theorem within_setClusterEnabled {id : String} {enabled : Bool}
    (done : s.setClusterEnabled id enabled = .ok s') : Within s s' := by
  refine within_setCluster ?_ done
  exact fun _ => rfl

theorem within_deleteCluster {id : String} (done : s.deleteCluster id = .ok s') :
    Within s s' := by
  simp only [Store.deleteCluster] at done
  split_ifs at done
  obtain rfl := Except.ok.inj done
  exact within_of_hosts List.filter_sublist (List.filter_sublist.map _) (fun unique => unique)

theorem within_deleteHost {id : String} (done : s.deleteHost id = .ok s') : Within s s' := by
  simp only [Store.deleteHost] at done
  split_ifs at done
  obtain rfl := Except.ok.inj done
  exact within_of_hosts List.filter_sublist (List.Sublist.refl _) (fun unique => unique)

theorem clusters_deleteHost {id : String} (done : s.deleteHost id = .ok s') :
    s'.clusters = s.clusters := by
  simp only [Store.deleteHost] at done
  split_ifs at done
  obtain rfl := Except.ok.inj done
  rfl

theorem within_setPVEClusterName {id pveName : String}
    (done : s.setPVEClusterName id pveName = .ok s') : Within s s' := by
  simp only [Store.setPVEClusterName] at done
  split_ifs at done
  obtain rfl := Except.ok.inj done
  exact within_of_hosts (List.Sublist.refl _) (List.Sublist.refl _) (fun unique => unique)

theorem within_createDatacenter {id : UUID} {name : String}
    (done : s.createDatacenter id name = .ok s') : Within s s' := by
  simp only [Store.createDatacenter] at done
  split_ifs at done with taken
  obtain rfl := Except.ok.inj done
  refine within_of_hosts (List.Sublist.refl _) (List.Sublist.refl _) ?_
  intro unique
  exact List.nodup_append.mpr ⟨unique, List.nodup_singleton _, by
    intro a member b only
    obtain rfl := List.mem_singleton.mp only
    rintro rfl
    exact taken member⟩

theorem within_updateDatacenter {id name : String}
    (done : s.updateDatacenter id name = .ok s') : Within s s' := by
  simp only [Store.updateDatacenter] at done
  split_ifs at done
  obtain rfl := Except.ok.inj done
  exact within_of_hosts (List.Sublist.refl _) (List.Sublist.refl _) (fun unique => unique)

theorem within_deleteDatacenter {id : String} (done : s.deleteDatacenter id = .ok s') :
    Within s s' := by
  simp only [Store.deleteDatacenter] at done
  split_ifs at done
  obtain rfl := Except.ok.inj done
  refine within_of_hosts List.filter_sublist ?_ (fun unique => unique.filter _)
  have rows : ∀ c : Cluster, (if c.datacenterID = some id then { c with datacenterID := none }
      else c).naming = c.naming := by
    intro c
    split <;> rfl
  simp only [List.map_map, Function.comp_def, rows]
  exact List.Sublist.refl _

theorem within_updateRow {id : String} {set : InventoryHost → InventoryHost} {db : DB}
    (keyed : ∀ host, (set host).id = host.id)
    (stays : ∀ host, (set host).clusterID = "" → host.clusterID = "")
    (done : s.updateRow id set = some db) : Within s { s with toDB := db } := by
  simp only [DB.updateRow] at done
  split_ifs at done
  obtain rfl := Option.some.inj done
  have keys : ∀ host : InventoryHost, (if host.id = id then set host else host).id = host.id := by
    intro host
    split
    · exact keyed host
    · rfl
  refine ⟨List.Sublist.refl _, ?_, ?_, fun unique => unique⟩
  · simp only [List.map_map, Function.comp_def, keys]
    exact List.Sublist.refl _
  · intro host' there alone
    obtain ⟨host, earlier, rfl⟩ := List.mem_map.mp there
    refine ⟨host, earlier, ?_, (keys host).symm⟩
    split at alone
    · exact stays host alone
    · exact alone

theorem within_setHost {id : String} {set : InventoryHost → InventoryHost}
    (keyed : ∀ host, (set host).id = host.id)
    (stays : ∀ host, (set host).clusterID = "" → host.clusterID = "")
    (done : s.setHost id set = .ok s') : Within s s' := by
  simp only [Store.setHost] at done
  split at done
  · rename_i db updated
    obtain rfl := Except.ok.inj done
    exact within_updateRow keyed stays updated
  · exact nomatch done

theorem within_setHostStatus {id error nodeName : String} {status : HostStatus}
    (done : s.setHostStatus id status error nodeName = .ok s') : Within s s' := by
  refine within_setHost ?_ ?_ done
  · exact fun _ => rfl
  · exact fun _ alone => alone

theorem within_moveHostToCluster {hostID clusterID : String} (cluster : clusterID ≠ "")
    (done : s.moveHostToCluster hostID clusterID = .ok s') : Within s s' := by
  simp only [Store.moveHostToCluster] at done
  split_ifs at done
  refine within_setHost ?_ ?_ done
  · exact fun _ => rfl
  · exact fun _ alone => absurd alone cluster

theorem within_updateHostColumns {id : String} {req : UpdateHostRequest} {db : DB}
    (done : s.updateRow id (DB.updateHostColumns req) = some db) :
    Within s { s with toDB := db } := by
  refine within_updateRow ?_ ?_ done
  · exact fun _ => rfl
  · exact fun _ alone => alone

theorem within_updateHost {id : String} {req : UpdateHostRequest}
    (done : s.updateHost id req = .ok s') : Within s s' := by
  obtain ⟨db, updated, rfl⟩ := map_eq_ok_iff.mp done
  simp only [Service.updateHost, DB.updateHost] at updated
  split_ifs at updated
  split at updated
  · rename_i db' changed
    obtain rfl := Except.ok.inj updated
    exact within_updateHostColumns changed
  · cases updated

theorem Within.trans {s₁ s₂ s₃ : Store} (first : Within s₁ s₂) (later : Within s₂ s₃) :
    Within s₁ s₃ := by
  refine ⟨later.rows.trans first.rows, later.hostIDs.trans first.hostIDs, ?_, ?_⟩
  · intro host there alone
    obtain ⟨host₂, there₂, alone₂, key₂⟩ := later.standalone host there alone
    obtain ⟨host₁, there₁, alone₁, key₁⟩ := first.standalone host₂ there₂ alone₂
    exact ⟨host₁, there₁, alone₁, key₁.trans key₂⟩
  · intro unique
    exact later.datacenters (first.datacenters unique)

theorem within_moveHosts {clusterID : String} {updates : TokenUpdates} {ids : List String}
    {db : DB} (cluster : clusterID ≠ "")
    (done : DB.moveHosts clusterID updates ids s.toDB = .ok db) :
    Within s { s with toDB := db } := by
  induction ids generalizing s with
  | nil =>
      obtain rfl := Except.ok.inj done
      exact within_refl
  | cons id rest ih =>
      simp only [DB.moveHosts] at done
      split at done
      · rename_i next moved
        have first : Within s { s with toDB := next } := by
          refine within_updateRow ?_ ?_ moved
          · intro host
            simp only [DB.moveColumns]
            split <;> rfl
          · intro host alone
            simp only [DB.moveColumns] at alone
            split at alone <;> exact absurd alone cluster
        have others : Within { s with toDB := next } { s with toDB := db } :=
          @ih { s with toDB := next } done
        exact first.trans others
      · cases done

theorem within_addHostsToCluster {req : AddHostsToClusterRequest}
    (done : s.addHostsToCluster req = .ok s') : Within s s' := by
  obtain ⟨db, moved, rfl⟩ := map_eq_ok_iff.mp done
  simp only [Service.addHostsToCluster, DB.addHostsToCluster] at moved
  split at moved
  · cases moved
  · split_ifs at moved with missing
    exact within_moveHosts missing moved

end Statements

section Insertions

variable {s s' : Store}

theorem getCluster_isNone_iff {id : String} :
    (s.getCluster id).isSome = false ↔ ∀ c ∈ s.clusters, c.id ≠ id := by
  simp [DB.getCluster]

theorem row_isNone_iff {id : String} :
    (s.row id).isSome = false ↔ ∀ host ∈ s.hosts, host.id ≠ id := by
  simp [DB.row]

theorem nodup_concat {A B : Type} {view : A → B} {l : List A} {a : A} (unique : (l.map view).Nodup)
    (fresh : ∀ b ∈ l, view b ≠ view a) : ((l ++ [a]).map view).Nodup := by
  rw [List.map_append, List.nodup_append]
  refine ⟨unique, List.nodup_singleton _, ?_⟩
  intro x member y only
  obtain ⟨b, there, rfl⟩ := List.mem_map.mp member
  obtain rfl := List.mem_singleton.mp only
  exact fresh b there

theorem named_insertHost {words : String} {host : InventoryHost} (named : Named s)
    (fresh : host.clusterID = "" → s.Fresh (.standalone host.id))
    (done : s.insertHost words host = .ok s') : Named s' := by
  simp only [Store.insertHost] at done
  split_ifs at done with taken
  obtain rfl := Except.ok.inj done
  have new : ∀ other ∈ s.hosts, other.id ≠ host.id := by
    apply row_isNone_iff.mp
    simpa using taken
  refine { named with hostIDs := nodup_concat named.hostIDs new, apart := ?_ }
  intro c member other there alone
  rcases List.mem_append.mp there with earlier | last
  · exact named.apart c member other earlier alone
  · obtain rfl := List.mem_singleton.mp last
    exact (fresh alone c member).symm

theorem insertCluster_eq_ok_iff {cluster : Cluster} {pveName : String} :
    s.insertCluster cluster pveName = .ok s' ↔
      (s.getCluster cluster.id).isSome = false ∧
        (s.created cluster.name cluster.agentName cluster.datacenterID =
          some (.created cluster.name cluster.agentName)) ∧
        s' = { s with
          clusters := s.clusters ++ [cluster]
          pveClusterName := Function.update s.pveClusterName cluster.id pveName } := by
  simp only [Store.insertCluster, Store.created]
  cases s.getCluster cluster.id <;> cases s.getClusterByName cluster.name <;>
    cases s.hasDatacenter cluster.datacenterID <;> simp [eq_comm]

theorem named_append {cluster : Cluster} {db : Store} (named : Named s) (id : cluster.id ≠ "")
    (new : (s.getCluster cluster.id).isSome = false)
    (fresh : s.Fresh (.created cluster.name cluster.agentName))
    (clusters : db.clusters = s.clusters ++ [cluster]) (hosts : db.hosts = s.hosts)
    (datacenters : db.datacenters = s.datacenters) : Named db := by
  obtain ⟨agent, others, alone⟩ := fresh
  have unlike : ∀ c ∈ s.clusters, c.configName ≠ cluster.configName :=
    fun c member => others c member nofun
  constructor
  · rw [clusters]
    exact nodup_concat named.clusterIDs (getCluster_isNone_iff.mp new)
  · rw [hosts]
    exact named.hostIDs
  · rw [datacenters]
    exact named.datacenters
  · intro c member
    rw [clusters] at member
    rcases List.mem_append.mp member with earlier | last
    · exact named.inserted c earlier
    · obtain rfl := List.mem_singleton.mp last
      exact id
  · rw [Store.agentNames, clusters]
    refine nodup_concat named.agentNames ?_
    intro c member same
    exact agent (same ▸ List.mem_map_of_mem member)
  · rw [clusters]
    exact nodup_concat named.configNames unlike
  · intro c member host there single
    rw [clusters] at member
    rw [hosts] at there
    rcases List.mem_append.mp member with earlier | last
    · exact named.apart c earlier host there single
    · obtain rfl := List.mem_singleton.mp last
      exact alone host there single

theorem named_createCluster {uuid : UUID} {req : CreateClusterRequest} (named : Named s)
    (fresh : ∀ n ∈ s.created req.name req.name req.datacenterID, s.Fresh n) :
    Named (exec (Store.createCluster uuid req) s).2 := by
  refine leaves_bind ?_ ?_
  · refine leaves_commit named ?_
    intro t inserted
    obtain ⟨new, created, rfl⟩ := insertCluster_eq_ok_iff.mp inserted
    exact named_append named uuid.nonempty new (fresh _ created) rfl rfl rfl
  · intro _ t _ later
    exact later

theorem named_updateCluster {id : String} {req : UpdateClusterRequest} (named : Named s)
    (fresh : s.Fresh (.renamed id req.name)) (done : s.updateCluster id req = .ok s') :
    Named s' := by
  simp only [Store.updateCluster] at done
  split_ifs at done
  obtain rfl := Except.ok.inj done
  let set : Cluster → Cluster := fun c => if c.id = id then Store.updateClusterColumns req c else c
  have ids : ∀ c, (set c).id = c.id := by
    intro c
    simp only [set]
    split <;> rfl
  have agents : ∀ c, (set c).agentName = c.agentName := by
    intro c
    simp only [set]
    split <;> rfl
  have name : ∀ c, (set c).configName = c.configName ∨
      c.id = id ∧ c.agentName = "" ∧ (set c).configName = req.name := by
    intro c
    by_cases here : c.id = id
    · by_cases blank : c.agentName = ""
      · right
        simp [set, here, blank, Cluster.configName, Store.updateClusterColumns]
      · left
        simp [set, here, blank, Cluster.configName, Store.updateClusterColumns]
    · left
      simp [set, here]
  constructor
  · have keys : (s.clusters.map set).map (·.id) = s.clusters.map (·.id) := by
      simp only [List.map_map, Function.comp_def, ids]
    exact keys ▸ named.clusterIDs
  · exact named.hostIDs
  · exact named.datacenters
  · intro c member
    obtain ⟨before, there, rfl⟩ := List.mem_map.mp member
    have key : (set before).id = before.id := ids before
    exact fun blank => named.inserted before there (key.symm.trans blank)
  · have names : (s.clusters.map set).map (·.agentName) = s.agentNames := by
      simp only [Store.agentNames, List.map_map, Function.comp_def, agents]
    change ((s.clusters.map set).map (·.agentName)).Nodup
    rw [names]
    exact named.agentNames
  · have keys := List.pairwise_map.mp named.clusterIDs
    have rows := keys.and (List.pairwise_map.mp named.configNames)
    simp only [Store.mapCluster, List.map_map]
    refine List.pairwise_map.mpr (rows.imp_of_mem ?_)
    rintro c d first second ⟨key, unlike⟩ same
    have set_same : (set c).configName = (set d).configName := same
    rcases name c with keptC | ⟨hereC, blankC, newC⟩ <;>
      rcases name d with keptD | ⟨hereD, blankD, newD⟩
    · exact unlike (keptC ▸ keptD ▸ set_same)
    · have apart := (fresh d second hereD blankD).1 c first (by simpa [← hereD] using key)
      exact apart (keptC ▸ newD ▸ set_same)
    · have apart := (fresh c first hereC blankC).1 d second (by simpa [← hereC] using key.symm)
      exact apart (keptD ▸ newC ▸ set_same.symm)
    · exact key (hereC.trans hereD.symm)
  · intro c member host there alone
    obtain ⟨before, earlier, rfl⟩ := List.mem_map.mp member
    change standaloneName host.id ≠ (set before).configName
    rcases name before with kept | ⟨here, blank, new⟩
    · rw [kept]
      exact named.apart before earlier host there alone
    · rw [new]
      exact (fresh before earlier here blank).2 host there alone

theorem rows_of_moveHosts {clusterID : String} {updates : TokenUpdates} {ids : List String}
    {db db' : DB} (done : DB.moveHosts clusterID updates ids db = .ok db') :
    ∀ id ∈ ids, (db.row id).isSome = true := by
  induction ids generalizing db with
  | nil => exact List.forall_mem_nil _
  | cons id rest ih =>
      simp only [DB.moveHosts] at done
      split at done
      · rename_i next moved
        have keyed : ∀ host, (DB.moveColumns clusterID (updates.lookup id) host).id = host.id := by
          intro host
          simp only [DB.moveColumns]
          split <;> rfl
        refine List.forall_mem_cons.mpr ⟨DB.row_of_updateRow moved, ?_⟩
        intro k member
        have later := ih done k member
        rw [DB.row_updateRow keyed moved] at later
        split at later
        · simpa using later
        · exact later
      · cases done

theorem formed_of_ok {uuid : UUID} {req : FormClusterFromHostsRequest} {cluster : Cluster} {db : DB}
    (done : Service.formClusterFromHosts s.toDB uuid.text req = .ok (cluster, db)) :
    cluster.id = uuid.text ∧ s.formed req = some (.created cluster.name cluster.agentName) ∧
      (s.hasDatacenter cluster.datacenterID = true ∧ cluster.status = .active ∧
        req.hostIDs ≠ []) ∧
      DB.moveHosts uuid.text req.tokenUpdates req.hostIDs
        { s.toDB with clusters := s.clusters ++ [cluster] } = .ok db := by
  simp only [Service.formClusterFromHosts, DB.formClusterFromHosts] at done
  split_ifs at done with unnamed shown dc
  all_goals
    obtain ⟨_, moved, pair⟩ := map_eq_ok_iff.mp done
    obtain ⟨rfl, rfl⟩ := Prod.mk.inj pair
    have rows := rows_of_moveHosts moved
    have there : ∀ id ∈ req.hostIDs, (s.row id).isSome = true := rows
    refine ⟨rfl, ?_, ⟨?_, rfl, ?_⟩, moved⟩
    · simp_all [Store.formed, Store.created, Store.hasDatacenter]
    · simp_all [Store.hasDatacenter]
    · assumption

theorem named_formClusterFromHosts {uuid : UUID} {req : FormClusterFromHostsRequest}
    (named : Named s) (fresh : ∀ n ∈ s.formed req, s.Fresh n)
    (done : s.formClusterFromHosts uuid req = .ok s') : Named s' := by
  simp only [Store.formClusterFromHosts] at done
  obtain ⟨⟨cluster, db⟩, formed, later⟩ := bind_eq_ok_iff.mp done
  split_ifs at later with taken
  obtain rfl := Except.ok.inj later
  obtain ⟨key, naming, -, moved⟩ := formed_of_ok formed
  let t : Store := { s with
    clusters := s.clusters ++ [cluster]
    pveClusterName := Function.update s.pveClusterName uuid.text "" }
  have appended : Named t := by
    refine @named_append s cluster t named ?_ ?_ (fresh _ naming) rfl rfl rfl
    · exact key ▸ uuid.nonempty
    · simpa [key] using taken
  exact appended.within (@within_moveHosts t _ _ _ _ uuid.nonempty moved)

end Insertions

section Operations

variable {s : Store} {A : Type}

theorem named_commit {statement : Store → Except String Store} (named : Named s)
    (kept : ∀ t, statement s = .ok t → Within s t) : Named (exec (commit statement) s).2 :=
  leaves_commit named fun t done => named.within (kept t done)

theorem leaves_withCluster {P : Store → Prop} {find : Store → Option Cluster}
    {next : Cluster → Action Unit} (start : P s)
    (kept : ∀ c, find s = some c → P (exec (next c) s).2) :
    P (exec (Service.withCluster find next) s).2 := by
  rw [Service.withCluster, exec_read_bind]
  split
  · exact start
  · rename_i c found
    exact kept c found

theorem exec_checkDatacenter_bind {id : Option String} {next : Unit → Action A} :
    exec (Service.checkDatacenter id >>= next) s =
      if s.hasDatacenter id then exec (next ()) s else (.error "datacenter not found", s) := by
  have checked : exec (Service.checkDatacenter id) s =
      if s.hasDatacenter id then (.ok (), s) else (.error "datacenter not found", s) := by
    rw [Service.checkDatacenter, exec_read_bind]
    split <;> rfl
  rw [exec_bind, checked]
  split_ifs <;> rfl

theorem leaves_checkDatacenter {P : Store → Prop} {id : Option String} {next : Unit → Action A}
    (start : P s) (later : s.hasDatacenter id = true → P (exec (next ()) s).2) :
    P (exec (Service.checkDatacenter id >>= next) s).2 := by
  rw [exec_checkDatacenter_bind]
  split_ifs with there
  · exact later there
  · exact start

theorem named_leaveEmpty {cluster : Cluster} {status : ClusterStatus} (named : Named s) :
    Named (exec (Service.leaveEmpty cluster status) s).2 := by
  rw [Service.leaveEmpty]
  split
  · exact named_commit named fun _ done => within_setClusterStatus done
  · exact named

theorem inserted_of_getCluster {id : String} {c : Cluster} (named : Named s)
    (found : s.getCluster id = some c) : id ≠ "" := by
  have key : c.id = id := by simpa using List.find?_some found
  exact key ▸ named.inserted c (List.mem_of_find?_eq_some found)

theorem named_createDatacenter {uuid : UUID} {name : String} (named : Named s) :
    Named (exec (Service.createDatacenter uuid name) s).2 := by
  rw [Service.createDatacenter]
  split
  · exact named
  · rw [exec_read_bind]
    split
    · exact named
    · exact named_commit named fun _ done => within_createDatacenter done

theorem named_updateDatacenter {id name : String} (named : Named s) :
    Named (exec (Service.updateDatacenter id name) s).2 := by
  rw [Service.updateDatacenter]
  split
  · exact named
  · rw [exec_read_bind]
    split
    · exact named
    · rw [exec_read_bind]
      split
      · exact named
      · exact named_commit named fun _ done => within_updateDatacenter done

theorem named_deleteDatacenter {id : String} (named : Named s) :
    Named (exec (Service.deleteDatacenter id) s).2 := by
  rw [Service.deleteDatacenter, exec_read_bind]
  split
  · exact named
  · exact named_commit named fun _ done => within_deleteDatacenter done

theorem named_operate_createCluster {uuid : UUID} {req : CreateClusterRequest} (named : Named s)
    (apart : ∀ n ∈ s.requested req, s.Fresh n) :
    Named (exec (Service.createCluster uuid req) s).2 := by
  rw [Service.createCluster]
  split
  · exact named
  · rename_i nonempty
    rw [exec_read_bind]
    split
    · exact named
    · refine leaves_checkDatacenter named ?_
      intro _
      rw [Store.requested, if_neg nonempty] at apart
      exact named_createCluster named apart

theorem named_operate_updateCluster {id : String} {req : UpdateClusterRequest} (named : Named s)
    (apart : ∀ n ∈ s.updated id req, s.Fresh n) :
    Named (exec (Service.updateCluster id req) s).2 := by
  rw [Service.updateCluster]
  split
  · exact named
  · rename_i nonempty
    rw [exec_read_bind]
    split
    · exact named
    · rw [exec_read_bind]
      split
      · exact named
      · refine leaves_checkDatacenter named ?_
        intro there
        refine leaves_commit named ?_
        intro t done
        refine named_updateCluster named (apart _ ?_) done
        simp only [Store.updateCluster] at done
        split_ifs at done with known taken
        simp [Store.updated, nonempty, there] at taken ⊢
        exact taken

theorem named_deleteCluster {find : Store → Option Cluster} {key : Cluster → String}
    (named : Named s) :
    Named (exec (Service.withCluster find fun c => commit fun s => s.deleteCluster (key c)) s).2 :=
  leaves_withCluster named fun _ _ =>
    named_commit named fun _ done => within_deleteCluster done

theorem fresh_own_name {c : Cluster} (named : Named s) (member : c ∈ s.clusters) :
    s.Fresh (.renamed c.id c.name) := by
  intro d there key blank
  obtain rfl : d = c := List.inj_on_of_nodup_map named.clusterIDs there member key
  have polled : d.configName = d.name := by simp [Cluster.configName, blank]
  rw [← polled]
  constructor
  · intro other earlier apart same
    have equal := List.inj_on_of_nodup_map named.configNames earlier there same
    exact apart (congrArg (fun c => some c.id) equal)
  · exact named.apart d there

theorem named_moveClusterToDatacenter {name : String} {datacenterID : Option String}
    (named : Named s) :
    Named (exec (Service.moveClusterToDatacenter name datacenterID) s).2 := by
  refine leaves_withCluster named ?_
  intro c found
  refine leaves_checkDatacenter named ?_
  intro _
  refine leaves_commit named ?_
  intro t done
  exact named_updateCluster named (fresh_own_name named (List.mem_of_find?_eq_some found)) done

theorem named_insertCommit {words : String} {host : InventoryHost} (named : Named s)
    (fresh : host.clusterID = "" → s.Fresh (.standalone host.id)) :
    Named (exec (commit fun s => s.insertHost words host) s).2 :=
  leaves_commit named fun _ done => named_insertHost named fresh done

theorem named_addHost {clusterID : String} {uuid : UUID} {req : AddHostRequest} (named : Named s)
    (cluster : clusterID ≠ "") : Named (exec (commit fun s => s.addHost uuid clusterID req) s).2 :=
  named_insertCommit named fun alone => absurd alone cluster

theorem named_addDatacenterHost {datacenterID : String} {uuid : UUID} {req : AddHostRequest}
    (named : Named s) (fresh : s.Fresh (.standalone uuid.text)) :
    Named (exec (commit fun s => s.addDatacenterHost uuid datacenterID req) s).2 :=
  named_insertCommit named fun _ => fresh

theorem named_operate_addHost {clusterID : String} {uuid : UUID} {answer : Except String Token}
    {req : AddHostRequest} (named : Named s) :
    Named (exec (Service.addHost clusterID uuid answer req) s).2 := by
  refine leaves_withCluster named ?_
  intro c found
  refine leaves_orThrow_bind named ?_
  intro req _
  refine leaves_bind (named_addHost named (inserted_of_getCluster named found)) ?_
  intro _ t _ later
  exact named_leaveEmpty later

theorem named_findOrCreateCluster {uuid : UUID} {dc pveName address : String} (named : Named s)
    (apart : ∀ n ∈ s.routed pveName address dc, s.Fresh n) :
    Named (exec (Service.findOrCreateCluster uuid dc pveName address) s).2 := by
  rw [Service.findOrCreateCluster, exec_read_bind]
  split
  · exact named
  · rename_i unknown
    rw [exec_read_bind]
    refine named_createCluster named ?_
    intro n created
    exact apart n (by simpa [Store.routed, unknown] using created)

theorem inserted_findOrCreateCluster {uuid : UUID} {dc pveName address : String} {c : Cluster}
    {t : Store} (named : Named s)
    (found : Yields (Service.findOrCreateCluster uuid dc pveName address) s c t) : c.id ≠ "" := by
  rw [Yields, Service.findOrCreateCluster, exec_read_bind] at found
  split at found
  · rename_i known there
    obtain ⟨rfl, -⟩ := yields_pure.mp found
    simp only [Store.getClusterByPVEName] at there
    split_ifs at there
    exact named.inserted known (List.mem_of_find?_eq_some there)
  · obtain ⟨_, _, _, made⟩ := yields_bind.mp found
    obtain ⟨_, _, _, last⟩ := yields_bind.mp made
    obtain ⟨rfl, -⟩ := yields_pure.mp last
    exact uuid.nonempty

theorem named_operate_addDatacenterHost {dc : String} {uuid : UUID}
    {answer : Except String Token} {req : AddHostRequest} (named : Named s)
    (fresh : s.Fresh (.standalone uuid.text)) :
    Named (exec (Service.addDatacenterHost dc uuid answer req) s).2 := by
  refine leaves_checkDatacenter named ?_
  intro _
  refine leaves_orThrow_bind named ?_
  intro req _
  exact named_addDatacenterHost named fresh

theorem named_operate_addHostAutoRoute {dc : String} {clusterUUID hostUUID : UUID}
    {answer : Except String Token} {probe : Except String ClusterMembership}
    {req : AddHostRequest} (named : Named s)
    (apart : ∀ n ∈ s.autoRouted dc hostUUID answer probe req, s.Fresh n) :
    Named (exec (Service.addHostAutoRoute dc clusterUUID hostUUID answer probe req) s).2 := by
  refine leaves_checkDatacenter named ?_
  intro _
  refine leaves_orThrow_bind named ?_
  intro resolved auth
  refine leaves_orThrow_bind named ?_
  intro membership probed
  cases probe with
  | error failure => exact nomatch probed
  | ok answered =>
      obtain rfl : answered = membership := Except.ok.inj probed
      rw [Store.autoRouted, auth] at apart
      change ∀ n ∈ if answered.isCluster then
          s.routed answered.clusterName resolved.address dc
        else some (.standalone hostUUID.text), s.Fresh n at apart
      split
      · rename_i member
        rw [if_pos member] at apart
        refine leaves_bind (named_findOrCreateCluster named apart) ?_
        intro c t found routed
        have cluster := inserted_findOrCreateCluster named (yields_rename.mp found)
        refine leaves_bind (named_addHost routed cluster) ?_
        intro _ u _ later
        exact named_leaveEmpty later
      · rename_i alone
        rw [if_neg alone] at apart
        exact named_addDatacenterHost named (apart _ rfl)

theorem named_deleteHost {id : String} (named : Named s) :
    Named (exec (Service.deleteHost id) s).2 := by
  rw [Service.deleteHost, exec_read_bind]
  split
  · exact named
  · refine leaves_bind (named_commit named fun _ done => within_deleteHost done) ?_
    intro _ t _ later
    rw [exec_read_bind]
    split
    · exact named_commit later fun _ done => within_setClusterStatus done
    · exact later

theorem named_moveHostToCluster {hostID clusterID : String} (named : Named s) :
    Named (exec (Service.moveHostToCluster hostID clusterID) s).2 := by
  refine leaves_withCluster named ?_
  intro c found
  have cluster := inserted_of_getCluster named found
  refine leaves_bind (named_commit named fun _ done => within_moveHostToCluster cluster done) ?_
  intro _ t _ later
  exact named_leaveEmpty later

theorem named_promoteStandalone {uuid : UUID} {host : InventoryHost} {dc pveName : String}
    (named : Named s) (apart : ∀ n ∈ s.routed pveName host.address dc, s.Fresh n) :
    Named (exec (Reconciler.promoteStandalone uuid host dc pveName) s).2 := by
  refine leaves_bind (named_findOrCreateCluster named apart) ?_
  intro c t found routed
  have cluster := inserted_findOrCreateCluster named found
  refine leaves_bind (named_commit routed fun _ done => within_moveHostToCluster cluster done) ?_
  intro _ u _ later
  exact named_leaveEmpty later

theorem named_reconcileLegacy {uuid : UUID} {c : Cluster} {pveName : String}
    {probe : Except String ClusterMembership} (named : Named s)
    (fresh : s.Fresh (.standalone uuid.text)) :
    Named (exec (Reconciler.reconcileLegacy uuid c pveName probe) s).2 := by
  rw [Reconciler.reconcileLegacy]
  split
  · exact named
  · rw [exec_read_bind]
    split
    · exact named
    · refine leaves_orThrow_bind named ?_
      intro membership _
      split
      · exact named_commit named fun _ done => within_setPVEClusterName done
      · split
        · rename_i host datacenterID _ _
          refine leaves_bind (named_commit named fun _ done => within_deleteHost done) ?_
          intro _ t deleted without
          refine leaves_bind (named_addDatacenterHost without ?_) ?_
          · simpa only [Store.Fresh, clusters_deleteHost (yields_commit.mp deleted)] using fresh
          intro _ u _ added
          refine leaves_bind (named_commit added fun _ done => within_setHostStatus done) ?_
          intro _ v _ restored
          exact named_commit restored fun _ done => within_deleteCluster done
        · exact named
        · exact named

theorem named_operate {op : Operation} (named : Named s) (apart : NamesApart s op) :
    Named (operate s op) := by
  rw [operate]
  cases op with
  | createDatacenter uuid name => exact named_createDatacenter named
  | updateDatacenter id name => exact named_updateDatacenter named
  | deleteDatacenter id => exact named_deleteDatacenter named
  | createCluster uuid req =>
      rw [perform, exec_ignore]
      exact named_operate_createCluster named apart
  | updateCluster id req => exact named_operate_updateCluster named apart
  | updateClusterByName name req =>
      refine leaves_withCluster named ?_
      intro c found
      have naming : s.naming (.updateClusterByName name req) = s.updated c.id req :=
        (congrArg (Option.bind · _) found).trans (Option.bind_some _ _)
      rw [NamesApart, naming] at apart
      exact named_operate_updateCluster named apart
  | deleteCluster id => exact named_deleteCluster named
  | deleteClusterByName name => exact named_deleteCluster named
  | setClusterEnabled id enabled =>
      exact leaves_withCluster named fun _ _ =>
        named_commit named fun _ done => within_setClusterEnabled done
  | setClusterStatus id status =>
      exact named_commit named fun _ done => within_setClusterStatus done
  | moveClusterToDatacenter name dc => exact named_moveClusterToDatacenter named
  | addHost clusterID uuid answer req => exact named_operate_addHost named
  | addHostByClusterName name uuid answer req =>
      exact leaves_withCluster named fun _ _ => named_operate_addHost named
  | addHostAutoRoute dc clusterUUID hostUUID answer probe req =>
      exact named_operate_addHostAutoRoute named apart
  | addDatacenterHost dc uuid answer req =>
      exact named_operate_addDatacenterHost named (apart _ rfl)
  | updateHost id req => exact named_commit named fun _ done => within_updateHost done
  | deleteHost id => exact named_deleteHost named
  | moveHostToCluster hostID clusterID => exact named_moveHostToCluster named
  | setHostStatus id status error nodeName =>
      exact named_commit named fun _ done => within_setHostStatus done
  | formClusterFromHosts uuid req =>
      have naming : s.naming (.formClusterFromHosts uuid req) = s.formed req := rfl
      rw [NamesApart, naming] at apart
      exact leaves_commit named fun _ done => named_formClusterFromHosts named apart done
  | addHostsToCluster req =>
      exact named_commit named fun _ done => within_addHostsToCluster done
  | promoteStandalone uuid host dc pveName => exact named_promoteStandalone named apart
  | reconcileLegacy uuid c pveName probe => exact named_reconcileLegacy named (apart _ rfl)

end Operations

section Configs

variable {s : Store} {secrets : String → String}

theorem standaloneName_injective : Function.Injective standaloneName := by
  intro a b same
  have texts := congrArg String.toList same
  simp only [standaloneName, String.toList_append] at texts
  exact String.toList_inj.mp (List.append_cancel_left texts)

theorem name_of_clusterConfig {c : Cluster} {config : PveCluster.ClusterConfig}
    (made : s.clusterConfig secrets c = some config) : config.name = c.configName := by
  rw [Store.clusterConfig] at made
  split at made
  · exact nomatch made
  · split at made
    · exact nomatch made
    · dsimp only at made
      split_ifs at made <;>
        exact (congrArg PveCluster.ClusterConfig.name (Option.some.inj made)).symm

theorem name_of_standaloneConfig {host : InventoryHost} {config : PveCluster.ClusterConfig}
    (made : Store.standaloneConfig host = some config) : config.name = standaloneName host.id := by
  simp only [Store.standaloneConfig] at made
  split_ifs at made
  exact (congrArg PveCluster.ClusterConfig.name (Option.some.inj made)).symm

/-- The names of what a filter makes, when they can be told from what it is made of. -/
theorem sublist_filterMap {A B C : Type} {make : A → Option B} {after : B → C} {before : A → C}
    (same : ∀ a b, make a = some b → after b = before a) (l : List A) :
    ((l.filterMap make).map after).Sublist (l.map before) := by
  induction l with
  | nil => exact List.Sublist.refl _
  | cons a l ih =>
      cases made : make a with
      | none => simpa [made] using ih.cons (before a)
      | some b => simpa [made, same a b made] using ih.cons_cons (before a)

theorem names_of_clusters :
    ((s.listClusters.filterMap (s.clusterConfig secrets)).map (·.name)).Sublist
      (s.listClusters.map (·.configName)) :=
  sublist_filterMap (fun _ _ made => name_of_clusterConfig made) _

theorem mem_standalone {id : String} {config : PveCluster.ClusterConfig}
    (member : config ∈ (s.listHostsByDatacenter id).filterMap Store.standaloneConfig) :
    ∃ host ∈ s.hosts, host.clusterID = "" ∧ host.datacenterID = id ∧
      config.name = standaloneName host.id := by
  obtain ⟨host, listed, made⟩ := List.mem_filterMap.mp member
  obtain ⟨there, belongs⟩ := List.mem_filter.mp listed
  obtain ⟨dc, alone⟩ := of_decide_eq_true belongs
  exact ⟨host, there, alone, dc, name_of_standaloneConfig made⟩

theorem nodup_standalone {id : String} (named : Named s) :
    (((s.listHostsByDatacenter id).filterMap Store.standaloneConfig).map (·.name)).Nodup := by
  have names : (s.hosts.map fun host => standaloneName host.id).Nodup := by
    have mapped := named.hostIDs.map standaloneName_injective
    simpa only [List.map_map, Function.comp_def] using mapped
  have listed := sublist_filterMap
    (fun host config => @name_of_standaloneConfig host config) (s.listHostsByDatacenter id)
  exact (listed.trans (List.filter_sublist.map _)).nodup names

/-- Under names that are apart the pollers' configurations have distinct names. -/
theorem nodup_getClusterConfigs (named : Named s) :
    ((s.getClusterConfigs secrets).map (·.name)).Nodup := by
  have sorted : (s.listClusters.map (·.configName)).Perm (s.clusters.map (·.configName)) :=
    (List.perm_insertionSort _ _).map _
  have listed : s.listDatacenters.Perm s.datacenters := List.perm_insertionSort _ _
  rw [Store.getClusterConfigs, List.map_append, List.nodup_append]
  refine ⟨?_, ?_, ?_⟩
  · exact names_of_clusters.nodup (sorted.nodup_iff.mpr named.configNames)
  · rw [List.map_flatMap, List.nodup_flatMap]
    refine ⟨fun id _ => nodup_standalone named, ?_⟩
    refine (listed.nodup_iff.mpr named.datacenters).imp ?_
    intro a b different name first second
    obtain ⟨config, member, rfl⟩ := List.mem_map.mp first
    obtain ⟨config', member', same⟩ := List.mem_map.mp second
    obtain ⟨host, there, -, dc, own⟩ := mem_standalone member
    obtain ⟨host', there', -, dc', own'⟩ := mem_standalone member'
    have keys : host'.id = host.id :=
      standaloneName_injective (own'.symm.trans (same.trans own))
    have equal := List.inj_on_of_nodup_map named.hostIDs there' there keys
    exact different (dc ▸ dc' ▸ congrArg _ equal.symm)
  · intro name first name' second same
    obtain ⟨c, member, rfl⟩ := List.mem_map.mp (names_of_clusters.subset first)
    obtain ⟨config, member', rfl⟩ := List.mem_map.mp second
    obtain ⟨id, -, made⟩ := List.mem_flatMap.mp member'
    obtain ⟨host, there, alone, -, own⟩ := mem_standalone made
    have row : c ∈ s.clusters := (List.mem_insertionSort _).mp member
    exact named.apart c row host there alone (own.symm.trans same.symm)

end Configs

/-- No two clusters share an agent name and no two configurations a name. -/
def Distinct (s : Store) : Prop :=
  s.agentNames.Nodup ∧ ∀ secrets, ((s.getClusterConfigs secrets).map (·.name)).Nodup

/-- In a run whose operations give no name that something else has, agent names and the names
of the configurations identify what is polled. -/
theorem distinct_of_names_apart {ops : List Operation}
    (apart : Along operate NamesApart Store.empty ops) :
    ∀ s ∈ states operate Store.empty ops, Distinct s := by
  have all : ∀ s ∈ states operate Store.empty ops, Named s := by
    apply invariant_along (fun _ _ named apart => named_operate named apart) named_empty apart
  intro s member
  exact ⟨(all s member).agentNames, fun _ => nodup_getClusterConfigs (all s member)⟩

def withToken (address : String) : AddHostRequest :=
  { address := address, insecure := true, username := "", password := ""
    tokenID := "root@pam!pcenter", tokenSecret := "secret" }

/-- A cluster with one host that is online. -/
def bringUp (cluster host : UUID) (name address : String) : List Operation :=
  [.createCluster cluster ⟨name, none, ""⟩,
    .addHost cluster.text host (.error "") (withToken address),
    .setHostStatus host.text .online "" "", .setClusterStatus cluster.text .active]

/-- A key with the given text. -/
def drawn (text : String) (more : 0 < text.length) : UUID := ⟨text, by
  rintro rfl
  exact absurd more (by decide)⟩

theorem given_d1 : 0 < "d-1".length := by decide
theorem given_c1 : 0 < "c-1".length := by decide
theorem given_c2 : 0 < "c-2".length := by decide
theorem given_h1 : 0 < "h-1".length := by decide
theorem given_h2 : 0 < "h-2".length := by decide
theorem given_h3 : 0 < "h-3".length := by decide

/-- A cluster is renamed and another one is created under the second name. -/
def renamedThenCreated (name : String) : List Operation :=
  bringUp (drawn "c-1" given_c1) (drawn "h-1" given_h1) "lab" "10.0.0.1:8006" ++
    Operation.updateCluster "c-1" ⟨"old lab", none, true⟩ ::
    bringUp (drawn "c-2" given_c2) (drawn "h-2" given_h2) name "10.0.0.2:8006"

theorem office_apart : Along operate NamesApart Store.empty (renamedThenCreated "office") := by
  decide +kernel

theorem distinct_office :
    Along operate NamesApart Store.empty (renamedThenCreated "office") ∧
      ∀ s ∈ states operate Store.empty (renamedThenCreated "office"), Distinct s :=
  ⟨office_apart, distinct_of_names_apart office_apart⟩

/-- The former display name is still the agent name of the renamed cluster. -/
theorem agent_name_shared :
    ¬((renamedThenCreated "lab").foldl operate Store.empty).agentNames.Nodup ∧
      ¬((((renamedThenCreated "lab").foldl operate Store.empty).getClusterConfigs
        fun _ => "").map (·.name)).Nodup := by
  decide +kernel

end Inventory
