import PCenter.InventoryStatus

/-!
# The clusters behind the clusters

A cluster of the inventory can be correlated to a PVE cluster by its name. No index keeps these
names apart. A host that is routed or promoted joins the cluster that has the name, or brings a
new one when there is none; a request to create a cluster and `ReconcileLegacy` write a name
without looking for it.
-/

namespace Inventory

open GoText Procedure Transition

/-- At most one cluster carries a name. -/
def Unambiguous (s : Store) : Prop :=
  ∀ c ∈ s.clusters, ∀ d ∈ s.clusters, s.pveClusterName c.id ≠ "" →
    s.pveClusterName c.id = s.pveClusterName d.id → c.id = d.id

instance (s : Store) : Decidable (Unambiguous s) :=
  inferInstanceAs (Decidable (∀ c ∈ s.clusters, ∀ d ∈ s.clusters, s.pveClusterName c.id ≠ "" →
    s.pveClusterName c.id = s.pveClusterName d.id → c.id = d.id))

namespace Store

variable (s : Store)

/-- The legacy cluster is there and answers as a PVE cluster. -/
def correlated (c : Cluster) (pveName : String) (probe : Except String ClusterMembership) :
    Option String :=
  match probe with
  | .ok membership =>
      if pveName = "" ∧ ((s.listHostsByCluster c.id).any fun host => host.tokenSecret ≠ "") ∧
          membership.isCluster ∧ (s.getCluster c.id).isSome then
        some membership.clusterName
      else none
  | .error _ => none

/-- The key of the cluster that gets a name without a lookup, with the name. -/
def correlating : Operation → Option (String × String)
  | .createCluster uuid req =>
      if (s.requested req).isSome ∧ (s.getCluster uuid.text).isNone then
        some (uuid.text, req.pveClusterName)
      else none
  | .reconcileLegacy _ c pveName probe =>
      (s.correlated c pveName probe).map fun name => (c.id, name)
  | _ => none

/-- No other cluster carries the name. -/
def NameFree (id name : String) : Prop :=
  name ≠ "" → ∀ c ∈ s.clusters, c.id ≠ id → s.pveClusterName c.id ≠ name

instance (id name : String) : Decidable (s.NameFree id name) :=
  inferInstanceAs (Decidable
    (name ≠ "" → ∀ c ∈ s.clusters, c.id ≠ id → s.pveClusterName c.id ≠ name))

end Store

def CorrelatesApart (s : Store) (op : Operation) : Prop :=
  ∀ pair ∈ s.correlating op, s.NameFree pair.1 pair.2

instance (s : Store) (op : Operation) : Decidable (CorrelatesApart s op) :=
  inferInstanceAs (Decidable (∀ pair ∈ s.correlating op, s.NameFree pair.1 pair.2))

section Statements

variable {s s' : Store}

/-- The statement is about the hosts alone. -/
def HostsOnly (s s' : Store) : Prop := ∃ hosts, s' = { s with hosts := hosts }

theorem hostsOnly_insertHost {words : String} {host : InventoryHost}
    (done : s.insertHost words host = .ok s') : HostsOnly s s' := by
  simp only [Store.insertHost] at done
  split_ifs at done
  exact ⟨_, (Except.ok.inj done).symm⟩

theorem hostsOnly_updateRow {id : String} {set : InventoryHost → InventoryHost} {db : DB}
    (done : s.updateRow id set = some db) : HostsOnly s { s with toDB := db } := by
  simp only [DB.updateRow] at done
  split_ifs at done
  obtain rfl := Option.some.inj done
  exact ⟨_, rfl⟩

theorem hostsOnly_setHost {id : String} {set : InventoryHost → InventoryHost}
    (done : s.setHost id set = .ok s') : HostsOnly s s' := by
  simp only [Store.setHost] at done
  split at done
  · rename_i updated
    obtain rfl := Except.ok.inj done
    exact hostsOnly_updateRow updated
  · cases done

theorem hostsOnly_moveHostToCluster {hostID clusterID : String}
    (done : s.moveHostToCluster hostID clusterID = .ok s') : HostsOnly s s' := by
  simp only [Store.moveHostToCluster] at done
  split_ifs at done
  exact hostsOnly_setHost done

theorem hostsOnly_deleteHost {id : String} (done : s.deleteHost id = .ok s') : HostsOnly s s' := by
  simp only [Store.deleteHost] at done
  split_ifs at done
  exact ⟨_, (Except.ok.inj done).symm⟩

theorem hostsOnly_updateHost {id : String} {req : UpdateHostRequest}
    (done : s.updateHost id req = .ok s') : HostsOnly s s' := by
  obtain ⟨db, updated, rfl⟩ := map_eq_ok_iff.mp done
  simp only [Service.updateHost, DB.updateHost] at updated
  split_ifs at updated
  split at updated
  · rename_i changed
    obtain rfl := Except.ok.inj updated
    exact hostsOnly_updateRow changed
  · cases updated

theorem Unambiguous.within (unambiguous : Unambiguous s)
    (rows : ∀ c' ∈ s'.clusters, ∃ c ∈ s.clusters,
      c.id = c'.id ∧ s.pveClusterName c.id = s'.pveClusterName c'.id) : Unambiguous s' := by
  intro c' first d' second given same
  obtain ⟨c, earlier, key, name⟩ := rows c' first
  obtain ⟨d, before, key', name'⟩ := rows d' second
  rw [← name] at given same
  rw [← name'] at same
  rw [← key, ← key']
  exact unambiguous c earlier d before given same

theorem unambiguous_of_hostsOnly (hosts : HostsOnly s s') (unambiguous : Unambiguous s) :
    Unambiguous s' := by
  obtain ⟨_, rfl⟩ := hosts
  exact unambiguous

theorem unambiguous_mapClusters {set : Cluster → Cluster} (unambiguous : Unambiguous s)
    (keys : ∀ c, (set c).id = c.id) (clusters : s'.clusters = s.clusters.map set)
    (names : s'.pveClusterName = s.pveClusterName) : Unambiguous s' := by
  refine unambiguous.within ?_
  rw [clusters, names]
  exact List.forall_mem_map.mpr fun c member => ⟨c, member, (keys c).symm, by rw [keys]⟩

theorem unambiguous_updateCluster {id : String} {req : UpdateClusterRequest}
    (done : s.updateCluster id req = .ok s') (unambiguous : Unambiguous s) : Unambiguous s' := by
  simp only [Store.updateCluster] at done
  split_ifs at done
  obtain rfl := Except.ok.inj done
  refine unambiguous_mapClusters unambiguous (fun c => ?_) rfl rfl
  split <;> rfl

theorem unambiguous_setCluster {id : String} {set : Cluster → Cluster}
    (keys : ∀ c, (set c).id = c.id) (done : s.setCluster id set = .ok s')
    (unambiguous : Unambiguous s) : Unambiguous s' := by
  simp only [Store.setCluster] at done
  split_ifs at done
  obtain rfl := Except.ok.inj done
  refine unambiguous_mapClusters unambiguous (fun c => ?_) rfl rfl
  split
  · exact keys c
  · rfl

theorem unambiguous_setClusterStatus {id : String} {status : ClusterStatus}
    (done : s.setClusterStatus id status = .ok s') (unambiguous : Unambiguous s) :
    Unambiguous s' := by
  refine unambiguous_setCluster ?_ done unambiguous
  exact fun _ => rfl

theorem unambiguous_deleteDatacenter {id : String} (done : s.deleteDatacenter id = .ok s')
    (unambiguous : Unambiguous s) : Unambiguous s' := by
  simp only [Store.deleteDatacenter] at done
  split_ifs at done
  obtain rfl := Except.ok.inj done
  refine unambiguous_mapClusters unambiguous (fun c => ?_) rfl rfl
  split <;> rfl

theorem unambiguous_deleteCluster {id : String} (done : s.deleteCluster id = .ok s')
    (unambiguous : Unambiguous s) : Unambiguous s' := by
  simp only [Store.deleteCluster] at done
  split_ifs at done
  obtain rfl := Except.ok.inj done
  exact unambiguous.within fun c member => ⟨c, List.mem_of_mem_filter member, rfl, rfl⟩

theorem unambiguous_append_iff {cluster : Cluster} {name : String} (unambiguous : Unambiguous s)
    (new : (s.getCluster cluster.id).isSome = false)
    (clusters : s'.clusters = s.clusters ++ [cluster])
    (names : s'.pveClusterName = Function.update s.pveClusterName cluster.id name) :
    Unambiguous s' ↔ s.NameFree cluster.id name := by
  have fresh : ∀ c ∈ s.clusters, c.id ≠ cluster.id := getCluster_isNone_iff.mp new
  have others : ∀ c ∈ s.clusters, s'.pveClusterName c.id = s.pveClusterName c.id := by
    intro c member
    rw [names, Function.update_of_ne (fresh c member)]
  have own : s'.pveClusterName cluster.id = name := by rw [names, Function.update_self]
  have last : cluster ∈ s'.clusters := by simp [clusters]
  constructor
  · intro apart given c member _ taken
    have here : c ∈ s'.clusters := by simp [clusters, member]
    refine fresh c member (apart c here cluster last ?_ ?_)
    · rwa [others c member, taken]
    · rw [others c member, taken, own]
  · intro free c first d second given same
    rw [clusters] at first second
    rcases List.mem_append.mp first with earlier | only <;>
      rcases List.mem_append.mp second with before | single
    · rw [others c earlier] at given same
      rw [others d before] at same
      exact unambiguous c earlier d before given same
    · obtain rfl := List.mem_singleton.mp single
      rw [others c earlier] at given same
      rw [own] at same
      exact absurd same (free (same ▸ given) c earlier (fresh c earlier))
    · obtain rfl := List.mem_singleton.mp only
      rw [own] at given same
      rw [others d before] at same
      exact absurd same.symm (free given d before (fresh d before))
    · rw [List.mem_singleton.mp only, List.mem_singleton.mp single]

/-- A name that is written to a row is told apart exactly when no other row has it. -/
theorem unambiguous_setPVEClusterName_iff {id name : String} (unambiguous : Unambiguous s)
    (done : s.setPVEClusterName id name = .ok s') : Unambiguous s' ↔ s.NameFree id name := by
  simp only [Store.setPVEClusterName] at done
  split_ifs at done with known
  have after := (Except.ok.inj done).symm
  have clusters : s'.clusters = s.clusters := by rw [after]
  have names : s'.pveClusterName = Function.update s.pveClusterName id name := by rw [after]
  have others : ∀ k, k ≠ id → s'.pveClusterName k = s.pveClusterName k := by
    intro k other
    rw [names, Function.update_of_ne other]
  have own : s'.pveClusterName id = name := by rw [names, Function.update_self]
  obtain ⟨row, found⟩ := Option.isSome_iff_exists.mp known
  obtain rfl : row.id = id := by simpa using List.find?_some found
  have there : row ∈ s'.clusters := clusters ▸ List.mem_of_find?_eq_some found
  constructor
  · intro apart given c member other taken
    refine other (apart c (clusters ▸ member) row there ?_ ?_)
    · rwa [others c.id other, taken]
    · rw [others c.id other, taken, own]
  · intro free c first d second given same
    rw [clusters] at first second
    by_cases here : c.id = row.id <;> by_cases also : d.id = row.id
    · rw [here, also]
    · rw [here, own] at given same
      rw [others d.id also] at same
      exact absurd same.symm (free given d second also)
    · rw [also, own, others c.id here] at same
      rw [others c.id here] at given
      exact absurd same (free (same ▸ given) c first here)
    · rw [others c.id here] at given same
      rw [others d.id also] at same
      exact unambiguous c first d second given same

theorem unambiguous_formClusterFromHosts {uuid : UUID} {req : FormClusterFromHostsRequest}
    (done : s.formClusterFromHosts uuid req = .ok s') (unambiguous : Unambiguous s) :
    Unambiguous s' := by
  simp only [Store.formClusterFromHosts] at done
  obtain ⟨⟨cluster, db⟩, formed, later⟩ := bind_eq_ok_iff.mp done
  split_ifs at later with taken
  obtain rfl := Except.ok.inj later
  obtain ⟨key, -, -, moved⟩ := formed_of_ok formed
  have apart := @unambiguous_append_iff s
    { s with toDB := db, pveClusterName := Function.update s.pveClusterName uuid.text "" }
    cluster "" unambiguous
  refine (apart ?_ (places_moveHosts moved).1 ?_).mpr ?_
  · rw [key]
    exact Bool.eq_false_iff.mpr taken
  · rw [key]
  · exact fun given => absurd rfl given

theorem unambiguous_addHostsToCluster {req : AddHostsToClusterRequest}
    (done : s.addHostsToCluster req = .ok s') (unambiguous : Unambiguous s) : Unambiguous s' := by
  obtain ⟨-, -, db, moved, rfl⟩ := moved_of_addHostsToCluster done
  refine unambiguous.within fun c member => ⟨c, ?_, rfl, rfl⟩
  rw [← (places_moveHosts moved).1]
  exact member

theorem unambiguous_findOrCreateCluster {uuid : UUID} {dc pveName address : String}
    (unambiguous : Unambiguous s) :
    Unambiguous (exec (Service.findOrCreateCluster uuid dc pveName address) s).2 := by
  rcases findOrCreateCluster_cases s uuid dc pveName address with
    ⟨c, known, ran⟩ | ⟨unknown, ⟨t, done, ran⟩ | ⟨failure, failed, ran⟩⟩
  · rwa [ran]
  · rw [ran]
    obtain ⟨new, -, rfl⟩ := insertCluster_eq_ok_iff.mp done
    refine (unambiguous_append_iff unambiguous new rfl rfl).mpr ?_
    intro given c member _ taken
    rw [Store.getClusterByPVEName, if_neg given] at unknown
    exact absurd taken (by simpa using List.find?_eq_none.mp unknown c member)
  · rwa [ran]

end Statements

section Runs

variable {s : Store}

abbrev Keeps (s s' : Store) : Prop := Unambiguous s → Unambiguous s'

theorem unambiguous_of_chains {x : Action Unit} (unambiguous : Unambiguous s)
    (chains : Chains Keeps x) : Unambiguous (exec x s).2 :=
  chains.keeps (fun _ _ kept => kept) unambiguous

theorem unambiguous_createCluster_iff {uuid : UUID} {req : CreateClusterRequest}
    (unambiguous : Unambiguous s) :
    Unambiguous (exec (Service.createCluster uuid req) s).2 ↔
      ∀ pair ∈ s.correlating (.createCluster uuid req), s.NameFree pair.1 pair.2 := by
  have requested : trimSpace req.name ≠ "" → s.requested req =
      s.created (trimSpace req.name) (trimSpace req.name) req.datacenterID :=
    fun named => if_neg named
  rw [Service.createCluster, Store.correlating]
  by_cases possible : (s.requested req).isSome ∧ (s.getCluster uuid.text).isNone
  · have named : trimSpace req.name ≠ "" := by
      intro blank
      rw [Store.requested, if_pos blank] at possible
      cases possible.1
    rw [requested named] at possible
    obtain ⟨free, there⟩ := created_isSome_iff.mp possible.1
    have unused : ¬(s.getClusterByName (trimSpace req.name)).isSome := by simpa using free
    obtain ⟨t, done⟩ := (@insertCluster_isOk_iff s
      (Store.newCluster uuid { req with name := trimSpace req.name }) req.pveClusterName).mpr
        possible
    rw [if_neg named, exec_read_bind, if_neg unused, exec_checkDatacenter_bind, if_pos there,
      exec_createCluster_ok done, requested named, if_pos possible]
    obtain ⟨new, -, rfl⟩ := insertCluster_eq_ok_iff.mp done
    rw [unambiguous_append_iff unambiguous new rfl rfl]
    simp [Store.newCluster]
  · rw [if_neg possible]
    refine iff_of_true ?_ fun _ named => by cases named
    split
    · exact unambiguous
    rename_i named
    rw [exec_read_bind]
    split
    · exact unambiguous
    refine leaves_checkDatacenter unambiguous fun _ => ?_
    refine leaves_bind (leaves_commit unambiguous fun t done => ?_) fun _ _ _ kept => kept
    rw [requested named] at possible
    exact absurd (insertCluster_isOk_iff.mp ⟨t, done⟩) possible

theorem unambiguous_addHostAutoRoute {dc : String} {clusterUUID hostUUID : UUID}
    {answer : Except String Token} {probe : Except String ClusterMembership}
    {req : AddHostRequest} (unambiguous : Unambiguous s) :
    Unambiguous (exec (Service.addHostAutoRoute dc clusterUUID hostUUID answer probe req) s).2 := by
  refine leaves_checkDatacenter unambiguous fun _ => ?_
  refine leaves_orThrow_bind unambiguous fun req _ => ?_
  refine leaves_orThrow_bind unambiguous fun membership _ => ?_
  split
  · refine leaves_bind (unambiguous_findOrCreateCluster unambiguous) fun c t _ found => ?_
    refine unambiguous_of_chains found (chains_bind (chains_rename (chains_commit ?_)) fun _ => ?_)
    · exact fun _ _ done => unambiguous_of_hostsOnly (hostsOnly_insertHost done)
    · exact chains_leaveEmpty fun _ _ done => unambiguous_setClusterStatus done
  · refine leaves_commit unambiguous fun t done => ?_
    exact unambiguous_of_hostsOnly (hostsOnly_insertHost done) unambiguous

theorem unambiguous_promoteStandalone {uuid : UUID} {host : InventoryHost} {dc pveName : String}
    (unambiguous : Unambiguous s) :
    Unambiguous (exec (Reconciler.promoteStandalone uuid host dc pveName) s).2 := by
  refine leaves_bind (unambiguous_findOrCreateCluster unambiguous) fun c t _ found => ?_
  refine unambiguous_of_chains found (chains_bind (chains_commit ?_) fun _ => ?_)
  · exact fun _ _ done => unambiguous_of_hostsOnly (hostsOnly_moveHostToCluster done)
  · exact chains_leaveEmpty fun _ _ done => unambiguous_setClusterStatus done

/-- A pass over the legacy clusters writes the name that the PVE host reports. -/
theorem unambiguous_reconcileLegacy_iff {uuid : UUID} {c : Cluster} {pveName : String}
    {probe : Except String ClusterMembership} (unambiguous : Unambiguous s) :
    Unambiguous (exec (Reconciler.reconcileLegacy uuid c pveName probe) s).2 ↔
      ∀ pair ∈ s.correlating (.reconcileLegacy uuid c pveName probe),
        s.NameFree pair.1 pair.2 := by
  have unwritten : s.correlated c pveName probe = none →
      ∀ pair ∈ s.correlating (.reconcileLegacy uuid c pveName probe), s.NameFree pair.1 pair.2 := by
    intro none
    rw [Store.correlating, none]
    exact fun _ named => by cases named
  rw [Reconciler.reconcileLegacy]
  split
  · rename_i known
    refine iff_of_true unambiguous (unwritten ?_)
    cases probe with
    | error failure => rfl
    | ok membership => exact if_neg fun possible => known possible.1
  rename_i legacy
  rw [exec_read_bind]
  split
  · rename_i bare
    refine iff_of_true unambiguous (unwritten ?_)
    cases probe with
    | error failure => rfl
    | ok membership => exact if_neg fun possible => bare possible.2.1
  rename_i credentials
  cases probe with
  | error failure => exact iff_of_true unambiguous fun _ named => by cases named
  | ok membership =>
      change Unambiguous (exec (if membership.isCluster = true then
        commit fun s => s.setPVEClusterName c.id membership.clusterName else _) s).2 ↔ _
      split
      · rename_i member
        by_cases there : (s.getCluster c.id).isSome
        · have done : s.setPVEClusterName c.id membership.clusterName =
              .ok { s with pveClusterName :=
                Function.update s.pveClusterName c.id membership.clusterName } := if_pos there
          have written : s.correlated c pveName (.ok membership) = some membership.clusterName :=
            if_pos ⟨not_not.mp legacy, not_not.mp credentials, member, there⟩
          rw [exec_commit_ok done, unambiguous_setPVEClusterName_iff unambiguous done,
            Store.correlating, written]
          simp
        · have failed : s.setPVEClusterName c.id membership.clusterName =
              .error "cluster not found" := if_neg there
          rw [exec_commit_error failed]
          exact iff_of_true unambiguous (unwritten (if_neg fun possible => there possible.2.2.2))
      · rename_i alone
        refine iff_of_true ?_ (unwritten (if_neg fun possible => alone possible.2.2.1))
        refine unambiguous_of_chains unambiguous ?_
        split
        · refine chains_bind (chains_commit fun _ _ done => ?_) fun _ => ?_
          · exact unambiguous_of_hostsOnly (hostsOnly_deleteHost done)
          refine chains_bind (chains_commit fun _ _ done => ?_) fun _ => ?_
          · exact unambiguous_of_hostsOnly (hostsOnly_insertHost done)
          refine chains_bind (chains_ignore (chains_commit fun _ _ done => ?_)) fun _ => ?_
          · exact unambiguous_of_hostsOnly (hostsOnly_setHost done)
          exact chains_commit fun _ _ done => unambiguous_deleteCluster done
        · exact chains_throw _
        · exact chains_throw _

theorem correlatesApart_of_none {op : Operation} (none : s.correlating op = none) :
    CorrelatesApart s op := by
  rw [CorrelatesApart, none]
  exact fun _ named => by cases named

/-- One operation: the names stay apart exactly under the condition. -/
theorem unambiguous_operate_iff {op : Operation} (unambiguous : Unambiguous s) :
    Unambiguous (operate s op) ↔ CorrelatesApart s op := by
  have still : ∀ {op}, s.correlating op = none → Unambiguous (operate s op) →
      (Unambiguous (operate s op) ↔ CorrelatesApart s op) :=
    fun none kept => iff_of_true kept (correlatesApart_of_none none)
  have chained : ∀ {op}, s.correlating op = none → Chains Keeps (perform op) →
      (Unambiguous (operate s op) ↔ CorrelatesApart s op) :=
    fun none chains => still none (unambiguous_of_chains unambiguous chains)
  have update : ∀ s s' id req, s.updateCluster id req = .ok s' → Keeps s s' :=
    fun _ _ _ _ done => unambiguous_updateCluster done
  have delete : ∀ s s' id, s.deleteCluster id = .ok s' → Keeps s s' :=
    fun _ _ _ done => unambiguous_deleteCluster done
  have add : ∀ uuid s s' id req, s.addHost uuid id req = .ok s' → Keeps s s' :=
    fun _ _ _ _ _ done => unambiguous_of_hostsOnly (hostsOnly_insertHost done)
  have set : ∀ s s' id status, s.setClusterStatus id status = .ok s' → Keeps s s' :=
    fun _ _ _ _ done => unambiguous_setClusterStatus done
  cases op with
  | createDatacenter uuid name =>
      refine chained rfl (chains_createDatacenter fun s s' done unambiguous => ?_)
      simp only [Store.createDatacenter] at done
      split_ifs at done
      obtain rfl := Except.ok.inj done
      exact unambiguous
  | updateDatacenter id name =>
      refine chained rfl (chains_updateDatacenter fun s s' done unambiguous => ?_)
      simp only [Store.updateDatacenter] at done
      split_ifs at done
      obtain rfl := Except.ok.inj done
      exact unambiguous
  | deleteDatacenter id =>
      exact chained rfl (chains_deleteDatacenter fun _ _ done => unambiguous_deleteDatacenter done)
  | createCluster uuid req =>
      rw [operate, perform, exec_ignore]
      exact unambiguous_createCluster_iff unambiguous
  | updateCluster id req => exact chained rfl (chains_updateCluster fun s s' => update s s' id)
  | updateClusterByName name req =>
      refine chained rfl (chains_withCluster fun c => ?_)
      exact chains_updateCluster fun s s' => update s s' c.id
  | deleteCluster id => exact chained rfl (chains_deleteCluster delete)
  | deleteClusterByName name => exact chained rfl (chains_deleteCluster delete)
  | setClusterEnabled id enabled =>
      refine chained rfl (chains_setClusterEnabled fun s s' done => ?_)
      refine unambiguous_setCluster ?_ done
      exact fun _ => rfl
  | setClusterStatus id status => exact chained rfl (chains_commit fun s s' => set s s' id status)
  | moveClusterToDatacenter name dc => exact chained rfl (chains_moveClusterToDatacenter update)
  | addHost clusterID uuid answer req => exact chained rfl (chains_addHost (add uuid) set)
  | addHostByClusterName name uuid answer req =>
      exact chained rfl (chains_withCluster fun _ => chains_addHost (add uuid) set)
  | addHostAutoRoute dc clusterUUID hostUUID answer probe req =>
      exact still rfl (unambiguous_addHostAutoRoute unambiguous)
  | addDatacenterHost dc uuid answer req =>
      refine chained rfl (chains_addDatacenterHost fun _ _ _ done => ?_)
      exact unambiguous_of_hostsOnly (hostsOnly_insertHost done)
  | updateHost id req =>
      refine chained rfl (chains_commit fun _ _ done => ?_)
      exact unambiguous_of_hostsOnly (hostsOnly_updateHost done)
  | deleteHost id =>
      refine chained rfl (chains_deleteHost (fun _ _ done => ?_) set)
      exact unambiguous_of_hostsOnly (hostsOnly_deleteHost done)
  | moveHostToCluster hostID clusterID =>
      refine chained rfl (chains_moveHostToCluster (fun _ _ done => ?_) set)
      exact unambiguous_of_hostsOnly (hostsOnly_moveHostToCluster done)
  | setHostStatus id status error nodeName =>
      refine chained rfl (chains_commit fun _ _ done => ?_)
      exact unambiguous_of_hostsOnly (hostsOnly_setHost done)
  | formClusterFromHosts uuid req =>
      exact chained rfl (chains_commit fun _ _ done => unambiguous_formClusterFromHosts done)
  | addHostsToCluster req =>
      exact chained rfl (chains_commit fun _ _ done => unambiguous_addHostsToCluster done)
  | promoteStandalone uuid host dc pveName =>
      exact still rfl (unambiguous_promoteStandalone unambiguous)
  | reconcileLegacy uuid c pveName probe => exact unambiguous_reconcileLegacy_iff unambiguous

/-- In a run at most one cluster carries a name, iff no request and no legacy cluster is given a
name that another cluster has. -/
theorem pve_names_unambiguous_iff (ops : List Operation) :
    (∀ s ∈ states operate Store.empty ops, Unambiguous s) ↔
      Along operate CorrelatesApart Store.empty ops := by
  refine invariant_iff_along (fun s op _ unambiguous => unambiguous_operate_iff unambiguous) ?_
  exact List.forall_mem_nil _

/-- Two clusters from before the correlation, with hosts of one PVE cluster. -/
def legacyClusters : List Operation :=
  [.createCluster (drawn "c-1" given_c1) ⟨"rack 1", none, ""⟩,
    .addHost "c-1" (drawn "h-1" given_h1) (.error "") (withToken "10.0.0.1:8006"),
    .createCluster (drawn "c-2" given_c2) ⟨"rack 2", none, ""⟩,
    .addHost "c-2" (drawn "h-2" given_h2) (.error "") (withToken "10.0.0.2:8006")]

/-- The turn of a pass for a legacy cluster whose host is a member of the PVE cluster. -/
def correlateTurn (id name : String) : Operation :=
  .reconcileLegacy (drawn "h-3" given_h3)
    { id := id, name := name, agentName := name, datacenterID := none, status := .pending
      enabled := true } "" (.ok ⟨true, "prod"⟩)

/-- One pass gives both the name of their PVE cluster. -/
theorem legacy_clusters_share_name :
    ¬∀ s ∈ states operate Store.empty
      (legacyClusters ++ [correlateTurn "c-1" "rack 1", correlateTurn "c-2" "rack 2"]),
      Unambiguous s := by
  decide +kernel

end Runs

end Inventory
