import PCenter.InventoryCorrelation

/-!
# Promotion of a standalone host

A standalone host that is online and has a secret is polled under its own name. When it turns out
to be a member of a PVE cluster it is moved, and from then on it is polled with the cluster, if the
cluster is polled at all: that depends on the status the cluster had, and on its first host that
is online.
-/

namespace Inventory

open Procedure Transition

/-- No secrets but those that the hosts store. -/
def noSecrets : String → String := fun _ => ""

/-- `GetClusterConfigs` has the entry that it makes for the cluster. -/
def Polled (s : Store) (c : Cluster) : Prop :=
  ∃ config ∈ s.getClusterConfigs noSecrets, s.clusterConfig noSecrets c = some config

namespace Store

variable (s : Store)

/-- The first of the hosts that are online, once the host is in the cluster. -/
def firstOnline (clusterID hostID : String) : Option InventoryHost :=
  (s.hosts.filter fun host => host.clusterID = clusterID ∨ host.id = hostID).find?
    (·.status = .online)

/-- The cluster with the PVE name is empty or active, and the host that is asked has a secret. -/
def PromotionPolled (host : InventoryHost) (pveName : String) : Prop :=
  ∀ c ∈ s.getClusterByPVEName pveName, (c.status = .empty ∨ c.status = .active) ∧
    ∀ first ∈ s.firstOnline c.id host.id, first.tokenSecret ≠ ""

end Store

/-- The columns of a host that is moved. -/
def moved (hostID clusterID : String) (host : InventoryHost) : InventoryHost :=
  if host.id = hostID then { host with clusterID := clusterID, datacenterID := "" } else host

variable {s t : Store}

theorem moved_status (hostID clusterID : String) (host : InventoryHost) :
    (moved hostID clusterID host).status = host.status ∧
      (moved hostID clusterID host).tokenSecret = host.tokenSecret := by
  rw [moved]
  split <;> exact ⟨rfl, rfl⟩

theorem polled_iff {c : Cluster} (member : c ∈ s.clusters) :
    Polled s c ↔ (s.clusterConfig noSecrets c).isSome := by
  rw [Option.isSome_iff_exists]
  constructor
  · rintro ⟨config, -, made⟩
    exact ⟨config, made⟩
  · rintro ⟨config, made⟩
    refine ⟨config, List.mem_append_left _ (List.mem_filterMap.mpr ⟨c, ?_, made⟩), made⟩
    exact perm_listClusters.mem_iff.mpr member

theorem clusterConfig_isSome_iff {c : Cluster} :
    (s.clusterConfig noSecrets c).isSome ↔
      c.enabled = true ∧ c.status = .active ∧
        ∃ host, (s.listHostsByCluster c.id).find? (·.status = .online) = some host ∧
          host.tokenSecret ≠ "" := by
  rw [Store.clusterConfig]
  by_cases skipped : ¬c.enabled = true ∨ c.status ≠ .active
  · rw [if_pos skipped]
    refine iff_of_false (fun some => by cases some) ?_
    rintro ⟨enabled, active, -⟩
    rcases skipped with disabled | inactive
    · exact disabled enabled
    · exact inactive active
  · rw [if_neg skipped]
    simp only [not_or, not_not] at skipped
    cases first : (s.listHostsByCluster c.id).find? (·.status = .online) with
    | none => simp
    | some host =>
        by_cases bare : host.tokenSecret = "" <;> simp [noSecrets, bare, skipped]

theorem hosts_of_moveHostToCluster {hostID clusterID : String}
    (done : s.moveHostToCluster hostID clusterID = .ok t) :
    t = { s with hosts := s.hosts.map (moved hostID clusterID) } := by
  simp only [Store.moveHostToCluster, Store.setHost] at done
  split_ifs at done
  split at done
  · rename_i updated
    simp only [DB.updateRow] at updated
    split_ifs at updated
    rw [← Except.ok.inj done, ← Option.some.inj updated]
    rfl
  · cases done

theorem status_leaveEmpty {c c' : Cluster} (filed : Filed s) (member : c ∈ s.clusters)
    (clusters : s.clusters = t.clusters)
    (later : c' ∈ (exec (Service.leaveEmpty c .active) t).2.clusters) (key : c'.id = c.id) :
    c'.status = .active ↔ c.status = .empty ∨ c.status = .active := by
  rw [Service.leaveEmpty] at later
  split at later
  · rename_i empty
    have there : (t.getCluster c.id).isSome := by
      simp only [DB.getCluster, List.find?_isSome, ← clusters]
      exact ⟨c, member, decide_eq_true rfl⟩
    have set : t.setClusterStatus c.id .active =
        .ok (t.mapCluster c.id fun d => { d with status := .active }) := if_pos there
    rw [exec_ignore, exec_commit_ok set] at later
    obtain ⟨d, -, rfl⟩ := List.mem_map.mp later
    refine iff_of_true ?_ (Or.inl empty)
    by_cases here : d.id = c.id
    · rw [if_pos here]
    · rw [if_neg here] at key
      exact absurd key here
  · rename_i occupied
    have earlier : c' ∈ s.clusters := clusters ▸ later
    rw [eq_of_key filed member earlier key, or_iff_right occupied]

theorem hosts_leaveEmpty {c : Cluster} {status : ClusterStatus} :
    (exec (Service.leaveEmpty c status) t).2.hosts = t.hosts := by
  rw [Service.leaveEmpty]
  split
  · rw [exec_ignore]
    refine leaves_commit (P := fun u : Store => u.hosts = t.hosts) rfl fun u set => ?_
    simp only [Store.setClusterStatus, Store.setCluster] at set
    split_ifs at set
    rw [← Except.ok.inj set]
    rfl
  · rfl

theorem find_moved {hostID clusterID : String} :
    ((((s.hosts.map (moved hostID clusterID)).filter (·.clusterID = clusterID)).map
      fun host => { host with datacenterID := "" }).find? (·.status = .online)) =
      (s.firstOnline clusterID hostID).map fun host =>
        { moved hostID clusterID host with datacenterID := "" } := by
  have chosen : ∀ host : InventoryHost, decide ((moved hostID clusterID host).clusterID = clusterID) =
      decide (host.clusterID = clusterID ∨ host.id = hostID) := by
    intro host
    by_cases here : host.id = hostID <;> simp [moved, here]
  rw [Store.firstOnline, List.filter_map, List.map_map, List.find?_map]
  simp only [Function.comp_def, chosen, (moved_status hostID clusterID _).1]

theorem polled_arrive_iff {c c' : Cluster} {host : InventoryHost} (filed : Filed s)
    (member : c ∈ s.clusters) (there : host ∈ s.hosts) (online : host.status = .online)
    (promoted : Yields (do
      commit fun s => s.moveHostToCluster host.id c.id
      Service.leaveEmpty c .active) s () t)
    (later : c' ∈ t.clusters) (key : c'.id = c.id) (enabled : c'.enabled = true) :
    Polled t c' ↔ (c.status = .empty ∨ c.status = .active) ∧
      ∀ first ∈ s.firstOnline c.id host.id, first.tokenSecret ≠ "" := by
  obtain ⟨_, u, move, set⟩ := yields_bind.mp promoted
  have row := hosts_of_moveHostToCluster (yields_commit.mp move)
  have after : t = (exec (Service.leaveEmpty c .active) u).2 := by
    rw [Yields] at set
    rw [set]
  have clusters : s.clusters = u.clusters := by rw [row]
  have hosts : t.hosts = s.hosts.map (moved host.id c.id) := by
    rw [after, hosts_leaveEmpty, row]
  have status : c'.status = .active ↔ c.status = .empty ∨ c.status = .active :=
    status_leaveEmpty filed member clusters (after ▸ later) key
  rw [polled_iff later, clusterConfig_isSome_iff, status, key, DB.listHostsByCluster, hosts,
    find_moved, and_iff_right enabled]
  refine and_congr_right fun _ => ?_
  cases first : s.firstOnline c.id host.id with
  | none =>
      have none := List.find?_eq_none.mp first host
        (List.mem_filter.mpr ⟨there, decide_eq_true (Or.inr rfl)⟩)
      simp [online] at none
  | some earliest => simp [(moved_status host.id c.id earliest).2]

theorem firstOnline_alone {id : String} {host first : InventoryHost} (filed : Filed s)
    (unknown : id ∉ s.places) (there : host ∈ s.hosts)
    (found : s.firstOnline id host.id = some first) : first = host := by
  obtain ⟨row, chosen⟩ := List.mem_filter.mp (List.mem_of_find?_eq_some found)
  rcases of_decide_eq_true chosen with member | key
  · exact absurd (member ▸ List.mem_map_of_mem row) unknown
  · exact List.inj_on_of_nodup_map filed.hosts row there key

theorem row_of_mem {host : InventoryHost} (filed : Filed s) (there : host ∈ s.hosts) :
    s.row host.id = some host := by
  cases found : s.row host.id with
  | none =>
      refine absurd rfl (row_isNone_iff.mp ?_ host there)
      rw [found]
      rfl
  | some other =>
      have same := List.inj_on_of_nodup_map filed.hosts (List.mem_of_find?_eq_some found) there
        (DB.row_id found)
      rw [same]

theorem clusterID_of_promoted {c : Cluster} {host : InventoryHost} (filed : Filed s)
    (there : host ∈ s.hosts)
    (promoted : Yields (do
      commit fun s => s.moveHostToCluster host.id c.id
      Service.leaveEmpty c .active) s () t) :
    (t.row host.id).map (·.clusterID) = some c.id := by
  obtain ⟨_, u, move, set⟩ := yields_bind.mp promoted
  have row := hosts_of_moveHostToCluster (yields_commit.mp move)
  have after : t = (exec (Service.leaveEmpty c .active) u).2 := by
    rw [Yields] at set
    rw [set]
  have same : ((fun h : InventoryHost => decide (h.id = host.id)) ∘ moved host.id c.id) =
      fun h => decide (h.id = host.id) := by
    funext h
    simp only [Function.comp_apply, moved]
    split <;> rfl
  have found : s.hosts.find? (fun h => decide (h.id = host.id)) = some host := row_of_mem filed there
  rw [DB.row, after, hosts_leaveEmpty, row]
  simp [List.find?_map, same, found, moved]

theorem polled_standalone {host : InventoryHost} (filed : Filed s) (there : host ∈ s.hosts)
    (alone : host.clusterID = "") (online : host.status = .online)
    (secret : host.tokenSecret ≠ "") :
    ∃ config ∈ s.getClusterConfigs noSecrets, config.name = standaloneName host.id := by
  have skipped : ¬(host.status ≠ .online ∨ host.tokenSecret = "") := by simp [online, secret]
  refine ⟨_, List.mem_append_right _ (List.mem_flatMap.mpr ⟨host.datacenterID, ?_,
    List.mem_filterMap.mpr ⟨host, ?_, if_neg skipped⟩⟩), rfl⟩
  · rcases filed.placed host there with ⟨-, member⟩ | ⟨-, member⟩
    · exact absurd (alone ▸ member) filed.inserted
    · exact perm_listDatacenters.mem_iff.mpr member
  · exact List.mem_filter.mpr ⟨there, decide_eq_true ⟨rfl, alone⟩⟩

/-- A standalone host that is polled and is moved into an enabled cluster stays polled, with the
cluster, iff there was no cluster yet, or it was empty or active and the first of its hosts that
are online has a secret. -/
theorem promoted_host_polled_iff {uuid : UUID} {host : InventoryHost} {dc pveName : String}
    {c : Cluster} (filed : Filed s) (there : host ∈ s.hosts) (alone : host.clusterID = "")
    (online : host.status = .online) (secret : host.tokenSecret ≠ "")
    (promoted : Yields (Reconciler.promoteStandalone uuid host dc pveName) s () t)
    (member : c ∈ t.clusters) (into : (t.row host.id).map (·.clusterID) = some c.id)
    (enabled : c.enabled = true) :
    (∃ config ∈ s.getClusterConfigs noSecrets, config.name = standaloneName host.id) ∧
      (Polled t c ↔ s.PromotionPolled host pveName) := by
  refine ⟨polled_standalone filed there alone online secret, ?_⟩
  obtain ⟨target, u, found, moves⟩ := yields_bind.mp promoted
  rw [Store.PromotionPolled]
  rcases findOrCreateCluster_cases s uuid dc pveName host.address with
    ⟨d, known, ran⟩ | ⟨unknown, ⟨v, done, ran⟩ | ⟨failure, failed, ran⟩⟩
  · obtain ⟨same, rfl⟩ := Prod.mk.inj (found.symm.trans ran)
    obtain rfl := Except.ok.inj same
    have key := Option.some.inj (into.symm.trans (clusterID_of_promoted filed there moves))
    rw [polled_arrive_iff filed (mem_of_getClusterByPVEName known) there online moves member key
      enabled, known]
    simp
  · obtain ⟨same, rfl⟩ := Prod.mk.inj (found.symm.trans ran)
    obtain rfl := Except.ok.inj same
    have later : Filed u := filed_insertCluster filed done
    obtain ⟨new, -, after⟩ := insertCluster_eq_ok_iff.mp done
    have hosts : u.hosts = s.hosts := by rw [after]
    have inserted : Store.newCluster uuid (routedRequest s dc pveName host.address) ∈ u.clusters := by
      rw [after]
      exact List.mem_append_right _ (List.mem_singleton_self _)
    have unplaced : uuid.text ∉ u.places := by
      intro placed
      obtain ⟨other, row, here⟩ := List.mem_map.mp placed
      rcases filed.placed other (hosts ▸ row) with ⟨-, known⟩ | ⟨none, -⟩
      · obtain ⟨d, earlier, key⟩ := List.mem_map.mp known
        exact getCluster_isNone_iff.mp new d earlier (key.trans here)
      · exact uuid.nonempty (here.symm.trans none)
    have before : host ∈ u.hosts := hosts ▸ there
    have key := Option.some.inj (into.symm.trans (clusterID_of_promoted later before moves))
    rw [polled_arrive_iff later inserted before online moves member key enabled, unknown]
    refine iff_of_true ⟨Or.inl rfl, fun first earliest => ?_⟩ fun _ named => by cases named
    rw [firstOnline_alone later unplaced before earliest]
    exact secret
  · cases found.symm.trans ran

/-- A datacenter with a standalone host that is online. -/
def withOnlineHost : List Operation :=
  [.createDatacenter (drawn "d-1" given_d1) "main",
    .addDatacenterHost "d-1" (drawn "h-1" given_h1) (.error "") (withToken "10.0.0.1:8006"),
    .setHostStatus "h-1" .online "" "pve1"]

/-- Another host has been routed to the cluster, which waits for its connection. -/
def withPendingCluster : List Operation :=
  withOnlineHost ++ [Operation.addHostAutoRoute "d-1" (drawn "c-1" given_c1) (drawn "h-2" given_h2)
    (.error "") (.ok ⟨true, "prod"⟩) (withToken "10.0.0.2:8006")]

def onlineHost : InventoryHost :=
  { id := "h-1", clusterID := "", datacenterID := "d-1", address := "10.0.0.1:8006"
    tokenID := "root@pam!pcenter", tokenSecret := "secret", insecure := true, status := .online
    error := "", nodeName := "pve1" }

/-- The host is polled before its promotion, and nothing is polled after it. -/
theorem promoted_host_lost :
    ((withPendingCluster.foldl operate Store.empty).getClusterConfigs noSecrets).map (·.name) =
        ["standalone:h-1"] ∧
      ∃ t, t = operate (withPendingCluster.foldl operate Store.empty)
          (.promoteStandalone (drawn "c-2" given_c2) onlineHost "d-1" "prod") ∧
        t.hosts.map (fun host => (host.id, host.clusterID)) = [("h-1", "c-1"), ("h-2", "c-1")] ∧
        t.clusters.map (fun c => (c.id, c.enabled)) = [("c-1", true)] ∧
        (t.getClusterConfigs noSecrets).map (·.name) = [] :=
  ⟨by decide +kernel, _, rfl, by decide +kernel⟩

/-- The promotion of the same host when there is no cluster yet. -/
def promotion : Action Unit :=
  Reconciler.promoteStandalone (drawn "c-1" given_c1) onlineHost "d-1" "prod"

def beforePromotion : Store := withOnlineHost.foldl operate Store.empty

def promotedCluster : Cluster :=
  { id := "c-1", name := "prod", agentName := "prod", datacenterID := some "d-1"
    status := .active, enabled := true }

theorem promoted_host_polled_new_cluster :
    (∃ config ∈ beforePromotion.getClusterConfigs noSecrets,
        config.name = standaloneName "h-1") ∧
      (Polled (exec promotion beforePromotion).2 promotedCluster ↔
        beforePromotion.PromotionPolled onlineHost "prod") := by
  have answered : Yields promotion beforePromotion () (exec promotion beforePromotion).2 := by
    rfl
  exact promoted_host_polled_iff (filed_foldl filed_empty _) (by decide +kernel) rfl rfl (by decide)
    answered (by decide +kernel) (by decide +kernel) rfl

end Inventory
