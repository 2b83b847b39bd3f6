import PCenter.InventoryFiling

/-!
# The status of a cluster and its hosts

A cluster is created as empty, the operations that bring it its first host give it another
status, and `DeleteHost` gives the old one back. A move looks at the cluster that a host comes to
and not at the one that it leaves, and `AddHostsToCluster` looks at neither.
-/

namespace Inventory

open GoText Procedure Transition

/-- The references to clusters that the hosts hold. -/
def DB.places (db : DB) : List String := db.hosts.map (·.clusterID)

/-- Some host of the cluster is not among the given ones. -/
def DB.Stays (db : DB) (ids : List String) (clusterID : String) : Prop :=
  ∃ host ∈ db.hosts, host.clusterID = clusterID ∧ host.id ∉ ids

instance (db : DB) (ids : List String) (clusterID : String) : Decidable (db.Stays ids clusterID) :=
  inferInstanceAs (Decidable (∃ host ∈ db.hosts, host.clusterID = clusterID ∧ host.id ∉ ids))

/-- The status is empty exactly when there are no hosts. -/
def Tracks (s : Store) : Prop := ∀ c ∈ s.clusters, c.status = .empty ↔ c.id ∉ s.places

instance (s : Store) : Decidable (Tracks s) :=
  inferInstanceAs (Decidable (∀ c ∈ s.clusters, c.status = .empty ↔ c.id ∉ s.places))

/-- Neither an explicit status nor the demotion of a legacy cluster. -/
def Operation.Listed : Operation → Prop
  | .setClusterStatus _ _ => False
  | .reconcileLegacy _ _ _ _ => False
  | _ => True

namespace Store

variable (s : Store)

/-- The key of the cluster that a promotion brings the host to, when it can. -/
def promotionTarget (uuid : UUID) (host : InventoryHost) (datacenterID pveName : String) :
    Option String :=
  match s.getClusterByPVEName pveName with
  | some cluster => some cluster.id
  | none =>
      if (s.routed pveName host.address datacenterID).isSome ∧ (s.getCluster uuid.text).isNone then
        some uuid.text
      else none

/-- The rows that the transaction moves: it moves all of them or fails. -/
def transferred (req : AddHostsToClusterRequest) : Option Cluster :=
  if req.hostIDs ≠ [] ∧ (req.hostIDs.all fun id => (s.row id).isSome) then
    s.getCluster req.clusterID
  else none

/-- The hosts that an operation moves, and the key of the cluster that they come to. -/
def moving : Operation → Option (List String × String)
  | .moveHostToCluster hostID clusterID =>
      (s.getCluster clusterID).map fun _ => ([hostID], clusterID)
  | .promoteStandalone uuid host datacenterID pveName =>
      (s.promotionTarget uuid host datacenterID pveName).map fun clusterID => ([host.id], clusterID)
  | .formClusterFromHosts uuid req =>
      if (s.formed req).isSome ∧ (s.getCluster uuid.text).isNone then some (req.hostIDs, uuid.text)
      else none
  | .addHostsToCluster req => (s.transferred req).map fun _ => (req.hostIDs, req.clusterID)
  | _ => none

/-- The cluster whose status `AddHostsToCluster` leaves as it is. -/
def filling : Operation → Option Cluster
  | .addHostsToCluster req => s.transferred req
  | _ => none

/-- No other cluster loses its last host. -/
def LeavesHosts (ids : List String) (target : String) : Prop :=
  ∀ c ∈ s.clusters, c.id ≠ target → c.id ∈ s.places → s.Stays ids c.id

instance (ids : List String) (target : String) : Decidable (s.LeavesHosts ids target) :=
  inferInstanceAs (Decidable (∀ c ∈ s.clusters, c.id ≠ target → c.id ∈ s.places → s.Stays ids c.id))

end Store

/-- What the operations leave to their callers. -/
def StatusKept (s : Store) (op : Operation) : Prop :=
  (∀ move ∈ s.moving op, s.LeavesHosts move.1 move.2) ∧ ∀ c ∈ s.filling op, c.status ≠ .empty

instance (s : Store) (op : Operation) : Decidable (StatusKept s op) :=
  inferInstanceAs (Decidable
    ((∀ move ∈ s.moving op, s.LeavesHosts move.1 move.2) ∧ ∀ c ∈ s.filling op, c.status ≠ .empty))

structure Settled (s : Store) : Prop where
  filed : Filed s
  tracks : Tracks s

theorem settled_empty : Settled Store.empty := ⟨filed_empty, List.forall_mem_nil _⟩

section Statements

variable {s s' : Store}

theorem DB.stays_nil {db : DB} {clusterID : String} :
    db.Stays [] clusterID ↔ clusterID ∈ db.places := by
  simp [DB.Stays, DB.places]

theorem DB.places_of_stays {db : DB} {ids : List String} {clusterID : String}
    (stays : db.Stays ids clusterID) : clusterID ∈ db.places := by
  obtain ⟨host, there, rfl, -⟩ := stays
  exact List.mem_map_of_mem there

theorem Tracks.within (tracks : Tracks s)
    (rows : ∀ c' ∈ s'.clusters, ∃ c ∈ s.clusters, c.id = c'.id ∧ c.status = c'.status)
    (places : ∀ c ∈ s.clusters, c.id ∈ s'.places ↔ c.id ∈ s.places) : Tracks s' := by
  intro c' member
  obtain ⟨c, earlier, key, status⟩ := rows c' member
  rw [← key, ← status, places c earlier]
  exact tracks c earlier

theorem tracks_of_hosts (tracks : Tracks s) (clusters : s'.clusters = s.clusters)
    (places : ∀ c ∈ s.clusters, c.id ∈ s'.places ↔ c.id ∈ s.places) : Tracks s' := by
  refine tracks.within (fun c member => ⟨c, ?_, rfl, rfl⟩) places
  rwa [clusters] at member

theorem tracks_mapClusters {set : Cluster → Cluster} (tracks : Tracks s)
    (same : ∀ c, (set c).id = c.id ∧ (set c).status = c.status)
    (clusters : s'.clusters = s.clusters.map set) (hosts : s'.hosts = s.hosts) : Tracks s' := by
  have places : s'.places = s.places := by rw [DB.places, hosts, DB.places]
  refine tracks.within ?_ fun c _ => by rw [places]
  rw [clusters]
  exact List.forall_mem_map.mpr fun c member => ⟨c, member, (same c).1.symm, (same c).2.symm⟩

theorem inserted_of_mem (filed : Filed s) {c : Cluster} (member : c ∈ s.clusters) : c.id ≠ "" :=
  fun empty => filed.inserted (empty ▸ List.mem_map_of_mem member)

theorem tracks_deleteDatacenter {id : String} (settled : Settled s)
    (done : s.deleteDatacenter id = .ok s') : Tracks s' := by
  simp only [Store.deleteDatacenter] at done
  split_ifs at done with unknown
  obtain rfl := Except.ok.inj done
  refine settled.tracks.within ?_ ?_
  · refine List.forall_mem_map.mpr fun c member => ⟨c, member, ?_⟩
    split <;> exact ⟨rfl, rfl⟩
  · intro c member
    constructor
    · exact fun there => (List.filter_sublist.map _).subset there
    · intro there
      obtain ⟨host, row, here⟩ := List.mem_map.mp there
      refine List.mem_map.mpr ⟨host, List.mem_filter.mpr ⟨row, decide_eq_true ?_⟩, here⟩
      rintro rfl
      rcases settled.filed.placed host row with ⟨none, -⟩ | ⟨alone, -⟩
      · exact settled.filed.created (none ▸ unknown)
      · exact inserted_of_mem settled.filed member (here ▸ alone)

theorem tracks_append {cluster : Cluster} (settled : Settled s)
    (new : (s.getCluster cluster.id).isSome = false) (given : cluster.id ≠ "")
    (status : cluster.status = .empty) (clusters : s'.clusters = s.clusters ++ [cluster])
    (hosts : s'.hosts = s.hosts) : Tracks s' := by
  have places : s'.places = s.places := by rw [DB.places, hosts, DB.places]
  intro c member
  rw [clusters] at member
  rw [places]
  rcases List.mem_append.mp member with earlier | last
  · exact settled.tracks c earlier
  · obtain rfl := List.mem_singleton.mp last
    refine ⟨fun _ there => ?_, fun _ => status⟩
    obtain ⟨host, row, here⟩ := List.mem_map.mp there
    rcases settled.filed.placed host row with ⟨-, known⟩ | ⟨alone, -⟩
    · obtain ⟨d, earlier, key⟩ := List.mem_map.mp known
      exact getCluster_isNone_iff.mp new d earlier (key.trans here)
    · exact given (here ▸ alone)

theorem settled_insertCluster {uuid : UUID} {req : CreateClusterRequest} (settled : Settled s)
    (done : s.insertCluster (Store.newCluster uuid req) req.pveClusterName = .ok s') :
    Settled s' := by
  refine ⟨filed_insertCluster settled.filed done, ?_⟩
  obtain ⟨new, -, rfl⟩ := insertCluster_eq_ok_iff.mp done
  exact tracks_append settled new uuid.nonempty rfl rfl rfl

theorem settled_updateCluster {id : String} {req : UpdateClusterRequest} (settled : Settled s)
    (done : s.updateCluster id req = .ok s') : Settled s' := by
  refine ⟨filed_updateCluster settled.filed done, ?_⟩
  simp only [Store.updateCluster] at done
  split_ifs at done
  obtain rfl := Except.ok.inj done
  refine tracks_mapClusters settled.tracks ?_ rfl rfl
  intro c
  split <;> exact ⟨rfl, rfl⟩

theorem settled_deleteCluster {id : String} (settled : Settled s)
    (done : s.deleteCluster id = .ok s') : Settled s' := by
  refine ⟨filed_deleteCluster settled.filed done, ?_⟩
  simp only [Store.deleteCluster] at done
  split_ifs at done
  obtain rfl := Except.ok.inj done
  intro c member
  obtain ⟨earlier, other⟩ := List.mem_filter.mp member
  have same : c.id ∈ DB.places { s.toDB with hosts := s.hosts.filter (·.clusterID ≠ id) } ↔
      c.id ∈ s.places := by
    have apart : c.id ≠ id := by simpa using other
    constructor
    · exact fun there => (List.filter_sublist.map _).subset there
    · intro there
      obtain ⟨host, row, here⟩ := List.mem_map.mp there
      refine List.mem_map.mpr ⟨host, List.mem_filter.mpr ⟨row, decide_eq_true ?_⟩, here⟩
      exact fun lost => apart (here.symm.trans lost)
  exact (settled.tracks c earlier).trans (not_congr same).symm

theorem settled_setClusterEnabled {id : String} {enabled : Bool} (settled : Settled s)
    (done : s.setClusterEnabled id enabled = .ok s') : Settled s' := by
  constructor
  · exact filed_statement (.setClusterEnabled id enabled done) settled.filed
  · simp only [Store.setClusterEnabled, Store.setCluster] at done
    split_ifs at done
    obtain rfl := Except.ok.inj done
    refine tracks_mapClusters settled.tracks ?_ rfl rfl
    intro c
    split <;> exact ⟨rfl, rfl⟩

theorem places_insertHost {words : String} {host : InventoryHost}
    (done : s.insertHost words host = .ok s') :
    s'.clusters = s.clusters ∧ s'.places = s.places ++ [host.clusterID] := by
  simp only [Store.insertHost] at done
  split_ifs at done
  obtain rfl := Except.ok.inj done
  exact ⟨rfl, List.map_append⟩

theorem settled_addDatacenterHost {id : UUID} {datacenterID : String} {req : AddHostRequest}
    (settled : Settled s) (done : s.addDatacenterHost id datacenterID req = .ok s') :
    Settled s' := by
  obtain ⟨clusters, places⟩ := places_insertHost done
  refine ⟨filed_insertHost settled.filed (Or.inl rfl) done, ?_⟩
  refine tracks_of_hosts settled.tracks clusters fun c member => ?_
  have given := inserted_of_mem settled.filed member
  rw [places, List.mem_append, List.mem_singleton]
  exact or_iff_left given

theorem tracks_updateRow {id : String} {set : InventoryHost → InventoryHost} {db : DB}
    (tracks : Tracks s) (stays : ∀ host, (set host).clusterID = host.clusterID)
    (done : s.updateRow id set = some db) : Tracks { s with toDB := db } := by
  simp only [DB.updateRow] at done
  split_ifs at done
  obtain rfl := Option.some.inj done
  have places : (s.hosts.map fun host => if host.id = id then set host else host).map (·.clusterID) =
      s.places := by
    rw [List.map_map]
    refine List.map_congr_left fun host _ => ?_
    simp only [Function.comp_apply]
    split
    · exact stays host
    · rfl
  refine tracks_of_hosts tracks rfl fun c _ => ?_
  exact iff_of_eq (congrArg (c.id ∈ ·) places)

theorem settled_setHostStatus {id error nodeName : String} {status : HostStatus}
    (settled : Settled s) (done : s.setHostStatus id status error nodeName = .ok s') :
    Settled s' := by
  refine ⟨filed_statement (.setHostStatus id status error nodeName done) settled.filed, ?_⟩
  simp only [Store.setHostStatus, Store.setHost] at done
  split at done
  · rename_i updated
    obtain rfl := Except.ok.inj done
    refine tracks_updateRow settled.tracks ?_ updated
    exact fun _ => rfl
  · cases done

theorem settled_updateHost {id : String} {req : UpdateHostRequest} (settled : Settled s)
    (done : s.updateHost id req = .ok s') : Settled s' := by
  refine ⟨filed_updateHost settled.filed done, ?_⟩
  obtain ⟨db, updated, rfl⟩ := map_eq_ok_iff.mp done
  simp only [Service.updateHost, DB.updateHost] at updated
  split_ifs at updated
  split at updated
  · rename_i changed
    obtain rfl := Except.ok.inj updated
    refine tracks_updateRow settled.tracks ?_ changed
    exact fun _ => rfl
  · cases updated

end Statements

section Moves

variable {s t : Store} {ids : List String}

theorem stays_updateRow {db db' : DB} {id target : String} {set : InventoryHost → InventoryHost}
    (keys : ∀ host, (set host).id = host.id) (moves : ∀ host, (set host).clusterID = target)
    (done : db.updateRow id set = some db') (k : String) :
    db'.Stays ids k ↔ (k = target ∧ id ∉ ids) ∨ db.Stays (id :: ids) k := by
  have there := DB.row_of_updateRow done
  simp only [DB.updateRow] at done
  split_ifs at done
  obtain rfl := Option.some.inj done
  constructor
  · rintro ⟨host', member, here, others⟩
    obtain ⟨host, row, rfl⟩ := List.mem_map.mp member
    by_cases moved : host.id = id
    · rw [if_pos moved] at here others
      refine Or.inl ⟨here.symm.trans (moves host), ?_⟩
      rwa [keys, moved] at others
    · rw [if_neg moved] at here others
      exact Or.inr ⟨host, row, here, List.not_mem_cons_of_ne_of_not_mem moved others⟩
  · rintro (⟨rfl, others⟩ | ⟨host, row, here, others⟩)
    · obtain ⟨host, found⟩ := Option.isSome_iff_exists.mp there
      have key : host.id = id := DB.row_id found
      refine ⟨set host, List.mem_map.mpr ⟨host, ?_, if_pos key⟩, moves host, ?_⟩
      · exact List.mem_of_find?_eq_some found
      · rwa [keys, key]
    · obtain ⟨other, rest⟩ := List.ne_and_not_mem_of_not_mem_cons others
      exact ⟨host, List.mem_map.mpr ⟨host, row, if_neg other⟩, here, rest⟩

theorem moveColumns_id (target : String) (update : Option Token) (host : InventoryHost) :
    (DB.moveColumns target update host).id = host.id := by
  cases update <;> rfl

theorem moveColumns_clusterID (target : String) (update : Option Token) (host : InventoryHost) :
    (DB.moveColumns target update host).clusterID = target := by
  cases update <;> rfl

/-- What the loop of both transactions does to the tables. -/
theorem places_moveHosts {db db' : DB} {target : String} {updates : TokenUpdates}
    (done : DB.moveHosts target updates ids db = .ok db') :
    db'.clusters = db.clusters ∧
      ∀ k, k ∈ db'.places ↔ (k = target ∧ ids ≠ []) ∨ db.Stays ids k := by
  induction ids generalizing db with
  | nil =>
      obtain rfl := Except.ok.inj done
      simp [DB.stays_nil]
  | cons id rest ih =>
      simp only [DB.moveHosts] at done
      split at done
      · rename_i next moved
        obtain ⟨clusters, places⟩ := ih done
        have first : ∀ k, next.Stays rest k ↔ (k = target ∧ id ∉ rest) ∨ db.Stays (id :: rest) k :=
          stays_updateRow (moveColumns_id target _) (moveColumns_clusterID target _) moved
        constructor
        · rw [clusters]
          simp only [DB.updateRow] at moved
          split_ifs at moved
          rw [← Option.some.inj moved]
        · intro k
          rw [places, first]
          by_cases empty : rest = []
          · subst empty
            simp
          · simp only [ne_eq, empty, not_false_iff, and_true, List.cons_ne_nil, ← or_assoc]
            rw [or_iff_left_of_imp And.left]
      · cases done

theorem moveHosts_of_rows {db : DB} {target : String} {updates : TokenUpdates}
    (rows : ∀ id ∈ ids, (db.row id).isSome = true) :
    ∃ db', DB.moveHosts target updates ids db = .ok db' := by
  induction ids generalizing db with
  | nil => exact ⟨db, rfl⟩
  | cons id rest ih =>
      obtain ⟨here, later⟩ := List.forall_mem_cons.mp rows
      cases moved : db.updateRow id (DB.moveColumns target (updates.lookup id)) with
      | none =>
          rw [DB.updateRow, if_pos here] at moved
          cases moved
      | some next =>
          obtain ⟨db', done⟩ := @ih next fun k member => by
            rw [DB.row_updateRow (moveColumns_id target _) moved]
            split
            · simpa using later k member
            · exact later k member
          exact ⟨db', by simp only [DB.moveHosts, moved, done]⟩

/-- A cluster that hosts do not come to has the right status iff it keeps a host. -/
theorem tracks_elsewhere {target : String} (tracks : Tracks s)
    (places : ∀ k, k ∈ t.places ↔ k = target ∨ s.Stays ids k) :
    (∀ c ∈ s.clusters, c.id ≠ target → (c.status = .empty ↔ c.id ∉ t.places)) ↔
      s.LeavesHosts ids target := by
  refine forall₂_congr fun c member => imp_congr_right fun other => ?_
  rw [tracks c member, places, or_iff_right other, not_iff_not]
  exact ⟨Iff.mp, fun kept => ⟨kept, DB.places_of_stays⟩⟩

theorem eq_of_key (filed : Filed s) {c d : Cluster} (first : c ∈ s.clusters)
    (second : d ∈ s.clusters) (key : d.id = c.id) : d = c :=
  List.inj_on_of_nodup_map filed.clusters second first key

/-- After hosts came to a cluster its status is set right; those of the others are not. -/
theorem tracks_leaveEmpty_iff {c : Cluster} {status : ClusterStatus} (settled : Settled s)
    (member : c ∈ s.clusters) (given : status ≠ .empty) (clusters : t.clusters = s.clusters)
    (places : ∀ k, k ∈ t.places ↔ k = c.id ∨ s.Stays ids k) :
    Tracks (exec (Service.leaveEmpty c status) t).2 ↔ s.LeavesHosts ids c.id := by
  have arrived : c.id ∈ t.places := (places c.id).mpr (Or.inl rfl)
  rw [← tracks_elsewhere settled.tracks places, Service.leaveEmpty]
  split
  · have there : (t.getCluster c.id).isSome := by
      simp only [DB.getCluster, List.find?_isSome, clusters]
      exact ⟨c, member, decide_eq_true rfl⟩
    have set : t.setClusterStatus c.id status =
        .ok (t.mapCluster c.id fun d => { d with status := status }) := if_pos there
    rw [exec_ignore, exec_commit_ok set]
    constructor
    · intro tracks d earlier other
      have row := tracks d (List.mem_map.mpr ⟨d, clusters ▸ earlier, if_neg other⟩)
      exact row
    · intro right
      refine List.forall_mem_map.mpr fun d earlier => ?_
      rw [clusters] at earlier
      by_cases here : d.id = c.id
      · rw [if_pos here]
        exact iff_of_false given fun absent => absent (here ▸ arrived)
      · rw [if_neg here]
        exact right d earlier here
  · rename_i occupied
    constructor
    · intro tracks d earlier _
      exact tracks d (clusters ▸ earlier)
    · intro right d earlier
      rw [show (exec (pure () : Action Unit) t).2 = t from rfl] at earlier ⊢
      rw [clusters] at earlier
      by_cases here : d.id = c.id
      · obtain rfl := eq_of_key settled.filed member earlier here
        exact iff_of_false occupied fun absent => absent arrived
      · exact right d earlier here

theorem getCluster_of_mem (filed : Filed s) {c : Cluster} (member : c ∈ s.clusters) :
    s.getCluster c.id = some c := by
  cases found : s.getCluster c.id with
  | none =>
      refine absurd rfl (getCluster_isNone_iff.mp ?_ c member)
      rw [found]
      rfl
  | some d =>
      have key : d.id = c.id := by simpa using List.find?_some found
      rw [eq_of_key filed member (List.mem_of_find?_eq_some found) key]

theorem leavesHosts_of_unknown {id target : String} (unknown : (s.row id).isSome = false) :
    s.LeavesHosts [id] target := by
  intro c _ _ there
  obtain ⟨host, row, here⟩ := List.mem_map.mp there
  exact ⟨host, row, here, by simpa using row_isNone_iff.mp unknown host row⟩

theorem tracks_arrive_iff {c : Cluster} {hostID : String} {status : ClusterStatus}
    (settled : Settled s) (member : c ∈ s.clusters) (given : status ≠ .empty) :
    Tracks (exec (do
      commit fun s => s.moveHostToCluster hostID c.id
      Service.leaveEmpty c status) s).2 ↔ s.LeavesHosts [hostID] c.id := by
  have found := getCluster_of_mem settled.filed member
  cases row : (s.row hostID).isSome with
  | false =>
      have failed : s.moveHostToCluster hostID c.id = .error "host not found" := by
        simp [Store.moveHostToCluster, Store.setHost, DB.updateRow, row]
      rw [exec_commit_bind_error failed]
      exact iff_of_true settled.tracks (leavesHosts_of_unknown row)
  | true =>
      have present : ¬((s.row hostID).isSome ∧ (s.getCluster c.id).isNone) := by
        rw [found]
        simp
      obtain ⟨db, updated⟩ : ∃ db, s.updateRow hostID
          (fun host => { host with clusterID := c.id, datacenterID := "" }) = some db :=
        ⟨_, if_pos row⟩
      have done : s.moveHostToCluster hostID c.id = .ok { s with toDB := db } := by
        simp only [Store.moveHostToCluster, if_neg present, Store.setHost, updated]
      have places : ∀ k, db.Stays [] k ↔ (k = c.id ∧ hostID ∉ []) ∨ s.Stays [hostID] k := by
        refine stays_updateRow ?_ ?_ updated
        · exact fun _ => rfl
        · exact fun _ => rfl
      rw [exec_commit_bind_ok done]
      refine tracks_leaveEmpty_iff settled member given ?_ fun k => ?_
      · simp only [DB.updateRow, if_pos row] at updated
        rw [← Option.some.inj updated]
      · rw [← DB.stays_nil]
        simpa using places k

theorem tracks_moveHostToCluster_iff {hostID clusterID : String} (settled : Settled s) :
    Tracks (exec (Service.moveHostToCluster hostID clusterID) s).2 ↔
      ∀ move ∈ s.moving (.moveHostToCluster hostID clusterID), s.LeavesHosts move.1 move.2 := by
  rw [Service.moveHostToCluster, Service.withCluster, exec_read_bind, Store.moving]
  cases found : s.getCluster clusterID with
  | none => exact iff_of_true settled.tracks fun _ moved => by cases moved
  | some c =>
      obtain rfl : c.id = clusterID := by simpa using List.find?_some found
      have arrive := @tracks_arrive_iff s c hostID .pending settled
        (List.mem_of_find?_eq_some found) (fun same => by cases same)
      simpa using arrive

/-- The hosts that are already in a cluster do not matter to one that enters. -/
theorem settled_enter {c : Cluster} {uuid : UUID} {req : AddHostRequest} (settled : Settled s)
    (member : c ∈ s.clusters) :
    Tracks (exec (do
      commit fun s => s.addHost uuid c.id req
      Service.leaveEmpty c .pending) s).2 := by
  cases outcome : s.addHost uuid c.id req with
  | error failure =>
      rw [exec_commit_bind_error outcome]
      exact settled.tracks
  | ok t =>
      obtain ⟨clusters, places⟩ := places_insertHost outcome
      rw [exec_commit_bind_ok outcome]
      have kept := @tracks_leaveEmpty_iff s t [] c .pending settled member (fun same => by cases same) clusters
      refine (kept fun k => ?_).mpr ?_
      · rw [places, List.mem_append, List.mem_singleton, DB.stays_nil, or_comm]
        rfl
      · exact fun d _ _ there => DB.stays_nil.mpr there

theorem tracks_addHost {clusterID : String} {uuid : UUID} {answer : Except String Token}
    {req : AddHostRequest} (settled : Settled s) :
    Tracks (exec (Service.addHost clusterID uuid answer req) s).2 := by
  refine leaves_withCluster settled.tracks fun c found => ?_
  refine leaves_orThrow_bind settled.tracks fun req _ => ?_
  obtain rfl : c.id = clusterID := by simpa using List.find?_some found
  exact settled_enter settled (List.mem_of_find?_eq_some found)

theorem mem_of_getClusterByPVEName {pveName : String} {c : Cluster}
    (found : s.getClusterByPVEName pveName = some c) : c ∈ s.clusters := by
  simp only [Store.getClusterByPVEName] at found
  split_ifs at found
  exact List.mem_of_find?_eq_some found

/-- The cluster that a host of a PVE cluster brings with it, once it is inserted. -/
theorem settled_routed {uuid : UUID} {req : CreateClusterRequest} (settled : Settled s)
    (done : s.insertCluster (Store.newCluster uuid req) req.pveClusterName = .ok t) :
    Settled t ∧ Store.newCluster uuid req ∈ t.clusters := by
  refine ⟨settled_insertCluster settled done, ?_⟩
  obtain ⟨-, -, rfl⟩ := insertCluster_eq_ok_iff.mp done
  exact List.mem_append_right _ (List.mem_singleton_self _)

theorem tracks_addHostAutoRoute {dc : String} {clusterUUID hostUUID : UUID}
    {answer : Except String Token} {probe : Except String ClusterMembership}
    {req : AddHostRequest} (settled : Settled s) :
    Tracks (exec (Service.addHostAutoRoute dc clusterUUID hostUUID answer probe req) s).2 := by
  refine leaves_checkDatacenter settled.tracks fun _ => ?_
  refine leaves_orThrow_bind settled.tracks fun req _ => ?_
  refine leaves_orThrow_bind settled.tracks fun membership _ => ?_
  split
  · have entered : ∀ (t : Store) (c : Cluster), Settled t → c ∈ t.clusters →
        Tracks (exec (do
          rename (fun text => "add host: " ++ text) (commit fun s => s.addHost hostUUID c.id req)
          Service.leaveEmpty c .pending) t).2 := by
      intro t c settled member
      rw [exec_rename_bind]
      exact settled_enter settled member
    rw [exec_rename_bind, exec_bind]
    rcases findOrCreateCluster_cases s clusterUUID dc membership.clusterName req.address with
      ⟨c, known, ran⟩ | ⟨-, ⟨t, done, ran⟩ | ⟨failure, failed, ran⟩⟩
    · rw [ran]
      exact entered s c settled (mem_of_getClusterByPVEName known)
    · obtain ⟨later, member⟩ := settled_routed settled done
      rw [ran]
      exact entered t _ later member
    · rw [ran]
      exact settled.tracks
  · refine leaves_commit settled.tracks fun t done => ?_
    exact (settled_addDatacenterHost settled done).tracks

theorem created_isSome_iff {name agentName : String} {dc : Option String} :
    (s.created name agentName dc).isSome ↔
      (s.getClusterByName name).isNone ∧ s.hasDatacenter dc = true := by
  simp only [Store.created]
  split
  · rename_i ready
    exact iff_of_true rfl ready
  · rename_i refused
    exact iff_of_false (fun ran => by cases ran) refused

theorem insertCluster_isOk_iff {cluster : Cluster} {pveName : String} :
    (∃ t, s.insertCluster cluster pveName = .ok t) ↔
      (s.created cluster.name cluster.agentName cluster.datacenterID).isSome ∧
        (s.getCluster cluster.id).isNone := by
  simp only [insertCluster_eq_ok_iff, Store.created, Option.isNone_iff_eq_none]
  constructor
  · rintro ⟨t, new, created, -⟩
    exact ⟨Option.isSome_iff_exists.mpr ⟨_, created⟩, by simpa using new⟩
  · rintro ⟨created, new⟩
    refine ⟨_, by simp [new], ?_, rfl⟩
    split at created
    · rw [if_pos ‹_›]
    · cases created

theorem insertCluster_routed_iff {uuid : UUID} {dc pveName address : String}
    (unknown : s.getClusterByPVEName pveName = none) :
    (∃ t, s.insertCluster (Store.newCluster uuid (routedRequest s dc pveName address)) pveName =
        .ok t) ↔
      (s.routed pveName address dc).isSome ∧ (s.getCluster uuid.text).isNone := by
  rw [insertCluster_isOk_iff, Store.routed, unknown]
  rfl

theorem tracks_promoteStandalone_iff {uuid : UUID} {host : InventoryHost} {dc pveName : String}
    (settled : Settled s) :
    Tracks (exec (Reconciler.promoteStandalone uuid host dc pveName) s).2 ↔
      ∀ move ∈ s.moving (.promoteStandalone uuid host dc pveName),
        s.LeavesHosts move.1 move.2 := by
  rw [Reconciler.promoteStandalone, exec_bind, Store.moving, Store.promotionTarget]
  rcases findOrCreateCluster_cases s uuid dc pveName host.address with
    ⟨c, known, ran⟩ | ⟨unknown, ⟨t, done, ran⟩ | ⟨failure, failed, ran⟩⟩
  · rw [ran, known]
    have arrive := @tracks_arrive_iff s c host.id .active settled
      (mem_of_getClusterByPVEName known) (fun same => by cases same)
    simpa using arrive
  · have possible := (insertCluster_routed_iff unknown).mp ⟨t, done⟩
    obtain ⟨later, member⟩ := settled_routed settled done
    have arrive := @tracks_arrive_iff t _ host.id .active later member (fun same => by cases same)
    obtain ⟨new, created, rfl⟩ := insertCluster_eq_ok_iff.mp done
    -- the new cluster is the one that the host comes to
    have same : Store.LeavesHosts { s with
        clusters := s.clusters ++ [Store.newCluster uuid (routedRequest s dc pveName host.address)]
        pveClusterName := Function.update s.pveClusterName uuid.text pveName }
          [host.id] uuid.text ↔ s.LeavesHosts [host.id] uuid.text := by
      constructor
      · exact fun kept c earlier => kept c (List.mem_append_left _ earlier)
      · intro kept c member other
        rcases List.mem_append.mp member with earlier | last
        · exact kept c earlier other
        · exact absurd (congrArg Cluster.id (List.mem_singleton.mp last)) other
    rw [ran, unknown]
    simp only [if_pos possible]
    refine arrive.trans (same.trans ?_)
    simp
  · have refused : ¬((s.routed pveName host.address dc).isSome ∧
        (s.getCluster uuid.text).isNone) := by
      rw [← insertCluster_routed_iff unknown]
      rintro ⟨t, done⟩
      cases failed.symm.trans done
    rw [ran, unknown]
    simp only [if_neg refused]
    exact iff_of_true settled.tracks fun _ moved => by cases moved

theorem moved_of_addHostsToCluster {req : AddHostsToClusterRequest}
    (done : s.addHostsToCluster req = .ok t) :
    req.hostIDs ≠ [] ∧ (s.getCluster req.clusterID).isSome ∧
      ∃ db, DB.moveHosts req.clusterID req.tokenUpdates req.hostIDs s.toDB = .ok db ∧
        t = { s with toDB := db } := by
  obtain ⟨db, moved, rfl⟩ := map_eq_ok_iff.mp done
  simp only [Service.addHostsToCluster, DB.addHostsToCluster] at moved
  split at moved
  · cases moved
  · rename_i c found
    split_ifs at moved with unnamed none
    refine ⟨none, ?_, db, moved, rfl⟩
    rw [found]
    rfl

theorem addHostsToCluster_isOk_iff {req : AddHostsToClusterRequest} (filed : Filed s) :
    (∃ t, s.addHostsToCluster req = .ok t) ↔ (s.transferred req).isSome := by
  simp only [Store.transferred]
  constructor
  · rintro ⟨t, done⟩
    obtain ⟨given, found, db, moved, -⟩ := moved_of_addHostsToCluster done
    have rows := rows_of_moveHosts moved
    rwa [if_pos ⟨given, List.all_eq_true.mpr rows⟩]
  · intro possible
    split at possible
    · rename_i ready
      obtain ⟨given, rows⟩ := ready
      obtain ⟨c, found⟩ := Option.isSome_iff_exists.mp possible
      have key : c.id = req.clusterID := by simpa using List.find?_some found
      have named : req.clusterID ≠ "" :=
        key ▸ inserted_of_mem filed (List.mem_of_find?_eq_some found)
      obtain ⟨db, moved⟩ := @moveHosts_of_rows req.hostIDs s.toDB req.clusterID req.tokenUpdates
        (List.all_eq_true.mp rows)
      have done : Service.addHostsToCluster s.toDB req = .ok db := by
        simp only [Service.addHostsToCluster, found, DB.addHostsToCluster, if_neg named,
          if_neg given, moved]
      exact ⟨{ s with toDB := db }, by rw [Store.addHostsToCluster, done]; rfl⟩
    · cases possible

theorem tracks_addHostsToCluster_iff {req : AddHostsToClusterRequest} (settled : Settled s) :
    Tracks (exec (commit fun s => s.addHostsToCluster req) s).2 ↔
      StatusKept s (.addHostsToCluster req) := by
  have possible := @addHostsToCluster_isOk_iff s req settled.filed
  simp only [StatusKept, Store.moving, Store.filling]
  cases outcome : s.addHostsToCluster req with
  | error failure =>
      have refused : s.transferred req = none := by
        rw [← Option.not_isSome_iff_eq_none, ← possible]
        rintro ⟨t, done⟩
        cases outcome.symm.trans done
      rw [exec_commit_error outcome, refused]
      exact iff_of_true settled.tracks ⟨fun _ moved => (by cases moved), fun _ filled => (by cases filled)⟩
  | ok t =>
      obtain ⟨c, transferred⟩ := Option.isSome_iff_exists.mp (possible.mp ⟨t, outcome⟩)
      obtain ⟨given, -, db, moved, rfl⟩ := moved_of_addHostsToCluster outcome
      have found : s.getCluster req.clusterID = some c := by
        simp only [Store.transferred] at transferred
        split at transferred
        · exact transferred
        · cases transferred
      have key : c.id = req.clusterID := by simpa using List.find?_some found
      have member : c ∈ s.clusters := List.mem_of_find?_eq_some found
      obtain ⟨clusters, arrived⟩ := places_moveHosts moved
      have places : ∀ k, k ∈ db.places ↔ k = req.clusterID ∨ s.Stays req.hostIDs k := by
        intro k
        rw [arrived, and_iff_left given]
      have others := @tracks_elsewhere s { s with toDB := db } _ _ settled.tracks places
      rw [exec_commit_ok outcome, transferred]
      simp only [Option.map_some, Option.mem_some_iff, forall_eq']
      rw [← others]
      have there : c.id ∈ db.places := (places c.id).mpr (Or.inl key)
      constructor
      · intro tracks
        refine ⟨fun d earlier _ => tracks d (clusters ▸ earlier), fun empty => ?_⟩
        exact (tracks c (clusters ▸ member)).mp empty there
      · rintro ⟨right, occupied⟩ d earlier
        replace earlier : d ∈ s.clusters := clusters ▸ earlier
        by_cases here : d.id = req.clusterID
        · obtain rfl := eq_of_key settled.filed member earlier (here.trans key.symm)
          exact iff_of_false occupied fun absent => absent there
        · exact right d earlier here

theorem formClusterFromHosts_isOk_iff {uuid : UUID} {req : FormClusterFromHostsRequest} :
    (∃ t, s.formClusterFromHosts uuid req = .ok t) ↔
      (s.formed req).isSome ∧ (s.getCluster uuid.text).isNone := by
  constructor
  · rintro ⟨t, done⟩
    simp only [Store.formClusterFromHosts] at done
    obtain ⟨⟨cluster, db⟩, formed, later⟩ := bind_eq_ok_iff.mp done
    split_ifs at later with taken
    obtain ⟨-, naming, -⟩ := formed_of_ok formed
    rw [naming]
    exact ⟨rfl, by simpa using taken⟩
  · rintro ⟨possible, new⟩
    have free : ¬(s.getCluster uuid.text).isSome := by simpa using new
    simp only [Store.formed] at possible
    have ready : ¬(trimSpace req.name = "" ∨ req.hostIDs = [] ∨
        ¬req.hostIDs.all fun id => (s.row id).isSome) := by
      intro refused
      rw [if_pos refused] at possible
      cases possible
    rw [if_neg ready] at possible
    obtain ⟨unused, referenced⟩ := created_isSome_iff.mp possible
    simp only [not_or, not_not] at ready
    obtain ⟨named, given, rows⟩ := ready
    have shown : ¬(s.getClusterByName (trimSpace req.name)).isSome := by simpa using unused
    have dc : ¬(req.datacenterID ≠ "" ∧ req.datacenterID ∉ s.datacenters) := by
      rintro ⟨reference, missing⟩
      rw [if_neg reference] at referenced
      exact missing (of_decide_eq_true referenced)
    obtain ⟨db, moved⟩ : ∃ db, DB.moveHosts uuid.text req.tokenUpdates req.hostIDs
        { s.toDB with clusters := s.clusters ++ [
          { id := uuid.text, name := trimSpace req.name
            agentName := if req.agentName = "" then trimSpace req.name else req.agentName
            datacenterID := if req.datacenterID = "" then none else some req.datacenterID
            status := .active, enabled := true }] } = .ok db :=
      moveHosts_of_rows (List.all_eq_true.mp rows)
    refine ⟨{ s with
      toDB := db, pveClusterName := Function.update s.pveClusterName uuid.text "" }, ?_⟩
    simp only [Store.formClusterFromHosts, Service.formClusterFromHosts, if_neg named,
      if_neg shown, if_neg dc, DB.formClusterFromHosts, if_neg given, moved]
    exact if_neg free

theorem tracks_formClusterFromHosts_iff {uuid : UUID} {req : FormClusterFromHostsRequest}
    (settled : Settled s) :
    Tracks (exec (commit fun s => s.formClusterFromHosts uuid req) s).2 ↔
      ∀ move ∈ s.moving (.formClusterFromHosts uuid req), s.LeavesHosts move.1 move.2 := by
  have possible := @formClusterFromHosts_isOk_iff s uuid req
  simp only [Store.moving]
  cases outcome : s.formClusterFromHosts uuid req with
  | error failure =>
      have refused : ¬((s.formed req).isSome ∧ (s.getCluster uuid.text).isNone) := by
        rw [← possible]
        rintro ⟨t, done⟩
        cases outcome.symm.trans done
      rw [exec_commit_error outcome, if_neg refused]
      exact iff_of_true settled.tracks fun _ moved => by cases moved
  | ok t =>
      rw [exec_commit_ok outcome, if_pos (possible.mp ⟨t, outcome⟩)]
      simp only [Option.mem_some_iff, forall_eq']
      simp only [Store.formClusterFromHosts] at outcome
      obtain ⟨⟨cluster, db⟩, formed, later⟩ := bind_eq_ok_iff.mp outcome
      split_ifs at later with taken
      obtain rfl := Except.ok.inj later
      obtain ⟨key, -, ⟨-, active, given⟩, moved⟩ := formed_of_ok formed
      obtain ⟨clusters, arrived⟩ := places_moveHosts moved
      replace clusters : db.clusters = s.clusters ++ [cluster] := clusters
      have places : ∀ k, k ∈ db.places ↔ k = uuid.text ∨ s.Stays req.hostIDs k := by
        intro k
        rw [arrived, and_iff_left given]
        rfl
      have others := @tracks_elsewhere s { s with toDB := db } _ _ settled.tracks places
      have fresh : ∀ c ∈ s.clusters, c.id ≠ uuid.text :=
        getCluster_isNone_iff.mp (by simpa using taken)
      rw [← others]
      constructor
      · intro tracks d earlier _
        exact tracks d (clusters ▸ List.mem_append_left _ earlier)
      · intro right d member
        replace member : d ∈ s.clusters ++ [cluster] := clusters ▸ member
        rcases List.mem_append.mp member with earlier | last
        · exact right d earlier (fresh d earlier)
        · obtain rfl := List.mem_singleton.mp last
          rw [active]
          exact iff_of_false (fun on => by cases on) fun absent => absent ((places _).mpr (Or.inl key))

theorem tracks_deleteHost {id : String} (settled : Settled s) :
    Tracks (exec (Service.deleteHost id) s).2 := by
  rw [Service.deleteHost, exec_read_bind]
  split
  · exact settled.tracks
  · rename_i host found
    obtain ⟨row, there, rfl⟩ := Option.map_eq_some_iff.mp found
    have member : row ∈ s.hosts := List.mem_of_find?_eq_some there
    have key : row.id = id := DB.row_id there
    let t : Store := { s with hosts := s.hosts.filter (·.id ≠ id) }
    have done : s.deleteHost id = .ok t := if_pos (Option.isSome_iff_exists.mpr ⟨row, there⟩)
    have places : ∀ k, k ≠ row.clusterID → (k ∈ t.places ↔ k ∈ s.places) := by
      intro k other
      constructor
      · exact fun there => (List.filter_sublist.map _).subset there
      · intro there
        obtain ⟨host, stored, rfl⟩ := List.mem_map.mp there
        refine List.mem_map.mpr ⟨host, List.mem_filter.mpr ⟨stored, decide_eq_true ?_⟩, rfl⟩
        intro deleted
        have same := List.inj_on_of_nodup_map settled.filed.hosts stored member
          (deleted.trans key.symm)
        exact other (congrArg InventoryHost.clusterID same)
    have others : ∀ d ∈ s.clusters, d.id ≠ row.clusterID →
        (d.status = .empty ↔ d.id ∉ t.places) := by
      intro d earlier other
      rw [places d.id other]
      exact settled.tracks d earlier
    have counted : t.hostCountByCluster row.clusterID = 0 ↔ row.clusterID ∉ t.places := by
      simp [Store.hostCountByCluster, DB.places]
    rw [exec_commit_bind_ok done, exec_read_bind]
    split
    · rename_i none
      replace none := counted.mp none
      rw [exec_ignore]
      by_cases known : (t.getCluster row.clusterID).isSome
      · have set : t.setClusterStatus row.clusterID .empty =
            .ok (t.mapCluster row.clusterID fun d => { d with status := .empty }) := if_pos known
        rw [exec_commit_ok set]
        refine List.forall_mem_map.mpr fun d earlier => ?_
        by_cases here : d.id = row.clusterID
        · rw [if_pos here]
          exact iff_of_true rfl (here ▸ none)
        · rw [if_neg here]
          exact others d earlier here
      · have failed : t.setClusterStatus row.clusterID .empty = .error "cluster not found" :=
          if_neg known
        rw [exec_commit_error failed]
        intro d earlier
        exact others d earlier (getCluster_isNone_iff.mp (Bool.eq_false_iff.mpr known) d earlier)
    · rename_i some
      replace some := not_not.mp ((not_congr counted).mp some)
      intro d earlier
      by_cases here : d.id = row.clusterID
      · have before : d.id ∈ s.places := here ▸ List.mem_map_of_mem member
        have occupied : d.status ≠ .empty := fun empty => (settled.tracks d earlier).mp empty before
        exact iff_of_false occupied fun absent => absent (here ▸ some)
      · exact others d earlier here

end Moves

section Runs

variable {s : Store}

/-- Statements that have nothing to do with hosts of clusters keep what is settled. -/
theorem settled_of_chains {x : Action Unit} (settled : Settled s)
    (chains : Chains (fun s s' => Settled s → Settled s') x) : Tracks (exec x s).2 :=
  (chains.keeps (fun _ _ kept => kept) settled).tracks

theorem statusKept_of_still {op : Operation} (moving : s.moving op = none)
    (filling : s.filling op = none) : StatusKept s op := by
  rw [StatusKept, moving, filling]
  exact ⟨fun _ moved => (by cases moved), fun _ filled => (by cases filled)⟩

theorem statusKept_iff_of_unfilled {op : Operation} (filling : s.filling op = none) :
    StatusKept s op ↔ ∀ move ∈ s.moving op, s.LeavesHosts move.1 move.2 := by
  rw [StatusKept, filling]
  exact and_iff_left fun _ filled => by cases filled

/-- One operation: the statuses stay right exactly under the condition. -/
theorem tracks_operate_iff {op : Operation} (listed : op.Listed) (settled : Settled s) :
    Tracks (operate s op) ↔ StatusKept s op := by
  have still : ∀ {op}, s.moving op = none → s.filling op = none → Tracks (operate s op) →
      (Tracks (operate s op) ↔ StatusKept s op) :=
    fun moving filling tracks => iff_of_true tracks (statusKept_of_still moving filling)
  have insert : ∀ uuid s s' req,
      s.insertCluster (Store.newCluster uuid req) req.pveClusterName = .ok s' →
      Settled s → Settled s' :=
    fun _ _ _ _ done settled => settled_insertCluster settled done
  have update : ∀ s s' id req, s.updateCluster id req = .ok s' → Settled s → Settled s' :=
    fun _ _ _ _ done settled => settled_updateCluster settled done
  have delete : ∀ s s' id, s.deleteCluster id = .ok s' → Settled s → Settled s' :=
    fun _ _ _ done settled => settled_deleteCluster settled done
  cases op with
  | createDatacenter uuid name =>
      refine still rfl rfl (settled_of_chains settled (chains_createDatacenter ?_))
      intro s s' done settled
      refine ⟨filed_createDatacenter settled.filed done, ?_⟩
      simp only [Store.createDatacenter] at done
      split_ifs at done
      obtain rfl := Except.ok.inj done
      exact settled.tracks
  | updateDatacenter id name =>
      refine still rfl rfl (settled_of_chains settled (chains_updateDatacenter ?_))
      intro s s' done settled
      refine ⟨filed_statement (.updateDatacenter _ _ done) settled.filed, ?_⟩
      simp only [Store.updateDatacenter] at done
      split_ifs at done
      obtain rfl := Except.ok.inj done
      exact settled.tracks
  | deleteDatacenter id =>
      refine still rfl rfl (settled_of_chains settled (chains_deleteDatacenter ?_))
      exact fun _ _ done settled =>
        ⟨filed_deleteDatacenter settled.filed done, tracks_deleteDatacenter settled done⟩
  | createCluster uuid req =>
      refine still rfl rfl (settled_of_chains settled (chains_ignore ?_))
      exact chains_createCluster (insert uuid)
  | updateCluster id req =>
      refine still rfl rfl (settled_of_chains settled ?_)
      exact chains_updateCluster fun s s' => update s s' id
  | updateClusterByName name req =>
      refine still rfl rfl (settled_of_chains settled ?_)
      exact chains_withCluster fun c => chains_updateCluster fun s s' => update s s' c.id
  | deleteCluster id =>
      exact still rfl rfl (settled_of_chains settled (chains_deleteCluster delete))
  | deleteClusterByName name =>
      exact still rfl rfl (settled_of_chains settled (chains_deleteCluster delete))
  | setClusterEnabled id enabled =>
      refine still rfl rfl (settled_of_chains settled (chains_setClusterEnabled ?_))
      exact fun _ _ done settled => settled_setClusterEnabled settled done
  | setClusterStatus id status => exact listed.elim
  | moveClusterToDatacenter name dc =>
      exact still rfl rfl (settled_of_chains settled (chains_moveClusterToDatacenter update))
  | addHost clusterID uuid answer req => exact still rfl rfl (tracks_addHost settled)
  | addHostByClusterName name uuid answer req =>
      refine still rfl rfl ?_
      exact leaves_withCluster settled.tracks fun _ _ => tracks_addHost settled
  | addHostAutoRoute dc clusterUUID hostUUID answer probe req =>
      exact still rfl rfl (tracks_addHostAutoRoute settled)
  | addDatacenterHost dc uuid answer req =>
      refine still rfl rfl (settled_of_chains settled (chains_addDatacenterHost ?_))
      exact fun _ _ _ done settled => settled_addDatacenterHost settled done
  | updateHost id req =>
      refine still rfl rfl (settled_of_chains settled (chains_commit ?_))
      exact fun _ _ done settled => settled_updateHost settled done
  | deleteHost id => exact still rfl rfl (tracks_deleteHost settled)
  | moveHostToCluster hostID clusterID =>
      exact (tracks_moveHostToCluster_iff settled).trans (statusKept_iff_of_unfilled rfl).symm
  | setHostStatus id status error nodeName =>
      refine still rfl rfl (settled_of_chains settled (chains_commit ?_))
      exact fun _ _ done settled => settled_setHostStatus settled done
  | formClusterFromHosts uuid req =>
      exact (tracks_formClusterFromHosts_iff settled).trans (statusKept_iff_of_unfilled rfl).symm
  | addHostsToCluster req => exact tracks_addHostsToCluster_iff settled
  | promoteStandalone uuid host dc pveName =>
      exact (tracks_promoteStandalone_iff settled).trans (statusKept_iff_of_unfilled rfl).symm
  | reconcileLegacy uuid c pveName probe => exact listed.elim

/-- In a run without explicit statuses the status of every cluster says whether it has hosts, iff
no step takes another cluster's last host or fills an empty cluster by `AddHostsToCluster`. -/
theorem status_tracks_hosts_iff {ops : List Operation} (listed : ∀ op ∈ ops, op.Listed) :
    (∀ s ∈ states operate Store.empty ops, Tracks s) ↔
      Along operate StatusKept Store.empty ops := by
  have settled : (∀ s ∈ states operate Store.empty ops, Settled s) ↔
      Along operate StatusKept Store.empty ops := by
    refine invariant_iff_along (fun s op member settled => ?_) settled_empty
    rw [← tracks_operate_iff (listed op member) settled]
    exact ⟨Settled.tracks, fun tracks => ⟨filed_operate op settled.filed, tracks⟩⟩
  rw [← settled]
  constructor
  · exact fun tracks s reached => ⟨filed_states s reached, tracks s reached⟩
  · exact fun all s reached => (all s reached).tracks

/-- A datacenter with a standalone host and a cluster. -/
def withStandalone : List Operation :=
  [.createDatacenter (drawn "d-1" given_d1) "main",
    .createCluster (drawn "c-1" given_c1) ⟨"lab", some "d-1", ""⟩,
    .addDatacenterHost "d-1" (drawn "h-1" given_h1) (.error "") (withToken "10.0.0.1:8006")]

/-- The host is moved, and deleted again. -/
theorem status_tracks_moved_host :
    (∀ op ∈ withStandalone ++ [Operation.moveHostToCluster "h-1" "c-1", .deleteHost "h-1"], op.Listed) ∧
      ((∀ s ∈ states operate Store.empty
          (withStandalone ++ [Operation.moveHostToCluster "h-1" "c-1", .deleteHost "h-1"]), Tracks s) ↔
        Along operate StatusKept Store.empty
          (withStandalone ++ [Operation.moveHostToCluster "h-1" "c-1", .deleteHost "h-1"])) := by
  have listed : ∀ op ∈ withStandalone ++ [Operation.moveHostToCluster "h-1" "c-1", .deleteHost "h-1"],
      op.Listed := by
    simp [withStandalone, Operation.Listed]
  exact ⟨listed, status_tracks_hosts_iff listed⟩

/-- A cluster that has got its first member from the orchestrator is still empty. -/
theorem filled_cluster_stays_empty :
    ¬∀ s ∈ states operate Store.empty
      (withStandalone ++ [Operation.addHostsToCluster ⟨"c-1", ["h-1"], []⟩]), Tracks s := by
  decide +kernel

end Runs

end Inventory
