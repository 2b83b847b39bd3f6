import PCenter.InventoryFiling

/-!
# The cleanup of legacy clusters

`Reconciler.ReconcileLegacy` goes through the clusters that it has listed, and makes the only
host of a cluster whose node is not in a PVE cluster a standalone host again: the row is
deleted and inserted once more, and then the cluster is deleted. Each of these is a statement
of its own, and any call to the database can fail and leaves the tables as they were.
-/

namespace LegacyReconcile

open Inventory Procedure Transition

/-- The calls that fail in one turn of the loop, with the words of their errors. -/
structure Faults where
  listHostsByCluster : Option String
  setPVEClusterName : Option String
  deleteHost : Option String
  addDatacenterHost : Option String
  setHostStatus : Option String
  deleteCluster : Option String

/-- What a turn meets: the key that is drawn for a host, what the probe of a host answers, and
the calls that fail. -/
structure Turn where
  uuid : UUID
  probe : InventoryHost → Except String ClusterMembership
  faults : Faults

structure LegacyReconcileResult where
  correlatedClusters : List String
  demotedHosts : List String
  deletedClusters : List String
  skippedClusters : List String
  errors : List String
  deriving DecidableEq, Repr

/-- The tables, the result so far, and of each cluster that was deleted the hosts that it held
at that moment, which the code does not record. -/
structure Pass where
  store : Store
  out : LegacyReconcileResult
  held : List (List InventoryHost)

/-- A cluster as the pass has listed it, with its turn. -/
structure Visit where
  cluster : Cluster
  pveClusterName : String
  turn : Turn

/-- A call to the database. -/
def call (fault : Option String) (statement : Store → Except String Store) (s : Store) :
    Except String Store :=
  match fault with
  | some text => .error text
  | none => statement s

namespace Pass

variable (p : Pass)

def start (s : Store) : Pass := ⟨s, ⟨[], [], [], [], []⟩, []⟩

def skip (text : String) : Pass :=
  { p with out := { p.out with skippedClusters := p.out.skippedClusters ++ [text] } }

def fail (text : String) : Pass :=
  { p with out := { p.out with errors := p.out.errors ++ [text] } }

/-- The turn of a cluster one of whose nodes is in a PVE cluster. -/
def correlate (v : Visit) (name : String) : Pass :=
  match call v.turn.faults.setPVEClusterName (·.setPVEClusterName v.cluster.id name) p.store with
  | .error text => p.fail (v.cluster.name ++ ": set pve name: " ++ text)
  | .ok s =>
      { p with
        store := s
        out := { p.out with
          correlatedClusters := p.out.correlatedClusters ++ [v.cluster.name ++ " → " ++ name] } }

/-- The request with which the host is added again. -/
def readded (host : InventoryHost) : AddHostRequest :=
  { address := host.address, insecure := host.insecure, username := "", password := ""
    tokenID := host.tokenID, tokenSecret := host.tokenSecret }

/-- The end of a demotion: the status is restored if it can be, the empty cluster goes. -/
def finish (v : Visit) (host : InventoryHost) : Pass :=
  let faults := v.turn.faults
  let restored := (call faults.setHostStatus
    (·.setHostStatus v.turn.uuid.text host.status host.error host.nodeName) p.store).toOption
  let s := restored.getD p.store
  match call faults.deleteCluster (·.deleteCluster v.cluster.id) s with
  | .error text =>
      { p with store := s }.fail (v.cluster.name ++ ": delete empty cluster: " ++ text)
  | .ok t =>
      { store := t
        out := { p.out with
          demotedHosts := p.out.demotedHosts ++ [host.address]
          deletedClusters := p.out.deletedClusters ++ [v.cluster.name] }
        held := p.held ++ [s.listHostsByCluster v.cluster.id] }

/-- The host is moved to the datacenter: its row is deleted and added again. -/
def demote (v : Visit) (host : InventoryHost) (datacenterID : String) : Pass :=
  let faults := v.turn.faults
  match call faults.deleteHost (·.deleteHost host.id) p.store with
  | .error text => p.fail (v.cluster.name ++ ": delete host: " ++ text)
  | .ok s =>
      match call faults.addDatacenterHost
          (·.addDatacenterHost v.turn.uuid datacenterID (readded host)) s with
      | .error text =>
          { p with store := s }.fail (v.cluster.name ++ ": re-add as standalone: " ++ text)
      | .ok t => { p with store := t }.finish v host

/-- What the answer of a probe leads to: the hosts of a cluster that no PVE cluster is behind
are moved only when there is one of them. -/
def answer (v : Visit) (hosts : List InventoryHost) (membership : ClusterMembership) : Pass :=
  if membership.isCluster then p.correlate v membership.clusterName
  else
    match hosts, v.cluster.datacenterID with
    | [host], some datacenterID => p.demote v host datacenterID
    | [_], none => p.skip (v.cluster.name ++ " (orphan cluster, no datacenter)")
    | _, _ => p.skip (v.cluster.name ++ " (multi-host, standalone probe)")

/-- The first host with credentials is probed. -/
def probe (v : Visit) (hosts : List InventoryHost) : Pass :=
  if hosts = [] then p.skip (v.cluster.name ++ " (empty)")
  else
    match hosts.find? (·.tokenSecret ≠ "") with
    | none => p.skip (v.cluster.name ++ " (no probe credentials)")
    | some probeHost =>
        match v.turn.probe probeHost with
        | .error text => p.fail (v.cluster.name ++ ": probe failed: " ++ text)
        | .ok membership => p.answer v hosts membership

/-- One turn of the loop. -/
def visit (v : Visit) : Pass :=
  if v.pveClusterName ≠ "" then p
  else
    match v.turn.faults.listHostsByCluster with
    | some text => p.fail (v.cluster.name ++ ": list hosts: " ++ text)
    | none => p.probe v (p.store.listHostsByCluster v.cluster.id)

end Pass

/-- The clusters of the pass; the turns are numbered in the order of the loop. -/
def visits (s : Store) (turns : Nat → Turn) : List Visit :=
  s.listClusters.zipIdx.map fun entry =>
    ⟨entry.1, s.pveClusterName entry.1.id, turns entry.2⟩

/-- `ReconcileLegacy`: its answer, and the pass as it was left. -/
def reconcileLegacy (listFault : Option String) (turns : Nat → Turn) (s : Store) :
    Except String LegacyReconcileResult × Pass :=
  match listFault with
  | some text => (.error text, Pass.start s)
  | none =>
      let ended := (visits s turns).foldl Pass.visit (Pass.start s)
      (.ok ended.out, ended)

/-- What a host is reached with. -/
structure Credentials where
  address : String
  tokenID : String
  tokenSecret : String
  insecure : Bool
  deriving DecidableEq, Repr

def credentials (host : InventoryHost) : Credentials :=
  ⟨host.address, host.tokenID, host.tokenSecret, host.insecure⟩

/-- Each host that was stored is there once, and a cluster was deleted without hosts only. -/
structure Survives (s : Store) (p : Pass) : Prop where
  hosts : (p.store.hosts.map credentials).Perm (s.hosts.map credentials)
  clusters : ∀ hosts ∈ p.held, hosts = []

def standalone : Except String ClusterMembership → Bool
  | .ok membership => !membership.isCluster
  | .error _ => false

/-- The host that a turn is to demote. -/
def demoted (s : Store) (v : Visit) : Option InventoryHost :=
  match s.listHostsByCluster v.cluster.id with
  | [host] =>
      if v.pveClusterName = "" ∧ v.turn.faults.listHostsByCluster = none ∧
          host.tokenSecret ≠ "" ∧ standalone (v.turn.probe host) ∧ v.cluster.datacenterID.isSome
      then some host else none
  | _ => none

/-- A host whose row is deleted can be added again: the call does not fail, and no other row
has the key that was drawn. -/
def Restores (p : Pass) (v : Visit) : Prop :=
  ∀ host ∈ demoted p.store v, v.turn.faults.deleteHost = none →
    v.turn.faults.addDatacenterHost = none ∧
      ∀ other ∈ p.store.hosts, other.id = v.turn.uuid.text → other.id = host.id

instance (p : Pass) (v : Visit) : Decidable (Restores p v) :=
  inferInstanceAs (Decidable (∀ host ∈ demoted p.store v, _ → _ ∧ ∀ other ∈ p.store.hosts, _))

section Operations

variable {p : Pass} {v : Visit}

theorem store_correlate {name : String} (noFault : v.turn.faults.setPVEClusterName = none) :
    (p.correlate v name).store =
      (exec (commit fun s : Store => s.setPVEClusterName v.cluster.id name) p.store).2 := by
  rw [Pass.correlate, noFault, call]
  cases done : p.store.setPVEClusterName v.cluster.id name with
  | error text => rw [exec_commit_error done]; rfl
  | ok s => rw [exec_commit_ok done]

theorem store_finish {host : InventoryHost} (status : v.turn.faults.setHostStatus = none)
    (delete : v.turn.faults.deleteCluster = none) :
    (p.finish v host).store = (exec (do
      ignore (F := String) (commit fun s : Store =>
        s.setHostStatus v.turn.uuid.text host.status host.error host.nodeName)
      commit fun s => s.deleteCluster v.cluster.id) p.store).2 := by
  rw [Pass.finish, status, delete, exec_bind]
  have restored : (exec (commit fun s : Store =>
      s.setHostStatus v.turn.uuid.text host.status host.error host.nodeName) p.store).2 =
      (p.store.setHostStatus v.turn.uuid.text host.status host.error host.nodeName).toOption.getD
        p.store := by
    cases done : p.store.setHostStatus v.turn.uuid.text host.status host.error host.nodeName with
    | error text => rw [exec_commit_error done]; rfl
    | ok s => rw [exec_commit_ok done]; rfl
  change _ = (exec (commit fun s : Store => s.deleteCluster v.cluster.id) (exec _ p.store).2).2
  rw [restored]
  simp only [call]
  cases done : ((p.store.setHostStatus v.turn.uuid.text host.status host.error
      host.nodeName).toOption.getD p.store).deleteCluster v.cluster.id with
  | error text => rw [exec_commit_error done]; rfl
  | ok s => rw [exec_commit_ok done]

theorem store_demote {host : InventoryHost} {datacenterID : String}
    (faultless : v.turn.faults = ⟨none, none, none, none, none, none⟩) :
    (p.demote v host datacenterID).store = (exec (do
      commit fun s : Store => s.deleteHost host.id
      commit fun s => s.addDatacenterHost v.turn.uuid datacenterID (Pass.readded host)
      ignore (F := String) (commit fun s : Store =>
        s.setHostStatus v.turn.uuid.text host.status host.error host.nodeName)
      commit fun s => s.deleteCluster v.cluster.id) p.store).2 := by
  simp only [Pass.demote, faultless, call]
  cases deleted : p.store.deleteHost host.id with
  | error text => rw [exec_commit_bind_error deleted]; rfl
  | ok s =>
      rw [exec_commit_bind_ok deleted]
      cases added : s.addDatacenterHost v.turn.uuid datacenterID (Pass.readded host) with
      | error text =>
          rw [exec_commit_bind_error added]
          simp only [added]
          rfl
      | ok t =>
          rw [exec_commit_bind_ok added]
          simp only [added]
          have status : v.turn.faults.setHostStatus = none := by rw [faultless]
          have delete : v.turn.faults.deleteCluster = none := by rw [faultless]
          exact @store_finish { p with store := t } v host status delete

/-- A turn in which no call fails is the turn of the reconciler. -/
theorem store_visit_of_no_fault {probe : Except String ClusterMembership}
    (faultless : v.turn.faults = ⟨none, none, none, none, none, none⟩)
    (answers : ∀ host, v.turn.probe host = probe) :
    (p.visit v).store =
      operate p.store (.reconcileLegacy v.turn.uuid v.cluster v.pveClusterName probe) := by
  rw [operate, perform, Reconciler.reconcileLegacy, Pass.visit]
  by_cases correlated : v.pveClusterName ≠ ""
  · rw [if_pos correlated, if_pos correlated]
    rfl
  rw [if_neg correlated, if_neg correlated, faultless, exec_read_bind]
  simp only [Pass.probe, answers]
  cases hosts : p.store.listHostsByCluster v.cluster.id with
  | nil => rfl
  | cons host rest =>
    rw [if_neg (List.cons_ne_nil _ _)]
    cases found : (host :: rest).find? (·.tokenSecret ≠ "") with
    | none => 
      have : ¬ (host :: rest).any (·.tokenSecret ≠ "") := by simpa using found
      rw [if_pos (by simpa using this)]
      rfl
    | some probeHost => 
      have : (host :: rest).any (·.tokenSecret ≠ "") := by
        rw [← List.isSome_find?, found]; rfl
      rw [if_neg (not_not.mpr this)]
      cases probe with
      | error text => rfl
      | ok membership => 
        change _ = (exec (if membership.isCluster then _ else _) p.store).2
        simp only [Pass.answer]
        split_ifs with member
        · exact store_correlate (by rw [faultless])
        · rcases rest with _ | ⟨other, rest⟩
          · cases v.cluster.datacenterID with
            | none => rfl
            | some datacenterID => exact store_demote faultless
          · cases v.cluster.datacenterID <;> rfl

end Operations

section Statements

variable {s t : Store}

theorem call_ok {fault : Option String} {statement : Store → Except String Store}
    (called : call fault statement s = .ok t) : fault = none ∧ statement s = .ok t := by
  cases fault with
  | some text => cases called
  | none => exact ⟨rfl, called⟩

theorem perm_delete {row : InventoryHost} (filed : Filed s) (there : row ∈ s.hosts) :
    (row :: s.hosts.filter (·.id ≠ row.id)).Perm s.hosts := by
  have rows : s.hosts.Nodup := filed.hosts.of_map _
  have gone : row ∉ s.hosts.filter (·.id ≠ row.id) := by simp
  refine (List.perm_ext_iff_of_nodup (List.nodup_cons.mpr ⟨gone, rows.filter _⟩) rows).mpr ?_
  intro host
  constructor
  · intro member
    rcases List.mem_cons.mp member with rfl | other
    · exact there
    · exact List.mem_of_mem_filter other
  · intro member
    by_cases same : host.id = row.id
    · rw [List.inj_on_of_nodup_map filed.hosts member there same]
      exact List.mem_cons_self
    · exact List.mem_cons_of_mem row (List.mem_filter.mpr ⟨member, decide_eq_true same⟩)

theorem deleteHost_of_mem {row : InventoryHost} (there : row ∈ s.hosts) :
    s.deleteHost row.id = .ok { s with hosts := s.hosts.filter (·.id ≠ row.id) } := by
  have found : (s.row row.id).isSome := List.find?_isSome.mpr ⟨row, there, decide_eq_true rfl⟩
  rw [Store.deleteHost, if_pos found]

theorem addDatacenterHost_eq_ok_iff {id : UUID} {datacenterID : String} {req : AddHostRequest}
    (filed : Filed s) (there : datacenterID ∈ s.datacenters) :
    s.addDatacenterHost id datacenterID req = .ok t ↔
      (∀ other ∈ s.hosts, other.id ≠ id.text) ∧
        t = { s with hosts := s.hosts ++ [Store.stagedHost id "" datacenterID req] } := by
  have given : datacenterID ≠ "" := fun empty => filed.created (empty ▸ there)
  rw [← row_isNone_iff, Store.addDatacenterHost, Store.insertHost]
  cases free : (s.row id.text).isSome with
  | true =>
      rw [if_pos (by exact free)]
      simp
  | false =>
      rw [if_neg (by simpa [Store.stagedHost] using free),
        if_neg (by simp [Store.stagedHost, given, there])]
      simp [eq_comm]

theorem setHostStatus_ok {id error nodeName : String} {status : HostStatus}
    (done : s.setHostStatus id status error nodeName = .ok t) :
    t = { s with hosts := s.hosts.map fun host =>
      if host.id = id then { host with status := status, error := error, nodeName := nodeName }
      else host } := by
  simp only [Store.setHostStatus, Store.setHost, DB.updateRow] at done
  split_ifs at done
  exact (Except.ok.inj done).symm

theorem credentials_setHostStatus {id error nodeName : String} {status : HostStatus}
    (done : s.setHostStatus id status error nodeName = .ok t) :
    t.hosts.map credentials = s.hosts.map credentials ∧
      t.hosts.map (·.clusterID) = s.hosts.map (·.clusterID) := by
  obtain rfl := setHostStatus_ok done
  simp only [List.map_map]
  constructor
  · refine List.map_congr_left fun host _ => ?_
    simp only [Function.comp_apply]
    split <;> rfl
  · refine List.map_congr_left fun host _ => ?_
    simp only [Function.comp_apply]
    split <;> rfl

theorem deleteCluster_without_hosts {id : String}
    (empty : ∀ host ∈ s.hosts, host.clusterID ≠ id) (done : s.deleteCluster id = .ok t) :
    t.hosts = s.hosts ∧ t.datacenters = s.datacenters := by
  simp only [Store.deleteCluster] at done
  split_ifs at done
  obtain rfl := Except.ok.inj done
  refine ⟨List.filter_eq_self.mpr ?_, rfl⟩
  exact fun host there => decide_eq_true (empty host there)

theorem listHostsByCluster_eq_nil_iff {id : String} :
    s.listHostsByCluster id = [] ↔ ∀ host ∈ s.hosts, host.clusterID ≠ id := by
  simp [DB.listHostsByCluster]

/-- The only host that a cluster lists is one row, and no other row is in the cluster. -/
theorem only_listed {id : String} {host : InventoryHost}
    (listed : s.listHostsByCluster id = [host]) :
    ∃ row ∈ s.hosts, row.id = host.id ∧ credentials row = credentials host ∧
      ∀ other ∈ s.hosts, other.clusterID = id → other = row := by
  obtain ⟨row, alone, rfl⟩ := List.map_eq_singleton_iff.mp listed
  have members : ∀ other, other ∈ s.hosts.filter (·.clusterID = id) ↔ other = row := by
    intro other
    rw [alone, List.mem_singleton]
  refine ⟨row, List.mem_of_mem_filter ((members row).mpr rfl), rfl, rfl, ?_⟩
  intro other there inside
  exact (members other).mp (List.mem_filter.mpr ⟨there, decide_eq_true inside⟩)

end Statements

section Turns

/-- What every turn keeps. -/
structure Turned (p q : Pass) : Prop where
  filed : Filed q.store
  datacenters : q.store.datacenters = p.store.datacenters
  held : q.held = p.held ∨ q.held = p.held ++ [[]]

/-- The turn loses no host exactly when the condition is met. -/
structure Decided (condition : Prop) (p q : Pass) : Prop extends Turned p q where
  kept : condition → (q.store.hosts.map credentials).Perm (p.store.hosts.map credentials)
  lost : ¬condition → q.store.hosts.length < p.store.hosts.length

variable {p : Pass} {v : Visit} {host : InventoryHost}

theorem decided_of_store {q : Pass} (filed : Filed p.store) (store : q.store = p.store)
    (held : q.held = p.held) : Decided True p q := by
  refine ⟨⟨store ▸ filed, congrArg (·.datacenters) store, Or.inl held⟩, fun _ => ?_, fun no => ?_⟩
  · rw [store]
  · exact absurd trivial no

theorem finish_decided (filed : Filed p.store)
    (empty : ∀ other ∈ p.store.hosts, other.clusterID ≠ v.cluster.id) :
    Decided True p (p.finish v host) := by
  let restored := (call v.turn.faults.setHostStatus
    (·.setHostStatus v.turn.uuid.text host.status host.error host.nodeName) p.store).toOption
  have status : Filed (restored.getD p.store) ∧
      (restored.getD p.store).datacenters = p.store.datacenters ∧
      (restored.getD p.store).hosts.map credentials = p.store.hosts.map credentials ∧
      ∀ other ∈ (restored.getD p.store).hosts, other.clusterID ≠ v.cluster.id := by
    simp only [restored]
    cases called : call v.turn.faults.setHostStatus
        (·.setHostStatus v.turn.uuid.text host.status host.error host.nodeName) p.store with
    | error text => exact ⟨filed, rfl, rfl, empty⟩
    | ok s =>
        obtain ⟨-, done⟩ := call_ok called
        obtain ⟨same, clusters⟩ := credentials_setHostStatus done
        refine ⟨filed_statement (.setHostStatus _ _ _ _ done) filed, ?_, same, ?_⟩
        · exact congrArg (·.datacenters) (setHostStatus_ok done)
        · intro other there inside
          have listed : other.clusterID ∈ p.store.hosts.map (·.clusterID) :=
            clusters ▸ List.mem_map_of_mem there
          obtain ⟨before, member, key⟩ := List.mem_map.mp listed
          exact empty before member (key.trans inside)
  obtain ⟨filed', datacenters, same, empty'⟩ := status
  simp only [Pass.finish]
  split
  · refine ⟨⟨filed', datacenters, Or.inl rfl⟩, fun _ => ?_, fun no => absurd trivial no⟩
    rw [← same]
    rfl
  · rename_i s deleted
    obtain ⟨-, done⟩ := call_ok deleted
    obtain ⟨hosts, datacenters'⟩ := deleteCluster_without_hosts empty' done
    refine ⟨⟨filed_statement (.deleteCluster _ done) filed', datacenters'.trans datacenters, ?_⟩,
      fun _ => ?_, fun no => absurd trivial no⟩
    · right
      rw [listHostsByCluster_eq_nil_iff.mpr empty']
    · rw [← same]
      exact .of_eq (congrArg _ hosts)

theorem demote_decided {datacenterID : String} (filed : Filed p.store)
    (listed : p.store.listHostsByCluster v.cluster.id = [host]) (inserted : v.cluster.id ≠ "")
    (there : datacenterID ∈ p.store.datacenters) :
    Decided (v.turn.faults.deleteHost = none →
        v.turn.faults.addDatacenterHost = none ∧
          ∀ other ∈ p.store.hosts, other.id = v.turn.uuid.text → other.id = host.id)
      p (p.demote v host datacenterID) := by
  obtain ⟨row, member, key, same, alone⟩ := only_listed listed
  have deletes := deleteHost_of_mem member
  rw [key] at deletes
  have perm := perm_delete filed member
  rw [key] at perm
  simp only [Pass.demote]
  split
  · rename_i text failed
    have fault : v.turn.faults.deleteHost ≠ none := by
      intro none_
      rw [none_, call, deletes] at failed
      cases failed
    refine ⟨⟨filed, rfl, Or.inl rfl⟩, fun _ => .refl _, fun no => ?_⟩
    exact absurd (fun none_ => absurd none_ fault) no
  · rename_i s deleted
    obtain ⟨noFault, done⟩ := call_ok deleted
    obtain rfl : { p.store with hosts := p.store.hosts.filter (·.id ≠ host.id) } = s :=
      Except.ok.inj (deletes.symm.trans done)
    have filed' := filed_statement (.deleteHost _ done) filed
    have shorter : (p.store.hosts.filter (·.id ≠ host.id)).length < p.store.hosts.length := by
      have lengths := perm.length_eq
      simp only [List.length_cons] at lengths
      omega
    have free : (∀ other ∈ p.store.hosts.filter (·.id ≠ host.id), other.id ≠ v.turn.uuid.text) ↔
        ∀ other ∈ p.store.hosts, other.id = v.turn.uuid.text → other.id = host.id := by
      constructor
      · intro fresh other stored drawn
        by_contra different
        exact fresh other (List.mem_filter.mpr ⟨stored, decide_eq_true different⟩) drawn
      · intro taken other kept drawn
        obtain ⟨stored, different⟩ := List.mem_filter.mp kept
        exact of_decide_eq_true different (taken other stored drawn)
    split
    · rename_i text failed
      refine ⟨⟨filed', rfl, Or.inl rfl⟩, fun condition => ?_, fun _ => shorter⟩
      obtain ⟨none_, fresh⟩ := condition noFault
      rw [none_, call,
        (addDatacenterHost_eq_ok_iff filed' there).mpr ⟨free.mpr fresh, rfl⟩] at failed
      cases failed
    · rename_i t added
      obtain ⟨none_, done'⟩ := call_ok added
      obtain ⟨fresh, rfl⟩ := (addDatacenterHost_eq_ok_iff filed' there).mp done'
      have filed'' := filed_statement (.addDatacenterHost _ _ _ done') filed'
      have empty : ∀ other ∈ p.store.hosts.filter (·.id ≠ host.id) ++
          [Store.stagedHost v.turn.uuid "" datacenterID (Pass.readded host)],
          other.clusterID ≠ v.cluster.id := by
        intro other stored inside
        rcases List.mem_append.mp stored with earlier | last
        · obtain ⟨before, different⟩ := List.mem_filter.mp earlier
          exact of_decide_eq_true different (alone other before inside ▸ key)
        · rw [List.mem_singleton.mp last] at inside
          exact inserted inside.symm
      have ended := @finish_decided { p with store := _ } v host filed'' empty
      refine ⟨⟨ended.filed, ended.datacenters, ended.held⟩, fun _ => ?_, fun no => ?_⟩
      · refine (ended.kept trivial).trans (List.Perm.trans ?_ (perm.map credentials))
        rw [List.map_cons, same, List.map_append]
        exact List.perm_append_singleton _ _
      · exact absurd (fun _ => ⟨none_, free.mp fresh⟩) no

theorem demoted_eq_some_iff {s : Store} :
    demoted s v = some host ↔
      s.listHostsByCluster v.cluster.id = [host] ∧ v.pveClusterName = "" ∧
        v.turn.faults.listHostsByCluster = none ∧ host.tokenSecret ≠ "" ∧
        standalone (v.turn.probe host) ∧ v.cluster.datacenterID.isSome := by
  rw [demoted]
  split
  · rename_i only listed
    rw [Option.ite_none_right_eq_some, listed]
    constructor
    · rintro ⟨conditions, same⟩
      obtain rfl := Option.some.inj same
      exact ⟨rfl, conditions⟩
    · rintro ⟨same, conditions⟩
      obtain rfl : only = host := List.head_eq_of_cons_eq same
      exact ⟨conditions, rfl⟩
  · rename_i several
    refine iff_of_false ?_ fun conditions => several host conditions.1
    intro none_
    cases none_

theorem standalone_iff {answer : Except String ClusterMembership} :
    standalone answer = true ↔
      ∃ membership, answer = .ok membership ∧ membership.isCluster = false := by
  cases answer <;> simp [standalone]

theorem visit_of_demoted (found : demoted p.store v = some host) :
    ∃ datacenterID, v.cluster.datacenterID = some datacenterID ∧
      p.visit v = p.demote v host datacenterID := by
  obtain ⟨listed, uncorrelated, lists, secret, answered, datacenter⟩ := demoted_eq_some_iff.mp found
  obtain ⟨membership, answer, single⟩ := standalone_iff.mp answered
  obtain ⟨datacenterID, known⟩ := Option.isSome_iff_exists.mp datacenter
  refine ⟨datacenterID, known, ?_⟩
  have first : [host].find? (·.tokenSecret ≠ "") = some host :=
    List.find?_cons_of_pos (decide_eq_true secret)
  rw [Pass.visit, if_neg (not_not.mpr uncorrelated), lists]
  simp only [Pass.probe, Pass.answer, listed, if_neg (List.cons_ne_nil host []), first, answer,
    single, known]
  rfl

theorem correlate_decided {name : String} (filed : Filed p.store) :
    Decided True p (p.correlate v name) := by
  rw [Pass.correlate]
  split
  · exact decided_of_store filed rfl rfl
  · rename_i s called
    obtain ⟨-, done⟩ := call_ok called
    have rows : s.toDB = p.store.toDB := by
      simp only [Store.setPVEClusterName] at done
      split_ifs at done
      rw [← Except.ok.inj done]
    have datacenters := congrArg (·.datacenters) rows
    refine ⟨⟨filed.congr rows, datacenters, Or.inl rfl⟩, fun _ => ?_, fun no => ?_⟩
    · exact .of_eq (congrArg (fun db => db.hosts.map credentials) rows)
    · exact absurd trivial no

theorem visit_of_others (filed : Filed p.store) (others : demoted p.store v = none) :
    Decided True p (p.visit v) := by
  have unchanged : ∀ q : Pass, q.store = p.store → q.held = p.held → Decided True p q :=
    fun _ => decided_of_store filed
  rw [Pass.visit]
  split_ifs with correlated
  · exact unchanged _ rfl rfl
  cases lists : v.turn.faults.listHostsByCluster with
  | some text => exact unchanged _ rfl rfl
  | none =>
      simp only [Pass.probe]
      split_ifs with empty
      · exact unchanged _ rfl rfl
      split
      · exact unchanged _ rfl rfl
      · rename_i probeHost found
        cases answer : v.turn.probe probeHost with
        | error text => exact unchanged _ rfl rfl
        | ok membership =>
            simp only [Pass.answer]
            split_ifs with member
            · exact correlate_decided filed
            · split
              · rename_i host datacenterID listed known
                have host_found : host = probeHost ∧ host.tokenSecret ≠ "" := by
                  rw [listed] at found
                  have secret := List.find?_some found
                  obtain rfl := List.mem_singleton.mp (List.mem_of_find?_eq_some found)
                  exact ⟨rfl, of_decide_eq_true secret⟩
                obtain ⟨rfl, secret⟩ := host_found
                have found' : demoted p.store v = some host := by
                  refine demoted_eq_some_iff.mpr
                    ⟨listed, not_not.mp correlated, lists, secret, ?_, ?_⟩
                  · exact standalone_iff.mpr ⟨membership, answer, Bool.eq_false_iff.mpr member⟩
                  · rw [known]
                    rfl
                cases others.symm.trans found'
              · exact unchanged _ rfl rfl
              · exact unchanged _ rfl rfl

theorem visit_decided (filed : Filed p.store) (inserted : v.cluster.id ≠ "")
    (referred : ∀ datacenterID ∈ v.cluster.datacenterID, datacenterID ∈ p.store.datacenters) :
    Decided (Restores p v) p (p.visit v) := by
  cases found : demoted p.store v with
  | none =>
      have all : Restores p v := by
        intro host is
        cases found.symm.trans is
      have turned := visit_of_others filed found
      exact ⟨turned.toTurned, fun _ => turned.kept trivial, fun no => absurd all no⟩
  | some host =>
      obtain ⟨datacenterID, known, turns⟩ := visit_of_demoted found
      have turned := demote_decided filed (demoted_eq_some_iff.mp found).1 inserted
        (referred datacenterID known)
      rw [turns]
      have same : Restores p v ↔ (v.turn.faults.deleteHost = none →
          v.turn.faults.addDatacenterHost = none ∧
            ∀ other ∈ p.store.hosts, other.id = v.turn.uuid.text → other.id = host.id) := by
        rw [Restores, found]
        constructor
        · intro all
          exact all host rfl
        · rintro condition _ ⟨⟩
          exact condition
      exact ⟨turned.toTurned, fun all => turned.kept (same.mp all),
        fun no => turned.lost fun all => no (same.mpr all)⟩

theorem mem_visits {s : Store} {turns : Nat → Turn} (member : v ∈ visits s turns) :
    v.cluster ∈ s.clusters := by
  obtain ⟨entry, listed, rfl⟩ := List.mem_map.mp member
  obtain ⟨c, i⟩ := entry
  have there : c ∈ s.listClusters := by
    rw [← List.zipIdx_map_fst 0 s.listClusters]
    exact List.mem_map_of_mem listed
  exact perm_listClusters.mem_iff.mp there

end Turns

/-- What a pass over the tables keeps in any case. -/
structure Under (s : Store) (p : Pass) : Prop where
  filed : Filed p.store
  datacenters : p.store.datacenters = s.datacenters
  most : p.store.hosts.length ≤ s.hosts.length

variable {s : Store} {p : Pass} {v : Visit}

theorem decided_of_under (filed : Filed s) (under : Under s p) (member : v.cluster ∈ s.clusters) :
    Decided (Restores p v) p (p.visit v) := by
  refine visit_decided under.filed ?_ ?_
  · exact fun empty => filed.inserted (empty ▸ List.mem_map_of_mem member)
  · intro datacenterID known
    rw [under.datacenters]
    exact hasDatacenter_iff.mp (filed.references _ member) datacenterID known

theorem Decided.length_le {q : Pass} {condition : Prop} (decided : Decided condition p q) :
    q.store.hosts.length ≤ p.store.hosts.length := by
  by_cases holds : condition
  · have lengths := (decided.kept holds).length_eq
    simp only [List.length_map] at lengths
    omega
  · have shorter := decided.lost holds
    omega

theorem under_visit (filed : Filed s) (under : Under s p) (member : v.cluster ∈ s.clusters) :
    Under s (p.visit v) := by
  have decided := decided_of_under filed under member
  refine ⟨decided.filed, decided.datacenters.trans under.datacenters, ?_⟩
  have here := decided.length_le
  have before := under.most
  omega

theorem Turned.empty_iff {q : Pass} (turned : Turned p q) :
    (∀ hosts ∈ q.held, hosts = []) ↔ ∀ hosts ∈ p.held, hosts = [] := by
  rcases turned.held with same | more
  · rw [same]
  · rw [more]
    simp [or_imp]

/-- A turn that loses a host cannot be made up for. -/
theorem survives_visit_iff (filed : Filed s) (under : Under s p)
    (member : v.cluster ∈ s.clusters) :
    Survives s (p.visit v) ↔ Survives s p ∧ Restores p v := by
  have decided := decided_of_under filed under member
  constructor
  · intro survives
    have lengths := survives.hosts.length_eq
    simp only [List.length_map] at lengths
    have before := under.most
    have restores : Restores p v := by
      by_contra no
      have shorter := decided.lost no
      omega
    have kept := decided.kept restores
    exact ⟨⟨kept.symm.trans survives.hosts, decided.empty_iff.mp survives.clusters⟩, restores⟩
  · rintro ⟨survives, restores⟩
    exact ⟨(decided.kept restores).trans survives.hosts, decided.empty_iff.mpr survives.clusters⟩

/-- The pass loses no host exactly when every host whose row it deletes can be added again. -/
theorem hosts_survive_iff {listFault : Option String} {turns : Nat → Turn} (filed : Filed s) :
    Survives s (reconcileLegacy listFault turns s).2 ↔
      (listFault = none →
        Along Pass.visit Restores (Pass.start s) (visits s turns)) := by
  have begun : Survives s (Pass.start s) := ⟨.refl _, List.forall_mem_nil _⟩
  cases listFault with
  | some text => exact iff_of_true begun fun none_ => by cases none_
  | none =>
      have decided := @last_iff_along Pass Visit Pass.visit Restores (Under s) (Survives s)
        (Pass.start s) (visits s turns)
        (fun _ _ member under => under_visit filed under (mem_visits member))
        (fun _ _ member under survives =>
          ((survives_visit_iff filed under (mem_visits member)).mp survives).1)
        (fun _ _ member under survives =>
          (survives_visit_iff filed under (mem_visits member)).trans (and_iff_right survives))
        ⟨filed, rfl, le_rfl⟩ begun
      simpa [reconcileLegacy] using decided

/-- A cluster without a PVE name, with one host. -/
def withLegacyCluster : List Operation :=
  [.createDatacenter (drawn "d-1" given_d1) "main",
    .createCluster (drawn "c-1" given_c1) ⟨"lab", some "d-1", ""⟩,
    .addHost "c-1" (drawn "h-1" given_h1) (.error "") (withToken "10.0.0.1:8006")]

def legacy : Store := withLegacyCluster.foldl operate Store.empty

theorem filed_legacy : Filed legacy := filed_foldl filed_empty withLegacyCluster

/-- The node is alone, and the insertion of its host fails with the given words. -/
def alone (addDatacenterHost : Option String) (_ : Nat) : Turn where
  uuid := drawn "h-2" given_h2
  probe := fun _ => .ok ⟨false, ""⟩
  faults := ⟨none, none, none, addDatacenterHost, none, none⟩

theorem demoted_host_survives :
    Survives legacy (reconcileLegacy none (alone none) legacy).2 :=
  (hosts_survive_iff filed_legacy).mpr fun _ => by decide +kernel

/-- The host is deleted and not added again. -/
theorem demoted_host_deleted :
    legacy.hosts.map credentials = [⟨"10.0.0.1:8006", "root@pam!pcenter", "secret", true⟩] ∧
      (reconcileLegacy none (alone (some "disk full")) legacy).2.store.hosts = [] ∧
      (reconcileLegacy none (alone (some "disk full")) legacy).2.out.errors =
        ["lab: re-add as standalone: disk full"] ∧
      ¬Survives legacy (reconcileLegacy none (alone (some "disk full")) legacy).2 := by
  have stored : legacy.hosts.map credentials =
      [⟨"10.0.0.1:8006", "root@pam!pcenter", "secret", true⟩] := by decide +kernel
  have gone : (reconcileLegacy none (alone (some "disk full")) legacy).2.store.hosts = [] := by
    decide +kernel
  refine ⟨stored, gone, by decide +kernel, fun survives => ?_⟩
  have lengths := survives.hosts.length_eq
  rw [gone, stored] at lengths
  cases lengths

end LegacyReconcile
