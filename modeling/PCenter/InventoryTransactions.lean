import PCenter.InventoryStatus
import PCenter.Lib.Transaction

/-!
# The transactions of the inventory

`DB.FormClusterFromHosts` and `DB.AddHostsToCluster` statement by statement: each of them can
fail, as can the beginning and the commit of the transaction. The hosts of a request are moved
one after the other, whether they are listed once or more often, and wherever they are.
-/

namespace InventoryTransactions

open Inventory Procedure Transaction

structure FormClusterFromHostsParams where
  name : String
  agentName : String
  datacenterID : Option String
  hostIDs : List String
  tokenUpdates : TokenUpdates

structure AddHostsToClusterParams where
  clusterID : String
  hostIDs : List String
  tokenUpdates : TokenUpdates

/-- The statements that fail, with the words of their errors. The updates of the hosts are
numbered in the order of the list. -/
structure Faults where
  beginTx : Option String
  insertCluster : Option String
  moveHost : Nat → Option String
  commitTx : Option String

def noFaults : Faults := ⟨none, none, fun _ => none, none⟩

/-- One statement of a transaction. -/
def execContext (fault : Option String) (words : String)
    (statement : Store → Except String Store) : Action Unit := commit fun s =>
  match fault with
  | some text => .error (words ++ text)
  | none => statement s

/-- The update of one host, and the check of the rows that it affected. -/
def moveHost (clusterID : String) (update : Option Token) (hostID : String) (s : Store) :
    Except String Store :=
  if (s.row hostID).isSome ∧ (s.getCluster clusterID).isNone then
    .error ("move host " ++ hostID ++ ": FOREIGN KEY constraint failed")
  else
    match s.updateRow hostID (DB.moveColumns clusterID update) with
    | some moved => .ok { s with toDB := moved }
    | none => .error ("host " ++ hostID ++ " not found")

/-- The loop over the hosts, from the given number on. -/
def moveHosts (clusterID : String) (updates : TokenUpdates) (faults : Nat → Option String) :
    Nat → List String → Action Unit
  | _, [] => pure ()
  | i, hostID :: rest => do
      execContext (faults i) ("move host " ++ hostID ++ ": ")
        (moveHost clusterID (updates.lookup hostID) hostID)
      moveHosts clusterID updates faults (i + 1) rest

def newCluster (uuid : UUID) (p : FormClusterFromHostsParams) : Cluster :=
  { id := uuid.text, name := p.name
    agentName := if p.agentName = "" then p.name else p.agentName
    datacenterID := p.datacenterID, status := .active, enabled := true }

def begun (faults : Faults) : Option String := faults.beginTx.map ("begin tx: " ++ ·)

def committed (faults : Faults) : Option String := faults.commitTx.map ("commit: " ++ ·)

/-- `DB.FormClusterFromHosts` -/
def formClusterFromHosts (faults : Faults) (uuid : UUID) (p : FormClusterFromHostsParams) :
    Proc String (Conn Store) Cluster :=
  if p.name = "" then throw "name is required"
  else if p.hostIDs = [] then throw "at least one host is required"
  else
    transact (begun faults) (committed faults) do
      execContext faults.insertCluster "insert cluster: "
        fun s => s.insertCluster (newCluster uuid p) ""
      moveHosts uuid.text p.tokenUpdates faults.moveHost 0 p.hostIDs
      pure (newCluster uuid p)

/-- `DB.AddHostsToCluster` -/
def addHostsToCluster (faults : Faults) (p : AddHostsToClusterParams) :
    Proc String (Conn Store) Unit :=
  if p.clusterID = "" then throw "cluster_id is required"
  else if p.hostIDs = [] then throw "at least one host is required"
  else
    transact (begun faults) (committed faults)
      (moveHosts p.clusterID p.tokenUpdates faults.moveHost 0 p.hostIDs)

/-- What becomes of a host: a listed one is in the cluster and in no datacenter, and has the
token of its update, or the one that it had. -/
def entered (clusterID : String) (hostIDs : List String) (updates : TokenUpdates)
    (host : InventoryHost) : InventoryHost :=
  if host.id ∈ hostIDs then
    let token := (updates.lookup host.id).getD host.token
    { host with
      clusterID := clusterID, datacenterID := "", tokenID := token.tokenID
      tokenSecret := token.tokenSecret }
  else host

/-- The tables after hosts have entered a cluster. -/
structure Entered (clusterID : String) (hostIDs : List String) (updates : TokenUpdates)
    (s t : Store) : Prop where
  known : ∀ id ∈ hostIDs, ∃ host ∈ s.hosts, host.id = id
  cluster : ∃ c ∈ t.clusters, c.id = clusterID
  hosts : t.hosts = s.hosts.map (entered clusterID hostIDs updates)
  datacenters : t.datacenters = s.datacenters ∧ t.datacenterName = s.datacenterName

/-- The tables after a formation, which has added the one row of its cluster. -/
structure Formed (uuid : UUID) (p : FormClusterFromHostsParams) (s t : Store) : Prop extends
    Entered uuid.text p.hostIDs p.tokenUpdates s t where
  fresh : ∀ c ∈ s.clusters, c.id ≠ uuid.text
  clusters : t.clusters = s.clusters ++ [newCluster uuid p]
  pveNames : t.pveClusterName = Function.update s.pveClusterName uuid.text ""

/-- The tables after an addition, which leaves every cluster as it was. -/
structure Added (p : AddHostsToClusterParams) (s t : Store) : Prop extends
    Entered p.clusterID p.hostIDs p.tokenUpdates s t where
  clusters : t.clusters = s.clusters
  pveNames : t.pveClusterName = s.pveClusterName

/-- A procedure on a connection fails and leaves it as it was, or has the effect. -/
def AllOrNothing {A : Type} (x : Proc String (Conn Store) A) (effect : A → Store → Store → Prop)
    (s : Store) : Prop :=
  (∃ failure, exec x (idle s) = (.error failure, idle s)) ∨
    ∃ a t, exec x (idle s) = (.ok a, idle t) ∧ effect a s t

section Moves

variable {s t : Store} {clusterID hostID : String} {updates : TokenUpdates}

theorem yields_execContext {fault : Option String} {words : String}
    {statement : Store → Except String Store} :
    Yields (execContext fault words statement) s () t ↔ fault = none ∧ statement s = .ok t := by
  rw [execContext, yields_commit]
  cases fault <;> simp

theorem moveHost_eq_ok_iff {update : Option Token} :
    moveHost clusterID update hostID s = .ok t ↔
      (s.row hostID).isSome ∧ (s.getCluster clusterID).isSome ∧
        t = { s with hosts := s.hosts.map fun host =>
          if host.id = hostID then DB.moveColumns clusterID update host else host } := by
  simp only [moveHost, DB.updateRow]
  cases s.row hostID <;> cases s.getCluster clusterID <;> simp [eq_comm]

theorem entered_cons {rest : List String} (host : InventoryHost) :
    entered clusterID rest updates
        (if host.id = hostID then DB.moveColumns clusterID (updates.lookup hostID) host else host) =
      entered clusterID (hostID :: rest) updates host := by
  by_cases first : host.id = hostID
  · subst first
    rw [if_pos rfl]
    have key := moveColumns_id clusterID (updates.lookup host.id) host
    simp only [entered, key, List.mem_cons, true_or, if_true]
    cases updates.lookup host.id <;> split <;> rfl
  · rw [if_neg first]
    simp [entered, first]

theorem entered_moveHosts {faults : Nat → Option String} {i : Nat} {ids : List String}
    (done : Yields (moveHosts clusterID updates faults i ids) s () t) :
    (∀ id ∈ ids, ∃ host ∈ s.hosts, host.id = id) ∧
      (ids ≠ [] → (s.getCluster clusterID).isSome) ∧
      t = { s with hosts := s.hosts.map (entered clusterID ids updates) } := by
  induction ids generalizing s i with
  | nil =>
      obtain ⟨-, rfl⟩ := yields_pure.mp done
      refine ⟨List.forall_mem_nil _, fun none => absurd rfl none, ?_⟩
      have same : entered clusterID [] updates = id :=
        funext fun host => if_neg (List.not_mem_nil)
      rw [same, List.map_id]
  | cons id rest ih =>
      obtain ⟨_, next, first, later⟩ := yields_bind.mp done
      obtain ⟨there, known, rfl⟩ := moveHost_eq_ok_iff.mp (yields_execContext.mp first).2
      obtain ⟨others, -, rfl⟩ := ih later
      refine ⟨List.forall_mem_cons.mpr ⟨?_, ?_⟩, fun _ => known, ?_⟩
      · obtain ⟨host, found⟩ := Option.isSome_iff_exists.mp there
        exact ⟨host, List.mem_of_find?_eq_some found, DB.row_id found⟩
      · intro other member
        obtain ⟨host', there', rfl⟩ := others other member
        obtain ⟨host, stored, rfl⟩ := List.mem_map.mp there'
        refine ⟨host, stored, ?_⟩
        split
        · exact (moveColumns_id _ _ _).symm
        · rfl
      · simp only [List.map_map, Function.comp_def, entered_cons]

/-- The loop of the inventory's own transactions is this one when no statement fails. -/
theorem yields_moveHosts {ids : List String} {i : Nat} {db : DB}
    (known : (s.getCluster clusterID).isSome)
    (done : DB.moveHosts clusterID updates ids s.toDB = .ok db) :
    Yields (moveHosts clusterID updates (fun _ => none) i ids) s () { s with toDB := db } := by
  induction ids generalizing s i with
  | nil =>
      obtain rfl := Except.ok.inj done
      exact yields_pure.mpr ⟨rfl, rfl⟩
  | cons id rest ih =>
      simp only [DB.moveHosts] at done
      split at done
      · rename_i next moved
        have first : moveHost clusterID (updates.lookup id) id s = .ok { s with toDB := next } := by
          rw [moveHost, if_neg, moved]
          rintro ⟨-, missing⟩
          rw [Option.isNone_iff_eq_none.mp missing] at known
          cases known
        have clusters : next.clusters = s.clusters := by
          simp only [DB.updateRow] at moved
          split_ifs at moved
          rw [← Option.some.inj moved]
        have later : (({ s with toDB := next } : Store).getCluster clusterID).isSome := by
          rw [DB.getCluster, clusters]
          exact known
        refine yields_bind.mpr ⟨(), { s with toDB := next }, ?_, ?_⟩
        · exact yields_execContext.mpr ⟨rfl, first⟩
        · exact @ih { s with toDB := next } _ later done
      · cases done

end Moves

section Service

variable {s t : Store}

/-- What `Service.FormClusterFromHosts` hands on. -/
def formParams (req : FormClusterFromHostsRequest) : FormClusterFromHostsParams :=
  { name := GoText.trimSpace req.name, agentName := req.agentName
    datacenterID := if req.datacenterID = "" then none else some req.datacenterID
    hostIDs := req.hostIDs, tokenUpdates := req.tokenUpdates }

def addParams (req : AddHostsToClusterRequest) : AddHostsToClusterParams :=
  ⟨req.clusterID, req.hostIDs, req.tokenUpdates⟩

/-- A formation of the inventory is the transaction in which nothing fails. -/
theorem exec_formClusterFromHosts {uuid : UUID} {req : FormClusterFromHostsRequest}
    (done : s.formClusterFromHosts uuid req = .ok t) :
    exec (formClusterFromHosts noFaults uuid (formParams req)) (idle s) =
      (.ok (newCluster uuid (formParams req)), idle t) := by
  simp only [Store.formClusterFromHosts] at done
  obtain ⟨⟨cluster, db⟩, formed, later⟩ := bind_eq_ok_iff.mp done
  split_ifs at later with taken
  obtain rfl := Except.ok.inj later
  obtain ⟨-, naming, ⟨reference, -, given⟩, moved⟩ := formed_of_ok formed
  have row : cluster = newCluster uuid (formParams req) := by
    simp only [Service.formClusterFromHosts, DB.formClusterFromHosts] at formed
    split_ifs at formed
    all_goals
      obtain ⟨_, -, pair⟩ := map_eq_ok_iff.mp formed
      obtain ⟨rfl, -⟩ := Prod.mk.inj pair
      simp_all [newCluster, formParams]
  have named : (formParams req).name ≠ "" := by
    intro empty
    simp only [Service.formClusterFromHosts] at formed
    rw [if_pos (by exact empty)] at formed
    cases formed
  let next : Store := { s with
    clusters := s.clusters ++ [newCluster uuid (formParams req)]
    pveClusterName := Function.update s.pveClusterName uuid.text "" }
  have inserted : s.insertCluster (newCluster uuid (formParams req)) "" = .ok next := by
    refine insertCluster_eq_ok_iff.mpr ⟨Bool.eq_false_iff.mpr taken, ?_, rfl⟩
    rw [row, Store.formed] at naming
    split at naming
    · cases naming
    · exact naming
  have known : (next.getCluster uuid.text).isSome :=
    List.find?_isSome.mpr ⟨newCluster uuid (formParams req),
      List.mem_append_right _ (List.mem_singleton_self _), decide_eq_true rfl⟩
  rw [row] at moved
  rw [formClusterFromHosts, if_neg named, if_neg (by exact given)]
  refine exec_transact_of_body_ok (yields_bind.mpr ⟨(), next, ?_, yields_bind.mpr ?_⟩)
  · exact yields_execContext.mpr ⟨rfl, inserted⟩
  · exact ⟨(), _, @yields_moveHosts next _ _ _ _ _ known moved, yields_pure.mpr ⟨rfl, rfl⟩⟩

theorem exec_addHostsToCluster {req : AddHostsToClusterRequest}
    (done : s.addHostsToCluster req = .ok t) :
    exec (addHostsToCluster noFaults (addParams req)) (idle s) = (.ok (), idle t) := by
  have named : req.clusterID ≠ "" := by
    intro empty
    simp only [Store.addHostsToCluster, Service.addHostsToCluster, DB.addHostsToCluster,
      if_pos empty] at done
    split at done <;> cases done
  obtain ⟨given, known, db, moved, rfl⟩ := moved_of_addHostsToCluster done
  rw [addHostsToCluster, if_neg (by exact named), if_neg (by exact given)]
  exact exec_transact_of_body_ok (yields_moveHosts known moved)

end Service

/-- Forming a cluster and adding hosts to one are all or nothing, whatever the tables, the
request and the failing statements are. -/
theorem transactions_all_or_nothing (faults : Faults) (s : Store) :
    (∀ uuid p, AllOrNothing (formClusterFromHosts faults uuid p)
      (fun cluster s t => cluster = newCluster uuid p ∧ Formed uuid p s t) s) ∧
    ∀ p, AllOrNothing (addHostsToCluster faults p) (fun _ s t => Added p s t) s := by
  constructor
  · intro uuid p
    rw [formClusterFromHosts]
    split_ifs with unnamed given
    · exact Or.inl ⟨_, rfl⟩
    · exact Or.inl ⟨_, rfl⟩
    refine (atomic _ _ _ s).imp id ?_
    rintro ⟨cluster, t, done, ended⟩
    refine ⟨cluster, t, ended, ?_⟩
    obtain ⟨_, inserted, first, later⟩ := yields_bind.mp done
    obtain ⟨_, moved, second, last⟩ := yields_bind.mp later
    obtain ⟨rfl, rfl⟩ := yields_pure.mp last
    obtain ⟨free, -, rfl⟩ := insertCluster_eq_ok_iff.mp (yields_execContext.mp first).2
    obtain ⟨known, -, rfl⟩ := entered_moveHosts second
    refine ⟨rfl, ⟨⟨known, ?_, rfl, rfl, rfl⟩, getCluster_isNone_iff.mp free, rfl, rfl⟩⟩
    exact ⟨newCluster uuid p, List.mem_append_right _ (List.mem_singleton_self _), rfl⟩
  · intro p
    rw [addHostsToCluster]
    split_ifs with unnamed given
    · exact Or.inl ⟨_, rfl⟩
    · exact Or.inl ⟨_, rfl⟩
    refine (atomic _ _ _ s).imp id ?_
    rintro ⟨_, t, done, ended⟩
    refine ⟨(), t, ended, ?_⟩
    obtain ⟨known, cluster, rfl⟩ := entered_moveHosts done
    refine ⟨⟨known, ?_, rfl, rfl, rfl⟩, rfl, rfl⟩
    obtain ⟨c, found⟩ := Option.isSome_iff_exists.mp (cluster given)
    exact ⟨c, List.mem_of_find?_eq_some found, by simpa using List.find?_some found⟩

end InventoryTransactions
