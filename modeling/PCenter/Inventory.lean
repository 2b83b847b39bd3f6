import PCenter.Lib.Procedure
import PCenter.Lib.Text

/-!
# The inventory

The tables of `internal/inventory` that cluster formation works on, with the operations of
`Service` and `DB`: a list of rows in the order of their creation stands for a table, an
`UPDATE ... WHERE id = ?` changes the rows with that key, and a transaction that fails
leaves the tables as they were. Failures of the database itself are left out, and so are
the time stamps and the columns that none of these operations reads.
-/

namespace Inventory

open GoText

inductive ClusterStatus where
  | empty
  | pending
  | active
  | error
  deriving DecidableEq, Repr

/-- How the constants of the type are spelled. -/
def ClusterStatus.text : ClusterStatus → String
  | .empty => "empty"
  | .pending => "pending"
  | .active => "active"
  | .error => "error"

inductive HostStatus where
  | staged
  | connecting
  | online
  | offline
  | error
  deriving DecidableEq, Repr

structure Cluster where
  id : String
  name : String
  agentName : String
  datacenterID : Option String
  status : ClusterStatus
  enabled : Bool
  deriving DecidableEq, Repr

/-- `InventoryHost`: a row, and what is read of it. An empty key stands for `NULL`. -/
structure InventoryHost where
  id : String
  clusterID : String
  datacenterID : String
  address : String
  tokenID : String
  tokenSecret : String
  insecure : Bool
  status : HostStatus
  error : String
  nodeName : String
  deriving DecidableEq, Repr

structure DB where
  /-- The keys of the datacenters. -/
  datacenters : List String
  clusters : List Cluster
  hosts : List InventoryHost

structure UpdateHostRequest where
  address : String
  tokenID : String
  tokenSecret : String
  insecure : Bool

/-- The pair of a token's name and its secret. -/
structure Token where
  tokenID : String
  tokenSecret : String
  deriving DecidableEq, Repr

def InventoryHost.token (host : InventoryHost) : Token := ⟨host.tokenID, host.tokenSecret⟩

/-- A map from host keys; the first entry of a key counts. -/
abbrev TokenUpdates := List (String × Token)

structure FormClusterFromHostsRequest where
  name : String
  agentName : String
  datacenterID : String
  hostIDs : List String
  tokenUpdates : TokenUpdates

structure AddHostsToClusterRequest where
  clusterID : String
  hostIDs : List String
  tokenUpdates : TokenUpdates

namespace DB

variable (db : DB)

def getCluster (id : String) : Option Cluster := db.clusters.find? (·.id = id)

def getClusterByName (name : String) : Option Cluster := db.clusters.find? (·.name = name)

/-- `SELECT ... WHERE id = ?` over the whole row. -/
def row (id : String) : Option InventoryHost := db.hosts.find? (·.id = id)

/-- `GetHost`, which does not select the datacenter. -/
def getHost (id : String) : Option InventoryHost :=
  (db.row id).map fun host => { host with datacenterID := "" }

def listHostsByCluster (clusterID : String) : List InventoryHost :=
  (db.hosts.filter (·.clusterID = clusterID)).map fun host => { host with datacenterID := "" }

/-- An `UPDATE` of the row with the key; none when no row was affected. -/
def updateRow (id : String) (set : InventoryHost → InventoryHost) : Option DB :=
  if (db.row id).isSome then
    some { db with hosts := db.hosts.map fun host => if host.id = id then set host else host }
  else none

/-- `stmtUpdateHost`: the columns that `DB.UpdateHost` sets. -/
def updateHostColumns (req : UpdateHostRequest) (host : InventoryHost) : InventoryHost :=
  { host with address := req.address, tokenID := req.tokenID, insecure := req.insecure }

/-- `DB.UpdateHost` -/
def updateHost (id : String) (req : UpdateHostRequest) : Except String DB :=
  match db.updateRow id (updateHostColumns req) with
  | some updated => .ok updated
  | none => .error "host not found"

/-- The columns that are set when a host is moved, with a token or without. -/
def moveColumns (clusterID : String) (update : Option Token) (host : InventoryHost) :
    InventoryHost :=
  match update with
  | some token =>
      { host with
        clusterID := clusterID, datacenterID := "", tokenID := token.tokenID,
        tokenSecret := token.tokenSecret }
  | none => { host with clusterID := clusterID, datacenterID := "" }

/-- The loop of both transactions over the hosts. -/
def moveHosts (clusterID : String) (updates : TokenUpdates) : List String → DB → Except String DB
  | [], db => .ok db
  | hostID :: rest, db =>
      match db.updateRow hostID (moveColumns clusterID (updates.lookup hostID)) with
      | some moved => moveHosts clusterID updates rest moved
      | none => .error ("host " ++ hostID ++ " not found")

/-- `DB.FormClusterFromHosts`, with the key of the new cluster. -/
def formClusterFromHosts (clusterID name agentName : String) (datacenterID : Option String)
    (hostIDs : List String) (updates : TokenUpdates) : Except String (Cluster × DB) :=
  if name = "" then .error "name is required"
  else if hostIDs = [] then .error "at least one host is required"
  else
    let cluster : Cluster :=
      { id := clusterID, name := name,
        agentName := if agentName = "" then name else agentName,
        datacenterID := datacenterID, status := .active, enabled := true }
    (moveHosts clusterID updates hostIDs { db with clusters := db.clusters ++ [cluster] }).map
      fun moved => (cluster, moved)

/-- `DB.AddHostsToCluster` -/
def addHostsToCluster (clusterID : String) (hostIDs : List String) (updates : TokenUpdates) :
    Except String DB :=
  if clusterID = "" then .error "cluster_id is required"
  else if hostIDs = [] then .error "at least one host is required"
  else moveHosts clusterID updates hostIDs db

end DB

namespace Service

variable (db : DB)

/-- `Service.UpdateHost` -/
def updateHost (id : String) (req : UpdateHostRequest) : Except String DB :=
  let address := trimSpace req.address
  let tokenID := trimSpace req.tokenID
  if address = "" then .error "address is required"
  else if tokenID = "" then .error "token_id is required"
  else db.updateHost id { req with address := address, tokenID := tokenID }

/-- `Service.FormClusterFromHosts` -/
def formClusterFromHosts (clusterID : String) (req : FormClusterFromHostsRequest) :
    Except String (Cluster × DB) :=
  let name := trimSpace req.name
  if name = "" then .error "name is required"
  else if (db.getClusterByName name).isSome then
    .error ("cluster with name \"" ++ name ++ "\" already exists")
  else if req.datacenterID ≠ "" ∧ req.datacenterID ∉ db.datacenters then
    .error "datacenter not found"
  else
    let datacenterID := if req.datacenterID = "" then none else some req.datacenterID
    db.formClusterFromHosts clusterID name req.agentName datacenterID req.hostIDs
      req.tokenUpdates

/-- `Service.AddHostsToCluster` -/
def addHostsToCluster (req : AddHostsToClusterRequest) : Except String DB :=
  match db.getCluster req.clusterID with
  | none => .error "cluster not found"
  | some _ => db.addHostsToCluster req.clusterID req.hostIDs req.tokenUpdates

end Service

section Tokens

namespace DB

variable {db db' : DB} {id k : String}

/-- The token that a host's row stores. -/
def tokenOf (db : DB) (id : String) : Option Token := (db.row id).map InventoryHost.token

theorem row_id {host : InventoryHost} (there : db.row id = some host) : host.id = id := by
  have found := List.find?_some there
  simpa using found

theorem getHost_token : (db.getHost id).map InventoryHost.token = db.tokenOf id := by
  simp only [getHost, tokenOf, Option.map_map]
  rfl

theorem row_updateRow {set : InventoryHost → InventoryHost} (keyed : ∀ h, (set h).id = h.id)
    (updated : db.updateRow id set = some db') :
    db'.row k = if k = id then (db.row k).map set else db.row k := by
  simp only [updateRow] at updated
  split at updated
  · obtain rfl := Option.some.inj updated
    have same : ∀ h : InventoryHost, (if h.id = id then set h else h).id = h.id := by
      intro h
      split
      · exact keyed h
      · rfl
    have keys : ((fun h : InventoryHost => decide (h.id = k)) ∘
        fun h => if h.id = id then set h else h) = fun h => decide (h.id = k) := by
      funext h
      simp [same]
    simp only [row, List.find?_map, keys]
    cases there : db.hosts.find? fun h => decide (h.id = k) with
    | none => simp
    | some h =>
        have key : h.id = k := @row_id db k h there
        simp only [Option.map_some, key]
        split <;> rfl
  · exact nomatch updated

theorem row_of_updateRow {set : InventoryHost → InventoryHost}
    (updated : db.updateRow id set = some db') : (db.row id).isSome := by
  simp only [updateRow] at updated
  split at updated
  · assumption
  · exact nomatch updated

/-- Moving hosts leaves every token as it is when the updates say what is stored. -/
theorem tokenOf_moveHosts {clusterID : String} {updates : TokenUpdates} {ids : List String}
    (stored : ∀ k token, updates.lookup k = some token → db.tokenOf k = some token)
    (moved : moveHosts clusterID updates ids db = .ok db') : db'.tokenOf k = db.tokenOf k := by
  induction ids generalizing db with
  | nil =>
      obtain rfl := Except.ok.inj moved
      rfl
  | cons id rest ih =>
      simp only [moveHosts] at moved
      split at moved
      · rename_i next updated
        have keyed : ∀ h, (moveColumns clusterID (updates.lookup id) h).id = h.id := by
          intro h
          simp only [moveColumns]
          split <;> rfl
        have same : ∀ k, next.tokenOf k = db.tokenOf k := by
          intro k
          simp only [tokenOf, row_updateRow keyed updated]
          split
          · rename_i here
            subst here
            cases update : updates.lookup k with
            | none =>
                rw [Option.map_map]
                rfl
            | some token =>
                obtain ⟨host, there, pair⟩ := Option.map_eq_some_iff.mp (stored k token update)
                rw [there]
                exact congrArg some pair.symm
          · rfl
        rw [ih (fun k token update => (same k).trans (stored k token update)) moved, same]
      · exact nomatch moved

end DB

theorem tokenOf_formClusterFromHosts {db : DB} {uuid k : String}
    {req : FormClusterFromHostsRequest} {formed : Cluster × DB}
    (stored : ∀ k token, req.tokenUpdates.lookup k = some token → db.tokenOf k = some token)
    (ok : Service.formClusterFromHosts db uuid req = .ok formed) :
    formed.2.tokenOf k = db.tokenOf k := by
  simp only [Service.formClusterFromHosts, DB.formClusterFromHosts] at ok
  split_ifs at ok
  all_goals
    obtain ⟨moved, done, rfl⟩ := Procedure.map_eq_ok_iff.mp ok
    have kept := @DB.tokenOf_moveHosts _ moved k _ _ _ (by exact stored) done
    exact kept

theorem tokenOf_addHostsToCluster {db db' : DB} {k : String} {req : AddHostsToClusterRequest}
    (stored : ∀ k token, req.tokenUpdates.lookup k = some token → db.tokenOf k = some token)
    (ok : Service.addHostsToCluster db req = .ok db') : db'.tokenOf k = db.tokenOf k := by
  simp only [Service.addHostsToCluster, DB.addHostsToCluster] at ok
  split at ok
  · exact nomatch ok
  · split_ifs at ok
    exact DB.tokenOf_moveHosts stored ok

/-- The statement of an update does not set the secret. -/
theorem tokenOf_updateHost {db db' : DB} {id k : String} {req : UpdateHostRequest}
    (ok : Service.updateHost db id req = .ok db') :
    (db.tokenOf id).isSome ∧
      db'.tokenOf k =
        if k = id then (db.tokenOf k).map fun token => ⟨trimSpace req.tokenID, token.tokenSecret⟩
        else db.tokenOf k := by
  simp only [Service.updateHost, DB.updateHost] at ok
  split_ifs at ok
  split at ok
  · rename_i updated
    obtain rfl := Except.ok.inj ok
    have keyed : ∀ h, (DB.updateHostColumns { req with
        address := trimSpace req.address, tokenID := trimSpace req.tokenID } h).id = h.id :=
      fun _ => rfl
    refine ⟨?_, ?_⟩
    · simpa [DB.tokenOf] using DB.row_of_updateRow updated
    · simp only [DB.tokenOf, DB.row_updateRow keyed updated]
      split
      · rw [Option.map_map, Option.map_map]
        rfl
      · rfl
  · exact nomatch ok

end Tokens

end Inventory
