import Mathlib.Data.List.Sort
import Mathlib.Logic.Function.Basic
import PCenter.PveCluster

/-!
# The inventory as a whole

The statements of `DB` in `internal/inventory` and the operations of `Service` and of the
`Reconciler` that change the tables, with their keys and their constraints, and
`GetClusterConfigs`. The names of the datacenters and the PVE names of the clusters are
columns beside the rows. A key that `uuid.New` draws is an argument; so is what a PVE host
answers to a password and to the probe. Descriptions and replies are left out.
-/

namespace Inventory

open GoText Procedure
open PveCluster (ClusterConfig)

/-- A key that `uuid.New` draws. -/
structure UUID where
  text : String
  nonempty : text ≠ ""

structure Datacenter where
  id : String
  name : String
  deriving DecidableEq, Repr

structure CreateClusterRequest where
  name : String
  datacenterID : Option String
  pveClusterName : String

structure UpdateClusterRequest where
  name : String
  datacenterID : Option String
  enabled : Bool

structure AddHostRequest where
  address : String
  insecure : Bool
  username : String
  password : String
  tokenID : String
  tokenSecret : String

/-- `ClusterMembership`, as far as it is read. -/
structure ClusterMembership where
  isCluster : Bool
  clusterName : String

structure Store extends DB where
  datacenterName : String → String
  pveClusterName : String → String

/-- The agent name, or the display name of a row that has none. -/
def Cluster.configName (c : Cluster) : String := if c.agentName = "" then c.name else c.agentName

def standaloneName (hostID : String) : String := "standalone:" ++ hostID

namespace Store

def empty : Store := ⟨⟨[], [], []⟩, fun _ => "", fun _ => ""⟩

variable (s : Store)

def getDatacenter (id : String) : Option Datacenter :=
  if id ∈ s.datacenters then some ⟨id, s.datacenterName id⟩ else none

def getDatacenterByName (name : String) : Option Datacenter :=
  (s.datacenters.find? fun id => s.datacenterName id = name).map fun id => ⟨id, name⟩

/-- The reference of a row to a datacenter; `NULL` refers to none. -/
def hasDatacenter (id : Option String) : Bool := id.all fun id => id ∈ s.datacenters

def createDatacenter (id : UUID) (name : String) : Except String Store :=
  if id.text ∈ s.datacenters then
    .error "insert datacenter: UNIQUE constraint failed: datacenters.id"
  else if (s.getDatacenterByName name).isSome then
    .error "insert datacenter: UNIQUE constraint failed: datacenters.name"
  else
    .ok { s with
      datacenters := s.datacenters ++ [id.text]
      datacenterName := Function.update s.datacenterName id.text name }

def updateDatacenter (id name : String) : Except String Store :=
  if id ∉ s.datacenters then .error "datacenter not found"
  else if s.datacenters.any fun k => k ≠ id ∧ s.datacenterName k = name then
    .error "update datacenter: UNIQUE constraint failed: datacenters.name"
  else .ok { s with datacenterName := Function.update s.datacenterName id name }

/-- Clusters lose their reference, standalone hosts go with the datacenter. -/
def deleteDatacenter (id : String) : Except String Store :=
  if id ∉ s.datacenters then .error "datacenter not found"
  else
    .ok { s with
      datacenters := s.datacenters.filter (· ≠ id)
      clusters := s.clusters.map fun c =>
        if c.datacenterID = some id then { c with datacenterID := none } else c
      hosts := s.hosts.filter (·.datacenterID ≠ id) }

def insertCluster (cluster : Cluster) (pveClusterName : String) : Except String Store :=
  if (s.getCluster cluster.id).isSome then
    .error "insert cluster: UNIQUE constraint failed: clusters.id"
  else if (s.getClusterByName cluster.name).isSome then
    .error "insert cluster: UNIQUE constraint failed: clusters.name"
  else if ¬s.hasDatacenter cluster.datacenterID then
    .error "insert cluster: FOREIGN KEY constraint failed"
  else
    .ok { s with
      clusters := s.clusters ++ [cluster]
      pveClusterName := Function.update s.pveClusterName cluster.id pveClusterName }

/-- `GetClusterByPVEName`, which finds nothing under the empty name. -/
def getClusterByPVEName (pveName : String) : Option Cluster :=
  if pveName = "" then none else s.clusters.find? fun c => s.pveClusterName c.id = pveName

def mapCluster (id : String) (set : Cluster → Cluster) : Store :=
  { s with clusters := s.clusters.map fun c => if c.id = id then set c else c }

def setPVEClusterName (id pveName : String) : Except String Store :=
  if (s.getCluster id).isSome then
    .ok { s with pveClusterName := Function.update s.pveClusterName id pveName }
  else .error "cluster not found"

/-- The columns that `stmtUpdateCluster` sets; the agent name is not among them. -/
def updateClusterColumns (req : UpdateClusterRequest) (c : Cluster) : Cluster :=
  { c with name := req.name, datacenterID := req.datacenterID, enabled := req.enabled }

def updateCluster (id : String) (req : UpdateClusterRequest) : Except String Store :=
  if (s.getCluster id).isNone then .error "cluster not found"
  else if s.clusters.any fun d => d.id ≠ id ∧ d.name = req.name then
    .error "update cluster: UNIQUE constraint failed: clusters.name"
  else if ¬s.hasDatacenter req.datacenterID then
    .error "update cluster: FOREIGN KEY constraint failed"
  else .ok (s.mapCluster id (updateClusterColumns req))

/-- The hosts go with the cluster. -/
def deleteCluster (id : String) : Except String Store :=
  if (s.getCluster id).isSome then
    .ok { s with
      clusters := s.clusters.filter (·.id ≠ id), hosts := s.hosts.filter (·.clusterID ≠ id) }
  else .error "cluster not found"

/-- An update of columns that no constraint is about. -/
def setCluster (id : String) (set : Cluster → Cluster) : Except String Store :=
  if (s.getCluster id).isSome then .ok (s.mapCluster id set) else .error "cluster not found"

def setClusterEnabled (id : String) (enabled : Bool) : Except String Store :=
  s.setCluster id fun c => { c with enabled := enabled }

def setClusterStatus (id : String) (status : ClusterStatus) : Except String Store :=
  s.setCluster id fun c => { c with status := status }

/-- The insertion of a host with one of the references, where the other one is `NULL`; an
empty reference that is given refers to no row. -/
def insertHost (words : String) (host : InventoryHost) : Except String Store :=
  if (s.row host.id).isSome then
    .error (words ++ ": UNIQUE constraint failed: inventory_hosts.id")
  else if (host.clusterID = "" ∧ host.datacenterID = "") ∨
      (host.clusterID ≠ "" ∧ (s.getCluster host.clusterID).isNone) ∨
      (host.datacenterID ≠ "" ∧ host.datacenterID ∉ s.datacenters) then
    .error (words ++ ": FOREIGN KEY constraint failed")
  else .ok { s with hosts := s.hosts ++ [host] }

def stagedHost (id : UUID) (clusterID datacenterID : String) (req : AddHostRequest) :
    InventoryHost :=
  { id := id.text, clusterID := clusterID, datacenterID := datacenterID
    address := req.address, tokenID := req.tokenID, tokenSecret := req.tokenSecret
    insecure := req.insecure, status := .staged, error := "", nodeName := "" }

def addHost (id : UUID) (clusterID : String) (req : AddHostRequest) : Except String Store :=
  s.insertHost "insert host" (stagedHost id clusterID "" req)

def addDatacenterHost (id : UUID) (datacenterID : String) (req : AddHostRequest) :
    Except String Store :=
  s.insertHost "insert datacenter host" (stagedHost id "" datacenterID req)

def listHostsByDatacenter (datacenterID : String) : List InventoryHost :=
  s.hosts.filter fun host => host.datacenterID = datacenterID ∧ host.clusterID = ""

/-- An update of a host's columns; that of a reference is checked. -/
def setHost (id : String) (set : InventoryHost → InventoryHost) : Except String Store :=
  match s.updateRow id set with
  | some updated => .ok { s with toDB := updated }
  | none => .error "host not found"

def moveHostToCluster (hostID clusterID : String) : Except String Store :=
  if (s.row hostID).isSome ∧ (s.getCluster clusterID).isNone then
    .error "move host: FOREIGN KEY constraint failed"
  else s.setHost hostID fun host => { host with clusterID := clusterID, datacenterID := "" }

def setHostStatus (id : String) (status : HostStatus) (error nodeName : String) :
    Except String Store :=
  s.setHost id fun host => { host with status := status, error := error, nodeName := nodeName }

def deleteHost (id : String) : Except String Store :=
  if (s.row id).isSome then .ok { s with hosts := s.hosts.filter (·.id ≠ id) }
  else .error "host not found"

def hostCountByCluster (clusterID : String) : Nat :=
  (s.hosts.filter (·.clusterID = clusterID)).length

/-- The join of `ListClusters` with the datacenters. -/
def datacenterNameOf (c : Cluster) : Option String :=
  (c.datacenterID.bind s.getDatacenter).map Datacenter.name

/-- `ORDER BY d.name NULLS LAST, c.name` -/
def listedBefore (c d : Cluster) : Bool :=
  match s.datacenterNameOf c, s.datacenterNameOf d with
  | some first, some second => first < second ∨ (first = second ∧ ¬d.name < c.name)
  | some _, none => true
  | none, some _ => false
  | none, none => ¬d.name < c.name

def listClusters : List Cluster := s.clusters.insertionSort fun c d => s.listedBefore c d

def listDatacenters : List String :=
  s.datacenters.insertionSort fun a b => ¬s.datacenterName b < s.datacenterName a

/-- One turn of the first loop of `GetClusterConfigs`; none for `continue`. -/
def clusterConfig (secrets : String → String) (c : Cluster) : Option ClusterConfig :=
  if ¬c.enabled ∨ c.status ≠ .active then none
  else
    match (s.listHostsByCluster c.id).find? (·.status = .online) with
    | none => none
    | some onlineHost =>
        let secret :=
          if secrets c.configName = "" then onlineHost.tokenSecret else secrets c.configName
        if secret = "" then none
        else
          some
            { name := c.configName, discoveryNode := onlineHost.address
              tokenID := onlineHost.tokenID, tokenSecret := secret
              insecure := onlineHost.insecure }

def standaloneConfig (host : InventoryHost) : Option ClusterConfig :=
  if host.status ≠ .online ∨ host.tokenSecret = "" then none
  else
    some
      { name := standaloneName host.id, discoveryNode := host.address, tokenID := host.tokenID
        tokenSecret := host.tokenSecret, insecure := host.insecure }

/-- `GetClusterConfigs`. A secret that the map does not have is empty. -/
def getClusterConfigs (secrets : String → String) : List ClusterConfig :=
  s.listClusters.filterMap (s.clusterConfig secrets) ++
    s.listDatacenters.flatMap fun id => (s.listHostsByDatacenter id).filterMap standaloneConfig

def agentNames : List String := s.clusters.map (·.agentName)

/-- The row of `DB.CreateCluster`, whose agent name is the name of the request. -/
def newCluster (id : UUID) (req : CreateClusterRequest) : Cluster :=
  { id := id.text, name := req.name, agentName := req.name, datacenterID := req.datacenterID
    status := .empty, enabled := true }

def createCluster (id : UUID) (req : CreateClusterRequest) : Proc String Store Cluster := do
  commit fun s => s.insertCluster (newCluster id req) req.pveClusterName
  pure (newCluster id req)

/-- The transaction of `FormClusterFromHosts` on the tables with their keys. -/
def formClusterFromHosts (id : UUID) (req : FormClusterFromHostsRequest) :
    Except String Store := do
  let (_, formed) ← Service.formClusterFromHosts s.toDB id.text req
  if (s.getCluster id.text).isSome then
    .error "insert cluster: UNIQUE constraint failed: clusters.id"
  else
    .ok { s with
      toDB := formed, pveClusterName := Function.update s.pveClusterName id.text "" }

def addHostsToCluster (req : AddHostsToClusterRequest) : Except String Store :=
  (Service.addHostsToCluster s.toDB req).map fun moved => { s with toDB := moved }

def updateHost (id : String) (req : UpdateHostRequest) : Except String Store :=
  (Service.updateHost s.toDB id req).map fun updated => { s with toDB := updated }

end Store

abbrev Action (A : Type) := Proc String Store A

namespace Service

def createDatacenter (uuid : UUID) (name : String) : Action Unit := do
  if trimSpace name = "" then throw "name is required"
  else
    let existing ← read fun s => s.getDatacenterByName (trimSpace name)
    if existing.isSome then
      throw ("datacenter with name '" ++ trimSpace name ++ "' already exists")
    else commit fun s => s.createDatacenter uuid (trimSpace name)

def updateDatacenter (id name : String) : Action Unit := do
  if trimSpace name = "" then throw "name is required"
  else
    match ← read fun s => s.getDatacenter id with
    | none => throw "datacenter not found"
    | some dc =>
        let existing ← read fun s => s.getDatacenterByName (trimSpace name)
        if trimSpace name ≠ dc.name ∧ existing.isSome then
          throw ("datacenter with name '" ++ trimSpace name ++ "' already exists")
        else commit fun s => s.updateDatacenter id (trimSpace name)

def deleteDatacenter (id : String) : Action Unit := do
  match ← read fun s => s.getDatacenter id with
  | none => throw "datacenter not found"
  | some _ => commit fun s => s.deleteDatacenter id

/-- The check of a request's datacenter, where it has one. -/
def checkDatacenter (id : Option String) : Action Unit := do
  if ← read fun s => s.hasDatacenter id then pure () else throw "datacenter not found"

def createCluster (uuid : UUID) (req : CreateClusterRequest) : Action Cluster := do
  if trimSpace req.name = "" then throw "name is required"
  else
    let existing ← read fun s => s.getClusterByName (trimSpace req.name)
    if existing.isSome then
      throw ("cluster with name '" ++ trimSpace req.name ++ "' already exists")
    else
      checkDatacenter req.datacenterID
      Store.createCluster uuid { req with name := trimSpace req.name }

def updateCluster (id : String) (req : UpdateClusterRequest) : Action Unit := do
  if trimSpace req.name = "" then throw "name is required"
  else
    match ← read fun s => s.getCluster id with
    | none => throw "cluster not found"
    | some cluster =>
        let existing ← read fun s => s.getClusterByName (trimSpace req.name)
        if trimSpace req.name ≠ cluster.name ∧ existing.isSome then
          throw ("cluster with name '" ++ trimSpace req.name ++ "' already exists")
        else
          checkDatacenter req.datacenterID
          commit fun s => s.updateCluster id { req with name := trimSpace req.name }

/-- An operation on the cluster of a name or a key. -/
def withCluster (find : Store → Option Cluster) (next : Cluster → Action Unit) :
    Action Unit := do
  match ← read find with
  | none => throw "cluster not found"
  | some cluster => next cluster

def updateClusterByName (name : String) (req : UpdateClusterRequest) : Action Unit :=
  withCluster (·.getClusterByName name) fun cluster => updateCluster cluster.id req

def deleteCluster (id : String) : Action Unit :=
  withCluster (·.getCluster id) fun _ => commit fun s => s.deleteCluster id

def deleteClusterByName (name : String) : Action Unit :=
  withCluster (·.getClusterByName name) fun cluster => commit fun s => s.deleteCluster cluster.id

def setClusterEnabled (id : String) (enabled : Bool) : Action Unit :=
  withCluster (·.getCluster id) fun _ => commit fun s => s.setClusterEnabled id enabled

def moveClusterToDatacenter (clusterName : String) (datacenterID : Option String) :
    Action Unit :=
  withCluster (·.getClusterByName clusterName) fun cluster => do
    checkDatacenter datacenterID
    commit fun s => s.updateCluster cluster.id ⟨cluster.name, datacenterID, cluster.enabled⟩

/-- `resolveHostAuth`, with the token that the PVE host gives for the password. -/
def resolveHostAuth (answer : Except String Token) (req : AddHostRequest) :
    Except String AddHostRequest :=
  let address := trimSpace req.address
  let tokenID := trimSpace req.tokenID
  let tokenSecret := trimSpace req.tokenSecret
  if address = "" then .error "address is required"
  else if req.username ≠ "" ∧ req.password ≠ "" then
    answer.map fun token =>
      { req with
        address := address, tokenID := token.tokenID, tokenSecret := token.tokenSecret }
  else if tokenID = "" then
    .error "either username/password or token_id/token_secret is required"
  else if tokenSecret = "" then .error "token_secret is required when using token_id"
  else .ok { req with address := address, tokenID := tokenID, tokenSecret := tokenSecret }

/-- The first host of a cluster gives it another status, and a failure is ignored. -/
def leaveEmpty (cluster : Cluster) (status : ClusterStatus) : Action Unit :=
  if cluster.status = .empty then
    ignore (F := String) (commit fun s => s.setClusterStatus cluster.id status)
  else pure ()

def addHost (clusterID : String) (uuid : UUID) (answer : Except String Token)
    (req : AddHostRequest) : Action Unit :=
  withCluster (·.getCluster clusterID) fun cluster => do
    let req ← orThrow (resolveHostAuth answer req)
    commit fun s => s.addHost uuid clusterID req
    leaveEmpty cluster .pending

def addHostByClusterName (clusterName : String) (uuid : UUID) (answer : Except String Token)
    (req : AddHostRequest) : Action Unit :=
  withCluster (·.getClusterByName clusterName) fun cluster => addHost cluster.id uuid answer req

/-- The display name for the cluster of a PVE cluster: the PVE name, or one with the
address behind it when the name is taken. -/
def nameFor (s : Store) (pveName address : String) : String :=
  if (s.getClusterByName pveName).isSome then pveName ++ " (" ++ address ++ ")" else pveName

/-- The cluster that is correlated to a PVE cluster, or a new one. -/
def findOrCreateCluster (uuid : UUID) (datacenterID pveName address : String) :
    Action Cluster := do
  match ← read fun s => s.getClusterByPVEName pveName with
  | some cluster => pure cluster
  | none =>
      let name ← read fun s => nameFor s pveName address
      Store.createCluster uuid ⟨name, some datacenterID, pveName⟩

def addHostAutoRoute (datacenterID : String) (clusterUUID hostUUID : UUID)
    (answer : Except String Token) (probe : Except String ClusterMembership)
    (req : AddHostRequest) : Action Unit := do
  checkDatacenter (some datacenterID)
  let req ← orThrow (resolveHostAuth answer req)
  let membership ← orThrow (probe.mapError fun text => "probe cluster membership: " ++ text)
  if membership.isCluster then
    let cluster ← rename (fun text => "create cluster: " ++ text)
      (findOrCreateCluster clusterUUID datacenterID membership.clusterName req.address)
    rename (fun text => "add host: " ++ text)
      (commit fun s => s.addHost hostUUID cluster.id req)
    leaveEmpty cluster .pending
  else
    rename (fun text => "add datacenter host: " ++ text)
      (commit fun s => s.addDatacenterHost hostUUID datacenterID req)

def addDatacenterHost (datacenterID : String) (uuid : UUID) (answer : Except String Token)
    (req : AddHostRequest) : Action Unit := do
  checkDatacenter (some datacenterID)
  let req ← orThrow (resolveHostAuth answer req)
  rename (fun text => "add host: " ++ text)
    (commit fun s => s.addDatacenterHost uuid datacenterID req)

def deleteHost (id : String) : Action Unit := do
  match ← read fun s => s.getHost id with
  | none => throw "host not found"
  | some host =>
      commit fun s => s.deleteHost id
      if (← read fun s => s.hostCountByCluster host.clusterID) = 0 then
        ignore (F := String) (commit fun s => s.setClusterStatus host.clusterID .empty)
      else pure ()

def moveHostToCluster (hostID clusterID : String) : Action Unit :=
  withCluster (·.getCluster clusterID) fun cluster => do
    commit fun s => s.moveHostToCluster hostID clusterID
    leaveEmpty cluster .pending

end Service

namespace Reconciler

/-- `promoteStandalone`, for a host as the pass has read it. -/
def promoteStandalone (uuid : UUID) (host : InventoryHost) (datacenterID pveClusterName : String) :
    Action Unit := do
  let cluster ← Service.findOrCreateCluster uuid datacenterID pveClusterName host.address
  commit fun s => s.moveHostToCluster host.id cluster.id
  Service.leaveEmpty cluster .active

/-- One turn of the loop of `ReconcileLegacy`, for a cluster as the pass has read it; a
failure stands for `continue`. -/
def reconcileLegacy (uuid : UUID) (c : Cluster) (pveClusterName : String)
    (probe : Except String ClusterMembership) : Action Unit := do
  if pveClusterName ≠ "" then throw "already correlated"
  else
    let hosts ← read fun s => s.listHostsByCluster c.id
    if ¬hosts.any (·.tokenSecret ≠ "") then throw (c.name ++ " (no probe credentials)")
    else
      let membership ← orThrow probe
      if membership.isCluster then
        commit fun s => s.setPVEClusterName c.id membership.clusterName
      else
        match hosts, c.datacenterID with
        | [host], some datacenterID =>
            commit fun s => s.deleteHost host.id
            commit fun s => s.addDatacenterHost uuid datacenterID
              { address := host.address, insecure := host.insecure, username := "", password := ""
                tokenID := host.tokenID, tokenSecret := host.tokenSecret }
            ignore (F := String) (commit fun s =>
              s.setHostStatus uuid.text host.status host.error host.nodeName)
            commit fun s => s.deleteCluster c.id
        | [_], none => throw (c.name ++ " (orphan cluster, no datacenter)")
        | _, _ => throw (c.name ++ " (multi-host, standalone probe)")

end Reconciler

end Inventory
