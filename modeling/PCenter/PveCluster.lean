import PCenter.Inventory
import PCenter.Lib.Procedure

/-!
# Forming a cluster and joining hosts to one

The jobs of `internal/pvecluster`: a cluster is created on a founder, or one that exists is
taken as the source; each joiner joins it and takes over the stored token of the founder;
then the inventory is brought up to date. All that happens outside the inventory is an
oracle that is asked in turn. Progress messages, task identifiers and time stamps are left
out, and so is the copy of the token in the job's own record of a joiner, which nothing
reads.
-/

namespace PveCluster

open GoText Inventory Procedure

inductive JobState where
  | running
  | succeeded
  | failed
  deriving DecidableEq, Repr

inductive StepState where
  | pending
  | running
  | succeeded
  | failed
  deriving DecidableEq, Repr

inductive StepPhase where
  | cleanupCorosync
  | createCluster
  | fetchJoinInfo
  | join
  | reauthToken
  | updateInventory
  deriving DecidableEq, Repr

structure Step where
  hostID : String
  phase : StepPhase
  state : StepState
  deriving DecidableEq, Repr

structure Job where
  id : String
  clusterName : String
  datacenterID : String
  state : JobState
  inventoryClusterID : String
  error : String
  steps : List Step
  deriving DecidableEq, Repr

namespace Job

/-- `setStep`: the first step of the host and the phase, or a new one. -/
def setStep (hostID : String) (phase : StepPhase) (state : StepState) (job : Job) : Job :=
  { job with steps := go job.steps }
where
  go : List Step → List Step
    | [] => [⟨hostID, phase, state⟩]
    | step :: rest =>
        if step.hostID = hostID ∧ step.phase = phase then { step with state := state } :: rest
        else step :: go rest

def markFailed (message : String) (job : Job) : Job :=
  { job with state := .failed, error := message }

def markSucceeded (inventoryClusterID : String) (job : Job) : Job :=
  { job with state := .succeeded, inventoryClusterID := inventoryClusterID }

end Job

structure JoinerSpec where
  hostID : String
  password : String
  link0 : String
  deriving DecidableEq

structure StartJobRequest where
  clusterName : String
  datacenterID : String
  founderHostID : String
  founderPassword : String
  founderLink0 : String
  joiners : List JoinerSpec

structure StartJoinHostsJobRequest where
  clusterID : String
  joiners : List JoinerSpec

/-- A ticket of `AuthenticateWithPassword`. -/
structure AuthResult where
  ticket : String
  csrfToken : String

/-- `ClusterJoinInfo`, as far as it is read. -/
structure ClusterJoinInfo where
  fingerprint : String

structure ClusterJoinRequest where
  hostname : String
  fingerprint : String
  password : String
  link0 : String

/-- A failed join: its text, and whether it is the deadline's. -/
structure JoinError where
  text : String
  deadlineExceeded : Bool

/-- A node in the answer of `DiscoverClusterNodes`. -/
structure ClusterNode where
  name : String
  online : Int

/-- `ClusterConfig` of the poller. -/
structure ClusterConfig where
  name : String
  discoveryNode : String
  tokenID : String
  tokenSecret : String
  insecure : Bool
  deriving DecidableEq, Repr

/-- Everything outside the inventory. The first argument of an answer is its number. -/
structure Outside where
  /-- `AuthenticateWithPassword` at an address as `root@pam` -/
  authenticate : Nat → String → String → Except String AuthResult
  /-- `ClusterCreateWithPassword` -/
  clusterCreate : Nat → String → AuthResult → String → String → Except String String
  cleanupCorosyncOverSSH : Nat → String → String → Except String Unit
  waitForTask : Nat → ClusterConfig → String → Except String Unit
  /-- `GetClusterJoinInfoWithPassword` -/
  joinInfoWithPassword : Nat → String → AuthResult → String → Except String ClusterJoinInfo
  /-- `GetClusterJoinInfo` -/
  joinInfo : Nat → ClusterConfig → String → Except String ClusterJoinInfo
  clusterJoin : Nat → String → AuthResult → ClusterJoinRequest → Except JoinError String
  /-- The answers of `DiscoverClusterNodes` until the deadline. -/
  discoverClusterNodes : Nat → ClusterConfig → List (Except String (List ClusterNode))
  /-- The job's context is done. -/
  cancelled : Nat → Bool
  uuid : Nat → String
  hasPoller : Bool

/-- What a job does to the poller. -/
inductive PollerCall where
  | addCluster (config : ClusterConfig)
  | removeCluster (name : String)
  deriving DecidableEq, Repr

structure World where
  db : DB
  job : Job
  poller : List PollerCall
  /-- How many questions were asked. -/
  asked : Nat

/-- A part of a job; its failure is the message that the job fails with. -/
abbrev Run (A : Type) := Proc String World A

section Steps

def ask {A : Type} (question : Nat → A) : Run A :=
  update fun w => (question w.asked, { w with asked := w.asked + 1 })

def setStep (hostID : String) (phase : StepPhase) (state : StepState) : Run Unit :=
  update fun w => ((), { w with job := w.job.setStep hostID phase state })

def startStep (hostID : String) (phase : StepPhase) : Run Unit := setStep hostID phase .running

def succeedStep (hostID : String) (phase : StepPhase) : Run Unit :=
  setStep hostID phase .succeeded

def failStep (hostID : String) (phase : StepPhase) : Run Unit := setStep hostID phase .failed

/-- The value, or the end of the step and of the job. -/
def orFail {A : Type} (value : Except String A) (hostID : String) (phase : StepPhase)
    (message : String → String) : Run A := do
  match value with
  | .ok a => pure a
  | .error err =>
      failStep hostID phase
      throw (message err)

/-- A change of the inventory. -/
def write {A : Type} (change : DB → Except String (A × DB)) : Run (Except String A) :=
  update fun w =>
    match change w.db with
    | .ok (a, db) => (.ok a, { w with db := db })
    | .error err => (.error err, w)

def getHost (id : String) : Run (Option InventoryHost) := update fun w => (w.db.getHost id, w)

def tellPoller (outside : Outside) (calls : List PollerCall) : Run Unit :=
  update fun w =>
    ((), if outside.hasPoller then { w with poller := w.poller ++ calls } else w)

end Steps

section Helpers

/-- The configuration of the client that `buildClient` makes. -/
def buildClient (host : InventoryHost) : Except String ClusterConfig :=
  if host.tokenID = "" ∨ host.tokenSecret = "" then
    .error ("host " ++ host.address ++ " has no stored token")
  else
    .ok ⟨"pvecluster:" ++ host.id, host.address, host.tokenID, host.tokenSecret, host.insecure⟩

/-- Everything before the last colon, unless that is the first character. -/
def hostPart (addrPort : String) : String :=
  match addrPort.toList.reverse.dropWhile (· ≠ ':') with
  | _ :: c :: rest => String.ofList (c :: rest).reverse
  | _ => addrPort

def findHost (hosts : List InventoryHost) (id : String) : Option InventoryHost :=
  hosts.find? (·.id = id)

def isCorosyncAlreadyExists (err : String) : Bool :=
  includes "corosync.conf" err && includes "already exists" err

def looksLikeProxyRestart (err : JoinError) : Bool :=
  ["EOF", "connection reset", "broken pipe", "unexpected EOF"].any (includes · err.text) ||
    err.deadlineExceeded

end Helpers

section Joining

variable (outside : Outside)

/-- The loop of `waitForMembership`. -/
def appears (joinerNode : String) (polls : List (Except String (List ClusterNode))) : Bool :=
  polls.any fun poll =>
    match poll with
    | .ok nodes => nodes.any fun node => node.name = joinerNode && node.online == 1
    | .error _ => false

def waitForMembership (founder : InventoryHost) (joinerNode : String) :
    Run (Except String Unit) := do
  match buildClient founder with
  | .error err => pure (.error err)
  | .ok client =>
      let polls ← ask (outside.discoverClusterNodes · client)
      if appears joinerNode polls then pure (.ok ())
      else
        pure (.error ("timed out waiting for " ++ joinerNode ++
          " to appear in /cluster/status"))

/-- A join that is accepted, or answered like a proxy that restarts. -/
def submitted (joined : Except JoinError String) : Except String Unit :=
  match joined with
  | .ok _ => .ok ()
  | .error err => if looksLikeProxyRestart err then .ok () else .error err.text

/-- `UpdateHost` with the joiner's address and the founder's token. -/
def adoptToken (founder joiner : InventoryHost) : Run (Except String Unit) :=
  write fun db =>
    (Service.updateHost db joiner.id
      ⟨joiner.address, founder.tokenID, founder.tokenSecret, joiner.insecure⟩).map fun db => ((), db)

def joinOne (founder : InventoryHost) (founderIP : String) (joiner : InventoryHost)
    (req : JoinerSpec) (info : ClusterJoinInfo) : Run Unit := do
  startStep joiner.id .join
  let link0 := if req.link0 = "" then hostPart joiner.address else req.link0
  let auth ← ask (outside.authenticate · joiner.address req.password)
  let auth ← orFail auth joiner.id .join ("authenticate: " ++ ·)
  let joined ← ask (outside.clusterJoin · joiner.address auth
    ⟨founderIP, info.fingerprint, req.password, link0⟩)
  orFail (submitted joined) joiner.id .join ("join: " ++ ·)
  let member ← waitForMembership outside founder joiner.nodeName
  orFail member joiner.id .join ("waiting for membership: " ++ ·)
  succeedStep joiner.id .join
  startStep joiner.id .reauthToken
  if founder.tokenID = "" ∨ founder.tokenSecret = "" then
    failStep joiner.id .reauthToken
    throw ("source host " ++ founder.nodeName ++ " has no stored API token to copy")
  else
    let updated ← adoptToken founder joiner
    orFail updated joiner.id .reauthToken ("persist token: " ++ ·)
    succeedStep joiner.id .reauthToken

def joinFailed (source joiner : InventoryHost) (err : String) : String :=
  "joiner " ++ joiner.nodeName ++ ": " ++ err ++ ". Manual recovery: on " ++ source.nodeName ++
    " run 'pvecm delnode " ++ joiner.nodeName ++
    "' to drop any half-joined state, 'pvecm status' to verify quorum, then retry from " ++
    "pcenter after cleanup."

/-- One turn of the loop over the joiners, with the tokens read back so far. -/
def joinNext (source : InventoryHost) (joiners : List InventoryHost) (info : ClusterJoinInfo)
    (updates : TokenUpdates) (req : JoinerSpec) : Run TokenUpdates := do
  match findHost joiners req.hostID with
  | none => throw ("internal error: joiner " ++ req.hostID ++ " not in hosts list")
  | some joiner =>
      rename (joinFailed source joiner)
        (joinOne outside source (hostPart source.address) joiner req info)
      let stored ← getHost joiner.id
      match stored with
      | some host => pure ((joiner.id, host.token) :: updates)
      | none => pure updates

def joinAll (source : InventoryHost) (joiners : List InventoryHost) (specs : List JoinerSpec)
    (info : ClusterJoinInfo) : Run TokenUpdates :=
  specs.foldlM (joinNext outside source joiners info) []

/-- The retries for the join information. -/
def retryJoinInfo (attempt : Run (Except String ClusterJoinInfo)) :
    Nat → String → Run (Except String ClusterJoinInfo)
  | 0, lastErr => pure (.error lastErr)
  | n + 1, _ => do
      let answered ← attempt
      match answered with
      | .ok info => pure (.ok info)
      | .error err =>
          let done ← ask outside.cancelled
          if done then throw "cancelled during join-info fetch"
          else retryJoinInfo attempt n err

/-- Join information counts only with a fingerprint. -/
def withFingerprint (answer : Except String ClusterJoinInfo) : Except String ClusterJoinInfo :=
  match answer with
  | .ok info =>
      if info.fingerprint = "" then .error "join info returned without fingerprint"
      else .ok info
  | .error err => .error err

end Joining

section Formation

variable (outside : Outside)

def createFailed (founder : InventoryHost) (err : String) : String :=
  "founder " ++ founder.nodeName ++ ": create cluster failed: " ++ err

def cleanupFailed (founder : InventoryHost) (err : String) : String :=
  "founder " ++ founder.nodeName ++
    ": leftover cluster config and auto-cleanup over SSH failed: " ++ err ++
    ". Manual recovery: SSH to " ++ founder.nodeName ++ " and run: systemctl stop " ++
    "pve-cluster corosync && pmxcfs -l && rm -f /etc/pve/corosync.conf " ++
    "/etc/corosync/corosync.conf && killall pmxcfs && systemctl start pve-cluster"

/-- The second try, after what an earlier attempt left behind was removed. -/
def retryCreate (founder : InventoryHost) (req : StartJobRequest) : Run String := do
  startStep founder.id .cleanupCorosync
  let cleaned ← ask (outside.cleanupCorosyncOverSSH · founder.address req.founderPassword)
  match cleaned with
  | .error err =>
      failStep founder.id .cleanupCorosync
      failStep founder.id .createCluster
      throw (cleanupFailed founder err)
  | .ok () =>
      succeedStep founder.id .cleanupCorosync
      let fresh ← ask (outside.authenticate · founder.address req.founderPassword)
      let auth ← orFail fresh founder.id .createCluster
        ("founder " ++ founder.nodeName ++ ": cleanup ok but re-authentication failed: " ++ ·)
      let created ← ask (outside.clusterCreate · founder.address auth req.clusterName
        req.founderLink0)
      orFail created founder.id .createCluster (createFailed founder)

/-- Creating the cluster, with one more try after leftovers of an earlier one. -/
def createCluster (founder : InventoryHost) (req : StartJobRequest) (auth : AuthResult) :
    Run String := do
  let created ← ask (outside.clusterCreate · founder.address auth req.clusterName
    req.founderLink0)
  match created with
  | .ok upid => pure upid
  | .error err =>
      if isCorosyncAlreadyExists err then retryCreate outside founder req
      else
        failStep founder.id .createCluster
        throw (createFailed founder err)

/-- One try: a fresh ticket, then the join information. -/
def joinInfoAttempt (founder : InventoryHost) (req : StartJobRequest) :
    Run (Except String ClusterJoinInfo) := do
  let fresh ← ask (outside.authenticate · founder.address req.founderPassword)
  match fresh with
  | .error err => pure (.error ("re-auth: " ++ err))
  | .ok auth =>
      let answer ← ask (outside.joinInfoWithPassword · founder.address auth founder.nodeName)
      pure (withFingerprint answer)

def noJoinInfo (founder : InventoryHost) (err : String) : String :=
  "founder " ++ founder.nodeName ++ ": could not fetch join info: " ++ err ++
    ". Manual recovery: SSH to " ++ founder.nodeName ++ " and run 'pvecm expected 1', verify " ++
    "with 'pvecm status', then either keep the cluster (use it from PVE web UI) or run " ++
    "'systemctl stop pve-cluster && rm /etc/pve/corosync.conf /etc/corosync/corosync.conf && " ++
    "systemctl start pve-cluster' to revert to standalone before retrying."

def inventoryFailed (err : String) : String :=
  "PVE cluster formed successfully but pcenter inventory update failed: " ++ err ++
    ". You can fix this manually: delete the standalone host rows in pcenter and rescan — " ++
    "auto-discovery will pick up the new cluster."

/-- `runJob`; its answer is the key of the new cluster. -/
def runJob (founder : InventoryHost) (joiners : List InventoryHost) (req : StartJobRequest) :
    Run String := do
  let auth ← ask (outside.authenticate · founder.address req.founderPassword)
  let auth ← orThrow (auth.mapError fun err =>
    "founder " ++ founder.nodeName ++ ": root@pam authentication failed: " ++ err)
  let client ← orThrow ((buildClient founder).mapError ("build founder client: " ++ ·))
  startStep founder.id .createCluster
  let upid ← createCluster outside founder req auth
  let finished ← ask (outside.waitForTask · client upid)
  orFail finished founder.id .createCluster
    ("founder " ++ founder.nodeName ++ ": cluster creation task failed: " ++ ·)
  succeedStep founder.id .createCluster
  startStep founder.id .fetchJoinInfo
  let info ← retryJoinInfo outside (joinInfoAttempt outside founder req) 8
    "join info never populated"
  let info ← orFail info founder.id .fetchJoinInfo (noJoinInfo founder)
  succeedStep founder.id .fetchJoinInfo
  let updates ← joinAll outside founder joiners req.joiners info
  startStep founder.id .updateInventory
  let hostIDs := founder.id :: req.joiners.map (·.hostID)
  let uuid ← ask outside.uuid
  let formed ← write fun db => Service.formClusterFromHosts db uuid
    ⟨req.clusterName, req.clusterName, req.datacenterID, hostIDs, updates⟩
  let cluster ← orFail formed founder.id .updateInventory inventoryFailed
  succeedStep founder.id .updateInventory
  tellPoller outside
    (.addCluster ⟨req.clusterName, founder.address, founder.tokenID, founder.tokenSecret,
      founder.insecure⟩ :: hostIDs.map fun id => .removeCluster ("standalone:" ++ id))
  pure cluster.id

def joinInventoryFailed (err : String) : String :=
  "PVE join completed but pcenter inventory update failed: " ++ err ++
    ". Recover by removing the standalone host rows in pcenter and rescanning — the cluster " ++
    "will rediscover them."

/-- `runJoinHostsJob` -/
def runJoinHostsJob (cluster : Cluster) (sourceHost : InventoryHost)
    (joiners : List InventoryHost) (req : StartJoinHostsJobRequest) : Run String := do
  let client ← orThrow ((buildClient sourceHost).mapError ("build source-host client: " ++ ·))
  startStep sourceHost.id .fetchJoinInfo
  let info ← retryJoinInfo outside
    (do
      let answer ← ask (outside.joinInfo · client sourceHost.nodeName)
      pure (withFingerprint answer))
    5 "join info never populated"
  let info ← orFail info sourceHost.id .fetchJoinInfo
    ("source " ++ sourceHost.nodeName ++ ": could not fetch join info: " ++ ·)
  succeedStep sourceHost.id .fetchJoinInfo
  let updates ← joinAll outside sourceHost joiners req.joiners info
  startStep sourceHost.id .updateInventory
  let hostIDs := req.joiners.map (·.hostID)
  let added ← write fun db =>
    (Service.addHostsToCluster db ⟨cluster.id, hostIDs, updates⟩).map fun db => ((), db)
  orFail added sourceHost.id .updateInventory joinInventoryFailed
  succeedStep sourceHost.id .updateInventory
  let stored ← getHost sourceHost.id
  let source := stored.getD sourceHost
  let agentName := if cluster.agentName = "" then cluster.name else cluster.agentName
  tellPoller outside
    (hostIDs.map (fun id => PollerCall.removeCluster ("standalone:" ++ id)) ++
      [PollerCall.removeCluster agentName,
        .addCluster ⟨agentName, source.address, source.tokenID, source.tokenSecret,
          source.insecure⟩])
  pure cluster.id

end Formation

section Jobs

/-- The two jobs with what their start has read. -/
inductive Orchestration where
  | runJob (founder : InventoryHost) (joiners : List InventoryHost) (req : StartJobRequest)
  | runJoinHostsJob (cluster : Cluster) (sourceHost : InventoryHost)
      (joiners : List InventoryHost) (req : StartJoinHostsJobRequest)

namespace Orchestration

/-- The founder, or the member that the others join. -/
def source : Orchestration → InventoryHost
  | .runJob founder _ _ => founder
  | .runJoinHostsJob _ sourceHost _ _ => sourceHost

def specs : Orchestration → List JoinerSpec
  | .runJob _ _ req => req.joiners
  | .runJoinHostsJob _ _ _ req => req.joiners

def body (outside : Outside) : Orchestration → Run String
  | .runJob founder joiners req => PveCluster.runJob outside founder joiners req
  | .runJoinHostsJob cluster sourceHost joiners req =>
      PveCluster.runJoinHostsJob outside cluster sourceHost joiners req

/-- The job from its first step to its verdict. -/
def finish (outside : Outside) (o : Orchestration) (w : World) : World :=
  match exec (o.body outside) w with
  | (.ok clusterID, w') => { w' with job := w'.job.markSucceeded clusterID }
  | (.error message, w') => { w' with job := w'.job.markFailed message }

end Orchestration

def seed (jobID clusterName datacenterID : String) (source : InventoryHost)
    (phases : List StepPhase) (joiners : List JoinerSpec) : Job where
  id := jobID
  clusterName := clusterName
  datacenterID := datacenterID
  state := .running
  inventoryClusterID := ""
  error := ""
  steps :=
    phases.map (⟨source.id, ·, .pending⟩) ++
      joiners.flatMap (fun j =>
        [⟨j.hostID, .join, .pending⟩, ⟨j.hostID, .reauthToken, .pending⟩]) ++
      [⟨source.id, .updateInventory, .pending⟩]

def joinerMissing (j : JoinerSpec) : Bool := j.hostID = "" || j.password = ""

/-- The joiner without a host or a password. -/
def checkJoiners (joiners : List JoinerSpec) : Except String Unit :=
  match joiners.findIdx? joinerMissing with
  | some i => .error ("joiner[" ++ toString i ++ "] missing host_id or password")
  | none => .ok ()

/-- The records of the joiners, each of which passes the check. -/
def readJoiners (db : DB) (check : InventoryHost → Except String Unit) :
    List JoinerSpec → Except String (List InventoryHost)
  | [] => .ok []
  | j :: rest =>
      match db.getHost j.hostID with
      | none => .error ("joiner host " ++ j.hostID ++ " not found")
      | some host => do
          check host
          let hosts ← readJoiners db check rest
          .ok (host :: hosts)

/-- `StartJob`: the seeded job and what runs in the background. -/
def startJob (db : DB) (jobID : String) (req : StartJobRequest) :
    Except String (Job × Orchestration) :=
  if req.clusterName = "" then .error "cluster_name is required"
  else if req.founderHostID = "" then .error "founder_host_id is required"
  else if req.founderPassword = "" then .error "founder_password is required"
  else do
    checkJoiners req.joiners
    if (db.getClusterByName req.clusterName).isSome then
      .error ("cluster \"" ++ req.clusterName ++ "\" already exists in pcenter")
    else
      match db.getHost req.founderHostID with
      | none => .error "founder host not found"
      | some founder =>
          let joiners ← readJoiners db (fun _ => .ok ()) req.joiners
          .ok (seed jobID req.clusterName req.datacenterID founder
            [.createCluster, .fetchJoinInfo] req.joiners, .runJob founder joiners req)

def notInCluster (host : InventoryHost) : Except String Unit :=
  if host.clusterID = "" then .ok ()
  else .error ("host " ++ host.nodeName ++ " is already in a cluster")

/-- `StartJoinHostsJob` -/
def startJoinHostsJob (db : DB) (jobID : String) (req : StartJoinHostsJobRequest) :
    Except String (Job × Orchestration) :=
  if req.clusterID = "" then .error "cluster_id is required"
  else if req.joiners = [] then .error "at least one joiner is required"
  else do
    checkJoiners req.joiners
    match db.getCluster req.clusterID with
    | none => .error "cluster not found"
    | some cluster =>
        if cluster.status ≠ .active then
          .error ("cluster \"" ++ cluster.name ++ "\" is not active (status=" ++
            cluster.status.text ++ ")")
        else
          match (db.listHostsByCluster cluster.id).find? (·.status = .online) with
          | none =>
              .error ("cluster \"" ++ cluster.name ++
                "\" has no online member to fetch join info from")
          | some sourceHost =>
              let joiners ← readJoiners db notInCluster req.joiners
              .ok (seed jobID cluster.name (cluster.datacenterID.getD "") sourceHost
                [.fetchJoinInfo] req.joiners,
                .runJoinHostsJob cluster sourceHost joiners req)

/-- What `StartJob` has checked and read when it starts a job. -/
theorem startJob_eq_ok_iff {db : DB} {jobID : String} {req : StartJobRequest} {job : Job}
    {o : Orchestration} :
    startJob db jobID req = .ok (job, o) ↔
      (req.clusterName ≠ "" ∧ req.founderHostID ≠ "" ∧ req.founderPassword ≠ "" ∧
        checkJoiners req.joiners = .ok () ∧ db.getClusterByName req.clusterName = none) ∧
      ∃ founder joiners, db.getHost req.founderHostID = some founder ∧
        readJoiners db (fun _ => .ok ()) req.joiners = .ok joiners ∧
        job = seed jobID req.clusterName req.datacenterID founder [.createCluster, .fetchJoinInfo]
          req.joiners ∧
        o = .runJob founder joiners req := by
  constructor
  · intro started
    simp only [startJob] at started
    split_ifs at started with unnamed unfounded open_ taken
    · obtain ⟨_, -, failed⟩ := bind_eq_ok_iff.mp started
      cases failed
    · obtain ⟨_, checked, started⟩ := bind_eq_ok_iff.mp started
      cases listed : db.getHost req.founderHostID with
      | none => simp [listed] at started
      | some founder =>
          simp only [listed] at started
          obtain ⟨joiners, read, made⟩ := bind_eq_ok_iff.mp started
          obtain ⟨rfl, rfl⟩ := Prod.mk.inj (Except.ok.inj made)
          exact ⟨⟨unnamed, unfounded, open_, checked, by simpa using taken⟩,
            founder, joiners, rfl, read, rfl, rfl⟩
  · rintro ⟨⟨named, founded, secret, checked, free⟩, founder, joiners, listed, read, rfl, rfl⟩
    simp only [startJob, named, founded, secret, free, checked, listed, if_false,
      Option.isSome_none, Bool.false_eq_true]
    exact bind_eq_ok_iff.mpr ⟨(), rfl, bind_eq_ok_iff.mpr ⟨joiners, read, rfl⟩⟩

/-- What `StartJoinHostsJob` has checked and read when it starts a job. -/
theorem startJoinHostsJob_eq_ok_iff {db : DB} {jobID : String} {req : StartJoinHostsJobRequest}
    {job : Job} {o : Orchestration} :
    startJoinHostsJob db jobID req = .ok (job, o) ↔
      (req.clusterID ≠ "" ∧ req.joiners ≠ [] ∧ checkJoiners req.joiners = .ok ()) ∧
      ∃ cluster sourceHost joiners, db.getCluster req.clusterID = some cluster ∧
        cluster.status = .active ∧
        (db.listHostsByCluster cluster.id).find? (·.status = .online) = some sourceHost ∧
        readJoiners db notInCluster req.joiners = .ok joiners ∧
        job = seed jobID cluster.name (cluster.datacenterID.getD "") sourceHost [.fetchJoinInfo]
          req.joiners ∧
        o = .runJoinHostsJob cluster sourceHost joiners req := by
  constructor
  · intro started
    simp only [startJoinHostsJob] at started
    split_ifs at started with unnamed none_
    obtain ⟨_, checked, started⟩ := bind_eq_ok_iff.mp started
    cases known : db.getCluster req.clusterID with
    | none => simp [known] at started
    | some cluster =>
        simp only [known] at started
        split_ifs at started with inactive
        cases online : (db.listHostsByCluster cluster.id).find? (·.status = .online) with
        | none => simp [online] at started
        | some sourceHost =>
            simp only [online] at started
            obtain ⟨joiners, read, made⟩ := bind_eq_ok_iff.mp started
            obtain ⟨rfl, rfl⟩ := Prod.mk.inj (Except.ok.inj made)
            exact ⟨⟨unnamed, none_, checked⟩, cluster, sourceHost, joiners, rfl,
              not_not.mp inactive, online, read, rfl, rfl⟩
  · rintro ⟨⟨named, some_, checked⟩, cluster, sourceHost, joiners, known, active, online, read,
      rfl, rfl⟩
    simp only [startJoinHostsJob, named, some_, checked, known, active, online, if_false, ne_eq,
      not_true_eq_false]
    exact bind_eq_ok_iff.mpr ⟨(), rfl, bind_eq_ok_iff.mpr ⟨joiners, read, rfl⟩⟩

/-- The token that a job hands out is the one stored for the founder when it is started. -/
theorem startJob_source {db : DB} {jobID : String} {req : StartJobRequest} {job : Job}
    {o : Orchestration} (started : startJob db jobID req = .ok (job, o)) :
    db.tokenOf req.founderHostID = some o.source.token ∧ o.specs = req.joiners := by
  obtain ⟨-, founder, joiners, listed, -, -, rfl⟩ := startJob_eq_ok_iff.mp started
  rw [← DB.getHost_token, listed]
  exact ⟨rfl, rfl⟩

/-- A source is a member of the cluster, with the token of its row. -/
theorem startJoinHostsJob_source {db : DB} {jobID : String} {req : StartJoinHostsJobRequest}
    {job : Job} {o : Orchestration} (started : startJoinHostsJob db jobID req = .ok (job, o)) :
    (∃ host ∈ db.hosts, host.clusterID = req.clusterID ∧ host.token = o.source.token) ∧
      o.specs = req.joiners := by
  obtain ⟨-, cluster, sourceHost, joiners, known, -, online, -, -, rfl⟩ :=
    startJoinHostsJob_eq_ok_iff.mp started
  have key : cluster.id = req.clusterID := by
    have found := List.find?_some known
    simpa using found
  obtain ⟨host, member, rfl⟩ := List.mem_map.mp (List.mem_of_find?_eq_some online)
  obtain ⟨stored, clustered⟩ := List.mem_filter.mp member
  exact ⟨⟨host, stored, (by simpa [key] using clustered), rfl⟩, rfl⟩

end Jobs

section Tokens

variable {A B : Type} {outside : Outside}

/-- A part of a job that leaves the inventory alone. -/
def Quiet (x : Run A) : Prop := ∀ s a s', Yields x s a s' → s'.db = s.db

theorem quiet_update {step : World → A × World} (same : ∀ s, (step s).2.db = s.db) :
    Quiet (update step) := by
  intro s a s' ends
  have result := yields_update.mp ends
  rw [← same s, result]

theorem quiet_pure (a : A) : Quiet (pure a) := by
  intro s b s' ends
  exact congrArg World.db (yields_pure.mp ends).2.symm

theorem quiet_throw (message : String) : Quiet (throw message : Run A) :=
  fun _ _ _ ends => absurd ends not_yields_throw

theorem quiet_orThrow (value : Except String A) : Quiet (orThrow value) := by
  intro s a s' ends
  exact congrArg World.db (yields_orThrow.mp ends).2.symm

theorem quiet_bind {x : Run A} {next : A → Run B} (first : Quiet x) (later : ∀ a, Quiet (next a)) :
    Quiet (x >>= next) := by
  intro s b s' ends
  obtain ⟨a, t, begun, rest⟩ := yields_bind.mp ends
  exact (later a t b s' rest).trans (first s a t begun)

theorem quiet_ask (question : Nat → A) : Quiet (ask question) := quiet_update fun _ => rfl

theorem quiet_setStep (hostID : String) (phase : StepPhase) (state : StepState) :
    Quiet (setStep hostID phase state) := quiet_update fun _ => rfl

theorem quiet_getHost (id : String) : Quiet (getHost id) := quiet_update fun _ => rfl

theorem quiet_tellPoller (calls : List PollerCall) : Quiet (tellPoller outside calls) := by
  refine quiet_update fun s => ?_
  split <;> rfl

theorem yields_orFail {value : Except String A} {hostID : String} {phase : StepPhase}
    {message : String → String} {s s' : World} {a : A} :
    Yields (orFail value hostID phase message) s a s' ↔ value = .ok a ∧ s = s' := by
  cases value with
  | ok b => simp [orFail, yields_pure]
  | error err =>
      refine iff_of_false ?_ (fun both => nomatch both.1)
      intro ends
      obtain ⟨_, _, -, failed⟩ := yields_bind.mp ends
      exact not_yields_throw failed

theorem quiet_orFail (value : Except String A) (hostID : String) (phase : StepPhase)
    (message : String → String) : Quiet (orFail value hostID phase message) := by
  intro s a s' ends
  exact congrArg World.db (yields_orFail.mp ends).2.symm

theorem yields_write {change : DB → Except String (A × DB)} {s s' : World} {a : A} :
    Yields (write change) s (.ok a) s' ↔ ∃ db, change s.db = .ok (a, db) ∧ s' = { s with db := db } := by
  rw [write, yields_update]
  rcases change s.db with err | ⟨b, db⟩
  · simp
  · simp [eq_comm]

theorem quiet_waitForMembership (founder : InventoryHost) (joinerNode : String) :
    Quiet (waitForMembership outside founder joinerNode) := by
  rw [waitForMembership]
  cases buildClient founder with
  | error err => exact quiet_pure _
  | ok client =>
      refine quiet_bind (quiet_ask _) fun polls => ?_
      split <;> exact quiet_pure _

theorem quiet_retryJoinInfo {attempt : Run (Except String ClusterJoinInfo)}
    (quiet : Quiet attempt) (n : Nat) (lastErr : String) :
    Quiet (retryJoinInfo outside attempt n lastErr) := by
  induction n generalizing lastErr with
  | zero => exact quiet_pure _
  | succ n ih =>
      refine quiet_bind quiet fun answered => ?_
      cases answered with
      | ok info => exact quiet_pure _
      | error err =>
          refine quiet_bind (quiet_ask _) fun done => ?_
          split
          · exact quiet_throw _
          · exact ih err

theorem quiet_retryCreate (founder : InventoryHost) (req : StartJobRequest) :
    Quiet (retryCreate outside founder req) := by
  refine quiet_bind (quiet_setStep _ _ _) fun _ => quiet_bind (quiet_ask _) fun cleaned => ?_
  cases cleaned with
  | error err =>
      exact quiet_bind (quiet_setStep _ _ _) fun _ =>
        quiet_bind (quiet_setStep _ _ _) fun _ => quiet_throw _
  | ok done =>
      exact quiet_bind (quiet_setStep _ _ _) fun _ =>
        quiet_bind (quiet_ask _) fun _ => quiet_bind (quiet_orFail _ _ _ _) fun _ =>
          quiet_bind (quiet_ask _) fun _ => quiet_orFail _ _ _ _

theorem quiet_createCluster (founder : InventoryHost) (req : StartJobRequest)
    (auth : AuthResult) : Quiet (createCluster outside founder req auth) := by
  refine quiet_bind (quiet_ask _) fun created => ?_
  cases created with
  | ok upid => exact quiet_pure _
  | error err =>
      simp only
      split
      · exact quiet_retryCreate founder req
      · exact quiet_bind (quiet_setStep _ _ _) fun _ => quiet_throw _

theorem quiet_joinInfoAttempt (founder : InventoryHost) (req : StartJobRequest) :
    Quiet (joinInfoAttempt outside founder req) := by
  refine quiet_bind (quiet_ask _) fun fresh => ?_
  cases fresh with
  | error err => exact quiet_pure _
  | ok auth => exact quiet_bind (quiet_ask _) fun _ => quiet_pure _

/-- What the tokens are once the founder's name was written over those of some hosts. -/
def renamed (source : InventoryHost) (ids : List String) (db : DB) (k : String) : Option Token :=
  if k ∈ ids then (db.tokenOf k).map fun token => ⟨trimSpace source.tokenID, token.tokenSecret⟩
  else db.tokenOf k

/-- A joiner takes over the name of the founder's token and keeps its own secret. -/
theorem yields_joinOne {founder joiner : InventoryHost} {founderIP : String} {req : JoinerSpec}
    {info : ClusterJoinInfo} {s s' : World}
    (ends : Yields (joinOne outside founder founderIP joiner req info) s () s') :
    (s.db.tokenOf joiner.id).isSome ∧
      ∀ k, s'.db.tokenOf k = renamed founder [joiner.id] s.db k := by
  obtain ⟨_, s1, started, ends⟩ := yields_bind.mp ends
  obtain ⟨_, s2, asked, ends⟩ := yields_bind.mp ends
  obtain ⟨_, s3, authenticated, ends⟩ := yields_bind.mp ends
  obtain ⟨_, s4, posted, ends⟩ := yields_bind.mp ends
  obtain ⟨_, s5, joined, ends⟩ := yields_bind.mp ends
  obtain ⟨_, s6, waited, ends⟩ := yields_bind.mp ends
  obtain ⟨_, s7, member, ends⟩ := yields_bind.mp ends
  obtain ⟨_, s8, marked, ends⟩ := yields_bind.mp ends
  obtain ⟨_, s9, next, ends⟩ := yields_bind.mp ends
  have before : s9.db = s.db := by
    rw [quiet_setStep _ _ _ _ _ _ next, quiet_setStep _ _ _ _ _ _ marked,
      quiet_orFail _ _ _ _ _ _ _ member, quiet_waitForMembership _ _ _ _ _ waited,
      quiet_orFail _ _ _ _ _ _ _ joined, quiet_ask _ _ _ _ posted,
      quiet_orFail _ _ _ _ _ _ _ authenticated, quiet_ask _ _ _ _ asked,
      quiet_setStep _ _ _ _ _ _ started]
  split at ends
  · obtain ⟨_, _, -, failed⟩ := yields_bind.mp ends
    exact absurd failed not_yields_throw
  · obtain ⟨updated, s10, adopted, ends⟩ := yields_bind.mp ends
    obtain ⟨_, s11, persisted, ends⟩ := yields_bind.mp ends
    obtain ⟨rfl, rfl⟩ := yields_orFail.mp persisted
    obtain ⟨db, written, rfl⟩ := yields_write.mp adopted
    obtain ⟨db', ok, same⟩ := map_eq_ok_iff.mp written
    obtain rfl : db' = db := congrArg Prod.snd same
    rw [before] at ok
    have after : s'.db = db' := quiet_setStep _ _ _ _ _ _ ends
    refine ⟨(@tokenOf_updateHost _ _ _ "" _ ok).1, fun k => ?_⟩
    rw [after, (tokenOf_updateHost ok).2, renamed]
    simp

theorem renamed_isSome {source : InventoryHost} {ids : List String} {db : DB} {k : String} :
    (renamed source ids db k).isSome = (db.tokenOf k).isSome := by
  rw [renamed]
  split <;> simp

/-- Writing the name once more over one token. -/
theorem renamed_append {source : InventoryHost} {ids : List String} {db db' db'' : DB}
    {id k : String} (before : ∀ k, db'.tokenOf k = renamed source ids db k)
    (after : db''.tokenOf k = renamed source [id] db' k) :
    db''.tokenOf k = renamed source (ids ++ [id]) db k := by
  rw [after]
  by_cases here : k = id
  · by_cases again : k ∈ ids
    · simp only [renamed, List.mem_singleton, here, if_true, before, List.mem_append, or_true]
      rw [if_pos (here ▸ again), Option.map_map]
      rfl
    · simp [renamed, here, before, here ▸ again]
  · by_cases again : k ∈ ids
    · simp [renamed, here, before, again]
    · simp [renamed, here, before, again]

/-- What holds of the tokens after some turns of the loop over the joiners. -/
structure Renaming (source : InventoryHost) (db : DB) (done : List JoinerSpec)
    (updates : TokenUpdates) (w : World) : Prop where
  tokens : ∀ k, w.db.tokenOf k = renamed source (done.map (·.hostID)) db k
  stored : ∀ k token, updates.lookup k = some token → w.db.tokenOf k = some token
  known : ∀ spec ∈ done, (db.tokenOf spec.hostID).isSome

theorem renaming_joinNext {source : InventoryHost} {joiners : List InventoryHost}
    {info : ClusterJoinInfo} {db : DB} {done : List JoinerSpec} {spec : JoinerSpec}
    {updates later : TokenUpdates} {w w' : World} (held : Renaming source db done updates w)
    (ends : Yields (joinNext outside source joiners info updates spec) w later w') :
    Renaming source db (done ++ [spec]) later w' := by
  rw [joinNext] at ends
  cases listed : findHost joiners spec.hostID with
  | none =>
      rw [listed] at ends
      exact absurd ends not_yields_throw
  | some joiner =>
      rw [listed] at ends
      have key : joiner.id = spec.hostID := by
        have found := List.find?_some listed
        simpa using found
      obtain ⟨_, w1, joined, ends⟩ := yields_bind.mp ends
      obtain ⟨there, changed⟩ := yields_joinOne (yields_rename.mp joined)
      obtain ⟨stored, w2, read, ends⟩ := yields_bind.mp ends
      obtain ⟨found, rfl⟩ := Prod.mk.inj (yields_update.mp read)
      rw [key] at there changed found ends
      have tokens : ∀ k, w1.db.tokenOf k =
          renamed source ((done ++ [spec]).map (·.hostID)) db k := by
        intro k
        rw [List.map_append]
        exact renamed_append held.tokens (changed k)
      have others : ∀ k token, k ≠ spec.hostID → updates.lookup k = some token →
          w1.db.tokenOf k = some token := by
        intro k token other listed
        rw [changed, renamed, if_neg (by simpa using other)]
        exact held.stored k token listed
      have known : ∀ s ∈ done ++ [spec], (db.tokenOf s.hostID).isSome := by
        intro s member
        rcases List.mem_append.mp member with earlier | last
        · exact held.known s earlier
        · obtain rfl := List.mem_singleton.mp last
          rwa [held.tokens, renamed_isSome] at there
      have now : (w1.db.getHost spec.hostID).isSome := by
        have kept : (w1.db.tokenOf spec.hostID).isSome := by
          rwa [changed, renamed_isSome]
        simpa [← DB.getHost_token] using kept
      cases stored with
      | none =>
          rw [found] at now
          exact nomatch now
      | some host =>
          obtain ⟨rfl, rfl⟩ := yields_pure.mp ends
          refine ⟨tokens, ?_, known⟩
          intro k token listed
          by_cases here : k = spec.hostID
          · subst here
            rw [List.lookup_cons_self] at listed
            rw [← DB.getHost_token, found]
            exact listed
          · refine others k token here ?_
            rwa [List.lookup_cons, beq_false_of_ne here] at listed

/-- Joining hosts one after another renames their tokens, and the tokens that are handed on
are the ones stored. -/
theorem yields_joinAll {source : InventoryHost} {joiners : List InventoryHost}
    {specs : List JoinerSpec} {info : ClusterJoinInfo} {updates : TokenUpdates} {w w' : World}
    (ends : Yields (joinAll outside source joiners specs info) w updates w') :
    Renaming source w.db specs updates w' := by
  refine yields_foldlM (fun done spec b s c s' => renaming_joinNext) ?_ ends
  exact ⟨fun _ => rfl, fun _ _ listed => (nomatch listed), fun _ member => (nomatch member)⟩

/-- A job that ends well has renamed the tokens of its joiners and nothing else of them. -/
def Renames (source : InventoryHost) (specs : List JoinerSpec) (db db' : DB) : Prop :=
  (∀ k, db'.tokenOf k = renamed source (specs.map (·.hostID)) db k) ∧
    ∀ spec ∈ specs, (db.tokenOf spec.hostID).isSome

theorem yields_runJob {founder : InventoryHost} {joiners : List InventoryHost}
    {req : StartJobRequest} {id : String} {w w' : World}
    (ends : Yields (runJob outside founder joiners req) w id w') :
    Renames founder req.joiners w.db w'.db := by
  obtain ⟨_, w1, asked, ends⟩ := yields_bind.mp ends
  obtain ⟨_, w2, authenticated, ends⟩ := yields_bind.mp ends
  obtain ⟨_, w3, built, ends⟩ := yields_bind.mp ends
  obtain ⟨_, w4, started, ends⟩ := yields_bind.mp ends
  obtain ⟨_, w5, created, ends⟩ := yields_bind.mp ends
  obtain ⟨_, w6, waited, ends⟩ := yields_bind.mp ends
  obtain ⟨_, w7, finished, ends⟩ := yields_bind.mp ends
  obtain ⟨_, w8, marked, ends⟩ := yields_bind.mp ends
  obtain ⟨_, w9, fetching, ends⟩ := yields_bind.mp ends
  obtain ⟨_, w10, fetched, ends⟩ := yields_bind.mp ends
  obtain ⟨info, w11, informed, ends⟩ := yields_bind.mp ends
  obtain ⟨_, w12, noted, ends⟩ := yields_bind.mp ends
  obtain ⟨updates, w13, joined, ends⟩ := yields_bind.mp ends
  obtain ⟨_, w14, updating, ends⟩ := yields_bind.mp ends
  obtain ⟨uuid, w15, numbered, ends⟩ := yields_bind.mp ends
  obtain ⟨formed, w16, written, ends⟩ := yields_bind.mp ends
  obtain ⟨cluster, w17, persisted, ends⟩ := yields_bind.mp ends
  have before : w12.db = w.db := by
    rw [quiet_setStep _ _ _ _ _ _ noted, quiet_orFail _ _ _ _ _ _ _ informed,
      quiet_retryJoinInfo (quiet_joinInfoAttempt _ _) _ _ _ _ _ fetched,
      quiet_setStep _ _ _ _ _ _ fetching, quiet_setStep _ _ _ _ _ _ marked,
      quiet_orFail _ _ _ _ _ _ _ finished, quiet_ask _ _ _ _ waited,
      quiet_createCluster _ _ _ _ _ _ created, quiet_setStep _ _ _ _ _ _ started,
      quiet_orThrow _ _ _ _ built, quiet_orThrow _ _ _ _ authenticated,
      quiet_ask _ _ _ _ asked]
  have joining := yields_joinAll joined
  rw [before] at joining
  have between : w15.db = w13.db :=
    (quiet_ask _ _ _ _ numbered).trans (quiet_setStep _ _ _ _ _ _ updating)
  obtain ⟨rfl, rfl⟩ := yields_orFail.mp persisted
  obtain ⟨db, ok, rfl⟩ := yields_write.mp written
  rw [between] at ok
  obtain ⟨_, w18, ended, ends⟩ := yields_bind.mp ends
  obtain ⟨_, w19, told, ends⟩ := yields_bind.mp ends
  obtain ⟨rfl, rfl⟩ := yields_pure.mp ends
  have after : w19.db = db :=
    (quiet_tellPoller _ _ _ _ told).trans (quiet_setStep _ _ _ _ _ _ ended)
  refine ⟨fun k => ?_, joining.known⟩
  rw [after, ← joining.tokens]
  exact tokenOf_formClusterFromHosts joining.stored ok

theorem yields_runJoinHostsJob {cluster : Cluster} {sourceHost : InventoryHost}
    {joiners : List InventoryHost} {req : StartJoinHostsJobRequest} {id : String} {w w' : World}
    (ends : Yields (runJoinHostsJob outside cluster sourceHost joiners req) w id w') :
    Renames sourceHost req.joiners w.db w'.db := by
  obtain ⟨client, w1, built, ends⟩ := yields_bind.mp ends
  obtain ⟨_, w2, started, ends⟩ := yields_bind.mp ends
  obtain ⟨_, w3, fetched, ends⟩ := yields_bind.mp ends
  obtain ⟨info, w4, informed, ends⟩ := yields_bind.mp ends
  obtain ⟨_, w5, noted, ends⟩ := yields_bind.mp ends
  obtain ⟨updates, w6, joined, ends⟩ := yields_bind.mp ends
  obtain ⟨_, w7, updating, ends⟩ := yields_bind.mp ends
  obtain ⟨added, w8, written, ends⟩ := yields_bind.mp ends
  obtain ⟨_, w9, persisted, ends⟩ := yields_bind.mp ends
  have attempt : Quiet (do
      let answer ← ask (outside.joinInfo · client sourceHost.nodeName)
      pure (withFingerprint answer) : Run (Except String ClusterJoinInfo)) :=
    quiet_bind (quiet_ask _) fun _ => quiet_pure _
  have before : w5.db = w.db := by
    rw [quiet_setStep _ _ _ _ _ _ noted, quiet_orFail _ _ _ _ _ _ _ informed,
      quiet_retryJoinInfo attempt _ _ _ _ _ fetched, quiet_setStep _ _ _ _ _ _ started,
      quiet_orThrow _ _ _ _ built]
  have joining := yields_joinAll joined
  rw [before] at joining
  have between : w7.db = w6.db := quiet_setStep _ _ _ _ _ _ updating
  obtain ⟨rfl, rfl⟩ := yields_orFail.mp persisted
  obtain ⟨db, ok, rfl⟩ := yields_write.mp written
  rw [between] at ok
  obtain ⟨db', moved, same⟩ := map_eq_ok_iff.mp ok
  obtain rfl : db' = db := congrArg Prod.snd same
  obtain ⟨_, w10, ended, ends⟩ := yields_bind.mp ends
  obtain ⟨_, w11, reread, ends⟩ := yields_bind.mp ends
  obtain ⟨_, w12, told, ends⟩ := yields_bind.mp ends
  obtain ⟨rfl, rfl⟩ := yields_pure.mp ends
  have after : w12.db = db' :=
    ((quiet_tellPoller _ _ _ _ told).trans (quiet_getHost _ _ _ _ reread)).trans
      (quiet_setStep _ _ _ _ _ _ ended)
  refine ⟨fun k => ?_, joining.known⟩
  rw [after, ← joining.tokens]
  exact tokenOf_addHostsToCluster joining.stored moved

/-- Every joined host stores the token of the founder or source. -/
def TokensCoherent (o : Orchestration) (db : DB) : Prop :=
  ∀ spec ∈ o.specs, db.tokenOf spec.hostID = some o.source.token

instance (o : Orchestration) (db : DB) : Decidable (TokensCoherent o db) :=
  inferInstanceAs (Decidable (∀ spec ∈ o.specs, _ = _))

theorem renames_of_succeeded {o : Orchestration} {w : World}
    (succeeded : (o.finish outside w).job.state = .succeeded) :
    Renames o.source o.specs w.db (o.finish outside w).db := by
  rw [Orchestration.finish] at succeeded ⊢
  rcases ended : exec (o.body outside) w with ⟨message | id, w'⟩
  · rw [ended] at succeeded
    exact nomatch succeeded
  · have renames : Renames o.source o.specs w.db w'.db := by
      cases o with
      | runJob founder joiners req =>
          have ends : Yields (runJob outside founder joiners req) w id w' := ended
          exact yields_runJob ends
      | runJoinHostsJob cluster sourceHost joiners req =>
          have ends : Yields (runJoinHostsJob outside cluster sourceHost joiners req) w id w' :=
            ended
          exact yields_runJoinHostsJob ends
    exact renames

/-- A job that succeeded has left coherent tokens exactly when the joiners stored the
source's secret before. -/
theorem tokensCoherent_iff {o : Orchestration} {w : World}
    (succeeded : (o.finish outside w).job.state = .succeeded) :
    TokensCoherent o (o.finish outside w).db ↔
      ∀ spec ∈ o.specs, trimSpace o.source.tokenID = o.source.tokenID ∧
        ∃ host, w.db.row spec.hostID = some host ∧
          host.tokenSecret = o.source.tokenSecret := by
  obtain ⟨tokens, known⟩ := renames_of_succeeded succeeded
  refine forall_congr' fun spec => forall_congr' fun listed => ?_
  obtain ⟨host, there⟩ : ∃ host, w.db.row spec.hostID = some host := by
    have stored := known spec listed
    simpa [DB.tokenOf, Option.isSome_iff_exists] using stored
  rw [tokens, renamed, if_pos (List.mem_map_of_mem listed), DB.tokenOf, there]
  simp [InventoryHost.token]

/-- A host of the lab with its token. -/
def labHost (id address secret : String) : InventoryHost :=
  ⟨id, "", "", address, "root@pam!pcenter", secret, true, .online, "", id⟩

def labDB (joinerSecret : String) : DB :=
  ⟨["dc1"], [], [{ labHost "h1" "10.0.0.1:8006" "s1" with datacenterID := "dc1" },
    { labHost "h2" "10.0.0.2:8006" joinerSecret with datacenterID := "dc1" }]⟩

/-- Remote calls that succeed. -/
def labOutside : Outside where
  authenticate _ _ _ := .ok ⟨"ticket", "csrf"⟩
  clusterCreate _ _ _ _ _ := .ok "UPID:create"
  cleanupCorosyncOverSSH _ _ _ := .ok ()
  waitForTask _ _ _ := .ok ()
  joinInfoWithPassword _ _ _ _ := .ok ⟨"AA:BB"⟩
  joinInfo _ _ _ := .ok ⟨"AA:BB"⟩
  clusterJoin _ _ _ _ := .ok "UPID:join"
  discoverClusterNodes _ _ := [.ok [⟨"h1", 1⟩, ⟨"h2", 1⟩]]
  cancelled _ := false
  uuid _ := "c1"
  hasPoller := true

def labRequest : StartJobRequest := ⟨"lab", "dc1", "h1", "pw", "", [⟨"h2", "pw", ""⟩]⟩

/-- What `startJob` starts for the request. -/
def labJob (joinerSecret : String) : Orchestration :=
  .runJob (labHost "h1" "10.0.0.1:8006" "s1") [labHost "h2" "10.0.0.2:8006" joinerSecret]
    labRequest

def labWorld (joinerSecret : String) : World :=
  ⟨labDB joinerSecret, seed "j1" "lab" "dc1" (labHost "h1" "10.0.0.1:8006" "s1")
    [.createCluster, .fetchJoinInfo] labRequest.joiners, [], 0⟩

example (joinerSecret : String) :
    startJob (labDB joinerSecret) "j1" labRequest =
      .ok ((labWorld joinerSecret).job, labJob joinerSecret) := rfl

theorem labJob_sharedSecret_coherent :
    TokensCoherent (labJob "s1") ((labJob "s1").finish labOutside (labWorld "s1")).db := by
  have succeeded : ((labJob "s1").finish labOutside (labWorld "s1")).job.state = .succeeded := rfl
  refine (tokensCoherent_iff succeeded).mpr ?_
  intro spec listed
  obtain rfl : spec = ⟨"h2", "pw", ""⟩ := List.mem_singleton.mp listed
  exact ⟨rfl, _, rfl, rfl⟩

/-- The joiner's row ends up with the founder's token name next to its own old secret. -/
theorem labJob_ownSecret_incoherent :
    ((labJob "s2").finish labOutside (labWorld "s2")).job.state = .succeeded ∧
      ¬TokensCoherent (labJob "s2") ((labJob "s2").finish labOutside (labWorld "s2")).db :=
  ⟨rfl, by decide⟩

end Tokens

end PveCluster
