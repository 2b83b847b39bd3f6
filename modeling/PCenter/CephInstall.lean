import PCenter.CephCluster

/-!
# Installing Ceph on a cluster

The install job of `internal/cephcluster`. It stops at the first phase that fails. Packages are
installed on all nodes at the same time, but an installation sets nothing but the message of its
own step and its own result, so here they run one after another. The task identifier and the
message of a step are set after the step was started, so that leaving them out adds no step.
-/

namespace CephCluster

open Program

structure InstallRequest where
  cluster : String
  nodes : List String
  network : String
  clusterNetwork : String
  poolSize : Int64
  minSize : Int64
  deriving DecidableEq, Repr

/-- The steps of the whole plan. -/
def seededSteps (nodes : List String) (founder : String) : List Step :=
  nodes.map (⟨·, .installPreflight, .pending⟩) ++ nodes.map (⟨·, .installPackages, .pending⟩) ++
    [⟨founder, .cephInit, .pending⟩] ++ nodes.map (⟨·, .createMON, .pending⟩) ++
      [⟨founder, .createMGR, .pending⟩] ++ [⟨"", .waitHealthy, .pending⟩]

/-- `StartInstall`: the request with its defaults, and the record of the job that is started. -/
def startInstall (req : InstallRequest) : Except String (InstallRequest × Job) :=
  if req.cluster = "" then .error "cluster is required"
  else
    match req.nodes with
    | [] => .error "at least one node is required"
    | founder :: _ =>
        if req.network = "" then .error "network CIDR is required"
        else
          match req.nodes.findIdx? (· = "") with
          | some i => .error ("node[" ++ toString i ++ "] is empty")
          | none =>
              .ok ({ req with
                  poolSize := if req.poolSize = 0 then 3 else req.poolSize
                  minSize := if req.minSize = 0 then 2 else req.minSize },
                ⟨req.cluster, .running, "", seededSteps req.nodes founder⟩)

/-- What the texts of a job take from the language. -/
structure Formats where
  /-- A string in quotes. -/
  quote : String → String
  /-- The keys of a map, in the order in which they are come upon. -/
  ranged : List String → List String

/-- A step fails, if one is named, and the job with it. -/
def fail (step : Option (String × StepPhase)) (err : String) : Code Unit := do
  match step with
  | some (host, phase) => if host ≠ "" then update (.failStep host phase) else pure ()
  | none => pure ()
  update (.markFailed err)

structure HostPreflightResult where
  node : String
  reachable : Bool
  pveVersion : String
  pveMajor : String
  cephAlready : Bool
  blockers : List String
  deriving DecidableEq, Repr

structure PreflightResponse where
  hosts : List HostPreflightResult
  canProceed : Bool
  networkOK : Bool
  message : String
  deriving DecidableEq, Repr

/-- The part of a version before the first dot. -/
def majorVersion (v : String) : String := String.ofList (v.toList.takeWhile (· ≠ '.'))

section Code

variable (fmt : Formats) (clients : Clients)

def checkHost (node : String) : Code HostPreflightResult :=
  if node ∈ clients then do
    let details ← issue (.call (.getNodeDetails node))
    match details with
    | .error err => pure ⟨node, false, "", "", false, ["unreachable: " ++ err]⟩
    | .ok version => do
        let status ← issue (.call (.getCephStatus node))
        match status with
        | .ok _ =>
            pure ⟨node, true, version, majorVersion version, true,
              ["Ceph is already installed on this node"]⟩
        | .error _ => pure ⟨node, true, version, majorVersion version, false, []⟩
  else pure ⟨node, false, "", "", false, ["no PVE client available for this node"]⟩

def checkHosts : List String → Code (List HostPreflightResult)
  | [] => pure []
  | node :: rest => do
      let hr ← checkHost clients node
      let others ← checkHosts rest
      pure (hr :: others)

/-- The major versions that the hosts report, each once. -/
def majors (hosts : List HostPreflightResult) : List String :=
  ((hosts.map (·.pveMajor)).filter (· ≠ "")).dedup

def mismatch (majors : List String) : String :=
  "PVE major-version mismatch across targets: [" ++ " ".intercalate majors ++
    "]. All hosts should be on the same major release before installing Ceph."

def runInstallPreflight (nodes : List String) : Code PreflightResponse := do
  let hosts ← checkHosts clients nodes
  if (majors hosts).length > 1 then
    pure ⟨hosts, false, true, mismatch (fmt.ranged (majors hosts))⟩
  else pure ⟨hosts, hosts.all (·.blockers.isEmpty), true, ""⟩

def endPreflight (hr : HostPreflightResult) : Code Unit :=
  if hr.blockers.length > 0 then update (.failStep hr.node .installPreflight)
  else update (.succeedStep hr.node .installPreflight)

def runInstallPreflightPhase (nodes : List String) : Code Bool := do
  nodes.forM fun node => update (.startStep node .installPreflight)
  let pre ← runInstallPreflight fmt clients nodes
  pre.hosts.forM endPreflight
  if pre.canProceed then pure true
  else do
    fail none ("preflight failed: " ++ pre.message)
    pure false

def installScript : String :=
  "set -o pipefail; " ++
    "pveceph install --repository no-subscription 2>&1 | tail -200; " ++
    "DEBIAN_FRONTEND=noninteractive apt-get install -y " ++
    "--no-install-recommends --allow-downgrades ceph ceph-volume 2>&1 | tail -50; " ++
    "test -x /usr/bin/ceph-mon && test -x /usr/sbin/ceph-volume"

/-- How the installation on a node ended. -/
abbrev Results := FiniteMap.Map String (Except String Unit)

/-- The host of a node, with its port. -/
def hostOf (node : String) : String := (clients.lookup node).getD ""

def installOnNodes (results : Results) : List String → Code Results
  | [] => pure results
  | node :: rest => do
      update (.startStep node .installPackages)
      let err ← issue (.call (.runSSHScript node (stripPort (hostOf clients node)) installScript))
      installOnNodes (results.insert node err) rest

/-- The nodes on which the installation failed. -/
def markResults (results : Results) : List String → Code (List String)
  | [] => pure []
  | node :: rest =>
      match results.lookup node with
      | some (.error _) => do
          update (.failStep node .installPackages)
          let failed ← markResults results rest
          pure (node :: failed)
      | _ => do
          update (.succeedStep node .installPackages)
          markResults results rest

def packagesFailed (failed : List String) : String :=
  "ceph package install failed on: " ++ ", ".intercalate failed ++
    ". Recovery: SSH each failed node and run `apt-get install -y --no-install-recommends ceph` " ++
    "to see the apt error directly, then retry the wizard once apt is unblocked. Common causes: " ++
    "enterprise repo selected without a subscription (use --repository no-subscription), version " ++
    "skew between an existing ceph-common and the daemon packages, or a held package preventing " ++
    "the install."

def runInstallPackagesPhase (nodes : List String) : Code Bool := do
  let results ← installOnNodes clients ∅ nodes
  let failed ← markResults results nodes
  if failed.length > 0 then do
    fail none (packagesFailed failed)
    pure false
  else pure true

def initFailed (host err : String) : String :=
  "pveceph init failed on " ++ host ++ ": " ++ err ++
    ". Recovery: SSH the founder and run `pveceph purge` to fully reset, then re-run the wizard."

/-- The client of a node has the name of the node. -/
def runCephInitPhase (req : InstallRequest) (founder : String) : Code Bool := do
  update (.startStep founder .cephInit)
  let err ← issue (.call
    (.initCephCluster founder req.network req.clusterNetwork req.poolSize req.minSize))
  match err with
  | .error err => do
      update (.failStep founder .cephInit)
      fail none (initFailed founder err)
      pure false
  | .ok _ => do
      update (.succeedStep founder .cephInit)
      pure true

/-- A daemon is created on a node, and the task is waited for. -/
def createDaemon (node : String) (phase : StepPhase) (create : Code (Except String String))
    (failed timedOut : String → String) : Code Bool := do
  update (.startStep node phase)
  let created ← create
  match created with
  | .error err => do
      update (.failStep node phase)
      fail none (failed err)
      pure false
  | .ok upid => do
      let waited ← issue (.call (.waitForTask node upid))
      match waited with
      | .error err => do
          update (.failStep node phase)
          fail none (timedOut err)
          pure false
      | .ok _ => do
          update (.succeedStep node phase)
          pure true

def createMON (node : String) : Code Bool :=
  createDaemon node .createMON (issue (.call (.createCephMON node)))
    (fun err => "MON create on " ++ node ++ " failed: " ++ err ++
      ". Recovery: pveceph mon destroy " ++ node ++ " on the founder, then retry the wizard.")
    (fun err => "MON create on " ++ node ++ " timed out: " ++ err)

def runCreateMONsPhase : List String → Code Bool
  | [] => pure true
  | node :: rest => do
      let created ← createMON node
      if created then runCreateMONsPhase rest else pure false

def runCreateMGRPhase (founder : String) : Code Bool :=
  createDaemon founder .createMGR (issue (.call (.createCephMGR founder)))
    (fun err => "MGR create on " ++ founder ++ " failed: " ++ err ++
      ". Recovery: pveceph mgr destroy " ++ founder ++ " and retry, or add the MGR via the " ++
      "Monitors tab once the install completes.")
    (fun err => "MGR create on " ++ founder ++ " timed out: " ++ err)

def IsHealthy (health : String) : Prop := health = "HEALTH_OK" ∨ health = "HEALTH_WARN"

instance decidableIsHealthy (health : String) : Decidable (IsHealthy health) :=
  inferInstanceAs (Decidable (_ ∨ _))

/-- Whether the cluster is healthy in one of the polls that are left. -/
def pollHealth (founder : String) : ℕ → Code Bool
  | 0 => pure false
  | polls + 1 => do
      let status ← issue (.call (.cephHealth founder))
      match status with
      | .ok health => if IsHealthy health then pure true else pollHealth founder polls
      | .error _ => pollHealth founder polls

def runWaitHealthyPhase (founder : String) : Code Bool := do
  update (.startStep "" .waitHealthy)
  let polls ← issue (.call .pollsBeforeDeadline)
  let healthy ← pollHealth founder polls
  if healthy then do
    update (.succeedStep "" .waitHealthy)
    pure true
  else do
    update (.failStep "" .waitHealthy)
    fail none
      "timed out waiting for cluster health. Install probably succeeded; check the Status tab."
    pure false

/-- What follows a phase that succeeds. -/
def proceed (phase : Code Bool) (next : Code Unit) : Code Unit := do
  let succeeded ← phase
  if succeeded then next else pure ()

def noClient (node cluster : String) : String :=
  "no PVE client for node " ++ node ++ " — is it part of cluster " ++ fmt.quote cluster ++ "?"

/-- The job. There is a node when a job is started. -/
def runInstall (req : InstallRequest) : Code Unit :=
  match req.nodes with
  | [] => pure ()
  | founder :: _ =>
      match req.nodes.find? (· ∉ clients) with
      | some node => fail (some (node, .installPreflight)) (noClient fmt node req.cluster)
      | none =>
          proceed (runInstallPreflightPhase fmt clients req.nodes)
            (proceed (runInstallPackagesPhase clients req.nodes)
              (proceed (runCephInitPhase req founder)
                (proceed (runCreateMONsPhase req.nodes)
                  (proceed (runCreateMGRPhase founder)
                    (proceed (runWaitHealthyPhase founder) (update .markSucceeded))))))

end Code

/-- A job that was started has run with this history and has left this record. -/
def Installed (fmt : Formats) (outside : Outside) (clients : Clients) (req : InstallRequest)
    (h : List Entry) (job : Job) : Prop :=
  ∃ asked begun w, startInstall req = .ok (asked, begun) ∧
    Ran (serve outside) (runInstall fmt clients asked) ⟨begun, 0⟩ h () w ∧ w.job = job

inductive Request where
  | install (req : InstallRequest)
  | destroy (req : DestroyRequest)

section Lab

def plainFormats : Formats := ⟨fun text => text, fun keys => keys⟩

def labInstall : InstallRequest := ⟨"lab", ["pve1", "pve2"], "10.0.0.0/24", "", 0, 0⟩

end Lab

end CephCluster
