import PCenter.Lib.FiniteMap
import PCenter.Lib.Program

/-!
# Destroying Ceph on a cluster

The destroy job of `internal/cephcluster`. Whatever its remote calls answer, the job goes on:
it deletes the resources of each kind in turn, purges every node and then decides how it
ended. A job is a program of updates of its own record and of remote calls; its history tells
each call with its answer. The purges run at the same time, but each touches only the step
of its own node, so here they run one after another. Texts of steps, task identifiers of
steps and time stamps are left out, and so is the registry of jobs.
-/

namespace CephCluster

open Program

inductive JobState where
  | running
  | succeeded
  | failed
  deriving DecidableEq, Repr

inductive StepState where
  | pending
  | running
  | succeeded
  | failed
  deriving DecidableEq, Repr

inductive StepPhase where
  | installPreflight
  | installPackages
  | cephInit
  | createMON
  | createMGR
  | waitHealthy
  | destroyPreflight
  | setNoout
  | deletePools
  | deleteFS
  | deleteMDS
  | deleteOSD
  | deleteMGR
  | deleteMON
  | cephPurge
  deriving DecidableEq, Repr

structure Step where
  host : String
  phase : StepPhase
  state : StepState
  deriving DecidableEq, Repr

structure Job where
  cluster : String
  state : JobState
  error : String
  steps : List Step
  deriving DecidableEq, Repr

namespace Job

/-- `setStep`: the first step of the host and the phase, or a new one. -/
def setStep (host : String) (phase : StepPhase) (state : StepState) (job : Job) : Job :=
  { job with steps := go job.steps }
where
  go : List Step → List Step
    | [] => [⟨host, phase, state⟩]
    | step :: rest =>
        if step.host = host ∧ step.phase = phase then { step with state := state } :: rest
        else step :: go rest

/-- The state of the step that `setStep` finds. -/
def stepState (job : Job) (host : String) (phase : StepPhase) : Option StepState :=
  (job.steps.find? fun step => step.host = host ∧ step.phase = phase).map Step.state

end Job

/-- What a job does to its own record. -/
inductive Update where
  | startStep (host : String) (phase : StepPhase)
  | succeedStep (host : String) (phase : StepPhase)
  | failStep (host : String) (phase : StepPhase)
  | markFailed (error : String)
  | markSucceeded
  deriving DecidableEq, Repr

def Update.apply : Update → Job → Job
  | startStep host phase => Job.setStep host phase .running
  | succeedStep host phase => Job.setStep host phase .succeeded
  | failStep host phase => Job.setStep host phase .failed
  | markFailed error => fun job => { job with state := .failed, error := error }
  | markSucceeded => fun job => { job with state := .succeeded }

/-- The kinds of resources that are deleted before the purge. -/
inductive Kind where
  | fs
  | pool
  | mds
  | osd
  | mgr
  | mon
  deriving DecidableEq, Repr

/-- `CephMDS`, `CephMGR` and `CephMON`, as far as they are read. -/
structure Daemon where
  name : String
  host : String
  deriving DecidableEq, Repr

/-- `CephOSD`, as far as it is read. -/
structure OSD where
  id : Int64
  host : String
  deriving DecidableEq, Repr

/-- An entry of `ListCephFS`, `ListCephPools` and so on. -/
abbrev Item : Kind → Type
  | .fs | .pool => String
  | .osd => OSD
  | .mds | .mgr | .mon => Daemon

/-- A pipeline of the remote shell. -/
structure CommandLine where
  programs : List String
  deriving DecidableEq, Repr

def CommandLine.text (line : CommandLine) : String := " | ".intercalate line.programs

/-- Without `set -o pipefail` a pipeline exits with the status of its last program. -/
def CommandLine.exitStatus (line : CommandLine) (statuses : String → Nat) : Nat :=
  (line.programs.getLast?.map statuses).getD 0

def purgeProgram : String := "pveceph purge --crash --logs 2>&1"

def purgeLine : CommandLine := ⟨[purgeProgram, "tail -50"]⟩

example : purgeLine.text = "pveceph purge --crash --logs 2>&1 | tail -50" := by decide

/-- A call to the outside, through the client of a node. Deletions pass the options that the
code always passes. -/
inductive Remote where
  | getCephStatus (via : String)
  | setCephFlag (via flag : String) (value : Bool)
  | list (kind : Kind) (via : String)
  | delete (kind : Kind) (via : String) (item : Item kind)
  | waitForTask (via upid : String)
  | runSSHCommand (via host : String) (line : CommandLine)
  | getNodeDetails (via : String)
  | runSSHScript (via host script : String)
  | initCephCluster (via network clusterNetwork : String) (size minSize : Int64)
  | createCephMON (via : String)
  | createCephMGR (via : String)
  /-- `getCephStatus`, for its health. -/
  | cephHealth (via : String)
  /-- How often the health is asked for before the deadline. -/
  | pollsBeforeDeadline

abbrev Reply : Remote → Type
  | .getCephStatus _ => Except String Unit
  | .setCephFlag _ _ _ => Except String Unit
  | .list kind _ => Except String (List (Item kind))
  | .delete _ _ _ => Except String String
  | .waitForTask _ _ => Except String Unit
  /- The exit status of every program of the line. -/
  | .runSSHCommand _ _ _ => String → Nat
  /- The version of the node. -/
  | .getNodeDetails _ => Except String String
  | .runSSHScript _ _ _ => Except String Unit
  | .initCephCluster _ _ _ _ _ => Except String Unit
  /- The task. -/
  | .createCephMON _ | .createCephMGR _ => Except String String
  | .cephHealth _ => Except String String
  | .pollsBeforeDeadline => ℕ

inductive Cmd where
  | update (u : Update)
  | steps
  | call (remote : Remote)

abbrev Answer : Cmd → Type
  | .update _ => Unit
  | .steps => List Step
  | .call remote => Reply remote

abbrev Code := Prog Cmd Answer

def issue (c : Cmd) : Code (Answer c) := ask c

def update (u : Update) : Code Unit := issue (.update u)

/-- The node names with their hosts, in map order. -/
abbrev Clients := FiniteMap.Map String String

section Code

variable (clients : Clients) (lead : String)

def phaseOf : Kind → StepPhase
  | .fs => .deleteFS
  | .pool => .deletePools
  | .mds => .deleteMDS
  | .osd => .deleteOSD
  | .mgr => .deleteMGR
  | .mon => .deleteMON

/-- The client of a resource's host, or the lead. -/
def clientOf (host : String) : String := if host ∈ clients then host else lead

/-- The client through which a resource is deleted. -/
def routeOf : (kind : Kind) → Item kind → String
  | .fs, _ | .pool, _ => lead
  | .osd, osd => clientOf clients lead osd.host
  | .mds, daemon | .mgr, daemon | .mon, daemon => clientOf clients lead daemon.host

/-- Every item in turn; the failures are collected. -/
def collect {A : Type} (delete : A → Code (Except String Unit)) : List A → Code (List String)
  | [] => pure []
  | item :: rest => do
      let deleted ← delete item
      let errs ← collect delete rest
      match deleted with
      | .ok _ => pure errs
      | .error err => pure (err :: errs)

def endStep (phase : StepPhase) (errs : List String) : Code Unit :=
  if errs.length > 0 then update (.failStep "" phase) else update (.succeedStep "" phase)

def deleteItem (kind : Kind) (item : Item kind) : Code (Except String Unit) := do
  let deleted ← issue (.call (.delete kind (routeOf clients lead kind item) item))
  match deleted with
  | .ok _ => pure (.ok ())
  | .error err => pure (.error err)

/-- A phase that takes a list it cannot get for empty. -/
def deletePhase (kind : Kind) : Code Unit := do
  update (.startStep "" (phaseOf kind))
  let listed ← issue (.call (.list kind lead))
  let errs ← collect (deleteItem clients lead kind) (listed.toOption.getD [])
  endStep (phaseOf kind) errs

def deleteFS : Code Unit := deletePhase clients lead .fs

def deletePools : Code Unit := deletePhase clients lead .pool

def deleteMDSs : Code Unit := deletePhase clients lead .mds

def deleteOSD (osd : OSD) : Code (Except String Unit) := do
  let client := clientOf clients lead osd.host
  let deleted ← issue (.call (.delete .osd client osd))
  match deleted with
  | .error err => pure (.error err)
  | .ok upid => issue (.call (.waitForTask client upid))

/-- The only phase that fails when it cannot get its list, and that waits for its tasks. -/
def deleteOSDs : Code Unit := do
  update (.startStep "" .deleteOSD)
  let listed ← issue (.call (.list .osd lead))
  match listed with
  | .error _ => update (.failStep "" .deleteOSD)
  | .ok osds => do
      let errs ← collect (deleteOSD clients lead) osds
      endStep .deleteOSD errs

def deleteMGRs : Code Unit := deletePhase clients lead .mgr

def deleteMONs : Code Unit := deletePhase clients lead .mon

/-- Everything before the last colon. -/
def stripPort (hostPort : String) : String :=
  match hostPort.toList.reverse.dropWhile (· ≠ ':') with
  | _ :: before => String.ofList before.reverse
  | [] => hostPort

def purgeNode (client : Sigma fun _ : String => String) : Code Unit := do
  update (.startStep client.1 .cephPurge)
  let statuses ← issue (.call (.runSSHCommand client.1 (stripPort client.2) purgeLine))
  if purgeLine.exitStatus statuses ≠ 0 then update (.failStep client.1 .cephPurge)
  else update (.succeedStep client.1 .cephPurge)

def runPurgeAcrossNodes : Code Unit := clients.entries.forM purgeNode

def purgeFailed (attempted : Nat) : String :=
  "destroy did not complete: pveceph purge failed on all " ++ toString attempted ++
    " node(s). The cluster is in a partially-torn-down state. Recovery: SSH each node and run " ++
    "`pveceph purge --crash --logs` manually to inspect, then re-run destroy once the " ++
    "underlying cause (typically leftover OSDs or MONs) is fixed."

def finalizeDestroyResult : Code Unit := do
  let steps ← issue .steps
  let purges := steps.filter (·.phase = .cephPurge)
  let attempted := purges.length
  let succeeded := (purges.filter (·.state = .succeeded)).length
  if attempted > 0 ∧ succeeded = 0 then update (.markFailed (purgeFailed attempted))
  else update .markSucceeded

def setNoout : Code Unit := do
  update (.startStep "" .setNoout)
  let set ← issue (.call (.setCephFlag lead "noout" true))
  match set with
  | .error _ => update (.failStep "" .setNoout)
  | .ok _ => update (.succeedStep "" .setNoout)

/-- The phases between the preflight and the purge. -/
def teardown : Code Unit := do
  setNoout lead
  deleteFS clients lead
  deletePools clients lead
  deleteMDSs clients lead
  deleteOSDs clients lead
  deleteMGRs clients lead
  deleteMONs clients lead

/-- The job. The lead is the first client; there is one when a job is started. -/
def runDestroy : Code Unit :=
  match clients.entries with
  | [] => pure ()
  | first :: _ => do
      let lead := first.1
      update (.startStep "" .destroyPreflight)
      let status ← issue (.call (.getCephStatus lead))
      match status with
      | .error _ => do
          update (.succeedStep "" .destroyPreflight)
          runPurgeAcrossNodes clients
          finalizeDestroyResult
      | .ok _ => do
          update (.succeedStep "" .destroyPreflight)
          teardown clients lead
          runPurgeAcrossNodes clients
          finalizeDestroyResult

end Code

def destroyClusterPhases : List StepPhase :=
  [.destroyPreflight, .setNoout, .deleteFS, .deletePools, .deleteMDS, .deleteOSD, .deleteMGR,
    .deleteMON]

structure DestroyRequest where
  cluster : String
  confirm : String

/-- Why a job is not started. -/
inductive Refused where
  | clusterRequired
  | notConfirmed
  | noClients
  deriving DecidableEq, Repr

/-- `StartDestroy`: the record of the job that is started. -/
def startDestroy (clients : Clients) (req : DestroyRequest) : Except Refused Job :=
  if req.cluster = "" then .error .clusterRequired
  else if req.confirm ≠ req.cluster then .error .notConfirmed
  else if clients.entries.length = 0 then .error .noClients
  else
    .ok ⟨req.cluster, .running, "",
      destroyClusterPhases.map (⟨"", ·, .pending⟩) ++
        clients.entries.map fun client => ⟨client.1, .cephPurge, .pending⟩⟩

/-- The job's record, and how many remote calls were answered. -/
structure World where
  job : Job
  asked : Nat

/-- What the outside answers to a call, by the number of the call. -/
abbrev Outside := Nat → (remote : Remote) → Reply remote

def serve (outside : Outside) : (c : Cmd) → World → Option (Answer c × World)
  | .update u, w => some ((), { w with job := u.apply w.job })
  | .steps, w => some (w.job.steps, w)
  | .call remote, w => some (outside w.asked remote, { w with asked := w.asked + 1 })

abbrev Entry := Sigma Answer

/-- A job that was started has run with this history and has left this record. -/
def Destroyed (outside : Outside) (clients : Clients) (req : DestroyRequest) (h : List Entry)
    (job : Job) : Prop :=
  ∃ begun w, startDestroy clients req = .ok begun ∧
    Ran (serve outside) (runDestroy clients) ⟨begun, 0⟩ h () w ∧ w.job = job

end CephCluster
