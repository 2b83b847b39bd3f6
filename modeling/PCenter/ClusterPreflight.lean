import PCenter.PveCluster
import PCenter.Lib.FiniteMap

/-!
# What is checked before a cluster job

`Preflight` and `JoinHostsPreflight` look a request over before it is made, `StartJob` and
`StartJoinHostsJob` when it is made, each with checks of its own. What the hosts answer to the
probes, and the order in which a Go map is gone through, come from outside.
-/

namespace ClusterPreflight

open GoText Inventory PveCluster

section Requests

structure PreflightRequest where
  clusterName : String
  founderHostID : String
  joinerHostIDs : List String

structure JoinHostsPreflightRequest where
  clusterID : String
  joinerHostIDs : List String

inductive Role where
  | founder
  | joiner
  deriving DecidableEq, Repr

structure HostPreflightResult where
  hostID : String
  address : String
  nodeName : String
  role : Role
  reachable : Bool
  alreadyInCluster : Bool
  vmCount : ℕ
  ctCount : ℕ
  pveVersion : String
  pveMajor : String
  blockers : List String
  deriving DecidableEq, Repr

structure PreflightResponse where
  clusterNameOK : Bool
  clusterNameMessage : String
  hosts : List HostPreflightResult
  canProceed : Bool
  deriving DecidableEq, Repr

/-- What a host answers through its client; none where the answer is an error that is dropped. -/
structure Client where
  /-- The names of the nodes. -/
  getNodes : Except String (List String)
  /-- The version of a node. -/
  getNodeDetails : String → Option String
  /-- The number of nodes. -/
  discoverClusterNodes : Option ℕ
  /-- The types of the guests. -/
  getClusterResources : Option (List String)

structure Env where
  newClient : InventoryHost → Option Client
  /-- The order of the versions. -/
  majors : List String

end Requests

section Names

/-- `clusterNameRe` -/
def nameChar (c : Char) : Bool :=
  'a' ≤ c && c ≤ 'z' || 'A' ≤ c && c ≤ 'Z' || '0' ≤ c && c ≤ '9' || c == '-'

/-- Empty for a name that is valid. -/
def validateClusterName (name : String) : String :=
  if ¬(1 ≤ name.toList.length ∧ name.toList.length ≤ 15 ∧ name.toList.all nameChar) then
    "must be 1-15 characters, letters/digits/dashes only"
  else if hasPrefix "-" name ∨ hasSuffix "-" name then "must not start or end with a dash"
  else ""

/-- The text before the first of the characters. -/
def before (c : Char) (s : String) : String := (cut c s).1

def majorVersion (v : String) : String :=
  before '.' (before '-' (if hasPrefix "pve-manager/" v then
    String.ofList (v.toList.drop "pve-manager/".length) else v))

example : ["8.2.4", "7.4-17", "pve-manager/8.0.3/abc", "9", ""].map majorVersion =
    ["8", "7", "8", "9", ""] := by decide

end Names

section Probes

/-- The node that is probed, and the name that is reported. -/
def target (host : InventoryHost) (nodes : List String) : String × String :=
  if host.nodeName ≠ "" ∧ host.nodeName ∈ nodes then (host.nodeName, host.nodeName)
  else (nodes.headD "", nodes.headD host.nodeName)

def blank (host : InventoryHost) (role : Role) : HostPreflightResult :=
  { hostID := host.id, address := host.address, nodeName := host.nodeName, role := role
    reachable := false, alreadyInCluster := false, vmCount := 0, ctCount := 0, pveVersion := ""
    pveMajor := "", blockers := [] }

def joinerHas (count : ℕ) (kind : String) : List String :=
  if count > 0 then
    ["joiner has " ++ toString count ++ " " ++ kind ++
      "(s); Proxmox refuses to join a node with guests — migrate or delete them first"]
  else []

/-- A host that answers at a node. -/
def probeNode (client : Client) (node name : String) (host : InventoryHost) (role : Role) :
    HostPreflightResult :=
  let version := (client.getNodeDetails node).getD ""
  let clustered := client.discoverClusterNodes.any (· > 1)
  let guests := client.getClusterResources.getD []
  { blank host role with
    nodeName := name, reachable := true, alreadyInCluster := clustered
    vmCount := guests.count "qemu", ctCount := guests.count "lxc"
    pveVersion := version, pveMajor := majorVersion version
    blockers := (if clustered then ["already a member of a Proxmox cluster"] else []) ++
      if role = .joiner then
        joinerHas (guests.count "qemu") "VM" ++ joinerHas (guests.count "lxc") "container"
      else [] }

def probeHost (env : Env) (host : InventoryHost) (role : Role) : HostPreflightResult :=
  match env.newClient host with
  | none =>
      { blank host role with
        blockers := ["failed to construct PVE client (missing credentials)"] }
  | some client =>
      match client.getNodes with
      | .error err => { blank host role with blockers := ["unreachable: " ++ err] }
      | .ok nodes =>
          let (node, name) := target host nodes
          if node = "" then
            { blank host role with
              nodeName := name, reachable := true, blockers := ["no nodes returned from /nodes"] }
          else probeNode client node name host role

/-- The hosts of a request: none is missing, and none is named twice. -/
def checkIDs : List String → List String → Except String Unit
  | _, [] => .ok ()
  | seen, id :: rest =>
      if id = "" then .error "empty host id in request"
      else if id ∈ seen then .error ("duplicate host " ++ id)
      else checkIDs (id :: seen) rest

/-- Each host is read and examined. -/
def examine (db : DB) (probe : InventoryHost → HostPreflightResult) :
    List String → Except String (List HostPreflightResult)
  | [] => .ok []
  | id :: rest =>
      match db.getHost id with
      | none => .error ("host " ++ id ++ " not found")
      | some host => do
          let results ← examine db probe rest
          .ok (probe host :: results)

end Probes

section Preflight

variable (env : Env) (db : DB)

/-- The name that is refused, and why. -/
def checkName (name : String) : Option String :=
  if validateClusterName name ≠ "" then some (validateClusterName name)
  else if (db.getClusterByName name).isSome then
    some ("cluster \"" ++ name ++ "\" already exists in pcenter")
  else none

/-- The version that most hosts have, the first of them in the map's order. -/
def majority (majors : List String) : String :=
  ((FiniteMap.inOrder env.majors majors.dedup).foldl
    (fun top major => if majors.count major > top.2 then (major, majors.count major) else top)
    ("", 0)).1

def mixed (top : String) (host : HostPreflightResult) : HostPreflightResult :=
  if host.pveMajor ≠ "" ∧ host.pveMajor ≠ top then
    { host with blockers := host.blockers ++
        ["PVE major version " ++ host.pveMajor ++ " doesn't match majority (" ++ top ++
          "); new clusters require matching majors"] }
  else host

/-- `Preflight` -/
def preflight (req : PreflightRequest) : Except String PreflightResponse := do
  let refusal := checkName db req.clusterName
  let ids := req.founderHostID :: req.joinerHostIDs
  checkIDs [] ids
  let hosts ← examine db
    (fun host => probeHost env host (if host.id = req.founderHostID then .founder else .joiner)) ids
  let majors := (hosts.map (·.pveMajor)).filter (· ≠ "")
  let clean := refusal.isNone && hosts.all (·.blockers.isEmpty)
  if majors.dedup.length > 1 then
    .ok ⟨refusal.isNone, refusal.getD "", hosts.map (mixed (majority env majors)), false⟩
  else .ok ⟨refusal.isNone, refusal.getD "", hosts, clean⟩

/-- The version of the first member of the cluster that tells one. -/
def existingMajor (hosts : List InventoryHost) : String :=
  ((hosts.filter (·.status = .online)).filterMap fun host =>
    (env.newClient host).bind fun client =>
      (client.getNodeDetails host.nodeName).map majorVersion).find? (· ≠ "") |>.getD ""

/-- A joiner beside the version of the cluster's members. -/
def examineJoiner (existing : String) (host : InventoryHost) : HostPreflightResult :=
  if host.clusterID ≠ "" then
    { blank host .joiner with blockers := ["host is already a member of a pcenter cluster"] }
  else
    let result := probeHost env host .joiner
    if existing ≠ "" ∧ result.pveMajor ≠ "" ∧ result.pveMajor ≠ existing then
      { result with blockers := result.blockers ++
          ["PVE major version " ++ result.pveMajor ++
            " doesn't match cluster's existing members (" ++ existing ++
            "); rolling upgrades aren't supported during join"] }
    else result

/-- `JoinHostsPreflight` -/
def joinHostsPreflight (req : JoinHostsPreflightRequest) : Except String PreflightResponse :=
  match db.getCluster req.clusterID with
  | none => .error "cluster not found"
  | some cluster =>
      if req.joinerHostIDs = [] then .error "at least one joiner host id is required"
      else do
        checkIDs [] req.joinerHostIDs
        let hosts ← examine db
          (examineJoiner env (existingMajor env (db.listHostsByCluster cluster.id)))
          req.joinerHostIDs
        .ok ⟨true, "", hosts, hosts.all (·.blockers.isEmpty)⟩

end Preflight

section Checks

variable {db : DB}

theorem checkIDs_ok_iff {seen ids : List String} :
    checkIDs seen ids = .ok () ↔
      (∀ id ∈ ids, id ≠ "") ∧ ids.Nodup ∧ ∀ id ∈ ids, id ∉ seen := by
  induction ids generalizing seen with
  | nil => simp [checkIDs]
  | cons id rest ih =>
      rw [checkIDs]
      split_ifs with empty known
      · simp [empty]
      · simp [known]
      · rw [ih]
        simp only [List.mem_cons, List.nodup_cons, forall_eq_or_imp, not_or]
        constructor
        · rintro ⟨named, distinct, unseen⟩
          exact ⟨⟨empty, named⟩, ⟨fun again => (unseen id again).1 rfl, distinct⟩, known,
            fun other member => (unseen other member).2⟩
        · rintro ⟨⟨-, named⟩, ⟨once, distinct⟩, -, unseen⟩
          refine ⟨named, distinct, fun other member => ⟨?_, unseen other member⟩⟩
          rintro rfl
          exact once member

theorem examine_ok_iff {probe : InventoryHost → HostPreflightResult} {ids : List String} :
    (∃ hosts, examine db probe ids = .ok hosts) ↔ ∀ id ∈ ids, (db.getHost id).isSome := by
  induction ids with
  | nil => simp [examine]
  | cons id rest ih =>
      rw [examine, List.forall_mem_cons, ← ih]
      cases db.getHost id with
      | none => simp
      | some host =>
          constructor
          · rintro ⟨hosts, done⟩
            obtain ⟨others, examined, -⟩ := Procedure.bind_eq_ok_iff.mp done
            exact ⟨rfl, others, examined⟩
          · rintro ⟨-, others, examined⟩
            exact ⟨_, Procedure.bind_eq_ok_iff.mpr ⟨others, examined, rfl⟩⟩

theorem checkJoiners_ok_iff {joiners : List JoinerSpec} :
    checkJoiners joiners = .ok () ↔ ∀ j ∈ joiners, j.hostID ≠ "" ∧ j.password ≠ "" := by
  rw [checkJoiners]
  cases missing : joiners.findIdx? joinerMissing with
  | none =>
      refine iff_of_true rfl fun j member => ?_
      have there := List.findIdx?_eq_none_iff.mp missing j member
      simpa [joinerMissing] using there
  | some i =>
      refine iff_of_false (fun same => (by cases same)) fun all => ?_
      obtain ⟨inside, found, -⟩ := List.findIdx?_eq_some_iff_getElem.mp missing
      have there := all _ (List.getElem_mem inside)
      simp [joinerMissing, there] at found

theorem readJoiners_ok_iff {check : InventoryHost → Except String Unit}
    {joiners : List JoinerSpec} :
    (∃ hosts, readJoiners db check joiners = .ok hosts) ↔
      ∀ j ∈ joiners, ∃ host, db.getHost j.hostID = some host ∧ check host = .ok () := by
  induction joiners with
  | nil => simp [readJoiners]
  | cons j rest ih =>
      rw [readJoiners, List.forall_mem_cons, ← ih]
      cases listed : db.getHost j.hostID with
      | none => simp
      | some host =>
          constructor
          · rintro ⟨hosts, done⟩
            obtain ⟨u, checked, done⟩ := Procedure.bind_eq_ok_iff.mp done
            obtain ⟨others, read, -⟩ := Procedure.bind_eq_ok_iff.mp done
            exact ⟨⟨host, rfl, checked⟩, others, read⟩
          · rintro ⟨⟨_, same, checked⟩, others, read⟩
            obtain rfl := Option.some.inj same
            refine ⟨host :: others, Procedure.bind_eq_ok_iff.mpr ⟨(), checked, ?_⟩⟩
            exact Procedure.bind_eq_ok_iff.mpr ⟨others, read, rfl⟩

end Checks

section Refusals

/-- The request that is looked over before the job. -/
def formation (req : StartJobRequest) : PreflightRequest :=
  ⟨req.clusterName, req.founderHostID, req.joiners.map (·.hostID)⟩

def joining (req : StartJoinHostsJobRequest) : JoinHostsPreflightRequest :=
  ⟨req.clusterID, req.joiners.map (·.hostID)⟩

variable (db : DB)

/-- An error, or a name that is not to be used. -/
def Refuses (answer : Except String PreflightResponse) : Prop :=
  ∀ resp, answer = .ok resp → resp.clusterNameOK = false

/-- A joiner that is filed in a cluster already. -/
def Filed (ids : List String) : Prop :=
  ∃ id ∈ ids, ∃ host, db.getHost id = some host ∧ host.clusterID ≠ ""

/-- What is refused before the job, whatever the hosts answer, is refused when it is started. -/
def StartFollows (jobID : String) (req : StartJobRequest) : Prop :=
  (∀ env, Refuses (preflight env db (formation req))) → ∃ err, startJob db jobID req = .error err

def JoinFollows (jobID : String) (req : StartJoinHostsJobRequest) : Prop :=
  (∀ env, (∃ err, joinHostsPreflight env db (joining req) = .error err) ∨
      Filed db (joining req).joinerHostIDs) →
    ∃ err, startJoinHostsJob db jobID req = .error err

/-- The request has all that it needs, and names hosts that are known and a name that is free. -/
structure Complete (req : StartJobRequest) : Prop where
  named : req.clusterName ≠ ""
  founder : req.founderHostID ≠ ""
  password : req.founderPassword ≠ ""
  joiners : ∀ j ∈ req.joiners, j.hostID ≠ "" ∧ j.password ≠ ""
  free : db.getClusterByName req.clusterName = none
  knownFounder : (db.getHost req.founderHostID).isSome
  knownJoiners : ∀ j ∈ req.joiners, (db.getHost j.hostID).isSome

/-- The request has all that it needs, and names an active cluster with a member online and hosts
that are known and in no cluster. -/
structure JoinComplete (req : StartJoinHostsJobRequest) : Prop where
  named : req.clusterID ≠ ""
  some_ : req.joiners ≠ []
  joiners : ∀ j ∈ req.joiners, j.hostID ≠ "" ∧ j.password ≠ ""
  active : ∃ cluster, db.getCluster req.clusterID = some cluster ∧ cluster.status = .active ∧
    ((db.listHostsByCluster cluster.id).find? (·.status = .online)).isSome
  standalone : ∀ j ∈ req.joiners, ∃ host, db.getHost j.hostID = some host ∧ host.clusterID = ""

end Refusals

section Main

variable {db : DB} {jobID : String}

theorem startJob_ok_iff {req : StartJobRequest} :
    (∃ started, startJob db jobID req = .ok started) ↔ Complete db req := by
  have all : (∀ j ∈ req.joiners, ∃ host, db.getHost j.hostID = some host ∧
        (.ok () : Except String Unit) = .ok ()) ↔
      ∀ j ∈ req.joiners, (db.getHost j.hostID).isSome := by
    simp [Option.isSome_iff_exists]
  constructor
  · rintro ⟨⟨job, o⟩, made⟩
    obtain ⟨⟨named, founded, secret, checked, free⟩, founder, hosts, listed, read, -⟩ :=
      startJob_eq_ok_iff.mp made
    refine ⟨named, founded, secret, checkJoiners_ok_iff.mp checked, free, ?_, ?_⟩
    · rw [listed]
      rfl
    · exact all.mp (readJoiners_ok_iff.mp ⟨hosts, read⟩)
  · intro complete
    obtain ⟨hosts, read⟩ := readJoiners_ok_iff.mpr (all.mpr complete.knownJoiners)
    obtain ⟨founder, listed⟩ := Option.isSome_iff_exists.mp complete.knownFounder
    exact ⟨(_, _), startJob_eq_ok_iff.mpr ⟨⟨complete.named, complete.founder, complete.password,
      checkJoiners_ok_iff.mpr complete.joiners, complete.free⟩, founder, hosts, listed, read, rfl,
      rfl⟩⟩

theorem notInCluster_ok_iff {host : InventoryHost} :
    notInCluster host = .ok () ↔ host.clusterID = "" := by
  rw [notInCluster]
  split_ifs with standalone
  · exact iff_of_true rfl standalone
  · exact iff_of_false (fun same => (by cases same)) standalone

theorem startJoinHostsJob_ok_iff {req : StartJoinHostsJobRequest} :
    (∃ started, startJoinHostsJob db jobID req = .ok started) ↔ JoinComplete db req := by
  constructor
  · rintro ⟨⟨job, o⟩, made⟩
    obtain ⟨⟨named, some_, checked⟩, cluster, sourceHost, hosts, known, active, online, read, -⟩ :=
      startJoinHostsJob_eq_ok_iff.mp made
    refine ⟨named, some_, checkJoiners_ok_iff.mp checked, ?_, ?_⟩
    · exact ⟨cluster, known, active, by rw [online]; rfl⟩
    · intro j member
      obtain ⟨host, listed, standalone⟩ := readJoiners_ok_iff.mp ⟨hosts, read⟩ j member
      exact ⟨host, listed, notInCluster_ok_iff.mp standalone⟩
  · intro complete
    obtain ⟨cluster, known, active, online⟩ := complete.active
    obtain ⟨sourceHost, online⟩ := Option.isSome_iff_exists.mp online
    obtain ⟨hosts, read⟩ := (@readJoiners_ok_iff db notInCluster req.joiners).mpr (by
      intro j member
      obtain ⟨host, listed, standalone⟩ := complete.standalone j member
      exact ⟨host, listed, notInCluster_ok_iff.mpr standalone⟩)
    exact ⟨(_, _), startJoinHostsJob_eq_ok_iff.mpr ⟨⟨complete.named, complete.some_,
      checkJoiners_ok_iff.mpr complete.joiners⟩, cluster, sourceHost, hosts, known, active, online,
      read, rfl, rfl⟩⟩

theorem checkName_eq_none_iff {name : String} :
    checkName db name = none ↔
      validateClusterName name = "" ∧ db.getClusterByName name = none := by
  rw [checkName]
  split_ifs with invalid taken
  · simp [invalid]
  · refine iff_of_false (fun same => (by cases same)) fun both => ?_
    rw [both.2] at taken
    cases taken
  · exact iff_of_true rfl ⟨not_not.mp invalid, by simpa using taken⟩

theorem not_refuses_iff {env : Env} {req : PreflightRequest} :
    ¬Refuses (preflight env db req) ↔
      (validateClusterName req.clusterName = "" ∧ db.getClusterByName req.clusterName = none) ∧
        checkIDs [] (req.founderHostID :: req.joinerHostIDs) = .ok () ∧
        ∀ id ∈ req.founderHostID :: req.joinerHostIDs, (db.getHost id).isSome := by
  rw [← checkName_eq_none_iff, Refuses]
  constructor
  · intro accepts
    obtain ⟨resp, accepts⟩ := not_forall.mp accepts
    obtain ⟨made, ok⟩ := Classical.not_imp.mp accepts
    simp only [preflight] at made
    obtain ⟨u, checked, made⟩ := Procedure.bind_eq_ok_iff.mp made
    obtain ⟨hosts, examined, made⟩ := Procedure.bind_eq_ok_iff.mp made
    refine ⟨?_, checked, examine_ok_iff.mp ⟨hosts, examined⟩⟩
    have named : resp.clusterNameOK = (checkName db req.clusterName).isNone := by
      split_ifs at made
      · rw [← Except.ok.inj made]
      · rw [← Except.ok.inj made]
    rw [named] at ok
    simpa using ok
  · rintro ⟨named, checked, known⟩ refuses
    obtain ⟨hosts, examined⟩ := (@examine_ok_iff db (fun host => probeHost env host
      (if host.id = req.founderHostID then .founder else .joiner)) _).mpr known
    have answered : ∃ resp, preflight env db req = .ok resp ∧ resp.clusterNameOK = true := by
      by_cases several : ((hosts.map (·.pveMajor)).filter (· ≠ "")).dedup.length > 1
      · refine ⟨⟨_, _, _, _⟩, Procedure.bind_eq_ok_iff.mpr ⟨(), checked,
          Procedure.bind_eq_ok_iff.mpr ⟨hosts, examined, if_pos several⟩⟩, ?_⟩
        rw [named]
        rfl
      · refine ⟨⟨_, _, _, _⟩, Procedure.bind_eq_ok_iff.mpr ⟨(), checked,
          Procedure.bind_eq_ok_iff.mpr ⟨hosts, examined, if_neg several⟩⟩, ?_⟩
        rw [named]
        rfl
    obtain ⟨resp, made, ok⟩ := answered
    rw [refuses resp made] at ok
    cases ok

theorem joinHostsPreflight_ok_iff {env : Env} {req : JoinHostsPreflightRequest} :
    (∃ resp, joinHostsPreflight env db req = .ok resp) ↔
      (db.getCluster req.clusterID).isSome ∧ req.joinerHostIDs ≠ [] ∧
        checkIDs [] req.joinerHostIDs = .ok () ∧
        ∀ id ∈ req.joinerHostIDs, (db.getHost id).isSome := by
  rw [joinHostsPreflight]
  cases known : db.getCluster req.clusterID with
  | none => simp
  | some cluster =>
      simp only
      split_ifs with none_
      · simp [none_]
      · constructor
        · rintro ⟨resp, made⟩
          obtain ⟨u, checked, made⟩ := Procedure.bind_eq_ok_iff.mp made
          obtain ⟨hosts, examined, -⟩ := Procedure.bind_eq_ok_iff.mp made
          exact ⟨rfl, none_, checked, examine_ok_iff.mp ⟨hosts, examined⟩⟩
        · rintro ⟨-, -, checked, listed⟩
          obtain ⟨hosts, examined⟩ := examine_ok_iff.mpr listed
          exact ⟨_, Procedure.bind_eq_ok_iff.mpr ⟨(), checked,
            Procedure.bind_eq_ok_iff.mpr ⟨hosts, examined, rfl⟩⟩⟩

theorem checkIDs_complete_iff {ids : List String} (named : ∀ id ∈ ids, id ≠ "") :
    checkIDs [] ids = .ok () ↔ ids.Nodup := by
  rw [checkIDs_ok_iff]
  exact ⟨fun all => all.2.1, fun distinct => ⟨named, distinct, fun _ _ => List.not_mem_nil⟩⟩

theorem startFollows_iff {req : StartJobRequest} :
    StartFollows db jobID req ↔ (Complete db req → validateClusterName req.clusterName = "" ∧
      (req.founderHostID :: req.joiners.map (·.hostID)).Nodup) := by
  have accepts : ∀ env, Complete db req → (¬Refuses (preflight env db (formation req)) ↔
      validateClusterName req.clusterName = "" ∧
        (req.founderHostID :: req.joiners.map (·.hostID)).Nodup) := by
    intro env complete
    have named : ∀ id ∈ req.founderHostID :: req.joiners.map (·.hostID), id ≠ "" := by
      intro id member
      rcases List.mem_cons.mp member with rfl | later
      · exact complete.founder
      · obtain ⟨j, listed, rfl⟩ := List.mem_map.mp later
        exact (complete.joiners j listed).1
    have known : ∀ id ∈ req.founderHostID :: req.joiners.map (·.hostID),
        (db.getHost id).isSome := by
      intro id member
      rcases List.mem_cons.mp member with rfl | later
      · exact complete.knownFounder
      · obtain ⟨j, listed, rfl⟩ := List.mem_map.mp later
        exact complete.knownJoiners j listed
    rw [not_refuses_iff, ← checkIDs_complete_iff named]
    constructor
    · exact fun all => ⟨all.1.1, all.2.1⟩
    · exact fun both => ⟨⟨both.1, complete.free⟩, both.2, known⟩
  rw [StartFollows, Procedure.error_iff_not_ok, startJob_ok_iff]
  constructor
  · intro follows complete
    by_contra unsound
    refine follows (fun env => ?_) complete
    by_contra accepted
    exact unsound ((accepts env complete).mp accepted)
  · intro sound refused complete
    exact (accepts ⟨fun _ => none, []⟩ complete).mpr (sound complete) (refused _)

theorem joinFollows_iff {req : StartJoinHostsJobRequest} :
    JoinFollows db jobID req ↔ (JoinComplete db req → (req.joiners.map (·.hostID)).Nodup) := by
  have accepts : ∀ env, JoinComplete db req →
      ((∃ err, joinHostsPreflight env db (joining req) = .error err) ∨
          Filed db (joining req).joinerHostIDs ↔ ¬(req.joiners.map (·.hostID)).Nodup) := by
    intro env complete
    have named : ∀ id ∈ req.joiners.map (·.hostID), id ≠ "" := by
      intro id member
      obtain ⟨j, listed, rfl⟩ := List.mem_map.mp member
      exact (complete.joiners j listed).1
    have known : ∀ id ∈ req.joiners.map (·.hostID), (db.getHost id).isSome := by
      intro id member
      obtain ⟨j, listed, rfl⟩ := List.mem_map.mp member
      obtain ⟨host, found, -⟩ := complete.standalone j listed
      rw [found]
      rfl
    have unfiled : ¬Filed db (joining req).joinerHostIDs := by
      rintro ⟨id, member, host, found, filed⟩
      obtain ⟨j, listed, rfl⟩ := List.mem_map.mp member
      obtain ⟨other, same, standalone⟩ := complete.standalone j listed
      rw [found] at same
      obtain rfl := Option.some.inj same
      exact filed standalone
    obtain ⟨cluster, active, -⟩ := complete.active
    rw [or_iff_left unfiled, Procedure.error_iff_not_ok, joinHostsPreflight_ok_iff,
      ← checkIDs_complete_iff named]
    refine not_congr ⟨fun all => all.2.2.1, fun checked => ⟨?_, ?_, checked, known⟩⟩
    · rw [joining, active]
      rfl
    · simpa [joining] using complete.some_
  rw [JoinFollows, Procedure.error_iff_not_ok, startJoinHostsJob_ok_iff]
  constructor
  · intro follows complete
    by_contra doubled
    exact follows (fun env => (accepts env complete).mpr doubled) complete
  · intro sound refused complete
    exact (accepts ⟨fun _ => none, []⟩ complete).mp (refused _) (sound complete)

/-- A start refuses what was refused before it, whatever the hosts answer, exactly if a request
that is complete otherwise has a valid name and names no host twice. -/
theorem starts_follow_iff (db : DB) (jobID : String) (req : StartJobRequest)
    (joinReq : StartJoinHostsJobRequest) :
    (StartFollows db jobID req ↔ (Complete db req → validateClusterName req.clusterName = "" ∧
        (req.founderHostID :: req.joiners.map (·.hostID)).Nodup)) ∧
      (JoinFollows db jobID joinReq ↔
        (JoinComplete db joinReq → (joinReq.joiners.map (·.hostID)).Nodup)) :=
  ⟨startFollows_iff, joinFollows_iff⟩

/-- A cluster with a member online, and a host that is in no cluster. -/
def labCluster : DB :=
  ⟨["dc1"], [⟨"c1", "lab", "lab", some "dc1", .active, true⟩],
    [{ labHost "h1" "10.0.0.1:8006" "s1" with clusterID := "c1" },
      labHost "h2" "10.0.0.2:8006" "s2"]⟩

/-- A name that is too long, the founder as its own joiner, and a joiner that is named twice. -/
theorem starts_accept_refused :
    ¬StartFollows (labDB "s1") "j1" { labRequest with clusterName := "way-too-long-name-here" } ∧
      ¬StartFollows (labDB "s1") "j1" { labRequest with joiners := [⟨"h1", "pw", ""⟩] } ∧
      ¬JoinFollows labCluster "j1" ⟨"c1", [⟨"h2", "pw", ""⟩, ⟨"h2", "pw", ""⟩]⟩ := by
  refine ⟨fun follows => ?_, fun follows => ?_, fun follows => ?_⟩
  · have named := (startFollows_iff.mp follows
      ⟨by decide, by decide, by decide, by decide, rfl, rfl, by decide⟩).1
    revert named
    decide
  · have distinct := (startFollows_iff.mp follows
      ⟨by decide, by decide, by decide, by decide, rfl, rfl, by decide⟩).2
    revert distinct
    decide
  · have standalone : ∀ j ∈ ([⟨"h2", "pw", ""⟩, ⟨"h2", "pw", ""⟩] : List JoinerSpec),
        ∃ host, labCluster.getHost j.hostID = some host ∧ host.clusterID = "" := by
      intro j member
      obtain rfl : j = ⟨"h2", "pw", ""⟩ := by simpa using member
      exact ⟨_, rfl, rfl⟩
    have distinct := joinFollows_iff.mp follows
      ⟨by decide, by decide, by decide, ⟨_, rfl, rfl, rfl⟩, standalone⟩
    revert distinct
    decide

end Main

end ClusterPreflight
