import PCenter.GuestTasks
import PCenter.Lib.Float64
import PCenter.Lib.Json
import PCenter.Lib.Url

/-!
# The agent's executor

`pve-agent/internal/executor`: a command that the backend sends is checked against the
whitelist and turned into one request to the Proxmox API of the agent's node, or into a
Ceph command line. What the agent is sent is JSON, so every number among the parameters
is a float.

The parameters of a request are joined without escaping them; their order stands for the
arbitrary order in which a map is iterated.
-/

namespace Executor

open GoJson GoText GuestTasks Form

/-- `CommandData` -/
structure Command where
  id : String
  action : String
  params : Fields

/-- `AllowedActions` -/
def allowedActions : List String :=
  [ "vm_start", "vm_stop", "vm_shutdown", "vm_reboot",
    "vm_clone", "vm_delete", "vm_config_get", "vm_config_set", "vm_convert_to_template",
    "vm_snapshot_list", "vm_snapshot_create", "vm_snapshot_delete", "vm_snapshot_rollback",
    "ct_start", "ct_stop", "ct_shutdown", "ct_reboot",
    "ct_clone", "ct_delete", "ct_config_get", "ct_config_set", "ct_convert_to_template",
    "ct_snapshot_list", "ct_snapshot_create", "ct_snapshot_delete", "ct_snapshot_rollback",
    "vm_migrate", "ct_migrate",
    "ceph_pg_repair", "ceph_health_detail", "ceph_osd_tree", "ceph_status", "ceph_pg_query",
    "storage_content" ]

/-- What an action does to a guest. -/
inductive Verb where
  | start
  | stop
  | shutdown
  | reboot
  | migrate
  | clone
  | delete
  | configGet
  | configSet
  | convertToTemplate
  | snapshotList
  | snapshotCreate
  | snapshotDelete
  | snapshotRollback
  deriving DecidableEq, Repr

def Verb.name : Verb → String
  | .start => "start"
  | .stop => "stop"
  | .shutdown => "shutdown"
  | .reboot => "reboot"
  | .migrate => "migrate"
  | .clone => "clone"
  | .delete => "delete"
  | .configGet => "config_get"
  | .configSet => "config_set"
  | .convertToTemplate => "convert_to_template"
  | .snapshotList => "snapshot_list"
  | .snapshotCreate => "snapshot_create"
  | .snapshotDelete => "snapshot_delete"
  | .snapshotRollback => "snapshot_rollback"

def verbs : List Verb :=
  [.start, .stop, .shutdown, .reboot, .migrate, .clone, .delete, .configGet, .configSet,
    .convertToTemplate, .snapshotList, .snapshotCreate, .snapshotDelete, .snapshotRollback]

/-- The prefix of the actions on guests of the type. -/
def actionPrefix : GuestType → String
  | .vm => "vm_"
  | .ct => "ct_"

/-- The actions on guests, as the switch of `Execute` lists them. -/
def guestActions : List (String × GuestType × Verb) :=
  verbs.map (fun verb => (actionPrefix .vm ++ verb.name, .vm, verb)) ++
    verbs.map (fun verb => (actionPrefix .ct ++ verb.name, .ct, verb))

section Params

/-- A number that was decoded as a float. -/
def number : Json → Option Rat
  | .int n => some (Float64.ofInt n)
  | .float q => some (Float64.ofRat q)
  | _ => none

variable (params : Fields)

def getParamInt (key : String) : Int64 :=
  match number (field params key) with
  | some f => Float64.toInt64 f
  | none => 0

def getVMID : Int64 := getParamInt params "vmid"

def getString (key : String) : String :=
  match field params key with
  | .str s => s
  | _ => ""

def getBool (key : String) : Bool :=
  match field params key with
  | .bool b => b
  | _ => false

/-- Digits, a point, hexadecimal digits. -/
def isValidPgID (pgID : String) : Bool :=
  match cut '.' pgID with
  | (pool, some pg) =>
      pool ≠ "" && pool.toList.all isDigit && pg ≠ "" &&
        pg.toList.all fun c => (GoUrl.unhex c).isSome
  | (_, none) => false

end Params

/-- The checks before anything is done. The cases for clones and snapshots come after one
that covers them. -/
def validate (cmd : Command) : Except String Unit :=
  if cmd.id = "" then .error "command ID required"
  else if cmd.action ∉ allowedActions then .error ("action not allowed: " ++ cmd.action)
  else if hasPrefix "vm_" cmd.action || hasPrefix "ct_" cmd.action then
    if (cmd.action = "vm_migrate" ∨ cmd.action = "ct_migrate") ∧
        cmd.params.lookup "target" = none then
      .error "target required for migration"
    else
      match cmd.params.lookup "vmid" with
      | none => .error "vmid required"
      | some vmid =>
          match number vmid with
          | some v => if v ≤ 0 then .error "vmid must be positive" else .ok ()
          | none => .error "vmid must be a number"
  else if cmd.action = "vm_clone" ∨ cmd.action = "ct_clone" then
    if getParamInt cmd.params "newid" = 0 then .error "newid required for clone" else .ok ()
  else if cmd.action = "vm_snapshot_delete" ∨ cmd.action = "vm_snapshot_rollback" ∨
      cmd.action = "ct_snapshot_delete" ∨ cmd.action = "ct_snapshot_rollback" then
    match field cmd.params "snapname" with
    | .str _ => .ok ()
    | _ => .error "snapname required"
  else if cmd.action = "ceph_pg_repair" ∨ cmd.action = "ceph_pg_query" then
    if isValidPgID (getString cmd.params "pg_id") then .ok ()
    else .error "valid pg_id required (format: pool.hex)"
  else .ok ()

/-- The agent of one node, with the two printers of values that are not whole numbers. -/
structure Agent where
  nodeName : String
  /-- `fmt.Sprintf("%f", val)` -/
  sprintFloat : Rat → String
  /-- `json.Marshal` -/
  marshal : Json → String

/-- What a command makes the agent do. -/
inductive Effect where
  | api (call : ApiCall)
  | ceph (args : List String)

section Requests

def post (path : String) : ApiCall := ⟨.post, path, []⟩

def postWithParams (path : String) (params : List Pair) : ApiCall := ⟨.post, path, rawForm params⟩

def putWithParams (path : String) (params : List Pair) : ApiCall := ⟨.put, path, rawForm params⟩

def delete (path : String) : ApiCall := ⟨.delete, path, []⟩

def getRaw (path : String) : ApiCall := ⟨.get, path, []⟩

end Requests

section Execute

variable (agent : Agent)

def printParam : Json → String
  | .str s => s
  | .bool b => if b then "1" else "0"
  | .int n => printNumber (Float64.ofInt n)
  | .float q => printNumber (Float64.ofRat q)
  | value => agent.marshal value
where
  /-- A whole number in the range of an integer is printed as one. -/
  printNumber (f : Rat) : String :=
    if ((Float64.toInt64 f).toInt : Rat) = f then itoa (Float64.toInt64 f)
    else agent.sprintFloat f

def extractStringParams (params : Fields) (excluded : String) : List Pair :=
  (params.filter (·.1 ≠ excluded)).map fun (key, value) => param key (printParam agent value)

variable (gt : GuestType) (params : Fields)

/-- The path of the guest that the command names. -/
def path (rest : String) : String := guestPath agent.nodeName gt (getVMID params) rest

/-- `migrateVM` and `migrateCT` -/
def migrateParams : List Pair :=
  param "target" (getString params "target") :: (flag "online" (getBool params "online") ++
    match gt with
    | .vm => []
    | .ct => flag "restart" (getBool params "online"))

/-- `cloneVM` and `cloneCT` -/
def clone : Except String ApiCall :=
  let newid := getParamInt params "newid"
  if newid = 0 then .error "newid required"
  else
    .ok (postWithParams (path agent gt params "/clone")
      (param "newid" (itoa newid) ::
        (optional (nameKey gt) (getString params (nameKey gt)) ++
          optional "target" (getString params "target") ++
          flag "full" (getBool params "full"))))

/-- A string parameter that is sent even when it is empty. -/
def stringParam (key : String) : List Pair :=
  match field params key with
  | .str s => [param key s]
  | _ => []

/-- `vmSnapshotCreate` and `ctSnapshotCreate` -/
def snapshotParams : List Pair :=
  stringParam params "snapname" ++ stringParam params "description" ++
    match gt with
    | .vm => flag "vmstate" (getBool params "vmstate")
    | .ct => []

/-- `vmSnapshotDelete`, `vmSnapshotRollback` and their siblings for containers. -/
def onSnapshot (call : String → ApiCall) (rest : String) : Except String ApiCall :=
  let snapname := getString params "snapname"
  if snapname = "" then .error "snapname required"
  else .ok (call (path agent gt params ("/snapshot/" ++ GoUrl.pathEscape snapname ++ rest)))

/-- The handlers of the actions on guests. -/
def executeGuest : Verb → Except String ApiCall
  | .start => .ok (post (path agent gt params "/status/start"))
  | .stop => .ok (post (path agent gt params "/status/stop"))
  | .shutdown => .ok (post (path agent gt params "/status/shutdown"))
  | .reboot => .ok (post (path agent gt params "/status/reboot"))
  | .migrate =>
      .ok (postWithParams (path agent gt params "/migrate") (migrateParams gt params))
  | .clone => clone agent gt params
  | .delete => .ok (delete (path agent gt params ""))
  | .configGet => .ok (getRaw (path agent gt params "/config"))
  | .configSet =>
      .ok (putWithParams (path agent gt params "/config")
        (extractStringParams agent params "vmid"))
  | .convertToTemplate => .ok (postWithParams (path agent gt params "/template") [])
  | .snapshotList => .ok (getRaw (path agent gt params "/snapshot"))
  | .snapshotCreate =>
      .ok (postWithParams (path agent gt params "/snapshot") (snapshotParams gt params))
  | .snapshotDelete => onSnapshot agent gt params delete ""
  | .snapshotRollback =>
      onSnapshot agent gt params (postWithParams · []) "/rollback"

def executeCeph (action : String) : Except String (List String) :=
  if action = "ceph_pg_repair" then .ok ["pg", "repair", getString params "pg_id"]
  else if action = "ceph_health_detail" then .ok ["health", "detail"]
  else if action = "ceph_osd_tree" then .ok ["osd", "tree"]
  else if action = "ceph_status" then .ok ["status"]
  else if action = "ceph_pg_query" then .ok ["pg", getString params "pg_id", "query"]
  else .error "unknown ceph command"

def executeStorage : Except String ApiCall :=
  let storageName := getString params "storage"
  if storageName = "" then .error "storage name required"
  else .ok (getRaw ("/nodes/" ++ agent.nodeName ++ "/storage/" ++ storageName ++ "/content"))

/-- The actions that `Execute` hands to `executeCeph`. -/
def cephActions : List String :=
  ["ceph_pg_repair", "ceph_health_detail", "ceph_osd_tree", "ceph_status", "ceph_pg_query"]

/-- What the agent does with a command, or the error it answers with. -/
def execute (cmd : Command) : Except String Effect :=
  match validate cmd with
  | .error err => .error err
  | .ok () =>
      match guestActions.lookup cmd.action with
      | some (gt, verb) => (executeGuest agent gt cmd.params verb).map .api
      | none =>
          if cmd.action ∈ cephActions then (executeCeph cmd.params cmd.action).map .ceph
          else if cmd.action = "storage_content" then
            (executeStorage agent cmd.params).map .api
          else .error ("unknown action: " ++ cmd.action)

end Execute

section Paths

variable {agent : Agent} {gt : GuestType} {params : Fields}

theorem onGuest_path {rest : String} (below : ∀ c ∈ rest.toList.head?, c = '/' ∨ c = '?') :
    OnGuest agent.nodeName gt (getVMID params) (path agent gt params rest) :=
  ⟨rest, rfl, below⟩

/-- A handler of an action on guests asks for the guest that the command names. -/
theorem onGuest_executeGuest {verb : Verb} {call : ApiCall}
    (handled : executeGuest agent gt params verb = .ok call) :
    OnGuest agent.nodeName gt (getVMID params) call.path := by
  have snapshot (name rest : String) (c : Char)
      (member : c ∈ ("/snapshot/" ++ name ++ rest).toList.head?) : c = '/' ∨ c = '?' := by
    simp only [String.toList_append] at member
    exact .inl (Option.mem_some_iff.mp member).symm
  cases verb with
  | start | stop | shutdown | reboot | migrate | delete | configGet | configSet
    | convertToTemplate | snapshotList | snapshotCreate =>
      obtain rfl := Except.ok.inj handled
      exact onGuest_path (by decide)
  | clone =>
      rw [executeGuest, clone] at handled
      split_ifs at handled
      obtain rfl := Except.ok.inj handled
      exact onGuest_path (by decide)
  | snapshotDelete | snapshotRollback =>
      rw [executeGuest, onSnapshot] at handled
      split_ifs at handled
      obtain rfl := Except.ok.inj handled
      exact onGuest_path (snapshot _ _)

end Paths

section Whitelist

/-- The whitelist holds the actions on guests and six more. -/
theorem mem_allowedActions_iff (action : String) :
    action ∈ allowedActions ↔
      action ∈ guestActions.map (·.1) ∨ action ∈ cephActions ∨ action = "storage_content" := by
  have left : ∀ a ∈ allowedActions,
      a ∈ guestActions.map (·.1) ∨ a ∈ cephActions ∨ a = "storage_content" := by decide
  have guest : ∀ a ∈ guestActions.map (·.1), a ∈ allowedActions := by decide
  have ceph : ∀ a ∈ cephActions, a ∈ allowedActions := by decide
  constructor
  · exact left action
  · rintro (guestAction | cephAction | rfl)
    · exact guest action guestAction
    · exact ceph action cephAction
    · decide

end Whitelist

end Executor
