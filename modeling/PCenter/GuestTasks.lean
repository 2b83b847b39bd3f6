import PCenter.Lib.Form
import PCenter.Lib.Text

/-!
# Guest tasks of the Proxmox API

The requests by which the backend's client starts a task on a guest: the methods of
`Client` in `internal/pve/client.go` that answer with a task identifier. The methods for
VMs and for containers are the same but for the path, the names of two parameters and the
mode of a migration.

A request is its method, its path with the query, and its body; the base URL of the
server is left out.
-/

namespace GuestTasks

open Form GoText

inductive GuestType where
  | vm
  | ct
  deriving DecidableEq, Repr

/-- The part of an API path that names the guest's type. -/
def GuestType.api : GuestType → String
  | .vm => "qemu"
  | .ct => "lxc"

inductive Method where
  | get
  | post
  | put
  | delete
  deriving DecidableEq, Repr

structure ApiCall where
  method : Method
  path : String
  body : Bytes
  deriving DecidableEq, Repr

/-- The same request: what the server reads in the body counts, not how it is spelled. -/
structure ApiCall.Same (a b : ApiCall) : Prop where
  method : a.method = b.method
  path : a.path = b.path
  params : (decodeForm a.body).Perm (decodeForm b.body)

section Params

def param (key value : String) : Pair := (utf8 key, utf8 value)

/-- A parameter that is left out when it is empty. -/
def optional (key value : String) : List Pair := if value = "" then [] else [param key value]

/-- A parameter that is `1` or left out. -/
def flag (key : String) (set : Bool) : List Pair := if set then [param key "1"] else []

theorem param_value_ne_nil {key value : String} (nonempty : value ≠ "") :
    (param key value).2 ≠ [] := utf8_ne_nil nonempty

theorem mem_optional_iff {key value : String} {p : Pair} :
    p ∈ optional key value ↔ value ≠ "" ∧ p = param key value := by
  by_cases empty : value = "" <;> simp [optional, empty]

theorem mem_flag_iff {key : String} {set : Bool} {p : Pair} :
    p ∈ flag key set ↔ set = true ∧ p = param key "1" := by
  cases set <;> simp [flag]

theorem optional_eq_nil_iff {key value : String} : optional key value = [] ↔ value = "" := by
  by_cases empty : value = "" <;> simp [optional, empty]

theorem optional_keys (key value : String) :
    ((optional key value).map (·.1)).Sublist [utf8 key] := by
  by_cases empty : value = "" <;> simp [optional, empty, param]

theorem flag_keys (key : String) (set : Bool) :
    ((flag key set).map (·.1)).Sublist [utf8 key] := by
  cases set <;> simp [flag, param]

theorem safeValue_itoa (n : Int64) : SafeValue (utf8 (itoa n)) := by
  have ascii : ∀ k ∈ 45 :: List.range' 48 10, ∀ b ∈ String.utf8EncodeChar (Char.ofNat k),
      b ≠ ampersand ∧ b ≠ percent ∧ b ≠ plus := by decide +kernel
  have ordinary : ∀ b ∈ utf8 (itoa n), b ≠ ampersand ∧ b ≠ percent ∧ b ≠ plus := by
    intro b member
    obtain ⟨c, inside, encoded⟩ := List.mem_flatMap.mp member
    rw [← Char.ofNat_toNat c] at encoded
    refine ascii c.toNat ?_ b encoded
    rcases mem_itoa inside with rfl | digit
    · decide
    · simp only [isDigit, Char.le_def, Bool.and_eq_true, decide_eq_true_eq,
        UInt32.le_iff_toNat_le] at digit
      have bounds : 48 ≤ c.toNat ∧ c.toNat ≤ 57 := digit
      simp only [List.mem_cons, List.mem_range'_1]
      omega
  exact ⟨fun member => (ordinary _ member).1 rfl,
    unescape_of_ordinary fun b member => (ordinary b member).2⟩

end Params

def guestPath (nodeName : String) (gt : GuestType) (vmid : Int64) (rest : String) : String :=
  "/nodes/" ++ nodeName ++ "/" ++ gt.api ++ "/" ++ itoa vmid ++ rest

theorem guestPath_inj {nodeName : String} {gt : GuestType} {m n : Int64} {rest : String} :
    guestPath nodeName gt m rest = guestPath nodeName gt n rest ↔ m = n := by
  constructor
  · intro same
    simp only [guestPath, String.append_left_inj, String.append_right_inj] at same
    exact itoa_injective same
  · rintro rfl
    rfl

/-- The path names the guest: what follows the VMID begins with a slash or a question mark. -/
def OnGuest (nodeName : String) (gt : GuestType) (vmid : Int64) (path : String) : Prop :=
  ∃ rest, path = guestPath nodeName gt vmid rest ∧
    ∀ c ∈ rest.toList.head?, c = '/' ∨ c = '?'

theorem OnGuest.vmid_eq {nodeName : String} {gt : GuestType} {m n : Int64} {path : String}
    (names : OnGuest nodeName gt m path) (names' : OnGuest nodeName gt n path) : m = n := by
  obtain ⟨rest, rfl, ends⟩ := names
  obtain ⟨rest', same, ends'⟩ := names'
  simp only [guestPath, String.append_assoc, String.append_right_inj] at same
  have number (k : Int64) (rest : String) (ends : ∀ c ∈ rest.toList.head?, c = '/' ∨ c = '?') :
      (itoa k ++ rest).toList.takeWhile (fun c => c = '-' || isDigit c) = (itoa k).toList := by
    have digits : ∀ c ∈ (itoa k).toList, (decide (c = '-') || isDigit c) = true := by
      intro c member
      rcases mem_itoa member with rfl | digit
      · rfl
      · simp [digit]
    rw [String.toList_append, List.takeWhile_append_of_pos digits]
    cases chars : rest.toList with
    | nil => simp
    | cons c cs =>
        rcases ends c (by simp [chars]) with rfl | rfl
        · rw [List.takeWhile_cons_of_neg (by decide), List.append_nil]
        · rw [List.takeWhile_cons_of_neg (by decide), List.append_nil]
  have texts := number m rest ends
  rw [same, number n rest' ends'] at texts
  exact itoa_injective (String.ext texts.symm)

theorem OnGuest.head {nodeName rest : String} {gt : GuestType} {n : Int64}
    (names : OnGuest nodeName gt n ("/nodes/" ++ nodeName ++ rest)) :
    (rest.toList.drop 1).head? = gt.api.toList.head? := by
  obtain ⟨after, same, -⟩ := names
  simp only [guestPath, String.append_assoc, String.append_right_inj] at same
  rw [same]
  cases gt <;> simp [GuestType.api, String.toList_append]

theorem OnGuest.type_eq {nodeName path : String} {gt gt' : GuestType} {m n : Int64}
    (names : OnGuest nodeName gt m path) (names' : OnGuest nodeName gt' n path) : gt = gt' := by
  obtain ⟨rest, shape, -⟩ := names
  have path_eq : path = "/nodes/" ++ nodeName ++
      ("/" ++ gt.api ++ "/" ++ itoa m ++ rest) := by
    rw [shape]
    simp only [guestPath, String.append_assoc]
  rw [path_eq] at names'
  have heads := names'.head
  cases gt <;> cases gt' <;> simp [GuestType.api, String.toList_append] at heads ⊢

inductive Power where
  | start
  | stop
  | shutdown
  deriving DecidableEq, Repr

def Power.name : Power → String
  | .start => "start"
  | .stop => "stop"
  | .shutdown => "shutdown"

/-- `CloneOptions` -/
structure CloneOptions where
  newID : Int64
  name : String
  targetNode : String
  full : Bool
  storage : String
  description : String
  deriving DecidableEq, Repr

/-- The methods of `Client` that start a task, with their arguments. -/
inductive TaskCall where
  | power (gt : GuestType) (vmid : Int64) (verb : Power)
  | delete (gt : GuestType) (vmid : Int64) (purge : Bool)
  | migrate (gt : GuestType) (vmid : Int64) (targetNode : String) (online : Bool)
  | moveVMDisk (vmid : Int64) (disk targetStorage : String) (deleteSource : Bool)
      (format : String)
  | moveContainerVolume (vmid : Int64) (volume targetStorage : String) (deleteSource : Bool)
  | clone (gt : GuestType) (vmid : Int64) (opts : CloneOptions)
  | convertToTemplate (gt : GuestType) (vmid : Int64)
  | createVMSnapshot (vmid : Int64) (snapname description : String) (vmstate : Bool)
  | createContainerSnapshot (vmid : Int64) (snapname description : String)
  | rollbackSnapshot (gt : GuestType) (vmid : Int64) (snapname : String)
  | deleteSnapshot (gt : GuestType) (vmid : Int64) (snapname : String)
  deriving DecidableEq, Repr

section Client

def post (path : String) (params : List Pair) : ApiCall := ⟨.post, path, encodeForm params⟩

def deleteWithData (path : String) : ApiCall := ⟨.delete, path, []⟩

/-- The parameters of `MigrateVM` and of `MigrateContainer`. -/
def migrateParams (targetNode : String) (online : Bool) : GuestType → List Pair
  | .vm => param "target" targetNode :: flag "online" online
  | .ct => param "target" targetNode :: (flag "online" online ++ flag "restart" (!online))

/-- The name of a clone is called otherwise for containers. -/
def nameKey : GuestType → String
  | .vm => "name"
  | .ct => "hostname"

def cloneParams (gt : GuestType) (opts : CloneOptions) : List Pair :=
  param "newid" (itoa opts.newID) ::
    (optional (nameKey gt) opts.name ++ optional "target" opts.targetNode ++
      flag "full" opts.full ++ optional "storage" opts.storage ++
      optional "description" opts.description)

/-- What a client for the node sends. -/
def TaskCall.apiCall (nodeName : String) : TaskCall → ApiCall
  | .power gt vmid verb => post (guestPath nodeName gt vmid ("/status/" ++ verb.name)) []
  | .delete gt vmid purge =>
      deleteWithData (guestPath nodeName gt vmid
        (if purge then "?purge=1&destroy-unreferenced-disks=1" else ""))
  | .migrate gt vmid targetNode online =>
      post (guestPath nodeName gt vmid "/migrate") (migrateParams targetNode online gt)
  | .moveVMDisk vmid disk targetStorage deleteSource format =>
      post (guestPath nodeName .vm vmid "/move_disk")
        (param "disk" disk :: param "storage" targetStorage ::
          (flag "delete" deleteSource ++ optional "format" format))
  | .moveContainerVolume vmid volume targetStorage deleteSource =>
      post (guestPath nodeName .ct vmid "/move_volume")
        (param "volume" volume :: param "storage" targetStorage ::
          flag "delete" deleteSource)
  | .clone gt vmid opts => post (guestPath nodeName gt vmid "/clone") (cloneParams gt opts)
  | .convertToTemplate gt vmid => post (guestPath nodeName gt vmid "/template") []
  | .createVMSnapshot vmid snapname description vmstate =>
      post (guestPath nodeName .vm vmid "/snapshot")
        (param "snapname" snapname ::
          (optional "description" description ++ flag "vmstate" vmstate))
  | .createContainerSnapshot vmid snapname description =>
      post (guestPath nodeName .ct vmid "/snapshot")
        (param "snapname" snapname :: optional "description" description)
  | .rollbackSnapshot gt vmid snapname =>
      post (guestPath nodeName gt vmid ("/snapshot/" ++ snapname ++ "/rollback")) []
  | .deleteSnapshot gt vmid snapname =>
      deleteWithData (guestPath nodeName gt vmid ("/snapshot/" ++ snapname))

/-- The server reads the parameters that were posted. -/
theorem decodeForm_post (path : String) (params : List Pair) :
    (decodeForm (post path params).body).Perm params :=
  decodeForm_encodeForm_perm params

end Client

end GuestTasks
