import PCenter.Poller
import PCenter.Lib.Text

/-!
# The backend's client of the Proxmox API

The read requests of `internal/pve/client.go` that one poll of a node makes: the node
list, the two guest lists with the network configuration of every guest, and the
storage list. A server is its answers to GET requests, each the JSON document of a
successful response or the error of a failed request.

The rows of the API do not carry the fields `cluster`, `node` (of guests and storage)
and `nics` that the records reserve for the backend, so these are not read. The
configuration of a guest is a map; its entries are taken in the order given, which
stands for the arbitrary order of iteration.
-/

namespace PveClient

open GoJson GoText

abbrev Server := String → Except String Json

variable {A : Type}

/-- A GET request: the answer is wrapped in an object with the field `data`. -/
def get (srv : Server) (decode : Json → Except String A) (path : String) :
    Except String A := do
  let doc ← srv path
  let resp ← decodeObject doc
  let _ ← decodePointer decodeString (field resp "errors")
  decode (field resp "data")

/-- A list of rows; null is a nil slice. -/
def getRows (srv : Server) (row : Fields → Except String A) (path : String) :
    Except String (List A) :=
  (get srv (decodeSlice (fun value => decodeObject value >>= row)) path).map (·.getD [])

def decodeNode (o : Fields) : Except String Pve.Node := do
  let node ← readString o "node"
  let status ← readString o "status"
  let cpu ← readFloat o "cpu"
  let maxCPU ← readInt o "maxcpu"
  let mem ← readInt o "mem"
  let maxMem ← readInt o "maxmem"
  let disk ← readInt o "disk"
  let maxDisk ← readInt o "maxdisk"
  let uptime ← readInt o "uptime"
  let sslFingerprint ← readString o "ssl_fingerprint"
  .ok ⟨"", node, status, cpu, maxCPU, mem, maxMem, disk, maxDisk, uptime, sslFingerprint⟩

/-- The template flag is declared as a Go bool. -/
def decodeVM (o : Fields) : Except String Pve.VM := do
  let vmid ← readInt o "vmid"
  let name ← readString o "name"
  let status ← readString o "status"
  let cpu ← readFloat o "cpu"
  let cpus ← readInt o "cpus"
  let mem ← readInt o "mem"
  let maxMem ← readInt o "maxmem"
  let disk ← readInt o "disk"
  let maxDisk ← readInt o "maxdisk"
  let uptime ← readInt o "uptime"
  let netIn ← readInt o "netin"
  let netOut ← readInt o "netout"
  let diskRead ← readInt o "diskread"
  let diskWrite ← readInt o "diskwrite"
  let template ← readBool o "template"
  let tags ← readString o "tags"
  let haState ← readString o "ha_state"
  .ok ⟨"", vmid, name, "", status, cpu, cpus, mem, maxMem, disk, maxDisk, uptime, netIn,
    netOut, diskRead, diskWrite, template, tags, haState, []⟩

def decodeContainer (o : Fields) : Except String Pve.Container := do
  let vmid ← readInt o "vmid"
  let name ← readString o "name"
  let status ← readString o "status"
  let cpu ← readFloat o "cpu"
  let cpus ← readInt o "cpus"
  let mem ← readInt o "mem"
  let maxMem ← readInt o "maxmem"
  let swap ← readInt o "swap"
  let maxSwap ← readInt o "maxswap"
  let disk ← readInt o "disk"
  let maxDisk ← readInt o "maxdisk"
  let uptime ← readInt o "uptime"
  let netIn ← readInt o "netin"
  let netOut ← readInt o "netout"
  let diskRead ← readInt o "diskread"
  let diskWrite ← readInt o "diskwrite"
  let type ← readString o "type"
  let template ← readBool o "template"
  let tags ← readString o "tags"
  let haState ← readString o "ha_state"
  .ok ⟨"", vmid, name, "", status, cpu, cpus, mem, maxMem, swap, maxSwap, disk, maxDisk,
    uptime, netIn, netOut, diskRead, diskWrite, type, template, tags, haState, []⟩

def decodeStorage (o : Fields) : Except String Pve.Storage := do
  let storage ← readString o "storage"
  let type ← readString o "type"
  let status ← readString o "status"
  let active ← readInt o "active"
  let enabled ← readInt o "enabled"
  let shared ← readInt o "shared"
  let content ← readString o "content"
  let used ← readInt o "used"
  let avail ← readInt o "avail"
  let total ← readInt o "total"
  .ok ⟨"", storage, "", type, status, active, enabled, shared, content, used, avail, total⟩

/-- `netKeyRe`: the word `net` followed by digits only. -/
def netKeyRe (key : String) : Bool :=
  match key.toList with
  | 'n' :: 'e' :: 't' :: digits => digits ≠ [] && digits.all isDigit
  | _ => false

/-- The models whose option carries the MAC address as its value. -/
def nicModels : List String := ["virtio", "e1000", "rtl8139", "vmxnet3"]

/-- One comma-separated part of a `netN` value. -/
def applyPart (nic : Pve.GuestNIC) (part : String) : Pve.GuestNIC :=
  match cut '=' part with
  | (_, none) => if contains ':' part then nic else { nic with model := part }
  | (key, some value) =>
      if key = "bridge" then { nic with bridge := value }
      else if key = "hwaddr" then { nic with mac := value }
      else if key = "tag" then
        match atoi value with
        | some tag => { nic with tag := tag }
        | none => nic
      else if key = "name" then nic
      else if key ∈ nicModels then { nic with model := key, mac := value }
      else nic

def parseNIC (key value : String) : Pve.GuestNIC :=
  (split ',' value).foldl applyPart { (default : Pve.GuestNIC) with name := key }

def parseNICsFromConfig (cfg : Fields) : List Pve.GuestNIC :=
  cfg.filterMap (fun entry =>
    match entry with
    | (key, .str value) =>
        if netKeyRe key ∧ (parseNIC key value).bridge ≠ "" then some (parseNIC key value)
        else none
    | _ => none)

section Requests

variable (srv : Server) (nodeName : String)

def qemuPath : String := "/nodes/" ++ nodeName ++ "/qemu"

def lxcPath : String := "/nodes/" ++ nodeName ++ "/lxc"

def storagePath : String := "/nodes/" ++ nodeName ++ "/storage"

def qemuConfigPath (vmid : Int64) : String :=
  "/nodes/" ++ nodeName ++ "/qemu/" ++ itoa vmid ++ "/config"

def lxcConfigPath (vmid : Int64) : String :=
  "/nodes/" ++ nodeName ++ "/lxc/" ++ itoa vmid ++ "/config"

def getNodeStatus : Except String Pve.Node := do
  let nodes ← getRows srv decodeNode "/nodes"
  match nodes.find? (·.node == nodeName) with
  | some node => .ok node
  | none => .error ("node " ++ nodeName ++ " not found")

/-- A failed configuration request leaves the guest without NICs. -/
def fetchVMNICs (vm : Pve.VM) : Pve.VM :=
  match get srv decodeObject (qemuConfigPath nodeName vm.vmid) with
  | .ok cfg => { vm with nics := parseNICsFromConfig cfg }
  | .error _ => vm

def fetchCTNICs (ct : Pve.Container) : Pve.Container :=
  match get srv decodeObject (lxcConfigPath nodeName ct.vmid) with
  | .ok cfg => { ct with nics := parseNICsFromConfig cfg }
  | .error _ => ct

def getVMs : Except String (List Pve.VM) := do
  let vms ← getRows srv decodeVM (qemuPath nodeName)
  .ok (vms.map (fun vm => fetchVMNICs srv nodeName { vm with node := nodeName }))

def getContainers : Except String (List Pve.Container) := do
  let cts ← getRows srv decodeContainer (lxcPath nodeName)
  .ok (cts.map (fun ct => fetchCTNICs srv nodeName { ct with node := nodeName, type := "lxc" }))

def getStorage : Except String (List Pve.Storage) := do
  let storage ← getRows srv decodeStorage (storagePath nodeName)
  .ok (storage.map (fun entry => { entry with node := nodeName }))

end Requests

end PveClient
