import PCenter.AgentHub
import PCenter.PveClient

/-!
# The agent's client of the Proxmox API

The read requests of `pve-agent/internal/collector/api.go`. The agent decodes the same
documents as the backend into its own raw records, in which the template flag is an
integer, and reads the network options of VMs and containers with two parsers of its
own.
-/

namespace AgentClient

open GoJson GoText AgentWire
open PveClient (Server qemuPath lxcPath storagePath qemuConfigPath lxcConfigPath nicModels)

variable {A : Type}

/-- A GET request; the agent does not look at the field `errors`. -/
def get (srv : Server) (decode : Json → Except String A) (path : String) :
    Except String A := do
  let doc ← srv path
  let resp ← decodeObject doc
  decode (field resp "data")

def getRows (srv : Server) (row : Fields → Except String A) (path : String) :
    Except String (List A) :=
  (get srv (decodeSlice (fun value => decodeObject value >>= row)) path).map (·.getD [])

structure RawNode where
  status : String
  cpu : Rat
  maxCPU : Int64
  mem : Int64
  maxMem : Int64
  disk : Int64
  maxDisk : Int64
  uptime : Int64
  deriving DecidableEq, Repr

def decodeRawNode (o : Fields) : Except String RawNode := do
  let status ← readString o "status"
  let cpu ← readFloat o "cpu"
  let maxCPU ← readInt o "maxcpu"
  let mem ← readInt o "mem"
  let maxMem ← readInt o "maxmem"
  let disk ← readInt o "disk"
  let maxDisk ← readInt o "maxdisk"
  let uptime ← readInt o "uptime"
  .ok ⟨status, cpu, maxCPU, mem, maxMem, disk, maxDisk, uptime⟩

structure RawNodeStatus where
  pveVersion : String
  kVersion : String
  loadAvg : List String
  cores : Int64
  sockets : Int64
  model : String
  deriving DecidableEq, Repr

def decodeRawNodeStatus (value : Json) : Except String RawNodeStatus := do
  let o ← decodeObject value
  let pveVersion ← readString o "pveversion"
  let kVersion ← readString o "kversion"
  let loadAvg ← readStrings o "loadavg"
  let cpuinfo ← decodeObject (field o "cpuinfo")
  let cores ← readInt cpuinfo "cores"
  let sockets ← readInt cpuinfo "sockets"
  let model ← readString cpuinfo "model"
  .ok ⟨pveVersion, kVersion, loadAvg, cores, sockets, model⟩

/-- The node's figures with the details of a second request, if that one succeeded. -/
def nodeStatusOf (node : RawNode) (details : Except String RawNodeStatus) :
    AgentWire.NodeStatus :=
  let basic : AgentWire.NodeStatus :=
    ⟨"online", node.cpu, node.maxCPU, node.mem, node.maxMem, node.disk, node.maxDisk,
      node.uptime, "", "", []⟩
  match details with
  | .error _ => basic
  | .ok d => { basic with pveVersion := d.pveVersion, kVersion := d.kVersion, loadAvg := d.loadAvg }

def decodeVM (o : Fields) : Except String VMStatus := do
  let vmid ← readInt o "vmid"
  let name ← readString o "name"
  let status ← readString o "status"
  let cpu ← readFloat o "cpu"
  let cpus ← readInt o "cpus"
  let mem ← readInt o "mem"
  let maxMem ← readInt o "maxmem"
  let disk ← readInt o "disk"
  let maxDisk ← readInt o "maxdisk"
  let netIn ← readInt o "netin"
  let netOut ← readInt o "netout"
  let diskRead ← readInt o "diskread"
  let diskWrite ← readInt o "diskwrite"
  let uptime ← readInt o "uptime"
  let template ← readInt o "template"
  .ok ⟨vmid, name, status, cpu, cpus, mem, maxMem, disk, maxDisk, netIn, netOut, diskRead,
    diskWrite, uptime, template == 1, []⟩

def decodeCT (o : Fields) : Except String CTStatus := do
  let vmid ← readInt o "vmid"
  let name ← readString o "name"
  let status ← readString o "status"
  let cpu ← readFloat o "cpu"
  let cpus ← readInt o "cpus"
  let mem ← readInt o "mem"
  let maxMem ← readInt o "maxmem"
  let disk ← readInt o "disk"
  let maxDisk ← readInt o "maxdisk"
  let swap ← readInt o "swap"
  let maxSwap ← readInt o "maxswap"
  let netIn ← readInt o "netin"
  let netOut ← readInt o "netout"
  let diskRead ← readInt o "diskread"
  let diskWrite ← readInt o "diskwrite"
  let uptime ← readInt o "uptime"
  let template ← readInt o "template"
  .ok ⟨vmid, name, status, cpu, cpus, mem, maxMem, disk, maxDisk, swap, maxSwap, netIn,
    netOut, diskRead, diskWrite, uptime, template == 1, []⟩

def decodeStorage (o : Fields) : Except String StorageStatus := do
  let storage ← readString o "storage"
  let type ← readString o "type"
  let status ← readString o "status"
  let total ← readInt o "total"
  let used ← readInt o "used"
  let avail ← readInt o "avail"
  let shared ← readInt o "shared"
  let content ← readString o "content"
  .ok ⟨storage, type, status, total, used, avail, shared == 1, content⟩

/-- One part of a VM's `netN` value; a part with a second `=` is passed over. -/
def applyVMPart (nic : AgentWire.GuestNIC) (part : String) : AgentWire.GuestNIC :=
  match split '=' part with
  | [key, value] =>
      if key = "bridge" then { nic with bridge := value }
      else if key = "tag" then
        match sscanfInt value with
        | some tag => { nic with tag := tag }
        | none => nic
      else if key ∈ nicModels then { nic with model := key, mac := value }
      else nic
  | [word] => if word ∈ nicModels then { nic with model := word } else nic
  | _ => nic

def applyCTPart (nic : AgentWire.GuestNIC) (part : String) : AgentWire.GuestNIC :=
  match split '=' part with
  | [key, value] =>
      if key = "bridge" then { nic with bridge := value }
      else if key = "hwaddr" then { nic with mac := value }
      else if key = "tag" then
        match sscanfInt value with
        | some tag => { nic with tag := tag }
        | none => nic
      else nic
  | _ => nic

def parseVMNetConfig (name config : String) : AgentWire.GuestNIC :=
  (split ',' config).foldl applyVMPart { (default : AgentWire.GuestNIC) with name := name }

def parseCTNetConfig (name config : String) : AgentWire.GuestNIC :=
  (split ',' config).foldl applyCTPart { (default : AgentWire.GuestNIC) with name := name }

/-- The names the agent looks for: `net0` to `net9`. -/
def netKeys : List String := (List.range 10).map (fun i => "net" ++ toString i)

def collectNICs (parse : String → String → AgentWire.GuestNIC) (cfg : Fields) :
    List AgentWire.GuestNIC :=
  netKeys.filterMap (fun key =>
    match field cfg key with
    | .str value => if (parse key value).bridge ≠ "" then some (parse key value) else none
    | _ => none)

section Requests

variable (srv : Server) (nodeName : String)

/-- The first row with any status is taken for the agent's own node. -/
def getNodeStatus : Except String AgentWire.NodeStatus := do
  let nodes ← getRows srv decodeRawNode "/nodes"
  match nodes.find? (·.status != "") with
  | none => .error "node not found"
  | some node =>
      .ok (nodeStatusOf node
        (get srv decodeRawNodeStatus ("/nodes/" ++ nodeName ++ "/status")))

def getVMNICs (vmid : Int64) : Except String (List AgentWire.GuestNIC) := do
  let cfg ← get srv decodeObject (qemuConfigPath nodeName vmid)
  .ok (collectNICs parseVMNetConfig cfg)

def getCTNICs (vmid : Int64) : Except String (List AgentWire.GuestNIC) := do
  let cfg ← get srv decodeObject (lxcConfigPath nodeName vmid)
  .ok (collectNICs parseCTNetConfig cfg)

def getVMs : Except String (List VMStatus) := do
  let vms ← getRows srv decodeVM (qemuPath nodeName)
  .ok (vms.map (fun vm => { vm with nics := Poller.orNil (getVMNICs srv nodeName vm.vmid) }))

def getContainers : Except String (List CTStatus) := do
  let cts ← getRows srv decodeCT (lxcPath nodeName)
  .ok (cts.map (fun ct => { ct with nics := Poller.orNil (getCTNICs srv nodeName ct.vmid) }))

def getStorage : Except String (List StorageStatus) :=
  getRows srv decodeStorage (storagePath nodeName)

end Requests

end AgentClient
