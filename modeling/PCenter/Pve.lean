import PCenter.Lib.FiniteMap
import PCenter.Lib.Json

/-!
# Records of the Proxmox API as the backend keeps them

The records of `internal/pve/types.go` that reach the state store, with Go's `int`
and `int64` as 64-bit words and `float64` as the rational it denotes. A nil slice
and an empty one are told apart only where the source does.
-/

namespace Pve

/-- A network interface of a guest: `net0`, `net1` and so on. -/
structure GuestNIC where
  name : String
  bridge : String
  mac : String
  model : String
  tag : Int64
  deriving DecidableEq, Repr, Inhabited

structure Node where
  cluster : String
  node : String
  status : String
  cpu : Rat
  maxCPU : Int64
  mem : Int64
  maxMem : Int64
  disk : Int64
  maxDisk : Int64
  uptime : Int64
  sslFingerprint : String
  deriving DecidableEq, Repr, Inhabited

/-- Detailed node status, from `/nodes/{node}/status`. -/
structure NodeStatus where
  pveVersion : String
  kernelVersion : String
  cpuModel : String
  cpuCores : Int64
  cpuSockets : Int64
  bootMode : String
  loadAvg : List String
  deriving DecidableEq, Repr, Inhabited

structure VmStats where
  node : String
  pgpgIn : Int64
  pgpgOut : Int64
  pswpIn : Int64
  pswpOut : Int64
  pgFault : Int64
  pgMajFault : Int64
  deriving DecidableEq, Repr, Inhabited

/-- A QEMU virtual machine. -/
structure VM where
  cluster : String
  vmid : Int64
  name : String
  node : String
  status : String
  cpu : Rat
  cpus : Int64
  mem : Int64
  maxMem : Int64
  disk : Int64
  maxDisk : Int64
  uptime : Int64
  netIn : Int64
  netOut : Int64
  diskRead : Int64
  diskWrite : Int64
  template : Bool
  tags : String
  haState : String
  nics : List GuestNIC
  deriving DecidableEq, Repr, Inhabited

/-- An LXC container. -/
structure Container where
  cluster : String
  vmid : Int64
  name : String
  node : String
  status : String
  cpu : Rat
  cpus : Int64
  mem : Int64
  maxMem : Int64
  swap : Int64
  maxSwap : Int64
  disk : Int64
  maxDisk : Int64
  uptime : Int64
  netIn : Int64
  netOut : Int64
  diskRead : Int64
  diskWrite : Int64
  type : String
  template : Bool
  tags : String
  haState : String
  nics : List GuestNIC
  deriving DecidableEq, Repr, Inhabited

structure Storage where
  cluster : String
  storage : String
  node : String
  type : String
  status : String
  active : Int64
  enabled : Int64
  shared : Int64
  content : String
  used : Int64
  avail : Int64
  total : Int64
  deriving DecidableEq, Repr, Inhabited

structure CephHealthCheck where
  severity : String
  count : Int64
  message : String
  detail : List String
  muted : Bool
  deriving DecidableEq, Repr, Inhabited

structure CephStatus where
  healthStatus : String
  checks : List (String × CephHealthCheck)
  bytesUsed : Int64
  bytesAvail : Int64
  bytesTotal : Int64
  deriving DecidableEq, Repr, Inhabited

/-- A network interface of a node; the VLAN id is an untyped JSON value. -/
structure NetworkInterface where
  cluster : String
  node : String
  iface : String
  type : String
  active : Int64
  autostart : Int64
  method : String
  method6 : String
  address : String
  netmask : String
  gateway : String
  cidr : String
  address6 : String
  netmask6 : String
  gateway6 : String
  bridgePorts : String
  bridgeSTP : String
  bridgeFD : String
  bridgeVlanAware : Int64
  bondSlaves : String
  bondMode : String
  bondPrimary : String
  vlanRawDevice : String
  vlanID : GoJson.Json
  mtu : Int64
  comments : String

/-- The figures of a node that DRS, the alarms and the dashboard read. -/
structure NodeFigures where
  cpu : Rat
  maxCPU : Int64
  mem : Int64
  maxMem : Int64
  disk : Int64
  maxDisk : Int64
  uptime : Int64
  deriving DecidableEq, Repr, Inhabited

def Node.figures (n : Node) : NodeFigures where
  cpu := n.cpu
  maxCPU := n.maxCPU
  mem := n.mem
  maxMem := n.maxMem
  disk := n.disk
  maxDisk := n.maxDisk
  uptime := n.uptime

/-- What a node that reports nothing looks like. -/
def NodeFigures.zero : NodeFigures := ⟨0, 0, 0, 0, 0, 0, 0⟩

/-- The figures of a guest; a VM has no swap. -/
structure GuestFigures where
  cpu : Rat
  cpus : Int64
  mem : Int64
  maxMem : Int64
  swap : Int64
  maxSwap : Int64
  disk : Int64
  maxDisk : Int64
  uptime : Int64
  netIn : Int64
  netOut : Int64
  diskRead : Int64
  diskWrite : Int64
  deriving DecidableEq, Repr

/-- What the rest of the backend reads of a guest. -/
structure GuestView where
  name : String
  status : String
  figures : GuestFigures
  template : Bool
  nics : List GuestNIC
  deriving DecidableEq, Repr

def VM.view (vm : VM) : GuestView where
  name := vm.name
  status := vm.status
  figures :=
    ⟨vm.cpu, vm.cpus, vm.mem, vm.maxMem, 0, 0, vm.disk, vm.maxDisk, vm.uptime, vm.netIn,
      vm.netOut, vm.diskRead, vm.diskWrite⟩
  template := vm.template
  nics := vm.nics

def Container.view (ct : Container) : GuestView where
  name := ct.name
  status := ct.status
  figures :=
    ⟨ct.cpu, ct.cpus, ct.mem, ct.maxMem, ct.swap, ct.maxSwap, ct.disk, ct.maxDisk,
      ct.uptime, ct.netIn, ct.netOut, ct.diskRead, ct.diskWrite⟩
  template := ct.template
  nics := ct.nics

/-- The same guest, whatever the order of its NICs. -/
structure SameGuest (a b : GuestView) : Prop where
  name : a.name = b.name
  status : a.status = b.status
  figures : a.figures = b.figures
  template : a.template = b.template
  nics : ∀ nic, nic ∈ a.nics ↔ nic ∈ b.nics

structure StorageFigures where
  storage : String
  used : Int64
  avail : Int64
  total : Int64
  deriving DecidableEq, Repr

def Storage.figures (s : Storage) : StorageFigures := ⟨s.storage, s.used, s.avail, s.total⟩

end Pve
