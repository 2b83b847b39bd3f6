import PCenter.Lib.Json

/-!
# The status message between agent and backend

The records of `pve-agent/internal/types/types.go`, the JSON the agent writes for them
and the reading of that JSON into the records of `internal/agent/hub.go`. The two sides
declare the same fields under the same names, so one record stands for both.

The lists of guests are slices without `omitempty`: a nil slice travels as null and
comes back as nil. The other lists are omitted when they are empty. The HA state of a
guest, the system metrics and the SMART report are left out: the collector never sets
the first, and the backend's handling of the status reads none of them for the guests,
the storage or the figures.
-/

namespace AgentWire

open GoJson

structure NodeStatus where
  status : String
  cpu : Rat
  maxCPU : Int64
  mem : Int64
  maxMem : Int64
  disk : Int64
  maxDisk : Int64
  uptime : Int64
  pveVersion : String
  kVersion : String
  loadAvg : List String
  deriving DecidableEq, Repr, Inhabited

structure GuestNIC where
  name : String
  bridge : String
  mac : String
  model : String
  tag : Int64
  deriving DecidableEq, Repr, Inhabited

structure VMStatus where
  vmid : Int64
  name : String
  status : String
  cpu : Rat
  cpus : Int64
  mem : Int64
  maxMem : Int64
  disk : Int64
  maxDisk : Int64
  netIn : Int64
  netOut : Int64
  diskRead : Int64
  diskWrite : Int64
  uptime : Int64
  template : Bool
  nics : List GuestNIC
  deriving DecidableEq, Repr, Inhabited

structure CTStatus where
  vmid : Int64
  name : String
  status : String
  cpu : Rat
  cpus : Int64
  mem : Int64
  maxMem : Int64
  disk : Int64
  maxDisk : Int64
  swap : Int64
  maxSwap : Int64
  netIn : Int64
  netOut : Int64
  diskRead : Int64
  diskWrite : Int64
  uptime : Int64
  template : Bool
  nics : List GuestNIC
  deriving DecidableEq, Repr, Inhabited

structure StorageStatus where
  storage : String
  type : String
  status : String
  total : Int64
  used : Int64
  avail : Int64
  shared : Bool
  content : String
  deriving DecidableEq, Repr, Inhabited

structure NetworkInterface where
  iface : String
  type : String
  active : Int64
  autostart : Int64
  method : String
  method6 : String
  address : String
  netmask : String
  gateway : String
  cidr : String
  address6 : String
  netmask6 : String
  gateway6 : String
  bridgePorts : String
  bridgeSTP : String
  bridgeFD : String
  bondSlaves : String
  bondMode : String
  vlanID : Int64
  vlanRawDev : String
  mtu : Int64
  comments : String
  deriving DecidableEq, Repr, Inhabited

structure HealthCheck where
  name : String
  severity : String
  summary : String
  deriving DecidableEq, Repr, Inhabited

structure CephStatus where
  health : String
  healthChecks : List HealthCheck
  bytesTotal : Int64
  bytesUsed : Int64
  bytesAvail : Int64
  numOSDs : Int64
  numUpOSDs : Int64
  numInOSDs : Int64
  numMons : Int64
  deriving DecidableEq, Repr, Inhabited

/-- The full state of a node; `none` for a list of guests is a nil slice. -/
structure StatusData where
  node : String
  cluster : String
  nodeStatus : Option NodeStatus
  vms : Option (List VMStatus)
  containers : Option (List CTStatus)
  storage : List StorageStatus
  networks : List NetworkInterface
  ceph : Option CephStatus
  deriving DecidableEq, Repr, Inhabited

/-! ## Writing -/

def NodeStatus.fields (ns : NodeStatus) : Fields :=
  putString "status" ns.status ++ emit "cpu" (.float ns.cpu) ++ putInt "maxcpu" ns.maxCPU ++
  putInt "mem" ns.mem ++ putInt "maxmem" ns.maxMem ++ putInt "disk" ns.disk ++
  putInt "maxdisk" ns.maxDisk ++ putInt "uptime" ns.uptime ++
  omitString "pveversion" ns.pveVersion ++ omitString "kversion" ns.kVersion ++
  omitEmpty ns.loadAvg.isEmpty "loadavg" (.arr (ns.loadAvg.map .str))

def GuestNIC.fields (nic : GuestNIC) : Fields :=
  putString "name" nic.name ++ putString "bridge" nic.bridge ++ omitString "mac" nic.mac ++
  omitString "model" nic.model ++ omitInt "tag" nic.tag

def VMStatus.fields (vm : VMStatus) : Fields :=
  putInt "vmid" vm.vmid ++ putString "name" vm.name ++ putString "status" vm.status ++
  emit "cpu" (.float vm.cpu) ++ putInt "cpus" vm.cpus ++ putInt "mem" vm.mem ++
  putInt "maxmem" vm.maxMem ++ putInt "disk" vm.disk ++ putInt "maxdisk" vm.maxDisk ++
  putInt "netin" vm.netIn ++ putInt "netout" vm.netOut ++ putInt "diskread" vm.diskRead ++
  putInt "diskwrite" vm.diskWrite ++ putInt "uptime" vm.uptime ++
  emit "template" (.bool vm.template) ++ omitList "nics" GuestNIC.fields vm.nics

def CTStatus.fields (ct : CTStatus) : Fields :=
  putInt "vmid" ct.vmid ++ putString "name" ct.name ++ putString "status" ct.status ++
  emit "cpu" (.float ct.cpu) ++ putInt "cpus" ct.cpus ++ putInt "mem" ct.mem ++
  putInt "maxmem" ct.maxMem ++ putInt "disk" ct.disk ++ putInt "maxdisk" ct.maxDisk ++
  putInt "swap" ct.swap ++ putInt "maxswap" ct.maxSwap ++ putInt "netin" ct.netIn ++
  putInt "netout" ct.netOut ++ putInt "diskread" ct.diskRead ++
  putInt "diskwrite" ct.diskWrite ++ putInt "uptime" ct.uptime ++
  emit "template" (.bool ct.template) ++ omitList "nics" GuestNIC.fields ct.nics

def StorageStatus.fields (st : StorageStatus) : Fields :=
  putString "storage" st.storage ++ putString "type" st.type ++
  putString "status" st.status ++ putInt "total" st.total ++ putInt "used" st.used ++
  putInt "avail" st.avail ++ emit "shared" (.bool st.shared) ++
  putString "content" st.content

def NetworkInterface.fields (n : NetworkInterface) : Fields :=
  putString "iface" n.iface ++ putString "type" n.type ++ putInt "active" n.active ++
  putInt "autostart" n.autostart ++ omitString "method" n.method ++
  omitString "method6" n.method6 ++ omitString "address" n.address ++
  omitString "netmask" n.netmask ++ omitString "gateway" n.gateway ++
  omitString "cidr" n.cidr ++ omitString "address6" n.address6 ++
  omitString "netmask6" n.netmask6 ++ omitString "gateway6" n.gateway6 ++
  omitString "bridge_ports" n.bridgePorts ++ omitString "bridge_stp" n.bridgeSTP ++
  omitString "bridge_fd" n.bridgeFD ++ omitString "bond-slaves" n.bondSlaves ++
  omitString "bond_mode" n.bondMode ++ omitInt "vlan-id" n.vlanID ++
  omitString "vlan-raw-device" n.vlanRawDev ++ omitInt "mtu" n.mtu ++
  omitString "comments" n.comments

def HealthCheck.fields (hc : HealthCheck) : Fields :=
  putString "name" hc.name ++ putString "severity" hc.severity ++
  putString "summary" hc.summary

def CephStatus.fields (c : CephStatus) : Fields :=
  putString "health" c.health ++
  omitList "health_checks" HealthCheck.fields c.healthChecks ++
  emit "pgmap" (.obj (putInt "bytes_total" c.bytesTotal ++ putInt "bytes_used" c.bytesUsed ++
    putInt "bytes_avail" c.bytesAvail)) ++
  emit "osdmap" (.obj (putInt "num_osds" c.numOSDs ++ putInt "num_up_osds" c.numUpOSDs ++
    putInt "num_in_osds" c.numInOSDs)) ++
  emit "monmap" (.obj (putInt "num_mons" c.numMons))

def StatusData.fields (s : StatusData) : Fields :=
  putString "node" s.node ++ putString "cluster" s.cluster ++
  emit "node_status" (encodePointer (fun ns => .obj ns.fields) s.nodeStatus) ++
  emit "vms" (encodeSlice (fun vm => .obj vm.fields) s.vms) ++
  emit "containers" (encodeSlice (fun ct => .obj ct.fields) s.containers) ++
  omitList "storage" StorageStatus.fields s.storage ++
  omitList "networks" NetworkInterface.fields s.networks ++
  omitEmpty s.ceph.isNone "ceph" (encodePointer (fun c => .obj c.fields) s.ceph)

def StatusData.encode (s : StatusData) : Json := .obj s.fields

/-! ## Reading -/

def NodeStatus.ofFields (o : Fields) : Except String NodeStatus := do
  let status ← readString o "status"
  let cpu ← readFloat o "cpu"
  let maxCPU ← readInt o "maxcpu"
  let mem ← readInt o "mem"
  let maxMem ← readInt o "maxmem"
  let disk ← readInt o "disk"
  let maxDisk ← readInt o "maxdisk"
  let uptime ← readInt o "uptime"
  let pveVersion ← readString o "pveversion"
  let kVersion ← readString o "kversion"
  let loadAvg ← readStrings o "loadavg"
  .ok ⟨status, cpu, maxCPU, mem, maxMem, disk, maxDisk, uptime, pveVersion, kVersion, loadAvg⟩

def GuestNIC.ofFields (o : Fields) : Except String GuestNIC := do
  let name ← readString o "name"
  let bridge ← readString o "bridge"
  let mac ← readString o "mac"
  let model ← readString o "model"
  let tag ← readInt o "tag"
  .ok ⟨name, bridge, mac, model, tag⟩

def VMStatus.ofFields (o : Fields) : Except String VMStatus := do
  let vmid ← readInt o "vmid"
  let name ← readString o "name"
  let status ← readString o "status"
  let cpu ← readFloat o "cpu"
  let cpus ← readInt o "cpus"
  let mem ← readInt o "mem"
  let maxMem ← readInt o "maxmem"
  let disk ← readInt o "disk"
  let maxDisk ← readInt o "maxdisk"
  let netIn ← readInt o "netin"
  let netOut ← readInt o "netout"
  let diskRead ← readInt o "diskread"
  let diskWrite ← readInt o "diskwrite"
  let uptime ← readInt o "uptime"
  let template ← readBool o "template"
  let nics ← readList o "nics" GuestNIC.ofFields
  .ok ⟨vmid, name, status, cpu, cpus, mem, maxMem, disk, maxDisk, netIn, netOut, diskRead,
    diskWrite, uptime, template, nics⟩

def CTStatus.ofFields (o : Fields) : Except String CTStatus := do
  let vmid ← readInt o "vmid"
  let name ← readString o "name"
  let status ← readString o "status"
  let cpu ← readFloat o "cpu"
  let cpus ← readInt o "cpus"
  let mem ← readInt o "mem"
  let maxMem ← readInt o "maxmem"
  let disk ← readInt o "disk"
  let maxDisk ← readInt o "maxdisk"
  let swap ← readInt o "swap"
  let maxSwap ← readInt o "maxswap"
  let netIn ← readInt o "netin"
  let netOut ← readInt o "netout"
  let diskRead ← readInt o "diskread"
  let diskWrite ← readInt o "diskwrite"
  let uptime ← readInt o "uptime"
  let template ← readBool o "template"
  let nics ← readList o "nics" GuestNIC.ofFields
  .ok ⟨vmid, name, status, cpu, cpus, mem, maxMem, disk, maxDisk, swap, maxSwap, netIn,
    netOut, diskRead, diskWrite, uptime, template, nics⟩

def StorageStatus.ofFields (o : Fields) : Except String StorageStatus := do
  let storage ← readString o "storage"
  let type ← readString o "type"
  let status ← readString o "status"
  let total ← readInt o "total"
  let used ← readInt o "used"
  let avail ← readInt o "avail"
  let shared ← readBool o "shared"
  let content ← readString o "content"
  .ok ⟨storage, type, status, total, used, avail, shared, content⟩

def NetworkInterface.ofFields (o : Fields) : Except String NetworkInterface := do
  let iface ← readString o "iface"
  let type ← readString o "type"
  let active ← readInt o "active"
  let autostart ← readInt o "autostart"
  let method ← readString o "method"
  let method6 ← readString o "method6"
  let address ← readString o "address"
  let netmask ← readString o "netmask"
  let gateway ← readString o "gateway"
  let cidr ← readString o "cidr"
  let address6 ← readString o "address6"
  let netmask6 ← readString o "netmask6"
  let gateway6 ← readString o "gateway6"
  let bridgePorts ← readString o "bridge_ports"
  let bridgeSTP ← readString o "bridge_stp"
  let bridgeFD ← readString o "bridge_fd"
  let bondSlaves ← readString o "bond-slaves"
  let bondMode ← readString o "bond_mode"
  let vlanID ← readInt o "vlan-id"
  let vlanRawDev ← readString o "vlan-raw-device"
  let mtu ← readInt o "mtu"
  let comments ← readString o "comments"
  .ok ⟨iface, type, active, autostart, method, method6, address, netmask, gateway, cidr,
    address6, netmask6, gateway6, bridgePorts, bridgeSTP, bridgeFD, bondSlaves, bondMode,
    vlanID, vlanRawDev, mtu, comments⟩

def HealthCheck.ofFields (o : Fields) : Except String HealthCheck := do
  let name ← readString o "name"
  let severity ← readString o "severity"
  let summary ← readString o "summary"
  .ok ⟨name, severity, summary⟩

def CephStatus.ofFields (o : Fields) : Except String CephStatus := do
  let health ← readString o "health"
  let healthChecks ← readList o "health_checks" HealthCheck.ofFields
  let pgmap ← decodeObject (field o "pgmap")
  let bytesTotal ← readInt pgmap "bytes_total"
  let bytesUsed ← readInt pgmap "bytes_used"
  let bytesAvail ← readInt pgmap "bytes_avail"
  let osdmap ← decodeObject (field o "osdmap")
  let numOSDs ← readInt osdmap "num_osds"
  let numUpOSDs ← readInt osdmap "num_up_osds"
  let numInOSDs ← readInt osdmap "num_in_osds"
  let monmap ← decodeObject (field o "monmap")
  let numMons ← readInt monmap "num_mons"
  .ok ⟨health, healthChecks, bytesTotal, bytesUsed, bytesAvail, numOSDs, numUpOSDs,
    numInOSDs, numMons⟩

def StatusData.ofFields (o : Fields) : Except String StatusData := do
  let node ← readString o "node"
  let cluster ← readString o "cluster"
  let nodeStatus ← decodePointer (fun value => decodeObject value >>= NodeStatus.ofFields)
    (field o "node_status")
  let vms ← decodeSlice (fun value => decodeObject value >>= VMStatus.ofFields) (field o "vms")
  let containers ← decodeSlice (fun value => decodeObject value >>= CTStatus.ofFields)
    (field o "containers")
  let storage ← readList o "storage" StorageStatus.ofFields
  let networks ← readList o "networks" NetworkInterface.ofFields
  let ceph ← decodePointer (fun value => decodeObject value >>= CephStatus.ofFields)
    (field o "ceph")
  .ok ⟨node, cluster, nodeStatus, vms, containers, storage, networks, ceph⟩

def StatusData.decode (value : Json) : Except String StatusData :=
  decodeObject value >>= StatusData.ofFields

/-! ## The message survives the wire -/

section Laws

attribute [local congr] bind_congr_left
attribute [local simp] readString readInt readFloat readBool readStrings readList
  putString putInt omitString omitInt omitList

theorem GuestNIC.ofFields_fields (nic : GuestNIC) :
    GuestNIC.ofFields nic.fields = .ok nic := by
  unfold GuestNIC.ofFields GuestNIC.fields
  simp

theorem StorageStatus.ofFields_fields (st : StorageStatus) :
    StorageStatus.ofFields st.fields = .ok st := by
  unfold StorageStatus.ofFields StorageStatus.fields
  simp

theorem HealthCheck.ofFields_fields (hc : HealthCheck) :
    HealthCheck.ofFields hc.fields = .ok hc := by
  unfold HealthCheck.ofFields HealthCheck.fields
  simp

theorem NodeStatus.ofFields_fields (ns : NodeStatus) :
    NodeStatus.ofFields ns.fields = .ok ns := by
  have strings := decodeList_omitted decodeString_str ns.loadAvg
  unfold NodeStatus.ofFields NodeStatus.fields
  simp [strings]

theorem VMStatus.ofFields_fields (vm : VMStatus) :
    VMStatus.ofFields vm.fields = .ok vm := by
  have nics := decodeRecords_omitted GuestNIC.ofFields_fields vm.nics
  unfold VMStatus.ofFields VMStatus.fields
  simp [nics]

theorem CTStatus.ofFields_fields (ct : CTStatus) :
    CTStatus.ofFields ct.fields = .ok ct := by
  have nics := decodeRecords_omitted GuestNIC.ofFields_fields ct.nics
  unfold CTStatus.ofFields CTStatus.fields
  simp [nics]

theorem NetworkInterface.ofFields_fields (n : NetworkInterface) :
    NetworkInterface.ofFields n.fields = .ok n := by
  unfold NetworkInterface.ofFields NetworkInterface.fields
  simp

theorem CephStatus.ofFields_fields (c : CephStatus) :
    CephStatus.ofFields c.fields = .ok c := by
  have checks := decodeRecords_omitted HealthCheck.ofFields_fields c.healthChecks
  unfold CephStatus.ofFields CephStatus.fields
  simp [checks]

/-- Every message the agent sends is read as the message that was sent. -/
theorem decode_encode (s : StatusData) : StatusData.decode s.encode = .ok s := by
  have nodeStatus := decodeRecordPointer NodeStatus.ofFields_fields s.nodeStatus
  have vms := decodeRecordSlice VMStatus.ofFields_fields s.vms
  have containers := decodeRecordSlice CTStatus.ofFields_fields s.containers
  have storage := decodeRecords_omitted StorageStatus.ofFields_fields s.storage
  have networks := decodeRecords_omitted NetworkInterface.ofFields_fields s.networks
  have ceph := decodeRecordPointer_omitted CephStatus.ofFields_fields s.ceph
  unfold StatusData.encode StatusData.decode StatusData.ofFields StatusData.fields
  simp [nodeStatus, vms, containers, storage, networks, ceph]

end Laws

end AgentWire
