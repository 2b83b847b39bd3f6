import PCenter.NicOptions

/-!
# The content of the API of a node

What the node list, the guest lists, the storage list and the network options of the
guests are, with every request answered. The rows are JSON objects in which the fields
that the two clients read have their documented types, and the template flag of a guest
is absent or the integer 0 or 1. On such a content the answers of both clients are
computed here row by row.
-/

namespace PveContent

open GoJson NicOptions
open PveClient (Server qemuPath lxcPath storagePath qemuConfigPath lxcConfigPath)

section Rows

variable {A : Type}

/-- The fields of a row under the given names are absent or have the right type. -/
def Typed (read : Fields → String → Except String A) (names : List String) (row : Fields) :
    Prop :=
  ∀ name ∈ names, (read row name).isOk = true

instance (read : Fields → String → Except String A) (names : List String) (row : Fields) :
    Decidable (Typed read names row) :=
  inferInstanceAs (Decidable (∀ name ∈ names, (read row name).isOk = true))

theorem ok_of_isOk {answer : Except String A} (succeeded : answer.isOk = true) :
    ∃ a, answer = .ok a := by
  cases answer with
  | ok a => exact ⟨a, rfl⟩
  | error err => cases succeeded

def intOf (row : Fields) (name : String) : Int64 := (readInt row name).toOption.getD 0

def floatOf (row : Fields) (name : String) : Rat := (readFloat row name).toOption.getD 0

def stringOf (row : Fields) (name : String) : String := (readString row name).toOption.getD ""

abbrev nodeInts : List String := ["maxcpu", "mem", "maxmem", "disk", "maxdisk", "uptime"]

abbrev nodeStrings : List String := ["node", "status", "ssl_fingerprint"]

abbrev guestInts : List String :=
  ["vmid", "cpus", "mem", "maxmem", "swap", "maxswap", "disk", "maxdisk", "uptime", "netin",
    "netout", "diskread", "diskwrite"]

abbrev guestStrings : List String := ["name", "status", "type", "tags", "ha_state"]

abbrev storageInts : List String := ["active", "enabled", "shared", "used", "avail", "total"]

abbrev storageStrings : List String := ["storage", "type", "status", "content"]

structure NodeRow (row : Fields) : Prop where
  ints : Typed readInt nodeInts row
  floats : Typed readFloat ["cpu"] row
  strings : Typed readString nodeStrings row

structure GuestRow (row : Fields) : Prop where
  ints : Typed readInt guestInts row
  floats : Typed readFloat ["cpu"] row
  strings : Typed readString guestStrings row
  template : field row "template" = .null ∨ field row "template" = .int 0 ∨
    field row "template" = .int 1

structure StorageRow (row : Fields) : Prop where
  ints : Typed readInt storageInts row
  strings : Typed readString storageStrings row

variable {row : Fields} {names : List String} {name : String}

theorem readInt_typed (typed : Typed readInt names row) (listed : name ∈ names) :
    readInt row name = .ok (intOf row name) := by
  obtain ⟨n, read⟩ := ok_of_isOk (typed name listed)
  rw [intOf, read]
  rfl

theorem readFloat_typed (typed : Typed readFloat names row) (listed : name ∈ names) :
    readFloat row name = .ok (floatOf row name) := by
  obtain ⟨q, read⟩ := ok_of_isOk (typed name listed)
  rw [floatOf, read]
  rfl

theorem readString_typed (typed : Typed readString names row) (listed : name ∈ names) :
    readString row name = .ok (stringOf row name) := by
  obtain ⟨s, read⟩ := ok_of_isOk (typed name listed)
  rw [stringOf, read]
  rfl

/-- The figures a row of the node list carries. -/
def rowFigures (row : Fields) : Pve.NodeFigures :=
  ⟨floatOf row "cpu", intOf row "maxcpu", intOf row "mem", intOf row "maxmem",
    intOf row "disk", intOf row "maxdisk", intOf row "uptime"⟩

def polledNode (row : Fields) : Pve.Node :=
  ⟨"", stringOf row "node", stringOf row "status", floatOf row "cpu", intOf row "maxcpu",
    intOf row "mem", intOf row "maxmem", intOf row "disk", intOf row "maxdisk",
    intOf row "uptime", stringOf row "ssl_fingerprint"⟩

def agentNode (row : Fields) : AgentClient.RawNode :=
  ⟨stringOf row "status", floatOf row "cpu", intOf row "maxcpu", intOf row "mem",
    intOf row "maxmem", intOf row "disk", intOf row "maxdisk", intOf row "uptime"⟩

def polledVM (row : Fields) : Pve.VM :=
  ⟨"", intOf row "vmid", stringOf row "name", "", stringOf row "status", floatOf row "cpu",
    intOf row "cpus", intOf row "mem", intOf row "maxmem", intOf row "disk",
    intOf row "maxdisk", intOf row "uptime", intOf row "netin", intOf row "netout",
    intOf row "diskread", intOf row "diskwrite", false, stringOf row "tags",
    stringOf row "ha_state", []⟩

def agentVM (row : Fields) : AgentWire.VMStatus :=
  ⟨intOf row "vmid", stringOf row "name", stringOf row "status", floatOf row "cpu",
    intOf row "cpus", intOf row "mem", intOf row "maxmem", intOf row "disk",
    intOf row "maxdisk", intOf row "netin", intOf row "netout", intOf row "diskread",
    intOf row "diskwrite", intOf row "uptime", intOf row "template" == 1, []⟩

def polledContainer (row : Fields) : Pve.Container :=
  ⟨"", intOf row "vmid", stringOf row "name", "", stringOf row "status", floatOf row "cpu",
    intOf row "cpus", intOf row "mem", intOf row "maxmem", intOf row "swap",
    intOf row "maxswap", intOf row "disk", intOf row "maxdisk", intOf row "uptime",
    intOf row "netin", intOf row "netout", intOf row "diskread", intOf row "diskwrite",
    stringOf row "type", false, stringOf row "tags", stringOf row "ha_state", []⟩

def agentCT (row : Fields) : AgentWire.CTStatus :=
  ⟨intOf row "vmid", stringOf row "name", stringOf row "status", floatOf row "cpu",
    intOf row "cpus", intOf row "mem", intOf row "maxmem", intOf row "disk",
    intOf row "maxdisk", intOf row "swap", intOf row "maxswap", intOf row "netin",
    intOf row "netout", intOf row "diskread", intOf row "diskwrite", intOf row "uptime",
    intOf row "template" == 1, []⟩

def polledStorage (row : Fields) : Pve.Storage :=
  ⟨"", stringOf row "storage", "", stringOf row "type", stringOf row "status",
    intOf row "active", intOf row "enabled", intOf row "shared", stringOf row "content",
    intOf row "used", intOf row "avail", intOf row "total"⟩

def agentStorage (row : Fields) : AgentWire.StorageStatus :=
  ⟨stringOf row "storage", stringOf row "type", stringOf row "status", intOf row "total",
    intOf row "used", intOf row "avail", intOf row "shared" == 1, stringOf row "content"⟩

end Rows

section Decoding

variable {row : Fields}

attribute [local congr] bind_congr_left

theorem decodeNode_eq (typed : NodeRow row) :
    PveClient.decodeNode row = .ok (polledNode row) := by
  have int : ∀ name ∈ nodeInts, readInt row name = .ok (intOf row name) :=
    fun _ => readInt_typed typed.ints
  have float : ∀ name ∈ ["cpu"], readFloat row name = .ok (floatOf row name) :=
    fun _ => readFloat_typed typed.floats
  have string : ∀ name ∈ nodeStrings, readString row name = .ok (stringOf row name) :=
    fun _ => readString_typed typed.strings
  unfold PveClient.decodeNode polledNode
  simp [int, float, string]

theorem decodeRawNode_eq (typed : NodeRow row) :
    AgentClient.decodeRawNode row = .ok (agentNode row) := by
  have int : ∀ name ∈ nodeInts, readInt row name = .ok (intOf row name) :=
    fun _ => readInt_typed typed.ints
  have float : ∀ name ∈ ["cpu"], readFloat row name = .ok (floatOf row name) :=
    fun _ => readFloat_typed typed.floats
  have string : ∀ name ∈ nodeStrings, readString row name = .ok (stringOf row name) :=
    fun _ => readString_typed typed.strings
  unfold AgentClient.decodeRawNode agentNode
  simp [int, float, string]

/-- The agent reads the flag as an integer, whatever it is. -/
theorem template_typed (typed : GuestRow row) :
    readInt row "template" = .ok (intOf row "template") := by
  unfold intOf readInt
  rcases typed.template with absent | off | on
  · rw [absent]
    rfl
  · rw [off]
    rfl
  · rw [on]
    rfl

theorem template_absent (absent : field row "template" = .null) :
    readBool row "template" = .ok false ∧ intOf row "template" = 0 := by
  unfold readBool intOf readInt
  rw [absent]
  exact ⟨rfl, rfl⟩

/-- The backend's client declares it as a bool, so an integer is refused. -/
theorem template_refused (typed : GuestRow row) (present : field row "template" ≠ .null) :
    ∃ err, readBool row "template" = .error err := by
  unfold readBool
  rcases typed.template with absent | off | on
  · exact absurd absent present
  · rw [off]
    exact ⟨_, rfl⟩
  · rw [on]
    exact ⟨_, rfl⟩

theorem decodeVM_eq (typed : GuestRow row)
    (absent : field row "template" = .null) :
    PveClient.decodeVM row = .ok (polledVM row) := by
  have int : ∀ name ∈ guestInts, readInt row name = .ok (intOf row name) :=
    fun _ => readInt_typed typed.ints
  have float : ∀ name ∈ ["cpu"], readFloat row name = .ok (floatOf row name) :=
    fun _ => readFloat_typed typed.floats
  have string : ∀ name ∈ guestStrings, readString row name = .ok (stringOf row name) :=
    fun _ => readString_typed typed.strings
  have flag := (template_absent absent).1
  unfold PveClient.decodeVM polledVM
  simp [int, float, string, flag]

theorem decodeAgentVM_eq (typed : GuestRow row) :
    AgentClient.decodeVM row = .ok (agentVM row) := by
  have int : ∀ name ∈ guestInts, readInt row name = .ok (intOf row name) :=
    fun _ => readInt_typed typed.ints
  have float : ∀ name ∈ ["cpu"], readFloat row name = .ok (floatOf row name) :=
    fun _ => readFloat_typed typed.floats
  have string : ∀ name ∈ guestStrings, readString row name = .ok (stringOf row name) :=
    fun _ => readString_typed typed.strings
  have flag := template_typed typed
  unfold AgentClient.decodeVM agentVM
  simp [int, float, string, flag]

theorem decodeContainer_eq (typed : GuestRow row)
    (absent : field row "template" = .null) :
    PveClient.decodeContainer row = .ok (polledContainer row) := by
  have int : ∀ name ∈ guestInts, readInt row name = .ok (intOf row name) :=
    fun _ => readInt_typed typed.ints
  have float : ∀ name ∈ ["cpu"], readFloat row name = .ok (floatOf row name) :=
    fun _ => readFloat_typed typed.floats
  have string : ∀ name ∈ guestStrings, readString row name = .ok (stringOf row name) :=
    fun _ => readString_typed typed.strings
  have flag := (template_absent absent).1
  unfold PveClient.decodeContainer polledContainer
  simp [int, float, string, flag]

theorem decodeAgentCT_eq (typed : GuestRow row) :
    AgentClient.decodeCT row = .ok (agentCT row) := by
  have int : ∀ name ∈ guestInts, readInt row name = .ok (intOf row name) :=
    fun _ => readInt_typed typed.ints
  have float : ∀ name ∈ ["cpu"], readFloat row name = .ok (floatOf row name) :=
    fun _ => readFloat_typed typed.floats
  have string : ∀ name ∈ guestStrings, readString row name = .ok (stringOf row name) :=
    fun _ => readString_typed typed.strings
  have flag := template_typed typed
  unfold AgentClient.decodeCT agentCT
  simp [int, float, string, flag]

theorem decodeStorage_eq (typed : StorageRow row) :
    PveClient.decodeStorage row = .ok (polledStorage row) := by
  have int : ∀ name ∈ storageInts, readInt row name = .ok (intOf row name) :=
    fun _ => readInt_typed typed.ints
  have string : ∀ name ∈ storageStrings, readString row name = .ok (stringOf row name) :=
    fun _ => readString_typed typed.strings
  unfold PveClient.decodeStorage polledStorage
  simp [int, string]

theorem decodeAgentStorage_eq (typed : StorageRow row) :
    AgentClient.decodeStorage row = .ok (agentStorage row) := by
  have int : ∀ name ∈ storageInts, readInt row name = .ok (intOf row name) :=
    fun _ => readInt_typed typed.ints
  have string : ∀ name ∈ storageStrings, readString row name = .ok (stringOf row name) :=
    fun _ => readString_typed typed.strings
  unfold AgentClient.decodeStorage agentStorage
  simp [int, string]

theorem decodeVM_refused (typed : GuestRow row) (present : field row "template" ≠ .null) :
    ∃ err, PveClient.decodeVM row = .error err := by
  have int : ∀ name ∈ guestInts, readInt row name = .ok (intOf row name) :=
    fun _ => readInt_typed typed.ints
  have float : ∀ name ∈ ["cpu"], readFloat row name = .ok (floatOf row name) :=
    fun _ => readFloat_typed typed.floats
  have string : ∀ name ∈ guestStrings, readString row name = .ok (stringOf row name) :=
    fun _ => readString_typed typed.strings
  obtain ⟨err, refused⟩ := template_refused typed present
  refine ⟨err, ?_⟩
  unfold PveClient.decodeVM
  simp [int, float, string, refused]

theorem decodeContainer_refused (typed : GuestRow row) (present : field row "template" ≠ .null) :
    ∃ err, PveClient.decodeContainer row = .error err := by
  have int : ∀ name ∈ guestInts, readInt row name = .ok (intOf row name) :=
    fun _ => readInt_typed typed.ints
  have float : ∀ name ∈ ["cpu"], readFloat row name = .ok (floatOf row name) :=
    fun _ => readFloat_typed typed.floats
  have string : ∀ name ∈ guestStrings, readString row name = .ok (stringOf row name) :=
    fun _ => readString_typed typed.strings
  obtain ⟨err, refused⟩ := template_refused typed present
  refine ⟨err, ?_⟩
  unfold PveClient.decodeContainer
  simp [int, float, string, refused]

end Decoding

section Answers

variable {A : Type} {srv : Server} {path : String}

/-- A successful response. -/
def envelope (value : Json) : Json := .obj (emit "data" value)

def rowsDoc (rows : List Fields) : Json := envelope (.arr (rows.map .obj))

theorem get_envelope {decode : Json → Except String A} {value : Json}
    (answer : srv path = .ok (envelope value)) :
    PveClient.get srv decode path = decode value := by
  unfold PveClient.get
  rw [answer]
  have data : field (emit "data" value) "data" = value := field_emit_last _ _
  have errors : field (emit "data" value) "errors" = .null :=
    field_emit_last_other _ (by decide)
  simp [envelope, data, errors, decodePointer]

theorem agent_get_envelope {decode : Json → Except String A} {value : Json}
    (answer : srv path = .ok (envelope value)) :
    AgentClient.get srv decode path = decode value := by
  unfold AgentClient.get
  rw [answer]
  simp [envelope]

variable {rows : List Fields} {decode : Fields → Except String A} {f : Fields → A}

theorem decodeSlice_rows (each : ∀ row ∈ rows, decode row = .ok (f row)) :
    decodeSlice (fun value => decodeObject value >>= decode) (.arr (rows.map .obj)) =
      .ok (some (rows.map f)) := by
  have read : (rows.map Json.obj).mapM (fun value => decodeObject value >>= decode) =
      .ok (rows.map f) :=
    Traverse.mapM_map_ok (fun row member => by simpa using each row member)
  rw [decodeSlice_arr, read]
  rfl

theorem getRows_ok (answer : srv path = .ok (rowsDoc rows))
    (each : ∀ row ∈ rows, decode row = .ok (f row)) :
    PveClient.getRows srv decode path = .ok (rows.map f) := by
  unfold PveClient.getRows
  rw [get_envelope answer, decodeSlice_rows each]
  rfl

theorem agent_getRows_ok (answer : srv path = .ok (rowsDoc rows))
    (each : ∀ row ∈ rows, decode row = .ok (f row)) :
    AgentClient.getRows srv decode path = .ok (rows.map f) := by
  unfold AgentClient.getRows
  rw [agent_get_envelope answer, decodeSlice_rows each]
  rfl

/-- One row that is refused fails the whole list. -/
theorem getRows_refused (answer : srv path = .ok (rowsDoc rows)) {bad : Fields}
    (listed : bad ∈ rows) {err : String} (refused : decode bad = .error err) :
    ∃ first, PveClient.getRows srv decode path = .error first := by
  have item : (decodeObject (.obj bad) >>= decode) = .error err := by simpa using refused
  obtain ⟨first, failed⟩ : ∃ first,
      (rows.map Json.obj).mapM (fun value => decodeObject value >>= decode) = .error first :=
    mapM_error (List.mem_map.mpr ⟨bad, listed, rfl⟩) item
  refine ⟨first, ?_⟩
  unfold PveClient.getRows
  rw [get_envelope answer, decodeSlice_arr, failed]
  rfl

end Answers

/-- What the API of a node of the cluster says, with every request answered. -/
structure NodeContent (srv : Server) (nodeName : String) where
  nodes : List Fields
  qemu : List Fields
  lxc : List Fields
  storage : List Fields
  qemuConfig : Int64 → Fields
  lxcConfig : Int64 → Fields
  nodesAnswer : srv "/nodes" = .ok (rowsDoc nodes)
  qemuAnswer : srv (qemuPath nodeName) = .ok (rowsDoc qemu)
  lxcAnswer : srv (lxcPath nodeName) = .ok (rowsDoc lxc)
  storageAnswer : srv (storagePath nodeName) = .ok (rowsDoc storage)
  qemuConfigAnswer : ∀ row ∈ qemu, srv (qemuConfigPath nodeName (intOf row "vmid")) =
    .ok (envelope (.obj (qemuConfig (intOf row "vmid"))))
  lxcConfigAnswer : ∀ row ∈ lxc, srv (lxcConfigPath nodeName (intOf row "vmid")) =
    .ok (envelope (.obj (lxcConfig (intOf row "vmid"))))
  nodeRows : ∀ row ∈ nodes, NodeRow row
  qemuRows : ∀ row ∈ qemu, GuestRow row
  lxcRows : ∀ row ∈ lxc, GuestRow row
  storageRows : ∀ row ∈ storage, StorageRow row
  qemuDistinct : ∀ vmid, Distinct (qemuConfig vmid)
  lxcDistinct : ∀ vmid, Distinct (lxcConfig vmid)
  member : ∃ row ∈ nodes, stringOf row "node" = nodeName

namespace NodeContent

variable {srv : Server} {nodeName : String} (content : NodeContent srv nodeName)

/-- The row the poller takes for the node: the first one with its name. -/
def namedRow : Option Fields := content.nodes.find? (fun row => stringOf row "node" == nodeName)

/-- The row the agent takes for the node: the first one with any status. -/
def statusRow : Option Fields := content.nodes.find? (fun row => stringOf row "status" != "")

theorem namedRow_isSome : ∃ row, content.namedRow = some row := by
  obtain ⟨row, listed, named⟩ := content.member
  have found : content.namedRow.isSome := by
    unfold namedRow
    rw [List.find?_isSome]
    exact ⟨row, listed, by simpa using named⟩
  exact Option.isSome_iff_exists.mp found

theorem getNodeStatus_eq {row : Fields} (named : content.namedRow = some row) :
    PveClient.getNodeStatus srv nodeName = .ok (polledNode row) := by
  unfold PveClient.getNodeStatus
  rw [getRows_ok content.nodesAnswer (fun r listed => decodeNode_eq (content.nodeRows r listed))]
  have found : (content.nodes.map polledNode).find? (·.node == nodeName) =
      content.namedRow.map polledNode := by
    rw [List.find?_map]
    rfl
  simp only [ok_bind]
  rw [found, named]
  rfl

theorem agent_getNodeStatus_eq :
    AgentClient.getNodeStatus srv nodeName =
      match content.statusRow with
      | none => .error "node not found"
      | some row => .ok (AgentClient.nodeStatusOf (agentNode row)
          (AgentClient.get srv AgentClient.decodeRawNodeStatus
            ("/nodes/" ++ nodeName ++ "/status"))) := by
  unfold AgentClient.getNodeStatus
  rw [agent_getRows_ok content.nodesAnswer
    (fun r listed => decodeRawNode_eq (content.nodeRows r listed))]
  have found : (content.nodes.map agentNode).find? (·.status != "") =
      content.statusRow.map agentNode := by
    rw [List.find?_map]
    rfl
  simp only [ok_bind]
  rw [found]
  cases content.statusRow with
  | none => rfl
  | some row => rfl

def polledVMOf (row : Fields) : Pve.VM :=
  { polledVM row with
    node := nodeName
    nics := PveClient.parseNICsFromConfig (content.qemuConfig (intOf row "vmid")) }

def polledContainerOf (row : Fields) : Pve.Container :=
  { polledContainer row with
    node := nodeName
    type := "lxc"
    nics := PveClient.parseNICsFromConfig (content.lxcConfig (intOf row "vmid")) }

def agentVMOf (row : Fields) : AgentWire.VMStatus :=
  { agentVM row with
    nics := AgentClient.collectNICs AgentClient.parseVMNetConfig
      (content.qemuConfig (intOf row "vmid")) }

def agentCTOf (row : Fields) : AgentWire.CTStatus :=
  { agentCT row with
    nics := AgentClient.collectNICs AgentClient.parseCTNetConfig
      (content.lxcConfig (intOf row "vmid")) }

theorem getVMs_eq (absent : ∀ row ∈ content.qemu, field row "template" = .null) :
    PveClient.getVMs srv nodeName = .ok (content.qemu.map content.polledVMOf) := by
  unfold PveClient.getVMs
  rw [getRows_ok content.qemuAnswer
    (fun r listed => decodeVM_eq (content.qemuRows r listed) (absent r listed))]
  simp only [ok_bind, List.map_map]
  refine congrArg Except.ok (List.map_congr_left ?_)
  intro row listed
  have cfg : PveClient.get srv decodeObject (qemuConfigPath nodeName (polledVM row).vmid) =
      .ok (content.qemuConfig (intOf row "vmid")) :=
    get_envelope (content.qemuConfigAnswer row listed)
  simp only [Function.comp_apply, PveClient.fetchVMNICs, cfg]
  rfl

/-- One template flag that is not absent fails the backend's whole list. -/
theorem getVMs_refused {row : Fields} (listed : row ∈ content.qemu)
    (present : field row "template" ≠ .null) :
    Poller.Failed (PveClient.getVMs srv nodeName) := by
  obtain ⟨err, refused⟩ := decodeVM_refused (content.qemuRows row listed) present
  obtain ⟨first, failed⟩ := getRows_refused content.qemuAnswer listed refused
  refine ⟨first, ?_⟩
  unfold PveClient.getVMs
  rw [failed]
  rfl

theorem getContainers_eq (absent : ∀ row ∈ content.lxc, field row "template" = .null) :
    PveClient.getContainers srv nodeName = .ok (content.lxc.map content.polledContainerOf) := by
  unfold PveClient.getContainers
  rw [getRows_ok content.lxcAnswer
    (fun r listed => decodeContainer_eq (content.lxcRows r listed) (absent r listed))]
  simp only [ok_bind, List.map_map]
  refine congrArg Except.ok (List.map_congr_left ?_)
  intro row listed
  have cfg : PveClient.get srv decodeObject
      (lxcConfigPath nodeName (polledContainer row).vmid) =
      .ok (content.lxcConfig (intOf row "vmid")) :=
    get_envelope (content.lxcConfigAnswer row listed)
  simp only [Function.comp_apply, PveClient.fetchCTNICs, cfg]
  rfl

theorem getContainers_refused {row : Fields} (listed : row ∈ content.lxc)
    (present : field row "template" ≠ .null) :
    Poller.Failed (PveClient.getContainers srv nodeName) := by
  obtain ⟨err, refused⟩ := decodeContainer_refused (content.lxcRows row listed) present
  obtain ⟨first, failed⟩ := getRows_refused content.lxcAnswer listed refused
  refine ⟨first, ?_⟩
  unfold PveClient.getContainers
  rw [failed]
  rfl

theorem getStorage_eq :
    PveClient.getStorage srv nodeName =
      .ok (content.storage.map (fun row => { polledStorage row with node := nodeName })) := by
  unfold PveClient.getStorage
  rw [getRows_ok content.storageAnswer
    (fun r listed => decodeStorage_eq (content.storageRows r listed))]
  simp only [ok_bind, List.map_map]
  rfl

theorem agent_getVMs_eq :
    AgentClient.getVMs srv nodeName = .ok (content.qemu.map content.agentVMOf) := by
  unfold AgentClient.getVMs
  rw [agent_getRows_ok content.qemuAnswer
    (fun r listed => decodeAgentVM_eq (content.qemuRows r listed))]
  simp only [ok_bind, List.map_map]
  refine congrArg Except.ok (List.map_congr_left ?_)
  intro row listed
  have cfg : AgentClient.get srv decodeObject (qemuConfigPath nodeName (agentVM row).vmid) =
      .ok (content.qemuConfig (intOf row "vmid")) :=
    agent_get_envelope (content.qemuConfigAnswer row listed)
  simp only [Function.comp_apply, AgentClient.getVMNICs, cfg]
  rfl

theorem agent_getContainers_eq :
    AgentClient.getContainers srv nodeName = .ok (content.lxc.map content.agentCTOf) := by
  unfold AgentClient.getContainers
  rw [agent_getRows_ok content.lxcAnswer
    (fun r listed => decodeAgentCT_eq (content.lxcRows r listed))]
  simp only [ok_bind, List.map_map]
  refine congrArg Except.ok (List.map_congr_left ?_)
  intro row listed
  have cfg : AgentClient.get srv decodeObject (lxcConfigPath nodeName (agentCT row).vmid) =
      .ok (content.lxcConfig (intOf row "vmid")) :=
    agent_get_envelope (content.lxcConfigAnswer row listed)
  simp only [Function.comp_apply, AgentClient.getCTNICs, cfg]
  rfl

theorem agent_getStorage_eq :
    AgentClient.getStorage srv nodeName = .ok (content.storage.map agentStorage) :=
  agent_getRows_ok content.storageAnswer
    (fun r listed => decodeAgentStorage_eq (content.storageRows r listed))

end NodeContent

end PveContent
