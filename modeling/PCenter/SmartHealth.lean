import PCenter.Lib.Json

/-!
# The health of a disk

`parseSmartJSON` of `internal/pve/client.go` over the report of `smartctl` as a JSON tree. The
verdict of the drive is set first and then overwritten by a warning, also where it was that the
drive has failed: `monotone_iff`.
-/

namespace SmartHealth

open GoJson

section Model

/-- A row of the attribute table. -/
structure AttributeData where
  id : Int64
  name : String
  value : Int64
  worst : Int64
  thresh : Int64
  whenFailed : String
  flags : String
  raw : Int64
  deriving DecidableEq, Repr

def AttributeData.ofFields (o : Fields) : Except String AttributeData := do
  let id ← readInt o "id"
  let name ← readString o "name"
  let value ← readInt o "value"
  let worst ← readInt o "worst"
  let thresh ← readInt o "thresh"
  let whenFailed ← readString o "when_failed"
  let flags ← decodeObject (field o "flags")
  let text ← readString flags "string"
  let raw ← decodeObject (field o "raw")
  let rawValue ← readInt raw "value"
  return ⟨id, name, value, worst, thresh, whenFailed, text, rawValue⟩

/-- `nvme_smart_health_information_log` -/
structure NVMeLog where
  criticalWarning : Int64
  temperature : Int64
  availableSpare : Int64
  availableSpareThreshold : Int64
  percentageUsed : Int64
  dataUnitsRead : Int64
  dataUnitsWritten : Int64
  powerCycles : Int64
  powerOnHours : Int64
  unsafeShutdowns : Int64
  mediaErrors : Int64
  errorInfoLogEntries : Int64
  deriving DecidableEq, Repr

def NVMeLog.ofFields (o : Fields) : Except String NVMeLog := do
  let criticalWarning ← readInt o "critical_warning"
  let temperature ← readInt o "temperature"
  let availableSpare ← readInt o "available_spare"
  let availableSpareThreshold ← readInt o "available_spare_threshold"
  let percentageUsed ← readInt o "percentage_used"
  let dataUnitsRead ← readInt o "data_units_read"
  let dataUnitsWritten ← readInt o "data_units_written"
  let powerCycles ← readInt o "power_cycles"
  let powerOnHours ← readInt o "power_on_hours"
  let unsafeShutdowns ← readInt o "unsafe_shutdowns"
  let mediaErrors ← readInt o "media_and_data_integrity_errors"
  let errorInfoLogEntries ← readInt o "num_err_log_entries"
  return ⟨criticalWarning, temperature, availableSpare, availableSpareThreshold, percentageUsed,
    dataUnitsRead, dataUnitsWritten, powerCycles, powerOnHours, unsafeShutdowns, mediaErrors,
    errorInfoLogEntries⟩

/-- What is read of a report. -/
structure SmartData where
  deviceName : String
  protocol : String
  modelName : String
  scsiModelName : String
  scsiVendor : String
  scsiProduct : String
  serialNumber : String
  scsiSerial : String
  firmwareVersion : String
  userCapacity : Int64
  rotationRate : Int64
  passed : Bool
  revision : Int64
  table : List AttributeData
  nvme : NVMeLog
  temperature : Int64
  powerOnHours : Int64
  deriving DecidableEq, Repr

/-- A report without a self-assessment reads as one that did not pass. -/
def SmartData.ofFields (o : Fields) : Except String SmartData := do
  let device ← decodeObject (field o "device")
  let deviceName ← readString device "name"
  let protocol ← readString device "protocol"
  let modelName ← readString o "model_name"
  let scsiModelName ← readString o "scsi_model_name"
  let scsiVendor ← readString o "scsi_vendor"
  let scsiProduct ← readString o "scsi_product"
  let serialNumber ← readString o "serial_number"
  let scsiSerial ← readString o "scsi_serial"
  let firmwareVersion ← readString o "firmware_version"
  let capacity ← decodeObject (field o "user_capacity")
  let bytes ← readInt capacity "bytes"
  let rotationRate ← readInt o "rotation_rate"
  let smartStatus ← decodeObject (field o "smart_status")
  let passed ← readBool smartStatus "passed"
  let attributes ← decodeObject (field o "ata_smart_attributes")
  let revision ← readInt attributes "revision"
  let table ← readList attributes "table" AttributeData.ofFields
  let log ← decodeObject (field o "nvme_smart_health_information_log")
  let nvme ← NVMeLog.ofFields log
  let temperature ← decodeObject (field o "temperature")
  let current ← readInt temperature "current"
  let powerOnTime ← decodeObject (field o "power_on_time")
  let hours ← readInt powerOnTime "hours"
  return ⟨deviceName, protocol, modelName, scsiModelName, scsiVendor, scsiProduct, serialNumber,
    scsiSerial, firmwareVersion, bytes, rotationRate, passed, revision, table, nvme, current,
    hours⟩

def decode (report : Json) : Except String SmartData := decodeObject report >>= SmartData.ofFields

inductive Health where
  | passed
  | warning
  | failed
  deriving DecidableEq, Repr

inductive DiskType where
  | nvme
  | ssd
  | hdd
  deriving DecidableEq, Repr

structure SmartAttribute where
  id : Int64
  name : String
  value : Int64
  worst : Int64
  threshold : Int64
  raw : Int64
  flags : String
  whenFailed : String
  critical : Bool
  deriving DecidableEq, Repr

structure NVMeHealth where
  criticalWarning : Int64
  availableSpare : Int64
  availableSpareThresh : Int64
  percentUsed : Int64
  dataUnitsRead : Int64
  dataUnitsWritten : Int64
  powerCycles : Int64
  unsafeShutdowns : Int64
  mediaErrors : Int64
  errorLogEntries : Int64
  deriving DecidableEq, Repr

structure SmartDisk where
  node : String
  device : String
  model : String
  serial : String
  capacity : Int64
  type : DiskType
  protocol : String
  health : Health
  powerOnHours : Int64
  temperature : Int64
  attributes : List SmartAttribute
  nvmeHealth : Option NVMeHealth
  deriving DecidableEq, Repr

def criticalSmartAttrs (id : Int64) : Bool := id ∈ [5, 10, 196, 197, 198]

def SmartData.model (data : SmartData) : String :=
  let model := if data.modelName = "" then data.scsiModelName else data.modelName
  if model = "" ∧ data.scsiVendor ≠ "" then data.scsiVendor ++ " " ++ data.scsiProduct else model

def NVMeLog.health (log : NVMeLog) : NVMeHealth where
  criticalWarning := log.criticalWarning
  availableSpare := log.availableSpare
  availableSpareThresh := log.availableSpareThreshold
  percentUsed := log.percentageUsed
  dataUnitsRead := log.dataUnitsRead
  dataUnitsWritten := log.dataUnitsWritten
  powerCycles := log.powerCycles
  unsafeShutdowns := log.unsafeShutdowns
  mediaErrors := log.mediaErrors
  errorLogEntries := log.errorInfoLogEntries

/-- The disk before the part that depends on the protocol. -/
def startDisk (data : SmartData) (device node : String) : SmartDisk where
  node := node
  device := device
  model := data.model
  serial := if data.serialNumber = "" then data.scsiSerial else data.serialNumber
  capacity := data.userCapacity
  type := if data.protocol = "NVMe" then .nvme else if data.rotationRate = 0 then .ssd else .hdd
  protocol := data.protocol
  health := if data.passed then .passed else .failed
  powerOnHours := 0
  temperature := 0
  attributes := []
  nvmeHealth := none

def addAttribute (criticalAttrs : Int64 → Bool) (disk : SmartDisk) (attr : AttributeData) :
    SmartDisk :=
  let smartAttr : SmartAttribute :=
    { id := attr.id
      name := attr.name
      value := attr.value
      worst := attr.worst
      threshold := attr.thresh
      raw := attr.raw
      flags := attr.flags
      whenFailed := attr.whenFailed
      critical := criticalAttrs attr.id }
  { disk with
    health := if smartAttr.critical ∧ 0 < smartAttr.raw then .warning else disk.health
    attributes := disk.attributes ++ [smartAttr] }

def smartDisk (data : SmartData) (device node : String) (criticalAttrs : Int64 → Bool) :
    SmartDisk :=
  let disk := startDisk data device node
  if data.protocol = "NVMe" then
    { disk with
      temperature := data.nvme.temperature
      powerOnHours := data.nvme.powerOnHours
      nvmeHealth := some data.nvme.health
      health :=
        if 0 < data.nvme.criticalWarning ∨ 0 < data.nvme.mediaErrors then .warning
        else disk.health }
  else
    data.table.foldl (addAttribute criticalAttrs)
      { disk with temperature := data.temperature, powerOnHours := data.powerOnHours }

/-- A report that cannot be decoded gives no disk. -/
def parseSmartJSON (report : Json) (device node : String) (criticalAttrs : Int64 → Bool) :
    Option SmartDisk :=
  match decode report with
  | .error _ => none
  | .ok data => some (smartDisk data device node criticalAttrs)

end Model

section Property

/-- A critical attribute counts something, or the log of an NVMe drive does. -/
def Indicated (criticalAttrs : Int64 → Bool) (data : SmartData) : Prop :=
  if data.protocol = "NVMe" then 0 < data.nvme.criticalWarning ∨ 0 < data.nvme.mediaErrors
  else ∃ attr ∈ data.table, criticalAttrs attr.id = true ∧ 0 < attr.raw

instance (criticalAttrs : Int64 → Bool) (data : SmartData) :
    Decidable (Indicated criticalAttrs data) :=
  inferInstanceAs (Decidable (if data.protocol = "NVMe" then
      0 < data.nvme.criticalWarning ∨ 0 < data.nvme.mediaErrors
    else ∃ attr ∈ data.table, criticalAttrs attr.id = true ∧ 0 < attr.raw))

/-- What a report amounts to. -/
def verdict (criticalAttrs : Int64 → Bool) (data : SmartData) : Health :=
  if ¬data.passed then .failed else if Indicated criticalAttrs data then .warning else .passed

def Health.severity : Health → ℕ
  | .passed => 0
  | .warning => 1
  | .failed => 2

/-- The second report indicates every failure that the first one does. -/
structure Adds (criticalAttrs : Int64 → Bool) (data data' : SmartData) : Prop where
  assessment : data'.passed → data.passed
  indication : Indicated criticalAttrs data → Indicated criticalAttrs data'

/-- Both disks get the health their reports amount to, and the second is no healthier. -/
structure Monotone (criticalAttrs : Int64 → Bool) (data data' : SmartData)
    (disk disk' : SmartDisk) : Prop where
  graded : disk.health = verdict criticalAttrs data
  graded' : disk'.health = verdict criticalAttrs data'
  rises : disk.health.severity ≤ disk'.health.severity

/-- Only one of the drive itself and its counters speaks of a failure. -/
def Unmasked (criticalAttrs : Int64 → Bool) (data : SmartData) : Prop :=
  data.passed ∨ ¬Indicated criticalAttrs data

instance (criticalAttrs : Int64 → Bool) (data : SmartData) :
    Decidable (Unmasked criticalAttrs data) := inferInstanceAs (Decidable (_ ∨ _))

end Property

section Proof

variable {criticalAttrs : Int64 → Bool} {data data' : SmartData} {device node : String}

/-- The loop over the table ends with a warning if any attribute asks for one. -/
theorem health_foldl (table : List AttributeData) (disk : SmartDisk) :
    (table.foldl (addAttribute criticalAttrs) disk).health =
      if ∃ attr ∈ table, criticalAttrs attr.id = true ∧ 0 < attr.raw then .warning
      else disk.health := by
  induction table generalizing disk with
  | nil => simp
  | cons attr table ih =>
      rw [List.foldl_cons, ih]
      by_cases later : ∃ attr ∈ table, criticalAttrs attr.id = true ∧ 0 < attr.raw
      · have anywhere : ∃ a ∈ attr :: table, criticalAttrs a.id = true ∧ 0 < a.raw := by
          obtain ⟨a, inside, counts⟩ := later
          exact ⟨a, List.mem_cons_of_mem attr inside, counts⟩
        rw [if_pos later, if_pos anywhere]
      · rw [if_neg later]
        by_cases here : criticalAttrs attr.id = true ∧ 0 < attr.raw
        · have anywhere : ∃ a ∈ attr :: table, criticalAttrs a.id = true ∧ 0 < a.raw :=
            ⟨attr, List.mem_cons_self, here⟩
          rw [if_pos anywhere]
          exact if_pos here
        · have nowhere : ¬∃ a ∈ attr :: table, criticalAttrs a.id = true ∧ 0 < a.raw := by
            rintro ⟨a, inside, counts⟩
            rcases List.mem_cons.mp inside with rfl | inside
            · exact here counts
            · exact later ⟨a, inside, counts⟩
          rw [if_neg nowhere]
          exact if_neg here

theorem indicated_nvme (nvme : data.protocol = "NVMe") : Indicated criticalAttrs data ↔
    0 < data.nvme.criticalWarning ∨ 0 < data.nvme.mediaErrors := by
  simp only [Indicated, if_pos nvme]

theorem indicated_ata (ata : data.protocol ≠ "NVMe") : Indicated criticalAttrs data ↔
    ∃ attr ∈ data.table, criticalAttrs attr.id = true ∧ 0 < attr.raw := by
  simp only [Indicated, if_neg ata]

/-- An indication decides, and without one the drive does. -/
theorem health_smartDisk (criticalAttrs : Int64 → Bool) (data : SmartData) (device node : String) :
    (smartDisk data device node criticalAttrs).health =
      if Indicated criticalAttrs data then .warning
      else if data.passed then .passed else .failed := by
  by_cases nvme : data.protocol = "NVMe"
  · simp only [smartDisk, if_pos nvme, indicated_nvme nvme]
    rfl
  · simp only [smartDisk, if_neg nvme, health_foldl, indicated_ata nvme]
    rfl

theorem graded_iff : (smartDisk data device node criticalAttrs).health =
    verdict criticalAttrs data ↔ Unmasked criticalAttrs data := by
  rw [health_smartDisk, verdict, Unmasked]
  by_cases passed : data.passed = true
  · simp [passed]
  · by_cases indicated : Indicated criticalAttrs data
    · simp [passed, indicated]
    · simp [passed, indicated]

/-- More failures never amount to less. -/
theorem verdict_mono (more : Adds criticalAttrs data data') :
    (verdict criticalAttrs data).severity ≤ (verdict criticalAttrs data').severity := by
  rw [verdict, verdict]
  by_cases passed' : data'.passed = true
  · have passed := more.assessment passed'
    by_cases indicated : Indicated criticalAttrs data
    · simp [passed, passed', indicated, more.indication indicated]
    · simp [passed, indicated, Health.severity]
  · simp only [passed', Bool.false_eq_true, not_false_eq_true, if_true]
    split_ifs <;> decide

theorem disk_of_decode {report : Json} (decoded : decode report = .ok data) {disk : SmartDisk}
    (parsed : parseSmartJSON report device node criticalAttrs = some disk) :
    disk = smartDisk data device node criticalAttrs := by
  rw [parseSmartJSON, decoded] at parsed
  exact (Option.some.inj parsed).symm

/-- Of two reports, the second with more failures, both are graded right and the second no
milder precisely if neither hides the drive's own verdict behind an indication. -/
theorem monotone_iff (criticalAttrs : Int64 → Bool) {report report' : Json}
    {device device' node node' : String} {data data' : SmartData} {disk disk' : SmartDisk}
    (decoded : decode report = .ok data) (decoded' : decode report' = .ok data')
    (parsed : parseSmartJSON report device node criticalAttrs = some disk)
    (parsed' : parseSmartJSON report' device' node' criticalAttrs = some disk')
    (more : Adds criticalAttrs data data') :
    Monotone criticalAttrs data data' disk disk' ↔
      Unmasked criticalAttrs data ∧ Unmasked criticalAttrs data' := by
  obtain rfl := disk_of_decode decoded parsed
  obtain rfl := disk_of_decode decoded' parsed'
  constructor
  · intro monotone
    exact ⟨graded_iff.mp monotone.graded, graded_iff.mp monotone.graded'⟩
  · rintro ⟨unmasked, unmasked'⟩
    have graded := @graded_iff criticalAttrs data device node |>.mpr unmasked
    have graded' := @graded_iff criticalAttrs data' device' node' |>.mpr unmasked'
    refine ⟨graded, graded', ?_⟩
    rw [graded, graded']
    exact verdict_mono more

end Proof

section Lab

/-- The report of an ATA drive with some pending sectors. -/
def sda (passed : Bool) (pending : Int) : Json :=
  .obj
    [("device", .obj [("name", .str "/dev/sda"), ("protocol", .str "ATA")]),
      ("smart_status", .obj [("passed", .bool passed)]),
      ("ata_smart_attributes", .obj [("table", .arr [.obj
        [("id", .int 197), ("name", .str "Current_Pending_Sector"),
          ("raw", .obj [("value", .int pending)])]])])]

def sdaData (passed : Bool) (pending : Int64) : SmartData where
  deviceName := "/dev/sda"
  protocol := "ATA"
  modelName := ""
  scsiModelName := ""
  scsiVendor := ""
  scsiProduct := ""
  serialNumber := ""
  scsiSerial := ""
  firmwareVersion := ""
  userCapacity := 0
  rotationRate := 0
  passed := passed
  revision := 0
  table := [⟨197, "Current_Pending_Sector", 0, 0, 0, "", "", pending⟩]
  nvme := ⟨0, 0, 0, 0, 0, 0, 0, 0, 0, 0, 0, 0⟩
  temperature := 0
  powerOnHours := 0

theorem decode_sda (passed : Bool) : decode (sda passed 0) = .ok (sdaData passed 0) ∧
    decode (sda passed 8) = .ok (sdaData passed 8) := ⟨rfl, rfl⟩

/-- Pending sectors of a drive that has passed. -/
theorem pending_warned : Monotone criticalSmartAttrs (sdaData true 0) (sdaData true 8)
    (smartDisk (sdaData true 0) "/dev/sda" "pve1" criticalSmartAttrs)
    (smartDisk (sdaData true 8) "/dev/sda" "pve1" criticalSmartAttrs) :=
  (monotone_iff criticalSmartAttrs (decode_sda true).1 (decode_sda true).2 rfl rfl
    ⟨fun passed => passed, by decide⟩).mpr (by decide)

/-- Pending sectors of a drive that has failed make it a warning. -/
theorem failure_downgraded : ¬∀ (criticalAttrs : Int64 → Bool) (report report' : Json)
    (device node : String) (data data' : SmartData) (disk disk' : SmartDisk),
    decode report = .ok data → decode report' = .ok data' →
    parseSmartJSON report device node criticalAttrs = some disk →
    parseSmartJSON report' device node criticalAttrs = some disk' →
    Adds criticalAttrs data data' → Monotone criticalAttrs data data' disk disk' := by
  intro always
  have monotone := always criticalSmartAttrs (sda false 0) (sda false 8) "/dev/sda" "pve1"
    (sdaData false 0) (sdaData false 8) _ _ (decode_sda false).1 (decode_sda false).2 rfl rfl
    ⟨fun passed => passed, by decide⟩
  exact absurd monotone.rises (by decide)

end Lab

end SmartHealth
