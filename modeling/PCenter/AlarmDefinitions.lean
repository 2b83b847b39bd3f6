import PCenter.AlarmQueries
import PCenter.Lib.Text
import Mathlib.Algebra.Order.Ring.Unbundled.Rat

/-!
# Definitions of alarms

The requests that write `alarm_definitions`: `CreateDefinition` of the service checks what it is
given, `UpdateAlarmDefinition` writes what it is given, and `SeedDefaults` fills an empty table.
The checks are the same for both conditions, but `evaluateAlarm` compares the other way for one of
them. The thresholds are rationals here, as the doubles of a request are.
-/

namespace AlarmDefinitions

open Alarms (Condition violationState isViolation isClear)
open AlarmDB (Definition DB)
open Transition
open GoText (trimSpace)

structure CreateDefinitionRequest where
  name : String
  metricType : String
  resourceType : String
  scope : String
  scopeTarget : String
  condition : String
  warningThreshold : Rat
  criticalThreshold : Rat
  clearThreshold : Rat
  durationSamples : Int
  /-- As `json.Marshal` prints the list, unless there is none. -/
  notifyChannels : Option String

def validMetricTypes : List String :=
  ["cpu", "mem_percent", "disk_percent", "netin", "netout", "cert_days_left"]

def validResourceTypes : List String := ["node", "vm", "ct", "storage"]

/-- The condition under its name. -/
def conditionOf (text : String) : Condition :=
  if text = "above" then .above else if text = "below" then .below else .other text

/-- The definition of a request, with its defaults, and the id and the time of the database. -/
def definition (req : CreateDefinitionRequest) (id : String) (now : Int) : Definition Rat where
  id := id
  name := req.name
  enabled := true
  metricType := req.metricType
  resourceType := req.resourceType
  scope := if req.scope = "" then "global" else req.scope
  scopeTarget := req.scopeTarget
  condition := if req.condition = "" then .above else conditionOf req.condition
  warningThreshold := req.warningThreshold
  criticalThreshold := req.criticalThreshold
  clearThreshold := req.clearThreshold
  durationSamples := if req.durationSamples ≤ 0 then 3 else req.durationSamples
  notifyChannels := req.notifyChannels.getD "[]"
  createdAt := now

/-- `CreateDefinition` of the service, up to the insertion. -/
def createDefinition (req : CreateDefinitionRequest) (id : String) (now : Int) :
    Except String (Definition Rat) :=
  if trimSpace req.name = "" then .error "name is required"
  else if req.metricType ∉ validMetricTypes then
    .error ("invalid metric_type: " ++ req.metricType)
  else if req.resourceType ∉ validResourceTypes then
    .error ("invalid resource_type: " ++ req.resourceType)
  else if req.warningThreshold ≤ 0 then .error "warning_threshold must be positive"
  else if req.criticalThreshold ≤ req.warningThreshold then
    .error "critical_threshold must be greater than warning_threshold"
  else if req.clearThreshold ≥ req.warningThreshold then
    .error "clear_threshold must be less than warning_threshold"
  else .ok (definition req id now)

/-- A default: its name, metric and resource, and its thresholds for a warning, for more than
that, and for the end. -/
def seed (name metricType resourceType : String) (warning critical clear : Rat) :
    Definition Rat where
  id := ""
  name := name
  enabled := true
  metricType := metricType
  resourceType := resourceType
  scope := "global"
  scopeTarget := ""
  condition := .above
  warningThreshold := warning
  criticalThreshold := critical
  clearThreshold := clear
  durationSamples := 3
  notifyChannels := "[]"
  createdAt := 0

def defaults : List (Definition Rat) :=
  [seed "Node CPU High" "cpu" "node" 90 95 85,
    seed "Node Memory High" "mem_percent" "node" 85 95 80,
    seed "VM CPU High" "cpu" "vm" 90 95 85,
    seed "VM Memory High" "mem_percent" "vm" 90 95 85,
    seed "CT CPU High" "cpu" "ct" 90 95 85,
    seed "CT Memory High" "mem_percent" "ct" 90 95 85]

/-- `db.UpdateDefinition`: the columns of the row but its id and when it was created. -/
def updateDefinition (d : Definition Rat) (db : DB Rat) : DB Rat :=
  { db with
    definitions := db.definitions.map fun row =>
      if row.id = d.id then { d with createdAt := row.createdAt } else row }

/-- A loop over the defaults, with the id and the time of each that is inserted. -/
def insertAll (l : List (Definition Rat × Option (String × Int))) (db : DB Rat) : DB Rat :=
  l.foldl
    (fun db (d, made) =>
      match made with
      | none => db
      | some (id, now) => (db.createDefinition { d with id, createdAt := now }).getD db) db

/-- `SeedDefaults`. A count that fails is a zero. -/
def seedDefaults (counted : Bool) (inserted : List (Option (String × Int))) (db : DB Rat) :
    DB Rat :=
  if counted ∧ db.definitions ≠ [] then db else insertAll (defaults.zip inserted) db

inductive Event where
  /-- `none` where the statement fails. -/
  | create (req : CreateDefinitionRequest) (made : Option (String × Int))
  | update (d : Definition Rat) (fails : Bool)
  | delete (id : String) (fails : Bool)
  | seed (counted : Bool) (inserted : List (Option (String × Int)))

def step (db : DB Rat) : Event → DB Rat
  | .create req made =>
      match made with
      | none => db
      | some (id, now) =>
          match createDefinition req id now with
          | .error _ => db
          | .ok d => (db.createDefinition d).getD db
  | .update d fails => if fails then db else updateDefinition d db
  | .delete id fails => if fails then db else db.deleteDefinition id
  | .seed counted inserted => seedDefaults counted inserted db

section Checked

/-- What `CreateDefinition` checks. -/
structure WellFormed (d : Definition Rat) : Prop where
  name : trimSpace d.name ≠ ""
  metricType : d.metricType ∈ validMetricTypes
  resourceType : d.resourceType ∈ validResourceTypes
  positive : 0 < d.warningThreshold
  critical : d.warningThreshold < d.criticalThreshold
  clear : d.clearThreshold < d.warningThreshold
  samples : 0 < d.durationSamples

def AllWellFormed (db : DB Rat) : Prop := ∀ d ∈ db.definitions, WellFormed d

/-- An update passes the checks of a creation, unless it fails or is of no definition. -/
def Checked (db : DB Rat) : Event → Prop
  | .update d fails => fails = false → d.id ∈ db.definitions.map (·.id) → WellFormed d
  | _ => True

theorem wellFormed_createDefinition {req : CreateDefinitionRequest} {id : String} {now : Int}
    {d : Definition Rat} (created : createDefinition req id now = .ok d) : WellFormed d := by
  rw [createDefinition] at created
  split_ifs at created with name metric resource positive critical clear
  obtain rfl := Except.ok.inj created
  refine ⟨name, metric, resource, lt_of_not_ge positive, lt_of_not_ge critical,
    lt_of_not_ge clear, ?_⟩
  simp only [definition]
  split_ifs <;> omega

theorem wellFormed_defaults : ∀ d ∈ defaults, WellFormed d := by
  have filled : ∀ d ∈ defaults, trimSpace d.name ≠ "" ∧ d.metricType ∈ validMetricTypes ∧
      d.resourceType ∈ validResourceTypes ∧ 0 < d.warningThreshold ∧
      d.warningThreshold < d.criticalThreshold ∧ d.clearThreshold < d.warningThreshold ∧
      0 < d.durationSamples := by
    decide +kernel
  intro d member
  obtain ⟨name, metric, resource, positive, critical, clear, samples⟩ := filled d member
  exact ⟨name, metric, resource, positive, critical, clear, samples⟩

theorem wellFormed_stamp {d : Definition Rat} (wellFormed : WellFormed d) (id : String)
    (now : Int) : WellFormed { d with id, createdAt := now } :=
  ⟨wellFormed.name, wellFormed.metricType, wellFormed.resourceType, wellFormed.positive,
    wellFormed.critical, wellFormed.clear, wellFormed.samples⟩

variable {db : DB Rat}

theorem allWellFormed_insert (all : AllWellFormed db) {d : Definition Rat}
    (wellFormed : WellFormed d) : AllWellFormed ((db.createDefinition d).getD db) := by
  rw [AlarmDB.DB.createDefinition]
  split_ifs
  · exact all
  · intro row member
    rcases List.mem_append.mp member with earlier | new
    · exact all row earlier
    · rwa [List.mem_singleton.mp new]

theorem allWellFormed_insertAll (all : AllWellFormed db)
    {l : List (Definition Rat × Option (String × Int))} (listed : ∀ p ∈ l, WellFormed p.1) :
    AllWellFormed (insertAll l db) := by
  induction l generalizing db with
  | nil => exact all
  | cons p l ih =>
      refine ih ?_ fun q member => listed q (List.mem_cons_of_mem _ member)
      obtain ⟨d, made⟩ := p
      cases made with
      | none => exact all
      | some stamp =>
          exact allWellFormed_insert all
            (wellFormed_stamp (listed _ List.mem_cons_self) stamp.1 stamp.2)

theorem allWellFormed_seedDefaults (all : AllWellFormed db) (counted : Bool)
    (inserted : List (Option (String × Int))) :
    AllWellFormed (seedDefaults counted inserted db) := by
  rw [seedDefaults]
  split_ifs
  · exact all
  · exact allWellFormed_insertAll all fun p member =>
      wellFormed_defaults p.1 (List.of_mem_zip member).1

theorem allWellFormed_update_iff (all : AllWellFormed db) (d : Definition Rat) :
    AllWellFormed (updateDefinition d db) ↔
      (d.id ∈ db.definitions.map (·.id) → WellFormed d) := by
  constructor
  · intro updated there
    obtain ⟨row, member, same⟩ := List.mem_map.mp there
    have written := updated _ (List.mem_map_of_mem member)
    rw [if_pos same] at written
    exact wellFormed_stamp written d.id d.createdAt
  · intro checked row member
    obtain ⟨old, earlier, rfl⟩ := List.mem_map.mp member
    split_ifs with same
    · exact wellFormed_stamp (checked (List.mem_map.mpr ⟨old, earlier, same⟩)) d.id old.createdAt
    · exact all old earlier

theorem allWellFormed_step_iff (all : AllWellFormed db) (e : Event) :
    AllWellFormed (step db e) ↔ Checked db e := by
  cases e with
  | create req made =>
      refine iff_of_true ?_ trivial
      simp only [step]
      split
      · exact all
      · split
        · exact all
        · rename_i d created
          exact allWellFormed_insert all (wellFormed_createDefinition created)
  | update d fails =>
      cases fails with
      | true => exact iff_of_true all fun later => (by cases later)
      | false =>
          simp only [step, Checked, forall_prop_of_true]
          exact allWellFormed_update_iff all d
  | delete id fails =>
      refine iff_of_true ?_ trivial
      simp only [step]
      split_ifs
      · exact all
      · exact fun d member => all d (List.mem_of_mem_filter member)
  | seed counted inserted =>
      exact iff_of_true (allWellFormed_seedDefaults all counted inserted) trivial

/-- Every definition of every state passes the checks iff every update does. -/
theorem wellFormed_definitions_iff (es : List Event) :
    (∀ db ∈ states step ⟨[], []⟩ es, AllWellFormed db) ↔ Along step Checked ⟨[], []⟩ es :=
  invariant_iff_along (fun _ e _ all => allWellFormed_step_iff all e)
    fun _ member => (by cases member)

end Checked

section Bands

variable {d : Definition Rat} (wellFormed : WellFormed d)
include wellFormed

/-- With the checks that suit `above`, an alarm for values `below` is critical or normal, and
nothing else. -/
theorem violationState_below (below : d.condition = .below) (value : Rat) :
    violationState d.toAlarmDefinition value =
      some (if value < d.criticalThreshold then .critical else .normal) := by
  rw [violationState, below]
  by_cases critical : value < d.criticalThreshold
  · simp [isViolation, critical]
  · have beyond : d.criticalThreshold ≤ value := le_of_not_gt critical
    have unwarned : ¬value < d.warningThreshold :=
      not_lt_of_ge (wellFormed.critical.le.trans beyond)
    have clear : d.clearThreshold ≤ value :=
      (wellFormed.clear.trans wellFormed.critical).le.trans beyond
    simp [isViolation, isClear, critical, unwarned, clear]

/-- For the other condition there is a value for every state, and one for none. -/
theorem violationState_above (above : d.condition ≠ .below) :
    violationState d.toAlarmDefinition d.criticalThreshold = some .warning ∧
      violationState d.toAlarmDefinition d.warningThreshold = none := by
  have unwarned : ¬d.criticalThreshold < d.warningThreshold := not_lt_of_gt wellFormed.critical
  have held : ¬d.warningThreshold ≤ d.clearThreshold := not_le_of_gt wellFormed.clear
  constructor
  · simp [violationState, isViolation, above, wellFormed.critical]
  · simp [violationState, isViolation, isClear, above, unwarned, held]

end Bands

/-- As long as updates are checked like creations: a definition can raise a warning, and holds its
state between two thresholds, iff it is not one for values `below`. -/
theorem warns_iff_not_below (es : List Event) (checked : Along step Checked ⟨[], []⟩ es) :
    ∀ db ∈ states step ⟨[], []⟩ es, ∀ d ∈ db.definitions,
      ((∃ value, violationState d.toAlarmDefinition value = some .warning) ↔
        d.condition ≠ .below) ∧
      ((∃ value, violationState d.toAlarmDefinition value = none) ↔ d.condition ≠ .below) := by
  intro db member d listed
  have wellFormed := (wellFormed_definitions_iff es).mpr checked db member d listed
  have two (value : Rat) (below : d.condition = .below) :
      violationState d.toAlarmDefinition value ≠ some .warning ∧
        violationState d.toAlarmDefinition value ≠ none := by
    rw [violationState_below wellFormed below]
    split_ifs <;> simp
  refine ⟨⟨?_, fun above => ?_⟩, ⟨?_, fun above => ?_⟩⟩
  · rintro ⟨value, warns⟩ below
    exact (two value below).1 warns
  · exact ⟨_, (violationState_above wellFormed above).1⟩
  · rintro ⟨value, holds⟩ below
    exact (two value below).2 holds
  · exact ⟨_, (violationState_above wellFormed above).2⟩

/-- An alarm for certificates that are about to run out. -/
def certificates : CreateDefinitionRequest :=
  ⟨"Certificates", "cert_days_left", "node", "", "", "below", 14, 30, 7, 3, none⟩

theorem createDefinition_certificates :
    createDefinition certificates "c1" 100 = .ok (definition certificates "c1" 100) := by
  rw [createDefinition, if_neg (by decide +kernel), if_neg (by decide +kernel),
    if_neg (by decide +kernel), if_neg (by decide +kernel), if_neg (by decide +kernel),
    if_neg (by decide +kernel)]

theorem warns_iff_not_below_certificates :
    ((∃ value, violationState (definition certificates "c1" 100).toAlarmDefinition value =
          some .warning) ↔
        (definition certificates "c1" 100).condition ≠ .below) ∧
      ((∃ value, violationState (definition certificates "c1" 100).toAlarmDefinition value =
          none) ↔
        (definition certificates "c1" 100).condition ≠ .below) :=
  warns_iff_not_below [.create certificates (some ("c1", 100))] ⟨trivial, trivial⟩ _
    (last_mem_states _ _) (definition certificates "c1" 100)
    (by simp [step, createDefinition_certificates, DB.createDefinition])

end AlarmDefinitions
