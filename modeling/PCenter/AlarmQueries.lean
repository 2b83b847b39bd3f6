import PCenter.Alarms
import PCenter.Lib.Sql
import PCenter.Lib.Traverse

/-!
# The list of active alarms

The tables of alarm definitions and instances with all their columns, the statements that write
them, and the query of `GetActiveAlarms`, whose names are resolved against the columns that
`migrate` creates. The columns of `alarm_instances` are a parameter of the query, so that it can
be said which of them it rests on.
-/

namespace AlarmDB

open Alarms Sql

variable {V : Type}

structure Definition (V : Type) extends AlarmDefinition V where
  enabled : Bool
  metricType : String
  resourceType : String
  scope : String
  scopeTarget : String
  notifyChannels : String
  createdAt : Int

/-- A row of `alarm_instances` with its id. -/
structure Instance (V : Type) extends Row V where
  id : String

/-- `alarm_definitions` as `migrate` creates it. -/
def definitionColumns : List String :=
  ["id", "name", "enabled", "metric_type", "resource_type", "scope", "scope_target", "condition",
    "warning_threshold", "critical_threshold", "clear_threshold", "duration_samples",
    "notify_channels", "created_at"]

/-- `alarm_instances` as `migrate` creates it. -/
def instanceColumns : List String :=
  ["id", "definition_id", "cluster", "resource_type", "resource_id", "state", "current_value",
    "threshold", "triggered_at", "last_evaluated_at", "acknowledged_by", "acknowledged_at",
    "consecutive_count"]

structure DB (V : Type) where
  definitions : List (Definition V)
  instances : List (Instance V)

section Statements

/-- The insertion fails when the id is taken. -/
def DB.createDefinition (d : Definition V) (db : DB V) : Option (DB V) :=
  if d.id ∈ db.definitions.map (·.id) then none
  else some { db with definitions := db.definitions ++ [d] }

/-- Foreign keys are on, and instances go with their definition. -/
def DB.deleteDefinition (id : String) (db : DB V) : DB V where
  definitions := db.definitions.filter fun d => d.id ≠ id
  instances := db.instances.filter fun r => r.definitionID ≠ id

/-- An instance with the key is updated and keeps its id. Otherwise a row is inserted, which
fails when the id is taken or the definition is not there. -/
def DB.upsertInstance (inst : AlarmInstance V) (db : DB V) : Option (DB V) :=
  if inst.toRow.key ∈ db.instances.map (·.key) then
    some
      { db with
        instances := db.instances.map fun r =>
          if r.key = inst.toRow.key then { r with toRow := inst.toRow } else r }
  else if inst.id ∈ db.instances.map (·.id) ∨ inst.definitionID ∉ db.definitions.map (·.id) then
    none
  else some { db with instances := db.instances ++ [⟨inst.toRow, inst.id⟩] }

def DB.acknowledgeAlarm (stamp : Instant) (id user : String) (db : DB V) : DB V :=
  { db with
    instances := db.instances.map fun r =>
      if r.id = id then { r with acknowledgedBy := user, acknowledgedAt := stamp.1 } else r }

inductive Event (V : Type) where
  | createDefinition (d : Definition V)
  | deleteDefinition (id : String)
  | upsertInstance (inst : AlarmInstance V)
  | acknowledgeAlarm (stamp : Instant) (id user : String)

/-- A statement that fails leaves the tables as they are. -/
def step (db : DB V) : Event V → DB V
  | .createDefinition d => (db.createDefinition d).getD db
  | .deleteDefinition id => db.deleteDefinition id
  | .upsertInstance inst => (db.upsertInstance inst).getD db
  | .acknowledgeAlarm stamp id user => db.acknowledgeAlarm stamp id user

def run (es : List (Event V)) : DB V := es.foldl step ⟨[], []⟩

end Statements

section Rows

def conditionText : Condition → String
  | .above => "above"
  | .below => "below"
  | .other name => name

def stateText : AlarmState → String
  | .normal => "normal"
  | .warning => "warning"
  | .critical => "critical"

def Definition.cell (d : Definition V) : String → Value V
  | "id" => .text d.id
  | "name" => .text d.name
  | "enabled" => .integer (if d.enabled then 1 else 0)
  | "metric_type" => .text d.metricType
  | "resource_type" => .text d.resourceType
  | "scope" => .text d.scope
  | "scope_target" => .text d.scopeTarget
  | "condition" => .text (conditionText d.condition)
  | "warning_threshold" => .real d.warningThreshold
  | "critical_threshold" => .real d.criticalThreshold
  | "clear_threshold" => .real d.clearThreshold
  | "duration_samples" => .integer d.durationSamples
  | "notify_channels" => .text d.notifyChannels
  | "created_at" => .integer d.createdAt
  | _ => .null

/-- A column that no statement writes holds `NULL`. -/
def Instance.cell (r : Instance V) : String → Value V
  | "id" => .text r.id
  | "definition_id" => .text r.definitionID
  | "cluster" => .text r.cluster
  | "resource_type" => .text r.resourceType
  | "resource_id" => .text r.resourceID
  | "state" => .text (stateText r.state)
  | "current_value" => .real r.currentValue
  | "threshold" => .real r.threshold
  | "triggered_at" => .integer r.triggeredAt
  | "last_evaluated_at" => .integer r.lastEvaluatedAt
  | "acknowledged_by" => .text r.acknowledgedBy
  | "acknowledged_at" => .integer r.acknowledgedAt
  | "consecutive_count" => .integer r.consecutiveCount
  | _ => .null

def DB.tables (columns : List String) (db : DB V) (name : String) : Option (Table V) :=
  match name with
  | "alarm_definitions" => some ⟨definitionColumns, db.definitions.map Definition.cell⟩
  | "alarm_instances" => some ⟨columns, db.instances.map Instance.cell⟩
  | _ => none

end Rows

section Query

def ai (name : String) : Expr V := .column ⟨"ai", name⟩

def ad (name : String) : Expr V := .column ⟨"ad", name⟩

def activeQuery : Select V where
  columns :=
    [ai "id", ai "definition_id", ad "name", ai "cluster", ai "resource_type", ai "resource_id",
      .coalesce (ai "resource_name") (ai "resource_id"), ai "state", ai "current_value",
      ai "threshold", ai "triggered_at", ai "last_evaluated_at", ai "acknowledged_by",
      ai "acknowledged_at", ai "consecutive_count"]
  source := ⟨"alarm_instances", "ai"⟩
  joined := ⟨"alarm_definitions", "ad"⟩
  on := .same (ai "definition_id") (ad "id")
  filter :=
    .both (.isNot (ai "state") "normal")
      (.either (.isNull (ai "acknowledged_by")) (.is (ai "acknowledged_by") ""))
  order := [(.rank (ai "state") ["critical", "warning"], false), (ai "triggered_at", true)]

def scanState : String → AlarmState
  | "warning" => .warning
  | "critical" => .critical
  | _ => .normal

/-- `sql.NullInt64`, and zero without a value. -/
def nullInt : Value V → Int
  | .integer n => n
  | _ => 0

/-- `sql.NullString`, and empty without a value. -/
def nullString : Value V → String
  | .text s => s
  | _ => ""

/-- One row of the result, as `scanInstances` reads it. -/
def scanInstance : List (Value V) → Except String (AlarmInstance V)
  | [.text id, .text definitionID, .text definitionName, .text cluster, .text resourceType,
      .text resourceID, .text resourceName, .text state, .real currentValue, .real threshold,
      trigAt, .integer lastEvaluatedAt, ackBy, ackAt, .integer consecutiveCount] =>
      .ok
        { id := id, definitionID := definitionID, definitionName := definitionName
          cluster := cluster, resourceType := resourceType, resourceID := resourceID
          resourceName := resourceName, state := scanState state, currentValue := currentValue
          threshold := threshold, triggeredAt := nullInt trigAt
          lastEvaluatedAt := lastEvaluatedAt, acknowledgedBy := nullString ackBy
          acknowledgedAt := nullInt ackAt, consecutiveCount := consecutiveCount }
  | _ => .error "sql: Scan error"

variable [BEq V] [LT V] [DecidableLT V]

/-- The query over tables of which the one of the instances has the given columns. -/
def activeAlarms (columns : List String) (db : DB V) : Except String (List (AlarmInstance V)) :=
  activeQuery.run (db.tables columns) >>= fun rows => rows.mapM scanInstance

def getActiveAlarms (db : DB V) : Except String (List (AlarmInstance V)) :=
  activeAlarms instanceColumns db

end Query

/-- Not normal and not acknowledged. -/
def Instance.Open (r : Instance V) : Prop := r.state ≠ .normal ∧ r.acknowledgedBy = ""

instance decidableOpen : DecidablePred (Instance.Open (V := V)) :=
  fun r => inferInstanceAs (Decidable (r.state ≠ .normal ∧ r.acknowledgedBy = ""))

/-- The fields of a listed alarm that are stored. -/
def stored (a : AlarmInstance V) : Instance V := ⟨a.toRow, a.id⟩

/-- The list is there, and it has the open instances, each once. -/
def Exact (db : DB V) : Except String (List (AlarmInstance V)) → Prop
  | .ok listed => (listed.map stored).Perm (db.instances.filter fun r => r.Open)
  | .error _ => False

/-- The constraints of the tables: ids are not shared, and every instance has its definition. -/
structure Constrained (db : DB V) : Prop where
  unique : (db.definitions.map (·.id)).Nodup
  defined : ∀ r ∈ db.instances, r.definitionID ∈ db.definitions.map (·.id)

theorem constrained_step {db : DB V} (constrained : Constrained db) (e : Event V) :
    Constrained (step db e) := by
  obtain ⟨unique, defined⟩ := constrained
  cases e with
  | createDefinition d =>
      simp only [step, DB.createDefinition]
      split
      · exact ⟨unique, defined⟩
      · next fresh =>
          constructor
          · simp only [Option.getD_some, List.map_append, List.map_singleton]
            exact List.nodup_append.mpr ⟨unique, List.nodup_singleton _, by
              intro a there b last same
              obtain rfl := List.mem_singleton.mp last
              exact fresh (same ▸ there)⟩
          · intro r there
            simp only [Option.getD_some, List.map_append, List.mem_append]
            exact Or.inl (defined r there)
  | deleteDefinition id =>
      constructor
      · exact unique.sublist (List.filter_sublist.map _)
      · intro r there
        obtain ⟨kept, other⟩ := List.mem_filter.mp there
        obtain ⟨d, member, same⟩ := List.mem_map.mp (defined r kept)
        apply List.mem_map.mpr
        refine ⟨d, List.mem_filter.mpr ⟨member, ?_⟩, same⟩
        rw [same]
        exact other
  | upsertInstance inst =>
      simp only [step, DB.upsertInstance]
      split
      · refine ⟨unique, ?_⟩
        intro r there
        obtain ⟨old, member, made⟩ := List.mem_map.mp there
        split at made
        · next same =>
            obtain rfl := made
            have key : old.definitionID = inst.definitionID := congrArg Prod.fst same
            change inst.definitionID ∈ db.definitions.map (·.id)
            rw [← key]
            exact defined old member
        · exact made ▸ defined old member
      · split
        · exact ⟨unique, defined⟩
        · next fresh =>
            refine ⟨unique, ?_⟩
            intro r there
            rcases List.mem_append.mp there with old | new
            · exact defined r old
            · obtain rfl := List.mem_singleton.mp new
              by_contra missing
              exact fresh (Or.inr missing)
  | acknowledgeAlarm stamp id user =>
      refine ⟨unique, ?_⟩
      intro r there
      obtain ⟨old, member, made⟩ := List.mem_map.mp there
      split at made
      · exact made ▸ defined old member
      · exact made ▸ defined old member

theorem constrained_run (es : List (Event V)) : Constrained (run es) := by
  have all : ∀ db, Constrained db → Constrained (es.foldl step db) := by
    induction es with
    | nil => exact fun _ constrained => constrained
    | cons e es ih => exact fun db constrained => ih _ (constrained_step constrained e)
  exact all _ ⟨List.nodup_nil, by simp⟩

section Listing

variable {columns : List String} {db : DB V} {r : Instance V} {d : Definition V}

theorem resolves_ai {name : String} :
    Resolves [("ai", columns), ("ad", definitionColumns)] ⟨"ai", name⟩ ↔ name ∈ columns := by
  simp [Resolves]

/-- All names of the query but one are of columns that `migrate` creates. -/
theorem names_of_query : ∀ c ∈ (activeQuery (V := V)).names,
    Resolves [("ai", instanceColumns), ("ad", definitionColumns)] c ∨
      c = ⟨"ai", "resource_name"⟩ := by
  have names : (activeQuery (V := V)).names = (activeQuery (V := Unit)).names := rfl
  rw [names]
  decide

theorem names_resolve_iff (all : ∀ name ∈ instanceColumns, name ∈ columns) :
    (∀ c ∈ (activeQuery (V := V)).names,
      Resolves [("ai", columns), ("ad", definitionColumns)] c) ↔ "resource_name" ∈ columns := by
  constructor
  · intro resolved
    apply resolves_ai.mp
    exact resolved ⟨"ai", "resource_name"⟩ (by simp [activeQuery, Select.names, Expr.names, ai, ad])
  · intro there c member
    rcases names_of_query c member with ⟨s, scope, known⟩ | rfl
    · rcases List.mem_pair.mp scope with rfl | rfl
      · exact ⟨_, List.mem_cons_self, known.1, all _ known.2⟩
      · exact ⟨_, List.mem_cons_of_mem _ (List.mem_singleton_self _), known⟩
    · exact resolves_ai.mpr there

/-- The alarm that the query lists for an instance and its definition. -/
def listed (r : Instance V) (d : Definition V) : AlarmInstance V :=
  { r.toRow with id := r.id, definitionName := d.name, resourceName := r.resourceID }

theorem scanState_stateText (state : AlarmState) : scanState (stateText state) = state := by
  cases state <;> rfl

theorem scan_joined (p : Instance V × Definition V) :
    scanInstance ((activeQuery (V := V)).columns.map fun e =>
      e.eval (joinRow activeQuery (p.1.cell, p.2.cell))) = .ok (listed p.1 p.2) := by
  obtain ⟨r, d⟩ := p
  have state := scanState_stateText r.state
  change Except.ok { listed r d with state := scanState (stateText r.state) } = _
  rw [state]
  rfl

variable [BEq V]

theorem pairs_activeQuery : activeQuery.pairs Instance.cell Definition.cell db.instances
    db.definitions = (db.instances.product db.definitions).filter fun p =>
      p.1.Open ∧ p.1.definitionID = p.2.id := by
  apply List.filter_congr
  rintro ⟨r, d⟩ -
  have on : (activeQuery (V := V)).on.eval (joinRow activeQuery (r.cell, d.cell)) =
      some (r.definitionID == d.id) := rfl
  have filter : (activeQuery (V := V)).filter.eval (joinRow activeQuery (r.cell, d.cell)) =
      conj (some !(stateText r.state == "normal"))
        (disj (some false) (some (r.acknowledgedBy == ""))) := rfl
  rw [on, filter, decide_eq_decide]
  cases state : r.state <;> cases acked : r.acknowledgedBy == "" <;>
    simp_all [stateText, conj, disj, Instance.Open]

omit [BEq V] in
theorem one_definition (constrained : Constrained db) (member : r ∈ db.instances) :
    (db.definitions.filter fun d => decide (r.Open ∧ r.definitionID = d.id)).length =
      if decide r.Open = true then 1 else 0 := by
  have once : (db.definitions.map (·.id)).count r.definitionID = 1 :=
    List.count_eq_one_of_mem constrained.unique (constrained.defined r member)
  by_cases opened : r.Open
  · rw [if_pos (decide_eq_true opened), ← once, List.count, List.countP_map,
      List.countP_eq_length_filter]
    congr 1
    apply List.filter_congr
    intro d _
    rw [Bool.eq_iff_iff, decide_eq_true_iff, Function.comp_apply, beq_iff_eq]
    constructor
    · intro both
      exact both.2.symm
    · intro same
      exact ⟨opened, same.symm⟩
  · simp [opened]

variable [LT V] [DecidableLT V]

theorem exact_iff_resource_name (constrained : Constrained db)
    (all : ∀ name ∈ instanceColumns, name ∈ columns) :
    Exact db (activeAlarms columns db) ↔ "resource_name" ∈ columns := by
  constructor
  · intro listed_
    apply (@names_resolve_iff V columns all).mp
    apply (@run_ok_iff V _ _ _ activeQuery (db.tables columns) _ _ rfl rfl).mp
    cases ran : activeQuery.run (db.tables columns) with
    | ok rows => exact ⟨rows, rfl⟩
    | error message =>
        rw [activeAlarms, ran] at listed_
        cases listed_
  · intro there
    obtain ⟨sorted, perm, ran⟩ := @run_encoded V _ _ _ activeQuery (db.tables columns) _ _
      Instance.cell Definition.cell db.instances db.definitions columns definitionColumns rfl rfl
      ((names_resolve_iff all).mpr there)
    have scanned := Traverse.mapM_map_ok fun pair (_ : pair ∈ sorted) => @scan_joined V pair
    rw [activeAlarms, ran]
    change Exact db (List.mapM _ _)
    rw [scanned]
    change (List.map stored _).Perm _
    rw [List.map_map]
    have each : stored ∘ (fun p : Instance V × Definition V => listed p.1 p.2) = Prod.fst := rfl
    have once := @map_fst_filter_product (Instance V) (Definition V) db.instances db.definitions
      (fun p => decide (p.1.Open ∧ p.1.definitionID = p.2.id)) (fun r => decide r.Open)
      (fun r member => one_definition constrained member)
    rw [each, ← once, ← pairs_activeQuery]
    exact perm.map _

/-- The column that the query reads is in no table, so that it never lists an alarm. -/
theorem active_alarms_never_listed (es : List (Event V)) :
    getActiveAlarms (run es) = .error "no such column: ai.resource_name" ∧
      ¬Exact (run es) (getActiveAlarms (run es)) := by
  constructor
  · rfl
  · intro listed_
    exact absurd ((exact_iff_resource_name (constrained_run es) fun _ there => there).mp listed_)
      (by decide)

end Listing

def hotNode : AlarmInstance Int :=
  { id := "d1:lab:node:pve1", definitionID := "d1", definitionName := "Node CPU High"
    cluster := "lab", resourceType := "node", resourceID := "pve1", resourceName := "pve1"
    state := .critical, currentValue := 97, threshold := 95, triggeredAt := 1000
    lastEvaluatedAt := 1000, acknowledgedBy := "", acknowledgedAt := 0, consecutiveCount := 3 }

def nodeCPU : Definition Int :=
  { id := "d1", name := "Node CPU High", condition := .above, warningThreshold := 90
    criticalThreshold := 95, clearThreshold := 85, durationSamples := 3, enabled := true
    metricType := "cpu", resourceType := "node", scope := "global", scopeTarget := ""
    notifyChannels := "[]", createdAt := 900 }

/-- A critical alarm that nobody has acknowledged, and no list. -/
theorem critical_alarm_hidden :
    ((run [.createDefinition nodeCPU, .upsertInstance hotNode]).instances.filter
        fun r => r.Open).map (·.id) = ["d1:lab:node:pve1"] ∧
      ¬Exact (run [.createDefinition nodeCPU, .upsertInstance hotNode])
        (getActiveAlarms (run [.createDefinition nodeCPU, .upsertInstance hotNode])) := by
  constructor
  · decide
  · intro listed_
    cases listed_

end AlarmDB
