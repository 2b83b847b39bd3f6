import PCenter.Lib.FiniteMap
import PCenter.Lib.Program
import PCenter.Lib.Transition

/-!
# Alarms and their history

`internal/alarms`: the evaluation of one definition against one resource, and the two
tables it writes. Thresholds and values are compared but never computed with, so their type
is any type with decidable `<` and `≤`; the doubles of the source, NaN included, are one.
The definitions of a run may change between two evaluations.
-/

namespace Alarms

open Program Transition

inductive Condition where
  | above
  | below
  | other (name : String)
  deriving DecidableEq, Repr

inductive AlarmState where
  | normal
  | warning
  | critical
  deriving DecidableEq, Repr

structure AlarmDefinition (V : Type) where
  id : String
  name : String
  condition : Condition
  warningThreshold : V
  criticalThreshold : V
  clearThreshold : V
  durationSamples : Int

structure Resource where
  cluster : String
  resourceType : String
  resourceID : String
  resourceName : String

/-- What the clock shows, in seconds. -/
abbrev Instant := {t : Int // 0 < t}

/-- A row of `alarm_instances` under its id. -/
structure Row (V : Type) where
  definitionID : String
  cluster : String
  resourceType : String
  resourceID : String
  state : AlarmState
  currentValue : V
  threshold : V
  triggeredAt : Int
  lastEvaluatedAt : Int
  acknowledgedBy : String
  acknowledgedAt : Int
  consecutiveCount : Int

structure AlarmInstance (V : Type) extends Row V where
  id : String
  definitionName : String
  resourceName : String

/-- A row of `alarm_history`. -/
structure Entry (V : Type) where
  alarmInstanceID : String
  definitionName : String
  cluster : String
  resourceType : String
  resourceID : String
  resourceName : String
  oldState : AlarmState
  newState : AlarmState
  value : V
  threshold : V
  timestamp : Int

structure DB (V : Type) where
  instances : FiniteMap.Map String (Row V)
  history : List (Entry V)

/-- The columns that an evaluation reads. -/
structure Existing where
  state : AlarmState
  consecutiveCount : Int
  triggeredAt : Int
  acknowledgedBy : String
  acknowledgedAt : Int
  deriving DecidableEq

inductive Cmd (V : Type) where
  | selectInstance (id : String)
  | upsertInstance (inst : AlarmInstance V)
  | recordHistory (inst : AlarmInstance V) (oldState newState : AlarmState)
  | acknowledgeAlarm (id user : String)

variable {V : Type}

abbrev Answer : Cmd V → Type
  | .selectInstance _ => Option Existing
  | .upsertInstance _ => Bool
  | .recordHistory _ _ _ => Unit
  | .acknowledgeAlarm _ _ => Unit

abbrev Code (V : Type) := Prog (Cmd V) Answer

def issue (c : Cmd V) : Code V (Answer c) := ask c

section Store

def Row.scan (row : Row V) : Existing :=
  ⟨row.state, row.consecutiveCount, row.triggeredAt, row.acknowledgedBy, row.acknowledgedAt⟩

/-- The four columns that no two rows share. -/
def Row.key (row : Row V) : String × String × String × String :=
  (row.definitionID, row.cluster, row.resourceType, row.resourceID)

/-- The id is made of the key, so that a row with the key has the id; a row with the id and
another key refuses the insertion. -/
def DB.upsertInstance (inst : AlarmInstance V) (db : DB V) : Bool × DB V :=
  match db.instances.lookup inst.id with
  | none => (true, { db with instances := db.instances.insert inst.id inst.toRow })
  | some row =>
      if row.key = inst.toRow.key then
        (true, { db with instances := db.instances.insert inst.id inst.toRow })
      else (false, db)

def entry (stamp : Instant) (inst : AlarmInstance V) (oldState newState : AlarmState) : Entry V where
  alarmInstanceID := inst.id
  definitionName := inst.definitionName
  cluster := inst.cluster
  resourceType := inst.resourceType
  resourceID := inst.resourceID
  resourceName := inst.resourceName
  oldState := oldState
  newState := newState
  value := inst.currentValue
  threshold := inst.threshold
  timestamp := stamp.1

def DB.recordHistory (stamp : Instant) (inst : AlarmInstance V) (oldState newState : AlarmState)
    (db : DB V) : DB V :=
  { db with history := db.history ++ [entry stamp inst oldState newState] }

def DB.acknowledgeAlarm (stamp : Instant) (id user : String) (db : DB V) : DB V :=
  match db.instances.lookup id with
  | none => db
  | some row =>
      { db with
        instances := db.instances.insert id
          { row with acknowledgedBy := user, acknowledgedAt := stamp.1 } }

/-- One statement, at the time that it reads where it reads one. -/
def perform (stamp : Instant) : (c : Cmd V) → DB V → Option (Answer c × DB V)
  | .selectInstance id, db => some ((db.instances.lookup id).map Row.scan, db)
  | .upsertInstance inst, db => some (db.upsertInstance inst)
  | .recordHistory inst oldState newState, db =>
      some ((), db.recordHistory stamp inst oldState newState)
  | .acknowledgeAlarm id user, db => some ((), db.acknowledgeAlarm stamp id user)

end Store

section Evaluation

variable [LT V] [LE V] [DecidableLT V] [DecidableLE V]

def isViolation (value threshold : V) (cond : Condition) : Bool :=
  if cond = .below then value < threshold else value > threshold

def isClear (value threshold : V) (cond : Condition) : Bool :=
  if cond = .below then value ≥ threshold else value ≤ threshold

/-- The state that a value speaks for, if it speaks for one. -/
def violationState (d : AlarmDefinition V) (value : V) : Option AlarmState :=
  if isViolation value d.criticalThreshold d.condition then some .critical
  else if isViolation value d.warningThreshold d.condition then some .warning
  else if isClear value d.clearThreshold d.condition then some .normal
  else none

def instID (d : AlarmDefinition V) (res : Resource) : String :=
  d.id ++ ":" ++ res.cluster ++ ":" ++ res.resourceType ++ ":" ++ res.resourceID

/-- What is assumed of an instance that has no row. -/
def unseen : Existing := ⟨.normal, 0, 0, "", 0⟩

/-- The state, the counter, the time of the trigger and the threshold that an evaluation
stores. -/
def next (now : Instant) (d : AlarmDefinition V) (violation : AlarmState) (existing : Existing) :
    AlarmState × Int × Int × V :=
  if violation = .normal then (.normal, 0, 0, d.clearThreshold)
  else if existing.consecutiveCount + 1 ≥ d.durationSamples then
    (violation, existing.consecutiveCount + 1,
      if existing.state = .normal then now.1 else existing.triggeredAt,
      if violation = .critical then d.criticalThreshold else d.warningThreshold)
  else
    (existing.state, existing.consecutiveCount + 1, existing.triggeredAt, d.warningThreshold)

def evaluated (now : Instant) (d : AlarmDefinition V) (res : Resource) (value : V)
    (violation : AlarmState) (existing : Existing) : AlarmInstance V :=
  let (state, count, triggeredAt, threshold) := next now d violation existing
  { id := instID d res
    definitionID := d.id
    definitionName := d.name
    cluster := res.cluster
    resourceType := res.resourceType
    resourceID := res.resourceID
    resourceName := res.resourceName
    currentValue := value
    lastEvaluatedAt := now.1
    state := state
    consecutiveCount := count
    triggeredAt := triggeredAt
    threshold := threshold
    acknowledgedBy := if state = existing.state then existing.acknowledgedBy else ""
    acknowledgedAt := if state = existing.state then existing.acknowledgedAt else 0 }

/-- Saves an instance, and its change of state. -/
def save (inst : AlarmInstance V) (oldState : AlarmState) : Code V Bool := do
  let saved ← issue (.upsertInstance inst)
  if saved = false then pure false
  else if inst.state ≠ oldState then do
    issue (.recordHistory inst oldState inst.state)
    pure true
  else pure false

def evaluateAlarm (now : Instant) (d : AlarmDefinition V) (res : Resource) (value : V) :
    Code V Bool :=
  match violationState d value with
  | none => pure false
  | some violation => do
      let found ← issue (.selectInstance (instID d res))
      let existing := found.getD unseen
      save (evaluated now d res value violation existing) existing.state

def acknowledge (id user : String) : Code V Unit := issue (.acknowledgeAlarm id user)

end Evaluation

section Run

variable [LT V] [LE V] [DecidableLT V] [DecidableLE V]

inductive Event (V : Type) where
  | evaluate (now stamp : Instant) (d : AlarmDefinition V) (res : Resource) (value : V)
  | acknowledge (stamp : Instant) (id user : String)

def step (db : DB V) : Event V → DB V
  | .evaluate now stamp d res value =>
      ((exec (perform stamp) (evaluateAlarm now d res value) db).map Prod.snd).getD db
  | .acknowledge stamp id user =>
      ((exec (perform stamp) (acknowledge id user) db).map Prod.snd).getD db

def DB.empty : DB V := ⟨∅, []⟩

def run (es : List (Event V)) : DB V := es.foldl step DB.empty

/-- An instance as its next evaluation will find it. -/
def DB.existing (id : String) (db : DB V) : Existing :=
  ((db.instances.lookup id).map Row.scan).getD unseen

def DB.historyOf (id : String) (db : DB V) : List (Entry V) :=
  db.history.filter (·.alarmInstanceID = id)

end Run

section Effect

theorem exec_save (stamp : Instant) (inst : AlarmInstance V) (oldState : AlarmState) (db : DB V) :
    exec (perform stamp) (save inst oldState) db =
      some (if (db.upsertInstance inst).1 = true ∧ inst.state ≠ oldState then
          (true, (db.upsertInstance inst).2.recordHistory stamp inst oldState inst.state)
        else (false, (db.upsertInstance inst).2)) := by
  by_cases changed : inst.state = oldState
  · simp [save, issue, exec_act, perform, changed]
  · cases saved : (db.upsertInstance inst).1 <;> simp [save, issue, exec_act, perform, saved, changed]

/-- A row with the id of an instance has its key too. -/
def DB.Own (inst : AlarmInstance V) (db : DB V) : Prop :=
  ∀ row, db.instances.lookup inst.id = some row → row.key = inst.toRow.key

theorem upsert_of_own {inst : AlarmInstance V} {db : DB V} (own : db.Own inst) :
    db.upsertInstance inst =
      (true, { db with instances := db.instances.insert inst.id inst.toRow }) := by
  unfold DB.upsertInstance
  cases found : db.instances.lookup inst.id with
  | none => rfl
  | some row =>
      change (if row.key = inst.toRow.key then _ else _) = _
      rw [if_pos (own row found)]

theorem upsert_of_not_own {inst : AlarmInstance V} {db : DB V} (other : ¬db.Own inst) :
    db.upsertInstance inst = (false, db) := by
  unfold DB.upsertInstance
  cases found : db.instances.lookup inst.id with
  | none =>
      refine absurd ?_ other
      intro row here
      exact absurd (found.symm.trans here) (Option.some_ne_none row).symm
  | some row =>
      change (if row.key = inst.toRow.key then _ else _) = _
      rw [if_neg]
      intro same
      apply other
      intro row' here
      obtain rfl := Option.some.inj (found.symm.trans here)
      exact same

/-- The table and the history after an instance was saved. -/
def DB.saved (stamp : Instant) (inst : AlarmInstance V) (oldState : AlarmState) (db : DB V) : DB V where
  instances := db.instances.insert inst.id inst.toRow
  history :=
    if inst.state = oldState then db.history
    else db.history ++ [entry stamp inst oldState inst.state]

theorem historyOf_saved (db : DB V) (stamp : Instant) (inst : AlarmInstance V) (oldState : AlarmState)
    (id : String) :
    (db.saved stamp inst oldState).historyOf id =
      if inst.id = id ∧ inst.state ≠ oldState then
        db.historyOf id ++ [entry stamp inst oldState inst.state]
      else db.historyOf id := by
  by_cases changed : inst.state = oldState
  · simp [DB.saved, DB.historyOf, changed]
  · by_cases own : inst.id = id
    · simp [DB.saved, DB.historyOf, changed, own, entry]
    · simp [DB.saved, DB.historyOf, changed, own, entry]

theorem existing_of_lookup {db : DB V} {id : String} {row : Row V}
    (found : db.instances.lookup id = some row) : db.existing id = row.scan := by
  rw [DB.existing, found]
  rfl

theorem existing_congr {db db' : DB V} {id : String}
    (same : db'.instances.lookup id = db.instances.lookup id) :
    db'.existing id = db.existing id := by
  rw [DB.existing, DB.existing, same]

variable [LT V] [LE V] [DecidableLT V] [DecidableLE V]

/-- The instance that an evaluation stores. -/
def stored (now : Instant) (d : AlarmDefinition V) (res : Resource) (value : V)
    (violation : AlarmState) (db : DB V) : AlarmInstance V :=
  evaluated now d res value violation (db.existing (instID d res))

variable {now stamp : Instant} {d : AlarmDefinition V} {res : Resource} {value : V}
  {violation : AlarmState} {db : DB V}

theorem step_of_band (band : violationState d value = none) :
    step db (.evaluate now stamp d res value) = db := by
  simp [step, evaluateAlarm, band]

theorem step_of_speaks (speaks : violationState d value = some violation) :
    step db (.evaluate now stamp d res value) =
      ((exec (perform stamp) (save (stored now d res value violation db)
        (db.existing (instID d res)).state) db).map Prod.snd).getD db := by
  have executed : exec (perform stamp) (evaluateAlarm now d res value) db =
      exec (perform stamp) (save (stored now d res value violation db)
        (db.existing (instID d res)).state) db := by
    simp only [evaluateAlarm, speaks]
    rfl
  rw [step, executed]

theorem step_of_own (speaks : violationState d value = some violation)
    (own : db.Own (stored now d res value violation db)) :
    step db (.evaluate now stamp d res value) =
      db.saved stamp (stored now d res value violation db) (db.existing (instID d res)).state := by
  rw [step_of_speaks speaks, exec_save, upsert_of_own own]
  by_cases changed :
      (stored now d res value violation db).state = (db.existing (instID d res)).state
  · simp [changed, DB.saved]
  · simp [changed, DB.saved, DB.recordHistory]

theorem step_of_not_own (speaks : violationState d value = some violation)
    (other : ¬db.Own (stored now d res value violation db)) :
    step db (.evaluate now stamp d res value) = db := by
  rw [step_of_speaks speaks, exec_save, upsert_of_not_own other]
  simp

variable (db) in
/-- All that an event can do to one instance and to its rows of the history. -/
inductive Effect (id : String) : Event V → DB V → Prop where
  | kept (e : Event V) (db' : DB V) : db'.instances.lookup id = db.instances.lookup id →
      db'.historyOf id = db.historyOf id → Effect id e db'
  | acknowledged (stamp : Instant) (user : String) (row : Row V) (db' : DB V) :
      db.instances.lookup id = some row →
      db'.instances.lookup id =
        some { row with acknowledgedBy := user, acknowledgedAt := stamp.1 } →
      db'.historyOf id = db.historyOf id → Effect id (.acknowledge stamp id user) db'
  | evaluated (now stamp : Instant) (d : AlarmDefinition V) (res : Resource) (value : V)
      (violation : AlarmState) (db' : DB V) : id = instID d res →
      violationState d value = some violation →
      db'.instances.lookup id = some (stored now d res value violation db).toRow →
      db'.historyOf id =
        (if (stored now d res value violation db).state = (db.existing id).state then
          db.historyOf id
        else db.historyOf id ++ [entry stamp (stored now d res value violation db)
          (db.existing id).state (stored now d res value violation db).state]) →
      Effect id (.evaluate now stamp d res value) db'

variable (db) in
theorem effect (id : String) (e : Event V) : Effect db id e (step db e) := by
  cases e with
  | acknowledge stamp id' user =>
      change Effect db id _ (db.acknowledgeAlarm stamp id' user)
      unfold DB.acknowledgeAlarm
      cases found : db.instances.lookup id' with
      | none => exact .kept _ _ rfl rfl
      | some row =>
          by_cases own : id' = id
          · subst own
            exact .acknowledged stamp user row _ found (AList.lookup_insert _) rfl
          · exact .kept _ _ (AList.lookup_insert_ne (Ne.symm own)) rfl
  | evaluate now stamp d res value =>
      cases speaks : violationState d value with
      | none =>
          rw [step_of_band speaks]
          exact .kept _ _ rfl rfl
      | some violation =>
          by_cases allowed : db.Own (stored now d res value violation db)
          · rw [step_of_own speaks allowed]
            by_cases own : instID d res = id
            · subst own
              refine .evaluated now stamp d res value violation _ rfl speaks
                (AList.lookup_insert _) ?_
              rw [historyOf_saved]
              by_cases changed : (stored now d res value violation db).state =
                  (db.existing (instID d res)).state
              · simp [changed]
              · rw [if_pos ⟨rfl, changed⟩, if_neg changed]
            · refine .kept _ _ (AList.lookup_insert_ne (Ne.symm own)) ?_
              rw [historyOf_saved, if_neg]
              exact fun both => own both.1
          · rw [step_of_not_own speaks allowed]
            exact .kept _ _ rfl rfl

end Effect

section Audit

/-- Rows of the history that lead from one state to another, each with a change. -/
def Chain : AlarmState → List (Entry V) → AlarmState → Prop
  | first, [], last => first = last
  | first, e :: es, last => e.oldState = first ∧ e.newState ≠ e.oldState ∧ Chain e.newState es last

theorem chain_snoc {first old : AlarmState} {es : List (Entry V)} {e : Entry V}
    (chain : Chain first es old) (starts : e.oldState = old) (changes : e.newState ≠ e.oldState) :
    Chain first (es ++ [e]) e.newState := by
  induction es generalizing first with
  | nil =>
      obtain rfl : first = old := chain
      exact ⟨starts, changes, rfl⟩
  | cons e' es ih => exact ⟨chain.1, chain.2.1, ih chain.2.2⟩

/-- An instance has a trigger time exactly while it is not normal. -/
def Existing.Dated (existing : Existing) : Prop :=
  existing.state = .normal ↔ existing.triggeredAt = 0

theorem dated_unseen : unseen.Dated := ⟨fun _ => rfl, fun _ => rfl⟩

structure Audited (id : String) (db : DB V) : Prop where
  chain : Chain .normal (db.historyOf id) (db.existing id).state
  dated : (db.existing id).Dated

theorem audited_empty (id : String) : Audited id (DB.empty : DB V) :=
  ⟨rfl, dated_unseen⟩

variable (now : Instant) (d : AlarmDefinition V) {violation : AlarmState} {existing : Existing}

theorem next_dated (dated : existing.Dated) :
    (next now d violation existing).1 = .normal ↔
      (next now d violation existing).2.2.1 = 0 := by
  unfold next
  by_cases clears : violation = .normal
  · simp [clears]
  · rw [if_neg clears]
    by_cases enough : existing.consecutiveCount + 1 ≥ d.durationSamples
    · rw [if_pos enough]
      by_cases begins : existing.state = .normal
      · have later : now.1 ≠ 0 := by
          have := now.2
          omega
        simp [clears, begins, later]
      · have triggered : existing.triggeredAt ≠ 0 := fun zero => begins (dated.mpr zero)
        simp [clears, begins, triggered]
    · rw [if_neg enough]
      exact dated

theorem next_triggeredAt (before : existing.state ≠ .normal)
    (after : (next now d violation existing).1 ≠ .normal) :
    (next now d violation existing).2.2.1 = existing.triggeredAt := by
  unfold next at after ⊢
  by_cases clears : violation = .normal
  · simp [clears] at after
  · rw [if_neg clears]
    by_cases enough : existing.consecutiveCount + 1 ≥ d.durationSamples
    · simp [enough, before]
    · simp [enough]

variable [LT V] [LE V] [DecidableLT V] [DecidableLE V]

/-- The trigger time stays as it is, as long as the instance does not return to normal. -/
def TriggerKept (id : String) (db : DB V) (es : List (Event V)) : Prop :=
  (∀ t ∈ states step db es, (t.existing id).state ≠ .normal) →
    ∀ t ∈ states step db es, (t.existing id).triggeredAt = (db.existing id).triggeredAt

/-- A change of state drops the acknowledgement. -/
def Unacknowledges (id : String) (db : DB V) (e : Event V) : Prop :=
  ((step db e).existing id).state ≠ (db.existing id).state →
    ((step db e).existing id).acknowledgedBy = ""

theorem audited_step {id : String} {db : DB V} (audited : Audited id db) (e : Event V) :
    Audited id (step db e) := by
  obtain ⟨chain, dated⟩ := audited
  cases effect db id e with
  | kept _ _ same history =>
      constructor
      · rw [history, existing_congr same]
        exact chain
      · rw [existing_congr same]
        exact dated
  | acknowledged stamp user row _ found lookup history =>
      rw [existing_of_lookup found] at chain dated
      constructor
      · rw [history, existing_of_lookup lookup]
        exact chain
      · rw [existing_of_lookup lookup]
        exact dated
  | evaluated now stamp d res value violation _ own speaks lookup history =>
      subst own
      constructor
      · rw [history, existing_of_lookup lookup]
        by_cases same : (stored now d res value violation db).state =
            (db.existing (instID d res)).state
        · rw [if_pos same]
          change Chain _ _ (stored now d res value violation db).state
          rw [same]
          exact chain
        · rw [if_neg same]
          exact chain_snoc chain rfl same
      · rw [existing_of_lookup lookup]
        exact next_dated now d dated

theorem triggeredAt_step (id : String) (db : DB V) (e : Event V)
    (before : (db.existing id).state ≠ .normal)
    (after : ((step db e).existing id).state ≠ .normal) :
    ((step db e).existing id).triggeredAt = (db.existing id).triggeredAt := by
  cases effect db id e with
  | kept _ _ same _ => rw [existing_congr same]
  | acknowledged stamp user row _ found lookup _ =>
      rw [existing_of_lookup lookup, existing_of_lookup found]
      rfl
  | evaluated now stamp d res value violation _ own speaks lookup _ =>
      subst own
      rw [existing_of_lookup lookup] at after ⊢
      exact next_triggeredAt now d before after

theorem triggerKept (id : String) (db : DB V) (es : List (Event V)) : TriggerKept id db es := by
  intro active
  have steps := along_of_states active
  apply (constant_iff_along step (fun t => (t.existing id).triggeredAt) db es).mpr
  apply along_mono _ steps
  intro t e both
  exact triggeredAt_step id t e both.1 both.2

theorem unacknowledges (id : String) (db : DB V) (e : Event V) : Unacknowledges id db e := by
  intro changed
  cases effect db id e with
  | kept _ _ same _ => exact absurd (by rw [existing_congr same]) changed
  | acknowledged stamp user row _ found lookup _ =>
      rw [existing_of_lookup lookup, existing_of_lookup found] at changed
      exact absurd rfl changed
  | evaluated now stamp d res value violation _ own speaks lookup _ =>
      subst own
      rw [existing_of_lookup lookup] at changed ⊢
      exact if_neg changed

/-- In every run the history of an instance is a chain of changes from normal to its state,
the trigger time tells whether and since when it is not normal, and no change of state keeps
an acknowledgement. -/
theorem audited_run (es later : List (Event V)) (e : Event V) (id : String) :
    Chain .normal ((run es).historyOf id) ((run es).existing id).state ∧
      (((run es).existing id).state = .normal ↔ ((run es).existing id).triggeredAt = 0) ∧
      TriggerKept id (run es) later ∧ Unacknowledges id (run es) e := by
  have audited : Audited id (run es) :=
    invariant_foldl (P := Audited id) (fun _ e audited => audited_step audited e)
      (audited_empty id) es
  exact ⟨audited.chain, audited.dated, triggerKept id (run es) later, unacknowledges id (run es) e⟩

end Audit

section Consecutive

section Next

variable {now : Instant} {d : AlarmDefinition V} {violation : AlarmState} {existing : Existing}

theorem next_pending (raised : violation ≠ .normal)
    (stays : (next now d violation existing).1 = .normal) :
    existing.state = .normal ∧
      (next now d violation existing).2.1 = existing.consecutiveCount + 1 := by
  unfold next at stays ⊢
  rw [if_neg raised] at stays ⊢
  by_cases enough : existing.consecutiveCount + 1 ≥ d.durationSamples
  · rw [if_pos enough] at stays
    exact absurd stays raised
  · rw [if_neg enough] at stays ⊢
    exact ⟨stays, rfl⟩

theorem next_fires (before : existing.state = .normal)
    (after : (next now d violation existing).1 ≠ .normal) :
    violation ≠ .normal ∧ d.durationSamples ≤ existing.consecutiveCount + 1 := by
  unfold next at after
  by_cases clears : violation = .normal
  · exact absurd (by simp [clears]) after
  · rw [if_neg clears] at after
    by_cases enough : existing.consecutiveCount + 1 ≥ d.durationSamples
    · exact ⟨clears, enough⟩
    · rw [if_neg enough] at after
      exact absurd before after

end Next

variable [LT V] [LE V] [DecidableLT V] [DecidableLE V]

structure Sample (V : Type) where
  now : Instant
  stamp : Instant
  value : V

variable (d : AlarmDefinition V) (res : Resource)

def sampled (db : DB V) (s : Sample V) : DB V := step db (.evaluate s.now s.stamp d res s.value)

def instanceState (db : DB V) : AlarmState := (db.existing (instID d res)).state

def Violates (value : V) : Prop :=
  isViolation value d.criticalThreshold d.condition = true ∨
    isViolation value d.warningThreshold d.condition = true

instance (value : V) : Decidable (Violates d value) := inferInstanceAs (Decidable (_ ∨ _))

/-- As many violations at the end as the definition asks for. -/
def Consecutive (samples : List (Sample V)) : Prop :=
  d.durationSamples ≤ samples.length ∧
    ∀ s ∈ samples.drop (samples.length - d.durationSamples.toNat), Violates d s.value

instance (samples : List (Sample V)) : Decidable (Consecutive d samples) :=
  inferInstanceAs (Decidable (_ ∧ _))

/-- The last of the samples moves the instance out of the normal state. -/
def Fires (db : DB V) (earlier : List (Sample V)) (s : Sample V) : Prop :=
  instanceState d res (earlier.foldl (sampled d res) db) = .normal ∧
    instanceState d res ((earlier ++ [s]).foldl (sampled d res) db) ≠ .normal

instance (db : DB V) (earlier : List (Sample V)) (s : Sample V) :
    Decidable (Fires d res db earlier s) := inferInstanceAs (Decidable (_ ∧ _))

/-- A sample between the clear and the warning threshold finds no violation counted. -/
def Calm (db : DB V) (s : Sample V) : Prop :=
  violationState d s.value = none → instanceState d res db = .normal →
    (db.existing (instID d res)).consecutiveCount = 0

instance (db : DB V) (s : Sample V) : Decidable (Calm d res db s) :=
  inferInstanceAs (Decidable (_ → _ → _))

variable {d res}

theorem violates_of_speaks {value : V} {violation : AlarmState}
    (speaks : violationState d value = some violation) (raised : violation ≠ .normal) :
    Violates d value := by
  unfold violationState at speaks
  split_ifs at speaks with critical warning clear
  · exact .inl critical
  · exact .inr warning
  · exact absurd (Option.some.inj speaks).symm raised

/-- While the instance is normal, its counter counts the violations at the end. -/
structure Counted (d : AlarmDefinition V) (res : Resource) (samples : List (Sample V))
    (db : DB V) : Prop where
  own : ∀ row, db.instances.lookup (instID d res) = some row →
    row.key = (d.id, res.cluster, res.resourceType, res.resourceID)
  counts : instanceState d res db = .normal → ∃ earlier last, samples = earlier ++ last ∧
    (last.length : Int) = (db.existing (instID d res)).consecutiveCount ∧
    ∀ s ∈ last, Violates d s.value

omit [LE V] [DecidableLE V] in
theorem counted_of_missing {db : DB V} (missing : db.instances.lookup (instID d res) = none) :
    Counted d res [] db := by
  constructor
  · intro row found
    exact absurd (missing.symm.trans found) (Option.some_ne_none row).symm
  · intro _
    refine ⟨[], [], rfl, ?_, List.forall_mem_nil _⟩
    rw [DB.existing, missing]
    rfl

variable {db : DB V} {samples : List (Sample V)} {s : Sample V}

omit [LE V] [DecidableLE V] in
theorem own_of_counted {now : Instant} {value : V} {violation : AlarmState}
    (counted : Counted d res samples db) :
    db.Own (stored now d res value violation db) := fun row found => counted.own row found

theorem existing_sampled {violation : AlarmState}
    (counted : Counted d res samples db)
    (speaks : violationState d s.value = some violation) :
    (sampled d res db s).instances.lookup (instID d res) =
      some (stored s.now d res s.value violation db).toRow := by
  rw [sampled, step_of_own speaks (own_of_counted counted)]
  exact AList.lookup_insert _

theorem counted_sampled (counted : Counted d res samples db)
    (calm : Calm d res db s) :
    Counted d res (samples ++ [s]) (sampled d res db s) := by
  cases speaks : violationState d s.value with
  | none =>
      rw [sampled, step_of_band speaks]
      refine ⟨counted.own, ?_⟩
      intro normal
      exact ⟨samples ++ [s], [], (List.append_nil _).symm, (calm speaks normal).symm,
        List.forall_mem_nil _⟩
  | some violation =>
      have found := existing_sampled counted speaks
      constructor
      · intro row here
        obtain rfl := Option.some.inj (found.symm.trans here)
        rfl
      · intro normal
        rw [instanceState, existing_of_lookup found] at normal
        rw [existing_of_lookup found]
        by_cases clears : violation = .normal
        · subst clears
          exact ⟨samples ++ [s], [], (List.append_nil _).symm, rfl, List.forall_mem_nil _⟩
        · obtain ⟨before, count⟩ := next_pending clears normal
          obtain ⟨earlier, last, rfl, length, all⟩ := counted.counts before
          refine ⟨earlier, last ++ [s], List.append_assoc _ _ _, ?_, ?_⟩
          · change _ = (next s.now d violation (db.existing (instID d res))).2.1
            rw [count, ← length]
            simp only [List.length_append, List.length_singleton]
            omega
          · intro x member
            rcases List.mem_append.mp member with member | member
            · exact all x member
            · obtain rfl := List.mem_singleton.mp member
              exact violates_of_speaks speaks clears

theorem consecutive_of_fires (counted : Counted d res samples db)
    (before : instanceState d res db = .normal)
    (after : instanceState d res (sampled d res db s) ≠ .normal) :
    Consecutive d (samples ++ [s]) := by
  cases speaks : violationState d s.value with
  | none =>
      rw [sampled, step_of_band speaks] at after
      exact absurd before after
  | some violation =>
      rw [instanceState, existing_of_lookup (existing_sampled counted speaks)] at after
      obtain ⟨raised, enough⟩ := next_fires before after
      obtain ⟨earlier, last, rfl, length, all⟩ := counted.counts before
      rw [← length] at enough
      constructor
      · simp only [List.length_append, List.length_singleton]
        omega
      · intro x member
        have late : x ∈ last ++ [s] := by
          rw [List.append_assoc] at member
          have later := List.drop_subset_drop_left (i := earlier.length) _ ?_ member
          · rw [List.drop_append_length] at later
            exact later
          · simp only [List.length_append, List.length_singleton]
            omega
        rcases List.mem_append.mp late with late | late
        · exact all x late
        · obtain rfl := List.mem_singleton.mp late
          exact violates_of_speaks speaks raised

theorem counted_run (counted : Counted d res samples db) (more : List (Sample V))
    (calm : Along (sampled d res) (Calm d res) db more) :
    Counted d res (samples ++ more) (more.foldl (sampled d res) db) := by
  induction more generalizing samples db with
  | nil => simpa using counted
  | cons s more ih =>
      have later := ih (counted_sampled counted calm.1) calm.2
      rw [List.append_assoc] at later
      exact later

/-- An alarm fires only after as many violations in a row as its definition asks for, if no
sample between the clear and the warning threshold comes while violations are counted. -/
theorem consecutive_of_calm (d : AlarmDefinition V) (res : Resource) (db : DB V)
    (missing : db.instances.lookup (instID d res) = none) (samples : List (Sample V))
    (calm : Along (sampled d res) (Calm d res) db samples) :
    ∀ earlier s later, samples = earlier ++ s :: later → Fires d res db earlier s →
      Consecutive d (earlier ++ [s]) := by
  rintro earlier s later rfl ⟨before, after⟩
  have counted := counted_run (counted_of_missing missing) earlier ((along_append ..).mp calm).1
  rw [List.foldl_append] at after
  exact consecutive_of_fires counted before after

end Consecutive

section Fixtures

def nodeCPUHigh : AlarmDefinition Int where
  id := "d1"
  name := "Node CPU High"
  condition := .above
  warningThreshold := 90
  criticalThreshold := 95
  clearThreshold := 85
  durationSamples := 3

def pve1 : Resource := ⟨"main", "node", "pve1", "pve1"⟩

/-- A value that is read at a multiple of the interval. -/
def sampleAt (n : Nat) (value : Int) : Sample Int :=
  ⟨⟨1700000000 + 30 * n, by omega⟩, ⟨1700000000 + 30 * n, by omega⟩, value⟩

def oscillating : List (Sample Int) := [sampleAt 0 91, sampleAt 1 91, sampleAt 2 87]

end Fixtures

/-- Three violations with a sample of 87 percent among them fire the alarm. -/
theorem fires_across_band :
    Fires nodeCPUHigh pve1 DB.empty oscillating (sampleAt 3 91) ∧
      ¬Consecutive nodeCPUHigh (oscillating ++ [sampleAt 3 91]) := by
  decide +kernel

theorem consecutive_of_steady :
    Consecutive nodeCPUHigh [sampleAt 0 91, sampleAt 1 93, sampleAt 2 91] :=
  consecutive_of_calm nodeCPUHigh pve1 DB.empty rfl
    [sampleAt 0 91, sampleAt 1 93, sampleAt 2 91] (by decide +kernel)
    [sampleAt 0 91, sampleAt 1 93] (sampleAt 2 91) [] rfl (by decide +kernel)

end Alarms
