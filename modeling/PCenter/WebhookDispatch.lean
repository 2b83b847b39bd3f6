import PCenter.Webhooks

/-!
# Deliveries to endpoints that were disabled

The dispatcher beside the table: jobs wait in a queue, one worker takes them up and delivers to
their targets one after the other, and what came of a delivery is recorded when it is over, which
may be minutes later. A job of an event has targets that were enabled when it was queued; the job
of a test has its endpoint, enabled or not. Which endpoints an event matches, and whose secrets can
be decrypted, is left to the events of a run.
-/

namespace Webhooks.Dispatcher

open FiniteMap Transition

/-- `retrySchedule`, in seconds -/
def retrySchedule : List Nat := [5, 30, 120]

def attempts : Nat := 1 + retrySchedule.length

/-- A delivery succeeds when one of its attempts does. -/
def delivered (answer : Nat → Bool) : Bool := (List.range attempts).any answer

def queueSize : Nat := 1024

/-- The table, the queue and what the worker has still to deliver. Beside them the endpoints that
a delivery has disabled and no update has enabled since. -/
structure World where
  db : DB
  queue : List (List String)
  delivering : List String
  disabled : String → Bool

def start : World := ⟨∅, [], [], fun _ => false⟩

inductive Event where
  | insert (id : String) (row : EndpointRow)
  | update (id : String) (now : Int) (req : UpdateRequest)
  | delete (id : String)
  | get (id : String)
  /-- An event for those of the endpoints that are enabled. -/
  | publish (ids : List String)
  /-- The test of one endpoint. -/
  | dispatchTo (id : String)
  | take
  | deliver (answer : Nat → Bool) (time : Int)
  /-- What is queued is lost. -/
  | restart

/-- A job that finds the queue full is dropped, and so is one without targets. -/
def enqueue (job : List String) (w : World) : World :=
  if job = [] ∨ queueSize ≤ w.queue.length then w else { w with queue := w.queue ++ [job] }

/-- The end of a delivery to an endpoint. -/
def record (id : String) (success : Bool) (time : Int) (w : World) : World :=
  { w with
    db := (w.db.recordDelivery id success time).2
    disabled :=
      if (w.db.recordDelivery id success time).1.1 then Function.update w.disabled id true
      else w.disabled }

def go (w : World) (e : Event) : World :=
  match e with
  | .insert id row => { w with db := kept w.db (w.db.insert id row) }
  | .update id now req =>
      { w with
        db := kept w.db (w.db.update id now req)
        disabled := if req.enabled then Function.update w.disabled id false else w.disabled }
  | .delete id =>
      { w with
        db := kept w.db (w.db.delete id), disabled := Function.update w.disabled id false }
  | .get _ => w
  | .publish ids => enqueue (ids.filter w.db.enabled) w
  | .dispatchTo id => if (w.db.lookup id).isSome then enqueue [id] w else w
  | .take =>
      match w.delivering, w.queue with
      | [], job :: jobs => { w with queue := jobs, delivering := job }
      | _, _ => w
  | .deliver answer time =>
      match w.delivering with
      | [] => w
      | id :: ids => record id (delivered answer) time { w with delivering := ids }
  | .restart => { w with queue := [], delivering := [] }

/-- What is shown of an endpoint that a delivery has disabled. -/
def Shown (row : EndpointRow) : Prop :=
  row.enabled = false ∧ row.lastStatus = some "auto_disabled"

instance decidableShown (row : EndpointRow) : Decidable (Shown row) :=
  inferInstanceAs (Decidable (row.enabled = false ∧ row.lastStatus = some "auto_disabled"))

/-- Every endpoint that a delivery has disabled says so until an update enables it. -/
def Visible (w : World) : Prop :=
  ∀ id, w.disabled id = true → ∃ row, w.db.lookup id = some row ∧ Shown row

/-- No delivery to an endpoint ends that another one has disabled. -/
def Undisturbed (w : World) : Event → Prop
  | .deliver _ _ => ∀ id ∈ w.delivering.head?, w.disabled id = false
  | _ => True

section Status

variable {w : World} {d : DB} {id : String} {row : EndpointRow}

theorem shown_recordDelivery (found : d.lookup id = some row) (success : Bool) (time : Int) :
    ∃ row', (d.recordDelivery id success time).2.lookup id = some row' ∧
      (Shown row' ↔ (d.recordDelivery id success time).1.1 = true) := by
  cases success with
  | true =>
      rw [recordDelivery_succeeded found]
      refine ⟨_, AList.lookup_insert _, ?_⟩
      simp [Shown]
  | false =>
      rw [recordDelivery_failed found]
      split
      · refine ⟨_, AList.lookup_insert _, ?_⟩
        simp [Shown]
      · refine ⟨_, AList.lookup_insert _, ?_⟩
        simp [Shown, DB.failed]

theorem not_reported_of_off (found : d.lookup id = some row) (off : row.enabled = false)
    (success : Bool) (time : Int) : (d.recordDelivery id success time).1.1 = false := by
  cases success with
  | true => rw [recordDelivery_succeeded found]
  | false =>
      rw [recordDelivery_failed found, if_neg]
      rintro ⟨on, -⟩
      cases off.symm.trans on

theorem lookup_recordDelivery_of_ne {other : String} (apart : other ≠ id) (success : Bool)
    (time : Int) : (d.recordDelivery id success time).2.lookup other = d.lookup other :=
  @lookup_table_of_ne ⟨d, fun _ => 0⟩ (.recordDelivery id success time) other apart

/-- The end of a delivery keeps everything visible iff no other one has disabled the endpoint. -/
theorem visible_record_iff (visible : Visible w) (success : Bool) (time : Int) :
    Visible (record id success time w) ↔ w.disabled id = false := by
  constructor
  · intro after
    by_contra set
    have on : w.disabled id = true := by simpa using set
    obtain ⟨row, found, off, -⟩ := visible id on
    have silent := not_reported_of_off found off success time
    have still : (record id success time w).disabled id = true := by
      rw [record, silent]
      exact on
    obtain ⟨row', found', shown⟩ := after id still
    obtain ⟨row'', found'', iff⟩ := shown_recordDelivery found success time
    obtain rfl := Option.some.inj (found'.symm.trans found'')
    cases silent.symm.trans (iff.mp shown)
  · intro unset id' set
    by_cases here : id' = id
    · subst here
      cases reported : (w.db.recordDelivery id' success time).1.1 with
      | false =>
          have same : (record id' success time w).disabled id' = w.disabled id' := by
            rw [record, reported]
            rfl
          cases (same.trans unset).symm.trans set
      | true =>
          cases found : w.db.lookup id' with
          | none =>
              rw [recordDelivery_of_missing found] at reported
              cases reported
          | some row =>
              obtain ⟨row', found', iff⟩ := shown_recordDelivery found success time
              exact ⟨row', found', iff.mpr reported⟩
    · have before : w.disabled id' = true := by
        rw [record] at set
        split at set
        · exact (Function.update_of_ne here true w.disabled).symm.trans set
        · exact set
      obtain ⟨row, found, shown⟩ := visible id' before
      exact ⟨row, (lookup_recordDelivery_of_ne here success time).trans found, shown⟩

theorem visible_update (visible : Visible w) (now : Int) (req : UpdateRequest) :
    Visible (go w (.update id now req)) := by
  intro id' set
  have before : w.disabled id' = true ∧ (id' = id → req.enabled = false) := by
    by_cases on : req.enabled = true
    · have updated : Function.update w.disabled id false id' = true := by
        simpa [go, on] using set
      by_cases here : id' = id
      · subst here
        rw [Function.update_self] at updated
        cases updated
      · rw [Function.update_of_ne here] at updated
        exact ⟨updated, fun same => absurd same here⟩
    · exact ⟨by simpa [go, on] using set, fun _ => by simpa using on⟩
  obtain ⟨row, found, off, status⟩ := visible id' before.1
  by_cases here : id' = id
  · subst here
    let row' : EndpointRow :=
      { row with
        name := req.name, url := req.url, events := req.events, enabled := req.enabled
        updatedAt := now }
    refine ⟨row', ?_, before.2 rfl, status⟩
    change (kept w.db (w.db.update id' now req)).lookup id' = some row'
    rw [DB.update, found]
    exact AList.lookup_insert _
  · refine ⟨row, ?_, off, status⟩
    have same := @lookup_table_of_ne ⟨w.db, fun _ => 0⟩ (.update id now req) id' here
    exact same.trans found

theorem visible_of_same {w' : World} (visible : Visible w) (db : w'.db = w.db)
    (disabled : w'.disabled = w.disabled) : Visible w' := by
  intro id set
  rw [disabled] at set
  rw [db]
  exact visible id set

theorem visible_enqueue (visible : Visible w) (job : List String) : Visible (enqueue job w) := by
  rw [enqueue]
  split
  · exact visible
  · exact visible_of_same visible rfl rfl

theorem visible_go_iff (visible : Visible w) (e : Event) :
    Visible (go w e) ↔ Undisturbed w e := by
  cases e with
  | insert id row =>
      refine iff_of_true ?_ trivial
      intro id' set
      obtain ⟨row', found, shown⟩ := visible id' set
      refine ⟨row', ?_, shown⟩
      change (kept w.db (w.db.insert id row)).lookup id' = some row'
      rw [DB.insert]
      split
      · exact found
      · next free =>
          refine (AList.lookup_insert_ne ?_).trans found
          rintro rfl
          exact free (by rw [found, Option.isSome_some])
  | update id now req => exact iff_of_true (visible_update visible now req) trivial
  | delete id =>
      refine iff_of_true ?_ trivial
      intro id' set
      have apart : id' ≠ id := by
        rintro rfl
        have unset : (go w (.delete id')).disabled id' = false := Function.update_self _ _ _
        cases unset.symm.trans set
      have before : w.disabled id' = true := (Function.update_of_ne apart _ _).symm.trans set
      obtain ⟨row, found, shown⟩ := visible id' before
      have same := @lookup_table_of_ne ⟨w.db, fun _ => 0⟩ (.delete id) id' apart
      exact ⟨row, same.trans found, shown⟩
  | get id => exact iff_of_true visible trivial
  | publish ids => exact iff_of_true (visible_enqueue visible _) trivial
  | dispatchTo id =>
      refine iff_of_true ?_ trivial
      rw [go]
      split
      · exact visible_enqueue visible _
      · exact visible
  | take =>
      refine iff_of_true ?_ trivial
      rw [go]
      split
      · exact visible_of_same visible rfl rfl
      · exact visible
  | deliver answer time =>
      rw [Undisturbed]
      cases idle : w.delivering with
      | nil =>
          have same : go w (.deliver answer time) = w := by rw [go, idle]
          rw [same]
          exact iff_of_true visible fun id none_ => by cases none_
      | cons id ids =>
          have ended : go w (.deliver answer time) =
              record id (delivered answer) time { w with delivering := ids } := by
            rw [go, idle]
          have taken : Visible { w with delivering := ids } := visible_of_same visible rfl rfl
          rw [ended, visible_record_iff taken]
          simp
  | restart => exact iff_of_true (visible_of_same visible rfl rfl) trivial

theorem visible_start : Visible start := by
  intro id set
  cases set

/-- Endpoints that were disabled say so all along a run iff no delivery to one of them ends. -/
theorem disabled_visible_iff (es : List Event) :
    (∀ w ∈ states go start es, Visible w) ↔ Along go Undisturbed start es :=
  @invariant_iff_along _ _ _ Undisturbed Visible _ _
    (fun _ e _ visible => visible_go_iff visible e) visible_start

end Status

/-- Ten events that are delivered to one endpoint in vain, and then a test of it that succeeds. -/
def testedAfter : List Event :=
  Event.insert "ep-1" endpoint ::
    (List.range 10).flatMap (fun i : ℕ =>
      [Event.publish ["ep-1"], .take, .deliver (fun _ => false) i]) ++
    [Event.dispatchTo "ep-1", .take, .deliver (fun attempt => attempt = 0) 10]

/-- The endpoint is disabled, and what is shown is a success. -/
theorem test_hides_disabling :
    (testedAfter.foldl go start).disabled "ep-1" = true ∧
      ((testedAfter.foldl go start).db.lookup "ep-1").map (fun row =>
        (row.enabled, row.lastStatus)) = some (false, some "success") ∧
      ¬∀ w ∈ states go start testedAfter, Visible w := by
  have hidden : ((testedAfter.foldl go start).db.lookup "ep-1").map (fun row =>
      (row.enabled, row.lastStatus)) = some (false, some "success") := by
    decide +kernel
  refine ⟨by decide +kernel, hidden, ?_⟩
  intro visible
  obtain ⟨row, found, -, status⟩ :=
    visible _ (last_mem_states start testedAfter) "ep-1" (by decide +kernel)
  rw [found] at hidden
  have shown : row.lastStatus = some "success" :=
    congrArg Prod.snd (Option.some.inj hidden)
  rw [shown] at status
  exact absurd status (by decide)

end Webhooks.Dispatcher
