import Mathlib.Logic.Function.Basic
import PCenter.Lib.FiniteMap
import PCenter.Lib.Transition

/-!
# Webhook endpoints that keep failing

The table of `webhooks/db.go`. A delivery that was given up raises the counter of its endpoint
and a successful one clears it; at the threshold the endpoint is disabled. Deliveries that were
under way may still be recorded for an endpoint that is disabled by then.

Every operation holds the mutex of the database, so a run is a list of them. Statements succeed.
-/

namespace Webhooks

open FiniteMap Transition

structure EndpointRow where
  name : String
  url : String
  events : List String
  secretEncrypted : String
  enabled : Bool
  createdAt : Int
  updatedAt : Int
  lastFiredAt : Option Int
  lastStatus : Option String
  consecutiveFailures : Nat
  deriving DecidableEq, Repr

structure UpdateRequest where
  name : String
  url : String
  events : List String
  enabled : Bool
  deriving DecidableEq, Repr

/-- The table, by the primary key. -/
abbrev DB := Map String EndpointRow

def errNotFound : String := "webhook endpoint not found"

def autoDisableThreshold : Nat := 10

namespace DB

variable (d : DB) (id : String)

/-- `Insert`, which writes nothing into the three columns of the deliveries. -/
def insert (row : EndpointRow) : Except String DB :=
  if (d.lookup id).isSome then .error "UNIQUE constraint failed: webhook_endpoints.id"
  else
    .ok (AList.insert id
      { row with lastFiredAt := none, lastStatus := none, consecutiveFailures := 0 } d)

def update (now : Int) (req : UpdateRequest) : Except String DB :=
  match d.lookup id with
  | none => .error errNotFound
  | some row =>
      .ok (AList.insert id
        { row with
          name := req.name
          url := req.url
          events := req.events
          enabled := req.enabled
          updatedAt := now } d)

def delete : Except String DB :=
  if (d.lookup id).isSome then .ok (d.erase id) else .error errNotFound

/-- The row after a delivery that was given up, before the threshold is looked at. -/
def failed (time : Int) (row : EndpointRow) : EndpointRow :=
  { row with
    lastFiredAt := some time
    lastStatus := some "failure"
    consecutiveFailures := row.consecutiveFailures + 1 }

/-- `RecordDelivery`: whether the endpoint was disabled, and its failures. -/
def recordDelivery (success : Bool) (time : Int) : (Bool × Nat) × DB :=
  match d.lookup id with
  | none => ((false, 0), d)
  | some row =>
      if success then
        ((false, 0), AList.insert id
          { row with
            lastFiredAt := some time
            lastStatus := some "success"
            consecutiveFailures := 0 } d)
      else
        let newCount := row.consecutiveFailures + 1
        if newCount < autoDisableThreshold then
          ((false, newCount), AList.insert id (failed time row) d)
        else if row.enabled then
          ((true, newCount), AList.insert id
            { failed time row with enabled := false, lastStatus := some "auto_disabled" } d)
        else ((false, newCount), AList.insert id (failed time row) d)

/-- There is an endpoint with the identifier, and it is enabled. -/
def enabled : Bool := (d.lookup id).any (·.enabled)

def failures : Nat := (d.lookup id).elim 0 (·.consecutiveFailures)

end DB

section Runs

inductive Event where
  | insert (id : String) (row : EndpointRow)
  | update (id : String) (now : Int) (req : UpdateRequest)
  | delete (id : String)
  | recordDelivery (id : String) (success : Bool) (time : Int)

/-- The table, and for each endpoint the deliveries in a row that failed since it was last
enabled, which are recorded for the statements only. -/
structure World where
  db : DB
  streak : String → Nat

def start : World := ⟨∅, fun _ => 0⟩

/-- The table after an operation, which an error leaves as it was. -/
def kept (d : DB) : Except String DB → DB
  | .ok d' => d'
  | .error _ => d

def World.table (w : World) : Event → DB
  | .insert id row => kept w.db (w.db.insert id row)
  | .update id now req => kept w.db (w.db.update id now req)
  | .delete id => kept w.db (w.db.delete id)
  | .recordDelivery id success time => (w.db.recordDelivery id success time).2

/-- The failures in a row of the endpoint that an event is about, after it. -/
def World.streakOf (w : World) (id : String) : Event → Nat
  | .insert _ _ => if (w.db.lookup id).isSome then w.streak id else 0
  | .update _ _ req => if req.enabled ∧ w.db.enabled id = false then 0 else w.streak id
  | .delete _ => w.streak id
  | .recordDelivery _ success _ =>
      if (w.db.lookup id).isNone then w.streak id
      else if success then 0
      else w.streak id + 1

def Event.id : Event → String
  | .insert id _ => id
  | .update id _ _ => id
  | .delete id => id
  | .recordDelivery id _ _ => id

def go (w : World) (e : Event) : World :=
  ⟨w.table e, Function.update w.streak e.id (w.streakOf e.id e)⟩

/-- The failed delivery brings the streak of an endpoint that is enabled to the threshold. -/
def Tips (w : World) (id : String) (success : Bool) : Prop :=
  success = false ∧ w.db.enabled id = true ∧ w.streak id + 1 = autoDisableThreshold

instance (w : World) (id : String) (success : Bool) : Decidable (Tips w id success) :=
  inferInstanceAs (Decidable (_ ∧ _))

/-- A delivery disables its endpoint, and is reported to do so, exactly when it is the one that
brings a streak of failures since the endpoint was last enabled to the threshold. -/
def FreshStreak (w : World) : Event → Prop
  | .recordDelivery id success time =>
      ((w.db.recordDelivery id success time).1.1 = true ↔ Tips w id success) ∧
        (w.db.enabled id = true ∧ (w.db.recordDelivery id success time).2.enabled id = false ↔
          Tips w id success)
  | _ => True

/-- What a failed delivery to an enabled endpoint finds in the counter when that is to reach the
threshold was all recorded since the endpoint was last enabled. -/
def OwnFailures (w : World) : Event → Prop
  | .recordDelivery id false _ => w.db.enabled id = true →
      autoDisableThreshold ≤ w.db.failures id + 1 → w.db.failures id = w.streak id
  | _ => True

instance (w : World) : ∀ e : Event, Decidable (FreshStreak w e)
  | .recordDelivery id success time => inferInstanceAs (Decidable
      (((w.db.recordDelivery id success time).1.1 = true ↔ Tips w id success) ∧
        (w.db.enabled id = true ∧ (w.db.recordDelivery id success time).2.enabled id = false ↔
          Tips w id success)))
  | .insert _ _ => isTrue trivial
  | .update _ _ _ => isTrue trivial
  | .delete _ => isTrue trivial

end Runs

section Streaks

/-- What the counter of an endpoint says about the failures since it was last enabled. -/
structure Sound (streak : Nat) (row : EndpointRow) : Prop where
  counted : streak ≤ row.consecutiveFailures
  short : row.enabled = true → streak < autoDisableThreshold
  fresh : row.enabled = true → streak = 0 ∨ row.consecutiveFailures < autoDisableThreshold

def Inv (w : World) : Prop :=
  ∀ id row, w.db.lookup id = some row → Sound (w.streak id) row

variable {w : World} {d : DB} {id : String} {row row' : EndpointRow}

theorem enabled_of_lookup (found : d.lookup id = some row) : d.enabled id = row.enabled := by
  rw [DB.enabled, found, Option.any_some]

theorem failures_of_lookup (found : d.lookup id = some row) :
    d.failures id = row.consecutiveFailures := by
  rw [DB.failures, found, Option.elim_some]

theorem recordDelivery_of_missing (missing : d.lookup id = none) (success : Bool) (time : Int) :
    d.recordDelivery id success time = ((false, 0), d) := by
  rw [DB.recordDelivery, missing]

/-- A failed delivery raises the counter, and disables an enabled endpoint at the threshold. -/
theorem recordDelivery_failed (found : d.lookup id = some row) (time : Int) :
    d.recordDelivery id false time =
      if row.enabled = true ∧ autoDisableThreshold ≤ row.consecutiveFailures + 1 then
        ((true, row.consecutiveFailures + 1), AList.insert id
          { DB.failed time row with enabled := false, lastStatus := some "auto_disabled" } d)
      else
        ((false, row.consecutiveFailures + 1), AList.insert id (DB.failed time row) d) := by
  rw [DB.recordDelivery, found]
  by_cases short : row.consecutiveFailures + 1 < autoDisableThreshold
  · have apart : ¬(row.enabled = true ∧ autoDisableThreshold ≤ row.consecutiveFailures + 1) := by
      omega
    rw [if_neg apart]
    exact if_pos short
  · have reached : autoDisableThreshold ≤ row.consecutiveFailures + 1 := by omega
    refine (if_neg short).trans ?_
    by_cases on : row.enabled = true
    · rw [if_pos on, if_pos ⟨on, reached⟩]
    · rw [if_neg on, if_neg fun both => on both.1]

theorem recordDelivery_succeeded (found : d.lookup id = some row) (time : Int) :
    d.recordDelivery id true time =
      ((false, 0), AList.insert id
        { row with
          lastFiredAt := some time
          lastStatus := some "success"
          consecutiveFailures := 0 } d) := by
  rw [DB.recordDelivery, found]
  rfl

theorem lookup_table_of_ne (e : Event) {other : String} (apart : other ≠ e.id) :
    (w.table e).lookup other = w.db.lookup other := by
  cases e with
  | insert id row =>
      rw [World.table, DB.insert]
      split
      · rfl
      · exact AList.lookup_insert_ne apart
  | update id now req =>
      rw [World.table, DB.update]
      split
      · rfl
      · exact AList.lookup_insert_ne apart
  | delete id =>
      rw [World.table, DB.delete]
      split
      · exact AList.lookup_erase_ne apart
      · rfl
  | recordDelivery id success time =>
      rw [World.table]
      cases found : w.db.lookup id with
      | none => rw [recordDelivery_of_missing found]
      | some row =>
          cases success with
          | true =>
              rw [recordDelivery_succeeded found]
              exact AList.lookup_insert_ne apart
          | false =>
              rw [recordDelivery_failed found]
              split
              · exact AList.lookup_insert_ne apart
              · exact AList.lookup_insert_ne apart

theorem sound_zero (row : EndpointRow) : Sound 0 row where
  counted := Nat.zero_le _
  short := fun _ => by decide
  fresh := fun _ => Or.inl rfl

theorem Sound.failed {streak : Nat} (sound : Sound streak row) {time : Int} {status : String}
    (enabled : Bool) (short : enabled = true → row.enabled = true ∧
      row.consecutiveFailures + 1 < autoDisableThreshold) :
    Sound (streak + 1)
      { DB.failed time row with enabled := enabled, lastStatus := some status } where
  counted := Nat.succ_le_succ sound.counted
  short := by
    intro on
    have reached := (short on).2
    have counted := sound.counted
    omega
  fresh := fun on => Or.inr (short on).2

theorem sound_insert (inv : Inv w)
    (found : (kept w.db (w.db.insert id row)).lookup id = some row') :
    Sound (if (w.db.lookup id).isSome then w.streak id else 0) row' := by
  rw [DB.insert] at found
  by_cases taken : (w.db.lookup id).isSome
  · rw [if_pos taken] at found ⊢
    exact inv id row' found
  · rw [if_neg taken] at found ⊢
    have new := Option.some.inj ((AList.lookup_insert _).symm.trans found)
    rw [← new]
    exact sound_zero _

theorem sound_update (inv : Inv w) {now : Int} {req : UpdateRequest}
    (found : (kept w.db (w.db.update id now req)).lookup id = some row') :
    Sound (if req.enabled ∧ w.db.enabled id = false then 0 else w.streak id) row' := by
  rw [DB.update] at found
  cases known : w.db.lookup id with
  | none =>
      rw [known] at found
      cases known.symm.trans found
  | some row =>
      rw [known] at found
      have new := Option.some.inj ((AList.lookup_insert _).symm.trans found)
      obtain ⟨counted, short, fresh⟩ := inv id row known
      rw [enabled_of_lookup known, ← new]
      split
      · exact sound_zero _
      · rename_i same
        have before : req.enabled = true → row.enabled = true := by
          intro on
          by_contra off
          exact same ⟨on, Bool.eq_false_iff.mpr off⟩
        exact ⟨counted, fun on => short (before on), fun on => fresh (before on)⟩

theorem sound_recordDelivery (inv : Inv w) {success : Bool} {time : Int}
    (found : (w.db.recordDelivery id success time).2.lookup id = some row') :
    Sound (if (w.db.lookup id).isNone then w.streak id
      else if success then 0 else w.streak id + 1) row' := by
  cases known : w.db.lookup id with
  | none =>
      rw [recordDelivery_of_missing known] at found
      cases known.symm.trans found
  | some row =>
      have sound := inv id row known
      cases success with
      | true =>
          exact sound_zero row'
      | false =>
          rw [recordDelivery_failed known] at found
          split at found
          · have new := Option.some.inj ((AList.lookup_insert _).symm.trans found)
            rw [← new]
            exact sound.failed false nofun
          · rename_i kept
            have new := Option.some.inj ((AList.lookup_insert _).symm.trans found)
            rw [← new]
            refine sound.failed row.enabled fun on => ⟨on, ?_⟩
            exact Nat.lt_of_not_le fun reached => kept ⟨on, reached⟩

theorem sound_table (inv : Inv w) (e : Event) (found : (w.table e).lookup e.id = some row') :
    Sound (w.streakOf e.id e) row' := by
  cases e with
  | insert id row => exact sound_insert inv found
  | update id now req => exact sound_update inv found
  | recordDelivery id success time => exact sound_recordDelivery inv found
  | delete id =>
      have erased : (kept w.db (w.db.delete id)).lookup id = some row' := found
      rw [DB.delete] at erased
      split at erased
      · cases (AList.lookup_erase _ _).symm.trans erased
      · exact inv id row' erased

theorem inv_go (inv : Inv w) (e : Event) : Inv (go w e) := by
  intro id row found
  by_cases here : id = e.id
  · subst here
    have streak : (go w e).streak e.id = w.streakOf e.id e := Function.update_self _ _ _
    rw [streak]
    exact sound_table inv e found
  · have streak : (go w e).streak id = w.streak id := Function.update_of_ne here _ _
    rw [streak]
    exact inv id row ((lookup_table_of_ne e here).symm.trans found)

theorem inv_start : Inv start := by
  intro id row found
  cases found

theorem reported_iff (found : d.lookup id = some row) (time : Int) :
    (d.recordDelivery id false time).1.1 = true ↔
      row.enabled = true ∧ autoDisableThreshold ≤ row.consecutiveFailures + 1 := by
  rw [recordDelivery_failed found]
  split
  · rename_i tips
    exact iff_of_true rfl tips
  · rename_i short
    exact iff_of_false Bool.false_ne_true short

/-- A failed delivery is reported to disable the endpoint exactly when it does. -/
theorem disables_iff (found : d.lookup id = some row) (time : Int) :
    (d.enabled id = true ∧ (d.recordDelivery id false time).2.enabled id = false) ↔
      row.enabled = true ∧ autoDisableThreshold ≤ row.consecutiveFailures + 1 := by
  rw [enabled_of_lookup found, recordDelivery_failed found]
  split
  · rename_i tips
    refine iff_of_true ⟨tips.1, ?_⟩ tips
    rw [enabled_of_lookup (AList.lookup_insert _)]
  · rename_i short
    refine iff_of_false (fun both => ?_) short
    rw [enabled_of_lookup (AList.lookup_insert _)] at both
    exact absurd (both.1.symm.trans both.2) nofun

theorem freshStreak_recordDelivery_iff (inv : Inv w) {success : Bool} {time : Int} :
    FreshStreak w (.recordDelivery id success time) ↔
      OwnFailures w (.recordDelivery id success time) := by
  rw [FreshStreak]
  cases known : w.db.lookup id with
  | none =>
      have off : w.db.enabled id = false := by rw [DB.enabled, known, Option.any_none]
      have never : ¬Tips w id success := fun tips => absurd (off.symm.trans tips.2.1) nofun
      rw [recordDelivery_of_missing known]
      refine iff_of_true ⟨iff_of_false Bool.false_ne_true never, ?_⟩ ?_
      · exact iff_of_false (fun both => absurd (off.symm.trans both.1) nofun) never
      · cases success with
        | true => trivial
        | false => exact fun on => absurd (off.symm.trans on) nofun
  | some row =>
      cases success with
      | true =>
          have never : ¬Tips w id true := fun tips => absurd tips.1 nofun
          refine iff_of_true ⟨?_, ?_⟩ trivial
          · rw [recordDelivery_succeeded known]
            exact iff_of_false Bool.false_ne_true never
          · rw [recordDelivery_succeeded known, enabled_of_lookup known,
              enabled_of_lookup (AList.lookup_insert _)]
            exact iff_of_false (fun both => absurd (both.1.symm.trans both.2) nofun) never
      | false =>
          obtain ⟨counted, short, fresh⟩ := inv id row known
          have tips : Tips w id false ↔
              row.enabled = true ∧ w.streak id + 1 = autoDisableThreshold := by
            rw [Tips, enabled_of_lookup known]
            exact and_iff_right rfl
          rw [reported_iff known, disables_iff known, tips, and_self, OwnFailures,
            enabled_of_lookup known, failures_of_lookup known]
          constructor
          · intro same on reached
            have streak := (same.mp ⟨on, reached⟩).2
            have bounds := fresh on
            have ten : autoDisableThreshold = 10 := rfl
            omega
          · intro own
            constructor
            · rintro ⟨on, reached⟩
              have equal := own on reached
              have bound := short on
              exact ⟨on, by omega⟩
            · rintro ⟨on, tipped⟩
              exact ⟨on, by omega⟩

theorem freshStreak_iff (inv : Inv w) (e : Event) : FreshStreak w e ↔ OwnFailures w e := by
  cases e with
  | recordDelivery id success time => exact freshStreak_recordDelivery_iff inv
  | insert id row => exact Iff.rfl
  | update id now req => exact Iff.rfl
  | delete id => exact Iff.rfl

/-- In a run every endpoint is disabled by the delivery that completes a streak of failures since
it was enabled, and by no other, iff no delivery that reaches the threshold counts failures from
before. -/
theorem disabled_for_fresh_streak_iff (es : List Event) :
    Along go FreshStreak start es ↔ Along go OwnFailures start es :=
  @along_congr_of_invariant World Event go FreshStreak OwnFailures Inv
    (fun _ e inv => inv_go inv e) (fun _ e inv => freshStreak_iff inv e) start inv_start es

def endpoint : EndpointRow where
  name := "chat"
  url := "https://example.com/h"
  events := []
  secretEncrypted := "secret"
  enabled := true
  createdAt := 0
  updatedAt := 0
  lastFiredAt := none
  lastStatus := none
  consecutiveFailures := 0

/-- An endpoint is disabled after ten failures and enabled again, and the next delivery fails. -/
def reEnabled : List Event :=
  Event.insert "ep-1" endpoint :: List.replicate 10 (Event.recordDelivery "ep-1" false 1) ++
    [Event.update "ep-1" 2 ⟨"chat", "https://example.com/h", [], true⟩]

/-- One failure after it was enabled again the endpoint is disabled, which is reported once more. -/
theorem disabled_again_at_once :
    (reEnabled.foldl go start).streak "ep-1" = 0 ∧
      (reEnabled.foldl go start).db.enabled "ep-1" = true ∧
      ((reEnabled.foldl go start).db.recordDelivery "ep-1" false 3).1 = (true, 11) ∧
      ¬Along go FreshStreak start (reEnabled ++ [Event.recordDelivery "ep-1" false 3]) := by
  decide +kernel

end Streaks

end Webhooks
