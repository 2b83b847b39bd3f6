import PCenter.Migrations

/-!
# What becomes of a migration that ends

Only the monitor writes the activity log, and it passes over every migration that its snapshot
does not show as running, so what it logs depends on who sees the end of a task first. A pass
works on a snapshot that is older than its writes, and each way for a move to end has to arrange
for its removal by itself.
-/

namespace Migrations

open Transition

section Finality

/-- A goroutine is about to arrange for the removal of the move that it has written. -/
def Monitor.Schedules (k : Kind) (upid : String) : Monitor → Prop
  | .logging k' m _ _ => k' = k ∧ m.upid = upid
  | .scheduling k' m _ => k' = k ∧ m.upid = upid
  | _ => False

def Poller.Schedules (k : Kind) (upid : String) : Poller → Prop
  | .scheduling m _ => k = .migration ∧ m.upid = upid
  | _ => False

def Scheduled (w : World) (k : Kind) (upid : String) : Prop :=
  (k, upid) ∈ w.removals ∨ w.monitor.Schedules k upid ∨ w.poller.Schedules k upid

/-- Every move that is not running is going to be removed. -/
def Settled (w : World) : Prop :=
  ∀ k upid st, w.store.status k upid = some st → st ≠ .running → Scheduled w k upid

/-- A migration that is completed or failed at some time is not running at any later time. -/
def NeverRestarts (es : List Event) : Prop :=
  ∀ before after, es = before ++ after → ∀ upid st,
    (before.foldl go start).store.status .migration upid = some st → st ≠ .running →
      ∀ t ∈ states go (before.foldl go start) after,
        t.store.status .migration upid ≠ some .running

/-- The monitor writes the progress of a migration only while that is running, or after it has
been removed. -/
def AdvancesRunning (w : World) : Event → Prop
  | .monitor _ =>
      match w.monitor with
      | .writing .migration m _ (.advance _) =>
          ∀ st ∈ w.store.status .migration m.upid, st = .running
      | _ => True
  | _ => True

/-- The monitor does not give up a move as not found unless its removal is arranged for. -/
def AbandonsScheduled (w : World) : Event → Prop
  | .monitor _ =>
      match w.monitor with
      | .writing k m _ .abandon => (w.store.status k m.upid).isSome → Scheduled w k m.upid
      | _ => True
  | _ => True

end Finality

section Removal

variable {w w' : World}

/-- What is scheduled stays so while the removals and the goroutines that arrange for one do. -/
theorem Scheduled.keep {k : Kind} {upid : String} (scheduled : Scheduled w k upid)
    (removals : (k, upid) ∈ w.removals → (k, upid) ∈ w'.removals)
    (monitor : w.monitor.Schedules k upid → Scheduled w' k upid)
    (poller : w.poller.Schedules k upid → Scheduled w' k upid) : Scheduled w' k upid := by
  rcases scheduled with waiting | now | now
  · exact Or.inl (removals waiting)
  · exact monitor now
  · exact poller now

theorem Settled.keep (settled : Settled w)
    (status : ∀ k upid st, w'.store.status k upid = some st → st ≠ .running →
      w.store.status k upid = some st ∨ Scheduled w' k upid)
    (scheduled : ∀ k upid, Scheduled w k upid → (w'.store.status k upid).isSome →
      Scheduled w' k upid) : Settled w' := by
  intro k upid st found ended
  rcases status k upid st found ended with before | now
  · exact scheduled k upid (settled k upid st before ended) (Option.isSome_of_eq_some found)
  · exact now

theorem Settled.of_monitor (settled : Settled w) (monitor : Monitor)
    (kept : ∀ k upid, w.monitor.Schedules k upid → monitor.Schedules k upid) :
    Settled { w with monitor := monitor } := by
  refine settled.keep (fun _ _ _ found _ => Or.inl found) fun k upid scheduled _ => ?_
  exact scheduled.keep id (fun now => Or.inr (Or.inl (kept k upid now))) fun now =>
    Or.inr (Or.inr now)

theorem Settled.of_poller (settled : Settled w) (poller : Poller)
    (kept : ∀ k upid, w.poller.Schedules k upid → poller.Schedules k upid) :
    Settled { w with poller := poller } := by
  refine settled.keep (fun _ _ _ found _ => Or.inl found) fun k upid scheduled _ => ?_
  exact scheduled.keep id (fun now => Or.inr (Or.inl now)) fun now =>
    Or.inr (Or.inr (kept k upid now))

theorem status_of_written {k k' : Kind} {upid upid' : String} {v : Write} {st : Status}
    (found : (write w.store k upid v).status k' upid' = some st) :
    w.store.status k' upid' = some st ∨ k' = k ∧ upid' = upid ∧ st = v.status ∧
      (w.store.status k upid).isSome := by
  rw [status_write] at found
  split at found
  · rename_i same
    obtain ⟨st', before, rfl⟩ := Option.map_eq_some_iff.mp found
    exact Or.inr ⟨same.1, same.2, rfl, Option.isSome_of_eq_some before⟩
  · exact Or.inl found

theorem settled_iff_of_writes (settled : Settled w) {k : Kind} {m : Move} {todo : List Move}
    {v : Write} (phase : w.monitor = .writing k m todo v) :
    Settled { w with store := write w.store k m.upid v, monitor := written k m todo v } ↔
      (v = .abandon → (w.store.status k m.upid).isSome → Scheduled w k m.upid) := by
  have nothing : ∀ k' upid, ¬w.monitor.Schedules k' upid := by
    intro k' upid now
    rw [phase] at now
    exact now
  constructor
  · rintro after rfl stored
    obtain ⟨st, found⟩ := Option.isSome_iff_exists.mp stored
    have failed : (write w.store k m.upid .abandon).status k m.upid = some .failed := by
      rw [status_write, if_pos ⟨rfl, rfl⟩, found]
      rfl
    refine (after k m.upid .failed failed nofun).keep id (fun now => ?_) fun now =>
      Or.inr (Or.inr now)
    cases now
  · intro arranged
    refine settled.keep (fun k' upid st found ended => ?_) fun k' upid scheduled _ => ?_
    · rcases status_of_written found with before | ⟨rfl, rfl, rfl, stored⟩
      · exact Or.inl before
      · cases v with
        | advance progress => exact absurd rfl ended
        | abandon =>
            refine Or.inr ((arranged rfl stored).keep id (fun now => ?_) fun now =>
              Or.inr (Or.inr now))
            exact absurd now (nothing k' m.upid)
        | finish outcome => exact Or.inr (Or.inr (Or.inl ⟨rfl, rfl⟩))
    · exact scheduled.keep id (fun now => absurd now (nothing k' upid)) fun now =>
        Or.inr (Or.inr now)

theorem Settled.monitor_step (settled : Settled w) {o : Outside} (step : MonitorStep o w w')
    (arranged : ∀ k m todo, w.monitor = .writing k m todo .abandon →
      (w.store.status k m.upid).isSome → Scheduled w k m.upid) : Settled w' := by
  cases step with
  | begins phase => exact settled.of_monitor _ fun _ _ now => by rw [phase] at now; cases now
  | turns phase => exact settled.of_monitor _ fun _ _ now => by rw [phase] at now; cases now
  | ends phase => exact settled.of_monitor _ fun _ _ now => by rw [phase] at now; cases now
  | passes k m todo phase missed =>
      exact settled.of_monitor _ fun _ _ now => by rw [phase] at now; cases now
  | finds k m todo v phase decided =>
      exact settled.of_monitor _ fun _ _ now => by rw [phase] at now; cases now
  | writes k m todo v phase =>
      refine (settled_iff_of_writes settled phase).mpr fun given => ?_
      exact arranged k m todo (given ▸ phase)
  | logs k m todo outcome phase =>
      exact settled.of_monitor (.scheduling k m todo) fun _ _ now => by rw [phase] at now; exact now
  | schedules k m todo phase =>
      refine settled.keep (fun _ _ _ found _ => Or.inl found) fun k' upid scheduled _ => ?_
      refine scheduled.keep (List.mem_append_left _) (fun now => ?_) fun now =>
        Or.inr (Or.inr now)
      rw [phase] at now
      obtain ⟨rfl, rfl⟩ : k = k' ∧ m.upid = upid := now
      exact Or.inl (List.mem_append_right _ (List.mem_singleton_self _))

theorem Settled.poller_step (settled : Settled w) {o : Outside} (step : PollerStep o w w') :
    Settled w' := by
  cases step with
  | begins phase => exact settled.of_poller _ fun _ _ now => by rw [phase] at now; cases now
  | ends phase => exact settled.of_poller _ fun _ _ now => by rw [phase] at now; cases now
  | passes m todo phase missed =>
      exact settled.of_poller _ fun _ _ now => by rw [phase] at now; cases now
  | finds m todo outcome phase decided =>
      exact settled.of_poller _ fun _ _ now => by rw [phase] at now; cases now
  | writes m todo outcome phase =>
      refine settled.keep (fun k upid st found ended => ?_) fun k upid scheduled _ => ?_
      · have after : (writeStatus w.store m outcome).status k upid = some st := found
        rw [status_writeStatus] at after
        split at after
        · rename_i same
          exact Or.inr (Or.inr (Or.inr ⟨same.1, same.2.symm⟩))
        · exact Or.inl after
      · refine scheduled.keep id (fun now => Or.inr (Or.inl now)) fun now => ?_
        rw [phase] at now
        cases now
  | schedules m todo phase =>
      refine settled.keep (fun _ _ _ found _ => Or.inl found) fun k upid scheduled _ => ?_
      refine scheduled.keep (List.mem_append_left _) (fun now => Or.inr (Or.inl now)) fun now => ?_
      rw [phase] at now
      obtain ⟨rfl, rfl⟩ : k = .migration ∧ m.upid = upid := now
      exact Or.inl (List.mem_append_right _ (List.mem_singleton_self _))

theorem Settled.track (settled : Settled w) (k : Kind) (m : Move) :
    Settled (Migrations.track w k m) := by
  rw [Migrations.track]
  split
  · exact settled
  · refine settled.keep (fun k' upid st found ended => ?_) fun k' upid scheduled _ => ?_
    · have after := found
      rw [Store.status_add] at after
      split at after
      · exact absurd (Option.some.inj after).symm ended
      · exact Or.inl after
    · exact scheduled.keep id (fun now => Or.inr (Or.inl now)) fun now => Or.inr (Or.inr now)

theorem Settled.remove (settled : Settled w) (k : Kind) (upid : String) :
    Settled (Migrations.remove w k upid) := by
  rw [Migrations.remove]
  split
  · refine settled.keep (fun k' upid' st found _ => ?_) fun k' upid' scheduled stored => ?_
    · have after := found
      rw [Store.status_remove] at after
      split at after
      · cases after
      · exact Or.inl after
    · have other : (k', upid') ≠ (k, upid) := by
        rintro same
        obtain ⟨rfl, rfl⟩ := Prod.mk.inj same
        rw [Store.status_remove, if_pos ⟨rfl, rfl⟩] at stored
        cases stored
      refine scheduled.keep (fun waiting => ?_) (fun now => Or.inr (Or.inl now)) fun now =>
        Or.inr (Or.inr now)
      exact (List.mem_erase_of_ne other).mpr waiting
  · exact settled

theorem abandonsScheduled_iff {o : Outside} :
    AbandonsScheduled w (.monitor o) ↔ ∀ k m todo, w.monitor = .writing k m todo .abandon →
      (w.store.status k m.upid).isSome → Scheduled w k m.upid := by
  rw [AbandonsScheduled]
  split
  · rename_i k m todo phase
    constructor
    · intro arranged k' m' todo' phase'
      cases phase.symm.trans phase'
      exact arranged
    · exact fun all => all k m todo phase
  · rename_i other
    exact iff_of_true trivial fun k m todo phase => absurd phase (other k m todo)

theorem settled_go_iff (settled : Settled w) (e : Event) :
    Settled (go w e) ↔ AbandonsScheduled w e := by
  cases e with
  | track k m => exact iff_of_true (settled.track k m) trivial
  | poller o => exact iff_of_true (settled.poller_step (pollerStep_spec o w)) trivial
  | remove k upid => exact iff_of_true (settled.remove k upid) trivial
  | monitor o =>
      rw [abandonsScheduled_iff]
      constructor
      · intro after k m todo phase
        have step : go w (.monitor o) = { w with
            store := write w.store k m.upid .abandon, monitor := .checking k todo } := by
          rw [go, monitorStep, phase]
          rfl
        rw [step] at after
        exact (settled_iff_of_writes settled phase).mp after rfl
      · exact settled.monitor_step (monitorStep_spec o w)

end Removal

section Restarts

variable {w : World}

/-- Whatever the store holds has been tracked. -/
def Known (w : World) : Prop :=
  ∀ k upid, (w.store.status k upid).isSome → (k, upid) ∈ w.tracked

theorem known_go (known : Known w) (e : Event) : Known (go w e) := by
  cases e with
  | track k m =>
      rw [go, track]
      split
      · exact known
      · intro k' upid stored
        have after : ((w.store.add k _).status k' upid).isSome = true := stored
        rw [Store.status_add] at after
        split at after
        · rename_i same
          rw [same.1, same.2]
          exact List.mem_append_right _ (List.mem_singleton_self _)
        · exact List.mem_append_left _ (known k' upid after)
  | monitor o =>
      rw [go]
      have step := monitorStep_spec o w
      generalize monitorStep o w = w' at step ⊢
      cases step with
      | writes k m todo v phase =>
          intro k' upid stored
          obtain ⟨st, found⟩ := Option.isSome_iff_exists.mp stored
          rcases status_of_written found with before | ⟨rfl, rfl, -, before⟩
          · exact known k' upid (Option.isSome_of_eq_some before)
          · exact known k' m.upid before
      | _ => exact known
  | poller o =>
      rw [go]
      have step := pollerStep_spec o w
      generalize pollerStep o w = w' at step ⊢
      cases step with
      | writes m todo outcome phase =>
          intro k upid stored
          have after : ((writeStatus w.store m outcome).status k upid).isSome = true := stored
          rw [status_writeStatus] at after
          split at after
          · rename_i same
            rw [same.1, same.2]
            rw [Option.isSome_map] at after
            exact known _ _ after
          · exact known k upid after
      | _ => exact known
  | remove k upid =>
      rw [go, remove]
      split
      · intro k' upid' stored
        have after : ((w.store.remove k upid).status k' upid').isSome = true := stored
        rw [Store.status_remove] at after
        split at after
        · cases after
        · exact known k' upid' after
      · exact known

theorem known_start : Known start := by
  intro k upid stored
  cases k <;> cases stored

/-- The migration was tracked, and it is not running. -/
def Over (w : World) (upid : String) : Prop :=
  (.migration, upid) ∈ w.tracked ∧ w.store.status .migration upid ≠ some .running

theorem advancesRunning_iff {o : Outside} :
    AdvancesRunning w (.monitor o) ↔ ∀ m todo progress,
      w.monitor = .writing .migration m todo (.advance progress) →
        ∀ st ∈ w.store.status .migration m.upid, st = .running := by
  rw [AdvancesRunning]
  split
  · rename_i m todo progress phase
    constructor
    · intro running m' todo' progress' phase'
      cases phase.symm.trans phase'
      exact running
    · exact fun all => all m todo progress phase
  · rename_i other
    exact iff_of_true trivial fun m todo progress phase => absurd phase (other m todo progress)

theorem over_go {e : Event} (advances : AdvancesRunning w e) {upid : String}
    (past : Over w upid) : Over (go w e) upid := by
  obtain ⟨tracked, ended⟩ := past
  cases e with
  | track k m =>
      rw [go, track]
      split
      · exact ⟨tracked, ended⟩
      · rename_i fresh
        refine ⟨List.mem_append_left _ tracked, ?_⟩
        rw [Store.status_add]
        split
        · rename_i same
          rw [← same.1, ← same.2] at fresh
          exact absurd tracked fresh
        · exact ended
  | monitor o =>
      rw [advancesRunning_iff] at advances
      rw [go]
      have step := monitorStep_spec o w
      generalize monitorStep o w = w' at step ⊢
      cases step with
      | writes k m todo v phase =>
          refine ⟨tracked, fun runs => ?_⟩
          rcases status_of_written runs with before | ⟨rfl, rfl, running, stored⟩
          · exact ended before
          · cases v with
            | advance progress =>
                obtain ⟨st, found⟩ := Option.isSome_iff_exists.mp stored
                rw [advances m todo progress phase st found] at found
                exact ended found
            | abandon => cases running
            | finish outcome => exact outcome.status_ne_running running.symm
      | _ => exact ⟨tracked, ended⟩
  | poller o =>
      rw [go]
      have step := pollerStep_spec o w
      generalize pollerStep o w = w' at step ⊢
      cases step with
      | writes m todo outcome phase =>
          refine ⟨tracked, ?_⟩
          rw [status_writeStatus]
          split
          · intro runs
            obtain ⟨-, -, running⟩ := Option.map_eq_some_iff.mp runs
            exact outcome.status_ne_running running
          · exact ended
      | _ => exact ⟨tracked, ended⟩
  | remove k upid' =>
      rw [go, remove]
      split
      · refine ⟨tracked, ?_⟩
        rw [Store.status_remove]
        split
        · exact nofun
        · exact ended
      · exact ⟨tracked, ended⟩

theorem running_of_advance {m : Move} {todo : List Move} {progress : Int} {o : Outside}
    (phase : w.monitor = .writing .migration m todo (.advance progress))
    (stored : (w.store.status .migration m.upid).isSome) :
    (go w (.monitor o)).store.status .migration m.upid = some .running := by
  rw [go, monitorStep, phase]
  obtain ⟨st, found⟩ := Option.isSome_iff_exists.mp stored
  rw [status_write, if_pos ⟨rfl, rfl⟩, found]
  rfl

theorem neverRestarts_iff (es : List Event) :
    NeverRestarts es ↔ Along go AdvancesRunning start es := by
  constructor
  · intro never
    rw [along_iff_forall_split]
    rintro before e after rfl
    cases e with
    | monitor o =>
        rw [advancesRunning_iff]
        intro m todo progress phase st found
        by_contra ended
        refine never before (.monitor o :: after) rfl m.upid st found ended
          (go (before.foldl go start) (.monitor o)) ?_
          (running_of_advance phase (Option.isSome_of_eq_some found))
        exact List.mem_cons_of_mem _ (self_mem_states _ _)
    | _ => trivial
  · rintro advances before after rfl upid st found ended
    obtain ⟨-, later⟩ := (along_append start before after).mp advances
    have all : ∀ t ∈ states go start before, Known t :=
      invariant_states (fun _ e known => known_go known e) known_start
    have known := all _ (last_mem_states start before)
    have past : Over (before.foldl go start) upid := by
      refine ⟨known _ _ (Option.isSome_of_eq_some found), ?_⟩
      rw [found]
      exact fun running => ended (Option.some.inj running)
    have lasting : ∀ t ∈ states go (before.foldl go start) after, Over t upid := by
      refine @invariant_along World Event go AdvancesRunning (Over · upid) ?_ _ _ past later
      exact fun _ _ past advances => over_go advances past
    exact fun t member => (lasting t member).2

/-- A pass of the monitor writes no progress over the end of a migration, and gives up no move
whose removal is not arranged for. -/
def Final (w : World) (e : Event) : Prop := AdvancesRunning w e ∧ AbandonsScheduled w e

theorem settled_start : Settled start := by
  intro k upid st found
  cases k <;> cases found

/-- In a run the end of a migration is final and whatever has ended is going to be removed, iff
no write of the monitor brings a migration back or leaves a move behind as not found. -/
theorem terminal_status_final_iff (es : List Event) :
    (NeverRestarts es ∧ ∀ w ∈ states go start es, Settled w) ↔ Along go Final start es := by
  have settled : (∀ w ∈ states go start es, Settled w) ↔ Along go AbandonsScheduled start es :=
    invariant_iff_along (fun _ e _ settled => settled_go_iff settled e) settled_start
  rw [neverRestarts_iff, settled]
  exact along_and.symm

/-- A migration of a VM between two nodes. -/
def liveMigration : Move where
  upid := "UPID:pve1:000A:000B:000C:qmigrate:100:root@pam:"
  cluster := "lab"
  vmid := 100
  guestName := "web"
  guestType := "vm"
  about := .migration "pve1" "pve2" true
  startedAt := 0
  progress := 0
  status := .running
  error := ""

/-- The answer to a query, some time after the start. -/
def answered (now : Int) (task : Option Task) : Outside :=
  ⟨now, [], true, task, some ["starting migration of VM 100"], ""⟩

def underWay : Outside := answered 1 (some ⟨"running", ""⟩)

def succeeded : Outside := answered 2 (some ⟨"stopped", "OK"⟩)

def notFound : Outside := answered (11 * minute) none

/-- The monitor hears that the task runs, and then the poller hears of its end and writes it. -/
def endsMeanwhile : List Event :=
  [.track .migration liveMigration, .monitor underWay, .monitor underWay,
    .poller succeeded, .poller succeeded, .poller succeeded]

/-- The monitor cannot find the task for more than ten minutes. -/
def lostTask : List Event :=
  [.track .migration liveMigration, .monitor notFound, .monitor notFound, .monitor notFound]

/-- The monitor writes the progress that it heard of over the end, and it leaves a migration as
failed that nobody removes. -/
theorem terminal_status_overwritten :
    ¬NeverRestarts (endsMeanwhile ++ [Event.monitor underWay]) ∧
      ¬∀ w ∈ states go start lostTask, Settled w := by
  constructor
  · intro never
    have both : (endsMeanwhile.foldl go start).store.status .migration liveMigration.upid =
          some .completed ∧
        ((endsMeanwhile ++ [Event.monitor underWay]).foldl go start).store.status .migration
          liveMigration.upid = some .running := by decide +kernel
    have later := never endsMeanwhile [.monitor underWay] rfl
    rw [List.foldl_append] at both
    generalize endsMeanwhile.foldl go start = w at both later
    exact later _ _ both.1 nofun _ (last_mem_states w [Event.monitor underWay]) both.2
  · intro all
    have settled := all _ (last_mem_states start lostTask)
    have lost : (lostTask.foldl go start).store.status .migration liveMigration.upid =
          some .failed ∧ (lostTask.foldl go start).removals = [] ∧
        (lostTask.foldl go start).monitor = .checking .migration [] ∧
          (lostTask.foldl go start).poller = .waiting := by decide +kernel
    generalize lostTask.foldl go start = w at settled lost
    obtain ⟨failed, nobody, checking, waiting⟩ := lost
    rcases settled _ _ _ failed nofun with listed | now | now
    · rw [nobody] at listed
      cases listed
    · rw [checking] at now
      cases now
    · rw [waiting] at now
      cases now

end Restarts

section Audit

/-- The migrations of a snapshot that the monitor is going to ask for. -/
def unasked (todo : List Move) : List String :=
  (todo.filter (·.status = .running)).map (·.upid)

/-- The migrations that the pass under way may still write about. -/
def Monitor.ahead : Monitor → List String
  | .checking .migration todo => unasked todo
  | .writing .migration m todo _ => m.upid :: unasked todo
  | .logging .migration m todo _ => m.upid :: unasked todo
  | .scheduling .migration _ todo => unasked todo
  | _ => []

/-- After the write the migration has an entry to come, or is running. -/
def Write.lasts (s : Store) (upid : String) : Write → Bool
  | .advance _ => (s.status .migration upid).isSome
  | .abandon => false
  | .finish _ => true

/-- The migrations that the pass under way is still to log, or to leave running. -/
def Monitor.awaits (s : Store) : Monitor → List String
  | .writing .migration m todo v =>
      if v.lasts s m.upid then m.upid :: unasked todo else unasked todo
  | phase => phase.ahead

def entries (w : World) (upid : String) : Nat :=
  w.activity.countP fun logged => logged.1 = (.migration, upid)

/-- The migration has its entry, or the monitor is still to see its end. -/
def Covered (w : World) (upid : String) : Prop :=
  entries w upid = 1 ∨ w.store.status .migration upid = some .running ∨
    upid ∈ w.monitor.awaits w.store

/-- Every migration that was tracked has exactly one entry in the activity log, unless it is
running or the pass of the monitor under way is still to come to it. -/
def Audited (w : World) : Prop :=
  ∀ upid, (.migration, upid) ∈ w.tracked → entries w upid ≤ 1 ∧ Covered w upid

/-- How the monitor may go on with a migration that it asked for. -/
def Noted (s : Store) (upid : String) : Option Write → Prop
  | some (.finish _) => True
  | some (.advance _) => (s.status .migration upid).isSome
  | _ => s.status .migration upid = some .running

/-- The end of a migration does not get past the monitor: what a pass leaves behind without an
entry is stored as running, nothing is given up as not found, and the poller ends, and a
removal takes away, only what is logged or what the pass under way is still to come to. -/
def Noticed (w : World) : Event → Prop
  | .track _ _ => True
  | .monitor o =>
      match w.monitor with
      | .checking .migration (m :: _) =>
          m.status = .running → Noted w.store m.upid (check o checkMigrations m)
      | .writing .migration _ _ .abandon => False
      | _ => True
  | .poller _ =>
      match w.poller with
      | .writing m _ _ => w.store.status .migration m.upid = some .running →
          m.upid ∈ w.monitor.awaits w.store
      | _ => True
  | .remove k upid => k = .migration → (k, upid) ∈ w.removals →
      (w.store.status k upid).isSome → entries w upid = 1 ∨
        upid ∈ w.monitor.awaits (w.store.remove k upid)

/-- What holds of the monitor in any run. -/
structure Inv (w : World) : Prop where
  keyed : w.store.Keyed
  known : Known w
  distinct : w.monitor.ahead.Nodup
  tracked : ∀ upid ∈ w.monitor.ahead, (.migration, upid) ∈ w.tracked
  logged : ∀ upid, entries w upid ≠ 0 → (.migration, upid) ∈ w.tracked ∧
    w.store.status .migration upid ≠ some .running ∧ upid ∉ w.monitor.ahead
  ended : ∀ m todo outcome, w.monitor = .logging .migration m todo outcome →
    w.store.status .migration m.upid ≠ some .running
  once : ∀ upid, entries w upid ≤ 1

variable {w w' : World}

theorem unasked_cons (m : Move) (todo : List Move) :
    unasked (m :: todo) =
      if m.status = .running then m.upid :: unasked todo else unasked todo := by
  rw [unasked, List.filter_cons]
  split
  · rename_i running
    rw [if_pos (of_decide_eq_true running), List.map_cons, unasked]
  · rename_i other
    rw [if_neg fun running => other (decide_eq_true running), unasked]

theorem unasked_sublist_cons (m : Move) (todo : List Move) :
    (unasked todo).Sublist (unasked (m :: todo)) :=
  ((List.sublist_cons_self m todo).filter _).map _

theorem nodup_unasked {todo : List Move} (distinct : (todo.map (·.upid)).Nodup) :
    (unasked todo).Nodup :=
  distinct.sublist (List.filter_sublist.map _)

theorem running_of_unasked {o : Outside} {s : Store} (keyed : s.Keyed) {upid : String}
    (member : upid ∈ unasked (snapshot o s .migration)) :
    s.status .migration upid = some .running := by
  obtain ⟨m, listed, rfl⟩ := List.mem_map.mp member
  obtain ⟨inside, running⟩ := List.mem_filter.mp listed
  rw [status_of_mem_snapshot keyed inside, of_decide_eq_true running]

theorem ahead_written (k : Kind) (m : Move) (todo : List Move) (v : Write) :
    (written k m todo v).ahead.Sublist (Monitor.writing k m todo v).ahead := by
  cases k with
  | diskMove => cases v <;> exact List.Sublist.refl _
  | migration =>
      cases v with
      | finish outcome => exact List.Sublist.refl _
      | advance progress => exact List.sublist_cons_self _ _
      | abandon => exact List.sublist_cons_self _ _

theorem entries_append {logged : (Kind × String) × Entry} {activity : List ((Kind × String) × Entry)}
    (upid : String) :
    (activity ++ [logged]).countP (fun logged => logged.1 = (.migration, upid)) =
      activity.countP (fun logged => logged.1 = (.migration, upid)) +
        if logged.1 = (.migration, upid) then 1 else 0 := by
  rw [List.countP_append, List.countP_singleton]
  simp only [decide_eq_true_eq]

theorem Inv.unlogged (inv : Inv w) {upid : String} (member : upid ∈ w.monitor.ahead) :
    entries w upid = 0 := by
  by_contra logged
  exact (inv.logged upid logged).2.2 member

theorem Inv.unlogged_of_running (inv : Inv w) {upid : String}
    (running : w.store.status .migration upid = some .running) : entries w upid = 0 := by
  by_contra logged
  exact (inv.logged upid logged).2.1 running

theorem Inv.of_monitor (inv : Inv w) {monitor : Monitor}
    (ahead : monitor.ahead.Sublist w.monitor.ahead)
    (quiet : ∀ m todo outcome, monitor ≠ .logging .migration m todo outcome) :
    Inv { w with monitor := monitor } where
  keyed := inv.keyed
  known := inv.known
  distinct := inv.distinct.sublist ahead
  tracked := fun upid member => inv.tracked upid (ahead.subset member)
  logged := fun upid logged =>
    have ⟨tracked, ended, missing⟩ := inv.logged upid logged
    ⟨tracked, ended, fun member => missing (ahead.subset member)⟩
  ended := fun m todo outcome phase => absurd phase (quiet m todo outcome)
  once := inv.once

theorem Inv.of_store (inv : Inv w) {s : Store} (keyed : s.Keyed)
    (stored : ∀ k upid, (s.status k upid).isSome → (w.store.status k upid).isSome)
    (running : ∀ upid, s.status .migration upid = some .running →
      w.store.status .migration upid = some .running) : Inv { w with store := s } where
  keyed := keyed
  known := fun k upid held => inv.known k upid (stored k upid held)
  distinct := inv.distinct
  tracked := inv.tracked
  logged := fun upid logged =>
    have ⟨tracked, ended, missing⟩ := inv.logged upid logged
    ⟨tracked, fun now => ended (running upid now), missing⟩
  ended := fun m todo outcome phase now => inv.ended m todo outcome phase (running m.upid now)
  once := inv.once

theorem Inv.begins (inv : Inv w) (o : Outside) :
    Inv { w with monitor := .checking .migration (snapshot o w.store .migration) } where
  keyed := inv.keyed
  known := inv.known
  distinct := nodup_unasked (nodup_snapshot inv.keyed)
  tracked := fun upid member =>
    inv.known .migration upid (Option.isSome_of_eq_some (running_of_unasked inv.keyed member))
  logged := fun upid logged =>
    have ⟨tracked, ended, _⟩ := inv.logged upid logged
    ⟨tracked, ended, fun member => ended (running_of_unasked inv.keyed member)⟩
  ended := fun m todo outcome phase => by cases phase
  once := inv.once

theorem Inv.writes (inv : Inv w) {k : Kind} {m : Move} {todo : List Move} {v : Write}
    (phase : w.monitor = .writing k m todo v) :
    Inv { w with store := write w.store k m.upid v, monitor := written k m todo v } where
  keyed := keyed_write inv.keyed v
  known := by
    intro k' upid stored
    obtain ⟨st, found⟩ := Option.isSome_iff_exists.mp stored
    rcases status_of_written found with before | ⟨rfl, rfl, -, before⟩
    · exact inv.known k' upid (Option.isSome_of_eq_some before)
    · exact inv.known k' m.upid before
  distinct := (phase ▸ inv.distinct).sublist (ahead_written k m todo v)
  tracked := fun upid member =>
    inv.tracked upid (phase ▸ (ahead_written k m todo v).subset member)
  logged := by
    intro upid logged
    obtain ⟨tracked, ended, missing⟩ := inv.logged upid logged
    rw [phase] at missing
    refine ⟨tracked, fun now => ?_, fun member =>
      missing ((ahead_written k m todo v).subset member)⟩
    rcases status_of_written now with before | ⟨rfl, rfl, -, -⟩
    · exact ended before
    · exact missing List.mem_cons_self
  ended := by
    intro m' todo' outcome later now
    cases v with
    | finish outcome' =>
        cases later
        have after : (write w.store .migration m.upid (.finish outcome)).status .migration m.upid =
            some .running := now
        rw [status_write, if_pos ⟨rfl, rfl⟩] at after
        obtain ⟨-, -, running⟩ := Option.map_eq_some_iff.mp after
        exact outcome.status_ne_running running
    | advance progress => cases later
    | abandon => cases later
  once := inv.once

theorem Inv.logs (inv : Inv w) {k : Kind} {m : Move} {todo : List Move} {outcome : Outcome}
    (phase : w.monitor = .logging k m todo outcome) (logged : Entry) :
    Inv { w with
      activity := w.activity ++ [((k, m.upid), logged)], monitor := .scheduling k m todo } := by
  have ahead : (Monitor.scheduling k m todo).ahead.Sublist w.monitor.ahead := by
    rw [phase]
    cases k with
    | diskMove => exact List.Sublist.refl _
    | migration => exact List.sublist_cons_self _ _
  have own : k = .migration → m.upid ∈ w.monitor.ahead ∧ m.upid ∉ unasked todo ∧
      w.store.status .migration m.upid ≠ some .running := by
    rintro rfl
    have distinct := inv.distinct
    have ended := inv.ended m todo outcome phase
    rw [phase] at distinct ⊢
    exact ⟨List.mem_cons_self, (List.nodup_cons.mp distinct).1, ended⟩
  refine ⟨inv.keyed, inv.known, inv.distinct.sublist ahead,
    fun upid member => inv.tracked upid (ahead.subset member), ?_,
    (fun _ _ _ later => by cases later), ?_⟩
  · intro upid some
    rw [entries, entries_append] at some
    by_cases here : (k, m.upid) = (.migration, upid)
    · obtain ⟨rfl, rfl⟩ := Prod.mk.inj here
      obtain ⟨member, missing, ended⟩ := own rfl
      exact ⟨inv.tracked _ member, ended, missing⟩
    · rw [if_neg here] at some
      obtain ⟨tracked, ended, missing⟩ := inv.logged upid some
      exact ⟨tracked, ended, fun member => missing (ahead.subset member)⟩
  · intro upid
    rw [entries, entries_append]
    by_cases here : (k, m.upid) = (.migration, upid)
    · obtain ⟨rfl, rfl⟩ := Prod.mk.inj here
      have none := inv.unlogged (own rfl).1
      rw [entries] at none
      rw [none, if_pos here]
    · rw [if_neg here]
      exact inv.once upid

theorem Inv.monitor_step (inv : Inv w) {o : Outside} (step : MonitorStep o w w') : Inv w' := by
  cases step with
  | begins phase => exact inv.begins o
  | turns phase =>
      refine inv.of_monitor ?_ fun _ _ _ later => by cases later
      exact List.nil_sublist _
  | ends phase =>
      refine inv.of_monitor ?_ fun _ _ _ later => by cases later
      exact List.nil_sublist _
  | passes k m todo phase missed =>
      refine inv.of_monitor ?_ fun _ _ _ later => by cases later
      rw [phase]
      cases k with
      | diskMove => exact List.Sublist.refl _
      | migration => exact unasked_sublist_cons m todo
  | finds k m todo v phase decided =>
      refine inv.of_monitor ?_ fun _ _ _ later => by cases later
      rw [phase]
      cases k with
      | diskMove => exact List.Sublist.refl _
      | migration =>
          have running := running_of_check decided
          have same : unasked (m :: todo) = m.upid :: unasked todo := by
            rw [unasked_cons, if_pos running]
          have ahead : (Monitor.checking .migration (m :: todo)).ahead = m.upid :: unasked todo :=
            same
          rw [ahead]
          exact List.Sublist.refl _
  | writes k m todo v phase => exact inv.writes phase
  | logs k m todo outcome phase => exact inv.logs phase _
  | schedules k m todo phase =>
      have later := @Inv.of_monitor w inv (.checking k todo) (by
        rw [phase]
        cases k <;> exact List.Sublist.refl _) fun _ _ _ later => by cases later
      exact ⟨later.keyed, later.known, later.distinct, later.tracked, later.logged, later.ended,
        later.once⟩

theorem Inv.poller_step (inv : Inv w) {o : Outside} (step : PollerStep o w w') : Inv w' := by
  have same : ∀ poller removals, Inv { w with poller := poller, removals := removals } :=
    fun _ _ => ⟨inv.keyed, inv.known, inv.distinct, inv.tracked, inv.logged, inv.ended, inv.once⟩
  cases step with
  | begins phase => exact same _ _
  | ends phase => exact same _ _
  | passes m todo phase missed => exact same _ _
  | finds m todo outcome phase decided => exact same _ _
  | schedules m todo phase => exact same _ _
  | writes m todo outcome phase =>
      refine (same (.scheduling m todo) w.removals).of_store
        (keyed_writeStatus inv.keyed m outcome) ?_ ?_
      · intro k upid stored
        rw [status_writeStatus] at stored
        split at stored
        · rename_i key
          rw [key.1, key.2]
          exact (Option.isSome_map.symm.trans stored)
        · exact stored
      · intro upid running
        rw [status_writeStatus] at running
        split at running
        · obtain ⟨-, -, ended⟩ := Option.map_eq_some_iff.mp running
          exact absurd ended outcome.status_ne_running
        · exact running

theorem Inv.remove (inv : Inv w) (k : Kind) (upid : String) :
    Inv (Migrations.remove w k upid) := by
  rw [Migrations.remove]
  split
  · have kept : ∀ k' upid' st, (w.store.remove k upid).status k' upid' = some st →
        w.store.status k' upid' = some st := by
      intro k' upid' st found
      rw [Store.status_remove] at found
      split at found
      · cases found
      · exact found
    have later := inv.of_store (inv.keyed.remove upid) (fun k' upid' stored => by
        obtain ⟨st, found⟩ := Option.isSome_iff_exists.mp stored
        exact Option.isSome_of_eq_some (kept k' upid' st found))
      (fun upid' running => kept .migration upid' .running running)
    exact ⟨later.keyed, later.known, later.distinct, later.tracked, later.logged, later.ended,
      later.once⟩
  · exact inv

theorem Inv.track (inv : Inv w) (k : Kind) (m : Move) : Inv (Migrations.track w k m) := by
  rw [Migrations.track]
  split
  · exact inv
  · rename_i fresh
    have others : ∀ upid, (.migration, upid) ∈ w.tracked →
        (w.store.add k { m with progress := 0, status := .running, error := "" }).status .migration
          upid = w.store.status .migration upid := by
      intro upid tracked
      rw [Store.status_add, if_neg]
      rintro ⟨rfl, rfl⟩
      exact fresh tracked
    refine ⟨inv.keyed.add _, ?_, inv.distinct,
      fun upid member => List.mem_append_left _ (inv.tracked upid member), ?_, ?_, inv.once⟩
    · have known := known_go inv.known (.track k m)
      rw [go, Migrations.track, if_neg fresh] at known
      exact known
    · intro upid logged
      obtain ⟨tracked, ended, missing⟩ := inv.logged upid logged
      refine ⟨List.mem_append_left _ tracked, ?_, missing⟩
      rw [others upid tracked]
      exact ended
    · intro m' todo outcome phase
      have member : m'.upid ∈ w.monitor.ahead := by
        have here : w.monitor = .logging .migration m' todo outcome := phase
        rw [here]
        exact List.mem_cons_self
      rw [others m'.upid (inv.tracked _ member)]
      exact inv.ended m' todo outcome phase

theorem inv_go (inv : Inv w) (e : Event) : Inv (go w e) := by
  cases e with
  | track k m => exact inv.track k m
  | monitor o => exact inv.monitor_step (monitorStep_spec o w)
  | poller o => exact inv.poller_step (pollerStep_spec o w)
  | remove k upid => exact inv.remove k upid

theorem inv_start : Inv start :=
  ⟨Store.keyed_empty, known_start, List.nodup_nil, nofun, fun _ logged => absurd rfl logged,
    nofun, fun _ => Nat.zero_le 1⟩

end Audit

section Coverage

variable {w w' : World}

theorem mem_awaits_writing {s : Store} {upid : String} {m : Move} {todo : List Move}
    {v : Write} : upid ∈ (Monitor.writing .migration m todo v).awaits s ↔
      v.lasts s m.upid = true ∧ upid = m.upid ∨ upid ∈ unasked todo := by
  rw [Monitor.awaits]
  split
  · rename_i lasts
    rw [List.mem_cons, lasts]
    simp only [true_and]
  · rename_i lasts
    simp only [lasts, Bool.false_eq_true, false_and, false_or]

theorem mem_awaits_congr {s s' : Store} {upid : String} (monitor : Monitor)
    (same : (s'.status .migration upid).isSome = (s.status .migration upid).isSome) :
    upid ∈ monitor.awaits s' ↔ upid ∈ monitor.awaits s := by
  cases monitor with
  | writing k m todo v =>
      cases k with
      | diskMove => exact Iff.rfl
      | migration =>
          rw [mem_awaits_writing, mem_awaits_writing]
          refine or_congr_left (and_congr_left ?_)
          rintro rfl
          cases v with
          | advance progress => rw [Write.lasts, Write.lasts, same]
          | abandon => exact Iff.rfl
          | finish outcome => exact Iff.rfl
  | _ => exact Iff.rfl

theorem covered_congr {upid : String} (activity : entries w' upid = entries w upid)
    (status : w'.store.status .migration upid = w.store.status .migration upid)
    (awaits : upid ∈ w'.monitor.awaits w'.store ↔ upid ∈ w.monitor.awaits w.store) :
    Covered w' upid ↔ Covered w upid := by
  rw [Covered, Covered, activity, status, awaits]

theorem covered_of_status {upid : String} {s : Store}
    (status : s.status .migration upid = w.store.status .migration upid) :
    Covered { w with store := s } upid ↔ Covered w upid :=
  covered_congr rfl status (mem_awaits_congr w.monitor (congrArg Option.isSome status))

theorem audited_of_covered (inv : Inv w)
    (covered : ∀ upid, (.migration, upid) ∈ w.tracked → Covered w upid) : Audited w :=
  fun upid tracked => ⟨inv.once upid, covered upid tracked⟩

theorem audited_track (inv : Inv w) (audited : Audited w) (k : Kind) (m : Move) :
    Audited (Migrations.track w k m) := by
  refine audited_of_covered (inv.track k m) ?_
  rw [Migrations.track]
  split
  · exact fun upid tracked => (audited upid tracked).2
  · rename_i fresh
    intro upid tracked
    by_cases here : (.migration, upid) = (k, m.upid)
    · obtain ⟨rfl, rfl⟩ := Prod.mk.inj here
      refine Or.inr (Or.inl ?_)
      rw [Store.status_add, if_pos ⟨rfl, rfl⟩]
    · have before : (.migration, upid) ∈ w.tracked := by
        rcases List.mem_append.mp tracked with before | new
        · exact before
        · exact absurd (List.mem_singleton.mp new) here
      refine (covered_of_status ?_).mpr (audited upid before).2
      rw [Store.status_add, if_neg fun same => here (by rw [same.1, same.2])]

theorem audited_remove_iff (inv : Inv w) (audited : Audited w) (k : Kind) (upid : String) :
    Audited (Migrations.remove w k upid) ↔ Noticed w (.remove k upid) := by
  have later := inv.remove k upid
  rw [Migrations.remove] at later ⊢
  by_cases waiting : (k, upid) ∈ w.removals
  · rw [if_pos waiting] at later ⊢
    have other : ∀ upid', (k, upid) ≠ (.migration, upid') ∨ w.store.status k upid = none →
        (w.store.remove k upid).status .migration upid' = w.store.status .migration upid' := by
      intro upid' apart
      rw [Store.status_remove]
      split
      · rename_i same
        rcases apart with differ | gone
        · exact absurd (by rw [same.1, same.2]) differ
        · rw [same.1, same.2, gone]
      · rfl
    constructor
    · rintro after rfl - stored
      rcases (after upid (inv.known _ _ stored)).2 with logged | running | awaited
      · exact Or.inl logged
      · rw [Store.status_remove, if_pos ⟨rfl, rfl⟩] at running
        cases running
      · exact Or.inr awaited
    · intro noticed
      refine audited_of_covered later fun upid' tracked => ?_
      have before := (audited upid' tracked).2
      by_cases here : (k, upid) ≠ (.migration, upid') ∨ w.store.status k upid = none
      · exact (covered_of_status (other upid' here)).mpr before
      · rw [not_or, not_ne_iff] at here
        obtain ⟨rfl, rfl⟩ := Prod.mk.inj here.1
        rcases noticed rfl waiting (Option.isSome_iff_ne_none.mpr here.2) with logged | awaited
        · exact Or.inl logged
        · exact Or.inr (Or.inr awaited)
  · rw [if_neg waiting]
    exact iff_of_true audited fun _ listed => absurd listed waiting

theorem audited_poller_iff (inv : Inv w) (audited : Audited w) {o : Outside}
    (step : PollerStep o w w') : Audited w' ↔ Noticed w (.poller o) := by
  have later := inv.poller_step step
  have same : ∀ poller removals, Audited { w with poller := poller, removals := removals } :=
    fun _ _ => audited
  cases step with
  | begins phase => exact iff_of_true (same _ _) (by simp only [Noticed, phase])
  | ends phase => exact iff_of_true (same _ _) (by simp only [Noticed, phase])
  | passes m todo phase missed => exact iff_of_true (same _ _) (by simp only [Noticed, phase])
  | finds m todo outcome phase decided =>
      exact iff_of_true (same _ _) (by simp only [Noticed, phase])
  | schedules m todo phase => exact iff_of_true (same _ _) (by simp only [Noticed, phase])
  | writes m todo outcome phase =>
      simp only [Noticed, phase]
      constructor
      · intro after running
        have tracked := inv.known _ _ (Option.isSome_of_eq_some running)
        rcases (after m.upid tracked).2 with logged | still | awaited
        · have none := inv.unlogged_of_running running
          cases none.symm.trans logged
        · have ended : (writeStatus w.store m outcome).status .migration m.upid = some .running :=
            still
          rw [status_writeStatus, if_pos ⟨rfl, rfl⟩, running] at ended
          exact absurd (Option.some.inj ended) outcome.status_ne_running
        · refine (mem_awaits_congr w.monitor ?_).mp awaited
          rw [status_writeStatus, if_pos ⟨rfl, rfl⟩, Option.isSome_map]
      · intro noticed
        refine audited_of_covered later fun upid tracked => ?_
        have before := (audited upid tracked).2
        have awaits : upid ∈ w.monitor.awaits (writeStatus w.store m outcome) ↔
            upid ∈ w.monitor.awaits w.store := by
          refine mem_awaits_congr w.monitor ?_
          rw [status_writeStatus]
          split
          · rename_i here
            rw [here.2, Option.isSome_map]
          · rfl
        rcases before with logged | running | awaited
        · exact Or.inl logged
        · by_cases here : upid = m.upid
          · subst here
            exact Or.inr (Or.inr (awaits.mpr (noticed running)))
          · refine Or.inr (Or.inl ?_)
            have kept : (writeStatus w.store m outcome).status .migration upid = some .running := by
              rw [status_writeStatus, if_neg fun same => here same.2, running]
            exact kept
        · exact Or.inr (Or.inr (awaits.mpr awaited))

theorem noted_iff {s : Store} {upid : String} {decided : Option Write} :
    Noted s upid decided ↔ s.status .migration upid = some .running ∨
      ∃ v, decided = some v ∧ v.lasts s upid = true := by
  cases decided with
  | none => simp [Noted]
  | some v =>
      cases v with
      | finish outcome => simp [Noted, Write.lasts]
      | abandon => simp [Noted, Write.lasts]
      | advance progress =>
          simp only [Noted, Write.lasts, Option.some.injEq, exists_eq_left']
          constructor
          · exact Or.inr
          · rintro (running | stored)
            · exact Option.isSome_of_eq_some running
            · exact stored

/-- The monitor goes on, and what it was to log is still ahead. -/
theorem audited_of_awaits (audited : Audited w) (later : Inv w') (store : w'.store = w.store)
    (activity : w'.activity = w.activity) (tracked : w'.tracked = w.tracked)
    (awaits : ∀ upid ∈ w.monitor.awaits w.store, upid ∈ w'.monitor.awaits w.store) :
    Audited w' := by
  refine audited_of_covered later fun upid member => ?_
  rw [Covered, entries, store, activity]
  rcases (audited upid (tracked ▸ member)).2 with logged | running | awaited
  · exact Or.inl logged
  · exact Or.inr (Or.inl running)
  · exact Or.inr (Or.inr (awaits upid awaited))

/-- The monitor passes over a migration that it was to ask for, or goes on to write about it. -/
theorem audited_asked_iff (inv : Inv w) (audited : Audited w) {m : Move} {todo : List Move}
    {phase' : Monitor} {o : Outside} (phase : w.monitor = .checking .migration (m :: todo))
    (running : m.status = .running) (later : Inv { w with monitor := phase' })
    (awaits : ∀ upid, upid ∈ phase'.awaits w.store ↔ upid ∈ unasked todo ∨ upid = m.upid ∧
      ∃ v, check o checkMigrations m = some v ∧ v.lasts w.store m.upid = true) :
    Audited { w with monitor := phase' } ↔
      Noted w.store m.upid (check o checkMigrations m) := by
  have ahead : w.monitor.ahead = m.upid :: unasked todo := by
    rw [phase]
    exact (unasked_cons m todo).trans (if_pos running)
  have same : w.monitor.awaits w.store = m.upid :: unasked todo := by
    rw [phase] at ahead ⊢
    exact ahead
  have distinct := inv.distinct
  rw [ahead] at distinct
  have own : m.upid ∈ w.monitor.ahead := by
    rw [ahead]
    exact List.mem_cons_self
  rw [noted_iff]
  constructor
  · intro after
    rcases (after m.upid (inv.tracked _ own)).2 with logged | still | awaited
    · cases (inv.unlogged own).symm.trans logged
    · exact Or.inl still
    · rcases (awaits m.upid).mp awaited with member | ⟨-, found⟩
      · exact absurd member (List.nodup_cons.mp distinct).1
      · exact Or.inr found
  · intro kept
    refine audited_of_covered later fun upid tracked => ?_
    rcases (audited upid tracked).2 with logged | still | awaited
    · exact Or.inl logged
    · exact Or.inr (Or.inl still)
    · rw [same] at awaited
      rcases List.mem_cons.mp awaited with rfl | member
      · rcases kept with still | found
        · exact Or.inr (Or.inl still)
        · exact Or.inr (Or.inr ((awaits m.upid).mpr (Or.inr ⟨rfl, found⟩)))
      · exact Or.inr (Or.inr ((awaits upid).mpr (Or.inl member)))

theorem not_audited_abandoned (inv : Inv w) {m : Move} {todo : List Move}
    (phase : w.monitor = .writing .migration m todo .abandon) :
    ¬Audited { w with
      store := write w.store .migration m.upid .abandon
      monitor := .checking .migration todo } := by
  intro after
  have distinct := inv.distinct
  have own : m.upid ∈ w.monitor.ahead := by
    rw [phase]
    exact List.mem_cons_self
  rw [phase] at distinct
  rcases (after m.upid (inv.tracked _ own)).2 with logged | running | awaited
  · cases (inv.unlogged own).symm.trans logged
  · have failed : (write w.store .migration m.upid .abandon).status .migration m.upid =
        some .running := running
    rw [status_write, if_pos ⟨rfl, rfl⟩] at failed
    obtain ⟨-, -, same⟩ := Option.map_eq_some_iff.mp failed
    cases same
  · exact (List.nodup_cons.mp distinct).1 awaited

/-- A migration is covered after the monitor's write of its progress or its end. -/
theorem covered_written (inv : Inv w) {m : Move} {todo : List Move} {v : Write}
    (phase : w.monitor = .writing .migration m todo v) (kept : v ≠ .abandon)
    (covered : Covered w m.upid) :
    Covered { w with
      store := write w.store .migration m.upid v
      monitor := written .migration m todo v } m.upid := by
  have distinct := inv.distinct
  have own : m.upid ∈ w.monitor.ahead := by
    rw [phase]
    exact List.mem_cons_self
  rw [phase] at distinct
  cases v with
  | abandon => exact absurd rfl kept
  | finish outcome => exact Or.inr (Or.inr List.mem_cons_self)
  | advance progress =>
      have stored : (w.store.status .migration m.upid).isSome := by
        rcases covered with logged | running | awaited
        · cases (inv.unlogged own).symm.trans logged
        · exact Option.isSome_of_eq_some running
        · rw [phase, mem_awaits_writing] at awaited
          rcases awaited with ⟨lasts, -⟩ | member
          · exact lasts
          · exact absurd member (List.nodup_cons.mp distinct).1
      obtain ⟨st, found⟩ := Option.isSome_iff_exists.mp stored
      refine Or.inr (Or.inl ?_)
      rw [status_write, if_pos ⟨rfl, rfl⟩, found]
      rfl

theorem audited_writes_iff (inv : Inv w) (audited : Audited w) {k : Kind} {m : Move}
    {todo : List Move} {v : Write} (phase : w.monitor = .writing k m todo v) :
    Audited { w with store := write w.store k m.upid v, monitor := written k m todo v } ↔
      (k = .migration → v ≠ .abandon) := by
  have later := inv.writes phase
  have others : ∀ upid, (k, m.upid) ≠ (.migration, upid) →
      (write w.store k m.upid v).status .migration upid = w.store.status .migration upid := by
    intro upid other
    rw [status_write, if_neg]
    rintro ⟨rfl, rfl⟩
    exact other rfl
  constructor
  · rintro after rfl rfl
    exact not_audited_abandoned inv phase after
  · intro kept
    refine audited_of_covered later fun upid tracked => ?_
    have before := (audited upid tracked).2
    by_cases here : (k, m.upid) = (.migration, upid)
    · obtain ⟨rfl, rfl⟩ := Prod.mk.inj here
      exact covered_written inv phase (kept rfl) before
    · refine Iff.mpr (covered_congr (w := w) rfl (others upid here) ?_) before
      rw [phase]
      cases k with
      | diskMove => cases v <;> exact Iff.rfl
      | migration =>
          have apart : upid ≠ m.upid := fun same => here (by rw [same])
          rw [mem_awaits_writing, or_iff_right fun own => apart own.2]
          cases v with
          | abandon => exact Iff.rfl
          | advance progress => exact Iff.rfl
          | finish outcome => exact List.mem_cons.trans (or_iff_right apart)

theorem audited_logs (inv : Inv w) (audited : Audited w) {k : Kind} {m : Move}
    {todo : List Move} {outcome : Outcome} (phase : w.monitor = .logging k m todo outcome)
    (logged : Entry) :
    Audited { w with
      activity := w.activity ++ [((k, m.upid), logged)], monitor := .scheduling k m todo } := by
  refine audited_of_covered (inv.logs phase logged) fun upid tracked => ?_
  have before := (audited upid tracked).2
  have count := @entries_append ((k, m.upid), logged) w.activity upid
  by_cases here : (k, m.upid) = (.migration, upid)
  · obtain ⟨rfl, rfl⟩ := Prod.mk.inj here
    have own : m.upid ∈ w.monitor.ahead := by
      rw [phase]
      exact List.mem_cons_self
    have none : entries w m.upid = 0 := inv.unlogged own
    rw [entries] at none
    rw [none, if_pos rfl] at count
    exact Or.inl count
  · rw [if_neg here] at count
    refine Iff.mpr (covered_congr (w := w) count rfl ?_) before
    rw [phase]
    cases k with
    | diskMove => exact Iff.rfl
    | migration =>
        have apart : upid ≠ m.upid := fun same => here (by rw [same])
        exact (List.mem_cons.trans (or_iff_right apart)).symm

theorem audited_monitor_iff (inv : Inv w) (audited : Audited w) {o : Outside}
    (step : MonitorStep o w w') : Audited w' ↔ Noticed w (.monitor o) := by
  have later := inv.monitor_step step
  cases step with
  | begins phase =>
      refine iff_of_true (audited_of_awaits audited later rfl rfl rfl ?_) (by
        simp only [Noticed, phase])
      rw [phase]
      exact nofun
  | turns phase =>
      refine iff_of_true (audited_of_awaits audited later rfl rfl rfl ?_) (by
        simp only [Noticed, phase])
      rw [phase]
      exact nofun
  | ends phase =>
      refine iff_of_true (audited_of_awaits audited later rfl rfl rfl ?_) (by
        simp only [Noticed, phase])
      rw [phase]
      exact nofun
  | passes k m todo phase missed =>
      cases k with
      | diskMove =>
          refine iff_of_true (audited_of_awaits audited later rfl rfl rfl ?_) (by
            simp only [Noticed, phase])
          rw [phase]
          exact nofun
      | migration =>
          simp only [Noticed, phase]
          by_cases running : m.status = .running
          · rw [audited_asked_iff inv audited phase running later]
            · exact ⟨fun noted _ => noted, fun noted => noted running⟩
            · intro upid
              have none : check o checkMigrations m = none := missed
              rw [none]
              simp [Monitor.awaits, Monitor.ahead]
          · refine iff_of_true (audited_of_awaits audited later rfl rfl rfl ?_) fun running' =>
              absurd running' running
            rw [phase]
            have same : unasked (m :: todo) = unasked todo := by
              rw [unasked_cons, if_neg running]
            intro upid member
            have listed : upid ∈ unasked (m :: todo) := member
            rw [same] at listed
            exact listed
  | finds k m todo v phase decided =>
      cases k with
      | diskMove =>
          refine iff_of_true (audited_of_awaits audited later rfl rfl rfl ?_) (by
            simp only [Noticed, phase])
          rw [phase]
          exact nofun
      | migration =>
          have running := running_of_check decided
          simp only [Noticed, phase]
          rw [audited_asked_iff inv audited phase running later]
          · exact ⟨fun noted _ => noted, fun noted => noted running⟩
          · intro upid
            have here : check o checkMigrations m = some v := decided
            rw [here, mem_awaits_writing]
            simp [and_comm, or_comm]
  | writes k m todo v phase =>
      rw [audited_writes_iff inv audited phase]
      cases k with
      | diskMove =>
          refine iff_of_true nofun ?_
          simp only [Noticed, phase]
      | migration => cases v <;> simp [Noticed, phase]
  | logs k m todo outcome phase =>
      exact iff_of_true (audited_logs inv audited phase _) (by simp only [Noticed, phase])
  | schedules k m todo phase =>
      refine iff_of_true (audited_of_awaits audited later rfl rfl rfl ?_) (by
        simp only [Noticed, phase])
      rw [phase]
      cases k <;> exact fun _ member => member

theorem audited_go_iff (inv : Inv w) (audited : Audited w) (e : Event) :
    Audited (go w e) ↔ Noticed w e := by
  cases e with
  | track k m => exact iff_of_true (audited_track inv audited k m) trivial
  | monitor o => exact audited_monitor_iff inv audited (monitorStep_spec o w)
  | poller o => exact audited_poller_iff inv audited (pollerStep_spec o w)
  | remove k upid => exact audited_remove_iff inv audited k upid

theorem inv_of_run (es : List Event) : ∀ w ∈ states go start es, Inv w :=
  invariant_states (fun _ e inv => inv_go inv e) inv_start

/-- No migration has two entries in the activity log. -/
theorem logged_at_most_once (es : List Event) :
    ∀ w ∈ states go start es, ∀ upid, entries w upid ≤ 1 :=
  fun w member => (inv_of_run es w member).once

theorem audited_start : Audited start := by
  intro upid tracked
  cases tracked

/-- In a run each migration that ends has exactly one entry in the activity log, iff its end does
not get past the monitor. -/
theorem migrations_audited_iff (es : List Event) :
    (∀ w ∈ states go start es, Audited w) ↔ Along go Noticed start es := by
  have both : (∀ w ∈ states go start es, Inv w ∧ Audited w) ↔ Along go Noticed start es := by
    refine invariant_iff_along (fun w e _ holds => ?_) ⟨inv_start, audited_start⟩
    rw [and_iff_right (inv_go holds.1 e)]
    exact audited_go_iff holds.1 holds.2 e
  rw [← both]
  constructor
  · exact fun audited w member => ⟨inv_of_run es w member, audited w member⟩
  · exact fun holds w member => (holds w member).2

/-- The poller hears of the end of a migration between two passes of the monitor; then the
monitor makes its pass, and the migration is removed. -/
def pollerFirst : List Event :=
  [.track .migration liveMigration, .poller succeeded, .poller succeeded, .poller succeeded,
    .poller succeeded, .poller succeeded, .monitor succeeded, .monitor succeeded,
    .monitor succeeded, .monitor succeeded, .remove .migration liveMigration.upid]

/-- The migration has succeeded and is gone, and the activity log is empty. -/
theorem finished_migration_unlogged :
    (pollerFirst.foldl go start).activity = [] ∧
      (pollerFirst.foldl go start).monitor = .waiting ∧
      (pollerFirst.foldl go start).poller = .waiting ∧
      (pollerFirst.foldl go start).store.status .migration liveMigration.upid = none ∧
      ¬∀ w ∈ states go start pollerFirst, Audited w := by
  have done : (pollerFirst.foldl go start).activity = [] ∧
      (pollerFirst.foldl go start).monitor = .waiting ∧
      (pollerFirst.foldl go start).poller = .waiting ∧
      (pollerFirst.foldl go start).store.status .migration liveMigration.upid = none ∧
      (.migration, liveMigration.upid) ∈ (pollerFirst.foldl go start).tracked := by
    decide +kernel
  have last := @last_mem_states World Event go start pollerFirst
  obtain ⟨log, idle, still, gone, tracked⟩ := done
  refine ⟨log, idle, still, gone, fun all => ?_⟩
  have audited := all _ last
  generalize pollerFirst.foldl go start = w at log idle gone tracked audited
  rcases (audited _ tracked).2 with logged | running | awaited
  · rw [entries, log] at logged
    cases logged
  · rw [gone] at running
    cases running
  · rw [idle] at awaited
    cases awaited

end Coverage

end Migrations
