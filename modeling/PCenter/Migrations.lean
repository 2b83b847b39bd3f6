import PCenter.Lib.FiniteMap
import PCenter.Lib.Text
import PCenter.Lib.Transition
import PCenter.Lib.Url

/-!
# Tracked migrations and disk moves

The two goroutines that watch the PVE tasks of the moves which `state.Store` tracks:
`Monitor.Start` of `migration/monitor.go`, which checks the migrations and then the disk moves,
and `pollMigrationsLoop` of `poller.go`, which checks the migrations only. Each takes a snapshot,
asks PVE about one move after another, and then writes, logs and has the move removed later, one
step at a time and with steps of the others in between.

The map of the moves is iterated in any order. PVE names no two tasks alike.
-/

namespace Migrations

open FiniteMap GoText

inductive Kind where
  | migration
  | diskMove
  deriving DecidableEq, Repr

inductive Status where
  | running
  | completed
  | failed
  deriving DecidableEq, Repr

inductive About where
  | migration (fromNode toNode : String) (online : Bool)
  | diskMove (node disk fromStorage toStorage : String) (deleteSource : Bool)
  deriving DecidableEq, Repr

/-- `MigrationProgress` and `DiskMoveProgress`, with what only one of them has in `about`. -/
structure Move where
  upid : String
  cluster : String
  vmid : Int64
  guestName : String
  guestType : String
  about : About
  startedAt : Int
  progress : Int
  status : Status
  error : String
  deriving DecidableEq, Repr

/-- The moves that are tracked, by UPID. -/
structure Store where
  migrations : Map String Move
  diskMoves : Map String Move

namespace Store

variable (s : Store) (k : Kind)

def moves : Kind → Map String Move
  | .migration => s.migrations
  | .diskMove => s.diskMoves

def setMoves (moves : Map String Move) : Kind → Store
  | .migration => { s with migrations := moves }
  | .diskMove => { s with diskMoves := moves }

/-- `AddMigration`, `AddDiskMove` -/
def add (m : Move) : Store := s.setMoves ((s.moves k).insert m.upid m) k

/-- `UpdateMigration`, `UpdateDiskMove`: a move that is not tracked any more is left alone. -/
def update (upid : String) (progress : Int) (status : Status) (error : String) : Store :=
  match (s.moves k).lookup upid with
  | none => s
  | some m =>
      s.setMoves ((s.moves k).insert upid
        { m with progress := progress, status := status, error := error }) k

/-- `RemoveMigration`, `RemoveDiskMove` -/
def remove (upid : String) : Store := s.setMoves ((s.moves k).erase upid) k

def status (upid : String) : Option Status := ((s.moves k).lookup upid).map (·.status)

theorem moves_setMoves (moves : Map String Move) (k' : Kind) :
    (s.setMoves moves k).moves k' = if k' = k then moves else s.moves k' := by
  cases k <;> cases k' <;> rfl

/-- Each move is stored under its own UPID. -/
def Keyed : Prop := ∀ k upid m, (s.moves k).lookup upid = some m → m.upid = upid

variable {s k}

theorem lookup_add (m : Move) (k' : Kind) (upid : String) :
    ((s.add k m).moves k').lookup upid =
      if k' = k ∧ upid = m.upid then some m else (s.moves k').lookup upid := by
  rw [add, moves_setMoves]
  by_cases kind : k' = k
  · subst kind
    rw [if_pos rfl, lookup_insert_eq]
    simp only [true_and]
  · rw [if_neg kind, if_neg fun same => kind same.1]

theorem lookup_update (upid : String) (progress : Int) (status : Status) (error : String)
    (k' : Kind) (upid' : String) :
    ((s.update k upid progress status error).moves k').lookup upid' =
      if k' = k ∧ upid' = upid then
        ((s.moves k).lookup upid).map fun m =>
          { m with progress := progress, status := status, error := error }
      else (s.moves k').lookup upid' := by
  cases found : (s.moves k).lookup upid with
  | none =>
      rw [update, found]
      by_cases same : k' = k ∧ upid' = upid
      · rw [if_pos same, same.1, same.2]
        exact found
      · rw [if_neg same]
  | some m =>
      rw [update, found]
      change ((s.setMoves _ k).moves k').lookup upid' = _
      rw [moves_setMoves]
      by_cases kind : k' = k
      · subst kind
        rw [if_pos rfl, lookup_insert_eq]
        simp only [true_and, Option.map_some]
      · rw [if_neg kind, if_neg fun same => kind same.1]

theorem lookup_remove (upid : String) (k' : Kind) (upid' : String) :
    ((s.remove k upid).moves k').lookup upid' =
      if k' = k ∧ upid' = upid then none else (s.moves k').lookup upid' := by
  rw [remove, moves_setMoves]
  by_cases kind : k' = k
  · subst kind
    rw [if_pos rfl]
    by_cases same : upid' = upid
    · rw [if_pos ⟨rfl, same⟩, same, AList.lookup_erase]
    · rw [if_neg fun both => same both.2, AList.lookup_erase_ne same]
  · rw [if_neg kind, if_neg fun same => kind same.1]

theorem status_add (m : Move) (k' : Kind) (upid : String) :
    (s.add k m).status k' upid =
      if k' = k ∧ upid = m.upid then some m.status else s.status k' upid := by
  rw [status, lookup_add]
  split <;> rfl

theorem status_update (upid : String) (progress : Int) (st : Status) (error : String)
    (k' : Kind) (upid' : String) :
    (s.update k upid progress st error).status k' upid' =
      if k' = k ∧ upid' = upid then (s.status k upid).map fun _ => st
      else s.status k' upid' := by
  rw [status, lookup_update, status]
  split
  · rw [Option.map_map, Option.map_map]
    rfl
  · rfl

theorem status_remove (upid : String) (k' : Kind) (upid' : String) :
    (s.remove k upid).status k' upid' =
      if k' = k ∧ upid' = upid then none else s.status k' upid' := by
  rw [status, lookup_remove]
  split <;> rfl

theorem Keyed.add (keyed : s.Keyed) (m : Move) : (s.add k m).Keyed := by
  intro k' upid m' found
  rw [lookup_add] at found
  split at found
  · rename_i same
    rw [← Option.some.inj found, same.2]
  · exact keyed k' upid m' found

theorem Keyed.update (keyed : s.Keyed) (upid : String) (progress : Int) (st : Status)
    (error : String) : (s.update k upid progress st error).Keyed := by
  intro k' upid' m' found
  rw [lookup_update] at found
  split at found
  · rename_i same
    obtain ⟨m, here, rfl⟩ := Option.map_eq_some_iff.mp found
    rw [same.2]
    exact keyed k upid m here
  · exact keyed k' upid' m' found

theorem Keyed.remove (keyed : s.Keyed) (upid : String) : (s.remove k upid).Keyed := by
  intro k' upid' m' found
  rw [lookup_remove] at found
  split at found
  · cases found
  · exact keyed k' upid' m' found

theorem keyed_empty : Keyed ⟨∅, ∅⟩ := by
  intro k upid m found
  cases k <;> cases found

/-- The UPIDs of the moves are the keys of their map. -/
theorem nodup_values (keyed : s.Keyed) (k : Kind) :
    ((values (s.moves k)).map (·.upid)).Nodup := by
  have keys : (values (s.moves k)).map (·.upid) = (s.moves k).keys := by
    rw [values, List.map_map]
    apply List.map_congr_left
    rintro ⟨upid, m⟩ member
    exact keyed k upid m (AList.mem_lookup_iff.mpr member)
  rw [keys]
  exact (s.moves k).keys_nodup

theorem lookup_of_mem_values (keyed : s.Keyed) {m : Move} (member : m ∈ values (s.moves k)) :
    (s.moves k).lookup m.upid = some m := by
  obtain ⟨upid, found⟩ := mem_values_iff.mp member
  rw [keyed k upid m found]
  exact found

end Store

section Tasks

/-- What PVE says about a task. -/
structure Task where
  status : String
  exitCode : String

/-- What the outside contributes to one step. -/
structure Outside where
  now : Int
  /-- In which order the map of the moves is iterated. -/
  order : List Move
  /-- There is a client for the cluster and the node. -/
  client : Bool
  /-- The answer of `GetTaskStatus`, unless that fails. -/
  task : Option Task
  /-- The lines that `GetTaskLog` answers, unless that fails. -/
  log : Option (List String)
  /-- What `GetTaskError` finds in the log of a task. -/
  taskError : String

/-- `GetMigrations`, `GetDiskMoves` -/
def snapshot (o : Outside) (s : Store) (k : Kind) : List Move :=
  if o.order.Perm (values (s.moves k)) then o.order else values (s.moves k)

/-- The part after the first colon; a text with a malformed escape is taken as it is. -/
def parseNodeFromUPID (upid : String) : String :=
  match split ':' (GoUrl.pathUnescape upid) with
  | _ :: node :: _ => node
  | _ => ""

/-- The phases that lines of a task log stand for, in the order of the checks. -/
def progressMarks : List (List String × Int) :=
  [(["shutdown ct", "stop ct"], 15), (["starting migration"], 33),
    (["start container on target", "pct start"], 66), (["migration finished"], 90),
    (["starting migration of vm"], 20), (["start migrate", "migration active"], 50),
    (["migration finished", "task ok"], 90)]

def progressOfLine (progress : Int) (line : String) : Int :=
  progressMarks.foldl (fun progress mark =>
    if mark.1.any (fun text => includes text (toLower line)) ∧ progress < mark.2 then mark.2
    else progress) progress

def parseProgress (o : Outside) (m : Move) : Int :=
  match o.log with
  | none => m.progress
  | some entries => entries.foldl progressOfLine 0

def minute : Int := 60 * 1000000000

/-- What the checks of the two kinds of moves differ in. -/
structure Watch where
  action : String
  /-- How long a task may not be found. -/
  limit : Int
  /-- The log of a running task tells its progress. -/
  measures : Bool

def checkMigrations : Watch := ⟨"migrate", 10 * minute, true⟩

def checkDiskMoves : Watch := ⟨"move_disk", 30 * minute, false⟩

def watch : Kind → Watch
  | .migration => checkMigrations
  | .diskMove => checkDiskMoves

inductive Outcome where
  | completed
  | failed (error : String)
  deriving DecidableEq, Repr

/-- What the monitor has to write about a move. -/
inductive Write where
  | advance (progress : Int)
  /-- The task is not found any more. -/
  | abandon
  | finish (outcome : Outcome)
  deriving DecidableEq, Repr

/-- How the monitor goes on with a move of its snapshot, if it does not pass over it. -/
def check (o : Outside) (w : Watch) (m : Move) : Option Write :=
  if m.status ≠ .running then none
  else if parseNodeFromUPID m.upid = "" then none
  else if o.client = false then none
  else
    match o.task with
    | none => if o.now - m.startedAt > w.limit then some .abandon else none
    | some task =>
        if task.status = "running" then
          if w.measures ∧ parseProgress o m > m.progress then
            some (.advance (parseProgress o m))
          else none
        else if task.status = "stopped" then
          if task.exitCode = "OK" then some (.finish .completed)
          else some (.finish (.failed (if o.taskError = "" then task.exitCode else o.taskError)))
        else none

theorem running_of_check {o : Outside} {w : Watch} {m : Move} {v : Write}
    (found : check o w m = some v) : m.status = .running := by
  rw [check] at found
  split at found
  · cases found
  · rename_i running
    exact of_not_not running

/-- How `checkMigrationStatuses` goes on with a migration, whatever its status. -/
def checkStatus (o : Outside) : Option Outcome :=
  match o.client, o.task with
  | true, some task =>
      if task.status = "stopped" then
        if task.exitCode = "OK" then some .completed else some (.failed task.exitCode)
      else none
  | _, _ => none

/-- What the monitor makes of a move. -/
def write (s : Store) (k : Kind) (upid : String) : Write → Store
  | .advance progress => s.update k upid progress .running ""
  | .abandon => s.update k upid 0 .failed "task not found"
  | .finish .completed => s.update k upid 100 .completed ""
  | .finish (.failed error) => s.update k upid 0 .failed error

/-- What the poller makes of a migration. -/
def writeStatus (s : Store) (m : Move) : Outcome → Store
  | .completed => s.update .migration m.upid 100 .completed ""
  | .failed error => s.update .migration m.upid m.progress .failed error

/-- The status that a write leaves. -/
def Outcome.status : Outcome → Status
  | .completed => .completed
  | .failed _ => .failed

def Write.status : Write → Status
  | .advance _ => .running
  | .abandon => .failed
  | .finish outcome => outcome.status

section Writes

variable {o : Outside} {s : Store} {k k' : Kind} {upid upid' : String}

theorem Outcome.status_ne_running (outcome : Outcome) : outcome.status ≠ .running := by
  cases outcome <;> exact nofun

theorem status_write (v : Write) :
    (write s k upid v).status k' upid' =
      if k' = k ∧ upid' = upid then (s.status k upid).map fun _ => v.status
      else s.status k' upid' := by
  cases v with
  | advance progress => exact Store.status_update upid progress .running "" k' upid'
  | abandon => exact Store.status_update upid 0 .failed "task not found" k' upid'
  | finish outcome =>
      cases outcome with
      | completed => exact Store.status_update upid 100 .completed "" k' upid'
      | failed error => exact Store.status_update upid 0 .failed error k' upid'

theorem status_writeStatus (m : Move) (outcome : Outcome) :
    (writeStatus s m outcome).status k' upid' =
      if k' = .migration ∧ upid' = m.upid then
        (s.status .migration m.upid).map fun _ => outcome.status
      else s.status k' upid' := by
  cases outcome with
  | completed => exact Store.status_update m.upid 100 .completed "" k' upid'
  | failed error => exact Store.status_update m.upid m.progress .failed error k' upid'

theorem keyed_write (keyed : s.Keyed) (v : Write) : (write s k upid v).Keyed := by
  cases v with
  | advance progress => exact keyed.update _ _ _ _
  | abandon => exact keyed.update _ _ _ _
  | finish outcome => cases outcome <;> exact keyed.update _ _ _ _

theorem keyed_writeStatus (keyed : s.Keyed) (m : Move) (outcome : Outcome) :
    (writeStatus s m outcome).Keyed := by
  cases outcome <;> exact keyed.update _ _ _ _

theorem snapshot_perm : (snapshot o s k).Perm (values (s.moves k)) := by
  rw [snapshot]
  split
  · assumption
  · exact List.Perm.refl _

theorem nodup_snapshot (keyed : s.Keyed) : ((snapshot o s k).map (·.upid)).Nodup :=
  (snapshot_perm.map _).nodup_iff.mpr (Store.nodup_values keyed k)

theorem status_of_mem_snapshot (keyed : s.Keyed) {m : Move} (member : m ∈ snapshot o s k) :
    s.status k m.upid = some m.status := by
  rw [Store.status, Store.lookup_of_mem_values keyed (snapshot_perm.mem_iff.mp member)]
  rfl

end Writes

/-- An entry of the activity log; its details are not encoded. -/
structure Entry where
  action : String
  resourceType : String
  resourceID : String
  resourceName : String
  cluster : String
  about : About
  /-- The duration, or the error. -/
  result : Except String Int
  status : String
  deriving DecidableEq

def entry (now : Int) (w : Watch) (m : Move) (outcome : Outcome) : Entry where
  action := w.action
  resourceType := m.guestType
  resourceID := itoa m.vmid
  resourceName := m.guestName
  cluster := m.cluster
  about := m.about
  result :=
    match outcome with
    | .completed => .ok (now - m.startedAt)
    | .failed error => .error error
  status :=
    match outcome with
    | .completed => "success"
    | .failed _ => "error"

end Tasks

section Loops

/-- Where the goroutine of `Monitor.Start` is. -/
inductive Monitor where
  | waiting
  | checking (k : Kind) (todo : List Move)
  | writing (k : Kind) (m : Move) (todo : List Move) (write : Write)
  | logging (k : Kind) (m : Move) (todo : List Move) (outcome : Outcome)
  | scheduling (k : Kind) (m : Move) (todo : List Move)
  deriving DecidableEq, Repr

/-- Where the goroutine of `pollMigrationsLoop` is. -/
inductive Poller where
  | waiting
  | checking (todo : List Move)
  | writing (m : Move) (todo : List Move) (outcome : Outcome)
  | scheduling (m : Move) (todo : List Move)
  deriving DecidableEq, Repr

structure World where
  store : Store
  monitor : Monitor
  poller : Poller
  /-- The goroutines that wait to remove a move. -/
  removals : List (Kind × String)
  /-- The activity log, each entry with the move that it is about. -/
  activity : List ((Kind × String) × Entry)
  /-- Every move that has been tracked. -/
  tracked : List (Kind × String)

def start : World := ⟨⟨∅, ∅⟩, .waiting, .waiting, [], [], []⟩

inductive Event where
  /-- A handler has started a task. -/
  | track (k : Kind) (m : Move)
  | monitor (o : Outside)
  | poller (o : Outside)
  /-- The delay of a removal is over. -/
  | remove (k : Kind) (upid : String)

def track (w : World) (k : Kind) (m : Move) : World :=
  if (k, m.upid) ∈ w.tracked then w
  else
    { w with
      store := w.store.add k { m with progress := 0, status := .running, error := "" }
      tracked := w.tracked ++ [(k, m.upid)] }

/-- Where the monitor is after its write. -/
def written (k : Kind) (m : Move) (todo : List Move) : Write → Monitor
  | .finish outcome => .logging k m todo outcome
  | _ => .checking k todo

def monitorStep (o : Outside) (w : World) : World :=
  match w.monitor with
  | .waiting => { w with monitor := .checking .migration (snapshot o w.store .migration) }
  | .checking .migration [] =>
      { w with monitor := .checking .diskMove (snapshot o w.store .diskMove) }
  | .checking .diskMove [] => { w with monitor := .waiting }
  | .checking k (m :: todo) =>
      match check o (watch k) m with
      | none => { w with monitor := .checking k todo }
      | some v => { w with monitor := .writing k m todo v }
  | .writing k m todo v =>
      { w with store := write w.store k m.upid v, monitor := written k m todo v }
  | .logging k m todo outcome =>
      { w with
        activity := w.activity ++ [((k, m.upid), entry o.now (watch k) m outcome)]
        monitor := .scheduling k m todo }
  | .scheduling k m todo =>
      { w with removals := w.removals ++ [(k, m.upid)], monitor := .checking k todo }

def pollerStep (o : Outside) (w : World) : World :=
  match w.poller with
  | .waiting => { w with poller := .checking (snapshot o w.store .migration) }
  | .checking [] => { w with poller := .waiting }
  | .checking (m :: todo) =>
      match checkStatus o with
      | none => { w with poller := .checking todo }
      | some outcome => { w with poller := .writing m todo outcome }
  | .writing m todo outcome =>
      { w with store := writeStatus w.store m outcome, poller := .scheduling m todo }
  | .scheduling m todo =>
      { w with removals := w.removals ++ [(.migration, m.upid)], poller := .checking todo }

def remove (w : World) (k : Kind) (upid : String) : World :=
  if (k, upid) ∈ w.removals then
    { w with store := w.store.remove k upid, removals := w.removals.erase (k, upid) }
  else w

def go (w : World) : Event → World
  | .track k m => track w k m
  | .monitor o => monitorStep o w
  | .poller o => pollerStep o w
  | .remove k upid => remove w k upid

end Loops

section Steps

variable {o : Outside} {w : World}

/-- All that a step of the monitor can do. -/
inductive MonitorStep (o : Outside) (w : World) : World → Prop where
  | begins : w.monitor = .waiting →
      MonitorStep o w { w with monitor := .checking .migration (snapshot o w.store .migration) }
  | turns : w.monitor = .checking .migration [] →
      MonitorStep o w { w with monitor := .checking .diskMove (snapshot o w.store .diskMove) }
  | ends : w.monitor = .checking .diskMove [] → MonitorStep o w { w with monitor := .waiting }
  | passes (k : Kind) (m : Move) (todo : List Move) : w.monitor = .checking k (m :: todo) →
      check o (watch k) m = none → MonitorStep o w { w with monitor := .checking k todo }
  | finds (k : Kind) (m : Move) (todo : List Move) (v : Write) :
      w.monitor = .checking k (m :: todo) → check o (watch k) m = some v →
        MonitorStep o w { w with monitor := .writing k m todo v }
  | writes (k : Kind) (m : Move) (todo : List Move) (v : Write) :
      w.monitor = .writing k m todo v → MonitorStep o w
        { w with store := write w.store k m.upid v, monitor := written k m todo v }
  | logs (k : Kind) (m : Move) (todo : List Move) (outcome : Outcome) :
      w.monitor = .logging k m todo outcome → MonitorStep o w
        { w with
          activity := w.activity ++ [((k, m.upid), entry o.now (watch k) m outcome)]
          monitor := .scheduling k m todo }
  | schedules (k : Kind) (m : Move) (todo : List Move) :
      w.monitor = .scheduling k m todo → MonitorStep o w
        { w with removals := w.removals ++ [(k, m.upid)], monitor := .checking k todo }

theorem monitorStep_spec (o : Outside) (w : World) : MonitorStep o w (monitorStep o w) := by
  cases phase : w.monitor with
  | waiting =>
      rw [monitorStep, phase]
      exact .begins phase
  | checking k todo =>
      cases todo with
      | nil =>
          cases k with
          | migration =>
              rw [monitorStep, phase]
              exact .turns phase
          | diskMove =>
              rw [monitorStep, phase]
              exact .ends phase
      | cons m todo =>
          cases found : check o (watch k) m with
          | none =>
              have next : monitorStep o w = { w with monitor := .checking k todo } := by
                rw [monitorStep, phase]
                cases k <;> simp only [found]
              rw [next]
              exact .passes k m todo phase found
          | some v =>
              have next : monitorStep o w = { w with monitor := .writing k m todo v } := by
                rw [monitorStep, phase]
                cases k <;> simp only [found]
              rw [next]
              exact .finds k m todo v phase found
  | writing k m todo v =>
      rw [monitorStep, phase]
      exact .writes k m todo v phase
  | logging k m todo outcome =>
      rw [monitorStep, phase]
      exact .logs k m todo outcome phase
  | scheduling k m todo =>
      rw [monitorStep, phase]
      exact .schedules k m todo phase

/-- All that a step of the poller can do. -/
inductive PollerStep (o : Outside) (w : World) : World → Prop where
  | begins : w.poller = .waiting →
      PollerStep o w { w with poller := .checking (snapshot o w.store .migration) }
  | ends : w.poller = .checking [] → PollerStep o w { w with poller := .waiting }
  | passes (m : Move) (todo : List Move) : w.poller = .checking (m :: todo) →
      checkStatus o = none → PollerStep o w { w with poller := .checking todo }
  | finds (m : Move) (todo : List Move) (outcome : Outcome) :
      w.poller = .checking (m :: todo) → checkStatus o = some outcome →
        PollerStep o w { w with poller := .writing m todo outcome }
  | writes (m : Move) (todo : List Move) (outcome : Outcome) :
      w.poller = .writing m todo outcome → PollerStep o w
        { w with store := writeStatus w.store m outcome, poller := .scheduling m todo }
  | schedules (m : Move) (todo : List Move) : w.poller = .scheduling m todo → PollerStep o w
      { w with removals := w.removals ++ [(.migration, m.upid)], poller := .checking todo }

theorem pollerStep_spec (o : Outside) (w : World) : PollerStep o w (pollerStep o w) := by
  cases phase : w.poller with
  | waiting =>
      rw [pollerStep, phase]
      exact .begins phase
  | checking todo =>
      cases todo with
      | nil =>
          rw [pollerStep, phase]
          exact .ends phase
      | cons m todo =>
          rw [pollerStep, phase]
          cases found : checkStatus o with
          | none => exact .passes m todo phase found
          | some outcome => exact .finds m todo outcome phase found
  | writing m todo outcome =>
      rw [pollerStep, phase]
      exact .writes m todo outcome phase
  | scheduling m todo =>
      rw [pollerStep, phase]
      exact .schedules m todo phase

end Steps

end Migrations
