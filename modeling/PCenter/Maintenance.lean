import PCenter.Handlers
import PCenter.Lib.Program
import PCenter.Lib.Thread

/-!
# Maintenance mode of a node

Entering maintenance stores a record for the node, sets the `noout` flag of Ceph and starts
a goroutine that moves the guests away; leaving it clears the flag and removes the record.
Handlers and goroutine share the record by pointer. Each is a program of commands: an access
of the store, a write through a pointer, a call to the outside. A write through a nil
pointer has no answer. The time of entering is left out, and so are the bodies of replies.
-/

namespace Maintenance

open GoText Program GuestTasks Handlers Auth

structure MaintenanceState where
  node : String
  inMaintenance : Bool
  phase : String
  progress : Nat
  message : String
  deriving DecidableEq, Repr

/-- A pointer to a record. -/
abbrev Ref := Nat

/-- The records made so far and the store's `maintenanceStates`. -/
structure Memory where
  records : List MaintenanceState
  maintenanceStates : FiniteMap.Map String Ref

namespace Memory

variable (m : Memory)

def getMaintenanceState (key : String) : Option Ref := m.maintenanceStates.lookup key

/-- A nil state deletes the entry. -/
def setMaintenanceState (key : String) : Option Ref → Memory
  | none => { m with maintenanceStates := m.maintenanceStates.erase key }
  | some state => { m with maintenanceStates := m.maintenanceStates.insert key state }

def alloc (state : MaintenanceState) : Memory := { m with records := m.records ++ [state] }

def write (state : Ref) (change : MaintenanceState → MaintenanceState) : Memory :=
  { m with records := m.records.modify state change }

/-- The record that is stored for a key. -/
def shown (key : String) : Option MaintenanceState :=
  (m.getMaintenanceState key).bind fun state => m.records[state]?

end Memory

/-- The key of the store. -/
def stateKey (cluster node : String) : String := cluster ++ ":" ++ node

inductive Cmd where
  /-- A new record and the first `SetMaintenanceState` of it. -/
  | publish (key : String) (state : MaintenanceState)
  | getMaintenanceState (key : String)
  | setMaintenanceState (key : String) (state : Option Ref)
  /-- Assignments to the fields of a record. -/
  | write (state : Option Ref) (change : MaintenanceState → MaintenanceState)
  | setCephNoout (cluster node : String) (enable : Bool)
  | getCluster (cluster : String)
  /-- `MigrateVM` or `MigrateContainer` of the node's client -/
  | migrate (cluster node : String) (gt : GuestType) (vmid : Int64) (targetNode : String)
      (online : Bool)
  | sleep (seconds : Nat)
  /-- `go h.evacuateNode(...)` -/
  | goEvacuate (cluster node : String) (clients : List String)

abbrev Answer : Cmd → Type
  | .publish _ _ => Ref
  | .getMaintenanceState _ => Option Ref
  | .setMaintenanceState _ _ => Unit
  | .write _ _ => Unit
  | .setCephNoout _ _ _ => Except String Unit
  | .getCluster _ => Option State.ClusterStore
  | .migrate _ _ _ _ _ _ => Except String String
  | .sleep _ => Unit
  | .goEvacuate _ _ _ => Unit

abbrev Code := Prog Cmd Answer

def issue (c : Cmd) : Code (Answer c) := ask c

theorem issue_bind {A : Type} (c : Cmd) (f : Answer c → Code A) :
    issue c >>= f = .act c f := rfl

/-- How an HTTP request ends. -/
abbrev Reply := Except Refusal Unit

/-- `h.poller`, and what its `GetClusterClients` knows. -/
abbrev Poller := Option (String → Option (List String))

section Code

variable (cluster node : String)

/-- The checks that both handlers begin with. -/
def nodeClients (poller : Poller) : Except Refusal (List String) := do
  let getClusterClients ← found poller ⟨503, "feature unavailable in agent-only mode"⟩
  let clients ← found (getClusterClients cluster) ⟨404, "cluster not found"⟩
  refuseIf (node ∉ clients) ⟨404, "node not found"⟩
  .ok clients

def store (state : Option Ref) (change : MaintenanceState → MaintenanceState) :
    Code Unit := do
  issue (.write state change)
  issue (.setMaintenanceState (stateKey cluster node) state)

def enterMaintenanceMode (poller : Poller) : Code Reply :=
  match nodeClients cluster node poller with
  | .error refusal => pure (.error refusal)
  | .ok clients => do
      let state ← issue (.publish (stateKey cluster node)
        ⟨node, true, "starting", 0, "Setting Ceph noout flag..."⟩)
      let noout ← issue (.setCephNoout cluster node true)
      match noout with
      | .error err => do
          store cluster node (some state) fun s =>
            { s with phase := "error", message := "Failed to set noout: " ++ err }
          pure (.error ⟨500, err⟩)
      | .ok _ => do
          store cluster node (some state) fun s =>
            { s with phase := "evacuating", progress := 10,
                     message := "Starting guest evacuation..." }
          issue (.goEvacuate cluster node clients)
          pure (.ok ())

/-- One turn of the loop over the guests. -/
def evacuateGuest (targetNode : String) (total : Nat) (guest : GuestType × Guest) (i : Nat) :
    Code Unit := do
  let state ← issue (.getMaintenanceState (stateKey cluster node))
  store cluster node state fun s =>
    { s with
        progress := 10 + 80 * i / max total 1
        message := "Migrating " ++ guest.2.name ++ " (" ++ toString (i + 1) ++ "/" ++
          toString total ++ ")..." }
  let upid ← issue (.migrate cluster node guest.1 guest.2.vmid targetNode
    (guest.2.status = "running"))
  match upid with
  | .error err =>
      issue (.write state fun s =>
        { s with message := "Failed to migrate " ++ guest.2.name ++ ": " ++ err })
  | .ok _ => issue (.sleep 5)

def evacuateNode (clients : List String) : Code Unit :=
  match targetFor node clients with
  | none => do
      let state ← issue (.getMaintenanceState (stateKey cluster node))
      store cluster node state fun s =>
        { s with phase := "error", message := "No target node available" }
  | some targetNode => do
      let cs ← issue (.getCluster cluster)
      match cs with
      | none => pure ()
      | some cs => do
          let guests := guestsToMigrate cs node
          guests.zipIdx.forM fun (guest, i) =>
            evacuateGuest cluster node targetNode guests.length guest i
          let state ← issue (.getMaintenanceState (stateKey cluster node))
          store cluster node state fun s =>
            { s with phase := "ready", progress := 100,
                     message := "Maintenance mode ready - host can be rebooted" }

def exitMaintenanceMode (poller : Poller) : Code Reply :=
  match nodeClients cluster node poller with
  | .error refusal => pure (.error refusal)
  | .ok _ => do
      let noout ← issue (.setCephNoout cluster node false)
      match noout with
      | .error err => pure (.error ⟨500, "Failed to unset noout: " ++ err⟩)
      | .ok _ => do
          issue (.setMaintenanceState (stateKey cluster node) none)
          pure (.ok ())

end Code

/-- `GetMaintenanceState`: whether the node is reported to be in maintenance. -/
def inMaintenance (cluster node : String) (m : Memory) : Bool :=
  match m.shown (stateKey cluster node) with
  | none => false
  | some state => state.inMaintenance

/-- What the outside answers to one command. -/
structure Outside where
  noout : Except String Unit
  cluster : Option State.ClusterStore
  migration : Except String String

/-- A command on the shared memory. -/
def perform (outside : Outside) : (c : Cmd) → Memory → Option (Answer c × Memory)
  | .publish key state, m =>
      some (m.records.length, (m.alloc state).setMaintenanceState key (some m.records.length))
  | .getMaintenanceState key, m => some (m.getMaintenanceState key, m)
  | .setMaintenanceState key state, m => some ((), m.setMaintenanceState key state)
  | .write none _, _ => none
  | .write (some state) change, m => some ((), m.write state change)
  | .setCephNoout _ _ _, m => some (outside.noout, m)
  | .getCluster _, m => some (outside.cluster, m)
  | .migrate _ _ _ _ _ _, m => some (outside.migration, m)
  | .sleep _, m => some ((), m)
  | .goEvacuate _ _ _, m => some ((), m)

section Memory

variable {m : Memory} {key phase : String} {state : Ref}
  {change : MaintenanceState → MaintenanceState}

@[simp] theorem getMaintenanceState_write :
    (m.write state change).getMaintenanceState key = m.getMaintenanceState key := rfl

@[simp] theorem getMaintenanceState_set (key' : String) (next : Option Ref) :
    (m.setMaintenanceState key' next).getMaintenanceState key =
      if key = key' then next else m.getMaintenanceState key := by
  cases next with
  | none =>
      by_cases same : key = key'
      · subst same
        simp [Memory.setMaintenanceState, Memory.getMaintenanceState]
      · simp [Memory.setMaintenanceState, Memory.getMaintenanceState, same,
          AList.lookup_erase_ne same]
  | some next =>
      simp [Memory.setMaintenanceState, Memory.getMaintenanceState,
        FiniteMap.lookup_insert_eq]

@[simp] theorem records_set (key' : String) (next : Option Ref) :
    (m.setMaintenanceState key' next).records = m.records := by
  cases next <;> rfl

theorem shown_write (stored : m.getMaintenanceState key = some state) :
    (m.write state change).shown key = (m.shown key).map change := by
  rw [Memory.shown, getMaintenanceState_write, Memory.shown, stored]
  simp [Memory.write]

theorem shown_set_same (stored : m.getMaintenanceState key = some state) :
    (m.setMaintenanceState key (some state)).shown key = m.shown key := by
  simp [Memory.shown, stored]

end Memory

end Maintenance
