import PCenter.Handlers
import PCenter.Lib.Slice

/-!
# What is recorded of an applied recommendation

`ApplyDRSRecommendation` of `internal/api/handlers.go` from its lookup to the activity entry,
with no other request beside it. It finds a recommendation as a pointer into the array of the
list, and reads it again after the removal has closed up the array. So the migration, the
tracked migration and the list are right, but the entry shows the recommendation behind the
applied one, unless that was the last: `executed_iff`.
-/

namespace DrsActivity

open Handlers (Client drsGuestType)
open GuestTasks (TaskCall)
open Slices

section Model

/-- `pve.DRSRecommendation`, with what the other handlers do not read. -/
structure DRSRecommendation extends Handlers.DRSRecommendation where
  cluster : String
  guestName : String
  reason : String
  priority : Int64
  createdAt : Int
  deriving DecidableEq, Repr

structure MigrationProgress where
  upid : String
  cluster : String
  vmid : Int64
  guestName : String
  guestType : String
  fromNode : String
  toNode : String
  online : Bool
  startedAt : Int
  progress : Int64
  status : String
  deriving DecidableEq, Repr

/-- `activity.Entry`, with the object whose text is `Details`. -/
structure Entry where
  action : String
  resourceType : String
  resourceID : String
  resourceName : String
  cluster : String
  details : GoJson.Fields
  status : String

structure Store where
  heap : Heap DRSRecommendation
  drsRecommendations : String → Option Slice
  migrations : String → Option MigrationProgress
  /-- No slice is longer than its array. -/
  fits : ∀ c l, drsRecommendations c = some l → l.len ≤ (heap l.array).length

namespace Store

variable (s : Store)

def getDRSRecommendations (cluster : String) : List DRSRecommendation :=
  match s.drsRecommendations cluster with
  | none => []
  | some l => l.view s.heap

def addMigration (m : MigrationProgress) : Store :=
  { s with migrations := Function.update s.migrations m.upid (some m) }

/-- The array after the deletion of place `i`, and the list that is stored for it. -/
def deleted (cluster : String) (l : Slice) (listed : s.drsRecommendations cluster = some l) (i : ℕ)
    (inside : i < l.len) : Store :=
  { s with
    heap := deleteAt s.heap l i
    drsRecommendations := Function.update s.drsRecommendations cluster (some l.shorter)
    fits := by
      intro c m there
      rw [length_deleteAt inside (s.fits cluster l listed)]
      by_cases here : c = cluster
      · subst here
        rw [Function.update_self] at there
        obtain rfl := Option.some.inj there
        exact (Nat.sub_le _ _).trans (s.fits c l listed)
      · rw [Function.update_of_ne here] at there
        exact s.fits c m there }

def removeDRSRecommendation (cluster id : String) : Store :=
  match listed : s.drsRecommendations cluster with
  | none => s
  | some l =>
      if inside : (l.view s.heap).findIdx (·.id = id) < l.len then
        s.deleted cluster l listed ((l.view s.heap).findIdx (·.id = id)) inside
      else s

end Store

/-- The store, what has been sent to the nodes, and the log of activities if there is one. -/
structure World where
  store : Store
  calls : List (Client × TaskCall)
  activity : Option (List Entry)

structure Env where
  getClient : String → String → Option Client
  /-- The answer of the node to a migration: a UPID, or an error. -/
  answer : Client → TaskCall → Except String String
  now : Int

inductive Response where
  | error (status : ℕ) (message : String)
  | started (upid : String)
  deriving DecidableEq, Repr

def tracked (env : Env) (cluster upid : String) (r : DRSRecommendation) : MigrationProgress where
  upid := upid
  cluster := cluster
  vmid := r.vmid
  guestName := r.guestName
  guestType := r.guestType
  fromNode := r.fromNode
  toNode := r.toNode
  online := true
  startedAt := env.now
  progress := 0
  status := "running"

/-- The keys of a marshalled map stand in their order. -/
def entry (cluster upid : String) (r : DRSRecommendation) : Entry where
  action := "drs_apply"
  resourceType := r.guestType
  resourceID := GoText.itoa r.vmid
  resourceName := r.guestName
  cluster := cluster
  details :=
    [("drs_reason", .str r.reason), ("from_node", .str r.fromNode), ("online", .bool true),
      ("to_node", .str r.toNode), ("upid", .str upid)]
  status := "started"

def World.log (w : World) (e : Entry) : World :=
  { w with activity := w.activity.map (· ++ [e]) }

def migration (r : DRSRecommendation) : TaskCall :=
  .migrate (drsGuestType r.guestType) r.vmid r.toNode true

/-- `found` is a place of the array. It is read again after the removal, when the deletion has
filled the place with what stood behind it. -/
def applyDRSRecommendation (env : Env) (cluster id : String) (w : World) : Response × World :=
  let recs := w.store.getDRSRecommendations cluster
  let array := (w.store.drsRecommendations cluster).map Slice.array
  let i := recs.findIdx (·.id = id)
  match recs[i]? with
  | none => (.error 404 "recommendation not found", w)
  | some found =>
      match env.getClient cluster found.fromNode with
      | none => (.error 500 "source node client not found", w)
      | some client =>
          let w := { w with calls := w.calls ++ [(client, migration found)] }
          match env.answer client (migration found) with
          | .error err => (.error 500 ("migration failed: " ++ err), w)
          | .ok upid =>
              let store := (w.store.addMigration (tracked env cluster upid found))
                |>.removeDRSRecommendation cluster id
              let shown := (array.bind fun a => (store.heap a)[i]?).getD found
              (.started upid, { w with store }.log (entry cluster upid shown))

end Model

section Property

def Tracks (m : MigrationProgress) (cluster : String) (r : DRSRecommendation) : Prop :=
  m.cluster = cluster ∧ m.guestType = r.guestType ∧ m.vmid = r.vmid ∧ m.guestName = r.guestName ∧
    m.fromNode = r.fromNode ∧ m.toNode = r.toNode

def Describes (e : Entry) (cluster : String) (r : DRSRecommendation) : Prop :=
  e.cluster = cluster ∧ e.resourceType = r.guestType ∧ e.resourceID = GoText.itoa r.vmid ∧
    e.resourceName = r.guestName ∧ GoJson.field e.details "from_node" = .str r.fromNode ∧
    GoJson.field e.details "to_node" = .str r.toNode

/-- The recommendation `r`, at place `i` of its list, is recorded as executed. -/
structure Executed (w : World) (client : Client) (i : ℕ) (cluster : String) (r : DRSRecommendation)
    (response : Response) (w' : World) : Prop where
  migrates : w'.calls = w.calls ++ [(client, migration r)]
  tracks : ∃ upid m, response = .started upid ∧ w'.store.migrations upid = some m ∧
    Tracks m cluster r
  logs : ∀ log, w.activity = some log → ∃ e, w'.activity = some (log ++ [e]) ∧
    Describes e cluster r
  removes : w'.store.getDRSRecommendations cluster =
    (w.store.getDRSRecommendations cluster).eraseIdx i

/-- The same guest is moved between the same nodes. -/
def SameMove (r next : DRSRecommendation) : Prop :=
  next.guestType = r.guestType ∧ next.vmid = r.vmid ∧ next.guestName = r.guestName ∧
    next.fromNode = r.fromNode ∧ next.toNode = r.toNode

theorem describes_entry_iff {cluster upid : String} {r next : DRSRecommendation} :
    Describes (entry cluster upid next) cluster r ↔ SameMove r next := by
  have fromNode : GoJson.field (entry cluster upid next).details "from_node" =
      .str next.fromNode := rfl
  have toNode : GoJson.field (entry cluster upid next).details "to_node" = .str next.toNode := rfl
  rw [Describes, SameMove, fromNode, toNode]
  constructor
  · rintro ⟨-, type, vmid, name, source, target⟩
    exact ⟨type, GoText.itoa_injective vmid, name, GoJson.Json.str.inj source,
      GoJson.Json.str.inj target⟩
  · rintro ⟨type, vmid, name, source, target⟩
    exact ⟨rfl, type, congrArg GoText.itoa vmid, name, congrArg GoJson.Json.str source,
      congrArg GoJson.Json.str target⟩

end Property

section Removal

variable {s : Store} {cluster id : String} {l : Slice} {i : ℕ}

theorem getDRSRecommendations_eq (listed : s.drsRecommendations cluster = some l) :
    s.getDRSRecommendations cluster = l.view s.heap := by
  rw [Store.getDRSRecommendations, listed]

theorem removeDRSRecommendation_eq (listed : s.drsRecommendations cluster = some l)
    (first : (l.view s.heap).findIdx (·.id = id) = i) (inside : i < l.len) :
    s.removeDRSRecommendation cluster id = s.deleted cluster l listed i inside := by
  subst first
  rw [Store.removeDRSRecommendation]
  split
  · rename_i none_
    rw [none_] at listed
    cases listed
  · rename_i l' listed'
    obtain rfl := Option.some.inj (listed'.symm.trans listed)
    exact dif_pos inside

theorem getDRSRecommendations_deleted (listed : s.drsRecommendations cluster = some l)
    (inside : i < l.len) :
    (s.deleted cluster l listed i inside).getDRSRecommendations cluster =
      (l.view s.heap).eraseIdx i := by
  have now : (s.deleted cluster l listed i inside).drsRecommendations cluster = some l.shorter :=
    Function.update_self ..
  rw [getDRSRecommendations_eq now]
  exact view_deleteAt inside (s.fits cluster l listed)

theorem heap_deleted (listed : s.drsRecommendations cluster = some l) (inside : i < l.len) :
    ((s.deleted cluster l listed i inside).heap l.array)[i]? =
      ((l.view s.heap)[i + 1]?).or (l.view s.heap)[i]? := by
  have fits := s.fits cluster l listed
  have array : (s.deleted cluster l listed i inside).heap l.array =
      closeUp (s.heap l.array) l.len i := Function.update_self ..
  rw [array, getElem?_closeUp_self inside fits, Slice.view, List.getElem?_take_of_lt inside]
  split_ifs with followed
  · rw [List.getElem?_take_of_lt followed, List.getElem?_eq_getElem (by omega)]
    rfl
  · rw [List.getElem?_take_eq_none (by omega)]
    rfl

end Removal

section Outcome

variable {env : Env} {w : World} {cluster id upid : String} {r : DRSRecommendation}
variable {client : Client} {i : ℕ}

/-- What a request does that finds `r`, and whose migration is accepted. -/
theorem apply_eq (first : (w.store.getDRSRecommendations cluster).findIdx (·.id = id) = i)
    (here : (w.store.getDRSRecommendations cluster)[i]? = some r)
    (reached : env.getClient cluster r.fromNode = some client)
    (accepted : env.answer client (migration r) = .ok upid) :
    ∃ l, ∃ listed : w.store.drsRecommendations cluster = some l, ∃ inside : i < l.len,
      applyDRSRecommendation env cluster id w =
        (.started upid,
          { store := (w.store.addMigration (tracked env cluster upid r)).deleted cluster l listed i
              inside
            calls := w.calls ++ [(client, migration r)]
            activity := w.activity.map (· ++ [entry cluster upid
              (((w.store.getDRSRecommendations cluster)[i + 1]?).getD r)]) }) := by
  obtain ⟨l, listed⟩ : ∃ l, w.store.drsRecommendations cluster = some l := by
    cases listed : w.store.drsRecommendations cluster with
    | none => simp [Store.getDRSRecommendations, listed] at here
    | some l => exact ⟨l, rfl⟩
  have view := getDRSRecommendations_eq listed
  have inside : i < l.len := by
    have bound := (List.getElem?_eq_some_iff.mp here).1
    rw [view, Slice.view, List.length_take] at bound
    omega
  refine ⟨l, listed, inside, ?_⟩
  have removed := @removeDRSRecommendation_eq
    (w.store.addMigration (tracked env cluster upid r)) cluster id l i listed
    (by rw [← first, view]; rfl) inside
  have place := @heap_deleted (w.store.addMigration (tracked env cluster upid r)) cluster l i
    listed inside
  have same : l.view (w.store.addMigration (tracked env cluster upid r)).heap =
      w.store.getDRSRecommendations cluster := view.symm
  rw [same, here] at place
  simp only [applyDRSRecommendation, first, here, reached, accepted, listed, Option.map_some,
    Option.bind_some, removed, place, World.log]
  cases (w.store.getDRSRecommendations cluster)[i + 1]? <;> rfl

/-- An applied recommendation is recorded as executed precisely if there is no log, or it is the
last of its list, or the next one moves the same guest between the same nodes. -/
theorem executed_iff
    (first : (w.store.getDRSRecommendations cluster).findIdx (·.id = id) = i)
    (here : (w.store.getDRSRecommendations cluster)[i]? = some r)
    (reached : env.getClient cluster r.fromNode = some client)
    (accepted : env.answer client (migration r) = .ok upid) :
    Executed w client i cluster r (applyDRSRecommendation env cluster id w).1
        (applyDRSRecommendation env cluster id w).2 ↔
      w.activity = none ∨
        ∀ next ∈ (w.store.getDRSRecommendations cluster)[i + 1]?, SameMove r next := by
  obtain ⟨l, listed, inside, result⟩ := apply_eq first here reached accepted
  rw [result]
  constructor
  · intro executed
    cases log : w.activity with
    | none => exact .inl rfl
    | some log' =>
        refine .inr fun next behind => ?_
        obtain ⟨e, logged, describes⟩ := executed.logs log' log
        rw [log, Option.mem_def.mp behind] at logged
        have same := List.append_cancel_left (Option.some.inj logged)
        obtain rfl := (List.cons.inj same).1
        exact describes_entry_iff.mp describes
  · intro condition
    refine ⟨rfl, ⟨upid, _, rfl, Function.update_self .., rfl, rfl, rfl, rfl, rfl, rfl⟩, ?_, ?_⟩
    · intro log logged
      refine ⟨_, congrArg (Option.map _) logged, describes_entry_iff.mpr ?_⟩
      have behind := condition.resolve_left (by simp [logged])
      cases next : (w.store.getDRSRecommendations cluster)[i + 1]? with
      | none => exact ⟨rfl, rfl, rfl, rfl, rfl⟩
      | some other => exact behind other (by rw [next]; rfl)
    · have removed := @getDRSRecommendations_deleted
        (w.store.addMigration (tracked env cluster upid r)) cluster l i listed inside
      rw [getDRSRecommendations_eq listed]
      exact removed

end Outcome

section Lab

def labRec (id : String) (vmid : Int64) (guestName fromNode toNode : String) :
    DRSRecommendation where
  id := id
  guestType := "vm"
  vmid := vmid
  fromNode := fromNode
  toNode := toNode
  cluster := "lab"
  guestName := guestName
  reason := "CPU load"
  priority := 3
  createdAt := 0

/-- Two recommendations are listed. -/
def labStore : Store where
  heap a :=
    if a = 0 then [labRec "a" 100 "web" "pve1" "pve2", labRec "b" 101 "db" "pve1" "pve3"] else []
  drsRecommendations c := if c = "lab" then some ⟨0, 2⟩ else none
  migrations _ := none
  fits := by
    intro c l listed
    split at listed
    · obtain rfl := Option.some.inj listed
      exact le_refl 2
    · cases listed

def labWorld : World := ⟨labStore, [], some []⟩

def labEnv : Env where
  getClient cluster node := some ⟨cluster, node⟩
  answer _ _ := .ok "UPID:pve1:1"
  now := 0

theorem last_recorded :
    Executed labWorld ⟨"lab", "pve1"⟩ 1 "lab" (labRec "b" 101 "db" "pve1" "pve3")
      (applyDRSRecommendation labEnv "lab" "b" labWorld).1
      (applyDRSRecommendation labEnv "lab" "b" labWorld).2 :=
  (executed_iff (by decide) (by decide) rfl rfl).mpr (.inr (by simp [labWorld, labStore,
    Store.getDRSRecommendations, Slice.view]))

/-- The entry for the first of two shows the second. -/
theorem first_misrecorded : ¬∀ (env : Env) (w : World) (cluster id upid : String) (i : ℕ)
    (r : DRSRecommendation) (client : Client),
    (w.store.getDRSRecommendations cluster).findIdx (·.id = id) = i →
    (w.store.getDRSRecommendations cluster)[i]? = some r →
    env.getClient cluster r.fromNode = some client →
    env.answer client (migration r) = .ok upid →
    Executed w client i cluster r (applyDRSRecommendation env cluster id w).1
      (applyDRSRecommendation env cluster id w).2 := by
  intro always
  have executed := always labEnv labWorld "lab" "a" "UPID:pve1:1" 0
    (labRec "a" 100 "web" "pve1" "pve2") ⟨"lab", "pve1"⟩ (by decide) (by decide) rfl rfl
  obtain ⟨l, listed, inside, result⟩ := @apply_eq labEnv labWorld "lab" "a" "UPID:pve1:1"
    (labRec "a" 100 "web" "pve1" "pve2") ⟨"lab", "pve1"⟩ 0 (by decide) (by decide) rfl rfl
  rw [result] at executed
  obtain ⟨e, logged, describes⟩ := executed.logs [] rfl
  have same := List.append_cancel_left (Option.some.inj logged)
  obtain rfl := (List.cons.inj same).1
  exact absurd (describes_entry_iff.mp describes).2.1 (by decide)

end Lab

end DrsActivity
