import PCenter.Maintenance

/-!
# What an evacuation has done when it reports that it is ready

The goroutine that moves a node's guests away, run without disturbance and with a clock.
PVE rejects each migration or starts a task for it, which ends some time later, well or
badly, or never. The goroutine asks for the migrations one after another, pauses for a fixed
time after each that was accepted, and then reports that the node is ready.
-/

namespace Maintenance

open Program GuestTasks Handlers

inductive TaskState where
  | running
  | failed
  | succeeded
  deriving DecidableEq, Repr

/-- A migration task that PVE accepted. -/
structure Task where
  upid : String
  /-- The milliseconds until it ends, if it ever does. -/
  ends : Option Nat
  succeeds : Bool
  deriving DecidableEq, Repr

/-- The state of a task so many milliseconds after its start. -/
def Task.stateAfter (task : Task) (elapsed : Nat) : TaskState :=
  match task.ends with
  | none => .running
  | some duration =>
      if elapsed < duration then .running
      else if task.succeeds then .succeeded
      else .failed

/-- What the outside does to an evacuation; migration requests are numbered. -/
structure Plan where
  cluster : Option State.ClusterStore
  /-- The milliseconds until a request is answered. -/
  latency : Nat → Nat
  migration : Nat → Except String Task

/-- A migration request that was answered. -/
structure Asked where
  gt : GuestType
  vmid : Int64
  targetNode : String
  online : Bool
  answer : Except String Task
  time : Nat

/-- A goroutine that nobody disturbs. -/
structure Alone where
  memory : Memory
  clock : Nat
  asked : List Asked

variable (plan : Plan)

def Plan.outside (i : Nat) : Outside :=
  ⟨.ok (), plan.cluster, (plan.migration i).map Task.upid⟩

/-- Time passes in requests and in `time.Sleep`. -/
def Alone.spend (s : Alone) : Cmd → Alone
  | .migrate _ _ gt vmid targetNode online =>
      let i := s.asked.length
      let answered := s.clock + plan.latency i
      let request := ⟨gt, vmid, targetNode, online, plan.migration i, answered⟩
      { s with clock := answered, asked := s.asked ++ [request] }
  | .sleep seconds => { s with clock := s.clock + 1000 * seconds }
  | _ => s

def serve (c : Cmd) (s : Alone) : Option (Answer c × Alone) :=
  (perform (plan.outside s.asked.length) c s.memory).map fun answer =>
    (answer.1, { s.spend plan c with memory := answer.2 })

/-- The guest's task has ended well by now. -/
def Alone.Migrated (s : Alone) (guest : GuestType × Guest) : Prop :=
  ∃ request ∈ s.asked, request.gt = guest.1 ∧ request.vmid = guest.2.vmid ∧
    ∃ task, request.answer = .ok task ∧
      task.stateAfter (s.clock - request.time) = .succeeded

/-- The guests that a cluster's store records on a node. -/
def OnNode (cs : State.ClusterStore) (node : String) (guest : GuestType × Guest) : Prop :=
  guest.2.node = node ∧
    match guest.1 with
    | .vm => ∃ vm ∈ FiniteMap.values cs.vms, guest.2 = ofVM vm
    | .ct => ∃ ct ∈ FiniteMap.values cs.containers, guest.2 = ofContainer ct

theorem mem_critical_first {vms : List Guest} {guest : GuestType × Guest} :
    ∀ first : List (GuestType × Guest),
      guest ∈ vms.foldl (fun guests vm =>
          if isCritical vm.name then (.vm, vm) :: guests else guests ++ [(.vm, vm)]) first ↔
        guest ∈ first ∨ ∃ vm ∈ vms, guest = (.vm, vm) := by
  induction vms with
  | nil => simp
  | cons vm vms ih =>
      intro first
      rw [List.foldl_cons, ih]
      by_cases critical : isCritical vm.name
      · simp only [critical, if_true, List.mem_cons, exists_eq_or_imp]
        tauto
      · simp only [critical, if_false, List.mem_append, List.mem_cons, exists_eq_or_imp,
          Bool.false_eq_true]
        tauto

theorem mem_guestsToMigrate {cs : State.ClusterStore} {node : String}
    {guest : GuestType × Guest} :
    guest ∈ guestsToMigrate cs node ↔ OnNode cs node guest := by
  obtain ⟨gt, guest⟩ := guest
  rw [guestsToMigrate, List.mem_append, mem_critical_first, OnNode]
  cases gt <;> simp <;> aesop

/-- The pause after a request. -/
def Plan.pause (i : Nat) : Nat :=
  match plan.migration i with
  | .ok _ => 5000
  | .error _ => 0

/-- The milliseconds that `n` requests take, from number `i` on. -/
def Plan.span : Nat → Nat → Nat
  | _, 0 => 0
  | i, n + 1 => plan.latency i + plan.pause i + Plan.span (i + 1) n

/-- The requests for some guests, from number `i` on. -/
def Plan.requests (target : String) : Nat → Nat → List (GuestType × Guest) → List Asked
  | _, _, [] => []
  | i, clock, guest :: rest =>
      let answered := clock + plan.latency i
      ⟨guest.1, guest.2.vmid, target, guest.2.status = "running", plan.migration i, answered⟩ ::
        Plan.requests target (i + 1) (answered + plan.pause i) rest

/-- Some request for the guest is accepted and its task ends well within the pause after it
and the time of the requests that follow. -/
def Plan.InTime (guests : List (GuestType × Guest)) (guest : GuestType × Guest) : Prop :=
  ∃ i other task duration, guests[i]? = some other ∧ other.1 = guest.1 ∧
    other.2.vmid = guest.2.vmid ∧ plan.migration i = .ok task ∧ task.succeeds = true ∧
    task.ends = some duration ∧ duration ≤ 5000 + plan.span (i + 1) (guests.length - (i + 1))

variable {plan}

theorem span_add (i k n : Nat) : plan.span i (k + n) = plan.span i k + plan.span (i + k) n := by
  induction k generalizing i with
  | zero => simp [Plan.span]
  | succ k ih =>
      have apart : k + 1 + n = k + n + 1 := by omega
      have further : i + 1 + k = i + (k + 1) := by omega
      rw [apart, Plan.span, ih, Plan.span, further]
      omega

theorem mem_requests {target : String} {guests : List (GuestType × Guest)} {request : Asked}
    (i clock : Nat) :
    request ∈ plan.requests target i clock guests ↔
      ∃ k guest, guests[k]? = some guest ∧
        request = ⟨guest.1, guest.2.vmid, target, guest.2.status = "running",
          plan.migration (i + k), clock + plan.span i k + plan.latency (i + k)⟩ := by
  induction guests generalizing i clock with
  | nil => simp [Plan.requests]
  | cons first rest ih =>
      rw [Plan.requests, List.mem_cons, ih]
      constructor
      · rintro (rfl | ⟨k, guest, at_k, rfl⟩)
        · exact ⟨0, first, rfl, by simp [Plan.span]⟩
        · refine ⟨k + 1, guest, at_k, ?_⟩
          have further : i + 1 + k = i + (k + 1) := by omega
          simp only [further, Plan.span, Asked.mk.injEq, true_and]
          omega
      · rintro ⟨_ | k, guest, at_k, rfl⟩
        · obtain rfl : first = guest := by simpa using at_k
          exact .inl (by simp [Plan.span])
        · refine .inr ⟨k, guest, at_k, ?_⟩
          have further : i + 1 + k = i + (k + 1) := by omega
          simp only [further, Plan.span, Asked.mk.injEq, true_and]
          omega

theorem stateAfter_eq_succeeded_iff {task : Task} {elapsed : Nat} :
    task.stateAfter elapsed = .succeeded ↔
      task.succeeds = true ∧ ∃ duration, task.ends = some duration ∧ duration ≤ elapsed := by
  rw [Task.stateAfter]
  cases task.ends with
  | none => simp
  | some duration =>
      simp only
      split_ifs with early good
      · simp [Nat.not_le.mpr early]
      · simp [good, Nat.not_lt.mp early]
      · simp [good]

/-- The node is reported to be in a phase. -/
def Shows (cluster node : String) (m : Memory) (phase : String) : Prop :=
  ∃ record, m.shown (stateKey cluster node) = some record ∧ record.phase = phase

def Alone.start (m : Memory) : Alone := ⟨m, 0, []⟩

section Runs

variable {cluster node : String} {clients : List String} {m : Memory} {state : Ref}

/-- The node's record is stored under a pointer. -/
def Kept (cluster node : String) (m : Memory) (state : Ref) : Prop :=
  m.getMaintenanceState (stateKey cluster node) = some state ∧
    (m.shown (stateKey cluster node)).isSome

theorem kept_write (kept : Kept cluster node m state)
    (change : MaintenanceState → MaintenanceState) :
    Kept cluster node (m.write state change) state := by
  refine ⟨kept.1, ?_⟩
  rw [shown_write kept.1, Option.isSome_map]
  exact kept.2

theorem kept_set (kept : Kept cluster node m state) :
    Kept cluster node (m.setMaintenanceState (stateKey cluster node) (some state)) state := by
  refine ⟨by simp, ?_⟩
  rw [shown_set_same kept.1]
  exact kept.2

theorem exec_store (s : Alone) (change : MaintenanceState → MaintenanceState) :
    exec (serve plan) (store cluster node (some state) change) s =
      let m := s.memory.write state change
      some ((), { s with memory := m.setMaintenanceState (stateKey cluster node) state }) := rfl

theorem exec_getMaintenanceState {A : Type} {s : Alone} (kept : Kept cluster node s.memory state)
    (next : Option Ref → Code A) :
    exec (serve plan) (.act (.getMaintenanceState (stateKey cluster node)) next) s =
      exec (serve plan) (next (some state)) s := by
  rw [← kept.1]
  rfl

theorem exec_getCluster {A : Type} (s : Alone) (name : String)
    (next : Option State.ClusterStore → Code A) :
    exec (serve plan) (issue (.getCluster name) >>= next) s =
      exec (serve plan) (next plan.cluster) s := rfl

theorem exec_migrate {A : Type} (s : Alone) (guest : GuestType × Guest) (target : String)
    (next : Except String String → Code A) :
    exec (serve plan) (issue (.migrate cluster node guest.1 guest.2.vmid target
        (guest.2.status = "running")) >>= next) s =
      exec (serve plan) (next ((plan.migration s.asked.length).map Task.upid))
        ⟨s.memory, s.clock + plan.latency s.asked.length,
          s.asked ++ plan.requests target s.asked.length s.clock [guest]⟩ := rfl

theorem exec_evacuateGuest {s : Alone} (kept : Kept cluster node s.memory state)
    (target : String) (total : Nat) (guest : GuestType × Guest) (i : Nat) :
    ∃ m, Kept cluster node m state ∧
      exec (serve plan) (evacuateGuest cluster node target total guest i) s =
        some ((), ⟨m, s.clock + plan.latency s.asked.length + plan.pause s.asked.length,
          s.asked ++ plan.requests target s.asked.length s.clock [guest]⟩) := by
  rw [evacuateGuest, issue_bind, exec_getMaintenanceState kept, exec_bind, exec_store]
  simp only [Option.bind_some]
  rw [exec_migrate, Plan.pause]
  have stored := kept_set (kept_write kept fun s =>
    { s with
        progress := 10 + 80 * i / max total 1
        message := "Migrating " ++ guest.2.name ++ " (" ++ toString (i + 1) ++ "/" ++
          toString total ++ ")..." })
  cases plan.migration s.asked.length with
  | error err => exact ⟨_, kept_write stored _, rfl⟩
  | ok task => exact ⟨_, stored, rfl⟩

theorem requests_cons (plan : Plan) (target : String) (i clock : Nat)
    (guest : GuestType × Guest) (rest : List (GuestType × Guest)) :
    plan.requests target i clock (guest :: rest) = plan.requests target i clock [guest] ++
      plan.requests target (i + 1) (clock + plan.latency i + plan.pause i) rest := rfl

/-- The loop makes one request for each guest, in order. -/
theorem exec_guests (target : String) (total : Nat) (guests : List (GuestType × Guest)) :
    ∀ (k : Nat) (s : Alone), Kept cluster node s.memory state →
      ∃ m, Kept cluster node m state ∧
        exec (serve plan) ((guests.zipIdx k).forM fun (guest, i) =>
            evacuateGuest cluster node target total guest i) s =
          some ((), ⟨m, s.clock + plan.span s.asked.length guests.length,
            s.asked ++ plan.requests target s.asked.length s.clock guests⟩) := by
  induction guests with
  | nil =>
      intro k s kept
      exact ⟨s.memory, kept, by simp [Plan.span, Plan.requests]⟩
  | cons guest rest ih =>
      intro k s kept
      obtain ⟨m, turned, first⟩ := exec_evacuateGuest kept target total guest k
      obtain ⟨m', kept', later⟩ := ih (k + 1) ⟨m, s.clock + plan.latency s.asked.length +
        plan.pause s.asked.length, s.asked ++ plan.requests target s.asked.length s.clock [guest]⟩ turned
      refine ⟨m', kept', ?_⟩
      change exec (serve plan) (evacuateGuest cluster node target total guest k >>= fun _ =>
        (rest.zipIdx (k + 1)).forM fun (guest, i) =>
          evacuateGuest cluster node target total guest i) s = _
      rw [exec_bind, first, Option.bind_some, later]
      have one : (s.asked ++ plan.requests target s.asked.length s.clock [guest]).length =
          s.asked.length + 1 := by simp [Plan.requests]
      rw [one, requests_cons plan target _ _ guest rest, List.append_assoc, List.length_cons,
        Plan.span]
      simp only [Nat.add_assoc]

theorem kept_of_shows {phase : String} (shows' : Shows cluster node m phase) :
    ∃ state, Kept cluster node m state := by
  obtain ⟨record, shown, _⟩ := shows'
  obtain ⟨state, stored, _⟩ := Option.bind_eq_some_iff.mp shown
  exact ⟨state, stored, by simp [shown]⟩

theorem exec_store_shows {s : Alone} (kept : Kept cluster node s.memory state) {phase : String}
    {change : MaintenanceState → MaintenanceState} (sets : ∀ s, (change s).phase = phase) :
    ∃ m', Shows cluster node m' phase ∧
      exec (serve plan) (store cluster node (some state) change) s =
        some ((), { s with memory := m' }) := by
  obtain ⟨record, shown⟩ := Option.isSome_iff_exists.mp kept.2
  refine ⟨_, ⟨change record, ?_, sets record⟩, exec_store s change⟩
  have stored : (s.memory.write state change).getMaintenanceState (stateKey cluster node) =
      some state := kept.1
  rw [shown_set_same stored, shown_write kept.1, shown, Option.map_some]

theorem exec_evacuateNode_ready (kept : Kept cluster node m state) {target : String}
    {cs : State.ClusterStore} (chosen : targetFor node clients = some target)
    (found : plan.cluster = some cs) :
    ∃ m', Shows cluster node m' "ready" ∧
      exec (serve plan) (evacuateNode cluster node clients) (Alone.start m) =
        some ((), ⟨m', plan.span 0 (guestsToMigrate cs node).length,
          plan.requests target 0 0 (guestsToMigrate cs node)⟩) := by
  obtain ⟨m', kept', moved⟩ := exec_guests target
    (guestsToMigrate cs node).length (guestsToMigrate cs node) 0 (Alone.start m) kept
  rw [evacuateNode, chosen]
  simp only
  rw [exec_getCluster, found]
  simp only
  rw [exec_bind, moved, Option.bind_some, issue_bind, exec_getMaintenanceState kept']
  refine (exec_store_shows kept' ?_).imp fun m'' ended => ⟨ended.1, ended.2.trans ?_⟩
  · intro s
    rfl
  · simp [Alone.start]

theorem exec_evacuateNode_none (kept : Kept cluster node m state)
    (alone : targetFor node clients = none) :
    ∃ m', Shows cluster node m' "error" ∧
      exec (serve plan) (evacuateNode cluster node clients) (Alone.start m) =
        some ((), ⟨m', 0, []⟩) := by
  rw [evacuateNode, alone]
  simp only
  rw [issue_bind, exec_getMaintenanceState kept]
  refine (exec_store_shows kept ?_).imp fun m' ended => ⟨ended.1, ended.2⟩
  intro s
  rfl

theorem migrated_iff_inTime {m' : Memory} {target : String} {guests : List (GuestType × Guest)}
    {guest : GuestType × Guest} :
    (⟨m', plan.span 0 guests.length, plan.requests target 0 0 guests⟩ : Alone).Migrated guest ↔
      plan.InTime guests guest := by
  have left : ∀ k, k < guests.length → ∀ task, plan.migration k = .ok task →
      plan.span 0 guests.length - (0 + plan.span 0 k + plan.latency k) =
        5000 + plan.span (k + 1) (guests.length - (k + 1)) := by
    intro k inside task accepted
    have whole : guests.length = k + (guests.length - (k + 1) + 1) := by omega
    have split := @span_add plan 0 k (guests.length - (k + 1) + 1)
    rw [← whole, Nat.zero_add, Plan.span, Plan.pause, accepted] at split
    simp only at split
    omega
  constructor
  · rintro ⟨request, listed, sameType, sameId, task, accepted, ended⟩
    obtain ⟨k, other, at_k, rfl⟩ := (mem_requests 0 0).mp listed
    obtain ⟨inside, _⟩ := List.getElem?_eq_some_iff.mp at_k
    obtain ⟨good, duration, ends, early⟩ := stateAfter_eq_succeeded_iff.mp ended
    rw [Nat.zero_add] at accepted
    rw [Nat.zero_add, left k inside task accepted] at early
    exact ⟨k, other, task, duration, at_k, sameType, sameId, accepted, good, ends, early⟩
  · rintro ⟨k, other, task, duration, at_k, sameType, sameId, accepted, good, ends, early⟩
    obtain ⟨inside, _⟩ := List.getElem?_eq_some_iff.mp at_k
    refine ⟨_, (mem_requests 0 0).mpr ⟨k, other, at_k, rfl⟩, sameType, sameId, task, ?_, ?_⟩
    · rwa [Nat.zero_add]
    · rw [stateAfter_eq_succeeded_iff, Nat.zero_add, left k inside task accepted]
      exact ⟨good, duration, ends, early⟩

/-- The requests are the ones that the handler's model sends. -/
theorem asked_eq_sent {env : Env} (target : String) {cs : State.ClusterStore}
    (chosen : targetFor node clients = some target) (stored : env.store.getCluster cluster = some cs)
    (i clock : Nat) :
    (plan.requests target i clock (guestsToMigrate cs node)).map (fun request =>
        Sent.task ⟨cluster, node⟩
          (.migrate request.gt request.vmid request.targetNode request.online)) =
      Handlers.evacuateNode env cluster node clients := by
  rw [Handlers.evacuateNode, chosen]
  simp only [stored]
  generalize guestsToMigrate cs node = guests
  induction guests generalizing i clock with
  | nil => rfl
  | cons guest rest ih => rw [Plan.requests, List.map_cons, List.map_cons, ih]

/-- The goroutine is started with the record that entering maintenance leaves. -/
theorem enterMaintenanceMode_shows {poller : Poller}
    (known : nodeClients cluster node poller = .ok clients) (m : Memory) :
    ∃ s, exec (serve plan) (enterMaintenanceMode cluster node poller) (Alone.start m) =
        some (.ok (), s) ∧ Shows cluster node s.memory "evacuating" := by
  rw [enterMaintenanceMode, known]
  refine ⟨_, rfl, ⟨node, true, "evacuating", 10, "Starting guest evacuation..."⟩, ?_, rfl⟩
  simp [Memory.shown, Memory.write, Memory.alloc]

/-- An evacuation that reports that it is ready has moved every recorded guest iff PVE accepts
a migration of each one and completes it within the pause after it and the time of the
requests that follow. -/
theorem ready_iff_inTime (plan : Plan) (cluster node : String) (clients : List String)
    (m : Memory) (entered : Shows cluster node m "evacuating") :
    (∀ s, exec (serve plan) (evacuateNode cluster node clients) (Alone.start m) = some ((), s) →
      Shows cluster node s.memory "ready" → ∀ cs, plan.cluster = some cs →
        ∀ guest, OnNode cs node guest → s.Migrated guest) ↔
      ∀ target cs, targetFor node clients = some target → plan.cluster = some cs →
        ∀ guest, OnNode cs node guest → plan.InTime (guestsToMigrate cs node) guest := by
  obtain ⟨state, kept⟩ := kept_of_shows entered
  constructor
  · intro evacuated target cs chosen found guest hosted
    obtain ⟨m', ready, ran⟩ := exec_evacuateNode_ready kept chosen found
    exact migrated_iff_inTime.mp (evacuated _ ran ready cs found guest hosted)
  · intro inTime s ran ready cs found guest hosted
    cases chosen : targetFor node clients with
    | none =>
        obtain ⟨m', failed, ran'⟩ := @exec_evacuateNode_none plan cluster node clients m state kept chosen
        have same : s = _ := congrArg Prod.snd (Option.some.inj (ran.symm.trans ran'))
        obtain ⟨record, shown, isReady⟩ := ready
        obtain ⟨record', shown', isError⟩ := failed
        rw [same, shown'] at shown
        obtain rfl : record' = record := Option.some.inj shown
        rw [isError] at isReady
        exact absurd isReady (by decide)
    | some target =>
        obtain ⟨m', _, ran'⟩ := exec_evacuateNode_ready kept chosen found
        have same : s = _ := congrArg Prod.snd (Option.some.inj (ran.symm.trans ran'))
        rw [same]
        exact migrated_iff_inTime.mpr (inTime target cs chosen found guest hosted)

end Runs

section Lab

/-- VM 100 runs on the node `pve1` of the cluster `lab`. -/
def labCluster : State.ClusterStore :=
  { State.ClusterStore.new "lab" with
    vms := (∅ : FiniteMap.Map Int64 Pve.VM).insert 100
      ⟨"lab", 100, "db", "pve1", "running", 0, 2, 0, 0, 0, 0, 0, 0, 0, 0, 0, false, "", "", []⟩ }

def labPlan (answer : Except String Task) : Plan := ⟨some labCluster, fun _ => 200, fun _ => answer⟩

/-- The node has just entered maintenance. -/
def labMemory : Memory :=
  ⟨[⟨"pve1", true, "evacuating", 10, "Starting guest evacuation..."⟩],
    (∅ : FiniteMap.Map String Ref).insert "lab:pve1" 0⟩

theorem labMemory_shows : Shows "lab" "pve1" labMemory "evacuating" := ⟨_, rfl, rfl⟩

theorem labGuest_onNode :
    ∃ guest, guestsToMigrate labCluster "pve1" = [(.vm, guest)] ∧
      OnNode labCluster "pve1" (.vm, guest) := by
  refine ⟨_, ?_, rfl, _, List.mem_singleton_self _, rfl⟩
  change (if isCritical "db" then _ else _) ++ [] = _
  split_ifs <;> rfl

/-- The migration is rejected, and the node is reported to be ready. -/
theorem ready_with_rejected_guest :
    ¬∀ s, exec (serve (labPlan (.error "can't migrate VM with local disks")))
        (evacuateNode "lab" "pve1" ["pve1", "pve2"]) (Alone.start labMemory) = some ((), s) →
      Shows "lab" "pve1" s.memory "ready" →
        ∀ guest, OnNode labCluster "pve1" guest → s.Migrated guest := by
  intro evacuated
  obtain ⟨state, kept⟩ := kept_of_shows labMemory_shows
  obtain ⟨m, ready, ran⟩ := @exec_evacuateNode_ready
    (labPlan (.error "can't migrate VM with local disks")) "lab" "pve1" ["pve1", "pve2"]
    labMemory state kept "pve2" labCluster rfl rfl
  obtain ⟨guest, _, hosted⟩ := labGuest_onNode
  obtain ⟨_, _, task, _, _, _, _, accepted, _⟩ :=
    migrated_iff_inTime.mp (evacuated _ ran ready (.vm, guest) hosted)
  exact nomatch accepted

/-- A migration of four seconds is over when the node is reported to be ready. -/
theorem ready_after_quick_migration :
    Shows "lab" "pve1" labMemory "evacuating" ∧
      ∀ s, exec (serve (labPlan (.ok ⟨"UPID:1", some 4000, true⟩)))
          (evacuateNode "lab" "pve1" ["pve1", "pve2"]) (Alone.start labMemory) = some ((), s) →
        Shows "lab" "pve1" s.memory "ready" → ∀ cs, some labCluster = some cs →
          ∀ guest, OnNode cs "pve1" guest → s.Migrated guest := by
  refine ⟨labMemory_shows, ?_⟩
  apply (ready_iff_inTime (labPlan (.ok ⟨"UPID:1", some 4000, true⟩)) "lab" "pve1"
    ["pve1", "pve2"] labMemory labMemory_shows).mpr
  intro target cs _ found guest hosted
  obtain rfl : labCluster = cs := Option.some.inj found
  obtain ⟨only, listed, _⟩ := labGuest_onNode
  have member := mem_guestsToMigrate.mpr hosted
  rw [listed, List.mem_singleton] at member
  rw [listed, member]
  exact ⟨0, _, _, 4000, rfl, rfl, rfl, rfl, rfl, rfl, by omega⟩

end Lab

end Maintenance
