import PCenter.AlarmQueries
import PCenter.State

/-!
# The scope of an alarm

`evaluate` goes through the definitions that are enabled, and through the resources that
`getResources` finds for each. Which resources a definition is about is said once, in `Covers`;
`getResources` decides it anew for nodes, VMs and containers. A scope with another text than the
three limits nothing. Doubles are of any type with what the evaluator computes.
-/

namespace AlarmScope

open Alarms Program
open AlarmDB (Definition)
open FiniteMap (values)

/-- `float64`, as far as a value is computed. -/
class Arithmetic (V : Type) where
  /-- `v * 100` -/
  percent : Rat → V
  /-- `float64(used) / float64(size) * 100` -/
  share : Int64 → Int64 → V
  /-- `float64(seconds) / 86400.0` -/
  days : Int64 → V
  /-- `365000`, more than any certificate has left. -/
  sentinel : V

structure NodeCertificate where
  notAfter : Int64

/-- What an evaluation reads: the store, the certificates of the nodes of a cluster, and the
time. -/
structure Reading where
  store : State.Store
  certificates : String → String → List NodeCertificate
  now : Int64

/-- A metric of a resource that there is. -/
structure Sample (V : Type) where
  definition : Definition V
  resource : Resource
  value : V

section Code

def getNodes (store : State.Store) : List Pve.Node :=
  (values store.clusters).flatMap fun cs => values cs.nodes

def getVMs (store : State.Store) : List Pve.VM :=
  (values store.clusters).flatMap fun cs => values cs.vms

def getContainers (store : State.Store) : List Pve.Container :=
  (values store.clusters).flatMap fun cs => values cs.containers

/-- `fmt.Sprintf("%d", vmid)` -/
def formatVMID (vmid : Int64) : String := toString vmid.toInt

variable {V : Type}

def getResources (d : Definition V) (store : State.Store) : List Resource :=
  if d.resourceType = "node" then
    ((getNodes store).filter fun n =>
      ¬(d.scope = "cluster" ∧ n.cluster ≠ d.scopeTarget) ∧
        ¬(d.scope = "resource" ∧ n.node ≠ d.scopeTarget)).map
      fun n => ⟨n.cluster, "node", n.node, n.node⟩
  else if d.resourceType = "vm" then
    ((getVMs store).filter fun g =>
      ¬(d.scope = "cluster" ∧ g.cluster ≠ d.scopeTarget) ∧ g.status = "running").map
      fun g => ⟨g.cluster, "vm", formatVMID g.vmid, g.name⟩
  else if d.resourceType = "ct" then
    ((getContainers store).filter fun g =>
      ¬(d.scope = "cluster" ∧ g.cluster ≠ d.scopeTarget) ∧ g.status = "running").map
      fun g => ⟨g.cluster, "ct", formatVMID g.vmid, g.name⟩
  else []

section Metrics

variable [LT V] [DecidableLT V] [Arithmetic V]

/-- The fewest days that a certificate of the node has left. -/
def certDaysLeft (r : Reading) (n : Pve.Node) : Option V :=
  match r.store.getCluster n.cluster with
  | none => none
  | some _ =>
      let left : V × Bool := (r.certificates n.cluster n.node).foldl
        (fun least c =>
          if c.notAfter = 0 then least
          else
            let days : V := Arithmetic.days (c.notAfter - r.now)
            (if days < least.1 then days else least.1, true))
        (Arithmetic.sentinel, false)
      if left.2 then some left.1 else none

/-- What a node of the loop answers: nothing when the loop goes on, and no value when it ends
without one. -/
def nodeMetric (r : Reading) (metricType : String) (n : Pve.Node) : Option (Option V) :=
  if metricType = "cpu" then some (some (Arithmetic.percent n.cpu))
  else if metricType = "mem_percent" then
    if n.maxMem > 0 then some (some (Arithmetic.share n.mem n.maxMem)) else none
  else if metricType = "cert_days_left" then some (certDaysLeft r n)
  else none

def guestMetric (metricType : String) (cpu : Rat) (mem maxMem : Int64) : Option V :=
  if metricType = "cpu" then some (Arithmetic.percent cpu)
  else if metricType = "mem_percent" then
    if maxMem > 0 then some (Arithmetic.share mem maxMem) else none
  else none

def getMetricValue (r : Reading) (res : Resource) (metricType : String) : Option V :=
  if res.resourceType = "node" then
    (((getNodes r.store).filter fun n =>
      n.node = res.resourceID ∧ n.cluster = res.cluster).findSome?
        (nodeMetric r metricType)).getD none
  else if res.resourceType = "vm" then
    ((getVMs r.store).filter fun v =>
      formatVMID v.vmid = res.resourceID ∧ v.cluster = res.cluster).findSome?
        fun v => guestMetric metricType v.cpu v.mem v.maxMem
  else if res.resourceType = "ct" then
    ((getContainers r.store).filter fun c =>
      formatVMID c.vmid = res.resourceID ∧ c.cluster = res.cluster).findSome?
        fun c => guestMetric metricType c.cpu c.mem c.maxMem
  else none

/-- What the two loops of an evaluation come across. -/
def samples (r : Reading) (defs : List (Definition V)) : List (Sample V) :=
  (defs.filter (·.enabled)).flatMap fun d =>
    (getResources d r.store).filterMap fun res =>
      (getMetricValue r res d.metricType).map fun value => ⟨d, res, value⟩

end Metrics

variable [LT V] [LE V] [DecidableLT V] [DecidableLE V]

/-- The alarms one after the other, each at a time of its own; the answer is whether one has
changed. -/
def evaluateAll (clock : Nat → Instant) : Nat → Bool → List (Sample V) → Code V Bool
  | _, changed, [] => pure changed
  | n, changed, s :: rest => do
      let transition ← evaluateAlarm (clock n) s.definition.toAlarmDefinition s.resource s.value
      evaluateAll clock (n + 1) (changed || transition) rest

def evaluate [Arithmetic V] (r : Reading) (clock : Nat → Instant)
    (defs : Except String (List (Definition V))) : Code V Bool :=
  match defs with
  | .error _ => pure false
  | .ok defs => evaluateAll clock 0 false (samples r defs)

end Code

section Scope

variable {V : Type}

/-- The definition is about the resource. -/
structure Covers (d : Definition V) (cluster resourceType resourceID : String) : Prop where
  type : resourceType = d.resourceType
  cluster : d.scope = "cluster" → cluster = d.scopeTarget
  resource : d.scope = "resource" → resourceID = d.scopeTarget

/-- The definitions of the table, under its primary key. -/
structure Definitions (V : Type) where
  rows : List (Definition V)
  ids : (rows.map (·.id)).Nodup

/-- The instance that a statement writes, or writes the history of, by its key. -/
def written : Cmd V → Option (String × String × String × String)
  | .selectInstance _ => none
  | .upsertInstance inst => some inst.toRow.key
  | .recordHistory inst _ _ => some inst.toRow.key
  | .acknowledgeAlarm _ _ => none

/-- The statement keeps to the instances of resources that an enabled definition is about. -/
def InScope (table : Definitions V) (c : Cmd V) : Prop :=
  ∀ key, written c = some key → ∃ d ∈ table.rows, d.enabled = true ∧ key.1 = d.id ∧
    Covers d key.2.1 key.2.2.1 key.2.2.2

end Scope

section Resources

variable {V : Type} {d : Definition V} {store : State.Store} {res : Resource}

/-- What is found is of the type and in the cluster; only nodes are compared with the target of
a scope of one resource. -/
theorem found_of_mem (member : res ∈ getResources d store) :
    res.resourceType = d.resourceType ∧
      (d.scope = "cluster" → res.cluster = d.scopeTarget) ∧
        (d.resourceType = "node" → d.scope = "resource" → res.resourceID = d.scopeTarget) := by
  rw [getResources] at member
  split_ifs at member with node vm ct
  · obtain ⟨n, inside, rfl⟩ := List.mem_map.mp member
    obtain ⟨cluster, resource⟩ := of_decide_eq_true (List.mem_filter.mp inside).2
    refine ⟨node.symm, fun scope => ?_, fun _ scope => ?_⟩
    · exact by_contra fun other => cluster ⟨scope, other⟩
    · exact by_contra fun other => resource ⟨scope, other⟩
  · obtain ⟨g, inside, rfl⟩ := List.mem_map.mp member
    obtain ⟨cluster, -⟩ := of_decide_eq_true (List.mem_filter.mp inside).2
    refine ⟨vm.symm, fun scope => ?_, fun type => (node type).elim⟩
    exact by_contra fun other => cluster ⟨scope, other⟩
  · obtain ⟨g, inside, rfl⟩ := List.mem_map.mp member
    obtain ⟨cluster, -⟩ := of_decide_eq_true (List.mem_filter.mp inside).2
    refine ⟨ct.symm, fun scope => ?_, fun type => (node type).elim⟩
    exact by_contra fun other => cluster ⟨scope, other⟩
  · exact nomatch member

theorem covers_iff (member : res ∈ getResources d store) :
    Covers d res.cluster res.resourceType res.resourceID ↔
      (d.resourceType ≠ "node" → d.scope = "resource" → res.resourceID = d.scopeTarget) := by
  obtain ⟨type, cluster, node⟩ := found_of_mem member
  constructor
  · exact fun covers _ => covers.resource
  · intro guest
    refine ⟨type, cluster, ?_⟩
    by_cases same : d.resourceType = "node"
    · exact node same
    · exact guest same

end Resources

section Evaluation

variable {V : Type} [LT V] [LE V] [DecidableLT V] [DecidableLE V] {table : Definitions V}

/-- The level that a value stands for is known, so that the alarm is written. -/
def Speaks (s : Sample V) : Prop := violationState s.definition.toAlarmDefinition s.value ≠ none

/-- The instance that is made for a definition and a resource is one in scope. -/
def Allowed (table : Definitions V) (d : Definition V) (res : Resource) : Prop :=
  ∃ d' ∈ table.rows, d'.enabled = true ∧ d.id = d'.id ∧
    Covers d' res.cluster res.resourceType res.resourceID

omit [LT V] [LE V] [DecidableLT V] [DecidableLE V] in
theorem inScope_save {inst : AlarmInstance V} {oldState : AlarmState}
    (allowed : InScope table (.upsertInstance inst)) :
    Keeps (InScope table) (fun _ _ => True) (save inst oldState) := by
  refine ⟨allowed, fun saved _ => ?_⟩
  refine keeps_ite (fun _ => keeps_done _) fun _ => ?_
  refine keeps_ite (fun _ => ⟨allowed, fun _ _ => keeps_done _⟩) fun _ => keeps_done _

theorem keeps_evaluateAll_iff (clock : Nat → Instant) (l : List (Sample V)) (n : Nat)
    (changed : Bool) :
    Keeps (InScope table) (fun _ _ => True) (evaluateAll clock n changed l) ↔
      ∀ s ∈ l, Speaks s → Allowed table s.definition s.resource := by
  induction l generalizing n changed with
  | nil => exact iff_of_true (keeps_done _) (List.forall_mem_nil _)
  | cons s rest ih =>
      rw [List.forall_mem_cons, evaluateAll]
      cases speaks : violationState s.definition.toAlarmDefinition s.value with
      | none =>
          have silent : ¬Speaks s := fun speaks_ => speaks_ speaks
          rw [evaluateAlarm, speaks]
          exact (ih (n + 1) (changed || false)).trans
            (and_iff_right fun speaks_ => (silent speaks_).elim).symm
      | some violation =>
          have said : Speaks s := by
            intro none_
            cases speaks.symm.trans none_
          rw [evaluateAlarm, speaks]
          constructor
          · intro keeps
            have write := keeps.2 none trivial
            refine ⟨fun _ => ?_, ?_⟩
            · exact write.1 _ rfl
            · exact (ih (n + 1) (changed || false)).mp (write.2 false trivial)
          · rintro ⟨here, later⟩
            constructor
            · intro write none_
              cases none_
            intro found _
            refine keeps_bind (inScope_save ?_) fun transition =>
              (ih (n + 1) (changed || transition)).mpr later
            rintro key same
            obtain rfl := Option.some.inj same
            exact here said

variable [Arithmetic V] {r : Reading} {clock : Nat → Instant} {d : Definition V}

/-- The resource has the metric of the definition, and the value stands for a level. -/
def Reaches (r : Reading) (d : Definition V) (res : Resource) : Prop :=
  ∃ value, getMetricValue r res d.metricType = some value ∧
    violationState d.toAlarmDefinition value ≠ none

theorem forall_samples_iff {P : Definition V → Resource → Prop} :
    (∀ s ∈ samples r table.rows, Speaks s → P s.definition s.resource) ↔
      ∀ d ∈ table.rows, d.enabled = true → ∀ res ∈ getResources d r.store, Reaches r d res →
        P d res := by
  constructor
  · rintro all d listed enabled res member ⟨value, read, speaks⟩
    refine all ⟨d, res, value⟩ ?_ speaks
    refine List.mem_flatMap.mpr ⟨d, List.mem_filter.mpr ⟨listed, enabled⟩, ?_⟩
    exact List.mem_filterMap.mpr ⟨res, member, Option.map_eq_some_iff.mpr ⟨value, read, rfl⟩⟩
  · intro all s member speaks
    obtain ⟨d, there, inner⟩ := List.mem_flatMap.mp member
    obtain ⟨listed, enabled⟩ := List.mem_filter.mp there
    obtain ⟨res, found, made⟩ := List.mem_filterMap.mp inner
    obtain ⟨value, read, rfl⟩ := Option.map_eq_some_iff.mp made
    exact all d listed enabled res found ⟨value, read, speaks⟩

omit [LT V] [LE V] [DecidableLT V] [DecidableLE V] [Arithmetic V] in
theorem allowed_iff {res : Resource} (listed : d ∈ table.rows) (enabled : d.enabled = true) :
    Allowed table d res ↔ Covers d res.cluster res.resourceType res.resourceID := by
  constructor
  · rintro ⟨d', listed', -, same, covers⟩
    rwa [List.inj_on_of_nodup_map table.ids listed listed' same]
  · exact fun covers => ⟨d, listed, enabled, rfl, covers⟩

omit [LT V] [LE V] [DecidableLT V] [DecidableLE V] [Arithmetic V] in
theorem forall_found_iff {P : Resource → Prop} {store : State.Store}
    (scope : d.scope = "resource") :
    (∀ res ∈ getResources d store, d.resourceType ≠ "node" → P res) ↔
      (d.resourceType = "vm" → ∀ g ∈ getVMs store, g.status = "running" →
        P ⟨g.cluster, "vm", formatVMID g.vmid, g.name⟩) ∧
      (d.resourceType = "ct" → ∀ g ∈ getContainers store, g.status = "running" →
        P ⟨g.cluster, "ct", formatVMID g.vmid, g.name⟩) := by
  by_cases node : d.resourceType = "node"
  · simp [node]
  · by_cases vm : d.resourceType = "vm"
    · simp [getResources, vm, scope]
      exact ⟨fun all g inside runs => all _ g inside runs rfl,
        fun all _ g inside runs same => same ▸ all g inside runs⟩
    · by_cases ct : d.resourceType = "ct"
      · simp [getResources, ct, scope]
        exact ⟨fun all g inside runs => all _ g inside runs rfl,
          fun all _ g inside runs same => same ▸ all g inside runs⟩
      · simp [getResources, node, vm, ct]

/-- An evaluation writes only what the scopes cover iff no definition of the scope of one
resource is about guests of which one with another id runs and has a value that stands for a
level. -/
theorem scope_respected_iff (r : Reading) (clock : Nat → Instant) (table : Definitions V) :
    Keeps (InScope table) (fun _ _ => True) (evaluate r clock (.ok table.rows)) ↔
      ∀ d ∈ table.rows, d.enabled = true → d.scope = "resource" →
        (d.resourceType = "vm" → ∀ g ∈ getVMs r.store, g.status = "running" →
          Reaches r d ⟨g.cluster, "vm", formatVMID g.vmid, g.name⟩ →
            formatVMID g.vmid = d.scopeTarget) ∧
        (d.resourceType = "ct" → ∀ g ∈ getContainers r.store, g.status = "running" →
          Reaches r d ⟨g.cluster, "ct", formatVMID g.vmid, g.name⟩ →
            formatVMID g.vmid = d.scopeTarget) := by
  rw [evaluate, keeps_evaluateAll_iff, @forall_samples_iff V _ _ _ _ table _ r (Allowed table)]
  refine forall₃_congr fun d listed enabled => ?_
  by_cases scope : d.scope = "resource"
  · rw [forall_prop_of_true scope, ← @forall_found_iff V d
      (fun res => Reaches r d res → res.resourceID = d.scopeTarget) r.store scope]
    refine forall₂_congr fun res member => ?_
    rw [allowed_iff listed enabled, covers_iff member, forall_prop_of_true scope]
    exact ⟨fun all guest reaches => all reaches guest, fun all reaches guest => all guest reaches⟩
  · refine iff_of_true (fun res member _ => ?_) fun resource => (scope resource).elim
    rw [allowed_iff listed enabled, covers_iff member]
    exact fun _ resource => (scope resource).elim

end Evaluation

section Fixtures

instance exactArithmetic : Arithmetic Rat where
  percent := fun v => v * 100
  share := fun used size => (used.toInt : Rat) / size.toInt * 100
  days := fun seconds => (seconds.toInt : Rat) / 86400
  sentinel := 365000

def busyVM (vmid : Int64) : Pve.VM :=
  { (default : Pve.VM) with cluster := "main", vmid := vmid, status := "running", cpu := 97 / 100 }

/-- Two VMs that are busy. -/
def busyStore : State.Store :=
  (⟨∅⟩ : State.Store).putCluster "main"
    ((State.ClusterStore.new "main").updateNode 0 "pve1" default [busyVM 100, busyVM 101] [] []
      none)

/-- An alarm for the first of them. -/
def oneVM : Definition Rat :=
  { id := "a-1", name := "web", condition := .above, warningThreshold := 90
    criticalThreshold := 95, clearThreshold := 85, durationSamples := 3, enabled := true
    metricType := "cpu", resourceType := "vm", scope := "resource", scopeTarget := "100"
    notifyChannels := "[]", createdAt := 0 }

def oneAlarm : Definitions Rat := ⟨[oneVM], List.nodup_singleton _⟩

def reading : Reading := ⟨busyStore, fun _ _ => [], 0⟩

end Fixtures

/-- The other VM is evaluated as well. -/
theorem other_vm_evaluated :
    ¬Keeps (InScope oneAlarm) (fun _ _ => True)
      (evaluate reading (fun _ => ⟨1, Int.one_pos⟩) (.ok oneAlarm.rows)) := by
  intro keeps
  rw [evaluate, keeps_evaluateAll_iff, @forall_samples_iff Rat _ _ _ _ oneAlarm _ reading
    (Allowed oneAlarm)] at keeps
  have listed : oneVM ∈ oneAlarm.rows := List.mem_singleton.mpr rfl
  have found : (⟨"main", "vm", "101", ""⟩ : Resource) ∈ getResources oneVM busyStore := by
    refine List.mem_map.mpr ⟨{ busyVM 101 with cluster := "main" }, ?_, rfl⟩
    decide +kernel
  have allowed := keeps oneVM listed rfl _ found ⟨97, by decide +kernel, by decide +kernel⟩
  have target := ((allowed_iff listed rfl).mp allowed).resource rfl
  exact absurd target (by decide)

end AlarmScope
