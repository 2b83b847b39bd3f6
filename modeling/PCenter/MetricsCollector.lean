import Mathlib.Data.List.ProdSigma
import PCenter.DrsCheck
import PCenter.Lib.Text
import PCenter.Lib.Traverse
import PCenter.MetricsQuery

/-!
# The collection of metrics

`Collector.collect` goes through the clusters of the store and writes down a sample for every
figure of their nodes, guests and storages. The rates of counters are taken from what the last
collection saw. A storage is recorded under its name alone, although the store keeps the
storages of each node apart. Loops over maps take an order each; doubles are of any type with
what the collector computes.
-/

namespace Metrics

open FiniteMap GoText
open Traverse (emit)

/-- `float64`, as far as samples are computed. -/
structure Doubles (V : Type) where
  /-- `v * 100` -/
  percent : Rat → V
  /-- `float64(n)` -/
  ofInt : Int64 → V
  /-- `float64(used) / float64(size) * 100` -/
  share : Int64 → Int64 → V
  /-- `float64(increase) / elapsed` -/
  rate : Int64 → Int → V
  /-- `strconv.ParseFloat(s, 64)` -/
  parseFloat : String → Option V

structure LastSample where
  timestamp : Int
  netin : Int64
  netout : Int64
  diskread : Int64
  diskwrite : Int64
  pgpgin : Int64
  pgpgout : Int64
  deriving DecidableEq

abbrev LastSamples := Map String LastSample

/-- A resource that is sampled, and when. -/
structure Sampled where
  ts : Int
  cluster : String
  resourceType : String
  resourceID : String

def Sampled.series (r : Sampled) (metricTypeID : Nat) : Series :=
  ⟨r.cluster, r.resourceType, r.resourceID, metricTypeID⟩

section Samples

variable {V : Type} (doubles : Doubles V) (r : Sampled)

def sample (name : String) (value : V) : RawMetric V :=
  { timestamp := r.ts, series := r.series (metricTypeByName name), value }

/-- A share is only taken of what there is. -/
def percentSample (name : String) (used size : Int64) : List (RawMetric V) :=
  if size > 0 then [sample r name (doubles.share used size)] else []

/-- A counter that has not been reset. -/
def rateSample (name : String) (count last : Int64) (elapsed : Int) : List (RawMetric V) :=
  if count ≥ last then [sample r name (doubles.rate (count - last) elapsed)] else []

def parsedSample (name : String) (text : String) : List (RawMetric V) :=
  match doubles.parseFloat text with
  | some value => [sample r name value]
  | none => []

def loadSamples (details : Option Pve.NodeStatus) : List (RawMetric V) :=
  match details.map (·.loadAvg) with
  | some (la1 :: la5 :: la15 :: _) =>
      parsedSample doubles r "loadavg_1m" la1 ++ parsedSample doubles r "loadavg_5m" la5 ++
        parsedSample doubles r "loadavg_15m" la15
  | _ => []

def nodeSamples (details : Option Pve.NodeStatus) (node : Pve.Node) : List (RawMetric V) :=
  [sample r "cpu" (doubles.percent node.cpu), sample r "mem" (doubles.ofInt node.mem)] ++
    percentSample doubles r "mem_percent" node.mem node.maxMem ++
    [sample r "disk" (doubles.ofInt node.disk)] ++
    percentSample doubles r "disk_percent" node.disk node.maxDisk ++
    [sample r "uptime" (doubles.ofInt node.uptime)] ++ loadSamples doubles r details

/-- The rates of network and disk since the last sample. -/
def transferSamples (last : Option LastSample) (now : LastSample) : List (RawMetric V) :=
  match last with
  | some last =>
      if r.ts > last.timestamp then
        let elapsed := r.ts - last.timestamp
        rateSample doubles r "netin" now.netin last.netin elapsed ++
          rateSample doubles r "netout" now.netout last.netout elapsed ++
          rateSample doubles r "diskread" now.diskread last.diskread elapsed ++
          rateSample doubles r "diskwrite" now.diskwrite last.diskwrite elapsed
      else []
  | none => []

def pagingSamples (last : Option LastSample) (now : LastSample) : List (RawMetric V) :=
  match last with
  | some last =>
      if r.ts > last.timestamp then
        let elapsed := r.ts - last.timestamp
        rateSample doubles r "pgpgin" now.pgpgin last.pgpgin elapsed ++
          rateSample doubles r "pgpgout" now.pgpgout last.pgpgout elapsed
      else []
  | none => []

def vmSamples (last : Option LastSample) (now : LastSample) (vm : Pve.VM) : List (RawMetric V) :=
  [sample r "cpu" (doubles.percent vm.cpu), sample r "mem" (doubles.ofInt vm.mem)] ++
    percentSample doubles r "mem_percent" vm.mem vm.maxMem ++
    [sample r "disk" (doubles.ofInt vm.disk)] ++
    percentSample doubles r "disk_percent" vm.disk vm.maxDisk ++
    transferSamples doubles r last now ++ [sample r "uptime" (doubles.ofInt vm.uptime)]

def containerSamples (last : Option LastSample) (now : LastSample) (ct : Pve.Container) :
    List (RawMetric V) :=
  [sample r "cpu" (doubles.percent ct.cpu), sample r "mem" (doubles.ofInt ct.mem)] ++
    percentSample doubles r "mem_percent" ct.mem ct.maxMem ++
    [sample r "disk" (doubles.ofInt ct.disk)] ++
    percentSample doubles r "disk_percent" ct.disk ct.maxDisk ++
    [sample r "swap" (doubles.ofInt ct.swap)] ++
    percentSample doubles r "swap_percent" ct.swap ct.maxSwap ++
    transferSamples doubles r last now ++ [sample r "uptime" (doubles.ofInt ct.uptime)]

def storageSamples (st : Pve.Storage) : List (RawMetric V) :=
  [sample r "disk" (doubles.ofInt st.used)] ++
    percentSample doubles r "disk_percent" st.used st.total

/-- Health is 0 where it is fine, 1 for a warning and 2 else. -/
def cephSamples (ceph : Pve.CephStatus) : List (RawMetric V) :=
  let health : Int64 :=
    if ceph.healthStatus = "HEALTH_OK" then 0
    else if ceph.healthStatus = "HEALTH_WARN" then 1
    else 2
  [sample r "ceph_used" (doubles.ofInt ceph.bytesUsed),
    sample r "ceph_avail" (doubles.ofInt ceph.bytesAvail),
    sample r "ceph_health" (doubles.ofInt health)]

end Samples

/-- The orders of the loops over the maps of a cluster. -/
structure Orders where
  nodes : Order Pve.Node
  vmStats : Order (Sigma fun _ : String => Pve.VmStats)
  vms : Order Pve.VM
  containers : Order Pve.Container
  storageNodes : Order Pve.Node
  storages : Order (List Pve.Storage)
  ceph : Order (Option Pve.CephStatus)

/-- `GetStorage`, which answers with all storages where no node is named. -/
def getStorage (cs : State.ClusterStore) (order : Order (List Pve.Storage)) (nodeName : String) :
    List Pve.Storage :=
  if nodeName ≠ "" then (cs.storage.lookup nodeName).getD []
  else (order.arrange (values cs.storage)).flatten

section Collectors

variable {V : Type} (doubles : Doubles V) (o : Orders) (ts : Int) (cluster : String)
  (cs : State.ClusterStore) (lastSamples : LastSamples)

/-- The paging rates of a node, by its counters. -/
def collectVmStats (lastSamples : LastSamples) (entry : Sigma fun _ : String => Pve.VmStats) :
    List (RawMetric V) × LastSamples :=
  let key := cluster ++ ":vmstat:" ++ entry.1
  let now : LastSample := ⟨ts, 0, 0, 0, 0, entry.2.pgpgIn, entry.2.pgpgOut⟩
  (pagingSamples doubles ⟨ts, cluster, "node", entry.1⟩ (lastSamples.lookup key) now,
    lastSamples.insert key now)

def collectNodes : List (RawMetric V) × LastSamples :=
  let samples := (o.nodes.arrange (values cs.nodes)).flatMap fun node =>
    nodeSamples doubles ⟨ts, cluster, "node", node.node⟩ (cs.nodeDetails.lookup node.node) node
  let rates := emit (collectVmStats doubles ts cluster) lastSamples
    (o.vmStats.arrange cs.vmStats.entries)
  (samples ++ rates.1, rates.2)

def collectVM (lastSamples : LastSamples) (vm : Pve.VM) : List (RawMetric V) × LastSamples :=
  if vm.status ≠ "running" then ([], lastSamples)
  else
    let resID := itoa vm.vmid
    let key := cluster ++ ":vm:" ++ resID
    let now : LastSample := ⟨ts, vm.netIn, vm.netOut, vm.diskRead, vm.diskWrite, 0, 0⟩
    (vmSamples doubles ⟨ts, cluster, "vm", resID⟩ (lastSamples.lookup key) now vm,
      lastSamples.insert key now)

def collectVMs : List (RawMetric V) × LastSamples :=
  emit (collectVM doubles ts cluster) lastSamples (o.vms.arrange (values cs.vms))

def collectContainer (lastSamples : LastSamples) (ct : Pve.Container) :
    List (RawMetric V) × LastSamples :=
  if ct.status ≠ "running" then ([], lastSamples)
  else
    let resID := itoa ct.vmid
    let key := cluster ++ ":ct:" ++ resID
    let now : LastSample := ⟨ts, ct.netIn, ct.netOut, ct.diskRead, ct.diskWrite, 0, 0⟩
    (containerSamples doubles ⟨ts, cluster, "ct", resID⟩ (lastSamples.lookup key) now ct,
      lastSamples.insert key now)

def collectContainers : List (RawMetric V) × LastSamples :=
  emit (collectContainer doubles ts cluster) lastSamples
    (o.containers.arrange (values cs.containers))

/-- The storages of all nodes, one node after another. -/
def availableStorage : List Pve.Storage :=
  (o.storageNodes.arrange (values cs.nodes)).flatMap fun node =>
    (getStorage cs o.storages node.node).filter (·.status = "available")

def collectStorage : List (RawMetric V) :=
  (availableStorage o cs).flatMap fun st =>
    storageSamples doubles ⟨ts, cluster, "storage", st.storage⟩ st

def getCeph : Option Pve.CephStatus := (o.ceph.arrange (values cs.ceph)).findSome? id

def collectCeph : List (RawMetric V) :=
  match getCeph o cs with
  | none => []
  | some ceph => cephSamples doubles ⟨ts, cluster, "ceph", "cluster"⟩ ceph

/-- The samples of one cluster. -/
def collectCluster : List (RawMetric V) × LastSamples :=
  let nodes := collectNodes doubles o ts cluster cs lastSamples
  let vms := collectVMs doubles o ts cluster cs nodes.2
  let containers := collectContainers doubles o ts cluster cs vms.2
  (nodes.1 ++ vms.1 ++ containers.1 ++ collectStorage doubles o ts cluster cs ++
    collectCeph doubles o ts cluster cs, containers.2)

end Collectors

/-- A collection at a time: the samples that are written, and what the next one compares with. -/
def collect {V : Type} (doubles : Doubles V) (names : Order String) (o : String → Orders)
    (store : State.Store) (ts : Int) (lastSamples : LastSamples) :
    List (RawMetric V) × LastSamples :=
  emit
    (fun lastSamples name =>
      match store.getCluster name with
      | none => ([], lastSamples)
      | some cs => collectCluster doubles (o name) ts name cs lastSamples)
    lastSamples (names.arrange store.clusters.keys)

/-- The maps in the order of their entries. -/
def Orders.asGiven : Orders where
  nodes := .asGiven
  vmStats := .asGiven
  vms := .asGiven
  containers := .asGiven
  storageNodes := .asGiven
  storages := .asGiven
  ceph := .asGiven

/-- The series of a resource by the names of its metrics. -/
def Sampled.all (r : Sampled) (names : List String) : List Series :=
  names.map fun name => r.series (metricTypeByName name)

section Emitted

variable {V : Type} (doubles : Doubles V) (r : Sampled)

theorem all_append (names names' : List String) :
    r.all (names ++ names') = r.all names ++ r.all names' :=
  List.map_append

theorem percentSample_sublist (name : String) (used size : Int64) :
    ((percentSample doubles r name used size).map (·.series)).Sublist (r.all [name]) := by
  unfold percentSample
  split
  · exact .refl _
  · exact List.nil_sublist _

theorem rateSample_sublist (name : String) (count last : Int64) (elapsed : Int) :
    ((rateSample doubles r name count last elapsed).map (·.series)).Sublist (r.all [name]) := by
  unfold rateSample
  split
  · exact .refl _
  · exact List.nil_sublist _

theorem parsedSample_sublist (name text : String) :
    ((parsedSample doubles r name text).map (·.series)).Sublist (r.all [name]) := by
  unfold parsedSample
  split
  · exact .refl _
  · exact List.nil_sublist _

def loadNames : List String := ["loadavg_1m"] ++ ["loadavg_5m"] ++ ["loadavg_15m"]

def nodeNames : List String :=
  ["cpu", "mem"] ++ ["mem_percent"] ++ ["disk"] ++ ["disk_percent"] ++ ["uptime"] ++ loadNames

def pagingNames : List String := ["pgpgin"] ++ ["pgpgout"]

def transferNames : List String := ["netin"] ++ ["netout"] ++ ["diskread"] ++ ["diskwrite"]

def vmNames : List String :=
  ["cpu", "mem"] ++ ["mem_percent"] ++ ["disk"] ++ ["disk_percent"] ++ transferNames ++ ["uptime"]

def containerNames : List String :=
  ["cpu", "mem"] ++ ["mem_percent"] ++ ["disk"] ++ ["disk_percent"] ++ ["swap"] ++
    ["swap_percent"] ++ transferNames ++ ["uptime"]

def storageNames : List String := ["disk"] ++ ["disk_percent"]

def cephNames : List String := ["ceph_used", "ceph_avail", "ceph_health"]

theorem loadSamples_sublist (details : Option Pve.NodeStatus) :
    ((loadSamples doubles r details).map (·.series)).Sublist (r.all loadNames) := by
  unfold loadSamples
  split
  · simp only [List.map_append, loadNames, all_append]
    apply List.Sublist.append
    · apply List.Sublist.append
      · exact parsedSample_sublist doubles r _ _
      · exact parsedSample_sublist doubles r _ _
    · exact parsedSample_sublist doubles r _ _
  · exact List.nil_sublist _

theorem nodeSamples_sublist (details : Option Pve.NodeStatus) (node : Pve.Node) :
    ((nodeSamples doubles r details node).map (·.series)).Sublist (r.all nodeNames) := by
  simp only [nodeSamples, List.map_append, nodeNames, all_append]
  apply List.Sublist.append _ (loadSamples_sublist doubles r details)
  apply List.Sublist.append _ (.refl _)
  apply List.Sublist.append _ (percentSample_sublist doubles r _ _ _)
  apply List.Sublist.append _ (.refl _)
  exact List.Sublist.append (.refl _) (percentSample_sublist doubles r _ _ _)

theorem transferSamples_sublist (last : Option LastSample) (now : LastSample) :
    ((transferSamples doubles r last now).map (·.series)).Sublist (r.all transferNames) := by
  unfold transferSamples
  split
  · split
    · simp only [List.map_append, transferNames, all_append]
      apply List.Sublist.append _ (rateSample_sublist doubles r _ _ _ _)
      apply List.Sublist.append _ (rateSample_sublist doubles r _ _ _ _)
      exact (rateSample_sublist doubles r _ _ _ _).append (rateSample_sublist doubles r _ _ _ _)
    · exact List.nil_sublist _
  · exact List.nil_sublist _

theorem pagingSamples_sublist (last : Option LastSample) (now : LastSample) :
    ((pagingSamples doubles r last now).map (·.series)).Sublist (r.all pagingNames) := by
  unfold pagingSamples
  split
  · split
    · simp only [List.map_append, pagingNames, all_append]
      exact (rateSample_sublist doubles r _ _ _ _).append (rateSample_sublist doubles r _ _ _ _)
    · exact List.nil_sublist _
  · exact List.nil_sublist _

theorem vmSamples_sublist (last : Option LastSample) (now : LastSample) (vm : Pve.VM) :
    ((vmSamples doubles r last now vm).map (·.series)).Sublist (r.all vmNames) := by
  simp only [vmSamples, List.map_append, vmNames, all_append]
  apply List.Sublist.append _ (.refl _)
  apply List.Sublist.append _ (transferSamples_sublist doubles r last now)
  apply List.Sublist.append _ (percentSample_sublist doubles r _ _ _)
  apply List.Sublist.append _ (.refl _)
  exact List.Sublist.append (.refl _) (percentSample_sublist doubles r _ _ _)

theorem containerSamples_sublist (last : Option LastSample) (now : LastSample)
    (ct : Pve.Container) :
    ((containerSamples doubles r last now ct).map (·.series)).Sublist (r.all containerNames) := by
  simp only [containerSamples, List.map_append, containerNames, all_append]
  apply List.Sublist.append _ (.refl _)
  apply List.Sublist.append _ (transferSamples_sublist doubles r last now)
  apply List.Sublist.append _ (percentSample_sublist doubles r _ _ _)
  apply List.Sublist.append _ (.refl _)
  apply List.Sublist.append _ (percentSample_sublist doubles r _ _ _)
  apply List.Sublist.append _ (.refl _)
  exact List.Sublist.append (.refl _) (percentSample_sublist doubles r _ _ _)

theorem storageSamples_sublist (st : Pve.Storage) :
    ((storageSamples doubles r st).map (·.series)).Sublist (r.all storageNames) := by
  simp only [storageSamples, List.map_append, storageNames, all_append]
  exact List.Sublist.append (.refl _) (percentSample_sublist doubles r _ _ _)

end Emitted

/-- The resources of one type, by their ids, and the metrics that they may have. -/
structure Family where
  resourceType : String
  ids : List String
  names : List String

def Family.series (f : Family) (cluster : String) : List Series :=
  f.ids.flatMap fun id => Sampled.all ⟨0, cluster, f.resourceType, id⟩ f.names

theorem Family.mem_series {f : Family} {cluster : String} {g : Series}
    (inside : g ∈ f.series cluster) :
    g.cluster = cluster ∧ g.resourceType = f.resourceType ∧
      ∃ name ∈ f.names, g.metricTypeID = metricTypeByName name := by
  obtain ⟨id, -, inside⟩ := List.mem_flatMap.mp inside
  obtain ⟨name, listed, rfl⟩ := List.mem_map.mp inside
  exact ⟨rfl, rfl, name, listed, rfl⟩

theorem Family.nodup_series {f : Family} (distinct : f.ids.Nodup)
    (metrics : (f.names.map metricTypeByName).Nodup) (cluster : String) :
    (f.series cluster).Nodup := by
  refine List.nodup_flatMap.mpr ⟨fun id _ => ?_, distinct.imp fun {id id'} apart => ?_⟩
  · have each : Sampled.all ⟨0, cluster, f.resourceType, id⟩ f.names =
        (f.names.map metricTypeByName).map (⟨cluster, f.resourceType, id, ·⟩) := by
      rw [List.map_map]
      rfl
    rw [each]
    exact metrics.map fun m m' same => (Series.mk.inj same).2.2.2
  · intro g here there
    obtain ⟨name, -, rfl⟩ := List.mem_map.mp here
    obtain ⟨name', -, same⟩ := List.mem_map.mp there
    exact apart (Series.mk.inj same).2.2.1.symm

/-- Everything that there is to sample in a cluster. -/
def families (o : Orders) (cs : State.ClusterStore) : List Family :=
  [⟨"node", (o.nodes.arrange (values cs.nodes)).map (·.node), nodeNames⟩,
    ⟨"node", (o.vmStats.arrange cs.vmStats.entries).map (·.1), pagingNames⟩,
    ⟨"vm", (o.vms.arrange (values cs.vms)).map (itoa ·.vmid), vmNames⟩,
    ⟨"ct", (o.containers.arrange (values cs.containers)).map (itoa ·.vmid), containerNames⟩,
    ⟨"storage", (availableStorage o cs).map (·.storage), storageNames⟩,
    ⟨"ceph", ["cluster"], cephNames⟩]

/-- Two families are told apart by their type, or else by their metrics. -/
theorem families_apart (o : Orders) (cs : State.ClusterStore) (cluster : String) :
    (families o cs).Pairwise fun f f' => (f.series cluster).Disjoint (f'.series cluster) := by
  have kinds : ((families o cs).map fun f => (f.resourceType, f.names)).Pairwise fun k k' =>
      k.1 ≠ k'.1 ∨ ∀ n ∈ k.2, ∀ n' ∈ k'.2, metricTypeByName n ≠ metricTypeByName n' := by
    simp only [families, List.map_cons, List.map_nil]
    decide
  refine (List.pairwise_map.mp kinds).imp fun {f f'} apart g here there => ?_
  obtain ⟨-, type, n, listed, metric⟩ := Family.mem_series here
  obtain ⟨-, type', n', listed', metric'⟩ := Family.mem_series there
  rcases apart with types | metrics
  · exact types (type.symm.trans type')
  · exact metrics n listed n' listed' (metric.symm.trans metric')

theorem nodup_itoa {A : Type} {l : List A} {vmid : A → Int64} (distinct : (l.map vmid).Nodup) :
    (l.map fun a => itoa (vmid a)).Nodup := by
  have texts := distinct.map fun _ _ => itoa_injective
  rw [List.map_map] at texts
  exact texts

theorem families_distinct (o : Orders) {cs : State.ClusterStore} (keyed : Drs.Keyed cs)
    (storages : ((availableStorage o cs).map (·.storage)).Nodup) :
    ∀ f ∈ families o cs, f.ids.Nodup ∧ (f.names.map metricTypeByName).Nodup := by
  simp only [families, List.forall_mem_cons]
  refine ⟨⟨?_, ?_⟩, ⟨?_, ?_⟩, ⟨?_, ?_⟩, ⟨?_, ?_⟩, ⟨storages, ?_⟩, ⟨?_, ?_⟩, ?_⟩
  · exact ((o.nodes.perm _).map _).nodup_iff.mpr keyed.nodes.nodup_values
  · decide
  · exact ((o.vmStats.perm _).map _).nodup_iff.mpr cs.vmStats.nodupKeys
  · decide
  · exact ((o.vms.perm _).map _).nodup_iff.mpr (nodup_itoa keyed.vms.nodup_values)
  · decide
  · exact ((o.containers.perm _).map _).nodup_iff.mpr (nodup_itoa keyed.containers.nodup_values)
  · decide
  · decide
  · decide
  · decide
  · exact List.forall_mem_nil _

theorem nodup_families (o : Orders) {cs : State.ClusterStore} (keyed : Drs.Keyed cs)
    (storages : ((availableStorage o cs).map (·.storage)).Nodup) (cluster : String) :
    ((families o cs).flatMap fun f => f.series cluster).Nodup := by
  refine List.nodup_flatMap.mpr ⟨fun f listed => ?_, families_apart o cs cluster⟩
  obtain ⟨distinct, metrics⟩ := families_distinct o keyed storages f listed
  exact Family.nodup_series distinct metrics cluster

section Clusters

variable {V : Type} (doubles : Doubles V) (o : Orders) (ts : Int) (cluster : String)
  (cs : State.ClusterStore) (lastSamples : LastSamples)

theorem flatMap_sublist {A B : Type} {l : List A} {f g : A → List B}
    (each : ∀ a ∈ l, (f a).Sublist (g a)) : (l.flatMap f).Sublist (l.flatMap g) := by
  induction l with
  | nil => exact .slnil
  | cons a l ih =>
      rw [List.flatMap_cons, List.flatMap_cons]
      apply List.Sublist.append
      · exact each a List.mem_cons_self
      · exact ih fun b inside => each b (List.mem_cons_of_mem a inside)

theorem collectNodes_sublist :
    ((collectNodes doubles o ts cluster cs lastSamples).1.map (·.series)).Sublist
      (Family.series ⟨"node", (o.nodes.arrange (values cs.nodes)).map (·.node), nodeNames⟩ cluster ++
        Family.series ⟨"node", (o.vmStats.arrange cs.vmStats.entries).map (·.1), pagingNames⟩
          cluster) := by
  rw [collectNodes, List.map_append]
  apply List.Sublist.append
  · rw [Family.series, List.flatMap_map, List.map_flatMap]
    exact flatMap_sublist fun node _ => nodeSamples_sublist doubles _ _ _
  · rw [Family.series, List.flatMap_map]
    exact Traverse.emit_sublist (fun _ entry _ => pagingSamples_sublist doubles _ _ _) _

theorem collectVMs_sublist :
    ((collectVMs doubles o ts cluster cs lastSamples).1.map (·.series)).Sublist
      (Family.series ⟨"vm", (o.vms.arrange (values cs.vms)).map (itoa ·.vmid), vmNames⟩
        cluster) := by
  rw [collectVMs, Family.series, List.flatMap_map]
  refine Traverse.emit_sublist (fun _ vm _ => ?_) _
  unfold collectVM
  split
  · exact List.nil_sublist _
  · exact vmSamples_sublist doubles _ _ _ _

theorem collectContainers_sublist :
    ((collectContainers doubles o ts cluster cs lastSamples).1.map (·.series)).Sublist
      (Family.series ⟨"ct", (o.containers.arrange (values cs.containers)).map (itoa ·.vmid),
        containerNames⟩ cluster) := by
  rw [collectContainers, Family.series, List.flatMap_map]
  refine Traverse.emit_sublist (fun _ ct _ => ?_) _
  unfold collectContainer
  split
  · exact List.nil_sublist _
  · exact containerSamples_sublist doubles _ _ _ _

theorem collectStorage_sublist :
    ((collectStorage doubles o ts cluster cs).map (·.series)).Sublist
      (Family.series ⟨"storage", (availableStorage o cs).map (·.storage), storageNames⟩
        cluster) := by
  rw [collectStorage, Family.series, List.flatMap_map, List.map_flatMap]
  exact flatMap_sublist fun st _ => storageSamples_sublist doubles _ _

theorem collectCeph_sublist :
    ((collectCeph doubles o ts cluster cs).map (·.series)).Sublist
      (Family.series ⟨"ceph", ["cluster"], cephNames⟩ cluster) := by
  unfold collectCeph
  split
  · exact List.nil_sublist _
  · exact .refl _

theorem collectCluster_sublist :
    ((collectCluster doubles o ts cluster cs lastSamples).1.map (·.series)).Sublist
      ((families o cs).flatMap fun f => f.series cluster) := by
  simp only [collectCluster, families, List.map_append, List.flatMap_cons, List.flatMap_nil,
    List.append_nil, ← List.append_assoc]
  apply List.Sublist.append _ (collectCeph_sublist doubles o ts cluster cs)
  apply List.Sublist.append _ (collectStorage_sublist doubles o ts cluster cs)
  apply List.Sublist.append _ (collectContainers_sublist doubles o ts cluster cs _)
  apply List.Sublist.append _ (collectVMs_sublist doubles o ts cluster cs _)
  exact collectNodes_sublist doubles o ts cluster cs lastSamples

theorem sublist_collectCluster :
    ((availableStorage o cs).map fun st =>
      (⟨cluster, "storage", st.storage, metricTypeByName "disk"⟩ : Series)).Sublist
      ((collectCluster doubles o ts cluster cs lastSamples).1.map (·.series)) := by
  have storages : ((availableStorage o cs).map fun st =>
      (⟨cluster, "storage", st.storage, metricTypeByName "disk"⟩ : Series)).Sublist
      ((collectStorage doubles o ts cluster cs).map (·.series)) := by
    rw [collectStorage, List.map_flatMap, List.map_eq_flatMap]
    refine flatMap_sublist fun st _ => ?_
    rw [storageSamples, List.map_append]
    exact List.sublist_append_left _ _
  simp only [collectCluster, List.map_append]
  apply List.Sublist.trans storages
  apply List.Sublist.trans _ (List.sublist_append_left _ _)
  exact List.sublist_append_right _ _

end Clusters

/-- The order of the loops does not matter for which storages there are. -/
theorem availableStorage_perm (o : Orders) (cs : State.ClusterStore) :
    (availableStorage o cs).Perm (availableStorage .asGiven cs) := by
  apply List.Perm.trans ((o.storageNodes.perm _).flatMap_right _)
  apply List.Perm.flatMap_left
  intro node _
  apply List.Perm.filter
  unfold getStorage
  split
  · exact .refl _
  · exact (o.storages.perm _).flatten

section Collection

variable {V : Type} {doubles : Doubles V} {names : Order String} {o : String → Orders}
  {store : State.Store} {ts : Int} {lastSamples : LastSamples}

theorem nodup_clusters (names : Order String) (store : State.Store) :
    (names.arrange store.clusters.keys).Nodup :=
  (names.perm _).nodup_iff.mpr store.clusters.keys_nodup

/-- Everything that there is to sample in the cluster of a name. -/
def seriesOf (o : String → Orders) (store : State.Store) (name : String) : List Series :=
  match store.getCluster name with
  | none => []
  | some cs => (families (o name) cs).flatMap fun f => f.series name

theorem cluster_of_seriesOf {name : String} {g : Series} (inside : g ∈ seriesOf o store name) :
    g.cluster = name := by
  unfold seriesOf at inside
  split at inside
  · exact absurd inside List.not_mem_nil
  · obtain ⟨f, -, inside⟩ := List.mem_flatMap.mp inside
    exact (Family.mem_series inside).1

theorem collect_sublist :
    ((collect doubles names o store ts lastSamples).1.map (·.series)).Sublist
      ((names.arrange store.clusters.keys).flatMap (seriesOf o store)) := by
  refine Traverse.emit_sublist (fun lastSamples name _ => ?_) _
  unfold seriesOf
  cases store.getCluster name with
  | none => exact List.nil_sublist _
  | some cs => exact collectCluster_sublist doubles (o name) ts name cs lastSamples

theorem sublist_collect :
    ((names.arrange store.clusters.keys).flatMap fun name =>
      match store.getCluster name with
      | none => []
      | some cs => (availableStorage (o name) cs).map fun st =>
          (⟨name, "storage", st.storage, metricTypeByName "disk"⟩ : Series)).Sublist
      ((collect doubles names o store ts lastSamples).1.map (·.series)) := by
  refine Traverse.sublist_emit (fun lastSamples name _ => ?_) _
  cases store.getCluster name with
  | none => exact List.nil_sublist _
  | some cs => exact sublist_collectCluster doubles (o name) ts name cs lastSamples

theorem mem_clusters {name : String} {cs : State.ClusterStore}
    (found : store.getCluster name = some cs) : name ∈ names.arrange store.clusters.keys := by
  apply (names.perm _).mem_iff.mpr
  exact AList.lookup_isSome.mp (Option.isSome_of_mem found)

/-- A collection writes one sample for each series at most iff no storage name comes up twice among
the available storages of the nodes of a cluster. -/
theorem one_sample_iff
    (written : ∀ name cs, store.getCluster name = some cs → Drs.Written cs)
    (doubles : Doubles V) (names : Order String) (o : String → Orders) (ts : Int)
    (lastSamples : LastSamples) :
    ((collect doubles names o store ts lastSamples).1.map (·.series)).Nodup ↔
      ∀ name cs, store.getCluster name = some cs →
        ((availableStorage .asGiven cs).map (·.storage)).Nodup := by
  constructor
  · intro once name cs found
    have parts := List.nodup_flatMap.mp (once.sublist sublist_collect)
    have own := parts.1 name (mem_clusters found)
    rw [found] at own
    apply ((availableStorage_perm (o name) cs).map _).nodup_iff.mp
    apply List.Nodup.of_map fun id => (⟨name, "storage", id, metricTypeByName "disk"⟩ : Series)
    rw [List.map_map]
    exact own
  · intro storages
    refine List.Nodup.sublist collect_sublist (List.nodup_flatMap.mpr ⟨fun name _ => ?_, ?_⟩)
    · unfold seriesOf
      cases found : store.getCluster name with
      | none => exact List.nodup_nil
      | some cs =>
          have distinct := storages name cs found
          rw [← ((availableStorage_perm (o name) cs).map _).nodup_iff] at distinct
          exact nodup_families (o name) (Drs.keyed_of_written (written name cs found)) distinct name
    · refine (nodup_clusters names store).imp fun {name name'} apart g here there => ?_
      exact apart ((cluster_of_seriesOf here).symm.trans (cluster_of_seriesOf there))

end Collection

section Labs

/-- A poll that gets a node and its storages. -/
def polledStorage (name : String) (storage : List Pve.Storage) : Drs.Write :=
  .poll 0 name
    { node := .ok (Drs.onlineNode name 0), nodeDetails := .ok none, vmStats := .ok none
      vms := .ok [], containers := .ok [], storage := .ok storage, ceph := .error "no ceph"
      netIfaces := .ok [] }
    fun _ answer => Except.ok.inj answer ▸ rfl

def storageOf (node name : String) : Pve.Storage :=
  { (default : Pve.Storage) with node := node, storage := name, status := "available" }

/-- Sums in whole numbers. -/
def wholeDoubles : Doubles Int where
  percent := fun v => (v * 100).floor
  ofInt := fun n => n.toInt
  share := fun used size => used.toInt * 100 / size.toInt
  rate := fun increase elapsed => increase.toInt / elapsed
  parseFloat := String.toInt?

/-- A node with a storage of its own and one for backups. -/
def oneShelf : State.ClusterStore :=
  Drs.write (.new "lab") (polledStorage "n1" [storageOf "n1" "local", storageOf "n1" "backup"])

/-- A second node, whose own storage has the same name. -/
def twoShelves : State.ClusterStore :=
  Drs.write oneShelf (polledStorage "n2" [storageOf "n2" "local"])

def storeOf (cs : State.ClusterStore) : State.Store :=
  (⟨∅⟩ : State.Store).putCluster "lab" cs

theorem getCluster_storeOf {cs cs' : State.ClusterStore} {name : String}
    (found : (storeOf cs).getCluster name = some cs') : cs' = cs := by
  rw [storeOf, State.Store.putCluster, State.Store.getCluster, lookup_insert_eq] at found
  split at found
  · exact (Option.some.inj found).symm
  · cases found

theorem oneShelf_written : Drs.Written oneShelf := .step _ _ (.init _ ⟨"lab", rfl⟩)

theorem one_sample_of_shelf :
    ((collect wholeDoubles .asGiven (fun _ => .asGiven) (storeOf oneShelf) 30 ∅).1.map
      (·.series)).Nodup := by
  refine (one_sample_iff (fun name cs found => ?_) _ _ _ _ _).mpr fun name cs found => ?_
  · rw [getCluster_storeOf found]
    exact oneShelf_written
  · rw [getCluster_storeOf found]
    decide +kernel

/-- Both storages are recorded as one. -/
theorem shelves_collide :
    Drs.Written twoShelves ∧
      ¬((collect wholeDoubles .asGiven (fun _ => .asGiven) (storeOf twoShelves) 30 ∅).1.map
        (·.series)).Nodup := by
  refine ⟨.step _ _ oneShelf_written, ?_⟩
  decide +kernel

end Labs

end Metrics
