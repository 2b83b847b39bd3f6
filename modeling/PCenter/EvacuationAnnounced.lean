import PCenter.MaintenancePreflight

/-!
# Whether an evacuation does what was announced

A preflight request and an enter request find the same poller, store and host. The guests that
the evacuation tries to migrate are compared with those that the preflight listed, whatever
the orders in which either of them loops over the maps.
-/

namespace Maintenance

open FiniteMap Program GuestTasks Handlers

/-- A guest and the node that it is to be moved to. -/
structure Attempt where
  gt : GuestType
  vmid : Int64
  targetNode : String
  deriving DecidableEq, Repr

def Asked.attempt (request : Asked) : Attempt := ⟨request.gt, request.vmid, request.targetNode⟩

def GuestToMove.attempt (guest : GuestToMove) : Attempt :=
  ⟨guest.gt, guest.vmid, guest.targetNode⟩

def MaintenancePreflight.Critical (preflight : MaintenancePreflight) (a : Attempt) : Prop :=
  ∃ guest ∈ preflight.criticalGuests, guest.gt = a.gt ∧ guest.vmid = a.vmid

section Announced

variable (cluster node : String) (sit : Situation)

/-- The request starts an evacuation with these clients. -/
def Evacuates (m m' : Memory) (clients : List String) : Prop :=
  ∃ h reply, Ran (perform sit.outside) (enterMaintenanceMode cluster node sit.poller) m h reply m' ∧
    (⟨.goEvacuate cluster node clients, ()⟩ : Sigma Answer) ∈ h

/-- An evacuation that is started does what the preflight announced. -/
def AsAnnounced : Prop :=
  ∀ (o o' : Orders) (m m' : Memory) (clients : List String),
    Evacuates cluster node sit m m' clients →
      ∃ preflight, getMaintenancePreflight cluster node sit o = .ok preflight ∧
        preflight.canEnter = true ∧
        ∀ latency migration, ∃ s,
          exec (serve ⟨sit.store.map o'.store, latency, migration⟩)
              (evacuateNode cluster node (o'.clients.arrange clients)) (Alone.start m') =
            some ((), s) ∧
          (s.asked.map Asked.attempt).Perm (preflight.guestsToMove.map GuestToMove.attempt) ∧
          (s.asked.map Asked.attempt).Pairwise fun a b =>
            preflight.Critical b → preflight.Critical a

/-- A VM of the node under this VMID is announced as critical. -/
def ListedCritical (cs : State.ClusterStore) (vmid : Int64) : Prop :=
  ∃ vm ∈ vmsOn cs node, vm.vmid = vmid ∧ isQDevice vm.name = true

def Attempt.Listed (cs : State.ClusterStore) (a : Attempt) : Prop :=
  a.gt = .vm ∧ ListedCritical node cs a.vmid

/-- Nothing blocks, and the maps leave no choice. -/
structure Fits (clients : List String) : Prop where
  target : ∃ other ∈ clients, other ≠ node
  named : ∀ other ∈ clients, other ≠ node → other ≠ ""
  ceph : ¬CephBlocks sit.probes
  qdevice : ¬QDeviceBlocks sit.probes
  single : ∀ cs, sit.store = some cs → vmsOn cs node ++ containersOn cs node ≠ [] →
    ∀ a ∈ clients, ∀ b ∈ clients, a ≠ node → b ≠ node → a = b
  critical : ∀ cs, sit.store = some cs →
    (∀ vm ∈ vmsOn cs node, ListedCritical node cs vm.vmid → isCritical vm.name = true) ∨
      ∀ vm ∈ vmsOn cs node, ListedCritical node cs vm.vmid

end Announced

section Lists

variable {cs : State.ClusterStore} {node : String} {o : Orders}

theorem foldl_critical (vms : List Guest) (first : List (GuestType × Guest)) :
    vms.foldl (fun guests vm =>
        if isCritical vm.name then (.vm, vm) :: guests else guests ++ [(.vm, vm)]) first =
      (vms.filter (isCritical ·.name)).reverse.map (GuestType.vm, ·) ++ first ++
        (vms.filter (!isCritical ·.name)).map (GuestType.vm, ·) := by
  induction vms generalizing first with
  | nil => simp
  | cons vm vms ih =>
      rw [List.foldl_cons, ih]
      cases critical : isCritical vm.name with
      | false => simp [critical]
      | true => simp [critical]

/-- The evacuation's list: critical VMs in reverse, the other VMs, the containers. -/
theorem guestsToMigrate_eq (cs : State.ClusterStore) (node : String) :
    guestsToMigrate cs node =
      ((vmsOn cs node).filter (isCritical ·.name)).reverse.map (GuestType.vm, ·) ++
        ((vmsOn cs node).filter (!isCritical ·.name)).map (GuestType.vm, ·) ++
        (containersOn cs node).map (GuestType.ct, ·) := by
  rw [guestsToMigrate, foldl_critical, List.append_nil]
  rfl

theorem vmsOn_perm (o : Orders) (cs : State.ClusterStore) (node : String) :
    (vmsOn (o.store cs) node).Perm (vmsOn cs node) :=
  ((values_arranged_perm o.vms cs.vms).map ofVM).filter _

theorem containersOn_perm (o : Orders) (cs : State.ClusterStore) (node : String) :
    (containersOn (o.store cs) node).Perm (containersOn cs node) :=
  ((values_arranged_perm o.containers cs.containers).map ofContainer).filter _

def attemptOf (target : String) (guest : GuestType × Guest) : Attempt :=
  ⟨guest.1, guest.2.vmid, target⟩

/-- The guests of a node, in some order. -/
theorem guestsToMigrate_perm (o : Orders) (cs : State.ClusterStore) (node : String) :
    (guestsToMigrate (o.store cs) node).Perm
      ((vmsOn cs node).map (GuestType.vm, ·) ++ (containersOn cs node).map (GuestType.ct, ·)) := by
  rw [guestsToMigrate_eq, ← List.map_append]
  apply List.Perm.append
  · apply List.Perm.map
    have split : ((vmsOn (o.store cs) node).filter (isCritical ·.name) ++
        (vmsOn (o.store cs) node).filter (!isCritical ·.name)).Perm (vmsOn (o.store cs) node) :=
      List.filter_append_perm _ _
    have front := (List.reverse_perm ((vmsOn (o.store cs) node).filter (isCritical ·.name)))
    exact ((front.append_right _).trans split).trans (vmsOn_perm o cs node)
  · exact (containersOn_perm o cs node).map _

theorem attempt_vmToMove (target : String) (vm : Guest) :
    (vmToMove target vm).attempt = attemptOf target (.vm, vm) := by
  rw [vmToMove]
  split_ifs
  all_goals rfl

/-- What the preflight lists, as attempts. -/
theorem listed_perm (o : Orders) (cs : State.ClusterStore) (node target : String) :
    (((vmsOn (o.store cs) node).map (vmToMove target) ++
        (containersOn (o.store cs) node).map (containerToMove target)).map
          GuestToMove.attempt).Perm
      (((vmsOn cs node).map (GuestType.vm, ·) ++
        (containersOn cs node).map (GuestType.ct, ·)).map (attemptOf target)) := by
  simp only [List.map_append, List.map_map]
  apply List.Perm.append
  · have same : GuestToMove.attempt ∘ vmToMove target = attemptOf target ∘ (GuestType.vm, ·) := by
      funext vm
      exact attempt_vmToMove target vm
    rw [same]
    exact (vmsOn_perm o cs node).map _
  · exact (containersOn_perm o cs node).map _

theorem pairwise_of_split {A : Type} {P : A → Prop} {front back : List A}
    (all : ∀ a ∈ front, P a) (none_ : ∀ a ∈ back, ¬P a) :
    (front ++ back).Pairwise fun a b => P b → P a := by
  rw [List.pairwise_append]
  refine ⟨?_, ?_, ?_⟩
  · apply List.Pairwise.imp_of_mem (R := fun _ _ => True)
    · intro a _ member _ _ _
      exact all a member
    · exact List.pairwise_of_forall fun _ _ => trivial
  · apply List.Pairwise.imp_of_mem (R := fun _ _ => True)
    · intro _ b _ member _ holds
      exact absurd holds (none_ b member)
    · exact List.pairwise_of_forall fun _ _ => trivial
  · intro a member b _ _
    exact all a member

end Lists

section Runs

variable {cluster node : String} {sit : Situation} {m m' : Memory} {clients : List String}

/-- What an evacuation tries, by its store and target. -/
def attempted (store : Option State.ClusterStore) (node target : String) : List Attempt :=
  match store with
  | none => []
  | some cs => if target = "" then [] else (guestsToMigrate cs node).map (attemptOf target)

theorem enter_ran (cluster node : String) (poller : Poller) (outside : Outside) (m : Memory) :
    ∃ h reply m', Ran (perform outside) (enterMaintenanceMode cluster node poller) m h reply m' ∧
      ∀ clients, ((⟨.goEvacuate cluster node clients, ()⟩ : Sigma Answer) ∈ h ↔
          nodeClients cluster node poller = .ok clients ∧ outside.noout = .ok ()) ∧
        ((⟨.goEvacuate cluster node clients, ()⟩ : Sigma Answer) ∈ h →
          ∃ state, Kept cluster node m' state) := by
  rw [enterMaintenanceMode]
  cases known : nodeClients cluster node poller with
  | error refusal => exact ⟨[], _, m, rfl, by simp⟩
  | ok found =>
      obtain ⟨noout, store, migration⟩ := outside
      cases noout with
      | error err => exact ⟨_, _, _, rfl, by simp⟩
      | ok u =>
          let first := (m.alloc
            ⟨node, true, "starting", 0, "Setting Ceph noout flag..."⟩).setMaintenanceState
              (stateKey cluster node) (some m.records.length)
          have published : Kept cluster node first m.records.length := by
            refine ⟨by simp [first], ?_⟩
            simp [first, Memory.shown, Memory.alloc]
          have kept := kept_set (kept_write published fun s =>
            { s with phase := "evacuating", progress := 10,
                     message := "Starting guest evacuation..." })
          refine ⟨_, _, _, rfl, ?_⟩
          intro clients
          refine ⟨?_, fun _ => ⟨_, kept⟩⟩
          constructor
          · intro member
            have same : clients = found := by simpa using member
            exact ⟨congrArg _ same.symm, rfl⟩
          · rintro ⟨same, _⟩
            rw [Except.ok.inj same]
            simp

theorem kept_of_enters (starts : Evacuates cluster node sit m m' clients) :
    nodeClients cluster node sit.poller = .ok clients ∧ sit.probes.setCephNoout = .ok () ∧
      ∃ state, Kept cluster node m' state := by
  obtain ⟨h, reply, ran, member⟩ := starts
  obtain ⟨h', reply', m'', ran', started⟩ := enter_ran cluster node sit.poller sit.outside m
  obtain ⟨-, rest⟩ := Prod.mk.inj (Option.some.inj (ran.symm.trans ran'))
  obtain ⟨rfl, rfl⟩ := Prod.mk.inj rest
  obtain ⟨known, flagged⟩ := (started clients).1.mp member
  exact ⟨known, flagged, (started clients).2 member⟩

theorem exists_starts (known : nodeClients cluster node sit.poller = .ok clients)
    (flagged : sit.probes.setCephNoout = .ok ()) (m : Memory) :
    ∃ m', Evacuates cluster node sit m m' clients := by
  obtain ⟨h, reply, m', ran, started⟩ := enter_ran cluster node sit.poller sit.outside m
  exact ⟨m', h, reply, ran, (started clients).1.mpr ⟨known, flagged⟩⟩

theorem attempts_requests (plan : Plan) (target : String) (i clock : Nat)
    (guests : List (GuestType × Guest)) :
    (plan.requests target i clock guests).map Asked.attempt = guests.map (attemptOf target) := by
  induction guests generalizing i clock with
  | nil => rfl
  | cons guest rest ih =>
      rw [Plan.requests, List.map_cons, List.map_cons, ih]
      rfl

theorem otherNode_eq : otherNode node clients = (targetFor node clients).getD "" := by
  rw [otherNode, targetFor]
  cases clients.find? (· ≠ node) with
  | none => rfl
  | some other =>
      by_cases named : other = "" <;> simp [Option.filter_some, named]

/-- The evacuation tries one migration for each guest and then ends. -/
theorem exec_evacuateNode {state : Ref} (kept : Kept cluster node m state) (plan : Plan)
    (clients : List String) :
    ∃ s, exec (serve plan) (evacuateNode cluster node clients) (Alone.start m) = some ((), s) ∧
      s.asked.map Asked.attempt = attempted plan.cluster node (otherNode node clients) := by
  rw [otherNode_eq]
  cases chosen : targetFor node clients with
  | none =>
    obtain ⟨m', _, ran⟩ := exec_evacuateNode_none kept chosen
    refine ⟨_, ran, ?_⟩
    cases found : plan.cluster with
    | none => rfl
    | some cs => rfl
  | some target =>
    have named : target ≠ "" := by
      simpa using (Option.filter_eq_some_iff.mp chosen).2
    cases found : plan.cluster with
    | none =>
        refine ⟨Alone.start m, ?_, rfl⟩
        rw [evacuateNode, chosen]
        simp only
        rw [exec_getCluster, found]
        rfl
    | some cs =>
        obtain ⟨m', _, ran⟩ := exec_evacuateNode_ready kept chosen found
        refine ⟨_, ran, ?_⟩
        rw [attempts_requests, attempted, Option.getD_some, if_neg named]

/-- An evacuation that is started does what was announced, in terms of lists. -/
theorem asAnnounced_iff_lists :
    AsAnnounced cluster node sit ↔
      ∀ clients, nodeClients cluster node sit.poller = .ok clients →
        sit.probes.setCephNoout = .ok () → ∀ (o o' : Orders),
          ∃ preflight, getMaintenancePreflight cluster node sit o = .ok preflight ∧
            preflight.canEnter = true ∧
            (attempted (sit.store.map o'.store) node
              (otherNode node (o'.clients.arrange clients))).Perm
                (preflight.guestsToMove.map GuestToMove.attempt) ∧
            (attempted (sit.store.map o'.store) node
              (otherNode node (o'.clients.arrange clients))).Pairwise fun a b =>
                preflight.Critical b → preflight.Critical a := by
  constructor
  · intro announced clients known flagged o o'
    obtain ⟨m', starts⟩ := exists_starts known flagged ⟨[], ∅⟩
    obtain ⟨preflight, answered, enters, runs⟩ := announced o o' _ m' clients starts
    obtain ⟨_, _, state, kept⟩ := kept_of_enters starts
    obtain ⟨s, ran, same, first⟩ := runs (fun _ => 0) (fun _ => .error "")
    obtain ⟨s', ran', tried⟩ := exec_evacuateNode kept
      ⟨sit.store.map o'.store, fun _ => 0, fun _ => .error ""⟩ (o'.clients.arrange clients)
    obtain rfl : s = s' := congrArg Prod.snd (Option.some.inj (ran.symm.trans ran'))
    rw [tried] at same first
    exact ⟨preflight, answered, enters, same, first⟩
  · intro announced o o' m m' clients starts
    obtain ⟨known, flagged, state, kept⟩ := kept_of_enters starts
    obtain ⟨preflight, answered, enters, same, first⟩ := announced clients known flagged o o'
    refine ⟨preflight, answered, enters, ?_⟩
    intro latency migration
    obtain ⟨s, ran, tried⟩ := exec_evacuateNode kept
      ⟨sit.store.map o'.store, latency, migration⟩ (o'.clients.arrange clients)
    refine ⟨s, ran, ?_, ?_⟩
    · rw [tried]
      exact same
    · rw [tried]
      exact first

end Runs

section Choices

variable {cluster node : String} {sit : Situation} {o : Orders} {clients : List String}
  {preflight : MaintenancePreflight}

theorem otherNode_mem (exists' : ∃ other ∈ clients, other ≠ node) :
    otherNode node clients ∈ clients ∧ otherNode node clients ≠ node := by
  obtain ⟨other, inside, apart⟩ := exists'
  have found : (clients.find? (· ≠ node)).isSome :=
    List.find?_isSome.mpr ⟨other, inside, by simpa using apart⟩
  obtain ⟨target, chosen⟩ := Option.isSome_iff_exists.mp found
  rw [otherNode, chosen, Option.getD_some]
  exact ⟨List.mem_of_find?_eq_some chosen, by simpa using List.find?_some chosen⟩

theorem exists_other (found : otherNode node clients ≠ "") : ∃ other ∈ clients, other ≠ node := by
  rw [otherNode] at found
  cases chosen : clients.find? (· ≠ node) with
  | none =>
      rw [chosen] at found
      exact absurd rfl found
  | some target =>
      exact ⟨target, List.mem_of_find?_eq_some chosen, by simpa using List.find?_some chosen⟩

theorem otherNode_first {other : String} (inside : other ∈ clients) (apart : other ≠ node) :
    otherNode node ((Order.first fun b => decide (b = other)).arrange clients) = other := by
  rw [otherNode, Order.find_first inside (decide_eq_true apart), Option.getD_some]

theorem guests_of_answers (answers : Answers node sit o clients preflight)
    {cs : State.ClusterStore} (stored : sit.store = some cs) :
    preflight.guestsToMove =
      (vmsOn (o.store cs) node).map (vmToMove (otherNode node (o.clients.arrange clients))) ++
        (containersOn (o.store cs) node).map
          (containerToMove (otherNode node (o.clients.arrange clients))) := by
  cases answers with
  | unknown missing _ _ =>
      rw [missing] at stored
      exact nomatch stored
  | known cs' stored' guests _ =>
      obtain rfl : cs' = cs := Option.some.inj (stored'.symm.trans stored)
      exact guests

theorem critical_iff (answers : Answers node sit o clients preflight) {cs : State.ClusterStore}
    (stored : sit.store = some cs) (a : Attempt) :
    preflight.Critical a ↔ a.Listed node cs := by
  cases answers with
  | unknown missing _ _ =>
      rw [missing] at stored
      exact nomatch stored
  | known cs' stored' guests critical =>
      obtain rfl : cs' = cs := Option.some.inj (stored'.symm.trans stored)
      rw [MaintenancePreflight.Critical, critical, Attempt.Listed, ListedCritical]
      constructor
      · rintro ⟨guest, member, sameType, sameId⟩
        obtain ⟨listed, marked⟩ := List.mem_filter.mp member
        obtain ⟨vm, hosted, rfl⟩ := List.mem_map.mp listed
        have there : vm ∈ vmsOn cs' node := (vmsOn_perm o cs' node).mem_iff.mp hosted
        rw [vmToMove] at sameType sameId marked
        split_ifs at sameType sameId marked with named
        exact ⟨sameType.symm, vm, there, sameId, named⟩
      · rintro ⟨isVM, vm, hosted, sameId, named⟩
        have there : vm ∈ vmsOn (o.store cs') node := (vmsOn_perm o cs' node).mem_iff.mpr hosted
        refine ⟨vmToMove (otherNode node (o.clients.arrange clients)) vm, ?_, ?_, ?_⟩
        · apply List.mem_filter.mpr
          exact ⟨List.mem_map_of_mem there, by simp [vmToMove, named]⟩
        · simp [vmToMove, named, isVM]
        · simp [vmToMove, named, sameId]

theorem isQDevice_of_isCritical {name : String} (critical : isCritical name = true) :
    isQDevice name = true := by
  rw [isQDevice, critical, Bool.true_or]

/-- Critical guests come first in whatever order the evacuation loops. -/
theorem critical_first (fits : Fits node sit clients) {cs : State.ClusterStore}
    (stored : sit.store = some cs) (o' : Orders) (target : String) :
    ((guestsToMigrate (o'.store cs) node).map (attemptOf target)).Pairwise fun a b =>
      b.Listed node cs → a.Listed node cs := by
  have there : ∀ vm, vm ∈ vmsOn (o'.store cs) node ↔ vm ∈ vmsOn cs node :=
    fun vm => (vmsOn_perm o' cs node).mem_iff
  rw [guestsToMigrate_eq, List.map_append]
  rcases fits.critical cs stored with same | all
  · rw [List.map_append, List.append_assoc]
    refine pairwise_of_split (P := Attempt.Listed node cs) ?_ ?_
    · intro a member
      simp only [List.mem_map, List.mem_reverse, List.mem_filter, exists_exists_and_eq_and] at member
      obtain ⟨vm, ⟨hosted, critical⟩, rfl⟩ := member
      exact ⟨rfl, vm, (there vm).mp hosted, rfl, isQDevice_of_isCritical critical⟩
    · rintro a member ⟨isVM, listed⟩
      rcases List.mem_append.mp member with member | member
      · simp only [List.mem_map, List.mem_filter, exists_exists_and_eq_and] at member
        obtain ⟨vm, ⟨hosted, uncritical⟩, rfl⟩ := member
        have critical := same vm ((there vm).mp hosted) listed
        simp [critical] at uncritical
      · simp only [List.mem_map, exists_exists_and_eq_and] at member
        obtain ⟨ct, hosted, rfl⟩ := member
        exact nomatch isVM
  · refine pairwise_of_split (P := Attempt.Listed node cs) ?_ ?_
    · intro a member
      obtain ⟨guest, listed, rfl⟩ := List.mem_map.mp member
      rcases List.mem_append.mp listed with member | member
      · obtain ⟨vm, hosted, rfl⟩ := List.mem_map.mp member
        have inside := (List.mem_filter.mp (List.mem_reverse.mp hosted)).1
        exact ⟨rfl, all vm ((there vm).mp inside)⟩
      · obtain ⟨vm, hosted, rfl⟩ := List.mem_map.mp member
        have inside := (List.mem_filter.mp hosted).1
        exact ⟨rfl, all vm ((there vm).mp inside)⟩
    · rintro a member ⟨isVM, _⟩
      obtain ⟨guest, listed, rfl⟩ := List.mem_map.mp member
      obtain ⟨ct, _, rfl⟩ := List.mem_map.mp listed
      exact nomatch isVM

theorem announced_of_fits (fits : Fits node sit clients)
    (known : nodeClients cluster node sit.poller = .ok clients) (reached : sit.probes.host ≠ "")
    (o o' : Orders) :
    ∃ preflight, getMaintenancePreflight cluster node sit o = .ok preflight ∧
      preflight.canEnter = true ∧
      (attempted (sit.store.map o'.store) node
        (otherNode node (o'.clients.arrange clients))).Perm
          (preflight.guestsToMove.map GuestToMove.attempt) ∧
      (attempted (sit.store.map o'.store) node
        (otherNode node (o'.clients.arrange clients))).Pairwise fun a b =>
          preflight.Critical b → preflight.Critical a := by
  obtain ⟨preflight, answered, _, enters, answers⟩ :=
    getMaintenancePreflight_answers known reached o
  have chosen : ∀ order : Order String, otherNode node (order.arrange clients) ∈ clients ∧
      otherNode node (order.arrange clients) ≠ node := by
    intro order
    obtain ⟨other, inside, apart⟩ := fits.target
    have there := otherNode_mem ⟨other, (order.mem_arrange).mpr inside, apart⟩
    exact ⟨order.mem_arrange.mp there.1, there.2⟩
  obtain ⟨inside, apart⟩ := chosen o.clients
  obtain ⟨inside', apart'⟩ := chosen o'.clients
  have named := fits.named _ inside apart
  have named' := fits.named _ inside' apart'
  refine ⟨preflight, answered, enters.mpr ⟨named, fits.ceph, fits.qdevice⟩, ?_⟩
  cases stored : sit.store with
  | none =>
      have nothing : preflight.guestsToMove = [] := by
        cases answers with
        | unknown _ guests _ => exact guests
        | known cs stored' _ _ =>
            rw [stored] at stored'
            exact nomatch stored'
      rw [nothing]
      exact ⟨.refl _, .nil⟩
  | some cs =>
      rw [Option.map_some, attempted, if_neg named']
      constructor
      · have tried := (guestsToMigrate_perm o' cs node).map
          (attemptOf (otherNode node (o'.clients.arrange clients)))
        have listed := listed_perm o cs node (otherNode node (o.clients.arrange clients))
        have moved : preflight.guestsToMove.map GuestToMove.attempt = _ :=
          congrArg _ (guests_of_answers answers stored)
        rw [moved]
        refine tried.trans (.trans ?_ listed.symm)
        by_cases empty : vmsOn cs node ++ containersOn cs node = []
        · obtain ⟨noVMs, noContainers⟩ := List.append_eq_nil_iff.mp empty
          rw [noVMs, noContainers]
          exact .refl _
        · rw [fits.single cs stored empty _ inside _ inside' apart apart']
      · have ordered := critical_first fits stored o' (otherNode node (o'.clients.arrange clients))
        refine ordered.imp ?_
        intro a b first listed
        exact (critical_iff answers stored a).mpr (first ((critical_iff answers stored b).mp listed))

/-- Two VMs that the evacuation does not know as critical are tried in the order of the loop. -/
theorem sublist_attempts {cs : State.ClusterStore} {u v : Guest} (hosted : u ∈ vmsOn cs node)
    (hosted' : v ∈ vmsOn cs node) (apart : u ≠ v) (uncritical : isCritical u.name = false)
    (uncritical' : isCritical v.name = false) (o : Orders) (target : String) :
    [attemptOf target (.vm, u), attemptOf target (.vm, v)].Sublist
      ((guestsToMigrate (Orders.store
        { o with vms := Order.first fun entry => decide (ofVM entry.2 = u) } cs) node).map
          (attemptOf target)) := by
  obtain ⟨value, onNode⟩ := List.mem_filter.mp hosted
  obtain ⟨value', onNode'⟩ := List.mem_filter.mp hosted'
  obtain ⟨vm, member, is⟩ := List.mem_map.mp value
  obtain ⟨vm', member', is'⟩ := List.mem_map.mp value'
  obtain ⟨entry, inside, rfl⟩ := List.mem_map.mp member
  obtain ⟨entry', inside', rfl⟩ := List.mem_map.mp member'
  have fails : ofVM entry'.2 ≠ u := by
    rw [is']
    exact apart.symm
  have met := @Order.sublist_first _ (fun entry => decide (ofVM entry.2 = u)) _ _ _
    inside inside' (decide_eq_true is) (decide_eq_false fails)
  have vms := ((met.map (fun entry => entry.2)).map ofVM).filter (·.node = node)
  have others := vms.filter (!isCritical ·.name)
  have pair : ((([entry, entry'].map (fun entry => entry.2)).map ofVM).filter
      (·.node = node)).filter (!isCritical ·.name) = [u, v] := by
    simp only [List.map_cons, List.map_nil, is, is']
    simp [of_decide_eq_true onNode, of_decide_eq_true onNode', uncritical, uncritical']
  rw [pair] at others
  have tried := (others.map (GuestType.vm, ·)).map (attemptOf target)
  rw [guestsToMigrate_eq, List.map_append, List.map_append]
  apply List.Sublist.trans tried
  apply List.Sublist.trans _ (List.sublist_append_left _ _)
  exact List.sublist_append_right _ _

theorem guests_ne_nil {cs : State.ClusterStore}
    (some_ : vmsOn cs node ++ containersOn cs node ≠ []) :
    (vmsOn cs node).map (GuestType.vm, ·) ++ (containersOn cs node).map (GuestType.ct, ·) ≠ [] := by
  intro empty
  obtain ⟨noVMs, noContainers⟩ := List.append_eq_nil_iff.mp empty
  rw [List.map_eq_nil_iff.mp noVMs, List.map_eq_nil_iff.mp noContainers] at some_
  exact some_ rfl

theorem fits_of_announced (known : nodeClients cluster node sit.poller = .ok clients)
    (reached : sit.probes.host ≠ "")
    (announced : ∀ (o o' : Orders),
      ∃ preflight, getMaintenancePreflight cluster node sit o = .ok preflight ∧
        preflight.canEnter = true ∧
        (attempted (sit.store.map o'.store) node
          (otherNode node (o'.clients.arrange clients))).Perm
            (preflight.guestsToMove.map GuestToMove.attempt) ∧
        (attempted (sit.store.map o'.store) node
          (otherNode node (o'.clients.arrange clients))).Pairwise fun a b =>
            preflight.Critical b → preflight.Critical a) :
    Fits node sit clients := by
  let given : Orders := ⟨Order.asGiven, Order.asGiven, Order.asGiven⟩
  have enters : ∀ o : Orders, otherNode node (o.clients.arrange clients) ≠ "" ∧
      ¬CephBlocks sit.probes ∧ ¬QDeviceBlocks sit.probes := by
    intro o
    obtain ⟨preflight, answered, can, _⟩ := announced o o
    obtain ⟨preflight', answered', _, iff, _⟩ := getMaintenancePreflight_answers known reached o
    obtain rfl : preflight = preflight' := Except.ok.inj (answered.symm.trans answered')
    exact iff.mp can
  have named : ∀ other ∈ clients, other ≠ node → other ≠ "" := by
    intro other inside apart
    have found := (enters { given with clients := Order.first fun b => decide (b = other) }).1
    rwa [otherNode_first inside apart] at found
  refine ⟨exists_other (enters given).1, named, (enters given).2.1, (enters given).2.2, ?_, ?_⟩
  · intro cs stored some_ a inside b inside' apart apart'
    obtain ⟨preflight, answered, _, same, _⟩ := announced
      { given with clients := Order.first fun other => decide (other = a) }
      { given with clients := Order.first fun other => decide (other = b) }
    obtain ⟨preflight', answered', _, _, answers⟩ := getMaintenancePreflight_answers known reached
      { given with clients := Order.first fun other => decide (other = a) }
    obtain rfl : preflight = preflight' := Except.ok.inj (answered.symm.trans answered')
    rw [guests_of_answers answers stored, stored, Option.map_some, attempted,
      otherNode_first inside' apart', otherNode_first inside apart,
      if_neg (named b inside' apart')] at same
    have tried := ((guestsToMigrate_perm _ cs node).map (attemptOf b)).symm.trans
      (same.trans (listed_perm _ cs node a))
    obtain ⟨guest, there⟩ := List.exists_mem_of_ne_nil _ (guests_ne_nil some_)
    obtain ⟨other, _, equal⟩ := List.mem_map.mp
      (tried.mem_iff.mp (List.mem_map_of_mem (f := attemptOf b) there))
    exact congrArg Attempt.targetNode equal
  · intro cs stored
    by_contra neither
    push Not at neither
    obtain ⟨⟨v, hosted, listed, uncritical⟩, u, hosted', unlisted⟩ := neither
    have apart : u ≠ v := fun equal => unlisted (equal ▸ listed)
    have plain : isCritical u.name = false := by
      rw [← Bool.not_eq_true]
      intro critical
      exact unlisted ⟨u, hosted', rfl, isQDevice_of_isCritical critical⟩
    obtain ⟨preflight, answered, _, _, ordered⟩ := announced given
      { given with vms := Order.first fun entry => decide (ofVM entry.2 = u) }
    obtain ⟨preflight', answered', _, _, answers⟩ :=
      getMaintenancePreflight_answers known reached given
    obtain rfl : preflight = preflight' := Except.ok.inj (answered.symm.trans answered')
    rw [stored, Option.map_some, attempted, if_neg (enters given).1] at ordered
    have pair := ordered.sublist (sublist_attempts hosted' hosted apart plain
      (by simpa using uncritical) given _)
    have first := List.rel_of_pairwise_cons pair (List.mem_singleton_self _)
    have critical := (critical_iff answers stored _).mp
      (first ((critical_iff answers stored _).mpr ⟨rfl, listed⟩))
    exact unlisted critical.2

/-- Evacuations do what was announced iff none is started while a check blocks, there is one
node to go to (or nothing to move), and no announced VM without the name that the evacuation
looks for shares the node with a VM that is not announced. -/
theorem asAnnounced_iff (cluster node : String) (sit : Situation) :
    AsAnnounced cluster node sit ↔
      ∀ clients, nodeClients cluster node sit.poller = .ok clients →
        sit.probes.setCephNoout = .ok () → Fits node sit clients := by
  rw [asAnnounced_iff_lists]
  have reached : sit.probes.setCephNoout = .ok () → sit.probes.host ≠ "" := by
    intro flagged unknown
    rw [Probes.setCephNoout, if_pos unknown] at flagged
    exact nomatch flagged
  constructor
  · intro announced clients known flagged
    exact fits_of_announced known (reached flagged) (announced clients known flagged)
  · intro fits clients known flagged
    exact announced_of_fits (fits clients known flagged) known (reached flagged)

end Choices

section Lab

/-- Two nodes, of which one is to be entered while Ceph is in error. -/
def labSick : Situation :=
  ⟨some fun _ => some ["pve1", "pve2"], some (State.ClusterStore.new "lab"),
    ⟨"10.0.0.1", .ok "HEALTH_ERR 1 full osd(s)", .ok "NO_QDEVICE", .ok ()⟩⟩

theorem evacuates_while_blocked : ¬∀ cluster node sit, AsAnnounced cluster node sit := by
  intro announced
  have lists := asAnnounced_iff_lists.mp (announced "lab" "pve1" labSick)
  have known : nodeClients "lab" "pve1" labSick.poller = .ok ["pve1", "pve2"] := by decide
  have fits := fits_of_announced known (by decide) (lists _ known rfl)
  have blocks : CephBlocks labSick.probes :=
    ⟨_, rfl, by decide +kernel, by decide +kernel, by decide +kernel⟩
  exact fits.ceph blocks

end Lab

end Maintenance
