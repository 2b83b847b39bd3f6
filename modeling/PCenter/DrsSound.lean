import Mathlib.Data.List.Flatten
import PCenter.DrsCheck

/-!
# What the recommendations of a run promise

Each recommendation is to move a running guest off an overloaded node, to an underloaded one
that the rules allow, and a list of them is to name no guest and no identifier twice. The
selection of candidates and targets keeps this but for what it does not look at: whether a
container is a template, and the pins of a guest behind one that names no host. Identifiers end
in one character that counts.
-/

namespace Drs

open FiniteMap (values)
open Floating (ofRat)

/-- The guest runs on the node, as the store has it. -/
def Running (cs : State.ClusterStore) (g : Guest) (node : String) : Prop :=
  match g.type with
  | .vm => ∃ vm, cs.vms.lookup g.vmid = some vm ∧ vm.status = "running" ∧ vm.node = node
  | .ct => ∃ ct, cs.containers.lookup g.vmid = some ct ∧ ct.status = "running" ∧ ct.node = node

def Template (cs : State.ClusterStore) (g : Guest) : Prop :=
  match g.type with
  | .vm => ∃ vm, cs.vms.lookup g.vmid = some vm ∧ vm.template = true
  | .ct => ∃ ct, cs.containers.lookup g.vmid = some ct ∧ ct.template = true

/-- An enabled rule that pins the guest to its host. -/
def Pins (vmid : Int64) (rule : Rule) : Prop :=
  rule.enabled = true ∧ rule.type = .hostPin ∧ vmid ∈ rule.members

section Promise

variable {F : Type} [Floating F] (s : Scheduler F) (rules : List Rule)

/-- The load of one node of the store. -/
def loadOn (cs : State.ClusterStore) (node : Pve.Node) : NodeLoad F :=
  loadOf (values cs.vms) (values cs.containers) node

/-- What one recommendation is to be. -/
structure Justified (cs : State.ClusterStore) (r : DRSRecommendation) : Prop where
  running : Running cs r.migration.guest r.fromNode
  noTemplate : ¬Template cs r.migration.guest
  different : r.fromNode ≠ r.toNode
  source : ∃ node, cs.nodes.lookup r.fromNode = some node ∧ node.status = "online" ∧
    ((loadOn (F := F) cs node).cpuUsage > s.cfg.cpuThreshold ∨
      (loadOn (F := F) cs node).memUsage > s.cfg.memThreshold)
  target : ∃ node, cs.nodes.lookup r.toNode = some node ∧ node.status = "online" ∧
    (loadOn (F := F) cs node).cpuUsage < s.cfg.cpuThreshold * ofRat 0.5 ∧
      (loadOn (F := F) cs node).memUsage < s.cfg.memThreshold * ofRat 0.5
  pinned : ∀ rule ∈ rules, Pins r.vmid rule →
    ∃ rule' ∈ rules, Pins r.vmid rule' ∧ rule'.hostNode = r.toNode
  apart : ∀ other, Apart rules r.vmid other → ¬RunsOn cs other r.toNode

/-- What the recommendations for a cluster are to be. -/
structure SoundBatch (store : State.Store) (clusterName : String)
    (recommendations : List DRSRecommendation) : Prop where
  each : ∀ r ∈ recommendations, r.cluster = clusterName ∧
    ∃ cs, store.getCluster clusterName = some cs ∧ Justified s rules cs r
  guests : (recommendations.map fun r => r.migration.guest).Nodup
  rate : (recommendations.length : Int) ≤ s.cfg.migrationRate
  ids : (recommendations.map (·.id)).Nodup

/-- What the selection does not look at: a container that is a template, and the pins of a guest
whose first pin names no host. -/
def Overseen (cs : State.ClusterStore) (m : Move F) : Prop :=
  (m.candidate.guestType = .ct ∧ Template cs m.guest) ∨
    (getPinnedHost m.guest.vmid rules = "" ∧ (∃ rule ∈ rules, Pins m.guest.vmid rule) ∧
      ∀ rule ∈ rules, Pins m.guest.vmid rule → rule.hostNode ≠ m.target.node)

end Promise

/-- The cluster has nodes to choose from and is not balanced, so that moves are looked for. -/
def Proposes (F : Type) [Floating F] (cs : State.ClusterStore) : Prop :=
  let loads : List (NodeLoad F) := calculateNodeLoads cs
  ¬((values cs.nodes).length < 2 ∨ loads.length < 2) ∧
    ¬(calculateStdDev loads (·.cpuUsage) < ofRat 0.15 ∧
      calculateStdDev loads (·.memUsage) < ofRat 0.15)

/-- The number counts to no character, or to the one that stands for those. -/
def Unlettered (n : Nat) : Prop :=
  ¬((97 + n) % 2 ^ 32).isValidChar ∨ (97 + n) % 2 ^ 32 = 0xFFFD

theorem letter_eq_iff (i j : Nat) :
    letter i = letter j ↔
      (97 + i) % 2 ^ 32 = (97 + j) % 2 ^ 32 ∨ Unlettered i ∧ Unlettered j := by
  have code : ∀ n, (letter n).toNat =
      if ((97 + n) % 2 ^ 32).isValidChar then (97 + n) % 2 ^ 32 else 0xFFFD := by
    intro n
    rw [letter]
    split
    · rename_i valid
      rw [Char.ofNat, dif_pos valid]
      rfl
    · decide
  rw [← Char.toNat_inj, code i, code j, Unlettered, Unlettered]
  have replacement : Nat.isValidChar 0xFFFD := by decide
  by_cases first : ((97 + i) % 2 ^ 32).isValidChar
  · by_cases second : ((97 + j) % 2 ^ 32).isValidChar
    · rw [if_pos first, if_pos second]
      simp only [first, second, not_true, false_or]
      omega
    · rw [if_pos first, if_neg second]
      simp only [first, second, not_true, not_false_eq_true, true_or, false_or, and_true]
      refine ⟨Or.inr, ?_⟩
      rintro (same | same)
      · exact absurd (same ▸ first) second
      · exact same
  · by_cases second : ((97 + j) % 2 ^ 32).isValidChar
    · rw [if_neg first, if_pos second]
      simp only [first, second, not_true, not_false_eq_true, true_or, false_or, true_and]
      refine ⟨fun same => Or.inr same.symm, ?_⟩
      rintro (same | same)
      · exact absurd (same ▸ second) first
      · exact same.symm
    · simp only [first, second, if_false, not_false_eq_true, true_or, and_self, or_true]

section Selected

variable {F : Type} [Floating F] {s : Scheduler F} {rules : List Rule} {cs : State.ClusterStore}
  {m : Move F}

/-- VMs are taken only when they are no templates and not pinned, containers always. -/
theorem mem_candidates {src : NodeLoad F} {c : Candidate F}
    (picked : c ∈ s.selectMigrationCandidates rules src) :
    (∃ vm ∈ src.vms, vm.template = false ∧ c.guestType = .vm ∧ c.vmid = vm.vmid) ∨
      ∃ ct ∈ src.cts, c.guestType = .ct ∧ c.vmid = ct.vmid := by
  have listed := (s.slices.perm _ _).mem_iff.mp (List.mem_of_mem_take picked)
  rcases List.mem_append.mp listed with ofVM | ofCT
  · obtain ⟨vm, there, rfl⟩ := List.mem_map.mp ofVM
    obtain ⟨inside, fit⟩ := List.mem_filter.mp there
    have plain : vm.template = false := Bool.eq_false_iff.mpr (of_decide_eq_true fit).1
    exact Or.inl ⟨vm, inside, plain, rfl, rfl⟩
  · obtain ⟨ct, there, rfl⟩ := List.mem_map.mp ofCT
    exact Or.inr ⟨ct, there, rfl, rfl⟩

theorem running_and_template (keyed : Keyed cs)
    (member : m ∈ s.moves rules (calculateNodeLoads cs)) :
    Running cs m.guest m.source.node ∧ (m.candidate.guestType = .vm → ¬Template cs m.guest) := by
  obtain ⟨there, picked, -⟩ := mem_moves.mp member
  obtain ⟨node, -, shape⟩ := List.mem_map.mp (mem_overloaded.mp there).1
  rcases mem_candidates picked with ⟨vm, inside, plain, type, number⟩ | ⟨ct, inside, type, number⟩
  · rw [← shape] at inside ⊢
    obtain ⟨listed, fit⟩ := List.mem_filter.mp inside
    obtain ⟨running, on⟩ := of_decide_eq_true fit
    obtain ⟨k, stored⟩ := FiniteMap.mem_values_iff.mp listed
    obtain rfl := keyed.vms k vm stored
    have guest : m.guest = ⟨.vm, vm.vmid⟩ := by rw [Move.guest, type, number]
    rw [guest]
    refine ⟨⟨vm, stored, running, on⟩, ?_⟩
    rintro - ⟨vm', stored', marked⟩
    obtain rfl := Option.some.inj (stored.symm.trans stored')
    exact absurd marked (Bool.eq_false_iff.mp plain)
  · rw [← shape] at inside ⊢
    obtain ⟨listed, fit⟩ := List.mem_filter.mp inside
    obtain ⟨running, on⟩ := of_decide_eq_true fit
    obtain ⟨k, stored⟩ := FiniteMap.mem_values_iff.mp listed
    obtain rfl := keyed.containers k ct stored
    have guest : m.guest = ⟨.ct, ct.vmid⟩ := by rw [Move.guest, type, number]
    rw [guest]
    refine ⟨⟨ct, stored, running, on⟩, fun vm => ?_⟩
    cases type.symm.trans vm

theorem online_of_load (keyed : Keyed cs) {load : NodeLoad F}
    (there : load ∈ calculateNodeLoads cs) :
    ∃ node, cs.nodes.lookup load.node = some node ∧ node.status = "online" ∧
      load = loadOn cs node := by
  obtain ⟨node, listed, rfl⟩ := List.mem_map.mp there
  obtain ⟨inside, online⟩ := List.mem_filter.mp listed
  obtain ⟨k, stored⟩ := FiniteMap.mem_values_iff.mp inside
  obtain rfl := keyed.nodes k node stored
  exact ⟨node, stored, of_decide_eq_true online, rfl⟩

theorem pins_of_host {vmid : Int64} (pinned : getPinnedHost vmid rules ≠ "") :
    ∃ rule ∈ rules, Pins vmid rule ∧ rule.hostNode = getPinnedHost vmid rules := by
  rw [getPinnedHost] at pinned ⊢
  split at pinned
  · rename_i rule first
    have fit : rule.enabled = true ∧ rule.type = .hostPin ∧ vmid ∈ rule.members := by
      simpa using List.find?_some first
    exact ⟨rule, List.mem_of_find?_eq_some first, fit, rfl⟩
  · exact absurd rfl pinned

/-- The target is the host of a pin, if there is a pin, but for a pin that shadows the others. -/
theorem pinned_iff (member : m ∈ s.moves rules (calculateNodeLoads cs)) :
    (∀ rule ∈ rules, Pins m.guest.vmid rule →
        ∃ rule' ∈ rules, Pins m.guest.vmid rule' ∧ rule'.hostNode = m.target.node) ↔
      ¬(getPinnedHost m.guest.vmid rules = "" ∧ (∃ rule ∈ rules, Pins m.guest.vmid rule) ∧
        ∀ rule ∈ rules, Pins m.guest.vmid rule → rule.hostNode ≠ m.target.node) := by
  constructor
  · rintro followed ⟨-, ⟨rule, listed, pins⟩, others⟩
    obtain ⟨rule', listed', pins', host⟩ := followed rule listed pins
    exact others rule' listed' pins' host
  · intro open_ rule listed pins
    by_contra missed
    push Not at missed
    rcases pinned_target member with none_ | target
    · exact open_ ⟨none_, ⟨rule, listed, pins⟩, missed⟩
    · by_cases empty : getPinnedHost m.guest.vmid rules = ""
      · exact open_ ⟨empty, ⟨rule, listed, pins⟩, missed⟩
      · obtain ⟨rule', listed', pins', host⟩ := pins_of_host empty
        exact missed rule' listed' pins' (host.trans target)

/-- A move is as it is to be unless the selection has not looked. -/
theorem justified_iff (keyed : Keyed cs) (member : m ∈ s.moves rules (calculateNodeLoads cs))
    {clusterName : String} {recID : Nat} :
    Justified s rules cs (s.recommendation clusterName recID m.source m.candidate m.target) ↔
      ¬Overseen rules cs m := by
  obtain ⟨there, -, found⟩ := mem_moves.mp member
  obtain ⟨running, plain⟩ := running_and_template keyed member
  rw [Overseen, not_or, ← pinned_iff member]
  constructor
  · intro justified
    exact ⟨fun ⟨_, template⟩ => justified.noTemplate template, justified.pinned⟩
  · rintro ⟨noTemplate, pinned⟩
    refine ⟨running, ?_, source_ne_target keyed member, ?_, ?_, pinned, ?_⟩
    · cases type : m.candidate.guestType with
      | vm => exact plain type
      | ct => exact fun template => noTemplate ⟨type, template⟩
    · obtain ⟨listed, high⟩ := mem_overloaded.mp there
      obtain ⟨node, stored, online, same⟩ := online_of_load keyed listed
      refine ⟨node, stored, online, ?_⟩
      rw [← same]
      exact of_decide_eq_true high
    · obtain ⟨listed, low⟩ := mem_underloaded.mp (List.mem_of_find?_eq_some found)
      obtain ⟨node, stored, online, same⟩ := online_of_load keyed listed
      refine ⟨node, stored, online, ?_⟩
      rw [← same]
      exact (of_decide_eq_true low).2
    · exact fun other apart => not_runsOn_target member apart

end Selected

section Distinct

variable {F : Type} [Floating F] {s : Scheduler F} {rules : List Rule} {clusterName : String}

def Candidate.guest (c : Candidate F) : Guest := ⟨c.guestType, c.vmid⟩

theorem nodup_candidates {src : NodeLoad F} (unique : src.guests.Nodup) :
    ((s.selectMigrationCandidates rules src).map Candidate.guest).Nodup := by
  rw [Scheduler.selectMigrationCandidates]
  refine ((List.take_sublist _ _).map _).nodup ?_
  refine ((s.slices.perm _ _).map _).nodup_iff.mpr (List.Sublist.nodup ?_ unique)
  rw [List.map_append, List.map_map, List.map_map]
  exact (List.filter_sublist.map _).append (List.Sublist.refl _)

theorem guests_movesOf (targets : List (NodeLoad F)) (src : NodeLoad F)
    (candidates : List (Candidate F)) :
    ((s.movesOf rules targets src candidates).map Move.guest).Sublist
      (candidates.map Candidate.guest) := by
  induction candidates with
  | nil => exact List.Sublist.refl _
  | cons c rest ih =>
      cases found : s.selectTargetNode rules targets c with
      | none =>
          simp only [Scheduler.movesOf, List.filterMap_cons, found, Option.map_none, List.map_cons]
          exact ih.cons _
      | some target =>
          simp only [Scheduler.movesOf, List.filterMap_cons, found, Option.map_some, List.map_cons]
          exact ih.cons_cons _

theorem nodup_guests_moves (load : ClusterLoad F) :
    ((s.moves rules load.loads).map Move.guest).Nodup := by
  have busy : ((s.overloaded load.loads).flatMap NodeLoad.guests).Nodup := by
    refine ((s.slices.perm _ _).flatMap_right _).nodup_iff.mpr ?_
    exact (List.filter_sublist.flatMap _).nodup load.guests
  obtain ⟨own, apart⟩ := List.nodup_flatMap.mp busy
  rw [Scheduler.moves, List.map_flatMap]
  refine List.nodup_flatMap.mpr ⟨?_, apart.imp ?_⟩
  · intro src there
    exact (guests_movesOf _ src _).nodup (nodup_candidates (own src there))
  · intro a b disjoint g first second
    have inside : ∀ src, g ∈ (s.movesFrom rules (s.underloaded load.loads) src).map Move.guest →
        g ∈ src.guests := by
      intro src member
      obtain ⟨c, picked, rfl⟩ := List.mem_map.mp ((guests_movesOf _ src _).subset member)
      exact guest_of_candidate picked
    exact disjoint (inside a first) (inside b second)

theorem guests_numbered (ms : List (Move F)) (recID : Nat) :
    ((s.numbered clusterName recID ms).map fun r => r.migration.guest) = ms.map Move.guest := by
  induction ms generalizing recID with
  | nil => rfl
  | cons m rest ih => exact congrArg (m.guest :: ·) (ih (recID + 1))

omit [Floating F] in
theorem generateRecID_eq_iff (i j : Nat) :
    s.generateRecID clusterName i = s.generateRecID clusterName j ↔
      s.stamp i = s.stamp j ∧ letter i = letter j := by
  constructor
  · intro same
    have texts := congrArg String.toList same
    simp only [Scheduler.generateRecID, String.toList_append, String.toList_singleton] at texts
    obtain ⟨before, last⟩ := List.append_inj' texts rfl
    refine ⟨?_, List.head_eq_of_cons_eq last⟩
    exact String.toList_inj.mp (List.append_cancel_left (List.append_cancel_right before))
  · rintro ⟨stamps, letters⟩
    rw [Scheduler.generateRecID, Scheduler.generateRecID, stamps, letters]

theorem ids_numbered (ms : List (Move F)) (recID : Nat) :
    (s.numbered clusterName recID ms).map (·.id) =
      (List.range' (recID + 1) ms.length).map (s.generateRecID clusterName) := by
  induction ms generalizing recID with
  | nil => rfl
  | cons m rest ih =>
      rw [List.length_cons, List.range'_succ, List.map_cons, ← ih (recID + 1)]
      rfl

/-- The identifiers differ iff no two numbers get one text of the time and one character. -/
theorem nodup_ids_iff (ms : List (Move F)) :
    ((s.numbered clusterName 0 ms).map (·.id)).Nodup ↔
      ∀ i j, 0 < i → i < j → j ≤ ms.length → s.stamp i = s.stamp j →
        (97 + i) % 2 ^ 32 ≠ (97 + j) % 2 ^ 32 ∧ ¬(Unlettered i ∧ Unlettered j) := by
  rw [ids_numbered, List.nodup_map_iff_inj_on List.nodup_range']
  simp only [List.mem_range'_1, generateRecID_eq_iff]
  constructor
  · intro injective i j positive before last stamps
    refine not_or.mp fun same => ?_
    have one := injective i ⟨by omega, by omega⟩ j ⟨by omega, by omega⟩
      ⟨stamps, (letter_eq_iff i j).mpr same⟩
    omega
  · rintro apart i ⟨first, last⟩ j ⟨first', last'⟩ ⟨stamps, letters⟩
    by_contra different
    rcases Nat.lt_or_gt_of_ne different with before | after
    · have clear := apart i j (by omega) before (by omega) stamps
      exact not_or.mpr clear ((letter_eq_iff i j).mp letters)
    · have clear := apart j i (by omega) after (by omega) stamps.symm
      exact not_or.mpr clear ((letter_eq_iff j i).mp letters.symm)

end Distinct

section Analysis

variable {F : Type} [Floating F] {s : Scheduler F} {rules : List Rule} {store : State.Store}
  {clusterName : String}

theorem recommendation_of_numbered {ms : List (Move F)} {recID : Nat} {r : DRSRecommendation} :
    r ∈ s.numbered clusterName recID ms →
      ∃ m ∈ ms, ∃ n, r = s.recommendation clusterName n m.source m.candidate m.target := by
  induction ms generalizing recID with
  | nil => exact fun member => nomatch member
  | cons m rest ih =>
      rintro (_ | ⟨_, later⟩)
      · exact ⟨m, List.mem_cons_self, recID + 1, rfl⟩
      · obtain ⟨m', there, made⟩ := ih later
        exact ⟨m', List.mem_cons_of_mem _ there, made⟩

theorem mem_numbered_of_mem {ms : List (Move F)} {recID : Nat} {m : Move F} (member : m ∈ ms) :
    ∃ n, s.recommendation clusterName n m.source m.candidate m.target ∈
      s.numbered clusterName recID ms := by
  induction ms generalizing recID with
  | nil => exact nomatch member
  | cons first rest ih =>
      rcases List.mem_cons.mp member with rfl | later
      · exact ⟨recID + 1, List.mem_cons_self⟩
      · obtain ⟨n, there⟩ := @ih (recID + 1) later
        exact ⟨n, List.mem_cons_of_mem _ there⟩

theorem analyze_eq {cs : State.ClusterStore} (found : store.getCluster clusterName = some cs)
    (proposes : Proposes F cs) :
    s.analyzeCluster rules store clusterName =
      s.numbered clusterName 0 ((s.moves rules (calculateNodeLoads cs)).take s.limit) := by
  simp only [Scheduler.analyzeCluster, found, if_neg proposes.1, if_neg proposes.2]
  exact generateRecommendations_eq

theorem analyze_idle
    (idle : ∀ cs, store.getCluster clusterName = some cs → ¬Proposes F cs) :
    s.analyzeCluster rules store clusterName = [] := by
  cases found : store.getCluster clusterName with
  | none => simp only [Scheduler.analyzeCluster, found]
  | some cs =>
      have not := idle cs found
      rw [Proposes] at not
      simp only [Scheduler.analyzeCluster, found]
      split
      · rfl
      · split
        · rfl
        · rename_i enough uneven
          exact (not ⟨enough, uneven⟩).elim

theorem sound_nil (rate : 1 ≤ s.cfg.migrationRate) : SoundBatch s rules store clusterName [] where
  each := List.forall_mem_nil _
  guests := List.nodup_nil
  rate := by
    rw [List.length_nil]
    omega
  ids := List.nodup_nil

/-- The recommendations of a run are as promised iff no move is one that the selection has not
looked at, and no two numbers get one identifier. -/
theorem soundBatch_iff
    (written : ∀ cs, store.getCluster clusterName = some cs → Written cs)
    (rate : 1 ≤ s.cfg.migrationRate) :
    SoundBatch s rules store clusterName (s.analyzeCluster rules store clusterName) ↔
      ∀ cs, store.getCluster clusterName = some cs → Proposes F cs →
        (∀ m ∈ (s.moves rules (calculateNodeLoads cs)).take s.limit, ¬Overseen rules cs m) ∧
          ∀ i j, 0 < i → i < j →
            j ≤ ((s.moves rules (calculateNodeLoads cs)).take s.limit).length →
            s.stamp i = s.stamp j →
              (97 + i) % 2 ^ 32 ≠ (97 + j) % 2 ^ 32 ∧ ¬(Unlettered i ∧ Unlettered j) := by
  by_cases busy : ∃ cs, store.getCluster clusterName = some cs ∧ Proposes F cs
  · obtain ⟨cs, found, proposes⟩ := busy
    have keyed := keyed_of_written (written cs found)
    have listed : ∀ m ∈ (s.moves rules (calculateNodeLoads cs)).take s.limit,
        m ∈ s.moves rules (calculateNodeLoads cs) := fun m member => List.mem_of_mem_take member
    rw [analyze_eq found proposes]
    constructor
    · intro sound cs' found' _
      obtain rfl := Option.some.inj (found.symm.trans found')
      refine ⟨fun m member => ?_, (nodup_ids_iff _).mp sound.ids⟩
      obtain ⟨n, there⟩ := @mem_numbered_of_mem F _ s clusterName _ 0 m member
      obtain ⟨-, cs', found', justified⟩ := sound.each _ there
      obtain rfl := Option.some.inj (found.symm.trans found')
      exact (justified_iff keyed (listed m member)).mp justified
    · intro clear
      obtain ⟨looked, distinct⟩ := clear cs found proposes
      constructor
      · intro r member
        obtain ⟨m, there, n, rfl⟩ := recommendation_of_numbered member
        exact ⟨rfl, cs, found, (justified_iff keyed (listed m there)).mpr (looked m there)⟩
      · rw [guests_numbered]
        refine List.Sublist.nodup ((List.take_sublist _ _).map _) ?_
        exact nodup_guests_moves (clusterLoad keyed)
      · rw [length_numbered]
        have short := List.length_take_le s.limit (s.moves rules (calculateNodeLoads (F := F) cs))
        rw [Scheduler.limit] at short ⊢
        omega
      · exact (nodup_ids_iff _).mpr distinct
  · have idle : ∀ cs, store.getCluster clusterName = some cs → ¬Proposes F cs :=
      fun cs found proposes => busy ⟨cs, found, proposes⟩
    rw [analyze_idle idle]
    refine ⟨fun _ cs found proposes => (idle cs found proposes).elim, fun _ => sound_nil rate⟩

/-- The recommendations for a store are as promised iff no guest that is due is one that the
selection does not look at, and no two numbers up to the guests with a place, or the limit, get one
identifier. -/
theorem recommendations_sound_iff
    (written : ∀ cs, store.getCluster clusterName = some cs → Written cs)
    (rate : 1 ≤ s.cfg.migrationRate) :
    SoundBatch s rules store clusterName (s.analyzeCluster rules store clusterName) ↔
      ∀ cs, store.getCluster clusterName = some cs → Proposes F cs →
        (∀ m : Move F, s.Due rules (calculateNodeLoads cs) m → ¬Overseen rules cs m) ∧
          ∀ i j, 0 < i → i < j → j ≤ s.limit →
            j ≤ (s.queue rules (calculateNodeLoads cs)).countP
              (fun waiting => s.placeable rules (calculateNodeLoads cs) waiting.2) →
            s.stamp i = s.stamp j →
              (97 + i) % 2 ^ 32 ≠ (97 + j) % 2 ^ 32 ∧ ¬(Unlettered i ∧ Unlettered j) := by
  rw [soundBatch_iff written rate]
  simp only [mem_take_moves_iff, length_take_moves, le_min_iff, and_imp]

end Analysis

def templateContainer : Pve.Container :=
  { (default : Pve.Container) with
    vmid := 200, node := "n1", status := "running", mem := 512, template := true }

/-- A poll that finds the template on a busy node. -/
def templatePoll : Write :=
  .poll 0 "n1"
    { node := .ok (onlineNode "n1" 0.9375), nodeDetails := .ok none, vmStats := .ok none
      vms := .ok [], containers := .ok [templateContainer], storage := .ok []
      ceph := .error "no ceph", netIfaces := .ok [] }
    fun _ answer => Except.ok.inj answer ▸ rfl

/-- A busy node with a container that is a template, and an idle one. -/
def templateLab : State.ClusterStore :=
  write (write (.new "lab") templatePoll) (polled (onlineNode "n2" 0.0625) [])

theorem templateLab_written : Written templateLab :=
  .step _ _ (.step _ _ (.init _ ⟨"lab", rfl⟩))

def templateStore : State.Store := (⟨∅⟩ : State.Store).putCluster "lab" templateLab

/-- Two VMs that are to be apart, and no container: the recommendations are sound. -/
theorem pair_moves_soundly :
    SoundBatch scheduler (pairRule .antiAffinity).rules labStore "lab"
      (scheduler.analyzeCluster (pairRule .antiAffinity).rules labStore "lab") := by
  have stored : labStore.getCluster "lab" = some lab := rfl
  refine (recommendations_sound_iff ?_ (by decide)).mpr ?_
  · intro cs found
    obtain rfl := Option.some.inj (stored.symm.trans found)
    exact lab_written
  · intro cs found _
    obtain rfl := Option.some.inj (stored.symm.trans found)
    constructor
    · rintro m - (⟨type, template⟩ | ⟨-, ⟨rule, listed, -, type, -⟩, -⟩)
      · rw [Template, Move.guest, type] at template
        obtain ⟨ct, found, -⟩ := template
        cases found
      · rw [List.mem_singleton.mp listed] at type
        cases type
    · intro i j positive before last _ _
      have two : scheduler.limit = 2 := by decide
      obtain rfl : i = 1 := by omega
      obtain rfl : j = 2 := by omega
      refine ⟨by decide, ?_⟩
      rintro ⟨invalid | replaced, -⟩
      · exact invalid (by decide)
      · exact absurd replaced (by decide)

/-- Templates are skipped among the VMs only. -/
theorem template_is_moved :
    Written templateLab ∧
      ¬SoundBatch scheduler [] templateStore "lab"
        (scheduler.analyzeCluster [] templateStore "lab") := by
  refine ⟨templateLab_written, fun sound => ?_⟩
  have proposed : (⟨⟨.ct, 200⟩, "n1", "n2"⟩ : Migration) ∈
      (scheduler.analyzeCluster [] templateStore "lab").map (·.migration) := by
    decide +kernel
  obtain ⟨r, member, shape⟩ := List.mem_map.mp proposed
  obtain ⟨-, cs, found, justified⟩ := sound.each r member
  have stored : templateStore.getCluster "lab" = some templateLab := rfl
  obtain rfl := Option.some.inj (stored.symm.trans found)
  refine justified.noTemplate ?_
  rw [shape]
  exact ⟨_, rfl, rfl⟩

end Drs
