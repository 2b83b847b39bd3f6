import Mathlib.Data.Finset.Card
import Mathlib.Data.List.Dedup
import PCenter.AgentHub
import PCenter.Drs
import PCenter.Lib.Transition
import PCenter.Poller

/-!
# Rule violations, and what the planner does not see of them

`CheckViolations` reports the rules that the recorded guests break; the planner of `Drs` reads
the same rules in its own way. Here the reports before and after the move of one recommendation
are compared. Go has no fixed order in which it iterates over a map, so that the order of the
violations of one rule is not fixed either.
-/

namespace Drs

open FiniteMap (values)

structure RuleViolation where
  ruleID : String
  ruleName : String
  ruleType : String
  cluster : String
  message : String
  deriving DecidableEq, Repr

def RuleType.text : RuleType → String
  | .affinity => "affinity"
  | .antiAffinity => "anti-affinity"
  | .hostPin => "host-pin"
  | .other text => text

/-- `fmt.Sprintf("%v")` of numbers. -/
def formatInts (ns : List Int64) : String :=
  "[" ++ String.intercalate " " (ns.map fun n => toString n.toInt) ++ "]"

/-- `vmNode`, with the containers written over the VMs. -/
def vmNode (cs : State.ClusterStore) : FiniteMap.Map Int64 String :=
  let ofVMs : FiniteMap.Map Int64 String :=
    (values cs.vms).foldl (fun nodes vm => nodes.insert vm.vmid vm.node) ∅
  (values cs.containers).foldl (fun nodes ct => nodes.insert ct.vmid ct.node) ofVMs

def nodeOf (cs : State.ClusterStore) (vmid : Int64) : Option String := (vmNode cs).lookup vmid

section Check

variable (nodeOf : Int64 → Option String) (clusterName : String)

/-- The nodes of the recorded members of a rule. -/
def Rule.places (rule : Rule) : List String := rule.members.filterMap nodeOf

/-- `nodeMembers`: each node with the members on it. -/
def nodeMembers (rule : Rule) : List (String × List Int64) :=
  (rule.places nodeOf).dedup.map fun node =>
    (node, rule.members.filter fun vmid => nodeOf vmid = some node)

def violation (rule : Rule) (message : String) : RuleViolation :=
  { ruleID := rule.id, ruleName := rule.name, ruleType := rule.type.text
    cluster := clusterName, message := message }

/-- What one enabled rule adds. -/
def checkRule (rule : Rule) : List RuleViolation :=
  match rule.type with
  | .antiAffinity =>
      ((nodeMembers nodeOf rule).filter fun entry => entry.2.length > 1).map fun entry =>
        violation clusterName rule
          ("VMs " ++ formatInts entry.2 ++ " are on the same node " ++ entry.1)
  | .affinity =>
      if (rule.places nodeOf).dedup.length > 1 then
        [violation clusterName rule
          ("Members are spread across " ++ toString (rule.places nodeOf).dedup.length ++
            " nodes (should be co-located)")]
      else []
  | .hostPin =>
      rule.members.filterMap fun vmid =>
        ((nodeOf vmid).filter fun node => node ≠ rule.hostNode).map fun node =>
          violation clusterName rule
            ("VM " ++ toString vmid.toInt ++ " is on " ++ node ++ " but should be pinned to " ++
              rule.hostNode)
  | .other _ => []

end Check

/-- `CheckViolations`, with the rules of the cluster. -/
def checkViolations (rules : List Rule) (store : State.Store) (clusterName : String) :
    List RuleViolation :=
  if rules = [] then []
  else
    match store.getCluster clusterName with
    | none => []
    | some cs => (rules.filter (·.enabled)).flatMap (checkRule (nodeOf cs) clusterName)

/-- The recorded nodes keep the rule. -/
def Kept (nodeOf : Int64 → Option String) (rule : Rule) : Prop :=
  match rule.type with
  | .antiAffinity => (rule.places nodeOf).Nodup
  | .affinity => ∀ node ∈ rule.places nodeOf, ∀ node' ∈ rule.places nodeOf, node = node'
  | .hostPin => ∀ node ∈ rule.places nodeOf, node = rule.hostNode
  | .other _ => True

section Reports

variable {nodeOf : Int64 → Option String} {clusterName : String} {rule : Rule}

theorem mem_places {node : String} :
    node ∈ rule.places nodeOf ↔ ∃ vmid ∈ rule.members, nodeOf vmid = some node := by
  exact List.mem_filterMap

theorem nodup_places_iff :
    (rule.places nodeOf).Nodup ↔
      ∀ entry ∈ nodeMembers nodeOf rule, ¬entry.2.length > 1 := by
  have size : ∀ node, (rule.places nodeOf).count node =
      (rule.members.filter fun vmid => nodeOf vmid = some node).length := by
    intro node
    rw [Rule.places, List.count_filterMap, List.countP_eq_length_filter]
    refine congrArg List.length (List.filter_congr ?_)
    intro vmid _
    exact Bool.beq_eq_decide_eq _ _
  rw [List.nodup_iff_count_le_one]
  constructor
  · intro once entry member
    obtain ⟨node, -, rfl⟩ := List.mem_map.mp member
    have bound := once node
    rw [size] at bound
    exact Nat.not_lt.mpr bound
  · intro small node
    by_cases there : node ∈ rule.places nodeOf
    · have bound := small _ (List.mem_map_of_mem (List.mem_dedup.mpr there))
      rw [size]
      exact Nat.not_lt.mp bound
    · rw [List.count_eq_zero_of_not_mem there]
      exact Nat.zero_le 1

theorem checkRule_eq_nil_iff : checkRule nodeOf clusterName rule = [] ↔ Kept nodeOf rule := by
  cases shape : rule.type with
  | antiAffinity =>
      simp only [checkRule, Kept, shape, List.map_eq_nil_iff, List.filter_eq_nil_iff,
        nodup_places_iff, decide_eq_true_eq]
  | affinity =>
      have one : (rule.places nodeOf).dedup.length ≤ 1 ↔
          ∀ node ∈ rule.places nodeOf, ∀ node' ∈ rule.places nodeOf, node = node' := by
        rw [← List.card_toFinset, Finset.card_le_one]
        simp only [List.mem_toFinset]
      simp only [checkRule, Kept, shape, ite_eq_right_iff, List.cons_ne_nil, imp_false, not_lt]
      exact one
  | hostPin =>
      simp only [checkRule, Kept, shape, List.filterMap_eq_nil_iff, Option.map_eq_none_iff]
      constructor
      · intro none_ node member
        obtain ⟨vmid, there, on⟩ := mem_places.mp member
        have clear := none_ vmid there
        rw [on] at clear
        simpa using clear
      · intro right vmid member
        cases on : nodeOf vmid with
        | none => rfl
        | some node => simp [right node (mem_places.mpr ⟨vmid, member, on⟩)]
  | other text => simp [checkRule, Kept, shape]

theorem ruleID_of_mem {v : RuleViolation} (member : v ∈ checkRule nodeOf clusterName rule) :
    v.ruleID = rule.id := by
  cases shape : rule.type with
  | antiAffinity =>
      simp only [checkRule, shape] at member
      obtain ⟨_, -, rfl⟩ := List.mem_map.mp member
      rfl
  | affinity =>
      simp only [checkRule, shape] at member
      split at member
      · rw [List.mem_singleton.mp member]
        rfl
      · exact nomatch member
  | hostPin =>
      simp only [checkRule, shape] at member
      obtain ⟨_, -, made⟩ := List.mem_filterMap.mp member
      obtain ⟨_, -, rfl⟩ := Option.map_eq_some_iff.mp made
      rfl
  | other text =>
      simp only [checkRule, shape] at member
      exact nomatch member

end Reports

/-- The rules of a cluster, whose identifiers are the primary key of their table. -/
structure RuleTable where
  rules : List Rule
  ids : (rules.map (·.id)).Nodup

/-- The identifiers of the rules that are reported as violated. -/
def reported (table : RuleTable) (store : State.Store) (clusterName : String) : List String :=
  (checkViolations table.rules store clusterName).map (·.ruleID)

section Reported

variable {table : RuleTable} {store store' : State.Store} {cs cs' : State.ClusterStore}
  {clusterName : String}

theorem mem_reported {id : String} (found : store.getCluster clusterName = some cs) :
    id ∈ reported table store clusterName ↔
      ∃ rule ∈ table.rules, rule.id = id ∧ rule.enabled = true ∧ ¬Kept (nodeOf cs) rule := by
  have listed : checkViolations table.rules store clusterName =
      (table.rules.filter (·.enabled)).flatMap (checkRule (nodeOf cs) clusterName) := by
    rw [checkViolations, found]
    split
    · rename_i empty
      rw [empty]
      rfl
    · rfl
  rw [reported, listed]
  constructor
  · intro member
    obtain ⟨v, inside, rfl⟩ := List.mem_map.mp member
    obtain ⟨rule, there, made⟩ := List.mem_flatMap.mp inside
    obtain ⟨there, enabled⟩ := List.mem_filter.mp there
    refine ⟨rule, there, (ruleID_of_mem made).symm, enabled, ?_⟩
    intro kept
    rw [checkRule_eq_nil_iff.mpr kept] at made
    exact nomatch made
  · rintro ⟨rule, there, rfl, enabled, broken⟩
    have some_ : checkRule (nodeOf cs) clusterName rule ≠ [] := by
      exact fun empty => broken (checkRule_eq_nil_iff.mp empty)
    obtain ⟨v, made⟩ := List.exists_mem_of_ne_nil _ some_
    refine List.mem_map.mpr ⟨v, List.mem_flatMap.mpr ⟨rule, ?_, made⟩, ruleID_of_mem made⟩
    exact List.mem_filter.mpr ⟨there, enabled⟩

/-- Nothing new is reported iff every rule that was kept still is. -/
theorem reported_subset_iff (found : store.getCluster clusterName = some cs)
    (found' : store'.getCluster clusterName = some cs') :
    reported table store' clusterName ⊆ reported table store clusterName ↔
      ∀ rule ∈ table.rules, rule.enabled = true →
        Kept (nodeOf cs) rule → Kept (nodeOf cs') rule := by
  constructor
  · intro within rule there enabled kept
    by_contra broken
    obtain ⟨other, listed, same, -, unkept⟩ := (mem_reported found).mp
      (within ((mem_reported found').mpr ⟨rule, there, rfl, enabled, broken⟩))
    obtain rfl := List.inj_on_of_nodup_map table.ids listed there same
    exact unkept kept
  · intro keeps id member
    obtain ⟨rule, there, own, enabled, broken⟩ := (mem_reported found').mp member
    refine (mem_reported found).mpr ⟨rule, there, own, enabled, ?_⟩
    exact fun kept => broken (keeps rule there enabled kept)

end Reported

/-- The store of a cluster once a migration is made. -/
def moveGuest (cs : State.ClusterStore) (m : Migration) : State.ClusterStore :=
  match m.guest.type with
  | .vm =>
      match cs.vms.lookup m.guest.vmid with
      | some vm => { cs with vms := cs.vms.insert m.guest.vmid { vm with node := m.toNode } }
      | none => cs
  | .ct =>
      match cs.containers.lookup m.guest.vmid with
      | some ct =>
          { cs with containers := cs.containers.insert m.guest.vmid { ct with node := m.toNode } }
      | none => cs

def applyMove (store : State.Store) (clusterName : String) (m : Migration) : State.Store :=
  match store.getCluster clusterName with
  | some cs => store.putCluster clusterName (moveGuest cs m)
  | none => store

/-- The node that the entry of a guest names. -/
def recordOf (cs : State.ClusterStore) (g : Guest) : Option String :=
  match g.type with
  | .vm => (cs.vms.lookup g.vmid).map (·.node)
  | .ct => (cs.containers.lookup g.vmid).map (·.node)

/-- A VM whose number a container has, too: the checker looks at the container. -/
def Hidden (cs : State.ClusterStore) (g : Guest) : Prop :=
  g.type = .vm ∧ (cs.containers.lookup g.vmid).isSome = true

section Moved

variable {cs : State.ClusterStore} {m : Migration}

theorem nodeOf_eq (keyed : Keyed cs) (vmid : Int64) :
    nodeOf cs vmid = (recordOf cs ⟨.ct, vmid⟩).or (recordOf cs ⟨.vm, vmid⟩) := by
  rw [nodeOf, vmNode, keyed.containers.lookup_writeAll (·.node),
    keyed.vms.lookup_writeAll (·.node), AList.lookup_empty, Option.or_none]
  rfl

theorem nodeOf_of_recordOf (keyed : Keyed cs) {g : Guest} {node : String} (seen : ¬Hidden cs g)
    (stored : recordOf cs g = some node) : nodeOf cs g.vmid = some node := by
  obtain ⟨type, vmid⟩ := g
  cases type with
  | ct => rw [nodeOf_eq keyed, stored, Option.some_or]
  | vm =>
      have absent : cs.containers.lookup vmid = none := by
        exact Option.not_isSome_iff_eq_none.mp fun there => seen ⟨rfl, there⟩
      rw [nodeOf_eq keyed, stored]
      simp [recordOf, absent]

theorem keyed_moveGuest (keyed : Keyed cs) : Keyed (moveGuest cs m) := by
  unfold moveGuest
  split
  · split
    · rename_i vm found
      exact ⟨keyed.nodes, keyed.vms.insert (keyed.vms _ vm found), keyed.containers⟩
    · exact keyed
  · split
    · rename_i ct found
      exact ⟨keyed.nodes, keyed.vms, keyed.containers.insert (keyed.containers _ ct found)⟩
    · exact keyed

theorem recordOf_moveGuest {node : String} (stored : recordOf cs m.guest = some node)
    (g : Guest) :
    recordOf (moveGuest cs m) g = if g = m.guest then some m.toNode else recordOf cs g := by
  obtain ⟨⟨moved, number⟩, fromNode, toNode⟩ := m
  obtain ⟨type, vmid⟩ := g
  cases moved with
  | vm =>
      obtain ⟨vm, found, -⟩ := Option.map_eq_some_iff.mp stored
      have after : moveGuest cs ⟨⟨.vm, number⟩, fromNode, toNode⟩ =
          { cs with vms := cs.vms.insert number { vm with node := toNode } } := by
        simp only [moveGuest, found]
      rw [after]
      cases type with
      | vm => by_cases same : vmid = number <;> simp [recordOf, FiniteMap.lookup_insert_eq, same]
      | ct => simp [recordOf]
  | ct =>
      obtain ⟨ct, found, -⟩ := Option.map_eq_some_iff.mp stored
      have after : moveGuest cs ⟨⟨.ct, number⟩, fromNode, toNode⟩ =
          { cs with containers := cs.containers.insert number { ct with node := toNode } } := by
        simp only [moveGuest, found]
      rw [after]
      cases type with
      | vm => simp [recordOf]
      | ct => by_cases same : vmid = number <;> simp [recordOf, FiniteMap.lookup_insert_eq, same]

theorem nodeOf_moveGuest_hidden (keyed : Keyed cs) {node : String}
    (stored : recordOf cs m.guest = some node) (hidden : Hidden cs m.guest) :
    nodeOf (moveGuest cs m) = nodeOf cs := by
  funext vmid
  rw [nodeOf_eq keyed, nodeOf_eq (keyed_moveGuest keyed), recordOf_moveGuest stored,
    recordOf_moveGuest stored]
  have kind : (⟨.ct, vmid⟩ : Guest) ≠ m.guest := by
    intro same
    have type := hidden.1
    rw [← same] at type
    exact nomatch type
  rw [if_neg kind]
  by_cases same : (⟨.vm, vmid⟩ : Guest) = m.guest
  · have there := hidden.2
    rw [← same] at there
    obtain ⟨ct, found⟩ := Option.isSome_iff_exists.mp there
    simp [recordOf, found]
  · rw [if_neg same]

theorem not_hidden_moveGuest {node : String} (stored : recordOf cs m.guest = some node)
    (seen : ¬Hidden cs m.guest) : ¬Hidden (moveGuest cs m) m.guest := by
  rintro ⟨type, there⟩
  have kept := recordOf_moveGuest stored ⟨.ct, m.guest.vmid⟩
  have kind : (⟨.ct, m.guest.vmid⟩ : Guest) ≠ m.guest := by
    intro same
    rw [← same] at type
    exact nomatch type
  rw [if_neg kind] at kept
  have sizes := congrArg Option.isSome kept
  simp only [recordOf, Option.isSome_map, there] at sizes
  exact seen ⟨type, sizes.symm⟩

theorem nodeOf_moveGuest (keyed : Keyed cs) {node : String}
    (stored : recordOf cs m.guest = some node) (seen : ¬Hidden cs m.guest) :
    nodeOf (moveGuest cs m) = Function.update (nodeOf cs) m.guest.vmid (some m.toNode) := by
  funext vmid
  by_cases same : vmid = m.guest.vmid
  · have arrived : recordOf (moveGuest cs m) m.guest = some m.toNode := by
      rw [recordOf_moveGuest stored, if_pos rfl]
    rw [same, Function.update_self]
    exact nodeOf_of_recordOf (keyed_moveGuest keyed) (not_hidden_moveGuest stored seen) arrived
  · rw [Function.update_of_ne same, nodeOf_eq keyed, nodeOf_eq (keyed_moveGuest keyed),
      recordOf_moveGuest stored, recordOf_moveGuest stored,
      if_neg fun guest => same (congrArg Guest.vmid guest),
      if_neg fun guest => same (congrArg Guest.vmid guest)]

end Moved

/-- A move of the member to the node breaks the rule, when it was kept. -/
def Upset (nodeOf : Int64 → Option String) (rule : Rule) (vmid : Int64) (toNode : String) :
    Prop :=
  match rule.type with
  | .antiAffinity => ∃ other ∈ rule.members, other ≠ vmid ∧ nodeOf other = some toNode
  | .affinity => ∃ other ∈ rule.members, other ≠ vmid ∧ nodeOf other ≠ none
  | .hostPin => True
  | .other _ => False

section Update

variable {nodeOf : Int64 → Option String} {rule : Rule} {vmid : Int64} {fromNode toNode : String}

theorem kept_update_of_not_mem (absent : vmid ∉ rule.members) :
    Kept (Function.update nodeOf vmid (some toNode)) rule ↔ Kept nodeOf rule := by
  have same : rule.places (Function.update nodeOf vmid (some toNode)) = rule.places nodeOf := by
    refine List.filterMap_congr ?_
    intro other member
    refine Function.update_of_ne ?_ _ _
    rintro rfl
    exact absent member
  rw [Kept, Kept, same]

theorem nodup_places_update_iff (here : nodeOf vmid = some fromNode)
    (member : vmid ∈ rule.members) (kept : (rule.places nodeOf).Nodup) :
    (rule.places (Function.update nodeOf vmid (some toNode))).Nodup ↔
      ∀ other ∈ rule.members, other ≠ vmid → nodeOf other ≠ some toNode := by
  have pairs : ∀ f : Int64 → Option String, (rule.places f).Nodup ↔
      rule.members.Pairwise fun a b => ∀ n, f a = some n → ∀ n', f b = some n' → n ≠ n' :=
    fun _ => List.pairwise_filterMap
  have arrived : Function.update nodeOf vmid (some toNode) vmid = some toNode :=
    Function.update_self _ _ _
  rw [pairs] at kept ⊢
  constructor
  · intro apart other inside different on
    have stays : Function.update nodeOf vmid (some toNode) other = some toNode := by
      rw [Function.update_of_ne different, on]
    have symmetric : Std.Symm fun a b : Int64 =>
        ∀ n, Function.update nodeOf vmid (some toNode) a = some n →
          ∀ n', Function.update nodeOf vmid (some toNode) b = some n' → n ≠ n' :=
      ⟨fun _ _ apart n on n' on' => (apart n' on' n on).symm⟩
    exact apart.forall inside member different toNode stays toNode arrived rfl
  · intro free
    refine kept.imp_of_mem ?_
    intro a b inside inside' apart n on n' on'
    by_cases first : a = vmid
    · by_cases second : b = vmid
      · rw [first] at apart
        rw [second] at apart
        exact (apart fromNode here fromNode here rfl).elim
      · rw [first, arrived] at on
        rw [Function.update_of_ne second] at on'
        rintro rfl
        exact free b inside' second (on'.trans on.symm)
    · rw [Function.update_of_ne first] at on
      by_cases second : b = vmid
      · rw [second, arrived] at on'
        rintro rfl
        exact free a inside first (on.trans on'.symm)
      · rw [Function.update_of_ne second] at on'
        exact apart n on n' on'

theorem kept_update_iff (here : nodeOf vmid = some fromNode) (moves : fromNode ≠ toNode)
    (member : vmid ∈ rule.members) (kept : Kept nodeOf rule) :
    Kept (Function.update nodeOf vmid (some toNode)) rule ↔
      ¬Upset nodeOf rule vmid toNode := by
  have left : fromNode ∈ rule.places nodeOf := mem_places.mpr ⟨vmid, member, here⟩
  have arrived : toNode ∈ rule.places (Function.update nodeOf vmid (some toNode)) :=
    mem_places.mpr ⟨vmid, member, Function.update_self _ _ _⟩
  cases shape : rule.type with
  | antiAffinity =>
      simp only [Kept, Upset, shape] at kept ⊢
      rw [nodup_places_update_iff here member kept]
      simp only [not_exists, not_and, ne_eq]
  | affinity =>
      simp only [Kept, Upset, shape] at kept ⊢
      constructor
      · rintro together ⟨other, inside, different, placed⟩
        obtain ⟨node, on⟩ := Option.ne_none_iff_exists'.mp placed
        have stays : node ∈ rule.places (Function.update nodeOf vmid (some toNode)) := by
          refine mem_places.mpr ⟨other, inside, ?_⟩
          rw [Function.update_of_ne different, on]
        have before := kept fromNode left node (mem_places.mpr ⟨other, inside, on⟩)
        exact moves (before.trans (together node stays toNode arrived))
      · intro alone
        have all : ∀ node ∈ rule.places (Function.update nodeOf vmid (some toNode)),
            node = toNode := by
          intro node there
          obtain ⟨other, inside, on⟩ := mem_places.mp there
          by_cases same : other = vmid
          · rw [same, Function.update_self] at on
            exact (Option.some.inj on).symm
          · rw [Function.update_of_ne same] at on
            exact (alone ⟨other, inside, same, on ▸ Option.some_ne_none node⟩).elim
        intro node there node' there'
        rw [all node there, all node' there']
  | hostPin =>
      simp only [Kept, Upset, shape] at kept ⊢
      refine ⟨fun pinned => ?_, fun never => (never trivial).elim⟩
      exact (moves ((kept fromNode left).trans (pinned toNode arrived).symm)).elim
  | other text => simp [Kept, Upset, shape]

end Update

/-- A VM or container with the number runs on the node. -/
def RunsOn (cs : State.ClusterStore) (vmid : Int64) (node : String) : Prop :=
  (∃ vm ∈ values cs.vms, vm.vmid = vmid ∧ vm.status = "running" ∧ vm.node = node) ∨
    ∃ ct ∈ values cs.containers, ct.vmid = vmid ∧ ct.status = "running" ∧ ct.node = node

section Planner

variable {F : Type} [Floating F] {s : Scheduler F} {rules : List Rule} {store : State.Store}
  {cs : State.ClusterStore} {clusterName : String} {m : Move F}

theorem move_of_proposed {r : DRSRecommendation}
    (found : store.getCluster clusterName = some cs)
    (proposed : r ∈ s.analyzeCluster rules store clusterName) :
    ∃ m ∈ s.moves rules (calculateNodeLoads cs), m.migration = r.migration := by
  have made : r ∈ s.generateRecommendations rules clusterName (calculateNodeLoads cs) := by
    simp only [Scheduler.analyzeCluster, found] at proposed
    split at proposed
    · exact nomatch proposed
    · split at proposed
      · exact nomatch proposed
      · exact proposed
  have migration := List.mem_map_of_mem (f := fun r => r.migration) made
  rw [generateRecommendations_spec] at migration
  obtain ⟨m, member, same⟩ := List.mem_map.mp migration
  exact ⟨m, List.mem_of_mem_take member, same⟩

theorem recordOf_source (keyed : Keyed cs)
    (member : m ∈ s.moves rules (calculateNodeLoads cs)) :
    recordOf cs m.guest = some m.source.node := by
  obtain ⟨there, picked, -⟩ := mem_moves.mp member
  obtain ⟨node, -, shape⟩ := List.mem_map.mp (mem_overloaded.mp there).1
  have runs := guest_of_candidate picked
  rw [← shape] at runs ⊢
  change recordOf cs ⟨m.candidate.guestType, m.candidate.vmid⟩ = some node.node
  rcases mem_guests_loadOf runs with ⟨vm, inside, on, same⟩ | ⟨ct, inside, on, same⟩
  · obtain ⟨k, stored⟩ := FiniteMap.mem_values_iff.mp inside
    obtain rfl := keyed.vms k vm stored
    rw [same]
    exact (congrArg (Option.map Pve.VM.node) stored).trans (congrArg some on)
  · obtain ⟨k, stored⟩ := FiniteMap.mem_values_iff.mp inside
    obtain rfl := keyed.containers k ct stored
    rw [same]
    exact (congrArg (Option.map Pve.Container.node) stored).trans (congrArg some on)

theorem source_ne_target (keyed : Keyed cs)
    (member : m ∈ s.moves rules (calculateNodeLoads cs)) : m.source.node ≠ m.target.node := by
  intro same
  obtain ⟨there, -, found⟩ := mem_moves.mp member
  obtain ⟨source, high⟩ := mem_overloaded.mp there
  obtain ⟨target, low⟩ := mem_underloaded.mp (List.mem_of_find?_eq_some found)
  have one : m.source = m.target :=
    List.inj_on_of_nodup_map (clusterLoad (F := F) keyed).nodes source target same
  rw [one] at high
  simp [Scheduler.isUnderloaded, high] at low

theorem pinned_target {loads : List (NodeLoad F)} (member : m ∈ s.moves rules loads) :
    getPinnedHost m.guest.vmid rules = "" ∨
      getPinnedHost m.guest.vmid rules = m.target.node := by
  obtain ⟨-, -, found⟩ := mem_moves.mp member
  have suits := List.find?_some found
  by_contra wrong
  obtain ⟨pinned, other⟩ := not_or.mp wrong
  simp only [Move.guest] at pinned other
  simp [Scheduler.suitable, pinned, Ne.symm other] at suits

theorem not_runsOn_target {other : Int64} (member : m ∈ s.moves rules (calculateNodeLoads cs))
    (apart : Apart rules m.guest.vmid other) : ¬RunsOn cs other m.target.node := by
  obtain ⟨-, -, found⟩ := mem_moves.mp member
  have there := (mem_underloaded.mp (List.mem_of_find?_eq_some found)).1
  obtain ⟨node, -, shape⟩ := List.mem_map.mp there
  have name : node.node = m.target.node := congrArg NodeLoad.node shape
  rintro (⟨vm, inside, rfl, running, on⟩ | ⟨ct, inside, rfl, running, on⟩)
  · have runs : (⟨.vm, vm.vmid⟩ : Guest) ∈ m.target.guests := by
      rw [← shape]
      refine List.mem_append_left _ (List.mem_map.mpr ⟨vm, ?_, rfl⟩)
      exact List.mem_filter.mpr ⟨inside, decide_eq_true ⟨running, on.trans name.symm⟩⟩
    exact not_on_target member apart runs
  · have runs : (⟨.ct, ct.vmid⟩ : Guest) ∈ m.target.guests := by
      rw [← shape]
      refine List.mem_append_right _ (List.mem_map.mpr ⟨ct, ?_, rfl⟩)
      exact List.mem_filter.mpr ⟨inside, decide_eq_true ⟨running, on.trans name.symm⟩⟩
    exact not_on_target member apart runs

end Planner

/-- What writes to the nodes and guests of a cluster. `GetNodeStatus`, which a poll asks, answers
with the entry of the node itself. -/
inductive Write where
  | poll (now : Int) (nodeName : String) (fetch : Poller.NodeFetch)
      (own : ∀ node, fetch.node = .ok node → node.node = nodeName)
  | status (now : Int) (status : AgentWire.StatusData)

def write (cs : State.ClusterStore) : Write → State.ClusterStore
  | .poll now nodeName fetch _ => Poller.fetchNode cs now nodeName fetch
  | .status now status => AgentHub.storeStatus cs now status

/-- The stores that polls and agents can have written. -/
abbrev Written : State.ClusterStore → Prop :=
  Transition.Reachable write fun cs => ∃ name, cs = State.ClusterStore.new name

theorem convertNode_node (status : AgentWire.StatusData) :
    (AgentHub.convertNode status).node = status.node := by
  rw [AgentHub.convertNode]
  cases status.nodeStatus with
  | none => rfl
  | some ns => rfl

theorem keyed_write {cs : State.ClusterStore} (keyed : Keyed cs) (w : Write) :
    Keyed (write cs w) := by
  cases w with
  | poll now nodeName fetch own =>
      rw [write]
      cases answer : fetch.node with
      | error err =>
          obtain ⟨vms, cts, -, nodes⟩ := Poller.fetchNode_node_failed cs now nodeName ⟨err, answer⟩
          exact ⟨nodes ▸ keyed.nodes, vms ▸ keyed.vms, cts ▸ keyed.containers⟩
      | ok node =>
          obtain ⟨vms, cts, -, nodes⟩ := Poller.fetchNode_effect cs now nodeName answer
          constructor
          · rw [nodes]
            exact keyed.nodes.insert (own node answer)
          · rw [vms]
            exact keyed.vms.report fun _ _ => rfl
          · rw [cts]
            exact keyed.containers.report fun _ _ => rfl
  | status now status =>
      obtain ⟨vms, cts, -, nodes⟩ := AgentHub.storeStatus_effect cs now status
      constructor
      · rw [write, nodes]
        exact keyed.nodes.insert (convertNode_node status)
      · rw [write, vms]
        exact keyed.vms.report fun _ _ => rfl
      · rw [write, cts]
        exact keyed.containers.report fun _ _ => rfl

theorem keyed_of_written {cs : State.ClusterStore} (written : Written cs) : Keyed cs := by
  refine written.invariant (P := Keyed) ?_ fun _ w keyed => keyed_write keyed w
  rintro _ ⟨name, rfl⟩
  exact keyed_new name

/-- What the planner does not look at: guests that do not run, rules that keep guests together,
and all pins of a guest but the first. -/
def Overlooked (cs : State.ClusterStore) (rules : List Rule) (m : Migration) (rule : Rule) : Prop :=
  match rule.type with
  | .antiAffinity =>
      ∃ other ∈ rule.members, other ≠ m.guest.vmid ∧ nodeOf cs other = some m.toNode ∧
        ¬RunsOn cs other m.toNode
  | .affinity => ∃ other ∈ rule.members, other ≠ m.guest.vmid ∧ nodeOf cs other ≠ none
  | .hostPin =>
      getPinnedHost m.guest.vmid rules = "" ∨
        getPinnedHost m.guest.vmid rules ≠ rule.hostNode
  | .other _ => False

section Agreement

variable {F : Type} [Floating F] {s : Scheduler F} {store : State.Store}
  {cs : State.ClusterStore} {clusterName : String}

/-- The planner avoids all upsets but those that it overlooks. -/
theorem upset_iff_overlooked (keyed : Keyed cs) {rules : List Rule} {rule : Rule} {m : Move F}
    (member : m ∈ s.moves rules (calculateNodeLoads cs)) (listed : rule ∈ rules)
    (enabled : rule.enabled = true) (inside : m.guest.vmid ∈ rule.members)
    (here : nodeOf cs m.guest.vmid = some m.source.node) (kept : Kept (nodeOf cs) rule) :
    Upset (nodeOf cs) rule m.guest.vmid m.target.node ↔
      Overlooked cs rules m.migration rule := by
  cases shape : rule.type with
  | antiAffinity =>
      simp only [Upset, Overlooked, shape]
      constructor
      · rintro ⟨other, there, different, on⟩
        have apart : Apart rules m.guest.vmid other :=
          ⟨rule, listed, enabled, shape, different.symm, inside, there⟩
        exact ⟨other, there, different, on, not_runsOn_target member apart⟩
      · rintro ⟨other, there, different, on, -⟩
        exact ⟨other, there, different, on⟩
  | affinity =>
      simp only [Upset, Overlooked, shape]
      exact Iff.rfl
  | hostPin =>
      simp only [Upset, Overlooked, shape, true_iff]
      simp only [Kept, shape] at kept
      have host : m.source.node = rule.hostNode :=
        kept _ (mem_places.mpr ⟨_, inside, here⟩)
      rcases pinned_target member with none_ | target
      · exact Or.inl none_
      · right
        intro own
        exact source_ne_target keyed member (host.trans (own.symm.trans target))
  | other text => simp only [Upset, Overlooked, shape]

/-- What the move does to one rule. -/
theorem keeps_iff (keyed : Keyed cs) {rules : List Rule} {rule : Rule} {m : Move F}
    (member : m ∈ s.moves rules (calculateNodeLoads cs)) (listed : rule ∈ rules)
    (enabled : rule.enabled = true) (seen : ¬Hidden cs m.guest) :
    (Kept (nodeOf cs) rule → Kept (nodeOf (moveGuest cs m.migration)) rule) ↔
      (m.guest.vmid ∈ rule.members → Kept (nodeOf cs) rule →
        ¬Overlooked cs rules m.migration rule) := by
  have stored := recordOf_source keyed member
  have here := nodeOf_of_recordOf keyed seen stored
  have moved : nodeOf (moveGuest cs m.migration) =
      Function.update (nodeOf cs) m.guest.vmid (some m.target.node) :=
    nodeOf_moveGuest (m := m.migration) keyed stored seen
  rw [moved]
  by_cases inside : m.guest.vmid ∈ rule.members
  · rw [forall_prop_of_true inside]
    refine forall_congr' fun kept => ?_
    rw [kept_update_iff here (source_ne_target keyed member) inside kept,
      upset_iff_overlooked keyed member listed enabled inside here kept]
  · refine ⟨fun _ there => (inside there).elim, fun _ kept => ?_⟩
    exact (kept_update_of_not_mem inside).mpr kept

/-- The move of a recommendation adds no rule to those that are reported iff the checker does
not see the guest, or the planner overlooks nothing in the rules of the guest that are kept. -/
theorem no_new_violation_iff (table : RuleTable) {r : DRSRecommendation}
    (found : store.getCluster clusterName = some cs) (written : Written cs)
    (proposed : r ∈ s.analyzeCluster table.rules store clusterName) :
    reported table (applyMove store clusterName r.migration) clusterName ⊆
        reported table store clusterName ↔
      Hidden cs r.migration.guest ∨
        ∀ rule ∈ table.rules, rule.enabled = true → r.migration.guest.vmid ∈ rule.members →
          Kept (nodeOf cs) rule → ¬Overlooked cs table.rules r.migration rule := by
  have keyed := keyed_of_written written
  obtain ⟨m, member, same⟩ := move_of_proposed found proposed
  have found' : (applyMove store clusterName m.migration).getCluster clusterName =
      some (moveGuest cs m.migration) := by
    rw [applyMove, found]
    exact AList.lookup_insert _
  rw [← same, reported_subset_iff found found']
  by_cases hidden : Hidden cs m.guest
  · have unseen : nodeOf (moveGuest cs m.migration) = nodeOf cs :=
      nodeOf_moveGuest_hidden keyed (recordOf_source keyed member) hidden
    rw [unseen]
    exact ⟨fun _ => Or.inl hidden, fun _ _ _ _ kept => kept⟩
  · refine Iff.trans ?_ (or_iff_right hidden).symm
    refine forall₃_congr fun rule listed enabled => ?_
    exact keeps_iff keyed member listed enabled hidden

end Agreement

/-- A poll that gets the node and its VMs. -/
def polled (node : Pve.Node) (vms : List Pve.VM) : Write :=
  .poll 0 node.node
    { node := .ok node, nodeDetails := .ok none, vmStats := .ok none, vms := .ok vms
      containers := .ok [], storage := .ok [], ceph := .error "no ceph", netIfaces := .ok [] }
    fun _ answer => Except.ok.inj answer ▸ rfl

def onlineNode (name : String) (cpu : Rat) : Pve.Node :=
  { (default : Pve.Node) with node := name, status := "online", cpu := cpu }

/-- A busy node with two VMs, and an idle one. -/
def lab : State.ClusterStore :=
  write (write (.new "lab")
      (polled (onlineNode "n1" 0.9375) [runningVM 101 "n1", runningVM 102 "n1"]))
    (polled (onlineNode "n2" 0.0625) [])

theorem lab_written : Written lab := .step _ _ (.step _ _ (.init _ ⟨"lab", rfl⟩))

def labStore : State.Store := (⟨∅⟩ : State.Store).putCluster "lab" lab

/-- The first recommendation for the two nodes. -/
def firstMove : DRSRecommendation :=
  { id := "lab-drs-20240501-120000-b", cluster := "lab", guestType := .vm, vmid := 102
    guestName := "", fromNode := "n1", toNode := "n2"
    reason := "High CPU: n1 at 94%, n2 at 6%", priority := 4, createdAt := 1714564800 }

/-- A rule about the two VMs. -/
def pairRule (type : RuleType) : RuleTable where
  rules := [{ keepApart with type := type }]
  ids := List.nodup_singleton _

theorem pair_comes_apart :
    reported (pairRule .antiAffinity) (applyMove labStore "lab" firstMove.migration) "lab" ⊆
      reported (pairRule .antiAffinity) labStore "lab" := by
  refine (no_new_violation_iff (s := scheduler) (pairRule .antiAffinity) rfl lab_written
    (by decide +kernel)).mpr (Or.inr ?_)
  intro rule listed _ _ kept
  rw [List.mem_singleton.mp listed] at kept
  change (keepApart.members.filterMap (nodeOf lab)).Nodup at kept
  exact absurd kept (by decide +kernel)

/-- Affinity is not respected: a VM is taken away from the other one. -/
theorem pair_is_split :
    Written lab ∧
      ¬∀ r ∈ scheduler.analyzeCluster (pairRule .affinity).rules labStore "lab",
        reported (pairRule .affinity) (applyMove labStore "lab" r.migration) "lab" ⊆
          reported (pairRule .affinity) labStore "lab" := by
  refine ⟨lab_written, fun safe => ?_⟩
  have within := safe firstMove (by decide +kernel)
  have after : "r-1" ∈ reported (pairRule .affinity)
      (applyMove labStore "lab" firstMove.migration) "lab" := by
    decide +kernel
  exact absurd (within after) (by decide +kernel)

end Drs
