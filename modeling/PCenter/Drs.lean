import Mathlib.Data.List.Sort
import Mathlib.Data.Rat.Sqrt
import PCenter.State

/-!
# Recommendations of the resource scheduler

`internal/drs`: the load of the nodes of a cluster, and the migrations that
`generateRecommendations` proposes under the rules of the cluster. Floating-point numbers are
of any type with the operations that the code uses, as nothing depends on how they round;
`sort.Slice`, which is not stable, is some function that permutes. A scheduler without a
rules database, or one that fails to read it, has no rules.
-/

namespace Drs

inductive RuleType where
  | affinity
  | antiAffinity
  | hostPin
  | other (text : String)
  deriving DecidableEq, Repr

structure Rule where
  id : String
  cluster : String
  name : String
  type : RuleType
  enabled : Bool
  members : List Int64
  hostNode : String
  deriving DecidableEq, Repr

/-- `float64`, as far as the scheduler computes with it. -/
class Floating (F : Type) extends Add F, Sub F, Mul F, Div F, Max F, LT F, LE F where
  /-- The number that is nearest to a rational. -/
  ofRat : Rat → F
  sqrt : F → F
  /-- `fmt.Sprintf("%.0f%%", v*100)` -/
  formatPercent : F → String
  decidableLT : DecidableLT F
  decidableLE : DecidableLE F

open Floating (ofRat)

instance floatingLT {F : Type} [Floating F] : DecidableLT F := Floating.decidableLT

instance floatingLE {F : Type} [Floating F] : DecidableLE F := Floating.decidableLE

/-- `sort.Slice`; the order of what it gives is not needed. -/
structure SortSlice where
  sort : {A : Type} → (A → A → Bool) → List A → List A
  perm : ∀ {A : Type} (less : A → A → Bool) (l : List A), (sort less l).Perm l

structure DRSConfig (F : Type) where
  cpuThreshold : F
  memThreshold : F
  migrationRate : Int

structure Scheduler (F : Type) where
  cfg : DRSConfig F
  slices : SortSlice
  /-- The text of the time at which the identifier of a recommendation is made. -/
  stamp : Nat → String
  now : Int

structure NodeLoad (F : Type) where
  node : String
  cpuUsage : F
  memUsage : F
  vms : List Pve.VM
  cts : List Pve.Container

inductive GuestType where
  | vm
  | ct
  deriving DecidableEq, Repr

structure DRSRecommendation where
  id : String
  cluster : String
  guestType : GuestType
  vmid : Int64
  guestName : String
  fromNode : String
  toNode : String
  reason : String
  priority : Nat
  createdAt : Int
  deriving DecidableEq, Repr

/-- `migrationCandidate` -/
structure Candidate (F : Type) where
  vmid : Int64
  name : String
  guestType : GuestType
  cpuLoad : F
  memLoad : F

/-- `getPinnedHost`: the first rule that pins the guest, or nothing. -/
def getPinnedHost (vmid : Int64) (rules : List Rule) : String :=
  match rules.find? fun rule => rule.enabled ∧ rule.type = .hostPin ∧ vmid ∈ rule.members with
  | some rule => rule.hostNode
  | none => ""

def isHostPinned (vmid : Int64) (rules : List Rule) : Bool := getPinnedHost vmid rules ≠ ""

/-- `string(rune('a'+n))`: a number of 32 bits, or the replacement character when it is no code
point. -/
def letter (n : Nat) : Char :=
  if ((97 + n) % 2 ^ 32).isValidChar then Char.ofNat ((97 + n) % 2 ^ 32) else Char.ofNat 0xFFFD

section Loads

variable {F : Type} [Floating F]

/-- The guests that run on the node, with the others left out. -/
def loadOf (vms : List Pve.VM) (cts : List Pve.Container) (node : Pve.Node) : NodeLoad F :=
  { node := node.node
    cpuUsage := ofRat node.cpu
    memUsage :=
      if 0 < node.maxMem then ofRat node.mem.toInt / ofRat node.maxMem.toInt else ofRat 0
    vms := vms.filter fun vm => vm.status = "running" ∧ vm.node = node.node
    cts := cts.filter fun ct => ct.status = "running" ∧ ct.node = node.node }

/-- `calculateNodeLoads`, over the online nodes. -/
def calculateNodeLoads (cs : State.ClusterStore) : List (NodeLoad F) :=
  ((FiniteMap.values cs.nodes).filter (·.status = "online")).map
    (loadOf (FiniteMap.values cs.vms) (FiniteMap.values cs.containers))

def calculateStdDev (loads : List (NodeLoad F)) (getValue : NodeLoad F → F) : F :=
  if loads.length = 0 then ofRat 0
  else
    let mean := loads.foldl (fun sum l => sum + getValue l) (ofRat 0) / ofRat loads.length
    let variance := loads.foldl
      (fun sum l => sum + (getValue l - mean) * (getValue l - mean)) (ofRat 0)
    Floating.sqrt (variance / ofRat loads.length)

/-- Another member of a rule that keeps its members apart runs on the node. -/
def violatesAntiAffinity (vmid : Int64) (targetNode : String) (rules : List Rule)
    (loads : List (NodeLoad F)) : Bool :=
  rules.any fun rule =>
    rule.enabled ∧ rule.type = .antiAffinity ∧ vmid ∈ rule.members ∧
      rule.members.any fun otherVMID =>
        otherVMID ≠ vmid ∧ loads.any fun load =>
          load.node = targetNode ∧
            (load.vms.any (·.vmid = otherVMID) ∨ load.cts.any (·.vmid = otherVMID))

namespace Scheduler

variable (s : Scheduler F)

/-- The top five by memory, without templates and pinned VMs. -/
def selectMigrationCandidates (rules : List Rule) (src : NodeLoad F) : List (Candidate F) :=
  let vms := src.vms.filter fun vm => ¬vm.template ∧ ¬isHostPinned vm.vmid rules
  let candidates :=
    vms.map (fun vm => ⟨vm.vmid, vm.name, .vm, ofRat vm.cpu, ofRat vm.mem.toInt⟩) ++
      src.cts.map fun ct => ⟨ct.vmid, ct.name, .ct, ofRat ct.cpu, ofRat ct.mem.toInt⟩
  (s.slices.sort (fun a b => a.memLoad < b.memLoad) candidates).take 5

/-- What `selectTargetNode` asks of a target. -/
def suitable (rules : List Rule) (targets : List (NodeLoad F)) (candidate : Candidate F)
    (target : NodeLoad F) : Bool :=
  ¬(target.cpuUsage ≥ s.cfg.cpuThreshold * ofRat 0.8 ∨
      target.memUsage ≥ s.cfg.memThreshold * ofRat 0.8) ∧
    ¬violatesAntiAffinity candidate.vmid target.node rules targets ∧
    ¬(getPinnedHost candidate.vmid rules ≠ "" ∧
      target.node ≠ getPinnedHost candidate.vmid rules)

def selectTargetNode (rules : List Rule) (targets : List (NodeLoad F))
    (candidate : Candidate F) : Option (NodeLoad F) :=
  targets.find? (s.suitable rules targets candidate)

def formatReason (src target : NodeLoad F) : String :=
  if src.cpuUsage > s.cfg.cpuThreshold then
    "High CPU: " ++ src.node ++ " at " ++ Floating.formatPercent src.cpuUsage ++ ", " ++
      target.node ++ " at " ++ Floating.formatPercent target.cpuUsage
  else if src.memUsage > s.cfg.memThreshold then
    "High memory: " ++ src.node ++ " at " ++ Floating.formatPercent src.memUsage ++ ", " ++
      target.node ++ " at " ++ Floating.formatPercent target.memUsage
  else "Load balancing"

def calculatePriority (src : NodeLoad F) : Nat :=
  let maxUsage := max src.cpuUsage src.memUsage
  if maxUsage > ofRat 0.95 then 5
  else if maxUsage > ofRat 0.9 then 4
  else if maxUsage > ofRat 0.85 then 3
  else if maxUsage > ofRat 0.8 then 2
  else 1

def generateRecID (clusterName : String) (n : Nat) : String :=
  clusterName ++ "-drs-" ++ s.stamp n ++ "-" ++ String.singleton (letter n)

/-- The recommendation with a number. -/
def recommendation (clusterName : String) (recID : Nat) (src : NodeLoad F)
    (candidate : Candidate F) (target : NodeLoad F) : DRSRecommendation :=
  { id := s.generateRecID clusterName recID, cluster := clusterName
    guestType := candidate.guestType, vmid := candidate.vmid, guestName := candidate.name
    fromNode := src.node, toNode := target.node, reason := s.formatReason src target
    priority := calculatePriority src, createdAt := s.now }

/-- The loop over the candidates of a source. The answer is whether it returns early. -/
def recommendFrom (rules : List Rule) (clusterName : String) (underloaded : List (NodeLoad F))
    (src : NodeLoad F) : List (Candidate F) → Nat → List DRSRecommendation →
      Bool × Nat × List DRSRecommendation
  | [], recID, recommendations => (false, recID, recommendations)
  | candidate :: rest, recID, recommendations =>
      match s.selectTargetNode rules underloaded candidate with
      | none => recommendFrom rules clusterName underloaded src rest recID recommendations
      | some target =>
          let more :=
            recommendations ++ [s.recommendation clusterName (recID + 1) src candidate target]
          if (more.length : Int) ≥ s.cfg.migrationRate then (true, recID + 1, more)
          else recommendFrom rules clusterName underloaded src rest (recID + 1) more

/-- The loop over the sources. -/
def recommendAll (rules : List Rule) (clusterName : String) (underloaded : List (NodeLoad F)) :
    List (NodeLoad F) → Nat → List DRSRecommendation → List DRSRecommendation
  | [], _, recommendations => recommendations
  | src :: rest, recID, recommendations =>
      match s.recommendFrom rules clusterName underloaded src
          (s.selectMigrationCandidates rules src) recID recommendations with
      | (true, _, more) => more
      | (false, recID, more) => recommendAll rules clusterName underloaded rest recID more

def isOverloaded (load : NodeLoad F) : Bool :=
  load.cpuUsage > s.cfg.cpuThreshold ∨ load.memUsage > s.cfg.memThreshold

def isUnderloaded (load : NodeLoad F) : Bool :=
  ¬s.isOverloaded load ∧ load.cpuUsage < s.cfg.cpuThreshold * ofRat 0.5 ∧
    load.memUsage < s.cfg.memThreshold * ofRat 0.5

/-- The overloaded nodes, the highest load first. -/
def overloaded (loads : List (NodeLoad F)) : List (NodeLoad F) :=
  s.slices.sort (fun a b => a.cpuUsage + a.memUsage > b.cpuUsage + b.memUsage)
    (loads.filter s.isOverloaded)

/-- The underloaded nodes, the most capacity first. -/
def underloaded (loads : List (NodeLoad F)) : List (NodeLoad F) :=
  s.slices.sort (fun a b => a.cpuUsage + a.memUsage < b.cpuUsage + b.memUsage)
    (loads.filter s.isUnderloaded)

def generateRecommendations (rules : List Rule) (clusterName : String)
    (loads : List (NodeLoad F)) : List DRSRecommendation :=
  if loads.filter s.isOverloaded = [] ∨ loads.filter s.isUnderloaded = [] then []
  else s.recommendAll rules clusterName (s.underloaded loads) (s.overloaded loads) 0 []

/-- `AnalyzeCluster`, with the rules of the cluster. -/
def analyzeCluster (rules : List Rule) (store : State.Store) (clusterName : String) :
    List DRSRecommendation :=
  match store.getCluster clusterName with
  | none => []
  | some cs =>
      let loads : List (NodeLoad F) := calculateNodeLoads cs
      if (FiniteMap.values cs.nodes).length < 2 ∨ loads.length < 2 then []
      else if calculateStdDev loads (·.cpuUsage) < ofRat 0.15 ∧
          calculateStdDev loads (·.memUsage) < ofRat 0.15 then []
      else s.generateRecommendations rules clusterName loads

end Scheduler

end Loads

/-- A guest by its type and number, as the API addresses it. -/
structure Guest where
  type : GuestType
  vmid : Int64
  deriving DecidableEq, Repr

/-- What carrying a recommendation out does. -/
structure Migration where
  guest : Guest
  fromNode : String
  toNode : String
  deriving DecidableEq, Repr

def DRSRecommendation.migration (r : DRSRecommendation) : Migration :=
  ⟨⟨r.guestType, r.vmid⟩, r.fromNode, r.toNode⟩

/-- A candidate with its source and the target that is selected for it. -/
structure Move (F : Type) where
  source : NodeLoad F
  candidate : Candidate F
  target : NodeLoad F

def Move.guest {F : Type} (m : Move F) : Guest := ⟨m.candidate.guestType, m.candidate.vmid⟩

def Move.migration {F : Type} (m : Move F) : Migration :=
  ⟨m.guest, m.source.node, m.target.node⟩

section Batch

variable {F : Type} [Floating F] (s : Scheduler F) (rules : List Rule)

namespace Scheduler

/-- The moves from a source, in the order in which its candidates are looked at. -/
def movesOf (targets : List (NodeLoad F)) (src : NodeLoad F) (candidates : List (Candidate F)) :
    List (Move F) :=
  candidates.filterMap fun candidate =>
    (s.selectTargetNode rules targets candidate).map fun target => ⟨src, candidate, target⟩

def movesFrom (targets : List (NodeLoad F)) (src : NodeLoad F) : List (Move F) :=
  s.movesOf rules targets src (s.selectMigrationCandidates rules src)

/-- All moves that the loops come across, were there no limit. -/
def moves (loads : List (NodeLoad F)) : List (Move F) :=
  (s.overloaded loads).flatMap (s.movesFrom rules (s.underloaded loads))

/-- How many recommendations a run may make: one even when the rate is none. -/
def limit : Nat := max 1 s.cfg.migrationRate.toNat

/-- The moves as recommendations, with the numbers that follow. -/
def numbered (clusterName : String) : Nat → List (Move F) → List DRSRecommendation
  | _, [] => []
  | recID, m :: rest =>
      s.recommendation clusterName (recID + 1) m.source m.candidate m.target ::
        numbered clusterName (recID + 1) rest

section Order

variable (loads : List (NodeLoad F))

/-- The guests that may leave a node, the one with the least memory first. -/
def bySize (src : NodeLoad F) : List (Candidate F) :=
  let vms := src.vms.filter fun vm => ¬vm.template ∧ ¬isHostPinned vm.vmid rules
  s.slices.sort (fun a b => a.memLoad < b.memLoad)
    (vms.map (fun vm => ⟨vm.vmid, vm.name, .vm, ofRat vm.cpu, ofRat vm.mem.toInt⟩) ++
      src.cts.map fun ct => ⟨ct.vmid, ct.name, .ct, ofRat ct.cpu, ofRat ct.mem.toInt⟩)

/-- The guests that may leave the overloaded nodes, five of each at most. -/
def queue : List (NodeLoad F × Candidate F) :=
  (s.overloaded loads).flatMap fun src => ((s.bySize rules src).take 5).map (Prod.mk src)

/-- An underloaded node suits the guest. -/
def placeable (candidate : Candidate F) : Bool :=
  (s.underloaded loads).any (s.suitable rules (s.underloaded loads) candidate)

/-- The guest waits behind fewer guests that have a place than the limit, and no node with more
capacity than the target suits it. -/
structure Due (m : Move F) : Prop where
  reached : ∃ before after, s.queue rules loads = before ++ (m.source, m.candidate) :: after ∧
    before.countP (fun waiting => s.placeable rules loads waiting.2) < s.limit
  suits : s.suitable rules (s.underloaded loads) m.candidate m.target = true
  first : ∃ before after, s.underloaded loads = before ++ m.target :: after ∧
    ∀ target ∈ before, s.suitable rules (s.underloaded loads) m.candidate target = false

end Order

end Scheduler

variable {s rules} {clusterName : String} {targets loads : List (NodeLoad F)} {src : NodeLoad F}

theorem numbered_append (ms more : List (Move F)) (recID : Nat) :
    s.numbered clusterName recID (ms ++ more) =
      s.numbered clusterName recID ms ++ s.numbered clusterName (recID + ms.length) more := by
  induction ms generalizing recID with
  | nil => rfl
  | cons m rest ih =>
      rw [List.cons_append, Scheduler.numbered, Scheduler.numbered, ih (recID + 1),
        List.length_cons, Nat.add_right_comm recID 1 rest.length]
      rfl

@[simp] theorem length_numbered (ms : List (Move F)) (recID : Nat) :
    (s.numbered clusterName recID ms).length = ms.length := by
  induction ms generalizing recID with
  | nil => rfl
  | cons m rest ih => exact congrArg (· + 1) (ih (recID + 1))

theorem migration_numbered (ms : List (Move F)) (recID : Nat) :
    (s.numbered clusterName recID ms).map (·.migration) = ms.map Move.migration := by
  induction ms generalizing recID with
  | nil => rfl
  | cons m rest ih => exact congrArg (m.migration :: ·) (ih (recID + 1))

theorem recommendFrom_spec {candidates : List (Candidate F)} {recID : Nat}
    {recs : List DRSRecommendation} (room : recs.length < s.limit) :
    let answer := s.recommendFrom rules clusterName targets src candidates recID recs
    let found := s.movesOf rules targets src candidates
    answer.2.2 = recs ++ s.numbered clusterName recID (found.take (s.limit - recs.length)) ∧
      (answer.1 = true ↔ s.limit ≤ recs.length + found.length) ∧
      (answer.1 = false → answer.2.1 = recID + found.length) := by
  induction candidates generalizing recID recs with
  | nil =>
      refine ⟨?_, ?_, fun _ => rfl⟩
      · simp [Scheduler.recommendFrom, Scheduler.movesOf, Scheduler.numbered]
      · simp [Scheduler.recommendFrom, Scheduler.movesOf, room]
  | cons candidate rest ih =>
      cases found : s.selectTargetNode rules targets candidate with
      | none =>
          have skipped : s.movesOf rules targets src (candidate :: rest) =
              s.movesOf rules targets src rest := by
            simp [Scheduler.movesOf, found]
          rw [skipped]
          simp only [Scheduler.recommendFrom, found]
          exact ih room
      | some target =>
          have moved : s.movesOf rules targets src (candidate :: rest) =
              ⟨src, candidate, target⟩ :: s.movesOf rules targets src rest := by
            simp [Scheduler.movesOf, found]
          obtain ⟨left, count⟩ : ∃ left, s.limit - recs.length = left + 1 :=
            ⟨s.limit - recs.length - 1, by omega⟩
          rw [moved]
          simp only [Scheduler.recommendFrom, found, count, List.take_succ_cons,
            Scheduler.numbered]
          split
          · rename_i full
            have full : left = 0 := by
              simp only [List.length_append, List.length_singleton] at full
              simp only [Scheduler.limit] at room count
              omega
            refine ⟨?_, ?_, nofun⟩
            · rw [full, List.take_zero, Scheduler.numbered]
            · simp only [List.length_cons, true_iff]
              omega
          · rename_i more
            have more : recs.length + 1 < s.limit := by
              simp only [List.length_append, List.length_singleton] at more
              simp only [Scheduler.limit] at room ⊢
              omega
            have later := @ih (recID + 1)
              (recs ++ [s.recommendation clusterName (recID + 1) src candidate target])
              (by simpa using more)
            obtain ⟨made, early, next⟩ := later
            have left_ : s.limit -
                (recs ++ [s.recommendation clusterName (recID + 1) src candidate target]).length =
                  left := by
              rw [List.length_append, List.length_singleton]
              omega
            refine ⟨?_, ?_, ?_⟩
            · rw [made, left_, ← List.append_cons]
            · rw [early]
              simp only [List.length_append, List.length_cons, List.length_nil]
              omega
            · intro goes
              rw [next goes, List.length_cons]
              omega

theorem recommendAll_spec {sources : List (NodeLoad F)} {recID : Nat}
    {recs : List DRSRecommendation} (room : recs.length < s.limit) :
    s.recommendAll rules clusterName targets sources recID recs =
      recs ++ s.numbered clusterName recID
        ((sources.flatMap (s.movesFrom rules targets)).take (s.limit - recs.length)) := by
  induction sources generalizing recID recs with
  | nil =>
      rw [Scheduler.recommendAll, List.flatMap_nil, List.take_nil, Scheduler.numbered,
        List.append_nil]
  | cons src rest ih =>
      obtain ⟨made, early, next⟩ := @recommendFrom_spec F _ s rules clusterName targets src
        (s.selectMigrationCandidates rules src) recID recs room
      rw [List.flatMap_cons, Scheduler.recommendAll]
      rcases answer : s.recommendFrom rules clusterName targets src
        (s.selectMigrationCandidates rules src) recID recs with ⟨_ | _, last, more⟩
      · rw [answer] at made early next
        change more = recs ++ s.numbered clusterName recID
          ((s.movesFrom rules targets src).take (s.limit - recs.length)) at made
        have short : recs.length + (s.movesFrom rules targets src).length < s.limit :=
          Nat.lt_of_not_le fun long => nomatch early.mpr long
        rw [List.take_of_length_le (by omega)] at made
        change s.recommendAll rules clusterName targets rest last more = _
        rw [ih (by rw [made, List.length_append, length_numbered]; exact short), made,
          show last = recID + (s.movesFrom rules targets src).length from next rfl,
          List.length_append, length_numbered, List.append_assoc, ← numbered_append,
          List.take_append, List.take_of_length_le (i := s.limit - recs.length) (by omega),
          Nat.sub_sub]
      · rw [answer] at made early
        have long : s.limit ≤ recs.length + (s.movesFrom rules targets src).length :=
          early.mp rfl
        change more = recs ++ s.numbered clusterName recID
          ((s.movesFrom rules targets src).take (s.limit - recs.length)) at made
        change more = _
        rw [made, List.take_append_of_le_length (by omega)]

theorem mem_overloaded {load : NodeLoad F} :
    load ∈ s.overloaded loads ↔ load ∈ loads ∧ s.isOverloaded load = true := by
  rw [Scheduler.overloaded, (s.slices.perm _ _).mem_iff, List.mem_filter]

theorem mem_underloaded {load : NodeLoad F} :
    load ∈ s.underloaded loads ↔ load ∈ loads ∧ s.isUnderloaded load = true := by
  rw [Scheduler.underloaded, (s.slices.perm _ _).mem_iff, List.mem_filter]

theorem mem_moves {m : Move F} :
    m ∈ s.moves rules loads ↔
      m.source ∈ s.overloaded loads ∧
        m.candidate ∈ s.selectMigrationCandidates rules m.source ∧
        s.selectTargetNode rules (s.underloaded loads) m.candidate = some m.target := by
  simp only [Scheduler.moves, Scheduler.movesFrom, Scheduler.movesOf, List.mem_flatMap,
    List.mem_filterMap, Option.map_eq_some_iff]
  constructor
  · rintro ⟨src, there, candidate, picked, target, found, rfl⟩
    exact ⟨there, picked, found⟩
  · rintro ⟨there, picked, found⟩
    exact ⟨m.source, there, m.candidate, picked, m.target, found, rfl⟩

theorem moves_eq_nil
    (idle : loads.filter s.isOverloaded = [] ∨ loads.filter s.isUnderloaded = []) :
    s.moves rules loads = [] := by
  refine List.eq_nil_iff_forall_not_mem.mpr ?_
  intro m member
  obtain ⟨there, -, found⟩ := mem_moves.mp member
  rcases idle with none | none
  · have inside := List.mem_filter.mpr (mem_overloaded.mp there)
    rw [none] at inside
    exact nomatch inside
  · have inside := List.mem_filter.mpr (mem_underloaded.mp (List.mem_of_find?_eq_some found))
    rw [none] at inside
    exact nomatch inside

theorem generateRecommendations_eq :
    s.generateRecommendations rules clusterName loads =
      s.numbered clusterName 0 ((s.moves rules loads).take s.limit) := by
  rw [Scheduler.generateRecommendations]
  split
  · rename_i idle
    rw [moves_eq_nil idle, List.take_nil]
    rfl
  · have room : ([] : List DRSRecommendation).length < s.limit := by
      exact Nat.lt_of_lt_of_le Nat.one_pos (Nat.le_max_left _ _)
    rw [recommendAll_spec room]
    rfl

theorem mem_take_filterMap_iff {A B : Type} {f : A → Option B} {l : List A} {n : Nat} {b : B} :
    b ∈ (l.filterMap f).take n ↔
      ∃ before a after, l = before ++ a :: after ∧ f a = some b ∧
        before.countP (fun x => (f x).isSome) < n := by
  induction l generalizing n with
  | nil =>
      rw [List.filterMap_nil, List.take_nil]
      constructor
      · intro member
        cases member
      · rintro ⟨before, a, after, split, -⟩
        exact absurd split.symm (List.append_ne_nil_of_right_ne_nil _ (List.cons_ne_nil _ _))
  | cons first rest ih =>
      have shift : (∃ before a after, first :: rest = before ++ a :: after ∧ f a = some b ∧
            before.countP (fun x => (f x).isSome) < n) ↔
          (f first = some b ∧ 0 < n) ∨ ∃ before a after, rest = before ++ a :: after ∧
            f a = some b ∧ (first :: before).countP (fun x => (f x).isSome) < n := by
        constructor
        · rintro ⟨_ | ⟨head, before⟩, a, after, split, found, room⟩
          · obtain ⟨rfl, rfl⟩ := List.cons.inj split
            exact Or.inl ⟨found, room⟩
          · obtain ⟨rfl, rfl⟩ := List.cons.inj split
            exact Or.inr ⟨before, a, after, rfl, found, room⟩
        · rintro (⟨found, room⟩ | ⟨before, a, after, rfl, found, room⟩)
          · exact ⟨[], first, rest, rfl, found, room⟩
          · exact ⟨first :: before, a, after, rfl, found, room⟩
      rw [shift]
      cases found : f first with
      | none => simp [found, ih]
      | some b' =>
          cases n with
          | zero => simp
          | succ n => simp [found, ih, eq_comm]

/-- The move of a guest in the queue, if a node suits it. -/
def moveOf (s : Scheduler F) (rules : List Rule) (loads : List (NodeLoad F))
    (waiting : NodeLoad F × Candidate F) : Option (Move F) :=
  (s.selectTargetNode rules (s.underloaded loads) waiting.2).map fun target =>
    ⟨waiting.1, waiting.2, target⟩

theorem moves_eq_filterMap :
    s.moves rules loads = (s.queue rules loads).filterMap (moveOf s rules loads) := by
  rw [Scheduler.queue, List.filterMap_flatMap, Scheduler.moves]
  refine congrArg (List.flatMap · _) (funext fun src => ?_)
  rw [List.filterMap_map]
  rfl

theorem isSome_moveOf {waiting : NodeLoad F × Candidate F} :
    (moveOf s rules loads waiting).isSome = s.placeable rules loads waiting.2 := by
  rw [moveOf, Option.isSome_map, Scheduler.selectTargetNode, Scheduler.placeable, Bool.eq_iff_iff,
    List.find?_isSome, List.any_eq_true]

theorem countP_moveOf (waiting : List (NodeLoad F × Candidate F)) :
    waiting.countP (fun w => (moveOf s rules loads w).isSome) =
      waiting.countP fun w => s.placeable rules loads w.2 :=
  congrArg (List.countP · waiting) (funext fun _ => isSome_moveOf)

/-- The moves that are recommended are those that are due. -/
theorem mem_take_moves_iff {m : Move F} :
    m ∈ (s.moves rules loads).take s.limit ↔ s.Due rules loads m := by
  have found : ∀ waiting, moveOf s rules loads waiting = some m ↔
      waiting = (m.source, m.candidate) ∧
        s.selectTargetNode rules (s.underloaded loads) m.candidate = some m.target := by
    intro waiting
    rw [moveOf, Option.map_eq_some_iff]
    constructor
    · rintro ⟨target, selected, rfl⟩
      exact ⟨rfl, selected⟩
    · rintro ⟨rfl, selected⟩
      exact ⟨m.target, selected, rfl⟩
  rw [moves_eq_filterMap, mem_take_filterMap_iff]
  simp only [found, countP_moveOf, Scheduler.selectTargetNode, List.find?_eq_some_iff_append,
    Bool.not_eq_true']
  constructor
  · rintro ⟨before, _, after, split, ⟨rfl, suits, first⟩, room⟩
    exact ⟨⟨before, after, split, room⟩, suits, first⟩
  · rintro ⟨⟨before, after, split, room⟩, suits, first⟩
    exact ⟨before, _, after, split, ⟨rfl, suits, first⟩, room⟩

theorem length_take_moves :
    ((s.moves rules loads).take s.limit).length =
      min s.limit ((s.queue rules loads).countP fun waiting => s.placeable rules loads waiting.2) := by
  rw [List.length_take, moves_eq_filterMap, List.length_filterMap_eq_countP, countP_moveOf]

theorem generateRecommendations_spec :
    (s.generateRecommendations rules clusterName loads).map (·.migration) =
      ((s.moves rules loads).take s.limit).map Move.migration := by
  rw [generateRecommendations_eq, migration_numbered]

end Batch

def NodeLoad.guests {F : Type} (load : NodeLoad F) : List Guest :=
  load.vms.map (fun vm => ⟨.vm, vm.vmid⟩) ++ load.cts.map fun ct => ⟨.ct, ct.vmid⟩

/-- The load of a cluster: no node is listed twice, and no guest. -/
structure ClusterLoad (F : Type) where
  loads : List (NodeLoad F)
  nodes : (loads.map (·.node)).Nodup
  guests : (loads.flatMap NodeLoad.guests).Nodup

/-- Where the guests run. -/
abbrev Placement := Guest → Option String

def place {F : Type} (loads : List (NodeLoad F)) : Placement := fun g =>
  (loads.find? fun load => g ∈ load.guests).map (·.node)

def execute (placement : Placement) (migrations : List Migration) : Placement :=
  migrations.foldl (fun placement m => Function.update placement m.guest (some m.toNode)) placement

/-- Two guests are members of a rule that is to keep its members apart. -/
def Apart (rules : List Rule) (a b : Int64) : Prop :=
  ∃ rule ∈ rules, rule.enabled = true ∧ rule.type = .antiAffinity ∧
    a ≠ b ∧ a ∈ rule.members ∧ b ∈ rule.members

/-- No two guests that are to be apart run on one node unless they already did. -/
def KeepsApart (rules : List Rule) (before after : Placement) : Prop :=
  ∀ g h, Apart rules g.vmid h.vmid → ∀ node, after g = some node → after h = some node →
    before g = before h

section Safety

variable {F : Type} {load : ClusterLoad F} {l : NodeLoad F} {g : Guest}

theorem load_unique {l' : NodeLoad F} (there : l ∈ load.loads) (there' : l' ∈ load.loads)
    (member : g ∈ l.guests) (member' : g ∈ l'.guests) : l = l' := by
  by_contra different
  have disjoint := (List.nodup_flatMap.mp load.guests).2
  have symmetric : Std.Symm (Function.onFun List.Disjoint (NodeLoad.guests (F := F))) :=
    ⟨fun _ _ apart _ second first => apart first second⟩
  exact disjoint.forall there there' different member member'

theorem place_of_mem (there : l ∈ load.loads) (member : g ∈ l.guests) :
    place load.loads g = some l.node := by
  have some_ : (load.loads.find? fun l => g ∈ l.guests).isSome := by
    exact List.find?_isSome.mpr ⟨l, there, decide_eq_true member⟩
  obtain ⟨found, here⟩ := Option.isSome_iff_exists.mp some_
  have inside : g ∈ found.guests := by simpa using List.find?_some here
  have same := load_unique (List.mem_of_find?_eq_some here) there inside member
  rw [place, here, same]
  rfl

theorem mem_of_place {node : String} (placed : place load.loads g = some node) :
    ∃ l ∈ load.loads, g ∈ l.guests ∧ l.node = node := by
  obtain ⟨l, found, key⟩ := Option.map_eq_some_iff.mp placed
  refine ⟨l, List.mem_of_find?_eq_some found, ?_, key⟩
  simpa using List.find?_some found

theorem execute_cases (placement : Placement) (migrations : List Migration) (g : Guest) :
    (∃ m ∈ migrations, m.guest = g ∧ execute placement migrations g = some m.toNode) ∨
      (∀ m ∈ migrations, m.guest ≠ g) ∧ execute placement migrations g = placement g := by
  induction migrations generalizing placement with
  | nil => exact Or.inr ⟨List.forall_mem_nil _, rfl⟩
  | cons first rest ih =>
      rcases ih (Function.update placement first.guest (some first.toNode)) with
        ⟨m, member, guest, last⟩ | ⟨others, kept⟩
      · exact Or.inl ⟨m, List.mem_cons_of_mem _ member, guest, last⟩
      · by_cases guest : first.guest = g
        · left
          refine ⟨first, List.mem_cons_self, guest, ?_⟩
          rw [guest, Function.update_self] at kept
          rw [execute, List.foldl_cons, guest]
          exact kept
        · right
          refine ⟨List.forall_mem_cons.mpr ⟨guest, others⟩, ?_⟩
          rw [Function.update_of_ne (Ne.symm guest)] at kept
          exact kept

variable [Floating F] {s : Scheduler F} {rules : List Rule}

theorem guest_of_candidate {src : NodeLoad F} {c : Candidate F}
    (picked : c ∈ s.selectMigrationCandidates rules src) :
    (⟨c.guestType, c.vmid⟩ : Guest) ∈ src.guests := by
  have listed := (s.slices.perm _ _).mem_iff.mp (List.mem_of_mem_take picked)
  rcases List.mem_append.mp listed with ofVM | ofCT
  · obtain ⟨vm, there, rfl⟩ := List.mem_map.mp ofVM
    have inside := (List.mem_filter.mp there).1
    exact List.mem_append_left _ (List.mem_map.mpr ⟨vm, inside, rfl⟩)
  · obtain ⟨ct, there, rfl⟩ := List.mem_map.mp ofCT
    exact List.mem_append_right _ (List.mem_map.mpr ⟨ct, there, rfl⟩)

theorem selectTargetNode_congr {targets : List (NodeLoad F)} {c c' : Candidate F}
    (same : c.vmid = c'.vmid) :
    s.selectTargetNode rules targets c = s.selectTargetNode rules targets c' := by
  have suits : s.suitable rules targets c = s.suitable rules targets c' := by
    funext target
    simp only [Scheduler.suitable, same]
  rw [Scheduler.selectTargetNode, suits]
  rfl

omit [Floating F] in
theorem violates_of_member {targets : List (NodeLoad F)} {target : NodeLoad F} {a : Int64}
    (apart : Apart rules a g.vmid) (there : target ∈ targets) (runs : g ∈ target.guests) :
    violatesAntiAffinity a target.node rules targets = true := by
  obtain ⟨rule, listed, enabled, type, different, member, other⟩ := apart
  have running : target.vms.any (·.vmid = g.vmid) ∨ target.cts.any (·.vmid = g.vmid) := by
    rcases List.mem_append.mp runs with aVM | aCT
    · obtain ⟨vm, inside, rfl⟩ := List.mem_map.mp aVM
      exact Or.inl (List.any_eq_true.mpr ⟨vm, inside, decide_eq_true rfl⟩)
    · obtain ⟨ct, inside, rfl⟩ := List.mem_map.mp aCT
      exact Or.inr (List.any_eq_true.mpr ⟨ct, inside, decide_eq_true rfl⟩)
  have on : targets.any (fun load => load.node = target.node ∧
      (load.vms.any (·.vmid = g.vmid) ∨ load.cts.any (·.vmid = g.vmid))) = true :=
    List.any_eq_true.mpr ⟨target, there, decide_eq_true ⟨rfl, running⟩⟩
  refine List.any_eq_true.mpr ⟨rule, listed, decide_eq_true ⟨enabled, type, member, ?_⟩⟩
  exact List.any_eq_true.mpr ⟨g.vmid, other, decide_eq_true ⟨different.symm, on⟩⟩

theorem not_on_target {loads : List (NodeLoad F)} {m : Move F}
    (member : m ∈ s.moves rules loads) (apart : Apart rules m.guest.vmid g.vmid) :
    g ∉ m.target.guests := by
  intro runs
  obtain ⟨-, -, found⟩ := mem_moves.mp member
  have violates := violates_of_member apart (List.mem_of_find?_eq_some found) runs
  have suits := List.find?_some found
  simp [Scheduler.suitable, Move.guest] at suits violates
  simp [violates] at suits

theorem place_of_move {loads : ClusterLoad F} {m : Move F}
    (member : m ∈ s.moves rules loads.loads) :
    place loads.loads m.guest = some m.source.node := by
  obtain ⟨there, picked, -⟩ := mem_moves.mp member
  exact place_of_mem (mem_overloaded.mp there).1 (guest_of_candidate picked)

theorem target_mem {loads : ClusterLoad F} {m : Move F}
    (member : m ∈ s.moves rules loads.loads) : m.target ∈ loads.loads := by
  obtain ⟨-, -, found⟩ := mem_moves.mp member
  exact (mem_underloaded.mp (List.mem_of_find?_eq_some found)).1

theorem apart_from_stayer {loads : ClusterLoad F} {m : Move F} {node : String}
    (member : m ∈ s.moves rules loads.loads) (apart : Apart rules m.guest.vmid g.vmid)
    (on : m.target.node = node) (stays : place loads.loads g = some node) : False := by
  obtain ⟨l, there, runs, key⟩ := mem_of_place stays
  have same : l = m.target :=
    List.inj_on_of_nodup_map loads.nodes there (target_mem member) (key.trans on.symm)
  exact not_on_target member apart (same ▸ runs)

theorem Apart.symm {a b : Int64} (apart : Apart rules a b) : Apart rules b a := by
  obtain ⟨rule, listed, enabled, type, different, first, second⟩ := apart
  exact ⟨rule, listed, enabled, type, different.symm, second, first⟩

/-- Carrying out a batch is safe iff it has no two moves that bring guests which are to be apart
from different nodes to one. -/
theorem keepsApart_execute_iff (loads : ClusterLoad F) (clusterName : String) :
    KeepsApart rules (place loads.loads)
        (execute (place loads.loads)
          ((s.generateRecommendations rules clusterName loads.loads).map (·.migration))) ↔
      ∀ m ∈ (s.moves rules loads.loads).take s.limit,
        ∀ m' ∈ (s.moves rules loads.loads).take s.limit,
          m.target.node = m'.target.node → m.source.node ≠ m'.source.node →
            ¬Apart rules m.candidate.vmid m'.candidate.vmid := by
  rw [generateRecommendations_spec]
  have listed : ∀ m ∈ (s.moves rules loads.loads).take s.limit, m ∈ s.moves rules loads.loads :=
    fun m member => List.mem_of_mem_take member
  constructor
  · intro safe m member m' member' same different apart
    have arrives : ∀ k ∈ (s.moves rules loads.loads).take s.limit,
        execute (place loads.loads)
          (((s.moves rules loads.loads).take s.limit).map Move.migration) k.guest =
            some k.target.node := by
      intro k there
      rcases execute_cases (place loads.loads)
        (((s.moves rules loads.loads).take s.limit).map Move.migration) k.guest with
        ⟨_, last, guest, lands⟩ | ⟨none, -⟩
      · obtain ⟨k', there', rfl⟩ := List.mem_map.mp last
        obtain ⟨-, -, found⟩ := mem_moves.mp (listed k there)
        obtain ⟨-, -, found'⟩ := mem_moves.mp (listed k' there')
        have number : k'.candidate.vmid = k.candidate.vmid := congrArg Guest.vmid guest
        rw [selectTargetNode_congr number, found] at found'
        rw [lands, Option.some.inj found']
        rfl
      · exact absurd rfl (none k.migration (List.mem_map_of_mem there))
    have before := safe m.guest m'.guest apart m.target.node (arrives m member)
      (same ▸ arrives m' member')
    rw [place_of_move (listed m member), place_of_move (listed m' member')] at before
    exact different (Option.some.inj before)
  · intro clear g h apart node lands lands'
    rcases execute_cases (place loads.loads)
      (((s.moves rules loads.loads).take s.limit).map Move.migration) g with
      ⟨_, last, rfl, on⟩ | ⟨-, stays⟩
    · obtain ⟨m, member, rfl⟩ := List.mem_map.mp last
      have here : m.target.node = node := Option.some.inj (on.symm.trans lands)
      rcases execute_cases (place loads.loads)
        (((s.moves rules loads.loads).take s.limit).map Move.migration) h with
        ⟨_, last', rfl, on'⟩ | ⟨-, stays'⟩
      · obtain ⟨m', member', rfl⟩ := List.mem_map.mp last'
        have here' : m'.target.node = node := Option.some.inj (on'.symm.trans lands')
        have sources : m.source.node = m'.source.node := by
          by_contra different
          exact clear m member m' member' (here.trans here'.symm) different apart
        change place loads.loads m.guest = place loads.loads m'.guest
        rw [place_of_move (listed m member), place_of_move (listed m' member'), sources]
      · exact (apart_from_stayer (listed m member) apart here (stays'.symm.trans lands')).elim
    · rcases execute_cases (place loads.loads)
        (((s.moves rules loads.loads).take s.limit).map Move.migration) h with
        ⟨_, last', rfl, on'⟩ | ⟨-, stays'⟩
      · obtain ⟨m', member', rfl⟩ := List.mem_map.mp last'
        have here' : m'.target.node = node := Option.some.inj (on'.symm.trans lands')
        exact (apart_from_stayer (listed m' member') apart.symm here'
          (stays.symm.trans lands)).elim
      · exact stays.symm.trans (lands.trans (lands'.symm.trans stays'))

/-- Carrying out what is recommended for the loads is safe iff no two guests that are to be apart
are due to leave different nodes for one. -/
theorem batch_safe_iff (loads : ClusterLoad F) (clusterName : String) :
    KeepsApart rules (place loads.loads)
        (execute (place loads.loads)
          ((s.generateRecommendations rules clusterName loads.loads).map (·.migration))) ↔
      ∀ m m' : Move F, s.Due rules loads.loads m → s.Due rules loads.loads m' →
        m.target.node = m'.target.node → m.source.node ≠ m'.source.node →
          ¬Apart rules m.candidate.vmid m'.candidate.vmid := by
  rw [keepsApart_execute_iff]
  simp only [mem_take_moves_iff]
  constructor
  · intro clear m m' due due'
    exact clear m due m' due'
  · intro clear m due m' due'
    exact clear m m' due due'

end Safety

section Stored

variable {cs : State.ClusterStore}

/-- Nodes and guests are stored under their own names and numbers. -/
structure Keyed (cs : State.ClusterStore) : Prop where
  nodes : FiniteMap.KeyedBy Pve.Node.node cs.nodes
  vms : FiniteMap.KeyedBy Pve.VM.vmid cs.vms
  containers : FiniteMap.KeyedBy Pve.Container.vmid cs.containers

theorem keyed_new (name : String) : Keyed (State.ClusterStore.new name) where
  nodes := fun _ _ found => nomatch found
  vms := fun _ _ found => nomatch found
  containers := fun _ _ found => nomatch found

variable {F : Type} [Floating F]

theorem mem_guests_loadOf {vms : List Pve.VM} {cts : List Pve.Container} {node : Pve.Node}
    {g : Guest} (member : g ∈ (loadOf (F := F) vms cts node).guests) :
    (∃ vm ∈ vms, vm.node = node.node ∧ g = ⟨.vm, vm.vmid⟩) ∨
      ∃ ct ∈ cts, ct.node = node.node ∧ g = ⟨.ct, ct.vmid⟩ := by
  rcases List.mem_append.mp member with aVM | aCT
  · obtain ⟨vm, inside, rfl⟩ := List.mem_map.mp aVM
    obtain ⟨there, on⟩ := List.mem_filter.mp inside
    exact Or.inl ⟨vm, there, (of_decide_eq_true on).2, rfl⟩
  · obtain ⟨ct, inside, rfl⟩ := List.mem_map.mp aCT
    obtain ⟨there, on⟩ := List.mem_filter.mp inside
    exact Or.inr ⟨ct, there, (of_decide_eq_true on).2, rfl⟩

theorem nodup_guests_loadOf {vms : List Pve.VM} {cts : List Pve.Container} {node : Pve.Node}
    (uniqueVMs : (vms.map (·.vmid)).Nodup) (uniqueCTs : (cts.map (·.vmid)).Nodup) :
    (loadOf (F := F) vms cts node).guests.Nodup := by
  have numbers : Function.Injective (Guest.mk .vm) ∧ Function.Injective (Guest.mk .ct) :=
    ⟨fun _ _ same => congrArg Guest.vmid same, fun _ _ same => congrArg Guest.vmid same⟩
  refine List.nodup_append.mpr ⟨?_, ?_, ?_⟩
  · have own : ((loadOf (F := F) vms cts node).vms.map (·.vmid)).Nodup :=
      (List.filter_sublist.map _).nodup uniqueVMs
    simpa only [List.map_map, Function.comp_def] using own.map numbers.1
  · have own : ((loadOf (F := F) vms cts node).cts.map (·.vmid)).Nodup :=
      (List.filter_sublist.map _).nodup uniqueCTs
    simpa only [List.map_map, Function.comp_def] using own.map numbers.2
  · intro g aVM h aCT same
    obtain ⟨vm, -, rfl⟩ := List.mem_map.mp aVM
    obtain ⟨ct, -, rfl⟩ := List.mem_map.mp aCT
    exact nomatch same

theorem nodup_online (keyed : Keyed cs) :
    (((FiniteMap.values cs.nodes).filter (·.status = "online")).map Pve.Node.node).Nodup :=
  (List.filter_sublist.map _).nodup keyed.nodes.nodup_values

theorem disjoint_loadOf (keyed : Keyed cs) {a b : Pve.Node} (different : a.node ≠ b.node)
    {g : Guest}
    (first : g ∈ (loadOf (F := F) (FiniteMap.values cs.vms)
      (FiniteMap.values cs.containers) a).guests)
    (second : g ∈ (loadOf (F := F) (FiniteMap.values cs.vms)
      (FiniteMap.values cs.containers) b).guests) : False := by
  rcases mem_guests_loadOf first with ⟨vm, there, on, rfl⟩ | ⟨ct, there, on, rfl⟩
  · rcases mem_guests_loadOf second with ⟨vm', there', on', same⟩ | ⟨_, _, _, same⟩
    · have number : vm.vmid = vm'.vmid := congrArg Guest.vmid same
      obtain rfl := List.inj_on_of_nodup_map keyed.vms.nodup_values there there' number
      exact different (on.symm.trans on')
    · exact nomatch same
  · rcases mem_guests_loadOf second with ⟨_, _, _, same⟩ | ⟨ct', there', on', same⟩
    · exact nomatch same
    · have number : ct.vmid = ct'.vmid := congrArg Guest.vmid same
      obtain rfl := List.inj_on_of_nodup_map keyed.containers.nodup_values there there' number
      exact different (on.symm.trans on')

/-- The loads that are calculated of a store are those of a cluster. -/
def clusterLoad (keyed : Keyed cs) : ClusterLoad F where
  loads := calculateNodeLoads cs
  nodes := by
    simpa only [calculateNodeLoads, List.map_map, Function.comp_def, loadOf]
      using nodup_online keyed
  guests := by
    refine List.nodup_flatMap.mpr ⟨?_, ?_⟩
    · intro l member
      obtain ⟨node, -, rfl⟩ := List.mem_map.mp member
      exact nodup_guests_loadOf keyed.vms.nodup_values keyed.containers.nodup_values
    · refine List.pairwise_map.mpr ((List.pairwise_map.mp (nodup_online keyed)).imp ?_)
      exact fun different _ first second => disjoint_loadOf keyed different first second

end Stored

/-- Arithmetic without rounding. -/
instance exactArithmetic : Floating Rat where
  ofRat := id
  sqrt := Rat.sqrt
  formatPercent := fun v => toString (v * 100 + 1 / 2).floor ++ "%"
  decidableLT := inferInstance
  decidableLE := inferInstance

def insertion : SortSlice where
  sort := fun less l => l.insertionSort fun a b => ¬less b a
  perm := fun _ _ => List.perm_insertionSort _ _

def scheduler : Scheduler Rat where
  cfg := { cpuThreshold := 0.8, memThreshold := 0.85, migrationRate := 2 }
  slices := insertion
  stamp := fun _ => "20240501-120000"
  now := 1714564800

/-- A guest with the defaults that nothing reads. -/
def runningVM (vmid : Int64) (node : String) : Pve.VM :=
  { (default : Pve.VM) with vmid := vmid, node := node, status := "running", mem := 1024 }

def keepApart : Rule :=
  { id := "r-1", cluster := "lab", name := "databases", type := .antiAffinity, enabled := true
    members := [101, 102], hostNode := "" }

/-- Two busy nodes with a database each, and an idle one. -/
def busyPair : ClusterLoad Rat where
  loads :=
    [⟨"n1", 0.9375, 0.5, [runningVM 101 "n1"], []⟩, ⟨"n2", 0.9375, 0.5, [runningVM 102 "n2"], []⟩,
      ⟨"n3", 0.0625, 0.0625, [], []⟩]
  nodes := by decide
  guests := by decide

theorem databases_meet :
    ¬KeepsApart [keepApart] (place busyPair.loads)
      (execute (place busyPair.loads)
        ((scheduler.generateRecommendations [keepApart] "lab" busyPair.loads).map
          (·.migration))) := by
  intro safe
  have apart : Apart [keepApart] 101 102 :=
    ⟨keepApart, List.mem_singleton.mpr rfl, rfl, rfl, by decide, by decide, by decide⟩
  have together := safe ⟨.vm, 101⟩ ⟨.vm, 102⟩ apart "n3" (by decide +kernel) (by decide +kernel)
  exact absurd together (by decide +kernel)

end Drs
