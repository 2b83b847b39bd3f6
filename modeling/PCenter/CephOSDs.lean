import Mathlib.Data.List.Forall2
import PCenter.CephCluster
import PCenter.Lib.RoseTree

/-!
# The OSDs of a CRUSH tree

`ListCephOSDs` and `flattenCephOSDTree` of `internal/pve/client.go`. The list has an entry for
every node of type `osd`, in depth-first order and under the host above it:
`flattenCephOSDTree_faithful`.
-/

namespace CephOSDs

open RoseTree

section Model

/-- `CephOSDTreeNode` without its children, as far as it is read. -/
structure CephOSDTreeNode where
  id : Int64
  name : String
  type : String
  status : String
  deviceClass : String
  crushWeight : Rat
  reweight : Rat

structure CephOSD where
  id : Int64
  name : String
  type : String
  host : String
  deviceClass : String
  status : String
  isIn : Bool
  crushWeight : Rat
  reweight : Rat

/-- The host for a node and for what is below it. -/
def hostAt (currentHost : String) (node : CephOSDTreeNode) : String :=
  if node.type = "host" then node.name else currentHost

def osdOf (node : CephOSDTreeNode) (host : String) : CephOSD where
  id := node.id
  name := node.name
  type := node.type
  host := host
  deviceClass := node.deviceClass
  status := node.status
  isIn := 0 < node.reweight
  crushWeight := node.crushWeight
  reweight := node.reweight

mutual

def flattenCephOSDTree : RoseTree CephOSDTreeNode → String → List CephOSD → List CephOSD
  | .node n children, currentHost, out =>
      let host := hostAt currentHost n
      let out := if n.type = "osd" then out ++ [osdOf n host] else out
      flattenChildren children host out

def flattenChildren : List (RoseTree CephOSDTreeNode) → String → List CephOSD → List CephOSD
  | [], _, out => out
  | child :: children, host, out =>
      flattenChildren children host (flattenCephOSDTree child host out)

end

def listCephOSDs (root : Except String (RoseTree CephOSDTreeNode)) :
    Except String (List CephOSD) :=
  root.map fun tree => flattenCephOSDTree tree "" []

end Model

section Property

variable (t : RoseTree CephOSDTreeNode)

/-- The name of the nearest ancestor of type `host`. -/
def nearestHost (above : List CephOSDTreeNode) : String :=
  (above.find? fun node => node.type = "host").elim "" (·.name)

def IsOSD (p : List ℕ) : Prop := ∃ above node, t.lineage p = some (above, node) ∧ node.type = "osd"

/-- The entry is that of the node at an address. -/
def EntryOf (p : List ℕ) (entry : CephOSD) : Prop :=
  ∃ above node, t.lineage p = some (above, node) ∧ entry.id = node.id ∧
    entry.host = nearestHost above

/-- One entry for each node of type `osd`, in depth-first order, and nothing else. -/
def Faithful (out : List CephOSD) : Prop :=
  ∃ ps : List (List ℕ), ps.Pairwise (· < ·) ∧ (∀ p, p ∈ ps ↔ IsOSD t p) ∧
    List.Forall₂ (EntryOf t) ps out

end Property

section Flattening

/-- The entry that a visit leaves. -/
def emitted (visit : String × CephOSDTreeNode) : Option CephOSD :=
  if visit.2.type = "osd" then some (osdOf visit.2 (hostAt visit.1 visit.2)) else none

theorem flattenChildren_eq (host : String) (children : List (RoseTree CephOSDTreeNode))
    (each : ∀ child ∈ children, ∀ out, flattenCephOSDTree child host out =
      out ++ (visits hostAt host child).filterMap emitted) :
    ∀ out, flattenChildren children host out =
      out ++ (visitsAll hostAt host children).filterMap emitted := by
  induction children with
  | nil =>
      intro out
      simp [flattenChildren, visitsAll]
  | cons child children ih =>
      intro out
      have rest := ih fun child' inside => each child' (List.mem_cons_of_mem child inside)
      rw [flattenChildren, each child List.mem_cons_self, rest, visitsAll, List.filterMap_append,
        List.append_assoc]

theorem flattenCephOSDTree_eq (t : RoseTree CephOSDTreeNode) : ∀ host out,
    flattenCephOSDTree t host out = out ++ (visits hostAt host t).filterMap emitted := by
  induction t using induct with
  | node n children ih =>
      intro host out
      have below := flattenChildren_eq (hostAt host n) children fun child inside =>
        ih child inside (hostAt host n)
      rw [flattenCephOSDTree, below, visits, List.filterMap_cons, emitted]
      by_cases osd : n.type = "osd"
      · simp [osd]
      · simp [osd]

theorem handed_hostAt (above : List CephOSDTreeNode) :
    handed hostAt "" above = nearestHost above := by
  induction above with
  | nil => rfl
  | cons node above ih =>
      rw [handed, List.foldr_cons, hostAt, nearestHost, List.find?_cons]
      by_cases host : node.type = "host"
      · simp [host]
      · rw [if_neg host, decide_eq_false host]
        exact ih

theorem forall₂_filterMap {A B : Type*} (f : A → Option B) (l : List A) :
    List.Forall₂ (fun a b => f a = some b) (l.filter fun a => (f a).isSome) (l.filterMap f) := by
  induction l with
  | nil => exact .nil
  | cons a l ih =>
      cases value : f a with
      | none => simpa [List.filter_cons, List.filterMap_cons, value] using ih
      | some b =>
          rw [List.filter_cons_of_pos (by rw [value]; rfl), List.filterMap_cons_some value]
          exact .cons value ih

/-- The entry for the node at an address, if it is an OSD. -/
def entryAt (t : RoseTree CephOSDTreeNode) (p : List ℕ) : Option CephOSD :=
  (t.lineage p).bind fun found => emitted (handed hostAt "" found.1, found.2)

theorem flattenCephOSDTree_eq_filterMap (t : RoseTree CephOSDTreeNode) :
    flattenCephOSDTree t "" [] = (addresses t).filterMap (entryAt t) := by
  have walk := visits_eq hostAt t "" []
  rw [handed, List.foldr_nil] at walk
  rw [flattenCephOSDTree_eq, List.nil_append, walk, List.filterMap_filterMap]
  refine List.filterMap_congr fun p _ => ?_
  rw [entryAt, lineage, Option.bind_map]
  rfl

theorem entryAt_eq_some {t : RoseTree CephOSDTreeNode} {p : List ℕ} {entry : CephOSD}
    (found : entryAt t p = some entry) : IsOSD t p ∧ EntryOf t p entry := by
  obtain ⟨⟨above, node⟩, here, emits⟩ := Option.bind_eq_some_iff.mp found
  rw [emitted] at emits
  by_cases osd : node.type = "osd"
  · rw [if_pos osd, Option.some.injEq] at emits
    have apart : ¬node.type = "host" := by
      rw [osd]
      decide
    subst emits
    refine ⟨⟨above, node, here, osd⟩, above, node, here, rfl, ?_⟩
    rw [osdOf, hostAt, if_neg apart, handed_hostAt]
  · rw [if_neg osd] at emits
    cases emits

theorem isSome_entryAt_iff (t : RoseTree CephOSDTreeNode) (p : List ℕ) :
    (entryAt t p).isSome = true ↔ IsOSD t p := by
  constructor
  · intro present
    obtain ⟨entry, found⟩ := Option.isSome_iff_exists.mp present
    exact (entryAt_eq_some found).1
  · rintro ⟨above, node, here, osd⟩
    rw [entryAt, here, Option.bind_some, emitted, if_pos osd]
    rfl

/-- Every tree is flattened faithfully. -/
theorem flattenCephOSDTree_faithful (t : RoseTree CephOSDTreeNode) :
    Faithful t (flattenCephOSDTree t "" []) := by
  rw [flattenCephOSDTree_eq_filterMap]
  refine ⟨(addresses t).filter fun p => (entryAt t p).isSome,
    (sorted_addresses t).filter _, fun p => ?_, ?_⟩
  · rw [List.mem_filter, isSome_entryAt_iff]
    refine ⟨fun inside => inside.2, fun osd => ⟨?_, osd⟩⟩
    obtain ⟨above, node, here, -⟩ := osd
    exact (mem_addresses_iff t [] p).mpr ⟨(above, node), here⟩
  · exact (forall₂_filterMap (entryAt t) (addresses t)).imp fun p entry found =>
      (entryAt_eq_some found).2

end Flattening

end CephOSDs
