import Mathlib.Data.Fintype.Card
import Mathlib.Data.Set.Finite.Basic
import Mathlib.Logic.Relation
import Mathlib.Order.WellFounded

/-!
# Forests that are given by parents

Every node has at most one parent, so all of the structure is one partial function. It is
`Rooted` when going up comes to an end from every node. The walk upwards then answers every
question about ancestors, and a node may get any parent that is not below it.
-/

namespace Forest

variable {Node : Type*}

section Order

variable (parent : Node → Option Node)

/-- The second node has the first as its parent. -/
def Edge (p c : Node) : Prop := parent c = some p

/-- A proper ancestor. -/
def Ancestor : Node → Node → Prop := Relation.TransGen (Edge parent)

def Rooted : Prop := WellFounded (Edge parent)

variable {parent} {a p x y : Node}

theorem ancestor_of_parent (edge : parent x = some p) : Ancestor parent p x := .single edge

theorem Ancestor.below (ancestor : Ancestor parent a p) (edge : parent x = some p) :
    Ancestor parent a x := .tail ancestor edge

theorem Ancestor.trans {b : Node} (first : Ancestor parent a b) (second : Ancestor parent b x) :
    Ancestor parent a x := Relation.TransGen.trans first second

theorem ancestor_iff :
    Ancestor parent a x ↔ ∃ p, parent x = some p ∧ (a = p ∨ Ancestor parent a p) := by
  constructor
  · intro ancestor
    cases ancestor with
    | single edge => exact ⟨a, edge, .inl rfl⟩
    | tail higher edge => exact ⟨_, edge, .inr higher⟩
  · rintro ⟨p, edge, rfl | higher⟩
    · exact ancestor_of_parent edge
    · exact higher.below edge

theorem Rooted.irrefl (rooted : Rooted parent) (a : Node) : ¬Ancestor parent a a :=
  (WellFounded.transGen rooted).irrefl.irrefl a

theorem Rooted.mono {parent' : Node → Option Node} (rooted : Rooted parent)
    (kept : ∀ c p, parent' c = some p → parent c = some p) : Rooted parent' :=
  Subrelation.wf (fun {p c} edge => kept c p edge) rooted

theorem Ancestor.mono {parent' : Node → Option Node}
    (kept : ∀ c p, parent' c = some p → parent c = some p) (ancestor : Ancestor parent' a x) :
    Ancestor parent a x :=
  Relation.TransGen.mono (fun p c edge => kept c p edge) a x ancestor

/-- If links are cut and a node is still below another, then so is every node between them. -/
theorem Rooted.between {parent' : Node → Option Node} {b : Node} (rooted : Rooted parent)
    (kept : ∀ c p, parent' c = some p → parent c = some p) (upper : Ancestor parent a b)
    (lower : b = x ∨ Ancestor parent b x) (still : Ancestor parent' a x) :
    (b = x ∨ Ancestor parent' b x) ∧ Ancestor parent' a b := by
  induction x using rooted.induction with
  | _ x ih =>
      rcases lower with rfl | lower
      · exact ⟨.inl rfl, still⟩
      · obtain ⟨q, edge, way⟩ := ancestor_iff.mp lower
        obtain ⟨q', edge', way'⟩ := ancestor_iff.mp still
        obtain rfl := Option.some.inj (edge.symm.trans (kept x q' edge'))
        rcases way' with rfl | still
        · have back : Ancestor parent a a := by
            rcases way with rfl | way
            · exact upper
            · exact upper.trans way
          exact absurd back (rooted.irrefl a)
        · obtain ⟨here, top⟩ := ih q edge way still
          refine ⟨.inr ?_, top⟩
          rcases here with rfl | here
          · exact ancestor_of_parent edge'
          · exact here.below edge'

/-- Two nodes with a common descendant are one above the other. -/
theorem Rooted.comparable {b : Node} (rooted : Rooted parent) (first : a = x ∨ Ancestor parent a x)
    (second : b = x ∨ Ancestor parent b x) : a = b ∨ Ancestor parent a b ∨ Ancestor parent b a := by
  induction x using rooted.induction with
  | _ x ih =>
      rcases first with rfl | above
      · rcases second with rfl | above'
        · exact .inl rfl
        · exact .inr (.inr above')
      · rcases second with rfl | above'
        · exact .inr (.inl above)
        · obtain ⟨p, edge, way⟩ := ancestor_iff.mp above
          obtain ⟨p', edge', way'⟩ := ancestor_iff.mp above'
          obtain rfl := Option.some.inj (edge.symm.trans edge')
          exact ih p edge way way'

/-- Nothing is below two siblings. -/
theorem Rooted.siblings_apart {b : Node} (rooted : Rooted parent) (siblings : parent a = parent b)
    (first : a = x ∨ Ancestor parent a x) (second : b = x ∨ Ancestor parent b x) : a = b := by
  rcases rooted.comparable first second with same | above | above
  · exact same
  · obtain ⟨p, edge, way⟩ := ancestor_iff.mp above
    exact absurd (ancestor_iff.mpr ⟨p, siblings.trans edge, way⟩) (rooted.irrefl a)
  · obtain ⟨p, edge, way⟩ := ancestor_iff.mp above
    exact absurd (ancestor_iff.mpr ⟨p, siblings.symm.trans edge, way⟩) (rooted.irrefl b)

variable [DecidableEq Node]

theorem acc_update {y : Option Node} (rooted : Rooted parent) (n : Node) (other : n ≠ x)
    (free : ¬Ancestor parent x n) : Acc (Edge (Function.update parent x y)) n := by
  induction n using rooted.induction with
  | _ n ih =>
      constructor
      intro p edge
      have upper : parent n = some p := by
        rwa [Edge, Function.update_of_ne other] at edge
      apply ih p upper
      · rintro rfl
        exact free (ancestor_of_parent upper)
      · intro higher
        exact free (higher.below upper)

/-- A node may get any new parent that is not the node itself and not below it. -/
theorem Rooted.update {y : Option Node} (rooted : Rooted parent)
    (free : ∀ p, y = some p → p ≠ x ∧ ¬Ancestor parent x p) :
    Rooted (Function.update parent x y) := by
  have moved : Acc (Edge (Function.update parent x y)) x := by
    constructor
    intro p edge
    have upper : y = some p := by
      rwa [Edge, Function.update_self] at edge
    exact acc_update rooted p (free p upper).1 (free p upper).2
  constructor
  intro n
  induction n using rooted.induction with
  | _ n ih =>
      by_cases same : n = x
      · rw [same]
        exact moved
      · constructor
        intro p edge
        rw [Edge, Function.update_of_ne same] at edge
        exact ih p edge

end Order

section Walk

variable [DecidableEq Node] (parent : Node → Option Node)

/-- Looks for the second node among the proper ancestors of the first; there is no answer as
long as the fuel does not reach a root. -/
def isBelow : Nat → Node → Node → Option Bool
  | 0, _, _ => none
  | n + 1, x, a =>
      match parent x with
      | none => some false
      | some p => if p = a then some true else isBelow n p a

variable {parent} {a x : Node}

theorem isBelow_root (n : Nat) (root : parent x = none) :
    isBelow parent (n + 1) x a = some false := by
  rw [isBelow, root]

theorem isBelow_child {p : Node} (n : Nat) (edge : parent x = some p) :
    isBelow parent (n + 1) x a = if p = a then some true else isBelow parent n p a := by
  rw [isBelow, edge]

theorem isBelow_sound {n : Nat} {answer : Bool} (found : isBelow parent n x a = some answer) :
    answer = true ↔ Ancestor parent a x := by
  induction n generalizing x with
  | zero => cases found
  | succ n ih =>
      rw [ancestor_iff]
      cases edge : parent x with
      | none =>
          rw [isBelow_root n edge] at found
          obtain rfl := Option.some.inj found
          simp
      | some p =>
          rw [isBelow_child n edge] at found
          by_cases here : p = a
          · rw [if_pos here] at found
            obtain rfl := Option.some.inj found
            simp [here]
          · rw [if_neg here] at found
            rw [ih found]
            simp [Ne.symm here]

theorem isBelow_mono {n m : Nat} {answer : Bool} (found : isBelow parent n x a = some answer)
    (more : n ≤ m) : isBelow parent m x a = some answer := by
  induction n generalizing x m with
  | zero => cases found
  | succ n ih =>
      obtain ⟨m, rfl⟩ : ∃ k, m = k + 1 := ⟨m - 1, by omega⟩
      cases edge : parent x with
      | none =>
          rw [isBelow_root n edge] at found
          rw [isBelow_root m edge, found]
      | some p =>
          rw [isBelow_child n edge] at found
          rw [isBelow_child m edge]
          by_cases here : p = a
          · rw [if_pos here] at found ⊢
            exact found
          · rw [if_neg here] at found ⊢
            exact ih found (by omega)

/-- A walk that has not ended has met a different node at every step. -/
theorem Rooted.nodup_of_isBelow (rooted : Rooted parent) {nodes : List Node}
    (all : ∀ c p, parent c = some p → c ∈ nodes) {n : Nat} (going : isBelow parent n x a = none) :
    ∃ met : List Node, met.length = n ∧ met.Nodup ∧
      ∀ y ∈ met, y ∈ nodes ∧ (y = x ∨ Ancestor parent y x) := by
  induction n generalizing x with
  | zero => exact ⟨[], rfl, List.nodup_nil, List.forall_mem_nil _⟩
  | succ n ih =>
      cases edge : parent x with
      | none =>
          rw [isBelow_root n edge] at going
          cases going
      | some p =>
          rw [isBelow_child n edge] at going
          split_ifs at going
          obtain ⟨met, length, distinct, inside⟩ := ih going
          have higher : ∀ y ∈ met, Ancestor parent y x := by
            intro y member
            rcases (inside y member).2 with rfl | above
            · exact ancestor_of_parent edge
            · exact above.below edge
          refine ⟨x :: met, by rw [List.length_cons, length], ?_, ?_⟩
          · exact List.nodup_cons.mpr ⟨fun back => rooted.irrefl x (higher x back), distinct⟩
          · intro y member
            rcases List.mem_cons.mp member with rfl | member
            · exact ⟨all y p edge, .inl rfl⟩
            · exact ⟨(inside y member).1, .inr (higher y member)⟩

/-- One step for each node of a finite forest and one more are enough. -/
theorem Rooted.isBelow_enough (rooted : Rooted parent) {nodes : List Node}
    (all : ∀ c p, parent c = some p → c ∈ nodes) (x a : Node) :
    ∃ answer, isBelow parent (nodes.length + 1) x a = some answer := by
  apply Option.ne_none_iff_exists'.mp
  intro going
  obtain ⟨met, length, distinct, inside⟩ := rooted.nodup_of_isBelow all going
  have short := (List.subperm_of_subset distinct fun y member => (inside y member).1).length_le
  omega

end Walk

section Subtree

variable [DecidableEq Node] (parent : Node → Option Node)

/-- The nodes of a list that are among the top nodes or below one of them, one generation
after the other. -/
def subtree : Nat → List Node → List Node → List Node
  | 0, _, top => top
  | n + 1, rest, top =>
      let children := rest.filter fun c => (parent c).any (· ∈ top)
      if children = [] then top
      else top ++ subtree n (rest.filter fun c => !(parent c).any (· ∈ top)) children

variable {parent}

theorem mem_subtree_of_top {n : Nat} {rest top : List Node} {x : Node} (member : x ∈ top) :
    x ∈ subtree parent n rest top := by
  cases n with
  | zero => exact member
  | succ n =>
      rw [subtree]
      split_ifs
      · exact member
      · exact List.mem_append_left _ member

/-- With enough generations a child of a node of the subtree is in the subtree. -/
theorem mem_subtree_of_parent {n : Nat} {rest top : List Node} {p c : Node}
    (enough : rest.length ≤ n) (inside : c ∈ rest) (edge : parent c = some p)
    (upper : p ∈ subtree parent n rest top) : c ∈ subtree parent n rest top := by
  induction n generalizing rest top with
  | zero =>
      obtain rfl := List.eq_nil_of_length_eq_zero (Nat.le_zero.mp enough)
      exact absurd inside List.not_mem_nil
  | succ n ih =>
      rw [subtree] at upper ⊢
      by_cases child : p ∈ top
      · have hit : c ∈ rest.filter fun c => (parent c).any (· ∈ top) := by
          simp [inside, edge, child]
        rw [if_neg (List.ne_nil_of_mem hit)]
        exact List.mem_append_right _ (mem_subtree_of_top hit)
      · by_cases last : (rest.filter fun c => (parent c).any (· ∈ top)) = []
        · rw [if_pos last] at upper
          exact absurd upper child
        · rw [if_neg last] at upper ⊢
          have later := (List.mem_append.mp upper).resolve_left child
          apply List.mem_append_right
          refine ih ?_ ?_ later
          · obtain ⟨x, hit⟩ := List.exists_mem_of_ne_nil _ last
            have shorter := List.length_filter_lt_length_iff_exists
              (p := fun c => !(parent c).any (· ∈ top)) (l := rest) |>.mpr
              ⟨x, List.mem_of_mem_filter hit, by simpa using (List.mem_filter.mp hit).2⟩
            omega
          · simp [inside, edge, child]

end Subtree

section Descent

variable {parent : Node → Option Node}

/-- In a finite forest going down comes to an end, too. -/
theorem Rooted.descent (rooted : Rooted parent) (nodes : List Node)
    (all : ∀ c p, parent c = some p → c ∈ nodes) :
    WellFounded fun c p => parent c = some p := by
  let below : {x // x ∈ nodes} → {x // x ∈ nodes} → Prop := fun c p => Ancestor parent p.1 c.1
  have transitive : IsTrans _ below := ⟨fun _ _ _ lower upper => upper.trans lower⟩
  have irreflexive : Std.Irrefl below := ⟨fun x => rooted.irrefl x.1⟩
  have finite : Finite {x // x ∈ nodes} := (List.finite_toSet nodes).to_subtype
  have ends : WellFounded below := Finite.wellFounded_of_trans_of_irrefl below
  have listed : ∀ x : {x // x ∈ nodes}, Acc (fun c p => parent c = some p) x.1 := by
    intro x
    induction x using ends.induction with
    | _ x ih =>
        constructor
        intro c edge
        exact ih ⟨c, all c x edge⟩ (ancestor_of_parent edge)
  constructor
  intro p
  constructor
  intro c edge
  exact listed ⟨c, all c p edge⟩

end Descent

end Forest
