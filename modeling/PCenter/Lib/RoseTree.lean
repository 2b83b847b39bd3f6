import Mathlib.Data.List.Basic

/-!
# Rose trees

Trees with any number of children. A node is found under its address, the list of the positions
among siblings on the way down to it; in depth-first order the addresses increase, a node before
what is below it. A walk hands down an attribute that every node may change for its children:
`visits_eq` says which one each node is given.
-/

inductive RoseTree (A : Type*) where
  | node (label : A) (children : List (RoseTree A))

namespace RoseTree

variable {A B : Type*}

theorem induct {P : RoseTree A → Prop}
    (node : ∀ a ts, (∀ t ∈ ts, P t) → P (.node a ts)) : ∀ t, P t
  | .node a ts => node a ts fun t _ => induct node t

section Addresses

/-- The node at an address, behind its ancestors with the nearest one first. -/
def lineageFrom (above : List A) : RoseTree A → List ℕ → Option (List A × A)
  | .node a _, [] => some (above, a)
  | .node a ts, i :: rest =>
      match ts[i]? with
      | some t => lineageFrom (a :: above) t rest
      | none => none

def lineage (t : RoseTree A) (p : List ℕ) : Option (List A × A) := lineageFrom [] t p

mutual

/-- The addresses in depth-first order. -/
def addresses : RoseTree A → List (List ℕ)
  | .node _ ts => [] :: addressesFrom 0 ts

def addressesFrom (i : ℕ) : List (RoseTree A) → List (List ℕ)
  | [] => []
  | t :: ts => (addresses t).map (i :: ·) ++ addressesFrom (i + 1) ts

end

theorem mem_addressesFrom_iff {p : List ℕ} (ts : List (RoseTree A)) : ∀ i,
    p ∈ addressesFrom i ts ↔
      ∃ j t rest, ts[j]? = some t ∧ rest ∈ addresses t ∧ p = (i + j) :: rest := by
  induction ts with
  | nil => simp [addressesFrom]
  | cons t ts ih =>
      intro i
      rw [addressesFrom, List.mem_append, List.mem_map, ih]
      constructor
      · rintro (⟨rest, inside, rfl⟩ | ⟨j, t', rest, found, inside, rfl⟩)
        · exact ⟨0, t, rest, rfl, inside, rfl⟩
        · exact ⟨j + 1, t', rest, found, inside, by rw [Nat.add_right_comm, Nat.add_assoc]⟩
      · rintro ⟨j, t', rest, found, inside, rfl⟩
        cases j with
        | zero =>
            obtain rfl := Option.some.inj found
            exact .inl ⟨rest, inside, rfl⟩
        | succ j =>
            exact .inr ⟨j, t', rest, found, inside, by rw [Nat.add_right_comm, Nat.add_assoc]⟩

/-- Every node has its address. -/
theorem mem_addresses_iff (t : RoseTree A) : ∀ (above : List A) (p : List ℕ),
    p ∈ addresses t ↔ ∃ found, lineageFrom above t p = some found := by
  induction t using induct with
  | node a ts ih =>
      intro above p
      rw [addresses, List.mem_cons, mem_addressesFrom_iff]
      cases p with
      | nil => exact ⟨fun _ => ⟨(above, a), rfl⟩, fun _ => .inl rfl⟩
      | cons i rest =>
          rw [lineageFrom]
          cases child : ts[i]? with
          | none =>
              refine iff_of_false ?_ (by simp)
              rintro (impossible | ⟨j, t, rest', found, -, same⟩)
              · cases impossible
              · obtain ⟨rfl, -⟩ := List.cons.inj same
                rw [Nat.zero_add, found] at child
                cases child
          | some t =>
              rw [← ih t (List.mem_of_getElem? child) (a :: above) rest]
              constructor
              · rintro (impossible | ⟨j, t', rest', found, inside, same⟩)
                · cases impossible
                · obtain ⟨rfl, rfl⟩ := List.cons.inj same
                  rw [Nat.zero_add, found] at child
                  exact Option.some.inj child ▸ inside
              · intro inside
                exact .inr ⟨i, t, rest, child, inside, by rw [Nat.zero_add]⟩

theorem sorted_addressesFrom (ts : List (RoseTree A))
    (sorted : ∀ t ∈ ts, (addresses t).Pairwise (· < ·)) :
    ∀ i, (addressesFrom i ts).Pairwise (· < ·) := by
  induction ts with
  | nil => exact fun i => List.Pairwise.nil
  | cons t ts ih =>
      intro i
      rw [addressesFrom, List.pairwise_append]
      refine ⟨?_, ih (fun t' inside => sorted t' (List.mem_cons_of_mem t inside)) (i + 1), ?_⟩
      · refine List.Pairwise.map _ (fun p q less => ?_) (sorted t List.mem_cons_self)
        exact List.cons_lt_cons_iff.mpr (.inr ⟨rfl, less⟩)
      · intro p first q second
        obtain ⟨rest, -, rfl⟩ := List.mem_map.mp first
        obtain ⟨j, -, rest', -, -, rfl⟩ := (mem_addressesFrom_iff ts (i + 1)).mp second
        exact List.cons_lt_cons_iff.mpr (.inl (by omega))

/-- A node comes before what is below it, and before what is below a later sibling. -/
theorem sorted_addresses (t : RoseTree A) : (addresses t).Pairwise (· < ·) := by
  induction t using induct with
  | node a ts ih =>
      rw [addresses, List.pairwise_cons]
      refine ⟨fun p inside => ?_, sorted_addressesFrom ts ih 0⟩
      obtain ⟨j, -, rest, -, -, rfl⟩ := (mem_addressesFrom_iff ts 0).mp inside
      exact List.nil_lt_cons _ _

end Addresses

section Walks

variable (down : B → A → B)

mutual

/-- A depth-first walk with what each node is given. -/
def visits (b : B) : RoseTree A → List (B × A)
  | .node a ts => (b, a) :: visitsAll (down b a) ts

def visitsAll (b : B) : List (RoseTree A) → List (B × A)
  | [] => []
  | t :: ts => visits b t ++ visitsAll b ts

end

/-- What the ancestors of a node have handed down to it. -/
def handed (b : B) (above : List A) : B := above.foldr (fun a given => down given a) b

theorem visitsAll_eq (b : B) (above : List A) (a : A) (all : List (RoseTree A)) :
    ∀ (before ts : List (RoseTree A)), all = before ++ ts →
    (∀ t ∈ ts, visits down (handed down b (a :: above)) t =
      (addresses t).filterMap fun p => (lineageFrom (a :: above) t p).map fun found =>
        (handed down b found.1, found.2)) →
    visitsAll down (handed down b (a :: above)) ts =
      (addressesFrom before.length ts).filterMap fun p =>
        (lineageFrom above (.node a all) p).map fun found =>
          (handed down b found.1, found.2) := by
  intro before ts
  induction ts generalizing before with
  | nil => intro split each; rfl
  | cons t ts ih =>
      intro split each
      have child : all[before.length]? = some t := by simp [split]
      have rest := ih (before ++ [t]) (by simp [split])
        fun t' inside => each t' (List.mem_cons_of_mem t inside)
      rw [List.length_append, List.length_singleton] at rest
      rw [visitsAll, addressesFrom, List.filterMap_append, List.filterMap_map, rest,
        each t List.mem_cons_self]
      congr 1
      refine List.filterMap_congr fun p _ => ?_
      rw [Function.comp_apply, lineageFrom, child]

/-- Every node is visited once, in the order of the addresses. -/
theorem visits_eq (t : RoseTree A) : ∀ (b : B) (above : List A),
    visits down (handed down b above) t =
      (addresses t).filterMap fun p =>
        (lineageFrom above t p).map fun found => (handed down b found.1, found.2) := by
  induction t using induct with
  | node a ts ih =>
      intro b above
      have below := visitsAll_eq down b above a ts [] ts rfl fun t inside =>
        ih t inside b (a :: above)
      rw [visits, addresses, List.filterMap_cons]
      simp only [lineageFrom, Option.map_some]
      exact congrArg _ below

end Walks

end RoseTree
