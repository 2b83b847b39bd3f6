import Mathlib.Data.List.Forall2

/-!
# Lists that are gone through with a function that may fail or keeps a state

`List.mapM` in `Option` and in `Except` succeeds iff the function does on every element, and
the results stand in the order of the elements. `List.Forall₂` says both at once. `emit` hands
a state on from element to element; what a property of its results does not owe to the state is
said of each element alone.
-/

namespace Traverse

variable {A A' B E : Type*} {l : List A} {bs : List B}

theorem mapM_eq_some_iff {g : A → Option B} :
    l.mapM g = some bs ↔ List.Forall₂ (fun a b => g a = some b) l bs := by
  induction l generalizing bs with
  | nil =>
      rw [List.forall₂_nil_left_iff, List.mapM_nil]
      exact Option.some_inj.trans eq_comm
  | cons a l ih =>
      rw [List.forall₂_cons_left_iff, List.mapM_cons]
      constructor
      · intro mapped
        obtain ⟨b, here, rest⟩ := Option.bind_eq_some_iff.mp mapped
        obtain ⟨cs, later, same⟩ := Option.bind_eq_some_iff.mp rest
        exact ⟨b, cs, here, ih.mp later, (Option.some.inj same).symm⟩
      · rintro ⟨b, cs, here, later, rfl⟩
        rw [here, ih.mpr later]
        rfl

theorem mapM_eq_ok_iff {g : A → Except E B} :
    l.mapM g = .ok bs ↔ List.Forall₂ (fun a b => g a = .ok b) l bs := by
  induction l generalizing bs with
  | nil =>
      rw [List.forall₂_nil_left_iff, List.mapM_nil]
      exact ⟨fun same => (Except.ok.inj same).symm, fun same => same ▸ rfl⟩
  | cons a l ih =>
      rw [List.forall₂_cons_left_iff, List.mapM_cons]
      constructor
      · intro mapped
        cases here : g a with
        | error err =>
            rw [here] at mapped
            exact nomatch mapped
        | ok b =>
            cases later : l.mapM g with
            | error err =>
                rw [here, later] at mapped
                exact nomatch mapped
            | ok cs =>
                rw [here, later] at mapped
                exact ⟨b, cs, rfl, ih.mp later, (Except.ok.inj mapped).symm⟩
      · rintro ⟨b, cs, here, later, rfl⟩
        rw [here, ih.mpr later]
        rfl

/-- Encoded elements that are all read are read in their order. -/
theorem mapM_map_ok {C : Type*} {read : A → Except E B} {g : C → A} {h : C → B} {cs : List C}
    (each : ∀ c ∈ cs, read (g c) = .ok (h c)) : (cs.map g).mapM read = .ok (cs.map h) := by
  refine mapM_eq_ok_iff.mpr ?_
  rw [List.forall₂_map_left_iff, List.forall₂_map_right_iff]
  exact List.forall₂_same.mpr each

section Related

variable {R : A → B → Prop}

/-- If every element has a partner, then so has the list. -/
theorem exists_forall₂ (each : ∀ a ∈ l, ∃ b, R a b) : ∃ bs, List.Forall₂ R l bs := by
  induction l with
  | nil => exact ⟨[], .nil⟩
  | cons a l ih =>
      obtain ⟨b, here⟩ := each a List.mem_cons_self
      obtain ⟨bs, later⟩ := ih fun c member => each c (List.mem_cons_of_mem a member)
      exact ⟨b :: bs, .cons here later⟩

theorem partner_of_mem (all : List.Forall₂ R l bs) : ∀ a ∈ l, ∃ b ∈ bs, R a b := by
  induction all with
  | nil => exact List.forall_mem_nil _
  | cons here _ ih =>
      intro c member
      rcases List.mem_cons.mp member with rfl | later
      · exact ⟨_, List.mem_cons_self, here⟩
      · obtain ⟨d, inside, related⟩ := ih c later
        exact ⟨d, List.mem_cons_of_mem _ inside, related⟩

theorem source_of_mem (all : List.Forall₂ R l bs) : ∀ b ∈ bs, ∃ a ∈ l, R a b :=
  partner_of_mem all.flip

/-- Elements that are given by others may be related by what those are. -/
theorem forall₂_of_map {R' : A' → B → Prop} {l : List A'} {f : A' → A}
    (each : ∀ a ∈ l, ∀ b, R (f a) b → R' a b) (all : List.Forall₂ R (l.map f) bs) :
    List.Forall₂ R' l bs := by
  have pairs := (List.forall₂_and_left (p := (· ∈ l)) l bs).mpr
    ⟨fun _ member => member, List.forall₂_map_left_iff.mp all⟩
  exact pairs.imp fun a b ⟨member, related⟩ => each a member b related

end Related

section Emissions

variable {S C : Type*} {step : S → A → List B × S} {g : B → C}

/-- The results of all elements in their order, and the last state. -/
def emit (step : S → A → List B × S) : S → List A → List B × S
  | s, [] => ([], s)
  | s, a :: l => ((step s a).1 ++ (emit step (step s a).2 l).1, (emit step (step s a).2 l).2)

theorem emit_sublist {most : A → List C}
    (each : ∀ s, ∀ a ∈ l, ((step s a).1.map g).Sublist (most a)) (s : S) :
    ((emit step s l).1.map g).Sublist (l.flatMap most) := by
  induction l generalizing s with
  | nil => exact .slnil
  | cons a l ih =>
      rw [emit, List.map_append, List.flatMap_cons]
      apply List.Sublist.append
      · exact each s a List.mem_cons_self
      · exact ih (fun s b inside => each s b (List.mem_cons_of_mem a inside)) _

theorem sublist_emit {least : A → List C}
    (each : ∀ s, ∀ a ∈ l, (least a).Sublist ((step s a).1.map g)) (s : S) :
    (l.flatMap least).Sublist ((emit step s l).1.map g) := by
  induction l generalizing s with
  | nil => exact .slnil
  | cons a l ih =>
      rw [emit, List.map_append, List.flatMap_cons]
      apply List.Sublist.append
      · exact each s a List.mem_cons_self
      · exact ih (fun s b inside => each s b (List.mem_cons_of_mem a inside)) _

end Emissions

end Traverse
