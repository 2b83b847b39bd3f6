import PCenter.Lib.FiniteMap

/-!
# The order of an iteration

A loop over a map meets the entries in some order, which may be another one the next time.
An `Order` puts any list into an order, and a program that loops over a map twice takes two
of them. `Order.first` lets what passes a test come first.
-/

namespace FiniteMap

universe u v

structure Order (A : Type u) where
  arrange : List A → List A
  perm : ∀ l, (arrange l).Perm l

variable {A : Type u} {K : Type u} {V : Type v}

namespace Order

/-- The order in which a list is given. -/
def asGiven : Order A := ⟨fun l => l, fun l => .refl l⟩

def first (test : A → Bool) : Order A :=
  ⟨fun l => l.filter test ++ l.filter (!test ·), fun l => List.filter_append_perm test l⟩

theorem mem_arrange {o : Order A} {l : List A} {a : A} : a ∈ o.arrange l ↔ a ∈ l :=
  (o.perm l).mem_iff

/-- What passes a test is met before what does not. -/
theorem sublist_first {test : A → Bool} {l : List A} {a b : A} (inside : a ∈ l) (inside' : b ∈ l)
    (passes : test a = true) (fails : test b = false) :
    [a, b].Sublist ((first test).arrange l) := by
  have front : [a].Sublist (l.filter test) :=
    List.singleton_sublist.mpr (List.mem_filter.mpr ⟨inside, passes⟩)
  have back : [b].Sublist (l.filter (!test ·)) := by
    apply List.singleton_sublist.mpr
    exact List.mem_filter.mpr ⟨inside', by simp [fails]⟩
  exact front.append back

/-- A loop can be made to find any element that it looks for. -/
theorem find_first [DecidableEq A] {l : List A} {a : A} {wanted : A → Bool} (inside : a ∈ l)
    (passes : wanted a = true) :
    ((first fun b => decide (b = a)).arrange l).find? wanted = some a := by
  have front : a ∈ l.filter fun b => decide (b = a) :=
    List.mem_filter.mpr ⟨inside, decide_eq_true rfl⟩
  obtain ⟨b, found⟩ := Option.isSome_iff_exists.mp (List.find?_isSome.mpr ⟨a, front, passes⟩)
  have same := (List.mem_filter.mp (List.mem_of_find?_eq_some found)).2
  rw [first, List.find?_append, found, of_decide_eq_true same]
  rfl

end Order

/-- The map as a loop meets it. -/
def arranged (o : Order (Sigma fun _ : K => V)) (m : Map K V) : Map K V :=
  ⟨o.arrange m.entries, (List.perm_nodupKeys (o.perm m.entries)).mpr m.nodupKeys⟩

theorem values_arranged_perm (o : Order (Sigma fun _ : K => V)) (m : Map K V) :
    (values (arranged o m)).Perm (values m) :=
  (o.perm m.entries).map _

end FiniteMap
