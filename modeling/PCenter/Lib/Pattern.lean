import Mathlib.Computability.RegularExpressions

/-!
# Character classes in regular expressions

Expressions between the anchors `^` and `$` match a text as a whole. A class is the sum of its
characters, and one or more of a class match the nonempty texts over it.
-/

namespace Pattern

open RegularExpression

variable {A : Type*} [DecidableEq A] {cs s : List A}

def oneOf (cs : List A) : RegularExpression A := cs.foldr (fun c r => char c + r) 0

def plus (r : RegularExpression A) : RegularExpression A := r * star r

theorem oneOf_rmatch_iff : (oneOf cs).rmatch s = true ↔ ∃ c ∈ cs, s = [c] := by
  induction cs with
  | nil => simp [oneOf]
  | cons c cs ih =>
      have first : oneOf (c :: cs) = char c + oneOf cs := rfl
      rw [first, add_rmatch_iff, char_rmatch_iff, ih]
      constructor
      · rintro (here | ⟨d, inside, there⟩)
        · exact ⟨c, List.mem_cons_self, here⟩
        · exact ⟨d, List.mem_cons_of_mem c inside, there⟩
      · rintro ⟨d, inside, there⟩
        rcases List.mem_cons.mp inside with rfl | inside
        · exact .inl there
        · exact .inr ⟨d, inside, there⟩

theorem star_oneOf_rmatch_iff : (star (oneOf cs)).rmatch s = true ↔ ∀ c ∈ s, c ∈ cs := by
  rw [star_rmatch_iff]
  constructor
  · rintro ⟨parts, rfl, single⟩ c inside
    obtain ⟨part, listed, member⟩ := List.mem_flatten.mp inside
    obtain ⟨d, allowed, rfl⟩ := oneOf_rmatch_iff.mp (single part listed).2
    rwa [List.mem_singleton.mp member]
  · intro allowed
    have whole : (s.map ([·])).flatten = s := by
      rw [← List.flatMap_def]
      exact List.flatMap_singleton' s
    refine ⟨s.map ([·]), whole.symm, fun part listed => ?_⟩
    obtain ⟨c, inside, rfl⟩ := List.mem_map.mp listed
    exact ⟨List.cons_ne_nil c [], oneOf_rmatch_iff.mpr ⟨c, allowed c inside, rfl⟩⟩

theorem plus_oneOf_rmatch_iff :
    (plus (oneOf cs)).rmatch s = true ↔ s ≠ [] ∧ ∀ c ∈ s, c ∈ cs := by
  rw [plus, mul_rmatch_iff]
  constructor
  · rintro ⟨t, u, rfl, first, rest⟩
    obtain ⟨c, allowed, rfl⟩ := oneOf_rmatch_iff.mp first
    have later := star_oneOf_rmatch_iff.mp rest
    refine ⟨by simp, fun d inside => ?_⟩
    rcases List.mem_cons.mp inside with rfl | inside
    · exact allowed
    · exact later d inside
  · rintro ⟨nonempty, allowed⟩
    obtain ⟨c, rest, rfl⟩ := List.exists_cons_of_ne_nil nonempty
    refine ⟨[c], rest, rfl, oneOf_rmatch_iff.mpr ⟨c, allowed c List.mem_cons_self, rfl⟩, ?_⟩
    exact star_oneOf_rmatch_iff.mpr fun d inside => allowed d (List.mem_cons_of_mem c inside)

end Pattern
