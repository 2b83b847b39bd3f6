import Mathlib.Data.List.Basic

/-!
# Runs of a deterministic system

A system takes one step for each event. `states` lists what a run passes through, and a
condition holds `Along` a run when it holds of every state together with the event that
leaves it.
-/

namespace Transition

variable {S E V : Type*} (step : S → E → S)

/-- The states of a run, from the first to the last. -/
def states : S → List E → List S
  | s, [] => [s]
  | s, e :: es => s :: states (step s e) es

/-- Every event of the run meets the condition in the state it finds. -/
def Along (P : S → E → Prop) : S → List E → Prop
  | _, [] => True
  | s, e :: es => P s e ∧ Along P (step s e) es

instance decidableAlong {P : S → E → Prop} [∀ s e, Decidable (P s e)] :
    (s : S) → (es : List E) → Decidable (Along step P s es)
  | _, [] => isTrue trivial
  | s, e :: es => @instDecidableAnd _ _ _ (decidableAlong (step s e) es)

/-- The states some run reaches from an initial one. -/
inductive Reachable (initial : S → Prop) : S → Prop where
  | init (s : S) : initial s → Reachable initial s
  | step (s : S) (e : E) : Reachable initial s → Reachable initial (step s e)

variable {step}

theorem Reachable.invariant {initial : S → Prop} {P : S → Prop}
    (start : ∀ s, initial s → P s) (kept : ∀ s e, P s → P (step s e)) {s : S}
    (reachable : Reachable step initial s) : P s := by
  induction reachable with
  | init s h => exact start s h
  | step s e _ ih => exact kept s e ih

theorem invariant_states {P : S → Prop} (kept : ∀ s e, P s → P (step s e))
    {s : S} {es : List E} (start : P s) : ∀ t ∈ states step s es, P t := by
  induction es generalizing s with
  | nil =>
      intro t member
      obtain rfl : t = s := by simpa [states] using member
      exact start
  | cons e es ih =>
      intro t member
      rcases List.mem_cons.mp member with rfl | later
      · exact start
      · exact ih (kept s e start) t later

theorem self_mem_states (s : S) (es : List E) : s ∈ states step s es := by
  cases es <;> simp [states]

theorem last_mem_states (s : S) (es : List E) : es.foldl step s ∈ states step s es := by
  induction es generalizing s with
  | nil => exact List.mem_singleton_self s
  | cons e es ih => exact List.mem_cons_of_mem s (ih (step s e))

theorem invariant_foldl {P : S → Prop} (kept : ∀ s e, P s → P (step s e)) {s : S} (start : P s)
    (es : List E) : P (es.foldl step s) :=
  invariant_states kept start _ (last_mem_states s es)

variable (step) in
/-- A view of the state never changes in a run iff no step changes it. -/
theorem constant_iff_along (view : S → V) (s : S) (es : List E) :
    (∀ t ∈ states step s es, view t = view s) ↔
      Along step (fun s e => view (step s e) = view s) s es := by
  induction es generalizing s with
  | nil => simp [states, Along]
  | cons e es ih =>
      constructor
      · intro constant
        have first : view (step s e) = view s :=
          constant _ (List.mem_cons_of_mem _ (self_mem_states _ es))
        refine ⟨first, (ih (step s e)).mp ?_⟩
        intro t member
        rw [first]
        exact constant t (List.mem_cons_of_mem _ member)
      · rintro ⟨first, later⟩ t member
        rcases List.mem_cons.mp member with rfl | inner
        · rfl
        · rw [← first]
          exact (ih (step s e)).mpr later t inner

theorem along_congr {P Q : S → E → Prop} (same : ∀ s e, P s e ↔ Q s e) (s : S)
    (es : List E) : Along step P s es ↔ Along step Q s es := by
  induction es generalizing s with
  | nil => exact Iff.rfl
  | cons e es ih => exact and_congr (same s e) (ih (step s e))

/-- Conditions that agree under an invariant. -/
theorem along_congr_of_invariant {P Q : S → E → Prop} {inv : S → Prop}
    (kept : ∀ s e, inv s → inv (step s e)) (same : ∀ s e, inv s → (P s e ↔ Q s e)) {s : S}
    (start : inv s) (es : List E) : Along step P s es ↔ Along step Q s es := by
  induction es generalizing s with
  | nil => exact Iff.rfl
  | cons e es ih => exact and_congr (same s e start) (ih (kept s e start))

/-- Conditions that agree under an invariant which one of them keeps. -/
theorem along_congr_of_kept {P Q : S → E → Prop} {inv : S → Prop}
    (kept : ∀ s e, inv s → Q s e → inv (step s e)) (same : ∀ s e, inv s → (P s e ↔ Q s e)) {s : S}
    (start : inv s) (es : List E) : Along step P s es ↔ Along step Q s es := by
  induction es generalizing s with
  | nil => exact Iff.rfl
  | cons e es ih =>
      apply (and_congr_left' (same s e start)).trans
      apply and_congr_right
      intro met
      exact ih (kept s e start met)

/-- Conditions that agree under an invariant of the runs that keep to a rule. -/
theorem along_congr_along {P Q R : S → E → Prop} {inv : S → Prop}
    (kept : ∀ s e, inv s → R s e → inv (step s e)) (same : ∀ s e, inv s → (P s e ↔ Q s e)) {s : S}
    (start : inv s) {es : List E} (rule : Along step R s es) :
    Along step P s es ↔ Along step Q s es := by
  induction es generalizing s with
  | nil => exact Iff.rfl
  | cons e es ih => exact and_congr (same s e start) (ih (kept s e start rule.1) rule.2)

theorem along_append {P : S → E → Prop} (s : S) (first later : List E) :
    Along step P s (first ++ later) ↔
      Along step P s first ∧ Along step P (first.foldl step s) later := by
  induction first generalizing s with
  | nil => simp [Along]
  | cons e es ih => simp [Along, ih, and_assoc]

theorem along_iff_forall_split {P : S → E → Prop} {s : S} {es : List E} :
    Along step P s es ↔
      ∀ before e after, es = before ++ e :: after → P (before.foldl step s) e := by
  constructor
  · rintro along before e after rfl
    exact ((along_append s before (e :: after)).mp along).2.1
  · intro all
    induction es generalizing s with
    | nil => trivial
    | cons e es ih =>
        refine ⟨all [] e es rfl, ih fun before e' after split => ?_⟩
        exact all (e :: before) e' after (by rw [split, List.cons_append])

/-- Where a condition is exactly when an event keeps the invariant, it holds along a run iff the
invariant does. -/
theorem invariant_iff_along {P : S → E → Prop} {inv : S → Prop} {s : S} {es : List E}
    (decides : ∀ s, ∀ e ∈ es, inv s → (inv (step s e) ↔ P s e)) (start : inv s) :
    (∀ t ∈ states step s es, inv t) ↔ Along step P s es := by
  induction es generalizing s with
  | nil => simp [states, Along, start]
  | cons e es ih =>
      have later : ∀ s, ∀ e ∈ es, inv s → (inv (step s e) ↔ P s e) :=
        fun s e member => decides s e (List.mem_cons_of_mem _ member)
      have here := decides s e List.mem_cons_self start
      constructor
      · intro all
        have next : inv (step s e) :=
          all _ (List.mem_cons_of_mem _ (self_mem_states _ es))
        exact ⟨here.mp next, (ih later next).mp fun t member =>
          all t (List.mem_cons_of_mem _ member)⟩
      · rintro ⟨first, others⟩ t member
        rcases List.mem_cons.mp member with rfl | inner
        · exact start
        · exact (ih later (here.mpr first)).mpr others t inner

/-- The same, where what decides it rests on something that the run keeps anyway. -/
theorem invariant_iff_along_within {P : S → E → Prop} {within inv : S → Prop} {s : S} {es : List E}
    (kept : ∀ s, ∀ e ∈ es, within s → within (step s e))
    (decides : ∀ s, ∀ e ∈ es, within s → inv s → (inv (step s e) ↔ P s e)) (inside : within s)
    (start : inv s) : (∀ t ∈ states step s es, inv t) ↔ Along step P s es := by
  induction es generalizing s with
  | nil => simp [states, Along, start]
  | cons e es ih =>
      have here := decides s e List.mem_cons_self inside start
      have next := kept s e List.mem_cons_self inside
      have later := ih (fun s e member => kept s e (List.mem_cons_of_mem _ member))
        (fun s e member => decides s e (List.mem_cons_of_mem _ member)) next
      constructor
      · intro all
        have first : inv (step s e) :=
          all _ (List.mem_cons_of_mem _ (self_mem_states _ es))
        exact ⟨here.mp first, (later first).mp fun t member =>
          all t (List.mem_cons_of_mem _ member)⟩
      · rintro ⟨first, others⟩ t member
        rcases List.mem_cons.mp member with rfl | inner
        · exact start
        · exact (later (here.mpr first)).mpr others t inner

/-- What no event mends holds all along a run at whose end it holds. -/
theorem states_of_last {within inv : S → Prop} {s : S} {es : List E}
    (kept : ∀ s, ∀ e ∈ es, within s → within (step s e))
    (broken : ∀ s, ∀ e ∈ es, within s → inv (step s e) → inv s) (inside : within s)
    (last : inv (es.foldl step s)) : ∀ t ∈ states step s es, inv t := by
  induction es generalizing s with
  | nil =>
      intro t member
      obtain rfl : t = s := by simpa [states] using member
      exact last
  | cons e es ih =>
      have later := ih (fun s e member => kept s e (List.mem_cons_of_mem _ member))
        (fun s e member => broken s e (List.mem_cons_of_mem _ member))
        (kept s e List.mem_cons_self inside) last
      intro t member
      rcases List.mem_cons.mp member with rfl | inner
      · exact broken _ e List.mem_cons_self inside (later _ (self_mem_states _ es))
      · exact later t inner

/-- Whether it holds at the end is then decided step by step. -/
theorem last_iff_along {P : S → E → Prop} {within inv : S → Prop} {s : S} {es : List E}
    (kept : ∀ s, ∀ e ∈ es, within s → within (step s e))
    (broken : ∀ s, ∀ e ∈ es, within s → inv (step s e) → inv s)
    (decides : ∀ s, ∀ e ∈ es, within s → inv s → (inv (step s e) ↔ P s e)) (inside : within s)
    (start : inv s) : inv (es.foldl step s) ↔ Along step P s es := by
  rw [← invariant_iff_along_within kept decides inside start]
  constructor
  · exact states_of_last kept broken inside
  · intro all
    exact all _ (last_mem_states s es)

/-- What every event of a run preserves under its condition holds all along the run. -/
theorem invariant_along {P : S → E → Prop} {inv : S → Prop}
    (kept : ∀ s e, inv s → P s e → inv (step s e)) {s : S} {es : List E} (start : inv s)
    (along : Along step P s es) : ∀ t ∈ states step s es, inv t := by
  induction es generalizing s with
  | nil =>
      intro t member
      obtain rfl : t = s := by simpa [states] using member
      exact start
  | cons e es ih =>
      intro t member
      rcases List.mem_cons.mp member with rfl | later
      · exact start
      · exact ih (kept s e start along.1) along.2 t later

/-- A run that stays in a set makes only steps within the set. -/
theorem along_of_states {P : S → Prop} {s : S} {es : List E}
    (all : ∀ t ∈ states step s es, P t) : Along step (fun s e => P s ∧ P (step s e)) s es := by
  induction es generalizing s with
  | nil => trivial
  | cons e es ih =>
      have later : ∀ t ∈ states step (step s e) es, P t :=
        fun t member => all t (List.mem_cons_of_mem _ member)
      exact ⟨⟨all s List.mem_cons_self, later _ (self_mem_states _ es)⟩, ih later⟩

theorem along_mono {P Q : S → E → Prop} (imp : ∀ s e, P s e → Q s e) {s : S} {es : List E}
    (along : Along step P s es) : Along step Q s es := by
  induction es generalizing s with
  | nil => trivial
  | cons e es ih => exact ⟨imp s e along.1, ih along.2⟩

theorem along_and {P Q : S → E → Prop} {s : S} {es : List E} :
    Along step (fun s e => P s e ∧ Q s e) s es ↔ Along step P s es ∧ Along step Q s es := by
  induction es generalizing s with
  | nil => simp [Along]
  | cons e es ih =>
      simp only [Along, ih]
      tauto

section Last

/-- What is there at the end of a run: something put it there and nothing took it since, or it was
there from the beginning. -/
theorem holds_iff_last {puts takes : S → E → Prop} {within has : S → Prop}
    (kept : ∀ s e, within s → within (step s e))
    (turn : ∀ s e, within s → (has (step s e) ↔ puts s e ∨ has s ∧ ¬takes s e)) {s : S}
    (inside : within s) (es : List E) :
    has (es.foldl step s) ↔
      (∃ before e after, es = before ++ e :: after ∧ puts (before.foldl step s) e ∧
        Along step (fun t e => ¬takes t e) (step (before.foldl step s) e) after) ∨
      has s ∧ Along step (fun t e => ¬takes t e) s es := by
  induction es generalizing s with
  | nil => simp [Along]
  | cons e es ih =>
      rw [List.foldl_cons, ih (kept s e inside), turn s e inside]
      constructor
      · rintro (⟨before, e', after, rfl, put, left⟩ | ⟨put | ⟨there, stays⟩, left⟩)
        · exact .inl ⟨e :: before, e', after, rfl, put, left⟩
        · exact .inl ⟨[], e, es, rfl, put, left⟩
        · exact .inr ⟨there, stays, left⟩
      · rintro (⟨_ | ⟨first, before⟩, e', after, split, put, left⟩ | ⟨there, stays, left⟩)
        · obtain ⟨rfl, rfl⟩ := List.cons.inj split
          exact .inr ⟨.inl put, left⟩
        · obtain ⟨rfl, rfl⟩ := List.cons.inj split
          exact .inl ⟨before, e', after, rfl, put, left⟩
        · exact .inr ⟨.inr ⟨there, stays⟩, left⟩

end Last

section Moments

variable (step) (inner : S → E → List S)

/-- What a run passes through when a step is not taken at once. -/
def moments : S → List E → List S
  | s, [] => [s]
  | s, e :: es => s :: inner s e ++ moments (step s e) es

variable {step} {inner}

theorem forall_moments_iff {P : S → Prop} {s : S} {es : List E} :
    (∀ t ∈ moments step inner s es, P t) ↔
      P s ∧ Along step (fun s e => (∀ t ∈ inner s e, P t) ∧ P (step s e)) s es := by
  induction es generalizing s with
  | nil => simp [moments, Along]
  | cons e es ih =>
      simp only [moments, List.mem_cons, List.cons_append, List.mem_append, or_imp, forall_and,
        forall_eq, ih, Along, and_assoc]

end Moments

end Transition
