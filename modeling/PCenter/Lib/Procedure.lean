import Mathlib.Logic.Relation

/-!
# Procedures with a state and failures

A procedure works on a state and answers or fails; what it did before it failed stays
done. `Yields x s a s'` says that `x`, begun in `s`, answers `a` and leaves `s'`: it is
taken apart along the procedure by the `iff` lemmas, and carried through a loop by
`yields_foldlM`. A procedure `Chains` a relation when it changes the state by its steps only,
whether it answers or fails.
-/

namespace Procedure

abbrev Proc (F S A : Type) := ExceptT F (StateM S) A

variable {F G S A B : Type}

def exec (x : Proc F S A) (s : S) : Except F A × S := Id.run (x.run.run s)

/-- One step on the state. -/
def act (step : S → Except F A × S) : Proc F S A := ExceptT.mk (fun s => step s)

/-- The step that always answers. -/
def update (step : S → A × S) : Proc F S A := act fun s => (.ok (step s).1, (step s).2)

/-- An answer that was found without the state. -/
def orThrow (value : Except F A) : Proc F S A := act fun s => (value, s)

/-- What the state shows. -/
def read (view : S → A) : Proc F S A := act fun s => (.ok (view s), s)

/-- A statement that changes the state as a whole or fails. -/
def commit (statement : S → Except F S) : Proc F S Unit := act fun s =>
  match statement s with
  | .ok s' => (.ok (), s')
  | .error failure => (.error failure, s)

/-- The same procedure for a caller that does not look at the answer. -/
def ignore (x : Proc F S A) : Proc G S Unit := act fun s => (.ok (), (exec x s).2)

/-- The same procedure with other words for its failures. -/
def rename (words : F → G) (x : Proc F S A) : Proc G S A :=
  act fun s => ((exec x s).1.mapError words, (exec x s).2)

def Yields (x : Proc F S A) (s : S) (a : A) (s' : S) : Prop := exec x s = (.ok a, s')

theorem map_eq_ok_iff {value : Except F A} {f : A → B} {b : B} :
    value.map f = .ok b ↔ ∃ a, value = .ok a ∧ f a = b := by
  cases value <;> simp [Except.map]

theorem bind_eq_ok_iff {value : Except F A} {next : A → Except F B} {b : B} :
    value >>= next = .ok b ↔ ∃ a, value = .ok a ∧ next a = .ok b := by
  cases value <;> simp [bind, Except.bind]

theorem error_iff_not_ok {value : Except F A} :
    (∃ err, value = .error err) ↔ ¬∃ a, value = .ok a := by
  cases value <;> simp

theorem yields_pure {a b : A} {s s' : S} :
    Yields (pure a : Proc F S A) s b s' ↔ a = b ∧ s = s' := by
  change ((Except.ok a, s) : Except F A × S) = (.ok b, s') ↔ _
  simp

theorem not_yields_throw {failure : F} {s s' : S} {a : A} :
    ¬Yields (throw failure : Proc F S A) s a s' := by
  change ¬((Except.error failure, s) : Except F A × S) = (.ok a, s')
  simp

theorem yields_update {step : S → A × S} {s s' : S} {a : A} :
    Yields (update step : Proc F S A) s a s' ↔ step s = (a, s') := by
  change ((Except.ok (step s).1, (step s).2) : Except F A × S) = (.ok a, s') ↔ _
  simp [Prod.ext_iff]

theorem yields_orThrow {value : Except F A} {s s' : S} {a : A} :
    Yields (orThrow value : Proc F S A) s a s' ↔ value = .ok a ∧ s = s' := by
  change (value, s) = (Except.ok a, s') ↔ _
  simp

theorem yields_rename {words : F → G} {x : Proc F S A} {s s' : S} {a : A} :
    Yields (rename words x) s a s' ↔ Yields x s a s' := by
  have ok : ∀ answer : Except F A, answer.mapError words = .ok a ↔ answer = .ok a := by
    intro answer
    cases answer with
    | error failure =>
        constructor
        · intro same
          cases same
        · intro same
          cases same
    | ok b => exact ⟨fun same => congrArg _ (Except.ok.inj same), fun same => congrArg _ same⟩
  change ((exec x s).1.mapError words, (exec x s).2) = (Except.ok a, s') ↔ _
  rw [Yields, Prod.ext_iff, Prod.ext_iff, ok]

theorem exec_bind {x : Proc F S A} {next : A → Proc F S B} {s : S} :
    exec (x >>= next) s =
      match exec x s with
      | (.ok a, t) => exec (next a) t
      | (.error failure, t) => (.error failure, t) := by
  simp only [exec, ExceptT.run_bind, StateT.run_bind, Id.run_bind]
  rcases Id.run (StateT.run (ExceptT.run x) s) with ⟨_ | a, t⟩ <;> rfl

theorem exec_read_bind {view : S → A} {next : A → Proc F S B} {s : S} :
    exec (read view >>= next) s = exec (next (view s)) s := rfl

theorem exec_ignore {x : Proc F S A} {s : S} :
    (exec (ignore x : Proc G S Unit) s).2 = (exec x s).2 := rfl

/-- What the first procedure leaves true and the second keeps is true at the end, also when
the first one fails. -/
theorem leaves_bind {P : S → Prop} {x : Proc F S A} {next : A → Proc F S B} {s : S}
    (first : P (exec x s).2)
    (later : ∀ a t, Yields x s a t → P t → P (exec (next a) t).2) :
    P (exec (x >>= next) s).2 := by
  rw [exec_bind]
  rcases ran : exec x s with ⟨failure | a, t⟩
  · rwa [ran] at first
  · rw [ran] at first
    exact later a t ran first

theorem leaves_orThrow_bind {P : S → Prop} {value : Except F A} {next : A → Proc F S B} {s : S}
    (start : P s) (later : ∀ a, value = .ok a → P (exec (next a) s).2) :
    P (exec (orThrow value >>= next) s).2 := by
  cases value with
  | error failure => exact start
  | ok a => exact later a rfl

theorem exec_commit_ok {statement : S → Except F S} {s s' : S} (done : statement s = .ok s') :
    exec (commit statement) s = (.ok (), s') := by
  change (match statement s with
    | .ok s' => (Except.ok (), s')
    | .error failure => (.error failure, s)) = _
  rw [done]

theorem exec_commit_error {statement : S → Except F S} {s : S} {failure : F}
    (failed : statement s = .error failure) : exec (commit statement) s = (.error failure, s) := by
  change (match statement s with
    | .ok s' => (Except.ok (), s')
    | .error failure => (.error failure, s)) = _
  rw [failed]

theorem leaves_commit {P : S → Prop} {statement : S → Except F S} {s : S} (start : P s)
    (done : ∀ s', statement s = .ok s' → P s') : P (exec (commit statement) s).2 := by
  cases outcome : statement s with
  | error failure => rwa [exec_commit_error outcome]
  | ok s' =>
      rw [exec_commit_ok outcome]
      exact done s' outcome

theorem yields_commit {statement : S → Except F S} {s s' : S} :
    Yields (commit statement) s () s' ↔ statement s = .ok s' := by
  rw [Yields]
  cases outcome : statement s with
  | error failure => simp [exec_commit_error outcome]
  | ok t => simp [exec_commit_ok outcome]

theorem exec_commit_bind_ok {statement : S → Except F S} {next : Unit → Proc F S B} {s s' : S}
    (done : statement s = .ok s') : exec (commit statement >>= next) s = exec (next ()) s' := by
  rw [exec_bind, exec_commit_ok done]

theorem exec_commit_bind_error {statement : S → Except F S} {next : Unit → Proc F S B} {s : S}
    {failure : F} (failed : statement s = .error failure) :
    exec (commit statement >>= next) s = (.error failure, s) := by
  rw [exec_bind, exec_commit_error failed]

theorem yields_bind {x : Proc F S A} {next : A → Proc F S B} {s s' : S} {b : B} :
    Yields (x >>= next) s b s' ↔ ∃ a t, Yields x s a t ∧ Yields (next a) t b s' := by
  simp only [Yields, exec_bind]
  rcases exec x s with ⟨failure | a, t⟩
  · simp
  · constructor
    · intro later
      exact ⟨a, t, rfl, later⟩
    · rintro ⟨_, _, ⟨⟩, later⟩
      exact later

/-- Other words for a failure leave the same state behind. -/
theorem exec_rename_bind {words : F → F} {x : Proc F S A} {next : A → Proc F S B} {s : S} :
    (exec (rename words x >>= next) s).2 = (exec (x >>= next) s).2 := by
  have renamed : exec (rename words x) s = ((exec x s).1.mapError words, (exec x s).2) := rfl
  rw [exec_bind, exec_bind, renamed]
  rcases exec x s with ⟨failure | a, t⟩ <;> rfl

/-- What holds of the turns that are done holds of the whole loop. -/
theorem yields_foldlM {inv : List A → B → S → Prop} {turn : B → A → Proc F S B} {l : List A}
    {b c : B} {s s' : S}
    (kept : ∀ done a b s c s', inv done b s → Yields (turn b a) s c s' → inv (done ++ [a]) c s')
    (start : inv [] b s) (ends : Yields (l.foldlM turn b) s c s') : inv l c s' := by
  have later : ∀ (rest done : List A) (b : B) (s : S), inv done b s →
      Yields (rest.foldlM turn b) s c s' → inv (done ++ rest) c s' := by
    intro rest
    induction rest with
    | nil =>
        intro done b s held ended
        obtain ⟨rfl, rfl⟩ := yields_pure.mp ended
        rwa [List.append_nil]
    | cons a rest ih =>
        intro done b s held ended
        rw [List.foldlM_cons] at ended
        obtain ⟨b', t, first, others⟩ := yields_bind.mp ended
        have turned := ih (done ++ [a]) b' t (kept done a b s b' t held first) others
        rwa [List.append_assoc] at turned
  exact later l [] b s start ends

/-- A loop whose turns work under a condition of their own, and then do a known thing. -/
theorem yields_forM {inv : S → Prop} {ok : A → Prop} {put : S → A → S} {f : A → Proc F S Unit}
    (each : ∀ a s s', inv s → (Yields (f a) s () s' ↔ ok a ∧ s' = put s a))
    (kept : ∀ a s, inv s → ok a → inv (put s a)) {l : List A} {s s' : S} (start : inv s) :
    Yields (l.forM f) s () s' ↔ (∀ a ∈ l, ok a) ∧ s' = l.foldl put s := by
  induction l generalizing s with
  | nil =>
      change Yields (pure () : Proc F S Unit) s () s' ↔ _
      rw [yields_pure]
      constructor
      · rintro ⟨-, rfl⟩
        exact ⟨fun a member => absurd member List.not_mem_nil, rfl⟩
      · rintro ⟨-, rfl⟩
        exact ⟨rfl, rfl⟩
  | cons a rest ih =>
      change Yields (f a >>= fun _ => rest.forM f) s () s' ↔ _
      rw [yields_bind]
      constructor
      · rintro ⟨_, t, first, later⟩
        obtain ⟨met, rfl⟩ := (each a s t start).mp first
        obtain ⟨others, rfl⟩ := (ih (kept a s start met)).mp later
        exact ⟨List.forall_mem_cons.mpr ⟨met, others⟩, rfl⟩
      · rintro ⟨all, rfl⟩
        obtain ⟨met, others⟩ := List.forall_mem_cons.mp all
        exact ⟨(), put s a, (each a s _ start).mpr ⟨met, rfl⟩,
          (ih (kept a s start met)).mpr ⟨others, rfl⟩⟩

section Chains

variable (R : S → S → Prop)

/-- All that the procedure does to the state is a chain of steps. -/
def Chains (x : Proc F S A) : Prop := ∀ s, Relation.ReflTransGen R s (exec x s).2

variable {R}

theorem chains_pure (a : A) : Chains R (pure a : Proc F S A) := fun _ => .refl

theorem chains_throw (failure : F) : Chains R (throw failure : Proc F S A) := fun _ => .refl

theorem chains_read (view : S → A) : Chains R (read view : Proc F S A) := fun _ => .refl

theorem chains_orThrow (value : Except F A) : Chains R (orThrow value : Proc F S A) :=
  fun _ => .refl

theorem chains_commit {statement : S → Except F S}
    (step : ∀ s s', statement s = .ok s' → R s s') : Chains R (commit statement) := by
  intro s
  exact leaves_commit .refl fun s' done => .single (step s s' done)

theorem chains_bind {x : Proc F S A} {next : A → Proc F S B} (first : Chains R x)
    (later : ∀ a, Chains R (next a)) : Chains R (x >>= next) := by
  intro s
  exact leaves_bind (first s) fun a t _ sofar => sofar.trans (later a t)

theorem chains_read_bind {view : S → A} {next : A → Proc F S B}
    (later : ∀ a, Chains R (next a)) : Chains R (read view >>= next) :=
  chains_bind (chains_read view) later

theorem chains_orThrow_bind {value : Except F A} {next : A → Proc F S B}
    (later : ∀ a, Chains R (next a)) : Chains R (orThrow value >>= next) :=
  chains_bind (chains_orThrow value) later

theorem chains_ignore {x : Proc F S A} (steps : Chains R x) :
    Chains R (ignore x : Proc G S Unit) := steps

theorem chains_rename {words : F → G} {x : Proc F S A} (steps : Chains R x) :
    Chains R (rename words x) := steps

theorem chains_ite {p : Prop} [Decidable p] {x y : Proc F S A} (first : Chains R x)
    (second : Chains R y) : Chains R (if p then x else y) := by
  split
  · exact first
  · exact second

/-- What each step keeps, the procedure keeps. -/
theorem Chains.keeps {P : S → Prop} {x : Proc F S A} (chains : Chains R x)
    (kept : ∀ s s', R s s' → P s → P s') {s : S} (start : P s) : P (exec x s).2 := by
  have along : ∀ t, Relation.ReflTransGen R s t → P t := by
    intro t steps
    induction steps with
    | refl => exact start
    | tail _ step ih => exact kept _ _ step ih
  exact along _ (chains s)

end Chains

end Procedure
