import PCenter.CephDestroy

/-!
# Records of the Ceph jobs from their histories

The record that a job has left is what the updates in its history have set last: the state of
each step, and the end of the job. So a part of a job is described by its part of the history
alone, and the parts are put together by what is said here of an append.
-/

namespace CephCluster

open Program

abbrev Key := String × StepPhase

/-- The step that an update sets, and its state. -/
def Update.written : Update → Option (Key × StepState)
  | startStep host phase => some ((host, phase), .running)
  | succeedStep host phase => some ((host, phase), .succeeded)
  | failStep host phase => some ((host, phase), .failed)
  | markFailed _ | markSucceeded => none

def writtenBy : Entry → Option (Key × StepState)
  | ⟨.update u, _⟩ => u.written
  | ⟨.steps, _⟩ | ⟨.call _, _⟩ => none

/-- The steps that a history sets, in order. -/
def written (h : List Entry) : List (Key × StepState) := h.filterMap writtenBy

/-- The state that a history sets a step to last. -/
def lastState (h : List Entry) (k : Key) : Option StepState := Ledger.lastSet (written h) k

/-- The end that an update marks the job with. -/
def Update.mark : Update → Option JobState
  | markFailed _ => some .failed
  | markSucceeded => some .succeeded
  | startStep _ _ | succeedStep _ _ | failStep _ _ => none

def markedBy : Entry → Option JobState
  | ⟨.update u, _⟩ => u.mark
  | ⟨.steps, _⟩ | ⟨.call _, _⟩ => none

/-- The end that a history marks the job with last. -/
def lastMark (h : List Entry) : Option JobState := (h.filterMap markedBy).getLast?

section Histories

variable {h h' : List Entry} {k : Key}

@[simp] theorem written_nil : written [] = [] := rfl

@[simp] theorem written_update {u : Update} {r : Unit} :
    written (⟨.update u, r⟩ :: h) = u.written.toList ++ written h := by
  cases u <;> rfl

@[simp] theorem written_steps {steps : List Step} :
    written (⟨.steps, steps⟩ :: h) = written h := rfl

@[simp] theorem written_call {remote : Remote} {r : Reply remote} :
    written (⟨.call remote, r⟩ :: h) = written h := rfl

@[simp] theorem written_append : written (h ++ h') = written h ++ written h' :=
  List.filterMap_append

theorem lastState_append : lastState (h ++ h') k = (lastState h' k).or (lastState h k) := by
  rw [lastState, written_append, Ledger.lastSet_append]
  rfl

theorem lastMark_append : lastMark (h ++ h') = (lastMark h').or (lastMark h) := by
  rw [lastMark, List.filterMap_append, List.getLast?_append]
  rfl

/-- A history without updates. -/
def Wordless (h : List Entry) : Prop := ∀ entry ∈ h, ∀ u, entry.1 ≠ .update u

theorem Wordless.written (wordless : Wordless h) : written h = [] := by
  apply List.filterMap_eq_nil_iff.mpr
  rintro ⟨c, r⟩ member
  cases c with
  | update u => exact absurd rfl (wordless _ member u)
  | steps => rfl
  | call remote => rfl

theorem Wordless.lastMark (wordless : Wordless h) : lastMark h = none := by
  apply List.getLast?_eq_none_iff.mpr
  apply List.filterMap_eq_nil_iff.mpr
  rintro ⟨c, r⟩ member
  cases c with
  | update u => exact absurd rfl (wordless _ member u)
  | steps => rfl
  | call remote => rfl

theorem not_pending_of_lastState {st : StepState} (last : lastState h k = some st) :
    st ≠ .pending := by
  obtain ⟨⟨c, r⟩, _, same⟩ := List.mem_filterMap.mp (Ledger.mem_of_lastSet last)
  cases c with
  | update u =>
      cases u with
      | startStep host phase | succeedStep host phase | failStep host phase =>
          obtain ⟨_, rfl⟩ := Prod.mk.inj (Option.some.inj same)
          exact nofun
      | markFailed error => exact nomatch same
      | markSucceeded => exact nomatch same
  | steps => exact nomatch same
  | call remote => exact nomatch same

theorem lastState_eq_none (apart : ∀ entry ∈ h, ∀ u, entry.1 = .update u → ¬u.Sets k.1 k.2) :
    lastState h k = none := by
  apply Ledger.lastSet_eq_none_iff.mpr
  intro listed
  obtain ⟨e, member, rfl⟩ := List.mem_map.mp listed
  obtain ⟨⟨c, r⟩, inside, same⟩ := List.mem_filterMap.mp member
  cases c with
  | update u =>
      have other := apart _ inside u rfl
      cases u with
      | startStep host phase | succeedStep host phase | failStep host phase =>
          obtain rfl := Option.some.inj same
          exact other ⟨rfl, rfl⟩
      | markFailed error => exact nomatch same
      | markSucceeded => exact nomatch same
  | steps => exact nomatch same
  | call remote => exact nomatch same

/-- No step is left running. -/
def Quiet (h : List Entry) : Prop := ∀ k, lastState h k ≠ some .running

/-- Every step that is set succeeds in the end. -/
def Clean (h : List Entry) : Prop := ∀ k, lastState h k = none ∨ lastState h k = some .succeeded

def Covers (keys : List Key) (h : List Entry) : Prop := ∀ k ∈ keys, lastState h k ≠ none

/-- A step fails in the end. -/
def Named (h : List Entry) : Prop := ∃ k, lastState h k = some .failed

theorem Clean.quiet (clean : Clean h) : Quiet h := by
  intro k running
  rcases clean k with none_ | succeeded
  · exact nomatch none_.symm.trans running
  · exact nomatch succeeded.symm.trans running

theorem Quiet.append (first : Quiet h) (later : Quiet h') : Quiet (h ++ h') := by
  intro k
  rw [lastState_append]
  cases last : lastState h' k with
  | none => exact first k
  | some st => exact fun same => later k (last.trans same)

theorem Clean.append (first : Clean h) (later : Clean h') : Clean (h ++ h') := by
  intro k
  rw [lastState_append]
  rcases later k with none_ | succeeded
  · rw [none_]
    exact first k
  · rw [succeeded]
    exact .inr rfl

theorem covers_append {keys keys' : List Key} (first : Covers keys h) (later : Covers keys' h') :
    Covers (keys ++ keys') (h ++ h') := by
  intro k member none_
  rw [lastState_append, Option.or_eq_none_iff] at none_
  rcases List.mem_append.mp member with member | member
  · exact first k member none_.2
  · exact later k member none_.1

theorem Named.append (later : Named h') : Named (h ++ h') := by
  obtain ⟨k, failed⟩ := later
  refine ⟨k, ?_⟩
  rw [lastState_append, failed]
  rfl

theorem lastState_turn {st : StepState} (turn : written h = [(k, .running), (k, st)]) (k' : Key) :
    lastState h k' = if k' = k then some st else none := by
  rw [lastState, turn, Ledger.lastSet_cons, Ledger.lastSet_cons]
  by_cases same : k' = k <;> simp [same]

theorem clean_of_turn (turn : written h = [(k, .running), (k, .succeeded)]) : Clean h := by
  intro k'
  rw [lastState_turn turn]
  split_ifs
  · exact .inr rfl
  · exact .inl rfl

theorem covers_of_turn {st : StepState} (turn : written h = [(k, .running), (k, st)]) :
    Covers [k] h := by
  intro k' member
  rw [lastState_turn turn, if_pos (List.mem_singleton.mp member)]
  exact Option.some_ne_none st

theorem quiet_of_turn {st : StepState} (turn : written h = [(k, .running), (k, st)])
    (ended : st ≠ .running) : Quiet h := by
  intro k'
  rw [lastState_turn turn]
  split_ifs
  · exact fun same => ended (Option.some.inj same)
  · exact nofun

theorem named_of_turn (turn : written h = [(k, .running), (k, .failed)]) : Named h := by
  refine ⟨k, ?_⟩
  rw [lastState_turn turn, if_pos rfl]

end Histories

section Records

variable {outside : Outside} {w w' : World} {A : Type} {a : A} {h : List Entry}

theorem entries_apply (u : Update) (job : Job) :
    (u.apply job).entries = Ledger.setAll u.written.toList job.entries := by
  cases u with
  | startStep host phase | succeedStep host phase | failStep host phase => exact entries_setStep
  | markFailed error => rfl
  | markSucceeded => rfl

theorem entries_of_ran {p : Code A} (ran : Ran (serve outside) p w h a w') :
    w'.job.entries = Ledger.setAll (written h) w.job.entries := by
  induction p generalizing w h with
  | done b =>
      obtain ⟨rfl, _, rfl⟩ := ran_done.mp ran
      rfl
  | act c next ih =>
      obtain ⟨r, t, rest, answered, rfl, later⟩ := ran_act.mp ran
      rw [ih r later]
      cases c with
      | update u =>
          obtain ⟨rfl, rfl⟩ := Prod.mk.inj (Option.some.inj answered)
          rw [written_update, Ledger.setAll_append, entries_apply]
      | steps =>
          obtain ⟨rfl, rfl⟩ := Prod.mk.inj (Option.some.inj answered)
          rfl
      | call remote =>
          obtain ⟨rfl, rfl⟩ := Prod.mk.inj (Option.some.inj answered)
          rfl

theorem state_apply (u : Update) (job : Job) : (u.apply job).state = u.mark.getD job.state := by
  cases u <;> rfl

theorem state_of_ran {p : Code A} (ran : Ran (serve outside) p w h a w') :
    w'.job.state = (lastMark h).getD w.job.state := by
  induction p generalizing w h with
  | done b =>
      obtain ⟨rfl, _, rfl⟩ := ran_done.mp ran
      rfl
  | act c next ih =>
      obtain ⟨r, t, rest, answered, rfl, later⟩ := ran_act.mp ran
      have step : t.job.state = (lastMark [⟨c, r⟩]).getD w.job.state := by
        cases c with
        | update u =>
            obtain ⟨rfl, rfl⟩ := Prod.mk.inj (Option.some.inj answered)
            refine (state_apply u w.job).trans ?_
            cases u <;> rfl
        | steps =>
            obtain ⟨rfl, rfl⟩ := Prod.mk.inj (Option.some.inj answered)
            rfl
        | call remote =>
            obtain ⟨rfl, rfl⟩ := Prod.mk.inj (Option.some.inj answered)
            rfl
      have split : lastMark (⟨c, r⟩ :: rest) = (lastMark rest).or (lastMark [⟨c, r⟩]) :=
        @lastMark_append [⟨c, r⟩] rest
      rw [ih r later, step, split]
      cases lastMark rest <;> rfl

variable {job job' : Job}

/-- A job that is started has only pending steps. -/
def Fresh (job : Job) : Prop := ∀ step ∈ job.steps, step.state = .pending

theorem shadowed_of_fresh_job (fresh : Fresh job) : Ledger.Shadowed .pending job.entries := by
  apply Ledger.shadowed_of_fresh
  intro e member
  obtain ⟨step, listed, rfl⟩ := List.mem_map.mp member
  exact fresh step listed

theorem entries_pending (fresh : Fresh job) {k : Key} {st : StepState}
    (found : job.entries.lookup k = some st) : st = .pending := by
  obtain ⟨step, listed, same⟩ := List.mem_map.mp (Ledger.mem_of_lookup found)
  obtain ⟨_, rfl⟩ := Prod.mk.inj same
  exact fresh step listed

section Ends

variable (left : job'.entries = Ledger.setAll (written h) job.entries)

include left

theorem exists_step_of_lastState {k : Key} {st : StepState} (last : lastState h k = some st) :
    ∃ step ∈ job'.steps, step.state = st := by
  have found : job'.entries.lookup k = some st := by
    rw [left, Ledger.lookup_setAll]
    exact Option.or_eq_some_iff.mpr (.inl last)
  obtain ⟨step, listed, same⟩ := List.mem_map.mp (Ledger.mem_of_lookup found)
  exact ⟨step, listed, congrArg Prod.snd same⟩

theorem lastState_of_covers {step : Step} (nodup : job.keys.Nodup) (covers : Covers job.keys h)
    (member : step ∈ job'.steps) : lastState h (step.host, step.phase) = some step.state := by
  have listed : ((step.host, step.phase), step.state) ∈ job'.entries := List.mem_map_of_mem member
  have once : (job'.entries.map Prod.fst).Nodup := by
    rw [left]
    exact Ledger.nodup_keys_setAll (keys_entries ▸ nodup)
  have found := Ledger.lookup_eq_of_mem once listed
  rw [left, Ledger.lookup_setAll, Option.or_eq_some_iff] at found
  rcases found with last | ⟨none_, old⟩
  · exact last
  · have seeded : (step.host, step.phase) ∈ job.keys := by
      rw [← keys_entries]
      exact List.mem_map_of_mem (f := Prod.fst) (Ledger.mem_of_lookup old)
    exact absurd none_ (covers _ seeded)

variable (fresh : Fresh job)

include fresh

theorem lastState_of_step {step : Step} (member : step ∈ job'.steps)
    (changed : step.state ≠ .pending) : lastState h (step.host, step.phase) = some step.state := by
  have listed : ((step.host, step.phase), step.state) ∈ job'.entries := List.mem_map_of_mem member
  have shadowed : Ledger.Shadowed .pending job'.entries := by
    rw [left]
    exact (shadowed_of_fresh_job fresh).setAll
  have found := shadowed.lookup_eq listed changed
  rw [left, Ledger.lookup_setAll, Option.or_eq_some_iff] at found
  rcases found with last | ⟨_, old⟩
  · exact last
  · exact absurd (entries_pending fresh old) changed

theorem not_running_of_quiet (quiet : Quiet h) : ∀ step ∈ job'.steps, step.state ≠ .running := by
  intro step member running
  have changed : step.state ≠ .pending := by
    rw [running]
    exact nofun
  have last := lastState_of_step left fresh member changed
  rw [running] at last
  exact quiet _ last

theorem named_iff : (∃ step ∈ job'.steps, step.state = .failed) ↔ Named h := by
  constructor
  · rintro ⟨step, member, failed⟩
    have changed : step.state ≠ .pending := by
      rw [failed]
      exact nofun
    refine ⟨(step.host, step.phase), ?_⟩
    rw [lastState_of_step left fresh member changed, failed]
  · rintro ⟨k, last⟩
    exact exists_step_of_lastState left last

theorem nodup_of_not_pending (none_ : ∀ step ∈ job'.steps, step.state ≠ .pending) :
    job.keys.Nodup := by
  have shadowed : Ledger.Shadowed .pending job'.entries := by
    rw [left]
    exact (shadowed_of_fresh_job fresh).setAll
  have nodup : (job'.entries.map Prod.fst).Nodup := by
    apply shadowed.nodup_keys
    intro e member
    obtain ⟨step, listed, rfl⟩ := List.mem_map.mp member
    exact none_ step listed
  rw [left] at nodup
  rw [← keys_entries]
  exact nodup.sublist Ledger.keys_prefix_setAll.sublist

end Ends

end Records

end CephCluster
