import PCenter.CephCluster
import PCenter.Lib.Ledger

/-!
# The order and the truth of a destroy job

What a destroy job has done when it purges the nodes, and what its record says about what
was done. A part of the job concerns one target: a kind of resources or a node. What the
other parts do leaves the target's step and the calls about it alone.
-/

namespace CephCluster

open Program

inductive Target where
  | kind (k : Kind)
  | node (n : String)

namespace Target

def host : Target → String
  | kind _ => ""
  | node n => n

def phase : Target → StepPhase
  | kind k => phaseOf k
  | node _ => .cephPurge

end Target

/-- The update is of the step of a host and a phase. -/
def Update.Sets (host : String) (phase : StepPhase) : Update → Prop
  | startStep h p | succeedStep h p | failStep h p => h = host ∧ p = phase
  | markFailed _ | markSucceeded => False

def About (target : Target) : Cmd → Prop
  | .update u => u.Sets target.host target.phase
  | .steps => False
  | .call (.list kind _) => target = .kind kind
  | .call (.delete kind _ _) => target = .kind kind
  | .call (.runSSHCommand node _ _) => target = .node node
  | .call _ => False

section Steps

variable {job : Job} {host host' : String} {phase phase' : StepPhase} {state : StepState}

def Job.keys (job : Job) : List (String × StepPhase) :=
  job.steps.map fun step => (step.host, step.phase)

/-- The steps as a ledger. -/
def Job.entries (job : Job) : List ((String × StepPhase) × StepState) :=
  job.steps.map fun step => ((step.host, step.phase), step.state)

theorem keys_entries : job.entries.map Prod.fst = job.keys := by
  rw [Job.entries, List.map_map]
  rfl

theorem lookup_entries : job.entries.lookup (host, phase) = job.stepState host phase := by
  rw [Job.entries, Ledger.lookup_map, Job.stepState]
  simp only [Prod.mk.injEq]

theorem entries_setStep :
    (job.setStep host phase state).entries = Ledger.set (host, phase) state job.entries := by
  obtain ⟨cluster, s, error, steps⟩ := job
  simp only [Job.setStep, Job.entries]
  induction steps with
  | nil => rfl
  | cons step steps ih =>
      rw [Job.setStep.go, List.map_cons, Ledger.set]
      by_cases here : step.host = host ∧ step.phase = phase
      · rw [if_pos here, if_pos (Prod.ext here.1 here.2), List.map_cons]
      · rw [if_neg here, if_neg fun same => here (Prod.mk.inj same), List.map_cons, ih]

theorem stepState_setStep :
    (job.setStep host phase state).stepState host' phase' =
      if host = host' ∧ phase = phase' then some state else job.stepState host' phase' := by
  rw [← lookup_entries, ← lookup_entries, entries_setStep, Ledger.lookup_set]
  simp only [Prod.mk.injEq, eq_comm]

theorem nodup_keys_setStep (nodup : job.keys.Nodup) :
    (job.setStep host phase state).keys.Nodup := by
  rw [← keys_entries] at nodup ⊢
  rw [entries_setStep]
  exact Ledger.nodup_keys_set nodup

theorem nodup_keys_apply (u : Update) (nodup : job.keys.Nodup) : (u.apply job).keys.Nodup := by
  cases u with
  | startStep h p | succeedStep h p | failStep h p => exact nodup_keys_setStep nodup
  | markFailed error => exact nodup
  | markSucceeded => exact nodup

theorem stepState_of_mem (nodup : job.keys.Nodup) {step : Step} (member : step ∈ job.steps) :
    job.stepState step.host step.phase = some step.state := by
  rw [← keys_entries] at nodup
  rw [← lookup_entries]
  have listed : ((step.host, step.phase), step.state) ∈ job.entries := List.mem_map_of_mem member
  exact Ledger.lookup_eq_of_mem nodup listed

theorem stepState_apply_of_not_sets {u : Update} (apart : ¬u.Sets host phase) :
    (u.apply job).stepState host phase = job.stepState host phase := by
  cases u with
  | startStep h p | succeedStep h p | failStep h p =>
      rw [Update.apply, stepState_setStep]
      exact if_neg apart
  | markFailed error => rfl
  | markSucceeded => rfl

end Steps

section Runs

variable {outside : Outside} {w w' : World} {A : Type} {a : A} {h : List Entry}

theorem ran_update {u : Update} {next : Unit → Code A} :
    Ran (serve outside) (update u >>= next) w h a w' ↔
      ∃ h', h = ⟨.update u, ()⟩ :: h' ∧
        Ran (serve outside) (next ()) { w with job := u.apply w.job } h' a w' := by
  change Ran (serve outside) (.act (.update u) next) w h a w' ↔ _
  rw [ran_act]
  constructor
  · rintro ⟨_, _, h', answered, rfl, later⟩
    obtain ⟨rfl, rfl⟩ := Prod.mk.inj (Option.some.inj answered)
    exact ⟨h', rfl, later⟩
  · rintro ⟨h', rfl, later⟩
    exact ⟨(), _, h', rfl, rfl, later⟩

theorem ran_last_update {u : Update} {v : Unit} :
    Ran (serve outside) (update u) w h v w' ↔
      h = [⟨.update u, ()⟩] ∧ w' = { w with job := u.apply w.job } := by
  constructor
  · intro ran
    obtain ⟨h', rfl, ended⟩ := ran_update.mp (by rwa [← bind_done (update u)] at ran)
    obtain ⟨rfl, _, rfl⟩ := ran_done.mp ended
    exact ⟨rfl, rfl⟩
  · rintro ⟨rfl, rfl⟩
    rfl

theorem ran_call {remote : Remote} {next : Reply remote → Code A} :
    Ran (serve outside) (issue (.call remote) >>= next) w h a w' ↔
      ∃ h', h = ⟨.call remote, outside w.asked remote⟩ :: h' ∧
        Ran (serve outside) (next (outside w.asked remote)) { w with asked := w.asked + 1 }
          h' a w' := by
  change Ran (serve outside) (.act (.call remote) next) w h a w' ↔ _
  rw [ran_act]
  constructor
  · rintro ⟨_, _, h', answered, rfl, later⟩
    obtain ⟨rfl, rfl⟩ := Prod.mk.inj (Option.some.inj answered)
    exact ⟨h', rfl, later⟩
  · rintro ⟨h', rfl, later⟩
    exact ⟨_, _, h', rfl, rfl, later⟩

theorem ran_steps {next : List Step → Code A} :
    Ran (serve outside) (issue .steps >>= next) w h a w' ↔
      ∃ h', h = ⟨.steps, w.job.steps⟩ :: h' ∧
        Ran (serve outside) (next w.job.steps) w h' a w' := by
  change Ran (serve outside) (.act .steps next) w h a w' ↔ _
  rw [ran_act]
  constructor
  · rintro ⟨_, _, h', answered, rfl, later⟩
    obtain ⟨rfl, rfl⟩ := Prod.mk.inj (Option.some.inj answered)
    exact ⟨h', rfl, later⟩
  · rintro ⟨h', rfl, later⟩
    exact ⟨_, _, h', rfl, rfl, later⟩

abbrev Only (issues : Cmd → Prop) (code : Code A) : Prop := Keeps issues (fun _ _ => True) code

theorem stepState_of_ran {target : Target} {p : Code A}
    (apart : Only (fun c => ¬About target c) p) (ran : Ran (serve outside) p w h a w') :
    w'.job.stepState target.host target.phase = w.job.stepState target.host target.phase := by
  refine @invariant_of_ran Cmd World A Answer _ (fun t =>
    t.job.stepState target.host target.phase = w.job.stepState target.host target.phase)
    _ p w w' h a ?_ apart ran rfl
  intro c s r s' allowed answered same
  cases c with
  | update u =>
      obtain ⟨_, rfl⟩ := Prod.mk.inj (Option.some.inj answered)
      exact (stepState_apply_of_not_sets allowed).trans same
  | _ =>
      obtain ⟨_, rfl⟩ := Prod.mk.inj (Option.some.inj answered)
      exact same

end Runs

section Parts

variable (clients : Clients) (lead : String)

/-- The part of the job that deletes the resources of a kind. -/
def deleteKind : Kind → Code Unit
  | .fs => deleteFS clients lead
  | .pool => deletePools clients lead
  | .mds => deleteMDSs clients lead
  | .osd => deleteOSDs clients lead
  | .mgr => deleteMGRs clients lead
  | .mon => deleteMONs clients lead

def kinds : List Kind := [.fs, .pool, .mds, .osd, .mgr, .mon]

theorem kinds_split (kind : Kind) :
    ∃ before after, kinds = before ++ kind :: after ∧ kind ∉ before ∧ kind ∉ after := by
  cases kind with
  | fs => exact ⟨[], [.pool, .mds, .osd, .mgr, .mon], rfl, by decide, by decide⟩
  | pool => exact ⟨[.fs], [.mds, .osd, .mgr, .mon], rfl, by decide, by decide⟩
  | mds => exact ⟨[.fs, .pool], [.osd, .mgr, .mon], rfl, by decide, by decide⟩
  | osd => exact ⟨[.fs, .pool, .mds], [.mgr, .mon], rfl, by decide, by decide⟩
  | mgr => exact ⟨[.fs, .pool, .mds, .osd], [.mon], rfl, by decide, by decide⟩
  | mon => exact ⟨[.fs, .pool, .mds, .osd, .mgr], [], rfl, by decide, by decide⟩

theorem teardown_eq :
    teardown clients lead = setNoout lead >>= fun _ => kinds.forM (deleteKind clients lead) := by
  have last : kinds.forM (deleteKind clients lead) = (do
      deleteFS clients lead
      deletePools clients lead
      deleteMDSs clients lead
      deleteOSDs clients lead
      deleteMGRs clients lead
      deleteMONs clients lead >>= Prog.done) := rfl
  rw [last, bind_done]
  rfl

variable {clients lead}

theorem only_update {issues : Cmd → Prop} {u : Update} (allowed : issues (.update u)) :
    Only issues (update u) := ⟨allowed, fun _ _ => trivial⟩

theorem only_bind {issues : Cmd → Prop} {A B : Type} {p : Code A} {f : A → Code B}
    (first : Only issues p) (later : ∀ a, Only issues (f a)) : Only issues (p >>= f) :=
  keeps_bind first later

theorem only_call {issues : Cmd → Prop} {remote : Remote} {A : Type}
    {next : Reply remote → Code A} (allowed : issues (.call remote))
    (later : ∀ r, Only issues (next r)) : Only issues (issue (.call remote) >>= next) :=
  ⟨allowed, fun r _ => later r⟩

theorem only_steps {issues : Cmd → Prop} {A : Type} {next : List Step → Code A}
    (allowed : issues .steps) (later : ∀ steps, Only issues (next steps)) :
    Only issues (issue .steps >>= next) :=
  ⟨allowed, fun steps _ => later steps⟩

theorem only_endStep {issues : Cmd → Prop} {phase : StepPhase}
    (fails : issues (.update (.failStep "" phase)))
    (succeeds : issues (.update (.succeedStep "" phase))) (errs : List String) :
    Only issues (endStep phase errs) := by
  rw [endStep]
  split_ifs
  · exact only_update fails
  · exact only_update succeeds

theorem only_collect {issues : Cmd → Prop} {A : Type} {delete : A → Code (Except String Unit)}
    (each : ∀ item, Only issues (delete item)) (items : List A) :
    Only issues (collect delete items) := by
  induction items with
  | nil => exact keeps_done _
  | cons item rest ih =>
      apply only_bind (each item)
      intro deleted
      apply only_bind ih
      intro errs
      cases deleted <;> exact keeps_done _

/-- What the part of a kind may do. -/
structure KindOnly (kind : Kind) (issues : Cmd → Prop) : Prop where
  starts : issues (.update (.startStep "" (phaseOf kind)))
  fails : issues (.update (.failStep "" (phaseOf kind)))
  succeeds : issues (.update (.succeedStep "" (phaseOf kind)))
  lists : issues (.call (.list kind lead))
  deletes : ∀ via item, issues (.call (.delete kind via item))
  waits : ∀ via upid, issues (.call (.waitForTask via upid))

theorem only_deleteItem {issues : Cmd → Prop} {kind : Kind}
    (deletes : ∀ via item, issues (.call (.delete kind via item))) (item : Item kind) :
    Only issues (deleteItem clients lead kind item) := by
  apply only_call (deletes _ item)
  intro deleted
  cases deleted <;> exact keeps_done _

theorem only_deleteOSD {issues : Cmd → Prop}
    (deletes : ∀ via item, issues (.call (.delete .osd via item)))
    (waits : ∀ via upid, issues (.call (.waitForTask via upid))) (osd : OSD) :
    Only issues (deleteOSD clients lead osd) := by
  apply only_call (deletes _ osd)
  intro deleted
  cases deleted with
  | error err => exact keeps_done _
  | ok upid => exact ⟨waits _ upid, fun _ _ => trivial⟩

theorem only_deletePhase {issues : Cmd → Prop} {kind : Kind}
    (may : @KindOnly lead kind issues) : Only issues (deletePhase clients lead kind) := by
  apply only_bind (only_update may.starts)
  intro _
  apply only_call may.lists
  intro listed
  apply only_bind (only_collect (only_deleteItem may.deletes) _)
  exact only_endStep may.fails may.succeeds

theorem only_deleteKind {issues : Cmd → Prop} {kind : Kind}
    (may : @KindOnly lead kind issues) : Only issues (deleteKind clients lead kind) := by
  cases kind with
  | osd =>
      apply only_bind (only_update may.starts)
      intro _
      apply only_call may.lists
      intro listed
      cases listed with
      | error err => exact only_update may.fails
      | ok osds =>
          apply only_bind (only_collect (only_deleteOSD may.deletes may.waits) osds)
          exact only_endStep may.fails may.succeeds
  | _ => exact only_deletePhase may

end Parts

section Truth

/-- A deletion call of an item succeeded. -/
def Succeeds (kind : Kind) (item : Item kind) (h : List Entry) : Prop :=
  ∃ via upid, (⟨.call (.delete kind via item), .ok upid⟩ : Entry) ∈ h

/-- No deletion call of the kind failed. -/
def NoFailure (kind : Kind) (h : List Entry) : Prop :=
  ∀ via item err, (⟨.call (.delete kind via item), .error err⟩ : Entry) ∉ h

/-- The resources of a kind were listed and the deletion of every one succeeded. -/
def Deleted (kind : Kind) (h : List Entry) : Prop :=
  ∃ via items, (⟨.call (.list kind via), .ok items⟩ : Entry) ∈ h ∧
    (∀ item ∈ items, Succeeds kind item h) ∧ NoFailure kind h

def ListFailed (kind : Kind) (h : List Entry) : Prop :=
  ∃ via err, (⟨.call (.list kind via), .error err⟩ : Entry) ∈ h

variable {clients : Clients} {lead : String} {outside : Outside} {w w' : World} {kind : Kind}
  {h : List Entry}

theorem succeeds_append {item : Item kind} {first later : List Entry} :
    Succeeds kind item first ∨ Succeeds kind item later → Succeeds kind item (first ++ later) := by
  rintro (⟨via, upid, member⟩ | ⟨via, upid, member⟩)
  · exact ⟨via, upid, List.mem_append_left later member⟩
  · exact ⟨via, upid, List.mem_append_right first member⟩

theorem noFailure_append {first later : List Entry} :
    NoFailure kind (first ++ later) ↔ NoFailure kind first ∧ NoFailure kind later := by
  constructor
  · intro none
    exact ⟨fun via item err member => none via item err (List.mem_append_left later member),
      fun via item err member => none via item err (List.mem_append_right first member)⟩
  · rintro ⟨none, none'⟩ via item err member
    rcases List.mem_append.mp member with member | member
    · exact none via item err member
    · exact none' via item err member

/-- What a deletion that ends well has in its history. -/
def DeletesWell (kind : Kind) (delete : Item kind → Code (Except String Unit)) : Prop :=
  ∀ outside item w h r w', Ran (serve outside) (delete item) w h r w' → r = .ok () →
    Succeeds kind item h ∧ NoFailure kind h

theorem deletesWell_deleteItem : DeletesWell kind (deleteItem clients lead kind) := by
  rintro outside item w h _ w' ran rfl
  obtain ⟨h', rfl, rest⟩ := ran_call.mp ran
  cases answer : outside w.asked (.delete kind (routeOf clients lead kind item) item) with
  | error err =>
      rw [answer] at rest
      exact nomatch (ran_done.mp rest).2.1
  | ok upid =>
      rw [answer] at rest
      obtain ⟨rfl, _⟩ := ran_done.mp rest
      refine ⟨⟨_, upid, List.mem_singleton_self _⟩, ?_⟩
      intro via other err member
      simp at member

theorem deletesWell_deleteOSD : DeletesWell .osd (deleteOSD clients lead) := by
  rintro outside item w h _ w' ran rfl
  obtain ⟨h', rfl, rest⟩ := ran_call.mp ran
  cases answer : outside w.asked (.delete .osd (clientOf clients lead item.host) item) with
  | error err =>
      rw [answer] at rest
      exact nomatch (ran_done.mp rest).2.1
  | ok upid =>
      rw [answer] at rest
      refine ⟨⟨_, upid, List.mem_cons_self⟩, ?_⟩
      have waits : Only (fun c => ∃ via upid, c = .call (.waitForTask via upid))
          (issue (.call (.waitForTask (clientOf clients lead item.host) upid))) :=
        ⟨⟨_, _, rfl⟩, fun _ _ => trivial⟩
      intro via other err member
      rcases List.mem_cons.mp member with first | member
      · simp at first
      · obtain ⟨_, _, waited⟩ := issues_of_ran waits rest _ member
        exact nomatch waited

theorem collect_deleted {delete : Item kind → Code (Except String Unit)}
    (well : DeletesWell kind delete) {items : List (Item kind)} {errs : List String}
    (ran : Ran (serve outside) (collect delete items) w h errs w') (clean : errs = []) :
    (∀ item ∈ items, Succeeds kind item h) ∧ NoFailure kind h := by
  induction items generalizing w w' h errs with
  | nil =>
      obtain ⟨rfl, _⟩ := ran_done.mp ran
      exact ⟨nofun, fun _ _ _ => nofun⟩
  | cons item rest ih =>
      obtain ⟨r, t, first, later, rfl, deleted, going⟩ := ran_bind.mp ran
      obtain ⟨errs', t', others, last, rfl, collected, ended⟩ := ran_bind.mp going
      cases r with
      | error err =>
          obtain ⟨_, rfl, _⟩ := ran_done.mp ended
          exact nomatch clean
      | ok _ =>
          obtain ⟨rfl, rfl, _⟩ := ran_done.mp ended
          obtain ⟨succeeded, clean_first⟩ := well outside item w first _ t deleted rfl
          obtain ⟨all, clean_others⟩ := ih collected clean
          rw [List.append_nil]
          refine ⟨?_, noFailure_append.mpr ⟨clean_first, clean_others⟩⟩
          intro other member
          rcases List.mem_cons.mp member with rfl | member
          · exact succeeds_append (.inl succeeded)
          · exact succeeds_append (.inr (all other member))

theorem ran_endStep {phase : StepPhase} {errs : List String} {u : Unit}
    (ran : Ran (serve outside) (endStep phase errs) w h u w') :
    errs = [] ∧ h = [⟨.update (.succeedStep "" phase), ()⟩] ∧
        w'.job.stepState "" phase = some .succeeded ∨
      errs ≠ [] ∧ h = [⟨.update (.failStep "" phase), ()⟩] ∧
        w'.job.stepState "" phase = some .failed := by
  rw [endStep] at ran
  split_ifs at ran with some_err
  · obtain ⟨rfl, rfl⟩ := ran_last_update.mp ran
    refine .inr ⟨List.ne_nil_of_length_pos some_err, rfl, ?_⟩
    simp [Update.apply, stepState_setStep]
  · obtain ⟨rfl, rfl⟩ := ran_last_update.mp ran
    refine .inl ⟨by simpa using some_err, rfl, ?_⟩
    simp [Update.apply, stepState_setStep]

/-- What the part of a kind has done, and how its step ends. -/
structure Outcome (kind : Kind) (h : List Entry) (job : Job) : Prop where
  ended : ⟨.update (.succeedStep "" (phaseOf kind)), ()⟩ ∈ h ∨
    ⟨.update (.failStep "" (phaseOf kind)), ()⟩ ∈ h
  succeeded : job.stepState "" (phaseOf kind) = some .succeeded →
    Deleted kind h ∨ kind ≠ .osd ∧ ListFailed kind h
  blind : kind ≠ .osd → ListFailed kind h →
    job.stepState "" (phaseOf kind) = some .succeeded ∧ ¬Deleted kind h

theorem list_unique {listed : Except String (List (Item kind))} {rest : List Entry} {u : Update}
    (others : ∀ entry ∈ rest, ∀ via, entry.1 ≠ .call (.list kind via)) {via : String}
    {r : Except String (List (Item kind))}
    (member : (⟨.call (.list kind via), r⟩ : Entry) ∈
      (⟨.update u, ()⟩ : Entry) :: ⟨.call (.list kind lead), listed⟩ :: rest) : r = listed := by
  rcases List.mem_cons.mp member with start | member
  · exact nomatch start
  · rcases List.mem_cons.mp member with here | member
    · cases here
      rfl
    · exact absurd rfl (others _ member via)

/-- A call of another part. -/
def IsDeletion (kind : Kind) (c : Cmd) : Prop :=
  (∃ via item, c = .call (.delete kind via item)) ∨ ∃ via upid, c = .call (.waitForTask via upid)

theorem outcome_of_parts {listed : Except String (List (Item kind))} {collected : List Entry}
    {errs : List String} {job : Job} {phase : StepPhase} (named : phase = phaseOf kind)
    (deletions : ∀ entry ∈ collected, IsDeletion kind entry.1)
    (deleted : errs = [] → ∀ items, listed = .ok items →
      (∀ item ∈ items, Succeeds kind item collected) ∧ NoFailure kind collected)
    (blind : kind ≠ .osd → (∃ err, listed = .error err) → errs = [])
    (sees : kind = .osd → (∃ err, listed = .error err) → errs ≠ [])
    (last : List Entry)
    (ends : errs = [] ∧ last = [⟨.update (.succeedStep "" phase), ()⟩] ∧
        job.stepState "" phase = some .succeeded ∨
      errs ≠ [] ∧ last = [⟨.update (.failStep "" phase), ()⟩] ∧
        job.stepState "" phase = some .failed) :
    Outcome kind (⟨.update (.startStep "" phase), ()⟩ :: ⟨.call (.list kind lead), listed⟩ ::
      (collected ++ last)) job := by
  subst named
  have lasts : ∀ entry ∈ last, ∃ u, entry.1 = .update u := by
    rcases ends with ⟨_, rfl, _⟩ | ⟨_, rfl, _⟩
    · intro entry member
      obtain rfl := List.mem_singleton.mp member
      exact ⟨_, rfl⟩
    · intro entry member
      obtain rfl := List.mem_singleton.mp member
      exact ⟨_, rfl⟩
  have others : ∀ entry ∈ collected ++ last, ∀ via, entry.1 ≠ .call (.list kind via) := by
    intro entry member via same
    rcases List.mem_append.mp member with member | member
    · rcases deletions entry member with ⟨_, _, other⟩ | ⟨_, _, other⟩
      · exact nomatch same.symm.trans other
      · exact nomatch same.symm.trans other
    · obtain ⟨_, other⟩ := lasts entry member
      exact nomatch same.symm.trans other
  refine ⟨?_, ?_, ?_⟩
  · rcases ends with ⟨_, rfl, _⟩ | ⟨_, rfl, _⟩
    · exact .inl (by simp)
    · exact .inr (by simp)
  · intro done
    rcases ends with ⟨clean, rfl, _⟩ | ⟨_, _, failed⟩
    · cases listed with
      | error err =>
          by_cases osd : kind = .osd
          · exact absurd clean (sees osd ⟨err, rfl⟩)
          · exact .inr ⟨osd, lead, err, by simp⟩
      | ok items =>
          obtain ⟨all, none⟩ := deleted clean items rfl
          refine .inl ⟨lead, items, by simp, ?_, ?_⟩
          · intro item member
            obtain ⟨via, upid, inside⟩ := all item member
            exact ⟨via, upid, by simp [inside]⟩
          · intro via item err member
            simp only [List.mem_cons, List.mem_append] at member
            rcases member with start | list | inside | last
            · exact nomatch start
            · exact nomatch list
            · exact none via item err inside
            · simp at last
    · rw [failed] at done
      exact nomatch done
  · rintro other ⟨via, err, member⟩
    obtain rfl := list_unique others member
    have clean := blind other ⟨err, rfl⟩
    rcases ends with ⟨_, rfl, succeeded⟩ | ⟨failed, _⟩
    · refine ⟨succeeded, ?_⟩
      rintro ⟨via', items, member', _⟩
      exact nomatch list_unique others member'
    · exact absurd clean failed

theorem outcome_deletePhase {u : Unit} (other : kind ≠ .osd)
    (ran : Ran (serve outside) (deletePhase clients lead kind) w h u w') :
    Outcome kind h w'.job := by
  obtain ⟨_, rfl, listing⟩ := ran_update.mp ran
  obtain ⟨_, rfl, deleting⟩ := ran_call.mp listing
  obtain ⟨errs, t, collected, last, rfl, deletes, ends⟩ := ran_bind.mp deleting
  refine outcome_of_parts rfl ?_ ?_ ?_ (fun osd => absurd osd other) last (ran_endStep ends)
  · have only : Only (IsDeletion kind)
        (collect (deleteItem clients lead kind)
          ((outside w.asked (.list kind lead)).toOption.getD [])) :=
      only_collect (only_deleteItem fun via item => .inl ⟨via, item, rfl⟩) _
    exact issues_of_ran only deletes
  · intro clean items listed
    rw [listed] at deletes
    exact collect_deleted deletesWell_deleteItem deletes clean
  · rintro _ ⟨err, listed⟩
    rw [listed] at deletes
    exact (ran_done.mp deletes).2.1

theorem outcome_deleteOSDs {u : Unit}
    (ran : Ran (serve outside) (deleteOSDs clients lead) w h u w') : Outcome .osd h w'.job := by
  obtain ⟨_, rfl, listing⟩ := ran_update.mp ran
  obtain ⟨_, rfl, deleting⟩ := ran_call.mp listing
  cases listed : outside w.asked (.list .osd lead) with
  | error err =>
      rw [listed] at deleting
      obtain ⟨rfl, rfl⟩ := ran_last_update.mp deleting
      refine @outcome_of_parts lead .osd (.error err) [] [err] _ .deleteOSD rfl nofun nofun
        (fun other => absurd rfl other) (fun _ _ => List.cons_ne_nil err []) _
        (.inr ⟨List.cons_ne_nil err [], rfl, ?_⟩)
      simp [Update.apply, stepState_setStep]
  | ok osds =>
      rw [listed] at deleting
      obtain ⟨errs, t, collected, last, rfl, deletes, ends⟩ := ran_bind.mp deleting
      refine outcome_of_parts rfl ?_ ?_ (fun other => absurd rfl other) ?_ last (ran_endStep ends)
      · have only : Only (IsDeletion .osd) (collect (deleteOSD clients lead) osds) :=
          only_collect (only_deleteOSD (fun via item => .inl ⟨via, item, rfl⟩)
            fun via upid => .inr ⟨via, upid, rfl⟩) osds
        exact issues_of_ran only deletes
      · rintro clean items ⟨⟩
        exact collect_deleted deletesWell_deleteOSD deletes clean
      · rintro _ ⟨err, ⟨⟩⟩

theorem outcome_deleteKind {u : Unit}
    (ran : Ran (serve outside) (deleteKind clients lead kind) w h u w') :
    Outcome kind h w'.job := by
  cases kind with
  | osd => exact outcome_deleteOSDs ran
  | fs | pool | mds | mgr | mon => exact outcome_deletePhase nofun ran

end Truth

section Whole

variable {clients : Clients} {lead : String} {outside : Outside} {w w' : World} {kind : Kind}
  {h : List Entry} {target : Target}

/-- What a job does between the preflight and the purge. -/
def deletions (clients : Clients) (lead : String) : Except String Unit → Code Unit
  | .error _ => pure ()
  | .ok _ => teardown clients lead

/-- The history of the preflight. -/
def preflight (lead : String) (status : Except String Unit) : List Entry :=
  [⟨.update (.startStep "" .destroyPreflight), ()⟩, ⟨.call (.getCephStatus lead), status⟩,
    ⟨.update (.succeedStep "" .destroyPreflight), ()⟩]

theorem ran_runDestroy {first : Sigma fun _ : String => String}
    {others : List (Sigma fun _ : String => String)} {u : Unit}
    (started : clients.entries = first :: others)
    (ran : Ran (serve outside) (runDestroy clients) w h u w') :
    ∃ deleting purging final v v' t t',
      h = preflight first.1 (outside w.asked (.getCephStatus first.1)) ++ deleting ++
          (purging ++ final) ∧
        Ran (serve outside)
          (deletions clients first.1 (outside w.asked (.getCephStatus first.1)))
          ⟨(Update.succeedStep "" .destroyPreflight).apply
            ((Update.startStep "" .destroyPreflight).apply w.job), w.asked + 1⟩
          deleting v t ∧
        Ran (serve outside) (runPurgeAcrossNodes clients) t purging v' t' ∧
        Ran (serve outside) finalizeDestroyResult t' final u w' := by
  rw [runDestroy, started] at ran
  obtain ⟨_, rfl, asking⟩ := ran_update.mp ran
  obtain ⟨_, rfl, going⟩ := ran_call.mp asking
  cases answer : outside w.asked (.getCephStatus first.1) with
  | error err =>
      rw [answer] at going
      obtain ⟨_, rfl, detected⟩ := ran_update.mp going
      obtain ⟨v', t', purging, final, rfl, purges, ends⟩ := ran_bind.mp detected
      exact ⟨[], purging, final, (), v', _, t', rfl, ran_done.mpr ⟨rfl, rfl, rfl⟩, purges, ends⟩
  | ok status =>
      rw [answer] at going
      obtain ⟨_, rfl, detected⟩ := ran_update.mp going
      obtain ⟨v, t, deleting, _, rfl, deletes, rest⟩ := ran_bind.mp detected
      obtain ⟨v', t', purging, final, rfl, purges, ends⟩ := ran_bind.mp rest
      exact ⟨deleting, purging, final, v, v', t, t', rfl, deletes, purges, ends⟩

theorem phaseOf_injective : Function.Injective phaseOf := by
  intro a b same
  cases a <;> cases b <;> first | rfl | exact nomatch same

theorem not_preflight :
    ¬("" = target.host ∧ StepPhase.destroyPreflight = target.phase) := by
  rintro ⟨_, same⟩
  cases target with
  | kind k => cases k <;> exact nomatch same
  | node n => exact nomatch same

theorem stepState_preflight {job : Job} :
    ((Update.succeedStep "" .destroyPreflight).apply
        ((Update.startStep "" .destroyPreflight).apply job)).stepState target.host target.phase =
      job.stepState target.host target.phase := by
  rw [@stepState_apply_of_not_sets _ _ _ (.succeedStep "" .destroyPreflight) not_preflight,
    @stepState_apply_of_not_sets _ _ _ (.startStep "" .destroyPreflight) not_preflight]

theorem not_about_preflight {status : Except String Unit} :
    ∀ entry ∈ preflight lead status, ¬About target entry.1 := by
  intro entry member
  simp only [preflight, List.mem_cons, List.not_mem_nil, or_false] at member
  rcases member with rfl | rfl | rfl
  · exact not_preflight
  · exact id
  · exact not_preflight

theorem apart_deleteKind (other : target ≠ .kind kind) :
    Only (fun c => ¬About target c) (deleteKind clients lead kind) := by
  have apart : ¬("" = target.host ∧ phaseOf kind = target.phase) := by
    rintro ⟨_, same⟩
    cases target with
    | kind k => exact other (by rw [phaseOf_injective same])
    | node n => cases kind <;> exact nomatch same
  exact only_deleteKind ⟨apart, apart, apart, other, fun _ _ => other, fun _ _ => id⟩

theorem apart_setNoout : Only (fun c => ¬About target c) (setNoout lead) := by
  have apart : ¬("" = target.host ∧ StepPhase.setNoout = target.phase) := by
    rintro ⟨_, same⟩
    cases target with
    | kind k => cases k <;> exact nomatch same
    | node n => exact nomatch same
  apply only_bind (only_update apart)
  intro _
  apply only_call id
  intro set
  cases set <;> exact only_update apart

theorem apart_purgeNode {client : Sigma fun _ : String => String}
    (other : target ≠ .node client.1) : Only (fun c => ¬About target c) (purgeNode client) := by
  have apart : ¬(client.1 = target.host ∧ StepPhase.cephPurge = target.phase) := by
    rintro ⟨sameHost, same⟩
    cases target with
    | kind k => cases k <;> exact nomatch same
    | node n => exact other (by rw [sameHost]; rfl)
  apply only_bind (only_update apart)
  intro _
  apply only_call other
  intro statuses
  split_ifs <;> exact only_update apart

theorem apart_finalize : Only (fun c => ¬About target c) finalizeDestroyResult := by
  apply only_steps id
  intro steps
  simp only
  split_ifs <;> exact only_update id

theorem ran_teardown {u : Unit} (kind : Kind)
    (ran : Ran (serve outside) (teardown clients lead) w h u w') :
    ∃ before turn after job, h = before ++ turn ++ after ∧ Outcome kind turn job ∧
      (∀ entry ∈ before, ¬About (.kind kind) entry.1) ∧
      (∀ entry ∈ after, ¬About (.kind kind) entry.1) ∧
      w'.job.stepState "" (phaseOf kind) = job.stepState "" (phaseOf kind) := by
  rw [teardown_eq] at ran
  obtain ⟨_, _, flag, phases, rfl, flagged, looped⟩ := ran_bind.mp ran
  obtain ⟨earlier, later, split, fresh, once⟩ := kinds_split kind
  obtain ⟨t, t', first, turn, last, v, rfl, begun, here, ended⟩ := ran_forM looped split
  have apart : ∀ l : List Kind, kind ∉ l →
      Only (fun c => ¬About (.kind kind) c) (l.forM (deleteKind clients lead)) := by
    intro l absent
    apply keeps_forM
    intro k member
    apply apart_deleteKind
    rintro ⟨⟩
    exact absent member
  refine ⟨flag ++ first, turn, last, t'.job, by simp, outcome_deleteKind here, ?_,
    issues_of_ran (apart later once) ended, stepState_of_ran (apart later once) ended⟩
  intro entry member
  rcases List.mem_append.mp member with member | member
  · exact issues_of_ran apart_setNoout flagged entry member
  · exact issues_of_ran (apart earlier fresh) begun entry member

/-- The phase of a kind has been run. -/
def Ended (kind : Kind) (h : List Entry) : Prop :=
  ⟨.update (.succeedStep "" (phaseOf kind)), ()⟩ ∈ h ∨
    ⟨.update (.failStep "" (phaseOf kind)), ()⟩ ∈ h

/-- A node is purged only after the phases of all kinds. -/
def PurgeLast (h : List Entry) : Prop :=
  ∀ before after node host statuses,
    h = before ++ (⟨.call (.runSSHCommand node host purgeLine), statuses⟩ : Entry) :: after →
      ∀ kind, Ended kind before

theorem ended_of_purgeLast (ordered : PurgeLast h) {node host : String} {statuses : String → Nat}
    (purged : (⟨.call (.runSSHCommand node host purgeLine), statuses⟩ : Entry) ∈ h) (kind : Kind) :
    Ended kind h := by
  obtain ⟨before, after, rfl⟩ := List.append_of_mem purged
  have ended := ordered before after node host statuses rfl kind
  exact ended.imp (List.mem_append_left _) (List.mem_append_left _)

/-- The status call of the preflight is answered. -/
def Detected (outside : Outside) (clients : Clients) : Prop :=
  ∀ client ∈ clients.entries.head?, ∃ status, outside 0 (.getCephStatus client.1) = .ok status

theorem prefix_of_split {A : Type} {pre rest before after : List A} {x : A} (absent : x ∉ pre)
    (same : pre ++ rest = before ++ x :: after) : pre <+: before := by
  rcases List.append_eq_append_iff.mp same with ⟨c, rfl, _⟩ | ⟨c, rfl, split⟩
  · exact List.prefix_append pre c
  · cases c with
    | nil => simp
    | cons y c =>
        obtain ⟨rfl, _⟩ := List.cons.inj split
        simp at absent

theorem not_about_purge {u : PUnit} {entries : List (Sigma fun _ : String => String)}
    (ran : Ran (serve outside) (entries.forM purgeNode) w h u w') :
    ∀ entry ∈ h, ¬About (.kind kind) entry.1 := by
  have only : Only (fun c => ¬About (.kind kind) c) (entries.forM purgeNode) :=
    keeps_forM fun client _ => apart_purgeNode nofun
  exact issues_of_ran only ran

theorem not_ended_of_not_about (apart : ∀ entry ∈ h, ¬About (.kind kind) entry.1) :
    ¬Ended kind h := by
  rintro (member | member)
  · exact apart _ member ⟨rfl, rfl⟩
  · exact apart _ member ⟨rfl, rfl⟩

theorem purgeNode_calls {client : Sigma fun _ : String => String} {u : Unit}
    (ran : Ran (serve outside) (purgeNode client) w h u w') :
    ∃ statuses, h = [⟨.update (.startStep client.1 .cephPurge), ()⟩,
        ⟨.call (.runSSHCommand client.1 (stripPort client.2) purgeLine), statuses⟩,
        ⟨.update (if statuses "tail -50" = 0 then .succeedStep client.1 .cephPurge
          else .failStep client.1 .cephPurge), ()⟩] ∧
      w'.job.stepState client.1 .cephPurge =
        some (if statuses "tail -50" = 0 then .succeeded else .failed) := by
  obtain ⟨_, rfl, calling⟩ := ran_update.mp ran
  obtain ⟨_, rfl, ending⟩ := ran_call.mp calling
  refine ⟨outside w.asked (.runSSHCommand client.1 (stripPort client.2) purgeLine), ?_⟩
  generalize outside w.asked (.runSSHCommand client.1 (stripPort client.2) purgeLine) =
    statuses at ending ⊢
  have exit : purgeLine.exitStatus statuses = statuses "tail -50" := rfl
  rw [exit] at ending
  by_cases zero : statuses "tail -50" = 0
  · rw [if_neg (not_not.mpr zero)] at ending
    obtain ⟨rfl, rfl⟩ := ran_last_update.mp ending
    simp [zero, Update.apply, stepState_setStep]
  · rw [if_pos zero] at ending
    obtain ⟨rfl, rfl⟩ := ran_last_update.mp ending
    simp [zero, Update.apply, stepState_setStep]

theorem client_of_startDestroy {req : DestroyRequest} {job : Job}
    (started : startDestroy clients req = .ok job) :
    ∃ first others, clients.entries = first :: others := by
  apply List.exists_cons_of_ne_nil
  intro empty
  rw [startDestroy, empty] at started
  split_ifs at started
  exact absurd rfl ‹_›

/-- A job that is started runs to its end, whatever is answered. -/
theorem exists_destroyed {req : DestroyRequest} {begun : Job} (outside : Outside)
    (started : startDestroy clients req = .ok begun) :
    ∃ h job, Destroyed outside clients req h job := by
  have total : ∀ c w, ∃ answer, serve outside c w = some answer := by
    intro c w
    cases c <;> exact ⟨_, rfl⟩
  obtain ⟨h, _, w, ran⟩ := exists_ran total (runDestroy clients) ⟨begun, 0⟩
  exact ⟨h, w.job, begun, w, started, ran, rfl⟩

theorem silent_teardown :
    Only (fun c => ∀ via host line, c ≠ .call (.runSSHCommand via host line))
      (teardown clients lead) := by
  rw [teardown_eq]
  apply only_bind
  · apply only_bind (only_update nofun)
    intro _
    apply only_call nofun
    intro set
    cases set <;> exact only_update nofun
  · intro _
    exact keeps_forM fun kind _ =>
      only_deleteKind ⟨nofun, nofun, nofun, nofun, fun _ _ => nofun, fun _ _ => nofun⟩

theorem detected_iff {first : Sigma fun _ : String => String}
    {others : List (Sigma fun _ : String => String)} (listed : clients.entries = first :: others) :
    Detected outside clients ↔ ∃ status, outside 0 (.getCephStatus first.1) = .ok status := by
  simp [Detected, listed]

theorem detected_of_purgeLast {req : DestroyRequest} {job : Job}
    (destroyed : Destroyed outside clients req h job) (ordered : PurgeLast h) :
    Detected outside clients := by
  obtain ⟨begun, w, started, ran, rfl⟩ := destroyed
  obtain ⟨first, others, listed⟩ := client_of_startDestroy started
  obtain ⟨deleting, purging, final, v, v', t, t', rfl, deletes, purges, ends⟩ :=
    ran_runDestroy listed ran
  rw [detected_iff listed]
  cases answer : outside 0 (.getCephStatus first.1) with
  | ok status => exact ⟨status, rfl⟩
  | error err =>
      have none_deleted : deletions clients first.1
          (outside (World.mk begun 0).asked (.getCephStatus first.1)) = pure () :=
        congrArg (deletions clients first.1) answer
      rw [none_deleted] at deletes
      obtain ⟨rfl, _⟩ := ran_done.mp deletes
      have apart_purging := @not_about_purge _ _ _ .fs _ _ _ purges
      have apart_final : ∀ entry ∈ final, ¬About (.kind .fs) entry.1 :=
        issues_of_ran apart_finalize ends
      obtain ⟨_, _, _, turn, _, _, rfl, _, here, _⟩ :=
        ran_forM purges (listed.trans (List.nil_append _).symm)
      obtain ⟨statuses, rfl, _⟩ := purgeNode_calls here
      have ended := @ended_of_purgeLast _ ordered first.1 (stripPort first.2) statuses
        (by simp) .fs
      refine absurd ended (not_ended_of_not_about ?_)
      intro entry member
      rw [List.append_nil] at member
      rcases List.mem_append.mp member with member | member
      · exact not_about_preflight entry member
      · rcases List.mem_append.mp member with member | member
        · exact apart_purging entry member
        · exact apart_final entry member

theorem purgeLast_of_detected {req : DestroyRequest} {job : Job}
    (destroyed : Destroyed outside clients req h job) (detected : Detected outside clients) :
    PurgeLast h := by
  obtain ⟨begun, w, started, ran, rfl⟩ := destroyed
  obtain ⟨first, others, listed⟩ := client_of_startDestroy started
  obtain ⟨deleting, purging, final, v, v', t, t', rfl, deletes, purges, ends⟩ :=
    ran_runDestroy listed ran
  obtain ⟨status, answer⟩ := (detected_iff listed).mp detected
  intro before after node host statuses split kind
  have teared : deletions clients first.1
      (outside (World.mk begun 0).asked (.getCephStatus first.1)) = teardown clients first.1 :=
    congrArg (deletions clients first.1) answer
  rw [teared] at deletes
  have silent : ∀ entry ∈ deleting, ∀ via host line,
      entry.1 ≠ .call (.runSSHCommand via host line) := issues_of_ran silent_teardown deletes
  have begins : preflight first.1 (outside (World.mk begun 0).asked (.getCephStatus first.1)) ++
      deleting <+: before := by
    apply @prefix_of_split Entry _ (purging ++ final) before after _ _ split
    intro member
    rcases List.mem_append.mp member with member | member
    · exact @not_about_preflight _ (.node node) _ _ member rfl
    · exact silent _ member _ _ _ rfl
  obtain ⟨pre, turn, post, _, rfl, outcome, _⟩ := ran_teardown kind deletes
  have inside : ∀ entry ∈ turn, entry ∈ before := by
    intro entry member
    exact begins.subset (by simp [member])
  exact outcome.ended.imp (inside _) (inside _)

section Lab

def labClients : Clients :=
  ((∅ : FiniteMap.Map String String).insert "pve2" "10.0.0.2:8006").insert "pve1" "10.0.0.1:8006"

def labRequest : DestroyRequest := ⟨"lab", "lab"⟩

/-- A cluster with an OSD on its first node, whose status calls, lists of file systems and
purges end as given. -/
def labOutside (status : Except String Unit) (fs : Except String (List String))
    (exits : String → Nat) : Outside
  | _, .getCephStatus _ => status
  | _, .setCephFlag _ _ _ => .ok ()
  | _, .list .fs _ => fs
  | _, .list .osd _ => .ok [⟨0, "pve1"⟩]
  | _, .list .pool _ | _, .list .mds _ | _, .list .mgr _ | _, .list .mon _ => .ok []
  | _, .delete _ _ _ => .ok "UPID:pve1:task:"
  | _, .waitForTask _ _ => .ok ()
  | _, .runSSHCommand _ _ _ => exits
  | _, .getNodeDetails _ => .ok "8.3.5"
  | _, .runSSHScript _ _ _ | _, .initCephCluster _ _ _ _ _ => .ok ()
  | _, .createCephMON _ | _, .createCephMGR _ => .ok "UPID:pve1:task:"
  | _, .cephHealth _ => .ok "HEALTH_OK"
  | _, .pollsBeforeDeadline => 60

theorem labDestroyed (outside : Outside) :
    ∃ h job, Destroyed outside labClients labRequest h job := exists_destroyed outside rfl

end Lab

/-- Every node is purged only after the teardown iff the status call is answered. -/
theorem purgeLast_iff_detected (outside : Outside) (clients : Clients) (req : DestroyRequest)
    (h : List Entry) (job : Job) (destroyed : Destroyed outside clients req h job) :
    PurgeLast h ↔ Detected outside clients :=
  ⟨detected_of_purgeLast destroyed, purgeLast_of_detected destroyed⟩

theorem purgeLast_in_lab : ∃ h job,
    Destroyed (labOutside (.ok ()) (.ok []) fun _ => 0) labClients labRequest h job ∧
      PurgeLast h := by
  obtain ⟨h, job, destroyed⟩ := labDestroyed (labOutside (.ok ()) (.ok []) fun _ => 0)
  refine ⟨h, job, destroyed, ?_⟩
  refine (purgeLast_iff_detected _ _ _ h job destroyed).mpr ?_
  intro client _
  exact ⟨(), rfl⟩

/-- An OSD or a MON exists when the job starts. -/
def Configured (outside : Outside) (clients : Clients) : Prop :=
  ∀ client ∈ clients.entries.head?,
    (∃ osds, outside 0 (.list .osd client.1) = .ok osds ∧ osds ≠ []) ∨
      ∃ mons, outside 0 (.list .mon client.1) = .ok mons ∧ mons ≠ []

theorem purged_before_teardown :
    ¬∀ (outside : Outside) (clients : Clients) (req : DestroyRequest) (h : List Entry) (job : Job),
      Configured outside clients → Destroyed outside clients req h job → PurgeLast h := by
  intro always
  have refused : labOutside (.error "connection refused") (.ok []) (fun _ => 0) 0
      (.getCephStatus "pve1") = .error "connection refused" := rfl
  obtain ⟨h, job, destroyed⟩ :=
    labDestroyed (labOutside (.error "connection refused") (.ok []) fun _ => 0)
  have ordered := always _ _ _ h job
    (fun client _ => .inl ⟨[⟨0, "pve1"⟩], rfl, List.cons_ne_nil _ _⟩) destroyed
  obtain ⟨status, answered⟩ :=
    detected_of_purgeLast destroyed ordered ⟨"pve1", "10.0.0.1:8006"⟩ rfl
  exact nomatch refused.symm.trans answered

end Whole

section Report

variable {clients : Clients} {lead : String} {outside : Outside} {w w' : World} {kind : Kind}
  {node : String} {h : List Entry} {req : DestroyRequest} {job begun : Job}

/-- `pveceph purge` itself exited with status zero on the node. -/
def Purged (node : String) (h : List Entry) : Prop :=
  ∃ host statuses, (⟨.call (.runSSHCommand node host purgeLine), statuses⟩ : Entry) ∈ h ∧
    statuses purgeProgram = 0

/-- What the record calls succeeded did succeed. -/
structure Truthful (h : List Entry) (job : Job) : Prop where
  kinds : ∀ kind, job.stepState "" (phaseOf kind) = some .succeeded → Deleted kind h
  purges : ∀ node, job.stepState node .cephPurge = some .succeeded → Purged node h
  ends : job.state = .succeeded → ∃ node, Purged node h

/-- Every list but that of the OSDs is got, and no purge fails behind a `tail` that does not. -/
structure Plain (h : List Entry) : Prop where
  lists : ∀ kind, kind ≠ .osd → ¬ListFailed kind h
  tails : ∀ node host statuses,
    (⟨.call (.runSSHCommand node host purgeLine), statuses⟩ : Entry) ∈ h →
      statuses "tail -50" = 0 → statuses purgeProgram = 0

theorem steps_of_startDestroy (started : startDestroy clients req = .ok begun) :
    begun.steps = destroyClusterPhases.map (⟨"", ·, .pending⟩) ++
      clients.entries.map fun client => ⟨client.1, .cephPurge, .pending⟩ := by
  rw [startDestroy] at started
  split_ifs at started
  obtain rfl := Except.ok.inj started
  rfl

theorem pending_of_startDestroy (started : startDestroy clients req = .ok begun) {host : String}
    {phase : StepPhase} {state : StepState} (found : begun.stepState host phase = some state) :
    state = .pending := by
  obtain ⟨step, listed, rfl⟩ := Option.map_eq_some_iff.mp found
  have member := List.mem_of_find?_eq_some listed
  rw [steps_of_startDestroy started, List.mem_append] at member
  rcases member with member | member
  · obtain ⟨_, _, rfl⟩ := List.mem_map.mp member
    rfl
  · obtain ⟨_, _, rfl⟩ := List.mem_map.mp member
    rfl

theorem nodup_of_startDestroy (started : startDestroy clients req = .ok begun) :
    begun.keys.Nodup := by
  rw [Job.keys, steps_of_startDestroy started, List.map_append, List.map_map, List.map_map,
    List.nodup_append]
  refine ⟨by decide, ?_, ?_⟩
  · have nodup : (clients.entries.map Sigma.fst).Nodup := clients.nodupKeys
    have paired := nodup.map (fun a b same => (Prod.mk.inj same).1 :
      Function.Injective fun name : String => (name, StepPhase.cephPurge))
    rwa [List.map_map] at paired
  · intro key member key' member' same
    subst same
    obtain ⟨phase, listed, rfl⟩ := List.mem_map.mp member
    obtain ⟨_, _, same⟩ := List.mem_map.mp member'
    obtain ⟨_, rfl⟩ := Prod.mk.inj same
    exact absurd listed (by simp [destroyClusterPhases])

/-- A part of a history outside of which nothing concerns the target. -/
def Concerns (target : Target) (h turn : List Entry) : Prop :=
  ∀ entry : Entry, About target entry.1 → (entry ∈ h ↔ entry ∈ turn)

theorem concerns_of_apart {target : Target} {before turn after : List Entry}
    (apart_before : ∀ entry ∈ before, ¬About target entry.1)
    (apart_after : ∀ entry ∈ after, ¬About target entry.1) :
    Concerns target (before ++ turn ++ after) turn := by
  intro entry about
  simp only [List.mem_append]
  constructor
  · rintro ((member | member) | member)
    · exact absurd about (apart_before entry member)
    · exact member
    · exact absurd about (apart_after entry member)
  · exact fun member => .inl (.inr member)

theorem kind_of_destroyed (destroyed : Destroyed outside clients req h job) (kind : Kind) :
    (∀ entry ∈ h, ¬About (.kind kind) entry.1) ∧
        job.stepState "" (phaseOf kind) ≠ some .succeeded ∨
      ∃ turn job', Outcome kind turn job' ∧ Concerns (.kind kind) h turn ∧
        job.stepState "" (phaseOf kind) = job'.stepState "" (phaseOf kind) := by
  obtain ⟨begun, w, started, ran, rfl⟩ := destroyed
  obtain ⟨first, others, listed⟩ := client_of_startDestroy started
  obtain ⟨deleting, purging, final, v, v', t, t', rfl, deletes, purges, ends⟩ :=
    ran_runDestroy listed ran
  have apart_purging : ∀ entry ∈ purging, ¬About (.kind kind) entry.1 := not_about_purge purges
  have apart_final : ∀ entry ∈ final, ¬About (.kind kind) entry.1 :=
    issues_of_ran apart_finalize ends
  have purge_keeps : t'.job.stepState "" (phaseOf kind) = t.job.stepState "" (phaseOf kind) :=
    @stepState_of_ran _ _ _ _ _ _ (.kind kind) _
      (keeps_forM fun client _ => apart_purgeNode nofun) purges
  have final_keeps : w.job.stepState "" (phaseOf kind) = t'.job.stepState "" (phaseOf kind) :=
    @stepState_of_ran _ _ _ _ _ _ (.kind kind) _ apart_finalize ends
  have apart_after : ∀ entry ∈ purging ++ final, ¬About (.kind kind) entry.1 := by
    intro entry member
    rcases List.mem_append.mp member with member | member
    · exact apart_purging entry member
    · exact apart_final entry member
  rw [final_keeps, purge_keeps]
  cases answer : outside 0 (.getCephStatus first.1) with
  | error err =>
      have none_deleted : deletions clients first.1
          (outside (World.mk begun 0).asked (.getCephStatus first.1)) = pure () :=
        congrArg (deletions clients first.1) answer
      rw [none_deleted] at deletes
      obtain ⟨rfl, _, rfl⟩ := ran_done.mp deletes
      left
      constructor
      · intro entry member
        rw [List.append_nil] at member
        rcases List.mem_append.mp member with member | member
        · exact not_about_preflight entry member
        · exact apart_after entry member
      · intro succeeded
        have pending := pending_of_startDestroy started
          ((@stepState_preflight (.kind kind) begun).symm.trans succeeded)
        exact nomatch pending
  | ok status =>
      have teared : deletions clients first.1
          (outside (World.mk begun 0).asked (.getCephStatus first.1)) =
            teardown clients first.1 :=
        congrArg (deletions clients first.1) answer
      rw [teared] at deletes
      obtain ⟨before, turn, after, job', rfl, outcome, apart_before, apart_later, same⟩ :=
        ran_teardown kind deletes
      refine .inr ⟨turn, job', outcome, ?_, same⟩
      have whole : ∀ status : Except String Unit,
          preflight first.1 status ++ (before ++ turn ++ after) ++ (purging ++ final) =
            (preflight first.1 status ++ before) ++ turn ++ (after ++ (purging ++ final)) := by
        intro status
        simp only [List.append_assoc]
      rw [whole]
      apply concerns_of_apart
      · intro entry member
        rcases List.mem_append.mp member with member | member
        · exact not_about_preflight entry member
        · exact apart_before entry member
      · intro entry member
        rcases List.mem_append.mp member with member | member
        · exact apart_later entry member
        · exact apart_after entry member

theorem deleted_iff_of_concerns {turn : List Entry} (same : Concerns (.kind kind) h turn) :
    Deleted kind h ↔ Deleted kind turn := by
  have list : ∀ via r, (⟨.call (.list kind via), r⟩ : Entry) ∈ h ↔ ⟨.call (.list kind via), r⟩ ∈ turn :=
    fun via r => same ⟨.call (.list kind via), r⟩ rfl
  have delete : ∀ via item r, (⟨.call (.delete kind via item), r⟩ : Entry) ∈ h ↔
      ⟨.call (.delete kind via item), r⟩ ∈ turn :=
    fun via item r => same ⟨.call (.delete kind via item), r⟩ rfl
  simp only [Deleted, Succeeds, NoFailure, list, delete]

theorem listFailed_iff_of_concerns {turn : List Entry} (same : Concerns (.kind kind) h turn) :
    ListFailed kind h ↔ ListFailed kind turn := by
  have list : ∀ via r, (⟨.call (.list kind via), r⟩ : Entry) ∈ h ↔ ⟨.call (.list kind via), r⟩ ∈ turn :=
    fun via r => same ⟨.call (.list kind via), r⟩ rfl
  simp only [ListFailed, list]

theorem kind_truthful_iff (destroyed : Destroyed outside clients req h job) (kind : Kind) :
    (job.stepState "" (phaseOf kind) = some .succeeded → Deleted kind h) ↔
      (kind ≠ .osd → ¬ListFailed kind h) := by
  rcases kind_of_destroyed destroyed kind with ⟨apart, unfinished⟩ | ⟨turn, job', outcome, same, state⟩
  · constructor
    · rintro _ _ ⟨via, err, member⟩
      exact apart _ member rfl
    · exact fun _ succeeded => absurd succeeded unfinished
  · rw [state, deleted_iff_of_concerns same, listFailed_iff_of_concerns same]
    constructor
    · intro truthful other failed
      obtain ⟨succeeded, undeleted⟩ := outcome.blind other failed
      exact undeleted (truthful succeeded)
    · intro got succeeded
      rcases outcome.succeeded succeeded with deleted | ⟨other, failed⟩
      · exact deleted
      · exact absurd failed (got other)

theorem apart_teardown : Only (fun c => ¬About (.node node) c) (teardown clients lead) := by
  rw [teardown_eq]
  apply only_bind apart_setNoout
  intro _
  exact keeps_forM fun kind _ => apart_deleteKind nofun

theorem apart_runDestroy (absent : ∀ client ∈ clients.entries, client.1 ≠ node) :
    Only (fun c => ¬About (.node node) c) (runDestroy clients) := by
  have apart_purge : Only (fun c => ¬About (.node node) c) (runPurgeAcrossNodes clients) := by
    apply keeps_forM
    intro client member
    apply apart_purgeNode
    rintro ⟨⟩
    exact absent client member rfl
  have apart_ending : Only (fun c => ¬About (.node node) c)
      (runPurgeAcrossNodes clients >>= fun _ => finalizeDestroyResult) :=
    only_bind apart_purge fun _ => apart_finalize
  rw [runDestroy]
  cases clients.entries with
  | nil => exact keeps_done _
  | cons first others =>
      apply only_bind (only_update (@not_preflight (.node node)))
      intro _
      apply only_call id
      intro status
      cases status with
      | error err =>
          exact only_bind (only_update (@not_preflight (.node node))) fun _ => apart_ending
      | ok _ =>
          apply only_bind (only_update (@not_preflight (.node node)))
          intro _
          exact only_bind apart_teardown fun _ => apart_ending

/-- What is done about a node. -/
def purgeTurn (client : Sigma fun _ : String => String) (statuses : String → Nat) : List Entry :=
  [⟨.update (.startStep client.1 .cephPurge), ()⟩,
    ⟨.call (.runSSHCommand client.1 (stripPort client.2) purgeLine), statuses⟩,
    ⟨.update (if statuses "tail -50" = 0 then .succeedStep client.1 .cephPurge
      else .failStep client.1 .cephPurge), ()⟩]

theorem client_inj {client other : Sigma fun _ : String => String}
    {before after : List (Sigma fun _ : String => String)}
    (split : clients.entries = before ++ client :: after)
    (member : other ∈ before ∨ other ∈ after) : other.1 ≠ client.1 := by
  have nodup : (clients.entries.map Sigma.fst).Nodup := clients.nodupKeys
  rw [split, List.map_append, List.map_cons, List.nodup_middle, List.nodup_cons] at nodup
  intro same
  apply nodup.1
  rw [← same, List.mem_append]
  exact member.imp List.mem_map_of_mem List.mem_map_of_mem

theorem purge_of_destroyed (destroyed : Destroyed outside clients req h job)
    {client : Sigma fun _ : String => String} (member : client ∈ clients.entries) :
    ∃ statuses, Concerns (.node client.1) h (purgeTurn client statuses) ∧
      job.stepState client.1 .cephPurge =
        some (if statuses "tail -50" = 0 then .succeeded else .failed) := by
  obtain ⟨begun, w, started, ran, rfl⟩ := destroyed
  obtain ⟨first, others, listed⟩ := client_of_startDestroy started
  obtain ⟨deleting, purging, final, v, v', t, t', rfl, deletes, purges, ends⟩ :=
    ran_runDestroy listed ran
  obtain ⟨before, after, split⟩ := List.append_of_mem member
  have apart : ∀ l : List (Sigma fun _ : String => String), (∀ other ∈ l, other.1 ≠ client.1) →
      Only (fun c => ¬About (.node client.1) c) (l.forM purgeNode) := by
    intro l absent
    apply keeps_forM
    intro other inside
    apply apart_purgeNode
    intro same
    exact absent other inside (Target.node.inj same).symm
  have apart_after := apart after fun other inside => client_inj split (.inr inside)
  obtain ⟨s, s', earlier, turn, later, _, rfl, begins, here, goes⟩ := ran_forM purges split
  obtain ⟨statuses, rfl, state⟩ := purgeNode_calls here
  have apart_deleting : Only (fun c => ¬About (.node client.1) c)
      (deletions clients first.1 (outside (World.mk begun 0).asked (.getCephStatus first.1))) := by
    cases outside (World.mk begun 0).asked (.getCephStatus first.1) with
    | error err => exact keeps_done _
    | ok _ => exact apart_teardown
  have purge_keeps : t'.job.stepState client.1 .cephPurge = s'.job.stepState client.1 .cephPurge :=
    @stepState_of_ran _ _ _ _ _ _ (.node client.1) _ apart_after goes
  have final_keeps : w.job.stepState client.1 .cephPurge = t'.job.stepState client.1 .cephPurge :=
    @stepState_of_ran _ _ _ _ _ _ (.node client.1) _ apart_finalize ends
  refine ⟨statuses, ?_, final_keeps.trans (purge_keeps.trans state)⟩
  have whole : ∀ begins : List Entry,
      begins ++ deleting ++ (earlier ++ purgeTurn client statuses ++ later ++ final) =
        (begins ++ deleting ++ earlier) ++ purgeTurn client statuses ++ (later ++ final) := by
    intro begins
    simp only [List.append_assoc]
  change Concerns _ (_ ++ deleting ++ (earlier ++ purgeTurn client statuses ++ later ++ final)) _
  rw [whole]
  apply concerns_of_apart
  · intro entry inside
    rcases List.mem_append.mp inside with inside | inside
    · rcases List.mem_append.mp inside with inside | inside
      · exact not_about_preflight entry inside
      · exact issues_of_ran apart_deleting deletes entry inside
    · exact issues_of_ran (apart before fun other inside => client_inj split (.inl inside)) begins
        entry inside
  · intro entry inside
    rcases List.mem_append.mp inside with inside | inside
    · exact issues_of_ran apart_after goes entry inside
    · exact issues_of_ran apart_finalize ends entry inside

theorem no_purge_of_destroyed (destroyed : Destroyed outside clients req h job)
    (absent : ∀ client ∈ clients.entries, client.1 ≠ node) :
    (∀ entry ∈ h, ¬About (.node node) entry.1) ∧
      job.stepState node .cephPurge ≠ some .succeeded := by
  obtain ⟨begun, w, started, ran, rfl⟩ := destroyed
  have apart : Only (fun c => ¬About (.node node) c) (runDestroy clients) :=
    apart_runDestroy absent
  refine ⟨issues_of_ran apart ran, ?_⟩
  intro succeeded
  have same : w.job.stepState node .cephPurge = begun.stepState node .cephPurge :=
    @stepState_of_ran _ _ _ _ _ _ (.node node) _ apart ran
  exact nomatch pending_of_startDestroy started (same.symm.trans succeeded)

theorem purge_once (destroyed : Destroyed outside clients req h job)
    {client : Sigma fun _ : String => String} (member : client ∈ clients.entries) :
    ∃ statuses, (∀ host other,
        (⟨.call (.runSSHCommand client.1 host purgeLine), other⟩ : Entry) ∈ h ↔
          host = stripPort client.2 ∧ other = statuses) ∧
      job.stepState client.1 .cephPurge =
        some (if statuses "tail -50" = 0 then .succeeded else .failed) := by
  obtain ⟨statuses, same, state⟩ := purge_of_destroyed destroyed member
  refine ⟨statuses, ?_, state⟩
  intro host other
  rw [same ⟨.call (.runSSHCommand client.1 host purgeLine), other⟩ rfl, purgeTurn]
  constructor
  · intro inside
    simpa using inside
  · rintro ⟨rfl, rfl⟩
    simp

theorem purge_truthful_iff (destroyed : Destroyed outside clients req h job) (node : String) :
    (job.stepState node .cephPurge = some .succeeded → Purged node h) ↔
      ∀ host statuses, (⟨.call (.runSSHCommand node host purgeLine), statuses⟩ : Entry) ∈ h →
        statuses "tail -50" = 0 → statuses purgeProgram = 0 := by
  by_cases found : ∃ client ∈ clients.entries, client.1 = node
  · obtain ⟨client, member, rfl⟩ := found
    obtain ⟨statuses, once, state⟩ := purge_once destroyed member
    simp only [Purged, once, state]
    constructor
    · rintro truthful _ _ ⟨rfl, rfl⟩ zero
      obtain ⟨_, _, ⟨rfl, rfl⟩, purged⟩ := truthful (by rw [if_pos zero])
      exact purged
    · intro honest succeeded
      refine ⟨_, statuses, ⟨rfl, rfl⟩, honest _ statuses ⟨rfl, rfl⟩ ?_⟩
      by_contra failed
      rw [if_neg failed] at succeeded
      exact nomatch succeeded
  · have absent : ∀ client ∈ clients.entries, client.1 ≠ node :=
      fun client member same => found ⟨client, member, same⟩
    obtain ⟨apart, unfinished⟩ := no_purge_of_destroyed destroyed absent
    constructor
    · intro _ host statuses member _
      exact absurd rfl (apart _ member)
    · exact fun _ succeeded => absurd succeeded unfinished

theorem nodup_of_ran {A : Type} {a : A} {p : Code A} (ran : Ran (serve outside) p w h a w')
    (nodup : w.job.keys.Nodup) : w'.job.keys.Nodup := by
  refine @invariant_of_ran Cmd World A Answer (fun _ => True) (fun t => t.job.keys.Nodup)
    _ p w w' h a ?_ (keeps_of_forall (fun _ => trivial) p) ran nodup
  intro c s r s' _ answered nodup
  cases c with
  | update u =>
      obtain ⟨_, rfl⟩ := Prod.mk.inj (Option.some.inj answered)
      exact nodup_keys_apply u nodup
  | _ =>
      obtain ⟨_, rfl⟩ := Prod.mk.inj (Option.some.inj answered)
      exact nodup

theorem ran_finalize {u : Unit} (ran : Ran (serve outside) finalizeDestroyResult w h u w') :
    w'.job.steps = w.job.steps ∧
      (w'.job.state = .succeeded → (∃ step ∈ w.job.steps, step.phase = .cephPurge) →
        ∃ step ∈ w.job.steps, step.phase = .cephPurge ∧ step.state = .succeeded) := by
  obtain ⟨_, rfl, going⟩ := ran_steps.mp ran
  simp only at going
  split_ifs at going with failed
  · obtain ⟨_, rfl⟩ := ran_last_update.mp going
    exact ⟨rfl, nofun⟩
  · obtain ⟨_, rfl⟩ := ran_last_update.mp going
    refine ⟨rfl, ?_⟩
    rintro _ ⟨step, member, purge⟩
    have attempted : (w.job.steps.filter (·.phase = .cephPurge)).length > 0 := by
      apply List.length_pos_of_mem (List.mem_filter.mpr ⟨member, by simpa using purge⟩)
    have some_succeeded : ((w.job.steps.filter (·.phase = .cephPurge)).filter
        (·.state = .succeeded)).length > 0 := by omega
    obtain ⟨done, listed⟩ := List.exists_mem_of_length_pos some_succeeded
    simp only [List.mem_filter, decide_eq_true_eq] at listed
    exact ⟨done, listed.1.1, listed.1.2, listed.2⟩

theorem exists_step_of_stepState {host : String} {phase : StepPhase} {state : StepState}
    (found : job.stepState host phase = some state) :
    ∃ step ∈ job.steps, step.phase = phase := by
  obtain ⟨step, listed, _⟩ := Option.map_eq_some_iff.mp found
  have here := List.find?_some listed
  simp only [decide_eq_true_eq] at here
  exact ⟨step, List.mem_of_find?_eq_some listed, here.2⟩

theorem exists_purge_step (destroyed : Destroyed outside clients req h job)
    (ended : job.state = .succeeded) :
    ∃ node, job.stepState node .cephPurge = some .succeeded := by
  have whole := destroyed
  obtain ⟨begun, w, started, ran, rfl⟩ := destroyed
  obtain ⟨first, others, listed⟩ := client_of_startDestroy started
  have nodup := nodup_of_ran ran (nodup_of_startDestroy started)
  obtain ⟨statuses, _, state⟩ := purge_of_destroyed whole
    (listed ▸ List.mem_cons_self : first ∈ clients.entries)
  obtain ⟨_, _, _, _, _, _, _, _, _, _, ends⟩ := ran_runDestroy listed ran
  obtain ⟨same, purged⟩ := ran_finalize ends
  rw [← same] at purged
  obtain ⟨step, member, purge, succeeded⟩ := purged ended (exists_step_of_stepState state)
  refine ⟨step.host, ?_⟩
  rw [← purge, stepState_of_mem nodup member, succeeded]

/-- What the record calls succeeded did succeed iff every list but that of the OSDs is got and
no failed purge has a `tail` that succeeds. -/
theorem truthful_iff_plain (outside : Outside) (clients : Clients) (req : DestroyRequest)
    (h : List Entry) (job : Job) (destroyed : Destroyed outside clients req h job) :
    Truthful h job ↔ Plain h := by
  constructor
  · intro truthful
    exact ⟨fun kind => (kind_truthful_iff destroyed kind).mp (truthful.kinds kind),
      fun node => (purge_truthful_iff destroyed node).mp (truthful.purges node)⟩
  · intro plain
    have purges : ∀ node, job.stepState node .cephPurge = some .succeeded → Purged node h :=
      fun node => (purge_truthful_iff destroyed node).mpr (plain.tails node)
    refine ⟨fun kind => (kind_truthful_iff destroyed kind).mpr (plain.lists kind), purges, ?_⟩
    intro ended
    obtain ⟨node, succeeded⟩ := exists_purge_step destroyed ended
    exact ⟨node, purges node succeeded⟩

/-- The answers of the outside. -/
def Genuine (outside : Outside) : (c : Cmd) → Answer c → Prop
  | .update _, _ => True
  | .steps, _ => True
  | .call remote, r => ∃ n, r = outside n remote

theorem answered_of_ran {A : Type} {a : A} {p : Code A} (ran : Ran (serve outside) p w h a w')
    {remote : Remote} {r : Reply remote} (member : (⟨.call remote, r⟩ : Entry) ∈ h) :
    ∃ n, r = outside n remote := by
  have sound : ∀ c s r s', serve outside c s = some (r, s') → Genuine outside c r := by
    intro c s r s' served
    cases c with
    | call remote =>
        obtain ⟨rfl, _⟩ := Prod.mk.inj (Option.some.inj served)
        exact ⟨_, rfl⟩
    | _ => exact trivial
  exact (keeps_of_ran sound (keeps_of_forall (fun _ : Cmd => trivial) p) ran _ member).2

theorem answered_of_destroyed (destroyed : Destroyed outside clients req h job) {remote : Remote}
    {r : Reply remote} (member : (⟨.call remote, r⟩ : Entry) ∈ h) : ∃ n, r = outside n remote := by
  obtain ⟨_, _, _, ran, _⟩ := destroyed
  exact answered_of_ran ran member

theorem truthful_in_lab : ∃ h job,
    Destroyed (labOutside (.ok ()) (.ok []) fun _ => 0) labClients labRequest h job ∧
      Truthful h job := by
  obtain ⟨h, job, destroyed⟩ := labDestroyed (labOutside (.ok ()) (.ok []) fun _ => 0)
  refine ⟨h, job, destroyed, ?_⟩
  refine (truthful_iff_plain _ _ _ h job destroyed).mpr ⟨?_, ?_⟩
  · rintro kind _ ⟨via, err, member⟩
    obtain ⟨_, answered⟩ := answered_of_destroyed destroyed member
    cases kind <;> exact nomatch answered
  · intro node host statuses member _
    obtain ⟨_, rfl⟩ := answered_of_destroyed destroyed member
    rfl

/-- A purge that fails on every node, behind a `tail` that does not. -/
def failedPurge : Outside :=
  labOutside (.ok ()) (.ok []) fun program => if program = purgeProgram then 1 else 0

theorem failure_reported_succeeded :
    ¬∀ (outside : Outside) (clients : Clients) (req : DestroyRequest) (h : List Entry) (job : Job),
      Destroyed outside clients req h job → Truthful h job := by
  intro always
  obtain ⟨h, job, destroyed⟩ := labDestroyed failedPurge
  have member : (⟨"pve1", "10.0.0.1:8006"⟩ : Sigma fun _ : String => String) ∈ labClients.entries :=
    List.mem_cons_self
  obtain ⟨statuses, same, state⟩ := purge_of_destroyed destroyed member
  have exits : ∀ host statuses,
      (⟨.call (.runSSHCommand "pve1" host purgeLine), statuses⟩ : Entry) ∈ h →
        statuses = fun program => if program = purgeProgram then 1 else 0 := by
    intro host statuses listed
    obtain ⟨_, answered⟩ := answered_of_destroyed destroyed listed
    exact answered
  have listed := (same ⟨.call (.runSSHCommand "pve1" (stripPort "10.0.0.1:8006") purgeLine), statuses⟩
    rfl).mpr (by simp [purgeTurn])
  obtain rfl := exits _ _ listed
  have succeeded : job.stepState "pve1" .cephPurge = some .succeeded := state
  obtain ⟨_, _, purged, zero⟩ := (always _ _ _ h job destroyed).purges "pve1" succeeded
  obtain rfl := exits _ _ purged
  exact absurd zero (by decide)

end Report

end CephCluster
