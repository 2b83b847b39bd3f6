import PCenter.CephInstallRuns
import PCenter.Lib.Transition

/-!
# The Ceph jobs of the manager

Install and destroy jobs side by side. A request only looks at itself; a job that is started is
put into the registry and goes on one command at a time, whatever the other jobs do. A job that
has several commands under way at once is here at one of them until it is at none, so that it
is at work as long as in the source. The identifier of a job is its place in the registry.
-/

namespace CephCluster

open Program Transition

/-- A job and what it has still to do. -/
structure Live where
  job : Job
  code : Code Unit

/-- `Manager.jobs`, in the order in which they were started. -/
abbrev Manager := List Live

/-- `StartInstall` and `StartDestroy`, with the clients that the poller has. -/
def startJob (fmt : Formats) (clients : Clients) : Request → Option Live
  | .install req =>
      (startInstall req).toOption.map fun started => ⟨started.2, runInstall fmt clients started.1⟩
  | .destroy req => (startDestroy clients req).toOption.map fun job => ⟨job, runDestroy clients⟩

/-- The next command of a job, a call with the answer given. -/
def Live.advance (live : Live) (answers : (remote : Remote) → Reply remote) : Live :=
  match live.code with
  | .done _ => live
  | .act (.update u) next => ⟨u.apply live.job, next ()⟩
  | .act .steps next => ⟨live.job, next live.job.steps⟩
  | .act (.call remote) next => ⟨live.job, next (answers remote)⟩

inductive Event where
  | start (req : Request) (clients : Clients)
  | advance (i : ℕ) (answers : (remote : Remote) → Reply remote)

def step (fmt : Formats) (m : Manager) : Event → Manager
  | .start req clients => m ++ (startJob fmt clients req).toList
  | .advance i answers => m.modify i (·.advance answers)

/-- The job has commands left. -/
def Live.AtWork (live : Live) : Prop :=
  match live.code with
  | .done _ => False
  | .act _ _ => True

/-- One job of a cluster at a time: one that is recorded as running, and one that is at work. -/
structure Exclusive (m : Manager) : Prop where
  running : ∀ (i j : ℕ) (a b : Live), m[i]? = some a → m[j]? = some b →
    a.job.cluster = b.job.cluster → a.job.state = .running → b.job.state = .running → i = j
  apart : ∀ (i j : ℕ) (a b : Live), m[i]? = some a → m[j]? = some b →
    a.job.cluster = b.job.cluster → a.AtWork → b.AtWork → i = j

/-- A job is started only while no other job of its cluster is recorded as running. -/
def Alone (fmt : Formats) (m : Manager) : Event → Prop
  | .start req clients =>
      ∀ live, startJob fmt clients req = some live →
        ∀ other ∈ m, other.job.cluster = live.job.cluster → other.job.state ≠ .running
  | .advance _ _ => True

section Marks

variable {clients : Clients} {lead founder node : String} {nodes : List String}

def IsMark : Cmd → Prop
  | .update (.markFailed _) | .update .markSucceeded => True
  | _ => False

/-- The program ends with marking the job, on every path. -/
abbrev Marks (code : Code Unit) : Prop := MarksLast IsMark (fun _ => False) (fun _ => True) code

/-- The phase marks the job, last, iff it fails. -/
abbrev MarksFailure (phase : Code Bool) : Prop :=
  MarksLast IsMark (· = true) (· = false) phase

theorem marks_update {u : Update} (mark : IsMark (.update u)) : Marks (update u) :=
  ⟨fun _ _ => ⟨(), rfl, trivial⟩, fun other => absurd mark other⟩

theorem marks_proceed {phase : Code Bool} {next : Code Unit} (first : MarksFailure phase)
    (later : Marks next) : Marks (proceed phase next) := by
  apply marksLast_bind first
  · rintro _ rfl
    exact later
  · rintro _ rfl
    exact ⟨(), rfl, trivial⟩

theorem marksFailure_fail {err : String} :
    MarksFailure (fail none err >>= fun _ => pure false) :=
  ⟨fun _ _ => ⟨false, rfl, rfl⟩, fun other => absurd trivial other⟩

theorem marksFailure_step {u : Update} (step : ¬IsMark (.update u)) {next : Code Bool}
    (later : MarksFailure next) : MarksFailure (update u >>= fun _ => next) :=
  ⟨fun mark => absurd mark step, fun _ _ => later⟩

theorem marksFailure_call {remote : Remote} {next : Reply remote → Code Bool}
    (later : ∀ r, MarksFailure (next r)) : MarksFailure (issue (.call remote) >>= next) :=
  ⟨fun mark => mark.elim, fun _ r => later r⟩

theorem not_isMark (u : Update) (step : u.mark = none) : ¬IsMark (.update u) := by
  cases u with
  | startStep host phase | succeedStep host phase | failStep host phase => exact id
  | markFailed error => exact nomatch step
  | markSucceeded => exact nomatch step

variable {fmt : Formats} {req : InstallRequest}

theorem marksFailure_runInstallPreflightPhase :
    MarksFailure (runInstallPreflightPhase fmt clients nodes) := by
  apply marksLast_after (keeps_forM fun node _ => only_update id)
  intro _
  apply marksLast_after
  · apply only_bind (only_checkHosts (fun _ => id) fun _ => id)
    intro hosts
    split_ifs <;> exact keeps_done _
  · intro pre
    apply marksLast_after
    · apply keeps_forM
      intro hr _
      rw [endPreflight_eq]
      exact only_update (not_isMark _ (mark_endUpdate hr))
    · intro _
      split_ifs with may
      · exact rfl
      · exact marksFailure_fail

theorem marksFailure_runInstallPackagesPhase :
    MarksFailure (runInstallPackagesPhase clients nodes) := by
  apply marksLast_after (only_installOnNodes not_isMark fun _ _ => id)
  intro results
  apply marksLast_after (only_markResults not_isMark)
  intro failed
  split_ifs
  · exact marksFailure_fail
  · exact rfl

theorem marksFailure_runCephInitPhase : MarksFailure (runCephInitPhase req founder) := by
  apply marksFailure_step id
  apply marksFailure_call
  intro err
  cases err with
  | error err => exact marksFailure_step id marksFailure_fail
  | ok _ => exact marksFailure_step id rfl

theorem marksFailure_createDaemon {phase : StepPhase} {create : Code (Except String String)}
    {failed timedOut : String → String} (silent : Never IsMark create) :
    MarksFailure (createDaemon node phase create failed timedOut) := by
  apply marksFailure_step id
  apply marksLast_after silent
  intro created
  cases created with
  | error err => exact marksFailure_step id marksFailure_fail
  | ok upid =>
      apply marksFailure_call
      intro waited
      cases waited with
      | error err => exact marksFailure_step id marksFailure_fail
      | ok _ => exact marksFailure_step id rfl

theorem marksFailure_runCreateMONsPhase : MarksFailure (runCreateMONsPhase nodes) := by
  induction nodes with
  | nil => exact rfl
  | cons node rest ih =>
      apply marksLast_bind (marksFailure_createDaemon (only_ask id))
      · rintro _ rfl
        exact ih
      · rintro _ rfl
        exact ⟨false, rfl, rfl⟩

theorem marksFailure_runCreateMGRPhase : MarksFailure (runCreateMGRPhase founder) :=
  marksFailure_createDaemon (only_ask id)

theorem marksFailure_runWaitHealthyPhase : MarksFailure (runWaitHealthyPhase founder) := by
  apply marksFailure_step id
  apply marksFailure_call
  intro polls
  apply marksLast_after (only_pollHealth id polls)
  intro healthy
  cases healthy with
  | true => exact marksFailure_step id rfl
  | false => exact marksFailure_step id marksFailure_fail

theorem marks_runInstall (some_ : req.nodes ≠ []) (named : ∀ node ∈ req.nodes, node ≠ "") :
    Marks (runInstall fmt clients req) := by
  obtain ⟨founder, others, listed⟩ := List.exists_cons_of_ne_nil some_
  rw [runInstall, listed]
  simp only [← listed]
  cases missing : req.nodes.find? (· ∉ clients) with
  | some node =>
      have member := List.mem_of_find?_eq_some missing
      simp only [fail, if_pos (named node member)]
      exact marksLast_after (only_update id) fun _ => marks_update trivial
  | none =>
      apply marks_proceed marksFailure_runInstallPreflightPhase
      apply marks_proceed marksFailure_runInstallPackagesPhase
      apply marks_proceed marksFailure_runCephInitPhase
      apply marks_proceed marksFailure_runCreateMONsPhase
      apply marks_proceed marksFailure_runCreateMGRPhase
      apply marks_proceed marksFailure_runWaitHealthyPhase
      exact marks_update trivial

theorem marks_finalize : Marks finalizeDestroyResult := by
  have silent : Never IsMark (issue .steps) := ⟨id, fun _ _ => trivial⟩
  apply marksLast_after silent
  intro steps
  simp only
  split_ifs
  · exact marks_update trivial
  · exact marks_update trivial

theorem never_teardown : Never IsMark (teardown clients lead) := by
  rw [teardown_eq]
  apply only_bind
  · apply only_bind (only_update id)
    intro _
    apply only_call id
    intro set
    cases set <;> exact only_update id
  · intro _
    exact keeps_forM fun kind _ =>
      only_deleteKind ⟨id, id, id, id, fun _ _ => id, fun _ _ => id⟩

theorem never_runPurgeAcrossNodes : Never IsMark (runPurgeAcrossNodes clients) := by
  apply keeps_forM
  intro client _
  apply only_bind (only_update id)
  intro _
  apply only_call id
  intro statuses
  split_ifs <;> exact only_update id

theorem marks_runDestroy (some_ : clients.entries ≠ []) : Marks (runDestroy clients) := by
  obtain ⟨first, others, listed⟩ := List.exists_cons_of_ne_nil some_
  rw [runDestroy, listed]
  apply marksLast_after (only_update id)
  intro _
  apply marksLast_after (only_ask id)
  intro status
  cases status with
  | error err =>
      apply marksLast_after (only_update id)
      intro _
      exact marksLast_after never_runPurgeAcrossNodes fun _ => marks_finalize
  | ok _ =>
      apply marksLast_after (only_update id)
      intro _
      apply marksLast_after never_teardown
      intro _
      exact marksLast_after never_runPurgeAcrossNodes fun _ => marks_finalize

end Marks

section Registry

variable {fmt : Formats} {clients : Clients} {m : Manager} {live : Live} {req : Request}

/-- A job is recorded as running as long as it has commands left, the last of which marks it. -/
def Sound (live : Live) : Prop :=
  live.job.state = .running ∧ Marks live.code ∨ live.job.state ≠ .running ∧ live.code = .done ()

theorem running_of_atWork (sound : Sound live) (atWork : live.AtWork) :
    live.job.state = .running := by
  rcases sound with ⟨running, _⟩ | ⟨_, ended⟩
  · exact running
  · rw [Live.AtWork, ended] at atWork
    exact atWork.elim

theorem cluster_apply (u : Update) (job : Job) : (u.apply job).cluster = job.cluster := by
  cases u <;> rfl

theorem not_running_of_mark {u : Update} {job : Job} (mark : IsMark (.update u)) :
    (u.apply job).state ≠ .running := by
  cases u with
  | markFailed error => exact nofun
  | markSucceeded => exact nofun
  | startStep host phase | succeedStep host phase | failStep host phase => exact mark.elim

theorem sound_advance (sound : Sound live) (answers : (remote : Remote) → Reply remote) :
    Sound (live.advance answers) := by
  obtain ⟨job, code⟩ := live
  rcases sound with ⟨running, marks⟩ | ⟨ended, rfl⟩
  · cases code with
    | done v => exact marks.elim
    | act c next =>
        cases c with
        | update u =>
            by_cases mark : IsMark (.update u)
            · obtain ⟨_, last, _⟩ := marks.1 mark ()
              exact .inr ⟨not_running_of_mark mark, last⟩
            · refine .inl ⟨?_, marks.2 mark ()⟩
              have step : u.mark = none := by
                cases u with
                | startStep host phase | succeedStep host phase | failStep host phase => rfl
                | markFailed error => exact absurd trivial mark
                | markSucceeded => exact absurd trivial mark
              exact (state_apply u job).trans (by rw [step]; exact running)
        | steps => exact .inl ⟨running, marks.2 id job.steps⟩
        | call remote => exact .inl ⟨running, marks.2 id (answers remote)⟩
  · exact .inr ⟨ended, rfl⟩

theorem cluster_advance (live : Live) (answers : (remote : Remote) → Reply remote) :
    (live.advance answers).job.cluster = live.job.cluster := by
  obtain ⟨job, code⟩ := live
  cases code with
  | done v => rfl
  | act c next =>
      cases c with
      | update u => exact cluster_apply u job
      | steps => rfl
      | call remote => rfl

theorem running_of_advance (sound : Sound live) {answers : (remote : Remote) → Reply remote}
    (running : (live.advance answers).job.state = .running) : live.job.state = .running := by
  rcases sound with ⟨before, _⟩ | ⟨ended, finished⟩
  · exact before
  · have same : live.advance answers = live := by
      rw [Live.advance, finished]
    rwa [same] at running

theorem ok_of_toOption {E A : Type} {answer : Except E A} {a : A}
    (ok : answer.toOption = some a) : answer = .ok a := by
  cases answer with
  | error err => exact nomatch ok
  | ok a' => exact congrArg _ (Option.some.inj ok)

theorem sound_startJob (started : startJob fmt clients req = some live) :
    Sound live ∧ live.job.state = .running := by
  cases req with
  | install req =>
      obtain ⟨⟨asked, begun⟩, accepted, rfl⟩ := Option.map_eq_some_iff.mp started
      obtain ⟨founder, others, listed, same, named, rfl⟩ :=
        startInstall_eq (ok_of_toOption accepted)
      have marks : Marks (runInstall fmt clients asked) := by
        apply marks_runInstall
        · rw [same, listed]
          exact List.cons_ne_nil _ _
        · rw [same]
          exact named
      exact ⟨.inl ⟨rfl, marks⟩, rfl⟩
  | destroy req =>
      obtain ⟨begun, accepted, rfl⟩ := Option.map_eq_some_iff.mp started
      have accepted := ok_of_toOption accepted
      obtain ⟨first, others, listed⟩ := client_of_startDestroy accepted
      have running : begun.state = .running := by
        rw [startDestroy] at accepted
        split_ifs at accepted
        obtain rfl := Except.ok.inj accepted
        rfl
      have marks : Marks (runDestroy clients) := by
        apply marks_runDestroy
        rw [listed]
        exact List.cons_ne_nil _ _
      exact ⟨.inl ⟨running, marks⟩, running⟩

/-- The jobs of a manager are sound. -/
def Kept (m : Manager) : Prop := ∀ live ∈ m, Sound live

theorem kept_step (kept : Kept m) (e : Event) : Kept (step fmt m e) := by
  cases e with
  | start req clients =>
      intro live member
      rcases List.mem_append.mp member with old | new
      · exact kept live old
      · exact (sound_startJob (Option.mem_toList.mp new)).1
  | advance i answers =>
      intro live member
      obtain ⟨j, found⟩ := List.getElem?_of_mem member
      rw [step, List.getElem?_modify] at found
      obtain ⟨old, here, rfl⟩ := Option.map_eq_some_iff.mp found
      have sound := kept old (List.mem_of_getElem? here)
      split_ifs
      · exact sound_advance sound answers
      · exact sound

theorem exclusive_iff (kept : Kept m) :
    Exclusive m ↔ ∀ (i j : ℕ) (a b : Live), m[i]? = some a → m[j]? = some b →
      a.job.cluster = b.job.cluster → a.job.state = .running → b.job.state = .running → i = j := by
  constructor
  · exact fun exclusive => exclusive.running
  · intro running
    refine ⟨running, ?_⟩
    intro i j a b first second same working working'
    exact running i j a b first second same
      (running_of_atWork (kept a (List.mem_of_getElem? first)) working)
      (running_of_atWork (kept b (List.mem_of_getElem? second)) working')

theorem exclusive_advance (kept : Kept m) (exclusive : Exclusive m) (i : ℕ)
    (answers : (remote : Remote) → Reply remote) :
    Exclusive (step fmt m (.advance i answers)) := by
  rw [exclusive_iff (kept_step kept _)]
  have before : ∀ (k : ℕ) (live : Live), (step fmt m (.advance i answers))[k]? = some live →
      ∃ old, m[k]? = some old ∧ old.job.cluster = live.job.cluster ∧
        (live.job.state = .running → old.job.state = .running) := by
    intro k live found
    rw [step, List.getElem?_modify] at found
    obtain ⟨old, here, rfl⟩ := Option.map_eq_some_iff.mp found
    have sound := kept old (List.mem_of_getElem? here)
    refine ⟨old, here, ?_⟩
    split_ifs
    · exact ⟨(cluster_advance old answers).symm, running_of_advance sound⟩
    · exact ⟨rfl, id⟩
  intro j k a b first second same running running'
  obtain ⟨a', firstOld, sameA, runs⟩ := before j a first
  obtain ⟨b', secondOld, sameB, runs'⟩ := before k b second
  exact exclusive.running j k a' b' firstOld secondOld (sameA.trans (same.trans sameB.symm))
    (runs running) (runs' running')

theorem exclusive_start (kept : Kept m) (exclusive : Exclusive m) (req : Request)
    (clients : Clients) :
    Exclusive (step fmt m (.start req clients)) ↔ Alone fmt m (.start req clients) := by
  rw [exclusive_iff (kept_step kept _), step]
  cases started : startJob fmt clients req with
  | none =>
      rw [Option.toList_none, List.append_nil]
      refine iff_of_true exclusive.running ?_
      intro live accepted
      exact nomatch started.symm.trans accepted
  | some live =>
      have runs := (sound_startJob started).2
      have last : (m ++ [live])[m.length]? = some live := List.getElem?_concat_length
      have earlier : ∀ (i : ℕ) (a : Live), m[i]? = some a →
          i < m.length ∧ (m ++ [live])[i]? = some a := by
        intro i a found
        have bound := (List.getElem?_eq_some_iff.mp found).1
        exact ⟨bound, (List.getElem?_append_left bound).trans found⟩
      have either : ∀ (i : ℕ) (a : Live), (m ++ [live])[i]? = some a →
          m[i]? = some a ∨ i = m.length ∧ a = live := by
        intro i a found
        rcases Nat.lt_or_ge i m.length with inside | outside
        · exact .inl ((List.getElem?_append_left inside).symm.trans found)
        · rw [List.getElem?_append_right outside, List.getElem?_singleton] at found
          split_ifs at found with zero
          exact .inr ⟨by omega, (Option.some.inj found).symm⟩
      rw [Option.toList_some]
      constructor
      · rintro single _ accepted other member same running
        obtain rfl := Option.some.inj (started.symm.trans accepted)
        obtain ⟨i, found⟩ := List.getElem?_of_mem member
        obtain ⟨bound, here⟩ := earlier i other found
        have position := single i m.length other live here last same running runs
        omega
      · intro alone i j a b first second same running running'
        rcases either i a first with old | ⟨rfl, rfl⟩
        · rcases either j b second with old' | ⟨rfl, rfl⟩
          · exact exclusive.running i j a b old old' same running running'
          · exact absurd running (alone b started a (List.mem_of_getElem? old) same)
        · rcases either j b second with old' | ⟨rfl, rfl⟩
          · exact absurd running' (alone a started b (List.mem_of_getElem? old') same.symm)
          · rfl

/-- In every state of a run at most one job of a cluster runs and is at work, iff no job is
started while another of its cluster runs. -/
theorem exclusive_iff_alone (fmt : Formats) (es : List Event) :
    (∀ m ∈ states (step fmt) [] es, Exclusive m) ↔ Along (step fmt) (Alone fmt) [] es := by
  refine @invariant_iff_along_within Manager Event (step fmt) _ Kept Exclusive [] es ?_ ?_ ?_ ?_
  · exact fun _ e _ kept => kept_step kept e
  · intro m e _ kept exclusive
    cases e with
    | start req clients => exact exclusive_start kept exclusive req clients
    | advance i answers => exact iff_of_true (exclusive_advance kept exclusive i answers) trivial
  · exact fun _ => nofun
  · exact ⟨fun _ _ _ _ => nofun, fun _ _ _ _ => nofun⟩

/-- An install and a destroy request for one cluster, one after the other. -/
theorem two_jobs_on_a_cluster :
    ¬∀ (fmt : Formats) (es : List Event), ∀ m ∈ states (step fmt) [] es, Exclusive m := by
  intro always
  have exclusive := always plainFormats
    [.start (.install labInstall) labClients, .start (.destroy labRequest) labClients] _
    (last_mem_states _ _)
  exact nomatch exclusive.running 0 1 _ _ rfl rfl rfl rfl rfl

end Registry

end CephCluster
