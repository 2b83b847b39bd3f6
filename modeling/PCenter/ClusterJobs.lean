import PCenter.PveCluster
import PCenter.Lib.Ledger
import PCenter.Lib.Transition

/-!
# The record of a cluster job

`runJob` and `runJoinHostsJob` as machines that wait for the answer of one call after the other:
of the hosts, of the inventory, and of the pause between two tries for the join information. Any
call may fail, with the job's context or without it. What the progress view shows of a job is its
record.
-/

namespace ClusterJobs

open PveCluster Inventory Transition

section Machine

/-- The calls of `joinOne`, and the reading of the joiner's record after it. -/
inductive JoinCall where
  | authenticate
  | submit
  | await
  | persist
  | reread
  deriving DecidableEq

/-- The call whose answer a job waits for. -/
inductive Phase where
  | authenticate
  | create
  | cleanup
  | reauthenticate
  | recreate
  | waitForTask
  /-- A new ticket for a try, with the tries that are left after it. -/
  | refreshTicket (left : ℕ)
  | fetchJoinInfo (left : ℕ)
  | pause (left : ℕ) (lastErr : String)
  | joining (joiner : InventoryHost) (rest : List JoinerSpec) (call : JoinCall)
  | updateInventory
  | ended

structure Answer where
  /-- The error of the call, if there is one. -/
  error : Option JoinError
  /-- Empty when there is no join information. -/
  fingerprint : String
  clusterID : String
  /-- The context is done before the pause is over. -/
  cancelled : Bool

def Answer.result (a : Answer) : Except String Unit :=
  match a.error with
  | none => .ok ()
  | some err => .error err.text

structure Progress where
  phase : Phase
  job : Job

def fail (job : Job) (message : String) : Progress := ⟨.ended, job.markFailed message⟩

/-- The records of the joiners that the job was started with. -/
def joiners : Orchestration → List InventoryHost
  | .runJob _ joiners _ => joiners
  | .runJoinHostsJob _ _ joiners _ => joiners

variable (o : Orchestration)

def noInfo (err : String) : String :=
  match o with
  | .runJob founder _ _ => noJoinInfo founder err
  | .runJoinHostsJob _ sourceHost _ _ =>
      "source " ++ sourceHost.nodeName ++ ": could not fetch join info: " ++ err

def updateFailed (err : String) : String :=
  match o with
  | .runJob _ _ _ => inventoryFailed err
  | .runJoinHostsJob _ _ _ _ => joinInventoryFailed err

/-- A try for the join information. -/
def attempt (left : ℕ) (job : Job) : Progress :=
  match o with
  | .runJob _ _ _ => ⟨.refreshTicket left, job⟩
  | .runJoinHostsJob _ _ _ _ => ⟨.fetchJoinInfo left, job⟩

/-- The joiners that are left, and the update of the inventory after them. -/
def nextJoiner (job : Job) : List JoinerSpec → Progress
  | [] => ⟨.updateInventory, job.setStep o.source.id .updateInventory .running⟩
  | spec :: rest =>
      match findHost (joiners o) spec.hostID with
      | none => fail job ("internal error: joiner " ++ spec.hostID ++ " not in hosts list")
      | some joiner =>
          ⟨.joining joiner rest .authenticate, job.setStep joiner.id .join .running⟩

/-- A step of a joiner fails, and the job with it. -/
def failJoin (joiner : InventoryHost) (phase : StepPhase) (err : String) (job : Job) : Progress :=
  fail (job.setStep joiner.id phase .failed) (joinFailed o.source joiner err)

/-- The answer to `waitForMembership`, for which a client is made first. -/
def awaited (joiner : InventoryHost) (a : Answer) : Except String Unit :=
  match buildClient o.source with
  | .error err => .error err
  | .ok _ =>
      match a.error with
      | none => .ok ()
      | some _ => .error ("timed out waiting for " ++ joiner.nodeName ++
          " to appear in /cluster/status")

/-- `joinOne` -/
def joinOne (joiner : InventoryHost) (rest : List JoinerSpec) (job : Job) (a : Answer) :
    JoinCall → Progress
  | .authenticate =>
      match a.result with
      | .error err => failJoin o joiner .join ("authenticate: " ++ err) job
      | .ok _ => ⟨.joining joiner rest .submit, job⟩
  | .submit =>
      match submitted (match a.error with | none => .ok "" | some err => .error err) with
      | .error err => failJoin o joiner .join ("join: " ++ err) job
      | .ok _ => ⟨.joining joiner rest .await, job⟩
  | .await =>
      match awaited o joiner a with
      | .error err => failJoin o joiner .join ("waiting for membership: " ++ err) job
      | .ok _ =>
          let joined := (job.setStep joiner.id .join .succeeded).setStep joiner.id .reauthToken
            .running
          if o.source.tokenID = "" ∨ o.source.tokenSecret = "" then
            failJoin o joiner .reauthToken
              ("source host " ++ o.source.nodeName ++ " has no stored API token to copy") joined
          else ⟨.joining joiner rest .persist, joined⟩
  | .persist =>
      match a.result with
      | .error err => failJoin o joiner .reauthToken ("persist token: " ++ err) job
      | .ok _ => ⟨.joining joiner rest .reread, job.setStep joiner.id .reauthToken .succeeded⟩
  | .reread => nextJoiner o job rest

/-- A step of the source fails, and the job with it. -/
def failSource (phase : StepPhase) (message : String) (job : Job) : Progress :=
  fail (job.setStep o.source.id phase .failed) message

def next (c : Progress) (a : Answer) : Progress :=
  match c.phase with
  | .authenticate =>
      match a.result, buildClient o.source with
      | .error err, _ =>
          fail c.job
            ("founder " ++ o.source.nodeName ++ ": root@pam authentication failed: " ++ err)
      | .ok _, .error err => fail c.job ("build founder client: " ++ err)
      | .ok _, .ok _ => ⟨.create, c.job.setStep o.source.id .createCluster .running⟩
  | .create =>
      match a.result with
      | .ok _ => ⟨.waitForTask, c.job⟩
      | .error err =>
          if isCorosyncAlreadyExists err then
            ⟨.cleanup, c.job.setStep o.source.id .cleanupCorosync .running⟩
          else failSource o .createCluster (createFailed o.source err) c.job
  | .cleanup =>
      match a.result with
      | .error err =>
          failSource o .createCluster (cleanupFailed o.source err)
            (c.job.setStep o.source.id .cleanupCorosync .failed)
      | .ok _ => ⟨.reauthenticate, c.job.setStep o.source.id .cleanupCorosync .succeeded⟩
  | .reauthenticate =>
      match a.result with
      | .error err =>
          failSource o .createCluster
            ("founder " ++ o.source.nodeName ++ ": cleanup ok but re-authentication failed: " ++ err)
            c.job
      | .ok _ => ⟨.recreate, c.job⟩
  | .recreate =>
      match a.result with
      | .error err => failSource o .createCluster (createFailed o.source err) c.job
      | .ok _ => ⟨.waitForTask, c.job⟩
  | .waitForTask =>
      match a.result with
      | .error err =>
          failSource o .createCluster
            ("founder " ++ o.source.nodeName ++ ": cluster creation task failed: " ++ err) c.job
      | .ok _ =>
          attempt o 7 ((c.job.setStep o.source.id .createCluster .succeeded).setStep o.source.id
            .fetchJoinInfo .running)
  | .refreshTicket left =>
      match a.result with
      | .error err => ⟨.pause left ("re-auth: " ++ err), c.job⟩
      | .ok _ => ⟨.fetchJoinInfo left, c.job⟩
  | .fetchJoinInfo left =>
      match withFingerprint (a.result.map fun _ => ⟨a.fingerprint⟩) with
      | .error err => ⟨.pause left err, c.job⟩
      | .ok _ => nextJoiner o (c.job.setStep o.source.id .fetchJoinInfo .succeeded) o.specs
  | .pause left lastErr =>
      if a.cancelled then fail c.job "cancelled during join-info fetch"
      else
        match left with
        | 0 => failSource o .fetchJoinInfo (noInfo o lastErr) c.job
        | left + 1 => attempt o left c.job
  | .joining joiner rest call => joinOne o joiner rest c.job a call
  | .updateInventory =>
      match a.result with
      | .error err => failSource o .updateInventory (updateFailed o err) c.job
      | .ok _ =>
          ⟨.ended,
            (c.job.setStep o.source.id .updateInventory .succeeded).markSucceeded a.clusterID⟩
  | .ended => c

/-- A job up to its first call. -/
def begin_ (job : Job) : Progress :=
  match o with
  | .runJob _ _ _ => ⟨.authenticate, job⟩
  | .runJoinHostsJob _ sourceHost _ _ =>
      match buildClient sourceHost with
      | .error err => fail job ("build source-host client: " ++ err)
      | .ok _ => attempt o 4 (job.setStep sourceHost.id .fetchJoinInfo .running)

/-- A job has no verdict before it has ended, and then one that is final and that agrees with its
steps. -/
structure Consistent (c : Progress) : Prop where
  verdict : c.phase = .ended ↔ c.job.state ≠ .running
  closed : c.phase = .ended → ∀ s ∈ c.job.steps, s.state ≠ .running
  succeeded : c.job.state = .succeeded → ∀ s ∈ c.job.steps, s.state = .succeeded
  failed : c.job.state = .failed → ∃ s ∈ c.job.steps, s.state ≠ .succeeded
  final : c.phase = .ended → ∀ answers : List Answer, answers.foldl (next o) c = c

/-- The job's context is not done in a pause, and the inventory does not accept a host twice. -/
def Closes (c : Progress) (a : Answer) : Prop :=
  match c.phase with
  | .pause _ _ => a.cancelled = false
  | .updateInventory => a.error = none → (o.specs.map (·.hostID)).Nodup
  | _ => True

instance decidableCloses (c : Progress) (a : Answer) : Decidable (Closes o c a) :=
  match h : c.phase with
  | .pause _ _ => decidable_of_iff (a.cancelled = false) (by rw [Closes, h])
  | .updateInventory =>
      decidable_of_iff (a.error.isNone = true → (o.specs.map (·.hostID)).Nodup)
        (by rw [Closes, h, Option.isNone_iff_eq_none])
  | .authenticate | .create | .cleanup | .reauthenticate | .recreate | .waitForTask
  | .refreshTicket _ | .fetchJoinInfo _ | .joining _ _ _ | .ended =>
      isTrue (by rw [Closes, h]; trivial)

end Machine

section Endings

variable {o : Orchestration}

/-- The calls that `joinOne` has still to make. -/
def JoinCall.left : JoinCall → ℕ
  | .authenticate => 5
  | .submit => 4
  | .await => 3
  | .persist => 2
  | .reread => 1

/-- The calls that a job has still to make, at most. -/
def left (o : Orchestration) : Phase → ℕ
  | .authenticate => 5 * o.specs.length + 31
  | .create => 5 * o.specs.length + 30
  | .cleanup => 5 * o.specs.length + 29
  | .reauthenticate => 5 * o.specs.length + 28
  | .recreate => 5 * o.specs.length + 27
  | .waitForTask => 5 * o.specs.length + 26
  | .refreshTicket n => 5 * o.specs.length + 3 * n + 4
  | .fetchJoinInfo n => 5 * o.specs.length + 3 * n + 3
  | .pause n _ => 5 * o.specs.length + 3 * n + 2
  | .joining _ rest call => 5 * rest.length + call.left + 1
  | .updateInventory => 1
  | .ended => 0

theorem left_attempt (n : ℕ) (job : Job) :
    left o (attempt o n job).phase ≤ 5 * o.specs.length + 3 * n + 4 := by
  cases o <;> simp [attempt, left]

theorem left_nextJoiner (job : Job) (rest : List JoinerSpec) :
    left o (nextJoiner o job rest).phase ≤ 5 * rest.length + 1 := by
  cases rest with
  | nil => simp [nextJoiner, left]
  | cons spec rest =>
      rw [nextJoiner]
      cases findHost (joiners o) spec.hostID with
      | none => simp [fail, left]
      | some joiner =>
          simp only [left, JoinCall.left, List.length_cons]
          omega

theorem left_next (c : Progress) (a : Answer) :
    left o (next o c a).phase ≤ left o c.phase - 1 := by
  obtain ⟨phase, job⟩ := c
  cases phase with
  | authenticate =>
      simp only [next]
      split <;> simp [fail, left]
  | create =>
      simp only [next]
      split
      · simp [left]
      · split_ifs <;> simp [failSource, fail, left]
  | cleanup | reauthenticate | recreate =>
      simp only [next]
      split <;> simp [failSource, fail, left]
  | waitForTask =>
      simp only [next]
      split
      · simp [failSource, fail, left]
      · exact (left_attempt 7 _).trans (by simp [left])
  | refreshTicket n =>
      simp only [next]
      split <;> simp [left]
  | fetchJoinInfo n =>
      simp only [next]
      split
      · simp [left]
      · refine (left_nextJoiner _ _).trans ?_
        simp only [left]
        omega
  | pause n lastErr =>
      simp only [next]
      split_ifs
      · simp [fail, left]
      · cases n with
        | zero => simp [failSource, fail, left]
        | succ n =>
            refine (left_attempt n job).trans ?_
            simp only [left]
            omega
  | joining joiner rest call =>
      simp only [next]
      cases call with
      | authenticate | submit | persist =>
          simp only [joinOne]
          split <;> simp [failJoin, fail, left, JoinCall.left]
      | await =>
          simp only [joinOne]
          split
          · simp [failJoin, fail, left]
          · split_ifs <;> simp [failJoin, fail, left, JoinCall.left]
      | reread => exact (left_nextJoiner job rest).trans (by simp [left, JoinCall.left])
  | updateInventory =>
      simp only [next]
      split <;> simp [failSource, fail, left]
  | ended => simp [next, left]

theorem left_foldl (c : Progress) (answers : List Answer) :
    left o (answers.foldl (next o) c).phase ≤ left o c.phase - answers.length := by
  induction answers generalizing c with
  | nil => exact le_rfl
  | cons a answers ih =>
      have step := @left_next o c a
      have later := ih (next o c a)
      simp only [List.foldl_cons, List.length_cons] at later ⊢
      omega

theorem ended_of_left {phase : Phase} (none_ : left o phase = 0) : phase = .ended := by
  cases phase with
  | ended => rfl
  | joining _ _ call => simp [left] at none_
  | _ => simp [left] at none_

theorem next_ended {c : Progress} {a : Answer} (ended : c.phase = .ended) : next o c a = c := by
  rw [next, ended]

theorem foldl_ended {c : Progress} (ended : c.phase = .ended) (answers : List Answer) :
    answers.foldl (next o) c = c := by
  induction answers with
  | nil => rfl
  | cons a answers ih =>
      rw [List.foldl_cons, next_ended ended]
      exact ih

theorem exists_ended (o : Orchestration) (job : Job) :
    ∃ n, ∀ answers : List Answer, n ≤ answers.length →
      (answers.foldl (next o) (begin_ o job)).phase = .ended := by
  refine ⟨left o (begin_ o job).phase, fun answers enough => ?_⟩
  apply @ended_of_left o
  have bound := @left_foldl o (begin_ o job) answers
  omega

end Endings

section Records

/-- A host and a phase name a step. -/
abbrev Key := String × StepPhase

def ledger (job : Job) : List (Key × StepState) :=
  job.steps.map fun s => ((s.hostID, s.phase), s.state)

/-- The state of the step that a key names. -/
def stateOf (job : Job) (k : Key) : Option StepState := (ledger job).lookup k

variable (o : Orchestration)

def phases : List StepPhase :=
  match o with
  | .runJob _ _ _ => [.createCluster, .fetchJoinInfo]
  | .runJoinHostsJob _ _ _ _ => [.fetchJoinInfo]

def specKeys (spec : JoinerSpec) : List Key := [(spec.hostID, .join), (spec.hostID, .reauthToken)]

/-- The steps that a job is seeded with. -/
def seeded : List Key :=
  (phases o).map (o.source.id, ·) ++ o.specs.flatMap specKeys ++ [(o.source.id, .updateInventory)]

variable {o} {job : Job} {k k' : Key} {st : StepState}

theorem ledger_setStep :
    ledger (job.setStep k.1 k.2 st) = Ledger.set k st (ledger job) := by
  have steps : ∀ steps : List Step,
      (Job.setStep.go k.1 k.2 st steps).map (fun s => ((s.hostID, s.phase), s.state)) =
        Ledger.set k st (steps.map fun s => ((s.hostID, s.phase), s.state)) := by
    intro steps
    induction steps with
    | nil => rfl
    | cons s rest ih =>
        rw [Job.setStep.go, List.map_cons, Ledger.set]
        by_cases here : s.hostID = k.1 ∧ s.phase = k.2
        · rw [if_pos here, if_pos (Prod.ext here.1 here.2)]
          rfl
        · rw [if_neg here, if_neg fun same => here ⟨congrArg Prod.fst same, congrArg Prod.snd same⟩,
            List.map_cons, ih]
  exact steps job.steps

theorem stateOf_setStep :
    stateOf (job.setStep k.1 k.2 st) k' = if k' = k then some st else stateOf job k' := by
  rw [stateOf, ledger_setStep, Ledger.lookup_set]
  rfl

/-- The records of a job that is under way: the steps that are running and those that have
succeeded. A host that comes again opens its steps again. -/
structure Book (o : Orchestration) (opens settled : List Key) (job : Job) : Prop where
  running : job.state = .running
  shadowed : Ledger.Shadowed .pending (ledger job)
  keys : (ledger job).map Prod.fst = seeded o ∨
    (ledger job).map Prod.fst = seeded o ++ [(o.source.id, .cleanupCorosync)]
  runs : ∀ k, stateOf job k = some .running ↔ k ∈ opens
  succeeded : ∀ k ∈ settled, stateOf job k = some .succeeded ∨ k ∈ opens
  pending : stateOf job (o.source.id, .updateInventory) = some .pending ∨
    (o.source.id, .updateInventory) ∈ opens
  cleaned : stateOf job (o.source.id, .cleanupCorosync) = none ∨
    stateOf job (o.source.id, .cleanupCorosync) = some .succeeded ∨
    (o.source.id, .cleanupCorosync) ∈ opens

variable {opens settled : List Key}

theorem keys_setStep
    (keys : (ledger job).map Prod.fst = seeded o ∨
      (ledger job).map Prod.fst = seeded o ++ [(o.source.id, .cleanupCorosync)])
    (known : k ∈ seeded o ∨ k = (o.source.id, .cleanupCorosync)) :
    (ledger (job.setStep k.1 k.2 st)).map Prod.fst = seeded o ∨
      (ledger (job.setStep k.1 k.2 st)).map Prod.fst =
        seeded o ++ [(o.source.id, .cleanupCorosync)] := by
  rw [ledger_setStep]
  by_cases listed : k ∈ (ledger job).map Prod.fst
  · rw [Ledger.keys_set_of_mem listed]
    exact keys
  · rw [Ledger.keys_set_of_not_mem listed]
    rcases keys with same | more
    · rw [same] at listed ⊢
      rcases known with seed | rfl
      · exact absurd seed listed
      · exact .inr rfl
    · rw [more] at listed
      rcases known with seed | rfl
      · exact absurd (List.mem_append_left _ seed) listed
      · exact absurd (List.mem_append_right _ List.mem_cons_self) listed

theorem Book.start (book : Book o opens settled job)
    (known : k ∈ seeded o ∨ k = (o.source.id, .cleanupCorosync)) :
    Book o (k :: opens) settled (job.setStep k.1 k.2 .running) := by
  refine ⟨book.running, ?_, keys_setStep book.keys known, fun k' => ?_, fun k' member => ?_, ?_, ?_⟩
  · rw [ledger_setStep]
    exact book.shadowed.set k _
  · rw [stateOf_setStep, List.mem_cons]
    by_cases same : k' = k
    · simp [same]
    · simp [same, book.runs]
  · rw [stateOf_setStep, List.mem_cons]
    by_cases same : k' = k
    · simp [same]
    · simpa [same] using book.succeeded k' member
  · rw [stateOf_setStep, List.mem_cons]
    by_cases same : (o.source.id, StepPhase.updateInventory) = k
    · exact .inr (.inl same)
    · simpa [same] using book.pending
  · rw [stateOf_setStep, List.mem_cons]
    by_cases same : (o.source.id, StepPhase.cleanupCorosync) = k
    · exact .inr (.inr (.inl same))
    · simpa [same] using book.cleaned

theorem Book.succeed (book : Book o (k :: opens) settled job) (closed : k ∉ opens)
    (known : k ∈ seeded o ∨ k = (o.source.id, .cleanupCorosync))
    (early : k ≠ (o.source.id, .updateInventory)) :
    Book o opens (k :: settled) (job.setStep k.1 k.2 .succeeded) := by
  refine ⟨book.running, ?_, keys_setStep book.keys known, fun k' => ?_, fun k' member => ?_, ?_, ?_⟩
  · rw [ledger_setStep]
    exact book.shadowed.set k _
  · rw [stateOf_setStep]
    by_cases same : k' = k
    · simp [same, closed]
    · simp [same, book.runs]
  · rw [stateOf_setStep]
    by_cases same : k' = k
    · simp [same]
    · have member : k' ∈ settled := by simpa [same] using member
      simpa [same] using book.succeeded k' member
  · rw [stateOf_setStep, if_neg early.symm]
    simpa [early.symm] using book.pending
  · rw [stateOf_setStep]
    by_cases same : (o.source.id, StepPhase.cleanupCorosync) = k
    · exact .inr (.inl (if_pos same))
    · simpa [same] using book.cleaned

theorem Book.mono {settled' : List Key} (book : Book o opens settled job)
    (sub : settled' ⊆ settled) : Book o opens settled' job :=
  { book with succeeded := fun k member => book.succeeded k (sub member) }

/-- The records of a job that is about to fail. -/
structure Closing (o : Orchestration) (opens : List Key) (job : Job) : Prop where
  shadowed : Ledger.Shadowed .pending (ledger job)
  runs : ∀ k, stateOf job k = some .running ↔ k ∈ opens
  unfinished : (∃ st, stateOf job (o.source.id, .updateInventory) = some st ∧ st ≠ .succeeded) ∨
    (o.source.id, .updateInventory) ∈ opens

theorem Book.closing (book : Book o opens settled job) : Closing o opens job := by
  refine ⟨book.shadowed, book.runs, book.pending.imp (fun pending => ?_) id⟩
  exact ⟨.pending, pending, fun same => (by cases same)⟩

theorem Closing.failStep (closing : Closing o (k :: opens) job) (closed : k ∉ opens) :
    Closing o opens (job.setStep k.1 k.2 .failed) := by
  refine ⟨?_, fun k' => ?_, ?_⟩
  · rw [ledger_setStep]
    exact closing.shadowed.set k _
  · rw [stateOf_setStep]
    by_cases same : k' = k
    · simp [same, closed]
    · simp [same, closing.runs]
  · rw [stateOf_setStep]
    by_cases same : (o.source.id, StepPhase.updateInventory) = k
    · exact .inl ⟨.failed, if_pos same, fun other => (by cases other)⟩
    · simpa [same] using closing.unfinished

theorem stateOf_of_mem {s : Step} (shadowed : Ledger.Shadowed .pending (ledger job))
    (member : s ∈ job.steps) (changed : s.state ≠ .pending) :
    stateOf job (s.hostID, s.phase) = some s.state := by
  have listed : ((s.hostID, s.phase), s.state) ∈ ledger job := List.mem_map_of_mem member
  exact shadowed.lookup_eq listed changed

theorem exists_of_stateOf (found : stateOf job k = some st) :
    ∃ s ∈ job.steps, (s.hostID, s.phase) = k ∧ s.state = st := by
  obtain ⟨s, member, same⟩ := List.mem_map.mp (Ledger.mem_of_lookup found)
  exact ⟨s, member, congrArg Prod.fst same, congrArg Prod.snd same⟩

theorem Closing.not_running (closing : Closing o [] job) : ∀ s ∈ job.steps, s.state ≠ .running := by
  intro s member running
  have changed : s.state ≠ .pending := by
    rw [running]
    intro same
    cases same
  have found := stateOf_of_mem closing.shadowed member changed
  rw [running, closing.runs] at found
  cases found

/-- A job that closed its steps fails as it should. -/
theorem Closing.consistent (closing : Closing o [] job) (message : String) :
    Consistent o (fail job message) := by
  refine ⟨?_, fun _ => closing.not_running, ?_, fun _ => ?_, fun ended => foldl_ended ended⟩
  · exact iff_of_true rfl fun same => (by cases same)
  · intro same
    cases same
  · rcases closing.unfinished with ⟨st, found, unfinished⟩ | open_
    · obtain ⟨s, member, -, rfl⟩ := exists_of_stateOf found
      exact ⟨s, member, unfinished⟩
    · cases open_

theorem Closing.inconsistent (closing : Closing o opens job) (open_ : k ∈ opens)
    (message : String) : ¬Consistent o (fail job message) := by
  intro consistent
  obtain ⟨s, member, -, running⟩ := exists_of_stateOf ((closing.runs k).mpr open_)
  exact consistent.closed rfl s member running

theorem specKeys_disjoint {a b : JoinerSpec} :
    (specKeys a).Disjoint (specKeys b) ↔ a.hostID ≠ b.hostID := by
  simp [specKeys, List.Disjoint]

theorem phase_of_join {specs : List JoinerSpec} (member : k ∈ specs.flatMap specKeys) :
    k.2 = .join ∨ k.2 = .reauthToken := by
  obtain ⟨spec, -, listed⟩ := List.mem_flatMap.mp member
  simp only [specKeys, List.mem_cons, List.not_mem_nil, or_false] at listed
  rcases listed with rfl | rfl
  · exact .inl rfl
  · exact .inr rfl

theorem phase_of_source (member : k ∈ (phases o).map (o.source.id, ·)) :
    k.2 = .createCluster ∨ k.2 = .fetchJoinInfo := by
  cases o with
  | runJob =>
      simp only [phases, List.map_cons, List.map_nil, List.mem_cons, List.not_mem_nil,
        or_false] at member
      rcases member with rfl | rfl
      · exact .inl rfl
      · exact .inr rfl
  | runJoinHostsJob =>
      rw [List.mem_singleton.mp member]
      exact .inr rfl

theorem seeded_nodup_iff : (seeded o).Nodup ↔ (o.specs.map (·.hostID)).Nodup := by
  have joins : (o.specs.flatMap specKeys).Nodup ↔ (o.specs.map (·.hostID)).Nodup := by
    rw [List.nodup_flatMap]
    constructor
    · intro both
      exact List.pairwise_map.mpr (both.2.imp specKeys_disjoint.mp)
    · intro pairwise
      refine ⟨fun spec _ => by simp [specKeys], ?_⟩
      exact (List.pairwise_map.mp pairwise).imp specKeys_disjoint.mpr
  rw [← joins, seeded]
  refine ⟨fun all => ?_, fun nodup => ?_⟩
  · exact (List.nodup_append.mp (List.nodup_append.mp all).1).2.1
  · refine List.nodup_append.mpr ⟨List.nodup_append.mpr ⟨?_, nodup, ?_⟩, ?_, ?_⟩
    · cases o <;> simp [phases]
    · rintro a first b later rfl
      rcases phase_of_source first with source | source <;>
        rcases phase_of_join later with join | join <;> simp [source] at join
    · simp
    · rintro a first b later rfl
      obtain rfl := List.mem_singleton.mp later
      rcases List.mem_append.mp first with source | join
      · rcases phase_of_source source with same | same <;> cases same
      · rcases phase_of_join join with same | same <;> cases same

theorem cleanup_not_seeded : (o.source.id, StepPhase.cleanupCorosync) ∉ seeded o := by
  intro member
  rcases List.mem_append.mp member with earlier | last
  · rcases List.mem_append.mp earlier with source | join
    · rcases phase_of_source source with same | same <;> cases same
    · rcases phase_of_join join with same | same <;> cases same
  · cases List.mem_singleton.mp last

theorem nodup_keys_iff
    (keys : (ledger job).map Prod.fst = seeded o ∨
      (ledger job).map Prod.fst = seeded o ++ [(o.source.id, .cleanupCorosync)]) :
    ((ledger job).map Prod.fst).Nodup ↔ (o.specs.map (·.hostID)).Nodup := by
  rw [← seeded_nodup_iff]
  rcases keys with same | more
  · rw [same]
  · rw [more, List.nodup_append]
    constructor
    · exact fun all => all.1
    · intro nodup
      refine ⟨nodup, List.nodup_singleton _, ?_⟩
      rintro a first b later rfl
      rw [List.mem_singleton.mp later] at first
      exact cleanup_not_seeded first

theorem not_none_of_listed (listed : k ∈ (ledger job).map Prod.fst) : stateOf job k ≠ none := by
  intro none_
  obtain ⟨e, member, rfl⟩ := List.mem_map.mp listed
  have apart := List.lookup_eq_none_iff.mp none_ e member
  simp at apart

/-- The end of a job whose steps have all succeeded is as it should be, unless a host is named
twice: the second one's steps were never begun. -/
theorem Book.consistent_iff (book : Book o [(o.source.id, .updateInventory)] settled job)
    (all : ∀ k ∈ seeded o, k ∈ settled ∨ k = (o.source.id, .updateInventory))
    (clusterID : String) :
    Consistent o ⟨.ended,
        (job.setStep o.source.id .updateInventory .succeeded).markSucceeded clusterID⟩ ↔
      (o.specs.map (·.hostID)).Nodup := by
  have seed : (o.source.id, StepPhase.updateInventory) ∈ seeded o :=
    List.mem_append_right _ List.mem_cons_self
  have set : ∀ k, stateOf (job.setStep o.source.id .updateInventory .succeeded) k =
      if k = (o.source.id, .updateInventory) then some .succeeded else stateOf job k :=
    fun k => @stateOf_setStep job (o.source.id, .updateInventory) k .succeeded
  have keys := @keys_setStep o job (o.source.id, .updateInventory) .succeeded book.keys (.inl seed)
  have shadowed : Ledger.Shadowed .pending
      (ledger (job.setStep o.source.id .updateInventory .succeeded)) := by
    rw [@ledger_setStep job (o.source.id, .updateInventory)]
    exact book.shadowed.set _ _
  generalize job.setStep o.source.id .updateInventory .succeeded = done at set keys shadowed
  have ended : ∀ k, k ∈ settled ∨ k = (o.source.id, .updateInventory) →
      stateOf done k = some .succeeded := by
    intro k known
    rw [set]
    split_ifs with here
    · rfl
    · rcases book.succeeded k (known.resolve_right here) with succeeded | open_
      · exact succeeded
      · exact absurd (List.mem_singleton.mp open_) here
  have states : ∀ k ∈ (ledger done).map Prod.fst, stateOf done k = some .succeeded := by
    intro k listed
    have known : k ∈ seeded o ∨ k = (o.source.id, .cleanupCorosync) := by
      rcases keys with same | more
      · exact .inl (same ▸ listed)
      · rw [more, List.mem_append, List.mem_singleton] at listed
        exact listed
    rcases known with seed | rfl
    · exact ended k (all k seed)
    · rcases book.cleaned with none_ | succeeded | open_
      · refine absurd ?_ (not_none_of_listed listed)
        simpa [set] using none_
      · simpa [set] using succeeded
      · cases List.mem_singleton.mp open_
  have steps : ∀ s ∈ (done.markSucceeded clusterID).steps,
      ((s.hostID, s.phase), s.state) ∈ ledger done := by
    intro s member
    exact List.mem_map_of_mem (f := fun s : Step => ((s.hostID, s.phase), s.state)) member
  rw [← nodup_keys_iff keys]
  constructor
  · intro consistent
    refine shadowed.nodup_keys fun e member => ?_
    obtain ⟨s, listed, rfl⟩ := List.mem_map.mp member
    rw [consistent.succeeded rfl s listed]
    intro same
    cases same
  · intro nodup
    have succeeded : ∀ s ∈ (done.markSucceeded clusterID).steps, s.state = .succeeded := by
      intro s member
      have listed := steps s member
      have found : stateOf done (s.hostID, s.phase) = some s.state :=
        Ledger.lookup_eq_of_mem nodup listed
      rw [states _ (List.mem_map_of_mem listed)] at found
      exact (Option.some.inj found).symm
    refine ⟨?_, fun _ s member running => ?_, fun _ => succeeded, ?_,
      fun ended => foldl_ended ended⟩
    · exact iff_of_true rfl fun same => (by cases same)
    · rw [succeeded s member] at running
      cases running
    · intro failed
      cases failed

end Records

section Steps

variable (o : Orchestration)

/-- The steps that are running while a job waits for a call. -/
def opened : Phase → List Key
  | .create | .reauthenticate | .recreate | .waitForTask => [(o.source.id, .createCluster)]
  | .cleanup => [(o.source.id, .cleanupCorosync), (o.source.id, .createCluster)]
  | .refreshTicket _ | .fetchJoinInfo _ | .pause _ _ => [(o.source.id, .fetchJoinInfo)]
  | .joining joiner _ .authenticate | .joining joiner _ .submit | .joining joiner _ .await =>
      [(joiner.id, .join)]
  | .joining joiner _ .persist => [(joiner.id, .reauthToken)]
  | .updateInventory => [(o.source.id, .updateInventory)]
  | .authenticate | .joining _ _ .reread | .ended => []

/-- What has succeeded before the join information is fetched. -/
def created : List Key :=
  match o with
  | .runJob _ _ _ => [(o.source.id, .createCluster)]
  | .runJoinHostsJob _ _ _ _ => []

/-- What has succeeded once some joiners are in the cluster. -/
def served (done : List JoinerSpec) : List Key :=
  (phases o).map (o.source.id, ·) ++ done.flatMap specKeys

/-- The steps that have succeeded by then. -/
def succeededBy (done : List JoinerSpec) : Phase → List Key
  | .refreshTicket _ | .fetchJoinInfo _ | .pause _ _ => created o
  | .joining joiner _ .persist => (joiner.id, .join) :: served o done
  | .joining joiner _ .reread => (joiner.id, .reauthToken) :: (joiner.id, .join) :: served o done
  | .joining _ _ _ | .updateInventory => served o done
  | _ => []

/-- Only one of the two jobs creates a cluster; the joiners are those that are done, the one at
hand and the rest. -/
def Splits (done : List JoinerSpec) : Phase → Prop
  | .authenticate | .create | .cleanup | .reauthenticate | .recreate | .waitForTask =>
      .createCluster ∈ phases o
  | .joining joiner rest _ => ∃ spec, spec.hostID = joiner.id ∧ o.specs = done ++ spec :: rest
  | .updateInventory => o.specs = done
  | _ => True

/-- A job that is under way. -/
structure Tracks (done : List JoinerSpec) (c : Progress) : Prop where
  going : c.phase ≠ .ended
  book : Book o (opened o c.phase) (succeededBy o done c.phase) c.job
  splits : Splits o done c.phase

variable {o} {done : List JoinerSpec} {job : Job}

theorem Tracks.consistent {c : Progress} (tracks : Tracks o done c) : Consistent o c := by
  have running := tracks.book.running
  refine ⟨?_, fun ended => absurd ended tracks.going, ?_, ?_,
    fun ended => absurd ended tracks.going⟩
  · exact iff_of_false tracks.going fun other => other running
  · intro succeeded
    rw [running] at succeeded
    cases succeeded
  · intro failed
    rw [running] at failed
    cases failed

/-- A job goes on, or it ends as it should. -/
def Goes (o : Orchestration) (c : Progress) : Prop :=
  (∃ done, Tracks o done c) ∨ c.phase = .ended ∧ Consistent o c

theorem Goes.consistent {c : Progress} (goes : Goes o c) : Consistent o c := by
  rcases goes with ⟨done, tracks⟩ | ⟨-, consistent⟩
  · exact tracks.consistent
  · exact consistent

theorem goes_failSource {phase : StepPhase} {settled : List Key} {message : String}
    (book : Book o [(o.source.id, phase)] settled job) :
    Goes o (failSource o phase message job) :=
  .inr ⟨rfl, (book.closing.failStep List.not_mem_nil).consistent message⟩

theorem goes_failJoin {joiner : InventoryHost} {phase : StepPhase} {settled : List Key}
    {err : String} (book : Book o [(joiner.id, phase)] settled job) :
    Goes o (failJoin o joiner phase err job) :=
  .inr ⟨rfl, (book.closing.failStep List.not_mem_nil).consistent _⟩

theorem seeded_of_phase {phase : StepPhase} (member : phase ∈ phases o) :
    (o.source.id, phase) ∈ seeded o :=
  List.mem_append_left _ (List.mem_append_left _ (List.mem_map_of_mem member))

theorem seeded_of_spec {spec : JoinerSpec} {k : Key} (member : spec ∈ o.specs)
    (own : k ∈ specKeys spec) : k ∈ seeded o :=
  List.mem_append_left _ (List.mem_append_right _ (List.mem_flatMap.mpr ⟨spec, member, own⟩))

theorem goes_attempt {n : ℕ} (book : Book o [(o.source.id, .fetchJoinInfo)] (created o) job) :
    Goes o (attempt o n job) := by
  refine .inl ⟨[], ?_⟩
  cases o with
  | runJob founder joiners req => exact ⟨fun same => (by cases same), book, trivial⟩
  | runJoinHostsJob cluster sourceHost joiners req =>
      exact ⟨fun same => (by cases same), book, trivial⟩

theorem goes_nextJoiner {rest : List JoinerSpec} (book : Book o [] (served o done) job)
    (split : o.specs = done ++ rest) : Goes o (nextJoiner o job rest) := by
  cases rest with
  | nil =>
      rw [List.append_nil] at split
      refine .inl ⟨done, fun same => (by cases same), ?_, split⟩
      exact book.start (.inl (List.mem_append_right _ List.mem_cons_self))
  | cons spec rest =>
      rw [nextJoiner]
      cases found : findHost (joiners o) spec.hostID with
      | none => exact .inr ⟨rfl, book.closing.consistent _⟩
      | some joiner =>
          have key : joiner.id = spec.hostID := by
            have same := List.find?_some found
            simpa using same
          refine .inl ⟨done, fun same => (by cases same), ?_, spec, key.symm, split⟩
          have member : spec ∈ o.specs := by simp [split]
          apply book.start (.inl (seeded_of_spec member _))
          simp [specKeys, key]

theorem succeed_source {phase : StepPhase} {settled : List Key}
    (book : Book o [(o.source.id, phase)] settled job) (member : phase ∈ phases o) :
    Book o [] ((o.source.id, phase) :: settled) (job.setStep o.source.id phase .succeeded) := by
  refine book.succeed List.not_mem_nil (.inl (seeded_of_phase member)) fun same => ?_
  obtain rfl := congrArg Prod.snd same
  cases o with
  | runJob => simp [phases] at member
  | runJoinHostsJob => simp [phases] at member

theorem goes_joinOne {joiner : InventoryHost} {rest : List JoinerSpec} {call : JoinCall}
    {a : Answer} (tracks : Tracks o done ⟨.joining joiner rest call, job⟩) :
    Goes o (joinOne o joiner rest job a call) := by
  obtain ⟨going, book, splits⟩ := tracks
  obtain ⟨spec, key, split⟩ := splits
  have member : spec ∈ o.specs := by simp [split]
  have known : ∀ phase, (joiner.id, phase) ∈ specKeys spec → (joiner.id, phase) ∈ seeded o :=
    fun phase own => seeded_of_spec member own
  have joins : (joiner.id, StepPhase.join) ∈ seeded o := known _ (by simp [specKeys, key])
  have reauths : (joiner.id, StepPhase.reauthToken) ∈ seeded o :=
    known _ (by simp [specKeys, key])
  cases call with
  | authenticate =>
      simp only [joinOne]
      split
      · exact goes_failJoin book
      · exact .inl ⟨done, fun same => (by cases same), book, spec, key, split⟩
  | submit =>
      simp only [joinOne]
      split
      · exact goes_failJoin book
      · exact .inl ⟨done, fun same => (by cases same), book, spec, key, split⟩
  | await =>
      simp only [joinOne]
      split
      · exact goes_failJoin book
      · have joined := book.succeed List.not_mem_nil (.inl joins) fun same =>
          (by cases congrArg Prod.snd same)
        have started := joined.start (.inl reauths)
        split_ifs
        · exact goes_failJoin started
        · exact .inl ⟨done, fun same => (by cases same), started, spec, key, split⟩
  | persist =>
      simp only [joinOne]
      split
      · exact goes_failJoin book
      · have persisted := book.succeed List.not_mem_nil (.inl reauths) fun same =>
          (by cases congrArg Prod.snd same)
        exact .inl ⟨done, fun same => (by cases same), persisted, spec, key, split⟩
  | reread =>
      refine @goes_nextJoiner o (done ++ [spec]) job rest (book.mono ?_) (by simp [split])
      intro k member
      simp only [served, List.flatMap_append, List.flatMap_cons, List.flatMap_nil, List.append_nil,
        specKeys, List.mem_append, List.mem_cons, List.not_mem_nil, or_false, key] at member ⊢
      simp only [succeededBy, served, List.mem_append, List.mem_cons]
      tauto

theorem result_eq_ok_iff {a : Answer} {u : Unit} : a.result = .ok u ↔ a.error = none := by
  rw [Answer.result]
  cases a.error with
  | none => exact iff_of_true rfl rfl
  | some err => exact iff_of_false (fun same => (by cases same)) fun same => (by cases same)

theorem all_served (split : o.specs = done) :
    ∀ k ∈ seeded o, k ∈ served o done ∨ k = (o.source.id, .updateInventory) := by
  intro k member
  rw [seeded, split, List.mem_append, List.mem_singleton] at member
  exact member

theorem fetchJoinInfo_mem : StepPhase.fetchJoinInfo ∈ phases o := by
  cases o <;> simp [phases]

theorem created_subset : created o ⊆ [(o.source.id, .createCluster)] := by
  cases o with
  | runJob founder joiners req => exact fun _ member => member
  | runJoinHostsJob => exact List.nil_subset _

theorem served_nil_subset : served o [] ⊆ (o.source.id, .fetchJoinInfo) :: created o := by
  intro k member
  rw [served, List.flatMap_nil, List.append_nil] at member
  cases o with
  | runJob founder joiners req =>
      simp only [phases, List.map_cons, List.map_nil, List.mem_cons, List.not_mem_nil,
        or_false] at member
      simp only [created, List.mem_cons, List.not_mem_nil, or_false]
      exact member.symm
  | runJoinHostsJob => exact member

theorem goes_next {c : Progress} {a : Answer} (tracks : Tracks o done c) (closes : Closes o c a) :
    Goes o (next o c a) := by
  obtain ⟨phase, job⟩ := c
  obtain ⟨going, book, splits⟩ := tracks
  cases phase with
  | authenticate =>
      simp only [next]
      split
      · exact .inr ⟨rfl, book.closing.consistent _⟩
      · exact .inr ⟨rfl, book.closing.consistent _⟩
      · exact .inl ⟨done, fun same => (by cases same), book.start (.inl (seeded_of_phase splits)),
          splits⟩
  | create =>
      simp only [next]
      split
      · exact .inl ⟨done, fun same => (by cases same), book, splits⟩
      · split_ifs
        · exact .inl ⟨done, fun same => (by cases same), book.start (.inr rfl), splits⟩
        · exact goes_failSource book
  | cleanup =>
      simp only [next]
      split
      · have closing := (book.closing.failStep (by simp)).failStep List.not_mem_nil
        exact .inr ⟨rfl, closing.consistent _⟩
      · have cleaned := book.succeed (by simp) (.inr rfl) fun same =>
          (by cases congrArg Prod.snd same)
        exact .inl ⟨done, fun same => (by cases same), cleaned.mono (List.nil_subset _), splits⟩
  | reauthenticate =>
      simp only [next]
      split
      · exact goes_failSource book
      · exact .inl ⟨done, fun same => (by cases same), book, splits⟩
  | recreate =>
      simp only [next]
      split
      · exact goes_failSource book
      · exact .inl ⟨done, fun same => (by cases same), book, splits⟩
  | waitForTask =>
      simp only [next]
      split
      · exact goes_failSource book
      · have started := (succeed_source book splits).start
          (.inl (seeded_of_phase fetchJoinInfo_mem))
        exact goes_attempt (started.mono created_subset)
  | refreshTicket n =>
      simp only [next]
      split
      · exact .inl ⟨done, fun same => (by cases same), book, trivial⟩
      · exact .inl ⟨done, fun same => (by cases same), book, trivial⟩
  | fetchJoinInfo n =>
      simp only [next]
      split
      · exact .inl ⟨done, fun same => (by cases same), book, trivial⟩
      · have fetched := succeed_source book fetchJoinInfo_mem
        exact goes_nextJoiner (fetched.mono served_nil_subset) rfl
  | pause n lastErr =>
      have closes : a.cancelled = false := closes
      simp only [next, closes, Bool.false_eq_true, if_false]
      cases n with
      | zero => exact goes_failSource book
      | succ n => exact goes_attempt book
  | joining joiner rest call => exact goes_joinOne ⟨going, book, splits⟩
  | updateInventory =>
      have closes : a.error = none → (o.specs.map (·.hostID)).Nodup := closes
      simp only [next]
      split
      · exact goes_failSource book
      · next accepted =>
          have nodup := closes (result_eq_ok_iff.mp accepted)
          exact .inr ⟨rfl, (book.consistent_iff (all_served splits) _).mpr nodup⟩
  | ended => exact absurd rfl going

/-- A context that is done in a pause leaves the fetch running, and a host that is named twice
leaves the steps of the second one pending. -/
theorem closes_of_consistent {c : Progress} {a : Answer} (tracks : Tracks o done c)
    (consistent : Consistent o (next o c a)) : Closes o c a := by
  obtain ⟨phase, job⟩ := c
  obtain ⟨going, book, splits⟩ := tracks
  cases phase with
  | pause n lastErr =>
      by_contra cancelled
      have cancelled : a.cancelled = true := by simpa [Closes] using cancelled
      simp only [next, cancelled, if_true] at consistent
      exact book.closing.inconsistent List.mem_cons_self _ consistent
  | updateInventory =>
      intro accepted
      have accepted : a.result = .ok () := result_eq_ok_iff.mpr accepted
      simp only [next, accepted] at consistent
      exact (book.consistent_iff (all_served splits) _).mp consistent
  | authenticate | create | cleanup | reauthenticate | recreate | waitForTask | refreshTicket
  | fetchJoinInfo | joining | ended => trivial

end Steps

section Main

variable {o : Orchestration} {job : Job}

/-- A job's record before its first step. -/
structure Fresh (o : Orchestration) (job : Job) : Prop where
  running : job.state = .running
  pending : ledger job = (seeded o).map fun k => (k, .pending)

theorem ledger_seed {jobID clusterName datacenterID : String} :
    ledger (seed jobID clusterName datacenterID o.source (phases o) o.specs) =
      (seeded o).map fun k => (k, .pending) := by
  simp only [ledger, seed, seeded, List.map_append, List.map_map, List.map_flatMap]
  rfl

theorem fresh_startJob {db : DB} {jobID : String} {req : StartJobRequest}
    (started : startJob db jobID req = .ok (job, o)) : Fresh o job := by
  obtain ⟨-, founder, joiners, -, -, rfl, rfl⟩ := startJob_eq_ok_iff.mp started
  exact ⟨rfl, ledger_seed (o := .runJob founder joiners req)⟩

theorem fresh_startJoinHostsJob {db : DB} {jobID : String} {req : StartJoinHostsJobRequest}
    (started : startJoinHostsJob db jobID req = .ok (job, o)) : Fresh o job := by
  obtain ⟨-, cluster, sourceHost, joiners, -, -, -, -, rfl, rfl⟩ :=
    startJoinHostsJob_eq_ok_iff.mp started
  exact ⟨rfl, ledger_seed (o := .runJoinHostsJob cluster sourceHost joiners req)⟩

theorem Fresh.keys (fresh : Fresh o job) : (ledger job).map Prod.fst = seeded o := by
  rw [fresh.pending, List.map_map]
  exact List.map_id _

theorem Fresh.state (fresh : Fresh o job) {k : Key} {st : StepState}
    (found : stateOf job k = some st) : st = .pending := by
  have member := Ledger.mem_of_lookup found
  rw [fresh.pending] at member
  obtain ⟨_, -, same⟩ := List.mem_map.mp member
  exact (congrArg Prod.snd same).symm

theorem Fresh.book (fresh : Fresh o job) : Book o [] [] job := by
  refine ⟨fresh.running, ?_, .inl fresh.keys, fun k => ?_, fun k member => ?_, .inl ?_, .inl ?_⟩
  · rw [fresh.pending]
    apply Ledger.shadowed_of_fresh
    intro e member
    obtain ⟨_, -, rfl⟩ := List.mem_map.mp member
    rfl
  · refine iff_of_false (fun running => ?_) List.not_mem_nil
    cases fresh.state running
  · cases member
  · have listed : (o.source.id, StepPhase.updateInventory) ∈ (ledger job).map Prod.fst := by
      rw [fresh.keys]
      exact List.mem_append_right _ List.mem_cons_self
    obtain ⟨st, found⟩ := Option.ne_none_iff_exists'.mp (not_none_of_listed listed)
    rw [found, fresh.state found]
  · refine List.lookup_eq_none_iff.mpr fun e member => ?_
    have apart : (o.source.id, StepPhase.cleanupCorosync) ≠ e.1 := by
      rintro same
      have listed := List.mem_map_of_mem (f := Prod.fst) member
      rw [fresh.keys, ← same] at listed
      exact cleanup_not_seeded listed
    simpa using apart

theorem goes_begin (fresh : Fresh o job) : Goes o (begin_ o job) := by
  cases o with
  | runJob founder joiners req =>
      refine .inl ⟨[], fun same => (by cases same), fresh.book, ?_⟩
      exact List.mem_cons_self
  | runJoinHostsJob cluster sourceHost joiners req =>
      rw [begin_]
      cases buildClient sourceHost with
      | error err => exact .inr ⟨rfl, fresh.book.closing.consistent _⟩
      | ok client =>
          exact goes_attempt (fresh.book.start (.inl (seeded_of_phase fetchJoinInfo_mem)))

theorem consistent_next_iff {c : Progress} {a : Answer}
    (within : (∃ done, Tracks o done c) ∨ c.phase = .ended) (consistent : Consistent o c) :
    Consistent o (next o c a) ↔ Closes o c a := by
  rcases within with ⟨done, tracks⟩ | ended
  · exact ⟨closes_of_consistent tracks, fun closes => (goes_next tracks closes).consistent⟩
  · rw [next_ended ended]
    refine iff_of_true consistent ?_
    rw [Closes, ended]
    trivial

theorem ended_of_not_closes {c : Progress} {a : Answer} (breaks : ¬Closes o c a) :
    (next o c a).phase = .ended := by
  obtain ⟨phase, job⟩ := c
  cases phase with
  | pause n lastErr =>
      have cancelled : a.cancelled = true := by simpa [Closes] using breaks
      simp only [next, cancelled, if_true]
      rfl
  | updateInventory =>
      simp only [next]
      split <;> rfl
  | authenticate | create | cleanup | reauthenticate | recreate | waitForTask | refreshTicket
  | fetchJoinInfo | joining | ended => exact absurd trivial breaks

theorem within_next {c : Progress} {a : Answer}
    (within : (∃ done, Tracks o done c) ∨ c.phase = .ended) :
    (∃ done, Tracks o done (next o c a)) ∨ (next o c a).phase = .ended := by
  rcases within with ⟨done, tracks⟩ | ended
  · by_cases closes : Closes o c a
    · exact (goes_next tracks closes).imp id And.left
    · exact .inr (ended_of_not_closes closes)
  · rw [next_ended ended]
    exact .inr ended

/-- Every job that is started ends, and its record is as it should be all the time, exactly if its
context is not done in a pause and the inventory takes no host twice. -/
theorem record_consistent_iff {db : DB} {jobID : String} {req : StartJobRequest}
    {joinReq : StartJoinHostsJobRequest}
    (started : startJob db jobID req = .ok (job, o) ∨
      startJoinHostsJob db jobID joinReq = .ok (job, o)) (answers : List Answer) :
    (∃ n, ∀ more : List Answer, n ≤ more.length →
        (more.foldl (next o) (begin_ o job)).phase = .ended) ∧
      ((∀ c ∈ states (next o) (begin_ o job) answers, Consistent o c) ↔
        Along (next o) (Closes o) (begin_ o job) answers) := by
  refine ⟨exists_ended o job, ?_⟩
  have fresh : Fresh o job := by
    rcases started with formation | joining
    · exact fresh_startJob formation
    · exact fresh_startJoinHostsJob joining
  have goes := goes_begin fresh
  refine @invariant_iff_along_within Progress Answer (next o) (Closes o)
    (fun c => (∃ done, Tracks o done c) ∨ c.phase = .ended) (Consistent o) (begin_ o job) answers
    ?_ ?_ (goes.imp id And.left) goes.consistent
  · exact fun c a _ within => within_next within
  · exact fun c a _ within consistent => consistent_next_iff within consistent

def answered : Answer := ⟨none, "AA:BB", "c1", false⟩

/-- The answers to a job that forms a cluster of two hosts. -/
def smooth : List Answer := List.replicate 11 answered

/-- There is no fingerprint in the join information, and the job's time is up in the pause. -/
def late : List Answer :=
  List.replicate 4 answered ++
    [{ answered with fingerprint := "" }, { answered with cancelled := true }]

/-- The second host is named twice. -/
def doubled : StartJobRequest := { labRequest with joiners := [⟨"h2", "pw", ""⟩, ⟨"h2", "pw", ""⟩] }

def doubledJob : Orchestration :=
  .runJob (labHost "h1" "10.0.0.1:8006" "s1")
    [labHost "h2" "10.0.0.2:8006" "s1", labHost "h2" "10.0.0.2:8006" "s1"] doubled

def doubledRecord : Job :=
  seed "j1" "lab" "dc1" (labHost "h1" "10.0.0.1:8006" "s1") [.createCluster, .fetchJoinInfo]
    doubled.joiners

theorem smooth_consistent :
    (smooth.foldl (next (labJob "s1")) (begin_ (labJob "s1") (labWorld "s1").job)).job.state =
        .succeeded ∧
      ∀ c ∈ states (next (labJob "s1")) (begin_ (labJob "s1") (labWorld "s1").job) smooth,
        Consistent (labJob "s1") c := by
  refine ⟨by decide +kernel, ?_⟩
  refine (@record_consistent_iff (labJob "s1") (labWorld "s1").job (labDB "s1") "j1" labRequest
    ⟨"", []⟩ (.inl rfl) smooth).2.mpr ?_
  decide +kernel

/-- A job that fails with a step running, and one that succeeds with steps pending. -/
theorem records_inconsistent :
    (startJob (labDB "s1") "j1" labRequest = .ok ((labWorld "s1").job, labJob "s1") ∧
      ¬∀ c ∈ states (next (labJob "s1")) (begin_ (labJob "s1") (labWorld "s1").job) late,
        Consistent (labJob "s1") c) ∧
      startJob (labDB "s1") "j1" doubled = .ok (doubledRecord, doubledJob) ∧
      ¬∀ c ∈ states (next doubledJob) (begin_ doubledJob doubledRecord)
        (List.replicate 16 answered), Consistent doubledJob c := by
  refine ⟨⟨rfl, fun all => ?_⟩, rfl, fun all => ?_⟩
  · have last := all _ (last_mem_states _ late)
    have closed := last.closed ((last.verdict).mpr (by decide +kernel))
    revert closed
    decide +kernel
  · have last := all _ (last_mem_states _ _)
    have succeeded := last.succeeded (by decide +kernel)
    revert succeeded
    decide +kernel

end Main

end ClusterJobs
