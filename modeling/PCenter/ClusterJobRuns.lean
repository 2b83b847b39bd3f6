import PCenter.ClusterJobs

/-!
# The cluster jobs as procedures and as machines

Whatever the hosts and the inventory answer, the procedures `runJob` and `runJoinHostsJob` leave
the record that the machines leave when they are given the same answers.
-/

namespace ClusterJobs

open PveCluster Inventory Transition Procedure

section Following

variable {A B : Type} (o : Orchestration) (words : String → String)

/-- What a machine has come to when a part of the job has ended. -/
def after (reached : A → Job → Progress) : Except String A × World → Progress
  | (.ok a, w) => reached a w.job
  | (.error message, w) => fail w.job (words message)

/-- There are answers that take the machine where a part of the job leads. -/
def Follows (c : Progress) (x : Run A) (w : World) (reached : A → Job → Progress) : Prop :=
  ∃ answers : List Answer, answers.foldl (next o) c = after words reached (exec x w)

variable {o words} {c : Progress} {x : Run A} {k : A → Run B} {w : World}
  {middle : A → Job → Progress} {reached : B → Job → Progress}

theorem follows_pure {b : B} (there : c = reached b w.job) :
    Follows o words c (pure b : Run B) w reached := ⟨[], there⟩

theorem follows_throw {message : String} (there : c = fail w.job (words message)) :
    Follows o words c (throw message : Run B) w reached := ⟨[], there⟩

theorem follows_bind (first : Follows o words c x w middle)
    (later : ∀ a w', Follows o words (middle a w'.job) (k a) w' reached) :
    Follows o words c (x >>= k) w reached := by
  obtain ⟨answers, ended⟩ := first
  rw [Follows, exec_bind]
  cases ran : exec x w with
  | mk outcome w' =>
      rw [ran] at ended
      cases outcome with
      | error message => exact ⟨answers, ended⟩
      | ok a =>
          obtain ⟨more, finished⟩ := later a w'
          refine ⟨answers ++ more, ?_⟩
          rw [List.foldl_append, ended]
          exact finished

theorem follows_rename {message : String → String} {x : Run B}
    (plain : Follows o (words ∘ message) c x w reached) :
    Follows o words c (rename message x) w reached := by
  obtain ⟨answers, ended⟩ := plain
  refine ⟨answers, ended.trans ?_⟩
  have renamed : exec (rename message x) w = ((exec x w).1.mapError message, (exec x w).2) := rfl
  rw [renamed]
  cases exec x w with
  | mk outcome w' => cases outcome <;> rfl

/-- A part of the job that answers and leaves the record alone. -/
def Asks (x : Run A) : Prop := ∀ w, ∃ a w', exec x w = (.ok a, w') ∧ w'.job = w.job

theorem asks_ask {question : ℕ → A} : Asks (ask question) := fun _ => ⟨_, _, rfl, rfl⟩

theorem asks_getHost {id : String} : Asks (getHost id) := fun _ => ⟨_, _, rfl, rfl⟩

theorem asks_write {change : DB → Except String (A × DB)} : Asks (write change) := by
  intro w
  refine ⟨_, _, rfl, ?_⟩
  cases changed : change w.db with
  | ok made => simp [changed]
  | error err => simp [changed]

theorem asks_tellPoller {outside : Outside} {calls : List PollerCall} :
    Asks (tellPoller outside calls) := by
  intro w
  refine ⟨(), _, rfl, ?_⟩
  cases outside.hasPoller <;> rfl

theorem follows_silent (p : Job → Progress) (asks : Asks x)
    (later : ∀ a w', Follows o words (p w'.job) (k a) w' reached) :
    Follows o words (p w.job) (x >>= k) w reached := by
  obtain ⟨a, w', ran, kept⟩ := asks w
  have rest := later a w'
  rw [Follows, exec_bind, ran, ← kept]
  exact rest

theorem follows_call (call : Phase) (answer : A → Answer) (asks : Asks x)
    (later : ∀ a w', Follows o words (next o ⟨call, w'.job⟩ (answer a)) (k a) w' reached) :
    Follows o words ⟨call, w.job⟩ (x >>= k) w reached := by
  obtain ⟨a, w', ran, kept⟩ := asks w
  obtain ⟨answers, ended⟩ := later a w'
  rw [Follows, exec_bind, ran, ← kept]
  exact ⟨answer a :: answers, ended⟩

theorem follows_setStep {hostID : String} {phase : StepPhase} {state : StepState}
    {k : Unit → Run B} (p : Job → Progress)
    (later : ∀ w', Follows o words (p w'.job) (k ()) w' reached) :
    Follows o words (p (w.job.setStep hostID phase state)) (setStep hostID phase state >>= k) w
      reached := later { w with job := w.job.setStep hostID phase state }

theorem follows_orFail {value : Except String A} {hostID : String} {phase : StepPhase}
    {message : String → String} (p : Except String A → Progress)
    (good : ∀ a, Follows o words (p (.ok a)) (k a) w reached)
    (bad : ∀ err, p (.error err) =
      fail (w.job.setStep hostID phase .failed) (words (message err))) :
    Follows o words (p value) (orFail value hostID phase message >>= k) w reached := by
  cases value with
  | error err => exact ⟨[], bad err⟩
  | ok a => exact good a

theorem follows_callOrFail {x : Run (Except String A)} {hostID : String}
    {phase : StepPhase} {message : String → String} (call : Phase)
    (answer : Except String A → Answer) (asks : Asks x)
    (good : ∀ a w', Follows o words (next o ⟨call, w'.job⟩ (answer (.ok a))) (k a) w' reached)
    (bad : ∀ (err : String) (w' : World), next o ⟨call, w'.job⟩ (answer (.error err)) =
      fail (w'.job.setStep hostID phase .failed) (words (message err))) :
    Follows o words ⟨call, w.job⟩
      (x >>= fun value => orFail value hostID phase message >>= k) w reached := by
  refine follows_call call answer asks fun value w' => ?_
  exact follows_orFail (fun value => next o ⟨call, w'.job⟩ (answer value)) (fun a => good a w')
    fun err => bad err w'

theorem follows_orThrow {a : A} {message : String → String}
    (later : Follows o words c (k a) w reached) :
    Follows o words c (orThrow ((Except.ok a : Except String A).mapError message) >>= k) w
      reached := later

/-- What the machine is told of a call that may fail. -/
def told {A : Type} : Except String A → Answer
  | .ok _ => ⟨none, "", "", false⟩
  | .error err => ⟨some ⟨err, false⟩, "", "", false⟩

end Following

section Forming

variable {outside : Outside} {o : Orchestration} {w : World} {req : StartJobRequest}

theorem follows_retryCreate :
    Follows o id ⟨.cleanup, w.job.setStep o.source.id .cleanupCorosync .running⟩
      (retryCreate outside o.source req) w fun _ job => ⟨.waitForTask, job⟩ := by
  refine follows_setStep (fun job => ⟨.cleanup, job⟩) fun w => ?_
  refine follows_call .cleanup told asks_ask fun cleaned w => ?_
  cases cleaned with
  | error err =>
      refine follows_setStep (fun job => failSource o .createCluster _ job) fun w => ?_
      refine follows_setStep (fun job => fail job _) fun w => ?_
      exact follows_throw rfl
  | ok done =>
      refine follows_setStep (fun job => ⟨.reauthenticate, job⟩) fun w => ?_
      refine follows_callOrFail .reauthenticate told asks_ask (fun auth w => ?_) fun err w => rfl
      refine follows_call .recreate told asks_ask fun created w => ?_
      cases created with
      | error err => exact follows_setStep (fun job => fail job _) fun w => follows_throw rfl
      | ok upid => exact follows_pure rfl

theorem follows_createCluster {auth : AuthResult} :
    Follows o id ⟨.create, w.job⟩ (createCluster outside o.source req auth) w
      fun _ job => ⟨.waitForTask, job⟩ := by
  refine follows_call .create told asks_ask fun created w => ?_
  cases created with
  | ok upid => exact follows_pure rfl
  | error err =>
      simp only [next, told, Answer.result]
      split_ifs with leftover
      · exact follows_retryCreate
      · exact follows_setStep (fun job => fail job _) fun w => follows_throw rfl

/-- What a try for the join information leads to. -/
def tried (o : Orchestration) (left : ℕ) : Except String ClusterJoinInfo → Job → Progress
  | .ok _, job => nextJoiner o (job.setStep o.source.id .fetchJoinInfo .succeeded) o.specs
  | .error err, job => ⟨.pause left err, job⟩

/-- What the machine is told of the join information. -/
def toldInfo : Except String ClusterJoinInfo → Answer
  | .ok info => ⟨none, info.fingerprint, "", false⟩
  | .error err => ⟨some ⟨err, false⟩, "", "", false⟩

theorem next_toldInfo {n : ℕ} {job : Job} (answer : Except String ClusterJoinInfo) :
    next o ⟨.fetchJoinInfo n, job⟩ (toldInfo answer) = tried o n (withFingerprint answer) job := by
  cases answer with
  | error err => rfl
  | ok info =>
      simp only [next, toldInfo, Answer.result, Except.map, withFingerprint]
      split_ifs <;> rfl

theorem follows_joinInfoAttempt {founder : InventoryHost} {joiners : List InventoryHost} {n : ℕ} :
    Follows (.runJob founder joiners req) id (attempt (.runJob founder joiners req) n w.job)
      (joinInfoAttempt outside founder req) w (tried (.runJob founder joiners req) n) := by
  refine follows_call (.refreshTicket n) told asks_ask fun fresh w => ?_
  cases fresh with
  | error err => exact follows_pure rfl
  | ok auth =>
      refine follows_call (.fetchJoinInfo n) toldInfo asks_ask fun answer w => ?_
      exact follows_pure (next_toldInfo answer)

/-- What all the tries lead to. -/
def found (o : Orchestration) : Except String ClusterJoinInfo → Job → Progress
  | .ok _, job => nextJoiner o (job.setStep o.source.id .fetchJoinInfo .succeeded) o.specs
  | .error err, job => failSource o .fetchJoinInfo (noInfo o err) job

/-- The machine after a pause that was not cut short. -/
def retry (o : Orchestration) (err : String) (job : Job) : ℕ → Progress
  | 0 => failSource o .fetchJoinInfo (noInfo o err) job
  | left + 1 => attempt o left job

theorem follows_try {try_ : Run (Except String ClusterJoinInfo)} {n : ℕ} {lastErr : String}
    (each : Follows o id (attempt o n w.job) try_ w (tried o n))
    (again : ∀ err w, Follows o id (retry o err w.job n) (retryJoinInfo outside try_ n err) w
      (found o)) :
    Follows o id (attempt o n w.job) (retryJoinInfo outside try_ (n + 1) lastErr) w (found o) := by
  refine follows_bind each fun answer w => ?_
  cases answer with
  | ok info => exact follows_pure rfl
  | error err =>
      refine follows_call (.pause n err) (⟨none, "", "", ·⟩) asks_ask fun done w => ?_
      cases done with
      | true => exact follows_throw rfl
      | false =>
          have more := again err w
          cases n <;> exact more

theorem follows_retryJoinInfo {try_ : Run (Except String ClusterJoinInfo)}
    (each : ∀ n w, Follows o id (attempt o n w.job) try_ w (tried o n)) (n : ℕ) (lastErr : String) :
    Follows o id (attempt o n w.job) (retryJoinInfo outside try_ (n + 1) lastErr) w (found o) := by
  induction n generalizing w lastErr with
  | zero => exact follows_try (each 0 w) fun err w => follows_pure rfl
  | succ n ih => exact follows_try (each (n + 1) w) fun err w => ih err

end Forming

section Joining

variable {outside : Outside} {o : Orchestration} {w : World} {joiner : InventoryHost}
  {rest : List JoinerSpec} {info : ClusterJoinInfo}

/-- What the machine is told of a join. -/
def toldJoin : Except JoinError String → Answer
  | .ok _ => ⟨none, "", "", false⟩
  | .error err => ⟨some err, "", "", false⟩

/-- What the answer to a join leads to. -/
def accepted (o : Orchestration) (joiner : InventoryHost) (rest : List JoinerSpec) (job : Job) :
    Except String Unit → Progress
  | .error err => failJoin o joiner .join ("join: " ++ err) job
  | .ok _ => ⟨.joining joiner rest .await, job⟩

theorem next_toldJoin {job : Job} (joined : Except JoinError String) :
    next o ⟨.joining joiner rest .submit, job⟩ (toldJoin joined) =
      accepted o joiner rest job (submitted joined) := by
  cases joined with
  | ok upid => rfl
  | error err =>
      simp only [next, ClusterJobs.joinOne, toldJoin]
      cases submitted (.error err) <;> rfl

/-- The machine that hands a joiner the token of the source. -/
def reauth (o : Orchestration) (joiner : InventoryHost) (rest : List JoinerSpec) (job : Job) :
    Progress :=
  if o.source.tokenID = "" ∨ o.source.tokenSecret = "" then
    failJoin o joiner .reauthToken
      ("source host " ++ o.source.nodeName ++ " has no stored API token to copy") job
  else ⟨.joining joiner rest .persist, job⟩

/-- What the wait for the membership leads to. -/
def admitted (o : Orchestration) (joiner : InventoryHost) (rest : List JoinerSpec) :
    Except String Unit → Job → Progress
  | .error err, job => failJoin o joiner .join ("waiting for membership: " ++ err) job
  | .ok _, job =>
      reauth o joiner rest
        ((job.setStep joiner.id .join .succeeded).setStep joiner.id .reauthToken .running)

theorem next_await {job : Job} {a : Answer} :
    next o ⟨.joining joiner rest .await, job⟩ a =
      admitted o joiner rest (awaited o joiner a) job := by
  simp only [next, ClusterJobs.joinOne]
  cases awaited o joiner a <;> rfl

/-- What the machine is told of the polls for the membership. -/
def toldPolls (joinerNode : String) (polls : List (Except String (List ClusterNode))) : Answer :=
  if appears joinerNode polls then ⟨none, "", "", false⟩ else ⟨some ⟨"", false⟩, "", "", false⟩

theorem follows_waitForMembership {words : String → String} :
    Follows o words ⟨.joining joiner rest .await, w.job⟩
      (waitForMembership outside o.source joiner.nodeName) w (admitted o joiner rest) := by
  rw [waitForMembership]
  cases built : buildClient o.source with
  | error err =>
      refine ⟨[⟨none, "", "", false⟩], ?_⟩
      rw [List.foldl_cons, List.foldl_nil, next_await, awaited, built]
      rfl
  | ok client =>
      refine follows_call (.joining joiner rest .await) (toldPolls joiner.nodeName) asks_ask
        fun polls w => ?_
      rw [next_await, awaited, built, toldPolls]
      by_cases member : appears joiner.nodeName polls
      · rw [if_pos member, if_pos member]
        exact follows_pure rfl
      · rw [if_neg member, if_neg member]
        exact follows_pure rfl

theorem follows_joinOne {founderIP : String} {spec : JoinerSpec} :
    Follows o (joinFailed o.source joiner)
      ⟨.joining joiner rest .authenticate, w.job.setStep joiner.id .join .running⟩
      (PveCluster.joinOne outside o.source founderIP joiner spec info) w
      fun _ job => ⟨.joining joiner rest .reread, job⟩ := by
  refine follows_setStep (fun job => ⟨.joining joiner rest .authenticate, job⟩) fun w => ?_
  refine follows_callOrFail (.joining joiner rest .authenticate) told asks_ask (fun auth w => ?_)
    fun err w => rfl
  refine follows_call (.joining joiner rest .submit) toldJoin asks_ask fun joined w => ?_
  rw [next_toldJoin]
  refine follows_orFail (accepted o joiner rest w.job) (fun _ => ?_) fun err => rfl
  refine follows_bind follows_waitForMembership fun member w => ?_
  refine follows_orFail (admitted o joiner rest · w.job) (fun _ => ?_) fun err => rfl
  refine follows_setStep
    (fun job => reauth o joiner rest (job.setStep joiner.id .reauthToken .running)) fun w => ?_
  refine follows_setStep (reauth o joiner rest) fun w => ?_
  rw [reauth]
  by_cases missing : o.source.tokenID = "" ∨ o.source.tokenSecret = ""
  · rw [if_pos missing, if_pos missing]
    exact follows_setStep (fun job => fail job _) fun w => follows_throw rfl
  · rw [if_neg missing, if_neg missing]
    refine follows_callOrFail (.joining joiner rest .persist) told asks_write
      (fun _ w => ?_) fun err w => rfl
    exact follows_setStep (fun job => ⟨.joining joiner rest .reread, job⟩) fun w => follows_pure rfl

theorem follows_joinNext {spec : JoinerSpec} {updates : TokenUpdates} :
    Follows o id (nextJoiner o w.job (spec :: rest))
      (joinNext outside o.source (joiners o) info updates spec) w
      fun _ job => nextJoiner o job rest := by
  rw [nextJoiner, joinNext]
  cases findHost (joiners o) spec.hostID with
  | none => exact follows_throw rfl
  | some joiner =>
      refine follows_bind (follows_rename follows_joinOne) fun _ w => ?_
      refine follows_call (.joining joiner rest .reread) (fun _ => ⟨none, "", "", false⟩)
        asks_getHost fun stored w => ?_
      cases stored with
      | none => exact follows_pure rfl
      | some host => exact follows_pure rfl

theorem follows_joinAll (specs : List JoinerSpec) (updates : TokenUpdates) :
    Follows o id (nextJoiner o w.job specs)
      (specs.foldlM (joinNext outside o.source (joiners o) info) updates) w
      fun _ job => nextJoiner o job [] := by
  induction specs generalizing w updates with
  | nil => exact follows_pure rfl
  | cons spec rest ih =>
      rw [List.foldlM_cons]
      exact follows_bind follows_joinNext fun updates w => ih updates

end Joining

section Jobs

variable {outside : Outside} {o : Orchestration} {w : World}

/-- The verdict of a job that came to its end. -/
def closed (clusterID : String) (job : Job) : Progress := ⟨.ended, job.markSucceeded clusterID⟩

/-- What the machine is told of the change of the inventory. -/
def toldUpdate {A : Type} (clusterID : A → String) : Except String A → Answer
  | .ok a => ⟨none, "", clusterID a, false⟩
  | .error err => ⟨some ⟨err, false⟩, "", "", false⟩

theorem follows_runJob {founder : InventoryHost} {joiners : List InventoryHost}
    {req : StartJobRequest} :
    Follows (.runJob founder joiners req) id ⟨.authenticate, w.job⟩
      (runJob outside founder joiners req) w closed := by
  refine follows_call .authenticate told asks_ask fun auth w => ?_
  cases auth with
  | error err => exact ⟨[], rfl⟩
  | ok auth =>
      simp only [next, told, Answer.result, Orchestration.source]
      cases buildClient founder with
      | error err => exact ⟨[], rfl⟩
      | ok client =>
          refine follows_orThrow (follows_orThrow ?_)
          refine follows_setStep (fun job => ⟨.create, job⟩) fun w => ?_
          refine follows_bind
            (@follows_createCluster outside (.runJob founder joiners req) w req auth)
            fun upid w => ?_
          refine follows_callOrFail .waitForTask told asks_ask (fun _ w => ?_) fun err w => rfl
          refine follows_setStep (fun job => attempt (.runJob founder joiners req) 7
            (job.setStep founder.id .fetchJoinInfo .running)) fun w => ?_
          refine follows_setStep (fun job => attempt (.runJob founder joiners req) 7 job)
            fun w => ?_
          refine follows_bind (follows_retryJoinInfo (fun _ _ => follows_joinInfoAttempt) 7 _)
            fun info w => ?_
          refine follows_orFail (found (.runJob founder joiners req) · w.job) (fun info => ?_)
            fun err => rfl
          refine follows_setStep (fun job => nextJoiner (.runJob founder joiners req) job
            req.joiners) fun w => ?_
          refine follows_bind
            (@follows_joinAll outside (.runJob founder joiners req) w info req.joiners [])
            fun updates w => ?_
          refine follows_setStep (fun job => ⟨.updateInventory, job⟩) fun w => ?_
          refine follows_silent (fun job => ⟨.updateInventory, job⟩) asks_ask fun uuid w => ?_
          refine follows_callOrFail .updateInventory (toldUpdate (·.id)) asks_write
            (fun cluster w => ?_) fun err w => rfl
          refine follows_setStep (closed cluster.id) fun w => ?_
          exact follows_silent (closed cluster.id) asks_tellPoller fun _ w => follows_pure rfl

theorem follows_runJoinHostsJob {cluster : Cluster} {sourceHost : InventoryHost}
    {joiners : List InventoryHost} {req : StartJoinHostsJobRequest} :
    Follows (.runJoinHostsJob cluster sourceHost joiners req) id
      (begin_ (.runJoinHostsJob cluster sourceHost joiners req) w.job)
      (runJoinHostsJob outside cluster sourceHost joiners req) w closed := by
  rw [begin_, runJoinHostsJob]
  cases buildClient sourceHost with
  | error err => exact ⟨[], rfl⟩
  | ok client =>
      refine follows_orThrow ?_
      refine follows_setStep
        (fun job => attempt (.runJoinHostsJob cluster sourceHost joiners req) 4 job) fun w => ?_
      refine follows_bind (follows_retryJoinInfo (fun n w => ?_) 4 _) fun info w => ?_
      · refine follows_call (.fetchJoinInfo n) toldInfo asks_ask fun answer w => ?_
        exact follows_pure (next_toldInfo answer)
      · refine follows_orFail (found (.runJoinHostsJob cluster sourceHost joiners req) · w.job)
          (fun info => ?_) fun err => rfl
        refine follows_setStep
          (fun job => nextJoiner (.runJoinHostsJob cluster sourceHost joiners req) job req.joiners)
          fun w => ?_
        refine follows_bind
          (@follows_joinAll outside (.runJoinHostsJob cluster sourceHost joiners req) w info
            req.joiners [])
          fun updates w => ?_
        refine follows_setStep (fun job => ⟨.updateInventory, job⟩) fun w => ?_
        refine follows_callOrFail .updateInventory (toldUpdate fun _ => cluster.id) asks_write
          (fun _ w => ?_) fun err w => rfl
        refine follows_setStep (closed cluster.id) fun w => ?_
        refine follows_silent (closed cluster.id) asks_getHost fun stored w => ?_
        exact follows_silent (closed cluster.id) asks_tellPoller fun _ w => follows_pure rfl

/-- A job leaves the record that the machine leaves with some answers. -/
theorem finish_is_run (o : Orchestration) (outside : Outside) (w : World) :
    ∃ answers : List Answer,
      answers.foldl (next o) (begin_ o w.job) = ⟨.ended, (o.finish outside w).job⟩ := by
  have follows : Follows o id (begin_ o w.job) (o.body outside) w closed := by
    cases o with
    | runJob => exact follows_runJob
    | runJoinHostsJob => exact follows_runJoinHostsJob
  obtain ⟨answers, ended⟩ := follows
  refine ⟨answers, ended.trans ?_⟩
  rw [Orchestration.finish]
  cases exec (o.body outside) w with
  | mk outcome w' => cases outcome <;> rfl

end Jobs

end ClusterJobs
