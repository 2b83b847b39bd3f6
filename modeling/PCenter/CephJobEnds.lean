import PCenter.CephInstallRuns

/-!
# How the Ceph jobs end

What the record of an install or a destroy job looks like when the job has returned: when it
agrees with the end that the job is marked with.
-/

namespace CephCluster

open Program

/-- The job of an accepted request has returned, with this history and this record. -/
def Finished (fmt : Formats) (outside : Outside) (clients : Clients) :
    Request → List Entry → Job → Prop
  | .install req, h, job => Installed fmt outside clients req h job
  | .destroy req, h, job => Destroyed outside clients req h job

/-- The end of a job agrees with its steps. -/
structure Agrees (req : Request) (job : Job) : Prop where
  ended : job.state = .succeeded ∨ job.state = .failed
  closed : ∀ step ∈ job.steps, step.state ≠ .running
  complete : job.state = .succeeded → ∀ step ∈ job.steps, step.state ≠ .pending
  installed : ∀ install, req = .install install → job.state = .succeeded →
    ∀ step ∈ job.steps, step.state = .succeeded
  named : ∀ install, req = .install install → job.state = .failed →
    ∃ step ∈ job.steps, step.state = .failed

/-- No purge exits with zero. -/
def PurgesFail (h : List Entry) : Prop :=
  ∀ node host statuses, (⟨.call (.runSSHCommand node host purgeLine), statuses⟩ : Entry) ∈ h →
    purgeLine.exitStatus statuses ≠ 0

/-- What the record's agreement with the end comes to. -/
def Orderly (outside : Outside) (clients : Clients) : Request → List Entry → Prop
  | .install req, h => (Refuses h → Blocks h) ∧ (Healthy h → req.nodes.Nodup)
  | .destroy _, h => Detected outside clients ∨ PurgesFail h

/-- A failed job without running steps agrees with its end where it names a step. -/
theorem agrees_of_failed {req : Request} {job : Job} (state : job.state = .failed)
    (closed : ∀ step ∈ job.steps, step.state ≠ .running)
    (named : ∃ step ∈ job.steps, step.state = .failed) : Agrees req job := by
  refine ⟨.inr state, closed, ?_, ?_, fun _ _ _ => named⟩
  · intro succeeded
    exact nomatch state.symm.trans succeeded
  · intro _ _ succeeded
    exact nomatch state.symm.trans succeeded

section Install

variable {fmt : Formats} {clients : Clients} {outside : Outside} {w w' : World}
  {h : List Entry} {req asked : InstallRequest} {job begun : Job} {founder : String}
  {nodes others : List String}

/-- The keys of the plan. -/
def planned (nodes : List String) (founder : String) : List Key :=
  nodes.map (·, .installPreflight) ++ (nodes.map (·, .installPackages) ++ ([(founder, .cephInit)] ++
    (nodes.map (·, .createMON) ++ ([(founder, .createMGR)] ++ [("", .waitHealthy)]))))

theorem fresh_seededSteps {cluster : String} :
    Fresh ⟨cluster, .running, "", seededSteps nodes founder⟩ := by
  intro step member
  simp only [seededSteps, List.mem_append, List.mem_map, List.mem_singleton] at member
  rcases member with ((((⟨_, _, rfl⟩ | ⟨_, _, rfl⟩) | rfl) | ⟨_, _, rfl⟩) | rfl) | rfl <;> rfl

theorem keys_seededSteps {cluster : String} :
    (Job.mk cluster .running "" (seededSteps nodes founder)).keys = planned nodes founder := by
  simp [Job.keys, seededSteps, planned, List.map_map, Function.comp_def]

theorem nodup_hosts_iff {phase : StepPhase} :
    (nodes.map fun node => ((node, phase) : Key)).Nodup ↔ nodes.Nodup :=
  List.nodup_map_iff fun _ _ same => congrArg Prod.fst same

theorem nodup_phases {plan : List (StepPhase × List String)} (phases : (plan.map Prod.fst).Nodup)
    (hosts : ∀ e ∈ plan, e.2.Nodup) :
    (plan.flatMap fun e => e.2.map fun host => ((host, e.1) : Key)).Nodup := by
  rw [List.nodup_flatMap]
  refine ⟨fun e member => nodup_hosts_iff.mpr (hosts e member), ?_⟩
  refine (List.pairwise_map.mp phases).imp ?_
  intro a b apart k first second
  obtain ⟨_, _, rfl⟩ := List.mem_map.mp first
  obtain ⟨_, _, same⟩ := List.mem_map.mp second
  exact apart (congrArg Prod.snd same).symm

theorem nodup_planned_iff : (planned nodes founder).Nodup ↔ nodes.Nodup := by
  constructor
  · intro nodup
    exact nodup_hosts_iff.mp (List.nodup_append.mp nodup).1
  · intro nodup
    have plan : planned nodes founder = [(StepPhase.installPreflight, nodes),
        (.installPackages, nodes), (.cephInit, [founder]), (.createMON, nodes),
        (.createMGR, [founder]), (.waitHealthy, [""])].flatMap
          fun e => e.2.map fun host => ((host, e.1) : Key) := by
      simp [planned]
    rw [plan]
    apply nodup_phases
    · simp only [List.map_cons, List.map_nil]
      decide
    · simp [nodup]

theorem ran_fail_named {node err : String} {phase : StepPhase} {u : Unit} (named : node ≠ "")
    (ran : Ran (serve outside) (fail (some (node, phase)) err) w h u w') :
    h = [⟨.update (.failStep node phase), ()⟩, ⟨.update (.markFailed err), ()⟩] := by
  have both : fail (some (node, phase)) err =
      update (.failStep node phase) >>= fun _ => update (.markFailed err) := by
    rw [fail]
    simp only [if_pos named]
  rw [both] at ran
  obtain ⟨_, rfl, marked⟩ := ran_update.mp ran
  obtain ⟨rfl, _⟩ := ran_last_update.mp marked
  rfl

/-- What follows the preflight. -/
def afterPreflight (clients : Clients) (req : InstallRequest) (founder : String) : Code Unit :=
  proceed (runInstallPackagesPhase clients req.nodes)
    (proceed (runCephInitPhase req founder)
      (proceed (runCreateMONsPhase req.nodes)
        (proceed (runCreateMGRPhase founder)
          (proceed (runWaitHealthyPhase founder) (update .markSucceeded)))))

theorem only_proceed {issues : Cmd → Prop} {phase : Code Bool} {next : Code Unit}
    (first : Only issues phase) (later : Only issues next) : Only issues (proceed phase next) := by
  apply only_bind first
  intro succeeded
  cases succeeded with
  | true => exact later
  | false => exact keeps_done _

theorem unchecked_afterPreflight :
    Only (fun c => ¬IsCheck c) (afterPreflight clients req founder) := by
  have apart : ∀ {A : Type} {p : Code A}, Only Ordinary p → Only (fun c => ¬IsCheck c) p :=
    fun only => keeps_mono (fun _ => Ordinary.not_check) (fun _ _ => id) only
  apply only_proceed (apart ordinary_runInstallPackagesPhase)
  apply only_proceed (apart ordinary_runCephInitPhase)
  apply only_proceed (apart ordinary_runCreateMONsPhase)
  apply only_proceed (apart ordinary_runCreateMGRPhase)
  apply only_proceed unchecked_runWaitHealthyPhase
  exact only_update (Ordinary.not_check trivial)

theorem concludes_afterPreflight {u : Unit}
    (ran : Ran (serve outside) (afterPreflight clients req founder) w h u w') :
    Concludes (req.nodes.map (·, .installPackages) ++ ([(founder, .cephInit)] ++
      (req.nodes.map (·, .createMON) ++ ([(founder, .createMGR)] ++ [("", .waitHealthy)])))) h :=
  concludes_proceed ordinary_runInstallPackagesPhase
    (fun _ _ _ _ => ends_runInstallPackagesPhase)
    (concludes_proceed ordinary_runCephInitPhase (fun _ _ _ _ => ends_runCephInitPhase)
      (concludes_proceed ordinary_runCreateMONsPhase (fun _ _ _ _ => ends_runCreateMONsPhase)
        (concludes_proceed ordinary_runCreateMGRPhase (fun _ _ _ _ => ends_runCreateMGRPhase)
          concludes_runWaitHealthyPhase))) w h u w' ran

theorem install_cases (listed : req.nodes = founder :: others)
    (named : ∀ node ∈ req.nodes, node ≠ "") {u : Unit}
    (ran : Ran (serve outside) (runInstall fmt clients req) w h u w') :
    (¬Refuses h ∧ Concludes (planned req.nodes founder) h) ∨
      (Refuses h ∧ ¬Healthy h ∧ Quiet h ∧ lastMark h = some .failed ∧ (Named h ↔ Blocks h)) := by
  rw [runInstall, listed] at ran
  simp only [← listed] at ran
  cases missing : req.nodes.find? (· ∉ clients) with
  | some node =>
      rw [missing] at ran
      have member := List.mem_of_find?_eq_some missing
      have same := ran_fail_named (named node member) ran
      have unchecked : Unchecked h := by
        apply unchecked_of_updates
        intro entry inside
        rw [same] at inside
        simp only [List.mem_cons, List.not_mem_nil, or_false] at inside
        rcases inside with rfl | rfl
        · exact ⟨_, rfl⟩
        · exact ⟨_, rfl⟩
      refine .inl ⟨?_, .inr ⟨⟨?_, ⟨(node, .installPreflight), ?_⟩, ?_⟩, ?_⟩⟩
      · rintro (⟨_, checked⟩ | ⟨_, reported, _⟩)
        · rw [unchecked.checks] at checked
          cases checked
        · rw [unchecked.reports] at reported
          cases reported
      · intro k
        rw [same, lastState, written_update, written_update]
        simp only [Update.written, Option.toList, written_nil, List.append_nil]
        rw [Ledger.lastSet_cons]
        split_ifs
        · intro running
          cases running
        · intro running
          cases running
      · rw [same]
        simp [lastState, Update.written, Ledger.lastSet_cons]
      · rw [same]
        rfl
      · apply not_healthy
        intro entry inside
        rw [same] at inside
        simp only [List.mem_cons, List.not_mem_nil, or_false] at inside
        rcases inside with rfl | rfl
        · rintro ⟨_, other⟩
          cases other
        · rintro ⟨_, other⟩
          cases other
  | none =>
      rw [missing] at ran
      have known : ∀ node ∈ req.nodes, node ∈ clients := by
        intro node member
        simpa using List.find?_eq_none.mp missing node member
      obtain ⟨passed, t, first, later, rfl, phased, going⟩ := ran_proceed ran
      have ill : ¬Healthy first :=
        not_healthy (issues_of_ran unpolled_runInstallPreflightPhase phased)
      rcases ends_runInstallPreflightPhase known phased with
        ⟨rfl, lets, here⟩ | ⟨rfl, refuses, quiet, marked, same⟩
      · rcases going with ⟨_, rest⟩ | ⟨other, _⟩
        · have unchecked : Unchecked later := issues_of_ran unchecked_afterPreflight rest
          have between := @preflight_between first [] later (List.forall_mem_nil _) unchecked
          exact .inl ⟨mt between.1.mp lets, .append here ill (concludes_afterPreflight rest)⟩
        · cases other
      · rcases going with ⟨other, _⟩ | ⟨_, rfl⟩
        · cases other
        · rw [List.append_nil]
          exact .inr ⟨refuses, ill, quiet, marked, same⟩

/-- The record of an install job agrees with its end iff a preflight that refuses does so on a
node that stays blocked, and a cluster that gets healthy is installed on different nodes. -/
theorem install_agrees_iff (installed : Installed fmt outside clients req h job) :
    Agrees (.install req) job ↔ Orderly outside clients (.install req) h := by
  obtain ⟨asked, begun, w, started, ran, rfl⟩ := installed
  obtain ⟨founder, others, listed, same, named, rfl⟩ := startInstall_eq started
  have left := entries_of_ran ran
  have state := state_of_ran ran
  have fresh := @fresh_seededSteps founder req.nodes req.cluster
  have keys := @keys_seededSteps founder req.nodes req.cluster
  have cases_ := install_cases (same.trans listed) (same ▸ named) ran
  rw [same] at cases_
  rcases cases_ with ⟨lets, ⟨clean, covers, marked, healthy⟩ | ⟨broken, ill⟩⟩ |
    ⟨refuses, ill, quiet, marked, names⟩
  · rw [marked] at state
    rw [← keys] at covers
    constructor
    · intro agrees
      refine ⟨fun refuses => absurd refuses lets, fun _ => ?_⟩
      have nodup := nodup_of_not_pending left fresh (agrees.complete state)
      rw [keys] at nodup
      exact nodup_planned_iff.mp nodup
    · rintro ⟨_, apart⟩
      have nodup : (planned req.nodes founder).Nodup := nodup_planned_iff.mpr (apart healthy)
      rw [← keys] at nodup
      have succeeded : ∀ step ∈ w.job.steps, step.state = .succeeded := by
        intro step member
        have last := lastState_of_covers left nodup covers member
        rcases clean (step.host, step.phase) with none_ | well
        · exact nomatch none_.symm.trans last
        · exact Option.some.inj (last.symm.trans well)
      refine ⟨.inl state, not_running_of_quiet left fresh clean.quiet, ?_, fun _ _ _ => succeeded,
        ?_⟩
      · intro _ step member pending
        exact nomatch (succeeded step member).symm.trans pending
      · intro _ _ failed
        exact nomatch state.symm.trans failed
  · rw [broken.marked] at state
    refine iff_of_true ?_ ⟨fun refuses => absurd refuses lets, fun healthy => absurd healthy ill⟩
    exact agrees_of_failed state (not_running_of_quiet left fresh broken.quiet)
      ((named_iff left fresh).mpr broken.named)
  · rw [marked] at state
    constructor
    · intro agrees
      have named := (named_iff left fresh).mp (agrees.named req rfl state)
      exact ⟨fun _ => names.mp named, fun healthy => absurd healthy ill⟩
    · rintro ⟨blocks, _⟩
      exact agrees_of_failed state (not_running_of_quiet left fresh quiet)
        ((named_iff left fresh).mpr (names.mpr (blocks refuses)))

end Install

section Destroy

variable {clients : Clients} {lead : String} {outside : Outside} {w w' : World} {kind : Kind}
  {h h' : List Entry} {req : DestroyRequest} {job : Job} {keys keys' : List Key} {u : Unit}

/-- A part of a destroy job has ended its steps. -/
structure Rests (keys : List Key) (h : List Entry) : Prop where
  quiet : Quiet h
  covers : Covers keys h

theorem Rests.append (first : Rests keys h) (later : Rests keys' h') :
    Rests (keys ++ keys') (h ++ h') :=
  ⟨first.quiet.append later.quiet, covers_append first.covers later.covers⟩

theorem rests_of_turn {k : Key} {st : StepState} (turn : written h = [(k, .running), (k, st)])
    (ended : st ≠ .running) : Rests [k] h :=
  ⟨quiet_of_turn turn ended, covers_of_turn turn⟩

theorem rests_forM {B : Type} {f : B → Code Unit} {l : List B} {key : B → Key} {v : PUnit}
    (each : ∀ b w h u w', Ran (serve outside) (f b) w h u w' → Rests [key b] h)
    (ran : Ran (serve outside) (l.forM f) w h v w') : Rests (l.map key) h := by
  induction l generalizing w h with
  | nil =>
      obtain ⟨rfl, _⟩ := ran_done.mp ran
      exact ⟨fun _ => nofun, nofun⟩
  | cons b rest ih =>
      obtain ⟨u, t, first, later, rfl, here, others⟩ := ran_bind.mp ran
      exact .append (each b w first u t here) (ih others)

theorem wordless_collect {A : Type} {delete : A → Code (Except String Unit)} {items : List A}
    {errs : List String} (calls : ∀ item, Only (fun c => ∀ u, c ≠ .update u) (delete item))
    (ran : Ran (serve outside) (collect delete items) w h errs w') : Wordless h :=
  issues_of_ran (only_collect calls items) ran

theorem rests_of_list {phase : StepPhase} {collected last : List Entry} {errs : List String}
    {remote : Remote} {r : Reply remote} (wordless : Wordless collected)
    (ends : Ran (serve outside) (endStep phase errs) w last u w') :
    Rests [("", phase)]
      (⟨.update (.startStep "" phase), ()⟩ :: ⟨.call remote, r⟩ :: (collected ++ last)) := by
  rcases ran_endStep ends with ⟨_, rfl, _⟩ | ⟨_, rfl, _⟩
  · apply @rests_of_turn _ ("", phase) .succeeded _ (by decide)
    simp [wordless.written, Update.written]
  · apply @rests_of_turn _ ("", phase) .failed _ (by decide)
    simp [wordless.written, Update.written]

theorem rests_deletePhase (ran : Ran (serve outside) (deletePhase clients lead kind) w h u w') :
    Rests [("", phaseOf kind)] h := by
  obtain ⟨_, rfl, listing⟩ := ran_update.mp ran
  obtain ⟨_, rfl, deleting⟩ := ran_call.mp listing
  obtain ⟨errs, t, collected, last, rfl, deletes, ends⟩ := ran_bind.mp deleting
  refine rests_of_list (wordless_collect ?_ deletes) ends
  exact only_deleteItem fun _ _ => nofun

theorem rests_deleteOSDs (ran : Ran (serve outside) (deleteOSDs clients lead) w h u w') :
    Rests [("", .deleteOSD)] h := by
  obtain ⟨_, rfl, listing⟩ := ran_update.mp ran
  obtain ⟨_, rfl, deleting⟩ := ran_call.mp listing
  generalize outside _ (.list .osd lead) = listed at deleting ⊢
  cases listed with
  | error err =>
      obtain ⟨rfl, _⟩ := ran_last_update.mp deleting
      exact @rests_of_turn _ ("", .deleteOSD) .failed rfl nofun
  | ok osds =>
      obtain ⟨errs, t, collected, last, rfl, deletes, ends⟩ := ran_bind.mp deleting
      refine rests_of_list (wordless_collect ?_ deletes) ends
      exact only_deleteOSD (fun _ _ => nofun) fun _ _ => nofun

theorem rests_deleteKind (ran : Ran (serve outside) (deleteKind clients lead kind) w h u w') :
    Rests [("", phaseOf kind)] h := by
  cases kind with
  | osd => exact rests_deleteOSDs ran
  | fs | pool | mds | mgr | mon => exact rests_deletePhase ran

theorem rests_setNoout (ran : Ran (serve outside) (setNoout lead) w h u w') :
    Rests [("", .setNoout)] h := by
  obtain ⟨_, rfl, setting⟩ := ran_update.mp ran
  obtain ⟨_, rfl, ending⟩ := ran_call.mp setting
  generalize outside _ (.setCephFlag lead "noout" true) = set at ending ⊢
  cases set with
  | error err =>
      obtain ⟨rfl, _⟩ := ran_last_update.mp ending
      exact @rests_of_turn _ ("", .setNoout) .failed rfl nofun
  | ok _ =>
      obtain ⟨rfl, _⟩ := ran_last_update.mp ending
      exact @rests_of_turn _ ("", .setNoout) .succeeded rfl nofun

theorem rests_teardown (ran : Ran (serve outside) (teardown clients lead) w h u w') :
    Rests (("", .setNoout) :: kinds.map fun kind => ("", phaseOf kind)) h := by
  rw [teardown_eq] at ran
  obtain ⟨_, _, flag, phases, rfl, flagged, looped⟩ := ran_bind.mp ran
  exact (rests_setNoout flagged).append (rests_forM (fun _ _ _ _ _ => rests_deleteKind) looped)

theorem rests_purges (ran : Ran (serve outside) (runPurgeAcrossNodes clients) w h u w') :
    Rests (clients.entries.map fun client => (client.1, .cephPurge)) h := by
  refine rests_forM ?_ ran
  intro client w h u w' purged
  obtain ⟨statuses, rfl, _⟩ := purgeNode_calls purged
  by_cases zero : statuses "tail -50" = 0
  · rw [if_pos zero]
    exact @rests_of_turn _ (client.1, .cephPurge) .succeeded rfl nofun
  · rw [if_neg zero]
    exact @rests_of_turn _ (client.1, .cephPurge) .failed rfl nofun

theorem rests_preflight {status : Except String Unit} :
    Rests [("", .destroyPreflight)] (preflight lead status) :=
  @rests_of_turn _ ("", .destroyPreflight) .succeeded rfl nofun

theorem ran_finalize_marks (ran : Ran (serve outside) finalizeDestroyResult w h u w') :
    written h = [] ∧ (w'.job.state = .succeeded ∨ w'.job.state = .failed) ∧
      ((∃ step ∈ w'.job.steps, step.phase = .cephPurge ∧ step.state = .succeeded) →
        w'.job.state = .succeeded) := by
  obtain ⟨_, rfl, going⟩ := ran_steps.mp ran
  simp only at going
  split_ifs at going with failed
  · obtain ⟨rfl, rfl⟩ := ran_last_update.mp going
    refine ⟨rfl, .inr rfl, ?_⟩
    rintro ⟨step, member, purge, succeeded⟩
    have member : step ∈ w.job.steps := member
    have listed : step ∈ (w.job.steps.filter (·.phase = .cephPurge)).filter
        (·.state = .succeeded) := by
      simpa [purge, succeeded] using member
    have none_ := failed.2
    have some_ := List.length_pos_of_mem listed
    omega
  · obtain ⟨rfl, rfl⟩ := ran_last_update.mp going
    exact ⟨rfl, .inl rfl, fun _ => rfl⟩

theorem fresh_of_startDestroy {begun : Job} (started : startDestroy clients req = .ok begun) :
    Fresh begun := by
  intro step member
  have nodup := nodup_of_startDestroy started
  exact pending_of_startDestroy started (stepState_of_mem nodup member)

theorem keys_of_startDestroy {begun : Job} (started : startDestroy clients req = .ok begun) :
    begun.keys = [("", .destroyPreflight)] ++
      (("", .setNoout) :: kinds.map fun kind => ("", phaseOf kind)) ++
        clients.entries.map fun client => (client.1, .cephPurge) := by
  rw [Job.keys, steps_of_startDestroy started, List.map_append, List.map_map, List.map_map]
  rfl

theorem unset_of_short_cut {v : Unit} {t t' : World} {purging final : List Entry}
    {status : Except String Unit}
    (purges : Ran (serve outside) (runPurgeAcrossNodes clients) t purging v t')
    (ends : Ran (serve outside) finalizeDestroyResult t' final u w') :
    lastState (preflight lead status ++ [] ++ (purging ++ final)) ("", .setNoout) = none := by
  have apart : Only (fun c => ∀ u, c = .update u → ¬u.Sets "" .setNoout)
      (runPurgeAcrossNodes clients) := by
    apply keeps_forM
    intro client _
    have other : ∀ st : Update, st.Sets client.1 .cephPurge → ∀ u, Cmd.update st = .update u →
        ¬u.Sets "" .setNoout := by
      rintro st here u ⟨⟩ sets
      cases st with
      | startStep h p | succeedStep h p | failStep h p => exact nomatch here.2.symm.trans sets.2
      | markFailed error => exact here
      | markSucceeded => exact here
    apply only_bind (only_update (other (.startStep client.1 .cephPurge) ⟨rfl, rfl⟩))
    intro _
    apply only_call nofun
    intro statuses
    split_ifs
    · exact only_update (other (.failStep client.1 .cephPurge) ⟨rfl, rfl⟩)
    · exact only_update (other (.succeedStep client.1 .cephPurge) ⟨rfl, rfl⟩)
  have silent := (ran_finalize_marks ends).1
  have purged : lastState purging ("", .setNoout) = none :=
    lastState_eq_none (issues_of_ran apart purges)
  rw [lastState_append, lastState_append, lastState_append, purged, lastState, silent]
  rfl

/-- The history of a destroy job leaves no step running, and no step pending unless the job took
the short cut. -/
theorem rests_of_destroyed (destroyed : Destroyed outside clients req h job) :
    ∃ begun, startDestroy clients req = .ok begun ∧
      job.entries = Ledger.setAll (written h) begun.entries ∧ Quiet h ∧
        (Detected outside clients → Covers begun.keys h) ∧
          (¬Detected outside clients → lastState h ("", .setNoout) = none) := by
  obtain ⟨begun, w, started, ran, rfl⟩ := destroyed
  obtain ⟨first, others, listed⟩ := client_of_startDestroy started
  have left := entries_of_ran ran
  obtain ⟨deleting, purging, final, v, v', t, t', same, deletes, purges, ends⟩ :=
    ran_runDestroy listed ran
  have silent := (ran_finalize_marks ends).1
  have purged : Rests (clients.entries.map fun client => (client.1, .cephPurge))
      (purging ++ final) := by
    have later : ∀ k, lastState (purging ++ final) k = lastState purging k := by
      intro k
      rw [lastState, written_append, silent, List.append_nil]
      rfl
    have rests := rests_purges purges
    exact ⟨fun k => later k ▸ rests.quiet k, fun k member => later k ▸ rests.covers k member⟩
  refine ⟨begun, started, left, ?_⟩
  rw [detected_iff listed, same]
  cases answer : outside 0 (.getCephStatus first.1) with
  | ok status =>
      have teared : deletions clients first.1
          (outside (World.mk begun 0).asked (.getCephStatus first.1)) = teardown clients first.1 :=
        congrArg (deletions clients first.1) answer
      rw [teared] at deletes
      have begins := @rests_preflight first.1
        (outside (World.mk begun 0).asked (.getCephStatus first.1))
      have rests := (begins.append (rests_teardown deletes)).append purged
      rw [keys_of_startDestroy started]
      exact ⟨rests.quiet, fun _ => rests.covers, fun none_ => absurd ⟨status, rfl⟩ none_⟩
  | error err =>
      have skipped : deletions clients first.1
          (outside (World.mk begun 0).asked (.getCephStatus first.1)) = pure () :=
        congrArg (deletions clients first.1) answer
      rw [skipped] at deletes
      obtain ⟨rfl, _⟩ := ran_done.mp deletes
      have idle : Quiet [] := by
        intro k running
        cases running
      refine ⟨(rests_preflight.quiet.append idle).append purged.quiet, ?_,
        fun _ => unset_of_short_cut purges ends⟩
      rintro ⟨_, ok⟩
      cases ok

theorem pending_flag {begun : Job} (started : startDestroy clients req = .ok begun)
    (left : job.entries = Ledger.setAll (written h) begun.entries)
    (unset : lastState h ("", .setNoout) = none) :
    ∃ step ∈ job.steps, step.state = .pending := by
  have planned : (("", .setNoout) : Key) ∈ begun.keys := by
    rw [keys_of_startDestroy started]
    simp
  rw [← keys_entries] at planned
  obtain ⟨e, member, named⟩ := List.mem_map.mp planned
  have nodup := nodup_of_startDestroy started
  rw [← keys_entries] at nodup
  have found := Ledger.lookup_eq_of_mem nodup member
  have pending := entries_pending (fresh_of_startDestroy started) found
  rw [named, pending] at found
  have state : job.entries.lookup ("", .setNoout) = some .pending := by
    rw [left, Ledger.lookup_setAll]
    exact Option.or_eq_some_iff.mpr (.inr ⟨unset, found⟩)
  obtain ⟨step, listed, same⟩ := List.mem_map.mp (Ledger.mem_of_lookup state)
  exact ⟨step, listed, congrArg Prod.snd same⟩

theorem client_of_purge (destroyed : Destroyed outside clients req h job) {node host : String}
    {statuses : String → Nat}
    (member : (⟨.call (.runSSHCommand node host purgeLine), statuses⟩ : Entry) ∈ h) :
    ∃ client ∈ clients.entries, client.1 = node := by
  by_contra absent
  have none_ := (no_purge_of_destroyed destroyed
    fun client inside same => absent ⟨client, inside, same⟩).1
  exact none_ _ member rfl

theorem purge_step_of_zero (destroyed : Destroyed outside clients req h job) {node host : String}
    {statuses : String → Nat}
    (member : (⟨.call (.runSSHCommand node host purgeLine), statuses⟩ : Entry) ∈ h)
    (zero : purgeLine.exitStatus statuses = 0) :
    ∃ step ∈ job.steps, step.phase = .cephPurge ∧ step.state = .succeeded := by
  obtain ⟨client, inside, rfl⟩ := client_of_purge destroyed member
  obtain ⟨_, once, state⟩ := purge_once destroyed inside
  obtain ⟨_, rfl⟩ := (once host statuses).mp member
  rw [if_pos (show statuses "tail -50" = 0 from zero)] at state
  obtain ⟨step, listed, ended⟩ := Option.map_eq_some_iff.mp state
  have here := List.find?_some listed
  simp only [decide_eq_true_eq] at here
  exact ⟨step, List.mem_of_find?_eq_some listed, here.2, ended⟩

theorem zero_of_purge_step (destroyed : Destroyed outside clients req h job) {node : String}
    (succeeded : job.stepState node .cephPurge = some .succeeded) :
    ∃ host statuses, (⟨.call (.runSSHCommand node host purgeLine), statuses⟩ : Entry) ∈ h ∧
      purgeLine.exitStatus statuses = 0 := by
  by_cases found : ∃ client ∈ clients.entries, client.1 = node
  · obtain ⟨client, member, rfl⟩ := found
    obtain ⟨statuses, once, state⟩ := purge_once destroyed member
    refine ⟨_, statuses, (once _ statuses).mpr ⟨rfl, rfl⟩, ?_⟩
    by_contra failed
    rw [succeeded, if_neg (show ¬statuses "tail -50" = 0 from failed)] at state
    exact nomatch state
  · exact absurd succeeded (no_purge_of_destroyed destroyed
      fun client member same => found ⟨client, member, same⟩).2

/-- The record of a destroy job agrees with its end iff the status call is answered or every
purge fails. -/
theorem destroy_agrees_iff (destroyed : Destroyed outside clients req h job) :
    Agrees (.destroy req) job ↔ Orderly outside clients (.destroy req) h := by
  obtain ⟨begun, started, left, quiet, covers, unset⟩ := rests_of_destroyed destroyed
  have fresh := fresh_of_startDestroy started
  have nodup := nodup_of_startDestroy started
  have closed := not_running_of_quiet left fresh quiet
  obtain ⟨ended, well⟩ : (job.state = .succeeded ∨ job.state = .failed) ∧
      ((∃ step ∈ job.steps, step.phase = .cephPurge ∧ step.state = .succeeded) →
        job.state = .succeeded) := by
    obtain ⟨begun, w, started, ran, rfl⟩ := destroyed
    obtain ⟨first, others, listed⟩ := client_of_startDestroy started
    obtain ⟨_, _, _, _, _, _, _, _, _, _, ends⟩ := ran_runDestroy listed ran
    exact (ran_finalize_marks ends).2
  have agrees_of_complete : (job.state = .succeeded →
      ∀ step ∈ job.steps, step.state ≠ .pending) → Agrees (.destroy req) job :=
    fun complete => ⟨ended, closed, complete, fun _ => nofun, fun _ => nofun⟩
  constructor
  · intro agrees
    by_cases detected : Detected outside clients
    · exact .inl detected
    · refine .inr fun node host statuses member zero => ?_
      obtain ⟨step, listed, purge, succeeded⟩ := purge_step_of_zero destroyed member zero
      have complete := agrees.complete (well ⟨step, listed, purge, succeeded⟩)
      obtain ⟨skipped, inside, pending⟩ := pending_flag started left (unset detected)
      exact complete skipped inside pending
  · rintro (detected | fails)
    · apply agrees_of_complete
      intro _ step member
      exact not_pending_of_lastState (lastState_of_covers left nodup (covers detected) member)
    · apply agrees_of_complete
      intro succeeded
      obtain ⟨node, state⟩ := exists_purge_step destroyed succeeded
      obtain ⟨host, statuses, member, zero⟩ := zero_of_purge_step destroyed state
      exact absurd zero (fails node host statuses member)

end Destroy

/-- The record of a job that has returned agrees with its end iff: for an install, a preflight that
refuses leaves some node blocked by its last check, and a cluster that gets healthy is installed
on different nodes; for a destroy, the status call is answered or every purge fails. -/
theorem agrees_iff_orderly (fmt : Formats) (outside : Outside) (clients : Clients) (req : Request)
    (h : List Entry) (job : Job) (finished : Finished fmt outside clients req h job) :
    Agrees req job ↔ Orderly outside clients req h := by
  cases req with
  | install req => exact install_agrees_iff finished
  | destroy req => exact destroy_agrees_iff finished

theorem exists_installed {req asked : InstallRequest} {begun : Job} (fmt : Formats)
    (outside : Outside) (clients : Clients) (started : startInstall req = .ok (asked, begun)) :
    ∃ h job, Installed fmt outside clients req h job := by
  have total : ∀ c w, ∃ answer, serve outside c w = some answer := by
    intro c w
    cases c <;> exact ⟨_, rfl⟩
  obtain ⟨h, _, w, ran⟩ := exists_ran total (runInstall fmt clients asked) ⟨begun, 0⟩
  exact ⟨h, w.job, asked, begun, w, started, ran, rfl⟩

theorem lab_lets {fs : Except String (List String)} {exits : String → Nat} {err : String}
    {h : List Entry} (genuine : ∀ remote (r : Reply remote),
      (⟨.call remote, r⟩ : Entry) ∈ h → ∃ n, r = labOutside (.error err) fs exits n remote) :
    ¬Refuses h := by
  have same : ∀ a ∈ h.filterMap reportedBy, a = "8" := by
    intro a listed
    obtain ⟨⟨c, r⟩, member, reported⟩ := List.mem_filterMap.mp listed
    rw [reportedBy.eq_def] at reported
    split at reported
    · rename_i node version heq
      cases heq
      obtain ⟨_, answered⟩ := genuine _ _ member
      cases answered
      exact (Option.some.inj reported).symm
    · cases reported
  rintro (⟨node, listed⟩ | ⟨a, first, b, second, apart⟩)
  · obtain ⟨⟨c, r⟩, member, checked⟩ := List.mem_filterMap.mp listed
    rw [checkedBy.eq_def] at checked
    split at checked
    · rename_i heq
      cases heq
      obtain ⟨_, answered⟩ := genuine _ _ member
      cases answered
    · rename_i heq
      cases heq
      obtain ⟨_, answered⟩ := genuine _ _ member
      cases answered
    · cases checked
    · cases checked
  · exact apart ((same a first).trans (same b second).symm)

theorem agrees_in_lab :
    (∃ h job, Finished plainFormats (labOutside (.error "not installed") (.ok []) fun _ => 0)
        labClients (.install labInstall) h job ∧ Agrees (.install labInstall) job) ∧
      ∃ h job, Finished plainFormats (labOutside (.ok ()) (.ok []) fun _ => 0) labClients
        (.destroy labRequest) h job ∧ Agrees (.destroy labRequest) job := by
  constructor
  · obtain ⟨h, job, installed⟩ := exists_installed plainFormats
      (labOutside (.error "not installed") (.ok []) fun _ => 0) labClients
      (rfl : startInstall labInstall = .ok _)
    refine ⟨h, job, installed, ?_⟩
    refine (agrees_iff_orderly plainFormats _ _ (.install labInstall) h job installed).mpr ?_
    obtain ⟨_, _, _, _, ran, _⟩ := installed
    have lets : ¬Refuses h := lab_lets fun remote r member => answered_of_ran ran member
    exact ⟨fun refuses => absurd refuses lets, fun _ => by decide⟩
  · obtain ⟨h, job, destroyed⟩ := labDestroyed (labOutside (.ok ()) (.ok []) fun _ => 0)
    refine ⟨h, job, destroyed, ?_⟩
    refine (agrees_iff_orderly plainFormats _ _ (.destroy labRequest) h job destroyed).mpr
      (.inl ?_)
    intro client _
    exact ⟨(), rfl⟩

/-- The status call is refused, and the purges end well. -/
theorem pending_steps_in_success :
    ¬∀ (fmt : Formats) (outside : Outside) (clients : Clients) (req : Request) (h : List Entry)
      (job : Job), Finished fmt outside clients req h job → Agrees req job := by
  intro always
  have refused : labOutside (.error "connection refused") (.ok []) (fun _ => 0) 0
      (.getCephStatus "pve1") = .error "connection refused" := rfl
  obtain ⟨h, job, destroyed⟩ :=
    labDestroyed (labOutside (.error "connection refused") (.ok []) fun _ => 0)
  have agrees := always plainFormats _ labClients (.destroy labRequest) h job destroyed
  rcases (destroy_agrees_iff destroyed).mp agrees with detected | fails
  · obtain ⟨status, answered⟩ := detected ⟨"pve1", "10.0.0.1:8006"⟩ rfl
    exact nomatch refused.symm.trans answered
  · have member : (⟨"pve1", "10.0.0.1:8006"⟩ : Sigma fun _ : String => String) ∈
        labClients.entries := List.mem_cons_self
    obtain ⟨statuses, once, _⟩ := purge_once destroyed member
    have purged := (once _ statuses).mpr ⟨rfl, rfl⟩
    obtain ⟨_, rfl⟩ := answered_of_destroyed destroyed purged
    exact fails _ _ _ purged rfl

end CephCluster
