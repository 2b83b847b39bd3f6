import Mathlib.Data.Finset.Card
import PCenter.CephHistories
import PCenter.CephInstall

/-!
# The phases of an install job

What each phase of an install job leaves in the job's history. A phase that succeeds has ended
each of its steps well. A phase that fails has marked the job failed, has left no step running and
has failed a step; only the preflight may fail without one.
-/

namespace CephCluster

open Program

section Phases

variable {h h' : List Entry} {keys keys' : List Key} {passed : Bool}

/-- The history of a phase that succeeds. -/
structure Passed (keys : List Key) (h : List Entry) : Prop where
  clean : Clean h
  covers : Covers keys h
  unmarked : lastMark h = none

/-- The history of a job that fails at a step. -/
structure Broken (h : List Entry) : Prop where
  quiet : Quiet h
  named : Named h
  marked : lastMark h = some .failed

def Ends (keys : List Key) (passed : Bool) (h : List Entry) : Prop :=
  passed = true ∧ Passed keys h ∨ passed = false ∧ Broken h

theorem Passed.append (first : Passed keys h) (later : Passed keys' h') :
    Passed (keys ++ keys') (h ++ h') := by
  refine ⟨first.clean.append later.clean, covers_append first.covers later.covers, ?_⟩
  rw [lastMark_append, later.unmarked, first.unmarked]
  rfl

theorem Broken.append (first : Clean h) (later : Broken h') : Broken (h ++ h') := by
  refine ⟨first.quiet.append later.quiet, later.named.append, ?_⟩
  rw [lastMark_append, later.marked]
  rfl

theorem Ends.append (first : Passed keys h) (later : Ends keys' passed h') :
    Ends (keys ++ keys') passed (h ++ h') := by
  rcases later with ⟨rfl, later⟩ | ⟨rfl, later⟩
  · exact .inl ⟨rfl, first.append later⟩
  · exact .inr ⟨rfl, .append first.clean later⟩

theorem passed_of_turn {k : Key} (turn : written h = [(k, .running), (k, .succeeded)])
    (unmarked : lastMark h = none) : Ends [k] true h :=
  .inl ⟨rfl, clean_of_turn turn, covers_of_turn turn, unmarked⟩

theorem broken_of_turn {k : Key} (turn : written h = [(k, .running), (k, .failed)])
    (marked : lastMark h = some .failed) : Ends keys false h :=
  .inr ⟨rfl, quiet_of_turn turn nofun, named_of_turn turn, marked⟩

variable {outside : Outside} {w w' : World} {A : Type} {a : A} {u : Unit}

theorem ran_fail {err : String} :
    Ran (serve outside) (fail none err) w h u w' ↔
      h = [⟨.update (.markFailed err), ()⟩] ∧
        w' = { w with job := (Update.markFailed err).apply w.job } := ran_last_update

theorem ran_fail_false {err : String} :
    Ran (serve outside) (fail none err >>= fun _ => pure false) w h passed w' ↔
      h = [⟨.update (.markFailed err), ()⟩] ∧ passed = false ∧
        w' = { w with job := (Update.markFailed err).apply w.job } := by
  constructor
  · intro ran
    obtain ⟨_, t, first, later, rfl, failed, ended⟩ := ran_bind.mp ran
    obtain ⟨rfl, rfl⟩ := ran_fail.mp failed
    obtain ⟨rfl, rfl, rfl⟩ := ran_done.mp ended
    exact ⟨rfl, rfl, rfl⟩
  · rintro ⟨rfl, rfl, rfl⟩
    exact ran_bind.mpr ⟨(), _, _, [], rfl, ran_fail.mpr ⟨rfl, rfl⟩, ran_done.mpr ⟨rfl, rfl, rfl⟩⟩

theorem wordless_of_ran {p : Code A} (calls : Only (fun c => ∀ u, c ≠ .update u) p)
    (ran : Ran (serve outside) p w h a w') : Wordless h := issues_of_ran calls ran

section Daemons

variable {node : String} {phase : StepPhase} {create : Code (Except String String)}
  {failed timedOut : String → String}

theorem ends_createDaemon (calls : Only (fun c => ∀ u, c ≠ .update u) create)
    (ran : Ran (serve outside) (createDaemon node phase create failed timedOut) w h passed w') :
    Ends [(node, phase)] passed h := by
  obtain ⟨_, rfl, creating⟩ := ran_update.mp ran
  obtain ⟨created, t, asked, rest, rfl, asks, going⟩ := ran_bind.mp creating
  have wordless := wordless_of_ran calls asks
  have unmarked := wordless.lastMark
  cases created with
  | error err =>
      obtain ⟨_, rfl, failing⟩ := ran_update.mp going
      obtain ⟨rfl, rfl, _⟩ := ran_fail_false.mp failing
      refine broken_of_turn (k := (node, phase)) ?_ ?_
      · simp [wordless.written, Update.written]
      · rw [← List.singleton_append, lastMark_append, lastMark_append]
        rfl
  | ok upid =>
      obtain ⟨_, rfl, waiting⟩ := ran_call.mp going
      cases waited : outside t.asked (.waitForTask node upid) with
      | error err =>
          rw [waited] at waiting
          obtain ⟨_, rfl, failing⟩ := ran_update.mp waiting
          obtain ⟨rfl, rfl, _⟩ := ran_fail_false.mp failing
          refine broken_of_turn (k := (node, phase)) ?_ ?_
          · simp [wordless.written, Update.written]
          · rw [← List.singleton_append, lastMark_append, lastMark_append]
            rfl
      | ok _ =>
          rw [waited] at waiting
          obtain ⟨_, rfl, ended⟩ := ran_update.mp waiting
          obtain ⟨rfl, rfl, _⟩ := ran_done.mp ended
          apply passed_of_turn
          · simp [wordless.written, Update.written]
          · rw [← List.singleton_append, lastMark_append, lastMark_append, unmarked]
            rfl

theorem ends_createMON
    (ran : Ran (serve outside) (createMON node) w h passed w') :
    Ends [(node, .createMON)] passed h := by
  have calls : Only (fun c => ∀ u, c ≠ .update u) (issue (.call (.createCephMON node))) :=
    ⟨nofun, fun _ _ => trivial⟩
  exact ends_createDaemon calls ran

theorem ends_runCreateMGRPhase
    (ran : Ran (serve outside) (runCreateMGRPhase node) w h passed w') :
    Ends [(node, .createMGR)] passed h := by
  have calls : Only (fun c => ∀ u, c ≠ .update u) (issue (.call (.createCephMGR node))) :=
    ⟨nofun, fun _ _ => trivial⟩
  exact ends_createDaemon calls ran

theorem ends_runCreateMONsPhase {nodes : List String}
    (ran : Ran (serve outside) (runCreateMONsPhase nodes) w h passed w') :
    Ends (nodes.map (·, .createMON)) passed h := by
  induction nodes generalizing w h with
  | nil =>
      obtain ⟨rfl, rfl, _⟩ := ran_done.mp ran
      exact .inl ⟨rfl, fun _ => .inl rfl, nofun, rfl⟩
  | cons node rest ih =>
      obtain ⟨created, t, first, later, rfl, creates, going⟩ := ran_bind.mp ran
      rcases ends_createMON creates with ⟨rfl, here⟩ | ⟨rfl, here⟩
      · exact .append here (ih going)
      · obtain ⟨rfl, rfl, _⟩ := ran_done.mp going
        rw [List.append_nil]
        exact .inr ⟨rfl, here⟩

end Daemons

theorem ends_runCephInitPhase {req : InstallRequest} {founder : String}
    (ran : Ran (serve outside) (runCephInitPhase req founder) w h passed w') :
    Ends [(founder, .cephInit)] passed h := by
  obtain ⟨_, rfl, asking⟩ := ran_update.mp ran
  obtain ⟨_, rfl, going⟩ := ran_call.mp asking
  simp only at going
  split at going
  · obtain ⟨_, rfl, failing⟩ := ran_update.mp going
    obtain ⟨rfl, rfl, _⟩ := ran_fail_false.mp failing
    exact broken_of_turn rfl rfl
  · obtain ⟨_, rfl, ended⟩ := ran_update.mp going
    obtain ⟨rfl, rfl, _⟩ := ran_done.mp ended
    exact passed_of_turn rfl rfl

section Packages

variable {clients : Clients} {results results' : Results} {nodes failed : List String}

/-- The state of a node's step by the result of its installation. -/
def verdict (results : Results) (node : String) : StepState :=
  match results.lookup node with
  | some (.error _) => .failed
  | _ => .succeeded

theorem ran_installOnNodes
    (ran : Ran (serve outside) (installOnNodes clients results nodes) w h results' w') :
    written h = nodes.map (fun node => ((node, .installPackages), .running)) ∧
      lastMark h = none := by
  induction nodes generalizing results w h with
  | nil =>
      obtain ⟨rfl, _⟩ := ran_done.mp ran
      exact ⟨rfl, rfl⟩
  | cons node rest ih =>
      obtain ⟨_, rfl, installing⟩ := ran_update.mp ran
      obtain ⟨_, rfl, others⟩ := ran_call.mp installing
      obtain ⟨same, unmarked⟩ := ih others
      exact ⟨congrArg _ same, unmarked⟩

theorem ran_markResults (ran : Ran (serve outside) (markResults results nodes) w h failed w') :
    written h = nodes.map (fun node => ((node, .installPackages), verdict results node)) ∧
      lastMark h = none ∧ failed = nodes.filter (verdict results · = .failed) := by
  induction nodes generalizing w w' h failed with
  | nil =>
      obtain ⟨rfl, rfl, _⟩ := ran_done.mp ran
      exact ⟨rfl, rfl, rfl⟩
  | cons node rest ih =>
      rw [markResults] at ran
      split at ran
      · rename_i err found
        obtain ⟨_, rfl, marking⟩ := ran_update.mp ran
        obtain ⟨others, t, later, last, rfl, marks, ended⟩ := ran_bind.mp marking
        obtain ⟨rfl, rfl, _⟩ := ran_done.mp ended
        obtain ⟨same, unmarked, rfl⟩ := ih marks
        have bad : verdict results node = .failed := by rw [verdict, found]
        rw [List.append_nil]
        refine ⟨?_, unmarked, ?_⟩
        · rw [written_update, same, List.map_cons, bad]
          rfl
        · rw [List.filter_cons_of_pos (by simpa using bad)]
      · rename_i fine
        obtain ⟨_, rfl, marks⟩ := ran_update.mp ran
        obtain ⟨same, unmarked, rfl⟩ := ih marks
        have good : verdict results node = .succeeded := by
          rw [verdict]
          split
          · exact absurd ‹_› (fine _)
          · rfl
        refine ⟨?_, unmarked, ?_⟩
        · rw [written_update, same, List.map_cons, good]
          rfl
        · rw [List.filter_cons_of_neg (by simp [good])]

theorem lastState_of_marks {phase : StepPhase} {value : String → StepState}
    (starts : written h = nodes.map fun node => ((node, phase), .running))
    (ends : written h' = nodes.map fun node => ((node, phase), value node)) (k : Key) :
    lastState (h ++ h') k = if k ∈ nodes.map (·, phase) then some (value k.1) else none := by
  have covered : ∀ e ∈ written h, e.1 ∈ (written h').map Prod.fst := by
    intro e member
    rw [starts] at member
    obtain ⟨node, listed, rfl⟩ := List.mem_map.mp member
    rw [ends, List.map_map]
    exact List.mem_map.mpr ⟨node, listed, rfl⟩
  rw [lastState, written_append, Ledger.lastSet_append_of_covered covered, ends]
  exact @Ledger.lastSet_map Key StepState _ k _ _ String (·, phase) (fun k => value k.1) nodes

theorem ends_runInstallPackagesPhase
    (ran : Ran (serve outside) (runInstallPackagesPhase clients nodes) w h passed w') :
    Ends (nodes.map (·, .installPackages)) passed h := by
  obtain ⟨results, t, first, rest, rfl, installs, marking⟩ := ran_bind.mp ran
  obtain ⟨failed, t', later, last, rfl, marks, going⟩ := ran_bind.mp marking
  obtain ⟨starts, unmarked⟩ := ran_installOnNodes installs
  obtain ⟨ends, unmarked', rfl⟩ := ran_markResults marks
  have state := lastState_of_marks starts ends
  rw [← List.append_assoc]
  split_ifs at going with bad
  · obtain ⟨rfl, rfl, _⟩ := ran_fail_false.mp going
    have silent : ∀ err k,
        lastState (first ++ later ++ [⟨.update (.markFailed err), ()⟩]) k =
          lastState (first ++ later) k := by
      intro err k
      rw [lastState_append]
      rfl
    obtain ⟨node, listed⟩ := List.exists_mem_of_length_pos bad
    obtain ⟨member, failed⟩ := List.mem_filter.mp listed
    refine .inr ⟨rfl, ?_, ⟨(node, .installPackages), ?_⟩, ?_⟩
    · intro k
      rw [silent, state]
      split_ifs
      · rw [verdict]
        split <;> exact nofun
      · exact nofun
    · rw [silent, state, if_pos (List.mem_map_of_mem member)]
      exact congrArg some (of_decide_eq_true failed)
    · rw [lastMark_append]
      rfl
  · obtain ⟨rfl, rfl, _⟩ := ran_done.mp going
    rw [List.append_nil]
    have good : ∀ node ∈ nodes, verdict results node = .succeeded := by
      intro node member
      rw [verdict]
      split
      · rename_i err found
        have listed : node ∈ nodes.filter (verdict results · = .failed) :=
          List.mem_filter.mpr ⟨member, by simp [verdict, found]⟩
        exact absurd (List.length_pos_of_mem listed) bad
      · rfl
    refine .inl ⟨rfl, ?_, ?_, ?_⟩
    · intro k
      rw [state]
      split_ifs with listed
      · obtain ⟨node, member, rfl⟩ := List.mem_map.mp listed
        exact .inr (congrArg some (good node member))
      · exact .inl rfl
    · intro k member
      rw [state, if_pos member]
      exact Option.some_ne_none _
    · rw [lastMark_append, unmarked, unmarked']
      rfl

end Packages

section Health

variable {founder : String}

/-- A poll is answered with a healthy cluster. -/
def Healthy (h : List Entry) : Prop :=
  ∃ node health, (⟨.call (.cephHealth node), .ok health⟩ : Entry) ∈ h ∧ IsHealthy health

theorem healthy_cons {status : Except String String} {node : String} :
    Healthy (⟨.call (.cephHealth node), status⟩ :: h) ↔
      (∃ health, status = .ok health ∧ IsHealthy health) ∨ Healthy h := by
  constructor
  · rintro ⟨other, health, member, well⟩
    rcases List.mem_cons.mp member with here | member
    · cases here
      exact .inl ⟨health, rfl, well⟩
    · exact .inr ⟨other, health, member, well⟩
  · rintro (⟨health, rfl, well⟩ | ⟨other, health, member, well⟩)
    · exact ⟨node, health, List.mem_cons_self, well⟩
    · exact ⟨other, health, List.mem_cons_of_mem _ member, well⟩

theorem ran_pollHealth {polls : ℕ} {healthy : Bool}
    (ran : Ran (serve outside) (pollHealth founder polls) w h healthy w') :
    Wordless h ∧ (healthy = true ↔ Healthy h) := by
  induction polls generalizing w h with
  | zero =>
      obtain ⟨rfl, rfl, _⟩ := ran_done.mp ran
      exact ⟨nofun, iff_of_false nofun nofun⟩
  | succ polls ih =>
      obtain ⟨rest, rfl, going⟩ := ran_call.mp ran
      have calls : ∀ rest : List Entry, Wordless rest → Wordless
          (⟨.call (.cephHealth founder), outside w.asked (.cephHealth founder)⟩ :: rest) := by
        intro rest wordless entry member
        rcases List.mem_cons.mp member with rfl | member
        · exact nofun
        · exact wordless entry member
      rw [healthy_cons]
      generalize outside w.asked (.cephHealth founder) = status at going calls ⊢
      cases status with
      | error err =>
          obtain ⟨wordless, same⟩ := ih going
          refine ⟨calls rest wordless, same.trans ?_⟩
          simp
      | ok health =>
          simp only at going
          split_ifs at going with well
          · obtain ⟨rfl, rfl, _⟩ := ran_done.mp going
            exact ⟨calls [] nofun, iff_of_true rfl (.inl ⟨health, rfl, well⟩)⟩
          · obtain ⟨wordless, same⟩ := ih going
            refine ⟨calls rest wordless, same.trans ?_⟩
            simp [well]

theorem ends_runWaitHealthyPhase
    (ran : Ran (serve outside) (runWaitHealthyPhase founder) w h passed w') :
    Ends [("", .waitHealthy)] passed h ∧ (passed = true ↔ Healthy h) := by
  obtain ⟨_, rfl, asking⟩ := ran_update.mp ran
  obtain ⟨_, rfl, polling⟩ := ran_call.mp asking
  obtain ⟨healthy, t, polled, last, rfl, polls, going⟩ := ran_bind.mp polling
  obtain ⟨wordless, same⟩ := ran_pollHealth polls
  have ends : ∀ last : List Entry, (∀ entry ∈ last, ∀ remote, entry.1 ≠ .call remote) →
      (Healthy polled ↔ Healthy (⟨.update (.startStep "" .waitHealthy), ()⟩ ::
        ⟨.call .pollsBeforeDeadline, outside w.asked .pollsBeforeDeadline⟩ ::
          (polled ++ last))) := by
    intro last updates
    constructor
    · rintro ⟨node, health, member, well⟩
      exact ⟨node, health, by simp [member], well⟩
    · rintro ⟨node, health, member, well⟩
      simp only [List.mem_cons, List.mem_append] at member
      rcases member with start | poll | member | member
      · exact nomatch start
      · exact nomatch poll
      · exact ⟨node, health, member, well⟩
      · exact absurd rfl (updates _ member _)
  cases healthy with
  | true =>
      obtain ⟨_, rfl, ended⟩ := ran_update.mp going
      obtain ⟨rfl, rfl, _⟩ := ran_done.mp ended
      refine ⟨passed_of_turn ?_ ?_, same.trans (ends _ ?_)⟩
      · simp [wordless.written, Update.written]
      · rw [← List.singleton_append, lastMark_append, ← List.singleton_append, lastMark_append,
          lastMark_append, wordless.lastMark]
        rfl
      · intro entry member
        obtain rfl := List.mem_singleton.mp member
        exact nofun
  | false =>
      obtain ⟨_, rfl, failing⟩ := ran_update.mp going
      obtain ⟨rfl, rfl, _⟩ := ran_fail_false.mp failing
      refine ⟨broken_of_turn (k := ("", .waitHealthy)) ?_ ?_, same.trans (ends _ ?_)⟩
      · simp [wordless.written, Update.written]
      · rw [← List.singleton_append, lastMark_append, ← List.singleton_append, lastMark_append,
          lastMark_append]
        rfl
      · intro entry member
        simp only [List.mem_cons, List.not_mem_nil, or_false] at member
        rcases member with rfl | rfl <;> exact nofun

end Health

end Phases

section Preflight

/-- What a call tells of a node: whether the preflight blocks it. -/
def checkedBy : Entry → Option (String × Bool)
  | ⟨.call (.getNodeDetails node), .error _⟩ => some (node, true)
  | ⟨.call (.getCephStatus node), .ok _⟩ => some (node, true)
  | ⟨.call (.getCephStatus node), .error _⟩ => some (node, false)
  | _ => none

def checks (h : List Entry) : List (String × Bool) := h.filterMap checkedBy

/-- The major version that a node reports. -/
def reportedBy : Entry → Option String
  | ⟨.call (.getNodeDetails _), .ok version⟩ =>
      if majorVersion version = "" then none else some (majorVersion version)
  | _ => none

/-- Two hosts report different major versions. -/
def Mismatch (h : List Entry) : Prop :=
  ∃ a ∈ h.filterMap reportedBy, ∃ b ∈ h.filterMap reportedBy, a ≠ b

/-- The preflight does not let the job go on. -/
def Refuses (h : List Entry) : Prop := (∃ node, (node, true) ∈ checks h) ∨ Mismatch h

/-- The last check of some node blocks it. -/
def Blocks (h : List Entry) : Prop := ∃ node, Ledger.lastSet (checks h) node = some true

variable {clients : Clients} {outside : Outside} {w w' : World} {h h' : List Entry}
  {hosts : List HostPreflightResult} {hr : HostPreflightResult} {node : String}
  {nodes : List String}

theorem checks_append : checks (h ++ h') = checks h ++ checks h' := List.filterMap_append

/-- What a check has found is what its calls tell. -/
structure Found (nodes : List String) (h : List Entry) (hosts : List HostPreflightResult) :
    Prop where
  wordless : Wordless h
  named : hosts.map (·.node) = nodes
  checked : checks h = hosts.map fun hr => (hr.node, !hr.blockers.isEmpty)
  reported : h.filterMap reportedBy = (hosts.map (·.pveMajor)).filter (· ≠ "")

theorem Found.append {nodes' : List String} {hosts' : List HostPreflightResult}
    (first : Found nodes h hosts) (later : Found nodes' h' hosts') :
    Found (nodes ++ nodes') (h ++ h') (hosts ++ hosts') := by
  refine ⟨?_, ?_, ?_, ?_⟩
  · intro entry member
    rcases List.mem_append.mp member with member | member
    · exact first.wordless entry member
    · exact later.wordless entry member
  · rw [List.map_append, first.named, later.named]
  · rw [checks_append, List.map_append, first.checked, later.checked]
  · rw [List.filterMap_append, List.map_append, List.filter_append, first.reported,
      later.reported]

theorem found_checkHost (known : node ∈ clients)
    (ran : Ran (serve outside) (checkHost clients node) w h hr w') : Found [node] h [hr] := by
  rw [checkHost, if_pos known] at ran
  obtain ⟨rest, rfl, going⟩ := ran_call.mp ran
  generalize outside w.asked (.getNodeDetails node) = details at going ⊢
  cases details with
  | error err =>
      obtain ⟨rfl, rfl, _⟩ := ran_done.mp going
      refine ⟨?_, rfl, rfl, rfl⟩
      intro entry member
      obtain rfl := List.mem_singleton.mp member
      exact nofun
  | ok version =>
      obtain ⟨last, rfl, ending⟩ := ran_call.mp going
      generalize outside _ (.getCephStatus node) = status at ending ⊢
      have wordless : Wordless [⟨.call (.getNodeDetails node), .ok version⟩,
          ⟨.call (.getCephStatus node), status⟩] := by
        intro entry member
        simp only [List.mem_cons, List.not_mem_nil, or_false] at member
        rcases member with rfl | rfl <;> exact nofun
      cases status with
      | ok _ =>
          obtain ⟨rfl, rfl, _⟩ := ran_done.mp ending
          refine ⟨wordless, rfl, rfl, ?_⟩
          by_cases empty : majorVersion version = "" <;> simp [reportedBy, empty]
      | error err =>
          obtain ⟨rfl, rfl, _⟩ := ran_done.mp ending
          refine ⟨wordless, rfl, rfl, ?_⟩
          by_cases empty : majorVersion version = "" <;> simp [reportedBy, empty]

theorem found_checkHosts (known : ∀ node ∈ nodes, node ∈ clients)
    (ran : Ran (serve outside) (checkHosts clients nodes) w h hosts w') :
    Found nodes h hosts := by
  induction nodes generalizing w w' h hosts with
  | nil =>
      obtain ⟨rfl, rfl, _⟩ := ran_done.mp ran
      exact ⟨nofun, rfl, rfl, rfl⟩
  | cons node rest ih =>
      obtain ⟨hr, t, first, later, rfl, checked, others⟩ := ran_bind.mp ran
      obtain ⟨hosts', t', second, last, rfl, checks, ended⟩ := ran_bind.mp others
      obtain ⟨rfl, rfl, _⟩ := ran_done.mp ended
      rw [List.append_nil]
      exact (found_checkHost (known node List.mem_cons_self) checked).append
        (ih (fun node member => known node (List.mem_cons_of_mem _ member)) checks)

theorem several_iff (l : List String) : l.dedup.length > 1 ↔ ∃ a ∈ l, ∃ b ∈ l, a ≠ b := by
  rw [← List.card_toFinset, gt_iff_lt, Finset.one_lt_card]
  simp only [List.mem_toFinset]

theorem ran_runInstallPreflight {fmt : Formats} {pre : PreflightResponse}
    (known : ∀ node ∈ nodes, node ∈ clients)
    (ran : Ran (serve outside) (runInstallPreflight fmt clients nodes) w h pre w') :
    Found nodes h pre.hosts ∧ (pre.canProceed = true ↔ ¬Refuses h) := by
  obtain ⟨hosts, t, first, last, rfl, checked, ended⟩ := ran_bind.mp ran
  have found := found_checkHosts known checked
  have apart : (majors hosts).length > 1 ↔ Mismatch first := by
    rw [majors, several_iff, ← found.reported]
    rfl
  split_ifs at ended with several
  · obtain ⟨rfl, rfl, _⟩ := ran_done.mp ended
    rw [List.append_nil]
    exact ⟨found, iff_of_false nofun (not_not.mpr (.inr (apart.mp several)))⟩
  · obtain ⟨rfl, rfl, _⟩ := ran_done.mp ended
    rw [List.append_nil]
    refine ⟨found, ?_⟩
    rw [Refuses, ← apart, not_or, found.checked]
    simp [several]

def IsCheck (c : Cmd) : Prop :=
  ∃ node, c = .call (.getNodeDetails node) ∨ c = .call (.getCephStatus node)

def Unchecked (h : List Entry) : Prop := ∀ entry ∈ h, ¬IsCheck entry.1

theorem Unchecked.checks (unchecked : Unchecked h) : checks h = [] := by
  apply List.filterMap_eq_nil_iff.mpr
  intro entry member
  have other := unchecked entry member
  rw [checkedBy.eq_def]
  split
  · exact absurd ⟨_, .inl rfl⟩ other
  · exact absurd ⟨_, .inr rfl⟩ other
  · exact absurd ⟨_, .inr rfl⟩ other
  · rfl

theorem Unchecked.reports (unchecked : Unchecked h) : h.filterMap reportedBy = [] := by
  apply List.filterMap_eq_nil_iff.mpr
  intro entry member
  have other := unchecked entry member
  rw [reportedBy.eq_def]
  split
  · exact absurd ⟨_, .inl rfl⟩ other
  · rfl

theorem preflight_between {before after : List Entry} (first : Unchecked before)
    (last : Unchecked after) :
    (Refuses (before ++ h ++ after) ↔ Refuses h) ∧
      (Blocks (before ++ h ++ after) ↔ Blocks h) := by
  have same : checks (before ++ h ++ after) = checks h := by
    rw [checks_append, checks_append, first.checks, last.checks, List.nil_append, List.append_nil]
  have reports : (before ++ h ++ after).filterMap reportedBy = h.filterMap reportedBy := by
    rw [List.filterMap_append, List.filterMap_append, first.reports, last.reports, List.nil_append,
      List.append_nil]
  simp only [Refuses, Blocks, Mismatch, same, reports, and_self]

theorem unchecked_of_updates (updates : ∀ entry ∈ h, ∃ u, entry.1 = .update u) : Unchecked h := by
  rintro entry member ⟨node, same | same⟩
  · obtain ⟨u, other⟩ := updates entry member
    exact nomatch other.symm.trans same
  · obtain ⟨u, other⟩ := updates entry member
    exact nomatch other.symm.trans same

theorem ran_forM_update {B : Type} {f : B → Code Unit} {g : B → Update} {l : List B} {u : PUnit}
    (each : ∀ b, f b = update (g b)) (ran : Ran (serve outside) (l.forM f) w h u w') :
    h = l.map fun b => ⟨.update (g b), ()⟩ := by
  induction l generalizing w h with
  | nil => exact (ran_done.mp ran).1
  | cons b rest ih =>
      rw [forM_cons, each] at ran
      obtain ⟨later, rfl, others⟩ := ran_update.mp ran
      rw [ih others, List.map_cons]

theorem written_map {B : Type} {g : B → Update} {f : B → Key × StepState} {l : List B}
    (each : ∀ b, (g b).written = some (f b)) :
    written (l.map fun b => (⟨.update (g b), ()⟩ : Entry)) = l.map f := by
  induction l with
  | nil => rfl
  | cons b rest ih =>
      rw [List.map_cons, written_update, ih, each, List.map_cons]
      rfl

theorem lastMark_map {B : Type} {g : B → Update} {l : List B} (each : ∀ b, (g b).mark = none) :
    lastMark (l.map fun b => (⟨.update (g b), ()⟩ : Entry)) = none := by
  apply List.getLast?_eq_none_iff.mpr
  apply List.filterMap_eq_nil_iff.mpr
  intro entry member
  obtain ⟨b, _, rfl⟩ := List.mem_map.mp member
  exact each b

/-- The state of a host's step by its check. -/
def checkState (blocked : Bool) : StepState := if blocked then .failed else .succeeded

def endUpdate (hr : HostPreflightResult) : Update :=
  if hr.blockers.length > 0 then .failStep hr.node .installPreflight
  else .succeedStep hr.node .installPreflight

theorem endPreflight_eq (hr : HostPreflightResult) : endPreflight hr = update (endUpdate hr) := by
  rw [endPreflight, endUpdate]
  split_ifs <;> rfl

theorem written_endUpdate (hr : HostPreflightResult) :
    (endUpdate hr).written =
      some ((hr.node, .installPreflight), checkState (!hr.blockers.isEmpty)) := by
  rw [endUpdate]
  cases hr.blockers <;> rfl

theorem mark_endUpdate (hr : HostPreflightResult) : (endUpdate hr).mark = none := by
  rw [endUpdate]
  split_ifs <;> rfl

/-- What the marks of the preflight leave, by its checks. -/
structure Checked (nodes : List String) (cs : List (String × Bool)) (h : List Entry) : Prop where
  nodes : cs.map Prod.fst = nodes
  state : ∀ k, lastState h k = Ledger.lastSet
    (cs.map fun c => (((c.1, .installPreflight) : Key), checkState c.2)) k

variable {cs : List (String × Bool)}

theorem Checked.quiet (checked : Checked nodes cs h) : Quiet h := by
  intro k running
  rw [checked.state] at running
  obtain ⟨c, _, same⟩ := List.mem_map.mp (Ledger.mem_of_lastSet running)
  have state : checkState c.2 = .running := congrArg Prod.snd same
  rw [checkState] at state
  split_ifs at state

theorem Checked.covers (checked : Checked nodes cs h) :
    Covers (nodes.map (·, .installPreflight)) h := by
  intro k member none_
  obtain ⟨node, listed, rfl⟩ := List.mem_map.mp member
  rw [checked.state, Ledger.lastSet_eq_none_iff] at none_
  rw [← checked.nodes] at listed
  obtain ⟨c, inside, rfl⟩ := List.mem_map.mp listed
  apply none_
  rw [List.map_map]
  exact List.mem_map.mpr ⟨c, inside, rfl⟩

theorem Checked.clean (checked : Checked nodes cs h) (fine : ∀ node, (node, true) ∉ cs) :
    Clean h := by
  intro k
  rw [checked.state]
  cases last : Ledger.lastSet
      (cs.map fun c => (((c.1, .installPreflight) : Key), checkState c.2)) k with
  | none => exact .inl rfl
  | some st =>
      obtain ⟨⟨node, blocked⟩, member, same⟩ := List.mem_map.mp (Ledger.mem_of_lastSet last)
      obtain ⟨_, rfl⟩ := Prod.mk.inj same
      cases blocked with
      | true => exact absurd member (fine node)
      | false => exact .inr rfl

theorem Checked.named_iff (checked : Checked nodes cs h) :
    Named h ↔ ∃ node, Ledger.lastSet cs node = some true := by
  have paired : Function.Injective fun node : String => ((node, .installPreflight) : Key) :=
    fun a b same => congrArg Prod.fst same
  have last : ∀ node, lastState h (node, .installPreflight) =
      (Ledger.lastSet cs node).map checkState := by
    intro node
    rw [checked.state]
    exact Ledger.lastSet_map_of_injective paired checkState
  constructor
  · rintro ⟨k, failed⟩
    have found := failed
    rw [checked.state] at found
    obtain ⟨c, _, same⟩ := List.mem_map.mp (Ledger.mem_of_lastSet found)
    obtain ⟨rfl, _⟩ := Prod.mk.inj same
    refine ⟨c.1, ?_⟩
    rw [last] at failed
    obtain ⟨blocked, here, state⟩ := Option.map_eq_some_iff.mp failed
    rw [here]
    cases blocked with
    | true => rfl
    | false => cases state
  · rintro ⟨node, blocked⟩
    refine ⟨(node, .installPreflight), ?_⟩
    rw [last, blocked]
    rfl

/-- The preflight phase lets the job go on, or fails it, at a step only if the last check of some
node blocks it. -/
theorem ends_runInstallPreflightPhase {fmt : Formats} {passed : Bool}
    (known : ∀ node ∈ nodes, node ∈ clients)
    (ran : Ran (serve outside) (runInstallPreflightPhase fmt clients nodes) w h passed w') :
    passed = true ∧ ¬Refuses h ∧ Passed (nodes.map (·, .installPreflight)) h ∨
      passed = false ∧ Refuses h ∧ Quiet h ∧ lastMark h = some .failed ∧
        (Named h ↔ Blocks h) := by
  obtain ⟨_, t, first, rest, rfl, starts, checking⟩ := ran_bind.mp ran
  obtain ⟨pre, t', middle, rest', rfl, checks_, marking⟩ := ran_bind.mp checking
  obtain ⟨_, t'', marks, last, rfl, marked, going⟩ := ran_bind.mp marking
  obtain ⟨found, verdict⟩ := ran_runInstallPreflight known checks_
  have begun := ran_forM_update (fun _ => rfl) starts
  have ended := ran_forM_update endPreflight_eq marked
  have starting : written first =
      nodes.map fun node => (((node, .installPreflight) : Key), .running) := by
    rw [begun]
    exact written_map fun _ => rfl
  have marking : written marks = (checks middle).map fun c =>
      (((c.1, .installPreflight) : Key), checkState c.2) := by
    rw [ended, written_map written_endUpdate, found.checked, List.map_map]
    rfl
  have named : (checks middle).map Prod.fst = nodes := by
    rw [found.checked, List.map_map, ← found.named]
    rfl
  have updates : ∀ entry ∈ first ++ marks, ∃ u, entry.1 = .update u := by
    intro entry member
    rw [begun, ended] at member
    rcases List.mem_append.mp member with member | member
    · obtain ⟨node, _, rfl⟩ := List.mem_map.mp member
      exact ⟨_, rfl⟩
    · obtain ⟨hr, _, rfl⟩ := List.mem_map.mp member
      exact ⟨_, rfl⟩
  have unmarked : lastMark first = none ∧ lastMark marks = none := by
    rw [begun, ended]
    exact ⟨lastMark_map fun _ => rfl, lastMark_map mark_endUpdate⟩
  have outcome : (∀ entry ∈ last, ∃ u, entry.1 = .update u) → written last = [] →
      Checked nodes (checks middle) (first ++ (middle ++ (marks ++ last))) ∧
        (Refuses (first ++ (middle ++ (marks ++ last))) ↔ Refuses middle) ∧
          (Blocks (first ++ (middle ++ (marks ++ last))) ↔ Blocks middle) := by
    intro updates' silent
    refine ⟨⟨named, fun k => ?_⟩, ?_⟩
    · have covered : ∀ e ∈ written first, e.1 ∈ (written marks).map Prod.fst := by
        intro e member
        rw [starting, ← named, List.map_map] at member
        obtain ⟨c, inside, rfl⟩ := List.mem_map.mp member
        rw [marking, List.map_map]
        exact List.mem_map.mpr ⟨c, inside, rfl⟩
      rw [lastState, written_append, written_append, written_append, found.wordless.written,
        silent, List.nil_append, List.append_nil, Ledger.lastSet_append_of_covered covered,
        marking]
    · have before : Unchecked first :=
        unchecked_of_updates fun entry member => updates entry (List.mem_append_left _ member)
      have after : Unchecked (marks ++ last) := by
        apply unchecked_of_updates
        intro entry member
        rcases List.mem_append.mp member with member | member
        · exact updates entry (List.mem_append_right _ member)
        · exact updates' entry member
      rw [← List.append_assoc]
      exact preflight_between before after
  cases may : pre.canProceed with
  | true =>
      rw [if_pos may] at going
      obtain ⟨rfl, rfl, _⟩ := ran_done.mp going
      obtain ⟨checked, refuses, -⟩ := outcome (List.forall_mem_nil _) rfl
      have passes := verdict.mp may
      have fine : ∀ node, (node, true) ∉ checks middle :=
        fun node member => passes (.inl ⟨node, member⟩)
      refine .inl ⟨rfl, mt refuses.mp passes, checked.clean fine, checked.covers, ?_⟩
      rw [lastMark_append, lastMark_append, List.append_nil, unmarked.1, unmarked.2,
        found.wordless.lastMark]
      rfl
  | false =>
      rw [if_neg (by simp [may])] at going
      obtain ⟨rfl, rfl, _⟩ := ran_fail_false.mp going
      obtain ⟨checked, refuses, blocks⟩ := outcome (fun entry member =>
        ⟨_, congrArg Sigma.fst (List.mem_singleton.mp member)⟩) rfl
      have stops : Refuses middle := by
        by_contra passes
        cases may.symm.trans (verdict.mpr passes)
      refine .inr ⟨rfl, refuses.mpr stops, checked.quiet, ?_, checked.named_iff.trans blocks.symm⟩
      rw [lastMark_append, lastMark_append, lastMark_append]
      rfl

end Preflight

section Install

variable {fmt : Formats} {clients : Clients} {outside : Outside} {w w' : World}
  {h h' : List Entry} {keys keys' : List Key} {nodes : List String} {node founder : String}
  {req : InstallRequest}

theorem startInstall_eq {asked : InstallRequest} {begun : Job}
    (started : startInstall req = .ok (asked, begun)) :
    ∃ founder others, req.nodes = founder :: others ∧ asked.nodes = req.nodes ∧
      (∀ node ∈ req.nodes, node ≠ "") ∧
      begun = ⟨req.cluster, .running, "", seededSteps req.nodes founder⟩ := by
  rw [startInstall] at started
  split at started
  · exact nomatch started
  · split at started
    · exact nomatch started
    · rename_i founder others listed
      split at started
      · exact nomatch started
      split at started
      · exact nomatch started
      rename_i fine
      obtain ⟨rfl, rfl⟩ := Prod.mk.inj (Except.ok.inj started)
      refine ⟨founder, others, listed, rfl, ?_, rfl⟩
      intro node member empty
      have absent := List.findIdx?_eq_none_iff.mp fine node member
      simp [empty] at absent

/-- What the phases do between the preflight and the polls. -/
def Ordinary : Cmd → Prop
  | .update _ => True
  | .call (.runSSHScript _ _ _) | .call (.initCephCluster _ _ _ _ _) | .call (.createCephMON _)
  | .call (.createCephMGR _) | .call (.waitForTask _ _) => True
  | _ => False

def Polls (c : Cmd) : Prop := ∃ node, c = .call (.cephHealth node)

theorem Ordinary.not_check {c : Cmd} (ordinary : Ordinary c) : ¬IsCheck c := by
  rintro ⟨node, rfl | rfl⟩
  · exact ordinary
  · exact ordinary

theorem Ordinary.not_polls {c : Cmd} (ordinary : Ordinary c) : ¬Polls c := by
  rintro ⟨node, rfl⟩
  exact ordinary

theorem only_ask {issues : Cmd → Prop} {remote : Remote} (allowed : issues (.call remote)) :
    Only issues (issue (.call remote)) := ⟨allowed, fun _ _ => trivial⟩

theorem only_fail_false {issues : Cmd → Prop} (updates : ∀ u, issues (.update u)) {err : String} :
    Only issues (fail none err >>= fun _ => pure false) :=
  only_bind (only_update (updates _)) fun _ => keeps_done _

theorem only_installOnNodes {issues : Cmd → Prop} {results : Results}
    (steps : ∀ u : Update, u.mark = none → issues (.update u))
    (runs : ∀ via host, issues (.call (.runSSHScript via host installScript))) :
    Only issues (installOnNodes clients results nodes) := by
  induction nodes generalizing results with
  | nil => exact keeps_done _
  | cons node rest ih =>
      apply only_bind (only_update (steps _ rfl))
      intro _
      exact only_call (runs _ _) fun _ => ih

theorem only_markResults {issues : Cmd → Prop} {results : Results}
    (steps : ∀ u : Update, u.mark = none → issues (.update u)) :
    Only issues (markResults results nodes) := by
  induction nodes with
  | nil => exact keeps_done _
  | cons node rest ih =>
      rw [markResults]
      split
      · apply only_bind (only_update (steps _ rfl))
        intro _
        exact only_bind ih fun _ => keeps_done _
      · exact only_bind (only_update (steps _ rfl)) fun _ => ih

theorem ordinary_runInstallPackagesPhase :
    Only Ordinary (runInstallPackagesPhase clients nodes) := by
  apply only_bind (only_installOnNodes (fun _ _ => trivial) fun _ _ => trivial)
  intro results
  apply only_bind (only_markResults fun _ _ => trivial)
  intro failed
  split_ifs
  · exact only_fail_false fun _ => trivial
  · exact keeps_done _

theorem ordinary_runCephInitPhase : Only Ordinary (runCephInitPhase req founder) := by
  apply only_bind (only_update trivial)
  intro _
  apply only_call trivial
  intro err
  cases err with
  | error err => exact only_bind (only_update trivial) fun _ => only_fail_false fun _ => trivial
  | ok _ => exact only_bind (only_update trivial) fun _ => keeps_done _

theorem ordinary_createDaemon {phase : StepPhase} {create : Code (Except String String)}
    {failed timedOut : String → String} (creates : Only Ordinary create) :
    Only Ordinary (createDaemon node phase create failed timedOut) := by
  apply only_bind (only_update trivial)
  intro _
  apply only_bind creates
  intro created
  cases created with
  | error err => exact only_bind (only_update trivial) fun _ => only_fail_false fun _ => trivial
  | ok upid =>
      apply only_call trivial
      intro waited
      cases waited with
      | error err => exact only_bind (only_update trivial) fun _ => only_fail_false fun _ => trivial
      | ok _ => exact only_bind (only_update trivial) fun _ => keeps_done _

theorem ordinary_runCreateMONsPhase : Only Ordinary (runCreateMONsPhase nodes) := by
  induction nodes with
  | nil => exact keeps_done _
  | cons node rest ih =>
      apply only_bind (ordinary_createDaemon (only_ask trivial))
      intro created
      cases created with
      | true => exact ih
      | false => exact keeps_done _

theorem ordinary_runCreateMGRPhase : Only Ordinary (runCreateMGRPhase founder) :=
  ordinary_createDaemon (only_ask trivial)

theorem only_pollHealth {issues : Cmd → Prop} (polls : issues (.call (.cephHealth founder)))
    (n : ℕ) : Only issues (pollHealth founder n) := by
  induction n with
  | zero => exact keeps_done _
  | succ n ih =>
      apply only_call polls
      intro status
      cases status with
      | error err => exact ih
      | ok health =>
          simp only
          split_ifs
          · exact keeps_done _
          · exact ih

theorem unchecked_runWaitHealthyPhase :
    Only (fun c => ¬IsCheck c) (runWaitHealthyPhase founder) := by
  have updates : ∀ u, ¬IsCheck (.update u) := by
    rintro u ⟨node, same | same⟩
    · exact nomatch same
    · exact nomatch same
  apply only_bind (only_update (updates _))
  intro _
  apply only_call
  · rintro ⟨node, same | same⟩
    · exact nomatch same
    · exact nomatch same
  · intro polls
    apply only_bind
    · apply only_pollHealth
      rintro ⟨node, same | same⟩
      · exact nomatch same
      · exact nomatch same
    · intro healthy
      cases healthy with
      | true => exact only_bind (only_update (updates _)) fun _ => keeps_done _
      | false => exact only_bind (only_update (updates _)) fun _ => only_fail_false updates

theorem only_checkHosts {issues : Cmd → Prop}
    (details : ∀ via, issues (.call (.getNodeDetails via)))
    (statuses : ∀ via, issues (.call (.getCephStatus via))) :
    Only issues (checkHosts clients nodes) := by
  induction nodes with
  | nil => exact keeps_done _
  | cons node rest ih =>
      apply only_bind
      · rw [checkHost]
        apply keeps_ite
        · intro _
          apply only_call (details node)
          intro found
          cases found with
          | error err => exact keeps_done _
          | ok version =>
              apply only_call (statuses node)
              intro status
              cases status <;> exact keeps_done _
        · exact fun _ => keeps_done _
      · exact fun _ => only_bind ih fun _ => keeps_done _

theorem unpolled_runInstallPreflightPhase :
    Only (fun c => ¬Polls c) (runInstallPreflightPhase fmt clients nodes) := by
  have updates : ∀ u, ¬Polls (.update u) := by
    rintro u ⟨node, same⟩
    exact nomatch same
  apply only_bind (keeps_forM fun node _ => only_update (updates _))
  intro _
  apply only_bind
  · apply only_bind
    · apply only_checkHosts
      · rintro via ⟨node, same⟩
        exact nomatch same
      · rintro via ⟨node, same⟩
        exact nomatch same
    intro hosts
    split_ifs <;> exact keeps_done _
  · intro pre
    apply only_bind (keeps_forM fun hr _ => endPreflight_eq hr ▸ only_update (updates _))
    intro _
    split_ifs
    · exact keeps_done _
    · exact only_fail_false updates

theorem not_healthy (unpolled : ∀ entry ∈ h, ¬Polls entry.1) : ¬Healthy h := by
  rintro ⟨node, health, member, _⟩
  exact unpolled _ member ⟨node, rfl⟩

/-- The end of a job whose preflight lets it go on. -/
def Concludes (keys : List Key) (h : List Entry) : Prop :=
  (Clean h ∧ Covers keys h ∧ lastMark h = some .succeeded ∧ Healthy h) ∨
    (Broken h ∧ ¬Healthy h)

theorem ran_proceed {phase : Code Bool} {next : Code Unit} {u : Unit}
    (ran : Ran (serve outside) (proceed phase next) w h u w') :
    ∃ passed t first later, h = first ++ later ∧ Ran (serve outside) phase w first passed t ∧
      (passed = true ∧ Ran (serve outside) next t later u w' ∨ passed = false ∧ later = []) := by
  obtain ⟨passed, t, first, later, rfl, phased, going⟩ := ran_bind.mp ran
  refine ⟨passed, t, first, later, rfl, phased, ?_⟩
  cases passed with
  | true => exact .inl ⟨rfl, going⟩
  | false => exact .inr ⟨rfl, (ran_done.mp going).1⟩

theorem healthy_append (ill : ¬Healthy h) : Healthy (h ++ h') ↔ Healthy h' := by
  constructor
  · rintro ⟨node, health, member, well⟩
    rcases List.mem_append.mp member with member | member
    · exact absurd ⟨node, health, member, well⟩ ill
    · exact ⟨node, health, member, well⟩
  · rintro ⟨node, health, member, well⟩
    exact ⟨node, health, List.mem_append_right _ member, well⟩

theorem Concludes.append (first : Passed keys h) (ill : ¬Healthy h)
    (later : Concludes keys' h') : Concludes (keys ++ keys') (h ++ h') := by
  rw [Concludes, healthy_append ill]
  rcases later with ⟨clean, covers, marked, healthy⟩ | ⟨broken, ill'⟩
  · refine .inl ⟨first.clean.append clean, covers_append first.covers covers, ?_, healthy⟩
    rw [lastMark_append, marked]
    rfl
  · exact .inr ⟨broken.append first.clean, ill'⟩

theorem concludes_proceed {phase : Code Bool} {next : Code Unit} (only : Only Ordinary phase)
    (ends : ∀ w h passed w', Ran (serve outside) phase w h passed w' → Ends keys passed h)
    (concludes : ∀ w h u w', Ran (serve outside) next w h u w' → Concludes keys' h)
    (w : World) (h : List Entry) (u : Unit) (w' : World)
    (ran : Ran (serve outside) (proceed phase next) w h u w') :
    Concludes (keys ++ keys') h := by
  obtain ⟨passed, t, first, later, rfl, phased, going⟩ := ran_proceed ran
  have ill : ¬Healthy first :=
    not_healthy fun entry member => (issues_of_ran only phased entry member).not_polls
  rcases ends w first passed t phased with ⟨rfl, here⟩ | ⟨rfl, here⟩
  · rcases going with ⟨_, rest⟩ | ⟨other, _⟩
    · exact .append here ill (concludes t later u w' rest)
    · exact nomatch other
  · rcases going with ⟨other, _⟩ | ⟨_, rfl⟩
    · exact nomatch other
    · rw [List.append_nil]
      exact .inr ⟨here, ill⟩

theorem concludes_runWaitHealthyPhase (w : World) (h : List Entry) (u : Unit) (w' : World)
    (ran : Ran (serve outside)
      (proceed (runWaitHealthyPhase founder) (update .markSucceeded)) w h u w') :
    Concludes [("", .waitHealthy)] h := by
  obtain ⟨passed, t, first, later, rfl, phased, going⟩ := ran_proceed ran
  obtain ⟨ends, healthy⟩ := ends_runWaitHealthyPhase phased
  rcases ends with ⟨rfl, here⟩ | ⟨rfl, here⟩
  · rcases going with ⟨_, rest⟩ | ⟨other, _⟩
    · obtain ⟨rfl, _⟩ := ran_last_update.mp rest
      refine .inl ⟨here.clean.append fun _ => .inl rfl, ?_, ?_, ?_⟩
      · exact @covers_append first _ _ [] here.covers nofun
      · rw [lastMark_append]
        rfl
      · obtain ⟨node, health, member, well⟩ := healthy.mp rfl
        exact ⟨node, health, List.mem_append_left _ member, well⟩
    · exact nomatch other
  · rcases going with ⟨other, _⟩ | ⟨_, rfl⟩
    · exact nomatch other
    · rw [List.append_nil]
      exact .inr ⟨here, fun well => nomatch healthy.mpr well⟩

end Install

end CephCluster
