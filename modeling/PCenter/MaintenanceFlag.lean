import PCenter.MaintenanceRuns

/-!
# The `noout` flag of a cluster

The flag is one for the cluster, the maintenance records are one for each node. Requests that
enter or leave maintenance on any of the nodes are served one after another. An evacuation
goes on after its request, one command at a time, with other requests in between.
-/

namespace MaintenanceFlag

open Program Transition Maintenance

/-- A goroutine that evacuates a node, and what it has still to do. -/
structure Evacuation where
  node : String
  rest : Code Unit

structure World where
  memory : Memory
  /-- The commands sent to the cluster, `true` for one that sets the flag. -/
  noout : List Bool
  pool : List Evacuation
  down : Bool

inductive Event where
  /-- Setting the flag may fail. -/
  | enter (node : String) (poller : Poller) (noout : Except String Unit)
  | exit (node : String) (poller : Poller)
  | evacuates (i : Nat) (outside : Outside)

/-- A server that has served no request yet. -/
def idle : World := ⟨⟨[], ∅⟩, [], [], false⟩

def sent : Cmd → List Bool
  | .setCephNoout _ _ enable => [enable]
  | _ => []

def launched : Cmd → List Evacuation
  | .goEvacuate cluster node clients => [⟨node, evacuateNode cluster node clients⟩]
  | _ => []

def serve (outside : Outside) (c : Cmd) (w : World) : Option (Answer c × World) :=
  (perform outside c w.memory).map fun answer =>
    (answer.1, { w with
      memory := answer.2
      noout := w.noout ++ sent c
      pool := w.pool ++ launched c })

/-- A request gets no answer but to its command for the flag. -/
def answering (noout : Except String Unit) : Outside := ⟨noout, none, .error ""⟩

def handle (outside : Outside) (code : Code Reply) (w : World) : World :=
  match exec (serve outside) code w with
  | none => { w with down := true }
  | some answer => answer.2

/-- The evacuation at a place goes on by one command. -/
def evacuate (outside : Outside) (i : Nat) (w : World) : World :=
  match w.pool[i]? with
  | none => w
  | some ev =>
      match ev.rest with
      | .done _ => w
      | .act c next =>
          match serve outside c w with
          | none => { w with down := true }
          | some answer =>
              { answer.2 with pool := answer.2.pool.set i ⟨ev.node, next answer.1⟩ }

/-- It is about to store a record. -/
def Evacuation.stores (ev : Evacuation) : Bool :=
  match ev.rest with
  | .act (.setMaintenanceState _ _) _ => true
  | _ => false

section Cluster

variable (cluster : String)

def step (w : World) (e : Event) : World :=
  if w.down then w
  else
    match e with
    | .enter node poller noout =>
        handle (answering noout) (enterMaintenanceMode cluster node poller) w
    | .exit node poller =>
        handle (answering (.ok ())) (exitMaintenanceMode cluster node poller) w
    | .evacuates i outside => evacuate outside i w

/-- The node is recorded as in maintenance, and not in error. -/
def Recorded (w : World) (node : String) : Prop :=
  ∃ state, w.memory.shown (stateKey cluster node) = some state ∧
    state.inMaintenance = true ∧ state.phase ≠ "error"

def Flagged (w : World) : Prop := w.noout.getLast? = some true

def Clears (w : World) (e : Event) : Prop := (step cluster w e).noout = w.noout ++ [false]

/-- In every state the flag is set if a node needs it, and only an exit that leaves no node in
maintenance clears it. -/
def Kept (es : List Event) : Prop :=
  (∀ w ∈ states (step cluster) idle es, ∀ node, Recorded cluster w node → Flagged w) ∧
    ∀ before e after, es = before ++ e :: after →
      Clears cluster (before.foldl (step cluster) idle) e →
      (∃ node poller, e = .exit node poller) ∧
        ∀ node, inMaintenance cluster node
          (step cluster (before.foldl (step cluster) idle) e).memory = false

def Admitted (node : String) (poller : Poller) : Prop :=
  ∃ clients, nodeClients cluster node poller = .ok clients

/-- An exit that gets through finds no record of another node, and no evacuation stores its
record after the flag was cleared. -/
def Calm (w : World) (e : Event) : Prop :=
  w.down = false →
    match e with
    | .enter _ _ _ => True
    | .exit node poller =>
        Admitted cluster node poller →
          ∀ other, other ≠ node → w.memory.getMaintenanceState (stateKey cluster other) = none
    | .evacuates i _ => ∀ ev, w.pool[i]? = some ev → ev.stores = true → Flagged w

end Cluster

section Evacuations

/-- What an evacuation never does. -/
def Starts : Cmd → Prop
  | .publish _ _ => True
  | .setCephNoout _ _ _ => True
  | .goEvacuate _ _ _ => True
  | _ => False

abbrev Moves (ev : Evacuation) : Prop := Never Starts ev.rest

theorem moves_issue {c : Cmd} {A : Type} {next : Answer c → Code A} (other : ¬Starts c)
    (later : ∀ r, Never Starts (next r)) : Never Starts (issue c >>= next) :=
  ⟨other, fun r _ => later r⟩

theorem moves_last {c : Cmd} (other : ¬Starts c) : Never Starts (issue c) :=
  ⟨other, fun _ _ => trivial⟩

theorem moves_store (cluster node : String) (state : Option Ref)
    (change : MaintenanceState → MaintenanceState) :
    Never Starts (store cluster node state change) := by
  apply moves_issue id
  intro _
  exact moves_last id

theorem moves_evacuateGuest (cluster node targetNode : String) (total : Nat)
    (guest : GuestTasks.GuestType × Handlers.Guest) (i : Nat) :
    Never Starts (evacuateGuest cluster node targetNode total guest i) := by
  apply moves_issue id
  intro state
  apply keeps_bind (moves_store cluster node state _)
  intro _
  apply moves_issue id
  intro upid
  cases upid with
  | error err => exact moves_last id
  | ok upid => exact moves_last id

theorem moves_evacuateNode (cluster node : String) (clients : List String) :
    Never Starts (evacuateNode cluster node clients) := by
  rw [evacuateNode]
  cases Handlers.targetFor node clients with
  | none =>
      apply moves_issue id
      intro state
      exact moves_store cluster node state _
  | some targetNode =>
      apply moves_issue id
      intro cs
      cases cs with
      | none => exact keeps_done _
      | some cs =>
          apply keeps_bind
          · apply keeps_forM
            intro guest _
            exact moves_evacuateGuest cluster node targetNode _ guest.1 guest.2
          · intro _
            apply moves_issue id
            intro state
            exact moves_store cluster node state _

end Evacuations

section Steps

variable {cluster : String} {w : World} {e : Event}

theorem exec_serve {A : Type} (outside : Outside) (code : Code A) (w : World) :
    exec (serve outside) code w =
      (record (perform outside) code w.memory).map fun answer =>
        (answer.1, { w with
          memory := answer.2.1
          noout := w.noout ++ answer.2.2.flatMap (sent ·.1)
          pool := w.pool ++ answer.2.2.flatMap (launched ·.1) }) := by
  induction code generalizing w with
  | done a => simp [record]
  | act c next ih =>
      rw [exec_act, serve, record]
      cases perform outside c w.memory with
      | none => rfl
      | some answer =>
          rw [Option.map_some, Option.bind_some, Option.bind_some, ih, Option.map_map]
          simp [Function.comp_def]

theorem enter_cases (node : String) (poller : Poller) (noout : Except String Unit) (w : World) :
    handle (answering noout) (enterMaintenanceMode cluster node poller) w = w ∨
      ∃ m new, (∀ ev ∈ new, Moves ev) ∧
        handle (answering noout) (enterMaintenanceMode cluster node poller) w =
          ⟨m, w.noout ++ [true], w.pool ++ new, w.down⟩ := by
  rw [handle, exec_serve, enterMaintenanceMode]
  cases nodeClients cluster node poller with
  | error refusal =>
      left
      simp [record]
  | ok clients =>
      right
      cases noout with
      | error err => exact ⟨_, [], List.forall_mem_nil _, rfl⟩
      | ok _ =>
          refine ⟨_, [⟨node, evacuateNode cluster node clients⟩], ?_, rfl⟩
          intro ev member
          obtain rfl := List.mem_singleton.mp member
          exact moves_evacuateNode cluster node clients

theorem exit_cases (node : String) (poller : Poller) (w : World) :
    handle (answering (.ok ())) (exitMaintenanceMode cluster node poller) w = w ∨
      Admitted cluster node poller ∧
        handle (answering (.ok ())) (exitMaintenanceMode cluster node poller) w =
          ⟨w.memory.setMaintenanceState (stateKey cluster node) none, w.noout ++ [false],
            w.pool, w.down⟩ := by
  rw [handle, exec_serve, exitMaintenanceMode, Admitted]
  cases nodeClients cluster node poller with
  | error refusal =>
      left
      simp [record]
  | ok clients =>
      refine .inr ⟨⟨clients, rfl⟩, ?_⟩
      exact congrArg (fun pool => (⟨_, _, pool, _⟩ : World)) (List.append_nil w.pool)

theorem stored_perform {c : Cmd} {outside : Outside} {m m' : Memory} {r : Answer c}
    (other : ¬Starts c) (performed : perform outside c m = some (r, m')) (key : String) :
    (∃ k state, c = .setMaintenanceState k state) ∨
      m'.getMaintenanceState key = m.getMaintenanceState key := by
  cases c with
  | publish k state => exact absurd trivial other
  | setCephNoout c n enable => exact absurd trivial other
  | goEvacuate c n clients => exact absurd trivial other
  | setMaintenanceState k state => exact .inl ⟨k, state, rfl⟩
  | write state change =>
      cases state with
      | none => exact nomatch performed
      | some state =>
          obtain ⟨_, rfl⟩ := Prod.mk.inj (Option.some.inj performed)
          exact .inr rfl
  | _ =>
      obtain ⟨_, rfl⟩ := Prod.mk.inj (Option.some.inj performed)
      exact .inr rfl

theorem sent_of_not_starts {c : Cmd} (other : ¬Starts c) : sent c = [] ∧ launched c = [] := by
  cases c with
  | publish k state => exact absurd trivial other
  | setCephNoout c n enable => exact absurd trivial other
  | goEvacuate c n clients => exact absurd trivial other
  | _ => exact ⟨rfl, rfl⟩

theorem evacuate_cases (moves : ∀ ev ∈ w.pool, Moves ev) (outside : Outside) (i : Nat) :
    evacuate outside i w = w ∨ evacuate outside i w = { w with down := true } ∨
      ∃ ev ev' m, w.pool[i]? = some ev ∧ Moves ev' ∧
        evacuate outside i w = { w with memory := m, pool := w.pool.set i ev' } ∧
        (ev.stores = true ∨
          ∀ key, m.getMaintenanceState key = w.memory.getMaintenanceState key) := by
  rw [evacuate]
  cases here : w.pool[i]? with
  | none => exact .inl rfl
  | some ev =>
      have moving : Moves ev := moves ev (List.mem_of_getElem? here)
      obtain ⟨node, rest⟩ := ev
      cases rest with
      | done a => exact .inl rfl
      | act c next =>
          obtain ⟨other, later⟩ := moving
          obtain ⟨silent, alone⟩ := sent_of_not_starts other
          simp only [serve]
          cases performed : perform outside c w.memory with
          | none => exact .inr (.inl rfl)
          | some answer =>
              obtain ⟨r, m⟩ := answer
              refine .inr (.inr ⟨⟨node, .act c next⟩, ⟨node, next r⟩, m, rfl,
                later r trivial, ?_, ?_⟩)
              · simp [silent, alone]
              · by_cases stores : ∃ k state, c = .setMaintenanceState k state
                · obtain ⟨k, state, rfl⟩ := stores
                  exact .inl rfl
                · right
                  intro key
                  exact (stored_perform other performed key).resolve_left stores

/-- What holds in every state of a calm run. -/
structure Inv (cluster : String) (w : World) : Prop where
  flagged : ∀ node, w.memory.getMaintenanceState (stateKey cluster node) ≠ none → Flagged w
  moves : ∀ ev ∈ w.pool, Moves ev

theorem step_of_down (down : w.down = true) : step cluster w e = w := if_pos down

theorem step_of_up (up : w.down = false) :
    step cluster w e =
      match e with
      | .enter node poller noout =>
          handle (answering noout) (enterMaintenanceMode cluster node poller) w
      | .exit node poller =>
          handle (answering (.ok ())) (exitMaintenanceMode cluster node poller) w
      | .evacuates i outside => evacuate outside i w :=
  if_neg (by simp [up])

theorem none_after_exit {node : String} (alone : ∀ other, other ≠ node →
      w.memory.getMaintenanceState (stateKey cluster other) = none) (other : String) :
    (w.memory.setMaintenanceState (stateKey cluster node) none).getMaintenanceState
      (stateKey cluster other) = none := by
  rw [getMaintenanceState_set]
  by_cases same : stateKey cluster other = stateKey cluster node
  · exact if_pos same
  · have apart : other ≠ node := fun equal => same (congrArg _ equal)
    rw [if_neg same]
    exact alone other apart

theorem inv_step (inv : Inv cluster w) (calm : Calm cluster w e) :
    Inv cluster (step cluster w e) := by
  cases up : w.down with
  | true =>
      rw [step_of_down up]
      exact inv
  | false =>
      have calm := calm up
      rw [step_of_up up]
      cases e with
      | enter node poller noout =>
          rcases @enter_cases cluster node poller noout w with same | ⟨m, new, moving, served⟩
          · simp only [same]
            exact inv
          · simp only [served]
            constructor
            · intro other _
              exact List.getLast?_concat
            · intro ev member
              rcases List.mem_append.mp member with old | added
              · exact inv.moves ev old
              · exact moving ev added
      | exit node poller =>
          rcases @exit_cases cluster node poller w with same | ⟨admitted, served⟩
          · simp only [same]
            exact inv
          · simp only [served]
            refine ⟨?_, inv.moves⟩
            intro other stored
            exact absurd (none_after_exit (calm admitted) other) stored
      | evacuates i outside =>
          rcases evacuate_cases inv.moves outside i with
            same | crashed | ⟨ev, ev', m, here, moving, served, stored⟩
          · simp only [same]
            exact inv
          · simp only [crashed]
            exact ⟨inv.flagged, inv.moves⟩
          · simp only [served]
            constructor
            · intro other present
              rcases stored with stores | same
              · exact calm ev here stores
              · rw [same] at present
                exact inv.flagged other present
            · intro old member
              rcases List.mem_or_eq_of_mem_set member with kept | rfl
              · exact inv.moves old kept
              · exact moving

/-- The command that clears the flag is that of an exit, after which no record is left. -/
theorem exit_of_clears (inv : Inv cluster w) (calm : Calm cluster w e)
    (clears : Clears cluster w e) :
    (∃ node poller, e = .exit node poller) ∧
      ∀ node, (step cluster w e).memory.getMaintenanceState (stateKey cluster node) = none := by
  have longer : (step cluster w e).noout ≠ w.noout := by
    rw [clears]
    simp
  cases up : w.down with
  | true =>
      rw [step_of_down up] at longer
      exact absurd rfl longer
  | false =>
      have calm := calm up
      rw [Clears] at clears
      rw [step_of_up up] at clears longer ⊢
      cases e with
      | enter node poller noout =>
          rcases @enter_cases cluster node poller noout w with same | ⟨m, new, moving, served⟩
          · simp [same] at longer
          · simp [served] at clears
      | exit node poller =>
          rcases @exit_cases cluster node poller w with same | ⟨admitted, served⟩
          · simp [same] at longer
          · refine ⟨⟨node, poller, rfl⟩, ?_⟩
            simp only [served]
            exact none_after_exit (calm admitted)
      | evacuates i outside =>
          rcases evacuate_cases inv.moves outside i with
            same | crashed | ⟨ev, ev', m, here, moving, served, stored⟩
          · simp [same] at longer
          · simp [crashed] at longer
          · simp [served] at longer

theorem stored_of_recorded {node : String} (recorded : Recorded cluster w node) :
    w.memory.getMaintenanceState (stateKey cluster node) ≠ none := by
  obtain ⟨state, shown, _⟩ := recorded
  intro missing
  rw [Memory.shown, missing] at shown
  cases shown

end Steps

section Main

variable (cluster : String)

/-- As long as every exit is that of the last node and no evacuation outlasts it, the flag is
set while a node is in maintenance. -/
theorem flag_kept (es : List Event) (calm : Along (step cluster) (Calm cluster) idle es) :
    Kept cluster es := by
  have start : Inv cluster idle := by
    refine ⟨?_, nofun⟩
    intro node stored
    exact absurd rfl stored
  have kept : ∀ w e, Inv cluster w → Calm cluster w e → Inv cluster (step cluster w e) :=
    fun _ _ => inv_step
  constructor
  · intro w reached node recorded
    have inv := invariant_along kept start calm w reached
    exact inv.flagged node (stored_of_recorded recorded)
  · rintro before e after rfl clears
    obtain ⟨first, now, _⟩ := (along_append _ _ _).mp calm
    have inv := invariant_along kept start first _ (last_mem_states _ _)
    obtain ⟨exits, left⟩ := exit_of_clears inv now clears
    refine ⟨exits, ?_⟩
    intro node
    rw [inMaintenance, Memory.shown, left node]
    rfl

end Main

section Lab

/-- Two nodes are in maintenance, and one of them leaves it. -/
def labOverlap : List Event :=
  [.enter "pve1" labPoller (.ok ()), .enter "pve2" labPoller (.ok ()), .exit "pve1" labPoller]

theorem cleared_under_second_node : ¬∀ es, Kept "lab" es := by
  intro kept
  have reached : labOverlap.foldl (step "lab") idle ∈ states (step "lab") idle labOverlap :=
    last_mem_states idle labOverlap
  have recorded : Recorded "lab" (labOverlap.foldl (step "lab") idle) "pve2" := by
    refine ⟨_, rfl, rfl, ?_⟩
    decide
  have set := (kept labOverlap).1 _ reached "pve2" recorded
  have commands : (labOverlap.foldl (step "lab") idle).noout = [true, true, false] := rfl
  rw [Flagged, commands] at set
  exact absurd set (by decide)

/-- One node leaves maintenance, evacuated, before the other enters it. -/
def labHandover : List Event :=
  let goes := .evacuates 0 (labOutside ∅)
  [.enter "pve1" labPoller (.ok ()), goes, goes, goes, goes, .exit "pve1" labPoller,
    .enter "pve2" labPoller (.ok ())]

theorem kept_in_handover : Kept "lab" labHandover := by
  apply flag_kept
  refine ⟨fun _ => trivial, fun _ _ _ _ => rfl, fun _ _ _ _ => rfl, fun _ _ _ _ => rfl,
    fun _ _ _ _ => rfl, ?_, fun _ => trivial, trivial⟩
  intro _ _ other apart
  have key : stateKey "lab" other ≠ stateKey "lab" "pve1" := by
    intro same
    exact apart ((String.append_right_inj _).mp same)
  have stored : ((labHandover.take 5).foldl (step "lab") idle).memory =
      (Memory.mk [⟨"pve1", true, "ready", 100, "Maintenance mode ready - host can be rebooted"⟩]
        ∅).setMaintenanceState (stateKey "lab" "pve1") (some 0) := rfl
  change ((labHandover.take 5).foldl (step "lab") idle).memory.getMaintenanceState _ = none
  rw [stored, getMaintenanceState_set, if_neg key]
  rfl

end Lab

end MaintenanceFlag
