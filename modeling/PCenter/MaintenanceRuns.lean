import PCenter.Maintenance

/-!
# Requests and evacuations of a node at the same time

Any number of enter and exit requests for one node are served at once, and each enter
request that gets through starts an evacuation. A run is any order of their steps. The
store's accesses are atomic; what happens between two of them is up to the others.
-/

namespace Maintenance

open Program Transition

inductive Role where
  | entering
  | evacuating
  | exiting
  deriving DecidableEq, Repr

/-- A handler or a goroutine, and what it has still to do. -/
structure Job where
  role : Role
  rest : Code Reply

def Job.next (job : Job) : Option Cmd :=
  match job.rest with
  | .done _ => none
  | .act c _ => some c

def Job.working (job : Job) : Bool := job.next.isSome

/-- A running evacuation. -/
def Job.evacuates (job : Job) : Bool := job.role = .evacuating && job.working

/-- A request for the node, with the poller that it finds. -/
inductive Request where
  | enter (poller : Poller)
  | exit (poller : Poller)

/-- The goroutines that a command starts. -/
def started : Cmd → List Job
  | .goEvacuate cluster node clients =>
      [⟨.evacuating, evacuateNode cluster node clients >>= fun _ => pure (.ok ())⟩]
  | _ => []

def advance (job : Job) (outside : Outside) (m : Memory) : Option (Job × Memory × List Job) :=
  match job.rest with
  | .done _ => some (job, m, [])
  | .act c next =>
      (perform outside c m).map fun answer => (⟨job.role, next answer.1⟩, answer.2, started c)

abbrev World := Thread.World Job Memory

abbrev Event := Thread.Event Request Outside

section Runs

variable (cluster node : String)

def request : Request → Job
  | .enter poller => ⟨.entering, enterMaintenanceMode cluster node poller⟩
  | .exit poller => ⟨.exiting, exitMaintenanceMode cluster node poller⟩

abbrev step : World → Event → World := Thread.step advance (request cluster node)

/-- A server that has no request for the node in hand. -/
def idle (m : Memory) : World := ⟨m, [], false⟩

/-- The command that an event lets a thread issue. -/
def issued (w : World) (e : Event) : Option Cmd :=
  (Thread.actor (request cluster node) w e).bind fun actor => actor.1.next

/-- How many evacuations of the node are running. -/
def evacuations (w : World) : Nat := w.pool.countP Job.evacuates

/-- An enter request stores its record. -/
def Enters (w : World) (e : Event) : Prop :=
  ∃ state, issued cluster node w e = some (.publish (stateKey cluster node) state)

/-- An exit request takes the record away, which is all it does after the flag. -/
def Exits (w : World) (e : Event) : Prop :=
  issued cluster node w e = some (.setMaintenanceState (stateKey cluster node) none)

def Starts (w : World) (e : Event) : Prop :=
  ∃ clients, issued cluster node w e = some (.goEvacuate cluster node clients)

/-- The record is taken away only when no enter request that stored one is still served and
no evacuation is running, and an evacuation is started only when none is running. -/
def Calm (w : World) (e : Event) : Prop :=
  (Exits cluster node w e → ∀ job ∈ w.pool, job.role ≠ .exiting → job.working = false) ∧
    (Starts cluster node w e → evacuations w = 0)

end Runs

section Sound

variable (cluster node : String)

/-- The commands of a role, as long as it finds the record that it counts on. -/
def Issues (role : Role) : Cmd → Prop
  | .publish key _ => role = .entering ∧ key = stateKey cluster node
  | .getMaintenanceState key => role = .evacuating ∧ key = stateKey cluster node
  | .setMaintenanceState key state =>
      key = stateKey cluster node ∧ (state = none ↔ role = .exiting)
  | .write state _ => state ≠ none
  | .goEvacuate c n _ => role = .entering ∧ c = cluster ∧ n = node
  | _ => True

def Answered : (c : Cmd) → Answer c → Prop
  | .getMaintenanceState _, state => state ≠ none
  | _, _ => True

abbrev Sound (role : Role) {A : Type} (code : Code A) : Prop :=
  Keeps (Issues cluster node role) Answered code

variable {cluster node}

theorem sound_issue {role : Role} {c : Cmd} {A : Type} {next : Answer c → Code A}
    (issues : Issues cluster node role c)
    (later : ∀ r, Answered c r → Sound cluster node role (next r)) :
    Sound cluster node role (issue c >>= next) := ⟨issues, later⟩

theorem sound_last {role : Role} {c : Cmd} (issues : Issues cluster node role c) :
    Sound cluster node role (issue c) := ⟨issues, fun _ _ => trivial⟩

theorem sound_store {role : Role} (stays : role ≠ .exiting) (state : Ref)
    (change : MaintenanceState → MaintenanceState) :
    Sound cluster node role (store cluster node (some state) change) := by
  refine sound_issue (Option.some_ne_none state) ?_
  intro _ _
  apply sound_last
  exact ⟨rfl, by simp [stays]⟩

theorem sound_get {A : Type} {next : Option Ref → Code A}
    (later : ∀ state, Sound cluster node .evacuating (next (some state))) :
    Sound cluster node .evacuating
      (issue (.getMaintenanceState (stateKey cluster node)) >>= next) := by
  refine sound_issue ⟨rfl, rfl⟩ ?_
  intro found answered
  obtain ⟨state, rfl⟩ := Option.ne_none_iff_exists'.mp answered
  exact later state

theorem sound_evacuateGuest (target : String) (total : Nat)
    (guest : GuestTasks.GuestType × Handlers.Guest) (i : Nat) :
    Sound cluster node .evacuating (evacuateGuest cluster node target total guest i) := by
  apply sound_get
  intro state
  refine keeps_bind (sound_store (by decide) state _) ?_
  intro _
  refine sound_issue trivial ?_
  intro upid _
  cases upid with
  | error err => exact sound_last (Option.some_ne_none state)
  | ok upid => exact sound_last trivial

theorem sound_evacuateNode (clients : List String) :
    Sound cluster node .evacuating (evacuateNode cluster node clients) := by
  rw [evacuateNode]
  cases Handlers.targetFor node clients with
  | none => exact sound_get fun state => sound_store (by decide) state _
  | some target =>
      refine sound_issue trivial ?_
      intro cs _
      cases cs with
      | none => exact keeps_done _
      | some cs =>
          apply keeps_bind
          · apply keeps_forM
            intro guest _
            exact sound_evacuateGuest target _ guest.1 guest.2
          · intro _
            exact sound_get fun state => sound_store (by decide) state _

theorem sound_enterMaintenanceMode (poller : Poller) :
    Sound cluster node .entering (enterMaintenanceMode cluster node poller) := by
  rw [enterMaintenanceMode]
  cases nodeClients cluster node poller with
  | error refusal => exact keeps_done _
  | ok clients =>
      refine sound_issue ⟨rfl, rfl⟩ ?_
      intro state _
      refine sound_issue trivial ?_
      intro noout _
      cases noout with
      | error err =>
          refine keeps_bind (sound_store (by decide) state _) ?_
          exact fun _ => keeps_done _
      | ok _ =>
          refine keeps_bind (sound_store (by decide) state _) ?_
          intro _
          refine sound_issue ⟨rfl, rfl, rfl⟩ ?_
          exact fun _ _ => keeps_done _

theorem sound_exitMaintenanceMode (poller : Poller) :
    Sound cluster node .exiting (exitMaintenanceMode cluster node poller) := by
  rw [exitMaintenanceMode]
  cases nodeClients cluster node poller with
  | error refusal => exact keeps_done _
  | ok clients =>
      refine sound_issue trivial ?_
      intro noout _
      cases noout with
      | error err => exact keeps_done _
      | ok _ =>
          refine sound_issue ⟨rfl, iff_of_true rfl rfl⟩ ?_
          exact fun _ _ => keeps_done _

theorem sound_request (q : Request) :
    Sound cluster node (request cluster node q).role (request cluster node q).rest := by
  cases q with
  | enter poller => exact sound_enterMaintenanceMode poller
  | exit poller => exact sound_exitMaintenanceMode poller

theorem sound_started {role : Role} {c : Cmd} (issues : Issues cluster node role c) :
    ∀ job ∈ started c, job.role = .evacuating ∧ Sound cluster node job.role job.rest := by
  cases c with
  | goEvacuate c n clients =>
      obtain ⟨_, rfl, rfl⟩ := issues
      intro job member
      obtain rfl := List.mem_singleton.mp member
      exact ⟨rfl, keeps_bind (sound_evacuateNode clients) fun _ => trivial⟩
  | _ => simp [started]

theorem request_next {q : Request} {c : Cmd} (first : (request cluster node q).next = some c) :
    (∃ state, c = .publish (stateKey cluster node) state) ∨
      (request cluster node q).role = .exiting ∧ c = .setCephNoout cluster node false := by
  cases q with
  | enter poller =>
      left
      rw [request, Job.next, enterMaintenanceMode] at first
      cases known : nodeClients cluster node poller with
      | error refusal => simp [known] at first
      | ok clients =>
          rw [known] at first
          exact ⟨_, (Option.some.inj first).symm⟩
  | exit poller =>
      right
      rw [request, Job.next, exitMaintenanceMode] at first
      cases known : nodeClients cluster node poller with
      | error refusal => simp [known] at first
      | ok clients =>
          rw [known] at first
          exact ⟨rfl, (Option.some.inj first).symm⟩

end Sound

section Steps

variable {cluster node : String}

theorem performs {role : Role} {c : Cmd} (issues : Issues cluster node role c)
    (outside : Outside) (m : Memory) : ∃ r m', perform outside c m = some (r, m') := by
  cases c with
  | write state change =>
      obtain ⟨state, rfl⟩ := Option.ne_none_iff_exists'.mp issues
      exact ⟨_, _, rfl⟩
  | _ => exact ⟨_, _, rfl⟩

theorem answered_perform {role : Role} {c : Cmd} {outside : Outside} {m m' : Memory}
    {r : Answer c} (issues : Issues cluster node role c)
    (present : role = .evacuating → m.getMaintenanceState (stateKey cluster node) ≠ none)
    (performed : perform outside c m = some (r, m')) : Answered c r := by
  cases c with
  | getMaintenanceState key =>
      obtain ⟨evacuates, rfl⟩ := issues
      obtain ⟨rfl, rfl⟩ := Prod.mk.inj (Option.some.inj performed)
      exact present evacuates
  | _ => trivial

theorem stored_perform {role : Role} {c : Cmd} {outside : Outside} {m m' : Memory}
    {r : Answer c} (issues : Issues cluster node role c)
    (performed : perform outside c m = some (r, m')) :
    role ≠ .exiting ∧ m'.getMaintenanceState (stateKey cluster node) ≠ none ∨
      c = .setMaintenanceState (stateKey cluster node) none ∧
        m'.getMaintenanceState (stateKey cluster node) = none ∨
      m'.getMaintenanceState (stateKey cluster node) =
          m.getMaintenanceState (stateKey cluster node) ∧
        ∀ state, c ≠ .publish (stateKey cluster node) state := by
  cases c with
  | publish key state =>
      obtain ⟨enters, rfl⟩ := issues
      obtain ⟨rfl, rfl⟩ := Prod.mk.inj (Option.some.inj performed)
      exact .inl (by simp [enters])
  | setMaintenanceState key state =>
      obtain ⟨rfl, exits⟩ := issues
      obtain ⟨_, rfl⟩ := Prod.mk.inj (Option.some.inj performed)
      cases state with
      | none => exact .inr (.inl ⟨rfl, by simp⟩)
      | some state => exact .inl ⟨fun leaves => absurd (exits.mpr leaves) nofun, by simp⟩
  | write state change =>
      obtain ⟨state, rfl⟩ := Option.ne_none_iff_exists'.mp issues
      obtain ⟨_, rfl⟩ := Prod.mk.inj (Option.some.inj performed)
      exact .inr (.inr ⟨rfl, nofun⟩)
  | _ =>
      obtain ⟨_, rfl⟩ := Prod.mk.inj (Option.some.inj performed)
      exact .inr (.inr ⟨rfl, nofun⟩)

/-- All that a sound thread does in one step. -/
structure Advanced (cluster node : String) (job job' : Job) (m m' : Memory) (new : List Job) :
    Prop where
  role : job'.role = job.role
  sound : Sound cluster node job'.role job'.rest
  working : job'.working = true → job.working = true
  new_sound : ∀ j ∈ new, j.role = .evacuating ∧ Sound cluster node j.role j.rest
  starts : new = [] ∨ new.length = 1 ∧
    ∃ clients, job.next = some (.goEvacuate cluster node clients)
  stored : (job.working = true ∧ job.role ≠ .exiting) ∧
      m'.getMaintenanceState (stateKey cluster node) ≠ none ∨
    job.next = some (.setMaintenanceState (stateKey cluster node) none) ∧
      m'.getMaintenanceState (stateKey cluster node) = none ∨
    m'.getMaintenanceState (stateKey cluster node) =
        m.getMaintenanceState (stateKey cluster node) ∧
      ∀ state, job.next ≠ some (.publish (stateKey cluster node) state)

theorem starts_of_issues {role : Role} {c : Cmd} (issues : Issues cluster node role c) :
    started c = [] ∨ (started c).length = 1 ∧ ∃ clients, c = .goEvacuate cluster node clients := by
  cases c with
  | goEvacuate c n clients =>
      obtain ⟨_, rfl, rfl⟩ := issues
      exact .inr ⟨rfl, clients, rfl⟩
  | _ => exact .inl rfl

theorem advance_sound {job : Job} {m : Memory} (outside : Outside)
    (sound : Sound cluster node job.role job.rest)
    (present : job.working = true → job.role = .evacuating →
      m.getMaintenanceState (stateKey cluster node) ≠ none) :
    ∃ job' m' new, advance job outside m = some (job', m', new) ∧
      Advanced cluster node job job' m m' new := by
  obtain ⟨role, rest⟩ := job
  cases rest with
  | done reply =>
      exact ⟨_, _, _, rfl, rfl, keeps_done _, id, nofun, .inl rfl, .inr (.inr ⟨rfl, nofun⟩)⟩
  | act c next =>
      obtain ⟨issues, later⟩ := sound
      obtain ⟨r, m', performed⟩ := performs issues outside m
      have answered := answered_perform issues (present rfl) performed
      refine ⟨⟨role, next r⟩, m', started c, by simp [advance, performed], rfl, later r answered,
        fun _ => rfl, sound_started issues, ?_, ?_⟩
      · simpa [Job.next] using starts_of_issues issues
      · simpa [Job.next, Job.working] using stored_perform issues performed

theorem issues_of_next {job : Job} {c : Cmd} (sound : Sound cluster node job.role job.rest)
    (next : job.next = some c) : Issues cluster node job.role c := by
  obtain ⟨role, _ | ⟨first, later⟩⟩ := job
  · exact nomatch next
  · obtain rfl : first = c := Option.some.inj next
    exact sound.1

/-- What holds in every state of a calm run. -/
structure Inv (cluster node : String) (w : World) : Prop where
  up : w.down = false
  sound : ∀ job ∈ w.pool, Sound cluster node job.role job.rest
  single : evacuations w ≤ 1
  stored : ∀ job ∈ w.pool, job.role ≠ .exiting → job.working = true →
    w.shared.getMaintenanceState (stateKey cluster node) ≠ none

variable {w : World} {e : Event} {job : Job} {outside : Outside} {before after : List Job}

theorem sound_of_turn (turn : Thread.Turn (request cluster node) w e job outside before after)
    (sound : ∀ job ∈ w.pool, Sound cluster node job.role job.rest) :
    Sound cluster node job.role job.rest :=
  turn.actor_of sound_request sound

/-- A thread that has begun its work for the node, seen with its next command. -/
theorem mem_of_turn (turn : Thread.Turn (request cluster node) w e job outside before after)
    (working : job.working = true) (stays : job.role ≠ .exiting)
    (later : ∀ state, job.next ≠ some (.publish (stateKey cluster node) state)) :
    job ∈ w.pool := by
  cases turn with
  | begins q =>
      obtain ⟨c, next⟩ := Option.isSome_iff_exists.mp working
      rcases request_next next with ⟨state, rfl⟩ | ⟨exits, _⟩
      · exact absurd next (later state)
      · exact absurd exits stays
  | goes i _ _ _ _ here => exact List.mem_of_getElem? here

theorem present_of_turn (inv : Inv cluster node w)
    (turn : Thread.Turn (request cluster node) w e job outside before after)
    (working : job.working = true) (stays : job.role ≠ .exiting)
    (later : ∀ state, job.next ≠ some (.publish (stateKey cluster node) state)) :
    w.shared.getMaintenanceState (stateKey cluster node) ≠ none :=
  inv.stored job (mem_of_turn turn working stays later) stays working

theorem request_evacuates (q : Request) : (request cluster node q).evacuates = false := by
  cases q <;> rfl

theorem evacuations_of_turn
    (turn : Thread.Turn (request cluster node) w e job outside before after) :
    (before ++ after).countP Job.evacuates + [job].countP Job.evacuates = evacuations w := by
  cases turn with
  | begins q => simp [evacuations, request_evacuates]
  | goes i _ _ _ _ _ split =>
      rw [evacuations, split]
      simp only [List.countP_append, List.countP_cons, List.countP_nil]
      omega

theorem issued_of_acts (acts : Thread.actor (request cluster node) w e = some (job, outside)) :
    issued cluster node w e = job.next := by
  rw [issued, acts]
  rfl

theorem stored_step (inv : Inv cluster node w) (calm : Calm cluster node w e) {job' : Job}
    {m' : Memory} {new : List Job}
    (acts : Thread.actor (request cluster node) w e = some (job, outside))
    (turn : Thread.Turn (request cluster node) w e job outside before after)
    (sound : Sound cluster node job.role job.rest)
    (moved : Advanced cluster node job job' w.shared m' new) :
    ∀ j ∈ before ++ job' :: after ++ new, j.role ≠ .exiting → j.working = true →
      m'.getMaintenanceState (stateKey cluster node) ≠ none := by
  intro j member stays working
  rcases moved.stored with ⟨_, stored⟩ | ⟨removes, _⟩ | ⟨same, later⟩
  · exact stored
  · have exits := (issues_of_next sound removes).2.mp rfl
    have others := calm.1 ((issued_of_acts acts).trans removes)
    have none_new : new = [] := by
      rcases moved.starts with empty | ⟨_, clients, starts⟩
      · exact empty
      · rw [removes] at starts
        exact nomatch starts
    subst none_new
    rcases turn.mem_cases member with aside | rfl | member
    · rw [others j aside stays] at working
      exact nomatch working
    · exact absurd (moved.role.trans exits) stays
    · exact nomatch member
  · rw [same]
    rcases turn.mem_cases member with aside | rfl | member
    · exact inv.stored j aside stays working
    · exact present_of_turn inv turn (moved.working working) (moved.role ▸ stays) later
    · rcases moved.starts with rfl | ⟨_, clients, starts⟩
      · exact nomatch member
      · have enters := (issues_of_next sound starts).1
        refine present_of_turn inv turn ?_ (by simp [enters]) later
        rw [Job.working, starts]
        rfl

theorem single_step (inv : Inv cluster node w) (calm : Calm cluster node w e) {job' : Job}
    {m' : Memory} {new : List Job}
    (acts : Thread.actor (request cluster node) w e = some (job, outside))
    (turn : Thread.Turn (request cluster node) w e job outside before after)
    (sound : Sound cluster node job.role job.rest)
    (moved : Advanced cluster node job job' w.shared m' new) :
    (before ++ job' :: after ++ new).countP Job.evacuates ≤ 1 := by
  have counted := evacuations_of_turn turn
  have kept : [job'].countP Job.evacuates ≤ [job].countP Job.evacuates := by
    have same : job'.evacuates = true → job.evacuates = true := by
      simp only [Job.evacuates, moved.role, Bool.and_eq_true]
      exact fun ⟨role, working⟩ => ⟨role, moved.working working⟩
    cases evacuates : job'.evacuates with
    | false => simp [evacuates]
    | true => simp [evacuates, same evacuates]
  have single := inv.single
  simp only [List.countP_append, List.countP_cons, List.countP_nil] at counted kept ⊢
  rcases moved.starts with rfl | ⟨one, clients, starts⟩
  · simp only [List.countP_nil]
    omega
  · have enters := (issues_of_next sound starts).1
    have free := calm.2 ⟨clients, (issued_of_acts acts).trans starts⟩
    have most : new.countP Job.evacuates ≤ new.length := List.countP_le_length
    omega

theorem inv_step (inv : Inv cluster node w) (calm : Calm cluster node w e) :
    Inv cluster node (step cluster node w e) := by
  rcases Thread.step_cases advance (request cluster node) w e with
    ⟨_, same⟩ | ⟨job, outside, before, after, acts, up, turn, rest⟩
  · rw [step, same]
    exact inv
  · have sound := sound_of_turn turn inv.sound
    have present : job.working = true → job.role = .evacuating →
        w.shared.getMaintenanceState (stateKey cluster node) ≠ none := by
      intro working evacuates
      refine present_of_turn inv turn working (by simp [evacuates]) ?_
      intro state enters
      rw [(issues_of_next sound enters).1] at evacuates
      exact nomatch evacuates
    obtain ⟨job', m', new, advanced, moved⟩ := advance_sound outside sound present
    rcases rest with ⟨stuck, _⟩ | ⟨job'', m'', new', advanced', stepped⟩
    · rw [advanced] at stuck
      exact nomatch stuck
    · rw [advanced] at advanced'
      obtain ⟨rfl, rfl, rfl⟩ := Option.some.inj advanced'
      rw [step, stepped]
      refine ⟨rfl, ?_, single_step inv calm acts turn sound moved,
        stored_step inv calm acts turn sound moved⟩
      intro j member
      rcases turn.mem_cases member with aside | rfl | member
      · exact inv.sound j aside
      · exact moved.sound
      · exact (moved.new_sound j member).2

/-- Nobody is going to store a record for the node. -/
structure Quiet (cluster node : String) (w : World) : Prop where
  sound : ∀ job ∈ w.pool, Sound cluster node job.role job.rest
  stored : w.shared.getMaintenanceState (stateKey cluster node) = none
  rests : ∀ job ∈ w.pool, job.role ≠ .exiting → job.working = false

theorem quiet_of_exits (inv : Inv cluster node w) (calm : Calm cluster node w e)
    (exits : Exits cluster node w e) : Quiet cluster node (step cluster node w e) := by
  have kept := inv_step inv calm
  rcases Thread.step_cases advance (request cluster node) w e with
    ⟨idle, _⟩ | ⟨job, outside, before, after, acts, up, turn, rest⟩
  · rw [Exits, issued, idle] at exits
    exact nomatch exits
  · have sound := sound_of_turn turn inv.sound
    have removes := (issued_of_acts acts).symm.trans exits
    obtain ⟨role, _ | ⟨c, next⟩⟩ := job
    · exact nomatch removes
    · obtain rfl := Option.some.inj removes
      obtain rfl : role = .exiting := sound.1.2.mp rfl
      rcases rest with ⟨stuck, _⟩ | ⟨job', m', new, advanced, stepped⟩
      · exact nomatch stuck
      · obtain ⟨rfl, rfl, rfl⟩ := Option.some.inj advanced
        rw [step] at kept ⊢
        rw [stepped] at kept ⊢
        refine ⟨kept.sound, by simp, ?_⟩
        intro j member stays
        rcases turn.mem_cases member with aside | rfl | member
        · exact calm.1 exits j aside stays
        · exact absurd rfl stays
        · exact nomatch member

theorem quiet_step (quiet : Quiet cluster node w) (later : ¬Enters cluster node w e) :
    Quiet cluster node (step cluster node w e) := by
  rcases Thread.step_cases advance (request cluster node) w e with
    ⟨_, same⟩ | ⟨job, outside, before, after, acts, up, turn, rest⟩
  · rw [step, same]
    exact quiet
  · have sound := sound_of_turn turn quiet.sound
    have unpublished : ∀ state, job.next ≠ some (.publish (stateKey cluster node) state) :=
      fun state enters => later ⟨state, (issued_of_acts acts).trans enters⟩
    have rests : job.role ≠ .exiting → job.working = false := by
      intro stays
      by_contra working
      rw [Bool.not_eq_false] at working
      have idle := quiet.rests job (mem_of_turn turn working stays unpublished) stays
      rw [working] at idle
      exact nomatch idle
    obtain ⟨job', m', new, advanced, moved⟩ := advance_sound outside sound fun working evacuates =>
      absurd working (by simp [rests (by simp [evacuates])])
    rcases rest with ⟨stuck, _⟩ | ⟨job'', m'', new', advanced', stepped⟩
    · rw [advanced] at stuck
      exact nomatch stuck
    · rw [advanced] at advanced'
      obtain ⟨rfl, rfl, rfl⟩ := Option.some.inj advanced'
      have still : job.working = true → job.role = .exiting := by
        intro working
        by_contra stays
        rw [rests stays] at working
        exact nomatch working
      rw [step, stepped]
      refine ⟨?_, ?_, ?_⟩
      · intro j member
        rcases turn.mem_cases member with aside | rfl | member
        · exact quiet.sound j aside
        · exact moved.sound
        · exact (moved.new_sound j member).2
      · rcases moved.stored with ⟨⟨working, stays⟩, _⟩ | ⟨_, gone⟩ | ⟨same, _⟩
        · exact absurd (still working) stays
        · exact gone
        · exact same.trans quiet.stored
      · intro j member stays
        rcases turn.mem_cases member with aside | rfl | member
        · exact quiet.rests j aside stays
        · by_contra working
          rw [Bool.not_eq_false] at working
          exact stays (moved.role.trans (still (moved.working working)))
        · rcases moved.starts with rfl | ⟨_, clients, starts⟩
          · exact nomatch member
          · have enters := (issues_of_next sound starts).1
            have working : job.working = true := by rw [Job.working, starts, Option.isSome_some]
            exact absurd ((still working).symm.trans enters) nofun

end Steps

section Main

variable (cluster node : String)

/-- In every calm run no evacuation reads through a missing record, at most one evacuation of
the node is running, and a node that left maintenance is not reported to be in it until
another request enters it. -/
theorem maintenance_safe (m : Memory) (es : List Event)
    (calm : Along (step cluster node) (Calm cluster node) (idle m) es) :
    (∀ w ∈ states (step cluster node) (idle m) es, w.down = false ∧ evacuations w ≤ 1) ∧
      ∀ before e after, es = before ++ e :: after →
        Exits cluster node (before.foldl (step cluster node) (idle m)) e →
        Along (step cluster node) (fun w e => ¬Enters cluster node w e)
          ((before ++ [e]).foldl (step cluster node) (idle m)) after →
        ∀ w ∈ states (step cluster node) ((before ++ [e]).foldl (step cluster node) (idle m)) after,
          inMaintenance cluster node w.shared = false := by
  have start : Inv cluster node (idle m) := ⟨rfl, nofun, Nat.zero_le 1, nofun⟩
  constructor
  · intro w reached
    have inv := invariant_along (fun _ _ => inv_step) start calm w reached
    exact ⟨inv.up, inv.single⟩
  · rintro before e after rfl exits later w reached
    obtain ⟨first, now, _⟩ := (along_append _ _ _).mp calm
    have inv := invariant_along (fun _ _ => inv_step) start first _ (last_mem_states _ _)
    have quiet := quiet_of_exits inv now exits
    rw [List.foldl_append] at later reached
    have still := invariant_along (fun _ _ => quiet_step) quiet later w reached
    rw [inMaintenance, Memory.shown, still.stored]
    rfl

end Main

section Lab

/-- The poller knows the nodes `pve1` and `pve2` of the cluster `lab`. -/
def labPoller : Poller := some fun _ => some ["pve1", "pve2"]

/-- What the outside answers; the cluster has these containers only. -/
def labOutside (containers : FiniteMap.Map Int64 Pve.Container) : Outside :=
  ⟨.ok (), some { State.ClusterStore.new "lab" with containers := containers }, .ok "UPID:1"⟩

/-- Maintenance is left while the evacuation is under way. -/
def labEarlyExit : List Event :=
  let o := labOutside ∅
  [.begins (.enter labPoller) o, .goes 0 o, .goes 0 o, .goes 0 o, .goes 0 o, .goes 1 o,
    .begins (.exit labPoller) o, .goes 2 o, .goes 1 o, .goes 1 o]

/-- The evacuation writes through a nil pointer, which ends the server. -/
theorem down_after_early_exit :
    ¬∀ es, ∀ w ∈ states (step "lab" "pve1") (idle ⟨[], ∅⟩) es,
      w.down = false ∧ evacuations w ≤ 1 := by
  intro safe
  have up := (safe labEarlyExit _ (last_mem_states _ _)).1
  have down : (labEarlyExit.foldl (step "lab" "pve1") (idle ⟨[], ∅⟩)).down = true := rfl
  rw [down] at up
  exact nomatch up

def labContainers : FiniteMap.Map Int64 Pve.Container :=
  (∅ : FiniteMap.Map Int64 Pve.Container).insert 101
    { (default : Pve.Container) with vmid := 101, node := "pve1" }

/-- Maintenance is left when the evacuation has moved the container and ended. -/
def labQuietExit : List Event :=
  let o := labOutside labContainers
  [.begins (.enter labPoller) o, .goes 0 o, .goes 0 o, .goes 0 o, .goes 0 o] ++
    List.replicate 9 (.goes 1 o) ++ [.begins (.exit labPoller) o, .goes 2 o]

theorem safe_quiet_exit :
    (∀ w ∈ states (step "lab" "pve1") (idle ⟨[], ∅⟩) labQuietExit,
        w.down = false ∧ evacuations w ≤ 1) ∧
      inMaintenance "lab" "pve1"
        (labQuietExit.foldl (step "lab" "pve1") (idle ⟨[], ∅⟩)).shared = false := by
  have calm : Along (step "lab" "pve1") (Calm "lab" "pve1") (idle ⟨[], ∅⟩) labQuietExit := by
    refine ⟨⟨nofun, nofun⟩, ⟨nofun, nofun⟩, ⟨nofun, nofun⟩, ⟨nofun, nofun⟩, ⟨nofun, fun _ => rfl⟩,
      ⟨nofun, nofun⟩, ⟨nofun, nofun⟩, ⟨nofun, nofun⟩, ⟨nofun, nofun⟩, ⟨nofun, nofun⟩,
      ⟨nofun, nofun⟩, ⟨nofun, nofun⟩, ⟨nofun, nofun⟩, ⟨nofun, nofun⟩, ⟨nofun, nofun⟩,
      ⟨?_, nofun⟩, trivial⟩
    intro _ job member stays
    rcases List.mem_cons.mp member with rfl | member
    · rfl
    rcases List.mem_cons.mp member with rfl | member
    · rfl
    · obtain rfl := List.mem_singleton.mp member
      exact absurd rfl stays
  obtain ⟨safe, left⟩ := maintenance_safe "lab" "pve1" ⟨[], ∅⟩ labQuietExit calm
  exact ⟨safe, left (labQuietExit.take 15) (.goes 2 (labOutside labContainers)) [] rfl rfl trivial _
    (List.mem_singleton_self _)⟩

end Lab

end Maintenance
