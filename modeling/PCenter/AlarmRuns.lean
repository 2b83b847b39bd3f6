import PCenter.Alarms
import PCenter.Lib.Thread

/-!
# Evaluations and acknowledgements at the same time

Evaluations and acknowledgements are threads over the tables, and a run is any order of
their statements, each of which is atomic. An evaluation reads its instance in one statement
and writes the whole row back in another.
-/

namespace Alarms

open Program Transition

variable {V : Type}

inductive Request (V : Type) where
  | evaluate (now : Instant) (d : AlarmDefinition V) (res : Resource) (value : V)
  | acknowledge (id user : String)

/-- What a thread has still to do. -/
abbrev Job (V : Type) := Prog (Cmd V) Answer Unit

def nextCmd : Job V → Option (Cmd V)
  | .done _ => none
  | .act c _ => some c

/-- The evaluation has read the instance and is about to write it. -/
def saves (id : String) (job : Job V) : Bool :=
  match nextCmd job with
  | some (.upsertInstance inst) => inst.id = id
  | _ => false

def advance (job : Job V) (stamp : Instant) (db : DB V) : Option (Job V × DB V × List (Job V)) :=
  match job with
  | .done _ => some (job, db, [])
  | .act c next => (perform stamp c db).map fun answer => (next answer.1, answer.2, [])

abbrev World (V : Type) := Thread.World (Job V) (DB V)

/-- The time is that of the statement which the event lets a thread issue. -/
abbrev Move (V : Type) := Thread.Event (Request V) Instant

section Runs

variable [LT V] [LE V] [DecidableLT V] [DecidableLE V]

/-- An evaluation whose answer nobody waits for. -/
def unit (code : Code V Bool) : Code V Unit := code >>= fun _ => pure ()

def request : Request V → Job V
  | .evaluate now d res value => unit (evaluateAlarm now d res value)
  | .acknowledge id user => acknowledge id user

abbrev go : World V → Move V → World V := Thread.step advance request

def idle (db : DB V) : World V := ⟨db, [], false⟩

def issued (w : World V) (e : Move V) : Option (Cmd V) :=
  (Thread.actor request w e).bind fun actor => nextCmd actor.1

def stateOf (id : String) (w : World V) : AlarmState := (w.shared.existing id).state

def userOf (id : String) : Cmd V → Option String
  | .acknowledgeAlarm i user => if i = id then some user else none
  | _ => none

/-- The user whose acknowledgement of the instance the event issues. -/
def acknowledger (id : String) (w : World V) (e : Move V) : Option String :=
  (issued w e).bind (userOf id)

/-- The event stores an acknowledgement. -/
def Acknowledges (id user : String) (w : World V) (e : Move V) : Prop :=
  acknowledger id w e = some user ∧ (w.shared.instances.lookup id).isSome = true

/-- Every acknowledgement that a run stores stays as long as the state does. -/
def AcknowledgementsKept (id : String) (w : World V) (es : List (Move V)) : Prop :=
  ∀ before e after user, es = before ++ e :: after →
    Acknowledges id user (before.foldl go w) e →
    (∀ t ∈ states go (go (before.foldl go w) e) after,
      stateOf id t = stateOf id (go (before.foldl go w) e)) →
    ∀ t ∈ states go (go (before.foldl go w) e) after, (t.shared.existing id).acknowledgedBy = user

/-- An acknowledgement is stored only while no evaluation is between its two statements, and
none takes the place of another user's. -/
def Orderly (id : String) (w : World V) (e : Move V) : Prop :=
  ∀ user ∈ acknowledger id w e,
    (∀ job ∈ w.pool, saves id job = false) ∧
      ((w.shared.existing id).acknowledgedAt = 0 ∨ (w.shared.existing id).acknowledgedBy = user)

instance (id : String) (w : World V) (e : Move V) : Decidable (Orderly id w e) :=
  inferInstanceAs (Decidable (∀ user ∈ acknowledger id w e, _))

theorem acknowledger_eq_some_iff {id user : String} {w : World V} {e : Move V} :
    acknowledger id w e = some user ↔ issued w e = some (.acknowledgeAlarm id user) := by
  rw [acknowledger]
  constructor
  · intro asks
    obtain ⟨c, issues, names⟩ := Option.bind_eq_some_iff.mp asks
    cases c with
    | acknowledgeAlarm i u =>
        obtain ⟨rfl, rfl⟩ := by simpa [userOf] using names
        exact issues
    | _ => exact absurd names nofun
  · intro issues
    simp [issues, userOf]

end Runs

section Programs

/-- Statements on one instance. -/
def Touches (id : String) : Cmd V → Prop
  | .selectInstance i => i = id
  | .upsertInstance inst => inst.id = id
  | .recordHistory _ _ _ => False
  | .acknowledgeAlarm i _ => i = id

/-- A thread that has the write of the instance before it and nothing else on it. -/
def Saving (id : String) (job : Job V) : Prop :=
  ∃ inst next, job = .act (.upsertInstance inst) next ∧ inst.id = id ∧
    ∀ saved, Never (Touches id) (next saved)

theorem saves_of_saving {id : String} {job : Job V} (saving : Saving id job) :
    saves id job = true := by
  obtain ⟨inst, next, rfl, own, _⟩ := saving
  simp [saves, nextCmd, own]

theorem save_eq (inst : AlarmInstance V) (oldState : AlarmState) :
    ∃ next, unit (save inst oldState) = .act (.upsertInstance inst) next ∧
      ∀ id saved, Never (Touches id) (next saved) := by
  refine ⟨_, rfl, ?_⟩
  intro id saved
  apply keeps_bind
  · apply keeps_ite
    · exact fun _ => keeps_done _
    · intro _
      apply keeps_ite
      · exact fun _ => ⟨fun touches => touches, fun _ _ => keeps_done _⟩
      · exact fun _ => keeps_done _
  · exact fun _ => keeps_done _

/-- How a thread stands to an instance once it has taken its first step. -/
def Begun (id : String) (job : Job V) : Prop := Never (Touches id) job ∨ Saving id job

theorem begun_save (id : String) (inst : AlarmInstance V) (oldState : AlarmState) :
    Begun id (unit (save inst oldState)) := by
  obtain ⟨next, same, later⟩ := save_eq inst oldState
  rw [same]
  by_cases own : inst.id = id
  · exact .inr ⟨inst, next, rfl, own, later id⟩
  · exact .inl ⟨own, fun saved _ => later id saved⟩

theorem begun_advance {id : String} {job job' : Job V} {stamp : Instant} {db db' : DB V}
    {new : List (Job V)} (begun : Begun id job)
    (advanced : advance job stamp db = some (job', db', new)) : Begun id job' ∧ new = [] := by
  cases job with
  | done u =>
      obtain ⟨rfl, _, rfl⟩ := by simpa [advance] using advanced
      exact ⟨begun, rfl⟩
  | act c next =>
      obtain ⟨answer, performed, moved⟩ := Option.map_eq_some_iff.mp advanced
      obtain ⟨rfl, _, rfl⟩ := by simpa using moved
      rcases begun with never | ⟨inst, next', same, _, later⟩
      · exact ⟨.inl (never.2 answer.1 trivial), rfl⟩
      · cases same
        exact ⟨.inl (later answer.1), rfl⟩

/-- An instance to be saved has the acknowledgement that was read, if it has that state. -/
def Preserves (existing : Existing) (inst : AlarmInstance V) : Prop :=
  inst.state = existing.state → inst.acknowledgedBy = existing.acknowledgedBy ∧
    inst.acknowledgedAt = existing.acknowledgedAt

theorem preserves_evaluated (now : Instant) (d : AlarmDefinition V) (res : Resource) (value : V)
    (violation : AlarmState) (existing : Existing) :
    Preserves existing (evaluated now d res value violation existing) :=
  fun same => ⟨if_pos same, if_pos same⟩

variable [LT V] [LE V] [DecidableLT V] [DecidableLE V]

theorem request_cases (q : Request V) :
    request q = .done () ∨
      (∃ i next, request q = .act (.selectInstance i) next ∧ ∀ found, ∃ inst oldState,
        next found = unit (save inst oldState) ∧ inst.id = i ∧
          Preserves (found.getD unseen) inst) ∨
      ∃ i user, request q = .act (.acknowledgeAlarm i user) fun _ => .done () := by
  cases q with
  | acknowledge i user => exact .inr (.inr ⟨i, user, rfl⟩)
  | evaluate now d res value =>
      cases speaks : violationState d value with
      | none => exact .inl (by simp [request, evaluateAlarm, speaks, unit])
      | some violation =>
          refine .inr (.inl ⟨instID d res, fun found => unit (save
            (evaluated now d res value violation (found.getD unseen)) (found.getD unseen).state),
            ?_, ?_⟩)
          · simp only [request, evaluateAlarm, speaks, unit]
            rfl
          · intro found
            exact ⟨_, _, rfl, rfl, preserves_evaluated now d res value violation _⟩

theorem request_advance {id : String} {q : Request V} {job' : Job V} {stamp : Instant}
    {db db' : DB V} {new : List (Job V)}
    (advanced : advance (request q) stamp db = some (job', db', new)) :
    Begun id job' ∧ new = [] := by
  rcases request_cases q with same | ⟨i, next, same, reads⟩ | ⟨i, user, same⟩
  · rw [same] at advanced
    exact begun_advance (.inl (keeps_done ())) advanced
  · rw [same] at advanced
    obtain ⟨rfl, _, rfl⟩ := by simpa [advance, perform] using advanced
    obtain ⟨inst, oldState, saved, _⟩ := reads ((db.instances.lookup i).map Row.scan)
    rw [saved]
    exact ⟨begun_save id inst oldState, rfl⟩
  · rw [same] at advanced
    obtain ⟨rfl, _, rfl⟩ := by simpa [advance, perform] using advanced
    exact ⟨.inl (keeps_done ()), rfl⟩

end Programs

section Steps

variable [LT V] [LE V] [DecidableLT V] [DecidableLE V] {id : String}

omit [LT V] [LE V] [DecidableLT V] [DecidableLE V] in
theorem advance_cases (job : Job V) (stamp : Instant) (db : DB V) :
    (∃ u, job = .done u ∧ advance job stamp db = some (job, db, [])) ∨
      ∃ c next answer, job = .act c next ∧ perform stamp c db = some answer ∧
        advance job stamp db = some (next answer.1, answer.2, []) := by
  cases job with
  | done u => exact .inl ⟨u, rfl, rfl⟩
  | act c next => cases c <;> exact .inr ⟨_, next, _, rfl, rfl, rfl⟩

theorem go_cases (w : World V) (e : Move V) :
    issued w e = none ∧ go w e = w ∨ ∃ t o t' db, ((∃ q, t = request q) ∨ t ∈ w.pool) ∧ issued w e = nextCmd t ∧
      advance t o w.shared = some (t', db, []) ∧ (go w e).shared = db ∧
      ∀ job ∈ (go w e).pool, job ∈ w.pool ∨ job = t' := by
  rcases Thread.step_cases advance request w e with ⟨nobody, same⟩ |
    ⟨t, o, before, after, actor, _, turn, rest⟩
  · refine .inl ⟨?_, same⟩
    rw [issued, nobody]
    rfl
  · have begins : (∃ q, t = request q) ∨ t ∈ w.pool := by
      cases turn with
      | begins q => exact .inl ⟨q, rfl⟩
      | goes i o t before after here _ => exact .inr (List.mem_of_getElem? here)
    have issues : issued w e = nextCmd t := by
      rw [issued, actor]
      rfl
    have advances : ∃ t' db, advance t o w.shared = some (t', db, []) := by
      rcases advance_cases t o w.shared with ⟨_, _, here⟩ | ⟨_, _, _, _, _, here⟩
      · exact ⟨_, _, here⟩
      · exact ⟨_, _, here⟩
    obtain ⟨t', db, advanced⟩ := advances
    rcases rest with ⟨stuck, _⟩ | ⟨u, s, new, moves, moved⟩
    · exact absurd (stuck.symm.trans advanced) nofun
    · obtain ⟨rfl, rfl, rfl⟩ := by simpa using moves.symm.trans advanced
      refine .inr ⟨t, o, u, s, begins, issues, advanced, by rw [go, moved], ?_⟩
      intro job member
      rw [go, moved] at member
      rcases turn.mem_cases member with old | here | new
      · exact .inl old
      · exact .inr here
      · exact absurd new List.not_mem_nil

theorem begun_go {w : World V} (begun : ∀ job ∈ w.pool, Begun id job) (e : Move V) :
    ∀ job ∈ (go w e).pool, Begun id job := by
  rcases go_cases w e with ⟨silent, same⟩ | ⟨t, o, t', db, origin, _, advanced, _, pool⟩
  · rw [same]
    exact begun
  · intro job member
    rcases pool job member with old | rfl
    · exact begun job old
    · rcases origin with ⟨q, rfl⟩ | inside
      · exact (request_advance advanced).1
      · exact (begun_advance (begun t inside) advanced).1

end Steps

section Held

variable (id user : String) (st : AlarmState)

/-- What a thread may write to an acknowledged instance: the acknowledgement it has, or
another state. -/
def Careful : Cmd V → Prop
  | .upsertInstance inst => inst.id = id → inst.state = st →
      inst.acknowledgedBy = user ∧ inst.acknowledgedAt ≠ 0
  | _ => True

def Seen : (c : Cmd V) → Answer c → Prop
  | .selectInstance i, found => i = id → ∃ existing, found = some existing ∧
      existing.state = st ∧ existing.acknowledgedBy = user ∧ existing.acknowledgedAt ≠ 0
  | _, _ => True

def Acknowledged (db : DB V) : Prop :=
  ∃ row, db.instances.lookup id = some row ∧ row.state = st ∧ row.acknowledgedBy = user ∧
    row.acknowledgedAt ≠ 0

/-- The instance is acknowledged, and no thread is about to change that. -/
structure Held (w : World V) : Prop where
  row : Acknowledged id user st w.shared
  jobs : ∀ job ∈ w.pool, Keeps (Careful id user st) (Seen id user st) job

variable {id user : String} {st : AlarmState}

theorem careful_of_never {job : Job V} (never : Never (Touches id) job) :
    Keeps (Careful id user st) (Seen id user st) job := by
  apply keeps_mono _ _ never
  · intro c untouched
    cases c with
    | upsertInstance inst => exact fun own => absurd own untouched
    | _ => trivial
  · exact fun _ _ _ => trivial

theorem careful_save {inst : AlarmInstance V} {oldState : AlarmState}
    (careful : Careful id user st (.upsertInstance inst)) :
    Keeps (Careful id user st) (Seen id user st) (unit (save inst oldState)) := by
  obtain ⟨next, same, later⟩ := save_eq inst oldState
  rw [same]
  exact ⟨careful, fun saved _ => careful_of_never (later id saved)⟩

theorem lookup_upsert_ne {inst : AlarmInstance V} (db : DB V) (other : inst.id ≠ id) :
    (db.upsertInstance inst).2.instances.lookup id = db.instances.lookup id := by
  by_cases own : db.Own inst
  · rw [upsert_of_own own]
    exact AList.lookup_insert_ne (Ne.symm other)
  · rw [upsert_of_not_own own]

theorem lookup_acknowledge_ne {i u : String} {stamp : Instant} (db : DB V) (other : i ≠ id) :
    (db.acknowledgeAlarm stamp i u).instances.lookup id = db.instances.lookup id := by
  unfold DB.acknowledgeAlarm
  cases db.instances.lookup i with
  | none => rfl
  | some row => exact AList.lookup_insert_ne (Ne.symm other)

theorem lookup_acknowledge {stamp : Instant} {db : DB V} {row : Row V}
    (found : db.instances.lookup id = some row) :
    (db.acknowledgeAlarm stamp id user).instances.lookup id =
      some { row with acknowledgedBy := user, acknowledgedAt := stamp.1 } := by
  unfold DB.acknowledgeAlarm
  rw [found]
  exact AList.lookup_insert _

theorem acknowledged_congr {db db' : DB V} (acknowledged : Acknowledged id user st db)
    (same : db'.instances.lookup id = db.instances.lookup id) :
    Acknowledged id user st db' := by
  obtain ⟨row, found, kept⟩ := acknowledged
  exact ⟨row, same.trans found, kept⟩

theorem seen_of_acknowledged {db : DB V} (acknowledged : Acknowledged id user st db)
    (i : String) :
    Seen id user st (.selectInstance i : Cmd V) ((db.instances.lookup i).map Row.scan) := by
  rintro rfl
  obtain ⟨row, found, kept⟩ := acknowledged
  rw [found]
  exact ⟨row.scan, rfl, kept⟩

theorem acknowledged_upsert {inst : AlarmInstance V} {db : DB V}
    (acknowledged : Acknowledged id user st db)
    (careful : Careful id user st (.upsertInstance inst))
    (stays : ((db.upsertInstance inst).2.existing id).state = st) :
    Acknowledged id user st (db.upsertInstance inst).2 := by
  by_cases other : inst.id = id
  · subst other
    by_cases own : db.Own inst
    · rw [upsert_of_own own] at stays ⊢
      have found := AList.lookup_insert (a := inst.id) (b := inst.toRow) db.instances
      rw [existing_of_lookup found] at stays
      exact ⟨inst.toRow, found, stays, careful rfl stays⟩
    · rw [upsert_of_not_own own]
      exact acknowledged
  · exact acknowledged_congr acknowledged (lookup_upsert_ne db other)

theorem acknowledged_acknowledge {i u : String} {stamp : Instant} {db : DB V}
    (acknowledged : Acknowledged id user st db) (same : i = id → u = user) :
    Acknowledged id user st (db.acknowledgeAlarm stamp i u) := by
  by_cases other : i = id
  · obtain rfl := same other
    subst other
    obtain ⟨row, found, state, _, _⟩ := acknowledged
    exact ⟨_, lookup_acknowledge found, state, rfl, (Int.ne_of_lt stamp.2).symm⟩
  · exact acknowledged_congr acknowledged (lookup_acknowledge_ne db other)

variable [LT V] [LE V] [DecidableLT V] [DecidableLE V]

theorem careful_request (q : Request V) :
    Keeps (Careful id user st) (Seen id user st) (request q) := by
  rcases request_cases q with same | ⟨i, next, same, reads⟩ | ⟨i, u, same⟩
  · rw [same]
    exact keeps_done ()
  · rw [same]
    refine ⟨trivial, ?_⟩
    intro found seen
    obtain ⟨inst, oldState, saved, named, preserves⟩ := reads found
    rw [saved]
    apply careful_save
    intro own state
    obtain ⟨existing, rfl, state', user', acked⟩ := seen (named.symm.trans own)
    obtain ⟨by', at'⟩ := preserves (state.trans state'.symm)
    exact ⟨by'.trans user', fun zero => acked (at'.symm.trans zero)⟩
  · rw [same]
    exact ⟨trivial, fun _ _ => keeps_done ()⟩

theorem held_go {w : World V} (held : Held id user st w) {e : Move V}
    (orderly : Orderly id w e) (stays : stateOf id (go w e) = st) : Held id user st (go w e) := by
  rcases go_cases w e with ⟨silent, same⟩ | ⟨t, o, t', db, origin, issues, advanced, shared, pool⟩
  · rw [same]
    exact held
  · have careful : Keeps (Careful id user st) (Seen id user st) t := by
      rcases origin with ⟨q, rfl⟩ | inside
      · exact careful_request q
      · exact held.jobs t inside
    have rest : Acknowledged id user st db ∧ Keeps (Careful id user st) (Seen id user st) t' := by
      rcases advance_cases t o w.shared with ⟨u, rfl, here⟩ |
        ⟨c, next, answer, rfl, performed, here⟩
      · obtain ⟨rfl, rfl⟩ := by simpa using here.symm.trans advanced
        exact ⟨held.row, careful⟩
      · obtain ⟨rfl, rfl⟩ := by simpa using here.symm.trans advanced
        cases c with
        | selectInstance i =>
            obtain rfl := Option.some.inj performed
            exact ⟨held.row, careful.2 _ (seen_of_acknowledged held.row i)⟩
        | upsertInstance inst =>
            obtain rfl := Option.some.inj performed
            rw [stateOf, shared] at stays
            exact ⟨acknowledged_upsert held.row careful.1 stays, careful.2 _ trivial⟩
        | recordHistory inst oldState newState =>
            obtain rfl := Option.some.inj performed
            exact ⟨held.row, careful.2 _ trivial⟩
        | acknowledgeAlarm i u =>
            obtain rfl := Option.some.inj performed
            refine ⟨acknowledged_acknowledge held.row ?_, careful.2 _ trivial⟩
            rintro rfl
            obtain ⟨row, found, _, by', acked⟩ := held.row
            have last := (orderly u (acknowledger_eq_some_iff.mpr issues)).2
            rw [existing_of_lookup found] at last
            exact (last.resolve_left acked).symm.trans by'
    constructor
    · rw [shared]
      exact rest.1
    · intro job member
      rcases pool job member with old | rfl
      · exact held.jobs job old
      · exact rest.2

theorem held_of_acknowledges {w : World V} {e : Move V} (begun : ∀ job ∈ w.pool, Begun id job)
    (orderly : Orderly id w e) (acknowledges : Acknowledges id user w e) :
    Held id user (stateOf id (go w e)) (go w e) := by
  obtain ⟨asks, present⟩ := acknowledges
  obtain ⟨free, _⟩ := orderly user asks
  have issues := acknowledger_eq_some_iff.mp asks
  have never : ∀ job ∈ w.pool, Never (Touches id) job := by
    intro job inside
    refine (begun job inside).resolve_right ?_
    intro saving
    exact absurd (saves_of_saving saving) (by simp [free job inside])
  rcases go_cases w e with ⟨silent, same⟩ | ⟨t, o, t', db, origin, issues', advanced, shared, pool⟩
  · exact absurd (silent.symm.trans issues) nofun
  · have first : nextCmd t = some (.acknowledgeAlarm id user) := issues'.symm.trans issues
    rcases advance_cases t o w.shared with ⟨u, rfl, _⟩ | ⟨c, next, answer, rfl, performed, here⟩
    · cases first
    · obtain rfl := Option.some.inj first
      obtain ⟨rfl, rfl⟩ := by simpa using here.symm.trans advanced
      obtain rfl := Option.some.inj performed
      constructor
      · obtain ⟨row, found⟩ := Option.isSome_iff_exists.mp present
        rw [stateOf, shared]
        have stored : (w.shared.acknowledgeAlarm o id user).instances.lookup id = _ :=
          lookup_acknowledge found
        exact ⟨_, stored, by rw [existing_of_lookup stored]; rfl, rfl, (Int.ne_of_lt o.2).symm⟩
      · intro job member
        rcases pool job member with old | rfl
        · exact careful_of_never (never job old)
        · rcases origin with ⟨q, begins⟩ | inside
          · rcases request_cases q with same | ⟨i, next', same, _⟩ | ⟨i, u, same⟩
            · cases begins.trans same
            · cases begins.trans same
            · cases begins.trans same
              exact keeps_done ()
          · exact absurd rfl (never _ inside).1

theorem held_run {w : World V} {es : List (Move V)} (held : Held id user st w)
    (orderly : Along go (Orderly id) w es) (stays : ∀ t ∈ states go w es, stateOf id t = st) :
    ∀ t ∈ states go w es, Held id user st t := by
  have both : Along go (fun t e => Orderly id t e ∧ stateOf id (go t e) = st) w es := by
    apply along_and.mpr ⟨orderly, ?_⟩
    exact along_mono (fun _ _ both => both.2) (along_of_states stays)
  apply invariant_along _ held both
  intro t e held step
  exact held_go held step.1 step.2

/-- In a run in which nobody acknowledges between the two statements of an evaluation, or
after somebody else, no acknowledgement is lost. -/
theorem acknowledged_of_orderly (id : String) (db : DB V) (es : List (Move V))
    (orderly : Along go (Orderly id) (idle db) es) : AcknowledgementsKept id (idle db) es := by
  rintro before e after user rfl acknowledges stays t member
  obtain ⟨first, here, later⟩ := (along_append ..).mp orderly
  have begun : ∀ job ∈ (before.foldl go (idle db)).pool, Begun id job := by
    have all : ∀ t ∈ states go (idle db) before, ∀ job ∈ t.pool, Begun id job :=
      invariant_states (fun _ e begun => begun_go begun e) (List.forall_mem_nil _)
    exact all _ (last_mem_states _ before)
  have held := held_of_acknowledges begun here acknowledges
  obtain ⟨row, found, _, by', _⟩ := (held_run held later stays t member).row
  rw [existing_of_lookup found]
  exact by'

end Held

section Fixtures

/-- The instance that three violations have left with a warning. -/
def warned : DB Int :=
  [sampleAt 0 91, sampleAt 1 93, sampleAt 2 91].foldl (sampled nodeCPUHigh pve1) DB.empty

def clock (n : Nat) : Instant := (sampleAt n 0).now

/-- The user acknowledges between the two statements of the fourth evaluation. -/
def race : List (Move Int) :=
  [.begins (.evaluate (clock 3) nodeCPUHigh pve1 91) (clock 3),
    .begins (.acknowledge (instID nodeCPUHigh pve1) "alice") (clock 3), .goes 0 (clock 3)]

/-- The user acknowledges before the fourth evaluation. -/
def turns : List (Move Int) :=
  [.begins (.acknowledge (instID nodeCPUHigh pve1) "alice") (clock 3),
    .begins (.evaluate (clock 3) nodeCPUHigh pve1 91) (clock 3), .goes 1 (clock 3)]

end Fixtures

/-- The evaluation writes the missing acknowledgement back that it had read. -/
theorem acknowledgement_overwritten :
    ¬AcknowledgementsKept (instID nodeCPUHigh pve1) (idle warned) race := by
  intro kept
  have last := kept [.begins (.evaluate (clock 3) nodeCPUHigh pve1 91) (clock 3)]
    (.begins (.acknowledge (instID nodeCPUHigh pve1) "alice") (clock 3)) [.goes 0 (clock 3)]
    "alice" rfl ⟨by decide +kernel, by decide +kernel⟩ (by decide +kernel)
    _ (last_mem_states _ _)
  exact absurd last (by decide +kernel)

theorem acknowledged_in_turns :
    AcknowledgementsKept (instID nodeCPUHigh pve1) (idle warned) turns := by
  apply acknowledged_of_orderly
  decide +kernel

end Alarms
