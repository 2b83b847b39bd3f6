import PCenter.Accounts

/-!
# Sessions that are over

`ValidateSession` reads a session, looks at the clock twice, reads the user and touches the
session. Between any two of its steps others may log out, revoke a session, change a password,
delete a user or clean up, and time passes.
-/

namespace Sessions

open Accounts Transition

section Requests

inductive ValidatePhase where
  | reading
  | expiring (session : Session)
  | idling (session : Session)
  | fetching (session : Session)
  | touching (session : Session) (user : User)
  | deleting (session : Session) (refusal : Auth.AuthError)
  | ended (result : Except Auth.AuthError (Session × User))

structure Validate where
  rawToken : String
  phase : ValidatePhase

inductive RevokePhase where
  | reading
  | deleting
  | ended (result : Except Auth.AuthError Unit)

structure Revoke where
  sessionID : String
  userID : String
  phase : RevokePhase

inductive DeletePhase where
  | reading
  | deletingSessions
  | deletingCodes
  | deleting
  | ended (result : Except Auth.AuthError Unit)

structure Delete where
  userID : String
  phase : DeletePhase

inductive CleanupPhase where
  | sessions
  | trustedIPs
  | ended

variable (svc : Auth.Service) (now : Int)

/-- `ValidateSession` -/
def Validate.next (db : DB) (v : Validate) : ValidatePhase × DB :=
  match v.phase with
  | .reading =>
      match svc.hashSessionToken v.rawToken with
      | none => (.ended (.error .sessionNotFound), db)
      | some tokenHash =>
          match db.getSessionByTokenHash tokenHash with
          | none => (.ended (.error .sessionNotFound), db)
          | some session => (.expiring session, db)
  | .expiring session =>
      (if session.isExpired now then .deleting session .sessionExpired else .idling session, db)
  | .idling session =>
      (if session.isIdle svc.idleTimeoutHours now then .deleting session .sessionExpired
        else .fetching session, db)
  | .fetching session =>
      match db.getUserByID session.userID with
      | none => (.deleting session .userNotFound, db)
      | some user => (.touching session user, db)
  | .touching session user => (.ended (.ok (session, user)), db.touchSession session.id now)
  | .deleting session refusal => (.ended (.error refusal), db.deleteSession session.id)
  | .ended result => (.ended result, db)

/-- `RevokeSession` -/
def Revoke.next (db : DB) (r : Revoke) : RevokePhase × DB :=
  match r.phase with
  | .reading =>
      match db.getSessionByID r.sessionID with
      | none => (.ended (.error .sessionNotFound), db)
      | some session =>
          (if session.userID ≠ r.userID then .ended (.error .sessionNotFound) else .deleting, db)
  | .deleting => (.ended (.ok ()), db.deleteSession r.sessionID)
  | .ended result => (.ended result, db)

/-- `DeleteUser` -/
def Delete.next (db : DB) (d : Delete) : DeletePhase × DB :=
  match d.phase with
  | .reading =>
      match db.getUserByID d.userID with
      | none => (.ended (.error .userNotFound), db)
      | some _ => (.deletingSessions, db)
  | .deletingSessions => (.deletingCodes, db.deleteUserSessions d.userID "")
  | .deletingCodes => (.deleting, db.deleteUserRecoveryCodes d.userID)
  | .deleting => (.ended (.ok ()), db.deleteUser d.userID)
  | .ended result => (.ended result, db)

/-- `CleanupExpiredSessions` -/
def CleanupPhase.next (db : DB) : CleanupPhase → CleanupPhase × DB
  | .sessions => (.trustedIPs, db.deleteExpiredSessions now)
  | .trustedIPs => (.ended, db.cleanupExpiredTrustedIPs now)
  | .ended => (.ended, db)

inductive Request where
  | validate (rawToken : String)
  | logout (tokenHash : String)
  | revoke (sessionID userID : String)
  | changePassword (userID currentPassword newPassword : String)
  | deleteUser (userID : String)
  | cleanup
  /-- Not a request: time passes. -/
  | passes (elapsed : ℕ)

inductive Job where
  | validate (v : Validate)
  | logout (tokenHash : String)
  | revoke (r : Revoke)
  | edit (e : Edit)
  | delete (d : Delete)
  | cleanup (phase : CleanupPhase)
  | passes (elapsed : ℕ)
  /-- A logout is over, or the time has passed. -/
  | ended

def request : Request → Job
  | .validate rawToken => .validate ⟨rawToken, .reading⟩
  | .logout tokenHash => .logout tokenHash
  | .revoke sessionID userID => .revoke ⟨sessionID, userID, .reading⟩
  | .changePassword userID current new => .edit ⟨userID, .changePassword current new, .reading⟩
  | .deleteUser userID => .delete ⟨userID, .reading⟩
  | .cleanup => .cleanup .sessions
  | .passes elapsed => .passes elapsed

end Requests

section Undisturbed

variable (svc : Auth.Service) (now : Int)

/-- The session as the middleware has it. -/
def viewSession (s : Session) : Auth.Session :=
  { id := s.id, userID := s.userID, tokenHash := s.tokenHash, csrfToken := s.csrfToken
    totpVerified := s.totpVerified, expiresAt := s.expiresAt * 1000000000
    lastSeenAt := s.lastSeenAt * 1000000000 }

def viewUser (u : User) : Auth.User := ⟨u.id, u.role, u.totpEnabled⟩

def view (db : DB) : Auth.DB := ⟨db.sessions.map viewSession, db.users.map viewUser⟩

/-- Some steps of a call, one after the other and at one time. -/
def Validate.steps : ℕ → Validate → DB → ValidatePhase × DB
  | 0, v, db => (v.phase, db)
  | n + 1, v, db =>
      let done := v.next svc now db
      Validate.steps n { v with phase := done.1 } done.2

variable {svc} {now} {db : DB}

theorem getSessionByTokenHash_view (tokenHash : String) :
    (view db).getSessionByTokenHash tokenHash =
      (db.getSessionByTokenHash tokenHash).map viewSession := by
  rw [Auth.DB.getSessionByTokenHash, view, List.find?_map]
  rfl

theorem getUserByID_view (id : String) :
    (view db).getUserByID id = (db.getUserByID id).map viewUser := by
  rw [Auth.DB.getUserByID, view, List.find?_map]
  rfl

theorem deleteSession_view (id : String) :
    (view db).deleteSession id = view (db.deleteSession id) := by
  simp only [Auth.DB.deleteSession, view, DB.deleteSession, List.filter_map]
  rfl

theorem touchSession_view (id : String) :
    (view db).touchSession id now = view (db.touchSession id now) := by
  simp only [Auth.DB.touchSession, view, DB.touchSession, List.map_map]
  congr 1
  apply List.map_congr_left
  intro s _
  by_cases here : s.id = id
  · simp [viewSession, here, unix]
  · simp [viewSession, here]

/-- Without anybody between its steps a call is the session check of the middleware. -/
theorem validate_undisturbed (rawToken : String) :
    ∃ result db', Validate.steps svc now 5 ⟨rawToken, .reading⟩ db = (.ended result, db') ∧
      svc.validateSession now rawToken (view db) =
        (result.map fun found => (viewSession found.1, viewUser found.2), view db') := by
  cases hashed : svc.hashSessionToken rawToken with
  | none =>
      refine ⟨.error .sessionNotFound, db, ?_, ?_⟩
      · simp [Validate.steps, Validate.next, hashed]
      · simp [Auth.Service.validateSession, hashed, Except.map]
  | some tokenHash =>
      cases found : db.getSessionByTokenHash tokenHash with
      | none =>
          refine ⟨.error .sessionNotFound, db, ?_, ?_⟩
          · simp [Validate.steps, Validate.next, hashed, found]
          · simp [Auth.Service.validateSession, hashed, getSessionByTokenHash_view, found,
              Except.map]
      | some session =>
          have expires : (viewSession session).isExpired now = session.isExpired now := rfl
          have idles : (viewSession session).isIdle svc.idleTimeoutHours now =
            session.isIdle svc.idleTimeoutHours now := rfl
          have key : (viewSession session).id = session.id := rfl
          have owner : (viewSession session).userID = session.userID := rfl
          have read := (getSessionByTokenHash_view tokenHash).trans (congrArg _ found)
          cases expired : session.isExpired now with
          | true =>
              refine ⟨.error .sessionExpired, db.deleteSession session.id, ?_, ?_⟩
              · simp [Validate.steps, Validate.next, hashed, found, expired]
              · simp [Auth.Service.validateSession, hashed, read, expires, expired, key,
                  deleteSession_view, Except.map]
          | false =>
              cases idle : session.isIdle svc.idleTimeoutHours now with
              | true =>
                  refine ⟨.error .sessionExpired, db.deleteSession session.id, ?_, ?_⟩
                  · simp [Validate.steps, Validate.next, hashed, found, expired, idle]
                  · simp [Auth.Service.validateSession, hashed, read, expires, expired, idles,
                      idle, key, deleteSession_view, Except.map]
              | false =>
                  cases user : db.getUserByID session.userID with
                  | none =>
                      refine ⟨.error .userNotFound, db.deleteSession session.id, ?_, ?_⟩
                      · simp [Validate.steps, Validate.next, hashed, found, expired, idle, user]
                      · simp [Auth.Service.validateSession, hashed, read, expires, expired, idles,
                          idle, owner, getUserByID_view, user, key, deleteSession_view, Except.map]
                  | some user' =>
                      refine ⟨.ok (session, user'), db.touchSession session.id now, ?_, ?_⟩
                      · simp [Validate.steps, Validate.next, hashed, found, expired, idle, user]
                      · simp [Auth.Service.validateSession, hashed, read, expires, expired, idles,
                          idle, owner, getUserByID_view, user, key, touchSession_view, Except.map]

end Undisturbed

section Runs

structure Shared where
  db : DB
  clock : Int

variable (p : Primitives) (svc : Auth.Service)

def Job.next (o : Outside) (s : Shared) : Job → Job × Shared
  | .validate v =>
      let done := v.next svc s.clock s.db
      (.validate { v with phase := done.1 }, { s with db := done.2 })
  | .logout tokenHash => (.ended, { s with db := s.db.deleteSessionByTokenHash tokenHash })
  | .revoke r =>
      let done := r.next s.db
      (.revoke { r with phase := done.1 }, { s with db := done.2 })
  | .edit e =>
      let done := e.next p { o with now := s.clock } s.db
      (.edit { e with phase := done.1 }, { s with db := done.2 })
  | .delete d =>
      let done := d.next s.db
      (.delete { d with phase := done.1 }, { s with db := done.2 })
  | .cleanup phase =>
      let done := phase.next s.clock s.db
      (.cleanup done.1, { s with db := done.2 })
  | .passes elapsed => (.ended, { s with clock := s.clock + elapsed })
  | .ended => (.ended, s)

def advance (job : Job) (o : Outside) (s : Shared) : Option (Job × Shared × List Job) :=
  some ((job.next p svc o s).1, (job.next p svc o s).2, [])

abbrev World := Thread.World Job Shared

abbrev Move := Thread.Event Request Outside

abbrev go : World → Move → World := Thread.step (advance p svc) request

def idle (db : DB) (clock : Int) : World := ⟨⟨db, clock⟩, [], false⟩

/-- The session that a call has read and not finished with. -/
def ValidatePhase.held : ValidatePhase → Option Session
  | .expiring s | .idling s | .fetching s | .touching s _ | .deleting s _ => some s
  | .reading | .ended _ => none

def ValidatePhase.over : ValidatePhase → Bool
  | .ended _ => true
  | _ => false

def ValidatePhase.accepts : ValidatePhase → Bool
  | .ended (.ok _) => true
  | _ => false

/-- None of the first calls for the token is in progress. -/
def Quiet (tokenHash : String) (n : ℕ) (w : World) : Prop :=
  ∀ i < n, ∀ v, w.pool[i]? = some (.validate v) →
    svc.hashSessionToken v.rawToken = some tokenHash → v.phase.over = true

/-- The user is deleted. -/
def Gone (db : DB) (s : Session) : Prop := ∀ u ∈ db.users, u.id ≠ s.userID

/-- The session has expired, or its user is deleted, or it has been idle for too long and no call
that began before is still in progress. -/
def Over (tokenHash : String) (n : ℕ) (w : World) (s : Session) : Prop :=
  s.isExpired w.shared.clock = true ∨ Gone w.shared.db s ∨
    s.isIdle svc.idleTimeoutHours w.shared.clock = true ∧ Quiet svc tokenHash n w

/-- The session of the token is over, if there still is one. -/
def Revoked (tokenHash : String) (n : ℕ) (w : World) : Prop :=
  ∀ s ∈ w.shared.db.sessions, s.tokenHash = tokenHash → Over svc tokenHash n w s

end Runs

section Statements

variable {p : Primitives} {svc : Auth.Service}

/-- What a statement can do to the sessions and to the users. -/
structure Shrinks (now : Int) (job : Job) (db db' : DB) : Prop where
  sessions : (∀ s ∈ db'.sessions, s ∈ db.sessions) ∨
    ∃ rawToken session user, job = .validate ⟨rawToken, .touching session user⟩ ∧
      db' = db.touchSession session.id now
  users : ∀ u ∈ db'.users, ∃ v ∈ db.users, v.id = u.id

theorem Shrinks.refl {now : Int} {job : Job} {db : DB} : Shrinks now job db db :=
  ⟨.inl fun _ member => member, fun u member => ⟨u, member, rfl⟩⟩

theorem shrinks_filter {now : Int} {job : Job} {db : DB} {keep : Session → Bool} :
    Shrinks now job db { db with sessions := db.sessions.filter keep } :=
  ⟨.inl fun _ member => List.mem_of_mem_filter member, fun u member => ⟨u, member, rfl⟩⟩

theorem shrinks_validate (v : Validate) (now : Int) (db : DB) :
    Shrinks now (.validate v) db (v.next svc now db).2 := by
  obtain ⟨rawToken, phase⟩ := v
  cases phase with
  | reading =>
      simp only [Validate.next]
      split
      · exact .refl
      · split <;> exact .refl
  | fetching session =>
      simp only [Validate.next]
      split <;> exact .refl
  | touching session user =>
      exact ⟨.inr ⟨rawToken, session, user, rfl, rfl⟩, fun u member => ⟨u, member, rfl⟩⟩
  | deleting session refusal => exact shrinks_filter
  | expiring | idling | ended => exact .refl

theorem shrinks_edit (e : Edit) (o : Outside) (now : Int) (job : Job) (db : DB) :
    Shrinks now job db (e.next p o db).2 := by
  obtain ⟨userID, action, phase⟩ := e
  cases phase with
  | reading =>
      simp only [Edit.next]
      split <;> exact .refl
  | deciding user =>
      simp only [Edit.next]
      split <;> exact .refl
  | updating user change =>
      refine ⟨.inl fun _ member => member, fun u member => ?_⟩
      simp only [Edit.next, DB.updateUser, DB.setUser] at member
      obtain ⟨v, stored, rfl⟩ := List.mem_map.mp member
      refine ⟨v, stored, ?_⟩
      split_ifs with same
      · exact same
      · rfl
  | clearing user codes => exact ⟨.inl fun _ member => member, fun u member => ⟨u, member, rfl⟩⟩
  | inserting user codes =>
      cases codes with
      | nil => exact .refl
      | cons => exact ⟨.inl fun _ member => member, fun u member => ⟨u, member, rfl⟩⟩
  | ended => exact .refl

theorem shrinks_delete (d : Delete) (now : Int) (job : Job) (db : DB) :
    Shrinks now job db (d.next db).2 := by
  obtain ⟨userID, phase⟩ := d
  cases phase with
  | reading =>
      simp only [Delete.next]
      split <;> exact .refl
  | deletingSessions => exact shrinks_filter
  | deletingCodes => exact ⟨.inl fun _ member => member, fun u member => ⟨u, member, rfl⟩⟩
  | deleting =>
      refine ⟨.inl fun _ member => member, fun u member => ?_⟩
      exact ⟨u, List.mem_of_mem_filter member, rfl⟩
  | ended => exact .refl

/-- No statement makes a session or a user. -/
theorem shrinks_next (job : Job) (o : Outside) (s : Shared) :
    Shrinks s.clock job s.db (job.next p svc o s).2.db := by
  cases job with
  | validate v => exact shrinks_validate v s.clock s.db
  | logout tokenHash => exact shrinks_filter
  | revoke r =>
      obtain ⟨sessionID, userID, phase⟩ := r
      cases phase with
      | reading =>
          simp only [Job.next, Revoke.next]
          split <;> exact .refl
      | deleting => exact shrinks_filter
      | ended => exact .refl
  | edit e => exact shrinks_edit e _ _ _ s.db
  | delete d => exact shrinks_delete d _ _ s.db
  | cleanup phase =>
      cases phase with
      | sessions => exact shrinks_filter
      | trustedIPs => exact ⟨.inl fun _ member => member, fun u member => ⟨u, member, rfl⟩⟩
      | ended => exact .refl
  | passes | ended => exact .refl

theorem clock_next (job : Job) (o : Outside) (s : Shared) :
    s.clock ≤ (job.next p svc o s).2.clock := by
  cases job with
  | passes elapsed =>
      simp only [Job.next]
      omega
  | validate | logout | revoke | edit | delete | cleanup | ended => exact le_rfl

/-- A session's row is as it was, or a call that read it has touched it. -/
theorem Shrinks.origin {now : Int} {job : Job} {db db' : DB} (shrinks : Shrinks now job db db')
    {s : Session} (member : s ∈ db'.sessions) :
    ∃ row ∈ db.sessions, (s.id = row.id ∧ s.tokenHash = row.tokenHash ∧ s.userID = row.userID ∧
        s.expiresAt = row.expiresAt) ∧
      (s = row ∨ ∃ rawToken session user,
        job = .validate ⟨rawToken, .touching session user⟩ ∧ session.id = row.id) := by
  rcases shrinks.sessions with kept | ⟨rawToken, session, user, rfl, rfl⟩
  · exact ⟨s, kept s member, ⟨rfl, rfl, rfl, rfl⟩, .inl rfl⟩
  · obtain ⟨row, stored, rfl⟩ := List.mem_map.mp member
    refine ⟨row, stored, ?_⟩
    split_ifs with same
    · exact ⟨⟨rfl, rfl, rfl, rfl⟩, .inr ⟨rawToken, session, user, rfl, same.symm⟩⟩
    · exact ⟨⟨rfl, rfl, rfl, rfl⟩, .inl rfl⟩

theorem gone_of_shrinks {now : Int} {job : Job} {db db' : DB} {s : Session}
    (shrinks : Shrinks now job db db') (gone : Gone db s) : Gone db' s := by
  intro u member
  obtain ⟨v, stored, same⟩ := shrinks.users u member
  rw [← same]
  exact gone v stored

theorem isExpired_mono {s : Session} {now later : Int} (le : now ≤ later)
    (expired : s.isExpired now = true) : s.isExpired later = true := by
  have before : s.expiresAt * 1000000000 < now := of_decide_eq_true expired
  exact decide_eq_true (by omega)

theorem isIdle_mono {s : Session} {hours now later : Int} (le : now ≤ later)
    (idle : s.isIdle hours now = true) : s.isIdle hours later = true := by
  have before : s.lastSeenAt * 1000000000 + Auth.duration (hours * hour) < now :=
    of_decide_eq_true idle
  exact decide_eq_true (by omega)

theorem validate_of_next {job : Job} {o : Outside} {s : Shared} {v : Validate}
    (next : (job.next p svc o s).1 = .validate v) :
    ∃ phase, job = .validate ⟨v.rawToken, phase⟩ ∧
      v.phase = (Validate.next svc s.clock s.db ⟨v.rawToken, phase⟩).1 := by
  cases job with
  | validate u =>
      simp only [Job.next, Job.validate.injEq] at next
      subst next
      exact ⟨u.phase, rfl, rfl⟩
  | logout | revoke | edit | delete | cleanup | passes | ended => cases next

theorem go_cases (w : World) (e : Move) :
    go p svc w e = w ∨ ∃ job o before after, Thread.Turn request w e job o before after ∧
      go p svc w e = ⟨(job.next p svc o w.shared).2,
        before ++ (job.next p svc o w.shared).1 :: after, false⟩ := by
  rcases Thread.step_cases_of_total (advance p svc) request (fun _ _ _ => (_, _))
    (fun _ _ _ => rfl) w e with ⟨-, same⟩ | ⟨job, o, before, after, -, -, turn, moved⟩
  · exact .inl same
  · exact .inr ⟨job, o, before, after, turn, moved⟩

end Statements

section Invariants

variable {p : Primitives} {svc : Auth.Service}

/-- The rows have keys, and a call holds a session of its token. -/
structure Linked (svc : Auth.Service) (w : World) : Prop where
  keyed : ∀ s ∈ w.shared.db.sessions, ∀ t ∈ w.shared.db.sessions, s.id = t.id → s = t
  held : ∀ v, .validate v ∈ w.pool → ∀ s ∈ v.phase.held,
    svc.hashSessionToken v.rawToken = some s.tokenHash ∧
      ∀ row ∈ w.shared.db.sessions, row.id = s.id → row.tokenHash = s.tokenHash

theorem held_next {now : Int} {db : DB} {v : Validate} {s : Session}
    (held : s ∈ (v.next svc now db).1.held) :
    s ∈ v.phase.held ∨ v.phase = .reading ∧
      svc.hashSessionToken v.rawToken = some s.tokenHash ∧ s ∈ db.sessions := by
  obtain ⟨rawToken, phase⟩ := v
  cases phase with
  | reading =>
      refine .inr ⟨rfl, ?_⟩
      cases hashed : svc.hashSessionToken rawToken with
      | none => simp [Validate.next, hashed, ValidatePhase.held] at held
      | some tokenHash =>
          cases found : db.getSessionByTokenHash tokenHash with
          | none => simp [Validate.next, hashed, found, ValidatePhase.held] at held
          | some session =>
              simp only [Validate.next, hashed, found, ValidatePhase.held] at held
              obtain rfl := Option.some.inj held
              have token : session.tokenHash = tokenHash := by
                simpa using List.find?_some found
              rw [token]
              exact ⟨rfl, List.mem_of_find?_eq_some found⟩
  | expiring session =>
      simp only [Validate.next] at held
      split_ifs at held <;> exact .inl held
  | idling session =>
      simp only [Validate.next] at held
      split_ifs at held <;> exact .inl held
  | fetching session =>
      simp only [Validate.next] at held
      split at held <;> exact .inl held
  | touching | deleting | ended => cases held

theorem keyed_of_shrinks {now : Int} {job : Job} {db db' : DB} (shrinks : Shrinks now job db db')
    (keyed : ∀ s ∈ db.sessions, ∀ t ∈ db.sessions, s.id = t.id → s = t) :
    ∀ s ∈ db'.sessions, ∀ t ∈ db'.sessions, s.id = t.id → s = t := by
  intro s member t member' same
  rcases shrinks.sessions with kept | ⟨rawToken, session, user, rfl, rfl⟩
  · exact keyed s (kept s member) t (kept t member') same
  · obtain ⟨row, stored, rfl⟩ := List.mem_map.mp member
    obtain ⟨row', stored', rfl⟩ := List.mem_map.mp member'
    have ids : row.id = row'.id := by
      split_ifs at same <;> exact same
    rw [keyed row stored row' stored' ids]

theorem reading_of_request {q : Request} {rawToken : String} {phase : ValidatePhase}
    (requested : request q = .validate ⟨rawToken, phase⟩) : phase = .reading := by
  cases q with
  | validate raw =>
      simp only [request, Job.validate.injEq, Validate.mk.injEq] at requested
      exact requested.2.symm
  | logout | revoke | changePassword | deleteUser | cleanup | passes => cases requested

theorem ne_request_of_held {rawToken : String} {phase : ValidatePhase} {s : Session}
    (held : s ∈ phase.held) (q : Request) : request q ≠ .validate ⟨rawToken, phase⟩ := by
  intro requested
  rw [reading_of_request requested] at held
  cases held

theorem linked_go {w : World} {e : Move} (linked : Linked svc w) : Linked svc (go p svc w e) := by
  rcases @go_cases p svc w e with same | ⟨job, o, before, after, turn, moved⟩
  · rw [same]
    exact linked
  · rw [moved]
    have shrinks := @shrinks_next p svc job o w.shared
    refine ⟨keyed_of_shrinks shrinks linked.keyed, fun v member s held => ?_⟩
    rw [← List.append_nil (before ++ _)] at member
    have called : ∀ u, .validate u ∈ w.pool → s ∈ u.phase.held →
        svc.hashSessionToken u.rawToken = some s.tokenHash ∧
          ∀ row ∈ (job.next p svc o w.shared).2.db.sessions, row.id = s.id →
            row.tokenHash = s.tokenHash := by
      intro u member held
      obtain ⟨hashed, rows⟩ := linked.held u member s held
      refine ⟨hashed, fun row stored same => ?_⟩
      obtain ⟨old, stored, ⟨id, token, -⟩, -⟩ := shrinks.origin stored
      rw [token]
      exact rows old stored (id.symm.trans same)
    rcases turn.mem_cases member with member | next | member
    · exact called v member held
    · obtain ⟨phase, rfl, reached⟩ := validate_of_next next.symm
      rw [reached] at held
      rcases held_next held with held | ⟨-, hashed, stored⟩
      · have there := turn.mem_of_later (ne_request_of_held held)
        exact called ⟨v.rawToken, phase⟩ there held
      · refine ⟨hashed, fun row member same => ?_⟩
        obtain ⟨old, stored', ⟨id, token, -⟩, -⟩ := shrinks.origin member
        rw [token, linked.keyed old stored' s stored (id.symm.trans same)]
    · cases member

/-- What a call for the token still has to find out, so that it is refused. -/
def Refusing (svc : Auth.Service) (s : Shared) : ValidatePhase → Prop
  | .expiring session =>
      session.isExpired s.clock = true ∨ Gone s.db session ∨
        session.isIdle svc.idleTimeoutHours s.clock = true
  | .idling session =>
      Gone s.db session ∨ session.isIdle svc.idleTimeoutHours s.clock = true
  | .fetching session => Gone s.db session
  | .touching _ _ | .ended (.ok _) => False
  | .reading | .deleting _ _ | .ended (.error _) => True

/-- The session of the token is over, and the calls that began since are refused. -/
structure Closed (svc : Auth.Service) (tokenHash : String) (n : ℕ) (w : World) : Prop where
  begun : n ≤ w.pool.length
  revoked : Revoked svc tokenHash n w
  late : ∀ i v, n ≤ i → w.pool[i]? = some (.validate v) →
    svc.hashSessionToken v.rawToken = some tokenHash → Refusing svc w.shared v.phase

theorem refusing_mono {s s' : Shared} {job : Job} (shrinks : Shrinks s.clock job s.db s'.db)
    (le : s.clock ≤ s'.clock) {phase : ValidatePhase} (refusing : Refusing svc s phase) :
    Refusing svc s' phase := by
  cases phase with
  | expiring session =>
      rcases refusing with expired | gone | idle
      · exact .inl (isExpired_mono le expired)
      · exact .inr (.inl (gone_of_shrinks shrinks gone))
      · exact .inr (.inr (isIdle_mono le idle))
  | idling session =>
      rcases refusing with gone | idle
      · exact .inl (gone_of_shrinks shrinks gone)
      · exact .inr (isIdle_mono le idle)
  | fetching session => exact gone_of_shrinks shrinks refusing
  | touching => exact refusing.elim
  | ended result =>
      cases result with
      | ok => exact refusing.elim
      | error => trivial
  | reading | deleting => trivial

theorem refusing_next {tokenHash : String} {n : ℕ} {w : World} {v : Validate}
    (revoked : Revoked svc tokenHash n w)
    (own : svc.hashSessionToken v.rawToken = some tokenHash)
    (refusing : Refusing svc w.shared v.phase) :
    Refusing svc w.shared (v.next svc w.shared.clock w.shared.db).1 := by
  obtain ⟨rawToken, phase⟩ := v
  cases phase with
  | reading =>
      simp only [Validate.next, own]
      cases found : w.shared.db.getSessionByTokenHash tokenHash with
      | none => trivial
      | some session =>
          have token : session.tokenHash = tokenHash := by
            simpa using List.find?_some found
          rcases revoked session (List.mem_of_find?_eq_some found) token with
            expired | gone | ⟨idle, -⟩
          · exact .inl expired
          · exact .inr (.inl gone)
          · exact .inr (.inr idle)
  | expiring session =>
      cases expired : session.isExpired w.shared.clock with
      | true => simp [Validate.next, expired, Refusing]
      | false =>
          simp only [Validate.next, expired]
          rcases refusing with old | later
          · rw [expired] at old
            cases old
          · exact later
  | idling session =>
      cases idle : session.isIdle svc.idleTimeoutHours w.shared.clock with
      | true => simp [Validate.next, idle, Refusing]
      | false =>
          simp only [Validate.next, idle]
          rcases refusing with gone | old
          · exact gone
          · rw [idle] at old
            cases old
  | fetching session =>
      have none_ : w.shared.db.getUserByID session.userID = none := by
        rw [DB.getUserByID, List.find?_eq_none]
        intro u member
        simpa using refusing u member
      simp only [Validate.next, none_]
      trivial
  | touching => exact refusing.elim
  | deleting => trivial
  | ended => exact refusing

theorem quiet_next {tokenHash : String} {n : ℕ} {w : World} {e : Move} {job : Job} {o : Outside}
    {before after : List Job} (turn : Thread.Turn request w e job o before after)
    (begun : n ≤ w.pool.length) (quiet : Quiet svc tokenHash n w) :
    Quiet svc tokenHash n ⟨(job.next p svc o w.shared).2,
      before ++ (job.next p svc o w.shared).1 :: after, false⟩ := by
  intro i early v found own
  rcases turn.getElem?_cases found with ⟨here, next⟩ | found
  · obtain ⟨phase, rfl, reached⟩ := validate_of_next next.symm
    rcases turn.getElem?_actor with there | ⟨last, -⟩
    · rw [← here] at there
      have quieted := quiet i early _ there own
      cases phase with
      | ended result =>
          rw [reached]
          rfl
      | reading | expiring | idling | fetching | touching | deleting => cases quieted
    · omega
  · exact quiet i early v found own

theorem revoked_next {tokenHash : String} {n : ℕ} {w : World} {e : Move} {job : Job} {o : Outside}
    {before after : List Job} (turn : Thread.Turn request w e job o before after)
    (linked : Linked svc w) (closed : Closed svc tokenHash n w) :
    Revoked svc tokenHash n ⟨(job.next p svc o w.shared).2,
      before ++ (job.next p svc o w.shared).1 :: after, false⟩ := by
  intro s member token
  have shrinks := @shrinks_next p svc job o w.shared
  have le := @clock_next p svc job o w.shared
  obtain ⟨row, stored, ⟨-, sameToken, sameUser, sameExpiry⟩, origin⟩ := shrinks.origin member
  rw [sameToken] at token
  rcases closed.revoked row stored token with expired | gone | ⟨idle, quiet⟩
  · refine .inl ?_
    rw [Session.isExpired, sameExpiry]
    exact isExpired_mono le expired
  · refine .inr (.inl ?_)
    intro u member
    rw [sameUser]
    exact gone_of_shrinks shrinks gone u member
  · rcases origin with rfl | ⟨rawToken, session, user, rfl, same⟩
    · exact .inr (.inr ⟨isIdle_mono le idle, quiet_next turn closed.begun quiet⟩)
    · -- whoever touches the row read it before, and is neither an early call nor a late one
      exfalso
      have held : session ∈ (ValidatePhase.touching session user).held := rfl
      obtain ⟨hashed, rows⟩ :=
        linked.held _ (turn.mem_of_later (ne_request_of_held held)) session held
      have own : svc.hashSessionToken rawToken = some tokenHash := by
        rw [hashed, ← rows row stored same.symm, token]
      rcases turn.getElem?_actor with there | ⟨-, q, requested⟩
      · by_cases early : before.length < n
        · cases quiet _ early _ there own
        · exact closed.late _ _ (by omega) there own
      · exact ne_request_of_held held q requested

theorem closed_go {tokenHash : String} {n : ℕ} {w : World} {e : Move} (linked : Linked svc w)
    (closed : Closed svc tokenHash n w) : Closed svc tokenHash n (go p svc w e) := by
  rcases @go_cases p svc w e with same | ⟨job, o, before, after, turn, moved⟩
  · rw [same]
    exact closed
  · rw [moved]
    have shrinks := @shrinks_next p svc job o w.shared
    have le := @clock_next p svc job o w.shared
    refine ⟨?_, revoked_next turn linked closed, ?_⟩
    · have begun := closed.begun
      cases turn with
      | begins => simp; omega
      | goes _ _ _ _ _ _ split =>
          rw [split] at begun
          simpa using begun
    · intro i v recent found own
      rcases turn.getElem?_cases found with ⟨here, next⟩ | found
      · obtain ⟨phase, rfl, reached⟩ := validate_of_next next.symm
        have refusing : Refusing svc w.shared phase := by
          rcases turn.getElem?_actor with there | ⟨-, q, requested⟩
          · rw [← here] at there
            exact closed.late i ⟨v.rawToken, phase⟩ recent there own
          · rw [reading_of_request requested]
            trivial
        rw [reached]
        exact refusing_mono shrinks le (refusing_next closed.revoked own refusing)
      · exact refusing_mono shrinks le (closed.late i v recent found own)

end Invariants

section Main

variable {p : Primitives} {svc : Auth.Service}

theorem linked_start {db : DB} {clock : Int} (keyed : (db.sessions.map (·.id)).Nodup) :
    Linked svc (idle db clock) := by
  constructor
  · exact List.inj_on_of_nodup_map keyed
  · intro v member
    cases member

/-- Whatever is under way: once the session of a token is deleted, or its user is, or it has
expired, or it has been idle for too long while no call for it was in progress, no call that begins
later accepts the token. -/
theorem revocation_permanent {db : DB} {clock : Int} (keyed : (db.sessions.map (·.id)).Nodup)
    {tokenHash : String} {before after : List Move} {w : World}
    (reached : before.foldl (go p svc) (idle db clock) = w)
    (revoked : Revoked svc tokenHash w.pool.length w) :
    ∀ i v, w.pool.length ≤ i → (after.foldl (go p svc) w).pool[i]? = some (.validate v) →
      svc.hashSessionToken v.rawToken = some tokenHash → v.phase.accepts = false := by
  have linked : Linked svc w := by
    rw [← reached]
    exact invariant_states (fun _ _ linked => linked_go linked) (linked_start keyed) _
      (last_mem_states _ before)
  have closed : Closed svc tokenHash w.pool.length w := by
    refine ⟨le_rfl, revoked, fun i v late found => ?_⟩
    rw [List.getElem?_eq_none late] at found
    cases found
  have both : Linked svc (after.foldl (go p svc) w) ∧
      Closed svc tokenHash w.pool.length (after.foldl (go p svc) w) := by
    refine invariant_states
      (P := fun w' : World => Linked svc w' ∧ Closed svc tokenHash w.pool.length w')
      ?_ ⟨linked, closed⟩ _ (last_mem_states _ after)
    rintro w' e ⟨linked, closed⟩
    exact ⟨linked_go linked, closed_go linked closed⟩
  intro i v late found own
  have refusing := both.2.late i v late found own
  cases phase : v.phase with
  | ended result =>
      cases result with
      | error => rfl
      | ok =>
          rw [phase] at refusing
          exact refusing.elim
  | reading | expiring | idling | fetching | touching | deleting => rfl

def alice : User :=
  { id := "u-1", username := "alice", email := "", passwordHash := "", role := "user"
    totpEnabled := false, totpSecret := "", failedAttempts := 0, lockedUntil := none
    lastLogin := none }

def laptop : Session :=
  { id := "s-1", userID := "u-1", tokenHash := "t-1", csrfToken := "", totpVerified := true
    ipAddress := "", createdAt := 0, expiresAt := 86400, lastSeenAt := 0 }

def signedIn : DB := ⟨[alice], [laptop], [], []⟩

/-- Tokens are their own hashes, and two hours are too long. -/
def plain : Auth.Service := ⟨some, 2⟩

/-- Half an hour passes, a call touches the session, and three hours pass. -/
def lunch : List Move :=
  (.begins (.passes 1800000000000) quiet : Move) ::
    (.begins (.validate "t-1") quiet : Move) :: List.replicate 4 (.goes 1 quiet) ++
    [.begins (.passes 10800000000000) quiet]

def afterLunch : World :=
  ⟨⟨⟨[alice], [{ laptop with lastSeenAt := 1800 }], [], []⟩, 12600000000000⟩,
    [.ended, .validate ⟨"t-1", .ended (.ok (laptop, alice))⟩, .ended], false⟩

/-- Before lunch the token is accepted, and after lunch no more. -/
theorem lunch_takes_too_long :
    lunch.foldl (go marked plain) (idle signedIn 0) = afterLunch ∧
      ¬∃ v, (((.begins (.validate "t-1") quiet : Move) :: List.replicate 4 (.goes 3 quiet)).foldl
          (go marked plain) afterLunch).pool[3]? = some (.validate v) ∧
        v.rawToken = "t-1" ∧ v.phase.accepts = true := by
  have reached : lunch.foldl (go marked plain) (idle signedIn 0) = afterLunch := by
    rfl
  refine ⟨reached, ?_⟩
  rintro ⟨v, found, own, accepts⟩
  have revoked : Revoked plain "t-1" afterLunch.pool.length afterLunch := by
    intro s member _
    obtain rfl := List.mem_singleton.mp member
    refine .inr (.inr ⟨by decide, fun i _ v found _ => ?_⟩)
    rcases i with _ | _ | _ | i
    · cases found
    · cases found
      rfl
    · cases found
    · cases found
  have refused := revocation_permanent (by decide) reached revoked 3 v (by decide) found
    (congrArg some own)
  rw [refused] at accepts
  cases accepts

end Main

end Sessions
