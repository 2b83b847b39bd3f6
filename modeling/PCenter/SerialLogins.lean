import PCenter.Lockout

/-!
# Logins one after the other

The same `Login`, where each attempt on a user ends before the next begins: the failures that are
counted in the table, the lock that is stored beside them, and what an attempt at some time is
answered. The clock of an attempt need not agree with that of any other.
-/

namespace SerialLogins

open Accounts Transition

section Attempts

/-- A password for the user, with what the outside contributes to each statement. -/
structure Attempt where
  password : String
  ip : String
  outside : Fin 7 → Outside

structure Progress where
  login : Login
  db : DB
  /-- The password was compared with the stored one. -/
  compared : Bool

variable (p : Primitives) (cfg : Config) (username : String)

def advance (s : Progress) (o : Outside) : Progress :=
  { login := { s.login with phase := (s.login.next p cfg o s.db).1 }
    db := (s.login.next p cfg o s.db).2
    compared := s.compared || Lockout.verifies s.login o.now }

/-- A whole login; there are seven statements at most. -/
def attempt (a : Attempt) (db : DB) : Progress :=
  (([0, 1, 2, 3, 4, 5, 6] : List (Fin 7)).map a.outside).foldl (advance p cfg)
    ⟨⟨⟨username, a.password⟩, a.ip, .reading⟩, db, false⟩

/-- What the outside contributes, in the order of the statements. -/
def Attempt.turns (a : Attempt) : List Outside :=
  ([0, 1, 2, 3, 4, 5, 6] : List (Fin 7)).map a.outside

/-- The login has returned a session, whether or not a second factor is still asked for. -/
def Progress.accepted (s : Progress) : Bool :=
  match s.login.phase with
  | .ended (.ok _) => true
  | _ => false

/-- The login was refused for the lock, and nothing was compared or written. -/
def Progress.Rejected (s : Progress) (db : DB) : Prop :=
  s.login.phase = .ended (.error .accountLocked) ∧ s.compared = false ∧ s.db = db

def Attempt.right (a : Attempt) (row : User) : Bool := p.verifyPassword a.password row.passwordHash

/-- The user's lock, at the time at which the login looks at it. -/
def Attempt.locked (a : Attempt) (row : User) : Bool := row.locked (a.outside 1).now

/-- The random numbers of an attempt are not those of a stored session. -/
def Fresh (db : DB) (a : Attempt) : Prop :=
  ∀ i, ∀ s ∈ db.sessions, s.id ≠ (a.outside i).uuid ∧ s.tokenHash ≠ (a.outside i).tokenHash

instance (db : DB) (a : Attempt) : Decidable (Fresh db a) :=
  inferInstanceAs (Decidable (∀ i, ∀ s ∈ db.sessions,
    s.id ≠ (a.outside i).uuid ∧ s.tokenHash ≠ (a.outside i).tokenHash))

/-- A user without failures has no lock. -/
structure Settled (row : User) : Prop where
  counted : 0 ≤ row.failedAttempts
  unlocked : row.failedAttempts = 0 → row.lockedUntil = none

/-- The configuration with which the time of a lock cannot be computed. -/
def Divides (cfg : LockoutConfig) : Prop := cfg.progressive ∧ cfg.maxAttempts = 0

/-- What a wrong password does to the user's row. -/
structure Failed (cfg : LockoutConfig) (row row' : User) : Prop where
  id : row'.id = row.id
  hash : row'.passwordHash = row.passwordHash
  counted : row'.failedAttempts = row.failedAttempts + 1
  locked : cfg.maxAttempts ≤ row'.failedAttempts → row'.lockedUntil.isSome ∨ Divides cfg
  unlocked : row'.lockedUntil = none → row.lockedUntil = none

/-- What a login that is accepted does to the user's row. -/
structure Reset (row row' : User) : Prop where
  id : row'.id = row.id
  hash : row'.passwordHash = row.passwordHash
  counted : row'.failedAttempts = 0
  unlocked : row'.lockedUntil = none

end Attempts

section Statements

variable {p : Primitives} {cfg : Config} {username : String}

theorem advance_ended {s : Progress} {result : Except AuthError (User × Session)} {o : Outside}
    (ended : s.login.phase = .ended result) : advance p cfg s o = s := by
  obtain ⟨⟨request, ip, phase⟩, db, compared⟩ := s
  cases ended
  simp [advance, Login.next, Lockout.verifies]

theorem foldl_ended {s : Progress} {result : Except AuthError (User × Session)} {os : List Outside}
    (ended : s.login.phase = .ended result) : os.foldl (advance p cfg) s = s := by
  induction os with
  | nil => rfl
  | cons o os ih =>
      rw [List.foldl_cons, advance_ended ended]
      exact ih

/-- The statements that a login has still to make, at most. -/
def remaining : LoginPhase → ℕ
  | .reading => 7
  | .checking _ => 6
  | .resetting _ => 5
  | .opening _ => 4
  | .trusting _ _ => 3
  | .incrementing _ | .storing _ _ => 2
  | .locking _ | .touching _ _ => 1
  | .ended _ => 0

theorem remaining_next (c : Login) (o : Outside) (db : DB) :
    remaining (c.next p cfg o db).1 ≤ remaining c.phase - 1 := by
  obtain ⟨request, ip, phase⟩ := c
  cases phase with
  | reading =>
      simp only [Login.next]
      split <;> simp [remaining]
  | checking user =>
      simp only [Login.next]
      split_ifs <;> simp [remaining]
  | incrementing user =>
      simp only [Login.next]
      split_ifs <;> simp [remaining]
  | locking user =>
      simp only [Login.next]
      split <;> simp [remaining]
  | opening user =>
      simp only [Login.next]
      split_ifs <;> simp [remaining]
  | storing user session =>
      simp only [Login.next]
      split <;> simp [remaining]
  | resetting | trusting | touching | ended => simp [Login.next, remaining]

theorem remaining_foldl (s : Progress) (os : List Outside) :
    remaining (os.foldl (advance p cfg) s).login.phase ≤ remaining s.login.phase - os.length := by
  induction os generalizing s with
  | nil => exact le_rfl
  | cons o os ih =>
      have step := @remaining_next p cfg s.login o s.db
      have later := ih (advance p cfg s o)
      simp only [advance, List.foldl_cons, List.length_cons] at later ⊢
      omega

theorem attempt_ended (a : Attempt) (db : DB) :
    ∃ result, (attempt p cfg username a db).login.phase = .ended result := by
  have none_ := @remaining_foldl p cfg ⟨⟨⟨username, a.password⟩, a.ip, .reading⟩, db, false⟩
    (([0, 1, 2, 3, 4, 5, 6] : List (Fin 7)).map a.outside)
  rw [← attempt] at none_
  cases phase : (attempt p cfg username a db).login.phase with
  | ended result => exact ⟨result, rfl⟩
  | _ =>
      rw [phase] at none_
      simp [remaining] at none_

theorem createSession_of_fresh {db : DB} {s : Session}
    (fresh : ∀ t ∈ db.sessions, t.id ≠ s.id ∧ t.tokenHash ≠ s.tokenHash) :
    db.createSession s = some { db with sessions := db.sessions ++ [s] } := by
  rw [DB.createSession, if_neg]
  intro taken
  obtain ⟨t, member, same⟩ := List.any_eq_true.mp taken
  have apart := fresh t member
  rcases of_decide_eq_true same with id | token
  · exact apart.1 id
  · exact apart.2 token

theorem stored {request : LoginRequest} {ip : String} {user : User} {session : Session} {db : DB}
    {compared : Bool} {o₁ o₂ : Outside} {os : List Outside}
    (fresh : ∀ s ∈ db.sessions, s.id ≠ session.id ∧ s.tokenHash ≠ session.tokenHash) :
    (o₁ :: o₂ :: os).foldl (advance p cfg)
        ⟨⟨request, ip, .storing user session⟩, db, compared⟩ =
      ⟨⟨request, ip, .ended (.ok (user, session.made o₁.now))⟩,
        { db with sessions := db.sessions ++ [session.made o₁.now] }.updateLastLogin user.id o₂.now,
        compared⟩ := by
  have first : advance p cfg ⟨⟨request, ip, .storing user session⟩, db, compared⟩ o₁ =
      ⟨⟨request, ip, .touching user (session.made o₁.now)⟩,
        { db with sessions := db.sessions ++ [session.made o₁.now] }, compared⟩ := by
    have new := @createSession_of_fresh db (session.made o₁.now) fresh
    simp [advance, Login.next, Lockout.verifies, new]
  rw [List.foldl_cons, first, List.foldl_cons]
  apply (foldl_ended rfl).trans
  simp [advance, Login.next, Lockout.verifies]

theorem touched {db : DB} {sessions : List Session} {row reset : User} {now : Int}
    (found : db.getUserByUsername username = some reset) (done : Reset row reset) :
    ∃ row', ({ db with sessions := sessions }.updateLastLogin row.id now).getUserByUsername
        username = some row' ∧ Reset row row' := by
  refine ⟨{ reset with lastLogin := some (unix now) }, ?_, done.id, done.hash, done.counted,
    done.unlocked⟩
  have found : DB.getUserByUsername { db with sessions := sessions } username = some reset := found
  rw [DB.updateLastLogin, Lockout.getUserByUsername_setUser, found]
  · simp [done.id]
  · exact fun _ => rfl

theorem opened {request : LoginRequest} {ip : String} {row reset : User} {db : DB}
    {compared : Bool} {o₁ o₂ o₃ o₄ : Outside} {os : List Outside}
    (fresh : ∀ s ∈ db.sessions, s.id ≠ o₁.uuid ∧ s.tokenHash ≠ o₁.tokenHash)
    (found : db.getUserByUsername username = some reset) (done : Reset row reset) :
    ((o₁ :: o₂ :: o₃ :: o₄ :: os).foldl (advance p cfg)
          ⟨⟨request, ip, .opening row⟩, db, compared⟩).accepted = true ∧
      ∃ row', ((o₁ :: o₂ :: o₃ :: o₄ :: os).foldl (advance p cfg)
          ⟨⟨request, ip, .opening row⟩, db, compared⟩).db.getUserByUsername username = some row' ∧
        Reset row row' := by
  rw [List.foldl_cons]
  cases totp : row.totpEnabled with
  | false =>
      have first : advance p cfg ⟨⟨request, ip, .opening row⟩, db, compared⟩ o₁ =
          ⟨⟨request, ip, .storing row { newSession cfg o₁ row.id ip with totpVerified := true }⟩,
            db, compared⟩ := by
        simp [advance, Login.next, Lockout.verifies, totp]
      rw [first, stored fresh]
      exact ⟨rfl, touched found done⟩
  | true =>
      have first : advance p cfg ⟨⟨request, ip, .opening row⟩, db, compared⟩ o₁ =
          ⟨⟨request, ip, .trusting row (newSession cfg o₁ row.id ip)⟩, db, compared⟩ := by
        simp [advance, Login.next, Lockout.verifies, totp]
      have second : ∃ trusted, advance p cfg
            ⟨⟨request, ip, .trusting row (newSession cfg o₁ row.id ip)⟩, db, compared⟩ o₂ =
          ⟨⟨request, ip,
            .storing row { newSession cfg o₁ row.id ip with totpVerified := trusted }⟩,
            db, compared⟩ := by
        simp [advance, Login.next, Lockout.verifies]
      obtain ⟨trusted, second⟩ := second
      rw [first, List.foldl_cons, second, stored fresh]
      exact ⟨rfl, touched found done⟩

variable {a : Attempt} {db : DB} {row : User}

theorem attempt_found (found : db.getUserByUsername username = some row) :
    attempt p cfg username a db =
      (([1, 2, 3, 4, 5, 6] : List (Fin 7)).map a.outside).foldl (advance p cfg)
        ⟨⟨⟨username, a.password⟩, a.ip, .checking row⟩, db, false⟩ := by
  rw [attempt, List.map_cons, List.foldl_cons]
  apply congrArg (List.foldl _ · _)
  simp [advance, Login.next, Lockout.verifies, found]

theorem attempt_locked (found : db.getUserByUsername username = some row)
    (locked : a.locked row = true) : (attempt p cfg username a db).Rejected db := by
  have first : advance p cfg ⟨⟨⟨username, a.password⟩, a.ip, .checking row⟩, db, false⟩
        (a.outside 1) =
      ⟨⟨⟨username, a.password⟩, a.ip, .ended (.error .accountLocked)⟩, db, false⟩ := by
    have locked : row.locked (a.outside 1).now = true := locked
    simp [advance, Login.next, Lockout.verifies, locked]
  rw [attempt_found found, List.map_cons, List.foldl_cons, first, foldl_ended rfl]
  exact ⟨rfl, rfl, rfl⟩

theorem lockoutDuration_isSome {cfg : LockoutConfig} (divides : ¬Divides cfg) (failed : Int) :
    (lockoutDuration cfg failed).isSome := by
  rw [lockoutDuration]
  split
  · next progressive =>
      rw [if_neg fun zero => divides ⟨progressive.1, zero⟩]
      rfl
  · rfl

section Wrong

variable {request : LoginRequest} {ip : String} {o : Outside} {compared : Bool}

theorem advance_wrong (unlocked : row.locked o.now = false)
    (wrong : p.verifyPassword request.password row.passwordHash = false) :
    advance p cfg ⟨⟨request, ip, .checking row⟩, db, compared⟩ o =
      ⟨⟨request, ip, .incrementing row⟩, db, true⟩ := by
  simp [advance, Login.next, Lockout.verifies, unlocked, wrong]

theorem advance_reaching (most : cfg.lockout.maxAttempts ≤ row.failedAttempts + 1) :
    advance p cfg ⟨⟨request, ip, .incrementing row⟩, db, compared⟩ o =
      ⟨⟨request, ip, .locking { row with failedAttempts := row.failedAttempts + 1 }⟩,
        db.incrementFailedAttempts row.id, compared⟩ := by
  simp [advance, Login.next, Lockout.verifies, most]

theorem advance_spared (few : ¬cfg.lockout.maxAttempts ≤ row.failedAttempts + 1) :
    advance p cfg ⟨⟨request, ip, .incrementing row⟩, db, compared⟩ o =
      ⟨⟨request, ip, .ended (.error .invalidCredentials)⟩,
        db.incrementFailedAttempts row.id, compared⟩ := by
  simp [advance, Login.next, Lockout.verifies, few]

theorem advance_locking {duration : Int}
    (time : lockoutDuration cfg.lockout row.failedAttempts = some duration) :
    advance p cfg ⟨⟨request, ip, .locking row⟩, db, compared⟩ o =
      ⟨⟨request, ip, .ended (.error .invalidCredentials)⟩,
        db.lockUser row.id (o.now + duration), compared⟩ := by
  simp [advance, Login.next, Lockout.verifies, time]

theorem advance_panicking (time : lockoutDuration cfg.lockout row.failedAttempts = none) :
    advance p cfg ⟨⟨request, ip, .locking row⟩, db, compared⟩ o =
      ⟨⟨request, ip, .ended (.error .panicked)⟩, db, compared⟩ := by
  simp [advance, Login.next, Lockout.verifies, time]

end Wrong

theorem counted_row (found : db.getUserByUsername username = some row) :
    (db.incrementFailedAttempts row.id).getUserByUsername username =
      some { row with failedAttempts := row.failedAttempts + 1 } := by
  rw [DB.incrementFailedAttempts, Lockout.getUserByUsername_setUser, found]
  · simp
  · exact fun _ => rfl

theorem locked_row (found : db.getUserByUsername username = some row) (until_ : Int) :
    (db.lockUser row.id until_).getUserByUsername username =
      some { row with lockedUntil := some (unix until_) } := by
  rw [DB.lockUser, Lockout.getUserByUsername_setUser, found]
  · simp
  · exact fun _ => rfl

theorem attempt_wrong (found : db.getUserByUsername username = some row)
    (unlocked : a.locked row = false) (wrong : a.right p row = false) :
    (attempt p cfg username a db).accepted = false ∧
      ∃ row', (attempt p cfg username a db).db.getUserByUsername username = some row' ∧
        Failed cfg.lockout row row' := by
  have counted := counted_row found
  rw [attempt_found found, List.map_cons, List.foldl_cons, advance_wrong unlocked wrong,
    List.map_cons, List.foldl_cons]
  by_cases most : cfg.lockout.maxAttempts ≤ row.failedAttempts + 1
  · rw [advance_reaching most, List.map_cons, List.foldl_cons]
    cases time : lockoutDuration cfg.lockout (row.failedAttempts + 1) with
    | none =>
        rw [advance_panicking time, foldl_ended rfl]
        refine ⟨rfl, _, counted, rfl, rfl, rfl, fun _ => .inr ?_, fun none_ => none_⟩
        by_contra divides
        have some_ := lockoutDuration_isSome divides (row.failedAttempts + 1)
        rw [time] at some_
        cases some_
    | some duration =>
        rw [advance_locking time, foldl_ended rfl]
        refine ⟨rfl, _, locked_row counted _, rfl, rfl, rfl, fun _ => .inl rfl, fun none_ => ?_⟩
        cases none_
  · rw [advance_spared most, foldl_ended rfl]
    refine ⟨rfl, _, counted, rfl, rfl, rfl, ?_, fun none_ => none_⟩
    intro reached
    exact absurd reached most

theorem attempt_right (found : db.getUserByUsername username = some row) (settled : Settled row)
    (fresh : Fresh db a) (unlocked : a.locked row = false) (right : a.right p row = true) :
    (attempt p cfg username a db).accepted = true ∧
      ∃ row', (attempt p cfg username a db).db.getUserByUsername username = some row' ∧
        Reset row row' := by
  have unlocked : row.locked (a.outside 1).now = false := unlocked
  have right : p.verifyPassword a.password row.passwordHash = true := right
  rw [attempt_found found, List.map_cons, List.foldl_cons]
  by_cases failed : row.failedAttempts > 0
  · have first : advance p cfg ⟨⟨⟨username, a.password⟩, a.ip, .checking row⟩, db, false⟩
          (a.outside 1) =
        ⟨⟨⟨username, a.password⟩, a.ip, .resetting row⟩, db, true⟩ := by
      simp [advance, Login.next, Lockout.verifies, unlocked, right, failed]
    have second : advance p cfg ⟨⟨⟨username, a.password⟩, a.ip, .resetting row⟩, db, true⟩
          (a.outside 2) =
        ⟨⟨⟨username, a.password⟩, a.ip, .opening row⟩, db.resetFailedAttempts row.id, true⟩ := by
      simp [advance, Login.next, Lockout.verifies]
    rw [first, List.map_cons, List.foldl_cons, second]
    have reset : (db.resetFailedAttempts row.id).getUserByUsername username =
        some { row with failedAttempts := 0, lockedUntil := none } := by
      rw [DB.resetFailedAttempts, Lockout.getUserByUsername_setUser, found]
      · simp
      · exact fun _ => rfl
    exact opened (fresh 3) reset ⟨rfl, rfl, rfl, rfl⟩
  · have first : advance p cfg ⟨⟨⟨username, a.password⟩, a.ip, .checking row⟩, db, false⟩
          (a.outside 1) =
        ⟨⟨⟨username, a.password⟩, a.ip, .opening row⟩, db, true⟩ := by
      simp [advance, Login.next, Lockout.verifies, unlocked, right, failed]
    have none_ : row.failedAttempts = 0 := by
      have counted := settled.counted
      omega
    rw [first]
    exact opened (fresh 2) found ⟨rfl, rfl, none_, settled.unlocked none_⟩

end Statements

section Runs

variable (p : Primitives) (cfg : Config) (user : User)

structure World where
  db : DB
  /-- The wrong passwords since the last login that was accepted. -/
  streak : ℕ

def go (w : World) (a : Attempt) : World :=
  let ended := attempt p cfg user.username a w.db
  { db := ended.db
    streak :=
      if ended.accepted then 0 else if a.right p user then w.streak else w.streak + 1 }

/-- After as many wrong passwords as are allowed there is a lock. -/
def Armed (row : User) (streak : ℕ) : Prop :=
  0 < streak → cfg.lockout.maxAttempts ≤ streak → row.lockedUntil.isSome ∨ Divides cfg.lockout

/-- What an attempt is answered, by the user's row as it finds it. -/
structure Answered (row : User) (w : World) (a : Attempt) : Prop where
  found : w.db.getUserByUsername user.username = some row
  own : row.id = user.id ∧ row.passwordHash = user.passwordHash
  ended : ∃ result, (attempt p cfg user.username a w.db).login.phase = .ended result
  armed : Armed cfg row w.streak
  rejected : ∀ until_ ∈ row.lockedUntil, (a.outside 1).now < until_ * 1000000000 →
    (attempt p cfg user.username a w.db).Rejected w.db
  accepted : (attempt p cfg user.username a w.db).accepted = true ↔
    a.locked row = false ∧ a.right p row = true
  reset : a.locked row = false → a.right p row = true →
    ∃ row', (attempt p cfg user.username a w.db).db.getUserByUsername user.username = some row' ∧
      Reset row row'

/-- The user's row between two attempts. -/
structure Stands (row : User) (w : World) : Prop where
  found : w.db.getUserByUsername user.username = some row
  own : row.id = user.id ∧ row.passwordHash = user.passwordHash
  settled : Settled row
  armed : Armed cfg row w.streak
  counted : row.lockedUntil = none → (w.streak : Int) ≤ row.failedAttempts

end Runs

section Steps

variable {p : Primitives} {cfg : Config} {user row : User} {w : World} {a : Attempt}

theorem right_congr (own : row.id = user.id ∧ row.passwordHash = user.passwordHash) :
    a.right p row = a.right p user := by
  rw [Attempt.right, Attempt.right, own.2]

theorem Progress.Rejected.refused {s : Progress} {db : DB} (rejected : s.Rejected db) :
    s.accepted = false := by
  rw [Progress.accepted, rejected.1]

theorem locked_of_before {until_ : Int} (stored : until_ ∈ row.lockedUntil)
    (before : (a.outside 1).now < until_ * 1000000000) : a.locked row = true := by
  rw [Attempt.locked, User.locked, stored]
  exact decide_eq_true before

theorem isSome_of_locked (locked : a.locked row = true) : row.lockedUntil.isSome := by
  cases stored : row.lockedUntil with
  | none =>
      rw [Attempt.locked, User.locked, stored] at locked
      cases locked
  | some until_ => rfl

theorem answered (stands : Stands cfg user row w) (fresh : Fresh w.db a) :
    Answered p cfg user row w a := by
  refine ⟨stands.found, stands.own, attempt_ended a w.db, stands.armed, ?_, ?_, ?_⟩
  · intro until_ stored before
    exact attempt_locked stands.found (locked_of_before stored before)
  · cases locked : a.locked row with
    | true =>
        rw [(attempt_locked stands.found locked).refused]
        simp
    | false =>
        cases right : a.right p row with
        | true =>
            rw [(attempt_right stands.found stands.settled fresh locked right).1]
            simp
        | false =>
            rw [(attempt_wrong stands.found locked right).1]
            simp
  · intro unlocked right
    exact (attempt_right stands.found stands.settled fresh unlocked right).2

theorem stands_go (stands : Stands cfg user row w) (fresh : Fresh w.db a) :
    ∃ row', Stands cfg user row' (go p cfg user w a) := by
  cases locked : a.locked row with
  | true =>
      have rejected := @attempt_locked p cfg _ _ _ _ stands.found locked
      have some_ := isSome_of_locked locked
      refine ⟨row, ?_, stands.own, stands.settled, fun _ _ => .inl some_, fun none_ => ?_⟩
      · rw [go, rejected.2.2]
        exact stands.found
      · rw [none_] at some_
        cases some_
  | false =>
      cases right : a.right p row with
      | true =>
          obtain ⟨accepted, row', found, reset⟩ :=
            @attempt_right p cfg _ _ _ _ stands.found stands.settled fresh locked right
          have streak : (go p cfg user w a).streak = 0 := by
            rw [go]
            exact if_pos accepted
          refine ⟨row', found, ?_, ⟨?_, fun _ => reset.unlocked⟩, ?_, ?_⟩
          · rw [reset.id, reset.hash]
            exact stands.own
          · rw [reset.counted]
          · intro positive
            omega
          · rw [reset.counted, streak]
            intro
            rfl
      | false =>
          obtain ⟨refused, row', found, failed⟩ :=
            @attempt_wrong p cfg _ _ _ _ stands.found locked right
          have streak : (go p cfg user w a).streak = w.streak + 1 := by
            rw [right_congr stands.own] at right
            simp only [go, refused, right]
            rfl
          have counted : row'.lockedUntil = none →
              ((go p cfg user w a).streak : Int) ≤ row'.failedAttempts := by
            intro none_
            have before := stands.counted (failed.unlocked none_)
            rw [streak, failed.counted]
            omega
          have settled := stands.settled.counted
          have more := failed.counted
          refine ⟨row', found, ?_, ⟨by omega, fun none_ => ?_⟩, ?_, counted⟩
          · rw [failed.id, failed.hash]
            exact stands.own
          · omega
          · intro _ reached
            cases lock : row'.lockedUntil with
            | some until_ => exact .inl rfl
            | none =>
                have enough := counted lock
                have locked := failed.locked (by omega)
                rw [lock] at locked
                exact locked

end Steps

section Main

variable {p : Primitives} {cfg : Config} {user : User} {db : DB}

theorem stands_start (known : db.getUserByUsername user.username = some user)
    (settled : Settled user) : Stands cfg user user ⟨db, 0⟩ := by
  refine ⟨known, ⟨rfl, rfl⟩, settled, ?_, fun _ => settled.counted⟩
  intro positive
  cases positive

/-- Whatever passwords are tried one after the other, and at whatever times: after as many wrong
ones as are allowed there is a lock, before whose time nothing is compared; and exactly the right
password without a lock is accepted, and takes the failures and the lock away. -/
theorem logins_follow_lockout (known : db.getUserByUsername user.username = some user)
    (settled : Settled user) {run : List Attempt}
    (fresh : Along (go p cfg user) (fun w a => Fresh w.db a) ⟨db, 0⟩ run) :
    Along (go p cfg user) (fun w a => ∃ row, Answered p cfg user row w a) ⟨db, 0⟩ run := by
  have start : ∃ row, Stands cfg user row ⟨db, 0⟩ := ⟨user, stands_start known settled⟩
  generalize (⟨db, 0⟩ : World) = w at start fresh
  induction run generalizing w with
  | nil => trivial
  | cons a run ih =>
      obtain ⟨row, stands⟩ := start
      exact ⟨⟨row, answered stands fresh.1⟩, ih _ (stands_go stands fresh.1) fresh.2⟩

/-- A password at a time, with a session of its own. -/
def tried (password : String) (minutes : Int) (name : String) : Attempt :=
  ⟨password, "10.0.0.9",
    fun _ => { quiet with now := minutes * minute, uuid := name, tokenHash := name }⟩

/-- The fifth wrong password locks for a quarter of an hour. -/
def forgotten : List Attempt :=
  List.replicate 5 (tried "Secret-2" 0 "") ++
    [tried "Secret-1" 14 "s-1", tried "Secret-1" 15 "s-2", tried "Secret-2" 16 ""]

theorem forgotten_follows :
    (states (go marked defaultConfig Lockout.alice) ⟨Lockout.onlyAlice, 0⟩ forgotten).map
        (·.streak) = [0, 1, 2, 3, 4, 5, 5, 0, 1] ∧
      Along (go marked defaultConfig Lockout.alice)
        (fun w a => ∃ row, Answered marked defaultConfig Lockout.alice row w a)
        ⟨Lockout.onlyAlice, 0⟩ forgotten := by
  constructor
  · decide +kernel
  · refine logins_follow_lockout (by decide +kernel) ⟨by decide, fun _ => rfl⟩ ?_
    decide +kernel

end Main

end SerialLogins
