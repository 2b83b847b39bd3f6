import PCenter.Lib.Json
import PCenter.Lib.ServeMux

/-!
# Sessions and the middleware in front of the handlers

`internal/auth`: the session check of `service.go` and the wrappers of `middleware.go`.
A wrapper answers the request itself or lets it through with a context, the session and
user that `SetAuthContext` stored. The hash of a cookie (base64 and SHA-256) is a
parameter; instants are nanoseconds.
-/

namespace Auth

/-- An HTTP request, with what the middleware and the handlers read of it. -/
structure Request where
  method : String
  /-- The escaped path between its slashes. -/
  path : List String
  query : List (String × String)
  /-- The cookie `pcenter_session`. -/
  cookie : Option String
  /-- The header `X-CSRF-Token`, empty when absent. -/
  csrfHeader : String
  /-- The body, when it is JSON. -/
  body : Option GoJson.Json

structure User where
  id : String
  role : String
  totpEnabled : Bool
  deriving DecidableEq, Repr

def roleAdmin : String := "admin"

structure Session where
  id : String
  userID : String
  tokenHash : String
  csrfToken : String
  totpVerified : Bool
  expiresAt : Int
  lastSeenAt : Int
  deriving DecidableEq, Repr

structure DB where
  sessions : List Session
  users : List User

structure Service where
  /-- `HashSessionToken`; none when the cookie is not base64. -/
  hashSessionToken : String → Option String
  idleTimeoutHours : Int

inductive AuthError where
  | sessionNotFound
  | sessionExpired
  | userNotFound
  deriving DecidableEq, Repr

/-- What a wrapper answers when it does not let the request through. -/
structure Refusal where
  status : Nat
  error : String
  deriving DecidableEq, Repr

abbrev Context := Option (Session × User)

/-- `time.Duration`, which is of 64 bits. -/
def duration (n : Int) : Int := n.bmod (2 ^ 64)

namespace DB

variable (db : DB)

def getSessionByTokenHash (tokenHash : String) : Option Session :=
  db.sessions.find? (·.tokenHash = tokenHash)

def getUserByID (id : String) : Option User := db.users.find? (·.id = id)

def deleteSession (id : String) : DB :=
  { db with sessions := db.sessions.filter (·.id ≠ id) }

/-- The table keeps whole seconds. -/
def touchSession (id : String) (now : Int) : DB :=
  { db with sessions := db.sessions.map fun s =>
      if s.id = id then { s with lastSeenAt := now / 1000000000 * 1000000000 } else s }

end DB

namespace Session

def isExpired (s : Session) (now : Int) : Bool := s.expiresAt < now

def isIdle (s : Session) (idleTimeoutHours now : Int) : Bool :=
  s.lastSeenAt + duration (idleTimeoutHours * 3600000000000) < now

end Session

/-- The user has switched 2FA on and this session has not passed it yet. -/
def awaitsTOTP (session : Session) (user : User) : Bool :=
  user.totpEnabled && !session.totpVerified

namespace Service

variable (svc : Service) (now : Int)

def validateSession (rawToken : String) (db : DB) :
    Except AuthError (Session × User) × DB :=
  match svc.hashSessionToken rawToken with
  | none => (.error .sessionNotFound, db)
  | some tokenHash =>
      match db.getSessionByTokenHash tokenHash with
      | none => (.error .sessionNotFound, db)
      | some session =>
          if session.isExpired now then
            (.error .sessionExpired, db.deleteSession session.id)
          else if session.isIdle svc.idleTimeoutHours now then
            (.error .sessionExpired, db.deleteSession session.id)
          else
            match db.getUserByID session.userID with
            | none => (.error .userNotFound, db.deleteSession session.id)
            | some user => (.ok (session, user), db.touchSession session.id now)

/-- `GetSessionCookie` -/
def sessionCookie (r : Request) : String := r.cookie.getD ""

/-- The session and user a request is made under, if its cookie is accepted. -/
def accepted (r : Request) (db : DB) : Option (Session × User) :=
  if sessionCookie r = "" then none
  else (svc.validateSession now (sessionCookie r) db).1.toOption

end Service

inductive Wrapper where
  | requireAuth
  | requireAdmin
  | requireFullAuth
  | csrfProtection
  | authenticatedWebSocket
  deriving DecidableEq, Repr

section Middleware

variable (svc : Service) (now : Int) (r : Request)

def unauthorized : Refusal := ⟨401, "unauthorized"⟩

def totpRequired : Refusal := ⟨403, "2FA verification required"⟩

/-- The paths a session that awaits 2FA may use. -/
def totpPaths : List String := ["/api/auth/verify-totp", "/api/auth/logout", "/api/auth/me"]

def requireAuth (db : DB) : Except Refusal Context × DB :=
  if Service.sessionCookie r = "" then (.error unauthorized, db)
  else
    match svc.validateSession now (Service.sessionCookie r) db with
    | (.error _, db') => (.error unauthorized, db')
    | (.ok (session, user), db') =>
        if awaitsTOTP session user ∧ ServeMux.urlPath r.path ∉ totpPaths then
          (.error totpRequired, db')
        else (.ok (some (session, user)), db')

def authenticatedWebSocket (db : DB) : Except Refusal Context × DB :=
  if Service.sessionCookie r = "" then (.error unauthorized, db)
  else
    match svc.validateSession now (Service.sessionCookie r) db with
    | (.error _, db') => (.error unauthorized, db')
    | (.ok (session, user), db') =>
        if awaitsTOTP session user then (.error totpRequired, db')
        else (.ok (some (session, user)), db')

def requireAdmin : Context → Except Refusal Context
  | none => .error unauthorized
  | some (session, user) =>
      if user.role ≠ roleAdmin then .error ⟨403, "forbidden"⟩
      else .ok (some (session, user))

def requireFullAuth : Context → Except Refusal Context
  | none => .error unauthorized
  | some (session, user) =>
      if awaitsTOTP session user then .error totpRequired else .ok (some (session, user))

/-- The methods `CSRFProtection` leaves alone. -/
def safeMethods : List String := ["GET", "HEAD", "OPTIONS"]

def csrfProtection (ctx : Context) : Except Refusal Context :=
  if r.method ∈ safeMethods then .ok ctx
  else
    match ctx with
    | none => .ok none
    | some (session, user) =>
        if r.csrfHeader = "" then .error ⟨403, "CSRF token required"⟩
        else if r.csrfHeader ≠ session.csrfToken then .error ⟨403, "invalid CSRF token"⟩
        else .ok (some (session, user))

/-- One wrapper's `ServeHTTP`, up to the call of the next handler. -/
def serveHTTP (w : Wrapper) (ctx : Context) (db : DB) : Except Refusal Context × DB :=
  match w with
  | .requireAuth => requireAuth svc now r db
  | .authenticatedWebSocket => authenticatedWebSocket svc now r db
  | .requireAdmin => (requireAdmin ctx, db)
  | .requireFullAuth => (requireFullAuth ctx, db)
  | .csrfProtection => (csrfProtection r ctx, db)

/-- Wrappers around a handler, the outermost first. -/
def passThrough : List Wrapper → Context → DB → Except Refusal Context × DB
  | [], ctx, db => (.ok ctx, db)
  | w :: ws, ctx, db =>
      match serveHTTP svc now r w ctx db with
      | (.error refusal, db') => (.error refusal, db')
      | (.ok ctx', db') => passThrough ws ctx' db'

/-- The context that reaches the handler, if the request does. -/
def admitted (ws : List Wrapper) (db : DB) : Option Context :=
  (passThrough svc now r ws none db).1.toOption

variable {svc now r}

theorem requireAuth_ok {db : DB} {ctx : Context}
    (passed : (requireAuth svc now r db).1 = .ok ctx) :
    ∃ session user, svc.accepted now r db = some (session, user) ∧
      ctx = some (session, user) ∧
      (awaitsTOTP session user → ServeMux.urlPath r.path ∈ totpPaths) := by
  by_cases noCookie : Service.sessionCookie r = ""
  · simp [requireAuth, noCookie] at passed
  · rcases valid : svc.validateSession now (Service.sessionCookie r) db with ⟨result, db'⟩
    cases result with
    | error e => simp [requireAuth, noCookie, valid] at passed
    | ok pair =>
        obtain ⟨session, user⟩ := pair
        by_cases pending : awaitsTOTP session user ∧ ServeMux.urlPath r.path ∉ totpPaths
        · simp [requireAuth, noCookie, valid, pending] at passed
        · obtain rfl : some (session, user) = ctx := by
            simpa [requireAuth, noCookie, valid, pending] using passed
          refine ⟨session, user, by simp [Service.accepted, noCookie, valid, Except.toOption],
            rfl, ?_⟩
          intro awaits
          by_contra outside
          exact pending ⟨awaits, outside⟩

theorem authenticatedWebSocket_ok {db : DB} {ctx : Context}
    (passed : (authenticatedWebSocket svc now r db).1 = .ok ctx) :
    ctx = svc.accepted now r db := by
  by_cases noCookie : Service.sessionCookie r = ""
  · simp [authenticatedWebSocket, noCookie] at passed
  · rcases valid : svc.validateSession now (Service.sessionCookie r) db with ⟨result, db'⟩
    cases result with
    | error e => simp [authenticatedWebSocket, noCookie, valid] at passed
    | ok pair =>
        obtain ⟨session, user⟩ := pair
        by_cases pending : awaitsTOTP session user = true
        · simp [authenticatedWebSocket, noCookie, valid, pending] at passed
        · obtain rfl : some (session, user) = ctx := by
            simpa [authenticatedWebSocket, noCookie, valid, pending] using passed
          simp [Service.accepted, noCookie, valid, Except.toOption]

theorem requireAuth_of_accepted {db : DB} {session : Session} {user : User}
    (carried : svc.accepted now r db = some (session, user))
    (free : awaitsTOTP session user → ServeMux.urlPath r.path ∈ totpPaths) :
    (requireAuth svc now r db).1 = .ok (some (session, user)) := by
  by_cases noCookie : Service.sessionCookie r = ""
  · simp [Service.accepted, noCookie] at carried
  · rcases valid : svc.validateSession now (Service.sessionCookie r) db with ⟨result, db'⟩
    cases result with
    | error e => simp [Service.accepted, noCookie, valid, Except.toOption] at carried
    | ok pair =>
        obtain rfl : pair = (session, user) := by
          simpa [Service.accepted, noCookie, valid, Except.toOption] using carried
        have inside : ¬(awaitsTOTP session user = true ∧
            ServeMux.urlPath r.path ∉ totpPaths) := fun h => h.2 (free h.1)
        simp [requireAuth, noCookie, valid, inside]

@[simp] theorem requireFullAuth_eq_ok {ctx ctx' : Context} :
    requireFullAuth ctx = .ok ctx' ↔
      ctx' = ctx ∧ ∃ session user, ctx = some (session, user) ∧
        awaitsTOTP session user = false := by
  rcases ctx with - | ⟨session, user⟩
  · simp [requireFullAuth]
  · by_cases pending : awaitsTOTP session user = true
    · simp [requireFullAuth, pending]
    · simp [requireFullAuth, pending, @eq_comm _ ctx']

theorem requireAdmin_ok {ctx ctx' : Context} (passed : requireAdmin ctx = .ok ctx') :
    ctx' = ctx := by
  rcases ctx with - | ⟨session, user⟩
  · exact nomatch passed
  · by_cases admin : user.role = roleAdmin
    · simpa [requireAdmin, admin, @eq_comm _ ctx'] using passed
    · simp [requireAdmin, admin] at passed

theorem csrfProtection_ok {ctx ctx' : Context} (passed : csrfProtection r ctx = .ok ctx') :
    ctx' = ctx ∧ (r.method ∉ safeMethods → ∀ session user, ctx = some (session, user) →
      r.csrfHeader = session.csrfToken) := by
  by_cases safe : r.method ∈ safeMethods
  · refine ⟨by simpa [csrfProtection, safe, @eq_comm _ ctx'] using passed, ?_⟩
    intro unsafe'
    exact absurd safe unsafe'
  · rcases ctx with - | ⟨session, user⟩
    · exact ⟨by simpa [csrfProtection, safe, @eq_comm _ ctx'] using passed, by simp⟩
    · by_cases empty : r.csrfHeader = ""
      · simp [csrfProtection, safe, empty] at passed
      · by_cases same : r.csrfHeader = session.csrfToken
        · obtain rfl : some (session, user) = ctx' := by
            rw [same] at empty
            simpa [csrfProtection, safe, empty, same] using passed
          refine ⟨rfl, ?_⟩
          rintro - session' user' held
          obtain ⟨rfl, rfl⟩ : session = session' ∧ user = user' := by simpa using held
          exact same
        · simp [csrfProtection, safe, empty, same] at passed

/-- Behind the session gate no wrapper changes the context. -/
def Inner (w : Wrapper) : Prop :=
  w = .requireAdmin ∨ w = .requireFullAuth ∨ w = .csrfProtection

instance (w : Wrapper) : Decidable (Inner w) := inferInstanceAs (Decidable (_ ∨ _ ∨ _))

theorem serveHTTP_inner {w : Wrapper} (inner : Inner w) {ctx ctx' : Context} {db db' : DB}
    (passed : serveHTTP svc now r w ctx db = (.ok ctx', db')) : ctx' = ctx ∧ db' = db := by
  obtain ⟨outcome, kept⟩ := Prod.mk.inj passed
  rcases inner with rfl | rfl | rfl
  · exact ⟨requireAdmin_ok outcome, kept.symm⟩
  · exact ⟨(requireFullAuth_eq_ok.mp outcome).1, kept.symm⟩
  · exact ⟨(csrfProtection_ok outcome).1, kept.symm⟩

theorem passThrough_inner {ws : List Wrapper} (inner : ∀ w ∈ ws, Inner w)
    {ctx ctx' : Context} {db : DB}
    (passed : (passThrough svc now r ws ctx db).1 = .ok ctx') :
    ctx' = ctx ∧ ∀ w ∈ ws, serveHTTP svc now r w ctx db = (.ok ctx, db) := by
  induction ws with
  | nil =>
      obtain rfl : ctx = ctx' := by simpa [passThrough] using passed
      exact ⟨rfl, by simp⟩
  | cons w ws ih =>
      rcases step : serveHTTP svc now r w ctx db with ⟨result, db'⟩
      cases result with
      | error refusal => simp [passThrough, step] at passed
      | ok ctx₁ =>
          obtain ⟨rfl, rfl⟩ := serveHTTP_inner (inner w (by simp)) step
          have later : (passThrough svc now r ws ctx₁ db').1 = .ok ctx' := by
            simpa [passThrough, step] using passed
          obtain ⟨same, accepted⟩ := ih (fun w' member => inner w' (by simp [member])) later
          refine ⟨same, ?_⟩
          rintro w' (_ | ⟨_, member⟩)
          · exact step
          · exact accepted w' member

theorem admitted_requireAuth {ws : List Wrapper} (inner : ∀ w ∈ ws, Inner w) {db : DB}
    {ctx : Context} (reaches : admitted svc now r (.requireAuth :: ws) db = some ctx) :
    ∃ session user, svc.accepted now r db = some (session, user) ∧
      ctx = some (session, user) ∧
      (awaitsTOTP session user → ServeMux.urlPath r.path ∈ totpPaths) ∧
      (.requireFullAuth ∈ ws → awaitsTOTP session user = false) ∧
      (.csrfProtection ∈ ws → r.method ∉ safeMethods →
        r.csrfHeader = session.csrfToken) := by
  rcases step : requireAuth svc now r db with ⟨result, db'⟩
  cases result with
  | error refusal =>
      simp [admitted, passThrough, serveHTTP, step, Except.toOption] at reaches
  | ok ctx₁ =>
      obtain ⟨session, user, carried, rfl, free⟩ := requireAuth_ok (by rw [step])
      have later : (passThrough svc now r ws (some (session, user)) db').1 = .ok ctx := by
        rcases rest : passThrough svc now r ws (some (session, user)) db' with ⟨outcome, db''⟩
        cases outcome with
        | error refusal =>
            simp [admitted, passThrough, serveHTTP, step, rest, Except.toOption] at reaches
        | ok ctx₂ =>
            simpa [admitted, passThrough, serveHTTP, step, rest, Except.toOption] using reaches
      obtain ⟨rfl, passed⟩ := passThrough_inner inner later
      refine ⟨session, user, carried, rfl, free, ?_, ?_⟩
      · intro full
        have verified : requireFullAuth (some (session, user)) = .ok (some (session, user)) :=
          congrArg Prod.fst (passed _ full)
        obtain ⟨-, session', user', held, done⟩ := requireFullAuth_eq_ok.mp verified
        obtain ⟨rfl, rfl⟩ : session = session' ∧ user = user' := by simpa using held
        exact done
      · intro protected' unsafe'
        have checked : csrfProtection r (some (session, user)) = .ok (some (session, user)) :=
          congrArg Prod.fst (passed _ protected')
        exact (csrfProtection_ok checked).2 unsafe' session user rfl

end Middleware

end Auth
