import PCenter.Auth
import PCenter.Lib.Thread

/-!
# Accounts and the requests that change them

`internal/auth`: the tables of `db.go`, and the requests of `service.go` and `handlers.go` as
the statements they make, one after the other. Between two statements of a request any others
may run. bcrypt, the one-time passwords and the cipher of the secrets are parameters; what is
drawn at random and the clock come with each step. Instants are nanoseconds, the tables keep
whole seconds.
-/

namespace Accounts

section Tables

structure User where
  id : String
  username : String
  email : String
  passwordHash : String
  role : String
  totpEnabled : Bool
  totpSecret : String
  failedAttempts : Int
  lockedUntil : Option Int
  lastLogin : Option Int
  deriving DecidableEq, Repr

structure Session where
  id : String
  userID : String
  tokenHash : String
  csrfToken : String
  totpVerified : Bool
  ipAddress : String
  createdAt : Int
  expiresAt : Int
  lastSeenAt : Int
  deriving DecidableEq, Repr

structure RecoveryCode where
  id : String
  userID : String
  codeHash : String
  used : Bool
  deriving DecidableEq, Repr

structure TrustedIP where
  userID : String
  ipAddress : String
  createdAt : Int
  expiresAt : Int
  deriving DecidableEq, Repr

structure DB where
  users : List User
  sessions : List Session
  recoveryCodes : List RecoveryCode
  trustedIPs : List TrustedIP
  deriving DecidableEq

/-- `time.Time.Unix` -/
def unix (t : Int) : Int := t / 1000000000

namespace DB

variable (db : DB)

/-- Refused when the identifier or the name is taken. -/
def createUser (u : User) : Option DB :=
  if db.users.any fun v => v.id = u.id ∨ v.username = u.username then none
  else some { db with users := db.users ++ [u] }

def getUserByUsername (username : String) : Option User :=
  db.users.find? (·.username = username)

def getUserByID (id : String) : Option User := db.users.find? (·.id = id)

def userCount : Nat := db.users.length

/-- `UPDATE users SET … WHERE id = ?` -/
def setUser (id : String) (f : User → User) : DB :=
  { db with users := db.users.map fun u => if u.id = id then f u else u }

/-- The whole row but its name. -/
def updateUser (u : User) : DB := db.setUser u.id fun row => { u with username := row.username }

def incrementFailedAttempts (userID : String) : DB :=
  db.setUser userID fun u => { u with failedAttempts := u.failedAttempts + 1 }

def lockUser (userID : String) (until_ : Int) : DB :=
  db.setUser userID fun u => { u with lockedUntil := some (unix until_) }

def resetFailedAttempts (userID : String) : DB :=
  db.setUser userID fun u => { u with failedAttempts := 0, lockedUntil := none }

def updateLastLogin (userID : String) (now : Int) : DB :=
  db.setUser userID fun u => { u with lastLogin := some (unix now) }

/-- Refused when the identifier or the token is taken. -/
def createSession (s : Session) : Option DB :=
  if db.sessions.any fun t => t.id = s.id ∨ t.tokenHash = s.tokenHash then none
  else some { db with sessions := db.sessions ++ [s] }

def getSessionByTokenHash (tokenHash : String) : Option Session :=
  db.sessions.find? (·.tokenHash = tokenHash)

def getSessionByID (id : String) : Option Session := db.sessions.find? (·.id = id)

def touchSession (sessionID : String) (now : Int) : DB :=
  { db with sessions := db.sessions.map fun s =>
      if s.id = sessionID then { s with lastSeenAt := unix now } else s }

def deleteSession (id : String) : DB :=
  { db with sessions := db.sessions.filter (·.id ≠ id) }

def deleteSessionByTokenHash (tokenHash : String) : DB :=
  { db with sessions := db.sessions.filter (·.tokenHash ≠ tokenHash) }

def deleteExpiredSessions (now : Int) : DB :=
  { db with sessions := db.sessions.filter fun s => ¬s.expiresAt < unix now }

/-- All but one, if one is given. -/
def deleteUserSessions (userID exceptID : String) : DB :=
  { db with sessions := db.sessions.filter fun s =>
      ¬(s.userID = userID ∧ (exceptID = "" ∨ s.id ≠ exceptID)) }

/-- The foreign keys of the other tables are not enforced. -/
def deleteUser (id : String) : DB := { db with users := db.users.filter (·.id ≠ id) }

def markTOTPVerified (sessionID : String) : DB :=
  { db with sessions := db.sessions.map fun s =>
      if s.id = sessionID then { s with totpVerified := true } else s }

def getRecoveryCodes (userID : String) : List RecoveryCode :=
  db.recoveryCodes.filter (·.userID = userID)

def markRecoveryCodeUsed (codeID : String) : DB :=
  { db with recoveryCodes := db.recoveryCodes.map fun c =>
      if c.id = codeID then { c with used := true } else c }

def deleteUserRecoveryCodes (userID : String) : DB :=
  { db with recoveryCodes := db.recoveryCodes.filter (·.userID ≠ userID) }

/-- One of the insertions of `CreateRecoveryCodes`. -/
def insertRecoveryCode (id userID codeHash : String) : DB :=
  { db with recoveryCodes := db.recoveryCodes ++ [⟨id, userID, codeHash, false⟩] }

def isTrustedIP (userID ip : String) (now : Int) : Bool :=
  db.trustedIPs.any fun t => t.userID = userID ∧ t.ipAddress = ip ∧ t.expiresAt > unix now

/-- There is one row for a user and an address; it is written again. -/
def trustIP (userID ip : String) (expiresAt now : Int) : DB :=
  { db with trustedIPs :=
      if db.trustedIPs.any fun t => t.userID = userID ∧ t.ipAddress = ip then
        db.trustedIPs.map fun t =>
          if t.userID = userID ∧ t.ipAddress = ip then
            { t with expiresAt := unix expiresAt, createdAt := unix now }
          else t
      else db.trustedIPs ++ [⟨userID, ip, unix now, unix expiresAt⟩] }

def cleanupExpiredTrustedIPs (now : Int) : DB :=
  { db with trustedIPs := db.trustedIPs.filter fun t => ¬t.expiresAt < unix now }

end DB

end Tables

section Service

structure SessionConfig where
  durationHours : Int

structure LockoutConfig where
  maxAttempts : Int
  lockoutMinutes : Int
  progressive : Bool

structure TOTPConfig where
  /-- Zero when addresses are not trusted. -/
  trustIPHours : Int

structure Config where
  session : SessionConfig
  lockout : LockoutConfig
  totp : TOTPConfig

def defaultConfig : Config :=
  { session := ⟨24⟩, lockout := ⟨5, 15, true⟩, totp := ⟨0⟩ }

def minute : Int := 60000000000

def hour : Int := 3600000000000

namespace Session

def isExpired (s : Session) (now : Int) : Bool := s.expiresAt * 1000000000 < now

def isIdle (s : Session) (idleTimeoutHours now : Int) : Bool :=
  s.lastSeenAt * 1000000000 + Auth.duration (idleTimeoutHours * hour) < now

/-- The times that `CreateSession` sets. -/
def made (s : Session) (now : Int) : Session :=
  { s with createdAt := unix now, lastSeenAt := unix now }

end Session

/-- What the service takes from other packages. -/
structure Primitives where
  verifyPassword : (password hash : String) → Bool
  validateTOTP : (now : Int) → (secret code : String) → Bool
  decrypt : String → Option String
  isUpper : Char → Bool
  isLower : Char → Bool
  isDigit : Char → Bool

/-- What the outside contributes to a step. -/
structure Outside where
  now : Int
  uuid : String
  tokenHash : String
  csrfToken : String
  /-- The answer of `HashPassword`, none when it fails. -/
  hash : Option String
  /-- A new secret, encrypted, with the hashes of new recovery codes. -/
  enrolment : Option (String × List String)

inductive AuthError where
  | userNotFound
  | invalidCredentials
  | accountLocked
  | invalidTOTP
  | registrationClosed
  | passwordTooShort
  | passwordNoUpper
  | passwordNoLower
  | passwordNoDigit
  /-- An error of the database, of bcrypt or of the cipher. -/
  | internal
  /-- The request panics, and `net/http` recovers. -/
  | panicked
  deriving DecidableEq, Repr

def minPasswordLength : Nat := 8

variable (p : Primitives) (cfg : Config) (o : Outside)

/-- The classes of a letter are tried one after the other. -/
def validatePasswordPolicy (password : String) : Except AuthError Unit :=
  let upper := p.isUpper
  let lower := fun c => !upper c && p.isLower c
  let digit := fun c => !upper c && !p.isLower c && p.isDigit c
  if password.utf8ByteSize < minPasswordLength then .error .passwordTooShort
  else if !password.toList.any upper then .error .passwordNoUpper
  else if !password.toList.any lower then .error .passwordNoLower
  else if !password.toList.any digit then .error .passwordNoDigit
  else .ok ()

def newSession (userID ip : String) : Session :=
  { id := o.uuid, userID := userID, tokenHash := o.tokenHash, csrfToken := o.csrfToken
    totpVerified := false, ipAddress := ip, createdAt := 0
    expiresAt := unix (o.now + Auth.duration (cfg.session.durationHours * hour)), lastSeenAt := 0 }

end Service

section Login

structure LoginRequest where
  username : String
  password : String
  deriving DecidableEq

/-- What a login does next, with the user as it was read. -/
inductive LoginPhase where
  | reading
  | checking (user : User)
  | incrementing (user : User)
  | locking (user : User)
  | resetting (user : User)
  | opening (user : User)
  | trusting (user : User) (session : Session)
  | storing (user : User) (session : Session)
  | touching (user : User) (session : Session)
  | ended (result : Except AuthError (User × Session))

structure Login where
  request : LoginRequest
  ip : String
  phase : LoginPhase

def User.locked (u : User) (now : Int) : Bool :=
  u.lockedUntil.any fun t => now < t * 1000000000

/-- The time of a lock; none where the division panics. -/
def lockoutDuration (cfg : LockoutConfig) (failedAttempts : Int) : Option Int :=
  let lockout := Auth.duration (cfg.lockoutMinutes * minute)
  if cfg.progressive ∧ failedAttempts > cfg.maxAttempts then
    if cfg.maxAttempts = 0 then none
    else
      let multiplier := (failedAttempts - cfg.maxAttempts).tdiv cfg.maxAttempts + 1
      some (Auth.duration (lockout * multiplier))
  else some lockout

variable (p : Primitives) (cfg : Config) (o : Outside)

/-- The statement at which a login stands, and what the service does up to the next one. -/
def Login.next (db : DB) (c : Login) : LoginPhase × DB :=
  match c.phase with
  | .reading =>
      match db.getUserByUsername c.request.username with
      | none => (.ended (.error .invalidCredentials), db)
      | some user => (.checking user, db)
  | .checking user =>
      if user.locked o.now then (.ended (.error .accountLocked), db)
      else if !p.verifyPassword c.request.password user.passwordHash then
        (.incrementing user, db)
      else if user.failedAttempts > 0 then (.resetting user, db)
      else (.opening user, db)
  | .incrementing user =>
      let counted := { user with failedAttempts := user.failedAttempts + 1 }
      (if counted.failedAttempts ≥ cfg.lockout.maxAttempts then .locking counted
        else .ended (.error .invalidCredentials), db.incrementFailedAttempts user.id)
  | .locking user =>
      match lockoutDuration cfg.lockout user.failedAttempts with
      | none => (.ended (.error .panicked), db)
      | some duration =>
          (.ended (.error .invalidCredentials), db.lockUser user.id (o.now + duration))
  | .resetting user => (.opening user, db.resetFailedAttempts user.id)
  | .opening user =>
      let session := newSession cfg o user.id c.ip
      (if user.totpEnabled then .trusting user session
        else .storing user { session with totpVerified := true }, db)
  | .trusting user session =>
      let trusted := db.isTrustedIP user.id c.ip o.now && decide (cfg.totp.trustIPHours > 0)
      (.storing user { session with totpVerified := trusted }, db)
  | .storing user session =>
      match db.createSession (session.made o.now) with
      | none => (.ended (.error .internal), db)
      | some db => (.touching user (session.made o.now), db)
  | .touching user session => (.ended (.ok (user, session)), db.updateLastLogin user.id o.now)
  | .ended result => (.ended result, db)

end Login

section VerifyTOTP

inductive VerifyPhase where
  | reading
  | fetching (user : User)
  | consuming (user : User) (code : RecoveryCode)
  /-- By a recovery code, or by the app. -/
  | marking (user : User) (code : Option RecoveryCode)
  | trusting (user : User)
  | ended (result : Except AuthError Unit)

/-- `VerifyTOTPLogin` -/
structure Verify where
  session : Session
  code : String
  phase : VerifyPhase

variable (p : Primitives) (cfg : Config) (o : Outside)

/-- `trustIPAfterVerification` -/
def trustIPAfterVerification (userID ip : String) (db : DB) : DB :=
  if cfg.totp.trustIPHours ≤ 0 ∨ ip = "" then db
  else db.trustIP userID ip (o.now + Auth.duration (cfg.totp.trustIPHours * hour)) o.now

def Verify.next (db : DB) (v : Verify) : VerifyPhase × DB :=
  match v.phase with
  | .reading =>
      match db.getUserByID v.session.userID with
      | none => (.ended (.error .userNotFound), db)
      | some user =>
          match p.decrypt user.totpSecret with
          | none => (.ended (.error .internal), db)
          | some secret =>
              (if p.validateTOTP o.now secret v.code then .marking user none
                else .fetching user, db)
  | .fetching user =>
      match (db.getRecoveryCodes user.id).find? fun rc =>
          !rc.used && p.verifyPassword v.code rc.codeHash with
      | none => (.ended (.error .invalidTOTP), db)
      | some rc => (.consuming user rc, db)
  | .consuming user rc => (.marking user (some rc), db.markRecoveryCodeUsed rc.id)
  | .marking user _ => (.trusting user, db.markTOTPVerified v.session.id)
  | .trusting user =>
      (.ended (.ok ()), trustIPAfterVerification cfg o user.id v.session.ipAddress db)
  | .ended result => (.ended result, db)

end VerifyTOTP

section Register

structure RegisterRequest where
  username : String
  password : String
  email : String
  deriving DecidableEq

inductive RegisterPhase where
  | counting
  | hashing
  | inserting (user : User)
  | opening (user : User)
  | storing (user : User) (session : Session)
  | ended (result : Except AuthError (User × Session))

structure Register where
  request : RegisterRequest
  ip : String
  phase : RegisterPhase

variable (p : Primitives) (cfg : Config) (o : Outside)

/-- The first user is always admin. -/
def RegisterRequest.user (req : RegisterRequest) (id hash : String) : User :=
  { id := id, username := req.username, email := req.email, passwordHash := hash
    role := Auth.roleAdmin, totpEnabled := false, totpSecret := "", failedAttempts := 0
    lockedUntil := none, lastLogin := none }

def Register.next (db : DB) (r : Register) : RegisterPhase × DB :=
  match r.phase with
  | .counting =>
      (if db.userCount > 0 then .ended (.error .registrationClosed) else .hashing, db)
  | .hashing =>
      match validatePasswordPolicy p r.request.password, o.hash with
      | .error e, _ => (.ended (.error e), db)
      | .ok _, none => (.ended (.error .internal), db)
      | .ok _, some hash => (.inserting (r.request.user o.uuid hash), db)
  | .inserting user =>
      match db.createUser user with
      | none => (.ended (.error .internal), db)
      | some db => (.opening user, db)
  | .opening user =>
      (.storing user { newSession cfg o user.id r.ip with totpVerified := true }, db)
  | .storing user session =>
      match db.createSession (session.made o.now) with
      | none => (.ended (.error .internal), db)
      | some db => (.ended (.ok (user, session.made o.now)), db)
  | .ended result => (.ended result, db)

end Register

section Handlers

/-- The handlers that write a user back. -/
inductive Action where
  | changePassword (currentPassword newPassword : String)
  | totpSetup
  | totpVerifySetup (code : String)
  | totpDisable
  deriving DecidableEq

/-- What such a handler is meant to change. -/
inductive Change where
  | password (hash : String)
  /-- A secret, with the hashes of the recovery codes that belong to it. -/
  | secret (encrypted : String) (codes : List String)
  | enable
  | disable
  deriving DecidableEq

def Change.apply (u : User) : Change → User
  | .password hash => { u with passwordHash := hash }
  | .secret encrypted _ => { u with totpSecret := encrypted }
  | .enable => { u with totpEnabled := true }
  | .disable => { u with totpEnabled := false, totpSecret := "" }

inductive EditPhase where
  | reading
  | deciding (user : User)
  | updating (user : User) (change : Change)
  | clearing (user : User) (codes : List String)
  | inserting (user : User) (codes : List String)
  | ended (result : Except Auth.Refusal Unit)

structure Edit where
  userID : String
  action : Action
  phase : EditPhase

variable (p : Primitives) (o : Outside)

def AuthError.text : AuthError → String
  | .userNotFound => "user not found"
  | .invalidCredentials => "invalid username or password"
  | .accountLocked => "account is locked"
  | .invalidTOTP => "invalid TOTP code"
  | .registrationClosed => "registration is closed"
  | .passwordTooShort => "password must be at least 8 characters"
  | .passwordNoUpper => "password must contain at least one uppercase letter"
  | .passwordNoLower => "password must contain at least one lowercase letter"
  | .passwordNoDigit => "password must contain at least one digit"
  | .internal | .panicked => "internal error"

def changePassword (user : User) (currentPassword newPassword : String) :
    Except AuthError Change := do
  unless p.verifyPassword currentPassword user.passwordHash do throw .invalidCredentials
  validatePasswordPolicy p newPassword
  match o.hash with
  | none => throw .internal
  | some hash => return .password hash

/-- What `HandleChangePassword` answers to an error of the service. -/
def AuthError.refusal : AuthError → Auth.Refusal
  | .invalidCredentials => ⟨401, "current password is incorrect"⟩
  | .passwordTooShort => ⟨400, AuthError.passwordTooShort.text⟩
  | .passwordNoUpper => ⟨400, AuthError.passwordNoUpper.text⟩
  | .passwordNoLower => ⟨400, AuthError.passwordNoLower.text⟩
  | .passwordNoDigit => ⟨400, AuthError.passwordNoDigit.text⟩
  | _ => ⟨500, "internal error"⟩

def handleTOTPSetup (user : User) : Except Auth.Refusal Change :=
  if user.totpEnabled then .error ⟨400, "2FA is already enabled"⟩
  else
    match o.enrolment with
    | none => .error ⟨500, "internal error"⟩
    | some (encrypted, codes) => .ok (.secret encrypted codes)

/-- A code without its blanks and dashes. -/
def normalize (code : String) : String :=
  String.ofList (code.toList.filter fun c => c ≠ ' ' ∧ c ≠ '-')

def handleTOTPVerifySetup (user : User) (code : String) : Except Auth.Refusal Change :=
  if user.totpEnabled then .error ⟨400, "2FA is already enabled"⟩
  else if user.totpSecret = "" then .error ⟨400, "run setup first"⟩
  else
    match p.decrypt user.totpSecret with
    | none => .error ⟨500, "internal error"⟩
    | some secret =>
        if p.validateTOTP o.now secret (normalize code) then .ok .enable
        else .error ⟨401, "invalid code"⟩

def handleTOTPDisable (user : User) : Except Auth.Refusal Change :=
  if user.totpEnabled then .ok .disable else .error ⟨400, "2FA is not enabled"⟩

/-- What a handler makes of its user. -/
def Action.decision (user : User) : Action → Except Auth.Refusal Change
  | .changePassword current new =>
      (Accounts.changePassword p o user current new).mapError (·.refusal)
  | .totpSetup => handleTOTPSetup o user
  | .totpVerifySetup code => handleTOTPVerifySetup p o user code
  | .totpDisable => handleTOTPDisable user

/-- What is answered when the user is gone. -/
def Action.absent : Action → Auth.Refusal
  | .changePassword _ _ => AuthError.userNotFound.refusal
  | _ => Auth.unauthorized

/-- What a handler does after it has written the user back. -/
def Change.afterwards (user : User) : Change → EditPhase
  | .password _ | .enable => .ended (.ok ())
  | .secret _ codes => .clearing user codes
  | .disable => .clearing user []

/-- A handler has the user that the session check read; `ChangePassword` reads it again. -/
def Edit.next (db : DB) (e : Edit) : EditPhase × DB :=
  match e.phase with
  | .reading =>
      match db.getUserByID e.userID with
      | none => (.ended (.error e.action.absent), db)
      | some user => (.deciding user, db)
  | .deciding user =>
      match e.action.decision p o user with
      | .error refusal => (.ended (.error refusal), db)
      | .ok change => (.updating user change, db)
  | .updating user change => (change.afterwards user, db.updateUser (change.apply user))
  | .clearing user codes => (.inserting user codes, db.deleteUserRecoveryCodes user.id)
  | .inserting _ [] => (.ended (.ok ()), db)
  | .inserting user (hash :: codes) =>
      (.inserting user codes, db.insertRecoveryCode o.uuid user.id hash)
  | .ended result => (.ended result, db)

end Handlers

section Requests

/-- What a user may ask for once there are users. -/
inductive Request where
  | login (request : LoginRequest) (ip : String)
  | verify (session : Session) (code : String)
  | edit (userID : String) (action : Action)

inductive Job where
  | login (c : Login)
  | verify (v : Verify)
  | edit (e : Edit)

def request : Request → Job
  | .login request ip => .login ⟨request, ip, .reading⟩
  | .verify session code => .verify ⟨session, code, .reading⟩
  | .edit userID action => .edit ⟨userID, action, .reading⟩

def Job.next (p : Primitives) (cfg : Config) (o : Outside) (db : DB) : Job → Job × DB
  | .login c => (.login { c with phase := (c.next p cfg o db).1 }, (c.next p cfg o db).2)
  | .verify v => (.verify { v with phase := (v.next p cfg o db).1 }, (v.next p cfg o db).2)
  | .edit e => (.edit { e with phase := (e.next p o db).1 }, (e.next p o db).2)

end Requests

section Examples

/-- Hashes, codes and a cipher that show what they were made from. -/
def marked : Primitives where
  verifyPassword password hash := hash == "hash of " ++ password
  validateTOTP _ secret code := code == "code" ++ secret
  decrypt secret := some secret
  isUpper := Char.isUpper
  isLower := Char.isLower
  isDigit := Char.isDigit

/-- A step to which the outside has nothing to add. -/
def quiet : Outside :=
  { now := 0, uuid := "", tokenHash := "", csrfToken := "", hash := none, enrolment := none }

end Examples

end Accounts
