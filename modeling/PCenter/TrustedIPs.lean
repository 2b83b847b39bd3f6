import PCenter.Accounts

/-!
# Addresses that need no second factor

After `VerifyTOTPLogin` the address of the session is trusted for some hours, and a login from
there marks its session as verified. The entries are in a table of their own, which the
requests that enable and disable the second factor leave alone. A run is any order of the
statements of any number of requests, in particular one request after the other; the clock goes
forward. Who verified from where, and when the second factor was enabled, is recorded for the
statements only.
-/

namespace TrustedIPs

open Accounts Transition

section Runs

inductive Entry where
  | verified (userID ip : String) (time : Int)
  | enabled (userID : String)
  deriving DecidableEq, Repr

structure Shared where
  db : DB
  clock : Int
  /-- The newest entry first. -/
  history : List Entry

/-- The time that passes before a step, and what else the outside contributes to it. -/
structure Tick where
  elapsed : Nat
  outside : Outside

variable (p : Primitives) (cfg : Config)

def Shared.now (s : Shared) (t : Tick) : Int := s.clock + t.elapsed

/-- What the next statement adds to the history. -/
def entry (now : Int) : Job → List Entry
  | .verify ⟨session, _, .trusting user⟩ => [.verified user.id session.ipAddress now]
  | .edit ⟨_, _, .updating user .enable⟩ => [.enabled user.id]
  | _ => []

def advance (job : Job) (t : Tick) (s : Shared) : Option (Job × Shared × List Job) :=
  let done := job.next p cfg { t.outside with now := s.now t } s.db
  some (done.1, ⟨done.2, s.now t, entry (s.now t) job ++ s.history⟩, [])

abbrev World := Thread.World Job Shared

abbrev Move := Thread.Event Request Tick

abbrev go : World → Move → World := Thread.step (advance p cfg) request

def idle (db : DB) (clock : Int) : World := ⟨⟨db, clock, []⟩, [], false⟩

/-- The user and the address for which the next statement marks a session as verified. -/
def skips (db : DB) (now : Int) : Job → Option (String × String)
  | .login ⟨_, ip, .trusting user _⟩ =>
      if db.isTrustedIP user.id ip now ∧ cfg.totp.trustIPHours > 0 then some (user.id, ip)
      else none
  | _ => none

/-- The user passed the second factor from the address, in the last hours. -/
def Entry.Vouches (now : Int) (userID ip : String) : Entry → Prop
  | .verified u i time => u = userID ∧ i = ip ∧ time ≤ now ∧
      now < time + cfg.totp.trustIPHours * hour
  | .enabled _ => False

/-- The same, and since the second factor was last enabled. -/
def Vouched (s : Shared) (now : Int) (userID ip : String) : Prop :=
  ∃ e ∈ s.history.takeWhile (· ≠ .enabled userID), e.Vouches cfg now userID ip

/-- A login skips the second factor only from an address that passed it. -/
def SkipsVouched (w : World) (e : Move) : Prop :=
  ∀ t ∈ Thread.actor request w e, ∀ skipped ∈ skips cfg w.shared.db (w.shared.now t.2) t.1,
    Vouched cfg w.shared (w.shared.now t.2) skipped.1 skipped.2

/-- The user for whom the next statement enables the second factor. -/
def enables : Job → Option String
  | .edit ⟨_, _, .updating user .enable⟩ => some user.id
  | _ => none

/-- The second factor is enabled only when no address of the user is trusted any more. -/
def EnablesAfresh (w : World) (e : Move) : Prop :=
  ∀ t ∈ Thread.actor request w e, ∀ userID ∈ enables t.1, ∀ r ∈ w.shared.db.trustedIPs,
    r.userID = userID → r.expiresAt ≤ unix (w.shared.now t.2)

instance (now : Int) (userID ip : String) : (e : Entry) → Decidable (e.Vouches cfg now userID ip)
  | .verified _ _ _ => inferInstanceAs (Decidable (_ ∧ _ ∧ _ ∧ _))
  | .enabled _ => inferInstanceAs (Decidable False)

instance (s : Shared) (now : Int) (userID ip : String) : Decidable (Vouched cfg s now userID ip) :=
  inferInstanceAs (Decidable (∃ e ∈ s.history.takeWhile (· ≠ .enabled userID),
    e.Vouches cfg now userID ip))

instance (w : World) (e : Move) : Decidable (SkipsVouched cfg w e) :=
  inferInstanceAs (Decidable (∀ t ∈ Thread.actor request w e,
    ∀ skipped ∈ skips cfg w.shared.db (w.shared.now t.2) t.1,
      Vouched cfg w.shared (w.shared.now t.2) skipped.1 skipped.2))

instance (w : World) (e : Move) : Decidable (EnablesAfresh w e) :=
  inferInstanceAs (Decidable (∀ t ∈ Thread.actor request w e, ∀ userID ∈ enables t.1,
    ∀ r ∈ w.shared.db.trustedIPs, r.userID = userID → r.expiresAt ≤ unix (w.shared.now t.2)))

end Runs

section Statements

variable {p : Primitives} {cfg : Config}

/-- Every entry that has not expired was made by a call that succeeded since the user's second
factor was last enabled. -/
def Backed (cfg : Config) (s : Shared) : Prop :=
  ∀ r ∈ s.db.trustedIPs, unix s.clock < r.expiresAt →
    ∃ time ≤ s.clock, .verified r.userID r.ipAddress time ∈
        s.history.takeWhile (· ≠ .enabled r.userID) ∧
      r.expiresAt = unix (time + Auth.duration (cfg.totp.trustIPHours * hour))

theorem duration_le {n : Int} (nonneg : 0 ≤ n) : Auth.duration n ≤ n := by
  rw [Auth.duration, Int.bmod_def]
  split <;> omega

theorem unix_mono {a b : Int} (le : a ≤ b) : unix a ≤ unix b := by
  rw [unix, unix]
  omega

theorem lt_of_unix_lt {a b : Int} (lt : unix a < unix b) : a < b := by
  rw [unix, unix] at lt
  omega

theorem trustedIPs_next (job : Job) (o : Outside) (db : DB) :
    (job.next p cfg o db).2.trustedIPs = db.trustedIPs ∨
      ∃ session code user, job = .verify ⟨session, code, .trusting user⟩ ∧
        (job.next p cfg o db).2 =
          db.trustIP user.id session.ipAddress
            (o.now + Auth.duration (cfg.totp.trustIPHours * hour)) o.now := by
  cases job with
  | login c =>
      obtain ⟨request, ip, phase⟩ := c
      refine .inl ?_
      cases phase with
      | reading =>
          simp only [Job.next, Login.next]
          split <;> rfl
      | checking user =>
          simp only [Job.next, Login.next]
          split_ifs <;> rfl
      | locking user =>
          simp only [Job.next, Login.next]
          split <;> rfl
      | storing user session =>
          simp only [Job.next, Login.next, DB.createSession]
          split_ifs <;> rfl
      | incrementing | resetting | opening | trusting | touching | ended => rfl
  | verify v =>
      obtain ⟨session, code, phase⟩ := v
      cases phase with
      | reading =>
          refine .inl ?_
          simp only [Job.next, Verify.next]
          split
          · rfl
          · split <;> rfl
      | fetching user =>
          refine .inl ?_
          simp only [Job.next, Verify.next]
          split <;> rfl
      | trusting user =>
          by_cases off : cfg.totp.trustIPHours ≤ 0 ∨ session.ipAddress = ""
          · refine .inl ?_
            simp only [Job.next, Verify.next, trustIPAfterVerification, if_pos off]
          · refine .inr ⟨session, code, user, rfl, ?_⟩
            simp only [Job.next, Verify.next, trustIPAfterVerification, if_neg off]
      | consuming | marking | ended => exact .inl rfl
  | edit e =>
      obtain ⟨userID, action, phase⟩ := e
      refine .inl ?_
      cases phase with
      | reading =>
          simp only [Job.next, Edit.next]
          split <;> rfl
      | deciding user =>
          simp only [Job.next, Edit.next]
          split <;> rfl
      | inserting user codes => cases codes <;> rfl
      | updating | clearing | ended => rfl

theorem go_cases (w : World) (e : Move) :
    Thread.actor request w e = none ∧ go p cfg w e = w ∨
      ∃ job t, Thread.actor request w e = some (job, t) ∧
        (go p cfg w e).shared =
          ⟨(job.next p cfg { t.outside with now := w.shared.now t } w.shared.db).2,
            w.shared.now t, entry (w.shared.now t) job ++ w.shared.history⟩ := by
  rcases Thread.step_cases_of_total (advance p cfg) request (fun _ _ _ => (_, _))
    (fun _ _ _ => rfl) w e with same | ⟨job, t, before, after, acts, -, -, moved⟩
  · exact .inl same
  · refine .inr ⟨job, t, acts, ?_⟩
    rw [go, moved]

theorem enables_of_mem_entry {job : Job} {now : Int} {userID : String}
    (member : .enabled userID ∈ entry now job) : enables job = some userID := by
  unfold entry at member
  split at member
  · cases List.mem_singleton.mp member
  · cases List.mem_singleton.mp member
    rfl
  · cases member

/-- What the history says about a user since the second factor was enabled is still there after
a statement that does not enable it. -/
theorem mem_takeWhile_entry {job : Job} {now : Int} {history : List Entry} {userID : String}
    {e : Entry} (other : enables job ≠ some userID)
    (member : e ∈ history.takeWhile (· ≠ .enabled userID)) :
    e ∈ (entry now job ++ history).takeWhile (· ≠ .enabled userID) := by
  rw [List.takeWhile_append_of_pos]
  · exact List.mem_append_right _ member
  · intro x listed
    refine decide_eq_true fun same => other ?_
    rw [same] at listed
    exact enables_of_mem_entry listed

theorem mem_trustIP {db : DB} {userID ip : String} {expiresAt now : Int} {r : TrustedIP}
    (member : r ∈ (db.trustIP userID ip expiresAt now).trustedIPs) :
    r ∈ db.trustedIPs ∨ r.userID = userID ∧ r.ipAddress = ip ∧ r.expiresAt = unix expiresAt := by
  simp only [DB.trustIP] at member
  split at member
  · obtain ⟨old, stored, rfl⟩ := List.mem_map.mp member
    split
    · rename_i same
      exact .inr ⟨same.1, same.2, rfl⟩
    · exact .inl stored
  · rcases List.mem_append.mp member with earlier | new
    · exact .inl earlier
    · rw [List.mem_singleton.mp new]
      exact .inr ⟨rfl, rfl, rfl⟩

theorem backed_go {w : World} {e : Move} (backed : Backed cfg w.shared)
    (afresh : EnablesAfresh w e) : Backed cfg (go p cfg w e).shared := by
  rcases @go_cases p cfg w e with ⟨-, same⟩ | ⟨job, t, acts, moved⟩
  · rw [same]
    exact backed
  rw [moved]
  have later : w.shared.clock ≤ w.shared.now t := by
    rw [Shared.now]
    omega
  have kept : ∀ r ∈ w.shared.db.trustedIPs, unix (w.shared.now t) < r.expiresAt →
      ∃ time ≤ w.shared.now t, .verified r.userID r.ipAddress time ∈
          (entry (w.shared.now t) job ++ w.shared.history).takeWhile (· ≠ .enabled r.userID) ∧
        r.expiresAt = unix (time + Auth.duration (cfg.totp.trustIPHours * hour)) := by
    intro r stored live
    have before := unix_mono later
    obtain ⟨time, past, verified, until_⟩ := backed r stored (by omega)
    refine ⟨time, by omega, mem_takeWhile_entry (fun enabled => ?_) verified, until_⟩
    have expired := afresh _ acts r.userID enabled r stored rfl
    exact absurd live (not_lt.mpr expired)
  rcases @trustedIPs_next p cfg job { t.outside with now := w.shared.now t } w.shared.db with
    same | ⟨session, code, user, rfl, trusts⟩
  · intro r stored live
    exact kept r (same ▸ stored) live
  · intro r stored live
    simp only [trusts] at stored
    rcases mem_trustIP stored with earlier | ⟨own, address, until_⟩
    · exact kept r earlier live
    · rw [own, address]
      exact ⟨w.shared.now t, le_rfl, by simp [entry], until_⟩

theorem skipsVouched_of_backed {w : World} {e : Move} (backed : Backed cfg w.shared) :
    SkipsVouched cfg w e := by
  rintro ⟨job, t⟩ - ⟨userID, ip⟩ skipped
  simp only [skips] at skipped
  split at skipped
  · rename_i request ip' user session
    by_cases trusted : w.shared.db.isTrustedIP user.id ip' (w.shared.now t) = true ∧
        cfg.totp.trustIPHours > 0
    swap
    · rw [if_neg trusted] at skipped
      cases skipped
    rw [if_pos trusted] at skipped
    obtain ⟨rfl, rfl⟩ := Prod.mk.inj (Option.some.inj skipped)
    obtain ⟨r, stored, own⟩ := List.any_eq_true.mp trusted.1
    obtain ⟨own, address, live⟩ := of_decide_eq_true own
    have later : unix w.shared.clock ≤ unix (w.shared.now t) := by
      apply unix_mono
      rw [Shared.now]
      omega
    obtain ⟨time, past, verified, until_⟩ := backed r stored (by omega)
    rw [own, address] at verified
    refine ⟨_, verified, rfl, rfl, ?_, ?_⟩
    · rw [Shared.now]
      omega
    · have longest : Auth.duration (cfg.totp.trustIPHours * hour) ≤
          cfg.totp.trustIPHours * hour :=
        duration_le (Int.mul_nonneg (le_of_lt trusted.2) (by decide))
      have live : w.shared.now t < time + Auth.duration (cfg.totp.trustIPHours * hour) :=
        lt_of_unix_lt (by rw [← until_]; exact live)
      exact lt_of_lt_of_le live (Int.add_le_add_left longest time)
  · cases skipped

/-- If the second factor is enabled only when no address of the user is trusted any more, every
login that skips it comes from an address that has passed it since then, in the last hours. -/
theorem skips_vouched {db : DB} {clock : Int} {run : List Move} (fresh : db.trustedIPs = [])
    (afresh : Along (go p cfg) EnablesAfresh (idle db clock) run) :
    Along (go p cfg) (SkipsVouched cfg) (idle db clock) run := by
  have start : Backed cfg (idle db clock).shared := by
    intro r stored
    rw [show (idle db clock).shared.db.trustedIPs = [] from fresh] at stored
    cases stored
  have backed := invariant_along (fun w e backed afresh => @backed_go p cfg w e backed afresh)
    start afresh
  refine along_mono (fun w e both => ?_) (along_of_states backed)
  exact skipsVouched_of_backed both.1

end Statements

section Examples

def trusting : Config := { defaultConfig with totp := ⟨24⟩ }

def session : Session :=
  { id := "s-1", userID := "u-1", tokenHash := "s-1", csrfToken := "", totpVerified := false
    ipAddress := "10.0.0.9", createdAt := 0, expiresAt := 0, lastSeenAt := 0 }

/-- A user with the second factor enabled. -/
def enrolled : DB where
  users := [{ id := "u-1", username := "alice", email := "", passwordHash := "hash of Secret-1"
              role := "user", totpEnabled := true, totpSecret := "seed", failedAttempts := 0
              lockedUntil := none, lastLogin := none }]
  sessions := [session]
  recoveryCodes := []
  trustedIPs := []

/-- A tick for a request that takes no time. -/
def tick : Tick := ⟨0, { quiet with enrolment := some ("grain", []) }⟩

/-- A request whose statements no other interrupts. -/
def alone (i n : Nat) (q : Request) : List Move :=
  .begins q tick :: List.replicate n (.goes i tick)

def verifyAndLogin : List Move :=
  alone 0 3 (.verify session "codeseed") ++ alone 1 5 (.login ⟨"alice", "Secret-1"⟩ "10.0.0.9")

/-- The second factor is disabled after the verification, and enabled with a new secret. -/
def enrolledAgain : List Move :=
  alone 0 3 (.verify session "codeseed") ++ alone 1 4 (.edit "u-1" .totpDisable) ++
    alone 2 4 (.edit "u-1" .totpSetup) ++ alone 3 3 (.edit "u-1" (.totpVerifySetup "codegrain")) ++
    alone 4 5 (.login ⟨"alice", "Secret-1"⟩ "10.0.0.9")

theorem verified_address_skips :
    Along (go marked trusting) (SkipsVouched trusting) (idle enrolled 0) verifyAndLogin ∧
      (verifyAndLogin.foldl (go marked trusting) (idle enrolled 0)).shared.db.sessions.map
        (·.totpVerified) = [true, true] := by
  have afresh : Along (go marked trusting) EnablesAfresh (idle enrolled 0) verifyAndLogin := by
    decide +kernel
  exact ⟨skips_vouched rfl afresh, by decide +kernel⟩

/-- The address that passed with the old secret skips the new one. -/
theorem old_address_skips :
    ¬Along (go marked trusting) (SkipsVouched trusting) (idle enrolled 0) enrolledAgain := by
  decide +kernel

end Examples

end TrustedIPs
