import PCenter.Accounts

/-!
# What is written to a user

`UpdateUser` writes the whole row back from the copy that a request read when it began, while
the bookkeeping of the logins updates single columns. A run is any order of the statements of
any number of logins and of requests that change a password or the second factor. Beside the
table stands the one that the requests meant, where each has changed its own columns only; it
is there for the statements alone.
-/

namespace UserUpdates

open Accounts Transition

section Columns

/-- The columns that a password, the second factor and the lockout are kept in. -/
structure Columns where
  passwordHash : String
  totpEnabled : Bool
  totpSecret : String
  failedAttempts : Int
  lockedUntil : Option Int
  deriving DecidableEq, Repr

def columns (u : User) : Columns :=
  ⟨u.passwordHash, u.totpEnabled, u.totpSecret, u.failedAttempts, u.lockedUntil⟩

/-- The copy still has what the row has in the columns that the change is not meant for. -/
def Spares (u row : User) : Change → Prop
  | .password _ => u.totpEnabled = row.totpEnabled ∧ u.totpSecret = row.totpSecret ∧
      u.failedAttempts = row.failedAttempts ∧ u.lockedUntil = row.lockedUntil
  | .secret _ _ => u.passwordHash = row.passwordHash ∧ u.totpEnabled = row.totpEnabled ∧
      u.failedAttempts = row.failedAttempts ∧ u.lockedUntil = row.lockedUntil
  | .enable => u.passwordHash = row.passwordHash ∧ u.totpSecret = row.totpSecret ∧
      u.failedAttempts = row.failedAttempts ∧ u.lockedUntil = row.lockedUntil
  | .disable => u.passwordHash = row.passwordHash ∧ u.failedAttempts = row.failedAttempts ∧
      u.lockedUntil = row.lockedUntil

instance (u row : User) : (change : Change) → Decidable (Spares u row change)
  | .password _ | .secret _ _ | .enable => inferInstanceAs (Decidable (_ ∧ _ ∧ _ ∧ _))
  | .disable => inferInstanceAs (Decidable (_ ∧ _ ∧ _))

theorem columns_apply_iff {u row : User} {change : Change} :
    columns (change.apply u) = columns (change.apply row) ↔ Spares u row change := by
  cases change <;> simp [columns, Change.apply, Spares]

/-- What becomes of the columns depends on the columns. -/
def Respects (f : User → User) : Prop :=
  ∀ u v, columns u = columns v → columns (f u) = columns (f v)

theorem respects_apply (change : Change) : Respects change.apply := by
  intro u v same
  simp only [columns, Columns.mk.injEq] at same
  obtain ⟨hash, enabled, secret, failed, locked⟩ := same
  cases change <;> simp [columns, Change.apply, hash, enabled, secret, failed, locked]

def setRow (id : String) (f : User → User) (u : User) : User := if u.id = id then f u else u

theorem columns_setRow_iff {f g : User → User} {id : String} {rows meant : List User}
    (respects : Respects g) (keys : rows.map (·.id) = meant.map (·.id))
    (same : rows.map columns = meant.map columns) :
    (rows.map (setRow id f)).map columns = (meant.map (setRow id g)).map columns ↔
      ∀ row ∈ rows, row.id = id → columns (f row) = columns (g row) := by
  induction rows generalizing meant with
  | nil =>
      obtain rfl : meant = [] := List.map_eq_nil_iff.mp keys.symm
      simp
  | cons row rows ih =>
      obtain _ | ⟨other, meant⟩ := meant
      · cases keys
      · obtain ⟨key, keys⟩ := List.cons.inj keys
        obtain ⟨first, same⟩ := List.cons.inj same
        simp only [List.map_cons, List.cons.injEq, ih keys same, List.forall_mem_cons]
        refine and_congr_left fun _ => ?_
        have key : row.id = other.id := key
        rw [setRow, setRow, ← key]
        by_cases here : row.id = id
        · rw [if_pos here, if_pos here, ← respects row other first]
          exact (imp_iff_right here).symm
        · rw [if_neg here, if_neg here]
          exact iff_of_true first fun absurd_ => absurd absurd_ here

theorem keys_setRow {f : User → User} {id : String} {rows : List User}
    (key : ∀ u, u.id = id → (f u).id = id) :
    (rows.map (setRow id f)).map (·.id) = rows.map (·.id) := by
  rw [List.map_map]
  apply List.map_congr_left
  intro u _
  rw [Function.comp_apply, setRow]
  split
  · rename_i here
    exact (key u here).trans here.symm
  · rfl

end Columns

section Runs

structure Shared where
  db : DB
  /-- The users as the requests meant them. -/
  meant : List User

variable (p : Primitives) (cfg : Config) (o : Outside)

/-- The copy that the next statement writes back, and the change that it is for. -/
def writesBack : Job → Option (User × Change)
  | .edit ⟨_, _, .updating user change⟩ => some (user, change)
  | _ => none

/-- The row and what the next statement is meant to make of it. -/
def means : Job → Option (String × (User → User))
  | .login ⟨_, _, .incrementing user⟩ =>
      some (user.id, fun u => { u with failedAttempts := u.failedAttempts + 1 })
  | .login ⟨_, _, .locking user⟩ =>
      (lockoutDuration cfg.lockout user.failedAttempts).map fun duration =>
        (user.id, fun u => { u with lockedUntil := some (unix (o.now + duration)) })
  | .login ⟨_, _, .resetting user⟩ =>
      some (user.id, fun u => { u with failedAttempts := 0, lockedUntil := none })
  | .login ⟨_, _, .touching user _⟩ =>
      some (user.id, fun u => { u with lastLogin := some (unix o.now) })
  | .edit ⟨_, _, .updating user change⟩ => some (user.id, change.apply)
  | _ => none

def meant (users : List User) (job : Job) : List User :=
  match means cfg o job with
  | none => users
  | some (id, f) => users.map (setRow id f)

variable {o} in
def advance (job : Job) (o : Outside) (s : Shared) : Option (Job × Shared × List Job) :=
  some ((job.next p cfg o s.db).1, ⟨(job.next p cfg o s.db).2, meant cfg o s.meant job⟩, [])

abbrev World := Thread.World Job Shared

abbrev Move := Thread.Event Request Outside

abbrev go : World → Move → World := Thread.step (advance p cfg) request

def idle (db : DB) : World := ⟨⟨db, db.users⟩, [], false⟩

/-- Every column has what the last request that was meant to change it made of it. -/
def NothingLost (w : World) : Prop :=
  w.shared.db.users.map columns = w.shared.meant.map columns

/-- A copy is written back only while the row has not changed in the other columns. -/
def WritesBackCurrent (w : World) (e : Move) : Prop :=
  ∀ t ∈ Thread.actor request w e, ∀ written ∈ writesBack t.1, ∀ row ∈ w.shared.db.users,
    row.id = written.1.id → Spares written.1 row written.2

instance (w : World) : Decidable (NothingLost w) := inferInstanceAs (Decidable (_ = _))

instance (w : World) (e : Move) : Decidable (WritesBackCurrent w e) :=
  inferInstanceAs (Decidable (∀ t ∈ Thread.actor request w e, ∀ written ∈ writesBack t.1,
    ∀ row ∈ w.shared.db.users, row.id = written.1.id → Spares written.1 row written.2))

end Runs

section Statements

variable {p : Primitives} {cfg : Config} {o : Outside}

/-- What `UpdateUser` makes of a row. -/
def written (user : User) (change : Change) (row : User) : User :=
  { change.apply user with username := row.username }

theorem users_next (job : Job) (db : DB) :
    (writesBack job = none ∧ means cfg o job = none ∧ (job.next p cfg o db).2.users = db.users) ∨
    (∃ id f, writesBack job = none ∧ means cfg o job = some (id, f) ∧ Respects f ∧
      (∀ u : User, (f u).id = u.id) ∧
      (job.next p cfg o db).2.users = db.users.map (setRow id f)) ∨
    ∃ user change, writesBack job = some (user, change) ∧
      means cfg o job = some (user.id, change.apply) ∧
      (job.next p cfg o db).2.users = db.users.map (setRow user.id (written user change)) := by
  cases job with
  | login c =>
      obtain ⟨request, ip, phase⟩ := c
      cases phase with
      | reading =>
          refine .inl ⟨rfl, rfl, ?_⟩
          simp only [Job.next, Login.next]
          split <;> rfl
      | checking user =>
          refine .inl ⟨rfl, rfl, ?_⟩
          simp only [Job.next, Login.next]
          split_ifs <;> rfl
      | incrementing user =>
          refine .inr (.inl ⟨user.id, _, rfl, rfl, ?_, fun _ => rfl, rfl⟩)
          intro u v same
          simp only [columns, Columns.mk.injEq] at same ⊢
          simp [same]
      | locking user =>
          cases time : lockoutDuration cfg.lockout user.failedAttempts with
          | none =>
              refine .inl ⟨rfl, ?_, ?_⟩
              · simp only [means, time, Option.map_none]
              · simp only [Job.next, Login.next, time]
          | some duration =>
              refine .inr (.inl ⟨user.id, fun u => { u with
                lockedUntil := some (unix (o.now + duration)) }, rfl, ?_, ?_, fun _ => rfl, ?_⟩)
              · simp only [means, time, Option.map_some]
              · intro u v same
                simp only [columns, Columns.mk.injEq] at same ⊢
                simp [same]
              · simp only [Job.next, Login.next, time]
                rfl
      | resetting user =>
          refine .inr (.inl ⟨user.id, _, rfl, rfl, ?_, fun _ => rfl, rfl⟩)
          intro u v same
          simp only [columns, Columns.mk.injEq] at same ⊢
          simp [same]
      | storing user session =>
          refine .inl ⟨rfl, rfl, ?_⟩
          simp only [Job.next, Login.next, DB.createSession]
          split_ifs <;> rfl
      | touching user session =>
          exact .inr (.inl ⟨user.id, _, rfl, rfl, fun _ _ same => same, fun _ => rfl, rfl⟩)
      | opening | trusting | ended => exact .inl ⟨rfl, rfl, rfl⟩
  | verify v =>
      obtain ⟨session, code, phase⟩ := v
      refine .inl ⟨rfl, rfl, ?_⟩
      cases phase with
      | reading =>
          simp only [Job.next, Verify.next]
          split
          · rfl
          · split <;> rfl
      | fetching user =>
          simp only [Job.next, Verify.next]
          split <;> rfl
      | trusting user =>
          simp only [Job.next, Verify.next, trustIPAfterVerification]
          split <;> rfl
      | consuming | marking | ended => rfl
  | edit e =>
      obtain ⟨userID, action, phase⟩ := e
      cases phase with
      | reading =>
          refine .inl ⟨rfl, rfl, ?_⟩
          simp only [Job.next, Edit.next]
          split <;> rfl
      | deciding user =>
          refine .inl ⟨rfl, rfl, ?_⟩
          simp only [Job.next, Edit.next]
          split <;> rfl
      | updating user change =>
          refine .inr (.inr ⟨user, change, rfl, rfl, ?_⟩)
          cases change <;> rfl
      | inserting user codes => cases codes <;> exact .inl ⟨rfl, rfl, rfl⟩
      | clearing | ended => exact .inl ⟨rfl, rfl, rfl⟩

theorem go_cases (w : World) (e : Move) :
    Thread.actor request w e = none ∧ go p cfg w e = w ∨
      ∃ job o, Thread.actor request w e = some (job, o) ∧
        (go p cfg w e).shared =
          ⟨(job.next p cfg o w.shared.db).2, meant cfg o w.shared.meant job⟩ := by
  rcases Thread.step_cases_of_total (advance p cfg) request (fun _ _ _ => (_, _))
    (fun _ _ _ => rfl) w e with same | ⟨job, o, before, after, acts, -, -, moved⟩
  · exact .inl same
  · refine .inr ⟨job, o, acts, ?_⟩
    rw [go, moved]

/-- Both tables have the same rows. -/
def SameKeys (w : World) : Prop :=
  w.shared.db.users.map (·.id) = w.shared.meant.map (·.id)

theorem id_apply (change : Change) (u : User) : (change.apply u).id = u.id := by
  cases change <;> rfl

theorem id_written (user : User) (change : Change) (row : User) :
    (written user change row).id = user.id := id_apply change user

theorem sameKeys_go {w : World} {e : Move} (same : SameKeys w) : SameKeys (go p cfg w e) := by
  rcases @go_cases p cfg w e with ⟨-, kept⟩ | ⟨job, o, -, moved⟩
  · rw [kept]
    exact same
  rw [SameKeys, moved]
  rcases @users_next p cfg o job w.shared.db with ⟨-, means, users⟩ |
    ⟨id, f, -, means, -, key, users⟩ | ⟨user, change, -, means, users⟩
  · simp only [meant, means, users]
    exact same
  · simp only [meant, means, users]
    rw [keys_setRow fun u here => (key u).trans here,
      keys_setRow fun u here => (key u).trans here]
    exact same
  · simp only [meant, means, users]
    rw [keys_setRow fun u _ => id_written user change u,
      keys_setRow fun u here => (id_apply change u).trans here]
    exact same

theorem nothingLost_go_iff {w : World} {e : Move} (keys : SameKeys w) (kept : NothingLost w) :
    NothingLost (go p cfg w e) ↔ WritesBackCurrent w e := by
  rcases @go_cases p cfg w e with ⟨idle, same⟩ | ⟨job, o, acts, moved⟩
  · rw [same]
    refine iff_of_true kept ?_
    rw [WritesBackCurrent, idle]
    intro t member
    cases member
  have current : WritesBackCurrent w e ↔ ∀ written ∈ writesBack job,
      ∀ row ∈ w.shared.db.users, row.id = written.1.id → Spares written.1 row written.2 := by
    rw [WritesBackCurrent, acts]
    constructor
    · exact fun all => all _ rfl
    · intro each t member
      rw [← Option.some.inj member]
      exact each
  rw [current, NothingLost, moved]
  rcases @users_next p cfg o job w.shared.db with ⟨writes, means, users⟩ |
    ⟨id, f, writes, means, respects, -, users⟩ | ⟨user, change, writes, means, users⟩
  · simp only [meant, means, users, writes]
    exact iff_of_true kept fun _ member => by cases member
  · simp only [meant, means, users, writes, columns_setRow_iff respects keys kept]
    exact iff_of_true (fun _ _ _ => trivial) fun _ member => by cases member
  · simp only [meant, means, users, writes,
      columns_setRow_iff (respects_apply change) keys kept]
    constructor
    · intro each written member row stored key
      obtain rfl := Option.some.inj member
      exact columns_apply_iff.mp (each row stored key)
    · exact fun all row stored key => columns_apply_iff.mpr (all _ rfl row stored key)

/-- No update is lost, exactly if copies are written back only while the other columns of the
row are as they were read. -/
theorem nothing_lost_iff {db : DB} {run : List Move} :
    (∀ w ∈ states (go p cfg) (idle db) run, NothingLost w) ↔
      Along (go p cfg) WritesBackCurrent (idle db) run := by
  refine @invariant_iff_along_within World Move (go p cfg) WritesBackCurrent SameKeys NothingLost
    (idle db) run ?_ ?_ rfl rfl
  · exact fun w e _ keys => sameKeys_go keys
  · exact fun w e _ keys kept => nothingLost_go_iff keys kept

end Statements

section Races

/-- A user who has set the second factor up and not yet enabled it. -/
def almostEnrolled : DB where
  users := [{ id := "u-1", username := "alice", email := "", passwordHash := "hash of Secret-1"
              role := "user", totpEnabled := false, totpSecret := "seed", failedAttempts := 0
              lockedUntil := none, lastLogin := none }]
  sessions := []
  recoveryCodes := []
  trustedIPs := []

def drawn : Outside := { quiet with hash := some "hash of Secret-2" }

/-- The password is changed while the second factor is enabled. -/
def atOnce : List Move :=
  [.begins (.edit "u-1" (.changePassword "Secret-1" "Secret-2")) drawn,
    .begins (.edit "u-1" (.totpVerifySetup "codeseed")) quiet, .goes 0 drawn, .goes 1 quiet,
    .goes 1 quiet, .goes 0 drawn]

/-- The second factor is off again, although nobody has disabled it. -/
theorem second_factor_lost :
    ¬∀ w ∈ states (go marked defaultConfig) (idle almostEnrolled) atOnce, NothingLost w := by
  decide +kernel

end Races

end UserUpdates
