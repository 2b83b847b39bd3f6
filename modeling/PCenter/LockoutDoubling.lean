import PCenter.SerialLogins

/-!
# The times of repeated locks

With progressive lockouts the configuration promises that a lock lasts twice as long as the one
before. The multiplier is taken from the failures beyond the limit, which a login divides by the
limit; they go on over the end of a lock, by one for each further lock. Every attempt of a run is
made when the last lock is over.
-/

namespace LockoutDoubling

open Accounts Transition
open Auth (duration)
open SerialLogins (Attempt advance_wrong advance_reaching advance_spared advance_locking)

/-- A lock as it is set: when, and until when. -/
structure Lock where
  since : Int
  until_ : Int
  deriving DecidableEq

def Lock.length (l : Lock) : Int := l.until_ - l.since

section Attempts

variable (p : Primitives) (cfg : Config) (username : String)

/-- The lock that the next step of the login sets. -/
def sets (c : Login) (o : Outside) : List Lock :=
  match c.phase with
  | .locking user =>
      ((lockoutDuration cfg.lockout user.failedAttempts).map fun d => ⟨o.now, o.now + d⟩).toList
  | _ => []

/-- A login beside the locks that it has set. -/
structure Progress where
  login : SerialLogins.Progress
  locks : List Lock

def advance (s : Progress) (o : Outside) : Progress :=
  ⟨SerialLogins.advance p cfg s.login o, s.locks ++ sets cfg s.login.login o⟩

def attempt (a : Attempt) (db : DB) : Progress :=
  a.turns.foldl (advance p cfg) ⟨⟨⟨⟨username, a.password⟩, a.ip, .reading⟩, db, false⟩, []⟩

/-- The tables, and the locks that the logins of a run have set. -/
structure World where
  db : DB
  locks : List Lock

def go (w : World) (a : Attempt) : World :=
  let ended := attempt p cfg username a w.db
  ⟨ended.login.db, w.locks ++ ended.locks⟩

/-- An attempt with a wrong password, when there is no lock or when it is over. -/
def Fails (w : World) (a : Attempt) : Prop :=
  ∃ row ∈ w.db.getUserByUsername username, a.locked row = false ∧ a.right p row = false

instance (w : World) (a : Attempt) : Decidable (Fails p username w a) :=
  inferInstanceAs (Decidable (∃ row ∈ w.db.getUserByUsername username, _ ∧ _))

/-- The locks that are to double. -/
def Doubles (cfg : LockoutConfig) (locks : List Lock) : Prop :=
  ∀ (k : ℕ) (l : Lock), locks[k]? = some l → l.length = 2 ^ k * (cfg.lockoutMinutes * minute)

end Attempts

section Statements

variable {p : Primitives} {cfg : Config} {username : String} {a : Attempt} {db : DB} {row : User}

theorem attempt_login (a : Attempt) (db : DB) :
    (attempt p cfg username a db).login = SerialLogins.attempt p cfg username a db := by
  have each : ∀ (os : List Outside) (s : Progress),
      (os.foldl (advance p cfg) s).login = os.foldl (SerialLogins.advance p cfg) s.login := by
    intro os
    induction os with
    | nil => exact fun _ => rfl
    | cons o os ih => exact fun s => ih (advance p cfg s o)
  exact each _ _

theorem foldl_ended {s : Progress} {result : Except AuthError (User × Session)}
    {os : List Outside} (ended : s.login.login.phase = .ended result) :
    os.foldl (advance p cfg) s = s := by
  induction os with
  | nil => rfl
  | cons o os ih =>
      have still : advance p cfg s o = s := by
        obtain ⟨login, locks⟩ := s
        have phase : login.login.phase = .ended result := ended
        have none_ : sets cfg login.login o = [] := by
          simp only [sets, phase]
        rw [advance, SerialLogins.advance_ended ended, none_, List.append_nil]
      rw [List.foldl_cons, still]
      exact ih

/-- The lock that a failure imposes, by the failures that are counted with it. -/
def imposed (cfg : LockoutConfig) (failed : Int) (now : Int) : List Lock :=
  if cfg.maxAttempts ≤ failed then
    ((lockoutDuration cfg failed).map fun d => ⟨now, now + d⟩).toList
  else []

theorem advance_eq {s : Progress} {o : Outside} {t : SerialLogins.Progress} {locks : List Lock}
    (next : SerialLogins.advance p cfg s.login o = t) (set : sets cfg s.login.login o = locks) :
    advance p cfg s o = ⟨t, s.locks ++ locks⟩ := by
  rw [advance, next, set]

theorem attempt_locks (found : db.getUserByUsername username = some row)
    (unlocked : a.locked row = false) (wrong : a.right p row = false)
    (limit : 0 < cfg.lockout.maxAttempts) :
    (attempt p cfg username a db).locks =
      imposed cfg.lockout (row.failedAttempts + 1) (a.outside 3).now := by
  have unlocked : row.locked (a.outside 1).now = false := unlocked
  have wrong : p.verifyPassword (⟨username, a.password⟩ : LoginRequest).password row.passwordHash =
      false := wrong
  have reads : SerialLogins.advance p cfg ⟨⟨⟨username, a.password⟩, a.ip, .reading⟩, db, false⟩
        (a.outside 0) = ⟨⟨⟨username, a.password⟩, a.ip, .checking row⟩, db, false⟩ := by
    simp [SerialLogins.advance, Login.next, Lockout.verifies, found]
  rw [attempt, SerialLogins.Attempt.turns, List.map_cons, List.foldl_cons, advance_eq reads rfl, List.map_cons,
    List.foldl_cons, advance_eq (advance_wrong unlocked wrong) rfl, List.map_cons,
    List.foldl_cons, imposed]
  by_cases most : cfg.lockout.maxAttempts ≤ row.failedAttempts + 1
  · have divides : ¬SerialLogins.Divides cfg.lockout := by
      rintro ⟨-, zero⟩
      omega
    obtain ⟨d, time⟩ := Option.isSome_iff_exists.mp
      (SerialLogins.lockoutDuration_isSome divides (row.failedAttempts + 1))
    rw [advance_eq (advance_reaching most) rfl, List.map_cons, List.foldl_cons,
      advance_eq (advance_locking time) rfl, foldl_ended rfl, if_pos most]
    rfl
  · rw [advance_eq (advance_spared most) rfl, foldl_ended rfl, if_neg most]
    rfl

end Statements

section Runs

variable {p : Primitives} {cfg : Config} {username : String} {a : Attempt} {w : World}
  {failed : Int}

/-- The failures in the table, and the locks that they have led to. -/
structure Counted (cfg : Config) (username : String) (failed : Int) (w : World) : Prop where
  row : ∃ row, w.db.getUserByUsername username = some row ∧ row.failedAttempts = failed
  number : w.locks.length = (failed + 1 - cfg.lockout.maxAttempts).toNat
  lengths : ∀ (k : ℕ) (l : Lock), w.locks[k]? = some l →
    lockoutDuration cfg.lockout (cfg.lockout.maxAttempts + k) = some l.length

/-- The last of the locks is the one of the last failure. -/
theorem counted_imposed {locks : List Lock} (now : Int) (limit : 0 < cfg.lockout.maxAttempts)
    (number : locks.length = (failed + 1 - cfg.lockout.maxAttempts).toNat)
    (lengths : ∀ (k : ℕ) (l : Lock), locks[k]? = some l →
      lockoutDuration cfg.lockout (cfg.lockout.maxAttempts + k) = some l.length) :
    (locks ++ imposed cfg.lockout (failed + 1) now).length =
        (failed + 1 + 1 - cfg.lockout.maxAttempts).toNat ∧
      ∀ (k : ℕ) (l : Lock), (locks ++ imposed cfg.lockout (failed + 1) now)[k]? = some l →
        lockoutDuration cfg.lockout (cfg.lockout.maxAttempts + k) = some l.length := by
  by_cases most : cfg.lockout.maxAttempts ≤ failed + 1
  · have divides : ¬SerialLogins.Divides cfg.lockout := by
      rintro ⟨-, zero⟩
      omega
    obtain ⟨d, time⟩ := Option.isSome_iff_exists.mp
      (SerialLogins.lockoutDuration_isSome divides (failed + 1))
    have one : imposed cfg.lockout (failed + 1) now = [⟨now, now + d⟩] := by
      rw [imposed, if_pos most, time]
      rfl
    rw [one]
    constructor
    · rw [List.length_append, List.length_singleton]
      omega
    · intro k l found
      by_cases old : k < locks.length
      · rw [List.getElem?_append_left old] at found
        exact lengths k l found
      · rw [List.getElem?_append_right (by omega)] at found
        obtain ⟨last, -⟩ := List.getElem?_eq_some_iff.mp found
        rw [List.length_singleton] at last
        have position : k = locks.length := by omega
        subst position
        rw [Nat.sub_self] at found
        obtain rfl := Option.some.inj found
        have failures : cfg.lockout.maxAttempts + (locks.length : Int) = failed + 1 := by omega
        rw [failures, time]
        change some d = some (now + d - now)
        exact congrArg some (by omega)
  · have none_ : imposed cfg.lockout (failed + 1) now = [] := by
      rw [imposed, if_neg most]
    rw [none_, List.append_nil]
    exact ⟨by omega, lengths⟩

theorem counted_go (limit : 0 < cfg.lockout.maxAttempts) (counted : Counted cfg username failed w)
    (fails : Fails p username w a) : Counted cfg username (failed + 1) (go p cfg username w a) := by
  obtain ⟨row, found, unlocked, wrong⟩ := fails
  obtain ⟨row', found', tally⟩ := counted.row
  obtain rfl := Option.some.inj (found.symm.trans found')
  obtain ⟨-, after, there, failure⟩ := @SerialLogins.attempt_wrong p cfg _ _ _ _ found unlocked wrong
  have locks := @attempt_locks p cfg _ _ _ _ found unlocked wrong limit
  rw [tally] at locks
  obtain ⟨number, lengths⟩ :=
    counted_imposed (a.outside 3).now limit counted.number counted.lengths
  constructor
  · refine ⟨after, ?_, ?_⟩
    · rw [go, attempt_login]
      exact there
    · rw [failure.counted, tally]
  · rw [go, locks]
    exact number
  · rw [go, locks]
    exact lengths

theorem counted_run (limit : 0 < cfg.lockout.maxAttempts) {run : List Attempt}
    (counted : Counted cfg username failed w)
    (fails : Along (go p cfg username) (Fails p username) w run) :
    Counted cfg username (failed + run.length) (run.foldl (go p cfg username) w) := by
  induction run generalizing w failed with
  | nil =>
      rw [List.length_nil, Int.natCast_zero, Int.add_zero]
      exact counted
  | cons a run ih =>
      have later := ih (counted_go limit counted fails.1) fails.2
      have sum : failed + ((a :: run).length : Int) = failed + 1 + run.length := by
        rw [List.length_cons]
        omega
      rw [sum]
      exact later

end Runs

section Lengths

/-- What a `time.Duration` can be. -/
def Fits (n : Int) : Prop := -2 ^ 63 ≤ n ∧ n < 2 ^ 63

instance (n : Int) : Decidable (Fits n) := inferInstanceAs (Decidable (_ ∧ _))

theorem duration_eq_iff {n d : Int} : duration n = d ↔ Fits d ∧ (2 ^ 64 : Int) ∣ d - n := by
  rw [duration, Int.bmod_eq_iff (by decide), Fits, and_assoc]
  exact Iff.rfl

theorem duration_mul (n c : Int) : duration (duration n * c) = duration (n * c) :=
  Int.bmod_mul_bmod

/-- The multiplier grows by one with every `maxAttempts` locks. -/
theorem lockoutDuration_eq {cfg : LockoutConfig} (progressive : cfg.progressive = true)
    (limit : 0 < cfg.maxAttempts) (k : ℕ) :
    lockoutDuration cfg (cfg.maxAttempts + k) =
      some (duration (cfg.lockoutMinutes * minute * (k / cfg.maxAttempts + 1))) := by
  have more : cfg.maxAttempts + (k : Int) - cfg.maxAttempts = k := by omega
  have zero : cfg.maxAttempts ≠ 0 := by omega
  by_cases beyond : cfg.progressive = true ∧ cfg.maxAttempts + (k : Int) > cfg.maxAttempts
  · simp only [lockoutDuration, if_pos beyond, if_neg zero, more]
    rw [Int.tdiv_eq_ediv_of_nonneg (Int.natCast_nonneg k), duration_mul]
  · have first : k = 0 := by
      have least : ¬cfg.maxAttempts + (k : Int) > cfg.maxAttempts := fun more =>
        beyond ⟨progressive, more⟩
      omega
    subst first
    simp only [lockoutDuration, if_neg beyond]
    rw [Int.natCast_zero, Int.zero_ediv, Int.zero_add, Int.mul_one]

variable {m x : Int}

/-- The time of the lock with a number, and the time that it is to have. -/
def Lasts (m x : Int) (k : ℕ) : Prop := duration (x * (k / m + 1)) = 2 ^ k * x

theorem lasts_zero_iff : Lasts m x 0 ↔ Fits x := by
  rw [Lasts, Int.natCast_zero, Int.zero_ediv, Int.zero_add, Int.mul_one, Int.pow_zero,
    Int.one_mul, duration_eq_iff, Int.sub_self]
  exact and_iff_left (Int.dvd_zero _)

/-- The second lock is doubled after one failure only. -/
theorem lasts_one_iff (limit : 0 < m) : Lasts m x 1 ↔ x = 0 ∨ m = 1 ∧ Fits (2 * x) := by
  rw [Lasts, Int.pow_one, duration_eq_iff]
  by_cases one : m = 1
  · subst one
    have multiplied : x * (((1 : ℕ) : Int) / 1 + 1) = 2 * x := by omega
    rw [multiplied, Int.sub_self]
    constructor
    · rintro ⟨fits, -⟩
      exact Or.inr ⟨rfl, fits⟩
    · rintro (rfl | ⟨-, fits⟩)
      · exact ⟨by decide, Int.dvd_zero _⟩
      · exact ⟨fits, Int.dvd_zero _⟩
  · have none_ : ((1 : ℕ) : Int) / m = 0 := Int.ediv_eq_zero_of_lt (by decide) (by omega)
    rw [none_, Int.zero_add, Int.mul_one]
    constructor
    · rintro ⟨fits, c, multiple⟩
      obtain ⟨low, high⟩ := fits
      exact Or.inl (by omega)
    · rintro (rfl | ⟨first, -⟩)
      · exact ⟨by decide, Int.dvd_zero _⟩
      · exact absurd first one

theorem lasts_two (lasts : Lasts 1 x 2) : x = 0 := by
  have multiplied : x * (((2 : ℕ) : Int) / 1 + 1) = 3 * x := by omega
  rw [Lasts, multiplied, duration_eq_iff] at lasts
  obtain ⟨⟨low, high⟩, c, multiple⟩ := lasts
  omega

end Lengths

section Main

variable {p : Primitives} {cfg : Config} {user : User} {db : DB}

/-- The locks of so many failures, as far as they double. -/
def Doubling (cfg : LockoutConfig) (failures : Int) : Prop :=
  cfg.lockoutMinutes = 0 ∨ failures < cfg.maxAttempts ∨
    Fits (cfg.lockoutMinutes * minute) ∧
      (failures = cfg.maxAttempts ∨
        cfg.maxAttempts = 1 ∧ failures = 2 ∧ Fits (2 * (cfg.lockoutMinutes * minute)))

theorem lasts_iff {cfg : LockoutConfig} {n : ℕ} {failures : Int} (limit : 0 < cfg.maxAttempts)
    (number : n = (failures + 1 - cfg.maxAttempts).toNat) :
    (∀ k < n, Lasts cfg.maxAttempts (cfg.lockoutMinutes * minute) k) ↔ Doubling cfg failures := by
  have minutes : cfg.lockoutMinutes * minute = 0 ↔ cfg.lockoutMinutes = 0 := by
    rw [minute]
    omega
  unfold Doubling
  constructor
  · intro lasts
    by_cases few : failures < cfg.maxAttempts
    · exact Or.inr (Or.inl few)
    · have fits := lasts_zero_iff.mp (lasts 0 (by omega))
      by_cases one : failures = cfg.maxAttempts
      · exact Or.inr (Or.inr ⟨fits, Or.inl one⟩)
      · rcases (lasts_one_iff limit).mp (lasts 1 (by omega)) with zero | ⟨single, twice⟩
        · exact Or.inl (minutes.mp zero)
        · by_cases two : failures = 2
          · exact Or.inr (Or.inr ⟨fits, Or.inr ⟨single, two, twice⟩⟩)
          · have third := lasts 2 (by omega)
            rw [single] at third
            exact Or.inl (minutes.mp (lasts_two third))
  · rintro (zero | few | ⟨fits, one | ⟨single, two, twice⟩⟩) k inside
    · rw [minutes.mpr zero, Lasts, Int.zero_mul, Int.mul_zero]
      rfl
    · omega
    · have first : k = 0 := by omega
      subst first
      exact lasts_zero_iff.mpr fits
    · have either : k = 0 ∨ k = 1 := by omega
      rcases either with rfl | rfl
      · exact lasts_zero_iff.mpr fits
      · exact (lasts_one_iff limit).mpr (Or.inr ⟨single, twice⟩)

/-- In a run of failures, none of which meets a lock, the locks double only as long as there are
one at most, or two with a limit of one failure, whatever the limit is. -/
theorem locks_double_iff (progressive : cfg.lockout.progressive = true)
    (limit : 1 ≤ cfg.lockout.maxAttempts)
    (known : db.getUserByUsername user.username = some user)
    (fresh : user.failedAttempts < cfg.lockout.maxAttempts) {run : List Attempt}
    (fails : Along (go p cfg user.username) (Fails p user.username) ⟨db, []⟩ run) :
    Doubles cfg.lockout (run.foldl (go p cfg user.username) ⟨db, []⟩).locks ↔
      Doubling cfg.lockout (user.failedAttempts + run.length) := by
  have start : Counted cfg user.username user.failedAttempts ⟨db, []⟩ := by
    constructor
    · exact ⟨user, known, rfl⟩
    · change 0 = _
      omega
    · intro k l found
      exact nomatch found
  have counted := counted_run limit start fails
  rw [← lasts_iff limit counted.number]
  constructor
  · intro doubles k inside
    have found := List.getElem?_eq_getElem inside
    have length := counted.lengths k _ found
    rw [lockoutDuration_eq progressive limit] at length
    rw [Lasts, Option.some.inj length]
    exact doubles k _ found
  · intro lasts k l found
    obtain ⟨inside, -⟩ := List.getElem?_eq_some_iff.mp found
    have length := counted.lengths k l found
    rw [lockoutDuration_eq progressive limit] at length
    rw [← Option.some.inj length]
    exact lasts k inside

/-- As many wrong passwords as there are minutes, each in its minute. -/
def wrongAt (minutes : List Int) : List Attempt :=
  minutes.map fun t => SerialLogins.tried "Secret-2" t ""

theorem first_lock_lasts :
    Doubles defaultConfig.lockout
      ((wrongAt [0, 0, 0, 0, 0]).foldl (go marked defaultConfig "alice")
        ⟨Lockout.onlyAlice, []⟩).locks := by
  apply (@locks_double_iff marked defaultConfig Lockout.alice Lockout.onlyAlice rfl (by decide)
    (by decide +kernel) (by decide) (wrongAt [0, 0, 0, 0, 0]) (by decide +kernel)).mpr
  exact Or.inr (Or.inr ⟨by decide, Or.inl rfl⟩)

/-- The failure after the first lock locks for a quarter of an hour once more. -/
theorem second_lock_same :
    Along (go marked defaultConfig "alice") (Fails marked "alice") ⟨Lockout.onlyAlice, []⟩
        (wrongAt [0, 0, 0, 0, 0, 15]) ∧
      ¬Doubles defaultConfig.lockout
        ((wrongAt [0, 0, 0, 0, 0, 15]).foldl (go marked defaultConfig "alice")
          ⟨Lockout.onlyAlice, []⟩).locks := by
  refine ⟨by decide +kernel, fun doubles => ?_⟩
  have second : ((wrongAt [0, 0, 0, 0, 0, 15]).foldl (go marked defaultConfig "alice")
      ⟨Lockout.onlyAlice, []⟩).locks[1]? = some ⟨15 * minute, 30 * minute⟩ := by
    decide +kernel
  exact absurd (doubles 1 _ second) (by decide)

end Main

end LockoutDoubling
