import PCenter.Accounts

/-!
# Wrong passwords before the lock

`Login` decides about the lock on the number of failures that it read before it compared the
password, while the failures in the table are counted by the database. A run is any order of
the statements of any number of logins. Which passwords were compared and when the lock was set
is recorded for the statements only.
-/

namespace Lockout

open Accounts Transition

section Runs

inductive Mark where
  | verified
  | locked
  deriving DecidableEq, Repr

structure Shared where
  db : DB
  log : List Mark

variable (p : Primitives) (cfg : Config)

def request (q : LoginRequest × String) : Login := ⟨q.1, q.2, .reading⟩

/-- The next step of the login compares its password. -/
def verifies (c : Login) (now : Int) : Bool :=
  match c.phase with
  | .checking user => !user.locked now
  | _ => false

/-- The next step of the login sets the lock. -/
def locks (c : Login) : Bool :=
  match c.phase with
  | .locking user => (lockoutDuration cfg.lockout user.failedAttempts).isSome
  | _ => false

def marks (c : Login) (now : Int) : List Mark :=
  if verifies c now then [.verified] else if locks cfg c then [.locked] else []

def advance (c : Login) (o : Outside) (s : Shared) : Option (Login × Shared × List Login) :=
  some ({ c with phase := (c.next p cfg o s.db).1 },
    ⟨(c.next p cfg o s.db).2, s.log ++ marks cfg c o.now⟩, [])

abbrev World := Thread.World Login Shared

abbrev Move := Thread.Event (LoginRequest × String) Outside

abbrev go : World → Move → World := Thread.step (advance p cfg) request

def idle (db : DB) : World := ⟨⟨db, []⟩, [], false⟩

/-- The passwords that were compared before the lock. -/
def attempts : List Mark → Nat
  | [] => 0
  | .verified :: log => attempts log + 1
  | .locked :: _ => 0

def Bounded (w : World) : Prop := attempts w.shared.log ≤ cfg.lockout.maxAttempts.toNat

/-- The login has compared its password, and the failure is not counted yet. -/
def Login.uncounted (c : Login) : Bool :=
  match c.phase with
  | .incrementing _ => true
  | _ => false

/-- A password is compared before the lock only while the failures in the table and those
that are still to be counted leave an attempt. -/
def Counted (w : World) (e : Move) : Prop :=
  ∀ t ∈ Thread.actor request w e, verifies t.1 t.2.now = true → .locked ∉ w.shared.log →
    ∀ row ∈ w.shared.db.getUserByUsername t.1.request.username,
      row.failedAttempts + w.pool.countP Login.uncounted < cfg.lockout.maxAttempts

instance (w : World) : Decidable (Bounded cfg w) := inferInstanceAs (Decidable (_ ≤ _))

instance (w : World) (e : Move) : Decidable (Counted cfg w e) :=
  inferInstanceAs (Decidable (∀ t ∈ Thread.actor request w e, verifies t.1 t.2.now = true →
    .locked ∉ w.shared.log → ∀ row ∈ w.shared.db.getUserByUsername t.1.request.username,
      row.failedAttempts + w.pool.countP Login.uncounted < cfg.lockout.maxAttempts))

/-- A request for the user with a password that is not the user's. -/
def Wrong (user : User) : Move → Prop
  | .begins q _ =>
      q.1.username = user.username ∧ p.verifyPassword q.1.password user.passwordHash = false
  | .goes _ _ => True

instance (user : User) : (e : Move) → Decidable (Wrong p user e)
  | .begins q _ => inferInstanceAs (Decidable
      (q.1.username = user.username ∧ p.verifyPassword q.1.password user.passwordHash = false))
  | .goes _ _ => inferInstanceAs (Decidable True)

end Runs

section Log

variable {log : List Mark}

theorem attempts_append_verified :
    attempts (log ++ [.verified]) = attempts log + if .locked ∈ log then 0 else 1 := by
  induction log with
  | nil => rfl
  | cons mark log ih =>
      cases mark with
      | verified =>
          simp only [List.cons_append, attempts, ih, List.mem_cons, reduceCtorEq, false_or]
          omega
      | locked => simp [attempts]

theorem attempts_append_locked : attempts (log ++ [.locked]) = attempts log := by
  induction log with
  | nil => rfl
  | cons mark log ih =>
      cases mark with
      | verified => exact congrArg (· + 1) ih
      | locked => rfl

end Log

section Attempts

variable {p : Primitives} {cfg : Config} {user : User}

theorem getUserByUsername_setUser {db : DB} {id name : String} {f : User → User}
    (same : ∀ u, (f u).username = u.username) :
    (db.setUser id f).getUserByUsername name =
      (db.getUserByUsername name).map fun u => if u.id = id then f u else u := by
  rw [DB.getUserByUsername, DB.setUser, List.find?_map]
  apply congrArg
  apply congrArg (List.find? · db.users)
  funext u
  by_cases here : u.id = id
  · simp [here, same]
  · simp [here]

/-- What a login for the user with a wrong password can have become. -/
def Fails (p : Primitives) (user : User) (c : Login) : Prop :=
  c.request.username = user.username ∧
    p.verifyPassword c.request.password user.passwordHash = false ∧
    match c.phase with
    | .checking u | .incrementing u | .locking u =>
        u.id = user.id ∧ u.passwordHash = user.passwordHash
    | .reading | .ended _ => True
    | _ => False

/-- The user's row, with as many failures as passwords were compared and counted. -/
def Tallied (user : User) (pool : List Login) (s : Shared) : Prop :=
  ∃ row, s.db.getUserByUsername user.username = some row ∧ row.id = user.id ∧
    row.passwordHash = user.passwordHash ∧
    (.locked ∉ s.log → (attempts s.log : Int) = row.failedAttempts + pool.countP Login.uncounted)

structure Tracked (p : Primitives) (user : User) (w : World) : Prop where
  fails : ∀ c ∈ w.pool, Fails p user c
  tallied : Tallied user w.pool w.shared

/-- A statement of such a login: whether a failure is to be counted before and after it, the
tables that it leaves, and what is recorded. -/
inductive Does (user : User) (db : DB) : Bool → Bool → DB → List Mark → Prop where
  | nothing : Does user db false false db []
  | verified : Does user db false true db [.verified]
  | counted : Does user db true false (db.incrementFailedAttempts user.id) []
  | locked (until_ : Int) : Does user db false false (db.lockUser user.id until_) [.locked]

theorem next_cases {c : Login} {o : Outside} {db : DB} {row : User} (fails : Fails p user c)
    (found : db.getUserByUsername user.username = some row) (own : row.id = user.id)
    (hash : row.passwordHash = user.passwordHash) :
    ∃ phase db', c.next p cfg o db = (phase, db') ∧ Fails p user { c with phase := phase } ∧
      Does user db (Login.uncounted c) (Login.uncounted { c with phase := phase }) db'
        (marks cfg c o.now) := by
  obtain ⟨request, ip, phase⟩ := c
  obtain ⟨named, wrong, held⟩ := fails
  cases phase with
  | reading =>
      have read : db.getUserByUsername request.username = some row := by
        rw [← found]
        exact congrArg _ named
      exact ⟨.checking row, db, by simp only [Login.next, read], ⟨named, wrong, own, hash⟩,
        .nothing⟩
  | checking u =>
      cases locked : u.locked o.now with
      | true =>
          refine ⟨.ended (.error .accountLocked), db, ?_, ⟨named, wrong, trivial⟩, ?_⟩
          · simp only [Login.next, locked, if_true]
          · simp only [marks, verifies, locks, locked]
            exact .nothing
      | false =>
          have refused : p.verifyPassword request.password u.passwordHash = false := by
            rw [held.2]
            exact wrong
          refine ⟨.incrementing u, db, ?_, ⟨named, wrong, held⟩, ?_⟩
          · simp [Login.next, locked, refused]
          · simp only [marks, verifies, locked]
            exact .verified
  | incrementing u =>
      have does := @Does.counted user db
      rw [← held.1] at does
      by_cases most : u.failedAttempts + 1 ≥ cfg.lockout.maxAttempts
      · refine ⟨.locking { u with failedAttempts := u.failedAttempts + 1 }, _, ?_,
          ⟨named, wrong, held⟩, does⟩
        simp only [Login.next, if_pos most]
      · refine ⟨.ended (.error .invalidCredentials), _, ?_, ⟨named, wrong, trivial⟩, does⟩
        simp only [Login.next, if_neg most]
  | locking u =>
      cases time : lockoutDuration cfg.lockout u.failedAttempts with
      | none =>
          refine ⟨.ended (.error .panicked), db, ?_, ⟨named, wrong, trivial⟩, ?_⟩
          · simp only [Login.next, time]
          · simp only [marks, verifies, locks, time]
            exact .nothing
      | some duration =>
          have does := @Does.locked user db (o.now + duration)
          rw [← held.1] at does
          refine ⟨.ended (.error .invalidCredentials), db.lockUser u.id (o.now + duration), ?_,
            ⟨named, wrong, trivial⟩, ?_⟩
          · simp only [Login.next, time]
          · simp only [marks, verifies, locks, time]
            exact does
  | ended result => exact ⟨.ended result, db, rfl, ⟨named, wrong, trivial⟩, .nothing⟩
  | resetting | opening | trusting | storing | touching => exact held.elim

theorem fails_request {q : LoginRequest × String} {o : Outside}
    (wrong : Wrong p user (.begins q o)) : Fails p user (request q) :=
  ⟨wrong.1, wrong.2, trivial⟩

theorem countP_called {w : World} {e : Move} :
    (Thread.called request w e).countP Login.uncounted = w.pool.countP Login.uncounted :=
  Thread.countP_called fun _ => rfl

theorem fails_called {w : World} {e : Move} (tracked : Tracked p user w) (wrong : Wrong p user e) :
    ∀ c ∈ Thread.called request w e, Fails p user c := by
  apply Thread.forall_called
  · rintro q o rfl
    exact fails_request wrong
  · exact tracked.fails

theorem go_cases {w : World} {e : Move} (tracked : Tracked p user w) (wrong : Wrong p user e) :
    Thread.actor request w e = none ∧ go p cfg w e = w ∨
      ∃ c o before after phase db', Thread.actor request w e = some (c, o) ∧
        Thread.called request w e = before ++ c :: after ∧ Fails p user { c with phase := phase } ∧
        Does user w.shared.db (Login.uncounted c) (Login.uncounted { c with phase := phase }) db'
          (marks cfg c o.now) ∧
        go p cfg w e =
          ⟨⟨db', w.shared.log ++ marks cfg c o.now⟩, before ++ { c with phase := phase } :: after,
            false⟩ := by
  rcases Thread.step_cases (advance p cfg) request w e with ⟨idle, same⟩ |
    ⟨c, o, before, after, acts, -, turn, ⟨stuck, -⟩ | ⟨c', s, new, advanced, moved⟩⟩
  · exact .inl ⟨idle, same⟩
  · cases stuck
  · have split := turn.called_eq
    have fails : Fails p user c := fails_called tracked wrong c (by simp [split])
    obtain ⟨row, found, own, hash, -⟩ := tracked.tallied
    obtain ⟨phase, db', next, later, does⟩ := @next_cases p cfg user c o _ row fails found own hash
    obtain ⟨rfl, rfl, rfl⟩ : { c with phase := phase } = c' ∧
        ⟨db', w.shared.log ++ marks cfg c o.now⟩ = s ∧ [] = new := by
      simpa [advance, next] using advanced
    refine .inr ⟨c, o, before, after, phase, db', acts, split, later, does, ?_⟩
    rw [go, moved, List.append_nil]

theorem tallied_does {s : Shared} {before after : List Login} {c c' : Login} {db' : DB}
    {new : List Mark} (tallied : Tallied user (before ++ c :: after) s)
    (does : Does user s.db (Login.uncounted c) (Login.uncounted c') db' new) :
    Tallied user (before ++ c' :: after) ⟨db', s.log ++ new⟩ := by
  obtain ⟨row, found, own, hash, count⟩ := tallied
  rw [Thread.countP_middle, List.countP_singleton] at count
  rw [Tallied]
  simp only [Thread.countP_middle Login.uncounted before after c', List.countP_singleton]
  generalize Login.uncounted c = first at does count
  generalize Login.uncounted c' = second at does
  generalize (before ++ after).countP Login.uncounted = others at count ⊢
  cases does with
  | nothing => exact ⟨row, found, own, hash, by simpa using count⟩
  | verified =>
      refine ⟨row, found, own, hash, fun unlocked => ?_⟩
      have unlocked : .locked ∉ s.log := fun member => unlocked (List.mem_append_left _ member)
      have count := count unlocked
      rw [attempts_append_verified, if_neg unlocked]
      simp only [Bool.false_eq_true, if_false, if_true] at count ⊢
      omega
  | counted =>
      refine ⟨{ row with failedAttempts := row.failedAttempts + 1 }, ?_, own, hash, ?_⟩
      · rw [DB.incrementFailedAttempts, getUserByUsername_setUser, found, Option.map_some,
          if_pos own]
        exact fun _ => rfl
      · intro unlocked
        rw [List.append_nil] at unlocked ⊢
        have count := count unlocked
        simp only [Bool.false_eq_true, if_false, if_true] at count ⊢
        omega
  | locked time =>
      refine ⟨{ row with lockedUntil := some (unix time) }, ?_, own, hash, ?_⟩
      · rw [DB.lockUser, getUserByUsername_setUser, found, Option.map_some, if_pos own]
        exact fun _ => rfl
      · intro unlocked
        simp at unlocked

theorem tracked_go {w : World} {e : Move} (tracked : Tracked p user w) (wrong : Wrong p user e) :
    Tracked p user (go p cfg w e) := by
  rcases @go_cases p cfg user w e tracked wrong with ⟨-, same⟩ |
    ⟨c, o, before, after, phase, db', -, split, later, does, moved⟩
  · rw [same]
    exact tracked
  · rw [moved]
    have fails := fails_called tracked wrong
    rw [split] at fails
    constructor
    · intro d member
      rcases List.mem_append.mp member with earlier | member
      · exact fails d (List.mem_append_left _ earlier)
      · rcases List.mem_cons.mp member with rfl | member
        · exact later
        · exact fails d (List.mem_append_right _ (List.mem_cons_of_mem _ member))
    · refine @tallied_does user _ before after c _ _ _ ?_ does
      rw [← split]
      obtain ⟨row, found, own, hash, count⟩ := tracked.tallied
      refine ⟨row, found, own, hash, ?_⟩
      rw [countP_called]
      exact count

theorem bounded_go_iff {w : World} {e : Move} (tracked : Tracked p user w) (wrong : Wrong p user e)
    (bounded : Bounded cfg w) : Bounded cfg (go p cfg w e) ↔ Counted cfg w e := by
  rcases @go_cases p cfg user w e tracked wrong with ⟨idle, same⟩ |
    ⟨c, o, before, after, phase, db', acts, split, -, does, moved⟩
  · rw [same]
    refine iff_of_true bounded ?_
    rw [Counted, idle]
    intro t member
    cases member
  · obtain ⟨row, found, -, -, count⟩ := tracked.tallied
    have named : c.request.username = user.username :=
      (fails_called tracked wrong c (by simp [split])).1
    have counted : Counted cfg w e ↔ (verifies c o.now = true → .locked ∉ w.shared.log →
        row.failedAttempts + w.pool.countP Login.uncounted < cfg.lockout.maxAttempts) := by
      rw [Counted, acts]
      constructor
      · intro all verified unlocked
        exact all _ rfl verified unlocked row (by rw [named, found]; rfl)
      · intro each t member verified unlocked row' member'
        obtain rfl := Option.some.inj member
        obtain rfl : row = row' := by
          rw [named, found] at member'
          exact Option.some.inj member'
        exact each verified unlocked
    rw [counted, moved, Bounded]
    rw [Bounded] at bounded
    rw [marks]
    cases verified : verifies c o.now with
    | false =>
        refine iff_of_true ?_ fun absurd_ => by cases absurd_
        cases locks cfg c with
        | false => simpa using bounded
        | true => simpa [attempts_append_locked] using bounded
    | true =>
        simp only [if_true, attempts_append_verified]
        by_cases locked : .locked ∈ w.shared.log
        · simpa [locked] using bounded
        · have count := count locked
          rw [← count]
          simp only [locked, if_false, not_false_eq_true, forall_const]
          omega

end Attempts

section Main

variable {p : Primitives} {cfg : Config} {user : User} {db : DB}

/-- No more passwords than the lockout allows are compared before the lock, exactly if each is
compared only while the failures in the table and those still to be counted leave one. -/
theorem attempts_bounded_iff (known : db.getUserByUsername user.username = some user)
    (fresh : user.failedAttempts = 0) {run : List Move} (wrong : ∀ e ∈ run, Wrong p user e) :
    (∀ w ∈ states (go p cfg) (idle db) run, Bounded cfg w) ↔
      Along (go p cfg) (Counted cfg) (idle db) run := by
  have start : Tracked p user (idle db) := by
    refine ⟨fun c member => (by cases member), user, known, rfl, rfl, fun _ => ?_⟩
    rw [fresh]
    rfl
  refine @invariant_iff_along_within World Move (go p cfg) (Counted cfg) (Tracked p user)
    (Bounded cfg) (idle db) run ?_ ?_ start (Nat.zero_le _)
  · exact fun w e member tracked => tracked_go tracked (wrong e member)
  · exact fun w e member tracked bounded => bounded_go_iff tracked (wrong e member) bounded

def alice : User :=
  { id := "u-1", username := "alice", email := "", passwordHash := "hash of Secret-1", role := "user"
    totpEnabled := false, totpSecret := "", failedAttempts := 0, lockedUntil := none
    lastLogin := none }

def onlyAlice : DB := { users := [alice], sessions := [], recoveryCodes := [], trustedIPs := [] }

def guess : LoginRequest × String := (⟨"alice", "Secret-2"⟩, "10.0.0.9")

/-- As many logins as given, one after the other. -/
def inTurn (n : Nat) : List Move :=
  (List.range n).flatMap fun i => .begins guess quiet :: List.replicate 3 (.goes i quiet)

/-- Logins that all read the user first and compare their passwords then. -/
def atOnce (n : Nat) : List Move :=
  (List.replicate n (.begins guess quiet) : List Move) ++
    ((List.range n).map fun i => .goes i quiet : List Move)

/-- Six logins one after the other: the fifth sets the lock. -/
theorem bounded_in_turn :
    Along (go marked defaultConfig) (Counted defaultConfig) (idle onlyAlice) (inTurn 6) ∧
      ∀ w ∈ states (go marked defaultConfig) (idle onlyAlice) (inTurn 6),
        Bounded defaultConfig w := by
  have counted : Along (go marked defaultConfig) (Counted defaultConfig) (idle onlyAlice)
      (inTurn 6) := by
    decide +kernel
  refine ⟨counted, (@attempts_bounded_iff marked defaultConfig alice onlyAlice ?_ rfl _ ?_).mpr counted⟩
  · decide +kernel
  · decide +kernel

/-- Six logins at the same time: six passwords are compared, and nothing is locked. -/
theorem unbounded_at_once :
    (∀ e ∈ atOnce 6, Wrong marked alice e) ∧
      ¬∀ w ∈ states (go marked defaultConfig) (idle onlyAlice) (atOnce 6),
        Bounded defaultConfig w := by
  constructor
  · decide +kernel
  · decide +kernel

end Main

end Lockout
