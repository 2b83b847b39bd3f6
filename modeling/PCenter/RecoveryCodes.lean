import PCenter.Accounts

/-!
# Recovery codes in concurrent logins

`VerifyTOTPLogin` reads the codes of its user, compares, marks the code that it found as used
and marks its session as verified, each of them a statement of its own; the mark on the code
does not ask whether the code is still unused. A run is any order of the statements of any
number of such calls. By which session a code was used, and which sessions were verified by it,
is recorded for the statements only.
-/

namespace RecoveryCodes

open Accounts Transition

section Runs

structure Use where
  code : String
  session : String
  deriving DecidableEq

structure Shared where
  db : DB
  /-- The uses that `MarkRecoveryCodeUsed` made. -/
  used : List Use
  /-- The sessions that `MarkTOTPVerified` marked after a recovery code was used. -/
  verified : List Use

variable (p : Primitives) (cfg : Config)

def request (q : Session × String) : Verify := ⟨q.1, q.2, .reading⟩

/-- The use that the next statement of the call makes. -/
def uses (v : Verify) : List Use :=
  match v.phase with
  | .consuming _ rc => [⟨rc.id, v.session.id⟩]
  | _ => []

/-- The use after which the call is to mark its session. -/
def owes (v : Verify) : List Use :=
  match v.phase with
  | .marking _ (some rc) => [⟨rc.id, v.session.id⟩]
  | _ => []

def Stored (db : DB) (sessionID : String) : Prop := sessionID ∈ db.sessions.map (·.id)

instance (db : DB) (sessionID : String) : Decidable (Stored db sessionID) :=
  inferInstanceAs (Decidable (_ ∈ _))

def advance (v : Verify) (o : Outside) (s : Shared) : Option (Verify × Shared × List Verify) :=
  some ({ v with phase := (v.next p cfg o s.db).1 },
    { db := (v.next p cfg o s.db).2
      used := s.used ++ uses v
      verified := s.verified ++ (owes v).filter fun u => Stored s.db u.session }, [])

abbrev World := Thread.World Verify Shared

abbrev Move := Thread.Event (Session × String) Outside

abbrev go : World → Move → World := Thread.step (advance p cfg) request

def idle (db : DB) : World := ⟨⟨db, [], []⟩, [], false⟩

/-- No code is in two uses by different sessions. -/
def Single (l : List Use) : Prop := ∀ a ∈ l, ∀ b ∈ l, a.code = b.code → a.session = b.session

/-- A code is marked as used only if no other session has used it. -/
def Fresh (w : World) (e : Move) : Prop :=
  ∀ t ∈ Thread.actor request w e, ∀ u ∈ uses t.1, ∀ a ∈ w.shared.used,
    a.code = u.code → a.session = u.session

instance (l : List Use) : Decidable (Single l) :=
  inferInstanceAs (Decidable (∀ a ∈ l, ∀ b ∈ l, a.code = b.code → a.session = b.session))

instance (w : World) (e : Move) : Decidable (Fresh w e) :=
  inferInstanceAs (Decidable (∀ t ∈ Thread.actor request w e, ∀ u ∈ uses t.1,
    ∀ a ∈ w.shared.used, a.code = u.code → a.session = u.session))

/-- The event does not begin a call, or begins one in a stored session. -/
def InSession (db : DB) : Move → Prop
  | .begins q _ => Stored db q.1.id
  | .goes _ _ => True

instance (db : DB) : (e : Move) → Decidable (InSession db e)
  | .begins q _ => inferInstanceAs (Decidable (Stored db q.1.id))
  | .goes _ _ => inferInstanceAs (Decidable True)

end Runs

section Steps

variable {p : Primitives} {cfg : Config}

theorem session_of_uses {v : Verify} {u : Use} (used : u ∈ uses v) : u.session = v.session.id := by
  rw [uses] at used
  split at used
  · rw [List.mem_singleton.mp used]
  · cases used

theorem owes_next (v : Verify) (o : Outside) (db : DB) :
    owes { v with phase := (v.next p cfg o db).1 } = uses v := by
  obtain ⟨session, code, phase⟩ := v
  cases phase with
  | reading =>
      simp only [Verify.next]
      split
      · rfl
      · split
        · rfl
        · split <;> rfl
  | fetching user =>
      simp only [Verify.next]
      split <;> rfl
  | consuming | marking | trusting | ended => rfl

theorem stored_next (v : Verify) (o : Outside) (db : DB) (id : String) :
    Stored (v.next p cfg o db).2 id ↔ Stored db id := by
  obtain ⟨session, code, phase⟩ := v
  cases phase with
  | reading =>
      simp only [Verify.next]
      split
      · rfl
      · split <;> rfl
  | fetching user =>
      simp only [Verify.next]
      split <;> rfl
  | marking user by_ =>
      have same : ∀ s : Session, (if s.id = session.id then { s with totpVerified := true }
          else s).id = s.id := by
        intro s
        split <;> rfl
      rw [Stored, Stored, Verify.next, DB.markTOTPVerified, List.map_map]
      simp only [Function.comp_def, same]
  | trusting user =>
      simp only [Verify.next, trustIPAfterVerification]
      split <;> rfl
  | consuming | ended => rfl

theorem go_cases (w : World) (e : Move) :
    Thread.actor request w e = none ∧ go p cfg w e = w ∨
      ∃ v o before after, Thread.actor request w e = some (v, o) ∧ w.down = false ∧
        Thread.called request w e = before ++ v :: after ∧
        go p cfg w e = ⟨{ db := (v.next p cfg o w.shared.db).2
                          used := w.shared.used ++ uses v
                          verified := w.shared.verified ++
                            (owes v).filter fun u => Stored w.shared.db u.session },
          before ++ { v with phase := (v.next p cfg o w.shared.db).1 } :: after, false⟩ := by
  rcases Thread.step_cases_of_total (advance p cfg) request (fun _ _ _ => (_, _))
    (fun _ _ _ => rfl) w e with same | ⟨v, o, before, after, acts, up, turn, moved⟩
  · exact .inl same
  · exact .inr ⟨v, o, before, after, acts, up, turn.called_eq, moved⟩

theorem owes_called {w : World} {e : Move} {v : Verify} {u : Use}
    (member : v ∈ Thread.called request w e) (owed : u ∈ owes v) : v ∈ w.pool := by
  cases e with
  | begins q o =>
      rcases List.mem_append.mp member with earlier | new
      · exact earlier
      · rw [List.mem_singleton.mp new] at owed
        cases owed
  | goes i o => exact member

/-- Every mark follows a use, and every use leads to a mark. -/
structure Booked (db : DB) (w : World) : Prop where
  up : w.down = false
  stored : ∀ id, Stored w.shared.db id ↔ Stored db id
  verified : ∀ u ∈ w.shared.verified, u ∈ w.shared.used
  owed : ∀ v ∈ w.pool, ∀ u ∈ owes v, u ∈ w.shared.used
  due : ∀ u ∈ w.shared.used, Stored db u.session →
    u ∈ w.shared.verified ∨ ∃ v ∈ w.pool, u ∈ owes v

theorem booked_idle (db : DB) : Booked db (idle db) :=
  ⟨rfl, fun _ => Iff.rfl, fun _ member => (by cases member), fun _ member => (by cases member),
    fun _ member => (by cases member)⟩

theorem booked_go {db : DB} {w : World} {e : Move} (booked : Booked db w) :
    Booked db (go p cfg w e) := by
  rcases @go_cases p cfg w e with ⟨-, same⟩ | ⟨v, o, before, after, -, -, split, moved⟩
  · rw [same]
    exact booked
  rw [moved]
  have here : v ∈ Thread.called request w e := by
    rw [split]
    exact List.mem_append_right _ List.mem_cons_self
  have others : ∀ x ∈ before ++ after, x ∈ Thread.called request w e := by
    rw [split]
    exact fun x member => ((List.sublist_cons_self v after).append_left before).subset member
  have later : ∀ x ∈ before ++ after, ∀ u ∈ owes x, u ∈ w.shared.used := fun x member u owed =>
    booked.owed x (owes_called (others x member) owed) u owed
  constructor
  · rfl
  · exact fun id => (stored_next v o _ id).trans (booked.stored id)
  · intro u member
    apply List.mem_append_left
    rcases List.mem_append.mp member with earlier | new
    · exact booked.verified u earlier
    · have owed := List.mem_of_mem_filter new
      exact booked.owed v (owes_called here owed) u owed
  · intro x member u owed
    simp only [List.mem_append, List.mem_cons] at member
    rcases member with earlier | rfl | member
    · exact List.mem_append_left _ (later x (List.mem_append_left _ earlier) u owed)
    · rw [owes_next] at owed
      exact List.mem_append_right _ owed
    · exact List.mem_append_left _ (later x (List.mem_append_right _ member) u owed)
  · intro u member kept
    rcases List.mem_append.mp member with earlier | new
    · rcases booked.due u earlier kept with marked | ⟨x, pooled, owed⟩
      · exact .inl (List.mem_append_left _ marked)
      · have called : x ∈ before ++ v :: after := by
          rw [← split]
          cases e with
          | begins => exact List.mem_append_left _ pooled
          | goes => exact pooled
        simp only [List.mem_append, List.mem_cons] at called
        rcases called with first | rfl | last
        · exact .inr ⟨x, List.mem_append_left _ first, owed⟩
        · refine .inl (List.mem_append_right _ (List.mem_filter.mpr ⟨owed, ?_⟩))
          exact decide_eq_true ((booked.stored _).mpr kept)
        · exact .inr ⟨x, List.mem_append_right _ (List.mem_cons_of_mem _ last), owed⟩
    · refine .inr ⟨_, List.mem_append_right _ List.mem_cons_self, ?_⟩
      rw [owes_next]
      exact new

theorem kept_go (w : World) (e : Move) :
    w.shared.used ⊆ (go p cfg w e).shared.used ∧
      w.shared.verified ⊆ (go p cfg w e).shared.verified := by
  rcases @go_cases p cfg w e with ⟨-, same⟩ | ⟨v, o, before, after, -, -, -, moved⟩
  · rw [same]
    exact ⟨fun _ member => member, fun _ member => member⟩
  · rw [moved]
    exact ⟨List.subset_append_left _ _, List.subset_append_left _ _⟩

theorem kept_run (w : World) (run : List Move) :
    w.shared.used ⊆ (run.foldl (go p cfg) w).shared.used ∧
      w.shared.verified ⊆ (run.foldl (go p cfg) w).shared.verified := by
  induction run generalizing w with
  | nil => exact ⟨fun _ member => member, fun _ member => member⟩
  | cons e run ih =>
      have first := @kept_go p cfg w e
      exact ⟨List.Subset.trans first.1 (ih _).1, List.Subset.trans first.2 (ih _).2⟩

theorem used_of_states {s : World} {run : List Move} :
    ∀ w ∈ states (go p cfg) s run,
      w.shared.used ⊆ (run.foldl (go p cfg) s).shared.used := by
  induction run generalizing s with
  | nil =>
      intro w member
      rw [List.mem_singleton.mp member]
      exact fun _ inside => inside
  | cons e run ih =>
      intro w member
      rcases List.mem_cons.mp member with rfl | later
      · exact (@kept_run p cfg w (e :: run)).1
      · exact ih w later

theorem booked_run {db : DB} {w : World} (run : List Move) (booked : Booked db w) :
    Booked db (run.foldl (go p cfg) w) := by
  induction run generalizing w with
  | nil => exact booked
  | cons e run ih => exact ih (booked_go booked)

theorem single_go_iff {w : World} {e : Move} (single : Single w.shared.used) :
    Single (go p cfg w e).shared.used ↔ Fresh w e := by
  rcases @go_cases p cfg w e with ⟨idle, same⟩ | ⟨v, o, before, after, acts, -, -, moved⟩
  · rw [same]
    refine iff_of_true single ?_
    rw [Fresh, idle]
    intro t member
    cases member
  · rw [moved]
    have fresh : Fresh w e ↔
        ∀ u ∈ uses v, ∀ a ∈ w.shared.used, a.code = u.code → a.session = u.session := by
      rw [Fresh, acts]
      constructor
      · exact fun all => all _ rfl
      · intro each t member
        rw [← Option.some.inj member]
        exact each
    rw [fresh]
    constructor
    · intro all u new a earlier
      exact all a (List.mem_append_left _ earlier) u (List.mem_append_right _ new)
    · intro each a left b right same
      rcases List.mem_append.mp left with earlier | new
      · rcases List.mem_append.mp right with earlier' | new'
        · exact single a earlier b earlier' same
        · exact each b new' a earlier same
      · rcases List.mem_append.mp right with earlier' | new'
        · exact (each a new b earlier' same.symm).symm
        · rw [session_of_uses new, session_of_uses new']

theorem single_iff_along {db : DB} {run : List Move} :
    (∀ w ∈ states (go p cfg) (idle db) run, Single w.shared.used) ↔
      Along (go p cfg) Fresh (idle db) run :=
  invariant_iff_along (fun _ _ _ single => single_go_iff single) fun _ member => (by cases member)

end Steps

section Sessions

variable {p : Primitives} {cfg : Config} {db : DB}

structure InSessions (db : DB) (w : World) : Prop where
  pool : ∀ v ∈ w.pool, Stored db v.session.id
  used : ∀ u ∈ w.shared.used, Stored db u.session

theorem inSessions_go {w : World} {e : Move} (sessions : InSessions db w)
    (inSession : InSession db e) : InSessions db (go p cfg w e) := by
  rcases @go_cases p cfg w e with ⟨-, same⟩ | ⟨v, o, before, after, -, -, split, moved⟩
  · rw [same]
    exact sessions
  rw [moved]
  have called : ∀ x ∈ before ++ v :: after, Stored db x.session.id := by
    rw [← split]
    cases e with
    | begins q o =>
        intro x member
        rcases List.mem_append.mp member with earlier | new
        · exact sessions.pool x earlier
        · rw [List.mem_singleton.mp new]
          exact inSession
    | goes i o => exact sessions.pool
  have own : Stored db v.session.id :=
    called v (List.mem_append_right _ List.mem_cons_self)
  constructor
  · intro x member
    simp only [List.mem_append, List.mem_cons] at member
    rcases member with first | rfl | last
    · exact called x (List.mem_append_left _ first)
    · exact own
    · exact called x (List.mem_append_right _ (List.mem_cons_of_mem _ last))
  · intro u member
    rcases List.mem_append.mp member with earlier | new
    · exact sessions.used u earlier
    · rw [session_of_uses new]
      exact own

theorem inSessions_run {w : World} {run : List Move} (sessions : InSessions db w)
    (all : ∀ e ∈ run, InSession db e) : InSessions db (run.foldl (go p cfg) w) := by
  induction run generalizing w with
  | nil => exact sessions
  | cons e run ih =>
      apply ih
      · exact inSessions_go sessions (all e List.mem_cons_self)
      · exact fun e' member => all e' (List.mem_cons_of_mem _ member)

/-- No call begins. -/
def Ongoing (later : List Move) : Prop := ∀ e ∈ later, ∃ i o, e = .goes i o

theorem marks_of_used {w : World} {u : Use} (booked : Booked db w) (used : u ∈ w.shared.used)
    (kept : Stored db u.session) :
    ∃ later, Ongoing later ∧ u ∈ (later.foldl (go p cfg) w).shared.verified := by
  rcases booked.due u used kept with marked | ⟨v, pooled, owed⟩
  · exact ⟨[], fun _ member => (by cases member), marked⟩
  · obtain ⟨i, inside, here⟩ := List.mem_iff_getElem.mp pooled
    have acts : Thread.actor request w (.goes i quiet) = some (v, quiet) := by
      simp [Thread.actor, booked.up, inside, here]
    refine ⟨[.goes i quiet], fun e member => ⟨i, quiet, List.mem_singleton.mp member⟩, ?_⟩
    rcases @go_cases p cfg w (.goes i quiet) with ⟨idle, -⟩ |
      ⟨v', o, before, after, acts', -, -, moved⟩
    · cases idle.symm.trans acts
    · obtain ⟨rfl, rfl⟩ := Prod.mk.inj (Option.some.inj (acts'.symm.trans acts))
      rw [List.foldl_cons, List.foldl_nil, moved]
      refine List.mem_append_right _ (List.mem_filter.mpr ⟨owed, ?_⟩)
      exact decide_eq_true ((booked.stored _).mpr kept)

/-- Two sessions that have used one code can both go on to their marks. -/
theorem both_marked {w : World} (booked : Booked db w) (sessions : InSessions db w)
    (twice : ¬Single w.shared.used) :
    ∃ later, Ongoing later ∧ ¬Single (later.foldl (go p cfg) w).shared.verified := by
  rw [Single] at twice
  push Not at twice
  obtain ⟨a, left, b, right, same, apart⟩ := twice
  obtain ⟨first, goes, marked⟩ := @marks_of_used p cfg db w a booked left (sessions.used a left)
  have still : b ∈ (first.foldl (go p cfg) w).shared.used := (kept_run w first).1 right
  obtain ⟨second, goes', marked'⟩ :=
    @marks_of_used p cfg db _ b (booked_run first booked) still (sessions.used b right)
  refine ⟨first ++ second, ?_, fun single => apart ?_⟩
  · intro e member
    rcases List.mem_append.mp member with earlier | later
    · exact goes e earlier
    · exact goes' e later
  · rw [List.foldl_append] at single
    exact single a ((kept_run _ second).2 marked) b marked' same

/-- If every use of a code is its first or by the same session, no code verifies two sessions;
and where a use is not, the calls under way can go on so that it does. -/
theorem code_verifies_one_session {run : List Move} (stored : ∀ e ∈ run, InSession db e) :
    (Along (go p cfg) Fresh (idle db) run →
      ∀ w ∈ states (go p cfg) (idle db) run, Single w.shared.verified) ∧
    (¬Along (go p cfg) Fresh (idle db) run →
      ∃ later, Ongoing later ∧
        ¬Single ((run ++ later).foldl (go p cfg) (idle db)).shared.verified) := by
  constructor
  · intro fresh w member
    have single := single_iff_along.mpr fresh w member
    have booked : Booked db w :=
      invariant_states (fun _ _ booked => booked_go booked) (booked_idle db) w member
    intro a left b right
    exact single a (booked.verified a left) b (booked.verified b right)
  · intro stale
    rw [← single_iff_along] at stale
    push Not at stale
    obtain ⟨w, member, twice⟩ := stale
    have grown := @used_of_states p cfg (idle db) run w member
    have sessions : InSessions db (run.foldl (go p cfg) (idle db)) :=
      inSessions_run ⟨fun _ member => (by cases member), fun _ member => (by cases member)⟩ stored
    obtain ⟨later, ongoing, marked⟩ := @both_marked p cfg db _
      (booked_run run (booked_idle db)) sessions fun single => twice fun a left b right =>
        single a (grown left) b (grown right)
    refine ⟨later, ongoing, ?_⟩
    rw [List.foldl_append]
    exact marked

def session (id : String) : Session :=
  { id := id, userID := "u-1", tokenHash := id, csrfToken := "", totpVerified := false
    ipAddress := "10.0.0.9", createdAt := 0, expiresAt := 0, lastSeenAt := 0 }

/-- A user with the second factor, one recovery code and two sessions that await it. -/
def enrolled : DB where
  users := [{ id := "u-1", username := "alice", email := "", passwordHash := "", role := "user"
              totpEnabled := true, totpSecret := "seed", failedAttempts := 0, lockedUntil := none
              lastLogin := none }]
  sessions := [session "s-1", session "s-2"]
  recoveryCodes := [⟨"c-1", "u-1", "hash of ABCDEFGH", false⟩]
  trustedIPs := []

def verify (id : String) : Move := .begins (session id, "ABCDEFGH") quiet

/-- Each call ends before the next begins. -/
def inTurn : List Move :=
  (verify "s-1" :: List.replicate 4 (.goes 0 quiet) : List Move) ++
    (verify "s-2" :: List.replicate 4 (.goes 1 quiet) : List Move)

/-- Both calls read the codes before either uses one. -/
def atOnce : List Move :=
  [verify "s-1", verify "s-2", .goes 0 quiet, .goes 1 quiet, .goes 0 quiet, .goes 0 quiet,
    .goes 1 quiet, .goes 1 quiet]

theorem one_session_in_turn :
    (∀ w ∈ states (go marked defaultConfig) (idle enrolled) inTurn, Single w.shared.verified) ∧
      (inTurn.foldl (go marked defaultConfig) (idle enrolled)).shared.verified =
        [⟨"c-1", "s-1"⟩] := by
  have stored : ∀ e ∈ inTurn, InSession enrolled e := by decide +kernel
  have fresh : Along (go marked defaultConfig) Fresh (idle enrolled) inTurn := by decide +kernel
  exact ⟨(code_verifies_one_session stored).1 fresh, by decide +kernel⟩

/-- The one code verifies two sessions. -/
theorem two_sessions_at_once :
    (∀ e ∈ atOnce, InSession enrolled e) ∧
      ¬∀ w ∈ states (go marked defaultConfig) (idle enrolled) atOnce,
        Single w.shared.verified := by
  constructor
  · decide +kernel
  · decide +kernel

end Sessions

end RecoveryCodes
