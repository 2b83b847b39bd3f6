import PCenter.Lib.Json
import PCenter.Lib.Text
import PCenter.Lib.Url

/-!
# Creating an API token

`CreateAPIToken` in `internal/pve/client.go`: a stored secret is probed, then the token is created;
where it exists already it is deleted and the function calls itself. The server is the sequence of
its answers, the one to the first request first. A request that cannot be built, and the
cancellation of the context, are left out.
-/

namespace TokenCreation

open GoJson GoText

section Code

/-- `TokenResult` -/
structure TokenResult where
  tokenID : String
  secret : String
  deriving DecidableEq, Repr

/-- How a request ends: without a response, or with a status and a body that may be unreadable. -/
inductive Answer where
  | failed (err : String)
  | replied (status : Nat) (body : Except String String)

/-- The arguments, and what `json.Unmarshal` makes of a text. -/
structure Call where
  username : String
  tokenName : String
  existingSecret : String
  parse : String → Except String Json

inductive Request where
  | probe (tokenID secret : String)
  | create (path : String)
  | delete (path : String)
  deriving DecidableEq, Repr

/-- Which answer is awaited, or what was returned. -/
inductive State where
  | probing (secret : String)
  | creating
  | deleting
  | ended (result : Except String TokenResult)

def decodeToken (doc : Json) : Except String TokenResult := do
  let result ← decodeObject doc
  let data ← decodeObject (field result "data")
  let fullTokenID ← readString data "full-tokenid"
  let value ← readString data "value"
  pure ⟨fullTokenID, value⟩

variable (call : Call)

def Call.fullID : String := call.username ++ "!" ++ call.tokenName

def Call.path : String :=
  "/api2/json/access/users/" ++ GoUrl.pathEscape call.username ++ "/token/" ++ call.tokenName

/-- `CreateAPIToken` as far as its first request. -/
def createAPIToken (existingSecret : String) : State :=
  if existingSecret ≠ "" then .probing existingSecret else .creating

/-- `probeAPIToken` -/
def probeAPIToken : Answer → Bool
  | .replied status _ => status = 200
  | .failed _ => false

def step : State → Answer → State
  | .probing secret, answer =>
      if probeAPIToken answer then .ended (.ok ⟨call.fullID, secret⟩) else .creating
  | .creating, .failed err => .ended (.error ("create token request failed: " ++ err))
  | .creating, .replied _ (.error err) => .ended (.error ("read response body: " ++ err))
  | .creating, .replied status (.ok body) =>
      if 400 ≤ status then
        if includes "already exists" body then .deleting
        else .ended (.error ("create token failed: " ++ body))
      else
        match call.parse body >>= decodeToken with
        | .ok token => .ended (.ok token)
        | .error err => .ended (.error ("parse token response: " ++ err))
  -- whatever becomes of the deletion, and without another probe
  | .deleting, _ => createAPIToken ""
  | .ended result, _ => .ended result

def request : State → Option Request
  | .probing secret => some (.probe call.fullID secret)
  | .creating => some (.create call.path)
  | .deleting => some (.delete call.path)
  | .ended _ => none

variable (answers : ℕ → Answer)

/-- The state after so many answers. -/
def stateAt : ℕ → State
  | 0 => createAPIToken call.existingSecret
  | n + 1 => step call (stateAt n) (answers n)

end Code

section Spec

variable (call : Call) (answers : ℕ → Answer)

/-- The server refuses the credentials. -/
def Rejected (answer : Answer) : Prop :=
  ∃ status body, answer = .replied status body ∧ (status = 401 ∨ status = 403)

/-- The server says that there is such a token. -/
def Conflict (answer : Answer) : Prop :=
  ∃ status body, answer = .replied status (.ok body) ∧ 400 ≤ status ∧
    includes "already exists" body = true

/-- A successful creation, with the pair it gives. -/
def Created (answer : Answer) (token : TokenResult) : Prop :=
  ∃ status body, answer = .replied status (.ok body) ∧ status < 400 ∧
    (call.parse body >>= decodeToken) = .ok token

/-- The call ends, and destroys no token that is in use. -/
structure Careful : Prop where
  ends : ∃ n result, stateAt call answers n = .ended result
  once : ∀ i j path path', request call (stateAt call answers i) = some (.delete path) →
    request call (stateAt call answers j) = some (.delete path') → i = j
  justified : ∀ i path, request call (stateAt call answers i) = some (.delete path) →
    call.existingSecret = "" ∨ Rejected (answers 0)
  genuine : ∀ n token, stateAt call answers n = .ended (.ok token) →
    (call.existingSecret ≠ "" ∧ token = ⟨call.fullID, call.existingSecret⟩ ∧
      probeAPIToken (answers 0) = true) ∨
    ∃ i, stateAt call answers i = .creating ∧ Created call (answers i) token

/-- The answer to the first creation. -/
def first : ℕ := if call.existingSecret = "" then 0 else 1

/-- The stored secret is still good. -/
def Reused : Prop := call.existingSecret ≠ "" ∧ probeAPIToken (answers 0) = true

/-- A token that exists is not there any more at the second attempt, and there was no secret for it
or it was refused. -/
def Replaceable : Prop :=
  Conflict (answers (first call)) →
    ¬ Conflict (answers (first call + 2)) ∧
      (call.existingSecret = "" ∨ Rejected (answers 0))

end Spec

section Runs

variable {call : Call} {answers : ℕ → Answer}

theorem creating_of_conflict {n : ℕ} (creating : stateAt call answers n = .creating)
    (present : Conflict (answers n)) :
    stateAt call answers (n + 1) = .deleting ∧ stateAt call answers (n + 2) = .creating := by
  obtain ⟨status, body, reply, refused, named⟩ := present
  have deleting : stateAt call answers (n + 1) = .deleting := by
    rw [stateAt, creating, reply, step, if_pos refused, if_pos named]
  refine ⟨deleting, ?_⟩
  rw [stateAt, deleting, step, createAPIToken, if_neg (not_not.mpr rfl)]

/-- Another answer to a creation ends the call. -/
theorem ended_of_creating {n : ℕ} (creating : stateAt call answers n = .creating)
    (absent : ¬ Conflict (answers n)) : ∃ result, stateAt call answers (n + 1) = .ended result := by
  rw [stateAt, creating]
  cases reply : answers n with
  | failed err => exact ⟨_, rfl⟩
  | replied status body =>
      cases body with
      | error err => exact ⟨_, rfl⟩
      | ok body =>
          rw [step]
          split_ifs with refused named
          · exact absurd ⟨status, body, reply, refused, named⟩ absent
          · exact ⟨_, rfl⟩
          · cases call.parse body >>= decodeToken <;> exact ⟨_, rfl⟩

theorem ended_of_le {n m : ℕ} {result : Except String TokenResult} (later : n ≤ m)
    (ended : stateAt call answers n = .ended result) :
    stateAt call answers m = .ended result := by
  induction m, later using Nat.le_induction with
  | base => exact ended
  | succ m later ih => rw [stateAt, ih, step]

theorem step_ne_probing (s : State) (answer : Answer) (secret : String) :
    step call s answer ≠ .probing secret := by
  intro probing
  cases s with
  | probing stored =>
      rw [step] at probing
      split_ifs at probing
  | creating =>
      cases answer with
      | failed err => cases probing
      | replied status body =>
          cases body with
          | error err => cases probing
          | ok body =>
              rw [step] at probing
              split_ifs at probing
              cases read : call.parse body >>= decodeToken <;> rw [read] at probing <;>
                cases probing
  | deleting => cases probing
  | ended result => cases probing

/-- A pair is that of the probe or that of the answer, or was returned before. -/
theorem token_of_step {s : State} {answer : Answer} {token : TokenResult}
    (ended : step call s answer = .ended (.ok token)) :
    s = .ended (.ok token) ∨
      (∃ secret, s = .probing secret ∧ token = ⟨call.fullID, secret⟩ ∧
        probeAPIToken answer = true) ∨
      (s = .creating ∧ Created call answer token) := by
  cases s with
  | probing stored =>
      rw [step] at ended
      split_ifs at ended with good
      exact .inr (.inl ⟨stored, rfl, (Except.ok.inj (State.ended.inj ended)).symm, good⟩)
  | creating =>
      refine .inr (.inr ⟨rfl, ?_⟩)
      cases answer with
      | failed err => cases State.ended.inj ended
      | replied status body =>
          cases body with
          | error err => cases State.ended.inj ended
          | ok body =>
              rw [step] at ended
              split_ifs at ended with refused named
              · cases State.ended.inj ended
              · cases read : call.parse body >>= decodeToken with
                | error err =>
                    rw [read] at ended
                    cases State.ended.inj ended
                | ok made =>
                    rw [read] at ended
                    obtain rfl := Except.ok.inj (State.ended.inj ended)
                    exact ⟨status, body, rfl, not_le.mp refused, read⟩
  | deleting => cases ended
  | ended result =>
      rw [step] at ended
      exact .inl ended

theorem eq_of_probing {n : ℕ} {secret : String}
    (probing : stateAt call answers n = .probing secret) :
    n = 0 ∧ secret = call.existingSecret ∧ call.existingSecret ≠ "" := by
  cases n with
  | zero =>
      rw [stateAt, createAPIToken] at probing
      split_ifs at probing with given
      exact ⟨rfl, (State.probing.inj probing).symm, given⟩
  | succ n => exact absurd probing (step_ne_probing _ _ _)

/-- Whatever the server answers, a pair that is returned is one it accepted or made. -/
theorem genuine_run {n : ℕ} {token : TokenResult}
    (ended : stateAt call answers n = .ended (.ok token)) :
    (call.existingSecret ≠ "" ∧ token = ⟨call.fullID, call.existingSecret⟩ ∧
      probeAPIToken (answers 0) = true) ∨
    ∃ i, stateAt call answers i = .creating ∧ Created call (answers i) token := by
  induction n with
  | zero =>
      rw [stateAt, createAPIToken] at ended
      split_ifs at ended
  | succ n ih =>
      rcases token_of_step ended with before | ⟨secret, probing, pair, good⟩ | ⟨creating, made⟩
      · exact ih before
      · obtain ⟨rfl, rfl, given⟩ := eq_of_probing probing
        exact .inl ⟨given, pair, good⟩
      · exact .inr ⟨n, creating, made⟩

theorem creating_at_first (replaced : ¬ Reused call answers) :
    stateAt call answers (first call) = .creating := by
  by_cases none_stored : call.existingSecret = ""
  · rw [first, if_pos none_stored, stateAt, createAPIToken, if_neg (not_not.mpr none_stored)]
  · have bad : ¬ probeAPIToken (answers 0) = true := fun good => replaced ⟨none_stored, good⟩
    rw [first, if_neg none_stored, stateAt, stateAt, createAPIToken, if_pos none_stored, step,
      if_neg bad]

/-- As long as the token exists at every attempt there is another one. -/
theorem creating_again (replaced : ¬ Reused call answers) {k : ℕ}
    (present : ∀ j < k, Conflict (answers (first call + 2 * j))) :
    stateAt call answers (first call + 2 * k) = .creating := by
  induction k with
  | zero => exact creating_at_first replaced
  | succ k ih =>
      have creating := ih fun j below => present j (by omega)
      have next := (creating_of_conflict creating (present k (by omega))).2
      rwa [Nat.mul_succ, ← Nat.add_assoc]

theorem ended_of_reused (reused : Reused call answers) :
    stateAt call answers 1 = .ended (.ok ⟨call.fullID, call.existingSecret⟩) := by
  rw [stateAt, stateAt, createAPIToken, if_pos reused.1, step, if_pos reused.2]

/-- The call ends exactly when the stored secret is good or the token does not exist at some
attempt. -/
theorem ends_iff :
    (∃ n result, stateAt call answers n = .ended result) ↔
      Reused call answers ∨ ∃ k, ¬ Conflict (answers (first call + 2 * k)) := by
  constructor
  · rintro ⟨n, result, ended⟩
    by_contra neither
    obtain ⟨replaced, always⟩ := not_or.mp neither
    have present (j : ℕ) : Conflict (answers (first call + 2 * j)) := by
      by_contra absent
      exact always ⟨j, absent⟩
    have creating := creating_again replaced (k := n) fun j _ => present j
    rw [ended_of_le (by omega) ended] at creating
    cases creating
  · rintro (reused | stops)
    · exact ⟨1, _, ended_of_reused reused⟩
    · by_cases reused : Reused call answers
      · exact ⟨1, _, ended_of_reused reused⟩
      · classical
        let k := Nat.find stops
        have creating := creating_again reused (k := k) fun j below => by
          by_contra absent
          exact Nat.find_min stops below absent
        obtain ⟨result, ended⟩ := ended_of_creating creating (Nat.find_spec stops)
        exact ⟨_, result, ended⟩

end Runs

section Iff

variable (call : Call) (answers : ℕ → Answer)

theorem deleting_of_request {i : ℕ} {path : String}
    (sent : request call (stateAt call answers i) = some (.delete path)) :
    stateAt call answers i = .deleting := by
  cases at_i : stateAt call answers i with
  | deleting => rfl
  | probing secret | creating | ended result =>
      rw [at_i, request] at sent
      cases sent

theorem request_of_deleting {i : ℕ} (deleting : stateAt call answers i = .deleting) :
    request call (stateAt call answers i) = some (.delete call.path) := by
  rw [deleting, request]

theorem ne_deleting_zero : stateAt call answers 0 ≠ .deleting := by
  intro deleting
  rw [stateAt, createAPIToken] at deleting
  split_ifs at deleting

theorem ne_deleting_of_reused (reused : Reused call answers) (i : ℕ) :
    stateAt call answers i ≠ .deleting := by
  intro deleting
  cases i with
  | zero => exact ne_deleting_zero call answers deleting
  | succ i =>
      rw [ended_of_le (Nat.succ_le_succ (Nat.zero_le i)) (ended_of_reused reused)] at deleting
      cases deleting

theorem deleting_at_first (replaced : ¬ Reused call answers)
    (gone : Conflict (answers (first call)) → ¬ Conflict (answers (first call + 2))) {i : ℕ}
    (deleting : stateAt call answers i = .deleting) :
    i = first call + 1 ∧ Conflict (answers (first call)) := by
  have creating := creating_at_first replaced
  have start : first call ≤ 1 := by
    rw [first]
    split_ifs <;> omega
  have beyond : first call < i := by
    by_contra early
    rcases Nat.lt_or_ge i (first call) with before | after
    · obtain rfl : i = 0 := by omega
      exact ne_deleting_zero call answers deleting
    · obtain rfl : i = first call := by omega
      rw [creating] at deleting
      cases deleting
  have finite {n : ℕ} {result : Except String TokenResult}
      (ended : stateAt call answers n = .ended result) : i < n := by
    by_contra later
    rw [ended_of_le (not_lt.mp later) ended] at deleting
    cases deleting
  by_cases present : Conflict (answers (first call))
  · obtain ⟨-, again⟩ := creating_of_conflict creating present
    obtain ⟨result, ended⟩ := ended_of_creating again (gone present)
    have last := finite ended
    have notAgain : i ≠ first call + 2 := by
      rintro rfl
      rw [again] at deleting
      cases deleting
    exact ⟨by omega, present⟩
  · obtain ⟨result, ended⟩ := ended_of_creating creating present
    have last := finite ended
    omega

/-- A call is careful exactly when the stored secret is good or the token can be replaced. -/
theorem careful_iff :
    Careful call answers ↔ Reused call answers ∨ Replaceable call answers := by
  constructor
  · intro careful
    by_cases reused : Reused call answers
    · exact .inl reused
    · refine .inr fun present => ?_
      obtain ⟨deleting, again⟩ := creating_of_conflict (creating_at_first reused) present
      have sent := request_of_deleting call answers deleting
      refine ⟨fun presentAgain => ?_, careful.justified _ _ sent⟩
      have deletingAgain := (creating_of_conflict again presentAgain).1
      have twice := careful.once _ _ _ _ sent (request_of_deleting call answers deletingAgain)
      omega
  · intro condition
    by_cases reused : Reused call answers
    · have never (i : ℕ) (path : String)
          (sent : request call (stateAt call answers i) = some (.delete path)) : False :=
        ne_deleting_of_reused call answers reused i (deleting_of_request call answers sent)
      refine ⟨ends_iff.mpr (.inl reused), ?_, ?_, fun n token => genuine_run⟩
      · intro i j path path' sent
        exact (never i path sent).elim
      · intro i path sent
        exact (never i path sent).elim
    · have replaceable := condition.resolve_left reused
      have gone := fun present => (replaceable present).1
      have position {i : ℕ} {path : String}
          (sent : request call (stateAt call answers i) = some (.delete path)) :=
        deleting_at_first call answers reused gone (deleting_of_request call answers sent)
      refine ⟨ends_iff.mpr (.inr ?_), ?_, ?_, fun n token => genuine_run⟩
      · by_cases present : Conflict (answers (first call))
        · exact ⟨1, gone present⟩
        · exact ⟨0, present⟩
      · intro i j path path' sent sent'
        have here := (position sent).1
        have there := (position sent').1
        omega
      · intro i path sent
        exact (replaceable (position sent).2).2

/-- A token is deleted although its secret was never refused: the probe got no answer. -/
theorem unreachable_probe_deletes :
    ¬ Careful ⟨"root@pam", "pcenter", "stored", fun _ => .ok .null⟩
      (fun n => if n = 0 then .failed "timeout"
        else if n = 1 then .replied 400 (.ok "Token already exists.")
        else .replied 200 (.ok "null")) := by
  intro careful
  have justified := careful.justified 2 _ rfl
  rcases justified with none_stored | ⟨status, body, reply, -⟩
  · exact absurd none_stored (by decide)
  · cases reply

end Iff

end TokenCreation
