import PCenter.WebhookDispatch

/-!
# One delivery of a webhook

The loop of `deliver` in `internal/webhooks/dispatcher.go` with its attempts, its waits and the
context that ends it. A wait that the context ends leaves no record; an attempt that it ends does,
if it is the last one: `accounted_iff`.
-/

namespace Webhooks.Delivery

open Dispatcher (retrySchedule attempts delivered)

section Model

/-- What comes of the request of an attempt. -/
inductive Reply where
  | malformed
  | unreachable
  /-- The error of a context that is done. -/
  | interrupted
  | status (code : ℕ)
  deriving DecidableEq

inductive AttemptError where
  | request
  | transport
  | cancelled
  | status (code : ℕ)

def attempt : Reply → Except AttemptError Unit
  | .malformed => .error .request
  | .unreachable => .error .transport
  | .interrupted => .error .cancelled
  | .status code => if code < 200 ∨ 300 ≤ code then .error (.status code) else .ok ()

/-- What a delivery meets. Attempt `i` is step `2 * i`, and the wait behind it is the step after
that. The context may be cancelled in any step, at its very end too, or never. -/
structure Course where
  cancelled : Option ℕ
  reply : ℕ → Reply
  elapses : ℕ → Bool
  interrupted_after : ∀ i, reply i = .interrupted → ∃ k ∈ cancelled, k ≤ 2 * i
  /-- A timer runs for seconds, so a context that is done already ends the wait. -/
  not_elapses_after : ∀ i, ∀ k ∈ cancelled, k ≤ 2 * i → elapses i = false
  elapses_before : ∀ i, (∀ k ∈ cancelled, 2 * i + 1 < k) → elapses i = true

/-- The attempts made, the calls of `RecordDelivery` and the table behind them. -/
structure Outcome where
  made : List Reply
  records : List Bool
  db : DB

variable (c : Course) (id : String) (time : ℤ)

def Outcome.record (o : Outcome) (success : Bool) : Outcome :=
  { o with
    records := o.records ++ [success]
    db := (o.db.recordDelivery id success time).2 }

/-- The loop from one attempt on. -/
def deliverFrom (i : ℕ) : ℕ → Outcome → Outcome
  | 0, o => o.record id time false
  | left + 1, o =>
      if 0 < i ∧ c.elapses (i - 1) = false then o
      else
        let tried := { o with made := o.made ++ [c.reply i] }
        if (attempt (c.reply i)).isOk then tried.record id time true
        else deliverFrom (i + 1) left tried

/-- An event that has no JSON is not delivered. -/
def deliver (body : Option String) (d : DB) : Outcome :=
  match body with
  | none => ⟨[], [], d⟩
  | some _ => deliverFrom c id time 0 attempts ⟨[], [], d⟩

end Model

section Property

variable (c : Course)

/-- The delivery is accounted for once, and a shutdown is no failure. -/
structure Accounted (o : Outcome) : Prop where
  bounded : o.made.length ≤ 1 + retrySchedule.length
  stops : ∀ i r, o.made[i]? = some r → (attempt r).isOk = true → i + 1 = o.made.length
  once : c.cancelled = none → o.records = [o.made.any fun r => (attempt r).isOk]
  at_most : o.records.length ≤ 1
  success : true ∈ o.records → ∃ r ∈ o.made, (attempt r).isOk = true
  failure : false ∈ o.records →
    o.made.length = 1 + retrySchedule.length ∧ ∀ r ∈ o.made, r ≠ .interrupted

/-- The attempts and the waits of a delivery without an answer, before attempt `n`. -/
structure Reaches (n : ℕ) : Prop where
  fails : ∀ i < n, (attempt (c.reply i)).isOk = false
  waits : ∀ i < n, c.elapses i = true

def LastInterrupted : Prop :=
  Reaches c retrySchedule.length ∧ c.reply retrySchedule.length = .interrupted

end Property

section Runs

variable {c : Course} {id : String} {time : ℤ} {d : DB} {i n : ℕ}

theorem not_elapses_of_interrupted (interrupted : c.reply i = .interrupted) :
    c.elapses i = false := by
  obtain ⟨k, cancel, before⟩ := c.interrupted_after i interrupted
  exact c.not_elapses_after i k cancel before

theorem elapses_of_never (never : c.cancelled = none) (i : ℕ) : c.elapses i = true := by
  refine c.elapses_before i fun k cancel => ?_
  rw [never] at cancel
  cases cancel

theorem Reaches.not_interrupted (reaches : Reaches c n) (before : i < n) :
    c.reply i ≠ .interrupted := by
  intro interrupted
  have ends := not_elapses_of_interrupted interrupted
  rw [reaches.waits i before] at ends
  cases ends

theorem fails_succ (reaches : Reaches c n) (fails : (attempt (c.reply n)).isOk = false) :
    ∀ i < n + 1, (attempt (c.reply i)).isOk = false := by
  intro i before
  rcases Nat.lt_succ_iff_lt_or_eq.mp before with less | rfl
  · exact reaches.fails i less
  · exact fails

/-- The replies to the first attempts. -/
def replies (c : Course) (n : ℕ) : List Reply := (List.range n).map c.reply

theorem replies_succ (c : Course) (n : ℕ) : replies c (n + 1) = replies c n ++ [c.reply n] := by
  rw [replies, List.range_succ, List.map_append]
  rfl

/-- The ways in which a delivery ends. -/
inductive Ends (c : Course) (id : String) (time : ℤ) (d : DB) : Outcome → Prop where
  | succeeded (n : ℕ) (inside : n < attempts) (reaches : Reaches c n)
      (answer : (attempt (c.reply n)).isOk = true) :
      Ends c id time d ⟨replies c (n + 1), [true], (d.recordDelivery id true time).2⟩
  | shutdown (n : ℕ) (inside : n + 1 < attempts) (reaches : Reaches c n)
      (fails : (attempt (c.reply n)).isOk = false) (ended : c.elapses n = false) :
      Ends c id time d ⟨replies c (n + 1), [], d⟩
  | gaveUp (reaches : Reaches c retrySchedule.length)
      (fails : (attempt (c.reply retrySchedule.length)).isOk = false) :
      Ends c id time d ⟨replies c attempts, [false], (d.recordDelivery id false time).2⟩

theorem ends_deliverFrom (left : ℕ) : ∀ n, n + 1 + left = attempts → Reaches c n →
    (attempt (c.reply n)).isOk = false →
    Ends c id time d (deliverFrom c id time (n + 1) left ⟨replies c (n + 1), [], d⟩) := by
  induction left with
  | zero =>
      intro n last reaches fails
      have here : n = retrySchedule.length := by
        rw [attempts] at last
        omega
      subst here
      have all : retrySchedule.length + 1 = attempts := by omega
      rw [deliverFrom, Outcome.record, all]
      exact .gaveUp reaches fails
  | succ left ih =>
      intro n more reaches fails
      rw [deliverFrom, Nat.add_sub_cancel]
      by_cases ended : c.elapses n = false
      · rw [if_pos ⟨Nat.succ_pos n, ended⟩]
        exact .shutdown n (by omega) reaches fails ended
      · rw [if_neg fun stop => ended stop.2]
        have further : Reaches c (n + 1) := by
          refine ⟨fails_succ reaches fails, fun i before => ?_⟩
          rcases Nat.lt_succ_iff_lt_or_eq.mp before with less | rfl
          · exact reaches.waits i less
          · exact eq_true_of_ne_false ended
        have made : replies c (n + 1) ++ [c.reply (n + 1)] = replies c (n + 1 + 1) :=
          (replies_succ c (n + 1)).symm
        by_cases answer : (attempt (c.reply (n + 1))).isOk = true
        · simp only [answer, if_true, Outcome.record, made]
          exact .succeeded (n + 1) (by omega) further answer
        · simp only [answer, made]
          exact ih (n + 1) (by omega) further (eq_false_of_ne_true answer)

theorem ends_deliver (c : Course) (id : String) (time : ℤ) (body : String) (d : DB) :
    Ends c id time d (deliver c id time (some body) d) := by
  have reaches : Reaches c 0 := by
    constructor
    · intro i before
      omega
    · intro i before
      omega
  have all : attempts = retrySchedule.length + 1 := Nat.add_comm _ _
  rw [deliver, all, deliverFrom, if_neg (by omega)]
  have made : [] ++ [c.reply 0] = replies c 1 := rfl
  by_cases answer : (attempt (c.reply 0)).isOk = true
  · simp only [answer, if_true, Outcome.record, made]
    exact .succeeded 0 (by omega) reaches answer
  · simp only [answer, made]
    exact ends_deliverFrom retrySchedule.length 0 (by omega) reaches (eq_false_of_ne_true answer)

end Runs

section Accounts

variable {c : Course} {id : String} {time : ℤ} {d : DB} {n : ℕ} {r : Reply}

@[simp] theorem length_replies (c : Course) (n : ℕ) : (replies c n).length = n := by
  simp [replies]

theorem mem_replies_iff : r ∈ replies c n ↔ ∃ i < n, c.reply i = r := by
  simp [replies]

theorem not_any_replies (fails : ∀ i < n, (attempt (c.reply i)).isOk = false) :
    ((replies c n).any fun r => (attempt r).isOk) = false := by
  refine List.any_eq_false.mpr fun r made => ?_
  obtain ⟨i, before, rfl⟩ := mem_replies_iff.mp made
  simp [fails i before]

theorem stops_replies (fails : ∀ i < n, (attempt (c.reply i)).isOk = false) :
    ∀ i r, (replies c (n + 1))[i]? = some r → (attempt r).isOk = true →
      i + 1 = (replies c (n + 1)).length := by
  intro i r made answer
  obtain ⟨inside, rfl⟩ : i < n + 1 ∧ c.reply i = r := by
    obtain ⟨inside, same⟩ := List.getElem?_eq_some_iff.mp made
    rw [length_replies] at inside
    exact ⟨inside, by simpa [replies] using same⟩
  rw [length_replies]
  by_contra differ
  have early := fails i (by omega)
  rw [answer] at early
  cases early

theorem accounted_succeeded (inside : n < attempts) (reaches : Reaches c n)
    (answer : (attempt (c.reply n)).isOk = true) (d : DB) :
    Accounted c ⟨replies c (n + 1), [true], d⟩ where
  bounded := by
    rw [length_replies]
    exact inside
  stops := stops_replies reaches.fails
  once _ := by
    have last : c.reply n ∈ replies c (n + 1) := mem_replies_iff.mpr ⟨n, Nat.lt_succ_self n, rfl⟩
    rw [List.any_eq_true.mpr ⟨c.reply n, last, answer⟩]
  at_most := Nat.le_refl 1
  success _ := ⟨c.reply n, mem_replies_iff.mpr ⟨n, Nat.lt_succ_self n, rfl⟩, answer⟩
  failure recorded := by simp at recorded

theorem accounted_shutdown (inside : n + 1 < attempts) (reaches : Reaches c n)
    (ended : c.elapses n = false) (d : DB) :
    Accounted c ⟨replies c (n + 1), [], d⟩ where
  bounded := by
    rw [length_replies]
    exact Nat.le_of_lt inside
  stops := stops_replies reaches.fails
  once never := by
    rw [elapses_of_never never n] at ended
    cases ended
  at_most := Nat.zero_le 1
  success recorded := by simp at recorded
  failure recorded := by simp at recorded

theorem accounted_gaveUp_iff (reaches : Reaches c retrySchedule.length)
    (fails : (attempt (c.reply retrySchedule.length)).isOk = false) (d : DB) :
    Accounted c ⟨replies c attempts, [false], d⟩ ↔
      c.reply retrySchedule.length ≠ .interrupted := by
  have all : attempts = retrySchedule.length + 1 := Nat.add_comm _ _
  constructor
  · intro accounted
    have last : c.reply retrySchedule.length ∈ replies c attempts :=
      mem_replies_iff.mpr ⟨retrySchedule.length, by omega, rfl⟩
    exact (accounted.failure List.mem_cons_self).2 _ last
  · intro own
    rw [all]
    constructor
    · rw [length_replies]
      omega
    · exact stops_replies reaches.fails
    · intro never
      rw [not_any_replies (fails_succ reaches fails)]
    · exact Nat.le_refl 1
    · intro recorded
      simp at recorded
    · intro recorded
      refine ⟨by rw [length_replies, Nat.add_comm], fun r made => ?_⟩
      obtain ⟨i, before, rfl⟩ := mem_replies_iff.mp made
      rcases Nat.lt_succ_iff_lt_or_eq.mp before with less | rfl
      · exact reaches.not_interrupted less
      · exact own

/-- When a delivery is accounted for. -/
theorem accounted_iff (c : Course) (id : String) (time : ℤ) (body : String) (d : DB) :
    Accounted c (deliver c id time (some body) d) ↔ ¬LastInterrupted c := by
  have all : attempts = retrySchedule.length + 1 := Nat.add_comm _ _
  have ends := ends_deliver c id time body d
  generalize deliver c id time (some body) d = o at ends ⊢
  cases ends with
  | succeeded n inside reaches answer =>
      refine iff_of_true (accounted_succeeded inside reaches answer _) fun last => ?_
      by_cases retried : n < retrySchedule.length
      · rw [last.1.fails n retried] at answer
        cases answer
      · have here : n = retrySchedule.length := by omega
        rw [here, last.2] at answer
        cases answer
  | shutdown n inside reaches fails ended =>
      refine iff_of_true (accounted_shutdown inside reaches ended _) fun last => ?_
      rw [last.1.waits n (by omega)] at ended
      cases ended
  | gaveUp reaches fails =>
      rw [accounted_gaveUp_iff reaches fails]
      exact ⟨fun own last => own last.2, fun kept same => kept ⟨reaches, same⟩⟩

/-- Without a shutdown the table is that of `Dispatcher.Event.deliver`. -/
theorem db_deliver_of_never (never : c.cancelled = none) (id : String) (time : ℤ)
    (body : String) (d : DB) : (deliver c id time (some body) d).db =
      (d.recordDelivery id (delivered fun i => (attempt (c.reply i)).isOk) time).2 := by
  have all : attempts = retrySchedule.length + 1 := Nat.add_comm _ _
  have ends := ends_deliver c id time body d
  generalize deliver c id time (some body) d = o at ends ⊢
  cases ends with
  | succeeded n inside reaches answer =>
      have answered : (delivered fun i => (attempt (c.reply i)).isOk) = true :=
        List.any_eq_true.mpr ⟨n, List.mem_range.mpr inside, answer⟩
      rw [answered]
  | shutdown n inside reaches fails ended =>
      rw [elapses_of_never never n] at ended
      cases ended
  | gaveUp reaches fails =>
      have unanswered : (delivered fun i => (attempt (c.reply i)).isOk) = false := by
        refine List.any_eq_false.mpr fun i inside => ?_
        rw [List.mem_range, all] at inside
        simp [fails_succ reaches fails i inside]
      rw [unanswered]

end Accounts

section Counterexample

/-- An endpoint that does not answer, and a shutdown in the last attempt. -/
def lastMinute : Course where
  cancelled := some 6
  reply i := if i < 3 then .unreachable else .interrupted
  elapses i := decide (i < 3)
  interrupted_after i interrupted := by
    refine ⟨6, rfl, ?_⟩
    by_contra early
    rw [if_pos (by omega)] at interrupted
    cases interrupted
  not_elapses_after i k cancel before := by
    cases cancel
    exact decide_eq_false (by omega)
  elapses_before i later := by
    have before := later 6 rfl
    exact decide_eq_true (by omega)

/-- The shutdown counts as a failure of the endpoint. -/
theorem shutdown_counted : ¬∀ (c : Course) (id : String) (time : ℤ) (body : String) (d : DB),
    Accounted c (deliver c id time (some body) d) := by
  intro follows
  have recorded : false ∈ (deliver lastMinute "e1" 0 (some "{}") ∅).records := by decide
  have made : Reply.interrupted ∈ (deliver lastMinute "e1" 0 (some "{}") ∅).made := by decide
  exact ((follows lastMinute "e1" 0 "{}" ∅).failure recorded).2 _ made rfl

end Counterexample

end Webhooks.Delivery
