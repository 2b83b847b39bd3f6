import PCenter.Lib.Transition

/-!
# Threads over a shared state

Threads of one process act on a shared state, one atomic step at a time and in any order.
An event names the thread that acts, or begins a new one; a thread is first seen with its
first step, since before it the thread has done nothing. A step may start other threads, and
a step that the thread cannot take brings the whole process down. `step_cases` says all that
an event can do.
-/

namespace Thread

structure World (P S : Type) where
  shared : S
  /-- Every thread that began, in that order; those that ended stay. -/
  pool : List P
  down : Bool

/-- What happens next, with whatever the outside contributes to it. -/
inductive Event (Q O : Type) where
  | begins (q : Q) (o : O)
  | goes (i : Nat) (o : O)

variable {P S O Q : Type} (advance : P → O → S → Option (P × S × List P)) (request : Q → P)

/-- One step of the thread at a place of the pool. -/
def move (w : World P S) (i : Nat) (o : O) : World P S :=
  match w.pool[i]? with
  | none => w
  | some t =>
      match advance t o w.shared with
      | none => { w with down := true }
      | some (t', s, new) => { w with shared := s, pool := w.pool.set i t' ++ new }

/-- The pool with the thread that an event begins. -/
def called (w : World P S) : Event Q O → List P
  | .begins q _ => w.pool ++ [request q]
  | .goes _ _ => w.pool

def step (w : World P S) (e : Event Q O) : World P S :=
  if w.down then w
  else
    match e with
    | .begins _ o => move advance { w with pool := called request w e } w.pool.length o
    | .goes i o => move advance w i o

/-- The thread that an event lets act. -/
def actor (w : World P S) : Event Q O → Option (P × O)
  | .begins q o => if w.down then none else some (request q, o)
  | .goes i o => if w.down then none else w.pool[i]?.map fun t => (t, o)

theorem move_cases (w : World P S) (i : Nat) (o : O) :
    w.pool[i]? = none ∧ move advance w i o = w ∨
      ∃ t before after, w.pool[i]? = some t ∧ w.pool = before ++ t :: after ∧
        (advance t o w.shared = none ∧ move advance w i o = { w with down := true } ∨
          ∃ t' s new, advance t o w.shared = some (t', s, new) ∧
            move advance w i o = ⟨s, before ++ t' :: after ++ new, w.down⟩) := by
  cases at_i : w.pool[i]? with
  | none => exact .inl ⟨rfl, by simp [move, at_i]⟩
  | some t =>
      obtain ⟨inside, found⟩ := List.getElem?_eq_some_iff.mp at_i
      refine .inr ⟨t, w.pool.take i, w.pool.drop (i + 1), rfl, ?_, ?_⟩
      · rw [← found, List.getElem_cons_drop, List.take_append_drop]
      · cases advanced : advance t o w.shared with
        | none => exact .inl ⟨rfl, by simp [move, at_i, advanced]⟩
        | some next =>
            obtain ⟨t', s, new⟩ := next
            refine .inr ⟨t', s, new, rfl, ?_⟩
            have placed := List.set_eq_take_append_cons_drop (l := w.pool) (i := i) (a := t')
            rw [if_pos inside] at placed
            simp [move, at_i, advanced, placed]

/-- The thread `t` takes its turn, standing between `before` and `after`. -/
inductive Turn (w : World P S) : Event Q O → P → O → List P → List P → Prop where
  | begins (q : Q) (o : O) : Turn w (.begins q o) (request q) o w.pool []
  | goes (i : Nat) (o : O) (t : P) (before after : List P) :
      w.pool[i]? = some t → w.pool = before ++ t :: after → Turn w (.goes i o) t o before after

variable {request} in
theorem Turn.others {w : World P S} {e : Event Q O} {t : P} {o : O} {before after : List P}
    (turn : Turn request w e t o before after) : (before ++ after).Sublist w.pool := by
  cases turn with
  | begins => simp
  | goes _ _ _ _ _ _ split =>
      rw [split]
      exact (List.sublist_cons_self t after).append_left before

variable {request} in
theorem Turn.called_eq {w : World P S} {e : Event Q O} {t : P} {o : O} {before after : List P}
    (turn : Turn request w e t o before after) : called request w e = before ++ t :: after := by
  cases turn with
  | begins => rfl
  | goes _ _ _ _ _ _ split => exact split

variable {request} in
theorem Turn.mem_cases {w : World P S} {e : Event Q O} {t t' u : P} {o : O}
    {before after new : List P} (turn : Turn request w e t o before after)
    (member : u ∈ before ++ t' :: after ++ new) : u ∈ w.pool ∨ u = t' ∨ u ∈ new := by
  simp only [List.mem_append, List.mem_cons] at member
  rcases member with (member | rfl | member) | member
  · exact .inl (turn.others.subset (List.mem_append_left after member))
  · exact .inr (.inl rfl)
  · exact .inl (turn.others.subset (List.mem_append_right before member))
  · exact .inr (.inr member)

variable {request} in
/-- The thread takes its turn at its place: it stood there before, or it is the next new one. -/
theorem Turn.getElem?_actor {w : World P S} {e : Event Q O} {t : P} {o : O} {before after : List P}
    (turn : Turn request w e t o before after) :
    w.pool[before.length]? = some t ∨ before.length = w.pool.length ∧ ∃ q, request q = t := by
  cases turn with
  | begins q => exact .inr ⟨rfl, q, rfl⟩
  | goes _ _ _ _ _ _ split => exact .inl (by simp [split])

variable {request} in
theorem Turn.getElem?_cases {w : World P S} {e : Event Q O} {t t' u : P} {o : O}
    {before after : List P} {i : ℕ} (turn : Turn request w e t o before after)
    (found : (before ++ t' :: after)[i]? = some u) :
    i = before.length ∧ u = t' ∨ w.pool[i]? = some u := by
  by_cases here : i = before.length
  · subst here
    refine .inl ⟨rfl, ?_⟩
    simpa using found.symm
  · refine .inr ?_
    have same : (before ++ t :: after)[i]? = (before ++ t' :: after)[i]? := by
      rw [List.getElem?_append, List.getElem?_append]
      split_ifs with early
      · rfl
      · rw [List.getElem?_cons, List.getElem?_cons, if_neg (by omega), if_neg (by omega)]
    rw [← same] at found
    cases turn with
    | begins =>
        rw [List.getElem?_append_left] at found
        · exact found
        · have inside := (List.getElem?_eq_some_iff.mp found).1
          simp at inside
          omega
    | goes _ _ _ _ _ _ split =>
        rw [split]
        exact found

variable {request} in
/-- What holds of the requests and of the pool holds of the thread that takes its turn. -/
theorem Turn.actor_of {w : World P S} {e : Event Q O} {t : P} {o : O} {before after : List P}
    {good : P → Prop} (turn : Turn request w e t o before after) (fresh : ∀ q, good (request q))
    (pool : ∀ u ∈ w.pool, good u) : good t := by
  cases turn with
  | begins q => exact fresh q
  | goes _ _ _ _ _ here => exact pool t (List.mem_of_getElem? here)

variable {request} in
theorem forall_called {w : World P S} {e : Event Q O} {good : P → Prop}
    (fresh : ∀ q o, e = .begins q o → good (request q)) (pool : ∀ u ∈ w.pool, good u) :
    ∀ u ∈ called request w e, good u := by
  cases e with
  | begins q o =>
      intro u member
      rcases List.mem_append.mp member with earlier | new
      · exact pool u earlier
      · rw [List.mem_singleton.mp new]
        exact fresh q o rfl
  | goes i o => exact pool

variable {request} in
theorem countP_called {w : World P S} {e : Event Q O} {test : P → Bool}
    (foreign : ∀ q, test (request q) = false) :
    (called request w e).countP test = w.pool.countP test := by
  cases e with
  | begins q o => simp [called, foreign q]
  | goes i o => rfl

theorem countP_middle {A : Type} (test : A → Bool) (before after : List A) (a : A) :
    (before ++ a :: after).countP test = [a].countP test + (before ++ after).countP test := by
  simp only [List.countP_append, List.countP_cons, List.countP_nil]
  omega

theorem eq_of_countP_le_one {A : Type} {test : A → Bool} {l : List A} (one : l.countP test ≤ 1)
    {a b : A} (left : a ∈ l) (right : b ∈ l) (first : test a = true) (second : test b = true) :
    a = b := by
  rw [List.countP_eq_length_filter] at one
  have a_in : a ∈ l.filter test := List.mem_filter.mpr ⟨left, first⟩
  have b_in : b ∈ l.filter test := List.mem_filter.mpr ⟨right, second⟩
  match kept : l.filter test, one with
  | [], _ => simp [kept] at a_in
  | [x], _ =>
      rw [kept, List.mem_singleton] at a_in b_in
      rw [a_in, b_in]

variable {request} in
/-- A thread that no request begins with was in the pool before its turn. -/
theorem Turn.called_of_later {w : World P S} {e : Event Q O} {t : P} {o : O} {before after : List P}
    (turn : Turn request w e t o before after) (later : ∀ q, request q ≠ t) :
    called request w e = w.pool := by
  cases turn with
  | begins q => exact absurd rfl (later q)
  | goes => rfl

variable {request} in
theorem Turn.mem_of_later {w : World P S} {e : Event Q O} {t : P} {o : O} {before after : List P}
    (turn : Turn request w e t o before after) (later : ∀ q, request q ≠ t) : t ∈ w.pool := by
  rw [← turn.called_of_later later, turn.called_eq]
  exact List.mem_append_right before List.mem_cons_self

/-- An event does nothing, or a thread takes a step among the others, or that step brings the
process down. -/
theorem step_cases (w : World P S) (e : Event Q O) :
    actor request w e = none ∧ step advance request w e = w ∨
      ∃ t o before after, actor request w e = some (t, o) ∧ w.down = false ∧
        Turn request w e t o before after ∧
        (advance t o w.shared = none ∧
            step advance request w e = ⟨w.shared, called request w e, true⟩ ∨
          ∃ t' s new, advance t o w.shared = some (t', s, new) ∧
            step advance request w e = ⟨s, before ++ t' :: after ++ new, false⟩) := by
  cases up : w.down with
  | true => cases e <;> exact .inl ⟨by simp [actor, up], by simp [step, up]⟩
  | false =>
      cases e with
      | begins q o =>
          refine .inr ⟨request q, o, w.pool, [], by simp [actor, up], rfl, .begins q o, ?_⟩
          cases advanced : advance (request q) o w.shared with
          | none => exact .inl ⟨rfl, by simp [step, up, move, called, advanced]⟩
          | some next =>
              obtain ⟨t', s, new⟩ := next
              exact .inr ⟨t', s, new, rfl, by simp [step, up, move, called, advanced]⟩
      | goes i o =>
          rcases move_cases advance w i o with ⟨missing, same⟩ |
            ⟨t, before, after, here, split, rest⟩
          · exact .inl ⟨by simp [actor, missing], by simpa [step, up] using same⟩
          · refine .inr ⟨t, o, before, after, by simp [actor, up, here], rfl,
              .goes i o t before after here split, ?_⟩
            rcases rest with ⟨stuck, down⟩ | ⟨t', s, new, advanced, moved⟩
            · exact .inl ⟨stuck, by simp [step, up, down, called]⟩
            · exact .inr ⟨t', s, new, advanced, by simpa [step, up] using moved⟩

/-- The steps of threads that never get stuck and start no others. -/
theorem step_cases_of_total (next : P → O → S → P × S)
    (total : ∀ t o s, advance t o s = some ((next t o s).1, (next t o s).2, []))
    (w : World P S) (e : Event Q O) :
    actor request w e = none ∧ step advance request w e = w ∨
      ∃ t o before after, actor request w e = some (t, o) ∧ w.down = false ∧
        Turn request w e t o before after ∧
        step advance request w e =
          ⟨(next t o w.shared).2, before ++ (next t o w.shared).1 :: after, false⟩ := by
  rcases step_cases advance request w e with same |
    ⟨t, o, before, after, acts, up, turn, ⟨stuck, -⟩ | ⟨t', s, new, advanced, moved⟩⟩
  · exact .inl same
  · cases stuck.symm.trans (total t o w.shared)
  · refine .inr ⟨t, o, before, after, acts, up, turn, ?_⟩
    obtain ⟨rfl, rest⟩ := Prod.mk.inj (Option.some.inj (advanced.symm.trans (total t o w.shared)))
    obtain ⟨rfl, rfl⟩ := Prod.mk.inj rest
    rw [moved, List.append_nil]

section Emissions

/-! What the threads give out: none more than it has to spend. -/

/-- The place of the thread that an event lets act. -/
def place (w : World P S) : Event Q O → ℕ
  | .begins _ _ => w.pool.length
  | .goes i _ => i

/-- A step as it changes the pool by places. -/
theorem step_at_place (w : World P S) (e : Event Q O) :
    actor request w e = none ∧ step advance request w e = w ∨
      ∃ t o, actor request w e = some (t, o) ∧ (called request w e)[place w e]? = some t ∧
        (advance t o w.shared = none ∧
            step advance request w e = ⟨w.shared, called request w e, true⟩ ∨
          ∃ t' s new, advance t o w.shared = some (t', s, new) ∧
            step advance request w e =
              ⟨s, (called request w e).set (place w e) t' ++ new, false⟩) := by
  cases up : w.down with
  | true => cases e <;> exact .inl ⟨by simp [actor, up], by simp [step, up]⟩
  | false =>
      cases e with
      | begins q o =>
          refine .inr ⟨request q, o, by simp [actor, up], by simp [called, place], ?_⟩
          cases advanced : advance (request q) o w.shared with
          | none => exact .inl ⟨rfl, by simp [step, up, move, called, advanced]⟩
          | some next =>
              exact .inr ⟨next.1, next.2.1, next.2.2, rfl,
                by simp [step, up, move, called, place, advanced]⟩
      | goes i o =>
          cases here : w.pool[i]? with
          | none => exact .inl ⟨by simp [actor, here], by simp [step, up, move, here]⟩
          | some t =>
              refine .inr ⟨t, o, by simp [actor, up, here], by simp [called, place, here], ?_⟩
              cases advanced : advance t o w.shared with
              | none => exact .inl ⟨rfl, by simp [step, up, move, called, here, advanced]⟩
              | some next =>
                  exact .inr ⟨next.1, next.2.1, next.2.2, rfl,
                    by simp [step, up, move, called, place, here, advanced]⟩

variable {A : Type} (emits : P → O → S → Option A)

/-- What a thread gives out in its turn, under the number of the thread. -/
def emitted (w : World P S) (e : Event Q O) : Option (ℕ × A) :=
  (actor request w e).bind fun turn =>
    (emits turn.1 turn.2 w.shared).map fun a => (place w e, a)

def emissions : World P S → List (Event Q O) → List (ℕ × A)
  | _, [] => []
  | w, e :: es =>
      (emitted request emits w e).toList ++ emissions (step advance request w e) es

/-- What the thread at a place has to spend; a thread that has not begun may have it all. -/
def funds (budget : P → ℕ) (bound : ℕ) (pool : List P) (i : ℕ) : ℕ :=
  (pool[i]?.map budget).getD bound

variable {budget : P → ℕ} {bound : ℕ}

theorem funds_set_append_le {pool new : List P} {n : ℕ} {t : P} (here : pool[n]? = some t)
    (spawned : ∀ u ∈ new, budget u ≤ bound) (t' : P) (i : ℕ) :
    funds budget bound (pool.set n t' ++ new) i ≤
      if i = n then budget t' else funds budget bound pool i := by
  have inside : n < pool.length := (List.getElem?_eq_some_iff.mp here).1
  by_cases same : i = n
  · subst same
    rw [if_pos rfl, funds, List.getElem?_append_left (by simpa using inside)]
    simp [inside]
  · rw [if_neg same, funds, funds]
    by_cases early : i < pool.length
    · apply Nat.le_of_eq
      rw [List.getElem?_append_left (by simpa using early), List.getElem?_set_ne (Ne.symm same)]
    · have beyond : pool.length ≤ i := by omega
      rw [List.getElem?_append_right (by simpa using beyond), List.getElem?_eq_none beyond]
      cases found : new[i - (pool.set n t').length]? with
      | none => exact Nat.le_refl bound
      | some u => exact spawned u (List.mem_of_getElem? found)

theorem funds_called_le (fresh : ∀ q, budget (request q) ≤ bound) (w : World P S) (e : Event Q O)
    (i : ℕ) : funds budget bound (called request w e) i ≤ funds budget bound w.pool i := by
  cases e with
  | goes _ _ => exact Nat.le_refl _
  | begins q o =>
      rw [funds, funds, called]
      by_cases early : i < w.pool.length
      · apply Nat.le_of_eq
        rw [List.getElem?_append_left early]
      · have beyond : w.pool.length ≤ i := by omega
        rw [List.getElem?_append_right beyond, List.getElem?_eq_none beyond]
        cases found : [request q][i - w.pool.length]? with
        | none => exact Nat.le_refl bound
        | some u =>
            obtain rfl := List.mem_singleton.mp (List.mem_of_getElem? found)
            exact fresh q

variable {advance request emits}

/-- A turn is paid for by the thread that takes it. -/
theorem emitted_add_funds_le (fresh : ∀ q, budget (request q) ≤ bound)
    (stuck : ∀ t o s, advance t o s = none → emits t o s = none)
    (spends : ∀ t o s t' s' new, advance t o s = some (t', s', new) →
      (emits t o s).toList.length + budget t' ≤ budget t)
    (spawned : ∀ t o s t' s' new, advance t o s = some (t', s', new) →
      ∀ u ∈ new, budget u ≤ bound) (w : World P S) (e : Event Q O) (i : ℕ) :
    (emitted request emits w e).toList.countP (fun a => a.1 = i) +
        funds budget bound (step advance request w e).pool i ≤ funds budget bound w.pool i := by
  have began := funds_called_le request fresh w e i
  rcases step_at_place advance request w e with ⟨idle, same⟩ |
    ⟨t, o, acts, here, ⟨blocked, moved⟩ | ⟨t', s', new, advanced, moved⟩⟩
  · simp [emitted, idle, same]
  · simpa [emitted, acts, stuck t o w.shared blocked, moved] using began
  · have pool : (step advance request w e).pool =
        (called request w e).set (place w e) t' ++ new := by rw [moved]
    rw [pool]
    have left := funds_set_append_le here (spawned t o w.shared t' s' new advanced) t' i
    have paid := spends t o w.shared t' s' new advanced
    have count : (emitted request emits w e).toList.countP (fun a => a.1 = i) =
        if i = place w e then (emits t o w.shared).toList.length else 0 := by
      rw [emitted, acts, Option.bind_some]
      dsimp only
      cases emits t o w.shared with
      | none => simp
      | some a => by_cases same : i = place w e <;> simp [same, eq_comm]
    rw [count]
    by_cases same : i = place w e
    · rw [if_pos same] at left ⊢
      have owned : funds budget bound (called request w e) i = budget t := by
        rw [same, funds, here]
        rfl
      omega
    · rw [if_neg same] at left ⊢
      omega

theorem countP_emissions_le (fresh : ∀ q, budget (request q) ≤ bound)
    (stuck : ∀ t o s, advance t o s = none → emits t o s = none)
    (spends : ∀ t o s t' s' new, advance t o s = some (t', s', new) →
      (emits t o s).toList.length + budget t' ≤ budget t)
    (spawned : ∀ t o s t' s' new, advance t o s = some (t', s', new) →
      ∀ u ∈ new, budget u ≤ bound) (w : World P S) (es : List (Event Q O)) (i : ℕ) :
    (emissions advance request emits w es).countP (fun a => a.1 = i) ≤
      funds budget bound w.pool i := by
  induction es generalizing w with
  | nil => exact Nat.zero_le _
  | cons e es ih =>
      have first := emitted_add_funds_le fresh stuck spends spawned w e i
      have later := ih (step advance request w e)
      rw [emissions, List.countP_append]
      omega

end Emissions

end Thread
