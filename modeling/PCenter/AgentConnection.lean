import PCenter.Lib.Thread
import Mathlib.Logic.Function.Basic

/-!
# The agent's connection to the backend

`Client` of `pve-agent/internal/client/websocket.go` and `connectWithRetry` of
`cmd/pve-agent/main.go`. One thread connects again and again; each connection that is made
starts a pump that reads and a pump that writes. The pumps do not know which connection
they were started for: both look into the field that the next connection replaces, and the
end of either empties it. A pump is numbered here by the connection it was started for.
`writePump` writes under the lock; `readPump` reads without it. Back-off times and the texts
of messages are left out. Whether a read or a write fails is left to the outside, also for
a closed socket, since a message may have been buffered.
-/

namespace AgentConnection

open Transition

structure Client where
  conn : Option Nat
  closed : Bool
  /-- The number of the close channel; a reset makes the next one. -/
  closeCh : Nat
  /-- The close channels that were closed. -/
  shut : Nat → Bool
  /-- The sockets that were closed. -/
  gone : Nat → Bool
  /-- How many messages wait in the send channel. -/
  queued : Nat
  locked : Bool
  /-- How many connections were dialled. -/
  made : Nat

def newClient : Client := ⟨none, false, 0, fun _ => false, fun _ => false, 0, false, 0⟩

namespace Client

def closeSocket (k : Nat) (c : Client) : Client :=
  { c with gone := Function.update c.gone k true }

/-- What `Connect` stores. -/
def store (k : Nat) (c : Client) : Client :=
  { c with conn := some k, closed := false, closeCh := c.closeCh + 1 }

/-- The end of a pump. -/
def clear (c : Client) : Client :=
  match c.conn with
  | none => c
  | some k => { c.closeSocket k with conn := none }

/-- `Send` -/
def send (c : Client) : Client := if c.queued < 100 then { c with queued := c.queued + 1 } else c

/-- `Close`; to close a channel twice ends the process. -/
def close (c : Client) : Option Client :=
  if c.closed then some c
  else if c.shut c.closeCh then none
  else
    let c := { c with closed := true, shut := Function.update c.shut c.closeCh true }
    match c.conn with
    | none => some c
    | some k => some (c.closeSocket k)

def isConnected (c : Client) : Bool := c.conn.isSome && !c.closed

end Client

/-- What a read ends with. -/
inductive Read where
  | failed
  | command
  /- A message that cannot be parsed or that has no handler. -/
  | other
  deriving DecidableEq

/-- Which case of its `select` the writer takes. -/
inductive Ready where
  | message
  | tick
  | close

structure Outside where
  dialled : Bool
  cancelled : Bool
  read : Read
  ready : Ready
  writeFails : Bool

inductive Request where
  | close
  | send

inductive Thread where
  | dialing
  | storing (k : Nat)
  | greeting (k : Nat)
  | hailing (k held : Nat)
  | starting (k : Nat)
  | watching
  | waiting
  | stopped
  | looping (g : Nat)
  | reading (g k : Nat)
  | handling (g : Nat)
  | leaving (g : Nat)
  | left (g : Nat)
  | turning (g : Nat)
  | selecting (g ch : Nat)
  | picked (g : Nat)
  | writing (g k : Nat)
  | exiting (g : Nat)
  | exited (g : Nat)
  | closing
  | sending
  | returned

def request : Request → Thread
  | .close => .closing
  | .send => .sending

/-- `Connect` and the loop around it. -/
def connect (o : Outside) (c : Client) : Thread → Thread × Client × List Thread
  | .dialing =>
      if o.cancelled then (.stopped, c, [])
      else if o.dialled then (.storing c.made, { c with made := c.made + 1 }, [])
      else (.waiting, c, [])
  | .storing k => if c.locked then (.storing k, c, []) else (.greeting k, c.store k, [])
  | .greeting k =>
      if c.locked then (.greeting k, c, [])
      else
        match c.conn with
        | none => (.starting k, c, [])
        | some held => (.hailing k held, { c with locked := true }, [])
  | .hailing k _ =>
      if o.writeFails then (.waiting, { c.closeSocket k with locked := false }, [])
      else (.starting k, { c with locked := false }, [])
  | .starting k => (.watching, c, [.looping k, .turning k])
  | .watching =>
      if c.locked then (.watching, c, [])
      else if c.isConnected then (if o.cancelled then .stopped else .watching, c, [])
      else (.waiting, c, [])
  | .waiting => (if o.cancelled then .stopped else .dialing, c, [])
  | t => (t, c, [])

/-- `writePump` -/
def write (o : Outside) (c : Client) : Thread → Thread × Client
  | .turning g => (.selecting g c.closeCh, c)
  | .selecting g ch =>
      match o.ready with
      | .message =>
          if c.queued = 0 then (.selecting g ch, c)
          else (.picked g, { c with queued := c.queued - 1 })
      | .tick => (.picked g, c)
      | .close => if c.shut ch then (.exiting g, c) else (.selecting g ch, c)
  | .picked g =>
      if c.locked then (.picked g, c)
      else
        match c.conn with
        | none => (.exiting g, c)
        | some k => (.writing g k, { c with locked := true })
  | .writing g _ => (if o.writeFails then .exiting g else .turning g, { c with locked := false })
  | .exiting g => if c.locked then (.exiting g, c) else (.exited g, c.clear)
  | t => (t, c)

/-- `readPump`; to read from a nil connection ends the process. -/
def read (o : Outside) (c : Client) : Thread → Option (Thread × Client)
  | .looping g =>
      match c.conn with
      | none => none
      | some k => some (.reading g k, c)
  | .reading g _ =>
      match o.read with
      | .failed => some (.leaving g, c)
      | .command => some (.handling g, c)
      | .other => some (.looping g, c)
  | .handling g => some (.looping g, c.send)
  | .leaving g => if c.locked then some (.leaving g, c) else some (.left g, c.clear)
  | t => some (t, c)

def advance (t : Thread) (o : Outside) (c : Client) : Option (Thread × Client × List Thread) :=
  match t with
  | .dialing | .storing _ | .greeting _ | .hailing _ _ | .starting _ | .watching | .waiting
  | .stopped => some (connect o c t)
  | .looping _ | .reading _ _ | .handling _ | .leaving _ | .left _ =>
      (read o c t).map fun (t, c) => (t, c, [])
  | .turning _ | .selecting _ _ | .picked _ | .writing _ _ | .exiting _ | .exited _ =>
      some ((write o c t).1, (write o c t).2, [])
  | .closing =>
      if c.locked then some (.closing, c, []) else c.close.map fun c => (.returned, c, [])
  | .sending => some (.returned, c.send, [])
  | .returned => some (.returned, c, [])

abbrev World := Thread.World Thread Client

abbrev Event := Thread.Event Request Outside

def step : World → Event → World := Thread.step advance request

def start : World := ⟨newClient, [.dialing], false⟩

def actor (w : World) (e : Event) : Option (Thread × Outside) := Thread.actor request w e

namespace Thread

/-- A read pump that has not ended. -/
def reader : Thread → Bool
  | looping _ | reading _ _ | handling _ | leaving _ => true
  | _ => false

/-- A write pump that has not ended. -/
def writer : Thread → Bool
  | turning _ | selecting _ _ | picked _ | writing _ _ | exiting _ => true
  | _ => false

def live (t : Thread) : Bool := t.reader || t.writer

/-- A read pump between two reads. -/
def between : Thread → Bool
  | looping _ | handling _ => true
  | _ => false

/-- `Connect` has stored a connection and has not started its pumps yet. -/
def opens : Thread → Bool
  | greeting _ | hailing _ _ | starting _ => true
  | _ => false

def connects : Thread → Bool
  | dialing | storing _ | greeting _ | hailing _ _ | starting _ | watching | waiting | stopped => true
  | _ => false

def readsFrom (k : Nat) : Thread → Bool
  | reading _ j => j = k
  | _ => false

def writesTo (k : Nat) : Thread → Bool
  | writing _ j => j = k
  | _ => false

end Thread

/-- A thread counts on the connection it was started for, or on none at all. -/
def Fits (conn : Option Nat) : Thread → Prop
  | .looping g | .handling g | .greeting g | .hailing g _ | .starting g => conn = some g
  | .reading g k => k = g ∧ (conn = some g ∨ conn = none)
  | .leaving g | .turning g | .selecting g _ | .picked g | .writing g _ | .exiting g =>
      conn = some g ∨ conn = none
  | _ => True

/-- Only the close channel of a closed client is closed. -/
def Tidy (c : Client) : Prop :=
  ∀ ch, c.closeCh ≤ ch → c.shut ch = true → ch = c.closeCh ∧ c.closed = true

/-- All that a step does to the connection. -/
inductive Effect (o : Outside) (c : Client) : Thread → Thread → Client → List Thread → Prop where
  | quiet (t t' : Thread) (c' : Client) : c'.conn = c.conn →
      (t'.reader = true → t.reader = true) → (t'.writer = true → t.writer = true) →
      t'.connects = t.connects → (t'.opens = true → t.opens = true) →
      ((∀ g k, t = .reading g k → o.read ≠ .failed → c.conn = some k) → Fits c.conn t →
        Fits c.conn t') → Effect o c t t' c' []
  | store (k : Nat) : Effect o c (.storing k) (.greeting k) (c.store k) []
  | leave (g : Nat) : Effect o c (.leaving g) (.left g) c.clear []
  | exit (g : Nat) : Effect o c (.exiting g) (.exited g) c.clear []
  | start (k : Nat) : Effect o c (.starting k) .watching c [.looping k, .turning k]

section Effects

variable {o : Outside} {c c' : Client} {t t' : Thread} {new : List Thread}

theorem effect_rest (o : Outside) (c : Client) (t : Thread) : Effect o c t t c [] :=
  .quiet t t c rfl id id rfl id fun _ => id

theorem effect_connect (connects : t.connects = true) :
    Effect o c t (connect o c t).1 (connect o c t).2.1 (connect o c t).2.2 := by
  cases t with
  | dialing =>
      rw [connect]
      split_ifs <;> exact .quiet _ _ _ rfl nofun nofun rfl nofun fun _ _ => trivial
  | storing k =>
      rw [connect]
      split_ifs
      · exact effect_rest o c _
      · exact .store k
  | greeting k =>
      rw [connect]
      split_ifs
      · exact effect_rest o c _
      · cases stored : c.conn with
        | none => exact .quiet _ _ _ rfl nofun nofun rfl (fun _ => rfl) fun _ => id
        | some held => exact .quiet _ _ _ stored.symm nofun nofun rfl (fun _ => rfl) fun _ => id
  | hailing k held =>
      rw [connect]
      split_ifs
      · exact .quiet _ _ _ rfl nofun nofun rfl nofun fun _ _ => trivial
      · exact .quiet _ _ _ rfl nofun nofun rfl (fun _ => rfl) fun _ => id
  | starting k => exact .start k
  | watching =>
      rw [connect]
      split_ifs <;> exact .quiet _ _ _ rfl nofun nofun rfl nofun fun _ _ => trivial
  | waiting =>
      rw [connect]
      split_ifs <;> exact .quiet _ _ _ rfl nofun nofun rfl nofun fun _ _ => trivial
  | stopped => exact effect_rest o c _
  | _ => exact nomatch connects

theorem effect_write (writes : t.writer = true) :
    Effect o c t (write o c t).1 (write o c t).2 [] := by
  cases t with
  | turning g => exact .quiet _ _ _ rfl nofun (fun _ => rfl) rfl nofun fun _ => id
  | selecting g ch =>
      rw [write]
      cases o.ready with
      | message =>
          simp only
          split_ifs <;> exact .quiet _ _ _ rfl nofun (fun _ => rfl) rfl nofun fun _ => id
      | tick => exact .quiet _ _ _ rfl nofun (fun _ => rfl) rfl nofun fun _ => id
      | close =>
          simp only
          split_ifs <;> exact .quiet _ _ _ rfl nofun (fun _ => rfl) rfl nofun fun _ => id
  | picked g =>
      rw [write]
      split_ifs
      · exact effect_rest o c _
      · cases stored : c.conn with
        | none => exact .quiet _ _ _ rfl nofun (fun _ => rfl) rfl nofun fun _ => id
        | some k => exact .quiet _ _ _ stored.symm nofun (fun _ => rfl) rfl nofun fun _ => id
  | writing g k =>
      rw [write]
      split_ifs <;> exact .quiet _ _ _ rfl nofun (fun _ => rfl) rfl nofun fun _ => id
  | exiting g =>
      rw [write]
      split_ifs
      · exact effect_rest o c _
      · exact .exit g
  | _ => exact nomatch writes

theorem conn_send (c : Client) : c.send.conn = c.conn := by
  rw [Client.send]
  split_ifs <;> rfl

theorem conn_close (closes : c.close = some c') : c'.conn = c.conn := by
  rw [Client.close] at closes
  split_ifs at closes
  · obtain rfl := Option.some.inj closes
    rfl
  · cases stored : c.conn with
    | none =>
        simp only [stored] at closes
        obtain rfl := Option.some.inj closes
        rfl
    | some k =>
        simp only [stored] at closes
        obtain rfl := Option.some.inj closes
        rfl

theorem effect_advance (t : Thread) (o : Outside) (c : Client) :
    advance t o c = none ∧ ((∃ g, t = .looping g ∧ c.conn = none) ∨ t = .closing ∧ c.close = none) ∨
      ∃ t' c' new, advance t o c = some (t', c', new) ∧ Effect o c t t' c' new := by
  cases t with
  | dialing | storing | greeting | hailing | starting | watching | waiting | stopped =>
      exact .inr ⟨_, _, _, rfl, effect_connect rfl⟩
  | turning | selecting | picked | writing | exiting =>
      exact .inr ⟨_, _, _, rfl, effect_write rfl⟩
  | looping g =>
      cases stored : c.conn with
      | none => exact .inl ⟨by simp [advance, read, stored], .inl ⟨g, rfl, rfl⟩⟩
      | some k =>
          refine .inr ⟨.reading g k, c, [], by simp [advance, read, stored], ?_⟩
          refine .quiet _ _ _ rfl (fun _ => rfl) nofun rfl nofun fun _ fits => ?_
          change c.conn = some g at fits
          obtain rfl : k = g := Option.some.inj (stored.symm.trans fits)
          exact ⟨rfl, .inl fits⟩
  | reading g k =>
      refine .inr ?_
      cases ends : o.read with
      | failed =>
          refine ⟨.leaving g, c, [], by simp [advance, read, ends], ?_⟩
          exact .quiet _ _ _ rfl (fun _ => rfl) nofun rfl nofun fun _ fits => fits.2
      | command =>
          refine ⟨.handling g, c, [], by simp [advance, read, ends], ?_⟩
          refine .quiet _ _ _ rfl (fun _ => rfl) nofun rfl nofun fun holds fits => ?_
          have stored := holds g k rfl (by simp [ends])
          rw [fits.1] at stored
          exact stored
      | other =>
          refine ⟨.looping g, c, [], by simp [advance, read, ends], ?_⟩
          refine .quiet _ _ _ rfl (fun _ => rfl) nofun rfl nofun fun holds fits => ?_
          have stored := holds g k rfl (by simp [ends])
          rw [fits.1] at stored
          exact stored
  | handling g =>
      refine .inr ⟨.looping g, c.send, [], rfl, ?_⟩
      exact .quiet _ _ _ (conn_send c) (fun _ => rfl) nofun rfl nofun fun _ => id
  | leaving g =>
      refine .inr ?_
      by_cases locked : c.locked = true
      · exact ⟨.leaving g, c, [], by simp [advance, read, locked], effect_rest o c _⟩
      · exact ⟨.left g, c.clear, [], by simp [advance, read, locked], .leave g⟩
  | left g => exact .inr ⟨.left g, c, [], rfl, effect_rest o c _⟩
  | exited g => exact .inr ⟨.exited g, c, [], rfl, effect_rest o c _⟩
  | closing =>
      by_cases locked : c.locked = true
      · exact .inr ⟨.closing, c, [], by simp [advance, locked], effect_rest o c _⟩
      · cases closes : c.close with
        | none => exact .inl ⟨by simp [advance, locked, closes], .inr ⟨rfl, rfl⟩⟩
        | some c' =>
            refine .inr ⟨.returned, c', [], by simp [advance, locked, closes], ?_⟩
            exact .quiet _ _ _ (conn_close closes) nofun nofun rfl nofun fun _ _ => trivial
  | sending =>
      refine .inr ⟨.returned, c.send, [], rfl, ?_⟩
      exact .quiet _ _ _ (conn_send c) nofun nofun rfl nofun fun _ _ => trivial
  | returned => exact .inr ⟨.returned, c, [], rfl, effect_rest o c _⟩

theorem conn_clear (c : Client) : c.clear.conn = none := by
  rw [Client.clear]
  cases stored : c.conn with
  | none => exact stored
  | some k => rfl

end Effects

section Tidy

variable {o : Outside} {c c' : Client} {t : Thread}

theorem tidy_congr (tidy : Tidy c) (closeCh : c'.closeCh = c.closeCh) (shut : c'.shut = c.shut)
    (closed : c'.closed = c.closed) : Tidy c' := by
  intro ch beyond is_shut
  rw [closeCh] at beyond ⊢
  rw [shut] at is_shut
  rw [closed]
  exact tidy ch beyond is_shut

theorem tidy_send (tidy : Tidy c) : Tidy c.send := by
  rw [Client.send]
  split_ifs
  · exact tidy_congr tidy rfl rfl rfl
  · exact tidy

theorem tidy_clear (tidy : Tidy c) : Tidy c.clear := by
  rw [Client.clear]
  cases c.conn with
  | none => exact tidy
  | some k => exact tidy_congr tidy rfl rfl rfl

theorem tidy_store (k : Nat) (tidy : Tidy c) : Tidy (c.store k) := by
  intro ch beyond is_shut
  change c.closeCh + 1 ≤ ch at beyond
  obtain ⟨rfl, _⟩ := tidy ch (by omega) is_shut
  omega

theorem tidy_close (tidy : Tidy c) (closes : c.close = some c') : Tidy c' := by
  rw [Client.close] at closes
  split_ifs at closes
  · obtain rfl := Option.some.inj closes
    exact tidy
  · have closed : Tidy { c with closed := true, shut := Function.update c.shut c.closeCh true } := by
      intro ch beyond is_shut
      by_cases same : ch = c.closeCh
      · exact ⟨same, rfl⟩
      · simp only [Function.update_of_ne same] at is_shut
        exact absurd (tidy ch beyond is_shut).1 same
    cases stored : c.conn with
    | none =>
        simp only [stored] at closes
        obtain rfl := Option.some.inj closes
        exact tidy_congr closed rfl rfl rfl
    | some k =>
        simp only [stored] at closes
        obtain rfl := Option.some.inj closes
        exact tidy_congr closed rfl rfl rfl

theorem close_ne_none (tidy : Tidy c) : c.close ≠ none := by
  intro stuck
  rw [Client.close] at stuck
  split_ifs at stuck with closed shut
  · exact closed (tidy _ (Nat.le_refl _) shut).2
  · cases stored : c.conn <;> simp [stored] at stuck

theorem tidy_connect (tidy : Tidy c) : Tidy (connect o c t).2.1 := by
  cases t with
  | dialing =>
      rw [connect]
      split_ifs <;> exact tidy_congr tidy rfl rfl rfl
  | storing k =>
      rw [connect]
      split_ifs
      · exact tidy
      · exact tidy_store k tidy
  | greeting k =>
      rw [connect]
      split_ifs
      · exact tidy
      · cases stored : c.conn <;> exact tidy_congr tidy rfl rfl rfl
  | hailing k held =>
      rw [connect]
      split_ifs <;> exact tidy_congr tidy rfl rfl rfl
  | watching =>
      rw [connect]
      split_ifs <;> exact tidy
  | _ => exact tidy

theorem tidy_write (tidy : Tidy c) : Tidy (write o c t).2 := by
  cases t with
  | selecting g ch =>
      rw [write]
      cases o.ready with
      | message =>
          simp only
          split_ifs <;> exact tidy_congr tidy rfl rfl rfl
      | tick => exact tidy
      | close =>
          simp only
          split_ifs <;> exact tidy
  | picked g =>
      rw [write]
      split_ifs
      · exact tidy
      · cases stored : c.conn <;> exact tidy_congr tidy rfl rfl rfl
  | writing g k => exact tidy_congr tidy rfl rfl rfl
  | exiting g =>
      rw [write]
      split_ifs
      · exact tidy
      · exact tidy_clear tidy
  | _ => exact tidy

theorem tidy_read (tidy : Tidy c) {t' : Thread} (reads : read o c t = some (t', c')) : Tidy c' := by
  cases t with
  | looping g =>
      cases stored : c.conn with
      | none => simp [read, stored] at reads
      | some k =>
          simp only [read, stored, Option.some.injEq, Prod.mk.injEq] at reads
          exact reads.2 ▸ tidy
  | reading g k =>
      cases ends : o.read <;>
        simp only [read, ends, Option.some.injEq, Prod.mk.injEq] at reads <;>
        exact reads.2 ▸ tidy
  | handling g =>
      simp only [read, Option.some.injEq, Prod.mk.injEq] at reads
      exact reads.2 ▸ tidy_send tidy
  | leaving g =>
      rw [read] at reads
      split_ifs at reads
      · exact (Prod.mk.inj (Option.some.inj reads)).2 ▸ tidy
      · exact (Prod.mk.inj (Option.some.inj reads)).2 ▸ tidy_clear tidy
  | _ =>
      simp only [read, Option.some.injEq, Prod.mk.injEq] at reads
      exact reads.2 ▸ tidy

theorem advance_connect (connects : t.connects = true) : advance t o c = some (connect o c t) := by
  cases t <;> first | rfl | exact nomatch connects

theorem advance_write (writes : t.writer = true) :
    advance t o c = some ((write o c t).1, (write o c t).2, []) := by
  cases t <;> first | rfl | exact nomatch writes

theorem advance_read (reads : t.reader = true) :
    advance t o c = (read o c t).map fun p => (p.1, p.2, []) := by
  cases t <;> first | rfl | exact nomatch reads

theorem tidy_advance (tidy : Tidy c) {t' : Thread} {new : List Thread}
    (advanced : advance t o c = some (t', c', new)) : Tidy c' := by
  by_cases connects : t.connects = true
  · rw [advance_connect connects] at advanced
    have same : (connect o c t).2.1 = c' := by rw [Option.some.inj advanced]
    exact same ▸ tidy_connect tidy
  · by_cases writes : t.writer = true
    · rw [advance_write writes] at advanced
      obtain ⟨_, rest⟩ := Prod.mk.inj (Option.some.inj advanced)
      exact (Prod.mk.inj rest).1 ▸ tidy_write tidy
    · by_cases reads : t.reader = true
      · rw [advance_read reads] at advanced
        obtain ⟨_, read, same⟩ := Option.map_eq_some_iff.mp advanced
        obtain ⟨_, rest⟩ := Prod.mk.inj same
        exact (Prod.mk.inj rest).1 ▸ tidy_read tidy read
      · cases t with
        | closing =>
            rw [advance] at advanced
            split_ifs at advanced
            · obtain ⟨_, rest⟩ := Prod.mk.inj (Option.some.inj advanced)
              exact (Prod.mk.inj rest).1 ▸ tidy
            · obtain ⟨_, closes, same⟩ := Option.map_eq_some_iff.mp advanced
              obtain ⟨_, rest⟩ := Prod.mk.inj same
              exact (Prod.mk.inj rest).1 ▸ tidy_close tidy closes
        | sending =>
            obtain ⟨_, rest⟩ := Prod.mk.inj (Option.some.inj advanced)
            exact (Prod.mk.inj rest).1 ▸ tidy_send tidy
        | left | exited | returned =>
            obtain ⟨_, rest⟩ := Prod.mk.inj (Option.some.inj advanced)
            exact (Prod.mk.inj rest).1 ▸ tidy
        | _ => simp [Thread.connects, Thread.writer, Thread.reader] at connects writes reads

end Tidy

section Runs

/-- What a step has to find for the connection to stay safe. -/
structure Calm (w : World) (e : Event) : Prop where
  /-- A connection is stored when no pump of another one is left. -/
  alone : ∀ k o, actor w e = some (.storing k, o) → ∀ t ∈ w.pool, t.live = false
  /-- A write pump ends while the read pump waits for a message or has ended. -/
  waits : ∀ g o, actor w e = some (.exiting g, o) → ∀ t ∈ w.pool, t.between = false
  /-- A connection brings a message only while the client has it. -/
  brings : ∀ g k o, actor w e = some (.reading g k, o) → o.read ≠ .failed →
    w.shared.conn = some k

/-- What holds in every state of a calm run. -/
structure Inv (w : World) : Prop where
  up : w.down = false
  fits : ∀ t ∈ w.pool, Fits w.shared.conn t
  vacant : ∀ t ∈ w.pool, t.opens = true → ∀ u ∈ w.pool, u.live = false
  readers : w.pool.countP Thread.reader ≤ 1
  writers : w.pool.countP Thread.writer ≤ 1
  connectors : w.pool.countP Thread.connects ≤ 1
  tidy : Tidy w.shared

variable {w : World} {e : Event} {t t' u : Thread} {o : Outside} {before after new : List Thread}
  {c' : Client}

/-- What no request begins with. -/
structure Foreign (test : Thread → Bool) : Prop where
  requests : ∀ q, test (request q) = false

theorem foreign_reader : Foreign Thread.reader := ⟨fun q => by cases q <;> rfl⟩

theorem foreign_writer : Foreign Thread.writer := ⟨fun q => by cases q <;> rfl⟩

theorem foreign_connects : Foreign Thread.connects := ⟨fun q => by cases q <;> rfl⟩

theorem foreign_opens : Foreign Thread.opens := ⟨fun q => by cases q <;> rfl⟩

theorem mem_of_foreign {test : Thread → Bool} (foreign : Foreign test)
    (turn : Thread.Turn request w e t o before after) (holds : test t = true) : t ∈ w.pool := by
  apply turn.mem_of_later
  rintro q rfl
  exact absurd holds (by simp [foreign.requests q])

theorem countP_turn {test : Thread → Bool} (foreign : Foreign test)
    (turn : Thread.Turn request w e t o before after) :
    w.pool.countP test = [t].countP test + (before ++ after).countP test := by
  rw [← Thread.countP_called foreign.requests, turn.called_eq, Thread.countP_middle]

theorem not_others {test : Thread → Bool} (foreign : Foreign test)
    (turn : Thread.Turn request w e t o before after) (one : w.pool.countP test ≤ 1)
    (mine : test t = true) (other : u ∈ before ++ after) : test u = false := by
  rw [countP_turn foreign turn, List.countP_singleton, if_pos mine] at one
  by_contra holds
  have some_other : 0 < (before ++ after).countP test :=
    List.countP_pos_iff.mpr ⟨u, other, by simpa using holds⟩
  omega

theorem fits_none {conn : Option Nat} (fits : Fits conn u) (apart : u.between = false)
    (shut : u.opens = false) : Fits none u := by
  cases u with
  | looping g | handling g => exact nomatch apart
  | greeting k | hailing k held | starting k => exact nomatch shut
  | reading g k => exact ⟨fits.1, .inr rfl⟩
  | leaving g | turning g | selecting g ch | picked g | writing g k | exiting g => exact .inr rfl
  | _ => trivial

theorem fits_dead (conn : Option Nat) (dead : u.live = false) (shut : u.opens = false) :
    Fits conn u := by
  cases u with
  | looping g | handling g | reading g k | leaving g | turning g | selecting g ch | picked g
  | writing g k | exiting g => exact nomatch dead
  | greeting k | hailing k held | starting k => exact nomatch shut
  | _ => trivial

theorem between_reader (other : u.reader = false) : u.between = false := by
  cases u <;> first | rfl | exact nomatch other

theorem connects_of_opens (opens : u.opens = true) : u.connects = true := by
  cases u <;> first | rfl | exact nomatch opens

theorem live_of_reader (reads : u.reader = true) : u.live = true := by simp [Thread.live, reads]

theorem live_of_writer (writes : u.writer = true) : u.live = true := by simp [Thread.live, writes]

theorem fits_of_turn (inv : Inv w) (turn : Thread.Turn request w e t o before after) :
    Fits w.shared.conn t := by
  refine turn.actor_of (fun q => ?_) inv.fits
  cases q <;> trivial

theorem others_mem (turn : Thread.Turn request w e t o before after)
    (other : u ∈ before ++ after) : u ∈ w.pool := turn.others.subset other

theorem mem_middle (member : u ∈ before ++ t' :: after ++ new) :
    u ∈ before ++ after ∨ u = t' ∨ u ∈ new := by
  simp only [List.mem_append, List.mem_cons] at member ⊢
  tauto

theorem shut_others (inv : Inv w) (turn : Thread.Turn request w e t o before after)
    (connects : t.connects = true) (other : u ∈ before ++ after) : u.opens = false := by
  have lone := not_others foreign_connects turn inv.connectors connects other
  by_contra opens
  rw [connects_of_opens (by simpa using opens)] at lone
  exact nomatch lone

theorem shut_of_live (inv : Inv w) (member : u ∈ w.pool) (live : u.live = true) {v : Thread}
    (inside : v ∈ w.pool) : v.opens = false := by
  by_contra opens
  exact absurd live (by simp [inv.vacant v inside (by simpa using opens) u member])

theorem countP_step {test : Thread → Bool} (foreign : Foreign test)
    (turn : Thread.Turn request w e t o before after) (one : w.pool.countP test ≤ 1)
    (fewer : [t'].countP test + new.countP test ≤ [t].countP test) :
    (before ++ t' :: after ++ new).countP test ≤ 1 := by
  rw [countP_turn foreign turn] at one
  rw [List.countP_append, Thread.countP_middle]
  omega

theorem countP_single_le {test : Thread → Bool} (imp : test t' = true → test t = true) :
    [t'].countP test + ([] : List Thread).countP test ≤ [t].countP test := by
  rw [List.countP_singleton, List.countP_singleton, List.countP_nil]
  split_ifs with new old
  · omega
  · exact absurd (imp new) old
  · omega
  · omega

theorem fits_step (inv : Inv w) (calm : Calm w e) (acts : actor w e = some (t, o))
    (turn : Thread.Turn request w e t o before after) (effect : Effect o w.shared t t' c' new) :
    ∀ u ∈ before ++ t' :: after ++ new, Fits c'.conn u := by
  intro u member
  have mine := fits_of_turn inv turn
  rcases mem_middle member with other | rfl | started
  · have was := inv.fits u (others_mem turn other)
    cases effect with
    | quiet _ _ _ conn => rwa [conn]
    | store k =>
        exact fits_dead _ (calm.alone k o acts u (others_mem turn other))
          (shut_others inv turn rfl other)
    | leave g =>
        rw [conn_clear]
        have inside := mem_of_foreign foreign_reader turn rfl
        exact fits_none was (between_reader (not_others foreign_reader turn inv.readers rfl other))
          (shut_of_live inv inside rfl (others_mem turn other))
    | exit g =>
        rw [conn_clear]
        have inside := mem_of_foreign foreign_writer turn rfl
        exact fits_none was (calm.waits g o acts u (others_mem turn other))
          (shut_of_live inv inside rfl (others_mem turn other))
    | start k => exact was
  · cases effect with
    | quiet _ _ _ conn _ _ _ _ fits =>
        rw [conn]
        exact fits (fun g k reads some_message => calm.brings g k o (reads ▸ acts) some_message) mine
    | store k => exact rfl
    | leave | exit | start => trivial
  · cases effect with
    | start k =>
        simp only [List.mem_cons, List.not_mem_nil, or_false] at started
        rcases started with rfl | rfl
        · exact mine
        · exact .inl mine
    | quiet | store | leave | exit => exact nomatch started

theorem vacant_step (inv : Inv w) (calm : Calm w e) (acts : actor w e = some (t, o))
    (turn : Thread.Turn request w e t o before after) (effect : Effect o w.shared t t' c' new) :
    ∀ u ∈ before ++ t' :: after ++ new, u.opens = true →
      ∀ v ∈ before ++ t' :: after ++ new, v.live = false := by
  intro u member opens v inside
  cases effect with
  | quiet _ _ _ _ reads writes _ opened =>
      have was_open : ∃ u ∈ w.pool, u.opens = true := by
        rcases mem_middle member with other | rfl | started
        · exact ⟨u, others_mem turn other, opens⟩
        · exact ⟨t, mem_of_foreign foreign_opens turn (opened opens), opened opens⟩
        · exact nomatch started
      obtain ⟨u', before_it, was_open⟩ := was_open
      have dead := inv.vacant u' before_it was_open
      rcases mem_middle inside with other | rfl | started
      · exact dead v (others_mem turn other)
      · by_contra live
        simp only [Thread.live, Bool.not_eq_false, Bool.or_eq_true] at live
        rcases live with reads' | writes'
        · have was := reads reads'
          exact absurd (live_of_reader was)
            (by simp [dead t (mem_of_foreign foreign_reader turn was)])
        · have was := writes writes'
          exact absurd (live_of_writer was)
            (by simp [dead t (mem_of_foreign foreign_writer turn was)])
      · exact nomatch started
  | store k =>
      rcases mem_middle inside with other | rfl | started
      · exact calm.alone k o acts v (others_mem turn other)
      · rfl
      · exact nomatch started
  | leave g =>
      have here := mem_of_foreign foreign_reader turn rfl
      rcases mem_middle member with other | rfl | started
      · exact absurd opens (by simp [shut_of_live inv here rfl (others_mem turn other)])
      · exact nomatch opens
      · exact nomatch started
  | exit g =>
      have here := mem_of_foreign foreign_writer turn rfl
      rcases mem_middle member with other | rfl | started
      · exact absurd opens (by simp [shut_of_live inv here rfl (others_mem turn other)])
      · exact nomatch opens
      · exact nomatch started
  | start k =>
      rcases mem_middle member with other | rfl | started
      · exact absurd opens (by simp [shut_others inv turn rfl other])
      · exact nomatch opens
      · simp only [List.mem_cons, List.not_mem_nil, or_false] at started
        rcases started with rfl | rfl <;> exact nomatch opens

theorem none_before_start (inv : Inv w) {test : Thread → Bool}
    (lives : ∀ u, test u = true → u.live = true) {k : Nat}
    (turn : Thread.Turn request w e (.starting k) o before after) :
    w.pool.countP test = 0 := by
  rw [List.countP_eq_zero]
  intro u member holds
  have dead := inv.vacant _ (mem_of_foreign foreign_opens turn rfl) rfl u member
  exact absurd (lives u holds) (by simp [dead])

theorem readers_step (inv : Inv w) (turn : Thread.Turn request w e t o before after)
    (effect : Effect o w.shared t t' c' new) :
    (before ++ t' :: after ++ new).countP Thread.reader ≤ 1 := by
  cases effect with
  | quiet _ _ _ _ reads => exact countP_step foreign_reader turn inv.readers (countP_single_le reads)
  | store | leave | exit =>
      exact countP_step foreign_reader turn inv.readers (countP_single_le nofun)
  | start k =>
      have none := none_before_start inv (fun u => live_of_reader) turn
      rw [countP_turn foreign_reader turn] at none
      rw [List.countP_append, Thread.countP_middle]
      have one : [Thread.looping k, .turning k].countP Thread.reader = 1 := rfl
      have zero : [Thread.watching].countP Thread.reader = 0 := rfl
      omega

theorem writers_step (inv : Inv w) (turn : Thread.Turn request w e t o before after)
    (effect : Effect o w.shared t t' c' new) :
    (before ++ t' :: after ++ new).countP Thread.writer ≤ 1 := by
  cases effect with
  | quiet _ _ _ _ _ writes =>
      exact countP_step foreign_writer turn inv.writers (countP_single_le writes)
  | store | leave | exit =>
      exact countP_step foreign_writer turn inv.writers (countP_single_le nofun)
  | start k =>
      have none := none_before_start inv (fun u => live_of_writer) turn
      rw [countP_turn foreign_writer turn] at none
      rw [List.countP_append, Thread.countP_middle]
      have one : [Thread.looping k, .turning k].countP Thread.writer = 1 := rfl
      have zero : [Thread.watching].countP Thread.writer = 0 := rfl
      omega

theorem connectors_step (inv : Inv w) (turn : Thread.Turn request w e t o before after)
    (effect : Effect o w.shared t t' c' new) :
    (before ++ t' :: after ++ new).countP Thread.connects ≤ 1 := by
  cases effect with
  | quiet _ _ _ _ _ _ connects =>
      exact countP_step foreign_connects turn inv.connectors
        (countP_single_le fun holds => connects ▸ holds)
  | store | start =>
      exact countP_step foreign_connects turn inv.connectors (Nat.le_refl 1)
  | leave | exit =>
      exact countP_step foreign_connects turn inv.connectors (countP_single_le nofun)

theorem inv_step (inv : Inv w) (calm : Calm w e) : Inv (step w e) := by
  rcases Thread.step_cases advance request w e with ⟨_, same⟩ |
    ⟨t, o, before, after, acts, _, turn, rest⟩
  · rw [step, same]
    exact inv
  · rcases effect_advance t o w.shared with ⟨stuck, reason⟩ | ⟨t', c', new, advanced, effect⟩
    · rcases reason with ⟨g, rfl, empty⟩ | ⟨rfl, twice⟩
      · have fits : w.shared.conn = some g := fits_of_turn inv turn
        exact nomatch empty.symm.trans fits
      · exact absurd twice (close_ne_none inv.tidy)
    · rcases rest with ⟨stuck, _⟩ | ⟨_, _, _, same, moved⟩
      · exact nomatch stuck.symm.trans advanced
      · obtain ⟨rfl, rest⟩ := Prod.mk.inj (Option.some.inj (same.symm.trans advanced))
        obtain ⟨rfl, rfl⟩ := Prod.mk.inj rest
        rw [step, moved]
        exact ⟨rfl, fits_step inv calm acts turn effect, vacant_step inv calm acts turn effect,
          readers_step inv turn effect, writers_step inv turn effect,
          connectors_step inv turn effect, tidy_advance inv.tidy advanced⟩

/-- Nobody has read from a nil connection, and a connection has at most one pump that reads from
it and one that writes to it. -/
structure Safe (w : World) : Prop where
  up : w.down = false
  reads : ∀ k, w.pool.countP (Thread.readsFrom k) ≤ 1
  writes : ∀ k, w.pool.countP (Thread.writesTo k) ≤ 1

/-- The end of a pump of one connection closes another, or the same. -/
def Closes (w : World) (e : Event) (g k : Nat) : Prop :=
  ∃ t o, actor w e = some (t, o) ∧ (t = .leaving g ∨ t = .exiting g) ∧
    w.shared.locked = false ∧ w.shared.conn = some k

theorem safe_of_inv (inv : Inv w) : Safe w := by
  refine ⟨inv.up, fun k => ?_, fun k => ?_⟩
  · refine Nat.le_trans (List.countP_mono_left fun t _ reads => ?_) inv.readers
    cases t <;> first | rfl | exact nomatch reads
  · refine Nat.le_trans (List.countP_mono_left fun t _ writes => ?_) inv.writers
    cases t <;> first | rfl | exact nomatch writes

theorem closes_own {g k : Nat} (inv : Inv w) (closes : Closes w e g k) : k = g := by
  obtain ⟨t, o, acts, ends, _, stored⟩ := closes
  rcases Thread.step_cases advance request w e with ⟨idle, _⟩ |
    ⟨t', o', before, after, acts', _, turn, _⟩
  · exact nomatch idle.symm.trans acts
  · obtain ⟨rfl, rfl⟩ := Prod.mk.inj (Option.some.inj (acts'.symm.trans acts))
    have fits := fits_of_turn inv turn
    have held : w.shared.conn = some g ∨ w.shared.conn = none := by
      rcases ends with rfl | rfl <;> exact fits
    rcases held with mine | none
    · exact Option.some.inj (stored.symm.trans mine)
    · exact nomatch stored.symm.trans none

theorem inv_start : Inv start := by
  refine ⟨rfl, ?_, ?_, Nat.zero_le 1, Nat.zero_le 1, Nat.le_refl 1, fun _ _ => nofun⟩
  · intro t member
    obtain rfl := List.mem_singleton.mp member
    trivial
  · intro t member opens
    obtain rfl := List.mem_singleton.mp member
    exact nomatch opens

/-- All along a calm run the connection is safe, and no pump closes a later connection. -/
theorem lifecycle_safe (es : List Event) (calm : Along step Calm start es) :
    (∀ w ∈ states step start es, Safe w) ∧
      Along step (fun w e => ∀ g k, Closes w e g k → ¬g < k) start es := by
  have all := invariant_along (fun w e inv calm => inv_step inv calm) inv_start calm
  refine ⟨fun w member => safe_of_inv (all w member), ?_⟩
  apply along_mono _ (along_of_states all)
  rintro w e ⟨inv, _⟩ g k closes
  have own := closes_own inv closes
  omega

/-- `Calm` as a test. -/
def calm (w : World) (e : Event) : Bool :=
  match actor w e with
  | some (.storing _, _) => w.pool.all fun t => !t.live
  | some (.exiting _, _) => w.pool.all fun t => !t.between
  | some (.reading _ k, o) => o.read = .failed || w.shared.conn = some k
  | _ => true

theorem calm_of_test (passes : calm w e = true) : Calm w e := by
  refine ⟨?_, ?_, ?_⟩
  · intro k o acts t member
    simp only [calm, acts, List.all_eq_true, Bool.not_eq_true'] at passes
    exact passes t member
  · intro g o acts t member
    simp only [calm, acts, List.all_eq_true, Bool.not_eq_true'] at passes
    exact passes t member
  · intro g k o acts some_message
    simpa [calm, acts, some_message] using passes

section Lab

def quiet : Outside := ⟨true, false, .failed, .tick, false⟩

/-- The connector dials, stores, registers and starts the pumps. -/
def connecting : List Event := List.replicate 5 (.goes 0 quiet)

/-- A command, a heartbeat, and a read error that ends both pumps before the next connection. -/
def cycle : List Event :=
  connecting ++
    ([.goes 1 quiet, .goes 1 { quiet with read := .command }, .goes 1 quiet, .goes 1 quiet] :
      List Event) ++
    ([.goes 2 quiet, .goes 2 quiet, .goes 2 quiet, .goes 2 quiet] : List Event) ++
    ([.goes 1 quiet, .goes 1 quiet] : List Event) ++
    ([.goes 2 quiet, .goes 2 quiet, .goes 2 quiet, .goes 2 quiet] : List Event) ++
    ([.goes 0 quiet, .goes 0 quiet] : List Event) ++ connecting

/-- A heartbeat fails while the read pump has a command handled. -/
def lateRead : List Event :=
  connecting ++ ([.goes 1 quiet, .goes 1 { quiet with read := .command }] : List Event) ++
    ([.goes 2 quiet, .goes 2 quiet, .goes 2 quiet, .goes 2 { quiet with writeFails := true },
      .goes 2 quiet] : List Event) ++ ([.goes 1 quiet, .goes 1 quiet] : List Event)

end Lab

theorem lifecycle_safe_in_cycle :
    Along step (fun w e => calm w e = true) start cycle ∧
      (∀ w ∈ states step start cycle, Safe w) ∧
        Along step (fun w e => ∀ g k, Closes w e g k → ¬g < k) start cycle :=
  ⟨by decide,
    lifecycle_safe cycle (along_mono (fun _ _ => calm_of_test) (by decide : Along step
      (fun w e => calm w e = true) start cycle))⟩

theorem down_after_late_read :
    ¬∀ es : List Event, (∀ w ∈ states step start es, Safe w) ∧
      Along step (fun w e => ∀ g k, Closes w e g k → ¬g < k) start es := by
  intro always
  have up := ((always lateRead).1 _ (last_mem_states _ lateRead)).up
  have down : (lateRead.foldl step start).down = true := by decide
  exact nomatch up.symm.trans down

end Runs

end AgentConnection
