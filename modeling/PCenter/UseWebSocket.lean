import Mathlib.Algebra.Group.Nat.Defs
import Mathlib.Logic.Function.Basic
import PCenter.Lib.Transition

/-!
# The socket of the browser

`useWebSocket` of the frontend: an effect connects, a connection that is lost is followed by a
timer, the timer connects again, and the cleanup of the effect takes back whatever is pending.
The events are those of the browser: what becomes of a socket, a timer that fires, and the effect
that is run again or ended. Sockets and timers are numbered as they are made.
-/

namespace UseWebSocket

open Transition

/-- `readyState` -/
inductive ReadyState where
  | connecting
  | opened
  | closing
  | closed
  deriving DecidableEq, Repr

/-- A socket, with whether its `onclose` is set and the run of the effect that it was made in. -/
structure Socket where
  readyState : ReadyState
  onclose : Bool
  effect : Nat
  deriving DecidableEq, Repr

/-- A timeout that has not fired. -/
structure Timer where
  id : Nat
  effect : Nat
  delay : Nat
  deriving DecidableEq, Repr

/-- A call of what the component hands to the hook. -/
inductive Callback where
  | onConnect
  | onDisconnect
  | onMessage (message : String)
  deriving DecidableEq, Repr

structure State where
  sockets : Nat → Socket
  made : Nat
  wsRef : Option Nat
  timers : List Timer
  set : Nat
  reconnectTimeoutRef : Option Nat
  reconnectAttempts : Nat
  isConnected : Bool
  /-- The runs of the effect so far, and whether the last one has not been cleaned up. -/
  effect : Nat
  isMounted : Bool
  /-- The calls so far, each of which returns before anything else happens. -/
  heard : List Callback

def maxReconnectDelay : Nat := 30000

/-- `Math.min(reconnectInterval * Math.pow(2, attempts), MAX_RECONNECT_DELAY)` -/
def backoff (reconnectInterval attempts : Nat) : Nat :=
  min (reconnectInterval * 2 ^ attempts) maxReconnectDelay

inductive Event where
  | opens (i : Nat)
  | closes (i : Nat)
  /-- The server begins to close. -/
  | closing (i : Nat)
  /-- A message, unless it cannot be parsed. -/
  | message (i : Nat) (parsed : Option String)
  | fires (id : Nat)
  | rerun
  | unmount

section Hook

variable (s : State)

def socket (i : Nat) (readyState : ReadyState) : State :=
  { s with sockets := Function.update s.sockets i { s.sockets i with readyState } }

/-- The `isMounted` of a run of the effect. -/
def isMountedOf (effect : Nat) : Bool := s.isMounted && effect = s.effect

def connect (effect : Nat) : State :=
  let current := s.wsRef.map fun i => (s.sockets i).readyState
  if current = some .opened ∨ current = some .connecting then s
  else
    { s with
      sockets := Function.update s.sockets s.made ⟨.connecting, true, effect⟩
      made := s.made + 1
      wsRef := some s.made }

def onopen (effect : Nat) : State :=
  if isMountedOf s effect then
    { s with isConnected := true, reconnectAttempts := 0, heard := s.heard ++ [.onConnect] }
  else s

def onclose (reconnectInterval effect : Nat) : State :=
  if isMountedOf s effect then
    { s with
      isConnected := false
      heard := s.heard ++ [.onDisconnect]
      wsRef := none
      timers := s.timers ++ [⟨s.set, effect, backoff reconnectInterval s.reconnectAttempts⟩]
      set := s.set + 1
      reconnectTimeoutRef := some s.set
      reconnectAttempts := s.reconnectAttempts + 1 }
  else s

def onmessage (effect : Nat) (parsed : Option String) : State :=
  if isMountedOf s effect then { s with heard := s.heard ++ parsed.toList.map .onMessage } else s

/-- `close()` on a socket whose `onclose` was taken off. -/
def closeQuietly (i : Nat) : State :=
  let readyState :=
    match (s.sockets i).readyState with
    | .connecting | .opened => .closing
    | r => r
  { s with
    sockets := Function.update s.sockets i { s.sockets i with onclose := false, readyState } }

def cleanup : State :=
  let s := { s with isMounted := false }
  let s :=
    match s.reconnectTimeoutRef with
    | some id => { s with timers := s.timers.filter (·.id ≠ id) }
    | none => s
  match s.wsRef with
  | some i => { closeQuietly s i with wsRef := none }
  | none => s

def runEffect : State :=
  connect { s with effect := s.effect + 1, isMounted := true } (s.effect + 1)

variable (reconnectInterval : Nat)

/-- An event that cannot happen does nothing. -/
def step : Event → State
  | .opens i =>
      if (s.sockets i).readyState = .connecting then
        onopen (socket s i .opened) (s.sockets i).effect
      else s
  | .closing i => if (s.sockets i).readyState = .opened then socket s i .closing else s
  | .closes i =>
      if (s.sockets i).readyState = .closed then s
      else if (s.sockets i).onclose then
        onclose (socket s i .closed) reconnectInterval (s.sockets i).effect
      else socket s i .closed
  | .message i parsed =>
      if (s.sockets i).readyState = .opened then onmessage s (s.sockets i).effect parsed else s
  | .fires id =>
      match s.timers.find? (·.id = id) with
      | some t => connect { s with timers := s.timers.filter (·.id ≠ id) } t.effect
      | none => s
  | .rerun => if s.isMounted then runEffect (cleanup s) else s
  | .unmount => cleanup s

end Hook

/-- The component before its first effect. -/
def blank : State where
  sockets _ := ⟨.closed, false, 0⟩
  made := 0
  wsRef := none
  timers := []
  set := 0
  reconnectTimeoutRef := none
  reconnectAttempts := 0
  isConnected := false
  effect := 0
  isMounted := false
  heard := []

def mounted : State := runEffect blank

abbrev go (reconnectInterval : Nat) : State → Event → State := fun s e => step s reconnectInterval e

section Invariant

variable {s : State} {n : Nat} {e : Event}

/-- A socket whose end will be noticed. -/
def Live (s : State) (i : Nat) : Prop :=
  (s.sockets i).onclose = true ∧ (s.sockets i).readyState ≠ .closed

/-- There is a socket and no timer. -/
structure Holding (s : State) (i : Nat) : Prop where
  ref : s.wsRef = some i
  live : Live s i
  effect : (s.sockets i).effect = s.effect
  idle : s.timers = []
  shown : (s.sockets i).readyState ≠ .connecting → s.isConnected = true

/-- There is a timer and no socket. -/
structure Waiting (n : Nat) (s : State) (t : Timer) : Prop where
  ref : s.wsRef = none
  pending : s.timers = [t]
  effect : t.effect = s.effect
  known : s.reconnectTimeoutRef = some t.id
  attempts : 0 < s.reconnectAttempts
  delay : t.delay = backoff n (s.reconnectAttempts - 1)
  shown : s.isConnected = false

/-- A socket that is not made yet is as good as closed, and one without `onclose` is closing. -/
structure Tidy (s : State) : Prop where
  unborn : ∀ i, s.made ≤ i → (s.sockets i).readyState = .closed
  dropped : ∀ i, (s.sockets i).onclose = false →
    (s.sockets i).readyState = .closing ∨ (s.sockets i).readyState = .closed

structure Sound (n : Nat) (s : State) : Prop where
  /-- No socket but that of the reference will be heard of. -/
  alone : ∀ i, Live s i → s.wsRef = some i
  tidy : Tidy s
  one : s.isMounted = true → (∃ i, Holding s i) ∨ ∃ t, Waiting n s t
  none_left : s.isMounted = false → s.wsRef = none ∧ s.timers = []

theorem Tidy.live (tidy : Tidy s) {i : Nat} (running : (s.sockets i).readyState ≠ .closing)
    (there : (s.sockets i).readyState ≠ .closed) : Live s i := by
  refine ⟨?_, there⟩
  cases handler : (s.sockets i).onclose with
  | true => rfl
  | false => exact absurd (tidy.dropped i handler) (by simp [running, there])

theorem Tidy.socket (tidy : Tidy s) {i : Nat} (made : i < s.made) {r : ReadyState}
    (late : (s.sockets i).onclose = false → r = .closing ∨ r = .closed) :
    Tidy (socket s i r) := by
  constructor
  · intro j later
    have other : j ≠ i := by
      have low : s.made ≤ j := later
      omega
    simp only [UseWebSocket.socket, Function.update_of_ne other]
    exact tidy.unborn j later
  · intro j handler
    by_cases same : j = i
    · subst same
      simp only [UseWebSocket.socket, Function.update_self] at handler ⊢
      exact late handler
    · simp only [UseWebSocket.socket, Function.update_of_ne same] at handler ⊢
      exact tidy.dropped j handler

theorem Tidy.made (tidy : Tidy s) {i : Nat} (there : (s.sockets i).readyState ≠ .closed) :
    i < s.made := by
  by_contra beyond
  exact there (tidy.unborn i (Nat.le_of_not_lt beyond))

/-- The socket of an event that is heard of is the one that is held. -/
theorem Sound.holding (sound : Sound n s) {i : Nat} (live : Live s i) :
    s.isMounted = true ∧ Holding s i := by
  have ref := sound.alone i live
  cases mounted : s.isMounted with
  | false =>
      have none_left := (sound.none_left mounted).1
      rw [ref] at none_left
      cases none_left
  | true =>
      refine ⟨rfl, ?_⟩
      rcases sound.one mounted with ⟨j, holding⟩ | ⟨t, waiting⟩
      · obtain rfl := Option.some.inj (holding.ref.symm.trans ref)
        exact holding
      · cases ref.symm.trans waiting.ref

/-- Nothing is pending. -/
structure Clean (s : State) : Prop where
  tidy : Tidy s
  deaf : ∀ i, ¬Live s i
  ref : s.wsRef = none
  idle : s.timers = []

theorem clean_blank : Clean blank where
  tidy := ⟨fun _ _ => rfl, fun _ _ => .inr rfl⟩
  deaf := by simp [Live, blank]
  ref := rfl
  idle := rfl

theorem holding_connect (clean : Clean s) (mounted : s.isMounted = true) :
    Sound n (connect s s.effect) := by
  have made : connect s s.effect =
      { s with
        sockets := Function.update s.sockets s.made ⟨.connecting, true, s.effect⟩
        made := s.made + 1
        wsRef := some s.made } := by
    simp [connect, clean.ref]
  rw [made]
  have fresh : Live { s with
      sockets := Function.update s.sockets s.made ⟨.connecting, true, s.effect⟩
      made := s.made + 1
      wsRef := some s.made } s.made := by
    simp [Live]
  refine ⟨?_, ⟨?_, ?_⟩, fun _ => .inl ⟨s.made, rfl, fresh, ?_, clean.idle, ?_⟩, ?_⟩
  · intro i live
    by_cases same : i = s.made
    · rw [same]
    · simp only [Live, Function.update_of_ne same] at live
      exact absurd live (clean.deaf i)
  · intro i later
    have low : s.made + 1 ≤ i := later
    have other : i ≠ s.made := by omega
    simp only [Function.update_of_ne other]
    exact clean.tidy.unborn i (by omega)
  · intro i handler
    by_cases same : i = s.made
    · simp [same] at handler
    · simp only [Function.update_of_ne same] at handler ⊢
      exact clean.tidy.dropped i handler
  · simp
  · simp
  · intro off
    have off : s.isMounted = false := off
    rw [mounted] at off
    cases off

theorem sound_runEffect (clean : Clean s) : Sound n (runEffect s) := by
  have started : Clean { s with effect := s.effect + 1, isMounted := true } :=
    ⟨⟨clean.tidy.unborn, clean.tidy.dropped⟩, clean.deaf, clean.ref, clean.idle⟩
  exact holding_connect started rfl

theorem timers_cleanup (sound : Sound n s) :
    (match s.reconnectTimeoutRef with
      | some id => s.timers.filter (·.id ≠ id)
      | none => s.timers) = [] := by
  cases mounted : s.isMounted with
  | false =>
      rw [(sound.none_left mounted).2]
      cases s.reconnectTimeoutRef <;> rfl
  | true =>
      rcases sound.one mounted with ⟨i, holding⟩ | ⟨t, waiting⟩
      · rw [holding.idle]
        cases s.reconnectTimeoutRef <;> rfl
      · rw [waiting.known, waiting.pending]
        simp

theorem clean_cleanup (sound : Sound n s) : Clean (cleanup s) ∧ (cleanup s).isMounted = false := by
  have idle := timers_cleanup sound
  cases ref : s.wsRef with
  | none =>
      have same : cleanup s = { s with isMounted := false, timers := [] } := by
        rw [← idle, cleanup]
        cases s.reconnectTimeoutRef <;> simp [ref]
      have deaf : ∀ i, ¬Live s i := by
        intro i live
        rw [sound.alone i live] at ref
        cases ref
      rw [same]
      exact ⟨⟨⟨sound.tidy.unborn, sound.tidy.dropped⟩, deaf, ref, rfl⟩, rfl⟩
  | some i =>
      have same : cleanup s =
          { closeQuietly { s with isMounted := false, timers := [] } i with wsRef := none } := by
        rw [← idle, cleanup]
        cases s.reconnectTimeoutRef <;> simp [ref]
      rw [same]
      refine ⟨⟨⟨?_, ?_⟩, ?_, rfl, rfl⟩, rfl⟩
      · intro j later
        by_cases here : j = i
        · subst here
          have shut := sound.tidy.unborn j later
          simp [closeQuietly, shut]
        · simp only [closeQuietly, Function.update_of_ne here]
          exact sound.tidy.unborn j later
      · intro j handler
        by_cases here : j = i
        · subst here
          simp only [closeQuietly, Function.update_self]
          cases (s.sockets j).readyState <;> simp
        · simp only [closeQuietly, Function.update_of_ne here] at handler ⊢
          exact sound.tidy.dropped j handler
      · intro j live
        by_cases here : j = i
        · subst here
          simp [Live, closeQuietly] at live
        · simp only [Live, closeQuietly, Function.update_of_ne here] at live
          obtain rfl := Option.some.inj (ref.symm.trans (sound.alone j live))
          exact here rfl

theorem sound_of_clean (clean : Clean s) (off : s.isMounted = false) : Sound n s where
  alone i live := absurd live (clean.deaf i)
  tidy := clean.tidy
  one on := by
    rw [off] at on
    cases on
  none_left _ := ⟨clean.ref, clean.idle⟩

/-- What is live afterwards was live before, if a socket is changed to something that is. -/
theorem live_socket {i j : Nat} {r : ReadyState} (there : (s.sockets i).readyState ≠ .closed)
    (live : Live (socket s i r) j) : Live s j := by
  by_cases same : j = i
  · subst same
    refine ⟨?_, there⟩
    simpa [Live, socket] using live.1
  · simpa only [Live, socket, Function.update_of_ne same] using live

theorem Sound.going (sound : Sound n s) {i : Nat} (live : Live s i) {r : ReadyState}
    (open_still : r ≠ .closed) {connected : Bool} {attempts : Nat} {heard : List Callback}
    (shown : r ≠ .connecting → connected = true) :
    Sound n { socket s i r with
      isConnected := connected
      reconnectAttempts := attempts
      heard := heard } := by
  obtain ⟨mounted, holding⟩ := sound.holding live
  have tidy : Tidy (socket s i r) := by
    refine sound.tidy.socket (sound.tidy.made live.2) fun off => ?_
    rw [live.1] at off
    cases off
  refine ⟨fun j later => ?_, ⟨tidy.unborn, tidy.dropped⟩,
    fun _ => .inl ⟨i, holding.ref, ?_, ?_, holding.idle, ?_⟩, fun off => ?_⟩
  · exact sound.alone j (live_socket live.2 later)
  · simp [Live, socket, live.1, open_still]
  · simpa [socket] using holding.effect
  · simpa [socket] using shown
  · have off : s.isMounted = false := off
    rw [mounted] at off
    cases off

theorem Sound.lost (sound : Sound n s) {i : Nat} (live : Live s i) :
    Sound n (onclose (socket s i .closed) n (s.sockets i).effect) := by
  obtain ⟨mounted, holding⟩ := sound.holding live
  have current : isMountedOf (socket s i .closed) (s.sockets i).effect = true := by
    simp [isMountedOf, socket, mounted, holding.effect]
  have tidy : Tidy (socket s i .closed) :=
    sound.tidy.socket (sound.tidy.made live.2) fun _ => .inr rfl
  rw [onclose, if_pos current]
  refine ⟨fun j later => ?_, ⟨tidy.unborn, tidy.dropped⟩, fun _ => .inr ⟨⟨s.set,
    (s.sockets i).effect, backoff n s.reconnectAttempts⟩, rfl, ?_, ?_, rfl, ?_, ?_, rfl⟩,
    fun off => ?_⟩
  · have before := sound.alone j (live_socket live.2 later)
    obtain rfl := Option.some.inj (holding.ref.symm.trans before)
    simp [Live, socket] at later
  · simp [socket, holding.idle]
  · exact holding.effect
  · exact Nat.succ_pos _
  · simp [socket]
  · have off : s.isMounted = false := off
    rw [mounted] at off
    cases off

theorem Sound.unheard (sound : Sound n s) {i : Nat} (handler : (s.sockets i).onclose = false)
    (there : (s.sockets i).readyState ≠ .closed) : Sound n (socket s i .closed) := by
  have tidy : Tidy (socket s i .closed) :=
    sound.tidy.socket (sound.tidy.made there) fun _ => .inr rfl
  refine ⟨fun j later => sound.alone j (live_socket there later), tidy, fun mounted => ?_,
    sound.none_left⟩
  rcases sound.one mounted with ⟨j, holding⟩ | ⟨t, waiting⟩
  · have other : j ≠ i := by
      rintro rfl
      have set := holding.live.1
      rw [handler] at set
      cases set
    refine .inl ⟨j, holding.ref, ?_, ?_, holding.idle, ?_⟩
    · simpa only [Live, socket, Function.update_of_ne other] using holding.live
    · simpa only [socket, Function.update_of_ne other] using holding.effect
    · simpa only [socket, Function.update_of_ne other] using holding.shown
  · exact .inr ⟨t, waiting.ref, waiting.pending, waiting.effect, waiting.known, waiting.attempts,
      waiting.delay, waiting.shown⟩

theorem Sound.fired (sound : Sound n s) {t : Timer} (on : s.isMounted = true)
    (waiting : Waiting n s t) : Sound n (connect { s with timers := [] } s.effect) := by
  have clean : Clean { s with timers := [] } := by
    refine ⟨⟨sound.tidy.unborn, sound.tidy.dropped⟩, fun i live => ?_, waiting.ref, rfl⟩
    cases (sound.alone i live).symm.trans waiting.ref
  exact holding_connect clean on

/-- What an event does, and the socket or the timer that it is about. -/
inductive Effect (n : Nat) (s : State) : Event → State → Prop where
  | nothing {e : Event} (idle : e = .rerun → s.isMounted = false) : Effect n s e s
  | opened {i : Nat} (on : s.isMounted = true) (holding : Holding s i) :
      Effect n s (.opens i)
        { socket s i .opened with
          isConnected := true
          reconnectAttempts := 0
          heard := s.heard ++ [.onConnect] }
  | closing {i : Nat} (on : s.isMounted = true) (holding : Holding s i)
      (shown : s.isConnected = true) : Effect n s (.closing i) (socket s i .closing)
  | lost {i : Nat} (on : s.isMounted = true) (holding : Holding s i) :
      Effect n s (.closes i) (onclose (socket s i .closed) n (s.sockets i).effect)
  | unheard {i : Nat} (handler : (s.sockets i).onclose = false)
      (there : (s.sockets i).readyState ≠ .closed) :
      Effect n s (.closes i) (socket s i .closed)
  | heard {i : Nat} {parsed : Option String} (on : s.isMounted = true) :
      Effect n s (.message i parsed) { s with heard := s.heard ++ parsed.toList.map .onMessage }
  | fired {t : Timer} (on : s.isMounted = true) (waiting : Waiting n s t) :
      Effect n s (.fires t.id) (connect { s with timers := [] } s.effect)
  | rerun (on : s.isMounted = true) : Effect n s .rerun (runEffect (cleanup s))
  | unmount : Effect n s .unmount (cleanup s)

theorem effect_go (sound : Sound n s) (e : Event) : Effect n s e (go n s e) := by
  cases e with
  | opens i =>
      simp only [go, step]
      split_ifs with connecting
      · have live : Live s i := sound.tidy.live (by simp [connecting]) (by simp [connecting])
        obtain ⟨on, holding⟩ := sound.holding live
        have now : isMountedOf (socket s i .opened) (s.sockets i).effect = true := by
          simp [isMountedOf, socket, on, holding.effect]
        rw [onopen, if_pos now]
        exact .opened on holding
      · exact .nothing (by simp)
  | closing i =>
      simp only [go, step]
      split_ifs with opened
      · have live : Live s i := sound.tidy.live (by simp [opened]) (by simp [opened])
        obtain ⟨on, holding⟩ := sound.holding live
        exact .closing on holding (holding.shown (by simp [opened]))
      · exact .nothing (by simp)
  | closes i =>
      simp only [go, step]
      split_ifs with shut handler
      · exact .nothing (by simp)
      · obtain ⟨on, holding⟩ := sound.holding ⟨handler, shut⟩
        exact .lost on holding
      · exact .unheard (by simpa using handler) shut
  | message i parsed =>
      simp only [go, step]
      split_ifs with opened
      · have live : Live s i := sound.tidy.live (by simp [opened]) (by simp [opened])
        obtain ⟨on, holding⟩ := sound.holding live
        have now : isMountedOf s (s.sockets i).effect = true := by
          simp [isMountedOf, on, holding.effect]
        rw [onmessage, if_pos now]
        exact .heard on
      · exact .nothing (by simp)
  | fires id =>
      simp only [go, step]
      split
      · rename_i t found
        have pending : t ∈ s.timers := List.mem_of_find?_eq_some found
        obtain rfl : t.id = id := by simpa using List.find?_some found
        have on : s.isMounted = true := by
          by_contra off
          rw [(sound.none_left (by simpa using off)).2] at pending
          cases pending
        rcases sound.one on with ⟨i, holding⟩ | ⟨t', waiting⟩
        · rw [holding.idle] at pending
          cases pending
        · rw [waiting.pending] at pending
          obtain rfl := List.mem_singleton.mp pending
          have gone : s.timers.filter (·.id ≠ t.id) = [] := by simp [waiting.pending]
          rw [gone, waiting.effect]
          exact .fired on waiting
      · exact .nothing (by simp)
  | rerun =>
      simp only [go, step]
      split_ifs with on
      · exact .rerun on
      · exact .nothing fun _ => by simpa using on
  | unmount => exact .unmount

theorem sound_go (n : Nat) (s : State) (e : Event) (sound : Sound n s) : Sound n (go n s e) := by
  have effect := effect_go sound e
  generalize go n s e = t at effect
  cases effect with
  | nothing _ => exact sound
  | opened _ holding => exact sound.going holding.live (by simp) fun _ => rfl
  | closing _ holding shown => exact sound.going holding.live (by simp) fun _ => shown
  | lost _ holding => exact sound.lost holding.live
  | unheard handler there => exact sound.unheard handler there
  | heard _ =>
      refine ⟨sound.alone, ⟨sound.tidy.unborn, sound.tidy.dropped⟩, fun on => ?_,
        sound.none_left⟩
      rcases sound.one on with ⟨i, holding⟩ | ⟨t, waiting⟩
      · exact .inl ⟨i, holding.ref, holding.live, holding.effect, holding.idle, holding.shown⟩
      · exact .inr ⟨t, waiting.ref, waiting.pending, waiting.effect, waiting.known,
          waiting.attempts, waiting.delay, waiting.shown⟩
  | fired on waiting => exact sound.fired on waiting
  | rerun _ => exact sound_runEffect (clean_cleanup sound).1
  | unmount =>
      obtain ⟨clean, off⟩ := clean_cleanup sound
      exact sound_of_clean clean off

theorem sound_mounted (n : Nat) : Sound n mounted := sound_runEffect clean_blank

/-- Nothing of the component shows that anything has happened. -/
structure Silent (s t : State) : Prop where
  made : t.made = s.made
  isConnected : t.isConnected = s.isConnected
  heard : t.heard = s.heard
  idle : t.wsRef = none ∧ t.timers = [] ∧ t.isMounted = false

theorem quiet_cleanup (s : State) :
    (cleanup s).made = s.made ∧ (cleanup s).isConnected = s.isConnected ∧
      (cleanup s).heard = s.heard := by
  cases timeout : s.reconnectTimeoutRef <;> cases ref : s.wsRef <;>
    simp [cleanup, timeout, ref, closeQuietly]

theorem Sound.silent_go (sound : Sound n s) (off : s.isMounted = false) (e : Event) :
    Silent s (go n s e) := by
  obtain ⟨ref, timers⟩ := sound.none_left off
  have never {P : Prop} (on : s.isMounted = true) : P := by
    rw [off] at on
    cases on
  have effect := effect_go sound e
  generalize go n s e = t at effect
  cases effect with
  | nothing _ => exact ⟨rfl, rfl, rfl, ref, timers, off⟩
  | unheard _ _ => exact ⟨rfl, rfl, rfl, ref, timers, off⟩
  | unmount =>
      have clean := clean_cleanup sound
      obtain ⟨made, isConnected, heard⟩ := quiet_cleanup s
      exact ⟨made, isConnected, heard, clean.1.ref, clean.1.idle, clean.2⟩
  | opened on _ => exact never on
  | closing on _ _ => exact never on
  | lost on _ => exact never on
  | heard on => exact never on
  | fired on _ => exact never on
  | rerun on => exact never on

/-- Whatever the browser does: while the component is there it has one connection or one timer that
will make one, after the delay that the failures since the last connection ask for; and once it is
gone nothing happens any more. -/
theorem one_connection (n : Nat) (es : List Event) :
    ∀ s ∈ states (go n) mounted es, Sound n s ∧
      (s.isMounted = false → ∀ later : List Event, Silent s (later.foldl (go n) s)) := by
  intro s member
  have sound := invariant_states (sound_go n) (sound_mounted n) s member
  refine ⟨sound, fun off later => ?_⟩
  have both : Sound n (later.foldl (go n) s) ∧ Silent s (later.foldl (go n) s) := by
    refine @invariant_foldl State Event (go n) (fun t => Sound n t ∧ Silent s t) ?_ s
      ⟨sound, rfl, rfl, rfl, (sound.none_left off).1, (sound.none_left off).2, off⟩ later
    rintro t e ⟨soundThere, silent⟩
    have next := soundThere.silent_go silent.idle.2.2 e
    exact ⟨sound_go n t e soundThere, next.made.trans silent.made,
      next.isConnected.trans silent.isConnected, next.heard.trans silent.heard, next.idle⟩
  exact both.2

/-- The connection is lost before it opens, and the component goes while the timer runs. -/
theorem one_connection_lost :
    Sound 3000 ([.closes 0, .unmount].foldl (go 3000) mounted) ∧
      (([.closes 0, .unmount].foldl (go 3000) mounted).isMounted = false →
        ∀ later : List Event,
          Silent ([.closes 0, .unmount].foldl (go 3000) mounted)
            (later.foldl (go 3000) ([.closes 0, .unmount].foldl (go 3000) mounted))) :=
  one_connection 3000 [.closes 0, .unmount] _ (last_mem_states _ _)

end Invariant

section Shown

variable {s : State} {n : Nat}

/-- The state of the socket that is referred to. -/
def current (s : State) : Option ReadyState := s.wsRef.map fun i => (s.sockets i).readyState

/-- `isConnected` says whether the connection is open, or was and is not lost yet. -/
def Truthful (s : State) : Prop :=
  s.isMounted = true →
    (s.isConnected = true ↔ current s = some .opened ∨ current s = some .closing)

/-- The effect is not run again while there is a connection. -/
def Steady (s : State) : Event → Prop
  | .rerun => s.isMounted = true → s.isConnected = false
  | _ => True

theorem steady_of_idle {e : Event} (idle : e = .rerun → s.isMounted = false) : Steady s e := by
  cases e with
  | rerun =>
      intro on
      cases (idle rfl).symm.trans on
  | opens i => trivial
  | closes i => trivial
  | closing i => trivial
  | message i parsed => trivial
  | fires id => trivial
  | unmount => trivial

theorem current_connect (clean : Clean s) (effect : Nat) :
    current (connect s effect) = some .connecting := by
  simp [connect, current, clean.ref]

theorem isConnected_connect (s : State) (effect : Nat) :
    (connect s effect).isConnected = s.isConnected := by
  rw [connect]
  split_ifs <;> rfl

theorem truthful_connecting (connecting : current s = some .connecting) :
    Truthful s ↔ (s.isMounted = true → s.isConnected = false) := by
  simp [Truthful, connecting]

theorem current_unheard (sound : Sound n s) {i : Nat} (handler : (s.sockets i).onclose = false) :
    current (socket s i .closed) = current s := by
  cases ref : s.wsRef with
  | none => simp [current, socket, ref]
  | some j =>
      have other : j ≠ i := by
        rintro rfl
        have on : s.isMounted = true := by
          by_contra off
          cases ref.symm.trans (sound.none_left (by simpa using off)).1
        rcases sound.one on with ⟨k, holding⟩ | ⟨t, waiting⟩
        · obtain rfl := Option.some.inj (ref.symm.trans holding.ref)
          cases handler.symm.trans holding.live.1
        · cases ref.symm.trans waiting.ref
      simp [current, socket, ref, Function.update_of_ne other]

/-- The effect that is run again shows what was shown, of a socket that is not open yet. -/
theorem truthful_rerun_iff (sound : Sound n s) :
    Truthful (runEffect (cleanup s)) ↔ s.isConnected = false := by
  have clean := (clean_cleanup sound).1
  have started : Clean { cleanup s with effect := (cleanup s).effect + 1, isMounted := true } :=
    ⟨⟨clean.tidy.unborn, clean.tidy.dropped⟩, clean.deaf, clean.ref, clean.idle⟩
  have connecting : current (runEffect (cleanup s)) = some .connecting :=
    current_connect started _
  have kept : (runEffect (cleanup s)).isConnected = s.isConnected :=
    (isConnected_connect _ _).trans (quiet_cleanup s).2.1
  have mounted : (runEffect (cleanup s)).isMounted = true := by
    simp [runEffect, connect, clean.ref]
  rw [truthful_connecting connecting, kept]
  exact ⟨fun shown => shown mounted, fun shown _ => shown⟩

theorem truthful_go_iff (sound : Sound n s) (truthful : Truthful s) (e : Event) :
    Truthful (go n s e) ↔ Steady s e := by
  have effect := effect_go sound e
  generalize go n s e = t at effect
  cases effect with
  | nothing idle =>
      exact iff_of_true truthful (steady_of_idle idle)
  | opened _ holding =>
      exact iff_of_true (by simp [Truthful, current, socket, holding.ref]) trivial
  | closing _ holding shown =>
      exact iff_of_true (by simp [Truthful, current, socket, holding.ref, shown]) trivial
  | @lost i on holding =>
      have now : isMountedOf (socket s i .closed) (s.sockets i).effect = true := by
        simp [isMountedOf, socket, on, holding.effect]
      refine iff_of_true ?_ trivial
      rw [onclose, if_pos now]
      simp [Truthful, current]
  | unheard handler _ =>
      refine iff_of_true (fun on => ?_) trivial
      rw [current_unheard sound handler]
      exact truthful on
  | heard _ => exact iff_of_true truthful trivial
  | fired _ waiting =>
      have connecting : current (connect { s with timers := [] } s.effect) = some .connecting := by
        simp [connect, current, waiting.ref]
      refine iff_of_true ((truthful_connecting connecting).mpr fun _ => ?_) trivial
      rw [isConnected_connect]
      exact waiting.shown
  | rerun on =>
      rw [truthful_rerun_iff sound]
      exact ⟨fun shown _ => shown, fun steady => steady on⟩
  | unmount =>
      refine iff_of_true (fun on => ?_) trivial
      cases (clean_cleanup sound).2.symm.trans on

/-- `isConnected` tells the truth in every state of a run iff the effect is never run again while
there is a connection, since its cleanup forgets to say that the connection is gone. -/
theorem isConnected_iff (n : Nat) (es : List Event) :
    (∀ s ∈ states (go n) mounted es, Truthful s) ↔ Along (go n) Steady mounted es := by
  refine @invariant_iff_along_within State Event (go n) Steady (Sound n) Truthful mounted es
    (fun s e _ sound => sound_go n s e sound)
    (fun s e _ sound truthful => truthful_go_iff sound truthful e) (sound_mounted n) ?_
  intro _
  simp [mounted, runEffect, connect, blank, current]

end Shown

end UseWebSocket
