import PCenter.Lib.Channel
import PCenter.Lib.FiniteMap
import PCenter.Lib.Thread
import Mathlib.Logic.Function.Basic

/-!
# The hub of the browsers

`Hub.Run` of `internal/api/websocket.go`, the handlers that register clients, the two pumps of
each client, the broadcasts and `Stop`, one step at a time. A goroutine that sends on one of the
channels without a buffer waits in the channel's list until `Run` takes it from there. Clients are
numbered as they are made. What goes over the sockets is left to the outside: a read or a write
may fail at any time, also because the other pump closed the socket.
-/

namespace BrowserHub

open Transition Channel

structure Hub where
  /-- The keys of `clients`. -/
  clients : List ℕ
  /-- The send channels of the clients. -/
  send : ℕ → Chan String
  broadcast : List String
  /-- The clients whose handlers wait to register them. -/
  register : List ℕ
  unregister : List ℕ
  /-- The channel `done` is closed. -/
  done : Bool
  /-- `Run` holds the write lock of `mu`. -/
  locked : Bool
  /-- How many clients were made. -/
  made : ℕ

def newHub : Hub := ⟨[], fun _ => .empty, [], [], [], false, false, 0⟩

/-- The case that the `select` of `Run` takes, if it is ready. -/
inductive Ready where
  | done
  | register
  | unregister
  | broadcast
  deriving DecidableEq

structure Outside where
  ready : Ready
  /-- The order in which the clients are gone through. -/
  order : List ℕ
  /-- The answer of `buildStateMessage`, unless it is nil. -/
  message : Option String
  /-- The upgrade, the read or the write fails. -/
  fails : Bool

inductive Request where
  | handleWebSocket
  /-- `BroadcastState` or `BroadcastActivity`, with the message unless it cannot be built. -/
  | broadcast (message : Option String)
  | stop

inductive Thread where
  /-- `Run` at its `select` -/
  | selecting
  | adding (c : ℕ)
  | greeting (c : ℕ)
  | removing (c : ℕ)
  | sending (message : String) (rest slow : List ℕ)
  | dropping (slow : List ℕ)
  | draining (rest : List ℕ)
  | halted
  /-- `HandleWebSocket` -/
  | upgrading
  | registering (c : ℕ)
  | handled
  /-- `readPump` -/
  | reading (c : ℕ)
  | leaving (c : ℕ)
  | left (c : ℕ)
  /-- `writePump` -/
  | receiving (c : ℕ)
  | writing (c : ℕ) (message : String)
  | hungUp (c : ℕ)
  /-- `BroadcastState` and `BroadcastActivity` -/
  | counting (message : Option String)
  | offering (message : String)
  | offered
  /-- `Stop` -/
  | stopping
  | stopped

def request : Request → Thread
  | .handleWebSocket => .upgrading
  | .broadcast message => .counting message
  | .stop => .stopping

/-- A send channel takes 256 messages, and so does the broadcast. -/
def capacity : ℕ := 256

/-- What a step does to the send channel of a client. -/
def Thread.op (o : Outside) (h : Hub) : Thread → Option (ℕ × Op String)
  | .greeting c =>
      o.message.bind fun m => if (h.send c).ready capacity then some (c, .send m) else none
  | .removing c => if c ∈ h.clients then some (c, .close) else none
  | .sending m (c :: _) _ => if (h.send c).ready capacity then some (c, .send m) else none
  | .dropping (c :: _) => if c ∈ h.clients then some (c, .close) else none
  | .draining (c :: _) => some (c, .close)
  | _ => none

def Hub.perform (h : Hub) : Option (ℕ × Op String) → Option Hub
  | none => some h
  | some (c, op) =>
      ((h.send c).apply op).map fun ch => { h with send := Function.update h.send c ch }

def Hub.delete (c : ℕ) (h : Hub) : Hub := { h with clients := h.clients.filter (· ≠ c) }

/-- `Run`, after what it has done to a send channel, if anything. -/
def run (used : Bool) (o : Outside) (h : Hub) : Thread → Thread × Hub
  | .selecting =>
      match o.ready with
      | .done =>
          if h.done then (.draining (FiniteMap.inOrder o.order h.clients), { h with locked := true })
          else (.selecting, h)
      | .register =>
          match h.register with
          | [] => (.selecting, h)
          | c :: rest => (.adding c, { h with register := rest })
      | .unregister =>
          match h.unregister with
          | [] => (.selecting, h)
          | c :: rest => (.removing c, { h with unregister := rest })
      | .broadcast =>
          match h.broadcast with
          | [] => (.selecting, h)
          | m :: rest =>
              (.sending m (FiniteMap.inOrder o.order h.clients) [], { h with broadcast := rest })
  | .adding c => (.greeting c, { h with clients := h.clients.insert c })
  | .greeting _ => (.selecting, h)
  | .removing c => (.selecting, h.delete c)
  | .sending m (c :: rest) slow => (.sending m rest (if used then slow else slow ++ [c]), h)
  | .sending _ [] [] => (.selecting, h)
  | .sending _ [] slow => (.dropping slow, { h with locked := true })
  | .dropping (c :: rest) => (.dropping rest, h.delete c)
  | .dropping [] => (.selecting, { h with locked := false })
  | .draining (c :: rest) => (.draining rest, h.delete c)
  | .draining [] => (.halted, { h with locked := false })
  | t => (t, h)

/-- The handler of a socket and its pumps. -/
def serve (o : Outside) (h : Hub) : Thread → Thread × Hub × List Thread
  | .upgrading =>
      if o.fails then (.handled, h, [])
      else
        (.registering h.made, { h with made := h.made + 1, register := h.register ++ [h.made] }, [])
  | .registering c =>
      if c ∈ h.register then (.registering c, h, [])
      else (.handled, h, [.receiving c, .reading c])
  | .reading c =>
      if o.fails then (.leaving c, { h with unregister := h.unregister ++ [c] }, [])
      else (.reading c, h, [])
  | .leaving c => if c ∈ h.unregister then (.leaving c, h, []) else (.left c, h, [])
  | .receiving c =>
      match (h.send c).buffer with
      | m :: rest =>
          (.writing c m,
            { h with send := Function.update h.send c { h.send c with buffer := rest } }, [])
      | [] => if (h.send c).closed then (.hungUp c, h, []) else (.receiving c, h, [])
  | .writing c _ => (if o.fails then .hungUp c else .receiving c, h, [])
  | t => (t, h, [])

/-- The broadcasts and `Stop`; to close `done` twice ends the process. -/
def call (h : Hub) : Thread → Option (Thread × Hub)
  | .counting none => some (.offered, h)
  | .counting (some m) =>
      if h.locked then some (.counting (some m), h)
      else if 0 < h.clients.length then some (.offering m, h)
      else some (.offered, h)
  | .offering m =>
      if h.broadcast.length < capacity then
        some (.offered, { h with broadcast := h.broadcast ++ [m] })
      else some (.offering m, h)
  | .stopping => if h.done then none else some (.stopped, { h with done := true })
  | t => some (t, h)

def advance (t : Thread) (o : Outside) (h : Hub) : Option (Thread × Hub × List Thread) :=
  match t with
  | .selecting | .adding _ | .greeting _ | .removing _ | .sending _ _ _ | .dropping _
  | .draining _ | .halted =>
      (h.perform (t.op o h)).map fun h' =>
        ((run (t.op o h).isSome o h' t).1, (run (t.op o h).isSome o h' t).2, [])
  | .upgrading | .registering _ | .handled | .reading _ | .leaving _ | .left _ | .receiving _
  | .writing _ _ | .hungUp _ => some (serve o h t)
  | .counting _ | .offering _ | .offered | .stopping | .stopped =>
      (call h t).map fun (t', h') => (t', h', [])

abbrev World := Thread.World Thread Hub

abbrev Move := Thread.Event Request Outside

def go : World → Move → World := Thread.step advance request

/-- `go hub.Run()` -/
def start : World := ⟨newHub, [.selecting], false⟩

/-- What an event does to the send channel of a client. -/
def used (w : World) (e : Move) : Option (ℕ × Op String) :=
  (Thread.actor request w e).bind fun (t, o) => t.op o w.shared

namespace Thread

/-- The loop of `Run`. -/
def runs : Thread → Bool
  | selecting | adding _ | greeting _ | removing _ | sending _ _ _ | dropping _ | draining _
  | halted => true
  | _ => false

/-- `Run` has taken the client from the handler, and has not put it into the map yet. -/
def adds (c : ℕ) : Thread → Bool
  | adding d => d = c
  | _ => false

end Thread

/-- The clients that `Run` has still to go through are in the map. -/
def Fits (clients : List ℕ) : Thread → Prop
  | .greeting c => c ∈ clients
  | .sending _ rest _ => rest ⊆ clients
  | .draining rest => rest ⊆ clients ∧ rest.Nodup
  | _ => True

def Hub.closed (h : Hub) (c : ℕ) : Bool := (h.send c).closed

/-- All that a step does to the map and to the channels of the clients. -/
inductive Effect (h : Hub) (t t' : Thread) (h' : Hub) (new : List Thread) : Prop where
  | outside : t.runs = false → t'.runs = false → (∀ u ∈ new, u.runs = false) →
      h'.clients = h.clients → h'.closed = h.closed →
      h'.register = h.register ∧ h'.made = h.made ∨
        h'.register = h.register ++ [h.made] ∧ h'.made = h.made + 1 → Effect h t t' h' new
  | turns : new = [] → t.runs = true → t'.runs = true → (∀ c, t'.adds c = t.adds c) →
      h'.clients = h.clients → h'.closed = h.closed → h'.register = h.register →
      h'.made = h.made → (h.clients.Nodup → Fits h.clients t → Fits h.clients t') →
      Effect h t t' h' new
  | receives (c : ℕ) (rest : List ℕ) : new = [] → t = .selecting → t' = .adding c →
      h.register = c :: rest → h' = { h with register := rest } → Effect h t t' h' new
  | adds (c : ℕ) : new = [] → t = .adding c → t' = .greeting c →
      h' = { h with clients := h.clients.insert c } → Effect h t t' h' new
  | closes (c : ℕ) : c ∈ h.clients → new = [] → t.runs = true → t'.runs = true → (∀ d, t.adds d = false) →
      (∀ d, t'.adds d = false) → h'.clients = h.clients.filter (· ≠ c) →
      h'.closed = Function.update h.closed c true → h'.register = h.register →
      h'.made = h.made → (Fits h.clients t → Fits h'.clients t') → Effect h t t' h' new

section Effects

variable {o : Outside} {h h' : Hub} {t t' : Thread} {new : List Thread}

theorem effect_serve (serves : t.runs = false) :
    Effect h t (serve o h t).1 (serve o h t).2.1 (serve o h t).2.2 := by
  cases t with
  | upgrading =>
      simp only [serve]
      split_ifs
      · exact .outside rfl rfl (by simp) rfl rfl (.inl ⟨rfl, rfl⟩)
      · exact .outside rfl rfl (by simp) rfl rfl (.inr ⟨rfl, rfl⟩)
  | registering c =>
      simp only [serve]
      split_ifs
      · exact .outside rfl rfl (by simp) rfl rfl (.inl ⟨rfl, rfl⟩)
      · exact .outside rfl rfl (by simp [Thread.runs]) rfl rfl (.inl ⟨rfl, rfl⟩)
  | reading c | leaving c =>
      simp only [serve]
      split_ifs <;> exact .outside rfl rfl (by simp) rfl rfl (.inl ⟨rfl, rfl⟩)
  | receiving c =>
      simp only [serve]
      split
      · refine .outside rfl rfl (by simp) rfl ?_ (.inl ⟨rfl, rfl⟩)
        funext d
        by_cases same : d = c
        · subst same
          simp [Hub.closed]
        · simp [Hub.closed, same]
      · split_ifs <;> exact .outside rfl rfl (by simp) rfl rfl (.inl ⟨rfl, rfl⟩)
  | writing c m =>
      simp only [serve]
      split_ifs <;> exact .outside rfl rfl (by simp) rfl rfl (.inl ⟨rfl, rfl⟩)
  | handled | left _ | hungUp _ | counting _ | offering _ | offered | stopping | stopped =>
      exact .outside rfl rfl (by simp [serve]) rfl rfl (.inl ⟨rfl, rfl⟩)
  | selecting | adding _ | greeting _ | removing _ | sending _ _ _ | dropping _ | draining _
  | halted => cases serves

theorem effect_call (calls : t.runs = false) (called : call h t = some (t', h')) :
    Effect h t t' h' [] := by
  cases t with
  | counting message =>
      cases message with
      | none =>
          obtain ⟨rfl, rfl⟩ := by simpa [call] using called
          exact .outside rfl rfl (by simp) rfl rfl (.inl ⟨rfl, rfl⟩)
      | some m =>
          simp only [call] at called
          split_ifs at called <;> obtain ⟨rfl, rfl⟩ := by simpa using called
          all_goals exact .outside rfl rfl (by simp) rfl rfl (.inl ⟨rfl, rfl⟩)
  | offering m =>
      simp only [call] at called
      split_ifs at called <;> obtain ⟨rfl, rfl⟩ := by simpa using called
      all_goals exact .outside rfl rfl (by simp) rfl rfl (.inl ⟨rfl, rfl⟩)
  | stopping =>
      simp only [call] at called
      split_ifs at called
      obtain ⟨rfl, rfl⟩ := by simpa using called
      exact .outside rfl rfl (by simp) rfl rfl (.inl ⟨rfl, rfl⟩)
  | upgrading | registering _ | handled | reading _ | leaving _ | left _ | receiving _
  | writing _ _ | hungUp _ | offered | stopped =>
      obtain ⟨rfl, rfl⟩ := by simpa [call] using called
      exact .outside rfl rfl (by simp) rfl rfl (.inl ⟨rfl, rfl⟩)
  | selecting | adding _ | greeting _ | removing _ | sending _ _ _ | dropping _ | draining _
  | halted => cases calls

theorem mem_of_op {c : ℕ} {op : Op String} (fits : Fits h.clients t)
    (acts : t.op o h = some (c, op)) : c ∈ h.clients := by
  cases t with
  | greeting d =>
      obtain ⟨m, -, sent⟩ := Option.bind_eq_some_iff.mp acts
      split_ifs at sent
      obtain ⟨rfl, -⟩ := Prod.mk.inj (Option.some.inj sent)
      exact fits
  | removing d =>
      simp only [Thread.op] at acts
      split_ifs at acts with member
      obtain ⟨rfl, -⟩ := Prod.mk.inj (Option.some.inj acts)
      exact member
  | sending m rest slow =>
      cases rest with
      | nil => cases acts
      | cons d rest =>
          simp only [Thread.op] at acts
          split_ifs at acts
          obtain ⟨rfl, -⟩ := Prod.mk.inj (Option.some.inj acts)
          exact fits List.mem_cons_self
  | dropping slow =>
      cases slow with
      | nil => cases acts
      | cons d slow =>
          simp only [Thread.op] at acts
          split_ifs at acts with member
          obtain ⟨rfl, -⟩ := Prod.mk.inj (Option.some.inj acts)
          exact member
  | draining rest =>
      cases rest with
      | nil => cases acts
      | cons d rest =>
          obtain ⟨rfl, -⟩ := Prod.mk.inj (Option.some.inj acts)
          exact fits.1 List.mem_cons_self
  | selecting | adding _ | halted | upgrading | registering _ | handled | reading _ | leaving _
  | left _ | receiving _ | writing _ _ | hungUp _ | counting _ | offering _ | offered | stopping
  | stopped => cases acts

theorem perform_send {c : ℕ} (unclosed : h.closed c = false) (m : String) :
    ∃ h', h.perform (some (c, .send m)) = some h' ∧ h'.clients = h.clients ∧
      h'.closed = h.closed ∧ h'.register = h.register ∧ h'.made = h.made := by
  have unclosed : (h.send c).closed = false := unclosed
  refine ⟨{ h with send := Function.update h.send c ⟨(h.send c).buffer ++ [m], false⟩ }, ?_, rfl,
    ?_, rfl, rfl⟩
  · simp [Hub.perform, Chan.apply, unclosed]
  · funext d
    by_cases same : d = c
    · subst same
      simp [Hub.closed, unclosed]
    · simp [Hub.closed, same]

theorem perform_close {c : ℕ} (unclosed : h.closed c = false) :
    ∃ h', h.perform (some (c, .close)) = some h' ∧ h'.clients = h.clients ∧
      h'.closed = Function.update h.closed c true ∧ h'.register = h.register ∧
      h'.made = h.made := by
  have unclosed : (h.send c).closed = false := unclosed
  refine ⟨{ h with send := Function.update h.send c ⟨(h.send c).buffer, true⟩ }, ?_, rfl, ?_, rfl,
    rfl⟩
  · simp [Hub.perform, Chan.apply, unclosed]
  · funext d
    by_cases same : d = c
    · subst same
      simp [Hub.closed]
    · simp [Hub.closed, same]

/-- What `Run` brings about, if the clients in the map are open. -/
def Turns (o : Outside) (h : Hub) (t : Thread) : Prop :=
  ∃ t' h', advance t o h = some (t', h', []) ∧ Effect h t t' h' [] ∧
    ∀ c, t.op o h = some (c, .close) → h'.closed c = true

theorem turns_of_idle {t' : Thread} {h' : Hub} (idle : t.op o h = none) (runs : t.runs = true)
    (ran : run false o h t = (t', h')) (effect : Effect h t t' h' []) : Turns o h t := by
  have advanced : advance t o h = some (t', h', []) := by
    cases t with
    | selecting | adding _ | greeting _ | removing _ | sending _ _ _ | dropping _ | draining _
    | halted => simp [advance, idle, Hub.perform, ran]
    | _ => cases runs
  refine ⟨t', h', advanced, effect, fun c acts => ?_⟩
  cases idle.symm.trans acts

theorem turns_of_sends {c : ℕ} {m : String} (unclosed : h.closed c = false) (runs : t.runs = true)
    (quiet : ∀ d, t.adds d = false) (acts : t.op o h = some (c, .send m)) {t' : Thread}
    (ran : ∀ h', run true o h' t = (t', h')) (later : t'.runs = true)
    (still : ∀ d, t'.adds d = false) (fits : Fits h.clients t → Fits h.clients t') :
    Turns o h t := by
  obtain ⟨h', performed, clients, closed, register, made⟩ := perform_send unclosed m
  have advanced : advance t o h = some (t', h', []) := by
    cases t with
    | selecting | adding _ | greeting _ | removing _ | sending _ _ _ | dropping _ | draining _
    | halted => simp [advance, acts, performed, ran]
    | _ => cases runs
  refine ⟨t', h', advanced, ?_, fun d closes => ?_⟩
  · exact .turns rfl runs later (fun d => (still d).trans (quiet d).symm) clients closed register
      made fun _ => fits
  · cases acts.symm.trans closes

theorem turns_of_closes {c : ℕ} (member : c ∈ h.clients) (unclosed : h.closed c = false) (runs : t.runs = true)
    (quiet : ∀ d, t.adds d = false) (acts : t.op o h = some (c, .close)) {t' : Thread}
    (ran : ∀ h', run true o h' t = (t', h'.delete c)) (later : t'.runs = true)
    (still : ∀ d, t'.adds d = false)
    (fits : Fits h.clients t → Fits (h.clients.filter (· ≠ c)) t') : Turns o h t := by
  obtain ⟨h', performed, clients, closed, register, made⟩ := perform_close unclosed
  have advanced : advance t o h = some (t', h'.delete c, []) := by
    cases t with
    | selecting | adding _ | greeting _ | removing _ | sending _ _ _ | dropping _ | draining _
    | halted => simp [advance, acts, performed, ran]
    | _ => cases runs
  have deleted : (h'.delete c).clients = h.clients.filter (· ≠ c) := by
    rw [Hub.delete, clients]
  refine ⟨t', h'.delete c, advanced, ?_, fun d closes => ?_⟩
  · refine .closes c member rfl runs later quiet still deleted closed register made fun fit => ?_
    rw [deleted]
    exact fits fit
  · obtain ⟨rfl, -⟩ := Prod.mk.inj (Option.some.inj (acts.symm.trans closes))
    change h'.closed c = true
    rw [closed, Function.update_self]

theorem turns_of_still (t' : Thread) (h' : Hub) (idle : t.op o h = none) (runs : t.runs = true)
    (quiet : ∀ d, t.adds d = false) (ran : run false o h t = (t', h')) (later : t'.runs = true)
    (still : ∀ d, t'.adds d = false) (clients : h'.clients = h.clients)
    (closed : h'.closed = h.closed) (register : h'.register = h.register) (made : h'.made = h.made)
    (fits : h.clients.Nodup → Fits h.clients t → Fits h.clients t') : Turns o h t :=
  turns_of_idle idle runs ran
    (.turns rfl runs later (fun d => (still d).trans (quiet d).symm) clients closed register made
      fits)

theorem turns_waiting (ran : run false o h .selecting = (.selecting, h)) :
    Turns o h .selecting :=
  turns_of_still .selecting h rfl rfl (fun _ => rfl) ran rfl (fun _ => rfl) rfl rfl rfl rfl
    fun _ fits => fits

theorem turns_selecting : Turns o h .selecting := by
  cases ready : o.ready with
  | done =>
      cases done : h.done with
      | true =>
          refine turns_of_still (.draining (FiniteMap.inOrder o.order h.clients))
            { h with locked := true } rfl rfl (fun _ => rfl) ?_ rfl (fun _ => rfl) rfl rfl rfl rfl
            fun distinct _ => ?_
          · simp [run, ready, done]
          · exact ⟨fun _ => FiniteMap.mem_inOrder.mp, FiniteMap.nodup_inOrder distinct⟩
      | false => exact turns_waiting (by simp [run, ready, done])
  | register =>
      cases waiting : h.register with
      | nil => exact turns_waiting (by simp [run, ready, waiting])
      | cons c rest =>
          refine turns_of_idle rfl rfl (?_ : _ = (.adding c, { h with register := rest })) ?_
          · simp [run, ready, waiting]
          · exact .receives c rest rfl rfl rfl waiting rfl
  | unregister =>
      cases waiting : h.unregister with
      | nil => exact turns_waiting (by simp [run, ready, waiting])
      | cons c rest =>
          refine turns_of_still (.removing c) { h with unregister := rest } rfl rfl (fun _ => rfl)
            ?_ rfl (fun _ => rfl) rfl rfl rfl rfl fun _ _ => trivial
          simp [run, ready, waiting]
  | broadcast =>
      cases waiting : h.broadcast with
      | nil => exact turns_waiting (by simp [run, ready, waiting])
      | cons m rest =>
          refine turns_of_still (.sending m (FiniteMap.inOrder o.order h.clients) [])
            { h with broadcast := rest } rfl rfl (fun _ => rfl) ?_ rfl (fun _ => rfl) rfl rfl rfl
            rfl fun _ _ => ?_
          · simp [run, ready, waiting]
          · exact fun _ => FiniteMap.mem_inOrder.mp

theorem turns_sending {m : String} {rest slow : List ℕ}
    (members : ∀ c ∈ h.clients, h.closed c = false) (fits : rest ⊆ h.clients) :
    Turns o h (.sending m rest slow) := by
  cases rest with
  | nil =>
      cases slow with
      | nil =>
          exact turns_of_still .selecting h rfl rfl (fun _ => rfl) rfl rfl (fun _ => rfl) rfl rfl
            rfl rfl fun _ _ => trivial
      | cons d slow =>
          exact turns_of_still (.dropping (d :: slow)) { h with locked := true } rfl rfl
            (fun _ => rfl) rfl rfl (fun _ => rfl) rfl rfl rfl rfl fun _ _ => trivial
  | cons c rest =>
      cases ready : (h.send c).ready capacity with
      | true =>
          have acts : (Thread.sending m (c :: rest) slow).op o h = some (c, .send m) := by
            simp [Thread.op, ready]
          exact turns_of_sends (members c (fits List.mem_cons_self)) rfl (fun _ => rfl) acts
            (fun _ => rfl) rfl (fun _ => rfl) fun within => (List.cons_subset.mp within).2
      | false =>
          exact turns_of_still (.sending m rest (slow ++ [c])) h (by simp [Thread.op, ready]) rfl
            (fun _ => rfl) rfl rfl (fun _ => rfl) rfl rfl rfl rfl
            fun _ within => (List.cons_subset.mp within).2

theorem delete_of_not_mem {c : ℕ} (absent : c ∉ h.clients) : h.delete c = h := by
  have same : h.clients.filter (· ≠ c) = h.clients := by
    apply List.filter_eq_self.mpr
    intro d member
    simp only [decide_eq_true_eq]
    rintro rfl
    exact absent member
  rw [Hub.delete, same]

theorem turns_of_runs (members : ∀ c ∈ h.clients, h.closed c = false) (fits : Fits h.clients t)
    (runs : t.runs = true) : Turns o h t := by
  cases t with
  | selecting => exact turns_selecting
  | adding c => exact turns_of_idle rfl rfl rfl (.adds c rfl rfl rfl rfl)
  | greeting c =>
      cases message : o.message with
      | none =>
          exact turns_of_still .selecting h (by simp [Thread.op, message]) rfl (fun _ => rfl) rfl
            rfl (fun _ => rfl) rfl rfl rfl rfl fun _ _ => trivial
      | some m =>
          cases ready : (h.send c).ready capacity with
          | true =>
              have acts : (Thread.greeting c).op o h = some (c, .send m) := by
                simp [Thread.op, message, ready]
              exact turns_of_sends (members c fits) rfl (fun _ => rfl) acts (fun _ => rfl) rfl
                (fun _ => rfl) fun _ => trivial
          | false =>
              exact turns_of_still .selecting h (by simp [Thread.op, message, ready]) rfl
                (fun _ => rfl) rfl rfl (fun _ => rfl) rfl rfl rfl rfl fun _ _ => trivial
  | removing c =>
      by_cases member : c ∈ h.clients
      · exact turns_of_closes member (members c member) rfl (fun _ => rfl) (by simp [Thread.op, member])
          (fun _ => rfl) rfl (fun _ => rfl) fun _ => trivial
      · refine turns_of_still .selecting h (by simp [Thread.op, member]) rfl (fun _ => rfl) ?_ rfl
          (fun _ => rfl) rfl rfl rfl rfl fun _ _ => trivial
        rw [run, delete_of_not_mem member]
  | sending m rest slow => exact turns_sending members fits
  | dropping slow =>
      cases slow with
      | nil =>
          exact turns_of_still .selecting { h with locked := false } rfl rfl (fun _ => rfl) rfl rfl
            (fun _ => rfl) rfl rfl rfl rfl fun _ _ => trivial
      | cons c slow =>
          by_cases member : c ∈ h.clients
          · exact turns_of_closes member (members c member) rfl (fun _ => rfl)
              (by simp [Thread.op, member]) (fun _ => rfl) rfl (fun _ => rfl) fun _ => trivial
          · refine turns_of_still (.dropping slow) h (by simp [Thread.op, member]) rfl
              (fun _ => rfl) ?_ rfl (fun _ => rfl) rfl rfl rfl rfl fun _ _ => trivial
            rw [run, delete_of_not_mem member]
  | draining rest =>
      cases rest with
      | nil =>
          exact turns_of_still .halted { h with locked := false } rfl rfl (fun _ => rfl) rfl rfl
            (fun _ => rfl) rfl rfl rfl rfl fun _ _ => trivial
      | cons c rest =>
          have member : c ∈ h.clients := fits.1 List.mem_cons_self
          refine turns_of_closes member (members c member) rfl (fun _ => rfl) rfl (fun _ => rfl) rfl (fun _ => rfl) fun within => ?_
          obtain ⟨apart, distinct⟩ := List.nodup_cons.mp within.2
          refine ⟨fun d listed => List.mem_filter.mpr ⟨?_, ?_⟩, distinct⟩
          · exact within.1 (List.mem_cons_of_mem c listed)
          · simp only [decide_eq_true_eq]
            rintro rfl
            exact apart listed
  | halted =>
      exact turns_of_still .halted h rfl rfl (fun _ => rfl) rfl rfl (fun _ => rfl) rfl rfl rfl rfl
        fun _ _ => trivial
  | upgrading | registering _ | handled | reading _ | leaving _ | left _ | receiving _
  | writing _ _ | hungUp _ | counting _ | offering _ | offered | stopping | stopped => cases runs

end Effects

section Runs

variable {h h' : Hub} {t t' : Thread} {before after new pool : List Thread}

/-- A client that was not put into the map yet waits in the channel, or `Run` has it. -/
def waits (h : Hub) (pool : List Thread) (c : ℕ) : ℕ :=
  h.register.count c + pool.countP (Thread.adds c)

structure Inv (h : Hub) (pool : List Thread) : Prop where
  single : pool.countP Thread.runs ≤ 1
  distinct : h.clients.Nodup
  members : ∀ c ∈ h.clients, h.closed c = false
  made : ∀ c, c ∈ h.clients ∨ h.closed c = true ∨ 0 < waits h pool c → c < h.made
  once : ∀ c, waits h pool c ≤ 1
  fresh : ∀ c, 0 < waits h pool c → c ∉ h.clients ∧ h.closed c = false
  fits : ∀ t ∈ pool, Fits h.clients t

theorem fits_of_outside {clients : List ℕ} (outside : t.runs = false) : Fits clients t := by
  cases t with
  | selecting | adding _ | greeting _ | removing _ | sending _ _ _ | dropping _ | draining _
  | halted => cases outside
  | _ => trivial

theorem adds_of_outside (outside : t.runs = false) (c : ℕ) : t.adds c = false := by
  cases t with
  | adding d => cases outside
  | _ => rfl

theorem inv_start : Inv newHub [.selecting] := by
  refine ⟨le_rfl, List.nodup_nil, fun c member => ?_, fun c known => ?_, fun c => ?_,
    fun c positive => ?_, fun t member => ?_⟩
  · cases member
  · rcases known with member | closed | positive
    · cases member
    · cases closed
    · simp [waits, newHub, Thread.adds] at positive
  · simp [waits, newHub, Thread.adds]
  · simp [waits, newHub, Thread.adds] at positive
  · obtain rfl := List.mem_singleton.mp member
    trivial

theorem runs_request (q : Request) : (request q).runs = false := by
  cases q <;> rfl

theorem inv_called {w : World} {e : Move} (inv : Inv w.shared w.pool) :
    Inv w.shared (Thread.called request w e) := by
  have counts : ∀ c, waits w.shared (Thread.called request w e) c = waits w.shared w.pool c := by
    intro c
    rw [waits, Thread.countP_called fun q => adds_of_outside (runs_request q) c]
    rfl
  refine ⟨?_, inv.distinct, inv.members, ?_, ?_, ?_, ?_⟩
  · rw [Thread.countP_called runs_request]
    exact inv.single
  · simp only [counts]
    exact inv.made
  · simp only [counts]
    exact inv.once
  · simp only [counts]
    exact inv.fresh
  · exact Thread.forall_called (fun q _ _ => fits_of_outside (runs_request q)) inv.fits

theorem outside_of_runs (inv : Inv h (before ++ t :: after)) (runs : t.runs = true) :
    ∀ u ∈ before ++ after, u.runs = false := by
  have single := inv.single
  rw [Thread.countP_middle, List.countP_singleton, if_pos runs] at single
  intro u member
  by_contra running
  have counted : 0 < (before ++ after).countP Thread.runs :=
    List.countP_pos_iff.mpr ⟨u, member, by simpa using running⟩
  omega

theorem fits_beside (inv : Inv h (before ++ t :: after)) (runs : t.runs = true)
    (fits : Fits h'.clients t') : ∀ u ∈ before ++ t' :: after, Fits h'.clients u := by
  intro u member
  rcases List.mem_append.mp member with first | later
  · exact fits_of_outside (outside_of_runs inv runs u (List.mem_append_left _ first))
  · rcases List.mem_cons.mp later with rfl | last
    · exact fits
    · exact fits_of_outside (outside_of_runs inv runs u (List.mem_append_right _ last))

theorem waits_middle (c : ℕ) : waits h (before ++ t :: after) c =
    h.register.count c + ([t].countP (Thread.adds c) + (before ++ after).countP (Thread.adds c)) := by
  rw [waits, Thread.countP_middle]

theorem inv_outside (inv : Inv h (before ++ t :: after)) (outside : t.runs = false)
    (still : t'.runs = false) (started : ∀ u ∈ new, u.runs = false)
    (clients : h'.clients = h.clients) (closed : h'.closed = h.closed)
    (register : h'.register = h.register ∧ h'.made = h.made ∨
      h'.register = h.register ++ [h.made] ∧ h'.made = h.made + 1) :
    Inv h' (before ++ t' :: after ++ new) := by
  have none_ : ∀ test : Thread → Bool, (∀ u ∈ new, test u = false) → new.countP test = 0 :=
    fun test all => List.countP_eq_zero.mpr fun u member => by simp [all u member]
  have counts : ∀ c, (before ++ t' :: after ++ new).countP (Thread.adds c) =
      (before ++ t :: after).countP (Thread.adds c) := by
    intro c
    rw [List.countP_append, none_ _ fun u member => adds_of_outside (started u member) c,
      Thread.countP_middle, Thread.countP_middle, List.countP_singleton, List.countP_singleton,
      adds_of_outside still c, adds_of_outside outside c, Nat.add_zero]
  have waiting : ∀ c, waits h' (before ++ t' :: after ++ new) c =
      waits h (before ++ t :: after) c + if c = h.made ∧ h'.made = h.made + 1 then 1 else 0 := by
    intro c
    rw [waits, waits, counts]
    rcases register with ⟨same, made⟩ | ⟨more, made⟩
    · simp [same, made]
    · rw [more, made, List.count_append, List.count_singleton]
      by_cases new : c = h.made
      · subst new
        simp
        omega
      · simp [new, Ne.symm new]
  have unknown : ¬(h.made ∈ h.clients ∨ h.closed h.made = true ∨
      0 < waits h (before ++ t :: after) h.made) :=
    fun known => absurd (inv.made _ known) (Nat.lt_irrefl _)
  obtain ⟨unlisted, unclosed, idle⟩ := by simpa only [not_or] using unknown
  refine ⟨?_, ?_, ?_, fun c known => ?_, fun c => ?_, fun c positive => ?_, fun u member => ?_⟩
  · rw [List.countP_append, none_ _ started, Thread.countP_middle, List.countP_singleton, still]
    have single := inv.single
    rw [Thread.countP_middle] at single
    simp only [Bool.false_eq_true, if_false]
    omega
  · rw [clients]
    exact inv.distinct
  · rw [clients, closed]
    exact inv.members
  · rw [clients, closed, waiting] at known
    have earlier := inv.made c
    split_ifs at known with here
    · rw [here.1, here.2]
      exact Nat.lt_succ_self _
    · have below := earlier known
      rcases register with ⟨-, made⟩ | ⟨-, made⟩ <;> omega
  · rw [waiting]
    split_ifs with here
    · rw [here.1]
      omega
    · exact inv.once c
  · rw [waiting] at positive
    rw [clients, closed]
    split_ifs at positive with here
    · rw [here.1]
      exact ⟨unlisted, by simpa using unclosed⟩
    · exact inv.fresh c positive
  · rw [clients]
    rcases List.mem_append.mp member with listed | fresh
    · rcases List.mem_append.mp listed with first | later
      · exact inv.fits u (List.mem_append_left _ first)
      · rcases List.mem_cons.mp later with rfl | last
        · exact fits_of_outside still
        · exact inv.fits u (List.mem_append_right _ (List.mem_cons_of_mem t last))
    · exact fits_of_outside (started u fresh)

theorem single_of_runs (inv : Inv h (before ++ t :: after)) (runs : t.runs = true)
    (later : t'.runs = true) : (before ++ t' :: after).countP Thread.runs ≤ 1 := by
  have single := inv.single
  rw [Thread.countP_middle, List.countP_singleton] at single ⊢
  rw [if_pos runs] at single
  rw [if_pos later]
  exact single

theorem inv_turns (inv : Inv h (before ++ t :: after)) (runs : t.runs = true)
    (later : t'.runs = true) (adds : ∀ c, t'.adds c = t.adds c) (clients : h'.clients = h.clients)
    (closed : h'.closed = h.closed) (register : h'.register = h.register)
    (made : h'.made = h.made) (fits : Fits h.clients t') : Inv h' (before ++ t' :: after) := by
  have waiting : ∀ c, waits h' (before ++ t' :: after) c = waits h (before ++ t :: after) c := by
    intro c
    rw [waits_middle, waits_middle, register, List.countP_singleton, List.countP_singleton, adds]
  refine ⟨single_of_runs inv runs later, ?_, ?_, ?_, ?_, ?_, ?_⟩
  · rw [clients]
    exact inv.distinct
  · rw [clients, closed]
    exact inv.members
  · simp only [clients, closed, waiting, made]
    exact inv.made
  · simp only [waiting]
    exact inv.once
  · simp only [clients, closed, waiting]
    exact inv.fresh
  · exact fits_beside inv runs (by rwa [clients])

theorem inv_receives {c : ℕ} {rest : List ℕ} (inv : Inv h (before ++ .selecting :: after))
    (waiting : h.register = c :: rest) :
    Inv { h with register := rest } (before ++ .adding c :: after) := by
  have same : ∀ d, waits { h with register := rest } (before ++ .adding c :: after) d =
      waits h (before ++ .selecting :: after) d := by
    intro d
    rw [waits_middle, waits_middle, waiting, List.count_cons, List.countP_singleton,
      List.countP_singleton]
    by_cases here : c = d
    · simp only [Thread.adds, here, decide_true, beq_self_eq_true, if_true, Bool.false_eq_true,
        if_false]
      omega
    · simp [Thread.adds, here]
  refine ⟨single_of_runs inv rfl rfl, inv.distinct, inv.members, ?_, ?_, ?_, ?_⟩
  · simp only [same]
    exact inv.made
  · simp only [same]
    exact inv.once
  · simp only [same]
    exact inv.fresh
  · exact fits_beside inv rfl trivial

theorem inv_adds {c : ℕ} (inv : Inv h (before ++ .adding c :: after)) :
    Inv { h with clients := h.clients.insert c } (before ++ .greeting c :: after) := by
  have waiting : ∀ d, waits h (before ++ .adding c :: after) d =
      waits { h with clients := h.clients.insert c } (before ++ .greeting c :: after) d +
        if c = d then 1 else 0 := by
    intro d
    rw [waits_middle, waits_middle, List.countP_singleton, List.countP_singleton]
    by_cases here : c = d
    · simp only [Thread.adds, here, decide_true, if_true, Bool.false_eq_true, if_false]
      omega
    · simp [Thread.adds, here]
  have here := waiting c
  have once := inv.once c
  rw [if_pos rfl] at here
  obtain ⟨unlisted, unclosed⟩ := inv.fresh c (by omega)
  refine ⟨single_of_runs inv rfl rfl, inv.distinct.insert, fun d listed => ?_, fun d known => ?_,
    fun d => ?_, fun d positive => ?_, ?_⟩
  · rcases List.mem_insert_iff.mp listed with rfl | old
    · exact unclosed
    · exact inv.members d old
  · apply inv.made d
    rcases known with listed | closed | positive
    · rcases List.mem_insert_iff.mp listed with rfl | old
      · exact .inr (.inr (by omega))
      · exact .inl old
    · exact .inr (.inl closed)
    · exact .inr (.inr (by rw [waiting]; omega))
  · have all := inv.once d
    rw [waiting] at all
    omega
  · obtain ⟨old, closed⟩ := inv.fresh d (by rw [waiting]; omega)
    refine ⟨fun listed => ?_, closed⟩
    rcases List.mem_insert_iff.mp listed with rfl | other
    · omega
    · exact old other
  · exact fits_beside inv rfl (List.mem_insert_self)

theorem inv_closes {c : ℕ} (inv : Inv h (before ++ t :: after)) (member : c ∈ h.clients)
    (runs : t.runs = true) (later : t'.runs = true) (quiet : ∀ d, t.adds d = false)
    (still : ∀ d, t'.adds d = false) (clients : h'.clients = h.clients.filter (· ≠ c))
    (closed : h'.closed = Function.update h.closed c true) (register : h'.register = h.register)
    (made : h'.made = h.made) (fits : Fits h'.clients t') : Inv h' (before ++ t' :: after) := by
  have waiting : ∀ d, waits h' (before ++ t' :: after) d = waits h (before ++ t :: after) d := by
    intro d
    rw [waits_middle, waits_middle, register, List.countP_singleton, List.countP_singleton,
      quiet, still]
  refine ⟨single_of_runs inv runs later, ?_, fun d listed => ?_, fun d known => ?_, fun d => ?_,
    fun d positive => ?_, fits_beside inv runs fits⟩
  · rw [clients]
    exact inv.distinct.filter _
  · rw [clients] at listed
    obtain ⟨listed, apart⟩ := List.mem_filter.mp listed
    rw [closed, Function.update_of_ne (by simpa using apart)]
    exact inv.members d listed
  · rw [made]
    apply inv.made d
    rw [clients, closed, waiting] at known
    rcases known with listed | shut | positive
    · exact .inl (List.mem_filter.mp listed).1
    · by_cases same : d = c
      · exact .inl (same ▸ member)
      · rw [Function.update_of_ne same] at shut
        exact .inr (.inl shut)
    · exact .inr (.inr positive)
  · rw [waiting]
    exact inv.once d
  · rw [waiting] at positive
    obtain ⟨unlisted, unclosed⟩ := inv.fresh d positive
    have apart : d ≠ c := fun same => unlisted (same ▸ member)
    rw [clients, closed, Function.update_of_ne apart]
    exact ⟨fun listed => unlisted (List.mem_filter.mp listed).1, unclosed⟩

theorem inv_effect (inv : Inv h (before ++ t :: after)) (effect : Effect h t t' h' new) :
    Inv h' (before ++ t' :: after ++ new) := by
  have own : Fits h.clients t := inv.fits t (by simp)
  cases effect with
  | outside outside still started clients closed register =>
      exact inv_outside inv outside still started clients closed register
  | turns none_ runs later adds clients closed register made fits =>
      subst none_
      rw [List.append_nil]
      exact inv_turns inv runs later adds clients closed register made (fits inv.distinct own)
  | receives c rest none_ here there waiting moved =>
      subst none_ here there moved
      rw [List.append_nil]
      exact inv_receives inv waiting
  | adds c none_ here there moved =>
      subst none_ here there moved
      rw [List.append_nil]
      exact inv_adds inv
  | closes c member none_ runs later quiet still clients closed register made fits =>
      subst none_
      rw [List.append_nil]
      exact inv_closes inv member runs later quiet still clients closed register made (fits own)

theorem Effect.closed_stays (effect : Effect h t t' h' new) {c : ℕ} (closed : h.closed c = true) :
    h'.closed c = true := by
  cases effect with
  | outside _ _ _ _ same | turns _ _ _ _ _ same => rwa [same]
  | receives d rest _ _ _ _ moved | adds d _ _ _ moved =>
      rw [moved]
      exact closed
  | closes d _ _ _ _ _ _ _ more =>
      rw [more]
      by_cases same : c = d
      · rw [same, Function.update_self]
      · rw [Function.update_of_ne same, closed]

theorem op_of_outside {o : Outside} (outside : t.runs = false) : t.op o h = none := by
  cases t with
  | selecting | adding _ | greeting _ | removing _ | sending _ _ _ | dropping _ | draining _
  | halted => cases outside
  | _ => rfl

theorem effect_of_outside {o : Outside} (outside : t.runs = false) :
    advance t o h = none ∨
      ∃ t' h' new, advance t o h = some (t', h', new) ∧ Effect h t t' h' new := by
  have calls : advance t o h = (call h t).map (fun (t', h') => (t', h', [])) →
      advance t o h = none ∨
        ∃ t' h' new, advance t o h = some (t', h', new) ∧ Effect h t t' h' new := by
    intro same
    cases called : call h t with
    | none => exact .inl (by rw [same, called]; rfl)
    | some next => exact .inr ⟨next.1, next.2, [], by rw [same, called]; rfl,
        effect_call outside called⟩
  cases t with
  | upgrading | registering _ | handled | reading _ | leaving _ | left _ | receiving _
  | writing _ _ | hungUp _ => exact .inr ⟨_, _, _, rfl, @effect_serve o h _ outside⟩
  | counting _ | offering _ | offered | stopping | stopped => exact calls rfl
  | selecting | adding _ | greeting _ | removing _ | sending _ _ _ | dropping _ | draining _
  | halted => cases outside

theorem effect_advance {o : Outside} (inv : Inv h (before ++ t :: after)) :
    advance t o h = none ∧ t.runs = false ∨
      ∃ t' h' new, advance t o h = some (t', h', new) ∧ Effect h t t' h' new ∧
        ∀ c, t.op o h = some (c, .close) → h'.closed c = true := by
  have own : Fits h.clients t := inv.fits t (by simp)
  cases running : t.runs with
  | true =>
      obtain ⟨t', h', advanced, effect, closes⟩ := turns_of_runs inv.members own running
      exact .inr ⟨t', h', [], advanced, effect, closes⟩
  | false =>
      have idle := @op_of_outside h t o running
      rcases @effect_of_outside h t o running with stuck | ⟨t', h', new, advanced, effect⟩
      · exact .inl ⟨stuck, rfl⟩
      · refine .inr ⟨t', h', new, advanced, effect, fun c acts => ?_⟩
        cases idle.symm.trans acts

theorem used_eq {w : World} {e : Move} {o : Outside}
    (acts : Thread.actor request w e = some (t, o)) : used w e = t.op o w.shared := by
  rw [used, acts]
  rfl

theorem go_cases {w : World} {e : Move} (inv : Inv w.shared w.pool) :
    Inv (go w e).shared (go w e).pool ∧
      (∀ c, w.shared.closed c = true → (go w e).shared.closed c = true) ∧
      ∀ c, used w e = some (c, .close) → (go w e).shared.closed c = true := by
  rcases Thread.step_cases advance request w e with ⟨idle, same⟩ |
    ⟨t, o, before, after, acts, -, turn, rest⟩
  · rw [go, same]
    refine ⟨inv, fun c closed => closed, fun c closes => ?_⟩
    rw [used, idle] at closes
    cases closes
  · have called := @inv_called w e inv
    rw [turn.called_eq] at called
    have uses := used_eq acts
    rcases @effect_advance w.shared t before after o called with
      ⟨stuck, outside⟩ | ⟨t', h', new, advanced, effect, closes⟩
    · rcases rest with ⟨-, moved⟩ | ⟨_, _, _, advanced, -⟩
      · rw [go, moved]
        refine ⟨by rwa [turn.called_eq], fun c closed => closed, fun c acting => ?_⟩
        cases (op_of_outside outside).symm.trans (uses.symm.trans acting)
      · cases stuck.symm.trans advanced
    · rcases rest with ⟨stuck, -⟩ | ⟨u, s, others, advanced', moved⟩
      · cases stuck.symm.trans advanced
      · obtain ⟨rfl, rest⟩ := Prod.mk.inj (Option.some.inj (advanced'.symm.trans advanced))
        obtain ⟨rfl, rfl⟩ := Prod.mk.inj rest
        rw [go, moved]
        refine ⟨inv_effect called effect, fun c => effect.closed_stays, fun c acting => ?_⟩
        exact closes c (uses.symm.trans acting)

theorem opens {w : World} {e : Move} {c : ℕ} {op : Op String} (inv : Inv w.shared w.pool)
    (acts : used w e = some (c, op)) : w.shared.closed c = false := by
  obtain ⟨⟨t, o⟩, actor, acts⟩ := Option.bind_eq_some_iff.mp acts
  have member : t ∈ Thread.called request w e := by
    rcases Thread.step_cases advance request w e with ⟨idle, -⟩ |
      ⟨u, o', before, after, other, -, turn, -⟩
    · cases idle.symm.trans actor
    · obtain ⟨rfl, -⟩ := Prod.mk.inj (Option.some.inj (other.symm.trans actor))
      rw [turn.called_eq]
      exact List.mem_append_right _ List.mem_cons_self
  exact inv.members c (mem_of_op ((inv_called inv).fits t member) acts)

/-- Whatever the clients, the broadcasts and the stop do, in any order, no send channel is closed
twice, and nothing is sent on one that was closed. -/
theorem channels_orderly (es : List Move) : Orderly (history go used start es) := by
  apply @orderly_history _ _ _ _ go used (fun w => Inv w.shared w.pool)
    fun w c => w.shared.closed c = true
  · exact fun w e inv => (go_cases inv).1
  · exact fun w e c op inv acts closed => by simp [opens inv acts] at closed
  · exact fun w e c inv => (go_cases inv).2.1 c
  · exact fun w e c inv => (go_cases inv).2.2 c
  · exact inv_start

end Runs

end BrowserHub
