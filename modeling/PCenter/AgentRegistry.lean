import PCenter.CommandTracker
import PCenter.Lib.Text

/-!
# The registry of connected agents

The hub of `internal/agent/hub.go` and `Hub.SendCommand`. A connection has a thread that
reads and one that writes; requests send commands to the agent that is registered under a
key. The reader writes the names of its connection before it takes the hub's lock. To close
a `done` channel that is closed already ends the process. A read may still bring a message
that was buffered before the socket was closed, so what a read brings is left to the
outside, and so is whether a write fails.
-/

namespace AgentRegistry

open CommandTracker (CommandData CommandResultData Tracker Phase)
open Transition

structure RegisterData where
  node : String
  cluster : String
  version : String
  deriving DecidableEq, Repr

structure AgentConn where
  node : String
  cluster : String
  version : String
  /-- The buffer of the send channel. -/
  send : List CommandData
  /-- The done channel is closed. -/
  done : Bool

def key (cluster node : String) : String := cluster ++ "/" ++ node

def AgentConn.key (a : AgentConn) : String := AgentRegistry.key a.cluster a.node

/-- The connections are numbered as they are accepted; one that is not accepted yet is as it
will be then. -/
structure Hub where
  authToken : String
  agents : FiniteMap.Map String Nat
  conns : Nat → AgentConn
  made : Nat
  commands : Tracker

def newConn : AgentConn := ⟨"", "", "", [], false⟩

def newHub (authToken : String) : Hub :=
  ⟨authToken, ∅, fun _ => newConn, 0, CommandTracker.newCommandTracker⟩

namespace Hub

def update (c : Nat) (a : AgentConn) (h : Hub) : Hub :=
  { h with conns := Function.update h.conns c a }

/-- `close(a.done)` -/
def closeDone (c : Nat) (h : Hub) : Option Hub :=
  if (h.conns c).done then none else some (h.update c { h.conns c with done := true })

def register (c : Nat) (h : Hub) : Option Hub :=
  match h.agents.lookup (h.conns c).key with
  | none => some { h with agents := h.agents.insert (h.conns c).key c }
  | some existing =>
      (h.closeDone existing).map fun closed =>
        { closed with agents := closed.agents.insert (h.conns c).key c }

def unregister (c : Nat) (h : Hub) : Option Hub :=
  if (h.conns c).node = "" then some h
  else if h.agents.lookup (h.conns c).key = some c then
    { h with agents := h.agents.erase (h.conns c).key }.closeDone c
  else some h

/-- The token of the query, or else of the header. -/
def authorized (query authorization : String) (h : Hub) : Bool :=
  let token :=
    if query = "" then
      if GoText.hasPrefix "Bearer " authorization then
        String.ofList (authorization.toList.drop 7)
      else ""
    else query
  h.authToken ≠ "" && token = h.authToken

end Hub

/-- What a read of a connection ends with. -/
inductive Input where
  | failed
  | register (reg : RegisterData)
  | commandResult (result : CommandResultData)
  /- Any other message, also one that cannot be parsed. -/
  | other

structure Outside where
  input : Input
  upgraded : Bool
  /-- The writer sees that `done` is closed before it sees the next message. -/
  stops : Bool
  writeFails : Bool
  tracker : CommandTracker.Outside

inductive Request where
  | handleWebSocket (query authorization : String)
  | sendCommand (cluster node : String) (cmd : CommandData)
  | startCleanupLoop

inductive Thread where
  | accepting (query authorization : String)
  | answered (accepted : Bool)
  | reading (c : Nat)
  | registering (c : Nat)
  | completing (c : Nat) (call : Phase)
  | unregistering (c : Nat)
  | ended (c : Nat)
  | writing (c : Nat)
  | written (c : Nat)
  | looking (cluster node : String) (cmd : CommandData)
  | adding (c : Nat) (cmd : CommandData) (call : Phase)
  | sending (c : Nat) (cmd : CommandData) (channel : Nat)
  | dropping (call : Phase)
  | returned (r : Except String Nat)
  | cleaning (call : Phase)

def request : Request → Thread
  | .handleWebSocket query authorization => .accepting query authorization
  | .sendCommand cluster node cmd => .looking cluster node cmd
  | .startCleanupLoop => .cleaning (.timing (60 * 1000000000))

/-- `handleRegister` rejects a message without a node or a cluster. -/
def RegisterData.complete (reg : RegisterData) : Bool := reg.node ≠ "" && reg.cluster ≠ ""

def named (reg : RegisterData) (a : AgentConn) : AgentConn :=
  { a with node := reg.node, cluster := reg.cluster, version := reg.version }

/-- One turn of the loop in `readPump`, up to the first lock. -/
def read (c : Nat) (h : Hub) : Input → Thread × Hub
  | .failed => (.unregistering c, h)
  | .register reg =>
      if reg.complete then (.registering c, h.update c (named reg (h.conns c))) else (.reading c, h)
  | .commandResult result => (.completing c (.completing result), h)
  | .other => (.reading c, h)

/-- One turn of the loop in `writePump`. -/
def write (c : Nat) (o : Outside) (h : Hub) : Thread × Hub :=
  if (h.conns c).done && o.stops then (.written c, h)
  else
    match (h.conns c).send with
    | [] => (.writing c, h)
    | _ :: rest =>
        (if o.writeFails then .written c else .writing c,
          h.update c { h.conns c with send := rest })

/-- A step of a call of the tracker. -/
def track (o : Outside) (h : Hub) (call : Phase) : Phase × Hub :=
  ((CommandTracker.next o.tracker h.commands call).1,
    { h with commands := (CommandTracker.next o.tracker h.commands call).2 })

def notConnected (key : String) : String := "agent not connected: " ++ key

def advance : Thread → Outside → Hub → Option (Thread × Hub × List Thread)
  | .accepting query authorization, o, h =>
      if h.authorized query authorization && o.upgraded then
        some (.answered true, { h with made := h.made + 1 }, [.reading h.made, .writing h.made])
      else some (.answered false, h, [])
  | .reading c, o, h => some ((read c h o.input).1, (read c h o.input).2, [])
  | .registering c, _, h => (h.register c).map fun h => (.reading c, h, [])
  | .completing c (.completed _ _), _, h => some (.reading c, h, [])
  | .completing c call, o, h =>
      some (.completing c (track o h call).1, (track o h call).2, [])
  | .unregistering c, _, h => (h.unregister c).map fun h => (.ended c, h, [])
  | .writing c, o, h => some ((write c o h).1, (write c o h).2, [])
  | .looking cluster node cmd, _, h =>
      match h.agents.lookup (key cluster node) with
      | none => some (.returned (.error (notConnected (key cluster node))), h, [])
      | some c => some (.adding c cmd (.adding cmd), h, [])
  | .adding c cmd (.added channel), _, h => some (.sending c cmd channel, h, [])
  | .adding c cmd call, o, h => some (.adding c cmd (track o h call).1, (track o h call).2, [])
  | .sending c cmd channel, _, h =>
      if (h.conns c).send.length < 64 then
        some (.returned (.ok channel),
          h.update c { h.conns c with send := (h.conns c).send ++ [cmd] }, [])
      else some (.dropping (.removing cmd.id), h, [])
  | .dropping .removed, _, h => some (.returned (.error "agent send buffer full"), h, [])
  | .dropping call, o, h => some (.dropping (track o h call).1, (track o h call).2, [])
  | .cleaning (.cleaned _), _, h => some (.cleaning (.timing (60 * 1000000000)), h, [])
  | .cleaning call, o, h => some (.cleaning (track o h call).1, (track o h call).2, [])
  | t, _, h => some (t, h, [])

abbrev World := Thread.World Thread Hub

abbrev Event := Thread.Event Request Outside

def step : World → Event → World := Thread.step advance request

def start (authToken : String) : World := ⟨newHub authToken, [], false⟩

def actor (w : World) (e : Event) : Option (Thread × Outside) := Thread.actor request w e

namespace Thread

/-- The reader of the connection. -/
def reads (c : Nat) : Thread → Bool
  | reading d | registering d | completing d _ | unregistering d | ended d => d = c
  | _ => false

/-- A request that has found the connection and has not sent to it yet. -/
def sendsTo (c : Nat) : Thread → Bool
  | adding d _ _ | sending d _ _ => d = c
  | _ => false

end Thread

/-- The names of a connection and its done channel, without the buffer. -/
def Alike (a b : AgentConn) : Prop := a.key = b.key ∧ a.node = b.node ∧ a.done = b.done

/-- All that a step does to the registry. -/
inductive Effect (h : Hub) : Thread → Outside → Thread → Hub → List Thread → Prop where
  | idle (t t' : Thread) (o : Outside) (h' : Hub) : h'.agents = h.agents →
      (∀ c, Alike (h'.conns c) (h.conns c)) → h'.made = h.made →
      (∀ c, t'.reads c = t.reads c) → (∀ c, t'.sendsTo c = true → t.sendsTo c = true) →
      (∀ c, t' = .registering c → t = .registering c) →
      (∀ c, t' = .ended c → t = .ended c) → Effect h t o t' h' []
  | accept (query authorization : String) (o : Outside) :
      Effect h (.accepting query authorization) o (.answered true) { h with made := h.made + 1 }
        [.reading h.made, .writing h.made]
  | name (c : Nat) (o : Outside) (reg : RegisterData) : o.input = .register reg →
      reg.complete = true →
      Effect h (.reading c) o (.registering c) (h.update c (named reg (h.conns c))) []
  | register (c : Nat) (o : Outside) (h' : Hub) : h.register c = some h' →
      Effect h (.registering c) o (.reading c) h' []
  | unregister (c : Nat) (o : Outside) (h' : Hub) : h.unregister c = some h' →
      Effect h (.unregistering c) o (.ended c) h' []
  | find (cluster node : String) (cmd : CommandData) (o : Outside) (c : Nat) :
      h.agents.lookup (key cluster node) = some c →
      Effect h (.looking cluster node cmd) o (.adding c cmd (.adding cmd)) h []

theorem alike_refl (a : AgentConn) : Alike a a := ⟨rfl, rfl, rfl⟩

theorem alike_update {h : Hub} {c : Nat} {a : AgentConn} (alike : Alike a (h.conns c)) (d : Nat) :
    Alike ((h.update c a).conns d) (h.conns d) := by
  by_cases same : d = c
  · subst same
    simpa [Hub.update] using alike
  · simpa [Hub.update, same] using alike_refl _

theorem effect_rest (h : Hub) (t : Thread) (o : Outside) : Effect h t o t h [] :=
  .idle t t o h rfl (fun _ => alike_refl _) rfl (fun _ => rfl) (fun _ => id) (fun _ => id)
    fun _ => id

theorem effect_move {h h' : Hub} {t t' : Thread} (o : Outside) (agents : h'.agents = h.agents)
    (alike : ∀ c, Alike (h'.conns c) (h.conns c)) (made : h'.made = h.made)
    (reads : ∀ c, t'.reads c = t.reads c) (sends : ∀ c, t'.sendsTo c = true → t.sendsTo c = true)
    (plain : ∀ c, t' ≠ .registering c ∧ t' ≠ .ended c) : Effect h t o t' h' [] :=
  .idle t t' o h' agents alike made reads sends (fun c same => absurd same (plain c).1)
    fun c same => absurd same (plain c).2

theorem effect_read (h : Hub) (c : Nat) (o : Outside) :
    Effect h (.reading c) o (read c h o.input).1 (read c h o.input).2 [] := by
  cases input : o.input with
  | register reg =>
      rw [read]
      split_ifs with complete
      · exact .name c o reg input complete
      · exact effect_rest h _ o
  | failed | commandResult | other =>
      exact effect_move o rfl (fun _ => alike_refl _) rfl (fun _ => rfl) (fun _ => id)
        fun _ => ⟨nofun, nofun⟩

theorem effect_write (h : Hub) (c : Nat) (o : Outside) :
    Effect h (.writing c) o (write c o h).1 (write c o h).2 [] := by
  rw [write]
  by_cases stops : ((h.conns c).done && o.stops) = true
  · rw [if_pos stops]
    exact effect_move o rfl (fun _ => alike_refl _) rfl (fun _ => rfl) (fun _ => id)
      fun _ => ⟨nofun, nofun⟩
  · rw [if_neg stops]
    cases (h.conns c).send with
    | nil => exact effect_rest h _ o
    | cons first rest =>
        have alike : Alike { h.conns c with send := rest } (h.conns c) := ⟨rfl, rfl, rfl⟩
        cases o.writeFails <;>
          exact effect_move o rfl (alike_update alike) rfl (fun _ => rfl) (fun _ => id)
            fun _ => ⟨nofun, nofun⟩

/-- A step either closes a channel twice or has its effect. -/
theorem effect_advance (t : Thread) (o : Outside) (h : Hub) :
    (∃ c, t = .registering c ∧ h.register c = none ∨
        t = .unregistering c ∧ h.unregister c = none) ∧ advance t o h = none ∨
      ∃ t' h' new, advance t o h = some (t', h', new) ∧ Effect h t o t' h' new := by
  cases t with
  | accepting query authorization =>
      rw [advance]
      split_ifs
      · exact .inr ⟨_, _, _, rfl, .accept query authorization o⟩
      · exact .inr ⟨_, _, _, rfl, effect_move o rfl (fun _ => alike_refl _) rfl (fun _ => rfl)
          (fun _ => id) fun _ => ⟨nofun, nofun⟩⟩
  | reading c => exact .inr ⟨_, _, _, rfl, effect_read h c o⟩
  | registering c =>
      cases registered : h.register c with
      | none => exact .inl ⟨⟨c, .inl ⟨rfl, registered⟩⟩, by simp [advance, registered]⟩
      | some h' =>
          exact .inr ⟨_, h', _, by rw [advance, registered]; rfl, .register c o h' registered⟩
  | unregistering c =>
      cases unregistered : h.unregister c with
      | none => exact .inl ⟨⟨c, .inr ⟨rfl, unregistered⟩⟩, by simp [advance, unregistered]⟩
      | some h' =>
          exact .inr ⟨_, h', _, by rw [advance, unregistered]; rfl,
            .unregister c o h' unregistered⟩
  | writing c => exact .inr ⟨_, _, _, rfl, effect_write h c o⟩
  | looking cluster node cmd =>
      cases found : h.agents.lookup (key cluster node) with
      | none =>
          refine .inr ⟨_, _, _, by rw [advance, found], ?_⟩
          exact effect_move o rfl (fun _ => alike_refl _) rfl (fun _ => rfl) (fun _ => nofun)
            fun _ => ⟨nofun, nofun⟩
      | some c =>
          exact .inr ⟨_, _, _, by rw [advance, found], .find cluster node cmd o c found⟩
  | sending c cmd channel =>
      have alike : Alike { h.conns c with send := (h.conns c).send ++ [cmd] } (h.conns c) :=
        ⟨rfl, rfl, rfl⟩
      rw [advance]
      split_ifs
      · exact .inr ⟨_, _, _, rfl, effect_move o rfl (alike_update alike) rfl (fun _ => rfl)
          (fun _ => nofun) fun _ => ⟨nofun, nofun⟩⟩
      · exact .inr ⟨_, _, _, rfl, effect_move o rfl (fun _ => alike_refl _) rfl (fun _ => rfl)
          (fun _ => nofun) fun _ => ⟨nofun, nofun⟩⟩
  | answered | ended | written | returned => exact .inr ⟨_, _, _, rfl, effect_rest h _ o⟩
  | completing c call =>
      cases call <;>
        exact .inr ⟨_, _, _, rfl, effect_move o rfl (fun _ => alike_refl _) rfl (fun _ => rfl)
          (fun _ => id) fun _ => ⟨nofun, nofun⟩⟩
  | adding c cmd call =>
      cases call <;>
        exact .inr ⟨_, _, _, rfl, effect_move o rfl (fun _ => alike_refl _) rfl (fun _ => rfl)
          (fun _ => id) fun _ => ⟨nofun, nofun⟩⟩
  | dropping call =>
      cases call <;>
        exact .inr ⟨_, _, _, rfl, effect_move o rfl (fun _ => alike_refl _) rfl (fun _ => rfl)
          (fun _ => nofun) fun _ => ⟨nofun, nofun⟩⟩
  | cleaning call =>
      cases call <;>
        exact .inr ⟨_, _, _, rfl, effect_move o rfl (fun _ => alike_refl _) rfl (fun _ => rfl)
          (fun _ => nofun) fun _ => ⟨nofun, nofun⟩⟩

section Hub

variable {h h' : Hub} {c : Nat}

/-- What a registration leaves. -/
structure Registered (h h' : Hub) (c : Nat) : Prop where
  lookup : ∀ k, h'.agents.lookup k = if k = (h.conns c).key then some c else h.agents.lookup k
  names : ∀ d, (h'.conns d).key = (h.conns d).key ∧ (h'.conns d).node = (h.conns d).node
  done : ∀ d, h.agents.lookup (h.conns c).key ≠ some d → (h'.conns d).done = (h.conns d).done
  made : h'.made = h.made

theorem names_close (c d : Nat) :
    ((h.update c { h.conns c with done := true }).conns d).key = (h.conns d).key ∧
      ((h.update c { h.conns c with done := true }).conns d).node = (h.conns d).node := by
  by_cases same : d = c
  · subst same
    simp [Hub.update, AgentConn.key]
  · simp [Hub.update, same]

theorem done_close {c d : Nat} (other : d ≠ c) :
    ((h.update c { h.conns c with done := true }).conns d).done = (h.conns d).done := by
  simp [Hub.update, other]

theorem register_some (registered : h.register c = some h') : Registered h h' c := by
  rw [Hub.register] at registered
  cases found : h.agents.lookup (h.conns c).key with
  | none =>
      rw [found] at registered
      obtain rfl := Option.some.inj registered
      exact ⟨fun k => FiniteMap.lookup_insert_eq h.agents _ k c, fun _ => ⟨rfl, rfl⟩, fun _ _ => rfl,
        rfl⟩
  | some existing =>
      rw [found] at registered
      obtain ⟨closed, closes, rfl⟩ := Option.map_eq_some_iff.mp registered
      rw [Hub.closeDone] at closes
      split_ifs at closes
      obtain rfl := Option.some.inj closes
      refine ⟨fun k => FiniteMap.lookup_insert_eq h.agents _ k c, names_close existing, ?_, rfl⟩
      intro d other
      apply done_close
      rintro rfl
      exact other found

theorem register_none (stuck : h.register c = none) :
    ∃ d, h.agents.lookup (h.conns c).key = some d ∧ (h.conns d).done = true := by
  rw [Hub.register] at stuck
  cases found : h.agents.lookup (h.conns c).key with
  | none => simp [found] at stuck
  | some existing =>
      rw [found, Option.map_eq_none_iff, Hub.closeDone] at stuck
      split_ifs at stuck with closed
      exact ⟨existing, rfl, closed⟩

/-- What a disconnect leaves. -/
structure Unregistered (h h' : Hub) (c : Nat) : Prop where
  lookup : ∀ k d, h'.agents.lookup k = some d → h.agents.lookup k = some d ∧
    (d = c → (h.conns c).node = "" ∨ k ≠ (h.conns c).key)
  names : ∀ d, (h'.conns d).key = (h.conns d).key ∧ (h'.conns d).node = (h.conns d).node
  done : ∀ d, d ≠ c ∨ (h.conns c).node = "" → (h'.conns d).done = (h.conns d).done
  made : h'.made = h.made

theorem unregister_some (unregistered : h.unregister c = some h') : Unregistered h h' c := by
  rw [Hub.unregister] at unregistered
  by_cases unnamed : (h.conns c).node = ""
  · rw [if_pos unnamed] at unregistered
    obtain rfl := Option.some.inj unregistered
    exact ⟨fun _ _ found => ⟨found, fun _ => .inl unnamed⟩, fun _ => ⟨rfl, rfl⟩, fun _ _ => rfl, rfl⟩
  · rw [if_neg unnamed] at unregistered
    by_cases mine : h.agents.lookup (h.conns c).key = some c
    · rw [if_pos mine, Hub.closeDone] at unregistered
      split_ifs at unregistered
      obtain rfl := Option.some.inj unregistered
      refine ⟨?_, names_close c, ?_, rfl⟩
      · intro k d found
        change (h.agents.erase (h.conns c).key).lookup k = some d at found
        by_cases same : k = (h.conns c).key
        · subst same
          rw [AList.lookup_erase] at found
          exact nomatch found
        · rw [AList.lookup_erase_ne same] at found
          exact ⟨found, fun _ => .inr same⟩
      · rintro d (other | named)
        · exact done_close other
        · exact absurd named unnamed
    · rw [if_neg mine] at unregistered
      obtain rfl := Option.some.inj unregistered
      refine ⟨?_, fun _ => ⟨rfl, rfl⟩, fun _ _ => rfl, rfl⟩
      intro k d found
      refine ⟨found, ?_⟩
      rintro rfl
      refine .inr ?_
      rintro rfl
      exact mine found

theorem unregister_none (stuck : h.unregister c = none) :
    h.agents.lookup (h.conns c).key = some c ∧ (h.conns c).done = true := by
  rw [Hub.unregister] at stuck
  split_ifs at stuck with unnamed mine
  rw [Hub.closeDone] at stuck
  split_ifs at stuck with closed
  exact ⟨mine, closed⟩

end Hub

section Steps

variable {w : World} {e : Event}

theorem step_cases (w : World) (e : Event) :
    actor w e = none ∧ step w e = w ∨
      ∃ t o before after, actor w e = some (t, o) ∧ w.down = false ∧
        Thread.Turn request w e t o before after ∧
        ((∃ c, t = .registering c ∧ w.shared.register c = none ∨
            t = .unregistering c ∧ w.shared.unregister c = none) ∧
            step w e = { w with down := true } ∨
          ∃ t' h' new, Effect w.shared t o t' h' new ∧
            step w e = ⟨h', before ++ t' :: after ++ new, false⟩) := by
  rcases Thread.step_cases advance request w e with same |
    ⟨t, o, before, after, acts, up, turn, rest⟩
  · exact .inl same
  · refine .inr ⟨t, o, before, after, acts, up, turn, ?_⟩
    rcases effect_advance t o w.shared with ⟨closes, stuck⟩ | ⟨t', h', new, advanced, effect⟩
    · rcases rest with ⟨_, down⟩ | ⟨_, _, _, other, _⟩
      · refine .inl ⟨closes, ?_⟩
        obtain ⟨c, ⟨rfl, _⟩ | ⟨rfl, _⟩⟩ := closes <;>
          exact down.trans (by rw [turn.called_of_later (fun q => by cases q <;> nofun)])
      · exact nomatch stuck.symm.trans other
    · rcases rest with ⟨stuck, _⟩ | ⟨u, s, others, same, moved⟩
      · exact nomatch stuck.symm.trans advanced
      · obtain ⟨rfl, rest⟩ := Prod.mk.inj (Option.some.inj (same.symm.trans advanced))
        obtain ⟨rfl, rfl⟩ := Prod.mk.inj rest
        exact .inr ⟨u, s, others, effect, moved⟩

def readers (w : World) (c : Nat) : Nat := w.pool.countP (Thread.reads c)

/-- What holds in every state. -/
structure Base (w : World) : Prop where
  single : ∀ c, readers w c ≤ if c < w.shared.made then 1 else 0
  registering : ∀ c, .registering c ∈ w.pool → (w.shared.conns c).node ≠ ""
  entries : ∀ k c, w.shared.agents.lookup k = some c → (w.shared.conns c).node ≠ ""
  done : ∀ c, (w.shared.conns c).done = true → (w.shared.conns c).node ≠ ""

theorem Base.reader (base : Base w) {c : Nat} {t u : Thread} (left : t ∈ w.pool)
    (right : u ∈ w.pool) (first : t.reads c = true) (second : u.reads c = true) : t = u := by
  apply Thread.eq_of_countP_le_one _ left right first second
  have one := base.single c
  rw [readers] at one
  split_ifs at one <;> omega

theorem reads_request (q : Request) (c : Nat) : (request q).reads c = false := by
  cases q <;> rfl

theorem reads_effect {h h' : Hub} {t t' : Thread} {o : Outside} {new : List Thread}
    (effect : Effect h t o t' h' new) (c : Nat) :
    [t'].countP (Thread.reads c) + new.countP (Thread.reads c) + (if c < h.made then 1 else 0) ≤
      [t].countP (Thread.reads c) + if c < h'.made then 1 else 0 := by
  cases effect with
  | idle _ _ _ _ _ _ made reads _ _ _ => simp [made, reads]
  | accept query authorization =>
      have here : [Thread.reading h.made, .writing h.made].countP (Thread.reads c) =
          if h.made = c then 1 else 0 := by
        simp [List.countP_cons, Thread.reads]
      have others : [Thread.answered true].countP (Thread.reads c) = 0 := rfl
      simp only [here, others]
      split_ifs <;> omega
  | name d o reg => exact Nat.le_refl _
  | register d o h' registered =>
      rw [(register_some registered).made]
      exact Nat.le_refl _
  | unregister d o h' unregistered =>
      rw [(unregister_some unregistered).made]
      exact Nat.le_refl _
  | find => exact Nat.le_refl _

theorem readers_step {t t' : Thread} {o : Outside} {before after new : List Thread} {h' : Hub}
    (turn : Thread.Turn request w e t o before after) (effect : Effect w.shared t o t' h' new)
    (base : Base w) (c : Nat) :
    readers ⟨h', before ++ t' :: after ++ new, false⟩ c ≤ if c < h'.made then 1 else 0 := by
  have called : (Thread.called request w e).countP (Thread.reads c) = readers w c :=
    Thread.countP_called fun q => reads_request q c
  rw [turn.called_eq] at called
  have moves := reads_effect effect c
  have before_it := base.single c
  simp only [readers, List.countP_append, List.countP_cons, List.countP_nil] at *
  omega

section Kept

variable {t t' : Thread} {o : Outside} {before after new : List Thread} {h' : Hub} {c : Nat}

theorem registering_cases (turn : Thread.Turn request w e t o before after)
    (effect : Effect w.shared t o t' h' new)
    (member : Thread.registering c ∈ before ++ t' :: after ++ new) :
    .registering c ∈ w.pool ∨ t = .reading c ∧ t' = .registering c := by
  rcases turn.mem_cases member with old | same | forked
  · exact .inl old
  · cases effect with
    | idle _ _ _ _ _ _ _ _ _ registering _ =>
        obtain rfl := registering c same.symm
        exact .inl (turn.mem_of_later fun q => by cases q <;> nofun)
    | name d o reg =>
        obtain rfl := Thread.registering.inj same
        exact .inr ⟨rfl, rfl⟩
    | accept | register | unregister | find => exact nomatch same
  · cases effect with
    | accept => simp at forked
    | idle | name | register | unregister | find => exact nomatch forked

theorem ended_cases (turn : Thread.Turn request w e t o before after)
    (effect : Effect w.shared t o t' h' new)
    (member : Thread.ended c ∈ before ++ t' :: after ++ new) :
    .ended c ∈ w.pool ∨ t = .unregistering c ∧ t' = .ended c := by
  rcases turn.mem_cases member with old | same | forked
  · exact .inl old
  · cases effect with
    | idle _ _ _ _ _ _ _ _ _ _ ended =>
        obtain rfl := ended c same.symm
        exact .inl (turn.mem_of_later fun q => by cases q <;> nofun)
    | unregister d o h' =>
        obtain rfl := Thread.ended.inj same
        exact .inr ⟨rfl, rfl⟩
    | accept | register | name | find => exact nomatch same
  · cases effect with
    | accept => simp at forked
    | idle | name | register | unregister | find => exact nomatch forked

theorem node_named (reg : RegisterData) (a : AgentConn) (complete : reg.complete = true) :
    (named reg a).node ≠ "" := by
  simp only [RegisterData.complete, Bool.and_eq_true, decide_eq_true_eq] at complete
  exact complete.1

theorem named_of_effect (effect : Effect w.shared t o t' h' new)
    (has : (w.shared.conns c).node ≠ "") : (h'.conns c).node ≠ "" := by
  cases effect with
  | idle _ _ _ _ _ alike _ _ _ _ _ => rwa [(alike c).2.1]
  | accept | find => exact has
  | name d o reg _ complete =>
      by_cases same : c = d
      · subst same
        simpa [Hub.update] using node_named reg (w.shared.conns c) complete
      · simpa [Hub.update, same] using has
  | register d o h' registered => rwa [((register_some registered).names c).2]
  | unregister d o h' unregistered => rwa [((unregister_some unregistered).names c).2]

theorem base_step (base : Base w) (e : Event) : Base (step w e) := by
  rcases step_cases w e with ⟨_, same⟩ | ⟨t, o, before, after, _, _, turn, ⟨_, down⟩ |
    ⟨t', h', new, effect, moved⟩⟩
  · rwa [same]
  · rw [down]
    exact ⟨base.single, base.registering, base.entries, base.done⟩
  · rw [moved]
    have actor_in : ∀ c, t = .registering c ∨ t = .unregistering c → t ∈ w.pool := by
      rintro c (rfl | rfl) <;> exact turn.mem_of_later fun q => by cases q <;> nofun
    refine ⟨readers_step turn effect base, ?_, ?_, ?_⟩
    · intro c member
      rcases registering_cases turn effect member with old | ⟨rfl, rfl⟩
      · exact named_of_effect effect (base.registering c old)
      · cases effect with
        | name _ _ reg _ complete =>
            simpa [Hub.update] using node_named reg (w.shared.conns c) complete
        | idle _ _ _ _ _ _ _ _ _ registering _ => exact nomatch registering c rfl
    · intro k c found
      apply named_of_effect effect
      cases effect with
      | idle _ _ _ _ agents _ _ _ _ _ _ => exact base.entries k c (agents ▸ found)
      | accept | find | name => exact base.entries k c found
      | register d o h' registered =>
          change h'.agents.lookup k = some c at found
          rw [(register_some registered).lookup] at found
          split_ifs at found
          · obtain rfl := Option.some.inj found
            exact base.registering d (actor_in d (.inl rfl))
          · exact base.entries k c found
      | unregister d o h' unregistered =>
          exact base.entries k c ((unregister_some unregistered).lookup k c found).1
    · intro c closed
      apply named_of_effect effect
      cases effect with
      | idle _ _ _ _ _ alike _ _ _ _ _ => exact base.done c ((alike c).2.2 ▸ closed)
      | accept | find => exact base.done c closed
      | name d o reg =>
          by_cases same : c = d
          · subst same
            exact base.done c (by simpa [Hub.update, named] using closed)
          · exact base.done c (by simpa [Hub.update, same] using closed)
      | register d o h' registered =>
          by_cases held : w.shared.agents.lookup (w.shared.conns d).key = some c
          · exact base.entries _ c held
          · exact base.done c ((register_some registered).done c held ▸ closed)
      | unregister d o h' unregistered =>
          by_cases named : (w.shared.conns c).node = ""
          · by_cases same : c = d
            · subst same
              exact base.done c ((unregister_some unregistered).done c (.inr named) ▸ closed)
            · exact base.done c ((unregister_some unregistered).done c (.inl same) ▸ closed)
          · exact named

/-- Every entry refers to a connection that is not unregistered and has that key. -/
def Fresh (w : World) : Prop :=
  ∀ k c, w.shared.agents.lookup k = some c → (w.shared.conns c).key = k ∧ .ended c ∉ w.pool

/-- The register message that an event brings, unless it is rejected. -/
def registers (w : World) (e : Event) : Option (Nat × RegisterData) :=
  match actor w e with
  | some (.reading c, o) =>
      match o.input with
      | .register reg => if reg.complete then some (c, reg) else none
      | _ => none
  | _ => none

/-- A connection that the registry has registers again only under the key it has there. -/
def Keeps (w : World) (e : Event) : Prop :=
  ∀ c reg, registers w e = some (c, reg) →
    ∀ k, w.shared.agents.lookup k = some c → k = key reg.cluster reg.node

theorem registers_of_name {reg : RegisterData} (acts : actor w e = some (.reading c, o))
    (input : o.input = .register reg) (complete : reg.complete = true) :
    registers w e = some (c, reg) := by
  simp [registers, acts, input, complete]

theorem fresh_step (base : Base w) (fresh : Fresh w) (keeps : Keeps w e) : Fresh (step w e) := by
  have base' := base_step base e
  rcases step_cases w e with ⟨_, same⟩ | ⟨t, o, before, after, acts, _, turn, ⟨_, down⟩ |
    ⟨t', h', new, effect, moved⟩⟩
  · rwa [same]
  · rwa [down]
  · rw [moved] at base' ⊢
    intro k c found
    have reader : t' ∈ before ++ t' :: after ++ new := by simp
    -- No reader but that of the step can have ended with it.
    have stays : t ≠ .unregistering c → .ended c ∉ w.pool →
        Thread.ended c ∉ before ++ t' :: after ++ new := by
      intro other absent member
      rcases ended_cases turn effect member with old | ⟨rfl, _⟩
      · exact absent old
      · exact other rfl
    change h'.agents.lookup k = some c at found
    change (h'.conns c).key = k ∧ _
    cases effect with
    | idle _ _ _ _ agents alike _ reads _ _ ended =>
        rw [agents] at found
        obtain ⟨same, absent⟩ := fresh k c found
        refine ⟨(alike c).1.trans same, fun member => ?_⟩
        rcases ended_cases turn (.idle _ _ _ _ agents alike ‹_› reads ‹_› ‹_› ended) member with
          old | ⟨rfl, rfl⟩
        · exact absent old
        · exact nomatch ended c rfl
    | accept | find =>
        obtain ⟨same, absent⟩ := fresh k c found
        exact ⟨same, stays nofun absent⟩
    | name d o reg input complete =>
        obtain ⟨same, absent⟩ := fresh k c found
        refine ⟨?_, stays nofun absent⟩
        by_cases this_one : c = d
        · subst this_one
          have named := keeps c reg (registers_of_name acts input complete) k found
          rw [named]
          simp [Hub.update, AgentConn.key, AgentRegistry.named]
        · simpa [Hub.update, this_one] using same
    | register d o h' registered =>
        have after_it := register_some registered
        rw [after_it.lookup] at found
        rw [(after_it.names c).1]
        split_ifs at found with mine
        · obtain rfl := Option.some.inj found
          refine ⟨mine.symm, fun member => ?_⟩
          exact nomatch @Base.reader _ base' d _ _ reader member (decide_eq_true rfl)
            (decide_eq_true rfl)
        · obtain ⟨same, absent⟩ := fresh k c found
          exact ⟨same, stays nofun absent⟩
    | unregister d o h' unregistered =>
        have after_it := unregister_some unregistered
        obtain ⟨held, apart⟩ := after_it.lookup k c found
        obtain ⟨same, absent⟩ := fresh k c held
        rw [(after_it.names c).1]
        refine ⟨same, stays ?_ absent⟩
        rintro ⟨⟩
        rcases apart rfl with unnamed | other
        · exact base.entries k _ held unnamed
        · exact other same.symm

/-- The entries are open and their readers do not wait to register them, and who waits to
register is open. -/
structure Open (w : World) : Prop where
  entries : ∀ k c, w.shared.agents.lookup k = some c →
    (w.shared.conns c).done = false ∧ .registering c ∉ w.pool
  registering : ∀ c, .registering c ∈ w.pool → (w.shared.conns c).done = false

/-- No connection registers that has a name from an earlier message. -/
def Once (w : World) (e : Event) : Prop :=
  ∀ r ∈ registers w e, (w.shared.conns r.1).node = ""

instance (w : World) (e : Event) : Decidable (Once w e) :=
  inferInstanceAs (Decidable (∀ r ∈ registers w e, (w.shared.conns r.1).node = ""))

theorem keeps_of_once (base : Base w) (once : Once w e) : Keeps w e := by
  intro c reg registering k found
  exact absurd (once (c, reg) registering) (base.entries k c found)

theorem mem_pool_of_turn (turn : Thread.Turn request w e t o before after)
    (later : t = .registering c ∨ t = .unregistering c) : t ∈ w.pool := by
  rcases later with rfl | rfl <;> exact turn.mem_of_later fun q => by cases q <;> nofun

/-- What is in the registry after a step. -/
theorem entries_of_effect (base : Base w) (fresh : Fresh w) (opened : Open w) (once : Once w e)
    (base' : Base ⟨h', before ++ t' :: after ++ new, false⟩) (acts : actor w e = some (t, o))
    (turn : Thread.Turn request w e t o before after) (effect : Effect w.shared t o t' h' new)
    {k : String} (found : h'.agents.lookup k = some c) :
    (h'.conns c).done = false ∧ .registering c ∉ before ++ t' :: after ++ new := by
  have reader : t' ∈ before ++ t' :: after ++ new := by simp
  -- A connection that waits to register waited before, or has just got its name.
  have waits : Thread.registering c ∈ before ++ t' :: after ++ new →
      t = .reading c ∧ t' = .registering c ∨ .registering c ∈ w.pool :=
    fun member => (registering_cases turn effect member).symm
  cases effect with
  | idle _ _ _ _ agents alike _ _ _ registering _ =>
      rw [agents] at found
      obtain ⟨is_open, absent⟩ := opened.entries k c found
      refine ⟨(alike c).2.2.trans is_open, fun member => ?_⟩
      rcases waits member with ⟨rfl, rfl⟩ | old
      · exact nomatch registering c rfl
      · exact absent old
  | accept | find =>
      obtain ⟨is_open, absent⟩ := opened.entries k c found
      refine ⟨is_open, fun member => ?_⟩
      rcases waits member with ⟨same, _⟩ | old
      · exact nomatch same
      · exact absent old
  | name d o reg input complete =>
      have unnamed := once (d, reg) (registers_of_name acts input complete)
      have other : c ≠ d := by
        rintro rfl
        exact base.entries k c found unnamed
      obtain ⟨is_open, absent⟩ := opened.entries k c found
      refine ⟨by simpa [Hub.update, other] using is_open, fun member => ?_⟩
      rcases waits member with ⟨same, _⟩ | old
      · exact other (Thread.reading.inj same).symm
      · exact absent old
  | register d o h' registered =>
      have after_it := register_some registered
      rw [after_it.lookup] at found
      have mine : .registering d ∈ w.pool := mem_pool_of_turn turn (.inl rfl)
      split_ifs at found with this_key
      · obtain rfl := Option.some.inj found
        refine ⟨?_, fun member => ?_⟩
        · rw [after_it.done d fun held => (opened.entries _ d held).2 mine]
          exact opened.registering d mine
        · exact nomatch @Base.reader _ base' d _ _ reader member (decide_eq_true rfl)
            (decide_eq_true rfl)
      · obtain ⟨is_open, absent⟩ := opened.entries k c found
        refine ⟨?_, fun member => ?_⟩
        · rw [after_it.done c ?_]
          · exact is_open
          · intro held
            exact this_key ((fresh k c found).1.symm.trans (fresh _ c held).1)
        · rcases waits member with ⟨same, _⟩ | old
          · exact nomatch same
          · exact absent old
  | unregister d o h' unregistered =>
      have after_it := unregister_some unregistered
      obtain ⟨held, apart⟩ := after_it.lookup k c found
      obtain ⟨is_open, absent⟩ := opened.entries k c held
      refine ⟨?_, fun member => ?_⟩
      · rw [after_it.done c ?_]
        · exact is_open
        · left
          rintro rfl
          rcases apart rfl with unnamed | other
          · exact base.entries k c held unnamed
          · exact other (fresh k c held).1.symm
      · rcases waits member with ⟨same, _⟩ | old
        · exact nomatch same
        · exact absent old

/-- The connections that wait to register after a step. -/
theorem registering_of_effect (base : Base w) (opened : Open w) (once : Once w e)
    (acts : actor w e = some (t, o)) (turn : Thread.Turn request w e t o before after)
    (effect : Effect w.shared t o t' h' new)
    (member : .registering c ∈ before ++ t' :: after ++ new) : (h'.conns c).done = false := by
  rcases registering_cases turn effect member with old | ⟨rfl, rfl⟩
  · have is_open := opened.registering c old
    cases effect with
    | idle _ _ _ _ _ alike _ _ _ _ _ => exact (alike c).2.2.trans is_open
    | accept | find => exact is_open
    | name d o reg =>
        by_cases same : c = d
        · subst same
          simpa [Hub.update, named] using is_open
        · simpa [Hub.update, same] using is_open
    | register d o h' registered =>
        rw [(register_some registered).done c fun held => (opened.entries _ c held).2 old]
        exact is_open
    | unregister d o h' unregistered =>
        rw [(unregister_some unregistered).done c ?_]
        · exact is_open
        · left
          rintro rfl
          exact nomatch base.reader (mem_pool_of_turn turn (.inr rfl)) old
            (decide_eq_true rfl : _ = true) (decide_eq_true rfl)
  · cases effect with
    | idle _ _ _ _ _ _ _ _ _ registering _ => exact nomatch registering c rfl
    | name d o reg input complete =>
        have unnamed := once (c, reg) (registers_of_name acts input complete)
        have is_open : (w.shared.conns c).done = false := by
          by_contra closed
          exact base.done c (by simpa using closed) unnamed
        simpa [Hub.update, named] using is_open

theorem open_step (base : Base w) (fresh : Fresh w) (opened : Open w) (once : Once w e)
    (up : w.down = false) : Open (step w e) ∧ (step w e).down = false := by
  have base' := base_step base e
  rcases step_cases w e with ⟨_, same⟩ | ⟨t, o, before, after, acts, _, turn,
    ⟨⟨c, stuck⟩, down⟩ | ⟨t', h', new, effect, moved⟩⟩
  · rw [same]
    exact ⟨opened, up⟩
  · rcases stuck with ⟨rfl, stuck⟩ | ⟨rfl, stuck⟩
    · obtain ⟨d, found, closed⟩ := register_none stuck
      exact absurd (opened.entries _ d found).1 (by simp [closed])
    · obtain ⟨found, closed⟩ := unregister_none stuck
      exact absurd (opened.entries _ c found).1 (by simp [closed])
  · rw [moved] at base' ⊢
    refine ⟨⟨fun k c found => ?_, fun c member => ?_⟩, rfl⟩
    · exact entries_of_effect base fresh opened once base' acts turn effect found
    · exact registering_of_effect base opened once acts turn effect member

end Kept

theorem base_start (token : String) : Base (start token) := by
  refine ⟨fun c => Nat.zero_le _, fun c => ?_, fun k c => ?_, fun c => ?_⟩
  · exact fun member => absurd member List.not_mem_nil
  · exact fun found => nomatch found
  · exact fun closed => nomatch closed

theorem fresh_start (token : String) : Fresh (start token) := fun _ _ found => nomatch found

theorem open_start (token : String) : Open (start token) :=
  ⟨fun _ _ => nofun, fun _ member => absurd member List.not_mem_nil⟩

/-- No done channel is closed twice in a run in which no connection registers a second time. -/
theorem never_closed_twice (token : String) (es : List Event)
    (once : Along step Once (start token) es) : ∀ w ∈ states step (start token) es,
      w.down = false := by
  have kept : ∀ w e, (Base w ∧ Fresh w) ∧ Open w ∧ w.down = false → Once w e →
      (Base (step w e) ∧ Fresh (step w e)) ∧ Open (step w e) ∧ (step w e).down = false := by
    rintro w e ⟨⟨base, fresh⟩, opened, up⟩ once
    exact ⟨⟨base_step base e, fresh_step base fresh (keeps_of_once base once)⟩,
      open_step base fresh opened once up⟩
  intro w member
  exact (invariant_along kept
    ⟨⟨base_start token, fresh_start token⟩, open_start token, rfl⟩ once w member).2.2

section Lab

def heard (input : Input) : Outside := ⟨input, true, false, false, ⟨0, ""⟩⟩

def hears (input : Input) : Event := .goes 1 (heard input)

/-- An agent connects and registers. -/
def arrival (node : String) : List Event :=
  [.begins (.handleWebSocket "secret" "") (heard .other), hears (.register ⟨node, "lab", "1.0.0"⟩),
    hears .other]

def departure : List Event := [hears .failed, hears .other]

/-- The same message a second time. -/
def repeated : List Event :=
  arrival "pve1" ++ [hears (.register ⟨"pve1", "lab", "1.0.0"⟩), hears .other] ++ departure

end Lab

theorem never_closed_twice_in_lab :
    Along step Once (start "secret") (arrival "pve1" ++ departure) ∧
      ∀ w ∈ states step (start "secret") (arrival "pve1" ++ departure), w.down = false :=
  ⟨by decide, never_closed_twice "secret" _ (by decide)⟩

theorem closed_twice_after_second_register :
    ¬∀ (token : String) (es : List Event), ∀ w ∈ states step (start token) es, w.down = false := by
  intro never
  have up := never "secret" repeated _ (last_mem_states _ repeated)
  have down : (repeated.foldl step (start "secret")).down = true := by decide
  exact nomatch up.symm.trans down

theorem step_of_registers {c : Nat} {reg : RegisterData}
    (registering : registers w e = some (c, reg)) :
    (step w e).shared = w.shared.update c (named reg (w.shared.conns c)) := by
  rw [registers] at registering
  split at registering
  · rename_i d o acts
    split at registering
    · rename_i reg' input
      split_ifs at registering with complete
      obtain ⟨rfl, rfl⟩ := Prod.mk.inj (Option.some.inj registering)
      have advanced : advance (.reading d) o w.shared =
          some (.registering d, w.shared.update d (named reg' (w.shared.conns d)), []) := by
        simp [advance, read, input, complete]
      rcases Thread.step_cases advance request w e with ⟨idle, _⟩ |
        ⟨t, o', before, after, acts', _, _, ⟨stuck, _⟩ | ⟨t', h', new, moves, stepped⟩⟩
      · exact nomatch idle.symm.trans acts
      · obtain ⟨rfl, rfl⟩ := Prod.mk.inj (Option.some.inj (acts'.symm.trans acts))
        exact nomatch stuck.symm.trans advanced
      · obtain ⟨rfl, rfl⟩ := Prod.mk.inj (Option.some.inj (acts'.symm.trans acts))
        obtain ⟨rfl, rest⟩ := Prod.mk.inj (Option.some.inj (moves.symm.trans advanced))
        obtain ⟨rfl, rfl⟩ := Prod.mk.inj rest
        exact congrArg Thread.World.shared stepped
    · exact nomatch registering
  · exact nomatch registering

theorem keeps_of_fresh (fresh : Fresh (step w e)) : Keeps w e := by
  intro c reg registering k found
  have shared := step_of_registers registering
  have still : (step w e).shared.agents.lookup k = some c := by rwa [shared]
  have same := (fresh k c still).1
  rw [shared] at same
  rw [← same]
  simp [Hub.update, AgentConn.key, named]

theorem fresh_iff_keeps (token : String) (es : List Event) :
    (∀ w ∈ states step (start token) es, Fresh w) ↔ Along step Keeps (start token) es := by
  constructor
  · intro all
    apply along_mono _ (along_of_states all)
    rintro w e ⟨_, fresh⟩
    exact keeps_of_fresh fresh
  · intro keeps w member
    have kept : ∀ w e, Base w ∧ Fresh w → Keeps w e → Base (step w e) ∧ Fresh (step w e) :=
      fun w e inv keeps => ⟨base_step inv.1 e, fresh_step inv.1 inv.2 keeps⟩
    exact (invariant_along kept ⟨base_start token, fresh_start token⟩ keeps w member).2

/-- The requests that have found a connection have found one that is not unregistered. -/
def Live (w : World) : Prop := ∀ t ∈ w.pool, ∀ c, t.sendsTo c = true → .ended c ∉ w.pool

/-- No connection is unregistered while a request that has found it has not sent to it yet. -/
def Undisturbed (w : World) (e : Event) : Prop :=
  ∀ c o, actor w e = some (.unregistering c, o) → ∀ t ∈ w.pool, t.sendsTo c = false

theorem sender_cases {t t' u : Thread} {o : Outside} {before after new : List Thread} {h' : Hub}
    {c : Nat} (turn : Thread.Turn request w e t o before after)
    (effect : Effect w.shared t o t' h' new) (member : u ∈ before ++ t' :: after ++ new)
    (sends : u.sendsTo c = true) :
    (∃ sender ∈ w.pool, sender.sendsTo c = true) ∨
      (∃ k, w.shared.agents.lookup k = some c) ∧ ∀ d, t ≠ .unregistering d := by
  rcases turn.mem_cases member with old | rfl | forked
  · exact .inl ⟨u, old, sends⟩
  · cases effect with
    | idle _ _ _ _ _ _ _ _ sent _ _ =>
        have was := sent c sends
        refine .inl ⟨t, turn.mem_of_later ?_, was⟩
        rintro q rfl
        cases q <;> exact nomatch was
    | find cluster node cmd o d found =>
        obtain rfl : d = c := by simpa [Thread.sendsTo] using sends
        exact .inr ⟨⟨_, found⟩, nofun⟩
    | accept | name | register | unregister => exact nomatch sends
  · cases effect with
    | accept =>
        simp only [List.mem_cons, List.not_mem_nil, or_false] at forked
        rcases forked with rfl | rfl <;> exact nomatch sends
    | idle | name | register | unregister | find => exact nomatch forked

theorem live_step (fresh : Fresh w) (live : Live w) (undisturbed : Undisturbed w e) :
    Live (step w e) := by
  rcases step_cases w e with ⟨_, same⟩ | ⟨t, o, before, after, acts, _, turn, ⟨_, down⟩ |
    ⟨t', h', new, effect, moved⟩⟩
  · rwa [same]
  · rwa [down]
  · rw [moved]
    intro u member c sends ended
    rcases sender_cases turn effect member sends with ⟨sender, old, sent⟩ | ⟨found, looks⟩
    · rcases ended_cases turn effect ended with gone | ⟨rfl, _⟩
      · exact live sender old c sent gone
      · exact absurd (undisturbed c o acts sender old) (by simp [sent])
    · rcases ended_cases turn effect ended with gone | ⟨rfl, _⟩
      · obtain ⟨k, held⟩ := found
        exact (fresh k c held).2 gone
      · exact looks c rfl

/-- `SendCommand` puts a command into the buffer of the connection. -/
def Accepts (w : World) (e : Event) (c : Nat) : Prop :=
  ∃ cmd channel o, actor w e = some (.sending c cmd channel, o) ∧
    (w.shared.conns c).send.length < 64

theorem live_of_accepts {c : Nat} (live : Live w) (accepts : Accepts w e c) :
    .ended c ∉ w.pool := by
  obtain ⟨cmd, channel, o, acts, _⟩ := accepts
  have member : Thread.sending c cmd channel ∈ w.pool := by
    rcases Thread.step_cases advance request w e with ⟨idle, _⟩ |
      ⟨t, o', before, after, acts', _, turn, _⟩
    · exact nomatch idle.symm.trans acts
    · obtain ⟨rfl, rfl⟩ := Prod.mk.inj (Option.some.inj (acts'.symm.trans acts))
      exact turn.mem_of_later fun q => by cases q <;> nofun
  exact live _ member c (decide_eq_true rfl)

/-- The registry is fresh all along a run iff no connection that it has changes its key; then a
command is only accepted for a connection that is not unregistered, unless it was unregistered
between the lookup and the send. -/
theorem registry_fresh_iff (token : String) (es : List Event) :
    ((∀ w ∈ states step (start token) es, Fresh w) ↔ Along step Keeps (start token) es) ∧
      (Along step (fun w e => Keeps w e ∧ Undisturbed w e) (start token) es →
        Along step (fun w e => ∀ c, Accepts w e c → .ended c ∉ w.pool) (start token) es) := by
  refine ⟨fresh_iff_keeps token es, fun calm => ?_⟩
  have kept : ∀ w e, (Base w ∧ Fresh w) ∧ Live w → Keeps w e ∧ Undisturbed w e →
      (Base (step w e) ∧ Fresh (step w e)) ∧ Live (step w e) := by
    rintro w e ⟨⟨base, fresh⟩, live⟩ ⟨keeps, undisturbed⟩
    exact ⟨⟨base_step base e, fresh_step base fresh keeps⟩, live_step fresh live undisturbed⟩
  have live_start : Live (start token) := fun t member => absurd member List.not_mem_nil
  have all := invariant_along kept ⟨⟨base_start token, fresh_start token⟩, live_start⟩ calm
  apply along_mono _ (along_of_states all)
  rintro w e ⟨⟨_, live⟩, _⟩ c accepts
  exact live_of_accepts live accepts

/-- The agent registers under another name and disconnects, and a command is sent to the first
name. -/
def renamed : List Event :=
  arrival "pve1" ++ [hears (.register ⟨"pve2", "lab", "1.0.0"⟩), hears .other] ++ departure

def sendToPve1 : List Event :=
  [.begins (.sendCommand "lab" "pve1" ⟨"a", "vm_start", []⟩) (heard .other), .goes 3 (heard .other),
    .goes 3 (heard .other), .goes 3 (heard .other)]

theorem stale_after_rename :
    ¬∀ (token : String) (es : List Event),
      (∀ w ∈ states step (start token) es, Fresh w) ∧
        Along step (fun w e => ∀ c, Accepts w e c → .ended c ∉ w.pool) (start token) es := by
  intro always
  have fresh := (always "secret" renamed).1 _ (last_mem_states _ renamed)
  have found : (renamed.foldl step (start "secret")).shared.agents.lookup "lab/pve1" = some 0 := by
    decide
  have other : ((renamed.foldl step (start "secret")).shared.conns 0).key = "lab/pve2" := by decide
  exact absurd (other.symm.trans (fresh _ _ found).1) (by decide)

example : (((renamed ++ sendToPve1).foldl step (start "secret")).shared.conns 0).send.length = 1 := by
  decide

end Steps

end AgentRegistry
