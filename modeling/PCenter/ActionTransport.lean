import PCenter.AgentRegistry
import PCenter.ScheduledActions

/-!
# Which transport an action takes

`tryAgentAction` of `internal/api/agent_command.go` with the fallback of the handler that calls
it, and the action function of `cmd/server/main.go`, as threads beside those of the hub: agents
connect, are replaced and disconnect, results come or time out, and the cleanup sweeps in
between. A call looks for the agent, registers and queues the command with the steps of
`Hub.SendCommand`, and waits; where one of these steps fails it goes to the client of the poller.
Which clients there are, and which case a `select` takes, is left to the outside.
-/

namespace ActionTransport

open AgentRegistry (Hub key)
open CommandTracker (CommandData)
open GuestTasks (TaskCall)

/-- Who tries the agent first. -/
inductive Call where
  | handler (p : Handlers.AgentFirst)
  | scheduled (cluster node action : String) (params : Scheduler.Params)

/-- What the client of a node is given to do. -/
inductive Work where
  | task (call : TaskCall)
  | action (name : String) (params : Scheduler.Params)

namespace Call

def cluster : Call → String
  | handler p => p.cluster
  | scheduled cluster _ _ _ => cluster

def node : Call → String
  | handler p => p.node
  | scheduled _ node _ _ => node

/-- The handlers ask their whitelist first; a renewal of certificates is for the clients. -/
def forAgent : Call → Bool
  | handler p => p.action ∈ Handlers.allowedAgentActions
  | scheduled _ _ action _ => action ≠ "cluster_acme_renew"

def command (now : Int) : Call → CommandData
  | handler p => ⟨"cmd-" ++ toString now ++ "-" ++ p.action, p.action, p.params⟩
  | scheduled _ _ action params =>
      ⟨"sched-" ++ toString now ++ "-" ++ action, action, ScheduledActions.wireFields params⟩

/-- What the fallback asks of the client; a handler may refuse the action now. -/
def work : Call → Option Work
  | handler p =>
      match p.fallback with
      | .ok call => some (.task call)
      | .error _ => none
  | scheduled _ _ action params => some (.action action params)

end Call

inductive Request where
  /-- Agents that connect, the handlers that only send commands, the cleanup. -/
  | hub (q : AgentRegistry.Request)
  | tries (call : Call)

inductive Thread where
  | hub (t : AgentRegistry.Thread)
  /-- Before `GetConnectedAgents`. -/
  | choosing (call : Call)
  /-- In `SendCommand`. -/
  | handing (call : Call) (t : AgentRegistry.Thread)
  | awaiting (channel : Nat)
  | falling (call : Call)
  | calling (call : Call)
  | finished

structure Outside where
  hub : AgentRegistry.Outside
  now : Int
  /-- There is a client for the node. -/
  hasClient : Bool
  /-- The `select` takes the case of the context. -/
  expired : Bool

def request : Request → Thread
  | .hub q => .hub (AgentRegistry.request q)
  | .tries call => .choosing call

/-- The wait for a result. -/
def await (o : Outside) (channel : Nat) (h : Hub) : Thread × Hub :=
  if o.expired then (.finished, h)
  else
    match h.commands.channels[channel]? with
    | none => (.awaiting channel, h)
    | some c =>
        if c.buffer = [] then (.awaiting channel, h)
        else
          (.finished, { h with
            commands :=
              (CommandTracker.next o.hub.tracker h.commands (.receiving channel)).2 })

/-- A step; a server without a hub has never an agent to try. -/
def advance (configured : Bool) : Thread → Outside → Hub → Option (Thread × Hub × List Thread)
  | .hub t, o, h =>
      (AgentRegistry.advance t o.hub h).map fun next =>
        (.hub next.1, next.2.1, next.2.2.map Thread.hub)
  | .choosing call, o, h =>
      if configured && call.forAgent && (h.agents.lookup (key call.cluster call.node)).isSome then
        some (.handing call (.looking call.cluster call.node (call.command o.now)), h, [])
      else some (.falling call, h, [])
  | .handing _ (.returned (.ok channel)), _, h => some (.awaiting channel, h, [])
  | .handing call (.returned (.error _)), _, h => some (.falling call, h, [])
  | .handing call t, o, h =>
      (AgentRegistry.advance t o.hub h).map fun next =>
        (.handing call next.1, next.2.1, next.2.2.map Thread.hub)
  | .awaiting channel, o, h => some ((await o channel h).1, (await o channel h).2, [])
  | .falling call, o, h => some (if o.hasClient then .calling call else .finished, h, [])
  | .calling _, _, h => some (.finished, h, [])
  | .finished, _, h => some (.finished, h, [])

abbrev World := Thread.World Thread Hub

abbrev Event := Thread.Event Request Outside

def step (configured : Bool) : World → Event → World := Thread.step (advance configured) request

def start (authToken : String) : World := ⟨AgentRegistry.newHub authToken, [], false⟩

section Handovers

inductive Transport where
  /-- Into the send queue of the connection. -/
  | agent (connection : Nat) (cmd : CommandData)
  | client (cluster node : String) (work : Work)

/-- The command that a step of `SendCommand` puts into a queue. -/
def queued (h : Hub) : AgentRegistry.Thread → Option Transport
  | .sending c cmd _ => if (h.conns c).send.length < 64 then some (.agent c cmd) else none
  | _ => none

/-- What a step hands over. -/
def handsOver : Thread → Outside → Hub → Option Transport
  | .hub t, _, h => queued h t
  | .handing _ t, _, h => queued h t
  | .calling call, _, _ => call.work.map (.client call.cluster call.node)
  | _, _, _ => none

/-- All that was handed over, each with the number of the thread that did it. -/
def handovers (configured : Bool) (w : World) (es : List Event) : List (ℕ × Transport) :=
  Thread.emissions (advance configured) request handsOver w es

/-- The command that went to a connection. -/
def Transport.sentTo (c : Nat) : Transport → Option CommandData
  | .agent d cmd => if d = c then some cmd else none
  | .client _ _ _ => none

/-- How often a thread may still hand something over. -/
def sendBudget : AgentRegistry.Thread → ℕ
  | .looking _ _ _ | .adding _ _ _ | .sending _ _ _ => 1
  | _ => 0

/-- The same for a call that goes on with the fallback when `SendCommand` fails. -/
def handBudget : AgentRegistry.Thread → ℕ
  | .dropping _ | .returned (.error _) => 1
  | t => sendBudget t

def budget : Thread → ℕ
  | .hub t => sendBudget t
  | .handing _ t => handBudget t
  | .choosing _ | .falling _ | .calling _ => 1
  | .awaiting _ | .finished => 0

end Handovers

section Steps

variable {configured : Bool} {o : Outside} {h h' : Hub}

theorem send_update (c d : Nat) (a : AgentRegistry.AgentConn) :
    ((h.update c a).conns d).send = if d = c then a.send else (h.conns d).send := by
  by_cases same : d = c
  · subst same
    simp [Hub.update]
  · simp [Hub.update, same]

theorem send_closeDone {c : Nat} (closed : h.closeDone c = some h') (d : Nat) :
    (h'.conns d).send = (h.conns d).send := by
  rw [Hub.closeDone] at closed
  split_ifs at closed
  obtain rfl := Option.some.inj closed
  rw [send_update]
  split_ifs with same
  · rw [same]
  · rfl

theorem send_register {c : Nat} (registered : h.register c = some h') (d : Nat) :
    (h'.conns d).send = (h.conns d).send := by
  rw [Hub.register] at registered
  cases found : h.agents.lookup (h.conns c).key with
  | none =>
      rw [found] at registered
      obtain rfl := Option.some.inj registered
      rfl
  | some existing =>
      rw [found] at registered
      obtain ⟨closed, closes, rfl⟩ := Option.map_eq_some_iff.mp registered
      exact send_closeDone closes d

theorem send_unregister {c : Nat} (unregistered : h.unregister c = some h') (d : Nat) :
    (h'.conns d).send = (h.conns d).send := by
  rw [Hub.unregister] at unregistered
  split_ifs at unregistered with unnamed mine
  · obtain rfl := Option.some.inj unregistered
    rfl
  · exact send_closeDone unregistered d
  · obtain rfl := Option.some.inj unregistered
    rfl

theorem send_read (c d : Nat) (input : AgentRegistry.Input) :
    ((AgentRegistry.read c h input).2.conns d).send = (h.conns d).send := by
  cases input with
  | register reg =>
      rw [AgentRegistry.read]
      split_ifs
      · rw [send_update]
        split_ifs with same
        · rw [same]
          rfl
        · rfl
      · rfl
  | failed | commandResult | other => rfl

theorem send_write (c d : Nat) (o : AgentRegistry.Outside) :
    ((AgentRegistry.write c o h).2.conns d).send <:+ (h.conns d).send := by
  rw [AgentRegistry.write]
  by_cases stops : ((h.conns c).done && o.stops) = true
  · rw [if_pos stops]
  · rw [if_neg stops]
    cases waiting : (h.conns c).send with
    | nil => exact List.suffix_refl _
    | cons first rest =>
        simp only [send_update]
        split_ifs with same
        · rw [same, waiting]
          exact List.suffix_cons first rest
        · exact List.suffix_refl _

theorem send_advance {t t' : AgentRegistry.Thread} {o : AgentRegistry.Outside}
    {new : List AgentRegistry.Thread} (advanced : AgentRegistry.advance t o h = some (t', h', new))
    (c : Nat) :
    (h'.conns c).send <:+ (h.conns c).send ++ ((queued h t).bind (·.sentTo c)).toList := by
  have unchanged (same : (h'.conns c).send = (h.conns c).send) (nothing : queued h t = none) :
      (h'.conns c).send <:+ (h.conns c).send ++ ((queued h t).bind (·.sentTo c)).toList := by
    rw [same, nothing]
    simp
  cases t with
  | sending d cmd channel =>
      rw [AgentRegistry.advance] at advanced
      by_cases room : (h.conns d).send.length < 64
      · rw [if_pos room] at advanced
        obtain ⟨-, rfl, -⟩ := by simpa using advanced
        rw [send_update, queued, if_pos room]
        by_cases same : c = d
        · simp [same, Transport.sentTo]
        · simp [same, Ne.symm same, Transport.sentTo]
      · rw [if_neg room] at advanced
        obtain ⟨-, rfl, -⟩ := by simpa using advanced
        exact unchanged rfl (if_neg room)
  | registering d =>
      obtain ⟨_, registered, same⟩ := Option.map_eq_some_iff.mp advanced
      obtain ⟨-, rfl, -⟩ := by simpa using same
      exact unchanged (send_register registered c) rfl
  | unregistering d =>
      obtain ⟨_, unregistered, same⟩ := Option.map_eq_some_iff.mp advanced
      obtain ⟨-, rfl, -⟩ := by simpa using same
      exact unchanged (send_unregister unregistered c) rfl
  | reading d =>
      obtain ⟨-, rfl, -⟩ := by simpa [AgentRegistry.advance] using advanced
      exact unchanged (send_read d c o.input) rfl
  | writing d =>
      obtain ⟨-, rfl, -⟩ := by simpa [AgentRegistry.advance] using advanced
      simpa [queued] using send_write d c o
  | accepting query authorization =>
      rw [AgentRegistry.advance] at advanced
      split_ifs at advanced
      · obtain ⟨-, rfl, -⟩ := by simpa using advanced
        exact unchanged rfl rfl
      · obtain ⟨-, rfl, -⟩ := by simpa using advanced
        exact unchanged rfl rfl
  | looking cluster node cmd =>
      rw [AgentRegistry.advance] at advanced
      cases found : h.agents.lookup (key cluster node) with
      | none =>
          obtain ⟨-, rfl, -⟩ := by simpa [found] using advanced
          exact unchanged rfl rfl
      | some d =>
          obtain ⟨-, rfl, -⟩ := by simpa [found] using advanced
          exact unchanged rfl rfl
  | answered | ended | written | returned =>
      obtain ⟨-, rfl, -⟩ := by simpa [AgentRegistry.advance] using advanced
      exact unchanged rfl rfl
  | completing _ call | adding _ _ call | dropping call | cleaning call =>
      cases call <;>
        · obtain ⟨-, rfl, -⟩ := by simpa [AgentRegistry.advance] using advanced
          exact unchanged rfl rfl

theorem budget_advance {t t' : AgentRegistry.Thread} {o : AgentRegistry.Outside}
    {new : List AgentRegistry.Thread}
    (advanced : AgentRegistry.advance t o h = some (t', h', new)) :
    (queued h t).toList.length + sendBudget t' ≤ sendBudget t ∧
      (queued h t).toList.length + handBudget t' ≤ handBudget t := by
  cases t with
  | sending d cmd channel =>
      rw [AgentRegistry.advance] at advanced
      by_cases room : (h.conns d).send.length < 64
      · rw [if_pos room] at advanced
        obtain ⟨rfl, -, -⟩ := by simpa using advanced
        simp [queued, room, sendBudget, handBudget]
      · rw [if_neg room] at advanced
        obtain ⟨rfl, -, -⟩ := by simpa using advanced
        simp [queued, room, sendBudget, handBudget]
  | registering d =>
      obtain ⟨_, -, same⟩ := Option.map_eq_some_iff.mp advanced
      obtain ⟨rfl, -, -⟩ := by simpa using same
      simp [queued, sendBudget, handBudget]
  | unregistering d =>
      obtain ⟨_, -, same⟩ := Option.map_eq_some_iff.mp advanced
      obtain ⟨rfl, -, -⟩ := by simpa using same
      simp [queued, sendBudget, handBudget]
  | reading d =>
      obtain ⟨rfl, -, -⟩ := by simpa [AgentRegistry.advance] using advanced
      cases o.input with
      | register reg =>
          rw [AgentRegistry.read]
          split_ifs <;> simp [queued, sendBudget, handBudget]
      | failed | commandResult | other =>
          simp [AgentRegistry.read, queued, sendBudget, handBudget]
  | writing d =>
      obtain ⟨rfl, -, -⟩ := by simpa [AgentRegistry.advance] using advanced
      rw [AgentRegistry.write]
      by_cases stops : ((h.conns d).done && o.stops) = true
      · simp [stops, queued, sendBudget, handBudget]
      · rw [if_neg stops]
        cases (h.conns d).send with
        | nil => simp [queued, sendBudget, handBudget]
        | cons _ _ => cases fails : o.writeFails <;> simp [queued, sendBudget, handBudget]
  | accepting query authorization =>
      rw [AgentRegistry.advance] at advanced
      split_ifs at advanced <;>
        · obtain ⟨rfl, -, -⟩ := by simpa using advanced
          simp [queued, sendBudget, handBudget]
  | looking cluster node cmd =>
      rw [AgentRegistry.advance] at advanced
      cases found : h.agents.lookup (key cluster node) <;>
        · obtain ⟨rfl, -, -⟩ := by simpa [found] using advanced
          simp [queued, sendBudget, handBudget]
  | returned r =>
      obtain ⟨rfl, -, -⟩ := by simpa [AgentRegistry.advance] using advanced
      exact ⟨(Nat.zero_add _).le, (Nat.zero_add _).le⟩
  | answered | ended | written =>
      obtain ⟨rfl, -, -⟩ := by simpa [AgentRegistry.advance] using advanced
      simp [queued, sendBudget, handBudget]
  | completing _ call | adding _ _ call | dropping call | cleaning call =>
      cases call <;>
        · obtain ⟨rfl, -, -⟩ := by simpa [AgentRegistry.advance] using advanced
          simp [queued, sendBudget, handBudget]

theorem sendBudget_le (t : AgentRegistry.Thread) : sendBudget t ≤ 1 := by
  cases t <;> simp [sendBudget]

theorem budget_le (t : Thread) : budget t ≤ 1 := by
  cases t with
  | hub t => exact sendBudget_le t
  | handing call t =>
      cases t with
      | returned r => cases r <;> simp [budget, handBudget, sendBudget]
      | _ => simp [budget, handBudget, sendBudget]
  | _ => simp [budget]

theorem advance_handing (call : Call) (t : AgentRegistry.Thread) (o : Outside) (h : Hub) :
    (∃ r, t = .returned r) ∨ advance configured (.handing call t) o h =
      (AgentRegistry.advance t o.hub h).map fun next =>
        (.handing call next.1, next.2.1, next.2.2.map Thread.hub) := by
  cases t with
  | returned r => exact .inl ⟨r, rfl⟩
  | _ => exact .inr rfl

theorem await_cases (channel : ℕ) :
    (await o channel h).2.conns = h.conns ∧
      ((await o channel h).1 = .finished ∨ (await o channel h).1 = .awaiting channel) := by
  rw [await]
  split_ifs
  · exact ⟨rfl, .inl rfl⟩
  · cases h.commands.channels[channel]? with
    | none => exact ⟨rfl, .inr rfl⟩
    | some c =>
        by_cases empty : c.buffer = []
        · simp [empty]
        · simp [empty]

theorem budget_await (channel : ℕ) : budget (await o channel h).1 = 0 := by
  rcases (await_cases channel).2 with ended | waits
  · rw [ended, budget]
  · rw [waits, budget]

theorem handsOver_add_budget_le {t t' : Thread} {new : List Thread}
    (advanced : advance configured t o h = some (t', h', new)) :
    (handsOver t o h).toList.length + budget t' ≤ budget t := by
  cases t with
  | hub t =>
      obtain ⟨⟨t₁, h₁, new₁⟩, stepped, same⟩ := Option.map_eq_some_iff.mp advanced
      obtain ⟨rfl, -, -⟩ := by simpa using same
      exact (budget_advance stepped).1
  | choosing call =>
      rw [advance] at advanced
      split_ifs at advanced <;>
        · obtain ⟨rfl, -, -⟩ := by simpa using advanced
          simp [handsOver, budget, handBudget, sendBudget]
  | handing call t =>
      rcases advance_handing call t o h with ⟨r, rfl⟩ | inside
      · cases r <;>
          · obtain ⟨rfl, -, -⟩ := by simpa [advance] using advanced
            simp [handsOver, queued, budget, handBudget, sendBudget]
      · obtain ⟨⟨t₁, h₁, new₁⟩, stepped, same⟩ :=
          Option.map_eq_some_iff.mp (inside.symm.trans advanced)
        obtain ⟨rfl, -, -⟩ := by simpa using same
        exact (budget_advance stepped).2
  | awaiting channel =>
      obtain ⟨rfl, -, -⟩ := by simpa [advance] using advanced
      simp [handsOver, budget_await]
  | falling call =>
      obtain ⟨rfl, -, -⟩ := by simpa [advance] using advanced
      cases o.hasClient <;> simp [handsOver, budget]
  | calling call =>
      obtain ⟨rfl, -, -⟩ := by simpa [advance] using advanced
      cases worked : call.work <;> simp [handsOver, worked, budget]
  | finished =>
      obtain ⟨rfl, -, -⟩ := by simpa [advance] using advanced
      simp [handsOver, budget]

theorem handsOver_of_stuck {t : Thread} (stuck : advance configured t o h = none) :
    handsOver t o h = none := by
  have queues {t : AgentRegistry.Thread} (blocked : AgentRegistry.advance t o.hub h = none) :
      queued h t = none := by
    rcases AgentRegistry.effect_advance t o.hub h with ⟨⟨c, ⟨rfl, -⟩ | ⟨rfl, -⟩⟩, -⟩ |
      ⟨t', h', new, advanced, -⟩
    · rfl
    · rfl
    · cases blocked.symm.trans advanced
  cases t with
  | hub t => exact queues (Option.map_eq_none_iff.mp stuck)
  | handing call t =>
      rcases advance_handing call t o h with ⟨r, rfl⟩ | inside
      · rfl
      · exact queues (Option.map_eq_none_iff.mp (inside.symm.trans stuck))
  | calling call => simp [advance] at stuck
  | choosing | awaiting | falling | finished => rfl

theorem send_step {t t' : Thread} {new : List Thread}
    (advanced : advance configured t o h = some (t', h', new)) (c : ℕ) :
    (h'.conns c).send <:+
      (h.conns c).send ++ ((handsOver t o h).bind (·.sentTo c)).toList := by
  have unchanged (same : h'.conns = h.conns)
      (nothing : (handsOver t o h).bind (·.sentTo c) = none) :
      (h'.conns c).send <:+
        (h.conns c).send ++ ((handsOver t o h).bind (·.sentTo c)).toList := by
    rw [same, nothing, Option.toList_none, List.append_nil]
  cases t with
  | hub t =>
      obtain ⟨⟨t₁, h₁, new₁⟩, stepped, same⟩ := Option.map_eq_some_iff.mp advanced
      obtain ⟨-, rfl, -⟩ := by simpa using same
      exact send_advance stepped c
  | handing call t =>
      rcases advance_handing call t o h with ⟨r, rfl⟩ | inside
      · cases r <;>
          · obtain ⟨-, rfl, -⟩ := by simpa [advance] using advanced
            exact unchanged rfl rfl
      · obtain ⟨⟨t₁, h₁, new₁⟩, stepped, same⟩ :=
          Option.map_eq_some_iff.mp (inside.symm.trans advanced)
        obtain ⟨-, rfl, -⟩ := by simpa using same
        exact send_advance stepped c
  | choosing call =>
      rw [advance] at advanced
      split_ifs at advanced <;>
        · obtain ⟨-, rfl, -⟩ := by simpa using advanced
          exact unchanged rfl rfl
  | awaiting channel =>
      obtain ⟨-, rfl, -⟩ := by simpa [advance] using advanced
      exact unchanged (await_cases channel).1 rfl
  | calling call =>
      obtain ⟨-, rfl, -⟩ := by simpa [advance] using advanced
      refine unchanged rfl ?_
      rw [handsOver]
      cases call.work <;> rfl
  | falling | finished =>
      obtain ⟨-, rfl, -⟩ := by simpa [advance] using advanced
      exact unchanged rfl rfl

end Steps

section Runs

variable (configured : Bool)

/-- The commands that were handed over to a connection. -/
def sentOver (c : ℕ) (log : List (ℕ × Transport)) : List CommandData :=
  log.filterMap fun a => a.2.sentTo c

theorem send_event (w : World) (e : Event) (c : ℕ) :
    ((step configured w e).shared.conns c).send <:+
      (w.shared.conns c).send ++
        sentOver c (Thread.emitted request handsOver w e).toList := by
  have keeps (same : (step configured w e).shared = w.shared)
      (nothing : Thread.emitted request handsOver w e = none) :
      ((step configured w e).shared.conns c).send <:+
        (w.shared.conns c).send ++
          sentOver c (Thread.emitted request handsOver w e).toList := by
    rw [same, nothing, sentOver, Option.toList_none, List.filterMap_nil, List.append_nil]
  rcases Thread.step_at_place (advance configured) request w e with ⟨idle, same⟩ |
    ⟨t, o, acts, -, ⟨stuck, moved⟩ | ⟨t', h', new, advanced, moved⟩⟩
  · exact keeps (congrArg Thread.World.shared same) (by simp [Thread.emitted, idle])
  · exact keeps (by rw [step, moved]) (by simp [Thread.emitted, acts, handsOver_of_stuck stuck])
  · have given : sentOver c (Thread.emitted request handsOver w e).toList =
        ((handsOver t o w.shared).bind (·.sentTo c)).toList := by
      rw [Thread.emitted, acts, Option.bind_some]
      dsimp only
      cases handsOver t o w.shared with
      | none => rfl
      | some a => cases sent : a.sentTo c <;> simp [sentOver, sent]
    have hub : (step configured w e).shared = h' := congrArg Thread.World.shared moved
    rw [given, hub]
    exact send_step advanced c

theorem send_run (w : World) (es : List Event) (c : ℕ) :
    ((es.foldl (step configured) w).shared.conns c).send <:+
      (w.shared.conns c).send ++ sentOver c (handovers configured w es) := by
  induction es generalizing w with
  | nil => simp [handovers, Thread.emissions, sentOver]
  | cons e es ih =>
      have first := send_event configured w e c
      have later := ih (step configured w e)
      have log : sentOver c (handovers configured w (e :: es)) =
          sentOver c (Thread.emitted request handsOver w e).toList ++
            sentOver c (handovers configured (step configured w e) es) :=
        List.filterMap_append
      rw [List.foldl_cons, log, ← List.append_assoc]
      obtain ⟨front, whole⟩ := first
      exact later.trans ⟨front, by rw [← whole, List.append_assoc]⟩

/-- Every call, and every thread of the hub, hands its operation over at most once, to an agent
or to a client; and all that ever stands in a send queue was handed over there. -/
theorem handed_over_once (configured : Bool) (authToken : String) (es : List Event) :
    (∀ i, (handovers configured (start authToken) es).countP (fun a => a.1 = i) ≤ 1) ∧
      ∀ c, ((es.foldl (step configured) (start authToken)).shared.conns c).send <:+
        sentOver c (handovers configured (start authToken) es) := by
  constructor
  · intro i
    have fresh (q : Request) : budget (request q) ≤ 1 := budget_le _
    have stuck (t : Thread) (o : Outside) (h : Hub) (blocked : advance configured t o h = none) :
        handsOver t o h = none := handsOver_of_stuck blocked
    exact Thread.countP_emissions_le fresh stuck
      (fun _ _ _ _ _ _ advanced => handsOver_add_budget_le advanced)
      (fun _ _ _ _ _ _ _ u _ => budget_le u) (start authToken) es i
  · intro c
    exact send_run configured (start authToken) es c

end Runs

end ActionTransport
