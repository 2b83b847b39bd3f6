import PCenter.Lib.FiniteMap
import PCenter.Lib.Json
import PCenter.Lib.Thread

/-!
# Commands that wait for their results

`CommandTracker` of `internal/agent/commands.go`. The calls of its methods are threads over
the map of pending commands and the result channels. A method takes the lock for one step;
only the cleanup holds it for longer, while it visits the entries of the map in any order,
and then the steps of the others that need the lock have to wait. `Complete` sends after it
has released the lock.
-/

namespace CommandTracker

open GoJson (Fields)

structure CommandData where
  id : String
  action : String
  params : Fields

structure CommandResultData where
  id : String
  success : Bool
  upid : String
  output : String
  error : String
  deriving DecidableEq, Repr

/-- A channel with one slot: all that was sent to it, and how much of it was received. -/
structure Channel where
  sent : List CommandResultData
  taken : Nat

namespace Channel

def buffer (c : Channel) : List CommandResultData := c.sent.drop c.taken

/-- A send that gives up when the slot is full. -/
def offer (r : CommandResultData) (c : Channel) : Channel :=
  if c.buffer.length < 1 then { c with sent := c.sent ++ [r] } else c

def receive (c : Channel) : Channel :=
  if c.buffer = [] then c else { c with taken := c.taken + 1 }

theorem length_sent_offer_le (r : CommandResultData) (c : Channel) :
    (c.offer r).sent.length ≤ c.sent.length + 1 := by
  rw [offer]
  split_ifs
  · exact (List.length_append).le
  · omega

end Channel

structure PendingCommand where
  command : CommandData
  sentAt : Int
  /-- The number of the channel. -/
  result : Nat

structure Tracker where
  pending : FiniteMap.Map String PendingCommand
  channels : List Channel
  locked : Bool

def newCommandTracker : Tracker := ⟨∅, [], false⟩

namespace Tracker

def sentTo (t : Tracker) (ch : Nat) : List CommandResultData :=
  (t.channels[ch]?.map Channel.sent).getD []

def offer (ch : Nat) (r : CommandResultData) (t : Tracker) : Tracker :=
  { t with channels := t.channels.modify ch (Channel.offer r) }

def erase (id : String) (t : Tracker) : Tracker := { t with pending := t.pending.erase id }

/-- The new channel and its entry. -/
def insert (cmd : CommandData) (now : Int) (t : Tracker) : Tracker :=
  { t with
    pending := t.pending.insert cmd.id ⟨cmd, now, t.channels.length⟩
    channels := t.channels ++ [⟨[], 0⟩] }

end Tracker

/-- The calls of the methods, and the receives of those who wait for a result. -/
inductive Call where
  | add (cmd : CommandData)
  | complete (result : CommandResultData)
  | remove (id : String)
  | cleanupStale (timeout : Int)
  | receive (channel : Nat)

/-- How far a call has come. -/
inductive Phase where
  | adding (cmd : CommandData)
  | added (channel : Nat)
  | completing (result : CommandResultData)
  /- The entry is deleted and the lock released, but nothing is sent yet. -/
  | delivering (result : CommandResultData) (channel : Nat)
  | completed (result : CommandResultData) (known : Bool)
  | removing (id : String)
  | removed
  | timing (timeout : Int)
  | locking (timeout now : Int)
  | sweeping (timeout now : Int) (rest : List String) (cleaned : Nat)
  | cleaned (n : Nat)
  | receiving (channel : Nat)

/-- The time, and the key that an iteration over the map comes to. -/
structure Outside where
  now : Int
  next : String

def timedOut (id : String) : CommandResultData := ⟨id, false, "", "", "command timed out"⟩

/-- `CleanupStale` at one entry. -/
def visit (timeout now : Int) (id : String) (t : Tracker) : Tracker × Nat :=
  match t.pending.lookup id with
  | none => (t, 0)
  | some p =>
      if now - p.sentAt > timeout then ((t.offer p.result (timedOut id)).erase id, 1) else (t, 0)

def start : Call → Phase
  | .add cmd => .adding cmd
  | .complete result => .completing result
  | .remove id => .removing id
  | .cleanupStale timeout => .timing timeout
  | .receive channel => .receiving channel

def next (o : Outside) (t : Tracker) : Phase → Phase × Tracker
  | .adding cmd =>
      if t.locked then (.adding cmd, t) else (.added t.channels.length, t.insert cmd o.now)
  | .completing result =>
      if t.locked then (.completing result, t)
      else
        match t.pending.lookup result.id with
        | none => (.completed result false, t)
        | some p => (.delivering result p.result, t.erase result.id)
  | .delivering result channel => (.completed result true, t.offer channel result)
  | .removing id => if t.locked then (.removing id, t) else (.removed, t.erase id)
  | .timing timeout => (.locking timeout o.now, t)
  | .locking timeout now =>
      if t.locked then (.locking timeout now, t)
      else (.sweeping timeout now t.pending.keys 0, { t with locked := true })
  | .sweeping _ _ [] n => (.cleaned n, { t with locked := false })
  | .sweeping timeout now rest n =>
      if o.next ∈ rest then
        (.sweeping timeout now (rest.erase o.next) (n + (visit timeout now o.next t).2),
          (visit timeout now o.next t).1)
      else (.sweeping timeout now rest n, t)
  | .receiving channel =>
      (.receiving channel, { t with channels := t.channels.modify channel Channel.receive })
  | p => (p, t)

def advance (p : Phase) (o : Outside) (t : Tracker) : Option (Phase × Tracker × List Phase) :=
  some ((next o t p).1, (next o t p).2, [])

abbrev World := Thread.World Phase Tracker

abbrev Event := Thread.Event Call Outside

def step : World → Event → World := Thread.step advance start

def run (es : List Event) : World := es.foldl step ⟨newCommandTracker, [], false⟩

namespace Phase

/-- The call is about to send to the channel. -/
def delivers (ch : Nat) : Phase → Bool
  | delivering _ c => c = ch
  | _ => false

/-- The call will put the command into the map, or has the right to its result. -/
def holds (id : String) : Phase → Bool
  | adding cmd => cmd.id = id
  | delivering result _ => result.id = id
  | completed result known => known && result.id = id
  | _ => false

end Phase

section Channels

variable {t : Tracker} {ch ch' : Nat} {r : CommandResultData} {id : String}

theorem sentTo_eq_nil_of_le (beyond : t.channels.length ≤ ch) : t.sentTo ch = [] := by
  simp [Tracker.sentTo, beyond]

theorem length_channels_offer : (t.offer ch r).channels.length = t.channels.length := by
  simp [Tracker.offer]

theorem sentTo_offer_of_ne (other : ch' ≠ ch) : (t.offer ch r).sentTo ch' = t.sentTo ch' := by
  simp [Tracker.sentTo, Tracker.offer, Ne.symm other]

theorem sentTo_offer_of_unsent (inside : ch < t.channels.length) (unsent : t.sentTo ch = []) :
    (t.offer ch r).sentTo ch = [r] := by
  have found : t.channels[ch]? = some t.channels[ch] := List.getElem?_eq_getElem inside
  have empty : t.channels[ch].sent = [] := by simpa [Tracker.sentTo, found] using unsent
  simp [Tracker.sentTo, Tracker.offer, found, Channel.offer, Channel.buffer, empty]

theorem length_sentTo_offer_le :
    ((t.offer ch r).sentTo ch').length ≤ (t.sentTo ch').length + if ch = ch' then 1 else 0 := by
  by_cases same : ch = ch'
  · subst same
    rw [if_pos rfl]
    cases found : t.channels[ch]? with
    | none => simp [Tracker.sentTo, Tracker.offer, found]
    | some c => simpa [Tracker.sentTo, Tracker.offer, found] using c.length_sent_offer_le r
  · rw [sentTo_offer_of_ne (Ne.symm same), if_neg same]
    omega

theorem sentTo_insert (cmd : CommandData) (now : Int) :
    (t.insert cmd now).sentTo ch = t.sentTo ch := by
  rcases Nat.lt_trichotomy ch t.channels.length with inside | rfl | beyond
  · simp [Tracker.sentTo, Tracker.insert, List.getElem?_append_left inside]
  · simp [Tracker.sentTo, Tracker.insert]
  · have past : t.channels.length ≤ ch := by omega
    have still : (t.insert cmd now).channels.length ≤ ch := by
      simpa [Tracker.insert] using Nat.succ_le_of_lt beyond
    rw [sentTo_eq_nil_of_le past, sentTo_eq_nil_of_le still]

theorem sentTo_receive :
    ({ t with channels := t.channels.modify ch Channel.receive } : Tracker).sentTo ch' =
      t.sentTo ch' := by
  simp only [Tracker.sentTo, List.getElem?_modify]
  by_cases same : ch = ch'
  · subst same
    cases t.channels[ch]? with
    | none => rfl
    | some c => by_cases empty : c.buffer = [] <;> simp [Channel.receive, empty]
  · simp [same]

end Channels

/-- All that a step of a call does. -/
inductive Effect (o : Outside) (t : Tracker) : Phase → Phase → Tracker → Prop where
  | idle (p p' : Phase) (t' : Tracker) : (∀ ch, p'.delivers ch = p.delivers ch) →
      (∀ id, p'.holds id = p.holds id) → t'.pending = t.pending →
      (∀ ch, t'.sentTo ch = t.sentTo ch) → t'.channels.length = t.channels.length →
      Effect o t p p' t'
  | add (cmd : CommandData) :
      Effect o t (.adding cmd) (.added t.channels.length) (t.insert cmd o.now)
  | take (r : CommandResultData) (p : PendingCommand) : t.pending.lookup r.id = some p →
      Effect o t (.completing r) (.delivering r p.result) (t.erase r.id)
  | deliver (r : CommandResultData) (ch : Nat) :
      Effect o t (.delivering r ch) (.completed r true) (t.offer ch r)
  | remove (id : String) : Effect o t (.removing id) .removed (t.erase id)
  | expire (timeout now : Int) (rest rest' : List String) (n n' : Nat) (id : String)
      (p : PendingCommand) : t.pending.lookup id = some p →
      Effect o t (.sweeping timeout now rest n) (.sweeping timeout now rest' n')
        ((t.offer p.result (timedOut id)).erase id)

theorem effect_rest (o : Outside) (t : Tracker) (p : Phase) : Effect o t p p t :=
  .idle p p t (fun _ => rfl) (fun _ => rfl) rfl (fun _ => rfl) rfl

theorem effect_next (o : Outside) (t : Tracker) (p : Phase) :
    Effect o t p (next o t p).1 (next o t p).2 := by
  cases p with
  | adding cmd =>
      rw [next]
      split_ifs
      · exact effect_rest o t _
      · exact .add cmd
  | completing r =>
      rw [next]
      split_ifs
      · exact effect_rest o t _
      · cases found : t.pending.lookup r.id with
        | none => exact .idle _ _ _ (fun _ => rfl) (fun _ => rfl) rfl (fun _ => rfl) rfl
        | some p => exact .take r p found
  | delivering r ch => exact .deliver r ch
  | removing id =>
      rw [next]
      split_ifs
      · exact effect_rest o t _
      · exact .remove id
  | timing timeout => exact .idle _ _ _ (fun _ => rfl) (fun _ => rfl) rfl (fun _ => rfl) rfl
  | locking timeout now =>
      rw [next]
      split_ifs
      · exact effect_rest o t _
      · exact .idle _ _ _ (fun _ => rfl) (fun _ => rfl) rfl (fun _ => rfl) rfl
  | sweeping timeout now rest n =>
      cases rest with
      | nil => exact .idle _ _ _ (fun _ => rfl) (fun _ => rfl) rfl (fun _ => rfl) rfl
      | cons id rest =>
          rw [next]
          split_ifs
          · rw [visit]
            cases found : t.pending.lookup o.next with
            | none => exact .idle _ _ _ (fun _ => rfl) (fun _ => rfl) rfl (fun _ => rfl) rfl
            | some p =>
                simp only
                split_ifs
                · exact .expire timeout now _ _ n _ o.next p found
                · exact .idle _ _ _ (fun _ => rfl) (fun _ => rfl) rfl (fun _ => rfl) rfl
          · exact effect_rest o t _
          · exact nofun
  | receiving ch =>
      exact .idle _ _ _ (fun _ => rfl) (fun _ => rfl) rfl (fun _ => sentTo_receive)
        (by simp [next])
  | added | completed | removed | cleaned => exact effect_rest o t _

section Counts

/-- The entries of the map that have the channel. -/
def entriesFor (t : Tracker) (ch : Nat) : Nat :=
  t.pending.entries.countP fun entry => entry.2.result = ch

/-- What was sent to the channel, with all that has the right to send to it. -/
def weight (t : Tracker) (pool : List Phase) (ch : Nat) : Nat :=
  entriesFor t ch + pool.countP (Phase.delivers ch) + (t.sentTo ch).length

def capacity (t : Tracker) (ch : Nat) : Nat := if ch < t.channels.length then 1 else 0

/-- How often the command is in the map or has a call that holds it. -/
def claims (t : Tracker) (pool : List Phase) (id : String) : Nat :=
  (if id ∈ t.pending then 1 else 0) + pool.countP (Phase.holds id)

variable {o : Outside} {t t' : Tracker} {p p' : Phase}

theorem entriesFor_erase {id : String} {found : PendingCommand}
    (lookup : t.pending.lookup id = some found) (ch : Nat) :
    entriesFor t ch = entriesFor (t.erase id) ch + if found.result = ch then 1 else 0 := by
  simpa [entriesFor, Tracker.erase] using
    FiniteMap.countP_erase lookup fun entry => entry.2.result = ch

theorem entriesFor_offer (id : String) (c ch : Nat) (r : CommandResultData) :
    entriesFor ((t.offer c r).erase id) ch = entriesFor (t.erase id) ch := rfl

theorem countP_delivering (r : CommandResultData) (c ch : Nat) :
    [Phase.delivering r c].countP (Phase.delivers ch) = if c = ch then 1 else 0 := by
  simp [List.countP_singleton, Phase.delivers]

theorem weight_effect (effect : Effect o t p p' t') (ch : Nat) :
    weight t' [p'] ch + capacity t ch ≤ weight t [p] ch + capacity t' ch := by
  cases effect with
  | idle _ _ _ delivers _ pending sent length =>
      simp [weight, entriesFor, capacity, delivers, pending, sent, length]
  | add cmd =>
      have entries : entriesFor (t.insert cmd o.now) ch ≤
          entriesFor t ch + if t.channels.length = ch then 1 else 0 := by
        simpa [entriesFor, Tracker.insert] using FiniteMap.countP_insert_le t.pending cmd.id
          ⟨cmd, o.now, t.channels.length⟩ fun entry => entry.2.result = ch
      have grown : capacity (t.insert cmd o.now) ch =
          capacity t ch + if t.channels.length = ch then 1 else 0 := by
        simp only [capacity, Tracker.insert, List.length_append, List.length_singleton]
        split_ifs <;> omega
      have waits : [Phase.adding cmd].countP (Phase.delivers ch) = 0 := rfl
      have returned : [Phase.added t.channels.length].countP (Phase.delivers ch) = 0 := rfl
      simp only [weight, sentTo_insert, waits, returned]
      omega
  | take r found lookup =>
      have entries := entriesFor_erase lookup ch
      have sent : (t.erase r.id).sentTo ch = t.sentTo ch := rfl
      have same : capacity (t.erase r.id) ch = capacity t ch := rfl
      have waits : [Phase.completing r].countP (Phase.delivers ch) = 0 := rfl
      simp only [weight, sent, same, waits, countP_delivering]
      omega
  | deliver r c =>
      have sent := @length_sentTo_offer_le t c ch r
      have entries : entriesFor (t.offer c r) ch = entriesFor t ch := rfl
      have same : capacity (t.offer c r) ch = capacity t ch := by
        rw [capacity, length_channels_offer, capacity]
      have returned : [Phase.completed r true].countP (Phase.delivers ch) = 0 := rfl
      simp only [weight, entries, same, returned, countP_delivering]
      omega
  | remove id =>
      have entries : entriesFor (t.erase id) ch ≤ entriesFor t ch :=
        FiniteMap.countP_erase_le t.pending id _
      have sent : (t.erase id).sentTo ch = t.sentTo ch := rfl
      have same : capacity (t.erase id) ch = capacity t ch := rfl
      have waits : [Phase.removing id].countP (Phase.delivers ch) = 0 := rfl
      have returned : [Phase.removed].countP (Phase.delivers ch) = 0 := rfl
      simp only [weight, sent, same, waits, returned]
      omega
  | expire timeout now rest rest' n n' id found lookup =>
      have entries := entriesFor_erase lookup ch
      have sent : (((t.offer found.result (timedOut id)).erase id).sentTo ch).length ≤ _ :=
        @length_sentTo_offer_le t found.result ch (timedOut id)
      have same : capacity ((t.offer found.result (timedOut id)).erase id) ch = capacity t ch := by
        change (if ch < (t.offer found.result (timedOut id)).channels.length then 1 else 0) = _
        rw [length_channels_offer, capacity]
      have sweeps : ∀ l m, [Phase.sweeping timeout now l m].countP (Phase.delivers ch) = 0 :=
        fun _ _ => rfl
      simp only [weight, entriesFor_offer, same, sweeps]
      omega

theorem claims_effect (effect : Effect o t p p' t') (id : String) :
    claims t' [p'] id ≤ claims t [p] id := by
  cases effect with
  | idle _ _ _ _ holds pending _ _ => simp [claims, holds, pending]
  | add cmd =>
      by_cases same : cmd.id = id
      · subst same
        simp [claims, Phase.holds, Tracker.insert]
      · simp [claims, Phase.holds, Tracker.insert, Ne.symm same]
  | take r found lookup =>
      have inside : r.id ∈ t.pending := AList.lookup_isSome.mp (by simp [lookup])
      by_cases same : r.id = id
      · subst same
        simp [claims, Phase.holds, Tracker.erase, inside]
      · simp [claims, Phase.holds, Tracker.erase, same, Ne.symm same]
  | deliver r c =>
      have same : claims (t.offer c r) [.completed r true] id = claims t [.delivering r c] id := rfl
      exact same.le
  | remove other =>
      by_cases same : id = other <;> simp [claims, Phase.holds, Tracker.erase, same]
  | expire timeout now rest rest' n n' other found lookup =>
      by_cases same : id = other <;>
        simp [claims, Phase.holds, Tracker.erase, Tracker.offer, same]

end Counts

section Runs

variable {w : World} {e : Event}

theorem run_concat (es : List Event) (e : Event) : run (es ++ [e]) = step (run es) e := by
  simp [run]

theorem step_cases (w : World) (e : Event) :
    step w e = w ∨
      ∃ p o before after, Thread.actor start w e = some (p, o) ∧
        Thread.Turn start w e p o before after ∧
          step w e = ⟨(next o w.shared p).2, before ++ (next o w.shared p).1 :: after, false⟩ := by
  rcases Thread.step_cases_of_total advance start (fun p o t => next o t p) (fun _ _ _ => rfl) w e
    with ⟨_, same⟩ | ⟨p, o, before, after, acts, _, turn, moved⟩
  · exact .inl same
  · exact .inr ⟨p, o, before, after, acts, turn, moved⟩

/-- No channel is sent to twice, whatever the calls still do. -/
def Bounded (w : World) : Prop := ∀ ch, weight w.shared w.pool ch ≤ capacity w.shared ch

theorem weight_append (t : Tracker) (before after : List Phase) (p : Phase) (ch : Nat) :
    weight t (before ++ p :: after) ch =
      weight t [p] ch + (before ++ after).countP (Phase.delivers ch) := by
  rw [weight, weight, Thread.countP_middle]
  omega

theorem claims_append (t : Tracker) (before after : List Phase) (p : Phase) (id : String) :
    claims t (before ++ p :: after) id =
      claims t [p] id + (before ++ after).countP (Phase.holds id) := by
  rw [claims, claims, Thread.countP_middle, Nat.add_assoc]

theorem delivers_start (c : Call) (ch : Nat) : (start c).delivers ch = false := by
  cases c <;> rfl

theorem weight_called (w : World) (e : Event) (ch : Nat) :
    weight w.shared (Thread.called start w e) ch = weight w.shared w.pool ch := by
  cases e with
  | begins q o => simp [Thread.called, weight, delivers_start]
  | goes i o => rfl

theorem bounded_step (bounded : Bounded w) (e : Event) : Bounded (step w e) := by
  rcases step_cases w e with same | ⟨p, o, before, after, _, turn, moved⟩
  · rwa [same]
  · intro ch
    have whole := weight_called w e ch
    rw [turn.called_eq, weight_append] at whole
    have here := bounded ch
    have moves := weight_effect (effect_next o w.shared p) ch
    rw [moved]
    simp only [weight_append]
    omega

theorem bounded_run (es : List Event) : Bounded (run es) := by
  induction es using List.reverseRecOn with
  | nil => exact fun ch => Nat.zero_le _
  | append_singleton es e ih =>
      rw [run_concat]
      exact bounded_step ih e

/-- The commands that the events add. -/
def addedId : Event → Option String
  | .begins (.add cmd) _ => some cmd.id
  | _ => none

theorem claims_called_le (w : World) (e : Event) (id : String) :
    claims w.shared (Thread.called start w e) id ≤
      claims w.shared w.pool id + (addedId e).toList.count id := by
  cases e with
  | begins q o =>
      cases q with
      | add cmd =>
          simp only [Thread.called, start, claims, addedId, List.countP_append,
            List.countP_singleton, Phase.holds, Option.toList_some, List.count_singleton]
          by_cases same : cmd.id = id <;> simp [same, Nat.add_assoc]
      | complete | remove | cleanupStale | receive =>
          simp [Thread.called, start, claims, Phase.holds, addedId]
  | goes i o => exact Nat.le_add_right _ _

theorem claims_step_le (w : World) (e : Event) (id : String) :
    claims (step w e).shared (step w e).pool id ≤
      claims w.shared w.pool id + (addedId e).toList.count id := by
  rcases step_cases w e with same | ⟨p, o, before, after, _, turn, moved⟩
  · rw [same]
    exact Nat.le_add_right _ _
  · have whole := claims_called_le w e id
    rw [turn.called_eq, claims_append] at whole
    have moves := claims_effect (effect_next o w.shared p) id
    rw [moved]
    simp only [claims_append]
    omega

theorem claims_run_le (es : List Event) (id : String) :
    claims (run es).shared (run es).pool id ≤ (es.filterMap addedId).count id := by
  induction es using List.reverseRecOn with
  | nil => exact Nat.le_refl 0
  | append_singleton es e ih =>
      have last := claims_step_le (run es) e id
      rw [run_concat, List.filterMap_append, List.count_append]
      have single : [e].filterMap addedId = (addedId e).toList := by
        cases added : addedId e <;> simp [added]
      rw [single]
      omega

/-- Nothing has the right to send to the channel. -/
def Closed (w : World) (ch : Nat) : Prop :=
  ch < w.shared.channels.length ∧ entriesFor w.shared ch = 0 ∧ w.pool.countP (Phase.delivers ch) = 0

theorem sent_effect {o : Outside} {t t' : Tracker} {p p' : Phase} {ch : Nat}
    (effect : Effect o t p p' t') (entries : entriesFor t ch = 0)
    (delivers : [p].countP (Phase.delivers ch) = 0) : t'.sentTo ch = t.sentTo ch := by
  cases effect with
  | idle _ _ _ _ _ _ sent _ => exact sent ch
  | add cmd => exact sentTo_insert cmd o.now
  | take r found lookup => rfl
  | deliver r c =>
      rw [countP_delivering] at delivers
      exact sentTo_offer_of_ne (by rintro rfl; simp at delivers)
  | remove id => rfl
  | expire timeout now rest rest' n n' id found lookup =>
      have here := entriesFor_erase lookup ch
      have other : ch ≠ found.result := by
        rintro rfl
        simp only [if_pos] at here
        omega
      exact @sentTo_offer_of_ne t found.result ch (timedOut id) other

theorem channels_effect {o : Outside} {t t' : Tracker} {p p' : Phase}
    (effect : Effect o t p p' t') : t.channels.length ≤ t'.channels.length := by
  cases effect with
  | idle _ _ _ _ _ _ _ length => exact length.ge
  | add cmd => simp [Tracker.insert]
  | take | remove => exact Nat.le_refl _
  | deliver | expire => exact length_channels_offer.ge

theorem pool_of_turn {p : Phase} {o : Outside} {before after : List Phase} (ch : Nat)
    (turn : Thread.Turn start w e p o before after) :
    w.pool.countP (Phase.delivers ch) =
      [p].countP (Phase.delivers ch) + (before ++ after).countP (Phase.delivers ch) := by
  cases turn with
  | begins q o => simp [delivers_start]
  | goes i _ _ _ _ _ split => rw [split, Thread.countP_middle]

theorem closed_step {ch : Nat} (closed : Closed w ch) (e : Event) :
    Closed (step w e) ch ∧ (step w e).shared.sentTo ch = w.shared.sentTo ch := by
  obtain ⟨inside, entries, delivers⟩ := closed
  rcases step_cases w e with same | ⟨p, o, before, after, _, turn, moved⟩
  · rw [same]
    exact ⟨⟨inside, entries, delivers⟩, rfl⟩
  · have effect := effect_next o w.shared p
    rw [pool_of_turn ch turn] at delivers
    have sent := sent_effect effect entries (by omega)
    have moves := weight_effect effect ch
    have longer := channels_effect effect
    have still : ch < (next o w.shared p).2.channels.length := by omega
    simp only [weight, capacity, if_pos inside, if_pos still, sent] at moves
    rw [moved]
    refine ⟨⟨still, ?_, ?_⟩, sent⟩
    · change entriesFor (next o w.shared p).2 ch = 0
      omega
    · simp only [Thread.countP_middle]
      omega

theorem closed_run {ch : Nat} {es : List Event} (closed : Closed w ch) :
    Closed (es.foldl step w) ch ∧ (es.foldl step w).shared.sentTo ch = w.shared.sentTo ch := by
  induction es generalizing w with
  | nil => exact ⟨closed, rfl⟩
  | cons e es ih =>
      obtain ⟨closed', sent⟩ := closed_step closed e
      obtain ⟨closed'', sent'⟩ := ih closed'
      exact ⟨closed'', sent'.trans sent⟩

/-- A call that has taken a command out still has its send before it, or the result is sent. -/
def Delivered (w : World) (r : CommandResultData) (ch : Nat) : Prop :=
  .delivering r ch ∈ w.pool ∧ w.shared.sentTo ch = [] ∨ Closed w ch ∧ w.shared.sentTo ch = [r]

theorem delivers_delivering (r : CommandResultData) (ch : Nat) :
    Phase.delivers ch (.delivering r ch) = true := by simp [Phase.delivers]

theorem inside_of_capacity {t : Tracker} {ch : Nat} (room : 0 < capacity t ch) :
    ch < t.channels.length := by
  by_contra beyond
  rw [capacity, if_neg beyond] at room
  omega

theorem capacity_le (t : Tracker) (ch : Nat) : capacity t ch ≤ 1 := by
  rw [capacity]
  split_ifs <;> omega

theorem delivering_alone {r : CommandResultData} {ch : Nat} (bounded : Bounded w)
    (member : .delivering r ch ∈ w.pool) :
    ch < w.shared.channels.length ∧ w.shared.sentTo ch = [] ∧ entriesFor w.shared ch = 0 ∧
      w.pool.countP (Phase.delivers ch) = 1 := by
  have one : 0 < w.pool.countP (Phase.delivers ch) :=
    List.countP_pos_iff.mpr ⟨_, member, delivers_delivering r ch⟩
  have here := bounded ch
  have most := capacity_le w.shared ch
  rw [weight] at here
  refine ⟨inside_of_capacity (by omega), ?_, by omega, by omega⟩
  exact List.length_eq_zero_iff.mp (by omega)

theorem entry_alone {id : String} {p : PendingCommand} (bounded : Bounded w)
    (lookup : w.shared.pending.lookup id = some p) :
    p.result < w.shared.channels.length ∧ w.shared.sentTo p.result = [] ∧
      entriesFor (w.shared.erase id) p.result = 0 ∧
        w.pool.countP (Phase.delivers p.result) = 0 := by
  have one := entriesFor_erase lookup p.result
  have here := bounded p.result
  have most := capacity_le w.shared p.result
  rw [if_pos rfl] at one
  rw [weight] at here
  refine ⟨inside_of_capacity (by omega), ?_, by omega, by omega⟩
  exact List.length_eq_zero_iff.mp (by omega)

theorem delivered_step {r : CommandResultData} {ch : Nat} (bounded : Bounded w)
    (member : .delivering r ch ∈ w.pool) (e : Event) : Delivered (step w e) r ch := by
  have mine := delivers_delivering r ch
  obtain ⟨inside, unsent, none, one⟩ := delivering_alone bounded member
  rcases step_cases w e with same | ⟨p, o, before, after, _, turn, moved⟩
  · rw [same]
    exact .inl ⟨member, unsent⟩
  · have effect := effect_next o w.shared p
    have parts := pool_of_turn ch turn
    rw [moved]
    by_cases others : Phase.delivering r ch ∈ before ++ after
    · have two : 0 < (before ++ after).countP (Phase.delivers ch) :=
        List.countP_pos_iff.mpr ⟨_, others, mine⟩
      refine .inl ⟨?_, (sent_effect effect (by omega) (by omega)).trans unsent⟩
      simp only [List.mem_append, List.mem_cons] at others ⊢
      tauto
    · have actor : p = .delivering r ch := by
        cases turn with
        | begins q o => exact absurd (List.mem_append_left [] member) others
        | goes i _ _ _ _ _ split =>
            rw [split] at member
            simp only [List.mem_append, List.mem_cons] at member others
            tauto
      subst actor
      have gone : (before ++ after).countP (Phase.delivers ch) = 0 := by
        rw [List.countP_singleton, if_pos mine] at parts
        omega
      refine .inr ⟨⟨?_, ?_, ?_⟩, sentTo_offer_of_unsent inside unsent⟩
      · exact inside.trans_eq length_channels_offer.symm
      · exact none
      · rw [List.countP_append] at gone ⊢
        simp only [next, List.countP_cons, Phase.delivers]
        simpa using gone

theorem delivered_run {r : CommandResultData} {ch : Nat} {es : List Event} (bounded : Bounded w)
    (delivered : Delivered w r ch) : Delivered (es.foldl step w) r ch := by
  induction es generalizing w with
  | nil => exact delivered
  | cons e es ih =>
      apply ih (bounded_step bounded e)
      rcases delivered with ⟨member, _⟩ | ⟨closed, sent⟩
      · exact delivered_step bounded member e
      · obtain ⟨closed', same⟩ := closed_step closed e
        exact .inr ⟨closed', same.trans sent⟩

/-- How a command leaves the map with an event, and what its channel has at the end of the run. -/
inductive Outcome (w : World) (e : Event) (final : World) (id : String) (p : PendingCommand) :
    Prop where
  | completed (r : CommandResultData) (o : Outside) :
      Thread.actor start w e = some (.completing r, o) → r.id = id →
      Delivered final r p.result → Outcome w e final id p
  | expired (timeout now : Int) (rest : List String) (n : Nat) (o : Outside) :
      Thread.actor start w e = some (.sweeping timeout now rest n, o) →
      final.shared.sentTo p.result = [timedOut id] → Outcome w e final id p
  | removed (o : Outside) : Thread.actor start w e = some (.removing id, o) →
      final.shared.sentTo p.result = [] → Outcome w e final id p

theorem lookup_erase_of_changed {t : Tracker} {id id' : String} {p : PendingCommand}
    (lookup : t.pending.lookup id = some p)
    (changed : (t.erase id').pending.lookup id ≠ some p) : id' = id := by
  by_contra other
  apply changed
  rw [Tracker.erase, AList.lookup_erase_ne (Ne.symm other), lookup]

theorem outcome_of_departure {id : String} {p : PendingCommand} {after : List Event}
    (bounded : Bounded w) (once : claims w.shared (Thread.called start w e) id ≤ 1)
    (lookup : w.shared.pending.lookup id = some p)
    (changed : (step w e).shared.pending.lookup id ≠ some p) :
    Outcome w e (after.foldl step (step w e)) id p := by
  have bounded' := bounded_step bounded e
  obtain ⟨inside, unsent, no_entry, no_call⟩ := entry_alone bounded lookup
  rcases step_cases w e with same | ⟨q, o, before, others, acts, turn, moved⟩
  · rw [same] at changed
    exact absurd lookup changed
  · have effect := effect_next o w.shared q
    rw [pool_of_turn p.result turn] at no_call
    obtain ⟨q', t', nexts⟩ : ∃ q' t', next o w.shared q = (q', t') := ⟨_, _, rfl⟩
    rw [nexts] at moved effect
    rw [moved] at changed bounded' ⊢
    cases effect with
    | idle _ _ _ _ _ pending _ _ =>
        change t'.pending.lookup id ≠ some p at changed
        rw [pending] at changed
        exact absurd lookup changed
    | add cmd =>
        have same : cmd.id = id := by
          by_contra other
          apply changed
          exact (AList.lookup_insert_ne (Ne.symm other)).trans lookup
        have inside : id ∈ w.shared.pending := AList.lookup_isSome.mp (by simp [lookup])
        rw [turn.called_eq, claims, if_pos inside, Thread.countP_middle, List.countP_singleton] at once
        simp only [Phase.holds, same, decide_true, if_true] at once
        omega
    | take r found there =>
        obtain rfl := lookup_erase_of_changed lookup changed
        obtain rfl := Option.some.inj (there.symm.trans lookup)
        refine .completed r o acts rfl (delivered_run bounded' (.inl ⟨?_, unsent⟩))
        exact List.mem_append_right before List.mem_cons_self
    | deliver r c => exact absurd lookup changed
    | remove gone =>
        obtain rfl := lookup_erase_of_changed lookup changed
        have closed : Closed ⟨w.shared.erase gone, before ++ .removed :: others, false⟩ p.result :=
          ⟨inside, no_entry, by rw [Thread.countP_middle]; exact no_call⟩
        exact .removed o acts ((closed_run closed).2.trans unsent)
    | expire timeout now rest rest' n n' gone found there =>
        obtain rfl := lookup_erase_of_changed lookup changed
        obtain rfl := Option.some.inj (there.symm.trans lookup)
        have sent : ((w.shared.offer found.result (timedOut gone)).erase gone).sentTo found.result =
            [timedOut gone] := sentTo_offer_of_unsent inside unsent
        have closed : Closed ⟨(w.shared.offer found.result (timedOut gone)).erase gone,
            before ++ .sweeping timeout now rest' n' :: others, false⟩ found.result :=
          ⟨inside.trans_eq length_channels_offer.symm, no_entry,
            by rw [Thread.countP_middle]; exact no_call⟩
        exact .expired timeout now rest n o acts ((closed_run closed).2.trans sent)

/-- The call of `Complete` has returned true for a result of the command. -/
def Phase.accepted (id : String) : Phase → Bool
  | completed result known => known && result.id = id
  | _ => false

/-- Every command of the run has at most one outcome, and its channel tells which. -/
structure OneOutcome (es : List Event) : Prop where
  once : ∀ ch, ((run es).shared.sentTo ch).length ≤ 1
  outcome : ∀ before e after, es = before ++ e :: after → ∀ id p,
    (run before).shared.pending.lookup id = some p →
      (step (run before) e).shared.pending.lookup id ≠ some p →
        Outcome (run before) e (run es) id p
  single : ∀ id, (run es).pool.countP (Phase.accepted id) ≤ 1

theorem accepted_holds (id : String) (p : Phase) (accepted : p.accepted id = true) :
    p.holds id = true := by
  cases p <;> first | exact accepted | exact nomatch accepted

theorem oneOutcome_of_distinct (es : List Event) (distinct : (es.filterMap addedId).Nodup) :
    OneOutcome es := by
  refine ⟨?_, ?_, ?_⟩
  · intro ch
    have here := bounded_run es ch
    have most := capacity_le (run es).shared ch
    rw [weight] at here
    omega
  · rintro before e after rfl id p lookup changed
    have whole : run (before ++ e :: after) = after.foldl step (step (run before) e) := by
      simp [run]
    rw [whole]
    apply outcome_of_departure (bounded_run before) ?_ lookup changed
    have sofar := claims_run_le before id
    have last := claims_called_le (run before) e id
    have added : ((before ++ e :: after).filterMap addedId).count id ≤ 1 :=
      List.nodup_iff_count_le_one.mp distinct id
    have split : (e :: after).filterMap addedId =
        (addedId e).toList ++ after.filterMap addedId := by
      cases known : addedId e <;> simp [known]
    rw [List.filterMap_append, split, List.count_append, List.count_append] at added
    omega
  · intro id
    have held := claims_run_le es id
    have added : (es.filterMap addedId).count id ≤ 1 := List.nodup_iff_count_le_one.mp distinct id
    have accepted : (run es).pool.countP (Phase.accepted id) ≤
        (run es).pool.countP (Phase.holds id) :=
      List.countP_mono_left fun p _ => accepted_holds id p
    rw [claims] at held
    omega

def traffic : List Event :=
  let start : CommandData := ⟨"a", "vm_start", []⟩
  let stop : CommandData := ⟨"b", "vm_stop", []⟩
  let done : CommandResultData := ⟨"a", true, "UPID:pve1:a:", "", ""⟩
  let tick : Outside := ⟨100, "b"⟩
  [.begins (.add start) ⟨0, ""⟩, .begins (.add stop) ⟨0, ""⟩, .begins (.complete done) tick,
    .begins (.complete done) tick, .goes 2 tick, .begins (.cleanupStale 60) tick, .goes 4 tick,
    .goes 4 tick, .goes 4 tick]

example : (run traffic).shared.sentTo 0 = [⟨"a", true, "UPID:pve1:a:", "", ""⟩] ∧
    (run traffic).shared.sentTo 1 = [timedOut "b"] := by decide

theorem oneOutcome_of_traffic : (traffic.filterMap addedId).Nodup ∧ OneOutcome traffic :=
  ⟨by decide, oneOutcome_of_distinct traffic (by decide)⟩

end Runs

end CommandTracker
