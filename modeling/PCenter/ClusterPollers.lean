import PCenter.Lib.Transition
import PCenter.State

/-!
# The pollers of the clusters

`AddCluster`, `RemoveCluster`, `Reconcile` and `Start` of `internal/poller/poller.go`. A
`ClusterPoller` runs in a goroutine of its own, and the function that stops the goroutine is a
field of the `ClusterPoller`. The map holds one `ClusterPoller` for each name; one that has been
replaced there is out of reach of `RemoveCluster`, whatever its goroutine does.

The goroutine looks for the nodes of its cluster first, and ends when that fails. What it polls
afterwards, the clients and the settings of a cluster are left out.
-/

namespace ClusterPollers

open FiniteMap State Transition

inductive Goroutine where
  | discovering
  | polling
  | cancelled
  | ended
  deriving DecidableEq

def Goroutine.live : Goroutine → Bool
  | discovering => true
  | polling => true
  | cancelled => false
  | ended => false

structure ClusterPoller where
  name : String
  /-- There is none as long as `cancel` is nil. -/
  goroutine : Option Goroutine

structure Poller where
  clusters : Map String Nat
  /-- Every `ClusterPoller` that was made; a pointer is a place in this list. -/
  made : List ClusterPoller
  store : Store
  /-- Whether `ctx` is set. -/
  started : Bool

def new (store : Store) : Poller := ⟨∅, [], store, false⟩

namespace Poller

variable (p : Poller)

def update (i : Nat) (f : Option Goroutine → Option Goroutine) : Poller :=
  { p with made := p.made.modify i fun cp => { cp with goroutine := f cp.goroutine } }

def launch (i : Nat) : Poller := p.update i fun _ => some .discovering

def cancel (i : Nat) : Poller := p.update i (·.map fun _ => .cancelled)

/-- The goroutine is through with `discoverNodes`. -/
def discovered (i : Nat) (found : Bool) : Poller :=
  p.update i fun g => if g = some .discovering then some (if found then .polling else .ended) else g

def prepare (name : String) : Poller :=
  { p with store := p.store.putCluster name (p.store.getOrCreateCluster name) }

def register (name : String) : Poller :=
  { p with clusters := p.clusters.insert name p.made.length, made := p.made ++ [⟨name, none⟩] }

def addCluster (name : String) : Poller :=
  let registered := (p.prepare name).register name
  if registered.started then registered.launch p.made.length else registered

def deregister (name : String) : Poller := { p with clusters := p.clusters.erase name }

def forget (name : String) : Poller := { p with store := p.store.removeCluster name }

def removeCluster (name : String) : Poller :=
  match p.clusters.lookup name with
  | none => p.forget name
  | some i => ((p.deregister name).cancel i).forget name

/-- The names that are not expected, as the iteration over the map comes to them. -/
def orphans (expected order : List String) : List String :=
  inOrder order (p.clusters.keys.filter (· ∉ expected))

def reconcile (expected order : List String) : Poller :=
  (p.orphans expected order).foldl removeCluster p

def start : Poller :=
  (values p.clusters).foldl launch { p with started := true }

/-- The `ClusterPoller` at `i` is for the name, and its goroutine is neither cancelled nor at its end. -/
def polls (name : String) (i : Nat) : Bool :=
  p.made[i]?.any fun cp => cp.name = name && cp.goroutine.any Goroutine.live

end Poller

/-- The calls, and what the goroutines do by themselves. -/
inductive Event where
  | addCluster (name : String)
  | removeCluster (name : String)
  | reconcile (expected order : List String)
  | discovered (i : Nat) (found : Bool)

def step (p : Poller) : Event → Poller
  | .addCluster name => p.addCluster name
  | .removeCluster name => p.removeCluster name
  | .reconcile expected order => p.reconcile expected order
  | .discovered i found => p.discovered i found

/-- `RemoveCluster` statement by statement. -/
def removing (p : Poller) (name : String) : List Poller :=
  match p.clusters.lookup name with
  | none => [p.forget name]
  | some i => [p.deregister name, (p.deregister name).cancel i, p.removeCluster name]

def dropping : Poller → List String → List Poller
  | _, [] => []
  | p, name :: rest => removing p name ++ dropping (p.removeCluster name) rest

/-- What an event passes through. -/
def within (p : Poller) : Event → List Poller
  | .addCluster name => [p.prepare name, (p.prepare name).register name, p.addCluster name]
  | .removeCluster name => removing p name
  | .reconcile expected order => dropping p (p.orphans expected order)
  | .discovered i found => [p.discovered i found]

/-- After this call nothing is to poll the cluster. -/
def Event.Stops (name : String) : Event → Prop
  | .removeCluster removed => removed = name
  | .reconcile expected _ => name ∉ expected
  | _ => False

def OnePollerEach (p : Poller) : Prop :=
  ∀ name i j, p.polls name i = true → p.polls name j = true → i = j

/-- At every moment of the run one goroutine at most polls for a name, and none after a call that
stops the name until it is added again. -/
structure OneLivePoller (p : Poller) (es : List Event) : Prop where
  one : ∀ w ∈ moments step within p es, OnePollerEach w
  stopped : ∀ before e after later name, es = before ++ e :: (after ++ later) → e.Stops name →
    (∀ a ∈ after, a ≠ .addCluster name) →
      ∀ w ∈ moments step within (step (before.foldl step p) e) after, ∀ i, w.polls name i = false

/-- `AddCluster` finds no goroutine to replace. -/
def Fresh (p : Poller) : Event → Prop
  | .addCluster name => ∀ i, p.clusters.lookup name = some i → p.polls name i = false
  | _ => True

section Polls

variable {p : Poller} {name : String} {i j : Nat}

theorem polls_iff : p.polls name i = true ↔
    ∃ cp, p.made[i]? = some cp ∧ cp.name = name ∧ cp.goroutine.any Goroutine.live = true := by
  unfold Poller.polls
  cases p.made[i]? with
  | none => simp
  | some cp => simp

theorem lt_of_polls (live : p.polls name i = true) : i < p.made.length := by
  obtain ⟨cp, found, -⟩ := polls_iff.mp live
  exact (List.getElem?_eq_some_iff.mp found).1

theorem made_update (f : Option Goroutine → Option Goroutine) :
    (p.update i f).made[j]? =
      p.made[j]?.map fun cp => if i = j then { cp with goroutine := f cp.goroutine } else cp := by
  simp only [Poller.update, List.getElem?_modify]
  by_cases same : i = j
  · simp [same]
  · simp [same]

theorem polls_update_of_ne {f : Option Goroutine → Option Goroutine} (other : i ≠ j) :
    (p.update i f).polls name j = p.polls name j := by
  unfold Poller.polls
  rw [made_update]
  simp [other]

theorem polls_of_update {f : Option Goroutine → Option Goroutine}
    (revives : ∀ g, (f g).any Goroutine.live = true → g.any Goroutine.live = true)
    (live : (p.update i f).polls name j = true) : p.polls name j = true := by
  obtain ⟨cp', found, named, goes⟩ := polls_iff.mp live
  rw [made_update] at found
  obtain ⟨cp, old, rfl⟩ := Option.map_eq_some_iff.mp found
  apply polls_iff.mpr
  by_cases same : i = j
  · simp only [same, if_true] at named goes
    exact ⟨cp, old, named, revives _ goes⟩
  · simp only [same, if_false] at named goes
    exact ⟨cp, old, named, goes⟩

theorem polls_cancel_self : (p.cancel i).polls name i = false := by
  unfold Poller.cancel Poller.polls
  rw [made_update]
  have dead : ∀ g : Option Goroutine,
      (g.map fun _ => Goroutine.cancelled).any Goroutine.live = false := by
    intro g
    cases g <;> rfl
  cases p.made[i]? with
  | none => rfl
  | some cp => simp [dead]

theorem polls_of_cancel (live : (p.cancel i).polls name j = true) : p.polls name j = true := by
  apply polls_of_update _ live
  intro g goes
  cases g <;> simp [Goroutine.live] at goes

theorem polls_of_discovered {found : Bool} (live : (p.discovered i found).polls name j = true) :
    p.polls name j = true := by
  apply polls_of_update _ live
  intro g goes
  split at goes
  · simp_all [Goroutine.live]
  · exact goes

theorem polls_launch : (p.launch i).polls name j =
    if i = j then (p.made[j]?.any fun cp => cp.name = name) else p.polls name j := by
  by_cases same : i = j
  · subst same
    unfold Poller.launch Poller.polls
    rw [made_update]
    cases p.made[i]? <;> simp [Goroutine.live]
  · rw [if_neg same]
    exact polls_update_of_ne same

theorem polls_register (n : String) : (p.register name).polls n j = p.polls n j := by
  unfold Poller.polls Poller.register
  rw [List.getElem?_append]
  split
  · rfl
  · rename_i beyond
    have missing : p.made[j]? = none := List.getElem?_eq_none (by omega)
    rw [missing]
    cases j - p.made.length <;> simp

theorem polls_addCluster_iff {n : String} : (p.addCluster name).polls n j = true ↔
    p.polls n j = true ∨ p.started = true ∧ n = name ∧ j = p.made.length := by
  by_cases started : p.started = true
  · have launched : p.addCluster name = ((p.prepare name).register name).launch p.made.length :=
      if_pos started
    rw [launched, polls_launch]
    by_cases here : p.made.length = j
    · have unborn : p.polls n j = false := by
        simp [Poller.polls, List.getElem?_eq_none (Nat.le_of_eq here)]
      have last : ((p.prepare name).register name).made[j]? = some ⟨name, none⟩ := by
        subst here
        exact List.getElem?_concat_length
      simp [here, last, unborn, started, eq_comm]
    · rw [if_neg here, polls_register]
      simp [Ne.symm here, Poller.polls, Poller.prepare]
  · have idle : p.addCluster name = (p.prepare name).register name := if_neg started
    rw [idle, polls_register]
    simp [started, Poller.polls, Poller.prepare]

theorem polls_of_removing {n : String} {w : Poller} (member : w ∈ removing p name)
    (live : w.polls n j = true) : p.polls n j = true := by
  unfold removing at member
  cases found : p.clusters.lookup name with
  | none =>
      rw [found] at member
      obtain rfl := List.mem_singleton.mp member
      exact live
  | some i =>
      have removed : p.removeCluster name = ((p.deregister name).cancel i).forget name := by
        simp [Poller.removeCluster, found]
      rw [found] at member
      simp only [List.mem_cons, List.not_mem_nil, or_false, removed] at member
      rcases member with rfl | rfl | rfl
      · exact live
      · exact polls_of_cancel live
      · exact polls_of_cancel live

theorem removeCluster_mem_removing : p.removeCluster name ∈ removing p name := by
  unfold removing
  cases found : p.clusters.lookup name with
  | none => simp [Poller.removeCluster, found]
  | some i => simp

theorem polls_removeCluster_of_lookup {n : String} (known : p.clusters.lookup name = some i) :
    (p.removeCluster name).polls n i = false := by
  simp only [Poller.removeCluster, known]
  exact polls_cancel_self

theorem lookup_removeCluster (n : String) : (p.removeCluster name).clusters.lookup n =
    if n = name then none else p.clusters.lookup n := by
  unfold Poller.removeCluster
  cases found : p.clusters.lookup name with
  | none =>
      by_cases same : n = name
      · subst same
        simpa [Poller.forget] using found
      · simp [same, Poller.forget]
  | some i =>
      by_cases same : n = name
      · subst same
        simp [Poller.forget, Poller.cancel, Poller.update, Poller.deregister]
      · simp [same, Poller.forget, Poller.cancel, Poller.update, Poller.deregister]

theorem polls_of_dropping {n : String} {names : List String} {w : Poller}
    (member : w ∈ dropping p names) (live : w.polls n j = true) : p.polls n j = true := by
  induction names generalizing p with
  | nil => cases member
  | cons first rest ih =>
      rcases List.mem_append.mp member with here | later
      · exact polls_of_removing here live
      · exact polls_of_removing removeCluster_mem_removing (ih later)

theorem polls_of_within {n : String} {e : Event} {w : Poller} (member : w ∈ within p e)
    (live : w.polls n j = true) :
    p.polls n j = true ∨ p.started = true ∧ e = .addCluster n ∧ j = p.made.length := by
  cases e with
  | addCluster name =>
      simp only [within, List.mem_cons, List.not_mem_nil, or_false] at member
      rcases member with rfl | rfl | rfl
      · exact .inl live
      · rw [polls_register] at live
        exact .inl live
      · rcases polls_addCluster_iff.mp live with old | ⟨started, rfl, last⟩
        · exact .inl old
        · exact .inr ⟨started, rfl, last⟩
  | removeCluster name => exact .inl (polls_of_removing member live)
  | reconcile expected order => exact .inl (polls_of_dropping member live)
  | discovered i found =>
      obtain rfl := List.mem_singleton.mp member
      exact .inl (polls_of_discovered live)

theorem polls_of_foldl_removeCluster {n : String} {names : List String}
    (live : (names.foldl Poller.removeCluster p).polls n j = true) : p.polls n j = true := by
  induction names generalizing p with
  | nil => exact live
  | cons first rest ih => exact polls_of_removing removeCluster_mem_removing (ih live)

theorem polls_of_step {n : String} {e : Event} (live : (step p e).polls n j = true) :
    p.polls n j = true ∨ p.started = true ∧ e = .addCluster n ∧ j = p.made.length := by
  cases e with
  | addCluster name => exact polls_of_within (by simp [within, step]) live
  | removeCluster name => exact .inl (polls_of_removing removeCluster_mem_removing live)
  | reconcile expected order => exact .inl (polls_of_foldl_removeCluster live)
  | discovered i found => exact .inl (polls_of_discovered live)

theorem mem_orphans {expected order : List String} : name ∈ p.orphans expected order ↔
    (p.clusters.lookup name).isSome ∧ name ∉ expected := by
  simp [Poller.orphans, mem_inOrder, AList.lookup_isSome, AList.mem_keys]

theorem lookup_foldl_removeCluster (n : String) (names : List String) :
    (names.foldl Poller.removeCluster p).clusters.lookup n =
      if n ∈ names then none else p.clusters.lookup n := by
  induction names generalizing p with
  | nil => simp
  | cons first rest ih =>
      rw [List.foldl_cons, ih, lookup_removeCluster]
      by_cases here : n = first
      · simp [here]
      · simp [here]

theorem lookup_reconcile (expected order : List String) (n : String) :
    (p.reconcile expected order).clusters.lookup n =
      if n ∈ expected then p.clusters.lookup n else none := by
  unfold Poller.reconcile
  rw [lookup_foldl_removeCluster]
  by_cases wanted : n ∈ expected
  · simp [mem_orphans, wanted]
  · cases found : p.clusters.lookup n <;> simp [mem_orphans, wanted, found]

end Polls

section Runs

variable {p : Poller} {name : String} {i j : Nat}

/-- Whatever polls can be stopped through the map. -/
structure Tidy (p : Poller) : Prop where
  started : p.started = true
  registered : ∀ name i, p.polls name i = true → p.clusters.lookup name = some i

theorem Tidy.removeCluster (tidy : Tidy p) : Tidy (p.removeCluster name) := by
  refine ⟨?_, fun n j live => ?_⟩
  · have started := tidy.started
    unfold Poller.removeCluster
    split
    · exact started
    · exact started
  · have before := tidy.registered n j (polls_of_removing removeCluster_mem_removing live)
    rw [lookup_removeCluster, if_neg]
    · exact before
    · rintro rfl
      rw [polls_removeCluster_of_lookup before] at live
      cases live

theorem Tidy.foldl_removeCluster (tidy : Tidy p) (names : List String) :
    Tidy (names.foldl Poller.removeCluster p) := by
  induction names generalizing p with
  | nil => exact tidy
  | cons first rest ih => exact ih tidy.removeCluster

theorem Tidy.addCluster (tidy : Tidy p) (fresh : Fresh p (.addCluster name)) :
    Tidy (p.addCluster name) := by
  have made : (p.addCluster name).started = true ∧
      (p.addCluster name).clusters = p.clusters.insert name p.made.length := by
    unfold Poller.addCluster
    simp only
    split
    · exact ⟨tidy.started, rfl⟩
    · exact ⟨tidy.started, rfl⟩
  refine ⟨made.1, fun n j live => ?_⟩
  rw [made.2, lookup_insert_eq]
  rcases polls_addCluster_iff.mp live with old | ⟨-, rfl, rfl⟩
  · have known := tidy.registered n j old
    rw [if_neg]
    · exact known
    · rintro rfl
      rw [fresh j known] at old
      cases old
  · exact if_pos rfl

theorem Tidy.step (tidy : Tidy p) {e : Event} (fresh : Fresh p e) : Tidy (step p e) := by
  cases e with
  | addCluster name => exact tidy.addCluster fresh
  | removeCluster name => exact tidy.removeCluster
  | reconcile expected order => exact tidy.foldl_removeCluster _
  | discovered i found => exact ⟨tidy.started, fun n j live =>
      tidy.registered n j (polls_of_discovered live)⟩

theorem Tidy.onePollerEach (tidy : Tidy p) : OnePollerEach p := by
  intro name i j first second
  have left := tidy.registered name i first
  have right := tidy.registered name j second
  exact Option.some.inj (left.symm.trans right)

theorem Tidy.none_of_fresh (tidy : Tidy p) (fresh : Fresh p (.addCluster name)) :
    p.polls name i = false := by
  by_contra live
  have polled : p.polls name i = true := by simpa using live
  exact live (fresh i (tidy.registered name i polled))

theorem Tidy.onePollerEach_within (tidy : Tidy p) {e : Event} (fresh : Fresh p e) {w : Poller}
    (member : w ∈ within p e) : OnePollerEach w := by
  intro name i j first second
  rcases polls_of_within member first with old | ⟨-, rfl, rfl⟩
  · rcases polls_of_within member second with other | ⟨-, rfl, -⟩
    · exact tidy.onePollerEach name i j old other
    · rw [tidy.none_of_fresh fresh] at old
      cases old
  · rcases polls_of_within member second with other | ⟨-, -, rfl⟩
    · rw [tidy.none_of_fresh fresh] at other
      cases other
    · rfl

theorem fresh_of_onePollerEach (started : p.started = true) {e : Event}
    (one : OnePollerEach (step p e)) : Fresh p e := by
  cases e with
  | addCluster name =>
      intro i _
      by_contra live
      have polled : p.polls name i = true := by simpa using live
      have old : (p.addCluster name).polls name i = true := polls_addCluster_iff.mpr (.inl polled)
      have new : (p.addCluster name).polls name p.made.length = true :=
        polls_addCluster_iff.mpr (.inr ⟨started, rfl, rfl⟩)
      have same := one name i p.made.length old new
      have before := lt_of_polls polled
      omega
  | removeCluster name => trivial
  | reconcile expected order => trivial
  | discovered i found => trivial

theorem Tidy.one_iff (tidy : Tidy p) (e : Event) :
    (∀ w ∈ within p e, OnePollerEach w) ∧ OnePollerEach (ClusterPollers.step p e) ↔ Fresh p e := by
  constructor
  · rintro ⟨-, one⟩
    exact fresh_of_onePollerEach tidy.started one
  · intro fresh
    refine ⟨fun w member => tidy.onePollerEach_within fresh member, ?_⟩
    exact (tidy.step fresh).onePollerEach

theorem Tidy.none_of_stops (tidy : Tidy p) {e : Event} (stops : e.Stops name) :
    (ClusterPollers.step p e).polls name i = false := by
  by_contra live
  have polled : (ClusterPollers.step p e).polls name i = true := by simpa using live
  cases e with
  | removeCluster removed =>
      obtain rfl : removed = name := stops
      have kept : Tidy (p.removeCluster removed) := tidy.removeCluster
      have known := kept.registered removed i polled
      rw [lookup_removeCluster, if_pos rfl] at known
      cases known
  | reconcile expected order =>
      have known := (tidy.foldl_removeCluster _).registered name i polled
      have gone := lookup_reconcile (p := p) expected order name
      rw [if_neg stops] at gone
      rw [Poller.reconcile] at gone
      rw [gone] at known
      cases known
  | addCluster added => exact stops.elim
  | discovered i found => exact stops.elim

theorem none_of_unadded {es : List Event} (unadded : ∀ e ∈ es, e ≠ .addCluster name)
    (idle : ∀ i, p.polls name i = false) :
    ∀ w ∈ moments step within p es, ∀ i, w.polls name i = false := by
  induction es generalizing p with
  | nil =>
      intro w member
      obtain rfl := List.mem_singleton.mp member
      exact idle
  | cons e es ih =>
      have still : ∀ w : Poller, w ∈ within p e ∨ w = step p e → ∀ i, w.polls name i = false := by
        intro w passed i
        by_contra live
        have polled : w.polls name i = true := by simpa using live
        have cause : p.polls name i = true ∨
            p.started = true ∧ e = .addCluster name ∧ i = p.made.length := by
          rcases passed with inside | rfl
          · exact polls_of_within inside polled
          · exact polls_of_step polled
        rcases cause with old | ⟨-, added, -⟩
        · rw [idle i] at old
          cases old
        · exact unadded e List.mem_cons_self added
      intro w member
      rcases List.mem_append.mp member with first | later
      · rcases List.mem_cons.mp first with rfl | inside
        · exact idle
        · exact still w (.inl inside)
      · apply ih (fun a inside => unadded a (List.mem_cons_of_mem e inside)) _ w later
        exact still _ (.inr rfl)

/-- In a run from a tidy poller, the claim of one goroutine for a name comes down to the names
that are added. -/
theorem Tidy.oneLivePoller_iff (tidy : Tidy p) (es : List Event) :
    OneLivePoller p es ↔ Along ClusterPollers.step Fresh p es := by
  have decided : (∀ w ∈ moments ClusterPollers.step within p es, OnePollerEach w) ↔
      Along ClusterPollers.step Fresh p es := by
    rw [forall_moments_iff, and_iff_right tidy.onePollerEach]
    have kept : ∀ p e, Tidy p → Fresh p e → Tidy (ClusterPollers.step p e) :=
      fun _ _ tidy fresh => tidy.step fresh
    exact along_congr_of_kept kept (fun _ e tidy => tidy.one_iff e) tidy es
  constructor
  · intro run
    exact decided.mp run.one
  · intro along
    refine ⟨decided.mpr along, ?_⟩
    rintro before e after later name rfl stops unadded
    have first : Along ClusterPollers.step Fresh p before := ((along_append ..).mp along).1
    have reached : Tidy (before.foldl ClusterPollers.step p) := by
      apply invariant_along _ tidy first _ (last_mem_states p before)
      exact fun _ _ tidy fresh => tidy.step fresh
    exact none_of_unadded unadded fun i => reached.none_of_stops stops

end Runs

section Start

variable {p : Poller} {name : String} {i j : Nat}

/-- A poller before `Start`. -/
structure Waiting (p : Poller) : Prop where
  down : p.started = false
  asleep : ∀ name i, p.polls name i = false
  named : ∀ name i, p.clusters.lookup name = some i → (p.made[i]?.map (·.name)) = some name

theorem name_update (f : Option Goroutine → Option Goroutine) :
    (p.update i f).made[j]?.map (·.name) = p.made[j]?.map (·.name) := by
  rw [made_update]
  cases p.made[j]? with
  | none => rfl
  | some cp =>
      by_cases same : i = j
      · simp [same]
      · simp [same]

theorem name_removeCluster :
    (p.removeCluster name).made[j]?.map (·.name) = p.made[j]?.map (·.name) := by
  unfold Poller.removeCluster
  split
  · rfl
  · exact name_update _

theorem name_foldl_removeCluster (names : List String) :
    (names.foldl Poller.removeCluster p).made[j]?.map (·.name) = p.made[j]?.map (·.name) := by
  induction names generalizing p with
  | nil => rfl
  | cons first rest ih => exact ih.trans name_removeCluster

theorem started_removeCluster : (p.removeCluster name).started = p.started := by
  unfold Poller.removeCluster
  split
  · rfl
  · rfl

theorem started_foldl_removeCluster (names : List String) :
    (names.foldl Poller.removeCluster p).started = p.started := by
  induction names generalizing p with
  | nil => rfl
  | cons first rest ih => exact ih.trans started_removeCluster

theorem Waiting.step (waiting : Waiting p) (e : Event) : Waiting (step p e) := by
  have asleep : ∀ name i, (ClusterPollers.step p e).polls name i = false := by
    intro name i
    by_contra live
    rcases polls_of_step (by simpa using live) with old | ⟨up, -, -⟩
    · rw [waiting.asleep name i] at old
      cases old
    · rw [waiting.down] at up
      cases up
  cases e with
  | addCluster name =>
      have down : ¬ p.started = true := by simp [waiting.down]
      have idle : p.addCluster name = (p.prepare name).register name := if_neg down
      refine ⟨by rw [ClusterPollers.step, idle]; exact waiting.down, asleep, fun n i known => ?_⟩
      rw [ClusterPollers.step, idle] at known ⊢
      have placed : (p.clusters.insert name p.made.length).lookup n = some i := known
      rw [lookup_insert_eq] at placed
      split at placed
      · rename_i same
        obtain rfl := Option.some.inj placed
        simp [Poller.register, Poller.prepare, same]
      · have old := waiting.named n i placed
        obtain ⟨cp, found, -⟩ := Option.map_eq_some_iff.mp old
        have inside : i < p.made.length := (List.getElem?_eq_some_iff.mp found).1
        have same : ((p.prepare name).register name).made[i]? = p.made[i]? :=
          List.getElem?_append_left inside
        rw [same]
        exact old
  | removeCluster name =>
      refine ⟨started_removeCluster.trans waiting.down, asleep, fun n i known => ?_⟩
      rw [ClusterPollers.step, lookup_removeCluster] at known
      split at known
      · cases known
      · exact name_removeCluster.trans (waiting.named n i known)
  | reconcile expected order =>
      refine ⟨(started_foldl_removeCluster _).trans waiting.down, asleep, fun n i known => ?_⟩
      rw [ClusterPollers.step, lookup_reconcile] at known
      split at known
      · exact (name_foldl_removeCluster _).trans (waiting.named n i known)
      · cases known
  | discovered i found =>
      exact ⟨waiting.down, asleep, fun n j known =>
        (name_update _).trans (waiting.named n j known)⟩

theorem waiting_foldl (store : Store) (es : List Event) :
    Waiting (es.foldl step (new store)) := by
  have start : Waiting (new store) := ⟨rfl, fun _ _ => rfl, fun _ _ known => by cases known⟩
  exact invariant_foldl (P := Waiting) (fun _ e waiting => waiting.step e) start es

theorem foldl_launch (targets : List Nat) :
    (targets.foldl Poller.launch p).started = p.started ∧
      (targets.foldl Poller.launch p).clusters = p.clusters := by
  induction targets generalizing p with
  | nil => exact ⟨rfl, rfl⟩
  | cons first rest ih => exact ih

theorem polls_of_foldl_launch {targets : List Nat}
    (live : (targets.foldl Poller.launch p).polls name j = true) :
    p.polls name j = true ∨ j ∈ targets ∧ p.made[j]?.map (·.name) = some name := by
  induction targets generalizing p with
  | nil => exact .inl live
  | cons first rest ih =>
      rcases ih live with now | ⟨later, named⟩
      · rw [polls_launch] at now
        split at now
        · rename_i same
          refine .inr ⟨same ▸ List.mem_cons_self, ?_⟩
          cases found : p.made[j]? with
          | none => simp [found] at now
          | some cp => simpa [found] using now
        · exact .inl now
      · exact .inr ⟨List.mem_cons_of_mem first later, (name_update _).symm.trans named⟩

theorem Waiting.start (waiting : Waiting p) : Tidy p.start := by
  obtain ⟨started, clusters⟩ := @foldl_launch { p with started := true } (values p.clusters)
  refine ⟨started, fun name i live => ?_⟩
  rcases polls_of_foldl_launch live with old | ⟨target, named⟩
  · have asleep := waiting.asleep name i
    exact absurd old (by simpa [Poller.polls] using asleep)
  · obtain ⟨key, known⟩ := mem_values_iff.mp target
    have same : some key = some name := (waiting.named key i known).symm.trans named
    rw [Poller.start, clusters, ← Option.some.inj same]
    exact known

end Start

/-- On a started poller one goroutine at most polls for a name, and none after the name was
removed, exactly when `AddCluster` is called for no name that is being polled. -/
theorem one_live_poller_iff (store : Store) (before calls : List Event) :
    OneLivePoller (before.foldl step (new store)).start calls ↔
      Along step Fresh (before.foldl step (new store)).start calls :=
  (waiting_foldl store before).start.oneLivePoller_iff calls

/-- What the promotion of a host to a cluster calls. -/
def onPromote (agentName name : String) : Event :=
  .addCluster (if agentName = "" then name else agentName)

/-- What a finished join job calls: it knows that the cluster is polled already. -/
def joined (hostIDs : List String) (agentName : String) : List Event :=
  hostIDs.map (fun id => Event.removeCluster ("standalone:" ++ id)) ++
    [Event.removeCluster agentName, .addCluster agentName]

/-- The join job removes what it adds, and so replaces no goroutine. -/
theorem along_joined (p : Poller) (hostIDs : List String) (agentName : String) :
    Along step Fresh p (joined hostIDs agentName) := by
  have removals : ∀ p, Along step Fresh p
      (hostIDs.map fun id => Event.removeCluster ("standalone:" ++ id)) := by
    induction hostIDs with
    | nil => exact fun _ => trivial
    | cons id rest ih => exact fun p => ⟨trivial, ih _⟩
  apply (along_append ..).mpr
  refine ⟨removals p, trivial, ?_, trivial⟩
  intro i known
  rw [step, lookup_removeCluster, if_pos rfl] at known
  cases known

/-- A second host is promoted to `prod`, which is polled through its first one; then the cluster
is removed, and its first goroutine stays. -/
def promotedTwice : List Event :=
  [onPromote "prod" "Production", onPromote "prod" "Production", .removeCluster "prod"]

theorem promoted_twice_polls_on :
    ¬ OneLivePoller (new ⟨∅⟩).start promotedTwice ∧
      (promotedTwice.foldl step (new ⟨∅⟩).start).polls "prod" 0 = true := by
  have remains : (promotedTwice.foldl step (new ⟨∅⟩).start).polls "prod" 0 = true := by
    decide +kernel
  refine ⟨fun run => ?_, remains⟩
  let twice := [onPromote "prod" "Production", onPromote "prod" "Production"]
  have stopped := run.stopped twice (.removeCluster "prod") [] [] "prod" rfl rfl
    (fun _ member => by cases member) _ (List.mem_singleton_self _) 0
  exact Bool.noConfusion (stopped.symm.trans remains)

end ClusterPollers
