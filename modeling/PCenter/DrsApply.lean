import PCenter.Handlers
import PCenter.Lib.Slice
import PCenter.Lib.Thread

/-!
# Applying a recommendation

`ApplyDRSRecommendation` and `DismissDRSRecommendation` of `internal/api/handlers.go` beside the
refreshes of `runDRSAnalysis`, over the lists of recommendations in `internal/state/state.go`.
A request gets a slice under the lock and goes through it without; what it has found is a pointer
into the array that a removal closes up in place. Every recommendation that is put into a list
gets a number here, and every request remembers which ones had been dismissed before it began.
Migrations in progress and the log of activities are left out.
-/

namespace DrsApply

open Handlers (DRSRecommendation Client drsGuestType)
open GuestTasks (TaskCall)
open Slices Transition

/-- A recommendation as it was put into the list of a cluster. -/
structure Listed where
  number : ℕ
  cluster : String
  body : DRSRecommendation
  deriving DecidableEq, Repr

/-- A call of `MigrateVM` or `MigrateContainer`, and what had been dismissed before its request
began. -/
structure Call where
  number : ℕ
  client : Client
  task : TaskCall
  before : List ℕ
  deriving DecidableEq, Repr

structure Store where
  heap : Heap Listed
  /-- `drsRecommendations` -/
  lists : String → Option Slice
  /-- How many arrays there are, and how many recommendations were listed. -/
  arrays : ℕ
  listed : ℕ
  dismissed : List ℕ
  calls : List Call

def newStore : Store := ⟨fun _ => [], fun _ => none, 0, 0, [], []⟩

def Listed.named (id : String) (x : Listed) : Bool := x.body.id = id

namespace Store

variable (s : Store)

/-- What a cluster's list shows. -/
def view (c : String) : List Listed :=
  match s.lists c with
  | none => []
  | some l => l.view s.heap

/-- The list, and the place in it, that a removal takes out. -/
def removal (c id : String) : Option (Slice × ℕ) :=
  (s.lists c).bind fun l => ((l.view s.heap).findIdx? (·.named id)).map fun i => (l, i)

/-- `RemoveDRSRecommendation` -/
def remove (c id : String) : Store :=
  match s.removal c id with
  | none => s
  | some (l, i) =>
      { s with
        heap := deleteAt s.heap l i
        lists := Function.update s.lists c (some l.shorter) }

/-- A removal on behalf of a user. -/
def dismiss (c id : String) : Store :=
  { s.remove c id with
    dismissed := s.dismissed ++ (((s.view c).find? (·.named id)).map Listed.number).toList }

/-- `SetDRSRecommendations` -/
def set (c : String) (recs : List DRSRecommendation) : Store :=
  { s with
    heap := Function.update s.heap s.arrays
      (recs.mapIdx fun k body => ⟨s.listed + k, c, body⟩)
    lists := Function.update s.lists c (some ⟨s.arrays, recs.length⟩)
    arrays := s.arrays + 1
    listed := s.listed + recs.length }

def migrate (call : Call) : Store := { s with calls := s.calls ++ [call] }

end Store

inductive Request where
  | apply (c id : String)
  | dismiss (c id : String)
  | refresh (c : String) (recs : List DRSRecommendation)

inductive Thread where
  | arriving (c id : String)
  | looking (c id : String) (before : List ℕ)
  | searching (c id : String) (before : List ℕ) (l : Slice) (i : ℕ)
  | found (c id : String) (before : List ℕ) (array place number : ℕ)
  | migrating (c id : String) (before : List ℕ) (array place number : ℕ) (client : Client)
  | awaiting (c id : String) (number : ℕ)
  | removing (c id : String) (number : ℕ)
  | failed (number : ℕ)
  | answered
  | dismissing (c id : String)
  | setting (c : String) (recs : List DRSRecommendation)

structure Outside where
  /-- `getClient` -/
  hasClient : Bool
  migrated : Bool

def request : Request → Thread
  | .apply c id => .arriving c id
  | .dismiss c id => .dismissing c id
  | .refresh c recs => .setting c recs

def migration (client : Client) (before : List ℕ) (x : Listed) : Call where
  number := x.number
  client := client
  task := .migrate (drsGuestType x.body.guestType) x.body.vmid x.body.toNode true
  before := before

def next (o : Outside) (s : Store) : Thread → Thread × Store
  | .arriving c id => (.looking c id s.dismissed, s)
  | .looking c id before =>
      match s.lists c with
      | none => (.answered, s)
      | some l => (.searching c id before l 0, s)
  | .searching c id before l i =>
      match (l.view s.heap)[i]? with
      | none => (.answered, s)
      | some x =>
          if x.named id then (.found c id before l.array i x.number, s)
          else (.searching c id before l (i + 1), s)
  | .found c id before a i number =>
      match (s.heap a)[i]? with
      | none => (.answered, s)
      | some x =>
          if o.hasClient then (.migrating c id before a i number ⟨c, x.body.fromNode⟩, s)
          else (.answered, s)
  | .migrating c id before a i _ client =>
      match (s.heap a)[i]? with
      | none => (.answered, s)
      | some x => (.awaiting c id x.number, s.migrate (migration client before x))
  | .awaiting c id number => (if o.migrated then .removing c id number else .failed number, s)
  | .removing c id _ => (.answered, s.remove c id)
  | .dismissing c id => (.answered, s.dismiss c id)
  | .setting c recs => (.answered, s.set c recs)
  | t => (t, s)

def advance (t : Thread) (o : Outside) (s : Store) : Option (Thread × Store × List Thread) :=
  some ((next o s t).1, (next o s t).2, [])

abbrev World := Thread.World Thread Store

abbrev Event := Thread.Event Request Outside

def step : World → Event → World := Thread.step advance request

def start : World := ⟨newStore, [], false⟩

/-- Every recommendation is called at most once, and never by a request that began after it was
dismissed. -/
def Once (s : Store) : Prop :=
  (s.calls.map Call.number).Nodup ∧ ∀ call ∈ s.calls, call.number ∉ call.before

section Condition

namespace Thread

/-- The request is between its lookup and its answer. -/
def working (c id : String) : Thread → Bool
  | searching c' id' _ _ _ | found c' id' _ _ _ _ | migrating c' id' _ _ _ _ _ | awaiting c' id' _
  | removing c' id' _ => c' = c ∧ id' = id
  | _ => false

/-- The migration of the recommendation was refused. -/
def failedOn (n : ℕ) : Thread → Bool
  | failed number => number = n
  | _ => false

/-- The request sees the array other than it was when the place is deleted. -/
def sees (a i : ℕ) : Thread → Bool
  | searching _ _ _ l _ => l.array = a
  | found _ _ _ array place _ | migrating _ _ _ array place _ _ => array = a ∧ i ≤ place
  | _ => false

end Thread

/-- A lookup finds no other request for the same recommendation under way, and none that failed
on what it will find; a removal does not move what a request is about to migrate. -/
def Undisturbed (s : Store) (pool : List Thread) : Thread → Prop
  | .looking c id _ =>
      (∀ u ∈ pool, u.working c id = false) ∧
        ∀ x ∈ s.view c, x.named id = true → ∀ u ∈ pool, u.failedOn x.number = false
  | .removing c id _ | .dismissing c id =>
      ∀ r ∈ (s.removal c id).toList, ∀ u ∈ pool, u.sees r.1.array r.2 = false
  | _ => True

instance (s : Store) (pool : List Thread) : (t : Thread) → Decidable (Undisturbed s pool t)
  | .looking _ _ _ => inferInstanceAs (Decidable (_ ∧ _))
  | .removing _ _ _ | .dismissing _ _ => inferInstanceAs (Decidable (∀ _ ∈ _, _))
  | .arriving _ _ | .searching _ _ _ _ _ | .found _ _ _ _ _ _ | .migrating _ _ _ _ _ _ _
  | .awaiting _ _ _ | .failed _ | .answered | .setting _ _ => inferInstanceAs (Decidable True)

def Calm (w : World) (e : Event) : Prop :=
  ∀ turn ∈ (Thread.actor request w e).toList, Undisturbed w.shared w.pool turn.1

instance (w : World) (e : Event) : Decidable (Calm w e) :=
  inferInstanceAs (Decidable (∀ _ ∈ _, _))

end Condition

/-- The arrays hold what was listed, and what the lists show is still to be decided on. -/
structure Sound (s : Store) : Prop where
  bound : ∀ a, ∀ x ∈ s.heap a, x.number < s.listed
  agree : ∀ a b, ∀ x ∈ s.heap a, ∀ y ∈ s.heap b, x.number = y.number → a = b ∧ x = y
  fits : ∀ c l, s.lists c = some l → l.array < s.arrays ∧ l.len ≤ (s.heap l.array).length ∧
    ∀ x ∈ s.heap l.array, x.cluster = c
  apart : ∀ c c' l l', s.lists c = some l → s.lists c' = some l' → l.array = l'.array → c = c'
  nodup : ∀ c, ((s.view c).map Listed.number).Nodup
  dismissed : ∀ n ∈ s.dismissed, n < s.listed ∧ ∀ c, ∀ x ∈ s.view c, x.number ≠ n

section Views

variable {s : Store} {c c' id : String} {l : Slice} {i : ℕ}

theorem view_eq (listed : s.lists c = some l) : s.view c = l.view s.heap := by
  rw [Store.view, listed]

theorem view_none (unlisted : s.lists c = none) : s.view c = [] := by
  rw [Store.view, unlisted]

theorem mem_view {x : Listed} (member : x ∈ s.view c) : ∃ l, s.lists c = some l ∧ x ∈ l.view s.heap := by
  cases listed : s.lists c with
  | none => simp [view_none listed] at member
  | some l => exact ⟨l, rfl, by rwa [view_eq listed] at member⟩

theorem mem_heap_of_view {x : Listed} (member : x ∈ l.view s.heap) : x ∈ s.heap l.array :=
  List.mem_of_mem_take member

theorem Sound.cluster_of_view (sound : Sound s) {x : Listed} (member : x ∈ s.view c) :
    x.cluster = c := by
  obtain ⟨l, listed, inside⟩ := mem_view member
  exact (sound.fits c l listed).2.2 x (mem_heap_of_view inside)

theorem Sound.lt_of_view (sound : Sound s) {x : Listed} (member : x ∈ s.view c) :
    x.number < s.listed := by
  obtain ⟨l, listed, inside⟩ := mem_view member
  exact sound.bound l.array x (mem_heap_of_view inside)

theorem removal_eq_some (removed : s.removal c id = some (l, i)) :
    s.lists c = some l ∧ (s.view c).findIdx? (·.named id) = some i := by
  obtain ⟨l', listed, rest⟩ := Option.bind_eq_some_iff.mp removed
  obtain ⟨i', first, same⟩ := Option.map_eq_some_iff.mp rest
  obtain ⟨rfl, rfl⟩ := Prod.mk.inj same
  exact ⟨listed, by rwa [view_eq listed]⟩

theorem eraseP_of_removal_none (nothing : s.removal c id = none) :
    (s.view c).eraseP (·.named id) = s.view c := by
  cases listed : s.lists c with
  | none => simp [view_none listed]
  | some l =>
      have first : (s.view c).findIdx? (·.named id) = none := by
        simpa [Store.removal, listed, view_eq listed] using nothing
      rw [List.eraseP_eq_eraseIdx, first]

theorem Sound.removal_inside (sound : Sound s) (removed : s.removal c id = some (l, i)) :
    i < l.len ∧ l.len ≤ (s.heap l.array).length := by
  obtain ⟨listed, first⟩ := removal_eq_some removed
  have fits := (sound.fits c l listed).2.1
  have inside := (List.findIdx?_eq_some_iff_findIdx_eq.mp first).1
  rw [view_eq listed, Slice.view, List.length_take] at inside
  exact ⟨by omega, fits⟩

theorem view_remove (sound : Sound s) :
    (s.remove c id).view c' =
      if c' = c then (s.view c).eraseP (·.named id) else s.view c' := by
  rw [Store.remove]
  cases removed : s.removal c id with
  | none =>
      by_cases same : c' = c
      · rw [if_pos same, eraseP_of_removal_none removed, same]
      · rw [if_neg same]
  | some r =>
      obtain ⟨l, i⟩ := r
      obtain ⟨listed, first⟩ := removal_eq_some removed
      obtain ⟨inside, fits⟩ := sound.removal_inside removed
      by_cases same : c' = c
      · subst same
        rw [if_pos rfl, List.eraseP_eq_eraseIdx, first, view_eq listed, Store.view]
        simp only [Function.update_self]
        exact view_deleteAt inside fits
      · rw [if_neg same, Store.view, Store.view]
        simp only [Function.update_of_ne same]
        cases other : s.lists c' with
        | none => rfl
        | some l' =>
            have elsewhere : l'.array ≠ l.array := fun shared =>
              same (sound.apart c' c l' l other listed shared)
            simp only [Slice.view, deleteAt_of_ne elsewhere]

theorem mem_view_remove (sound : Sound s) {x : Listed}
    (member : x ∈ (s.remove c id).view c') : x ∈ s.view c' := by
  rw [view_remove sound] at member
  split_ifs at member with same
  · rw [same]
    exact List.mem_of_mem_eraseP member
  · exact member

theorem heap_remove {a : ℕ} {x : Listed} (member : x ∈ (s.remove c id).heap a) :
    x ∈ s.heap a := by
  rw [Store.remove] at member
  cases removed : s.removal c id with
  | none => rwa [removed] at member
  | some r =>
      rw [removed] at member
      exact mem_of_mem_deleteAt member

theorem counters_remove : (s.remove c id).listed = s.listed ∧
    (s.remove c id).arrays = s.arrays ∧ (s.remove c id).dismissed = s.dismissed ∧
    (s.remove c id).calls = s.calls := by
  rw [Store.remove]
  cases s.removal c id <;> exact ⟨rfl, rfl, rfl, rfl⟩

theorem lists_remove {l' : Slice} (listed : (s.remove c id).lists c' = some l') :
    ∃ l, s.lists c' = some l ∧ l'.array = l.array ∧ l'.len ≤ l.len := by
  rw [Store.remove] at listed
  cases removed : s.removal c id with
  | none =>
      rw [removed] at listed
      exact ⟨l', listed, rfl, le_refl _⟩
  | some r =>
      obtain ⟨l, i⟩ := r
      rw [removed] at listed
      dsimp only at listed
      by_cases same : c' = c
      · subst same
        rw [Function.update_self] at listed
        obtain rfl := Option.some.inj listed
        exact ⟨l, (removal_eq_some removed).1, rfl, Nat.sub_le _ _⟩
      · rw [Function.update_of_ne same] at listed
        exact ⟨l', listed, rfl, le_refl _⟩

theorem length_remove (sound : Sound s) (a : ℕ) :
    ((s.remove c id).heap a).length = (s.heap a).length := by
  rw [Store.remove]
  cases removed : s.removal c id with
  | none => rfl
  | some r =>
      obtain ⟨inside, fits⟩ := sound.removal_inside removed
      exact length_deleteAt inside fits a

theorem sound_remove (sound : Sound s) : Sound (s.remove c id) := by
  obtain ⟨listed_eq, arrays_eq, dismissed_eq, -⟩ := @counters_remove s c id
  constructor
  · intro a x member
    rw [listed_eq]
    exact sound.bound a x (heap_remove member)
  · intro a b x left y right
    exact sound.agree a b x (heap_remove left) y (heap_remove right)
  · intro c' l' listed
    obtain ⟨l, earlier, array, shorter⟩ := lists_remove listed
    obtain ⟨inside, long, owned⟩ := sound.fits c' l earlier
    rw [array, arrays_eq, length_remove sound]
    exact ⟨inside, shorter.trans long, fun x member => owned x (heap_remove member)⟩
  · intro c₁ c₂ l₁ l₂ first second shared
    obtain ⟨k₁, earlier₁, array₁, -⟩ := lists_remove first
    obtain ⟨k₂, earlier₂, array₂, -⟩ := lists_remove second
    exact sound.apart c₁ c₂ k₁ k₂ earlier₁ earlier₂ (by rw [← array₁, ← array₂, shared])
  · intro c'
    rw [view_remove sound]
    split_ifs
    · exact (sound.nodup c).sublist (List.eraseP_sublist.map _)
    · exact sound.nodup c'
  · intro n gone
    rw [dismissed_eq] at gone
    rw [listed_eq]
    obtain ⟨below, hidden⟩ := sound.dismissed n gone
    exact ⟨below, fun c' x member => hidden c' x (mem_view_remove sound member)⟩

theorem removed_hidden (sound : Sound s) {y : Listed}
    (first : (s.view c).find? (·.named id) = some y) :
    ∀ c', ∀ x ∈ (s.remove c id).view c', x.number ≠ y.number := by
  intro c' x member same
  have seen : y ∈ s.view c := List.mem_of_find?_eq_some first
  have shown := mem_view_remove sound member
  obtain ⟨l, _, inside⟩ := mem_view shown
  obtain ⟨l', _, inside'⟩ := mem_view seen
  obtain ⟨-, rfl⟩ := sound.agree _ _ x (mem_heap_of_view inside) y (mem_heap_of_view inside') same
  obtain rfl : c' = c := (sound.cluster_of_view shown).symm.trans (sound.cluster_of_view seen)
  rw [view_remove sound, if_pos rfl] at member
  obtain ⟨named, before, after, split, earlier⟩ := List.find?_eq_some_iff_append.mp first
  have unnamed : ∀ z ∈ before, ¬z.named id = true := fun z inside => by simpa using earlier z inside
  rw [split, List.eraseP_append_right _ unnamed, List.eraseP_cons_of_pos (by simpa using named)]
    at member
  have distinct := sound.nodup c'
  rw [split, List.map_append, List.map_cons] at distinct
  have apart := List.nodup_middle.mp distinct
  have again : x.number ∈ (before ++ after).map Listed.number := List.mem_map_of_mem member
  rw [List.map_append] at again
  exact (List.nodup_cons.mp apart).1 again

theorem sound_dismiss (sound : Sound s) : Sound (s.dismiss c id) := by
  have removed := @sound_remove s c id sound
  refine ⟨removed.bound, removed.agree, removed.fits, removed.apart, removed.nodup, ?_⟩
  intro n gone
  rcases List.mem_append.mp gone with earlier | now
  · refine removed.dismissed n ?_
    rwa [counters_remove.2.2.1]
  · cases first : (s.view c).find? (·.named id) with
    | none => simp [first] at now
    | some y =>
        obtain rfl : n = y.number := by simpa [first] using now
        have below : y.number < (s.remove c id).listed := by
          rw [counters_remove.1]
          exact sound.lt_of_view (List.mem_of_find?_eq_some first)
        exact ⟨below, removed_hidden sound first⟩

/-- The entries of a new list. -/
def entries (s : Store) (c : String) (recs : List DRSRecommendation) : List Listed :=
  recs.mapIdx fun k body => ⟨s.listed + k, c, body⟩

variable {recs : List DRSRecommendation}

theorem number_entries {k : ℕ} (inside : k < (entries s c recs).length) :
    (entries s c recs)[k].number = s.listed + k := by
  simp [entries]

theorem mem_entries {x : Listed} (member : x ∈ entries s c recs) :
    x.cluster = c ∧ s.listed ≤ x.number ∧ x.number < s.listed + recs.length := by
  obtain ⟨k, inside, rfl⟩ := List.mem_mapIdx.mp member
  exact ⟨rfl, Nat.le_add_right _ _, Nat.add_lt_add_left inside _⟩

theorem nodup_entries : ((entries s c recs).map Listed.number).Nodup := by
  rw [List.Nodup, List.pairwise_iff_getElem]
  intro i j first second earlier
  simp only [List.getElem_map, number_entries]
  omega

theorem lists_set : (s.set c recs).lists c' =
    if c' = c then some ⟨s.arrays, recs.length⟩ else s.lists c' :=
  Function.update_apply ..

theorem heap_set (a : ℕ) :
    (s.set c recs).heap a = if a = s.arrays then entries s c recs else s.heap a :=
  Function.update_apply ..

theorem view_set (sound : Sound s) :
    (s.set c recs).view c' = if c' = c then entries s c recs else s.view c' := by
  by_cases same : c' = c
  · subst same
    have listed : (s.set c' recs).lists c' = some ⟨s.arrays, recs.length⟩ := by
      rw [lists_set, if_pos rfl]
    have whole : (entries s c' recs).length ≤ recs.length := by simp [entries]
    rw [if_pos rfl, view_eq listed, Slice.view, heap_set, if_pos rfl, List.take_of_length_le whole]
  · have kept : (s.set c recs).lists c' = s.lists c' := by rw [lists_set, if_neg same]
    rw [if_neg same, Store.view, Store.view, kept]
    cases listed : s.lists c' with
    | none => rfl
    | some l =>
        have old : l.array ≠ s.arrays := Nat.ne_of_lt (sound.fits c' l listed).1
        simp only [Slice.view, heap_set, if_neg old]

theorem mem_view_set (sound : Sound s) {x : Listed} (member : x ∈ (s.set c recs).view c') :
    s.listed ≤ x.number ∨ x ∈ s.view c' := by
  rw [view_set sound] at member
  split_ifs at member
  · exact .inl (mem_entries member).2.1
  · exact .inr member

theorem sound_set (sound : Sound s) : Sound (s.set c recs) := by
  have listed_eq : (s.set c recs).listed = s.listed + recs.length := rfl
  have lists_cases (c' : String) (l : Slice) (listed : (s.set c recs).lists c' = some l) :
      c' = c ∧ l = ⟨s.arrays, recs.length⟩ ∨ c' ≠ c ∧ s.lists c' = some l := by
    rw [lists_set] at listed
    split_ifs at listed with same
    · exact .inl ⟨same, (Option.some.inj listed).symm⟩
    · exact .inr ⟨same, listed⟩
  constructor
  · intro a x member
    rw [heap_set] at member
    rw [listed_eq]
    split_ifs at member
    · exact (mem_entries member).2.2
    · exact Nat.lt_add_right _ (sound.bound a x member)
  · intro a b x left y right same
    rw [heap_set] at left right
    split_ifs at left right with here there there
    · obtain ⟨i, first, rfl⟩ := List.mem_iff_getElem.mp left
      obtain ⟨j, second, rfl⟩ := List.mem_iff_getElem.mp right
      rw [number_entries, number_entries] at same
      obtain rfl : i = j := by omega
      exact ⟨here.trans there.symm, rfl⟩
    · have new := (mem_entries left).2.1
      have old := sound.bound b y right
      omega
    · have new := (mem_entries right).2.1
      have old := sound.bound a x left
      omega
    · exact sound.agree a b x left y right same
  · intro c' l listed
    rcases lists_cases c' l listed with ⟨rfl, rfl⟩ | ⟨other, earlier⟩
    · rw [heap_set, if_pos rfl]
      exact ⟨Nat.lt_succ_self _, by simp [entries], fun x member => (mem_entries member).1⟩
    · obtain ⟨inside, long, owned⟩ := sound.fits c' l earlier
      rw [heap_set, if_neg (Nat.ne_of_lt inside)]
      exact ⟨Nat.lt_succ_of_lt inside, long, owned⟩
  · intro c₁ c₂ l₁ l₂ first second shared
    rcases lists_cases c₁ l₁ first with ⟨rfl, rfl⟩ | ⟨other₁, earlier₁⟩
    · rcases lists_cases c₂ l₂ second with ⟨rfl, rfl⟩ | ⟨other₂, earlier₂⟩
      · rfl
      · have inside := (sound.fits c₂ l₂ earlier₂).1
        change s.arrays = l₂.array at shared
        omega
    · rcases lists_cases c₂ l₂ second with ⟨rfl, rfl⟩ | ⟨other₂, earlier₂⟩
      · have inside := (sound.fits c₁ l₁ earlier₁).1
        change l₁.array = s.arrays at shared
        omega
      · exact sound.apart c₁ c₂ l₁ l₂ earlier₁ earlier₂ shared
  · intro c'
    rw [view_set sound]
    split_ifs
    · exact nodup_entries
    · exact sound.nodup c'
  · intro n gone
    obtain ⟨below, hidden⟩ := sound.dismissed n gone
    refine ⟨Nat.lt_add_right _ below, fun c' x member => ?_⟩
    rcases mem_view_set sound member with new | old
    · omega
    · exact hidden c' x old

theorem sound_migrate (sound : Sound s) (call : Call) : Sound (s.migrate call) :=
  ⟨sound.bound, sound.agree, sound.fits, sound.apart, sound.nodup, sound.dismissed⟩

end Views

section Invariant

/-- Wherever the recommendation is still shown, a removal by its name takes it out. -/
def First (s : Store) (c id : String) (n : ℕ) : Prop :=
  ∀ c', ∀ y ∈ s.view c', y.number = n → c' = c ∧ (s.view c').find? (·.named id) = some y

/-- A search through a list that is as it was looked up, unless it was replaced. -/
structure Scanned (s : Store) (c id : String) (before : List ℕ) (l : Slice) (i : ℕ) : Prop where
  inside : l.array < s.arrays
  current : ∀ c' l', s.lists c' = some l' → l'.array = l.array → c' = c ∧ l' = l
  passed : ∀ x ∈ (l.view s.heap).take i, x.named id = false
  owned : ∀ x ∈ l.view s.heap, x.cluster = c ∧ x.number ∉ before
  uncalled : ∀ x ∈ l.view s.heap, x.named id = true → ∀ call ∈ s.calls, call.number ≠ x.number

/-- A pointer to the recommendation that was found, which nobody has called yet. -/
structure Pointed (s : Store) (c id : String) (before : List ℕ) (a i n : ℕ) : Prop where
  inside : a < s.arrays
  entry : ∃ x, (s.heap a)[i]? = some x ∧ x.number = n ∧ x.cluster = c ∧ x.named id = true
  undismissed : n ∉ before
  uncalled : ∀ call ∈ s.calls, call.number ≠ n
  first : First s c id n

def Fits (s : Store) : Thread → Prop
  | .looking _ _ before => ∀ n ∈ before, n ∈ s.dismissed
  | .searching c id before l i => Scanned s c id before l i
  | .found c id before a i n | .migrating c id before a i n _ => Pointed s c id before a i n
  | .awaiting c id n | .removing c id n => n < s.listed ∧ First s c id n
  | _ => True

/-- The request has called the recommendation and not removed it. -/
def Thread.owes (n : ℕ) : Thread → Bool
  | awaiting _ _ m | removing _ _ m | failed m => m = n
  | _ => false

/-- A recommendation that was called is not shown any more, or somebody still has to remove it. -/
def Owed (s : Store) (pool : List Thread) (n : ℕ) : Prop :=
  n < s.listed ∧ ((∃ u ∈ pool, u.owes n = true) ∨ ∀ c, ∀ x ∈ s.view c, x.number ≠ n)

structure Inv (s : Store) (pool : List Thread) : Prop where
  sound : Sound s
  fits : ∀ u ∈ pool, Fits s u
  alone : ∀ c id, pool.countP (Thread.working c id) ≤ 1
  once : Once s
  owed : ∀ call ∈ s.calls, Owed s pool call.number

variable {s : Store} {c c₁ id id₁ : String} {n : ℕ} {u : Thread} {recs : List DRSRecommendation}

theorem find?_eraseP {A : Type} {p q : A → Bool} (apart : ∀ x, q x = true → p x = false)
    (l : List A) : (l.eraseP q).find? p = l.find? p := by
  induction l with
  | nil => rfl
  | cons x l ih =>
      by_cases hit : q x = true
      · rw [List.eraseP_cons_of_pos hit, List.find?_cons_of_neg (by simp [apart x hit])]
      · rw [List.eraseP_cons_of_neg hit, List.find?_cons, List.find?_cons, ih]

theorem first_remove (sound : Sound s) (first : First s c id n) :
    First (s.remove c₁ id₁) c id n := by
  intro c' y member number
  obtain ⟨rfl, found⟩ := first c' y (mem_view_remove sound member) number
  refine ⟨rfl, ?_⟩
  by_cases same : c' = c₁
  · subst same
    by_cases name : id₁ = id
    · subst name
      exact absurd rfl (removed_hidden sound found c' y member)
    · have apart (x : Listed) (hit : x.named id₁ = true) : x.named id = false := by
        have named : x.body.id = id₁ := by simpa [Listed.named] using hit
        simpa [Listed.named, named] using name
      rw [view_remove sound, if_pos rfl, find?_eraseP apart, found]
  · rw [view_remove sound, if_neg same, found]

theorem first_set (sound : Sound s) (below : n < s.listed) (first : First s c id n) :
    First (s.set c₁ recs) c id n := by
  intro c' y member number
  rw [view_set sound] at member ⊢
  split_ifs at member ⊢ with same
  · have new := (mem_entries member).2.1
    omega
  · exact first c' y member number

theorem Pointed.below {before : List ℕ} {a i : ℕ} (sound : Sound s)
    (pointed : Pointed s c id before a i n) : n < s.listed := by
  obtain ⟨x, there, rfl, -⟩ := pointed.entry
  exact sound.bound a x (List.mem_of_getElem? there)

theorem fits_remove (sound : Sound s)
    (unseen : ∀ r ∈ (s.removal c₁ id₁).toList, u.sees r.1.array r.2 = false) (fits : Fits s u) :
    Fits (s.remove c₁ id₁) u := by
  cases removed : s.removal c₁ id₁ with
  | none =>
      have same : s.remove c₁ id₁ = s := by rw [Store.remove, removed]
      rwa [same]
  | some r =>
      obtain ⟨l₀, i₀⟩ := r
      have blind : u.sees l₀.array i₀ = false := unseen (l₀, i₀) (by simp [removed])
      have heap : (s.remove c₁ id₁).heap = deleteAt s.heap l₀ i₀ := by rw [Store.remove, removed]
      have lists : (s.remove c₁ id₁).lists = Function.update s.lists c₁ (some l₀.shorter) := by
        rw [Store.remove, removed]
      obtain ⟨listed_eq, arrays_eq, dismissed_eq, calls_eq⟩ := @counters_remove s c₁ id₁
      have points {c id : String} {before : List ℕ} {a i n : ℕ}
          (blind : decide (a = l₀.array ∧ i₀ ≤ i) = false)
          (pointed : Pointed s c id before a i n) :
          Pointed (s.remove c₁ id₁) c id before a i n := by
        refine ⟨by rw [arrays_eq]; exact pointed.inside, ?_, pointed.undismissed,
          by rw [calls_eq]; exact pointed.uncalled, first_remove sound pointed.first⟩
        obtain ⟨x, there, rest⟩ := pointed.entry
        refine ⟨x, ?_, rest⟩
        rw [heap]
        by_cases same : a = l₀.array
        · have early : i < i₀ := by simpa [same] using blind
          obtain ⟨inside, long⟩ := sound.removal_inside removed
          subst same
          rw [deleteAt, Function.update_self, getElem?_closeUp early (by omega), there]
        · rw [deleteAt_of_ne same, there]
      cases u with
      | looking c id before =>
          intro n member
          rw [dismissed_eq]
          exact fits n member
      | searching c id before l i =>
          have other : l.array ≠ l₀.array := by simpa [Thread.sees] using blind
          have view : l.view (s.remove c₁ id₁).heap = l.view s.heap := by
            rw [heap, Slice.view, Slice.view, deleteAt_of_ne other]
          refine ⟨by rw [arrays_eq]; exact fits.inside, ?_, by rw [view]; exact fits.passed,
            by rw [view]; exact fits.owned, by rw [view, calls_eq]; exact fits.uncalled⟩
          intro c' l' listed same
          rw [lists, Function.update_apply] at listed
          split_ifs at listed
          · obtain rfl := Option.some.inj listed
            exact absurd same.symm other
          · exact fits.current c' l' listed same
      | found c id before a i n => exact points blind fits
      | migrating c id before a i n client => exact points blind fits
      | awaiting c id n | removing c id n =>
          exact ⟨by rw [listed_eq]; exact fits.1, first_remove sound fits.2⟩
      | arriving | failed | answered | dismissing | setting => trivial

theorem fits_dismiss (sound : Sound s)
    (unseen : ∀ r ∈ (s.removal c₁ id₁).toList, u.sees r.1.array r.2 = false) (fits : Fits s u) :
    Fits (s.dismiss c₁ id₁) u := by
  have removed := fits_remove sound unseen fits
  cases u with
  | looking c id before => exact fun n member => List.mem_append_left _ (fits n member)
  | searching c id before l i =>
      exact ⟨removed.inside, removed.current, removed.passed, removed.owned, removed.uncalled⟩
  | found c id before a i n =>
      exact ⟨removed.inside, removed.entry, removed.undismissed, removed.uncalled, removed.first⟩
  | migrating c id before a i n client =>
      exact ⟨removed.inside, removed.entry, removed.undismissed, removed.uncalled, removed.first⟩
  | awaiting c id n | removing c id n => exact ⟨removed.1, removed.2⟩
  | arriving | failed | answered | dismissing | setting => trivial

theorem fits_set (sound : Sound s) (fits : Fits s u) : Fits (s.set c₁ recs) u := by
  have heap {a : ℕ} (inside : a < s.arrays) : (s.set c₁ recs).heap a = s.heap a := by
    rw [heap_set, if_neg (Nat.ne_of_lt inside)]
  have points {c id : String} {before : List ℕ} {a i n : ℕ}
      (pointed : Pointed s c id before a i n) : Pointed (s.set c₁ recs) c id before a i n := by
    refine ⟨Nat.lt_succ_of_lt pointed.inside, ?_, pointed.undismissed, pointed.uncalled,
      first_set sound (pointed.below sound) pointed.first⟩
    rw [heap pointed.inside]
    exact pointed.entry
  cases u with
  | looking c id before => exact fits
  | searching c id before l i =>
      have view : l.view (s.set c₁ recs).heap = l.view s.heap := by
        rw [Slice.view, Slice.view, heap fits.inside]
      refine ⟨Nat.lt_succ_of_lt fits.inside, ?_, by rw [view]; exact fits.passed,
        by rw [view]; exact fits.owned, by rw [view]; exact fits.uncalled⟩
      intro c' l' listed same
      rw [lists_set] at listed
      split_ifs at listed
      · obtain rfl := Option.some.inj listed
        exact absurd same (Nat.ne_of_gt fits.inside)
      · exact fits.current c' l' listed same
  | found c id before a i n => exact points fits
  | migrating c id before a i n client => exact points fits
  | awaiting c id n | removing c id n =>
      exact ⟨Nat.lt_add_right _ fits.1, first_set sound fits.1 fits.2⟩
  | arriving | failed | answered | dismissing | setting => trivial

theorem fits_migrate (sound : Sound s) {call : Call} {a : ℕ} {x : Listed} (there : x ∈ s.heap a)
    (number : x.number = call.number) (apart : u.working x.cluster x.body.id = false)
    (fits : Fits s u) : Fits (s.migrate call) u := by
  have points {c id : String} {before : List ℕ} {a' i n : ℕ}
      (apart : decide (c = x.cluster ∧ id = x.body.id) = false)
      (pointed : Pointed s c id before a' i n) :
      Pointed (s.migrate call) c id before a' i n := by
    refine ⟨pointed.inside, pointed.entry, pointed.undismissed, ?_, pointed.first⟩
    intro call' member
    rcases List.mem_append.mp member with earlier | now
    · exact pointed.uncalled call' earlier
    · obtain rfl := List.mem_singleton.mp now
      rintro rfl
      obtain ⟨y, at_y, same, owner, named⟩ := pointed.entry
      obtain ⟨-, rfl⟩ := sound.agree _ _ x there y (List.mem_of_getElem? at_y)
        (number.trans same.symm)
      have name : x.body.id = id := by simpa [Listed.named] using named
      simp [owner, name] at apart
  cases u with
  | looking c id before => exact fits
  | searching c id before l i =>
      refine ⟨fits.inside, fits.current, fits.passed, fits.owned, ?_⟩
      intro y member named call' called
      rcases List.mem_append.mp called with earlier | now
      · exact fits.uncalled y member named call' earlier
      · obtain rfl := List.mem_singleton.mp now
        intro same
        obtain ⟨-, rfl⟩ := sound.agree _ _ x there y (mem_heap_of_view member)
          (number.trans same)
        have name : x.body.id = id := by simpa [Listed.named] using named
        simp [Thread.working, (fits.owned x member).1, name] at apart
  | found c id before a i n => exact points apart fits
  | migrating c id before a i n client => exact points apart fits
  | awaiting c id n | removing c id n => exact fits
  | arriving | failed | answered | dismissing | setting => trivial

end Invariant

section Steps

variable {w : World} {e : Event} {t : Thread} {o : Outside} {before after : List Thread}

theorem owed_turn {s' : Store} {t' : Thread} (inv : Inv w.shared w.pool)
    (turn : Thread.Turn request w e t o before after)
    (lost : ∀ n, t.owes n = true → t'.owes n = true ∨ ∀ c, ∀ x ∈ s'.view c, x.number ≠ n)
    (shows : ∀ c, ∀ x ∈ s'.view c, w.shared.listed ≤ x.number ∨ x ∈ w.shared.view c)
    (grown : w.shared.listed ≤ s'.listed) :
    ∀ call ∈ w.shared.calls, Owed s' (before ++ t' :: after) call.number := by
  intro call member
  obtain ⟨below, owed⟩ := inv.owed call member
  refine ⟨below.trans_le grown, ?_⟩
  rcases owed with ⟨u, inside, owes⟩ | hidden
  · have placed : u = t ∨ u ∈ before ++ after := by
      cases turn with
      | begins q => exact .inr (by simpa using inside)
      | goes _ _ _ _ _ _ split =>
          rw [split] at inside
          rcases List.mem_append.mp inside with front | rest
          · exact .inr (List.mem_append_left after front)
          · exact (List.mem_cons.mp rest).imp id (List.mem_append_right before)
    rcases placed with rfl | other
    · rcases lost call.number owes with still | hidden
      · exact .inl ⟨t', List.mem_append_right before List.mem_cons_self, still⟩
      · exact .inr hidden
    · refine .inl ⟨u, ?_, owes⟩
      rcases List.mem_append.mp other with front | rear
      · exact List.mem_append_left _ front
      · exact List.mem_append_right before (List.mem_cons_of_mem _ rear)
  · refine .inr fun c x shown => ?_
    rcases shows c x shown with new | old
    · omega
    · exact hidden c x old

/-- The invariant after a turn, from what the turn does to the store and to the other threads. -/
theorem inv_turn {s' : Store} {t' : Thread} (inv : Inv w.shared w.pool)
    (turn : Thread.Turn request w e t o before after) (sound : Sound s')
    (others : ∀ u ∈ w.pool, u ∈ before ++ after → Fits s' u) (actor : Fits s' t')
    (works : ∀ c id, t'.working c id = true →
      t.working c id = true ∨ ∀ u ∈ w.pool, u.working c id = false) (once : Once s')
    (owed : ∀ call ∈ s'.calls, Owed s' (before ++ t' :: after) call.number) :
    Inv s' (before ++ t' :: after) := by
  have inside (u : Thread) (member : u ∈ before ++ after) : u ∈ w.pool := turn.others.subset member
  refine ⟨sound, ?_, ?_, once, owed⟩
  · intro u member
    rcases List.mem_append.mp member with front | rest
    · exact others u (inside u (List.mem_append_left after front)) (List.mem_append_left after front)
    · rcases List.mem_cons.mp rest with rfl | rear
      · exact actor
      · have other := List.mem_append_right before rear
        exact others u (inside u other) other
  · intro c id
    have foreign (q : Request) : (request q).working c id = false := by cases q <;> rfl
    have count : (before ++ t :: after).countP (Thread.working c id) ≤ 1 := by
      rw [← turn.called_eq, Thread.countP_called foreign]
      exact inv.alone c id
    rw [Thread.countP_middle] at count ⊢
    cases now : t'.working c id with
    | false => simpa [now] using (Nat.le_add_left _ _).trans count
    | true =>
        rcases works c id now with already | free
        · simpa [now, already] using count
        · have quiet : (before ++ after).countP (Thread.working c id) = 0 := by
            rw [List.countP_eq_zero]
            intro u member
            simp [free u (inside u member)]
          rw [quiet]
          simp [now]

theorem inv_still {t' : Thread} (inv : Inv w.shared w.pool)
    (turn : Thread.Turn request w e t o before after) (actor : Fits w.shared t')
    (works : ∀ c id, t'.working c id = true →
      t.working c id = true ∨ ∀ u ∈ w.pool, u.working c id = false)
    (owes : ∀ n, t.owes n = true → t'.owes n = true) :
    Inv w.shared (before ++ t' :: after) :=
  inv_turn inv turn inv.sound (fun u member _ => inv.fits u member) actor works inv.once
    (owed_turn inv turn (fun n was => .inl (owes n was)) (fun _ _ shown => .inr shown) (le_refl _))

theorem once_migrate {s : Store} {call : Call} (once : Once s)
    (uncalled : ∀ call' ∈ s.calls, call'.number ≠ call.number)
    (undismissed : call.number ∉ call.before) : Once (s.migrate call) := by
  constructor
  · rw [Store.migrate, List.map_append, List.map_singleton, List.nodup_append]
    refine ⟨once.1, List.nodup_singleton _, ?_⟩
    intro n earlier m now
    obtain ⟨call', member, rfl⟩ := List.mem_map.mp earlier
    rw [List.mem_singleton.mp now]
    exact uncalled call' member
  · intro call' member
    rcases List.mem_append.mp member with earlier | now
    · exact once.2 call' earlier
    · rw [List.mem_singleton.mp now]
      exact undismissed

/-- What a lookup shows has not been called, if nobody works on it or has failed on it. -/
theorem uncalled_of_undisturbed {c id : String} {before' : List ℕ}
    (inv : Inv w.shared w.pool) (calm : Undisturbed w.shared w.pool (.looking c id before'))
    {x : Listed} (shown : x ∈ w.shared.view c) (named : x.named id = true) :
    ∀ call ∈ w.shared.calls, call.number ≠ x.number := by
  intro call called same
  rcases (inv.owed call called).2 with ⟨u, inside, owes⟩ | hidden
  · have fits := inv.fits u inside
    have by_first {c₁ id₁ : String} (first : First w.shared c₁ id₁ x.number) :
        c₁ = c ∧ id₁ = id := by
      obtain ⟨cluster, found⟩ := first c x shown rfl
      have named₁ : x.body.id = id₁ := by simpa [Listed.named] using List.find?_some found
      have named₂ : x.body.id = id := by simpa [Listed.named] using named
      exact ⟨cluster.symm, named₁.symm.trans named₂⟩
    have idle := calm.1 u inside
    rw [same] at owes
    cases u with
    | awaiting c₁ id₁ m =>
        obtain rfl : m = x.number := by simpa [Thread.owes] using owes
        obtain ⟨rfl, rfl⟩ := by_first fits.2
        simp [Thread.working] at idle
    | removing c₁ id₁ m =>
        obtain rfl : m = x.number := by simpa [Thread.owes] using owes
        obtain ⟨rfl, rfl⟩ := by_first fits.2
        simp [Thread.working] at idle
    | failed m =>
        have other := calm.2 x shown named (.failed m) inside
        obtain rfl : m = x.number := by simpa [Thread.owes] using owes
        simp [Thread.failedOn] at other
    | _ => simp [Thread.owes] at owes
  · exact hidden c x shown same.symm

theorem scanned_of_lookup {c id : String} {before' : List ℕ} {l : Slice}
    (inv : Inv w.shared w.pool) (calm : Undisturbed w.shared w.pool (.looking c id before'))
    (known : ∀ n ∈ before', n ∈ w.shared.dismissed) (listed : w.shared.lists c = some l) :
    Scanned w.shared c id before' l 0 := by
  obtain ⟨inside, -, owned⟩ := inv.sound.fits c l listed
  have shown {x : Listed} (member : x ∈ l.view w.shared.heap) : x ∈ w.shared.view c := by
    rwa [view_eq listed]
  refine ⟨inside, ?_, by simp, ?_, ?_⟩
  · intro c' l' listed' same
    obtain rfl := inv.sound.apart c' c l' l listed' listed same
    exact ⟨rfl, Option.some.inj (listed'.symm.trans listed)⟩
  · intro x member
    refine ⟨owned x (mem_heap_of_view member), fun gone => ?_⟩
    exact (inv.sound.dismissed x.number (known _ gone)).2 c x (shown member) rfl
  · intro x member named
    exact uncalled_of_undisturbed inv calm (shown member) named

theorem pointed_of_match {s : Store} {c id : String} {before' : List ℕ} {l : Slice} {i : ℕ}
    {x : Listed} (sound : Sound s) (scanned : Scanned s c id before' l i)
    (here : (l.view s.heap)[i]? = some x) (named : x.named id = true) :
    Pointed s c id before' l.array i x.number := by
  have member : x ∈ l.view s.heap := List.mem_of_getElem? here
  obtain ⟨owner, undismissed⟩ := scanned.owned x member
  have place : (s.heap l.array)[i]? = some x := by
    rw [Slice.view, List.getElem?_take] at here
    split_ifs at here
    exact here
  refine ⟨scanned.inside, ⟨x, place, rfl, owner, named⟩, undismissed,
    scanned.uncalled x member named, ?_⟩
  intro c' y shown number
  obtain ⟨l', listed, inside⟩ := mem_view shown
  obtain ⟨array, rfl⟩ := sound.agree _ _ y (mem_heap_of_view inside) x (mem_heap_of_view member)
    number
  obtain ⟨rfl, rfl⟩ := scanned.current c' l' listed array
  refine ⟨rfl, ?_⟩
  obtain ⟨within, at_i⟩ := List.getElem?_eq_some_iff.mp here
  rw [view_eq listed, List.find?_eq_some_iff_getElem]
  refine ⟨named, i, within, at_i, fun j earlier => ?_⟩
  have inside_j : j < (l'.view s.heap).length := earlier.trans within
  have seen : (l'.view s.heap)[j] ∈ (l'.view s.heap).take i := by
    rw [List.mem_take_iff_getElem]
    exact ⟨j, by omega, rfl⟩
  have passed := scanned.passed _ seen
  simp [passed]

theorem scanned_succ {s : Store} {c id : String} {before' : List ℕ} {l : Slice} {i : ℕ}
    {x : Listed} (scanned : Scanned s c id before' l i)
    (here : (l.view s.heap)[i]? = some x) (other : ¬x.named id = true) :
    Scanned s c id before' l (i + 1) := by
  refine ⟨scanned.inside, scanned.current, ?_, scanned.owned, scanned.uncalled⟩
  intro y member
  obtain ⟨within, at_i⟩ := List.getElem?_eq_some_iff.mp here
  rw [List.take_succ_eq_append_getElem within, at_i] at member
  rcases List.mem_append.mp member with earlier | now
  · exact scanned.passed y earlier
  · rw [List.mem_singleton.mp now]
    simpa using other

theorem inv_migrate {c id : String} {before' : List ℕ} {a i n : ℕ} {client : Client}
    {x : Listed} (inv : Inv w.shared w.pool)
    (turn : Thread.Turn request w e (.migrating c id before' a i n client) o before after)
    (pointed : Pointed w.shared c id before' a i n) (here : (w.shared.heap a)[i]? = some x) :
    Inv (w.shared.migrate (migration client before' x))
      (before ++ .awaiting c id x.number :: after) := by
  obtain ⟨y, there, rfl, owner, named⟩ := pointed.entry
  obtain rfl := Option.some.inj (there.symm.trans here)
  have name : y.body.id = id := by simpa [Listed.named] using named
  have inside := List.mem_of_getElem? here
  have below := inv.sound.bound a y inside
  have quiet (u : Thread) (member : u ∈ before ++ after) :
      u.working y.cluster y.body.id = false := by
    have foreign (q : Request) : (request q).working c id = false := by cases q <;> rfl
    have count := inv.alone c id
    rw [← Thread.countP_called foreign, turn.called_eq, Thread.countP_middle] at count
    have none_ : (before ++ after).countP (Thread.working c id) = 0 := by
      simpa [Thread.working] using count
    rw [owner, name]
    simpa using List.countP_eq_zero.mp none_ u member
  refine inv_turn inv turn (sound_migrate inv.sound _) ?_ ⟨below, pointed.first⟩ ?_ ?_ ?_
  · intro u member other
    exact fits_migrate inv.sound inside rfl (quiet u other) (inv.fits u member)
  · exact fun c' id' works => .inl works
  · exact once_migrate inv.once pointed.uncalled pointed.undismissed
  · intro call member
    rcases List.mem_append.mp member with earlier | now
    · exact owed_turn inv turn nofun (fun _ _ shown => .inr shown) (le_refl _) call earlier
    · rw [List.mem_singleton.mp now]
      exact ⟨below, .inl ⟨_, List.mem_append_right before List.mem_cons_self,
        by simp [Thread.owes, migration]⟩⟩

theorem inv_step (inv : Inv w.shared w.pool) (calm : Calm w e) :
    Inv (step w e).shared (step w e).pool := by
  rcases Thread.step_cases_of_total advance request (fun t o s => next o s t) (fun _ _ _ => rfl) w e
    with ⟨-, same⟩ | ⟨t, o, before, after, acts, up, turn, moved⟩
  · rw [step, same]
    exact inv
  · have undisturbed : Undisturbed w.shared w.pool t := calm (t, o) (by simp [acts])
    have fits : Fits w.shared t := turn.actor_of (fun q => by cases q <;> trivial) inv.fits
    rw [step, moved]
    change Inv (next o w.shared t).2 (before ++ (next o w.shared t).1 :: after)
    cases t with
    | arriving c id =>
        exact inv_still inv turn (fun n member => member) nofun nofun
    | looking c id before' =>
        rw [next]
        cases listed : w.shared.lists c with
        | none => exact inv_still inv turn trivial nofun nofun
        | some l =>
            refine inv_still inv turn (scanned_of_lookup inv undisturbed fits listed) ?_ nofun
            intro c' id' works
            obtain ⟨rfl, rfl⟩ : c = c' ∧ id = id' := by simpa [Thread.working] using works
            exact .inr undisturbed.1
    | searching c id before' l i =>
        rw [next]
        cases here : (l.view w.shared.heap)[i]? with
        | none => exact inv_still inv turn trivial nofun nofun
        | some x =>
            dsimp only
            split_ifs with named
            · exact inv_still inv turn (pointed_of_match inv.sound fits here named)
                (fun _ _ works => .inl works) nofun
            · exact inv_still inv turn (scanned_succ fits here named)
                (fun _ _ works => .inl works) nofun
    | found c id before' a i n =>
        rw [next]
        cases (w.shared.heap a)[i]? with
        | none => exact inv_still inv turn trivial nofun nofun
        | some x =>
            dsimp only
            split_ifs
            · exact inv_still inv turn fits (fun _ _ works => .inl works) nofun
            · exact inv_still inv turn trivial nofun nofun
    | migrating c id before' a i n client =>
        rw [next]
        cases here : (w.shared.heap a)[i]? with
        | none => exact inv_still inv turn trivial nofun nofun
        | some x => exact inv_migrate inv turn fits here
    | awaiting c id n =>
        rw [next]
        dsimp only
        split_ifs
        · exact inv_still inv turn fits (fun _ _ works => .inl works) fun _ was => was
        · exact inv_still inv turn trivial nofun fun _ was => was
    | removing c id n =>
        rw [next]
        obtain ⟨listed_eq, -, -, calls_eq⟩ := @counters_remove w.shared c id
        refine inv_turn inv turn (sound_remove inv.sound) (fun u member _ => fits_remove inv.sound
          (fun r removed => undisturbed r removed u member) (inv.fits u member)) trivial nofun ?_ ?_
        · rw [Once, calls_eq]
          exact inv.once
        · rw [calls_eq]
          refine owed_turn inv turn ?_ (fun _ _ shown => .inr (mem_view_remove inv.sound shown))
            listed_eq.ge
          intro m was
          obtain rfl : n = m := by simpa [Thread.owes] using was
          refine .inr fun c' x shown number => ?_
          obtain ⟨rfl, first⟩ := fits.2 c' x (mem_view_remove inv.sound shown) number
          exact removed_hidden inv.sound first c' x shown rfl
    | dismissing c id =>
        rw [next]
        obtain ⟨listed_eq, -, -, calls_eq⟩ := @counters_remove w.shared c id
        have calls : (w.shared.dismiss c id).calls = w.shared.calls := calls_eq
        refine inv_turn inv turn (sound_dismiss inv.sound) (fun u member _ => fits_dismiss inv.sound
          (fun r removed => undisturbed r removed u member) (inv.fits u member)) trivial nofun ?_ ?_
        · rw [Once, calls]
          exact inv.once
        · rw [calls]
          exact owed_turn inv turn nofun
            (fun _ _ shown => .inr (mem_view_remove inv.sound shown)) listed_eq.ge
    | setting c recs =>
        exact inv_turn inv turn (sound_set inv.sound)
          (fun u member _ => fits_set inv.sound (inv.fits u member)) trivial nofun inv.once
          (owed_turn inv turn nofun (fun _ _ shown => mem_view_set inv.sound shown)
            (Nat.le_add_right _ _))
    | failed n => exact inv_still inv turn trivial nofun fun _ was => was
    | answered => exact inv_still inv turn trivial nofun nofun

theorem inv_start : Inv start.shared start.pool := by
  refine ⟨⟨nofun, nofun, nofun, nofun, fun _ => List.nodup_nil, nofun⟩, nofun, ?_,
    ⟨List.nodup_nil, nofun⟩, nofun⟩
  exact fun _ _ => Nat.zero_le 1

/-- As long as no request disturbs another, every recommendation is migrated at most once, and not
by a request that began after it was dismissed. -/
theorem applied_at_most_once (es : List Event) (calm : Along step Calm start es) :
    ∀ w ∈ states step start es, Once w.shared := by
  intro w member
  have kept (w : World) (e : Event) (inv : Inv w.shared w.pool) (calm : Calm w e) :
      Inv (step w e).shared (step w e).pool := inv_step inv calm
  exact (invariant_along kept inv_start calm w member).once

end Steps

section Lab

instance (s : Store) : Decidable (Once s) := inferInstanceAs (Decidable (_ ∧ _))

def labRec (id : String) (vmid : Int64) : DRSRecommendation := ⟨id, "vm", vmid, "pve1", "pve2"⟩

def fine : Outside := ⟨true, true⟩

/-- Two recommendations are listed, one is applied and then the other is dismissed. -/
def oneAfterAnother : List Event :=
  .begins (.refresh "lab" [labRec "a" 100, labRec "b" 101]) fine ::
    .begins (.apply "lab" "a") fine :: List.replicate 6 (.goes 1 fine) ++
      [.begins (.dismiss "lab" "b") fine, .begins (.apply "lab" "b") fine, .goes 3 fine]

theorem one_after_another : Once (oneAfterAnother.foldl step start).shared :=
  applied_at_most_once oneAfterAnother (by decide +kernel) _ (last_mem_states _ _)

/-- Two clicks on the same recommendation. -/
def twoClicks : List Event :=
  .begins (.refresh "lab" [labRec "a" 100]) fine :: .begins (.apply "lab" "a") fine ::
    .begins (.apply "lab" "a") fine :: List.replicate 4 (.goes 1 fine) ++
      List.replicate 4 (.goes 2 fine)

/-- Both migrate the guest. -/
theorem two_clicks_migrate_twice : ¬Once (twoClicks.foldl step start).shared := by
  decide +kernel

end Lab

end DrsApply
