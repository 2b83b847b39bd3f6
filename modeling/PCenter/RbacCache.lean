import PCenter.Lib.Thread
import PCenter.Rbac

/-!
# Permission checks and revocations at the same time

A check loads the assignments of its user in three steps, each of them atomic: it looks into the
cache under the read lock, it reads the tables, and it stores what it read under the write lock.
A request that changes the tables commits, and then drops what the cache holds of one user or of
all. A run is any order of the steps of any such requests.

The tables that each change left, the changes whose invalidation has returned, and which of them
a check has seen are recorded for the statements only.
-/

namespace RbacCache

open Rbac Transition

section Changes

/-- A request to the tables, with the identifier and the time that it is given. -/
inductive Mutation where
  | createRole (uuid : String) (now : Int) (req : RoleRequest)
  | updateRole (id : String) (now : Int) (req : RoleRequest)
  | deleteRole (id : String)
  | createAssignment (uuid : String) (now : Int) (req : AssignRoleRequest)
  | deleteAssignment (id : String)

/-- `InvalidateUser` or `InvalidateAll` -/
inductive Invalidation where
  | user (userID : String)
  | all
  deriving DecidableEq, Repr

def Mutation.apply (db : DB) : Mutation → Except String DB
  | .createRole uuid now req => db.createRole uuid now req
  | .updateRole id now req => db.updateRole id now req
  | .deleteRole id => db.deleteRole id
  | .createAssignment uuid now req => db.createAssignment uuid now req
  | .deleteAssignment id => db.deleteAssignment id

/-- What the handler drops from the cache after the change. -/
def Mutation.invalidation : Mutation → Option Invalidation
  | .createRole _ _ _ => none
  | .updateRole _ _ _ => some .all
  | .deleteRole _ => some .all
  | .createAssignment _ _ req => some (.user req.userID)
  | .deleteAssignment _ => some .all

def Invalidation.apply (s : Service) : Invalidation → Service
  | .user userID => s.invalidateUser userID
  | .all => s.invalidateAll

def Invalidation.covers (userID : String) : Invalidation → Bool
  | .user u => u = userID
  | .all => true

/-- A change that is to be invalidated, by how many states the tables had before. -/
structure Change where
  position : Nat
  invalidation : Invalidation
  deriving DecidableEq, Repr

end Changes

section Steps

structure Shared where
  service : Service
  /-- The tables at the start, and as each change left them. -/
  tables : List DB
  /-- The changes whose invalidation has returned. -/
  returned : List Change

/-- A call of `HasPermission`. -/
structure Check where
  userID : String
  permission : String
  objectType : String
  objectID : String

inductive Request where
  | check (c : Check)
  | change (m : Mutation)

/-- Where a request is. A check remembers which invalidations had returned when it began, and
what it stores remembers how many states the tables had when it read them. -/
inductive Job where
  | looking (c : Check)
  | reading (c : Check) (seen : List Change)
  | storing (c : Check) (seen : List Change) (uc : UserCache) (states : Nat)
  | decided (c : Check) (seen : List Change) (uc : Option UserCache)
  | changing (m : Mutation)
  | invalidating (change : Change)
  | ended

/-- What the outside contributes to a step. -/
structure Outside where
  now : Int
  /-- The query of the tables fails. -/
  fails : Bool

def request : Request → Job
  | .check c => .looking c
  | .change m => .changing m

/-- The entry that `getUserCache` finds, if it is not too old. -/
def cached (s : Service) (now : Int) (userID : String) : Option UserCache :=
  (s.cache.lookup userID).filter fun uc => now - uc.loadedAt < cacheTTL

def look (o : Outside) (s : Shared) (c : Check) : Job :=
  match cached s.service o.now c.userID with
  | some uc => .decided c s.returned (some uc)
  | none => .reading c s.returned

def read (o : Outside) (s : Shared) (c : Check) (seen : List Change) : Job :=
  if o.fails then .decided c seen none
  else .storing c seen ⟨s.service.db.getUserAssignments c.userID, o.now⟩ s.tables.length

def store (s : Shared) (c : Check) (uc : UserCache) : Shared :=
  { s with service := { s.service with cache := s.service.cache.insert c.userID uc } }

def write (s : Shared) (db : DB) : Shared :=
  { s with service := { s.service with db := db }, tables := s.tables ++ [db] }

/-- The rest of a handler whose change is committed. -/
def committed (s : Shared) (m : Mutation) : Job :=
  match m.invalidation with
  | none => .ended
  | some invalidation => .invalidating ⟨s.tables.length, invalidation⟩

def invalidate (s : Shared) (change : Change) : Shared :=
  { s with
    service := change.invalidation.apply s.service
    returned := s.returned ++ [change] }

def next (o : Outside) (s : Shared) : Job → Job × Shared
  | .looking c => (look o s c, s)
  | .reading c seen => (read o s c seen, s)
  | .storing c seen uc _ => (.decided c seen (some uc), store s c uc)
  | .decided c seen uc => (.decided c seen uc, s)
  | .changing m =>
      match m.apply s.service.db with
      | .error _ => (.ended, s)
      | .ok db => (committed s m, write s db)
  | .invalidating change => (.ended, invalidate s change)
  | .ended => (.ended, s)

def advance (job : Job) (o : Outside) (s : Shared) : Option (Job × Shared × List Job) :=
  some ((next o s job).1, (next o s job).2, [])

abbrev World := Thread.World Job Shared

abbrev Move := Thread.Event Request Outside

abbrev go : World → Move → World := Thread.step advance request

/-- Nobody has asked yet, and the cache is empty. -/
def idle (db : DB) : World := ⟨⟨⟨db, ∅⟩, [db], []⟩, [], false⟩

/-- What `HasPermission` answers; a failed query denies. -/
def Job.answer (getAncestors : String → String → List ObjectRef) : Job → Option Bool
  | .decided _ _ none => some false
  | .decided c _ (some uc) =>
      some (grants getAncestors uc.loaded c.permission c.objectType c.objectID)
  | _ => none

theorem getUserCache_of_cached {s : Service} {now : Int} {userID : String} {uc : UserCache}
    (found : cached s now userID = some uc) : s.getUserCache now userID = (uc, s) := by
  obtain ⟨held, recent⟩ := Option.filter_eq_some_iff.mp found
  rw [Service.getUserCache, held]
  exact if_pos (of_decide_eq_true recent)

theorem getUserCache_of_not_cached {s : Service} {now : Int} {userID : String}
    (missing : cached s now userID = none) :
    s.getUserCache now userID = s.loadUser now userID := by
  rw [Service.getUserCache]
  cases held : s.cache.lookup userID with
  | none => rfl
  | some uc =>
      rw [cached, held, Option.filter_some] at missing
      refine if_neg fun recent => ?_
      rw [if_pos (decide_eq_true recent)] at missing
      cases missing

/-- A check that nothing interrupts is the one of the sequential service. -/
theorem check_uninterrupted {o : Outside} (s : Shared) (c : Check) (answers : o.fails = false) :
    (fun p : Job × Shared => next o p.2 p.1)^[3] (.looking c, s) =
      (.decided c s.returned (some (s.service.getUserCache o.now c.userID).1),
        { s with service := (s.service.getUserCache o.now c.userID).2 }) := by
  cases found : cached s.service o.now c.userID with
  | some uc =>
      have looked : next o s (.looking c) = (.decided c s.returned (some uc), s) := by
        rw [next, look, found]
      rw [getUserCache_of_cached found, Function.iterate_succ_apply, looked]
      rfl
  | none =>
      have looked : next o s (.looking c) = (.reading c s.returned, s) := by
        rw [next, look, found]
      have loads : read o s c s.returned = .storing c s.returned
          ⟨s.service.db.getUserAssignments c.userID, o.now⟩ s.tables.length := by
        rw [read, answers]
        rfl
      rw [getUserCache_of_not_cached found, Function.iterate_succ_apply, looked,
        Function.iterate_succ_apply]
      simp only [next, loads]
      rfl

end Steps

section Freshness

/-- What was loaded is what the tables said about the user, at the position or later. -/
def Recent (tables : List DB) (position : Nat) (userID : String)
    (loaded : List RoleAssignment × List Role) : Prop :=
  ∃ db ∈ tables.drop position, loaded = db.getUserAssignments userID

/-- The change at the position left alone what the tables say about the user. -/
def Unaffected (tables : List DB) (position : Nat) (userID : String) : Prop :=
  ∃ before db db' after, tables = before ++ db :: db' :: after ∧ position = before.length + 1 ∧
    db'.getUserAssignments userID = db.getUserAssignments userID

/-- Every check decides on assignments and roles at least as new as each change whose
invalidation had returned when the check began. A change that is invalidated for another user
only did not concern the user of the check. -/
def Effective (w : World) : Prop :=
  ∀ c seen uc, .decided c seen (some uc) ∈ w.pool → ∀ change ∈ seen,
    (change.invalidation.covers c.userID = true →
      Recent w.shared.tables change.position c.userID uc.loaded) ∧
      (change.invalidation.covers c.userID = false → c.userID ≠ "" →
        Unaffected w.shared.tables change.position c.userID)

/-- A load stores what it read unless a change since then has been invalidated for its user. -/
def Job.OnTime (s : Shared) : Job → Prop
  | .storing c _ _ states => ∀ change ∈ s.returned,
      change.invalidation.covers c.userID = true → change.position < states
  | _ => True

instance (s : Shared) : ∀ job : Job, Decidable (job.OnTime s)
  | .storing c _ _ states => inferInstanceAs (Decidable (∀ change ∈ s.returned,
      change.invalidation.covers c.userID = true → change.position < states))
  | .looking _ => isTrue trivial
  | .reading _ _ => isTrue trivial
  | .decided _ _ _ => isTrue trivial
  | .changing _ => isTrue trivial
  | .invalidating _ => isTrue trivial
  | .ended => isTrue trivial

def OnTime (w : World) (e : Move) : Prop :=
  ∀ actor ∈ Thread.actor request w e, actor.1.OnTime w.shared

instance (w : World) (e : Move) : Decidable (OnTime w e) :=
  inferInstanceAs (Decidable (∀ actor ∈ Thread.actor request w e, _))

end Freshness

section Tables

variable {tables : List DB} {position : Nat} {userID : String}
  {loaded : List RoleAssignment × List Role}

theorem Recent.append (recent : Recent tables position userID loaded) (more : List DB) :
    Recent (tables ++ more) position userID loaded := by
  obtain ⟨db, later, same⟩ := recent
  refine ⟨db, ?_, same⟩
  rw [List.drop_append]
  exact List.mem_append_left _ later

theorem Unaffected.append (unaffected : Unaffected tables position userID) (more : List DB) :
    Unaffected (tables ++ more) position userID := by
  obtain ⟨before, db, db', after, split, place, same⟩ := unaffected
  exact ⟨before, db, db', after ++ more, by rw [split]; simp, place, same⟩

/-- What the tables say now is as new as any change. -/
theorem recent_last {before : List DB} {db : DB} (bound : position < (before ++ [db]).length) :
    Recent (before ++ [db]) position userID (db.getUserAssignments userID) := by
  rw [List.length_append, List.length_singleton] at bound
  refine ⟨db, ?_, rfl⟩
  rw [List.drop_append_of_le_length (by omega)]
  exact List.mem_append_right _ (List.mem_singleton_self db)

/-- The change is one of those that the tables record. -/
structure Change.Recorded (tables : List DB) (change : Change) : Prop where
  bound : change.position < tables.length
  spares : ∀ userID, change.invalidation.covers userID = false → userID ≠ "" →
    Unaffected tables change.position userID

theorem Change.Recorded.append {change : Change} (recorded : change.Recorded tables)
    (more : List DB) : change.Recorded (tables ++ more) where
  bound := by
    have bound := recorded.bound
    rw [List.length_append]
    omega
  spares := fun userID other named => (recorded.spares userID other named).append more

/-- A change that only one user's entry is dropped for concerns nobody else. -/
theorem Mutation.spares {m : Mutation} {db db' : DB} {invalidation : Invalidation}
    (applied : m.apply db = .ok db') (invalidates : m.invalidation = some invalidation)
    (other : invalidation.covers userID = false) (named : userID ≠ "") :
    db'.getUserAssignments userID = db.getUserAssignments userID := by
  cases m with
  | createRole uuid now req => cases invalidates
  | createAssignment uuid now req =>
      obtain rfl : Invalidation.user req.userID = invalidation := Option.some.inj invalidates
      refine DB.getUserAssignments_createAssignment applied named ?_
      exact Ne.symm (of_decide_eq_false other)
  | updateRole id now req =>
      obtain rfl : Invalidation.all = invalidation := Option.some.inj invalidates
      cases other
  | deleteRole id =>
      obtain rfl : Invalidation.all = invalidation := Option.some.inj invalidates
      cases other
  | deleteAssignment id =>
      obtain rfl : Invalidation.all = invalidation := Option.some.inj invalidates
      cases other

end Tables

section Invariant

/-- What the cache holds of a user is as new as every change invalidated for it. -/
structure Consistent (s : Shared) : Prop where
  tables : ∃ before, s.tables = before ++ [s.service.db]
  returned : ∀ change ∈ s.returned, change.Recorded s.tables
  held : ∀ userID uc, s.service.cache.lookup userID = some uc → ∀ change ∈ s.returned,
    change.invalidation.covers userID = true →
      Recent s.tables change.position userID uc.loaded

/-- A decision on what was loaded, after the changes that the check has seen. -/
def Decides (tables : List DB) (c : Check) (seen : List Change)
    (loaded : List RoleAssignment × List Role) : Prop :=
  ∀ change ∈ seen, change.Recorded tables ∧ (change.invalidation.covers c.userID = true →
    Recent tables change.position c.userID loaded)

/-- What is known of a request under way. -/
def Job.Sound (tables : List DB) : Job → Prop
  | .reading _ seen => ∀ change ∈ seen, change.Recorded tables
  | .storing c seen uc states => Decides tables c seen uc.loaded ∧
      ∀ position < states, Recent tables position c.userID uc.loaded
  | .decided c seen (some uc) => Decides tables c seen uc.loaded
  | .invalidating change => change.Recorded tables
  | _ => True

variable {s : Shared} {o : Outside}

theorem Decides.append {tables : List DB} {c : Check} {seen : List Change}
    {loaded : List RoleAssignment × List Role} (decides : Decides tables c seen loaded)
    (more : List DB) : Decides (tables ++ more) c seen loaded := by
  intro change member
  obtain ⟨recorded, recent⟩ := decides change member
  exact ⟨recorded.append more, fun covered => (recent covered).append more⟩

theorem Job.Sound.append {tables : List DB} {job : Job} (sound : job.Sound tables)
    (more : List DB) : job.Sound (tables ++ more) := by
  cases job with
  | looking c => trivial
  | reading c seen => exact fun change member => (sound change member).append more
  | storing c seen uc states =>
      exact ⟨sound.1.append more, fun position earlier => (sound.2 position earlier).append more⟩
  | decided c seen uc =>
      cases uc with
      | none => trivial
      | some uc => exact Decides.append sound more
  | changing m => trivial
  | invalidating change => exact Change.Recorded.append sound more
  | ended => trivial

theorem sound_look (consistent : Consistent s) (c : Check) : (look o s c).Sound s.tables := by
  rw [look]
  cases found : cached s.service o.now c.userID with
  | none => exact consistent.returned
  | some uc =>
      obtain ⟨held, -⟩ := Option.filter_eq_some_iff.mp found
      intro change member
      exact ⟨consistent.returned change member,
        consistent.held c.userID uc held change member⟩

theorem sound_read (consistent : Consistent s) {c : Check} {seen : List Change}
    (recorded : ∀ change ∈ seen, change.Recorded s.tables) :
    (read o s c seen).Sound s.tables := by
  obtain ⟨before, tables⟩ := consistent.tables
  have recent : ∀ position < s.tables.length, Recent s.tables position c.userID
      (s.service.db.getUserAssignments c.userID) := by
    intro position bound
    rw [tables] at bound ⊢
    exact recent_last bound
  rw [read]
  split
  · trivial
  · exact ⟨fun change member => ⟨recorded change member,
      fun _ => recent change.position (recorded change member).bound⟩, recent⟩

theorem consistent_store (consistent : Consistent s) {c : Check} {seen : List Change}
    {uc : UserCache} {states : Nat} (sound : Job.Sound s.tables (.storing c seen uc states))
    (ontime : Job.OnTime s (.storing c seen uc states)) : Consistent (store s c uc) where
  tables := consistent.tables
  returned := consistent.returned
  held := by
    intro userID uc' held change member covered
    have entry : (s.service.cache.insert c.userID uc).lookup userID = some uc' := held
    rw [FiniteMap.lookup_insert_eq] at entry
    split at entry
    · rename_i same
      obtain rfl := Option.some.inj entry
      subst same
      exact sound.2 change.position (ontime change member covered)
    · exact consistent.held userID uc' entry change member covered

theorem consistent_write (consistent : Consistent s) (db : DB) : Consistent (write s db) where
  tables := ⟨s.tables, rfl⟩
  returned := fun change member => (consistent.returned change member).append [db]
  held := fun userID uc held change member covered =>
    (consistent.held userID uc held change member covered).append [db]

theorem sound_committed (consistent : Consistent s) {m : Mutation} {db : DB}
    (applied : m.apply s.service.db = .ok db) : (committed s m).Sound (write s db).tables := by
  obtain ⟨before, tables⟩ := consistent.tables
  rw [committed]
  cases invalidates : m.invalidation with
  | none => trivial
  | some invalidation =>
      constructor
      · simp [write]
      · intro userID other named
        refine ⟨before, s.service.db, db, [], ?_, ?_, ?_⟩
        · simp [write, tables]
        · simp [tables]
        · exact Mutation.spares applied invalidates other named

/-- Once a user's entry is dropped there is none. -/
theorem lookup_dropped {service : Service} {invalidation : Invalidation} {userID : String}
    (covered : invalidation.covers userID = true) :
    (invalidation.apply service).cache.lookup userID = none := by
  cases invalidation with
  | all => rfl
  | user u =>
      obtain rfl : u = userID := of_decide_eq_true covered
      exact AList.lookup_erase _ _

theorem lookup_of_lookup_dropped {service : Service} {invalidation : Invalidation}
    {userID : String} {uc : UserCache}
    (held : (invalidation.apply service).cache.lookup userID = some uc) :
    service.cache.lookup userID = some uc := by
  cases invalidation with
  | all => cases held
  | user u =>
      by_cases same : userID = u
      · have covered : (Invalidation.user u).covers userID = true := decide_eq_true same.symm
        cases (lookup_dropped covered).symm.trans held
      · exact (AList.lookup_erase_ne same).symm.trans held

theorem consistent_invalidate (consistent : Consistent s) {change : Change}
    (recorded : change.Recorded s.tables) : Consistent (invalidate s change) where
  tables := by
    have same : (change.invalidation.apply s.service).db = s.service.db := by
      cases change.invalidation <;> rfl
    rw [invalidate, same]
    exact consistent.tables
  returned := by
    intro other member
    rcases List.mem_append.mp member with earlier | new
    · exact consistent.returned other earlier
    · rw [List.mem_singleton.mp new]
      exact recorded
  held := by
    intro userID uc held other member covered
    rcases List.mem_append.mp member with earlier | new
    · exact consistent.held userID uc (lookup_of_lookup_dropped held) other earlier covered
    · rw [List.mem_singleton.mp new] at covered
      cases (lookup_dropped covered).symm.trans held

/-- What one step of a request does to the tables, the cache and the request. -/
theorem sound_next (consistent : Consistent s) {job : Job} (sound : job.Sound s.tables)
    (ontime : job.OnTime s) : Consistent (next o s job).2 ∧
      (next o s job).1.Sound (next o s job).2.tables ∧
        ∃ more, (next o s job).2.tables = s.tables ++ more := by
  have still : ∃ more, s.tables = s.tables ++ more := ⟨[], (List.append_nil _).symm⟩
  cases job with
  | looking c => exact ⟨consistent, sound_look consistent c, still⟩
  | reading c seen => exact ⟨consistent, sound_read consistent sound, still⟩
  | storing c seen uc states =>
      exact ⟨consistent_store consistent sound ontime, sound.1, still⟩
  | decided c seen uc => exact ⟨consistent, sound, still⟩
  | changing m =>
      rw [next]
      cases applied : m.apply s.service.db with
      | error err => exact ⟨consistent, trivial, still⟩
      | ok db =>
          exact ⟨consistent_write consistent db, sound_committed consistent applied,
            [db], rfl⟩
  | invalidating change => exact ⟨consistent_invalidate consistent sound, trivial, still⟩
  | ended => exact ⟨consistent, trivial, still⟩

end Invariant

section Runs

structure Inv (w : World) : Prop where
  shared : Consistent w.shared
  pool : ∀ job ∈ w.pool, job.Sound w.shared.tables

theorem sound_request (q : Request) (tables : List DB) : (request q).Sound tables := by
  cases q with
  | check c => trivial
  | change m => trivial

theorem inv_go {w : World} (inv : Inv w) {e : Move} (ontime : OnTime w e) : Inv (go w e) := by
  rcases Thread.step_cases advance request w e with ⟨_, same⟩ |
    ⟨t, o, before, after, actor, _, turn, ⟨stuck, _⟩ | ⟨t', s, new, advanced, moved⟩⟩
  · rw [go, same]
    exact inv
  · cases stuck
  · obtain ⟨rfl, rfl, rfl⟩ := by simpa [advance] using advanced
    have own : t.Sound w.shared.tables :=
      turn.actor_of (fun q => sound_request q _) inv.pool
    have timely : t.OnTime w.shared := ontime (t, o) (by rw [actor]; rfl)
    obtain ⟨consistent, sound, more, grown⟩ := @sound_next w.shared o inv.shared t own timely
    rw [go, moved]
    refine ⟨consistent, ?_⟩
    intro job member
    rcases turn.mem_cases member with old | rfl | new
    · have kept := (inv.pool job old).append more
      rw [← grown] at kept
      exact kept
    · exact sound
    · cases new

theorem effective_of_inv {w : World} (inv : Inv w) : Effective w := by
  intro c seen uc member change saw
  obtain ⟨recorded, recent⟩ := inv.pool _ member change saw
  exact ⟨recent, fun other named => recorded.spares c.userID other named⟩

theorem inv_idle (db : DB) : Inv (idle db) where
  shared :=
    { tables := ⟨[], rfl⟩
      returned := List.forall_mem_nil _
      held := fun userID uc held => by cases held }
  pool := List.forall_mem_nil _

/-- What a load stores late is what the next checks of the user decide on, until it expires. -/
theorem look_store {s : Shared} {c c' : Check} {uc : UserCache} {o : Outside}
    (same : c'.userID = c.userID) (recent : o.now - uc.loadedAt < cacheTTL) :
    look o (store s c uc) c' = .decided c' s.returned (some uc) := by
  have found : cached (store s c uc).service o.now c'.userID = some uc := by
    rw [cached, same]
    refine Option.filter_eq_some_iff.mpr ⟨?_, decide_eq_true recent⟩
    exact AList.lookup_insert _
  rw [look, found]
  rfl

/-- In a run in which no load stores what it read before a change that has been invalidated
since, every check decides on data as new as the changes invalidated before it began. -/
theorem revocations_effective {db : DB} {es : List Move} (ontime : Along go OnTime (idle db) es) :
    ∀ w ∈ states go (idle db) es, Effective w := by
  have all : ∀ w ∈ states go (idle db) es, Inv w := by
    apply invariant_along _ (inv_idle db) ontime
    exact fun _ _ inv ontime => inv_go inv ontime
  exact fun w member => effective_of_inv (all w member)

/-- One user, who may do everything to one VM. -/
def oneRole : DB :=
  ⟨[⟨"r", "all", "", false, [permAll], 0, 0⟩], [⟨"a", "u", "r", "vm", "100", true, 0⟩]⟩

def noRole : DB := { oneRole with assignments := [] }

def powerOff : Check := ⟨"u", "vm.power", "vm", "100"⟩

def asked : Move := .begins (.check powerOff) ⟨0, false⟩

/-- The role is taken away. -/
def revoked : Move := .begins (.change (.deleteAssignment "a")) ⟨0, false⟩

def resumed (i : Nat) : Move := .goes i ⟨0, false⟩

/-- A check has read the tables when the role is taken away, and stores what it read after the
cache has been cleared; then the user asks again. -/
def lateLoad : List Move := [asked, resumed 0, revoked, resumed 1, resumed 0, asked]

theorem late_load_revives_role :
    (lateLoad.foldl go (idle oneRole)).shared.service.db = noRole ∧
      (lateLoad.foldl go (idle oneRole)).pool.map (Job.answer fun _ _ => []) =
        [some true, none, some true] ∧
      ¬∀ w ∈ states go (idle oneRole) lateLoad, Effective w := by
  refine ⟨rfl, by decide +kernel, fun all => ?_⟩
  have effective := all _ (last_mem_states _ _)
  have last : (lateLoad.foldl go (idle oneRole)).pool[2]? = some (.decided powerOff [⟨1, .all⟩]
      (some ⟨oneRole.getUserAssignments "u", 0⟩)) := rfl
  have left : (lateLoad.foldl go (idle oneRole)).shared.tables.drop 1 = [noRole] := rfl
  obtain ⟨recent, -⟩ := effective _ _ _ (List.mem_of_getElem? last) _ (List.mem_singleton_self _)
  obtain ⟨db, later, same⟩ := recent rfl
  rw [left] at later
  obtain rfl := List.mem_singleton.mp later
  have one : (oneRole.getUserAssignments "u").1.length = 1 := rfl
  have loaded : oneRole.getUserAssignments "u" = noRole.getUserAssignments "u" := same
  rw [loaded] at one
  cases one

/-- The first check stores before the role is taken away, and the second one is refused. -/
def timelyLoad : List Move :=
  [asked, resumed 0, resumed 0, revoked, resumed 1, asked, resumed 2, resumed 2]

theorem timely_load_effective :
    (timelyLoad.foldl go (idle oneRole)).pool.map (Job.answer fun _ _ => []) =
        [some true, none, some false] ∧
      ∀ w ∈ states go (idle oneRole) timelyLoad, Effective w := by
  refine ⟨by decide +kernel, revocations_effective ?_⟩
  decide +kernel

end Runs

end RbacCache
