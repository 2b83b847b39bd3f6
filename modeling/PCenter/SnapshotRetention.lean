import PCenter.ScheduledActions

/-!
# What a rotation of snapshots deletes

`rotateSnapshots` creates a snapshot and deletes the oldest of those with the prefix `auto-`. How
many of them stay is a number of the parameters, which is tested as a float and then converted to
an integer: less than one becomes zero, and from 2^63 on it becomes negative.
-/

namespace SnapshotRetention

open GoText GuestTasks Program ScheduledActions

section Property

/-- All that a program asks, the end of the process among it. -/
def asks {A : Type} (server : Server) (node : String) : Code A → List ApiCall → List Ask
  | .done _, _ => []
  | .act c next, sent =>
      c :: if crash : c = .crash then []
        else asks server node (next (server c crash sent)) (sent ++ (c.apiCall node).toList)

/-- The snapshot that a request deletes. -/
def deletion : Ask → Option (GuestType × Int64 × String)
  | .start (.deleteSnapshot gt vmid name) => some (gt, vmid, name)
  | _ => none

def deletions (as : List Ask) : List (GuestType × Int64 × String) := as.filterMap deletion

def autos (snaps : List Snapshot) : List Snapshot :=
  snaps.filter fun s => hasPrefix autoPrefix s.name

/-- By time and then by name. -/
def Newer (a b : Snapshot) : Prop :=
  a.snapTime > b.snapTime ∨ a.snapTime = b.snapTime ∧ a.name > b.name

instance : DecidableRel Newer := fun _ _ => inferInstanceAs (Decidable (_ ∨ _))

/-- The snapshots with the prefix, newest first. -/
structure NewestFirst (snaps sorted : List Snapshot) : Prop where
  listed : sorted.Perm (autos snaps)
  order : sorted.Pairwise fun a b => ¬Newer b a

/-- How many shall stay. -/
def kept (v : Rat) : Nat := max 1 v.floor.toNat

/-- The surplus is deleted and nothing else, and the process goes on. -/
structure Prunes (gt : GuestType) (vmid : Int64) (snaps : List Snapshot) (v : Rat)
    (as : List Ask) : Prop where
  surplus : ∀ sorted, NewestFirst snaps sorted →
    (deletions as).Perm ((sorted.drop (kept v)).map fun s => (gt, vmid, s.name))
  keepsNewest : ∀ sorted, NewestFirst snaps sorted → ∀ newest ∈ sorted.head?,
    ∀ d ∈ deletions as, d.2.2 ≠ newest.name
  onlyAutos : ∀ d ∈ deletions as, hasPrefix autoPrefix d.2.2 = true
  inBounds : .crash ∉ as

/-- The retention is in the range of an integer and at least one, unless there is nothing to
delete, and no snapshot to delete has the name of the newest. -/
structure Restrained (snaps : List Snapshot) (v : Rat) : Prop where
  bounded : v < 2 ^ 63
  whole : 1 ≤ v ∨ autos snaps = []
  names : ∀ sorted, NewestFirst snaps sorted → ∀ newest ∈ sorted.head?,
    ∀ s ∈ sorted.drop (kept v), s.name ≠ newest.name

/-- The new snapshot is created, and then the snapshots are listed. -/
structure Answers (server : Server) (node : String) (gt : GuestType) (vmid : Int64)
    (params : Scheduler.Params) (snaps : List Snapshot) : Prop where
  created : ∀ name answered, ∃ upid,
    server (.start (createCall gt vmid name params)) answered [] = .ok upid
  listed : ∀ name answered,
    server (.listSnapshots gt vmid) answered [(createCall gt vmid name params).apiCall node] =
      .ok snaps

end Property

section Order

variable {snaps sorted : List Snapshot}

theorem newer_iff {a b : Snapshot} : newer a b = true ↔ Newer a b := by
  rw [newer, Newer]
  by_cases same : a.snapTime = b.snapTime
  · have irrefl : ¬b.snapTime > b.snapTime := by
      rw [gt_iff_lt, Int64.lt_iff_toInt_lt]
      omega
    simp [same, irrefl]
  · simp [same]

theorem newer_total (a b : Snapshot) : ¬Newer a b ∨ ¬Newer b a := by
  by_cases before : Newer a b
  · right
    rintro (later | ⟨same, after⟩)
    · rcases before with earlier | ⟨same, -⟩
      · rw [gt_iff_lt, Int64.lt_iff_toInt_lt] at later earlier
        omega
      · rw [same, gt_iff_lt, Int64.lt_iff_toInt_lt] at later
        omega
    · rcases before with earlier | ⟨-, before⟩
      · rw [same, gt_iff_lt, Int64.lt_iff_toInt_lt] at earlier
        omega
      · exact String.lt_irrefl _ (String.lt_trans before after)
  · exact .inl before

/-- No two different snapshots are equally new. -/
theorem eq_of_not_newer {a b : Snapshot} (left : ¬Newer a b) (right : ¬Newer b a) : a = b := by
  have times : a.snapTime = b.snapTime := by
    have first : ¬a.snapTime > b.snapTime := fun later => left (.inl later)
    have second : ¬b.snapTime > a.snapTime := fun later => right (.inl later)
    rw [gt_iff_lt, Int64.lt_iff_toInt_lt] at first second
    rw [← Int64.toInt_inj]
    omega
  have names : a.name = b.name :=
    String.le_antisymm (String.not_lt.mp fun after => left (.inr ⟨times, after⟩))
      (String.not_lt.mp fun after => right (.inr ⟨times.symm, after⟩))
  cases a
  cases b
  simp_all

theorem newer_trans {a b c : Snapshot} (first : ¬Newer b a) (second : ¬Newer c b) :
    ¬Newer c a := by
  rintro (later | ⟨same, after⟩)
  · have one : ¬b.snapTime > a.snapTime := fun later => first (.inl later)
    have two : ¬c.snapTime > b.snapTime := fun later => second (.inl later)
    rw [gt_iff_lt, Int64.lt_iff_toInt_lt] at one two later
    omega
  · have one : ¬b.snapTime > a.snapTime := fun later => first (.inl later)
    have two : ¬c.snapTime > b.snapTime := fun later => second (.inl later)
    have times : b.snapTime = a.snapTime := by
      rw [gt_iff_lt, Int64.lt_iff_toInt_lt] at one two
      rw [← Int64.toInt_inj] at same ⊢
      omega
    have low : b.name ≤ a.name := String.not_lt.mp fun after => first (.inr ⟨times, after⟩)
    have high : c.name ≤ b.name :=
      String.not_lt.mp fun after => second (.inr ⟨same.trans times.symm, after⟩)
    exact String.not_lt.mpr (String.le_trans high low) after

theorem eligible_newestFirst : NewestFirst snaps (eligible snaps) := by
  have same : (snaps.filter fun s => s.name ≠ "current" && hasPrefix autoPrefix s.name) =
      autos snaps := by
    refine List.filter_congr fun s _ => ?_
    by_cases current : s.name = "current"
    · rw [current]
      decide
    · simp [current]
  have order := @List.pairwise_mergeSort Snapshot (fun a b => !newer b a)
    (fun a b c first second => by
      simp only [Bool.not_eq_true', ← Bool.not_eq_true, newer_iff] at first second ⊢
      exact newer_trans first second)
    (fun a b => by
      simp only [Bool.or_eq_true, Bool.not_eq_true', ← Bool.not_eq_true, newer_iff]
      exact newer_total b a) (autos snaps)
  rw [eligible, same]
  exact ⟨List.mergeSort_perm _ _, order.imp fun {a b} before => by
    simpa only [Bool.not_eq_true', ← Bool.not_eq_true, newer_iff] using before⟩

/-- There is one way to put the snapshots in this order. -/
theorem NewestFirst.eq_eligible (first : NewestFirst snaps sorted) : sorted = eligible snaps := by
  have eligible_ := @eligible_newestFirst snaps
  apply List.Perm.eq_of_pairwise _ first.order eligible_.order
    (first.listed.trans eligible_.listed.symm)
  intro a b _ _ before after
  exact eq_of_not_newer after before

end Order

section Trace

variable {A : Type} {server : Server} {node : String} {gt : GuestType} {vmid : Int64}
  {params : Scheduler.Params} {snaps : List Snapshot}

theorem asks_act {c : Ask} {next : Reply c → Code A} {sent : List ApiCall}
    (answered : c ≠ .crash) :
    asks server node (.act c next) sent =
      c :: asks server node (next (server c answered sent)) (sent ++ (c.apiCall node).toList) := by
  rw [asks, dif_neg answered]

theorem asks_deleteAll (doomed : List Snapshot) {f : List String → Code A}
    (ends : ∀ errs, ∃ a, f errs = .done a) (sent : List ApiCall) :
    asks server node (deleteAll gt vmid doomed >>= f) sent =
      doomed.map fun s => .start (.deleteSnapshot gt vmid s.name) := by
  induction doomed generalizing f sent with
  | nil =>
      obtain ⟨a, done⟩ := ends []
      rw [deleteAll, pure_eq, done_bind, done]
      rfl
  | cons s doomed ih =>
      have answered : Ask.start (.deleteSnapshot gt vmid s.name) ≠ .crash := by
        intro same
        cases same
      rw [deleteAll, ScheduledActions.issue, ask_bind, act_bind, asks_act answered, List.map_cons]
      apply congrArg
      rw [bind_assoc]
      apply ih
      intro errs
      cases server (.start (.deleteSnapshot gt vmid s.name)) answered sent with
      | ok _ => exact ends errs
      | error err => exact ends _

/-- What a pruning asks for after the list. -/
def pruning (gt : GuestType) (vmid : Int64) (snaps : List Snapshot) (retention : Int) : List Ask :=
  if ((eligible snaps).length : Int) ≤ retention then []
  else if retention < 0 then [.crash]
  else
    ((eligible snaps).drop retention.toNat).map fun s => .start (.deleteSnapshot gt vmid s.name)

theorem asks_prune {retention : Int64} {sent : List ApiCall} {f : Except String Unit → Code A}
    (ends : ∀ r, ∃ a, f r = .done a)
    (listed : ∀ answered, server (.listSnapshots gt vmid) answered sent = .ok snaps) :
    asks server node (pruneAutoSnapshots gt vmid retention >>= f) sent =
      .listSnapshots gt vmid :: pruning gt vmid snaps retention.toInt := by
  have answered : Ask.listSnapshots gt vmid ≠ .crash := by
    intro same
    cases same
  rw [pruneAutoSnapshots, ScheduledActions.issue, ask_bind, act_bind, asks_act answered,
    listed answered]
  apply congrArg
  dsimp only
  rw [pruning]
  by_cases enough : ((eligible snaps).length : Int) ≤ retention.toInt
  · obtain ⟨a, done⟩ := ends (.ok ())
    rw [if_pos enough, if_pos enough, pure_eq, done_bind, done]
    rfl
  · rw [if_neg enough, if_neg enough]
    by_cases negative : retention.toInt < 0
    · rw [if_pos negative, if_pos negative]
      rfl
    · rw [if_neg negative, if_neg negative, bind_assoc]
      apply asks_deleteAll
      intro errs
      by_cases fine : errs = []
      · rw [if_pos fine]
        exact ends _
      · rw [if_neg fine]
        exact ends _

theorem asks_rotate (answers : Answers server node gt vmid params snaps) :
    ∃ name, asks server node (rotateSnapshots gt vmid params) [] =
      .now :: .start (createCall gt vmid name params) :: .listSnapshots gt vmid ::
        pruning gt vmid snaps (retentionOf params).toInt := by
  have ticks : Ask.now ≠ .crash := by
    intro same
    cases same
  refine ⟨autoPrefix ++ stamp (server .now ticks []), ?_⟩
  have starts : Ask.start (createCall gt vmid (autoPrefix ++ stamp (server .now ticks [])) params) ≠
      .crash := by
    intro same
    cases same
  obtain ⟨upid, created⟩ := answers.created _ starts
  rw [rotateSnapshots, ScheduledActions.issue, ask_bind, asks_act ticks]
  apply congrArg
  have silent : [] ++ (Ask.now.apiCall node).toList = [] := rfl
  rw [silent, ScheduledActions.issue, ask_bind, asks_act starts, created]
  apply congrArg
  refine asks_prune (fun r => ?_) (answers.listed _)
  cases r <;> exact ⟨_, rfl⟩

end Trace

section Result

variable {gt : GuestType} {vmid : Int64} {snaps : List Snapshot} {v : Rat}

theorem retention_small (positive : 0 < v) (small : v < 2 ^ 63) :
    (Float64.toInt64 v).toInt = v.floor := by
  have low : 0 ≤ v.floor := Rat.le_floor_iff.mpr (by exact_mod_cast positive.le)
  have high : v.floor < 2 ^ 63 := by
    rw [Rat.floor_lt_iff]
    exact_mod_cast small
  rw [Float64.toInt64, if_pos positive.le]
  rw [if_pos ⟨by omega, high⟩, Int64.toInt_ofInt_of_le (by omega) high]

theorem retention_huge (positive : 0 < v) (huge : ¬v < 2 ^ 63) :
    (Float64.toInt64 v).toInt = -2 ^ 63 := by
  have high : ¬v.floor < 2 ^ 63 := by
    rw [Rat.floor_lt_iff]
    exact_mod_cast huge
  rw [Float64.toInt64, if_pos positive.le]
  rw [if_neg fun range => high range.2]
  rfl

theorem pruning_negative {retention : Int} (negative : retention < 0) :
    pruning gt vmid snaps retention = [.crash] := by
  rw [pruning, if_neg (by omega), if_pos negative]

theorem pruning_nonneg {retention : Int} (nonneg : 0 ≤ retention) :
    pruning gt vmid snaps retention =
      ((eligible snaps).drop retention.toNat).map fun s => .start (.deleteSnapshot gt vmid s.name) := by
  rw [pruning]
  by_cases enough : ((eligible snaps).length : Int) ≤ retention
  · rw [if_pos enough, List.drop_eq_nil_of_le (by omega), List.map_nil]
  · rw [if_neg enough, if_neg (by omega)]

theorem deletions_rotation {name : String} {params : Scheduler.Params} (as : List Ask) :
    deletions (.now :: .start (createCall gt vmid name params) :: .listSnapshots gt vmid :: as) =
      deletions as := by
  cases gt <;> rfl

theorem deletions_map (doomed : List Snapshot) :
    deletions (doomed.map fun s => .start (.deleteSnapshot gt vmid s.name)) =
      doomed.map fun s => (gt, vmid, s.name) := by
  induction doomed with
  | nil => rfl
  | cons s doomed ih =>
      rw [List.map_cons, List.map_cons, ← ih]
      rfl

theorem hasPrefix_of_eligible {s : Snapshot} (member : s ∈ eligible snaps) :
    hasPrefix autoPrefix s.name = true :=
  (List.mem_filter.mp (eligible_newestFirst.listed.mem_iff.mp member)).2

/-- What is deleted is the surplus, if the integer is as many as shall stay. -/
theorem prunes_of_drop {as : List Ask} (bounded : .crash ∉ as)
    (dropped : deletions as = ((eligible snaps).drop (kept v)).map fun s => (gt, vmid, s.name)) :
    Prunes gt vmid snaps v as ↔ ∀ sorted, NewestFirst snaps sorted → ∀ newest ∈ sorted.head?,
      ∀ s ∈ sorted.drop (kept v), s.name ≠ newest.name := by
  constructor
  · intro prunes sorted first newest head s member
    have deleted : (gt, vmid, s.name) ∈ deletions as := by
      rw [dropped, ← first.eq_eligible]
      exact List.mem_map.mpr ⟨s, member, rfl⟩
    exact prunes.keepsNewest sorted first newest head _ deleted
  · intro names
    refine ⟨?_, ?_, ?_, bounded⟩
    · intro sorted first
      rw [dropped, first.eq_eligible]
    · intro sorted first newest head d member
      rw [dropped, ← first.eq_eligible] at member
      obtain ⟨s, inside, rfl⟩ := List.mem_map.mp member
      exact names sorted first newest head s inside
    · intro d member
      rw [dropped] at member
      obtain ⟨s, inside, rfl⟩ := List.mem_map.mp member
      exact hasPrefix_of_eligible (List.mem_of_mem_drop inside)

/-- A retention below one deletes the newest too. -/
theorem not_prunes_of_all {as : List Ask} (some : autos snaps ≠ [])
    (all : deletions as = (eligible snaps).map fun s => (gt, vmid, s.name)) :
    ¬Prunes gt vmid snaps v as := by
  intro prunes
  cases sorted : eligible snaps with
  | nil =>
      have listed := (@eligible_newestFirst snaps).listed
      rw [sorted] at listed
      exact some listed.symm.eq_nil
  | cons newest rest =>
      apply prunes.keepsNewest _ eligible_newestFirst newest (by rw [sorted]; rfl)
        (gt, vmid, newest.name) _ rfl
      rw [all, sorted]
      exact List.mem_cons_self

/-- A rotation deletes exactly the surplus if and only if its retention is restrained. -/
theorem prunes_iff (server : Server) (node : String) (gt : GuestType) (vmid : Int64)
    (params : Scheduler.Params) (snaps : List Snapshot) (v : Rat)
    (answers : Answers server node gt vmid params snaps)
    (number : asFloat params "retention" = some v) (positive : 0 < v) :
    Prunes gt vmid snaps v (asks server node (rotateSnapshots gt vmid params) []) ↔
      Restrained snaps v := by
  have retention : retentionOf params = Float64.toInt64 v := by
    rw [retentionOf, number]
    exact if_pos positive
  obtain ⟨name, trace⟩ := asks_rotate answers
  rw [retention] at trace
  have crash : .crash ∈ asks server node (rotateSnapshots gt vmid params) [] ↔
      .crash ∈ pruning gt vmid snaps (Float64.toInt64 v).toInt := by
    rw [trace]
    simp
  have deleted : deletions (asks server node (rotateSnapshots gt vmid params) []) =
      deletions (pruning gt vmid snaps (Float64.toInt64 v).toInt) := by
    rw [trace, deletions_rotation]
  by_cases small : v < 2 ^ 63
  · have floor : 0 ≤ v.floor := Rat.le_floor_iff.mpr (by exact_mod_cast positive.le)
    have dropped : deletions (asks server node (rotateSnapshots gt vmid params) []) =
        ((eligible snaps).drop v.floor.toNat).map fun s => (gt, vmid, s.name) := by
      rw [deleted, retention_small positive small, pruning_nonneg floor, deletions_map]
    have bounded : .crash ∉ asks server node (rotateSnapshots gt vmid params) [] := by
      rw [crash, retention_small positive small, pruning_nonneg floor]
      intro member
      obtain ⟨s, -, same⟩ := List.mem_map.mp member
      cases same
    by_cases whole : 1 ≤ v
    · have one : 1 ≤ v.floor := Rat.le_floor_iff.mpr (by exact_mod_cast whole)
      have same : kept v = v.floor.toNat := max_eq_right (by omega)
      rw [← same] at dropped
      exact (prunes_of_drop bounded dropped).trans
        ⟨fun names => ⟨small, .inl whole, names⟩, fun restrained => restrained.names⟩
    · have zero : v.floor = 0 := by
        have below : v.floor < 1 := Rat.floor_lt_iff.mpr (by exact_mod_cast not_le.mp whole)
        omega
      rw [zero] at dropped
      by_cases nothing : autos snaps = []
      · have listed := (@eligible_newestFirst snaps).listed
        rw [nothing] at listed
        have surplus : deletions (asks server node (rotateSnapshots gt vmid params) []) =
            ((eligible snaps).drop (kept v)).map fun s => (gt, vmid, s.name) := by
          rw [dropped, listed.eq_nil, List.drop_nil, List.drop_nil]
        exact (prunes_of_drop bounded surplus).trans
          ⟨fun names => ⟨small, .inr nothing, names⟩, fun restrained => restrained.names⟩
      · exact iff_of_false (not_prunes_of_all nothing dropped)
          fun restrained => restrained.whole.elim whole nothing
  · refine iff_of_false (fun prunes => prunes.inBounds ?_) fun restrained => small restrained.bounded
    rw [crash, retention_huge positive small, pruning_negative (by omega)]
    exact List.mem_singleton_self _

/-- A server whose list of snapshots is given. -/
def listing (snaps : List Snapshot) : Server := fun c answered _ =>
  match c with
  | .now => 0
  | .start _ => .ok "UPID:1"
  | .listSnapshots _ _ => .ok snaps
  | .vzdump _ => .ok "UPID:2"
  | .crash => absurd rfl answered

def keeping (retention : Rat) : Scheduler.Params :=
  (∅ : Scheduler.Params).insert "retention" (.decoded (.float retention))

def twoNights : List Snapshot := [⟨"auto-20240101-020000", 1704074400⟩, ⟨"before-upgrade", 1704000000⟩,
  ⟨"auto-20240102-020000", 1704160800⟩]

theorem listing_answers (retention : Rat) :
    Answers (listing twoNights) "pve1" .vm 100 (keeping retention) twoNights :=
  ⟨fun _ _ => ⟨"UPID:1", rfl⟩, fun _ _ => rfl⟩

/-- With a retention of one half, both snapshots of the rotation are deleted. -/
theorem half_deletes_all :
    ¬Prunes .vm 100 twoNights (1 / 2)
      (asks (listing twoNights) "pve1" (rotateSnapshots .vm 100 (keeping (1 / 2))) []) := by
  obtain ⟨name, trace⟩ := asks_rotate (listing_answers (1 / 2))
  have nothing : (retentionOf (keeping (1 / 2))).toInt = 0 := by decide +kernel
  have some : autos twoNights ≠ [] := by decide
  rw [trace, nothing, pruning_nonneg (Int.le_refl 0)]
  apply not_prunes_of_all some
  rw [deletions_rotation, deletions_map]
  rfl

theorem one_night_stays :
    Prunes .vm 100 twoNights 1
      (asks (listing twoNights) "pve1" (rotateSnapshots .vm 100 (keeping 1)) []) := by
  have first : NewestFirst twoNights
      [⟨"auto-20240102-020000", 1704160800⟩, ⟨"auto-20240101-020000", 1704074400⟩] :=
    ⟨by decide, by decide⟩
  have restrained : Restrained twoNights 1 := by
    refine ⟨by norm_num, .inl (le_refl 1), fun sorted other => ?_⟩
    rw [other.eq_eligible, ← first.eq_eligible]
    decide +kernel
  exact (prunes_iff (listing twoNights) "pve1" .vm 100 (keeping 1) twoNights 1
    (listing_answers 1) (by decide +kernel) (by norm_num)).mpr restrained

end Result

end SnapshotRetention
