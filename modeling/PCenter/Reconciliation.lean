import Mathlib.Data.List.Pairwise
import PCenter.InventoryPromotion

/-!
# A pass of the reconciler

`Reconciler.RunOnce` asks every standalone host of the tree that it has read, and promotes the
ones that report a PVE cluster, one after the other: the host goes to the first cluster with
that PVE name, or brings a new one with it. Then the clusters are compared with what their
hosts report, which changes nothing.
-/

namespace Reconciliation

open Inventory Procedure Transition

/-- What the probe of a host answers. -/
abbrev Answers := String → Except String ClusterMembership

/-- A standalone host of the tree, under its datacenter. -/
structure Visit where
  datacenterID : String
  host : InventoryHost

def visits (s : Store) : List Visit :=
  s.getDatacenterTree.1.flatMap fun entry => entry.hosts.map fun host =>
    ⟨entry.datacenter.id, host⟩

/-- One turn of the loops of `reconcileStandalones`, with the key that is drawn if the host
brings a cluster. -/
def turn (answers : Answers) (keys : String → UUID) (s : Store) (v : Visit) : Store :=
  if v.host.status ≠ .online then s
  else if v.host.tokenSecret = "" then s
  else
    match answers v.host.id with
    | .error _ => s
    | .ok membership =>
        if membership.isCluster then
          operate s
            (.promoteStandalone (keys v.host.id) v.host v.datacenterID membership.clusterName)
        else s

def reconcileStandalones (answers : Answers) (keys : String → UUID) (s : Store) : Store :=
  (visits s).foldl (turn answers keys) s

/-- The warnings of `checkExistingClusters`. -/
inductive Warning where
  | noLongerMember (cluster pveCluster address : String)
  | differentCluster (cluster expected answer address : String)

def checkHost (answers : Answers) (c : Cluster) (pveClusterName : String) (host : InventoryHost) :
    Option Warning :=
  if host.status ≠ .online ∨ host.tokenSecret = "" then none
  else
    match answers host.id with
    | .error _ => none
    | .ok membership =>
        if ¬membership.isCluster then some (.noLongerMember c.name pveClusterName host.address)
        else if membership.clusterName ≠ pveClusterName then
          some (.differentCluster c.name pveClusterName membership.clusterName host.address)
        else none

def checkExistingClusters (answers : Answers) (s : Store) : List Warning :=
  s.listClusters.flatMap fun c =>
    if s.pveClusterName c.id = "" then []
    else (s.listHostsByCluster c.id).filterMap (checkHost answers c (s.pveClusterName c.id))

/-- `RunOnce`: the tables after it, and what it has warned of. -/
def runOnce (answers : Answers) (keys : String → UUID) (s : Store) : Store × List Warning :=
  let t := reconcileStandalones answers keys s
  (t, checkExistingClusters answers t)

/-- The PVE cluster that a host reports, when it is asked. -/
def reported (answers : Answers) (host : InventoryHost) : Option String :=
  if host.status = .online ∧ host.tokenSecret ≠ "" then
    match answers host.id with
    | .error _ => none
    | .ok membership => if membership.isCluster then some membership.clusterName else none
  else none

/-- What is to stay of a host. -/
structure Identity where
  id : String
  address : String
  tokenID : String
  tokenSecret : String
  insecure : Bool
  deriving DecidableEq, Repr

def identity (host : InventoryHost) : Identity :=
  ⟨host.id, host.address, host.tokenID, host.tokenSecret, host.insecure⟩

/-- The hosts that the tree lists under the datacenters. -/
def standalone (s : Store) : List InventoryHost := s.getDatacenterTree.1.flatMap (·.hosts)

/-- What a pass from `s` to `t` is for. -/
structure Converges (answers : Answers) (s t : Store) : Prop where
  hosts : t.hosts.map identity = s.hosts.map identity
  filed : ∀ host ∈ standalone s, ∀ n ∈ reported answers host,
    ∃ host' ∈ t.hosts, host'.id = host.id ∧
      ∃ c ∈ t.clusters, c.id = host'.clusterID ∧ t.pveClusterName c.id = n
  together : ∀ first ∈ standalone s, ∀ second ∈ standalone s, ∀ n ∈ reported answers first,
    n ∈ reported answers second → ∀ first' ∈ t.hosts, ∀ second' ∈ t.hosts,
      first'.id = first.id → second'.id = second.id → first'.clusterID = second'.clusterID
  others : ∀ host ∈ s.hosts, (host ∈ standalone s → reported answers host = none) →
    host ∈ t.hosts
  settled : ∀ keys, (runOnce answers keys t).1 = t

/-- A host that reports a PVE cluster finds a cluster with that PVE name, or it can bring one:
the display name for it is free, and so is the key. -/
def Promotable (answers : Answers) (keys : String → UUID) (s : Store) (v : Visit) : Prop :=
  ∀ n ∈ reported answers v.host, (s.getClusterByPVEName n).isSome ∨
    ((s.getClusterByName (Service.nameFor s n v.host.address)).isNone ∧
      (s.getCluster (keys v.host.id).text).isNone)

instance (answers : Answers) (keys : String → UUID) (s : Store) (v : Visit) :
    Decidable (Promotable answers keys s v) :=
  inferInstanceAs (Decidable (∀ n ∈ reported answers v.host, _ ∨ _ ∧ _))

/-- At most one host that is asked reports the empty name. -/
def OneUnnamed (answers : Answers) (s : Store) : Prop :=
  ∀ first ∈ standalone s, ∀ second ∈ standalone s, reported answers first = some "" →
    reported answers second = some "" → first.id = second.id

instance (answers : Answers) (s : Store) : Decidable (OneUnnamed answers s) :=
  inferInstanceAs (Decidable (∀ first ∈ standalone s, ∀ second ∈ standalone s, _ → _ → _))

section Clusters

variable {s t u : Store} {n j : String}

/-- Clusters are only added, at the end, and keep their PVE names. -/
structure Extends (s t : Store) : Prop where
  clusterIDs : ∃ more, t.clusterIDs = s.clusterIDs ++ more
  pveNames : ∀ j ∈ s.clusterIDs, t.pveClusterName j = s.pveClusterName j
  datacenters : t.datacenters = s.datacenters

theorem Extends.refl : Extends s s :=
  ⟨⟨[], (List.append_nil _).symm⟩, fun _ _ => rfl, rfl⟩

theorem Extends.mem (later : Extends s t) (there : j ∈ s.clusterIDs) : j ∈ t.clusterIDs := by
  obtain ⟨more, keys⟩ := later.clusterIDs
  rw [keys]
  exact List.mem_append_left _ there

theorem Extends.trans (first : Extends s t) (later : Extends t u) : Extends s u := by
  obtain ⟨more, keys⟩ := first.clusterIDs
  obtain ⟨others, keys'⟩ := later.clusterIDs
  refine ⟨⟨more ++ others, by rw [keys', keys, List.append_assoc]⟩, ?_,
    later.datacenters.trans first.datacenters⟩
  intro j there
  rw [later.pveNames j (first.mem there), first.pveNames j there]

/-- The cluster to which hosts that report the name go. -/
structure Home (s : Store) (n j : String) : Prop where
  there : j ∈ s.clusterIDs
  named : s.pveClusterName j = n
  first : n ≠ "" → s.clusterIDs.find? (s.pveClusterName · = n) = some j

theorem Home.unique {k : String} (home : Home s n j) (other : Home s n k) (named : n ≠ "") :
    j = k := Option.some.inj ((home.first named).symm.trans (other.first named))

theorem Home.extends (home : Home s n j) (later : Extends s t) : Home t n j := by
  refine ⟨later.mem home.there, (later.pveNames j home.there).trans home.named, fun named => ?_⟩
  obtain ⟨more, keys⟩ := later.clusterIDs
  have same : s.clusterIDs.find? (t.pveClusterName · = n) = some j := by
    rw [← home.first named, ← List.head?_filter, ← List.head?_filter]
    refine congrArg _ (List.filter_congr fun k member => ?_)
    rw [later.pveNames k member]
  rw [keys, List.find?_append, same]
  rfl

theorem getClusterByPVEName_map (named : n ≠ "") :
    (s.getClusterByPVEName n).map (·.id) = s.clusterIDs.find? (s.pveClusterName · = n) := by
  rw [Store.getClusterByPVEName, if_neg named, Store.clusterIDs, List.find?_map]
  rfl

theorem home_of_known {c : Cluster} (known : s.getClusterByPVEName n = some c) :
    Home s n c.id := by
  have named : n ≠ "" := by
    rintro rfl
    cases known
  have first : s.clusterIDs.find? (s.pveClusterName · = n) = some c.id := by
    rw [← getClusterByPVEName_map named, known]
    rfl
  refine ⟨List.mem_of_find?_eq_some first, ?_, fun _ => first⟩
  simpa using List.find?_some first

end Clusters

section Promotion

variable {s t : Store} {answers : Answers} {keys : String → UUID} {v : Visit} {n k : String}

/-- What a promotion into a cluster does to the tables. -/
structure Promoted (s t : Store) (hostID n k : String) : Prop where
  later : Extends s t
  hosts : t.hosts = s.hosts.map (moved hostID k)
  home : Home t n k
  fresh : n = "" → k ∉ s.clusterIDs

theorem extends_leaveEmpty {c : Cluster} {status : ClusterStatus} :
    Extends s (exec (Service.leaveEmpty c status) s).2 := by
  rw [Service.leaveEmpty]
  split
  · rw [exec_ignore]
    refine leaves_commit (P := fun u : Store => Extends s u) .refl fun u set => ?_
    simp only [Store.setClusterStatus, Store.setCluster] at set
    split_ifs at set
    obtain rfl := Except.ok.inj set
    refine ⟨⟨[], ?_⟩, fun _ _ => rfl, rfl⟩
    rw [List.append_nil]
    simp only [Store.clusterIDs, Store.mapCluster, List.map_map]
    refine List.map_congr_left fun d _ => ?_
    simp only [Function.comp_apply]
    split <;> rfl
  · exact .refl

theorem arrive {c : Cluster} {hostID : String} (known : c.id ∈ s.clusterIDs)
    (there : (s.row hostID).isSome)
    (done : t = (exec (do
      commit fun s : Store => s.moveHostToCluster hostID c.id
      Service.leaveEmpty c .active) s).2) :
    Extends s t ∧ t.hosts = s.hosts.map (moved hostID c.id) := by
  obtain ⟨d, member, key⟩ := List.mem_map.mp known
  have found : (s.getCluster c.id).isSome :=
    List.find?_isSome.mpr ⟨d, member, decide_eq_true key⟩
  have possible : ∃ u, s.moveHostToCluster hostID c.id = .ok u := by
    rw [Store.moveHostToCluster, if_neg (by simp [Option.isSome_iff_ne_none.mp found])]
    rw [Store.setHost, DB.updateRow, if_pos there]
    exact ⟨_, rfl⟩
  obtain ⟨u, move⟩ := possible
  have row := hosts_of_moveHostToCluster move
  rw [exec_commit_bind_ok move] at done
  have later : Extends s u := by
    rw [row]
    exact ⟨⟨[], (List.append_nil _).symm⟩, fun _ _ => rfl, rfl⟩
  rw [done]
  refine ⟨later.trans extends_leaveEmpty, ?_⟩
  rw [hosts_leaveEmpty, row]

/-- A cluster that a host brings with it is the first with its name. -/
theorem home_of_inserted {uuid : UUID} {req : CreateClusterRequest}
    (unknown : s.getClusterByPVEName req.pveClusterName = none)
    (done : s.insertCluster (Store.newCluster uuid req) req.pveClusterName = .ok t) :
    Extends s t ∧ Home t req.pveClusterName uuid.text ∧ uuid.text ∉ s.clusterIDs ∧
      t.hosts = s.hosts := by
  obtain ⟨free, -, made⟩ := insertCluster_eq_ok_iff.mp done
  have fresh : uuid.text ∉ s.clusterIDs := by
    intro there
    obtain ⟨d, member, key⟩ := List.mem_map.mp there
    exact getCluster_isNone_iff.mp free d member key
  have ids : t.clusterIDs = s.clusterIDs ++ [uuid.text] := by
    rw [made]
    exact List.map_append
  have names : t.pveClusterName =
      Function.update s.pveClusterName uuid.text req.pveClusterName := by rw [made]; rfl
  have others : ∀ j ∈ s.clusterIDs, t.pveClusterName j = s.pveClusterName j := by
    intro j there
    rw [names]
    refine Function.update_of_ne ?_ _ _
    rintro rfl
    exact fresh there
  have own : t.pveClusterName uuid.text = req.pveClusterName := by
    rw [names, Function.update_self]
  refine ⟨⟨⟨_, ids⟩, others, by rw [made]⟩, ⟨?_, own, fun named => ?_⟩, fresh, by rw [made]⟩
  · rw [ids]
    exact List.mem_append_right _ (List.mem_singleton_self _)
  · have before := getClusterByPVEName_map (s := s) named
    rw [unknown] at before
    have none_ : s.clusterIDs.find? (t.pveClusterName · = req.pveClusterName) = none := by
      refine List.find?_eq_none.mpr fun j there => ?_
      rw [others j there]
      exact List.find?_eq_none.mp before.symm j there
    rw [ids, List.find?_append, none_, Option.none_or]
    exact List.find?_cons_of_pos (decide_eq_true own)

theorem reported_eq_some_iff {host : InventoryHost} :
    reported answers host = some n ↔
      (host.status = .online ∧ host.tokenSecret ≠ "") ∧
        ∃ membership, answers host.id = .ok membership ∧ membership.isCluster = true ∧
          membership.clusterName = n := by
  rw [reported, Option.ite_none_right_eq_some]
  refine and_congr_right fun _ => ?_
  cases answers host.id <;> simp

theorem brings_iff {uuid : UUID} {dc address : String}
    (unknown : s.getClusterByPVEName n = none) (referred : dc ∈ s.datacenters) :
    (∃ t, s.insertCluster (Store.newCluster uuid (routedRequest s dc n address)) n = .ok t) ↔
      (s.getClusterByName (Service.nameFor s n address)).isNone ∧
        (s.getCluster uuid.text).isNone := by
  have reference : s.hasDatacenter (some dc) = true := by
    refine hasDatacenter_iff.mpr ?_
    rintro _ ⟨⟩
    exact referred
  rw [insertCluster_routed_iff unknown, Store.routed, unknown, if_neg (by simp),
    created_isSome_iff, and_iff_left reference]

theorem turn_cases (referred : v.datacenterID ∈ s.datacenters)
    (there : (s.row v.host.id).isSome) (reports : reported answers v.host = some n) :
    (Promotable answers keys s v ∧ ∃ k, Promoted s (turn answers keys s v) v.host.id n k) ∨
      ¬Promotable answers keys s v ∧ turn answers keys s v = s := by
  obtain ⟨⟨online, secret⟩, membership, answer, member, rfl⟩ := reported_eq_some_iff.mp reports
  have turns : turn answers keys s v = (exec (Reconciler.promoteStandalone (keys v.host.id) v.host
      v.datacenterID membership.clusterName) s).2 := by
    rw [turn, if_neg (not_not.mpr online), if_neg secret, answer]
    exact if_pos member
  have promotable : Promotable answers keys s v ↔
      (s.getClusterByPVEName membership.clusterName).isSome ∨
        ((s.getClusterByName (Service.nameFor s membership.clusterName v.host.address)).isNone ∧
          (s.getCluster (keys v.host.id).text).isNone) := by
    rw [Promotable, reports]
    simp
  rw [promotable, turns, Reconciler.promoteStandalone, exec_bind]
  rcases findOrCreateCluster_cases s (keys v.host.id) v.datacenterID membership.clusterName
      v.host.address with ⟨c, known, ran⟩ | ⟨unknown, ⟨t, done, ran⟩ | ⟨failure, failed, ran⟩⟩
  · left
    rw [known, ran]
    have home := home_of_known known
    obtain ⟨later, hosts⟩ := @arrive s _ c v.host.id home.there there rfl
    refine ⟨Or.inl rfl, c.id, ⟨later, hosts, home.extends later, ?_⟩⟩
    intro empty
    rw [empty] at known
    cases known
  · left
    rw [ran]
    obtain ⟨first, home, fresh, hosts⟩ := home_of_inserted unknown done
    have there' : (t.row v.host.id).isSome := by
      rw [DB.row, hosts]
      exact there
    let c := Store.newCluster (keys v.host.id)
      (routedRequest s v.datacenterID membership.clusterName v.host.address)
    obtain ⟨later, moves⟩ := @arrive t _ c v.host.id home.there there' rfl
    refine ⟨Or.inr ((brings_iff unknown referred).mp ⟨t, done⟩), c.id, ?_⟩
    refine ⟨first.trans later, ?_, home.extends later, fun _ => fresh⟩
    rw [moves, hosts]
  · right
    rw [ran, unknown]
    refine ⟨?_, rfl⟩
    rintro (known | possible)
    · cases known
    · obtain ⟨t, done⟩ := (brings_iff unknown referred).mpr possible
      cases failed.symm.trans done

theorem turn_of_silent (silent : reported answers v.host = none) :
    turn answers keys s v = s := by
  rw [turn]
  split_ifs with offline bare
  · rfl
  · rfl
  cases answer : answers v.host.id with
  | error text => rfl
  | ok membership =>
      refine if_neg fun member => ?_
      have reports : reported answers v.host = some membership.clusterName :=
        reported_eq_some_iff.mpr ⟨⟨not_not.mp offline, bare⟩, membership, answer, member, rfl⟩
      cases silent.symm.trans reports

end Promotion

section Runs

variable {s t u : Store} {answers : Answers} {keys : String → UUID} {v : Visit} {rest : List Visit}

/-- What turns do to the hosts: the ones that report are moved, the others stay. -/
structure Steady (answers : Answers) (turns : List Visit) (s t : Store) : Prop where
  later : Extends s t
  hosts : ∃ set : InventoryHost → InventoryHost, t.hosts = s.hosts.map set ∧
    (∀ host, identity (set host) = identity host) ∧
    ∀ host, (∀ v ∈ turns, v.host.id = host.id → reported answers v.host = none) → set host = host

theorem Steady.nil : Steady answers [] s s :=
  ⟨.refl, id, (List.map_id _).symm, fun _ => rfl, fun _ _ => rfl⟩

theorem Steady.cons (first : Steady answers [v] s t) (others : Steady answers rest t u) :
    Steady answers (v :: rest) s u := by
  obtain ⟨set, hosts, same, stay⟩ := first.hosts
  obtain ⟨set', hosts', same', stay'⟩ := others.hosts
  refine ⟨first.later.trans others.later, set' ∘ set, ?_, ?_, ?_⟩
  · rw [hosts', hosts, List.map_map]
  · exact fun host => (same' _).trans (same host)
  · intro host silent
    have here : set host = host := by
      refine stay host fun w only => ?_
      obtain rfl := List.mem_singleton.mp only
      exact silent w List.mem_cons_self
    rw [Function.comp_apply, here]
    exact stay' host fun w member => silent w (List.mem_cons_of_mem _ member)

theorem Steady.ids (steady : Steady answers rest s t) :
    t.hosts.map (·.id) = s.hosts.map (·.id) := by
  obtain ⟨set, hosts, same, -⟩ := steady.hosts
  rw [hosts, List.map_map]
  exact List.map_congr_left fun host _ => congrArg Identity.id (same host)

/-- The hosts and datacenters of the visits are there. -/
def Ready (s : Store) (turns : List Visit) : Prop :=
  ∀ v ∈ turns, v.datacenterID ∈ s.datacenters ∧ v.host.id ∈ s.hosts.map (·.id)

theorem Ready.steady {turns : List Visit} (ready : Ready s turns)
    (steady : Steady answers rest s t) : Ready t turns := by
  intro v member
  rw [steady.later.datacenters, steady.ids]
  exact ready v member

theorem row_isSome_iff {id : String} : (s.row id).isSome ↔ id ∈ s.hosts.map (·.id) := by
  simp [DB.row]

theorem steady_promoted {n k : String} (reports : reported answers v.host = some n)
    (promoted : Promoted s t v.host.id n k) : Steady answers [v] s t := by
  refine ⟨promoted.later, moved v.host.id k, promoted.hosts, fun host => ?_, fun host silent => ?_⟩
  · rw [moved]
    split <;> rfl
  · refine if_neg fun here => ?_
    cases reports.symm.trans (silent v (List.mem_singleton_self v) here.symm)

theorem steady_turn (ready : Ready s (v :: rest)) :
    Steady answers [v] s (turn answers keys s v) := by
  obtain ⟨referred, there⟩ := ready v List.mem_cons_self
  cases reports : reported answers v.host with
  | none =>
      rw [turn_of_silent reports]
      exact ⟨.refl, id, (List.map_id _).symm, fun _ => rfl, fun _ _ => rfl⟩
  | some n =>
      rcases turn_cases referred (row_isSome_iff.mpr there) reports with
        ⟨-, k, promoted⟩ | ⟨-, same⟩
      · exact steady_promoted reports promoted
      · rw [same]
        exact ⟨.refl, id, (List.map_id _).symm, fun _ => rfl, fun _ _ => rfl⟩

theorem steady_run {turns : List Visit} (ready : Ready s turns) :
    Steady answers turns s (turns.foldl (turn answers keys) s) := by
  induction turns generalizing s with
  | nil => exact .nil
  | cons v rest ih =>
      have first : Steady answers [v] s (turn answers keys s v) := steady_turn ready
      have later := ready.steady first
      exact first.cons (ih fun w member => later w (List.mem_cons_of_mem _ member))

theorem filed_turn (filed : Filed s) : Filed (turn answers keys s v) := by
  rw [turn]
  split_ifs
  · exact filed
  · exact filed
  cases answers v.host.id with
  | error text => exact filed
  | ok membership =>
      simp only
      split_ifs
      · exact filed_operate _ filed
      · exact filed

theorem filed_run {turns : List Visit} (filed : Filed s) :
    Filed (turns.foldl (turn answers keys) s) := by
  induction turns generalizing s with
  | nil => exact filed
  | cons v rest ih => exact ih (filed_turn filed)

/-- The host with the key is in the cluster. -/
def In (s : Store) (id j : String) : Prop := ∃ host ∈ s.hosts, host.id = id ∧ host.clusterID = j

theorem In.unique {id j k : String} (filed : Filed s) (first : In s id j) (second : In s id k) :
    j = k := by
  obtain ⟨host, there, rfl, rfl⟩ := first
  obtain ⟨other, there', same, rfl⟩ := second
  rw [List.inj_on_of_nodup_map filed.hosts there there' same.symm]

theorem In.steady {id j : String} (inside : In s id j) (steady : Steady answers rest s t)
    (silent : ∀ v ∈ rest, v.host.id = id → reported answers v.host = none) : In t id j := by
  obtain ⟨set, hosts, -, stay⟩ := steady.hosts
  obtain ⟨host, there, rfl, rfl⟩ := inside
  exact ⟨host, hosts ▸ List.mem_map.mpr ⟨host, there, stay host silent⟩, rfl, rfl⟩

theorem Promoted.inside {n k : String} (promoted : Promoted s t v.host.id n k)
    (there : v.host.id ∈ s.hosts.map (·.id)) : In t v.host.id k := by
  obtain ⟨host, member, key⟩ := List.mem_map.mp there
  refine ⟨moved v.host.id k host, promoted.hosts ▸ List.mem_map_of_mem member, ?_, ?_⟩
  · rw [moved, if_pos key]
    exact key
  · rw [moved, if_pos key]

theorem silent_rest (apart : ((v :: rest).map (·.host.id)).Nodup) :
    ∀ w ∈ rest, w.host.id = v.host.id → reported answers w.host = none := by
  intro w member same
  exact absurd (List.mem_map.mpr ⟨w, member, same⟩) (List.nodup_cons.mp apart).1

/-- Every host that reports ends in the cluster for the name, and a host that reports the empty
name in a cluster that was not there. -/
theorem homes_of_run {turns : List Visit} (ready : Ready s turns)
    (apart : (turns.map (·.host.id)).Nodup)
    (along : Along (turn answers keys) (Promotable answers keys) s turns) :
    ∀ v ∈ turns, ∀ n ∈ reported answers v.host,
      ∃ j, In (turns.foldl (turn answers keys) s) v.host.id j ∧
        Home (turns.foldl (turn answers keys) s) n j ∧ (n = "" → j ∉ s.clusterIDs) := by
  induction turns generalizing s with
  | nil => exact fun v none => absurd none List.not_mem_nil
  | cons v rest ih =>
      obtain ⟨promotable, others⟩ := along
      have first : Steady answers [v] s (turn answers keys s v) := steady_turn ready
      have later : Ready (turn answers keys s v) rest :=
        fun w member => ready.steady first w (List.mem_cons_of_mem _ member)
      have run := @steady_run _ answers keys rest later
      intro w member n reports
      rcases List.mem_cons.mp member with rfl | inner
      · obtain ⟨referred, there⟩ := ready w List.mem_cons_self
        rcases turn_cases referred (row_isSome_iff.mpr there) reports with
          ⟨-, k, promoted⟩ | ⟨refused, -⟩
        · refine ⟨k, ?_, promoted.home.extends run.later, promoted.fresh⟩
          exact (promoted.inside there).steady run (silent_rest apart)
        · exact absurd promotable refused
      · obtain ⟨j, inside, home, fresh⟩ :=
          ih later (List.nodup_cons.mp apart).2 others w inner n reports
        exact ⟨j, inside, home, fun empty there => fresh empty (first.later.mem there)⟩

/-- Hosts that report the empty name are not in one cluster. -/
def Apart (answers : Answers) (t : Store) (v w : Visit) : Prop :=
  reported answers v.host = some "" → reported answers w.host = some "" →
    ∀ j, In t v.host.id j → ¬In t w.host.id j

instance symm_apart : Std.Symm (Apart answers t) where
  symm _ _ apart unnamed unnamed' j inside inside' := apart unnamed' unnamed j inside' inside

theorem unnamed_apart {turns : List Visit} (filed : Filed s) (ready : Ready s turns)
    (apart : (turns.map (·.host.id)).Nodup)
    (along : Along (turn answers keys) (Promotable answers keys) s turns) :
    turns.Pairwise (Apart answers (turns.foldl (turn answers keys) s)) := by
  induction turns generalizing s with
  | nil => exact List.Pairwise.nil
  | cons v rest ih =>
      have first : Steady answers [v] s (turn answers keys s v) := steady_turn ready
      have later : Ready (turn answers keys s v) rest :=
        fun w member => ready.steady first w (List.mem_cons_of_mem _ member)
      have run := @steady_run _ answers keys rest later
      have tail := (List.nodup_cons.mp apart).2
      refine List.pairwise_cons.mpr ⟨?_, ih (filed_turn filed) later tail along.2⟩
      intro w member unnamed unnamed' j inside inside'
      obtain ⟨referred, there⟩ := ready v List.mem_cons_self
      rcases turn_cases referred (row_isSome_iff.mpr there) unnamed with
        ⟨-, k, promoted⟩ | ⟨refused, -⟩
      · have ended : Filed (rest.foldl (turn answers keys) (turn answers keys s v)) :=
          filed_run (filed_turn filed)
        have own := (promoted.inside there).steady run (silent_rest apart)
        obtain ⟨j', inside'', -, fresh⟩ := homes_of_run later tail along.2 w member ""
          unnamed'
        obtain rfl := inside.unique ended own
        obtain rfl := inside'.unique ended inside''
        exact fresh rfl promoted.home.there
      · exact absurd along.1 refused

theorem stays_of_refused {before after : List Visit} {n j : String}
    (ready : Ready s (before ++ v :: after))
    (apart : ((before ++ v :: after).map (·.host.id)).Nodup)
    (reports : reported answers v.host = some n)
    (refused : ¬Promotable answers keys (before.foldl (turn answers keys) s) v)
    (inside : In s v.host.id j) :
    In ((before ++ v :: after).foldl (turn answers keys) s) v.host.id j := by
  rw [List.map_append, List.map_cons] at apart
  obtain ⟨-, tail, distinct⟩ := List.nodup_append.mp apart
  have first := @steady_run s answers keys before
    fun w member => ready w (List.mem_append_left _ member)
  have middle : Ready (before.foldl (turn answers keys) s) (v :: after) :=
    fun w member => ready.steady first w (List.mem_append_right _ member)
  have there : In (before.foldl (turn answers keys) s) v.host.id j := by
    refine inside.steady first fun w member same => ?_
    exact absurd same (distinct _ (List.mem_map_of_mem member) _ List.mem_cons_self)
  obtain ⟨referred, known⟩ := middle v List.mem_cons_self
  have same : turn answers keys (before.foldl (turn answers keys) s) v =
      before.foldl (turn answers keys) s := by
    rcases turn_cases referred (row_isSome_iff.mpr known) reports with ⟨promotable, -⟩ | ⟨-, same⟩
    · exact absurd promotable refused
    · exact same
  rw [List.foldl_append, List.foldl_cons, same]
  exact there.steady (steady_run fun w member => middle w (List.mem_cons_of_mem _ member))
    (silent_rest tail)

end Runs

section Tree

variable {s : Store} {v : Visit}

theorem standalone_eq : standalone s = s.listDatacenters.flatMap s.listHostsByDatacenter := by
  rw [standalone, Store.getDatacenterTree, List.flatMap_map]

theorem hosts_visits : (visits s).map (·.host) = standalone s := by
  rw [visits, standalone, List.map_flatMap]
  refine List.flatMap_congr fun entry _ => ?_
  rw [List.map_map]
  exact List.map_id _

theorem perm_standalone (filed : Filed s) :
    (standalone s).Perm (s.hosts.filter fun host => !decide (host.datacenterID = "")) := by
  rw [standalone_eq]
  exact perm_standaloneHosts filed

theorem mem_standalone_iff (filed : Filed s) {host : InventoryHost} :
    host ∈ standalone s ↔ host ∈ s.hosts ∧ host.clusterID = "" := by
  rw [(perm_standalone filed).mem_iff, List.mem_filter]
  refine and_congr_right fun there => ?_
  rcases filed.placed host there with ⟨none_, member⟩ | ⟨none_, member⟩
  · have inside : host.clusterID ≠ "" := fun empty => filed.inserted (empty ▸ member)
    simp [none_, inside]
  · have inside : host.datacenterID ≠ "" := fun empty => filed.created (empty ▸ member)
    simp [none_, inside]

theorem mem_visits (member : v ∈ visits s) :
    v.datacenterID ∈ s.datacenters ∧ v.host ∈ s.hosts := by
  simp only [visits, Store.getDatacenterTree, List.mem_flatMap, List.mem_map] at member
  obtain ⟨_, ⟨id, listed, rfl⟩, host, there, rfl⟩ := member
  exact ⟨perm_listDatacenters.mem_iff.mp listed, List.mem_of_mem_filter there⟩

theorem ready_visits : Ready s (visits s) := by
  intro v member
  obtain ⟨referred, there⟩ := mem_visits member
  exact ⟨referred, List.mem_map_of_mem there⟩

theorem nodup_visits (filed : Filed s) : ((visits s).map (·.host.id)).Nodup := by
  have ids : (visits s).map (·.host.id) = (standalone s).map (·.id) := by
    rw [← hosts_visits, List.map_map]
    rfl
  rw [ids, ((perm_standalone filed).map _).nodup_iff]
  exact (List.filter_sublist.map _).nodup filed.hosts

end Tree

section Passes

variable {s : Store} {answers : Answers} {keys : String → UUID}

theorem run_of_silent {turns : List Visit}
    (silent : ∀ v ∈ turns, reported answers v.host = none) :
    turns.foldl (turn answers keys) s = s := by
  induction turns with
  | nil => rfl
  | cons v rest ih =>
      rw [List.foldl_cons, turn_of_silent (silent v List.mem_cons_self)]
      exact ih fun w member => silent w (List.mem_cons_of_mem _ member)

theorem silent_after (filed : Filed s)
    (along : Along (turn answers keys) (Promotable answers keys) s (visits s)) :
    ∀ host ∈ standalone (runOnce answers keys s).1, reported answers host = none := by
  have steady := @steady_run s answers keys _ ready_visits
  have ended : Filed (runOnce answers keys s).1 := filed_run filed
  have homes := homes_of_run ready_visits (nodup_visits filed) along
  obtain ⟨set, hosts, same, stay⟩ := steady.hosts
  intro host listed
  obtain ⟨there, alone⟩ := (mem_standalone_iff ended).mp listed
  obtain ⟨before, earlier, rfl⟩ := List.mem_map.mp (hosts ▸ there)
  have silent : ∀ v ∈ visits s, v.host.id = before.id → reported answers v.host = none := by
    intro v member key
    rw [Option.eq_none_iff_forall_ne_some]
    intro n reports
    obtain ⟨j, inside, home, -⟩ := homes v member n reports
    have own : In (runOnce answers keys s).1 v.host.id "" :=
      ⟨_, there, (congrArg Identity.id (same before)).trans key.symm, alone⟩
    have empty : j = "" := inside.unique ended own
    exact ended.inserted (empty ▸ home.there)
  have unmoved := stay before silent
  rw [unmoved] at alone ⊢
  have listed' : before ∈ standalone s := (mem_standalone_iff filed).mpr ⟨earlier, alone⟩
  rw [← hosts_visits] at listed'
  obtain ⟨v, member, rfl⟩ := List.mem_map.mp listed'
  exact silent v member rfl

/-- A pass converges exactly when every host that reports a PVE cluster finds one or can bring
one, and no two of them report the empty name. -/
theorem pass_converges_iff (filed : Filed s) :
    Converges answers s (runOnce answers keys s).1 ↔
      Along (turn answers keys) (Promotable answers keys) s (visits s) ∧ OneUnnamed answers s := by
  have steady := @steady_run s answers keys _ ready_visits
  have ended : Filed (runOnce answers keys s).1 := filed_run filed
  have apart := nodup_visits filed
  have listed : ∀ {v}, v ∈ visits s → v.host ∈ standalone s := by
    intro v member
    rw [← hosts_visits]
    exact List.mem_map_of_mem member
  constructor
  · intro converges
    have along : Along (turn answers keys) (Promotable answers keys) s (visits s) := by
      refine along_iff_forall_split.mpr fun before v after split => ?_
      have member : v ∈ visits s := by
        rw [split]
        exact List.mem_append_right _ List.mem_cons_self
      by_contra refused
      cases reports : reported answers v.host with
      | none =>
          refine refused fun n named => ?_
          cases reports.symm.trans named
      | some n =>
          have alone : In s v.host.id "" :=
            ⟨v.host, (mem_visits member).2, rfl, (mem_standalone_iff filed).mp (listed member) |>.2⟩
          have stayed :=
            stays_of_refused (split ▸ ready_visits) (split ▸ apart) reports refused alone
          rw [← split] at stayed
          obtain ⟨host', there, key, c, inserted, own, -⟩ :=
            converges.filed v.host (listed member) n reports
          have empty := In.unique ended ⟨host', there, key, rfl⟩ stayed
          exact ended.inserted (empty ▸ own ▸ List.mem_map_of_mem inserted)
    refine ⟨along, fun first listed₁ second listed₂ unnamed₁ unnamed₂ => ?_⟩
    rw [← hosts_visits] at listed₁ listed₂
    obtain ⟨v, member₁, rfl⟩ := List.mem_map.mp listed₁
    obtain ⟨w, member₂, rfl⟩ := List.mem_map.mp listed₂
    by_contra different
    have homes := homes_of_run ready_visits apart along
    obtain ⟨j, inside₁, -⟩ := homes v member₁ "" unnamed₁
    obtain ⟨k, inside₂, -⟩ := homes w member₂ "" unnamed₂
    obtain ⟨first', there₁, key₁, own₁⟩ := id inside₁
    obtain ⟨second', there₂, key₂, own₂⟩ := id inside₂
    have same := converges.together v.host (listed member₁) w.host (listed member₂) "" unnamed₁
      unnamed₂ first' there₁ second' there₂ key₁ key₂
    have other : v ≠ w := by
      rintro rfl
      exact different rfl
    have pairs := unnamed_apart filed ready_visits apart along
    rw [own₁, own₂] at same
    subst same
    exact pairs.forall member₁ member₂ other unnamed₁ unnamed₂ _ inside₁ inside₂
  · rintro ⟨along, one⟩
    have homes := homes_of_run ready_visits apart along
    obtain ⟨set, hosts, same, stay⟩ := steady.hosts
    have visited : ∀ host ∈ standalone s, ∀ n ∈ reported answers host,
        ∃ j, In (runOnce answers keys s).1 host.id j ∧ Home (runOnce answers keys s).1 n j := by
      intro host listed n reports
      rw [← hosts_visits] at listed
      obtain ⟨v, member, rfl⟩ := List.mem_map.mp listed
      obtain ⟨j, inside, home, -⟩ := homes v member n reports
      exact ⟨j, inside, home⟩
    constructor
    · rw [runOnce, reconcileStandalones, hosts, List.map_map]
      exact List.map_congr_left fun host _ => same host
    · intro host listed n reports
      obtain ⟨_, ⟨host', there, key, rfl⟩, home⟩ := visited host listed n reports
      obtain ⟨c, member, own⟩ := List.mem_map.mp home.there
      exact ⟨host', there, key, c, member, own, own ▸ home.named⟩
    · intro first listed second listed' n reports reports' first' there second' there' key key'
      obtain ⟨j, inside, home⟩ := visited first listed n reports
      obtain ⟨k, inside', home'⟩ := visited second listed' n reports'
      have own : first'.clusterID = j := In.unique ended ⟨first', there, key, rfl⟩ inside
      have own' : second'.clusterID = k := In.unique ended ⟨second', there', key', rfl⟩ inside'
      rw [own, own']
      by_cases named : n = ""
      · subst named
        rw [one first listed second listed' reports reports'] at inside
        exact inside.unique ended inside'
      · exact home.unique home' named
    · intro host there silent
      refine hosts ▸ List.mem_map.mpr ⟨host, there, stay host fun v member key => ?_⟩
      have same_ : v.host = host :=
        List.inj_on_of_nodup_map filed.hosts (mem_visits member).2 there key
      rw [same_]
      exact silent (same_ ▸ listed member)
    · intro keys'
      refine run_of_silent fun v member => silent_after filed along v.host ?_
      rw [← hosts_visits]
      exact List.mem_map_of_mem member

end Passes

/-- A datacenter with two standalone hosts that are online. -/
def withTwoHosts : List Operation :=
  withOnlineHost ++
    [Operation.addDatacenterHost "d-1" (drawn "h-2" given_h2) (.error "") (withToken "10.0.0.2:8006"),
      .setHostStatus "h-2" .online "" "pve2"]

/-- The same beside clusters with the given display names. -/
def beside (names : List (UUID × String)) : Store :=
  (names.map fun entry => Operation.createCluster entry.1 ⟨entry.2, none, ""⟩).foldl operate
    (withTwoHosts.foldl operate Store.empty)

/-- Every host reports the PVE cluster. -/
def allReport (name : String) : Answers := fun _ => .ok ⟨true, name⟩

theorem given_n1 : 0 < "n-1".length := by decide
theorem given_n2 : 0 < "n-2".length := by decide

def newKeys (hostID : String) : UUID :=
  if hostID = "h-1" then drawn "n-1" given_n1 else drawn "n-2" given_n2

theorem filed_beside (names : List (UUID × String)) : Filed (beside names) :=
  filed_foldl (filed_foldl filed_empty _) _

/-- Both hosts go to one cluster, with another display name than the cluster that is there. -/
theorem both_converge :
    Converges (allReport "prod") (beside [(drawn "c-1" given_c1, "prod")])
      (runOnce (allReport "prod") newKeys (beside [(drawn "c-1" given_c1, "prod")])).1 :=
  (pass_converges_iff (filed_beside _)).mpr ⟨by decide +kernel, by decide +kernel⟩

/-- The second display name is taken as well. -/
def crowded : Store :=
  beside [(drawn "c-1" given_c1, "prod"), (drawn "c-2" given_c2, "prod (10.0.0.1:8006)")]

/-- A host whose two display names are taken stays where it was, and two hosts that report the
empty name end in two clusters. -/
theorem hosts_not_together :
    ((runOnce (allReport "prod") newKeys crowded).1.hosts.map fun host =>
        (host.id, host.clusterID)) = [("h-1", ""), ("h-2", "n-2")] ∧
      ¬Converges (allReport "prod") crowded (runOnce (allReport "prod") newKeys crowded).1 ∧
      ((runOnce (allReport "") newKeys (beside [])).1.hosts.map fun host =>
        (host.id, host.clusterID)) = [("h-1", "n-1"), ("h-2", "n-2")] ∧
      ¬Converges (allReport "") (beside []) (runOnce (allReport "") newKeys (beside [])).1 := by
  refine ⟨by decide +kernel, fun converges => ?_, by decide +kernel, fun converges => ?_⟩
  · have unfiled : ¬∀ host ∈ standalone crowded, ∀ n ∈ reported (allReport "prod") host,
        ∃ host' ∈ (runOnce (allReport "prod") newKeys crowded).1.hosts, host'.id = host.id ∧
          ∃ c ∈ (runOnce (allReport "prod") newKeys crowded).1.clusters,
            c.id = host'.clusterID ∧
              (runOnce (allReport "prod") newKeys crowded).1.pveClusterName c.id = n := by
      decide +kernel
    exact unfiled converges.filed
  · have separate : ¬∀ first ∈ standalone (beside []), ∀ second ∈ standalone (beside []),
        ∀ n ∈ reported (allReport "") first, n ∈ reported (allReport "") second →
          ∀ first' ∈ (runOnce (allReport "") newKeys (beside [])).1.hosts,
          ∀ second' ∈ (runOnce (allReport "") newKeys (beside [])).1.hosts,
            first'.id = first.id → second'.id = second.id →
              first'.clusterID = second'.clusterID := by
      decide +kernel
    exact separate converges.together

end Reconciliation
