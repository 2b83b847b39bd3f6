import PCenter.Executor

/-!
# The paths of snapshot requests

A snapshot is deleted or rolled back by the backend's client or, over its connection, by the
agent of the node. The name comes from the URL of the backend's own request, where it was decoded.
The client writes it into the path as it is; the agent escapes it.
-/

namespace SnapshotPaths

open Executor Form GoText GuestTasks GoJson

section Paths

inductive SnapshotAction where
  | delete
  | rollback
  deriving DecidableEq, Repr

/-- `DeleteVMSnapshot`, `RollbackVMSnapshot` and their siblings for containers. -/
def SnapshotAction.call (gt : GuestType) (vmid : Int64) (snapname : String) :
    SnapshotAction → TaskCall
  | .delete => .deleteSnapshot gt vmid snapname
  | .rollback => .rollbackSnapshot gt vmid snapname

/-- The agent's actions. -/
def SnapshotAction.verb : SnapshotAction → Verb
  | .delete => .snapshotDelete
  | .rollback => .snapshotRollback

/-- The segments after the name. -/
def SnapshotAction.after : SnapshotAction → List String
  | .delete => []
  | .rollback => ["rollback"]

/-- The path that the client builds. -/
def clientPath (nodeName : String) (gt : GuestType) (vmid : Int64) (snapname : String)
    (action : SnapshotAction) : String :=
  ((action.call gt vmid snapname).apiCall nodeName).path

/-- The path that the agent builds, or its error. -/
def agentPath (agent : Agent) (gt : GuestType) (params : Fields) (action : SnapshotAction) :
    Except String String :=
  (executeGuest agent gt params action.verb).map (·.path)

/-- The request addresses the named snapshot and nothing else. -/
structure Addresses (nodeName : String) (gt : GuestType) (vmid : Int64) (snapname : String)
    (action : SnapshotAction) (path : String) : Prop where
  segments : split '/' path =
    ["", "nodes", nodeName, gt.api, itoa vmid, "snapshot", GoUrl.pathEscape snapname] ++
      action.after
  noDots : ∀ segment ∈ split '/' path, segment ≠ "." ∧ segment ≠ ".."
  noQuery : contains '?' path = false ∧ contains '#' path = false
  named : ∃ segment, (split '/' path)[6]? = some segment ∧
    GoUrl.unescapeChars false (GoUrl.byteChars (utf8 segment)) =
      some (GoUrl.byteChars (utf8 snapname))
  agent : ∀ (agent : Agent) (params : Fields), agent.nodeName = nodeName →
    getVMID params = vmid → getString params "snapname" = snapname →
      agentPath agent gt params action = .ok path

/-- One segment that is not read as anything else. -/
structure Segment (s : String) : Prop where
  slash : contains '/' s = false
  query : contains '?' s = false
  fragment : contains '#' s = false
  dot : s ≠ "."
  dots : s ≠ ".."

/-- The name needs no escaping and is not made of dots. -/
structure PlainName (snapname : String) : Prop where
  safe : ∀ b ∈ utf8 snapname, GoUrl.pathSafe b = true
  dot : snapname ≠ "."
  dots : snapname ≠ ".."

end Paths

section Segments

variable (nodeName : String) (gt : GuestType) (vmid : Int64) (snapname : String)
  (action : SnapshotAction)

/-- The path that the client builds, between its slashes. -/
theorem split_clientPath :
    split '/' (clientPath nodeName gt vmid snapname action) =
      "" :: "nodes" :: (split '/' nodeName ++
        gt.api :: itoa vmid :: "snapshot" :: (split '/' snapname ++ action.after)) := by
  have root : "/nodes/" = "" ++ String.singleton '/' ++ ("nodes" ++ String.singleton '/') := by
    decide
  have below : "/snapshot/" =
      String.singleton '/' ++ ("snapshot" ++ String.singleton '/') := by decide
  have bar : "/" = String.singleton '/' := by decide
  have rollback : "/rollback" = String.singleton '/' ++ "rollback" := by decide
  have words : split '/' "" = [""] ∧ split '/' "nodes" = ["nodes"] ∧
      split '/' "snapshot" = ["snapshot"] ∧ split '/' "rollback" = ["rollback"] := by decide
  have api : split '/' gt.api = [gt.api] := by cases gt <;> decide
  have number : split '/' (itoa vmid) = [itoa vmid] :=
    split_of_not_contains (contains_itoa (by decide) (by decide) vmid)
  have tail (last : String) :
      split '/' ("/nodes/" ++ nodeName ++ "/" ++ gt.api ++ "/" ++ itoa vmid ++
        ("/snapshot/" ++ last)) =
      "" :: "nodes" :: (split '/' nodeName ++
        gt.api :: itoa vmid :: "snapshot" :: split '/' last) := by
    have shape : "/nodes/" ++ nodeName ++ "/" ++ gt.api ++ "/" ++ itoa vmid ++
        ("/snapshot/" ++ last) =
        "" ++ String.singleton '/' ++ ("nodes" ++ String.singleton '/' ++ (nodeName ++
          String.singleton '/' ++ (gt.api ++ String.singleton '/' ++ (itoa vmid ++
            String.singleton '/' ++ ("snapshot" ++ String.singleton '/' ++ last))))) := by
      rw [root, below, bar]
      simp only [String.append_assoc]
    rw [shape]
    simp only [split_append, words, api, number, List.singleton_append]
  cases action with
  | delete =>
      rw [SnapshotAction.after, List.append_nil]
      exact tail snapname
  | rollback =>
      have last := split_append '/' snapname "rollback"
      rw [words.2.2.2] at last
      have whole := tail (snapname ++ String.singleton '/' ++ "rollback")
      rw [last] at whole
      have shape : "/snapshot/" ++ snapname ++ "/rollback" =
          "/snapshot/" ++ (snapname ++ String.singleton '/' ++ "rollback") := by
        rw [rollback, String.append_assoc, String.append_assoc]
      rw [← shape] at whole
      exact whole

/-- The segments are the ones meant exactly when the node and the name are one each, and the name
is its own escaped form. -/
theorem segments_iff :
    split '/' (clientPath nodeName gt vmid snapname action) =
        ["", "nodes", nodeName, gt.api, itoa vmid, "snapshot", GoUrl.pathEscape snapname] ++
          action.after ↔
      contains '/' nodeName = false ∧ GoUrl.pathEscape snapname = snapname := by
  rw [split_clientPath]
  constructor
  · intro same
    have lengths := congrArg List.length same
    simp only [List.length_cons, List.length_append, List.length_nil] at lengths
    have node := List.length_pos_iff.mpr (ne_nil_split '/' nodeName)
    have name := List.length_pos_iff.mpr (ne_nil_split '/' snapname)
    have nodeWhole := length_split_iff.mp (by omega : (split '/' nodeName).length = 1)
    have nameWhole := length_split_iff.mp (by omega : (split '/' snapname).length = 1)
    rw [split_of_not_contains nodeWhole, split_of_not_contains nameWhole] at same
    refine ⟨nodeWhole, ?_⟩
    simpa using same.symm
  · rintro ⟨nodeWhole, escaped⟩
    have nameWhole : contains '/' snapname = false := by
      have absent : '/' ∉ snapname.toList := by
        intro member
        rw [← escaped] at member
        exact (GoUrl.mem_pathEscape member).1 rfl
      simpa [contains] using absent
    rw [split_of_not_contains nodeWhole, split_of_not_contains nameWhole, escaped]
    rfl

end Segments

section Iff

variable (nodeName : String) (gt : GuestType) (vmid : Int64) (snapname : String)
  (action : SnapshotAction)

/-- A question mark or a number sign in the path comes from the node or from the name. -/
theorem contains_clientPath {c : Char} (mark : c = '?' ∨ c = '#') :
    contains c (clientPath nodeName gt vmid snapname action) =
      (contains c nodeName || contains c snapname) := by
  have fixed : contains c "/nodes/" = false ∧ contains c "/" = false ∧ contains c gt.api = false ∧
      contains c "/snapshot/" = false ∧ contains c "/rollback" = false := by
    rcases mark with rfl | rfl <;> cases gt <;> decide
  have number : contains c (itoa vmid) = false := by
    rcases mark with rfl | rfl
    · exact contains_itoa (by decide) (by decide) vmid
    · exact contains_itoa (by decide) (by decide) vmid
  have parts (last : String) : contains c (guestPath nodeName gt vmid last) =
      (contains c nodeName || contains c last) := by
    simp only [guestPath, contains_append, fixed, number, Bool.false_or, Bool.or_false]
  cases action with
  | delete =>
      have whole := parts ("/snapshot/" ++ snapname)
      rw [contains_append, fixed.2.2.2.1, Bool.false_or] at whole
      exact whole
  | rollback =>
      have whole := parts ("/snapshot/" ++ snapname ++ "/rollback")
      rw [contains_append, contains_append, fixed.2.2.2.1, fixed.2.2.2.2, Bool.false_or,
        Bool.or_false] at whole
      exact whole

/-- The agent builds the client's path for the escaped name. -/
theorem agentPath_eq {agent : Agent} {params : Fields}
    (nonempty : getString params "snapname" ≠ "") :
    agentPath agent gt params action =
      .ok (clientPath agent.nodeName gt (getVMID params)
        (GoUrl.pathEscape (getString params "snapname")) action) := by
  cases action with
  | delete =>
      rw [agentPath, SnapshotAction.verb, executeGuest, onSnapshot, if_neg nonempty,
        String.append_empty]
      rfl
  | rollback =>
      rw [agentPath, SnapshotAction.verb, executeGuest, onSnapshot, if_neg nonempty]
      rfl

theorem contains_of_escaped {c : Char} (mark : c = '/' ∨ c = '?' ∨ c = '#') {s : String}
    (escaped : GoUrl.pathEscape s = s) : contains c s = false := by
  have absent : c ∉ s.toList := by
    intro member
    rw [← escaped] at member
    obtain ⟨slash, query, fragment, -⟩ := GoUrl.mem_pathEscape member
    rcases mark with same | same | same
    · exact slash same
    · exact query same
    · exact fragment same
  simpa [contains] using absent

theorem unescape_of_safe {s : String} (safe : ∀ b ∈ utf8 s, GoUrl.pathSafe b = true) :
    GoUrl.unescapeChars false (GoUrl.byteChars (utf8 s)) = some (GoUrl.byteChars (utf8 s)) := by
  have ascii : ∀ b ∈ utf8 s, b.toNat < 128 := by
    intro b member
    have own := safe b member
    rw [← UInt8.ofNat_toNat (x := b)] at own
    exact (GoUrl.pathSafe_char b.toNat b.toNat_lt own).2
  have read := GoUrl.unescapeChars_pathEscape s
  rw [GoUrl.pathEscape_eq_iff.mpr safe, ← GoUrl.byteChars_utf8 ascii] at read
  exact read

theorem itoa_ne_dots : itoa vmid ≠ "." ∧ itoa vmid ≠ ".." := by
  have none_in : contains '.' (itoa vmid) = false :=
    contains_itoa (by decide) (by decide) vmid
  constructor
  · intro same
    rw [same] at none_in
    exact absurd none_in (by decide)
  · intro same
    rw [same] at none_in
    exact absurd none_in (by decide)

/-- The client's path addresses the snapshot exactly when the node is a segment and the name needs
no escaping. -/
theorem addresses_iff (nonempty : snapname ≠ "") :
    Addresses nodeName gt vmid snapname action
        (clientPath nodeName gt vmid snapname action) ↔
      Segment nodeName ∧ PlainName snapname := by
  constructor
  · intro addresses
    have segments := addresses.segments
    have dotless := addresses.noDots
    rw [segments] at dotless
    obtain ⟨nodeWhole, escaped⟩ := (segments_iff nodeName gt vmid snapname action).mp segments
    have query := addresses.noQuery.1
    have fragment := addresses.noQuery.2
    rw [contains_clientPath _ _ _ _ _ (.inl rfl), Bool.or_eq_false_iff] at query
    rw [contains_clientPath _ _ _ _ _ (.inr rfl), Bool.or_eq_false_iff] at fragment
    have node := dotless nodeName (by simp)
    have name := dotless (GoUrl.pathEscape snapname) (by simp)
    rw [escaped] at name
    exact ⟨⟨nodeWhole, query.1, fragment.1, node.1, node.2⟩,
      ⟨GoUrl.pathEscape_eq_iff.mp escaped, name.1, name.2⟩⟩
  · rintro ⟨node, name⟩
    have escaped := GoUrl.pathEscape_eq_iff.mpr name.safe
    have segments := (segments_iff nodeName gt vmid snapname action).mpr ⟨node.slash, escaped⟩
    refine ⟨segments, ?_, ?_, ?_, ?_⟩
    · rw [segments, escaped]
      refine List.forall_mem_append.mpr ⟨?_, ?_⟩
      · simp only [List.forall_mem_cons]
        have api : gt.api ≠ "." ∧ gt.api ≠ ".." := by cases gt <;> decide
        exact ⟨by decide, by decide, ⟨node.dot, node.dots⟩, api, itoa_ne_dots vmid, by decide,
          ⟨name.dot, name.dots⟩, List.forall_mem_nil _⟩
      · cases action <;> decide
    · rw [contains_clientPath _ _ _ _ _ (.inl rfl), contains_clientPath _ _ _ _ _ (.inr rfl),
        node.query, node.fragment, contains_of_escaped (.inr (.inl rfl)) escaped,
        contains_of_escaped (.inr (.inr rfl)) escaped]
      exact ⟨rfl, rfl⟩
    · refine ⟨snapname, ?_, unescape_of_safe name.safe⟩
      rw [segments, escaped]
      rfl
    · intro agent params sameNode sameVmid sameName
      rw [agentPath_eq gt action (by rwa [sameName]), sameNode, sameVmid, sameName, escaped]

/-- A plain name on a plain node is addressed. -/
theorem daily_addressed :
    "daily" ≠ "" ∧ Addresses "pve1" .vm 100 "daily" .delete
      (clientPath "pve1" .vm 100 "daily" .delete) :=
  ⟨by decide, (addresses_iff "pve1" .vm 100 "daily" .delete (by decide)).mpr
    ⟨⟨by decide, by decide, by decide, by decide, by decide⟩,
      ⟨List.all_eq_true.mp (by decide), by decide, by decide⟩⟩⟩

/-- The client deletes another snapshot than the one named, and by force. -/
theorem name_becomes_query :
    ¬ Addresses "pve1" .vm 100 "old?force=1" .delete
      (clientPath "pve1" .vm 100 "old?force=1" .delete) := by
  intro addresses
  have query := addresses.noQuery.1
  rw [contains_clientPath _ _ _ _ _ (.inl rfl)] at query
  exact absurd query (by decide)

end Iff

end SnapshotPaths
