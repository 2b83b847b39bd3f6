import PCenter.Transports

/-!
# Commands about guests

Which requests the agent makes for a command: `Execute` of the agent's executor with the checks of
`validate` and those of the handlers. The check on the VMID is made on the float; the path has the
float without its fraction. The checks on clones and snapshots in `validate` stand behind the one
for all actions on guests and are never reached; the handlers make them again, but for the
creation of a snapshot.
-/

namespace GuestCommands

open Executor GoJson GoText GuestOps GuestTasks Transports

section Spec

/-- The parameter is this whole number. -/
def Denotes (value : Json) (n : Int) : Prop := value = .int n ∨ value = .float n

/-- The actions that need the name of a snapshot. -/
def namesSnapshot : List Verb := [.snapshotCreate, .snapshotDelete, .snapshotRollback]

/-- The command lacks what its action needs. -/
inductive Lacks (cmd : Command) : Prop
  | vmid (gt : GuestType) (verb : Verb)
      (listed : guestActions.lookup cmd.action = some (gt, verb))
      (unnamed : ∀ n, 0 < n → ¬ Denotes (field cmd.params "vmid") n)
  | newid (gt : GuestType) (listed : guestActions.lookup cmd.action = some (gt, .clone))
      (missing : number (field cmd.params "newid") = none)
  | snapname (gt : GuestType) (verb : Verb)
      (listed : guestActions.lookup cmd.action = some (gt, verb))
      (named : verb ∈ namesSnapshot) (missing : getString cmd.params "snapname" = "")
  | pgID (about : cmd.action = "ceph_pg_repair" ∨ cmd.action = "ceph_pg_query")
      (missing : getString cmd.params "pg_id" = "")

/-- The agent acts on the guest that the command names, or not at all. -/
structure Exact (agent : Agent) (cmd : Command) : Prop where
  listed : ∀ effect, execute agent cmd = .ok effect →
    cmd.action ∈ allowedActions ∧ cmd.action ∈ Handlers.allowedAgentActions
  guest : ∀ call, execute agent cmd = .ok (.api call) → ∀ gt n,
    OnGuest agent.nodeName gt n call.path →
      0 < n.toInt ∧ Denotes (field cmd.params "vmid") n.toInt
  own : ∀ gt verb, guestActions.lookup cmd.action = some (gt, verb) → ∀ effect,
    execute agent cmd = .ok effect →
      ∃ call n, effect = .api call ∧ OnGuest agent.nodeName gt n call.path
  rejected : Lacks cmd → ∃ err, execute agent cmd = .error err

/-- The checks that are made let the command through. -/
structure Ready (verb : Verb) (cmd : Command) : Prop where
  id : cmd.id ≠ ""
  target : verb = .migrate → cmd.params.lookup "target" ≠ none
  vmid : ∃ v, number (field cmd.params "vmid") = some v ∧ 0 < v
  newid : verb = .clone → getParamInt cmd.params "newid" ≠ 0
  snapname : verb = .snapshotDelete ∨ verb = .snapshotRollback →
    getString cmd.params "snapname" ≠ ""

/-- A positive whole number below 2^63 that a float holds. -/
def Whole (value : Json) : Prop :=
  ∃ n : Int64, 0 < n.toInt ∧ Denotes value n.toInt ∧ number value = some (n.toInt : Rat)

end Spec

section Checks

variable {agent : Agent} {cmd : Command} {gt : GuestType} {verb : Verb}

theorem validate_iff (listed : guestActions.lookup cmd.action = some (gt, verb)) :
    validate cmd = .ok () ↔
      cmd.id ≠ "" ∧ (verb = .migrate → cmd.params.lookup "target" ≠ none) ∧
        ∃ v, number (field cmd.params "vmid") = some v ∧ 0 < v := by
  have spelled := spelled_of_lookup listed
  obtain ⟨id, action, params⟩ := cmd
  subst spelled
  by_cases identified : id = ""
  · simp [validate, identified]
  rw [validate_action identified, field]
  by_cases untargeted : verb = .migrate ∧ params.lookup "target" = none
  · rw [if_pos untargeted]
    simp [untargeted]
  · rw [if_neg untargeted]
    have targeted : verb = .migrate → params.lookup "target" ≠ none :=
      fun migrates absent => untargeted ⟨migrates, absent⟩
    cases found : params.lookup "vmid" with
    | none => simp [number]
    | some value =>
        cases read : number value with
        | none => simp [read]
        | some v =>
            by_cases low : v ≤ 0
            · simp [read, low, not_lt.mpr low]
            · simp only [read, low, if_false, true_iff]
              exact ⟨identified, targeted, v, read, not_le.mp low⟩

theorem executeGuest_iff {params : Fields} :
    (∃ call, executeGuest agent gt params verb = .ok call) ↔
      (verb = .clone → getParamInt params "newid" ≠ 0) ∧
        (verb = .snapshotDelete ∨ verb = .snapshotRollback → getString params "snapname" ≠ "") := by
  cases verb with
  | start | stop | shutdown | reboot | migrate | delete | configGet | configSet
    | convertToTemplate | snapshotList | snapshotCreate => simp [executeGuest]
  | clone =>
      by_cases missing : getParamInt params "newid" = 0
      · simp [executeGuest, clone, missing]
      · simp [executeGuest, clone, missing]
  | snapshotDelete | snapshotRollback =>
      by_cases missing : getString params "snapname" = ""
      · simp [executeGuest, onSnapshot, missing]
      · simp [executeGuest, onSnapshot, missing]

theorem execute_guest (listed : guestActions.lookup cmd.action = some (gt, verb))
    {effect : Effect} :
    execute agent cmd = .ok effect ↔
      validate cmd = .ok () ∧
        ∃ call, executeGuest agent gt cmd.params verb = .ok call ∧ effect = .api call := by
  rw [execute]
  cases checked : validate cmd with
  | error err => simp
  | ok done =>
      simp only [listed]
      cases executeGuest agent gt cmd.params verb with
      | error err => simp [Except.map]
      | ok call => simp [Except.map, eq_comm]

theorem ready_iff (listed : guestActions.lookup cmd.action = some (gt, verb)) :
    (∃ effect, execute agent cmd = .ok effect) ↔ Ready verb cmd := by
  constructor
  · rintro ⟨effect, done⟩
    obtain ⟨checked, call, handled, -⟩ := (execute_guest listed).mp done
    obtain ⟨id, target, vmid⟩ := (validate_iff listed).mp checked
    obtain ⟨newid, snapname⟩ := executeGuest_iff.mp ⟨call, handled⟩
    exact ⟨id, target, vmid, newid, snapname⟩
  · intro ready
    have checked := (validate_iff listed).mpr ⟨ready.id, ready.target, ready.vmid⟩
    obtain ⟨call, handled⟩ := executeGuest_iff.mpr ⟨ready.newid, ready.snapname⟩
    exact ⟨.api call, (execute_guest listed).mpr ⟨checked, call, handled, rfl⟩⟩

theorem rejected_iff {A : Type} {result : Except String A} :
    (∃ err, result = .error err) ↔ ¬ ∃ a, result = .ok a := by
  cases result with
  | error err => simp
  | ok a => simp

theorem listed_of_execute {effect : Effect} (done : execute agent cmd = .ok effect) :
    cmd.action ∈ allowedActions := by
  by_contra unlisted
  rw [execute, validate] at done
  by_cases identified : cmd.id = ""
  · rw [if_pos identified] at done
    cases done
  · rw [if_neg identified, if_pos unlisted] at done
    cases done

/-- No other command asks for a guest: the contents of a storage have another path. -/
theorem not_onGuest_other (other : guestActions.lookup cmd.action = none) {call : ApiCall}
    (done : execute agent cmd = .ok (.api call)) (n : Int64) :
    ¬ OnGuest agent.nodeName gt n call.path := by
  rw [execute] at done
  cases checked : validate cmd with
  | error err =>
      rw [checked] at done
      cases done
  | ok passed =>
      simp only [checked, other] at done
      split_ifs at done with ceph storage
      · cases listing : executeCeph cmd.params cmd.action <;> rw [listing] at done <;> cases done
      · rw [executeStorage] at done
        split_ifs at done with unnamed
        · cases done
        obtain rfl := Effect.api.inj (Except.ok.inj done)
        intro onGuest
        have shape (name : String) :
            "/nodes/" ++ agent.nodeName ++ "/storage/" ++ name ++ "/content" =
              "/nodes/" ++ agent.nodeName ++ ("/storage/" ++ name ++ "/content") := by
          simp only [String.append_assoc]
        rw [getRaw, shape] at onGuest
        have head := onGuest.head
        cases gt <;> simp [GuestType.api, String.toList_append] at head

theorem rejected_pgID (about : cmd.action = "ceph_pg_repair" ∨ cmd.action = "ceph_pg_query")
    (missing : getString cmd.params "pg_id" = "") : ∃ err, execute agent cmd = .error err := by
  have facts (action : String) (about : action = "ceph_pg_repair" ∨ action = "ceph_pg_query") :
      action ∈ allowedActions ∧ (hasPrefix "vm_" action || hasPrefix "ct_" action) = false ∧
        ¬ (action = "vm_clone" ∨ action = "ct_clone") ∧
        ¬ (action = "vm_snapshot_delete" ∨ action = "vm_snapshot_rollback" ∨
          action = "ct_snapshot_delete" ∨ action = "ct_snapshot_rollback") := by
    rcases about with rfl | rfl <;> decide
  obtain ⟨allowed, guest, clone, snapshot⟩ := facts cmd.action about
  have invalid : isValidPgID "" = false := by decide
  by_cases identified : cmd.id = ""
  · exact ⟨"command ID required", by rw [execute, validate, if_pos identified]⟩
  · refine ⟨"valid pg_id required (format: pool.hex)", ?_⟩
    rw [execute, validate, if_neg identified, if_neg (not_not.mpr allowed), guest,
      if_neg Bool.false_ne_true, if_neg clone, if_neg snapshot, if_pos about, missing, invalid,
      if_neg Bool.false_ne_true]

end Checks

section Numbers

variable {params : Fields}

theorem getVMID_of_number {n : Int64} (kept : number (field params "vmid") = some (n.toInt : Rat)) :
    getVMID params = n := by
  rw [getVMID, getParamInt, kept]
  simp only [Float64.toInt64_intCast n.le_toInt n.toInt_lt, Int64.ofInt_toInt]

/-- A whole number is cut to itself, or to the least integer. -/
theorem toInt_toInt64 (z : Int) :
    (Float64.toInt64 (z : Rat)).toInt = z ∨ (Float64.toInt64 (z : Rat)).toInt = -2 ^ 63 := by
  have whole : (if 0 ≤ (z : Rat) then (z : Rat).floor else (z : Rat).ceil) = z := by
    split <;> simp
  simp only [Float64.toInt64, whole]
  split_ifs with fits
  · exact .inl (Int64.toInt_ofInt_of_le fits.1 fits.2)
  · exact .inr (by decide)

theorem number_of_denotes {value : Json} {n : Int} (denotes : Denotes value n) :
    number value = some (Float64.ofInt n : Rat) := by
  rcases denotes with rfl | rfl
  · rfl
  · rw [number, Float64.ofRat_intCast]

/-- The VMID of the path is the one that the parameter denotes when it is kept. -/
theorem whole_iff {v : Rat} (read : number (field params "vmid") = some v) :
    0 < (getVMID params).toInt ∧ Denotes (field params "vmid") (getVMID params).toInt ↔
      Whole (field params "vmid") := by
  constructor
  · rintro ⟨positive, denotes⟩
    refine ⟨getVMID params, positive, denotes, ?_⟩
    have given := number_of_denotes denotes
    have cutOff : getVMID params = Float64.toInt64 v := by
      rw [getVMID, getParamInt, read]
    rw [← Option.some.inj (given.symm.trans read)] at cutOff
    rw [given]
    rcases toInt_toInt64 (Float64.ofInt (getVMID params).toInt) with same | least
    · rw [← cutOff] at same
      rw [← same]
    · rw [← cutOff] at least
      omega
  · rintro ⟨n, positive, denotes, kept⟩
    rw [getVMID_of_number kept]
    exact ⟨positive, denotes⟩

end Numbers

section Iff

variable (agent : Agent) (cmd : Command)

theorem guest_iff {gt : GuestType} {verb : Verb}
    (listed : guestActions.lookup cmd.action = some (gt, verb)) :
    (∀ call, execute agent cmd = .ok (.api call) → ∀ gt n, OnGuest agent.nodeName gt n call.path →
        0 < n.toInt ∧ Denotes (field cmd.params "vmid") n.toInt) ↔
      (Ready verb cmd → Whole (field cmd.params "vmid")) := by
  constructor
  · intro names ready
    obtain ⟨v, read, -⟩ := ready.vmid
    obtain ⟨effect, done⟩ := (@ready_iff agent cmd gt verb listed).mpr ready
    obtain ⟨-, call, handled, rfl⟩ := (execute_guest listed).mp done
    exact (whole_iff read).mp (names call done gt _ (onGuest_executeGuest handled))
  · intro whole call done gt' n onGuest
    obtain ⟨-, call', handled, same⟩ := (execute_guest listed).mp done
    obtain rfl := Effect.api.inj same
    have ready := (@ready_iff agent cmd gt verb listed).mp ⟨_, done⟩
    obtain ⟨v, read, -⟩ := ready.vmid
    have own := onGuest_executeGuest handled
    obtain rfl := onGuest.type_eq own
    rw [onGuest.vmid_eq own]
    exact (whole_iff read).mpr (whole ready)

/-- A command that lacks something is refused, but for the name of a snapshot to be created. -/
theorem rejected_iff_named {gt : GuestType} {verb : Verb}
    (listed : guestActions.lookup cmd.action = some (gt, verb))
    (whole : Ready verb cmd → Whole (field cmd.params "vmid")) :
    (Lacks cmd → ∃ err, execute agent cmd = .error err) ↔
      (Ready verb cmd → verb = .snapshotCreate → getString cmd.params "snapname" ≠ "") := by
  rw [rejected_iff, ready_iff listed]
  constructor
  · intro refused ready creates missing
    exact refused (.snapname gt verb listed (by rw [creates]; decide) missing) ready
  · intro named lacks ready
    cases lacks with
    | vmid gt' verb' listed' unnamed =>
        obtain ⟨n, positive, denotes, -⟩ := whole ready
        exact unnamed n.toInt positive denotes
    | newid gt' listed' missing =>
        obtain ⟨-, rfl⟩ := Prod.mk.inj (Option.some.inj (listed.symm.trans listed'))
        apply ready.newid rfl
        rw [getParamInt, missing]
    | snapname gt' verb' listed' among missing =>
        obtain ⟨-, rfl⟩ := Prod.mk.inj (Option.some.inj (listed.symm.trans listed'))
        rcases List.mem_cons.mp among with creates | others
        · exact named ready creates missing
        · exact ready.snapname (by simpa [namesSnapshot] using others) missing
    | pgID about missing =>
        have other : guestActions.lookup "ceph_pg_repair" = none ∧
            guestActions.lookup "ceph_pg_query" = none := by decide
        rcases about with same | same
        · rw [same, other.1] at listed
          cases listed
        · rw [same, other.2] at listed
          cases listed

/-- Commands are carried out on the guest they name, or not at all, exactly when the VMID of a
command that is let through is kept, and a snapshot that is created has a name. -/
theorem exact_iff :
    Exact agent cmd ↔
      ∀ gt verb, guestActions.lookup cmd.action = some (gt, verb) → Ready verb cmd →
        Whole (field cmd.params "vmid") ∧
          (verb = .snapshotCreate → getString cmd.params "snapname" ≠ "") := by
  constructor
  · intro exactly gt verb listed ready
    have whole := (guest_iff agent cmd listed).mp exactly.guest
    exact ⟨whole ready, (rejected_iff_named agent cmd listed whole).mp exactly.rejected ready⟩
  · intro condition
    have listed (effect : Effect) (done : execute agent cmd = .ok effect) :
        cmd.action ∈ allowedActions ∧ cmd.action ∈ Handlers.allowedAgentActions := by
      have allowed := listed_of_execute done
      rw [Handlers.allowedAgentActions_eq]
      exact ⟨allowed, allowed⟩
    cases about : guestActions.lookup cmd.action with
    | none =>
        refine ⟨listed, ?_, ?_, ?_⟩
        · intro call done gt n onGuest
          exact absurd onGuest (not_onGuest_other about done n)
        · intro gt verb found
          rw [about] at found
          cases found
        · intro lacks
          cases lacks with
          | vmid gt verb found unnamed | newid gt found missing
            | snapname gt verb found among missing =>
              rw [about] at found
              cases found
          | pgID which missing => exact rejected_pgID which missing
    | some entry =>
        obtain ⟨gt, verb⟩ := entry
        have whole := fun ready => (condition gt verb about ready).1
        refine ⟨listed, (guest_iff agent cmd about).mpr whole, ?_,
          (rejected_iff_named agent cmd about whole).mpr fun ready =>
            (condition gt verb about ready).2⟩
        intro gt' verb' found effect done
        obtain ⟨-, call, handled, rfl⟩ := (execute_guest found).mp done
        exact ⟨call, _, rfl, onGuest_executeGuest handled⟩

/-- Guest 100 is deleted for a VMID that is not a whole number. -/
theorem fraction_is_cut :
    ¬ Exact ⟨"pve1", fun _ => "", fun _ => ""⟩
      ⟨"c-1", "vm_delete", [("vmid", .float (1007 / 10))]⟩ := by
  intro exactly
  have lacks : Lacks ⟨"c-1", "vm_delete", [("vmid", .float (1007 / 10))]⟩ := by
    refine .vmid .vm .delete (by decide) ?_
    rintro n positive (int | float)
    · cases int
    · have same := Json.float.inj float
      have tenfold : (1007 : Rat) = 10 * (n : Rat) := by linarith
      have whole : (1007 : Int) = 10 * n := by exact_mod_cast tenfold
      omega
  have ready : Ready .delete ⟨"c-1", "vm_delete", [("vmid", .float (1007 / 10))]⟩ := by
    refine ⟨by decide, ?_, ⟨_, rfl, by decide +kernel⟩, ?_, ?_⟩
    · intro migrates
      cases migrates
    · intro clones
      cases clones
    · rintro (deletes | rolls)
      · cases deletes
      · cases rolls
  exact rejected_iff.mp (exactly.rejected lacks) ((@ready_iff _ _ .vm .delete (by decide)).mpr ready)

end Iff

end GuestCommands
