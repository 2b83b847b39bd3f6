import PCenter.GuestOps
import PCenter.Lib.Procedure

/-!
# Two transports

A handler that tries the agent first says an operation twice: as a command with a map of
parameters, which the agent reads key by key, and as a call of the backend's own client.
The two come to the same request at Proxmox only under conditions on the request; which
ones is listed by `Survives`, and `sameOverBoth_iff` says that it is exactly these.

What gets lost: the purge of a deletion, the storage and the description of a clone, the
mode in which a container migrates, numbers beyond the precision of a float, and values
that would have to be escaped. What is gained: actions that only the agent knows.
-/

namespace Transports

open GoJson GoText GuestTasks Executor Handlers Auth GuestOps Form
open Routes (Endpoint)

section Outcomes

/-- The same call both times, or none. -/
def Agree : Option ApiCall → Option ApiCall → Prop
  | some a, some b => a.Same b
  | none, none => True
  | _, _ => False

/-- The call that the agent of a node makes for a command. -/
def agentCall (agent : Agent) (node : String) (cmd : Command) : Option ApiCall :=
  match execute { agent with nodeName := node } cmd with
  | .ok (.api call) => some call
  | _ => none

/-- The call that the backend's client makes. -/
def clientCall (p : AgentFirst) : Option ApiCall :=
  match p.fallback with
  | .ok call => some (call.apiCall p.node)
  | .error _ => none

/-- What reaches Proxmox when a handler that tries the agent first is done. -/
def outcome (agent : Agent) : Result → Option ApiCall
  | .ok [.task client call] => some (call.apiCall client.nodeName)
  | .ok [.command _ node cmd] => agentCall agent node cmd
  | _ => none

end Outcomes

section Plans

variable (env : Env) (r : Request) (ctx : Context) (values : List (String × String))

/-- The handlers that try the agent first, as far as the choice of transport. -/
def plan : Endpoint → Option (Except Refusal AgentFirst)
  | .clusterVMAction => some (clusterGuestAction env ctx values .vm)
  | .clusterContainerAction => some (clusterGuestAction env ctx values .ct)
  | .deleteClusterVM => some (deleteClusterGuest env r ctx values .vm)
  | .deleteClusterContainer => some (deleteClusterGuest env r ctx values .ct)
  | .clusterMigrateVM => some (clusterMigrateGuest env r ctx values .vm)
  | .clusterMigrateContainer => some (clusterMigrateGuest env r ctx values .ct)
  | .cloneVM => some (cloneGuest env r values .vm)
  | .cloneContainer => some (cloneGuest env r values .ct)
  | .convertVMToTemplate => some (convertToTemplate env values .vm)
  | .convertContainerToTemplate => some (convertToTemplate env values .ct)
  | _ => none

variable {env r ctx values}

theorem handle_of_plan {e : Endpoint} {planned : Except Refusal AgentFirst}
    (first : plan env r ctx values e = some planned) :
    handle env r ctx values e = planned >>= AgentFirst.run env := by
  simp only [plan] at first
  split at first
  case h_11 => exact absurd first (by simp)
  all_goals
    obtain rfl := Option.some.inj first
    rfl

end Plans

/-- The server as it is while no agent is connected. -/
def withoutAgents (env : Env) : Env := { env with agentHub := none }

/-- Both transports to a node are at hand. -/
structure Ready (env : Env) (cluster node : String) : Prop where
  agent : ∃ hub, env.agentHub = some hub ∧ Env.key cluster node ∈ hub.agents ∧
    hub.accepts (Env.key cluster node) = true
  client : HasClient env cluster node

/-- A request to a handler that tries the agent first comes to the same call, or is
rejected, with the agent and without it. -/
def SameOverBoth (agent : Agent) (env : Env) (r : Request) (ctx : Context)
    (values : List (String × String)) (e : Endpoint) : Prop :=
  ∀ planned, plan env r ctx values e = some planned →
    (∀ p, planned = .ok p → Ready env p.cluster p.node) →
    Agree (outcome agent (handle env r ctx values e))
      (outcome agent (handle (withoutAgents env) r ctx values e))

section Choice

variable {agent : Agent} {env : Env}

theorem agree_refl (call : Option ApiCall) : Agree call call := by
  cases call with
  | none => trivial
  | some call => exact ⟨rfl, rfl, .refl _⟩

/-- The identifier of a command. -/
def cmdID (env : Env) (action : String) : String := "cmd-" ++ toString env.now ++ "-" ++ action

theorem cmdID_ne_empty (action : String) : cmdID env action ≠ "" := by
  intro empty
  have chars := congrArg String.toList empty
  simp [cmdID] at chars

theorem outcome_client {p : AgentFirst} (client : HasClient env p.cluster p.node) :
    outcome agent (found (env.getClient p.cluster p.node) p.noClient >>= fun client =>
      p.fallback >>= fun call => .ok [.task client call]) = clientCall p := by
  rw [getClient_eq_some_iff.mpr ⟨client, rfl⟩]
  cases called : p.fallback with
  | error refusal => simp [found, outcome, clientCall, called, bind, Except.bind]
  | ok call => simp [found, outcome, clientCall, called, bind, Except.bind]

/-- An action that the whitelist does not know goes to the client anyway. -/
theorem agree_run_iff {p : AgentFirst} (ready : Ready env p.cluster p.node) :
    Agree (outcome agent (p.run env)) (outcome agent (p.run (withoutAgents env))) ↔
      (p.action ∈ allowedActions →
        Agree (agentCall agent p.node ⟨cmdID env p.action, p.action, p.params⟩)
          (clientCall p)) := by
  have client : outcome agent (p.run (withoutAgents env)) = clientCall p :=
    @outcome_client agent (withoutAgents env) p ready.client
  obtain ⟨hub, configured, connected, fits⟩ := ready.agent
  by_cases allowed : p.action ∈ allowedActions
  · have sent : env.tryAgentAction p.cluster p.node p.action p.params = some _ :=
      tryAgentAction_eq_some_iff.mpr ⟨⟨hub, configured, allowed, connected, fits⟩, rfl⟩
    have command : outcome agent (p.run env) =
        agentCall agent p.node ⟨cmdID env p.action, p.action, p.params⟩ := by
      rw [AgentFirst.run, sent]
      rfl
    simp [client, command, allowed]
  · have refused : ¬Takes env p.cluster p.node p.action := fun taken => by
      obtain ⟨_, _, member, _⟩ := taken
      exact allowed member
    have direct : outcome agent (p.run env) = clientCall p := by
      rw [AgentFirst.run, tryAgentAction_eq_none refused]
      exact outcome_client ready.client
    simp [client, direct, allowed, agree_refl]

end Choice

section Commands

/-! What the agent makes of a command about a guest. -/

variable {gt : GuestType} {verb : Verb} {vmid : Int64} {rest : Fields} {id : String}

theorem mem_allowedActions (gt : GuestType) (verb : Verb) :
    actionPrefix gt ++ verb.name ∈ allowedActions := by
  cases gt <;> cases verb <;> decide

theorem validate_action {params : Fields} (identified : id ≠ "") :
    validate ⟨id, actionPrefix gt ++ verb.name, params⟩ =
      if verb = .migrate ∧ params.lookup "target" = none then
        .error "target required for migration"
      else
        match params.lookup "vmid" with
        | none => .error "vmid required"
        | some vmid =>
            match number vmid with
            | some v => if v ≤ 0 then .error "vmid must be positive" else .ok ()
            | none => .error "vmid must be a number" := by
  have prefixed : (hasPrefix "vm_" (actionPrefix gt ++ verb.name) ||
      hasPrefix "ct_" (actionPrefix gt ++ verb.name)) = true := by
    cases gt <;> cases verb <;> decide
  have migration : actionPrefix gt ++ verb.name = "vm_migrate" ∨
      actionPrefix gt ++ verb.name = "ct_migrate" ↔ verb = .migrate := by
    cases gt <;> cases verb <;> decide
  rw [validate, if_neg identified, if_neg (not_not.mpr (mem_allowedActions gt verb)),
    if_pos prefixed]
  exact if_congr (and_congr_left' migration) rfl rfl

/-- A command about a guest is refused for a missing target or for its VMID. -/
theorem validate_guest (identified : id ≠ "") :
    validate ⟨id, actionPrefix gt ++ verb.name, ("vmid", encodeInt vmid) :: rest⟩ =
      if verb = .migrate ∧ rest.lookup "target" = none then
        .error "target required for migration"
      else if vmid.toInt ≤ 0 then .error "vmid must be positive"
      else .ok () := by
  have sign : ((Float64.ofInt vmid.toInt : Int) : Rat) ≤ 0 ↔ vmid.toInt ≤ 0 := by
    have positive := Float64.ofInt_pos_iff (n := vmid.toInt)
    rw [← not_lt, ← not_lt, ← positive]
    exact_mod_cast Iff.rfl
  have later : List.lookup "target" (("vmid", encodeInt vmid) :: rest) =
      rest.lookup "target" := rfl
  rw [validate_action identified, later]
  simp only [List.lookup_cons_self, encodeInt, number, sign]

theorem agentCall_guest {agent : Agent} {node : String} (identified : id ≠ "") :
    agentCall agent node ⟨id, actionPrefix gt ++ verb.name, ("vmid", encodeInt vmid) :: rest⟩ =
      if (verb = .migrate ∧ rest.lookup "target" = none) ∨ vmid.toInt ≤ 0 then none
      else (executeGuest { agent with nodeName := node } gt (("vmid", encodeInt vmid) :: rest)
        verb).toOption := by
  have listed : guestActions.lookup (actionPrefix gt ++ verb.name) = some (gt, verb) :=
    lookup_action_iff.mpr ⟨rfl, rfl⟩
  by_cases untargeted : verb = .migrate ∧ rest.lookup "target" = none
  · rw [if_pos (.inl untargeted), agentCall, execute, validate_guest identified,
      if_pos untargeted]
  · by_cases refused : vmid.toInt ≤ 0
    · rw [if_pos (.inr refused), agentCall, execute, validate_guest identified,
        if_neg untargeted, if_pos refused]
    · rw [if_neg (not_or.mpr ⟨untargeted, refused⟩), agentCall, execute,
        validate_guest identified, if_neg untargeted, if_neg refused]
      simp only [listed]
      cases executeGuest { agent with nodeName := node } gt (("vmid", encodeInt vmid) :: rest)
        verb <;> rfl

theorem same_post_iff {node suffix : String} {m n : Int64} {body : Bytes} {params : List Pair} :
    ApiCall.Same ⟨.post, guestPath node gt m suffix, body⟩
        (GuestTasks.post (guestPath node gt n suffix) params) ↔
      m = n ∧ (decodeForm body).Perm params := by
  constructor
  · rintro ⟨-, path, read⟩
    exact ⟨guestPath_inj.mp path, read.trans (decodeForm_post _ _)⟩
  · rintro ⟨rfl, read⟩
    exact ⟨rfl, rfl, read.trans (decodeForm_post _ _).symm⟩

end Commands

section Survival

/-- A VMID that the agent accepts and reads as it is. -/
def Whole (vmid : Int64) : Prop := 0 < vmid.toInt ∧ Float64.through vmid = vmid

/-- What the agent carries out knowing only a VMID, and the client does not. -/
def agentOnly : List String :=
  ["reboot", "delete", "config_get", "config_set", "convert_to_template", "snapshot_list",
    "snapshot_create"]

def PowerSurvives (action : String) (vmid : Int64) : Prop :=
  (action ∈ ["start", "stop", "shutdown"] → Whole vmid) ∧
    (action ∈ agentOnly → vmid.toInt ≤ 0)

def DeleteSurvives (purge : Bool) (vmid : Int64) : Prop := Whole vmid ∧ purge = false

/-- A container never migrates in the same mode. -/
def MigrateSurvives (gt : GuestType) (targetNode : String) (vmid : Int64) : Prop :=
  gt = .vm ∧ Whole vmid ∧ SafeValue (utf8 targetNode)

structure CloneSurvives (req : CloneOptions) (vmid : Int64) : Prop where
  vmid : Whole vmid
  newID : Float64.through req.newID = req.newID
  name : SafeValue (utf8 req.name)
  target : SafeValue (utf8 req.targetNode)
  storage : req.storage = ""
  description : req.description = ""

variable {agent : Agent} {node id : String} {gt : GuestType} {vmid : Int64}

theorem agree_task_iff {verb : Verb} {rest : Fields} {call : ApiCall} (identified : id ≠ "")
    (target : verb = .migrate → rest.lookup "target" ≠ none) :
    Agree (agentCall agent node
        ⟨id, actionPrefix gt ++ verb.name, ("vmid", encodeInt vmid) :: rest⟩) (some call) ↔
      0 < vmid.toInt ∧ Agree (executeGuest { agent with nodeName := node } gt
        (("vmid", encodeInt vmid) :: rest) verb).toOption (some call) := by
  have targeted : ¬(verb = .migrate ∧ rest.lookup "target" = none) :=
    fun untargeted => target untargeted.1 untargeted.2
  rw [agentCall_guest identified]
  by_cases positive : 0 < vmid.toInt
  · rw [if_neg (not_or.mpr ⟨targeted, not_le.mpr positive⟩)]
    exact (and_iff_right positive).symm
  · rw [if_pos (.inr (not_lt.mp positive))]
    exact iff_of_false not_false (fun both => positive both.1)

/-- What the client comes to when it is asked for a power action. -/
def powerCall (node : String) (gt : GuestType) (vmid : Int64) (action : String) :
    Option ApiCall :=
  (powerOf action).map fun power => (TaskCall.power gt vmid power).apiCall node

theorem agree_power_iff {verb : Verb} (identified : id ≠ "") :
    Agree (agentCall agent node
        ⟨id, actionPrefix gt ++ verb.name, [("vmid", encodeInt vmid)]⟩)
      (powerCall node gt vmid verb.name) ↔ PowerSurvives verb.name vmid := by
  rw [agentCall_guest identified]
  by_cases positive : 0 < vmid.toInt
  · have posted (action status : String) (listed : action ∈ ["start", "stop", "shutdown"])
        (known : action ∉ agentOnly) :
        Agree (some (Executor.post (path { agent with nodeName := node } gt
          [("vmid", encodeInt vmid)] status)))
          (some (GuestTasks.post (guestPath node gt vmid status) [])) ↔
          PowerSurvives action vmid := by
      have survives : PowerSurvives action vmid ↔ Float64.through vmid = vmid := by
        simp [PowerSurvives, listed, known, Whole, positive]
      rw [survives]
      exact same_post_iff.trans (and_iff_left (.refl _))
    have unknown {action : String} {call : ApiCall} (listed : action ∈ agentOnly) :
        Agree (some call) none ↔ PowerSurvives action vmid :=
      iff_of_false not_false fun survives => not_le.mpr positive (survives.2 listed)
    have rejected {action : String} (other : action ∉ ["start", "stop", "shutdown"])
        (known : action ∉ agentOnly) : Agree none none ↔ PowerSurvives action vmid :=
      iff_of_true trivial ⟨fun listed => absurd listed other, fun listed => absurd listed known⟩
    by_cases migrates : verb = .migrate
    · subst migrates
      rw [if_pos (.inl ⟨rfl, rfl⟩)]
      exact rejected (by decide) (by decide)
    · rw [if_neg (not_or.mpr ⟨fun both => migrates both.1, not_le.mpr positive⟩)]
      cases verb with
      | migrate => exact absurd rfl migrates
      | start => exact posted "start" "/status/start" (by decide) (by decide)
      | stop => exact posted "stop" "/status/stop" (by decide) (by decide)
      | shutdown => exact posted "shutdown" "/status/shutdown" (by decide) (by decide)
      | clone | snapshotDelete | snapshotRollback => exact rejected (by decide) (by decide)
      | reboot | delete | configGet | configSet | convertToTemplate | snapshotList
        | snapshotCreate => exact unknown (by decide)
  · rw [if_pos (.inr (not_lt.mp positive))]
    cases verb <;>
      simp [Agree, powerCall, powerOf, Verb.name, PowerSurvives, agentOnly, Whole, positive,
        not_lt.mp positive]

theorem guestPath_query_ne {m n : Int64} {query : String} (asks : '?' ∈ query.toList) :
    guestPath node gt m "" ≠ guestPath node gt n query := by
  intro same
  simp only [guestPath, String.append_assoc, String.append_right_inj, String.append_empty] at same
  have inside : '?' ∈ (itoa m).toList := by simp [same, asks]
  rcases mem_itoa inside with minus | digit
  · exact absurd minus (by decide)
  · exact absurd digit (by decide)

theorem agree_delete_iff {purge : Bool} (identified : id ≠ "") :
    Agree (agentCall agent node
        ⟨id, actionPrefix gt ++ Verb.delete.name, [("vmid", encodeInt vmid)]⟩)
      (some ((TaskCall.delete gt vmid purge).apiCall node)) ↔ DeleteSurvives purge vmid := by
  rw [DeleteSurvives, Whole, and_assoc]
  refine Iff.trans (agree_task_iff identified nofun) (and_congr_right fun positive => ?_)
  cases purge with
  | false =>
      refine Iff.trans ?_ (and_iff_left rfl).symm
      constructor
      · exact fun same => guestPath_inj.mp same.path
      · exact fun whole => ⟨rfl, guestPath_inj.mpr whole, .refl _⟩
  | true =>
      refine iff_of_false ?_ (fun both => nomatch both.2)
      exact fun same => guestPath_query_ne (by decide) same.path

theorem agree_convert_iff (identified : id ≠ "") :
    Agree (agentCall agent node
        ⟨id, actionPrefix gt ++ Verb.convertToTemplate.name, [("vmid", encodeInt vmid)]⟩)
      (some ((TaskCall.convertToTemplate gt vmid).apiCall node)) ↔ Whole vmid := by
  refine Iff.trans (agree_task_iff identified nofun) (and_congr_right fun _ => ?_)
  exact same_post_iff.trans (and_iff_left (.refl _))

/-- The parameters that both ways have of a migration. -/
def sharedMigration (targetNode : String) (online : Bool) : List Pair :=
  param "target" targetNode :: flag "online" online

theorem mem_sharedMigration {targetNode : String} {online : Bool} {p : Pair}
    (member : p ∈ sharedMigration targetNode online) :
    p = param "target" targetNode ∨ p = param "online" "1" := by
  rcases List.mem_cons.mp member with rfl | later
  · exact .inl rfl
  · exact .inr (mem_flag_iff.mp later).2

theorem read_sharedMigration_iff {targetNode : String} {online : Bool} {more : List Pair}
    (named : targetNode ≠ "") (valued : ∀ p ∈ more, p.2 ≠ []) :
    (decodeForm (rawForm (sharedMigration targetNode online))).Perm
        (sharedMigration targetNode online ++ more) ↔
      more = [] ∧ SafeValue (utf8 targetNode) := by
  have keys : ∀ p ∈ sharedMigration targetNode online, PlainKey p.1 := by
    intro p member
    rcases mem_sharedMigration member with rfl | rfl
    · exact (by decide : PlainKey (utf8 "target"))
    · exact (by decide : PlainKey (utf8 "online"))
  have distinct : ((sharedMigration targetNode online).map (·.1)).Nodup := by
    cases online
    · exact (by decide : [utf8 "target"].Nodup)
    · exact (by decide : [utf8 "target", utf8 "online"].Nodup)
  have values : ∀ p ∈ sharedMigration targetNode online ++ more, p.2 ≠ [] := by
    intro p member
    rcases List.mem_append.mp member with own | other
    · rcases mem_sharedMigration own with rfl | rfl
      · exact param_value_ne_nil named
      · exact param_value_ne_nil (by decide)
    · exact valued p other
  rw [decodeForm_rawForm_perm_iff keys distinct values]
  refine and_congr_right fun _ => ⟨fun safe => safe _ List.mem_cons_self, ?_⟩
  intro safe p member
  rcases mem_sharedMigration member with rfl | rfl
  · exact safe
  · exact (by decide : SafeValue (utf8 "1"))

theorem agree_migrate_iff {targetNode : String} {online : Bool} (identified : id ≠ "")
    (named : targetNode ≠ "") :
    Agree (agentCall agent node ⟨id, actionPrefix gt ++ Verb.migrate.name,
        [("vmid", encodeInt vmid), ("target", .str targetNode), ("online", .bool online)]⟩)
      (some ((TaskCall.migrate gt vmid targetNode online).apiCall node)) ↔
      MigrateSurvives gt targetNode vmid := by
  refine Iff.trans (agree_task_iff identified fun _ => nofun) ?_
  cases gt with
  | vm =>
      have read := @read_sharedMigration_iff targetNode online [] named (by simp)
      rw [List.append_nil] at read
      rw [MigrateSurvives, Whole, and_assoc, and_iff_right rfl]
      refine and_congr_right fun _ => ?_
      have params : Executor.migrateParams .vm
          [("vmid", encodeInt vmid), ("target", .str targetNode), ("online", .bool online)] =
          sharedMigration targetNode online := by cases online <;> rfl
      refine Iff.trans same_post_iff (and_congr_right fun _ => ?_)
      rw [params]
      exact read.trans (and_iff_right rfl)
  | ct =>
      refine iff_of_false ?_ (fun survives => nomatch survives.1)
      rintro ⟨-, same⟩
      have read := (same_post_iff.mp same).2
      cases online with
      | false =>
          have apart := (@read_sharedMigration_iff targetNode false [param "restart" "1"] named
            (by simp [param_value_ne_nil])).mp read
          exact absurd apart.1 (by simp)
      | true =>
          have sent : param "restart" "1" ∈ sharedMigration targetNode true := by
            refine read.subset (mem_decodeForm_rawForm ?_ ?_ ?_)
            · exact List.mem_append_right (sharedMigration targetNode true) List.mem_cons_self
            · exact (by decide : PlainKey (utf8 "restart"))
            · exact (by decide : SafeValue (utf8 "1"))
          rcases mem_sharedMigration sent with target | online
          · exact absurd (congrArg (·.1) target) (by decide : utf8 "restart" ≠ utf8 "target")
          · exact absurd (congrArg (·.1) online) (by decide : utf8 "restart" ≠ utf8 "online")

/-- The parameters that both ways have of a clone. -/
def sharedClone (gt : GuestType) (newID : Int64) (name targetNode : String) (full : Bool) :
    List Pair :=
  param "newid" (itoa newID) ::
    (optional (nameKey gt) name ++ optional "target" targetNode ++ flag "full" full)

variable {newID : Int64} {name targetNode : String} {full : Bool}

theorem mem_sharedClone {p : Pair} (member : p ∈ sharedClone gt newID name targetNode full) :
    p = param "newid" (itoa newID) ∨ (name ≠ "" ∧ p = param (nameKey gt) name) ∨
      (targetNode ≠ "" ∧ p = param "target" targetNode) ∨ p = param "full" "1" := by
  rcases List.mem_cons.mp member with rfl | later
  · exact .inl rfl
  · rcases List.mem_append.mp later with early | last
    · rcases List.mem_append.mp early with named | targeted
      · exact .inr (.inl (mem_optional_iff.mp named))
      · exact .inr (.inr (.inl (mem_optional_iff.mp targeted)))
    · exact .inr (.inr (.inr (mem_flag_iff.mp last).2))

theorem plainKey_sharedClone :
    ∀ p ∈ sharedClone gt newID name targetNode full, PlainKey p.1 := by
  intro p member
  rcases mem_sharedClone member with rfl | ⟨-, rfl⟩ | ⟨-, rfl⟩ | rfl
  · exact (by decide : PlainKey (utf8 "newid"))
  · cases gt
    · exact (by decide : PlainKey (utf8 "name"))
    · exact (by decide : PlainKey (utf8 "hostname"))
  · exact (by decide : PlainKey (utf8 "target"))
  · exact (by decide : PlainKey (utf8 "full"))

theorem nodup_sharedClone :
    ((sharedClone gt newID name targetNode full).map (·.1)).Nodup := by
  have keys : ((sharedClone gt newID name targetNode full).map (·.1)).Sublist
      ([utf8 "newid"] ++ ([utf8 (nameKey gt)] ++ [utf8 "target"] ++ [utf8 "full"])) := by
    simp only [sharedClone, List.map_cons, List.map_append]
    exact List.Sublist.cons_cons _ (((optional_keys _ _).append (optional_keys _ _)).append
      (flag_keys _ _))
  refine List.Nodup.sublist keys ?_
  cases gt <;> decide

theorem safe_sharedClone_iff :
    (∀ p ∈ sharedClone gt newID name targetNode full, SafeValue p.2) ↔
      SafeValue (utf8 name) ∧ SafeValue (utf8 targetNode) := by
  have unset : SafeValue (utf8 "") := by decide
  constructor
  · intro safe
    constructor
    · by_cases empty : name = ""
      · exact empty ▸ unset
      · exact safe (param (nameKey gt) name) (by simp [sharedClone, mem_optional_iff, empty])
    · by_cases empty : targetNode = ""
      · exact empty ▸ unset
      · exact safe (param "target" targetNode) (by simp [sharedClone, mem_optional_iff, empty])
  · rintro ⟨safeName, safeTarget⟩ p member
    rcases mem_sharedClone member with rfl | ⟨-, rfl⟩ | ⟨-, rfl⟩ | rfl
    · exact safeValue_itoa newID
    · exact safeName
    · exact safeTarget
    · exact (by decide : SafeValue (utf8 "1"))

theorem read_sharedClone_iff {m : Int64} {more : List Pair} (valued : ∀ p ∈ more, p.2 ≠ [])
    (other : ∀ p ∈ more, p.1 ≠ utf8 "newid") :
    (decodeForm (rawForm (sharedClone gt m name targetNode full))).Perm
        (sharedClone gt newID name targetNode full ++ more) ↔
      m = newID ∧ more = [] ∧ SafeValue (utf8 name) ∧ SafeValue (utf8 targetNode) := by
  by_cases same : m = newID
  · subst same
    have values : ∀ p ∈ sharedClone gt m name targetNode full ++ more, p.2 ≠ [] := by
      intro p member
      rcases List.mem_append.mp member with own | added
      · rcases mem_sharedClone own with rfl | ⟨named, rfl⟩ | ⟨targeted, rfl⟩ | rfl
        · exact param_value_ne_nil (itoa_ne_empty m)
        · exact param_value_ne_nil named
        · exact param_value_ne_nil targeted
        · exact param_value_ne_nil (by decide)
      · exact valued p added
    rw [decodeForm_rawForm_perm_iff plainKey_sharedClone nodup_sharedClone values,
      safe_sharedClone_iff, and_iff_right rfl]
  · refine iff_of_false (fun read => same ?_) (fun all => same all.1)
    have sent := read.subset (mem_decodeForm_rawForm
      (List.mem_cons_self : param "newid" (itoa m) ∈ sharedClone gt m name targetNode full)
      (by decide : PlainKey (utf8 "newid")) (safeValue_itoa m))
    rcases List.mem_append.mp sent with own | added
    · rcases mem_sharedClone own with id | ⟨-, named⟩ | ⟨-, targeted⟩ | flagged
      · exact itoa_injective (utf8_injective (congrArg (·.2) id))
      · have key : utf8 "newid" = utf8 (nameKey gt) := congrArg (·.1) named
        cases gt <;> exact absurd key (by decide)
      · exact absurd (congrArg (·.1) targeted) (by decide : utf8 "newid" ≠ utf8 "target")
      · exact absurd (congrArg (·.1) flagged) (by decide : utf8 "newid" ≠ utf8 "full")
    · exact absurd rfl (other _ added)

theorem cloneParams_eq (opts : CloneOptions) :
    cloneParams gt opts =
      sharedClone gt opts.newID opts.name opts.targetNode opts.full ++
        (optional "storage" opts.storage ++ optional "description" opts.description) := by
  simp [cloneParams, sharedClone, List.append_assoc]

theorem executeGuest_clone (opts : CloneOptions) :
    executeGuest agent gt
        [("vmid", encodeInt vmid), ("newid", encodeInt opts.newID), (nameKey gt, .str opts.name),
          ("target", .str opts.targetNode), ("full", .bool opts.full)] .clone =
      if Float64.through opts.newID = 0 then .error "newid required"
      else .ok (postWithParams (guestPath agent.nodeName gt (Float64.through vmid) "/clone")
        (sharedClone gt (Float64.through opts.newID) opts.name opts.targetNode opts.full)) := by
  cases gt <;> rfl

theorem agree_clone_iff {opts : CloneOptions} (identified : id ≠ "") (numbered : opts.newID ≠ 0) :
    Agree (agentCall agent node ⟨id, actionPrefix gt ++ Verb.clone.name,
        [("vmid", encodeInt vmid), ("newid", encodeInt opts.newID), (nameKey gt, .str opts.name),
          ("target", .str opts.targetNode), ("full", .bool opts.full)]⟩)
      (some ((TaskCall.clone gt vmid opts).apiCall node)) ↔ CloneSurvives opts vmid := by
  refine Iff.trans (agree_task_iff identified nofun) ?_
  rw [executeGuest_clone]
  by_cases dropped : Float64.through opts.newID = 0
  · rw [if_pos dropped]
    refine iff_of_false (fun both => both.2) (fun survives => numbered ?_)
    exact survives.newID.symm.trans dropped
  · rw [if_neg dropped]
    have valued : ∀ p ∈ optional "storage" opts.storage ++
        optional "description" opts.description, p.2 ≠ [] := by
      intro p member
      rcases List.mem_append.mp member with storage | description
      · obtain ⟨set, rfl⟩ := mem_optional_iff.mp storage
        exact param_value_ne_nil set
      · obtain ⟨set, rfl⟩ := mem_optional_iff.mp description
        exact param_value_ne_nil set
    have other : ∀ p ∈ optional "storage" opts.storage ++
        optional "description" opts.description, p.1 ≠ utf8 "newid" := by
      intro p member
      rcases List.mem_append.mp member with storage | description
      · obtain ⟨-, rfl⟩ := mem_optional_iff.mp storage
        exact (by decide : utf8 "storage" ≠ utf8 "newid")
      · obtain ⟨-, rfl⟩ := mem_optional_iff.mp description
        exact (by decide : utf8 "description" ≠ utf8 "newid")
    have same : ApiCall.Same (postWithParams (guestPath node gt (Float64.through vmid) "/clone")
        (sharedClone gt (Float64.through opts.newID) opts.name opts.targetNode opts.full))
        ((TaskCall.clone gt vmid opts).apiCall node) ↔ _ := same_post_iff
    rw [cloneParams_eq, read_sharedClone_iff valued other, List.append_eq_nil_iff,
      optional_eq_nil_iff, optional_eq_nil_iff] at same
    refine Iff.trans (and_congr_right fun _ => same) ?_
    constructor
    · rintro ⟨positive, whole, id, ⟨storage, description⟩, name, target⟩
      exact ⟨⟨positive, whole⟩, id, name, target, storage, description⟩
    · rintro ⟨⟨positive, whole⟩, id, name, target, storage, description⟩
      exact ⟨positive, whole, id, ⟨storage, description⟩, name, target⟩

end Survival

section Requests

/-- The conditions on a request under which its meaning survives both transports. -/
def Survives (r : Request) (values : List (String × String)) (e : Endpoint) : Prop :=
  ∀ vmid, atoi (pathValue values "vmid") = some vmid →
    match e with
    | .clusterVMAction | .clusterContainerAction =>
        PowerSurvives (pathValue values "action") vmid
    | .deleteClusterVM | .deleteClusterContainer =>
        DeleteSurvives (r.query.lookup "purge" = some "1") vmid
    | .clusterMigrateVM =>
        ∀ req, decoded r readMigrateRequest = some req → MigrateSurvives .vm req.targetNode vmid
    | .clusterMigrateContainer =>
        ∀ req, decoded r readMigrateRequest = some req → MigrateSurvives .ct req.targetNode vmid
    | .cloneVM | .cloneContainer =>
        ∀ opts, decoded r readCloneRequest = some opts → CloneSurvives opts vmid
    | .convertVMToTemplate | .convertContainerToTemplate => Whole vmid
    | _ => True

variable {agent : Agent} {env : Env} {r : Request} {ctx : Context}
variable {values : List (String × String)} {gt : GuestType} {p : AgentFirst} {e : Endpoint}

/-- The two outcomes of a plan. -/
def PlanAgrees (agent : Agent) (env : Env) (p : AgentFirst) : Prop :=
  Agree (outcome agent (p.run env)) (outcome agent (p.run (withoutAgents env)))

theorem plan_withoutAgents : plan (withoutAgents env) r ctx values e = plan env r ctx values e := by
  cases e <;> rfl

/-- Only accepted requests can differ. -/
theorem sameOverBoth_iff_plan :
    SameOverBoth agent env r ctx values e ↔
      ∀ p, plan env r ctx values e = some (.ok p) → Ready env p.cluster p.node →
        PlanAgrees agent env p := by
  constructor
  · intro same p planned ready
    have agree := same _ planned fun q accepted => Except.ok.inj accepted ▸ ready
    rwa [handle_of_plan planned, handle_of_plan (plan_withoutAgents.trans planned)] at agree
  · intro covered planned first ready
    rw [handle_of_plan first, handle_of_plan (plan_withoutAgents.trans first)]
    cases planned with
    | error refusal => trivial
    | ok p => exact covered p first (ready p rfl)

section Inversion

variable {A : Type}

theorem found_eq_ok_iff {value : Option A} {refusal : Refusal} {a : A} :
    found value refusal = .ok a ↔ value = some a := by
  cases value <;> simp [found]

theorem refuseIf_eq_ok_iff {c : Prop} [Decidable c] {refusal : Refusal} {done : Unit} :
    refuseIf c refusal = .ok done ↔ ¬c := by
  by_cases holds : c <;> simp [refuseIf, holds]

end Inversion

/-! The plans of accepted requests. -/

theorem clusterGuestAction_eq_ok (accepted : clusterGuestAction env ctx values gt = .ok p) :
    ∃ vmid, atoi (pathValue values "vmid") = some vmid ∧
      p.action = actionPrefix gt ++ pathValue values "action" ∧
      p.params = [("vmid", encodeInt vmid)] ∧
      clientCall p = powerCall p.node gt vmid (pathValue values "action") := by
  simp only [clusterGuestAction, vmidOf, Procedure.bind_eq_ok_iff, found_eq_ok_iff,
    Except.ok.injEq] at accepted
  obtain ⟨-, -, vmid, parsed, guest, -, rfl⟩ := accepted
  refine ⟨vmid, parsed, rfl, rfl, ?_⟩
  simp only [clientCall, powerCall]
  cases powerOf (pathValue values "action") <;> rfl

theorem deleteClusterGuest_eq_ok (accepted : deleteClusterGuest env r ctx values gt = .ok p) :
    ∃ vmid, atoi (pathValue values "vmid") = some vmid ∧
      p.action = actionPrefix gt ++ Verb.delete.name ∧ p.params = [("vmid", encodeInt vmid)] ∧
      clientCall p =
        some ((TaskCall.delete gt vmid (r.query.lookup "purge" = some "1")).apiCall p.node) := by
  simp only [deleteClusterGuest, vmidOf, Procedure.bind_eq_ok_iff, found_eq_ok_iff,
    refuseIf_eq_ok_iff, Except.ok.injEq] at accepted
  obtain ⟨-, -, vmid, parsed, guest, -, -, -, rfl⟩ := accepted
  exact ⟨vmid, parsed, rfl, rfl, rfl⟩

theorem clusterMigrateGuest_eq_ok (accepted : clusterMigrateGuest env r ctx values gt = .ok p) :
    ∃ vmid req, atoi (pathValue values "vmid") = some vmid ∧
      decoded r readMigrateRequest = some req ∧ req.targetNode ≠ "" ∧
      p.action = actionPrefix gt ++ Verb.migrate.name ∧
      p.params = [("vmid", encodeInt vmid), ("target", .str req.targetNode),
        ("online", .bool req.online)] ∧
      clientCall p = some ((TaskCall.migrate gt vmid req.targetNode req.online).apiCall p.node) := by
  simp only [clusterMigrateGuest, vmidOf, Procedure.bind_eq_ok_iff, found_eq_ok_iff,
    refuseIf_eq_ok_iff, Except.ok.injEq] at accepted
  obtain ⟨-, -, vmid, parsed, req, body, -, named, guest, -, -, -, rfl⟩ := accepted
  exact ⟨vmid, req, parsed, body, named, rfl, rfl, rfl⟩

theorem cloneGuest_eq_ok (accepted : cloneGuest env r values gt = .ok p) :
    ∃ vmid opts, atoi (pathValue values "vmid") = some vmid ∧
      decoded r readCloneRequest = some opts ∧ opts.newID ≠ 0 ∧
      p.action = actionPrefix gt ++ Verb.clone.name ∧
      p.params = [("vmid", encodeInt vmid), ("newid", encodeInt opts.newID),
        (nameKey gt, .str opts.name), ("target", .str opts.targetNode),
        ("full", .bool opts.full)] ∧
      clientCall p = some ((TaskCall.clone gt vmid opts).apiCall p.node) := by
  simp only [cloneGuest, vmidOf, Procedure.bind_eq_ok_iff, found_eq_ok_iff,
    refuseIf_eq_ok_iff, Except.ok.injEq] at accepted
  obtain ⟨vmid, parsed, opts, body, -, numbered, guest, -, rfl⟩ := accepted
  exact ⟨vmid, opts, parsed, body, numbered, rfl, rfl, rfl⟩

theorem convertToTemplate_eq_ok (accepted : convertToTemplate env values gt = .ok p) :
    ∃ vmid, atoi (pathValue values "vmid") = some vmid ∧
      p.action = actionPrefix gt ++ Verb.convertToTemplate.name ∧
      p.params = [("vmid", encodeInt vmid)] ∧
      clientCall p = some ((TaskCall.convertToTemplate gt vmid).apiCall p.node) := by
  simp only [convertToTemplate, vmidOf, Procedure.bind_eq_ok_iff, found_eq_ok_iff,
    refuseIf_eq_ok_iff, Except.ok.injEq] at accepted
  obtain ⟨vmid, parsed, guest, -, -, -, -, -, rfl⟩ := accepted
  exact ⟨vmid, parsed, rfl, rfl, rfl⟩

/-- An action about a guest is on the whitelist only if it has a verb. -/
theorem verb_of_allowed {action : String} (allowed : actionPrefix gt ++ action ∈ allowedActions) :
    ∃ verb : Verb, verb.name = action := by
  have prefixed : hasPrefix (actionPrefix gt) (actionPrefix gt ++ action) = true := by
    simp [hasPrefix]
  have others : ∀ a ∈ "storage_content" :: cephActions,
      hasPrefix "vm_" a = false ∧ hasPrefix "ct_" a = false := by decide
  have apart {a : String} (listed : a ∈ "storage_content" :: cephActions) :
      hasPrefix (actionPrefix gt) a = false := by
    cases gt
    · exact (others a listed).1
    · exact (others a listed).2
  rcases (mem_allowedActions_iff _).mp allowed with guest | ceph | storage
  · obtain ⟨⟨listed, gt', verb⟩, member, same⟩ := List.mem_map.mp guest
    exact ⟨verb, (actionPrefix_append_inj (same.symm.trans (spelled_of_mem member))).2⟩
  · exact absurd prefixed (by simp [apart (List.mem_cons_of_mem _ ceph)])
  · rw [storage] at prefixed
    exact absurd prefixed (by simp [apart List.mem_cons_self])

theorem planAgrees_iff {survives : Prop} (ready : Ready env p.cluster p.node)
    (allowed : p.action ∈ allowedActions)
    (same : Agree (agentCall agent p.node ⟨cmdID env p.action, p.action, p.params⟩)
      (clientCall p) ↔ survives) : PlanAgrees agent env p ↔ survives :=
  (agree_run_iff ready).trans ((forall_prop_of_true allowed).trans same)

theorem power_agrees_iff (accepted : clusterGuestAction env ctx values gt = .ok p)
    (ready : Ready env p.cluster p.node) :
    PlanAgrees agent env p ↔ ∀ vmid, atoi (pathValue values "vmid") = some vmid →
      PowerSurvives (pathValue values "action") vmid := by
  obtain ⟨vmid, parsed, action, params, client⟩ := clusterGuestAction_eq_ok accepted
  simp only [parsed, Option.some.injEq, forall_eq']
  by_cases known : ∃ verb : Verb, verb.name = pathValue values "action"
  · obtain ⟨verb, spelled⟩ := known
    rw [← spelled] at action client ⊢
    refine planAgrees_iff ready (action ▸ mem_allowedActions gt verb) ?_
    rw [action, params, client]
    exact agree_power_iff (cmdID_ne_empty _)
  · have unlisted : p.action ∉ allowedActions := by
      rw [action]
      exact fun allowed => known (verb_of_allowed allowed)
    have named : ∀ a ∈ ["start", "stop", "shutdown"] ++ agentOnly,
        ∃ verb ∈ verbs, verb.name = a := by decide
    have unnamed {a : String} (listed : a ∈ ["start", "stop", "shutdown"] ++ agentOnly) :
        a ≠ pathValue values "action" := by
      rintro rfl
      obtain ⟨verb, -, spelled⟩ := named _ listed
      exact known ⟨verb, spelled⟩
    refine iff_of_true ((agree_run_iff ready).mpr fun allowed => absurd allowed unlisted) ?_
    constructor
    · exact fun listed => absurd rfl (unnamed (List.mem_append_left _ listed))
    · exact fun listed => absurd rfl (unnamed (List.mem_append_right _ listed))

theorem delete_agrees_iff (accepted : deleteClusterGuest env r ctx values gt = .ok p)
    (ready : Ready env p.cluster p.node) :
    PlanAgrees agent env p ↔ ∀ vmid, atoi (pathValue values "vmid") = some vmid →
      DeleteSurvives (r.query.lookup "purge" = some "1") vmid := by
  obtain ⟨vmid, parsed, action, params, client⟩ := deleteClusterGuest_eq_ok accepted
  simp only [parsed, Option.some.injEq, forall_eq']
  refine planAgrees_iff ready (action ▸ mem_allowedActions gt .delete) ?_
  rw [action, params, client]
  exact agree_delete_iff (cmdID_ne_empty _)

theorem migrate_agrees_iff (accepted : clusterMigrateGuest env r ctx values gt = .ok p)
    (ready : Ready env p.cluster p.node) :
    PlanAgrees agent env p ↔ ∀ vmid, atoi (pathValue values "vmid") = some vmid →
      ∀ req, decoded r readMigrateRequest = some req →
        MigrateSurvives gt req.targetNode vmid := by
  obtain ⟨vmid, req, parsed, body, named, action, params, client⟩ :=
    clusterMigrateGuest_eq_ok accepted
  simp only [parsed, body, Option.some.injEq, forall_eq']
  refine planAgrees_iff ready (action ▸ mem_allowedActions gt .migrate) ?_
  rw [action, params, client]
  exact agree_migrate_iff (cmdID_ne_empty _) named

theorem clone_agrees_iff (accepted : cloneGuest env r values gt = .ok p)
    (ready : Ready env p.cluster p.node) :
    PlanAgrees agent env p ↔ ∀ vmid, atoi (pathValue values "vmid") = some vmid →
      ∀ opts, decoded r readCloneRequest = some opts → CloneSurvives opts vmid := by
  obtain ⟨vmid, opts, parsed, body, numbered, action, params, client⟩ :=
    cloneGuest_eq_ok accepted
  simp only [parsed, body, Option.some.injEq, forall_eq']
  refine planAgrees_iff ready (action ▸ mem_allowedActions gt .clone) ?_
  rw [action, params, client]
  exact agree_clone_iff (cmdID_ne_empty _) numbered

theorem convert_agrees_iff (accepted : convertToTemplate env values gt = .ok p)
    (ready : Ready env p.cluster p.node) :
    PlanAgrees agent env p ↔ ∀ vmid, atoi (pathValue values "vmid") = some vmid →
      Whole vmid := by
  obtain ⟨vmid, parsed, action, params, client⟩ := convertToTemplate_eq_ok accepted
  simp only [parsed, Option.some.injEq, forall_eq']
  refine planAgrees_iff ready (action ▸ mem_allowedActions gt .convertToTemplate) ?_
  rw [action, params, client]
  exact agree_convert_iff (cmdID_ne_empty _)

/-- A request comes to the same over both transports exactly when its meaning survives
both, or it is refused before one is chosen. -/
theorem sameOverBoth_iff (agent : Agent) (env : Env) (r : Request) (ctx : Context)
    (values : List (String × String)) (e : Endpoint) :
    SameOverBoth agent env r ctx values e ↔
      ∀ p, plan env r ctx values e = some (.ok p) → Ready env p.cluster p.node →
        Survives r values e := by
  rw [sameOverBoth_iff_plan]
  refine forall_congr' fun p => forall_congr' fun planned => forall_congr' fun ready => ?_
  cases e
  case clusterVMAction => exact power_agrees_iff (Option.some.inj planned) ready
  case clusterContainerAction => exact power_agrees_iff (Option.some.inj planned) ready
  case deleteClusterVM => exact delete_agrees_iff (Option.some.inj planned) ready
  case deleteClusterContainer => exact delete_agrees_iff (Option.some.inj planned) ready
  case clusterMigrateVM => exact migrate_agrees_iff (Option.some.inj planned) ready
  case clusterMigrateContainer => exact migrate_agrees_iff (Option.some.inj planned) ready
  case cloneVM => exact clone_agrees_iff (Option.some.inj planned) ready
  case cloneContainer => exact clone_agrees_iff (Option.some.inj planned) ready
  case convertVMToTemplate => exact convert_agrees_iff (Option.some.inj planned) ready
  case convertContainerToTemplate => exact convert_agrees_iff (Option.some.inj planned) ready
  all_goals exact absurd planned nofun

def labAgent : Agent := ⟨"pve1", fun _ => "", fun _ => ""⟩

def purgeRequest : Request :=
  ⟨"DELETE", ["api", "clusters", "lab", "vms", "100"], [("purge", "1")], some "cookie", "", none⟩

def purgeValues : List (String × String) := [("cluster", "lab"), ("vmid", "100")]

def adminContext : Context :=
  some (⟨"s1", "u1", "cookie", "token", false, 1, 0⟩, ⟨"u1", "admin", false⟩)

/-- The agent deletes a VM without purging it. -/
theorem purge_is_lost :
    ¬SameOverBoth labAgent (labServer "stopped" "admin" (some labHub)).env purgeRequest
      adminContext purgeValues .deleteClusterVM := by
  intro same
  have accepted : deleteClusterGuest (labServer "stopped" "admin" (some labHub)).env purgeRequest
      adminContext purgeValues .vm = .ok _ := rfl
  have ready : Ready (labServer "stopped" "admin" (some labHub)).env "lab" "pve1" :=
    ⟨⟨labHub, rfl, by decide, rfl⟩, labServer_hasClient _ _ _⟩
  have agrees := sameOverBoth_iff_plan.mp same _ (congrArg some accepted) ready
  have survives := (delete_agrees_iff accepted ready).mp agrees 100 rfl
  exact absurd survives.2 (by decide)

end Requests

end Transports
