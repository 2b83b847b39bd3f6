import PCenter.GuestOps

/-!
# Permissions and guards in front of guest operations

Two laws about every request. What a user without the admin role makes the server send is
covered by a permission of that user; and a guest is deleted or converted into a template
only while the store records it as stopped, and not as a template already.

Both hold on the dedicated routes of a cluster. Many routes check no permission, the
power route passes other actions on to the agent under the permission for power, and the
route that commands agents checks nothing.
-/

namespace GuestGuards

open GoText GuestTasks Executor Handlers Auth GuestOps
open Routes (Endpoint)

section Permissions

def permissionOf (gt : GuestType) : OpKind → String
  | .power => perm gt "power"
  | .config => perm gt "config"
  | .snapshot => perm gt "snapshot"
  | .clone => perm gt "clone"
  | .migrate => perm gt "migrate"
  | .diskMove => perm gt "disk_move"
  | .convertToTemplate => perm gt "config"
  | .delete => perm gt "delete"

/-- The check that an operation calls for. -/
def ownCheck (op : GuestOp) : Check :=
  ⟨permissionOf op.gt op.kind, object op.gt, itoa op.vmid⟩

/-- `HasPermission` grants the user the operation. -/
def Granted (env : Env) (rbac : Rbac.Service) (user : User) (op : GuestOp) : Prop :=
  (rbac.hasPermission env.getAncestors env.now user.id (ownCheck op).permission
    (ownCheck op).objectType (ownCheck op).objectID).1 = true

instance (env : Env) (rbac : Rbac.Service) (user : User) (op : GuestOp) :
    Decidable (Granted env rbac user op) := inferInstanceAs (Decidable (_ = true))

/-- Everything that a user without the admin role makes the server send while it handles the
request is permitted. -/
def Authorised (s : Server) (r : Request) : Prop :=
  ∀ rbac session user, s.env.rbac = some rbac →
    s.auth.accepted s.env.now r s.db = some (session, user) → user.role ≠ roleAdmin →
    ∀ op ∈ serverOps s r, Granted s.env rbac user op

/-- The endpoints that operate on guests without looking at permissions. -/
def uncheckedEndpoints : List Endpoint :=
  [ .vMAction, .containerAction, .migrateVM, .migrateContainer, .cloneVM, .cloneContainer,
    .convertVMToTemplate, .convertContainerToTemplate, .createVMSnapshot,
    .createContainerSnapshot, .rollbackVMSnapshot, .rollbackContainerSnapshot,
    .deleteVMSnapshot, .deleteContainerSnapshot, .applyDRSRecommendation,
    .enterMaintenanceMode, .deployLibraryItem, .agentCommand ]

def powerEndpoints : List Endpoint := [.clusterVMAction, .clusterContainerAction]

/-- No check, the check for power in front of another operation, or a check about a VMID
that is spelled otherwise. -/
def Unchecked (values : List (String × String)) (e : Endpoint) (op : GuestOp) : Prop :=
  e ∈ uncheckedEndpoints ∨ (e ∈ powerEndpoints ∧ op.kind ≠ .power) ∨
    pathValue values "vmid" ≠ itoa op.vmid

variable {s : Server} {r : Request} {values : List (String × String)} {e : Endpoint}
variable {op : GuestOp}

theorem forType_mem {vm ct : Endpoint} {endpoints : List Endpoint} (gt : GuestType)
    (left : vm ∈ endpoints) (right : ct ∈ endpoints) : forType vm ct gt ∈ endpoints := by
  cases gt
  · exact left
  · exact right

/-- On every other path the check is the operation's own. -/
theorem check_of_asks {env : Env} {check : Option Check} (asks : Asks env r values e check op)
    (checked : ¬Unchecked values e op) : check = some (ownCheck op) := by
  have named : e ∉ uncheckedEndpoints := fun member => checked (.inl member)
  have powers : e ∈ powerEndpoints → op.kind = .power := by
    intro member
    by_contra other
    exact checked (.inr (.inl ⟨member, other⟩))
  have text : pathValue values "vmid" = itoa op.vmid := by
    by_contra other
    exact checked (.inr (.inr other))
  have own (gt : GuestType) (kind : String) :
      checkOf values gt kind = ⟨perm gt kind, object gt, itoa op.vmid⟩ := by
    rw [checkOf, text]
  cases asks with
  | power => exact absurd (forType_mem _ (by decide) (by decide)) named
  | agentAction parsed known action kinded taken =>
      have power := powers (forType_mem _ (by decide) (by decide))
      simp only at power
      rw [own, ownCheck, power]
      rfl
  | clientAction => exact congrArg some (own _ _)
  | delete => exact congrArg some (own _ _)
  | migrate => exact absurd (forType_mem _ (by decide) (by decide)) named
  | clusterMigrate => exact congrArg some (own _ _)
  | moveDisk => exact congrArg some (own _ _)
  | config => exact congrArg some (own _ _)
  | clone => exact absurd (forType_mem _ (by decide) (by decide)) named
  | convert => exact absurd (forType_mem _ (by decide) (by decide)) named
  | createSnapshot => exact absurd (forType_mem _ (by decide) (by decide)) named
  | rollbackSnapshot => exact absurd (forType_mem _ (by decide) (by decide)) named
  | deleteSnapshot => exact absurd (forType_mem _ (by decide) (by decide)) named
  | applyDRS => exact absurd (by decide) named
  | evacuate => exact absurd (by decide) named
  | deploy => exact absurd (by decide) named
  | command => exact absurd (by decide) named

theorem granted_of_passes {env : Env} {rbac : Rbac.Service} {session : Session} {user : User}
    (configured : env.rbac = some rbac) (ordinary : user.role ≠ roleAdmin)
    (passes : Passes env (some (session, user)) (some (ownCheck op))) :
    Granted env rbac user op := by
  have let_through := passes _ rfl
  simp only [Env.requirePermission, configured, ordinary, if_false] at let_through
  split at let_through
  · rename_i granted
    exact granted
  · exact nomatch let_through

/-- A request keeps to the permissions exactly when every operation that it asks for on a
path without the operation's own check is granted anyway. -/
theorem authorised_iff (s : Server) (r : Request) :
    Authorised s r ↔
      ∀ rbac session user, s.env.rbac = some rbac →
        s.auth.accepted s.env.now r s.db = some (session, user) → user.role ≠ roleAdmin →
        ∀ e ctx values op,
          (Router.serve s.auth s.env.now s.env.agentHub.isSome r s.db).1 =
            .runs e ctx values →
          Asked s.env r values ctx e op → Unchecked values e op →
          Granted s.env rbac user op := by
  constructor
  · intro authorised rbac session user configured carried ordinary e ctx values op runs asked _
    exact authorised rbac session user configured carried ordinary op
      (mem_serverOps_iff.mpr ⟨e, ctx, values, runs, asked⟩)
  · intro covered rbac session user configured carried ordinary op sent
    obtain ⟨e, ctx, values, runs, asked⟩ := mem_serverOps_iff.mp sent
    by_cases unchecked : Unchecked values e op
    · exact covered rbac session user configured carried ordinary e ctx values op runs asked
        unchecked
    · obtain ⟨check, asks, passes⟩ := asked
      obtain rfl := check_of_asks asks unchecked
      rcases ctx with - | ⟨session', user'⟩
      · have refused := passes _ rfl
        simp [Env.requirePermission, configured] at refused
      · have same := (Router.accepted_of_runs runs).symm.trans carried
        obtain ⟨rfl, rfl⟩ : session' = session ∧ user' = user := by simpa using same
        exact granted_of_passes configured ordinary passes

def stopValues : List (String × String) := [("vmid", "100"), ("action", "stop")]

/-- A user without any permission stops a VM by the route over all clusters. -/
theorem stop_without_permission :
    ¬Authorised (labServer "running" "user" none) (post ["api", "vms", "100", "stop"]) := by
  intro authorised
  have parsed : atoi (pathValue stopValues "vmid") = some 100 := rfl
  have known : storeGuest (labStore "running") 100 .vm = some (ofVM (labVM "running")) := rfl
  have action : powerOf (pathValue stopValues "action") = some .stop := rfl
  have asks := @Asks.power (labServer "running" "user" none).env
    (post ["api", "vms", "100", "stop"]) stopValues .vm 100 _ .stop parsed known
    (labServer_hasClient _ _ _) action
  have sent : (⟨.power, .vm, "lab", 100⟩ : GuestOp) ∈
      serverOps (labServer "running" "user" none) (post ["api", "vms", "100", "stop"]) :=
    mem_serverOps_iff.mpr ⟨.vMAction, _, _, rfl, none, asks, passes_none⟩
  have granted := authorised _ _ _ rfl rfl (by decide) _ sent
  exact absurd granted (by decide)

end Permissions

section Guards

/-- What a destructive operation calls for in the store. -/
structure Guarded (store : State.Store) (op : GuestOp) : Prop where
  delete : op.kind = .delete →
    ∃ guest, recorded store op.cluster op.gt op.vmid = some guest ∧ guest.status ≠ "running"
  convert : op.kind = .convertToTemplate →
    ∃ guest, recorded store op.cluster op.gt op.vmid = some guest ∧
      guest.status ≠ "running" ∧ guest.template = false

/-- A request deletes and converts only guests that are recorded as stopped. -/
def GuardsHold (s : Server) (r : Request) : Prop :=
  ∀ op ∈ serverOps s r, Guarded s.env.store op

/-- The endpoints that let the caller name the agent's action. -/
def namingEndpoints : List Endpoint := [.clusterVMAction, .clusterContainerAction, .agentCommand]

variable {env : Env} {r : Request} {values : List (String × String)} {e : Endpoint}
variable {op : GuestOp} {check : Option Check}

theorem guarded_of_kind {store : State.Store} (notDelete : op.kind ≠ .delete)
    (notConvert : op.kind ≠ .convertToTemplate) : Guarded store op :=
  ⟨fun kind => absurd kind notDelete, fun kind => absurd kind notConvert⟩

theorem guarded_of_asks (asks : Asks env r values e check op) (dedicated : e ∉ namingEndpoints) :
    Guarded env.store op := by
  cases asks with
  | delete parsed known stopped reaches =>
      refine ⟨fun _ => ⟨_, known, stopped⟩, ?_⟩
      intro kind
      exact nomatch kind
  | convert parsed known plain stopped reaches =>
      refine ⟨?_, fun _ => ⟨_, known, stopped, plain⟩⟩
      intro kind
      exact nomatch kind
  | agentAction => exact absurd (forType_mem _ (by decide) (by decide)) dedicated
  | clientAction => exact absurd (forType_mem _ (by decide) (by decide)) dedicated
  | command => exact absurd (by decide) dedicated
  | power => exact guarded_of_kind nofun nofun
  | migrate => exact guarded_of_kind nofun nofun
  | clusterMigrate => exact guarded_of_kind nofun nofun
  | moveDisk => exact guarded_of_kind nofun nofun
  | config => exact guarded_of_kind nofun nofun
  | clone => exact guarded_of_kind nofun nofun
  | createSnapshot => exact guarded_of_kind nofun nofun
  | rollbackSnapshot => exact guarded_of_kind nofun nofun
  | deleteSnapshot => exact guarded_of_kind nofun nofun
  | applyDRS => exact guarded_of_kind nofun nofun
  | evacuate => exact guarded_of_kind nofun nofun
  | deploy => exact guarded_of_kind nofun nofun

/-- The guards hold for a request exactly when no action that its caller names, and that
an agent takes, deletes or converts a guest whose record forbids it. -/
theorem guardsHold_iff (s : Server) (r : Request) :
    GuardsHold s r ↔
      ∀ e ctx values op,
        (Router.serve s.auth s.env.now s.env.agentHub.isSome r s.db).1 = .runs e ctx values →
        e ∈ namingEndpoints → Asked s.env r values ctx e op → Guarded s.env.store op := by
  constructor
  · intro holds e ctx values op runs _ asked
    exact holds op (mem_serverOps_iff.mpr ⟨e, ctx, values, runs, asked⟩)
  · intro covered op sent
    obtain ⟨e, ctx, values, runs, asked⟩ := mem_serverOps_iff.mp sent
    by_cases naming : e ∈ namingEndpoints
    · exact covered e ctx values op runs naming asked
    · obtain ⟨check, asks, -⟩ := asked
      exact guarded_of_asks asks naming

def deleteValues : List (String × String) :=
  [("cluster", "lab"), ("vmid", "100"), ("action", "delete")]

/-- With a connected agent the power route deletes a running VM. -/
theorem delete_of_running_vm :
    ¬GuardsHold (labServer "running" "admin" (some labHub))
      (post ["api", "clusters", "lab", "vms", "100", "delete"]) := by
  intro holds
  have parsed : atoi (pathValue deleteValues "vmid") = some 100 := rfl
  have known : recorded (labStore "running") (clusterOf deleteValues) .vm 100 =
      some (ofVM (labVM "running")) := rfl
  have taken : Takes (labServer "running" "admin" (some labHub)).env (clusterOf deleteValues)
      "pve1" (actionPrefix .vm ++ Verb.delete.name) :=
    ⟨labHub, rfl, by decide, by decide, rfl⟩
  have asks := @Asks.agentAction (labServer "running" "admin" (some labHub)).env
    (post ["api", "clusters", "lab", "vms", "100", "delete"]) deleteValues .vm 100 _ .delete
    .delete parsed known rfl rfl taken
  have sent : (⟨.delete, .vm, "lab", 100⟩ : GuestOp) ∈
      serverOps (labServer "running" "admin" (some labHub))
        (post ["api", "clusters", "lab", "vms", "100", "delete"]) := by
    refine mem_serverOps_iff.mpr ⟨.clusterVMAction, _, _, rfl, _, asks, ?_⟩
    rintro check ⟨⟩
    rfl
  obtain ⟨guest, found, stopped⟩ := (holds _ sent).delete rfl
  obtain rfl : ofVM (labVM "running") = guest := Option.some.inj (known.symm.trans found)
  exact stopped rfl

end Guards

end GuestGuards
