import Mathlib.Data.List.Sort
import PCenter.Lib.FiniteMap
import PCenter.Lib.Text

/-!
# Roles, assignments and permission checks

`internal/rbac`: the two tables of `db.go`, and the permission check of `service.go` with
its cache of each user's assignments. Every mutation that can change what a cached user
may do clears the cache, so a check answers as if it had read the tables.

The hierarchy above an object comes from the `AncestryResolver` interface. The tables keep
seconds and the cache nanoseconds; what `uuid.New()` supplies is an argument.
-/

namespace Rbac

open GoText

def permAll : String := "*"

def permUsersManage : String := "users.manage"

/-- `AllPermissions` -/
def allPermissions : List String :=
  ["view",
    "vm.power", "vm.console", "vm.config", "vm.snapshot",
    "vm.create", "vm.delete", "vm.migrate", "vm.clone", "vm.disk_move",
    "ct.power", "ct.console", "ct.config", "ct.snapshot",
    "ct.create", "ct.delete", "ct.migrate", "ct.clone", "ct.disk_move",
    "host.config", "host.maintenance",
    "storage.view", "storage.upload",
    "cluster.config", "inventory.manage",
    "alarms.manage", "tags.manage", "folders.manage", permUsersManage]

def objectRoot : String := "root"

def roleIDAdmin : String := "builtin:admin"

structure Role where
  id : String
  name : String
  description : String
  builtIn : Bool
  permissions : List String
  createdAt : Int
  updatedAt : Int
  deriving DecidableEq, Repr

/-- A role given to a user on an object, for its descendants too when it propagates. -/
structure RoleAssignment where
  id : String
  userID : String
  roleID : String
  objectType : String
  objectID : String
  propagate : Bool
  createdAt : Int
  deriving DecidableEq, Repr

structure ObjectRef where
  type : String
  id : String
  deriving DecidableEq, Repr

/-- Name, description and permissions, to create a role or to update one. -/
structure RoleRequest where
  name : String
  description : String
  permissions : List String

structure AssignRoleRequest where
  userID : String
  roleID : String
  objectType : String
  objectID : String
  propagate : Bool

structure DB where
  roles : List Role
  assignments : List RoleAssignment
  deriving DecidableEq, Repr

namespace DB

variable (d : DB)

def getRole (id : String) : Option Role := d.roles.find? (·.id = id)

section Roles

variable (id uuid : String) (now : Int) (req : RoleRequest)

/-- The identifier `CreateRole` makes of a fresh UUID. -/
def roleID : String := "custom:" ++ String.ofList (uuid.toList.take 8)

/-- The row that `CreateRole` inserts breaks a key of the table. -/
def roleTaken : Bool :=
  d.roles.any fun role => role.id = roleID uuid || role.name = req.name

def createRole : Except String DB :=
  if d.roleTaken uuid req then .error "UNIQUE constraint failed: roles"
  else
    .ok { d with roles := d.roles ++
      [⟨roleID uuid, req.name, req.description, false, req.permissions, now, now⟩] }

/-- Why `UpdateRole` and `DeleteRole` leave a role alone. -/
def roleFixed (verb : String) : Option String :=
  match d.getRole id with
  | none => some "role not found"
  | some role => if role.builtIn then some ("cannot " ++ verb ++ " built-in role") else none

/-- Another role has the name already. -/
def nameTaken : Bool := d.roles.any fun role => role.id ≠ id && role.name = req.name

def rewriteRole (role : Role) : Role :=
  { role with
    name := req.name
    description := req.description
    permissions := req.permissions
    updatedAt := now }

def updateRole : Except String DB :=
  match d.roleFixed id "modify" with
  | some err => .error err
  | none =>
      if d.nameTaken id req then .error "UNIQUE constraint failed: roles.name"
      else
        .ok { d with roles := d.roles.map fun role =>
          if role.id = id then rewriteRole now req role else role }

/-- The role goes with its assignments. -/
def deleteRole : Except String DB :=
  match d.roleFixed id "delete" with
  | some err => .error err
  | none =>
      .ok ⟨d.roles.filter (·.id ≠ id), d.assignments.filter (·.roleID ≠ id)⟩

end Roles

section Seed

/-- The roles that every database holds; `seedBuiltInRoles` rewrites them at each start. -/
def builtinRoles (now : Int) : List Role :=
  [⟨roleIDAdmin, "Administrator", "Full access to all resources and settings", true,
      [permAll], now, now⟩,
    ⟨"builtin:operator", "Operator", "Manage VMs, containers, hosts, and storage. " ++
      "No user management or inventory changes", true,
      ["view", "vm.*", "ct.*", "host.config", "host.maintenance", "storage.view",
        "storage.upload", "cluster.config", "alarms.manage", "tags.manage",
        "folders.manage"], now, now⟩,
    ⟨"builtin:vm-admin", "VM Administrator", "Full VM and container lifecycle. " ++
      "Read-only for hosts and storage", true,
      ["view", "vm.*", "ct.*", "storage.view"], now, now⟩,
    ⟨"builtin:read-only", "Read Only", "View all resources. No modifications", true,
      ["view", "storage.view"], now, now⟩]

/-- `INSERT … ON CONFLICT(id) DO UPDATE`; a name that another role has is an error. -/
def seedRole (d : DB) (role : Role) : Except String DB :=
  if d.roles.any fun r => r.id ≠ role.id && r.name = role.name then
    .error "UNIQUE constraint failed: roles.name"
  else if (d.getRole role.id).isSome then
    .ok { d with roles := d.roles.map fun r =>
      if r.id = role.id then
        { r with
          name := role.name
          description := role.description
          permissions := role.permissions
          updatedAt := role.updatedAt }
      else r }
  else .ok { d with roles := d.roles ++ [role] }

def seedBuiltInRoles (now : Int) : Except String DB := (builtinRoles now).foldlM seedRole d

end Seed

section Assignments

variable (id uuid : String) (now : Int) (req : AssignRoleRequest)

def assignmentID : String := String.ofList (uuid.toList.take 12)

def assignmentTaken : Bool :=
  d.assignments.any fun a =>
    a.id = assignmentID uuid ||
      (a.userID = req.userID && a.roleID = req.roleID && a.objectType = req.objectType &&
        a.objectID = req.objectID)

def createAssignment : Except String DB :=
  if (d.getRole req.roleID).isNone then .error "role not found"
  else if d.assignmentTaken uuid req then
    .error "UNIQUE constraint failed: role_assignments"
  else
    .ok { d with assignments := d.assignments ++
      [⟨assignmentID uuid, req.userID, req.roleID, req.objectType, req.objectID,
        req.propagate, now⟩] }

def deleteAssignment : Except String DB :=
  if d.assignments.all (·.id ≠ id) then .error "assignment not found"
  else .ok { d with assignments := d.assignments.filter (·.id ≠ id) }

/-- `ListAssignments`; an empty argument does not filter. -/
def listAssignments (userID objectType objectID : String) : List RoleAssignment :=
  (d.assignments.filter fun a =>
    (d.getRole a.roleID).isSome && (userID = "" || a.userID = userID) &&
      (objectType = "" || a.objectType = objectType) &&
      (objectID = "" || a.objectID = objectID)).insertionSort
    fun a b => a.createdAt ≤ b.createdAt

/-- `GetUserAssignments`: a user's assignments and the roles they name. -/
def getUserAssignments (userID : String) : List RoleAssignment × List Role :=
  let assignments := d.listAssignments userID "" ""
  (assignments, d.roles.filter fun role => role.id ∈ assignments.map (·.roleID))

end Assignments

end DB

section Integrity

namespace DB

variable {d d' : DB}

/-- Every assignment names a role of the table. -/
def Integral (d : DB) : Prop := ∀ a ∈ d.assignments, (d.getRole a.roleID).isSome

theorem getRole_isSome {id : String} :
    (d.getRole id).isSome ↔ ∃ role ∈ d.roles, role.id = id := by
  simp [getRole, List.find?_isSome]

theorem createRole_ok {uuid : String} {now : Int} {req : RoleRequest}
    (created : d.createRole uuid now req = .ok d') :
    d.roleTaken uuid req = false ∧ d' = { d with roles := d.roles ++
      [⟨roleID uuid, req.name, req.description, false, req.permissions, now, now⟩] } := by
  rw [createRole] at created
  split at created
  · exact nomatch created
  · rename_i free
    exact ⟨by simpa using free, (Except.ok.inj created).symm⟩

theorem updateRole_ok {id : String} {now : Int} {req : RoleRequest}
    (updated : d.updateRole id now req = .ok d') :
    d.roleFixed id "modify" = none ∧ d.nameTaken id req = false ∧
      d' = { d with roles := d.roles.map fun role =>
        if role.id = id then rewriteRole now req role else role } := by
  rw [updateRole] at updated
  split at updated
  · exact nomatch updated
  · rename_i known
    split at updated
    · exact nomatch updated
    · rename_i free
      exact ⟨known, by simpa using free, (Except.ok.inj updated).symm⟩

theorem deleteRole_ok {id : String} (deleted : d.deleteRole id = .ok d') :
    d.roleFixed id "delete" = none ∧
      d' = ⟨d.roles.filter (·.id ≠ id), d.assignments.filter (·.roleID ≠ id)⟩ := by
  rw [deleteRole] at deleted
  split at deleted
  · exact nomatch deleted
  · rename_i known
    exact ⟨known, (Except.ok.inj deleted).symm⟩

theorem createAssignment_ok {uuid : String} {now : Int} {req : AssignRoleRequest}
    (created : d.createAssignment uuid now req = .ok d') :
    (d.getRole req.roleID).isSome ∧ d.assignmentTaken uuid req = false ∧
      d' = { d with assignments := d.assignments ++
        [⟨assignmentID uuid, req.userID, req.roleID, req.objectType, req.objectID,
          req.propagate, now⟩] } := by
  rw [createAssignment] at created
  split at created
  · exact nomatch created
  · rename_i known
    split at created
    · exact nomatch created
    · rename_i free
      refine ⟨?_, by simpa using free, (Except.ok.inj created).symm⟩
      simpa [Option.isSome_iff_ne_none] using known

theorem deleteAssignment_ok {id : String} (deleted : d.deleteAssignment id = .ok d') :
    d.assignments.all (·.id ≠ id) = false ∧
      d' = { d with assignments := d.assignments.filter (·.id ≠ id) } := by
  rw [deleteAssignment] at deleted
  split at deleted
  · exact nomatch deleted
  · rename_i present
    exact ⟨by simpa using present, (Except.ok.inj deleted).symm⟩

theorem Integral.createRole (integral : d.Integral) {uuid : String} {now : Int}
    {req : RoleRequest} (created : d.createRole uuid now req = .ok d') : d'.Integral := by
  obtain ⟨-, rfl⟩ := createRole_ok created
  intro a assigned
  obtain ⟨role, listed, same⟩ := getRole_isSome.mp (integral a assigned)
  exact getRole_isSome.mpr ⟨role, by simp [listed], same⟩

theorem Integral.updateRole (integral : d.Integral) {id : String} {now : Int}
    {req : RoleRequest} (updated : d.updateRole id now req = .ok d') : d'.Integral := by
  obtain ⟨-, -, rfl⟩ := updateRole_ok updated
  intro a assigned
  obtain ⟨role, listed, same⟩ := getRole_isSome.mp (integral a assigned)
  refine getRole_isSome.mpr ⟨_, List.mem_map_of_mem listed, ?_⟩
  split
  · exact same
  · exact same

theorem Integral.deleteRole (integral : d.Integral) {id : String}
    (deleted : d.deleteRole id = .ok d') : d'.Integral := by
  obtain ⟨-, rfl⟩ := deleteRole_ok deleted
  intro a kept
  obtain ⟨assigned, other⟩ := List.mem_filter.mp kept
  obtain ⟨role, listed, same⟩ := getRole_isSome.mp (integral a assigned)
  refine getRole_isSome.mpr ⟨role, List.mem_filter.mpr ⟨listed, ?_⟩, same⟩
  simpa [same] using other

theorem Integral.createAssignment (integral : d.Integral) {uuid : String} {now : Int}
    {req : AssignRoleRequest} (created : d.createAssignment uuid now req = .ok d') :
    d'.Integral := by
  obtain ⟨known, -, rfl⟩ := createAssignment_ok created
  intro a member
  rcases List.mem_append.mp member with assigned | new
  · exact integral a assigned
  · obtain rfl : a = _ := by simpa using new
    exact known

theorem Integral.deleteAssignment (integral : d.Integral) {id : String}
    (deleted : d.deleteAssignment id = .ok d') : d'.Integral := by
  obtain ⟨-, rfl⟩ := deleteAssignment_ok deleted
  intro a kept
  exact integral a (List.mem_filter.mp kept).1

theorem Integral.seedRole (integral : d.Integral) {role : Role}
    (seeded : d.seedRole role = .ok d') : d'.Integral := by
  intro a assigned
  rw [DB.seedRole] at seeded
  split at seeded
  · exact nomatch seeded
  · split at seeded
    · obtain rfl := Except.ok.inj seeded
      obtain ⟨r, listed, same⟩ := getRole_isSome.mp (integral a assigned)
      refine getRole_isSome.mpr ⟨_, List.mem_map_of_mem listed, ?_⟩
      split
      · exact same
      · exact same
    · obtain rfl := Except.ok.inj seeded
      obtain ⟨r, listed, same⟩ := getRole_isSome.mp (integral a assigned)
      exact getRole_isSome.mpr ⟨r, by simp [listed], same⟩

theorem Integral.seedBuiltInRoles (integral : d.Integral) {now : Int}
    (seeded : d.seedBuiltInRoles now = .ok d') : d'.Integral := by
  rw [DB.seedBuiltInRoles] at seeded
  generalize builtinRoles now = roles at seeded
  induction roles generalizing d with
  | nil =>
      obtain rfl : d = d' := Except.ok.inj seeded
      exact integral
  | cons role rest ih =>
      rw [List.foldlM_cons] at seeded
      cases first : d.seedRole role with
      | error err =>
          rw [first] at seeded
          exact nomatch seeded
      | ok d₁ =>
          rw [first] at seeded
          exact ih (integral.seedRole first) seeded

/-- A new role concerns no assignment there is. -/
theorem getUserAssignments_createRole (integral : d.Integral) {uuid : String} {now : Int}
    {req : RoleRequest} (created : d.createRole uuid now req = .ok d') (userID : String) :
    d'.getUserAssignments userID = d.getUserAssignments userID := by
  have integral' := integral.createRole created
  obtain ⟨free, rfl⟩ := createRole_ok created
  have listed : ∀ u, DB.listAssignments { d with roles := d.roles ++
      [⟨roleID uuid, req.name, req.description, false, req.permissions, now, now⟩] } u "" "" =
      d.listAssignments u "" "" := by
    intro u
    simp only [listAssignments]
    congr 1
    refine List.filter_congr fun a assigned => ?_
    rw [integral a assigned, integral' a assigned]
  have unassigned : ∀ a ∈ d.listAssignments userID "" "", a.roleID ≠ roleID uuid := by
    intro a member same
    have assigned : a ∈ d.assignments :=
      (List.mem_filter.mp ((List.mem_insertionSort _).mp member)).1
    obtain ⟨role, known, sameID⟩ := getRole_isSome.mp (integral a assigned)
    have taken := List.any_eq_false.mp free role known
    simp [sameID, same] at taken
  simpa [getUserAssignments, listed, List.filter_append] using unassigned

/-- An assignment concerns nobody but its user. -/
theorem getUserAssignments_createAssignment {uuid : String} {now : Int}
    {req : AssignRoleRequest} (created : d.createAssignment uuid now req = .ok d')
    {userID : String} (named : userID ≠ "") (other : userID ≠ req.userID) :
    d'.getUserAssignments userID = d.getUserAssignments userID := by
  obtain ⟨-, -, rfl⟩ := createAssignment_ok created
  have kept : DB.listAssignments { d with assignments := d.assignments ++
      [⟨assignmentID uuid, req.userID, req.roleID, req.objectType, req.objectID,
        req.propagate, now⟩] } userID "" "" = d.listAssignments userID "" "" := by
    simp [listAssignments, List.filter_append, named, Ne.symm other, getRole]
  simp only [getUserAssignments, kept]

section Keeps

variable {id uuid : String} {now : Int}

theorem createRole_keeps_iff {req : RoleRequest} :
    (∀ d', d.createRole uuid now req = .ok d' → d' = d) ↔ d.roleTaken uuid req = true := by
  by_cases taken : d.roleTaken uuid req = true
  · simp [createRole, taken]
  · refine iff_of_false (fun keeps => ?_) taken
    have same := keeps _ (by rw [createRole, if_neg taken])
    simpa using congrArg (·.roles.length) same

theorem updateRole_keeps_iff {req : RoleRequest} :
    (∀ d', d.updateRole id now req = .ok d' → d' = d) ↔
      (d.roleFixed id "modify").isSome ∨ d.nameTaken id req = true ∨
        ∀ role ∈ d.roles, role.id = id → rewriteRole now req role = role := by
  cases fixed : d.roleFixed id "modify" with
  | some err => simp [updateRole, fixed]
  | none =>
      by_cases taken : d.nameTaken id req = true
      · simp [updateRole, fixed, taken]
      · have rewritten : { d with roles := d.roles.map fun role =>
            if role.id = id then rewriteRole now req role else role } = d ↔
            ∀ role ∈ d.roles, role.id = id → rewriteRole now req role = role := by
          have pointwise := List.map_inj_left (l := d.roles) (g := fun role => role)
            (f := fun role => if role.id = id then rewriteRole now req role else role)
          rw [List.map_id'] at pointwise
          rw [DB.mk.injEq, pointwise]
          simp only [and_true, ite_eq_right_iff]
        simp [updateRole, fixed, taken, rewritten]

theorem deleteRole_keeps_iff :
    (∀ d', d.deleteRole id = .ok d' → d' = d) ↔ (d.roleFixed id "delete").isSome := by
  cases fixed : d.roleFixed id "delete" with
  | some err => simp [deleteRole, fixed]
  | none =>
      refine iff_of_false (fun keeps => ?_) (by simp)
      have same := congrArg DB.roles (keeps _ (by rw [deleteRole, fixed]))
      cases found : d.getRole id with
      | none => simp [roleFixed, found] at fixed
      | some role =>
          have kept := List.filter_eq_self.mp same role (List.mem_of_find?_eq_some found)
          have sameID := List.find?_some found
          simp_all

theorem createAssignment_keeps_iff {req : AssignRoleRequest} :
    (∀ d', d.createAssignment uuid now req = .ok d' → d' = d) ↔
      (d.getRole req.roleID).isNone ∨ d.assignmentTaken uuid req = true := by
  by_cases unknown : (d.getRole req.roleID).isNone = true
  · simp [createAssignment, unknown]
  · by_cases taken : d.assignmentTaken uuid req = true
    · simp [createAssignment, unknown, taken]
    · refine iff_of_false (fun keeps => ?_) (by simp [unknown, taken])
      have same := keeps _ (by rw [createAssignment, if_neg unknown, if_neg taken])
      simpa using congrArg (·.assignments.length) same

theorem deleteAssignment_keeps_iff :
    (∀ d', d.deleteAssignment id = .ok d' → d' = d) ↔
      d.assignments.all (·.id ≠ id) = true := by
  by_cases absent : d.assignments.all (·.id ≠ id) = true
  · simp only [deleteAssignment, absent, if_true, iff_true]
    exact fun d' deleted => nomatch deleted
  · refine iff_of_false (fun keeps => absent ?_) absent
    have same := congrArg DB.assignments (keeps _ (by rw [deleteAssignment, if_neg absent]))
    exact List.all_eq_true.mpr (List.filter_eq_self.mp same)

end Keeps

end DB

end Integrity

section Matching

/-- Everything, the permission itself, or the group that a final `.*` names. -/
def matchPermission (granted requested : String) : Bool :=
  granted = permAll || granted = requested ||
    (hasSuffix ".*" granted && hasPrefix (dropSuffix ".*" granted ++ ".") requested)

def roleHasPermission (role : Role) (permission : String) : Bool :=
  role.permissions.any (matchPermission · permission)

/-- The object, its ancestors, and the root in any case. -/
def chain (getAncestors : String → String → List ObjectRef) (objectType objectID : String) :
    List ObjectRef :=
  let refs := ⟨objectType, objectID⟩ :: getAncestors objectType objectID
  if refs.any (·.type = objectRoot) then refs else refs ++ [⟨objectRoot, ""⟩]

/-- The scan of `HasPermission` over the loaded assignments and roles. -/
def grants (getAncestors : String → String → List ObjectRef)
    (loaded : List RoleAssignment × List Role) (permission objectType objectID : String) :
    Bool :=
  (chain getAncestors objectType objectID).zipIdx.any fun (ref, i) =>
    loaded.1.any fun a =>
      a.objectType = ref.type && a.objectID = ref.id && (i = 0 || a.propagate) &&
        match loaded.2.find? (·.id = a.roleID) with
        | none => false
        | some role => roleHasPermission role permission

end Matching

section Service

structure UserCache where
  loaded : List RoleAssignment × List Role
  loadedAt : Int

def cacheTTL : Int := 30 * 1000000000

/-- `rbac.Service`: the tables and the cache over them. -/
structure Service where
  db : DB
  cache : FiniteMap.Map String UserCache

variable (getAncestors : String → String → List ObjectRef)

namespace Service

variable (s : Service) (now : Int)

def invalidateUser (userID : String) : Service := { s with cache := s.cache.erase userID }

def invalidateAll : Service := { s with cache := ∅ }

def loadUser (userID : String) : UserCache × Service :=
  let uc : UserCache := ⟨s.db.getUserAssignments userID, now⟩
  (uc, { s with cache := s.cache.insert userID uc })

def getUserCache (userID : String) : UserCache × Service :=
  match s.cache.lookup userID with
  | some uc => if now - uc.loadedAt < cacheTTL then (uc, s) else s.loadUser now userID
  | none => s.loadUser now userID

def hasPermission (userID permission objectType objectID : String) : Bool × Service :=
  let (uc, s') := s.getUserCache now userID
  (grants getAncestors uc.loaded permission objectType objectID, s')

/-- What a check answers that reads the tables afresh. -/
def granted (userID permission objectType objectID : String) : Bool :=
  grants getAncestors (s.db.getUserAssignments userID) permission objectType objectID

/-- One turn of the loop of `GetEffectivePermissions`. -/
def collectPermission (userID objectType objectID : String) (found : List String × Service)
    (permission : String) : List String × Service :=
  match found.2.hasPermission getAncestors now userID permission objectType objectID with
  | (true, s') => (found.1 ++ [permission], s')
  | (false, s') => (found.1, s')

def getEffectivePermissions (userID objectType objectID : String) : List String × Service :=
  allPermissions.foldl (collectPermission getAncestors now userID objectType objectID) ([], s)

/-- Whatever the cache holds about a user is what the tables say. An empty identifier is
left out: `ListAssignments` takes it for no filter. -/
def Coherent : Prop :=
  ∀ userID uc, userID ≠ "" → s.cache.lookup userID = some uc →
    uc.loaded = s.db.getUserAssignments userID

end Service

namespace Service

variable {s : Service}

theorem getUserCache_db (s : Service) (now : Int) (userID : String) :
    (s.getUserCache now userID).2.db = s.db := by
  rw [getUserCache]
  split
  · split <;> rfl
  · rfl

theorem Coherent.loadUser (coherent : s.Coherent) (now : Int) (userID : String) :
    (s.loadUser now userID).2.Coherent := by
  intro other uc named held
  rw [Service.loadUser, FiniteMap.lookup_insert_eq] at held
  by_cases same : other = userID
  · subst same
    obtain rfl : _ = uc := by simpa using held
    rfl
  · exact coherent other uc named (by simpa [same] using held)

theorem Coherent.getUserCache (coherent : s.Coherent) (now : Int) (userID : String) :
    (s.getUserCache now userID).2.Coherent := by
  have afterLoad := coherent.loadUser now userID
  rw [Service.getUserCache]
  split
  · split
    · exact coherent
    · exact afterLoad
  · exact afterLoad

theorem Coherent.loaded_eq (coherent : s.Coherent) (now : Int) {userID : String}
    (named : userID ≠ "") :
    (s.getUserCache now userID).1.loaded = s.db.getUserAssignments userID := by
  rw [Service.getUserCache]
  split
  · rename_i uc cached
    split
    · exact coherent userID uc named cached
    · rfl
  · rfl

/-- Behind a coherent cache a check answers by the tables alone. -/
theorem Coherent.hasPermission_eq (coherent : s.Coherent) (now : Int) {userID : String}
    (named : userID ≠ "") (permission objectType objectID : String) :
    (s.hasPermission getAncestors now userID permission objectType objectID).1 =
      s.granted getAncestors userID permission objectType objectID := by
  have same := coherent.loaded_eq now named
  simp only [hasPermission, granted, same]

theorem coherent_of_empty (empty : s.cache = ∅) : s.Coherent := by
  intro userID uc _ held
  simp [empty] at held

section Checks

variable {P : Service → Prop} (kept : ∀ s now userID, P s → P (s.getUserCache now userID).2)
include kept

theorem hasPermission_keeps (start : P s) (now : Int)
    (userID permission objectType objectID : String) :
    P (s.hasPermission getAncestors now userID permission objectType objectID).2 :=
  kept s now userID start

theorem collectPermission_keeps {found : List String × Service} (start : P found.2)
    (now : Int) (userID objectType objectID permission : String) :
    P (collectPermission getAncestors now userID objectType objectID found permission).2 := by
  have next := hasPermission_keeps getAncestors kept start now userID permission objectType
    objectID
  rw [collectPermission]
  split
  · rename_i s' answer
    rwa [answer] at next
  · rename_i s' answer
    rwa [answer] at next

theorem getEffectivePermissions_keeps (start : P s) (now : Int)
    (userID objectType objectID : String) :
    P (s.getEffectivePermissions getAncestors now userID objectType objectID).2 := by
  rw [getEffectivePermissions]
  have loop : ∀ (ps : List String) (found : List String × Service), P found.2 →
      P (ps.foldl (collectPermission getAncestors now userID objectType objectID) found).2 := by
    intro ps
    induction ps with
    | nil => exact fun found h => h
    | cons p ps ih =>
        intro found h
        exact ih _ (collectPermission_keeps getAncestors kept h now userID objectType objectID p)
  exact loop allPermissions ([], s) start

end Checks

end Service

end Service

end Rbac
