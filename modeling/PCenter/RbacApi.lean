import PCenter.Lib.Transition
import PCenter.Rbac
import PCenter.Router

/-!
# The role and assignment endpoints

The handlers of `internal/api/handlers_rbac.go` behind the router, and what any sequence
of requests to them does to the stored roles and assignments. No handler asks who the
user is, apart from `GetMyPermissions`: whatever passes the session gate and a handler's
own validation is carried out.

RBAC is configured, as `main.go` always does.
-/

namespace RbacApi

open Auth Rbac GoJson Router Transition
open Routes (Endpoint)

/-- A request below `/api/rbac`, its time, and the UUID drawn while it is handled. -/
structure Call where
  request : Request
  now : Int
  uuid : String
  onRbac : (ServeMux.muxSegments request.path).take 2 = ["api", "rbac"]

namespace Call

variable (c : Call)

def seconds : Int := c.now / 1000000000

/-- `json.NewDecoder(r.Body).Decode(&req)` -/
def decode {A : Type} (read : Fields → Except String A) : Option A := do
  let body ← c.request.body
  (decodeObject body >>= read).toOption

end Call

def readRoleRequest (o : Fields) : Except String RoleRequest := do
  let name ← stringField o "name"
  let description ← stringField o "description"
  let permissions ← stringsField o "permissions"
  pure ⟨name, description, permissions⟩

def readAssignRoleRequest (o : Fields) : Except String AssignRoleRequest := do
  let userID ← stringField o "user_id"
  let roleID ← stringField o "role_id"
  let objectType ← stringField o "object_type"
  let objectID ← stringField o "object_id"
  let propagate ← boolField o "propagate"
  pure ⟨userID, roleID, objectType, objectID, propagate⟩

abbrev Reply := Except Refusal Unit

section Handlers

variable (getAncestors : String → String → List ObjectRef)
variable (c : Call) (ctx : Context) (values : List (String × String)) (s : Rbac.Service)

def invalidBody : Refusal := ⟨400, "invalid request body"⟩

def pathID : String := (values.lookup "id").getD ""

/-- Store what a mutation leaves, or report its error. -/
def commit (result : Except String Rbac.DB) (store : Rbac.DB → Rbac.Service) :
    Reply × Rbac.Service :=
  match result with
  | .error err => (.error ⟨500, err⟩, s)
  | .ok db => (.ok (), store db)

def createRole : Reply × Rbac.Service :=
  match c.decode readRoleRequest with
  | none => (.error invalidBody, s)
  | some req =>
      if req.name = "" ∨ req.permissions = [] then
        (.error ⟨400, "name and permissions are required"⟩, s)
      else commit s (s.db.createRole c.uuid c.seconds req) fun db => { s with db := db }

def updateRole : Reply × Rbac.Service :=
  match c.decode readRoleRequest with
  | none => (.error invalidBody, s)
  | some req =>
      commit s (s.db.updateRole (pathID values) c.seconds req) fun db =>
        { s with db := db }.invalidateAll

def deleteRole : Reply × Rbac.Service :=
  commit s (s.db.deleteRole (pathID values)) fun db => { s with db := db }.invalidateAll

def createRoleAssignment : Reply × Rbac.Service :=
  match c.decode readAssignRoleRequest with
  | none => (.error invalidBody, s)
  | some req =>
      if req.userID = "" ∨ req.roleID = "" ∨ req.objectType = "" then
        (.error ⟨400, "user_id, role_id, and object_type are required"⟩, s)
      else
        commit s (s.db.createAssignment c.uuid c.seconds req) fun db =>
          { s with db := db }.invalidateUser req.userID

def deleteRoleAssignment : Reply × Rbac.Service :=
  commit s (s.db.deleteAssignment (pathID values)) fun db => { s with db := db }.invalidateAll

def getMyPermissions : Reply × Rbac.Service :=
  match ctx with
  | none => (.error unauthorized, s)
  | some (_, user) =>
      if user.role = roleAdmin then (.ok (), s)
      else
        let query := fun name => (c.request.query.lookup name).getD ""
        let objectType := if query "object_type" = "" then objectRoot else query "object_type"
        (.ok (), (s.getEffectivePermissions getAncestors c.now user.id objectType
          (query "object_id")).2)

/-- The handler of an endpoint below `/api/rbac`; the remaining ones there only read. -/
def handle (e : Endpoint) : Reply × Rbac.Service :=
  match e with
  | .createRole => createRole c s
  | .updateRole => updateRole c values s
  | .deleteRole => deleteRole values s
  | .createRoleAssignment => createRoleAssignment c s
  | .deleteRoleAssignment => deleteRoleAssignment values s
  | .getMyPermissions => getMyPermissions getAncestors c ctx s
  | _ => (.ok (), s)

end Handlers

section Invariant

variable {getAncestors : String → String → List ObjectRef}
variable {c : Call} {ctx : Context} {values : List (String × String)} {s : Rbac.Service}

/-- What every server state keeps: no assignment without its role, no stale cache. -/
def Sound (s : Rbac.Service) : Prop := s.db.Integral ∧ s.Coherent

theorem Sound.getUserCache (sound : Sound s) (now : Int) (userID : String) :
    Sound (s.getUserCache now userID).2 := by
  refine ⟨?_, sound.2.getUserCache now userID⟩
  rw [Rbac.Service.getUserCache_db]
  exact sound.1

theorem Sound.commit {result : Except String Rbac.DB} {store : Rbac.DB → Rbac.Service}
    (sound : Sound s) (stored : ∀ db, result = .ok db → Sound (store db)) :
    Sound (commit s result store).2 := by
  cases result with
  | error err => exact sound
  | ok db => exact stored db rfl

theorem Sound.invalidateAll {db : Rbac.DB} (integral : db.Integral) :
    Sound { s with db := db }.invalidateAll :=
  ⟨integral, Rbac.Service.coherent_of_empty rfl⟩

theorem Sound.createRole (sound : Sound s) : Sound (createRole c s).2 := by
  rw [RbacApi.createRole]
  split
  · exact sound
  · split
    · exact sound
    · refine sound.commit fun db created => ⟨sound.1.createRole created, ?_⟩
      intro userID uc named held
      rw [Rbac.DB.getUserAssignments_createRole sound.1 created]
      exact sound.2 userID uc named held

theorem Sound.createRoleAssignment (sound : Sound s) :
    Sound (createRoleAssignment c s).2 := by
  rw [RbacApi.createRoleAssignment]
  split
  · exact sound
  · split
    · exact sound
    · rename_i req _ _
      refine sound.commit fun db created => ⟨sound.1.createAssignment created, ?_⟩
      intro userID uc named held
      by_cases same : userID = req.userID
      · subst same
        simp [Rbac.Service.invalidateUser] at held
      · have kept := Rbac.DB.getUserAssignments_createAssignment created named same
        have cached : s.cache.lookup userID = some uc := by
          rwa [Rbac.Service.invalidateUser, AList.lookup_erase_ne same] at held
        exact (sound.2 userID uc named cached).trans kept.symm

theorem Sound.getMyPermissions (sound : Sound s) :
    Sound (getMyPermissions getAncestors c ctx s).2 := by
  rcases ctx with - | ⟨session, user⟩
  · exact sound
  · by_cases admin : user.role = roleAdmin
    · simpa [RbacApi.getMyPermissions, admin] using sound
    · simp only [RbacApi.getMyPermissions, admin, if_false]
      exact Rbac.Service.getEffectivePermissions_keeps (P := Sound) getAncestors
        (fun _ now userID h => h.getUserCache now userID) sound _ _ _ _

theorem Sound.handle (sound : Sound s) (e : Endpoint) :
    Sound (handle getAncestors c ctx values s e).2 := by
  unfold RbacApi.handle
  split
  · exact sound.createRole
  · rw [RbacApi.updateRole]
    split
    · exact sound
    · exact sound.commit fun db updated => .invalidateAll (sound.1.updateRole updated)
  · exact sound.commit fun db deleted => .invalidateAll (sound.1.deleteRole deleted)
  · exact sound.createRoleAssignment
  · exact sound.commit fun db deleted => .invalidateAll (sound.1.deleteAssignment deleted)
  · exact sound.getMyPermissions
  · exact sound

end Invariant

section Reachable

variable (getAncestors : String → String → List ObjectRef)

/-- What changes the permission service: a request to one of these endpoints by anyone, a
check made for any other request, a restart of the server. -/
inductive Event where
  | request (e : Endpoint) (c : Call) (ctx : Context) (values : List (String × String))
  | check (now : Int) (userID permission objectType objectID : String)
  | restart (now : Int)

/-- A restart empties the cache; when seeding fails the server does not come up. -/
def serviceStep (s : Rbac.Service) : Event → Rbac.Service
  | .request e c ctx values => (handle getAncestors c ctx values s e).2
  | .check now userID permission objectType objectID =>
      (s.hasPermission getAncestors now userID permission objectType objectID).2
  | .restart now =>
      match s.db.seedBuiltInRoles now with
      | .error _ => s
      | .ok db => ⟨db, ∅⟩

/-- An empty database, seeded. -/
def Installed (s : Rbac.Service) : Prop :=
  ∃ now db, Rbac.DB.seedBuiltInRoles ⟨[], []⟩ now = .ok db ∧ s = ⟨db, ∅⟩

theorem sound_of_reachable {s : Rbac.Service}
    (reachable : Reachable (serviceStep getAncestors) Installed s) : Sound s := by
  refine reachable.invariant ?_ ?_
  · rintro s ⟨now, db, seeded, rfl⟩
    have empty : Rbac.DB.Integral ⟨[], []⟩ := by simp [Rbac.DB.Integral]
    exact ⟨empty.seedBuiltInRoles seeded, Rbac.Service.coherent_of_empty rfl⟩
  · intro s event sound
    cases event with
    | request e c ctx values => exact sound.handle e
    | check now userID permission objectType objectID => exact sound.getUserCache now userID
    | restart now =>
        cases seeded : s.db.seedBuiltInRoles now with
        | error err => simpa [serviceStep, seeded] using sound
        | ok db =>
            simp only [serviceStep, seeded]
            exact ⟨sound.1.seedBuiltInRoles seeded, Rbac.Service.coherent_of_empty rfl⟩

end Reachable

section Escalation

/-- The sessions and users next to the permission service. -/
structure World where
  auth : Auth.DB
  rbac : Rbac.Service

variable (svc : Auth.Service) (getAncestors : String → String → List ObjectRef)
variable (agentHub : Bool)

/-- A request on its way through router, wrappers, handler and tables. -/
def step (w : World) (c : Call) : World :=
  match serve svc c.now agentHub c.request w.auth with
  | (.runs e ctx values, auth) => ⟨auth, (handle getAncestors c ctx values w.rbac e).2⟩
  | (_, auth) => ⟨auth, w.rbac⟩

/-- The run changes neither the stored roles and assignments nor any answer of a check. -/
def NoEscalation (w : World) (calls : List Call) : Prop :=
  ∀ w' ∈ states (step svc getAncestors agentHub) w calls, w'.rbac.db = w.rbac.db ∧
    ∀ now now' userID permission objectType objectID, userID ≠ "" →
      (w'.rbac.hasPermission getAncestors now' userID permission objectType objectID).1 =
        (w.rbac.hasPermission getAncestors now userID permission objectType objectID).1

/-- The handler of the endpoint refuses the request, or finds stored what it writes. -/
def Refuses (e : Endpoint) (values : List (String × String)) (c : Call) (d : Rbac.DB) : Prop :=
  match e with
  | .createRole => ∀ req, c.decode readRoleRequest = some req →
      req.name = "" ∨ req.permissions = [] ∨ d.roleTaken c.uuid req = true
  | .updateRole => ∀ req, c.decode readRoleRequest = some req →
      (d.roleFixed (pathID values) "modify").isSome ∨ d.nameTaken (pathID values) req = true ∨
        ∀ role ∈ d.roles, role.id = pathID values →
          Rbac.DB.rewriteRole c.seconds req role = role
  | .deleteRole => (d.roleFixed (pathID values) "delete").isSome
  | .createRoleAssignment => ∀ req, c.decode readAssignRoleRequest = some req →
      req.userID = "" ∨ req.roleID = "" ∨ req.objectType = "" ∨
        (d.getRole req.roleID).isNone ∨ d.assignmentTaken c.uuid req = true
  | .deleteRoleAssignment => d.assignments.all (·.id ≠ pathID values)
  | _ => True

/-- The request is stopped before a handler that mutates the tables, or by its checks. -/
def Harmless (w : World) (c : Call) : Prop :=
  match (serve svc c.now agentHub c.request w.auth).1 with
  | .runs e _ values => Refuses e values c w.rbac.db
  | _ => True

section Tables

variable {getAncestors} {c : Call} {ctx : Context} {values : List (String × String)}
variable {s : Rbac.Service}

theorem commit_db {result : Except String Rbac.DB} {store : Rbac.DB → Rbac.Service}
    (stores : ∀ db, (store db).db = db) :
    (commit s result store).2.db = s.db ↔ ∀ db, result = .ok db → db = s.db := by
  cases result with
  | error err => simp [commit]
  | ok db => simp [commit, stores]

theorem getMyPermissions_db : (getMyPermissions getAncestors c ctx s).2.db = s.db := by
  rcases ctx with - | ⟨session, user⟩
  · rfl
  · by_cases admin : user.role = roleAdmin
    · simp [getMyPermissions, admin]
    · simp only [getMyPermissions, admin, if_false]
      exact Rbac.Service.getEffectivePermissions_keeps (P := fun s' => s'.db = s.db)
        getAncestors (fun s' now userID h => (Rbac.Service.getUserCache_db s' now userID).trans h)
        rfl _ _ _ _

/-- A handler leaves the tables as they are exactly when it refuses. -/
theorem handle_db (e : Endpoint) :
    (handle getAncestors c ctx values s e).2.db = s.db ↔ Refuses e values c s.db := by
  unfold handle Refuses
  split
  · cases decoded : c.decode readRoleRequest with
    | none => simp [createRole, decoded]
    | some req =>
        by_cases blank : req.name = "" ∨ req.permissions = []
        · simp [createRole, decoded, blank, ← or_assoc]
        · rw [not_or] at blank
          simp [createRole, decoded, blank, commit_db, Rbac.DB.createRole_keeps_iff]
  · cases decoded : c.decode readRoleRequest with
    | none => simp [updateRole, decoded]
    | some req =>
        simp [updateRole, decoded, commit_db, Rbac.Service.invalidateAll,
          Rbac.DB.updateRole_keeps_iff]
  · simp [deleteRole, commit_db, Rbac.Service.invalidateAll, Rbac.DB.deleteRole_keeps_iff]
  · cases decoded : c.decode readAssignRoleRequest with
    | none => simp [createRoleAssignment, decoded]
    | some req =>
        by_cases blank : req.userID = "" ∨ req.roleID = "" ∨ req.objectType = ""
        · have refused : req.userID = "" ∨ req.roleID = "" ∨ req.objectType = "" ∨
              (s.db.getRole req.roleID).isNone ∨ s.db.assignmentTaken c.uuid req = true := by
            rcases blank with blank | blank | blank <;> simp [blank]
          simp only [createRoleAssignment, decoded, blank, if_true, Option.some.injEq,
            forall_eq', refused]
        · rw [not_or, not_or] at blank
          simp [createRoleAssignment, decoded, blank, commit_db,
            Rbac.Service.invalidateUser, Rbac.DB.createAssignment_keeps_iff]
  · simp [deleteRoleAssignment, commit_db, Rbac.Service.invalidateAll,
      Rbac.DB.deleteAssignment_keeps_iff]
  · exact iff_of_true getMyPermissions_db trivial
  · refine iff_of_true rfl ?_
    split <;> trivial

end Tables

section Runs

variable {svc getAncestors agentHub}

theorem step_rbac (w : World) (c : Call) :
    (step svc getAncestors agentHub w c).rbac =
      match (serve svc c.now agentHub c.request w.auth).1 with
      | .runs e ctx values => (handle getAncestors c ctx values w.rbac e).2
      | _ => w.rbac := by
  rcases served : serve svc c.now agentHub c.request w.auth with ⟨outcome, auth⟩
  cases outcome <;> simp [step, served]

theorem step_db (w : World) (c : Call) :
    (step svc getAncestors agentHub w c).rbac.db = w.rbac.db ↔ Harmless svc agentHub w c := by
  rw [step_rbac, Harmless]
  cases (serve svc c.now agentHub c.request w.auth).1 with
  | runs e ctx values => exact handle_db e
  | _ => exact iff_of_true rfl trivial

theorem Sound.step {w : World} (sound : Sound w.rbac) (c : Call) :
    Sound (step svc getAncestors agentHub w c).rbac := by
  rw [step_rbac]
  cases (serve svc c.now agentHub c.request w.auth).1 with
  | runs e ctx values => exact sound.handle e
  | _ => exact sound

/-- The same tables give the same answers, whatever the caches hold. -/
theorem hasPermission_congr {s s' : Rbac.Service} (sound : Sound s) (sound' : Sound s')
    (same : s'.db = s.db) {userID : String} (named : userID ≠ "") (now now' : Int)
    (permission objectType objectID : String) :
    (s'.hasPermission getAncestors now' userID permission objectType objectID).1 =
      (s.hasPermission getAncestors now userID permission objectType objectID).1 := by
  rw [sound'.2.hasPermission_eq getAncestors now' named,
    sound.2.hasPermission_eq getAncestors now named]
  simp only [Rbac.Service.granted, same]

end Runs

/-- From any state a server can be in, a sequence of requests to the role and assignment
endpoints changes nothing exactly when each of them is refused or only reads. -/
theorem noEscalation_iff {w : World}
    (reachable : Reachable (serviceStep getAncestors) Installed w.rbac) (calls : List Call) :
    NoEscalation svc getAncestors agentHub w calls ↔
      Along (step svc getAncestors agentHub) (Harmless svc agentHub) w calls := by
  have sound := sound_of_reachable getAncestors reachable
  have everSound : ∀ w' ∈ states (step svc getAncestors agentHub) w calls, Sound w'.rbac :=
    invariant_states (P := fun w : World => Sound w.rbac) (fun _ c h => h.step c) sound
  have tables := constant_iff_along (step svc getAncestors agentHub)
    (fun w => w.rbac.db) w calls
  rw [← along_congr (fun (w : World) c => step_db w c), ← tables]
  constructor
  · intro quiet w' passed
    exact (quiet w' passed).1
  · intro constant w' passed
    refine ⟨constant w' passed, ?_⟩
    intro now now' userID permission objectType objectID named
    exact hasPermission_congr sound (everSound w' passed) (constant w' passed) named now now'
      permission objectType objectID

section SelfAssignment

/-- A server just installed, and one ordinary user logged in. -/
def freshWorld : World := ⟨oneSession, ⟨Rbac.DB.builtinRoles 0, []⟩, ∅⟩

theorem freshWorld_reachable (getAncestors : String → String → List ObjectRef) :
    Reachable (serviceStep getAncestors) Installed freshWorld.rbac :=
  .init _ ⟨0, ⟨Rbac.DB.builtinRoles 0, []⟩, rfl, rfl⟩

/-- The user asks for the administrator's role on everything. -/
def assignAdmin : Call where
  request := ⟨"POST", ["api", "rbac", "assignments"], [], some "cookie", "",
    some (.obj [("user_id", .str "u1"), ("role_id", .str roleIDAdmin),
      ("object_type", .str objectRoot), ("propagate", .bool true)])⟩
  now := 0
  uuid := "6ba7b810-9dad"
  onRbac := by decide

def readRoles : Call where
  request := ⟨"GET", ["api", "rbac", "roles"], [], some "cookie", "", none⟩
  now := 0
  uuid := ""
  onRbac := by decide

/-- Reading the roles is harmless. -/
theorem readRoles_noEscalation :
    NoEscalation ⟨some, 8⟩ (fun _ _ => []) true freshWorld [readRoles] := by
  refine (noEscalation_iff _ _ _ (freshWorld_reachable _) _).mpr ⟨?_, trivial⟩
  have runs : (serve ⟨some, 8⟩ readRoles.now true readRoles.request freshWorld.auth).1 =
      .runs .getRoles
        (some (⟨"s1", "u1", "cookie", "token", false, 1, 0⟩, ⟨"u1", "user", false⟩)) [] := by
    rfl
  rw [Harmless, runs]
  trivial

/-- A user with no permission at all makes himself administrator. -/
theorem user_assigns_himself_admin :
    (∀ user ∈ freshWorld.auth.users, user.role ≠ roleAdmin) ∧
    (∀ now userID permission objectType objectID,
      (freshWorld.rbac.hasPermission (fun _ _ => []) now userID permission objectType
        objectID).1 = false) ∧
    ¬NoEscalation ⟨some, 8⟩ (fun _ _ => []) true freshWorld [assignAdmin] := by
  refine ⟨by decide, ?_, ?_⟩
  · intro now userID permission objectType objectID
    have nothing : (freshWorld.rbac.db.getUserAssignments userID).1 = [] := rfl
    have loaded : (freshWorld.rbac.getUserCache now userID).1.loaded =
        freshWorld.rbac.db.getUserAssignments userID := rfl
    simp [Rbac.Service.hasPermission, loaded, grants, nothing]
  · intro quiet
    have changed := (quiet (step ⟨some, 8⟩ (fun _ _ => []) true freshWorld assignAdmin)
      (by simp [states])).2 0 0 "u1" "vm.delete" "vm" "100" (by decide)
    exact absurd changed (by decide)

end SelfAssignment

end Escalation

end RbacApi
