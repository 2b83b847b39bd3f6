import PCenter.RbacResolver

/-!
# What a permission check decides

The specification of `HasPermission`, for whatever a resolver answers: an assignment on the
object, or on an object above it when it propagates, whose role carries the permission; the
root is above every object. The check looks for a reference whose type is root before it adds
the root, and takes one with an identifier for it: a resolver has to answer the root itself, as
the `StateResolver` does, the only one that `main.go` makes a service with.
-/

namespace Rbac

open GoText

/-- Everything, the permission, or a group of it up to a dot. -/
def Role.Grants (role : Role) (permission : String) : Prop :=
  "*" ∈ role.permissions ∨ permission ∈ role.permissions ∨
    ∃ group rest, permission = group ++ "." ++ rest ∧ group ++ ".*" ∈ role.permissions

/-- The specification, from the assignments and the roles of a user. -/
def Permitted (ancestors : List ObjectRef) (loaded : List RoleAssignment × List Role)
    (permission : String) (object : ObjectRef) : Prop :=
  ∃ a ∈ loaded.1,
    (a.object = object ∨ a.propagate = true ∧ a.object ∈ ancestors ++ [⟨objectRoot, ""⟩]) ∧
      ∃ role, loaded.2.find? (·.id = a.roleID) = some role ∧ role.Grants permission

/-- One assignment more, one permission more in a role, or one assignment that propagates. -/
inductive Grows : List RoleAssignment × List Role → List RoleAssignment × List Role → Prop
  | assignment (before after : List RoleAssignment) (a : RoleAssignment) (roles : List Role) :
      Grows (before ++ after, roles) (before ++ a :: after, roles)
  | permission (assignments : List RoleAssignment) (before after : List Role) (role : Role)
      (permission : String) :
      Grows (assignments, before ++ role :: after)
        (assignments, before ++ { role with permissions := permission :: role.permissions } :: after)
  | propagate (before after : List RoleAssignment) (a : RoleAssignment) (roles : List Role) :
      Grows (before ++ a :: after, roles) (before ++ { a with propagate := true } :: after, roles)

section Checks

variable (getAncestors : String → String → List ObjectRef) (objectType objectID : String)

/-- Checks on an object decide what is specified, never revoke what grows, and make up the
effective permissions. -/
structure Resolves : Prop where
  specified : ∀ (s : Service) (now : Int) (userID permission : String),
    (s.hasPermission getAncestors now userID permission objectType objectID).1 = true ↔
      Permitted (getAncestors objectType objectID) (s.getUserCache now userID).1.loaded permission
        ⟨objectType, objectID⟩
  monotone : ∀ (s s' : Service) (now now' : Int) (userID userID' permission : String),
    Grows (s.getUserCache now userID).1.loaded (s'.getUserCache now' userID').1.loaded →
      (s.hasPermission getAncestors now userID permission objectType objectID).1 = true →
      (s'.hasPermission getAncestors now' userID' permission objectType objectID).1 = true
  effective : ∀ (s : Service) (now : Int) (userID permission : String),
    permission ∈ (s.getEffectivePermissions getAncestors now userID objectType objectID).1 ↔
      permission ∈ allPermissions ∧
        (s.hasPermission getAncestors now userID permission objectType objectID).1 = true

/-- The root is in the chain that was found, or nothing of its type is. -/
def Rooted : Prop :=
  ⟨objectRoot, ""⟩ ∈ ⟨objectType, objectID⟩ :: getAncestors objectType objectID ∨
    ∀ ref ∈ ⟨objectType, objectID⟩ :: getAncestors objectType objectID, ref.type ≠ objectRoot

end Checks

section Matching

theorem hasSuffix_iff {suffix s : String} :
    hasSuffix suffix s = true ↔ ∃ rest, s = rest ++ suffix := by
  rw [hasSuffix, List.isSuffixOf_iff_suffix]
  constructor
  · rintro ⟨rest, whole⟩
    refine ⟨String.ofList rest, String.toList_inj.mp ?_⟩
    rw [String.toList_append, String.toList_ofList, whole]
  · rintro ⟨rest, rfl⟩
    exact ⟨rest.toList, String.toList_append.symm⟩

theorem hasPrefix_iff {pre s : String} :
    hasPrefix pre s = true ↔ ∃ rest, s = pre ++ rest := by
  rw [hasPrefix, List.isPrefixOf_iff_prefix]
  constructor
  · rintro ⟨rest, whole⟩
    refine ⟨String.ofList rest, String.toList_inj.mp ?_⟩
    rw [String.toList_append, String.toList_ofList, whole]
  · rintro ⟨rest, rfl⟩
    exact ⟨rest.toList, String.toList_append.symm⟩

theorem dropSuffix_append (rest suffix : String) : dropSuffix suffix (rest ++ suffix) = rest := by
  apply String.toList_inj.mp
  rw [dropSuffix, String.toList_ofList, String.toList_append, List.length_append,
    Nat.add_sub_cancel, List.take_left]

theorem matchPermission_iff {granted requested : String} :
    matchPermission granted requested = true ↔
      granted = "*" ∨ granted = requested ∨
        ∃ group rest, requested = group ++ "." ++ rest ∧ granted = group ++ ".*" := by
  have grouped : (hasSuffix ".*" granted &&
      hasPrefix (dropSuffix ".*" granted ++ ".") requested) = true ↔
        ∃ group rest, requested = group ++ "." ++ rest ∧ granted = group ++ ".*" := by
    rw [Bool.and_eq_true, hasSuffix_iff, hasPrefix_iff]
    constructor
    · rintro ⟨⟨group, rfl⟩, rest, whole⟩
      rw [dropSuffix_append] at whole
      exact ⟨group, rest, whole, rfl⟩
    · rintro ⟨group, rest, whole, rfl⟩
      refine ⟨⟨group, rfl⟩, rest, ?_⟩
      rw [dropSuffix_append]
      exact whole
  simp only [matchPermission, Bool.or_eq_true, decide_eq_true_eq, grouped, or_assoc]
  rfl

theorem roleHasPermission_iff {role : Role} {permission : String} :
    roleHasPermission role permission = true ↔ role.Grants permission := by
  simp only [roleHasPermission, List.any_eq_true, matchPermission_iff, Role.Grants]
  constructor
  · rintro ⟨granted, member, rfl | rfl | ⟨group, rest, whole, rfl⟩⟩
    · exact .inl member
    · exact .inr (.inl member)
    · exact .inr (.inr ⟨group, rest, whole, member⟩)
  · rintro (member | member | ⟨group, rest, whole, member⟩)
    · exact ⟨_, member, .inl rfl⟩
    · exact ⟨_, member, .inr (.inl rfl)⟩
    · exact ⟨_, member, .inr (.inr ⟨group, rest, whole, rfl⟩)⟩

theorem carries_iff {roles : List Role} {a : RoleAssignment} {permission : String} :
    Carries roles a permission ↔
      ∃ role, roles.find? (·.id = a.roleID) = some role ∧ role.Grants permission := by
  simp only [Carries, roleHasPermission_iff]

end Matching

section Growth

variable {loaded loaded' : List RoleAssignment × List Role} {permission : String}

theorem grants_cons {role : Role} (added : String) (grants : role.Grants permission) :
    ({ role with permissions := added :: role.permissions } : Role).Grants permission := by
  rcases grants with all | same | ⟨group, rest, whole, member⟩
  · exact .inl (List.mem_cons_of_mem _ all)
  · exact .inr (.inl (List.mem_cons_of_mem _ same))
  · exact .inr (.inr ⟨group, rest, whole, List.mem_cons_of_mem _ member⟩)

/-- Every assignment that carries a permission is still there, on the same object. -/
theorem exists_of_grows (grows : Grows loaded loaded') {a : RoleAssignment} (member : a ∈ loaded.1)
    (carries : Carries loaded.2 a permission) :
    ∃ a' ∈ loaded'.1, a'.object = a.object ∧ (a.propagate = true → a'.propagate = true) ∧
      Carries loaded'.2 a' permission := by
  cases grows with
  | assignment before after new roles =>
      refine ⟨a, ?_, rfl, id, carries⟩
      rcases List.mem_append.mp member with early | late
      · exact List.mem_append_left _ early
      · exact List.mem_append_right _ (List.mem_cons_of_mem _ late)
  | permission assignments before after role added =>
      refine ⟨a, member, rfl, id, ?_⟩
      rw [carries_iff] at carries ⊢
      obtain ⟨found, looked, grants⟩ := carries
      simp only [List.find?_append, List.find?_cons] at looked ⊢
      cases early : before.find? (·.id = a.roleID) with
      | some first =>
          rw [early, Option.some_or] at looked
          exact ⟨found, by rw [Option.some_or, looked], grants⟩
      | none =>
          rw [early, Option.none_or] at looked
          rw [Option.none_or]
          by_cases here : role.id = a.roleID
          · simp only [here, decide_true] at looked ⊢
            obtain rfl := Option.some.inj looked
            exact ⟨_, rfl, grants_cons added grants⟩
          · simp only [here, decide_false] at looked ⊢
            exact ⟨found, looked, grants⟩
  | propagate before after old roles =>
      rcases List.mem_append.mp member with early | late
      · exact ⟨a, List.mem_append_left _ early, rfl, id, carries⟩
      · rcases List.mem_cons.mp late with rfl | late
        · exact ⟨_, List.mem_append_right _ List.mem_cons_self, rfl, fun _ => rfl, carries⟩
        · exact ⟨a, List.mem_append_right _ (List.mem_cons_of_mem _ late), rfl, id, carries⟩

end Growth

section Chains

variable {getAncestors : String → String → List ObjectRef} {objectType objectID : String}
  {loaded loaded' : List RoleAssignment × List Role} {permission : String}

theorem chain_cons (getAncestors : String → String → List ObjectRef)
    (objectType objectID : String) :
    ∃ above, chain getAncestors objectType objectID = ⟨objectType, objectID⟩ :: above ∧
      (above = getAncestors objectType objectID ∨
        above = getAncestors objectType objectID ++ [⟨objectRoot, ""⟩]) := by
  rw [chain]
  split_ifs
  · exact ⟨_, rfl, .inl rfl⟩
  · exact ⟨_, rfl, .inr rfl⟩

theorem grants_of_grows (grows : Grows loaded loaded')
    (granted : grants getAncestors loaded permission objectType objectID = true) :
    grants getAncestors loaded' permission objectType objectID = true := by
  obtain ⟨above, refs, _⟩ := chain_cons getAncestors objectType objectID
  obtain ⟨a, member, carries, reaches⟩ := (grants_iff_above refs).mp granted
  obtain ⟨a', member', object, keeps, carries'⟩ := exists_of_grows grows member carries
  refine (grants_iff_above refs).mpr ⟨a', member', carries', ?_⟩
  rw [object]
  rcases reaches with here | ⟨propagates, there⟩
  · exact .inl here
  · exact .inr ⟨keeps propagates, there⟩

/-- A check that finds the root, or nothing of its type, decides what is specified. -/
theorem grants_iff_permitted (rooted : Rooted getAncestors objectType objectID) :
    grants getAncestors loaded permission objectType objectID = true ↔
      Permitted (getAncestors objectType objectID) loaded permission ⟨objectType, objectID⟩ := by
  have swapped : Permitted (getAncestors objectType objectID) loaded permission
      ⟨objectType, objectID⟩ ↔ ∃ a ∈ loaded.1, Carries loaded.2 a permission ∧
        (a.object = ⟨objectType, objectID⟩ ∨
          a.propagate = true ∧ a.object ∈ getAncestors objectType objectID ++ [⟨objectRoot, ""⟩]) := by
    simp only [Permitted, carries_iff]
    constructor
    · rintro ⟨a, member, reaches, carries⟩
      exact ⟨a, member, carries, reaches⟩
    · rintro ⟨a, member, carries, reaches⟩
      exact ⟨a, member, reaches, carries⟩
  rw [swapped]
  rcases rooted with there | nowhere
  · have refs : chain getAncestors objectType objectID =
        ⟨objectType, objectID⟩ :: getAncestors objectType objectID :=
      if_pos (List.any_eq_true.mpr ⟨_, there, decide_eq_true rfl⟩)
    rw [grants_iff_above refs]
    rcases List.mem_cons.mp there with itself | above
    · constructor
      · rintro ⟨a, member, carries, here | ⟨propagates, found⟩⟩
        · exact ⟨a, member, carries, .inl here⟩
        · exact ⟨a, member, carries, .inr ⟨propagates, List.mem_append_left _ found⟩⟩
      · rintro ⟨a, member, carries, here | ⟨propagates, found⟩⟩
        · exact ⟨a, member, carries, .inl here⟩
        · rcases List.mem_append.mp found with found | root
          · exact ⟨a, member, carries, .inr ⟨propagates, found⟩⟩
          · exact ⟨a, member, carries, .inl ((List.mem_singleton.mp root).trans itself)⟩
    · simp only [List.mem_append, List.mem_singleton]
      constructor
      · rintro ⟨a, member, carries, here | ⟨propagates, found⟩⟩
        · exact ⟨a, member, carries, .inl here⟩
        · exact ⟨a, member, carries, .inr ⟨propagates, .inl found⟩⟩
      · rintro ⟨a, member, carries, here | ⟨propagates, found | root⟩⟩
        · exact ⟨a, member, carries, .inl here⟩
        · exact ⟨a, member, carries, .inr ⟨propagates, found⟩⟩
        · exact ⟨a, member, carries, .inr ⟨propagates, root ▸ above⟩⟩
  · have refs : chain getAncestors objectType objectID = ⟨objectType, objectID⟩ ::
        (getAncestors objectType objectID ++ [⟨objectRoot, ""⟩]) := by
      rw [chain, if_neg]
      · rfl
      · intro found
        obtain ⟨ref, member, isRoot⟩ := List.any_eq_true.mp found
        exact nowhere ref member (of_decide_eq_true isRoot)
    exact grants_iff_above refs

/-- Otherwise an assignment on the root is not looked at. -/
theorem rooted_of_permitted
    (specified : grants getAncestors ([⟨"a", "u", "r", objectRoot, "", true, 0⟩],
        [⟨"r", "all", "", false, [permAll], 0, 0⟩]) permission objectType objectID = true) :
    Rooted getAncestors objectType objectID := by
  by_contra unrooted
  rw [Rooted, not_or] at unrooted
  obtain ⟨missing, some_⟩ := unrooted
  push Not at some_
  obtain ⟨ref, member, isRoot⟩ := some_
  have refs : chain getAncestors objectType objectID =
      ⟨objectType, objectID⟩ :: getAncestors objectType objectID :=
    if_pos (List.any_eq_true.mpr ⟨ref, member, decide_eq_true isRoot⟩)
  obtain ⟨a, only, _, reaches⟩ := (grants_iff_above refs).mp specified
  obtain rfl := List.mem_singleton.mp only
  rcases reaches with here | ⟨_, there⟩
  · exact missing (List.mem_cons.mpr (.inl here))
  · exact missing (List.mem_cons_of_mem _ there)

end Chains

section Effective

variable {getAncestors : String → String → List ObjectRef}

theorem getUserCache_of_cached {s : Service} {now : Int} {userID : String} {uc : UserCache}
    (cached : s.cache.lookup userID = some uc) (fresh : now - uc.loadedAt < cacheTTL) :
    s.getUserCache now userID = (uc, s) := by
  rw [Service.getUserCache, cached]
  exact if_pos fresh

/-- What was just loaded is not loaded again. -/
theorem getUserCache_again (s : Service) (now : Int) (userID : String) :
    (s.getUserCache now userID).2.getUserCache now userID = s.getUserCache now userID := by
  have loaded : (s.loadUser now userID).2.getUserCache now userID = s.loadUser now userID := by
    have held : (s.loadUser now userID).2.cache.lookup userID =
        some ⟨s.db.getUserAssignments userID, now⟩ :=
      (FiniteMap.lookup_insert_eq _ _ _ _).trans (if_pos rfl)
    have fresh : now - now < cacheTTL := by
      rw [Int.sub_self]
      decide
    exact getUserCache_of_cached held fresh
  cases cached : s.cache.lookup userID with
  | none =>
      have load : s.getUserCache now userID = s.loadUser now userID := by
        rw [Service.getUserCache, cached]
      rw [load, loaded]
  | some uc =>
      by_cases fresh : now - uc.loadedAt < cacheTTL
      · rw [getUserCache_of_cached cached fresh, getUserCache_of_cached cached fresh]
      · have load : s.getUserCache now userID = s.loadUser now userID := by
          rw [Service.getUserCache, cached]
          exact if_neg fresh
        rw [load, loaded]

theorem collect_eq (s : Service) (now : Int) (userID objectType objectID : String)
    (permissions found : List String) {start : Service}
    (same : start.getUserCache now userID = s.getUserCache now userID) :
    (permissions.foldl (Service.collectPermission getAncestors now userID objectType objectID)
        (found, start)).1 =
      found ++ permissions.filter fun p =>
        (s.hasPermission getAncestors now userID p objectType objectID).1 := by
  induction permissions generalizing found start with
  | nil => simp
  | cons p permissions ih =>
      have again : start.hasPermission getAncestors now userID p objectType objectID =
          s.hasPermission getAncestors now userID p objectType objectID := by
        rw [Service.hasPermission, same]
        rfl
      have state : (s.hasPermission getAncestors now userID p objectType objectID).2 =
          (s.getUserCache now userID).2 := rfl
      rw [List.foldl_cons, Service.collectPermission]
      simp only [again]
      rcases answer : s.hasPermission getAncestors now userID p objectType objectID with ⟨granted, s'⟩
      have kept : s'.getUserCache now userID = s.getUserCache now userID := by
        rw [answer] at state
        have next : s' = (s.getUserCache now userID).2 := state
        rw [next, getUserCache_again]
      cases granted with
      | true =>
          rw [List.filter_cons_of_pos (by rw [answer])]
          simp only
          rw [ih _ kept, List.append_assoc, List.singleton_append]
      | false =>
          rw [List.filter_cons_of_neg (by simp [answer])]
          exact ih found kept

/-- The effective permissions are the known ones for which a check succeeds. -/
theorem mem_getEffectivePermissions (s : Service) (now : Int)
    (userID objectType objectID permission : String) :
    permission ∈ (s.getEffectivePermissions getAncestors now userID objectType objectID).1 ↔
      permission ∈ allPermissions ∧
        (s.hasPermission getAncestors now userID permission objectType objectID).1 = true := by
  rw [Service.getEffectivePermissions, collect_eq s now userID objectType objectID _ _ rfl,
    List.nil_append, List.mem_filter]

end Effective

section Main

variable (getAncestors : String → String → List ObjectRef) (objectType objectID : String)

/-- Checks are as specified iff the chain that the resolver makes has the root itself, or
nothing of the type of the root. -/
theorem resolves_iff_rooted :
    Resolves getAncestors objectType objectID ↔ Rooted getAncestors objectType objectID := by
  constructor
  · intro resolves
    have permitted : Permitted (getAncestors objectType objectID)
        ((holder ⟨objectRoot, ""⟩).getUserCache 0 "u").1.loaded "users.manage"
        ⟨objectType, objectID⟩ := by
      have loaded : ((holder ⟨objectRoot, ""⟩).getUserCache 0 "u").1.loaded = _ :=
        assignments_holder ⟨objectRoot, ""⟩
      rw [loaded]
      exact ⟨_, List.mem_singleton_self _,
        .inr ⟨rfl, List.mem_append_right _ (List.mem_singleton_self _)⟩, _, rfl,
        .inl (List.mem_singleton_self _)⟩
    have granted := (resolves.specified (holder ⟨objectRoot, ""⟩) 0 "u" "users.manage").mpr permitted
    have loaded : ((holder ⟨objectRoot, ""⟩).getUserCache 0 "u").1.loaded = _ :=
      assignments_holder ⟨objectRoot, ""⟩
    simp only [Service.hasPermission, loaded] at granted
    exact rooted_of_permitted granted
  · intro rooted
    refine ⟨?_, ?_, ?_⟩
    · intro s now userID permission
      exact grants_iff_permitted rooted
    · intro s s' now now' userID userID' permission grows granted
      exact grants_of_grows grows granted
    · intro s now userID permission
      exact mem_getEffectivePermissions s now userID objectType objectID permission

/-- Whatever the store and the inventory hold, the resolver of the program answers the root, so
checks are as specified on every object. -/
theorem StateResolver.resolves (r : StateResolver) :
    Resolves r.getAncestors objectType objectID := by
  have rooted : Rooted r.getAncestors objectType objectID :=
    .inl (List.mem_cons_of_mem _ (r.rooted objectType objectID))
  exact (resolves_iff_rooted r.getAncestors objectType objectID).mpr rooted

end Main

end Rbac
