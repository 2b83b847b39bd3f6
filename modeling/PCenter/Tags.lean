import Mathlib.Data.List.Nodup
import PCenter.Lib.MapOrder
import PCenter.Lib.Sql
import PCenter.Lib.Text
import PCenter.Lib.Transaction
import PCenter.Lib.Transition

/-!
# Tags

`internal/tags`: the two tables with their keys, the methods of `DB`, which hold its mutex and
so are atomic, and the calls of `Service`. A statement that breaks a key changes nothing, and
any statement may fail for a reason of its own. A bulk assignment is one transaction.
-/

namespace Tags

open GoText Procedure Transaction Transition

structure Tag where
  id : String
  category : String
  name : String
  color : String
  createdAt : Int
  deriving DecidableEq, Repr

structure TagAssignment where
  tagID : String
  objectType : String
  objectID : String
  cluster : String
  deriving DecidableEq, Repr

structure CreateTagRequest where
  category : String
  name : String
  color : String

structure UpdateTagRequest where
  category : String
  name : String
  color : String

structure ObjectRef where
  objectType : String
  objectID : String
  cluster : String
  deriving DecidableEq, Repr

structure BulkAssignRequest where
  tagIDs : List String
  objects : List ObjectRef

def defaultCategories : List String := ["Environment", "Owner", "Purpose", "Tier", "Application"]

/-- `DefaultColors[0]` -/
def defaultColor : String := "#3b82f6"

structure DB where
  tags : List Tag
  assignments : List TagAssignment

/-- What comes from outside: the id that a creation draws, the time, and what goes wrong. The
statement of a call that makes only one is `exec 0 0`. -/
structure Outside where
  uuid : String
  now : Int
  begun : Option String
  prepared : Option String
  exec : Nat → Nat → Option String
  committed : Option String

/-- The assignment of a tag to an object. -/
def ObjectRef.tagged (obj : ObjectRef) (tagID : String) : TagAssignment :=
  ⟨tagID, obj.objectType, obj.objectID, obj.cluster⟩

def TagAssignment.object (a : TagAssignment) : ObjectRef := ⟨a.objectType, a.objectID, a.cluster⟩

section Statements

/-- A statement with what goes wrong outside of it. -/
def execute (fault : Option String) (statement : DB → Except String DB) (db : DB) :
    Except String DB :=
  match fault with
  | some failure => .error failure
  | none => statement db

namespace DB

def empty : DB := ⟨[], []⟩

def getTag (id : String) (db : DB) : Option Tag := db.tags.find? (·.id = id)

/-- A tag of another id has the same category and name. -/
def clashes (t : Tag) (db : DB) : Bool :=
  db.tags.any fun u => u.id ≠ t.id && u.category = t.category && u.name = t.name

def insertTag (t : Tag) (db : DB) : Except String DB :=
  if db.clashes t then .error "UNIQUE constraint failed: tags.category, tags.name"
  else if (db.getTag t.id).isSome then .error "UNIQUE constraint failed: tags.id"
  else .ok { db with tags := db.tags ++ [t] }

/-- `COALESCE(NULLIF(value, ''), stored)` -/
def orStored (value stored : String) : String := if value = "" then stored else value

def changed (req : UpdateTagRequest) (t : Tag) : Tag :=
  { t with
    category := orStored req.category t.category
    name := orStored req.name t.name
    color := orStored req.color t.color }

/-- The `UPDATE`; without a row it does nothing. -/
def changeTag (id : String) (req : UpdateTagRequest) (db : DB) : Except String DB :=
  match db.getTag id with
  | none => .ok db
  | some t =>
      if db.clashes (changed req t) then
        .error "UNIQUE constraint failed: tags.category, tags.name"
      else .ok { db with tags := db.tags.map fun u => if u.id = id then changed req u else u }

/-- The assignments go with their tag. -/
def removeTag (id : String) (db : DB) : Except String DB :=
  .ok
    { tags := db.tags.filter (·.id ≠ id)
      assignments := db.assignments.filter (·.tagID ≠ id) }

/-- `INSERT OR IGNORE` passes over an assignment that is there; a missing tag is an error. -/
def insertAssignment (a : TagAssignment) (db : DB) : Except String DB :=
  if a ∈ db.assignments then .ok db
  else if (db.getTag a.tagID).isSome then
    .ok { db with assignments := db.assignments ++ [a] }
  else .error "FOREIGN KEY constraint failed"

def removeAssignment (a : TagAssignment) (db : DB) : Except String DB :=
  .ok { db with assignments := db.assignments.filter (· ≠ a) }

/-- `ORDER BY category, name` -/
def inOrder (t u : Tag) : Bool :=
  t.category < u.category || t.category = u.category && t.name ≤ u.name

def listTags (db : DB) : List Tag := db.tags.mergeSort inOrder

/-- `tags t JOIN tag_assignments ta ON t.id = ta.tag_id` -/
def getObjectTags (obj : ObjectRef) (db : DB) : List Tag :=
  (((db.tags.product db.assignments).filter fun p =>
    p.1.id = p.2.tagID && p.2.object = obj).map Prod.fst).mergeSort inOrder

end DB

end Statements

section Calls

abbrev Reply := Except String Unit

/-- One statement by itself, and the words for its failure. -/
def single (o : Outside) (words : String) (statement : DB → Except String DB) :
    Proc String DB Unit :=
  rename (words ++ ·) (commit (execute (o.exec 0 0) statement))

namespace DB

def createTag (o : Outside) (category name color : String) : Proc String DB Tag := do
  let t : Tag := ⟨o.uuid, category, name, color, o.now⟩
  single o "insert tag: " (insertTag t)
  pure t

def updateTag (o : Outside) (id : String) (req : UpdateTagRequest) : Proc String DB Unit := do
  let found ← read fun db => (db.getTag id).isSome
  single o "update tag: " (changeTag id req)
  if found then pure () else throw "tag not found"

def deleteTag (o : Outside) (id : String) : Proc String DB Unit := single o "" (removeTag id)

def assignTag (o : Outside) (a : TagAssignment) : Proc String DB Unit :=
  single o "" (insertAssignment a)

def unassignTag (o : Outside) (a : TagAssignment) : Proc String DB Unit :=
  single o "" (removeAssignment a)

/-- The work of a bulk assignment inside its transaction. -/
def assignAll (o : Outside) (req : BulkAssignRequest) : Proc String DB Unit := do
  orThrow (match o.prepared with
    | some failure => .error failure
    | none => .ok ())
  req.tagIDs.zipIdx.forM fun tag => req.objects.zipIdx.forM fun obj =>
    commit (execute (o.exec tag.2 obj.2) (insertAssignment (obj.1.tagged tag.1)))

/-- The connection has no transaction between two calls. -/
def bulkAssign (o : Outside) (req : BulkAssignRequest) : Proc String DB Unit := act fun db =>
  let ran := Procedure.exec (transact o.begun o.committed (assignAll o req)) (idle db)
  (ran.1, ran.2.tables)

end DB

def isHex (c : Char) : Bool := c.isDigit || ('a' ≤ c && c ≤ 'f') || ('A' ≤ c && c ≤ 'F')

/-- `^#[0-9a-fA-F]{6}$` -/
def validColor (color : String) : Bool :=
  match color.toList with
  | c :: digits => c = '#' && digits.length = 6 && digits.all isHex
  | [] => false

def validObjectTypes : List String := ["vm", "ct", "node", "storage"]

def validObjectType (objectType : String) : Bool := objectType ∈ validObjectTypes

def createTag (o : Outside) (req : CreateTagRequest) : Proc String DB Tag := do
  let name := trimSpace req.name
  let category := trimSpace req.category
  let color := if trimSpace req.color = "" then defaultColor else trimSpace req.color
  if name = "" then throw "name is required"
  else if validColor color = false then throw "color must be hex format (#rrggbb)"
  else DB.createTag o category name color

def updateTag (o : Outside) (id : String) (req : UpdateTagRequest) : Proc String DB Unit :=
  if req.color ≠ "" ∧ validColor req.color = false then
    throw "color must be hex format (#rrggbb)"
  else DB.updateTag o id req

def deleteTag (o : Outside) (id : String) : Proc String DB Unit := DB.deleteTag o id

def assignTag (o : Outside) (req : TagAssignment) : Proc String DB Unit :=
  if validObjectType req.objectType = false then
    throw ("invalid object_type: " ++ req.objectType ++ " (must be vm, ct, node, or storage)")
  else if req.objectID = "" then throw "object_id is required"
  else DB.assignTag o req

def unassignTag (o : Outside) (req : TagAssignment) : Proc String DB Unit := DB.unassignTag o req

def bulkAssign (o : Outside) (req : BulkAssignRequest) : Proc String DB Unit :=
  if req.tagIDs = [] then throw "tag_ids is required"
  else if req.objects = [] then throw "objects is required"
  else
    match req.objects.find? fun obj => validObjectType obj.objectType = false with
    | some obj => throw ("invalid object_type: " ++ obj.objectType)
    | none => DB.bulkAssign o req

/-- The default categories and those in use, in the order in which the map is met. -/
def getCategories (order : FiniteMap.Order String) (db : DB) : List String :=
  order.arrange
    (defaultCategories ++ (db.listTags.map Tag.category).filter (· ≠ "")).dedup

inductive Call where
  | createTag (req : CreateTagRequest)
  | updateTag (id : String) (req : UpdateTagRequest)
  | deleteTag (id : String)
  | assignTag (req : TagAssignment)
  | unassignTag (req : TagAssignment)
  | bulkAssign (req : BulkAssignRequest)

structure Event where
  call : Call
  outside : Outside

def Call.run (o : Outside) : Call → Proc String DB Unit
  | .createTag req => do
      let _ ← Tags.createTag o req
      pure ()
  | .updateTag id req => Tags.updateTag o id req
  | .deleteTag id => Tags.deleteTag o id
  | .assignTag req => Tags.assignTag o req
  | .unassignTag req => Tags.unassignTag o req
  | .bulkAssign req => Tags.bulkAssign o req

def answer (db : DB) (e : Event) : Reply := (exec (e.call.run e.outside) db).1

def step (db : DB) (e : Event) : DB := (exec (e.call.run e.outside) db).2

end Calls

section Invariant

/-- What the keys of the tables and the checks of the calls together guarantee. -/
structure WellFormed (db : DB) : Prop where
  ids : (db.tags.map Tag.id).Nodup
  names : (db.tags.map fun t => (t.category, t.name)).Nodup
  named : ∀ t ∈ db.tags, t.name ≠ ""
  colored : ∀ t ∈ db.tags, validColor t.color = true
  once : db.assignments.Nodup
  tagged : ∀ a ∈ db.assignments, a.tagID ∈ db.tags.map Tag.id
  typed : ∀ a ∈ db.assignments, validObjectType a.objectType = true

/-- The statements that the calls make, each with what was checked before it. -/
inductive Writes : DB → DB → Prop where
  | insertTag {db db' : DB} (t : Tag) (named : t.name ≠ "") (colored : validColor t.color = true)
      (done : DB.insertTag t db = .ok db') : Writes db db'
  | changeTag {db db' : DB} (id : String) (req : UpdateTagRequest)
      (colored : req.color = "" ∨ validColor req.color = true)
      (done : DB.changeTag id req db = .ok db') : Writes db db'
  | removeTag {db db' : DB} (id : String) (done : DB.removeTag id db = .ok db') : Writes db db'
  | insertAssignment {db db' : DB} (a : TagAssignment)
      (typed : validObjectType a.objectType = true)
      (done : DB.insertAssignment a db = .ok db') : Writes db db'
  | removeAssignment {db db' : DB} (a : TagAssignment)
      (done : DB.removeAssignment a db = .ok db') : Writes db db'

variable {db db' : DB} {o : Outside}

theorem isSome_getTag_iff {id : String} :
    (db.getTag id).isSome = true ↔ id ∈ db.tags.map Tag.id := by
  simp [DB.getTag, List.find?_isSome, List.mem_map]

theorem id_of_getTag {id : String} {t : Tag} (found : db.getTag id = some t) : t.id = id := by
  have test := List.find?_some found
  simpa using test

theorem clashes_iff {t : Tag} : db.clashes t = true ↔
    ∃ u ∈ db.tags, u.id ≠ t.id ∧ u.category = t.category ∧ u.name = t.name := by
  simp [DB.clashes, and_assoc]

theorem wellFormed_insertTag (wf : WellFormed db) {t : Tag} (named : t.name ≠ "")
    (colored : validColor t.color = true) (done : DB.insertTag t db = .ok db') :
    WellFormed db' := by
  rw [DB.insertTag] at done
  split_ifs at done with clash taken
  obtain rfl := Except.ok.inj done
  have fresh : t.id ∉ db.tags.map Tag.id := fun member => taken (isSome_getTag_iff.mpr member)
  have apart : (t.category, t.name) ∉ db.tags.map fun u => (u.category, u.name) := by
    intro member
    obtain ⟨u, listed, same⟩ := List.mem_map.mp member
    obtain ⟨category, name⟩ := Prod.mk.inj same
    apply clash
    refine clashes_iff.mpr ⟨u, listed, ?_, category, name⟩
    intro sameId
    exact fresh (List.mem_map.mpr ⟨u, listed, sameId⟩)
  have all {P : Tag → Prop} (old : ∀ u ∈ db.tags, P u) (new : P t) : ∀ u ∈ db.tags ++ [t], P u := by
    intro u member
    rcases List.mem_append.mp member with before | last
    · exact old u before
    · obtain rfl := List.mem_singleton.mp last
      exact new
  refine ⟨?_, ?_, all wf.named named, all wf.colored colored, wf.once, ?_, wf.typed⟩
  · rw [List.map_append]
    exact wf.ids.append (List.nodup_singleton _) (by simpa using fresh)
  · rw [List.map_append]
    exact wf.names.append (List.nodup_singleton _) (by simpa using apart)
  · intro a member
    rw [List.map_append]
    exact List.mem_append_left _ (wf.tagged a member)

theorem ids_changed (db : DB) (id : String) (req : UpdateTagRequest) :
    (db.tags.map fun u => if u.id = id then DB.changed req u else u).map Tag.id =
      db.tags.map Tag.id := by
  rw [List.map_map]
  apply List.map_congr_left
  intro u _
  by_cases here : u.id = id
  · rw [Function.comp_apply, if_pos here]
    rfl
  · rw [Function.comp_apply, if_neg here]

theorem orStored_ne {value stored : String} (kept : stored ≠ "") :
    DB.orStored value stored ≠ "" := by
  rw [DB.orStored]
  split_ifs with empty
  · exact kept
  · exact empty

theorem validColor_orStored {value stored : String}
    (valid : value = "" ∨ validColor value = true) (kept : validColor stored = true) :
    validColor (DB.orStored value stored) = true := by
  rw [DB.orStored]
  split_ifs with empty
  · exact kept
  · exact valid.resolve_left empty

theorem wellFormed_changeTag (wf : WellFormed db) {id : String} {req : UpdateTagRequest}
    (colored : req.color = "" ∨ validColor req.color = true)
    (done : DB.changeTag id req db = .ok db') : WellFormed db' := by
  rw [DB.changeTag] at done
  cases found : db.getTag id with
  | none =>
      rw [found] at done
      obtain rfl := Except.ok.inj done
      exact wf
  | some t =>
      rw [found] at done
      dsimp only at done
      split_ifs at done with clash
      obtain rfl := Except.ok.inj done
      have inside : t ∈ db.tags := List.mem_of_find?_eq_some found
      have same : t.id = id := id_of_getTag found
      have only : ∀ u ∈ db.tags, u.id = id → u = t := fun u listed here =>
        List.inj_on_of_nodup_map wf.ids listed inside (here.trans same.symm)
      have all {P : Tag → Prop} (old : ∀ u ∈ db.tags, P u)
          (new : ∀ u ∈ db.tags, P (DB.changed req u)) :
          ∀ u ∈ db.tags.map (fun u => if u.id = id then DB.changed req u else u), P u := by
        intro u member
        obtain ⟨v, listed, rfl⟩ := List.mem_map.mp member
        split_ifs
        · exact new v listed
        · exact old v listed
      have ids := ids_changed db id req
      refine ⟨ids.symm ▸ wf.ids, ?_, all wf.named fun u listed => orStored_ne (wf.named u listed),
        all wf.colored fun u listed => validColor_orStored colored (wf.colored u listed), wf.once,
        fun a member => ids.symm ▸ wf.tagged a member, wf.typed⟩
      -- the changed row clashes with every other one of its new name
      refine List.Nodup.map_on ?_ (List.Nodup.of_map Tag.id (ids.symm ▸ wf.ids))
      have apart : ∀ u ∈ db.tags, u.id ≠ id →
          ((DB.changed req t).category, (DB.changed req t).name) ≠ (u.category, u.name) := by
        intro u listed other equal
        obtain ⟨category, name⟩ := Prod.mk.inj equal
        exact clash (clashes_iff.mpr
          ⟨u, listed, fun h => other (h.trans same), category.symm, name.symm⟩)
      intro u listed v listed' equal
      obtain ⟨u, old, rfl⟩ := List.mem_map.mp listed
      obtain ⟨v, old', rfl⟩ := List.mem_map.mp listed'
      by_cases here : u.id = id
      · obtain rfl := only u old here
        by_cases there : v.id = id
        · rw [only v old' there]
        · rw [if_pos here, if_neg there] at equal
          exact absurd equal (apart v old' there)
      · by_cases there : v.id = id
        · obtain rfl := only v old' there
          rw [if_neg here, if_pos there] at equal
          exact absurd equal.symm (apart u old here)
        · rw [if_neg here, if_neg there] at equal ⊢
          exact List.inj_on_of_nodup_map wf.names old old' equal

theorem wellFormed_removeTag (wf : WellFormed db) {id : String}
    (done : DB.removeTag id db = .ok db') : WellFormed db' := by
  obtain rfl := Except.ok.inj done
  have fewer : (db.tags.filter (·.id ≠ id)).Sublist db.tags := List.filter_sublist
  refine ⟨wf.ids.sublist (fewer.map _), wf.names.sublist (fewer.map _),
    fun t member => wf.named t (List.mem_of_mem_filter member),
    fun t member => wf.colored t (List.mem_of_mem_filter member), wf.once.filter _, ?_,
    fun a member => wf.typed a (List.mem_of_mem_filter member)⟩
  intro a member
  obtain ⟨inside, other⟩ := List.mem_filter.mp member
  obtain ⟨t, listed, same⟩ := List.mem_map.mp (wf.tagged a inside)
  refine List.mem_map.mpr ⟨t, List.mem_filter.mpr ⟨listed, ?_⟩, same⟩
  rwa [same]

theorem wellFormed_insertAssignment (wf : WellFormed db) {a : TagAssignment}
    (typed : validObjectType a.objectType = true)
    (done : DB.insertAssignment a db = .ok db') : WellFormed db' := by
  rw [DB.insertAssignment] at done
  split_ifs at done with there tag
  · obtain rfl := Except.ok.inj done
    exact wf
  · obtain rfl := Except.ok.inj done
    have all {P : TagAssignment → Prop} (old : ∀ b ∈ db.assignments, P b) (new : P a) :
        ∀ b ∈ db.assignments ++ [a], P b := by
      intro b member
      rcases List.mem_append.mp member with before | last
      · exact old b before
      · obtain rfl := List.mem_singleton.mp last
        exact new
    exact ⟨wf.ids, wf.names, wf.named, wf.colored,
      wf.once.append (List.nodup_singleton _) (by simpa using there),
      all wf.tagged (isSome_getTag_iff.mp tag), all wf.typed typed⟩

theorem wellFormed_removeAssignment (wf : WellFormed db) {a : TagAssignment}
    (done : DB.removeAssignment a db = .ok db') : WellFormed db' := by
  obtain rfl := Except.ok.inj done
  exact ⟨wf.ids, wf.names, wf.named, wf.colored, wf.once.filter _,
    fun b member => wf.tagged b (List.mem_of_mem_filter member),
    fun b member => wf.typed b (List.mem_of_mem_filter member)⟩

theorem Writes.wellFormed (writes : Writes db db') (wf : WellFormed db) : WellFormed db' := by
  cases writes with
  | insertTag t named colored done => exact wellFormed_insertTag wf named colored done
  | changeTag id req colored done => exact wellFormed_changeTag wf colored done
  | removeTag id done => exact wellFormed_removeTag wf done
  | insertAssignment a typed done => exact wellFormed_insertAssignment wf typed done
  | removeAssignment a done => exact wellFormed_removeAssignment wf done

theorem ok_of_execute {fault : Option String} {statement : DB → Except String DB}
    (done : execute fault statement db = .ok db') : statement db = .ok db' := by
  cases fault with
  | none => exact done
  | some failure => cases done

theorem chains_single {words : String} {statement : DB → Except String DB}
    (writes : ∀ db db', statement db = .ok db' → Writes db db') :
    Chains Writes (single o words statement) :=
  chains_rename (chains_commit fun db db' done => writes db db' (ok_of_execute done))

theorem chains_createTag (req : CreateTagRequest) : Chains Writes (createTag o req) := by
  rw [createTag]
  generalize (if trimSpace req.color = "" then defaultColor else trimSpace req.color) = color
  split_ifs with empty bad
  · exact chains_throw _
  · exact chains_throw _
  · refine chains_bind (chains_single fun db db' done => ?_) fun _ => chains_pure _
    exact .insertTag _ empty (by simpa using bad) done

theorem chains_updateTag (id : String) (req : UpdateTagRequest) :
    Chains Writes (updateTag o id req) := by
  rw [updateTag]
  split_ifs with bad
  · exact chains_throw _
  · apply chains_read_bind
    intro found
    refine chains_bind (chains_single fun db db' done => ?_) fun _ => ?_
    · refine .changeTag id req ?_ done
      by_cases empty : req.color = ""
      · exact .inl empty
      · exact .inr (by simpa [empty] using bad)
    · exact chains_ite (chains_pure _) (chains_throw _)

theorem chains_assignTag (req : TagAssignment) : Chains Writes (assignTag o req) := by
  rw [assignTag]
  split_ifs with bad
  · exact chains_throw _
  · exact chains_throw _
  · exact chains_single fun db db' done => .insertAssignment req (by simpa using bad) done

theorem chains_forM {A : Type} {l : List A} {f : A → Proc String DB Unit}
    (turn : ∀ a ∈ l, Chains Writes (f a)) : Chains Writes (l.forM f) := by
  induction l with
  | nil => exact chains_pure _
  | cons a rest ih =>
      exact chains_bind (turn a List.mem_cons_self) fun _ =>
        ih fun b member => turn b (List.mem_cons_of_mem _ member)

theorem chains_assignAll {req : BulkAssignRequest}
    (typed : ∀ obj ∈ req.objects, validObjectType obj.objectType = true) :
    Chains Writes (DB.assignAll o req) := by
  apply chains_orThrow_bind
  intro _
  refine chains_forM fun tag _ => chains_forM fun obj member => ?_
  have valid := typed obj.1 (List.fst_mem_of_mem_zipIdx member)
  exact chains_commit fun db db' done => .insertAssignment _ valid (ok_of_execute done)

/-- A bulk assignment leaves what its work leaves, or everything as it was. -/
theorem bulkAssign_cases (o : Outside) (req : BulkAssignRequest) (db : DB) :
    (∃ failure, exec (DB.bulkAssign o req) db = (.error failure, db)) ∨
      ∃ db', Yields (DB.assignAll o req) db () db' ∧
        exec (DB.bulkAssign o req) db = (.ok (), db') := by
  rcases atomic o.begun o.committed (DB.assignAll o req) db with ⟨failure, ran⟩ | ⟨_, t, done, ran⟩
  · refine .inl ⟨failure, ?_⟩
    change ((exec (transact _ _ _) (idle db)).1, (exec (transact _ _ _) (idle db)).2.tables) = _
    rw [ran]
    rfl
  · refine .inr ⟨t, done, ?_⟩
    change ((exec (transact _ _ _) (idle db)).1, (exec (transact _ _ _) (idle db)).2.tables) = _
    rw [ran]
    rfl

theorem chains_bulkAssign (req : BulkAssignRequest) : Chains Writes (bulkAssign o req) := by
  rw [bulkAssign]
  split_ifs
  · exact chains_throw _
  · exact chains_throw _
  · cases odd : req.objects.find? fun obj => validObjectType obj.objectType = false with
    | some obj => exact chains_throw _
    | none =>
        have typed : ∀ obj ∈ req.objects, validObjectType obj.objectType = true := by
          simpa using List.find?_eq_none.mp odd
        intro db
        rcases bulkAssign_cases o req db with ⟨failure, ran⟩ | ⟨t, done, ran⟩
        · rw [ran]
        · rw [ran]
          have chain := chains_assignAll (o := o) typed db
          rwa [done] at chain

theorem chains_run (call : Call) : Chains Writes (call.run o) := by
  cases call with
  | createTag req => exact chains_bind (chains_createTag req) fun _ => chains_pure _
  | updateTag id req => exact chains_updateTag id req
  | deleteTag id => exact chains_single fun db db' done => .removeTag id done
  | assignTag req => exact chains_assignTag req
  | unassignTag req => exact chains_single fun db db' done => .removeAssignment req done
  | bulkAssign req => exact chains_bulkAssign req

theorem wellFormed_empty : WellFormed DB.empty :=
  ⟨List.nodup_nil, List.nodup_nil, by simp [DB.empty], by simp [DB.empty], List.nodup_nil,
    by simp [DB.empty], by simp [DB.empty]⟩

theorem wellFormed_step (db : DB) (e : Event) (wf : WellFormed db) : WellFormed (step db e) :=
  (chains_run e.call).keeps (fun _ _ writes => writes.wellFormed) wf

/-- Whatever is called and whatever goes wrong, the tables stay well formed. -/
theorem wellFormed_states (es : List Event) : ∀ db ∈ states step DB.empty es, WellFormed db :=
  invariant_states wellFormed_step wellFormed_empty

/-- A tag that is asked for again under another id. -/
def create (uuid : String) : Event :=
  ⟨.createTag ⟨"Environment", "Production", "#dc2626"⟩,
    ⟨uuid, 100, none, none, fun _ _ => none, none⟩⟩

theorem wellFormed_states_again :
    WellFormed ([create "t1", create "t2"].foldl step DB.empty) :=
  wellFormed_states [create "t1", create "t2"] _ (last_mem_states _ _)

end Invariant

end Tags
