import PCenter.Lib.FiniteMap
import PCenter.Lib.Forest
import PCenter.Lib.Transition

/-!
# Folders

`internal/folders`: the two tables, the methods of `DB`, which hold its mutex and so are
atomic, and the calls of `Service`, each of which makes one method call after another. The
tables enforce their keys, so a statement that breaks one fails and changes nothing, and
deleting a folder deletes what is below it.
-/

namespace Folders

open Forest Transition

inductive TreeView where
  | hosts
  | vms
  | other (name : String)
  deriving DecidableEq, Repr

/-- A row of `folders` under its id. -/
structure Folder where
  name : String
  parentID : Option String
  treeView : TreeView
  cluster : Option String
  sortOrder : Int
  createdAt : Int
  updatedAt : Int
  deriving DecidableEq, Repr

structure Resource where
  resourceType : String
  resourceID : String
  cluster : String
  deriving DecidableEq, Repr

/-- A row of `folder_members`. -/
structure FolderMember where
  folderID : String
  resource : Resource
  addedAt : Int
  deriving DecidableEq, Repr

structure DB where
  folders : FiniteMap.Map String Folder
  members : List FolderMember

structure CreateFolderRequest where
  name : String
  parentID : Option String
  treeView : TreeView
  cluster : Option String

/-- What comes from outside: the id that a creation draws, and the time. -/
structure Outside where
  uuid : String
  now : Int

abbrev Reply := Except String Unit

namespace DB

def empty : DB := ⟨∅, []⟩

def getFolder (id : String) (db : DB) : Option Folder := db.folders.lookup id

def parent (db : DB) (id : String) : Option String := (db.getFolder id).bind (·.parentID)

/-- Another row has the same parent, name and view; rows without a parent never clash. -/
def clashes (id : String) (f : Folder) (db : DB) : Bool :=
  f.parentID.isSome && db.folders.entries.any fun row =>
    row.1 ≠ id && row.2.parentID = f.parentID && row.2.name = f.name &&
      row.2.treeView = f.treeView

def hasParent (id : String) (f : Folder) (db : DB) : Bool :=
  f.parentID.all fun p => p = id || (db.getFolder p).isSome

/-- Writes a row if the table's keys allow it. -/
def store (statement id : String) (f : Folder) (db : DB) : Reply × DB :=
  if db.clashes id f then
    (.error (statement ++ ": UNIQUE constraint failed: folders.parent_id, folders.name, " ++
      "folders.tree_view"), db)
  else if db.hasParent id f = false then
    (.error (statement ++ ": FOREIGN KEY constraint failed"), db)
  else (.ok (), { db with folders := db.folders.insert id f })

def createFolder (o : Outside) (req : CreateFolderRequest) (db : DB) : Reply × DB :=
  if (db.getFolder o.uuid).isSome then
    (.error "insert folder: UNIQUE constraint failed: folders.id", db)
  else
    db.store "insert folder" o.uuid ⟨req.name, req.parentID, req.treeView, req.cluster, 0, o.now, o.now⟩

def updateFolder (o : Outside) (id : String) (change : Folder → Folder) (db : DB) : Reply × DB :=
  match db.getFolder id with
  | none => (.error "get folder: sql: no rows in result set", db)
  | some f => db.store "update folder" id { change f with updatedAt := o.now }

def renameFolder (o : Outside) (id newName : String) (db : DB) : Reply × DB :=
  db.updateFolder o id fun f => { f with name := newName }

def moveFolder (o : Outside) (id : String) (newParentID : Option String) (db : DB) : Reply × DB :=
  db.updateFolder o id fun f => { f with parentID := newParentID }

/-- The folder and all that the deletion cascades to. -/
def doomed (id : String) (db : DB) : List String :=
  subtree db.parent db.folders.keys.length db.folders.keys [id]

def deleteFolder (id : String) (db : DB) : Reply × DB :=
  match db.getFolder id with
  | none => (.ok (), db)
  | some _ =>
      (.ok (),
        { folders := FiniteMap.select (fun k _ => k ∉ db.doomed id) db.folders
          members := db.members.filter fun m => m.folderID ∉ db.doomed id })

def insertMember (o : Outside) (folderID : String) (resource : Resource) (db : DB) : Reply × DB :=
  if (db.getFolder folderID).isSome then
    (.ok (),
      { db with
        members :=
          db.members.filter (fun m => ¬(m.folderID = folderID ∧ m.resource = resource)) ++
            [⟨folderID, resource, o.now⟩] })
  else (.error "insert member: FOREIGN KEY constraint failed", db)

def addMember (o : Outside) (folderID : String) (resource : Resource) (db : DB) : Reply × DB :=
  db.insertMember o folderID resource

def removeMember (folderID : String) (resource : Resource) (db : DB) : Reply × DB :=
  (.ok (),
    { db with members := db.members.filter fun m => ¬(m.folderID = folderID ∧ m.resource = resource) })

/-- The folder is one of a view. -/
def inView (treeView : TreeView) (id : String) (db : DB) : Bool :=
  (db.getFolder id).any (·.treeView = treeView)

/-- The folders that have the resource as a member, in one view. -/
def foldersOf (treeView : TreeView) (resource : Resource) (db : DB) : List String :=
  (db.members.filter fun m => m.resource = resource && db.inView treeView m.folderID).map
    (·.folderID)

def getResourceFolder (treeView : TreeView) (resource : Resource) (db : DB) : Option String :=
  (db.foldersOf treeView resource).head?

def clearResource (treeView : TreeView) (resource : Resource) (db : DB) : DB :=
  { db with
    members := db.members.filter fun m => !(m.resource = resource && db.inView treeView m.folderID) }

def moveResource (o : Outside) (treeView : TreeView) (resource : Resource)
    (toFolderID : Option String) (db : DB) : Reply × DB :=
  match toFolderID with
  | none => (.ok (), db.clearResource treeView resource)
  | some folderID => (db.clearResource treeView resource).insertMember o folderID resource

end DB

inductive Call where
  | createFolder (req : CreateFolderRequest)
  | renameFolder (id newName : String)
  | moveFolder (id : String) (newParentID : Option String)
  | deleteFolder (id : String)
  | addMember (folderID : String) (resource : Resource)
  | removeMember (folderID : String) (resource : Resource)
  | moveResource (resource : Resource) (treeView : TreeView) (toFolderID : Option String)

/-- How far a call has come: what it knows, and which method it calls next. -/
inductive Phase where
  | called (call : Call)
  | creating (req : CreateFolderRequest)
  | naming (id newName : String)
  | checking (id newParentID : String) (treeView : TreeView)
  /- `isDescendant` has come to a folder above the new parent. -/
  | climbing (id newParentID current : String)
  | moving (id : String) (newParentID : Option String)
  | deleting (id : String)
  | adding (folderID : String) (resource : Resource)
  | relocating (resource : Resource) (treeView : TreeView) (toFolderID : Option String)
  | returned (reply : Reply)

def fails (message : String) (db : DB) : Phase × DB := (.returned (.error message), db)

def returns (answer : Reply × DB) : Phase × DB := (.returned answer.1, answer.2)

def validResourceType (resource : Resource) : Bool :=
  resource.resourceType ∈ ["vm", "ct", "node", "storage"]

def invalidResourceType : String := "invalid resource_type: must be vm, ct, node, or storage"

/-- A call up to the first method call, or without one as far as it can say no. -/
def begin (o : Outside) (db : DB) : Call → Phase × DB
  | .createFolder req =>
      if req.treeView ≠ .hosts ∧ req.treeView ≠ .vms then
        fails "invalid tree_view: must be 'hosts' or 'vms'" db
      else if req.name = "" then fails "name is required" db
      else
        match req.parentID with
        | none => (.creating req, db)
        | some p =>
            match db.getFolder p with
            | none => fails "parent folder not found" db
            | some parent =>
                if parent.treeView ≠ req.treeView then
                  fails "parent folder is in different tree view" db
                else (.creating req, db)
  | .renameFolder id newName =>
      if newName = "" then fails "name is required" db
      else if (db.getFolder id).isSome then (.naming id newName, db)
      else fails "folder not found" db
  | .moveFolder id newParentID =>
      match db.getFolder id with
      | none => fails "folder not found" db
      | some folder =>
          match newParentID with
          | none => (.moving id none, db)
          | some p =>
              if p = id then fails "cannot move folder into itself" db
              else (.checking id p folder.treeView, db)
  | .deleteFolder id =>
      if (db.getFolder id).isSome then (.deleting id, db) else fails "folder not found" db
  | .addMember folderID resource =>
      if (db.getFolder folderID).isSome then
        if validResourceType resource then (.adding folderID resource, db)
        else fails invalidResourceType db
      else fails "folder not found" db
  | .removeMember folderID resource => returns (db.removeMember folderID resource)
  | .moveResource resource treeView toFolderID =>
      if validResourceType resource then
        match toFolderID with
        | none => returns (db.moveResource o treeView resource none)
        | some folderID =>
            match db.getFolder folderID with
            | none => fails "target folder not found" db
            | some folder =>
                if folder.treeView ≠ treeView then
                  fails "target folder is in different tree view" db
                else (.relocating resource treeView (some folderID), db)
      else fails invalidResourceType db

def next (o : Outside) (db : DB) : Phase → Phase × DB
  | .called call => begin o db call
  | .creating req => returns (db.createFolder o req)
  | .naming id newName => returns (db.renameFolder o id newName)
  | .checking id newParentID treeView =>
      match db.getFolder newParentID with
      | none => fails "parent folder not found" db
      | some parent =>
          if parent.treeView ≠ treeView then fails "cannot move folder to different tree view" db
          else (.climbing id newParentID newParentID, db)
  | .climbing id newParentID current =>
      match db.parent current with
      | none => (.moving id (some newParentID), db)
      | some p =>
          if p = id then fails "cannot move folder into its own descendant" db
          else (.climbing id newParentID p, db)
  | .moving id newParentID => returns (db.moveFolder o id newParentID)
  | .deleting id => returns (db.deleteFolder id)
  | .adding folderID resource => returns (db.addMember o folderID resource)
  | .relocating resource treeView toFolderID =>
      returns (db.moveResource o treeView resource toFolderID)
  | .returned reply => (.returned reply, db)

/-- `isDescendant` on a table that nobody changes, as far as the fuel goes. -/
def isDescendant (db : DB) : Nat → String → String → Option Bool
  | 0, _, _ => none
  | n + 1, potentialDescendant, ancestorID =>
      match db.getFolder potentialDescendant with
      | none => some false
      | some folder =>
          match folder.parentID with
          | none => some false
          | some p => if p = ancestorID then some true else isDescendant db n p ancestorID

/-- A call that nobody disturbs, as far as the fuel goes. -/
def finish (o : Outside) : Nat → DB → Phase → Option (Reply × DB)
  | _, db, .returned reply => some (reply, db)
  | 0, _, _ => none
  | n + 1, db, phase => finish o n (next o db phase).2 (next o db phase).1

structure Event where
  call : Call
  outside : Outside

/-- As many steps as there are folders, and four more. -/
def DB.fuel (db : DB) : Nat := db.folders.keys.length + 4

/-- The table after a call; `finish_call` says that the fuel is enough. -/
def step (db : DB) (e : Event) : DB :=
  ((finish e.outside db.fuel db (.called e.call)).map Prod.snd).getD db

def run (es : List Event) : DB := es.foldl step DB.empty

section Table

variable {db : DB} {id : String} {f : Folder}

theorem parent_of_getFolder (found : db.getFolder id = some f) : db.parent id = f.parentID := by
  rw [DB.parent, found]
  rfl

theorem parent_of_missing (missing : db.getFolder id = none) : db.parent id = none := by
  rw [DB.parent, missing]
  rfl

theorem parent_eq_some_iff {p : String} :
    db.parent id = some p ↔ ∃ f, db.getFolder id = some f ∧ f.parentID = some p :=
  Option.bind_eq_some_iff

theorem mem_keys_of_getFolder (found : db.getFolder id = some f) : id ∈ db.folders.keys :=
  AList.mem_keys.mp (AList.lookup_isSome.mp (Option.isSome_of_eq_some found))

/-- The table with a row written. -/
def DB.put (id : String) (f : Folder) (db : DB) : DB :=
  { db with folders := db.folders.insert id f }

theorem getFolder_put (k : String) :
    (db.put id f).getFolder k = if k = id then some f else db.getFolder k :=
  FiniteMap.lookup_insert_eq db.folders id k f

theorem parent_put : (db.put id f).parent = Function.update db.parent id f.parentID := by
  funext k
  rw [DB.parent, getFolder_put]
  by_cases same : k = id
  · rw [same, if_pos rfl, Function.update_self]
    rfl
  · rw [if_neg same, Function.update_of_ne same]
    rfl

theorem store_cases (statement : String) (db : DB) (id : String) (f : Folder) :
    (db.store statement id f).2 = db ∨
      (db.hasParent id f = true ∧ db.store statement id f = (.ok (), db.put id f)) := by
  unfold DB.store
  by_cases clash : db.clashes id f = true
  · rw [if_pos clash]
    exact .inl rfl
  · rw [if_neg clash]
    cases known : db.hasParent id f with
    | false => exact .inl rfl
    | true => exact .inr ⟨rfl, rfl⟩

theorem updateFolder_cases (o : Outside) (id : String) (change : Folder → Folder) (db : DB) :
    (db.updateFolder o id change).2 = db ∨ ∃ f, db.getFolder id = some f ∧
      db.hasParent id { change f with updatedAt := o.now } = true ∧
      db.updateFolder o id change = (.ok (), db.put id { change f with updatedAt := o.now }) := by
  rw [DB.updateFolder]
  cases found : db.getFolder id with
  | none => exact .inl rfl
  | some f =>
      rcases store_cases "update folder" db id { change f with updatedAt := o.now } with
        same | ⟨known, wrote⟩
      · exact .inl same
      · exact .inr ⟨f, rfl, known, wrote⟩

theorem exists_parent_of_hasParent {p : String} (known : db.hasParent id f = true)
    (child : f.parentID = some p) (other : p ≠ id) : ∃ g, db.getFolder p = some g := by
  rw [DB.hasParent, child] at known
  have there : p = id ∨ (db.getFolder p).isSome = true := by simpa using known
  exact Option.isSome_iff_exists.mp (there.resolve_left other)

theorem isDescendant_eq (db : DB) (n : Nat) (x a : String) :
    isDescendant db n x a = isBelow db.parent n x a := by
  induction n generalizing x with
  | zero => rfl
  | succ n ih =>
      cases found : db.getFolder x with
      | none =>
          rw [isBelow_root n (parent_of_missing found), isDescendant, found]
      | some folder =>
          cases root : folder.parentID with
          | none =>
              rw [isBelow_root n ((parent_of_getFolder found).trans root)]
              simp only [isDescendant, found, root]
          | some p =>
              rw [isBelow_child n ((parent_of_getFolder found).trans root), ← ih]
              simp only [isDescendant, found, root]

end Table

section WellFormed

/-- Going up from a folder comes to a root, and stays in the view. -/
structure WellFormed (db : DB) : Prop where
  rooted : Rooted db.parent
  parents : ∀ id f p, db.getFolder id = some f → f.parentID = some p →
    ∃ g, db.getFolder p = some g ∧ g.treeView = f.treeView

def SameView (db : DB) (a b : String) : Prop :=
  ∀ f g, db.getFolder a = some f → db.getFolder b = some g → f.treeView = g.treeView

variable {db : DB} {id : String} {f : Folder}

theorem wellFormed_empty : WellFormed DB.empty :=
  ⟨⟨fun _ => ⟨_, fun _ edge => nomatch edge⟩⟩, fun _ _ _ found => nomatch found⟩

theorem exists_of_ancestor (wf : WellFormed db) {a x : String} (ancestor : Ancestor db.parent a x) :
    ∃ f, db.getFolder a = some f := by
  obtain ⟨c, edge, _⟩ := Relation.TransGen.head'_iff.mp ancestor
  obtain ⟨f, found, child⟩ := parent_eq_some_iff.mp edge
  obtain ⟨g, there, _⟩ := wf.parents c f a found child
  exact ⟨g, there⟩

/-- A row may be written if its parent is another folder of its view and not below it. -/
theorem wellFormed_put (wf : WellFormed db)
    (view : ∀ old, db.getFolder id = some old → old.treeView = f.treeView)
    (free : ∀ p, f.parentID = some p → p ≠ id ∧ ¬Ancestor db.parent id p ∧
      ∃ g, db.getFolder p = some g ∧ g.treeView = f.treeView) : WellFormed (db.put id f) := by
  constructor
  · rw [parent_put]
    apply wf.rooted.update
    intro p child
    exact ⟨(free p child).1, (free p child).2.1⟩
  · intro k h p found child
    have old : ∀ g, db.getFolder p = some g → g.treeView = h.treeView →
        ∃ g', (db.put id f).getFolder p = some g' ∧ g'.treeView = h.treeView := by
      intro g there same
      by_cases top : p = id
      · subst top
        exact ⟨f, by rw [getFolder_put, if_pos rfl], (view g there).symm.trans same⟩
      · exact ⟨g, by rw [getFolder_put, if_neg top]; exact there, same⟩
    rw [getFolder_put] at found
    by_cases new : k = id
    · rw [if_pos new] at found
      obtain rfl := Option.some.inj found
      obtain ⟨_, _, g, there, same⟩ := free p child
      exact old g there same
    · rw [if_neg new] at found
      obtain ⟨g, there, same⟩ := wf.parents k h p found child
      exact old g there same

/-- Some rows are gone, and with each of them the rows below it. -/
structure Pruned (db db' : DB) : Prop where
  kept : ∀ k f, db'.getFolder k = some f → db.getFolder k = some f
  closed : ∀ k f p g, db'.getFolder k = some f → f.parentID = some p →
    db.getFolder p = some g → db'.getFolder p = some g

theorem getFolder_delete {old : Folder} (found : db.getFolder id = some old) (k : String) :
    (db.deleteFolder id).2.getFolder k =
      (db.getFolder k).filter fun _ => decide (k ∉ db.doomed id) := by
  rw [DB.deleteFolder, found]
  exact FiniteMap.lookup_select (fun k _ => decide (k ∉ db.doomed id)) db.folders k

theorem pruned_refl (db : DB) : Pruned db db := ⟨fun _ _ found => found, fun _ _ _ _ _ _ there => there⟩

theorem pruned_delete (db : DB) (id : String) : Pruned db (db.deleteFolder id).2 := by
  cases found : db.getFolder id with
  | none =>
      rw [DB.deleteFolder, found]
      exact pruned_refl db
  | some old =>
      have kept : ∀ k f, (db.deleteFolder id).2.getFolder k = some f ↔
          db.getFolder k = some f ∧ k ∉ db.doomed id := by
        intro k f
        rw [getFolder_delete found, Option.filter_eq_some_iff, decide_eq_true_iff]
      constructor
      · intro k f here
        exact ((kept k f).mp here).1
      · intro k f p g here child there
        obtain ⟨row, stays⟩ := (kept k f).mp here
        refine (kept p g).mpr ⟨there, ?_⟩
        intro gone
        exact stays (mem_subtree_of_parent le_rfl (mem_keys_of_getFolder row)
          ((parent_of_getFolder row).trans child) gone)

variable {db' : DB}

theorem Pruned.parent (pruned : Pruned db db') (c p : String) (edge : db'.parent c = some p) :
    db.parent c = some p := by
  obtain ⟨f, found, child⟩ := parent_eq_some_iff.mp edge
  exact parent_eq_some_iff.mpr ⟨f, pruned.kept c f found, child⟩

theorem wellFormed_pruned (wf : WellFormed db) (pruned : Pruned db db') : WellFormed db' := by
  constructor
  · exact wf.rooted.mono pruned.parent
  · intro k f p found child
    obtain ⟨g, there, same⟩ := wf.parents k f p (pruned.kept k f found) child
    exact ⟨g, pruned.closed k f p g found child there, same⟩

end WellFormed

section Calls

/-- What a call that is about to write has made sure of. -/
def Safe (db : DB) : Phase → Prop
  | .creating req => ∀ p, req.parentID = some p →
      ∃ g, db.getFolder p = some g ∧ g.treeView = req.treeView
  | .checking id p treeView => p ≠ id ∧ ∀ f, db.getFolder id = some f → f.treeView = treeView
  | .climbing id p current => p ≠ id ∧ SameView db id p ∧
      (Ancestor db.parent id p →
        (current = p ∨ Ancestor db.parent current p) ∧ Ancestor db.parent id current)
  | .moving id (some p) => p ≠ id ∧ SameView db id p ∧ ¬Ancestor db.parent id p
  | _ => True

variable {db : DB} {o : Outside}

def Phase.begun : Phase → Bool
  | .called _ => false
  | _ => true

theorem safe_begin (o : Outside) (db : DB) (call : Call) : Safe db (begin o db call).1 ∧
    (begin o db call).2.folders = db.folders ∧ (begin o db call).1.begun = true := by
  cases call with
  | createFolder req =>
      rw [begin]
      split_ifs with view name
      · exact ⟨trivial, rfl, rfl⟩
      · exact ⟨trivial, rfl, rfl⟩
      · cases parent : req.parentID with
        | none => exact ⟨fun p child => absurd (parent.symm.trans child) nofun, rfl, rfl⟩
        | some p =>
            cases found : db.getFolder p with
            | none =>
                simp only [found]
                exact ⟨trivial, rfl, rfl⟩
            | some g =>
                simp only [found]
                split_ifs with other
                · exact ⟨trivial, rfl, rfl⟩
                · refine ⟨?_, rfl, rfl⟩
                  intro q child
                  obtain rfl := Option.some.inj (parent.symm.trans child)
                  exact ⟨g, found, not_not.mp other⟩
  | renameFolder id newName =>
      rw [begin]
      split_ifs <;> exact ⟨trivial, rfl, rfl⟩
  | moveFolder id newParentID =>
      rw [begin]
      cases found : db.getFolder id with
      | none => exact ⟨trivial, rfl, rfl⟩
      | some folder =>
          cases newParentID with
          | none => exact ⟨trivial, rfl, rfl⟩
          | some p =>
              dsimp only
              split_ifs with same
              · exact ⟨trivial, rfl, rfl⟩
              · refine ⟨⟨same, ?_⟩, rfl, rfl⟩
                intro f here
                obtain rfl := Option.some.inj (found.symm.trans here)
                rfl
  | deleteFolder id =>
      rw [begin]
      split_ifs <;> exact ⟨trivial, rfl, rfl⟩
  | addMember folderID resource =>
      rw [begin]
      split_ifs <;> exact ⟨trivial, rfl, rfl⟩
  | removeMember folderID resource => exact ⟨trivial, rfl, rfl⟩
  | moveResource resource treeView toFolderID =>
      cases toFolderID with
      | none =>
          simp only [begin]
          split_ifs <;> exact ⟨trivial, rfl, rfl⟩
      | some folderID =>
          cases found : db.getFolder folderID with
          | none =>
              simp only [begin, found]
              split_ifs <;> exact ⟨trivial, rfl, rfl⟩
          | some folder =>
              simp only [begin, found]
              split_ifs <;> exact ⟨trivial, rfl, rfl⟩

theorem safe_congr {db' : DB} (same : db'.folders = db.folders) (phase : Phase) :
    Safe db' phase ↔ Safe db phase := by
  obtain ⟨folders, members⟩ := db
  obtain ⟨folders', members'⟩ := db'
  obtain rfl : folders' = folders := same
  cases phase with
  | moving id newParentID => cases newParentID <;> exact Iff.rfl
  | _ => exact Iff.rfl

theorem wellFormed_congr {db' : DB} (same : db'.folders = db.folders) (wf : WellFormed db) :
    WellFormed db' := by
  obtain ⟨folders, members⟩ := db
  obtain ⟨folders', members'⟩ := db'
  obtain rfl : folders' = folders := same
  exact ⟨wf.rooted, wf.parents⟩

theorem wellFormed_create (wf : WellFormed db) {req : CreateFolderRequest}
    (safe : Safe db (.creating req)) : WellFormed (db.createFolder o req).2 := by
  rw [DB.createFolder]
  by_cases taken : (db.getFolder o.uuid).isSome = true
  · rw [if_pos taken]
    exact wf
  · rw [if_neg taken]
    have fresh : ∀ f, db.getFolder o.uuid ≠ some f := by
      intro f found
      exact taken (Option.isSome_of_eq_some found)
    rcases store_cases "insert folder" db o.uuid
      ⟨req.name, req.parentID, req.treeView, req.cluster, 0, o.now, o.now⟩ with same | ⟨_, wrote⟩
    · rw [same]
      exact wf
    · rw [wrote]
      apply wellFormed_put wf
      · exact fun old found => absurd found (fresh old)
      · intro p child
        obtain ⟨g, found, view⟩ := safe p child
        refine ⟨?_, ?_, g, found, view⟩
        · rintro rfl
          exact fresh g found
        · intro above
          obtain ⟨f, there⟩ := exists_of_ancestor wf above
          exact fresh f there

theorem wellFormed_rename (wf : WellFormed db) (id newName : String) :
    WellFormed (db.renameFolder o id newName).2 := by
  rcases updateFolder_cases o id (fun f => { f with name := newName }) db with
    same | ⟨f, found, _, wrote⟩
  · rw [DB.renameFolder, same]
    exact wf
  · rw [DB.renameFolder, wrote]
    apply wellFormed_put wf
    · intro old here
      obtain rfl := Option.some.inj (found.symm.trans here)
      rfl
    · intro p child
      have edge : db.parent id = some p := (parent_of_getFolder found).trans child
      refine ⟨?_, ?_, wf.parents id f p found child⟩
      · rintro rfl
        exact wf.rooted.irrefl p (ancestor_of_parent edge)
      · intro above
        exact wf.rooted.irrefl id (above.below edge)

theorem wellFormed_move (wf : WellFormed db) {id : String} {newParentID : Option String}
    (safe : Safe db (.moving id newParentID)) :
    WellFormed (db.moveFolder o id newParentID).2 := by
  rcases updateFolder_cases o id (fun f => { f with parentID := newParentID }) db with
    same | ⟨f, found, known, wrote⟩
  · rw [DB.moveFolder, same]
    exact wf
  · rw [DB.moveFolder, wrote]
    apply wellFormed_put wf
    · intro old here
      obtain rfl := Option.some.inj (found.symm.trans here)
      rfl
    · intro p child
      obtain rfl : newParentID = some p := child
      obtain ⟨other, view, free⟩ := safe
      obtain ⟨g, there⟩ := exists_parent_of_hasParent known rfl other
      exact ⟨other, free, g, there, (view f g found there).symm⟩

theorem safe_checking {id p : String} {treeView : TreeView}
    (safe : Safe db (.checking id p treeView)) :
    Safe db (next o db (.checking id p treeView)).1 := by
  obtain ⟨other, view⟩ := safe
  rw [next]
  cases found : db.getFolder p with
  | none => trivial
  | some g =>
      dsimp only
      split_ifs with differs
      · trivial
      · refine ⟨other, ?_, fun above => ⟨.inl rfl, above⟩⟩
        intro f h here there
        obtain rfl := Option.some.inj (found.symm.trans there)
        rw [view f here]
        exact (not_not.mp differs).symm

theorem safe_climbing {id p current : String} (safe : Safe db (.climbing id p current)) :
    Safe db (next o db (.climbing id p current)).1 := by
  obtain ⟨other, view, above⟩ := safe
  rw [next]
  cases edge : db.parent current with
  | none =>
      refine ⟨other, view, ?_⟩
      intro higher
      obtain ⟨q, upper, _⟩ := ancestor_iff.mp (above higher).2
      exact absurd (edge.symm.trans upper) nofun
  | some q =>
      dsimp only
      split_ifs with here
      · trivial
      · refine ⟨other, view, ?_⟩
        intro higher
        obtain ⟨way, top⟩ := above higher
        constructor
        · rcases way with rfl | lower
          · exact .inr (ancestor_of_parent edge)
          · exact .inr ((ancestor_of_parent edge).trans lower)
        · obtain ⟨q', upper, same | top⟩ := ancestor_iff.mp top
          · obtain rfl := Option.some.inj (edge.symm.trans upper)
            exact absurd same.symm here
          · obtain rfl := Option.some.inj (edge.symm.trans upper)
            exact top

theorem folders_insertMember (folderID : String) (resource : Resource) :
    (db.insertMember o folderID resource).2.folders = db.folders := by
  rw [DB.insertMember]
  split_ifs <;> rfl

/-- Every step keeps the table well formed and makes sure of what the next one needs. -/
theorem safe_next (wf : WellFormed db) {phase : Phase} (safe : Safe db phase) :
    WellFormed (next o db phase).2 ∧ Safe (next o db phase).2 (next o db phase).1 := by
  cases phase with
  | called call =>
      obtain ⟨first, same, _⟩ := safe_begin o db call
      exact ⟨wellFormed_congr same wf, (safe_congr same _).mpr first⟩
  | creating req => exact ⟨wellFormed_create wf safe, trivial⟩
  | naming id newName => exact ⟨wellFormed_rename wf id newName, trivial⟩
  | checking id p treeView =>
      have same : (next o db (.checking id p treeView)).2 = db := by
        rw [next]
        cases db.getFolder p with
        | none => rfl
        | some g =>
            dsimp only
            split_ifs <;> rfl
      rw [same]
      exact ⟨wf, safe_checking safe⟩
  | climbing id p current =>
      have same : (next o db (.climbing id p current)).2 = db := by
        rw [next]
        cases db.parent current with
        | none => rfl
        | some q =>
            dsimp only
            split_ifs <;> rfl
      rw [same]
      exact ⟨wf, safe_climbing safe⟩
  | moving id newParentID => exact ⟨wellFormed_move wf safe, trivial⟩
  | deleting id => exact ⟨wellFormed_pruned wf (pruned_delete db id), trivial⟩
  | adding folderID resource =>
      exact ⟨wellFormed_congr (folders_insertMember folderID resource) wf, trivial⟩
  | relocating resource treeView toFolderID =>
      refine ⟨?_, trivial⟩
      have cleared : (db.clearResource treeView resource).folders = db.folders := rfl
      cases toFolderID with
      | none => exact wellFormed_congr cleared wf
      | some folderID =>
          exact wellFormed_congr ((folders_insertMember folderID resource).trans cleared) wf
  | returned reply => exact ⟨wf, trivial⟩

theorem finish_keeps {P : DB → Phase → Prop}
    (kept : ∀ db phase, P db phase → P (next o db phase).2 (next o db phase).1) {n : Nat}
    {phase : Phase} {answer : Reply × DB} (start : P db phase)
    (ended : finish o n db phase = some answer) : P answer.2 (.returned answer.1) := by
  induction n generalizing db phase with
  | zero =>
      cases phase with
      | returned reply =>
          obtain rfl := Option.some.inj ended
          exact start
      | _ => cases ended
  | succ n ih =>
      have later := kept db phase start
      cases phase with
      | returned reply =>
          obtain rfl := Option.some.inj ended
          exact start
      | _ => exact ih later ended

theorem wellFormed_finish {n : Nat} {phase : Phase} {answer : Reply × DB} (wf : WellFormed db)
    (safe : Safe db phase) (ended : finish o n db phase = some answer) : WellFormed answer.2 :=
  (finish_keeps (P := fun db phase => WellFormed db ∧ Safe db phase)
    (fun _ _ both => safe_next both.1 both.2) ⟨wf, safe⟩ ended).1

theorem wellFormed_step (wf : WellFormed db) (e : Event) : WellFormed (step db e) := by
  have safe : Safe db (.called e.call) := trivial
  rw [step]
  cases ended : finish e.outside db.fuel db (.called e.call) with
  | none => exact wf
  | some answer => exact wellFormed_finish wf safe ended

theorem finish_climbing_succ (n : Nat) (id p current : String) :
    finish o (n + 1) db (.climbing id p current) =
      finish o n (next o db (.climbing id p current)).2 (next o db (.climbing id p current)).1 :=
  rfl

/-- The steps of a move from one folder upwards do what `isDescendant` computes. -/
theorem finish_climbing {n : Nat} {id current : String} {answer : Bool} (p : String)
    (found : isDescendant db n current id = some answer) :
    ∃ k ≤ n, ∀ m, finish o (k + m) db (.climbing id p current) =
      finish o m db (if answer then
        .returned (.error "cannot move folder into its own descendant")
      else .moving id (some p)) := by
  rw [isDescendant_eq] at found
  induction n generalizing current with
  | zero => cases found
  | succ n ih =>
      cases edge : db.parent current with
      | none =>
          rw [isBelow_root n edge] at found
          obtain rfl := Option.some.inj found
          refine ⟨1, by omega, fun m => ?_⟩
          rw [Nat.add_comm, finish_climbing_succ, next, edge]
          rfl
      | some q =>
          rw [isBelow_child n edge] at found
          by_cases here : q = id
          · rw [if_pos here] at found
            obtain rfl := Option.some.inj found
            refine ⟨1, by omega, fun m => ?_⟩
            rw [Nat.add_comm, finish_climbing_succ, next, edge]
            simp only [here]
            rfl
          · rw [if_neg here] at found
            obtain ⟨k, short, same⟩ := ih found
            refine ⟨k + 1, by omega, fun m => ?_⟩
            rw [Nat.add_right_comm, finish_climbing_succ, next, edge]
            simp only [here]
            exact same m

def Ends (o : Outside) (n : Nat) (db : DB) (phase : Phase) : Prop :=
  ∃ answer, finish o n db phase = some answer

theorem ends_returned (n : Nat) (reply : Reply) : Ends o n db (.returned reply) := by
  cases n <;> exact ⟨_, rfl⟩

theorem ends_of_next {n : Nat} {phase : Phase}
    (later : Ends o n (next o db phase).2 (next o db phase).1) : Ends o (n + 1) db phase := by
  cases phase with
  | returned reply => exact ends_returned _ reply
  | _ => exact later

theorem isDescendant_enough (wf : WellFormed db) (x a : String) {n : Nat}
    (enough : db.folders.keys.length < n) : ∃ answer, isDescendant db n x a = some answer := by
  have all : ∀ c p, db.parent c = some p → c ∈ db.folders.keys := by
    intro c p edge
    obtain ⟨f, found, _⟩ := parent_eq_some_iff.mp edge
    exact mem_keys_of_getFolder found
  obtain ⟨answer, found⟩ := wf.rooted.isBelow_enough all x a
  exact ⟨answer, by rw [isDescendant_eq]; exact isBelow_mono found enough⟩

theorem ends_climbing (wf : WellFormed db) (id p current : String) :
    Ends o (db.folders.keys.length + 2) db (.climbing id p current) := by
  obtain ⟨answer, found⟩ := isDescendant_enough wf current id (Nat.lt_succ_self _)
  obtain ⟨k, short, same⟩ := finish_climbing (o := o) p found
  obtain ⟨m, split⟩ : ∃ m, db.folders.keys.length + 2 = k + (m + 1) :=
    ⟨db.folders.keys.length + 1 - k, by omega⟩
  rw [Ends, split, same]
  cases answer with
  | true => exact ends_returned _ _
  | false => exact ends_of_next (ends_returned _ _)

theorem ends_of_begun (wf : WellFormed db) {phase : Phase} (begun : phase.begun = true) :
    Ends o (db.folders.keys.length + 3) db phase := by
  cases phase with
  | called call => cases begun
  | checking id p treeView =>
      apply ends_of_next
      rw [next]
      cases db.getFolder p with
      | none => exact ends_returned _ _
      | some g =>
          dsimp only
          split_ifs
          · exact ends_returned _ _
          · exact ends_climbing wf id p p
  | climbing id p current =>
      apply ends_of_next
      rw [next]
      cases edge : db.parent current with
      | none => exact ends_of_next (ends_returned _ _)
      | some q =>
          dsimp only
          split_ifs
          · exact ends_returned _ _
          · exact ends_climbing wf id p q
  | returned reply => exact ends_returned _ reply
  | _ => exact ends_of_next (ends_returned _ _)

theorem finish_call (wf : WellFormed db) (o : Outside) (call : Call) :
    ∃ answer, finish o db.fuel db (.called call) = some answer := by
  obtain ⟨_, same, begun⟩ := safe_begin o db call
  have later := ends_of_begun (o := o) (wellFormed_congr same wf) begun
  rw [same] at later
  exact ends_of_next later

end Calls

section Forest

theorem wellFormed_run (es : List Event) : WellFormed (run es) :=
  invariant_foldl (P := WellFormed) (fun _ e wf => wellFormed_step wf e) wellFormed_empty es

/-- In every state that a sequence of calls leads to, the folders are a forest whose trees stay
in one view, every further call ends, and `isDescendant` ends on all ids and tells whether the
second is a proper ancestor of the first. -/
theorem forest_of_run (es : List Event) :
    (∀ a, ¬Ancestor (run es).parent a a) ∧
      (∀ id f p, (run es).getFolder id = some f → f.parentID = some p →
        ∃ g, (run es).getFolder p = some g ∧ g.treeView = f.treeView) ∧
      (∀ o call, ∃ answer, finish o (run es).fuel (run es) (.called call) = some answer) ∧
      ∀ x a n, (run es).folders.keys.length < n →
        ∃ answer, isDescendant (run es) n x a = some answer ∧
          (answer = true ↔ Ancestor (run es).parent a x) := by
  have wf := wellFormed_run es
  refine ⟨wf.rooted.irrefl, wf.parents, fun o call => finish_call wf o call, ?_⟩
  intro x a n enough
  obtain ⟨answer, found⟩ := isDescendant_enough wf x a enough
  refine ⟨answer, found, ?_⟩
  rw [isDescendant_eq] at found
  exact isBelow_sound found

end Forest

end Folders
