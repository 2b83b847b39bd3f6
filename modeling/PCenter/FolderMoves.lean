import PCenter.FolderMembers

/-!
# Moves of a resource that fail

`MoveResource` deletes the memberships of a resource in a view and inserts the new one, as two
statements without a transaction, after a check that has given the mutex back. A statement that
fails changes nothing, and deletions of folders may come between the check and the write.
-/

namespace Folders

/-- The errors of the statements of a move that fail. -/
structure Failures where
  check : Option String
  delete : Option String
  insert : Option String

/-- `DB.MoveResource`, with statements that may fail. -/
def DB.moveStatements (failures : Failures) (o : Outside) (treeView : TreeView)
    (resource : Resource) (toFolderID : Option String) (db : DB) : Reply × DB :=
  match failures.delete with
  | some err => (.error ("delete existing memberships: " ++ err), db)
  | none =>
      match toFolderID with
      | none => (.ok (), db.clearResource treeView resource)
      | some folderID =>
          match failures.insert with
          | some err => (.error ("insert member: " ++ err), db.clearResource treeView resource)
          | none => (db.clearResource treeView resource).insertMember o folderID resource

/-- Folders that other requests delete, one after the other. -/
def DB.deleteFolders (ids : List String) (db : DB) : DB :=
  ids.foldl (fun db id => (db.deleteFolder id).2) db

/-- `Service.MoveResource`; the folders are deleted between the check and the write. -/
def moveResource (failures : Failures) (o : Outside) (deleted : List String) (resource : Resource)
    (treeView : TreeView) (toFolderID : Option String) (db : DB) : Reply × DB :=
  let after := db.deleteFolders deleted
  if validResourceType resource then
    match toFolderID with
    | none => after.moveStatements failures o treeView resource none
    | some folderID =>
        match failures.check with
        | some err => (.error ("get folder: get folder: " ++ err), after)
        | none =>
            match db.getFolder folderID with
            | none => (.error "target folder not found", after)
            | some folder =>
                if folder.treeView ≠ treeView then
                  (.error "target folder is in different tree view", after)
                else after.moveStatements failures o treeView resource (some folderID)
  else (.error invalidResourceType, after)

/-- The rows of a resource. -/
def DB.memberships (resource : Resource) (db : DB) : List FolderMember :=
  db.members.filter (·.resource = resource)

/-- A move that fails changes nothing, and one that does not moves the resource. -/
def AllOrNothing (treeView : TreeView) (resource : Resource) (toFolderID : Option String)
    (before : DB) (answer : Reply × DB) : Prop :=
  match answer.1 with
  | .error _ => answer.2.memberships resource = before.memberships resource
  | .ok () => answer.2.foldersOf treeView resource = toFolderID.toList

/-- The delete goes through and the insert does not, and there is something to lose. -/
def Loses (failures : Failures) (deleted : List String) (resource : Resource)
    (treeView : TreeView) (toFolderID : Option String) (db : DB) : Prop :=
  validResourceType resource = true ∧ failures.check = none ∧ failures.delete = none ∧
    (db.deleteFolders deleted).foldersOf treeView resource ≠ [] ∧
      ∃ folderID, toFolderID = some folderID ∧ db.inView treeView folderID = true ∧
        (failures.insert ≠ none ∨ (db.deleteFolders deleted).getFolder folderID = none)

section Statements

variable {db : DB} {treeView : TreeView} {resource : Resource} {o : Outside}

/-- The delete takes nothing of the resource away iff it is in no folder of the view. -/
theorem memberships_clear_iff :
    (db.clearResource treeView resource).memberships resource = db.memberships resource ↔
      db.foldersOf treeView resource = [] := by
  constructor
  · intro same
    refine List.eq_nil_iff_forall_not_mem.mpr fun a member => ?_
    obtain ⟨m, inside, own, rfl, view⟩ := mem_foldersOf_iff.mp member
    have kept : m ∈ db.memberships resource :=
      List.mem_filter.mpr ⟨inside, decide_eq_true own⟩
    rw [← same] at kept
    have stays := (List.mem_filter.mp (List.mem_of_mem_filter kept)).2
    have there : db.inView treeView m.folderID = true := inView_iff.mpr view
    simp [own, there] at stays
  · intro homeless
    have all : ∀ m ∈ db.members,
        (!(m.resource = resource && db.inView treeView m.folderID)) = true := by
      intro m member
      by_contra inside
      have there : m.folderID ∈ db.foldersOf treeView resource :=
        List.mem_map.mpr ⟨m, List.mem_filter.mpr ⟨member, by simpa using inside⟩, rfl⟩
      rw [homeless] at there
      exact nomatch there
    rw [DB.memberships, DB.clearResource, List.filter_eq_self.mpr all]
    rfl

/-- What is inserted after the delete is the only membership in the view. -/
theorem foldersOf_moved {folderID : String} {folder : Folder}
    (found : db.getFolder folderID = some folder) (view : folder.treeView = treeView) :
    ((db.clearResource treeView resource).insertMember o folderID resource).2.foldersOf treeView
      resource = [folderID] := by
  have cleared := foldersOf_clear db treeView resource
  have none_ : (db.clearResource treeView resource).members.filter
      (fun m => m.resource = resource && db.inView treeView m.folderID) = [] :=
    List.map_eq_nil_iff.mp cleared
  have here : db.inView treeView folderID = true := inView_iff.mpr ⟨folder, found, view⟩
  have found' : (db.clearResource treeView resource).getFolder folderID = some folder := found
  rw [insertMember_of_found found']
  change (List.filter (fun m => m.resource = resource && db.inView treeView m.folderID)
    (_ ++ [_])).map FolderMember.folderID = [folderID]
  rw [List.filter_append, List.filter_comm, none_]
  simp [here]

theorem deleteFolders_kept (ids : List String) {k : String} {f : Folder}
    (found : (db.deleteFolders ids).getFolder k = some f) : db.getFolder k = some f := by
  induction ids generalizing db with
  | nil => exact found
  | cons id rest ih => exact (pruned_delete db id).kept k f (ih found)

end Statements

section Moves

variable {db : DB} {failures : Failures} {o : Outside} {deleted : List String}
  {resource : Resource} {treeView : TreeView} {toFolderID : Option String}

/-- Without failures and deletions it is the call of the service that is known. -/
theorem moveResource_undisturbed (db : DB) :
    finish o 2 db (.called (.moveResource resource treeView toFolderID)) =
      some (moveResource ⟨none, none, none⟩ o [] resource treeView toFolderID db) := by
  by_cases valid : validResourceType resource = true
  · cases toFolderID with
    | none =>
        simp only [finish, next, begin, moveResource, if_pos valid]
        rfl
    | some folderID =>
        cases found : db.getFolder folderID with
        | none =>
            simp only [finish, next, begin, moveResource, if_pos valid, found]
            rfl
        | some folder =>
            by_cases view : folder.treeView = treeView
            · simp only [finish, next, begin, moveResource, if_pos valid, found,
                if_neg (not_not.mpr view)]
              rfl
            · simp only [finish, next, begin, moveResource, if_pos valid, found, if_pos view]
              rfl
  · cases toFolderID <;> simp only [finish, next, begin, moveResource, if_neg valid] <;> rfl

/-- What the two statements do once the check is passed. -/
theorem moveStatements_iff {folderID : String}
    (view : ∀ f, db.getFolder folderID = some f → f.treeView = treeView) :
    AllOrNothing treeView resource (some folderID) db
        (db.moveStatements failures o treeView resource (some folderID)) ↔
      ¬(failures.delete = none ∧ db.foldersOf treeView resource ≠ [] ∧
        (failures.insert ≠ none ∨ db.getFolder folderID = none)) := by
  cases delete : failures.delete with
  | some err =>
      simp only [DB.moveStatements, delete, AllOrNothing, true_iff]
      exact fun goes => nomatch goes.1
  | none =>
      cases insert : failures.insert with
      | some err =>
          simp only [DB.moveStatements, delete, insert, AllOrNothing, memberships_clear_iff]
          simp
      | none =>
          cases found : db.getFolder folderID with
          | none =>
              have missing : (db.clearResource treeView resource).getFolder folderID = none :=
                found
              simp only [DB.moveStatements, delete, insert, DB.insertMember, missing,
                Option.isSome_none, AllOrNothing]
              simp [memberships_clear_iff]
          | some f =>
              have moved := @foldersOf_moved db treeView resource o folderID f found (view f found)
              have there : (db.clearResource treeView resource).getFolder folderID = some f := found
              have fine : ((db.clearResource treeView resource).insertMember o folderID
                  resource).1 = .ok () := by
                rw [insertMember_of_found there]
              simp only [DB.moveStatements, delete, insert, AllOrNothing, fine, moved]
              simp

/-- A move that fails changes nothing and one that succeeds moves the resource, unless the insert
fails after a delete that has taken something away. -/
theorem move_all_or_nothing_iff (db : DB) (failures : Failures) (o : Outside)
    (deleted : List String) (resource : Resource) (treeView : TreeView)
    (toFolderID : Option String) :
    AllOrNothing treeView resource toFolderID (db.deleteFolders deleted)
        (moveResource failures o deleted resource treeView toFolderID db) ↔
      ¬Loses failures deleted resource treeView toFolderID db := by
  by_cases valid : validResourceType resource = true
  · cases toFolderID with
    | none =>
        rw [moveResource, if_pos valid]
        have harmless : ¬Loses failures deleted resource treeView none db := by
          rintro ⟨-, -, -, -, folderID, target, -⟩
          cases target
        refine iff_of_true ?_ harmless
        cases delete : failures.delete with
        | some err => simp only [DB.moveStatements, delete, AllOrNothing]
        | none =>
            simp only [DB.moveStatements, delete, AllOrNothing]
            exact foldersOf_clear _ _ _
    | some folderID =>
        cases check : failures.check with
        | some err =>
            simp only [moveResource, if_pos valid, check, AllOrNothing, true_iff]
            rintro ⟨-, passed, -⟩
            cases check.symm.trans passed
        | none =>
            cases found : db.getFolder folderID with
            | none =>
                simp only [moveResource, if_pos valid, check, found, AllOrNothing, true_iff]
                rintro ⟨-, -, -, -, target, same, inside, -⟩
                obtain rfl := Option.some.inj same
                rw [DB.inView, found] at inside
                cases inside
            | some folder =>
                by_cases view : folder.treeView = treeView
                · simp only [moveResource, if_pos valid, check, found, if_neg (not_not.mpr view)]
                  rw [moveStatements_iff]
                  · refine not_congr ?_
                    constructor
                    · rintro ⟨delete, something, fails⟩
                      exact ⟨valid, check, delete, something, folderID, rfl,
                        inView_iff.mpr ⟨folder, found, view⟩, fails⟩
                    · rintro ⟨-, -, delete, something, target, same, -, fails⟩
                      obtain rfl := Option.some.inj same
                      exact ⟨delete, something, fails⟩
                  · intro f there
                    have old := deleteFolders_kept deleted there
                    obtain rfl := Option.some.inj (found.symm.trans old)
                    exact view
                · simp only [moveResource, if_pos valid, check, found, if_pos view, AllOrNothing,
                    true_iff]
                  rintro ⟨-, -, -, -, target, same, inside, -⟩
                  obtain rfl := Option.some.inj same
                  obtain ⟨f, there, here⟩ := inView_iff.mp inside
                  obtain rfl := Option.some.inj (found.symm.trans there)
                  exact view here
  · unfold moveResource
    rw [if_neg valid]
    exact iff_of_true rfl fun loses => valid loses.1

end Moves

/-- A VM in one of two folders. -/
def housedVM : DB := run [creates "web", creates "db", ⟨.addMember "web" vm100, ⟨"", 0⟩⟩]

/-- The other folder is deleted while the VM is moved there: it ends up in none. -/
theorem lost_in_move :
    ¬AllOrNothing .vms vm100 (some "db") (housedVM.deleteFolders ["db"])
      (moveResource ⟨none, none, none⟩ ⟨"", 1⟩ ["db"] vm100 .vms (some "db") housedVM) := by
  intro kept
  have reply : (moveResource ⟨none, none, none⟩ ⟨"", 1⟩ ["db"] vm100 .vms (some "db")
      housedVM).1 = .error "insert member: FOREIGN KEY constraint failed" := by
    decide +kernel
  rw [AllOrNothing, reply] at kept
  have lost : (moveResource ⟨none, none, none⟩ ⟨"", 1⟩ ["db"] vm100 .vms (some "db")
      housedVM).2.memberships vm100 = [] := by
    decide +kernel
  have had : (housedVM.deleteFolders ["db"]).memberships vm100 = [⟨"web", vm100, 0⟩] := by
    decide +kernel
  exact nomatch lost.symm.trans (kept.trans had)

end Folders
