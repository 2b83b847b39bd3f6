import PCenter.FolderMembers

/-!
# The names of sibling folders

The table refuses a second folder of the same name below one parent. A root has no parent, and
rows without a parent never clash, so nothing keeps two roots of a view from having one name.
-/

namespace Folders

open Transition

section Names

/-- No two folders of a view have the same parent, or none, and the same name. -/
def NamesApart (db : DB) : Prop :=
  ∀ a b f g, db.getFolder a = some f → db.getFolder b = some g → f.treeView = g.treeView →
    f.parentID = g.parentID → f.name = g.name → a = b

/-- No other folder is where the row is to go, under its name. -/
def Free (db : DB) (id : String) (f : Folder) : Prop :=
  ∀ k g, db.getFolder k = some g → k ≠ id → g.treeView = f.treeView → g.parentID = f.parentID →
    g.name ≠ f.name

/-- A root that is created, renamed or moved to the top gets a name that no other root of its view
has. -/
def RootsApart (db : DB) (e : Event) : Prop :=
  match e.call with
  | .createFolder req => (req.treeView = .hosts ∨ req.treeView = .vms) ∧ req.name ≠ "" →
      req.parentID = none → db.getFolder e.outside.uuid = none →
      ∀ k g, db.getFolder k = some g → k ≠ e.outside.uuid → g.parentID = none →
        g.treeView = req.treeView → g.name ≠ req.name
  | .renameFolder id newName => newName ≠ "" → ∀ f, db.getFolder id = some f →
      f.parentID = none → ∀ k g, db.getFolder k = some g → k ≠ id → g.parentID = none →
        g.treeView = f.treeView → g.name ≠ newName
  | .moveFolder id none => ∀ f, db.getFolder id = some f →
      ∀ k g, db.getFolder k = some g → k ≠ id → g.parentID = none → g.treeView = f.treeView →
        g.name ≠ f.name
  | _ => True

variable {db db' : DB} {o : Outside} {id : String} {f : Folder}

theorem namesApart_put_iff (apart : NamesApart db) : NamesApart (db.put id f) ↔ Free db id f := by
  constructor
  · intro later k g found other view parent name
    refine other (later k id g f ?_ ?_ view parent name)
    · rw [getFolder_put, if_neg other]
      exact found
    · rw [getFolder_put, if_pos rfl]
  · intro free a b g h first second view parent name
    rw [getFolder_put] at first second
    by_cases here : a = id
    · by_cases there : b = id
      · rw [here, there]
      · rw [if_pos here] at first
        rw [if_neg there] at second
        obtain rfl := Option.some.inj first
        exact absurd name.symm (free b h second there view.symm parent.symm)
    · rw [if_neg here] at first
      by_cases there : b = id
      · rw [if_pos there] at second
        obtain rfl := Option.some.inj second
        exact absurd name (free a g first here view parent)
      · rw [if_neg there] at second
        exact apart a b g h first second view parent name

theorem namesApart_congr (same : db'.folders = db.folders) (apart : NamesApart db) :
    NamesApart db' := by
  obtain ⟨folders, members⟩ := db
  obtain ⟨folders', members'⟩ := db'
  obtain rfl : folders' = folders := same
  exact apart

theorem namesApart_mono (apart : NamesApart db)
    (kept : ∀ k f, db'.getFolder k = some f → db.getFolder k = some f) : NamesApart db' :=
  fun a b f g first second => apart a b f g (kept a f first) (kept b g second)

/-- Below a parent the table looks after the names. -/
theorem free_of_not_clashes {p : String} (child : f.parentID = some p)
    (quiet : db.clashes id f = false) : Free db id f := by
  intro k g found other view parent name
  rw [DB.clashes, child, Option.isSome_some, Bool.true_and, List.any_eq_false] at quiet
  have listed : (⟨k, g⟩ : Sigma fun _ : String => Folder) ∈ db.folders.entries :=
    AList.mem_lookup_iff.mp found
  have differs := quiet _ listed
  simp [other, parent, child, name, view] at differs

theorem namesApart_store (apart : NamesApart db) (statement : String) {p : String}
    (child : f.parentID = some p) : NamesApart (db.store statement id f).2 := by
  rw [DB.store]
  cases clash : db.clashes id f with
  | true => exact apart
  | false =>
      rw [if_neg Bool.false_ne_true]
      split_ifs
      · exact apart
      · exact (namesApart_put_iff apart).mpr (free_of_not_clashes child clash)

theorem store_root (statement : String) (root : f.parentID = none) :
    (db.store statement id f).2 = db.put id f := by
  have quiet : db.clashes id f = false := by
    rw [DB.clashes, root]
    rfl
  have known : db.hasParent id f = true := by
    rw [DB.hasParent, root]
    rfl
  rw [DB.store, quiet, known]
  rfl

theorem namesApart_update (apart : NamesApart db) {change : Folder → Folder} {p : String}
    (child : ∀ f, db.getFolder id = some f → (change f).parentID = some p) :
    NamesApart (db.updateFolder o id change).2 := by
  rw [DB.updateFolder]
  cases found : db.getFolder id with
  | none => exact apart
  | some f => exact namesApart_store apart _ (child f found)

theorem updateFolder_root {change : Folder → Folder} (found : db.getFolder id = some f)
    (root : (change f).parentID = none) :
    (db.updateFolder o id change).2 = db.put id { change f with updatedAt := o.now } := by
  rw [DB.updateFolder, found]
  exact store_root _ root

end Names

section Steps

variable {db : DB} {o : Outside}

/-- Phases that write a folder below a parent, or none. -/
def Phase.below : Phase → Bool
  | .creating req => req.parentID.isSome
  | .checking _ _ _ | .climbing _ _ _ | .moving _ (some _) | .returned _ => true
  | _ => false

theorem namesApart_next (apart : NamesApart db) {phase : Phase} (below : phase.below = true) :
    NamesApart (next o db phase).2 ∧ (next o db phase).1.below = true := by
  cases phase with
  | creating req =>
      obtain ⟨p, child⟩ := Option.isSome_iff_exists.mp below
      refine ⟨?_, rfl⟩
      rw [next, returns, DB.createFolder]
      split_ifs
      · exact apart
      · exact namesApart_store apart _ child
  | checking id p treeView =>
      rw [next]
      cases db.getFolder p with
      | none => exact ⟨apart, rfl⟩
      | some g =>
          dsimp only
          split_ifs <;> exact ⟨apart, rfl⟩
  | climbing id p current =>
      rw [next]
      cases db.parent current with
      | none => exact ⟨apart, rfl⟩
      | some q =>
          dsimp only
          split_ifs <;> exact ⟨apart, rfl⟩
  | moving id newParentID =>
      cases newParentID with
      | none => cases below
      | some p => exact ⟨namesApart_update apart fun _ _ => rfl, rfl⟩
  | returned reply => exact ⟨apart, rfl⟩
  | _ => cases below

theorem namesApart_step_of_below (apart : NamesApart db) {e : Event}
    (same : (begin e.outside db e.call).2 = db)
    (below : (begin e.outside db e.call).1.below = true) : NamesApart (step db e) := by
  rw [step_eq, same]
  cases ended : finish e.outside (db.folders.keys.length + 3) db (begin e.outside db e.call).1 with
  | none => exact apart
  | some answer =>
      exact (finish_keeps (P := fun db phase => NamesApart db ∧ phase.below = true)
        (fun _ _ both => namesApart_next both.1 both.2) ⟨apart, below⟩ ended).1

theorem step_createRoot {req : CreateFolderRequest} (root : req.parentID = none) :
    step db ⟨.createFolder req, o⟩ =
      if (req.treeView = .hosts ∨ req.treeView = .vms) ∧ req.name ≠ "" then
        (db.createFolder o req).2
      else db := by
  rw [step_eq, begin]
  by_cases view : req.treeView = .hosts ∨ req.treeView = .vms
  · have valid : ¬(req.treeView ≠ .hosts ∧ req.treeView ≠ .vms) := by
      rintro ⟨hosts, vms⟩
      exact view.elim hosts vms
    rw [if_neg valid]
    by_cases named : req.name = ""
    · rw [if_pos named, if_neg fun both => both.2 named]
      rfl
    · rw [if_neg named, if_pos ⟨view, named⟩, root]
      rfl
  · obtain ⟨hosts, vms⟩ := not_or.mp view
    rw [if_pos ⟨hosts, vms⟩, if_neg fun both => view both.1]
    rfl

theorem step_renameFolder (id newName : String) :
    step db ⟨.renameFolder id newName, o⟩ =
      if newName ≠ "" then (db.renameFolder o id newName).2 else db := by
  rw [step_eq, begin]
  by_cases named : newName = ""
  · rw [if_pos named, if_neg (not_not.mpr named)]
    rfl
  · rw [if_neg named, if_pos named]
    cases found : db.getFolder id with
    | none =>
        rw [if_neg (by simp), DB.renameFolder, DB.updateFolder, found]
        rfl
    | some f =>
        rw [if_pos Option.isSome_some]
        rfl

theorem step_moveToTop (id : String) :
    step db ⟨.moveFolder id none, o⟩ = (db.moveFolder o id none).2 := by
  rw [step_eq, begin]
  cases found : db.getFolder id with
  | none =>
      rw [DB.moveFolder, DB.updateFolder, found]
      rfl
  | some f => rfl

end Steps

section Run

variable {db : DB} {o : Outside}

theorem free_root_iff {id : String} {f : Folder} (root : f.parentID = none) :
    Free db id f ↔ ∀ k g, db.getFolder k = some g → k ≠ id → g.parentID = none →
      g.treeView = f.treeView → g.name ≠ f.name := by
  constructor
  · intro free k g found other top view
    exact free k g found other view (top.trans root.symm)
  · intro free k g found other view parent
    exact free k g found other (parent.trans root) view

theorem namesApart_create_iff (apart : NamesApart db) {req : CreateFolderRequest} :
    NamesApart (step db ⟨.createFolder req, o⟩) ↔ RootsApart db ⟨.createFolder req, o⟩ := by
  cases child : req.parentID with
  | some p =>
      have below : (begin o db (.createFolder req)).1.below = true := by
        rw [begin]
        split_ifs
        · rfl
        · rfl
        · rw [child]
          cases found : db.getFolder p with
          | none =>
              simp only [found]
              rfl
          | some g =>
              simp only [found]
              split_ifs
              · rfl
              · simp [Phase.below, child]
      have same : (begin o db (.createFolder req)).2 = db :=
        (@begin_organizes o db (.createFolder req) rfl).1
      refine iff_of_true (namesApart_step_of_below apart same below) ?_
      intro _ root
      cases child.symm.trans root
  | none =>
      rw [step_createRoot child]
      by_cases accepted : (req.treeView = .hosts ∨ req.treeView = .vms) ∧ req.name ≠ ""
      · rw [if_pos accepted, DB.createFolder]
        cases taken : db.getFolder o.uuid with
        | some f =>
            refine iff_of_true apart ?_
            intro _ _ unused
            cases taken.symm.trans unused
        | none =>
            rw [if_neg (by simp), store_root _ child, namesApart_put_iff apart, free_root_iff child]
            exact ⟨fun free _ _ _ => free, fun kept => kept accepted child taken⟩
      · rw [if_neg accepted]
        exact iff_of_true apart fun accepts => absurd accepts accepted

theorem namesApart_rename_iff (apart : NamesApart db) {id newName : String} :
    NamesApart (step db ⟨.renameFolder id newName, o⟩) ↔
      RootsApart db ⟨.renameFolder id newName, o⟩ := by
  rw [step_renameFolder]
  by_cases named : newName ≠ ""
  · rw [if_pos named, DB.renameFolder]
    cases found : db.getFolder id with
    | none =>
        rw [DB.updateFolder, found]
        refine iff_of_true apart fun _ f there => ?_
        cases found.symm.trans there
    | some f =>
        cases parent : f.parentID with
        | some p =>
            refine iff_of_true (namesApart_update (p := p) apart fun g there => ?_)
              fun _ g there root => ?_
            · obtain rfl := Option.some.inj (found.symm.trans there)
              exact parent
            · obtain rfl := Option.some.inj (found.symm.trans there)
              cases parent.symm.trans root
        | none =>
            have root : ({ { f with name := newName } with updatedAt := o.now } : Folder).parentID =
                none := parent
            rw [updateFolder_root found parent, namesApart_put_iff apart, free_root_iff root]
            constructor
            · intro free _ g there _
              obtain rfl := Option.some.inj (found.symm.trans there)
              exact free
            · exact fun kept => kept named f found parent
  · rw [if_neg named]
    exact iff_of_true apart fun accepts => absurd accepts named

theorem namesApart_moveToTop_iff (apart : NamesApart db) {id : String} :
    NamesApart (step db ⟨.moveFolder id none, o⟩) ↔ RootsApart db ⟨.moveFolder id none, o⟩ := by
  rw [step_moveToTop, DB.moveFolder]
  cases found : db.getFolder id with
  | none =>
      rw [DB.updateFolder, found]
      refine iff_of_true apart fun f there => ?_
      cases found.symm.trans there
  | some f =>
      rw [updateFolder_root found rfl, namesApart_put_iff apart, free_root_iff rfl]
      constructor
      · intro free g there
        obtain rfl := Option.some.inj (found.symm.trans there)
        exact free
      · exact fun kept => kept f found

theorem namesApart_step_iff (apart : NamesApart db) (e : Event) :
    NamesApart (step db e) ↔ RootsApart db e := by
  obtain ⟨call, o⟩ := e
  cases call with
  | createFolder req => exact namesApart_create_iff apart
  | renameFolder id newName => exact namesApart_rename_iff apart
  | moveFolder id newParentID =>
      cases newParentID with
      | none => exact namesApart_moveToTop_iff apart
      | some p =>
          obtain ⟨same, -⟩ := @begin_organizes o db (.moveFolder id (some p)) rfl
          refine iff_of_true (namesApart_step_of_below apart same ?_) trivial
          rw [begin]
          cases db.getFolder id with
          | none => rfl
          | some folder =>
              dsimp only
              split_ifs <;> rfl
  | deleteFolder id =>
      refine iff_of_true ?_ trivial
      rw [step_eq, begin]
      split_ifs
      · exact namesApart_mono apart (pruned_delete db id).kept
      · exact apart
  | addMember folderID resource =>
      refine iff_of_true ?_ trivial
      rw [step_addMember]
      split_ifs
      · exact namesApart_congr (folders_insertMember folderID resource) apart
      · exact apart
  | removeMember folderID resource => exact iff_of_true apart trivial
  | moveResource resource treeView toFolderID =>
      refine iff_of_true ?_ trivial
      rcases step_moveResource db o resource treeView toFolderID with
        same | cleared | ⟨folderID, _, _, _, moved⟩
      · rwa [same]
      · rw [cleared]
        exact apart
      · rw [moved]
        exact namesApart_congr (folders_insertMember folderID resource) apart

/-- Sibling folders have different names in all states of a run, iff no root is created, renamed
or moved to the top under the name of another root of its view. -/
theorem siblings_apart_iff (es : List Event) :
    (∀ db ∈ states step DB.empty es, NamesApart db) ↔ Along step RootsApart DB.empty es := by
  apply invariant_iff_along
  · exact fun db e _ apart => namesApart_step_iff apart e
  · intro a b f g found
    cases found

/-- Two folders of one name are created at the top. -/
def createdTwice : List Event :=
  [⟨.createFolder ⟨"web", none, .vms, none⟩, ⟨"f-1", 0⟩⟩,
    ⟨.createFolder ⟨"web", none, .vms, none⟩, ⟨"f-2", 0⟩⟩]

theorem roots_share_name : ¬∀ es, ∀ db ∈ states step DB.empty es, NamesApart db := by
  intro all
  have apart := all createdTwice (run createdTwice) (last_mem_states _ _) "f-1" "f-2"
    ⟨"web", none, .vms, none, 0, 0, 0⟩ ⟨"web", none, .vms, none, 0, 0, 0⟩ (by decide +kernel)
    (by decide +kernel) rfl rfl rfl
  exact absurd apart (by decide)

end Run

end Folders
