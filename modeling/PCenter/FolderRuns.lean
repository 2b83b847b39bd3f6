import PCenter.Folders
import PCenter.Lib.Thread
import PCenter.Lib.Traverse

/-!
# Moves and deletions of folders at the same time

`MoveFolder` holds the mutex for one method at a time: it reads the folder, reads the new
parent, climbs from there to a root and then writes. A run is any order of these steps of any
number of moves and deletions. The tree that `GetFolderTree` shows is built downwards from the
folders without a parent in the view.
-/

namespace Folders

open Forest Transition Traverse

section Tree

inductive FolderTree where
  | node (id : String) (folder : Folder) (members : List FolderMember) (children : List FolderTree)

abbrev Row := Sigma fun _ : String => Folder

/-- The folders of a view, by their order and then by name. -/
def DB.getFolders (treeView : TreeView) (db : DB) : List Row :=
  (db.folders.entries.filter (·.2.treeView = treeView)).mergeSort fun a b =>
    a.2.sortOrder < b.2.sortOrder || a.2.sortOrder = b.2.sortOrder && a.2.name ≤ b.2.name

def rootsOf (rows : List Row) : List Row :=
  rows.filter fun r => r.2.parentID.all fun p => rows.all (·.1 ≠ p)

def childrenOf (rows : List Row) (id : String) : List Row :=
  rows.filter fun r => r.2.parentID = some id

def buildTreeFromMap (rows : List Row) (members : List FolderMember) :
    Nat → List Row → Option (List FolderTree)
  | 0, _ => none
  | n + 1, folders => folders.mapM fun f =>
      (buildTreeFromMap rows members n (childrenOf rows f.1)).map
        (.node f.1 f.2 (members.filter (·.folderID = f.1)))

/-- `GetFolderTree`, as far as the fuel goes. -/
def getFolderTree (n : Nat) (treeView : TreeView) (db : DB) : Option (List FolderTree) :=
  buildTreeFromMap (db.getFolders treeView) db.members n (rootsOf (db.getFolders treeView))

/-- A tree is one of a forest or within one of its trees. -/
inductive Occurs (t : FolderTree) : List FolderTree → Prop where
  | top (forest : List FolderTree) : t ∈ forest → Occurs t forest
  | within (id : String) (folder : Folder) (members : List FolderMember)
      (children forest : List FolderTree) : .node id folder members children ∈ forest →
      Occurs t children → Occurs t forest

/-- The tree of the folder's view ends somewhere and has the folder. -/
def Shown (db : DB) (id : String) (f : Folder) : Prop :=
  ∃ n forest members children, getFolderTree n f.treeView db = some forest ∧
    Occurs (.node id f members children) forest

variable {rows : List Row} {members : List FolderMember}

theorem built_mono {n m : Nat} {l : List Row} {forest : List FolderTree}
    (built : buildTreeFromMap rows members n l = some forest) (more : n ≤ m) :
    buildTreeFromMap rows members m l = some forest := by
  induction n generalizing m l forest with
  | zero => cases built
  | succ n ih =>
      obtain ⟨m, rfl⟩ : ∃ k, m = k + 1 := ⟨m - 1, by omega⟩
      refine mapM_eq_some_iff.mpr ((mapM_eq_some_iff.mp built).imp ?_)
      intro r t found
      obtain ⟨children, here, made⟩ := Option.map_eq_some_iff.mp found
      exact Option.map_eq_some_iff.mpr ⟨children, ih here (by omega), made⟩

theorem exists_fuel {l : List Row}
    (each : ∀ r ∈ l, ∃ n forest, buildTreeFromMap rows members n (childrenOf rows r.1) = some forest) :
    ∃ n, ∀ r ∈ l, ∃ forest, buildTreeFromMap rows members n (childrenOf rows r.1) = some forest := by
  induction l with
  | nil => exact ⟨0, List.forall_mem_nil _⟩
  | cons x l ih =>
      obtain ⟨n, forest, here⟩ := each x List.mem_cons_self
      obtain ⟨m, later⟩ := ih fun r member => each r (List.mem_cons_of_mem x member)
      refine ⟨max n m, ?_⟩
      intro r member
      rcases List.mem_cons.mp member with rfl | member
      · exact ⟨forest, built_mono here (le_max_left n m)⟩
      · obtain ⟨forest', found⟩ := later r member
        exact ⟨forest', built_mono found (le_max_right n m)⟩

theorem built_of_children {l : List Row}
    (each : ∀ r ∈ l, ∃ n forest, buildTreeFromMap rows members n (childrenOf rows r.1) = some forest) :
    ∃ n forest, buildTreeFromMap rows members n l = some forest := by
  obtain ⟨n, all⟩ := exists_fuel each
  obtain ⟨forest, built⟩ := exists_forall₂ (R := fun (r : Row) t =>
    (buildTreeFromMap rows members n (childrenOf rows r.1)).map
      (FolderTree.node r.1 r.2 (members.filter (·.folderID = r.1))) = some t) (l := l) (by
    intro r member
    obtain ⟨children, found⟩ := all r member
    exact ⟨_, Option.map_eq_some_iff.mpr ⟨children, found, rfl⟩⟩)
  exact ⟨n + 1, forest, mapM_eq_some_iff.mpr built⟩

theorem occurs_child {t : FolderTree} {id : String} {f : Folder} {ms : List FolderMember}
    {children forest : List FolderTree} (parent : Occurs (.node id f ms children) forest)
    (child : t ∈ children) : Occurs t forest := by
  induction parent with
  | top forest member => exact .within id f ms children forest member (.top children child)
  | within id' f' ms' children' forest member _ ih =>
      exact .within id' f' ms' children' forest member ih

variable {db : DB} {treeView : TreeView}

theorem mem_getFolders_iff {id : String} {f : Folder} :
    ⟨id, f⟩ ∈ db.getFolders treeView ↔ db.getFolder id = some f ∧ f.treeView = treeView := by
  rw [DB.getFolders, List.mem_mergeSort, List.mem_filter, decide_eq_true_iff]
  exact and_congr_left fun _ => AList.mem_lookup_iff.symm

theorem mem_rootsOf_iff {r : Row} : r ∈ rootsOf rows ↔
    r ∈ rows ∧ ∀ p, r.2.parentID = some p → ∀ q ∈ rows, q.1 ≠ p := by
  rw [rootsOf, List.mem_filter]
  cases r.2.parentID <;> simp

theorem mem_childrenOf_iff {r : Row} {id : String} :
    r ∈ childrenOf rows id ↔ r ∈ rows ∧ r.2.parentID = some id := by
  rw [childrenOf, List.mem_filter, decide_eq_true_iff]

/-- In a forest the tree of any of its rows comes to an end. -/
theorem exists_built (wf : WellFormed db)
    (stored : ∀ r ∈ rows, db.getFolder r.1 = some r.2) (l : List Row) :
    ∃ n forest, buildTreeFromMap rows members n l = some forest := by
  have all : ∀ c p, db.parent c = some p → c ∈ db.folders.keys := by
    intro c p edge
    obtain ⟨f, found, _⟩ := parent_eq_some_iff.mp edge
    exact mem_keys_of_getFolder found
  have descent := wf.rooted.descent db.folders.keys all
  have each : ∀ id, ∃ n forest,
      buildTreeFromMap rows members n (childrenOf rows id) = some forest := by
    intro id
    induction id using descent.induction with
    | _ id ih =>
        apply built_of_children
        intro r member
        obtain ⟨listed, child⟩ := mem_childrenOf_iff.mp member
        exact ih r.1 ((parent_of_getFolder (stored r listed)).trans child)
  exact built_of_children fun r _ => each r.1

theorem exists_getFolderTree (wf : WellFormed db) (treeView : TreeView) :
    ∃ n forest, getFolderTree n treeView db = some forest :=
  exists_built wf (fun _ listed => (mem_getFolders_iff.mp listed).1) _

/-- Every folder of the view is in the tree, below its parent or as a root. -/
theorem shown_of_wellFormed (wf : WellFormed db) {id : String} {f : Folder}
    (found : db.getFolder id = some f) : Shown db id f := by
  obtain ⟨n, forest, built⟩ := exists_getFolderTree wf f.treeView
  have way : ∀ id g, db.getFolder id = some g → g.treeView = f.treeView →
      ∃ m ms children, buildTreeFromMap (db.getFolders f.treeView) db.members m
        (childrenOf (db.getFolders f.treeView) id) = some children ∧
        Occurs (.node id g ms children) forest := by
    intro id
    induction id using wf.rooted.induction with
    | _ id ih =>
        intro g found view
        have listed : ⟨id, g⟩ ∈ db.getFolders f.treeView := mem_getFolders_iff.mpr ⟨found, view⟩
        by_cases root : ⟨id, g⟩ ∈ rootsOf (db.getFolders f.treeView)
        · cases n with
          | zero => cases built
          | succ n =>
              obtain ⟨t, inside, made⟩ := partner_of_mem (mapM_eq_some_iff.mp built) ⟨id, g⟩ root
              obtain ⟨children, here, rfl⟩ := Option.map_eq_some_iff.mp made
              exact ⟨n, _, children, here, .top forest inside⟩
        · have parent : ∃ p, g.parentID = some p ∧ ∃ q ∈ db.getFolders f.treeView, q.1 = p := by
            rw [mem_rootsOf_iff] at root
            push Not at root
            exact root listed
          obtain ⟨p, child, ⟨_, h⟩, upper, rfl⟩ := parent
          obtain ⟨there, same⟩ := mem_getFolders_iff.mp upper
          obtain ⟨m, ms, children, made, occurs⟩ :=
            ih _ ((parent_of_getFolder found).trans child) h there same
          cases m with
          | zero => cases made
          | succ m =>
              obtain ⟨t, inside, here⟩ :=
                partner_of_mem (mapM_eq_some_iff.mp made) ⟨id, g⟩
                  (mem_childrenOf_iff.mpr ⟨listed, child⟩)
              obtain ⟨children', built', rfl⟩ := Option.map_eq_some_iff.mp here
              exact ⟨m, _, children', built', occurs_child occurs inside⟩
  obtain ⟨_, ms, children, _, occurs⟩ := way id f found rfl
  exact ⟨n, forest, ms, children, built, occurs⟩

end Tree

section Runs

inductive Request where
  | moveFolder (id : String) (newParentID : Option String)
  | deleteFolder (id : String)

def request : Request → Phase
  | .moveFolder id newParentID => .called (.moveFolder id newParentID)
  | .deleteFolder id => .called (.deleteFolder id)

def advance (phase : Phase) (o : Outside) (db : DB) : Option (Phase × DB × List Phase) :=
  some ((next o db phase).1, (next o db phase).2, [])

abbrev World := Thread.World Phase DB

abbrev Move := Thread.Event Request Outside

abbrev go : World → Move → World := Thread.step advance request

def idle (db : DB) : World := ⟨db, [], false⟩

/-- A move below another folder that has read its folder and has not written yet. -/
def Phase.reparents : Phase → Bool
  | .checking _ _ _ | .climbing _ _ _ | .moving _ (some _) => true
  | _ => false

/-- The event lets a move write the new parent. -/
def writes (w : World) (e : Move) : Bool :=
  match Thread.actor request w e with
  | some (.moving _ (some _), _) => true
  | _ => false

/-- A move below another folder writes only while no other such move is under way. -/
def Orderly (w : World) (e : Move) : Prop :=
  writes w e = true → w.pool.countP Phase.reparents ≤ 1

instance (w : World) (e : Move) : Decidable (Orderly w e) :=
  inferInstanceAs (Decidable (_ → _))

/-- The folders are a forest, the walk of `isDescendant` ends, and every folder is shown. -/
structure Tidy (db : DB) : Prop where
  acyclic : ∀ a, ¬Ancestor db.parent a a
  descendants : ∀ x a, ∃ n answer, isDescendant db n x a = some answer
  shown : ∀ id f, db.getFolder id = some f → Shown db id f

theorem tidy_of_wellFormed {db : DB} (wf : WellFormed db) : Tidy db := by
  constructor
  · exact wf.rooted.irrefl
  · intro x a
    obtain ⟨answer, found⟩ := isDescendant_enough wf x a (Nat.lt_succ_self _)
    exact ⟨_, answer, found⟩
  · exact fun id f found => shown_of_wellFormed wf found

end Runs

section Steps

/-- Rows and links to parents may be gone, and nothing else has changed. -/
structure Loosened (db db' : DB) : Prop where
  view : ∀ k f', db'.getFolder k = some f' → ∃ f, db.getFolder k = some f ∧ f.treeView = f'.treeView
  parent : ∀ c p, db'.parent c = some p → db.parent c = some p

variable {db db' : DB} {o : Outside}

theorem loosened_pruned (pruned : Pruned db db') : Loosened db db' :=
  ⟨fun k f' found => ⟨f', pruned.kept k f' found, rfl⟩, pruned.parent⟩

theorem loosened_refl (db : DB) : Loosened db db := loosened_pruned (pruned_refl db)

theorem loosened_moveToRoot (id : String) : Loosened db (db.moveFolder o id none).2 := by
  rcases updateFolder_cases o id (fun f => { f with parentID := none }) db with
    same | ⟨f, found, _, wrote⟩
  · rw [DB.moveFolder, same]
    exact loosened_refl db
  · rw [DB.moveFolder, wrote]
    constructor
    · intro k f' here
      rw [getFolder_put] at here
      by_cases moved : k = id
      · subst moved
        rw [if_pos rfl] at here
        obtain rfl := Option.some.inj here
        exact ⟨f, found, rfl⟩
      · rw [if_neg moved] at here
        exact ⟨f', here, rfl⟩
    · intro c p edge
      rw [parent_put] at edge
      by_cases moved : c = id
      · subst moved
        rw [Function.update_self] at edge
        cases edge
      · rwa [Function.update_of_ne moved] at edge

theorem sameView_loosened {a b : String} (same : SameView db a b) (loosened : Loosened db db') :
    SameView db' a b := by
  intro f g here there
  obtain ⟨f', here', viewF⟩ := loosened.view a f here
  obtain ⟨g', there', viewG⟩ := loosened.view b g there
  exact viewF.symm.trans ((same f' g' here' there').trans viewG)

/-- Phases of the requests. -/
def Phase.reorganizes : Phase → Bool
  | .called (.moveFolder _ _) | .called (.deleteFolder _) | .checking _ _ _ | .climbing _ _ _
  | .moving _ _ | .deleting _ | .returned _ => true
  | _ => false

theorem reorganizes_request (q : Request) : (request q).reorganizes = true := by
  cases q <;> rfl

theorem safe_request (q : Request) : Safe db (request q) := by
  cases q <;> trivial

theorem safe_loosened (wf : WellFormed db) (loosened : Loosened db db') {phase : Phase}
    (reorganizes : phase.reorganizes = true) (safe : Safe db phase) : Safe db' phase := by
  cases phase with
  | checking id p treeView =>
      refine ⟨safe.1, ?_⟩
      intro f found
      obtain ⟨old, there, view⟩ := loosened.view id f found
      exact view.symm.trans (safe.2 old there)
  | climbing id p current =>
      obtain ⟨other, view, above⟩ := safe
      refine ⟨other, sameView_loosened view loosened, ?_⟩
      intro still
      obtain ⟨way, top⟩ := above (still.mono loosened.parent)
      exact wf.rooted.between loosened.parent top way still
  | moving id newParentID =>
      cases newParentID with
      | none => trivial
      | some p =>
          obtain ⟨other, view, free⟩ := safe
          exact ⟨other, sameView_loosened view loosened, fun still => free (still.mono loosened.parent)⟩
  | creating req => cases reorganizes
  | _ => trivial

theorem safe_of_not_reparents {phase : Phase} (reorganizes : phase.reorganizes = true)
    (apart : phase.reparents = false) : Safe db phase := by
  cases phase with
  | moving id newParentID =>
      cases newParentID with
      | none => trivial
      | some p => cases apart
  | checking id p treeView => cases apart
  | climbing id p current => cases apart
  | creating req => cases reorganizes
  | _ => trivial

theorem begin_reorganizes (o : Outside) (db : DB) {call : Call}
    (reorganizes : (Phase.called call).reorganizes = true) :
    (begin o db call).2 = db ∧ (begin o db call).1.reorganizes = true := by
  cases call with
  | moveFolder id newParentID =>
      rw [begin]
      cases db.getFolder id with
      | none => exact ⟨rfl, rfl⟩
      | some folder =>
          cases newParentID with
          | none => exact ⟨rfl, rfl⟩
          | some p =>
              dsimp only
              split_ifs <;> exact ⟨rfl, rfl⟩
  | deleteFolder id =>
      rw [begin]
      split_ifs <;> exact ⟨rfl, rfl⟩
  | _ => cases reorganizes

/-- A step of a request; only the write of a new parent does more than to loosen. -/
theorem next_reorganizes (o : Outside) (db : DB) {phase : Phase} (reorganizes : phase.reorganizes = true) :
    (next o db phase).1.reorganizes = true ∧
      ((∃ id p, phase = .moving id (some p)) ∨ Loosened db (next o db phase).2) := by
  cases phase with
  | called call =>
      obtain ⟨same, later⟩ := begin_reorganizes o db reorganizes
      refine ⟨later, .inr ?_⟩
      rw [next, same]
      exact loosened_refl db
  | checking id p treeView =>
      rw [next]
      cases db.getFolder p with
      | none => exact ⟨rfl, .inr (loosened_refl db)⟩
      | some g =>
          dsimp only
          split_ifs <;> exact ⟨rfl, .inr (loosened_refl db)⟩
  | climbing id p current =>
      rw [next]
      cases db.parent current with
      | none => exact ⟨rfl, .inr (loosened_refl db)⟩
      | some q =>
          dsimp only
          split_ifs <;> exact ⟨rfl, .inr (loosened_refl db)⟩
  | moving id newParentID =>
      cases newParentID with
      | none => exact ⟨rfl, .inr (loosened_moveToRoot id)⟩
      | some p => exact ⟨rfl, .inl ⟨id, p, rfl⟩⟩
  | deleting id => exact ⟨rfl, .inr (loosened_pruned (pruned_delete db id))⟩
  | returned reply => exact ⟨rfl, .inr (loosened_refl db)⟩
  | _ => cases reorganizes

/-- The folders are well formed, and every request relies only on what is true. -/
structure Inv (w : World) : Prop where
  wellFormed : WellFormed w.shared
  pool : ∀ phase ∈ w.pool, phase.reorganizes = true ∧ Safe w.shared phase

theorem others_of_writes {w : World} {e : Move} {id p : String} {before after : List Phase}
    (turn : Thread.Turn request w e (.moving id (some p)) o before after)
    (one : w.pool.countP Phase.reparents ≤ 1) :
    ∀ phase ∈ before ++ after, phase.reparents = false := by
  have called := turn.called_of_later fun q => by cases q <;> nofun
  rw [← called, turn.called_eq, Thread.countP_middle] at one
  have self : [Phase.moving id (some p)].countP Phase.reparents = 1 := rfl
  have rest : (before ++ after).countP Phase.reparents = 0 := by omega
  intro phase member
  exact Bool.eq_false_iff.mpr (List.countP_eq_zero.mp rest phase member)

theorem inv_go {w : World} (inv : Inv w) {e : Move} (orderly : Orderly w e) : Inv (go w e) := by
  rcases Thread.step_cases advance request w e with ⟨_, same⟩ |
    ⟨t, o, before, after, actor, _, turn, ⟨stuck, _⟩ | ⟨t', db, new, advanced, moved⟩⟩
  · rw [go, same]
    exact inv
  · cases stuck
  · obtain ⟨rfl, rfl, rfl⟩ := by simpa using Option.some.inj advanced
    have own : t.reorganizes = true ∧ Safe w.shared t :=
      turn.actor_of (fun q => ⟨reorganizes_request q, safe_request q⟩) inv.pool
    obtain ⟨later, loosens⟩ := next_reorganizes o w.shared own.1
    obtain ⟨wf, safe⟩ := safe_next (o := o) inv.wellFormed own.2
    have others : ∀ phase ∈ before ++ after,
        phase.reorganizes = true ∧ Safe (next o w.shared t).2 phase := by
      intro phase member
      obtain ⟨kind, known⟩ := inv.pool phase (turn.others.subset member)
      refine ⟨kind, ?_⟩
      rcases loosens with ⟨id, p, rfl⟩ | loosened
      · have write : writes w e = true := by rw [writes, actor]
        exact safe_of_not_reparents kind (others_of_writes turn (orderly write) phase member)
      · exact safe_loosened inv.wellFormed loosened kind known
    rw [go, moved]
    refine ⟨wf, ?_⟩
    intro phase member
    simp only [List.append_nil, List.mem_append, List.mem_cons] at member
    rcases member with member | rfl | member
    · exact others phase (List.mem_append_left _ member)
    · exact ⟨later, safe⟩
    · exact others phase (List.mem_append_right _ member)

/-- In a run of moves and deletions in which a move below another folder writes only while no
other such move is under way, the folders stay a forest, `isDescendant` ends and no folder
disappears. -/
theorem tidy_of_orderly {db : DB} (wf : WellFormed db) (es : List Move)
    (orderly : Along go Orderly (idle db) es) :
    ∀ w ∈ states go (idle db) es, Tidy w.shared := by
  have start : Inv (idle db) := ⟨wf, List.forall_mem_nil _⟩
  have all : ∀ w ∈ states go (idle db) es, Inv w := by
    apply invariant_along _ start orderly
    exact fun _ _ inv orderly => inv_go inv orderly
  intro w member
  exact tidy_of_wellFormed (all w member).wellFormed

end Steps

section Fixtures

def makes (name : String) : Event := ⟨.createFolder ⟨name, none, .vms, none⟩, ⟨name, 0⟩⟩

def twoFolders : DB := run [makes "a", makes "b"]

def now : Outside := ⟨"", 1⟩

/-- Each of two folders is moved below the other, and both moves check before either writes. -/
def race : List Move :=
  [.begins (.moveFolder "a" (some "b")) now, .begins (.moveFolder "b" (some "a")) now, .goes 0 now,
    .goes 0 now, .goes 1 now, .goes 1 now, .goes 0 now, .goes 1 now]

/-- The second move begins when the first has written. -/
def inTurn : List Move :=
  [.begins (.moveFolder "a" (some "b")) now, .goes 0 now, .goes 0 now, .goes 0 now,
    .begins (.moveFolder "b" (some "a")) now, .goes 1 now, .goes 1 now, .goes 1 now]

end Fixtures

/-- After the race each of the two folders is above the other. -/
theorem cycle_of_race : ¬∀ w ∈ states go (idle twoFolders) race, Tidy w.shared := by
  intro all
  have tidy := all _ (last_mem_states _ race)
  have first : (race.foldl go (idle twoFolders)).shared.parent "a" = some "b" := by decide +kernel
  have second : (race.foldl go (idle twoFolders)).shared.parent "b" = some "a" := by decide +kernel
  exact tidy.acyclic "a" ((ancestor_of_parent second).below first)

theorem orderly_inTurn : Along go Orderly (idle twoFolders) inTurn := by decide +kernel

theorem tidy_in_turn :
    Along go Orderly (idle twoFolders) inTurn ∧
      ∀ w ∈ states go (idle twoFolders) inTurn, Tidy w.shared :=
  ⟨orderly_inTurn, tidy_of_orderly (wellFormed_run _) inTurn orderly_inTurn⟩

end Folders
