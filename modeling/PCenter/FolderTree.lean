import PCenter.FolderMembers
import PCenter.FolderRuns

/-!
# The tree that is listed

`Service.GetFolderTree` links the folders of a view through a map of pointers into their slice,
and what it links are copies of folders whose own children may still be missing.
`buildTreeFromMap` then takes each folder anew through its pointer. The database may answer with
folders of one order and name, and with members, in any order.
-/

namespace Folders

open Forest Traverse

section Code

def FolderTree.id : FolderTree → String
  | .node id _ _ _ => id

def FolderTree.folder : FolderTree → Folder
  | .node _ folder _ _ => folder

def FolderTree.row (t : FolderTree) : Row := ⟨t.id, t.folder⟩

def FolderTree.members : FolderTree → List FolderMember
  | .node _ _ members _ => members

def FolderTree.children : FolderTree → List FolderTree
  | .node _ _ _ children => children

def FolderTree.withChildren (children : List FolderTree) : FolderTree → FolderTree
  | .node id folder members _ => .node id folder members children

/-- `ORDER BY sort_order, name` allows the first before the second. -/
def Row.Before (a b : Row) : Prop :=
  a.2.sortOrder < b.2.sortOrder ∨ a.2.sortOrder = b.2.sortOrder ∧ a.2.name ≤ b.2.name

/-- The rows that the two queries for a view may get. -/
structure Rows (treeView : TreeView) (db : DB) where
  folders : List Row
  listed : folders.Perm (db.folders.entries.filter (·.2.treeView = treeView))
  sorted : folders.Pairwise Row.Before
  members : List FolderMember
  joined : members.Perm (db.members.filter fun m => db.inView treeView m.folderID)

/-- `GetAllMembers` groups the rows by folder. -/
def groupMembers (rows : List FolderMember) : FiniteMap.Map String (List FolderMember) :=
  rows.foldl (fun groups m => groups.insert m.folderID
    ((groups.lookup m.folderID).getD [] ++ [m])) ∅

/-- The slice with the members filled in, before anything is linked. -/
def filled (membersByFolder : FiniteMap.Map String (List FolderMember)) (rows : List Row) :
    List FolderTree :=
  rows.map fun r => .node r.1 r.2 ((membersByFolder.lookup r.1).getD []) []

/-- The pointers of `folderMap`, as places in the slice. -/
def folderMap (folders : List FolderTree) : FiniteMap.Map String Nat :=
  folders.zipIdx.foldl (fun pointers f => pointers.insert f.1.id f.2) ∅

/-- One folder becomes a root, or its copy a child of the folder that its parent points to. -/
def linkOne (pointers : FiniteMap.Map String Nat) (state : List FolderTree × List FolderTree)
    (i : Nat) : List FolderTree × List FolderTree :=
  match state.1[i]? with
  | none => state
  | some f =>
      match f.folder.parentID with
      | none => (state.1, state.2 ++ [f])
      | some p =>
          match pointers.lookup p with
          | some j =>
              (state.1.modify j fun parent => parent.withChildren (parent.children ++ [f]),
                state.2)
          | none => (state.1, state.2 ++ [f])

/-- The slice and the roots after the loop. -/
def link (folders : List FolderTree) : List FolderTree × List FolderTree :=
  (List.range folders.length).foldl (linkOne (folderMap folders)) (folders, [])

/-- `buildTreeFromMap`, as far as the fuel goes; a pointer that is nil gives nothing, either. -/
def rebuild (pointers : FiniteMap.Map String Nat) (slice : List FolderTree) :
    Nat → List FolderTree → Option (List FolderTree)
  | 0, _ => none
  | n + 1, folders => folders.mapM fun f =>
      match (pointers.lookup f.id).bind (slice[·]?) with
      | none => none
      | some folder =>
          if folder.children.length > 0 then
            (rebuild pointers slice n folder.children).map folder.withChildren
          else some folder

/-- `Service.GetFolderTree` on the answers to its two queries. -/
def listTree (n : Nat) (folders : Except String (List Row))
    (members : Except String (List FolderMember)) : Option (Except String (List FolderTree)) :=
  match folders with
  | .error err => some (.error ("get folders: " ++ err))
  | .ok rows =>
      match members with
      | .error err => some (.error ("get members: " ++ err))
      | .ok memberRows =>
          let slice := filled (groupMembers memberRows) rows
          (rebuild (folderMap slice) (link slice).1 n (link slice).2).map .ok

end Code

section Faithful

mutual

/-- The tree and all trees in it. -/
def FolderTree.nodes : FolderTree → List FolderTree
  | .node id folder members children =>
      .node id folder members children :: nodesOf children

def nodesOf : List FolderTree → List FolderTree
  | [] => []
  | t :: rest => t.nodes ++ nodesOf rest

end

/-- The forest is that of the stored folders of the view. -/
structure FaithfulTree (treeView : TreeView) (db : DB) (forest : List FolderTree) : Prop where
  once : ((nodesOf forest).map FolderTree.row).Perm
    (db.folders.entries.filter (·.2.treeView = treeView))
  roots : ∀ t ∈ forest, t.folder.parentID = none
  nested : ∀ t ∈ nodesOf forest, ∀ c ∈ t.children, c.folder.parentID = some t.id
  members : ∀ t ∈ nodesOf forest, t.members.Perm (db.members.filter (·.folderID = t.id))
  sortedRoots : forest.Pairwise fun a b => a.row.Before b.row
  sorted : ∀ t ∈ nodesOf forest, t.children.Pairwise fun a b => a.row.Before b.row

end Faithful

section Linking

/-- The members of a folder are in its group, in their order. -/
theorem lookup_groupMembers (rows : List FolderMember) (id : String) :
    ((groupMembers rows).lookup id).getD [] = rows.filter (·.folderID = id) := by
  induction rows using List.reverseRecOn with
  | nil => rfl
  | append_singleton rows m ih =>
      rw [groupMembers, List.foldl_append, ← groupMembers, List.foldl_cons, List.foldl_nil,
        FiniteMap.lookup_insert_eq, List.filter_append]
      by_cases here : id = m.folderID
      · subst here
        simp [ih]
      · rw [if_neg here, ih, List.filter_singleton, decide_eq_false (Ne.symm here)]
        simp

theorem lookup_folderMap {folders : List FolderTree} (unique : (folders.map (·.id)).Nodup)
    (id : String) (j : Nat) :
    (folderMap folders).lookup id = some j ↔ ∃ f, folders[j]? = some f ∧ f.id = id := by
  induction folders using List.reverseRecOn generalizing j with
  | nil =>
      constructor
      · exact fun found => nomatch found
      · rintro ⟨f, found, -⟩
        exact nomatch found
  | append_singleton rest last ih =>
      rw [List.map_append, List.nodup_append] at unique
      have fresh : ∀ f ∈ rest, f.id ≠ last.id := by
        intro f member
        exact unique.2.2 f.id (List.mem_map_of_mem member) last.id List.mem_cons_self
      rw [folderMap, List.zipIdx_append, List.foldl_append, ← folderMap]
      simp only [List.zipIdx_cons, List.zipIdx_nil, List.foldl_cons, List.foldl_nil, Nat.zero_add]
      rw [FiniteMap.lookup_insert_eq]
      by_cases here : id = last.id
      · rw [if_pos here]
        constructor
        · rintro found
          obtain rfl := Option.some.inj found
          exact ⟨last, by simp, here.symm⟩
        · rintro ⟨f, found, key⟩
          rcases Nat.lt_or_ge j rest.length with inside | after
          · rw [List.getElem?_append_left inside] at found
            exact absurd (key.trans here) (fresh f (List.mem_of_getElem? found))
          · obtain ⟨bound, -⟩ := List.getElem?_eq_some_iff.mp found
            rw [List.length_append, List.length_singleton] at bound
            exact congrArg some (by omega)
      · rw [if_neg here, ih unique.1]
        constructor
        · rintro ⟨f, found, key⟩
          obtain ⟨bound, -⟩ := List.getElem?_eq_some_iff.mp found
          exact ⟨f, by rwa [List.getElem?_append_left bound], key⟩
        · rintro ⟨f, found, key⟩
          rcases Nat.lt_or_ge j rest.length with inside | after
          · exact ⟨f, by rwa [List.getElem?_append_left inside] at found, key⟩
          · rw [List.getElem?_append_right after] at found
            obtain rfl := List.mem_singleton.mp (List.mem_of_getElem? found)
            exact absurd key.symm here

/-- After the first rows: each place has its row and its members, and copies of those of its
children that have come. -/
structure Linked (rows : List Row) (members : List FolderMember) (i : Nat)
    (state : List FolderTree × List FolderTree) : Prop where
  places : ∀ (j : Nat) (r : Row), rows[j]? = some r → ∃ copies,
    state.1[j]? = some (FolderTree.node r.1 r.2 (members.filter (·.folderID = r.1)) copies) ∧
      copies.map FolderTree.row = childrenOf (rows.take i) r.1
  roots : state.2.map FolderTree.row =
    (rows.take i).filter fun r => r.2.parentID.all fun p => rows.all (·.1 ≠ p)

variable {rows : List Row} {members : List FolderMember}

theorem ids_filled (membersByFolder : FiniteMap.Map String (List FolderMember)) :
    (filled membersByFolder rows).map (·.id) = rows.map (·.1) := by
  rw [filled, List.map_map]
  rfl

theorem linked_filled :
    Linked rows members 0 (filled (groupMembers members) rows, []) := by
  constructor
  · intro j r found
    refine ⟨[], ?_, rfl⟩
    rw [filled, List.getElem?_map, found, Option.map_some, lookup_groupMembers]
  · rfl

theorem lookup_filled (unique : (rows.map (·.1)).Nodup) (id : String) (j : Nat) :
    (folderMap (filled (groupMembers members) rows)).lookup id = some j ↔
      ∃ r, rows[j]? = some r ∧ r.1 = id := by
  rw [lookup_folderMap (by rwa [ids_filled])]
  simp only [filled, List.getElem?_map, Option.map_eq_some_iff]
  constructor
  · rintro ⟨_, ⟨r, found, rfl⟩, key⟩
    exact ⟨r, found, key⟩
  · rintro ⟨r, found, key⟩
    exact ⟨_, ⟨r, found, rfl⟩, key⟩

theorem childrenOf_append (first last : List Row) (id : String) :
    childrenOf (first ++ last) id = childrenOf first id ++ childrenOf last id :=
  List.filter_append first last

/-- One turn of the loop puts one row where it belongs. -/
theorem linked_linkOne (unique : (rows.map (·.1)).Nodup) {i : Nat}
    {state : List FolderTree × List FolderTree} (linked : Linked rows members i state)
    (inside : i < rows.length) :
    Linked rows members (i + 1)
      (linkOne (folderMap (filled (groupMembers members) rows)) state i) := by
  obtain ⟨r, found⟩ : ∃ r, rows[i]? = some r := ⟨_, List.getElem?_eq_getElem inside⟩
  obtain ⟨copies, cell, -⟩ := linked.places i r found
  have next : rows.take (i + 1) = rows.take i ++ [r] := by
    rw [List.take_add_one, found]
    rfl
  have unplaced : ∀ id, r.2.parentID ≠ some id →
      childrenOf (rows.take (i + 1)) id = childrenOf (rows.take i) id := by
    intro id other
    rw [next, childrenOf_append, childrenOf, childrenOf, List.filter_singleton,
      decide_eq_false other]
    exact List.append_nil _
  have rooted : (r.2.parentID.all fun p => rows.all (·.1 ≠ p)) = true →
      Linked rows members (i + 1) (state.1,
        state.2 ++ [FolderTree.node r.1 r.2 (members.filter (·.folderID = r.1)) copies]) := by
    intro root
    constructor
    · intro j r' found'
      obtain ⟨copies', cell', same⟩ := linked.places j r' found'
      refine ⟨copies', cell', ?_⟩
      rw [same, unplaced]
      intro child
      rw [child] at root
      have apart := List.all_eq_true.mp root r' (List.mem_of_getElem? found')
      exact absurd rfl (of_decide_eq_true apart)
    · rw [List.map_append, linked.roots, next, List.filter_append, List.filter_singleton, root]
      rfl
  cases parent : r.2.parentID with
  | none =>
      simp only [linkOne, cell, FolderTree.folder, parent]
      exact rooted (by rw [parent]; rfl)
  | some p =>
      cases pointer : (folderMap (filled (groupMembers members) rows)).lookup p with
      | none =>
          simp only [linkOne, cell, FolderTree.folder, parent, pointer]
          refine rooted ?_
          rw [parent]
          refine List.all_eq_true.mpr fun r' member => decide_eq_true fun same => ?_
          obtain ⟨j, found'⟩ := List.getElem?_of_mem member
          have known := (@lookup_filled rows members unique p j).mpr
            ⟨r', found', same⟩
          cases pointer.symm.trans known
      | some j =>
          obtain ⟨upper, there, key⟩ := (lookup_filled unique p j).mp pointer
          simp only [linkOne, cell, FolderTree.folder, parent, pointer]
          constructor
          · intro k r' found'
            obtain ⟨copies', cell', same⟩ := linked.places k r' found'
            by_cases here : k = j
            · subst here
              obtain rfl := Option.some.inj (there.symm.trans found')
              refine ⟨copies' ++
                [FolderTree.node r.1 r.2 (members.filter (·.folderID = r.1)) copies], ?_, ?_⟩
              · simp only [List.getElem?_modify, cell', if_true, Option.map_eq_map, Option.map_some,
                  FolderTree.withChildren, FolderTree.children]
              · rw [List.map_append, same, next, childrenOf_append]
                congr 1
                rw [childrenOf, List.filter_singleton, parent, key, decide_eq_true rfl]
                rfl
            · refine ⟨copies', ?_, ?_⟩
              · simp only [List.getElem?_modify, cell', if_neg (Ne.symm here), Option.map_eq_map,
                  Option.map_some]
              · rw [same, unplaced]
                rw [parent]
                intro child
                have ids : upper.1 = r'.1 := key.trans (Option.some.inj child)
                have places : j = k := by
                  obtain ⟨first, -⟩ := List.getElem?_eq_some_iff.mp there
                  rw [← List.length_map (·.1)] at first
                  apply (List.getElem?_inj first unique).mp
                  rw [List.getElem?_map, List.getElem?_map, there, found']
                  exact congrArg some ids
                exact here places.symm
          · change state.2.map FolderTree.row = _
            rw [linked.roots, next, List.filter_append, List.filter_singleton, parent]
            have below : ¬(rows.all (·.1 ≠ p)) = true := by
              intro apart
              have away := List.all_eq_true.mp apart upper (List.mem_of_getElem? there)
              exact of_decide_eq_true away key
            rw [Option.all_some, Bool.eq_false_iff.mpr below]
            exact (List.append_nil _).symm

theorem linked_link (unique : (rows.map (·.1)).Nodup) :
    Linked rows members rows.length (link (filled (groupMembers members) rows)) := by
  have size : (filled (groupMembers members) rows).length = rows.length := List.length_map _
  have all : ∀ i ≤ rows.length, Linked rows members i
      ((List.range i).foldl (linkOne (folderMap (filled (groupMembers members) rows)))
        (filled (groupMembers members) rows, [])) := by
    intro i
    induction i with
    | zero => exact fun _ => linked_filled
    | succ i ih =>
        intro inside
        rw [List.range_succ, List.foldl_append]
        exact linked_linkOne unique (ih (Nat.le_of_succ_le inside)) inside
  rw [link, size]
  exact all rows.length le_rfl

/-- What is taken through the pointers is the tree of the rows: no copy that was made too early
stays. -/
theorem rebuild_of_built (unique : (rows.map (·.1)).Nodup)
    {state : List FolderTree × List FolderTree} (linked : Linked rows members rows.length state)
    {n : Nat} {l forest : List FolderTree} (stored : ∀ f ∈ l, f.row ∈ rows)
    (built : buildTreeFromMap rows members n (l.map FolderTree.row) = some forest) :
    rebuild (folderMap (filled (groupMembers members) rows)) state.1 n l = some forest := by
  induction n generalizing l forest with
  | zero => cases built
  | succ n ih =>
      refine mapM_eq_some_iff.mpr (forall₂_of_map ?_ (mapM_eq_some_iff.mp built))
      intro f member t made
      obtain ⟨children, here, rfl⟩ := Option.map_eq_some_iff.mp made
      obtain ⟨j, found⟩ := List.getElem?_of_mem (stored f member)
      obtain ⟨copies, cell, same⟩ := linked.places j f.row found
      rw [List.take_length] at same
      have pointer := (@lookup_filled rows members unique f.id j).mpr ⟨f.row, found, rfl⟩
      rw [← same] at here
      simp only [pointer, Option.bind_some, cell]
      change (if copies.length > 0 then _ else _) = _
      by_cases some_ : copies.length > 0
      · have rest := ih (fun c inside => ?_) here
        · rw [if_pos some_]
          change (rebuild _ state.1 n copies).map _ = _
          rw [rest]
          rfl
        · have child := same ▸ List.mem_map_of_mem (f := FolderTree.row) inside
          exact (mem_childrenOf_iff.mp child).1
      · obtain rfl : copies = [] := List.eq_nil_of_length_eq_zero (by omega)
        cases n with
        | zero => cases here
        | succ n =>
            obtain rfl := Option.some.inj here
            exact if_neg some_

theorem rebuild_link (unique : (rows.map (·.1)).Nodup) {n : Nat} {forest : List FolderTree}
    (built : buildTreeFromMap rows members n (rootsOf rows) = some forest) :
    listTree n (.ok rows) (.ok members) = some (.ok forest) := by
  have linked := @linked_link rows members unique
  have roots : (link (filled (groupMembers members) rows)).2.map FolderTree.row =
      rootsOf rows := by
    rw [linked.roots, List.take_length]
    rfl
  have stored : ∀ f ∈ (link (filled (groupMembers members) rows)).2, f.row ∈ rows := by
    intro f member
    have root := roots ▸ List.mem_map_of_mem (f := FolderTree.row) member
    exact (mem_rootsOf_iff.mp root).1
  rw [← roots] at built
  simp only [listTree, rebuild_of_built unique linked stored built, Option.map_some]

end Linking

section Shape

variable {rows : List Row} {members : List FolderMember} {n : Nat} {l : List Row}
  {forest : List FolderTree}

theorem nodesOf_eq_flatMap (forest : List FolderTree) :
    nodesOf forest = forest.flatMap FolderTree.nodes := by
  induction forest with
  | nil => simp only [nodesOf, List.flatMap_nil]
  | cons t rest ih => simp only [nodesOf, List.flatMap_cons, ih]

theorem nodes_eq (t : FolderTree) : t.nodes = t :: nodesOf t.children := by
  cases t with
  | node id folder members children => simp only [FolderTree.nodes, FolderTree.children]

theorem mem_nodesOf_iff {t : FolderTree} :
    t ∈ nodesOf forest ↔ ∃ s ∈ forest, t = s ∨ t ∈ nodesOf s.children := by
  simp only [nodesOf_eq_flatMap forest, List.mem_flatMap, nodes_eq, List.mem_cons]

/-- The trees of a forest that is built: each is of a row, and over the tree of its children. -/
theorem tops_of_built (built : buildTreeFromMap rows members (n + 1) l = some forest) :
    forest.map FolderTree.row = l ∧ ∀ s ∈ forest,
      s.members = members.filter (·.folderID = s.id) ∧ s.row ∈ l ∧
        buildTreeFromMap rows members n (childrenOf rows s.id) = some s.children := by
  have each := mapM_eq_some_iff.mp built
  have rows_ : List.Forall₂ (fun r t => r = FolderTree.row t) l forest := by
    refine each.imp fun r t made => ?_
    obtain ⟨children, -, rfl⟩ := Option.map_eq_some_iff.mp made
    rfl
  constructor
  · have same := List.forall₂_map_right_iff.mpr rows_
    rw [List.forall₂_eq_eq_eq] at same
    exact same.symm
  · intro s member
    obtain ⟨r, listed, made⟩ := source_of_mem each s member
    obtain ⟨children, here, rfl⟩ := Option.map_eq_some_iff.mp made
    exact ⟨rfl, listed, here⟩

/-- Every tree in it has the members of its folder, and the rows below it as its children. -/
theorem nodes_of_built (built : buildTreeFromMap rows members n l = some forest)
    (listed : ∀ r ∈ l, r ∈ rows) : ∀ t ∈ nodesOf forest, t.row ∈ rows ∧
      t.members = members.filter (·.folderID = t.id) ∧
        t.children.map FolderTree.row = childrenOf rows t.id := by
  induction n generalizing l forest with
  | zero => cases built
  | succ n ih =>
      intro t member
      obtain ⟨s, top, within⟩ := mem_nodesOf_iff.mp member
      obtain ⟨own, row, below⟩ := (tops_of_built built).2 s top
      have inside : ∀ r ∈ childrenOf rows s.id, r ∈ rows :=
        fun r child => (mem_childrenOf_iff.mp child).1
      rcases within with rfl | deeper
      · refine ⟨listed _ row, own, ?_⟩
        cases n with
        | zero => cases below
        | succ n => exact (tops_of_built below).1
      · exact ih below inside t deeper

theorem child_mem_nodesOf {t c : FolderTree} (member : t ∈ nodesOf forest) (child : c ∈ t.children)
    (built : buildTreeFromMap rows members n l = some forest) : c ∈ nodesOf forest := by
  induction n generalizing l forest with
  | zero => cases built
  | succ n ih =>
      obtain ⟨s, top, within⟩ := mem_nodesOf_iff.mp member
      refine mem_nodesOf_iff.mpr ⟨s, top, Or.inr ?_⟩
      rcases within with rfl | deeper
      · exact mem_nodesOf_iff.mpr ⟨c, child, Or.inl rfl⟩
      · exact ih deeper ((tops_of_built built).2 s top).2.2

variable {db : DB}

theorem parent_of_child (stored : ∀ r ∈ rows, db.getFolder r.1 = some r.2) {id : String}
    {children : List FolderTree} {s : FolderTree}
    (built : buildTreeFromMap rows members n (childrenOf rows id) = some children)
    (child : s ∈ children) : db.parent s.id = some id := by
  cases n with
  | zero => cases built
  | succ n =>
      obtain ⟨listed, edge⟩ := mem_childrenOf_iff.mp ((tops_of_built built).2 s child).2.1
      exact (parent_of_getFolder (stored _ listed)).trans edge

theorem below_top (stored : ∀ r ∈ rows, db.getFolder r.1 = some r.2)
    (built : buildTreeFromMap rows members n l = some forest) :
    ∀ s ∈ forest, ∀ t ∈ s.nodes, s.id = t.id ∨ Ancestor db.parent s.id t.id := by
  induction n generalizing l forest with
  | zero => cases built
  | succ n ih =>
      intro s top t member
      rw [nodes_eq] at member
      rcases List.mem_cons.mp member with rfl | deeper
      · exact Or.inl rfl
      · right
        have below := ((tops_of_built built).2 s top).2.2
        obtain ⟨s', child, within⟩ := mem_nodesOf_iff.mp deeper
        have upper := ancestor_of_parent (parent_of_child stored below child)
        have inside : t ∈ s'.nodes := by
          rw [nodes_eq]
          exact List.mem_cons.mpr within
        rcases ih below s' child t inside with same | lower
        · exact same ▸ upper
        · exact upper.trans lower

theorem nodup_nodesOf (wf : WellFormed db) (stored : ∀ r ∈ rows, db.getFolder r.1 = some r.2)
    (unique : (rows.map (·.1)).Nodup)
    (built : buildTreeFromMap rows members n l = some forest) (distinct : (l.map (·.1)).Nodup)
    (siblings : ∀ a ∈ l, ∀ b ∈ l, db.parent a.1 = db.parent b.1) :
    ((nodesOf forest).map (·.id)).Nodup := by
  induction n generalizing l forest with
  | zero => cases built
  | succ n ih =>
      obtain ⟨same, tops⟩ := tops_of_built built
      rw [nodesOf_eq_flatMap, List.map_flatMap]
      refine List.nodup_flatMap.mpr ⟨?_, ?_⟩
      · intro s top
        obtain ⟨-, -, below⟩ := tops s top
        rw [nodes_eq, List.map_cons]
        refine List.nodup_cons.mpr ⟨?_, ih below ?_ ?_⟩
        · intro back
          obtain ⟨t, deeper, key⟩ := List.mem_map.mp back
          obtain ⟨s', child, within⟩ := mem_nodesOf_iff.mp deeper
          have upper := parent_of_child stored below child
          have inside : t ∈ s'.nodes := by
            rw [nodes_eq]
            exact List.mem_cons.mpr within
          rcases below_top stored below s' child t inside with here | lower
          · rw [here.trans key] at upper
            exact wf.rooted.irrefl s.id (ancestor_of_parent upper)
          · rw [key] at lower
            exact wf.rooted.irrefl s.id ((ancestor_of_parent upper).trans lower)
        · exact (List.filter_sublist.map _).nodup unique
        · intro a first b second
          obtain ⟨listed, edge⟩ := mem_childrenOf_iff.mp first
          obtain ⟨listed', edge'⟩ := mem_childrenOf_iff.mp second
          rw [parent_of_getFolder (stored a listed), parent_of_getFolder (stored b listed'),
            edge, edge']
      · rw [← same, List.map_map] at distinct
        refine (List.pairwise_map.mp distinct).imp_of_mem ?_
        intro a b first second different x inside inside'
        obtain ⟨t, member, rfl⟩ := List.mem_map.mp inside
        obtain ⟨t', member', key⟩ := List.mem_map.mp inside'
        have lower := below_top stored built a first t member
        have lower' := below_top stored built b second t' member'
        rw [key] at lower'
        exact different (wf.rooted.siblings_apart
          (siblings a.row (tops a first).2.1 b.row (tops b second).2.1) lower lower')

end Shape

section Listing

variable {db : DB} {treeView : TreeView}

theorem Rows.mem_iff (answers : Rows treeView db) {r : Row} :
    r ∈ answers.folders ↔ db.getFolder r.1 = some r.2 ∧ r.2.treeView = treeView := by
  rw [answers.listed.mem_iff, List.mem_filter, decide_eq_true_iff]
  exact and_congr_left fun _ => AList.mem_lookup_iff.symm

theorem Rows.unique (answers : Rows treeView db) : (answers.folders.map (·.1)).Nodup := by
  refine (answers.listed.map _).nodup_iff.mpr ?_
  exact (List.filter_sublist.map _).nodup db.folders.nodupKeys

/-- In a table that is well formed the roots of a view are its folders without a parent. -/
theorem parent_of_root (wf : WellFormed db) (answers : Rows treeView db) {r : Row}
    (root : r ∈ rootsOf answers.folders) : r.2.parentID = none := by
  obtain ⟨listed, apart⟩ := mem_rootsOf_iff.mp root
  obtain ⟨found, view⟩ := answers.mem_iff.mp listed
  cases parent : r.2.parentID with
  | none => rfl
  | some p =>
      obtain ⟨g, there, same⟩ := wf.parents r.1 r.2 p found parent
      have upper : ⟨p, g⟩ ∈ answers.folders := answers.mem_iff.mpr ⟨there, same.trans view⟩
      exact absurd rfl (apart p parent ⟨p, g⟩ upper)

theorem Rows.members_of_folder (answers : Rows treeView db) {r : Row}
    (listed : r ∈ answers.folders) :
    (answers.members.filter (·.folderID = r.1)).Perm (db.members.filter (·.folderID = r.1)) := by
  obtain ⟨found, view⟩ := answers.mem_iff.mp listed
  refine (answers.joined.filter _).trans (List.Perm.of_eq ?_)
  rw [List.filter_filter]
  refine List.filter_congr fun m _ => ?_
  by_cases own : m.folderID = r.1
  · simp [own, DB.inView, found, view]
  · simp [own]

theorem shown_in_tree (wf : WellFormed db) (answers : Rows treeView db) {n : Nat}
    {forest : List FolderTree}
    (built : buildTreeFromMap answers.folders answers.members n (rootsOf answers.folders) =
      some forest) {id : String} {f : Folder} (listed : ⟨id, f⟩ ∈ answers.folders) :
    ∃ t ∈ nodesOf forest, t.row = ⟨id, f⟩ := by
  induction id using wf.rooted.induction generalizing f with
  | _ id ih =>
      obtain ⟨found, view⟩ := answers.mem_iff.mp listed
      cases parent : f.parentID with
      | none =>
          cases n with
          | zero => cases built
          | succ n =>
              have root : ⟨id, f⟩ ∈ rootsOf answers.folders :=
                mem_rootsOf_iff.mpr ⟨listed, fun p child => nomatch parent.symm.trans child⟩
              rw [← (tops_of_built built).1] at root
              obtain ⟨t, top, row⟩ := List.mem_map.mp root
              exact ⟨t, mem_nodesOf_iff.mpr ⟨t, top, Or.inl rfl⟩, row⟩
      | some p =>
          obtain ⟨g, there, same⟩ := wf.parents id f p found parent
          have upper : ⟨p, g⟩ ∈ answers.folders := answers.mem_iff.mpr ⟨there, same.trans view⟩
          obtain ⟨t, member, row⟩ := ih p ((parent_of_getFolder found).trans parent) upper
          obtain ⟨-, -, children⟩ := nodes_of_built built
            (fun r root => (mem_rootsOf_iff.mp root).1) t member
          have own : t.id = p := congrArg Sigma.fst row
          have child : (⟨id, f⟩ : Row) ∈ childrenOf answers.folders t.id :=
            mem_childrenOf_iff.mpr ⟨listed, parent.trans (congrArg some own.symm)⟩
          rw [← children] at child
          obtain ⟨c, inside, row'⟩ := List.mem_map.mp child
          exact ⟨c, child_mem_nodesOf member inside built, row'⟩

theorem faithful_of_built (wf : WellFormed db) (answers : Rows treeView db) {n : Nat}
    {forest : List FolderTree}
    (built : buildTreeFromMap answers.folders answers.members n (rootsOf answers.folders) =
      some forest) : FaithfulTree treeView db forest := by
  have stored : ∀ r ∈ answers.folders, db.getFolder r.1 = some r.2 :=
    fun r listed => (answers.mem_iff.mp listed).1
  have below : ∀ r ∈ rootsOf answers.folders, r ∈ answers.folders :=
    fun r root => (mem_rootsOf_iff.mp root).1
  have nodes := nodes_of_built built below
  obtain ⟨tops, each⟩ : forest.map FolderTree.row = rootsOf answers.folders ∧
      ∀ t ∈ forest, t.row ∈ rootsOf answers.folders := by
    cases n with
    | zero => cases built
    | succ n =>
        obtain ⟨tops, each⟩ := tops_of_built built
        exact ⟨tops, fun t top => (each t top).2.1⟩
  have ids : ((nodesOf forest).map (·.id)).Nodup := by
    refine nodup_nodesOf wf stored answers.unique built ?_ ?_
    · exact (List.filter_sublist.map _).nodup answers.unique
    · intro a first b second
      rw [parent_of_getFolder (stored a (below a first)),
        parent_of_getFolder (stored b (below b second)), parent_of_root wf answers first,
        parent_of_root wf answers second]
  constructor
  · have rows : ((nodesOf forest).map FolderTree.row).Nodup := by
      refine List.Nodup.of_map Sigma.fst ?_
      rwa [List.map_map]
    refine List.Perm.trans ?_ answers.listed
    refine (List.perm_ext_iff_of_nodup rows answers.unique.of_map).mpr fun r => ?_
    constructor
    · intro member
      obtain ⟨t, inside, rfl⟩ := List.mem_map.mp member
      exact (nodes t inside).1
    · intro listed
      obtain ⟨t, inside, row⟩ := shown_in_tree wf answers built listed
      exact List.mem_map.mpr ⟨t, inside, row⟩
  · exact fun t top => parent_of_root wf answers (each t top)
  · intro t member c child
    have row : c.row ∈ childrenOf answers.folders t.id := by
      rw [← (nodes t member).2.2]
      exact List.mem_map_of_mem child
    exact (mem_childrenOf_iff.mp row).2
  · intro t member
    obtain ⟨listed, own, -⟩ := nodes t member
    rw [own]
    exact answers.members_of_folder listed
  · refine List.pairwise_map.mp (tops ▸ ?_)
    exact answers.sorted.sublist List.filter_sublist
  · intro t member
    refine List.pairwise_map.mp ((nodes t member).2.2 ▸ ?_)
    exact answers.sorted.sublist List.filter_sublist

/-- In a forest the listing ends and shows every folder of the view in its place, whatever order
the rows come in. -/
theorem tree_faithful (wf : WellFormed db) (answers : Rows treeView db) :
    ∃ forest, FaithfulTree treeView db forest ∧
      ∃ n, ∀ m, n ≤ m →
        listTree m (.ok answers.folders) (.ok answers.members) = some (.ok forest) := by
  obtain ⟨n, forest, built⟩ := @exists_built answers.folders answers.members db wf
    (fun r listed => (answers.mem_iff.mp listed).1) (rootsOf answers.folders)
  refine ⟨forest, faithful_of_built wf answers built, n, fun m enough => ?_⟩
  exact rebuild_link answers.unique (built_mono built enough)

theorem Row.Before.trans {a b c : Row} (first : a.Before b) (second : b.Before c) :
    a.Before c := by
  rcases first with lower | ⟨same, name⟩
  · rcases second with lower' | ⟨same', -⟩
    · exact Or.inl (lower.trans lower')
    · exact Or.inl (same' ▸ lower)
  · rcases second with lower' | ⟨same', name'⟩
    · exact Or.inl (same ▸ lower')
    · exact Or.inr ⟨same.trans same', String.le_trans name name'⟩

theorem Row.before_total (a b : Row) : a.Before b ∨ b.Before a := by
  rcases lt_trichotomy a.2.sortOrder b.2.sortOrder with lower | same | lower
  · exact Or.inl (Or.inl lower)
  · rcases String.le_total a.2.name b.2.name with name | name
    · exact Or.inl (Or.inr ⟨same, name⟩)
    · exact Or.inr (Or.inr ⟨same.symm, name⟩)
  · exact Or.inr (Or.inl lower)

/-- Answers with the members as they stand in the table. -/
def rowsOf (treeView : TreeView) (db : DB) : Rows treeView db where
  folders := db.getFolders treeView
  listed := List.mergeSort_perm _ _
  sorted := by
    have before : ∀ a b : Row, (a.2.sortOrder < b.2.sortOrder ||
        a.2.sortOrder = b.2.sortOrder && a.2.name ≤ b.2.name) = true ↔ a.Before b := by
      intro a b
      simp [Row.Before]
    refine (List.pairwise_mergeSort ?_ ?_ _).imp fun {a b} => (before a b).mp
    · intro a b c first second
      exact (before a c).mpr (((before a b).mp first).trans ((before b c).mp second))
    · intro a b
      rw [Bool.or_eq_true, before, before]
      exact Row.before_total a b
  members := db.members.filter fun m => db.inView treeView m.folderID
  joined := List.Perm.refl _

end Listing

/-- A folder that is listed before the one it is in. -/
def nested : DB :=
  run [⟨.createFolder ⟨"web", none, .vms, none⟩, ⟨"f-1", 0⟩⟩,
    ⟨.createFolder ⟨"apps", some "f-1", .vms, none⟩, ⟨"f-2", 0⟩⟩,
    ⟨.createFolder ⟨"admin", some "f-2", .vms, none⟩, ⟨"f-3", 0⟩⟩,
    ⟨.addMember "f-3" vm100, ⟨"", 0⟩⟩]

theorem nested_is_listed :
    ∃ forest, FaithfulTree .vms nested forest ∧
      ∃ n, ∀ m, n ≤ m →
        listTree m (.ok (rowsOf .vms nested).folders) (.ok (rowsOf .vms nested).members) =
          some (.ok forest) :=
  tree_faithful (wellFormed_run _) (rowsOf .vms nested)

end Folders
