import PCenter.Folders

/-!
# The folder of a resource

`GetResourceFolder` and the trees rely on every resource being in at most one folder of a
view. The table does not say so, `MoveResource` takes the old membership away and
`AddMember` does not.
-/

namespace Folders

open Forest Transition

section Memberships

/-- No resource is in two folders of one view. -/
def AtMostOne (db : DB) : Prop :=
  ∀ treeView resource, ∀ a ∈ db.foldersOf treeView resource,
    ∀ b ∈ db.foldersOf treeView resource, a = b

/-- A member that is added is in no other folder of the view. -/
def Fresh (db : DB) (e : Event) : Prop :=
  match e.call with
  | .addMember folderID resource => validResourceType resource = true →
      ∀ folder, db.getFolder folderID = some folder →
        ∀ other ∈ db.foldersOf folder.treeView resource, other = folderID
  | _ => True

/-- Every membership has its folder. -/
def Housed (db : DB) : Prop := ∀ m ∈ db.members, ∃ f, db.getFolder m.folderID = some f

variable {db db' : DB} {o : Outside} {treeView : TreeView} {resource : Resource} {a : String}

theorem inView_iff : db.inView treeView a = true ↔
    ∃ f, db.getFolder a = some f ∧ f.treeView = treeView := by
  cases found : db.getFolder a <;> simp [DB.inView, found]

theorem mem_foldersOf_iff : a ∈ db.foldersOf treeView resource ↔
    ∃ m ∈ db.members, m.resource = resource ∧ m.folderID = a ∧
      ∃ f, db.getFolder a = some f ∧ f.treeView = treeView := by
  rw [DB.foldersOf, List.mem_map]
  constructor
  · rintro ⟨m, listed, rfl⟩
    obtain ⟨member, both⟩ := List.mem_filter.mp listed
    obtain ⟨same, view⟩ := by simpa using both
    exact ⟨m, member, same, rfl, inView_iff.mp view⟩
  · rintro ⟨m, member, rfl, rfl, found⟩
    exact ⟨m, List.mem_filter.mpr ⟨member, by simp [inView_iff.mpr found]⟩, rfl⟩

/-- If no resource is in two folders, then the folder that is returned is the only one. -/
theorem getResourceFolder_of_mem (one : AtMostOne db) (member : a ∈ db.foldersOf treeView resource) :
    db.getResourceFolder treeView resource = some a := by
  rw [DB.getResourceFolder]
  cases listed : db.foldersOf treeView resource with
  | nil =>
      rw [listed] at member
      exact absurd member List.not_mem_nil
  | cons b rest =>
      have first : b ∈ db.foldersOf treeView resource := by
        rw [listed]
        exact List.mem_cons_self
      rw [one treeView resource a member b first]
      rfl

/-- No resource gets into a folder. -/
structure Shrinks (db db' : DB) : Prop where
  fewer : ∀ treeView resource, ∀ a ∈ db'.foldersOf treeView resource,
    a ∈ db.foldersOf treeView resource
  housed : Housed db'

theorem shrinks_refl (housed : Housed db) : Shrinks db db := ⟨fun _ _ _ member => member, housed⟩

theorem Shrinks.trans {db'' : DB} (first : Shrinks db db') (second : Shrinks db' db'') :
    Shrinks db db'' :=
  ⟨fun v r a member => first.fewer v r a (second.fewer v r a member), second.housed⟩

theorem Shrinks.atMostOne (shrinks : Shrinks db db') (one : AtMostOne db) : AtMostOne db' :=
  fun v r a here b there => one v r a (shrinks.fewer v r a here) b (shrinks.fewer v r b there)

theorem shrinks_of (members : ∀ m ∈ db'.members, m ∈ db.members ∧
      ∃ f f', db.getFolder m.folderID = some f ∧ db'.getFolder m.folderID = some f' ∧
        f'.treeView = f.treeView) : Shrinks db db' := by
  constructor
  · intro v r a member
    obtain ⟨m, inside, same, rfl, g, found, view⟩ := mem_foldersOf_iff.mp member
    obtain ⟨before, f, f', there, here, equal⟩ := members m inside
    obtain rfl := Option.some.inj (here.symm.trans found)
    exact mem_foldersOf_iff.mpr ⟨m, before, same, rfl, f, there, equal.symm.trans view⟩
  · intro m inside
    obtain ⟨_, _, f', _, here, _⟩ := members m inside
    exact ⟨f', here⟩

theorem shrinks_put {id : String} {f : Folder} (housed : Housed db)
    (view : ∀ old, db.getFolder id = some old → old.treeView = f.treeView) :
    Shrinks db (db.put id f) := by
  apply shrinks_of
  intro m inside
  obtain ⟨g, found⟩ := housed m inside
  by_cases same : m.folderID = id
  · refine ⟨inside, g, f, found, by rw [getFolder_put, if_pos same], ?_⟩
    rw [same] at found
    exact (view g found).symm
  · exact ⟨inside, g, g, found, by rw [getFolder_put, if_neg same]; exact found, rfl⟩

theorem shrinks_create (housed : Housed db) (req : CreateFolderRequest) :
    Shrinks db (db.createFolder o req).2 := by
  rw [DB.createFolder]
  by_cases taken : (db.getFolder o.uuid).isSome = true
  · rw [if_pos taken]
    exact shrinks_refl housed
  · rw [if_neg taken]
    rcases store_cases "insert folder" db o.uuid
      ⟨req.name, req.parentID, req.treeView, req.cluster, 0, o.now, o.now⟩ with same | ⟨_, wrote⟩
    · rw [same]
      exact shrinks_refl housed
    · rw [wrote]
      apply shrinks_put housed
      exact fun old found => absurd (Option.isSome_of_eq_some found) taken

theorem shrinks_update (housed : Housed db) (id : String) {change : Folder → Folder}
    (view : ∀ f, (change f).treeView = f.treeView) :
    Shrinks db (db.updateFolder o id change).2 := by
  rcases updateFolder_cases o id change db with same | ⟨f, found, _, wrote⟩
  · rw [same]
    exact shrinks_refl housed
  · rw [wrote]
    apply shrinks_put housed
    intro old here
    obtain rfl := Option.some.inj (found.symm.trans here)
    exact (view f).symm

theorem shrinks_delete (housed : Housed db) (id : String) : Shrinks db (db.deleteFolder id).2 := by
  cases found : db.getFolder id with
  | none =>
      rw [DB.deleteFolder, found]
      exact shrinks_refl housed
  | some old =>
      apply shrinks_of
      intro m inside
      rw [DB.deleteFolder, found] at inside
      obtain ⟨member, left⟩ := List.mem_filter.mp inside
      obtain ⟨f, there⟩ := housed m member
      refine ⟨member, f, f, there, ?_, rfl⟩
      rw [getFolder_delete found, there, Option.filter_some, if_pos left]

end Memberships

section Steps

variable {db db' : DB} {o : Outside} {treeView : TreeView} {resource : Resource} {a : String}

/-- Phases that put no resource into a folder. -/
def Phase.putsNone : Phase → Bool
  | .called _ | .adding _ _ | .relocating _ _ _ => false
  | _ => true

theorem shrinks_next (housed : Housed db) {phase : Phase} (quiet : phase.putsNone = true) :
    Shrinks db (next o db phase).2 ∧ (next o db phase).1.putsNone = true := by
  cases phase with
  | creating req => exact ⟨shrinks_create housed req, rfl⟩
  | naming id newName => exact ⟨shrinks_update housed id fun _ => rfl, rfl⟩
  | checking id p treeView =>
      rw [next]
      cases db.getFolder p with
      | none => exact ⟨shrinks_refl housed, rfl⟩
      | some g =>
          dsimp only
          split_ifs <;> exact ⟨shrinks_refl housed, rfl⟩
  | climbing id p current =>
      rw [next]
      cases db.parent current with
      | none => exact ⟨shrinks_refl housed, rfl⟩
      | some q =>
          dsimp only
          split_ifs <;> exact ⟨shrinks_refl housed, rfl⟩
  | moving id newParentID => exact ⟨shrinks_update housed id fun _ => rfl, rfl⟩
  | deleting id => exact ⟨shrinks_delete housed id, rfl⟩
  | returned reply => exact ⟨shrinks_refl housed, rfl⟩
  | _ => cases quiet

theorem shrinks_finish {n : Nat} {phase : Phase} {answer : Reply × DB} (housed : Housed db)
    (quiet : phase.putsNone = true) (ended : finish o n db phase = some answer) :
    Shrinks db answer.2 := by
  have kept : ∀ t phase, Shrinks db t ∧ phase.putsNone = true →
      Shrinks db (next o t phase).2 ∧ (next o t phase).1.putsNone = true := by
    rintro t phase ⟨sofar, quiet⟩
    obtain ⟨first, later⟩ := shrinks_next (o := o) sofar.housed quiet
    exact ⟨sofar.trans first, later⟩
  exact (finish_keeps (P := fun t phase => Shrinks db t ∧ phase.putsNone = true) kept
    ⟨shrinks_refl housed, quiet⟩ ended).1

theorem finish_called (n : Nat) (call : Call) :
    finish o (n + 1) db (.called call) = finish o n (begin o db call).2 (begin o db call).1 := rfl

/-- A step whose call puts no resource into a folder. -/
theorem shrinks_step (housed : Housed db) {e : Event}
    (first : Shrinks db (begin e.outside db e.call).2)
    (quiet : (begin e.outside db e.call).1.putsNone = true) : Shrinks db (step db e) := by
  rw [step, DB.fuel, finish_called]
  cases ended : finish e.outside (db.folders.keys.length + 3) (begin e.outside db e.call).2
    (begin e.outside db e.call).1 with
  | none => exact shrinks_refl housed
  | some answer => exact first.trans (shrinks_finish first.housed quiet ended)

theorem insertMember_of_found {folderID : String} {folder : Folder}
    (found : db.getFolder folderID = some folder) :
    db.insertMember o folderID resource =
      (.ok (),
        { db with
          members :=
            db.members.filter (fun m => ¬(m.folderID = folderID ∧ m.resource = resource)) ++
              [⟨folderID, resource, o.now⟩] }) :=
  if_pos (Option.isSome_of_eq_some found)

theorem mem_foldersOf_insertMember {folderID : String} {folder : Folder}
    (found : db.getFolder folderID = some folder) (v : TreeView) (r : Resource) :
    a ∈ (db.insertMember o folderID resource).2.foldersOf v r ↔
      a ∈ db.foldersOf v r ∨ a = folderID ∧ r = resource ∧ folder.treeView = v := by
  rw [insertMember_of_found found, mem_foldersOf_iff, mem_foldersOf_iff]
  constructor
  · rintro ⟨m, member, rfl, rfl, f, there, view⟩
    rcases List.mem_append.mp member with old | new
    · exact .inl ⟨m, List.mem_of_mem_filter old, rfl, rfl, f, there, view⟩
    · obtain rfl := List.mem_singleton.mp new
      obtain rfl := Option.some.inj (found.symm.trans there)
      exact .inr ⟨rfl, rfl, view⟩
  · rintro (⟨m, member, rfl, rfl, view⟩ | ⟨rfl, rfl, view⟩)
    · by_cases same : m.folderID = folderID ∧ m.resource = resource
      · exact ⟨⟨folderID, resource, o.now⟩, List.mem_append_right _ (List.mem_singleton_self _),
          same.2.symm, same.1.symm, view⟩
      · exact ⟨m, List.mem_append_left _ (List.mem_filter.mpr ⟨member, decide_eq_true same⟩), rfl,
          rfl, view⟩
    · exact ⟨⟨a, r, o.now⟩, List.mem_append_right _ (List.mem_singleton_self _), rfl, rfl, folder,
        found, view⟩

theorem housed_insertMember (housed : Housed db) {folderID : String} {folder : Folder}
    (found : db.getFolder folderID = some folder) :
    Housed (db.insertMember o folderID resource).2 := by
  rw [insertMember_of_found found]
  intro m member
  rcases List.mem_append.mp member with old | new
  · exact housed m (List.mem_of_mem_filter old)
  · obtain rfl := List.mem_singleton.mp new
    exact ⟨folder, found⟩

theorem atMostOne_insertMember (one : AtMostOne db) {folderID : String} {folder : Folder}
    (found : db.getFolder folderID = some folder) :
    AtMostOne (db.insertMember o folderID resource).2 ↔
      ∀ other ∈ db.foldersOf folder.treeView resource, other = folderID := by
  constructor
  · intro later other member
    exact later folder.treeView resource other
      ((mem_foldersOf_insertMember found _ _).mpr (.inl member)) folderID
      ((mem_foldersOf_insertMember found _ _).mpr (.inr ⟨rfl, rfl, rfl⟩))
  · intro alone v r a here b there
    rcases (mem_foldersOf_insertMember found v r).mp here with old | ⟨rfl, rfl, rfl⟩
    · rcases (mem_foldersOf_insertMember found v r).mp there with old' | ⟨rfl, rfl, rfl⟩
      · exact one v r a old b old'
      · exact alone a old
    · rcases (mem_foldersOf_insertMember found _ _).mp there with old' | ⟨rfl, _, _⟩
      · exact (alone b old').symm
      · rfl

theorem shrinks_clear (housed : Housed db) (treeView : TreeView) (resource : Resource) :
    Shrinks db (db.clearResource treeView resource) := by
  apply shrinks_of
  intro m inside
  have member := List.mem_of_mem_filter inside
  obtain ⟨f, found⟩ := housed m member
  exact ⟨member, f, f, found, found, rfl⟩

theorem foldersOf_clear (db : DB) (treeView : TreeView) (resource : Resource) :
    (db.clearResource treeView resource).foldersOf treeView resource = [] := by
  apply List.eq_nil_iff_forall_not_mem.mpr
  intro a member
  obtain ⟨m, inside, same, rfl, f, found, view⟩ := mem_foldersOf_iff.mp member
  obtain ⟨_, other⟩ := List.mem_filter.mp inside
  have here : db.inView treeView m.folderID = true := inView_iff.mpr ⟨f, found, view⟩
  simp [same, here] at other

theorem shrinks_remove (housed : Housed db) (folderID : String) (resource : Resource) :
    Shrinks db (db.removeMember folderID resource).2 := by
  apply shrinks_of
  intro m inside
  have member := List.mem_of_mem_filter inside
  obtain ⟨f, found⟩ := housed m member
  exact ⟨member, f, f, found, found, rfl⟩

end Steps

section Run

variable {db : DB} {e : Event}

theorem step_eq (db : DB) (e : Event) : step db e =
    ((finish e.outside (db.folders.keys.length + 3) (begin e.outside db e.call).2
      (begin e.outside db e.call).1).map Prod.snd).getD db := rfl

def Call.organizes : Call → Bool
  | .addMember _ _ | .removeMember _ _ | .moveResource _ _ _ => false
  | _ => true

theorem begin_organizes (o : Outside) (db : DB) {call : Call} (organizes : call.organizes = true) :
    (begin o db call).2 = db ∧ (begin o db call).1.putsNone = true := by
  cases call with
  | createFolder req =>
      rw [begin]
      split_ifs
      · exact ⟨rfl, rfl⟩
      · exact ⟨rfl, rfl⟩
      · cases req.parentID with
        | none => exact ⟨rfl, rfl⟩
        | some p =>
            cases found : db.getFolder p with
            | none =>
                simp only [found]
                exact ⟨rfl, rfl⟩
            | some g =>
                simp only [found]
                split_ifs <;> exact ⟨rfl, rfl⟩
  | renameFolder id newName =>
      rw [begin]
      split_ifs <;> exact ⟨rfl, rfl⟩
  | moveFolder id newParentID =>
      rw [begin]
      cases db.getFolder id with
      | none => exact ⟨rfl, rfl⟩
      | some folder =>
          cases newParentID with
          | none => exact ⟨rfl, rfl⟩
          | some p =>
              dsimp only
              split_ifs <;> exact ⟨rfl, rfl⟩
  | deleteFolder id =>
      rw [begin]
      split_ifs <;> exact ⟨rfl, rfl⟩
  | _ => cases organizes

theorem shrinks_organizes (housed : Housed db) (organizes : e.call.organizes = true) :
    Shrinks db (step db e) := by
  obtain ⟨same, quiet⟩ := begin_organizes e.outside db organizes
  apply shrinks_step housed _ quiet
  rw [same]
  exact shrinks_refl housed

theorem fresh_organizes (organizes : e.call.organizes = true) : Fresh db e := by
  obtain ⟨call, o⟩ := e
  cases call with
  | addMember folderID resource => cases organizes
  | _ => trivial

theorem step_addMember (o : Outside) (folderID : String) (resource : Resource) :
    step db ⟨.addMember folderID resource, o⟩ =
      if (db.getFolder folderID).isSome = true ∧ validResourceType resource = true then
        (db.insertMember o folderID resource).2
      else db := by
  rw [step_eq, begin]
  by_cases known : (db.getFolder folderID).isSome = true
  · by_cases valid : validResourceType resource = true
    · rw [if_pos known, if_pos valid, if_pos ⟨known, valid⟩]
      rfl
    · rw [if_pos known, if_neg valid, if_neg fun both => valid both.2]
      rfl
  · rw [if_neg known, if_neg fun both => known both.1]
    rfl

theorem step_moveResource (db : DB) (o : Outside) (resource : Resource) (treeView : TreeView)
    (toFolderID : Option String) :
    step db ⟨.moveResource resource treeView toFolderID, o⟩ = db ∨
      step db ⟨.moveResource resource treeView toFolderID, o⟩ = db.clearResource treeView resource ∨
      ∃ folderID folder, db.getFolder folderID = some folder ∧ folder.treeView = treeView ∧
        step db ⟨.moveResource resource treeView toFolderID, o⟩ =
          ((db.clearResource treeView resource).insertMember o folderID resource).2 := by
  by_cases valid : validResourceType resource = true
  · cases toFolderID with
    | none =>
        right
        left
        simp only [step_eq, begin, if_pos valid]
        rfl
    | some folderID =>
        cases found : db.getFolder folderID with
        | none =>
            left
            simp only [step_eq, begin, if_pos valid, found]
            rfl
        | some folder =>
            by_cases view : folder.treeView = treeView
            · refine .inr (.inr ⟨folderID, folder, found, view, ?_⟩)
              simp only [step_eq, begin, if_pos valid, found, if_neg (not_not.mpr view)]
              rfl
            · left
              simp only [step_eq, begin, if_pos valid, found, if_pos view]
              rfl
  · left
    cases toFolderID <;> simp only [step_eq, begin, if_neg valid] <;> rfl

theorem atMostOne_step (housed : Housed db) (one : AtMostOne db) (e : Event) :
    Housed (step db e) ∧ (AtMostOne (step db e) ↔ Fresh db e) := by
  have shrunk : Shrinks db (step db e) → Fresh db e →
      Housed (step db e) ∧ (AtMostOne (step db e) ↔ Fresh db e) :=
    fun shrinks fresh => ⟨shrinks.housed, fun _ => fresh, fun _ => shrinks.atMostOne one⟩
  by_cases organizes : e.call.organizes = true
  · exact shrunk (shrinks_organizes housed organizes) (fresh_organizes organizes)
  · obtain ⟨call, o⟩ := e
    cases call with
    | addMember folderID resource =>
        rw [step_addMember]
        by_cases adds : (db.getFolder folderID).isSome = true ∧ validResourceType resource = true
        · obtain ⟨folder, found⟩ := Option.isSome_iff_exists.mp adds.1
          rw [if_pos adds]
          refine ⟨housed_insertMember housed found, ?_⟩
          rw [atMostOne_insertMember one found]
          constructor
          · intro alone _ folder' found'
            obtain rfl := Option.some.inj (found.symm.trans found')
            exact alone
          · exact fun fresh => fresh adds.2 folder found
        · rw [if_neg adds]
          refine ⟨housed, fun _ valid folder found => ?_, fun _ => one⟩
          exact absurd ⟨Option.isSome_of_eq_some found, valid⟩ adds
    | removeMember folderID resource =>
        exact shrunk (shrinks_remove housed folderID resource) trivial
    | moveResource resource treeView toFolderID =>
        rcases step_moveResource db o resource treeView toFolderID with
          same | cleared | ⟨folderID, folder, found, view, moved⟩
        · rw [same]
          exact ⟨housed, fun _ => trivial, fun _ => one⟩
        · rw [cleared]
          have shrinks := shrinks_clear housed treeView resource
          exact ⟨shrinks.housed, fun _ => trivial, fun _ => shrinks.atMostOne one⟩
        · rw [moved]
          have shrinks := shrinks_clear housed treeView resource
          have there : (db.clearResource treeView resource).getFolder folderID = some folder := found
          refine ⟨housed_insertMember shrinks.housed there, fun _ => trivial, fun _ => ?_⟩
          rw [atMostOne_insertMember (shrinks.atMostOne one) there, view, foldersOf_clear]
          exact List.forall_mem_nil _
    | _ => exact absurd rfl organizes

/-- A sequence of calls keeps every resource in at most one folder of each view, in all its
states, exactly if each member that it adds is in no other folder of the view. -/
theorem atMostOne_iff_fresh (es : List Event) :
    (∀ db ∈ states step DB.empty es, AtMostOne db) ↔ Along step Fresh DB.empty es := by
  have general : ∀ db, Housed db → AtMostOne db →
      ((∀ t ∈ states step db es, AtMostOne t) ↔ Along step Fresh db es) := by
    induction es with
    | nil =>
        intro db _ one
        exact ⟨fun _ => trivial, fun _ t member => by
          obtain rfl := List.mem_singleton.mp member
          exact one⟩
    | cons e es ih =>
        intro db housed one
        obtain ⟨housed', same⟩ := atMostOne_step housed one e
        constructor
        · intro all
          have next' := all _ (List.mem_cons_of_mem _ (self_mem_states _ es))
          exact ⟨same.mp next', (ih _ housed' next').mp fun t member =>
            all t (List.mem_cons_of_mem _ member)⟩
        · rintro ⟨fresh, later⟩ t member
          rcases List.mem_cons.mp member with rfl | member
          · exact one
          · exact (ih _ housed' (same.mpr fresh)).mpr later t member
  exact general DB.empty (List.forall_mem_nil _) fun _ _ _ member => nomatch member

end Run

section Fixtures

def creates (name : String) : Event := ⟨.createFolder ⟨name, none, .vms, none⟩, ⟨name, 0⟩⟩

def vm100 : Resource := ⟨"vm", "100", "main"⟩

/-- A VM is added to one folder and then to another. -/
def addedTwice : List Event :=
  [creates "web", creates "db", ⟨.addMember "web" vm100, ⟨"", 0⟩⟩,
    ⟨.addMember "db" vm100, ⟨"", 0⟩⟩]

end Fixtures

/-- The second `AddMember` leaves the VM in the first folder. -/
theorem in_two_folders : ¬∀ db ∈ states step DB.empty addedTwice, AtMostOne db := by
  intro all
  have one := all (run addedTwice) (last_mem_states _ _) .vms vm100 "web" (by decide +kernel) "db"
    (by decide +kernel)
  exact absurd one (by decide)

end Folders
