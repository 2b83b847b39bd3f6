import Mathlib.Data.String.Basic
import PCenter.Tags

/-!
# What the tags are assigned to

A bulk assignment makes all its assignments or none. Whether a tag is assigned to an object is
decided by the last call that answered and that was about it, and a list of an object's tags
has each of them once, in order.
-/

namespace Tags

open GoText Procedure Transaction Transition

/-- The tables after a run of calls. -/
def after (es : List Event) : DB := es.foldl step DB.empty

theorem wellFormed_after (es : List Event) : WellFormed (after es) :=
  wellFormed_states es _ (last_mem_states DB.empty es)

section Bulk

/-- All that a request asks for. -/
def BulkAssignRequest.assigns (req : BulkAssignRequest) (a : TagAssignment) : Prop :=
  ∃ tagID ∈ req.tagIDs, ∃ obj ∈ req.objects, obj.tagged tagID = a

structure BulkAssignRequest.Valid (req : BulkAssignRequest) : Prop where
  tagIDs : req.tagIDs ≠ []
  objects : req.objects ≠ []
  typed : ∀ obj ∈ req.objects, validObjectType obj.objectType = true

/-- Nothing goes wrong outside of the statements. -/
structure Undisturbed (o : Outside) (req : BulkAssignRequest) : Prop where
  begun : o.begun = none
  prepared : o.prepared = none
  exec : ∀ i < req.tagIDs.length, ∀ j < req.objects.length, o.exec i j = none
  committed : o.committed = none

/-- The assignment is there afterwards. -/
def put (db : DB) (a : TagAssignment) : DB :=
  if a ∈ db.assignments then db else { db with assignments := db.assignments ++ [a] }

/-- Tables with these tags, every assignment being of one of them. -/
structure Holding (tags : List Tag) (db : DB) : Prop where
  same : db.tags = tags
  tagged : ∀ a ∈ db.assignments, a.tagID ∈ tags.map Tag.id

variable {tags : List Tag} {db db' : DB} {a : TagAssignment} {o : Outside}

theorem put_tags (db : DB) (a : TagAssignment) : (put db a).tags = db.tags := by
  rw [put]
  split_ifs <;> rfl

theorem mem_put {b : TagAssignment} :
    b ∈ (put db a).assignments ↔ b ∈ db.assignments ∨ b = a := by
  rw [put]
  split_ifs with there
  · constructor
    · exact .inl
    · rintro (before | rfl)
      · exact before
      · exact there
  · exact List.mem_append.trans (or_congr_right List.mem_singleton)

theorem Holding.put (holding : Holding tags db) (tag : a.tagID ∈ tags.map Tag.id) :
    Holding tags (put db a) := by
  refine ⟨(put_tags db a).trans holding.same, ?_⟩
  intro b member
  rcases mem_put.mp member with before | rfl
  · exact holding.tagged b before
  · exact tag

theorem insertAssignment_ok_iff (holding : Holding tags db) {fault : Option String} :
    execute fault (DB.insertAssignment a) db = .ok db' ↔
      (fault = none ∧ a.tagID ∈ tags.map Tag.id) ∧ db' = put db a := by
  have known : (db.getTag a.tagID).isSome = true ↔ a.tagID ∈ tags.map Tag.id := by
    rw [isSome_getTag_iff, holding.same]
  cases fault with
  | some failure => simp [execute]
  | none =>
      rw [execute, DB.insertAssignment, put]
      by_cases there : a ∈ db.assignments
      · simp [there, holding.tagged a there, eq_comm]
      · by_cases tag : (db.getTag a.tagID).isSome = true
        · simp [there, tag, known.mp tag, eq_comm]
        · have unknown : ¬a.tagID ∈ tags.map Tag.id := fun h => tag (known.mpr h)
          simp [there, tag, unknown]

theorem foldl_put_tags {A : Type} (f : A → TagAssignment) (l : List A) (db : DB) :
    (l.foldl (fun db x => put db (f x)) db).tags = db.tags := by
  induction l generalizing db with
  | nil => rfl
  | cons x rest ih => exact (ih (put db (f x))).trans (put_tags db (f x))

theorem mem_foldl_put {A : Type} {f : A → TagAssignment} {l : List A} {db : DB} :
    a ∈ (l.foldl (fun db x => put db (f x)) db).assignments ↔
      a ∈ db.assignments ∨ ∃ x ∈ l, f x = a := by
  induction l generalizing db with
  | nil => simp
  | cons x rest ih =>
      rw [List.foldl_cons, ih, mem_put, or_assoc, List.exists_mem_cons_iff, eq_comm]

theorem Holding.foldl_put {A : Type} {f : A → TagAssignment} {l : List A}
    (holding : Holding tags db) (all : ∀ x ∈ l, (f x).tagID ∈ tags.map Tag.id) :
    Holding tags (l.foldl (fun db x => Tags.put db (f x)) db) := by
  refine ⟨(foldl_put_tags f l db).trans holding.same, ?_⟩
  intro a member
  rcases mem_foldl_put.mp member with before | ⟨x, listed, rfl⟩
  · exact holding.tagged a before
  · exact all x listed

/-- What the work of a bulk assignment does when all goes well. -/
def assigned (req : BulkAssignRequest) (db : DB) : DB :=
  req.tagIDs.zipIdx.foldl (fun db tag =>
    req.objects.zipIdx.foldl (fun db obj => put db (obj.1.tagged tag.1)) db) db

theorem yields_objects (holding : Holding tags db) (req : BulkAssignRequest)
    (tag : String × Nat) :
    Yields (req.objects.zipIdx.forM fun obj =>
        commit (execute (o.exec tag.2 obj.2) (DB.insertAssignment (obj.1.tagged tag.1))))
        db () db' ↔
      (∀ obj ∈ req.objects.zipIdx, o.exec tag.2 obj.2 = none ∧ tag.1 ∈ tags.map Tag.id) ∧
        db' = req.objects.zipIdx.foldl (fun db obj => put db (obj.1.tagged tag.1)) db := by
  have turn (obj : ObjectRef × Nat) (s s' : DB) (held : Holding tags s) :
      Yields (commit (execute (o.exec tag.2 obj.2) (DB.insertAssignment (obj.1.tagged tag.1))))
        s () s' ↔
        (o.exec tag.2 obj.2 = none ∧ tag.1 ∈ tags.map Tag.id) ∧
          s' = put s (obj.1.tagged tag.1) :=
    yields_commit.trans (insertAssignment_ok_iff held)
  exact yields_forM turn (fun _ _ held met => held.put met.2) holding

theorem yields_assignAll (holding : Holding tags db) (req : BulkAssignRequest) :
    Yields (DB.assignAll o req) db () db' ↔
      o.prepared = none ∧
        (∀ tag ∈ req.tagIDs.zipIdx, ∀ obj ∈ req.objects.zipIdx,
          o.exec tag.2 obj.2 = none ∧ tag.1 ∈ tags.map Tag.id) ∧
        db' = assigned req db := by
  rw [DB.assignAll, yields_bind]
  have turn (tag : String × Nat) (s s' : DB) (held : Holding tags s) :=
    @yields_objects tags s s' o held req tag
  have loops := @yields_forM _ _ _ _ _ _ _ turn
    (fun _ _ held met => held.foldl_put fun obj member => (met obj member).2) req.tagIDs.zipIdx
    db db' holding
  cases prepared : o.prepared with
  | some failure => simp [yields_orThrow]
  | none =>
      constructor
      · rintro ⟨_, t, first, later⟩
        obtain ⟨-, rfl⟩ := yields_orThrow.mp first
        exact ⟨rfl, loops.mp later⟩
      · rintro ⟨-, done⟩
        exact ⟨(), db, yields_orThrow.mpr ⟨rfl, rfl⟩, loops.mpr done⟩

theorem yields_bulkAssign {req : BulkAssignRequest} : Yields (DB.bulkAssign o req) db () db' ↔
    o.begun = none ∧ o.committed = none ∧ Yields (DB.assignAll o req) db () db' := by
  have ran : exec (DB.bulkAssign o req) db =
      ((exec (transact o.begun o.committed (DB.assignAll o req)) (idle db)).1,
        (exec (transact o.begun o.committed (DB.assignAll o req)) (idle db)).2.tables) := rfl
  constructor
  · intro done
    rw [Yields, ran] at done
    obtain ⟨answered, rfl⟩ := Prod.mk.inj done
    obtain ⟨begun, committed, t, worked, ended⟩ := yields_transact.mp (Prod.ext answered rfl)
    have tables : (exec (transact o.begun o.committed (DB.assignAll o req)) (idle db)).2.tables =
        t := congrArg Conn.tables ended
    rw [tables]
    exact ⟨begun, committed, worked⟩
  · rintro ⟨begun, committed, worked⟩
    have done := yields_transact.mpr ⟨begun, committed, db', worked, rfl⟩
    rw [Yields, ran, done]
    rfl

/-- A request that is refused, or the work in its transaction. -/
theorem exec_bulkAssign (o : Outside) (req : BulkAssignRequest) (db : DB) :
    (req.Valid ∧ exec (bulkAssign o req) db = exec (DB.bulkAssign o req) db) ∨
      ¬req.Valid ∧ ∃ failure, exec (bulkAssign o req) db = (.error failure, db) := by
  rw [bulkAssign]
  split_ifs with noTags noObjects
  · exact .inr ⟨fun valid => valid.tagIDs noTags, _, rfl⟩
  · exact .inr ⟨fun valid => valid.objects noObjects, _, rfl⟩
  · cases odd : req.objects.find? fun obj => validObjectType obj.objectType = false with
    | some obj =>
        refine .inr ⟨fun valid => ?_, _, rfl⟩
        have bad := List.find?_some odd
        rw [valid.typed obj (List.mem_of_find?_eq_some odd)] at bad
        simp at bad
    | none => exact .inl ⟨⟨noTags, noObjects, by simpa using List.find?_eq_none.mp odd⟩, rfl⟩

theorem mem_assigned {req : BulkAssignRequest} :
    a ∈ (assigned req db).assignments ↔ a ∈ db.assignments ∨ req.assigns a := by
  have outer (l : List (String × Nat)) (s : DB) :
      a ∈ (l.foldl (fun db tag =>
        req.objects.zipIdx.foldl (fun db obj => put db (obj.1.tagged tag.1)) db) s).assignments ↔
      a ∈ s.assignments ∨ ∃ tag ∈ l, ∃ obj ∈ req.objects.zipIdx, obj.1.tagged tag.1 = a := by
    induction l generalizing s with
    | nil => simp
    | cons tag rest ih =>
        rw [List.foldl_cons, ih, mem_foldl_put, or_assoc, List.exists_mem_cons_iff]
  rw [assigned, outer, BulkAssignRequest.assigns]
  apply or_congr_right
  constructor
  · rintro ⟨tag, listed, obj, among, rfl⟩
    exact ⟨tag.1, List.fst_mem_of_mem_zipIdx listed, obj.1, List.fst_mem_of_mem_zipIdx among, rfl⟩
  · rintro ⟨tagID, listed, obj, among, rfl⟩
    obtain ⟨i, h, rfl⟩ := List.mem_iff_getElem.mp listed
    obtain ⟨j, h', rfl⟩ := List.mem_iff_getElem.mp among
    exact ⟨(_, i), List.mem_zipIdx_iff_getElem?.mpr (List.getElem?_eq_getElem h), (_, j),
      List.mem_zipIdx_iff_getElem?.mpr (List.getElem?_eq_getElem h'), rfl⟩

theorem assigned_tags (req : BulkAssignRequest) (db : DB) : (assigned req db).tags = db.tags := by
  have outer (l : List (String × Nat)) (s : DB) :
      (l.foldl (fun db tag =>
        req.objects.zipIdx.foldl (fun db obj => put db (obj.1.tagged tag.1)) db) s).tags =
      s.tags := by
    induction l generalizing s with
    | nil => rfl
    | cons tag rest ih => exact (ih _).trans (foldl_put_tags _ _ s)
  exact outer _ db

theorem WellFormed.holding (wf : WellFormed db) : Holding db.tags db := ⟨rfl, wf.tagged⟩

theorem statements_iff {req : BulkAssignRequest} (some_object : req.objects ≠ []) :
    (∀ tag ∈ req.tagIDs.zipIdx, ∀ obj ∈ req.objects.zipIdx,
        o.exec tag.2 obj.2 = none ∧ tag.1 ∈ tags.map Tag.id) ↔
      (∀ i < req.tagIDs.length, ∀ j < req.objects.length, o.exec i j = none) ∧
        ∀ tagID ∈ req.tagIDs, tagID ∈ tags.map Tag.id := by
  have position {A : Type} {l : List A} {i : Nat} (h : i < l.length) : (l[i], i) ∈ l.zipIdx :=
    List.mem_zipIdx_iff_getElem?.mpr (List.getElem?_eq_getElem h)
  have within {A : Type} {l : List A} {p : A × Nat} (member : p ∈ l.zipIdx) : p.2 < l.length :=
    (List.getElem?_eq_some_iff.mp (List.mem_zipIdx_iff_getElem?.mp member)).1
  constructor
  · intro all
    refine ⟨fun i h j h' => (all _ (position h) _ (position h')).1, fun tagID listed => ?_⟩
    obtain ⟨i, h, rfl⟩ := List.mem_iff_getElem.mp listed
    exact (all _ (position h) _ (position (List.length_pos_of_ne_nil some_object))).2
  · rintro ⟨quiet, known⟩ tag listed obj among
    exact ⟨quiet _ (within listed) _ (within among), known _ (List.fst_mem_of_mem_zipIdx listed)⟩

theorem yields_service_iff {req : BulkAssignRequest} (wf : WellFormed db) :
    Yields (bulkAssign o req) db () db' ↔
      (req.Valid ∧ Undisturbed o req ∧ ∀ tagID ∈ req.tagIDs, tagID ∈ db.tags.map Tag.id) ∧
        db' = assigned req db := by
  rcases exec_bulkAssign o req db with ⟨valid, same⟩ | ⟨invalid, failure, ran⟩
  · rw [Yields, same]
    refine yields_bulkAssign.trans ?_
    rw [yields_assignAll wf.holding, statements_iff valid.objects]
    constructor
    · rintro ⟨begun, committed, prepared, ⟨quiet, known⟩, rfl⟩
      exact ⟨⟨valid, ⟨begun, prepared, quiet, committed⟩, known⟩, rfl⟩
    · rintro ⟨⟨-, calm, known⟩, rfl⟩
      exact ⟨calm.begun, calm.committed, calm.prepared, ⟨calm.exec, known⟩, rfl⟩
  · rw [Yields, ran]
    simp [invalid]

theorem bulkAssign_failed {req : BulkAssignRequest}
    (failed : (exec (bulkAssign o req) db).1 ≠ .ok ()) : (exec (bulkAssign o req) db).2 = db := by
  rcases exec_bulkAssign o req db with ⟨valid, same⟩ | ⟨invalid, failure, ran⟩
  · rw [same] at failed ⊢
    rcases bulkAssign_cases o req db with ⟨failure, ran⟩ | ⟨t, done, ran⟩
    · rw [ran]
    · rw [ran] at failed
      exact absurd rfl failed
  · rw [ran]

/-- A bulk assignment works iff the request is sound, all its tags exist and nothing goes wrong.
Then it assigns what was asked for and nothing else, and otherwise it changes nothing. -/
theorem bulkAssign_all_or_nothing (es : List Event) (o : Outside) (req : BulkAssignRequest) :
    (answer (after es) ⟨.bulkAssign req, o⟩ = .ok () ↔
      req.Valid ∧ Undisturbed o req ∧
        ∀ tagID ∈ req.tagIDs, tagID ∈ (after es).tags.map Tag.id) ∧
    (answer (after es) ⟨.bulkAssign req, o⟩ = .ok () →
      (step (after es) ⟨.bulkAssign req, o⟩).tags = (after es).tags ∧
        ∀ a, a ∈ (step (after es) ⟨.bulkAssign req, o⟩).assignments ↔
          a ∈ (after es).assignments ∨ req.assigns a) ∧
    (answer (after es) ⟨.bulkAssign req, o⟩ ≠ .ok () →
      step (after es) ⟨.bulkAssign req, o⟩ = after es) := by
  have spec (db' : DB) := @yields_service_iff (after es) db' o req (wellFormed_after es)
  have ran (answered : answer (after es) ⟨.bulkAssign req, o⟩ = .ok ()) :
      Yields (bulkAssign o req) (after es) () (step (after es) ⟨.bulkAssign req, o⟩) :=
    Prod.ext answered rfl
  refine ⟨⟨fun answered => ((spec _).mp (ran answered)).1, ?_⟩, ?_, bulkAssign_failed⟩
  · intro met
    exact congrArg Prod.fst ((spec _).mpr ⟨met, rfl⟩)
  · intro answered
    rw [((spec _).mp (ran answered)).2]
    exact ⟨assigned_tags req _, fun a => mem_assigned⟩

end Bulk

section History

variable {db : DB} {e : Event} {a : TagAssignment} {o : Outside}

/-- The call answers, and it is about assigning this. -/
def Puts (a : TagAssignment) (db : DB) (e : Event) : Prop :=
  answer db e = .ok () ∧
    match e.call with
    | .assignTag req => req = a
    | .bulkAssign req => req.assigns a
    | _ => False

def Takes (a : TagAssignment) (db : DB) (e : Event) : Prop :=
  answer db e = .ok () ∧
    match e.call with
    | .unassignTag req => req = a
    | .deleteTag id => a.tagID = id
    | _ => False

theorem single_cases (o : Outside) (words : String) (statement : DB → Except String DB) (db : DB) :
    (∃ failure, exec (single o words statement) db = (.error failure, db)) ∨
      ∃ db', statement db = .ok db' ∧ exec (single o words statement) db = (.ok (), db') := by
  have ran : exec (single o words statement) db =
      ((exec (commit (execute (o.exec 0 0) statement)) db).1.mapError (words ++ ·),
        (exec (commit (execute (o.exec 0 0) statement)) db).2) := rfl
  cases outcome : execute (o.exec 0 0) statement db with
  | error failure =>
      rw [exec_commit_error outcome] at ran
      exact .inl ⟨_, ran⟩
  | ok db' =>
      rw [exec_commit_ok outcome] at ran
      exact .inr ⟨db', ok_of_execute outcome, ran⟩

theorem assignments_of_tags {x : Proc String DB Unit}
    (chains : Chains (fun s t : DB => t.assignments = s.assignments) x) (db : DB) :
    (exec x db).2.assignments = db.assignments :=
  Chains.keeps (P := fun t => t.assignments = db.assignments) chains
    (fun _ _ same sofar => same.trans sofar) rfl

theorem chains_alone {words : String} {statement : DB → Except String DB}
    (alone : ∀ s t, statement s = .ok t → t.assignments = s.assignments) :
    Chains (fun s t : DB => t.assignments = s.assignments) (single o words statement) :=
  chains_rename (chains_commit fun s t done => alone s t (ok_of_execute done))

theorem insertTag_alone (t : Tag) (s s' : DB) (done : DB.insertTag t s = .ok s') :
    s'.assignments = s.assignments := by
  rw [DB.insertTag] at done
  split_ifs at done
  obtain rfl := Except.ok.inj done
  rfl

theorem changeTag_alone (id : String) (req : UpdateTagRequest) (s s' : DB)
    (done : DB.changeTag id req s = .ok s') : s'.assignments = s.assignments := by
  rw [DB.changeTag] at done
  cases found : s.getTag id with
  | none =>
      rw [found] at done
      obtain rfl := Except.ok.inj done
      rfl
  | some t =>
      rw [found] at done
      dsimp only at done
      split_ifs at done
      obtain rfl := Except.ok.inj done
      rfl

theorem createTag_alone (req : CreateTagRequest) (db : DB) :
    (exec (Call.run o (.createTag req)) db).2.assignments = db.assignments := by
  apply assignments_of_tags
  refine chains_bind ?_ fun _ => chains_pure _
  rw [createTag]
  generalize (if trimSpace req.color = "" then defaultColor else trimSpace req.color) = color
  split_ifs
  · exact chains_throw _
  · exact chains_throw _
  · exact chains_bind (chains_alone (insertTag_alone _)) fun _ => chains_pure _

theorem updateTag_alone (id : String) (req : UpdateTagRequest) (db : DB) :
    (exec (Call.run o (.updateTag id req)) db).2.assignments = db.assignments := by
  apply assignments_of_tags
  rw [Call.run, updateTag]
  split_ifs
  · exact chains_throw _
  · refine chains_read_bind fun found => ?_
    exact chains_bind (chains_alone (changeTag_alone id req)) fun _ =>
      chains_ite (chains_pure _) (chains_throw _)

theorem mem_step_iff (db : DB) (e : Event) (wf : WellFormed db) :
    a ∈ (step db e).assignments ↔ Puts a db e ∨ a ∈ db.assignments ∧ ¬Takes a db e := by
  obtain ⟨call, o⟩ := e
  cases call with
  | createTag req =>
      rw [step, createTag_alone]
      simp [Puts, Takes]
  | updateTag id req =>
      rw [step, updateTag_alone]
      simp [Puts, Takes]
  | deleteTag id =>
      rcases single_cases o "" (DB.removeTag id) db with ⟨failure, ran⟩ | ⟨t, done, ran⟩
      · have failed : answer db ⟨.deleteTag id, o⟩ = .error failure := congrArg Prod.fst ran
        have same : step db ⟨.deleteTag id, o⟩ = db := congrArg Prod.snd ran
        simp [Puts, Takes, failed, same]
      · obtain rfl := Except.ok.inj done
        have answered : answer db ⟨.deleteTag id, o⟩ = .ok () := congrArg Prod.fst ran
        have left : (step db ⟨.deleteTag id, o⟩).assignments =
            db.assignments.filter (·.tagID ≠ id) := congrArg (DB.assignments ∘ Prod.snd) ran
        simp [Puts, Takes, answered, left, List.mem_filter]
  | assignTag req =>
      by_cases valid : validObjectType req.objectType = true ∧ req.objectID ≠ ""
      · have called : assignTag o req = DB.assignTag o req := by simp [assignTag, valid]
        rcases single_cases o "" (DB.insertAssignment req) db with ⟨failure, ran⟩ | ⟨t, done, ran⟩
        · have both : exec (assignTag o req) db = (.error failure, db) := by rw [called]; exact ran
          have failed : answer db ⟨.assignTag req, o⟩ = .error failure := congrArg Prod.fst both
          have same : step db ⟨.assignTag req, o⟩ = db := congrArg Prod.snd both
          simp [Puts, Takes, failed, same]
        · have both : exec (assignTag o req) db = (.ok (), t) := by rw [called]; exact ran
          have answered : answer db ⟨.assignTag req, o⟩ = .ok () := congrArg Prod.fst both
          have ended : step db ⟨.assignTag req, o⟩ = t := congrArg Prod.snd both
          have write := (@insertAssignment_ok_iff db.tags db t req wf.holding none).mp done
          rw [ended, write.2, mem_put]
          simp [Puts, Takes, answered, or_comm, eq_comm]
      · have refused : ∃ failure, exec (assignTag o req) db = (.error failure, db) := by
          rw [assignTag]
          split_ifs with bad empty
          · exact ⟨_, rfl⟩
          · exact ⟨_, rfl⟩
          · exact absurd ⟨by simpa using bad, empty⟩ valid
        obtain ⟨failure, both⟩ := refused
        have failed : answer db ⟨.assignTag req, o⟩ = .error failure := congrArg Prod.fst both
        have same : step db ⟨.assignTag req, o⟩ = db := congrArg Prod.snd both
        simp [Puts, Takes, failed, same]
  | unassignTag req =>
      rcases single_cases o "" (DB.removeAssignment req) db with ⟨failure, ran⟩ | ⟨t, done, ran⟩
      · have failed : answer db ⟨.unassignTag req, o⟩ = .error failure := congrArg Prod.fst ran
        have same : step db ⟨.unassignTag req, o⟩ = db := congrArg Prod.snd ran
        simp [Puts, Takes, failed, same]
      · obtain rfl := Except.ok.inj done
        have answered : answer db ⟨.unassignTag req, o⟩ = .ok () := congrArg Prod.fst ran
        have left : (step db ⟨.unassignTag req, o⟩).assignments =
            db.assignments.filter (· ≠ req) := congrArg (DB.assignments ∘ Prod.snd) ran
        simp [Puts, Takes, answered, left, @eq_comm _ a req]
  | bulkAssign req =>
      by_cases answered : answer db ⟨.bulkAssign req, o⟩ = .ok ()
      · have ran : Yields (bulkAssign o req) db () (step db ⟨.bulkAssign req, o⟩) :=
          Prod.ext answered rfl
        rw [((yields_service_iff wf).mp ran).2, mem_assigned]
        simp [Puts, Takes, answered, or_comm]
      · have same : step db ⟨.bulkAssign req, o⟩ = db := bulkAssign_failed answered
        simp [Puts, Takes, answered, same]

/-- A tag is assigned to an object iff some call that answered assigned it, and since then no call
that answered took it away or deleted the tag. -/
theorem assigned_iff_last (es : List Event) (a : TagAssignment) :
    a ∈ (after es).assignments ↔
      ∃ before e later, es = before ++ e :: later ∧ Puts a (after before) e ∧
        Along step (fun db e => ¬Takes a db e) (step (after before) e) later := by
  have last := @holds_iff_last DB Event step (Puts a) (Takes a) WellFormed
    (fun db => a ∈ db.assignments) wellFormed_step mem_step_iff DB.empty wellFormed_empty es
  rw [after, last]
  constructor
  · rintro (put | ⟨there, -⟩)
    · exact put
    · exact absurd there List.not_mem_nil
  · exact .inl

end History

section Listing

/-- `ORDER BY category, name` allows the first before the second. -/
def Before (t u : Tag) : Prop :=
  t.category < u.category ∨ t.category = u.category ∧ t.name ≤ u.name

variable {db : DB} {t u v : Tag}

theorem inOrder_iff : DB.inOrder t u = true ↔ Before t u := by simp [DB.inOrder, Before]

theorem Before.trans (first : Before t u) (second : Before u v) : Before t v := by
  rcases first with lower | ⟨same, name⟩
  · rcases second with lower' | ⟨same', -⟩
    · exact .inl (lower.trans lower')
    · exact .inl (same' ▸ lower)
  · rcases second with lower' | ⟨same', name'⟩
    · exact .inl (same ▸ lower')
    · exact .inr ⟨same.trans same', String.le_trans name name'⟩

theorem before_total (t u : Tag) : Before t u ∨ Before u t := by
  rcases lt_trichotomy t.category u.category with lower | same | lower
  · exact .inl (.inl lower)
  · rcases String.le_total t.name u.name with name | name
    · exact .inl (.inr ⟨same, name⟩)
    · exact .inr (.inr ⟨same.symm, name⟩)
  · exact .inr (.inl lower)

theorem inOrder_trans (first : DB.inOrder t u = true) (second : DB.inOrder u v = true) :
    DB.inOrder t v = true :=
  inOrder_iff.mpr ((inOrder_iff.mp first).trans (inOrder_iff.mp second))

theorem inOrder_total (t u : Tag) : (DB.inOrder t u || DB.inOrder u t) = true := by
  rw [Bool.or_eq_true, inOrder_iff, inOrder_iff]
  exact before_total t u

theorem join_eq (wf : WellFormed db) (obj : ObjectRef) :
    ((db.tags.product db.assignments).filter fun p =>
        p.1.id = p.2.tagID && p.2.object = obj).map Prod.fst =
      db.tags.filter fun t => decide (obj.tagged t.id ∈ db.assignments) := by
  apply Sql.map_fst_filter_product
  intro t _
  have one : (db.assignments.filter fun a => t.id = a.tagID && a.object = obj) =
      db.assignments.filter fun a => a == obj.tagged t.id := by
    apply List.filter_congr
    rintro ⟨tagID, objectType, objectID, cluster⟩ -
    obtain ⟨objectType', objectID', cluster'⟩ := obj
    apply Bool.eq_iff_iff.mpr
    simp [TagAssignment.object, ObjectRef.tagged, @eq_comm _ t.id]
  have count : (db.assignments.filter fun a => a == obj.tagged t.id).length =
      db.assignments.count (obj.tagged t.id) := List.countP_eq_length_filter.symm
  rw [one, count, wf.once.count]
  simp

/-- In every reachable state, the tags that are listed for an object are those assigned to it,
each of them once, by category and then by name. -/
theorem getObjectTags_sorted (es : List Event) (obj : ObjectRef) :
    (∀ t, t ∈ (after es).getObjectTags obj ↔
      t ∈ (after es).tags ∧ obj.tagged t.id ∈ (after es).assignments) ∧
    ((after es).getObjectTags obj).Pairwise fun t u =>
      t.category < u.category ∨ t.category = u.category ∧ t.name < u.name := by
  have wf := wellFormed_after es
  have perm := List.mergeSort_perm
    ((after es).tags.filter fun t => decide (obj.tagged t.id ∈ (after es).assignments)) DB.inOrder
  rw [DB.getObjectTags, join_eq wf]
  refine ⟨fun t => perm.mem_iff.trans (by simp), ?_⟩
  have sorted := @List.pairwise_mergeSort Tag DB.inOrder (fun _ _ _ => inOrder_trans) inOrder_total
    ((after es).tags.filter fun t => decide (obj.tagged t.id ∈ (after es).assignments))
  have names := (perm.map fun t => (t.category, t.name)).nodup_iff.mpr
    (wf.names.sublist (List.filter_sublist.map _))
  refine (sorted.and (List.pairwise_map.mp names)).imp fun {t u} both => ?_
  obtain ⟨before, different⟩ := both
  rcases inOrder_iff.mp before with lower | ⟨same, name⟩
  · exact .inl lower
  · exact .inr ⟨same, lt_of_le_of_ne name fun equal => different (by rw [same, equal])⟩

end Listing

end Tags
