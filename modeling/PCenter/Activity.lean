import Mathlib.Algebra.Group.Nat.Defs
import PCenter.Lib.Paging
import PCenter.Lib.Text
import PCenter.Lib.Transition

/-!
# The activity log

`internal/activity`: a table with automatic numbers, `Service.Log`, the daily cleanup and the
queries of `GetActivity`. Insertions and cleanups hold the mutex, so a run is a list of them; a
query is one statement. The log is read page by page while it grows and is cleaned up.

Times are nanoseconds since 1970, but seconds in the table.
-/

namespace Activity

open GoText Paging Transition

structure Entry where
  id : Int
  timestamp : Int
  action : String
  resourceType : String
  resourceID : String
  resourceName : String
  cluster : String
  details : String
  status : String
  deriving DecidableEq, Repr

def statusSuccess : String := "success"

/-- The zero time, the first of January of the year 1. -/
def zeroTime : Int := -62135596800000000000

def Entry.isZero (e : Entry) : Bool := e.timestamp = zeroTime

def unix (t : Int) : Int := t / 1000000000

def ofUnix (seconds : Int) : Int := seconds * 1000000000

/-- The largest number that the table gives to a row. -/
def maxID : Int := 9223372036854775807

/-- The rows, with their times in seconds, and the row of `sqlite_sequence`. -/
structure DB where
  rows : List Entry
  seq : Int
  deriving DecidableEq

/-- What comes from outside: the clock, its `AddDate(0, 0, days)`, and a statement that fails. -/
structure Outside where
  now : Int
  addDays : Int → Int
  fault : Option String

structure QueryParams where
  limit : Int
  offset : Int
  resourceType : String
  resourceID : String
  cluster : String
  action : String

def newService (retentionDays : Int) : Int := if retentionDays ≤ 0 then 30 else retentionDays

namespace DB

def empty : DB := ⟨[], 0⟩

/-- The row that an insertion writes. -/
def row (o : Outside) (e : Entry) (db : DB) : Entry :=
  { e with id := db.seq + 1, timestamp := unix (if e.isZero then o.now else e.timestamp) }

def insert (o : Outside) (e : Entry) (db : DB) : Except String Int × DB :=
  match o.fault with
  | some failure => (.error failure, db)
  | none =>
      if maxID ≤ db.seq then (.error "database or disk is full", db)
      else (.ok (db.seq + 1), ⟨db.rows ++ [db.row o e], db.seq + 1⟩)

/-- An empty filter lets everything pass. -/
def filterMatches (params : QueryParams) (r : Entry) : Bool :=
  (params.resourceType = "" || r.resourceType = params.resourceType) &&
  (params.resourceID = "" || r.resourceID = params.resourceID) &&
  (params.cluster = "" || r.cluster = params.cluster) &&
  (params.action = "" || r.action = params.action)

/-- `ORDER BY timestamp DESC, id DESC` allows the first before the second. -/
def Before (r s : Entry) : Prop :=
  s.timestamp < r.timestamp ∨ s.timestamp = r.timestamp ∧ s.id ≤ r.id

instance decidableBefore : DecidableRel Before :=
  fun r s => inferInstanceAs (Decidable (s.timestamp < r.timestamp ∨ _ ∧ s.id ≤ r.id))

def limitOf (params : QueryParams) : Int :=
  if params.limit ≤ 0 then 50 else if 500 < params.limit then 500 else params.limit

/-- The rows that a query is about, in its order. -/
def listing (params : QueryParams) (db : DB) : List Entry :=
  (db.rows.filter (filterMatches params)).insertionSort Before

/-- A negative offset counts as zero. -/
def query (params : QueryParams) (db : DB) : List Entry :=
  (((db.listing params).drop params.offset.toNat).take (limitOf params).toNat).map fun r =>
    { r with timestamp := ofUnix r.timestamp }

def cleanup (o : Outside) (retentionDays : Int) (db : DB) : Except String Nat × DB :=
  match o.fault with
  | some failure => (.error failure, db)
  | none =>
      let cutoff := unix (o.addDays (-retentionDays))
      (.ok (db.rows.countP (·.timestamp < cutoff)),
        { db with rows := db.rows.filter fun r => ¬r.timestamp < cutoff })

end DB

/-- The entry as `Log` completes it. -/
def completed (o : Outside) (e : Entry) : Entry :=
  { e with
    timestamp := if e.isZero then o.now else e.timestamp
    status := if e.status = "" then statusSuccess else e.status }

/-- The entry that is handed to the callback, if there is one to hand out. -/
def log (o : Outside) (e : Entry) (db : DB) : Option Entry × DB :=
  match db.insert o (completed o e) with
  | (.error _, db') => (none, db')
  | (.ok id, db') => (some { completed o e with id }, db')

/-- `GetActivity` by the parameters of the request. -/
def getActivity (get : String → String) (db : DB) : List Entry :=
  let number (name : String) (default : Int) :=
    if get name = "" then default else (atoi (get name)).elim default (·.toInt)
  db.query
    { limit := number "limit" 50
      offset := number "offset" 0
      resourceType := get "resource_type"
      resourceID := get "resource_id"
      cluster := get "cluster"
      action := get "action" }

inductive Call where
  | log (e : Entry)
  | cleanup (retentionDays : Int)

structure Event where
  call : Call
  outside : Outside

def step (db : DB) (e : Event) : DB :=
  match e.call with
  | .log entry => (log e.outside entry db).2
  | .cleanup retentionDays => (db.cleanup e.outside retentionDays).2

def after (es : List Event) : DB := es.foldl step DB.empty

section Rows

/-- The row that an event adds to the table. -/
def written (db : DB) (e : Event) : Option Entry :=
  match e.call with
  | .log entry =>
      (log e.outside entry db).1.map fun _ => db.row e.outside (completed e.outside entry)
  | .cleanup _ => none

/-- The rows that a run writes, in the order in which it does. -/
def logged : DB → List Event → List Entry
  | _, [] => []
  | db, e :: es => (written db e).toList ++ logged (step db e) es

/-- A cleanup that works and to which the row is too old. -/
def Cleans (row : Entry) (e : Event) : Prop :=
  e.outside.fault = none ∧
    ∃ retentionDays, e.call = .cleanup retentionDays ∧
      row.timestamp < unix (e.outside.addDays (-retentionDays))

structure WellFormed (db : DB) : Prop where
  increasing : (db.rows.map Entry.id).Pairwise (· < ·)
  below : ∀ r ∈ db.rows, r.id ≤ db.seq

variable {db : DB} {e : Event} {row r s : Entry}

theorem step_cases (db : DB) (e : Event) :
    (∃ row, written db e = some row ∧ row.id = db.seq + 1 ∧
      step db e = ⟨db.rows ++ [row], db.seq + 1⟩ ∧ ∀ r, ¬Cleans r e) ∨
    written db e = none ∧
      (step db e).seq = db.seq ∧ ∃ test : Entry → Bool,
        (step db e).rows = db.rows.filter test ∧ (∀ r, test r = true ↔ ¬Cleans r e) ∧
        ∀ r s, DB.Before r s → test s = true → test r = true := by
  obtain ⟨call, o⟩ := e
  cases call with
  | log entry =>
      have clean : ∀ r, ¬Cleans r ⟨.log entry, o⟩ := by simp [Cleans]
      have idle (failure : String)
          (failed : db.insert o (completed o entry) = (.error failure, db)) :
          written db ⟨.log entry, o⟩ = none ∧ (step db ⟨.log entry, o⟩).seq = db.seq ∧
          ∃ test : Entry → Bool, (step db ⟨.log entry, o⟩).rows = db.rows.filter test ∧
            (∀ r, test r = true ↔ ¬Cleans r ⟨.log entry, o⟩) ∧
            ∀ r s, DB.Before r s → test s = true → test r = true := by
        refine ⟨by simp [written, log, failed], by simp [step, log, failed], fun _ => true, ?_, ?_,
          fun _ _ _ _ => rfl⟩
        · simp [step, log, failed]
        · simpa using clean
      cases fault : o.fault with
      | some failure => exact .inr (idle failure (by simp [DB.insert, fault]))
      | none =>
          by_cases full : maxID ≤ db.seq
          · exact .inr (idle _ (by rw [DB.insert, fault]; exact if_pos full))
          · have done : db.insert o (completed o entry) =
                (.ok (db.seq + 1), ⟨db.rows ++ [db.row o (completed o entry)], db.seq + 1⟩) := by
              rw [DB.insert, fault]
              exact if_neg full
            refine .inl ⟨db.row o (completed o entry), ?_, rfl, ?_, clean⟩
            · simp [written, log, done]
            · simp [step, log, done]
  | cleanup retentionDays =>
      refine .inr ⟨rfl, ?_⟩
      cases fault : o.fault with
      | some failure =>
          have same : step db ⟨.cleanup retentionDays, o⟩ = db := by
            simp [step, DB.cleanup, fault]
          rw [same]
          refine ⟨rfl, fun _ => true, by simp, by simp [Cleans, fault], fun _ _ _ _ => rfl⟩
      | none =>
          have cut : step db ⟨.cleanup retentionDays, o⟩ =
              { db with rows := db.rows.filter fun r =>
                ¬r.timestamp < unix (o.addDays (-retentionDays)) } := by
            simp [step, DB.cleanup, fault]
          rw [cut]
          refine ⟨rfl, _, rfl, by simp [Cleans, fault], ?_⟩
          intro r s before kept
          simp only [decide_eq_true_eq] at kept ⊢
          rcases before with later | ⟨same, -⟩ <;> omega

theorem wellFormed_step (db : DB) (e : Event) (wf : WellFormed db) : WellFormed (step db e) := by
  rcases step_cases db e with ⟨row, -, numbered, next, -⟩ | ⟨-, same, test, left, -⟩
  · rw [next]
    constructor
    · rw [List.map_append, List.pairwise_append]
      refine ⟨wf.increasing, List.pairwise_singleton _ _, ?_⟩
      intro i listed j last
      obtain ⟨r, inside, rfl⟩ := List.mem_map.mp listed
      obtain rfl : j = row.id := by simpa using last
      have old := wf.below r inside
      omega
    · intro r member
      rcases List.mem_append.mp member with before | last
      · have old := wf.below r before
        exact Int.le_trans old (Int.le_add_of_nonneg_right (by decide))
      · obtain rfl := List.mem_singleton.mp last
        exact Int.le_of_eq numbered
  · constructor
    · rw [left]
      exact wf.increasing.sublist (List.filter_sublist.map _)
    · rw [left, same]
      exact fun r member => wf.below r (List.mem_of_mem_filter member)

theorem wellFormed_empty : WellFormed DB.empty := ⟨List.Pairwise.nil, by simp [DB.empty]⟩

theorem wellFormed_after (es : List Event) : WellFormed (after es) :=
  invariant_foldl wellFormed_step wellFormed_empty es

theorem mem_step_iff (db : DB) (e : Event) (_ : WellFormed db) :
    row ∈ (step db e).rows ↔ written db e = some row ∨ row ∈ db.rows ∧ ¬Cleans row e := by
  rcases step_cases db e with ⟨new, wrote, -, next, clean⟩ | ⟨nothing, -, test, left, kept, -⟩
  · rw [next, wrote]
    simp [clean row, or_comm, eq_comm]
  · rw [left, nothing]
    simp [List.mem_filter, kept row]

theorem logged_increasing (es : List Event) (db : DB) :
    ((logged db es).map Entry.id).Pairwise (· < ·) ∧
      ∀ i ∈ (logged db es).map Entry.id, db.seq < i := by
  induction es generalizing db with
  | nil => exact ⟨List.Pairwise.nil, by simp [logged]⟩
  | cons e es ih =>
      obtain ⟨sorted, above⟩ := ih (step db e)
      rcases step_cases db e with ⟨row, wrote, numbered, next, -⟩ | ⟨nothing, same, -⟩
      · rw [next] at above
        simp only [logged, wrote, Option.toList_some, List.singleton_append, List.map_cons]
        rw [next] at sorted ⊢
        refine ⟨List.pairwise_cons.mpr ⟨fun i listed => ?_, sorted⟩, ?_⟩
        · have := above i listed
          simp only at this
          omega
        · intro i listed
          rcases List.mem_cons.mp listed with rfl | later
          · omega
          · have := above i later
            simp only at this
            omega
      · rw [same] at above
        simp only [logged, nothing, Option.toList_none, List.nil_append]
        exact ⟨sorted, above⟩

/-- Over a whole run the numbers of the rows that are written increase, so none is given twice,
and a row is in the table iff it was written and was not too old for any cleanup that worked
since. -/
theorem rows_iff_last (es : List Event) :
    ((logged DB.empty es).map Entry.id).Pairwise (· < ·) ∧
      ∀ row, row ∈ (after es).rows ↔
        ∃ before e later, es = before ++ e :: later ∧ written (after before) e = some row ∧
          ∀ e' ∈ later, ¬Cleans row e' := by
  refine ⟨(logged_increasing es DB.empty).1, fun row => ?_⟩
  have along (db : DB) (l : List Event) :
      Along step (fun _ e => ¬Cleans row e) db l ↔ ∀ e ∈ l, ¬Cleans row e := by
    induction l generalizing db with
    | nil => simp [Along]
    | cons e l ih => simp [Along, ih]
  have last := @holds_iff_last DB Event step (fun db e => written db e = some row)
    (fun _ e => Cleans row e) WellFormed (fun db => row ∈ db.rows) wellFormed_step
    mem_step_iff DB.empty wellFormed_empty es
  rw [after, last]
  constructor
  · rintro (⟨before, e, later, split, wrote, kept⟩ | ⟨there, -⟩)
    · exact ⟨before, e, later, split, wrote, (along _ _).mp kept⟩
    · exact absurd there List.not_mem_nil
  · rintro ⟨before, e, later, split, wrote, kept⟩
    exact .inl ⟨before, e, later, split, wrote, (along _ _).mpr kept⟩

end Rows

section Browsing

/-- An entry as it is read from a row. -/
def read (row : Entry) : Entry := { row with timestamp := ofUnix row.timestamp }

/-- The pages that a reader gets who asks for one after the other, beginning with the `k`-th, and
what happens between two of them. -/
def browse (params : QueryParams) (limit : Nat) : Nat → DB → List (List Event) → List (List Entry)
  | k, db, [] => [db.query { params with limit, offset := k * limit }]
  | k, db, es :: rest =>
      db.query { params with limit, offset := k * limit } ::
        browse params limit (k + 1) (es.foldl step db) rest

/-- The parameters of the request for the `k`-th page. -/
def pageRequest (params : QueryParams) (limit k : Nat) : String → String
  | "limit" => itoa (.ofNat limit)
  | "offset" => itoa (.ofNat (k * limit))
  | "resource_type" => params.resourceType
  | "resource_id" => params.resourceID
  | "cluster" => params.cluster
  | "action" => params.action
  | _ => ""

/-- The table when each page is read. -/
def reads : DB → List (List Event) → List DB
  | db, [] => [db]
  | db, es :: rest => db :: reads (es.foldl step db) rest

def Later (db db' : DB) : Prop := ∃ es : List Event, db' = es.foldl step db

/-- The table when the last page is read. -/
def final (db : DB) (rest : List (List Event)) : DB := rest.foldl (fun db es => es.foldl step db) db

variable {params : QueryParams} {limit k : Nat} {db db' : DB} {rest : List (List Event)}
  {row : Entry}

/-- What the handler answers to the request for a page is the page. -/
theorem getActivity_pageRequest (params : QueryParams) {limit k : Nat} (small : limit < 2 ^ 63)
    (within : k * limit < 2 ^ 63) (db : DB) :
    getActivity (pageRequest params limit k) db =
      db.query { params with limit, offset := k * limit } := by
  have asked : pageRequest params limit k "limit" = itoa (.ofNat limit) := rfl
  have skipped : pageRequest params limit k "offset" = itoa (.ofNat (k * limit)) := rfl
  simp only [getActivity, asked, skipped, if_neg (itoa_ne_empty _), atoi_itoa, Option.elim_some]
  rw [Int64.toInt_ofNat_of_lt small, Int64.toInt_ofNat_of_lt within]
  rfl

theorem Later.refl (db : DB) : Later db db := ⟨[], rfl⟩

theorem Later.trans {db'' : DB} (first : Later db db') (second : Later db' db'') :
    Later db db'' := by
  obtain ⟨es, rfl⟩ := first
  obtain ⟨es', rfl⟩ := second
  exact ⟨es ++ es', by rw [List.foldl_append]⟩

theorem Later.wellFormed (later : Later db db') (wf : WellFormed db) : WellFormed db' := by
  obtain ⟨es, rfl⟩ := later
  exact invariant_foldl wellFormed_step wf es

theorem later_of_mem_reads {d : DB} (member : d ∈ reads db rest) :
    Later db d ∧ Later d (final db rest) := by
  induction rest generalizing db with
  | nil =>
      obtain rfl := List.mem_singleton.mp member
      exact ⟨.refl d, .refl d⟩
  | cons es rest ih =>
      have first : Later db (es.foldl step db) := ⟨es, rfl⟩
      rcases List.mem_cons.mp member with rfl | inner
      · refine ⟨.refl d, first.trans ?_⟩
        have whole : final (es.foldl step d) rest =
            (rest.flatten).foldl step (es.foldl step d) := by
          rw [final, List.foldl_flatten]
        exact ⟨rest.flatten, whole⟩
      · obtain ⟨reached, onward⟩ := ih inner
        exact ⟨first.trans reached, onward⟩

theorem pairwise_reads (db : DB) (rest : List (List Event)) : (reads db rest).Pairwise Later := by
  induction rest generalizing db with
  | nil => exact List.pairwise_singleton _ _
  | cons es rest ih =>
      have first : Later db (es.foldl step db) := ⟨es, rfl⟩
      exact List.pairwise_cons.mpr
        ⟨fun d member => first.trans (later_of_mem_reads member).1, ih (es.foldl step db)⟩

instance total_before : Std.Total DB.Before :=
  ⟨fun r s => by unfold DB.Before; omega⟩

instance isTrans_before : IsTrans Entry DB.Before :=
  ⟨fun r s t first second => by unfold DB.Before at *; omega⟩

theorem WellFormed.once (wf : WellFormed db) : db.rows.Nodup :=
  List.Nodup.of_map Entry.id (wf.increasing.imp fun {_ _} less => Int.ne_of_lt less)

theorem WellFormed.antisymm (wf : WellFormed db) {r s : Entry}
    (inside : r ∈ db.rows.filter (DB.filterMatches params))
    (inside' : s ∈ db.rows.filter (DB.filterMatches params)) (before : DB.Before r s)
    (behind : DB.Before s r) : r = s := by
  have numbers : (db.rows.map Entry.id).Nodup :=
    wf.increasing.imp fun {_ _} less => Int.ne_of_lt less
  apply List.inj_on_of_nodup_map numbers (List.mem_of_mem_filter inside)
    (List.mem_of_mem_filter inside')
  unfold DB.Before at before behind
  omega

theorem mem_listing : row ∈ db.listing params ↔
    row ∈ db.rows ∧ DB.filterMatches params row = true := by
  rw [DB.listing, (List.perm_insertionSort _ _).mem_iff, List.mem_filter]

theorem WellFormed.nodup_listing (wf : WellFormed db) : (db.listing params).Nodup :=
  (List.perm_insertionSort _ _).nodup_iff.mpr (wf.once.filter _)

/-- What an event does to a listing: it puts a row somewhere into it or takes away from its end. -/
theorem listing_step (wf : WellFormed db) (params : QueryParams) (e : Event) :
    (db.listing params).Sublist ((step db e).listing params) ∨
      (step db e).listing params <+: db.listing params := by
  rcases step_cases db e with ⟨new, -, numbered, next, -⟩ | ⟨-, -, test, left, -, down⟩
  · refine .inl ?_
    have wf' : WellFormed (step db e) := wellFormed_step db e wf
    have old : db.rows.filter (DB.filterMatches params) =
        ((step db e).rows.filter (DB.filterMatches params)).filter fun r => r.id ≤ db.seq := by
      have kept : (db.rows.filter (DB.filterMatches params)).filter (fun r => r.id ≤ db.seq) =
          db.rows.filter (DB.filterMatches params) := by
        apply List.filter_eq_self.mpr
        intro r member
        exact decide_eq_true (wf.below r (List.mem_of_mem_filter member))
      have gone :
          ([new].filter (DB.filterMatches params)).filter (fun r => r.id ≤ db.seq) = [] := by
        apply List.filter_eq_nil_iff.mpr
        intro r member
        obtain rfl := List.mem_singleton.mp (List.mem_of_mem_filter member)
        rw [decide_eq_true_eq]
        omega
      rw [next, List.filter_append, List.filter_append, kept, gone, List.append_nil]
    rw [DB.listing, old,
      insertionSort_filter _ fun a inside b inside' => wf'.antisymm inside inside']
    exact List.filter_sublist
  · refine .inr ?_
    have part : (step db e).rows.filter (DB.filterMatches params) =
        (db.rows.filter (DB.filterMatches params)).filter test := by
      rw [left, List.filter_filter, List.filter_filter]
      exact List.filter_congr fun r _ => Bool.and_comm _ _
    rw [DB.listing, part,
      insertionSort_filter _ fun a inside b inside' => wf.antisymm inside inside']
    exact filter_prefix (List.pairwise_insertionSort _ _) down

theorem mem_rows_of_later (later : Later db db') (wf : WellFormed db) (numbered : row.id ≤ db.seq)
    (inside : row ∈ db'.rows) : row ∈ db.rows := by
  obtain ⟨es, rfl⟩ := later
  induction es generalizing db with
  | nil => exact inside
  | cons e es ih =>
      rcases step_cases db e with ⟨new, -, number, next, -⟩ | ⟨-, same, test, left, -⟩
      · have there := ih (wellFormed_step db e wf) (by rw [next]; exact Int.le_add_one numbered)
          inside
        rw [next] at there
        rcases List.mem_append.mp there with old | last
        · exact old
        · obtain rfl := List.mem_singleton.mp last
          omega
      · have there := ih (wellFormed_step db e wf) (by rw [same]; exact numbered) inside
        rw [left] at there
        exact List.mem_of_mem_filter there

theorem idxOf_le_of_later (later : Later db db') (wf : WellFormed db) (inside : row ∈ db.rows)
    (stays : row ∈ db'.rows) (wanted : DB.filterMatches params row = true) :
    (db.listing params).idxOf row ≤ (db'.listing params).idxOf row := by
  obtain ⟨es, rfl⟩ := later
  induction es generalizing db with
  | nil => exact Nat.le_refl _
  | cons e es ih =>
      have wf' := wellFormed_step db e wf
      have next : row ∈ (step db e).rows := by
        refine mem_rows_of_later ⟨es, rfl⟩ wf' ?_ stays
        have low := wf.below row inside
        rcases step_cases db e with ⟨_, _, _, next, _⟩ | ⟨_, same, _⟩
        · rw [next]
          exact Int.le_add_one low
        · rwa [same]
      have first : (db.listing params).idxOf row ≤ ((step db e).listing params).idxOf row := by
        rcases listing_step wf params e with more | fewer
        · exact idxOf_le_of_sublist more wf'.nodup_listing (mem_listing.mpr ⟨inside, wanted⟩)
        · exact Nat.le_of_eq (idxOf_prefix_eq fewer (mem_listing.mpr ⟨next, wanted⟩))
      exact first.trans (ih wf' next stays)

theorem browse_eq (positive : 0 < limit) (most : limit ≤ 500) (k : Nat) (db : DB)
    (rest : List (List Event)) :
    browse params limit k db rest =
      (pages limit k ((reads db rest).map (DB.listing params))).map fun p => p.map read := by
  have asked (k : Nat) (db : DB) :
      db.query { params with limit, offset := k * limit } =
        (page limit k (db.listing params)).map read := by
    have most' : DB.limitOf { params with limit, offset := k * limit } = limit := by
      rw [DB.limitOf, if_neg (by simp; omega), if_neg (by simp; omega)]
    rw [DB.query, most']
    rfl
  induction rest generalizing k db with
  | nil => rw [browse, asked]; rfl
  | cons es rest ih => rw [browse, asked, ih]; rfl

theorem reads_ne_nil (db : DB) (rest : List (List Event)) : reads db rest ≠ [] := by
  cases rest <;> simp [reads]

/-- Whatever is logged and cleaned up between two pages, a reader who goes on until a page is not
full has seen every entry of the filter that was there from the first page to the last. -/
theorem browse_complete (es : List Event) (params : QueryParams) {limit : Nat}
    (positive : 0 < limit) (most : limit ≤ 500) (rest : List (List Event))
    (short : ∀ p ∈ (browse params limit 0 (after es) rest).getLast?, p.length < limit)
    {row : Entry} (wanted : DB.filterMatches params row = true) (first : row ∈ (after es).rows)
    (stays : row ∈ (final (after es) rest).rows) :
    ∃ p ∈ browse params limit 0 (after es) rest, read row ∈ p := by
  have wf := wellFormed_after es
  have there : ∀ d ∈ reads (after es) rest, WellFormed d ∧ row ∈ d.rows := by
    intro d member
    obtain ⟨reached, onward⟩ := later_of_mem_reads member
    refine ⟨reached.wellFormed wf, mem_rows_of_later onward (reached.wellFormed wf) ?_ stays⟩
    have low := wf.below row first
    obtain ⟨l, rfl⟩ := reached
    have rising (l : List Event) (db : DB) : db.seq ≤ (l.foldl step db).seq := by
      induction l generalizing db with
      | nil => exact Int.le_refl _
      | cons e l ih =>
          refine Int.le_trans ?_ (ih (step db e))
          rcases step_cases db e with ⟨_, _, _, next, _⟩ | ⟨_, same, _⟩
          · rw [next]
            exact Int.le_add_of_nonneg_right (by decide)
          · exact Int.le_of_eq same.symm
    exact Int.le_trans low (rising l _)
  have inside : ∀ l ∈ (reads (after es) rest).map (DB.listing params), row ∈ l := by
    intro l member
    obtain ⟨d, among, rfl⟩ := List.mem_map.mp member
    exact mem_listing.mpr ⟨(there d among).2, wanted⟩
  have later : ((reads (after es) rest).map (DB.listing params)).Pairwise
      fun l l' => l.idxOf row ≤ l'.idxOf row := by
    refine List.pairwise_map.mpr ((pairwise_reads _ _).imp_of_mem ?_)
    intro d d' among among' later
    exact idxOf_le_of_later later (there d among).1 (there d among).2 (there d' among').2 wanted
  have some_read : (reads (after es) rest).map (DB.listing params) ≠ [] := by
    simpa using reads_ne_nil _ _
  rw [browse_eq positive most] at short ⊢
  have short' : ∀ p ∈ (pages limit 0 ((reads (after es) rest).map
      (DB.listing params))).getLast?, p.length < limit := by
    intro p last
    have mapped := short (p.map read) (by simpa using ⟨p, last, rfl⟩)
    simpa using mapped
  obtain ⟨p, among, found⟩ := mem_pages inside later (by simp) some_read short'
  exact ⟨p.map read, List.mem_map_of_mem among, List.mem_map_of_mem found⟩

theorem listing_prefix (wf : WellFormed db) (params : QueryParams) {l : List Event}
    (quiet : ∀ e ∈ l, ∃ retentionDays, e.call = .cleanup retentionDays) :
    (l.foldl step db).listing params <+: db.listing params := by
  induction l generalizing db with
  | nil => exact List.prefix_refl _
  | cons e l ih =>
      have later := ih (wellFormed_step db e wf) fun e' member =>
        quiet e' (List.mem_cons_of_mem _ member)
      refine later.trans ?_
      rcases listing_step wf params e with more | fewer
      · -- what a cleanup leaves is no longer than before
        obtain ⟨retentionDays, called⟩ := quiet e List.mem_cons_self
        have nothing : written db e = none := by rw [written, called]
        rcases step_cases db e with ⟨_, wrote, _⟩ | ⟨-, -, test, left, -⟩
        · rw [nothing] at wrote
          cases wrote
        · have fewer : ((step db e).rows.filter (DB.filterMatches params)).length ≤
              (db.rows.filter (DB.filterMatches params)).length := by
            rw [left]
            exact (List.filter_sublist.filter _).length_le
          rw [more.eq_of_length_le (by simpa [DB.listing] using fewer)]
      · exact fewer

/-- While nothing is logged nothing is read twice: the pages one after the other are a part of what
was listed when the first was read, in its order. -/
theorem browse_once (es : List Event) (params : QueryParams) {limit : Nat} (positive : 0 < limit)
    (most : limit ≤ 500) (rest : List (List Event))
    (quiet : ∀ l ∈ rest, ∀ e ∈ l, ∃ retentionDays, e.call = .cleanup retentionDays) :
    (browse params limit 0 (after es) rest).flatten.Sublist
        (((after es).listing params).map read) ∧
      ((browse params limit 0 (after es) rest).flatten.map Entry.id).Nodup := by
  have parts : ∀ (db : DB) (rest : List (List Event)), WellFormed db →
      (∀ l ∈ rest, ∀ e ∈ l, ∃ retentionDays, e.call = .cleanup retentionDays) →
      ∀ d ∈ reads db rest, d.listing params <+: db.listing params := by
    intro db rest
    induction rest generalizing db with
    | nil =>
        intro _ _ d member
        obtain rfl := List.mem_singleton.mp member
        exact List.prefix_refl _
    | cons l rest ih =>
        intro wf quiet d member
        rcases List.mem_cons.mp member with rfl | inner
        · exact List.prefix_refl _
        · have first := listing_prefix wf params (quiet l List.mem_cons_self)
          have wf' : WellFormed (l.foldl step db) := invariant_foldl wellFormed_step wf l
          exact (ih _ wf' (fun l' among => quiet l' (List.mem_cons_of_mem _ among)) d inner).trans
            first
  have wf := wellFormed_after es
  have part : (browse params limit 0 (after es) rest).flatten.Sublist
      (((after es).listing params).map read) := by
    rw [browse_eq positive most, ← List.map_flatten]
    have prefixes : ∀ l ∈ (reads (after es) rest).map (DB.listing params),
        l <+: (after es).listing params := by
      intro l member
      obtain ⟨d, among, rfl⟩ := List.mem_map.mp member
      exact parts _ rest wf quiet d among
    have whole := @pages_sublist _ limit 0 _ _ prefixes
    simpa using whole.map read
  refine ⟨part, (part.map Entry.id).nodup ?_⟩
  rw [List.map_map]
  have numbers : (db : DB) → WellFormed db → (db.rows.map Entry.id).Nodup :=
    fun _ wf => wf.increasing.imp fun {_ _} less => Int.ne_of_lt less
  exact ((List.perm_insertionSort _ _).map Entry.id).nodup_iff.mpr
    ((numbers _ wf).sublist (List.filter_sublist.map _))

/-- An entry of a running guest, logged at some second. -/
def sample (seconds : Int) : Event :=
  ⟨.log ⟨0, ofUnix seconds, "vm_start", "vm", "100", "web", "c1", "", ""⟩,
    ⟨ofUnix seconds, fun days => ofUnix (seconds + 86400 * days), none⟩⟩

def everything : QueryParams := ⟨50, 0, "", "", "", ""⟩

/-- The first entry has moved back by one when the second page is read. -/
theorem browse_complete_moved :
    ∃ p ∈ browse everything 2 0 (after [sample 100, sample 200, sample 250]) [[sample 300], []],
      read ⟨1, 100, "vm_start", "vm", "100", "web", "c1", "", statusSuccess⟩ ∈ p :=
  browse_complete [sample 100, sample 200, sample 250] everything (by decide) (by decide)
    [[sample 300], []] (by decide +kernel) (by decide) (by decide +kernel) (by decide +kernel)

/-- Two pages, and a cleanup of what is older than two days between them. -/
theorem browse_once_cleaned :
    (browse everything 1 0 (after [sample 100, sample 200000])
      [[⟨.cleanup 2, (sample 300000).outside⟩], []]).flatten.Sublist
        (((after [sample 100, sample 200000]).listing everything).map read) ∧
    ((browse everything 1 0 (after [sample 100, sample 200000])
      [[⟨.cleanup 2, (sample 300000).outside⟩], []]).flatten.map Entry.id).Nodup :=
  browse_once [sample 100, sample 200000] everything (by decide) (by decide)
    [[⟨.cleanup 2, (sample 300000).outside⟩], []] (by
      intro l listed e member
      rcases List.mem_cons.mp listed with rfl | listed
      · exact ⟨2, by rw [List.mem_singleton.mp member]⟩
      · rw [List.mem_singleton.mp listed] at member
        exact absurd member List.not_mem_nil)

end Browsing

end Activity
