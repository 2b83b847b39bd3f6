import PCenter.Lib.Like
import PCenter.Lib.Sorting
import PCenter.Lib.Text

/-!
# The content library

`internal/library/db.go`. The tags of an item are joined by commas into one column and split
again when a row is read; a filter by tag is a `LIKE` on that column between two commas. A
tag with a comma comes back as several, a single empty tag as none, and the filter is blind
to ASCII case and takes the percent signs and underscores of the tag for wildcards:
`filtered_exactly_iff`.
-/

namespace Library

open Like

section Model

/-- An `Item` holds its tags in a list, a row of `library_items` in one text. Times are Unix
seconds, which is what the table keeps of them. -/
structure Record (Tags : Type) where
  id : String
  name : String
  description : String
  type : String
  category : String
  version : String
  tags : Tags
  cluster : String
  node : String
  storage : String
  volume : String
  size : Int64
  format : String
  vmid : Int64
  osType : String
  cores : Int64
  memory : Int64
  createdAt : Int64
  updatedAt : Int64
  createdBy : String
  deriving DecidableEq, Repr

abbrev Item := Record (List String)

abbrev Row := Record String

/-- `nil` tags, which leave the column as it is, are not the empty list. -/
structure UpdateItemRequest where
  name : Option String
  description : Option String
  category : Option String
  version : Option String
  tags : Option (List String)
  deriving DecidableEq, Repr

structure ListFilter where
  type : String := ""
  category : String := ""
  cluster : String := ""
  search : String := ""
  tag : String := ""
  deriving DecidableEq, Repr

/-- `strings.Join` at a comma. -/
def joinTags (tags : List String) : String := ",".intercalate tags

def scanTags (tags : String) : List String :=
  if tags ≠ "" then GoText.split ',' tags else []

def scanItem (row : Row) : Item := { row with tags := scanTags row.tags }

/-- `newId` is what `uuid.New` draws. -/
def create (newId : String) (now : Int64) (item : Item) (db : List Row) :
    Except String Item × List Row :=
  let item :=
    { item with
      id := if item.id = "" then newId else item.id
      createdAt := now
      updatedAt := now }
  if db.any (·.id = item.id) then (.error "UNIQUE constraint failed: library_items.id", db)
  else (.ok item, db ++ [{ item with tags := joinTags item.tags }])

def get (id : String) (db : List Row) : Except String Item :=
  match db.find? (·.id = id) with
  | some row => .ok (scanItem row)
  | none => .error "sql: no rows in result set"

def UpdateItemRequest.apply (req : UpdateItemRequest) (now : Int64) (row : Row) : Row :=
  { row with
    updatedAt := now
    name := req.name.getD row.name
    description := req.description.getD row.description
    category := req.category.getD row.category
    version := req.version.getD row.version
    tags := (req.tags.map joinTags).getD row.tags }

def update (id : String) (now : Int64) (req : UpdateItemRequest) (db : List Row) :
    Except String Unit × List Row :=
  if db.any (·.id = id) then
    (.ok (), db.map fun row => if row.id = id then req.apply now row else row)
  else (.error "item not found", db)

def delete (id : String) (db : List Row) : Except String Unit × List Row :=
  if db.any (·.id = id) then (.ok (), db.filter (·.id ≠ id))
  else (.error "item not found", db)

/-- The conditions of the `WHERE` clause, one for each field of the filter that is set. -/
def ListFilter.conditions (filter : ListFilter) : List (Row → Except String Bool) :=
  (if filter.type ≠ "" then [fun row => .ok (row.type = filter.type)] else []) ++
  (if filter.category ≠ "" then [fun row => .ok (row.category = filter.category)] else []) ++
  (if filter.cluster ≠ "" then [fun row => .ok (row.cluster = filter.cluster)] else []) ++
  (if filter.search ≠ "" then
    [fun row => do
      let search := "%" ++ filter.search ++ "%"
      if ← like search row.name then return true else like search row.description]
   else []) ++
  (if filter.tag ≠ "" then
    [fun row => like ("%," ++ filter.tag ++ ",%") ("," ++ row.tags ++ ",")]
   else [])

/-- `AND`, from the left. -/
def holds (row : Row) : List (Row → Except String Bool) → Except String Bool
  | [] => .ok true
  | condition :: rest => do
      if ← condition row then holds row rest else return false

/-- A condition that fails on a row fails the query. -/
def select (keep : Row → Except String Bool) : List Row → Except String (List Row)
  | [] => .ok []
  | row :: rows => do
      let kept ← keep row
      let later ← select keep rows
      return if kept then row :: later else later

/-- `ORDER BY name ASC` -/
def byName (a b : Row) : Prop := a.name < b.name

def list (sorter : Sorting.Sorter byName) (filter : ListFilter) (db : List Row) :
    Except String (List Item) := do
  let rows ← select (fun row => holds row filter.conditions) db
  return (sorter.arrange rows).map scanItem

inductive Op where
  | create (newId : String) (now : Int64) (item : Item)
  | update (id : String) (now : Int64) (req : UpdateItemRequest)
  | delete (id : String)

def step (db : List Row) : Op → List Row
  | .create newId now item => (create newId now item db).2
  | .update id now req => (update id now req db).2
  | .delete id => (delete id db).2

/-- The library starts empty. -/
def run (ops : List Op) : List Row := ops.foldl step []

end Model

section Stored

/-- The tag list last stored for each id, after one more operation. -/
def Op.store (stored : String → Option (List String)) : Op → String → Option (List String)
  | .create newId _ item =>
      let id := if item.id = "" then newId else item.id
      if (stored id).isSome then stored else Function.update stored id (some item.tags)
  | .update id _ req =>
      match req.tags with
      | some tags =>
          if (stored id).isSome then Function.update stored id (some tags) else stored
      | none => stored
  | .delete id => Function.update stored id none

def lastStored (ops : List Op) : String → Option (List String) :=
  ops.foldl Op.store fun _ => none

/-- The tags that were last stored come back, and a filter by `t` gives each item that was
stored with `t` once. -/
structure Exact (sorter : Sorting.Sorter byName) (ops : List Op) (t : String) : Prop where
  reads : ∀ id tags, lastStored ops id = some tags →
    ∃ item, get id (run ops) = .ok item ∧ item.tags = tags
  lists : ∃ items, list sorter { tag := t } (run ops) = .ok items ∧
    (items.map (·.id)).Nodup ∧
    ∀ item, item ∈ items ↔ get item.id (run ops) = .ok item ∧
      ∃ tags, lastStored ops item.id = some tags ∧ t ∈ tags

/-- What stands between the commas of the text that is searched. -/
def cells (tags : List String) : List (List Char) :=
  [] :: ((if tags = [] then [""] else tags).map String.toList ++ [[]])

/-- `LIKE` sees `t` in the tags: it fits the join of some consecutive tags, or nothing where
there are no tags. A NUL hides what follows it, in the tags and in `t`. -/
def Seen (t : String) (tags : List String) : Prop :=
  if '\x00' ∈ t.toList then
    ∃ as ms, as ≠ [] ∧ ms ≠ [] ∧ shown (cells tags) = as ++ ms ∧
      fits (terminated t.toList) (join ',' ms) = true
  else
    ∃ as ms bs, as ≠ [] ∧ ms ≠ [] ∧ bs ≠ [] ∧ shown (cells tags) = as ++ (ms ++ bs) ∧
      fits t.toList (join ',' ms) = true

structure Plain (ops : List Op) (t : String) : Prop where
  short : (∃ id tags, lastStored ops id = some tags) → t.utf8ByteSize + 4 ≤ maxPatternLength
  nonblank : ∀ id, lastStored ops id ≠ some [""]
  commaFree : ∀ id tags, lastStored ops id = some tags → ∀ tag ∈ tags, ',' ∉ tag.toList
  seen : ∀ id tags, lastStored ops id = some tags → (Seen t tags ↔ t ∈ tags)

end Stored

section Table

variable {db : List Row} {stored : String → Option (List String)}

/-- The rows hold the joined tags under the stored ids, each id once. -/
structure Holds (db : List Row) (stored : String → Option (List String)) : Prop where
  nodup : (db.map (·.id)).Nodup
  column : ∀ id, (db.find? (·.id = id)).map (·.tags) = (stored id).map joinTags

theorem Holds.any_eq (h : Holds db stored) (id : String) :
    db.any (·.id = id) = (stored id).isSome := by
  have column := congrArg Option.isSome (h.column id)
  rw [Option.isSome_map, Option.isSome_map, List.isSome_find?] at column
  exact column

theorem Holds.find?_eq_none (h : Holds db stored) {id : String} (absent : stored id = none) :
    db.find? (·.id = id) = none := by
  have column := h.column id
  rw [absent] at column
  exact Option.map_eq_none_iff.mp column

theorem Holds.append (h : Holds db stored) {row : Row} {tags : List String}
    (fresh : stored row.id = none) (column : row.tags = joinTags tags) :
    Holds (db ++ [row]) (Function.update stored row.id (some tags)) where
  nodup := by
    have absent := h.find?_eq_none fresh
    simp only [List.find?_eq_none, decide_eq_true_eq] at absent
    rw [List.map_append, List.nodup_append]
    refine ⟨h.nodup, List.nodup_singleton _, ?_⟩
    rintro id inside _ new rfl
    obtain ⟨old, listed, rfl⟩ := List.mem_map.mp inside
    exact absent old listed (by simpa using new)
  column id := by
    rw [List.find?_append]
    by_cases here : id = row.id
    · subst here
      rw [h.find?_eq_none fresh, Function.update_self]
      simp [column]
    · have there : row.id ≠ id := Ne.symm here
      rw [Function.update_of_ne here, ← h.column id]
      simp [there]

theorem Holds.replace (h : Holds db stored) {change : Row → Row} {id : String}
    (sameId : ∀ row, (change row).id = row.id) (tags : Option (List String))
    (column : ∀ row, (change row).tags = (tags.map joinTags).getD row.tags) :
    Holds (db.map fun row => if row.id = id then change row else row)
      (Function.update stored id ((stored id).map fun old => tags.getD old)) := by
  have ids : ∀ row, (if row.id = id then change row else row).id = row.id := by
    intro row
    split
    · exact sameId row
    · rfl
  constructor
  · have same : (Record.id ∘ fun row => if row.id = id then change row else row) = Record.id :=
      funext ids
    rw [List.map_map, same]
    exact h.nodup
  · intro other
    have found : (fun row => decide (row.id = other)) ∘
        (fun row => if row.id = id then change row else row) =
        fun row : Row => decide (row.id = other) := by
      funext row
      simp [ids]
    rw [List.find?_map, found, Option.map_map]
    have column' := h.column other
    by_cases here : other = id
    · subst here
      rw [Function.update_self]
      cases old : db.find? (·.id = other) with
      | none =>
          rw [old] at column'
          simp [Option.map_eq_none_iff.mp column'.symm]
      | some row =>
          have named : row.id = other := by simpa using List.find?_some old
          rw [old] at column'
          obtain ⟨list, before, text⟩ := Option.map_eq_some_iff.mp column'.symm
          rw [before]
          cases tags with
          | none => simp [named, column, text]
          | some new => simp [named, column]
    · rw [Function.update_of_ne here, ← column']
      cases old : db.find? (·.id = other) with
      | none => rfl
      | some row =>
          have named : row.id = other := by simpa using List.find?_some old
          simp [named, here]

theorem Holds.remove (h : Holds db stored) (id : String) :
    Holds (db.filter (·.id ≠ id)) (Function.update stored id none) where
  nodup := h.nodup.sublist (List.filter_sublist.map _)
  column other := by
    rw [List.find?_filter]
    by_cases here : other = id
    · subst here
      rw [Function.update_self]
      simp
    · rw [Function.update_of_ne here, ← h.column other]
      congr 2
      funext row
      by_cases there : row.id = other
      · simp [there, here]
      · simp [there]

theorem Holds.step (h : Holds db stored) (op : Op) : Holds (step db op) (op.store stored) := by
  cases op with
  | create newId now item =>
      simp only [Library.step, create, Op.store, h.any_eq]
      generalize (if item.id = "" then newId else item.id) = id
      cases old : stored id with
      | none => exact @Holds.append _ _ h { item with
          id, createdAt := now, updatedAt := now, tags := joinTags item.tags } _ old rfl
      | some tags => exact h
  | update id now req =>
      simp only [Library.step, update, Op.store, h.any_eq]
      have replaced := @Holds.replace _ _ h (req.apply now) id (fun _ => rfl) req.tags
        (fun _ => rfl)
      cases old : stored id with
      | none =>
          cases req.tags with
          | none => exact h
          | some tags => exact h
      | some before =>
          rw [old] at replaced
          cases sent : req.tags with
          | none =>
              rw [sent] at replaced
              have same : Function.update stored id (some before) = stored :=
                Function.update_eq_self_iff.mpr old.symm
              simpa [same] using replaced
          | some tags =>
              rw [sent] at replaced
              simpa using replaced
  | delete id =>
      simp only [Library.step, delete, Op.store, h.any_eq]
      cases old : stored id with
      | none =>
          have same : Function.update stored id none = stored :=
            Function.update_eq_self_iff.mpr old.symm
          rw [same]
          exact h
      | some tags => exact h.remove id

theorem holds_run (ops : List Op) : Holds (run ops) (lastStored ops) := by
  have steps : ∀ (ops : List Op) (db : List Row) stored, Holds db stored →
      Holds (ops.foldl Library.step db) (ops.foldl Op.store stored) := by
    intro ops
    induction ops with
    | nil => exact fun _ _ h => h
    | cons op ops ih => exact fun db stored h => ih _ _ (h.step op)
  exact steps ops [] _ ⟨List.nodup_nil, fun _ => rfl⟩

end Table

section Tags

variable {t : String} {tags : List String}

theorem toList_joinTags (tags : List String) :
    (joinTags tags).toList = join ',' (tags.map String.toList) :=
  String.toList_intercalate

theorem joinTags_eq_empty_iff : joinTags tags = "" ↔ tags = [] ∨ tags = [""] := by
  rw [← String.toList_inj, toList_joinTags]
  constructor
  · intro empty
    cases tags with
    | nil => exact .inl rfl
    | cons tag rest =>
        cases rest with
        | nil =>
            have blank : tag.toList = [] := by simpa [join] using empty
            have blank : tag = "" := String.toList_inj.mp (by simpa using blank)
            exact .inr (by rw [blank])
        | cons next rest =>
            rw [List.map_cons, join_cons (by simp)] at empty
            simp at empty
  · rintro (rfl | rfl) <;> rfl

theorem scanTags_joinTags_iff :
    scanTags (joinTags tags) = tags ↔ tags ≠ [""] ∧ ∀ tag ∈ tags, ',' ∉ tag.toList := by
  have texts : (tags.map String.toList).map String.ofList = tags := by simp
  rw [scanTags]
  by_cases empty : joinTags tags = ""
  · rw [if_neg (by simpa using empty)]
    rcases joinTags_eq_empty_iff.mp empty with rfl | rfl <;> simp
  · obtain ⟨nonempty, nonblank⟩ := not_or.mp (mt joinTags_eq_empty_iff.mpr empty)
    rw [if_pos empty, GoText.split, toList_joinTags]
    constructor
    · intro same
      refine ⟨nonblank, fun tag listed => ?_⟩
      rw [← same] at listed
      obtain ⟨cell, part, rfl⟩ := List.mem_map.mp listed
      rw [String.toList_ofList]
      exact GoText.not_mem_of_mem_splitOn part
    · rintro ⟨-, free⟩
      rw [splitOn_join (by simpa using free) (by simpa using nonempty), texts]

theorem cells_ne_nil : cells tags ≠ [] := List.cons_ne_nil _ _

theorem cells_free (free : ∀ tag ∈ tags, ',' ∉ tag.toList) : ∀ cell ∈ cells tags, ',' ∉ cell := by
  intro cell inside
  simp only [cells, List.mem_cons, List.mem_append, List.mem_map, List.not_mem_nil,
    or_false] at inside
  rcases inside with rfl | ⟨tag, listed, rfl⟩ | rfl
  · simp
  · split at listed
    · simp_all
    · exact free tag listed
  · simp

theorem join_cells (tags : List String) :
    ("," ++ joinTags tags ++ ",").toList = join ',' (cells tags) := by
  have column : join ',' ((if tags = [] then [""] else tags).map String.toList) =
      (joinTags tags).toList := by
    rw [toList_joinTags]
    split
    · rename_i empty
      rw [empty]
      rfl
    · rfl
  have some_ : (if tags = [] then [""] else tags).map String.toList ≠ [] := by
    split <;> simp_all
  rw [cells, join_cons (by simp), join_append some_ (by simp), column]
  simp [join]

theorem literal_comma : Literal ',' where
  percent := by decide
  underscore := by decide
  letter c := by
    constructor
    · intro same
      have codes := congrArg Char.toNat same
      have comma : ','.toNat = 44 := rfl
      rw [toNat_lower, toNat_lower, comma] at codes
      apply Char.toNat_inj.mp
      split at codes <;> split at codes <;> omega
    · rintro rfl
      rfl

/-- The `LIKE` of the filter by `t`, when the pattern is not too long. -/
def found (t : String) (row : Row) : Bool :=
  fits (terminated ("%," ++ t ++ ",%").toList) (terminated ("," ++ row.tags ++ ",").toList)

theorem utf8ByteSize_pattern (t : String) :
    ("%," ++ t ++ ",%").utf8ByteSize = t.utf8ByteSize + 4 := by
  have opening : "%,".utf8ByteSize = 2 := rfl
  have closing : ",%".utf8ByteSize = 2 := rfl
  simp only [String.utf8ByteSize_append]
  omega

theorem found_iff (free : ∀ tag ∈ tags, ',' ∉ tag.toList) {row : Row}
    (column : row.tags = joinTags tags) : found t row = true ↔ Seen t tags := by
  have shownFree := shown_free (cells_free free)
  have shownSome : shown (cells tags) ≠ [] := shown_ne_nil cells_ne_nil
  rw [found, column, join_cells, terminated_join (by decide) cells_ne_nil, Seen]
  have pattern : ("%," ++ t ++ ",%").toList = '%' :: ',' :: (t.toList ++ [',', '%']) := by simp
  have opening : '\x00' ∉ ['%', ','] := by decide
  have split_ : ('%' :: ',' :: (t.toList ++ [',', '%'])) = ['%', ','] ++ (t.toList ++ [',', '%']) :=
    rfl
  rw [pattern, split_, terminated_append opening]
  split
  · rename_i nul
    rw [terminated_append_of_mem nul]
    have after := @fits_after _ literal_comma (terminated t.toList) (join ',' (shown (cells tags)))
    refine after.trans ?_
    constructor
    · rintro ⟨a, m, text, fit⟩
      obtain ⟨as, ms, left, right, parts, rfl⟩ :=
        (join_eq_after_iff shownFree shownSome).mp ⟨a, text⟩
      exact ⟨as, ms, left, right, parts, fit⟩
    · rintro ⟨as, ms, left, right, parts, fit⟩
      obtain ⟨a, text⟩ :=
        (join_eq_after_iff shownFree shownSome).mpr ⟨as, ms, left, right, parts, rfl⟩
      exact ⟨a, join ',' ms, text, fit⟩
  · rename_i nul
    have closing : terminated [',', '%'] = [',', '%'] := terminated_of_not_mem (by decide)
    rw [terminated_append nul, closing]
    have between := @fits_between _ literal_comma t.toList (join ',' (shown (cells tags)))
    refine between.trans ?_
    constructor
    · rintro ⟨a, m, b, text, fit⟩
      obtain ⟨as, ms, bs, left, middle, right, parts, rfl⟩ :=
        (join_eq_between_iff shownFree shownSome).mp ⟨a, b, text⟩
      exact ⟨as, ms, bs, left, middle, right, parts, fit⟩
    · rintro ⟨as, ms, bs, left, middle, right, parts, fit⟩
      obtain ⟨a, b, text⟩ := (join_eq_between_iff shownFree shownSome).mpr
        ⟨as, ms, bs, left, middle, right, parts, rfl⟩
      exact ⟨a, join ',' ms, b, text, fit⟩

/-- Without NULs the filter sees runs of consecutive tags. -/
theorem seen_iff_run (whole : '\x00' ∉ t.toList) (visible : ∀ tag ∈ tags, '\x00' ∉ tag.toList)
    (nonempty : tags ≠ []) :
    Seen t tags ↔ ∃ run, run ≠ [] ∧ run <:+: tags ∧
      fits t.toList (join ',' (run.map String.toList)) = true := by
  have plain : ∀ cell ∈ cells tags, '\x00' ∉ cell := by
    intro cell inside
    simp only [cells, if_neg nonempty, List.mem_cons, List.mem_append, List.mem_map,
      List.not_mem_nil, or_false] at inside
    rcases inside with rfl | ⟨tag, listed, rfl⟩ | rfl
    · simp
    · exact visible tag listed
    · simp
  have row : cells tags = [] :: (tags.map String.toList ++ [[]]) := by
    rw [cells, if_neg nonempty]
  rw [Seen, if_neg whole, shown_of_not_mem plain, row]
  constructor
  · rintro ⟨as, ms, bs, left, middle, right, parts, fit⟩
    obtain ⟨a, as, rfl⟩ := List.exists_cons_of_ne_nil left
    obtain ⟨bs, b, rfl⟩ := (List.eq_nil_or_concat' bs).resolve_left right
    have inner : tags.map String.toList = as ++ ms ++ bs := by
      have tail := (List.cons.inj parts).2
      have tail : tags.map String.toList ++ [[]] = as ++ ms ++ bs ++ [b] := by simpa using tail
      exact (List.append_inj' tail rfl).1
    obtain ⟨_, rest, rfl, front, rfl⟩ := List.map_eq_append_iff.mp inner
    obtain ⟨before, run, rfl, rfl, rfl⟩ := List.map_eq_append_iff.mp front
    exact ⟨run, by simpa using middle, ⟨before, rest, rfl⟩, fit⟩
  · rintro ⟨run, some_, ⟨before, rest, rfl⟩, fit⟩
    refine ⟨[] :: before.map String.toList, run.map String.toList,
      rest.map String.toList ++ [[]], by simp, by simpa using some_, by simp, by simp, fit⟩

/-- Where there are no tags, only percent signs are found. -/
theorem seen_nil (whole : '\x00' ∉ t.toList) : Seen t [] ↔ fits t.toList [] = true := by
  have row : shown (cells []) = [[], [], []] := rfl
  rw [Seen, if_neg whole, row]
  constructor
  · rintro ⟨as, ms, bs, left, middle, right, parts, fit⟩
    obtain ⟨a, as, rfl⟩ := List.exists_cons_of_ne_nil left
    obtain ⟨m, ms, rfl⟩ := List.exists_cons_of_ne_nil middle
    obtain ⟨b, bs, rfl⟩ := List.exists_cons_of_ne_nil right
    have size := congrArg List.length parts
    simp only [List.length_cons, List.length_nil, List.length_append] at size
    obtain rfl : as = [] := List.eq_nil_of_length_eq_zero (by omega)
    obtain rfl : ms = [] := List.eq_nil_of_length_eq_zero (by omega)
    obtain rfl : [] = m := (List.cons.inj (List.cons.inj parts).2).1
    exact fit
  · intro fit
    exact ⟨[[]], [[]], [[]], by simp, by simp, by simp, rfl, fit⟩

theorem seen_of_mem (whole : '\x00' ∉ t.toList) (visible : ∀ tag ∈ tags, '\x00' ∉ tag.toList)
    (stored : t ∈ tags) : Seen t tags := by
  refine (seen_iff_run whole visible (List.ne_nil_of_mem stored)).mpr
    ⟨[t], by simp, ?_, ?_⟩
  · obtain ⟨before, rest, rfl⟩ := List.append_of_mem stored
    exact ⟨before, rest, by simp⟩
  · simpa [join] using fits_self t.toList

/-- A `t` of ordinary characters is found wherever it stands up to ASCII case. -/
theorem seen_iff_of_literal (whole : '\x00' ∉ t.toList)
    (visible : ∀ tag ∈ tags, '\x00' ∉ tag.toList)
    (literal : ∀ c ∈ t.toList, c ≠ '%' ∧ c ≠ '_') (comma : ',' ∉ t.toList) (some_ : t ≠ "") :
    Seen t tags ↔ ∃ tag ∈ tags, tag.toList.map lower = t.toList.map lower := by
  by_cases nonempty : tags = []
  · subst nonempty
    have chars : t.toList ≠ [] := fun empty => some_ (String.toList_inj.mp empty)
    rw [seen_nil whole, fits_plain literal]
    simpa using Ne.symm chars
  rw [seen_iff_run whole visible nonempty]
  constructor
  · rintro ⟨run, nonblank, ⟨before, rest, rfl⟩, fit⟩
    have letters := (fits_plain literal).mp fit
    cases run with
    | nil => exact absurd rfl nonblank
    | cons tag run =>
        cases run with
        | nil => exact ⟨tag, by simp, by simpa [join] using letters⟩
        | cons next run =>
            rw [List.map_cons, join_cons (by simp)] at letters
            have inside : ',' ∈ t.toList.map lower := by
              rw [← letters]
              exact List.mem_map.mpr ⟨',', by simp, rfl⟩
            obtain ⟨c, member, same⟩ := List.mem_map.mp inside
            obtain rfl := (literal_comma.letter c).mp same.symm
            exact absurd member comma
  · rintro ⟨tag, listed, letters⟩
    obtain ⟨before, rest, rfl⟩ := List.append_of_mem listed
    refine ⟨[tag], by simp, ⟨before, rest, by simp⟩, (fits_plain literal).mpr ?_⟩
    simpa [join] using letters

end Tags

section Filter

variable {db : List Row} {stored : String → Option (List String)} {t : String}

theorem select_ok {keep : Row → Except String Bool} {p : Row → Bool}
    (decided : ∀ row ∈ db, keep row = .ok (p row)) : select keep db = .ok (db.filter p) := by
  induction db with
  | nil => rfl
  | cons row db ih =>
      have first := decided row List.mem_cons_self
      have later := ih fun row' inside => decided row' (List.mem_cons_of_mem row inside)
      rw [select, first, later, List.filter_cons]
      cases p row <;> rfl

theorem select_error {keep : Row → Except String Bool} {message : String} (nonempty : db ≠ [])
    (fails : ∀ row, keep row = .error message) : select keep db = .error message := by
  obtain ⟨row, rest, rfl⟩ := List.exists_cons_of_ne_nil nonempty
  rw [select, fails row]
  rfl

theorem holds_tag (some_ : t ≠ "") (row : Row) :
    holds row ({ tag := t } : ListFilter).conditions =
      like ("%," ++ t ++ ",%") ("," ++ row.tags ++ ",") := by
  simp only [ListFilter.conditions, ne_eq, not_true_eq_false, if_false, some_, not_false_eq_true,
    if_true, List.nil_append, holds]
  rcases like ("%," ++ t ++ ",%") ("," ++ row.tags ++ ",") with message | b
  · rfl
  · cases b <;> rfl

theorem list_tag (sorter : Sorting.Sorter byName) (some_ : t ≠ "")
    (short : t.utf8ByteSize + 4 ≤ maxPatternLength) :
    list sorter { tag := t } db =
      .ok ((sorter.arrange (db.filter (found t))).map scanItem) := by
  have decided : ∀ row ∈ db,
      holds row ({ tag := t } : ListFilter).conditions = .ok (found t row) := by
    intro row inside
    have size := utf8ByteSize_pattern t
    rw [holds_tag some_]
    exact if_neg (by omega)
  rw [list, select_ok decided]
  rfl

/-- SQLite refuses a long pattern as soon as there is a row to compare. -/
theorem list_tag_error (sorter : Sorting.Sorter byName) (some_ : t ≠ "")
    (long : maxPatternLength < t.utf8ByteSize + 4) (nonempty : db ≠ []) :
    list sorter { tag := t } db = .error "LIKE or GLOB pattern too complex" := by
  have fails : ∀ row, holds row ({ tag := t } : ListFilter).conditions =
      .error "LIKE or GLOB pattern too complex" := by
    intro row
    have size := utf8ByteSize_pattern t
    rw [holds_tag some_]
    exact if_pos (by omega)
  rw [list, select_error nonempty fails]
  rfl

theorem list_nil (sorter : Sorting.Sorter byName) (filter : ListFilter) :
    list sorter filter [] = .ok [] := by
  have empty : sorter.arrange [] = [] := (sorter.perm []).eq_nil
  rw [list, select]
  exact congrArg (fun rows : List Row => Except.ok (rows.map scanItem)) empty

theorem Holds.find?_eq_some (h : Holds db stored) {row : Row} (inside : row ∈ db) :
    db.find? (·.id = row.id) = some row := by
  cases found : db.find? (·.id = row.id) with
  | none => simpa using List.find?_eq_none.mp found row inside
  | some other =>
      have named : other.id = row.id := by simpa using List.find?_some found
      have same := List.inj_on_of_nodup_map h.nodup (List.mem_of_find?_eq_some found) inside named
      rw [same]

theorem Holds.stored_of_mem (h : Holds db stored) {row : Row} (inside : row ∈ db) :
    ∃ tags, stored row.id = some tags ∧ row.tags = joinTags tags := by
  have column := h.column row.id
  rw [h.find?_eq_some inside] at column
  obtain ⟨tags, last, text⟩ := Option.map_eq_some_iff.mp column.symm
  exact ⟨tags, last, text.symm⟩

theorem Holds.row_of_stored (h : Holds db stored) {id : String} {tags : List String}
    (last : stored id = some tags) :
    ∃ row ∈ db, row.id = id ∧ row.tags = joinTags tags ∧ get id db = .ok (scanItem row) := by
  have column := h.column id
  rw [last] at column
  obtain ⟨row, found, text⟩ := Option.map_eq_some_iff.mp column
  have named : row.id = id := by simpa using List.find?_some found
  refine ⟨row, List.mem_of_find?_eq_some found, named, text, ?_⟩
  rw [get, found]

theorem Holds.get_of_mem (h : Holds db stored) {row : Row} (inside : row ∈ db) :
    get row.id db = .ok (scanItem row) := by
  rw [get, h.find?_eq_some inside]

/-- What the filter by `t` returns, by the rows. -/
theorem Holds.mem_list_iff (h : Holds db stored) (sorter : Sorting.Sorter byName) {row : Row}
    (inside : row ∈ db) :
    scanItem row ∈ (sorter.arrange (db.filter (found t))).map scanItem ↔ found t row = true := by
  rw [List.mem_map]
  constructor
  · rintro ⟨other, listed, same⟩
    obtain ⟨there, matched⟩ := List.mem_filter.mp ((sorter.perm _).mem_iff.mp listed)
    have ids : other.id = row.id := congrArg (@Record.id (List String)) same
    rwa [List.inj_on_of_nodup_map h.nodup there inside ids] at matched
  · intro matched
    exact ⟨row, (sorter.perm _).mem_iff.mpr (List.mem_filter.mpr ⟨inside, matched⟩), rfl⟩

end Filter

section Exactness

variable {sorter : Sorting.Sorter byName} {ops : List Op} {t : String}

theorem Exact.plain_tags (e : Exact sorter ops t) {id : String} {tags : List String}
    (last : lastStored ops id = some tags) : tags ≠ [""] ∧ ∀ tag ∈ tags, ',' ∉ tag.toList := by
  obtain ⟨row, inside, named, column, got⟩ := (holds_run ops).row_of_stored last
  obtain ⟨item, got', same⟩ := e.reads id tags last
  obtain rfl : scanItem row = item := Except.ok.inj (got.symm.trans got')
  have back : scanTags row.tags = tags := same
  rw [column] at back
  exact scanTags_joinTags_iff.mp back

theorem Exact.short (e : Exact sorter ops t) (some_ : t ≠ "") {id : String} {tags : List String}
    (last : lastStored ops id = some tags) : t.utf8ByteSize + 4 ≤ maxPatternLength := by
  by_contra long
  obtain ⟨row, inside, -⟩ := (holds_run ops).row_of_stored last
  obtain ⟨items, listed, -⟩ := e.lists
  have refused := @list_tag_error _ _ sorter some_ (by omega) (List.ne_nil_of_mem inside)
  rw [refused] at listed
  cases listed

theorem Exact.seen (e : Exact sorter ops t) (some_ : t ≠ "") {id : String} {tags : List String}
    (last : lastStored ops id = some tags) : Seen t tags ↔ t ∈ tags := by
  obtain ⟨row, inside, rfl, column, got⟩ := (holds_run ops).row_of_stored last
  obtain ⟨items, listed, -, member⟩ := e.lists
  rw [list_tag sorter some_ (e.short some_ last)] at listed
  obtain rfl := Except.ok.inj listed
  have answer := member (scanItem row)
  rw [(holds_run ops).mem_list_iff sorter inside, found_iff (e.plain_tags last).2 column] at answer
  refine answer.trans ?_
  constructor
  · rintro ⟨-, tags', last', stored⟩
    obtain rfl := Option.some.inj (last.symm.trans last')
    exact stored
  · intro stored
    exact ⟨got, tags, last, stored⟩

theorem Plain.reads (p : Plain ops t) {id : String} {tags : List String}
    (last : lastStored ops id = some tags) :
    ∃ item, get id (run ops) = .ok item ∧ item.tags = tags := by
  obtain ⟨row, inside, -, column, got⟩ := (holds_run ops).row_of_stored last
  have nonblank : tags ≠ [""] := fun blank => p.nonblank id (blank ▸ last)
  refine ⟨_, got, ?_⟩
  have back := scanTags_joinTags_iff.mpr ⟨nonblank, p.commaFree id tags last⟩
  rw [← column] at back
  exact back

theorem Plain.lists (p : Plain ops t) (some_ : t ≠ "") :
    ∃ items, list sorter { tag := t } (run ops) = .ok items ∧ (items.map (·.id)).Nodup ∧
      ∀ item, item ∈ items ↔ get item.id (run ops) = .ok item ∧
        ∃ tags, lastStored ops item.id = some tags ∧ t ∈ tags := by
  have h := holds_run ops
  cases rows : run ops with
  | nil =>
      refine ⟨[], list_nil sorter _, List.nodup_nil, fun item => ?_⟩
      simp [get]
  | cons first rest =>
      have inside : first ∈ run ops := by simp [rows]
      obtain ⟨tags, last, -⟩ := h.stored_of_mem inside
      rw [← rows]
      refine ⟨_, list_tag sorter some_ (p.short ⟨_, tags, last⟩), ?_, fun item => ?_⟩
      · have ids : (Record.id ∘ scanItem) = Record.id := rfl
        rw [List.map_map, ids]
        have perm := (sorter.perm ((run ops).filter (found t))).map Record.id
        exact perm.nodup_iff.mpr (h.nodup.sublist (List.filter_sublist.map _))
      · constructor
        · intro listed
          obtain ⟨row, arranged, rfl⟩ := List.mem_map.mp listed
          obtain ⟨there, matched⟩ := List.mem_filter.mp ((sorter.perm _).mem_iff.mp arranged)
          obtain ⟨tags, last, column⟩ := h.stored_of_mem there
          have seen := (found_iff (p.commaFree _ tags last) column).mp matched
          exact ⟨h.get_of_mem there, tags, last, (p.seen _ tags last).mp seen⟩
        · rintro ⟨got, tags, last, stored⟩
          obtain ⟨row, there, -, column, got'⟩ := h.row_of_stored last
          obtain rfl := Except.ok.inj (got'.symm.trans got)
          have seen := (p.seen _ tags last).mpr stored
          have matched := (found_iff (p.commaFree _ tags last) column).mpr seen
          exact (h.mem_list_iff sorter there).mpr matched

/-- Tags survive and the filter is exact precisely for plain tags. -/
theorem filtered_exactly_iff (sorter : Sorting.Sorter byName) (ops : List Op) (t : String) (some_ : t ≠ "") :
    Exact sorter ops t ↔ Plain ops t := by
  constructor
  · intro e
    exact
      { short := fun ⟨_, _, last⟩ => e.short some_ last
        nonblank := fun _ last => (e.plain_tags last).1 rfl
        commaFree := fun _ _ last => (e.plain_tags last).2
        seen := fun _ _ last => e.seen some_ last }
  · intro p
    exact ⟨fun _ _ last => p.reads last, p.lists some_⟩

instance : DecidableRel byName := fun a b => inferInstanceAs (Decidable (a.name < b.name))

theorem byName_weak : Sorting.WeakOrder byName where
  asymm before after := String.lt_irrefl _ (String.lt_trans before after)
  trans first second := String.not_lt.mpr (String.le_trans (String.not_lt.mp first)
    (String.not_lt.mp second))

/-- A template with tags. -/
def ubuntu (tags : List String) : Item where
  id := ""
  name := "ubuntu-24.04"
  description := ""
  type := "vm-template"
  category := "Linux"
  version := "24.04"
  tags := tags
  cluster := "lab"
  node := "pve1"
  storage := "local"
  volume := "local:9000/base-9000-disk-0.qcow2"
  size := 0
  format := "qcow2"
  vmid := 9000
  osType := "l26"
  cores := 2
  memory := 2048
  createdAt := 0
  updatedAt := 0
  createdBy := ""

def retagged : List Op :=
  [.create "i1" 10 (ubuntu ["lts"]),
    .update "i1" 20
      { name := none, description := none, category := none, version := none
        tags := some ["linux", "lts"] },
    .delete "i2"]

theorem lastStored_retagged {id : String} {tags : List String}
    (last : lastStored retagged id = some tags) : tags = ["linux", "lts"] := by
  simp only [lastStored, retagged, Op.store, ubuntu, List.foldl_cons, List.foldl_nil,
    if_true, Option.isSome_none, Bool.false_eq_true, if_false, Function.update_self,
    Option.isSome_some, Function.update_apply] at last
  split at last
  · cases last
  · split at last
    · exact (Option.some.inj last).symm
    · cases last

theorem exact_retagged : Exact (Sorting.stable byName_weak) retagged "linux" := by
  refine (filtered_exactly_iff _ retagged "linux" (by decide)).mpr ⟨?_, ?_, ?_, ?_⟩
  · exact fun _ => by decide
  · exact fun _ last => absurd (lastStored_retagged last) (by decide)
  · intro id tags last
    obtain rfl := lastStored_retagged last
    decide
  · intro id tags last
    obtain rfl := lastStored_retagged last
    have stored : "linux" ∈ ["linux", "lts"] := by decide
    exact iff_of_true (seen_of_mem (by decide) (by decide) stored) stored

/-- A tag with a comma comes back as two. -/
theorem comma_split : ¬∀ (sorter : Sorting.Sorter byName) (ops : List Op) (t : String), t ≠ "" →
    Exact sorter ops t := by
  intro always
  have e := always (Sorting.stable byName_weak) [.create "i1" 10 (ubuntu ["a,b"])] "a" (by decide)
  have plain := @Exact.plain_tags _ _ _ e "i1" ["a,b"] rfl
  exact absurd (plain.2 "a,b" (by decide)) (by decide)

end Exactness

end Library
