import Mathlib.Data.List.DropRight
import PCenter.ConfigUpdates

/-!
# The data of an ACME plugin

The fields of a DNS provider go to PVE as one text, a line for each field (`CreateACMEPlugin` and
`UpdateACMEPlugin`), and come back through `parsePluginData`. The text is written without any
escape, and the lines are trimmed as they are read.
-/

namespace AcmePlugins

open FiniteMap GoJson GoText

section Trimming

variable {A : Type} {p : A → Bool}

/-- Nothing is dropped from the front of what starts like a list that keeps its front. -/
theorem dropWhile_of_prefix {l whole : List A} (start : l <+: whole)
    (fixed : whole.dropWhile p = whole) : l.dropWhile p = l := by
  cases l with
  | nil => rfl
  | cons a l =>
      obtain ⟨rest, rfl⟩ := start
      have stays : p a = false := by
        by_contra drops
        rw [List.cons_append, List.dropWhile_cons, if_pos (by simpa using drops)] at fixed
        have shorter := List.length_dropWhile_le p (l ++ rest)
        rw [fixed, List.length_cons] at shorter
        omega
      rw [List.dropWhile_cons, stays, if_neg Bool.false_ne_true]

theorem trimSpace_eq (s : String) :
    trimSpace s = String.ofList ((s.toList.dropWhile isSpace).rdropWhile isSpace) := rfl

theorem trimSpace_trimSpace (s : String) : trimSpace (trimSpace s) = trimSpace s := by
  have front : ((s.toList.dropWhile isSpace).rdropWhile isSpace).dropWhile isSpace =
      (s.toList.dropWhile isSpace).rdropWhile isSpace :=
    dropWhile_of_prefix (List.rdropWhile_prefix _ _) (List.dropWhile_idempotent _ _)
  rw [trimSpace_eq (trimSpace s), trimSpace_eq s, String.toList_ofList, front,
    List.rdropWhile_idempotent]

theorem mem_trimSpace {s : String} {c : Char} (inside : c ∈ (trimSpace s).toList) :
    c ∈ s.toList := by
  rw [trimSpace_eq, String.toList_ofList] at inside
  exact (List.dropWhile_sublist _).subset ((List.rdropWhile_prefix _ _).subset inside)

theorem contains_trimSpace {s : String} {c : Char} (free : contains c s = false) :
    contains c (trimSpace s) = false := by
  simp only [contains, List.contains_eq_mem, decide_eq_false_iff_not] at free ⊢
  exact fun inside => free (mem_trimSpace inside)

end Trimming

section Model

def line (key value : String) : String := key ++ ("=" ++ value)

/-- The lines, in the order in which the map is met. -/
def dataText (order : Order (Sigma fun _ : String => String)) (data : Map String String) :
    String :=
  "\n".intercalate ((order.arrange data.entries).map fun e => line e.1 e.2)

/-- The parameter `data` of `CreateACMEPlugin` and `UpdateACMEPlugin`. -/
def dataParam (order : Order (Sigma fun _ : String => String)) (data : Map String String) :
    Option String :=
  if data.entries = [] then none else some (dataText order data)

/-- A round of the loop of `parseDataLines`. -/
def parseLine (line : String) : Option (String × String) :=
  let line := trimSpace line
  if line = "" then none
  else
    match cut '=' line with
    | (key, some value) => if key = "" then none else some (key, value)
    | (_, none) => none

def parseDataLines (s : String) : Map String String :=
  written ((split '\n' s).filterMap parseLine)

def parsePluginData : Option Json → Map String String
  | some (.str s) => parseDataLines s
  | some (.obj fields) => written (fields.map fun f => (f.1, ConfigUpdates.sprint f.2))
  | _ => ∅

end Model

section Lines

/-- The line of a field is read as that field. -/
structure Plain (key value : String) : Prop where
  filled : key ≠ ""
  bare : contains '=' key = false
  single : contains '\n' (line key value) = false
  trimmed : trimSpace (line key value) = line key value

theorem cutChars_eq_some {sep : Char} {cs head rest : List Char}
    (parts : cutChars sep cs = (head, some rest)) : cs = head ++ sep :: rest ∧ sep ∉ head := by
  induction cs generalizing head with
  | nil => cases parts
  | cons c cs ih =>
      rw [cutChars] at parts
      split_ifs at parts with here
      · cases parts
        exact ⟨by rw [here]; rfl, List.not_mem_nil⟩
      · obtain ⟨rfl, later⟩ := Prod.mk.inj parts
        obtain ⟨whole, free⟩ := ih (Prod.ext rfl later)
        refine ⟨by rw [List.cons_append, ← whole], ?_⟩
        exact List.not_mem_cons_of_ne_of_not_mem (Ne.symm here) free

theorem line_of_cut {s key value : String} (parts : cut '=' s = (key, some value)) :
    s = line key value ∧ contains '=' key = false := by
  obtain ⟨head, tail⟩ := Prod.mk.inj parts
  obtain ⟨rest, found, rfl⟩ := Option.map_eq_some_iff.mp tail
  obtain ⟨whole, free⟩ := cutChars_eq_some (Prod.ext rfl found)
  constructor
  · apply String.toList_injective
    rw [whole, ← head]
    simp [line]
  · rw [← head]
    simpa [contains] using free

theorem parseLine_of_plain {key value : String} (plain : Plain key value) :
    parseLine (line key value) = some (key, value) := by
  have parts : cut '=' (line key value) = (key, some value) := cut_append plain.bare value
  have filled : line key value ≠ "" := by
    intro empty
    have chars := congrArg String.toList empty
    simp [line] at chars
  rw [parseLine]
  simp only [plain.trimmed, if_neg filled, parts, if_neg plain.filled]

/-- What a line is read as would be written so. -/
theorem plain_of_parseLine {text key value : String} (free : contains '\n' text = false)
    (read : parseLine text = some (key, value)) : Plain key value := by
  rw [parseLine] at read
  split_ifs at read with empty
  cases parts : cut '=' (trimSpace text) with
  | mk head tail =>
      rw [parts] at read
      cases tail with
      | none => cases read
      | some rest =>
          dsimp only at read
          split_ifs at read with named
          obtain ⟨rfl, rfl⟩ := Prod.mk.inj (Option.some.inj read)
          obtain ⟨whole, bare⟩ := line_of_cut parts
          refine ⟨named, bare, ?_, ?_⟩
          · rw [← whole]
            exact contains_trimSpace free
          · rw [← whole]
            exact trimSpace_trimSpace text

theorem plain_of_lookup {s key value : String}
    (found : (parseDataLines s).lookup key = some value) : Plain key value := by
  obtain ⟨text, listed, read⟩ := List.mem_filterMap.mp (mem_of_lookup_written found)
  refine plain_of_parseLine ?_ read
  obtain ⟨cell, inside, rfl⟩ := List.mem_map.mp listed
  simpa [contains] using not_mem_of_mem_splitOn inside

end Lines

section RoundTrip

variable (order : Order (Sigma fun _ : String => String)) (data : Map String String)

/-- The map is read back from the pairs of its entries, in whatever order they come. -/
theorem lookup_written_arrange (key : String) :
    (written ((order.arrange data.entries).map fun e => (e.1, e.2))).lookup key =
      data.lookup key := by
  have copied := lookup_copy order data (∅ : Map String String) (fun value => value) key
  rw [AList.lookup_empty, Option.or_none, Option.map_id'] at copied
  rw [written, List.foldl_map]
  exact copied

theorem lookup_dataText (filled : data.entries ≠ [])
    (plain : ∀ key value, data.lookup key = some value → Plain key value) (key : String) :
    (parseDataLines (dataText order data)).lookup key = data.lookup key := by
  have each : ∀ e ∈ order.arrange data.entries, Plain e.1 e.2 := fun e member =>
    plain e.1 e.2 (AList.mem_lookup_iff.mpr ((order.perm _).mem_iff.mp member))
  have lines : split '\n' (dataText order data) =
      (order.arrange data.entries).map fun e => line e.1 e.2 := by
    refine split_join ?_ ?_
    · intro none_left
      have arranged := order.perm data.entries
      rw [List.map_eq_nil_iff.mp none_left] at arranged
      exact filled (List.nil_perm.mp arranged)
    · intro part member
      obtain ⟨e, listed, rfl⟩ := List.mem_map.mp member
      exact (each e listed).single
  have read : ((order.arrange data.entries).map fun e => line e.1 e.2).filterMap parseLine =
      (order.arrange data.entries).map fun e => (e.1, e.2) := by
    rw [List.filterMap_map, ← List.filterMap_eq_map]
    refine List.filterMap_congr fun e listed => ?_
    simp only [Function.comp_apply, parseLine_of_plain (each e listed)]
  rw [parseDataLines, lines, read]
  exact lookup_written_arrange order data key

/-- The fields that are read from the text are those that it was written from, in whatever order
they were written, iff the line of each is read as that field. -/
theorem readBack_iff :
    (∀ key, (parsePluginData ((dataParam order data).map .str)).lookup key = data.lookup key) ↔
      ∀ key value, data.lookup key = some value → Plain key value := by
  by_cases empty : data.entries = []
  · have absent (key : String) : data.lookup key = none := by
      rw [AList.lookup, empty]
      rfl
    have sent : dataParam order data = none := if_pos empty
    simp only [sent, absent]
    constructor
    · intro _ key value found
      cases found
    · intro _ key
      rfl
  · have sent : dataParam order data = some (dataText order data) := if_neg empty
    rw [sent]
    constructor
    · intro read key value found
      rw [← read key] at found
      exact plain_of_lookup found
    · intro plain key
      exact lookup_dataText order data empty plain key

end RoundTrip

end AcmePlugins
