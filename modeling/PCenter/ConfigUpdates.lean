import PCenter.Executor
import PCenter.Handlers
import PCenter.Lib.FloatText
import PCenter.Lib.NestedLoop
import Mathlib.Data.List.Sort

/-!
# Updates of a guest's configuration

`UpdateVMConfig` and `UpdateContainerConfig` of the backend's client send one form: the digest of
the request, the changes as `fmt.Sprintf("%v", value)` prints them, and the list of the options
that are deleted. The changes share the form with the digest and that list, and their numbers are
floats.

A negative zero is not told from zero.
-/

namespace ConfigUpdates

open FiniteMap Form GoJson GuestTasks
open Handlers (ConfigUpdateRequest)

section Printing

mutual

/-- `fmt.Sprintf("%v", value)` of a value that `encoding/json` decoded. -/
def sprint : Json → String
  | .null => "<nil>"
  | .bool b => if b then "true" else "false"
  | .int n => FloatText.fmtG (Float64.ofInt n)
  | .float q => FloatText.fmtG (Float64.ofRat q)
  | .str s => s
  | .arr items => "[" ++ " ".intercalate (sprintItems items) ++ "]"
  | .obj fields =>
      -- the last value of a key that is repeated, and the keys in their order
      let sorted := (written (sprintFields fields)).entries.insertionSort (fun e f => e.1 ≤ f.1)
      "map[" ++ " ".intercalate (sorted.map fun e => e.1 ++ ":" ++ e.2) ++ "]"

def sprintItems : List Json → List String
  | [] => []
  | item :: rest => sprint item :: sprintItems rest

def sprintFields : List (String × Json) → List (String × String)
  | [] => []
  | (key, value) :: rest => (key, sprint value) :: sprintFields rest

end

theorem sprint_number {value : Json} {f : Rat} (number : Executor.number value = some f) :
    sprint value = FloatText.fmtG f := by
  cases value with
  | int n =>
      obtain rfl := Option.some.inj number
      rw [sprint]
  | float q =>
      obtain rfl := Option.some.inj number
      rw [sprint]
  | null => cases number
  | bool b => cases number
  | str s => cases number
  | arr items => cases number
  | obj fields => cases number

end Printing

section Client

variable (order : Order (Sigma fun _ : String => Json)) (req : ConfigUpdateRequest)

/-- The changes as a map: a key that is repeated has its last value. -/
def changesOf : Map String Json := written req.changes

/-- `strings.Join(req.Delete, ",")` -/
def deleteText : String := ",".intercalate req.delete

/-- The form of an update, where the changes are visited in some order. -/
def configForm : Map String String :=
  let data : Map String String := (∅ : Map String String).insert "digest" req.digest
  let data := (order.arrange (changesOf req).entries).foldl
    (fun data e => data.insert e.1 (sprint e.2)) data
  if req.delete ≠ [] then data.insert "delete" (deleteText req) else data

/-- `UpdateVMConfig` and `UpdateContainerConfig` -/
def updateGuestConfig (nodeName : String) (gt : GuestType) (vmid : Int64) : ApiCall :=
  ⟨.put, guestPath nodeName gt vmid "/config",
    encodeForm ((configForm order req).entries.map fun e => param e.1 e.2)⟩

theorem lookup_configForm (key : String) :
    (configForm order req).lookup key =
      if req.delete ≠ [] ∧ key = "delete" then some (deleteText req)
      else (((changesOf req).lookup key).map sprint).or
        (if key = "digest" then some req.digest else none) := by
  have copied (key : String) := lookup_copy order (changesOf req)
    ((∅ : Map String String).insert "digest" req.digest) sprint key
  simp only [lookup_insert_eq, AList.lookup_empty] at copied
  by_cases deletes : req.delete ≠ []
  · rw [configForm, if_pos deletes, lookup_insert_eq]
    by_cases own : key = "delete"
    · rw [if_pos own, if_pos ⟨deletes, own⟩]
    · rw [if_neg own, if_neg fun both => own both.2, copied]
  · rw [configForm, if_neg deletes, if_neg fun both => deletes both.1, copied]

end Client

section Fields

/-- The values that the server reads under a key. -/
def fieldsOf (call : ApiCall) (key : String) : List Bytes :=
  ((decodeForm call.body).filter (fun p => p.1 = utf8 key)).map (·.2)

theorem values_entries {l : List (Sigma fun _ : String => String)} (distinct : l.NodupKeys)
    (key : String) :
    ((l.map fun e => param e.1 e.2).filter (fun p => p.1 = utf8 key)).map (·.2) =
      (l.dlookup key).toList.map utf8 := by
  induction l with
  | nil => rfl
  | cons e l ih =>
      obtain ⟨fresh, later⟩ := List.nodupKeys_cons.mp distinct
      by_cases here : key = e.1
      · subst here
        have absent : l.dlookup e.1 = none := List.dlookup_eq_none.mpr fresh
        have others := ih later
        rw [absent] at others
        rw [List.map_cons, List.filter_cons_of_pos (by simp [param]), List.map_cons, others,
          List.dlookup_cons_eq]
        rfl
      · have apart : utf8 e.1 ≠ utf8 key := fun same => here (utf8_injective same).symm
        rw [List.map_cons, List.filter_cons_of_neg (by simp [param, apart]), ih later,
          List.dlookup_cons_ne _ _ here]

theorem fieldsOf_updateGuestConfig (order : Order (Sigma fun _ : String => Json))
    (req : ConfigUpdateRequest) (nodeName : String) (gt : GuestType) (vmid : Int64)
    (key : String) :
    fieldsOf (updateGuestConfig order req nodeName gt vmid) key =
      ((configForm order req).lookup key).toList.map utf8 := by
  have read := decodeForm_encodeForm_perm
    ((configForm order req).entries.map fun e => param e.1 e.2)
  have values := (read.filter (fun p => p.1 = utf8 key)).map (·.2)
  rw [values_entries (configForm order req).nodupKeys key] at values
  have held : (configForm order req).lookup key = (configForm order req).entries.dlookup key := rfl
  rw [fieldsOf, held]
  cases found : (configForm order req).entries.dlookup key with
  | none =>
      rw [found] at values
      exact List.perm_nil.mp values
  | some text =>
      rw [found] at values
      exact List.perm_singleton.mp values

end Fields

section Faithful

/-- The text stands for the value: a string for itself, a whole number for its digits. -/
def Given (value : Json) (text : String) : Prop :=
  (∀ s, value = .str s → text = s) ∧
    ∀ z : Int, Executor.number value = some (z : Rat) → text = toString z

/-- The server reads the digest, the changes and the list that the request gives. -/
structure Faithful (req : ConfigUpdateRequest) (call : ApiCall) : Prop where
  digest : fieldsOf call "digest" = [utf8 req.digest]
  changes : ∀ key value, key ≠ "digest" → (changesOf req).lookup key = some value →
    ∃ text, Given value text ∧ fieldsOf call key = [utf8 text]
  delete : fieldsOf call "delete" = if req.delete = [] then [] else [utf8 (deleteText req)]

/-- The changes leave the digest and the list alone, or repeat them, and no whole number among
them has more than six digits. -/
structure Plain (req : ConfigUpdateRequest) : Prop where
  digest : ∀ value, (changesOf req).lookup "digest" = some value → sprint value = req.digest
  delete : ∀ value, (changesOf req).lookup "delete" = some value →
    req.delete ≠ [] ∧ Given value (deleteText req)
  small : ∀ key value, key ≠ "digest" → key ≠ "delete" →
    (changesOf req).lookup key = some value →
      ∀ z : Int, Executor.number value = some (z : Rat) → z.natAbs < 10 ^ 6

theorem given_sprint_iff {value : Json} :
    Given value (sprint value) ↔
      ∀ z : Int, Executor.number value = some (z : Rat) → z.natAbs < 10 ^ 6 := by
  constructor
  · intro given z number
    have digits := given.2 z number
    rw [sprint_number number] at digits
    exact (FloatText.fmtG_intCast_iff z).mp digits
  · intro small
    refine ⟨?_, ?_⟩
    · rintro s rfl
      rw [sprint]
    · intro z number
      rw [sprint_number number]
      exact (FloatText.fmtG_intCast_iff z).mpr (small z number)

theorem singleton_utf8_inj {s t : String} : [utf8 s] = [utf8 t] ↔ s = t := by
  constructor
  · intro same
    apply utf8_injective
    simpa using same
  · rintro rfl
    rfl

variable (order : Order (Sigma fun _ : String => Json)) (req : ConfigUpdateRequest)
  (nodeName : String) (gt : GuestType) (vmid : Int64)

theorem digest_iff :
    fieldsOf (updateGuestConfig order req nodeName gt vmid) "digest" = [utf8 req.digest] ↔
      ∀ value, (changesOf req).lookup "digest" = some value → sprint value = req.digest := by
  rw [fieldsOf_updateGuestConfig, lookup_configForm, if_neg (by simp), if_pos rfl]
  cases changed : (changesOf req).lookup "digest" with
  | none => simp
  | some value =>
      have one : ((some value).map sprint).or (some req.digest) = some (sprint value) := rfl
      rw [one, Option.toList_some, List.map_singleton, singleton_utf8_inj]
      constructor
      · rintro same other found
        rwa [← Option.some.inj found]
      · intro same
        exact same value rfl

theorem fieldsOf_delete_iff :
    fieldsOf (updateGuestConfig order req nodeName gt vmid) "delete" =
        (if req.delete = [] then [] else [utf8 (deleteText req)]) ↔
      ∀ value, (changesOf req).lookup "delete" = some value → req.delete ≠ [] := by
  rw [fieldsOf_updateGuestConfig, lookup_configForm]
  by_cases deletes : req.delete = []
  · cases changed : (changesOf req).lookup "delete" with
    | none => simp [deletes]
    | some value => simp [deletes]
  · simp [deletes]

/-- A change of another option has a field of its own. -/
theorem change_iff {key : String} {value : Json} (notDelete : key ≠ "delete")
    (changed : (changesOf req).lookup key = some value) :
    (∃ text, Given value text ∧
        fieldsOf (updateGuestConfig order req nodeName gt vmid) key = [utf8 text]) ↔
      ∀ z : Int, Executor.number value = some (z : Rat) → z.natAbs < 10 ^ 6 := by
  have read : fieldsOf (updateGuestConfig order req nodeName gt vmid) key =
      [utf8 (sprint value)] := by
    rw [fieldsOf_updateGuestConfig, lookup_configForm, if_neg (fun own => notDelete own.2),
      changed]
    rfl
  rw [← given_sprint_iff, read]
  constructor
  · rintro ⟨text, given, same⟩
    rwa [singleton_utf8_inj.mp same]
  · intro given
    exact ⟨sprint value, given, rfl⟩

/-- An update is sent as it was asked for exactly when its changes are plain. -/
theorem faithful_iff :
    Faithful req (updateGuestConfig order req nodeName gt vmid) ↔ Plain req := by
  have list (deletes : req.delete ≠ []) :
      fieldsOf (updateGuestConfig order req nodeName gt vmid) "delete" =
        [utf8 (deleteText req)] := by
    rw [(fieldsOf_delete_iff order req nodeName gt vmid).mpr fun _ _ => deletes,
      if_neg deletes]
  constructor
  · intro faithful
    have kept := (fieldsOf_delete_iff order req nodeName gt vmid).mp faithful.delete
    refine ⟨(digest_iff order req nodeName gt vmid).mp faithful.digest, ?_, ?_⟩
    · intro value changed
      have deletes := kept value changed
      obtain ⟨text, given, read⟩ := faithful.changes "delete" value (by decide) changed
      rw [list deletes] at read
      exact ⟨deletes, singleton_utf8_inj.mp read ▸ given⟩
    · intro key value notDigest notDelete changed
      exact (change_iff order req nodeName gt vmid notDelete changed).mp
        (faithful.changes key value notDigest changed)
  · intro plain
    refine ⟨(digest_iff order req nodeName gt vmid).mpr plain.digest, ?_,
      (fieldsOf_delete_iff order req nodeName gt vmid).mpr fun value changed =>
        (plain.delete value changed).1⟩
    intro key value notDigest changed
    by_cases own : key = "delete"
    · subst own
      obtain ⟨deletes, given⟩ := plain.delete value changed
      exact ⟨deleteText req, given, list deletes⟩
    · exact (change_iff order req nodeName gt vmid own changed).mpr
        (plain.small key value notDigest own changed)

/-- The digest of the changes is sent in place of the one that was read with the config. -/
theorem digest_replaced :
    ¬ Faithful ⟨"read", [("digest", .str "chosen")], []⟩
      (updateGuestConfig .asGiven ⟨"read", [("digest", .str "chosen")], []⟩ "pve1" .vm 100) := by
  intro faithful
  have same := (digest_iff .asGiven _ "pve1" .vm 100).mp faithful.digest (.str "chosen") rfl
  rw [sprint] at same
  exact absurd same (by decide)

end Faithful

end ConfigUpdates
