import PCenter.Lib.Gather
import PCenter.Lib.Json
import PCenter.Lib.Text

/-!
# The ACME domains of a node

`SetNodeACMEDomains` and `parseACMEDomains` of `internal/pve/client.go`. Domains of one plugin
share the field `acme`, others have a slot each. The slots are all cleared beside the field, but
not beside other slots, so the domains behind a longer list of before are read back with a
shorter one: `roundTrips_iff`.
-/

namespace AcmeDomains

open GoText GoJson FiniteMap

section Model

structure NodeACMEDomain where
  domain : String
  plugin : String
  deriving DecidableEq, Repr

/-- The configuration of a node, as PVE shows it. -/
abbrev Config := String → Option Json

/-- What is sent: the values of the form. -/
abbrev Params := List (String × String)

def acmeField (slot : ℕ) : String := "acmedomain" ++ toString slot

def pluginGroups (domains : List NodeACMEDomain) : Map String (List String) :=
  gather (fun d => some (d.plugin, [])) (fun names d => names ++ [d.domain]) domains

/-- The value of the field `acme`. -/
def shared (plugin : String) (doms : List String) : String :=
  let val := "domains=" ++ ",".intercalate doms
  if plugin ≠ "" then val ++ (";" ++ ("plugin=" ++ plugin)) else val

/-- The value of a slot. -/
def single (d : NodeACMEDomain) : String :=
  if d.plugin ≠ "" then d.domain ++ ("," ++ ("plugin=" ++ d.plugin)) else d.domain

def tooMany : String := "more than 5 domains with different plugins is not supported"

def slotParams (slot : ℕ) : List NodeACMEDomain → Params → Except String Params
  | [], params => .ok params
  | d :: rest, params =>
      if slot > 4 then .error tooMany
      else slotParams (slot + 1) rest (params ++ [(acmeField slot, single d)])

def slotFields : String := "acmedomain0,acmedomain1,acmedomain2,acmedomain3,acmedomain4"

def allFields : String := "acme,acmedomain0,acmedomain1,acmedomain2,acmedomain3,acmedomain4"

/-- With one group the loop over the groups has one round. -/
def setParams (domains : List NodeACMEDomain) : Except String Params :=
  if domains.length = 0 then .ok [("delete", allFields)]
  else
    match (pluginGroups domains).entries with
    | [⟨plugin, doms⟩] => .ok [("delete", slotFields), ("acme", shared plugin doms)]
    | _ => slotParams 0 domains [("delete", "acme")]

/-- PVE sets the given keys, and removes those that `delete` lists. -/
def put (params : Params) (config : Config) : Config := fun key =>
  match params.lookup key with
  | some value => some (.str value)
  | none => if key ∈ split ',' ((params.lookup "delete").getD "") then none else config key

structure Outcome where
  result : Except String Unit
  sent : List Params
  config : Config

/-- `answer` is what becomes of a request. -/
def setNodeACMEDomains (answer : Except String Unit) (domains : List NodeACMEDomain)
    (config : Config) : Outcome :=
  match setParams domains with
  | .error err => ⟨.error err, [], config⟩
  | .ok params =>
      match answer with
      | .error err => ⟨.error err, [params], config⟩
      | .ok () => ⟨.ok (), [params], put params config⟩

/-- `raw[key].(string)`; anything else reads like an empty text. -/
def text (raw : Config) (key : String) : String :=
  match raw key with
  | some (.str s) => s
  | _ => ""

def fieldPart (read : List String × String) (part : String) : List String × String :=
  if hasPrefix "domains=" part then (split ',' (dropPrefix "domains=" part), read.2)
  else if hasPrefix "plugin=" part then (read.1, dropPrefix "plugin=" part)
  else read

def parseACMEField (s : String) : List String × String := (split ';' s).foldl fieldPart ([], "")

def slotPart (entry : NodeACMEDomain) (kv : String) : NodeACMEDomain :=
  if hasPrefix "plugin=" kv then { entry with plugin := dropPrefix "plugin=" kv } else entry

/-- One slot; there is always a first part. -/
def parseSlot (s : String) : List NodeACMEDomain :=
  if s = "" then []
  else
    match split ',' s with
    | [] => []
    | first :: rest => [rest.foldl slotPart ⟨first, ""⟩]

def parseACMEDomains (raw : Config) : List NodeACMEDomain :=
  (if text raw "acme" ≠ "" then
    (parseACMEField (text raw "acme")).1.map fun d =>
      ⟨d, (parseACMEField (text raw "acme")).2⟩
   else []) ++
  (List.range 5).flatMap fun i => parseSlot (text raw (acmeField i))

end Model

section Property

/-- What is set is read back, and nothing is sent where an error is returned. -/
structure RoundTrips (answer : Except String Unit) (domains : List NodeACMEDomain)
    (config : Config) : Prop where
  reads : (setNodeACMEDomains answer domains config).result = .ok () →
    (parseACMEDomains (setNodeACMEDomains answer domains config).config).Perm domains
  silent : ∀ err, (setNodeACMEDomains answer domains config).result = .error err →
    (setNodeACMEDomains answer domains config).sent = []

def Clean (s : String) : Prop :=
  contains ',' s = false ∧ contains ';' s = false ∧ contains '=' s = false

def Named (d : NodeACMEDomain) : Prop := d.domain ≠ "" ∧ Clean d.domain ∧ Clean d.plugin

def OnePlugin (domains : List NodeACMEDomain) : Prop := ∃ p, ∀ d ∈ domains, d.plugin = p

/-- The slots behind those that are written are empty. -/
def NoneBehind (domains : List NodeACMEDomain) (config : Config) : Prop :=
  ∀ slot, domains.length ≤ slot → slot < 5 → text config (acmeField slot) = ""

end Property

section Texts

variable {plugin : String} {doms : List String}

theorem parseACMEField_shared (some_ : doms ≠ []) (clean : ∀ name ∈ doms, Clean name)
    (cleanPlugin : Clean plugin) : parseACMEField (shared plugin doms) = (doms, plugin) := by
  have joined : split ',' (",".intercalate doms) = doms :=
    split_join some_ fun name listed => (clean name listed).1
  have noSemicolon : contains ';' ("domains=" ++ ",".intercalate doms) = false := by
    have label : contains ';' "domains=" = false := by decide
    have joint : contains ';' (",".intercalate doms) = false :=
      @contains_join ';' ',' doms (by decide) fun name listed => (clean name listed).2.1
    rw [contains_append, label, joint, Bool.or_false]
  have first : fieldPart ([], "") ("domains=" ++ ",".intercalate doms) = (doms, "") := by
    rw [fieldPart, if_pos (hasPrefix_append _ _), dropPrefix_append, joined]
  by_cases empty : plugin = ""
  · subst empty
    rw [parseACMEField, shared, if_neg (by simp), split_of_not_contains noSemicolon]
    exact first
  · have noSemicolon' : contains ';' ("plugin=" ++ plugin) = false := by
      have label : contains ';' "plugin=" = false := by decide
      rw [contains_append, label, cleanPlugin.2.1, Bool.or_false]
    have parts := split_append ';' ("domains=" ++ ",".intercalate doms) ("plugin=" ++ plugin)
    rw [split_of_not_contains noSemicolon, split_of_not_contains noSemicolon',
      String.append_assoc] at parts
    have other : hasPrefix "domains=" ("plugin=" ++ plugin) = false := by
      rw [hasPrefix, String.toList_append]
      rfl
    have semicolon : String.singleton ';' = ";" := rfl
    rw [semicolon] at parts
    rw [parseACMEField, shared, if_pos empty, parts, List.singleton_append, List.foldl_cons, first,
      List.foldl_cons, List.foldl_nil, fieldPart, if_neg (by simp [other]),
      if_pos (hasPrefix_append _ _), dropPrefix_append]

theorem parseSlot_single {d : NodeACMEDomain} (named : Named d) : parseSlot (single d) = [d] := by
  obtain ⟨domain, plugin⟩ := d
  obtain ⟨some_, clean, cleanPlugin⟩ := named
  by_cases empty : plugin = ""
  · subst empty
    rw [single, if_neg (by simp), parseSlot, if_neg some_, split_of_not_contains clean.1]
    rfl
  · have noComma : contains ',' ("plugin=" ++ plugin) = false := by
      have label : contains ',' "plugin=" = false := by decide
      rw [contains_append, label, cleanPlugin.1, Bool.or_false]
    have parts := split_append ',' domain ("plugin=" ++ plugin)
    have comma : String.singleton ',' = "," := rfl
    rw [split_of_not_contains clean.1, split_of_not_contains noComma, String.append_assoc,
      comma] at parts
    have nonempty : domain ++ ("," ++ ("plugin=" ++ plugin)) ≠ "" := by
      simp
    rw [single, if_pos empty, parseSlot, if_neg nonempty, parts]
    have read : slotPart ⟨domain, ""⟩ ("plugin=" ++ plugin) = ⟨domain, plugin⟩ := by
      rw [slotPart, if_pos (hasPrefix_append _ _), dropPrefix_append]
    exact congrArg ([·]) read

theorem length_parseSlot (s : String) : (parseSlot s).length = if s = "" then 0 else 1 := by
  rw [parseSlot]
  split_ifs with empty
  · rfl
  · cases parts : split ',' s with
    | nil => exact absurd parts (ne_nil_split ',' s)
    | cons first rest => rfl

end Texts

section Layouts

variable {domains : List NodeACMEDomain} {p : String} {config : Config}

theorem pluginGroups_eq (some_ : domains ≠ []) (same : ∀ d ∈ domains, d.plugin = p) :
    (pluginGroups domains).entries = [⟨p, domains.map (·.domain)⟩] := by
  have keys := @keys_gather _ _ _ _ (fun d : NodeACMEDomain => some (d.plugin, ([] : List String)))
    (fun names d => names ++ [d.domain]) domains
  have plugins : domains.map (·.plugin) = List.replicate domains.length p :=
    List.eq_replicate_iff.mpr ⟨List.length_map _, by simpa using same⟩
  have length : domains.length ≠ 0 := by simpa using some_
  have labels : keysOf (fun d : NodeACMEDomain => some (d.plugin, ([] : List String))) domains =
      [p] := by
    have filtered : domains.filterMap (fun d => (some (d.plugin, ([] : List String))).map (·.1)) =
        domains.map (·.plugin) := by
      rw [← List.filterMap_eq_map]
      rfl
    rw [keysOf, filtered, plugins, List.replicate_dedup length]
  rw [labels] at keys
  have everything : under (fun d : NodeACMEDomain => some (d.plugin, ([] : List String)))
      domains p = domains := by
    refine List.filter_eq_self.mpr fun d inside => ?_
    simp [same d inside]
  have value : (pluginGroups domains).lookup p = some (domains.map (·.domain)) := by
    rw [pluginGroups, lookup_gather, gathered, everything]
    obtain ⟨d, rest, rfl⟩ := List.exists_cons_of_ne_nil some_
    have names : ∀ (rows : List NodeACMEDomain) (start : List String),
        rows.foldl (fun names d => names ++ [d.domain]) start = start ++ rows.map (·.domain) := by
      intro rows
      induction rows with
      | nil => simp
      | cons row rows ih =>
          intro start
          rw [List.foldl_cons, ih]
          simp
    simpa using names (d :: rest) []
  obtain ⟨entry, entries⟩ := List.length_eq_one_iff.mp (by
    have size := keys.length_eq
    rwa [AList.keys, List.keys, List.length_map] at size)
  have member : (⟨p, domains.map (·.domain)⟩ : Sigma fun _ : String => List String) ∈
      (pluginGroups domains).entries := AList.mem_lookup_iff.mp value
  have listed : (pluginGroups domains).entries = [entry] := entries
  rw [listed] at member ⊢
  rw [List.mem_singleton.mp member]

theorem onePlugin_of_groups {entry : Sigma fun _ : String => List String}
    (single : (pluginGroups domains).entries = [entry]) : OnePlugin domains := by
  refine ⟨entry.1, fun d inside => ?_⟩
  have keys := @keys_gather _ _ _ _ (fun d : NodeACMEDomain => some (d.plugin, ([] : List String)))
    (fun names d => names ++ [d.domain]) domains
  have listed : d.plugin ∈ (pluginGroups domains).keys :=
    keys.mem_iff.mpr (mem_keysOf.mpr ⟨d, inside, rfl⟩)
  rw [AList.keys, single] at listed
  exact List.mem_singleton.mp listed

def slots (slot : ℕ) : List NodeACMEDomain → Params
  | [] => []
  | d :: rest => (acmeField slot, single d) :: slots (slot + 1) rest

theorem slotParams_eq (slot : ℕ) (params : Params) (room : slot ≤ 5) :
    slotParams slot domains params =
      if slot + domains.length ≤ 5 then .ok (params ++ slots slot domains)
      else .error tooMany := by
  induction domains generalizing slot params with
  | nil => simp [slotParams, slots, room]
  | cons d rest ih =>
      rw [slotParams]
      by_cases full : slot > 4
      · rw [if_pos full, if_neg (by simp; omega)]
      · have length : slot + (d :: rest).length = slot + 1 + rest.length := by
          simp only [List.length_cons]
          omega
        rw [if_neg full, ih (slot + 1) _ (by omega), length, slots, List.append_assoc]
        rfl

theorem setParams_of_onePlugin (some_ : domains ≠ []) (same : ∀ d ∈ domains, d.plugin = p) :
    setParams domains =
      .ok [("delete", slotFields), ("acme", shared p (domains.map (·.domain)))] := by
  rw [setParams, if_neg (by simpa using some_), pluginGroups_eq some_ same]

theorem setParams_of_not_onePlugin (several : ¬OnePlugin domains) :
    setParams domains =
      if domains.length ≤ 5 then .ok (("delete", "acme") :: slots 0 domains)
      else .error tooMany := by
  have some_ : domains ≠ [] := by
    rintro rfl
    exact several ⟨"", by simp⟩
  rw [setParams, if_neg (by simpa using some_)]
  split
  · rename_i plugin doms single
    exact absurd (onePlugin_of_groups single) several
  · rw [slotParams_eq 0 _ (by omega), Nat.zero_add]
    rfl

theorem acmeField_inj : ∀ i < 5, ∀ j < 5, acmeField i = acmeField j → i = j := by decide

theorem acmeField_ne : ∀ i < 5, acmeField i ≠ "acme" ∧ acmeField i ≠ "delete" := by decide

theorem acmeField_mem : ∀ i < 5,
    acmeField i ∈ split ',' slotFields ∧ acmeField i ∈ split ',' allFields ∧
      acmeField i ∉ split ',' "acme" := by decide

theorem lookup_slots (slot j : ℕ) (before : slot ≤ j) (inside : j < 5)
    (fits : slot + domains.length ≤ 5) :
    (slots slot domains).lookup (acmeField j) = (domains[j - slot]?).map single := by
  induction domains generalizing slot with
  | nil => rfl
  | cons d rest ih =>
      rw [List.length_cons] at fits
      rw [slots, List.lookup_cons]
      by_cases here : j = slot
      · subst here
        simp
      · have other : (acmeField j == acmeField slot) = false := by
          simpa using fun same => here (acmeField_inj j inside slot (by omega) same)
        have place : j - slot = (j - (slot + 1)) + 1 := by omega
        rw [other, place, List.getElem?_cons_succ]
        exact ih (slot + 1) (by omega) (by omega)

theorem lookup_slots_acme (slot : ℕ) (fits : slot + domains.length ≤ 5) :
    (slots slot domains).lookup "acme" = none := by
  induction domains generalizing slot with
  | nil => rfl
  | cons d rest ih =>
      rw [List.length_cons] at fits
      have other : ("acme" == acmeField slot) = false := by
        simpa using (acmeField_ne slot (by omega)).1.symm
      rw [slots, List.lookup_cons, other]
      exact ih (slot + 1) (by omega)

end Layouts

section Reading

variable {domains : List NodeACMEDomain} {p : String} {config : Config}
variable {answer : Except String Unit}

theorem text_of_none {raw : Config} {key : String} (absent : raw key = none) :
    text raw key = "" := by
  rw [text, absent]

theorem text_of_str {raw : Config} {key s : String} (held : raw key = some (.str s)) :
    text raw key = s := by
  rw [text, held]

theorem parseACMEDomains_of_slots {raw : Config}
    (empty : ∀ i < 5, text raw (acmeField i) = "") :
    parseACMEDomains raw =
      if text raw "acme" ≠ "" then
        (parseACMEField (text raw "acme")).1.map fun d =>
          ⟨d, (parseACMEField (text raw "acme")).2⟩
      else [] := by
  have nothing : ((List.range 5).flatMap fun i => parseSlot (text raw (acmeField i))) = [] := by
    rw [List.flatMap_eq_nil_iff]
    intro i inside
    rw [empty i (List.mem_range.mp inside)]
    rfl
  rw [parseACMEDomains, nothing, List.append_nil]

theorem parse_cleared : parseACMEDomains (put [("delete", allFields)] config) = [] := by
  have gone : ∀ key ∈ split ',' allFields, key ≠ "delete" →
      put [("delete", allFields)] config key = none := by
    intro key listed other
    have unset : [("delete", allFields)].lookup key = none := by
      rw [List.lookup_cons, beq_eq_false_iff_ne.mpr other]
      rfl
    rw [put, unset]
    exact if_pos listed
  have acme := text_of_none (gone "acme" (by decide) (by decide))
  rw [parseACMEDomains_of_slots, acme, if_neg (by simp)]
  intro i inside
  exact text_of_none (gone _ (acmeField_mem i inside).2.1 (acmeField_ne i inside).2)

theorem parse_shared (some_ : domains ≠ []) (same : ∀ d ∈ domains, d.plugin = p)
    (named : ∀ d ∈ domains, Named d) :
    parseACMEDomains (put
      [("delete", slotFields), ("acme", shared p (domains.map (·.domain)))] config) = domains := by
  obtain ⟨first, inside⟩ := List.exists_mem_of_ne_nil domains some_
  have cleanPlugin : Clean p := same first inside ▸ (named first inside).2.2
  have read := @parseACMEField_shared p (domains.map (·.domain)) (by simpa using some_)
    (by simpa using fun d listed => (named d listed).2.1) cleanPlugin
  have nonempty : shared p (domains.map (·.domain)) ≠ "" := by
    rw [shared]
    split <;> simp
  have acme : text (put
      [("delete", slotFields), ("acme", shared p (domains.map (·.domain)))] config) "acme" =
      shared p (domains.map (·.domain)) := text_of_str rfl
  rw [parseACMEDomains_of_slots, acme, if_pos nonempty, read, List.map_map]
  · refine (List.map_congr_left fun d listed => ?_).trans (List.map_id domains)
    exact congrArg (NodeACMEDomain.mk d.domain) (same d listed).symm
  · intro i inside
    obtain ⟨other, other'⟩ := acmeField_ne i inside
    have unset : [("delete", slotFields), ("acme", shared p (domains.map (·.domain)))].lookup
        (acmeField i) = none := by
      rw [List.lookup_cons, beq_eq_false_iff_ne.mpr other', List.lookup_cons,
        beq_eq_false_iff_ne.mpr other]
      rfl
    refine text_of_none ?_
    rw [put, unset]
    exact if_pos (acmeField_mem i inside).1

theorem text_slots (fits : domains.length ≤ 5) {i : ℕ} (inside : i < 5) :
    text (put (("delete", "acme") :: slots 0 domains) config) (acmeField i) =
      ((domains[i]?).map single).getD (text config (acmeField i)) := by
  have other : (acmeField i == "delete") = false := by
    simpa using (acmeField_ne i inside).2
  have found : (("delete", "acme") :: slots 0 domains).lookup (acmeField i) =
      (domains[i]?).map single := by
    rw [List.lookup_cons, other]
    exact lookup_slots 0 i (by omega) inside (by omega)
  rw [text, put, found]
  cases domains[i]? with
  | some d => rfl
  | none =>
      have kept : acmeField i ∉ split ',' "acme" := (acmeField_mem i inside).2.2
      have deleted : ((("delete", "acme") :: slots 0 domains).lookup "delete").getD "" = "acme" :=
        rfl
      rw [deleted]
      simp only [Option.map_none, Option.getD_none, if_neg kept]
      rfl

theorem flatMap_range (l : List NodeACMEDomain) :
    ((List.range l.length).flatMap fun i => (l[i]?).toList) = l := by
  induction l with
  | nil => rfl
  | cons d rest ih =>
      rw [List.length_cons, List.range_succ_eq_map, List.flatMap_cons, List.flatMap_map]
      simpa using ih

theorem parse_slots (fits : domains.length ≤ 5) (named : ∀ d ∈ domains, Named d) :
    parseACMEDomains (put (("delete", "acme") :: slots 0 domains) config) =
      domains ++ (List.range (5 - domains.length)).flatMap fun i =>
        parseSlot (text config (acmeField (domains.length + i))) := by
  have unset : (("delete", "acme") :: slots 0 domains).lookup "acme" = none := by
    rw [List.lookup_cons]
    exact lookup_slots_acme 0 (by omega)
  have acme : text (put (("delete", "acme") :: slots 0 domains) config) "acme" = "" := by
    have listed : "acme" ∈ split ',' "acme" := by decide
    refine text_of_none ?_
    rw [put, unset]
    exact if_pos listed
  have five : 5 = domains.length + (5 - domains.length) := by omega
  rw [parseACMEDomains, acme, if_neg (by simp), List.nil_append, five, List.range_add,
    List.flatMap_append, List.flatMap_map, ← five]
  congr 1
  · refine Eq.trans ?_ (flatMap_range domains)
    refine List.flatMap_congr fun i inside => ?_
    have here := List.mem_range.mp inside
    rw [text_slots fits (by omega), List.getElem?_eq_getElem here]
    exact parseSlot_single (named _ (List.getElem_mem here))
  · refine List.flatMap_congr fun i inside => ?_
    have here := List.mem_range.mp inside
    rw [text_slots fits (by omega), List.getElem?_eq_none (by omega)]
    rfl

theorem parse_slots_perm_iff (fits : domains.length ≤ 5) (named : ∀ d ∈ domains, Named d) :
    (parseACMEDomains (put (("delete", "acme") :: slots 0 domains) config)).Perm domains ↔
      NoneBehind domains config := by
  rw [parse_slots fits named]
  constructor
  · intro perm slot behind inside
    have size := perm.length_eq
    rw [List.length_append] at size
    have none_ := List.eq_nil_of_length_eq_zero (Nat.add_eq_left.mp size)
    have slot_ := List.flatMap_eq_nil_iff.mp none_ (slot - domains.length)
      (List.mem_range.mpr (by omega))
    have length := length_parseSlot (text config (acmeField slot))
    rw [Nat.add_sub_cancel' behind] at slot_
    rw [slot_] at length
    by_contra held
    rw [if_neg held] at length
    cases length
  · intro empty
    have none_ : ((List.range (5 - domains.length)).flatMap fun i =>
        parseSlot (text config (acmeField (domains.length + i)))) = [] := by
      refine List.flatMap_eq_nil_iff.mpr fun i inside => ?_
      have here := List.mem_range.mp inside
      rw [empty (domains.length + i) (by omega) (by omega)]
      rfl
    rw [none_, List.append_nil]

theorem roundTrips_of_error {err : String} (refused : setParams domains = .error err) :
    RoundTrips answer domains config := by
  have outcome : setNodeACMEDomains answer domains config = ⟨.error err, [], config⟩ := by
    rw [setNodeACMEDomains, refused]
  constructor
  · rw [outcome]
    intro done
    cases done
  · rw [outcome]
    exact fun _ _ => rfl

/-- Where a request is sent it has to be accepted, and what it leaves has to be read back. -/
theorem roundTrips_of_params {params : Params} (sent : setParams domains = .ok params) :
    RoundTrips answer domains config ↔
      answer = .ok () ∧ (parseACMEDomains (put params config)).Perm domains := by
  cases answer with
  | error err =>
      have outcome : setNodeACMEDomains (.error err) domains config =
          ⟨.error err, [params], config⟩ := by
        rw [setNodeACMEDomains, sent]
      constructor
      · intro trips
        have silent := trips.silent err (by rw [outcome])
        rw [outcome] at silent
        cases silent
      · rintro ⟨accepted, -⟩
        cases accepted
  | ok done =>
      have outcome : setNodeACMEDomains (.ok done) domains config =
          ⟨.ok (), [params], put params config⟩ := by
        rw [setNodeACMEDomains, sent]
      constructor
      · intro trips
        have reads := trips.reads (by rw [outcome])
        rw [outcome] at reads
        exact ⟨rfl, reads⟩
      · rintro ⟨-, reads⟩
        constructor
        · rw [outcome]
          exact fun _ => reads
        · rw [outcome]
          intro err failed
          cases failed

/-- A list round-trips precisely if it is refused for its length, or is accepted and has one
plugin or finds no old entries behind it. -/
theorem roundTrips_iff (answer : Except String Unit) (domains : List NodeACMEDomain)
    (config : Config) (named : ∀ d ∈ domains, Named d) :
    RoundTrips answer domains config ↔
      (¬OnePlugin domains ∧ 5 < domains.length) ∨
        answer = .ok () ∧ (OnePlugin domains ∨ NoneBehind domains config) := by
  by_cases one : OnePlugin domains
  · obtain ⟨p, same⟩ := id one
    have read : ∃ params, setParams domains = .ok params ∧
        (parseACMEDomains (put params config)).Perm domains := by
      by_cases some_ : domains = []
      · subst some_
        exact ⟨_, rfl, by rw [parse_cleared]⟩
      · exact ⟨_, setParams_of_onePlugin some_ same, by rw [parse_shared some_ same named]⟩
    obtain ⟨params, sent, perm⟩ := read
    rw [roundTrips_of_params sent]
    simp [one, perm]
  · have params := setParams_of_not_onePlugin one
    by_cases fits : domains.length ≤ 5
    · rw [if_pos fits] at params
      rw [roundTrips_of_params params, parse_slots_perm_iff fits named]
      have short : ¬5 < domains.length := by omega
      simp [one, short]
    · rw [if_neg fits] at params
      have long : 5 < domains.length := by omega
      exact iff_of_true (roundTrips_of_error params) (.inl ⟨one, long⟩)

/-- What a node's configuration can be when nothing else writes it. -/
inductive Reached : Config → Prop where
  | empty : Reached fun _ => none
  | set {config : Config} (answer : Except String Unit) {domains : List NodeACMEDomain}
      (earlier : Reached config) (named : ∀ d ∈ domains, Named d) :
      Reached (setNodeACMEDomains answer domains config).config

instance (s : String) : Decidable (Clean s) := inferInstanceAs (Decidable (_ ∧ _ ∧ _))

instance (d : NodeACMEDomain) : Decidable (Named d) := inferInstanceAs (Decidable (_ ∧ _ ∧ _))

def three : List NodeACMEDomain := [⟨"a.lab", "dns"⟩, ⟨"b.lab", "http"⟩, ⟨"c.lab", "dns"⟩]

def two : List NodeACMEDomain := [⟨"a.lab", "dns"⟩, ⟨"b.lab", "http"⟩]

def afterThree : Config := (setNodeACMEDomains (.ok ()) three fun _ => none).config

/-- A longer list than before. -/
theorem three_roundTrips : RoundTrips (.ok ()) three
    (setNodeACMEDomains (.ok ()) two fun _ => none).config := by
  refine (roundTrips_iff (.ok ()) three _ (by decide)).mpr (.inr ⟨rfl, .inr ?_⟩)
  intro slot behind inside
  have third : slot = 3 ∨ slot = 4 := by
    have length : three.length = 3 := rfl
    omega
  rcases third with rfl | rfl <;> decide +kernel

/-- A shorter list leaves the third entry where it was. -/
theorem third_survives : ¬∀ (answer : Except String Unit) (domains : List NodeACMEDomain)
    (config : Config), Reached config → (∀ d ∈ domains, Named d) →
    RoundTrips answer domains config := by
  intro always
  have trips := always (.ok ()) two afterThree (.set (.ok ()) .empty (by decide)) (by decide)
  have several : ¬OnePlugin two := by
    rintro ⟨p, same⟩
    have first := same ⟨"a.lab", "dns"⟩ (by decide)
    have second := same ⟨"b.lab", "http"⟩ (by decide)
    exact absurd (first.trans second.symm) (by decide)
  have sent := setParams_of_not_onePlugin several
  rw [if_pos (by decide)] at sent
  have read := ((roundTrips_of_params sent).mp trips).2
  have empty := (parse_slots_perm_iff (by decide) (by decide)).mp read 2 (by decide) (by decide)
  exact absurd empty (by decide +kernel)

end Reading

end AcmeDomains
