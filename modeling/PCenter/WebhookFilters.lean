import PCenter.Lib.CaseFold
import PCenter.Lib.Json
import PCenter.Webhooks

/-!
# The event filter of a webhook endpoint

Which events an endpoint is sent is decided by `matches`, in two ways for each entry of its
filter: the entry as a whole, or, if there is a star in it, part by part. Before a filter is
stored it is tidied by `dedupe`. How a URL is parsed and how a text is turned into lower case are
parameters.
-/

namespace Webhooks

open GoText GoJson
open FiniteMap (lookup_insert_eq)

/-- Whether an entry of a filter lets an event pass. -/
def passes (event f : String) : Bool :=
  let eventParts := split '.' event
  let filterParts := split '.' f
  equalFold f event ||
    (contains '*' f && filterParts.length == eventParts.length &&
      (filterParts.zip eventParts).all fun p => p.1 == "*" || equalFold p.1 p.2)

/-- `matches` -/
def filterMatches (filter : List String) (event : String) : Bool :=
  if filter.length = 0 then true else filter.any (passes event)

/-- As many components, each a star or the same but for its case. -/
def Accepts (f event : String) : Prop :=
  List.Forall₂ (fun fp ep => fp = "*" ∨ equalFold fp ep = true) (split '.' f) (split '.' event)

theorem equalFold_iff_components (s t : String) :
    equalFold s t = true ↔
      List.Forall₂ (fun a b => equalFold a b = true) (split '.' s) (split '.' t) :=
  equalFold_iff_split (by decide) (by decide) s t

theorem accepts_iff_equalFold {f event : String} (plain : contains '*' f = false) :
    Accepts f event ↔ equalFold f event = true := by
  rw [equalFold_iff_components]
  constructor
  · intro accepted
    have listed := (List.forall₂_and_left (p := (· ∈ split '.' f)) _ _).mpr
      ⟨fun _ member => member, accepted⟩
    refine listed.imp fun fp ep ⟨member, either⟩ => either.resolve_left ?_
    rintro rfl
    have starred := contains_of_mem_split member (by decide : contains '*' "*" = true)
    rw [plain] at starred
    exact nomatch starred
  · intro same
    exact same.imp fun _ _ folded => Or.inr folded

theorem passes_iff (event f : String) : passes event f = true ↔ Accepts f event := by
  have parts : ((split '.' f).length == (split '.' event).length &&
      ((split '.' f).zip (split '.' event)).all
        fun p => p.1 == "*" || equalFold p.1 p.2) = true ↔ Accepts f event := by
    rw [Accepts, List.forall₂_iff_zip, Bool.and_eq_true, beq_iff_eq, List.all_eq_true]
    refine and_congr_right fun _ => ⟨fun all a b member => ?_, fun all p member => ?_⟩
    · have either := all (a, b) member
      rwa [Bool.or_eq_true, beq_iff_eq] at either
    · rw [Bool.or_eq_true, beq_iff_eq]
      exact all member
  unfold passes
  rw [Bool.or_eq_true, Bool.and_assoc, Bool.and_eq_true, parts]
  constructor
  · rintro (same | ⟨-, accepted⟩)
    · exact ((equalFold_iff_components f event).mp same).imp fun _ _ folded => Or.inr folded
    · exact accepted
  · intro accepted
    cases starred : contains '*' f with
    | true => exact Or.inr ⟨rfl, accepted⟩
    | false => exact Or.inl ((accepts_iff_equalFold starred).mp accepted)

/-- An event passes a filter if there is none, or if an entry accepts it component by component. -/
theorem filterMatches_iff (filter : List String) (event : String) :
    filterMatches filter event = true ↔ filter = [] ∨ ∃ f ∈ filter, Accepts f event := by
  unfold filterMatches
  split
  · rename_i empty
    exact iff_of_true rfl (Or.inl (List.length_eq_zero_iff.mp empty))
  · rename_i some_
    rw [List.any_eq_true]
    constructor
    · rintro ⟨f, listed, passed⟩
      exact Or.inr ⟨f, listed, (passes_iff event f).mp passed⟩
    · rintro (rfl | ⟨f, listed, accepted⟩)
      · exact absurd rfl some_
      · exact ⟨f, listed, (passes_iff event f).mpr accepted⟩

example : filterMatches ["VM.*", "ct.start"] "vm.create" = true := by decide +kernel

example : filterMatches ["*"] "vm.create" = false := by decide +kernel

/-- The loop of `dedupe`; what it has seen is what it has kept. -/
def dedupeLoop (out : List String) : List String → List String
  | [] => out
  | v :: rest =>
      let v := trimSpace v
      if v = "" then dedupeLoop out rest
      else if v ∈ out then dedupeLoop out rest
      else dedupeLoop (out ++ [v]) rest

/-- A list that is empty is nil, but not one of blanks. -/
def dedupe (s : List String) : Option (List String) :=
  if s.length = 0 then none else some (dedupeLoop [] s)

/-- The column of the events, where nil is written as the empty list. -/
def eventsJSON (events : Option (List String)) : Json :=
  encodeSlice Json.str (some (events.getD []))

/-- The events that `scanRow` reads from the column. -/
def scanEvents (column : Json) : Except String (List String) :=
  (decodeSlice decodeString column).map (·.getD [])

theorem scanEvents_eventsJSON (events : Option (List String)) :
    scanEvents (eventsJSON events) = .ok (events.getD []) := by
  have read := decodeSlice_encodeSlice (fun s => decodeString_str s) (some (events.getD []))
  rw [scanEvents, eventsJSON, read]
  rfl

structure URL where
  scheme : String
  host : String

/-- `url.Parse` -/
abbrev ParseURL := String → Except String URL

def sanitizeName (n : String) : String := if trimSpace n = "" then "(unnamed)" else trimSpace n

def validateRequest (parse : ParseURL) (name rawURL : String) : Except String Unit :=
  if trimSpace name = "" then .error "name is required"
  else
    match parse rawURL with
    | .error err => .error ("invalid url: " ++ err)
    | .ok u =>
        if u.scheme ≠ "http" ∧ u.scheme ≠ "https" then
          .error "url scheme must be http or https"
        else if u.host = "" then .error "url must include a host"
        else .ok ()

/-- `CreateRequest` and `UpdateRequest` have the same fields. -/
inductive Request where
  | create (secretEncrypted : String) (req : UpdateRequest)
  | update (req : UpdateRequest)

def Request.body : Request → UpdateRequest
  | .create _ req => req
  | .update req => req

/-- `Service.Create` and `Service.Update` at a time; rows are kept as they are read. -/
def handle (parse : ParseURL) (d : DB) (id : String) (now : Int) (r : Request) :
    Except String DB := do
  validateRequest parse r.body.name r.body.url
  let events ← scanEvents (eventsJSON (dedupe r.body.events))
  match r with
  | .create secretEncrypted req =>
      d.insert id
        { name := sanitizeName req.name, url := req.url, events, secretEncrypted
          enabled := req.enabled, createdAt := now, updatedAt := now, lastFiredAt := none
          lastStatus := none, consecutiveFailures := 0 }
  | .update req => d.update id now { req with name := sanitizeName req.name, events }

/-- The name of the event of an activity, by its resource type and its action. -/
def eventName (toLower : String → String) (resourceType action : String) : String :=
  let resource := toLower (trimSpace resourceType)
  let action := toLower (trimSpace action)
  let resource := if resource = "" then "activity" else resource
  let prefix_ := resource ++ "_"
  let action :=
    if hasPrefix prefix_ action then String.ofList (action.toList.drop prefix_.length) else action
  let action := if action = "" then "event" else action
  resource ++ "." ++ action

/-- The patterns of a list without the blanks around them. -/
def trimmed (events : List String) : List String := events.map trimSpace

section Stored

variable {events : List String} {event : String}

theorem mem_dedupeLoop {out l : List String} {v : String} :
    v ∈ dedupeLoop out l ↔ v ∈ out ∨ v ≠ "" ∧ v ∈ trimmed l := by
  induction l generalizing out with
  | nil => simp [dedupeLoop, trimmed]
  | cons w l ih =>
      simp only [dedupeLoop, trimmed, List.map_cons, List.mem_cons]
      split
      · rename_i blank
        rw [ih, blank, trimmed]
        constructor
        · rintro (kept | ⟨some_, listed⟩)
          · exact Or.inl kept
          · exact Or.inr ⟨some_, Or.inr listed⟩
        · rintro (kept | ⟨some_, rfl | listed⟩)
          · exact Or.inl kept
          · exact absurd rfl some_
          · exact Or.inr ⟨some_, listed⟩
      · rename_i some_
        split
        · rename_i seen
          rw [ih, trimmed]
          constructor
          · rintro (kept | ⟨other, listed⟩)
            · exact Or.inl kept
            · exact Or.inr ⟨other, Or.inr listed⟩
          · rintro (kept | ⟨other, rfl | listed⟩)
            · exact Or.inl kept
            · exact Or.inl seen
            · exact Or.inr ⟨other, listed⟩
        · rw [ih, List.mem_append, List.mem_singleton, trimmed]
          constructor
          · rintro ((kept | rfl) | ⟨other, listed⟩)
            · exact Or.inl kept
            · exact Or.inr ⟨some_, Or.inl rfl⟩
            · exact Or.inr ⟨other, Or.inr listed⟩
          · rintro (kept | ⟨other, rfl | listed⟩)
            · exact Or.inl (Or.inl kept)
            · exact Or.inl (Or.inr rfl)
            · exact Or.inr ⟨other, listed⟩

/-- What is stored of a list. -/
def storedEvents (events : List String) : List String := (dedupe events).getD []

theorem mem_storedEvents {v : String} : v ∈ storedEvents events ↔ v ≠ "" ∧ v ∈ trimmed events := by
  unfold storedEvents dedupe
  split
  · rename_i empty
    obtain rfl := List.length_eq_zero_iff.mp empty
    simp [trimmed]
  · rw [Option.getD_some, mem_dedupeLoop]
    simp

theorem storedEvents_nil_iff :
    storedEvents events = [] ↔ ∀ v ∈ events, trimSpace v = "" := by
  rw [List.eq_nil_iff_forall_not_mem]
  constructor
  · intro nothing v listed
    by_contra some_
    exact nothing _ (mem_storedEvents.mpr ⟨some_, List.mem_map_of_mem listed⟩)
  · intro blank v kept
    obtain ⟨some_, listed⟩ := mem_storedEvents.mp kept
    obtain ⟨w, member, rfl⟩ := List.mem_map.mp listed
    exact some_ (blank w member)

theorem filterMatches_cons_iff {filter : List String} (some_ : filter ≠ []) :
    filterMatches filter event = true ↔ ∃ f ∈ filter, Accepts f event := by
  rw [filterMatches, if_neg fun empty => some_ (List.length_eq_zero_iff.mp empty), List.any_eq_true]
  simp only [passes_iff]

theorem accepts_blank_iff : Accepts "" event ↔ event = "" := by
  rw [accepts_iff_equalFold (by decide), equalFold, beq_iff_eq]
  constructor
  · intro same
    have empty : event.toList = [] := List.map_eq_nil_iff.mp same.symm
    exact String.toList_injective empty
  · rintro rfl
    rfl

theorem accepts_star : Accepts "*" "" := by
  have star : split '.' "*" = ["*"] := by decide
  have nameless : split '.' "" = [""] := by decide
  rw [Accepts, star, nameless]
  exact .cons (Or.inl rfl) .nil

/-- What accepts an event without a name is blank or a star. -/
theorem accepts_nameless {f : String} (accepted : Accepts f "") : f = "" ∨ f = "*" := by
  have nameless : split '.' "" = [""] := by decide
  rw [Accepts, nameless] at accepted
  obtain ⟨fp, rest, either, others, parts⟩ := List.forall₂_cons_right_iff.mp accepted
  obtain rfl := List.forall₂_nil_right_iff.mp others
  have whole := eq_of_split parts
  rcases either with star | blank
  · exact Or.inr (whole.trans star)
  · rw [equalFold, beq_iff_eq] at blank
    have empty : fp.toList = [] := List.map_eq_nil_iff.mp blank
    exact Or.inl (whole.trans (String.toList_injective empty))

/-- An event with a name is treated alike unless all patterns are blank. -/
theorem stored_matches_iff (named : event ≠ "") :
    (filterMatches (storedEvents events) event = true ↔
        filterMatches (trimmed events) event = true) ↔
      events = [] ∨ ∃ v ∈ events, trimSpace v ≠ "" := by
  by_cases nothing : events = []
  · subst nothing
    exact iff_of_true Iff.rfl (Or.inl rfl)
  · have listed : trimmed events ≠ [] := fun empty => nothing (List.map_eq_nil_iff.mp empty)
    rw [filterMatches_cons_iff listed, or_iff_right nothing]
    by_cases blank : storedEvents events = []
    · have all := storedEvents_nil_iff.mp blank
      have fails : ¬∃ v ∈ events, trimSpace v ≠ "" := by
        rintro ⟨v, member, some_⟩
        exact some_ (all v member)
      refine iff_of_false (fun same => ?_) fails
      obtain ⟨f, member, accepted⟩ := same.mp (by rw [blank]; rfl)
      obtain ⟨v, inside, rfl⟩ := List.mem_map.mp member
      rw [all v inside, accepts_blank_iff] at accepted
      exact named accepted
    · rw [filterMatches_cons_iff blank]
      refine iff_of_true ⟨?_, ?_⟩ ?_
      · rintro ⟨f, kept, accepted⟩
        exact ⟨f, (mem_storedEvents.mp kept).2, accepted⟩
      · rintro ⟨f, member, accepted⟩
        refine ⟨f, mem_storedEvents.mpr ⟨?_, member⟩, accepted⟩
        rintro rfl
        exact named (accepts_blank_iff.mp accepted)
      · obtain ⟨f, kept⟩ := List.exists_mem_of_ne_nil _ blank
        obtain ⟨some_, member⟩ := mem_storedEvents.mp kept
        obtain ⟨v, inside, rfl⟩ := List.mem_map.mp member
        exact ⟨v, inside, some_⟩

/-- All texts are treated alike unless a pattern is blank and no other stands for it. -/
theorem stored_matches_all_iff :
    (∀ event, filterMatches (storedEvents events) event = true ↔
        filterMatches (trimmed events) event = true) ↔
      (∀ v ∈ events, trimSpace v ≠ "") ∨ "*" ∈ trimmed events := by
  constructor
  · intro alike
    rcases (stored_matches_iff (by decide)).mp (alike "event") with rfl | ⟨w, listed, some_⟩
    · exact Or.inl (List.forall_mem_nil _)
    · by_contra neither
      obtain ⟨blanks, star⟩ := not_or.mp neither
      push Not at blanks
      obtain ⟨v, member, blank⟩ := blanks
      have kept : storedEvents events ≠ [] := fun empty =>
        some_ (storedEvents_nil_iff.mp empty w listed)
      have there : trimmed events ≠ [] := List.ne_nil_of_mem (List.mem_map_of_mem member)
      have nameless := alike ""
      rw [filterMatches_cons_iff kept, filterMatches_cons_iff there] at nameless
      obtain ⟨f, inside, accepted⟩ := nameless.mpr
        ⟨"", blank ▸ List.mem_map_of_mem member, accepts_blank_iff.mpr rfl⟩
      obtain ⟨other, inside⟩ := mem_storedEvents.mp inside
      rcases accepts_nameless accepted with rfl | rfl
      · exact other rfl
      · exact star inside
  · intro fine event
    by_cases nothing : events = []
    · subst nothing
      exact Iff.rfl
    · have some_ : ∃ v ∈ events, trimSpace v ≠ "" := by
        rcases fine with apart | star
        · obtain ⟨v, listed⟩ := List.exists_mem_of_ne_nil _ nothing
          exact ⟨v, listed, apart v listed⟩
        · obtain ⟨v, listed, is⟩ := List.mem_map.mp star
          exact ⟨v, listed, by rw [is]; decide⟩
      by_cases named : event = ""
      · subst named
        obtain ⟨w, listed, nonblank⟩ := some_
        have kept : storedEvents events ≠ [] := fun empty =>
          nonblank (storedEvents_nil_iff.mp empty w listed)
        have there : trimmed events ≠ [] := List.ne_nil_of_mem (List.mem_map_of_mem listed)
        rw [filterMatches_cons_iff kept, filterMatches_cons_iff there]
        constructor
        · rintro ⟨f, inside, accepted⟩
          exact ⟨f, (mem_storedEvents.mp inside).2, accepted⟩
        · rintro ⟨f, member, accepted⟩
          rcases fine with apart | star
          · refine ⟨f, mem_storedEvents.mpr ⟨?_, member⟩, accepted⟩
            obtain ⟨v, inside, rfl⟩ := List.mem_map.mp member
            exact apart v inside
          · exact ⟨"*", mem_storedEvents.mpr ⟨by decide, star⟩, accepts_star⟩
      · exact (stored_matches_iff named).mpr (Or.inr some_)

theorem eventName_ne_empty (toLower : String → String) (resourceType action : String) :
    eventName toLower resourceType action ≠ "" := by
  intro empty
  have chars := congrArg String.toList empty
  simp only [eventName, String.toList_append] at chars
  obtain ⟨front, -⟩ := List.append_eq_nil_iff.mp chars
  obtain ⟨-, dot⟩ := List.append_eq_nil_iff.mp front
  exact absurd dot (by decide)

/-- A request that is accepted leaves a row with the events that `dedupe` keeps. -/
theorem handle_row {parse : ParseURL} {d d' : DB} {id : String} {now : Int} {r : Request}
    (handled : handle parse d id now r = .ok d') :
    ∃ row, d'.lookup id = some row ∧ row.events = storedEvents r.body.events := by
  unfold handle at handled
  cases valid : validateRequest parse r.body.name r.body.url with
  | error err =>
      rw [valid] at handled
      exact nomatch handled
  | ok _ =>
      rw [valid, scanEvents_eventsJSON] at handled
      cases r with
      | create secretEncrypted req =>
          change DB.insert d id _ = _ at handled
          unfold DB.insert at handled
          split at handled
          · exact nomatch handled
          · obtain rfl := Except.ok.inj handled
            exact ⟨_, by rw [lookup_insert_eq, if_pos rfl], rfl⟩
      | update req =>
          change DB.update d id now _ = _ at handled
          unfold DB.update at handled
          cases found : d.lookup id with
          | none =>
              rw [found] at handled
              exact nomatch handled
          | some row =>
              rw [found] at handled
              obtain rfl := Except.ok.inj handled
              exact ⟨_, by rw [lookup_insert_eq, if_pos rfl], rfl⟩

/-- An endpoint that a request has stored gets the events of activities that the list of the
request asks for, iff the list is empty or has a pattern that is not blank. Of other texts only
the empty one can make a difference. -/
theorem stored_filter_iff {parse : ParseURL} {d d' : DB} {id : String} {now : Int} {r : Request}
    (handled : handle parse d id now r = .ok d') :
    ∃ row, d'.lookup id = some row ∧
      (∀ toLower resourceType action,
        (filterMatches row.events (eventName toLower resourceType action) = true ↔
          filterMatches (trimmed r.body.events) (eventName toLower resourceType action) = true) ↔
        r.body.events = [] ∨ ∃ v ∈ r.body.events, trimSpace v ≠ "") ∧
      ((∀ event, filterMatches row.events event = true ↔
          filterMatches (trimmed r.body.events) event = true) ↔
        (∀ v ∈ r.body.events, trimSpace v ≠ "") ∨ "*" ∈ trimmed r.body.events) := by
  obtain ⟨row, stored, is⟩ := handle_row handled
  refine ⟨row, stored, ?_⟩
  rw [is]
  constructor
  · intro toLower resourceType action
    exact stored_matches_iff (eventName_ne_empty toLower resourceType action)
  · exact stored_matches_all_iff

end Stored

section Receivers

/-- A parser that knows the address of one receiver. -/
def parseHook : ParseURL := fun s =>
  if s = "https://ci.example/hook" then .ok ⟨"https", "ci.example"⟩ else .error "unknown"

/-- A request for an endpoint with a list of patterns. -/
def subscribing (events : List String) : Request :=
  .create "" ⟨"CI", "https://ci.example/hook", events, true⟩

theorem vm_filter_stored :
    ∃ d row, handle parseHook ∅ "hook" 0 (subscribing [" vm.* ", "", "vm.*"]) = .ok d ∧
      d.lookup "hook" = some row ∧
      ∀ toLower resourceType action,
        filterMatches row.events (eventName toLower resourceType action) = true ↔
          filterMatches ["vm.*", "", "vm.*"] (eventName toLower resourceType action) = true := by
  obtain ⟨d, handled⟩ : ∃ d, handle parseHook ∅ "hook" 0 (subscribing [" vm.* ", "", "vm.*"]) =
      .ok d := ⟨_, rfl⟩
  obtain ⟨row, stored, alike, -⟩ := stored_filter_iff handled
  refine ⟨d, row, handled, stored, fun toLower resourceType action => ?_⟩
  exact (alike toLower resourceType action).mpr
    (Or.inr ⟨" vm.* ", List.mem_cons_self, by decide⟩)

/-- A list with nothing but blanks becomes the filter that lets everything pass. -/
theorem blanks_subscribe_to_all :
    ∃ d row, handle parseHook ∅ "hook" 0 (subscribing [" "]) = .ok d ∧
      d.lookup "hook" = some row ∧
      ¬(filterMatches row.events (eventName id "vm" "vm_create") = true ↔
        filterMatches (trimmed [" "]) (eventName id "vm" "vm_create") = true) := by
  refine ⟨_, _, rfl, rfl, ?_⟩
  decide +kernel

end Receivers

end Webhooks
