import PCenter.ConfigUpdates
import PCenter.Lib.Transition

/-!
# Editors of a guest's configuration

Any number of users edit the configuration of one guest (`useConfigEditor`), while PVE's own is
written by them and by others. An update carries the digest that came with the configuration on
display, through the backend to PVE, and every call takes its time: other events go between its
parts. A component is rendered again before its user's next event.
-/

namespace ConfigEditors

open FiniteMap GoJson Transition
open ConfigUpdates (changesOf configForm sprint lookup_configForm)
open Handlers (ConfigUpdateRequest)

abbrev Config := Map String Json

/-- PVE's calls for one guest: `GET` and `PUT` of its `config`. -/
structure Pve (C : Type) where
  get : C → Config
  put : C → Map String String → Except String C

/-- The digest of `parseVMConfig` and `parseContainerConfig`. -/
def digestOf (raw : Config) : String :=
  match raw.lookup "digest" with
  | some (.str s) => s
  | _ => ""

/-- PVE tells configurations apart by their digests, and does nothing for a digest that is not the
one of its own. -/
structure Pve.Lawful {C : Type} (pve : Pve C) : Prop where
  distinct : ∀ c c', digestOf (pve.get c) = digestOf (pve.get c') → c = c'
  checked : ∀ c form d c', form.lookup "digest" = some d → d ≠ "" →
    pve.put c form = .ok c' → d = digestOf (pve.get c)

section Editor

structure Change where
  value : Json
  label : String

/-- How far `apply` has come. -/
inductive Stage where
  | updating (req : ConfigUpdateRequest)
  | answered (req : ConfigUpdateRequest) (err : Option String)
  | fetching
  | fetched (newConfig : Except String Config)

/-- The state of `useConfigEditor`; it is `applying` while there is a stage. -/
structure Editor where
  originalConfig : Config
  digest : String
  changes : Map String Change
  stage : Option Stage
  error : Option String
  conflict : Bool

/-- The typed fields beside `raw_config`, and the test `value === original || String(value) ===
String(original)`. -/
structure Script where
  typed : Config → String → Option Json
  same : Json → Option Json → Bool

variable (script : Script)

def useConfigEditor (initialConfig : Config) : Editor :=
  ⟨initialConfig, digestOf initialConfig, ∅, none, none, false⟩

def getOriginalValue (e : Editor) (key : String) : Option Json :=
  (e.originalConfig.lookup key).or (script.typed e.originalConfig key)

def setValue (e : Editor) (key : String) (value : Json) (label : Option String) : Editor :=
  { e with
    changes :=
      if script.same value (getOriginalValue script e key) then e.changes.erase key
      else e.changes.insert key ⟨value, if label.getD "" = "" then key else label.getD ""⟩
    error := none
    conflict := false }

/-- The button is disabled while `apply` is under way. -/
def discard (e : Editor) : Editor :=
  match e.stage with
  | some _ => e
  | none => { e with changes := ∅, error := none, conflict := false }

def changesObj (changes : Map String Change) : Fields :=
  changes.entries.map fun entry => (entry.1, entry.2.value)

/-- `apply`, up to its request. -/
def apply (e : Editor) : Editor :=
  match e.stage with
  | some _ => e
  | none =>
      if e.changes.entries = [] then e
      else { e with
        stage := some (.updating ⟨e.digest, changesObj e.changes, []⟩)
        error := none
        conflict := false }

/-- The `catch` and the `finally` of `apply`. -/
def failed (e : Editor) (message : String) : Editor :=
  { e with
    stage := none
    error := some message
    conflict := e.conflict || GoText.includes "conflict" message ||
      GoText.includes "changed" message }

/-- What `apply` does with the answer of its update. -/
def updated (e : Editor) : Option String → Editor
  | some message => failed e message
  | none => { e with changes := ∅, stage := some .fetching }

/-- What `apply` does with the configuration that it fetches then. -/
def refreshed (e : Editor) : Except String Config → Editor
  | .error message => failed e message
  | .ok newConfig =>
      { e with originalConfig := newConfig, digest := digestOf newConfig, stage := none }

end Editor

section World

variable {C : Type} (pve : Pve C) (script : Script)

/-- `UpdateClusterVMConfig` and `UpdateClusterContainerConfig`, from the check of the digest on. -/
def updateConfig (order : Order (Sigma fun _ : String => Json)) (c : C)
    (req : ConfigUpdateRequest) : Except String C :=
  if req.digest = "" then .error "digest required for config updates"
  else
    match pve.put c (configForm order req) with
    | .ok c' => .ok c'
    | .error err =>
        if GoText.includes "412" err || GoText.includes "digest" err then
          .error "configuration changed by another user, please refresh"
        else .error err

/-- What an open editor does, or is told. -/
inductive Act where
  | setValue (key : String) (value : Json) (label : Option String)
  | discard
  | apply
  /-- The update is refused on its way, or reaches PVE. -/
  | serve (refusal : Option String) (order : Order (Sigma fun _ : String => Json))
  /-- The answer comes, or an error in its place. -/
  | answer (lost : Option String)
  | fetch (failure : Option String)
  | refresh

/-- The way of the update from the editor to PVE's configuration. -/
def serve (refusal : Option String) (order : Order (Sigma fun _ : String => Json)) (c : C)
    (req : ConfigUpdateRequest) : Except String C :=
  match refusal with
  | some err => .error err
  | none => updateConfig pve order c req

/-- An act, which goes on from the stage of `apply` that it belongs to. -/
def act (c : C) (e : Editor) : Act → Editor × C
  | .setValue key value label => (setValue script e key value label, c)
  | .discard => (discard e, c)
  | .apply => (apply e, c)
  | .serve refusal order =>
      match e.stage with
      | some (.updating req) =>
          match serve pve refusal order c req with
          | .ok c' => ({ e with stage := some (.answered req none) }, c')
          | .error err => ({ e with stage := some (.answered req (some err)) }, c)
      | _ => (e, c)
  | .answer lost =>
      match e.stage with
      | some (.answered _ err) => (updated e (lost.or err), c)
      | _ => (e, c)
  | .fetch failure =>
      match e.stage, failure with
      | some .fetching, none => ({ e with stage := some (.fetched (.ok (pve.get c))) }, c)
      | some .fetching, some err => ({ e with stage := some (.fetched (.error err)) }, c)
      | _, _ => (e, c)
  | .refresh =>
      match e.stage with
      | some (.fetched newConfig) => (refreshed e newConfig, c)
      | _ => (e, c)

/-- A tab, from the configuration that was read for it. -/
inductive Tab where
  | loaded (config : Config)
  | editing (e : Editor)

structure World (C : Type) where
  config : C
  tabs : Nat → Option Tab

inductive Event (C : Type) where
  /-- Somebody else writes. -/
  | written (c : C)
  /-- PVE answers `fetchConfig` of a new tab. -/
  | load (i : Nat)
  | mount (i : Nat)
  | act (i : Nat) (a : Act)

def step (w : World C) : Event C → World C
  | .written c => { w with config := c }
  | .load i =>
      match w.tabs i with
      | none => { w with tabs := Function.update w.tabs i (some (.loaded (pve.get w.config))) }
      | some _ => w
  | .mount i =>
      match w.tabs i with
      | some (.loaded config) =>
          { w with tabs := Function.update w.tabs i (some (.editing (useConfigEditor config))) }
      | _ => w
  | .act i a =>
      match w.tabs i with
      | some (.editing e) =>
          ⟨(act pve script w.config e a).2,
            Function.update w.tabs i (some (.editing (act pve script w.config e a).1))⟩
      | _ => w

def start (c : C) : World C := ⟨c, fun _ => none⟩

end World

section Editors

variable {C : Type} {pve : Pve C} {script : Script} {w : World C}

/-- What holds of every configuration that was read and of every editor. -/
structure Everywhere (read : Config → Prop) (good : Editor → Prop) (w : World C) : Prop where
  loaded : ∀ i config, w.tabs i = some (.loaded config) → read config
  editing : ∀ i e, w.tabs i = some (.editing e) → good e

variable {read : Config → Prop} {good : Editor → Prop}

theorem everywhere_update {i : Nat} {tab : Tab} {c : C} (all : Everywhere read good w)
    (config : ∀ config, tab = .loaded config → read config)
    (editor : ∀ e, tab = .editing e → good e) :
    Everywhere read good ⟨c, Function.update w.tabs i (some tab)⟩ := by
  constructor
  · intro j config' found
    simp only at found
    by_cases here : j = i
    · subst here
      rw [Function.update_self] at found
      exact config config' (Option.some.inj found)
    · rw [Function.update_of_ne here] at found
      exact all.loaded j config' found
  · intro j e found
    simp only at found
    by_cases here : j = i
    · subst here
      rw [Function.update_self] at found
      exact editor e (Option.some.inj found)
    · rw [Function.update_of_ne here] at found
      exact all.editing j e found

/-- What an event has to keep for that. -/
def Keeps (pve : Pve C) (script : Script) (good : Editor → Prop) (w : World C) : Event C → Prop
  | .act i a => ∀ e, w.tabs i = some (.editing e) → good (act pve script w.config e a).1
  | _ => True

theorem everywhere_step_iff (current : read (pve.get w.config))
    (opened : ∀ config, read config → good (useConfigEditor config))
    (all : Everywhere read good w) (event : Event C) :
    Everywhere read good (step pve script w event) ↔ Keeps pve script good w event := by
  cases event with
  | written c => exact iff_of_true ⟨all.loaded, all.editing⟩ trivial
  | load i =>
      refine iff_of_true ?_ trivial
      cases tab : w.tabs i with
      | some _ =>
          simp only [step, tab]
          exact all
      | none =>
          simp only [step, tab]
          refine everywhere_update all ?_ ?_
          · rintro _ ⟨rfl⟩
            exact current
          · rintro _ ⟨⟩
  | mount i =>
      refine iff_of_true ?_ trivial
      cases tab : w.tabs i with
      | none =>
          simp only [step, tab]
          exact all
      | some t =>
          cases t with
          | editing e =>
              simp only [step, tab]
              exact all
          | loaded config =>
              simp only [step, tab]
              refine everywhere_update all ?_ ?_
              · rintro _ ⟨⟩
              · rintro _ ⟨rfl⟩
                exact opened config (all.loaded i config tab)
  | act i a =>
      constructor
      · intro next e tab
        refine next.editing i _ ?_
        simp [step, tab]
      · intro keeps
        cases tab : w.tabs i with
        | none =>
            simp only [step, tab]
            exact all
        | some t =>
            cases t with
            | loaded config =>
                simp only [step, tab]
                exact all
            | editing e =>
                simp only [step, tab]
                refine everywhere_update all ?_ ?_
                · rintro _ ⟨⟩
                · rintro _ ⟨rfl⟩
                  exact keeps e tab

end Editors

section Locking

variable {C : Type} (pve : Pve C) (script : Script)

/-- PVE has answered with this configuration once. -/
def Read (config : Config) : Prop := ∃ c, config = pve.get c

/-- An editor shows a configuration that it read, with the digest of that one, and sends both. -/
structure Sound (e : Editor) : Prop where
  original : Read pve e.originalConfig
  digest : e.digest = digestOf e.originalConfig
  sent : ∀ req, e.stage = some (.updating req) → req.digest = e.digest ∧ req.delete = []
  fetched : ∀ config, e.stage = some (.fetched (.ok config)) → Read pve config

variable {pve} {e : Editor}

theorem sound_useConfigEditor {config : Config} (read : Read pve config) :
    Sound pve (useConfigEditor config) :=
  ⟨read, rfl, fun _ sent => (by cases sent), fun _ fetched => (by cases fetched)⟩

theorem Sound.quiet {e' : Editor} (sound : Sound pve e)
    (original : e'.originalConfig = e.originalConfig) (digest : e'.digest = e.digest)
    (unsent : ∀ req, e'.stage ≠ some (.updating req))
    (unread : ∀ config, e'.stage ≠ some (.fetched (.ok config))) : Sound pve e' := by
  refine ⟨?_, ?_, fun req sent => absurd sent (unsent req),
    fun config fetched => absurd fetched (unread config)⟩
  · rw [original]
    exact sound.original
  · rw [digest, original]
    exact sound.digest

theorem Sound.failed (sound : Sound pve e) (message : String) : Sound pve (failed e message) :=
  sound.quiet rfl rfl (fun _ => by simp [ConfigEditors.failed])
    (fun _ => by simp [ConfigEditors.failed])

theorem Sound.act (sound : Sound pve e) (c : C) (a : Act) :
    Sound pve (act pve script c e a).1 := by
  cases a with
  | setValue key value label => exact ⟨sound.original, sound.digest, sound.sent, sound.fetched⟩
  | discard =>
      cases stage : e.stage with
      | some st =>
          simp only [ConfigEditors.act, discard, stage]
          exact sound
      | none =>
          simp only [ConfigEditors.act, discard, stage]
          exact sound.quiet rfl rfl (by simp) (by simp)
  | apply =>
      cases stage : e.stage with
      | some st =>
          simp only [ConfigEditors.act, apply, stage]
          exact sound
      | none =>
          simp only [ConfigEditors.act, apply, stage]
          split_ifs
          · exact sound
          · refine ⟨sound.original, sound.digest, ?_, fun _ fetched => (by cases fetched)⟩
            rintro req sent
            cases sent
            exact ⟨rfl, rfl⟩
  | serve refusal order =>
      simp only [ConfigEditors.act]
      split
      · split <;> exact sound.quiet rfl rfl (by simp) (by simp)
      · exact sound
  | answer lost =>
      simp only [ConfigEditors.act]
      split
      · rename_i err _
        cases answer : lost.or err with
        | some message => exact sound.failed message
        | none => exact sound.quiet rfl rfl (by simp [updated]) (by simp [updated])
      · exact sound
  | fetch failure =>
      simp only [ConfigEditors.act]
      split
      · refine ⟨sound.original, sound.digest, fun _ sent => (by cases sent), ?_⟩
        rintro config fetched
        cases fetched
        exact ⟨c, rfl⟩
      · exact sound.quiet rfl rfl (by simp) (by simp)
      · exact sound
  | refresh =>
      simp only [ConfigEditors.act]
      split
      · rename_i newConfig stage
        cases newConfig with
        | error message => exact sound.failed message
        | ok config =>
            exact ⟨sound.fetched config stage, rfl, fun _ sent => (by cases sent),
              fun _ fetched => (by cases fetched)⟩
      · exact sound

theorem sound_states (c : C) (es : List (Event C)) :
    ∀ w ∈ states (step pve script) (start c) es, Everywhere (Read pve) (Sound pve) w := by
  refine invariant_states ?_ ⟨fun _ _ found => (by cases found), fun _ _ found => (by cases found)⟩
  intro w event all
  refine (everywhere_step_iff ⟨w.config, rfl⟩ (fun _ => sound_useConfigEditor) all event).mpr ?_
  cases event with
  | act i a => exact fun e tab => (all.editing i e tab).act script w.config a
  | written c => trivial
  | load i => trivial
  | mount i => trivial

/-- An update that PVE takes was made on the configuration that PVE has: whatever is overwritten
was on display, however many editors and others write at the same time; and of that only what
the request changes is sent. -/
theorem no_lost_update (lawful : pve.Lawful) (c : C) (es : List (Event C)) :
    ∀ w ∈ states (step pve script) (start c) es, ∀ i e req,
      w.tabs i = some (.editing e) → e.stage = some (.updating req) →
        (changesOf req).lookup "digest" = none →
          ∀ refusal order c', serve pve refusal order w.config req = .ok c' →
            pve.get w.config = e.originalConfig ∧
              ∃ form, pve.put w.config form = .ok c' ∧ ∀ key, form.lookup key =
                if key = "digest" then some (digestOf e.originalConfig)
                else ((changesOf req).lookup key).map sprint := by
  intro w member i e req tab stage other refusal order c' served
  have sound : Sound pve e := (sound_states script c es w member).editing i e tab
  obtain ⟨digest, delete⟩ := sound.sent req stage
  have form (key : String) : (configForm order req).lookup key =
      if key = "digest" then some (digestOf e.originalConfig)
      else ((changesOf req).lookup key).map sprint := by
    rw [lookup_configForm, if_neg (fun both => both.1 delete)]
    by_cases own : key = "digest"
    · subst own
      rw [other, if_pos rfl, if_pos rfl, digest, sound.digest]
      rfl
    · rw [if_neg own, if_neg own, Option.or_none]
  cases refusal with
  | some err => cases served
  | none =>
      simp only [serve, updateConfig] at served
      split_ifs at served with empty
      have put : pve.put w.config (configForm order req) = .ok c' := by
        cases answer : pve.put w.config (configForm order req) with
        | ok taken =>
            rw [answer] at served
            exact served
        | error err =>
            rw [answer] at served
            simp only at served
            split_ifs at served
      refine ⟨?_, _, put, form⟩
      obtain ⟨read, original⟩ := sound.original
      have same : digestOf (pve.get read) = digestOf (pve.get w.config) := by
        have found := form "digest"
        rw [if_pos rfl, original] at found
        refine lawful.checked w.config _ _ c' found ?_ put
        rwa [← original, ← sound.digest, ← digest]
      rw [original, lawful.distinct read w.config same]

/-- A guest that has nothing but a name, which serves as its digest too. -/
def named : Pve String where
  get name := ((∅ : Config).insert "digest" (.str name)).insert "name" (.str name)
  put name form :=
    if form.lookup "digest" = some name then .ok ((form.lookup "name").getD name)
    else .error "API error 412: detected modified configuration"

theorem lawful_named : named.Lawful := by
  have own (name : String) : digestOf (named.get name) = name := by
    have found : (named.get name).lookup "digest" = some (.str name) := by
      simp only [named, lookup_insert_eq]
      rfl
    simp only [digestOf, found]
  constructor
  · intro name name' same
    rwa [own, own] at same
  · intro name form d name' digest _ put
    rw [own]
    simp only [named] at put
    split_ifs at put with equal
    exact Option.some.inj (digest.symm.trans equal)

theorem no_lost_update_renamed :
    named.get "web" = (useConfigEditor (named.get "web")).originalConfig ∧
      ∃ form, named.put "web" form = .ok "db" ∧ ∀ key, form.lookup key =
        if key = "digest" then some (digestOf (named.get "web"))
        else ((changesOf ⟨"web", [("name", .str "db")], []⟩).lookup key).map sprint :=
  no_lost_update ⟨fun _ _ => none, fun _ _ => false⟩ lawful_named "web"
    [.load 0, .mount 0, .act 0 (.setValue "name" (.str "db") none), .act 0 .apply] _
    (last_mem_states _ _) 0
    { useConfigEditor (named.get "web") with
      changes := (∅ : Map String Change).insert "name" ⟨.str "db", "name"⟩
      stage := some (.updating ⟨"web", [("name", .str "db")], []⟩) }
    ⟨"web", [("name", .str "db")], []⟩ rfl rfl rfl none .asGiven "db" (by decide +kernel)

end Locking

section Saving

variable {C : Type} {pve : Pve C} {script : Script} {e : Editor}

/-- An update is under way that has not been refused, as yet or at all. -/
def Saving (e : Editor) (req : ConfigUpdateRequest) : Prop :=
  e.stage = some (.updating req) ∨ e.stage = some (.answered req none)

/-- In this state a success of the update would clear what the update says and nothing else. -/
def Kept (e : Editor) : Prop :=
  ∀ req, Saving e req → ∀ key, (e.changes.lookup key).map (·.value) = (changesOf req).lookup key

/-- The value of an edit is pending already, or the original's while nothing is pending. -/
def Repeats (script : Script) (e : Editor) (key : String) (value : Json) : Prop :=
  (e.changes.lookup key).map (·.value) =
    if script.same value (getOriginalValue script e key) then none else some value

/-- Meanwhile the user edits nothing. -/
def CalmAct (script : Script) (e : Editor) : Act → Prop
  | .setValue key value _ => ∀ req, Saving e req → Repeats script e key value
  | _ => True

def Calm (script : Script) (w : World C) : Event C → Prop
  | .act i a => ∀ e, w.tabs i = some (.editing e) → CalmAct script e a
  | _ => True

theorem lookup_changesObj (digest : String) (changes : Map String Change) (key : String) :
    (changesOf ⟨digest, changesObj changes, []⟩).lookup key =
      (changes.lookup key).map (·.value) := by
  have copied := lookup_copy .asGiven changes (∅ : Map String Json) (·.value) key
  rw [AList.lookup_empty, Option.or_none] at copied
  rw [← copied, changesOf, written, changesObj, List.foldl_map]
  rfl

theorem lookup_setValue (key : String) (value : Json) (label : Option String) (k : String) :
    ((setValue script e key value label).changes.lookup k).map (·.value) =
      if k = key then
        if script.same value (getOriginalValue script e key) then none else some value
      else (e.changes.lookup k).map (·.value) := by
  by_cases original : script.same value (getOriginalValue script e key) = true
  · by_cases here : k = key
    · subst here
      simp [setValue, original]
    · simp [setValue, original, here]
  · by_cases here : k = key
    · subst here
      simp [setValue, original]
    · simp [setValue, original, here]

theorem kept_of_not_saving (free : ∀ req, ¬ Saving e req) : Kept e :=
  fun req saving => absurd saving (free req)

theorem kept_failed (message : String) : Kept (failed e message) :=
  kept_of_not_saving fun req => by simp [Saving, failed]

theorem kept_setValue_iff (kept : Kept e) (key : String) (value : Json) (label : Option String) :
    Kept (setValue script e key value label) ↔
      ∀ req, Saving e req → Repeats script e key value := by
  constructor
  · intro still req saving
    have now := still req saving key
    rw [lookup_setValue, if_pos rfl, ← kept req saving key] at now
    exact now.symm
  · intro calm req saving k
    rw [lookup_setValue]
    split_ifs with here original
    · subst here
      have repeats := calm req saving
      rw [Repeats, if_pos original, kept req saving k] at repeats
      exact repeats.symm
    · subst here
      have repeats := calm req saving
      rw [Repeats, if_neg original, kept req saving k] at repeats
      exact repeats.symm
    · exact kept req saving k

theorem kept_apply (kept : Kept e) : Kept (apply e) := by
  cases stage : e.stage with
  | some st =>
      simp only [apply, stage]
      exact kept
  | none =>
      simp only [apply, stage]
      split_ifs
      · exact kept
      · rintro req (sent | later) key
        · cases sent
          exact (lookup_changesObj _ _ key).symm
        · cases later

theorem kept_serve (kept : Kept e) (c : C) (refusal : Option String)
    (order : Order (Sigma fun _ : String => Json)) :
    Kept (act pve script c e (.serve refusal order)).1 := by
  simp only [act]
  split
  · rename_i req stage
    split
    · rintro req' (later | taken) key
      · cases later
      · cases taken
        exact kept req (.inl stage) key
    · exact kept_of_not_saving fun req' => by simp [Saving]
  · exact kept

theorem kept_act_iff (kept : Kept e) (c : C) (a : Act) :
    Kept (act pve script c e a).1 ↔ CalmAct script e a := by
  cases a with
  | setValue key value label => exact kept_setValue_iff kept key value label
  | discard =>
      refine iff_of_true ?_ trivial
      cases stage : e.stage with
      | some st =>
          simp only [act, discard, stage]
          exact kept
      | none =>
          simp only [act, discard, stage]
          exact kept_of_not_saving fun req => by simp [Saving]
  | apply => exact iff_of_true (kept_apply kept) trivial
  | serve refusal order => exact iff_of_true (kept_serve kept c refusal order) trivial
  | answer lost =>
      refine iff_of_true ?_ trivial
      simp only [act]
      split
      · rename_i err _
        cases answer : lost.or err with
        | some message => exact kept_failed message
        | none => exact kept_of_not_saving fun req => by simp [Saving, updated]
      · exact kept
  | fetch failure =>
      refine iff_of_true ?_ trivial
      simp only [act]
      split
      · exact kept_of_not_saving fun req => by simp [Saving]
      · exact kept_of_not_saving fun req => by simp [Saving]
      · exact kept
  | refresh =>
      refine iff_of_true ?_ trivial
      simp only [act]
      split
      · rename_i newConfig stage
        cases newConfig with
        | error message => exact kept_failed message
        | ok config => exact kept_of_not_saving fun req => by simp [Saving, refreshed]
      · exact kept

/-- In every state a success would clear saved edits only, iff nobody edits while an update of
theirs is under way and not refused: the fields stay enabled then, unlike the buttons. -/
theorem edits_kept_iff (c : C) (es : List (Event C)) :
    (∀ w ∈ states (step pve script) (start c) es, ∀ i e,
        w.tabs i = some (.editing e) → Kept e) ↔
      Along (step pve script) (Calm script) (start c) es := by
  have decides (w : World C) (event : Event C) (_ : event ∈ es)
      (all : Everywhere (fun _ => True) Kept w) :
      Everywhere (fun _ => True) Kept (step pve script w event) ↔ Calm script w event := by
    rw [everywhere_step_iff trivial
      (fun _ _ => kept_of_not_saving fun req => by simp [Saving, useConfigEditor]) all event]
    cases event with
    | act i a =>
        exact forall_congr' fun e => forall_congr' fun tab =>
          kept_act_iff (all.editing i e tab) w.config a
    | written c => exact Iff.rfl
    | load i => exact Iff.rfl
    | mount i => exact Iff.rfl
  rw [← invariant_iff_along decides
    ⟨fun _ _ _ => trivial, fun _ _ found => (by cases found)⟩]
  exact forall₂_congr fun w _ => ⟨fun all => ⟨fun _ _ _ => trivial, all⟩, fun all => all.editing⟩

end Saving

end ConfigEditors
