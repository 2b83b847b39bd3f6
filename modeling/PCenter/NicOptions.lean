import PCenter.AgentClient

/-!
# What a `netN` value says

The value of a `netN` entry is a comma-separated list of options, each a setting or a
bare word. A reading of such a value names, for every field of the NIC, the options
that set it; the last one that does decides. The parser of the backend's client and
the two parsers of the agent are each such a reading, and this module says which.
-/

namespace NicOptions

open GoJson GoText
open PveClient (netKeyRe nicModels)
open AgentClient (netKeys)

inductive NicOption where
  | setting (key value : String)
  | word (text : String)
  deriving DecidableEq, Repr

def nicOption (part : String) : NicOption :=
  match cut '=' part with
  | (key, some value) => .setting key value
  | (_, none) => .word part

def nicOptions (value : String) : List NicOption := (split ',' value).map nicOption

/-- The options that set each field of a NIC, with the value they set it to. -/
structure Reading where
  bridge : NicOption → Option String
  mac : NicOption → Option String
  model : NicOption → Option String
  tag : NicOption → Option Int64

/-- The last option that sets a field decides. -/
def lastOf {V : Type} (pick : NicOption → Option V) (start : V) (options : List NicOption) : V :=
  ((options.filterMap pick).getLast?).getD start

def Reading.nic (r : Reading) (key value : String) : Pve.GuestNIC where
  name := key
  bridge := lastOf r.bridge "" (nicOptions value)
  mac := lastOf r.mac "" (nicOptions value)
  model := lastOf r.model "" (nicOptions value)
  tag := lastOf r.tag 0 (nicOptions value)

/-- The backend's reading: everything after the first `=` is the value, a bare word
without a colon is a model, and a tag has to be a number as a whole. -/
def pollerReading : Reading where
  bridge
    | .setting key value => if key = "bridge" then some value else none
    | .word _ => none
  mac
    | .setting key value => if key = "hwaddr" ∨ key ∈ nicModels then some value else none
    | .word _ => none
  model
    | .setting key _ => if key ∈ nicModels then some key else none
    | .word text => if contains ':' text then none else some text
  tag
    | .setting key value => if key = "tag" then atoi value else none
    | .word _ => none

/-- The settings the agent does not pass over: those without a second `=`. -/
def plain (value : String) : Prop := contains '=' value = false

instance (value : String) : Decidable (plain value) := by
  unfold plain
  infer_instance

/-- The agent's reading of a VM's NIC: only the four models count, and a tag is read as
far as it is a number. -/
def agentVMReading : Reading where
  bridge
    | .setting key value => if key = "bridge" ∧ plain value then some value else none
    | .word _ => none
  mac
    | .setting key value => if key ∈ nicModels ∧ plain value then some value else none
    | .word _ => none
  model
    | .setting key value => if key ∈ nicModels ∧ plain value then some key else none
    | .word text => if text ∈ nicModels then some text else none
  tag
    | .setting key value => if key = "tag" ∧ plain value then sscanfInt value else none
    | .word _ => none

/-- The agent's reading of a container's NIC, which has no model. -/
def agentCTReading : Reading where
  bridge
    | .setting key value => if key = "bridge" ∧ plain value then some value else none
    | .word _ => none
  mac
    | .setting key value => if key = "hwaddr" ∧ plain value then some value else none
    | .word _ => none
  model _ := none
  tag
    | .setting key value => if key = "tag" ∧ plain value then sscanfInt value else none
    | .word _ => none

/-- The update one option makes under a reading. -/
def Reading.step (r : Reading) (nic : Pve.GuestNIC) (option : NicOption) : Pve.GuestNIC where
  name := nic.name
  bridge := (r.bridge option).getD nic.bridge
  mac := (r.mac option).getD nic.mac
  model := (r.model option).getD nic.model
  tag := (r.tag option).getD nic.tag

theorem foldl_getD {V : Type} (pick : NicOption → Option V) (start : V)
    (options : List NicOption) :
    options.foldl (fun v option => (pick option).getD v) start = lastOf pick start options := by
  unfold lastOf
  induction options using List.reverseRecOn with
  | nil => rfl
  | append_singleton front last ih =>
      rw [List.foldl_append, ih, List.filterMap_append]
      cases set : pick last with
      | none => simp [set]
      | some v => simp [set]

theorem foldl_step (r : Reading) (nic : Pve.GuestNIC) (options : List NicOption) :
    options.foldl r.step nic =
      { name := nic.name
        bridge := lastOf r.bridge nic.bridge options
        mac := lastOf r.mac nic.mac options
        model := lastOf r.model nic.model options
        tag := lastOf r.tag nic.tag options } := by
  simp only [← foldl_getD]
  induction options generalizing nic with
  | nil => rfl
  | cons option rest ih => rw [List.foldl_cons, ih]; rfl

/-- A fold over the parts of a value is a reading as soon as each of its steps is. -/
theorem foldl_parts (r : Reading) {N : Type} (view : N → Pve.GuestNIC)
    (step : N → String → N)
    (same : ∀ nic part, view (step nic part) = r.step (view nic) (nicOption part))
    (start : N) (value : String) :
    view ((split ',' value).foldl step start) = (nicOptions value).foldl r.step (view start) := by
  unfold nicOptions
  generalize split ',' value = parts
  induction parts generalizing start with
  | nil => rfl
  | cons part rest ih =>
      rw [List.foldl_cons, ih, same]
      rfl

theorem applyPart_eq (nic : Pve.GuestNIC) (part : String) :
    PveClient.applyPart nic part = pollerReading.step nic (nicOption part) := by
  unfold PveClient.applyPart nicOption Reading.step pollerReading
  rcases cut '=' part with ⟨key, _ | value⟩
  · cases colon : contains ':' part with
    | true => simp [colon]
    | false => simp [colon]
  · by_cases bridge : key = "bridge"
    · subst bridge
      simp [nicModels]
    by_cases hwaddr : key = "hwaddr"
    · subst hwaddr
      simp [nicModels]
    by_cases tag : key = "tag"
    · subst tag
      cases number : atoi value with
      | none => simp [nicModels, number]
      | some n => simp [nicModels, number]
    by_cases name : key = "name"
    · subst name
      simp [nicModels]
    by_cases model : key ∈ nicModels
    · simp [bridge, hwaddr, tag, name, model]
    · simp [bridge, hwaddr, tag, name, model]

/-- What the agent's `splitKV` gives for the three kinds of parts. -/
theorem splitKV_cases (part : String) :
    (nicOption part = .word part ∧ split '=' part = [part]) ∨
      (∃ key value, nicOption part = .setting key value ∧ plain value ∧
        split '=' part = [key, value]) ∨
      (∃ key value, nicOption part = .setting key value ∧ ¬ plain value ∧
        ∃ a b c rest, split '=' part = a :: b :: c :: rest) := by
  have parts := split_eq_cut '=' part
  unfold nicOption
  cases tail : (cut '=' part).2 with
  | none =>
      have whole : (cut '=' part).1 = part := cut_fst_of_none tail
      rw [tail, whole] at parts
      have shape : cut '=' part = (part, none) := Prod.ext whole tail
      exact Or.inl ⟨by rw [shape], parts⟩
  | some value =>
      have shape : cut '=' part = ((cut '=' part).1, some value) := Prod.ext rfl tail
      replace parts : split '=' part = (cut '=' part).1 :: split '=' value := by
        rw [parts, tail]
      refine Or.inr ?_
      cases second : contains '=' value with
      | false =>
          rw [split_of_not_contains second] at parts
          exact Or.inl ⟨_, value, by rw [shape], second, parts⟩
      | true =>
          obtain ⟨b, c, rest, more⟩ := split_of_contains second
          rw [more] at parts
          refine Or.inr ⟨_, value, by rw [shape], ?_, _, b, c, rest, parts⟩
          simp [plain, second]

theorem applyVMPart_eq (nic : AgentWire.GuestNIC) (part : String) :
    AgentHub.convertNIC (AgentClient.applyVMPart nic part) =
      agentVMReading.step (AgentHub.convertNIC nic) (nicOption part) := by
  unfold AgentClient.applyVMPart AgentHub.convertNIC Reading.step agentVMReading
  rcases splitKV_cases part with
    ⟨option, parts⟩ | ⟨key, value, option, single, parts⟩ |
    ⟨key, value, option, double, a, b, c, rest, parts⟩
  · rw [option, parts]
    by_cases model : part ∈ nicModels
    · simp [model]
    · simp [model]
  · rw [option, parts]
    by_cases bridge : key = "bridge"
    · subst bridge
      simp [nicModels, single]
    by_cases tag : key = "tag"
    · subst tag
      cases number : sscanfInt value with
      | none => simp [nicModels, single, number]
      | some n => simp [nicModels, single, number]
    by_cases model : key ∈ nicModels
    · simp [bridge, tag, model, single]
    · simp [bridge, tag, model]
  · rw [option, parts]
    simp [double]

theorem applyCTPart_eq (nic : AgentWire.GuestNIC) (part : String) :
    AgentHub.convertNIC (AgentClient.applyCTPart nic part) =
      agentCTReading.step (AgentHub.convertNIC nic) (nicOption part) := by
  unfold AgentClient.applyCTPart AgentHub.convertNIC Reading.step agentCTReading
  rcases splitKV_cases part with
    ⟨option, parts⟩ | ⟨key, value, option, single, parts⟩ |
    ⟨key, value, option, double, a, b, c, rest, parts⟩
  · rw [option, parts]
    simp
  · rw [option, parts]
    by_cases bridge : key = "bridge"
    · subst bridge
      simp [single]
    by_cases hwaddr : key = "hwaddr"
    · subst hwaddr
      simp [single]
    by_cases tag : key = "tag"
    · subst tag
      cases number : sscanfInt value with
      | none => simp [single, number]
      | some n => simp [single, number]
    · simp [bridge, hwaddr, tag]
  · rw [option, parts]
    simp [double]

theorem parseNIC_eq (key value : String) :
    PveClient.parseNIC key value = pollerReading.nic key value := by
  have read := foldl_parts pollerReading id PveClient.applyPart applyPart_eq
    { (default : Pve.GuestNIC) with name := key } value
  rw [foldl_step] at read
  exact read

theorem parseVMNetConfig_eq (key value : String) :
    AgentHub.convertNIC (AgentClient.parseVMNetConfig key value) =
      agentVMReading.nic key value := by
  have read := foldl_parts agentVMReading AgentHub.convertNIC AgentClient.applyVMPart
    applyVMPart_eq { (default : AgentWire.GuestNIC) with name := key } value
  rw [foldl_step] at read
  exact read

theorem parseCTNetConfig_eq (key value : String) :
    AgentHub.convertNIC (AgentClient.parseCTNetConfig key value) =
      agentCTReading.nic key value := by
  have read := foldl_parts agentCTReading AgentHub.convertNIC AgentClient.applyCTPart
    applyCTPart_eq { (default : AgentWire.GuestNIC) with name := key } value
  rw [foldl_step] at read
  exact read

section Configurations

/-- Every name occurs once, as in any JSON object that was decoded into a map. -/
def Distinct (cfg : Fields) : Prop := (cfg.map Prod.fst).Nodup

instance (cfg : Fields) : Decidable (Distinct cfg) :=
  inferInstanceAs (Decidable (cfg.map Prod.fst).Nodup)

theorem field_eq_str_iff {cfg : Fields} (distinct : Distinct cfg) {key value : String} :
    field cfg key = .str value ↔ (key, Json.str value) ∈ cfg := by
  unfold field
  induction cfg with
  | nil => simp
  | cons entry rest ih =>
      obtain ⟨name, content⟩ := entry
      have parts : name ∉ rest.map Prod.fst ∧ Distinct rest := by
        simpa [Distinct] using distinct
      by_cases here : key = name
      · subst here
        have elsewhere : (key, Json.str value) ∉ rest := fun member =>
          parts.1 (List.mem_map.mpr ⟨_, member, rfl⟩)
        simp [elsewhere, eq_comm]
      · have unequal : (key == name) = false := by simpa using here
        simp only [List.lookup_cons, unequal, List.mem_cons, Prod.mk.injEq, here, false_and,
          false_or]
        exact ih parts.2

/-- The configuration has an entry under the NIC's name that the backend reads as it. -/
def PollerSees (cfg : Fields) (nic : Pve.GuestNIC) : Prop :=
  ∃ value, (nic.name, Json.str value) ∈ cfg ∧ netKeyRe nic.name = true ∧
    nic = pollerReading.nic nic.name value ∧ nic.bridge ≠ ""

/-- The same for the agent, which looks at ten names only. -/
def AgentSees (agent : Reading) (cfg : Fields) (nic : Pve.GuestNIC) : Prop :=
  ∃ value, (nic.name, Json.str value) ∈ cfg ∧ nic.name ∈ netKeys ∧
    nic = agent.nic nic.name value ∧ nic.bridge ≠ ""

theorem mem_parseNICsFromConfig {cfg : Fields} {nic : Pve.GuestNIC} :
    nic ∈ PveClient.parseNICsFromConfig cfg ↔ PollerSees cfg nic := by
  unfold PveClient.parseNICsFromConfig PollerSees
  rw [List.mem_filterMap]
  constructor
  · rintro ⟨⟨key, content⟩, member, found⟩
    cases content with
    | str value =>
        by_cases taken : netKeyRe key ∧ (PveClient.parseNIC key value).bridge ≠ ""
        · simp only [if_pos taken, Option.some.injEq] at found
          subst found
          rw [parseNIC_eq] at taken ⊢
          exact ⟨value, member, taken.1, rfl, taken.2⟩
        · simp [if_neg taken] at found
    | _ => simp at found
  · rintro ⟨value, member, named, same, connected⟩
    have taken : netKeyRe nic.name ∧ (PveClient.parseNIC nic.name value).bridge ≠ "" := by
      rw [parseNIC_eq, ← same]
      exact ⟨named, connected⟩
    refine ⟨(nic.name, .str value), member, ?_⟩
    simp only [if_pos taken]
    rw [parseNIC_eq, ← same]

theorem mem_collectNICs {r : Reading} {parse : String → String → AgentWire.GuestNIC}
    (law : ∀ key value, AgentHub.convertNIC (parse key value) = r.nic key value)
    {cfg : Fields} (distinct : Distinct cfg) {nic : Pve.GuestNIC} :
    nic ∈ (AgentClient.collectNICs parse cfg).map AgentHub.convertNIC ↔
      AgentSees r cfg nic := by
  have bridge : ∀ key value, (parse key value).bridge = (r.nic key value).bridge := by
    intro key value
    rw [← law]
    rfl
  rw [List.mem_map]
  unfold AgentClient.collectNICs AgentSees
  constructor
  · rintro ⟨raw, member, rfl⟩
    obtain ⟨key, listed, found⟩ := List.mem_filterMap.mp member
    cases content : field cfg key with
    | str value =>
        rw [content] at found
        by_cases connected : (parse key value).bridge ≠ ""
        · simp only [if_pos connected, Option.some.injEq] at found
          subst found
          rw [law]
          rw [bridge] at connected
          exact ⟨value, (field_eq_str_iff distinct).mp content, listed, rfl, connected⟩
        · simp [if_neg connected] at found
    | _ => simp [content] at found
  · rintro ⟨value, entry, listed, same, connected⟩
    have content := (field_eq_str_iff distinct).mpr entry
    have visible : (parse nic.name value).bridge ≠ "" := by
      rw [bridge, ← same]
      exact connected
    refine ⟨parse nic.name value, List.mem_filterMap.mpr ⟨nic.name, listed, ?_⟩, ?_⟩
    · simp only [content, if_pos visible]
    · rw [law, ← same]

/-- Both readings of a `netN` entry come to the same: an entry the agent looks at is read
alike or has no bridge on either side, any other has no bridge for the backend. -/
def ReadAlike (agent : Reading) (cfg : Fields) : Prop :=
  ∀ key value, (key, Json.str value) ∈ cfg → netKeyRe key = true →
    if key ∈ netKeys then
      pollerReading.nic key value = agent.nic key value ∨
        ((pollerReading.nic key value).bridge = "" ∧ (agent.nic key value).bridge = "")
    else (pollerReading.nic key value).bridge = ""

theorem netKeys_netKeyRe : ∀ key ∈ netKeys, netKeyRe key = true := by decide

/-- Backend and agent see the same NICs exactly when every entry is read alike. -/
theorem seen_iff_readAlike {agent : Reading} {cfg : Fields} (distinct : Distinct cfg) :
    (∀ nic, AgentSees agent cfg nic ↔ PollerSees cfg nic) ↔ ReadAlike agent cfg := by
  constructor
  · intro same key value member named
    have unique : ∀ other, (key, Json.str other) ∈ cfg → other = value := by
      intro other also
      have first := (field_eq_str_iff distinct).mpr also
      rw [(field_eq_str_iff distinct).mpr member] at first
      simpa using first.symm
    have polled : (pollerReading.nic key value).bridge ≠ "" →
        key ∈ netKeys ∧ pollerReading.nic key value = agent.nic key value := by
      intro connected
      obtain ⟨other, also, listed, equal, _⟩ :=
        (same _).mpr ⟨value, member, named, rfl, connected⟩
      have sameValue := unique other also
      subst sameValue
      exact ⟨listed, equal⟩
    by_cases listed : key ∈ netKeys
    · rw [if_pos listed]
      by_cases connected : (pollerReading.nic key value).bridge = ""
      · refine Or.inr ⟨connected, ?_⟩
        by_contra reported
        obtain ⟨other, also, _, equal, _⟩ :=
          (same _).mp ⟨value, member, listed, rfl, reported⟩
        have sameValue := unique other also
        subst sameValue
        exact reported ((congrArg Pve.GuestNIC.bridge equal).trans connected)
      · exact Or.inl (polled connected).2
    · rw [if_neg listed]
      by_contra connected
      exact listed (polled connected).1
  · intro alike nic
    constructor
    · rintro ⟨value, member, listed, equal, connected⟩
      have named := netKeys_netKeyRe _ listed
      have entry := alike nic.name value member named
      rw [if_pos listed, ← equal] at entry
      rcases entry with readSame | ⟨_, apart⟩
      · exact ⟨value, member, named, readSame.symm, connected⟩
      · exact absurd apart connected
    · rintro ⟨value, member, named, equal, connected⟩
      have entry := alike nic.name value member named
      by_cases listed : nic.name ∈ netKeys
      · rw [if_pos listed, ← equal] at entry
        rcases entry with readSame | ⟨apart, _⟩
        · exact ⟨value, member, listed, readSame, connected⟩
        · exact absurd apart connected
      · rw [if_neg listed, ← equal] at entry
        exact absurd entry connected

/-- The NICs recorded for a guest agree: its configuration is read alike, or one side
sees no NIC and so keeps the ones recorded before, which are just what the other sees. -/
def NICsAlike (agent : Reading) (cfg : Fields) (prev : List Pve.GuestNIC) : Prop :=
  ReadAlike agent cfg ∨
    ((∀ nic, ¬ AgentSees agent cfg nic) ∧ ∀ nic, PollerSees cfg nic ↔ nic ∈ prev) ∨
    ((∀ nic, ¬ PollerSees cfg nic) ∧ ∀ nic, AgentSees agent cfg nic ↔ nic ∈ prev)

/-- Two lists of NICs merged with the same previous ones. -/
theorem sameKept_iff (prev : Option (List Pve.GuestNIC)) (a p : List Pve.GuestNIC) :
    (∀ nic, nic ∈ State.keepNICs prev a ↔ nic ∈ State.keepNICs prev p) ↔
      (∀ nic, nic ∈ a ↔ nic ∈ p) ∨ (a = [] ∧ ∀ nic, nic ∈ p ↔ nic ∈ prev.getD []) ∨
        (p = [] ∧ ∀ nic, nic ∈ a ↔ nic ∈ prev.getD []) := by
  rw [State.keepNICs_eq, State.keepNICs_eq]
  by_cases noA : a = []
  · subst noA
    by_cases noP : p = []
    · subst noP
      simp
    · have apart : ¬ ∀ nic, nic ∈ ([] : List Pve.GuestNIC) ↔ nic ∈ p := by
        intro same
        exact noP (List.eq_nil_iff_forall_not_mem.mpr (fun nic member => by
          simpa using (same nic).mpr member))
      rw [if_pos rfl, if_neg noP]
      constructor
      · exact fun same => Or.inr (Or.inl ⟨rfl, fun nic => (same nic).symm⟩)
      · rintro (same | ⟨_, same⟩ | ⟨empty, _⟩)
        · exact absurd same apart
        · exact fun nic => (same nic).symm
        · exact absurd empty noP
  · by_cases noP : p = []
    · subst noP
      have apart : ¬ ∀ nic, nic ∈ a ↔ nic ∈ ([] : List Pve.GuestNIC) := by
        intro same
        exact noA (List.eq_nil_iff_forall_not_mem.mpr (fun nic member => by
          simpa using (same nic).mp member))
      rw [if_neg noA, if_pos rfl]
      constructor
      · exact fun same => Or.inr (Or.inr ⟨rfl, same⟩)
      · rintro (same | ⟨empty, _⟩ | ⟨_, same⟩)
        · exact absurd same apart
        · exact absurd empty noA
        · exact same
    · rw [if_neg noA, if_neg noP]
      simp [noA, noP]

/-- Merged with the NICs recorded before, the two parsers' results agree exactly when the
entries do. -/
theorem kept_iff_nicsAlike {agent : Reading} {parse : String → String → AgentWire.GuestNIC}
    (law : ∀ key value, AgentHub.convertNIC (parse key value) = agent.nic key value)
    {cfg : Fields} (distinct : Distinct cfg) (prev : Option (List Pve.GuestNIC)) :
    (∀ nic,
        nic ∈ State.keepNICs prev
          ((AgentClient.collectNICs parse cfg).map AgentHub.convertNIC) ↔
        nic ∈ State.keepNICs prev (PveClient.parseNICsFromConfig cfg)) ↔
      NICsAlike agent cfg (prev.getD []) := by
  have agentNone : (AgentClient.collectNICs parse cfg).map AgentHub.convertNIC = [] ↔
      ∀ nic, ¬ AgentSees agent cfg nic := by
    rw [List.eq_nil_iff_forall_not_mem]
    exact forall_congr' (fun nic => not_congr (mem_collectNICs law distinct))
  have pollerNone : PveClient.parseNICsFromConfig cfg = [] ↔ ∀ nic, ¬ PollerSees cfg nic := by
    rw [List.eq_nil_iff_forall_not_mem]
    exact forall_congr' (fun nic => not_congr mem_parseNICsFromConfig)
  rw [sameKept_iff, agentNone, pollerNone]
  simp only [mem_collectNICs law distinct, mem_parseNICsFromConfig]
  rw [seen_iff_readAlike distinct]
  rfl

end Configurations

end NicOptions
