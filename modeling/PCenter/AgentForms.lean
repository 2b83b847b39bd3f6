import PCenter.Executor
import PCenter.Lib.MapOrder

/-!
# Form bodies of both clients

The agent joins the parameters of a request with `=` and `&` as they are, in the order in which Go
visits the map. The backend's client encodes them with `url.Values`.
-/

namespace AgentForms

open FiniteMap Form GuestTasks

section Clients

/-- The parameters of a map, visited in some order. -/
def paramsOf (order : Order (Sigma fun _ : String => String)) (m : Map String String) :
    List Pair :=
  (order.arrange m.entries).map fun e => param e.1 e.2

/-- `put` of the backend's client -/
def put (path : String) (params : List Pair) : ApiCall := ⟨.put, path, encodeForm params⟩

/-- The agent's body is read as the map, each key once, like the client's. -/
structure Means (m : Map String String) (agentCall clientCall : ApiCall) : Prop where
  read : (decodeForm agentCall.body).Perm (m.entries.map fun e => param e.1 e.2)
  once : ((decodeForm agentCall.body).map (·.1)).Nodup
  same : (decodeForm agentCall.body).Perm (decodeForm clientCall.body)

/-- Both ways to send a map mean it, in whatever order it is visited. -/
structure Meant (m : Map String String) (path : String)
    (order order' : Order (Sigma fun _ : String => String)) : Prop where
  post : Means m (Executor.postWithParams path (paramsOf order m))
    (GuestTasks.post path (paramsOf order' m))
  put : Means m (Executor.putWithParams path (paramsOf order m)) (put path (paramsOf order' m))

/-- Nothing in the text has a meaning in a form: no `&`, no plus sign and no escape. -/
structure Inert (text : String) : Prop where
  ampersand : ampersand ∉ utf8 text
  literal : Literal (utf8 text)

end Clients

section Means

variable {m : Map String String} (order order' : Order (Sigma fun _ : String => String))

theorem paramsOf_perm : (paramsOf order m).Perm (m.entries.map fun e => param e.1 e.2) :=
  (order.perm m.entries).map _

theorem mem_paramsOf {p : Pair} :
    p ∈ paramsOf order m ↔ ∃ key value, m.lookup key = some value ∧ p = param key value := by
  rw [(paramsOf_perm order).mem_iff, List.mem_map]
  constructor
  · rintro ⟨⟨key, value⟩, listed, rfl⟩
    exact ⟨key, value, AList.mem_lookup_iff.mpr listed, rfl⟩
  · rintro ⟨key, value, found, rfl⟩
    exact ⟨⟨key, value⟩, AList.mem_lookup_iff.mp found, rfl⟩

theorem nodup_params : ((m.entries.map fun e => param e.1 e.2).map (·.1)).Nodup := by
  have keys : (m.entries.map fun e => param e.1 e.2).map (·.1) = m.keys.map utf8 := by
    rw [List.map_map, AList.keys, List.keys, List.map_map]
    rfl
  rw [keys]
  exact m.keys_nodup.map fun _ _ same => utf8_injective same

theorem inert_iff {text : String} : Inert text ↔ SafeValue (utf8 text) := by
  constructor
  · intro inert
    exact ⟨inert.ampersand, unescape_eq_iff.mpr inert.literal⟩
  · rintro ⟨whole, read⟩
    exact ⟨whole, unescape_eq_iff.mp read⟩

/-- A body that is joined from the map means it exactly when no key and no value needs escaping. -/
theorem means_iff {agentCall clientCall : ApiCall}
    (joined : agentCall.body = rawForm (paramsOf order m))
    (encoded : clientCall.body = encodeForm (paramsOf order' m)) :
    Means m agentCall clientCall ↔
      ∀ key value, m.lookup key = some value →
        Inert key ∧ equals ∉ utf8 key ∧ Inert value := by
  have client : (decodeForm clientCall.body).Perm (m.entries.map fun e => param e.1 e.2) := by
    rw [encoded]
    exact (decodeForm_encodeForm_perm _).trans (paramsOf_perm order')
  have exact_iff : (decodeForm agentCall.body).Perm (m.entries.map fun e => param e.1 e.2) ↔
      ∀ p ∈ paramsOf order m, PlainKey p.1 ∧ SafeValue p.2 := by
    rw [joined, ← decodeForm_rawForm_perm_self_iff]
    exact ((paramsOf_perm order).congr_right _).symm
  have inert : (∀ p ∈ paramsOf order m, PlainKey p.1 ∧ SafeValue p.2) ↔
      ∀ key value, m.lookup key = some value → Inert key ∧ equals ∉ utf8 key ∧ Inert value := by
    simp only [mem_paramsOf, inert_iff]
    constructor
    · intro plain key value found
      obtain ⟨⟨whole, apart, read⟩, safe⟩ := plain (param key value) ⟨key, value, found, rfl⟩
      exact ⟨⟨whole, read⟩, apart, safe⟩
    · rintro inert p ⟨key, value, found, rfl⟩
      obtain ⟨⟨whole, read⟩, apart, safe⟩ := inert key value found
      exact ⟨⟨whole, apart, read⟩, safe⟩
  rw [← inert, ← exact_iff]
  constructor
  · intro means
    exact means.read
  · intro read
    exact ⟨read, (read.map _).nodup_iff.mpr nodup_params, read.trans client.symm⟩

/-- Both requests of the agent mean the map they were given exactly when nothing in it has a
meaning in a form. -/
theorem meant_iff (m : Map String String) (path : String)
    (order order' : Order (Sigma fun _ : String => String)) :
    Meant m path order order' ↔
      ∀ key value, m.lookup key = some value →
        Inert key ∧ equals ∉ utf8 key ∧ Inert value := by
  have post := @means_iff m order order'
    (Executor.postWithParams path (paramsOf order m)) (GuestTasks.post path (paramsOf order' m))
    rfl rfl
  have put := @means_iff m order order'
    (Executor.putWithParams path (paramsOf order m)) (put path (paramsOf order' m)) rfl rfl
  constructor
  · intro meant
    exact post.mp meant.post
  · intro inert
    exact ⟨post.mpr inert, put.mpr inert⟩

/-- A description adds a parameter. -/
theorem description_adds_vmstate :
    ¬ Meant ((∅ : Map String String).insert "description" "before&vmstate=1")
      "/nodes/pve1/qemu/100/snapshot" .asGiven .asGiven := by
  intro meant
  have lengths := meant.post.read.length_eq
  exact absurd lengths (by decide)

end Means

end AgentForms
