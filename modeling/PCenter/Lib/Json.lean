import PCenter.Lib.CaseFold
import PCenter.Lib.Float64
import PCenter.Lib.Traverse

/-!
# Decoding JSON into records

JSON documents as trees, and the rules by which Go's `encoding/json` fills the
fields of a record and writes them back: a field whose name is absent, or whose
value is null, keeps its zero value; any other mismatch between the value and the
type of the field is an error; a field marked `omitempty` is written only when it
is not empty.

A number literal stands for the value it denotes, and a literal without fraction
and exponent is kept apart because only such a literal decodes into an integer.

Two ways of looking a name up are told apart. A member belongs to the field of a record when the
names are the same but for the case of letters; members that repeat a name are decoded one after
the other, each into what the one before has left (`stringField` and its kin, for documents that
anyone can send). A key of a map is looked up as it stands (`field`); so are the names of records
that a program writes and another reads (`readString` and its kin), which stand there once and in
the spelling of the record.
-/

namespace GoJson

inductive Json where
  | null
  | bool (b : Bool)
  | int (n : Int)
  | float (q : Rat)
  | str (s : String)
  | arr (items : List Json)
  | obj (fields : List (String × Json))

abbrev Fields := List (String × Json)

/-- The kind of a value as the decoder's error messages name it. -/
def Json.kind : Json → String
  | .null => "null"
  | .bool _ => "bool"
  | .int _ | .float _ => "number"
  | .str _ => "string"
  | .arr _ => "array"
  | .obj _ => "object"

def mismatch (value : Json) (target : String) : String :=
  "json: cannot unmarshal " ++ value.kind ++ " into Go value of type " ++ target

/-- The value under a name; an absent name reads like null. -/
def field (o : Fields) (name : String) : Json :=
  (o.lookup name).getD .null

section Decoders

def decodeInt : Json → Except String Int64
  | .null => .ok 0
  | .int n =>
      if -2 ^ 63 ≤ n ∧ n < 2 ^ 63 then .ok (Int64.ofInt n)
      else .error (mismatch (.int n) "int")
  | value => .error (mismatch value "int")

def decodeFloat : Json → Except String Rat
  | .null => .ok 0
  | .int n => .ok n
  | .float q => .ok q
  | value => .error (mismatch value "float64")

def decodeBool : Json → Except String Bool
  | .null => .ok false
  | .bool b => .ok b
  | value => .error (mismatch value "bool")

def decodeString : Json → Except String String
  | .null => .ok ""
  | .str s => .ok s
  | value => .error (mismatch value "string")

/-- A record; null leaves every field at its zero value. -/
def decodeObject : Json → Except String Fields
  | .null => .ok []
  | .obj fields => .ok fields
  | value => .error (mismatch value "struct")

variable {A : Type}

/-- A slice is nil after null, and otherwise as long as the array. -/
def decodeSlice (item : Json → Except String A) : Json → Except String (Option (List A))
  | .null => .ok none
  | .arr items => (items.mapM item).map some
  | value => .error (mismatch value "slice")

def decodePointer (target : Json → Except String A) : Json → Except String (Option A)
  | .null => .ok none
  | value => (target value).map some

end Decoders

section Interfaces

/-- An entry of a map; one that stands there is replaced. -/
def put (m : Fields) (key : String) (value : Json) : Fields :=
  m.filter (·.1 ≠ key) ++ [(key, value)]

mutual

/-- A value decoded into an `interface{}`: numbers become floats, and one that is too large for a
float is an error wherever it stands. -/
def decodeInterface : Json → Except String Json
  | .int n =>
      if Float64.inRange n then .ok (.int (Float64.ofInt n))
      else .error (mismatch (.int n) "float64")
  | .float q =>
      if Float64.finite q then .ok (.float (Float64.ofRat q))
      else .error (mismatch (.float q) "float64")
  | .arr items => (decodeItems items).map .arr
  | .obj members => (decodeMembers [] members).map .obj
  | .null => .ok .null
  | .bool b => .ok (.bool b)
  | .str s => .ok (.str s)

def decodeItems : List Json → Except String (List Json)
  | [] => .ok []
  | item :: rest => do
      let item ← decodeInterface item
      let rest ← decodeItems rest
      pure (item :: rest)

/-- The members of an object, put into a map one after the other. -/
def decodeMembers (m : Fields) : List (String × Json) → Except String Fields
  | [] => .ok m
  | (key, value) :: rest => do
      let value ← decodeInterface value
      decodeMembers (put m key value) rest

end

end Interfaces

section Members

/-- The member is one of the field: `encoding/json` looks for the name as it stands, and then
without regard to case. -/
def belongs (key name : String) : Bool := key == name || GoText.equalFold key name

/-- The values that the members of an object have for a field. -/
def values (o : Fields) (name : String) : List Json :=
  (o.filter fun member => belongs member.1 name).map Prod.snd

variable {A : Type}

/-- A member into what its field holds; null leaves that as it is. -/
def assign (decode : Json → Except String A) (held : A) : Json → Except String A
  | .null => .ok held
  | value => decode value

/-- The elements of an array over those that the slice has held. -/
def assignItems (held : List String) : List Json → Except String (List String)
  | [] => .ok []
  | item :: rest => do
      let first ← assign decodeString (held.headD "") item
      let others ← assignItems held.tail rest
      pure (first :: others)

/-- A member into a slice of strings, of which the elements behind the length stay: a longer array
writes over them. -/
def assignSlice (held : List String × Nat) : Json → Except String (List String × Nat)
  | .null | .arr [] => .ok ([], 0)
  | .arr items => (assignItems held.1 items).map fun written =>
      (written ++ held.1.drop written.length, written.length)
  | value => .error (mismatch value "slice")

/-- A member into a map: its entries are added. -/
def assignMap (held : Fields) : Json → Except String Fields
  | .null => .ok []
  | .obj members => decodeMembers held members
  | value => .error (mismatch value "map")

variable (o : Fields) (name : String)

def intField : Except String Int64 := (values o name).foldlM (assign decodeInt) 0

def boolField : Except String Bool := (values o name).foldlM (assign decodeBool) false

def stringField : Except String String := (values o name).foldlM (assign decodeString) ""

def stringsField : Except String (List String) :=
  ((values o name).foldlM assignSlice ([], 0)).map fun held => held.1.take held.2

/-- A field of type `map[string]interface{}` -/
def mapField : Except String Fields := (values o name).foldlM assignMap []

end Members

section Encoders

def encodeInt (n : Int64) : Json := .int n.toInt

variable {A : Type}

def encodeSlice (item : A → Json) : Option (List A) → Json
  | none => .null
  | some items => .arr (items.map item)

def encodePointer (target : A → Json) : Option A → Json
  | none => .null
  | some value => target value

/-- A field that is always written. -/
def emit (name : String) (value : Json) : Fields := [(name, value)]

/-- A field marked `omitempty`. -/
def omitEmpty (empty : Bool) (name : String) (value : Json) : Fields :=
  if empty then [] else [(name, value)]

end Encoders

section Reading

variable (o : Fields) (name : String)

def readInt : Except String Int64 := decodeInt (field o name)

def readFloat : Except String Rat := decodeFloat (field o name)

def readBool : Except String Bool := decodeBool (field o name)

def readString : Except String String := decodeString (field o name)

/-- A slice of records of which only the elements matter. -/
def readList {A : Type} (item : Fields → Except String A) : Except String (List A) :=
  (decodeSlice (fun value => decodeObject value >>= item) (field o name)).map (·.getD [])

def readStrings : Except String (List String) :=
  (decodeSlice decodeString (field o name)).map (·.getD [])

end Reading

section Writing

def putString (name s : String) : Fields := emit name (.str s)

def putInt (name : String) (n : Int64) : Fields := emit name (encodeInt n)

def omitString (name s : String) : Fields := omitEmpty s.isEmpty name (.str s)

def omitInt (name : String) (n : Int64) : Fields := omitEmpty (n == 0) name (encodeInt n)

def omitList {A : Type} (name : String) (item : A → Fields) (items : List A) : Fields :=
  omitEmpty items.isEmpty name (.arr (items.map (fun a => .obj (item a))))

end Writing

section Laws

variable {A B : Type}

@[simp] theorem ok_bind (a : A) (f : A → Except String B) :
    (Except.ok a >>= f) = f a := rfl

@[simp] theorem error_bind (err : String) (f : A → Except String B) :
    (Except.error err >>= f) = .error err := rfl

/-- As a congruence rule this makes `simp` read the fields of a record in order, instead
of rewriting the readings that follow before the current one is done. -/
theorem bind_congr_left {x y : Except String A} {f : A → Except String B} (same : x = y) :
    (x >>= f) = (y >>= f) := by
  rw [same]

@[simp] theorem ok_map (a : A) (f : A → B) :
    (Except.ok a : Except String A).map f = .ok (f a) := rfl

@[simp] theorem field_nil (name : String) : field [] name = .null := rfl

@[simp] theorem field_emit_self (name : String) (value : Json) (rest : Fields) :
    field (emit name value ++ rest) name = value := by
  simp [field, emit]

@[simp] theorem field_emit_other {name other : String} (value : Json) (rest : Fields)
    (different : other ≠ name) :
    field (emit name value ++ rest) other = field rest other := by
  have unequal : (other == name) = false := by simpa using different
  simp [field, emit, List.lookup_cons, unequal]

@[simp] theorem field_omitEmpty_self (empty : Bool) (name : String) (value : Json)
    (rest : Fields) :
    field (omitEmpty empty name value ++ rest) name =
      if empty then field rest name else value := by
  cases empty <;> simp [field, omitEmpty]

@[simp] theorem field_omitEmpty_other {name other : String} (empty : Bool) (value : Json)
    (rest : Fields) (different : other ≠ name) :
    field (omitEmpty empty name value ++ rest) other = field rest other := by
  have unequal : (other == name) = false := by simpa using different
  cases empty <;> simp [field, omitEmpty, List.lookup_cons, unequal]

@[simp] theorem decodeInt_encodeInt (n : Int64) : decodeInt (encodeInt n) = .ok n := by
  have bounds : -2 ^ 63 ≤ n.toInt ∧ n.toInt < 2 ^ 63 := ⟨n.le_toInt, n.toInt_lt⟩
  simp only [decodeInt, encodeInt, if_pos bounds, Int64.ofInt_toInt]

@[simp] theorem decodeFloat_float (q : Rat) : decodeFloat (.float q) = .ok q := rfl

@[simp] theorem decodeBool_bool (b : Bool) : decodeBool (.bool b) = .ok b := rfl

@[simp] theorem decodeString_str (s : String) : decodeString (.str s) = .ok s := rfl

@[simp] theorem decodeObject_obj (o : Fields) : decodeObject (.obj o) = .ok o := rfl

theorem decodeSlice_arr (item : Json → Except String A) (items : List Json) :
    decodeSlice item (.arr items) = (items.mapM item).map some := rfl

theorem mapM_decode {encode : A → Json} {decode : Json → Except String A}
    (law : ∀ a, decode (encode a) = .ok a) (items : List A) :
    (items.map encode).mapM decode = .ok items := by
  have read : (items.map encode).mapM decode = .ok (items.map id) :=
    Traverse.mapM_map_ok (fun a _ => law a)
  rwa [List.map_id] at read

/-- One item that is not read spoils the list. -/
theorem mapM_error {decode : Json → Except String A} {items : List Json} {bad : Json}
    (listed : bad ∈ items) {err : String} (refused : decode bad = .error err) :
    ∃ first, items.mapM decode = .error first := by
  induction items with
  | nil => simp at listed
  | cons item rest ih =>
      cases head : decode item with
      | error first => exact ⟨first, by rw [List.mapM_cons, head]; rfl⟩
      | ok a =>
          rcases List.mem_cons.mp listed with rfl | later
          · rw [refused] at head
            cases head
          · obtain ⟨first, tail⟩ := ih later
            exact ⟨first, by rw [List.mapM_cons, head, tail]; rfl⟩

/-- A slice keeps the difference between nil and empty. -/
theorem decodeSlice_encodeSlice {encode : A → Json} {decode : Json → Except String A}
    (law : ∀ a, decode (encode a) = .ok a) (items : Option (List A)) :
    decodeSlice decode (encodeSlice encode items) = .ok items := by
  cases items with
  | none => rfl
  | some items => simp [encodeSlice, decodeSlice, mapM_decode law]

section Records

/-! A record is written field by field and read name by name. After unfolding `putString`
and its kin, every reading meets one of the following shapes. -/

@[simp] theorem field_emit_last (name : String) (value : Json) :
    field (emit name value) name = value := by
  simpa using field_emit_self name value []

@[simp] theorem field_emit_last_other {name other : String} (value : Json)
    (different : other ≠ name) : field (emit name value) other = .null := by
  simpa using field_emit_other value [] different

@[simp] theorem field_omitEmpty_last (empty : Bool) (name : String) (value : Json) :
    field (omitEmpty empty name value) name = if empty then .null else value := by
  simpa using field_omitEmpty_self empty name value []

@[simp] theorem field_omitEmpty_last_other {name other : String} (empty : Bool)
    (value : Json) (different : other ≠ name) :
    field (omitEmpty empty name value) other = .null := by
  simpa using field_omitEmpty_other empty value [] different

/-- An omitted empty string comes back as the empty string. -/
@[simp] theorem decodeString_omitted (s : String) :
    decodeString (if s = "" then .null else .str s) = .ok s := by
  by_cases empty : s = ""
  · subst empty
    rfl
  · simp [empty]

@[simp] theorem decodeInt_omitted (n : Int64) :
    decodeInt (if n = 0 then .null else encodeInt n) = .ok n := by
  by_cases zero : n = 0
  · subst zero
    rfl
  · simp [zero]

theorem decodeRecord {encode : A → Fields} {decode : Fields → Except String A}
    (law : ∀ a, decode (encode a) = .ok a) (a : A) :
    (decodeObject (.obj (encode a)) >>= decode) = .ok a := by
  simp [law a]

/-- An omitted empty list comes back as nil, so only its elements are kept. -/
theorem decodeList_omitted {encode : A → Json} {decode : Json → Except String A}
    (law : ∀ a, decode (encode a) = .ok a) (items : List A) :
    (decodeSlice decode (if items = [] then .null else .arr (items.map encode))).map
      (·.getD []) = .ok items := by
  cases items with
  | nil => rfl
  | cons a rest =>
      have read := mapM_decode law (a :: rest)
      simp only [List.map_cons] at read
      simp [decodeSlice, read]

theorem decodeRecords_omitted {encode : A → Fields} {decode : Fields → Except String A}
    (law : ∀ a, decode (encode a) = .ok a) (items : List A) :
    (decodeSlice (fun value => decodeObject value >>= decode)
      (if items = [] then .null else .arr (items.map (fun a => .obj (encode a))))).map
      (·.getD []) = .ok items :=
  decodeList_omitted (fun a => decodeRecord law a) items

theorem decodeRecordSlice {encode : A → Fields} {decode : Fields → Except String A}
    (law : ∀ a, decode (encode a) = .ok a) (items : Option (List A)) :
    decodeSlice (fun value => decodeObject value >>= decode)
      (encodeSlice (fun a => .obj (encode a)) items) = .ok items :=
  decodeSlice_encodeSlice (fun a => decodeRecord law a) items

theorem decodeRecordPointer {encode : A → Fields} {decode : Fields → Except String A}
    (law : ∀ a, decode (encode a) = .ok a) (target : Option A) :
    decodePointer (fun value => decodeObject value >>= decode)
      (encodePointer (fun a => .obj (encode a)) target) = .ok target := by
  cases target with
  | none => rfl
  | some a => simp [encodePointer, decodePointer, law a]

theorem decodeRecordPointer_omitted {encode : A → Fields} {decode : Fields → Except String A}
    (law : ∀ a, decode (encode a) = .ok a) (target : Option A) :
    decodePointer (fun value => decodeObject value >>= decode)
      (if target = none then .null else encodePointer (fun a => .obj (encode a)) target) =
        .ok target := by
  have read := decodeRecordPointer law target
  cases target with
  | none => rfl
  | some a => simpa using read

end Records

end Laws

end GoJson
