import Mathlib.Data.List.Perm.Basic

/-!
# Queries over two tables

A `SELECT` that joins two tables. Names are resolved against the columns of the tables before a
row is read, so whether a query fails does not depend on what the tables hold. Conditions have
three truth values, and a row is selected when they are true of it. Reals are of any type;
integers and reals are not compared with each other.
-/

namespace Sql

variable {V : Type}

inductive Value (V : Type) where
  | null
  | integer (n : Int)
  | real (x : V)
  | text (s : String)

/-- A qualified name. -/
structure Column where
  qualifier : String
  name : String
  deriving DecidableEq, Repr

/-- A `rank` is `CASE operand WHEN .. THEN 0 WHEN .. THEN 1 .. ELSE .. END`, a number for each
text and the next one for anything else. -/
inductive Expr (V : Type) where
  | column (c : Column)
  | coalesce (a b : Expr V)
  | rank (operand : Expr V) (texts : List String)

inductive Cond (V : Type) where
  | same (a b : Expr V)
  | is (a : Expr V) (s : String)
  | isNot (a : Expr V) (s : String)
  | isNull (a : Expr V)
  | both (p q : Cond V)
  | either (p q : Cond V)

structure Table (V : Type) where
  columns : List String
  rows : List (String → Value V)

/-- A table and the name that it has in a query. -/
structure Source where
  table : String
  qualifier : String

structure Select (V : Type) where
  columns : List (Expr V)
  source : Source
  joined : Source
  on : Cond V
  filter : Cond V
  order : List (Expr V × Bool)

section Names

def Expr.names : Expr V → List Column
  | .column c => [c]
  | .coalesce a b => a.names ++ b.names
  | .rank operand _ => operand.names

def Cond.names : Cond V → List Column
  | .same a b => a.names ++ b.names
  | .is a _ | .isNot a _ | .isNull a => a.names
  | .both p q | .either p q => p.names ++ q.names

def Select.names (q : Select V) : List Column :=
  q.columns.flatMap Expr.names ++ q.on.names ++ q.filter.names ++
    q.order.flatMap fun key => key.1.names

/-- The name is one of a column of the tables. -/
def Resolves (scope : List (String × List String)) (c : Column) : Prop :=
  ∃ s ∈ scope, s.1 = c.qualifier ∧ c.name ∈ s.2

instance decidableResolves (scope : List (String × List String)) :
    DecidablePred (Resolves scope) :=
  fun c => inferInstanceAs (Decidable (∃ s ∈ scope, s.1 = c.qualifier ∧ c.name ∈ s.2))

def noSuchColumn (c : Column) : String := "no such column: " ++ c.qualifier ++ "." ++ c.name

end Names

section Evaluation

variable [BEq V] [LT V] [DecidableLT V]

/-- `=`, unknown for `NULL` -/
def Value.same : Value V → Value V → Option Bool
  | .null, _ => none
  | _, .null => none
  | .integer a, .integer b => some (a == b)
  | .real a, .real b => some (a == b)
  | .text a, .text b => some (a == b)
  | _, _ => some false

/-- `NULL` comes before numbers, and these before texts. -/
def Value.precedes : Value V → Value V → Bool
  | .null, .null => false
  | .null, _ => true
  | _, .null => false
  | .integer a, .integer b => a < b
  | .real a, .real b => a < b
  | .text a, .text b => a < b
  | .text _, _ => false
  | _, .text _ => true
  | .integer _, .real _ => true
  | .real _, .integer _ => false

def Expr.eval (row : Column → Value V) : Expr V → Value V
  | .column c => row c
  | .coalesce a b =>
      match a.eval row with
      | .null => b.eval row
      | v => v
  | .rank operand texts =>
      match operand.eval row with
      | .text s => .integer (texts.idxOf s)
      | _ => .integer texts.length

def conj : Option Bool → Option Bool → Option Bool
  | some false, _ => some false
  | _, some false => some false
  | some true, some true => some true
  | _, _ => none

def disj : Option Bool → Option Bool → Option Bool
  | some true, _ => some true
  | _, some true => some true
  | some false, some false => some false
  | _, _ => none

def Cond.eval (row : Column → Value V) : Cond V → Option Bool
  | .same a b => (a.eval row).same (b.eval row)
  | .is a s => (a.eval row).same (.text s)
  | .isNot a s => ((a.eval row).same (.text s)).map not
  | .isNull a =>
      match a.eval row with
      | .null => some true
      | _ => some false
  | .both p q => conj (p.eval row) (q.eval row)
  | .either p q => disj (p.eval row) (q.eval row)

/-- The sort keys of a row against those of another one, a key that descends being marked. -/
def inOrder (order : List (Expr V × Bool)) (row row' : Column → Value V) : Bool :=
  match order with
  | [] => true
  | (key, descends) :: keys =>
      let v := if descends then key.eval row' else key.eval row
      let v' := if descends then key.eval row else key.eval row'
      v.precedes v' || (!v'.precedes v && inOrder keys row row')

/-- A row of either table as one row. -/
def joinRow (q : Select V) (pair : (String → Value V) × (String → Value V)) (c : Column) :
    Value V :=
  if c.qualifier = q.source.qualifier then pair.1 c.name else pair.2 c.name

/-- The rows that a query selects, in the order of the tables. -/
def Select.matching (q : Select V) (left right : Table V) : List (Column → Value V) :=
  ((left.rows.product right.rows).map (joinRow q)).filter fun row =>
    q.on.eval row = some true ∧ q.filter.eval row = some true

def Select.scope (q : Select V) (left right : Table V) : List (String × List String) :=
  [(q.source.qualifier, left.columns), (q.joined.qualifier, right.columns)]

def Select.run (q : Select V) (db : String → Option (Table V)) :
    Except String (List (List (Value V))) :=
  match db q.source.table, db q.joined.table with
  | none, _ => .error ("no such table: " ++ q.source.table)
  | _, none => .error ("no such table: " ++ q.joined.table)
  | some left, some right =>
      match q.names.find? fun c => ¬Resolves (q.scope left right) c with
      | some c => .error (noSuchColumn c)
      | none =>
          .ok (((q.matching left right).mergeSort (inOrder q.order)).map fun row =>
            q.columns.map fun e => e.eval row)

variable {q : Select V} {db : String → Option (Table V)} {left right : Table V}

theorem run_ok (source : db q.source.table = some left) (joined : db q.joined.table = some right)
    (known : ∀ c ∈ q.names, Resolves (q.scope left right) c) :
    q.run db = .ok (((q.matching left right).mergeSort (inOrder q.order)).map fun row =>
      q.columns.map fun e => e.eval row) := by
  have all : (q.names.find? fun c => ¬Resolves (q.scope left right) c) = none := by
    apply List.find?_eq_none.mpr
    intro c member
    simpa using known c member
  simp only [Select.run, source, joined, all]

/-- A query answers iff all its names are known, whatever the rows are. -/
theorem run_ok_iff (source : db q.source.table = some left)
    (joined : db q.joined.table = some right) :
    (∃ rows, q.run db = .ok rows) ↔ ∀ c ∈ q.names, Resolves (q.scope left right) c := by
  constructor
  · rintro ⟨rows, ran⟩
    simp only [Select.run, source, joined] at ran
    cases unknown : q.names.find? fun c => ¬Resolves (q.scope left right) c with
    | none => simpa using List.find?_eq_none.mp unknown
    | some c =>
        rw [unknown] at ran
        cases ran
  · exact fun known => ⟨_, run_ok source joined known⟩

section Rows

variable {A B : Type} (f : A → String → Value V) (g : B → String → Value V)

/-- The pairs behind the rows that a query selects from tables of encoded rows. -/
def Select.pairs (q : Select V) (as : List A) (bs : List B) : List (A × B) :=
  (as.product bs).filter fun p =>
    q.on.eval (joinRow q (f p.1, g p.2)) = some true ∧
      q.filter.eval (joinRow q (f p.1, g p.2)) = some true

variable {f} {g} {as : List A} {bs : List B} {cs ds : List String}

omit [BEq V] [LT V] [DecidableLT V] in
theorem product_map : (as.map f).product (bs.map g) =
    (as.product bs).map fun p => (f p.1, g p.2) := by
  simp [List.product, List.flatMap_map, List.map_flatMap, Function.comp_def]

omit [LT V] [DecidableLT V] in
theorem matching_encoded : q.matching ⟨cs, as.map f⟩ ⟨ds, bs.map g⟩ =
    (q.pairs f g as bs).map fun p => joinRow q (f p.1, g p.2) := by
  rw [Select.matching, product_map, List.map_map, List.filter_map]
  rfl

/-- The result of a query over encoded rows, up to the order of its rows. -/
theorem run_encoded (source : db q.source.table = some ⟨cs, as.map f⟩)
    (joined : db q.joined.table = some ⟨ds, bs.map g⟩)
    (known : ∀ c ∈ q.names, Resolves (q.scope ⟨cs, as.map f⟩ ⟨ds, bs.map g⟩) c) :
    ∃ sorted : List (A × B), sorted.Perm (q.pairs f g as bs) ∧
      q.run db = .ok (sorted.map fun p =>
        q.columns.map fun e => e.eval (joinRow q (f p.1, g p.2))) := by
  refine ⟨(q.pairs f g as bs).mergeSort fun p p' =>
    inOrder q.order (joinRow q (f p.1, g p.2)) (joinRow q (f p'.1, g p'.2)), ?_, ?_⟩
  · exact List.mergeSort_perm _ _
  · have sorted := @List.map_mergeSort (A × B) (Column → Value V)
      (fun p p' => inOrder q.order (joinRow q (f p.1, g p.2)) (joinRow q (f p'.1, g p'.2)))
      (inOrder q.order) (fun p => joinRow q (f p.1, g p.2)) (q.pairs f g as bs)
      (fun _ _ _ _ => rfl)
    rw [run_ok source joined known, matching_encoded, ← sorted, List.map_map]
    rfl

end Rows

/-- A join in which a row has at most the partner that is chosen for it. -/
theorem map_fst_filter_product {A B : Type} {as : List A} {bs : List B} {keep : A × B → Bool}
    {keeps : A → Bool}
    (one : ∀ a ∈ as, (bs.filter fun b => keep (a, b)).length = if keeps a then 1 else 0) :
    ((as.product bs).filter keep).map Prod.fst = as.filter keeps := by
  induction as with
  | nil => rfl
  | cons a as ih =>
      have here := one a List.mem_cons_self
      have later := ih fun a member => one a (List.mem_cons_of_mem _ member)
      have split : ((a :: as).product bs) = bs.map (fun b => (a, b)) ++ as.product bs := rfl
      have first : ((bs.map fun b => (a, b)).filter keep).map Prod.fst =
          List.replicate (bs.filter fun b => keep (a, b)).length a := by
        rw [List.filter_map, List.map_map]
        exact List.map_const'
      rw [split, List.filter_append, List.map_append, later, first, here]
      cases kept : keeps a <;> simp [kept]

end Evaluation

end Sql
