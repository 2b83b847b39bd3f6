import Mathlib.Data.List.Lex
import PCenter.Lib.Text

/-!
# Semantic versions

The versions of Semantic Versioning 2.0.0 with their texts and their precedence. A number has no
leading zeros; an identifier of a pre-release is a number or has a character that is no digit;
build metadata do not count.
-/

namespace SemVer

open GoText (isDigit contains)

section Grammar

/-- ASCII letters, digits and the hyphen. -/
def identChar (c : Char) : Bool :=
  isDigit c || ('A' ≤ c && c ≤ 'Z') || ('a' ≤ c && c ≤ 'z') || c = '-'

structure Alphanumeric where
  text : String
  chars : text.toList.all identChar
  letter : text.toList.any fun c => !isDigit c
  deriving DecidableEq

inductive Identifier where
  | numeric (n : ℕ)
  | alphanumeric (s : Alphanumeric)
  deriving DecidableEq

structure BuildIdentifier where
  text : String
  nonempty : text ≠ ""
  chars : text.toList.all identChar
  deriving DecidableEq

/-- The empty lists stand for no pre-release and no build metadata. -/
structure Version where
  major : ℕ
  minor : ℕ
  patch : ℕ
  preRelease : List Identifier
  build : List BuildIdentifier
  deriving DecidableEq

def Identifier.text : Identifier → String
  | .numeric n => n.repr
  | .alphanumeric s => s.text

namespace Version

variable (v : Version)

def suffix : String :=
  (if v.preRelease = [] then "" else "-" ++ ".".intercalate (v.preRelease.map (·.text))) ++
    if v.build = [] then "" else "+" ++ ".".intercalate (v.build.map (·.text))

def text : String :=
  v.major.repr ++ ("." ++ (v.minor.repr ++ ("." ++ (v.patch.repr ++ v.suffix))))

end Version

end Grammar

section Precedence

/-- Three numbers compared one after another. -/
def Below (a b : ℕ × ℕ × ℕ) : Prop :=
  a.1 < b.1 ∨ a.1 = b.1 ∧ (a.2.1 < b.2.1 ∨ a.2.1 = b.2.1 ∧ a.2.2 < b.2.2)

instance (a b : ℕ × ℕ × ℕ) : Decidable (Below a b) :=
  inferInstanceAs (Decidable (_ ∨ _ ∧ (_ ∨ _ ∧ _)))

/-- Numbers come before other identifiers, which stand in their ASCII order. -/
def Identifier.Precedes : Identifier → Identifier → Prop
  | .numeric m, .numeric n => m < n
  | .numeric _, .alphanumeric _ => True
  | .alphanumeric _, .numeric _ => False
  | .alphanumeric s, .alphanumeric t => s.text < t.text

instance : DecidableRel Identifier.Precedes
  | .numeric m, .numeric n => inferInstanceAs (Decidable (m < n))
  | .numeric _, .alphanumeric _ => .isTrue trivial
  | .alphanumeric _, .numeric _ => .isFalse id
  | .alphanumeric s, .alphanumeric t => inferInstanceAs (Decidable (s.text < t.text))

namespace Version

variable (v w : Version)

def core : ℕ × ℕ × ℕ := (v.major, v.minor, v.patch)

/-- A pre-release comes before the release, and of two pre-releases the identifiers decide. -/
def PreReleasePrecedes : Prop :=
  v.preRelease ≠ [] ∧ (w.preRelease = [] ∨ List.Lex Identifier.Precedes v.preRelease w.preRelease)

instance : Decidable (v.PreReleasePrecedes w) := inferInstanceAs (Decidable (_ ∧ (_ ∨ _)))

def Precedes : Prop := Below v.core w.core ∨ v.core = w.core ∧ v.PreReleasePrecedes w

instance : Decidable (v.Precedes w) := inferInstanceAs (Decidable (_ ∨ _ ∧ _))

end Version

variable {a b : ℕ × ℕ × ℕ}

theorem not_below_self (a : ℕ × ℕ × ℕ) : ¬Below a a := by
  simp [Below]

theorem Below.asymm (before : Below a b) : ¬Below b a := by
  unfold Below at *
  omega

theorem below_total (a b : ℕ × ℕ × ℕ) : Below a b ∨ a = b ∨ Below b a := by
  obtain ⟨x, y, z⟩ := a
  obtain ⟨x', y', z'⟩ := b
  simp only [Below, Prod.mk.injEq]
  omega

end Precedence

section Texts

theorem contains_repr {c : Char} (other : isDigit c = false) (n : ℕ) :
    contains c n.repr = false := by
  rw [contains, ← Bool.not_eq_true, List.contains_iff_mem, Nat.toList_repr]
  intro inside
  have digit := List.all_eq_true.mp (GoText.toDigits_all_isDigit n) c inside
  rw [other] at digit
  cases digit

end Texts

end SemVer
