import Mathlib.Algebra.Group.Nat.Defs
import Mathlib.Data.List.TakeWhile
import PCenter.Lib.SemVer

/-!
# Whether a release is newer

`isNewer` and `parseSemver` of `internal/updater/updater.go` beside the precedence of semantic
versions. Pre-releases are not compared, numbers end at `2 ^ 63 - 1`, and the patch number of a
version with build metadata but no pre-release reads as zero: `isNewer_iff_precedes_iff`.
-/

namespace Updater

open GoText SemVer

section Model

/-- `strings.SplitN` -/
def splitN (sep : Char) : ℕ → String → List String
  | 0, _ => []
  | 1, s => [s]
  | n + 2, s =>
      match cut sep s with
      | (head, none) => [head]
      | (head, some rest) => head :: splitN sep (n + 1) rest

/-- The loop of `strconv.ParseUint` with the number it returns beside an error: the first digit
out of range ends it, before it sees what follows. -/
def parseUint (n : ℕ) : List Char → ℕ
  | [] => n
  | c :: rest =>
      if isDigit c then
        let next := 10 * n + digitValue c
        if next < 2 ^ 64 then parseUint next rest else 2 ^ 64 - 1
      else 0

/-- The number that `strconv.Atoi` returns, also beside an error. -/
def atoiValue (s : String) : Int64 :=
  let cs := s.toList
  let digits := if cs.head? = some '-' ∨ cs.head? = some '+' then cs.tail else cs
  let n := parseUint 0 digits
  Int64.ofIntClamp (if cs.head? = some '-' then -n else n)

def trimPrefix (pre s : String) : String := if hasPrefix pre s then dropPrefix pre s else s

/-- A part that is missing stays zero. -/
def readPart (part : Option String) : Int64 := atoiValue (part.elim "" fun p => (cut '-' p).1)

def parseSemver (v : String) : List Int64 :=
  let parts := splitN '.' 3 (trimPrefix "v" v)
  (List.range 3).map fun i => readPart parts[i]?

/-- The first difference decides. -/
def newer : List (Int64 × Int64) → Bool
  | [] => false
  | (latest, current) :: rest =>
      if latest > current then true else if latest < current then false else newer rest

def isNewer (latest current : String) : Bool :=
  if current = "dev" ∨ current = "" then false
  else newer ((parseSemver latest).zip (parseSemver current))

end Model

section Property

/-- A version string, with or without the leading `v`. -/
def spelled (v : Bool) (version : Version) : String :=
  if v then "v" ++ version.text else version.text

/-- Build metadata stand right behind the patch number. -/
def PatchLost (version : Version) : Prop :=
  version.preRelease = [] ∧ version.build ≠ [] ∧ version.patch < 2 ^ 64

instance (version : Version) : Decidable (PatchLost version) :=
  inferInstanceAs (Decidable (_ ∧ _ ∧ _))

def largest : ℕ := 2 ^ 63 - 1

/-- The numbers cut off at the largest one. -/
def shown (version : Version) : ℕ × ℕ × ℕ :=
  (min version.major largest, min version.minor largest,
    if PatchLost version then 0 else min version.patch largest)

/-- The two versions are in the order in which they are shown, and neither a pre-release nor
build metadata decides between two of one core. -/
structure Told (latest current : Version) : Prop where
  same : latest.core = current.core → ¬current.PreReleasePrecedes latest ∧
    ¬(PatchLost current ∧ ¬PatchLost latest ∧ 0 < latest.patch)
  higher : Below current.core latest.core → Below (shown current) (shown latest)
  lower : Below latest.core current.core → ¬Below (shown current) (shown latest)

end Property

section Reading

variable {version : Version}

theorem toInt_ofIntClamp_min (n : ℕ) : (Int64.ofIntClamp (n : ℤ)).toInt = (min n largest : ℕ) := by
  have low : Int64.minValue.toInt = -9223372036854775808 := rfl
  have high : Int64.maxValue.toInt = 9223372036854775807 := rfl
  have limit : largest = 9223372036854775807 := rfl
  by_cases inside : n ≤ largest
  · rw [Int64.toInt_ofIntClamp (by omega) (by omega), Nat.min_eq_left inside]
  · rw [Int64.ofIntClamp, dif_pos (by omega), dif_neg (by omega), high,
      Nat.min_eq_right (by omega), limit]
    rfl

theorem parseUint_append {digits : List Char} (all : digits.all isDigit = true)
    (rest : List Char) : ∀ n < 2 ^ 64, parseUint n (digits ++ rest) =
      if Nat.ofDigitChars 10 digits n < 2 ^ 64 then
        parseUint (Nat.ofDigitChars 10 digits n) rest
      else 2 ^ 64 - 1 := by
  induction digits with
  | nil =>
      intro n small
      rw [List.nil_append, Nat.ofDigitChars_nil, if_pos small]
  | cons c digits ih =>
      intro n small
      rw [List.all_cons, Bool.and_eq_true] at all
      have step : Nat.ofDigitChars 10 (c :: digits) n =
          Nat.ofDigitChars 10 digits (10 * n + digitValue c) := Nat.ofDigitChars_cons
      rw [step, List.cons_append, parseUint, if_pos all.1]
      by_cases fits : 10 * n + digitValue c < 2 ^ 64
      · rw [if_pos fits, ih all.2 _ fits]
      · have grows := @Nat.ofDigitChars_eq_ofDigitChars_zero digits (10 * n + digitValue c)
        have power : 0 < 10 ^ digits.length := Nat.pow_pos (by omega)
        have more := Nat.le_mul_of_pos_left (10 * n + digitValue c) power
        rw [if_neg fits, if_neg (by omega)]

theorem repr_cons (n : ℕ) : ∃ c rest, n.repr.toList = c :: rest ∧ isDigit c = true ∧
    c ≠ '-' ∧ c ≠ '+' := by
  obtain ⟨c, rest, digits⟩ := List.exists_cons_of_ne_nil (@Nat.toDigits_ne_nil n 10)
  have all := toDigits_all_isDigit n
  rw [digits, List.all_cons, Bool.and_eq_true] at all
  refine ⟨c, rest, by rw [Nat.toList_repr, digits], all.1, ?_, ?_⟩
  · rintro rfl
    exact absurd all.1 (by decide)
  · rintro rfl
    exact absurd all.1 (by decide)

theorem atoiValue_append (n : ℕ) (s : String) : atoiValue (n.repr ++ s) =
    Int64.ofIntClamp ((if n < 2 ^ 64 then parseUint n s.toList else 2 ^ 64 - 1 : ℕ) : ℤ) := by
  obtain ⟨c, rest, chars, -, minus, plus⟩ := repr_cons n
  have head : (n.repr ++ s).toList.head? = some c := by
    rw [String.toList_append, chars, List.cons_append, List.head?_cons]
  have number : parseUint 0 (n.repr ++ s).toList =
      if n < 2 ^ 64 then parseUint n s.toList else 2 ^ 64 - 1 := by
    rw [String.toList_append, Nat.toList_repr,
      parseUint_append (toDigits_all_isDigit n) s.toList 0 (by omega),
      Nat.ofDigitChars_ten_toDigits]
  simp only [atoiValue, head, Option.some.injEq, minus, plus, or_self, if_false, number]

theorem atoiValue_repr (n : ℕ) : (atoiValue n.repr).toInt = (min n largest : ℕ) := by
  have value := atoiValue_append n ""
  have limit : largest = 9223372036854775807 := rfl
  rw [String.append_empty, String.toList_empty, parseUint] at value
  rw [value, toInt_ofIntClamp_min]
  split <;> omega

/-- The part with the patch number, up to its first hyphen. -/
theorem readPart_patch (version : Version) :
    (readPart (some (version.patch.repr ++ version.suffix))).toInt = (shown version).2.2 := by
  have hyphen : contains '-' version.patch.repr = false := contains_repr (by decide) _
  have free : ∀ c ∈ version.patch.repr.toList, decide (c ≠ '-') = true := by
    intro c inside
    refine decide_eq_true fun dash => ?_
    rw [contains, ← Bool.not_eq_true, List.contains_iff_mem] at hyphen
    exact hyphen (dash ▸ inside)
  have head : ∀ s : String, (cut '-' (version.patch.repr ++ s)).1 =
      version.patch.repr ++ String.ofList (s.toList.takeWhile (· ≠ '-')) := by
    intro s
    rw [cut, cutChars_fst, String.toList_append, List.takeWhile_append_of_pos free,
      String.ofList_append, String.ofList_toList]
  have value := atoiValue_repr version.patch
  rw [readPart, Option.elim_some, head, Version.suffix, shown]
  by_cases release : version.preRelease = []
  · by_cases bare : version.build = []
    · have shows : ¬PatchLost version := fun lost => lost.2.1 bare
      rw [if_pos release, if_pos bare, if_neg shows]
      simpa using value
    · rw [if_pos release, if_neg bare, atoiValue_append, toInt_ofIntClamp_min]
      by_cases small : version.patch < 2 ^ 64
      · have lost : PatchLost version := ⟨release, bare, small⟩
        rw [if_pos small, if_pos lost]
        simp [parseUint, isDigit]
      · have shows : ¬PatchLost version := fun lost => small lost.2.2
        have limit : largest = 9223372036854775807 := rfl
        rw [if_neg small, if_neg shows]
        change _ = ((min version.patch largest : ℕ) : ℤ)
        omega
  · have shows : ¬PatchLost version := fun lost => release lost.1
    rw [if_neg release, if_neg shows]
    simpa using value

theorem trimPrefix_spelled (v : Bool) (version : Version) :
    trimPrefix "v" (spelled v version) = version.text := by
  cases v with
  | true => rw [spelled, if_pos rfl, trimPrefix, if_pos (hasPrefix_append _ _), dropPrefix_append]
  | false =>
      obtain ⟨c, rest, chars, digit, -, -⟩ := repr_cons version.major
      have other : ('v' == c) = false := by
        rw [beq_eq_false_iff_ne]
        rintro rfl
        exact absurd digit (by decide)
      have bare : hasPrefix "v" version.text = false := by
        rw [hasPrefix, Version.text, String.toList_append, chars]
        simp [List.isPrefixOf, other]
      rw [spelled, if_neg Bool.false_ne_true, trimPrefix, bare, if_neg Bool.false_ne_true]

theorem splitN_text (version : Version) : splitN '.' 3 version.text =
    [version.major.repr, version.minor.repr, version.patch.repr ++ version.suffix] := by
  have dot : String.singleton '.' = "." := rfl
  have first := @cut_append '.' version.major.repr (contains_repr (by decide) _)
    (version.minor.repr ++ ("." ++ (version.patch.repr ++ version.suffix)))
  have second := @cut_append '.' version.minor.repr (contains_repr (by decide) _)
    (version.patch.repr ++ version.suffix)
  rw [dot] at first second
  simp only [splitN, Version.text, first, second]

theorem readPart_repr (n : ℕ) : (readPart (some n.repr)).toInt = (min n largest : ℕ) := by
  have whole : (cut '-' n.repr).1 = n.repr := by
    have hyphen : contains '-' n.repr = false := contains_repr (by decide) n
    have absent : '-' ∉ n.repr.toList := by simpa [contains] using hyphen
    rw [cut, cutChars_fst, List.takeWhile_eq_self_iff.mpr, String.ofList_toList]
    exact fun c inside => decide_eq_true fun dash => absent (dash ▸ inside)
  rw [readPart, Option.elim_some, whole, atoiValue_repr]

/-- The three numbers that are read of a version string. -/
theorem parseSemver_spelled (v : Bool) (version : Version) :
    (parseSemver (spelled v version)).map Int64.toInt =
      [((shown version).1 : ℤ), ((shown version).2.1 : ℤ), ((shown version).2.2 : ℤ)] := by
  have parts : parseSemver (spelled v version) = [readPart (some version.major.repr),
      readPart (some version.minor.repr),
      readPart (some (version.patch.repr ++ version.suffix))] := by
    rw [parseSemver, trimPrefix_spelled, splitN_text]
    rfl
  rw [parts]
  simp only [List.map_cons, List.map_nil, readPart_repr, readPart_patch]
  rfl

/-- A version string is never taken for a development build. -/
theorem spelled_ne {s : String} (single : (splitN '.' 3 (trimPrefix "v" s)).length = 1)
    (v : Bool) (version : Version) : spelled v version ≠ s := by
  rintro rfl
  rw [trimPrefix_spelled, splitN_text] at single
  cases single

end Reading

section Order

/-- The comparison is the lexicographic order of the numbers. -/
theorem newer_zip_iff {latest current : List Int64} (same : latest.length = current.length) :
    newer (latest.zip current) = true ↔
      current.map Int64.toInt < latest.map Int64.toInt := by
  induction latest generalizing current with
  | nil =>
      obtain rfl := List.length_eq_zero_iff.mp same.symm
      simp [newer]
  | cons a latest ih =>
      cases current with
      | nil => simp at same
      | cons b current =>
          have rest := ih (Nat.succ.inj same)
          have higher : a > b ↔ b.toInt < a.toInt := Int64.lt_iff_toInt_lt
          have lower : a < b ↔ a.toInt < b.toInt := Int64.lt_iff_toInt_lt
          rw [List.zip_cons_cons, newer, List.map_cons, List.map_cons, List.cons_lt_cons_iff]
          rcases Int.lt_trichotomy b.toInt a.toInt with less | tie | more
          · rw [if_pos (higher.mpr less)]
            exact ⟨fun _ => .inl less, fun _ => rfl⟩
          · have equal : ¬a > b ∧ ¬a < b := by
              rw [higher, lower]
              omega
            rw [if_neg equal.1, if_neg equal.2, rest]
            simp [tie]
          · have notHigher : ¬a > b := by
              rw [higher]
              omega
            rw [if_neg notHigher, if_pos (lower.mpr more)]
            refine ⟨fun impossible => (Bool.false_ne_true impossible).elim, fun before => ?_⟩
            omega

theorem isNewer_iff {latest current : String} : isNewer latest current = true ↔
    current ≠ "dev" ∧ current ≠ "" ∧
      (parseSemver current).map Int64.toInt < (parseSemver latest).map Int64.toInt := by
  have same : (parseSemver latest).length = (parseSemver current).length := by
    rw [parseSemver, parseSemver, List.length_map, List.length_map]
  rw [isNewer, ← newer_zip_iff same]
  by_cases dev : current = "dev" ∨ current = ""
  · rw [if_pos dev]
    refine ⟨fun impossible => (Bool.false_ne_true impossible).elim, fun release => ?_⟩
    exact (dev.elim release.1 release.2.1).elim
  · rw [if_neg dev]
    rw [not_or] at dev
    exact ⟨fun first => ⟨dev.1, dev.2, first⟩, fun release => release.2.2⟩

/-- On all strings, so also on release versions. -/
theorem isNewer_strict :
    IsStrictOrder String fun current latest => isNewer latest current = true where
  irrefl s newer := List.lt_irrefl _ (isNewer_iff.mp newer).2.2
  trans a b c first second := by
    rw [isNewer_iff] at *
    exact ⟨first.1, first.2.1, List.lt_trans first.2.2 second.2.2⟩

/-- Two version strings are compared as they are shown. -/
theorem isNewer_spelled_iff (v w : Bool) (latest current : Version) :
    isNewer (spelled v latest) (spelled w current) = true ↔
      Below (shown current) (shown latest) := by
  have release : spelled w current ≠ "dev" := spelled_ne (by decide) w current
  have named : spelled w current ≠ "" := spelled_ne (by decide) w current
  rw [isNewer_iff, parseSemver_spelled, parseSemver_spelled, List.cons_lt_cons_iff,
    List.cons_lt_cons_iff, List.cons_lt_cons_iff, Int.ofNat_lt, Int.ofNat_lt, Int.ofNat_lt,
    Int.natCast_inj, Int.natCast_inj, and_iff_right release, and_iff_right named, Below]
  simp

end Order

section Precedence

variable {latest current : Version}

/-- Of two versions of one core, only a lost patch number is told apart. -/
theorem below_shown_iff_of_core_eq (same : latest.core = current.core) :
    Below (shown current) (shown latest) ↔
      PatchLost current ∧ ¬PatchLost latest ∧ 0 < latest.patch := by
  obtain ⟨major, minor, patch⟩ : latest.major = current.major ∧
      latest.minor = current.minor ∧ latest.patch = current.patch := by
    simpa [Version.core] using same
  have limit : largest = 9223372036854775807 := rfl
  simp only [Below, shown, major, minor, patch]
  by_cases lost : PatchLost current
  · by_cases shows : PatchLost latest
    · simp [lost, shows]
    · simp only [lost, shows, if_true, if_false, not_false_eq_true, true_and]
      omega
  · by_cases shows : PatchLost latest
    · simp [lost, shows]
    · simp [lost, shows]

theorem not_precedes_of_below (before : Below latest.core current.core) :
    ¬current.Precedes latest := by
  rintro (after | tie)
  · exact before.asymm after
  · exact not_below_self _ (tie.1 ▸ before)

/-- When the check tells a newer version. -/
theorem isNewer_iff_precedes_iff (v w : Bool) (latest current : Version) :
    (isNewer (spelled v latest) (spelled w current) = true ↔ current.Precedes latest) ↔
      Told latest current := by
  rw [isNewer_spelled_iff]
  rcases below_total current.core latest.core with before | same | after
  · have precedes : current.Precedes latest := .inl before
    constructor
    · intro agrees
      exact ⟨fun same => (not_below_self _ (same ▸ before)).elim,
        fun _ => agrees.mpr precedes, fun after => (before.asymm after).elim⟩
    · intro told
      exact ⟨fun _ => precedes, fun _ => told.higher before⟩
  · have precedes : current.Precedes latest ↔ current.PreReleasePrecedes latest :=
      ⟨fun less => less.elim (fun below => (not_below_self _ (same ▸ below)).elim) (·.2),
        fun less => .inr ⟨same, less⟩⟩
    rw [precedes, below_shown_iff_of_core_eq same.symm]
    constructor
    · intro agrees
      refine ⟨fun _ => ⟨fun less => ?_, fun lost => ?_⟩,
        fun below => (not_below_self _ (same ▸ below)).elim,
        fun below => (not_below_self _ (same ▸ below)).elim⟩
      · exact less.1 (agrees.mpr less).1.1
      · exact (agrees.mp lost).1 lost.1.1
    · intro told
      obtain ⟨ordered, kept⟩ := told.same same.symm
      exact iff_of_false kept ordered
  · have precedes : ¬current.Precedes latest := not_precedes_of_below after
    constructor
    · intro agrees
      exact ⟨fun same => (not_below_self _ (same ▸ after)).elim,
        fun before => (after.asymm before).elim, fun _ shows => precedes (agrees.mp shows)⟩
    · intro told
      exact iff_of_false (told.lower after) precedes

end Precedence

section Counterexample

/-- `1.2.3` and its release candidate. -/
def finished : Version := ⟨1, 2, 3, [], []⟩

def candidate : Version := ⟨1, 2, 3, [.alphanumeric ⟨"rc1", by decide, by decide⟩], []⟩

/-- The finished version is not offered to its release candidate. -/
theorem finished_not_offered : ¬∀ (v w : Bool) (latest current : Version),
    isNewer (spelled v latest) (spelled w current) = true ↔ current.Precedes latest := by
  intro follows
  have precedes : candidate.Precedes finished := .inr ⟨rfl, List.cons_ne_nil _ _, .inl rfl⟩
  have shows := (isNewer_spelled_iff false false _ _).mp ((follows false false _ _).mpr precedes)
  exact absurd shows (by decide)

end Counterexample

end Updater
