import Mathlib.Data.Set.Basic
import PCenter.Cron
import PCenter.Lib.Traverse

/-!
# The grammar of a cron field

A field is a list of items: `*`, `*/N`, `N` and `N-M`. The parser reads numbers as `Atoi` does,
with a sign, and looks for a range at the first minus sign; so `N` may have a plus sign, and
what follows the minus sign or the slash may have either sign. The set of a step may have
members below zero, where the addition of the loop overflows; no field has such values.
-/

namespace Cron

open GoText

inductive Field where
  | minute
  | hour
  | dom
  | month
  | dow
  deriving DecidableEq, Repr

def Field.min : Field → Int
  | .minute => 0
  | .hour => 0
  | .dom => 1
  | .month => 1
  | .dow => 0

def Field.max : Field → Int
  | .minute => 59
  | .hour => 23
  | .dom => 31
  | .month => 12
  | .dow => 6

/-- A decimal numeral without a sign. -/
def Numeral (text : List Char) (n : Int) : Prop :=
  text ≠ [] ∧ text.all isDigit = true ∧ n = digitsValue text

/-- A number that fits into 64 bits, with or without a plus sign. -/
def Unsigned (text : List Char) (n : Int) : Prop :=
  n < 2 ^ 63 ∧ (Numeral text n ∨ ∃ digits, text = '+' :: digits ∧ Numeral digits n)

def Signed (text : List Char) (n : Int) : Prop :=
  Unsigned text n ∨ -2 ^ 63 ≤ n ∧ ∃ digits, text = '-' :: digits ∧ Numeral digits (-n)

/-- An item and what it denotes, where `First` reads a number at the start and `Last` one
behind a slash or a minus sign. -/
inductive Item (First Last : List Char → Int → Prop) (f : Field) : List Char → Set Int → Prop
  | every : Item First Last f ['*'] {v | f.min ≤ v ∧ v ≤ f.max}
  | step {text : List Char} {n : Int} (number : Last text n) (positive : 0 < n) :
      Item First Last f ('*' :: '/' :: text) {v | f.min ≤ v ∧ v ≤ f.max ∧ n ∣ v - f.min}
  | value {text : List Char} {n : Int} (number : First text n) (low : f.min ≤ n)
      (high : n ≤ f.max) : Item First Last f text {n}
  | range {text text' : List Char} {m n : Int} (number : First text m) (number' : Last text' n)
      (low : f.min ≤ m) (order : m ≤ n) (high : n ≤ f.max) :
      Item First Last f (text ++ '-' :: text') {v | m ≤ v ∧ v ≤ n}

section Numbers

variable {text : List Char} {n : Int} {k : Int64}

theorem digits_of_numeral (number : Numeral text n) {c : Char} (member : c ∈ text) :
    isDigit c = true :=
  List.all_eq_true.mp number.2.1 c member

theorem nonneg_of_numeral (number : Numeral text n) : 0 ≤ n := by
  rw [number.2.2]
  exact Int.natCast_nonneg _

theorem some_ofInt_iff {digits : List Char} {m : Int} :
    (∃ k : Int64, (if digits ≠ [] ∧ digits.all isDigit = true then
        (if -2 ^ 63 ≤ m ∧ m < 2 ^ 63 then some (Int64.ofInt m) else none) else none) = some k ∧
      k.toInt = n) ↔
      (digits ≠ [] ∧ digits.all isDigit = true) ∧ (-2 ^ 63 ≤ m ∧ m < 2 ^ 63) ∧ n = m := by
  by_cases written : digits ≠ [] ∧ digits.all isDigit = true
  · rw [if_pos written]
    by_cases fits : -2 ^ 63 ≤ m ∧ m < 2 ^ 63
    · rw [if_pos fits]
      have same : (Int64.ofInt m).toInt = m := Int64.toInt_ofInt_of_le fits.1 fits.2
      constructor
      · rintro ⟨k, read, rfl⟩
        refine ⟨written, fits, ?_⟩
        rw [← Option.some.inj read, same]
      · rintro ⟨_, _, rfl⟩
        exact ⟨_, rfl, same⟩
    · rw [if_neg fits]
      constructor
      · rintro ⟨_, read, _⟩
        exact nomatch read
      · intro read
        exact absurd read.2.1 fits
  · rw [if_neg written]
    constructor
    · rintro ⟨_, read, _⟩
      exact nomatch read
    · intro read
      exact absurd read.1 written

theorem parseInt_iff : (∃ k, parseInt text = some k ∧ k.toInt = n) ↔ Signed text n := by
  cases text with
  | nil => simp [parseInt, Signed, Unsigned, Numeral]
  | cons c digits =>
      by_cases minus : c = '-'
      · subst minus
        have parsed : parseInt ('-' :: digits) = if digits ≠ [] ∧ digits.all isDigit = true then
            (if -2 ^ 63 ≤ (-digitsValue digits : Int) ∧ (-digitsValue digits : Int) < 2 ^ 63 then
              some (Int64.ofInt (-digitsValue digits)) else none) else none := by
          simp [parseInt]
        rw [parsed, some_ofInt_iff]
        constructor
        · rintro ⟨⟨some_, all⟩, ⟨low, _⟩, rfl⟩
          exact .inr ⟨low, digits, rfl, some_, all, by omega⟩
        · rintro (⟨_, number | ⟨_, same, _⟩⟩ | ⟨low, _, same, some_, all, value⟩)
          · exact absurd (digits_of_numeral number List.mem_cons_self) (by decide)
          · exact absurd (List.cons.inj same).1 (by decide)
          · obtain rfl := (List.cons.inj same).2
            exact ⟨⟨some_, all⟩, ⟨by omega, by omega⟩, by omega⟩
      · by_cases plus : c = '+'
        · subst plus
          have parsed : parseInt ('+' :: digits) = if digits ≠ [] ∧ digits.all isDigit = true then
              (if -2 ^ 63 ≤ (digitsValue digits : Int) ∧ (digitsValue digits : Int) < 2 ^ 63 then
                some (Int64.ofInt (digitsValue digits)) else none) else none := by
            simp [parseInt]
          rw [parsed, some_ofInt_iff]
          constructor
          · rintro ⟨⟨some_, all⟩, ⟨_, high⟩, rfl⟩
            exact .inl ⟨high, .inr ⟨digits, rfl, some_, all, rfl⟩⟩
          · rintro (⟨high, number | ⟨_, same, some_, all, value⟩⟩ | ⟨_, _, same, _⟩)
            · exact absurd (digits_of_numeral number List.mem_cons_self) (by decide)
            · obtain rfl := (List.cons.inj same).2
              exact ⟨⟨some_, all⟩, ⟨by omega, by omega⟩, value⟩
            · exact absurd (List.cons.inj same).1 (by decide)
        · have parsed : parseInt (c :: digits) =
              if c :: digits ≠ [] ∧ (c :: digits).all isDigit = true then
              (if -2 ^ 63 ≤ (digitsValue (c :: digits) : Int) ∧
                  (digitsValue (c :: digits) : Int) < 2 ^ 63 then
                some (Int64.ofInt (digitsValue (c :: digits))) else none) else none := by
            simp [parseInt, minus, plus]
          rw [parsed, some_ofInt_iff]
          constructor
          · rintro ⟨⟨some_, all⟩, ⟨_, high⟩, rfl⟩
            exact .inl ⟨high, .inl ⟨some_, all, rfl⟩⟩
          · rintro (⟨high, number | ⟨_, same, _⟩⟩ | ⟨_, _, same, _⟩)
            · obtain ⟨some_, all, value⟩ := number
              exact ⟨⟨some_, all⟩, ⟨by omega, by omega⟩, value⟩
            · exact absurd (List.cons.inj same).1 plus
            · exact absurd (List.cons.inj same).1 minus

theorem exists_atoi {part : String} (number : Signed part.toList n) :
    ∃ k, atoi part = some k ∧ k.toInt = n :=
  parseInt_iff.mpr number

theorem signed_of_atoi {part : String} (read : atoi part = some k) :
    Signed part.toList k.toInt :=
  parseInt_iff.mp ⟨k, read, rfl⟩

theorem no_minus_of_unsigned (number : Unsigned text n) : '-' ∉ text := by
  obtain ⟨_, number | ⟨digits, rfl, number⟩⟩ := number
  · intro member
    exact absurd (digits_of_numeral number member) (by decide)
  · intro member
    rcases List.mem_cons.mp member with same | member
    · exact absurd same (by decide)
    · exact absurd (digits_of_numeral number member) (by decide)

theorem unsigned_of_no_minus (number : Signed text n) (absent : '-' ∉ text) :
    Unsigned text n := by
  rcases number with number | ⟨_, digits, rfl, _⟩
  · exact number
  · exact absurd List.mem_cons_self absent

theorem head_of_unsigned (number : Unsigned text n) (rest : List Char) : text ≠ '*' :: rest := by
  rintro rfl
  obtain ⟨_, number | ⟨digits, same, _⟩⟩ := number
  · exact absurd (digits_of_numeral number List.mem_cons_self) (by decide)
  · exact absurd (List.cons.inj same).1 (by decide)

theorem ne_nil_of_unsigned (number : Unsigned text n) : text ≠ [] := by
  rintro rfl
  obtain ⟨_, number | ⟨digits, same, _⟩⟩ := number
  · exact number.1 rfl
  · exact nomatch same

theorem nonneg_of_unsigned (number : Unsigned text n) : 0 ≤ n := by
  obtain ⟨_, number | ⟨digits, _, number⟩⟩ := number
  · exact nonneg_of_numeral number
  · exact nonneg_of_numeral number

end Numbers

section Cuts

theorem cutChars_append {sep : Char} {front : List Char} (absent : sep ∉ front)
    (back : List Char) : cutChars sep (front ++ sep :: back) = (front, some back) := by
  induction front with
  | nil => simp [cutChars]
  | cons c front ih =>
      have apart : c ≠ sep := fun same => absent (same ▸ List.mem_cons_self)
      rw [List.cons_append, cutChars, if_neg apart,
        ih fun member => absent (List.mem_cons_of_mem c member)]

theorem cutChars_eq_some {sep : Char} {text front back : List Char}
    (cut : cutChars sep text = (front, some back)) :
    sep ∉ front ∧ text = front ++ sep :: back := by
  induction text generalizing front with
  | nil => exact nomatch cut
  | cons c text ih =>
      rw [cutChars] at cut
      split_ifs at cut with here
      · obtain ⟨rfl, same⟩ := Prod.mk.inj cut
        exact ⟨List.not_mem_nil, by rw [here, Option.some.inj same]; rfl⟩
      · obtain ⟨rfl, same⟩ := Prod.mk.inj cut
        obtain ⟨absent, whole⟩ := ih (Prod.ext rfl same)
        refine ⟨?_, by rw [List.cons_append, ← whole]⟩
        intro member
        rcases List.mem_cons.mp member with same | member
        · exact here same.symm
        · exact absent member

end Cuts

section Steps

variable {max step v : Int}

theorem mem_counted {i : Int} {turns : Nat} (positive : 0 < step) (begun : 0 ≤ i)
    (fits : max + step < 2 ^ 63) (enough : max - i < turns) :
    v ∈ counted max step turns i ↔ i ≤ v ∧ v ≤ max ∧ step ∣ v - i := by
  induction turns generalizing i with
  | zero =>
      simp only [counted, List.not_mem_nil, false_iff]
      omega
  | succ turns ih =>
      rw [counted]
      split_ifs with inside
      · have next : Int.bmod (i + step) (2 ^ 64) = i + step := by
          rw [Int.bmod_eq_of_le]
          · omega
          · omega
        rw [List.mem_cons, next, ih (by omega) (by omega)]
        constructor
        · rintro (rfl | ⟨low, high, divides⟩)
          · exact ⟨le_refl _, inside, by simp⟩
          · refine ⟨by omega, high, ?_⟩
            have whole : v - i = v - (i + step) + step := by omega
            rw [whole]
            exact Int.dvd_add divides (Int.dvd_refl step)
        · rintro ⟨low, high, divides⟩
          by_cases same : v = i
          · exact .inl same
          · right
            have least : step ≤ v - i := Int.le_of_dvd (by omega) divides
            refine ⟨by omega, high, ?_⟩
            have whole : v - (i + step) = v - i - step := by omega
            rw [whole]
            exact Int.dvd_sub divides (Int.dvd_refl step)
      · simp only [List.not_mem_nil, false_iff]
        omega

theorem min_of_field (f : Field) : f.min = 0 ∨ f.min = 1 := by
  cases f
  all_goals simp [Field.min]

theorem max_of_field (f : Field) : f.min + 6 ≤ f.max ∧ f.max ≤ 59 := by
  cases f
  all_goals simp [Field.min, Field.max]

/-- The values of a step from the start of a field; with the greatest step the addition
overflows, and the loop passes through two numbers below zero. -/
theorem mem_steps (f : Field) (positive : 0 < step) (fits : step < 2 ^ 63) (nonneg : 0 ≤ v) :
    v ∈ steps f.min f.max step ↔ f.min ≤ v ∧ v ≤ f.max ∧ step ∣ v - f.min := by
  obtain ⟨wide, short⟩ := max_of_field f
  have low : 0 ≤ f.min := by
    rcases min_of_field f with zero | one
    · exact zero.ge
    · omega
  by_cases apart : f.max + step < 2 ^ 63
  · exact mem_counted positive low apart (by omega)
  · have alone : f.min ≤ v ∧ v ≤ f.max ∧ step ∣ v - f.min ↔ v = f.min := by
      constructor
      · rintro ⟨above, below, divides⟩
        by_contra later
        have least : step ≤ v - f.min := Int.le_of_dvd (by omega) divides
        omega
      · rintro rfl
        exact ⟨le_refl _, by omega, by simp⟩
    rw [alone]
    by_cases greatest : f.min = 1 ∧ step = 2 ^ 63 - 1
    · obtain ⟨one, rfl⟩ := greatest
      have run : steps f.min f.max (2 ^ 63 - 1) = [1, -2 ^ 63, -1] := by
        cases f with
        | dom => rfl
        | month => rfl
        | _ => exact absurd one (by decide)
      rw [run, one]
      simp only [List.mem_cons, List.not_mem_nil, or_false]
      omega
    · have next : Int.bmod (f.min + step) (2 ^ 64) = f.min + step := by
        have := min_of_field f
        rw [Int.bmod_eq_of_le]
        · omega
        · omega
      obtain ⟨turns, count⟩ : ∃ turns, (f.max - f.min + 3).toNat = turns + 1 :=
        ⟨(f.max - f.min + 2).toNat, by omega⟩
      rw [steps, count, counted, if_pos (by omega), next]
      have ended : counted f.max step turns (f.min + step) = [] := by
        cases turns with
        | zero => rfl
        | succ turns => rw [counted, if_neg (by omega)]
      rw [ended, List.mem_singleton]

theorem mem_steps_one {start stop : Int} (begun : 0 ≤ start) (fits : stop ≤ 59) :
    v ∈ steps start stop 1 ↔ start ≤ v ∧ v ≤ stop := by
  rw [steps, mem_counted (by omega) begun (by omega) (by omega)]
  simp

end Steps

section Parts

variable {f : Field} {part : String}

/-- The grammar that the parser reads. -/
abbrev Reads (f : Field) (text : List Char) (denoted : Set Int) : Prop :=
  Item Unsigned Signed f text denoted

theorem parsePart_step {text : List Char} (starts : part.toList = '*' :: '/' :: text) (min max : Int) :
    parsePart min max part =
      match atoi (String.ofList text) with
      | none => .error ("invalid step: " ++ part)
      | some step =>
          if step.toInt ≤ 0 then .error ("invalid step: " ++ part)
          else .ok (steps min max step.toInt) := by
  have slash : hasPrefix "*/" part = true := by simp [hasPrefix, starts]
  rw [parsePart, if_pos slash, starts]
  rfl

theorem parsePart_number (noStep : hasPrefix "*/" part = false) (noEvery : part ≠ "*")
    (min max : Int) :
    parsePart min max part =
      match cut '-' part with
      | (first, some last) =>
          match atoi first, atoi last with
          | some start, some stop =>
              if start.toInt < min ∨ stop.toInt > max ∨ start.toInt > stop.toInt then
                .error ("invalid range: " ++ part)
              else .ok (steps start.toInt stop.toInt 1)
          | _, _ => .error ("invalid range: " ++ part)
      | (_, none) =>
          match atoi part with
          | none => .error ("invalid value: " ++ part)
          | some val =>
              if val.toInt < min ∨ val.toInt > max then .error ("invalid value: " ++ part)
              else .ok [val.toInt] := by
  rw [parsePart, noStep, if_neg Bool.false_ne_true]
  exact if_neg noEvery

theorem hasPrefix_step_iff :
    hasPrefix "*/" part = true ↔ ∃ text, part.toList = '*' :: '/' :: text := by
  rw [hasPrefix, List.isPrefixOf_iff_prefix]
  constructor
  · rintro ⟨text, whole⟩
    exact ⟨text, whole.symm⟩
  · rintro ⟨text, whole⟩
    exact ⟨text, whole.symm⟩

theorem number_of_noStar (noStar : ∀ text, part.toList ≠ '*' :: text) :
    hasPrefix "*/" part = false ∧ part ≠ "*" := by
  constructor
  · rw [← Bool.not_eq_true, hasPrefix_step_iff]
    rintro ⟨text, starred⟩
    exact noStar _ starred
  · rintro rfl
    exact noStar [] rfl

theorem cut_of_absent {sep : Char} (absent : sep ∉ part.toList) : (cut sep part).2 = none := by
  rw [cut, cutChars_snd_eq_none_iff.mpr absent]
  rfl

theorem parsePart_value (noStar : ∀ text, part.toList ≠ '*' :: text)
    (absent : '-' ∉ part.toList) (min max : Int) :
    parsePart min max part =
      match atoi part with
      | none => .error ("invalid value: " ++ part)
      | some val =>
          if val.toInt < min ∨ val.toInt > max then .error ("invalid value: " ++ part)
          else .ok [val.toInt] := by
  obtain ⟨noStep, noEvery⟩ := number_of_noStar noStar
  rw [parsePart_number noStep noEvery]
  have whole := cut_of_absent absent
  rcases parts : cut '-' part with ⟨first, rest⟩
  rw [parts] at whole
  obtain rfl : rest = none := whole
  rfl

theorem parsePart_range {text text' : List Char} (noStar : ∀ text, part.toList ≠ '*' :: text)
    (absent : '-' ∉ text) (split : part.toList = text ++ '-' :: text') (min max : Int) :
    parsePart min max part =
      match atoi (String.ofList text), atoi (String.ofList text') with
      | some start, some stop =>
          if start.toInt < min ∨ stop.toInt > max ∨ start.toInt > stop.toInt then
            .error ("invalid range: " ++ part)
          else .ok (steps start.toInt stop.toInt 1)
      | _, _ => .error ("invalid range: " ++ part) := by
  have parts : cut '-' part = (String.ofList text, some (String.ofList text')) := by
    rw [cut, split, cutChars_append absent]
    rfl
  obtain ⟨noStep, noEvery⟩ := number_of_noStar noStar
  rw [parsePart_number noStep noEvery, parts]

theorem parsePart_of_reads {text : List Char} {denoted : Set Int} (reads : Reads f text denoted)
    (same : part.toList = text) :
    ∃ set, parsePart f.min f.max part = .ok set ∧ ∀ v, 0 ≤ v → (v ∈ set ↔ v ∈ denoted) := by
  have wide := max_of_field f
  cases reads with
  | every =>
      obtain rfl : part = "*" := String.toList_inj.mp same
      refine ⟨steps f.min f.max 1, rfl, ?_⟩
      intro v nonneg
      rw [mem_steps f (by omega) (by omega) nonneg]
      simp
  | @step text n number positive =>
      rw [← String.toList_ofList (l := text)] at number
      obtain ⟨k, read, rfl⟩ := exists_atoi number
      refine ⟨steps f.min f.max k.toInt, ?_, ?_⟩
      · rw [parsePart_step same, read]
        exact if_neg (by omega)
      · intro v nonneg
        exact mem_steps f positive k.toInt_lt nonneg
  | value number low high =>
      rw [← same] at number
      obtain ⟨k, read, rfl⟩ := exists_atoi (.inl number)
      refine ⟨[k.toInt], ?_, ?_⟩
      · rw [parsePart_value (head_of_unsigned number) (no_minus_of_unsigned number), read]
        exact if_neg (by omega)
      · intro v _
        rw [List.mem_singleton]
        rfl
  | @range text text' m n number number' low order high =>
      have nonneg := nonneg_of_unsigned number
      have noStar : ∀ rest, part.toList ≠ '*' :: rest := by
        intro rest starred
        rw [same] at starred
        cases text with
        | nil => exact ne_nil_of_unsigned number rfl
        | cons c text =>
            obtain ⟨rfl, _⟩ := List.cons.inj starred
            exact head_of_unsigned number text rfl
      have absent := no_minus_of_unsigned number
      rw [← String.toList_ofList (l := text)] at number
      rw [← String.toList_ofList (l := text')] at number'
      obtain ⟨k, read, rfl⟩ := exists_atoi (.inl number)
      obtain ⟨k', read', rfl⟩ := exists_atoi number'
      refine ⟨steps k.toInt k'.toInt 1, ?_, ?_⟩
      · rw [parsePart_range noStar absent same, read, read']
        exact if_neg (by omega)
      · intro v _
        exact mem_steps_one nonneg (by omega)

theorem reads_of_parsePart {set : List Int} (parsed : parsePart f.min f.max part = .ok set) :
    ∃ denoted, Reads f part.toList denoted := by
  by_cases stepped : hasPrefix "*/" part = true
  · obtain ⟨text, starts⟩ := hasPrefix_step_iff.mp stepped
    rw [parsePart_step starts] at parsed
    cases read : atoi (String.ofList text) with
    | none => simp [read] at parsed
    | some k =>
        simp only [read] at parsed
        split_ifs at parsed with wrong
        have number := signed_of_atoi read
        rw [String.toList_ofList] at number
        rw [starts]
        exact ⟨_, .step number (by omega)⟩
  · by_cases every : part = "*"
    · subst every
      exact ⟨_, .every⟩
    · rw [parsePart_number (by simpa using stepped) every] at parsed
      rcases pieces : cutChars '-' part.toList with ⟨first, _ | last⟩
      · have absent := cutChars_snd_eq_none_iff.mp (congrArg Prod.snd pieces)
        rw [cut, pieces] at parsed
        simp only [Option.map_none] at parsed
        cases read : atoi part with
        | none => simp [read] at parsed
        | some k =>
            simp only [read] at parsed
            split_ifs at parsed with wrong
            have number := unsigned_of_no_minus (signed_of_atoi read) absent
            exact ⟨_, .value number (by omega) (by omega)⟩
      · obtain ⟨absent, whole⟩ := cutChars_eq_some pieces
        rw [cut, pieces] at parsed
        simp only [Option.map_some] at parsed
        cases read : atoi (String.ofList first) with
        | none => simp [read] at parsed
        | some k =>
            cases read' : atoi (String.ofList last) with
            | none => simp [read, read'] at parsed
            | some k' =>
                simp only [read, read'] at parsed
                split_ifs at parsed with wrong
                have number := signed_of_atoi read
                have number' := signed_of_atoi read'
                rw [String.toList_ofList] at number number'
                rw [whole]
                exact ⟨_, .range (unsigned_of_no_minus number absent) number' (by omega)
                  (by omega) (by omega)⟩

end Parts

section Fields

variable {f : Field} {text : String}

/-- The items of a field, without the blanks around them. -/
def items (text : String) : List (List Char) := (split ',' text).map fun part => (trimSpace part).toList

def InGrammar (f : Field) (text : String) : Prop :=
  ∀ item ∈ items text, ∃ denoted, Reads f item denoted

/-- The union of the items. -/
def denotes (f : Field) (text : String) : Set Int :=
  {v | ∃ item ∈ items text, ∃ denoted, Reads f item denoted ∧ v ∈ denoted}

theorem mapM_of_forall {A B E : Type} {g : A → Except E B} {l : List A}
    (each : ∀ a ∈ l, ∃ b, g a = .ok b) :
    ∃ bs, l.mapM g = .ok bs ∧ ∀ b, b ∈ bs ↔ ∃ a ∈ l, g a = .ok b := by
  obtain ⟨bs, all⟩ := Traverse.exists_forall₂ each
  refine ⟨bs, Traverse.mapM_eq_ok_iff.mpr all, fun b => ⟨Traverse.source_of_mem all b, ?_⟩⟩
  rintro ⟨a, member, read⟩
  obtain ⟨b', inside, read'⟩ := Traverse.partner_of_mem all a member
  obtain rfl := Except.ok.inj (read.symm.trans read')
  exact inside

theorem forall_of_mapM {A B E : Type} {g : A → Except E B} {l : List A} {bs : List B}
    (mapped : l.mapM g = .ok bs) : ∀ a ∈ l, ∃ b, g a = .ok b := by
  intro a member
  obtain ⟨b, -, read⟩ := Traverse.partner_of_mem (Traverse.mapM_eq_ok_iff.mp mapped) a member
  exact ⟨b, read⟩

theorem denoted_nonempty {item : List Char} {denoted : Set Int} (reads : Reads f item denoted) :
    ∃ v, 0 ≤ v ∧ v ∈ denoted := by
  have wide := max_of_field f
  have low : 0 ≤ f.min := by
    rcases min_of_field f with zero | one
    · exact zero.ge
    · omega
  cases reads with
  | every => exact ⟨f.min, low, le_refl _, by omega⟩
  | step _ _ => exact ⟨f.min, low, le_refl _, by omega, by simp⟩
  | @value _ n _ above _ => exact ⟨n, by omega, rfl⟩
  | @range _ _ m n _ _ above order _ => exact ⟨m, by omega, le_refl _, order⟩

theorem parseCronField_of_inGrammar (grammatical : InGrammar f text) :
    ∃ set, parseCronField text f.min f.max = .ok set ∧
      ∀ v, 0 ≤ v → (v ∈ set ↔ v ∈ denotes f text) := by
  have each : ∀ part ∈ split ',' text, ∃ denoted, Reads f (trimSpace part).toList denoted := by
    intro part member
    exact grammatical _ (List.mem_map_of_mem member)
  obtain ⟨sets, mapped, members⟩ := mapM_of_forall
    (g := fun part => parsePart f.min f.max (trimSpace part)) fun part member => by
      obtain ⟨denoted, reads⟩ := each part member
      obtain ⟨set, parsed, _⟩ := parsePart_of_reads reads rfl
      exact ⟨set, parsed⟩
  have union : ∀ v, 0 ≤ v → (v ∈ sets.flatten ↔ v ∈ denotes f text) := by
    intro v nonneg
    rw [List.mem_flatten]
    constructor
    · rintro ⟨set, member, inside⟩
      obtain ⟨part, there, parsed⟩ := (members set).mp member
      obtain ⟨denoted, reads⟩ := each part there
      obtain ⟨set', parsed', same⟩ := parsePart_of_reads reads rfl
      obtain rfl : set = set' := Except.ok.inj (parsed.symm.trans parsed')
      exact ⟨_, List.mem_map_of_mem there, denoted, reads, (same v nonneg).mp inside⟩
    · rintro ⟨item, listed, denoted, reads, inside⟩
      obtain ⟨part, there, rfl⟩ := List.mem_map.mp listed
      obtain ⟨set, parsed, same⟩ := parsePart_of_reads reads rfl
      exact ⟨set, (members set).mpr ⟨part, there, parsed⟩, (same v nonneg).mpr inside⟩
  obtain ⟨part, rest, parts⟩ : ∃ part rest, split ',' text = part :: rest := ⟨_, _, split_eq_cut _ _⟩
  obtain ⟨denoted, reads⟩ := each part (parts ▸ List.mem_cons_self)
  obtain ⟨v, nonneg, inside⟩ := denoted_nonempty reads
  have some_ : sets.flatten ≠ [] := by
    intro empty
    have listed := (union v nonneg).mpr
      ⟨_, List.mem_map_of_mem (parts ▸ List.mem_cons_self), denoted, reads, inside⟩
    rw [empty] at listed
    exact nomatch listed
  refine ⟨sets.flatten, ?_, union⟩
  rw [parseCronField, mapped]
  exact if_neg some_

theorem inGrammar_of_parseCronField {set : List Int}
    (parsed : parseCronField text f.min f.max = .ok set) : InGrammar f text := by
  rw [parseCronField] at parsed
  intro item listed
  obtain ⟨part, there, rfl⟩ := List.mem_map.mp listed
  cases mapped : (split ',' text).mapM fun part => parsePart f.min f.max (trimSpace part) with
  | error err =>
      rw [mapped] at parsed
      exact nomatch parsed
  | ok sets =>
      obtain ⟨set', here⟩ := forall_of_mapM mapped part there
      exact reads_of_parsePart here

end Fields

end Cron
