import Mathlib.Algebra.Group.Int.Defs
import Mathlib.Data.List.Basic
import Mathlib.Data.List.Infix
import PCenter.Lib.Characters

/-!
# Splitting and scanning text

The operations of Go's `strings`, `strconv` and `fmt` packages that configuration
parsers use, on strings as lists of characters. The separators are ASCII, so cutting
between bytes and cutting between characters are the same.
-/

namespace GoText

/-- `strings.Split` at a one-character separator. -/
def split (sep : Char) (s : String) : List String :=
  (s.toList.splitOn sep).map String.ofList

/-- What stands before the first separator and, if there is one, all that follows it. -/
def cutChars (sep : Char) : List Char → List Char × Option (List Char)
  | [] => ([], none)
  | c :: rest =>
      if c = sep then ([], some rest)
      else (c :: (cutChars sep rest).1, (cutChars sep rest).2)

/-- `strings.SplitN` with the limit 2, as a head and an optional tail. -/
def cut (sep : Char) (s : String) : String × Option String :=
  (String.ofList (cutChars sep s.toList).1, (cutChars sep s.toList).2.map String.ofList)

def contains (c : Char) (s : String) : Bool := s.toList.contains c

def hasPrefix (pre s : String) : Bool := pre.toList.isPrefixOf s.toList

def hasSuffix (suf s : String) : Bool := suf.toList.isSuffixOf s.toList

/-- `strings.TrimSuffix` of a suffix that is there. -/
def dropSuffix (suf s : String) : String :=
  String.ofList (s.toList.take (s.toList.length - suf.toList.length))

/-- `strings.TrimPrefix` of a prefix that is there. -/
def dropPrefix (pre s : String) : String := String.ofList (s.toList.drop pre.toList.length)

/-- `strings.Contains` -/
def includes (sub s : String) : Bool := decide (sub.toList <:+: s.toList)

/-- `strings.ToLower`, as far as letters become ASCII ones: outside ASCII there are two that do. -/
def toLower (s : String) : String :=
  String.ofList (s.toList.map fun c =>
    if c = Char.ofNat 0x130 then 'i' else if c = Char.ofNat 0x212A then 'k' else c.toLower)

theorem splitOn_eq_cutChars (sep : Char) (cs : List Char) :
    cs.splitOn sep =
      (cutChars sep cs).1 ::
        (match (cutChars sep cs).2 with
         | none => []
         | some rest => rest.splitOn sep) := by
  induction cs with
  | nil => rfl
  | cons c rest ih =>
      rw [List.splitOn_cons_eq_if_modifyHead]
      by_cases here : c = sep
      · simp [cutChars, here]
      · have elsewhere : (c == sep) = false := by simpa using here
        rw [elsewhere, if_neg Bool.false_ne_true, ih]
        simp [cutChars, here]

theorem cutChars_snd_eq_none_iff {sep : Char} {cs : List Char} :
    (cutChars sep cs).2 = none ↔ sep ∉ cs := by
  induction cs with
  | nil => simp [cutChars]
  | cons c rest ih =>
      by_cases here : c = sep
      · simp [cutChars, here]
      · simp [cutChars, here, ih, Ne.symm here]

/-- A text without the separator is its own only part. -/
theorem split_of_not_contains {sep : Char} {s : String} (absent : contains sep s = false) :
    split sep s = [s] := by
  have outside : sep ∉ s.toList := by simpa [contains] using absent
  simp [split, List.splitOn_eq_singleton outside, String.ofList_toList]

/-- Splitting goes on in the tail of the first cut. -/
theorem split_eq_cut (sep : Char) (s : String) :
    split sep s =
      (cut sep s).1 ::
        (match (cut sep s).2 with
         | none => []
         | some rest => split sep rest) := by
  unfold split cut
  rw [splitOn_eq_cutChars]
  cases (cutChars sep s.toList).2 with
  | none => rfl
  | some rest => simp [String.toList_ofList]

/-- The head of a cut ends before the first separator. -/
theorem cutChars_fst (sep : Char) (cs : List Char) :
    (cutChars sep cs).1 = cs.takeWhile (· ≠ sep) := by
  induction cs with
  | nil => rfl
  | cons c rest ih =>
      rw [cutChars, List.takeWhile_cons]
      by_cases here : c = sep
      · simp [here]
      · simp [here, ih]

/-- A text is cut at its first separator. -/
theorem cut_append {sep : Char} {head : String} (free : contains sep head = false)
    (rest : String) : cut sep (head ++ (String.singleton sep ++ rest)) = (head, some rest) := by
  have absent : sep ∉ head.toList := by simpa [contains] using free
  have parts : ∀ cs : List Char, sep ∉ cs →
      cutChars sep (cs ++ sep :: rest.toList) = (cs, some rest.toList) := by
    intro cs
    induction cs with
    | nil => simp [cutChars]
    | cons c cs ih =>
        intro none_
        have other : c ≠ sep := fun same => none_ (same ▸ List.mem_cons_self)
        have later := ih fun inside => none_ (List.mem_cons_of_mem c inside)
        rw [List.cons_append, cutChars, if_neg other, later]
  have chars : (head ++ (String.singleton sep ++ rest)).toList =
      head.toList ++ sep :: rest.toList := by simp
  rw [cut, chars, parts head.toList absent]
  simp

theorem cut_fst_of_none {sep : Char} {s : String} (whole : (cut sep s).2 = none) :
    (cut sep s).1 = s := by
  have absent : contains sep s = false := by
    have outside : (cutChars sep s.toList).2 = none := by simpa [cut] using whole
    simpa [contains] using cutChars_snd_eq_none_iff.mp outside
  have parts := split_eq_cut sep s
  rw [split_of_not_contains absent, whole] at parts
  simpa using parts.symm

/-- A text with the separator has at least two parts. -/
theorem split_of_contains {sep : Char} {s : String} (present : contains sep s = true) :
    ∃ first second rest, split sep s = first :: second :: rest := by
  rw [split_eq_cut]
  cases tail : (cut sep s).2 with
  | none =>
      have absent : sep ∉ s.toList := by
        have none_left : (cutChars sep s.toList).2 = none := by simpa [cut] using tail
        exact cutChars_snd_eq_none_iff.mp none_left
      simp [contains, absent] at present
  | some rest =>
      have parts := split_eq_cut sep rest
      exact ⟨_, _, _, congrArg ((cut sep s).1 :: ·) parts⟩

/-- Where a separator stands, the parts on both sides are split for themselves. -/
theorem split_append (sep : Char) (s t : String) :
    split sep (s ++ String.singleton sep ++ t) = split sep s ++ split sep t := by
  simp only [split, String.toList_append, String.toList_singleton, List.append_assoc,
    List.singleton_append, List.splitOn_append_cons_self, List.map_append]

theorem contains_append (c : Char) (s t : String) :
    contains c (s ++ t) = (contains c s || contains c t) := by
  simp [contains, String.toList_append]

theorem ne_nil_split (sep : Char) (s : String) : split sep s ≠ [] := by
  intro empty
  exact List.splitOn_ne_nil sep s.toList (List.map_eq_nil_iff.mp empty)

theorem hasPrefix_append (pre s : String) : hasPrefix pre (pre ++ s) = true := by
  rw [hasPrefix, List.isPrefixOf_iff_prefix, String.toList_append]
  exact List.prefix_append _ _

theorem dropPrefix_append (pre s : String) : dropPrefix pre (pre ++ s) = s := by
  rw [dropPrefix, String.toList_append, List.drop_left, String.ofList_toList]

/-- `strings.Join` is undone by `strings.Split` if no part has the separator. -/
theorem split_join {sep : Char} {parts : List String} (nonempty : parts ≠ [])
    (free : ∀ part ∈ parts, contains sep part = false) :
    split sep ((String.singleton sep).intercalate parts) = parts := by
  have chars : ∀ cell ∈ parts.map String.toList, sep ∉ cell := by
    intro cell inside
    obtain ⟨part, listed, rfl⟩ := List.mem_map.mp inside
    simpa [contains] using free part listed
  rw [split, String.toList_intercalate, String.toList_singleton,
    List.splitOn_intercalate sep chars (by simpa using nonempty)]
  simp

theorem contains_join {c sep : Char} {parts : List String} (other : c ≠ sep)
    (free : ∀ part ∈ parts, contains c part = false) :
    contains c ((String.singleton sep).intercalate parts) = false := by
  induction parts with
  | nil => simp [contains]
  | cons first rest ih =>
      have head := free first List.mem_cons_self
      cases rest with
      | nil => simpa using head
      | cons second rest =>
          have tail := ih fun part inside => free part (List.mem_cons_of_mem first inside)
          have alone : contains c (String.singleton sep) = false := by
            simpa [contains] using other
          rw [String.intercalate_cons_cons, contains_append, contains_append, head, alone, tail]
          rfl

/-- No part has the separator. -/
theorem not_mem_of_mem_splitOn {sep : Char} {text cell : List Char}
    (listed : cell ∈ text.splitOn sep) : sep ∉ cell := by
  induction text generalizing cell with
  | nil =>
      obtain rfl := List.mem_singleton.mp listed
      exact List.not_mem_nil
  | cons c text ih =>
      rw [List.splitOn_cons_eq_if_modifyHead] at listed
      split at listed
      · rcases List.mem_cons.mp listed with rfl | later
        · exact List.not_mem_nil
        · exact ih later
      · rename_i other
        have other : c ≠ sep := by simpa using other
        cases parts : text.splitOn sep with
        | nil => exact absurd parts (List.splitOn_ne_nil sep text)
        | cons first rest =>
            rw [parts] at listed ih
            rcases List.mem_cons.mp listed with rfl | later
            · have tail := ih List.mem_cons_self
              exact List.not_mem_cons_of_ne_of_not_mem other.symm tail
            · exact ih (List.mem_cons_of_mem first later)

/-- A text of two parts. -/
theorem split_eq_pair_iff {sep : Char} {s a b : String} :
    split sep s = [a, b] ↔
      s.toList = a.toList ++ sep :: b.toList ∧ sep ∉ a.toList ∧ sep ∉ b.toList := by
  constructor
  · intro parts
    obtain ⟨a', rest, cells, rfl, tail⟩ := List.map_eq_cons_iff.mp parts
    obtain ⟨b', nothing, rfl, rfl, last⟩ := List.map_eq_cons_iff.mp tail
    obtain rfl := List.map_eq_nil_iff.mp last
    have whole : [sep].intercalate (s.toList.splitOn sep) = s.toList := List.intercalate_splitOn sep
    have free := fun cell listed => @not_mem_of_mem_splitOn sep s.toList cell listed
    rw [cells] at whole free
    simp only [String.toList_ofList]
    refine ⟨by simpa using whole.symm, free a' (by simp), free b' (by simp)⟩
  · rintro ⟨whole, left, right⟩
    rw [split, whole, List.splitOn_append_cons_self_of_not_mem left, List.splitOn_eq_singleton right]
    simp

/-- A text is one part exactly when it does not contain the separator. -/
theorem length_split_iff {sep : Char} {s : String} :
    (split sep s).length = 1 ↔ contains sep s = false := by
  constructor
  · intro single
    by_contra present
    obtain ⟨first, second, rest, parts⟩ := split_of_contains (eq_true_of_ne_false present)
    rw [parts] at single
    simp at single
  · intro absent
    rw [split_of_not_contains absent]
    rfl

def isDigit (c : Char) : Bool := '0' ≤ c && c ≤ '9'

def digitValue (c : Char) : Nat := c.toNat - '0'.toNat

def digitsValue (ds : List Char) : Nat :=
  ds.foldl (fun n d => 10 * n + digitValue d) 0

/-- `strconv.ParseInt` in base 10 for 64 bits: an optional sign, at least one digit,
nothing else, and in range. -/
def parseInt (cs : List Char) : Option Int64 :=
  let negative := cs.head? = some '-'
  let digits := if cs.head? = some '-' ∨ cs.head? = some '+' then cs.tail else cs
  if digits ≠ [] ∧ digits.all isDigit then
    let n : Int := if negative then -digitsValue digits else digitsValue digits
    if -2 ^ 63 ≤ n ∧ n < 2 ^ 63 then some (Int64.ofInt n) else none
  else none

/-- `strconv.Atoi`. -/
def atoi (s : String) : Option Int64 := parseInt s.toList

/-- The blanks `fmt` skips before an operand; a newline is not one of them. -/
def isBlank (c : Char) : Bool :=
  let n := c.toNat
  (9 ≤ n && n ≤ 13 && n != 10) || n == 0x20 || n == 0x85 || n == 0xA0 || n == 0x1680 ||
    (0x2000 ≤ n && n ≤ 0x200A) || n == 0x2028 || n == 0x2029 || n == 0x202F ||
    n == 0x205F || n == 0x3000

/-- `unicode.IsSpace` -/
def isSpace (c : Char) : Bool := isBlank c || c.toNat == 10

/-- `strings.TrimSpace` -/
def trimSpace (s : String) : String :=
  String.ofList (((s.toList.dropWhile isSpace).reverse.dropWhile isSpace).reverse)

/-- `fmt.Sscanf` with `%d`: blanks, an optional sign, then as many digits as there are;
what follows them is not looked at. -/
def sscanfInt (s : String) : Option Int64 :=
  let cs := s.toList.dropWhile isBlank
  let signed := cs.head? = some '-' ∨ cs.head? = some '+'
  let sign := if signed then cs.take 1 else []
  let digits := (if signed then cs.drop 1 else cs).takeWhile isDigit
  if digits = [] then none else parseInt (sign ++ digits)

/-- `strconv.Itoa`. -/
def itoa (n : Int64) : String := toString n.toInt

theorem toDigits_all_isDigit (n : Nat) : (Nat.toDigits 10 n).all isDigit = true := by
  refine List.all_eq_true.mpr fun c member => ?_
  have digit := Nat.isDigit_of_mem_toDigits (by omega) (by omega) member
  simpa [isDigit, Char.isDigit, Char.le_def] using digit

theorem digitsValue_toDigits (n : Nat) : digitsValue (Nat.toDigits 10 n) = n :=
  Nat.ofDigitChars_ten_toDigits

theorem toList_itoa (n : Int64) :
    (itoa n).toList =
      if 0 ≤ n.toInt then Nat.toDigits 10 n.toInt.toNat
      else '-' :: Nat.toDigits 10 (-n.toInt).toNat := by
  by_cases positive : 0 ≤ n.toInt
  · rw [itoa, Int.toString_eq_repr, Int.repr_eq_if, if_pos positive, if_pos positive,
      Nat.toList_repr]
  · rw [itoa, Int.toString_eq_repr, Int.repr_eq_if, if_neg positive, if_neg positive,
      String.toList_append, Nat.toList_repr]
    rfl

/-- A number is read back from its decimal representation. -/
theorem atoi_itoa (n : Int64) : atoi (itoa n) = some n := by
  have low := n.le_toInt
  have high := n.toInt_lt
  by_cases positive : 0 ≤ n.toInt
  · have chars := toList_itoa n
    rw [if_pos positive] at chars
    obtain ⟨c, rest, digits⟩ : ∃ c rest, Nat.toDigits 10 n.toInt.toNat = c :: rest :=
      List.exists_cons_of_ne_nil Nat.toDigits_ne_nil
    have digit : isDigit c = true :=
      List.all_eq_true.mp (toDigits_all_isDigit n.toInt.toNat) c (digits ▸ List.mem_cons_self)
    have unsigned : c ≠ '-' ∧ c ≠ '+' := by
      refine ⟨?_, ?_⟩ <;> rintro rfl <;> exact absurd digit (by decide)
    have all := toDigits_all_isDigit n.toInt.toNat
    have value := digitsValue_toDigits n.toInt.toNat
    rw [digits] at all value
    have bounds : -2 ^ 63 ≤ (digitsValue (c :: rest) : Int) ∧
        (digitsValue (c :: rest) : Int) < 2 ^ 63 := by omega
    have same : Int64.ofInt (digitsValue (c :: rest) : Int) = n := by
      rw [value, Int.toNat_of_nonneg positive, Int64.ofInt_toInt]
    simp only [atoi, chars, digits, parseInt, List.head?_cons, Option.some.injEq, unsigned.1,
      unsigned.2, or_self, if_false, all, ne_eq, reduceCtorEq, not_false_eq_true, and_self,
      if_true, bounds, same]
  · have chars := toList_itoa n
    rw [if_neg positive] at chars
    have value : (digitsValue (Nat.toDigits 10 (-n.toInt).toNat) : Int) = -n.toInt := by
      rw [digitsValue_toDigits, Int.toNat_of_nonneg (by omega)]
    have all := toDigits_all_isDigit (-n.toInt).toNat
    have bounds : -9223372036854775808 ≤ n.toInt ∧ n.toInt < 9223372036854775808 :=
      ⟨low, high⟩
    simp [atoi, chars, parseInt, Nat.toDigits_ne_nil, value, all, bounds]

theorem itoa_ne_empty (n : Int64) : itoa n ≠ "" := by
  intro empty
  have read := atoi_itoa n
  rw [empty] at read
  exact nomatch read

theorem mem_itoa {n : Int64} {c : Char} (member : c ∈ (itoa n).toList) :
    c = '-' ∨ isDigit c = true := by
  have digits (m : Nat) : ∀ d ∈ Nat.toDigits 10 m, isDigit d = true :=
    List.all_eq_true.mp (toDigits_all_isDigit m)
  rw [toList_itoa] at member
  split at member
  · exact .inr (digits _ c member)
  · rcases List.mem_cons.mp member with rfl | later
    · exact .inl rfl
    · exact .inr (digits _ c later)

/-- A number is written with digits and a dash only. -/
theorem contains_itoa {c : Char} (dash : c ≠ '-') (digit : isDigit c = false) (n : Int64) :
    contains c (itoa n) = false := by
  have absent : c ∉ (itoa n).toList := by
    intro member
    rcases mem_itoa member with same | isIn
    · exact dash same
    · rw [digit] at isIn
      cases isIn
  simpa [contains] using absent

theorem itoa_injective {m n : Int64} (same : itoa m = itoa n) : m = n :=
  Option.some.inj ((atoi_itoa m).symm.trans ((congrArg atoi same).trans (atoi_itoa n)))

example : (sscanfInt " 42 and more", atoi "42 and more", atoi "+42") =
    (some 42, none, some 42) := by decide

end GoText
