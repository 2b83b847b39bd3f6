import Mathlib.Algebra.BigOperators.Group.List.Basic
import Mathlib.Algebra.GroupWithZero.Nat
import Mathlib.Algebra.Order.BigOperators.Group.List
import Mathlib.Algebra.Order.Group.Nat
import Mathlib.Data.List.Nodup
import Mathlib.Data.List.Sort
import Mathlib.Data.List.TakeWhile
import PCenter.Lib.Characters

/-!
# Form bodies

The encoding `application/x-www-form-urlencoded` on bytes: pairs are joined by `&`, a key
and its value by `=`, and in both a space is `+` and other special bytes are percent
escapes. `encodeForm` is Go's `url.Values.Encode`. A body that joins its pairs without
escaping them is read back correctly only when no value contains `&` or something that
looks like an escape, whatever the other values are: `decodeForm_rawForm_perm_iff`, and
`decodeForm_rawForm_perm_self_iff` for any keys and values.
-/

namespace Form

abbrev Bytes := List UInt8

abbrev Pair := Bytes × Bytes

def utf8 (s : String) : Bytes := s.toList.flatMap String.utf8EncodeChar

theorem utf8_ne_nil {s : String} (nonempty : s ≠ "") : utf8 s ≠ [] := by
  intro empty
  cases chars : s.toList with
  | nil => exact nonempty (String.toList_inj.mp (by simpa using chars))
  | cons c rest =>
      rw [utf8, chars, List.flatMap_cons, List.append_eq_nil_iff] at empty
      exact String.utf8EncodeChar_ne_nil empty.1

theorem utf8_injective {s t : String} (same : utf8 s = utf8 t) : s = t := by
  have encoded : s.toList.utf8Encode = t.toList.utf8Encode := congrArg List.toByteArray same
  rwa [String.utf8Encode_toList, String.utf8Encode_toList, String.toByteArray_inj] at encoded

abbrev ampersand : UInt8 := 38
abbrev equals : UInt8 := 61
abbrev percent : UInt8 := 37
abbrev plus : UInt8 := 43
abbrev space : UInt8 := 32

section Escapes

/-- Letters, digits and `-_.~`. -/
def unreserved (b : UInt8) : Bool :=
  (65 ≤ b && b ≤ 90) || (97 ≤ b && b ≤ 122) || (48 ≤ b && b ≤ 57) || b == 45 || b == 95 ||
    b == 46 || b == 126

def hexDigit (n : Nat) : UInt8 := if n < 10 then UInt8.ofNat (48 + n) else UInt8.ofNat (55 + n)

def unhex (b : UInt8) : Option Nat :=
  if 48 ≤ b ∧ b ≤ 57 then some (b.toNat - 48)
  else if 65 ≤ b ∧ b ≤ 70 then some (b.toNat - 55)
  else if 97 ≤ b ∧ b ≤ 102 then some (b.toNat - 87)
  else none

def escapeByte (b : UInt8) : Bytes :=
  if unreserved b then [b]
  else if b = space then [plus]
  else [percent, hexDigit (b.toNat / 16), hexDigit (b.toNat % 16)]

/-- `url.QueryEscape` -/
def escape (bs : Bytes) : Bytes := bs.flatMap escapeByte

/-- The reading of a key or a value; an escape without two digits stands for itself. -/
def unescape : Bytes → Bytes
  | [] => []
  | [b] => [if b = plus then space else b]
  | [b, c] => (if b = plus then space else b) :: unescape [c]
  | b :: h :: l :: rest =>
      if b = percent then
        match unhex h, unhex l with
        | some high, some low => UInt8.ofNat (16 * high + low) :: unescape rest
        | _, _ => percent :: unescape (h :: l :: rest)
      else (if b = plus then space else b) :: unescape (h :: l :: rest)

theorem unescape_cons {b : UInt8} (ordinary : b ≠ percent) (rest : Bytes) :
    unescape (b :: rest) = (if b = plus then space else b) :: unescape rest := by
  match rest with
  | [] => rfl
  | [_] => rfl
  | _ :: _ :: _ => rw [unescape, if_neg ordinary]

/-- Bytes that begin no escape and stand for no space are read as they are. -/
theorem unescape_of_ordinary {bs : Bytes} (ordinary : ∀ b ∈ bs, b ≠ percent ∧ b ≠ plus) :
    unescape bs = bs := by
  induction bs with
  | nil => rfl
  | cons b rest ih =>
      have first := ordinary b (by simp)
      have later := ih fun c member => ordinary c (by simp [member])
      rw [unescape_cons first.1, if_neg first.2, later]

theorem length_unescape_le (bs : Bytes) : (unescape bs).length ≤ bs.length := by
  fun_induction unescape bs <;> grind

theorem unhex_hexDigit : ∀ n < 16, unhex (hexDigit n) = some n := by decide

theorem unescape_escapeByte (b : UInt8) (rest : Bytes) :
    unescape (escapeByte b ++ rest) = b :: unescape rest := by
  by_cases free : unreserved b = true
  · have notPercent : b ≠ percent := by rintro rfl; exact absurd free (by decide)
    have notPlus : b ≠ plus := by rintro rfl; exact absurd free (by decide)
    simp [escapeByte, free, unescape_cons notPercent, notPlus]
  · by_cases blank : b = space
    · subst blank
      simp [escapeByte, free, unescape_cons (b := plus) (by decide)]
    · have high := unhex_hexDigit (b.toNat / 16) (by have := b.toNat_lt; omega)
      have low := unhex_hexDigit (b.toNat % 16) (by omega)
      have whole : 16 * (b.toNat / 16) + b.toNat % 16 = b.toNat := by omega
      simp [escapeByte, free, blank, unescape, high, low, whole]

theorem unescape_escape (bs : Bytes) : unescape (escape bs) = bs := by
  induction bs with
  | nil => rfl
  | cons b rest ih =>
      rw [escape, List.flatMap_cons, unescape_escapeByte]
      exact congrArg (b :: ·) ih

theorem separators_not_mem_hexDigit : ∀ n < 16,
    hexDigit n ≠ ampersand ∧ hexDigit n ≠ equals := by decide

theorem separators_not_mem_escape (bs : Bytes) :
    ampersand ∉ escape bs ∧ equals ∉ escape bs := by
  have bytewise : ∀ b : UInt8, ∀ c ∈ escapeByte b, c ≠ ampersand ∧ c ≠ equals := by
    intro b c member
    by_cases free : unreserved b = true
    · obtain rfl : c = b := by simpa [escapeByte, free] using member
      refine ⟨?_, ?_⟩ <;> rintro rfl <;> exact absurd free (by decide)
    · by_cases blank : b = space
      · obtain rfl : c = plus := by
          simpa [escapeByte, free, show unreserved space = false by decide, blank] using member
        exact ⟨by decide, by decide⟩
      · have digits : c = percent ∨ c = hexDigit (b.toNat / 16) ∨ c = hexDigit (b.toNat % 16) := by
          simpa [escapeByte, free, blank] using member
        rcases digits with rfl | rfl | rfl
        · exact ⟨by decide, by decide⟩
        · exact separators_not_mem_hexDigit _ (by have := b.toNat_lt; omega)
        · exact separators_not_mem_hexDigit _ (by omega)
  constructor
  · intro member
    obtain ⟨b, -, inside⟩ := List.mem_flatMap.mp member
    exact (bytewise b _ inside).1 rfl
  · intro member
    obtain ⟨b, -, inside⟩ := List.mem_flatMap.mp member
    exact (bytewise b _ inside).2 rfl

end Escapes

section Bodies

def joinPairs (pieces : List Bytes) : Bytes := [ampersand].intercalate pieces

def rawPair (p : Pair) : Bytes := p.1 ++ equals :: p.2

/-- `url.Values.Encode`: by key, everything escaped. -/
def encodeForm (ps : List Pair) : Bytes :=
  joinPairs ((ps.insertionSort (fun p q => p.1 ≤ q.1)).map fun p =>
    rawPair (escape p.1, escape p.2))

/-- The pairs joined as they are. -/
def rawForm (ps : List Pair) : Bytes := joinPairs (ps.map rawPair)

def inKey (b : UInt8) : Bool := b ≠ equals

def readPair (piece : Bytes) : Pair :=
  (unescape (piece.takeWhile inKey), unescape ((piece.dropWhile inKey).drop 1))

/-- The receiver's reading of a body; empty pieces do not count. -/
def decodeForm (body : Bytes) : List Pair :=
  ((body.splitOn ampersand).filter (· ≠ [])).map readPair

theorem readPair_rawPair {k : Bytes} (plain : equals ∉ k) (v : Bytes) :
    readPair (rawPair (k, v)) = (unescape k, unescape v) := by
  have before : ∀ b ∈ k, inKey b = true := by
    intro b member
    exact decide_eq_true fun same => plain (same ▸ member)
  have stop : inKey equals = false := by decide
  simp [readPair, rawPair, List.takeWhile_append_of_pos before,
    List.dropWhile_append_of_pos before, stop]

theorem splitOn_joinPairs {pieces : List Bytes} (nonempty : pieces ≠ []) :
    (joinPairs pieces).splitOn ampersand = pieces.flatMap (·.splitOn ampersand) := by
  induction pieces with
  | nil => exact absurd rfl nonempty
  | cons p rest ih =>
      cases rest with
      | nil => simp [joinPairs]
      | cons q rest =>
          have later := ih (by simp)
          rw [joinPairs, List.intercalate_cons_cons, List.append_assoc, List.singleton_append,
            List.splitOn_append_cons_self, List.flatMap_cons]
          exact congrArg (p.splitOn ampersand ++ ·) later

/-- Pairs without a raw `&` are the pieces of the body that joins them. -/
theorem decodeForm_joinPairs {ps : List Pair} (whole : ∀ p ∈ ps, ampersand ∉ rawPair p) :
    decodeForm (joinPairs (ps.map rawPair)) = ps.map fun p => readPair (rawPair p) := by
  cases ps with
  | nil => rfl
  | cons p rest =>
      have single : ∀ piece ∈ (p :: rest).map rawPair, ampersand ∉ piece := by
        intro piece member
        obtain ⟨q, listed, rfl⟩ := List.mem_map.mp member
        exact whole q listed
      have pieces : (joinPairs ((p :: rest).map rawPair)).splitOn ampersand =
          (p :: rest).map rawPair :=
        List.splitOn_intercalate ampersand single (by simp)
      have kept : ((p :: rest).map rawPair).filter (· ≠ []) = (p :: rest).map rawPair := by
        refine List.filter_eq_self.mpr fun piece member => ?_
        obtain ⟨q, -, rfl⟩ := List.mem_map.mp member
        simp [rawPair]
      rw [decodeForm, pieces, kept, List.map_map]
      rfl

/-- An encoded body is read back, up to the order of its keys. -/
theorem decodeForm_encodeForm_perm (ps : List Pair) :
    (decodeForm (encodeForm ps)).Perm ps := by
  let sorted := ps.insertionSort (fun p q => p.1 ≤ q.1)
  have sameBody : encodeForm ps =
      joinPairs ((sorted.map fun p => (escape p.1, escape p.2)).map rawPair) := by
    rw [List.map_map]
    rfl
  have whole : ∀ p ∈ sorted.map (fun p => (escape p.1, escape p.2)),
      ampersand ∉ rawPair p := by
    intro p member
    obtain ⟨q, -, rfl⟩ := List.mem_map.mp member
    have apart : ampersand ≠ equals := by decide
    simp [rawPair, (separators_not_mem_escape q.1).1, (separators_not_mem_escape q.2).1, apart]
  have readBack : ∀ q : Pair, readPair (rawPair (escape q.1, escape q.2)) = q := by
    intro q
    rw [readPair_rawPair (separators_not_mem_escape q.1).2, unescape_escape, unescape_escape]
  rw [sameBody, decodeForm_joinPairs whole, List.map_map]
  have same : (fun p => readPair (rawPair p)) ∘ (fun p : Pair => (escape p.1, escape p.2)) =
      id := funext readBack
  rw [same, List.map_id]
  exact List.perm_insertionSort _ ps

end Bodies

section Raw

/-- A key that needs no escaping. -/
def PlainKey (k : Bytes) : Prop := ampersand ∉ k ∧ equals ∉ k ∧ unescape k = k

/-- A value that is read back although it was not escaped. -/
def SafeValue (v : Bytes) : Prop := ampersand ∉ v ∧ unescape v = v

instance (k : Bytes) : Decidable (PlainKey k) := inferInstanceAs (Decidable (_ ∧ _ ∧ _))

instance (v : Bytes) : Decidable (SafeValue v) := inferInstanceAs (Decidable (_ ∧ _))

theorem decodeForm_rawForm {ps : List Pair} (keys : ∀ p ∈ ps, PlainKey p.1)
    (values : ∀ p ∈ ps, SafeValue p.2) : decodeForm (rawForm ps) = ps := by
  have whole : ∀ p ∈ ps, ampersand ∉ rawPair p := by
    intro p listed
    have apart : ampersand ≠ equals := by decide
    simp [rawPair, (keys p listed).1, (values p listed).1, apart]
  rw [rawForm, decodeForm_joinPairs whole]
  refine (List.map_congr_left fun p listed => ?_).trans (List.map_id ps)
  rw [readPair_rawPair (keys p listed).2.1, (keys p listed).2.2, (values p listed).2]
  rfl

/-- A pair that needs no escaping is read among the others, whatever they are. -/
theorem mem_decodeForm_rawForm {ps : List Pair} {p : Pair} (listed : p ∈ ps)
    (key : PlainKey p.1) (value : SafeValue p.2) : p ∈ decodeForm (rawForm ps) := by
  have apart : ampersand ≠ equals := by decide
  have whole : ampersand ∉ rawPair p := by simp [rawPair, key.1, value.1, apart]
  have pieces : (rawForm ps).splitOn ampersand = (ps.map rawPair).flatMap (·.splitOn ampersand) :=
    splitOn_joinPairs (by simpa using List.ne_nil_of_mem listed)
  have piece : rawPair p ∈ (rawForm ps).splitOn ampersand := by
    rw [pieces]
    refine List.mem_flatMap.mpr ⟨rawPair p, List.mem_map_of_mem listed, ?_⟩
    simp [List.splitOn_eq_singleton whole]
  have nonempty : rawPair p ≠ [] := by simp [rawPair]
  have read : readPair (rawPair p) = p := by
    rw [readPair_rawPair key.2.1, key.2.2, value.2]
  exact List.mem_map.mpr ⟨rawPair p, by simpa [nonempty] using piece, read⟩

/-- The bytes a pair takes in a body, with its `=` and one `&`. -/
def weight (p : Pair) : Nat := p.1.length + p.2.length + 2

theorem length_joinPairs (pieces : List Bytes) (nonempty : pieces ≠ []) :
    (joinPairs pieces).length + 1 = (pieces.map (·.length + 1)).sum := by
  induction pieces with
  | nil => exact absurd rfl nonempty
  | cons p rest ih =>
      cases rest with
      | nil => simp [joinPairs]
      | cons q rest =>
          have later := ih (by simp)
          simp only [joinPairs] at later
          simp only [joinPairs, List.intercalate_cons_cons, List.length_append,
            List.length_singleton, List.map_cons, List.sum_cons] at later ⊢
          omega

theorem length_eq_sum_pieces (body : Bytes) :
    body.length + 1 = ((body.splitOn ampersand).map (·.length + 1)).sum := by
  have joined := length_joinPairs _ (List.splitOn_ne_nil ampersand body)
  rwa [joinPairs, List.intercalate_splitOn] at joined

theorem exists_parts {piece : Bytes} (valued : equals ∈ piece) :
    ∃ key value, piece = key ++ equals :: value ∧ equals ∉ key ∧
      readPair piece = (unescape key, unescape value) := by
  obtain ⟨key, value, rfl, outside⟩ := List.eq_append_cons_of_mem valued
  exact ⟨key, value, rfl, outside, readPair_rawPair outside value⟩

/-- A piece with an `=` is not longer when it is read. -/
theorem weight_readPair_le_of_mem {piece : Bytes} (valued : equals ∈ piece) :
    weight (readPair piece) ≤ piece.length + 1 := by
  obtain ⟨key, value, rfl, -, reads⟩ := exists_parts valued
  have first := length_unescape_le key
  have second := length_unescape_le value
  simp only [reads, weight, List.length_append, List.length_cons]
  omega

theorem weight_readPair_le {piece : Bytes} (valued : (readPair piece).2 ≠ []) :
    weight (readPair piece) ≤ piece.length + 1 := by
  apply weight_readPair_le_of_mem
  by_contra absent
  apply valued
  have before : ∀ b ∈ piece, inKey b = true := by
    intro b member
    exact decide_eq_true fun same => absent (same ▸ member)
  simp [readPair, List.dropWhile_eq_nil_iff.mpr before, unescape]

theorem length_splitOn_pos (piece : Bytes) : 0 < (piece.splitOn ampersand).length :=
  List.length_pos_iff.mpr (List.splitOn_ne_nil ampersand piece)

theorem not_mem_of_length_splitOn {piece : Bytes}
    (single : (piece.splitOn ampersand).length = 1) : ampersand ∉ piece := by
  intro member
  obtain ⟨before, after, rfl⟩ := List.append_of_mem member
  rw [List.splitOn_append_cons_self, List.length_append] at single
  have first := length_splitOn_pos before
  have second := length_splitOn_pos after
  omega

theorem sum_kept_add_length (pieces : List Bytes) :
    ((pieces.filter (· ≠ [])).map (·.length + 1)).sum + pieces.length =
      (pieces.map (·.length + 1)).sum + (pieces.filter (· ≠ [])).length := by
  induction pieces with
  | nil => rfl
  | cons p rest ih =>
      cases p with
      | nil => simp at ih ⊢; omega
      | cons b p => simp at ih ⊢; omega

theorem forall_eq_one_of_sum_le {A : Type*} {f : A → Nat} {l : List A}
    (positive : ∀ a ∈ l, 0 < f a) (small : (l.map f).sum ≤ l.length) : ∀ a ∈ l, f a = 1 := by
  induction l with
  | nil => simp
  | cons a rest ih =>
      have first := positive a (by simp)
      have others : rest.length ≤ (rest.map f).sum := by
        have each := List.length_le_sum_of_one_le (rest.map f) (by
          intro n member
          obtain ⟨b, listed, rfl⟩ := List.mem_map.mp member
          exact positive b (by simp [listed]))
        simpa using each
      simp only [List.map_cons, List.sum_cons, List.length_cons] at small
      rintro b (_ | ⟨_, listed⟩)
      · omega
      · exact ih (fun c member => positive c (by simp [member])) (by omega) b listed

/-- A joined body that reads as its pairs and some more has no more, and no `&` inside. -/
theorem forced_of_perm {ps xs : List Pair} (some_pair : ps ≠ [])
    (valued : ∀ p ∈ ps ++ xs, p.2 ≠ []) (reads : (decodeForm (rawForm ps)).Perm (ps ++ xs)) :
    xs = [] ∧ ∀ p ∈ ps, ampersand ∉ rawPair p := by
  let pieces := (rawForm ps).splitOn ampersand
  let kept := pieces.filter (· ≠ [])
  have body : (pieces.map (·.length + 1)).sum = (ps.map weight).sum := by
    have joined := length_joinPairs (ps.map rawPair) (by simpa using some_pair)
    have weights : (ps.map rawPair).map (·.length + 1) = ps.map weight := by
      rw [List.map_map]
      refine List.map_congr_left fun p _ => ?_
      simp [rawPair, weight]
      omega
    rw [weights] at joined
    rw [← joined]
    exact (length_eq_sum_pieces _).symm
  have total : ((decodeForm (rawForm ps)).map weight).sum =
      (ps.map weight).sum + (xs.map weight).sum := by
    rw [(reads.map weight).sum_eq, List.map_append, List.sum_append]
  have reading : ((decodeForm (rawForm ps)).map weight).sum ≤
      (kept.map (·.length + 1)).sum := by
    rw [decodeForm, List.map_map]
    refine List.sum_le_sum fun piece member => weight_readPair_le ?_
    exact valued _ (reads.subset (List.mem_map_of_mem member))
  have counted : (kept.map (·.length + 1)).sum + pieces.length =
      (pieces.map (·.length + 1)).sum + kept.length := sum_kept_add_length pieces
  have fewer : kept.length ≤ pieces.length := List.length_filter_le _ _
  have read_length : kept.length = ps.length + xs.length := by
    have lengths := reads.length_eq
    rwa [decodeForm, List.length_map, List.length_append] at lengths
  have nothing_more : (xs.map weight).sum = 0 := by omega
  have none_left : xs = [] := by
    cases xs with
    | nil => rfl
    | cons x rest =>
        simp only [List.map_cons, List.sum_cons, weight] at nothing_more
        omega
  refine ⟨none_left, fun p listed => not_mem_of_length_splitOn ?_⟩
  have perPair : pieces = (ps.map rawPair).flatMap (·.splitOn ampersand) :=
    splitOn_joinPairs (by simpa using some_pair)
  have count : (ps.map fun p => ((rawPair p).splitOn ampersand).length).sum ≤ ps.length := by
    have lengths : pieces.length =
        (ps.map fun p => ((rawPair p).splitOn ampersand).length).sum := by
      rw [perPair, List.length_flatMap, List.map_map]
      rfl
    simp only [none_left, List.length_nil] at read_length
    omega
  exact forall_eq_one_of_sum_le (fun q _ => length_splitOn_pos (rawPair q)) count p listed

/-- A body joined without escaping reads as the pairs it joins, with others or without,
only when there are no others and every value is safe. -/
theorem decodeForm_rawForm_perm_iff {ps xs : List Pair} (keys : ∀ p ∈ ps, PlainKey p.1)
    (distinct : (ps.map (·.1)).Nodup) (valued : ∀ p ∈ ps ++ xs, p.2 ≠ []) :
    (decodeForm (rawForm ps)).Perm (ps ++ xs) ↔ xs = [] ∧ ∀ p ∈ ps, SafeValue p.2 := by
  constructor
  · intro reads
    by_cases empty : ps = []
    · subst empty
      exact ⟨reads.nil_eq.symm, by simp⟩
    · obtain ⟨none_left, whole⟩ := forced_of_perm empty valued reads
      refine ⟨none_left, fun p listed => ?_⟩
      have outside : ampersand ∉ p.2 := fun inside => whole p listed (by simp [rawPair, inside])
      have member : readPair (rawPair p) ∈ decodeForm (rawForm ps) := by
        rw [rawForm, decodeForm_joinPairs whole]
        exact List.mem_map_of_mem listed
      rw [readPair_rawPair (keys p listed).2.1, (keys p listed).2.2] at member
      have inPairs : (p.1, unescape p.2) ∈ ps := by
        have there := reads.subset member
        rwa [none_left, List.append_nil] at there
      have same := List.inj_on_of_nodup_map distinct inPairs listed rfl
      exact ⟨outside, congrArg (·.2) same⟩
  · rintro ⟨rfl, values⟩
    rw [decodeForm_rawForm keys values, List.append_nil]

end Raw

section Exact

/-- A list that an idempotent function permutes is fixed by it. -/
theorem fixed_of_perm {A : Type*} {f : A → A} {l : List A} (perm : (l.map f).Perm l)
    (again : ∀ a ∈ l, f (f a) = f a) : ∀ a ∈ l, f a = a := by
  intro a listed
  obtain ⟨b, member, rfl⟩ := List.mem_map.mp (perm.mem_iff.mpr listed)
  exact again b member

theorem forall_eq_of_sum_eq {A : Type*} {f g : A → Nat} {l : List A}
    (below : ∀ a ∈ l, f a ≤ g a) (same : (l.map f).sum = (l.map g).sum) :
    ∀ a ∈ l, f a = g a := by
  induction l with
  | nil => simp
  | cons a rest ih =>
      have first := below a (by simp)
      have later : ∀ b ∈ rest, f b ≤ g b := fun b member => below b (by simp [member])
      have others := List.sum_le_sum later
      simp only [List.map_cons, List.sum_cons] at same
      rintro b (_ | ⟨_, listed⟩)
      · omega
      · exact ih later (by omega) b listed

def blank (b : UInt8) : UInt8 := if b = plus then space else b

/-- No escape and no plus sign: the bytes are read as they are. -/
structure Literal (bs : Bytes) : Prop where
  plus : plus ∉ bs
  escape : ∀ h l, (unhex h).isSome → (unhex l).isSome → ¬ [percent, h, l] <:+: bs

/-- A text that does not shrink is read byte by byte. -/
theorem unescape_of_length {bs : Bytes} (whole : (unescape bs).length = bs.length) :
    unescape bs = bs.map blank := by
  fun_induction unescape bs with
  | case1 => rfl
  | case2 b => rfl
  | case3 b c ih =>
      simp only [List.length_cons, Nat.add_right_cancel_iff] at whole
      rw [ih (by simpa using whole)]
      rfl
  | case4 h l rest high low hh hl ih =>
      have shorter := length_unescape_le rest
      simp only [List.length_cons] at whole
      omega
  | case5 h l rest absent ih =>
      simp only [List.length_cons, Nat.add_right_cancel_iff] at whole
      rw [ih (by simpa using whole)]
      rfl
  | case6 b h l rest ordinary ih =>
      simp only [List.length_cons, Nat.add_right_cancel_iff] at whole
      rw [ih (by simpa using whole)]
      rfl

theorem literal_tail {b : UInt8} {bs : Bytes} (literal : Literal (b :: bs)) : Literal bs :=
  ⟨fun member => literal.plus (List.mem_cons_of_mem _ member),
    fun h l high low inside => literal.escape h l high low (inside.trans (List.suffix_cons b bs).isInfix)⟩

theorem unescape_of_literal {bs : Bytes} (literal : Literal bs) : unescape bs = bs := by
  fun_induction unescape bs with
  | case1 => rfl
  | case2 b =>
      rw [if_neg]
      rintro rfl
      exact literal.plus (by simp)
  | case3 b c ih =>
      rw [ih (literal_tail literal), if_neg]
      rintro rfl
      exact literal.plus (by simp)
  | case4 h l rest high low hh hl ih =>
      exfalso
      exact literal.escape h l (by rw [hl]; rfl) (by rw [hh]; rfl) ⟨[], rest, rfl⟩
  | case5 h l rest absent ih => rw [ih (literal_tail literal)]
  | case6 b h l rest ordinary ih =>
      rw [ih (literal_tail literal), if_neg]
      rintro rfl
      exact literal.plus (by simp)

/-- A text that does not shrink has no escape. -/
theorem escape_free_of_length {bs : Bytes} (whole : (unescape bs).length = bs.length) {h l : UInt8}
    (high : (unhex h).isSome) (low : (unhex l).isSome) : ¬ [percent, h, l] <:+: bs := by
  fun_induction unescape bs with
  | case1 => simp
  | case2 b => simp [List.infix_cons_iff]
  | case3 b c ih => simp [List.infix_cons_iff]
  | case4 h' l' rest low' high' =>
      have shorter := length_unescape_le rest
      simp only [List.length_cons] at whole
      omega
  | case5 h' l' rest absent ih =>
      simp only [List.length_cons, Nat.add_right_cancel_iff] at whole
      intro inside
      rcases List.infix_cons_iff.mp inside with first | later
      · obtain ⟨rfl, rfl⟩ : h = h' ∧ l = l' := by simpa using first
        obtain ⟨m, found⟩ := Option.isSome_iff_exists.mp high
        obtain ⟨n, found'⟩ := Option.isSome_iff_exists.mp low
        exact absent m n found found'
      · exact ih (by simpa using whole) later
  | case6 b h' l' rest ordinary ih =>
      simp only [List.length_cons, Nat.add_right_cancel_iff] at whole
      intro inside
      rcases List.infix_cons_iff.mp inside with first | later
      · exact ordinary (List.cons_prefix_cons.mp first).1.symm
      · exact ih (by simpa using whole) later

theorem blank_ne_plus (b : UInt8) : blank b ≠ plus := by
  rw [blank]
  split_ifs with same
  · decide
  · exact same

theorem blank_eq {b c : UInt8} (same : blank b = c) (other : c ≠ space) : b = c := by
  rw [blank] at same
  split_ifs at same with swapped
  · exact absurd same.symm other
  · exact same

/-- What is read from a text that does not shrink is read as it is. -/
theorem unescape_again {bs : Bytes} (whole : (unescape bs).length = bs.length) :
    unescape (unescape bs) = unescape bs := by
  apply unescape_of_literal
  rw [unescape_of_length whole]
  refine ⟨?_, ?_⟩
  · intro member
    obtain ⟨b, -, same⟩ := List.mem_map.mp member
    exact blank_ne_plus b same
  · intro h l high low escape
    have digit (d : UInt8) (hex : (unhex d).isSome) : d ≠ space := by
      rintro rfl
      exact absurd hex (by decide)
    obtain ⟨inner, inside, same⟩ := List.infix_map_iff.mp escape
    obtain ⟨p, _, rfl, percentSame, others⟩ := List.map_eq_cons_iff.mp same.symm
    obtain ⟨h', _, rfl, highSame, last⟩ := List.map_eq_cons_iff.mp others
    obtain ⟨l', _, rfl, lowSame, done⟩ := List.map_eq_cons_iff.mp last
    obtain rfl := List.map_eq_nil_iff.mp done
    obtain rfl := blank_eq percentSame (by decide)
    obtain rfl := blank_eq highSame (digit h high)
    obtain rfl := blank_eq lowSame (digit l low)
    exact escape_free_of_length whole high low inside

/-- A text is read as it is exactly when it is literal. -/
theorem unescape_eq_iff {bs : Bytes} : unescape bs = bs ↔ Literal bs := by
  constructor
  · intro same
    have whole := congrArg List.length same
    refine ⟨?_, fun h l high low => escape_free_of_length whole high low⟩
    intro member
    rw [← same, unescape_of_length whole] at member
    obtain ⟨b, -, swapped⟩ := List.mem_map.mp member
    exact blank_ne_plus b swapped
  · exact unescape_of_literal

/-- The pieces of one pair that count. -/
def keptPieces (p : Pair) : List Bytes := ((rawPair p).splitOn ampersand).filter (· ≠ [])

theorem decodeForm_rawForm_eq (ps : List Pair) :
    decodeForm (rawForm ps) = ps.flatMap fun p => (keptPieces p).map readPair := by
  by_cases empty : ps = []
  · subst empty
    rfl
  · have nonempty : ps.map rawPair ≠ [] := by simpa using empty
    rw [decodeForm, rawForm, splitOn_joinPairs nonempty, List.flatMap_map, List.filter_flatMap,
      List.map_flatMap]
    rfl

theorem mem_joinPairs {pieces : List Bytes} {b : UInt8} (member : b ∈ joinPairs pieces) :
    b = ampersand ∨ ∃ piece ∈ pieces, b ∈ piece := by
  induction pieces with
  | nil => simp [joinPairs] at member
  | cons p rest ih =>
      cases rest with
      | nil => exact .inr ⟨p, by simp, by simpa [joinPairs] using member⟩
      | cons q rest =>
          rw [joinPairs, List.intercalate_cons_cons, List.append_assoc, List.mem_append,
            List.singleton_append, List.mem_cons] at member
          rcases member with first | separator | later
          · exact .inr ⟨p, by simp, first⟩
          · exact .inl separator
          · rcases ih later with same | ⟨piece, listed, inside⟩
            · exact .inl same
            · exact .inr ⟨piece, List.mem_cons_of_mem _ listed, inside⟩

theorem exists_keptPiece (p : Pair) : ∃ piece ∈ keptPieces p, equals ∈ piece := by
  have member : equals ∈ joinPairs ((rawPair p).splitOn ampersand) := by
    rw [joinPairs, List.intercalate_splitOn]
    simp [rawPair]
  rcases mem_joinPairs member with same | ⟨piece, listed, inside⟩
  · exact absurd same (by decide)
  · exact ⟨piece, List.mem_filter.mpr ⟨listed, by simpa using List.ne_nil_of_mem inside⟩, inside⟩

theorem weight_eq (p : Pair) : weight p = (rawPair p).length + 1 := by
  simp only [weight, rawPair, List.length_append, List.length_cons]
  omega

theorem equals_mem_rawPair (p : Pair) : equals ∈ rawPair p := by simp [rawPair]

/-- A pair with one piece that counts weighs as much as what is read only without an `&`. -/
theorem weight_keptPiece {p : Pair} {piece : Bytes} (kept : keptPieces p = [piece]) :
    weight (readPair piece) ≤ weight p ∧
      (weight (readPair piece) = weight p → ampersand ∉ rawPair p) := by
  obtain ⟨found, listed, valued⟩ := exists_keptPiece p
  obtain rfl : found = piece := by simpa [kept] using listed
  have reading := weight_readPair_le_of_mem valued
  have total := length_eq_sum_pieces (rawPair p)
  have count (pieces : List (List UInt8)) :
      pieces.length ≤ (pieces.map (·.length + 1)).sum := by
    induction pieces with
    | nil => exact Nat.le_refl _
    | cons q rest ih =>
        rw [List.map_cons, List.sum_cons, List.length_cons]
        omega
  obtain ⟨before, after, shape⟩ := List.append_of_mem (List.mem_filter.mp listed).1
  have first := count before
  have last := count after
  rw [shape, List.map_append, List.map_cons, List.sum_append, List.sum_cons] at total
  rw [weight_eq p]
  refine ⟨by omega, fun same => not_mem_of_length_splitOn ?_⟩
  rw [shape, List.length_append, List.length_cons]
  omega

/-- A pair that loses no weight when it is read is read again as itself. -/
theorem readPair_again {p : Pair} (same : weight (readPair (rawPair p)) = weight p) :
    readPair (rawPair (readPair (rawPair p))) = readPair (rawPair p) := by
  obtain ⟨key, value, shape, outside, reads⟩ := exists_parts (equals_mem_rawPair p)
  have first := length_unescape_le key
  have second := length_unescape_le value
  rw [weight_eq p, reads, shape, weight, List.length_append, List.length_cons] at same
  have keyWhole : (unescape key).length = key.length := by
    simp only at same
    omega
  have valueWhole : (unescape value).length = value.length := by
    simp only at same
    omega
  have outsideRead : equals ∉ unescape key := by
    rw [unescape_of_length keyWhole]
    intro member
    obtain ⟨b, inside, swapped⟩ := List.mem_map.mp member
    rw [blank_eq swapped (by decide)] at inside
    exact outside inside
  rw [reads, readPair_rawPair outsideRead, unescape_again keyWhole, unescape_again valueWhole]

/-- A pair that is read as itself needs no escaping. -/
theorem plain_of_fixed {p : Pair} (fixed : readPair (rawPair p) = p) :
    equals ∉ p.1 ∧ unescape p.1 = p.1 ∧ unescape p.2 = p.2 := by
  obtain ⟨key, value, shape, outside, reads⟩ := exists_parts (equals_mem_rawPair p)
  rw [fixed] at reads
  obtain ⟨k, v⟩ := p
  obtain ⟨readKey, readValue⟩ := Prod.mk.inj reads
  have shorter := length_unescape_le key
  rw [← readKey] at shorter
  have parts : k = key ∧ v = value := by
    rcases List.append_eq_append_iff.mp shape with ⟨rest, whole, tail⟩ | ⟨rest, whole, tail⟩
    · cases rest with
      | nil => exact ⟨by simpa using whole.symm, by simpa using tail⟩
      | cons b rest =>
          obtain ⟨rfl, -⟩ := List.cons.inj tail
          exact absurd (by simp [whole]) outside
    · cases rest with
      | nil => exact ⟨by simpa using whole, by simpa using tail.symm⟩
      | cons b rest =>
          have longer : k = key ++ b :: rest := whole
          rw [longer, List.length_append, List.length_cons] at shorter
          omega
  obtain ⟨rfl, rfl⟩ := parts
  exact ⟨outside, readKey.symm, readValue.symm⟩

/-- A body joined without escaping is read back exactly when no key and no value needs it. -/
theorem decodeForm_rawForm_perm_self_iff {ps : List Pair} :
    (decodeForm (rawForm ps)).Perm ps ↔ ∀ p ∈ ps, PlainKey p.1 ∧ SafeValue p.2 := by
  constructor
  · intro reads
    have pieces (p : Pair) : 0 < (keptPieces p).length := by
      obtain ⟨piece, listed, -⟩ := exists_keptPiece p
      exact List.length_pos_of_mem listed
    have single : ∀ p ∈ ps, (keptPieces p).length = 1 := by
      have lengths := reads.length_eq
      rw [decodeForm_rawForm_eq, List.length_flatMap] at lengths
      simp only [List.length_map] at lengths
      exact forall_eq_one_of_sum_le (fun p _ => pieces p) (by omega)
    have whole : ∀ p ∈ ps, ampersand ∉ rawPair p := by
      have shape : decodeForm (rawForm ps) =
          ps.map fun p => readPair ((keptPieces p).headD []) := by
        rw [decodeForm_rawForm_eq, List.map_eq_flatMap]
        refine List.flatMap_congr fun p listed => ?_
        obtain ⟨piece, kept⟩ := List.length_eq_one_iff.mp (single p listed)
        rw [kept]
        rfl
      have weights := (reads.map weight).sum_eq
      rw [shape, List.map_map] at weights
      have kept (p : Pair) (listed : p ∈ ps) : keptPieces p = [(keptPieces p).headD []] := by
        obtain ⟨piece, kept⟩ := List.length_eq_one_iff.mp (single p listed)
        rw [kept]
        rfl
      have heavy := forall_eq_of_sum_eq
        (fun p listed => (weight_keptPiece (kept p listed)).1) weights
      exact fun p listed => (weight_keptPiece (kept p listed)).2 (heavy p listed)
    have shape : decodeForm (rawForm ps) = ps.map fun p => readPair (rawPair p) := by
      rw [rawForm, decodeForm_joinPairs whole]
    rw [shape] at reads
    have heavy : ∀ p ∈ ps, weight (readPair (rawPair p)) = weight p := by
      have weights := (reads.map weight).sum_eq
      rw [List.map_map] at weights
      refine forall_eq_of_sum_eq (fun p _ => ?_) weights
      have reading := weight_readPair_le_of_mem (equals_mem_rawPair p)
      rwa [weight_eq p]
    have fixed := fixed_of_perm reads fun p listed => readPair_again (heavy p listed)
    intro p listed
    obtain ⟨apart, key, value⟩ := plain_of_fixed (fixed p listed)
    have outside := whole p listed
    rw [rawPair, List.mem_append, List.mem_cons] at outside
    exact ⟨⟨fun member => outside (.inl member), apart, key⟩,
      ⟨fun member => outside (.inr (.inr member)), value⟩⟩
  · intro plain
    rw [decodeForm_rawForm (fun p listed => (plain p listed).1) fun p listed =>
      (plain p listed).2]

end Exact

end Form
