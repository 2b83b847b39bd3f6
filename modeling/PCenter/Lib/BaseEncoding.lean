import Mathlib.Algebra.Group.Nat.Defs
import Mathlib.Data.List.Induction
import Mathlib.Data.List.Nodup
import PCenter.Lib.Form
import PCenter.Lib.Traverse

/-!
# Bytes written in a power-of-two base

The encodings of RFC 4648: the bits of the bytes are cut into groups of a fixed width, the last
group is filled up with zeros, each group is a character of an alphabet, and the text is padded
to whole quanta. The decoder skips line ends, as Go's does.
-/

namespace BaseEncoding

open Form (Bytes)

section Bits

/-- The low bits of a number, the most significant first. -/
def bits : Nat → Nat → List Bool
  | 0, _ => []
  | w + 1, n => (n / 2 ^ w % 2 = 1) :: bits w n

def value (bs : List Bool) : Nat := bs.foldl (fun n b => 2 * n + b.toNat) 0

theorem length_bits (w n : Nat) : (bits w n).length = w := by
  induction w with
  | zero => rfl
  | succ w ih => rw [bits, List.length_cons, ih]

theorem value_append_singleton (bs : List Bool) (b : Bool) :
    value (bs ++ [b]) = 2 * value bs + b.toNat := by
  rw [value, List.foldl_append]
  rfl

theorem value_lt (bs : List Bool) : value bs < 2 ^ bs.length := by
  induction bs using List.reverseRecOn with
  | nil => exact Nat.one_pos
  | append_singleton bs b ih =>
      rw [value_append_singleton, List.length_append, List.length_singleton, pow_succ]
      have bit := Bool.toNat_le b
      omega

theorem bits_succ (w n : Nat) : bits (w + 1) n = bits w (n / 2) ++ [decide (n % 2 = 1)] := by
  induction w with
  | zero => simp [bits]
  | succ w ih =>
      have high : n / 2 ^ (w + 1) = n / 2 / 2 ^ w := by
        rw [Nat.div_div_eq_div_mul, pow_succ, Nat.mul_comm]
      rw [bits, ih, bits, high]
      rfl

theorem bits_value (bs : List Bool) : bits bs.length (value bs) = bs := by
  induction bs using List.reverseRecOn with
  | nil => rfl
  | append_singleton bs b ih =>
      have half : (2 * value bs + b.toNat) / 2 = value bs := by
        cases b <;> simp only [Bool.toNat_true, Bool.toNat_false] <;> omega
      have low : decide ((2 * value bs + b.toNat) % 2 = 1) = b := by
        cases b
        · exact decide_eq_false (by simp only [Bool.toNat_false]; omega)
        · exact decide_eq_true (by simp only [Bool.toNat_true]; omega)
      rw [List.length_append, List.length_singleton, value_append_singleton, bits_succ, half, low, ih]

theorem value_bits {w n : Nat} (small : n < 2 ^ w) : value (bits w n) = n := by
  induction w generalizing n with
  | zero =>
      have zero : n = 0 := by omega
      subst zero
      rfl
  | succ w ih =>
      have half : n / 2 < 2 ^ w := by
        rw [pow_succ] at small
        omega
      rw [bits_succ, value_append_singleton, ih half]
      by_cases odd : n % 2 = 1
      · rw [decide_eq_true odd, Bool.toNat_true]
        omega
      · rw [decide_eq_false odd, Bool.toNat_false]
        omega

end Bits

section Groups

/-- The consecutive groups of a width that cover a number of groups. -/
def groups {A : Type} (w n : Nat) (l : List A) : List (List A) :=
  (List.range n).map fun i => (l.drop (w * i)).take w

theorem flatten_groups {A : Type} (w n : Nat) (l : List A) :
    (groups w n l).flatten = l.take (w * n) := by
  induction n with
  | zero => simp [groups]
  | succ n ih =>
      have last : groups w (n + 1) l = groups w n l ++ [(l.drop (w * n)).take w] := by
        rw [groups, List.range_succ, List.map_append]
        rfl
      rw [last, List.flatten_append, ih, List.flatten_singleton, Nat.mul_succ, List.take_add]

theorem length_of_mem_groups {A : Type} {w n : Nat} {l g : List A} (whole : w * n ≤ l.length)
    (member : g ∈ groups w n l) : g.length = w := by
  obtain ⟨i, inside, rfl⟩ := List.mem_map.mp member
  have before : w * (i + 1) ≤ w * n := Nat.mul_le_mul_left w (List.mem_range.mp inside)
  rw [Nat.mul_succ] at before
  rw [List.length_take, List.length_drop]
  omega

/-- Pieces of one width are the groups of what they join to. -/
theorem groups_flatten {A : Type} {w : Nat} {pieces : List (List A)}
    (even : ∀ g ∈ pieces, g.length = w) (rest : List A) :
    groups w pieces.length (pieces.flatten ++ rest) = pieces := by
  induction pieces with
  | nil => rfl
  | cons g pieces ih =>
      have first : g.length = w := even g List.mem_cons_self
      have later := ih fun g' member => even g' (List.mem_cons_of_mem g member)
      have shifted (i : Nat) :
          ((g ++ (pieces.flatten ++ rest)).drop (w * (i + 1))).take w =
            ((pieces.flatten ++ rest).drop (w * i)).take w := by
        rw [Nat.mul_succ, Nat.add_comm, ← List.drop_drop, ← first, List.drop_left]
      rw [groups, List.length_cons, List.range_succ_eq_map, List.map_cons, List.map_map,
        List.flatten_cons, List.append_assoc]
      congr 1
      · rw [Nat.mul_zero, List.drop_zero, ← first, List.take_left]
      · exact (List.map_congr_left fun i _ => shifted i).trans later

end Groups

section Bytes

def bitsOf (bs : Bytes) : List Bool := bs.flatMap fun b => bits 8 b.toNat

/-- The whole bytes at the front. -/
def bytesOf (l : List Bool) : Bytes :=
  (groups 8 (l.length / 8) l).map fun g => UInt8.ofNat (value g)

theorem length_bitsOf (bs : Bytes) : (bitsOf bs).length = 8 * bs.length := by
  induction bs with
  | nil => rfl
  | cons b bs ih =>
      rw [bitsOf, List.flatMap_cons, List.length_append, length_bits]
      change 8 + (bitsOf bs).length = _
      rw [ih, List.length_cons]
      omega

/-- Bytes are read back from their bits, whatever follows in the last one. -/
theorem bytesOf_bitsOf (bs : Bytes) {rest : List Bool} (short : rest.length < 8) :
    bytesOf (bitsOf bs ++ rest) = bs := by
  have count : (bitsOf bs ++ rest).length / 8 = (bs.map fun b => bits 8 b.toNat).length := by
    rw [List.length_append, length_bitsOf, List.length_map]
    omega
  have even : ∀ g ∈ bs.map fun b => bits 8 b.toNat, g.length = 8 := by
    intro g member
    obtain ⟨b, -, rfl⟩ := List.mem_map.mp member
    exact length_bits 8 _
  have joined : bitsOf bs = (bs.map fun b => bits 8 b.toNat).flatten := List.flatMap_def
  rw [bytesOf, count, joined, groups_flatten even, List.map_map]
  refine (List.map_congr_left fun b _ => ?_).trans (List.map_id bs)
  have small : b.toNat < 2 ^ 8 := b.toNat_lt
  rw [Function.comp_apply, value_bits small, UInt8.ofNat_toNat]
  rfl

end Bytes

/-- A width, the character of each group, and how many characters make a quantum. -/
structure Encoding where
  width : Nat
  alphabet : List Char
  quantum : Nat
  positive : 0 < width
  narrow : width ≤ 8
  size : alphabet.length = 2 ^ width
  distinct : alphabet.Nodup
  plain : ∀ c ∈ alphabet, c ≠ '=' ∧ c ≠ '\r' ∧ c ≠ '\n'

section Texts

variable (e : Encoding)

/-- How many characters stand for a number of bits. -/
def Encoding.count (n : Nat) : Nat := (n + e.width - 1) / e.width

/-- The groups of the bits, the last one filled up. -/
def Encoding.symbols (bs : Bytes) : List Nat :=
  let n := e.count (8 * bs.length)
  (groups e.width n (bitsOf bs ++ List.replicate (e.width * n - 8 * bs.length) false)).map value

def Encoding.char (n : Nat) : Char := e.alphabet.getD n '='

def Encoding.padding (n : Nat) : List Char :=
  List.replicate ((e.quantum - n % e.quantum) % e.quantum) '='

/-- `EncodeToString` -/
def Encoding.encode (bs : Bytes) : String :=
  String.ofList ((e.symbols bs).map e.char ++ e.padding (e.symbols bs).length)

def Encoding.valueOf (c : Char) : Option Nat :=
  if c ∈ e.alphabet then some (e.alphabet.idxOf c) else none

/-- `DecodeString`; the bits that fill up the last group are not looked at. -/
def Encoding.decode (s : String) : Option Bytes :=
  let cs := s.toList.filter fun c => c ≠ '\r' && c ≠ '\n'
  let body := cs.takeWhile (· ≠ '=')
  if cs.dropWhile (· ≠ '=') = e.padding body.length ∧ e.width * body.length % 8 < e.width then
    (body.mapM e.valueOf).map fun ds => bytesOf (ds.flatMap (bits e.width))
  else none

end Texts

section Laws

variable {e : Encoding}

theorem Encoding.count_bounds (n : Nat) :
    n ≤ e.width * e.count n ∧ e.width * e.count n < n + e.width := by
  have positive := e.positive
  have parts := Nat.div_add_mod (n + e.width - 1) e.width
  have rest := Nat.mod_lt (n + e.width - 1) positive
  rw [Encoding.count]
  omega

theorem Encoding.length_symbols (bs : Bytes) :
    (e.symbols bs).length = e.count (8 * bs.length) := by
  simp [Encoding.symbols, groups]

theorem Encoding.length_filled (bs : Bytes) :
    (bitsOf bs ++
      List.replicate (e.width * e.count (8 * bs.length) - 8 * bs.length) false).length =
        e.width * e.count (8 * bs.length) := by
  have bounds := @e.count_bounds (8 * bs.length)
  rw [List.length_append, length_bitsOf, List.length_replicate]
  omega

theorem Encoding.symbols_lt {bs : Bytes} {n : Nat} (member : n ∈ e.symbols bs) :
    n < 2 ^ e.width := by
  obtain ⟨g, inside, rfl⟩ := List.mem_map.mp member
  have length := length_of_mem_groups (e.length_filled bs).ge inside
  have small := value_lt g
  rwa [length] at small

/-- The groups have the bits of the bytes, and then zeros. -/
theorem Encoding.bits_symbols (bs : Bytes) :
    (e.symbols bs).flatMap (bits e.width) = bitsOf bs ++
      List.replicate (e.width * e.count (8 * bs.length) - 8 * bs.length) false := by
  have each : ∀ g ∈ groups e.width (e.count (8 * bs.length)) (bitsOf bs ++
      List.replicate (e.width * e.count (8 * bs.length) - 8 * bs.length) false),
      (bits e.width ∘ value) g = g := by
    intro g inside
    have length := length_of_mem_groups (e.length_filled bs).ge inside
    rw [Function.comp_apply, ← length]
    exact bits_value g
  rw [Encoding.symbols, List.flatMap_def, List.map_map, List.map_congr_left each, List.map_id',
    flatten_groups]
  exact List.take_of_length_le (e.length_filled bs).le

theorem Encoding.char_mem {n : Nat} (small : n < 2 ^ e.width) : e.char n ∈ e.alphabet := by
  have inside : n < e.alphabet.length := e.size ▸ small
  rw [Encoding.char, List.getD_eq_getElem?_getD, List.getElem?_eq_getElem inside]
  exact List.getElem_mem inside

theorem Encoding.valueOf_char {n : Nat} (small : n < 2 ^ e.width) :
    e.valueOf (e.char n) = some n := by
  have inside : n < e.alphabet.length := e.size ▸ small
  have char : e.char n = e.alphabet[n] := by
    rw [Encoding.char, List.getD_eq_getElem?_getD, List.getElem?_eq_getElem inside]
    rfl
  rw [Encoding.valueOf, if_pos (Encoding.char_mem small), char, e.distinct.idxOf_getElem]

/-- What was encoded is decoded. -/
theorem Encoding.decode_encode (bs : Bytes) : e.decode (e.encode bs) = some bs := by
  have listed : ∀ c ∈ (e.symbols bs).map e.char, c ∈ e.alphabet := by
    intro c member
    obtain ⟨n, inside, rfl⟩ := List.mem_map.mp member
    exact Encoding.char_mem (Encoding.symbols_lt inside)
  have before : ∀ c ∈ (e.symbols bs).map e.char, decide (c ≠ '=') = true :=
    fun c member => decide_eq_true (e.plain c (listed c member)).1
  have after : (e.padding (e.symbols bs).length).takeWhile (· ≠ '=') = [] ∧
      (e.padding (e.symbols bs).length).dropWhile (· ≠ '=') = e.padding (e.symbols bs).length := by
    rw [Encoding.padding]
    cases (e.quantum - (e.symbols bs).length % e.quantum) % e.quantum with
    | zero => exact ⟨rfl, rfl⟩
    | succ n => simp [List.replicate_succ]
  have lines : (((e.symbols bs).map e.char ++ e.padding (e.symbols bs).length).filter
      fun c => c ≠ '\r' && c ≠ '\n') =
        (e.symbols bs).map e.char ++ e.padding (e.symbols bs).length := by
    refine List.filter_eq_self.mpr fun c member => ?_
    rcases List.mem_append.mp member with symbol | pad
    · simp [(e.plain c (listed c symbol)).2]
    · obtain rfl := List.eq_of_mem_replicate pad
      decide
  have read : ((e.symbols bs).map e.char).mapM e.valueOf = some (e.symbols bs) := by
    refine Traverse.mapM_eq_some_iff.mpr (List.forall₂_map_left_iff.mpr ?_)
    exact List.forall₂_same.mpr fun n member => Encoding.valueOf_char (Encoding.symbols_lt member)
  have bounds := @e.count_bounds (8 * bs.length)
  have narrow := e.narrow
  have short : e.width * e.count (8 * bs.length) - 8 * bs.length < 8 := by omega
  have whole : e.width * e.count (8 * bs.length) % 8 < e.width := by omega
  rw [Encoding.decode, Encoding.encode, String.toList_ofList]
  simp only [lines, List.takeWhile_append_of_pos before, List.dropWhile_append_of_pos before,
    after, List.append_nil, List.length_map]
  rw [if_pos ⟨trivial, by rwa [Encoding.length_symbols]⟩, read, Option.map_some,
    Encoding.bits_symbols, bytesOf_bitsOf _ (by rwa [List.length_replicate])]

end Laws

section Standard

/-- `base64.StdEncoding` -/
def std64 : Encoding where
  width := 6
  alphabet := "ABCDEFGHIJKLMNOPQRSTUVWXYZabcdefghijklmnopqrstuvwxyz0123456789+/".toList
  quantum := 4
  positive := by decide
  narrow := by decide
  size := by decide +kernel
  distinct := by decide +kernel
  plain := by decide +kernel

/-- `base32.StdEncoding` -/
def std32 : Encoding where
  width := 5
  alphabet := "ABCDEFGHIJKLMNOPQRSTUVWXYZ234567".toList
  quantum := 8
  positive := by decide
  narrow := by decide
  size := by decide +kernel
  distinct := by decide +kernel
  plain := by decide +kernel

example : std64.encode [102, 111, 111, 98] = "Zm9vYg==" ∧ std64.decode "Zm9v\nYg==" =
    some [102, 111, 111, 98] ∧ std64.decode "Zm9vYg=" = none := by decide +kernel

example : std32.encode [102, 111, 111, 98] = "MZXW6YQ=" := by decide +kernel

end Standard

end BaseEncoding
