import PCenter.Lib.Form

/-!
# Percent coding

The escaping of Go's `net/url` package. A text to be unescaped stands for a string of
bytes: each of its characters is one byte, so an escape names one character.
-/

namespace GoUrl

/-- The value of a hexadecimal digit, in either case. -/
def unhex (c : Char) : Option Nat :=
  if '0' ≤ c ∧ c ≤ '9' then some (c.toNat - 48)
  else if 'a' ≤ c ∧ c ≤ 'f' then some (c.toNat - 87)
  else if 'A' ≤ c ∧ c ≤ 'F' then some (c.toNat - 55)
  else none

/-- `url.unescape`; a plus sign is a space in a query and itself in a path. -/
def unescapeChars (query : Bool) : List Char → Option (List Char)
  | [] => some []
  | '%' :: high :: low :: rest => do
      let h ← unhex high
      let l ← unhex low
      let tail ← unescapeChars query rest
      pure (Char.ofNat (16 * h + l) :: tail)
  | '%' :: _ => none
  | '+' :: rest => (unescapeChars query rest).map ((if query then ' ' else '+') :: ·)
  | c :: rest => (unescapeChars query rest).map (c :: ·)

/-- `pathUnescape` of `net/http`: a text with a malformed escape stands for itself. -/
def pathUnescape (s : String) : String :=
  match unescapeChars false s.toList with
  | some cs => String.ofList cs
  | none => s

/-- The bytes that stand for themselves in a path segment: those that never need an escape
and `$&+:=@`. -/
def pathSafe (b : UInt8) : Bool :=
  Form.unreserved b || b == 36 || b == 38 || b == 43 || b == 58 || b == 61 || b == 64

/-- `url.PathEscape` -/
def pathEscape (s : String) : String :=
  String.ofList ((Form.utf8 s).flatMap fun b =>
    if pathSafe b then [Char.ofNat b.toNat]
    else ['%', Char.ofNat (Form.hexDigit (b.toNat / 16)).toNat,
      Char.ofNat (Form.hexDigit (b.toNat % 16)).toNat])

example : pathEscape "a/b é" = "a%2Fb%20%C3%A9" := by decide

section Escaping

/-- The text that stands for a string of bytes. -/
def byteChars (bs : Form.Bytes) : List Char := bs.map fun b => Char.ofNat b.toNat

/-- A byte of an escaped path segment. -/
def segmentByte (b : UInt8) : List Char :=
  if pathSafe b then [Char.ofNat b.toNat]
  else ['%', Char.ofNat (Form.hexDigit (b.toNat / 16)).toNat,
    Char.ofNat (Form.hexDigit (b.toNat % 16)).toNat]

theorem toList_pathEscape (s : String) :
    (pathEscape s).toList = (Form.utf8 s).flatMap segmentByte := String.toList_ofList

theorem unescapeChars_cons {c : Char} (ordinary : c ≠ '%') (rest : List Char) :
    unescapeChars false (c :: rest) = (unescapeChars false rest).map (c :: ·) := by
  by_cases blank : c = '+'
  · subst blank
    rw [unescapeChars]
    rfl
  · rw [unescapeChars]
    · exact fun _ _ _ same => absurd same ordinary
    · exact fun same => absurd same ordinary
    · exact fun same => absurd same blank

theorem unhex_hexDigit : ∀ n < 16, unhex (Char.ofNat (Form.hexDigit n).toNat) = some n := by
  decide

/-- A byte that stands for itself is a character other than the percent sign. -/
theorem pathSafe_char : ∀ n < 256, pathSafe (UInt8.ofNat n) = true →
    Char.ofNat n ≠ '%' ∧ n < 128 := by
  decide +kernel

theorem unescapeChars_segmentByte (b : UInt8) (rest : List Char) :
    unescapeChars false (segmentByte b ++ rest) =
      (unescapeChars false rest).map (Char.ofNat b.toNat :: ·) := by
  have bound := b.toNat_lt
  by_cases safe : pathSafe b = true
  · have ordinary := (pathSafe_char b.toNat bound (by rwa [UInt8.ofNat_toNat])).1
    rw [segmentByte, if_pos safe, List.singleton_append, unescapeChars_cons ordinary]
  · have high := unhex_hexDigit (b.toNat / 16) (by omega)
    have low := unhex_hexDigit (b.toNat % 16) (by omega)
    have whole : 16 * (b.toNat / 16) + b.toNat % 16 = b.toNat := by omega
    rw [segmentByte, if_neg safe, List.cons_append, List.cons_append, List.cons_append,
      List.nil_append, unescapeChars, high, low]
    simp only [Option.bind_eq_bind, Option.bind_some, whole]
    cases unescapeChars false rest <;> rfl

/-- An escaped segment is read back. -/
theorem unescapeChars_pathEscape (s : String) :
    unescapeChars false (pathEscape s).toList = some (byteChars (Form.utf8 s)) := by
  rw [toList_pathEscape]
  induction Form.utf8 s with
  | nil => rfl
  | cons b rest ih => rw [List.flatMap_cons, unescapeChars_segmentByte, ih]; rfl

/-- What an escaped segment is written with. -/
theorem segmentByte_chars :
    ∀ n < 256, ∀ c ∈ segmentByte (UInt8.ofNat n), c ≠ '/' ∧ c ≠ '?' ∧ c ≠ '#' ∧ c.toNat < 128 := by
  decide +kernel

theorem mem_pathEscape {s : String} {c : Char} (member : c ∈ (pathEscape s).toList) :
    c ≠ '/' ∧ c ≠ '?' ∧ c ≠ '#' ∧ c.toNat < 128 := by
  rw [toList_pathEscape] at member
  obtain ⟨b, -, inside⟩ := List.mem_flatMap.mp member
  rw [← UInt8.ofNat_toNat (x := b)] at inside
  exact segmentByte_chars b.toNat b.toNat_lt c inside

/-- A character below 128 is one byte; another has a byte from 128 on. -/
theorem utf8EncodeChar_cases (c : Char) :
    (c.toNat < 128 ∧ String.utf8EncodeChar c = [UInt8.ofNat c.toNat]) ∨
      ∃ b ∈ String.utf8EncodeChar c, 128 ≤ b.toNat := by
  have last : 128 ≤ (UInt8.ofNat (c.val.toNat % 64 + 128)).toNat := by
    rw [UInt8.toNat_ofNat']
    omega
  by_cases ascii : c.val.toNat ≤ 127
  · refine .inl ⟨Nat.lt_succ_of_le ascii, ?_⟩
    rw [String.utf8EncodeChar]
    exact if_pos ascii
  · refine .inr ⟨_, ?_, last⟩
    rw [String.utf8EncodeChar]
    simp only [ascii, if_false]
    split_ifs <;> simp

/-- A text of bytes below 128 stands for them. -/
theorem byteChars_utf8 {s : String} (ascii : ∀ b ∈ Form.utf8 s, b.toNat < 128) :
    byteChars (Form.utf8 s) = s.toList := by
  rw [Form.utf8] at ascii ⊢
  generalize s.toList = chars at ascii ⊢
  induction chars with
  | nil => rfl
  | cons c rest ih =>
      rw [List.flatMap_cons] at ascii ⊢
      have later := ih fun b member => ascii b (List.mem_append_right _ member)
      rcases utf8EncodeChar_cases c with ⟨small, single⟩ | ⟨b, member, large⟩
      · have same : Char.ofNat (UInt8.ofNat c.toNat).toNat = c := by
          rw [UInt8.toNat_ofNat', Nat.mod_eq_of_lt (by omega), Char.ofNat_toNat]
        rw [single, List.singleton_append, byteChars, List.map_cons, same]
        exact congrArg (c :: ·) later
      · have bound := ascii b (List.mem_append_left _ member)
        omega

theorem length_le_utf8 (s : String) : s.toList.length ≤ (Form.utf8 s).length := by
  rw [Form.utf8]
  induction s.toList with
  | nil => exact Nat.le_refl _
  | cons c rest ih =>
      have one := Char.utf8Size_pos c
      rw [List.flatMap_cons, List.length_append, String.length_utf8EncodeChar, List.length_cons]
      omega

/-- A text needs no escaping exactly when all its bytes stand for themselves. -/
theorem pathEscape_eq_iff {s : String} :
    pathEscape s = s ↔ ∀ b ∈ Form.utf8 s, pathSafe b = true := by
  have width (b : UInt8) : 0 < (segmentByte b).length := by
    rw [segmentByte]
    split_ifs <;> simp
  constructor
  · intro same b member
    have lengths := congrArg (fun t : String => t.toList.length) same
    simp only [toList_pathEscape, List.length_flatMap] at lengths
    have few := length_le_utf8 s
    have single := Form.forall_eq_one_of_sum_le (fun b _ => width b) (by omega) b member
    by_contra notSafe
    rw [segmentByte, if_neg notSafe] at single
    cases single
  · intro safe
    have ascii : ∀ b ∈ Form.utf8 s, b.toNat < 128 := by
      intro b member
      exact (pathSafe_char b.toNat b.toNat_lt (by rw [UInt8.ofNat_toNat]; exact safe b member)).2
    apply String.toList_inj.mp
    rw [toList_pathEscape, ← byteChars_utf8 ascii, byteChars, List.map_eq_flatMap]
    exact List.flatMap_congr fun b member => if_pos (safe b member)

end Escaping

end GoUrl
