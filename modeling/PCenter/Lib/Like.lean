import Mathlib.Data.List.Infix
import Mathlib.Data.List.TakeWhile
import Mathlib.Order.Defs.Unbundled

/-!
# SQLite's `LIKE`

A percent sign stands for any text, an underscore for any one character, and ASCII letters
match in either case. Both operands end at their first NUL, and the pattern may not be
longer than 50,000 bytes. A text that joins cells by a separator is searched for a pattern
between two separators: what fits it is the join of a run of consecutive cells.
-/

namespace Like

section Patterns

/-- The case folding of `LIKE`, which is that of ASCII. -/
def lower (c : Char) : Char :=
  if 'A' ≤ c ∧ c ≤ 'Z' then Char.ofNat (c.toNat + 32) else c

theorem toNat_lower (c : Char) :
    (lower c).toNat = if 65 ≤ c.toNat ∧ c.toNat ≤ 90 then c.toNat + 32 else c.toNat := by
  have upper : ('A' ≤ c ∧ c ≤ 'Z') ↔ (65 ≤ c.toNat ∧ c.toNat ≤ 90) := Iff.rfl
  rw [lower]
  by_cases letter : 65 ≤ c.toNat ∧ c.toNat ≤ 90
  · have valid : (c.toNat + 32).isValidChar := .inl (by omega)
    rw [if_pos (upper.mpr letter), if_pos letter, Char.ofNat, dif_pos valid]
    rfl
  · rw [if_neg (mt upper.mp letter), if_neg letter]

def fits : List Char → List Char → Bool
  | [], s => s.isEmpty
  | p :: ps, s =>
      if p = '%' then s.tails.any (fits ps)
      else
        match s with
        | [] => false
        | c :: rest => (p = '_' || lower p = lower c) && fits ps rest

@[simp] theorem fits_nil {s : List Char} : fits [] s = true ↔ s = [] := by
  simp [fits]

theorem fits_percent {p s : List Char} :
    fits ('%' :: p) s = true ↔ ∃ a b, s = a ++ b ∧ fits p b = true := by
  simp only [fits, if_true, List.any_eq_true, List.mem_tails]
  constructor
  · rintro ⟨b, ⟨a, rfl⟩, rest⟩
    exact ⟨a, b, rfl, rest⟩
  · rintro ⟨a, b, rfl, rest⟩
    exact ⟨b, ⟨a, rfl⟩, rest⟩

theorem fits_cons {c : Char} (plain : c ≠ '%') {p s : List Char} :
    fits (c :: p) s = true ↔
      ∃ d b, s = d :: b ∧ (c = '_' ∨ lower c = lower d) ∧ fits p b = true := by
  cases s with
  | nil => simp [fits, plain]
  | cons d b => simp [fits, plain]

theorem fits_append {p q s : List Char} :
    fits (p ++ q) s = true ↔ ∃ a b, s = a ++ b ∧ fits p a = true ∧ fits q b = true := by
  induction p generalizing s with
  | nil => simp
  | cons c p ih =>
      rw [List.cons_append]
      by_cases wild : c = '%'
      · subst wild
        simp only [fits_percent, ih]
        constructor
        · rintro ⟨a, _, rfl, b, d, rfl, first, second⟩
          exact ⟨a ++ b, d, by simp, ⟨a, b, rfl, first⟩, second⟩
        · rintro ⟨_, d, rfl, ⟨a, b, rfl, first⟩, second⟩
          exact ⟨a, b ++ d, by simp, b, d, rfl, first, second⟩
      · simp only [fits_cons wild, ih]
        constructor
        · rintro ⟨e, _, rfl, same, a, b, rfl, first, second⟩
          exact ⟨e :: a, b, rfl, ⟨e, a, rfl, same, first⟩, second⟩
        · rintro ⟨_, b, rfl, ⟨e, a, rfl, same, first⟩, second⟩
          exact ⟨e, a ++ b, rfl, same, a, b, rfl, first, second⟩

theorem fits_self (s : List Char) : fits s s = true := by
  induction s with
  | nil => rfl
  | cons c s ih =>
      by_cases wild : c = '%'
      · subst wild
        exact fits_percent.mpr ⟨['%'], s, rfl, ih⟩
      · exact (fits_cons wild).mpr ⟨c, s, rfl, .inr rfl, ih⟩

/-- Without wildcards a pattern fits what has the same letters. -/
theorem fits_plain {p s : List Char} (plain : ∀ c ∈ p, c ≠ '%' ∧ c ≠ '_') :
    fits p s = true ↔ s.map lower = p.map lower := by
  induction p generalizing s with
  | nil => simp
  | cons c p ih =>
      have here := plain c List.mem_cons_self
      have later := fun d inside => plain d (List.mem_cons_of_mem c inside)
      rw [fits_cons here.1]
      constructor
      · rintro ⟨d, b, rfl, alike, rest⟩
        have same := alike.resolve_left here.2
        simp [same, (ih later).mp rest]
      · intro same
        cases s with
        | nil => simp at same
        | cons d b =>
            obtain ⟨first, rest⟩ := List.cons.inj same
            exact ⟨d, b, rfl, .inr first.symm, (ih later).mpr rest⟩

variable {sep : Char}

/-- A character that `LIKE` finds only where it stands. -/
structure Literal (sep : Char) : Prop where
  percent : sep ≠ '%'
  underscore : sep ≠ '_'
  letter : ∀ c, lower sep = lower c ↔ c = sep

theorem fits_sep (literal : Literal sep) {p s : List Char} :
    fits (sep :: p) s = true ↔ ∃ b, s = sep :: b ∧ fits p b = true := by
  rw [fits_cons literal.percent]
  constructor
  · rintro ⟨d, b, rfl, same, rest⟩
    have alike := (literal.letter d).mp (same.resolve_left literal.underscore)
    exact ⟨b, by rw [alike], rest⟩
  · rintro ⟨b, rfl, rest⟩
    exact ⟨sep, b, rfl, .inr rfl, rest⟩

theorem fits_after (literal : Literal sep) {p s : List Char} :
    fits ('%' :: sep :: p) s = true ↔ ∃ a m, s = a ++ sep :: m ∧ fits p m = true := by
  rw [fits_percent]
  constructor
  · rintro ⟨a, _, rfl, rest⟩
    obtain ⟨m, rfl, inner⟩ := (fits_sep literal).mp rest
    exact ⟨a, m, rfl, inner⟩
  · rintro ⟨a, m, rfl, inner⟩
    exact ⟨a, sep :: m, rfl, (fits_sep literal).mpr ⟨m, rfl, inner⟩⟩

theorem fits_between (literal : Literal sep) {p s : List Char} :
    fits ('%' :: sep :: (p ++ [sep, '%'])) s = true ↔
      ∃ a m b, s = a ++ sep :: (m ++ sep :: b) ∧ fits p m = true := by
  have closing : ∀ {t : List Char}, fits [sep, '%'] t = true ↔ ∃ b, t = sep :: b := by
    intro t
    rw [fits_sep literal]
    constructor
    · rintro ⟨b, rfl, -⟩
      exact ⟨b, rfl⟩
    · rintro ⟨b, rfl⟩
      exact ⟨b, rfl, fits_percent.mpr ⟨b, [], by simp, rfl⟩⟩
  rw [fits_after literal]
  constructor
  · rintro ⟨a, _, rfl, inner⟩
    obtain ⟨m, _, rfl, first, second⟩ := fits_append.mp inner
    obtain ⟨b, rfl⟩ := closing.mp second
    exact ⟨a, m, b, rfl, first⟩
  · rintro ⟨a, m, b, rfl, first⟩
    exact ⟨a, m ++ sep :: b, rfl,
      fits_append.mpr ⟨m, sep :: b, rfl, first, closing.mpr ⟨b, rfl⟩⟩⟩

end Patterns

section Operator

/-- A C string ends at its first NUL. -/
def terminated (cs : List Char) : List Char := cs.takeWhile (· ≠ '\x00')

theorem terminated_of_not_mem {cs : List Char} (whole : '\x00' ∉ cs) : terminated cs = cs := by
  refine List.takeWhile_eq_self_iff.mpr fun c inside => ?_
  exact decide_eq_true fun nul => whole (nul ▸ inside)

theorem terminated_append {as : List Char} (whole : '\x00' ∉ as) (bs : List Char) :
    terminated (as ++ bs) = as ++ terminated bs := by
  induction as with
  | nil => rfl
  | cons c as ih =>
      have head : '\x00' ≠ c := List.ne_of_not_mem_cons whole
      have tail : '\x00' ∉ as := List.not_mem_of_not_mem_cons whole
      have kept : decide (c ≠ '\x00') = true := decide_eq_true head.symm
      rw [List.cons_append, terminated, List.takeWhile_cons, if_pos kept]
      exact congrArg (c :: ·) (ih tail)

theorem terminated_append_of_mem {as : List Char} (ends : '\x00' ∈ as) (bs : List Char) :
    terminated (as ++ bs) = terminated as := by
  induction as with
  | nil => simp at ends
  | cons c as ih =>
      rw [List.cons_append, terminated, terminated, List.takeWhile_cons, List.takeWhile_cons]
      by_cases nul : c = '\x00'
      · simp [nul]
      · have kept : decide (c ≠ '\x00') = true := decide_eq_true nul
        rw [if_pos kept, if_pos kept]
        exact congrArg (c :: ·) (ih ((List.mem_cons.mp ends).resolve_left (Ne.symm nul)))

/-- `SQLITE_MAX_LIKE_PATTERN_LENGTH`, in bytes. -/
def maxPatternLength : Nat := 50000

/-- `text LIKE pattern` -/
def like (pattern text : String) : Except String Bool :=
  if maxPatternLength < pattern.utf8ByteSize then .error "LIKE or GLOB pattern too complex"
  else .ok (fits (terminated pattern.toList) (terminated text.toList))

end Operator

section Cells

variable {sep : Char} {cells : List (List Char)}

def join (sep : Char) (cells : List (List Char)) : List Char := [sep].intercalate cells

theorem join_cons {cells : List (List Char)} (more : cells ≠ []) (cell : List Char) :
    join sep (cell :: cells) = cell ++ sep :: join sep cells := by
  rw [join, List.intercalate_cons_of_ne_nil more]
  simp [join]

theorem join_append {as bs : List (List Char)} (left : as ≠ []) (right : bs ≠ []) :
    join sep (as ++ bs) = join sep as ++ sep :: join sep bs := by
  induction as with
  | nil => exact absurd rfl left
  | cons a as ih =>
      cases as with
      | nil =>
          have single : join sep [a] = a := List.intercalate_singleton
          rw [List.singleton_append, join_cons right, single]
      | cons a' as =>
          have rest := ih (List.cons_ne_nil a' as)
          rw [List.cons_append, join_cons (by simp), rest, join_cons (List.cons_ne_nil a' as)]
          simp

theorem splitOn_join (free : ∀ cell ∈ cells, sep ∉ cell) (nonempty : cells ≠ []) :
    (join sep cells).splitOn sep = cells :=
  List.splitOn_intercalate sep free nonempty

theorem join_splitOn (text : List Char) : join sep (text.splitOn sep) = text :=
  List.intercalate_splitOn sep

/-- What follows a separator is the join of the last cells. -/
theorem join_eq_after_iff (free : ∀ cell ∈ cells, sep ∉ cell) (nonempty : cells ≠ [])
    {m : List Char} :
    (∃ a, join sep cells = a ++ sep :: m) ↔
      ∃ as ms, as ≠ [] ∧ ms ≠ [] ∧ cells = as ++ ms ∧ m = join sep ms := by
  constructor
  · rintro ⟨a, text⟩
    refine ⟨a.splitOn sep, m.splitOn sep, List.splitOn_ne_nil sep a, List.splitOn_ne_nil sep m,
      ?_, (join_splitOn m).symm⟩
    rw [← List.splitOn_append_cons_self, ← text, splitOn_join free nonempty]
  · rintro ⟨as, ms, left, right, rfl, rfl⟩
    exact ⟨join sep as, join_append left right⟩

/-- What stands between two separators is the join of consecutive cells. -/
theorem join_eq_between_iff (free : ∀ cell ∈ cells, sep ∉ cell) (nonempty : cells ≠ [])
    {m : List Char} :
    (∃ a b, join sep cells = a ++ sep :: (m ++ sep :: b)) ↔
      ∃ as ms bs, as ≠ [] ∧ ms ≠ [] ∧ bs ≠ [] ∧ cells = as ++ (ms ++ bs) ∧ m = join sep ms := by
  constructor
  · rintro ⟨a, b, text⟩
    refine ⟨a.splitOn sep, m.splitOn sep, b.splitOn sep, List.splitOn_ne_nil sep a,
      List.splitOn_ne_nil sep m, List.splitOn_ne_nil sep b, ?_, (join_splitOn m).symm⟩
    rw [← List.splitOn_append_cons_self, ← List.splitOn_append_cons_self, ← text,
      splitOn_join free nonempty]
  · rintro ⟨as, ms, bs, left, middle, right, rfl, rfl⟩
    refine ⟨join sep as, join sep bs, ?_⟩
    rw [join_append left (by simp [middle]), join_append middle right]

/-- The cells up to the first NUL. -/
def shown : List (List Char) → List (List Char)
  | [] => []
  | cell :: cells => if '\x00' ∈ cell then [terminated cell] else cell :: shown cells

theorem shown_ne_nil (nonempty : cells ≠ []) : shown cells ≠ [] := by
  cases cells with
  | nil => exact absurd rfl nonempty
  | cons cell cells =>
      rw [shown]
      split <;> simp

theorem shown_free (free : ∀ cell ∈ cells, sep ∉ cell) : ∀ cell ∈ shown cells, sep ∉ cell := by
  induction cells with
  | nil => simp [shown]
  | cons first cells ih =>
      intro cell inside
      have head := free first List.mem_cons_self
      rw [shown] at inside
      split at inside
      · rw [List.mem_singleton.mp inside]
        exact fun member => head (List.takeWhile_subset _ member)
      · rcases List.mem_cons.mp inside with rfl | later
        · exact head
        · exact ih (fun c member => free c (List.mem_cons_of_mem first member)) cell later

theorem shown_of_not_mem (whole : ∀ cell ∈ cells, '\x00' ∉ cell) : shown cells = cells := by
  induction cells with
  | nil => rfl
  | cons first cells ih =>
      rw [shown, if_neg (whole first List.mem_cons_self)]
      exact congrArg (first :: ·) (ih fun c member => whole c (List.mem_cons_of_mem first member))

theorem terminated_join (visible : sep ≠ '\x00') (nonempty : cells ≠ []) :
    terminated (join sep cells) = join sep (shown cells) := by
  induction cells with
  | nil => exact absurd rfl nonempty
  | cons cell cells ih =>
      by_cases ends : '\x00' ∈ cell
      · rw [shown, if_pos ends]
        cases cells with
        | nil => simp [join]
        | cons next cells =>
            rw [join_cons (by simp), terminated_append_of_mem ends]
            simp [join]
      · rw [shown, if_neg ends]
        cases cells with
        | nil => simpa [join, shown] using terminated_of_not_mem ends
        | cons next cells =>
            have rest := ih (by simp)
            have sep' : '\x00' ∉ [sep] := by simpa using Ne.symm visible
            rw [join_cons (by simp), join_cons (shown_ne_nil (by simp)), terminated_append ends,
              ← List.singleton_append, terminated_append sep', rest]
            rfl

end Cells

end Like
