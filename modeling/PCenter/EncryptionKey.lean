import PCenter.Lib.Text

/-!
# The encryption key in the environment file

`persistEncryptionKey` of `cmd/server/main.go`. Two files are tried. In the first one that can be
used an assignment that is there already counts as success whatever its value, and otherwise the
key is appended on a line of its own, unless what the file holds could not be read and does not
end its last line: `kept_iff`.
-/

namespace EncryptionKey

open GoText

section Model

/-- A candidate, and what the calls on it come to. -/
structure EnvFile where
  /-- The directory is not missing. -/
  dir : Bool
  /-- `none` where there is no file. -/
  content : Option String
  readable : Bool
  opens : Bool
  /-- After how many characters the write breaks off, if it does. -/
  fails : Option ℕ
  deriving DecidableEq, Repr

namespace EnvFile

variable (f : EnvFile)

def text : String := f.content.getD ""

/-- What `os.ReadFile` has given. -/
def existing : String := if f.readable then f.text else ""

def append (s : String) : EnvFile := { f with content := some (f.text ++ s) }

end EnvFile

/-- The lines of a text; a newline at the end closes the last one. -/
def lines (s : String) : List String :=
  if s = "" then [] else split '\n' (if hasSuffix "\n" s then dropSuffix "\n" s else s)

def name : String := "PCENTER_ENCRYPTION_KEY="

/-- A line that assigns the key, and its value. -/
def assigned (line : String) : Option String :=
  if hasPrefix name (trimSpace line) then some (trimSpace (dropPrefix name (trimSpace line)))
  else none

/-- The scanner stops at a line of 64 KiB. A carriage return that it takes off would be trimmed
anyway. -/
def scanned (existing : String) : List String :=
  (lines existing).takeWhile fun line => line.utf8ByteSize < 65536

def alreadySet (existing : String) : Bool :=
  (scanned existing).any fun line => hasPrefix name (trimSpace line)

/-- Text whose last line is not ended. -/
def unterminated (s : String) : Bool := s ≠ "" && !hasSuffix "\n" s

/-- The loop goes on with a line that may have got a newline in front, or it is done. -/
inductive Visit where
  | next (f : EnvFile) (envLine : String)
  | done (f : EnvFile)

def visit (f : EnvFile) (envLine : String) : Visit :=
  if !f.dir then .next f envLine
  else if alreadySet f.existing then .done f
  else if !f.opens then .next f envLine
  else
    let envLine := if unterminated f.existing then "\n" ++ envLine else envLine
    match f.fails with
    | some n => .next (f.append (String.ofList ((envLine ++ "\n").toList.take n))) envLine
    | none => .done (f.append (envLine ++ "\n"))

/-- The file that the loop has ended with, before and after, and all files afterwards. -/
def persist : List EnvFile → String → Option (EnvFile × EnvFile) × List EnvFile
  | [], _ => (none, [])
  | f :: rest, envLine =>
      match visit f envLine with
      | .next f' envLine' => ((persist rest envLine').1, f' :: (persist rest envLine').2)
      | .done f' => (some (f, f'), f' :: rest)

/-- `hex.EncodeToString` of random bytes. -/
def generateKey (random : Fin 32 → UInt8) : String :=
  String.ofList ((List.ofFn random).flatMap fun b =>
    [Nat.digitChar (b.toNat / 16), Nat.digitChar (b.toNat % 16)])

/-- `/etc/pcenter/env` and `/opt/pcenter/.env`; `none` is the error that no file is writable. -/
def persistEncryptionKey (etc opt : EnvFile) (key : String) :
    Option (EnvFile × EnvFile) × List EnvFile :=
  persist [etc, opt] (name ++ key)

/-- The start of the server with the key from its configuration: the key that is used, and the
files afterwards. -/
def startUp (configured : String) (random : Fin 32 → UInt8) (etc opt : EnvFile) :
    String × List EnvFile :=
  if configured = "" then
    (generateKey random, (persistEncryptionKey etc opt (generateKey random)).2)
  else (configured, [etc, opt])

end Model

section Property

/-- The last assignment of a file counts. -/
def effective (s : String) : Option String := ((lines s).filterMap assigned).getLast?

/-- The key is the one that a restart finds, and the lines of before are all there; besides the
assignment only blank lines may have been added. -/
structure Kept (key : String) (before after : EnvFile) : Prop where
  found : effective after.text = some key
  unchanged : ∃ new, lines after.text = lines before.text ++ new ∧
    ∀ line ∈ new, line = "" ∨ (assigned line).isSome

/-- The loop ends with this file. -/
def Stops (f : EnvFile) : Prop :=
  f.dir = true ∧ (alreadySet f.existing = true ∨ f.opens = true ∧ f.fails = none)

/-- A file that is written in vain but leaves the newline in front of the line. -/
def Carries (f : EnvFile) : Prop :=
  f.dir = true ∧ f.opens = true ∧ unterminated f.existing = true

instance (f : EnvFile) : Decidable (Stops f) := inferInstanceAs (Decidable (_ ∧ _))

instance (f : EnvFile) : Decidable (Carries f) := inferInstanceAs (Decidable (_ ∧ _))

/-- An assignment that the scan sees has the key already; a file that could not be read ends its
last line, or the line to append comes with a newline. -/
structure Sound (key : String) (earlier : List EnvFile) (f : EnvFile) : Prop where
  assigned : alreadySet f.existing = true → effective f.text = some key
  ended : alreadySet f.existing = false → f.readable = false → unterminated f.text = true →
    ∃ e ∈ earlier, Carries e

end Property

section Lines

variable {s t key : String}

theorem hasSuffix_append (s t : String) : hasSuffix t (s ++ t) = true := by
  rw [hasSuffix, List.isSuffixOf_iff_suffix, String.toList_append]
  exact List.suffix_append _ _

theorem dropSuffix_append (s t : String) : dropSuffix t (s ++ t) = s := by
  rw [dropSuffix, String.toList_append, List.length_append, Nat.add_sub_cancel, List.take_left,
    String.ofList_toList]

theorem lines_newline (s : String) : lines (s ++ "\n") = split '\n' s := by
  have some_ : s ++ "\n" ≠ "" := by simp
  rw [lines, if_neg some_, if_pos (hasSuffix_append s "\n"), dropSuffix_append]

theorem lines_of_unterminated (open_ : unterminated s = true) : lines s = split '\n' s := by
  obtain ⟨some_, loose⟩ : s ≠ "" ∧ hasSuffix "\n" s = false := by simpa [unterminated] using open_
  rw [lines, if_neg some_, if_neg (by simp [loose])]

theorem eq_append_of_hasSuffix (ends : hasSuffix t s = true) : ∃ r, s = r ++ t := by
  rw [hasSuffix, List.isSuffixOf_iff_suffix] at ends
  obtain ⟨front, whole⟩ := ends
  exact ⟨String.ofList front, String.toList_inj.mp (by simp [whole])⟩

/-- Behind a newline a new line begins. -/
theorem lines_after_newline (s t : String) :
    lines (s ++ "\n" ++ (t ++ "\n")) = split '\n' s ++ lines (t ++ "\n") := by
  have newline : String.singleton '\n' = "\n" := rfl
  have parts := split_append '\n' s t
  rw [newline] at parts
  rw [← String.append_assoc, lines_newline, lines_newline, parts]

theorem lines_append (closed : unterminated s = false) (t : String) :
    lines (s ++ (t ++ "\n")) = lines s ++ lines (t ++ "\n") := by
  by_cases empty : s = ""
  · subst empty
    rw [String.empty_append]
    rfl
  · have ends : hasSuffix "\n" s = true := by simpa [unterminated, empty] using closed
    obtain ⟨r, rfl⟩ := eq_append_of_hasSuffix ends
    rw [lines_after_newline, lines_newline r]

theorem lines_append_of_unterminated (open_ : unterminated s = true) (t : String) :
    lines (s ++ ("\n" ++ (t ++ "\n"))) = lines s ++ lines (t ++ "\n") := by
  rw [← String.append_assoc, lines_after_newline, lines_of_unterminated open_]

/-- A line that is glued to the last one is not there, and the last one is not either. -/
theorem lines_glued (open_ : unterminated s = true) (some_ : t ≠ "")
    (flat : contains '\n' t = false) {new : List String} :
    lines (s ++ (t ++ "\n")) ≠ lines s ++ new := by
  rw [← String.append_assoc, lines_newline, lines_of_unterminated open_]
  intro same
  have chars : ∀ (a b : List Char), '\n' ∉ b →
      ((a ++ b).splitOn '\n').length = (a.splitOn '\n').length := by
    intro a b free
    induction a with
    | nil =>
        rw [List.nil_append, List.splitOn_eq_singleton free]
        rfl
    | cons c a ih =>
        rw [List.cons_append, List.splitOn_cons_eq_if_modifyHead,
          List.splitOn_cons_eq_if_modifyHead]
        split
        · simpa using ih
        · simpa using ih
  have free : '\n' ∉ t.toList := by simpa [contains] using flat
  have length : (split '\n' (s ++ t)).length = (split '\n' s).length := by
    simpa [split, String.toList_append] using chars s.toList t.toList free
  have sizes := congrArg List.length same
  rw [List.length_append, length] at sizes
  have none_ : new = [] := List.eq_nil_of_length_eq_zero (by omega)
  rw [none_, List.append_nil] at same
  have cells : (s ++ t).toList.splitOn '\n' = s.toList.splitOn '\n' :=
    List.map_injective_iff.mpr (fun _ _ => String.ofList_injective) same
  have back := congrArg (List.intercalate ['\n']) cells
  rw [List.intercalate_splitOn, List.intercalate_splitOn, String.toList_append] at back
  exact some_ (String.toList_inj.mp (by simpa using back))

end Lines

section Keys

variable {key : String}

/-- A text without blanks, such as a key in hexadecimal digits. -/
def Solid (s : String) : Prop := ∀ c ∈ s.toList, isSpace c = false

theorem digitChar_solid : ∀ n < 16, isSpace (Nat.digitChar n) = false := by decide

theorem solid_generateKey (random : Fin 32 → UInt8) : Solid (generateKey random) := by
  intro c inside
  rw [generateKey, String.toList_ofList] at inside
  obtain ⟨b, -, digit⟩ := List.mem_flatMap.mp inside
  have small := b.toNat_lt
  simp only [List.mem_cons, List.not_mem_nil, or_false] at digit
  rcases digit with rfl | rfl
  · exact digitChar_solid _ (by omega)
  · exact digitChar_solid _ (by omega)

theorem trimSpace_of_solid {s : String} (solid : Solid s) : trimSpace s = s := by
  have kept : ∀ cs : List Char, (∀ c ∈ cs, isSpace c = false) → cs.dropWhile isSpace = cs := by
    intro cs free
    cases cs with
    | nil => rfl
    | cons c cs => rw [List.dropWhile_cons, free c List.mem_cons_self, if_neg Bool.false_ne_true]
  rw [trimSpace, kept _ solid, kept _ fun c inside => solid c (List.mem_reverse.mp inside),
    List.reverse_reverse, String.ofList_toList]

theorem solid_line (solid : Solid key) : Solid (name ++ key) := by
  intro c inside
  rw [String.toList_append] at inside
  rcases List.mem_append.mp inside with label | value
  · have plain : ∀ c ∈ name.toList, isSpace c = false := by decide
    exact plain c label
  · exact solid c value

theorem assigned_line (solid : Solid key) : assigned (name ++ key) = some key := by
  rw [assigned, trimSpace_of_solid (solid_line solid), if_pos (hasPrefix_append name key),
    dropPrefix_append, trimSpace_of_solid solid]

theorem contains_newline_of_solid {s : String} (solid : Solid s) : contains '\n' s = false := by
  rw [contains, ← Bool.not_eq_true, List.contains_iff_mem]
  exact fun inside => Bool.noConfusion (solid '\n' inside)

/-- The line to append, with some newlines in front. -/
def lead (key : String) : ℕ → String
  | 0 => name ++ key
  | n + 1 => "\n" ++ lead key n

theorem lines_lead (solid : Solid key) (n : ℕ) :
    lines (lead key n ++ "\n") = List.replicate n "" ++ [name ++ key] := by
  induction n with
  | zero =>
      have flat := contains_newline_of_solid (solid_line solid)
      rw [lead, lines_newline, split_of_not_contains flat]
      rfl
  | succ n ih =>
      have blank := lines_after_newline "" (lead key n)
      rw [String.empty_append, ← String.append_assoc] at blank
      rw [lead, blank, ih]
      rfl

theorem effective_of_lines {s : String} {old : List String} {n : ℕ} (solid : Solid key)
    (whole : lines s = old ++ (List.replicate n "" ++ [name ++ key])) :
    effective s = some key := by
  rw [effective, whole, ← List.append_assoc, List.filterMap_append]
  simp [assigned_line solid]

end Keys

section Loop

variable {key : String} {f before after : EnvFile}

/-- The file that the loop ends with, after a line with `n` newlines in front. -/
def saved (key : String) (n : ℕ) (f : EnvFile) : EnvFile :=
  if alreadySet f.existing = true then f
  else f.append (lead key (if unterminated f.existing = true then n + 1 else n) ++ "\n")

theorem visit_of_stops (stops : Stops f) (n : ℕ) :
    visit f (lead key n) = .done (saved key n f) := by
  obtain ⟨dir, rest⟩ := stops
  rw [visit, saved, dir, Bool.not_true, if_neg Bool.false_ne_true]
  by_cases already : alreadySet f.existing = true
  · rw [if_pos already, if_pos already]
  · obtain ⟨opens, wrote⟩ := rest.resolve_left already
    rw [if_neg already, if_neg already, opens, Bool.not_true, if_neg Bool.false_ne_true, wrote]
    by_cases open_ : unterminated f.existing = true
    · rw [if_pos open_, if_pos open_]
      rfl
    · rw [if_neg open_, if_neg open_]

theorem visit_of_not_stops (goes : ¬Stops f) (n : ℕ) :
    ∃ f', visit f (lead key n) = .next f' (lead key (if Carries f then n + 1 else n)) := by
  rw [visit]
  cases dir : f.dir with
  | false =>
      have rest : ¬Carries f := fun carries => Bool.noConfusion (dir.symm.trans carries.1)
      rw [if_neg rest]
      exact ⟨f, rfl⟩
  | true =>
      have free : ¬alreadySet f.existing = true := fun already => goes ⟨dir, .inl already⟩
      rw [Bool.not_true, if_neg Bool.false_ne_true, if_neg free]
      cases opens : f.opens with
      | false =>
          have rest : ¬Carries f := fun carries => Bool.noConfusion (opens.symm.trans carries.2.1)
          rw [if_neg rest]
          exact ⟨f, rfl⟩
      | true =>
          rw [Bool.not_true, if_neg Bool.false_ne_true]
          cases wrote : f.fails with
          | none => exact absurd ⟨dir, .inr ⟨opens, wrote⟩⟩ goes
          | some m =>
              by_cases open_ : unterminated f.existing = true
              · have carries : Carries f := ⟨dir, opens, open_⟩
                rw [if_pos carries]
                exact ⟨_, by rw [if_pos open_]; rfl⟩
              · have rest : ¬Carries f := fun carries => open_ carries.2.2
                rw [if_neg rest]
                exact ⟨_, by rw [if_neg open_]⟩

/-- The loop ends with the first file that stops it; the files before it have left their newlines
in front of the line. -/
theorem persist_eq_some_iff (files : List EnvFile) (n : ℕ) :
    (persist files (lead key n)).1 = some (before, after) ↔
      ∃ earlier later, files = earlier ++ before :: later ∧ (∀ e ∈ earlier, ¬Stops e) ∧
        Stops before ∧ after = saved key (n + earlier.countP (Carries ·)) before := by
  induction files generalizing n with
  | nil => simp [persist]
  | cons f rest ih =>
      by_cases stops : Stops f
      · simp only [persist, visit_of_stops stops]
        constructor
        · intro same
          obtain ⟨rfl, rfl⟩ := Prod.mk.inj (Option.some.inj same)
          exact ⟨[], rest, rfl, by simp, stops, rfl⟩
        · rintro ⟨earlier, later, whole, goes, -, rfl⟩
          cases earlier with
          | nil =>
              obtain ⟨rfl, rfl⟩ := List.cons.inj whole
              rfl
          | cons e earlier =>
              obtain ⟨rfl, -⟩ := List.cons.inj whole
              exact absurd stops (goes f List.mem_cons_self)
      · obtain ⟨f', next⟩ := @visit_of_not_stops key f stops n
        simp only [persist, next]
        rw [ih]
        have count : ∀ earlier : List EnvFile,
            (if Carries f then n + 1 else n) + earlier.countP (Carries ·) =
              n + (f :: earlier).countP (Carries ·) := by
          intro earlier
          rw [List.countP_cons]
          simp only [decide_eq_true_eq]
          split_ifs <;> omega
        constructor
        · rintro ⟨earlier, later, rfl, goes, stops', rfl⟩
          refine ⟨f :: earlier, later, rfl, ?_, stops', by rw [count]⟩
          intro e inside
          rcases List.mem_cons.mp inside with rfl | inside
          · exact stops
          · exact goes e inside
        · rintro ⟨earlier, later, whole, goes, stops', rfl⟩
          cases earlier with
          | nil =>
              obtain ⟨rfl, -⟩ := List.cons.inj whole
              exact absurd stops' stops
          | cons e earlier =>
              obtain ⟨rfl, rfl⟩ := List.cons.inj whole
              refine ⟨earlier, later, rfl, ?_, stops', by rw [count]⟩
              exact fun e inside => goes e (List.mem_cons_of_mem f inside)

end Loop

section Keeping

variable {key : String} {f : EnvFile} {n : ℕ}

theorem text_append (f : EnvFile) (s : String) : (f.append s).text = f.text ++ s := rfl

/-- The line stands behind the old ones. -/
theorem kept_of_lines {after : EnvFile} (solid : Solid key) {m : ℕ}
    (whole : lines after.text = lines f.text ++ lines (lead key m ++ "\n")) :
    Kept key f after := by
  rw [lines_lead solid] at whole
  refine ⟨effective_of_lines solid whole, _, whole, ?_⟩
  intro line inside
  rcases List.mem_append.mp inside with blank | last
  · exact .inl (List.eq_of_mem_replicate blank)
  · refine .inr ?_
    rw [List.mem_singleton.mp last, assigned_line solid]
    rfl

theorem kept_saved_iff (solid : Solid key) : Kept key f (saved key n f) ↔
    (alreadySet f.existing = true → effective f.text = some key) ∧
      (alreadySet f.existing = false → f.readable = false → unterminated f.text = true →
        0 < n) := by
  by_cases already : alreadySet f.existing = true
  · have same : saved key n f = f := if_pos already
    rw [same]
    constructor
    · intro kept
      exact ⟨fun _ => kept.found, fun free => absurd already (by simp [free])⟩
    · rintro ⟨found, -⟩
      exact ⟨found already, [], by simp, by simp⟩
  have free := eq_false_of_ne_true already
  have whole : (saved key n f).text =
      f.text ++ (lead key (if unterminated f.existing = true then n + 1 else n) ++ "\n") := by
    rw [saved, if_neg already, text_append]
  by_cases open_ : unterminated f.text = true
  · -- What was read is all that is there, or nothing.
    cases readable : f.readable with
    | true =>
        have existing : f.existing = f.text := by rw [EnvFile.existing, if_pos readable]
        rw [existing, if_pos open_, lead, String.append_assoc] at whole
        have lines_ := lines_append_of_unterminated open_ (lead key n)
        refine iff_of_true (kept_of_lines solid (m := n) (by rw [whole, lines_])) ⟨?_, ?_⟩
        · exact fun set_ => absurd set_ already
        · exact fun _ unread => Bool.noConfusion unread
    | false =>
        have existing : f.existing = "" := by simp [EnvFile.existing, readable]
        have blank : ¬unterminated "" = true := by decide
        rw [existing, if_neg blank] at whole
        constructor
        · intro kept
          refine ⟨fun set_ => absurd set_ already, fun _ _ _ => ?_⟩
          by_contra zero
          obtain rfl : n = 0 := by omega
          obtain ⟨new, lines_, -⟩ := kept.unchanged
          have flat := contains_newline_of_solid (solid_line solid)
          have some_ : name ++ key ≠ "" := by simp [name]
          rw [whole] at lines_
          exact lines_glued open_ some_ flat lines_
        · rintro ⟨-, positive⟩
          obtain ⟨m, rfl⟩ : ∃ m, n = m + 1 := ⟨n - 1, by have := positive free rfl open_; omega⟩
          rw [lead, String.append_assoc] at whole
          have lines_ := lines_append_of_unterminated open_ (lead key m)
          exact kept_of_lines solid (m := m) (by rw [whole, lines_])
  · have closed := eq_false_of_ne_true open_
    have existing : ¬unterminated f.existing = true := by
      rw [EnvFile.existing]
      split
      · exact open_
      · decide
    rw [if_neg existing] at whole
    have lines_ := lines_append closed (lead key n)
    refine iff_of_true (kept_of_lines solid (m := n) (by rw [whole, lines_])) ⟨?_, ?_⟩
    · exact fun set_ => absurd set_ already
    · exact fun _ _ ends => absurd ends open_

/-- A generated key that is persisted without an error is the one a restart finds precisely if
the file at which the loop stops is sound. -/
theorem kept_iff (random : Fin 32 → UInt8) (etc opt : EnvFile) :
    (∀ before after, (persistEncryptionKey etc opt (generateKey random)).1 = some (before, after) →
      Kept (generateKey random) before after) ↔
    ∀ earlier f later, [etc, opt] = earlier ++ f :: later → (∀ e ∈ earlier, ¬Stops e) → Stops f →
      Sound (generateKey random) earlier f := by
  have solid := solid_generateKey random
  have run := fun before after =>
    @persist_eq_some_iff (generateKey random) before after [etc, opt] 0
  have carried : ∀ earlier : List EnvFile, 0 < 0 + earlier.countP (Carries ·) ↔
      ∃ e ∈ earlier, Carries e := by
    intro earlier
    rw [Nat.zero_add, List.countP_pos_iff]
    simp
  constructor
  · intro kept earlier f later whole goes stops
    have ends := (run f (saved (generateKey random) (0 + earlier.countP (Carries ·)) f)).mpr
      ⟨earlier, later, whole, goes, stops, rfl⟩
    obtain ⟨assigned, ended⟩ := (kept_saved_iff solid).mp (kept _ _ ends)
    exact ⟨assigned, fun free unread open_ => (carried earlier).mp (ended free unread open_)⟩
  · intro sound before after ends
    obtain ⟨earlier, later, whole, goes, stops, rfl⟩ := (run before after).mp ends
    obtain ⟨assigned, ended⟩ := sound earlier before later whole goes stops
    exact (kept_saved_iff solid).mpr
      ⟨assigned, fun free unread open_ => (carried earlier).mpr (ended free unread open_)⟩

theorem generateKey_ne_empty (random : Fin 32 → UInt8) : generateKey random ≠ "" := by
  intro empty
  have chars := congrArg (fun s => s.toList.length) empty
  simp [generateKey] at chars

/-- An environment file whose variable is empty. -/
def emptyAssignment : EnvFile := ⟨true, some "PCENTER_ENCRYPTION_KEY=\n", true, true, none⟩

theorem empty_assignment_wins : ¬∀ (random : Fin 32 → UInt8) (etc opt before after : EnvFile),
    (persistEncryptionKey etc opt (generateKey random)).1 = some (before, after) →
      Kept (generateKey random) before after := by
  intro always
  have stops : Stops emptyAssignment := by decide
  have ends := (@persist_eq_some_iff (generateKey fun _ => 0) emptyAssignment
    (saved (generateKey fun _ => 0) 0 emptyAssignment)
    [emptyAssignment, emptyAssignment] 0).mpr
    ⟨[], [emptyAssignment], rfl, by simp, stops, rfl⟩
  have kept := always _ _ _ _ _ ends
  have found := ((kept_saved_iff (solid_generateKey _)).mp kept).1 (by decide)
  have value : effective emptyAssignment.text = some "" := by decide
  exact generateKey_ne_empty (fun _ => 0) (Option.some.inj (found.symm.trans value))

end Keeping

end EncryptionKey
