import Mathlib.Data.List.Basic
import PCenter.Lib.Characters

/-!
# How a POSIX shell cuts a line into tokens

The rules of token recognition, one character at a time: quotes and backslashes, operators as
long as they get, blanks, line ends and comments. A line has no tokens here if its words are not
settled by its text: where something is expanded (`$`, a backquote, a tilde, a pattern for file
names), at a here-document, and where a quotation is not closed.
-/

namespace Shell

inductive Token where
  | word (s : String)
  | operator (s : String)
  | ioNumber (s : String)
  deriving DecidableEq, Repr

section Recognition

def isBlank (c : Char) : Bool := c = ' ' || c = '\t'

def isOperator (c : Char) : Bool := c ∈ ['|', '&', ';', '<', '>', '(', ')']

def isExpanded (c : Char) : Bool := c ∈ ['$', '`', '*', '?', '[', '~']

/-- The operators of two characters, except those of here-documents. -/
def operators : List (List Char) :=
  [['|', '|'], ['&', '&'], [';', ';'], ['>', '>'], ['<', '&'], ['>', '&'], ['<', '>'], ['>', '|']]

inductive State where
  | between
  | comment
  | operator (op : List Char)
  /-- Inside a word, some of which may be quoted. -/
  | word (quoted : Bool) (w : List Char)
  | single (w : List Char)
  | double (w : List Char)
  /-- Behind a backslash, in a word or in front of one. -/
  | escape (before : Option (Bool × List Char))
  | doubleEscape (w : List Char)

def wordToken (w : List Char) : Token := .word (String.ofList w)

def operatorToken (op : List Char) : Token := .operator (String.ofList op)

/-- A character with no token before it that it could belong to. -/
def begin_ (c : Char) : Option (List Token × State) :=
  if c = '\n' then some ([operatorToken ['\n']], .between)
  else if isBlank c then some ([], .between)
  else if isOperator c then some ([], .operator [c])
  else if c = '#' then some ([], .comment)
  else if c = '\'' then some ([], .single [])
  else if c = '"' then some ([], .double [])
  else if c = '\\' then some ([], .escape none)
  else if isExpanded c then none
  else some ([], .word false [c])

/-- A number in front of a redirection is not a word. -/
def delimited (quoted : Bool) (w : List Char) (c : Char) : Token :=
  if (c = '<' ∨ c = '>') ∧ quoted = false ∧ w.all Char.isDigit then .ioNumber (String.ofList w)
  else wordToken w

def step : State → Char → Option (List Token × State)
  | .between, c => begin_ c
  | .comment, c => if c = '\n' then begin_ c else some ([], .comment)
  | .operator op, c =>
      if op = ['<'] ∧ c = '<' then none
      else if op ++ [c] ∈ operators then some ([], .operator (op ++ [c]))
      else (begin_ c).map fun r => (operatorToken op :: r.1, r.2)
  | .word quoted w, c =>
      if c = '\n' ∨ isBlank c ∨ isOperator c then
        (begin_ c).map fun r => (delimited quoted w c :: r.1, r.2)
      else if c = '\'' then some ([], .single w)
      else if c = '"' then some ([], .double w)
      else if c = '\\' then some ([], .escape (some (quoted, w)))
      else if isExpanded c then none
      else some ([], .word quoted (w ++ [c]))
  | .single w, c => if c = '\'' then some ([], .word true w) else some ([], .single (w ++ [c]))
  | .double w, c =>
      if c = '"' then some ([], .word true w)
      else if c = '\\' then some ([], .doubleEscape w)
      else if c = '$' ∨ c = '`' then none
      else some ([], .double (w ++ [c]))
  | .escape before, c =>
      if c = '\n' then
        match before with
        | none => some ([], .between)
        | some (quoted, w) => some ([], .word quoted w)
      else some ([], .word true ((before.map (·.2)).getD [] ++ [c]))
  | .doubleEscape w, c =>
      if c = '\n' then some ([], .double w)
      else if c ∈ ['$', '`', '"', '\\'] then some ([], .double (w ++ [c]))
      else some ([], .double (w ++ ['\\', c]))

def finish : State → Option (List Token)
  | .between | .comment => some []
  | .operator op => some [operatorToken op]
  | .word _ w => some [wordToken w]
  | .single _ | .double _ | .escape _ | .doubleEscape _ => none

def recognize : State → List Char → Option (List Token)
  | s, [] => finish s
  | s, c :: rest =>
      match step s c with
      | none => none
      | some (emitted, s') => (recognize s' rest).map (emitted ++ ·)

def tokens (line : String) : Option (List Token) := recognize .between line.toList

end Recognition

section Plain

variable {w rest : List Char} {c : Char}

/-- A character that stands for itself wherever it is. -/
def Plain (c : Char) : Prop :=
  c ≠ '\n' ∧ isBlank c = false ∧ isOperator c = false ∧ c ≠ '#' ∧ c ≠ '\'' ∧ c ≠ '"' ∧ c ≠ '\\' ∧
    isExpanded c = false

instance (c : Char) : Decidable (Plain c) := inferInstanceAs (Decidable (_ ∧ _))

theorem begin_plain (plain : Plain c) : begin_ c = some ([], .word false [c]) := by
  obtain ⟨line, blank, operator, hash, single, double, backslash, expanded⟩ := plain
  simp [begin_, line, blank, operator, hash, single, double, backslash, expanded]

theorem step_plain (plain : Plain c) (quoted : Bool) (w : List Char) :
    step (.word quoted w) c = some ([], .word quoted (w ++ [c])) := by
  obtain ⟨line, blank, operator, -, single, double, backslash, expanded⟩ := plain
  simp [step, line, blank, operator, single, double, backslash, expanded]

theorem recognize_append (plain : ∀ c ∈ w, Plain c) (quoted : Bool) (before rest : List Char) :
    recognize (.word quoted before) (w ++ rest) = recognize (.word quoted (before ++ w)) rest := by
  induction w generalizing before with
  | nil => rw [List.nil_append, List.append_nil]
  | cons c w ih =>
      have later := ih (fun d inside => plain d (List.mem_cons_of_mem c inside)) (before ++ [c])
      rw [List.cons_append, recognize, step_plain (plain c List.mem_cons_self)]
      simpa using later

/-- A word of plain characters, up to what follows it. -/
theorem recognize_word (nonempty : w ≠ []) (plain : ∀ c ∈ w, Plain c) (rest : List Char) :
    recognize .between (w ++ rest) = recognize (.word false w) rest := by
  obtain ⟨c, w, rfl⟩ := List.exists_cons_of_ne_nil nonempty
  have later := recognize_append (fun d inside => plain d (List.mem_cons_of_mem c inside)) false
    [c] rest
  rw [List.cons_append, recognize, step, begin_plain (plain c List.mem_cons_self)]
  simpa using later

theorem recognize_word_blank (nonempty : w ≠ []) (plain : ∀ c ∈ w, Plain c) :
    recognize .between (w ++ ' ' :: rest) = (recognize .between rest).map (wordToken w :: ·) := by
  have cut : step (.word false w) ' ' = some ([wordToken w], .between) := by
    simp [step, isBlank, begin_, delimited]
  rw [recognize_word nonempty plain, recognize, cut]
  rfl

theorem recognize_word_end (nonempty : w ≠ []) (plain : ∀ c ∈ w, Plain c) :
    recognize .between w = some [wordToken w] := by
  have whole := recognize_word nonempty plain []
  rw [List.append_nil] at whole
  exact whole

theorem recognize_pipe_blank :
    recognize .between ('|' :: ' ' :: rest) =
      (recognize .between rest).map (operatorToken ['|'] :: ·) := by
  have first : step .between '|' = some ([], .operator ['|']) := rfl
  have second : step (.operator ['|']) ' ' = some ([operatorToken ['|']], .between) := rfl
  rw [recognize, first]
  simp only [recognize, second, List.nil_append]
  cases recognize .between rest <;> rfl

end Plain

section Words

def IsPlain (s : String) : Prop := s ≠ "" ∧ ∀ c ∈ s.toList, Plain c

instance (s : String) : Decidable (IsPlain s) := inferInstanceAs (Decidable (_ ∧ _))

/-- The words, with a blank behind each. -/
def spaced : List String → List Char
  | [] => []
  | s :: rest => s.toList ++ ' ' :: spaced rest

/-- Plain words with blanks between them are the words of the line. -/
theorem recognize_spaced {ws : List String} (plain : ∀ s ∈ ws, IsPlain s) (rest : List Char) :
    recognize .between (spaced ws ++ rest) =
      (recognize .between rest).map (ws.map Token.word ++ ·) := by
  induction ws with
  | nil =>
      simp only [spaced, List.nil_append, List.map_nil]
      exact Option.map_id'.symm
  | cons s ws ih =>
      obtain ⟨some_, chars⟩ := plain s List.mem_cons_self
      have nonempty : s.toList ≠ [] := fun empty => some_ (String.toList_inj.mp empty)
      have later := ih fun t inside => plain t (List.mem_cons_of_mem s inside)
      rw [spaced, List.append_assoc, List.cons_append, recognize_word_blank nonempty chars, later,
        Option.map_map, wordToken, String.ofList_toList]
      rfl

theorem recognize_last {s : String} (plain : IsPlain s) :
    recognize .between s.toList = some [.word s] := by
  have nonempty : s.toList ≠ [] := fun empty => plain.1 (String.toList_inj.mp empty)
  rw [recognize_word_end nonempty plain.2, wordToken, String.ofList_toList]

end Words

end Shell
