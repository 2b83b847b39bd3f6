import PCenter.Executor
import PCenter.Lib.Pattern
import PCenter.Lib.Shell

/-!
# Placement group ids

The backend checks an id with two loops over its parts (`isValidPgID` of
`internal/pve/client.go`) and pastes it into a command line for a remote shell; the agent checks
it with a regular expression (`internal/executor/ceph.go`) and passes it as an argument. Both
accept the same ids, and the shell sees the arguments that the agent passes: `pgIDs_agree`.
-/

namespace PgIds

open GoText

section Model

def isHexDigit (c : Char) : Bool :=
  ('0' ≤ c && c ≤ '9') || ('a' ≤ c && c ≤ 'f') || ('A' ≤ c && c ≤ 'F')

/-- `isValidPgID` of the backend. -/
def isValidPgID (pgID : String) : Bool :=
  match split '.' pgID with
  | [pool, pg] => pool.toList.all isDigit && pg.toList.all isHexDigit && pool ≠ "" && pg ≠ ""
  | _ => false

/-- What is run over SSH: the host and the line for its shell. -/
def runCephCommand (host command pgID : String) : Except String (String × String) := do
  let fullCmd ←
    if command = "pg_repair" then
      if pgID = "" then .error "pg_id is required for pg_repair"
      else if !isValidPgID pgID then .error ("invalid pg_id format: " ++ pgID)
      else .ok ("ceph pg repair " ++ pgID)
    else if command = "health_detail" then .ok "ceph health detail"
    else if command = "osd_tree" then .ok "ceph osd tree"
    else if command = "status" then .ok "ceph status"
    else if command = "pg_query" then
      if pgID = "" then .error "pg_id is required for pg_query"
      else if !isValidPgID pgID then .error ("invalid pg_id format: " ++ pgID)
      else .ok ("ceph pg " ++ pgID ++ " query | head -20")
    else .error ("unknown command: " ++ command)
  if host = "" then .error "could not determine node host" else .ok (host, fullCmd)

def decimalDigits : List Char := "0123456789".toList

def hexDigits : List Char := "0123456789abcdefABCDEF".toList

/-- `^\d+\.[0-9a-fA-F]+$` -/
def pgIDRegex : RegularExpression Char :=
  Pattern.plus (Pattern.oneOf decimalDigits) *
    (.char '.' * Pattern.plus (Pattern.oneOf hexDigits))

/-- `isValidPgID` of the agent. -/
def agentIsValidPgID (pgID : String) : Bool := pgIDRegex.rmatch pgID.toList

/-- The arguments of `executeCeph` for the program `ceph`. -/
def executeCephArgs (action pgID : String) : Option (List String) :=
  if action = "ceph_pg_repair" then some ["pg", "repair", pgID]
  else if action = "ceph_health_detail" then some ["health", "detail"]
  else if action = "ceph_osd_tree" then some ["osd", "tree"]
  else if action = "ceph_status" then some ["status"]
  else if action = "ceph_pg_query" then some ["pg", pgID, "query"]
  else none

end Model

section Property

/-- Decimal digits, a point, hexadecimal digits, at least one of each. -/
def IsPgID (pgID : String) : Prop :=
  ∃ pool pg : List Char, pgID.toList = pool ++ '.' :: pg ∧ pool ≠ [] ∧ pg ≠ [] ∧
    (∀ c ∈ pool, c ∈ decimalDigits) ∧ ∀ c ∈ pg, c ∈ hexDigits

/-- What a shell has to make of a command: the program with the arguments of the agent, and for a
query only the head of the output. -/
def intended (command pgID : String) : Option (List Shell.Token) :=
  (executeCephArgs ("ceph_" ++ command) pgID).map fun args =>
    ("ceph" :: args).map .word ++
      if command = "pg_query" then [.operator "|", .word "head", .word "-20"] else []

end Property

section Validation

variable {pgID : String}

/-- A test of ASCII characters is settled by trying these. -/
theorem class_iff {p : Char → Bool} {cs : List Char}
    (tried : ∀ n < 128, p (Char.ofNat n) = decide (Char.ofNat n ∈ cs))
    (passed : ∀ c, p c = true → c.toNat < 128) (listed : ∀ c ∈ cs, c.toNat < 128) {c : Char} :
    p c = true ↔ c ∈ cs := by
  constructor
  · intro pass
    have here := tried c.toNat (passed c pass)
    rw [Char.ofNat_toNat, pass] at here
    exact of_decide_eq_true here.symm
  · intro inside
    have here := tried c.toNat (listed c inside)
    rw [Char.ofNat_toNat] at here
    rw [here]
    exact decide_eq_true inside

theorem isDigit_iff {c : Char} : isDigit c = true ↔ c ∈ decimalDigits := by
  refine class_iff (by decide +kernel) (fun c pass => ?_) (by decide)
  have high : c ≤ '9' := by
    simp only [isDigit, Bool.and_eq_true, decide_eq_true_eq] at pass
    exact pass.2
  have code : c.toNat ≤ 57 := high
  omega

theorem isHexDigit_iff {c : Char} : isHexDigit c = true ↔ c ∈ hexDigits := by
  refine class_iff (by decide +kernel) (fun c pass => ?_) (by decide)
  simp only [isHexDigit, Bool.or_eq_true, Bool.and_eq_true, decide_eq_true_eq] at pass
  rcases pass with (⟨-, high⟩ | ⟨-, high⟩) | ⟨-, high⟩
  · have code : c.toNat ≤ 57 := high
    omega
  · have code : c.toNat ≤ 102 := high
    omega
  · have code : c.toNat ≤ 70 := high
    omega

theorem dot_not_mem : '.' ∉ decimalDigits ∧ '.' ∉ hexDigits := by decide

theorem isValidPgID_iff : isValidPgID pgID = true ↔ IsPgID pgID := by
  constructor
  · intro valid
    rw [isValidPgID] at valid
    split at valid
    · rename_i pool pg parts
      obtain ⟨whole, -, -⟩ := split_eq_pair_iff.mp parts
      simp only [Bool.and_eq_true, List.all_eq_true, decide_eq_true_eq] at valid
      obtain ⟨⟨⟨decimal, hexadecimal⟩, some_⟩, some'⟩ := valid
      refine ⟨pool.toList, pg.toList, whole, by simpa using some_, by simpa using some', ?_, ?_⟩
      · exact fun c inside => isDigit_iff.mp (decimal c inside)
      · exact fun c inside => isHexDigit_iff.mp (hexadecimal c inside)
    · cases valid
  · rintro ⟨pool, pg, whole, some_, some', decimal, hexadecimal⟩
    have parts : split '.' pgID = [String.ofList pool, String.ofList pg] := by
      refine split_eq_pair_iff.mpr ⟨by simpa using whole, ?_, ?_⟩
      · rw [String.toList_ofList]
        exact fun inside => dot_not_mem.1 (decimal _ inside)
      · rw [String.toList_ofList]
        exact fun inside => dot_not_mem.2 (hexadecimal _ inside)
    have first : pool.all isDigit = true :=
      List.all_eq_true.mpr fun c inside => isDigit_iff.mpr (decimal c inside)
    have second : pg.all isHexDigit = true :=
      List.all_eq_true.mpr fun c inside => isHexDigit_iff.mpr (hexadecimal c inside)
    simp [isValidPgID, parts, first, second, some_, some']

theorem agentIsValidPgID_iff : agentIsValidPgID pgID = true ↔ IsPgID pgID := by
  rw [agentIsValidPgID, pgIDRegex, RegularExpression.mul_rmatch_iff]
  constructor
  · rintro ⟨pool, rest, whole, digits, tail⟩
    obtain ⟨dot, pg, rfl, point, hex⟩ := (RegularExpression.mul_rmatch_iff _ _ _).mp tail
    obtain rfl := (RegularExpression.char_rmatch_iff _ _).mp point
    obtain ⟨some_, decimal⟩ := Pattern.plus_oneOf_rmatch_iff.mp digits
    obtain ⟨some', hexadecimal⟩ := Pattern.plus_oneOf_rmatch_iff.mp hex
    exact ⟨pool, pg, whole, some_, some', decimal, hexadecimal⟩
  · rintro ⟨pool, pg, whole, some_, some', decimal, hexadecimal⟩
    refine ⟨pool, '.' :: pg, whole, Pattern.plus_oneOf_rmatch_iff.mpr ⟨some_, decimal⟩, ?_⟩
    refine (RegularExpression.mul_rmatch_iff _ _ _).mpr ⟨['.'], pg, rfl, ?_, ?_⟩
    · exact (RegularExpression.char_rmatch_iff _ _).mpr rfl
    · exact Pattern.plus_oneOf_rmatch_iff.mpr ⟨some', hexadecimal⟩

theorem isSome_unhex (c : Char) : (GoUrl.unhex c).isSome = isHexDigit c := by
  rw [GoUrl.unhex, isHexDigit]
  split_ifs <;> simp_all

/-- The check of the agent as it was written without regular expressions, to run commands. -/
theorem executor_isValidPgID (pgID : String) :
    Executor.isValidPgID pgID = agentIsValidPgID pgID := by
  rw [Bool.eq_iff_iff, agentIsValidPgID_iff, ← isValidPgID_iff, Executor.isValidPgID, isValidPgID,
    split_eq_cut]
  obtain ⟨pool, _ | pg⟩ := cut '.' pgID
  · exact Iff.rfl
  simp only [isSome_unhex]
  cases dotted : contains '.' pg with
  | false =>
      rw [split_of_not_contains dotted]
      simp only [Bool.and_eq_true]
      tauto
  | true =>
      have whole : pg.toList.all isHexDigit = false := by
        rw [List.all_eq_false]
        exact ⟨'.', List.contains_iff_mem.mp dotted, by decide⟩
      obtain ⟨head, second, rest, parts⟩ := split_of_contains dotted
      rw [whole, parts]
      simp

end Validation

section Lines

variable {pgID host : String}

/-- No character of an id means anything to a shell. -/
theorem isPlain_of_isPgID (accepted : IsPgID pgID) : Shell.IsPlain pgID := by
  obtain ⟨pool, pg, whole, some_, some', decimal, hexadecimal⟩ := accepted
  have digits : ∀ c ∈ decimalDigits, Shell.Plain c := by decide
  have hex : ∀ c ∈ hexDigits, Shell.Plain c := by decide
  constructor
  · intro empty
    have chars := congrArg String.toList empty
    rw [whole] at chars
    simp at chars
  · intro c inside
    rw [whole] at inside
    rcases List.mem_append.mp inside with left | right
    · exact digits c (decimal c left)
    · rcases List.mem_cons.mp right with rfl | right
      · decide
      · exact hex c (hexadecimal c right)

theorem tokens_repair (plain : Shell.IsPlain pgID) :
    Shell.tokens ("ceph pg repair " ++ pgID) = intended "pg_repair" pgID := by
  have front : "ceph pg repair ".toList = Shell.spaced ["ceph", "pg", "repair"] := by decide
  have words := @Shell.recognize_spaced ["ceph", "pg", "repair"] (by decide) pgID.toList
  rw [Shell.tokens, String.toList_append, front, words, Shell.recognize_last plain]
  rfl

theorem tokens_query (plain : Shell.IsPlain pgID) :
    Shell.tokens ("ceph pg " ++ pgID ++ " query | head -20") = intended "pg_query" pgID := by
  have front : "ceph pg ".toList = Shell.spaced ["ceph", "pg"] := by decide
  have back : " query | head -20".toList =
      ' ' :: (Shell.spaced ["query"] ++ '|' :: ' ' :: (Shell.spaced ["head"] ++ "-20".toList)) := by
    decide
  have line : ("ceph pg " ++ pgID ++ " query | head -20").toList =
      Shell.spaced ["ceph", "pg", pgID, "query"] ++
        '|' :: ' ' :: (Shell.spaced ["head"] ++ "-20".toList) := by
    rw [String.toList_append, String.toList_append, front, back]
    simp [Shell.spaced]
  have each : ∀ s ∈ ["ceph", "pg", pgID, "query"], Shell.IsPlain s := by
    intro s listed
    simp only [List.mem_cons, List.not_mem_nil, or_false] at listed
    rcases listed with rfl | rfl | rfl | rfl
    · decide
    · decide
    · exact plain
    · decide
  have head := @Shell.recognize_spaced ["head"] (by decide) "-20".toList
  rw [Shell.tokens, line, Shell.recognize_spaced each, Shell.recognize_pipe_blank, head,
    Shell.recognize_last (by decide)]
  rfl

/-- The commands that carry an id run as long as the host is known. -/
theorem runCephCommand_eq (named : host ≠ "") (valid : isValidPgID pgID = true) :
    runCephCommand host "pg_repair" pgID = .ok (host, "ceph pg repair " ++ pgID) ∧
      runCephCommand host "pg_query" pgID =
        .ok (host, "ceph pg " ++ pgID ++ " query | head -20") := by
  have some_ : pgID ≠ "" := (isPlain_of_isPgID (isValidPgID_iff.mp valid)).1
  constructor
  · simp only [runCephCommand, if_pos, if_neg some_, valid, Bool.not_true, Bool.false_eq_true,
      if_false, if_neg named]
    rfl
  · have other : "pg_query" ≠ "pg_repair" ∧ "pg_query" ≠ "health_detail" ∧
        "pg_query" ≠ "osd_tree" ∧ "pg_query" ≠ "status" := by decide
    simp only [runCephCommand, if_pos, if_neg other.1, if_neg other.2.1, if_neg other.2.2.1,
      if_neg other.2.2.2, if_neg some_, valid, Bool.not_true, Bool.false_eq_true, if_false,
      if_neg named]
    rfl

/-- The backend and the agent accept the same ids, and for these the lines of the backend are cut
by a shell into the words that are meant. -/
theorem pgIDs_agree (pgID : String) :
    (isValidPgID pgID = true ↔ IsPgID pgID) ∧ (agentIsValidPgID pgID = true ↔ IsPgID pgID) ∧
      (isValidPgID pgID = true → ∀ host, host ≠ "" → ∀ command ∈ ["pg_repair", "pg_query"],
        ∃ line, runCephCommand host command pgID = .ok (host, line) ∧
          Shell.tokens line = intended command pgID) := by
  refine ⟨isValidPgID_iff, agentIsValidPgID_iff, fun valid host named command listed => ?_⟩
  have plain := isPlain_of_isPgID (isValidPgID_iff.mp valid)
  obtain ⟨repair, query⟩ := runCephCommand_eq named valid
  simp only [List.mem_cons, List.not_mem_nil, or_false] at listed
  rcases listed with rfl | rfl
  · exact ⟨_, repair, tokens_repair plain⟩
  · exact ⟨_, query, tokens_query plain⟩

theorem pgID_of_pool_four : ∃ line,
    runCephCommand "pve1" "pg_query" "4.3b" = .ok ("pve1", line) ∧
      Shell.tokens line = intended "pg_query" "4.3b" :=
  (pgIDs_agree "4.3b").2.2 (by decide) "pve1" (by decide) "pg_query" (by decide)

end Lines

end PgIds
