import PCenter.Accounts
import PCenter.Lib.BaseEncoding
import PCenter.Lib.CaseFold

/-!
# How a recovery code may be typed

`totp.go` hashes a code in upper case and without its dashes. `HandleVerifyTOTP` takes spaces and
dashes out of what is typed and leaves the letters as they are, so a code is found again only if
it is typed in upper case. Here a request is one call of `VerifyTOTPLogin` with no other in
between.
-/

namespace RecoveryCodeSpelling

open Accounts BaseEncoding GoText
open Form (Bytes utf8)

section Codes

/-- `strings.ReplaceAll` of a character by nothing. -/
def without (c : Char) (s : String) : String := String.ofList (s.toList.filter (· ≠ c))

/-- `strings.ToUpper` of an ASCII text. -/
def toUpper (s : String) : String := String.ofList (s.toList.map Char.toUpper)

/-- What `rand.Read` fills. -/
abbrev Entropy := { bs : Bytes // bs.length = 9 }

/-- `encoded[from:to]` -/
def slice (start stop : Nat) (s : String) : String :=
  String.ofList ((s.toList.take stop).drop start)

/-- `generateRecoveryCode`: XXXX-XXXX-XXXX -/
def generateRecoveryCode (b : Entropy) : String :=
  let encoded := std32.encode b.val
  toUpper (slice 0 4 encoded ++ "-" ++ slice 4 8 encoded ++ "-" ++ slice 8 12 encoded)

/-- What `HashRecoveryCodes` hands to `HashPassword`. -/
def hashed (code : String) : String := toUpper (without '-' code)

/-- What `HandleVerifyTOTP` makes of the typed code. -/
def typed (code : String) : String := without '-' (without ' ' code)

/-- The texts differ in letter case, dashes and spaces at most. -/
def Respelling (code t : String) : Prop := equalFold (typed t) (typed code) = true

instance (code t : String) : Decidable (Respelling code t) :=
  inferInstanceAs (Decidable (_ = true))

/-- Typed without lower-case letters, and without the letters of other alphabets that fold to
ASCII ones. -/
def UpperCase (t : String) : Prop := ∀ c ∈ t.toList, c.toNat < 128 ∧ ¬('a' ≤ c ∧ c ≤ 'z')

instance (t : String) : Decidable (UpperCase t) := inferInstanceAs (Decidable (∀ _ ∈ _, _))

end Codes

section Request

/-- The answers of `HandleVerifyTOTP`. -/
inductive Answer where
  | unauthorized
  | verified
  | invalidBody
  | invalidCode
  | internal
  deriving DecidableEq, Repr

variable (p : Primitives) (cfg : Config)

/-- `VerifyTOTPLogin`, which makes five statements at most. -/
def verifyTOTPLogin (os : Nat → Outside) (session : Session) (code : String) (db : DB) :
    VerifyPhase × DB :=
  [0, 1, 2, 3, 4].foldl (fun s i => (⟨session, code, s.1⟩ : Verify).next p cfg (os i) s.2)
    (.reading, db)

/-- The body is none when it cannot be decoded. -/
def handleVerifyTOTP (os : Nat → Outside) (session : Option Session) (body : Option String)
    (db : DB) : Answer × DB :=
  match session, body with
  | none, _ => (.unauthorized, db)
  | some session, body =>
      if session.totpVerified then (.verified, db)
      else
        match body with
        | none => (.invalidBody, db)
        | some code =>
            let ended := verifyTOTPLogin p cfg os session (typed code) db
            match ended.1 with
            | .ended (.ok ()) => (.verified, ended.2)
            | .ended (.error .invalidTOTP) => (.invalidCode, ended.2)
            | _ => (.internal, ended.2)

end Request

section Property

/-- bcrypt, with the salt of a hash: a hash verifies what it was made from and nothing else. -/
structure Hashing (p : Primitives) where
  hashPassword : (salt : Nat) → String → String
  verifies : ∀ salt x y, p.verifyPassword x (hashPassword salt y) = true ↔ x = y

variable {p : Primitives} (hashing : Hashing p) (code : String) (session : Session) (db : DB)

/-- The row is that of the code. -/
def Of (rc : RecoveryCode) : Prop := ∃ salt, rc.codeHash = hashing.hashPassword salt (hashed code)

/-- A login of a user with a second factor, whose recovery codes are stored as
`HashRecoveryCodes` gives them. -/
structure Enrolled (user : User) (rc : RecoveryCode) : Prop where
  awaits : session.totpVerified = false
  stored : db.getUserByID session.userID = some user
  secret : (p.decrypt user.totpSecret).isSome = true
  keys : (db.recoveryCodes.map (·.id)).Nodup
  hashes : ∀ row ∈ db.getRecoveryCodes user.id, ∃ salt plain,
    row.codeHash = hashing.hashPassword salt plain
  member : rc ∈ db.getRecoveryCodes user.id
  own : Of hashing code rc
  unused : rc.used = false

/-- Exactly one row is used up, which was unused and is of the code. -/
def UsesUp (userID : String) (after : DB) : Prop :=
  ∃ rc ∈ db.getRecoveryCodes userID, Of hashing code rc ∧ rc.used = false ∧
    after.recoveryCodes = (db.markRecoveryCodeUsed rc.id).recoveryCodes

/-- A respelling of the code is accepted and uses it up; no other text uses it up. -/
def Survives (t userID : String) (answer : Answer) (after : DB) : Prop :=
  (Respelling code t →
    answer = .verified ∧ after.sessions = (db.markTOTPVerified session.id).sessions ∧
      UsesUp hashing code db userID after) ∧
  (¬Respelling code t → ¬UsesUp hashing code db userID after)

end Property

section Spelling

variable {b : Entropy}

/-- The characters of the code but its dashes. -/
def letters (b : Entropy) : List Char := ((std32.symbols b.val).map std32.char).take 12

theorem length_letters : (letters b).length = 12 := by
  have count : (std32.symbols b.val).length = 15 := by
    rw [Encoding.length_symbols, b.property]
    rfl
  rw [letters, List.length_take, List.length_map, count]
  rfl

theorem letters_mem {c : Char} (member : c ∈ letters b) : c ∈ std32.alphabet := by
  obtain ⟨n, inside, rfl⟩ := List.mem_map.mp (List.mem_of_mem_take member)
  exact Encoding.char_mem (Encoding.symbols_lt inside)

/-- The letters of the alphabet: upper case, neither a dash nor a blank. -/
theorem alphabet_plain : ∀ c ∈ std32.alphabet, c.toUpper = c ∧ c ≠ '-' ∧ c ≠ ' ' ∧
    isSpace c = false ∧ c.toNat < 128 ∧ ¬('a' ≤ c ∧ c ≤ 'z') := by
  decide +kernel

theorem toList_generate :
    (generateRecoveryCode b).toList =
      (letters b).take 4 ++ '-' :: (((letters b).drop 4).take 4 ++ '-' :: (letters b).drop 8) := by
  have count : (std32.symbols b.val).length = 15 := by
    rw [Encoding.length_symbols, b.property]
    rfl
  have front {n : Nat} (small : n ≤ 12) : (std32.encode b.val).toList.take n = (letters b).take n := by
    rw [Encoding.encode, String.toList_ofList, List.take_append_of_le_length, letters,
      List.take_take, Nat.min_eq_left small]
    rw [List.length_map, count]
    omega
  have plain : ∀ c ∈ (letters b).take 4 ++ '-' ::
      (((letters b).drop 4).take 4 ++ '-' :: (letters b).drop 8), c.toUpper = c := by
    intro c member
    simp only [List.mem_append, List.mem_cons] at member
    rcases member with first | rfl | second | rfl | third
    · exact (alphabet_plain c (letters_mem (List.mem_of_mem_take first))).1
    · decide
    · exact (alphabet_plain c (letters_mem (List.mem_of_mem_drop (List.mem_of_mem_take second)))).1
    · decide
    · exact (alphabet_plain c (letters_mem (List.mem_of_mem_drop third))).1
  have dash : "-".toList = ['-'] := rfl
  have parts : (slice 0 4 (std32.encode b.val) ++ "-" ++ slice 4 8 (std32.encode b.val) ++ "-" ++
      slice 8 12 (std32.encode b.val)).toList =
        (letters b).take 4 ++ '-' :: (((letters b).drop 4).take 4 ++ '-' :: (letters b).drop 8) := by
    have all : (letters b).take 12 = letters b := List.take_of_length_le length_letters.le
    simp only [slice, String.toList_append, String.toList_ofList, front (Nat.le_refl 12),
      front (show 8 ≤ 12 by omega), front (show 4 ≤ 12 by omega), all, dash, List.drop_zero,
      List.append_assoc, List.singleton_append, List.drop_take]
    rfl
  rw [generateRecoveryCode, toUpper, String.toList_ofList, parts, List.map_congr_left plain,
    List.map_id']

/-- What both sides make of a code. -/
theorem filter_generate {keep : Char → Bool} (dash : keep '-' = false)
    (kept : ∀ c ∈ std32.alphabet, keep c = true) :
    (generateRecoveryCode b).toList.filter keep = letters b := by
  have all (l : List Char) (inside : l ⊆ letters b) : l.filter keep = l :=
    List.filter_eq_self.mpr fun c member => kept c (letters_mem (inside member))
  have eight : ((letters b).drop 4).drop 4 = (letters b).drop 8 := List.drop_drop
  rw [toList_generate, List.filter_append, List.filter_cons_of_neg (by simp [dash]),
    List.filter_append, List.filter_cons_of_neg (by simp [dash]), all _ (List.take_subset _ _),
    all _ fun _ member => List.mem_of_mem_drop (List.mem_of_mem_take member),
    all _ (List.drop_subset _ _), ← eight, List.take_append_drop, List.take_append_drop]

theorem hashed_generate : hashed (generateRecoveryCode b) = String.ofList (letters b) := by
  have upper : ∀ c ∈ letters b, c.toUpper = c := fun c member =>
    (alphabet_plain c (letters_mem member)).1
  have kept : ∀ c ∈ std32.alphabet, decide (c ≠ '-') = true := fun c member =>
    decide_eq_true (alphabet_plain c member).2.1
  rw [hashed, toUpper, without, String.toList_ofList, filter_generate (by decide) kept,
    List.map_congr_left upper, List.map_id']

theorem toList_typed (t : String) :
    (typed t).toList = t.toList.filter fun c => c ≠ ' ' && c ≠ '-' := by
  rw [typed, without, without, String.toList_ofList, String.toList_ofList, List.filter_filter]
  refine List.filter_congr fun c _ => ?_
  exact Bool.and_comm _ _

theorem typed_generate : typed (generateRecoveryCode b) = String.ofList (letters b) := by
  have kept : ∀ c ∈ std32.alphabet, (decide (c ≠ ' ') && decide (c ≠ '-')) = true := by
    intro c member
    obtain ⟨-, dash, blank, -⟩ := alphabet_plain c member
    simp [dash, blank]
  rw [← String.ofList_toList (s := typed _), toList_typed, filter_generate (by decide) kept]

/-- Among the characters that are typed in upper case, only letters are folded. -/
theorem simpleFold_ascii : ∀ n < 128, simpleFold (Char.ofNat n) =
    if 65 ≤ n ∧ n ≤ 90 then Char.ofNat (n + 32) else Char.ofNat n := by
  decide +kernel

theorem toNat_ofNat_ascii : ∀ n < 128, (Char.ofNat n).toNat = n := by decide +kernel

theorem toNat_simpleFold {c : Char} (ascii : c.toNat < 128) :
    (simpleFold c).toNat = if 65 ≤ c.toNat ∧ c.toNat ≤ 90 then c.toNat + 32 else c.toNat := by
  have fold := simpleFold_ascii c.toNat ascii
  rw [Char.ofNat_toNat] at fold
  rw [fold]
  split_ifs with letter
  · exact toNat_ofNat_ascii _ (by omega)
  · rfl

/-- Upper-case letters and other characters that fold to the same are the same. -/
theorem eq_of_simpleFold {c d : Char} (asciiC : c.toNat < 128) (asciiD : d.toNat < 128)
    (upperC : ¬('a' ≤ c ∧ c ≤ 'z')) (upperD : ¬('a' ≤ d ∧ d ≤ 'z'))
    (same : simpleFold c = simpleFold d) : c = d := by
  have codes := congrArg Char.toNat same
  rw [toNat_simpleFold asciiC, toNat_simpleFold asciiD] at codes
  have bounds (e : Char) : 'a' ≤ e ∧ e ≤ 'z' ↔ 97 ≤ e.toNat ∧ e.toNat ≤ 122 := by
    rw [Char.le_def, Char.le_def, UInt32.le_iff_toNat_le, UInt32.le_iff_toNat_le]
    exact Iff.rfl
  rw [bounds] at upperC upperD
  have equal : c.toNat = d.toNat := by
    split_ifs at codes <;> omega
  rw [← Char.ofNat_toNat c, equal, Char.ofNat_toNat]

theorem typed_eq_iff {t : String} (respelled : Respelling (generateRecoveryCode b) t) :
    typed t = hashed (generateRecoveryCode b) ↔ UpperCase t := by
  rw [hashed_generate]
  constructor
  · intro same c member
    by_cases left : c = ' ' ∨ c = '-'
    · rcases left with rfl | rfl <;> decide
    · rw [not_or] at left
      have inside : c ∈ (typed t).toList := by
        rw [toList_typed]
        exact List.mem_filter.mpr ⟨member, by simp [left.1, left.2]⟩
      rw [same, String.toList_ofList] at inside
      exact (alphabet_plain c (letters_mem inside)).2.2.2.2
  · intro upper
    have folded : (typed t).toList.map simpleFold = (letters b).map simpleFold := by
      rw [Respelling, equalFold, beq_iff_eq, typed_generate, String.toList_ofList] at respelled
      exact respelled
    have pairs : List.Forall₂ (fun c d => simpleFold c = simpleFold d) (typed t).toList
        (letters b) := by
      rw [← List.forall₂_eq_eq_eq, List.forall₂_map_left_iff, List.forall₂_map_right_iff] at folded
      exact folded
    have inText : ∀ c ∈ (typed t).toList, c ∈ t.toList := by
      intro c member
      rw [toList_typed] at member
      exact List.mem_of_mem_filter member
    have equal : (typed t).toList = letters b := by
      rw [← List.forall₂_eq_eq_eq]
      have both := (List.forall₂_and_left (p := (· ∈ t.toList)) _ _).mpr ⟨inText, pairs⟩
      have all := (List.forall₂_and_left (p := (· ∈ letters b)) _ _).mpr
        ⟨fun _ member => member, both.flip⟩
      refine all.flip.imp fun c d found => ?_
      obtain ⟨listed, member, same⟩ := found
      obtain ⟨asciiC, upperC⟩ := upper c member
      obtain ⟨-, -, -, -, asciiD, upperD⟩ := alphabet_plain d (letters_mem listed)
      exact eq_of_simpleFold asciiC asciiD upperC upperD same
    rw [← equal, String.ofList_toList]

end Spelling

section Requests

variable {p : Primitives} {cfg : Config} {os : Nat → Outside} {session : Session} {db : DB}
  {user : User} {secret code : String}

@[simp] theorem trustIPAfterVerification_recoveryCodes (o : Outside) (userID ip : String) :
    (trustIPAfterVerification cfg o userID ip db).recoveryCodes = db.recoveryCodes := by
  unfold trustIPAfterVerification
  split_ifs <;> rfl

@[simp] theorem trustIPAfterVerification_sessions (o : Outside) (userID ip : String) :
    (trustIPAfterVerification cfg o userID ip db).sessions = db.sessions := by
  unfold trustIPAfterVerification
  split_ifs <;> rfl

/-- The row that the service finds for a typed code. -/
def firstMatch (p : Primitives) (db : DB) (userID code : String) : Option RecoveryCode :=
  (db.getRecoveryCodes userID).find? fun rc => !rc.used && p.verifyPassword code rc.codeHash

theorem mem_of_firstMatch {userID : String} {rc : RecoveryCode}
    (found : firstMatch p db userID code = some rc) :
    rc ∈ db.getRecoveryCodes userID ∧ rc.used = false ∧
      p.verifyPassword code rc.codeHash = true := by
  have passes := List.find?_some found
  rw [Bool.and_eq_true, Bool.not_eq_true'] at passes
  exact ⟨List.mem_of_find?_eq_some found, passes⟩

theorem login_by_app (stored : db.getUserByID session.userID = some user)
    (opened : p.decrypt user.totpSecret = some secret)
    (valid : p.validateTOTP (os 0).now secret code = true) :
    verifyTOTPLogin p cfg os session code db =
      (.ended (.ok ()), trustIPAfterVerification cfg (os 2) user.id session.ipAddress
        (db.markTOTPVerified session.id)) := by
  simp [verifyTOTPLogin, Verify.next, stored, opened, valid]

theorem login_by_code (stored : db.getUserByID session.userID = some user)
    (opened : p.decrypt user.totpSecret = some secret)
    (invalid : p.validateTOTP (os 0).now secret code = false) {rc : RecoveryCode}
    (found : firstMatch p db user.id code = some rc) :
    verifyTOTPLogin p cfg os session code db =
      (.ended (.ok ()), trustIPAfterVerification cfg (os 4) user.id session.ipAddress
        ((db.markRecoveryCodeUsed rc.id).markTOTPVerified session.id)) := by
  rw [firstMatch] at found
  simp [verifyTOTPLogin, Verify.next, stored, opened, invalid, found]

theorem login_refused (stored : db.getUserByID session.userID = some user)
    (opened : p.decrypt user.totpSecret = some secret)
    (invalid : p.validateTOTP (os 0).now secret code = false)
    (unknown : firstMatch p db user.id code = none) :
    verifyTOTPLogin p cfg os session code db = (.ended (.error .invalidTOTP), db) := by
  rw [firstMatch] at unknown
  simp [verifyTOTPLogin, Verify.next, stored, opened, invalid, unknown]

/-- A login uses up a row that the typed code verifies, or none. -/
theorem codes_after (stored : db.getUserByID session.userID = some user)
    (opened : p.decrypt user.totpSecret = some secret) :
    (verifyTOTPLogin p cfg os session code db).2.recoveryCodes = db.recoveryCodes ∨
      ∃ rc ∈ db.getRecoveryCodes user.id, p.verifyPassword code rc.codeHash = true ∧
        (verifyTOTPLogin p cfg os session code db).2.recoveryCodes =
          (db.markRecoveryCodeUsed rc.id).recoveryCodes := by
  cases valid : p.validateTOTP (os 0).now secret code with
  | true =>
      left
      rw [login_by_app stored opened valid, trustIPAfterVerification_recoveryCodes]
      rfl
  | false =>
      cases found : firstMatch p db user.id code with
      | none =>
          left
          rw [login_refused stored opened valid found]
      | some rc =>
          obtain ⟨member, -, verified⟩ := mem_of_firstMatch found
          refine .inr ⟨rc, member, verified, ?_⟩
          rw [login_by_code stored opened valid found, trustIPAfterVerification_recoveryCodes]
          rfl

theorem handle_eq (awaits : session.totpVerified = false) (t : String) :
    (handleVerifyTOTP p cfg os (some session) (some t) db).2 =
      (verifyTOTPLogin p cfg os session (typed t) db).2 := by
  simp only [handleVerifyTOTP, awaits, Bool.false_eq_true, if_false]
  split <;> rfl

end Requests

section Rows

variable {db : DB}

/-- Marking an unused row changes the table. -/
theorem marked_ne {rc : RecoveryCode} (member : rc ∈ db.recoveryCodes) (unused : rc.used = false) :
    (db.markRecoveryCodeUsed rc.id).recoveryCodes ≠ db.recoveryCodes := by
  intro same
  have changed := List.map_inj_left.mp (same.trans (List.map_id db.recoveryCodes).symm) rc member
  rw [if_pos rfl] at changed
  have used := congrArg RecoveryCode.used changed
  rw [id_eq, unused] at used
  cases used

theorem marked_inj {rc rc' : RecoveryCode} (keys : (db.recoveryCodes.map (·.id)).Nodup)
    (member : rc ∈ db.recoveryCodes) (member' : rc' ∈ db.recoveryCodes) (unused : rc.used = false)
    (same : (db.markRecoveryCodeUsed rc.id).recoveryCodes =
      (db.markRecoveryCodeUsed rc'.id).recoveryCodes) : rc = rc' := by
  have here := List.map_inj_left.mp same rc member
  rw [if_pos rfl] at here
  by_cases equal : rc.id = rc'.id
  · exact List.inj_on_of_nodup_map keys member member' equal
  · rw [if_neg equal] at here
    have used := congrArg RecoveryCode.used here
    rw [unused] at used
    cases used

end Rows

section Result

theorem dropWhile_eq_self {l : List Char} {test : Char → Bool}
    (fails : ∀ c ∈ l, test c = false) : l.dropWhile test = l := by
  cases l with
  | nil => rfl
  | cons c l => rw [List.dropWhile_cons_of_neg (by simp [fails c List.mem_cons_self])]

/-- A text has no more characters than bytes. -/
theorem length_le_flatMap_utf8 (l : List Char) :
    l.length ≤ (l.flatMap String.utf8EncodeChar).length := by
  induction l with
  | nil => exact Nat.le_refl 0
  | cons c l ih =>
      have some := List.length_pos_iff.mpr (String.utf8EncodeChar_ne_nil (c := c))
      rw [List.flatMap_cons, List.length_append, List.length_cons]
      omega

variable {p : Primitives} {hashing : Hashing p} {cfg : Config} {os : Nat → Outside}
  {session : Session} {db : DB} {user : User} {rc : RecoveryCode} {b : Entropy}

/-- Only a text that is read as the code was hashed uses it up. -/
theorem typed_of_usesUp (enrolled : Enrolled hashing (generateRecoveryCode b) session db user rc)
    {t : String} (used : UsesUp hashing (generateRecoveryCode b) db user.id
      (handleVerifyTOTP p cfg os (some session) (some t) db).2) :
    typed t = hashed (generateRecoveryCode b) := by
  obtain ⟨secret, opened⟩ := Option.isSome_iff_exists.mp enrolled.secret
  obtain ⟨row, member, ⟨salt, own⟩, unused, after⟩ := used
  have there : row ∈ db.recoveryCodes := List.mem_of_mem_filter member
  rw [handle_eq enrolled.awaits] at after
  rcases @codes_after p cfg os session db user secret (typed t) enrolled.stored opened with
    same | ⟨row', member', verified, same⟩
  · exact absurd (after.symm.trans same) (marked_ne there unused)
  · have there' : row' ∈ db.recoveryCodes := List.mem_of_mem_filter member'
    obtain rfl := marked_inj enrolled.keys there there' unused (after.symm.trans same)
    rw [own] at verified
    exact (hashing.verifies salt _ _).mp verified

theorem accepted_of_typed
    (sixDigits : ∀ now secret code, p.validateTOTP now secret code = true →
      (utf8 (trimSpace code)).length = 6)
    (enrolled : Enrolled hashing (generateRecoveryCode b) session db user rc) {t : String}
    (same : typed t = hashed (generateRecoveryCode b)) :
    (handleVerifyTOTP p cfg os (some session) (some t) db).1 = .verified ∧
      (handleVerifyTOTP p cfg os (some session) (some t) db).2.sessions =
        (db.markTOTPVerified session.id).sessions ∧
      UsesUp hashing (generateRecoveryCode b) db user.id
        (handleVerifyTOTP p cfg os (some session) (some t) db).2 := by
  obtain ⟨secret, opened⟩ := Option.isSome_iff_exists.mp enrolled.secret
  have long : p.validateTOTP (os 0).now secret (typed t) = false := by
    by_contra valid
    have six := sixDigits _ _ _ (Bool.eq_true_of_not_eq_false valid)
    have solid : ∀ c ∈ letters b, isSpace c = false := fun c member =>
      (alphabet_plain c (letters_mem member)).2.2.2.1
    rw [same, hashed_generate, trimSpace, String.toList_ofList,
      dropWhile_eq_self solid, dropWhile_eq_self (by simpa using solid), List.reverse_reverse,
      utf8, String.toList_ofList] at six
    have bytes := length_le_flatMap_utf8 (letters b)
    rw [length_letters] at bytes
    omega
  obtain ⟨salt, own⟩ := enrolled.own
  have fits : p.verifyPassword (typed t) rc.codeHash = true := by
    rw [own]
    exact (hashing.verifies salt _ _).mpr same
  obtain ⟨row, found⟩ : ∃ row, firstMatch p db user.id (typed t) = some row := by
    apply Option.isSome_iff_exists.mp
    refine List.find?_isSome.mpr ⟨rc, enrolled.member, ?_⟩
    simp [enrolled.unused, fits]
  obtain ⟨member, unused, verified⟩ := mem_of_firstMatch found
  have login := @login_by_code p cfg os session db user secret (typed t) enrolled.stored opened
    long row found
  refine ⟨?_, ?_, row, member, ?_, unused, ?_⟩
  · simp [handleVerifyTOTP, enrolled.awaits, login]
  · rw [handle_eq enrolled.awaits, login, trustIPAfterVerification_sessions]
    rfl
  · obtain ⟨salt', plain, hash⟩ := enrolled.hashes row member
    rw [hash] at verified
    have plain_ := (hashing.verifies salt' _ _).mp verified
    exact ⟨salt', by rw [hash, ← plain_, same]⟩
  · rw [handle_eq enrolled.awaits, login, trustIPAfterVerification_recoveryCodes]
    rfl

/-- A generated code survives a way of typing it exactly if a respelling is in upper case. -/
theorem survives_iff
    (sixDigits : ∀ now secret code, p.validateTOTP now secret code = true →
      (utf8 (trimSpace code)).length = 6)
    (enrolled : Enrolled hashing (generateRecoveryCode b) session db user rc) (t : String) :
    Survives hashing (generateRecoveryCode b) session db t user.id
        (handleVerifyTOTP p cfg os (some session) (some t) db).1
        (handleVerifyTOTP p cfg os (some session) (some t) db).2 ↔
      (Respelling (generateRecoveryCode b) t → UpperCase t) := by
  constructor
  · intro survives respelled
    obtain ⟨-, -, used⟩ := survives.1 respelled
    exact (typed_eq_iff respelled).mp (typed_of_usesUp enrolled used)
  · intro upper
    constructor
    · intro respelled
      exact accepted_of_typed sixDigits enrolled ((typed_eq_iff respelled).mpr (upper respelled))
    · intro other used
      apply other
      rw [Respelling, typed_of_usesUp enrolled used, hashed_generate, typed_generate, equalFold]
      exact beq_self_eq_true _

/-- `marked`, with a second factor of six digits. -/
def sixDigit : Primitives :=
  { marked with
    validateTOTP := fun _ secret code => (utf8 (trimSpace code)).length == 6 && code == secret }

theorem sixDigit_valid (now : Int) (secret code : String)
    (valid : sixDigit.validateTOTP now secret code = true) :
    (utf8 (trimSpace code)).length = 6 := by
  simp only [sixDigit, Bool.and_eq_true, beq_iff_eq] at valid
  exact valid.1

def plainHash : Hashing sixDigit where
  hashPassword _ x := "hash of " ++ x
  verifies _ x y := by
    simp only [sixDigit, marked, beq_iff_eq, String.append_right_inj]
    exact eq_comm

def nineBytes : Entropy := ⟨[1, 2, 3, 4, 5, 6, 7, 8, 9], by decide⟩

/-- Of "AEBA-GBAF-AYDQ". -/
def spareRow : RecoveryCode :=
  { id := "r1", userID := "u1", codeHash := "hash of AEBAGBAFAYDQ", used := false }

def halfIn : Session :=
  { id := "s1", userID := "u1", tokenHash := "t1", csrfToken := "c1", totpVerified := false,
    ipAddress := "10.0.0.1", createdAt := 0, expiresAt := 100, lastSeenAt := 0 }

def ada : User :=
  { id := "u1", username := "ada", email := "", passwordHash := "", role := "user",
    totpEnabled := true, totpSecret := "123456", failedAttempts := 0, lockedUntil := none,
    lastLogin := none }

def adaOnly : DB :=
  { users := [ada], sessions := [halfIn], recoveryCodes := [spareRow], trustedIPs := [] }

theorem ada_enrolled : Enrolled plainHash (generateRecoveryCode nineBytes) halfIn adaOnly ada
    spareRow where
  awaits := by decide
  stored := by decide +kernel
  secret := by decide
  keys := by decide
  hashes := by
    intro row member
    obtain rfl := List.mem_singleton.mp (List.mem_of_mem_filter member)
    exact ⟨0, "AEBAGBAFAYDQ", by decide +kernel⟩
  member := by decide +kernel
  own := ⟨0, by decide +kernel⟩
  unused := by decide

theorem upper_case_survives :
    Survives plainHash (generateRecoveryCode nineBytes) halfIn adaOnly "AEBAGBAF AYDQ" "u1"
      (handleVerifyTOTP sixDigit defaultConfig (fun _ => quiet) (some halfIn)
        (some "AEBAGBAF AYDQ") adaOnly).1
      (handleVerifyTOTP sixDigit defaultConfig (fun _ => quiet) (some halfIn)
        (some "AEBAGBAF AYDQ") adaOnly).2 :=
  (survives_iff sixDigit_valid ada_enrolled "AEBAGBAF AYDQ").mpr fun _ => by decide +kernel

/-- The code, typed in lower case, is turned down. -/
theorem lower_case_refused :
    ¬Survives plainHash (generateRecoveryCode nineBytes) halfIn adaOnly "aeba-gbaf-aydq" "u1"
      (handleVerifyTOTP sixDigit defaultConfig (fun _ => quiet) (some halfIn)
        (some "aeba-gbaf-aydq") adaOnly).1
      (handleVerifyTOTP sixDigit defaultConfig (fun _ => quiet) (some halfIn)
        (some "aeba-gbaf-aydq") adaOnly).2 := by
  intro survives
  have accepted := (survives.1 (by decide +kernel)).1
  have refused : (handleVerifyTOTP sixDigit defaultConfig (fun _ => quiet) (some halfIn)
      (some "aeba-gbaf-aydq") adaOnly).1 = .invalidCode := by
    decide +kernel
  rw [refused] at accepted
  cases accepted

end Result

end RecoveryCodeSpelling
