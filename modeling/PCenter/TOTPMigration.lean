import PCenter.Accounts
import PCenter.Lib.BaseEncoding

/-!
# Encryption of the stored TOTP secrets

`internal/auth/crypto.go` and `MigrateTOTPSecrets` of `db.go`. AES-GCM under the key of the
configuration is taken as ideal: it opens what it has sealed and nothing else. The nonces are
drawn by the outside. A secret is taken for plaintext when it cannot be decrypted; the secrets
that are looked at are selected by the database, and only those of the users whose second
factor is enabled.
-/

namespace TOTPMigration

open Accounts BaseEncoding
open Form (Bytes utf8)

section Crypto

/-- `gcm.NonceSize()` -/
def nonceSize : Nat := 12

abbrev Nonce := { bs : Bytes // bs.length = nonceSize }

/-- Authenticated encryption under a key. -/
structure Cipher where
  sealWith : Bytes → Bytes → Bytes
  openWith : Bytes → Bytes → Option Bytes
  openWith_iff : ∀ nonce data plain, openWith nonce data = some plain ↔ data = sealWith nonce plain

/-- `Crypto`, which is nil when no key is configured. -/
abbrev Crypto := Option Cipher

def Cipher.encrypt (c : Cipher) (nonce : Nonce) (plaintext : String) : String :=
  std64.encode (nonce.val ++ c.sealWith nonce.val (utf8 plaintext))

def Cipher.decrypt (c : Cipher) (ciphertext : String) : Option Bytes :=
  match std64.decode ciphertext with
  | none => none
  | some data =>
      if data.length < nonceSize then none
      else c.openWith (data.take nonceSize) (data.drop nonceSize)

/-- `Encrypt`; it fails when no nonce can be drawn. -/
def encrypt (crypto : Crypto) (draw : Except String Nonce) (plaintext : String) :
    Except String String :=
  match crypto with
  | none => .ok plaintext
  | some c => draw.map fun nonce => c.encrypt nonce plaintext

/-- `Decrypt` -/
def decrypt (crypto : Crypto) (ciphertext : String) : Option Bytes :=
  match crypto with
  | none => some (utf8 ciphertext)
  | some c => c.decrypt ciphertext

variable (c : Cipher)

theorem decrypt_eq_some_iff {s : String} {plain : Bytes} :
    c.decrypt s = some plain ↔
      ∃ nonce : Nonce, std64.decode s = some (nonce.val ++ c.sealWith nonce.val plain) := by
  rw [Cipher.decrypt]
  cases decoded : std64.decode s with
  | none =>
      constructor
      · intro nothing
        cases nothing
      · rintro ⟨_, nothing⟩
        cases nothing
  | some data =>
      by_cases short : data.length < nonceSize
      · simp only [short, if_true]
        constructor
        · intro nothing
          cases nothing
        · rintro ⟨nonce, same⟩
          have length := congrArg List.length (Option.some.inj same)
          rw [List.length_append, nonce.property] at length
          omega
      · simp only [short, if_false, c.openWith_iff]
        constructor
        · intro sealed
          refine ⟨⟨data.take nonceSize, ?_⟩, ?_⟩
          · rw [List.length_take]
            omega
          · rw [← sealed, List.take_append_drop]
        · rintro ⟨nonce, same⟩
          obtain rfl := Option.some.inj same
          rw [List.take_left' nonce.property, List.drop_left' nonce.property]

theorem decrypt_encrypt (nonce : Nonce) (plaintext : String) :
    c.decrypt (c.encrypt nonce plaintext) = some (utf8 plaintext) :=
  (decrypt_eq_some_iff c).mpr ⟨nonce, std64.decode_encode _⟩

/-- A text that is no ciphertext under the key. -/
def Plaintext (s : String) : Prop :=
  ∀ (nonce : Nonce) (plain : Bytes), std64.decode s ≠ some (nonce.val ++ c.sealWith nonce.val plain)

theorem plaintext_iff {s : String} : Plaintext c s ↔ c.decrypt s = none := by
  constructor
  · intro plaintext
    by_contra opened
    obtain ⟨plain, found⟩ := Option.ne_none_iff_exists'.mp opened
    obtain ⟨nonce, same⟩ := (decrypt_eq_some_iff c).mp found
    exact plaintext nonce plain same
  · intro closed nonce plain same
    have opened := (decrypt_eq_some_iff c).mpr ⟨nonce, same⟩
    rw [closed] at opened
    cases opened

end Crypto

section Migration

/-- `WHERE totp_enabled = 1 AND totp_secret IS NOT NULL AND totp_secret != ''` -/
def selected (u : User) : Bool := u.totpEnabled && u.totpSecret ≠ ""

/-- `UPDATE users SET totp_secret = ? WHERE id = ?` -/
def setSecret (db : DB) (id secret : String) : DB :=
  db.setUser id fun row => { row with totpSecret := secret }

/-- The updates of the transaction; the draws are counted. -/
def updateAll (crypto : Crypto) (draw : Nat → Except String Nonce) :
    Nat → List User → DB → Except String DB
  | _, [], db => .ok db
  | i, u :: rest, db =>
      match encrypt crypto (draw i) u.totpSecret with
      | .error err => .error ("encrypt secret for user " ++ u.id ++ ": " ++ err)
      | .ok encrypted => updateAll crypto draw (i + 1) rest (setSecret db u.id encrypted)

/-- The rows whose secret is taken for plaintext. -/
def toMigrate (crypto : Crypto) (db : DB) : List User :=
  (db.users.filter selected).filter fun u => (decrypt crypto u.totpSecret).isNone

/-- How many secrets were encrypted, and the tables; a failed transaction is rolled back. -/
def migrateTOTPSecrets (crypto : Crypto) (draw : Nat → Except String Nonce) (db : DB) :
    Except String Nat × DB :=
  if crypto = none then (.ok 0, db)
  else if toMigrate crypto db = [] then (.ok 0, db)
  else
    match updateAll crypto draw 0 (toMigrate crypto db) db with
    | .error err => (.error err, db)
    | .ok migrated => (.ok (toMigrate crypto db).length, migrated)

/-- Every secret of the table is the user's own, as it is or encrypted under the key. -/
def Stored (c : Cipher) (original : String → String) (db : DB) : Prop :=
  ∀ u ∈ db.users, u.totpSecret ≠ "" →
    Plaintext c u.totpSecret ∧ u.totpSecret = original u.id ∨
      ∃ nonce, u.totpSecret = c.encrypt nonce (original u.id)

/-- What the migration is for. -/
structure Complete (c : Cipher) (original : String → String) (db migrated : DB) : Prop where
  decrypts : ∀ u ∈ migrated.users, u.totpSecret ≠ "" →
    c.decrypt u.totpSecret = some (utf8 (original u.id))
  columns : migrated.users.map (fun u => { u with totpSecret := "" }) =
    db.users.map fun u => { u with totpSecret := "" }
  tables : { migrated with users := [] } = { db with users := [] }
  settled : ∀ draw, migrateTOTPSecrets (some c) draw migrated = (.ok 0, migrated)

end Migration

section Rows

variable {c : Cipher} {draw : Nat → Except String Nonce} {db migrated : DB}

/-- What the updates for some rows make of a row. -/
structure Updated (c : Cipher) (l : List User) (row row' : User) : Prop where
  columns : row' = { row with totpSecret := row'.totpSecret }
  kept : row.id ∉ l.map (·.id) → row'.totpSecret = row.totpSecret
  encrypted : ∀ u ∈ l, u.id = row.id → ∃ nonce, row'.totpSecret = c.encrypt nonce u.totpSecret

theorem updated_updateAll {l : List User} (unique : (l.map (·.id)).Nodup) {i : Nat}
    (ran : updateAll (some c) draw i l db = .ok migrated) :
    List.Forall₂ (Updated c l) db.users migrated.users ∧
      { migrated with users := [] } = { db with users := [] } := by
  induction l generalizing i db with
  | nil =>
      obtain rfl := Except.ok.inj ran
      refine ⟨List.forall₂_same.mpr fun row _ => ⟨rfl, fun _ => rfl, ?_⟩, rfl⟩
      intro u member
      cases member
  | cons u rest ih =>
      rw [List.map_cons, List.nodup_cons] at unique
      rw [updateAll] at ran
      cases drawn : draw i with
      | error err =>
          rw [drawn] at ran
          cases ran
      | ok nonce =>
          rw [drawn] at ran
          obtain ⟨rows, tables⟩ := ih unique.2 ran
          refine ⟨(List.forall₂_map_left_iff.mp rows).imp fun row row' updated => ?_, tables⟩
          by_cases here : row.id = u.id
          · rw [if_pos here] at updated
            have written : row'.totpSecret = c.encrypt nonce u.totpSecret := by
              apply updated.kept
              rw [here]
              exact unique.1
            refine ⟨updated.columns, ?_, ?_⟩
            · intro outside
              rw [here] at outside
              exact absurd List.mem_cons_self outside
            · intro v member same
              rcases List.mem_cons.mp member with rfl | later
              · exact ⟨nonce, written⟩
              · have again : v.id ∈ rest.map (·.id) := List.mem_map_of_mem later
                rw [same, here] at again
                exact absurd again unique.1
          · rw [if_neg here] at updated
            refine ⟨updated.columns, ?_, ?_⟩
            · intro outside
              exact updated.kept fun later => outside (List.mem_cons_of_mem _ later)
            · intro v member same
              rcases List.mem_cons.mp member with rfl | later
              · exact absurd same.symm here
              · exact updated.encrypted v later same

/-- What the migration makes of a row. -/
structure Moved (c : Cipher) (row row' : User) : Prop where
  columns : row' = { row with totpSecret := row'.totpSecret }
  kept : ¬(selected row = true ∧ c.decrypt row.totpSecret = none) →
    row'.totpSecret = row.totpSecret
  encrypted : selected row = true → c.decrypt row.totpSecret = none →
    ∃ nonce, row'.totpSecret = c.encrypt nonce row.totpSecret

theorem mem_toMigrate {u : User} :
    u ∈ toMigrate (some c) db ↔
      u ∈ db.users ∧ selected u = true ∧ c.decrypt u.totpSecret = none := by
  rw [toMigrate, List.mem_filter, List.mem_filter, Option.isNone_iff_eq_none, and_assoc]
  rfl

theorem moved_migrate (unique : (db.users.map (·.id)).Nodup) {n : Nat}
    (ran : migrateTOTPSecrets (some c) draw db = (.ok n, migrated)) :
    List.Forall₂ (Moved c) db.users migrated.users ∧
      { migrated with users := [] } = { db with users := [] } := by
  unfold migrateTOTPSecrets at ran
  rw [if_neg (by simp)] at ran
  split_ifs at ran with none_
  · obtain ⟨-, rfl⟩ := Prod.mk.inj ran
    refine ⟨List.forall₂_same.mpr fun row member => ⟨rfl, fun _ => rfl, ?_⟩, rfl⟩
    intro picked closed
    have inside : row ∈ toMigrate (some c) db := mem_toMigrate.mpr ⟨member, picked, closed⟩
    rw [none_] at inside
    cases inside
  · cases updates : updateAll (some c) draw 0 (toMigrate (some c) db) db with
    | error err =>
        rw [updates] at ran
        cases (Prod.mk.inj ran).1
    | ok after =>
        rw [updates] at ran
        obtain ⟨-, rfl⟩ := Prod.mk.inj ran
        have chosen : (toMigrate (some c) db).Sublist db.users :=
          List.filter_sublist.trans List.filter_sublist
        obtain ⟨rows, tables⟩ := updated_updateAll (unique.sublist (chosen.map _)) updates
        refine ⟨?_, tables⟩
        have both := (List.forall₂_and_left (p := (· ∈ db.users)) _ _).mpr
          ⟨fun _ member => member, rows⟩
        refine both.imp fun row row' ⟨member, updated⟩ => ⟨updated.columns, ?_, ?_⟩
        · intro spared
          apply updated.kept
          intro listed
          obtain ⟨u, inside, same⟩ := List.mem_map.mp listed
          obtain ⟨there, picked⟩ := mem_toMigrate.mp inside
          obtain rfl := List.inj_on_of_nodup_map unique there member same
          exact spared picked
        · intro picked closed
          exact updated.encrypted row (mem_toMigrate.mpr ⟨member, picked, closed⟩) rfl

end Rows

section Completeness

variable {c : Cipher} {original : String → String} {draw : Nat → Except String Nonce}
  {db migrated : DB}

/-- A secret that was written by the migration or could be decrypted before is the user's. -/
theorem decrypts_of_moved (stored : Stored c original db) {row row' : User} (member : row ∈ db.users)
    (moved : Moved c row row') (filled : row'.totpSecret ≠ "")
    (readable : row.totpEnabled = false → c.decrypt row.totpSecret ≠ none) :
    c.decrypt row'.totpSecret = some (utf8 (original row'.id)) := by
  have same : row'.id = row.id := by rw [moved.columns]
  rw [same]
  by_cases taken : selected row = true ∧ c.decrypt row.totpSecret = none
  · obtain ⟨nonce, written⟩ := moved.encrypted taken.1 taken.2
    have nonempty : row.totpSecret ≠ "" := by simpa [selected] using (Bool.and_eq_true_iff.mp taken.1).2
    rw [written, decrypt_encrypt]
    rcases stored row member nonempty with ⟨-, plain⟩ | ⟨nonce', sealed⟩
    · rw [plain]
    · rw [sealed, decrypt_encrypt] at taken
      cases taken.2
  · have left := moved.kept taken
    rw [left] at filled ⊢
    rcases stored row member filled with ⟨plain, -⟩ | ⟨nonce, sealed⟩
    · have closed := (plaintext_iff c).mp plain
      cases enabled : row.totpEnabled with
      | false => exact absurd closed (readable enabled)
      | true => exact absurd ⟨by simp [selected, enabled, filled], closed⟩ taken
    · rw [sealed, decrypt_encrypt]

theorem toMigrate_of_moved (rows : List.Forall₂ (Moved c) db.users migrated.users) :
    toMigrate (some c) migrated = [] := by
  refine List.eq_nil_iff_forall_not_mem.mpr fun row' inside => ?_
  obtain ⟨member, picked, closed⟩ := mem_toMigrate.mp inside
  obtain ⟨row, there, moved⟩ := Traverse.source_of_mem rows row' member
  have enabled : row'.totpEnabled = row.totpEnabled := by rw [moved.columns]
  by_cases taken : selected row = true ∧ c.decrypt row.totpSecret = none
  · obtain ⟨nonce, written⟩ := moved.encrypted taken.1 taken.2
    rw [written, decrypt_encrypt] at closed
    cases closed
  · have left := moved.kept taken
    rw [left] at closed
    rw [selected, enabled, left] at picked
    exact taken ⟨picked, closed⟩

/-- The migration does what it is for exactly if no secret of an enrolment that is not confirmed
yet is plaintext. -/
theorem complete_iff (unique : (db.users.map (·.id)).Nodup) (stored : Stored c original db)
    {n : Nat} (ran : migrateTOTPSecrets (some c) draw db = (.ok n, migrated)) :
    Complete c original db migrated ↔
      ∀ u ∈ db.users, u.totpEnabled = false → u.totpSecret ≠ "" → ¬Plaintext c u.totpSecret := by
  obtain ⟨rows, tables⟩ := moved_migrate unique ran
  constructor
  · intro complete u member pending filled plain
    obtain ⟨row', there, moved⟩ := Traverse.partner_of_mem rows u member
    have left : row'.totpSecret = u.totpSecret := moved.kept fun taken => by
      simp [selected, pending] at taken
    have opened := complete.decrypts row' there (by rwa [left])
    rw [left, (plaintext_iff c).mp plain] at opened
    cases opened
  · intro sealed
    constructor
    · intro row' there filled
      obtain ⟨row, member, moved⟩ := Traverse.source_of_mem rows row' there
      refine decrypts_of_moved stored member moved filled fun pending closed => ?_
      have left : row'.totpSecret = row.totpSecret := moved.kept fun taken => by
        simp [selected, pending] at taken
      exact sealed row member pending (left ▸ filled) ((plaintext_iff c).mpr closed)
    · have columns : List.Forall₂ (fun row row' : User =>
          ({ row with totpSecret := "" } : User) = { row' with totpSecret := "" })
          db.users migrated.users := rows.imp fun row row' moved => by rw [moved.columns]
      rw [← List.forall₂_eq_eq_eq, List.forall₂_map_left_iff, List.forall₂_map_right_iff]
      exact columns.flip.imp fun _ _ same => same.symm
    · exact tables
    · intro draw'
      have settled := toMigrate_of_moved rows
      simp [migrateTOTPSecrets, settled]

/-- Authentication without secrecy: the nonce once more is the tag. -/
def labCipher : Cipher where
  sealWith nonce plain := plain ++ nonce
  openWith nonce data :=
    if nonce.isSuffixOf data then some (data.take (data.length - nonce.length)) else none
  openWith_iff nonce data plain := by
    split_ifs with tagged
    · obtain ⟨front, rfl⟩ := List.isSuffixOf_iff_suffix.mp tagged
      simp
    · constructor
      · intro nothing
        cases nothing
      · rintro rfl
        exact absurd (List.isSuffixOf_iff_suffix.mpr (List.suffix_append plain nonce)) tagged

def labNonce : Nonce := ⟨List.replicate 12 7, rfl⟩

def labUser (id : String) (enabled : Bool) (secret : String) : User :=
  { id := id, username := id, email := "", passwordHash := "", role := "user"
    totpEnabled := enabled, totpSecret := secret, failedAttempts := 0, lockedUntil := none
    lastLogin := none }

def labDB (users : List User) : DB :=
  { users := users, sessions := [], recoveryCodes := [], trustedIPs := [] }

/-- One secret is plaintext; an enrolment that is under way began with the key. -/
def mixed : DB :=
  labDB [labUser "u-1" true "JBSWY3DPEHPK3PXP",
    labUser "u-2" false (labCipher.encrypt labNonce "GEZDGNBVGY3TQOJQ")]

/-- An enrolment that began before there was a key. -/
def pending : DB := labDB [labUser "u-2" false "GEZDGNBVGY3TQOJQ"]

def labSecret (id : String) : String :=
  if id = "u-1" then "JBSWY3DPEHPK3PXP" else "GEZDGNBVGY3TQOJQ"

theorem labSecret_plaintext (id : String) : Plaintext labCipher (labSecret id) := by
  rw [plaintext_iff, labSecret]
  split_ifs
  · decide +kernel
  · decide +kernel

theorem mixed_complete :
    Complete labCipher labSecret mixed
      (migrateTOTPSecrets (some labCipher) (fun _ => .ok labNonce) mixed).2 := by
  have unique : (mixed.users.map (·.id)).Nodup := by decide +kernel
  have stored : Stored labCipher labSecret mixed := by
    intro u member _
    simp only [mixed, labDB, List.mem_cons, List.not_mem_nil, or_false] at member
    rcases member with rfl | rfl
    · exact .inl ⟨labSecret_plaintext "u-1", rfl⟩
    · exact .inr ⟨labNonce, rfl⟩
  have ran : migrateTOTPSecrets (some labCipher) (fun _ => .ok labNonce) mixed = (.ok 1,
      (migrateTOTPSecrets (some labCipher) (fun _ => .ok labNonce) mixed).2) := by
    apply Prod.ext
    · rfl
    · rfl
  refine (complete_iff unique stored ran).mpr ?_
  intro u member pending_ _
  simp only [mixed, labDB, List.mem_cons, List.not_mem_nil, or_false] at member
  rcases member with rfl | rfl
  · cases pending_
  · rw [plaintext_iff]
    change labCipher.decrypt (labCipher.encrypt labNonce "GEZDGNBVGY3TQOJQ") ≠ none
    rw [decrypt_encrypt]
    exact Option.some_ne_none _

/-- The secret of the enrolment stays as it was, and cannot be decrypted. -/
theorem pending_left_plain :
    (pending.users.map (·.id)).Nodup ∧ Stored labCipher labSecret pending ∧
      migrateTOTPSecrets (some labCipher) (fun _ => .ok labNonce) pending = (.ok 0, pending) ∧
      ¬Complete labCipher labSecret pending pending := by
  have plain := labSecret_plaintext "u-2"
  refine ⟨by decide +kernel, ?_, by rfl, ?_⟩
  · intro u member _
    obtain rfl := List.mem_singleton.mp member
    exact .inl ⟨plain, rfl⟩
  · intro complete
    have opened := complete.decrypts _ (List.mem_singleton.mpr rfl) (by decide +kernel)
    have closed : labCipher.decrypt "GEZDGNBVGY3TQOJQ" = none := (plaintext_iff labCipher).mp plain
    rw [labUser, closed] at opened
    cases opened

end Completeness

end TOTPMigration
