import LeakcheckHub.Foundation.Aead
import LeakcheckHub.Crypto.AssociatedData

/-!
# Rotating the data key

`rotate` of `app/reencrypt.py` over the three encrypted stores, on rows as the
ORM loads them: a column that the mapping defers with `raiseload` is not
loaded by a select that does not undefer it, and reading it then raises.

§1 loading · §2 the rotation · §3 loops · §4 plaintexts · §5 when a valid
database rotates.
-/

namespace LeakcheckHub.Crypto

open Foundation

/-! ## §1  Loading -/

/-- How a mapped column is loaded by a select that names only its class. -/
inductive Loading where
  | eager
  | raiseload
deriving DecidableEq, Repr

/-- The mapping of the encrypted columns. -/
structure Mapping where
  passwordCiphertext : Loading
  passwordNonce : Loading
  totpSecretEnc : Loading

/-- `app/models.py`. -/
def Mapping.models : Mapping := ⟨.raiseload, .raiseload, .raiseload⟩

/-- What escapes `rotate`. -/
inductive RotateError where
  | unloadedAttribute
  | unknownSettingKey
deriving DecidableEq, Repr

/-- Reading a column of a loaded row. -/
def Loading.read {α : Type} : Loading → α → Except RotateError α
  | .eager, a => .ok a
  | .raiseload, _ => .error .unloadedAttribute

/-! ## §2  The rotation -/

structure Database where
  findings : List Finding
  settings : List PlatformSetting
  credentials : List AdminCredential

structure RotationReport where
  findings : ℕ
  settings : ℕ
  totpSecrets : ℕ
  failures : List PyStr
deriving DecidableEq, Repr

/-- What one iteration of a rotation loop does with its row. -/
inductive Outcome (Row : Type) where
  | skipped
  | rewritten (row : Row)
  | failed (label : PyStr)

/-- A row that the query does not select is not touched. -/
def visit {Row : Type} (selected : Row → Bool)
    (one : Row → Except RotateError (Outcome Row)) (row : Row) :
    Except RotateError (Outcome Row) :=
  if selected row then one row else .ok .skipped

/-- One of the three loops, with the number of rows it rewrote and the labels
of those it could not. -/
def rotateRows {Row : Type} (selected : Row → Bool)
    (one : Row → Except RotateError (Outcome Row)) :
    List Row → Except RotateError (List Row × ℕ × List PyStr)
  | [] => .ok ([], 0, [])
  | row :: rows => do
      let outcome ← visit selected one row
      let (rest, count, failures) ← rotateRows selected one rows
      match outcome with
      | .skipped => pure (row :: rest, count, failures)
      | .rewritten row' => pure (row' :: rest, count + 1, failures)
      | .failed label => pure (row :: rest, count, label :: failures)

section Rotate

variable (m : Mapping) (A : Aead.OverBytes) (old new : Bytes)

def rotateFinding (row : Finding) : Except RotateError (Outcome Finding) := do
  let ciphertext ← m.passwordCiphertext.read row.passwordCiphertext
  match ciphertext with
  | none => pure .skipped
  | some ciphertext =>
      let nonce ← m.passwordNonce.read row.passwordNonce
      match nonce with
      | none => pure .skipped
      | some nonce =>
          match A.recrypt old new nonce ciphertext (findingAad row.id) with
          | some c => pure (.rewritten { row with passwordCiphertext := some c })
          | none => pure (.failed (PyStr.lit "finding:" ++ row.id.str))

/-- The `onupdate` of `updated_at` fires when the ciphertext changes. -/
def rotateSetting (now : Timestamp) (row : PlatformSetting) :
    Except RotateError (Outcome PlatformSetting) :=
  match SettingKey.ofValue row.key with
  | none => .error .unknownSettingKey
  | some key =>
      match A.recrypt old new row.nonce row.ciphertext
        (settingAad key row.schemaVersion) with
      | some c =>
          .ok (.rewritten { row with
            ciphertext := c
            updatedAt := if c = row.ciphertext then row.updatedAt else now })
      | none => .ok (.failed (PyStr.lit "platform_setting:" ++ row.key))

def rotateCredential (row : AdminCredential) :
    Except RotateError (Outcome AdminCredential) := do
  let blob ← m.totpSecretEnc.read row.totpSecretEnc
  match blob with
  | none => pure .skipped
  | some blob =>
      if blob.length ≤ totpNonceBytes then pure .skipped
      else
        let nonce := blob.take totpNonceBytes
        match A.recrypt old new nonce (blob.drop totpNonceBytes)
          (totpAad row.userId) with
        | some c => pure (.rewritten { row with totpSecretEnc := some (nonce ++ c) })
        | none => pure (.failed (PyStr.lit "admin_credential:" ++ row.userId.str))

/-- `Finding.password_ciphertext.is_not(None)`. -/
def hasPassword (row : Finding) : Bool := row.passwordCiphertext.isSome

/-- `AdminCredential.totp_secret_enc.is_not(None)`. -/
def hasTotp (row : AdminCredential) : Bool := row.totpSecretEnc.isSome

/-- `rotate`: the session's rows afterwards and the report. -/
def rotate (now : Timestamp) (db : Database) :
    Except RotateError (Database × RotationReport) := do
  let (findings, nFindings, failures₁) ←
    rotateRows hasPassword (rotateFinding m A old new) db.findings
  let (settings, nSettings, failures₂) ←
    rotateRows (fun _ => true) (rotateSetting A old new now) db.settings
  let (credentials, nCredentials, failures₃) ←
    rotateRows hasTotp (rotateCredential m A old new) db.credentials
  pure (⟨findings, settings, credentials⟩,
    ⟨nFindings, nSettings, nCredentials, failures₁ ++ failures₂ ++ failures₃⟩)

end Rotate

/-! ## §3  Loops -/

section Loops

variable {Row : Type} {selected : Row → Bool}
  {one : Row → Except RotateError (Outcome Row)}

/-- A loop in which every selected row is rewritten has no failures. -/
theorem rotateRows_rewrites {R : Row → Row → Prop} :
    ∀ {rows : List Row},
      (∀ row ∈ rows, selected row = false → R row row) →
      (∀ row ∈ rows, selected row = true →
        ∃ row', one row = .ok (.rewritten row') ∧ R row row') →
      ∃ rows' n, rotateRows selected one rows = .ok (rows', n, []) ∧
        List.Forall₂ R rows rows'
  | [], _, _ => ⟨[], 0, rfl, .nil⟩
  | row :: rows, hskip, hrow => by
      obtain ⟨rows', n, hrun, hrel⟩ := rotateRows_rewrites
        (fun r hr => hskip r (List.mem_cons_of_mem _ hr))
        (fun r hr => hrow r (List.mem_cons_of_mem _ hr))
      cases hsel : selected row with
      | false =>
          refine ⟨row :: rows', n, ?_, .cons ?_ hrel⟩
          · rw [rotateRows, visit, hsel, hrun]
            rfl
          · exact hskip row List.mem_cons_self hsel
      | true =>
          obtain ⟨row', hone, hR⟩ := hrow row List.mem_cons_self hsel
          refine ⟨row' :: rows', n + 1, ?_, .cons hR hrel⟩
          rw [rotateRows, visit, hsel, if_pos rfl, hone, hrun]
          rfl

/-- A loop with a row that raises does not get through. -/
theorem rotateRows_raises {e : RotateError} {row : Row}
    (hsel : selected row = true) (hrow : one row = .error e) :
    ∀ {rows : List Row}, row ∈ rows →
      ∃ e', rotateRows selected one rows = .error e'
  | r :: rows, hmem => by
      rw [rotateRows]
      rcases List.mem_cons.mp hmem with rfl | hmem
      · rw [visit, hsel, if_pos rfl, hrow]
        exact ⟨e, rfl⟩
      · obtain ⟨e', he'⟩ := rotateRows_raises hsel hrow hmem
        cases hout : visit selected one r with
        | error e'' => exact ⟨e'', rfl⟩
        | ok outcome =>
            rw [he']
            exact ⟨e', rfl⟩

end Loops

/-! ## §4  Plaintexts -/

section Plaintexts

variable (A : Aead.OverBytes) (key : Bytes)

def passwordPlain (row : Finding) : Option Bytes := do
  let c ← row.passwordCiphertext
  let n ← row.passwordNonce
  A.decrypt key n c (findingAad row.id)

def settingPlain (row : PlatformSetting) : Option Bytes := do
  let k ← SettingKey.ofValue row.key
  A.decrypt key row.nonce row.ciphertext (settingAad k row.schemaVersion)

/-- The nonce is stored in front of the ciphertext. -/
def totpPlain (row : AdminCredential) : Option Bytes := do
  let blob ← row.totpSecretEnc
  A.decrypt key (blob.take totpNonceBytes) (blob.drop totpNonceBytes)
    (totpAad row.userId)

/-- Every stored ciphertext is valid under the key, with its own nonce and
associated data. -/
structure ValidUnder (db : Database) : Prop where
  findings : ∀ row ∈ db.findings, row.passwordCiphertext.isSome →
    (passwordPlain A key row).isSome
  settings : ∀ row ∈ db.settings, (settingPlain A key row).isSome
  credentials : ∀ row ∈ db.credentials, ∀ blob ∈ row.totpSecretEnc,
    totpNonceBytes < blob.length ∧ (totpPlain A key row).isSome

variable {A key} {m : Mapping} {old new : Bytes}

theorem rotateFinding_rewrites {row : Finding}
    (hc : m.passwordCiphertext = .eager) (hn : m.passwordNonce = .eager)
    (hvalid : (passwordPlain A old row).isSome) :
    ∃ row', rotateFinding m A old new row = .ok (.rewritten row') ∧
      row'.id = row.id ∧ passwordPlain A new row' = passwordPlain A old row := by
  obtain ⟨p, hp⟩ := Option.isSome_iff_exists.mp hvalid
  obtain ⟨c, hct, hp'⟩ := Option.bind_eq_some_iff.mp hp
  obtain ⟨n, hnonce, hdec⟩ := Option.bind_eq_some_iff.mp hp'
  refine ⟨{ row with
    passwordCiphertext := some (A.encrypt new n p (findingAad row.id)) },
    ?_, rfl, ?_⟩
  · simp only [rotateFinding, hc, hn, hct, hnonce, Loading.read]
    simp only [bind, Except.bind, Aead.recrypt_of_decrypt hdec]
    rfl
  · rw [hp]
    simp only [passwordPlain, hnonce, Option.bind_eq_bind, Option.bind_some]
    exact A.decrypt_encrypt new n p _

theorem rotateSetting_rewrites {row : PlatformSetting} {now : Timestamp}
    (hvalid : (settingPlain A old row).isSome) :
    ∃ row', rotateSetting A old new now row = .ok (.rewritten row') ∧
      row'.key = row.key ∧ settingPlain A new row' = settingPlain A old row := by
  obtain ⟨p, hp⟩ := Option.isSome_iff_exists.mp hvalid
  obtain ⟨k, hk, hdec⟩ := Option.bind_eq_some_iff.mp hp
  let c := A.encrypt new row.nonce p (settingAad k row.schemaVersion)
  refine ⟨{ row with
    ciphertext := c
    updatedAt := if c = row.ciphertext then row.updatedAt else now },
    ?_, rfl, ?_⟩
  · simp only [rotateSetting, hk, Aead.recrypt_of_decrypt hdec]
    rfl
  · rw [hp]
    simp only [settingPlain, hk, Option.bind_eq_bind, Option.bind_some]
    exact A.decrypt_encrypt new row.nonce p _

theorem rotateCredential_rewrites {row : AdminCredential} {blob : Bytes}
    (ht : m.totpSecretEnc = .eager) (hblob : row.totpSecretEnc = some blob)
    (hlong : totpNonceBytes < blob.length)
    (hvalid : (totpPlain A old row).isSome) :
    ∃ row', rotateCredential m A old new row = .ok (.rewritten row') ∧
      row'.userId = row.userId ∧
      totpPlain A new row' = totpPlain A old row := by
  obtain ⟨p, hp⟩ := Option.isSome_iff_exists.mp hvalid
  have hdec : A.decrypt old (blob.take totpNonceBytes)
      (blob.drop totpNonceBytes) (totpAad row.userId) = some p := by
    rw [totpPlain, hblob] at hp
    exact hp
  let nonce := blob.take totpNonceBytes
  let c := A.encrypt new nonce p (totpAad row.userId)
  have hnonce : nonce.length = totpNonceBytes :=
    List.length_take_of_le (Nat.le_of_lt hlong)
  refine ⟨{ row with totpSecretEnc := some (nonce ++ c) }, ?_, rfl, ?_⟩
  · simp only [rotateCredential, ht, hblob, Loading.read]
    simp only [bind, Except.bind, if_neg (Nat.not_le.mpr hlong),
      Aead.recrypt_of_decrypt hdec]
    rfl
  · rw [hp]
    simp only [totpPlain, Option.bind_eq_bind, Option.bind_some]
    rw [List.take_left' hnonce, List.drop_left' hnonce]
    exact A.decrypt_encrypt new nonce p _

/-! ## §5  When a valid database rotates -/

/-- The row after the rotation reads under the new key as the row before did
under the old one. -/
def SamePassword (A : Aead.OverBytes) (old new : Bytes) (row row' : Finding) :
    Prop :=
  row'.id = row.id ∧ passwordPlain A new row' = passwordPlain A old row

def SameSetting (A : Aead.OverBytes) (old new : Bytes)
    (row row' : PlatformSetting) : Prop :=
  row'.key = row.key ∧ settingPlain A new row' = settingPlain A old row

def SameTotp (A : Aead.OverBytes) (old new : Bytes)
    (row row' : AdminCredential) : Prop :=
  row'.userId = row.userId ∧ totpPlain A new row' = totpPlain A old row

/-- `rotate` returns without failures and leaves every plaintext readable
under the new key. -/
def RotatesAll (m : Mapping) (A : Aead.OverBytes) (old new : Bytes)
    (now : Timestamp) (db : Database) : Prop :=
  ∃ db' report, rotate m A old new now db = .ok (db', report) ∧
    report.failures = [] ∧
    List.Forall₂ (SamePassword A old new) db.findings db'.findings ∧
    List.Forall₂ (SameSetting A old new) db.settings db'.settings ∧
    List.Forall₂ (SameTotp A old new) db.credentials db'.credentials

variable {db : Database} {now : Timestamp}

theorem rotateRows_findings (hv : ValidUnder A old db)
    (hload : (m.passwordCiphertext = .eager ∧ m.passwordNonce = .eager) ∨
      ∀ row ∈ db.findings, row.passwordCiphertext = none) :
    ∃ rows n, rotateRows hasPassword (rotateFinding m A old new)
        db.findings = .ok (rows, n, []) ∧
      List.Forall₂ (SamePassword A old new) db.findings rows := by
  apply rotateRows_rewrites
  · intro row _ hsel
    have hnone := Option.isSome_eq_false_iff.mp hsel
    refine ⟨rfl, ?_⟩
    rw [passwordPlain, passwordPlain, Option.isNone_iff_eq_none.mp hnone]
    rfl
  · intro row hrow hsel
    rcases hload with ⟨hc, hn⟩ | hnone
    · obtain ⟨row', hrun, hid, hplain⟩ :=
        rotateFinding_rewrites hc hn (hv.findings row hrow hsel)
      exact ⟨row', hrun, hid, hplain⟩
    · rw [hasPassword, hnone row hrow] at hsel
      cases hsel

theorem rotateRows_settings (hv : ValidUnder A old db) :
    ∃ rows n, rotateRows (fun _ => true) (rotateSetting A old new now)
        db.settings = .ok (rows, n, []) ∧
      List.Forall₂ (SameSetting A old new) db.settings rows := by
  apply rotateRows_rewrites
  · intro row _ hsel
    cases hsel
  · intro row hrow _
    obtain ⟨row', hrun, hkey, hplain⟩ :=
      rotateSetting_rewrites (hv.settings row hrow)
    exact ⟨row', hrun, hkey, hplain⟩

theorem rotateRows_credentials (hv : ValidUnder A old db)
    (hload : m.totpSecretEnc = .eager ∨
      ∀ row ∈ db.credentials, row.totpSecretEnc = none) :
    ∃ rows n, rotateRows hasTotp (rotateCredential m A old new)
        db.credentials = .ok (rows, n, []) ∧
      List.Forall₂ (SameTotp A old new) db.credentials rows := by
  apply rotateRows_rewrites
  · intro row _ hsel
    have hnone := Option.isSome_eq_false_iff.mp hsel
    refine ⟨rfl, ?_⟩
    rw [totpPlain, totpPlain, Option.isNone_iff_eq_none.mp hnone]
    rfl
  · intro row hrow hsel
    obtain ⟨blob, hblob⟩ := Option.isSome_iff_exists.mp hsel
    rcases hload with ht | hnone
    · obtain ⟨hlong, hvalid⟩ := hv.credentials row hrow blob hblob
      obtain ⟨row', hrun, hid, hplain⟩ :=
        rotateCredential_rewrites ht hblob hlong hvalid
      exact ⟨row', hrun, hid, hplain⟩
    · rw [hasTotp, hnone row hrow] at hsel
      cases hsel

/-- Nothing but the loading of the encrypted columns stands in the way. -/
theorem rotatesAll_of_loaded (hv : ValidUnder A old db)
    (hf : (m.passwordCiphertext = .eager ∧ m.passwordNonce = .eager) ∨
      ∀ row ∈ db.findings, row.passwordCiphertext = none)
    (ht : m.totpSecretEnc = .eager ∨
      ∀ row ∈ db.credentials, row.totpSecretEnc = none) :
    RotatesAll m A old new now db := by
  obtain ⟨findings, n₁, hrun₁, hrel₁⟩ := rotateRows_findings hv hf
  obtain ⟨settings, n₂, hrun₂, hrel₂⟩ := rotateRows_settings hv
  obtain ⟨credentials, n₃, hrun₃, hrel₃⟩ := rotateRows_credentials hv ht
  refine ⟨⟨findings, settings, credentials⟩, ⟨n₁, n₂, n₃, []⟩, ?_, rfl,
    hrel₁, hrel₂, hrel₃⟩
  rw [rotate, hrun₁, hrun₂, hrun₃]
  rfl

/-- With the columns as `models.py` maps them, one finding with a password
stops the rotation. -/
theorem rotate_raises_of_finding {row : Finding} (hrow : row ∈ db.findings)
    (hc : hasPassword row = true) :
    ∃ e, rotate .models A old new now db = .error e := by
  have hloop : ∃ e, rotateRows hasPassword (rotateFinding .models A old new)
      db.findings = .error e := rotateRows_raises hc rfl hrow
  obtain ⟨e, he⟩ := hloop
  rw [rotate, he]
  exact ⟨e, rfl⟩

theorem rotate_raises_of_credential {row : AdminCredential}
    (hrow : row ∈ db.credentials) (hc : hasTotp row = true) :
    ∃ e, rotate .models A old new now db = .error e := by
  have hloop : ∃ e, rotateRows hasTotp (rotateCredential .models A old new)
      db.credentials = .error e := rotateRows_raises hc rfl hrow
  obtain ⟨e, he⟩ := hloop
  rw [rotate, he]
  cases rotateRows hasPassword (rotateFinding .models A old new)
      db.findings with
  | error e' => exact ⟨e', rfl⟩
  | ok findings =>
      cases rotateRows (fun _ => true) (rotateSetting A old new now)
          db.settings with
      | error e' => exact ⟨e', rfl⟩
      | ok settings => exact ⟨e, rfl⟩

/-- A valid database rotates exactly when only its platform settings are
encrypted. -/
theorem rotatesAll_iff_settings_only (hv : ValidUnder A old db) :
    RotatesAll .models A old new now db ↔
      (∀ row ∈ db.findings, row.passwordCiphertext = none) ∧
        ∀ row ∈ db.credentials, row.totpSecretEnc = none := by
  constructor
  · rintro ⟨db', report, hrun, -⟩
    constructor
    · intro row hrow
      cases hc : row.passwordCiphertext with
      | none => rfl
      | some c =>
          obtain ⟨e, he⟩ := rotate_raises_of_finding hrow
            (by rw [hasPassword, hc]; rfl)
          rw [he] at hrun
          cases hrun
    · intro row hrow
      cases hc : row.totpSecretEnc with
      | none => rfl
      | some c =>
          obtain ⟨e, he⟩ := rotate_raises_of_credential hrow
            (by rw [hasTotp, hc]; rfl)
          rw [he] at hrun
          cases hrun
  · rintro ⟨hf, ht⟩
    exact rotatesAll_of_loaded hv (.inr hf) (.inr ht)

end Plaintexts

/-! ### A database of each kind -/

def sampleOldKey : Bytes := (List.range 32).map UInt8.ofNat

def sampleNewKey : Bytes := (List.range 32).map fun i => UInt8.ofNat (32 + i)

def sampleNonce : Bytes := (List.range 12).map UInt8.ofNat

/-- AES-256-GCM on a setting under both keys, and on a finding's password. -/
def sampleVectors : List Aead.TestVector :=
  [⟨sampleOldKey, sampleNonce, PyStr.asciiLit "90",
      settingAad .retentionDays 1,
      [126, 50, 241, 156, 181, 179, 239, 175, 36, 41, 20, 184, 162, 19, 110,
        12, 172, 14]⟩,
    ⟨sampleNewKey, sampleNonce, PyStr.asciiLit "90",
      settingAad .retentionDays 1,
      [101, 98, 148, 105, 233, 14, 107, 189, 75, 13, 224, 63, 140, 73, 189,
        209, 154, 69]⟩,
    ⟨sampleOldKey, sampleNonce, PyStr.asciiLit "hunter2", findingAad 7,
      [47, 119, 184, 111, 160, 151, 240, 142, 111, 39, 146, 35, 103, 102, 76,
        201, 175, 231, 252, 129, 122, 205, 184]⟩]

def sampleAead : Aead.OverBytes :=
  Aead.ofVectors sampleVectors (by decide) (by decide)

/-- A deployment with one encrypted setting. -/
def sampleSettings : Database where
  findings := []
  settings := [⟨PyStr.lit "retention_days",
    [126, 50, 241, 156, 181, 179, 239, 175, 36, 41, 20, 184, 162, 19, 110,
      12, 172, 14], sampleNonce, 1, 0, 1⟩]
  credentials := []

theorem sampleSettings_rotates :
    RotatesAll .models sampleAead sampleOldKey sampleNewKey 5
      sampleSettings := by
  have hv : ValidUnder sampleAead sampleOldKey sampleSettings := by
    refine ⟨?_, ?_, ?_⟩
    · intro row hrow
      cases hrow
    · decide
    · intro row hrow
      cases hrow
  refine (rotatesAll_iff_settings_only hv).mpr ⟨?_, ?_⟩
  · intro row hrow
    cases hrow
  · intro row hrow
    cases hrow

/-- A finding with a password. -/
def sampleFinding : Finding :=
  { Finding.blank 7 1 2 0 with
    passwordCiphertext := some [47, 119, 184, 111, 160, 151, 240, 142, 111,
      39, 146, 35, 103, 102, 76, 201, 175, 231, 252, 129, 122, 205, 184]
    passwordNonce := some sampleNonce }

theorem rotation_stops_at_a_finding :
    ¬ ∀ db, ValidUnder sampleAead sampleOldKey db →
      RotatesAll .models sampleAead sampleOldKey sampleNewKey 5 db := by
  intro hall
  have hv : ValidUnder sampleAead sampleOldKey ⟨[sampleFinding], [], []⟩ := by
    refine ⟨?_, ?_, ?_⟩
    · intro row hrow _
      rw [List.mem_singleton.mp hrow]
      decide
    · intro row hrow
      cases hrow
    · intro row hrow
      cases hrow
  obtain ⟨db', report, hrun, -⟩ := hall _ hv
  cases hrun

end LeakcheckHub.Crypto
