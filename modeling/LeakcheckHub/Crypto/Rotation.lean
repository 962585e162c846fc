import LeakcheckHub.Foundation.Secrets
import LeakcheckHub.Crypto.Reencrypt

/-!
# A rotation is committed whole or not at all

`decode_key` and `_run` of `app/reencrypt.py`, with every column of the loaded
rows at hand. The checks on the nonce columns keep them at the twelve bytes
that AES-GCM accepts.

§1 `_run` · §2 one row · §3 loops · §4 the rotation · §5 what is committed.
-/

namespace LeakcheckHub.Crypto

open Foundation

/-! ## §1  `_run` -/

/-- `decode_key`; `none` is the `ValueError`. -/
def decodeKey (value : PyStr) : Option Bytes := do
  let padding := List.replicate ((4 - value.length % 4) % 4) (PyStr.ofChar '=')
  let raw ← urlsafeB64decode (value ++ padding)
  if raw.length ≠ 32 then none else pure raw

/-- How `_run` ends. -/
inductive RunEnd where
  | badKey
  | identicalKeys
  | raised (e : RotateError)
  | reported (report : RotationReport)
deriving DecidableEq, Repr

/-- Rows whose attributes are all loaded. -/
def Mapping.plain : Mapping := ⟨.eager, .eager, .eager⟩

/-- `_run`: the committed rows afterwards, and how it ended. -/
def run (A : Aead.OverBytes) (now : Timestamp) (dataKey newKeyValue : PyStr)
    (dryRun : Bool) (db : Database) : Database × RunEnd :=
  match decodeKey dataKey, decodeKey newKeyValue with
  | some oldKey, some newKey =>
      if oldKey = newKey then (db, .identicalKeys)
      else
        match rotate .plain A oldKey newKey now db with
        | .error e => (db, .raised e)
        | .ok (rotated, report) =>
            if report.failures ≠ [] then (db, .reported report)
            else if dryRun then (db, .reported report)
            else (rotated, .reported report)
  | _, _ => (db, .badKey)

/-! ## §2  Rows -/

section Rows

variable (A : Aead.OverBytes) (old new : Bytes)

/-- A password that has a nonce and does not decrypt. -/
def PasswordFails (row : Finding) : Prop :=
  row.passwordCiphertext.isSome ∧ row.passwordNonce.isSome ∧
    passwordPlain A old row = none

/-- A setting of a known key that does not decrypt. -/
def SettingFails (row : PlatformSetting) : Prop :=
  (SettingKey.ofValue row.key).isSome ∧ settingPlain A old row = none

/-- A blob longer than its nonce that does not decrypt. -/
def TotpFails (row : AdminCredential) : Prop :=
  (∃ blob, row.totpSecretEnc = some blob ∧ totpNonceBytes < blob.length) ∧
    totpPlain A old row = none

/-- A password that decrypted reads the same under the new key; any other row
is as it was. -/
structure PasswordRotated (row row' : Finding) : Prop where
  plain : ∀ p, passwordPlain A old row = some p →
    passwordPlain A new row' = some p
  others : row' = { row with passwordCiphertext := row'.passwordCiphertext }
  unread : passwordPlain A old row = none → row' = row

/-- As for a password, but `updated_at` is stamped when the ciphertext
changes. -/
structure SettingRotated (now : Timestamp) (row row' : PlatformSetting) :
    Prop where
  plain : ∀ p, settingPlain A old row = some p →
    settingPlain A new row' = some p
  others : row' = { row with
    ciphertext := row'.ciphertext
    updatedAt := if row'.ciphertext = row.ciphertext then row.updatedAt
      else now }
  unread : settingPlain A old row = none → row' = row

structure TotpRotated (row row' : AdminCredential) : Prop where
  plain : ∀ p, totpPlain A old row = some p → totpPlain A new row' = some p
  others : row' = { row with totpSecretEnc := row'.totpSecretEnc }
  unread : totpPlain A old row = none → row' = row

end Rows

/-! ## §3  Loops -/

section Loops

variable {Row : Type} (opens : Row → Bool) (Fails : Row → Prop)
  (R : Row → Row → Prop)

/-- What a loop may do with a row: leave one that does not open, rewrite one
that does, or report it. -/
inductive Visited (row : Row) : Outcome Row → Prop where
  | skipped : opens row = false → ¬ Fails row → R row row →
      Visited row .skipped
  | rewritten (row' : Row) : opens row = true → ¬ Fails row → R row row' →
      Visited row (.rewritten row')
  | failed (label : PyStr) : Fails row → Visited row (.failed label)

variable {opens Fails R} {selected : Row → Bool}
  {one : Row → Except RotateError (Outcome Row)}

/-- A loop reports a failure exactly when a row fails; one without failures
has rewritten each row that opens, and counted it. -/
theorem rotateRows_visited
    (hvisit : ∀ row outcome, visit selected one row = .ok outcome →
      Visited opens Fails R row outcome) :
    ∀ {rows rows' : List Row} {n : ℕ} {failures : List PyStr},
      rotateRows selected one rows = .ok (rows', n, failures) →
      (failures = [] ↔ ∀ row ∈ rows, ¬ Fails row) ∧
        (failures = [] → List.Forall₂ R rows rows' ∧ n = rows.countP opens) := by
  intro rows
  induction rows with
  | nil =>
      intro rows' n failures h
      cases h
      simp
  | cons row rows ih =>
      intro rows' n failures h
      rw [rotateRows] at h
      cases hrow : visit selected one row with
      | error e =>
          rw [hrow] at h
          cases h
      | ok outcome =>
          rw [hrow] at h
          cases hrest : rotateRows selected one rows with
          | error e =>
              rw [hrest] at h
              cases h
          | ok result =>
              obtain ⟨rest, count, failures'⟩ := result
              rw [hrest] at h
              obtain ⟨hnone, hall⟩ := ih hrest
              cases hvisit row outcome hrow with
              | skipped hopens hok hR =>
                  cases h
                  refine ⟨by simp [hnone, hok], fun hf => ?_⟩
                  obtain ⟨hrel, hcount⟩ := hall hf
                  exact ⟨.cons hR hrel, by simp [hopens, hcount]⟩
              | rewritten row' hopens hok hR =>
                  cases h
                  refine ⟨by simp [hnone, hok], fun hf => ?_⟩
                  obtain ⟨hrel, hcount⟩ := hall hf
                  exact ⟨.cons hR hrel, by simp [hopens, hcount]⟩
              | failed label hfails =>
                  cases h
                  refine ⟨?_, fun hf => absurd hf (List.cons_ne_nil _ _)⟩
                  simp [hfails]

/-- A loop raises only at a row that raises. -/
theorem exists_of_rotateRows_error {e : RotateError} :
    ∀ {rows : List Row}, rotateRows selected one rows = .error e →
      ∃ row ∈ rows, ∃ e', visit selected one row = .error e' := by
  intro rows
  induction rows with
  | nil =>
      intro h
      cases h
  | cons row rows ih =>
      intro h
      rw [rotateRows] at h
      cases hrow : visit selected one row with
      | error e' => exact ⟨row, List.mem_cons_self, e', hrow⟩
      | ok outcome =>
          rw [hrow] at h
          cases hrest : rotateRows selected one rows with
          | error e' =>
              obtain ⟨r, hr, he⟩ := ih (by rw [hrest] at h; cases h; exact hrest)
              exact ⟨r, List.mem_cons_of_mem _ hr, he⟩
          | ok result =>
              rw [hrest] at h
              cases outcome <;> cases h

end Loops

/-! ## §4  One row of each store -/

section Visits

variable {A : Aead.OverBytes} {old new : Bytes}

/-- How all three go on once they have a ciphertext: one that opens is written
back under the new key. -/
theorem visited_recrypt {Row : Type} {plain : Option Bytes} {opens : Row → Bool}
    {Fails : Row → Prop} {R : Row → Row → Prop} {row : Row}
    {outcome : Outcome Row} {n c a : Bytes} {write : Bytes → Row}
    {label : PyStr} (hplain : plain = A.decrypt old n c a)
    (hopens : opens row = plain.isSome) (hfails : Fails row ↔ plain = none)
    (hwrite : ∀ p c', plain = some p → A.decrypt new n c' a = some p →
      R row (write c'))
    (h : (match A.recrypt old new n c a with
      | some c' => .ok (.rewritten (write c'))
      | none => .ok (.failed label) : Except RotateError (Outcome Row)) =
        .ok outcome) :
    Visited opens Fails R row outcome := by
  cases hp : A.decrypt old n c a with
  | none =>
      simp only [Aead.recrypt, hp, Option.map_none] at h
      cases h
      exact .failed _ (hfails.mpr (hplain.trans hp))
  | some p =>
      simp only [Aead.recrypt, hp, Option.map_some] at h
      cases h
      have hopen : plain = some p := hplain.trans hp
      refine .rewritten _ ?_ ?_ (hwrite p _ hopen (A.decrypt_encrypt new n p a))
      · rw [hopens, hopen]
        rfl
      · rw [hfails, hopen]
        exact Option.some_ne_none p

theorem visit_finding {row : Finding} {outcome : Outcome Finding}
    (h : visit hasPassword (rotateFinding .plain A old new) row =
      .ok outcome) :
    Visited (fun row => (passwordPlain A old row).isSome) (PasswordFails A old)
      (PasswordRotated A old new) row outcome := by
  have hsame : passwordPlain A old row = none →
      PasswordRotated A old new row row := by
    intro hnone
    exact ⟨by simp [hnone], rfl, fun _ => rfl⟩
  cases hc : row.passwordCiphertext with
  | none =>
      have hnone : passwordPlain A old row = none := by simp [passwordPlain, hc]
      simp only [visit, hasPassword, hc] at h
      cases h
      exact .skipped (by simp [hnone]) (by simp [PasswordFails, hc])
        (hsame hnone)
  | some c =>
      simp only [visit, hasPassword, hc, rotateFinding, Mapping.plain,
        Loading.read, bind, Except.bind] at h
      cases hn : row.passwordNonce with
      | none =>
          have hnone : passwordPlain A old row = none := by
            simp [passwordPlain, hn]
          rw [hn] at h
          cases h
          exact .skipped (by simp [hnone]) (by simp [PasswordFails, hn])
            (hsame hnone)
      | some n =>
          have hplain : passwordPlain A old row =
              A.decrypt old n c (findingAad row.id) := by
            simp [passwordPlain, hc, hn]
          rw [hn] at h
          refine visited_recrypt hplain rfl (by simp [PasswordFails, hc, hn]) ?_ h
          intro p c' hopen hnew
          refine ⟨fun q hq => ?_, by simp only [hn], by simp [hopen]⟩
          rw [hopen] at hq
          cases hq
          simpa [passwordPlain] using hnew

theorem visit_setting {now : Timestamp} {row : PlatformSetting}
    {outcome : Outcome PlatformSetting}
    (h : visit (fun _ => true) (rotateSetting A old new now) row =
      .ok outcome) :
    Visited (fun row => (settingPlain A old row).isSome) (SettingFails A old)
      (SettingRotated A old new now) row outcome := by
  cases hk : SettingKey.ofValue row.key with
  | none =>
      simp only [visit, rotateSetting, hk] at h
      cases h
  | some key =>
      have hplain : settingPlain A old row = A.decrypt old row.nonce
          row.ciphertext (settingAad key row.schemaVersion) := by
        simp [settingPlain, hk]
      simp only [visit, rotateSetting, hk] at h
      refine visited_recrypt hplain rfl (by simp [SettingFails, hk]) ?_ h
      intro p c' hopen hnew
      refine ⟨fun q hq => ?_, rfl, by simp [hopen]⟩
      rw [hopen] at hq
      cases hq
      simpa [settingPlain, hk] using hnew

theorem visit_finding_ne_error (row : Finding) (e : RotateError) :
    visit hasPassword (rotateFinding .plain A old new) row ≠ .error e := by
  intro h
  simp only [visit, rotateFinding, Mapping.plain, Loading.read, bind,
    Except.bind] at h
  split at h
  · repeat' split at h
    all_goals cases h
  · cases h

theorem visit_credential_ne_error (row : AdminCredential) (e : RotateError) :
    visit hasTotp (rotateCredential .plain A old new) row ≠ .error e := by
  intro h
  simp only [visit, rotateCredential, Mapping.plain, Loading.read, bind,
    Except.bind] at h
  split at h
  · repeat' split at h
    all_goals cases h
  · cases h

/-- A blob that is no longer than its nonce holds no ciphertext. -/
theorem totpPlain_short (key : Bytes) (hA : A.Tagged) {row : AdminCredential}
    {blob : Bytes}
    (hblob : row.totpSecretEnc = some blob)
    (hshort : blob.length ≤ totpNonceBytes) : totpPlain A key row = none := by
  have hempty : blob.drop totpNonceBytes = [] :=
    List.drop_eq_nil_of_le hshort
  simp only [totpPlain, hblob, Option.bind_eq_bind, Option.bind_some, hempty]
  exact hA _ _ _

theorem visit_credential (hA : A.Tagged) {row : AdminCredential}
    {outcome : Outcome AdminCredential}
    (h : visit hasTotp (rotateCredential .plain A old new) row =
      .ok outcome) :
    Visited (fun row => (totpPlain A old row).isSome) (TotpFails A old)
      (TotpRotated A old new) row outcome := by
  have hsame : totpPlain A old row = none → TotpRotated A old new row row := by
    intro hnone
    exact ⟨by simp [hnone], rfl, fun _ => rfl⟩
  cases hb : row.totpSecretEnc with
  | none =>
      have hnone : totpPlain A old row = none := by simp [totpPlain, hb]
      simp only [visit, hasTotp, hb] at h
      cases h
      exact .skipped (by simp [hnone]) (by simp [TotpFails, hb]) (hsame hnone)
  | some blob =>
      simp only [visit, hasTotp, hb, rotateCredential, Mapping.plain,
        Loading.read, bind, Except.bind] at h
      by_cases hshort : blob.length ≤ totpNonceBytes
      · have hnone := totpPlain_short old hA hb hshort
        simp only [hshort] at h
        cases h
        refine .skipped (by simp [hnone]) ?_ (hsame hnone)
        rintro ⟨⟨blob', hb', hlong⟩, -⟩
        rw [hb] at hb'
        cases hb'
        exact absurd hlong (Nat.not_lt.mpr hshort)
      · let nonce := blob.take totpNonceBytes
        have hplain : totpPlain A old row = A.decrypt old nonce
            (blob.drop totpNonceBytes) (totpAad row.userId) := by
          simp [totpPlain, hb, nonce]
        have hlong : totpNonceBytes < blob.length := Nat.not_le.mp hshort
        have hnonce : nonce.length = totpNonceBytes :=
          List.length_take_of_le (Nat.le_of_lt hlong)
        simp only [hshort] at h
        refine visited_recrypt hplain rfl (by simp [TotpFails, hb, hlong]) ?_ h
        intro p c' hopen hnew
        refine ⟨fun q hq => ?_, rfl, by simp [hopen]⟩
        rw [hopen] at hq
        cases hq
        simp only [totpPlain, Option.bind_eq_bind, Option.bind_some]
        rw [List.take_left' hnonce, List.drop_left' hnonce]
        exact hnew

end Visits

/-! ## §5  The rotation -/

section Rotation

variable (A : Aead.OverBytes) (old new : Bytes) (now : Timestamp)

/-- Some row fails to decrypt. -/
def RowFails (db : Database) : Prop :=
  (∃ row ∈ db.findings, PasswordFails A old row) ∨
    (∃ row ∈ db.settings, SettingFails A old row) ∨
    ∃ row ∈ db.credentials, TotpFails A old row

/-- Every ciphertext that decrypted under the old key is rewritten under the
new one, the report counts them, and nothing else changes. -/
structure Rotated (db db' : Database) (report : RotationReport) : Prop where
  findings : List.Forall₂ (PasswordRotated A old new) db.findings db'.findings
  settings : List.Forall₂ (SettingRotated A old new now) db.settings db'.settings
  credentials : List.Forall₂ (TotpRotated A old new) db.credentials
    db'.credentials
  nFindings : report.findings =
    db.findings.countP fun row => (passwordPlain A old row).isSome
  nSettings : report.settings =
    db.settings.countP fun row => (settingPlain A old row).isSome
  nTotpSecrets : report.totpSecrets =
    db.credentials.countP fun row => (totpPlain A old row).isSome

variable {A old new now} {db db' : Database} {report : RotationReport}

theorem rotate_plain (hA : A.Tagged)
    (h : rotate .plain A old new now db = .ok (db', report)) :
    (report.failures = [] ↔ ¬ RowFails A old db) ∧
      (report.failures = [] → Rotated A old new now db db' report) := by
  rw [rotate] at h
  cases h₁ : rotateRows hasPassword (rotateFinding .plain A old new)
      db.findings with
  | error e =>
      rw [h₁] at h
      cases h
  | ok r₁ =>
      cases h₂ : rotateRows (fun _ => true) (rotateSetting A old new now)
          db.settings with
      | error e =>
          rw [h₁, h₂] at h
          cases h
      | ok r₂ =>
          cases h₃ : rotateRows hasTotp (rotateCredential .plain A old new)
              db.credentials with
          | error e =>
              rw [h₁, h₂, h₃] at h
              cases h
          | ok r₃ =>
              rw [h₁, h₂, h₃] at h
              cases h
              obtain ⟨hf₁, hr₁⟩ := rotateRows_visited
                (fun row outcome => visit_finding) h₁
              obtain ⟨hf₂, hr₂⟩ := rotateRows_visited
                (fun row outcome => visit_setting) h₂
              obtain ⟨hf₃, hr₃⟩ := rotateRows_visited
                (fun row outcome => visit_credential hA) h₃
              constructor
              · simp only [List.append_eq_nil_iff, hf₁, hf₂, hf₃, RowFails,
                  not_or, not_exists, not_and, and_assoc]
              · intro hnone
                simp only [List.append_eq_nil_iff] at hnone
                obtain ⟨⟨hn₁, hn₂⟩, hn₃⟩ := hnone
                exact ⟨(hr₁ hn₁).1, (hr₂ hn₂).1, (hr₃ hn₃).1, (hr₁ hn₁).2,
                  (hr₂ hn₂).2, (hr₃ hn₃).2⟩

/-- A rotation raises exactly when the settings hold an unknown key. -/
theorem rotate_plain_raises_iff :
    (∃ e, rotate .plain A old new now db = .error e) ↔
      ∃ row ∈ db.settings, SettingKey.ofValue row.key = none := by
  constructor
  · rintro ⟨e, he⟩
    rw [rotate] at he
    cases h₁ : rotateRows hasPassword (rotateFinding .plain A old new)
        db.findings with
    | error e₁ =>
        obtain ⟨row, -, e', hrow⟩ := exists_of_rotateRows_error h₁
        exact absurd hrow (visit_finding_ne_error row e')
    | ok r₁ =>
        cases h₂ : rotateRows (fun _ => true) (rotateSetting A old new now)
            db.settings with
        | error e₂ =>
            obtain ⟨row, hmem, e', hrow⟩ := exists_of_rotateRows_error h₂
            refine ⟨row, hmem, ?_⟩
            cases hk : SettingKey.ofValue row.key with
            | none => rfl
            | some key =>
                simp only [visit, rotateSetting, hk, if_true] at hrow
                split at hrow <;> cases hrow
        | ok r₂ =>
            cases h₃ : rotateRows hasTotp (rotateCredential .plain A old new)
                db.credentials with
            | error e₃ =>
                obtain ⟨row, -, e', hrow⟩ := exists_of_rotateRows_error h₃
                exact absurd hrow (visit_credential_ne_error row e')
            | ok r₃ =>
                rw [h₁, h₂, h₃] at he
                cases he
  · rintro ⟨row, hmem, hk⟩
    have hrow : rotateSetting A old new now row = .error .unknownSettingKey := by
      simp only [rotateSetting, hk]
    have hloop : ∃ e, rotateRows (fun _ => true) (rotateSetting A old new now)
        db.settings = .error e := rotateRows_raises rfl hrow hmem
    obtain ⟨e₂, h₂⟩ := hloop
    rw [rotate]
    cases rotateRows hasPassword (rotateFinding .plain A old new)
        db.findings with
    | error e₁ => exact ⟨e₁, rfl⟩
    | ok r₁ =>
        rw [h₂]
        exact ⟨e₂, rfl⟩

end Rotation

/-! ## §6  What is committed -/

section Committed

variable {A : Aead.OverBytes} {now : Timestamp} {dataKey newKeyValue : PyStr}
  {old new : Bytes} {db : Database}

theorem run_of_rotate (hold : decodeKey dataKey = some old)
    (hnew : decodeKey newKeyValue = some new) (hne : old ≠ new)
    {rotated : Database} {report : RotationReport}
    (h : rotate .plain A old new now db = .ok (rotated, report))
    (dryRun : Bool) :
    run A now dataKey newKeyValue dryRun db =
      (if report.failures = [] ∧ dryRun = false then rotated else db,
        .reported report) := by
  simp only [run, hold, hnew, if_neg hne, h]
  by_cases hf : report.failures = [] <;> cases dryRun <;> simp [hf]

theorem run_of_raise (hold : decodeKey dataKey = some old)
    (hnew : decodeKey newKeyValue = some new) (hne : old ≠ new)
    {e : RotateError} (h : rotate .plain A old new now db = .error e)
    (dryRun : Bool) :
    run A now dataKey newKeyValue dryRun db = (db, .raised e) := by
  simp only [run, hold, hnew, if_neg hne, h]

/-- `_run` commits a whole rotation, and only when every row decrypts, nothing
raises and the run is not a dry one. -/
theorem run_whole_or_not_at_all (hA : A.Tagged)
    (hold : decodeKey dataKey = some old)
    (hnew : decodeKey newKeyValue = some new) (hne : old ≠ new)
    (dryRun : Bool) (db : Database) :
    ((RowFails A old db ∨ (∃ e, rotate .plain A old new now db = .error e) ∨
        dryRun = true) →
      (run A now dataKey newKeyValue dryRun db).1 = db) ∧
    (¬ RowFails A old db → (¬ ∃ e, rotate .plain A old new now db = .error e) →
      dryRun = false →
      ∃ report, (run A now dataKey newKeyValue dryRun db).2 =
          .reported report ∧
        Rotated A old new now db (run A now dataKey newKeyValue dryRun db).1
          report) := by
  cases h : rotate .plain A old new now db with
  | error e =>
      rw [run_of_raise hold hnew hne h]
      exact ⟨fun _ => rfl, fun _ hno => absurd ⟨e, rfl⟩ hno⟩
  | ok result =>
      obtain ⟨rotated, report⟩ := result
      obtain ⟨hfails, hrotated⟩ := rotate_plain hA h
      rw [run_of_rotate hold hnew hne h]
      constructor
      · intro hkept
        apply if_neg
        rintro ⟨hnil, hdry⟩
        rcases hkept with hrow | ⟨e, he⟩ | hdry'
        · exact hfails.mp hnil hrow
        · cases he
        · rw [hdry] at hdry'
          cases hdry'
      · intro hrow _ hdry
        have hnil := hfails.mpr hrow
        refine ⟨report, rfl, ?_⟩
        rw [if_pos ⟨hnil, hdry⟩]
        exact hrotated hnil

end Committed

/-! ### A rotation of one setting -/

/-- The two sample keys, as an operator types them. -/
def sampleDataKey : PyStr :=
  PyStr.lit "AAECAwQFBgcICQoLDA0ODxAREhMUFRYXGBkaGxwdHh8"

def sampleNewKeyValue : PyStr :=
  PyStr.lit "ICEiIyQlJicoKSorLC0uLzAxMjM0NTY3ODk6Ozw9Pj8"

theorem decode_sampleDataKey : decodeKey sampleDataKey = some sampleOldKey := by
  decide

theorem decode_sampleNewKeyValue :
    decodeKey sampleNewKeyValue = some sampleNewKey := by
  decide

theorem sampleAead_tagged : sampleAead.Tagged :=
  Aead.ofVectors_tagged _ _ (by decide)

/-- Next to the setting, a password that has lost its nonce and a blob that is
no longer than one. -/
def sampleStores : Database :=
  { sampleSettings with
    findings := [{ sampleFinding with passwordNonce := none }]
    credentials := [⟨3, PyStr.lit "", some sampleNonce, none, 0, none⟩] }

theorem sampleStores_rotated :
    ∃ report, (run sampleAead 5 sampleDataKey sampleNewKeyValue false
        sampleStores).2 = .reported report ∧
      Rotated sampleAead sampleOldKey sampleNewKey 5 sampleStores
        (run sampleAead 5 sampleDataKey sampleNewKeyValue false
          sampleStores).1 report := by
  apply (run_whole_or_not_at_all sampleAead_tagged decode_sampleDataKey
    decode_sampleNewKeyValue (by decide) false sampleStores).2
  · rintro (⟨row, hrow, -, hnonce, -⟩ | ⟨row, hrow, -, hplain⟩ |
      ⟨row, hrow, ⟨blob, hblob, hlong⟩, -⟩)
    · rw [List.mem_singleton.mp hrow] at hnonce
      cases hnonce
    · rw [List.mem_singleton.mp hrow] at hplain
      exact absurd hplain (by decide)
    · rw [List.mem_singleton.mp hrow] at hblob
      cases hblob
      exact absurd hlong (by decide)
  · rw [rotate_plain_raises_iff]
    decide
  · rfl

/-- The rewritten setting carries the time of the rotation. -/
theorem rotation_stamps_a_setting :
    ¬ ∀ now db report,
      (run sampleAead now sampleDataKey sampleNewKeyValue false db).2 =
          .reported report →
      report.failures = [] →
      ∀ row' ∈ (run sampleAead now sampleDataKey sampleNewKeyValue false
        db).1.settings,
        ∃ row ∈ db.settings, row' = { row with ciphertext := row'.ciphertext } := by
  intro hall
  obtain ⟨rotated, hrotate, hstamped⟩ : ∃ rotated,
      rotate .plain sampleAead sampleOldKey sampleNewKey 5 sampleSettings =
        .ok (rotated, ⟨0, 1, 0, []⟩) ∧
      ¬ ∀ row' ∈ rotated.settings, ∃ row ∈ sampleSettings.settings,
        row' = { row with ciphertext := row'.ciphertext } :=
    ⟨_, rfl, by decide +kernel⟩
  have hrun := run_of_rotate decode_sampleDataKey decode_sampleNewKeyValue
    (by decide) hrotate false
  have hkept := hall 5 sampleSettings ⟨0, 1, 0, []⟩ (congrArg Prod.snd hrun) rfl
  rw [hrun] at hkept
  exact hstamped hkept

end LeakcheckHub.Crypto
