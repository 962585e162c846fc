import LeakcheckHub.Findings.Passwords
import LeakcheckHub.Foundation.Dates
import LeakcheckHub.Foundation.Outcome
import LeakcheckHub.Normalization

/-!
# Finding drafts

From a vendor record to the row `ingest_records` of `app/ingest.py` proposes:
the source identity, the identity key, the fingerprint, the raw object without
its passwords.
-/

namespace LeakcheckHub.Findings

open Foundation Crypto Normalization

/-! ## Records -/

/-- `BreachSource` of `app/leakcheck.py`. -/
structure VendorSource where
  name : Option PyStr
  breachDate : Option PyStr
  unverified : Option Bool
  passwordless : Option Bool
  compilation : Option Bool
deriving DecidableEq, Repr

structure LeakRecord where
  email : Option PyStr
  username : Option PyStr
  phone : Option PyStr
  origin : Option PyStr
  password : Option PyStr
  fields : List PyStr
  source : VendorSource
  raw : List (PyStr × Json)

structure Subject where
  id : Uuid
  kind : SubjectKind
  valueNorm : PyStr
deriving DecidableEq, Repr

structure SourceIdentity where
  name : PyStr
  nameNorm : PyStr
  breachDate : Option Date
  breachDateNorm : Date
  unverified : Option Bool
  passwordless : Option Bool
  compilation : Option Bool
  extra : Json

structure FindingDraft where
  id : Uuid
  subjectId : Uuid
  sourceId : Uuid
  email : Option PyStr
  username : Option PyStr
  phone : Option PyStr
  origin : Option PyStr
  identityKey : Option Bytes
  password : Option ProtectedPassword
  fields : Json
  raw : Json
  fingerprint : Bytes
  seenAt : Timestamp

/-- `UNKNOWN_DATE`. -/
def unknownDate : Date := ⟨1, 1, 1, by decide⟩

/-- `UNKNOWN_SOURCE`. -/
def unknownSource : PyStr := PyStr.lit "Unknown"

/-- `_ZERO_PASSWORD_HASH`. -/
def zeroPasswordHash : Bytes := List.replicate 32 0

def subjectKindValue : SubjectKind → String
  | .email => "email"
  | .domain => "domain"
  | .username => "username"
  | .phone => "phone"
  | .origin => "origin"
  | .password => "password"

/-! ## Sources -/

/-- `value or default` for a text that may be absent or empty. -/
def textOr (value : Option PyStr) (default : PyStr) : PyStr :=
  match value with
  | none => default
  | some s => if s.isEmpty then default else s

/-- `_parse_date`. -/
def parseDate (value : Option PyStr) : Option Date :=
  value.bind fun s => if s.isEmpty then none else Date.fromisoformat s

def optionalJson : Option PyStr → Json
  | none => .null
  | some s => .str s

def replacement : CodePoint := PyStr.ofChar '\uFFFD'

def normalizeSource (U : UnicodeData) (source : VendorSource) :
    SourceIdentity :=
  let stripped := (U.nfkc (textOr source.name unknownSource)).strip
  let name := textOr (some stripped) unknownSource
  let name := name.map fun c => if U.isPrintable c then c else replacement
  let name := name.take 1024
  let breachDate := parseDate source.breachDate
  { name := name
    nameNorm := U.casefold name
    breachDate := breachDate
    breachDateNorm := breachDate.getD unknownDate
    unverified := source.unverified
    passwordless := source.passwordless
    compilation := source.compilation
    extra := .obj
      [(PyStr.lit "vendor_name", optionalJson source.name),
        (PyStr.lit "vendor_breach_date", optionalJson source.breachDate)] }

/-! ## Digests -/

/-- `len(part).to_bytes(4, "big") + part`. -/
def framed (part : Bytes) : Except IngestError Bytes :=
  if part.length < 2 ^ 32 then
    .ok ([UInt8.ofNat (part.length / 2 ^ 24),
      UInt8.ofNat (part.length / 2 ^ 16), UInt8.ofNat (part.length / 2 ^ 8),
      UInt8.ofNat part.length] ++ part)
  else .error .overflow

/-- The hash of a sequence of framed parts. -/
def digest (env : Env) (parts : List Bytes) : Except IngestError Bytes := do
  let chunks ← parts.mapM framed
  .ok (env.sha256 chunks.flatten)

/-- `_identity_key`. -/
def identityKey (env : Env) (email username phone : PyStr) :
    Except IngestError (Option Bytes) :=
  if email.isEmpty && username.isEmpty && phone.isEmpty then .ok none
  else do
    let parts ← [email, username, phone].mapM encode
    let key ← digest env parts
    .ok (some key)

/-- `password_sha256 or _ZERO_PASSWORD_HASH`. -/
def hashOr (passwordSha256 : Option Bytes) : Bytes :=
  match passwordSha256 with
  | none => zeroPasswordHash
  | some b => if b.isEmpty then zeroPasswordHash else b

def findingFingerprint (env : Env) (subject : Subject)
    (source : SourceIdentity) (emailNorm usernameNorm phoneNorm : PyStr)
    (passwordSha256 : Option Bytes) : Except IngestError Bytes := do
  let parts ← [PyStr.lit (subjectKindValue subject.kind), subject.valueNorm,
    source.nameNorm, source.breachDateNorm.isoformat, emailNorm,
    usernameNorm, phoneNorm].mapM encode
  digest env (parts ++ [hashOr passwordSha256])

/-! ## The raw object -/

mutual

/-- `_sanitize_value`. -/
def sanitizeValue (U : UnicodeData) : Json → Json
  | .obj entries => .obj (sanitizedRaw U entries)
  | .arr items => .arr (sanitizeItems U items)
  | .null => .null
  | .bool b => .bool b
  | .int n => .int n
  | .float bits => .float bits
  | .str s => .str s

/-- `_sanitized_raw`. -/
def sanitizedRaw (U : UnicodeData) :
    List (PyStr × Json) → List (PyStr × Json)
  | [] => []
  | (key, item) :: rest =>
      if U.casefold key = PyStr.lit "password" then sanitizedRaw U rest
      else (key, sanitizeValue U item) :: sanitizedRaw U rest

def sanitizeItems (U : UnicodeData) : List Json → List Json
  | [] => []
  | item :: rest => sanitizeValue U item :: sanitizeItems U rest

end

/-! ## Drafts -/

/-- The random draws of one record, and which row the database returns among
equals. -/
structure RecordDraws where
  sourceId : Uuid
  findingId : Uuid
  nonce : PasswordNonce
  discoveredId : Uuid
  reLeakedId : Uuid
  tie : ℕ

def normalized {α : Type} : Except String α → Except IngestError α
  | .ok a => .ok a
  | .error message => .error (.normalization message)

def protectOptional (env : Env) (draws : RecordDraws) :
    Option PyStr → Except IngestError (Option ProtectedPassword)
  | none => .ok none
  | some password => do
      let protectedPassword ←
        protectPassword env draws.findingId draws.nonce password
      .ok (some protectedPassword)

def buildFindingDraft (env : Env) (subject : Subject) (sourceId : Uuid)
    (sourceIdentity : SourceIdentity) (record : LeakRecord)
    (draws : RecordDraws) (seenAt : Timestamp) :
    Except IngestError FindingDraft := do
  let password ← protectOptional env draws record.password
  let emailNorm ← normalized (normalizeOptionalEmail env.unicode record.email)
  let usernameNorm ←
    normalized (normalizeOptionalUsername env.unicode record.username)
  let phoneNorm ← normalized (normalizeOptionalPhone env.unicode record.phone)
  let key ← identityKey env emailNorm usernameNorm phoneNorm
  let fingerprint ← findingFingerprint env subject sourceIdentity emailNorm
    usernameNorm phoneNorm (password.map ProtectedPassword.sha256)
  .ok {
    id := draws.findingId
    subjectId := subject.id
    sourceId := sourceId
    email := record.email
    username := record.username
    phone := record.phone
    origin := record.origin
    identityKey := key
    password := password
    fields := .arr (record.fields.map .str)
    raw := .obj (sanitizedRaw env.unicode record.raw)
    fingerprint := fingerprint
    seenAt := seenAt }

theorem protectOptional_eq_ok {env : Env} {draws : RecordDraws}
    {password : Option PyStr} {p : Option ProtectedPassword} :
    protectOptional env draws password = .ok p ↔
      password = none ∧ p = none ∨ ∃ text q, password = some text ∧
        p = some q ∧ protectPassword env draws.findingId draws.nonce text =
          .ok q := by
  cases password with
  | none =>
      unfold protectOptional
      rw [Except.ok.injEq]
      constructor
      · rintro rfl
        exact .inl ⟨rfl, rfl⟩
      · rintro (⟨-, rfl⟩ | ⟨_, _, h, -⟩)
        · rfl
        · cases h
  | some text =>
      unfold protectOptional
      rw [bind_eq_ok]
      constructor
      · rintro ⟨q, hq, h⟩
        cases h
        exact .inr ⟨text, q, rfl, rfl, hq⟩
      · rintro (⟨h, -⟩ | ⟨_, q, h, rfl, hq⟩)
        · cases h
        · cases h
          exact ⟨q, hq, rfl⟩

/-- What a draft takes from its record. -/
structure Drafted (env : Env) (subject : Subject) (sourceId : Uuid)
    (record : LeakRecord) (draws : RecordDraws) (seenAt : Timestamp)
    (draft : FindingDraft) : Prop where
  id : draft.id = draws.findingId
  subjectId : draft.subjectId = subject.id
  sourceId : draft.sourceId = sourceId
  email : draft.email = record.email
  username : draft.username = record.username
  phone : draft.phone = record.phone
  origin : draft.origin = record.origin
  password : protectOptional env draws record.password = .ok draft.password
  seenAt : draft.seenAt = seenAt

theorem buildFindingDraft_spec {env : Env} {subject : Subject}
    {sourceId : Uuid} {source : SourceIdentity} {record : LeakRecord}
    {draws : RecordDraws} {seenAt : Timestamp} {draft : FindingDraft}
    (h : buildFindingDraft env subject sourceId source record draws seenAt =
      .ok draft) :
    Drafted env subject sourceId record draws seenAt draft := by
  obtain ⟨password, hpassword, h⟩ := bind_eq_ok.mp h
  obtain ⟨email, -, h⟩ := bind_eq_ok.mp h
  obtain ⟨username, -, h⟩ := bind_eq_ok.mp h
  obtain ⟨phone, -, h⟩ := bind_eq_ok.mp h
  obtain ⟨key, -, h⟩ := bind_eq_ok.mp h
  obtain ⟨fingerprint, -, h⟩ := bind_eq_ok.mp h
  cases h
  exact ⟨rfl, rfl, rfl, rfl, rfl, rfl, rfl, hpassword, rfl⟩

end LeakcheckHub.Findings
