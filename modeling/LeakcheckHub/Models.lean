import LeakcheckHub.Foundation.PyText
import LeakcheckHub.Foundation.Json
import Mathlib.Data.Int.Notation

/-!
# Persisted rows

The columns of `app/models.py` that the modelled functions read or write. The
rows of the batch queue do not repeat the primary key their tables are keyed
by.
-/

namespace LeakcheckHub

open Foundation

abbrev Uuid : Type := BitVec 128

instance : LawfulBEq Uuid := inferInstance

/-- `UUID.bytes`, big-endian. -/
def Uuid.bytes (u : Uuid) : Bytes :=
  (List.range 16).map fun i => UInt8.ofNat (u.toNat / 256 ^ (15 - i) % 256)

/-- `str(uuid)`: lower-case hexadecimal in groups of 8, 4, 4, 4 and 12. -/
def Uuid.str (u : Uuid) : PyStr :=
  (List.range 32).flatMap fun i =>
    let digit := hexDigit (u.toNat / 16 ^ (31 - i) % 16)
    if i = 8 ∨ i = 12 ∨ i = 16 ∨ i = 20 then [Fin.ofNat _ 45, digit]
    else [digit]

/-- An aware `datetime`, in microseconds since the epoch: the resolution of
both Python's `datetime` and PostgreSQL's `timestamptz`. -/
abbrev Timestamp : Type := ℤ

/-- `timedelta(seconds=…)`. -/
def seconds (n : ℤ) : ℤ := n * 1000000

/-! ## Users -/

inductive UserRole where
  | user
  | analyst
  | superAdmin
deriving DecidableEq, Repr

inductive UserSource where
  | google
  | workspaceSync
  | manual
deriving DecidableEq, Repr

structure User where
  id : Uuid
  email : PyStr
  googleSub : Option PyStr
  displayName : PyStr
  ouPath : Option PyStr
  role : UserRole
  isActive : Bool
  source : UserSource
  createdAt : Timestamp
  lastLoginAt : Option Timestamp
deriving DecidableEq, Repr

structure AdminCredential where
  userId : Uuid
  passwordHash : PyStr
  totpSecretEnc : Option Bytes
  totpEnabledAt : Option Timestamp
  failedAttempts : ℕ
  lockedUntil : Option Timestamp
deriving DecidableEq, Repr

/-- A row of the table keyed by `ip_hash`. -/
structure AdminLoginRateLimit where
  windowStartedAt : Timestamp
  attempts : ℕ
  blockedUntil : Option Timestamp
deriving DecidableEq, Repr

structure PlatformSetting where
  key : PyStr
  ciphertext : Bytes
  nonce : Bytes
  schemaVersion : ℕ
  updatedAt : Timestamp
  updatedBy : Uuid
deriving DecidableEq, Repr

/-! ## Findings -/

inductive SubjectKind where
  | email
  | domain
  | username
  | phone
  | origin
  | password
deriving DecidableEq, Repr

inductive FindingSeverity where
  | low
  | medium
  | high
deriving DecidableEq, Repr

inductive FindingEventType where
  | discovered
  | remediated
  | unremediated
  | reLeaked
  | passwordViewed
  | notified
  | alerted
deriving DecidableEq, Repr

structure Finding where
  id : Uuid
  subjectId : Uuid
  sourceId : Uuid
  email : Option PyStr
  username : Option PyStr
  phone : Option PyStr
  origin : Option PyStr
  identityKey : Option Bytes
  passwordCiphertext : Option Bytes
  passwordNonce : Option Bytes
  passwordSha256 : Option Bytes
  passwordMask : Option PyStr
  passwordLen : Option ℕ
  passwordCharset : Option PyStr
  fields : Json
  raw : Json
  fingerprint : Bytes
  severity : FindingSeverity
  firstSeenAt : Timestamp
  lastSeenAt : Timestamp
  remediatedAt : Option Timestamp
  remediatedBy : Option Uuid
  remediationNote : Option PyStr
  supersededById : Option Uuid

/-- An open finding with no optional column set. -/
def Finding.blank (id subjectId sourceId : Uuid) (seenAt : Timestamp) :
    Finding where
  id := id
  subjectId := subjectId
  sourceId := sourceId
  email := none
  username := none
  phone := none
  origin := none
  identityKey := none
  passwordCiphertext := none
  passwordNonce := none
  passwordSha256 := none
  passwordMask := none
  passwordLen := none
  passwordCharset := none
  fields := .arr []
  raw := .obj []
  fingerprint := List.replicate 32 0
  severity := .medium
  firstSeenAt := seenAt
  lastSeenAt := seenAt
  remediatedAt := none
  remediatedBy := none
  remediationNote := none
  supersededById := none

structure FindingEvent where
  id : Uuid
  findingId : Uuid
  event : FindingEventType
  actorId : Option Uuid
  at_ : Timestamp
  meta_ : List (PyStr × Json)

/-! ## Scans -/

inductive ScanTrigger where
  | manual
  | self
  | batch
  | scheduled
deriving DecidableEq, Repr

inductive ScanStatus where
  | pending
  | running
  | succeeded
  | failed
deriving DecidableEq, Repr

/-- The statuses an admission query looks for. -/
def ScanStatus.active : ScanStatus → Bool
  | .pending | .running => true
  | .succeeded | .failed => false

structure Scan where
  id : Uuid
  subjectId : Uuid
  requestedBy : Option Uuid
  trigger : ScanTrigger
  status : ScanStatus
  startedAt : Option Timestamp
  finishedAt : Option Timestamp
  resultCount : ℕ
  newCount : ℕ
  quota : Option ℕ
  truncated : Bool
  error : Option PyStr
deriving DecidableEq, Repr

/-- What the routes and the worker insert. -/
def Scan.requested (id subjectId : Uuid) (requestedBy : Option Uuid)
    (trigger : ScanTrigger) : Scan where
  id := id
  subjectId := subjectId
  requestedBy := requestedBy
  trigger := trigger
  status := .pending
  startedAt := none
  finishedAt := none
  resultCount := 0
  newCount := 0
  quota := none
  truncated := false
  error := none

/-! ## Outboxes -/

inductive NotificationStatus where
  | pending
  | dryRun
  | sent
  | suppressed
  | failed
deriving DecidableEq, Repr

structure Notification where
  id : Uuid
  userId : Uuid
  template : PyStr
  findingIds : List PyStr
  status : NotificationStatus
  dedupeKey : Bytes
  attempts : ℕ
  error : Option PyStr
  createdAt : Timestamp
  sentAt : Option Timestamp
deriving DecidableEq, Repr

inductive AlertSinkName where
  | wazuh
  | dfirIris
deriving DecidableEq, Repr

inductive AlertOutboxStatus where
  | pending
  | delivered
  | deadLetter
deriving DecidableEq, Repr

inductive AlertEvent where
  | newFinding
  | reLeaked
deriving DecidableEq, Repr

/-- The entries of the payload of a finding's alert, by their values. -/
structure AlertPayload where
  event : AlertEvent
  findingId : Uuid
  subjectId : Uuid
  subjectKind : SubjectKind
  subjectValue : PyStr
  observedAt : Timestamp
deriving DecidableEq, Repr

structure AlertOutbox where
  id : Uuid
  sink : AlertSinkName
  payload : AlertPayload
  status : AlertOutboxStatus
  dedupeKey : Bytes
  attempts : ℕ
  nextAttemptAt : Timestamp
  lastError : Option PyStr
  createdAt : Timestamp
  deliveredAt : Option Timestamp
deriving DecidableEq, Repr

structure WatchlistEntry where
  subjectId : Option Uuid
  userId : Option Uuid
  alertUser : Bool
  alertWazuh : Bool
  alertIris : Bool
  enabled : Bool
deriving DecidableEq, Repr

/-! ## Batches -/

inductive BatchStatus where
  | pending
  | running
  | succeeded
  | partialSuccess
  | failed
deriving DecidableEq, Repr

/-- No transition leaves these statuses. -/
def BatchStatus.terminal : BatchStatus → Bool
  | .succeeded | .partialSuccess | .failed => true
  | .pending | .running => false

inductive QueueStatus where
  | queued
  | running
  | succeeded
  | failed
deriving DecidableEq, Repr

def QueueStatus.terminal : QueueStatus → Bool
  | .succeeded | .failed => true
  | .queued | .running => false

structure ScanBatch where
  status : BatchStatus
  totalCount : ℕ
  completedCount : ℕ
  failedCount : ℕ
  createdAt : Timestamp
  startedAt : Option Timestamp
  finishedAt : Option Timestamp
deriving DecidableEq, Repr

structure ScanQueue where
  batchId : Uuid
  subjectId : Uuid
  status : QueueStatus
  attempts : ℕ
  lockedBy : Option PyStr
  lockedAt : Option Timestamp
  lastError : Option PyStr
  createdAt : Timestamp
  finishedAt : Option Timestamp
deriving DecidableEq, Repr

end LeakcheckHub
