import LeakcheckHub.Outbox.Fanout
import LeakcheckHub.Routers.SignIn

/-!
# The handlers that record audit events

The remaining routes of `app/routers` that call `audit_event`, over the
functions that they call. What a form helper of the router returns or raises
is an argument; the work of the modules below the routers is a `Callee`.

§1 the functions below · §2 accounts and settings · §3 scans · §4 findings ·
§5 schedules, watchlist and batches · §6 all handlers.
-/

set_option linter.unusedSectionVars false

namespace LeakcheckHub.Routers

open Foundation Accounts Auth
open Portal (AuditLog)

/-! ## §1  The functions below -/

/-- `role.value`. -/
def roleValue : UserRole → PyStr
  | .user => PyStr.lit "user"
  | .analyst => PyStr.lit "analyst"
  | .superAdmin => PyStr.lit "super_admin"

/-- `kind.value`. -/
def kindValue : SubjectKind → PyStr
  | .email => PyStr.lit "email"
  | .domain => PyStr.lit "domain"
  | .username => PyStr.lit "username"
  | .phone => PyStr.lit "phone"
  | .origin => PyStr.lit "origin"
  | .password => PyStr.lit "password"

/-- `BatchTarget`. -/
inductive BatchTarget where
  | ou
  | domain
  | selection

def BatchTarget.value : BatchTarget → PyStr
  | .ou => PyStr.lit "ou"
  | .domain => PyStr.lit "domain"
  | .selection => PyStr.lit "selection"

structure NormalizedSubject where
  kind : SubjectKind
  valueNorm : PyStr
  valueDisplay : PyStr

/-- A schedule or a watchlist entry, as far as its audit event goes. -/
structure NewSchedule where
  kind : PyStr
  target : PyStr
  cron : PyStr
  timezone : PyStr
  misfireGraceSeconds : ℤ
  nextRunAt : Timestamp

structure WatchlistFlags where
  alertSoc : Bool
  alertUser : Bool
  alertWazuh : Bool
  alertIris : Bool

/-- The organisation's branding row. -/
structure Branding where
  name : Option PyStr
  hasLogo : Bool
  logoSha256 : Option PyStr

/-- What the handlers call, with the statements that they execute themselves. -/
structure Services (ops : TextOps) (Db : Type) where
  signIn : SignInServices ops Db
  -- credentials
  lockCredential : Uuid → Callee Db (Option AdminCredential)
  decryptTotpSecret : Uuid → Bytes → Except Fault PyStr
  verifyTotp : PyStr → PyStr → Bool
  verifyPassword : PyStr → PyStr → Bool
  hashPassword : PyStr → Except Fault PyStr
  writeCredential : AdminCredential → Callee Db Unit
  -- accounts
  userByEmail : PyStr → Callee Db (Option User)
  userById : Uuid → Callee Db (Option User)
  remainingSuperAdmins : Uuid → Callee Db ℕ
  addUser : PyStr → PyStr → UserRole → Callee Db User
  writeUser : User → Callee Db Unit
  revokeAll : Uuid → Callee Db ℕ
  -- settings, branding, workspace, alerts
  writeMany : List (PyStr × Option PyStr) → Uuid → Callee Db Unit
  configuredState : Callee Db (List (PyStr × Json))
  setName : PyStr → Callee Db Unit
  clearLogo : Callee Db Unit
  setLogo : Bytes → Callee Db Unit
  loadBranding : Callee Db Branding
  /-- `configured_workspace_client` and `list_users` of its client. -/
  listWorkspaceUsers : Callee Db Snapshot
  syncWorkspaceUsers : Snapshot → Callee Db (ℕ × ℕ)
  enqueueTestAlert : AlertSinkName → Callee Db Unit
  -- scans
  normalizeSubject : SubjectKind → PyStr → Except Fault NormalizedSubject
  /-- `pg_advisory_xact_lock(actor_scan_lock(…))`. -/
  lockActor : Uuid → Callee Db Unit
  activeScan : Uuid → Callee Db Bool
  activeSelfScan : Uuid → Callee Db Bool
  cooldownRemaining : Uuid → Callee Db ℤ
  resolveSubject : NormalizedSubject → Option Uuid → Callee Db Uuid
  /-- The client goes to the background task. -/
  configuredClient : Callee Db Unit
  addScan : Uuid → Uuid → ScanTrigger → Callee Db Uuid
  -- findings
  findingById : Uuid → Callee Db (Option Finding)
  revealPassword : Finding → Bytes → Bytes → Except Fault PyStr
  addViewedEvent : Uuid → Uuid → Callee Db Unit
  ownsFinding : Uuid → PyStr → Callee Db Bool
  remediateFinding : Uuid → Uuid → Option PyStr → Callee Db Uuid
  unremediateFinding : Uuid → Uuid → Callee Db Uuid
  subjectById : Uuid → Callee Db (Option (Uuid × SubjectKind))
  /-- The cells of the rows that a filter selects. -/
  findingRows : Uuid → List (PyStr × Json) → Callee Db (List (List PyStr))
  -- schedules, watchlist, batches, campaigns
  addSchedule : NewSchedule → Uuid → Callee Db Uuid
  /-- The kind of a schedule, locked. -/
  scheduleKind : Uuid → Callee Db (Option PyStr)
  toggleSchedule : Uuid → Callee Db Unit
  deleteSchedule : Uuid → Callee Db Unit
  normalizeEmail : PyStr → Except Fault PyStr
  userIdByEmail : PyStr → Callee Db (Option Uuid)
  subjectExists : Uuid → Callee Db Bool
  watchlisted : Uuid ⊕ Uuid → Callee Db Bool
  addWatchlistEntry : Uuid ⊕ Uuid → WatchlistFlags → Uuid → Callee Db Uuid
  watchlistEntryExists : Uuid → Callee Db Bool
  toggleChannel : Uuid → PyStr → Callee Db Unit
  deleteWatchlistEntry : Uuid → Callee Db Unit
  createBatch : Uuid → BatchTarget → PyStr → Callee Db (Uuid × ℕ)
  recipientFindings : PyStr → PyStr → Callee Db (List (Uuid × List Uuid))
  enqueueNotification : Uuid → List Uuid → Callee Db Unit
deriving Inhabited

variable {ops : TextOps} {Db α : Type} (S : Services ops Db)
  (ctx : AuditContext) (currentUser : User)

/-- What a helper of the router returns or raises. -/
def given (result : Except Raised α) : Handler Db α :=
  match result with
  | .ok a => pure a
  | .error e => Work.raise e

/-- A call that touches no table. -/
def compute (result : Except Fault α) : Handler Db α :=
  perform fun db => result.map fun a => (a, db)

/-- `_current_subject`. -/
def currentSubject (user : User) : Except Fault NormalizedSubject :=
  S.normalizeSubject .email user.email

/-- An event of the signed-in user. -/
def audit (action : String) (t : AuditTarget)
    (meta_ : List (PyStr × Json)) : Handler Db Unit :=
  auditEvent ctx action (some currentUser.id) t meta_

/-- `{"detail": …}`. -/
def detail (status : ℕ) (text : String) : Response :=
  json status [(PyStr.lit "detail", .str (PyStr.lit text))]

/-! ## §2  Accounts and settings -/

def enableMfa (code : Option PyStr) : Handler Db Response := do
  let credential ← perform (S.lockCredential currentUser.id)
  match credential, credential.bind AdminCredential.totpSecretEnc, code with
  | some credential, some encrypted, some code =>
      let secret ← excepting
        (compute ((S.decryptTotpSecret currentUser.id encrypted).map some))
        (fun fault => decide (fault = .localAuthentication))
        fun _ => pure none
      match secret with
      | none => pure (detail 400 "MFA setup is not ready.")
      | some secret =>
          if S.verifyTotp secret code then
            perform (S.writeCredential
              { credential with totpEnabledAt := some ctx.now })
            audit ctx currentUser "auth.mfa_enabled"
              (target "user" currentUser.id.str) []
            pure (json 200 [(PyStr.lit "enabled", .bool true)])
          else pure (detail 422 "The authenticator code was not accepted.")
  | _, _, _ => pure (detail 400 "MFA setup is not ready.")

/-- A body of `change_password` that passes its checks. -/
structure PasswordChange where
  currentPassword : PyStr
  newPassword : PyStr
  confirmation : PyStr

def changePassword (form : Option PasswordChange) : Handler Db Response :=
  match form with
  | none => pure (detail 400 "Invalid password change request.")
  | some form => do
      match ← perform (S.lockCredential currentUser.id) with
      | none => pure (detail 422 "Current password was not accepted.")
      | some credential =>
          if !S.verifyPassword credential.passwordHash form.currentPassword then
            pure (detail 422 "Current password was not accepted.")
          else if form.newPassword ≠ form.confirmation then
            pure (detail 422 "New passwords do not match.")
          else
            let hash ← excepting
              (compute ((S.hashPassword form.newPassword).map some))
              (fun fault => decide (fault = .localAuthentication))
              fun _ => pure none
            match hash with
            | none => pure (detail 422
                "New password must contain at least 15 valid characters.")
            | some hash =>
                perform (S.writeCredential
                  { credential with passwordHash := hash })
                audit ctx currentUser "auth.password_changed"
                  (target "user" currentUser.id.str) []
                pure (json 200 [(PyStr.lit "changed", .bool true)])

def logout (token : Option PyStr) : Handler Db Response := do
  let _ ← perform (S.signIn.revoke token)
  audit ctx currentUser "auth.logout" (target "user" currentUser.id.str) []
  pure ⟨204, [noStore], .text [], [.clearSession]⟩

/-- `sorted(key.value for key in values)`. -/
def sortedKeys (values : List (PyStr × Option PyStr)) : Json :=
  .arr ((values.map Prod.fst).foldr Outbox.insertText [] |>.map .str)

/-- The validated payload as it is written. -/
def updateSettings (values : Except Raised (List (PyStr × Option PyStr))) :
    Handler Db Response := do
  let values ← given values
  perform (S.writeMany values currentUser.id)
  audit ctx currentUser "admin.settings_updated"
    (some (PyStr.lit "platform_settings"), none)
    [(PyStr.lit "keys", sortedKeys values)]
  let configured ← perform S.configuredState
  pure (json 200 [(PyStr.lit "updated", sortedKeys values),
    (PyStr.lit "configured", .obj configured)])

def createUser (payload : Except Raised UserCreate) : Handler Db Response := do
  let payload ← given payload
  let email ← compute ((normaliseAdminEmail ops payload.email).mapError faultOf)
  let name ← compute ((normaliseDisplayName payload.displayName).mapError faultOf)
  match ← perform (S.userByEmail email) with
  | some _ => abort 409 "A user with this email already exists."
  | none =>
      let user ← perform (S.addUser email name payload.role)
      audit ctx currentUser "admin.user_created" (target "user" user.id.str)
        [(PyStr.lit "role", .str (roleValue user.role))]
      pure (json 201 [(PyStr.lit "id", .str user.id.str),
        (PyStr.lit "email", .str user.email),
        (PyStr.lit "role", .str (roleValue user.role))])

/-- `before` and `after`. -/
def userState (user : User) : Json :=
  .obj [(PyStr.lit "display_name", .str user.displayName),
    (PyStr.lit "role", .str (roleValue user.role)),
    (PyStr.lit "active", .bool user.isActive)]

/-- The assignments of `update_user`. -/
def assigned (payload : UserUpdate) (user : User) : Except Fault User := do
  let displayName ← (payload.displayName.elim (pure user.displayName)
    normaliseDisplayName).mapError faultOf
  pure { user with
    displayName := displayName
    role := payload.role.getD user.role
    isActive := payload.isActive.getD user.isActive }

/-- The check of `update_user` on the other super-admins. -/
def leavesNoSuperAdmin (user : User) (payload : UserUpdate) :
    Handler Db Bool :=
  if user.role = .superAdmin ∧ payload.removesAccess then do
    let remaining ← perform (S.remainingSuperAdmins user.id)
    pure (remaining == 0)
  else pure false

def updateUser (userId : Uuid) (payload : Except Raised UserUpdate) :
    Handler Db Response := do
  let payload ← given payload
  match ← perform (S.userById userId) with
  | none => abort 404 "No such user."
  | some user =>
      if user.id = currentUser.id ∧ payload.removesAccess then
        abort 409
          "You cannot remove your own super-admin access. Ask another super-admin."
      else
        if ← leavesNoSuperAdmin S user payload then
          abort 409
            "This is the last active super-admin. Grant the role to someone else first."
        else
          let after ← compute (assigned payload user)
          perform (S.writeUser after)
          audit ctx currentUser "admin.user_updated"
            (target "user" user.id.str)
            [(PyStr.lit "before", userState user),
              (PyStr.lit "after", userState after)]
          pure (json 200 [(PyStr.lit "id", .str user.id.str),
            (PyStr.lit "role", .str (roleValue after.role)),
            (PyStr.lit "is_active", .bool after.isActive)])

/-- A validated `BrandingUpdate`; the logo is decoded, `some none` where it is
no base64. -/
structure BrandingUpdate where
  organizationName : Option PyStr
  logo : Option (Option Bytes)
  clearLogo : Bool

/-- `str(exc)` of a `LogoRejected`. -/
def rejection : Fault → PyStr
  | .logoRejected message => message
  | _ => []

def isLogoRejected : Fault → Bool
  | .logoRejected _ => true
  | _ => false

/-- The name of a `BrandingUpdate`, and what it changes. -/
def updateName (payload : BrandingUpdate) : Handler Db (List PyStr) :=
  match payload.organizationName with
  | none => pure []
  | some name => do
      perform (S.setName name)
      pure [PyStr.lit "organization_name"]

/-- The logo of a `BrandingUpdate`, and what it changes. -/
def updateLogo (payload : BrandingUpdate) : Handler Db (List PyStr) :=
  if payload.clearLogo then do
    perform S.clearLogo
    pure [PyStr.lit "logo_cleared"]
  else
    match payload.logo with
    | none => pure []
    | some none => abort 422 "The logo is not valid base64."
    | some (some raw) => do
        excepting (perform (S.setLogo raw)) isLogoRejected fun fault =>
          Work.raise (.http 422 (rejection fault))
        pure [PyStr.lit "logo"]

def updateBranding (payload : Except Raised BrandingUpdate) :
    Handler Db Response := do
  let payload ← given payload
  let named ← updateName S payload
  let pictured ← updateLogo S payload
  let changed := named ++ pictured
  if changed.isEmpty then abort 422 "Nothing to update."
  else
    audit ctx currentUser "admin.branding_updated"
      (some (PyStr.lit "branding"), none)
      [(PyStr.lit "changed", .arr (changed.map .str))]
    let current ← perform S.loadBranding
    pure (json 200 [(PyStr.lit "changed", .arr (changed.map .str)),
      (PyStr.lit "organization_name", current.name.elim .null .str),
      (PyStr.lit "has_logo", .bool current.hasLogo),
      (PyStr.lit "logo_sha256", current.logoSha256.elim .null .str)])

def revokeUserSessions (userId : Uuid) : Handler Db Response := do
  match ← perform (S.userById userId) with
  | none => abort 404 "No such user."
  | some user =>
      let revoked ← perform (S.revokeAll user.id)
      audit ctx currentUser "admin.sessions_revoked"
        (target "user" user.id.str)
        [(PyStr.lit "revoked", .int revoked)]
      pure (json 200 [(PyStr.lit "revoked", .int revoked)])

/-- `(PlatformSettingError, WorkspaceAPIError, WorkspaceConfigurationError)`. -/
def isWorkspaceFailure : Fault → Bool
  | .platformSetting | .workspaceApi | .workspaceConfiguration => true
  | _ => false

/-- The `except` clause of `sync_workspace`: an event, and then an error. -/
def workspaceSyncFailed (fault : Fault) : Handler Db Snapshot := do
  audit ctx currentUser "admin.workspace_sync_failed"
    (some (PyStr.lit "workspace"), none)
    [(PyStr.lit "reason", .str fault.name)]
  abort 502 "Workspace sync failed."

def syncWorkspace : Handler Db Response := do
  -- closing the client's connections is left out
  let users ← excepting (perform S.listWorkspaceUsers) isWorkspaceFailure
    (workspaceSyncFailed ctx currentUser)
  let (seen, deactivated) ← perform (S.syncWorkspaceUsers users)
  audit ctx currentUser "admin.workspace_synced"
    (some (PyStr.lit "workspace"), none)
    [(PyStr.lit "seen", .int seen), (PyStr.lit "deactivated", .int deactivated)]
  pure (json 200 [(PyStr.lit "seen", .int seen),
    (PyStr.lit "deactivated", .int deactivated)])

def queueTestAlert (sink : AlertSinkName) : Handler Db Response := do
  perform (S.enqueueTestAlert sink)
  audit ctx currentUser "admin.test_alert_queued"
    (target "alert_sink" (Outbox.sinkValue sink)) []
  pure (json 202 [(PyStr.lit "queued", .str (Outbox.sinkValue sink))])

/-! ## §3  Scans -/

/-- `(PlatformSettingError, LeakCheckConfigurationError, ValueError)`. -/
def isUnconfigured (fault : Fault) : Bool :=
  match fault with
  | .platformSetting | .leakCheckConfiguration => true
  | _ => fault.isValueError

/-- The answer of a scan that was queued. -/
def scanQueued (location : PyStr) (htmx : Bool) : Response :=
  if htmx then
    ⟨200, [noStore, (PyStr.lit "HX-Redirect", location)], .text [], []⟩
  else
    ⟨303, [(PyStr.lit "Location", location), noStore], .text [], []⟩

/-- From the client of a scan on: what `run_analyst_scan` and `self_check` do
alike, with the actions, the target and the data of their events, and the text
of their refusal. -/
def queueScan (rejected requested : String) (rejectedTarget : AuditTarget)
    (kind : SubjectKind) (rejectedMeta : List (PyStr × Json))
    (unavailable : String) (subjectId : Uuid) (trigger : ScanTrigger)
    (scans : String) (htmx : Bool) : Handler Db Response := do
  let configured ← excepting
    (do
      perform S.configuredClient
      pure true)
    isUnconfigured fun fault => do
      audit ctx currentUser rejected rejectedTarget
        (rejectedMeta ++ [(PyStr.lit "reason", .str fault.name)])
      pure false
  if !configured then pure (plain 503 unavailable)
  else
    let scanId ← perform (S.addScan subjectId currentUser.id trigger)
    audit ctx currentUser requested (target "scan" scanId.str)
      [(PyStr.lit "kind", .str (kindValue kind))]
    Work.commit
    pure (scanQueued (PyStr.lit scans ++ scanId.str) htmx)

def runAnalystScan (kind : SubjectKind) (query : Except Raised PyStr)
    (htmx : Bool) : Handler Db Response := do
  let query ← given query
  let normalized ← excepting
    (compute ((S.normalizeSubject kind query).map Sum.inr))
    (fun fault => match fault with
      | .normalization _ => true
      | _ => false)
    fun fault => pure (Sum.inl fault)
  match normalized with
  | .inl fault =>
      -- `str(exc)`
      let message := match fault with
        | .normalization message => message
        | _ => []
      pure ⟨422, [noStore], .text message, []⟩
  | .inr normalized =>
      perform (S.lockActor currentUser.id)
      if ← perform (S.activeScan currentUser.id) then
        pure (plain 409 "You already have a check in progress.")
      else
        let subjectId ← perform (S.resolveSubject normalized none)
        queueScan S ctx currentUser "analyst.scan_rejected"
          "analyst.scan_requested" (target "subject" subjectId.str) kind
          [(PyStr.lit "kind", .str (kindValue kind))]
          "LeakCheck is not configured. Ask a super-admin to review Platform settings."
          subjectId .manual "/analyst/scans/" htmx

/-- `Retry-After` of a self-check in its cooldown. -/
def inCooldown (remaining : ℤ) : Response :=
  { plain 429
      "Your self-check is in cooldown. Existing findings remain available below."
    with
    headers := [noStore,
      (PyStr.lit "Retry-After", PyStr.lit (toString remaining))] }

def selfCheck (htmx : Bool) : Handler Db Response := do
  let normalized ← compute (currentSubject S currentUser)
  perform (S.lockActor currentUser.id)
  let active ← perform (S.activeSelfScan currentUser.id)
  let remaining ← perform (S.cooldownRemaining currentUser.id)
  if active then
    pure (plain 409 "Your existing self-check is still in progress.")
  else if 0 < remaining then pure (inCooldown remaining)
  else
    let subjectId ← perform (S.resolveSubject normalized (some currentUser.id))
    queueScan S ctx currentUser "self.scan_rejected" "self.scan_requested"
      (target "user" currentUser.id.str) .email []
      "Self-check is not configured. Contact your security team."
      subjectId .self "/portal/scans/" htmx

/-! ## §4  Findings -/

def revealFindingPassword (findingId : Uuid) : Handler Db Response := do
  match ← perform (S.findingById findingId) with
  | none => abort 404 "Finding not found."
  | some finding =>
      match finding.passwordCiphertext, finding.passwordNonce with
      | some ciphertext, some nonce =>
          let password ← excepting
            (compute (S.revealPassword finding ciphertext nonce))
            (fun fault => decide (fault = .findingCrypto))
            fun _ => abort 409
              "The stored credential could not be authenticated."
          perform (S.addViewedEvent finding.id currentUser.id)
          audit ctx currentUser "finding.password_viewed"
            (target "finding" finding.id.str) []
          pure ⟨200, [noStore, (PyStr.lit "Pragma", PyStr.lit "no-cache")],
            .revealedPassword password, []⟩
      | _, _ => abort 404 "This finding has no stored password."

/-- The handlers that change the state of a finding: the change, its event and
the answer. -/
def changeFinding (change : Callee Db Uuid) (action : String)
    (answer : Uuid → Response) : Handler Db Response := do
  let findingId ← excepting (perform change)
    (fun fault => decide (fault = .findingNotFound))
    fun _ => abort 404 "Finding not found."
  audit ctx currentUser action (target "finding" findingId.str) []
  pure (answer findingId)

/-- `remediation_markup`. -/
def markup (remediated : Bool) (findingId : Uuid) : Response :=
  ⟨200, [noStore], .remediation findingId remediated, []⟩

/-- The answer of the findings API. -/
def stateOf (state : String) (findingId : Uuid) : Response :=
  json 200 [(PyStr.lit "id", .str findingId.str),
    (PyStr.lit "state", .str (PyStr.lit state))]

def markRemediated (findingId : Uuid) : Handler Db Response :=
  changeFinding ctx currentUser
    (S.remediateFinding findingId currentUser.id none) "finding.remediated"
    (markup true)

def markUnremediated (findingId : Uuid) : Handler Db Response :=
  changeFinding ctx currentUser
    (S.unremediateFinding findingId currentUser.id) "finding.unremediated"
    (markup false)

def remediate (findingId : Uuid) (note : Option PyStr) : Handler Db Response :=
  changeFinding ctx currentUser
    (S.remediateFinding findingId currentUser.id note) "finding.remediated"
    (stateOf "remediated")

def unremediate (findingId : Uuid) : Handler Db Response :=
  changeFinding ctx currentUser
    (S.unremediateFinding findingId currentUser.id) "finding.unremediated"
    (stateOf "unremediated")

def selfRemediate (findingId : Uuid) : Handler Db Response := do
  let normalized ← compute (currentSubject S currentUser)
  if ← perform (S.ownsFinding findingId normalized.valueNorm) then
    changeFinding ctx currentUser
      (S.remediateFinding findingId currentUser.id
        (some (PyStr.lit "Marked fixed by the affected user")))
      "self.finding_remediated"
      fun findingId =>
        ⟨200, [noStore], .remediationComplete findingId.str, []⟩
  else abort 404 "Finding not found."

def csvHeader : List PyStr :=
  ["source", "breach_date", "collected_date", "email", "username", "phone",
    "origin", "url", "fields", "password_mask", "state", "re_leaked",
    "first_seen_at", "last_seen_at"].map PyStr.lit

/-- The filters as `_filter_meta` lists them. -/
def exportSubjectCsv (subjectId : Uuid)
    (filters : Except Raised (List (PyStr × Json))) : Handler Db Response := do
  match ← perform (S.subjectById subjectId) with
  | none => abort 404 "Subject not found."
  | some (subjectId, kind) =>
      let filters ← given filters
      let rows ← perform (S.findingRows subjectId filters)
      audit ctx currentUser "findings.csv_exported"
        (target "subject" subjectId.str)
        (filters ++ [(PyStr.lit "row_count", .int rows.length)])
      pure ⟨200, [noStore, (PyStr.lit "Content-Disposition",
          PyStr.lit "attachment; filename=\"leakcheck-" ++ kindValue kind ++
            PyStr.lit "-findings.csv\""),
          (PyStr.lit "X-Content-Type-Options", PyStr.lit "nosniff")],
        .csv (csvHeader :: rows), []⟩

/-! ## §5  Schedules, watchlist and batches -/

/-- `_audit` of the schedules. -/
def auditSchedule (scheduleId : Uuid) (kind : PyStr) (action : String) :
    Handler Db Unit :=
  audit ctx currentUser action (target "schedule" scheduleId.str)
    [(PyStr.lit "kind", .str kind)]

def toSchedules : Response := redirect (PyStr.lit "/analyst/schedules")

/-- The form as it passes the checks of the route. -/
def createSchedule (form : Except Raised NewSchedule) :
    Handler Db Response := do
  let schedule ← given form
  let scheduleId ← perform (S.addSchedule schedule currentUser.id)
  auditSchedule ctx currentUser scheduleId schedule.kind "schedule.created"
  pure toSchedules

/-- `_schedule`. -/
def lockedSchedule (scheduleId : Uuid) : Handler Db PyStr := do
  match ← perform (S.scheduleKind scheduleId) with
  | none => abort 404 "Schedule not found."
  | some kind => pure kind

def toggleSchedule (scheduleId : Uuid) : Handler Db Response := do
  let kind ← lockedSchedule S scheduleId
  perform (S.toggleSchedule scheduleId)
  auditSchedule ctx currentUser scheduleId kind "schedule.toggled"
  pure toSchedules

def removeSchedule (scheduleId : Uuid) : Handler Db Response := do
  let kind ← lockedSchedule S scheduleId
  auditSchedule ctx currentUser scheduleId kind "schedule.deleted"
  perform (S.deleteSchedule scheduleId)
  pure toSchedules

/-- `_audit` of the watchlist. -/
def auditEntry (entryId : Uuid) (action : String) (channel : Option PyStr) :
    Handler Db Unit :=
  audit ctx currentUser action (target "watchlist" entryId.str)
    (channel.elim [] fun channel => [(PyStr.lit "channel", .str channel)])

def toWatchlist : Response := redirect (PyStr.lit "/analyst/watchlist")

/-- The target of a new entry: a user by email, or a subject by id. -/
inductive WatchlistTarget where
  | user (email : PyStr)
  /-- `none` is no UUID. -/
  | subject (id : Option Uuid)
  | unknown

def watchlistTarget : WatchlistTarget → Handler Db (Uuid ⊕ Uuid)
  | .user email => do
      let email ← excepting (compute (S.normalizeEmail email))
        (fun fault => match fault with
          | .normalization _ => true
          | _ => false)
        fun _ => abort 422 "Invalid user email."
      match ← perform (S.userIdByEmail email) with
      | none => abort 404 "User not found."
      | some userId => pure (.inl userId)
  | .subject none => abort 422 "Invalid subject ID."
  | .subject (some subjectId) => do
      if ← perform (S.subjectExists subjectId) then pure (.inr subjectId)
      else abort 404 "Subject not found."
  | .unknown => abort 422 "Invalid watchlist target."

def addWatchlistEntry (form : Except Raised (WatchlistTarget × WatchlistFlags)) :
    Handler Db Response := do
  let (target, flags) ← given form
  let target ← watchlistTarget S target
  if ← perform (S.watchlisted target) then
    abort 409 "Target is already watchlisted."
  else
    let entryId ← perform (S.addWatchlistEntry target flags currentUser.id)
    auditEntry ctx currentUser entryId "watchlist.created" none
    pure toWatchlist

def removeWatchlistEntry (entryId : Uuid) : Handler Db Response := do
  if ← perform (S.watchlistEntryExists entryId) then
    auditEntry ctx currentUser entryId "watchlist.deleted" none
    perform (S.deleteWatchlistEntry entryId)
    pure toWatchlist
  else abort 404 "Watchlist entry not found."

/-- `_CHANNELS`. -/
def channels : List PyStr :=
  ["alert_soc", "alert_user", "alert_wazuh", "alert_iris", "enabled"].map
    PyStr.lit

def toggleWatchlistChannel (entryId : Uuid) (channel : PyStr) :
    Handler Db Response := do
  if !channels.contains channel then
    abort 404 "Watchlist channel not found."
  else if ← perform (S.watchlistEntryExists entryId) then
    perform (S.toggleChannel entryId channel)
    auditEntry ctx currentUser entryId "watchlist.channel_toggled"
      (some channel)
    pure toWatchlist
  else abort 404 "Watchlist entry not found."

/-- The target of the form as it passes the checks of the route. -/
def addBatch (form : Except Raised (BatchTarget × PyStr)) :
    Handler Db Response := do
  let (targetType, targetValue) ← given form
  let (batchId, total) ← excepting
    (perform (S.createBatch currentUser.id targetType targetValue))
    Fault.isValueError fun _ => abort 422 "Batch target matched no active users."
  audit ctx currentUser "batch.created" (target "scan_batch" batchId.str)
    [(PyStr.lit "target_type", .str targetType.value),
      (PyStr.lit "total_count", .int total)]
  Work.commit
  pure (redirect (PyStr.lit "/analyst/batches/" ++ batchId.str))

/-- The loop over the recipients. -/
def enqueueAll : List (Uuid × List Uuid) → Handler Db Unit
  | [] => pure ()
  | (userId, findingIds) :: rest => do
      perform (S.enqueueNotification userId findingIds)
      enqueueAll rest

/-- The target type and the target as they pass the checks of the route. -/
def confirmNotifications (form : Except Raised (PyStr × PyStr)) :
    Handler Db Response := do
  let (targetType, targetValue) ← given form
  let recipients ← perform (S.recipientFindings targetType targetValue)
  enqueueAll S recipients
  audit ctx currentUser "notifications.campaign_queued"
    (some (PyStr.lit "notification_campaign"), none)
    [(PyStr.lit "target_type", .str targetType),
      (PyStr.lit "recipient_count", .int recipients.length)]
  pure (redirect (PyStr.lit "/analyst/notifications"))

/-! ## §6  All handlers -/

/-- A request to a handler that records audit events, with what it takes from
its path, its form and its cookies. -/
inductive Call (ops : TextOps) where
  | startGoogleLogin (cached : Option (GoogleOidc ops)) (now : ℤ)
  | finishGoogleLogin (r : SignInRequest) (q : Callback ops)
  | finishLocalLogin (r : SignInRequest) (post : LoginPost)
  | enableMfa (code : Option PyStr)
  | changePassword (form : Option PasswordChange)
  | logout (token : Option PyStr)
  | updateSettings (values : Except Raised (List (PyStr × Option PyStr)))
  | createUser (payload : Except Raised UserCreate)
  | updateUser (userId : Uuid) (payload : Except Raised UserUpdate)
  | updateBranding (payload : Except Raised BrandingUpdate)
  | revokeUserSessions (userId : Uuid)
  | syncWorkspace
  | queueTestAlert (sink : AlertSinkName)
  | runAnalystScan (kind : SubjectKind) (query : Except Raised PyStr)
      (htmx : Bool)
  | selfCheck (htmx : Bool)
  | revealFindingPassword (findingId : Uuid)
  | markRemediated (findingId : Uuid)
  | markUnremediated (findingId : Uuid)
  | remediate (findingId : Uuid) (note : Option PyStr)
  | unremediate (findingId : Uuid)
  | selfRemediate (findingId : Uuid)
  | exportSubjectCsv (subjectId : Uuid)
      (filters : Except Raised (List (PyStr × Json)))
  | createSchedule (form : Except Raised NewSchedule)
  | toggleSchedule (scheduleId : Uuid)
  | removeSchedule (scheduleId : Uuid)
  | addWatchlistEntry (form : Except Raised (WatchlistTarget × WatchlistFlags))
  | removeWatchlistEntry (entryId : Uuid)
  | toggleWatchlistChannel (entryId : Uuid) (channel : PyStr)
  | addBatch (form : Except Raised (BatchTarget × PyStr))
  | confirmNotifications (form : Except Raised (PyStr × PyStr))

def Call.handler : Call ops → Handler Db Response
  | .startGoogleLogin cached now =>
      Routers.startGoogleLogin S.signIn ⟨ctx, none, none⟩ cached now
  | .finishGoogleLogin r q =>
      Routers.finishGoogleLogin S.signIn { r with audit := ctx } q
  | .finishLocalLogin r post =>
      Routers.finishLocalLogin S.signIn { r with audit := ctx } post
  | .enableMfa code => Routers.enableMfa S ctx currentUser code
  | .changePassword form => Routers.changePassword S ctx currentUser form
  | .logout token => Routers.logout S ctx currentUser token
  | .updateSettings values => Routers.updateSettings S ctx currentUser values
  | .createUser payload => Routers.createUser S ctx currentUser payload
  | .updateUser userId payload =>
      Routers.updateUser S ctx currentUser userId payload
  | .updateBranding payload => Routers.updateBranding S ctx currentUser payload
  | .revokeUserSessions userId =>
      Routers.revokeUserSessions S ctx currentUser userId
  | .syncWorkspace => Routers.syncWorkspace S ctx currentUser
  | .queueTestAlert sink => Routers.queueTestAlert S ctx currentUser sink
  | .runAnalystScan kind query htmx =>
      Routers.runAnalystScan S ctx currentUser kind query htmx
  | .selfCheck htmx => Routers.selfCheck S ctx currentUser htmx
  | .revealFindingPassword findingId =>
      Routers.revealFindingPassword S ctx currentUser findingId
  | .markRemediated findingId =>
      Routers.markRemediated S ctx currentUser findingId
  | .markUnremediated findingId =>
      Routers.markUnremediated S ctx currentUser findingId
  | .remediate findingId note =>
      Routers.remediate S ctx currentUser findingId note
  | .unremediate findingId => Routers.unremediate S ctx currentUser findingId
  | .selfRemediate findingId =>
      Routers.selfRemediate S ctx currentUser findingId
  | .exportSubjectCsv subjectId filters =>
      Routers.exportSubjectCsv S ctx currentUser subjectId filters
  | .createSchedule form => Routers.createSchedule S ctx currentUser form
  | .toggleSchedule scheduleId =>
      Routers.toggleSchedule S ctx currentUser scheduleId
  | .removeSchedule scheduleId =>
      Routers.removeSchedule S ctx currentUser scheduleId
  | .addWatchlistEntry form => Routers.addWatchlistEntry S ctx currentUser form
  | .removeWatchlistEntry entryId =>
      Routers.removeWatchlistEntry S ctx currentUser entryId
  | .toggleWatchlistChannel entryId channel =>
      Routers.toggleWatchlistChannel S ctx currentUser entryId channel
  | .addBatch form => Routers.addBatch S ctx currentUser form
  | .confirmNotifications form =>
      Routers.confirmNotifications S ctx currentUser form

end LeakcheckHub.Routers
