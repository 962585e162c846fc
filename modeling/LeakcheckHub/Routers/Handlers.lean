import LeakcheckHub.Auth.Sessions
import LeakcheckHub.Foundation.PgText
import LeakcheckHub.Foundation.UnitOfWork
import LeakcheckHub.Portal.Own

/-!
# Request handlers

A handler runs in the session of `get_db_session` of `app/db.py`, which commits
it when it returns and rolls it back when it raises: a `Work` on the tables
`Db`, with `audit_log` as its journal.

§1 exceptions and responses · §2 handlers · §3 audit events · §4 which
handlers raise an `HTTPException` before they record anything.
-/

namespace LeakcheckHub.Routers

open Foundation Auth
open Portal (AuditLog)

/-! ## §1  Exceptions and responses -/

/-- Exceptions of the modules below the routers, by class. -/
inductive Fault where
  | platformSetting
  | workspaceApi
  | workspaceConfiguration
  | leakCheckConfiguration
  | googleOidc
  | localAuthentication
  | findingNotFound
  | findingCrypto
  | logoRejected (message : PyStr)
  | scheduleValidation
  | normalization (message : PyStr)
  /-- Another `ValueError`, with the name of its class. -/
  | value (name : PyStr)
  | key
  | database (e : DbError)
  | other (name : PyStr)
deriving DecidableEq, Inhabited

/-- `NormalizationError` and `ScheduleValidationError` are `ValueError`s. -/
def Fault.isValueError : Fault → Bool
  | .scheduleValidation | .normalization _ | .value _ => true
  | _ => false

/-- `type(exc).__name__`. -/
def Fault.name : Fault → PyStr
  | .platformSetting => PyStr.lit "PlatformSettingError"
  | .workspaceApi => PyStr.lit "WorkspaceAPIError"
  | .workspaceConfiguration => PyStr.lit "WorkspaceConfigurationError"
  | .leakCheckConfiguration => PyStr.lit "LeakCheckConfigurationError"
  | .googleOidc => PyStr.lit "GoogleOIDCError"
  | .localAuthentication => PyStr.lit "LocalAuthenticationError"
  | .findingNotFound => PyStr.lit "FindingNotFoundError"
  | .findingCrypto => PyStr.lit "FindingCryptoError"
  | .logoRejected _ => PyStr.lit "LogoRejected"
  | .scheduleValidation => PyStr.lit "ScheduleValidationError"
  | .normalization _ => PyStr.lit "NormalizationError"
  | .value name | .other name => name
  | .key => PyStr.lit "KeyError"
  | .database _ => PyStr.lit "DBAPIError"

/-- What leaves a handler: only the routers raise `HTTPException`. -/
inductive Raised where
  | http (status : ℕ) (detail : PyStr)
  | fault (f : Fault)
deriving DecidableEq

def Raised.IsHttp : Raised → Prop
  | .http .. => True
  | .fault _ => False

inductive CookieChange where
  | session (issued : IssuedSession)
  | csrf (sessionToken : Option PyStr)
  | clearSession
  | oauthTransaction (value : PyStr) (maxAge : ℤ)
  | clearOauthTransaction

/-- A body, or the data that it is rendered from. -/
inductive Body where
  | text (s : PyStr)
  | json (entries : List (PyStr × Json))
  | revealedPassword (password : PyStr)
  | remediation (findingId : Uuid) (remediated : Bool)
  | remediationComplete (findingId : PyStr)
  | csv (rows : List (List PyStr))

structure Response where
  status : ℕ
  headers : List (PyStr × PyStr)
  body : Body
  cookies : List CookieChange

def noStore : PyStr × PyStr :=
  (PyStr.lit "Cache-Control", PyStr.lit "no-store")

/-- `PlainTextResponse` and `HTMLResponse`. -/
def plain (status : ℕ) (text : String) : Response :=
  ⟨status, [noStore], .text (PyStr.lit text), []⟩

/-- `JSONResponse`. -/
def json (status : ℕ) (entries : List (PyStr × Json)) : Response :=
  ⟨status, [], .json entries, []⟩

/-- `RedirectResponse(location, status_code=303)`. -/
def redirect (location : PyStr) : Response :=
  ⟨303, [(PyStr.lit "Location", location)], .text [], []⟩

/-! ## §2  Handlers -/

variable {Db α β : Type}

abbrev Handler (Db α : Type) : Type := Work Raised Db AuditLog α

/-- A function of the modules below the routers. -/
abbrev Callee (Db α : Type) : Type := Db → Except Fault (α × Db)

def perform (f : Callee Db α) : Handler Db α :=
  Work.statement fun db => (f db).mapError .fault

/-- `raise HTTPException(…)`. -/
def abort (status : ℕ) (detail : String) : Handler Db α :=
  Work.raise (.http status (PyStr.lit detail))

/-- `try: h; except …`, for the classes in `caught`. -/
def excepting (h : Handler Db α) (caught : Fault → Bool)
    (handler : Fault → Handler Db α) : Handler Db α :=
  Work.catching h fun
    | .fault f => if caught f then some (handler f) else none
    | .http .. => none

/-- The request as `get_db_session` ends it: the outcome, and the tables and
the audit log afterwards. -/
def getDbSession (h : Handler Db α) (saved : Db × List AuditLog) :
    Except Raised α × (Db × List AuditLog) :=
  h.run saved

/-- The audit events that the request recorded. -/
def recorded (h : Handler Db α) (saved : Db × List AuditLog) : List AuditLog :=
  h.appended saved

/-! ## §3  Audit events -/

/-- What `audit_event` takes from the request, the settings and the clock. -/
structure AuditContext where
  /-- `request.client.host`. -/
  clientHost : Option PyStr
  /-- `ipaddress.ip_address(value).compressed`; `none` is the `ValueError`. -/
  compressedIp : PyStr → Option PyStr
  /-- HMAC-SHA256 under the key derived from the session secret. -/
  ipDigest : Bytes → Bytes
  /-- The draws of `uuid4`. -/
  newId : ℕ → Uuid
  now : Timestamp
  /-- The flush fails for a reason of the database's own. -/
  flushFails : AuditLog → Bool

def AuditContext.canonicalIp (ctx : AuditContext) : Bytes :=
  match ctx.compressedIp (ctx.clientHost.getD []) with
  | none => PyStr.asciiLit "invalid"
  | some ip => if ip.isAscii then asciiEncode ip else PyStr.asciiLit "invalid"
where
  asciiEncode (ip : PyStr) : Bytes := ip.map fun c => UInt8.ofNat c.val

/-- `target_type` and `target_id`. -/
abbrev AuditTarget : Type := Option PyStr × Option PyStr

def target (type : String) (id : PyStr) : AuditTarget :=
  (some (PyStr.lit type), some id)

def AuditContext.event (ctx : AuditContext) (draw : ℕ) (action : String)
    (actorId : Option Uuid) (target : AuditTarget)
    (meta_ : List (PyStr × Json)) : AuditLog where
  id := ctx.newId draw
  actorId := actorId
  action := PyStr.lit action
  targetType := target.1
  targetId := target.2
  ipHash := ctx.ipDigest ctx.canonicalIp
  at_ := ctx.now
  meta_ := meta_

/-- The insert of an event: its id is new, and the database takes it. -/
def AuditContext.refuses (ctx : AuditContext) (event : AuditLog)
    (rows : List AuditLog) : Option Raised :=
  if event.id ∈ rows.map AuditLog.id then
    some (.fault (.database .integrityViolation))
  else if ctx.flushFails event then some (.fault (.database .badJson))
  else none

def auditEvent (ctx : AuditContext) (action : String)
    (actorId : Option Uuid) (target : AuditTarget)
    (meta_ : List (PyStr × Json)) : Handler Db Unit := fun u =>
  let event := ctx.event u.journal.length action actorId target meta_
  Work.note (ctx.refuses event) event u

/-! ## §4  Raising before recording -/

/-- The handler raises an `HTTPException` only while it has recorded
nothing. -/
abbrev AbortsFirst (h : Handler Db α) : Prop := Work.RaisesFirst Raised.IsHttp h

/-- The handler raises no `HTTPException`. -/
abbrev NeverAborts (h : Handler Db α) : Prop := Work.Avoids Raised.IsHttp h

variable {h : Handler Db α} {u u' : UnitOfWork Db AuditLog}
  {ctx : AuditContext} {action : String} {actorId : Option Uuid}
  {t : AuditTarget} {m : List (PyStr × Json)} {f : Callee Db α} {a : α}

theorem silent_perform : Work.Silent (perform f : Handler Db α) :=
  Work.Silent.statement

theorem perform_ok : perform f u = (.ok a, u') ↔
    ∃ db, f u.world = .ok (a, db) ∧ u' = { u with world := db } := by
  unfold perform
  rw [Work.statement_ok]
  constructor
  · rintro ⟨db, hdb, rfl⟩
    exact ⟨db, mapError_eq_ok.mp hdb, rfl⟩
  · rintro ⟨db, hdb, rfl⟩
    exact ⟨db, mapError_eq_ok.mpr hdb, rfl⟩

theorem perform_error {e : Raised} : perform f u = (.error e, u') ↔
    ∃ fault, f u.world = .error fault ∧ e = .fault fault ∧ u' = u := by
  unfold perform Work.statement
  rcases hf : f u.world with fault | ⟨a, db⟩
  · simp [Except.mapError, hf, eq_comm]
  · simp [Except.mapError, hf]

theorem avoids_perform {P : Raised → Prop}
    (hf : ∀ db fault, f db = .error fault → ¬ P (.fault fault)) :
    Work.Avoids P (perform f : Handler Db α) := by
  intro u e u' hu
  obtain ⟨fault, hfault, rfl, -⟩ := perform_error.mp hu
  exact hf _ _ hfault

theorem neverAborts_perform : NeverAborts (perform f : Handler Db α) :=
  avoids_perform fun _ _ _ => id

/-- Only the database refuses an event. -/
theorem auditEvent_error {e : Raised}
    (h : auditEvent ctx action actorId t m u = (.error e, u')) :
    ∃ cause, e = .fault (.database cause) := by
  unfold auditEvent Work.note AuditContext.refuses at h
  dsimp only at h
  split at h
  · rename_i e' hrefused
    cases h
    split at hrefused
    · cases hrefused
      exact ⟨.integrityViolation, rfl⟩
    · split at hrefused
      · cases hrefused
        exact ⟨.badJson, rfl⟩
      · cases hrefused
  · cases h

theorem avoids_auditEvent {P : Raised → Prop}
    (hP : ∀ cause, ¬ P (.fault (.database cause))) :
    Work.Avoids P
      (auditEvent ctx action actorId t m : Handler Db Unit) := by
  intro u e u' hu
  obtain ⟨cause, rfl⟩ := auditEvent_error hu
  exact hP cause

theorem neverAborts_auditEvent :
    NeverAborts (auditEvent ctx action actorId t m : Handler Db Unit) :=
  avoids_auditEvent fun _ => id

theorem silent_abort {status : ℕ} {detail : String} :
    Work.Silent (abort status detail : Handler Db α) :=
  Work.Silent.raise

/-- A recorded event stands at the end of the log. -/
theorem auditEvent_ok {x : Unit}
    (h : auditEvent ctx action actorId t m u = (.ok x, u')) :
    ∃ event : AuditLog, event.action = PyStr.lit action ∧
      event ∉ u.journal ∧
      u' = { u with journal := u.journal ++ [event] } := by
  obtain ⟨hrefuses, hu'⟩ := Work.note_ok.mp h
  refine ⟨_, rfl, ?_, hu'⟩
  intro hmem
  unfold AuditContext.refuses at hrefuses
  have hid := List.mem_map_of_mem (f := AuditLog.id) hmem
  rw [if_pos hid] at hrefuses
  cases hrefuses

theorem excepting_ok {caught : Fault → Bool} {handler : Fault → Handler Db α} :
    excepting h caught handler u = (.ok a, u') ↔
      h u = (.ok a, u') ∨ ∃ fault v, h u = (.error (.fault fault), v) ∧
        caught fault = true ∧ handler fault v = (.ok a, u') := by
  unfold excepting
  rw [Work.catching_ok]
  apply or_congr_right
  constructor
  · rintro ⟨e, v, k, hv, hk, hrest⟩
    cases e with
    | http status detail => cases hk
    | fault fault =>
        simp only [Option.ite_none_right_eq_some, Option.some.injEq] at hk
        obtain ⟨hcaught, rfl⟩ := hk
        exact ⟨fault, v, hv, hcaught, hrest⟩
  · rintro ⟨fault, v, hv, hcaught, hrest⟩
    exact ⟨.fault fault, v, handler fault, hv, if_pos hcaught, hrest⟩

/-- What all handlers have, the chosen one has. -/
theorem of_caught {caught : Fault → Bool} {handler : Fault → Handler Db α}
    {P : Handler Db α → Prop} (hk : ∀ fault, P (handler fault)) {e : Raised}
    {k : Handler Db α}
    (hcatch : (match e with
      | .fault f => if caught f then some (handler f) else none
      | .http .. => none) = some k) : P k := by
  cases e with
  | http status detail => cases hcatch
  | fault fault =>
      simp only [Option.ite_none_right_eq_some, Option.some.injEq] at hcatch
      rw [← hcatch.2]
      exact hk fault

theorem silent_excepting {caught : Fault → Bool}
    {handler : Fault → Handler Db α} (hs : Work.Silent h)
    (hk : ∀ fault, Work.Silent (handler fault)) :
    Work.Silent (excepting h caught handler) := by
  apply hs.catching
  intro e k hcatch
  exact of_caught hk hcatch

end LeakcheckHub.Routers
