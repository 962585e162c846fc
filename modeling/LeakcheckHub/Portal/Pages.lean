import LeakcheckHub.Findings.Store
import LeakcheckHub.Foundation.Utf8

/-!
# What the portal shows

`app/user_views.py`, the responses of `app/user_ui.py` and the cooldown
setting. A whole page stands for what it is rendered from; the fragments are
their texts.

§1 responses · §2 findings · §3 fragments · §4 the cooldown setting.
-/

namespace LeakcheckHub.Portal

open Foundation Crypto Findings

/-! ## §1  Responses -/

/-- What ends a request other than by its response: an `HTTPException` with
its detail, or an exception that escapes. -/
inductive PortalError where
  | http (status : ℕ) (detail : PyStr)
  | normalization (message : String)
  | platformSetting
  | typeError
  | attributeError
  | overflow
  | store (e : IngestError)
deriving DecidableEq, Repr

/-- `serialize_user_finding`. -/
structure SerializedFinding where
  id : PyStr
  source : PyStr
  breachDate : Option PyStr
  fields : List Json
  origin : Option PyStr
  passwordMask : Option PyStr
  remediated : Bool
  reLeaked : Bool
  firstSeenAt : PyStr
  lastSeenAt : PyStr
  guidance : PyStr

inductive Body where
  | text (html : PyStr)
  | dashboardPage (user : User) (findings : List SerializedFinding)
      (canCheck : Bool)
  | progressPage (user : User) (fragment : PyStr)

structure Response where
  status : ℕ
  headers : List (PyStr × PyStr)
  body : Body

def noStore : PyStr × PyStr :=
  (PyStr.lit "Cache-Control", PyStr.lit "no-store")

/-- `_html`. -/
def html (body : Body) (headers : List (PyStr × PyStr)) : Response :=
  ⟨200, noStore :: headers, body⟩

/-- `RedirectResponse` with 303. -/
def seeOther (location : PyStr) : Response :=
  ⟨303, [noStore, (PyStr.lit "Location", location)], .text []⟩

/-! ## §2  Findings -/

section Findings

variable (U : UnicodeData)

structure UserFindingProjection where
  id : Uuid
  source : PyStr
  breachDate : Option Date
  fields : List Json
  origin : Option PyStr
  passwordMask : Option PyStr
  remediatedAt : Option Timestamp
  reLeaked : Bool
  firstSeenAt : Timestamp
  lastSeenAt : Timestamp

/-- `tuple(value)` of a `JSONB` value. -/
def tupleOf : Json → Except PortalError (List Json)
  | .arr items => .ok items
  | .obj entries => .ok (entries.map fun e => .str e.1)
  | .str s => .ok (s.map fun c => .str [c])
  | _ => .error .typeError

/-- A row of `_user_findings_statement`. -/
def projection (row : Finding × BreachSource) :
    Except PortalError UserFindingProjection := do
  let fields ← tupleOf row.1.fields
  pure
    { id := row.1.id
      source := row.2.name
      breachDate := row.2.breachDate
      fields := fields
      origin := row.1.origin
      passwordMask := row.1.passwordMask
      remediatedAt := row.1.remediatedAt
      reLeaked := row.1.severity == .high
      firstSeenAt := row.1.firstSeenAt
      lastSeenAt := row.1.lastSeenAt }

def contactFields : List PyStr :=
  ["email", "phone", "address", "name"].map PyStr.lit

/-- The `any` over the fields, which stops at the first hit. -/
def namesContact : List Json → Except PortalError Bool
  | [] => .ok false
  | .str field :: fields =>
      if contactFields.contains (U.casefold field) then .ok true
      else namesContact fields
  | _ :: _ => .error .attributeError

def remediationGuidance (item : UserFindingProjection) :
    Except PortalError PyStr :=
  if item.passwordMask.any fun mask => !mask.isEmpty then
    .ok (PyStr.lit ("Change this password anywhere it was reused, enable " ++
      "MFA, then mark the exposure fixed."))
  else do
    let contact ← namesContact U item.fields
    if contact then
      pure (PyStr.lit ("Treat unexpected messages as suspicious and verify " ++
        "requests through a known channel."))
    else
      pure (PyStr.lit ("Review the exposed fields and follow your security " ++
        "team's remediation guidance."))

def isoformat (t : Timestamp) : Except PortalError PyStr :=
  match Date.timestampIsoformat t with
  | none => .error .overflow
  | some s => .ok s

def serializeUserFinding (item : UserFindingProjection) :
    Except PortalError SerializedFinding := do
  let firstSeenAt ← isoformat item.firstSeenAt
  let lastSeenAt ← isoformat item.lastSeenAt
  let guidance ← remediationGuidance U item
  pure
    { id := item.id.str
      source := item.source
      breachDate := item.breachDate.map Date.isoformat
      fields := item.fields
      origin := item.origin
      passwordMask := item.passwordMask
      remediated := item.remediatedAt.isSome
      reLeaked := item.reLeaked
      firstSeenAt := firstSeenAt
      lastSeenAt := lastSeenAt
      guidance := guidance }

end Findings

/-! ## §3  Fragments -/

/-- `progress_fragment`. -/
def progressFragment (scan : Scan) : PyStr :=
  match scan.status with
  | .succeeded => PyStr.lit
      "<p class=\"scan-state success-text\">Complete. Loading your results…</p>"
  | .failed => PyStr.lit <|
      "<div class=\"scan-state\"><span class=\"badge danger\">Failed</span>" ++
      "<h2>The check could not be completed</h2>" ++
      "<p>No credential or vendor error detail was retained.</p>" ++
      "<a class=\"button secondary\" href=\"/portal\">Back to dashboard</a></div>"
  | status =>
      let label := if status = .running then "Running" else "Queued"
      PyStr.lit "<div class=\"scan-state\" hx-get=\"/portal/scans/" ++
        scan.id.str ++ PyStr.lit ("/status\" " ++
          "hx-trigger=\"load delay:1s\" hx-swap=\"outerHTML\">" ++
          "<span class=\"pulse\" aria-hidden=\"true\"></span><h2>" ++ label ++
          " private check</h2>" ++
          "<p>This page will update when the bounded scan finishes.</p></div>")

/-- `remediation_complete`; nothing in an identifier needs escaping. -/
def remediationComplete (findingId : PyStr) : PyStr :=
  PyStr.lit ("<div class=\"remediation-control\">" ++
      "<span class=\"badge success\">Marked fixed</span>" ++
      "<span class=\"sr-only\">Finding ") ++
    findingId ++ PyStr.lit "</span></div>"

/-! ## §4  The cooldown setting -/

section Setting

variable (env : Env) (decimal : CodePoint → Option ℕ)
  (settings : List PlatformSetting)

/-- `PlatformSettingsStore.read`. -/
def readSetting (key : SettingKey) : Except PortalError (Option PyStr) :=
  match settings.find? fun row => decide (row.key = PyStr.lit key.value) with
  | none => .ok none
  | some row =>
      match (env.aead.decrypt env.dataKey row.nonce row.ciphertext
          (settingAad key row.schemaVersion)).bind PyStr.decode with
      | none => .error .platformSetting
      | some text => .ok (some text)

/-- `_DEFAULT_COOLDOWN_SECONDS`. -/
def defaultCooldownSeconds : ℕ := 24 * 60 * 60

/-- `_MAX_COOLDOWN_SECONDS`. -/
def maxCooldownSeconds : ℕ := 30 * 24 * 60 * 60

def misconfigured : PortalError :=
  .http 503 (PyStr.lit "Self-check cooldown is misconfigured.")

/-- `_cooldown_seconds`. -/
def cooldownSeconds : Except PortalError ℕ := do
  let raw ← readSetting env settings .selfCheckCooldownSeconds
  let value ← match raw with
    | none => .ok (defaultCooldownSeconds : ℤ)
    | some raw =>
        match raw.toInt decimal with
        | none => .error misconfigured
        | some value => .ok value
  if 60 ≤ value ∧ value ≤ maxCooldownSeconds then pure value.toNat
  else .error misconfigured

end Setting

end LeakcheckHub.Portal
