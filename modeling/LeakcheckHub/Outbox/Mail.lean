import LeakcheckHub.Crypto.AssociatedData
import LeakcheckHub.Models
import Mathlib.Logic.Function.Basic

/-!
# Mail settings and the portal message

What `app/notifications.py` reads from the platform settings, and the one
message that it sends.
-/

namespace LeakcheckHub.Outbox

open Foundation Crypto

/-- `dict[SettingKey, str]`. -/
abbrev Settings : Type := SettingKey → Option PyStr

/-- `read_many(db, frozenset(SettingKey))`, over what `read` returns or
raises. -/
def readMany {ε : Type} (stored : SettingKey → Except ε (Option PyStr)) :
    Except ε Settings :=
  SettingKey.all.foldlM (fun values key => do
    let value ← stored key
    .ok (Function.update values key value)) fun _ => none

/-- What the readers raise. -/
inductive SettingError where
  | platformSetting (message : String)
  | notificationConfiguration (message : String)
  /-- The `ValueError` of `int`. -/
  | value
deriving DecidableEq, Repr

/-- `type(exc).__name__`. -/
def SettingError.name : SettingError → PyStr
  | .platformSetting _ => PyStr.lit "PlatformSettingError"
  | .notificationConfiguration _ => PyStr.lit "NotificationConfigurationError"
  | .value => PyStr.lit "ValueError"

/-- The tables that reading a stored string takes. -/
structure TextTables where
  casefold : PyStr → PyStr
  /-- The value of a decimal digit of any script. -/
  decimal : CodePoint → Option ℕ

variable (tables : TextTables)

def intOf (value : PyStr) : Except SettingError ℤ :=
  match value.toInt tables.decimal with
  | some n => .ok n
  | none => .error .value

/-- `_bool_setting`. -/
def boolSetting (value : Option PyStr) (default : Bool) :
    Except SettingError Bool :=
  match value with
  | none => .ok default
  | some value =>
      if tables.casefold value ∈
          [PyStr.lit "true", PyStr.lit "1", PyStr.lit "yes", PyStr.lit "on"] then
        .ok true
      else if tables.casefold value ∈
          [PyStr.lit "false", PyStr.lit "0", PyStr.lit "no", PyStr.lit "off"] then
        .ok false
      else .error (.platformSetting "invalid stored boolean setting")

/-- The bound of `_int_setting`: thirty days, in seconds. -/
def maxCooldownSeconds : ℤ := 30 * 24 * 60 * 60

/-- `_int_setting`. -/
def intSetting (value : Option PyStr) (default : ℤ) : Except SettingError ℤ := do
  let parsed ← match value with
    | none => .ok default
    | some value => intOf tables value
  if 0 ≤ parsed ∧ parsed ≤ maxCooldownSeconds then .ok parsed
  else .error (.platformSetting "invalid notification cooldown")

/-- The dry-run switch of `deliver_next`, which is on by default. -/
def dryRunSetting (value : Option PyStr) : Except SettingError Bool :=
  boolSetting tables value true

/-- The cooldown of `deliver_next`. -/
def cooldownSetting (value : Option PyStr) : Except SettingError ℤ :=
  intSetting tables value 86400

structure MailMessage where
  recipient : PyStr
  subject : PyStr
  body : PyStr
deriving DecidableEq, Repr

structure SMTPConfig where
  host : PyStr
  port : ℤ
  username : Option PyStr
  password : Option PyStr
  sender : PyStr
  security : PyStr
deriving DecidableEq, Repr

def smtpNotConfigured : SettingError :=
  .notificationConfiguration "SMTP is not configured"

/-- `int(values[SettingKey.SMTP_PORT])`, with both of its exceptions. -/
def smtpPort (values : Settings) : Except SettingError ℤ :=
  match (values .smtpPort).bind (PyStr.toInt tables.decimal) with
  | some port => .ok port
  | none => .error smtpNotConfigured

/-- `values[key]`. -/
def required (values : Settings) (key : SettingKey) :
    Except SettingError PyStr :=
  match values key with
  | some value => .ok value
  | none => .error smtpNotConfigured

/-- `_smtp_config`. -/
def smtpConfig (values : Settings) : Except SettingError SMTPConfig := do
  let host ← required values .smtpHost
  let port ← smtpPort tables values
  let sender ← required values .smtpFrom
  let security := (values .smtpSecurity).getD (PyStr.lit "starttls")
  if host.isEmpty || sender.isEmpty ||
      !(security == PyStr.lit "starttls" || security == PyStr.lit "tls") ||
      !(decide (1 ≤ port) && decide (port ≤ 65535)) then
    .error smtpNotConfigured
  else .ok ⟨host, port, values .smtpUsername, values .smtpPassword, sender,
    security⟩

/-- `value.rstrip("/")`. -/
def rstripSlashes (value : PyStr) : PyStr :=
  (value.reverse.dropWhile fun c => c == 47).reverse

/-- `_base_url`. -/
def baseUrl (values : Settings) : Except SettingError PyStr :=
  let value := rstripSlashes ((values .publicBaseUrl).getD [])
  if (PyStr.lit "https://").isPrefixOf value then .ok value
  else .error (.notificationConfiguration "public base URL is not configured")

def renderPortalMessage (recipient baseUrl : PyStr) : MailMessage where
  recipient := recipient
  subject := PyStr.lit "LeakCheck Hub: security action available"
  body :=
    PyStr.lit "LeakCheck Hub has security information requiring your review.\n\n" ++
    PyStr.lit "Sign in to review and remediate it: " ++ baseUrl ++
    PyStr.lit "/portal\n\n" ++
    PyStr.lit
      "For your protection, exposure details are available only after sign-in."

end LeakcheckHub.Outbox
