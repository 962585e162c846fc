import LeakcheckHub.Models

/-!
# Associated data of the encrypted stores

The three encoders that bind a ciphertext to its place: a finding's password
to the finding, a platform setting to its key and schema version, a TOTP seed
to its account.
-/

namespace LeakcheckHub.Crypto

open Foundation

inductive SettingKey where
  | leakcheckApiKey
  | leakcheckRps
  | leakcheckConcurrency
  | leakcheckMaxResponseBytes
  | selfCheckCooldownSeconds
  | googleClientId
  | googleClientSecret
  | googleRedirectUri
  | googleWorkspaceDomains
  | googleWorkspaceServiceAccountJson
  | googleWorkspaceDelegatedAdmin
  | wazuhUrl
  | wazuhUsername
  | wazuhPassword
  | dfirIrisUrl
  | dfirIrisApiKey
  | dfirIrisCustomerId
  | smtpHost
  | smtpPort
  | smtpUsername
  | smtpPassword
  | smtpFrom
  | smtpSecurity
  | publicBaseUrl
  | notifyDryRun
  | notifyCooldownSeconds
  | socEmail
  | retentionMode
  | retentionDays
deriving DecidableEq, Repr

namespace SettingKey

def value : SettingKey → String
  | leakcheckApiKey => "leakcheck_api_key"
  | leakcheckRps => "leakcheck_rps"
  | leakcheckConcurrency => "leakcheck_concurrency"
  | leakcheckMaxResponseBytes => "leakcheck_max_response_bytes"
  | selfCheckCooldownSeconds => "self_check_cooldown_seconds"
  | googleClientId => "google_client_id"
  | googleClientSecret => "google_client_secret"
  | googleRedirectUri => "google_redirect_uri"
  | googleWorkspaceDomains => "google_workspace_domains"
  | googleWorkspaceServiceAccountJson =>
      "google_workspace_service_account_json"
  | googleWorkspaceDelegatedAdmin => "google_workspace_delegated_admin"
  | wazuhUrl => "wazuh_url"
  | wazuhUsername => "wazuh_username"
  | wazuhPassword => "wazuh_password"
  | dfirIrisUrl => "dfir_iris_url"
  | dfirIrisApiKey => "dfir_iris_api_key"
  | dfirIrisCustomerId => "dfir_iris_customer_id"
  | smtpHost => "smtp_host"
  | smtpPort => "smtp_port"
  | smtpUsername => "smtp_username"
  | smtpPassword => "smtp_password"
  | smtpFrom => "smtp_from"
  | smtpSecurity => "smtp_security"
  | publicBaseUrl => "public_base_url"
  | notifyDryRun => "notify_dry_run"
  | notifyCooldownSeconds => "notify_cooldown_seconds"
  | socEmail => "soc_email"
  | retentionMode => "retention_mode"
  | retentionDays => "retention_days"

def all : List SettingKey :=
  [leakcheckApiKey, leakcheckRps, leakcheckConcurrency,
    leakcheckMaxResponseBytes, selfCheckCooldownSeconds, googleClientId,
    googleClientSecret, googleRedirectUri, googleWorkspaceDomains,
    googleWorkspaceServiceAccountJson, googleWorkspaceDelegatedAdmin,
    wazuhUrl, wazuhUsername, wazuhPassword, dfirIrisUrl, dfirIrisApiKey,
    dfirIrisCustomerId, smtpHost, smtpPort, smtpUsername, smtpPassword,
    smtpFrom, smtpSecurity, publicBaseUrl, notifyDryRun,
    notifyCooldownSeconds, socEmail, retentionMode, retentionDays]

/-- `SettingKey(text)`; `none` is the `ValueError`. -/
def ofValue (text : PyStr) : Option SettingKey :=
  all.find? fun key => PyStr.lit key.value == text

end SettingKey

/-- `finding_crypto._aad`. -/
def findingAad (findingId : Uuid) : Bytes :=
  PyStr.asciiLit "leakcheck/finding-password/v1" ++ [0] ++ findingId.bytes

/-- `PlatformSettingsStore._aad`. -/
def settingAad (key : SettingKey) (schemaVersion : ℕ) : Bytes :=
  PyStr.asciiLit
    ("leakcheck/platform-setting/" ++ toString schemaVersion ++ "/" ++ key.value)

/-- `auth.local._totp_aad`. -/
def totpAad (userId : Uuid) : Bytes :=
  PyStr.asciiLit "leakcheck/admin-totp/v1/" ++ userId.bytes

/-- `_TOTP_NONCE_BYTES`. -/
def totpNonceBytes : ℕ := 12

end LeakcheckHub.Crypto
