import LeakcheckHub.Findings.Retention
import LeakcheckHub.Pages.Layout
import LeakcheckHub.Settings.Store

/-!
# Administration pages

The pages that `app/routers/admin.py`, `app/routers/audit.py` and
`app/routers/auth.py` render. The pager of the audit log and the enrollment
page with its image are not among them.

§1 the parts of the settings page · §2 the settings page · §3 the audit log ·
§4 signing in and the profile · §5 the pages are closed.
-/

namespace LeakcheckHub.Pages

open Foundation Html
open Crypto (SettingKey)
open Findings (RetentionPolicy RetentionMode)
open Routers (Branding roleValue)
open Settings (secretKeys)

/-! ## §1  The parts of the settings page -/

def roleLabel : UserRole → String
  | .user => "User"
  | .analyst => "Analyst"
  | .superAdmin => "Super admin"

/-- An `<option>` of a value that the source knows. -/
def fixedOption (value : PyStr) (label : String) (selected : Bool) : Markup :=
  [ .lit "<option value=\"", .markup value, .lit "\"",
    .lit (if selected then " selected" else ""), .lit ">", .lit label,
    .lit "</option>" ]

/-- `_role_options`. -/
def roleOptions (selected : UserRole) : Markup :=
  [UserRole.user, .analyst, .superAdmin].flatMap fun role =>
    fixedOption (roleValue role) (roleLabel role) (role = selected)

/-- `_logo_preview`. -/
def logoPreview (brand : Branding) : Markup :=
  if brand.hasLogo then
    [ .lit "<p id=\"logo-preview\"><img class=\"logo-preview\" ",
      .lit "alt=\"Current organisation logo\" ", .lit "src=\"/branding/logo?v=",
      .text (brand.logoSha256.getD []), .lit "\"></p>" ]
  else [.lit "<p id=\"logo-preview\">No logo uploaded.</p>"]

def retentionValue : RetentionMode → PyStr
  | .indefinite => PyStr.lit "indefinite"
  | .immediate => PyStr.lit "none"
  | .days => PyStr.lit "days"

def retentionLabel : RetentionMode → String
  | .indefinite => "Keep indefinitely"
  | .immediate => "Delete on remediation"
  | .days => "Delete after N days"

/-- `_retention_options`. -/
def retentionOptions (selected : RetentionMode) : Markup :=
  [RetentionMode.indefinite, .immediate, .days].flatMap fun mode =>
    fixedOption (retentionValue mode) (retentionLabel mode) (mode = selected)

/-- `RetentionPolicy.describe`. -/
def describe (policy : RetentionPolicy) : PyStr :=
  match policy.mode, policy.days with
  | .immediate, _ =>
      PyStr.lit "Remediated findings are deleted as soon as they are closed."
  | .days, some days =>
      PyStr.lit "Remediated findings are deleted " ++ PyStr.ofInt days ++
        PyStr.lit " days after remediation."
  | _, _ =>
      PyStr.lit
        "Findings are kept indefinitely. Nothing is deleted automatically."

/-- `str(days) if days else ""`. -/
def daysText : Option ℤ → PyStr
  | some days => if days = 0 then [] else PyStr.ofInt days
  | none => []

/-- Groups of three digits from the right, `","` between them. -/
def grouped (digits : PyStr) : PyStr :=
  (digits.zipIdx.flatMap fun (c, i) =>
    if i ≠ 0 ∧ (digits.length - i) % 3 = 0 then [44, c] else [c])

/-- `_quota_panel`; the time is `str` of a `datetime`. -/
def quotaPanel : Option (ℕ × PyStr) → Markup
  | none => [.lit "<p>No quota has been observed yet. Run a scan to record one.</p>"]
  | some (quota, observedAt) =>
      [ .lit "<p><strong>", .text (grouped (PyStr.ofNat quota)),
        .lit "</strong> units remaining, observed ", .text observedAt, .lit ".</p>",
        .lit "<p>The vendor reports quota one request behind, and queries returning ",
        .lit "no results cost nothing, so treat this as approximate.</p>" ]

def userRow (currentUser : User) (sessions : Uuid → ℕ) (user : User) : Markup :=
  let isSelf := user.id = currentUser.id
  cat [
  [ .lit "<tr data-user-id=\"", .text user.id.str, .lit "\">", .lit "<td>",
    .text user.email,
    .lit (if isSelf then " <span class=\"badge\">you</span>" else ""), .lit "</td>",
    .lit "<td><input name=\"display_name\" value=\"", .text user.displayName,
    .lit "\"></td>", .lit "<td><select name=\"role\"",
    .lit (if isSelf then " disabled" else ""), .lit ">" ],
  roleOptions user.role,
  [ .lit "</select></td>", .lit "<td><input type=\"checkbox\" name=\"is_active\"",
    .lit (if user.isActive then " checked" else ""),
    .lit (if isSelf then " disabled" else ""), .lit "></td>", .lit "<td>",
    .plain (number (sessions user.id)), .lit "</td>",
    .lit "<td><button type=\"button\" data-save-user>Save</button> ",
    .lit "<button type=\"button\" data-revoke-sessions>Sign out</button></td></tr>" ]]

/-- `_user_rows`. -/
def userRows (users : List User) (currentUser : User) (sessions : Uuid → ℕ) :
    Markup :=
  joined users (userRow currentUser sessions)
    [.lit "<tr><td colspan=\"6\">No users yet.</td></tr>"]

/-- `_SETTING_LABELS`, and the title of the key for the others. -/
def settingLabel : SettingKey → PyStr
  | .googleWorkspaceServiceAccountJson => PyStr.lit "Service-account JSON"
  | .googleWorkspaceDelegatedAdmin => PyStr.lit "Delegated Workspace admin email"
  | .googleWorkspaceDomains =>
      PyStr.lit "Allowed Workspace domains (comma-separated)"
  | .smtpSecurity => PyStr.lit "SMTP transport security"
  | .publicBaseUrl => PyStr.lit "Public portal base URL (HTTPS)"
  | .notifyDryRun => PyStr.lit "Notification dry-run"
  | .notifyCooldownSeconds =>
      PyStr.lit "Per-user notification cooldown (seconds)"
  | key => title (spaced (PyStr.lit key.value))

/-- `_setting_input`. -/
def settingInput (key : SettingKey) (configured : Bool) : Markup :=
  let secret := key ∈ secretKeys
  let placeholder := PyStr.lit <|
    if secret ∧ configured = true then "configured — leave blank to keep" else ""
  let name := PyStr.lit key.value
  let label := settingLabel key
  if key = .notifyDryRun then
    [ .lit "<label>", .text label, .lit " <select name=\"", .text name, .lit "\">",
      .lit "<option value=\"true\" selected>Enabled (safe default)</option>",
      .lit "<option value=\"false\">Disabled — send mail</option></select></label><br>" ]
  else if key = .smtpSecurity then
    [ .lit "<label>", .text label, .lit " <select name=\"", .text name, .lit "\">",
      .lit "<option value=\"starttls\">STARTTLS</option>",
      .lit "<option value=\"tls\">Implicit TLS</option></select></label><br>" ]
  else if key = .googleWorkspaceServiceAccountJson then
    [ .lit "<label>", .text label, .lit "<br><textarea name=\"", .text name,
      .lit "\" rows=\"8\" cols=\"72\" ", .lit "data-setting-input=\"", .text name,
      .lit "\" ", .lit "placeholder=\"", .text placeholder,
      .lit "\" autocomplete=\"off\"></textarea></label><br>" ]
  else
    [ .lit "<label>", .text label, .lit " <input type=\"",
      .lit (if secret then "password" else "text"), .lit "\" name=\"", .text name,
      .lit "\" ", .lit "data-setting-input=\"", .text name, .lit "\" ",
      .lit "placeholder=\"", .text placeholder,
      .lit "\" autocomplete=\"off\"></label><br>" ]

/-- `_workspace_help_dialog`. -/
def workspaceHelpDialog : Markup :=
  [ .lit "<dialog id=\"google-workspace-help\" aria-labelledby=\"workspace-help-title\">",
    .lit "<h2 id=\"workspace-help-title\">Set up Google Workspace OU access</h2>",
    .lit "<ol>",
    .lit "<li>In Google Cloud Console, select or create the project used by ",
    .lit "LeakCheck.</li>",
    .lit "<li>Open APIs &amp; Services, then enable the <strong>Admin SDK API</strong>.",
    .lit "</li>",
    .lit "<li>Open IAM &amp; Admin → Service Accounts and create a dedicated service ",
    .lit "account.</li>",
    .lit "<li>Open that account, enable domain-wide delegation, and copy its numeric ",
    .lit "OAuth client ID.</li>",
    .lit "<li>Open Keys → Add key → Create new key → JSON. Download it once and keep it ",
    .lit "private.</li>",
    .lit "<li>In the Google Admin console, open Security → Access and data control → ",
    .lit "API controls → Manage Domain Wide Delegation, then add the service account ",
    .lit "client ID.</li>",
    .lit "<li>Authorize exactly these comma-separated scopes:<br><code>",
    .lit "https://www.googleapis.com/auth/admin.directory.user.readonly,",
    .lit "https://www.googleapis.com/auth/admin.directory.orgunit.readonly",
    .lit "</code></li>",
    .lit "<li>Enter a dedicated Workspace admin account that the service account will ",
    .lit "impersonate. It needs permission to read users and organizational units.</li>",
    .lit "<li>Paste the <strong>entire downloaded JSON document</strong> into ",
    .lit "Service-account JSON—not only the private_key value. LeakCheck validates it, ",
    .lit "encrypts it, and never displays it again.</li>",
    .lit "</ol>",
    .lit "<p>The expected file starts with <code>\x7b\"type\":\"service_account\",",
    .lit "\"project_id\":\"…\",\"private_key_id\":\"…\",\"private_key\":\"…\",",
    .lit "\"client_email\":\"…\",\"client_id\":\"…\"\x7d</code>. Do not paste a real key ",
    .lit "into chat, tickets, or documentation.</p>",
    .lit "<form method=\"dialog\"><button type=\"submit\">Close</button></form></dialog>" ]

/-! ## §2  The settings page -/

/-- `_GOOGLE_OIDC_KEYS`. -/
def googleOidcKeys : List SettingKey :=
  [.googleClientId, .googleClientSecret, .googleRedirectUri, .googleWorkspaceDomains]

/-- `_GOOGLE_WORKSPACE_KEYS`. -/
def googleWorkspaceKeys : List SettingKey :=
  [.googleWorkspaceServiceAccountJson, .googleWorkspaceDelegatedAdmin]

def otherKeys : List SettingKey :=
  SettingKey.all.filter fun key =>
    key ∉ googleOidcKeys ∧ key ∉ googleWorkspaceKeys

def saveActions : Markup :=
  [ .lit "<p class=\"panel-actions\"><button type=\"submit\">Save</button>",
    .lit "<small>Saves every settings panel; blank fields are ",
    .lit "left unchanged.</small></p>" ]

def statusRow (configured : SettingKey → Bool) (key : SettingKey) : Markup :=
  [ .lit "<tr><td>", .text (PyStr.lit key.value),
    .lit "</td><td data-setting-status=\"", .text (PyStr.lit key.value), .lit "\">",
    .lit (if configured key then "configured" else "blank"), .lit "</td></tr>" ]

/-- What the settings page is rendered from. -/
structure SettingsView where
  configured : SettingKey → Bool
  users : List User
  retention : RetentionPolicy
  brand : Branding
  latestQuota : Option (ℕ × PyStr)
  activeSessions : Uuid → ℕ

def settingInputs (view : SettingsView) (keys : List SettingKey) : Markup :=
  keys.flatMap fun key => settingInput key (view.configured key)

def integrationPanels (view : SettingsView) : Markup := cat [
  [ .lit "<section class=\"hero compact\"><p class=\"eyebrow\">Administration</p>",
    .lit "<h1>Settings</h1><p>Configure platform integrations and user access. ",
    .lit "Secrets are encrypted at rest and are never displayed.</p></section>",
    .lit "<form id=\"settings-form\" class=\"settings-stack\">",
    .lit "<section class=\"panel\">", .lit "<h2>Google sign-in</h2>" ],
  settingInputs view googleOidcKeys,
  saveActions,
  [ .lit "</section><section class=\"panel\"><h2>Google Workspace OU sync ",
    .lit "<button type=\"button\" class=\"help-button\" ",
    .lit "aria-label=\"How to configure Google Workspace OU sync\" ",
    .lit "data-dialog-open=\"google-workspace-help\">?</button></h2>",
    .lit "<p>Read-only Directory access using domain-wide delegation.</p>" ],
  settingInputs view googleWorkspaceKeys,
  saveActions,
  [ .lit "<p><button type=\"button\" id=\"workspace-sync\">",
    .lit "Sync Workspace users now</button></p>",
    .lit "</section><section class=\"panel\"><h2>Other integrations</h2>" ],
  settingInputs view otherKeys,
  saveActions,
  [ .lit "</section></form>",
    .lit "<section class=\"panel\"><h2>SIEM test alerts</h2>",
    .lit "<p>These queue a contract-neutral test event. Delivery remains inactive until ",
    .lit "the corresponding live API contract has been verified.</p>",
    .lit "<button type=\"button\" data-test-alert=\"wazuh\">Queue Wazuh test</button>",
    .lit "<button type=\"button\" data-test-alert=\"dfir_iris\">",
    .lit "Queue DFIR-IRIS test</button>", .lit "</section>" ],
  workspaceHelpDialog ]

def retentionPanel (policy : RetentionPolicy) : Markup := cat [
  [ .lit "<section class=\"panel\"><h2>Data retention</h2>", .lit "<p>",
    .text (describe policy), .lit "</p>",
    .lit "<label>Policy <select name=\"retention_mode\" form=\"settings-form\">" ],
  retentionOptions policy.mode,
  [ .lit "</select></label>",
    .lit "<label>Days <input type=\"number\" name=\"retention_days\" min=\"1\" ",
    .lit "max=\"3650\" ", .lit "form=\"settings-form\" value=\"",
    .text (daysText policy.days), .lit "\"></label>",
    .lit "<p>Only remediated findings are deleted; an open exposure is never removed ",
    .lit "automatically. Deletion is permanent and is not written to the event trail.",
    .lit "</p>", .lit "<p class=\"panel-actions\">",
    .lit "<button type=\"submit\" form=\"settings-form\">Save</button></p>",
    .lit "</section>" ] ]

def brandingPanel (brand : Branding) : Markup := cat [
  [ .lit "<section class=\"panel\"><h2>Organisation branding</h2>",
    .lit "<p>Shown on the sign-in page. PNG, JPEG, GIF, or WebP up to 1 MB; SVG is not ",
    .lit "accepted because it can carry script.</p>", .lit "<form id=\"branding-form\">",
    .lit "<label>Organisation name <input name=\"organization_name\" ",
    .lit "maxlength=\"120\" value=\"", .text (brand.name.getD []), .lit "\"></label>",
    .lit "<label>Logo <input type=\"file\" id=\"logo-file\" ",
    .lit "accept=\"image/png,image/jpeg,", .lit "image/gif,image/webp\"></label>" ],
  logoPreview brand,
  [ .lit "<p class=\"panel-actions\"><button type=\"submit\">Save branding</button>",
    .lit "<button type=\"button\" id=\"clear-logo\">Remove logo</button></p>",
    .lit "</form></section>" ] ]

def usersPanel (view : SettingsView) (currentUser : User) : Markup := cat [
  [ .lit "</section><section class=\"panel\"><h2>Users</h2>",
    .lit "<p>Change a name, role, or access, then save the row. Granting super-admin ",
    .lit "here does not create a local password or TOTP; that account signs in through ",
    .lit "Google. Use ",
    .lit "<code>python -m app.create_superadmin</code> to add break-glass local ",
    .lit "credentials.</p>",
    .lit "<div class=\"table-wrap\"><table><thead><tr><th>Email</th><th>Name</th>",
    .lit "<th>Role</th><th>Active</th><th>Sessions</th><th></th>",
    .lit "</tr></thead><tbody>" ],
  userRows view.users currentUser view.activeSessions,
  [ .lit "</tbody></table></div></section>",
    .lit "<section class=\"panel\"><h2>Add user</h2><form id=\"user-form\">",
    .lit "<label>Email <input name=\"email\" required></label>",
    .lit "<label>Name <input name=\"display_name\" required></label>",
    .lit "<label>Role <select name=\"role\"><option value=\"user\">User</option>",
    .lit "<option value=\"analyst\">Analyst</option>",
    .lit "<option value=\"super_admin\">Super admin</option></select></label>",
    .lit "<button type=\"submit\">Add user</button></form>",
    .lit "<output id=\"result\"></output></section>" ] ]

/-- What `settings_page` renders. -/
def settingsPage (view : SettingsView) (currentUser : User) : Markup :=
  page (PyStr.lit "Settings")
    (cat [
     integrationPanels view,
     retentionPanel view.retention,
     brandingPanel view.brand,
     [.lit "<section class=\"panel\"><h2>LeakCheck quota</h2>"],
     quotaPanel view.latestQuota,
     [ .lit "</section>", .lit "<section class=\"panel\"><h2>Configuration status</h2>",
       .lit "<div class=\"table-wrap\">", .lit "<table><thead><tr>",
       .lit "<th>Setting</th><th>Status</th></tr></thead><tbody>" ],
     SettingKey.all.flatMap (statusRow view.configured),
     [.lit "</tbody></table></div>"],
     usersPanel view currentUser ])
    currentUser
    ⟨[PyStr.lit "/static/admin-settings.css?v=7"],
      [PyStr.lit "/static/admin-settings.js?v=7"]⟩

/-! ## §3  The audit log -/

/-- An entry with the address of its actor. -/
structure AuditEntry where
  at_ : Timestamp
  actorEmail : Option PyStr
  action : PyStr
  targetType : Option PyStr
  targetId : Option PyStr
  meta_ : List (PyStr × Json)

/-- `isoformat(sep=" ", timespec="seconds")`. -/
def secondsText (t : Timestamp) : PyStr :=
  match Date.timestampIsoformat t with
  | some text => text.map fun c => if c = 84 then 32 else c
  | none => []

section Audit

variable (U : UnicodeData) (floatText : BitVec 64 → PyStr)

/-- `_summarise`. -/
def summarise (entries : List (PyStr × Json)) : PyStr :=
  if entries.isEmpty then PyStr.lit "-"
  else
    let sorted := sortedEntries (entries.map fun (key, item) =>
      (key, reprValue U floatText item))
    let rendered := (PyStr.lit ", ").intercalate
      (sorted.map fun (key, text) => key ++ PyStr.lit "=" ++ text)
    if rendered.length ≤ 300 then rendered
    else rendered.take 297 ++ PyStr.lit "..."

def auditRow (entry : AuditEntry) : Markup :=
  let target := (PyStr.lit " ").intercalate
    ([entry.targetType, entry.targetId].filterMap Analyst.nonEmpty)
  [ .lit "<tr><td>", .text (secondsText entry.at_), .lit "</td><td>",
    .text ((Analyst.nonEmpty entry.actorEmail).getD (PyStr.lit "system")),
    .lit "</td><td>", .text entry.action, .lit "</td><td>",
    .text (if target.isEmpty then PyStr.lit "-" else target),
    .lit "</td><td><code>", .text (summarise U floatText entry.meta_),
    .lit "</code></td></tr>" ]

/-- `_rows`. -/
def auditRows (entries : List AuditEntry) : Markup :=
  joined entries (auditRow U floatText)
    [ .lit "<tr><td colspan=\"5\">No audit entries match these filters.</td></tr>" ]

end Audit

/-- The form above the entries, with the texts it was sent with. -/
def auditFilters (action actor since until_ : PyStr) : Markup :=
  [ .lit "<section class=\"hero compact\"><p class=\"eyebrow\">Administration</p>",
    .lit "<h1>Audit log</h1><p>Every human action and authentication event, newest ",
    .lit "first. Client addresses are stored only as a keyed hash and are never shown.",
    .lit "</p></section>",
    .lit "<form class=\"panel\" method=\"get\" action=\"/admin/audit\">",
    .lit "<label>Action <input name=\"action\" value=\"", .text action,
    .lit "\"></label>", .lit "<label>Actor email <input name=\"actor\" value=\"",
    .text actor, .lit "\"></label>",
    .lit "<label>From <input type=\"datetime-local\" name=\"since\" value=\"",
    .text since, .lit "\"></label>",
    .lit "<label>To <input type=\"datetime-local\" name=\"until\" value=\"",
    .text until_, .lit "\"></label>", .lit "<button type=\"submit\">Filter</button> ",
    .lit "<a href=\"/admin/audit\">Clear</a></form>",
    .lit "<section class=\"panel\"><div class=\"table-wrap\"><table><thead><tr>",
    .lit "<th>When</th><th>Actor</th><th>Action</th><th>Target</th><th>Detail</th>",
    .lit "</tr></thead><tbody>" ]

/-! ## §4  Signing in and the profile -/

/-- `display_name`. -/
def displayName (brand : Branding) : PyStr :=
  (Analyst.nonEmpty brand.name).getD (PyStr.lit "LeakCheck Hub")

def landingLogo (brand : Branding) : Markup :=
  if brand.hasLogo then
    [ .lit "<img class=\"org-logo\" alt=\"", .text (displayName brand), .lit "\" ",
      .lit "src=\"/branding/logo?v=", .text (brand.logoSha256.getD []), .lit "\">" ]
  else [.lit "<div class=\"brand-mark\" aria-hidden=\"true\">LC</div>"]

/-- What `landing_page` renders. -/
def landingPage (brand : Branding) : Markup := cat [
  [ .lit "<!doctype html><html lang=\"en\"><head><meta charset=\"utf-8\">",
    .lit "<meta name=\"viewport\" content=\"width=device-width,initial-scale=1\">",
    .lit "<title>Sign in · ", .text (displayName brand), .lit "</title>",
    .lit "<link rel=\"stylesheet\" href=\"/static/auth.css?v=3\"></head>",
    .lit "<body class=\"auth-page landing\"><main class=\"landing-shell\">",
    .lit "<div class=\"org-identity\">" ],
  landingLogo brand,
  [ .lit "<p class=\"org-name\">", .text (displayName brand), .lit "</p></div>",
    .lit "<h1>Sign in with Google to scan your email for leaked credentials.</h1>",
    .lit "<a class=\"google-button primary\" href=\"/auth/google/login\">",
    .lit "<span class=\"google-glyph\" aria-hidden=\"true\">G</span>",
    .lit "Sign in with Google</a>",
    .lit "<output id=\"login-result\" class=\"form-status\"></output>",
    .lit "</main>",
    .lit "<button type=\"button\" id=\"admin-toggle\" class=\"admin-corner\" ",
    .lit "aria-expanded=\"false\" aria-controls=\"admin-login\">",
    .lit "Super Admin Sign In</button>",
    .lit "<dialog id=\"admin-login\" class=\"admin-dialog\">",
    .lit "<form id=\"local-login\" class=\"auth-form\" method=\"dialog\">",
    .lit "<h2>Super Admin Sign In</h2>", .lit "<label>Email address",
    .lit "<input name=\"username\" type=\"email\" autocomplete=\"username\" required>",
    .lit "</label>", .lit "<label>Password",
    .lit "<input name=\"password\" type=\"password\" ",
    .lit "autocomplete=\"current-password\" ", .lit "required></label>",
    .lit "<label>Authenticator code <span class=\"optional\">Once MFA is enabled</span>",
    .lit "<input name=\"totp_code\" inputmode=\"numeric\" ",
    .lit "autocomplete=\"one-time-code\" ",
    .lit "maxlength=\"6\" placeholder=\"000000\"></label>",
    .lit "<div class=\"dialog-actions\"><button type=\"submit\">Sign in</button>",
    .lit "<button type=\"button\" id=\"admin-close\">Cancel</button></div></form>",
    .lit "</dialog>",
    .lit "<script src=\"/static/login.js?v=3\" defer></script></body></html>" ] ]

/-- What `profile_page` renders for a local administrator. -/
def profilePage (user : User) (mfaEnabled : Bool) : Markup :=
  page (PyStr.lit "Profile")
    [ .lit "<section class=\"hero compact\"><p class=\"eyebrow\">",
      .lit "Administrator account</p>", .lit "<h1>", .text user.email, .lit "</h1>",
      .lit "<p>Manage the security controls for this local administrator.</p></section>",
      .lit "<section class=\"profile-grid\"><article class=\"panel profile-panel\">",
      .lit "<h2>MFA</h2>", .lit "<p>Status: ",
      .lit (if mfaEnabled then "Enabled" else "Not enabled"), .lit "</p>",
      .lit (if mfaEnabled then "<span class=\"badge success\">Enabled</span>"
        else "<a class=\"button\" href=\"/account/mfa\">Enable MFA</a>"),
      .lit "</article>",
      .lit "<article class=\"panel profile-panel\"><h2>Change password</h2>",
      .lit "<form id=\"password-form\"><label>Current password",
      .lit "<input type=\"password\" name=\"current_password\" ",
      .lit "autocomplete=\"current-password\" ", .lit "required>",
      .lit "</label><label>New password<input type=\"password\" name=\"new_password\" ",
      .lit "autocomplete=\"new-password\" minlength=\"15\" required></label>",
      .lit "<label>Confirm new password<input type=\"password\" name=\"confirmation\" ",
      .lit "autocomplete=\"new-password\" minlength=\"15\" required></label>",
      .lit "<button type=\"submit\">Change password</button></form>",
      .lit "<output id=\"profile-result\" class=\"form-error\"></output></article>",
      .lit "</section>" ]
    user ⟨[], [PyStr.lit "/static/profile.js?v=3"]⟩

/-- What `mfa_setup` renders once MFA is enabled. -/
def mfaEnabledPage (user : User) : Markup :=
  page (PyStr.lit "Profile · MFA")
    [ .lit "<section class=\"hero compact\"><p class=\"eyebrow\">Account security</p>",
      .lit "<h1>MFA is enabled</h1>",
      .lit "<p>Your authenticator code is required at sign-in.</p>",
      .lit "<a class=\"button secondary\" href=\"/account/profile\">",
      .lit "Back to Profile</a></section>" ]
    user Assets.none

/-! ## §5  The pages are closed -/

section Closed

variable {U : UnicodeData} {floatText : BitVec 64 → PyStr}

theorem roleOptions_closed (selected : UserRole) : (roleOptions selected).Closed := by
  refine closed_flatMap fun role _ => ?_
  cases role
  all_goals
    cases selected
    all_goals
      simp only [Markup.Closed, fixedOption, roleValue, roleLabel, reduceCtorEq,
        decide_true, decide_false, Bool.false_eq_true, if_true, if_false, shape_nil,
        shape_lit, shape_markup]
      repeat rw [lit_ofList]
      rfl

theorem retentionOptions_closed (selected : RetentionMode) :
    (retentionOptions selected).Closed := by
  refine closed_flatMap fun mode _ => ?_
  cases mode
  all_goals
    cases selected
    all_goals
      simp only [Markup.Closed, fixedOption, retentionValue, retentionLabel,
        reduceCtorEq, decide_true, decide_false, Bool.false_eq_true, if_true,
        if_false, shape_nil, shape_lit, shape_markup]
      repeat rw [lit_ofList]
      rfl

theorem logoPreview_closed (brand : Branding) : (logoPreview brand).Closed := by
  unfold logoPreview
  split
  all_goals
    simp only [Markup.Closed, shape_nil, shape_lit, shape_text]
    repeat rw [lit_ofList]
    rfl

theorem quotaPanel_closed (latest : Option (ℕ × PyStr)) :
    (quotaPanel latest).Closed := by
  rcases latest with _ | ⟨quota, observedAt⟩
  all_goals
    simp only [Markup.Closed, quotaPanel, shape_nil, shape_lit, shape_text]
    repeat rw [lit_ofList]
    rfl

theorem userRow_closed (currentUser user : User) (sessions : Uuid → ℕ) :
    (userRow currentUser sessions user).Closed := by
  unfold userRow
  refine closed_cat_cons ?start (closed_cat_cons (roleOptions_closed _)
    (closed_cat_cons ?ending closed_cat_nil))
  case start =>
    split
    all_goals
      simp only [Markup.Closed, shape_nil, shape_lit, shape_text]
      repeat rw [lit_ofList]
      rfl
  case ending =>
    by_cases hself : user.id = currentUser.id
    all_goals
      cases user.isActive
      all_goals
        simp only [Markup.Closed, hself, Bool.false_eq_true, if_true, if_false,
          shape_nil, shape_lit, shape_plain]
        repeat rw [lit_ofList]
        rfl

theorem userRows_closed (users : List User) (currentUser : User)
    (sessions : Uuid → ℕ) : (userRows users currentUser sessions).Closed := by
  refine closed_joined (fun user _ => userRow_closed currentUser user sessions) ?_
  simp only [Markup.Closed, shape_nil, shape_lit]
  repeat rw [lit_ofList]
  rfl

theorem settingInput_closed (key : SettingKey) (configured : Bool) :
    (settingInput key configured).Closed := by
  unfold settingInput
  dsimp only
  split
  · simp only [Markup.Closed, shape_nil, shape_lit, shape_text]
    repeat rw [lit_ofList]
    rfl
  split
  · simp only [Markup.Closed, shape_nil, shape_lit, shape_text]
    repeat rw [lit_ofList]
    rfl
  split
  · simp only [Markup.Closed, shape_nil, shape_lit, shape_text]
    repeat rw [lit_ofList]
    rfl
  by_cases hsecret : key ∈ secretKeys
  all_goals
    simp only [Markup.Closed, hsecret, if_true, if_false, shape_nil, shape_lit,
      shape_text]
    repeat rw [lit_ofList]
    rfl

theorem saveActions_closed : saveActions.Closed := by
  simp only [Markup.Closed, saveActions, shape_nil, shape_lit]
  repeat rw [lit_ofList]
  rfl

theorem statusRow_closed (configured : SettingKey → Bool) (key : SettingKey) :
    (statusRow configured key).Closed := by
  unfold statusRow
  split
  all_goals
    simp only [Markup.Closed, shape_nil, shape_lit, shape_text]
    repeat rw [lit_ofList]
    rfl

theorem workspaceHelpDialog_closed : workspaceHelpDialog.Closed := by
  simp only [Markup.Closed, workspaceHelpDialog, shape_nil, shape_lit]
  repeat rw [lit_ofList]
  rfl

theorem settingInputs_closed (view : SettingsView) (keys : List SettingKey) :
    (settingInputs view keys).Closed :=
  closed_flatMap fun key _ => settingInput_closed key _

theorem integrationPanels_closed (view : SettingsView) :
    (integrationPanels view).Closed := by
  refine closed_cat_cons ?_ (closed_cat_cons (settingInputs_closed _ _)
    (closed_cat_cons saveActions_closed (closed_cat_cons ?_
    (closed_cat_cons (settingInputs_closed _ _) (closed_cat_cons saveActions_closed
    (closed_cat_cons ?_ (closed_cat_cons (settingInputs_closed _ _)
    (closed_cat_cons saveActions_closed (closed_cat_cons ?_
    (closed_cat_cons workspaceHelpDialog_closed closed_cat_nil))))))))))
  all_goals
    simp only [Markup.Closed, shape_nil, shape_lit]
    repeat rw [lit_ofList]
    rfl

theorem retentionPanel_closed (policy : RetentionPolicy) :
    (retentionPanel policy).Closed := by
  refine closed_cat_cons ?_ (closed_cat_cons (retentionOptions_closed _)
    (closed_cat_cons ?_ closed_cat_nil))
  all_goals
    simp only [Markup.Closed, shape_nil, shape_lit, shape_text]
    repeat rw [lit_ofList]
    rfl

theorem brandingPanel_closed (brand : Branding) : (brandingPanel brand).Closed := by
  refine closed_cat_cons ?_ (closed_cat_cons (logoPreview_closed _)
    (closed_cat_cons ?_ closed_cat_nil))
  all_goals
    simp only [Markup.Closed, shape_nil, shape_lit, shape_text]
    repeat rw [lit_ofList]
    rfl

theorem usersPanel_closed (view : SettingsView) (currentUser : User) :
    (usersPanel view currentUser).Closed := by
  refine closed_cat_cons ?_ (closed_cat_cons (userRows_closed _ _ _)
    (closed_cat_cons ?_ closed_cat_nil))
  all_goals
    simp only [Markup.Closed, shape_nil, shape_lit]
    repeat rw [lit_ofList]
    rfl

theorem settingsPage_closed (view : SettingsView) (currentUser : User) :
    (settingsPage view currentUser).Closed := by
  refine page_closed (closed_cat_cons (integrationPanels_closed _) (closed_cat_cons
    (retentionPanel_closed _) (closed_cat_cons (brandingPanel_closed _)
    (closed_cat_cons ?_ (closed_cat_cons (quotaPanel_closed _) (closed_cat_cons ?_
    (closed_cat_cons (closed_flatMap fun key _ => statusRow_closed _ key)
    (closed_cat_cons ?_ (closed_cat_cons (usersPanel_closed _ _)
      closed_cat_nil))))))))) _ _ _
  all_goals
    simp only [Markup.Closed, shape_nil, shape_lit]
    repeat rw [lit_ofList]
    rfl

theorem auditRows_closed (entries : List AuditEntry) :
    (auditRows U floatText entries).Closed := by
  refine closed_joined (fun entry _ => ?_) ?_
  all_goals
    simp only [Markup.Closed, auditRow, shape_nil, shape_lit, shape_text]
    repeat rw [lit_ofList]
    rfl

theorem auditFilters_closed (action actor since until_ : PyStr) :
    (auditFilters action actor since until_).Closed := by
  simp only [Markup.Closed, auditFilters, shape_nil, shape_lit, shape_text]
  repeat rw [lit_ofList]
  rfl

theorem landingLogo_closed (brand : Branding) : (landingLogo brand).Closed := by
  unfold landingLogo
  split
  all_goals
    simp only [Markup.Closed, shape_nil, shape_lit, shape_text]
    repeat rw [lit_ofList]
    rfl

theorem landingPage_closed (brand : Branding) : (landingPage brand).Closed := by
  refine closed_cat_cons ?_ (closed_cat_cons (landingLogo_closed _)
    (closed_cat_cons ?_ closed_cat_nil))
  all_goals
    simp only [Markup.Closed, shape_nil, shape_lit, shape_text]
    repeat rw [lit_ofList]
    rfl

theorem profilePage_closed (user : User) (mfaEnabled : Bool) :
    (profilePage user mfaEnabled).Closed := by
  refine page_closed ?_ _ _ _
  cases mfaEnabled
  all_goals
    simp only [Markup.Closed, Bool.false_eq_true, if_true, if_false, shape_nil,
      shape_lit, shape_text]
    repeat rw [lit_ofList]
    rfl

theorem mfaEnabledPage_closed (user : User) : (mfaEnabledPage user).Closed := by
  refine page_closed ?_ _ _ _
  simp only [Markup.Closed, shape_nil, shape_lit]
  repeat rw [lit_ofList]
  rfl

end Closed

end LeakcheckHub.Pages
