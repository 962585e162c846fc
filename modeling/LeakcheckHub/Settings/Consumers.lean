import LeakcheckHub.Findings.Ingest
import LeakcheckHub.Findings.Retention
import LeakcheckHub.Outbox.Delivery
import LeakcheckHub.Settings.Update
import Mathlib.Data.List.DropRight

/-!
# Consumers of the settings

What `app/scan_runtime.py`, `app/platform_settings.py`, `app/retention.py`,
`app/routers/user.py` and `app/notifications.py` make of the stored strings,
after any run of accepted updates.

§1 the LeakCheck client · §2 domains and retention · §3 stored values ·
§4 what the consumers decode · §5 the values of one payload · §6 the base URL
· §7 updates and consumers.
-/

namespace LeakcheckHub.Settings

open Foundation Crypto
open Findings (Env RetentionMode RetentionPolicy)
open Outbox (Settings SettingError TextTables SMTPConfig intOf readMany
  rstripSlashes)
open Portal (readSetting)

/-! ## §1  The LeakCheck client -/

/-- The keyword arguments of `LeakCheckClient`, with their defaults. -/
structure ClientLimits where
  requestsPerSecond : ℤ := 3
  concurrency : ℤ := 3
  maxResponseBytes : ℤ := 32 * 1024 * 1024
  maxRetries : ℤ := 3
  maxDomainPages : ℤ := 100
  circuitFailureThreshold : ℤ := 5
  circuitResetSeconds : ℤ := 30
deriving DecidableEq, Repr

structure LeakCheckClient where
  apiKey : PyStr
  limits : ClientLimits
deriving DecidableEq, Repr

inductive ClientError where
  /-- `LeakCheckConfigurationError`. -/
  | configuration (message : String)
  /-- The `ValueError` of the two constructors. -/
  | limits (message : String)
  | setting (error : SettingError)
deriving DecidableEq, Repr

/-- `LeakCheckClient.__init__`, with that of its `TokenBucket`. -/
def LeakCheckClient.new (apiKey : PyStr) (limits : ClientLimits) :
    Except ClientError LeakCheckClient :=
  if apiKey.isEmpty || decide (1024 < apiKey.length) then
    .error (.configuration "LeakCheck API key is not configured")
  else if limits.concurrency < 1 || limits.maxResponseBytes < 1 ||
      limits.maxRetries < 0 || limits.maxDomainPages < 1 then
    .error (.limits "invalid LeakCheck client limits")
  else if limits.requestsPerSecond < 1 then
    .error (.limits "rate must be at least one request per second")
  else .ok ⟨apiKey, limits⟩

section Readers

variable (tables : TextTables) (values : Settings)

/-- `_setting_int`. -/
def settingInt (key : SettingKey) (default minimum maximum : ℤ) :
    Except SettingError ℤ := do
  let value ← match values key with
    | none => .ok default
    | some raw => intOf tables raw
  if minimum ≤ value ∧ value ≤ maximum then .ok value
  else .error (.platformSetting ("invalid stored setting " ++ key.value))

/-- `client_from_platform_values`. -/
def clientFromPlatformValues : Except ClientError LeakCheckClient := do
  let rps ← (settingInt tables values .leakcheckRps 3 1 20).mapError .setting
  let concurrency ←
    (settingInt tables values .leakcheckConcurrency 3 1 50).mapError .setting
  let bytes ← (settingInt tables values .leakcheckMaxResponseBytes
    (32 * 1024 * 1024) 1024 (128 * 1024 * 1024)).mapError .setting
  LeakCheckClient.new ((values .leakcheckApiKey).getD [])
    { requestsPerSecond := rps, concurrency := concurrency,
      maxResponseBytes := bytes }

/-! ## §2  Domains and retention -/

/-- `decode_domains`. -/
def decodeDomains (value : PyStr) : Except SettingError (List PyStr) :=
  match JsonText.loads value with
  | some domains => .ok domains
  | none => .error (.platformSetting "invalid stored Google domain list")

/-- `MODE_INDEFINITE`, `MODE_NONE` and `MODE_DAYS`. -/
def modeText : RetentionMode → PyStr
  | .indefinite => PyStr.lit "indefinite"
  | .immediate => PyStr.lit "none"
  | .days => PyStr.lit "days"

def modeOf (text : PyStr) : Option RetentionMode :=
  [RetentionMode.indefinite, .immediate, .days].find? fun mode =>
    modeText mode == text

/-- `RetentionPolicy()`. -/
def keepEverything : RetentionPolicy := ⟨.indefinite, none⟩

/-- `load_policy`, over the values it reads. -/
def loadPolicy : RetentionPolicy :=
  let stored := ((values .retentionMode).filter fun text => !text.isEmpty).getD
    (modeText .indefinite)
  match modeOf stored.strip with
  | none => keepEverything
  | some mode =>
      match (values .retentionDays).map (PyStr.toInt tables.decimal) with
      | some none => keepEverything
      | days =>
          let days := days.join
          if mode == .days && days.all (· < 1) then keepEverything
          else ⟨mode, days⟩

end Readers

/-! ## §3  Stored values -/

/-- Nothing is stored, or the text of a number in this range. -/
def Number (low high : ℤ) (value : Option PyStr) : Prop :=
  ∀ text, value = some text →
    ∃ n, text = PyStr.ofInt n ∧ low ≤ n ∧ n ≤ high

/-- What accepted updates keep of the values that several consumers share. -/
structure Sound (values : Settings) : Prop where
  apiKey : ∀ key, values .leakcheckApiKey = some key →
    key ≠ [] ∧ key.length ≤ 1024
  rps : Number 1 20 (values .leakcheckRps)
  concurrency : Number 1 50 (values .leakcheckConcurrency)
  maxResponseBytes :
    Number 1024 (128 * 1024 * 1024) (values .leakcheckMaxResponseBytes)
  port : Number 1 65535 (values .smtpPort)
  security : OneOf ["starttls", "tls"] (values .smtpSecurity)
  mode : OneOf ["indefinite", "none", "days"] (values .retentionMode)
  days : Number 1 3650 (values .retentionDays)
  daysStored : values .retentionMode = some (PyStr.lit "days") →
    (values .retentionDays).isSome

/-- What was given, if anything, is what is decoded. -/
def Agrees {α : Type} (given : Option α) (decoded : α) : Prop :=
  ∀ a, given = some a → decoded = a

section StoredValues

variable {values : Settings} {p : SettingsUpdate} {low high : ℤ}
  {given : Option ℤ} {old value : Option PyStr}

theorem sound_empty : Sound fun _ => none where
  apiKey _ h := nomatch h
  rps _ h := nomatch h
  concurrency _ h := nomatch h
  maxResponseBytes _ h := nomatch h
  port _ h := nomatch h
  security _ h := nomatch h
  mode _ h := nomatch h
  days _ h := nomatch h
  daysStored h := nomatch h

/-- A number that is written over another one. -/
theorem Number.or (hold : Number low high old) (hgiven : Between low high given) :
    Number low high ((given.map PyStr.ofInt).or old) := by
  cases given with
  | none => exact hold
  | some n =>
      intro text htext
      cases htext
      obtain ⟨hlow, hhigh⟩ := hgiven n rfl
      exact ⟨n, rfl, hlow, hhigh⟩

theorem OneOf.or {options : List String} {choice : Option PyStr}
    (hold : OneOf options old) (hgiven : OneOf options choice) :
    OneOf options (choice.or old) := by
  cases choice with
  | none => exact hold
  | some text => exact hgiven

/-- What is read under a key of a number. -/
theorem number_or_eq (hvalue : value = (given.map PyStr.ofInt).or old)
    (hold : Number low high old) (hgiven : Between low high given) :
    (value = none ∧ given = none) ∨
      ∃ n, value = some (PyStr.ofInt n) ∧ low ≤ n ∧ n ≤ high ∧
        Agrees given n := by
  subst hvalue
  cases given with
  | some n =>
      obtain ⟨hlow, hhigh⟩ := hgiven n rfl
      refine .inr ⟨n, rfl, hlow, hhigh, ?_⟩
      rintro m ⟨⟩
      rfl
  | none =>
      cases old with
      | none => exact .inl ⟨rfl, rfl⟩
      | some text =>
          obtain ⟨n, rfl, hlow, hhigh⟩ := hold text rfl
          refine .inr ⟨n, rfl, hlow, hhigh, ?_⟩
          intro m hm
          cases hm

/-- **Step lemma.** An accepted payload keeps the stored values sound. -/
theorem Sound.overwrite (hs : Sound values) (hv : Validated p) :
    Sound (overwrite values p.dump) where
  apiKey key hkey := by
    rw [overwrite_of_mem nodup_dump (mem_dump p .leakcheckApiKey)] at hkey
    split at hkey
    · exact hs.apiKey key hkey
    · rename_i hwritten
      refine ⟨?_, hv.apiKey key hkey⟩
      rintro rfl
      -- a blank secret is not written
      rw [hkey] at hwritten
      exact hwritten rfl
  rps := by
    rw [overwrite_dump (by decide)]
    exact hs.rps.or hv.rps
  concurrency := by
    rw [overwrite_dump (by decide)]
    exact hs.concurrency.or hv.concurrency
  maxResponseBytes := by
    rw [overwrite_dump (by decide)]
    exact hs.maxResponseBytes.or hv.maxResponseBytes
  port := by
    rw [overwrite_dump (by decide)]
    exact hs.port.or hv.port
  security := by
    rw [overwrite_dump (by decide)]
    exact hs.security.or hv.security
  mode := by
    rw [overwrite_dump (by decide)]
    exact hs.mode.or hv.mode
  days := by
    rw [overwrite_dump (by decide)]
    exact hs.days.or hv.days
  daysStored hmode := by
    rw [overwrite_dump (by decide)] at hmode ⊢
    have hdays : p.text .retentionDays = p.retentionDays.map PyStr.ofInt := rfl
    have hgiven : p.text .retentionMode = p.retentionMode := rfl
    rw [hgiven] at hmode
    rw [hdays]
    cases hm : p.retentionMode with
    | some text =>
        rw [hm] at hmode
        have hsome := hv.daysGiven (hm.trans hmode)
        rw [Option.isSome_iff_exists] at hsome
        obtain ⟨n, hn⟩ := hsome
        rw [hn]
        rfl
    | none =>
        rw [hm] at hmode
        have hsome := hs.daysStored hmode
        cases p.retentionDays with
        | none => exact hsome
        | some n => rfl

end StoredValues

/-! ## §4  What the consumers decode -/

section Decodes

variable (env : Env) (tables : TextTables) (rows : List PlatformSetting)
  (values : Settings) (v : SettingsUpdate)

/-- A client is made for every stored key. -/
def ClientDecodes : Prop :=
  ∃ limits : ClientLimits,
    clientFromPlatformValues tables values =
      LeakCheckClient.new ((values .leakcheckApiKey).getD []) limits ∧
    (∀ key, values .leakcheckApiKey = some key →
      LeakCheckClient.new key limits = .ok ⟨key, limits⟩) ∧
    Agrees v.leakcheckRps limits.requestsPerSecond ∧
    Agrees v.leakcheckConcurrency limits.concurrency ∧
    Agrees v.leakcheckMaxResponseBytes limits.maxResponseBytes

def SelfCheckDecodes : Prop :=
  ∀ n, v.selfCheckCooldownSeconds = some n →
    ∃ cooldown : ℕ,
      Portal.cooldownSeconds env tables.decimal rows = .ok cooldown ∧
      (cooldown : ℤ) = n

def DomainsDecode : Prop :=
  ∀ domains, v.googleWorkspaceDomains = some domains →
    ∃ text, values .googleWorkspaceDomains = some text ∧
      decodeDomains text = .ok domains

def PolicyDecodes : Prop :=
  Agrees v.retentionMode (modeText (loadPolicy tables values).mode) ∧
    Agrees (v.retentionDays.map some) (loadPolicy tables values).days

def SwitchesDecode : Prop :=
  (∀ b, v.notifyDryRun = some b →
    Outbox.dryRunSetting tables (values .notifyDryRun) = .ok b) ∧
  ∀ n, v.notifyCooldownSeconds = some n →
    Outbox.cooldownSetting tables (values .notifyCooldownSeconds) = .ok n

/-- Where a host, a sender and a port are stored, and neither text is
blank. -/
def MailDecodes : Prop :=
  ∀ host sender port, values .smtpHost = some host → host ≠ [] →
    values .smtpFrom = some sender → sender ≠ [] →
    values .smtpPort = some port →
    ∃ config, Outbox.smtpConfig tables values = .ok config ∧
      config.host = host ∧ config.sender = sender ∧
      Agrees v.smtpHost config.host ∧ Agrees v.smtpFrom config.sender ∧
      Agrees v.smtpPort config.port ∧ Agrees v.smtpSecurity config.security

def BaseUrlDecodes : Prop :=
  ∀ url, v.publicBaseUrl = some url → url ≠ [] →
    Outbox.baseUrl values = .ok url

/-- Every consumer decodes what was validated. -/
structure Decoded : Prop where
  client : ClientDecodes tables values v
  selfCheck : SelfCheckDecodes env tables rows v
  domains : DomainsDecode values v
  policy : PolicyDecodes tables values v
  switches : SwitchesDecode tables values v
  mail : MailDecodes tables values v
  baseUrl : BaseUrlDecodes values v

/-- `str.casefold` of ASCII text. -/
def FoldsAscii : Prop :=
  ∀ text : PyStr, text.isAscii = true →
    tables.casefold text = text.asciiLower

end Decodes

section Consumers

variable {env : Env} {tables : TextTables} {rows : List PlatformSetting}
  {values old : Settings} {v : SettingsUpdate}

theorem intOf_ofInt {n : ℤ} (h₀ : 0 ≤ n) (h : n < 10 ^ 9) :
    intOf tables (PyStr.ofInt n) = .ok n := by
  unfold intOf
  rw [PyStr.toInt_ofInt h₀ h]

/-- A number in its range, or the default. -/
theorem settingInt_eq {key : SettingKey} {default low high : ℤ}
    {given : Option ℤ} (hvalue : (values key = none ∧ given = none) ∨
      ∃ n, values key = some (PyStr.ofInt n) ∧ low ≤ n ∧ n ≤ high ∧
        Agrees given n)
    (h₀ : 0 ≤ low) (h : high < 10 ^ 9) (hlow : low ≤ default)
    (hhigh : default ≤ high) :
    ∃ n, settingInt tables values key default low high = .ok n ∧
      low ≤ n ∧ n ≤ high ∧ Agrees given n := by
  unfold settingInt
  rcases hvalue with ⟨hnone, rfl⟩ | ⟨n, hn, hln, hnh, hagrees⟩
  · refine ⟨default, ?_, hlow, hhigh, fun m hm => nomatch hm⟩
    rw [hnone]
    exact if_pos ⟨hlow, hhigh⟩
  · refine ⟨n, ?_, hln, hnh, hagrees⟩
    rw [hn]
    show (intOf tables (PyStr.ofInt n) >>= _) = _
    rw [intOf_ofInt (by omega) (by omega)]
    exact if_pos ⟨hln, hnh⟩

theorem LeakCheckClient.new_eq_ok {key : PyStr} {limits : ClientLimits}
    (hkey : key ≠ [] ∧ key.length ≤ 1024) (hrps : 1 ≤ limits.requestsPerSecond)
    (hconcurrency : 1 ≤ limits.concurrency)
    (hbytes : 1 ≤ limits.maxResponseBytes) (hretries : 0 ≤ limits.maxRetries)
    (hpages : 1 ≤ limits.maxDomainPages) :
    LeakCheckClient.new key limits = .ok ⟨key, limits⟩ := by
  unfold LeakCheckClient.new
  rw [if_neg, if_neg, if_neg]
  · omega
  · simp only [Bool.or_eq_true, decide_eq_true_eq]
    omega
  · simp [hkey.1]
    omega

/-- A text that is written over another one. -/
theorem agrees_of_or {given old value : Option PyStr} {text : PyStr}
    (hvalue : value = given.or old) (h : value = some text) :
    Agrees given text := by
  intro a ha
  rw [hvalue, ha] at h
  exact (Option.some.inj h).symm

section Overwritten

variable (hs : Sound old) (hv : Validated v)

include hs hv

theorem client_decodes : ClientDecodes tables (overwrite old v.dump) v := by
  have hrps : ∃ n, settingInt tables (overwrite old v.dump) .leakcheckRps 3 1 20 =
      .ok n ∧ 1 ≤ n ∧ n ≤ 20 ∧ Agrees v.leakcheckRps n :=
    settingInt_eq
      (number_or_eq (overwrite_dump (by decide)) hs.rps hv.rps)
      (by decide) (by decide) (by decide) (by decide)
  have hconcurrency : ∃ n, settingInt tables (overwrite old v.dump)
      .leakcheckConcurrency 3 1 50 = .ok n ∧ 1 ≤ n ∧ n ≤ 50 ∧
        Agrees v.leakcheckConcurrency n :=
    settingInt_eq
      (number_or_eq (overwrite_dump (by decide)) hs.concurrency hv.concurrency)
      (by decide) (by decide) (by decide) (by decide)
  have hbytes : ∃ n, settingInt tables (overwrite old v.dump)
      .leakcheckMaxResponseBytes (32 * 1024 * 1024) 1024 (128 * 1024 * 1024) =
        .ok n ∧ 1024 ≤ n ∧ n ≤ 128 * 1024 * 1024 ∧
        Agrees v.leakcheckMaxResponseBytes n :=
    settingInt_eq
      (number_or_eq (overwrite_dump (by decide)) hs.maxResponseBytes
        hv.maxResponseBytes)
      (by decide) (by decide) (by decide) (by decide)
  obtain ⟨rps, hrps, hrps₁, -, hgivenRps⟩ := hrps
  obtain ⟨concurrency, hconcurrency, hconcurrency₁, -, hgivenConcurrency⟩ :=
    hconcurrency
  obtain ⟨bytes, hbytes, hbytes₁, -, hgivenBytes⟩ := hbytes
  refine ⟨⟨rps, concurrency, bytes, 3, 100, 5, 30⟩, ?_, ?_, hgivenRps,
    hgivenConcurrency, hgivenBytes⟩
  · unfold clientFromPlatformValues
    rw [hrps, hconcurrency, hbytes]
    rfl
  · intro key hkey
    apply LeakCheckClient.new_eq_ok ((hs.overwrite hv).apiKey key hkey) hrps₁
      hconcurrency₁
    · show 1 ≤ bytes
      omega
    · show (0 : ℤ) ≤ 3
      decide
    · show (1 : ℤ) ≤ 100
      decide

/-- The mode that `load_policy` reads. -/
theorem modeOf_stored : ∃ mode,
    modeOf (((overwrite old v.dump .retentionMode).filter
      fun text => !text.isEmpty).getD (modeText .indefinite)).strip = some mode ∧
    Agrees v.retentionMode (modeText mode) ∧
    (mode = .days → overwrite old v.dump .retentionMode =
      some (PyStr.lit "days")) := by
  have hmode : overwrite old v.dump .retentionMode = v.retentionMode.or _ :=
    overwrite_dump (by decide)
  cases hstored : overwrite old v.dump .retentionMode with
  | none =>
      refine ⟨.indefinite, by decide, ?_, fun h => nomatch h⟩
      intro text htext
      rw [hmode, htext] at hstored
      cases hstored
  | some text =>
      have hagrees := agrees_of_or hmode hstored
      have hone := (hs.overwrite hv).mode text hstored
      simp only [List.map_cons, List.map_nil, List.mem_cons, List.not_mem_nil,
        or_false] at hone
      rcases hone with rfl | rfl | rfl
      · exact ⟨.indefinite, by decide, hagrees, fun h => nomatch h⟩
      · exact ⟨.immediate, by decide, hagrees, fun h => nomatch h⟩
      · exact ⟨.days, by decide, hagrees, fun _ => rfl⟩

theorem policy_decodes : PolicyDecodes tables (overwrite old v.dump) v := by
  have hkey : overwrite old v.dump .retentionDays = _ :=
    overwrite_dump (by decide)
  have hdays := number_or_eq hkey hs.days hv.days
  obtain ⟨mode, hmodeOf, hagrees, hdaysMode⟩ := modeOf_stored hs hv
  unfold PolicyDecodes loadPolicy
  simp only [hmodeOf]
  rcases hdays with ⟨hnone, hgiven⟩ | ⟨n, hn, hlow, hhigh, hgiven⟩
  · have hne : mode ≠ .days := by
      intro heq
      have hsome := (hs.overwrite hv).daysStored (hdaysMode heq)
      rw [hnone] at hsome
      cases hsome
    rw [hnone, hgiven]
    have hkeeps : (mode == RetentionMode.days) = false := by
      simpa using hne
    simp only [Option.map_none, Option.join_none, hkeeps, Bool.false_and]
    exact ⟨hagrees, fun d hd => nomatch hd⟩
  · have hint : PyStr.toInt tables.decimal (PyStr.ofInt n) = some n :=
      PyStr.toInt_ofInt (by omega) (by omega)
    have hlt : decide (n < 1) = false := decide_eq_false (by omega)
    rw [hn]
    simp only [Option.map_some, hint, Option.join_some, Option.all_some, hlt,
      Bool.and_false]
    refine ⟨hagrees, ?_⟩
    intro d hd
    obtain ⟨m, hm, rfl⟩ := Option.map_eq_some_iff.mp hd
    exact congrArg some (hgiven m hm)

/-- The transport that `_smtp_config` reads. -/
theorem security_stored : ∃ security,
    (overwrite old v.dump .smtpSecurity).getD (PyStr.lit "starttls") =
      security ∧
    (security = PyStr.lit "starttls" ∨ security = PyStr.lit "tls") ∧
    Agrees v.smtpSecurity security := by
  have hsecurity : overwrite old v.dump .smtpSecurity = v.smtpSecurity.or _ :=
    overwrite_dump (by decide)
  cases hstored : overwrite old v.dump .smtpSecurity with
  | none =>
      refine ⟨_, rfl, .inl rfl, ?_⟩
      intro given hgiven
      rw [hsecurity, hgiven] at hstored
      cases hstored
  | some text =>
      refine ⟨text, rfl, ?_, agrees_of_or hsecurity hstored⟩
      have hone := (hs.overwrite hv).security text hstored
      simpa using hone

theorem mail_decodes : MailDecodes tables (overwrite old v.dump) v := by
  intro host sender port hhost hhost' hsender hsender' hport
  have hhostGiven : overwrite old v.dump .smtpHost = v.smtpHost.or _ :=
    overwrite_dump (by decide)
  have hsenderGiven : overwrite old v.dump .smtpFrom = v.smtpFrom.or _ :=
    overwrite_dump (by decide)
  have hkey : overwrite old v.dump .smtpPort = _ := overwrite_dump (by decide)
  rcases number_or_eq hkey hs.port hv.port with
    ⟨hnone, -⟩ | ⟨n, hn, hlow, hhigh, hgiven⟩
  · rw [hnone] at hport
    cases hport
  have hparsed : Outbox.smtpPort tables (overwrite old v.dump) = .ok n := by
    unfold Outbox.smtpPort
    rw [hn, Option.bind_some, PyStr.toInt_ofInt (by omega) (by omega)]
  obtain ⟨security, hstored, hchoice, hagrees⟩ := security_stored hs hv
  refine ⟨⟨host, n, overwrite old v.dump .smtpUsername,
    overwrite old v.dump .smtpPassword, sender, security⟩, ?_, rfl, rfl,
    agrees_of_or hhostGiven hhost, agrees_of_or hsenderGiven hsender, hgiven,
    hagrees⟩
  unfold Outbox.smtpConfig Outbox.required
  rw [hhost, hsender, hparsed, hstored]
  have hblank : host.isEmpty = false := by simpa using hhost'
  have hblank' : sender.isEmpty = false := by simpa using hsender'
  have hprotocol : (security == PyStr.lit "starttls" ||
      security == PyStr.lit "tls") = true := by
    rcases hchoice with rfl | rfl
    · rfl
    · rfl
  show (if _ then _ else _) = _
  rw [if_neg]
  simp [hblank, hblank', hprotocol, hlow, hhigh]

end Overwritten

/-! ## §5  The values of one payload -/

theorem domains_decode (hv : Validated v) :
    DomainsDecode (overwrite old v.dump) v := by
  intro domains hdomains
  refine ⟨JsonText.dumps domains, ?_, ?_⟩
  · rw [overwrite_dump (by decide)]
    show (v.googleWorkspaceDomains.map JsonText.dumps).or _ = _
    rw [hdomains]
    rfl
  · unfold decodeDomains
    rw [JsonText.loads_dumps (hv.domains domains hdomains)]

theorem boolSetting_strOfBool (hfold : FoldsAscii tables) {b default : Bool} :
    Outbox.boolSetting tables (some (strOfBool b)) default = .ok b := by
  have hfolded : tables.casefold (strOfBool b) =
      if b then PyStr.lit "true" else PyStr.lit "false" := by
    cases b with
    | true => exact hfold (PyStr.lit "True") (by decide)
    | false => exact hfold (PyStr.lit "False") (by decide)
  unfold Outbox.boolSetting
  simp only [hfolded]
  cases b with
  | true => rfl
  | false => rfl

theorem switches_decode (hfold : FoldsAscii tables) (hv : Validated v) :
    SwitchesDecode tables (overwrite old v.dump) v := by
  constructor
  · intro b hb
    rw [overwrite_dump (by decide)]
    show Outbox.dryRunSetting tables ((v.notifyDryRun.map strOfBool).or _) = _
    rw [hb]
    exact boolSetting_strOfBool hfold
  · intro n hn
    obtain ⟨hlow, hhigh⟩ := hv.notifyCooldown n hn
    rw [overwrite_dump (by decide)]
    show Outbox.cooldownSetting tables
      ((v.notifyCooldownSeconds.map PyStr.ofInt).or _) = _
    rw [hn]
    unfold Outbox.cooldownSetting Outbox.intSetting
    show (intOf tables (PyStr.ofInt n) >>= _) = _
    have hmax : n < 10 ^ 9 := lt_of_le_of_lt hhigh (by decide)
    rw [intOf_ofInt hlow hmax]
    exact if_pos ⟨hlow, hhigh⟩

theorem selfCheck_decodes (hv : Validated v)
    (hstores : Stores env rows (overwrite old v.dump)) :
    SelfCheckDecodes env tables rows v := by
  intro n hn
  obtain ⟨hlow, hhigh⟩ := hv.selfCheckCooldown n hn
  have hmax : n < 10 ^ 9 := lt_of_le_of_lt hhigh (by decide)
  have hpos : 0 ≤ n := le_trans (by decide) hlow
  refine ⟨n.toNat, ?_, Int.toNat_of_nonneg hpos⟩
  have hread := hstores .selfCheckCooldownSeconds
  rw [overwrite_dump (by decide)] at hread
  change readSetting env rows .selfCheckCooldownSeconds =
    .ok ((v.selfCheckCooldownSeconds.map PyStr.ofInt).or _) at hread
  rw [hn] at hread
  unfold Portal.cooldownSeconds
  rw [hread]
  simp only [Option.map_some, Option.some_or, bind, Except.bind,
    PyStr.toInt_ofInt hpos hmax]
  exact if_pos ⟨hlow, hhigh⟩

/-! ## §6  The base URL -/

theorem rstripSlashes_idem (url : PyStr) :
    rstripSlashes (rstripSlashes url) = rstripSlashes url := by
  unfold rstripSlashes
  rw [List.reverse_reverse, List.dropWhile_idempotent]

/-- `_base_url` of a stored URL that has no trailing slash. -/
theorem baseUrl_eq_ok_iff {url : PyStr}
    (hstored : values .publicBaseUrl = some url)
    (hstripped : rstripSlashes url = url) :
    Outbox.baseUrl values = .ok url ↔ PyStr.lit "https://" <+: url := by
  unfold Outbox.baseUrl
  rw [hstored, Option.getD_some, hstripped, ← List.isPrefixOf_iff_prefix]
  dsimp only
  split
  · rename_i hstarts
    simp [hstarts]
  · rename_i hstarts
    simp [hstarts]

/-- The validator takes either scheme, and the consumer one. -/
theorem baseUrl_decodes_iff {urls : ValidatorTables} {given : Option PyStr}
    (hgiven : field (validateUrl urls) given = some v.publicBaseUrl) :
    BaseUrlDecodes (overwrite old v.dump) v ↔
      ∀ url, given = some url → url ≠ [] → PyStr.lit "https://" <+: url := by
  rcases field_eq_some hgiven with ⟨rfl, hnone⟩ | ⟨url, url', rfl, hsome, hvalid⟩
  · constructor
    · intro _ url hurl
      cases hurl
    · intro _ url hurl
      rw [hnone] at hurl
      cases hurl
  · have hstripped : rstripSlashes url' = url' := by
      rw [validateUrl_eq hvalid, rstripSlashes_idem]
    have hstored : overwrite old v.dump .publicBaseUrl = some url' := by
      rw [overwrite_dump (by decide)]
      show v.publicBaseUrl.or _ = _
      rw [hsome]
      rfl
    have hreads := baseUrl_eq_ok_iff hstored hstripped
    constructor
    · rintro hdecodes _ ⟨⟩ hne
      obtain ⟨hne', hstarts⟩ := validateUrl_https_iff hvalid hne
      exact hstarts.mp (hreads.mp (hdecodes url' hsome hne'))
    · intro hhttps url₁ hurl₁ hne'
      rw [hsome, Option.some.injEq] at hurl₁
      subst hurl₁
      have hne : url ≠ [] := by
        rintro rfl
        exact hne' (validateUrl_eq hvalid)
      exact hreads.mpr
        ((validateUrl_https_iff hvalid hne).2.mpr (hhttps url rfl hne))

end Consumers

/-! ## §7  Updates and consumers -/

section Runs

variable {env : Env} {urls : ValidatorTables} {tables : TextTables}
  {request : UpdateRequest} {rows rows' : List PlatformSetting}
  {values : Settings} {accepted : SettingsUpdate}

/-- What a request that succeeds has validated and stored. -/
theorem updateSettings_eq_some
    (h : updateSettings env urls request rows = some (accepted, rows')) :
    request.payload.validate urls = some accepted ∧
      writeMany env request.draws request.actorId accepted.dump rows =
        some rows' := by
  obtain ⟨payload, hvalid, hrest⟩ := Option.bind_eq_some_iff.mp h
  obtain ⟨written, hwritten, heq⟩ := Option.bind_eq_some_iff.mp hrest
  cases heq
  exact ⟨hvalid, hwritten⟩

theorem Stores.updateSettings (hstores : Stores env rows values)
    (h : updateSettings env urls request rows = some (accepted, rows')) :
    Stores env rows' (overwrite values accepted.dump) :=
  hstores.writeMany (updateSettings_eq_some h).2

/-- **Run lemma.** The rows after any accepted updates can be read, and hold
sound values. -/
theorem exists_sound (h : (settingsUpdates env urls).Reachable rows) :
    ∃ values, Stores env rows values ∧ Sound values := by
  refine h.invariant (I := fun rows =>
    ∃ values, Stores env rows values ∧ Sound values) ?_ ?_
  · rintro rows rfl
    exact ⟨fun _ => none, stores_empty, sound_empty⟩
  · rintro rows request rows' ⟨values, hstores, hsound⟩ - hstep
    obtain ⟨⟨accepted, written⟩, hupdate, rfl⟩ :=
      Option.map_eq_some_iff.mp hstep
    have hvalid := (validate_spec (updateSettings_eq_some hupdate).1).1
    exact ⟨_, hstores.updateSettings hupdate, hsound.overwrite hvalid⟩

/-- **Validators and consumers.** After any accepted updates, what one more
update stores is read by every consumer as what was validated, exactly if its
base URL, where it has one that is not blank, starts with `https://`. -/
theorem settings_decoded_iff (hfold : FoldsAscii tables)
    (hreachable : (settingsUpdates env urls).Reachable rows)
    (hupdate : updateSettings env urls request rows = some (accepted, rows')) :
    (∃ values, readMany (readSetting env rows') = .ok values ∧
      Decoded env tables rows' values accepted) ↔
      ∀ url, request.payload.publicBaseUrl = some url → url ≠ [] →
        PyStr.lit "https://" <+: url := by
  obtain ⟨old, hold, hs⟩ := exists_sound hreachable
  have hstores := hold.updateSettings hupdate
  obtain ⟨hv, hgiven⟩ := validate_spec (updateSettings_eq_some hupdate).1
  have hbase : BaseUrlDecodes (overwrite old accepted.dump) accepted ↔ _ :=
    baseUrl_decodes_iff hgiven
  constructor
  · rintro ⟨values, hread, hdecoded⟩
    rw [hstores.readMany, Except.ok.injEq] at hread
    subst hread
    exact hbase.mp hdecoded.baseUrl
  · intro hhttps
    refine ⟨_, hstores.readMany, ?_⟩
    exact {
      client := client_decodes hs hv
      selfCheck := selfCheck_decodes hv hstores
      domains := domains_decode hv
      policy := policy_decodes hs hv
      switches := switches_decode hfold hv
      mail := mail_decodes hs hv
      baseUrl := hbase.mpr hhttps }

end Runs

/-- URLs of ASCII text without IP literals, and no service account. -/
def asciiValidators : ValidatorTables where
  ops := Accounts.asciiOps
  urls := ⟨PyStr.asciiLower, id, fun _ => false⟩
  jsonLoads := fun _ => none
  jsonDumps := fun _ => []

/-- The settings of a new deployment. -/
def sampleUpdate (publicBaseUrl : String) : UpdateRequest where
  payload :=
    { leakcheckApiKey := some (PyStr.lit "key")
      leakcheckRps := some 5
      selfCheckCooldownSeconds := some 3600
      googleWorkspaceDomains := some [PyStr.lit " Corp.Example."]
      smtpHost := some (PyStr.lit "mail.corp.example")
      smtpPort := some 465
      smtpFrom := some (PyStr.lit "hub@corp.example")
      smtpSecurity := some (PyStr.lit "tls")
      publicBaseUrl := some (PyStr.lit publicBaseUrl)
      notifyDryRun := some false
      retentionMode := some (PyStr.lit "days")
      retentionDays := some 30 }
  draws := ⟨fun _ => List.replicate 12 7, 0⟩
  actorId := 1

theorem foldsAscii_asciiTables : FoldsAscii Outbox.asciiTables :=
  fun _ _ => rfl

theorem settingsUpdates_init (env : Env) (urls : ValidatorTables) :
    (settingsUpdates env urls).Reachable [] :=
  ⟨[], rfl, .refl _⟩

/-- All of it is decoded. -/
theorem sampleUpdate_decoded : ∃ accepted rows values,
    updateSettings Findings.sampleEnv asciiValidators
      (sampleUpdate "https://hub.example/") [] = some (accepted, rows) ∧
    accepted.googleWorkspaceDomains = some [PyStr.lit "corp.example"] ∧
    accepted.publicBaseUrl = some (PyStr.lit "https://hub.example") ∧
    readMany (readSetting Findings.sampleEnv rows) = .ok values ∧
    Decoded Findings.sampleEnv Outbox.asciiTables rows values accepted := by
  have hrun : ((updateSettings Findings.sampleEnv asciiValidators
      (sampleUpdate "https://hub.example/") []).any fun x =>
        decide (x.1.googleWorkspaceDomains = some [PyStr.lit "corp.example"] ∧
          x.1.publicBaseUrl = some (PyStr.lit "https://hub.example"))) =
      true := by decide +kernel
  obtain ⟨⟨accepted, rows⟩, hupdate, hfields⟩ :=
    (Option.any_eq_true _ _).mp hrun
  obtain ⟨hdomains, hbase⟩ := of_decide_eq_true hfields
  obtain ⟨values, hread, hdecoded⟩ := (settings_decoded_iff
    foldsAscii_asciiTables (settingsUpdates_init _ _) hupdate).mpr
      (by rintro _ ⟨⟩ -; decide)
  exact ⟨accepted, rows, values, hupdate, hdomains, hbase, hread, hdecoded⟩

/-- An `http://` base URL is accepted and stored, and then refused. -/
theorem http_base_url_refused :
    ¬ ∀ (env : Env) (urls : ValidatorTables) (tables : TextTables)
      (request : UpdateRequest) (rows rows' : List PlatformSetting)
      (accepted : SettingsUpdate), FoldsAscii tables →
      (settingsUpdates env urls).Reachable rows →
      updateSettings env urls request rows = some (accepted, rows') →
      ∃ values, readMany (readSetting env rows') = .ok values ∧
        Decoded env tables rows' values accepted := by
  intro hall
  have hrun : (updateSettings Findings.sampleEnv asciiValidators
      (sampleUpdate "http://hub.example") []).isSome = true := by
    decide +kernel
  obtain ⟨⟨accepted, rows⟩, hupdate⟩ := Option.isSome_iff_exists.mp hrun
  obtain ⟨values, hread, hdecoded⟩ := hall _ _ Outbox.asciiTables _ _ _ _
    foldsAscii_asciiTables (settingsUpdates_init _ _) hupdate
  have hgiven := (validate_spec (updateSettings_eq_some hupdate).1).2
  rw [(stores_empty.updateSettings hupdate).readMany, Except.ok.injEq] at hread
  subst hread
  have hhttps := (baseUrl_decodes_iff hgiven).mp hdecoded.baseUrl _ rfl
    (List.cons_ne_nil _ _)
  exact absurd hhttps (by decide)

end LeakcheckHub.Settings
