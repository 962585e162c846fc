import LeakcheckHub.Accounts.Requests
import LeakcheckHub.Crypto.AssociatedData
import LeakcheckHub.Foundation.Aead
import LeakcheckHub.Foundation.Secrets

/-!
# Local sign-in

`app/auth/local.py`: password and TOTP primitives, `create_superadmin` and
`LocalAuthenticator.authenticate`, each call as the transaction it runs: a
raised exception rolls it back.

§1 settings and tables · §2 primitives · §3 throttles · §4 authenticate ·
§5 what a call returns and changes · §6 a deployment.
-/

set_option linter.unusedSectionVars false

namespace LeakcheckHub.Auth

open Foundation Accounts

/-! ## §1  Settings and tables -/

/-- The validated settings that the module reads. -/
structure LoginSettings where
  dataKey : Bytes
  adminLoginMaxFailures : ℕ
  adminLoginLockoutSeconds : ℕ
  adminLoginIpMaxFailures : ℕ
  adminLoginIpWindowSeconds : ℕ
  adminLoginIpLockoutSeconds : ℕ
  max_failures : 1 ≤ adminLoginMaxFailures ∧ adminLoginMaxFailures ≤ 20
  lockout : 60 ≤ adminLoginLockoutSeconds ∧
    adminLoginLockoutSeconds ≤ 24 * 60 * 60
  ip_max_failures : 1 ≤ adminLoginIpMaxFailures ∧
    adminLoginIpMaxFailures ≤ 100
  ip_window : 60 ≤ adminLoginIpWindowSeconds ∧
    adminLoginIpWindowSeconds ≤ 24 * 60 * 60
  ip_lockout : 60 ≤ adminLoginIpLockoutSeconds ∧
    adminLoginIpLockoutSeconds ≤ 24 * 60 * 60

/-- The settings with the libraries the module calls. -/
structure Authenticator (ops : TextOps) extends LoginSettings where
  argon2 : PasswordHasher
  aesgcm : Aead.OverBytes
  /-- HMAC-SHA1 of a key and a message. -/
  hmacSha1 : Bytes → Bytes → Bytes
  /-- `_ip_hash` past `_canonical_ip`: a keyed digest. -/
  ipDigest : PyStr → Bytes
  /-- `ipaddress.ip_address(value).compressed`; `none` is the `ValueError`. -/
  compressedIp : PyStr → Option PyStr

/-- The tables of a sign-in, by their primary keys. -/
structure LoginTables (ops : TextOps) where
  users : UserTable ops
  credentials : Uuid → Option AdminCredential
  limits : Bytes → Option AdminLoginRateLimit

/-- A body that `_read_local_login_credentials` accepts. -/
structure LoginRequest where
  username : PyStr
  password : PyStr
  totpCode : Option PyStr
  clientIp : PyStr
  username_bound : username.length ≤ 255
  encodes : password.encode.any (fun b => decide (b.length ≤ 1024)) = true
  code_bound : totpCode.all (fun c => !c.isEmpty && decide (c.length ≤ 16)) = true

namespace LoginTables

variable {ops : TextOps}

def putCredential (t : LoginTables ops) (i : Uuid) (c : AdminCredential) :
    LoginTables ops :=
  { t with credentials := Function.update t.credentials i (some c) }

def putLimit (t : LoginTables ops) (ipHash : Bytes) (b : AdminLoginRateLimit) :
    LoginTables ops :=
  { t with limits := Function.update t.limits ipHash (some b) }

/-- The row of the join of `users` and `admin_credentials` on an email. -/
def account (t : LoginTables ops) (email : PyStr) :
    Option (User × AdminCredential) :=
  (t.users.byEmail (ops.citext email)).bind fun user =>
    (t.credentials user.id).map fun credential => (user, credential)

end LoginTables

/-! ## §2  Primitives -/

section Primitives

variable {ops : TextOps} (A : Authenticator ops)

def minPasswordBytes : ℕ := 15

def maxPasswordBytes : ℕ := 1024

def hashPassword (salt : Bytes) (password : PyStr) :
    Except RequestError PyStr :=
  match password.encode with
  | none => .error .localAuthentication
  | some bytes =>
      if minPasswordBytes ≤ bytes.length ∧ bytes.length ≤ maxPasswordBytes then
        .ok (A.argon2.hash salt bytes)
      else .error .localAuthentication

/-- Its callers have encoded the password before. -/
def verifyPassword (passwordHash password : PyStr) : Bool :=
  password.encode.any (A.argon2.verify passwordHash)

def totpSecretBytes : ℕ := 20

def totpDigits : ℕ := 6

def totpPeriodSeconds : ℤ := 30

/-- `generate_totp_secret` of a draw of random bytes. -/
def generateTotpSecret (draw : Bytes) : PyStr :=
  ((b32encode draw).reverse.dropWhile (· == b32Pad)).reverse

def totpKey (secret : PyStr) : Except RequestError Bytes :=
  if !secret.isAscii || secret.length < 16 || 128 < secret.length then
    .error .localAuthentication
  else
    -- `-len(secret) % 8` characters of padding
    let pad := (8 - secret.length % 8) % 8
    match b32decode (secret ++ List.replicate pad b32Pad) with
    | none => .error .localAuthentication
    | some key =>
        if key.length ≠ totpSecretBytes then .error .localAuthentication
        else .ok key

/-- A number below `10 ^ digits`, padded with zeros. -/
def zeroPadded (digits n : ℕ) : PyStr :=
  (List.range digits).map fun i =>
    Fin.ofNat _ (48 + n / 10 ^ (digits - 1 - i) % 10)

def totpCode (secret : PyStr) (now : Timestamp) : Except RequestError PyStr := do
  -- `int()` truncates the seconds, `//` floors the periods
  let counter := Int.tdiv now 1000000 / totpPeriodSeconds
  if counter < 0 then .error .localAuthentication
  else
    let key ← totpKey secret
    let digest := A.hmacSha1 key (bigEndian 8 counter.toNat)
    let offset := (digest.getLastD 0).toNat % 16
    let truncated := ofBigEndian ((digest.drop offset).take 4) % 2 ^ 31
    .ok (zeroPadded totpDigits (truncated % 10 ^ totpDigits))

def isDigits (s : PyStr) : Bool :=
  s.all fun c => 48 ≤ c.val && c.val ≤ 57

def verifyTotp (secret suppliedCode : PyStr) (now : Timestamp) : Bool :=
  if suppliedCode.length ≠ totpDigits || !suppliedCode.isAscii ||
      !isDigits suppliedCode then false
  else
    match [-1, 0, 1].mapM fun offset =>
        totpCode A secret (now + seconds (offset * totpPeriodSeconds)) with
    | .error _ => false
    | .ok expectedCodes => expectedCodes.contains suppliedCode

/-- `secret.encode("ascii")` of an ASCII text. -/
def asciiEncode (s : PyStr) : Bytes := s.map fun c => UInt8.ofNat c.val

/-- `plaintext.decode("ascii")`. -/
def asciiDecode (s : Bytes) : Option PyStr :=
  if s.all fun b => b < 128 then some (s.map fun b => Fin.ofNat _ b.toNat)
  else none

def encryptTotpSecret (nonce : Bytes) (userId : Uuid) (secret : PyStr) :
    Except RequestError Bytes := do
  let _ ← totpKey secret
  .ok (nonce ++ A.aesgcm.encrypt A.dataKey nonce (asciiEncode secret)
    (Crypto.totpAad userId))

def decryptTotpSecret (userId : Uuid) (encrypted : Bytes) :
    Except RequestError PyStr :=
  if encrypted.length ≤ Crypto.totpNonceBytes then .error .localAuthentication
  else
    match A.aesgcm.decrypt A.dataKey (encrypted.take Crypto.totpNonceBytes)
        (encrypted.drop Crypto.totpNonceBytes) (Crypto.totpAad userId) with
    | none => .error .localAuthentication
    | some plaintext =>
        match asciiDecode plaintext with
        | none => .error .localAuthentication
        | some secret => do
            let _ ← totpKey secret
            .ok secret

def normaliseLoginEmail (ops : TextOps) (email : PyStr) : Option PyStr :=
  (normaliseAdminEmail ops email).toOption

end Primitives

/-! ## §3  Throttles -/

section Throttles

variable {ops : TextOps} (A : Authenticator ops)

def accountLockout : ℤ := seconds A.adminLoginLockoutSeconds

def ipWindow : ℤ := seconds A.adminLoginIpWindowSeconds

def ipLockout : ℤ := seconds A.adminLoginIpLockoutSeconds

/-- `_ip_hash`. -/
def ipHash (clientIp : PyStr) : Option Bytes :=
  (A.compressedIp clientIp).map A.ipDigest

/-- `_load_ip_limit`: the bucket, inserted when there is none. -/
def loadIpLimit (t : LoginTables ops) (ipHash : Bytes) (now : Timestamp) :
    AdminLoginRateLimit :=
  (t.limits ipHash).getD ⟨now, 0, none⟩

/-- `t` is set and still to come. -/
def pending (now : Timestamp) (t : Option Timestamp) : Bool :=
  t.any fun u => decide (now < u)

/-- `_reset_ip_limit_if_elapsed`. -/
def resetIpLimitIfElapsed (now : Timestamp) (b : AdminLoginRateLimit) :
    AdminLoginRateLimit :=
  if b.blockedUntil.any fun u => decide (u ≤ now) then
    { attempts := 0, blockedUntil := none, windowStartedAt := now }
  else if b.windowStartedAt + ipWindow A ≤ now then
    { b with attempts := 0, windowStartedAt := now }
  else b

/-- `_record_ip_failure`. -/
def recordIpFailure (now : Timestamp) (b : AdminLoginRateLimit) :
    AdminLoginRateLimit :=
  let b := resetIpLimitIfElapsed A now b
  let b := { b with attempts := b.attempts + 1 }
  if A.adminLoginIpMaxFailures ≤ b.attempts then
    { b with blockedUntil := some (now + ipLockout A) }
  else b

/-- An elapsed lock is lifted. -/
def unlock (c : AdminCredential) : AdminCredential :=
  if c.lockedUntil.isSome then
    { c with failedAttempts := 0, lockedUntil := none }
  else c

/-- One more failed attempt on an account. -/
def recordFailure (now : Timestamp) (c : AdminCredential) : AdminCredential :=
  let c := { c with failedAttempts := c.failedAttempts + 1 }
  if A.adminLoginMaxFailures ≤ c.failedAttempts then
    { c with lockedUntil := some (now + accountLockout A) }
  else c

end Throttles

/-! ## §4  Authenticate -/

section Authenticate

variable {ops : TextOps} (A : Authenticator ops)

/-- The ways a call returns. -/
inductive Verdict where
  | badAddress
  | throttled
  /-- The dummy verifier was tried: a malformed or unknown username, or an
  account that is not an active super-admin. -/
  | ineligible
  | locked (userId : Uuid)
  | refused (userId : Uuid)
  | accepted (user : User)
deriving DecidableEq

/-- `LocalAuthenticationResult.user`. -/
def Verdict.user : Verdict → Option User
  | .accepted user => some user
  | .badAddress | .throttled | .ineligible | .locked _ | .refused _ => none

/-- The second factor, once the password is right. -/
def totpValid (userId : Uuid) (credential : AdminCredential)
    (code : Option PyStr) (now : Timestamp) : Bool :=
  match credential.totpEnabledAt, credential.totpSecretEnc, code with
  | none, _, _ => true
  | some _, some encrypted, some code =>
      match decryptTotpSecret A userId encrypted with
      | .error _ => false
      | .ok secret => verifyTotp A secret code now
  | some _, _, _ => false

/-- `if _password_needs_rehash(…)`: the same password under a new salt. -/
def rehash (salt : Bytes) (password : PyStr) (c : AdminCredential) :
    Except RequestError AdminCredential :=
  if A.argon2.checkNeedsRehash c.passwordHash then do
    let passwordHash ← hashPassword A salt password
    .ok { c with passwordHash := passwordHash }
  else .ok c

/-- What follows the last check of a successful sign-in. -/
def succeed (salt : Bytes) (password : PyStr) (now : Timestamp) (user : User)
    (credential : AdminCredential) (t : LoginTables ops) :
    Except RequestError (Verdict × LoginTables ops) := do
  let credential ← rehash A salt password
    { credential with failedAttempts := 0, lockedUntil := none }
  let user := { user with lastLoginAt := some now }
  let users ← t.users.write user
  .ok (.accepted user, { t.putCredential user.id credential with users })

/-- From the bucket's lock on: `b` is the bucket, reset if elapsed. -/
def attempt (req : LoginRequest) (salt : Bytes) (now : Timestamp)
    (key : Bytes) (b : AdminLoginRateLimit) (t : LoginTables ops) :
    Except RequestError (Verdict × LoginTables ops) :=
  let failed := fun (verdict : Verdict) (t : LoginTables ops) =>
    .ok (verdict, t.putLimit key (recordIpFailure A now b))
  match (normaliseLoginEmail ops req.username).bind t.account with
  | none => failed .ineligible t
  | some (user, credential) =>
      if !user.isActive || user.role ≠ .superAdmin then failed .ineligible t
      else if pending now credential.lockedUntil then
        failed (.locked user.id) t
      else
        let credential := unlock credential
        if verifyPassword A credential.passwordHash req.password &&
            totpValid A user.id credential req.totpCode now then
          succeed A salt req.password now user credential (t.putLimit key b)
        else
          failed (.refused user.id)
            (t.putCredential user.id (recordFailure A now credential))

def authenticate (req : LoginRequest) (salt : Bytes) (now : Timestamp)
    (t : LoginTables ops) : Except RequestError (Verdict × LoginTables ops) :=
  match ipHash A req.clientIp with
  | none => .ok (.badAddress, t)
  | some key =>
      let b := loadIpLimit t key now
      if pending now b.blockedUntil then .ok (.throttled, t.putLimit key b)
      else attempt A req salt now key (resetIpLimitIfElapsed A now b) t

end Authenticate

/-! ## §5  What a call returns and changes -/

section Cases

variable {ops : TextOps} {A : Authenticator ops} {req : LoginRequest}
  {salt key : Bytes} {now : Timestamp} {b : AdminLoginRateLimit}
  {t t' : LoginTables ops} {v : Verdict} {user : User}
  {c c' : AdminCredential}

/-- The ways to return past the lock of the bucket `b` of `key`. -/
inductive Attempted (A : Authenticator ops) (req : LoginRequest)
    (now : Timestamp) (key : Bytes) (b : AdminLoginRateLimit)
    (t : LoginTables ops) : Verdict → LoginTables ops → Prop
  | ineligible :
      Attempted A req now key b t .ineligible
        (t.putLimit key (recordIpFailure A now b))
  | locked (user : User) (c : AdminCredential)
      (hcred : t.credentials user.id = some c)
      (hlocked : pending now c.lockedUntil = true) :
      Attempted A req now key b t (.locked user.id)
        (t.putLimit key (recordIpFailure A now b))
  | refused (user : User) (c : AdminCredential)
      (hcred : t.credentials user.id = some c)
      (hopen : pending now c.lockedUntil = false) :
      Attempted A req now key b t (.refused user.id)
        ((t.putCredential user.id (recordFailure A now (unlock c))).putLimit key
          (recordIpFailure A now b))
  | accepted (user user' : User) (c c' : AdminCredential)
      (users : UserTable ops)
      (huser : user ∈ t.users.rows)
      (hactive : user.isActive = true) (hrole : user.role = .superAdmin)
      (hcred : t.credentials user.id = some c)
      (hopen : pending now c.lockedUntil = false)
      (hpassword : verifyPassword A c.passwordHash req.password = true)
      (htotp : totpValid A user.id c req.totpCode now = true)
      (hrehash : ∃ salt, rehash A salt req.password
        { c with failedAttempts := 0, lockedUntil := none } = .ok c')
      (huser' : user' = { user with lastLoginAt := some now })
      (hwrite : t.users.write user' = .ok users) :
      Attempted A req now key b t (.accepted user')
        { (t.putLimit key b).putCredential user.id c' with users := users }

theorem unlock_passwordHash : (unlock c).passwordHash = c.passwordHash := by
  unfold unlock
  split <;> rfl

theorem totpValid_unlock {i : Uuid} {code : Option PyStr} :
    totpValid A i (unlock c) code now = totpValid A i c code now := by
  unfold unlock
  split <;> rfl

theorem unlock_reset :
    { unlock c with failedAttempts := 0, lockedUntil := none } =
      { c with failedAttempts := 0, lockedUntil := none } := by
  unfold unlock
  split <;> rfl

theorem account_spec {email : PyStr} (h : t.account email = some (user, c)) :
    user ∈ t.users.rows ∧ t.credentials user.id = some c := by
  obtain ⟨u, hu, h⟩ := Option.bind_eq_some_iff.mp h
  obtain ⟨d, hd, h⟩ := Option.map_eq_some_iff.mp h
  cases h
  exact ⟨(UserTable.byEmail_spec hu).1, hd⟩

theorem succeed_spec (h : succeed A salt req.password now user c t = .ok (v, t')) :
    ∃ c' users, rehash A salt req.password
        { c with failedAttempts := 0, lockedUntil := none } = .ok c' ∧
      t.users.write { user with lastLoginAt := some now } = .ok users ∧
      v = .accepted { user with lastLoginAt := some now } ∧
      t' = { t.putCredential user.id c' with users := users } := by
  obtain ⟨c', hrehash, h⟩ := bind_eq_ok.mp h
  obtain ⟨users, hwrite, h⟩ := bind_eq_ok.mp h
  cases h
  exact ⟨c', users, hrehash, hwrite, rfl, rfl⟩

theorem attempt_cases (h : attempt A req salt now key b t = .ok (v, t')) :
    Attempted A req now key b t v t' := by
  unfold attempt at h
  split at h
  · cases h
    exact .ineligible
  · rename_i user c hfound
    obtain ⟨email, -, haccount⟩ := Option.bind_eq_some_iff.mp hfound
    obtain ⟨huser, hcred⟩ := account_spec haccount
    split at h
    · cases h
      exact .ineligible
    · rename_i heligible
      simp only [Bool.or_eq_true, Bool.not_eq_true', decide_eq_true_eq,
        not_or, Bool.not_eq_false, not_not] at heligible
      split at h
      · rename_i hlocked
        cases h
        exact .locked user c hcred hlocked
      · rename_i hopen
        rw [Bool.not_eq_true] at hopen
        simp only at h
        split at h
        · rename_i hfactors
          rw [Bool.and_eq_true, unlock_passwordHash, totpValid_unlock]
            at hfactors
          obtain ⟨c', users, hrehash, hwrite, rfl, rfl⟩ := succeed_spec h
          rw [unlock_reset] at hrehash
          exact .accepted user _ c c' users huser heligible.1 heligible.2 hcred
            hopen hfactors.1 hfactors.2 ⟨salt, hrehash⟩ rfl hwrite
        · cases h
          exact .refused user c hcred hopen

/-- The ways a call returns, by what happens to its bucket. -/
inductive Returned (A : Authenticator ops) (req : LoginRequest)
    (now : Timestamp) (t : LoginTables ops) : Verdict → LoginTables ops → Prop
  | badAddress (haddr : ipHash A req.clientIp = none) :
      Returned A req now t .badAddress t
  | throttled (key : Bytes) (haddr : ipHash A req.clientIp = some key)
      (hblocked : pending now (loadIpLimit t key now).blockedUntil = true) :
      Returned A req now t .throttled (t.putLimit key (loadIpLimit t key now))
  | attempted (key : Bytes) (v : Verdict) (t' : LoginTables ops)
      (haddr : ipHash A req.clientIp = some key)
      (hfree : pending now (loadIpLimit t key now).blockedUntil = false)
      (hattempt : Attempted A req now key
        (resetIpLimitIfElapsed A now (loadIpLimit t key now)) t v t') :
      Returned A req now t v t'

theorem authenticate_cases (h : authenticate A req salt now t = .ok (v, t')) :
    Returned A req now t v t' := by
  unfold authenticate at h
  split at h
  · rename_i haddr
    cases h
    exact .badAddress haddr
  · rename_i key haddr
    simp only at h
    split at h
    · rename_i hblocked
      cases h
      exact .throttled key haddr hblocked
    · rename_i hfree
      exact .attempted key v t' haddr (Bool.eq_false_iff.mpr hfree)
        (attempt_cases h)

/-! ### One credential and one bucket under a call -/

@[simp] theorem credentials_putLimit :
    (t.putLimit key b).credentials = t.credentials := rfl

@[simp] theorem limits_putLimit_self :
    (t.putLimit key b).limits key = some b :=
  Function.update_self ..

@[simp] theorem credentials_putCredential_self {i : Uuid} :
    (t.putCredential i c).credentials i = some c :=
  Function.update_self ..

theorem credentials_putCredential_of_ne {i j : Uuid} (hne : i ≠ j) :
    (t.putCredential j c).credentials i = t.credentials i :=
  Function.update_of_ne hne ..

end Cases

/-! ## §6  A deployment -/

def samplePassword : PyStr := PyStr.lit "correct horse battery"

/-- Argon2id with the parameters of `_ARGON2_HASHER`. -/
def sampleHash : PasswordHasher.TestVector where
  salt := (List.range 16).map UInt8.ofNat
  password := PyStr.asciiLit "correct horse battery"
  encoded := PyStr.lit
    "$argon2id$v=19$m=65536,t=3,p=4$AAECAwQFBgcICQoLDA0ODw$WZX8Xdq9t/EPrirXlicMJpgh1wsO+4+2AmKoHxtvDrg"

/-- AES-256-GCM of the seed `GEZDGNBVGY3TQOJQGEZDGNBVGY3TQOJQ` of account 1. -/
def sampleSeed : Aead.TestVector where
  key := (List.range 32).map UInt8.ofNat
  nonce := (List.range 12).map fun i => UInt8.ofNat (1 + i)
  plain := PyStr.asciiLit "GEZDGNBVGY3TQOJQGEZDGNBVGY3TQOJQ"
  data := Crypto.totpAad 1
  cipher := [66, 175, 0, 145, 171, 218, 178, 208, 11, 251, 80, 19, 65, 92, 160, 121, 5,
    6, 187, 186, 208, 35, 18, 147, 230, 6, 202, 112, 207, 249, 60, 148, 199,
    27, 250, 80, 110, 163, 141, 161, 209, 22, 80, 189, 213, 113, 33, 249]

/-- HMAC-SHA1 of the counters 0, 1 and 2 under `12345678901234567890`. -/
def sampleHmac (_key message : Bytes) : Bytes :=
  [[204, 147, 207, 24, 80, 141, 148, 147, 76, 100, 182, 93, 139, 167, 102, 127,
      183, 205, 228, 176],
    [117, 164, 138, 25, 212, 203, 225, 0, 100, 78, 138, 193, 57, 126, 234, 116,
      122, 45, 51, 171],
    [11, 172, 183, 250, 8, 47, 239, 48, 120, 34, 17, 147, 139, 193, 197, 231,
      4, 22, 255, 68]].getD (ofBigEndian message) (List.replicate 20 0)

/-- One failed attempt per account and minute, and two per address. -/
def strict : Authenticator asciiOps where
  dataKey := (List.range 32).map UInt8.ofNat
  adminLoginMaxFailures := 1
  adminLoginLockoutSeconds := 60
  adminLoginIpMaxFailures := 2
  adminLoginIpWindowSeconds := 60
  adminLoginIpLockoutSeconds := 60
  max_failures := by decide
  lockout := by decide
  ip_max_failures := by decide
  ip_window := by decide
  ip_lockout := by decide
  argon2 := PasswordHasher.ofVectors [sampleHash] (by decide) (by decide)
  aesgcm := Aead.ofVectors [sampleSeed] (by decide) (by decide)
  hmacSha1 := sampleHmac
  ipDigest ip := ip.map fun c => UInt8.ofNat c.val
  compressedIp := some

def rootUser : User :=
  ⟨1, PyStr.lit "root@corp.example", none, PyStr.lit "Root", none, .superAdmin,
    true, .manual, 0, none⟩

/-- One super-admin with a password and no second factor. -/
def sampleTables : LoginTables asciiOps where
  users := ⟨[rootUser], by decide⟩
  credentials :=
    Function.update (fun _ => none) 1
      (some ⟨1, sampleHash.encoded, none, none, 0, none⟩)
  limits _ := none

def sampleGuess : LoginRequest where
  username := rootUser.email
  password := PyStr.lit "hunter2"
  totpCode := none
  clientIp := PyStr.lit "192.0.2.1"
  username_bound := by decide
  encodes := by decide
  code_bound := by decide

end LeakcheckHub.Auth
