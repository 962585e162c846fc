import LeakcheckHub.Auth.Throttling

/-!
# The second factor

The life of a local administrator's TOTP seed: `create_superadmin`,
`mfa_setup_page`, `enable_mfa`, `change_password` and `authenticate` in any
order, with arbitrary other transactions on users and buckets between them.

§1 the handlers · §2 runs · §3 what a step does to one row · §4 what holds of
an enabled second factor.
-/

set_option linter.unusedSectionVars false

namespace LeakcheckHub.Auth

open Foundation Accounts

/-! ## §1  The handlers -/

inductive CreateError where
  | superAdminAlreadyExists
  | request (e : RequestError)
deriving DecidableEq, Repr

inductive SetupResponse where
  | managedBySignInProvider
  | alreadyEnabled
  | notInitialized
  /-- The page with the provisioning URI of an email and a seed. -/
  | setup (email secret : PyStr)
deriving DecidableEq

inductive EnableResponse where
  | notReady
  | notAccepted
  | enabled
deriving DecidableEq, Repr

inductive PasswordResponse where
  | invalidRequest
  | currentNotAccepted
  | confirmationMismatch
  | newRejected
  | changed
deriving DecidableEq, Repr

section Handlers

variable {ops : TextOps} (A : Authenticator ops)

def createSuperadmin (email displayName password : PyStr) (newId : Uuid)
    (salt : Bytes) (now : Timestamp) (t : LoginTables ops) :
    Except CreateError (LoginTables ops) := do
  let email ← (normaliseAdminEmail ops email).mapError .request
  let name ← (normaliseDisplayName displayName).mapError .request
  match t.users.byEmail (ops.citext email) with
  | some _ => .error .superAdminAlreadyExists
  | none =>
      let passwordHash ← (hashPassword A salt password).mapError .request
      let name ← (bindParam (name.storeVarchar 255)).mapError .request
      let users ← (t.users.insert ⟨newId, email, none, name, none, .superAdmin,
        true, .manual, now, none⟩).mapError .request
      if (t.credentials newId).isSome then
        .error (.request (.database .uniqueViolation))
      else
        .ok { t.putCredential newId ⟨newId, passwordHash, none, none, 0, none⟩
          with users }

/-- `build_totp_provisioning_uri`, by what the URI is made of. -/
def buildTotpProvisioningUri (ops : TextOps) (email secret : PyStr) :
    Except RequestError SetupResponse := do
  let _ ← totpKey secret
  let email ← normaliseAdminEmail ops email
  .ok (.setup email secret)

def mfaSetupPage (currentUser : User) (draw nonce : Bytes)
    (t : LoginTables ops) :
    Except RequestError (SetupResponse × LoginTables ops) :=
  match t.credentials currentUser.id with
  | none => .ok (.managedBySignInProvider, t)
  | some credential =>
      if credential.totpEnabledAt.isSome then .ok (.alreadyEnabled, t)
      else
        match credential.totpSecretEnc with
        | none =>
            let secret := generateTotpSecret draw
            match encryptTotpSecret A nonce currentUser.id secret with
            | .error _ => .ok (.notInitialized, t)
            | .ok encrypted => do
                let page ← buildTotpProvisioningUri ops currentUser.email secret
                .ok (page, t.putCredential currentUser.id
                  { credential with totpSecretEnc := some encrypted })
        | some encrypted =>
            match decryptTotpSecret A currentUser.id encrypted with
            | .error _ => .ok (.notInitialized, t)
            | .ok secret => do
                let page ← buildTotpProvisioningUri ops currentUser.email secret
                .ok (page, t)

/-- The code is verified at `now`, the enrolment is stamped at `now'`. -/
def enableMfa (currentUser : User) (code : Option PyStr)
    (now now' : Timestamp) (t : LoginTables ops) :
    EnableResponse × LoginTables ops :=
  match t.credentials currentUser.id, code with
  | some credential, some code =>
      match credential.totpSecretEnc with
      | none => (.notReady, t)
      | some encrypted =>
          match decryptTotpSecret A currentUser.id encrypted with
          | .error _ => (.notReady, t)
          | .ok secret =>
              if verifyTotp A secret code now then
                (.enabled, t.putCredential currentUser.id
                  { credential with totpEnabledAt := some now' })
              else (.notAccepted, t)
  | _, _ => (.notReady, t)

/-- A password that encodes to at most 1024 bytes. -/
def acceptable (password : PyStr) : Bool :=
  password.encode.any fun bytes => decide (bytes.length ≤ 1024)

def changePassword (currentUser : User)
    (currentPassword newPassword confirmation : PyStr) (salt : Bytes)
    (t : LoginTables ops) : PasswordResponse × LoginTables ops :=
  if !(acceptable currentPassword && acceptable newPassword &&
      acceptable confirmation) then (.invalidRequest, t)
  else
    match t.credentials currentUser.id with
    | none => (.currentNotAccepted, t)
    | some credential =>
        if !verifyPassword A credential.passwordHash currentPassword then
          (.currentNotAccepted, t)
        else if newPassword ≠ confirmation then (.confirmationMismatch, t)
        else
          match hashPassword A salt newPassword with
          | .error _ => (.newRejected, t)
          | .ok passwordHash =>
              (.changed, t.putCredential currentUser.id
                { credential with passwordHash })

end Handlers

/-! ## §2  Runs -/

inductive MfaAction (ops : TextOps) where
  | createSuperadmin (email displayName password : PyStr) (newId : Uuid)
      (salt : Bytes)
  | mfaSetupPage (userId : Uuid) (draw nonce : Bytes)
  | enableMfa (userId : Uuid) (code : Option PyStr) (delay : ℕ)
  | changePassword (userId : Uuid)
      (currentPassword newPassword confirmation : PyStr) (salt : Bytes)
  | authenticate (req : LoginRequest) (salt : Bytes)
  /-- A transaction that writes users and buckets only. -/
  | edit (users : UserTable ops) (limits : Bytes → Option AdminLoginRateLimit)
  | tick (dt : ℕ)

/-- What became of an account: the password last set, and the codes that
`enable_mfa` has accepted, with their instants. -/
structure MfaLog where
  password : Option Bytes
  accepted : List (PyStr × Timestamp)
deriving DecidableEq

section Runs

variable {ops : TextOps} (A : Authenticator ops) (account : Uuid)

/-- The user of a live session. -/
def signedIn (t : LoginTables ops) (userId : Uuid) : Option User :=
  (t.users.byId userId).filter fun user => user.isActive

/-- A request that raises is rolled back. -/
def Logins.mfaStep (s : Logins ops) : MfaAction ops → Option (Logins ops)
  | .createSuperadmin email displayName password newId salt =>
      match createSuperadmin A email displayName password newId salt s.now
          s.tables with
      | .error _ => some s
      | .ok tables => some { s with tables }
  | .mfaSetupPage userId draw nonce => do
      let currentUser ← signedIn s.tables userId
      match mfaSetupPage A currentUser draw nonce s.tables with
      | .error _ => some s
      | .ok (_, tables) => some { s with tables }
  | .enableMfa userId code delay => do
      let currentUser ← signedIn s.tables userId
      some { tables := (enableMfa A currentUser code s.now (s.now + delay)
               s.tables).2
             now := s.now + delay }
  | .changePassword userId currentPassword newPassword confirmation salt => do
      let currentUser ← signedIn s.tables userId
      some { s with
        tables := (changePassword A currentUser currentPassword newPassword
          confirmation salt s.tables).2 }
  | .authenticate req salt => s.step A (.authenticate req salt)
  | .edit users limits => some { s with tables := { s.tables with users, limits } }
  | .tick dt => some { s with now := s.now + dt }

def MfaLog.note (s : Logins ops) (log : MfaLog) : MfaAction ops → MfaLog
  | .createSuperadmin email displayName password newId salt =>
      match createSuperadmin A email displayName password newId salt s.now
          s.tables with
      | .error _ => log
      | .ok _ =>
          if newId = account then { log with password := password.encode }
          else log
  | .enableMfa userId code delay =>
      match signedIn s.tables userId, code with
      | some currentUser, some supplied =>
          if (enableMfa A currentUser code s.now (s.now + delay) s.tables).1 =
              .enabled ∧ currentUser.id = account then
            { log with accepted := (supplied, s.now) :: log.accepted }
          else log
      | _, _ => log
  | .changePassword userId currentPassword newPassword confirmation salt =>
      match signedIn s.tables userId with
      | some currentUser =>
          if (changePassword A currentUser currentPassword newPassword
              confirmation salt s.tables).1 = .changed ∧
              currentUser.id = account then
            { log with password := newPassword.encode }
          else log
      | none => log
  | .mfaSetupPage _ _ _ | .authenticate _ _ | .edit _ _ | .tick _ => log

/-- Runs that start before the account has a credential. -/
def enrolment : System (Recorded (Logins ops) MfaLog) (MfaAction ops) where
  init x := x.state.tables.credentials account = none ∧ x.history = ⟨none, []⟩
  step x a := (x.state.mfaStep A a).map fun t =>
    ⟨t, MfaLog.note A account x.state x.history a⟩

end Runs

/-! ## §3  What a step does to one row -/

section Rows

variable {ops : TextOps} {A : Authenticator ops} {account : Uuid}
  {log log' : MfaLog} {now : Timestamp} {r r' : Option AdminCredential}
  {t t' : LoginTables ops} {user : User} {salt : Bytes}

/-- The ways in which a step treats the credential of an account. -/
inductive RowChange (A : Authenticator ops) (account : Uuid) (log : MfaLog)
    (now : Timestamp) : Option AdminCredential → Option AdminCredential →
    MfaLog → Prop
  | kept (r : Option AdminCredential) : RowChange A account log now r r log
  | created (salt bytes : Bytes) :
      RowChange A account log now none
        (some ⟨account, A.argon2.hash salt bytes, none, none, 0, none⟩)
        { log with password := some bytes }
  | seeded (c : AdminCredential) (encrypted : Bytes)
      (hnone : c.totpSecretEnc = none) :
      RowChange A account log now (some c)
        (some { c with totpSecretEnc := some encrypted }) log
  | enabled (c : AdminCredential) (encrypted : Bytes) (secret code : PyStr)
      (now' : Timestamp) (hseed : c.totpSecretEnc = some encrypted)
      (hsecret : decryptTotpSecret A account encrypted = .ok secret)
      (hcode : verifyTotp A secret code now = true) :
      RowChange A account log now (some c)
        (some { c with totpEnabledAt := some now' })
        { log with accepted := (code, now) :: log.accepted }
  | passwordChanged (c : AdminCredential) (salt bytes : Bytes) :
      RowChange A account log now (some c)
        (some { c with passwordHash := A.argon2.hash salt bytes })
        { log with password := some bytes }
  | signedIn (c : AdminCredential) (f : ℕ) (u : Option Timestamp)
      (passwordHash : PyStr)
      (hhash : passwordHash = c.passwordHash ∨
        ∃ salt bytes, passwordHash = A.argon2.hash salt bytes ∧
          A.argon2.verify c.passwordHash bytes = true) :
      RowChange A account log now (some c)
        (some { c with
          failedAttempts := f
          lockedUntil := u
          passwordHash := passwordHash })
        log

theorem hashPassword_spec {password passwordHash : PyStr}
    (h : hashPassword A salt password = .ok passwordHash) :
    ∃ bytes, password.encode = some bytes ∧
      passwordHash = A.argon2.hash salt bytes := by
  unfold hashPassword at h
  split at h
  · cases h
  · rename_i bytes hbytes
    split at h
    · cases h
      exact ⟨bytes, hbytes, rfl⟩
    · cases h

theorem createSuperadmin_spec {email displayName password : PyStr}
    {newId : Uuid}
    (h : createSuperadmin A email displayName password newId salt now t =
      .ok t') :
    ∃ bytes, password.encode = some bytes ∧ t.credentials newId = none ∧
      t'.credentials = (t.putCredential newId
        ⟨newId, A.argon2.hash salt bytes, none, none, 0, none⟩).credentials := by
  obtain ⟨e, -, h⟩ := bind_eq_ok.mp h
  obtain ⟨name, -, h⟩ := bind_eq_ok.mp h
  split at h
  · cases h
  · obtain ⟨passwordHash, hhash, h⟩ := bind_eq_ok.mp h
    obtain ⟨stored, -, h⟩ := bind_eq_ok.mp h
    obtain ⟨users, -, h⟩ := bind_eq_ok.mp h
    obtain ⟨bytes, hbytes, rfl⟩ := hashPassword_spec (mapError_eq_ok.mp hhash)
    split at h
    · cases h
    · rename_i hfree
      cases h
      exact ⟨bytes, hbytes, by simpa using hfree, rfl⟩

theorem mfaSetupPage_spec {draw nonce : Bytes} {page : SetupResponse}
    (h : mfaSetupPage A user draw nonce t = .ok (page, t')) :
    t' = t ∨ ∃ c encrypted, t.credentials user.id = some c ∧
      c.totpSecretEnc = none ∧
      t' = t.putCredential user.id { c with totpSecretEnc := some encrypted } := by
  unfold mfaSetupPage at h
  split at h
  · cases h
    exact .inl rfl
  · rename_i c hcred
    split at h
    · cases h
      exact .inl rfl
    · split at h
      · rename_i hnone
        simp only at h
        split at h
        · cases h
          exact .inl rfl
        · rename_i encrypted hencrypted
          obtain ⟨page', -, h⟩ := bind_eq_ok.mp h
          cases h
          exact .inr ⟨c, encrypted, hcred, hnone, rfl⟩
      · split at h
        · cases h
          exact .inl rfl
        · obtain ⟨page', -, h⟩ := bind_eq_ok.mp h
          cases h
          exact .inl rfl

/-- `enable_mfa` either stamps a row whose seed has produced the code, or
leaves the tables alone. -/
theorem enableMfa_spec (A : Authenticator ops) (user : User)
    (code : Option PyStr) (now now' : Timestamp) (t : LoginTables ops) :
    (∃ c encrypted secret supplied, t.credentials user.id = some c ∧
      code = some supplied ∧ c.totpSecretEnc = some encrypted ∧
      decryptTotpSecret A user.id encrypted = .ok secret ∧
      verifyTotp A secret supplied now = true ∧
      enableMfa A user code now now' t = (.enabled,
        t.putCredential user.id { c with totpEnabledAt := some now' })) ∨
    ((enableMfa A user code now now' t).1 ≠ .enabled ∧
      (enableMfa A user code now now' t).2 = t) := by
  unfold enableMfa
  split
  · rename_i c supplied hcred
    split
    · exact .inr ⟨nofun, rfl⟩
    · rename_i encrypted hseed
      split
      · exact .inr ⟨nofun, rfl⟩
      · rename_i secret hsecret
        split
        · rename_i hcode
          exact .inl ⟨c, encrypted, secret, supplied, hcred, rfl, hseed, hsecret,
            hcode, rfl⟩
        · exact .inr ⟨nofun, rfl⟩
  · exact .inr ⟨nofun, rfl⟩

theorem changePassword_spec (A : Authenticator ops) (user : User)
    (current new confirmation : PyStr) (salt : Bytes) (t : LoginTables ops) :
    (∃ c bytes, t.credentials user.id = some c ∧ new.encode = some bytes ∧
      changePassword A user current new confirmation salt t = (.changed,
        t.putCredential user.id
          { c with passwordHash := A.argon2.hash salt bytes })) ∨
    ((changePassword A user current new confirmation salt t).1 ≠ .changed ∧
      (changePassword A user current new confirmation salt t).2 = t) := by
  unfold changePassword
  split
  · exact .inr ⟨nofun, rfl⟩
  · split
    · exact .inr ⟨nofun, rfl⟩
    · rename_i c hcred
      split
      · exact .inr ⟨nofun, rfl⟩
      · split
        · exact .inr ⟨nofun, rfl⟩
        · split
          · exact .inr ⟨nofun, rfl⟩
          · rename_i passwordHash hhash
            obtain ⟨bytes, hbytes, rfl⟩ := hashPassword_spec hhash
            exact .inl ⟨c, bytes, hcred, hbytes, rfl⟩

/-- A row is rehashed from the password that it has just verified. -/
theorem rehash_spec {password : PyStr} {c c' : AdminCredential}
    (hverify : verifyPassword A c.passwordHash password = true)
    (h : rehash A salt password c = .ok c') :
    ∃ passwordHash, c' = { c with passwordHash := passwordHash } ∧
      (passwordHash = c.passwordHash ∨ ∃ salt bytes,
        passwordHash = A.argon2.hash salt bytes ∧
          A.argon2.verify c.passwordHash bytes = true) := by
  unfold rehash at h
  split at h
  · obtain ⟨passwordHash, hhash, h⟩ := bind_eq_ok.mp h
    cases h
    obtain ⟨bytes, hbytes, heq⟩ := hashPassword_spec hhash
    rw [verifyPassword, hbytes, Option.any_some] at hverify
    exact ⟨passwordHash, rfl, .inr ⟨salt, bytes, heq, hverify⟩⟩
  · cases h
    exact ⟨c.passwordHash, rfl, .inl rfl⟩

/-- A handler that writes one row changes an account if the row is its own. -/
theorem rowChange_put {i : Uuid} {c : AdminCredential}
    (hown : account = i →
      RowChange A account log now (t.credentials account) (some c) log')
    (hother : account ≠ i → log' = log) :
    RowChange A account log now (t.credentials account)
      ((t.putCredential i c).credentials account) log' := by
  by_cases hid : account = i
  · have hchange := hown hid
    rw [hid] at hchange ⊢
    rw [credentials_putCredential_self]
    exact hchange
  · rw [credentials_putCredential_of_ne hid, hother hid]
    exact .kept _

/-- A sign-in changes counters, and rehashes. -/
theorem rowChange_of_returned {req : LoginRequest} {v : Verdict}
    (h : Returned A req now t v t') :
    RowChange A account log now (t.credentials account)
      (t'.credentials account) log := by
  cases h with
  | badAddress => exact .kept _
  | throttled => exact .kept _
  | attempted key v t' haddr hfree hattempt =>
      cases hattempt with
      | ineligible => exact .kept _
      | locked => exact .kept _
      | refused user c hcred hopen =>
          rw [credentials_putLimit]
          refine rowChange_put (fun hid => ?_) fun _ => rfl
          have hrow : recordFailure A now (unlock c) =
              { c with
                failedAttempts := (recordFailure A now (unlock c)).failedAttempts
                lockedUntil := (recordFailure A now (unlock c)).lockedUntil
                passwordHash := c.passwordHash } := by
            unfold recordFailure unlock
            simp only
            split <;> split <;> rfl
          rw [hid, hcred, hrow]
          exact .signedIn c _ _ _ (.inl rfl)
      | accepted user user' c c' users huser hactive hrole hcred hopen hpassword
          htotp hrehash huser' hwrite =>
          obtain ⟨salt, hrehash⟩ := hrehash
          obtain ⟨passwordHash, rfl, hhash⟩ := rehash_spec
            (c := { c with failedAttempts := 0, lockedUntil := none })
            hpassword hrehash
          refine rowChange_put (fun hid => ?_) fun _ => rfl
          rw [hid, hcred]
          exact .signedIn c 0 none passwordHash hhash

variable {x y : Recorded (Logins ops) MfaLog} {a : MfaAction ops}

theorem rowChange_of_step (h : (enrolment A account).step x a = some y) :
    RowChange A account x.history x.state.now
      (x.state.tables.credentials account)
      (y.state.tables.credentials account) y.history := by
  obtain ⟨s, hs, rfl⟩ := Option.map_eq_some_iff.mp h
  cases a with
  | createSuperadmin email displayName password newId salt =>
      simp only [Logins.mfaStep] at hs
      simp only [MfaLog.note]
      cases hcreate : createSuperadmin A email displayName password newId salt
          x.state.now x.state.tables with
      | error e =>
          rw [hcreate, Option.some.injEq] at hs
          rw [← hs]
          exact .kept _
      | ok t =>
          rw [hcreate, Option.some.injEq] at hs
          obtain ⟨bytes, hbytes, hfree, hcred⟩ := createSuperadmin_spec hcreate
          rw [← hs]
          simp only [hcred]
          refine rowChange_put (fun hid => ?_) fun hid => if_neg (Ne.symm hid)
          subst hid
          rw [hfree, if_pos rfl, hbytes]
          exact .created salt bytes
  | mfaSetupPage userId draw nonce =>
      obtain ⟨user, huser, hs⟩ := Option.bind_eq_some_iff.mp hs
      simp only [MfaLog.note]
      cases hpage : mfaSetupPage A user draw nonce x.state.tables with
      | error e =>
          rw [hpage, Option.some.injEq] at hs
          rw [← hs]
          exact .kept _
      | ok r =>
          obtain ⟨page, t⟩ := r
          rw [hpage, Option.some.injEq] at hs
          rw [← hs]
          rcases mfaSetupPage_spec hpage with rfl | ⟨c, encrypted, hcred, hnone, rfl⟩
          · exact .kept _
          · refine rowChange_put (fun hid => ?_) fun _ => rfl
            rw [hid, hcred]
            exact .seeded c encrypted hnone
  | enableMfa userId code delay =>
      obtain ⟨user, huser, hs⟩ := Option.bind_eq_some_iff.mp hs
      rw [Option.some.injEq] at hs
      rw [← hs]
      simp only [MfaLog.note, huser]
      rcases enableMfa_spec A user code x.state.now (x.state.now + delay)
          x.state.tables with
        ⟨c, encrypted, secret, supplied, hcred, rfl, hseed, hsecret, hcode, heq⟩ |
        ⟨hfailed, hsame⟩
      · simp only [heq, true_and]
        refine rowChange_put (fun hid => ?_) fun hid => if_neg (Ne.symm hid)
        subst hid
        rw [hcred, if_pos rfl]
        exact .enabled c encrypted secret supplied _ hseed hsecret hcode
      · rw [hsame]
        cases code with
        | none => exact .kept _
        | some supplied =>
            simp only [hfailed, false_and, if_false]
            exact .kept _
  | changePassword userId current new confirmation salt =>
      obtain ⟨user, huser, hs⟩ := Option.bind_eq_some_iff.mp hs
      rw [Option.some.injEq] at hs
      rw [← hs]
      simp only [MfaLog.note, huser]
      rcases changePassword_spec A user current new confirmation salt
          x.state.tables with ⟨c, bytes, hcred, hbytes, heq⟩ | ⟨hfailed, hsame⟩
      · simp only [heq, true_and]
        refine rowChange_put (fun hid => ?_) fun hid => if_neg (Ne.symm hid)
        subst hid
        rw [hcred, if_pos rfl, hbytes]
        exact .passwordChanged c salt bytes
      · rw [hsame]
        simp only [hfailed, false_and, if_false]
        exact .kept _
  | authenticate req salt =>
      simp only [MfaLog.note]
      rcases step_authenticate hs with ⟨-, rfl⟩ | ⟨v, t, -, rfl, hret⟩
      · exact .kept _
      · exact rowChange_of_returned hret
  | edit users limits =>
      cases hs
      exact .kept _
  | tick dt =>
      cases hs
      exact .kept _

end Rows

/-! ## §4  What holds of an enabled second factor -/

section Enforced

variable {ops : TextOps} {A : Authenticator ops} {account : Uuid}
  {x y : Recorded (Logins ops) MfaLog} {log log' : MfaLog} {now : Timestamp}
  {r r' : Option AdminCredential}

/-- A seed that decrypts and for which `enable_mfa` has accepted a code. -/
def Proven (A : Authenticator ops) (account : Uuid) (log : MfaLog)
    (c : AdminCredential) : Prop :=
  ∃ encrypted secret, c.totpSecretEnc = some encrypted ∧
    decryptTotpSecret A account encrypted = .ok secret ∧
    ∃ e ∈ log.accepted, verifyTotp A secret e.1 e.2 = true

/-- The stored verifier is that of the password last set, and an enabled seed
is proven. -/
structure Enrolled (A : Authenticator ops) (account : Uuid) (log : MfaLog)
    (c : AdminCredential) : Prop where
  password : ∃ p, log.password = some p ∧
    ∀ q, A.argon2.verify c.passwordHash q = decide (q = p)
  proven : c.totpEnabledAt.isSome = true → Proven A account log c

/-- Codes are only added to the log. -/
theorem Proven.of_sublist {c c' : AdminCredential} (h : Proven A account log c)
    (hseed : c'.totpSecretEnc = c.totpSecretEnc)
    (hlog : log.accepted ⊆ log'.accepted) : Proven A account log' c' := by
  obtain ⟨encrypted, secret, henc, hsecret, e, he, hcode⟩ := h
  exact ⟨encrypted, secret, hseed.trans henc, hsecret, e, hlog he, hcode⟩

theorem enrolled_change (h : RowChange A account log now r r' log')
    (hr : ∀ c, r = some c → Enrolled A account log c) :
    ∀ c, r' = some c → Enrolled A account log' c := by
  intro c' hc'
  cases h with
  | kept => exact hr c' hc'
  | created salt bytes =>
      cases hc'
      exact ⟨⟨bytes, rfl, A.argon2.verify_hash salt bytes⟩, nofun⟩
  | seeded c encrypted hnone =>
      cases hc'
      have hc := hr c rfl
      refine ⟨hc.password, fun henabled => ?_⟩
      -- an enabled row has a seed already
      obtain ⟨encrypted', secret, hseed, -⟩ := hc.proven henabled
      rw [hnone] at hseed
      cases hseed
  | enabled c encrypted secret code now' hseed hsecret hcode =>
      cases hc'
      refine ⟨(hr c rfl).password, fun _ => ?_⟩
      exact ⟨encrypted, secret, hseed, hsecret, (code, now), List.mem_cons_self,
        hcode⟩
  | passwordChanged c salt bytes =>
      cases hc'
      refine ⟨⟨bytes, rfl, A.argon2.verify_hash salt bytes⟩, fun henabled => ?_⟩
      exact ((hr c rfl).proven henabled).of_sublist rfl (List.Subset.refl _)
  | signedIn c f u passwordHash hhash =>
      cases hc'
      have hc := hr c rfl
      obtain ⟨p, hp, hverify⟩ := hc.password
      refine ⟨⟨p, hp, ?_⟩, fun henabled => ?_⟩
      · rcases hhash with rfl | ⟨salt, bytes, rfl, hbytes⟩
        · exact hverify
        · -- the rehashed password is the one that was verified
          rw [hverify, decide_eq_true_eq] at hbytes
          rw [← hbytes]
          exact A.argon2.verify_hash salt bytes
      · exact (hc.proven henabled).of_sublist rfl (List.Subset.refl _)

theorem enrolled_reachable (h : (enrolment A account).Reachable x) :
    ∀ c, x.state.tables.credentials account = some c →
      Enrolled A account x.history c := by
  refine h.invariant (I := fun x => ∀ c,
    x.state.tables.credentials account = some c →
      Enrolled A account x.history c) ?_ ?_
  · intro x hx c hc
    rw [hx.1] at hc
    cases hc
  · intro x a y hx _ hstep
    exact enrolled_change (rowChange_of_step hstep) hx

/-- What no later step takes away from a credential. -/
def Keeps (c c' : AdminCredential) : Prop :=
  (∀ encrypted, c.totpSecretEnc = some encrypted →
    c'.totpSecretEnc = some encrypted) ∧
  (c.totpEnabledAt.isSome = true → c'.totpEnabledAt.isSome = true)

theorem keeps_change (h : RowChange A account log now r r' log')
    {c : AdminCredential} (hc : r = some c) :
    ∃ c', r' = some c' ∧ Keeps c c' := by
  cases h with
  | kept => exact ⟨c, hc, fun _ => id, id⟩
  | created => cases hc
  | seeded c encrypted hnone =>
      cases hc
      refine ⟨_, rfl, fun encrypted' hseed => ?_, id⟩
      rw [hnone] at hseed
      cases hseed
  | enabled =>
      cases hc
      exact ⟨_, rfl, fun _ => id, fun _ => rfl⟩
  | passwordChanged =>
      cases hc
      exact ⟨_, rfl, fun _ => id, id⟩
  | signedIn =>
      cases hc
      exact ⟨_, rfl, fun _ => id, id⟩

theorem keeps_leads {G : Recorded (Logins ops) MfaLog → MfaAction ops → Prop}
    (h : (enrolment A account).Leads G x y) {c : AdminCredential}
    (hc : x.state.tables.credentials account = some c) :
    ∃ c', y.state.tables.credentials account = some c' ∧ Keeps c c' := by
  refine h.invariant (I := fun y => ∃ c',
    y.state.tables.credentials account = some c' ∧ Keeps c c') ?_
    ⟨c, hc, fun _ => id, id⟩
  rintro y a z ⟨c', hc', hkeeps⟩ - hstep
  obtain ⟨c'', hc'', hkeeps'⟩ := keeps_change (rowChange_of_step hstep) hc'
  refine ⟨c'', hc'', ?_, ?_⟩
  · intro encrypted hseed
    exact hkeeps'.1 encrypted (hkeeps.1 encrypted hseed)
  · intro henabled
    exact hkeeps'.2 (hkeeps.2 henabled)

theorem totpValid_of_enabled {i : Uuid} {c : AdminCredential}
    {code : Option PyStr} (henabled : c.totpEnabledAt.isSome = true)
    (h : totpValid A i c code now = true) :
    ∃ encrypted secret supplied, c.totpSecretEnc = some encrypted ∧
      decryptTotpSecret A i encrypted = .ok secret ∧ code = some supplied ∧
      verifyTotp A secret supplied now = true := by
  unfold totpValid at h
  split at h
  · rename_i hnone
    rw [hnone] at henabled
    cases henabled
  · rename_i at_ encrypted supplied hat hseed
    split at h
    · cases h
    · rename_i secret hsecret
      exact ⟨encrypted, secret, supplied, hseed, hsecret, rfl, h⟩
  · cases h

/-- **The second factor.** Along every run of the five functions on an account:
an enabled seed decrypts and has produced a code that `enable_mfa` accepted; a
stored seed is never replaced and an enabled factor is never switched off; and
once it is enabled, `authenticate` signs in with the password last set and a
code of that seed only. -/
theorem second_factor_enforced (A : Authenticator ops) (account : Uuid) :
    (∀ x, (enrolment A account).Reachable x →
      ∀ c, x.state.tables.credentials account = some c →
        c.totpEnabledAt.isSome = true →
        ∃ encrypted secret, c.totpSecretEnc = some encrypted ∧
          decryptTotpSecret A account encrypted = .ok secret ∧
          ∃ e ∈ x.history.accepted, verifyTotp A secret e.1 e.2 = true) ∧
      (∀ x y, (enrolment A account).Reachable x →
        (enrolment A account).Leads (fun _ _ => True) x y →
        ∀ c, x.state.tables.credentials account = some c →
          c.totpEnabledAt.isSome = true →
          ∃ c', y.state.tables.credentials account = some c' ∧
            c'.totpEnabledAt.isSome = true ∧
            c'.totpSecretEnc = c.totpSecretEnc) ∧
      ∀ x, (enrolment A account).Reachable x →
        ∀ c, x.state.tables.credentials account = some c →
          c.totpEnabledAt.isSome = true →
          ∀ (req : LoginRequest) (salt : Bytes) (user : User),
            x.state.verdict A req salt = some (.accepted user) →
            user.id = account →
            req.password.encode = x.history.password ∧
              ∃ encrypted secret code, c.totpSecretEnc = some encrypted ∧
                decryptTotpSecret A account encrypted = .ok secret ∧
                req.totpCode = some code ∧
                verifyTotp A secret code x.state.now = true := by
  refine ⟨?_, ?_, ?_⟩
  · intro x hx c hc henabled
    exact (enrolled_reachable hx c hc).proven henabled
  · intro x y hx hrun c hc henabled
    obtain ⟨c', hc', hseed, hstays⟩ := keeps_leads hrun hc
    obtain ⟨encrypted, -, henc, -⟩ := (enrolled_reachable hx c hc).proven henabled
    exact ⟨c', hc', hstays henabled, (hseed encrypted henc).trans henc.symm⟩
  · rintro x hx c hc henabled req salt user hv rfl
    obtain ⟨c', hc', -, hpassword, htotp⟩ := verdict_accepted hv
    obtain rfl : c = c' := Option.some.inj (hc.symm.trans hc')
    obtain ⟨p, hp, hverify⟩ := (enrolled_reachable hx c hc).password
    refine ⟨?_, totpValid_of_enabled henabled htotp⟩
    obtain ⟨bytes, hbytes, haccepted⟩ := (Option.any_eq_true _ _).mp hpassword
    rw [hverify, decide_eq_true_eq] at haccepted
    rw [hbytes, hp, haccepted]

/-- The operator creates the account, the administrator enrols with the code
of the fortieth second. -/
def enrolmentRun : List (MfaAction asciiOps) :=
  [.createSuperadmin rootUser.email rootUser.displayName samplePassword 1
      sampleHash.salt,
    .mfaSetupPage 1 (PyStr.asciiLit "12345678901234567890") sampleSeed.nonce,
    .tick 40000000, .enableMfa 1 (some (PyStr.lit "287082")) 0]

def sampleSignIn : LoginRequest where
  username := rootUser.email
  password := samplePassword
  totpCode := some (PyStr.lit "287082")
  clientIp := PyStr.lit "192.0.2.1"
  username_bound := sampleGuess.username_bound
  encodes := by decide
  code_bound := by decide

/-- No account yet. -/
def noTables : LoginTables asciiOps := ⟨⟨[], .nil⟩, fun _ => none, fun _ => none⟩

theorem enrolled_signs_in :
    ∃ x c user, (enrolment strict 1).Reachable x ∧
      x.state.tables.credentials 1 = some c ∧
      x.state.verdict strict sampleSignIn [] = some (.accepted user) ∧
      sampleSignIn.password.encode = x.history.password ∧
      ∃ encrypted secret code, c.totpSecretEnc = some encrypted ∧
        decryptTotpSecret strict 1 encrypted = .ok secret ∧
        sampleSignIn.totpCode = some code ∧
        verifyTotp strict secret code x.state.now = true := by
  obtain ⟨x, hrun, hc, hv⟩ : ∃ x,
      (enrolment strict 1).run ⟨⟨noTables, 0⟩, ⟨none, []⟩⟩ enrolmentRun =
        some x ∧
      ((x.state.tables.credentials 1).any (fun c => c.totpEnabledAt.isSome) =
          true ∧
        ((x.state.verdict strict sampleSignIn []).bind Verdict.user).any
          (fun user => decide (user.id = 1)) = true) :=
    System.exists_of_runUnder (by decide +kernel)
  have hinit : (enrolment strict 1).init ⟨⟨noTables, 0⟩, ⟨none, []⟩⟩ :=
    ⟨rfl, rfl⟩
  have hreach := System.reachable_of_runUnder hinit hrun
  obtain ⟨c, hc, henabled⟩ := (Option.any_eq_true _ _).mp hc
  obtain ⟨user, hbind, hid⟩ := (Option.any_eq_true _ _).mp hv
  obtain ⟨v, hv, hvuser⟩ := Option.bind_eq_some_iff.mp hbind
  cases v with
  | accepted user' =>
      cases hvuser
      exact ⟨x, c, user, hreach, hc, hv,
        (second_factor_enforced strict 1).2.2 x hreach c hc henabled
          sampleSignIn [] user hv (of_decide_eq_true hid)⟩
  | _ => cases hvuser

end Enforced

end LeakcheckHub.Auth
