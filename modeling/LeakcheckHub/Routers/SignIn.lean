import LeakcheckHub.Auth.Local
import LeakcheckHub.Routers.Handlers

/-!
# Sign-in handlers

The sign-in routes of `app/routers/auth.py` over the services that they call,
with the claims checks of `app/auth/google.py`.

§1 Google's answer · §2 the services · §3 handlers · §4 the services on the
tables · §5 the ways a sign-in returns · §6 what the audit log says of it.
-/

set_option linter.unusedSectionVars false

namespace LeakcheckHub.Routers

open Foundation Accounts Auth
open Portal (AuditLog)

/-! ## §1  Google's answer -/

structure OAuthTransaction where
  state : PyStr
  nonce : PyStr
  codeVerifier : PyStr
  expiresAt : ℤ

/-- The claims of a verified ID token that are read; `none` is a claim that is
absent or no string. -/
structure Claims where
  sub : Option PyStr
  email : Option PyStr
  emailVerified : Bool
  hd : Option PyStr
  name : Option PyStr

/-- `GoogleOIDC` at the time of a request, with its signed cookie, the provider
and the token's signature behind functions. -/
structure GoogleOidc (ops : TextOps) where
  allowedDomains : List PyStr
  beginTransaction : OAuthTransaction
  authorizationUrl : OAuthTransaction → Except Fault PyStr
  transactionCookie : OAuthTransaction → PyStr
  readTransactionCookie : Option PyStr → Option OAuthTransaction
  /-- The exchange of a code, up to the claims of `_verify_id_token`. -/
  verifiedClaims : PyStr → OAuthTransaction → Except Fault Claims

/-- `value.rstrip(".")`. -/
def rstripDots (s : PyStr) : PyStr :=
  (s.reverse.dropWhile fun c => c == PyStr.ofChar '.').reverse

/-- The stripped claim, if something is left of it, or the local part of the
address. -/
def displayNameOf (name : Option PyStr) (email : PyStr) : PyStr :=
  match name.filter fun n => !n.strip.isEmpty with
  | some n => n.strip
  | none => email.takeWhile fun c => c != PyStr.ofChar '@'

/-- `_identity_from_claims`. -/
def identityFromClaims (ops : TextOps) (allowedDomains : List PyStr)
    (claims : Claims) : Except Fault (GoogleIdentity ops) :=
  match claims.sub, claims.email, claims.hd with
  | some subject, some email, some hd =>
      let hostedDomain := rstripDots (ops.casefold hd)
      let displayName := displayNameOf claims.name email
      if h : (subject ≠ [] ∧ subject.length ≤ 255) ∧
          validEmail ops email = true ∧ displayName.length ≤ 255 then
        if !claims.emailVerified || !allowedDomains.contains hostedDomain then
          .error .googleOidc
        else
          .ok {
            subject := subject
            email := ops.casefold email
            displayName := displayName
            hostedDomain := hostedDomain
            subject_bound := h.1
            email_verified := ⟨email, h.2.1, rfl⟩
            displayName_bound := h.2.2 }
      else .error .googleOidc
  | _, _, _ => .error .googleOidc

def GoogleOidc.exchangeAndVerify {ops : TextOps} (oidc : GoogleOidc ops)
    (code : PyStr) (transaction : OAuthTransaction) :
    Except Fault (GoogleIdentity ops) := do
  if code.isEmpty || 2048 < code.length then .error .googleOidc
  else
    let claims ← oidc.verifiedClaims code transaction
    identityFromClaims ops oidc.allowedDomains claims

/-! ## §2  The services -/

/-- What the sign-in handlers call. -/
structure SignInServices (ops : TextOps) (Db : Type) where
  /-- `_load_google_oidc`; `none` where a setting is missing. -/
  loadGoogleOidc : Callee Db (Option (GoogleOidc ops))
  provisionGoogleUser : GoogleIdentity ops → Callee Db User
  /-- `authenticate`, by the user of its result. -/
  authenticate : LoginRequest → Callee Db (Option User)
  revoke : Option PyStr → Callee Db Bool
  issue : Uuid → PyStr → Option PyStr → Callee Db IssuedSession
  /-- `user.last_login_at = datetime.now(UTC)`. -/
  touchLogin : Uuid → Callee Db Unit
deriving Inhabited

/-- What every sign-in takes from its request. -/
structure SignInRequest where
  audit : AuditContext
  /-- The session cookie. -/
  token : Option PyStr
  userAgent : Option PyStr

/-- The query and the cookie of a callback, and the legacy client if the
process has one. -/
structure Callback (ops : TextOps) where
  cached : Option (GoogleOidc ops)
  code : Option PyStr
  state : Option PyStr
  error : Option PyStr
  transactionCookie : Option PyStr

/-- A login form as it arrives. -/
structure LoginPost where
  /-- `int(content_length)`, where the header is there; `some none` is the
  `ValueError`. -/
  contentLength : Option (Option ℤ)
  body : Bytes
  /-- `json.loads(body)`; `none` is an undecodable body. -/
  payload : Option Json

/-- What `_read_local_login_credentials` returns. -/
structure Credentials where
  username : PyStr
  password : PyStr
  totpCode : Option PyStr
  username_bound : username.length ≤ 255
  encodes : password.encode.any (fun b => decide (b.length ≤ 1024)) = true
  code_bound : totpCode.all (fun c => !c.isEmpty && decide (c.length ≤ 16)) = true

def Credentials.request (c : Credentials) (clientIp : PyStr) : LoginRequest where
  username := c.username
  password := c.password
  totpCode := c.totpCode
  clientIp := clientIp
  username_bound := c.username_bound
  encodes := c.encodes
  code_bound := c.code_bound

def maxLocalLoginBodyBytes : ℕ := 4096

/-- `bool(value)`. -/
def truthy : Json → Bool
  | .null => false
  | .bool b => b
  | .int n => n != 0
  -- both zeros
  | .float bits => bits.toNat % 2 ^ 63 != 0
  | .str s => !s.isEmpty
  | .arr items => !items.isEmpty
  | .obj entries => !entries.isEmpty

def field (name : String) (entries : List (PyStr × Json)) : Option Json :=
  (entries.find? fun e => e.1 == PyStr.lit name).map Prod.snd

/-- The bounds that a username, a password and a code have to meet. -/
def boundedCredentials (username password : PyStr) (totpCode : Option PyStr) :
    Option Credentials :=
  if h : username.length ≤ 255 ∧
      password.encode.any (fun b => decide (b.length ≤ 1024)) = true ∧
      totpCode.all (fun c => !c.isEmpty && decide (c.length ≤ 16)) = true then
    some ⟨username, password, totpCode, h.1, h.2.1, h.2.2⟩
  else none

def readLocalLoginCredentials (post : LoginPost) : Option Credentials :=
  if post.contentLength.any fun n =>
      n.all fun n => decide ((maxLocalLoginBodyBytes : ℤ) < n) then none
  else if maxLocalLoginBodyBytes < post.body.length then none
  else
    match post.payload with
    | some (.obj entries) =>
        let known := [PyStr.lit "username", PyStr.lit "password",
          PyStr.lit "totp_code"]
        if entries.any fun e => !known.contains e.1 then none
        else
          match field "username" entries, field "password" entries,
              (field "totp_code" entries).filter truthy with
          | some (.str username), some (.str password), none =>
              boundedCredentials username password none
          | some (.str username), some (.str password), some (.str totpCode) =>
              boundedCredentials username password (some totpCode)
          | _, _, _ => none
    | _ => none

/-! ## §3  Handlers -/

section Handlers

variable {ops : TextOps} {Db : Type} (S : SignInServices ops Db)
  (r : SignInRequest)

def noTarget : AuditTarget := (none, none)

/-- `_authentication_failed`. -/
def authenticationFailed (status : ℕ) : Response :=
  { plain status "Google authentication failed." with
    cookies := [.clearOauthTransaction] }

/-- `_local_authentication_failed`. -/
def localAuthenticationFailed : Response :=
  plain 401 "Local authentication failed."

/-- The redirect of a signed-in user. -/
def signedIn (issued : IssuedSession) (more : List CookieChange) : Response :=
  { redirect (PyStr.lit "/") with
    headers := [(PyStr.lit "Location", PyStr.lit "/"), noStore]
    cookies := .session issued :: .csrf (some issued.token) :: more }

/-- `_configured_google_oidc`. -/
def configuredGoogleOidc (cached : Option (GoogleOidc ops)) :
    Handler Db (Option (GoogleOidc ops)) :=
  match cached with
  | some oidc => pure (some oidc)
  | none => perform S.loadGoogleOidc

def googleFailed (meta_ : List (PyStr × Json)) : Handler Db Unit :=
  auditEvent r.audit "auth.google_failed" none noTarget meta_

def unconfigured : List (PyStr × Json) :=
  [(PyStr.lit "reason", .str (PyStr.lit "unconfigured"))]

def startGoogleLogin (cached : Option (GoogleOidc ops)) (now : ℤ) :
    Handler Db Response := do
  match ← configuredGoogleOidc S cached with
  | none =>
      googleFailed r unconfigured
      pure (authenticationFailed 503)
  | some googleOidc =>
      let transaction := googleOidc.beginTransaction
      let url ← excepting
        (perform fun db =>
          (googleOidc.authorizationUrl transaction).map fun url =>
            (some url, db))
        (fun fault => decide (fault = .googleOidc))
        fun _ => do
          googleFailed r []
          pure none
      match url with
      | none => pure (authenticationFailed 503)
      | some url =>
          auditEvent r.audit "auth.google_started" none noTarget []
          pure { redirect url with
            headers := [(PyStr.lit "Location", url), noStore]
            cookies := [.oauthTransaction
              (googleOidc.transactionCookie transaction)
              (transaction.expiresAt - now)] }

/-- The checks between the cookie and the exchange: the code, the transaction
and the client's address where they pass. -/
def accepted (q : Callback ops) (transaction : Option OAuthTransaction) :
    Option (PyStr × OAuthTransaction × PyStr) :=
  match q.error, transaction, q.state, q.code, r.audit.clientHost with
  | none, some transaction, some state, some code, some clientHost =>
      if state.isAscii && state.length == transaction.state.length &&
          state == transaction.state then
        some (code, transaction, clientHost)
      else none
  | _, _, _, _, _ => none

/-- From the revocation of the old session to the success event. -/
def openSession (userId : Uuid) (clientHost : PyStr) (action : String) :
    Handler Db IssuedSession := do
  let _ ← perform (S.revoke r.token)
  let issued ← perform (S.issue userId clientHost r.userAgent)
  perform (S.touchLogin userId)
  auditEvent r.audit action (some userId) (target "user" userId.str) []
  pure issued

/-- The body of the `try` of `finish_google_login`. -/
def exchangeCode (googleOidc : GoogleOidc ops) (code : PyStr)
    (transaction : OAuthTransaction) (clientHost : PyStr) :
    Handler Db (Response ⊕ IssuedSession) := do
  let identity ← perform fun db =>
    (googleOidc.exchangeAndVerify code transaction).map fun identity =>
      (identity, db)
  let user ← perform (S.provisionGoogleUser identity)
  if user.isActive then
    let issued ← openSession S r user.id clientHost "auth.google_succeeded"
    pure (.inr issued)
  else
    -- no event is recorded on this path
    pure (.inl (authenticationFailed 403))

def finishGoogleLogin (q : Callback ops) : Handler Db Response := do
  match ← configuredGoogleOidc S q.cached with
  | none =>
      googleFailed r unconfigured
      pure (authenticationFailed 503)
  | some googleOidc =>
      match accepted r q
          (googleOidc.readTransactionCookie q.transactionCookie) with
      | none =>
          googleFailed r []
          pure (authenticationFailed 400)
      | some (code, transaction, clientHost) =>
          let outcome ← excepting
            (exchangeCode S r googleOidc code transaction clientHost)
            (fun fault => decide (fault = .googleOidc))
            fun _ => do
              googleFailed r []
              pure (.inl (authenticationFailed 400))
          match outcome with
          | .inl answer => pure answer
          | .inr issued => pure (signedIn issued [.clearOauthTransaction])

def localFailed : Handler Db Response := do
  auditEvent r.audit "auth.local_failed" none noTarget []
  pure localAuthenticationFailed

def finishLocalLogin (post : LoginPost) : Handler Db Response :=
  match readLocalLoginCredentials post, r.audit.clientHost with
  | some credentials, some clientHost => do
      match ← perform (S.authenticate (credentials.request clientHost)) with
      | none => localFailed r
      | some user =>
          let issued ← openSession S r user.id clientHost
            "auth.local_succeeded"
          pure (signedIn issued [])
  | _, _ => localFailed r

end Handlers

/-! ## §4  The services on the tables -/

/-- The tables of a sign-in, by their primary keys. -/
structure SignInTables (ops : TextOps) where
  users : UserTable ops
  credentials : Uuid → Option AdminCredential
  limits : Bytes → Option AdminLoginRateLimit
  sessions : SessionRows

/-- The services of a process, and what the settings store gives it. -/
structure SignInEnv (ops : TextOps) where
  authenticator : Authenticator ops
  sessions : SessionManager
  stored : Except Fault (Option (GoogleOidc ops))

/-- What a sign-in draws, and the readings of the clock that it takes. -/
structure SignInDraws where
  newUserId : Uuid
  rawToken : PyStr
  salt : Bytes
  provisionedAt : Timestamp
  authenticatedAt : Timestamp
  revokedAt : Timestamp
  issuedAt : Timestamp
  touchedAt : Timestamp

def faultOf : RequestError → Fault
  | .googleOidc => .googleOidc
  | .localAuthentication => .localAuthentication
  | .database e => .database e
  | .http _ _ => .other (PyStr.lit "HTTPException")

section Services

variable {ops : TextOps}

/-- `provision_google_user` with the row that it returns, which it has written
under the subject. -/
def provisioned (identity : GoogleIdentity ops) (newId : Uuid) (now : Timestamp)
    (t : UserTable ops) : Except RequestError (User × UserTable ops) := do
  let users ← provisionGoogleUser identity newId now t
  let subject ← bindParam (identity.subject.storeVarchar 255)
  match users.bySub subject with
  | none => .error (.database .integrityViolation)
  | some user => pure (user, users)

def SignInTables.login (t : SignInTables ops) : LoginTables ops :=
  ⟨t.users, t.credentials, t.limits⟩

def SignInTables.session (t : SignInTables ops) : SessionTables ops :=
  ⟨t.users, t.sessions⟩

/-- The assignment of `last_login_at`, as the next flush writes it. -/
def touch (userId : Uuid) (now : Timestamp) (t : UserTable ops) :
    Except RequestError (UserTable ops) :=
  match t.byId userId with
  | none => .error (.database .integrityViolation)
  | some user => t.write { user with lastLoginAt := some now }

def sessionFault : SessionError → Fault
  | .malformedAddress => .value (PyStr.lit "ValueError")
  | .integrity => .database .integrityViolation

def SignInEnv.services (E : SignInEnv ops) (d : SignInDraws) :
    SignInServices ops (SignInTables ops) where
  loadGoogleOidc := fun t => E.stored.map fun oidc => (oidc, t)
  provisionGoogleUser := fun identity t =>
    match provisioned identity d.newUserId d.provisionedAt t.users with
    | .error e => .error (faultOf e)
    | .ok (user, users) => .ok (user, { t with users })
  authenticate := fun request t =>
    match Auth.authenticate E.authenticator request d.salt d.authenticatedAt
        t.login with
    | .error e => .error (faultOf e)
    | .ok (verdict, login) =>
        .ok (verdict.user, { t with
          users := login.users
          credentials := login.credentials
          limits := login.limits })
  revoke := fun token t =>
    let result := E.sessions.revoke token d.revokedAt t.session
    .ok (result.1, { t with sessions := result.2.sessions })
  issue := fun userId clientIp userAgent t =>
    match E.sessions.issue userId clientIp userAgent d.rawToken d.issuedAt
        t.session with
    | .error e => .error (sessionFault e)
    | .ok (issued, result) => .ok (issued, { t with sessions := result.sessions })
  touchLogin := fun userId t =>
    match touch userId d.touchedAt t.users with
    | .error e => .error (faultOf e)
    | .ok users => .ok ((), { t with users })

/-- A request to one of the two routes that end a sign-in. -/
inductive SignIn (ops : TextOps) where
  | google (q : Callback ops)
  | local_ (post : LoginPost)

def SignIn.handler (E : SignInEnv ops) (d : SignInDraws) (r : SignInRequest) :
    SignIn ops → Handler (SignInTables ops) Response
  | .google q => finishGoogleLogin (E.services d) r q
  | .local_ post => finishLocalLogin (E.services d) r post

/-! ## §5  The ways a sign-in returns -/

/-- The account that an identity signs in to: the one linked to its subject,
with no other at its address, or else an unlinked one at its address. -/
def SignsInTo (identity : GoogleIdentity ops) (t : UserTable ops)
    (user : User) : Prop :=
  ∃ subject email, identity.subject.storeVarchar 255 = some subject ∧
    identity.email.storeText = some email ∧
    (t.bySub subject = some user ∧
        (∀ other, t.byEmail (ops.citext email) = some other →
          other.id = user.id) ∨
      t.bySub subject = none ∧ t.byEmail (ops.citext email) = some user ∧
        ∀ sub ∈ user.googleSub, sub = subject)

variable {identity : GoogleIdentity ops} {newId : Uuid} {now : Timestamp}
  {t users : UserTable ops} {user account : User}

/-- The row that a write leaves under its own subject. -/
theorem bySub_of_mem {subject : PyStr} (hr : account ∈ t.rows)
    (hsub : account.googleSub = some subject) :
    t.bySub subject = some account := by
  cases hfind : t.bySub subject with
  | none =>
      have hnone := List.find?_eq_none.mp hfind account hr
      rw [hsub] at hnone
      simp at hnone
  | some other =>
      obtain ⟨hother, hsub'⟩ := UserTable.bySub_spec hfind
      rw [UserTable.eq_of_sub hother hr hsub' hsub]

theorem bySub_write {subject : PyStr} (h : t.write account = .ok users)
    (hmem : ∃ r ∈ t.rows, r.id = account.id)
    (hsub : account.googleSub = some subject) :
    users.bySub subject = some account := by
  apply bySub_of_mem _ hsub
  obtain ⟨r, hr, hid⟩ := hmem
  rw [write_rows h]
  exact List.mem_map.mpr ⟨r, hr, if_pos hid⟩

theorem bySub_insert {subject : PyStr} (h : t.insert account = .ok users)
    (hsub : account.googleSub = some subject) :
    users.bySub subject = some account := by
  apply bySub_of_mem _ hsub
  rw [insert_rows h]
  exact List.mem_append_right _ (List.mem_singleton_self _)

/-- Whom `provision_google_user` returns: the account of the identity in its
state, or a new one. -/
theorem provisioned_spec
    (h : provisioned identity newId now t = .ok (user, users)) :
    (∃ account, SignsInTo identity t account ∧
      user.isActive = account.isActive) ∨ user.isActive = true := by
  obtain ⟨users', hprovision, h⟩ := bind_eq_ok.mp h
  obtain ⟨subject, hsubject, h⟩ := bind_eq_ok.mp h
  have hfound : users'.bySub subject = some user := by
    split at h
    · cases h
    · rename_i found hfound
      cases h
      exact hfound
  obtain ⟨subject', hsubject', hprovision⟩ := bind_eq_ok.mp hprovision
  obtain rfl : subject = subject' :=
    Except.ok.inj (hsubject.symm.trans hsubject')
  obtain ⟨email, hemail, hprovision⟩ := bind_eq_ok.mp hprovision
  have hstored : identity.subject.storeVarchar 255 = some subject :=
    bindParam_eq_ok.mp hsubject
  have hmail : identity.email.storeText = some email :=
    bindParam_eq_ok.mp hemail
  split at hprovision
  · rename_i linked hsub
    split at hprovision
    · cases hprovision
    · rename_i hsame
      obtain ⟨name, -, hwrite⟩ := bind_eq_ok.mp hprovision
      obtain ⟨hmem, hlinked⟩ := UserTable.bySub_spec hsub
      have hwritten := bySub_write hwrite ⟨linked, hmem, rfl⟩ hlinked
      rw [hfound, Option.some.injEq] at hwritten
      left
      refine ⟨linked, ⟨subject, email, hstored, hmail, .inl ⟨hsub, ?_⟩⟩, ?_⟩
      · intro other hother
        rw [hother] at hsame
        simpa using hsame
      · rw [hwritten]
  · rename_i emailUser hsub hemailUser
    split at hprovision
    · cases hprovision
    · rename_i hunlinked
      obtain ⟨name, -, hwrite⟩ := bind_eq_ok.mp hprovision
      have hmem := (UserTable.byEmail_spec hemailUser).1
      have hwritten := bySub_write hwrite ⟨emailUser, hmem, rfl⟩ rfl
      rw [hfound, Option.some.injEq] at hwritten
      left
      refine ⟨emailUser, ⟨subject, email, hstored, hmail,
        .inr ⟨hsub, hemailUser, ?_⟩⟩, ?_⟩
      · intro sub hsub'
        rw [Option.mem_def.mp hsub'] at hunlinked
        simpa using hunlinked
      · rw [hwritten]
  · obtain ⟨name, -, hinsert⟩ := bind_eq_ok.mp hprovision
    have hwritten := bySub_insert hinsert rfl
    rw [hfound, Option.some.injEq] at hwritten
    right
    rw [hwritten]

theorem write_error {e : RequestError} (h : t.write account = .error e) :
    ∃ cause, e = .database cause := by
  unfold UserTable.write at h
  cases hrows : UserTable.ofRows ops
      (t.rows.map fun r => if r.id = account.id then account else r) with
  | error cause =>
      rw [hrows] at h
      cases h
      exact ⟨cause, rfl⟩
  | ok users =>
      rw [hrows] at h
      cases h

/-- The last statements of `provision_google_user` on an account that is
there. -/
theorem provisioned_of_write (row : PyStr → User) {subject : PyStr}
    (hsubject : identity.subject.storeVarchar 255 = some subject)
    (hprovision : provisionGoogleUser identity newId now t =
      (bindParam (identity.displayName.storeVarchar 255)).bind fun name =>
        t.write (row name))
    (hmem : ∃ r ∈ t.rows, ∀ name, r.id = (row name).id)
    (hsub : ∀ name, (row name).googleSub = some subject)
    (hactive : ∀ name, (row name).isActive = account.isActive) :
    (∃ user users, provisioned identity newId now t = .ok (user, users) ∧
        user.isActive = account.isActive) ∨
      ∃ e, provisioned identity newId now t = .error (.database e) := by
  unfold provisioned
  rw [hprovision]
  cases hname : identity.displayName.storeVarchar 255 with
  | none => exact .inr ⟨.badText, rfl⟩
  | some name =>
      cases hwrite : t.write (row name) with
      | error e =>
          obtain ⟨cause, rfl⟩ := write_error hwrite
          right
          refine ⟨cause, ?_⟩
          simp only [bindParam, Except.bind, hwrite, bind]
      | ok users =>
          left
          obtain ⟨r, hr, hid⟩ := hmem
          have hfound := bySub_write hwrite ⟨r, hr, hid name⟩ (hsub name)
          refine ⟨row name, users, ?_, hactive name⟩
          simp only [bindParam, Except.bind, bind, hwrite, hsubject, hfound,
            pure, Except.pure]

/-- An account that an identity signs in to is returned in its state, unless
the database refuses a value. -/
theorem provisioned_of_signsInTo (newId : Uuid) (now : Timestamp)
    (h : SignsInTo identity t account) :
    (∃ user users, provisioned identity newId now t = .ok (user, users) ∧
        user.isActive = account.isActive) ∨
      ∃ e, provisioned identity newId now t = .error (.database e) := by
  obtain ⟨subject, email, hsubject, hemail, hcase⟩ := h
  rcases hcase with ⟨hsub, hsame⟩ | ⟨hsub, hmail, hunlinked⟩
  · have hno : (t.byEmail (ops.citext email)).any
        (fun other => other.id != account.id) = false := by
      cases hother : t.byEmail (ops.citext email) with
      | none => rfl
      | some other => simp [hsame other hother]
    obtain ⟨hmem, hlinked⟩ := UserTable.bySub_spec hsub
    refine provisioned_of_write
      (fun name => { account with email := email, displayName := name })
      hsubject ?_
      ⟨account, hmem, fun _ => rfl⟩ (fun _ => hlinked) (fun _ => rfl)
    simp only [provisionGoogleUser, hsubject, hemail, bindParam, bind,
      Except.bind, hsub, hno, Bool.false_eq_true, if_false]
  · have hno : account.googleSub.any (fun sub => sub != subject) = false := by
      cases hlink : account.googleSub with
      | none => rfl
      | some sub => simp [hunlinked sub hlink]
    have hmem := (UserTable.byEmail_spec hmail).1
    refine provisioned_of_write
      (fun name =>
        { account with googleSub := some subject, displayName := name })
      hsubject ?_ ⟨account, hmem, fun _ => rfl⟩ (fun _ => rfl) (fun _ => rfl)
    simp only [provisionGoogleUser, hsubject, hemail, bindParam, bind,
      Except.bind, hsub, hmail, hno, Bool.false_eq_true, if_false]

/-! ## §6  The audit log -/

variable {E : SignInEnv ops} {d : SignInDraws} {r : SignInRequest}
  {u u' v : UnitOfWork (SignInTables ops) AuditLog}

/-- The transaction has issued a session: it has a row under a new key. -/
def SessionIssued (before after : SignInTables ops) : Prop :=
  ∃ key, before.sessions.find key = none ∧
    (after.sessions.find key).isSome = true

theorem not_sessionIssued {before after : SignInTables ops}
    (h : after.sessions = before.sessions) : ¬ SessionIssued before after := by
  rintro ⟨key, hnone, hsome⟩
  rw [h, hnone] at hsome
  cases hsome

/-- The database alone refuses to touch a row. -/
theorem touch_error {userId : Uuid} {e : RequestError}
    (h : touch userId now t = .error e) : ∃ cause, e = .database cause := by
  unfold touch at h
  split at h
  · cases h
    exact ⟨.integrityViolation, rfl⟩
  · exact write_error h

/-- A session takes a new key. -/
theorem issue_find {userId : Uuid} {clientIp : PyStr}
    {userAgent : Option PyStr} {x x' : SignInTables ops}
    {issued : IssuedSession}
    (h : (E.services d).issue userId clientIp userAgent x = .ok (issued, x')) :
    x.sessions.find (E.sessions.tokenHash d.rawToken) = none ∧
      (x'.sessions.find (E.sessions.tokenHash d.rawToken)).isSome = true := by
  simp only [SignInEnv.services] at h
  split at h
  · cases h
  · rename_i issued' result hissue
    cases h
    obtain ⟨session, hkey, -, -, -, hinsert⟩ := issue_spec hissue
    constructor
    · exact KeyedRows.find_of_insert hinsert hkey
    · rw [KeyedRows.find_insert hinsert, if_pos hkey]
      rfl

theorem touch_sessions {userId : Uuid} {x x' : SignInTables ops} {y : Unit}
    (h : (E.services d).touchLogin userId x = .ok (y, x')) :
    x'.sessions = x.sessions := by
  simp only [SignInEnv.services] at h
  split at h
  · cases h
  · cases h
    rfl

/-- From the old session's end to the success event. -/
theorem openSession_ok {userId : Uuid} {clientHost : PyStr} {action : String}
    {issued : IssuedSession}
    (h : openSession (E.services d) r userId clientHost action u =
      (.ok issued, u')) :
    (∃ event : AuditLog, event.action = PyStr.lit action ∧
      u'.journal = u.journal ++ [event]) ∧
      SessionIssued u.world u'.world := by
  obtain ⟨_, u₁, hrevoke, h⟩ := Work.bind_ok.mp h
  obtain ⟨issued', u₂, hissue, h⟩ := Work.bind_ok.mp h
  obtain ⟨_, u₃, htouch, h⟩ := Work.bind_ok.mp h
  obtain ⟨_, u₄, haudit, h⟩ := Work.bind_ok.mp h
  cases h
  obtain ⟨event, haction, -, rfl⟩ := auditEvent_ok haudit
  obtain ⟨t₁, hrevoked, rfl⟩ := perform_ok.mp hrevoke
  obtain ⟨t₂, hissued, rfl⟩ := perform_ok.mp hissue
  obtain ⟨t₃, htouched, rfl⟩ := perform_ok.mp htouch
  refine ⟨⟨event, haction, rfl⟩, E.sessions.tokenHash d.rawToken, ?_, ?_⟩
  · -- the new key is not that of a session that the revocation has seen
    have hfree := (issue_find hissued).1
    cases hrevoked
    show u.world.sessions.find _ = none
    rw [find_revoke, Option.map_eq_none_iff] at hfree
    exact hfree
  · show (t₃.sessions.find _).isSome = true
    rw [touch_sessions htouched]
    exact (issue_find hissued).2

/-- Opening a session fails for the database or for the client's address. -/
theorem openSession_avoids {userId : Uuid} {clientHost : PyStr}
    {action : String} :
    Work.Avoids (· = .fault .googleOidc)
      (openSession (E.services d) r userId clientHost action) := by
  apply Work.Avoids.bind
  · apply avoids_perform
    intro x fault hfault
    cases hfault
  intro _
  apply Work.Avoids.bind
  · apply avoids_perform
    intro x fault hfault
    simp only [SignInEnv.services] at hfault
    split at hfault
    · rename_i e _
      cases hfault
      cases e <;> simp [sessionFault]
    · cases hfault
  intro issued
  apply Work.Avoids.bind
  · apply avoids_perform
    intro x fault hfault
    simp only [SignInEnv.services] at hfault
    split at hfault
    · rename_i e he
      cases hfault
      obtain ⟨cause, rfl⟩ := touch_error he
      simp [faultOf]
    · cases hfault
  intro _
  apply Work.Avoids.bind
  · apply avoids_auditEvent
    intro cause hcause
    cases hcause
  · intro _
    exact Work.Avoids.pure

/-- `_configured_google_oidc` for a callback. -/
def SignInEnv.client (E : SignInEnv ops) (q : Callback ops) :
    Except Fault (Option (GoogleOidc ops)) :=
  match q.cached with
  | some oidc => .ok (some oidc)
  | none => E.stored

/-- A callback with the right state and a code that Google vouches for, from
the owner of an inactive account. -/
def ReachesInactive (E : SignInEnv ops) (r : SignInRequest)
    (t : SignInTables ops) : SignIn ops → Prop
  | .google q => ∃ oidc code transaction clientHost identity account,
      E.client q = .ok (some oidc) ∧
      accepted r q (oidc.readTransactionCookie q.transactionCookie) =
        some (code, transaction, clientHost) ∧
      oidc.exchangeAndVerify code transaction = .ok identity ∧
      SignsInTo identity t.users account ∧ account.isActive = false
  | .local_ _ => False

/-- An `auth.*_succeeded` event. -/
def isSucceeded (action : PyStr) : Bool :=
  (PyStr.lit "auth.").isPrefixOf action &&
    (PyStr.lit "_succeeded").isSuffixOf action

/-- An `auth.*_failed` event. -/
def isFailed (action : PyStr) : Bool :=
  (PyStr.lit "auth.").isPrefixOf action &&
    (PyStr.lit "_failed").isSuffixOf action

/-- The request has written exactly one `auth.*_succeeded` or `auth.*_failed`
event, a success if and only if it has issued a session. -/
def AccountedFor (before after : SignInTables ops × List AuditLog) : Prop :=
  ∃ new, after.2 = before.2 ++ new ∧ ∃ event,
    new.filter (fun e => isSucceeded e.action || isFailed e.action) = [event] ∧
      (isSucceeded event.action = true ↔ SessionIssued before.1 after.1)

/-- The ways in which a sign-in returns; `inactive` says of the request that it
comes from the owner of an inactive account. -/
inductive Ending (before after : SignInTables ops × List AuditLog)
    (inactive : Prop) : Prop
  | failed (event : AuditLog) (haction : isSucceeded event.action = false ∧
        isFailed event.action = true)
      (hlog : after.2 = before.2 ++ [event])
      (hsessions : after.1.sessions = before.1.sessions) (hin : ¬ inactive)
  | unrecorded (hlog : after.2 = before.2) (hin : inactive)
  | opened (event : AuditLog) (haction : isSucceeded event.action = true)
      (hlog : after.2 = before.2 ++ [event])
      (hissued : SessionIssued before.1 after.1) (hin : ¬ inactive)

theorem Ending.accountedFor_iff {before after : SignInTables ops × List AuditLog}
    {inactive : Prop} (h : Ending before after inactive) :
    AccountedFor before after ↔ ¬ inactive := by
  cases h with
  | failed event haction hlog hsessions hin =>
      refine iff_of_true ⟨[event], hlog, event, ?_, ?_⟩ hin
      · simp [haction.2]
      · rw [haction.1]
        exact iff_of_false Bool.false_ne_true (not_sessionIssued hsessions)
  | unrecorded hlog hin =>
      refine iff_of_false ?_ (not_not_intro hin)
      rintro ⟨new, hnew, event, hfilter, -⟩
      rw [hlog, List.self_eq_append_right] at hnew
      rw [hnew] at hfilter
      cases hfilter
  | opened event haction hlog hissued hin =>
      refine iff_of_true ⟨[event], hlog, event, ?_, ?_⟩ hin
      · simp [haction]
      · exact iff_of_true haction hissued

theorem failed_actions : ∀ action ∈ ["auth.google_failed", "auth.local_failed"],
    isSucceeded (PyStr.lit action) = false ∧
      isFailed (PyStr.lit action) = true := by
  decide +kernel

theorem succeeded_actions :
    ∀ action ∈ ["auth.google_succeeded", "auth.local_succeeded"],
      isSucceeded (PyStr.lit action) = true := by
  decide +kernel

variable {q : Callback ops} {oidc : GoogleOidc ops} {code clientHost : PyStr}
  {transaction : OAuthTransaction}

theorem configured_ok {x : Option (GoogleOidc ops)}
    (h : configuredGoogleOidc (E.services d) q.cached u = (.ok x, u')) :
    E.client q = .ok x ∧ u' = u := by
  unfold SignInEnv.client
  cases hcached : q.cached with
  | some oidc =>
      rw [hcached] at h
      cases h
      exact ⟨rfl, rfl⟩
  | none =>
      rw [hcached] at h
      obtain ⟨t, hload, rfl⟩ := perform_ok.mp h
      simp only [SignInEnv.services] at hload
      cases hstored : E.stored with
      | error fault =>
          rw [hstored] at hload
          cases hload
      | ok y =>
          rw [hstored] at hload
          cases hload
          exact ⟨rfl, rfl⟩

/-- The exchange with Google leaves the tables alone. -/
theorem exchange_ok {identity : GoogleIdentity ops} {x x' : SignInTables ops}
    (h : ((oidc.exchangeAndVerify code transaction).map fun identity =>
      (identity, x)) = .ok (identity, x')) :
    oidc.exchangeAndVerify code transaction = .ok identity ∧ x' = x := by
  cases hcall : oidc.exchangeAndVerify code transaction with
  | error fault =>
      rw [hcall] at h
      cases h
  | ok identity' =>
      rw [hcall] at h
      cases h
      exact ⟨rfl, rfl⟩

/-- How the body of the `try` returns. -/
theorem exchangeCode_ok {x : Response ⊕ IssuedSession}
    (h : exchangeCode (E.services d) r oidc code transaction clientHost u =
      (.ok x, u')) :
    ∃ identity user users,
      oidc.exchangeAndVerify code transaction = .ok identity ∧
      provisioned identity d.newUserId d.provisionedAt u.world.users =
        .ok (user, users) ∧
      (user.isActive = false ∧ (∃ answer, x = .inl answer) ∧
          u' = { u with world := { u.world with users } } ∨
        user.isActive = true ∧ ∃ issued, x = .inr issued ∧
          openSession (E.services d) r user.id clientHost
            "auth.google_succeeded"
            { u with world := { u.world with users } } = (.ok issued, u')) := by
  obtain ⟨identity, u₁, hidentity, h⟩ := Work.bind_ok.mp h
  obtain ⟨user, u₂, huser, h⟩ := Work.bind_ok.mp h
  obtain ⟨t₁, hverified, rfl⟩ := perform_ok.mp hidentity
  obtain ⟨t₂, hprovisioned, rfl⟩ := perform_ok.mp huser
  obtain ⟨hexchange, rfl⟩ := exchange_ok hverified
  simp only [SignInEnv.services] at hprovisioned
  split at hprovisioned
  · cases hprovisioned
  · rename_i user' users hprov
    cases hprovisioned
    refine ⟨identity, user, users, hexchange, hprov, ?_⟩
    split at h
    · rename_i hactive
      obtain ⟨issued, u₃, hopen, h⟩ := Work.bind_ok.mp h
      cases h
      exact .inr ⟨hactive, issued, rfl, hopen⟩
    · rename_i hinactive
      cases h
      exact .inl ⟨by simpa using hinactive, ⟨_, rfl⟩, rfl⟩

/-- The body of the `try` raises `GoogleOIDCError` before it writes anything,
and never for an account that the identity signs in to. -/
theorem exchangeCode_oidc
    (h : exchangeCode (E.services d) r oidc code transaction clientHost u =
      (.error (.fault .googleOidc), v)) :
    v = u ∧ ∀ identity account,
      oidc.exchangeAndVerify code transaction = .ok identity →
        ¬ SignsInTo identity u.world.users account := by
  rcases Work.bind_error.mp h with h | ⟨identity, u₁, hidentity, h⟩
  · obtain ⟨fault, hfault, -, rfl⟩ := perform_error.mp h
    refine ⟨rfl, ?_⟩
    intro identity account hok
    rw [hok] at hfault
    cases hfault
  obtain ⟨t₁, hverified, rfl⟩ := perform_ok.mp hidentity
  obtain ⟨hexchange, rfl⟩ := exchange_ok hverified
  rcases Work.bind_error.mp h with h | ⟨user, u₂, huser, h⟩
  · obtain ⟨fault, hfault, heq, rfl⟩ := perform_error.mp h
    cases heq
    refine ⟨rfl, ?_⟩
    intro identity' account hok hsigns
    rw [hexchange, Except.ok.injEq] at hok
    subst hok
    simp only [SignInEnv.services] at hfault
    rcases provisioned_of_signsInTo d.newUserId d.provisionedAt hsigns with
      ⟨user, users, hok, -⟩ | ⟨e, he⟩
    · rw [hok] at hfault
      cases hfault
    · rw [he] at hfault
      cases hfault
  · exfalso
    split at h
    · rcases Work.bind_error.mp h with h | ⟨issued, u₃, -, h⟩
      · exact openSession_avoids _ _ _ h rfl
      · cases h
    · cases h

theorem failedEvent {actorId : Option Uuid} {target : AuditTarget}
    {m : List (PyStr × Json)} {x : Unit} {action : String}
    (hfailed : action ∈ ["auth.google_failed", "auth.local_failed"])
    (h : auditEvent r.audit action actorId target m u = (.ok x, u')) :
    ∃ event : AuditLog, (isSucceeded event.action = false ∧
        isFailed event.action = true) ∧
      u' = { u with journal := u.journal ++ [event] } := by
  obtain ⟨event, haction, -, hu'⟩ := auditEvent_ok h
  have hboth := failed_actions action hfailed
  rw [← haction] at hboth
  exact ⟨event, hboth, hu'⟩

theorem finishGoogleLogin_ending {answer : Response}
    (h : finishGoogleLogin (E.services d) r q u = (.ok answer, u')) :
    Ending (u.world, u.journal) (u'.world, u'.journal)
      (ReachesInactive E r u.world (.google q)) := by
  obtain ⟨client, u₁, hconfigured, h⟩ := Work.bind_ok.mp h
  obtain ⟨hclient, rfl⟩ := configured_ok hconfigured
  cases client with
  | none =>
      obtain ⟨x, u₂, haudit, h⟩ := Work.bind_ok.mp h
      cases h
      obtain ⟨event, haction, rfl⟩ := failedEvent (by simp) haudit
      refine .failed event haction rfl rfl ?_
      rintro ⟨oidc, _, _, _, _, _, hother, -⟩
      rw [hclient] at hother
      cases hother
  | some oidc =>
      rcases haccepted : accepted r q
          (oidc.readTransactionCookie q.transactionCookie) with
        _ | ⟨code, transaction, clientHost⟩
      · simp only [haccepted] at h
        obtain ⟨x, u₂, haudit, h⟩ := Work.bind_ok.mp h
        cases h
        obtain ⟨event, haction, rfl⟩ := failedEvent (by simp) haudit
        refine .failed event haction rfl rfl ?_
        rintro ⟨oidc', _, _, _, _, _, hother, haccepted', -⟩
        rw [hclient] at hother
        cases hother
        rw [haccepted] at haccepted'
        cases haccepted'
      · simp only [haccepted] at h
        -- the request is inactive as far as the exchange and the account go
        have hinactive : ReachesInactive E r u₁.world (.google q) →
            ∃ identity account,
              oidc.exchangeAndVerify code transaction = .ok identity ∧
              SignsInTo identity u₁.world.users account ∧
              account.isActive = false := by
          rintro ⟨oidc', code', tr', host', identity, account, hother,
            haccepted', hrest⟩
          rw [hclient] at hother
          cases hother
          rw [haccepted] at haccepted'
          cases haccepted'
          exact ⟨identity, account, hrest⟩
        obtain ⟨outcome, u₂, houtcome, h⟩ := Work.bind_ok.mp h
        rcases excepting_ok.mp houtcome with hbody |
          ⟨fault, v, hbody, hcaught, hhandler⟩
        · obtain ⟨identity, user, users, hexchange, hprov, hcase⟩ :=
            exchangeCode_ok hbody
          rcases hcase with ⟨hoff, ⟨refusal, rfl⟩, rfl⟩ |
            ⟨hactive, issued, rfl, hopen⟩
          · cases h
            refine .unrecorded rfl ?_
            rcases provisioned_spec hprov with ⟨account, hsigns, hstate⟩ | hnew
            · exact ⟨oidc, code, transaction, clientHost, identity, account,
                hclient, haccepted, hexchange, hsigns, hstate ▸ hoff⟩
            · rw [hoff] at hnew
              cases hnew
          · cases h
            obtain ⟨⟨event, haction, hjournal⟩, hissued⟩ := openSession_ok hopen
            have hsucceeded := succeeded_actions "auth.google_succeeded" (by simp)
            rw [← haction] at hsucceeded
            refine .opened event hsucceeded hjournal hissued ?_
            intro hreaches
            obtain ⟨identity', account, hexchange', hsigns, hoff⟩ :=
              hinactive hreaches
            rw [hexchange, Except.ok.injEq] at hexchange'
            subst hexchange'
            rcases provisioned_of_signsInTo d.newUserId d.provisionedAt hsigns
              with ⟨user', users', hok, hstate⟩ | ⟨e, he⟩
            · rw [hprov] at hok
              cases hok
              rw [hactive, hoff] at hstate
              cases hstate
            · rw [hprov] at he
              cases he
        · obtain rfl := of_decide_eq_true hcaught
          obtain ⟨rfl, hnobody⟩ := exchangeCode_oidc hbody
          obtain ⟨x, u₃, haudit, hhandler⟩ := Work.bind_ok.mp hhandler
          cases hhandler
          obtain ⟨event, haction, rfl⟩ := failedEvent (by simp) haudit
          cases h
          refine .failed event haction rfl rfl ?_
          intro hreaches
          obtain ⟨identity, account, hexchange, hsigns, -⟩ :=
            hinactive hreaches
          exact hnobody identity account hexchange hsigns

theorem localFailed_ending {answer : Response} {before : SignInTables ops}
    (hsessions : u.world.sessions = before.sessions)
    (h : localFailed r u = (.ok answer, u')) :
    Ending (before, u.journal) (u'.world, u'.journal) False := by
  obtain ⟨x, u₁, haudit, h⟩ := Work.bind_ok.mp h
  cases h
  obtain ⟨event, haction, rfl⟩ := failedEvent (by simp) haudit
  exact .failed event haction rfl hsessions id

/-- A password sign-in leaves the sessions to `openSession`. -/
theorem authenticate_sessions {request : LoginRequest}
    {x x' : SignInTables ops} {found : Option User}
    (h : (E.services d).authenticate request x = .ok (found, x')) :
    x'.sessions = x.sessions := by
  simp only [SignInEnv.services] at h
  split at h
  · cases h
  · cases h
    rfl

theorem finishLocalLogin_ending {answer : Response} {post : LoginPost}
    (h : finishLocalLogin (E.services d) r post u = (.ok answer, u')) :
    Ending (u.world, u.journal) (u'.world, u'.journal) False := by
  rcases hread : readLocalLoginCredentials post with _ | credentials
  · simp only [finishLocalLogin, hread] at h
    exact localFailed_ending rfl h
  rcases hhost : r.audit.clientHost with _ | clientHost
  · simp only [finishLocalLogin, hread, hhost] at h
    exact localFailed_ending rfl h
  · simp only [finishLocalLogin, hread, hhost] at h
    obtain ⟨found, u₁, hfound, h⟩ := Work.bind_ok.mp h
    obtain ⟨t₁, hauthenticated, rfl⟩ := perform_ok.mp hfound
    have hsessions := authenticate_sessions hauthenticated
    cases found with
    | none =>
        exact localFailed_ending (u := { u with world := t₁ }) hsessions h
    | some user =>
        obtain ⟨issued, u₂, hopen, h⟩ := Work.bind_ok.mp h
        cases h
        obtain ⟨⟨event, haction, hjournal⟩, key, hfree, htaken⟩ :=
          openSession_ok hopen
        have hsucceeded := succeeded_actions "auth.local_succeeded" (by simp)
        rw [← haction] at hsucceeded
        refine .opened event hsucceeded hjournal ⟨key, ?_, htaken⟩ id
        exact hsessions ▸ hfree

/-- **Sign-ins on record.** A sign-in that returns a response writes exactly
one success or failure event, which is a success if and only if it issues a
session: unless it comes from the owner of an inactive account, whom
`finish_google_login` turns away without an event. -/
theorem sign_in_recorded_iff (E : SignInEnv ops) (d : SignInDraws)
    (r : SignInRequest) (x : SignIn ops)
    {before after : SignInTables ops × List AuditLog} {answer : Response}
    (h : getDbSession (x.handler E d r) before = (.ok answer, after)) :
    AccountedFor before after ↔ ¬ ReachesInactive E r before.1 x := by
  obtain ⟨u, hu, rfl⟩ := Work.run_ok.mp h
  cases x with
  | google q => exact (finishGoogleLogin_ending hu).accountedFor_iff
  | local_ post => exact (finishLocalLogin_ending hu).accountedFor_iff

end Services

/-- A client of one domain, at a callback for which Google's answer names
`subject` and its address. -/
def sampleOidc (subject : String) : GoogleOidc asciiOps where
  allowedDomains := [PyStr.lit "corp.example"]
  beginTransaction := sampleTransaction
  authorizationUrl := fun _ => .error .googleOidc
  transactionCookie := fun _ => []
  readTransactionCookie := fun cookie => cookie.map fun _ => sampleTransaction
  verifiedClaims := fun _ _ => .ok {
    sub := some (PyStr.lit subject)
    email := some (PyStr.lit "ana@corp.example")
    emailVerified := true
    hd := some (PyStr.lit "corp.example")
    name := some (PyStr.lit "Ana") }
where
  sampleTransaction : OAuthTransaction :=
    ⟨PyStr.lit "state", PyStr.lit "nonce", PyStr.lit "verifier", 600⟩

def sampleEnv : SignInEnv asciiOps where
  authenticator := strict
  sessions := defaultSessions
  stored := .ok none

def sampleDraws : SignInDraws where
  newUserId := 2
  rawToken := sampleToken
  salt := []
  provisionedAt := 0
  authenticatedAt := 0
  revokedAt := 0
  issuedAt := 0
  touchedAt := 0

def sampleRequest : SignInRequest where
  audit := {
    clientHost := some (PyStr.lit "192.0.2.1")
    compressedIp := some
    ipDigest := id
    newId := fun n => BitVec.ofNat 128 (100 + n)
    now := 0
    flushFails := fun _ => false }
  token := none
  userAgent := none

def sampleCallback (subject : String) : SignIn asciiOps :=
  .google {
    cached := some (sampleOidc subject)
    code := some (PyStr.lit "4/code")
    state := some (PyStr.lit "state")
    error := none
    transactionCookie := some (PyStr.lit "cookie") }

/-- Ana's account, active or not, and no session. -/
def accountOf (isActive : Bool) : SignInTables asciiOps where
  users := ⟨[{ employee with
    googleSub := some (PyStr.lit "sub-ana"), isActive := isActive }], by
      cases isActive <;> decide +kernel⟩
  credentials := fun _ => none
  limits := fun _ => none
  sessions := .empty

def sampleSignIn (isActive : Bool) :
    Except Raised Response × (SignInTables asciiOps × List AuditLog) :=
  getDbSession
    ((sampleCallback "sub-ana").handler sampleEnv sampleDraws sampleRequest)
    (accountOf isActive, [])

def statusOf : Except Raised Response → Option ℕ
  | .ok answer => some answer.status
  | .error _ => none

theorem sampleSignIn_answers (isActive : Bool) :
    statusOf (sampleSignIn isActive).1 = some (if isActive then 303 else 403) ∧
      (sampleSignIn isActive).2.2.length = if isActive then 1 else 0 := by
  cases isActive <;> decide +kernel

theorem exists_answer {result : Except Raised Response ×
    (SignInTables asciiOps × List AuditLog)} {status : ℕ}
    (h : statusOf result.1 = some status) :
    ∃ answer : Response, answer.status = status ∧
      result = (.ok answer, result.2) := by
  rcases result with ⟨_ | answer, after⟩
  · cases h
  · exact ⟨answer, Option.some.inj h, rfl⟩

/-- Ana signs in: one success event. -/
theorem active_account_recorded :
    ∃ answer after, sampleSignIn true = (.ok answer, after) ∧
      answer.status = 303 ∧ AccountedFor (accountOf true, []) after := by
  obtain ⟨answer, hstatus, hrun⟩ :=
    exists_answer (sampleSignIn_answers true).1
  refine ⟨answer, _, hrun, hstatus, ?_⟩
  refine (sign_in_recorded_iff sampleEnv sampleDraws sampleRequest
    (sampleCallback "sub-ana") hrun).mpr ?_
  rintro ⟨oidc, code, transaction, host, identity, account, -, -, -, hsigns,
    hoff⟩
  -- the one account is active
  obtain ⟨subject, email, -, -, hcase⟩ := hsigns
  have hmem : account ∈ (accountOf true).users.rows := by
    rcases hcase with ⟨hsub, -⟩ | ⟨-, hmail, -⟩
    · exact (UserTable.bySub_spec hsub).1
    · exact (UserTable.byEmail_spec hmail).1
  simp only [accountOf, List.mem_singleton] at hmem
  rw [hmem] at hoff
  cases hoff

/-- With her account deactivated she is refused, and nothing is recorded. -/
theorem inactive_account_unrecorded :
    ¬ ∀ (E : SignInEnv asciiOps) (d : SignInDraws) (r : SignInRequest)
      (x : SignIn asciiOps) (before after : SignInTables asciiOps × List AuditLog)
      (answer : Response),
      getDbSession (x.handler E d r) before = (.ok answer, after) →
        AccountedFor before after := by
  intro hall
  obtain ⟨hstatus, hlength⟩ := sampleSignIn_answers false
  obtain ⟨answer, -, hrun⟩ := exists_answer hstatus
  obtain ⟨new, hnew, event, hevent, -⟩ := hall _ _ _ _ _ _ answer hrun
  rw [List.nil_append] at hnew
  have hnone : new = [] := by
    rw [← hnew]
    exact List.eq_nil_of_length_eq_zero hlength
  rw [hnone] at hevent
  cases hevent

end LeakcheckHub.Routers
