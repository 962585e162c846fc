import LeakcheckHub.Foundation.Base64

/-!
# CSRF tokens

`CSRFProtector` and `CSRFMiddleware` of `app/auth/csrf.py`. A token is a nonce
with the HMAC of the session it was issued for and the nonce; every session
cookie that is not a session token stands for one anonymous session.

§1 the protector · §2 the middleware · §3 what is signed · §4 the law.
-/

namespace LeakcheckHub.Auth

open Foundation

/-! ## §1  The protector -/

def csrfCookieName : PyStr := PyStr.lit "__Host-leakcheck-csrf"

def csrfHeaderName : PyStr := PyStr.lit "X-CSRF-Token"

def sessionCookieName : PyStr := PyStr.lit "__Host-leakcheck-session"

/-- A full match of `_TOKEN_PATTERN`. -/
def matchesToken (s : PyStr) : Bool := s.length == 43 && s.all isUrlSafe

/-- A full match of `_SIGNED_TOKEN_PATTERN`. -/
def matchesSignedToken (s : PyStr) : Bool :=
  matchesToken (s.take 43) && (s.drop 43).head? == some 46 &&
    matchesToken (s.drop 44)

/-- `_session_context`. -/
def sessionContext (sessionToken : Option PyStr) : Bytes :=
  match sessionToken with
  | some token =>
      if matchesToken token then PyStr.asciiLit "session" ++ 0 :: toAscii token
      else PyStr.asciiLit "anonymous"
  | none => PyStr.asciiLit "anonymous"

/-- The arguments of `set_cookie`. -/
structure SetCookie where
  key : PyStr
  value : PyStr
  path : PyStr
  secure : Bool
  httponly : Bool
  samesite : PyStr
deriving DecidableEq, Repr

structure CSRFProtector where
  hmac : Hmac
  /-- The session secret in UTF-8. -/
  sessionSecret : Bytes

namespace CSRFProtector

variable (P : CSRFProtector)

/-- `_key`. -/
def key : Bytes :=
  P.hmac.digest P.sessionSecret (PyStr.asciiLit "leakcheck/csrf/v1")

/-- What `_signature` signs. -/
def message (nonce : PyStr) (sessionToken : Option PyStr) : Bytes :=
  PyStr.asciiLit "leakcheck/csrf/v1" ++ 0 ::
    (sessionContext sessionToken ++ 0 :: toAscii nonce)

/-- `_signature`. -/
def signature (nonce : PyStr) (sessionToken : Option PyStr) : PyStr :=
  base64url (P.hmac.digest P.key (message nonce sessionToken))

/-- `secrets.token_urlsafe(32)` of the random bytes. -/
def nonceOf (random : { b : Bytes // b.length = 32 }) : PyStr :=
  base64url random.val

/-- `issue`, with the cookie that it sets. -/
def issue (random : { b : Bytes // b.length = 32 })
    (sessionToken : Option PyStr) : PyStr × SetCookie :=
  let nonce := nonceOf random
  let token := nonce ++ 46 :: P.signature nonce sessionToken
  (token, ⟨csrfCookieName, token, PyStr.lit "/", true, false, PyStr.lit "lax"⟩)

/-- `valid`; the patterns admit ASCII only, on which `compare_digest` is
equality. -/
def valid (sessionToken cookieValue suppliedValue : Option PyStr) : Bool :=
  match cookieValue, suppliedValue with
  | some cookie, some supplied =>
      if !matchesSignedToken cookie || !matchesSignedToken supplied ||
          cookie != supplied then false
      else
        let nonce := cookie.takeWhile fun c => c != 46
        let signature := (cookie.dropWhile fun c => c != 46).drop 1
        signature == P.signature nonce sessionToken
  | _, _ => false

end CSRFProtector

/-! ## §2  The middleware -/

/-- An ASGI scope; one that is not of HTTP has no method. -/
structure AsgiScope where
  type : PyStr
  method : PyStr
  headers : List (Bytes × Bytes)
deriving DecidableEq, Repr

/-- What `Request` of the framework makes of the headers. -/
structure RequestReader where
  cookie : AsgiScope → PyStr → Option PyStr
  header : AsgiScope → PyStr → Option PyStr

/-- `_SAFE_METHODS`. -/
def safeMethods : List PyStr :=
  ["GET", "HEAD", "OPTIONS", "TRACE"].map PyStr.lit

/-- The call goes on to the application, or is answered here. -/
inductive Forwarded where
  | app
  | response (status : ℕ) (body : PyStr) (cacheControl : PyStr)
deriving DecidableEq, Repr

/-- `CSRFMiddleware.__call__`. -/
def csrfMiddleware (P : CSRFProtector) (reader : RequestReader)
    (scope : AsgiScope) : Forwarded :=
  if scope.type != PyStr.lit "http" || safeMethods.contains scope.method then
    .app
  else if !P.valid (reader.cookie scope sessionCookieName)
      (reader.cookie scope csrfCookieName)
      (reader.header scope csrfHeaderName) then
    .response 403 (PyStr.lit "CSRF validation failed.") (PyStr.lit "no-store")
  else .app

/-! ## §3  What is signed -/

/-- The cookie holds a session token. -/
def WellFormed (sessionToken : Option PyStr) : Prop :=
  ∃ token, sessionToken = some token ∧ matchesToken token = true

/-- One session token, or none that is well-formed. -/
def SameSession (s s' : Option PyStr) : Prop :=
  (WellFormed s ∧ s = s') ∨ (¬ WellFormed s ∧ ¬ WellFormed s')

theorem sessionContext_session {token : PyStr} (h : matchesToken token = true) :
    sessionContext (some token) =
      PyStr.asciiLit "session" ++ 0 :: toAscii token := if_pos h

theorem sessionContext_anonymous {s : Option PyStr} (h : ¬ WellFormed s) :
    sessionContext s = PyStr.asciiLit "anonymous" := by
  cases s with
  | none => rfl
  | some token =>
      refine if_neg fun htoken => h ?_
      exact ⟨token, rfl, htoken⟩

theorem isAscii_of_matchesToken {token : PyStr}
    (h : matchesToken token = true) : token.isAscii = true := by
  rw [matchesToken, Bool.and_eq_true] at h
  exact isAscii_of_urlSafe h.2

/-- The context tells the sessions apart. -/
theorem sessionContext_eq_iff {s s' : Option PyStr} :
    sessionContext s = sessionContext s' ↔ SameSession s s' := by
  have hapart : ∀ token : PyStr, PyStr.asciiLit "session" ++ 0 :: toAscii token ≠
      PyStr.asciiLit "anonymous" := by
    intro token h
    have hfirst : some (115 : UInt8) = some 97 := congrArg List.head? h
    exact absurd hfirst (by decide)
  by_cases hs : WellFormed s
  · obtain ⟨token, rfl, htoken⟩ := hs
    rw [sessionContext_session htoken]
    by_cases hs' : WellFormed s'
    · obtain ⟨token', rfl, htoken'⟩ := hs'
      rw [sessionContext_session htoken']
      constructor
      · intro h
        have htail := List.append_cancel_left h
        rw [List.cons.injEq] at htail
        have heq := toAscii_inj (isAscii_of_matchesToken htoken)
          (isAscii_of_matchesToken htoken') htail.2
        exact .inl ⟨⟨token, rfl, htoken⟩, congrArg some heq⟩
      · rintro (⟨-, heq⟩ | ⟨hnot, -⟩)
        · rw [Option.some.inj heq]
        · exact absurd ⟨token, rfl, htoken⟩ hnot
    · rw [sessionContext_anonymous hs']
      refine iff_of_false (hapart token) ?_
      rintro (⟨-, heq⟩ | ⟨hnot, -⟩)
      · rw [← heq] at hs'
        exact hs' ⟨token, rfl, htoken⟩
      · exact hnot ⟨token, rfl, htoken⟩
  · rw [sessionContext_anonymous hs]
    by_cases hs' : WellFormed s'
    · obtain ⟨token', rfl, htoken'⟩ := hs'
      rw [sessionContext_session htoken']
      refine iff_of_false (Ne.symm (hapart token')) ?_
      rintro (⟨hwell, -⟩ | ⟨-, hnot⟩)
      · exact hs hwell
      · exact hnot ⟨token', rfl, htoken'⟩
    · rw [sessionContext_anonymous hs']
      exact iff_of_true rfl (.inr ⟨hs, hs'⟩)

theorem message_eq_iff (nonce : PyStr) {s s' : Option PyStr} :
    CSRFProtector.message nonce s = CSRFProtector.message nonce s' ↔
      SameSession s s' := by
  rw [← sessionContext_eq_iff]
  constructor
  · intro h
    have htail := List.append_cancel_left h
    rw [List.cons.injEq] at htail
    exact List.append_cancel_right htail.2
  · intro h
    unfold CSRFProtector.message
    rw [h]

/-! ## §4  The law -/

section Law

variable {P : CSRFProtector} {random : { b : Bytes // b.length = 32 }}
  {s s' : Option PyStr}

theorem matchesToken_base64url {b : Bytes} (h : b.length = 32) :
    matchesToken (base64url b) = true := by
  obtain ⟨hlength, hall, -⟩ := base64url_spec b
  rw [matchesToken, hlength, h, hall]
  rfl

/-- A nonce, a dot and a signature are a signed token, and are taken apart at
the dot. -/
theorem signedToken_spec {nonce signature : PyStr}
    (hnonce : matchesToken nonce = true)
    (hsignature : matchesToken signature = true) :
    matchesSignedToken (nonce ++ 46 :: signature) = true ∧
      ((nonce ++ 46 :: signature).takeWhile fun c => c != 46) = nonce ∧
      ((nonce ++ 46 :: signature).dropWhile fun c => c != 46).drop 1 =
        signature := by
  have hlength : nonce.length = 43 := by
    rw [matchesToken, Bool.and_eq_true, beq_iff_eq] at hnonce
    exact hnonce.1
  have hsafe : nonce.all isUrlSafe = true := by
    rw [matchesToken, Bool.and_eq_true] at hnonce
    exact hnonce.2
  have htake : (nonce ++ 46 :: signature).take 43 = nonce := by
    rw [← hlength, List.take_left']
    rfl
  have hdrop : (nonce ++ 46 :: signature).drop 43 = 46 :: signature := by
    rw [← hlength, List.drop_left']
    rfl
  have hrest : (nonce ++ 46 :: signature).drop 44 = signature := by
    rw [show 44 = 43 + 1 from rfl, ← List.drop_drop, hdrop]
    rfl
  refine ⟨?_, split_dot hsafe signature⟩
  rw [matchesSignedToken, htake, hdrop, hrest, hnonce, hsignature]
  rfl

theorem valid_self_iff {nonce signature : PyStr}
    (hnonce : matchesToken nonce = true)
    (hsignature : matchesToken signature = true) :
    P.valid s' (some (nonce ++ 46 :: signature))
        (some (nonce ++ 46 :: signature)) = true ↔
      signature = P.signature nonce s' := by
  obtain ⟨hsigned, htake, hdrop⟩ := signedToken_spec hnonce hsignature
  unfold CSRFProtector.valid
  simp only [hsigned, Bool.not_true, bne_self_eq_false, Bool.or_self,
    Bool.false_eq_true, if_false, htake, hdrop, beq_iff_eq]

/-- The digest of these two messages tells them apart. -/
def CollisionFree (H : Hmac) (key m m' : Bytes) : Prop :=
  H.digest key m = H.digest key m' → m = m'

theorem valid_issue_iff
    (hcollision : CollisionFree P.hmac P.key
      (CSRFProtector.message (CSRFProtector.nonceOf random) s)
      (CSRFProtector.message (CSRFProtector.nonceOf random) s')) :
    P.valid s' (some (P.issue random s).1) (some (P.issue random s).1) = true ↔
      SameSession s s' := by
  have hnonce : matchesToken (CSRFProtector.nonceOf random) = true :=
    matchesToken_base64url random.property
  have hsignature : matchesToken
      (P.signature (CSRFProtector.nonceOf random) s) = true :=
    matchesToken_base64url (P.hmac.length_digest _ _)
  have htoken : (P.issue random s).1 = CSRFProtector.nonceOf random ++
      46 :: P.signature (CSRFProtector.nonceOf random) s := rfl
  rw [htoken, valid_self_iff hnonce hsignature,
    ← message_eq_iff (CSRFProtector.nonceOf random)]
  constructor
  · intro h
    exact hcollision (base64url_injective h)
  · intro h
    unfold CSRFProtector.signature
    rw [h]

theorem eq_of_valid {cookieValue suppliedValue : Option PyStr}
    (h : P.valid s cookieValue suppliedValue = true) :
    cookieValue = suppliedValue := by
  unfold CSRFProtector.valid at h
  split at h
  · split at h
    · cases h
    · rename_i hpassed
      rw [Bool.or_eq_true, not_or, bne_iff_ne, not_not] at hpassed
      rw [hpassed.2]
  · cases h

theorem csrfMiddleware_app_iff {reader : RequestReader} {scope : AsgiScope}
    (hhttp : scope.type = PyStr.lit "http")
    (hmethod : scope.method ∉ safeMethods) :
    csrfMiddleware P reader scope = .app ↔
      P.valid (reader.cookie scope sessionCookieName)
        (reader.cookie scope csrfCookieName)
        (reader.header scope csrfHeaderName) = true := by
  have hchecked : (scope.type != PyStr.lit "http" ||
      safeMethods.contains scope.method) = false := by
    rw [hhttp, bne_self_eq_false, Bool.false_or]
    simpa using hmethod
  unfold csrfMiddleware
  rw [hchecked, if_neg Bool.false_ne_true]
  split
  · rename_i hrefused
    simpa using hrefused
  · rename_i hpassed
    simpa using hpassed

/-- **CSRF tokens.** A token is valid with itself for the session that it was
issued for, all sessions that have no token counting as one; the cookie and
the header must agree; and the middleware lets an unsafe request pass just
when they are valid. -/
theorem csrf_binds_session (P : CSRFProtector)
    (random : { b : Bytes // b.length = 32 }) (s s' : Option PyStr)
    (hcollision : CollisionFree P.hmac P.key
      (CSRFProtector.message (CSRFProtector.nonceOf random) s)
      (CSRFProtector.message (CSRFProtector.nonceOf random) s')) :
    (P.valid s' (some (P.issue random s).1) (some (P.issue random s).1) =
        true ↔ SameSession s s') ∧
    (∀ cookieValue suppliedValue,
      P.valid s' cookieValue suppliedValue = true →
        cookieValue = suppliedValue) ∧
    ∀ (reader : RequestReader) (scope : AsgiScope),
      scope.type = PyStr.lit "http" → scope.method ∉ safeMethods →
        (csrfMiddleware P reader scope = .app ↔
          P.valid (reader.cookie scope sessionCookieName)
            (reader.cookie scope csrfCookieName)
            (reader.header scope csrfHeaderName) = true) :=
  ⟨valid_issue_iff hcollision, fun _ _ => eq_of_valid,
    fun _ _ => csrfMiddleware_app_iff⟩

end Law

def sampleSecret : Bytes :=
  PyStr.asciiLit "an-example-session-secret-of-32b"

def sampleRandom : { b : Bytes // b.length = 32 } :=
  ⟨List.replicate 32 7, rfl⟩

def firstSession : Option PyStr := some (List.replicate 43 120)

def secondSession : Option PyStr := some (List.replicate 43 121)

def sampleKey : ℕ :=
  0x2542bdb024883dd3957cd50bb4f84209f16c767f663c0df0255567e0745b9f2f

/-- HMAC-SHA-256 of the two messages. -/
def sampleProtector : CSRFProtector where
  hmac := Hmac.ofVectors [
    (sampleSecret, PyStr.asciiLit "leakcheck/csrf/v1", sampleKey),
    (bigEndian 32 sampleKey,
      CSRFProtector.message (CSRFProtector.nonceOf sampleRandom) firstSession,
      0x648a87c007233b655e9ecf0ca3c8f37ba9a87dcbe3475d9079649ec2909e6570),
    (bigEndian 32 sampleKey,
      CSRFProtector.message (CSRFProtector.nonceOf sampleRandom) secondSession,
      0x24559500b1967abb8729f89d01407a4ca9efd6b0a724d0d43496d6fd990d4fe2)]
  sessionSecret := sampleSecret

theorem sampleProtector_collisionFree :
    CollisionFree sampleProtector.hmac sampleProtector.key
      (CSRFProtector.message (CSRFProtector.nonceOf sampleRandom) firstSession)
      (CSRFProtector.message (CSRFProtector.nonceOf sampleRandom)
        secondSession) := by
  intro h
  exact absurd h (by decide +kernel)

theorem csrf_binds_first_session :
    sampleProtector.valid secondSession
        (some (sampleProtector.issue sampleRandom firstSession).1)
        (some (sampleProtector.issue sampleRandom firstSession).1) = false := by
  have hiff := (csrf_binds_session sampleProtector sampleRandom firstSession
    secondSession sampleProtector_collisionFree).1
  have hother : ¬ SameSession firstSession secondSession := by
    rintro (⟨-, heq⟩ | ⟨hnot, -⟩)
    · exact absurd heq (by decide)
    · exact hnot ⟨_, rfl, by decide⟩
  exact Bool.eq_false_iff.mpr fun h => hother (hiff.mp h)

end LeakcheckHub.Auth
