import LeakcheckHub.Foundation.Coroutines
import LeakcheckHub.Foundation.Forms
import LeakcheckHub.Foundation.Url
import LeakcheckHub.Routers.OAuthCookie
import Mathlib.Data.List.Dedup

/-!
# The Google client

`GoogleOIDC` of `app/auth/google.py`: discovery, the exchange of a code, the
signing keys and the checks of an ID token, with both caches. The sign-ins of
one client share its caches and run interleaved at their requests; what Google
answers is arbitrary, and the JWT library is a parameter.

§1 requests and answers · §2 documents · §3 the client · §4 sign-ins ·
§5 what an answer has to be for · §6 safety of the parts · §7 requests spent ·
§8 a sign-in alone · §9 every run · §10 a client in the handlers.
-/

namespace LeakcheckHub.Routers

open Foundation Accounts

/-! ## §1  Requests and answers -/

inductive HttpMethod where
  | get
  | post
deriving DecidableEq, Repr

structure HttpRequest where
  method : HttpMethod
  url : PyStr
  data : Option (List (PyStr × PyStr))
deriving DecidableEq, Repr

/-- What `response.json()` raises. -/
inductive BodyFault where
  | jsonDecode
  | other (name : PyStr)

structure HttpResponse where
  /-- `headers.get("cache-control", "")`. -/
  cacheControl : PyStr
  json : Except BodyFault Json

/-- What a request and `raise_for_status` raise. -/
inductive HttpFault where
  | httpError
  | other (name : PyStr)

abbrev HttpAnswer : Type := Except HttpFault HttpResponse

/-- The end of `_request`. -/
def responseOf : HttpAnswer → Except Fault HttpResponse
  | .ok response => .ok response
  | .error .httpError => .error .googleOidc
  | .error (.other name) => .error (.other name)

def jsonPayload (response : HttpResponse) : Except Fault Json :=
  match response.json with
  | .ok payload => .ok payload
  | .error .jsonDecode => .error .googleOidc
  | .error (.other name) => .error (.other name)

/-! ## §2  Documents -/

def googleDiscoveryUrl : PyStr :=
  PyStr.lit "https://accounts.google.com/.well-known/openid-configuration"

def googleIssuers : List PyStr :=
  [PyStr.lit "https://accounts.google.com", PyStr.lit "accounts.google.com"]

def googleEndpointHosts : List PyStr :=
  [PyStr.lit "accounts.google.com", PyStr.lit "oauth2.googleapis.com",
    PyStr.lit "www.googleapis.com"]

section Documents

variable (tables : UrlTables) (decimal : CodePoint → Option ℕ)

def trustedGoogleEndpoint (value : PyStr) : Bool :=
  match Url.split tables value with
  | none => false
  | some parsed =>
      parsed.scheme == PyStr.lit "https" &&
        (parsed.hostname tables).any googleEndpointHosts.contains &&
        !parsed.hasUserinfo && parsed.query.isEmpty && parsed.fragment.isEmpty

/-- A discovery document that was checked. -/
structure ProviderMetadata where
  issuer : PyStr
  authorizationEndpoint : PyStr
  tokenEndpoint : PyStr
  jwksUri : PyStr
  google : issuer ∈ googleIssuers
  trusted : ∀ endpoint ∈ [authorizationEndpoint, tokenEndpoint, jwksUri],
    trustedGoogleEndpoint tables endpoint = true

def strField (name : String) (entries : List (PyStr × Json)) : Option PyStr :=
  match field name entries with
  | some (.str s) => some s
  | _ => none

def ProviderMetadata.fromPayload (payload : Json) :
    Except Fault (ProviderMetadata tables) :=
  match payload with
  | .obj entries =>
      match strField "issuer" entries, strField "authorization_endpoint" entries,
          strField "token_endpoint" entries, strField "jwks_uri" entries with
      | some issuer, some authorizationEndpoint, some tokenEndpoint, some jwksUri =>
          if h : issuer ∈ googleIssuers ∧
              ∀ endpoint ∈ [authorizationEndpoint, tokenEndpoint, jwksUri],
                trustedGoogleEndpoint tables endpoint = true then
            .ok ⟨issuer, authorizationEndpoint, tokenEndpoint, jwksUri, h.1, h.2⟩
          else .error .googleOidc
      | _, _, _, _ => .error .googleOidc
  | _ => .error .googleOidc

abbrev Jwk : Type := List (PyStr × Json)

/-- The keys of a key set that sign ID tokens. -/
def signingKey (value : Json) : Option (PyStr × Jwk) :=
  match value with
  | .obj entries =>
      match strField "kid" entries with
      | some kid =>
          if strField "kty" entries = some (PyStr.lit "RSA") ∧
              strField "use" entries = some (PyStr.lit "sig") ∧
              strField "alg" entries = some (PyStr.lit "RS256") then
            some (kid, entries)
          else none
      | none => none
  | _ => none

/-- `keys[kid] = value`. -/
def setKey (keys : List (PyStr × Jwk)) (key : PyStr × Jwk) : List (PyStr × Jwk) :=
  key :: keys.filter fun k => k.1 != key.1

/-- The dictionary of a key set; the order of its keys is not looked at. -/
def signingKeys (payload : Json) : Except Fault (List (PyStr × Jwk)) :=
  match payload with
  | .obj entries =>
      match field "keys" entries with
      | some (.arr values) =>
          let keys := (values.filterMap signingKey).foldl setKey []
          if keys.isEmpty then .error .googleOidc else .ok keys
      | _ => .error .googleOidc
  | _ => .error .googleOidc

def lookupKey (kid : PyStr) (keys : List (PyStr × Jwk)) : Option Jwk :=
  (keys.find? fun k => k.1 == kid).map Prod.snd

/-- A decimal digit of any script. -/
def isDecimal (c : CodePoint) : Bool :=
  PyStr.isAsciiDigit c || (127 ≤ c.val && (decimal c).isSome)

/-- The digits of a directive, by `_CACHE_CONTROL_MAX_AGE` between two commas. -/
def maxAgeOf (directive : PyStr) : Option PyStr :=
  let text := directive.dropWhile PyStr.isSpace
  if PyStr.asciiLower (text.take 8) = PyStr.lit "max-age=" then
    let digits := (text.drop 8).takeWhile (isDecimal decimal)
    if !digits.isEmpty &&
        ((text.drop 8).dropWhile (isDecimal decimal)).all PyStr.isSpace then
      some digits
    else none
  else none

def day : ℤ := seconds (24 * 60 * 60)

/-- `_cache_expiry`; more than 4300 digits are the `ValueError` of `int`. -/
def cacheExpiry (response : HttpResponse) (defaultSeconds now : ℤ) :
    Except Fault ℤ :=
  match (response.cacheControl.splitOn 44).findSome? (maxAgeOf decimal) with
  | none => .ok (now + seconds (min (max defaultSeconds 0) (24 * 60 * 60)))
  | some digits =>
      match PyStr.toInt decimal digits with
      | none => .error (.value (PyStr.lit "ValueError"))
      | some maxAge => .ok (now + seconds (min (max maxAge 0) (24 * 60 * 60)))

end Documents

/-! ## §3  The client -/

/-- What the JWT library raises. -/
inductive JwtFault where
  /-- `InvalidTokenError`. -/
  | invalidToken
  | value
  | type
  | other (name : PyStr)

/-- The JWT library. -/
structure Jwt where
  /-- `get_unverified_header`. -/
  unverifiedHeader : PyStr → Except JwtFault (List (PyStr × Json))
  /-- `RSAAlgorithm.from_jwk` and `decode` for RS256, Google's issuers, a leeway
  of a minute and the required claims: a token, a key, an audience and the
  time. -/
  decode : PyStr → Jwk → PyStr → ℤ → Except JwtFault (List (PyStr × Json))

/-- `GoogleOIDC` without its caches and its transaction key. -/
structure GoogleClient where
  clientId : PyStr
  clientSecret : PyStr
  redirectUri : PyStr
  allowedDomains : List PyStr
  sha256 : Bytes → Bytes
  tables : UrlTables
  decimal : CodePoint → Option ℕ
  jwt : Jwt

/-- `_metadata_cache` and `_jwks_cache`, each with its expiry. -/
structure OidcCaches (tables : UrlTables) where
  metadata : Option (ProviderMetadata tables × ℤ)
  jwks : Option (List (PyStr × Jwk) × ℤ)

def OidcCaches.empty (tables : UrlTables) : OidcCaches tables := ⟨none, none⟩

abbrev OidcTask (tables : UrlTables) (α : Type) : Type :=
  Task (OidcCaches tables) HttpRequest HttpAnswer Fault α

def unexpired {α : Type} (cache : Option (α × ℤ)) (now : ℤ) : Option α :=
  (cache.filter fun entry => decide (now < entry.2)).map Prod.fst

/-- `hmac.compare_digest` on texts; the `TypeError` of one that is not ASCII. -/
def compareDigest (a b : PyStr) : Except Fault Bool :=
  if a.isAscii && b.isAscii then .ok (a == b)
  else .error (.other (PyStr.lit "TypeError"))

def OAuthTransaction.codeChallenge (client : GoogleClient)
    (transaction : OAuthTransaction) : PyStr :=
  base64url (client.sha256 (toAscii transaction.codeVerifier))

namespace GoogleClient

variable (client : GoogleClient)

def ask (request : HttpRequest) : OidcTask client.tables HttpResponse := do
  let answer ← Task.request request
  Task.ofExcept (responseOf answer)

def discoveryRequest : HttpRequest := ⟨.get, googleDiscoveryUrl, none⟩

def metadata : OidcTask client.tables (ProviderMetadata client.tables) := do
  let cached ← Task.inspect fun now caches => unexpired caches.metadata now
  match cached with
  | some metadata => pure metadata
  | none =>
      let response ← client.ask discoveryRequest
      let payload ← Task.ofExcept (jsonPayload response)
      let metadata ← Task.ofExcept (ProviderMetadata.fromPayload client.tables payload)
      let expiry ← Task.inspect fun now _ =>
        cacheExpiry client.decimal response 3600 now
      let expiry ← Task.ofExcept expiry
      Task.modify fun _ caches => { caches with metadata := some (metadata, expiry) }
      pure metadata

/-- The form of a token request. -/
def tokenForm (code codeVerifier : PyStr) : List (PyStr × PyStr) :=
  [(PyStr.lit "client_id", client.clientId),
    (PyStr.lit "client_secret", client.clientSecret), (PyStr.lit "code", code),
    (PyStr.lit "code_verifier", codeVerifier),
    (PyStr.lit "grant_type", PyStr.lit "authorization_code"),
    (PyStr.lit "redirect_uri", client.redirectUri)]

def tokenRequest (metadata : ProviderMetadata client.tables)
    (code codeVerifier : PyStr) : HttpRequest :=
  ⟨.post, metadata.tokenEndpoint, some (client.tokenForm code codeVerifier)⟩

def tokenExchange (metadata : ProviderMetadata client.tables)
    (code codeVerifier : PyStr) : OidcTask client.tables (List (PyStr × Json)) := do
  let response ← client.ask (client.tokenRequest metadata code codeVerifier)
  let payload ← Task.ofExcept (jsonPayload response)
  match payload with
  | .obj entries => pure entries
  | _ => Task.ofExcept (.error .googleOidc)

def jwksRequest {tables : UrlTables} (metadata : ProviderMetadata tables) :
    HttpRequest :=
  ⟨.get, metadata.jwksUri, none⟩

def jwks : OidcTask client.tables (List (PyStr × Jwk)) := do
  let cached ← Task.inspect fun now caches => unexpired caches.jwks now
  match cached with
  | some keys => pure keys
  | none =>
      let metadata ← client.metadata
      let response ← client.ask (jwksRequest metadata)
      let payload ← Task.ofExcept (jsonPayload response)
      let keys ← Task.ofExcept (signingKeys payload)
      let expiry ← Task.inspect fun now _ =>
        cacheExpiry client.decimal response 300 now
      let expiry ← Task.ofExcept expiry
      Task.modify fun _ caches => { caches with jwks := some (keys, expiry) }
      pure keys

/-- An unknown key id has the key set fetched again, once. -/
def findJwk (kid : PyStr) : OidcTask client.tables Jwk := do
  let keys ← client.jwks
  match lookupKey kid keys with
  | some key => pure key
  | none =>
      Task.modify fun _ caches => { caches with jwks := none }
      let keys ← client.jwks
      match lookupKey kid keys with
      | some key => pure key
      | none => Task.ofExcept (.error .googleOidc)

/-- The key id of an ID token. -/
def tokenKid (idToken : PyStr) : Except Fault PyStr :=
  match client.jwt.unverifiedHeader idToken with
  | .error .invalidToken => .error .googleOidc
  | .error .value => .error (.value (PyStr.lit "ValueError"))
  | .error .type => .error (.other (PyStr.lit "TypeError"))
  | .error (.other name) => .error (.other name)
  | .ok header =>
      match strField "kid" header with
      | some kid =>
          if strField "alg" header = some (PyStr.lit "RS256") ∧ kid ≠ [] ∧
              kid.length ≤ 128 then .ok kid
          else .error .googleOidc
      | none => .error .googleOidc

/-- The `try` around `from_jwk` and `decode`. -/
def decodeToken (idToken : PyStr) (jwk : Jwk) (now : ℤ) :
    Except Fault (List (PyStr × Json)) :=
  match client.jwt.decode idToken jwk client.clientId now with
  | .ok claims => .ok claims
  | .error (.other name) => .error (.other name)
  | .error _ => .error .googleOidc

/-- The checks of a decoded token: its nonce, and the party that a token for
several audiences was issued to. -/
def checkClaims (claims : List (PyStr × Json)) (nonce : PyStr) :
    Except Fault Unit := do
  match strField "nonce" claims with
  | none => .error .googleOidc
  | some tokenNonce =>
      if !tokenNonce.isAscii then .error .googleOidc
      else if !(← compareDigest tokenNonce nonce) then .error .googleOidc
      else
        match field "aud" claims with
        | some (.arr _) =>
            match strField "azp" claims with
            | none => .error .googleOidc
            | some azp =>
                if !(← compareDigest azp client.clientId) then .error .googleOidc
                else .ok ()
        | _ => .ok ()

def verifyIdToken (idToken nonce : PyStr) :
    OidcTask client.tables (List (PyStr × Json)) := do
  let kid ← Task.ofExcept (client.tokenKid idToken)
  let jwk ← client.findJwk kid
  let claims ← Task.inspect fun now _ => client.decodeToken idToken jwk now
  let claims ← Task.ofExcept claims
  Task.ofExcept (client.checkClaims claims nonce)
  pure claims

/-- The ID token of a token response. -/
def idTokenOf (payload : List (PyStr × Json)) : Except Fault PyStr :=
  match strField "id_token" payload with
  | some idToken =>
      if idToken ≠ [] ∧ idToken.length ≤ 16 * 1024 then .ok idToken
      else .error .googleOidc
  | none => .error .googleOidc

/-- `exchange_and_verify` up to the claims. -/
def verifiedClaims (code : PyStr) (transaction : OAuthTransaction) :
    OidcTask client.tables (List (PyStr × Json)) := do
  let metadata ← client.metadata
  let payload ← client.tokenExchange metadata code transaction.codeVerifier
  let idToken ← Task.ofExcept (idTokenOf payload)
  client.verifyIdToken idToken transaction.nonce

end GoogleClient

/-- The claims that `_identity_from_claims` reads. -/
def Claims.ofEntries (claims : List (PyStr × Json)) : Claims where
  sub := strField "sub" claims
  email := strField "email" claims
  emailVerified := match field "email_verified" claims with
    | some (.bool true) => true
    | _ => false
  hd := strField "hd" claims
  name := strField "name" claims

namespace GoogleClient

variable (client : GoogleClient) (ops : TextOps)

def exchangeAndVerify (code : PyStr) (transaction : OAuthTransaction) :
    OidcTask client.tables (GoogleIdentity ops) := do
  if code.isEmpty || 2048 < code.length then Task.ofExcept (.error .googleOidc)
  else
    let claims ← client.verifiedClaims code transaction
    Task.ofExcept (identityFromClaims ops client.allowedDomains
      (Claims.ofEntries claims))

/-- The parameters of the redirect; `hd` only where one domain is allowed. -/
def authorizationParameters (transaction : OAuthTransaction) :
    List (PyStr × PyStr) :=
  [(PyStr.lit "client_id", client.clientId),
    (PyStr.lit "code_challenge", transaction.codeChallenge client),
    (PyStr.lit "code_challenge_method", PyStr.lit "S256"),
    (PyStr.lit "nonce", transaction.nonce),
    (PyStr.lit "redirect_uri", client.redirectUri),
    (PyStr.lit "response_type", PyStr.lit "code"),
    (PyStr.lit "scope", PyStr.lit "openid email profile"),
    (PyStr.lit "state", transaction.state)] ++
  match client.allowedDomains.dedup with
  | [domain] => [(PyStr.lit "hd", domain)]
  | _ => []

def authorizationUrl (transaction : OAuthTransaction) :
    OidcTask client.tables PyStr := do
  let metadata ← client.metadata
  match urlencode (client.authorizationParameters transaction) with
  | some query => pure (metadata.authorizationEndpoint ++ 63 :: query)
  | none => Task.ofExcept (.error (.value (PyStr.lit "UnicodeEncodeError")))

end GoogleClient

/-! ## §4  Sign-ins -/

/-- What the handlers ask a client for. -/
inductive SignInJob where
  | begin (transaction : OAuthTransaction)
  | callback (code : PyStr) (transaction : OAuthTransaction)

inductive SignInResult (ops : TextOps) where
  | redirect (url : PyStr)
  | identity (identity : GoogleIdentity ops)

def GoogleClient.program (client : GoogleClient) (ops : TextOps) :
    SignInJob → OidcTask client.tables (SignInResult ops)
  | .begin transaction => do
      let url ← client.authorizationUrl transaction
      pure (.redirect url)
  | .callback code transaction => do
      let identity ← client.exchangeAndVerify ops code transaction
      pure (.identity identity)

/-- One client and the sign-ins that share it. -/
abbrev SignIns (client : GoogleClient) (ops : TextOps) : Type :=
  Pool SignInJob (OidcCaches client.tables) HttpRequest HttpAnswer Fault
    (SignInResult ops)

def GoogleClient.system (client : GoogleClient) (ops : TextOps) :
    System (SignIns client ops) (PoolAction SignInJob HttpAnswer) :=
  Pool.system (client.program ops) (.empty client.tables)

/-! ## §5  What an answer has to be for -/

namespace GoogleClient

variable (client : GoogleClient) (ops : TextOps)
  (L : History HttpRequest HttpAnswer)

/-- The metadata of a discovery document that was received. -/
def Discovered (metadata : ProviderMetadata client.tables) : Prop :=
  ∃ t response payload, L t discoveryRequest (.ok response) ∧
    response.json = .ok payload ∧
      ProviderMetadata.fromPayload client.tables payload = .ok metadata

/-- The keys of a key set that was received at `t` from a discovered place. -/
def Published (t : ℤ) (keys : List (PyStr × Jwk)) : Prop :=
  ∃ metadata response payload, client.Discovered L metadata ∧
    L t (jwksRequest metadata) (.ok response) ∧
      response.json = .ok payload ∧ signingKeys payload = .ok keys

/-- The requests that a sign-in may make. -/
inductive Allowed : SignInJob → HttpRequest → Prop
  | discovery (job : SignInJob) : Allowed job discoveryRequest
  | keys (code : PyStr) (transaction : OAuthTransaction)
      (metadata : ProviderMetadata client.tables)
      (h : client.Discovered L metadata) :
      Allowed (.callback code transaction) (jwksRequest metadata)
  | token (code : PyStr) (transaction : OAuthTransaction)
      (metadata : ProviderMetadata client.tables)
      (h : client.Discovered L metadata) :
      Allowed (.callback code transaction)
        (client.tokenRequest metadata code transaction.codeVerifier)

/-- An ID token that came for this code and this transaction. -/
def Exchanged (code : PyStr) (transaction : OAuthTransaction) (idToken : PyStr) :
    Prop :=
  ∃ t metadata response entries, client.Discovered L metadata ∧
    L t (client.tokenRequest metadata code transaction.codeVerifier)
      (.ok response) ∧
    response.json = .ok (.obj entries) ∧ idTokenOf entries = .ok idToken

/-- A token that was verified at `t`: under the key that a key set received
less than a day before names, for this transaction and this client. -/
structure Verified (t : ℤ) (transaction : OAuthTransaction) (idToken : PyStr)
    (claims : List (PyStr × Json)) : Prop where
  key : ∃ t₀ keys kid jwk, client.Published L t₀ keys ∧ t₀ ≤ t ∧ t < t₀ + day ∧
    client.tokenKid idToken = .ok kid ∧ (kid, jwk) ∈ keys ∧
      client.jwt.decode idToken jwk client.clientId t = .ok claims
  nonce : strField "nonce" claims = some transaction.nonce
  party : ∀ audiences, field "aud" claims = some (.arr audiences) →
    strField "azp" claims = some client.clientId

/-- What a sign-in may return. -/
inductive Answers : SignInJob → ℤ → SignInResult ops → Prop
  | redirect (transaction : OAuthTransaction) (t : ℤ)
      (metadata : ProviderMetadata client.tables) (query : PyStr)
      (hmetadata : client.Discovered L metadata)
      (hquery : parseQsl query = client.authorizationParameters transaction) :
      Answers (.begin transaction) t
        (.redirect (metadata.authorizationEndpoint ++ 63 :: query))
  | identity (code : PyStr) (transaction : OAuthTransaction) (t : ℤ)
      (idToken : PyStr) (claims : List (PyStr × Json)) (identity : GoogleIdentity ops)
      (htoken : client.Exchanged L code transaction idToken)
      (hverified : client.Verified L t transaction idToken claims)
      (hidentity : identityFromClaims ops client.allowedDomains
        (Claims.ofEntries claims) = .ok identity) :
      Answers (.callback code transaction) t (.identity identity)

/-- What both caches hold was received by now, the keys at most a day before
they expire. -/
structure Sourced (now : ℤ) (caches : OidcCaches client.tables) : Prop where
  metadata : ∀ metadata expiry, caches.metadata = some (metadata, expiry) →
    client.Discovered L metadata
  jwks : ∀ keys expiry, caches.jwks = some (keys, expiry) →
    ∃ t₀ ≤ now, client.Published L t₀ keys ∧ expiry ≤ t₀ + day

theorem Sourced.lasts (t t' : ℤ) (caches : OidcCaches client.tables) (h : t ≤ t')
    (hcaches : client.Sourced L t caches) : client.Sourced L t' caches := by
  refine ⟨hcaches.metadata, fun keys expiry hcache => ?_⟩
  obtain ⟨t₀, ht₀, hpublished⟩ := hcaches.jwks keys expiry hcache
  exact ⟨t₀, ht₀.trans h, hpublished⟩

end GoogleClient

/-! ## §6  Safety of the parts -/

section Parts

theorem unexpired_eq_some {α : Type} {cache : Option (α × ℤ)} {now : ℤ} {a : α}
    (h : unexpired cache now = some a) :
    ∃ expiry, cache = some (a, expiry) ∧ now < expiry := by
  obtain ⟨⟨a', expiry⟩, hfilter, rfl⟩ := Option.map_eq_some_iff.mp h
  obtain ⟨hcache, hnow⟩ := Option.filter_eq_some_iff.mp hfilter
  exact ⟨expiry, hcache, of_decide_eq_true hnow⟩

theorem cacheExpiry_le {decimal : CodePoint → Option ℕ} {response : HttpResponse}
    {defaultSeconds now expiry : ℤ}
    (h : cacheExpiry decimal response defaultSeconds now = .ok expiry) :
    expiry ≤ now + day := by
  have hbound : ∀ maxAge : ℤ,
      now + seconds (min (max maxAge 0) (24 * 60 * 60)) ≤ now + day := by
    intro maxAge
    have hmin : min (max maxAge 0) (24 * 60 * 60) ≤ 24 * 60 * 60 := min_le_right _ _
    unfold day seconds
    omega
  unfold cacheExpiry at h
  split at h
  · cases h
    exact hbound defaultSeconds
  · split at h
    · cases h
    · cases h
      exact hbound _

theorem jsonPayload_eq_ok {response : HttpResponse} {payload : Json}
    (h : jsonPayload response = .ok payload) : response.json = .ok payload := by
  unfold jsonPayload at h
  split at h
  · cases h
    assumption
  · cases h
  · cases h

theorem responseOf_eq_ok {answer : HttpAnswer} {response : HttpResponse}
    (h : responseOf answer = .ok response) : answer = .ok response := by
  cases answer with
  | ok response' =>
      cases h
      rfl
  | error fault =>
      cases fault with
      | httpError => cases h
      | other name => cases h

theorem compareDigest_eq_true {a b : PyStr} (h : compareDigest a b = .ok true) :
    a = b := by
  unfold compareDigest at h
  split at h
  · rw [Except.ok.injEq, beq_iff_eq] at h
    exact h
  · cases h

theorem mem_of_lookupKey {kid : PyStr} {keys : List (PyStr × Jwk)} {jwk : Jwk}
    (h : lookupKey kid keys = some jwk) : (kid, jwk) ∈ keys := by
  obtain ⟨⟨kid', jwk'⟩, hfind, rfl⟩ := Option.map_eq_some_iff.mp h
  have hkid : kid' = kid := by simpa using List.find?_some hfind
  exact hkid ▸ List.mem_of_find?_eq_some hfind

namespace GoogleClient

variable {client : GoogleClient} {ops : TextOps}
  {L : History HttpRequest HttpAnswer} {P : ℤ → HttpRequest → Prop} {t : ℤ}

theorem ask_safe {request : HttpRequest} {post : ℤ → HttpResponse → Prop}
    {I : ℤ → OidcCaches client.tables → Prop} (hrequest : P t request)
    (h : ∀ t' response, t ≤ t' → L t' request (.ok response) → post t' response) :
    (client.ask request).Safe I L P post t := by
  refine Task.Safe.bind (Task.safe_request hrequest fun t' answer ht hanswer => ?_)
  refine Task.safe_ofExcept fun response hresponse => ?_
  exact h t' response ht (responseOf_eq_ok hresponse ▸ hanswer)

theorem metadata_safe (hP : ∀ t, P t discoveryRequest) :
    client.metadata.Safe (client.Sourced L) L P
      (fun _ metadata => client.Discovered L metadata) t := by
  refine Task.Safe.bind (Task.safe_inspect fun caches hcaches => ?_)
  cases hcached : unexpired caches.metadata t with
  | some metadata =>
      obtain ⟨expiry, hcache, -⟩ := unexpired_eq_some hcached
      exact Task.safe_pure (hcaches.metadata metadata expiry hcache)
  | none =>
      refine Task.Safe.bind (ask_safe (hP t) fun t' response _ hanswer => ?_)
      refine Task.Safe.bind (Task.safe_ofExcept fun payload hpayload => ?_)
      refine Task.Safe.bind (Task.safe_ofExcept fun metadata hmetadata => ?_)
      have hdiscovered : client.Discovered L metadata :=
        ⟨t', response, payload, hanswer, jsonPayload_eq_ok hpayload, hmetadata⟩
      refine Task.Safe.bind (Task.safe_inspect fun _ _ => ?_)
      refine Task.Safe.bind (Task.safe_ofExcept fun expiry _ => ?_)
      refine Task.Safe.bind (Task.safe_modify (fun caches hcaches => ?_) ?_)
      · refine ⟨fun metadata' expiry' hcache => ?_, hcaches.jwks⟩
        cases hcache
        exact hdiscovered
      · exact Task.safe_pure hdiscovered

theorem jwks_safe (hP : ∀ t, P t discoveryRequest)
    (hkeys : ∀ metadata, client.Discovered L metadata →
      ∀ t, P t (jwksRequest metadata)) :
    client.jwks.Safe (client.Sourced L) L P
      (fun t keys => ∃ t₀ ≤ t, client.Published L t₀ keys ∧ t < t₀ + day) t := by
  refine Task.Safe.bind (Task.safe_inspect fun caches hcaches => ?_)
  cases hcached : unexpired caches.jwks t with
  | some keys =>
      obtain ⟨expiry, hcache, hexpiry⟩ := unexpired_eq_some hcached
      obtain ⟨t₀, ht₀, hpublished, hday⟩ := hcaches.jwks keys expiry hcache
      exact Task.safe_pure ⟨t₀, ht₀, hpublished, hexpiry.trans_le hday⟩
  | none =>
      refine Task.Safe.bind ((metadata_safe hP).mono fun t metadata hmetadata => ?_)
      refine Task.Safe.bind
        (ask_safe (hkeys metadata hmetadata t) fun t' response _ hanswer => ?_)
      refine Task.Safe.bind (Task.safe_ofExcept fun payload hpayload => ?_)
      refine Task.Safe.bind (Task.safe_ofExcept fun keys hkeys => ?_)
      have hpublished : client.Published L t' keys :=
        ⟨metadata, response, payload, hmetadata, hanswer, jsonPayload_eq_ok hpayload,
          hkeys⟩
      refine Task.Safe.bind (Task.safe_inspect fun _ _ => ?_)
      refine Task.Safe.bind (Task.safe_ofExcept fun expiry hexpiry => ?_)
      refine Task.Safe.bind (Task.safe_modify (fun caches hcaches => ?_) ?_)
      · refine ⟨hcaches.metadata, fun keys' expiry' hcache => ?_⟩
        cases hcache
        exact ⟨t', le_refl _, hpublished, cacheExpiry_le hexpiry⟩
      · refine Task.safe_pure ⟨t', le_refl _, hpublished, ?_⟩
        have hday : 0 < day := by decide
        omega

theorem findJwk_safe (hP : ∀ t, P t discoveryRequest)
    (hkeys : ∀ metadata, client.Discovered L metadata →
      ∀ t, P t (jwksRequest metadata))
    (kid : PyStr) :
    (client.findJwk kid).Safe (client.Sourced L) L P
      (fun t jwk => ∃ t₀ keys, client.Published L t₀ keys ∧ t₀ ≤ t ∧
        t < t₀ + day ∧ (kid, jwk) ∈ keys) t := by
  refine Task.Safe.bind ((jwks_safe hP hkeys).mono fun t keys hpublished => ?_)
  obtain ⟨t₀, ht₀, hpublished, hfresh⟩ := hpublished
  cases hlookup : lookupKey kid keys with
  | some jwk =>
      exact Task.safe_pure
        ⟨t₀, keys, hpublished, ht₀, hfresh, mem_of_lookupKey hlookup⟩
  | none =>
      refine Task.Safe.bind (Task.safe_modify (fun caches hcaches => ?_) ?_)
      · refine ⟨hcaches.metadata, fun keys' expiry' hcache => ?_⟩
        cases hcache
      refine Task.Safe.bind ((jwks_safe hP hkeys).mono fun t keys hpublished => ?_)
      obtain ⟨t₀, ht₀, hpublished, hfresh⟩ := hpublished
      cases hlookup : lookupKey kid keys with
      | some jwk =>
          exact Task.safe_pure
            ⟨t₀, keys, hpublished, ht₀, hfresh, mem_of_lookupKey hlookup⟩
      | none => exact Task.safe_ofExcept fun jwk hjwk => by cases hjwk

theorem decodeToken_eq_ok {idToken : PyStr} {jwk : Jwk} {now : ℤ}
    {claims : List (PyStr × Json)}
    (h : client.decodeToken idToken jwk now = .ok claims) :
    client.jwt.decode idToken jwk client.clientId now = .ok claims := by
  unfold decodeToken at h
  split at h
  · cases h
    assumption
  · cases h
  · cases h

theorem checkClaims_eq_ok {claims : List (PyStr × Json)} {nonce : PyStr}
    (h : client.checkClaims claims nonce = .ok ()) :
    strField "nonce" claims = some nonce ∧
      ∀ audiences, field "aud" claims = some (.arr audiences) →
        strField "azp" claims = some client.clientId := by
  unfold checkClaims at h
  split at h
  · cases h
  · rename_i tokenNonce hnonce
    split at h
    · cases h
    obtain ⟨same, hsame, h⟩ := bind_eq_ok.mp h
    cases same with
    | false => cases h
    | true =>
        rw [compareDigest_eq_true hsame] at hnonce
        refine ⟨hnonce, fun audiences haud => ?_⟩
        rw [haud] at h
        simp only [Bool.not_true, Bool.false_eq_true, if_false] at h
        split at h
        · cases h
        · rename_i azp hazp
          obtain ⟨same, hsame, h⟩ := bind_eq_ok.mp h
          cases same with
          | false => cases h
          | true => rw [hazp, compareDigest_eq_true hsame]

theorem verifyIdToken_safe (hP : ∀ t, P t discoveryRequest)
    (hkeys : ∀ metadata, client.Discovered L metadata →
      ∀ t, P t (jwksRequest metadata))
    (idToken : PyStr) (transaction : OAuthTransaction) :
    (client.verifyIdToken idToken transaction.nonce).Safe (client.Sourced L) L P
      (fun t claims => client.Verified L t transaction idToken claims) t := by
  refine Task.Safe.bind (Task.safe_ofExcept fun kid hkid => ?_)
  refine Task.Safe.bind ((findJwk_safe hP hkeys kid).mono fun t jwk hjwk => ?_)
  obtain ⟨t₀, keys, hpublished, ht₀, hfresh, hmem⟩ := hjwk
  refine Task.Safe.bind (Task.safe_inspect fun _ _ => ?_)
  refine Task.Safe.bind (Task.safe_ofExcept fun claims hclaims => ?_)
  refine Task.Safe.bind (Task.safe_ofExcept fun _ hchecked => ?_)
  obtain ⟨hnonce, hparty⟩ := checkClaims_eq_ok hchecked
  exact Task.safe_pure
    ⟨⟨t₀, keys, kid, jwk, hpublished, ht₀, hfresh, hkid, hmem,
      decodeToken_eq_ok hclaims⟩, hnonce, hparty⟩

theorem tokenExchange_safe {metadata : ProviderMetadata client.tables}
    {code codeVerifier : PyStr}
    (hrequest : P t (client.tokenRequest metadata code codeVerifier)) :
    (client.tokenExchange metadata code codeVerifier).Safe (client.Sourced L) L P
      (fun _ entries => ∃ t response,
        L t (client.tokenRequest metadata code codeVerifier) (.ok response) ∧
          response.json = .ok (.obj entries)) t := by
  refine Task.Safe.bind (ask_safe hrequest fun t' response _ hanswer => ?_)
  refine Task.Safe.bind (Task.safe_ofExcept fun payload hpayload => ?_)
  have hjson := jsonPayload_eq_ok hpayload
  cases payload with
  | obj entries => exact Task.safe_pure ⟨t', response, hanswer, hjson⟩
  | _ => exact Task.safe_ofExcept fun _ h => by cases h

theorem verifiedClaims_safe (code : PyStr) (transaction : OAuthTransaction) :
    (client.verifiedClaims code transaction).Safe (client.Sourced L) L
      (fun _ => client.Allowed L (.callback code transaction))
      (fun t claims => ∃ idToken, client.Exchanged L code transaction idToken ∧
        client.Verified L t transaction idToken claims) t := by
  refine Task.Safe.bind
    ((metadata_safe fun _ => .discovery _).mono fun t metadata hmetadata => ?_)
  refine Task.Safe.bind ((tokenExchange_safe
    (.token code transaction metadata hmetadata)).mono fun t entries hentries => ?_)
  obtain ⟨t₁, response, hanswer, hjson⟩ := hentries
  refine Task.Safe.bind (Task.safe_ofExcept fun idToken hidToken => ?_)
  refine (verifyIdToken_safe (fun _ => .discovery _) (fun metadata hmetadata _ =>
    .keys code transaction metadata hmetadata) idToken transaction).mono
      fun t claims hverified => ?_
  exact ⟨idToken, ⟨t₁, metadata, response, entries, hmetadata, hanswer, hjson,
    hidToken⟩, hverified⟩

theorem program_safe (job : SignInJob) :
    (client.program ops job).Safe (client.Sourced L) L
      (fun _ => client.Allowed L job)
      (client.Answers ops L job) t := by
  cases job with
  | begin transaction =>
      refine Task.Safe.bind (Task.Safe.bind
        ((metadata_safe fun _ => .discovery _).mono fun t metadata hmetadata => ?_))
      split
      · rename_i query hquery
        exact Task.safe_pure (Task.safe_pure (.redirect transaction t metadata query
          hmetadata (parseQsl_urlencode hquery)))
      · exact Task.safe_ofExcept fun _ h => by cases h
  | callback code transaction =>
      refine Task.Safe.bind ?_
      unfold exchangeAndVerify
      split
      · exact Task.safe_ofExcept fun _ h => by cases h
      refine Task.Safe.bind
        ((verifiedClaims_safe code transaction).mono fun t claims hclaims => ?_)
      obtain ⟨idToken, htoken, hverified⟩ := hclaims
      refine Task.safe_ofExcept fun identity hidentity => Task.safe_pure ?_
      exact .identity code transaction t idToken claims identity htoken hverified
        hidentity

theorem sourced_empty : client.Sourced L t (.empty client.tables) := by
  constructor
  · intro metadata expiry h
    cases h
  · intro keys expiry h
    cases h

theorem signIns_safe {c : SignIns client ops} (h : (client.system ops).Reachable c) :
    Pool.SafeFor (client.Sourced c.answered) c.answered
      (fun job _ => client.Allowed c.answered job) (client.Answers ops c.answered) c :=
  Pool.safeFor_of_reachable (fun _ _ => sourced_empty)
    (fun L => Sourced.lasts client L) (fun _ job _ => program_safe job) h

end GoogleClient

end Parts

/-! ## §7  Requests spent -/

section Costs

namespace GoogleClient

variable {client : GoogleClient} {ops : TextOps} {cost : HttpRequest → ℕ} {g p : ℕ}

theorem ask_atMost (request : HttpRequest) {n : ℕ} (h : cost request ≤ n) :
    (client.ask request).AtMost cost n :=
  ((Task.atMost_request request).mono h).last fun _ => Task.atMost_ofExcept _

theorem metadata_atMost (hget : ∀ url, cost ⟨.get, url, none⟩ ≤ g) :
    client.metadata.AtMost cost g := by
  refine (Task.atMost_inspect _).free fun cached => ?_
  split
  · exact Task.atMost_pure _
  refine (ask_atMost _ (hget _)).last fun response => ?_
  refine (Task.atMost_ofExcept _).free fun payload => ?_
  refine (Task.atMost_ofExcept _).free fun metadata => ?_
  refine (Task.atMost_inspect _).free fun expiry => ?_
  refine (Task.atMost_ofExcept _).free fun expiry => ?_
  exact (Task.atMost_modify _).free fun _ => Task.atMost_pure _

theorem jwks_atMost (hget : ∀ url, cost ⟨.get, url, none⟩ ≤ g) :
    client.jwks.AtMost cost (g + g) := by
  refine (Task.atMost_inspect _).free fun cached => ?_
  split
  · exact Task.atMost_pure _
  refine (metadata_atMost hget).bind fun metadata => ?_
  refine (ask_atMost _ (hget _)).last fun response => ?_
  refine (Task.atMost_ofExcept _).free fun payload => ?_
  refine (Task.atMost_ofExcept _).free fun keys => ?_
  refine (Task.atMost_inspect _).free fun expiry => ?_
  refine (Task.atMost_ofExcept _).free fun expiry => ?_
  exact (Task.atMost_modify _).free fun _ => Task.atMost_pure _

theorem findJwk_atMost (hget : ∀ url, cost ⟨.get, url, none⟩ ≤ g) (kid : PyStr) :
    (client.findJwk kid).AtMost cost (g + g + (g + g)) := by
  refine (jwks_atMost hget).bind fun keys => ?_
  split
  · exact Task.atMost_pure _
  refine (Task.atMost_modify _).free fun _ => ?_
  refine (jwks_atMost hget).last fun keys => ?_
  split
  · exact Task.atMost_pure _
  · exact Task.atMost_ofExcept _

theorem verifyIdToken_atMost (hget : ∀ url, cost ⟨.get, url, none⟩ ≤ g)
    (idToken nonce : PyStr) :
    (client.verifyIdToken idToken nonce).AtMost cost (g + g + (g + g)) := by
  refine (Task.atMost_ofExcept _).free fun kid => ?_
  refine (findJwk_atMost hget kid).last fun jwk => ?_
  refine (Task.atMost_inspect _).free fun claims => ?_
  refine (Task.atMost_ofExcept _).free fun claims => ?_
  exact (Task.atMost_ofExcept _).free fun _ => Task.atMost_pure _

theorem verifiedClaims_atMost (hget : ∀ url, cost ⟨.get, url, none⟩ ≤ g)
    (hpost : ∀ url form, cost ⟨.post, url, some form⟩ ≤ p) (code : PyStr)
    (transaction : OAuthTransaction) :
    (client.verifiedClaims code transaction).AtMost cost
      (g + (p + (g + g + (g + g)))) := by
  refine (metadata_atMost hget).bind fun metadata => ?_
  refine Task.AtMost.bind (fun payload => ?_)
    ((ask_atMost _ (hpost _ _)).last fun response => ?_)
  · exact (Task.atMost_ofExcept _).free fun idToken =>
      verifyIdToken_atMost hget idToken transaction.nonce
  · refine (Task.atMost_ofExcept _).free fun payload => ?_
    split
    · exact Task.atMost_pure _
    · exact Task.atMost_ofExcept _

/-- What a sign-in costs at most, where a `GET` costs `g` and a `POST` `p`. -/
def jobBound (g p : ℕ) : SignInJob → ℕ
  | .begin _ => g
  | .callback _ _ => g + (p + (g + g + (g + g)))

theorem program_atMost (hget : ∀ url, cost ⟨.get, url, none⟩ ≤ g)
    (hpost : ∀ url form, cost ⟨.post, url, some form⟩ ≤ p) (job : SignInJob) :
    (client.program ops job).AtMost cost (jobBound g p job) := by
  cases job with
  | begin transaction =>
      refine ((metadata_atMost hget).last fun metadata => ?_).last fun url =>
        Task.atMost_pure _
      split
      · exact Task.atMost_pure _
      · exact Task.atMost_ofExcept _
  | callback code transaction =>
      refine Task.AtMost.last ?_ fun identity => Task.atMost_pure _
      unfold exchangeAndVerify
      split
      · exact Task.atMost_ofExcept _
      · exact (verifiedClaims_atMost hget hpost code transaction).last fun claims =>
          Task.atMost_ofExcept _

/-- The token requests among the requests. -/
def postCost (request : HttpRequest) : ℕ :=
  match request.method with
  | .get => 0
  | .post => 1

end GoogleClient

end Costs

/-! ## §8  A sign-in alone -/

section Alone

namespace GoogleClient

variable {client : GoogleClient} {ops : TextOps} {answer : HttpRequest → HttpAnswer}
  {now : ℤ} {caches : OidcCaches client.tables}
  {metadata : ProviderMetadata client.tables}

theorem tokenKid_eq {idToken kid : PyStr} {header : List (PyStr × Json)}
    (hheader : client.jwt.unverifiedHeader idToken = .ok header)
    (hkid : strField "kid" header = some kid)
    (halg : strField "alg" header = some (PyStr.lit "RS256"))
    (hbound : kid ≠ [] ∧ kid.length ≤ 128) : client.tokenKid idToken = .ok kid := by
  unfold tokenKid
  rw [hheader]
  dsimp only
  rw [hkid]
  exact if_pos ⟨halg, hbound⟩

theorem decodeToken_eq {idToken : PyStr} {jwk : Jwk} {claims : List (PyStr × Json)}
    (h : client.jwt.decode idToken jwk client.clientId now = .ok claims) :
    client.decodeToken idToken jwk now = .ok claims := by
  unfold decodeToken
  rw [h]

theorem idTokenOf_eq {payload : List (PyStr × Json)} {idToken : PyStr}
    (h : strField "id_token" payload = some idToken)
    (hbound : idToken ≠ [] ∧ idToken.length ≤ 16 * 1024) :
    idTokenOf payload = .ok idToken := by
  unfold idTokenOf
  rw [h]
  exact if_pos hbound

theorem fromPayload_eq {entries : List (PyStr × Json)}
    (hissuer : strField "issuer" entries = some metadata.issuer)
    (hauthorization : strField "authorization_endpoint" entries =
      some metadata.authorizationEndpoint)
    (htoken : strField "token_endpoint" entries = some metadata.tokenEndpoint)
    (hjwks : strField "jwks_uri" entries = some metadata.jwksUri) :
    ProviderMetadata.fromPayload client.tables (.obj entries) = .ok metadata := by
  unfold ProviderMetadata.fromPayload
  dsimp only
  rw [hissuer, hauthorization, htoken, hjwks]
  exact dif_pos ⟨metadata.google, metadata.trusted⟩

theorem ask_alone {request : HttpRequest} {response : HttpResponse}
    (h : answer request = .ok response) :
    (client.ask request).runAlone answer now caches = (caches, .ok response) := by
  unfold ask
  rw [Task.runAlone_bind_ok (Task.runAlone_request request caches), h]
  rfl

theorem metadata_alone {response : HttpResponse} {payload : Json} {expiry : ℤ}
    (hcache : unexpired caches.metadata now = none)
    (hanswer : answer discoveryRequest = .ok response)
    (hpayload : response.json = .ok payload)
    (hmetadata : ProviderMetadata.fromPayload client.tables payload = .ok metadata)
    (hexpiry : cacheExpiry client.decimal response 3600 now = .ok expiry) :
    client.metadata.runAlone answer now caches =
      ({ caches with metadata := some (metadata, expiry) }, .ok metadata) := by
  have hjson : jsonPayload response = .ok payload := by rw [jsonPayload, hpayload]
  unfold GoogleClient.metadata
  rw [Task.runAlone_bind_ok (Task.runAlone_inspect _ _), hcache]
  dsimp only
  rw [Task.runAlone_bind_ok (ask_alone hanswer), hjson,
    Task.runAlone_bind_ok (Task.runAlone_ofExcept _ _), hmetadata,
    Task.runAlone_bind_ok (Task.runAlone_ofExcept _ _),
    Task.runAlone_bind_ok (Task.runAlone_inspect _ _), hexpiry,
    Task.runAlone_bind_ok (Task.runAlone_ofExcept _ _),
    Task.runAlone_bind_ok (Task.runAlone_modify _ _)]
  rfl

theorem metadata_alone_cached (hcache : unexpired caches.metadata now = some metadata) :
    client.metadata.runAlone answer now caches = (caches, .ok metadata) := by
  unfold GoogleClient.metadata
  rw [Task.runAlone_bind_ok (Task.runAlone_inspect _ _), hcache]
  rfl

theorem tokenExchange_alone {code codeVerifier : PyStr} {response : HttpResponse}
    {entries : List (PyStr × Json)}
    (hanswer : answer (client.tokenRequest metadata code codeVerifier) =
      .ok response) (hpayload : response.json = .ok (.obj entries)) :
    (client.tokenExchange metadata code codeVerifier).runAlone answer now caches =
      (caches, .ok entries) := by
  have hjson : jsonPayload response = .ok (.obj entries) := by
    rw [jsonPayload, hpayload]
  unfold tokenExchange
  rw [Task.runAlone_bind_ok (ask_alone hanswer), hjson,
    Task.runAlone_bind_ok (Task.runAlone_ofExcept _ _)]
  rfl

theorem jwks_alone {response : HttpResponse} {payload : Json} {expiry : ℤ}
    {keys : List (PyStr × Jwk)} (hcache : unexpired caches.jwks now = none)
    (hmetadata : unexpired caches.metadata now = some metadata)
    (hanswer : answer (jwksRequest metadata) = .ok response)
    (hpayload : response.json = .ok payload) (hkeys : signingKeys payload = .ok keys)
    (hexpiry : cacheExpiry client.decimal response 300 now = .ok expiry) :
    client.jwks.runAlone answer now caches =
      ({ caches with jwks := some (keys, expiry) }, .ok keys) := by
  have hjson : jsonPayload response = .ok payload := by rw [jsonPayload, hpayload]
  unfold jwks
  rw [Task.runAlone_bind_ok (Task.runAlone_inspect _ _), hcache]
  dsimp only
  rw [Task.runAlone_bind_ok (metadata_alone_cached hmetadata),
    Task.runAlone_bind_ok (ask_alone hanswer), hjson,
    Task.runAlone_bind_ok (Task.runAlone_ofExcept _ _), hkeys,
    Task.runAlone_bind_ok (Task.runAlone_ofExcept _ _),
    Task.runAlone_bind_ok (Task.runAlone_inspect _ _), hexpiry,
    Task.runAlone_bind_ok (Task.runAlone_ofExcept _ _),
    Task.runAlone_bind_ok (Task.runAlone_modify _ _)]
  rfl

theorem findJwk_alone {caches' : OidcCaches client.tables} {kid : PyStr}
    {keys : List (PyStr × Jwk)} {jwk : Jwk}
    (hjwks : client.jwks.runAlone answer now caches = (caches', .ok keys))
    (hlookup : lookupKey kid keys = some jwk) :
    (client.findJwk kid).runAlone answer now caches = (caches', .ok jwk) := by
  unfold findJwk
  rw [Task.runAlone_bind_ok hjwks, hlookup]
  rfl

theorem verifyIdToken_alone {caches' : OidcCaches client.tables}
    {idToken nonce kid : PyStr} {jwk : Jwk} {claims : List (PyStr × Json)}
    (hkid : client.tokenKid idToken = .ok kid)
    (hjwk : (client.findJwk kid).runAlone answer now caches = (caches', .ok jwk))
    (hdecoded : client.decodeToken idToken jwk now = .ok claims)
    (hchecked : client.checkClaims claims nonce = .ok ()) :
    (client.verifyIdToken idToken nonce).runAlone answer now caches =
      (caches', .ok claims) := by
  unfold verifyIdToken
  rw [hkid, Task.runAlone_bind_ok (Task.runAlone_ofExcept _ _),
    Task.runAlone_bind_ok hjwk, Task.runAlone_bind_ok (Task.runAlone_inspect _ _),
    hdecoded, Task.runAlone_bind_ok (Task.runAlone_ofExcept _ _), hchecked,
    Task.runAlone_bind_ok (Task.runAlone_ofExcept _ _)]
  rfl

/-- A provider that serves a sign-in: its documents are in order, and the ID
token that it gives for the code verifies. -/
structure Serves (client : GoogleClient) (answer : HttpRequest → HttpAnswer)
    (now : ℤ) (code : PyStr) (transaction : OAuthTransaction)
    (claims : List (PyStr × Json)) where
  discovery : HttpResponse
  discoveryPayload : Json
  metadata : ProviderMetadata client.tables
  metadataExpiry : ℤ
  token : HttpResponse
  tokenPayload : List (PyStr × Json)
  idToken : PyStr
  keySet : HttpResponse
  keySetPayload : Json
  keys : List (PyStr × Jwk)
  keysExpiry : ℤ
  kid : PyStr
  jwk : Jwk
  code_bound : code ≠ [] ∧ code.length ≤ 2048
  discovered : answer discoveryRequest = .ok discovery
  discovery_json : discovery.json = .ok discoveryPayload
  discovery_metadata :
    ProviderMetadata.fromPayload client.tables discoveryPayload = .ok metadata
  discovery_expiry :
    cacheExpiry client.decimal discovery 3600 now = .ok metadataExpiry
  discovery_kept : now < metadataExpiry
  exchanged : answer (client.tokenRequest metadata code transaction.codeVerifier) =
    .ok token
  token_json : token.json = .ok (.obj tokenPayload)
  token_idToken : idTokenOf tokenPayload = .ok idToken
  published : answer (jwksRequest metadata) = .ok keySet
  keySet_json : keySet.json = .ok keySetPayload
  keySet_keys : signingKeys keySetPayload = .ok keys
  keySet_expiry : cacheExpiry client.decimal keySet 300 now = .ok keysExpiry
  idToken_kid : client.tokenKid idToken = .ok kid
  kid_jwk : lookupKey kid keys = some jwk
  decoded : client.decodeToken idToken jwk now = .ok claims
  checked : client.checkClaims claims transaction.nonce = .ok ()

/-- With such a provider a sign-in comes to its claims. -/
theorem Serves.exchange_alone {code : PyStr} {transaction : OAuthTransaction}
    {claims : List (PyStr × Json)} (h : Serves client answer now code transaction claims) :
    ((client.exchangeAndVerify ops code transaction).runAlone answer now
        (.empty client.tables)).2 =
      identityFromClaims ops client.allowedDomains (Claims.ofEntries claims) := by
  have hbound : (code.isEmpty || decide (2048 < code.length)) = false := by
    rw [Bool.or_eq_false_iff, List.isEmpty_eq_false_iff, decide_eq_false_iff_not,
      Nat.not_lt]
    exact h.code_bound
  have hkept : unexpired (some (h.metadata, h.metadataExpiry)) now =
      some h.metadata := by
    rw [unexpired, Option.filter_some, if_pos (decide_eq_true h.discovery_kept)]
    rfl
  let found : OidcCaches client.tables := ⟨some (h.metadata, h.metadataExpiry), none⟩
  have hmetadata : client.metadata.runAlone answer now (.empty client.tables) =
      (found, .ok h.metadata) :=
    metadata_alone rfl h.discovered h.discovery_json h.discovery_metadata
      h.discovery_expiry
  have hjwks : client.jwks.runAlone answer now found =
      (⟨found.metadata, some (h.keys, h.keysExpiry)⟩, .ok h.keys) :=
    jwks_alone rfl hkept h.published h.keySet_json h.keySet_keys h.keySet_expiry
  have hclaims := verifyIdToken_alone h.idToken_kid (findJwk_alone hjwks h.kid_jwk)
    h.decoded h.checked
  unfold exchangeAndVerify verifiedClaims
  rw [hbound, if_neg Bool.false_ne_true, Task.runAlone_bind,
    Task.runAlone_bind_ok hmetadata,
    Task.runAlone_bind_ok (tokenExchange_alone h.exchanged h.token_json),
    h.token_idToken, Task.runAlone_bind_ok (Task.runAlone_ofExcept _ _), hclaims]
  rfl

/-- Without metadata, a task waits for the discovery document, and goes on with
what it says. -/
theorem metadata_settle (hcache : unexpired caches.metadata now = none) :
    ∃ next, client.metadata.settle now caches =
        (caches, .ask discoveryRequest next) ∧
      ∀ response payload metadata expiry later caches',
        response.json = .ok payload →
        ProviderMetadata.fromPayload client.tables payload = .ok metadata →
        cacheExpiry client.decimal response 3600 later = .ok expiry →
          (next (.ok response)).settle later caches' =
            ({ caches' with metadata := some (metadata, expiry) },
              .done (.ok metadata)) := by
  unfold GoogleClient.metadata
  rw [Task.settle_bind_done (Task.inspect _) caches rfl, hcache]
  refine ⟨_, rfl, ?_⟩
  intro response payload metadata expiry later caches' hpayload hmetadata hexpiry
  have hjson : jsonPayload response = .ok payload := by rw [jsonPayload, hpayload]
  show Task.settle later (Task.ofExcept (jsonPayload response) >>= _) caches' = _
  rw [hjson, Task.settle_bind_done (Task.ofExcept _) caches' rfl, hmetadata,
    Task.settle_bind_done (Task.ofExcept _) caches' rfl,
    Task.settle_bind_done (Task.inspect _) caches' rfl, hexpiry,
    Task.settle_bind_done (Task.ofExcept _) caches' rfl]
  rfl

/-- A callback asks for the discovery document, and then for its token. -/
theorem callback_settle {code : PyStr} (transaction : OAuthTransaction)
    (hcode : code ≠ [] ∧ code.length ≤ 2048)
    (hcache : unexpired caches.metadata now = none) :
    ∃ next, (client.program ops (.callback code transaction)).settle now caches =
        (caches, .ask discoveryRequest next) ∧
      ∀ response payload metadata expiry later caches',
        response.json = .ok payload →
        ProviderMetadata.fromPayload client.tables payload = .ok metadata →
        cacheExpiry client.decimal response 3600 later = .ok expiry →
          ∃ next', (next (.ok response)).settle later caches' =
            ({ caches' with metadata := some (metadata, expiry) },
              .ask (client.tokenRequest metadata code transaction.codeVerifier)
                next') := by
  obtain ⟨next, hnext, hgoes⟩ := @metadata_settle client _ _ hcache
  have hbound : (code.isEmpty || 2048 < code.length) = false := by
    simp [hcode.1, hcode.2]
  have hshape : client.exchangeAndVerify ops code transaction =
      (client.verifiedClaims code transaction >>= fun claims =>
        Task.ofExcept (identityFromClaims ops client.allowedDomains
          (Claims.ofEntries claims))) := by
    unfold exchangeAndVerify
    rw [hbound]
    rfl
  have hverify : (client.verifiedClaims code transaction).settle now caches =
      (caches, .ask discoveryRequest _) := Task.settle_bind_ask _ _ hnext
  have hexchange := hshape ▸ Task.settle_bind_ask _ _ hverify
  refine ⟨_, Task.settle_bind_ask _ _ hexchange, ?_⟩
  intro response payload metadata expiry later caches' hpayload hmetadata hexpiry
  refine ⟨_, Task.settle_bind_ask _ _ (Task.settle_bind_ask _ _
    ((Task.settle_bind_done _ _ (hgoes response payload metadata expiry later caches'
      hpayload hmetadata hexpiry)).trans rfl))⟩

/-- A sign-in alone is one of the runs. -/
theorem identity_alone {start : SignIns client ops}
    (hinit : (client.system ops).init start) {code : PyStr}
    {transaction : OAuthTransaction} {identity : GoogleIdentity ops}
    (h : ((client.exchangeAndVerify ops code transaction).runAlone answer start.now
      (.empty client.tables)).2 = .ok identity) :
    ∃ c, c.tasks 0 = some (.callback code transaction,
        .done (.ok (.identity identity))) ∧
      (client.system ops).Reachable c ∧ ∀ e ∈ c.log, e.answer = answer e.request := by
  refine Pool.reachable_alone hinit 0 ?_
  change ((client.exchangeAndVerify ops code transaction >>= fun identity =>
    pure (SignInResult.identity identity)).runAlone answer start.now _).2 = _
  rw [Task.runAlone_bind]
  rcases hresult : (client.exchangeAndVerify ops code transaction).runAlone answer
    start.now (.empty client.tables) with ⟨caches', fault | identity'⟩
  · rw [hresult] at h
    cases h
  · rw [hresult] at h
    cases h
    rfl

end GoogleClient

end Alone

/-! ## §9  Every run -/

section Runs

variable {client : GoogleClient} {ops : TextOps} {c : SignIns client ops} {i : ℕ}
  {job : SignInJob}

/-- A redirect takes one request. A callback takes one for the metadata and one
for its code, and looks a key up at most twice, with metadata that may have
expired each time. -/
def SignInJob.maxRequests : SignInJob → ℕ
  | .begin _ => 1
  | .callback _ _ => 6

/-- **Where a client sends what.** In every run of interleaved sign-ins,
whatever is answered and however late, every request goes to the discovery
document or to a trusted endpoint of Google; a form, with the client's secret
in it, goes only to a discovered token endpoint, for the code and the verifier
of its own callback and once; and no sign-in makes more than six requests. -/
theorem signIns_requests (h : (client.system ops).Reachable c)
    {request : HttpRequest} {next : HttpAnswer → OidcTask client.tables
      (SignInResult ops)} (hi : c.tasks i = some (job, .ask request next)) :
    (request.url = googleDiscoveryUrl ∨
      trustedGoogleEndpoint client.tables request.url = true) ∧
    (∀ form, request.data = some form → ∃ code transaction metadata,
      job = .callback code transaction ∧ client.Discovered c.answered metadata ∧
        request.url = metadata.tokenEndpoint ∧
        form = client.tokenForm code transaction.codeVerifier ∧
        Pool.spent GoogleClient.postCost i c.log = 0) ∧
    Pool.spent (fun _ => 1) i c.log < job.maxRequests := by
  obtain ⟨-, hallowed⟩ := (GoogleClient.signIns_safe h).asking hi
  have hrequests : ∀ job, (client.program ops job).AtMost (fun _ => 1)
      (GoogleClient.jobBound 1 1 job) :=
    GoogleClient.program_atMost (fun _ => le_refl 1) fun _ _ => le_refl 1
  have hforms : ∀ job, (client.program ops job).AtMost GoogleClient.postCost
      (GoogleClient.jobBound 0 1 job) :=
    GoogleClient.program_atMost (fun _ => le_refl 0) fun _ _ => le_refl 1
  have hcount := (Pool.bounded_of_reachable hrequests h).asking hi
  have hposts := (Pool.bounded_of_reachable hforms h).asking hi
  have hmax : GoogleClient.jobBound 1 1 job = job.maxRequests := by
    cases job with
    | begin transaction => rfl
    | callback code transaction => rfl
  refine ⟨?_, ?_, by omega⟩
  · cases hallowed with
    | discovery job => exact .inl rfl
    | keys code transaction metadata hmetadata =>
        exact .inr (metadata.trusted _ (by simp [GoogleClient.jwksRequest]))
    | token code transaction metadata hmetadata =>
        exact .inr (metadata.trusted _ (by simp [GoogleClient.tokenRequest]))
  · intro form hform
    cases hallowed with
    | discovery job => cases hform
    | keys code transaction metadata hmetadata => cases hform
    | token code transaction metadata hmetadata =>
        cases hform
        refine ⟨code, transaction, metadata, rfl, hmetadata, rfl, rfl, ?_⟩
        have hone : GoogleClient.postCost (client.tokenRequest metadata code
          transaction.codeVerifier) = 1 := rfl
        have hbound : GoogleClient.jobBound 0 1 (.callback code transaction) = 1 := rfl
        omega

/-- **What a sign-in returns.** In every run of interleaved sign-ins, a redirect
goes to a discovered place with exactly its parameters, and an identity comes
from an ID token that was received for this code and this verifier, whose
signature was checked, when the sign-in returned, under a key received less than
a day before, whose nonce is that of this transaction, and whose domain is
allowed. -/
theorem signIns_results (h : (client.system ops).Reachable c)
    {result : SignInResult ops} (hi : c.tasks i = some (job, .done (.ok result))) :
    c.ranAt i ≤ c.now ∧ client.Answers ops c.answered job (c.ranAt i) result :=
  (GoogleClient.signIns_safe h).returned hi

end Runs

def sampleTables : UrlTables where
  lower := PyStr.asciiLower
  nfkc := id
  bracketedNetloc := fun _ => false

def sampleObject (fields : List (String × String)) : Json :=
  .obj (fields.map fun f => (PyStr.lit f.1, .str (PyStr.lit f.2)))

def sampleModulus : String :=
  "1D8gLX_xI_rHMLnropH7E-oP4MBhKU2DeVQPFpZKRtbYUav7CmaYCSwOCS4mp3TJQVomQK" ++
    "TScmPl7W1CtaVjJHj4MWMbMKpmcBiRn03OvAN7WkPRJnnSDPzHUPG-aUh4puzypL7E6191" ++
    "dhP0R3lFE-YMYOm89qTCrCvd4E08Hq7hwtJkT5PU-iGfuSQPGcDDhvtxSTwploDmsazCMS" ++
    "dGXhznledFTcHYmvRjHZaDSScJbr-N7_0kkpy9jLJmWOFzW0VTsWDV78gqYWX_1Ock9M_m" ++
    "PgqI31C-9k3WKCYYyh2SAUxufY6PlghwHP051-qth16jfEbHTNxFrHcOEfAmgw"

/-- Signed with RS256 under the key of `sampleModulus`, issued at 1785499923 for
an hour. -/
def sampleIdToken : PyStr := [
    "eyJhbGciOiJSUzI1NiIsImtpZCI6InRlc3Qta2V5", "IiwidHlwIjoiSldUIn0.eyJhdWQiOiJwb3J0YWwt",
    "Y2xpZW50LWlkLmFwcHMuZ29vZ2xldXNlcmNvbnRl", "bnQuY29tIiwiZW1haWwiOiJtZW1iZXJAZXhhbXBs",
    "ZS50ZXN0IiwiZW1haWxfdmVyaWZpZWQiOnRydWUs", "ImV4cCI6MTc4NTUwMzUyMywiaGQiOiJleGFtcGxl",
    "LnRlc3QiLCJpYXQiOjE3ODU0OTk5MjMsImlzcyI6", "Imh0dHBzOi8vYWNjb3VudHMuZ29vZ2xlLmNvbSIs",
    "Im5hbWUiOiJQb3J0YWwgTWVtYmVyIiwibm9uY2Ui", "OiJubm5ubm5ubm5ubm5ubm5ubm5ubm5ubm5ubm5u",
    "bm5ubm5ubm5ubm5ubm5uIiwic3ViIjoiZ29vZ2xl", "LXN1YmplY3QtMTIzIn0.oWNVCUdsjYFX2fIqjsk3",
    "u4r4yUGHLQKa_q25Td2qEIUOz_78tkcwWU4qUojO", "qgwx9be2SHYpETG6DfqKACbliXkN4akJ01QeZFmR",
    "GD2YqLxQPAevmUekeBZXb8VZR2ZsPxnj_9KrCXG4", "E6lVxTBoOVb7K2C_XQU5-W-kUnDBRzOfc4bZGMNJ",
    "rOYYMj3jAK98UkGzcA1He257dVaQTgq4zCkt4Ktu", "yotzCJu23ZWeZQ2l7-EYIQ5Vd58Oik5Jhy9ELXj6",
    "n9Xdp05-4KhV8BiABf_NYRqXf5ayiexmdFMD28sn", "h0GhOYAO05zQxSZvzTYZRc-z1g5T85TorKWoDdJg",
    "Ng"].flatMap PyStr.lit

def sampleClaims : List (PyStr × Json) :=
  [(PyStr.lit "aud", .str (PyStr.lit "portal-client-id.apps.googleusercontent.com")),
    (PyStr.lit "email", .str (PyStr.lit "member@example.test")),
    (PyStr.lit "email_verified", .bool true), (PyStr.lit "exp", .int 1785503523),
    (PyStr.lit "hd", .str (PyStr.lit "example.test")),
    (PyStr.lit "iat", .int 1785499923),
    (PyStr.lit "iss", .str (PyStr.lit "https://accounts.google.com")),
    (PyStr.lit "name", .str (PyStr.lit "Portal Member")),
    (PyStr.lit "nonce", .str sampleTransaction.nonce),
    (PyStr.lit "sub", .str (PyStr.lit "google-subject-123"))]

def sampleHeader : List (PyStr × Json) :=
  [(PyStr.lit "alg", .str (PyStr.lit "RS256")),
    (PyStr.lit "kid", .str (PyStr.lit "test-key")),
    (PyStr.lit "typ", .str (PyStr.lit "JWT"))]

/-- The library on `sampleIdToken`. -/
def sampleJwt : Jwt where
  unverifiedHeader := fun token =>
    if token = sampleIdToken then .ok sampleHeader else .error .invalidToken
  decode := fun token jwk audience now =>
    if token = sampleIdToken ∧
        strField "n" jwk = some (PyStr.lit sampleModulus) ∧
        strField "e" jwk = some (PyStr.lit "AQAB") ∧
        audience = PyStr.lit "portal-client-id.apps.googleusercontent.com" ∧
        seconds 1785499923 ≤ now + seconds 60 ∧
        now - seconds 60 < seconds 1785503523 then
      .ok sampleClaims
    else .error .invalidToken

def sampleClient : GoogleClient where
  clientId := PyStr.lit "portal-client-id.apps.googleusercontent.com"
  clientSecret := PyStr.lit "cccccccccccccccccccccccccccccccc"
  redirectUri := PyStr.lit "https://portal.example.test/auth/google/callback"
  allowedDomains := [PyStr.lit "example.test"]
  sha256 := fun _ => []
  tables := sampleTables
  decimal := fun _ => none
  jwt := sampleJwt

def sampleMetadata : ProviderMetadata sampleTables where
  issuer := PyStr.lit "https://accounts.google.com"
  authorizationEndpoint := PyStr.lit "https://accounts.google.com/o/oauth2/v2/auth"
  tokenEndpoint := PyStr.lit "https://oauth2.googleapis.com/token"
  jwksUri := PyStr.lit "https://www.googleapis.com/oauth2/v3/certs"
  google := by decide
  trusted := by decide +kernel

def sampleDiscovery : HttpResponse :=
  ⟨PyStr.lit "max-age=600", .ok (sampleObject [
    ("authorization_endpoint", "https://accounts.google.com/o/oauth2/v2/auth"),
    ("issuer", "https://accounts.google.com"),
    ("jwks_uri", "https://www.googleapis.com/oauth2/v3/certs"),
    ("token_endpoint", "https://oauth2.googleapis.com/token")])⟩

def sampleTokens : HttpResponse :=
  ⟨[], .ok (.obj [(PyStr.lit "id_token", .str sampleIdToken)])⟩

def sampleKey : List (String × String) :=
  [("alg", "RS256"), ("e", "AQAB"), ("kid", "test-key"), ("kty", "RSA"),
    ("n", sampleModulus), ("use", "sig")]

def sampleKeySet : HttpResponse :=
  ⟨PyStr.lit "public, max-age=600, must-revalidate",
    .ok (.obj [(PyStr.lit "keys", .arr [sampleObject sampleKey])])⟩

/-- Google, for one code. -/
def sampleGoogle (request : HttpRequest) : HttpAnswer :=
  if request.url = googleDiscoveryUrl then .ok sampleDiscovery
  else if request.url = sampleMetadata.tokenEndpoint then
    .ok sampleTokens
  else .ok sampleKeySet

def sampleNow : ℤ := seconds 1785499924

def sampleJwk : Jwk := sampleKey.map fun f => (PyStr.lit f.1, .str (PyStr.lit f.2))

theorem sampleJwt_header :
    sampleJwt.unverifiedHeader sampleIdToken = .ok sampleHeader := by
  dsimp only [sampleJwt]
  rw [if_pos rfl]

theorem sampleJwt_decode : sampleJwt.decode sampleIdToken sampleJwk
    sampleClient.clientId sampleNow = .ok sampleClaims := by
  dsimp only [sampleJwt]
  rw [if_pos ⟨rfl, rfl, rfl, rfl, by decide, by decide⟩]

theorem sampleGoogle_serves : Nonempty (GoogleClient.Serves sampleClient sampleGoogle
    sampleNow (PyStr.lit "one-time-code") sampleTransaction sampleClaims) :=
  ⟨{
    discovery := sampleDiscovery
    discoveryPayload := _
    metadata := sampleMetadata
    metadataExpiry := sampleNow + seconds 600
    token := sampleTokens
    tokenPayload := [(PyStr.lit "id_token", .str sampleIdToken)]
    idToken := sampleIdToken
    keySet := sampleKeySet
    keySetPayload := _
    keys := [(PyStr.lit "test-key", sampleJwk)]
    keysExpiry := sampleNow + seconds 600
    kid := PyStr.lit "test-key"
    jwk := sampleJwk
    code_bound := by decide
    discovered := if_pos rfl
    discovery_json := rfl
    discovery_metadata := GoogleClient.fromPayload_eq rfl rfl rfl rfl
    discovery_expiry := rfl
    discovery_kept := by decide
    exchanged := (if_neg (by decide)).trans (if_pos rfl)
    token_json := rfl
    token_idToken := GoogleClient.idTokenOf_eq rfl (by decide +kernel)
    published := (if_neg (by decide)).trans (if_neg (by decide))
    keySet_json := rfl
    keySet_keys := rfl
    keySet_expiry := rfl
    idToken_kid := GoogleClient.tokenKid_eq sampleJwt_header rfl rfl (by decide)
    kid_jwk := rfl
    decoded := GoogleClient.decodeToken_eq sampleJwt_decode
    checked := rfl }⟩

def sampleStart : SignIns sampleClient asciiOps where
  shared := .empty sampleTables
  now := sampleNow
  tasks := fun _ => none
  ranAt := fun _ => sampleNow
  log := []

def sampleJob : SignInJob :=
  .callback (PyStr.lit "one-time-code") sampleTransaction

/-- The sign-in has started, and waits for the discovery document. -/
def sampleStarted : SignIns sampleClient asciiOps :=
  sampleStart.resume 0 sampleJob (sampleClient.program asciiOps sampleJob)

theorem sampleStarted_leads :
    (sampleClient.system asciiOps).Leads (fun _ _ => True) sampleStart sampleStarted :=
  (System.Leads.refl sampleStart).tail trivial
    (rfl : (sampleClient.system asciiOps).step sampleStart (.start 0 sampleJob) =
      some sampleStarted)

theorem sampleStart_init : (sampleClient.system asciiOps).init sampleStart :=
  ⟨rfl, fun _ => rfl, rfl⟩

/-- The sign-in has the discovery document. -/
def sampleDiscovered (c : SignIns sampleClient asciiOps)
    (next : HttpAnswer → OidcTask sampleClient.tables (SignInResult asciiOps)) :
    SignIns sampleClient asciiOps :=
  Pool.resume { c with
    log := ⟨0, GoogleClient.discoveryRequest, .ok sampleDiscovery, c.now⟩ :: c.log }
    0 sampleJob (next (.ok sampleDiscovery))

theorem sampleDiscovered_task (c : SignIns sampleClient asciiOps)
    (next : HttpAnswer → OidcTask sampleClient.tables (SignInResult asciiOps)) :
    (sampleDiscovered c next).tasks 0 = some (sampleJob,
      ((next (.ok sampleDiscovery)).settle c.now c.shared).2) :=
  Pool.tasks_resume_self _ 0 sampleJob _

theorem sampleDiscovered_step {c : SignIns sampleClient asciiOps}
    {next : HttpAnswer → OidcTask sampleClient.tables (SignInResult asciiOps)}
    (h : c.tasks 0 = some (sampleJob, .ask GoogleClient.discoveryRequest next)) :
    (sampleClient.system asciiOps).step c (.answer 0 (.ok sampleDiscovery)) =
      some (sampleDiscovered c next) := by
  have hstep : Pool.step (sampleClient.program asciiOps) c
      (.answer 0 (.ok sampleDiscovery)) = some _ :=
    Pool.step_answer (.ok sampleDiscovery) h
  exact hstep

def sampleTokenRequest : HttpRequest :=
  sampleClient.tokenRequest sampleMetadata (PyStr.lit "one-time-code")
    sampleTransaction.codeVerifier

/-- It waits for the discovery document, and then for its token. -/
theorem sampleStarted_waits : ∃ next,
    sampleStarted.tasks 0 = some (sampleJob, .ask GoogleClient.discoveryRequest next) ∧
    ∃ next', (sampleDiscovered sampleStarted next).tasks 0 =
      some (sampleJob, .ask sampleTokenRequest next') := by
  obtain ⟨serves⟩ := sampleGoogle_serves
  obtain ⟨next, hnext, hgoes⟩ := @GoogleClient.callback_settle sampleClient asciiOps
    sampleNow (.empty sampleClient.tables) (PyStr.lit "one-time-code") sampleTransaction
    (by decide) rfl
  obtain ⟨next', hnext'⟩ := hgoes sampleDiscovery _ sampleMetadata
    (sampleNow + seconds 600) sampleStarted.now sampleStarted.shared rfl
    (GoogleClient.fromPayload_eq rfl rfl rfl rfl) rfl
  refine ⟨next, ?_, next', ?_⟩
  · refine (Pool.tasks_resume_self sampleStart 0 sampleJob _).trans ?_
    exact congrArg (fun x => some (sampleJob, x.2)) hnext
  · rw [sampleDiscovered_task, hnext']
    rfl

/-- The discovery, and the form that is sent where it says. -/
theorem signIns_requests_sample : ∃ next,
    trustedGoogleEndpoint sampleClient.tables sampleTokenRequest.url = true ∧
    (∃ code transaction metadata, sampleJob = .callback code transaction ∧
      sampleClient.Discovered (sampleDiscovered sampleStarted next).answered metadata ∧
      sampleTokenRequest.url = metadata.tokenEndpoint ∧
      sampleTokenRequest.data =
        some (sampleClient.tokenForm code transaction.codeVerifier) ∧
      Pool.spent GoogleClient.postCost 0 (sampleDiscovered sampleStarted next).log =
        0) ∧
    Pool.spent (fun _ => 1) 0 (sampleDiscovered sampleStarted next).log <
      sampleJob.maxRequests := by
  obtain ⟨next, hwaits, next', hwaits'⟩ := sampleStarted_waits
  obtain ⟨hurl, hform, hspent⟩ := signIns_requests ⟨sampleStart, sampleStart_init,
    sampleStarted_leads.tail trivial (sampleDiscovered_step hwaits)⟩ hwaits'
  obtain ⟨code, transaction, metadata, hjob, hdiscovered, hplace, hdata, honce⟩ :=
    hform _ rfl
  refine ⟨next, ?_, ⟨code, transaction, metadata, hjob, hdiscovered, hplace,
    congrArg some hdata, honce⟩, hspent⟩
  rcases hurl with hdiscovery | htrusted
  · exact absurd hdiscovery (by decide +kernel)
  · exact htrusted

theorem signIns_results_sample : ∃ (c : SignIns sampleClient asciiOps)
    (identity : GoogleIdentity asciiOps), c.tasks 0 = some (sampleJob,
      .done (.ok (.identity identity))) ∧
    c.ranAt 0 ≤ c.now ∧ sampleClient.Answers asciiOps c.answered sampleJob
      (c.ranAt 0) (.identity identity) := by
  obtain ⟨serves⟩ := sampleGoogle_serves
  have hclaims : (identityFromClaims asciiOps sampleClient.allowedDomains
      (Claims.ofEntries sampleClaims)).toOption.isSome = true := by decide +kernel
  obtain ⟨identity, hidentity⟩ := Option.isSome_iff_exists.mp hclaims
  have hok : identityFromClaims asciiOps sampleClient.allowedDomains
      (Claims.ofEntries sampleClaims) = .ok identity := by
    cases hresult : identityFromClaims asciiOps sampleClient.allowedDomains
        (Claims.ofEntries sampleClaims) with
    | error fault =>
        rw [hresult] at hidentity
        cases hidentity
    | ok identity' =>
        rw [hresult] at hidentity
        exact congrArg Except.ok (Option.some.inj hidentity)
  obtain ⟨c, hdone, hreachable, -⟩ :=
    GoogleClient.identity_alone sampleStart_init (serves.exchange_alone.trans hok)
  exact ⟨c, identity, hdone, signIns_results hreachable hdone⟩

/-! ## §10  A client in the handlers -/

section Handlers

variable (client : GoogleClient) (ops : TextOps) (caches : OidcCaches client.tables)
  (answer : HttpRequest → HttpAnswer) (now : ℤ)

/-- The client of the handlers, during one request that nothing interrupts. -/
def GoogleOidc.over (oidc : GoogleOidc ops) : GoogleOidc ops :=
  { oidc with
    allowedDomains := client.allowedDomains
    authorizationUrl := fun transaction =>
      ((client.authorizationUrl transaction).runAlone answer now caches).2
    verifiedClaims := fun code transaction =>
      (((client.verifiedClaims code transaction).runAlone answer now caches).2).map
        Claims.ofEntries }

variable {client ops caches answer now}

/-- Its exchange is the client's, run alone. -/
theorem GoogleOidc.over_exchangeAndVerify (oidc : GoogleOidc ops) (code : PyStr)
    (transaction : OAuthTransaction) :
    (oidc.over client ops caches answer now).exchangeAndVerify code transaction =
      ((client.exchangeAndVerify ops code transaction).runAlone answer now caches).2 := by
  unfold GoogleOidc.exchangeAndVerify GoogleClient.exchangeAndVerify
  split
  · rfl
  · rw [Task.runAlone_bind]
    dsimp only [GoogleOidc.over]
    rcases (client.verifiedClaims code transaction).runAlone answer now caches with
      ⟨caches', fault | claims⟩
    · rfl
    · rfl

/-- Whoever signs in through the handlers has an identity that a run of the
client comes to. -/
theorem GoogleOidc.over_answers {oidc : GoogleOidc ops} {code : PyStr}
    {transaction : OAuthTransaction} {identity : GoogleIdentity ops}
    (h : (oidc.over client ops (.empty client.tables) answer now).exchangeAndVerify
      code transaction = .ok identity) :
    ∃ c : SignIns client ops, (∀ e ∈ c.log, e.answer = answer e.request) ∧
      ∃ t, client.Answers ops c.answered (.callback code transaction) t
        (.identity identity) := by
  rw [over_exchangeAndVerify] at h
  obtain ⟨c, hdone, hreachable, hlog⟩ := @GoogleClient.identity_alone client ops answer
    ⟨.empty client.tables, now, fun _ => none, fun _ => now, []⟩
    ⟨rfl, fun _ => rfl, rfl⟩ _ _ _ h
  obtain ⟨-, hanswers⟩ := (GoogleClient.signIns_safe hreachable).returned hdone
  exact ⟨c, hlog, _, hanswers⟩

end Handlers

end LeakcheckHub.Routers
