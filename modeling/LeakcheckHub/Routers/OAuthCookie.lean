import LeakcheckHub.Foundation.JsonDocument
import LeakcheckHub.Routers.SignIn

/-!
# The sign-in cookie

`OAuthTransaction.serialize` and `deserialize` of `app/auth/google.py`: JSON in
base64url, a dot, and the HMAC of what stands before it. The time is the
integer of seconds that an expiry is compared with.

§1 writing · §2 reading · §3 what is read · §4 the round trip.
-/

namespace LeakcheckHub.Routers

open Foundation Accounts

variable (H : Hmac) (floatOf : PyStr → BitVec 64) (key : Bytes)

/-! ## §1  Writing -/

/-- `OAuthTransaction.create`, with what `token_urlsafe` draws. -/
def OAuthTransaction.create (state nonce : { b : Bytes // b.length = 32 })
    (codeVerifier : { b : Bytes // b.length = 64 }) (now : ℤ) :
    OAuthTransaction where
  state := base64url state.val
  nonce := base64url nonce.val
  codeVerifier := base64url codeVerifier.val
  expiresAt := now + 600

/-- The members in the order of their keys. -/
def OAuthTransaction.entries (t : OAuthTransaction) :
    List (PyStr × JsonDocument.Scalar) :=
  [(PyStr.lit "code_verifier", .str t.codeVerifier),
    (PyStr.lit "expires_at", .int t.expiresAt),
    (PyStr.lit "nonce", .str t.nonce),
    (PyStr.lit "state", .str t.state)]

/-- `_base64url` of the HMAC of `encoded`. -/
def cookieSignature (encoded : PyStr) : PyStr :=
  base64url (H.digest key (toAscii encoded))

/-- `OAuthTransaction.serialize`. -/
def OAuthTransaction.serialize (t : OAuthTransaction) : PyStr :=
  let payload := toAscii (JsonDocument.dumps t.entries)
  let encoded := base64url payload
  encoded ++ 46 :: cookieSignature H key encoded

/-! ## §2  Reading -/

/-- The exceptions of reading a payload. -/
inductive PayloadFault where
  | binascii
  | unicodeDecode
  | value
  | key
  | type
deriving DecidableEq, Repr

/-- What the `except` clause names. -/
def caughtFaults : List PayloadFault :=
  [.binascii, .key, .type, .value, .unicodeDecode]

/-- A value, or the exception that its absence is. -/
def orRaise {α : Type} (fault : PayloadFault) :
    Option α → Except PayloadFault α
  | none => .error fault
  | some a => .ok a

/-- `_base64url_decode`. -/
def base64urlDecode (value : PyStr) : Option Bytes :=
  urlsafeB64decode
    (value ++ List.replicate ((4 - value.length % 4) % 4) b64Pad)

/-- `payload[name]`. -/
def subscript (payload : Json) (name : String) : Except PayloadFault Json :=
  match payload with
  | .obj entries => orRaise .key (field name entries)
  | _ => .error .type

/-- `cls(…)` before its fields are checked. -/
structure Candidate where
  state : Json
  nonce : Json
  codeVerifier : Json
  expiresAt : Json

/-- The body of the `try`. -/
def readPayload (encoded : PyStr) : Except PayloadFault Candidate := do
  let bytes ← orRaise .binascii (base64urlDecode encoded)
  let text ← orRaise .unicodeDecode (JsonDocument.decode bytes)
  let payload ← orRaise .value (JsonDocument.loadsText floatOf text)
  let state ← subscript payload "state"
  let nonce ← subscript payload "nonce"
  let codeVerifier ← subscript payload "code_verifier"
  let expiresAt ← subscript payload "expires_at"
  pure ⟨state, nonce, codeVerifier, expiresAt⟩

/-- `_is_urlsafe_token`. -/
def isUrlsafeToken (value : PyStr) (expectedLength : ℕ) : Bool :=
  value.length == expectedLength && value.all isUrlSafe

/-- An `int`, which the truth values are as well. -/
def intOf : Json → Option ℤ
  | .int n => some n
  | .bool b => some (if b then 1 else 0)
  | _ => none

/-- The checks behind the `try`. -/
def Candidate.checked (c : Candidate) (now : ℤ) : Option OAuthTransaction :=
  match c.state, c.nonce, c.codeVerifier, intOf c.expiresAt with
  | .str state, .str nonce, .str codeVerifier, some expiresAt =>
      if !isUrlsafeToken state 43 || !isUrlsafeToken nonce 43 ||
          !isUrlsafeToken codeVerifier 86 || decide (expiresAt ≤ now) then none
      else some ⟨state, nonce, codeVerifier, expiresAt⟩
  | _, _, _, _ => none

/-- `OAuthTransaction.deserialize`; on ASCII, `compare_digest` is equality. -/
def deserialize (value : Option PyStr) (now : ℤ) :
    Except PayloadFault (Option OAuthTransaction) :=
  match value with
  | none => .ok none
  | some value =>
      if value.count 46 ≠ 1 ∨ 2048 < value.length then .ok none
      else
        let encoded : PyStr := value.takeWhile fun c => c != 46
        let supplied : PyStr := (value.dropWhile fun c => c != 46).drop 1
        if !encoded.isAscii || !supplied.isAscii then .ok none
        else if supplied != cookieSignature H key encoded then .ok none
        else
          match readPayload floatOf encoded with
          | .error fault =>
              if caughtFaults.contains fault then .ok none else .error fault
          | .ok candidate => .ok (candidate.checked now)

/-- `GoogleOIDC` with the cookies that it signs, at a time. -/
def GoogleOidc.signing {ops : TextOps} (oidc : GoogleOidc ops) (now : ℤ) :
    GoogleOidc ops :=
  { oidc with
    transactionCookie := OAuthTransaction.serialize H key
    readTransactionCookie := fun value =>
      match deserialize H floatOf key value now with
      | .ok transaction => transaction
      | .error _ => none }

/-! ## §3  What is read -/

section Read

variable {H floatOf key} {encoded : PyStr} {candidate : Candidate}
  {t : OAuthTransaction} {now : ℤ} {v : PyStr}

/-- Text with a dot in it is what stands before the first one, the dot and the
rest. -/
theorem eq_append_dot (h : (46 : CodePoint) ∈ v) :
    v = (v.takeWhile fun c => c != 46) ++
      46 :: (v.dropWhile fun c => c != 46).drop 1 := by
  induction v with
  | nil => cases h
  | cons c v ih =>
      by_cases hc : c = 46
      · subst hc
        simp
      · have hmem : (46 : CodePoint) ∈ v := by
          rcases List.mem_cons.mp h with rfl | hmem
          · exact absurd rfl hc
          · exact hmem
        have hne : (c != 46) = true := bne_iff_ne.mpr hc
        rw [List.takeWhile_cons, List.dropWhile_cons, if_pos hne, if_pos hne,
          List.cons_append, ← ih hmem]

theorem checked_eq_some (h : candidate.checked now = some t) :
    candidate.state = .str t.state ∧ candidate.nonce = .str t.nonce ∧
      candidate.codeVerifier = .str t.codeVerifier ∧
      intOf candidate.expiresAt = some t.expiresAt ∧
      isUrlsafeToken t.state 43 = true ∧ isUrlsafeToken t.nonce 43 = true ∧
      isUrlsafeToken t.codeVerifier 86 = true ∧ now < t.expiresAt := by
  unfold Candidate.checked at h
  split at h
  · rename_i hstate hnonce hverifier hexpires
    split at h
    · cases h
    · rename_i hpassed
      cases h
      simp only [Bool.or_eq_true, Bool.not_eq_true', decide_eq_true_eq,
        not_or, Bool.not_eq_false, not_le] at hpassed
      obtain ⟨⟨⟨h₁, h₂⟩, h₃⟩, h₄⟩ := hpassed
      exact ⟨hstate, hnonce, hverifier, hexpires, h₁, h₂, h₃, h₄⟩
  · cases h

/-- The `except` clause names all that the body raises. -/
theorem caughtFaults_complete (fault : PayloadFault) :
    caughtFaults.contains fault = true := by
  cases fault <;> rfl

/-- `deserialize` raises nothing. -/
theorem deserialize_total (value : Option PyStr) (now : ℤ) :
    ∃ result, deserialize H floatOf key value now = .ok result := by
  unfold deserialize
  split
  · exact ⟨none, rfl⟩
  · dsimp only
    split
    · exact ⟨none, rfl⟩
    · split
      · exact ⟨none, rfl⟩
      · split
        · exact ⟨none, rfl⟩
        · split
          · exact ⟨none, if_pos (caughtFaults_complete _)⟩
          · exact ⟨_, rfl⟩

/-- The cookie is one that `key` signed, and its payload holds `t`. -/
structure Signed (H : Hmac) (floatOf : PyStr → BitVec 64) (key : Bytes)
    (v : PyStr) (t : OAuthTransaction) (encoded signature : PyStr) : Prop where
  split : v = encoded ++ 46 :: signature
  signature : signature = cookieSignature H key encoded
  payload : ∃ expiresAt, readPayload floatOf encoded =
      .ok ⟨.str t.state, .str t.nonce, .str t.codeVerifier, expiresAt⟩ ∧
    intOf expiresAt = some t.expiresAt

theorem deserialize_signed
    (h : deserialize H floatOf key (some v) now = .ok (some t)) :
    (∃ encoded signature, Signed H floatOf key v t encoded signature) ∧
      now < t.expiresAt := by
  unfold deserialize at h
  dsimp only at h
  split at h
  · cases h
  · rename_i hshape
    split at h
    · cases h
    · split at h
      · cases h
      · rename_i hsignature
        split at h
        · split at h <;> cases h
        · rename_i candidate hpayload
          rw [Except.ok.injEq] at h
          obtain ⟨hstate, hnonce, hverifier, hexpires, -, -, -, hnow⟩ :=
            checked_eq_some h
          have hcount : v.count 46 = 1 := by
            rw [not_or, not_not] at hshape
            exact hshape.1
          have hdot : (46 : CodePoint) ∈ v :=
            List.count_pos_iff.mp (by omega)
          rw [bne_iff_ne, not_not] at hsignature
          refine ⟨⟨_, _, eq_append_dot hdot, hsignature,
            candidate.expiresAt, ?_, hexpires⟩, hnow⟩
          rw [← hstate, ← hnonce, ← hverifier]
          exact hpayload

end Read

/-! ## §4  The round trip -/

section RoundTrip

variable {H floatOf key} {t : OAuthTransaction} {now : ℤ}

/-- What `create` makes at any time of at most 12 digits. -/
structure Issuable (t : OAuthTransaction) : Prop where
  state : isUrlsafeToken t.state 43 = true
  nonce : isUrlsafeToken t.nonce 43 = true
  codeVerifier : isUrlsafeToken t.codeVerifier 86 = true
  expiresAt : t.expiresAt.natAbs < 10 ^ 12

theorem plain_of_urlSafe {s : PyStr} (h : s.all isUrlSafe = true) :
    ∀ c ∈ s, JsonText.Plain c := by
  intro c hc
  have hsafe := List.all_eq_true.mp h c hc
  have hquote : c ≠ 34 ∧ c ≠ 92 := by
    constructor <;> rintro rfl <;> exact absurd hsafe (by decide)
  simp only [isUrlSafe, Bool.or_eq_true, Bool.and_eq_true, decide_eq_true_eq,
    beq_iff_eq] at hsafe
  exact ⟨by omega, by omega, hquote.1, hquote.2⟩

theorem length_digits {n : ℕ} (h : n < 10 ^ 12) :
    (Nat.digits 10 n).length ≤ 12 :=
  (Nat.digits_length_le_iff (by decide : 1 < 10) n).mpr h

theorem isUrlsafeToken_iff {s : PyStr} {n : ℕ} :
    isUrlsafeToken s n = true ↔ s.length = n ∧ s.all isUrlSafe = true := by
  rw [isUrlsafeToken, Bool.and_eq_true, beq_iff_eq]

theorem isUrlsafeToken_base64url {b : Bytes} {n : ℕ}
    (h : (4 * b.length + 2) / 3 = n) : isUrlsafeToken (base64url b) n = true :=
  isUrlsafeToken_iff.mpr
    ⟨(base64url_spec b).1.trans h, (base64url_spec b).2.1⟩

theorem issuable_create (state nonce : { b : Bytes // b.length = 32 })
    (codeVerifier : { b : Bytes // b.length = 64 })
    (h : (now + 600).natAbs < 10 ^ 12) :
    Issuable (OAuthTransaction.create state nonce codeVerifier now) where
  state := isUrlsafeToken_base64url (by rw [state.property])
  nonce := isUrlsafeToken_base64url (by rw [nonce.property])
  codeVerifier := isUrlsafeToken_base64url (by rw [codeVerifier.property])
  expiresAt := h

theorem Issuable.plain (h : Issuable t) : ∀ e ∈ t.entries,
    (∀ c ∈ e.1, JsonText.Plain c) ∧ e.2.Plain := by
  have hverifier := plain_of_urlSafe (isUrlsafeToken_iff.mp h.codeVerifier).2
  have hnonce := plain_of_urlSafe (isUrlsafeToken_iff.mp h.nonce).2
  have hstate := plain_of_urlSafe (isUrlsafeToken_iff.mp h.state).2
  have hexpires := length_digits h.expiresAt
  intro e he
  simp only [OAuthTransaction.entries, List.mem_cons, List.not_mem_nil,
    or_false] at he
  rcases he with rfl | rfl | rfl | rfl
  · exact ⟨plain_of_urlSafe rfl, hverifier⟩
  · refine ⟨plain_of_urlSafe rfl, ?_⟩
    show (Nat.digits 10 t.expiresAt.natAbs).length ≤ 4300
    omega
  · exact ⟨plain_of_urlSafe rfl, hnonce⟩
  · exact ⟨plain_of_urlSafe rfl, hstate⟩

theorem length_dumpString {s : PyStr} (h : s.all isUrlSafe = true) :
    (JsonText.dumpString s).length = s.length + 2 := by
  rw [JsonText.dumpString, JsonText.flatMap_escape (plain_of_urlSafe h),
    List.length_cons, List.length_append]
  rfl

theorem length_ofInt {n : ℤ} (h : n.natAbs < 10 ^ 12) :
    (PyStr.ofInt n).length ≤ 13 := by
  have hnat : ∀ k : ℕ, k < 10 ^ 12 → (PyStr.ofNat k).length ≤ 12 := by
    intro k hk
    obtain ⟨ds, -, -, htext, -, hlen⟩ := PyStr.ofNat_eq_map k
    have hdigits := length_digits hk
    rw [htext, List.length_map]
    omega
  cases n with
  | ofNat k => exact Nat.le_succ_of_le (hnat k h)
  | negSucc k => exact Nat.succ_le_succ (hnat (k + 1) h)

/-- The payload is short enough for the limit on cookies. -/
theorem Issuable.length_dumps (h : Issuable t) :
    (JsonDocument.dumps t.entries).length ≤ 241 := by
  obtain ⟨hlenVerifier, hverifier⟩ := isUrlsafeToken_iff.mp h.codeVerifier
  obtain ⟨hlenNonce, hnonce⟩ := isUrlsafeToken_iff.mp h.nonce
  obtain ⟨hlenState, hstate⟩ := isUrlsafeToken_iff.mp h.state
  have hexpires := length_ofInt h.expiresAt
  have hkeys : (JsonText.dumpString (PyStr.lit "code_verifier")).length = 15 ∧
      (JsonText.dumpString (PyStr.lit "expires_at")).length = 12 ∧
      (JsonText.dumpString (PyStr.lit "nonce")).length = 7 ∧
      (JsonText.dumpString (PyStr.lit "state")).length = 7 := by decide
  obtain ⟨h₁, h₂, h₃, h₄⟩ := hkeys
  simp only [JsonDocument.dumps, OAuthTransaction.entries,
    JsonDocument.dumpMembers, JsonDocument.Scalar.dump, List.length_cons,
    List.length_append, List.length_nil, length_dumpString hverifier,
    length_dumpString hnonce, length_dumpString hstate, h₁, h₂, h₃, h₄]
  omega

theorem length_toAscii (s : PyStr) : (toAscii s).length = s.length :=
  List.length_map _

theorem length_cookieSignature (encoded : PyStr) :
    (cookieSignature H key encoded).length = 43 := by
  rw [cookieSignature, (base64url_spec _).1, H.length_digest]

theorem base64urlDecode_base64url (s : Bytes) :
    base64urlDecode (base64url s) = some s :=
  urlsafeB64decode_base64url s

/-- The payload is read back. -/
theorem Issuable.readPayload_dumps (h : Issuable t) :
    readPayload floatOf (base64url (toAscii (JsonDocument.dumps t.entries))) =
      .ok ⟨.str t.state, .str t.nonce, .str t.codeVerifier,
        .int t.expiresAt⟩ := by
  have hkeys : (t.entries.map Prod.fst).Nodup := by
    show (["code_verifier", "expires_at", "nonce", "state"].map
      PyStr.lit).Nodup
    decide
  have hloads : JsonDocument.loads floatOf _ = some _ :=
    JsonDocument.loads_dumps h.plain hkeys
  obtain ⟨text, htext, hpayload⟩ := Option.bind_eq_some_iff.mp hloads
  unfold readPayload
  rw [base64urlDecode_base64url]
  show (orRaise .unicodeDecode (JsonDocument.decode _) >>= _) = _
  rw [htext]
  show (orRaise .value (JsonDocument.loadsText floatOf text) >>= _) = _
  rw [hpayload]
  rfl

theorem count_dot {e s : PyStr} (he : e.all isUrlSafe = true)
    (hs : s.all isUrlSafe = true) : (e ++ 46 :: s).count 46 = 1 := by
  have hundotted : ∀ u : PyStr, u.all isUrlSafe = true → u.count 46 = 0 := by
    intro u hu
    rw [List.count_eq_zero]
    intro hmem
    exact absurd (List.all_eq_true.mp hu _ hmem) (by decide)
  rw [List.count_append, List.count_cons_self, hundotted e he, hundotted s hs]

theorem Issuable.checked (h : Issuable t) (now : ℤ) :
    Candidate.checked ⟨.str t.state, .str t.nonce, .str t.codeVerifier,
      .int t.expiresAt⟩ now = if now < t.expiresAt then some t else none := by
  unfold Candidate.checked
  simp only [intOf, h.state, h.nonce, h.codeVerifier, Bool.not_true,
    Bool.false_or, decide_eq_true_eq]
  by_cases hnow : now < t.expiresAt
  · rw [if_pos hnow, if_neg (not_le.mpr hnow)]
  · rw [if_neg hnow, if_pos (not_lt.mp hnow)]

/-- What the key signed is read, if it is not too long. -/
theorem deserialize_own {encoded : PyStr} {candidate : Candidate}
    (hencoded : encoded.all isUrlSafe = true) (hlen : encoded.length ≤ 2004)
    (hread : readPayload floatOf encoded = .ok candidate) (now : ℤ) :
    deserialize H floatOf key
        (some (encoded ++ 46 :: cookieSignature H key encoded)) now =
      .ok (candidate.checked now) := by
  have hsignature : (cookieSignature H key encoded).all isUrlSafe = true :=
    (base64url_spec _).2.1
  obtain ⟨htake, hdrop⟩ := split_dot hencoded (cookieSignature H key encoded)
  have hshape : ¬ ((encoded ++ 46 :: cookieSignature H key encoded).count 46 ≠ 1 ∨
      2048 < (encoded ++ 46 :: cookieSignature H key encoded).length) := by
    rw [count_dot hencoded hsignature, List.length_append, List.length_cons,
      length_cookieSignature]
    omega
  unfold deserialize
  simp only [if_neg hshape, htake, hdrop, isAscii_of_urlSafe hencoded,
    isAscii_of_urlSafe hsignature, hread, bne_self_eq_false, Bool.not_true,
    Bool.or_self, Bool.false_eq_true, if_false]

/-- **A cookie is read back** as the transaction it was made of, until it
expires. -/
theorem Issuable.deserialize_serialize (h : Issuable t) (now : ℤ) :
    deserialize H floatOf key (some (t.serialize H key)) now =
      .ok (if now < t.expiresAt then some t else none) := by
  obtain ⟨hlength, hencoded, -⟩ :=
    base64url_spec (toAscii (JsonDocument.dumps t.entries))
  have hlen := h.length_dumps
  rw [length_toAscii] at hlength
  rw [← h.checked]
  exact deserialize_own hencoded (by omega) h.readPayload_dumps now

/-- A sign-in that was begun is found again within its ten minutes. -/
theorem GoogleOidc.signing_reads_own {ops : TextOps} (oidc : GoogleOidc ops)
    (h : Issuable t) (now : ℤ) :
    (oidc.signing H floatOf key now).readTransactionCookie
        (some ((oidc.signing H floatOf key now).transactionCookie t)) =
      if now < t.expiresAt then some t else none := by
  unfold GoogleOidc.signing
  dsimp only
  rw [h.deserialize_serialize]

/-- **The sign-in cookie.** What a key signed is read back until it expires;
whatever is read was signed with the key, and is what its payload holds; and
no text raises. -/
theorem oauthCookie_exact (H : Hmac) (floatOf : PyStr → BitVec 64)
    (key : Bytes) (now : ℤ) :
    (∀ t : OAuthTransaction, Issuable t →
      deserialize H floatOf key (some (t.serialize H key)) now =
        .ok (if now < t.expiresAt then some t else none)) ∧
    (∀ v t, deserialize H floatOf key (some v) now = .ok (some t) →
      ∃ encoded signature, Signed H floatOf key v t encoded signature) ∧
    ∀ v, ∃ result, deserialize H floatOf key (some v) now = .ok result :=
  ⟨fun _ h => h.deserialize_serialize now,
    fun _ _ h => (deserialize_signed h).1,
    fun v => deserialize_total (some v) now⟩

end RoundTrip

def sampleTransaction : OAuthTransaction where
  state := List.replicate 43 115
  nonce := List.replicate 43 110
  codeVerifier := List.replicate 86 118
  expiresAt := 1785499923

def sampleTransactionKey : Bytes :=
  PyStr.asciiLit "an-example-transaction-key-32-by"

/-- HMAC-SHA-256 of the payload of the sample. -/
def sampleHmac : Hmac := Hmac.ofVectors [
  (sampleTransactionKey,
    toAscii (base64url (toAscii (JsonDocument.dumps sampleTransaction.entries))),
    0x9f9068a384129a5552c6c41bbcb86cf39120704e2a8dabb45d520f21beaeeb97)]

def sampleCookie : PyStr :=
  PyStr.lit ("eyJjb2RlX3ZlcmlmaWVyIjoidnZ2dnZ2dnZ2dnZ2dnZ2dnZ2dnZ2dnZ2dnZ2" ++
    "dnZ2dnZ2dnZ2dnZ2dnZ2dnZ2dnZ2dnZ2dnZ2dnZ2dnZ2dnZ2dnZ2dnZ2dnZ2" ++
    "dnZ2dnZ2dnZ2dnZ2dnYiLCJleHBpcmVzX2F0IjoxNzg1NDk5OTIzLCJub25j" ++
    "ZSI6Im5ubm5ubm5ubm5ubm5ubm5ubm5ubm5ubm5ubm5ubm5ubm5ubm5ubm5u" ++
    "bm4iLCJzdGF0ZSI6InNzc3Nzc3Nzc3Nzc3Nzc3Nzc3Nzc3Nzc3Nzc3Nzc3Nz" ++
    "c3Nzc3Nzc3Nzc3MifQ.n5Boo4QSmlVSxsQbvLhs85EgcE4qjau0XVIPIb6u6" ++
    "5c")

theorem lit_append (a b : String) :
    PyStr.lit (a ++ b) = PyStr.lit a ++ PyStr.lit b := by
  rw [PyStr.lit, String.toList_append, List.map_append]
  rfl

theorem oauthCookie_exact_sample :
    deserialize sampleHmac (fun _ => 0) sampleTransactionKey
        (some sampleCookie) 1785499922 = .ok (some sampleTransaction) ∧
      deserialize sampleHmac (fun _ => 0) sampleTransactionKey
        (some sampleCookie) 1785499923 = .ok none := by
  have hcookie : sampleCookie =
      sampleTransaction.serialize sampleHmac sampleTransactionKey := by
    unfold sampleCookie
    rw [lit_append, lit_append, lit_append, lit_append, lit_append, lit_append]
    decide +kernel
  have hissuable : Issuable sampleTransaction :=
    ⟨by decide, by decide, by decide, by decide⟩
  have hread := fun now => (oauthCookie_exact sampleHmac (fun _ => 0)
    sampleTransactionKey now).1 sampleTransaction hissuable
  rw [hcookie]
  exact ⟨hread 1785499922, hread 1785499923⟩

end LeakcheckHub.Routers
