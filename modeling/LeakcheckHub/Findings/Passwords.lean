import LeakcheckHub.Foundation.Aead
import LeakcheckHub.Foundation.Json
import LeakcheckHub.Foundation.Outcome
import LeakcheckHub.Foundation.PgText
import LeakcheckHub.Foundation.Utf8
import LeakcheckHub.Crypto.AssociatedData

/-!
# Password columns

`app/finding_crypto.py`: what a finding keeps of a leaked password. What the
code takes from its libraries and its settings is an environment.
-/

namespace LeakcheckHub.Findings

open Foundation Crypto

/-- `jsonb` is what the server stores of a serialized value; `none` where it
rejects it. -/
structure Env where
  unicode : UnicodeData
  aead : Aead.OverBytes
  dataKey : Bytes
  sha256 : Bytes → Bytes
  jsonb : Json → Option Json

inductive IngestError where
  | normalization (message : String)
  | unicodeEncode
  | overflow
  | notFound
  | noCutoff
  | database (e : DbError)
deriving DecidableEq, Repr

/-- `str.encode()`. -/
def encode (s : PyStr) : Except IngestError Bytes :=
  match s.encode with
  | none => .error .unicodeEncode
  | some b => .ok b

/-- `secrets.token_bytes(_NONCE_BYTES)`. -/
structure PasswordNonce where
  bytes : Bytes
  length_eq : bytes.length = 12

structure ProtectedPassword where
  ciphertext : Bytes
  nonce : Bytes
  sha256 : Bytes
  mask : PyStr
  length : ℕ
  charset : PyStr
deriving DecidableEq, Repr

section

variable (env : Env)

def bullet : CodePoint := PyStr.ofChar '•'

/-- `_safe_mask_character`. -/
def safeMaskCharacter (c : CodePoint) : CodePoint :=
  if env.unicode.isPrintable c && !PyStr.isSpace c then c else bullet

def maskPassword (password : PyStr) : PyStr :=
  match password with
  | [] => []
  | c :: rest =>
      if password.length < 6 then
        safeMaskCharacter env c :: List.replicate rest.length bullet
      else
        (password.take 2).map (safeMaskCharacter env) ++
          List.replicate (password.length - 3) bullet ++
          (password.drop (password.length - 1)).map (safeMaskCharacter env)

def passwordCharset (password : PyStr) : PyStr :=
  let classes :=
    [("lower", password.any env.unicode.isLower),
      ("upper", password.any env.unicode.isUpper),
      ("digits", password.any env.unicode.isDigit),
      ("symbols", password.any env.unicode.isSymbol),
      ("unicode", !password.isAscii)]
  match (classes.filter Prod.snd).map Prod.fst with
  | [] => PyStr.lit "other"
  | names => PyStr.lit (String.intercalate "+" names)

def protectPassword (findingId : Uuid) (nonce : PasswordNonce)
    (password : PyStr) : Except IngestError ProtectedPassword := do
  let plaintext ← encode password
  .ok {
    ciphertext :=
      env.aead.encrypt env.dataKey nonce.bytes plaintext (findingAad findingId)
    nonce := nonce.bytes
    sha256 := env.sha256 plaintext
    mask := maskPassword env password
    length := password.length
    charset := passwordCharset env password }

/-- `reveal_password`; an error is the text of a `FindingCryptoError`. -/
def revealPassword (findingId : Uuid) (ciphertext nonce : Bytes) :
    Except String PyStr :=
  if nonce.length ≠ 12 then .error "invalid password nonce"
  else
    match (env.aead.decrypt env.dataKey nonce ciphertext
        (findingAad findingId)).bind PyStr.decode with
    | none => .error "password ciphertext authentication failed"
    | some password => .ok password

end

variable {env : Env} {findingId : Uuid} {nonce : PasswordNonce}
  {s password : PyStr} {b : Bytes} {p : ProtectedPassword}

theorem encode_eq_ok : encode s = .ok b ↔ s.encode = some b := by
  unfold encode
  split
  · rename_i hnone
    rw [hnone]
    exact ⟨fun h => (nomatch h), fun h => (nomatch h)⟩
  · rename_i b' hsome
    rw [hsome, Except.ok.injEq, Option.some.injEq]

theorem protectPassword_eq_ok :
    protectPassword env findingId nonce password = .ok p ↔
      ∃ plaintext, encode password = .ok plaintext ∧
        p = ⟨env.aead.encrypt env.dataKey nonce.bytes plaintext
            (findingAad findingId), nonce.bytes, env.sha256 plaintext,
          maskPassword env password, password.length,
          passwordCharset env password⟩ := by
  unfold protectPassword
  rw [bind_eq_ok]
  refine exists_congr fun plaintext => and_congr_right fun _ => ?_
  rw [Except.ok.injEq]
  exact eq_comm

/-- A mask is as long as the password. -/
theorem length_maskPassword (env : Env) (password : PyStr) :
    (maskPassword env password).length = password.length := by
  unfold maskPassword
  split
  · rfl
  · rename_i c rest
    split
    · rw [List.length_cons, List.length_replicate, List.length_cons]
    · rename_i hlong
      simp only [List.length_append, List.length_map, List.length_take,
        List.length_replicate, List.length_drop]
      omega

/-- Each character of a mask is one that is safe to show, or the bullet. -/
theorem mem_maskPassword {c : CodePoint}
    (h : c ∈ maskPassword env password) :
    c = bullet ∨ env.unicode.isPrintable c = true ∧ PyStr.isSpace c = false := by
  have hsafe : ∀ d, safeMaskCharacter env d = bullet ∨
      env.unicode.isPrintable (safeMaskCharacter env d) = true ∧
        PyStr.isSpace (safeMaskCharacter env d) = false := by
    intro d
    unfold safeMaskCharacter
    split
    · rename_i hd
      rw [Bool.and_eq_true, Bool.not_eq_true'] at hd
      exact .inr hd
    · exact .inl rfl
  unfold maskPassword at h
  split at h
  · cases h
  · split at h
    · rcases List.mem_cons.mp h with rfl | h
      · exact hsafe _
      · exact .inl (List.eq_of_mem_replicate h)
    · rcases List.mem_append.mp h with h | h
      · rcases List.mem_append.mp h with h | h
        · obtain ⟨d, -, rfl⟩ := List.mem_map.mp h
          exact hsafe d
        · exact .inl (List.eq_of_mem_replicate h)
      · obtain ⟨d, -, rfl⟩ := List.mem_map.mp h
        exact hsafe d

/-- A mask has no space that the database could cut off. -/
theorem space_notMem_mask {c : CodePoint} (hc : c ∈ maskPassword env password) :
    c.val ≠ 32 := by
  rcases mem_maskPassword hc with rfl | ⟨-, hnospace⟩
  · decide
  · intro hspace
    rw [PyStr.isSpace, hspace] at hnospace
    exact absurd hnospace (by decide)

/-- What was protected for a finding is revealed under its id. -/
theorem reveal_protected
    (h : protectPassword env findingId nonce password = .ok p) :
    revealPassword env findingId p.ciphertext p.nonce = .ok password := by
  obtain ⟨plaintext, hplaintext, rfl⟩ := protectPassword_eq_ok.mp h
  have hdecode := PyStr.decode_encode (encode_eq_ok.mp hplaintext)
  unfold revealPassword
  rw [if_neg (not_not.mpr nonce.length_eq), env.aead.decrypt_encrypt,
    Option.bind_some, hdecode]

end LeakcheckHub.Findings
