import LeakcheckHub.Foundation.Base64
import LeakcheckHub.Crypto.Rotation

/-!
# Decoders of the data key

The validator of `LC_DATA_KEY` in `app/config.py` and the decoders of
`app/reencrypt.py`, `app/finding_crypto.py`, `app/platform_settings.py` and
`app/auth/local.py`. Two of them are strict; the others pass over what is not
in the alphabet.
-/

namespace LeakcheckHub.Crypto

open Foundation

/-! ## §1  The decoders -/

/-- `encoded + ("=" * (-len(encoded) % 4))`. -/
def padded (encoded : PyStr) : PyStr :=
  encoded ++ List.replicate ((4 - encoded.length % 4) % 4) b64Pad

/-- `_KNOWN_PLACEHOLDERS`. -/
def knownPlaceholders : List PyStr :=
  ["changeme", "change-me", "replace-me",
    "replace-with-a-long-random-password",
    "replace-with-at-least-32-random-characters",
    "replace-with-a-base64url-encoded-32-byte-key"].map PyStr.lit

def isPlaceholder (U : UnicodeData) (encoded : PyStr) : Bool :=
  knownPlaceholders.contains (U.casefold encoded) ||
    (PyStr.lit "replace-with-").isPrefixOf encoded

/-- `Settings.data_key_must_be_aes_256_key`. -/
def dataKeyMustBeAes256Key (U : UnicodeData) (encoded : PyStr) :
    Except PyStr PyStr :=
  if isPlaceholder U encoded then
    .error (PyStr.lit "LC_DATA_KEY must not be a placeholder")
  else match b64decodeValidated (padded encoded) with
    | none => .error (PyStr.lit "LC_DATA_KEY must be base64-url encoded")
    | some key =>
        if key.length ≠ 32 then
          .error (PyStr.lit "LC_DATA_KEY must decode to exactly 32 bytes")
        else .ok encoded

/-- `_key` of `app/finding_crypto.py`. -/
def findingKey (encoded : PyStr) : Option Bytes :=
  urlsafeB64decode (padded encoded)

/-- The constructor of `PlatformSettingsStore`: `AESGCM` takes keys of three
lengths. -/
def platformSettingsKey (encoded : PyStr) : Option Bytes := do
  let key ← urlsafeB64decode (padded encoded)
  if key.length = 16 ∨ key.length = 24 ∨ key.length = 32 then pure key
  else none

/-- `_data_key` of `app/auth/local.py`; `none` is a
`LocalAuthenticationError`. -/
def localDataKey (encoded : PyStr) : Option Bytes :=
  b64decodeValidated (padded encoded)

/-- A string that `decode_key` takes is one that can be configured, and all
decoders read the same key from it. -/
structure DecodersAgree (U : UnicodeData) (encoded : PyStr) : Prop where
  accepted : (∃ key, decodeKey encoded = some key) ↔
    dataKeyMustBeAes256Key U encoded = .ok encoded
  same : ∀ key, decodeKey encoded = some key →
    key.length = 32 ∧ findingKey encoded = some key ∧
      platformSettingsKey encoded = some key ∧
        localDataKey encoded = some key

/-- 43 characters of the alphabet, with at most one `=` behind them. -/
def CanonicalKey (encoded : PyStr) : Prop :=
  ∃ u : PyStr, u.length = 43 ∧ (∀ c ∈ u, isBase64 c = true) ∧
    (encoded = u ∨ encoded = u ++ [b64Pad])

/-- ASCII text whose padding completes the quantum of the 43rd character of
the alphabet and none before it, whatever other characters it has. -/
def ReadableKey (encoded : PyStr) : Prop :=
  encoded.isAscii = true ∧ Fills 43 (padded encoded) 0 0

/-! ## §2  What they take -/

variable {U : UnicodeData} {encoded : PyStr} {key : Bytes}

theorem isAscii_padded : (padded encoded).isAscii = encoded.isAscii := by
  have hpads : PyStr.isAscii (List.replicate
      ((4 - encoded.length % 4) % 4) b64Pad) = true := by
    rw [PyStr.isAscii, List.all_eq_true]
    intro c hc
    rw [List.eq_of_mem_replicate hc]
    rfl
  unfold PyStr.isAscii at hpads ⊢
  rw [padded, List.all_append, hpads, Bool.and_true]

theorem decodeKey_eq :
    decodeKey encoded = (findingKey encoded).bind fun raw =>
      if raw.length ≠ 32 then none else pure raw := rfl

theorem decodeKey_spec (h : decodeKey encoded = some key) :
    findingKey encoded = some key ∧ key.length = 32 := by
  rw [decodeKey_eq] at h
  obtain ⟨raw, hraw, h⟩ := Option.bind_eq_some_iff.mp h
  split at h
  · cases h
  · rename_i hlen
    cases h
    exact ⟨hraw, not_not.mp hlen⟩

theorem decodeKey_of_findingKey (h : findingKey encoded = some key)
    (hlen : key.length = 32) : decodeKey encoded = some key := by
  rw [decodeKey_eq, h, Option.bind_some, if_neg (not_not.mpr hlen)]
  rfl

/-- `decode_key` passes over characters that are no data. -/
theorem decodeKey_iff :
    (∃ key, decodeKey encoded = some key) ↔ ReadableKey encoded := by
  have hdecodes : Decodes (a2bBase64 (padded encoded) 0 0 0) 0 (octets 43) ↔
      Fills 43 (padded encoded) 0 0 :=
    decodes_a2bBase64 (M := 43) (m := 0) (by decide) (.inl rfl)
  unfold ReadableKey
  rw [← hdecodes, ← isAscii_padded]
  constructor
  · rintro ⟨key, hkey⟩
    obtain ⟨hraw, hlen⟩ := decodeKey_spec hkey
    unfold findingKey urlsafeB64decode at hraw
    split at hraw
    · rename_i hascii
      exact ⟨hascii, key, hraw, hlen⟩
    · cases hraw
  · rintro ⟨hascii, key, hraw, hlen⟩
    refine ⟨key, decodeKey_of_findingKey ?_ hlen⟩
    unfold findingKey urlsafeB64decode
    rw [if_pos hascii]
    exact hraw

theorem isAscii_of_isBase64 {u : PyStr} (h : ∀ c ∈ u, isBase64 c = true) :
    u.isAscii = true := by
  rw [PyStr.isAscii, List.all_eq_true]
  intro c hc
  by_contra hlarge
  rw [decide_eq_true_eq] at hlarge
  have hnone : isBase64 c = false := by
    unfold isBase64 sextet
    rw [if_neg (by omega), if_neg (by omega), if_neg (by omega),
      if_neg (by omega), if_neg (by omega)]
    rfl
  rw [h c hc] at hnone
  cases hnone

/-- The strict decoder takes the canonical spellings of a key. -/
theorem exactlyPadded_iff :
    ExactlyPadded (padded encoded) 43 ↔ CanonicalKey encoded := by
  unfold ExactlyPadded CanonicalKey
  constructor
  · rintro ⟨u, hu, hlen, hall⟩
    refine ⟨u, hlen, hall, ?_⟩
    unfold padded at hu
    generalize hn : (4 - encoded.length % 4) % 4 = n at hu
    match n with
    | 0 =>
        right
        rw [List.replicate_zero, List.append_nil] at hu
        exact hu
    | 1 =>
        left
        exact List.append_cancel_right hu
    | n + 2 =>
        -- the data would have to end with a sign of padding
        rw [List.replicate_succ', ← List.append_assoc] at hu
        have hu := List.append_cancel_right hu
        have hmem : b64Pad ∈ u := by
          rw [← hu, List.replicate_succ']
          simp
        exact absurd (hall b64Pad hmem) (by decide)
  · rintro ⟨u, hlen, hall, rfl | rfl⟩
    · refine ⟨encoded, ?_, hlen, hall⟩
      rw [padded, hlen]
      rfl
    · refine ⟨u, ?_, hlen, hall⟩
      rw [padded, List.length_append, hlen]
      exact List.append_nil _

theorem b64decodeValidated_iff :
    (∃ key, b64decodeValidated (padded encoded) = some key ∧
      key.length = 32) ↔ CanonicalKey encoded := by
  have hstrict : Decodes (a2bBase64Strict (padded encoded) 0 0 0 false) 0
      (octets 43) ↔ 0 ≤ 43 ∧ ExactlyPadded (padded encoded) 43 :=
    decodes_strict (M := 43) (m := 0) (by decide)
  rw [and_iff_right (Nat.zero_le 43), exactlyPadded_iff] at hstrict
  rw [← hstrict]
  constructor
  · rintro ⟨key, hkey, hlen⟩
    unfold b64decodeValidated at hkey
    split at hkey
    · split at hkey
      · cases hkey
        cases hlen
      · split at hkey
        · cases hkey
        · exact ⟨key, hkey, hlen⟩
    · cases hkey
  · intro hdecodes
    obtain ⟨key, hkey, hlen⟩ := hdecodes
    refine ⟨key, ?_, hlen⟩
    have hcanonical := hstrict.mp ⟨key, hkey, hlen⟩
    obtain ⟨u, hulen, hall, hencoded⟩ := hcanonical
    have hascii : (padded encoded).isAscii = true := by
      have hu := isAscii_of_isBase64 hall
      rw [isAscii_padded]
      rcases hencoded with rfl | rfl
      · exact hu
      · unfold PyStr.isAscii at hu ⊢
        rw [List.all_append, hu]
        rfl
    unfold b64decodeValidated
    rw [if_pos hascii]
    -- the text begins with data
    cases u with
    | nil => cases hulen
    | cons c u =>
        have hc := hall c List.mem_cons_self
        have hne : c.val ≠ 61 := by
          intro heq
          rw [isBase64_of_pad heq] at hc
          cases hc
        have hhead : ∃ rest, padded encoded = c :: rest := by
          rcases hencoded with rfl | rfl
          · exact ⟨_, rfl⟩
          · exact ⟨_, rfl⟩
        obtain ⟨rest, hrest⟩ := hhead
        rw [hrest] at hkey ⊢
        simp only [if_neg hne]
        exact hkey

theorem dataKeyMustBeAes256Key_iff (h : isPlaceholder U encoded = false) :
    dataKeyMustBeAes256Key U encoded = .ok encoded ↔
      CanonicalKey encoded := by
  rw [← b64decodeValidated_iff]
  unfold dataKeyMustBeAes256Key
  rw [if_neg (by rw [h]; decide)]
  cases hkey : b64decodeValidated (padded encoded) with
  | none =>
      refine iff_of_false (fun hok => by cases hok) ?_
      rintro ⟨key, hsome, -⟩
      cases hsome
  | some key =>
      simp only [Option.some.injEq, exists_eq_left']
      by_cases hlen : key.length = 32
      · rw [if_neg (not_not.mpr hlen)]
        exact iff_of_true rfl hlen
      · rw [if_pos hlen]
        exact iff_of_false (fun hok => by cases hok) hlen

theorem findingKey_of_localDataKey (h : localDataKey encoded = some key) :
    findingKey encoded = some key := by
  unfold localDataKey b64decodeValidated at h
  unfold findingKey urlsafeB64decode
  split at h
  · rename_i hascii
    rw [if_pos hascii]
    split at h
    · rename_i hnil
      rw [hnil]
      exact h
    · split at h
      · cases h
      · exact a2bBase64_of_strict h
  · cases h

/-! ## §3  When they agree -/

/-- A canonical spelling is read alike everywhere. -/
theorem decoders_of_canonical (h : CanonicalKey encoded) :
    ∃ key, key.length = 32 ∧ decodeKey encoded = some key ∧
      findingKey encoded = some key ∧ platformSettingsKey encoded = some key ∧
        localDataKey encoded = some key := by
  obtain ⟨key, hlocal, hlen⟩ := b64decodeValidated_iff.mpr h
  have hfinding := findingKey_of_localDataKey hlocal
  refine ⟨key, hlen, decodeKey_of_findingKey hfinding hlen, hfinding, ?_,
    hlocal⟩
  refine Option.bind_eq_some_iff.mpr ⟨key, hfinding, ?_⟩
  exact if_pos (.inr (.inr hlen))

/-- The decoders agree on the canonical spellings of a key and on what none of
them takes: they fall apart on every other text that has the data of a key. -/
theorem decoders_agree_iff (h : isPlaceholder U encoded = false) :
    DecodersAgree U encoded ↔
      CanonicalKey encoded ∨ ¬ ReadableKey encoded := by
  constructor
  · intro hagree
    by_cases hread : ReadableKey encoded
    · left
      rw [← dataKeyMustBeAes256Key_iff h]
      exact hagree.accepted.mp (decodeKey_iff.mpr hread)
    · exact .inr hread
  · intro hcase
    constructor
    · rw [decodeKey_iff, dataKeyMustBeAes256Key_iff h]
      constructor
      · intro hread
        exact hcase.resolve_right fun hnot => hnot hread
      · intro hcanonical
        obtain ⟨key, -, hkey, -⟩ := decoders_of_canonical hcanonical
        exact decodeKey_iff.mp ⟨key, hkey⟩
    · intro key hkey
      have hread := decodeKey_iff.mp ⟨key, hkey⟩
      have hcanonical := hcase.resolve_right fun hnot => hnot hread
      obtain ⟨key', hlen, hdecode, hrest⟩ := decoders_of_canonical hcanonical
      rw [hkey, Option.some.injEq] at hdecode
      subst hdecode
      exact ⟨hlen, hrest⟩

/-- The key of 32 zero bytes. -/
def zeroKeyText : PyStr := List.replicate 43 (PyStr.ofChar 'A')

theorem zeroKeyText_decoders_agree :
    isPlaceholder asciiData zeroKeyText = false ∧
      CanonicalKey zeroKeyText ∧ DecodersAgree asciiData zeroKeyText := by
  have hcanonical : CanonicalKey zeroKeyText := by
    refine ⟨zeroKeyText, by decide, ?_, .inl rfl⟩
    intro c hc
    rw [List.eq_of_mem_replicate hc]
    decide
  exact ⟨by decide, hcanonical,
    (decoders_agree_iff (by decide)).mpr (.inl hcanonical)⟩

/-- The same key with a second `=`. -/
def twicePadded : PyStr := zeroKeyText ++ [b64Pad, b64Pad]

theorem twicePadded_rotates_and_cannot_be_configured :
    isPlaceholder asciiData twicePadded = false ∧
      decodeKey twicePadded = some (List.replicate 32 0) ∧
      dataKeyMustBeAes256Key asciiData twicePadded =
        .error (PyStr.lit "LC_DATA_KEY must be base64-url encoded") ∧
      ¬ DecodersAgree asciiData twicePadded := by
  have hdecode : decodeKey twicePadded = some (List.replicate 32 0) := by
    decide
  have hrejected : dataKeyMustBeAes256Key asciiData twicePadded =
      .error (PyStr.lit "LC_DATA_KEY must be base64-url encoded") := by
    decide
  refine ⟨by decide, hdecode, hrejected, ?_⟩
  intro hagree
  have haccepted := hagree.accepted.mp ⟨_, hdecode⟩
  rw [hrejected] at haccepted
  cases haccepted

end LeakcheckHub.Crypto
