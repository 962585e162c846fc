import LeakcheckHub.Auth.Local
import LeakcheckHub.Crypto.DataKeys
import LeakcheckHub.Outbox.DedupeKeys
import LeakcheckHub.Settings.History

/-!
# One key, three stores

A finding's password, an account's TOTP seed and a platform setting are
encrypted under the same key. What keeps a ciphertext where it was written is
the associated data alone, and each store has its own encoder.

§1 the slots · §2 the encoders are jointly injective · §3 writers and readers.
-/

namespace LeakcheckHub.Crypto

open Foundation
open Accounts (TextOps)
open Findings (Env protectPassword revealPassword protectPassword_eq_ok)
open Auth (Authenticator totpKey encryptTotpSecret decryptTotpSecret
  asciiEncode asciiDecode)
open Settings (WriteDraws storedRow writeOne rowOf)
open Portal (readSetting)

/-! ## §1  The slots -/

/-- Where a ciphertext is kept. -/
inductive Slot where
  | password (findingId : Uuid)
  | totpSeed (userId : Uuid)
  | setting (key : SettingKey) (schemaVersion : ℕ)
deriving DecidableEq

def Slot.aad : Slot → Bytes
  | .password findingId => findingAad findingId
  | .totpSeed userId => totpAad userId
  | .setting key schemaVersion => settingAad key schemaVersion

/-! ## §2  The encoders are jointly injective -/

/-- A delimiter that neither head contains. -/
theorem append_delimiter_inj {α : Type} {d : α} {xs ys u v : List α}
    (hx : d ∉ xs) (hy : d ∉ ys) (h : xs ++ d :: u = ys ++ d :: v) :
    xs = ys ∧ u = v := by
  induction xs generalizing ys with
  | nil =>
      cases ys with
      | nil => exact ⟨rfl, (List.cons.inj h).2⟩
      | cons y ys =>
          have hd : d = y := (List.cons.inj h).1
          exact absurd (hd ▸ List.mem_cons_self) hy
  | cons x xs ih =>
      cases ys with
      | nil =>
          have hd : x = d := (List.cons.inj h).1
          exact absurd (hd ▸ List.mem_cons_self) hx
      | cons y ys =>
          obtain ⟨hxy, hrest⟩ := List.cons.inj h
          obtain ⟨hxs, huv⟩ := ih (fun hmem => hx (List.mem_cons_of_mem x hmem))
            (fun hmem => hy (List.mem_cons_of_mem y hmem)) hrest
          exact ⟨by rw [hxy, hxs], huv⟩

theorem asciiLit_append (s t : String) :
    PyStr.asciiLit (s ++ t) = PyStr.asciiLit s ++ PyStr.asciiLit t := by
  unfold PyStr.asciiLit
  rw [String.toList_append, List.map_append]

theorem digit_toNat {n : ℕ} {c : Char} (hc : c ∈ (toString n).toList) :
    48 ≤ c.toNat ∧ c.toNat ≤ 57 := by
  rw [Nat.toString_eq_repr, Nat.toList_repr] at hc
  have hdigit := Nat.isDigit_of_mem_toDigits (by decide) (le_refl 10) hc
  simp only [Char.isDigit, Bool.and_eq_true, decide_eq_true_eq] at hdigit
  exact ⟨hdigit.1, hdigit.2⟩

theorem slash_not_mem_version (n : ℕ) : (47 : UInt8) ∉ PyStr.asciiLit (toString n) := by
  intro hmem
  obtain ⟨c, hc, heq⟩ := List.mem_map.mp hmem
  obtain ⟨hlow, hhigh⟩ := digit_toNat hc
  have hval := congrArg UInt8.toNat heq
  rw [PyStr.toNat_ofNat (by omega)] at hval
  change c.toNat = 47 at hval
  omega

theorem version_inj {m n : ℕ}
    (h : PyStr.asciiLit (toString m) = PyStr.asciiLit (toString n)) : m = n := by
  have hlist : (toString m).toList = (toString n).toList := by
    refine map_inj_on (P := fun c => 48 ≤ c.toNat ∧ c.toNat ≤ 57) ?_
      (fun c hc => digit_toNat hc) (fun c hc => digit_toNat hc) h
    intro c d hc hd hcd
    have hval := congrArg UInt8.toNat hcd
    rw [PyStr.toNat_ofNat (by omega), PyStr.toNat_ofNat (by omega)] at hval
    exact Char.toNat_inj.mp hval
  rw [Nat.toString_eq_repr, Nat.toString_eq_repr, Nat.toList_repr,
    Nat.toList_repr] at hlist
  have hvalue := congrArg (fun ds => Nat.ofDigitChars 10 ds 0) hlist
  simpa only [Nat.ofDigitChars_ten_toDigits] using hvalue

theorem nodup_asciiValues :
    (SettingKey.all.map fun key => PyStr.asciiLit key.value).Nodup := by
  decide +kernel

theorem settingAad_eq (key : SettingKey) (schemaVersion : ℕ) :
    settingAad key schemaVersion =
      PyStr.asciiLit "leakcheck/platform-setting/" ++
        (PyStr.asciiLit (toString schemaVersion) ++
          47 :: PyStr.asciiLit key.value) := by
  have hslash : PyStr.asciiLit "/" = [47] := rfl
  unfold settingAad
  rw [asciiLit_append, asciiLit_append, asciiLit_append, hslash,
    List.append_assoc, List.append_assoc]
  rfl

theorem settingAad_inj {key key' : SettingKey} {v v' : ℕ}
    (h : settingAad key v = settingAad key' v') : key = key' ∧ v = v' := by
  rw [settingAad_eq, settingAad_eq] at h
  obtain ⟨hversion, hvalue⟩ := append_delimiter_inj (slash_not_mem_version v)
    (slash_not_mem_version v') (List.append_cancel_left h)
  exact ⟨List.inj_on_of_nodup_map nodup_asciiValues (Settings.mem_all key)
    (Settings.mem_all key') hvalue, version_inj hversion⟩

theorem findingAad_inj {i j : Uuid} (h : findingAad i = findingAad j) : i = j :=
  Uuid.bytes_injective (List.append_cancel_left h)

theorem totpAad_inj {i j : Uuid} (h : totpAad i = totpAad j) : i = j :=
  Uuid.bytes_injective (List.append_cancel_left h)

/-- The letter behind `leakcheck/` tells the stores apart. -/
def Slot.letter : Slot → UInt8
  | .password _ => 102
  | .totpSeed _ => 97
  | .setting _ _ => 112

theorem head_aad (s : Slot) : (s.aad.drop 10).head? = some s.letter := by
  cases s with
  | password findingId => rfl
  | totpSeed userId => rfl
  | setting key schemaVersion =>
      show ((settingAad key schemaVersion).drop 10).head? = some 112
      rw [settingAad_eq]
      rfl

theorem aad_injective : Function.Injective Slot.aad := by
  intro s t h
  have hletter : s.letter = t.letter := by
    have hs := head_aad s
    rw [h, head_aad t] at hs
    exact (Option.some.inj hs).symm
  cases s with
  | password findingId =>
      cases t with
      | password findingId' => rw [findingAad_inj h]
      | totpSeed userId => simp [Slot.letter] at hletter
      | setting key v => simp [Slot.letter] at hletter
  | totpSeed userId =>
      cases t with
      | password findingId => simp [Slot.letter] at hletter
      | totpSeed userId' => rw [totpAad_inj h]
      | setting key v => simp [Slot.letter] at hletter
  | setting key v =>
      cases t with
      | password findingId => simp [Slot.letter] at hletter
      | totpSeed userId => simp [Slot.letter] at hletter
      | setting key' v' =>
          obtain ⟨rfl, rfl⟩ := settingAad_inj h
          rfl

/-! ## §3  Writers and readers -/

/-- The stores of one process: `LC_DATA_KEY`, and what each decoder makes of
it. -/
structure KeyedStores (ops : TextOps) where
  encodedKey : PyStr
  env : Env
  auth : Authenticator ops
  finding_key : findingKey encodedKey = some env.dataKey
  setting_key : platformSettingsKey encodedKey = some env.dataKey
  auth_key : localDataKey encodedKey = some auth.dataKey
  same_aead : auth.aesgcm = env.aead

section

variable {ops : TextOps} (S : KeyedStores ops) (text : PyStr)
  (nonce ciphertext : Bytes)

/-- The writer of the slot makes this nonce and ciphertext of a text. A row of
the settings has the schema version of the slot in place of
`_SCHEMA_VERSION`. -/
def Written : Slot → Prop
  | .password findingId => ∃ (draw : Findings.PasswordNonce)
      (p : Findings.ProtectedPassword),
        protectPassword S.env findingId draw text = .ok p ∧
          p.nonce = nonce ∧ p.ciphertext = ciphertext
  | .totpSeed userId => nonce.length = totpNonceBytes ∧
      encryptTotpSecret S.auth nonce userId text = .ok (nonce ++ ciphertext)
  | .setting key schemaVersion => nonce.length = 12 ∧ ∃ plain,
      text.encode = some plain ∧ ciphertext =
        S.env.aead.encrypt S.env.dataKey nonce plain
          (settingAad key schemaVersion)

/-- The row of the slot's key, in any table. -/
def HoldsRow (rows : List PlatformSetting) (key : SettingKey)
    (schemaVersion : ℕ) : Prop :=
  ∃ old, rowOf rows key = some old ∧ old.nonce = nonce ∧
    old.ciphertext = ciphertext ∧ old.schemaVersion = schemaVersion

/-- With this nonce and ciphertext in the slot, its reader returns the text. -/
def Accepts : Slot → Prop
  | .password findingId =>
      revealPassword S.env findingId ciphertext nonce = .ok text
  | .totpSeed userId =>
      decryptTotpSecret S.auth userId (nonce ++ ciphertext) = .ok text
  | .setting key schemaVersion => ∀ rows,
      HoldsRow nonce ciphertext rows key schemaVersion →
        readSetting S.env rows key = .ok (some text)

/-- With this nonce and ciphertext in the slot, its reader raises its own
error. -/
def Rejects : Slot → Prop
  | .password findingId => revealPassword S.env findingId ciphertext nonce =
      .error "password ciphertext authentication failed"
  | .totpSeed userId =>
      decryptTotpSecret S.auth userId (nonce ++ ciphertext) =
        .error .localAuthentication
  | .setting key schemaVersion => ∀ rows,
      HoldsRow nonce ciphertext rows key schemaVersion →
        readSetting S.env rows key = .error .platformSetting

end

variable {ops : TextOps} {S : KeyedStores ops} {text : PyStr}
  {nonce ciphertext : Bytes} {s t : Slot}

theorem KeyedStores.dataKey_eq (S : KeyedStores ops) :
    S.auth.dataKey = S.env.dataKey := by
  have hlocal := findingKey_of_localDataKey S.auth_key
  rw [S.finding_key] at hlocal
  exact (Option.some.inj hlocal).symm

theorem encryptTotpSecret_eq_ok {userId : Uuid} {encrypted : Bytes}
    (h : encryptTotpSecret S.auth nonce userId text = .ok encrypted) :
    (∃ key, totpKey text = .ok key) ∧
      encrypted = nonce ++ S.env.aead.encrypt S.env.dataKey nonce
        (asciiEncode text) (totpAad userId) := by
  unfold encryptTotpSecret at h
  obtain ⟨key, hkey, h⟩ := bind_eq_ok.mp h
  rw [S.same_aead, S.dataKey_eq] at h
  exact ⟨⟨key, hkey⟩, (Except.ok.inj h).symm⟩

/-- Whatever the slot, its ciphertext is bound to it, and so is the nonce to a
length. -/
theorem Written.encrypts (h : Written S text nonce ciphertext s) :
    nonce.length = 12 ∧ ∃ plain, ciphertext =
      S.env.aead.encrypt S.env.dataKey nonce plain s.aad := by
  cases s with
  | password findingId =>
      obtain ⟨draw, p, hp, rfl, rfl⟩ := h
      obtain ⟨plain, -, rfl⟩ := protectPassword_eq_ok.mp hp
      exact ⟨draw.length_eq, plain, rfl⟩
  | totpSeed userId =>
      obtain ⟨hlen, henc⟩ := h
      obtain ⟨-, heq⟩ := encryptTotpSecret_eq_ok henc
      exact ⟨hlen, asciiEncode text, List.append_cancel_left heq⟩
  | setting key schemaVersion =>
      obtain ⟨hlen, plain, -, heq⟩ := h
      exact ⟨hlen, plain, heq⟩

/-! ### What a reader makes of a slot's content -/

theorem decryptTotpSecret_append {userId : Uuid}
    (hlen : nonce.length = totpNonceBytes) (hne : ciphertext ≠ []) :
    decryptTotpSecret S.auth userId (nonce ++ ciphertext) =
      match S.env.aead.decrypt S.env.dataKey nonce ciphertext
          (totpAad userId) with
      | none => .error .localAuthentication
      | some plaintext =>
          match asciiDecode plaintext with
          | none => .error .localAuthentication
          | some secret => (totpKey secret).bind fun _ => .ok secret := by
  have hpos := List.length_pos_of_ne_nil hne
  unfold decryptTotpSecret
  rw [if_neg (by rw [List.length_append, hlen]; omega), ← hlen,
    List.take_left, List.drop_left, S.same_aead, S.dataKey_eq]
  rfl

theorem rejects_of_decrypt (hlen : nonce.length = 12) (t : Slot)
    (h : S.env.aead.decrypt S.env.dataKey nonce ciphertext t.aad = none) :
    Rejects S nonce ciphertext t := by
  cases t with
  | password findingId =>
      change S.env.aead.decrypt _ _ _ (findingAad findingId) = none at h
      show revealPassword S.env findingId ciphertext nonce = _
      unfold revealPassword
      rw [if_neg (not_not.mpr hlen), h, Option.bind_none]
  | totpSeed userId =>
      change S.env.aead.decrypt _ _ _ (totpAad userId) = none at h
      show decryptTotpSecret S.auth userId (nonce ++ ciphertext) = _
      by_cases hne : ciphertext = []
      · unfold decryptTotpSecret
        rw [hne, List.append_nil]
        exact if_pos (le_of_eq hlen)
      · rw [decryptTotpSecret_append hlen hne, h]
  | setting key schemaVersion =>
      change S.env.aead.decrypt _ _ _ (settingAad key schemaVersion) = none at h
      rintro rows ⟨old, hold, rfl, rfl, rfl⟩
      exact Settings.readSetting_of_some hold (by rw [h, Option.bind_none])

theorem asciiDecode_asciiEncode (h : text.isAscii = true) :
    asciiDecode (asciiEncode text) = some text := by
  have hall : ∀ c ∈ text, c.val < 128 := fun c hc =>
    of_decide_eq_true (List.all_eq_true.mp h c hc)
  unfold asciiDecode asciiEncode
  rw [if_pos, List.map_map]
  · have hid : text.map (fun c : CodePoint =>
        (Fin.ofNat _ (UInt8.ofNat c.val).toNat : CodePoint)) = text := by
      conv_rhs => rw [← List.map_id text]
      refine List.map_congr_left fun c hc => ?_
      apply Fin.ext
      have hc := hall c hc
      rw [PyStr.toNat_ofNat (by omega), Fin.val_ofNat, Nat.mod_eq_of_lt c.isLt]
      rfl
    exact congrArg some hid
  · rw [List.all_eq_true]
    intro b hb
    obtain ⟨c, hc, rfl⟩ := List.mem_map.mp hb
    have hc := hall c hc
    apply decide_eq_true
    rw [UInt8.lt_iff_toNat_lt, PyStr.toNat_ofNat (by omega)]
    exact hc

theorem isAscii_of_totpKey {key : Bytes} (h : totpKey text = .ok key) :
    text.isAscii = true := by
  unfold totpKey at h
  by_contra hne
  rw [if_pos (by simp [hne])] at h
  cases h

theorem Written.accepts (htagged : S.env.aead.Tagged)
    (h : Written S text nonce ciphertext s) :
    Accepts S text nonce ciphertext s := by
  cases s with
  | password findingId =>
      obtain ⟨draw, p, hp, rfl, rfl⟩ := h
      exact Findings.reveal_protected hp
  | totpSeed userId =>
      obtain ⟨hlen, henc⟩ := h
      obtain ⟨⟨key, hkey⟩, heq⟩ := encryptTotpSecret_eq_ok henc
      have hcipher := List.append_cancel_left heq
      have hdecrypt : S.env.aead.decrypt S.env.dataKey nonce ciphertext
          (totpAad userId) = some (asciiEncode text) := by
        rw [hcipher]
        exact S.env.aead.decrypt_encrypt _ _ _ _
      have hne : ciphertext ≠ [] := by
        rintro rfl
        rw [htagged] at hdecrypt
        cases hdecrypt
      show decryptTotpSecret S.auth userId (nonce ++ ciphertext) = _
      rw [decryptTotpSecret_append hlen hne, hdecrypt]
      dsimp only
      rw [asciiDecode_asciiEncode (isAscii_of_totpKey hkey)]
      dsimp only
      rw [hkey]
      rfl
  | setting key schemaVersion =>
      obtain ⟨-, plain, hplain, hcipher⟩ := h
      rintro rows ⟨old, hold, rfl, rfl, rfl⟩
      have hread : (S.env.aead.decrypt S.env.dataKey old.nonce old.ciphertext
          (settingAad key old.schemaVersion)).bind PyStr.decode =
            some text := by
        rw [hcipher, S.env.aead.decrypt_encrypt, Option.bind_some,
          PyStr.decode_encode hplain]
      exact Settings.readSetting_of_some hold hread

/-- What `write_many` stores is written in this sense. -/
theorem written_of_writeOne {draws : WriteDraws} {actorId : Uuid}
    {rows rows' : List PlatformSetting} {key : SettingKey}
    (hnonce : (draws.nonce key).length = 12)
    (h : writeOne S.env draws actorId rows key text = some rows') :
    ∃ new, rowOf rows' key = some new ∧
      Written S text new.nonce new.ciphertext
        (.setting key new.schemaVersion) := by
  obtain ⟨plain, hplain, rfl⟩ := Option.map_eq_some_iff.mp h
  refine ⟨storedRow S.env draws actorId key plain, ?_, hnonce, plain, hplain,
    rfl⟩
  unfold rowOf
  rw [Settings.putRow_find]
  exact if_pos rfl

/-- **No ciphertext can be moved**: with an AEAD that binds its associated
data, what was written for one slot opens there and in no other slot of the
three stores. -/
theorem slots_separated (S : KeyedStores ops) (hbinds : S.env.aead.Binds)
    (htagged : S.env.aead.Tagged) :
    Function.Injective Slot.aad ∧
    (∀ s t text nonce ciphertext, s ≠ t →
      Written S text nonce ciphertext s → Rejects S nonce ciphertext t) ∧
    (∀ s text nonce ciphertext, Written S text nonce ciphertext s →
      Accepts S text nonce ciphertext s) ∧
    (∀ draws actorId rows rows' key text,
      (draws.nonce key).length = 12 →
      writeOne S.env draws actorId rows key text = some rows' →
      ∃ new, rowOf rows' key = some new ∧
        Written S text new.nonce new.ciphertext
          (.setting key new.schemaVersion)) := by
  refine ⟨aad_injective, ?_, ?_, ?_⟩
  · intro s t text nonce ciphertext hne h
    obtain ⟨hlen, plain, rfl⟩ := h.encrypts
    apply rejects_of_decrypt hlen t
    apply hbinds
    exact fun haad => hne (aad_injective haad)
  · intro s text nonce ciphertext h
    exact h.accepts htagged
  · intro draws actorId rows rows' key text hnonce h
    exact written_of_writeOne hnonce h

/-! ### A deployment -/

/-- AES-256-GCM of a setting, next to a password and a seed. -/
def slotVectors : List Aead.TestVector :=
  [Findings.sampleVector, Auth.sampleSeed,
    ⟨Findings.sampleKey, (List.range' 2 12).map UInt8.ofNat,
      PyStr.asciiLit "90", settingAad .retentionDays 1,
      [80, 246, 189, 22, 177, 58, 10, 165, 118, 180, 7, 111, 68, 1, 4, 189,
        247, 36]⟩]

theorem slotVectors_head : ∀ v ∈ slotVectors, v.cipher.head? ≠ some 0 := by
  decide

theorem slotVectors_same : ∀ v ∈ slotVectors, ∀ w ∈ slotVectors,
    v.key = w.key → v.nonce = w.nonce → v.cipher = w.cipher → v = w := by
  decide +kernel

def slotAead : Aead.OverBytes :=
  Aead.ofBoundVectors slotVectors slotVectors_head slotVectors_same

def sampleKeyedStores : KeyedStores Accounts.asciiOps where
  encodedKey := PyStr.lit "AAECAwQFBgcICQoLDA0ODxAREhMUFRYXGBkaGxwdHh8"
  env := { Findings.sampleEnv with aead := slotAead }
  auth := { Auth.strict with aesgcm := slotAead }
  finding_key := by decide +kernel
  setting_key := by decide +kernel
  auth_key := by decide +kernel
  same_aead := rfl

/-- The password of finding 7 and the seed of account 1 in foreign slots, of
the same id as well. -/
theorem sampleKeyedStores_separated :
    Accepts sampleKeyedStores (PyStr.lit "hunter2") Findings.sampleVector.nonce
      Findings.sampleVector.cipher (.password 7) ∧
    Rejects sampleKeyedStores Findings.sampleVector.nonce
      Findings.sampleVector.cipher (.totpSeed 7) ∧
    Rejects sampleKeyedStores Findings.sampleVector.nonce
      Findings.sampleVector.cipher (.password 8) ∧
    Rejects sampleKeyedStores Auth.sampleSeed.nonce Auth.sampleSeed.cipher
      (.setting .retentionDays 1) := by
  obtain ⟨-, hrejects, haccepts, -⟩ := slots_separated sampleKeyedStores
    (Aead.ofBoundVectors_binds slotVectors_head slotVectors_same)
    (Aead.ofBoundVectors_tagged slotVectors_head slotVectors_same (by decide))
  have hpassword : Written sampleKeyedStores (PyStr.lit "hunter2")
      Findings.sampleVector.nonce Findings.sampleVector.cipher
      (.password 7) :=
    ⟨Findings.sampleNonce, _, rfl, rfl, by decide +kernel⟩
  have hseed : Written sampleKeyedStores
      (PyStr.lit "GEZDGNBVGY3TQOJQGEZDGNBVGY3TQOJQ") Auth.sampleSeed.nonce
      Auth.sampleSeed.cipher (.totpSeed 1) :=
    ⟨by decide, by decide +kernel⟩
  exact ⟨haccepts _ _ _ _ hpassword,
    hrejects _ _ _ _ _ (by decide) hpassword,
    hrejects _ _ _ _ _ (by decide) hpassword,
    hrejects _ _ _ _ _ (by decide) hseed⟩

end LeakcheckHub.Crypto
