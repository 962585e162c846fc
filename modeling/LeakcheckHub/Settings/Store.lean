import LeakcheckHub.Outbox.Mail
import LeakcheckHub.Portal.Pages

/-!
# The store of platform settings

`PlatformSettingsStore` of `app/platform_settings.py`: rows encrypted under
the data key and bound to their key.

§1 writing · §2 reading back what was written.
-/

set_option linter.unusedSectionVars false

namespace LeakcheckHub.Settings

open Foundation Crypto
open Findings (Env)
open Outbox (Settings readMany)
open Portal (readSetting)

/-! ## §1  Writing -/

/-- `SECRET_KEYS`. -/
def secretKeys : List SettingKey :=
  [.leakcheckApiKey, .googleClientSecret, .googleWorkspaceServiceAccountJson,
    .wazuhPassword, .dfirIrisApiKey, .smtpPassword]

/-- `_SCHEMA_VERSION`. -/
def schemaVersion : ℕ := 1

/-- The draws of `secrets.token_bytes`, and `func.now()`. -/
structure WriteDraws where
  nonce : SettingKey → Bytes
  now : Timestamp

section Write

variable (env : Env) (draws : WriteDraws) (actorId : Uuid)

/-- The row of an encoded value. -/
def storedRow (key : SettingKey) (plain : Bytes) : PlatformSetting where
  key := PyStr.lit key.value
  ciphertext := env.aead.encrypt env.dataKey (draws.nonce key) plain
    (settingAad key schemaVersion)
  nonce := draws.nonce key
  schemaVersion := schemaVersion
  updatedAt := draws.now
  updatedBy := actorId

/-- Replaces the row of its key, or adds one. -/
def putRow (row : PlatformSetting) (rows : List PlatformSetting) :
    List PlatformSetting :=
  if rows.any fun old => decide (old.key = row.key) then
    rows.map fun old => if old.key = row.key then row else old
  else rows ++ [row]

/-- The iteration of `write_many` for a value; `none` is the
`UnicodeEncodeError`. -/
def writeOne (rows : List PlatformSetting) (key : SettingKey) (value : PyStr) :
    Option (List PlatformSetting) :=
  value.encode.map fun plain =>
    putRow (storedRow env draws actorId key plain) rows

/-- What is left as it is: no value, and a blank secret. -/
def skipped (key : SettingKey) (value : Option PyStr) : Bool :=
  value.all fun text => decide (key ∈ secretKeys) && text.isEmpty

/-- `write_many`. -/
def writeMany (values : List (SettingKey × Option PyStr))
    (rows : List PlatformSetting) : Option (List PlatformSetting) :=
  values.foldlM (fun rows x =>
    if skipped x.1 x.2 then some rows
    else writeOne env draws actorId rows x.1 (x.2.getD [])) rows

end Write

/-! ## §2  Reading back what was written -/

/-- The rows read as these values. -/
def Stores (env : Env) (rows : List PlatformSetting) (values : Settings) :
    Prop :=
  ∀ key, readSetting env rows key = .ok (values key)

/-- What a write leaves of `values`. -/
def overwrite (values : Settings) (written : List (SettingKey × Option PyStr)) :
    Settings :=
  written.foldl (fun values x =>
    if skipped x.1 x.2 then values else Function.update values x.1 x.2) values

variable {env : Env} {draws : WriteDraws} {actorId : Uuid}
  {rows rows' : List PlatformSetting} {key key' : SettingKey} {value : PyStr}
  {values : Settings} {written : List (SettingKey × Option PyStr)}

theorem mem_all (key : SettingKey) : key ∈ SettingKey.all := by
  cases key <;> decide

theorem nodup_values :
    (SettingKey.all.map fun key => PyStr.lit key.value).Nodup := by
  decide +kernel

theorem lit_value_inj (h : PyStr.lit key.value = PyStr.lit key'.value) :
    key = key' :=
  List.inj_on_of_nodup_map nodup_values (mem_all key) (mem_all key') h

theorem stores_empty : Stores env [] fun _ => none := fun _ => rfl

/-- A key that no row has. -/
theorem find_append_of_absent {row : PlatformSetting} {text : PyStr}
    (h : ∀ old ∈ rows, old.key ≠ row.key) :
    (rows ++ [row]).find? (fun old => decide (old.key = text)) =
      if row.key = text then some row
      else rows.find? fun old => decide (old.key = text) := by
  rw [List.find?_append]
  by_cases ht : row.key = text
  · have hnone : rows.find? (fun old => decide (old.key = text)) = none := by
      rw [List.find?_eq_none]
      intro old hold
      rw [decide_eq_true_iff, ← ht]
      exact h old hold
    rw [hnone, if_pos ht]
    simp [ht]
  · rw [if_neg ht]
    simp [ht]

theorem find_map_replace {row : PlatformSetting} {text : PyStr} :
    (rows.map fun old => if old.key = row.key then row else old).find?
        (fun old => decide (old.key = text)) =
      if row.key = text then
        (rows.find? fun old => decide (old.key = text)).map fun _ => row
      else rows.find? fun old => decide (old.key = text) := by
  induction rows with
  | nil => simp
  | cons old rest ih =>
      rw [List.map_cons, List.find?_cons, List.find?_cons, ih]
      by_cases hold : old.key = row.key
      · rw [if_pos hold]
        by_cases ht : row.key = text
        · simp [ht, hold]
        · simp [ht, hold]
      · rw [if_neg hold]
        by_cases ht : row.key = text
        · have hne : old.key ≠ text := fun heq => hold (heq.trans ht.symm)
          simp [ht, hne]
        · simp [ht]

theorem putRow_find {row : PlatformSetting} {text : PyStr} :
    (putRow row rows).find? (fun old => decide (old.key = text)) =
      if row.key = text then some row
      else rows.find? fun old => decide (old.key = text) := by
  unfold putRow
  split
  · rename_i hpresent
    obtain ⟨old, hold, hkey⟩ := List.any_eq_true.mp hpresent
    rw [find_map_replace]
    split
    · rename_i ht
      have hsome : ∃ found, rows.find? (fun old => decide (old.key = text)) =
          some found := by
        apply Option.isSome_iff_exists.mp
        rw [List.find?_isSome]
        exact ⟨old, hold, decide_eq_true ((of_decide_eq_true hkey).trans ht)⟩
      obtain ⟨found, hfound⟩ := hsome
      rw [hfound]
      rfl
    · rfl
  · rename_i habsent
    apply find_append_of_absent
    intro old hold hkey
    exact habsent (List.any_eq_true.mpr ⟨old, hold, decide_eq_true hkey⟩)

/-- Bound to its key and version, a row decrypts to the text it was made of. -/
theorem decrypt_storedRow {plain : Bytes} (hplain : value.encode = some plain) :
    (env.aead.decrypt env.dataKey (storedRow env draws actorId key plain).nonce
      (storedRow env draws actorId key plain).ciphertext (settingAad key
        (storedRow env draws actorId key plain).schemaVersion)).bind
      PyStr.decode = some value := by
  unfold storedRow
  rw [env.aead.decrypt_encrypt]
  exact PyStr.decode_encode hplain

/-- **A written value is read back**, and nothing else changes. -/
theorem Stores.writeOne (hs : Stores env rows values)
    (h : writeOne env draws actorId rows key value = some rows') :
    Stores env rows' (Function.update values key (some value)) := by
  obtain ⟨plain, hplain, rfl⟩ := Option.map_eq_some_iff.mp h
  intro key'
  have hkey : (storedRow env draws actorId key plain).key =
    PyStr.lit key.value := rfl
  unfold readSetting
  rw [putRow_find, hkey]
  by_cases heq : key' = key
  · subst heq
    rw [if_pos rfl, Function.update_self]
    dsimp only
    rw [decrypt_storedRow hplain]
  · rw [if_neg, Function.update_of_ne heq]
    · exact hs key'
    · intro htext
      exact heq (lit_value_inj htext).symm

/-- By induction on the values. -/
theorem Stores.writeMany (hs : Stores env rows values)
    (h : writeMany env draws actorId written rows = some rows') :
    Stores env rows' (overwrite values written) := by
  induction written generalizing rows values with
  | nil =>
      cases h
      exact hs
  | cons x rest ih =>
      obtain ⟨rows₁, hone, hrest⟩ := Option.bind_eq_some_iff.mp h
      refine ih ?_ hrest
      dsimp only at hone ⊢
      split at hone
      · rename_i hskip
        cases hone
        rw [if_pos hskip]
        exact hs
      · rename_i hskip
        rw [if_neg hskip]
        have hsome : x.2 = some (x.2.getD []) := by
          cases hx : x.2 with
          | none =>
              rw [hx] at hskip
              exact absurd rfl hskip
          | some text => rfl
        have hstored := hs.writeOne hone
        rw [← hsome] at hstored
        exact hstored

/-- `read_many` of rows that can all be read. -/
theorem Stores.readMany (hs : Stores env rows values) :
    readMany (readSetting env rows) = .ok values := by
  -- after some keys the dictionary has their values, and no others
  have hloop : ∀ (keys : List SettingKey) (got : Settings),
      keys.foldlM (fun values key => do
        let value ← readSetting env rows key
        Except.ok (Function.update values key value)) got =
        (.ok fun key => if key ∈ keys then values key else got key :
          Except Portal.PortalError Settings) := by
    intro keys
    induction keys with
    | nil =>
        intro got
        simp
        rfl
    | cons key keys ih =>
        intro got
        rw [List.foldlM_cons, hs key]
        show keys.foldlM _ (Function.update got key (values key)) = _
        rw [ih]
        congr 1
        funext key'
        by_cases hmem : key' ∈ keys
        · simp [hmem]
        · by_cases heq : key' = key
          · subst heq
            simp [hmem]
          · simp [hmem, heq]
  unfold Outbox.readMany
  rw [hloop]
  congr 1
  funext key
  exact if_pos (mem_all key)

end LeakcheckHub.Settings
