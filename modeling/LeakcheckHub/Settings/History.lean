import LeakcheckHub.Findings.Ingest
import LeakcheckHub.Foundation.LastWrites
import LeakcheckHub.Settings.Store

/-!
# Settings as a map

`PlatformSettingsStore` of `app/platform_settings.py` over any sequence of
writes: what is read of a key is its last effective write, whoever made it.

§1 the writes · §2 one row · §3 one call · §4 runs · §5 the law.
-/

namespace LeakcheckHub.Settings

open Foundation Crypto
open Findings (Env)
open Portal (readSetting)

/-! ## §1  The writes -/

/-- A call of `write_many` with a dictionary. -/
structure WriteCall where
  actorId : Uuid
  draws : WriteDraws
  values : List (SettingKey × Option PyStr)
  keys : (values.map Prod.fst).Nodup

def writeCalls (env : Env) (calls : List WriteCall)
    (rows : List PlatformSetting) : Option (List PlatformSetting) :=
  calls.foldlM (fun rows call =>
    writeMany env call.draws call.actorId call.values rows) rows

/-- `configured_state`. -/
def configuredState (rows : List PlatformSetting) : List (PyStr × Bool) :=
  SettingKey.all.map fun key =>
    (PyStr.lit key.value,
      decide (PyStr.lit key.value ∈ rows.map PlatformSetting.key))

/-- The row of a key. -/
def rowOf (rows : List PlatformSetting) (key : SettingKey) :
    Option PlatformSetting :=
  rows.find? fun row => decide (row.key = PyStr.lit key.value)

structure Write where
  text : PyStr
  actorId : Uuid
  draws : WriteDraws

/-- The row that a write leaves. -/
def Write.row (env : Env) (key : SettingKey) (w : Write) : PlatformSetting :=
  storedRow env w.draws w.actorId key (w.text.flatMap PyStr.utf8Char)

/-- Nothing is written for no value and for a blank secret. -/
def effectiveText (key : SettingKey) (value : Option PyStr) : Option PyStr :=
  value.filter fun text => !(decide (key ∈ secretKeys) && text.isEmpty)

def effectiveWrites (draws : WriteDraws) (actorId : Uuid)
    (values : List (SettingKey × Option PyStr)) : List (SettingKey × Write) :=
  values.filterMap fun x =>
    (effectiveText x.1 x.2).map fun text => (x.1, ⟨text, actorId, draws⟩)

namespace WriteCall

def effective (call : WriteCall) : List (SettingKey × Write) :=
  effectiveWrites call.draws call.actorId call.values

/-- Every text has an encoding. -/
def Encodable (call : WriteCall) : Prop :=
  ∀ x ∈ call.values, ∀ text, x.2 = some text → PyStr.Scalar text

end WriteCall

/-- All effective writes, in order. -/
def history (calls : List WriteCall) : List (SettingKey × Write) :=
  calls.flatMap WriteCall.effective

/-! ## §2  One row -/

variable {env : Env} {draws : WriteDraws} {actorId : Uuid}
  {rows rows' : List PlatformSetting} {row : PlatformSetting}
  {key key' : SettingKey} {values : List (SettingKey × Option PyStr)}
  {log : List (SettingKey × Write)} {calls : List WriteCall} {w : Write}

theorem rowOf_putRow (h : row.key = PyStr.lit key.value) :
    rowOf (putRow row rows) key' =
      if key = key' then some row else rowOf rows key' := by
  unfold rowOf
  rw [putRow_find, h]
  by_cases hkey : key = key'
  · rw [if_pos hkey, if_pos (congrArg (fun key => PyStr.lit key.value) hkey)]
  · rw [if_neg hkey, if_neg fun heq => hkey (lit_value_inj heq)]

theorem nodup_putRow (h : (rows.map PlatformSetting.key).Nodup) :
    ((putRow row rows).map PlatformSetting.key).Nodup := by
  unfold putRow
  split
  · have hkeys : (rows.map fun old => if old.key = row.key then row else old).map
        PlatformSetting.key = rows.map PlatformSetting.key := by
      rw [List.map_map]
      refine List.map_congr_left fun old _ => ?_
      show (if old.key = row.key then row else old).key = old.key
      split
      · rename_i heq
        exact heq.symm
      · rfl
    rw [hkeys]
    exact h
  · rename_i habsent
    rw [List.map_append, List.map_singleton, List.nodup_append]
    refine ⟨h, List.nodup_singleton _, ?_⟩
    rintro text htext _ hrow rfl
    obtain ⟨old, hold, hkey⟩ := List.mem_map.mp htext
    rw [List.mem_singleton] at hrow
    exact habsent (List.any_eq_true.mpr
      ⟨old, hold, decide_eq_true (hkey.trans hrow)⟩)

/-- What is read depends on the row alone. -/
theorem readSetting_congr (h : rowOf rows' key = rowOf rows key) :
    readSetting env rows' key = readSetting env rows key := by
  unfold rowOf at h
  unfold readSetting
  rw [h]

theorem readSetting_of_none (h : rowOf rows key = none) :
    readSetting env rows key = .ok none := by
  unfold rowOf at h
  unfold readSetting
  rw [h]

theorem readSetting_of_some {old : PlatformSetting}
    {read : Option PyStr} (h : rowOf rows key = some old)
    (hread : (env.aead.decrypt env.dataKey old.nonce old.ciphertext
      (settingAad key old.schemaVersion)).bind PyStr.decode = read) :
    readSetting env rows key =
      read.elim (.error .platformSetting) fun text => .ok (some text) := by
  unfold rowOf at h
  unfold readSetting
  rw [h]
  dsimp only
  rw [hread]
  cases read <;> rfl

theorem readSetting_of_row (hscalar : PyStr.Scalar w.text)
    (h : rowOf rows key = some (w.row env key)) :
    readSetting env rows key = .ok (some w.text) :=
  readSetting_of_some h
    (decrypt_storedRow (PyStr.encode_eq_some.mpr ⟨hscalar, rfl⟩))

theorem mem_configuredState :
    (PyStr.lit key.value, true) ∈ configuredState rows ↔
      rowOf rows key ≠ none := by
  have hrow : PyStr.lit key.value ∈ rows.map PlatformSetting.key ↔
      rowOf rows key ≠ none := by
    unfold rowOf
    rw [List.mem_map, ← Option.isSome_iff_ne_none, List.find?_isSome]
    simp only [decide_eq_true_eq]
  rw [← hrow]
  unfold configuredState
  rw [List.mem_map]
  constructor
  · rintro ⟨found, -, heq⟩
    rw [Prod.mk.injEq, decide_eq_true_eq] at heq
    obtain ⟨hvalue, hmem⟩ := heq
    rw [← hvalue]
    exact hmem
  · intro hmem
    exact ⟨key, mem_all key, by rw [decide_eq_true hmem]⟩

/-! ## §3  One call -/

/-- Every key has the row of its last write, and no other. -/
structure Keeps (env : Env) (rows : List PlatformSetting)
    (log : List (SettingKey × Write)) : Prop where
  nodup : (rows.map PlatformSetting.key).Nodup
  row : ∀ key, rowOf rows key = (lastWrite log key).map (Write.row env key)

theorem keeps_empty : Keeps env [] [] := ⟨List.nodup_nil, fun _ => rfl⟩

theorem effectiveText_eq_none {value : Option PyStr} :
    effectiveText key value = none ↔ skipped key value = true := by
  cases value with
  | none => simp [effectiveText, skipped]
  | some text => simp [effectiveText, skipped, Option.filter]

theorem effectiveText_eq_some {value : Option PyStr} {text : PyStr}
    (h : effectiveText key value = some text) : value = some text :=
  (Option.filter_eq_some_iff.mp h).1

theorem effectiveWrites_cons {x : SettingKey × Option PyStr} :
    effectiveWrites draws actorId (x :: values) =
      ((effectiveText x.1 x.2).map fun text =>
        (x.1, (⟨text, actorId, draws⟩ : Write))).toList ++
        effectiveWrites draws actorId values := by
  unfold effectiveWrites
  rw [List.filterMap_cons]
  cases effectiveText x.1 x.2 with
  | none => rfl
  | some text => rfl

/-- **Step lemma.** A written value gives its key a new row, and no other key. -/
theorem Keeps.writeOne (draws : WriteDraws) (actorId : Uuid)
    (key : SettingKey) {text : PyStr} (h : Keeps env rows log)
    (hscalar : PyStr.Scalar text) :
    ∃ rows', writeOne env draws actorId rows key text = some rows' ∧
      Keeps env rows' (log ++ [(key, ⟨text, actorId, draws⟩)]) := by
  have hencode := PyStr.encode_eq_some.mpr ⟨hscalar, rfl⟩
  refine ⟨_, Option.map_eq_some_iff.mpr ⟨_, hencode, rfl⟩,
    nodup_putRow h.nodup, fun key' => ?_⟩
  rw [rowOf_putRow rfl, lastWrite_concat]
  by_cases hkey : key = key'
  · subst hkey
    rw [if_pos rfl, if_pos rfl]
    rfl
  · rw [if_neg hkey, if_neg hkey]
    exact h.row key'

/-- By induction on the values. -/
theorem Keeps.writeMany (h : Keeps env rows log)
    (hscalar : ∀ x ∈ values, ∀ text, x.2 = some text → PyStr.Scalar text) :
    ∃ rows', writeMany env draws actorId values rows = some rows' ∧
      Keeps env rows' (log ++ effectiveWrites draws actorId values) := by
  induction values generalizing rows log with
  | nil => exact ⟨rows, rfl, by rwa [effectiveWrites, List.filterMap_nil,
      List.append_nil]⟩
  | cons x values ih =>
      have hrest := fun y hy => hscalar y (List.mem_cons_of_mem x hy)
      rw [effectiveWrites_cons, ← List.append_assoc]
      cases htext : effectiveText x.1 x.2 with
      | none =>
          obtain ⟨rows', hrows', hkeeps⟩ := ih h hrest
          refine ⟨rows', Option.bind_eq_some_iff.mpr ⟨rows, ?_, hrows'⟩, ?_⟩
          · exact if_pos (effectiveText_eq_none.mp htext)
          · rw [Option.map_none, Option.toList_none, List.append_nil]
            exact hkeeps
      | some text =>
          have hvalue := effectiveText_eq_some htext
          have hnot : ¬ skipped x.1 x.2 = true := by
            rw [← effectiveText_eq_none, htext]
            exact Option.some_ne_none text
          obtain ⟨rows₁, hone, hkeeps₁⟩ := h.writeOne draws actorId x.1
            (hscalar x List.mem_cons_self text hvalue)
          obtain ⟨rows', hrows', hkeeps⟩ := ih hkeeps₁ hrest
          refine ⟨rows', Option.bind_eq_some_iff.mpr ⟨rows₁, ?_, hrows'⟩,
            hkeeps⟩
          show (if skipped x.1 x.2 = true then _ else _) = _
          rw [if_neg hnot, hvalue]
          exact hone

/-! ## §4  Runs -/

/-- **Run lemma.** By induction on the calls. -/
theorem Keeps.writeCalls (h : Keeps env rows log)
    (hscalar : ∀ call ∈ calls, call.Encodable) :
    ∃ rows', writeCalls env calls rows = some rows' ∧
      Keeps env rows' (log ++ history calls) := by
  induction calls generalizing rows log with
  | nil => exact ⟨rows, rfl, by rwa [history, List.flatMap_nil,
      List.append_nil]⟩
  | cons call calls ih =>
      obtain ⟨rows₁, hone, hkeeps₁⟩ :=
        h.writeMany (hscalar call List.mem_cons_self)
      obtain ⟨rows', hrows', hkeeps⟩ :=
        ih hkeeps₁ fun c hc => hscalar c (List.mem_cons_of_mem call hc)
      refine ⟨rows', Option.bind_eq_some_iff.mpr ⟨rows₁, hone, hrows'⟩, ?_⟩
      unfold history at hkeeps ⊢
      rw [List.flatMap_cons, ← List.append_assoc]
      exact hkeeps

/-- What was written has an encoding. -/
theorem scalar_of_lastWrite (hscalar : ∀ call ∈ calls, call.Encodable)
    (h : lastWrite (history calls) key = some w) : PyStr.Scalar w.text := by
  obtain ⟨x, hx, rfl⟩ := Option.map_eq_some_iff.mp h
  have hmem := List.mem_reverse.mp (List.mem_of_find?_eq_some hx)
  obtain ⟨call, hcall, hmem⟩ := List.mem_flatMap.mp hmem
  obtain ⟨y, hy, hwrite⟩ := List.mem_filterMap.mp hmem
  obtain ⟨text, htext, rfl⟩ := Option.map_eq_some_iff.mp hwrite
  exact hscalar call hcall y hy text (effectiveText_eq_some htext)

theorem Keeps.read (h : Keeps env rows (history calls))
    (hscalar : ∀ call ∈ calls, call.Encodable) (key : SettingKey) :
    readSetting env rows key =
      .ok ((lastWrite (history calls) key).map Write.text) := by
  have hrow := h.row key
  cases hlast : lastWrite (history calls) key with
  | none =>
      rw [hlast] at hrow
      exact readSetting_of_none hrow
  | some w =>
      rw [hlast] at hrow
      exact readSetting_of_row (scalar_of_lastWrite hscalar hlast) hrow

theorem Keeps.updatedBy (h : Keeps env rows log) (key : SettingKey) :
    (rowOf rows key).map PlatformSetting.updatedBy =
      (lastWrite log key).map Write.actorId := by
  rw [h.row key, Option.map_map]
  rfl

theorem Keeps.configured (h : Keeps env rows (history calls))
    (hscalar : ∀ call ∈ calls, call.Encodable) (key : SettingKey) :
    (PyStr.lit key.value, true) ∈ configuredState rows ↔
      readSetting env rows key ≠ .ok none := by
  rw [mem_configuredState, h.row key, h.read hscalar key]
  cases lastWrite (history calls) key with
  | none => simp
  | some w => simp

/-- A call leaves the rows of the keys it does not write. -/
theorem Keeps.frame {call : WriteCall} (h : Keeps env rows log)
    (h' : Keeps env rows' (log ++ call.effective))
    (hkey : ∀ x ∈ call.effective, x.1 ≠ key) :
    rowOf rows' key = rowOf rows key := by
  rw [h'.row key, h.row key, lastWrite_append_of_absent hkey]

/-! ## §5  The law -/

/-- Any calls by anybody leave a map: a key reads as its last effective write,
it is marked as configured if there is one, and it was updated by whoever made
it. A further call changes nothing of the keys it does not write. -/
theorem settings_are_a_map (hscalar : ∀ call ∈ calls, call.Encodable) :
    ∃ rows, writeCalls env calls [] = some rows ∧
      (rows.map PlatformSetting.key).Nodup ∧
      (∀ key,
        readSetting env rows key =
            .ok ((lastWrite (history calls) key).map Write.text) ∧
          ((PyStr.lit key.value, true) ∈ configuredState rows ↔
            readSetting env rows key ≠ .ok none) ∧
          (rowOf rows key).map PlatformSetting.updatedBy =
            (lastWrite (history calls) key).map Write.actorId) ∧
      ∀ call : WriteCall, call.Encodable → ∃ rows',
        writeMany env call.draws call.actorId call.values rows = some rows' ∧
          ∀ key, (∀ x ∈ call.effective, x.1 ≠ key) →
            rowOf rows' key = rowOf rows key ∧
              readSetting env rows' key = readSetting env rows key := by
  have hempty : Keeps env [] [] := keeps_empty
  obtain ⟨rows, hrows, hkeeps⟩ := hempty.writeCalls hscalar
  rw [List.nil_append] at hkeeps
  refine ⟨rows, hrows, hkeeps.nodup, fun key => ⟨hkeeps.read hscalar key,
    hkeeps.configured hscalar key, hkeeps.updatedBy key⟩, fun call hcall => ?_⟩
  obtain ⟨rows', hrows', hkeeps'⟩ := hkeeps.writeMany hcall
  refine ⟨rows', hrows', fun key hkey => ?_⟩
  have hrow := hkeeps.frame hkeeps' hkey
  exact ⟨hrow, readSetting_congr hrow⟩

/-! ### Two administrators -/

/-- AES-256-GCM on the three values that are written. -/
def settingVectors : List Aead.TestVector :=
  [⟨Findings.sampleKey, (List.range 12).map UInt8.ofNat, PyStr.asciiLit "k1",
      settingAad .leakcheckApiKey 1,
      [44, 51, 241, 160, 220, 97, 69, 116, 249, 253, 92, 227, 250, 125, 181,
        168, 12, 32]⟩,
    ⟨Findings.sampleKey, (List.range' 1 12).map UInt8.ofNat, [],
      settingAad .smtpHost 1,
      [212, 145, 205, 127, 148, 69, 184, 219, 36, 193, 149, 50, 193, 71, 216,
        78]⟩,
    ⟨Findings.sampleKey, (List.range' 2 12).map UInt8.ofNat,
      PyStr.asciiLit "mail", settingAad .smtpHost 1,
      [4, 167, 205, 173, 80, 124, 36, 62, 75, 237, 139, 218, 71, 1, 80, 169,
        43, 202, 188, 85]⟩]

def settingEnv : Env :=
  { Findings.sampleEnv with
    aead := Aead.ofVectors settingVectors (by decide) (by decide) }

/-- A key and no host. -/
def firstCall : WriteCall where
  actorId := 1
  draws := ⟨fun key => (List.range' (if key = .smtpHost then 1 else 0) 12).map
    UInt8.ofNat, 0⟩
  values := [(.leakcheckApiKey, some (PyStr.lit "k1")), (.smtpHost, some [])]
  keys := by decide

/-- A host and a blank key. -/
def secondCall : WriteCall where
  actorId := 2
  draws := ⟨fun _ => (List.range' 2 12).map UInt8.ofNat, 60⟩
  values := [(.leakcheckApiKey, some []), (.smtpHost, some (PyStr.lit "mail")),
    (.smtpPort, none)]
  keys := by decide

theorem encodable_of_ascii {call : WriteCall}
    (h : (call.values.all fun x => x.2.all PyStr.isAscii) = true) :
    call.Encodable := by
  intro x hx text htext
  have hascii := List.all_eq_true.mp h x hx
  rw [htext, Option.all_some] at hascii
  exact PyStr.scalar_of_isAscii hascii

/-- The key of the first is kept, the host is the second's. -/
theorem blank_key_kept : ∃ rows,
    writeCalls settingEnv [firstCall, secondCall] [] = some rows ∧
    readSetting settingEnv rows .leakcheckApiKey =
      .ok (some (PyStr.lit "k1")) ∧
    (rowOf rows .leakcheckApiKey).map PlatformSetting.updatedBy = some 1 ∧
    readSetting settingEnv rows .smtpHost = .ok (some (PyStr.lit "mail")) ∧
    (rowOf rows .smtpHost).map PlatformSetting.updatedBy = some 2 ∧
    readSetting settingEnv rows .smtpPort = .ok none := by
  have hscalar : ∀ call ∈ [firstCall, secondCall], call.Encodable := by
    intro call hcall
    rcases List.mem_pair.mp hcall with rfl | rfl
    · exact encodable_of_ascii (by decide)
    · exact encodable_of_ascii (by decide)
  obtain ⟨rows, hrows, -, hkeys, -⟩ :=
    @settings_are_a_map settingEnv [firstCall, secondCall] hscalar
  obtain ⟨hkey, -, hkeyBy⟩ := hkeys .leakcheckApiKey
  obtain ⟨hhost, -, hhostBy⟩ := hkeys .smtpHost
  obtain ⟨hport, -, -⟩ := hkeys .smtpPort
  exact ⟨rows, hrows, hkey, hkeyBy, hhost, hhostBy, hport⟩

end LeakcheckHub.Settings
