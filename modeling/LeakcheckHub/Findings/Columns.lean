import LeakcheckHub.Findings.Discovery
import LeakcheckHub.Findings.VendorRecords

/-!
# Columns

Which drafts go through the statements that write them. Lengths are checked on
normalized copies of the vendor's texts, and the texts themselves are written,
beside JSON documents that hold them once more.

§1 what a column takes · §2 the row of a source · §3 masks and digests ·
§4 the row of a finding · §5 the law of columns.
-/

namespace LeakcheckHub.Findings

open Foundation Normalization FindingStore

variable {env : Env} {subject : Subject} {sourceId : Uuid}
  {source : SourceIdentity} {record : LeakRecord}
  {draws : RecordDraws} {seenAt : Timestamp} {draft : FindingDraft}
  {row : Finding} {s : FindingStore} {n : ℕ}

/-! ## §1  What a column takes -/

/-- What is documented besides: NUL is not printable and no case folding makes
one, and a `jsonb` column takes the documents that it says it takes. -/
structure Env.DocumentedColumns (env : Env) : Prop extends env.Documented where
  nulPrintable : env.unicode.isPrintable 0 = false
  nulFold : ∀ s, (0 : CodePoint) ∉ s → (0 : CodePoint) ∉ env.unicode.casefold s
  jsonb : ∀ value, (env.jsonb value).isSome = value.storable

theorem varcharColumn_succeeds {v : PyStr} :
    (∃ u, varcharColumn n v = .ok u) ↔ v.Sendable ∧ v.BlankFrom n := by
  rw [← PyStr.storeVarchar_succeeds]
  exact exists_congr fun u => column_eq_ok

theorem jsonbColumn_succeeds (hd : env.DocumentedColumns) {value : Json} :
    (∃ stored, jsonbColumn env value = .ok stored) ↔ value.storable = true := by
  rw [← hd.jsonb, Option.isSome_iff_exists]
  exact exists_congr fun stored => column_eq_ok

theorem nullable_succeeds {α β : Type} {store : α → Except IngestError β}
    {x : Option α} :
    (∃ y, nullable store x = .ok y) ↔ ∀ a ∈ x, ∃ b, store a = .ok b := by
  cases x with
  | none => exact iff_of_true ⟨none, rfl⟩ nofun
  | some a =>
      constructor
      · rintro ⟨y, hy⟩ a' ha'
        obtain ⟨b, hb, -⟩ := bind_eq_ok.mp hy
        cases ha'
        exact ⟨b, hb⟩
      · intro h
        obtain ⟨b, hb⟩ := h a rfl
        exact ⟨some b, bind_eq_ok.mpr ⟨b, hb, rfl⟩⟩

theorem nullable_varchar_succeeds {x : Option PyStr} :
    (∃ y, nullable (varcharColumn n) x = .ok y) ↔
      ∀ v ∈ x, v.Sendable ∧ v.BlankFrom n :=
  nullable_succeeds.trans
    (forall₂_congr fun _ _ => varcharColumn_succeeds)

/-- What is stored has the length of its column. -/
theorem nullable_varchar_length {x y : Option PyStr}
    (h : nullable (varcharColumn n) x = .ok y) : ∀ v ∈ y, v.length ≤ n := by
  intro v hv
  cases x with
  | none =>
      cases h
      cases hv
  | some a =>
      obtain ⟨b, hb, h⟩ := bind_eq_ok.mp h
      cases h
      cases hv
      exact PyStr.length_storeVarchar (column_eq_ok.mp hb)

/-! ## §2  The row of a source -/

/-- The vendor's name of a source, cut and with what is not printable
replaced. -/
def printableName (U : UnicodeData) (name : Option PyStr) : PyStr :=
  ((textOr (some (canonical U (textOr name unknownSource))) unknownSource).map
    fun c => if U.isPrintable c then c else replacement).take 1024

theorem sendable_of_printable (hd : env.DocumentedColumns) {c : CodePoint}
    (h : env.unicode.isPrintable c = true) :
    PyStr.isSurrogate c = false ∧ c.val ≠ 0 := by
  constructor
  · by_contra hsurrogate
    rw [hd.unicode.surrogates c (Bool.of_not_eq_false hsurrogate)] at h
    cases h
  · intro hnul
    have hzero : c = 0 := Fin.ext hnul
    rw [hzero, hd.nulPrintable] at h
    cases h

theorem printableName_sendable (hd : env.DocumentedColumns)
    (name : Option PyStr) : (printableName env.unicode name).Sendable := by
  intro c hc
  obtain ⟨d, -, rfl⟩ := List.mem_map.mp (List.mem_of_mem_take hc)
  split
  · rename_i hprintable
    exact sendable_of_printable hd hprintable
  · decide

theorem casefold_sendable (hd : env.DocumentedColumns) {v : PyStr}
    (h : v.Sendable) : (env.unicode.casefold v).Sendable := by
  have hscalar : PyStr.Scalar (env.unicode.casefold v) :=
    hd.unicode.scalar v fun c hc => (h c hc).1
  have hnul : (0 : CodePoint) ∉ env.unicode.casefold v :=
    hd.nulFold v fun hmem => (h 0 hmem).2 rfl
  intro c hc
  refine ⟨hscalar c hc, fun hzero => hnul ?_⟩
  have heq : c = 0 := Fin.ext hzero
  exact heq ▸ hc

theorem optionalJson_storable {x : Option PyStr} :
    (optionalJson x).storable = true ↔ ∀ v ∈ x, v.Sendable := by
  cases x with
  | none => exact iff_of_true rfl nofun
  | some v =>
      rw [optionalJson, Json.storable, decide_eq_true_eq]
      exact ⟨fun h _ hv => Option.some.inj hv ▸ h, fun h => h v rfl⟩

/-- What `vendor_name` and `vendor_breach_date` keep. -/
theorem extra_storable {vendor : VendorSource} :
    (normalizeSource env.unicode vendor).extra.storable = true ↔
      (∀ v ∈ vendor.name, v.Sendable) ∧ ∀ v ∈ vendor.breachDate, v.Sendable := by
  have hname : (PyStr.lit "vendor_name").Sendable :=
    PyStr.storeText_eq_some_iff.mp rfl
  have hdate : (PyStr.lit "vendor_breach_date").Sendable :=
    PyStr.storeText_eq_some_iff.mp rfl
  rw [← optionalJson_storable, ← optionalJson_storable]
  simp only [normalizeSource, Json.storable, Json.storableEntries,
    decide_eq_true hname, decide_eq_true hdate, Bool.true_and, Bool.and_true,
    Bool.and_eq_true]

/-- Of its own, a source has the two texts of the vendor and its name with the
case folded. -/
theorem sourceRow_succeeds (hd : env.DocumentedColumns) (vendor : VendorSource)
    (newId : Uuid) :
    (∃ row, sourceRow env (normalizeSource env.unicode vendor) newId = .ok row) ↔
      (env.unicode.casefold (printableName env.unicode vendor.name)).BlankFrom
          1024 ∧
        (∀ v ∈ vendor.name, v.Sendable) ∧
        ∀ v ∈ vendor.breachDate, v.Sendable := by
  have hname := printableName_sendable hd vendor.name
  constructor
  · rintro ⟨row, h⟩
    obtain ⟨name, -, h⟩ := bind_eq_ok.mp h
    obtain ⟨nameNorm, hnorm, h⟩ := bind_eq_ok.mp h
    obtain ⟨extra, hextra, -⟩ := bind_eq_ok.mp h
    exact ⟨(varcharColumn_succeeds.mp ⟨nameNorm, hnorm⟩).2,
      extra_storable.mp ((jsonbColumn_succeeds hd).mp ⟨extra, hextra⟩)⟩
  · rintro ⟨hblank, hextra⟩
    obtain ⟨name, hname'⟩ : ∃ name, varcharColumn 1024
        (normalizeSource env.unicode vendor).name = .ok name :=
      varcharColumn_succeeds.mpr
        ⟨hname, PyStr.blankFrom_of_le (List.length_take_le 1024 _)⟩
    obtain ⟨nameNorm, hnorm⟩ : ∃ nameNorm, varcharColumn 1024
        (normalizeSource env.unicode vendor).nameNorm = .ok nameNorm :=
      varcharColumn_succeeds.mpr ⟨casefold_sendable hd hname, hblank⟩
    obtain ⟨extra, hextra⟩ :=
      (jsonbColumn_succeeds hd).mpr (extra_storable.mpr hextra)
    exact ⟨_, bind_eq_ok.mpr ⟨name, hname', bind_eq_ok.mpr ⟨nameNorm, hnorm,
      bind_eq_ok.mpr ⟨extra, hextra, rfl⟩⟩⟩⟩

theorem sourceRow_spec {newId : Uuid} {row : BreachSource}
    (h : sourceRow env source newId = .ok row) :
    row.id = newId ∧ row.name.length ≤ 1024 ∧ row.nameNorm.length ≤ 1024 := by
  obtain ⟨name, hname, h⟩ := bind_eq_ok.mp h
  obtain ⟨nameNorm, hnorm, h⟩ := bind_eq_ok.mp h
  obtain ⟨extra, -, h⟩ := bind_eq_ok.mp h
  cases h
  exact ⟨rfl, PyStr.length_storeVarchar (column_eq_ok.mp hname),
    PyStr.length_storeVarchar (column_eq_ok.mp hnorm)⟩

/-- A row with a new id is inserted, or refreshes the one of its identity. -/
theorem resolveSource_succeeds {newId : Uuid} {row : BreachSource}
    (hrow : sourceRow env source newId = .ok row)
    (hid : newId ∉ s.sources.map BreachSource.id) :
    ∃ out, s.resolveSource env source newId = .ok out := by
  by_cases hknown : ∃ b ∈ s.sources, b.identity = row.identity
  · obtain ⟨s', i, h⟩ := resolveSource_known newId hrow hknown
    exact ⟨_, h⟩
  · rw [not_exists] at hknown
    have hfree : ∀ b ∈ s.sources, b.identity ≠ row.identity :=
      fun b hb heq => hknown b ⟨hb, heq⟩
    have hfind : (s.sources.find? fun b => decide (b.identity = row.identity)) =
        none :=
      List.find?_eq_none.mpr fun b hb heq => hfree b hb (of_decide_eq_true heq)
    rw [← (sourceRow_spec hrow).1] at hid
    obtain ⟨s', hs'⟩ := exists_ofRows (intact_addSource hid hfree)
    refine ⟨(s', row.id), bind_eq_ok.mpr ⟨row, hrow, ?_⟩⟩
    rw [hfind]
    exact bind_eq_ok.mpr ⟨s', hs', rfl⟩

/-! ## §3  Masks and digests -/

/-- No mask has a space that its column could cut off. -/
theorem mask_takes_iff (hd : env.DocumentedColumns) {password : PyStr} :
    (maskPassword env password).Sendable ∧
        (maskPassword env password).BlankFrom n ↔ password.length ≤ n := by
  rw [← length_maskPassword env]
  constructor
  · rintro ⟨-, hblank⟩
    by_contra hlong
    have hpos : 0 < ((maskPassword env password).drop n).length := by
      rw [List.length_drop]
      omega
    obtain ⟨c, hc⟩ := List.length_pos_iff_exists_mem.mp hpos
    exact space_notMem_mask (List.mem_of_mem_drop hc) (hblank c hc)
  · intro hlen
    refine ⟨fun c hc => ?_, PyStr.blankFrom_of_le hlen⟩
    rcases mem_maskPassword hc with rfl | ⟨hprintable, -⟩
    · decide
    · exact sendable_of_printable hd hprintable

theorem passwordCharset_stored (password : PyStr) :
    (passwordCharset env password).storeVarchar 255 =
      some (passwordCharset env password) := by
  unfold passwordCharset
  dsimp only
  generalize password.any env.unicode.isLower = lower
  generalize password.any env.unicode.isUpper = upper
  generalize password.any env.unicode.isDigit = digits
  generalize password.any env.unicode.isSymbol = symbols
  generalize password.isAscii = ascii
  revert lower upper digits symbols ascii
  decide

/-- What a protected password is made of. -/
theorem protectOptional_parts {password : Option PyStr}
    {p : Option ProtectedPassword}
    (h : protectOptional env draws password = .ok p) :
    p.map ProtectedPassword.mask = password.map (maskPassword env) ∧
      p.map ProtectedPassword.length = password.map List.length ∧
      p.map ProtectedPassword.charset = password.map (passwordCharset env) ∧
      p.map ProtectedPassword.nonce =
        password.map fun _ => draws.nonce.bytes := by
  rcases protectOptional_eq_ok.mp h with ⟨rfl, rfl⟩ | ⟨v, q, rfl, rfl, hq⟩
  · exact ⟨rfl, rfl, rfl, rfl⟩
  · obtain ⟨plaintext, -, rfl⟩ := protectPassword_eq_ok.mp hq
    exact ⟨rfl, rfl, rfl, rfl⟩

theorem digest_length (hd : env.Documented) {parts : List Bytes} {d : Bytes}
    (h : digest env parts = .ok d) : d.length = 32 := by
  obtain ⟨chunks, -, h⟩ := bind_eq_ok.mp h
  cases h
  exact hd.digestLength _

theorem identityKey_length (hd : env.Documented) {email username phone : PyStr}
    {key : Option Bytes} (h : identityKey env email username phone = .ok key) :
    ∀ b ∈ key, b.length = 32 := by
  unfold identityKey at h
  split at h
  · cases h
    exact nofun
  · obtain ⟨parts, -, h⟩ := bind_eq_ok.mp h
    obtain ⟨d, hdigest, h⟩ := bind_eq_ok.mp h
    cases h
    intro b hb
    cases hb
    exact digest_length hd hdigest

/-- A draft keeps the check constraints of `findings`. -/
structure Sized (draft : FindingDraft) : Prop where
  fingerprint : draft.fingerprint.length = 32
  identityKey : ∀ b ∈ draft.identityKey, b.length = 32
  sha256 : ∀ b ∈ draft.password.map ProtectedPassword.sha256, b.length = 32
  nonce : ∀ b ∈ draft.password.map ProtectedPassword.nonce, b.length = 12

theorem draft_sized (hd : env.Documented)
    (h : buildFindingDraft env subject sourceId source record draws seenAt =
      .ok draft) : Sized draft := by
  obtain ⟨password, hpassword, h⟩ := bind_eq_ok.mp h
  obtain ⟨email, -, h⟩ := bind_eq_ok.mp h
  obtain ⟨username, -, h⟩ := bind_eq_ok.mp h
  obtain ⟨phone, -, h⟩ := bind_eq_ok.mp h
  obtain ⟨key, hkey, h⟩ := bind_eq_ok.mp h
  obtain ⟨fingerprint, hfingerprint, h⟩ := bind_eq_ok.mp h
  cases h
  obtain ⟨parts, -, hfingerprint⟩ := bind_eq_ok.mp hfingerprint
  refine ⟨digest_length hd hfingerprint, identityKey_length hd hkey,
    protectOptional_hash hd hpassword, ?_⟩
  obtain ⟨-, -, -, hnonce⟩ := protectOptional_parts hpassword
  intro b hb
  have hb : password.map ProtectedPassword.nonce = some b := hb
  rw [hnonce] at hb
  obtain ⟨v, -, rfl⟩ := Option.map_eq_some_iff.mp hb
  exact draws.nonce.length_eq

theorem lengthIs_of {b : Option Bytes} (h : ∀ x ∈ b, x.length = n) :
    lengthIs n b = true := by
  cases b with
  | none => rfl
  | some x => exact beq_iff_eq.mpr (h x rfl)

/-! ## §4  The row of a finding -/

/-- The lengths of the columns of a finding. -/
structure RowLengths (row : Finding) : Prop where
  email : ∀ v ∈ row.email, v.length ≤ 320
  username : ∀ v ∈ row.username, v.length ≤ 1024
  phone : ∀ v ∈ row.phone, v.length ≤ 64
  origin : ∀ v ∈ row.origin, v.length ≤ 4096
  mask : ∀ v ∈ row.passwordMask, v.length ≤ 1024
  charset : ∀ v ∈ row.passwordCharset, v.length ≤ 255

theorem findingRow_written (h : findingRow env draft = .ok row) :
    RowLengths row ∧ checked row = true := by
  obtain ⟨email, hemail, h⟩ := bind_eq_ok.mp h
  obtain ⟨username, husername, h⟩ := bind_eq_ok.mp h
  obtain ⟨phone, hphone, h⟩ := bind_eq_ok.mp h
  obtain ⟨origin, horigin, h⟩ := bind_eq_ok.mp h
  obtain ⟨mask, hmask, h⟩ := bind_eq_ok.mp h
  obtain ⟨length, -, h⟩ := bind_eq_ok.mp h
  obtain ⟨charset, hcharset, h⟩ := bind_eq_ok.mp h
  obtain ⟨fields, -, h⟩ := bind_eq_ok.mp h
  obtain ⟨raw, -, h⟩ := bind_eq_ok.mp h
  simp only at h
  split at h
  · rename_i hchecked
    cases h
    exact ⟨⟨nullable_varchar_length hemail, nullable_varchar_length husername,
      nullable_varchar_length hphone, nullable_varchar_length horigin,
      nullable_varchar_length hmask, nullable_varchar_length hcharset⟩, hchecked⟩
  · cases h

/-- What the columns of a finding take of a vendor's record. -/
structure Writable (U : UnicodeData) (record : LeakRecord) : Prop where
  email : ∀ v ∈ record.email, v.Sendable ∧ v.BlankFrom 320
  username : ∀ v ∈ record.username, v.Sendable ∧ v.BlankFrom 1024
  phone : ∀ v ∈ record.phone, v.Sendable ∧ v.BlankFrom 64
  origin : ∀ v ∈ record.origin, v.Sendable ∧ v.BlankFrom 4096
  password : ∀ v ∈ record.password, v.length ≤ 1024
  fields : ∀ v ∈ record.fields, v.Sendable
  raw : (Json.obj (sanitizedRaw U record.raw)).storable = true

theorem drafted_documents
    (h : buildFindingDraft env subject sourceId source record draws seenAt =
      .ok draft) :
    draft.fields = .arr (record.fields.map .str) ∧
      draft.raw = .obj (sanitizedRaw env.unicode record.raw) := by
  obtain ⟨password, -, h⟩ := bind_eq_ok.mp h
  obtain ⟨email, -, h⟩ := bind_eq_ok.mp h
  obtain ⟨username, -, h⟩ := bind_eq_ok.mp h
  obtain ⟨phone, -, h⟩ := bind_eq_ok.mp h
  obtain ⟨key, -, h⟩ := bind_eq_ok.mp h
  obtain ⟨fingerprint, -, h⟩ := bind_eq_ok.mp h
  cases h
  exact ⟨rfl, rfl⟩

theorem fields_storable {texts : List PyStr} :
    (Json.arr (texts.map .str)).storable = true ↔ ∀ v ∈ texts, v.Sendable := by
  rw [Json.storable]
  exact Json.storableItems_strings

theorem nullable_mask_succeeds (hd : env.DocumentedColumns)
    {password : Option PyStr} :
    (∃ y, nullable (varcharColumn 1024) (password.map (maskPassword env)) =
        .ok y) ↔ ∀ v ∈ password, v.length ≤ 1024 := by
  rw [nullable_varchar_succeeds]
  constructor
  · intro h v hv
    exact (mask_takes_iff hd).mp (h _ (Option.mem_map_of_mem _ hv))
  · intro h m hm
    obtain ⟨v, hv, rfl⟩ := Option.map_eq_some_iff.mp hm
    exact (mask_takes_iff hd).mpr (h v hv)

/-- A draft of a record is written exactly when the columns take what they are
given of it. -/
theorem findingRow_succeeds (hd : env.DocumentedColumns)
    (hdraft : buildFindingDraft env subject sourceId source record draws
      seenAt = .ok draft) :
    (∃ row, findingRow env draft = .ok row) ↔ Writable env.unicode record := by
  have hspec := buildFindingDraft_spec hdraft
  obtain ⟨hfields, hraw⟩ := drafted_documents hdraft
  obtain ⟨hmask, hlength, hcharset, -⟩ := protectOptional_parts hspec.password
  have hsized := draft_sized hd.toDocumented hdraft
  have hmaskrow : (∃ y, nullable (varcharColumn 1024)
      (draft.password.map ProtectedPassword.mask) = .ok y) ↔
        ∀ v ∈ record.password, v.length ≤ 1024 := by
    rw [hmask]
    exact nullable_mask_succeeds hd
  have hfieldsrow : (∃ y, jsonbColumn env draft.fields = .ok y) ↔
      ∀ v ∈ record.fields, v.Sendable := by
    rw [hfields, jsonbColumn_succeeds hd]
    exact fields_storable
  have hrawrow : (∃ y, jsonbColumn env draft.raw = .ok y) ↔
      (Json.obj (sanitizedRaw env.unicode record.raw)).storable = true := by
    rw [hraw]
    exact jsonbColumn_succeeds hd
  constructor
  · rintro ⟨row, h⟩
    obtain ⟨email, hemail, h⟩ := bind_eq_ok.mp h
    obtain ⟨username, husername, h⟩ := bind_eq_ok.mp h
    obtain ⟨phone, hphone, h⟩ := bind_eq_ok.mp h
    obtain ⟨origin, horigin, h⟩ := bind_eq_ok.mp h
    obtain ⟨mask, hmask', h⟩ := bind_eq_ok.mp h
    obtain ⟨length, -, h⟩ := bind_eq_ok.mp h
    obtain ⟨charset, -, h⟩ := bind_eq_ok.mp h
    obtain ⟨fields, hfields', h⟩ := bind_eq_ok.mp h
    obtain ⟨raw, hraw', -⟩ := bind_eq_ok.mp h
    constructor
    case email =>
      exact hspec.email ▸ nullable_varchar_succeeds.mp ⟨email, hemail⟩
    case username =>
      exact hspec.username ▸ nullable_varchar_succeeds.mp ⟨username, husername⟩
    case phone =>
      exact hspec.phone ▸ nullable_varchar_succeeds.mp ⟨phone, hphone⟩
    case origin =>
      exact hspec.origin ▸ nullable_varchar_succeeds.mp ⟨origin, horigin⟩
    case password => exact hmaskrow.mp ⟨mask, hmask'⟩
    case fields => exact hfieldsrow.mp ⟨fields, hfields'⟩
    case raw => exact hrawrow.mp ⟨raw, hraw'⟩
  · intro h
    obtain ⟨email, hemail⟩ := nullable_varchar_succeeds.mpr
      (hspec.email ▸ h.email)
    obtain ⟨username, husername⟩ := nullable_varchar_succeeds.mpr
      (hspec.username ▸ h.username)
    obtain ⟨phone, hphone⟩ := nullable_varchar_succeeds.mpr
      (hspec.phone ▸ h.phone)
    obtain ⟨origin, horigin⟩ := nullable_varchar_succeeds.mpr
      (hspec.origin ▸ h.origin)
    obtain ⟨mask, hmask'⟩ := hmaskrow.mpr h.password
    obtain ⟨fields, hfields'⟩ := hfieldsrow.mpr h.fields
    obtain ⟨raw, hraw'⟩ := hrawrow.mpr h.raw
    obtain ⟨length, hlength'⟩ : ∃ y, nullable integerColumn
        (draft.password.map ProtectedPassword.length) = .ok y := by
      rw [hlength, nullable_succeeds]
      intro m hm
      obtain ⟨v, hv, rfl⟩ := Option.map_eq_some_iff.mp hm
      have hshort := h.password v hv
      exact ⟨v.length, column_eq_ok.mpr (if_pos (by omega))⟩
    obtain ⟨charset, hcharset'⟩ : ∃ y, nullable (varcharColumn 255)
        (draft.password.map ProtectedPassword.charset) = .ok y := by
      rw [hcharset, nullable_varchar_succeeds]
      intro m hm
      obtain ⟨v, -, rfl⟩ := Option.map_eq_some_iff.mp hm
      exact PyStr.storeVarchar_succeeds.mp ⟨_, passwordCharset_stored v⟩
    refine ⟨_, bind_eq_ok.mpr ⟨email, hemail, bind_eq_ok.mpr ⟨username, husername,
      bind_eq_ok.mpr ⟨phone, hphone, bind_eq_ok.mpr ⟨origin, horigin,
      bind_eq_ok.mpr ⟨mask, hmask', bind_eq_ok.mpr ⟨length, hlength',
      bind_eq_ok.mpr ⟨charset, hcharset', bind_eq_ok.mpr ⟨fields, hfields',
      bind_eq_ok.mpr ⟨raw, hraw', if_pos ?_⟩⟩⟩⟩⟩⟩⟩⟩⟩⟩
    simp only [checked, Bool.and_eq_true, beq_iff_eq]
    exact ⟨⟨⟨hsized.fingerprint, lengthIs_of hsized.identityKey⟩,
      lengthIs_of hsized.sha256⟩, lengthIs_of hsized.nonce⟩

/-- A row of a new id and a stored source is inserted, or refreshes the one of
its fingerprint. -/
theorem upsertFinding_succeeds (hrow : findingRow env draft = .ok row)
    (hid : draft.id ∉ s.findings.map Finding.id)
    (hsource : draft.sourceId ∈ s.sources.map BreachSource.id) :
    ∃ out, s.upsertFinding env draft = .ok out := by
  by_cases hknown : ∃ f ∈ s.findings, f.fingerprint = row.fingerprint
  · obtain ⟨s', finding, h⟩ := upsertFinding_known hrow hknown
    exact ⟨_, h⟩
  · rw [not_exists] at hknown
    have hfree : ∀ f ∈ s.findings, f.fingerprint ≠ row.fingerprint :=
      fun f hf heq => hknown f ⟨hf, heq⟩
    have hfind : (s.findings.find? fun f =>
        decide (f.fingerprint = row.fingerprint)) = none :=
      List.find?_eq_none.mpr fun f hf heq => hfree f hf (of_decide_eq_true heq)
    have hproposes := findingRow_proposes hrow
    obtain ⟨s', hs'⟩ := exists_ofRows (intact_addFinding (hproposes.id ▸ hid)
      hfree (findingRow_written hrow).2 (hproposes.sourceId ▸ hsource)
      hproposes.supersededById)
    refine ⟨(s', row, true), bind_eq_ok.mpr ⟨row, hrow, ?_⟩⟩
    rw [hfind]
    exact bind_eq_ok.mpr ⟨s', hs', rfl⟩

/-! ## §5  The law of columns -/

/-- What is written for a record, and of the page it is on, fits the schema: the
rows have the lengths of their columns, neither INSERT fails, whatever is stored
already, and the quota is an INTEGER. -/
structure FitsColumns (env : Env) (source : SourceIdentity)
    (draft : FindingDraft) (quota : Option ℕ) : Prop where
  sourceFits : ∀ newId, ∃ row, sourceRow env source newId = .ok row ∧
    row.name.length ≤ 1024 ∧ row.nameNorm.length ≤ 1024
  findingFits : ∃ row, findingRow env draft = .ok row ∧ RowLengths row
  resolves : ∀ (s : FindingStore) newId,
    newId ∉ s.sources.map BreachSource.id →
      ∃ out, s.resolveSource env source newId = .ok out
  upserts : ∀ s : FindingStore, draft.id ∉ s.findings.map Finding.id →
    draft.sourceId ∈ s.sources.map BreachSource.id →
      ∃ out, s.upsertFinding env draft = .ok out
  quota : ∀ n ∈ quota, n < 2 ^ 31

/-- The vendor's own texts, and its quota. -/
structure VendorBounds (U : UnicodeData) (record : LeakRecord)
    (quota : Option ℕ) : Prop extends Writable U record where
  name : (U.casefold (printableName U record.source.name)).BlankFrom 1024
  vendorName : ∀ v ∈ record.source.name, v.Sendable
  vendorBreachDate : ∀ v ∈ record.source.breachDate, v.Sendable
  quota : ∀ n ∈ quota, n < 2 ^ 31

/-- A server that takes the documents it says it takes. -/
def columnsEnv : Env where
  __ := sampleEnv
  jsonb value := if value.storable then some value else none

theorem columnsEnv_documented : columnsEnv.DocumentedColumns where
  unicode := asciiData_documented
  digestLength := sampleEnv_documented.digestLength
  nulPrintable := by decide
  nulFold := by
    intro s hs hmem
    obtain ⟨c, hc, hzero⟩ := List.mem_map.mp hmem
    split at hzero
    · rename_i hupper
      have hval := congrArg Fin.val hzero
      change (c.val + 32) % 0x110000 = 0 at hval
      omega
    · exact hs (hzero ▸ hc)
  jsonb := by
    intro value
    show (if value.storable = true then some value else none).isSome = _
    cases value.storable <;> rfl

/-- The body of a page whose only row is a phone number. -/
def phoneBody (value : String) : Bytes :=
  PyStr.asciiLit
    ("\x7b\"success\":true,\"found\":1,\"quota\":5,\"result\":[\x7b\"phone\":\"" ++
      value ++ "\"\x7d]\x7d")

/-- What `json.loads` makes of it. -/
def loadsPhone (value : String) (body : Bytes) : Option Json :=
  if body = phoneBody value then
    some (.obj [(PyStr.lit "success", .bool true), (PyStr.lit "found", .int 1),
      (PyStr.lit "quota", .int 5),
      (PyStr.lit "result", .arr [rowWith "phone" value])])
  else none

def phoneRecord (value : String) : LeakRecord :=
  ⟨none, none, some (PyStr.lit value), none, none, [],
    ⟨none, none, none, none, none⟩,
    [(PyStr.lit "phone", .str (PyStr.lit value))]⟩

/-- Valid once its spaces are gone. -/
def spacedPhone : String :=
  "+                                                            12345678"

end LeakcheckHub.Findings
