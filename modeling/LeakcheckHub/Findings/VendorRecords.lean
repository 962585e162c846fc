import LeakcheckHub.Client.Pages
import LeakcheckHub.Findings.Ingest

/-!
# Vendor records

Which of the records that `_parse_record` accepts become a draft.

§1 encoding and digests · §2 drafts · §3 the law of drafts.
-/

namespace LeakcheckHub.Findings

open Foundation Normalization

variable {env : Env} {subject : Subject} {sourceId : Uuid}
  {source : SourceIdentity} {record : LeakRecord}
  {draws : RecordDraws} {seenAt : Timestamp}

/-! ## §1  Encoding and digests -/

/-- What is documented of the Unicode tables and of SHA-256. -/
structure Env.Documented (env : Env) : Prop where
  unicode : Normalization.Documented env.unicode
  digestLength : ∀ b, (env.sha256 b).length = 32

theorem encode_succeeds {s : PyStr} :
    (∃ b, encode s = .ok b) ↔ PyStr.Scalar s := by
  constructor
  · rintro ⟨b, hb⟩
    exact (PyStr.encode_eq_some.mp (encode_eq_ok.mp hb)).1
  · intro hs
    exact ⟨_, encode_eq_ok.mpr (PyStr.encode_eq_some.mpr ⟨hs, rfl⟩)⟩

/-- An encodable text is a part that can be framed. -/
theorem encode_frameable {s : PyStr} (h : Encodable 4096 s) :
    ∃ b, encode s = .ok b ∧ b.length < 2 ^ 32 := by
  have hb := PyStr.encode_eq_some.mpr ⟨h.1, rfl⟩
  have hlen := PyStr.length_encode hb
  have hshort := h.2
  refine ⟨_, encode_eq_ok.mpr hb, ?_⟩
  omega

theorem digest_succeeds (env : Env) {parts : List Bytes}
    (h : ∀ part ∈ parts, part.length < 2 ^ 32) :
    ∃ d, digest env parts = .ok d := by
  have hframed : ∀ part ∈ parts, ∃ chunk, framed part = .ok chunk ∧ True :=
    fun part hpart => ⟨_, if_pos (h part hpart), trivial⟩
  obtain ⟨chunks, hchunks, -⟩ := mapM_eq_ok hframed
  exact ⟨_, bind_eq_ok.mpr ⟨chunks, hchunks, rfl⟩⟩

theorem identityKey_succeeds (env : Env) {email username phone : PyStr}
    (hemail : Encodable 1024 email) (husername : Encodable 1024 username)
    (hphone : Encodable 1024 phone) :
    ∃ key, identityKey env email username phone = .ok key := by
  unfold identityKey
  split
  · exact ⟨none, rfl⟩
  · have hparts : ∀ s ∈ [email, username, phone],
        ∃ b, encode s = .ok b ∧ b.length < 2 ^ 32 := by
      intro s hs
      simp only [List.mem_cons, List.not_mem_nil, or_false] at hs
      rcases hs with rfl | rfl | rfl
      · exact encode_frameable (hemail.mono (by decide))
      · exact encode_frameable (husername.mono (by decide))
      · exact encode_frameable (hphone.mono (by decide))
    obtain ⟨parts, hparts, hshort⟩ := mapM_eq_ok hparts
    obtain ⟨d, hd⟩ := digest_succeeds env hshort
    exact ⟨some d, bind_eq_ok.mpr ⟨parts, hparts,
      bind_eq_ok.mpr ⟨d, hd, rfl⟩⟩⟩

theorem isoformat_encodable (d : Date) : Encodable 4096 d.isoformat := by
  refine ⟨PyStr.scalar_of_isAscii d.isoformat_isAscii, ?_⟩
  simp only [Date.isoformat, List.length_append, Date.length_digits]
  decide

theorem kind_encodable (kind : SubjectKind) :
    Encodable 4096 (PyStr.lit (subjectKindValue kind)) := by
  constructor
  · have hascii : (PyStr.lit (subjectKindValue kind)).isAscii = true := by
      cases kind <;> decide
    exact PyStr.scalar_of_isAscii hascii
  · cases kind <;> decide

/-- The source of a record is named by encodable text. -/
theorem nameNorm_encodable (hU : Normalization.Documented env.unicode)
    (vendor : VendorSource) :
    Encodable 4096 (normalizeSource env.unicode vendor).nameNorm := by
  unfold normalizeSource
  dsimp only
  constructor
  · refine hU.scalar _ fun c hc => ?_
    obtain ⟨d, -, rfl⟩ := List.mem_map.mp (List.mem_of_mem_take hc)
    split
    · rename_i hprintable
      by_contra hsurrogate
      rw [hU.surrogates d (Bool.of_not_eq_false hsurrogate)] at hprintable
      cases hprintable
    · decide
  · refine (hU.expansion _).trans ?_
    rw [List.length_take]
    omega

theorem hashOr_length {hash : Option Bytes}
    (h : ∀ b ∈ hash, b.length = 32) : (hashOr hash).length = 32 := by
  unfold hashOr
  split
  · rfl
  · rename_i b
    split
    · rfl
    · exact h b rfl

/-- The row of a scanned subject holds its value. -/
def Subject.Stored (subject : Subject) : Prop :=
  subject.valueNorm.storeVarchar 4096 = some subject.valueNorm

theorem findingFingerprint_succeeds (env : Env)
    {email username phone : PyStr} {hash : Option Bytes} (hsubject : subject.Stored)
    (hname : Encodable 4096 source.nameNorm)
    (hemail : Encodable 1024 email) (husername : Encodable 1024 username)
    (hphone : Encodable 1024 phone) (hhash : ∀ b ∈ hash, b.length = 32) :
    ∃ d, findingFingerprint env subject source email username phone hash =
      .ok d := by
  have hvalue : Encodable 4096 subject.valueNorm :=
    ⟨PyStr.scalar_of_storeText (PyStr.storeVarchar_eq_some hsubject).1,
      PyStr.length_storeVarchar hsubject⟩
  have hparts : ∀ s ∈ [PyStr.lit (subjectKindValue subject.kind),
      subject.valueNorm, source.nameNorm, source.breachDateNorm.isoformat,
      email, username, phone],
      ∃ b, encode s = .ok b ∧ b.length < 2 ^ 32 := by
    intro s hs
    simp only [List.mem_cons, List.not_mem_nil, or_false] at hs
    rcases hs with rfl | rfl | rfl | rfl | rfl | rfl | rfl
    · exact encode_frameable (kind_encodable subject.kind)
    · exact encode_frameable hvalue
    · exact encode_frameable hname
    · exact encode_frameable (isoformat_encodable source.breachDateNorm)
    · exact encode_frameable (hemail.mono (by decide))
    · exact encode_frameable (husername.mono (by decide))
    · exact encode_frameable (hphone.mono (by decide))
  obtain ⟨parts, hencoded, hshort⟩ := mapM_eq_ok hparts
  have hall : ∀ part ∈ parts ++ [hashOr hash], part.length < 2 ^ 32 := by
    intro part hpart
    rcases List.mem_append.mp hpart with hpart | hpart
    · exact hshort part hpart
    · rw [List.mem_singleton.mp hpart, hashOr_length hhash]
      decide
  obtain ⟨d, hd⟩ := digest_succeeds env hall
  exact ⟨d, bind_eq_ok.mpr ⟨parts, hencoded, hd⟩⟩

/-! ## §2  Drafts -/

theorem normalized_eq_ok {α : Type} {x : Except String α} {a : α} :
    normalized x = .ok a ↔ x = .ok a := by
  cases x with
  | ok b =>
      unfold normalized
      rw [Except.ok.injEq, Except.ok.injEq]
  | error message => exact ⟨fun h => (nomatch h), fun h => (nomatch h)⟩

theorem protectOptional_succeeds {password : Option PyStr} :
    (∃ p, protectOptional env draws password = .ok p) ↔
      ∀ v ∈ password, PyStr.Scalar v := by
  constructor
  · rintro ⟨p, hp⟩ v hv
    rcases protectOptional_eq_ok.mp hp with ⟨rfl, -⟩ | ⟨text, q, rfl, -, hq⟩
    · cases hv
    · cases hv
      obtain ⟨b, hb, -⟩ := protectPassword_eq_ok.mp hq
      exact encode_succeeds.mp ⟨b, hb⟩
  · intro h
    cases password with
    | none => exact ⟨none, rfl⟩
    | some v =>
        obtain ⟨b, hb⟩ := encode_succeeds.mpr (h v rfl)
        exact ⟨_, protectOptional_eq_ok.mpr (.inr ⟨v, _, rfl, rfl,
          protectPassword_eq_ok.mpr ⟨b, hb, rfl⟩⟩)⟩

/-- A protected password holds a digest of its text. -/
theorem protectOptional_hash {password : Option PyStr}
    {p : Option ProtectedPassword} (hd : env.Documented)
    (h : protectOptional env draws password = .ok p) :
    ∀ b ∈ p.map ProtectedPassword.sha256, b.length = 32 := by
  intro b hb
  rcases protectOptional_eq_ok.mp h with ⟨-, rfl⟩ | ⟨text, q, -, rfl, hq⟩
  · cases hb
  · obtain ⟨plaintext, -, rfl⟩ := protectPassword_eq_ok.mp hq
    cases hb
    exact hd.digestLength plaintext

/-- What a record must be like for a draft to be built of it: the texts that
identify its owner are absent, empty or readable and not too long with their
case folded, a phone number also valid, and the password has an encoding. -/
structure Buildable (U : UnicodeData) (record : LeakRecord) : Prop where
  email : ∀ v ∈ record.email, v ≠ [] → Foldable U 320 v
  username : ∀ v ∈ record.username, v ≠ [] → Foldable U 1024 v
  phone : ∀ v ∈ record.phone, v ≠ [] → Readable U v ∧
    (matchesPhone (compactPhone (canonical U v)) = true ∨
      (U.casefold (canonical U v)).length ≤ 64)
  password : ∀ v ∈ record.password, PyStr.Scalar v

theorem buildable_of_draft {draft : FindingDraft}
    (h : buildFindingDraft env subject sourceId source record draws seenAt =
      .ok draft) : Buildable env.unicode record := by
  obtain ⟨password, hpassword, h⟩ := bind_eq_ok.mp h
  obtain ⟨email, hemail, h⟩ := bind_eq_ok.mp h
  obtain ⟨username, husername, h⟩ := bind_eq_ok.mp h
  obtain ⟨phone, hphone, -⟩ := bind_eq_ok.mp h
  constructor
  case email =>
    exact normalizeOptionalEmail_succeeds.mp
      ⟨email, normalized_eq_ok.mp hemail⟩
  case username =>
    exact normalizeOptionalUsername_succeeds.mp
      ⟨username, normalized_eq_ok.mp husername⟩
  case phone =>
    exact normalizeOptionalPhone_succeeds.mp
      ⟨phone, normalized_eq_ok.mp hphone⟩
  case password =>
    exact protectOptional_succeeds.mp ⟨password, hpassword⟩

theorem draft_of_buildable (hd : env.Documented) (hsubject : subject.Stored)
    (hname : Encodable 4096 source.nameNorm)
    (h : Buildable env.unicode record) :
    ∃ draft, buildFindingDraft env subject sourceId source record draws
      seenAt = .ok draft := by
  obtain ⟨password, hpassword⟩ := protectOptional_succeeds.mpr h.password
  obtain ⟨email, hemail⟩ := normalizeOptionalEmail_succeeds.mpr h.email
  obtain ⟨username, husername⟩ :=
    normalizeOptionalUsername_succeeds.mpr h.username
  obtain ⟨phone, hphone⟩ := normalizeOptionalPhone_succeeds.mpr h.phone
  have hU := hd.unicode
  have hemail' : Encodable 1024 email :=
    normalizeOptional_encodable hU (by decide)
      (normalizeEmail_encodable hU) hemail
  have husername' : Encodable 1024 username :=
    normalizeOptionalUsername_encodable hU husername
  have hphone' : Encodable 1024 phone :=
    normalizeOptional_encodable hU (by decide)
      (normalizePhone_encodable hU) hphone
  obtain ⟨key, hkey⟩ :=
    identityKey_succeeds env hemail' husername' hphone'
  obtain ⟨fingerprint, hfingerprint⟩ := findingFingerprint_succeeds
    env hsubject hname hemail' husername' hphone'
    (protectOptional_hash hd hpassword)
  exact ⟨_, bind_eq_ok.mpr ⟨password, hpassword,
    bind_eq_ok.mpr ⟨email, normalized_eq_ok.mpr hemail,
    bind_eq_ok.mpr ⟨username, normalized_eq_ok.mpr husername,
    bind_eq_ok.mpr ⟨phone, normalized_eq_ok.mpr hphone,
    bind_eq_ok.mpr ⟨key, hkey,
    bind_eq_ok.mpr ⟨fingerprint, hfingerprint, rfl⟩⟩⟩⟩⟩⟩⟩

/-! ## §3  The law of drafts -/

/-- **Drafts.** A record that the client accepts becomes a draft exactly when
it is buildable, and one that is not ends every ingest it is part of. -/
theorem drafts {value : Json} (hd : env.Documented)
    (hsubject : subject.Stored)
    (hparsed : Client.parseRecord value = .ok record) :
    (∀ sourceId draws seenAt, (∃ draft, buildFindingDraft env subject sourceId
        (normalizeSource env.unicode record.source) record draws seenAt =
          .ok draft) ↔ Buildable env.unicode record) ∧
    (¬ Buildable env.unicode record →
      ∀ (actorId : Option Uuid) seenAt (records : Batch) (s : FindingStore)
        (out : FindingStore × IngestSummary), record ∈ records.map Prod.fst →
          ingestRecords env subject actorId seenAt records s ≠ .ok out) := by
  refine ⟨fun sourceId draws seenAt => ⟨?_, ?_⟩, ?_⟩
  · rintro ⟨draft, hdraft⟩
    exact buildable_of_draft hdraft
  · exact draft_of_buildable hd hsubject (nameNorm_encodable hd.unicode _)
  · rintro hbad actorId seenAt records s out hmem hok
    obtain ⟨entry, hentry, rfl⟩ := List.mem_map.mp hmem
    obtain ⟨⟨s₁, sum₁⟩, ⟨s₂, sum₂⟩, hone⟩ := foldlM_mem hok hentry
    cases ingestRecord_spec hone with
    | known _ hdraft => exact hbad (buildable_of_draft hdraft)
    | fresh _ hdraft => exact hbad (buildable_of_draft hdraft)

theorem asciiData_documented : Normalization.Documented asciiData := by
  have hlower : ∀ c : CodePoint, 65 ≤ c.val ∧ c.val ≤ 90 →
      (c + 32).val = c.val + 32 := by
    intro c hc
    show (c.val + 32) % 0x110000 = c.val + 32
    omega
  constructor
  · intro c hc
    simp only [PyStr.isSurrogate, Bool.and_eq_true, decide_eq_true_eq] at hc
    simp only [asciiData, Bool.and_eq_false_iff, decide_eq_false_iff_not]
    omega
  · intro s hs c hc
    obtain ⟨d, hd, rfl⟩ := List.mem_map.mp hc
    split
    · rename_i hupper
      simp only [PyStr.isSurrogate, Bool.and_eq_false_iff,
        decide_eq_false_iff_not, hlower d hupper]
      omega
    · exact hs d hd
  · intro s
    have hlen : (asciiData.casefold s).length = s.length := List.length_map _
    omega

theorem sampleEnv_documented : sampleEnv.Documented := by
  refine ⟨asciiData_documented, fun b => ?_⟩
  have hdigests : ∀ x ∈ sampleDigests, x.2.length = 32 := by decide
  cases hfind : sampleDigests.find? fun x => x.1 == b with
  | none =>
      simp only [sampleEnv, hfind]
      rfl
  | some x =>
      simp only [sampleEnv, hfind]
      exact hdigests x (List.mem_of_find?_eq_some hfind)

/-- The vendor's object with one field. -/
def rowWith (key value : String) : Json :=
  .obj [(PyStr.lit key, .str (PyStr.lit value))]

/-- A blank email is no reason for the client to reject the row. -/
theorem blank_email_not_built :
    ∃ record, Client.parseRecord (rowWith "email" " ") = .ok record ∧
      buildFindingDraft sampleEnv sampleSubject 106
        (normalizeSource sampleEnv.unicode record.source) record
        (sampleDraws 6) 10 =
          .error (.normalization "value must be non-empty printable text") :=
  ⟨_, rfl, rfl⟩

theorem blank_email_loses_the_rest :
    ∃ blank named, Client.parseRecord (rowWith "email" " ") = .ok blank ∧
      Client.parseRecord (rowWith "username" "Bob") = .ok named ∧
      (∃ draft, buildFindingDraft sampleEnv sampleSubject 107
        (normalizeSource sampleEnv.unicode named.source) named
        (sampleDraws 7) 10 = .ok draft) ∧
      ∀ out, ingestRecords sampleEnv sampleSubject none 10
        [firstLeak, (blank, sampleDraws 8), (named, sampleDraws 7)]
        FindingStore.empty ≠ .ok out := by
  have hsubject : sampleSubject.Stored := rfl
  have hblank : Client.parseRecord (rowWith "email" " ") = .ok _ := rfl
  have hnamed : Client.parseRecord (rowWith "username" "Bob") = .ok _ := rfl
  refine ⟨_, _, hblank, hnamed, ?_, ?_⟩
  · refine ((drafts sampleEnv_documented hsubject hnamed).1 _ _ _).mpr ?_
    constructor
    · exact fun v hv => nomatch hv
    · intro v hv _
      cases hv
      decide
    · exact fun v hv => nomatch hv
    · exact fun v hv => nomatch hv
  · intro out
    refine (drafts sampleEnv_documented hsubject hblank).2 ?_ _ _ _ _ out
      (List.mem_cons_of_mem _ List.mem_cons_self)
    intro hbuildable
    exact absurd (hbuildable.email _ rfl (by decide)) (by decide)

end LeakcheckHub.Findings
