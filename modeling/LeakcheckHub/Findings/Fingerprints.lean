import LeakcheckHub.Findings.VendorRecords
import LeakcheckHub.Foundation.Digests
import Mathlib.Data.Set.Function

/-!
# Fingerprints and identity keys

`finding_fingerprint` and `_identity_key` of `app/ingest.py`, as the drafts of
`build_finding_draft` get them: what the two digests are made of, and that a
digest tells two findings apart where SHA-256 tells their messages apart.

§1 what identifies a finding · §2 what is hashed · §3 reading it back ·
§4 the law.
-/

namespace LeakcheckHub.Findings

open Foundation Normalization

/-! ## §1  What identifies a finding -/

structure FindingIdentity where
  kind : SubjectKind
  valueNorm : PyStr
  nameNorm : PyStr
  breachDateNorm : Date
  email : PyStr
  username : PyStr
  phone : PyStr
  password : Option PyStr
deriving DecidableEq

/-- The subject and the source as they are, the owner of the record normalized,
and its password or that there is none. -/
def identify (U : UnicodeData) (subject : Subject) (source : SourceIdentity)
    (record : LeakRecord) : Except String FindingIdentity := do
  let email ← normalizeOptionalEmail U record.email
  let username ← normalizeOptionalUsername U record.username
  let phone ← normalizeOptionalPhone U record.phone
  .ok ⟨subject.kind, subject.valueNorm, source.nameNorm, source.breachDateNorm,
    email, username, phone, record.password⟩

namespace FindingIdentity

def owner (x : FindingIdentity) : PyStr × PyStr × PyStr :=
  (x.email, x.username, x.phone)

end FindingIdentity

/-! ## §2  What is hashed -/

/-- `str.encode()` of text that has an encoding. -/
def utf8 (s : PyStr) : Bytes := s.flatMap PyStr.utf8Char

/-- The parts, each behind its length. -/
def message (parts : List Bytes) : Bytes := (parts.map frame).flatten

namespace FindingIdentity

def texts (x : FindingIdentity) : List PyStr :=
  [PyStr.lit (subjectKindValue x.kind), x.valueNorm, x.nameNorm,
    x.breachDateNorm.isoformat, x.email, x.username, x.phone]

def passwordHash (env : Env) (x : FindingIdentity) : Bytes :=
  hashOr (x.password.map fun password => env.sha256 (utf8 password))

def fingerprintMessage (env : Env) (x : FindingIdentity) : Bytes :=
  message (x.texts.map utf8 ++ [x.passwordHash env])

def ownerMessage (x : FindingIdentity) : Bytes :=
  message ([x.email, x.username, x.phone].map utf8)

/-- Everything that is hashed for a draft. -/
def messages (env : Env) (x : FindingIdentity) : Set Bytes :=
  { m | m = x.fingerprintMessage env ∨ m = x.ownerMessage ∨
    ∃ password, x.password = some password ∧ m = utf8 password }

end FindingIdentity

section Hashed

variable {env : Env} {subject : Subject} {source : SourceIdentity}
  {record : LeakRecord} {draws : RecordDraws} {sourceId : Uuid}
  {seenAt : Timestamp} {draft : FindingDraft} {x : FindingIdentity}
  {texts : List PyStr} {parts : List Bytes} {d : Bytes}

theorem mapM_encode_eq_ok (h : texts.mapM encode = .ok parts) :
    (∀ s ∈ texts, PyStr.Scalar s) ∧ parts = texts.map utf8 := by
  induction texts generalizing parts with
  | nil =>
      cases h
      exact ⟨List.forall_mem_nil _, rfl⟩
  | cons s texts ih =>
      obtain ⟨b, bs, hb, hrest, rfl⟩ := mapM_cons_eq_ok.mp h
      obtain ⟨hscalar, rfl⟩ := ih hrest
      obtain ⟨hs, rfl⟩ := PyStr.encode_eq_some.mp (encode_eq_ok.mp hb)
      exact ⟨List.forall_mem_cons.mpr ⟨hs, hscalar⟩, rfl⟩

theorem mapM_framed_eq_ok {chunks : List Bytes} (h : parts.mapM framed = .ok chunks) :
    (∀ part ∈ parts, part.length < 2 ^ 32) ∧ chunks = parts.map frame := by
  induction parts generalizing chunks with
  | nil =>
      cases h
      exact ⟨List.forall_mem_nil _, rfl⟩
  | cons part parts ih =>
      obtain ⟨chunk, rest, hchunk, hrest, rfl⟩ := mapM_cons_eq_ok.mp h
      obtain ⟨hshort, rfl⟩ := ih hrest
      unfold framed at hchunk
      split at hchunk
      · rename_i hpart
        rw [← Except.ok.inj hchunk]
        exact ⟨List.forall_mem_cons.mpr ⟨hpart, hshort⟩, rfl⟩
      · cases hchunk

theorem digest_eq_ok (h : digest env parts = .ok d) :
    (∀ part ∈ parts, part.length < 2 ^ 32) ∧ d = env.sha256 (message parts) := by
  obtain ⟨chunks, hchunks, hok⟩ := bind_eq_ok.mp h
  obtain ⟨hshort, rfl⟩ := mapM_framed_eq_ok hchunks
  cases hok
  exact ⟨hshort, rfl⟩

theorem protectOptional_sha256 {password : Option PyStr}
    {p : Option ProtectedPassword}
    (h : protectOptional env draws password = .ok p) :
    (∀ text ∈ password, PyStr.Scalar text) ∧ p.map ProtectedPassword.sha256 =
      password.map fun password => env.sha256 (utf8 password) := by
  rcases protectOptional_eq_ok.mp h with ⟨rfl, rfl⟩ | ⟨text, q, rfl, rfl, hq⟩
  · exact ⟨nofun, rfl⟩
  · obtain ⟨plaintext, hplaintext, rfl⟩ := protectPassword_eq_ok.mp hq
    obtain ⟨hscalar, rfl⟩ :=
      PyStr.encode_eq_some.mp (encode_eq_ok.mp hplaintext)
    refine ⟨fun text' htext' => ?_, rfl⟩
    cases htext'
    exact hscalar

/-- The digests of a draft, and what its parts are like. -/
structure Hashed (env : Env) (x : FindingIdentity) (draft : FindingDraft) :
    Prop where
  scalar : ∀ s ∈ x.texts, PyStr.Scalar s
  passwordScalar : ∀ password ∈ x.password, PyStr.Scalar password
  short : ∀ part ∈ x.texts.map utf8 ++ [x.passwordHash env],
    part.length < 2 ^ 32
  fingerprint : draft.fingerprint = env.sha256 (x.fingerprintMessage env)
  identityKey : draft.identityKey = if x.owner = ([], [], []) then none
    else some (env.sha256 x.ownerMessage)

theorem identityKey_eq {email username phone : PyStr} {key : Option Bytes}
    (h : identityKey env email username phone = .ok key) :
    key = if (email, username, phone) = (([], [], []) : PyStr × PyStr × PyStr)
      then none
      else some (env.sha256 (message ([email, username, phone].map utf8))) := by
  unfold identityKey at h
  split at h
  · rename_i hempty
    simp only [Bool.and_eq_true, List.isEmpty_iff] at hempty
    obtain ⟨⟨rfl, rfl⟩, rfl⟩ := hempty
    cases h
    rfl
  · rename_i hsome
    simp only [Bool.and_eq_true, List.isEmpty_iff] at hsome
    obtain ⟨parts, hparts, hrest⟩ := bind_eq_ok.mp h
    obtain ⟨d, hd, hok⟩ := bind_eq_ok.mp hrest
    obtain ⟨-, rfl⟩ := mapM_encode_eq_ok hparts
    rw [if_neg, ← Except.ok.inj hok, (digest_eq_ok hd).2]
    rw [Prod.mk.injEq, Prod.mk.injEq, ← and_assoc]
    exact hsome

theorem hashed_of_draft (hx : identify env.unicode subject source record = .ok x)
    (h : buildFindingDraft env subject sourceId source record draws seenAt =
      .ok draft) : Hashed env x draft := by
  obtain ⟨password, hpassword, h⟩ := bind_eq_ok.mp h
  obtain ⟨email, hemail, h⟩ := bind_eq_ok.mp h
  obtain ⟨username, husername, h⟩ := bind_eq_ok.mp h
  obtain ⟨phone, hphone, h⟩ := bind_eq_ok.mp h
  obtain ⟨key, hkey, h⟩ := bind_eq_ok.mp h
  obtain ⟨fingerprint, hfingerprint, hok⟩ := bind_eq_ok.mp h
  cases hok
  unfold identify at hx
  rw [normalized_eq_ok.mp hemail] at hx
  rw [normalized_eq_ok.mp husername, normalized_eq_ok.mp hphone] at hx
  cases hx
  obtain ⟨hpasswordScalar, hsha256⟩ := protectOptional_sha256 hpassword
  obtain ⟨parts, hparts, hdigest⟩ := bind_eq_ok.mp hfingerprint
  obtain ⟨hscalar, rfl⟩ := mapM_encode_eq_ok hparts
  rw [hsha256] at hdigest
  obtain ⟨hshort, hfinger⟩ := digest_eq_ok hdigest
  exact ⟨hscalar, hpasswordScalar, hshort, hfinger, identityKey_eq hkey⟩

end Hashed

/-! ## §3  Reading it back -/

theorem utf8_inj {s t : PyStr} (hs : PyStr.Scalar s) (ht : PyStr.Scalar t)
    (h : utf8 s = utf8 t) : s = t :=
  PyStr.encode_inj (PyStr.encode_eq_some.mpr ⟨hs, rfl⟩)
    (PyStr.encode_eq_some.mpr ⟨ht, h⟩)

theorem subjectKindValue_inj {kind kind' : SubjectKind}
    (h : PyStr.lit (subjectKindValue kind) = PyStr.lit (subjectKindValue kind')) :
    kind = kind' := by
  cases kind <;> cases kind' <;> first | rfl | exact absurd h (by decide)

theorem message_inj {parts parts' : List Bytes}
    (hshort : ∀ part ∈ parts, part.length < 2 ^ 32)
    (hshort' : ∀ part ∈ parts', part.length < 2 ^ 32) :
    message parts = message parts' ↔ parts = parts' :=
  ⟨flatten_frame_inj hshort hshort', fun h => h ▸ rfl⟩

theorem texts_inj {x x' : FindingIdentity} (h : x.texts = x'.texts)
    (hpassword : x.password = x'.password) : x = x' := by
  obtain ⟨hkind, hvalue, hname, hdate, hemail, husername, hphone, -⟩ :
      _ = _ ∧ _ = _ ∧ _ = _ ∧ _ = _ ∧ _ = _ ∧ _ = _ ∧ _ = _ ∧ _ := by
    simpa only [FindingIdentity.texts, List.cons.injEq] using h
  cases x
  cases x'
  cases subjectKindValue_inj hkind
  cases Date.isoformat_inj hdate
  cases hvalue
  cases hname
  cases hemail
  cases husername
  cases hphone
  cases hpassword
  rfl

section Law

variable {env : Env} {x x' : FindingIdentity} {draft draft' : FindingDraft}

theorem passwordHash_none (h : x.password = none) :
    x.passwordHash env = zeroPasswordHash := by
  unfold FindingIdentity.passwordHash
  rw [h]
  rfl

theorem passwordHash_some {password : PyStr}
    (hlength : ∀ m, (env.sha256 m).length = 32) (h : x.password = some password) :
    x.passwordHash env = env.sha256 (utf8 password) := by
  unfold FindingIdentity.passwordHash
  rw [h, Option.map_some]
  refine if_neg fun hempty => ?_
  have hzero := hlength (utf8 password)
  rw [List.isEmpty_iff.mp hempty] at hzero
  cases hzero

/-- No digest is the one that stands for no password. -/
theorem passwordHash_inj (hlength : ∀ m, (env.sha256 m).length = 32)
    (hzero : ∀ m, env.sha256 m ≠ zeroPasswordHash)
    (hx : Hashed env x draft) (hx' : Hashed env x' draft')
    (hcollision : Set.InjOn env.sha256 (x.messages env ∪ x'.messages env))
    (h : x.passwordHash env = x'.passwordHash env) : x.password = x'.password := by
  cases hp : x.password with
  | none =>
      rw [passwordHash_none hp] at h
      cases hp' : x'.password with
      | none => rfl
      | some password' =>
          rw [passwordHash_some hlength hp'] at h
          exact absurd h.symm (hzero _)
  | some password =>
      rw [passwordHash_some hlength hp] at h
      cases hp' : x'.password with
      | none =>
          rw [passwordHash_none hp'] at h
          exact absurd h (hzero _)
      | some password' =>
          rw [passwordHash_some hlength hp'] at h
          have hmessage := hcollision (.inl (.inr (.inr ⟨password, hp, rfl⟩)))
            (.inr (.inr (.inr ⟨password', hp', rfl⟩))) h
          rw [utf8_inj (hx.passwordScalar password hp)
            (hx'.passwordScalar password' hp') hmessage]

theorem map_utf8_inj {texts texts' : List PyStr}
    (h : ∀ s ∈ texts, PyStr.Scalar s) (h' : ∀ s ∈ texts', PyStr.Scalar s)
    (hmap : texts.map utf8 = texts'.map utf8) : texts = texts' :=
  map_inj_on (fun _ _ => utf8_inj) h h' hmap

theorem fingerprintMessage_inj (hx : Hashed env x draft)
    (hx' : Hashed env x' draft')
    (h : x.fingerprintMessage env = x'.fingerprintMessage env) :
    x.texts = x'.texts ∧ x.passwordHash env = x'.passwordHash env := by
  have hparts := (message_inj hx.short hx'.short).mp h
  obtain ⟨htexts, hhash⟩ := List.append_inj' hparts rfl
  exact ⟨map_utf8_inj hx.scalar hx'.scalar htexts, List.singleton_inj.mp hhash⟩

theorem mem_texts_of_owner {s : PyStr} (h : s ∈ [x.email, x.username, x.phone]) :
    s ∈ x.texts :=
  List.mem_of_mem_drop (i := 4) h

theorem ownerMessage_inj (hx : Hashed env x draft) (hx' : Hashed env x' draft')
    (h : x.ownerMessage = x'.ownerMessage) : x.owner = x'.owner := by
  have hparts : [x.email, x.username, x.phone].map utf8 =
      [x'.email, x'.username, x'.phone].map utf8 := by
    refine (message_inj ?_ ?_).mp h
    · intro part hpart
      obtain ⟨s, hs, rfl⟩ := List.mem_map.mp hpart
      exact hx.short _ (List.mem_append_left _
        (List.mem_map_of_mem (mem_texts_of_owner hs)))
    · intro part hpart
      obtain ⟨s, hs, rfl⟩ := List.mem_map.mp hpart
      exact hx'.short _ (List.mem_append_left _
        (List.mem_map_of_mem (mem_texts_of_owner hs)))
  have howner := map_utf8_inj (fun s hs => hx.scalar s (mem_texts_of_owner hs))
    (fun s hs => hx'.scalar s (mem_texts_of_owner hs)) hparts
  simp only [List.cons.injEq, and_true] at howner
  obtain ⟨hemail, husername, hphone⟩ := howner
  rw [FindingIdentity.owner, hemail, husername, hphone]
  rfl

/-! ## §4  The law -/

theorem fingerprint_iff (hlength : ∀ m, (env.sha256 m).length = 32)
    (hzero : ∀ m, env.sha256 m ≠ zeroPasswordHash)
    (hx : Hashed env x draft) (hx' : Hashed env x' draft')
    (hcollision : Set.InjOn env.sha256 (x.messages env ∪ x'.messages env)) :
    draft.fingerprint = draft'.fingerprint ↔ x = x' := by
  rw [hx.fingerprint, hx'.fingerprint]
  constructor
  · intro h
    have hmessage := hcollision (.inl (.inl rfl)) (.inr (.inl rfl)) h
    obtain ⟨htexts, hhash⟩ := fingerprintMessage_inj hx hx' hmessage
    exact texts_inj htexts
      (passwordHash_inj hlength hzero hx hx' hcollision hhash)
  · rintro rfl
    rfl

theorem identityKey_none (hx : Hashed env x draft) :
    draft.identityKey = none ↔ x.owner = ([], [], []) := by
  rw [hx.identityKey, ite_eq_left_iff]
  exact ⟨fun h => by_contra fun hne => Option.some_ne_none _ (h hne),
    fun h hne => absurd h hne⟩

theorem identityKey_iff (hx : Hashed env x draft) (hx' : Hashed env x' draft')
    (hcollision : Set.InjOn env.sha256 (x.messages env ∪ x'.messages env)) :
    draft.identityKey = draft'.identityKey ↔ x.owner = x'.owner := by
  constructor
  · intro h
    by_cases hempty : x.owner = ([], [], [])
    · rw [hempty]
      exact ((identityKey_none hx').mp
        (h ▸ (identityKey_none hx).mpr hempty)).symm
    · have hempty' : x'.owner ≠ ([], [], []) := fun h' =>
        hempty ((identityKey_none hx).mp
          (h.trans ((identityKey_none hx').mpr h')))
      rw [hx.identityKey, hx'.identityKey, if_neg hempty, if_neg hempty'] at h
      exact ownerMessage_inj hx hx' (hcollision (.inl (.inr (.inl rfl)))
        (.inr (.inr (.inl rfl))) (Option.some.inj h))
  · intro h
    have howner : x.ownerMessage = x'.ownerMessage := by
      simp only [FindingIdentity.owner, Prod.mk.injEq] at h
      obtain ⟨hemail, husername, hphone⟩ := h
      rw [FindingIdentity.ownerMessage, hemail, husername, hphone]
      rfl
    rw [hx.identityKey, hx'.identityKey, h, howner]

end Law

/-- Two leaks are one finding exactly when nothing that identifies them
differs, and one person's exactly when nothing in the owner differs. -/
theorem finding_keys {env : Env} {subject subject' : Subject}
    {source source' : SourceIdentity} {record record' : LeakRecord}
    {draws draws' : RecordDraws} {sourceId sourceId' : Uuid}
    {seenAt seenAt' : Timestamp} {draft draft' : FindingDraft}
    {x x' : FindingIdentity} (hlength : ∀ m, (env.sha256 m).length = 32)
    (hzero : ∀ m, env.sha256 m ≠ zeroPasswordHash)
    (hx : identify env.unicode subject source record = .ok x)
    (hx' : identify env.unicode subject' source' record' = .ok x')
    (h : buildFindingDraft env subject sourceId source record draws seenAt =
      .ok draft)
    (h' : buildFindingDraft env subject' sourceId' source' record' draws'
      seenAt' = .ok draft')
    (hcollision : Set.InjOn env.sha256 (x.messages env ∪ x'.messages env)) :
    (draft.fingerprint = draft'.fingerprint ↔ x = x') ∧
      (draft.identityKey = draft'.identityKey ↔ x.owner = x'.owner) ∧
      (draft.identityKey = none ↔ x.owner = ([], [], [])) := by
  have hhashed := hashed_of_draft hx h
  have hhashed' := hashed_of_draft hx' h'
  exact ⟨fingerprint_iff hlength hzero hhashed hhashed' hcollision,
    identityKey_iff hhashed hhashed' hcollision, identityKey_none hhashed⟩

/-- A leak of two names and of no password. -/
def nameLeak (username phone : Option PyStr) : LeakRecord :=
  ⟨none, username, phone, none, none, [],
    ⟨some (PyStr.lit "Canva"), some (PyStr.lit "2019-05-24"), none, none, none⟩,
    []⟩

def ownerText (username phone : String) : Bytes :=
  framedText "" ++ framedText username ++ framedText phone

def leakText (username phone : String) : Bytes :=
  framedText "email" ++ framedText "bob@x.org" ++ framedText "canva" ++
    framedText "2019-05-24" ++ ownerText username phone ++
    [0, 0, 0, 32] ++ zeroPasswordHash

/-- SHA-256 of what a name hashes to as a username and as a phone. -/
def shiftedDigests : List (Bytes × Bytes) :=
  [(ownerText "bob" "", digestOf
      0x2d2d7242ec94ff171a07b49052ed868c6fd537cfe5db325d6ed0dbf82796c557),
    (ownerText "" "bob", digestOf
      0x513163c22453063efd5484cd636c616dc0ef20e82efc01a2e66decbc817019a3),
    (leakText "bob" "", digestOf
      0x86731d03d700e1c6fc4ef1e02f10e5030f8f2110d613425cebf521da2a769f93),
    (leakText "" "bob", digestOf
      0xb18d176c01a4b4a76dceb89b1c82b05dd85011828e5fb9523dafb6d8a477d180)]

/-- Everything else has the digest of the empty text. -/
def shiftedSha256 (b : Bytes) : Bytes :=
  ((shiftedDigests.find? fun x => x.1 == b).map Prod.snd).getD (digestOf
    0xe3b0c44298fc1c149afbf4c8996fb92427ae41e4649b934ca495991b7852b855)

def shiftedEnv : Env := { sampleEnv with sha256 := shiftedSha256 }

def shiftedIdentity (username phone : PyStr) : FindingIdentity :=
  ⟨.email, PyStr.lit "bob@x.org", PyStr.lit "canva", ⟨2019, 5, 24, by decide⟩,
    [], username, phone, none⟩

theorem shifted_digest (m : Bytes) :
    (shiftedSha256 m).length = 32 ∧ shiftedSha256 m ≠ zeroPasswordHash := by
  unfold shiftedSha256
  cases h : shiftedDigests.find? fun x => x.1 == m with
  | none => exact ⟨rfl, by decide⟩
  | some x =>
      have hall : ∀ y ∈ shiftedDigests,
          y.2.length = 32 ∧ y.2 ≠ zeroPasswordHash := by decide
      exact hall x (List.mem_of_find?_eq_some h)

theorem shifted_messages {m : Bytes} (h : m ∈
      (shiftedIdentity (PyStr.lit "bob") []).messages shiftedEnv ∪
        (shiftedIdentity [] (PyStr.lit "bob")).messages shiftedEnv) :
    m ∈ shiftedDigests.map Prod.fst := by
  rcases h with (rfl | rfl | ⟨_, hp, -⟩) | (rfl | rfl | ⟨_, hp, -⟩)
  · decide
  · decide
  · cases hp
  · decide
  · decide
  · cases hp

theorem shifted_injOn : Set.InjOn shiftedEnv.sha256
    ((shiftedIdentity (PyStr.lit "bob") []).messages shiftedEnv ∪
      (shiftedIdentity [] (PyStr.lit "bob")).messages shiftedEnv) := by
  intro m hm m' hm' h
  have hall : ∀ m ∈ shiftedDigests.map Prod.fst,
      ∀ m' ∈ shiftedDigests.map Prod.fst,
        shiftedSha256 m = shiftedSha256 m' → m = m' := by decide
  exact hall m (shifted_messages hm) m' (shifted_messages hm') h

def nameIdentity (record : LeakRecord) : Except String FindingIdentity :=
  identify shiftedEnv.unicode sampleSubject
    (normalizeSource asciiData record.source) record

def nameDraft (record : LeakRecord) (i : Uuid) : Except IngestError FindingDraft :=
  buildFindingDraft shiftedEnv sampleSubject 1
    (normalizeSource asciiData record.source) record (sampleDraws i) 0

/-- A name that moves from the username to the phone is another finding, of
another person. -/
theorem shifted_name_told_apart : ∃ draft draft',
    nameDraft (nameLeak (some (PyStr.lit "bob")) none) 6 = .ok draft ∧
    nameDraft (nameLeak none (some (PyStr.lit "bob"))) 7 = .ok draft' ∧
    draft.fingerprint ≠ draft'.fingerprint ∧
    draft.identityKey ≠ draft'.identityKey ∧ draft.identityKey ≠ none := by
  have hx : nameIdentity (nameLeak (some (PyStr.lit "bob")) none) =
      .ok (shiftedIdentity (PyStr.lit "bob") []) := rfl
  have hx' : nameIdentity (nameLeak none (some (PyStr.lit "bob"))) =
      .ok (shiftedIdentity [] (PyStr.lit "bob")) := rfl
  obtain ⟨draft, h⟩ : ∃ draft,
      nameDraft (nameLeak (some (PyStr.lit "bob")) none) 6 = .ok draft :=
    ⟨_, rfl⟩
  obtain ⟨draft', h'⟩ : ∃ draft',
      nameDraft (nameLeak none (some (PyStr.lit "bob"))) 7 = .ok draft' :=
    ⟨_, rfl⟩
  obtain ⟨hfinger, hkey, hnone⟩ := finding_keys
    (fun m => (shifted_digest m).1) (fun m => (shifted_digest m).2) hx hx' h h'
    shifted_injOn
  exact ⟨draft, draft', h, h', mt hfinger.mp (by decide),
    mt hkey.mp (by decide), mt hnone.mp (by decide)⟩

end LeakcheckHub.Findings
