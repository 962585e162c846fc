import LeakcheckHub.Findings.SelfReference

/-!
# Revealing passwords

A ciphertext is bound to the id of the finding it was made for. Every re-ingest
of a known leak makes a new draft with an id and a ciphertext of its own; what
is stored is still revealed under the id of its row.

§1 what a row holds · §2 what is inserted · §3 runs · §4 the law.
-/

set_option linter.unusedSectionVars false

namespace LeakcheckHub.Findings

open Foundation FindingStore

variable {env : Env} {subject : Subject} {actorId : Option Uuid}
  {seenAt : Timestamp} {s s' : FindingStore} {f f' row : Finding}
  {draft : FindingDraft} {entry : LeakRecord × RecordDraws}
  {sum sum' : IngestSummary}

/-! ## §1  What a row holds -/

/-- All password columns are null. -/
structure WithoutPassword (f : Finding) : Prop where
  ciphertext : f.passwordCiphertext = none
  nonce : f.passwordNonce = none
  sha256 : f.passwordSha256 = none
  mask : f.passwordMask = none
  length : f.passwordLen = none
  charset : f.passwordCharset = none

/-- The columns of a password that is revealed under the finding's own id. -/
structure Reveals (env : Env) (f : Finding) (password : PyStr) : Prop where
  reveal : ∃ ciphertext nonce, f.passwordCiphertext = some ciphertext ∧
    f.passwordNonce = some nonce ∧
    revealPassword env f.id ciphertext nonce = .ok password
  sha256 : ∃ plaintext, password.encode = some plaintext ∧
    f.passwordSha256 = some (env.sha256 plaintext)
  length : f.passwordLen = some password.length
  mask : f.passwordMask = some (maskPassword env password)

/-- One or the other. -/
def Consistent (env : Env) (f : Finding) : Prop :=
  WithoutPassword f ∨ ∃ password, Reveals env f password

/-- The columns that the law reads. -/
structure SamePassword (f f' : Finding) : Prop where
  id : f'.id = f.id
  ciphertext : f'.passwordCiphertext = f.passwordCiphertext
  nonce : f'.passwordNonce = f.passwordNonce
  sha256 : f'.passwordSha256 = f.passwordSha256
  mask : f'.passwordMask = f.passwordMask
  length : f'.passwordLen = f.passwordLen
  charset : f'.passwordCharset = f.passwordCharset

theorem Consistent.keep (h : Consistent env f) (hsame : SamePassword f f') :
    Consistent env f' := by
  rcases h with hnone | ⟨password, hreveals⟩
  · left
    constructor
    · rw [hsame.ciphertext, hnone.ciphertext]
    · rw [hsame.nonce, hnone.nonce]
    · rw [hsame.sha256, hnone.sha256]
    · rw [hsame.mask, hnone.mask]
    · rw [hsame.length, hnone.length]
    · rw [hsame.charset, hnone.charset]
  · right
    refine ⟨password, ?_, ?_, ?_, ?_⟩
    · rw [hsame.id, hsame.ciphertext, hsame.nonce]
      exact hreveals.reveal
    · rw [hsame.sha256]
      exact hreveals.sha256
    · rw [hsame.length, hreveals.length]
    · rw [hsame.mask, hreveals.mask]

/-- An update of a known finding leaves its password alone. -/
theorem refreshFinding_samePassword (row f : Finding) :
    SamePassword f (refreshFinding row f) :=
  ⟨rfl, rfl, rfl, rfl, rfl, rfl, rfl⟩

theorem linked_samePassword (p c : Uuid) (f : Finding) :
    SamePassword f (linked p c f) := by
  unfold linked
  dsimp only
  split <;> split <;> exact ⟨rfl, rfl, rfl, rfl, rfl, rfl, rfl⟩

theorem change_samePassword (c : Change) (f : Finding) :
    SamePassword f (c.apply f) := by
  cases c <;> exact ⟨rfl, rfl, rfl, rfl, rfl, rfl, rfl⟩

/-! ## §2  What is inserted -/

/-- A mask is stored as it is or not at all. -/
theorem mask_stored {password u : PyStr}
    (h : (maskPassword env password).storeVarchar 1024 = some u) :
    u = maskPassword env password := by
  obtain ⟨-, ⟨-, rfl⟩ | ⟨hlong, hspaces, -⟩⟩ := PyStr.storeVarchar_eq_some h
  · rfl
  · have hne : (maskPassword env password).drop 1024 ≠ [] := by
      rw [ne_eq, List.drop_eq_nil_iff]
      omega
    obtain ⟨c, rest, hdrop⟩ := List.exists_cons_of_ne_nil hne
    have hc : c ∈ (maskPassword env password).drop 1024 := by
      rw [hdrop]
      exact List.mem_cons_self
    have hspace := List.all_eq_true.mp hspaces c hc
    exact absurd (beq_iff_eq.mp hspace)
      (space_notMem_mask (List.mem_of_mem_drop hc))

theorem integerColumn_eq {n m : ℕ} (h : integerColumn n = .ok m) :
    n = m := by
  unfold integerColumn at h
  split at h
  · exact Option.some.inj (column_eq_ok.mp h)
  · cases h

/-- A row made of a draft is consistent. -/
theorem Proposes.consistent {sourceId : Uuid} {record : LeakRecord}
    {draws : RecordDraws} (h : Proposes draft row)
    (hdraft : Drafted env subject sourceId record draws seenAt draft) :
    Consistent env row := by
  have hmask := h.mask
  have hlength := h.length
  have hcharset := h.charset
  rcases protectOptional_eq_ok.mp hdraft.password with
    ⟨-, hnone⟩ | ⟨text, q, -, hsome, hq⟩
  · left
    rw [hnone] at hmask hlength hcharset
    refine ⟨?_, ?_, ?_, (Except.ok.inj hmask).symm,
      (Except.ok.inj hlength).symm, (Except.ok.inj hcharset).symm⟩
    · rw [h.ciphertext, hnone, Option.map_none]
    · rw [h.nonce, hnone, Option.map_none]
    · rw [h.sha256, hnone, Option.map_none]
  · right
    rw [hsome, Option.map_some, nullable_some_eq_ok] at hmask hlength
    obtain ⟨m, hm, hmask⟩ := hmask
    obtain ⟨n, hn, hlength⟩ := hlength
    obtain ⟨plaintext, hplaintext, hfields⟩ := protectPassword_eq_ok.mp hq
    refine ⟨text, ?_, ?_, ?_, ?_⟩
    · refine ⟨q.ciphertext, q.nonce, ?_, ?_, ?_⟩
      · rw [h.ciphertext, hsome, Option.map_some]
      · rw [h.nonce, hsome, Option.map_some]
      · rw [h.id, hdraft.id]
        exact reveal_protected hq
    · refine ⟨plaintext, encode_eq_ok.mp hplaintext, ?_⟩
      rw [h.sha256, hsome, hfields, Option.map_some]
    · rw [hlength, ← integerColumn_eq hn, hfields]
    · have hstored : q.mask.storeVarchar 1024 = some m := column_eq_ok.mp hm
      rw [hfields] at hstored
      rw [hmask, mask_stored hstored]

/-! ## §3  Runs -/

/-- **Step lemma** for one record. -/
theorem Ingested.consistent
    (h : Ingested env subject actorId seenAt entry s sum s' sum')
    (hs : ∀ f ∈ s.findings, Consistent env f) :
    ∀ f ∈ s'.findings, Consistent env f := by
  cases h with
  | @known _ _ _ row old _ _ _ _ _ _ hfindings _ =>
      intro f hf
      rw [hfindings] at hf
      obtain ⟨g, hg, rfl⟩ := List.mem_map.mp hf
      split
      · exact (hs g hg).keep (refreshFinding_samePassword row g)
      · exact hs g hg
  | @fresh _ s₂ _ _ row _ _ hdraft hrow _ _ hfindings _ hrecorded =>
      have hinserted : ∀ f ∈ s₂.findings, Consistent env f := by
        intro f hf
        rw [hfindings] at hf
        rcases List.mem_append.mp hf with hf | hf
        · exact hs f hf
        · rw [List.mem_singleton.mp hf]
          exact (findingRow_proposes hrow).consistent
            (buildFindingDraft_spec hdraft)
      cases hrecorded with
      | plain _ hsame _ =>
          rw [hsame]
          exact hinserted
      | reLeak _ _ _ hlinked _ =>
          intro f hf
          rw [hlinked] at hf
          obtain ⟨g, hg, rfl⟩ := List.mem_map.mp hf
          exact (hinserted g hg).keep (linked_samePassword _ _ g)

theorem consistent_step {op : Op} (hs : ∀ f ∈ s.findings, Consistent env f)
    (h : (ledger env).step s op = some s') :
    ∀ f ∈ s'.findings, Consistent env f := by
  cases ledger_step h with
  | rolledBack => exact hs
  | ingest hok =>
      refine foldlM_invariant
        (I := fun acc => ∀ f ∈ acc.1.findings, Consistent env f) hok ?_ hs
      rintro entry - ⟨s₁, sum⟩ ⟨s₂, sum₂⟩ hI hone
      exact (ingestRecord_spec hone).consistent hI
  | change hok =>
      rename_i c findingId eventId
      rcases change_spec hok with rfl | ⟨-, hfindings, -⟩
      · exact hs
      · intro f hf
        rw [hfindings] at hf
        obtain ⟨g, hg, rfl⟩ := List.mem_map.mp hf
        split
        · exact (hs g hg).keep (change_samePassword c g)
        · exact hs g hg
  | purge hok =>
      intro f hf
      rw [purge_spec hok] at hf
      exact hs f (List.mem_filter.mp hf).1

/-- **Run lemma.** -/
theorem consistent_reachable (h : (ledger env).Reachable s) :
    ∀ f ∈ s.findings, Consistent env f := by
  refine h.invariant (fun s₀ hinit f hf => ?_)
    fun _ _ _ hs _ hstep => consistent_step hs hstep
  rw [hinit.1] at hf
  cases hf

/-! ## §4  The law -/

/-- **Reveal.** In every reachable state a finding with a ciphertext is
revealed under its own id, to a password with the stored digest, length and
mask, and one without has no password column at all. -/
theorem reveal (h : (ledger env).Reachable s) (hf : f ∈ s.findings) :
    (∀ ciphertext, f.passwordCiphertext = some ciphertext →
      ∃ nonce password plaintext, f.passwordNonce = some nonce ∧
        revealPassword env f.id ciphertext nonce = .ok password ∧
        password.encode = some plaintext ∧
        f.passwordSha256 = some (env.sha256 plaintext) ∧
        f.passwordLen = some password.length ∧
        f.passwordMask = some (maskPassword env password)) ∧
    (f.passwordCiphertext = none → WithoutPassword f) := by
  rcases consistent_reachable h f hf with hnone | ⟨password, hreveals⟩
  · constructor
    · intro ciphertext hciphertext
      rw [hnone.ciphertext] at hciphertext
      cases hciphertext
    · exact fun _ => hnone
  · obtain ⟨ciphertext, nonce, hciphertext, hnonce, hreveal⟩ := hreveals.reveal
    obtain ⟨plaintext, hplaintext, hsha⟩ := hreveals.sha256
    constructor
    · intro c hc
      rw [hciphertext, Option.some.injEq] at hc
      subst hc
      exact ⟨nonce, password, plaintext, hnonce, hreveal, hplaintext, hsha,
        hreveals.length, hreveals.mask⟩
    · intro hc
      rw [hciphertext] at hc
      cases hc

/-- The draws of a second ingest of the leak that finding 7 is of. -/
def againDraws : RecordDraws :=
  { sampleDraws 8 with nonce := ⟨(List.range' 1 12).map UInt8.ofNat, rfl⟩ }

/-- AES-256-GCM on its password, bound to id 8. -/
def againVector : Aead.TestVector :=
  ⟨sampleKey, againDraws.nonce.bytes, PyStr.asciiLit "hunter2",
    Crypto.findingAad 8,
    [109, 159, 52, 161, 137, 230, 194, 226, 78, 104, 211, 11, 175, 242, 238,
      223, 6, 201, 255, 0, 92, 216, 9]⟩

def againEnv : Env :=
  { sampleEnv with
    aead := Aead.ofVectors [sampleVector, againVector] (by decide) (by decide) }

/-- A leak with a password comes in, is closed and reopened, and comes in
again. -/
def ingestedAgain : List Op :=
  [.ingest sampleSubject [secondLeak] none 10,
    .change (.remediate 5 none 20) 7 401, .change (.unremediate 5 30) 7 402,
    .ingest sampleSubject [(secondLeak.1, againDraws)] none 40]

theorem ingested_again_revealed :
    ∃ s f ciphertext nonce password,
      (ledger againEnv).runUnder (fun _ _ => True) FindingStore.empty
        ingestedAgain = some s ∧
      f ∈ s.findings ∧ f.id = 7 ∧ f.lastSeenAt = 40 ∧
      f.passwordCiphertext = some ciphertext ∧
      f.passwordNonce = some nonce ∧
      revealPassword againEnv 7 ciphertext nonce = .ok password ∧
      f.passwordMask = some (maskPassword againEnv password) := by
  obtain ⟨s, hrun, hrows⟩ := System.exists_of_runUnder
    (p := fun s : FindingStore => s.findings.map
      (fun f => (f.id, f.lastSeenAt, f.passwordCiphertext.isSome)) =
        [(7, 40, true)])
    (show ((ledger againEnv).runUnder (fun _ _ => True) FindingStore.empty
      ingestedAgain).any _ = true by decide)
  have hrow : ((7 : Uuid), (40 : Timestamp), true) ∈ s.findings.map
      (fun f => (f.id, f.lastSeenAt, f.passwordCiphertext.isSome)) :=
    hrows ▸ List.mem_cons_self
  obtain ⟨f, hf, hfields⟩ := List.mem_map.mp hrow
  obtain ⟨hid, hfields⟩ := Prod.mk.inj hfields
  obtain ⟨hseen, hsome⟩ := Prod.mk.inj hfields
  obtain ⟨ciphertext, hciphertext⟩ := Option.isSome_iff_exists.mp hsome
  obtain ⟨nonce, password, -, hnonce, hreveal, -, -, -, hmask⟩ :=
    (reveal (System.reachable_of_runUnder (empty_initial againEnv) hrun)
      hf).1 ciphertext hciphertext
  rw [hid] at hreveal
  exact ⟨s, f, ciphertext, nonce, password, hrun, hf, hid, hseen, hciphertext,
    hnonce, hreveal, hmask⟩

end LeakcheckHub.Findings
