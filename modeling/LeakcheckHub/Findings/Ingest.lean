import LeakcheckHub.Findings.Store
import LeakcheckHub.Foundation.System

/-!
# Ingesting records

`ingest_records` of `app/ingest.py` over the findings store, and the store
under any sequence of ingests, remediations and purges, each a transaction.

§1 the loop · §2 the sources · §3 one record · §4 runs.
-/

set_option linter.unusedSectionVars false

namespace LeakcheckHub.Findings

open Foundation FindingStore

/-! ## §1  The loop -/

/-- The findings by their ids. -/
structure IngestSummary where
  findings : List Uuid
  newCount : ℕ
  reLeakedCount : ℕ
  newFindingIds : List Uuid
deriving DecidableEq, Repr

def IngestSummary.empty : IngestSummary := ⟨[], 0, 0, []⟩

/-- Records, each with the draws its iteration makes. -/
abbrev Batch : Type := List (LeakRecord × RecordDraws)

def discovered (draws : RecordDraws) (findingId : Uuid)
    (actorId : Option Uuid) (seenAt : Timestamp) : FindingEvent :=
  ⟨draws.discoveredId, findingId, .discovered, actorId, seenAt, []⟩

def reLeaked (draws : RecordDraws) (findingId previous : Uuid)
    (actorId : Option Uuid) (seenAt : Timestamp) : FindingEvent :=
  ⟨draws.reLeakedId, findingId, .reLeaked, actorId, seenAt,
    [(PyStr.lit "previous_finding_id", .str previous.str)]⟩

section Loop

variable (env : Env) (subject : Subject) (actorId : Option Uuid)
  (seenAt : Timestamp)

/-- What the loop does for a finding that its upsert inserted. -/
def recordNew (source : SourceIdentity) (draws : RecordDraws)
    (finding : Finding) (s : FindingStore) :
    Except IngestError (FindingStore × ℕ) := do
  let s ← s.addEvent (discovered draws finding.id actorId seenAt)
  match findRemediatedPredecessor env s finding source draws.tie with
  | none => .ok (s, 0)
  | some previous =>
      let s ← s.linkReleak previous.id finding.id
      let s ← s.addEvent
        (reLeaked draws finding.id previous.id actorId seenAt)
      .ok (s, 1)

/-- One iteration. -/
def ingestRecord (acc : FindingStore × IngestSummary)
    (entry : LeakRecord × RecordDraws) :
    Except IngestError (FindingStore × IngestSummary) := do
  let source := normalizeSource env.unicode entry.1.source
  let (s, sourceId) ← acc.1.resolveSource env source entry.2.sourceId
  let draft ←
    buildFindingDraft env subject sourceId source entry.1 entry.2 seenAt
  let (s, finding, isNew) ← s.upsertFinding env draft
  if isNew then
    let (s, reLeaks) ← recordNew env actorId seenAt source entry.2 finding s
    .ok (s, {
      findings := acc.2.findings ++ [finding.id]
      newCount := acc.2.newCount + 1
      reLeakedCount := acc.2.reLeakedCount + reLeaks
      newFindingIds := acc.2.newFindingIds ++ [finding.id] })
  else
    .ok (s, { acc.2 with findings := acc.2.findings ++ [finding.id] })

def ingestRecords (records : Batch) (s : FindingStore) :
    Except IngestError (FindingStore × IngestSummary) :=
  records.foldlM (ingestRecord env subject actorId seenAt) (s, .empty)

end Loop

variable {env : Env} {subject : Subject} {actorId : Option Uuid}
  {seenAt : Timestamp} {s s₁ s' : FindingStore} {source : SourceIdentity}
  {newId sourceId i : Uuid} {draft : FindingDraft} {row finding f : Finding}
  {entry : LeakRecord × RecordDraws} {sum sum' : IngestSummary}

/-! ## §2  The sources -/

/-- Every source keeps its id and identity. -/
def KeepsSources (s s' : FindingStore) : Prop :=
  ∀ b ∈ s.sources, ∃ b' ∈ s'.sources,
    b'.id = b.id ∧ b'.identity = b.identity

theorem KeepsSources.refl (s : FindingStore) : KeepsSources s s :=
  fun b hb => ⟨b, hb, rfl, rfl⟩

theorem KeepsSources.of_eq (h : s'.sources = s.sources) :
    KeepsSources s s' := fun b hb => ⟨b, h ▸ hb, rfl, rfl⟩

theorem KeepsSources.trans {s'' : FindingStore} (h : KeepsSources s s')
    (h' : KeepsSources s' s'') : KeepsSources s s'' := by
  intro b hb
  obtain ⟨b', hb', hid, hident⟩ := h b hb
  obtain ⟨b'', hb'', hid', hident'⟩ := h' b' hb'
  exact ⟨b'', hb'', hid'.trans hid, hident'.trans hident⟩

/-- What `resolve_source` leaves. -/
structure Resolved (env : Env) (source : SourceIdentity) (newId : Uuid)
    (s s₁ : FindingStore) (sourceId : Uuid) : Prop where
  findings : s₁.findings = s.findings
  events : s₁.events = s.events
  keeps : KeepsSources s s₁
  source : ∃ row, sourceRow env source newId = .ok row ∧
    ∃ b ∈ s₁.sources, b.id = sourceId ∧ b.identity = row.identity

theorem resolveSource_spec
    (h : s.resolveSource env source newId = .ok (s₁, sourceId)) :
    Resolved env source newId s s₁ sourceId := by
  obtain ⟨row, hrow, h⟩ := bind_eq_ok.mp h
  split at h
  · rename_i old hfind
    obtain ⟨s₂, hs₂, h⟩ := bind_eq_ok.mp h
    cases h
    obtain ⟨hsources, hfindings, hevents⟩ := ofRows_spec hs₂
    have hmem := List.mem_of_find?_eq_some hfind
    have hident : old.identity = row.identity := by
      simpa using List.find?_some hfind
    have hsources : s₁.sources = s.sources.map fun b =>
        if b.id = old.id then refreshSource row b else b := hsources
    refine ⟨hfindings, hevents, ?_, row, hrow, ?_⟩
    · intro b hb
      refine ⟨_, hsources ▸ List.mem_map_of_mem hb, ?_, ?_⟩
      · split <;> rfl
      · split <;> rfl
    · refine ⟨_, hsources ▸ List.mem_map_of_mem hmem, ?_, ?_⟩
      · rw [if_pos rfl]
        rfl
      · rw [if_pos rfl]
        exact hident
  · obtain ⟨s₂, hs₂, h⟩ := bind_eq_ok.mp h
    cases h
    obtain ⟨hsources, hfindings, hevents⟩ := ofRows_spec hs₂
    refine ⟨hfindings, hevents, ?_, row, hrow, row, ?_, rfl, rfl⟩
    · intro b hb
      exact ⟨b, hsources ▸ List.mem_append_left _ hb, rfl, rfl⟩
    · rw [hsources]
      exact List.mem_append_right _ List.mem_cons_self

/-! ## §3  One record -/

/-- What the proposed row takes from its draft. -/
structure Proposes (draft : FindingDraft) (row : Finding) : Prop where
  id : row.id = draft.id
  subjectId : row.subjectId = draft.subjectId
  sourceId : row.sourceId = draft.sourceId
  identityKey : row.identityKey = draft.identityKey
  ciphertext : row.passwordCiphertext =
    draft.password.map ProtectedPassword.ciphertext
  nonce : row.passwordNonce = draft.password.map ProtectedPassword.nonce
  sha256 : row.passwordSha256 = draft.password.map ProtectedPassword.sha256
  mask : nullable (varcharColumn 1024)
    (draft.password.map ProtectedPassword.mask) = .ok row.passwordMask
  length : nullable integerColumn
    (draft.password.map ProtectedPassword.length) = .ok row.passwordLen
  charset : nullable (varcharColumn 255)
    (draft.password.map ProtectedPassword.charset) = .ok row.passwordCharset
  fingerprint : row.fingerprint = draft.fingerprint
  severity : row.severity = .medium
  firstSeenAt : row.firstSeenAt = draft.seenAt
  lastSeenAt : row.lastSeenAt = draft.seenAt
  supersededById : row.supersededById = none

theorem findingRow_proposes (h : findingRow env draft = .ok row) :
    Proposes draft row := by
  obtain ⟨email, -, h⟩ := bind_eq_ok.mp h
  obtain ⟨username, -, h⟩ := bind_eq_ok.mp h
  obtain ⟨phone, -, h⟩ := bind_eq_ok.mp h
  obtain ⟨origin, -, h⟩ := bind_eq_ok.mp h
  obtain ⟨mask, hmask, h⟩ := bind_eq_ok.mp h
  obtain ⟨length, hlength, h⟩ := bind_eq_ok.mp h
  obtain ⟨charset, hcharset, h⟩ := bind_eq_ok.mp h
  obtain ⟨fields, -, h⟩ := bind_eq_ok.mp h
  obtain ⟨raw, -, h⟩ := bind_eq_ok.mp h
  simp only at h
  split at h
  · cases h
    exact ⟨rfl, rfl, rfl, rfl, rfl, rfl, rfl, hmask, hlength, hcharset, rfl,
      rfl, rfl, rfl, rfl⟩
  · cases h

theorem findingRow_spec (h : findingRow env draft = .ok row) :
    row.id = draft.id ∧ row.fingerprint = draft.fingerprint ∧
      row.supersededById = none ∧ row.lastSeenAt = draft.seenAt :=
  have hrow := findingRow_proposes h
  ⟨hrow.id, hrow.fingerprint, hrow.supersededById, hrow.lastSeenAt⟩

/-- What `upsert_finding` leaves: one row rewritten, or one row more. -/
theorem upsertFinding_spec {isNew : Bool}
    (h : s.upsertFinding env draft = .ok (s', finding, isNew)) :
    ∃ row, findingRow env draft = .ok row ∧ s'.sources = s.sources ∧
      s'.events = s.events ∧
      ((isNew = false ∧ ∃ old ∈ s.findings,
          old.fingerprint = row.fingerprint ∧
          finding = refreshFinding row old ∧
          s'.findings = s.findings.map fun f =>
            if f.id = old.id then refreshFinding row f else f) ∨
        (isNew = true ∧ finding = row ∧
          (∀ f ∈ s.findings, f.fingerprint ≠ row.fingerprint) ∧
          s'.findings = s.findings ++ [row])) := by
  obtain ⟨row, hrow, h⟩ := bind_eq_ok.mp h
  refine ⟨row, hrow, ?_⟩
  split at h
  · rename_i old hfind
    obtain ⟨s₂, hs₂, h⟩ := bind_eq_ok.mp h
    cases h
    obtain ⟨hsources, hfindings, hevents⟩ := ofRows_spec hs₂
    refine ⟨hsources, hevents, .inl ⟨rfl, old,
      List.mem_of_find?_eq_some hfind, ?_, rfl, hfindings⟩⟩
    simpa using List.find?_some hfind
  · rename_i hfind
    obtain ⟨s₂, hs₂, h⟩ := bind_eq_ok.mp h
    cases h
    obtain ⟨hsources, hfindings, hevents⟩ := ofRows_spec hs₂
    refine ⟨hsources, hevents, .inr ⟨rfl, rfl, ?_, hfindings⟩⟩
    intro f hf
    simpa using List.find?_eq_none.mp hfind f hf

theorem updateFinding_spec {g : Finding → Finding}
    (h : s.updateFinding i g = .ok s') :
    s'.sources = s.sources ∧ s'.events = s.events ∧
      s'.findings = s.findings.map fun f => if f.id = i then g f else f := by
  obtain ⟨hsources, hfindings, hevents⟩ := ofRows_spec h
  exact ⟨hsources, hevents, hfindings⟩

theorem addEvent_spec {event : FindingEvent}
    (h : s.addEvent event = .ok s') :
    s'.sources = s.sources ∧ s'.findings = s.findings ∧
      s'.events = s.events ++ [event] :=
  ofRows_spec h

/-- A re-leak link: `previous` points to `current`, which becomes severe. -/
def linked (previous current : Uuid) (f : Finding) : Finding :=
  let f := if f.id = previous then
    { f with supersededById := some current } else f
  if f.id = current then { f with severity := .high } else f

theorem linkReleak_spec {previous current : Uuid}
    (h : s.linkReleak previous current = .ok s') :
    s'.sources = s.sources ∧ s'.events = s.events ∧
      s'.findings = s.findings.map (linked previous current) := by
  obtain ⟨s₁, h₁, h₂⟩ := bind_eq_ok.mp h
  obtain ⟨hs₁, he₁, hf₁⟩ := updateFinding_spec h₁
  obtain ⟨hs₂, he₂, hf₂⟩ := updateFinding_spec h₂
  refine ⟨hs₂.trans hs₁, he₂.trans he₁, ?_⟩
  rw [hf₂, hf₁, List.map_map]
  rfl

/-- The predecessor a new finding supersedes. -/
structure Predecessor (env : Env) (s : FindingStore) (finding : Finding)
    (source : SourceIdentity) (f : Finding) : Prop where
  known : source.nameNorm ≠ env.unicode.casefold unknownSource
  key : finding.identityKey ≠ none
  subjectId : f.subjectId = finding.subjectId
  ne : f.id ≠ finding.id
  identityKey : f.identityKey = finding.identityKey
  remediated : f.remediatedAt.isSome = true
  free : f.supersededById = none
  sha256 : f.passwordSha256 ≠ finding.passwordSha256
  source : ∃ b ∈ s.sources, b.id = f.sourceId ∧ b.nameNorm = source.nameNorm

theorem findRemediatedPredecessor_spec {tie : ℕ} {previous : Finding}
    (h : findRemediatedPredecessor env s finding source tie = some previous) :
    previous ∈ s.findings ∧ Predecessor env s finding source previous := by
  unfold findRemediatedPredecessor at h
  split at h
  · cases h
  · rename_i hasks
    rw [not_or] at hasks
    have hmem := List.mem_of_getElem? h
    obtain ⟨hprevious, hpred⟩ :=
      List.mem_filter.mp (List.mem_filter.mp hmem).1
    simp only [isPredecessor, Bool.and_eq_true, decide_eq_true_eq,
      Option.isNone_iff_eq_none, List.any_eq_true] at hpred
    obtain ⟨⟨⟨⟨⟨⟨hsubject, hne⟩, hkey⟩, hremediated⟩, hfree⟩, hsha⟩,
      hsource⟩ := hpred
    exact ⟨hprevious, hasks.1, hasks.2, hsubject, hne, hkey, hremediated,
      hfree, hsha, hsource⟩

/-- What the loop leaves of a finding it has just inserted. -/
inductive NewlyRecorded (env : Env) (source : SourceIdentity)
    (draws : RecordDraws) (finding : Finding) (actorId : Option Uuid)
    (seenAt : Timestamp) (s s' : FindingStore) : ℕ → Prop
  | plain (hsources : s'.sources = s.sources)
      (hfindings : s'.findings = s.findings)
      (hevents : s'.events =
        s.events ++ [discovered draws finding.id actorId seenAt]) :
      NewlyRecorded env source draws finding actorId seenAt s s' 0
  | reLeak {previous : Finding} (hprevious : previous ∈ s.findings)
      (hpred : Predecessor env s finding source previous)
      (hsources : s'.sources = s.sources)
      (hfindings : s'.findings =
        s.findings.map (linked previous.id finding.id))
      (hevents : s'.events = s.events ++
        [discovered draws finding.id actorId seenAt,
          reLeaked draws finding.id previous.id actorId seenAt]) :
      NewlyRecorded env source draws finding actorId seenAt s s' 1

theorem recordNew_spec {draws : RecordDraws} {reLeaks : ℕ}
    (h : recordNew env actorId seenAt source draws finding s =
      .ok (s', reLeaks)) :
    NewlyRecorded env source draws finding actorId seenAt s s' reLeaks := by
  obtain ⟨s₁, h₁, h⟩ := bind_eq_ok.mp h
  obtain ⟨hs₁, hf₁, he₁⟩ := addEvent_spec h₁
  split at h
  · cases h
    exact .plain hs₁ hf₁ he₁
  · rename_i previous hprevious
    obtain ⟨hmem, hpred⟩ := findRemediatedPredecessor_spec hprevious
    obtain ⟨s₂, h₂, h⟩ := bind_eq_ok.mp h
    obtain ⟨hs₂, he₂, hf₂⟩ := linkReleak_spec h₂
    obtain ⟨s₃, h₃, h⟩ := bind_eq_ok.mp h
    obtain ⟨hs₃, hf₃, he₃⟩ := addEvent_spec h₃
    cases h
    refine .reLeak (hf₁ ▸ hmem) ?_ (hs₃.trans (hs₂.trans hs₁)) ?_ ?_
    · -- the discovery event changes neither findings nor sources
      exact { hpred with source := hs₁ ▸ hpred.source }
    · rw [hf₃, hf₂, hf₁]
    · rw [he₃, he₂, he₁, List.append_assoc]
      rfl

/-- What one iteration leaves. -/
inductive Ingested (env : Env) (subject : Subject) (actorId : Option Uuid)
    (seenAt : Timestamp) (entry : LeakRecord × RecordDraws)
    (s : FindingStore) (sum : IngestSummary) (s' : FindingStore) :
    IngestSummary → Prop
  | known {s₁ : FindingStore} {sourceId : Uuid} {draft : FindingDraft}
      {row old : Finding}
      (hsource : Resolved env (normalizeSource env.unicode entry.1.source)
        entry.2.sourceId s s₁ sourceId)
      (hdraft : buildFindingDraft env subject sourceId
        (normalizeSource env.unicode entry.1.source) entry.1 entry.2 seenAt =
          .ok draft)
      (hrow : findingRow env draft = .ok row) (hold : old ∈ s.findings)
      (hfp : old.fingerprint = row.fingerprint)
      (hsources : s'.sources = s₁.sources)
      (hfindings : s'.findings = s.findings.map fun f =>
        if f.id = old.id then refreshFinding row f else f)
      (hevents : s'.events = s.events) :
      Ingested env subject actorId seenAt entry s sum s'
        { sum with findings := sum.findings ++ [old.id] }
  | fresh {s₁ s₂ : FindingStore} {sourceId : Uuid} {draft : FindingDraft}
      {row : Finding} {reLeaks : ℕ}
      (hsource : Resolved env (normalizeSource env.unicode entry.1.source)
        entry.2.sourceId s s₁ sourceId)
      (hdraft : buildFindingDraft env subject sourceId
        (normalizeSource env.unicode entry.1.source) entry.1 entry.2 seenAt =
          .ok draft)
      (hrow : findingRow env draft = .ok row)
      (hnew : ∀ f ∈ s.findings, f.fingerprint ≠ row.fingerprint)
      (hsources : s₂.sources = s₁.sources)
      (hfindings : s₂.findings = s.findings ++ [row])
      (hevents : s₂.events = s.events)
      (hrecorded : NewlyRecorded env
        (normalizeSource env.unicode entry.1.source) entry.2 row actorId
        seenAt s₂ s' reLeaks) :
      Ingested env subject actorId seenAt entry s sum s'
        ⟨sum.findings ++ [row.id], sum.newCount + 1,
          sum.reLeakedCount + reLeaks, sum.newFindingIds ++ [row.id]⟩

theorem ingestRecord_spec
    (h : ingestRecord env subject actorId seenAt (s, sum) entry =
      .ok (s', sum')) :
    Ingested env subject actorId seenAt entry s sum s' sum' := by
  obtain ⟨⟨s₁, sourceId⟩, h₁, h⟩ := bind_eq_ok.mp h
  obtain ⟨draft, hdraft, h⟩ := bind_eq_ok.mp h
  obtain ⟨⟨s₂, finding, isNew⟩, h₂, h⟩ := bind_eq_ok.mp h
  have hsource := resolveSource_spec h₁
  obtain ⟨row, hrow, hsources, hevents, hcase⟩ := upsertFinding_spec h₂
  rw [hsource.events] at hevents
  rcases hcase with ⟨rfl, old, hold, hfp, rfl, hfindings⟩ |
    ⟨rfl, rfl, hnew, hfindings⟩
  · cases h
    rw [hsource.findings] at hold hfindings
    show Ingested env subject actorId seenAt entry s sum s'
      { sum with findings := sum.findings ++ [old.id] }
    exact .known hsource hdraft hrow hold hfp hsources hfindings hevents
  · obtain ⟨⟨s₃, reLeaks⟩, h₃, h⟩ := bind_eq_ok.mp h
    cases h
    rw [hsource.findings] at hnew hfindings
    exact .fresh hsource hdraft hrow hnew hsources hfindings hevents
      (recordNew_spec h₃)

/-! ## §4  Runs -/

inductive Op where
  | ingest (subject : Subject) (records : Batch) (actorId : Option Uuid)
      (now : Timestamp)
  | change (c : Change) (findingId eventId : Uuid)
  | purge (policy : RetentionPolicy) (now : Timestamp) (limit : ℕ)
      (ids : List Uuid)

/-- `ids` is what the select of a purge may return. -/
def Selectable (s : FindingStore) (cutoff : Timestamp) (limit : ℕ)
    (ids : List Uuid) : Prop :=
  chosen (s.findings.map fun f => (f.id, f)) cutoff limit ids = true

instance (s : FindingStore) (cutoff : Timestamp) (limit : ℕ)
    (ids : List Uuid) : Decidable (Selectable s cutoff limit ids) :=
  inferInstanceAs (Decidable (_ = true))

/-- `purge_expired_findings`; `none` where the database would not select these
ids. -/
def purgeExpiredFindings (policy : RetentionPolicy) (now : Timestamp)
    (limit : ℕ) (ids : List Uuid) (s : FindingStore) :
    Option (Except IngestError FindingStore) :=
  if policy.deletesAnything then
    match policy.cutoff now with
    | none => some (.error .noCutoff)
    | some cutoff =>
        if Selectable s cutoff limit ids then some (s.purge ids) else none
  else some (.ok s)

/-- The outcome of an operation. -/
def Op.outcome (env : Env) (s : FindingStore) :
    Op → Option (Except IngestError FindingStore)
  | .ingest subject records actorId now =>
      some ((ingestRecords env subject actorId now records s).map Prod.fst)
  | .change c findingId eventId => some (s.change c findingId eventId)
  | .purge policy now limit ids => purgeExpiredFindings policy now limit ids s

/-- A failed operation is rolled back. -/
def ledger (env : Env) : System FindingStore Op where
  init s := s.findings = [] ∧ s.events = []
  step s op := (op.outcome env s).map fun
    | .ok s' => s'
    | .error _ => s

def Op.isPurge : Op → Bool
  | .purge .. => true
  | _ => false

theorem change_apply_unconstrained (c : Change) :
    Unconstrained c.apply := by
  cases c <;> exact ⟨fun _ => rfl, fun _ => rfl, fun _ => rfl, fun _ => rfl⟩

theorem change_spec {c : Change} {findingId eventId : Uuid}
    (h : s.change c findingId eventId = .ok s') :
    s' = s ∨ s'.sources = s.sources ∧
      (s'.findings = s.findings.map fun f =>
        if f.id = findingId then c.apply f else f) ∧
      s'.events = s.events ++ [c.event eventId findingId] := by
  unfold FindingStore.change at h
  split at h
  · cases h
  · split at h
    · obtain ⟨note, -, h⟩ := bind_eq_ok.mp h
      obtain ⟨s₁, h₁, h₂⟩ := bind_eq_ok.mp h
      obtain ⟨hs₁, he₁, hf₁⟩ := updateFinding_spec h₁
      obtain ⟨hs₂, hf₂, he₂⟩ := addEvent_spec h₂
      exact .inr ⟨hs₂.trans hs₁, hf₂.trans hf₁, by rw [he₂, he₁]⟩
    · cases h
      exact .inl rfl

/-- What a step of a run does. -/
inductive LedgerStep (env : Env) (s : FindingStore) :
    Op → FindingStore → Prop
  | rolledBack {op} : LedgerStep env s op s
  | ingest {subject records actorId now s' summary}
      (h : ingestRecords env subject actorId now records s =
        .ok (s', summary)) :
      LedgerStep env s (.ingest subject records actorId now) s'
  | change {c findingId eventId s'}
      (h : s.change c findingId eventId = .ok s') :
      LedgerStep env s (.change c findingId eventId) s'
  | purge {policy now limit ids s'} (h : s.purge ids = .ok s') :
      LedgerStep env s (.purge policy now limit ids) s'

theorem ledgerStep_of_ok {op : Op}
    (h : op.outcome env s = some (.ok s')) : LedgerStep env s op s' := by
  cases op with
  | ingest subject records actorId now =>
      simp only [Op.outcome, Option.some.injEq] at h
      cases hr : ingestRecords env subject actorId now records s with
      | error e =>
          rw [hr] at h
          cases h
      | ok out =>
          obtain ⟨s₁, summary⟩ := out
          rw [hr] at h
          cases h
          exact .ingest hr
  | change c findingId eventId =>
      simp only [Op.outcome, Option.some.injEq] at h
      exact .change h
  | purge policy now limit ids =>
      simp only [Op.outcome, purgeExpiredFindings] at h
      split at h
      · split at h
        · cases h
        · split at h
          · rw [Option.some.injEq] at h
            exact .purge h
          · cases h
      · cases h
        exact .rolledBack

theorem ledger_step {op : Op} (h : (ledger env).step s op = some s') :
    LedgerStep env s op s' := by
  obtain ⟨out, hout, hs⟩ := Option.map_eq_some_iff.mp h
  cases out with
  | error e =>
      cases hs
      exact .rolledBack
  | ok s₁ =>
      cases hs
      exact ledgerStep_of_ok hout

/-! ## §5  A sample environment -/

/-- A digest in hexadecimal. -/
def digestOf (n : ℕ) : Bytes :=
  (List.range 32).map fun i => UInt8.ofNat (n / 256 ^ (31 - i) % 256)

def framedText (s : String) : Bytes :=
  [0, 0, 0, UInt8.ofNat s.length] ++ PyStr.asciiLit s

/-- SHA-256 of what the sample records hash. -/
def sampleDigests : List (Bytes × Bytes) :=
  let password := digestOf
    0xf52fbd32b2b3b86ff88ef6c490628285f482af15ddcb29541f94bcf526a3f6c7
  let fingerprinted := fun date hash =>
    framedText "email" ++ framedText "bob@x.org" ++ framedText "canva" ++
      framedText date ++ framedText "bob@x.org" ++ framedText "" ++
      framedText "" ++ [0, 0, 0, 32] ++ hash
  [(framedText "bob@x.org" ++ framedText "" ++ framedText "", digestOf
      0x31cee32d39f9a8d8ce3d68e7125d9b83e4254fb215d80f0233d221a2ce790d6b),
    (PyStr.asciiLit "hunter2", password),
    (fingerprinted "2019-05-24" zeroPasswordHash, digestOf
      0xe4a4cf39f04281deb03596e62e2e09dbe5784075d6a95053e2a9fd703fd7b880),
    (fingerprinted "2026-01-02" password, digestOf
      0x0ed25e6b5a379138a321a057bc2a338e65ee8c7cb03aa640e9d97bee72194607)]

def sampleKey : Bytes := (List.range 32).map UInt8.ofNat

def sampleNonce : PasswordNonce := ⟨(List.range 12).map UInt8.ofNat, rfl⟩

/-- AES-256-GCM on the password of finding 7. -/
def sampleVector : Aead.TestVector :=
  ⟨sampleKey, sampleNonce.bytes, PyStr.asciiLit "hunter2",
    Crypto.findingAad 7,
    [47, 119, 184, 111, 160, 151, 240, 142, 111, 39, 146, 35, 103, 102, 76,
      201, 175, 231, 252, 129, 122, 205, 184]⟩

def sampleEnv : Env where
  unicode := asciiData
  aead := Aead.ofVectors [sampleVector] (by decide) (by decide)
  dataKey := sampleKey
  sha256 b := ((sampleDigests.find? fun x => x.1 == b).map Prod.snd).getD
    zeroPasswordHash
  jsonb := some

def sampleSubject : Subject := ⟨50, .email, PyStr.lit "bob@x.org"⟩

def sampleRecord (password : Option PyStr) (breachDate : String) :
    LeakRecord :=
  ⟨some (PyStr.lit "bob@x.org"), none, none, none, password, [],
    ⟨some (PyStr.lit "Canva"), some (PyStr.lit breachDate), none, none, none⟩,
    []⟩

/-- The draws of the record that becomes finding `i`. -/
def sampleDraws (i : Uuid) : RecordDraws :=
  ⟨i + 100, i, sampleNonce, i + 200, i + 300, 0⟩

/-- The same leak without and, later, with a password. -/
def firstLeak : LeakRecord × RecordDraws :=
  (sampleRecord none "2019-05-24", sampleDraws 6)

def secondLeak : LeakRecord × RecordDraws :=
  (sampleRecord (some (PyStr.lit "hunter2")) "2026-01-02", sampleDraws 7)

theorem empty_initial (env : Env) : (ledger env).init FindingStore.empty :=
  ⟨rfl, rfl⟩

end LeakcheckHub.Findings
