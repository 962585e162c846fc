import LeakcheckHub.Findings.Drafts
import LeakcheckHub.Findings.Remediation
import LeakcheckHub.Findings.Retention
import Mathlib.Data.List.Nodup

/-!
# The findings store

`breach_sources`, `findings` and `finding_events` with their constraints as
part of the type, and the statements of `SQLAlchemyIngestRepository`, of
`app/remediation.py` and of `app/retention.py` on them. A statement whose rows
would break a constraint is an error.

§1 rows and constraints · §2 statements · §3 updates that keep constraints.
-/

set_option linter.unusedSectionVars false

namespace LeakcheckHub.Findings

open Foundation

/-! ## §1  Rows and constraints -/

structure BreachSource where
  id : Uuid
  name : PyStr
  nameNorm : PyStr
  breachDate : Option Date
  breachDateNorm : Date
  unverified : Option Bool
  passwordless : Option Bool
  compilation : Option Bool
  extra : Json

structure StoreRows where
  sources : List BreachSource
  findings : List Finding
  events : List FindingEvent

/-- `uq_breach_sources_identity`. -/
def BreachSource.identity (b : BreachSource) : PyStr × Date :=
  (b.nameNorm, b.breachDateNorm)

def lengthIs (n : ℕ) (b : Option Bytes) : Bool :=
  b.all fun b => b.length == n

/-- The check constraints of `findings`. -/
def checked (f : Finding) : Bool :=
  f.fingerprint.length == 32 && lengthIs 32 f.identityKey &&
    lengthIs 32 f.passwordSha256 && lengthIs 12 f.passwordNonce

structure Intact (rows : StoreRows) : Prop where
  sourceIds : (rows.sources.map BreachSource.id).Nodup
  sourceIdentities : (rows.sources.map BreachSource.identity).Nodup
  findingIds : (rows.findings.map Finding.id).Nodup
  fingerprints : (rows.findings.map Finding.fingerprint).Nodup
  eventIds : (rows.events.map FindingEvent.id).Nodup
  checks : rows.findings.all checked = true
  findingSource : (rows.findings.all fun f =>
    decide (f.sourceId ∈ rows.sources.map BreachSource.id)) = true
  supersededBy : (rows.findings.all fun f => f.supersededById.all fun i =>
    decide (i ∈ rows.findings.map Finding.id)) = true
  eventFinding : (rows.events.all fun e =>
    decide (e.findingId ∈ rows.findings.map Finding.id)) = true

instance (rows : StoreRows) : Decidable (Intact rows) :=
  decidable_of_iff (_ ∧ _ ∧ _ ∧ _ ∧ _ ∧ _ ∧ _ ∧ _ ∧ _)
    ⟨fun ⟨h₁, h₂, h₃, h₄, h₅, h₆, h₇, h₈, h₉⟩ =>
      ⟨h₁, h₂, h₃, h₄, h₅, h₆, h₇, h₈, h₉⟩,
    fun h => ⟨h.sourceIds, h.sourceIdentities, h.findingIds, h.fingerprints,
      h.eventIds, h.checks, h.findingSource, h.supersededBy, h.eventFinding⟩⟩

structure FindingStore extends StoreRows where
  intact : Intact toStoreRows

def FindingStore.empty : FindingStore := ⟨⟨[], [], []⟩, by decide⟩

/-- The outcome of a statement that leaves these rows. -/
def FindingStore.ofRows (rows : StoreRows) :
    Except IngestError FindingStore :=
  if h : Intact rows then .ok ⟨rows, h⟩
  else .error (.database .integrityViolation)

/-! ## §2  Statements -/

/-- A column value that the database may reject. -/
def column {α : Type} (e : DbError) : Option α → Except IngestError α
  | none => .error (.database e)
  | some a => .ok a

def varcharColumn (n : ℕ) (s : PyStr) : Except IngestError PyStr :=
  column .badText (s.storeVarchar n)

/-- A nullable column. -/
def nullable {α β : Type} (store : α → Except IngestError β) :
    Option α → Except IngestError (Option β)
  | none => .ok none
  | some a => do
      let b ← store a
      .ok (some b)

def integerColumn (n : ℕ) : Except IngestError ℕ :=
  column .badInteger (if n < 2 ^ 31 then some n else none)

def jsonbColumn (env : Env) (value : Json) : Except IngestError Json :=
  column .badJson (env.jsonb value)

theorem column_eq_ok {α : Type} {e : DbError} {o : Option α} {a : α} :
    column e o = .ok a ↔ o = some a := by
  cases o with
  | none => exact ⟨fun h => (nomatch h), fun h => (nomatch h)⟩
  | some b =>
      unfold column
      rw [Except.ok.injEq, Option.some.injEq]

theorem nullable_some_eq_ok {α β : Type} {store : α → Except IngestError β}
    {a : α} {o : Option β} :
    nullable store (some a) = .ok o ↔ ∃ b, store a = .ok b ∧ o = some b := by
  unfold nullable
  rw [bind_eq_ok]
  constructor
  · rintro ⟨b, hb, h⟩
    cases h
    exact ⟨b, hb, rfl⟩
  · rintro ⟨b, hb, rfl⟩
    exact ⟨b, hb, rfl⟩

namespace FindingStore

/-- The row `resolve_source` proposes. -/
def sourceRow (env : Env) (source : SourceIdentity) (newId : Uuid) :
    Except IngestError BreachSource := do
  let name ← varcharColumn 1024 source.name
  let nameNorm ← varcharColumn 1024 source.nameNorm
  let extra ← jsonbColumn env source.extra
  .ok ⟨newId, name, nameNorm, source.breachDate, source.breachDateNorm,
    source.unverified, source.passwordless, source.compilation, extra⟩

/-- `DO UPDATE SET` of `resolve_source`. -/
def refreshSource (row old : BreachSource) : BreachSource :=
  { old with
    unverified := row.unverified
    passwordless := row.passwordless
    compilation := row.compilation
    extra := row.extra }

def resolveSource (env : Env) (source : SourceIdentity) (newId : Uuid)
    (s : FindingStore) : Except IngestError (FindingStore × Uuid) := do
  let row ← sourceRow env source newId
  match s.sources.find? fun b => decide (b.identity = row.identity) with
  | some old =>
      let s' ← ofRows { s.toStoreRows with
        sources := s.sources.map fun b =>
          if b.id = old.id then refreshSource row b else b }
      .ok (s', old.id)
  | none =>
      let s' ← ofRows { s.toStoreRows with sources := s.sources ++ [row] }
      .ok (s', row.id)

/-- The row `upsert_finding` proposes; its column types and check constraints
come before the conflict. -/
def findingRow (env : Env) (draft : FindingDraft) :
    Except IngestError Finding := do
  let email ← nullable (varcharColumn 320) draft.email
  let username ← nullable (varcharColumn 1024) draft.username
  let phone ← nullable (varcharColumn 64) draft.phone
  let origin ← nullable (varcharColumn 4096) draft.origin
  let mask ← nullable (varcharColumn 1024)
    (draft.password.map ProtectedPassword.mask)
  let length ← nullable integerColumn
    (draft.password.map ProtectedPassword.length)
  let charset ← nullable (varcharColumn 255)
    (draft.password.map ProtectedPassword.charset)
  let fields ← jsonbColumn env draft.fields
  let raw ← jsonbColumn env draft.raw
  let row : Finding :=
    { id := draft.id
      subjectId := draft.subjectId
      sourceId := draft.sourceId
      email := email
      username := username
      phone := phone
      origin := origin
      identityKey := draft.identityKey
      passwordCiphertext := draft.password.map ProtectedPassword.ciphertext
      passwordNonce := draft.password.map ProtectedPassword.nonce
      passwordSha256 := draft.password.map ProtectedPassword.sha256
      passwordMask := mask
      passwordLen := length
      passwordCharset := charset
      fields := fields
      raw := raw
      fingerprint := draft.fingerprint
      severity := .medium
      firstSeenAt := draft.seenAt
      lastSeenAt := draft.seenAt
      remediatedAt := none
      remediatedBy := none
      remediationNote := none
      supersededById := none }
  if checked row then .ok row else .error (.database .integrityViolation)

/-- `DO UPDATE SET` of `upsert_finding`. -/
def refreshFinding (row old : Finding) : Finding :=
  { old with
    lastSeenAt := row.lastSeenAt
    raw := row.raw
    fields := row.fields
    origin := row.origin }

/-- The new store, the row returned and `xmax = 0`. -/
def upsertFinding (env : Env) (draft : FindingDraft) (s : FindingStore) :
    Except IngestError (FindingStore × Finding × Bool) := do
  let row ← findingRow env draft
  match s.findings.find? fun f => decide (f.fingerprint = row.fingerprint) with
  | some old =>
      let s' ← ofRows { s.toStoreRows with
        findings := s.findings.map fun f =>
          if f.id = old.id then refreshFinding row f else f }
      .ok (s', refreshFinding row old, false)
  | none =>
      let s' ← ofRows { s.toStoreRows with findings := s.findings ++ [row] }
      .ok (s', row, true)

/-- The `WHERE` of `find_remediated_predecessor`. -/
def isPredecessor (s : FindingStore) (finding : Finding)
    (source : SourceIdentity) (f : Finding) : Bool :=
  decide (f.subjectId = finding.subjectId) && decide (f.id ≠ finding.id) &&
    decide (f.identityKey = finding.identityKey) && f.remediatedAt.isSome &&
    f.supersededById.isNone &&
    decide (f.passwordSha256 ≠ finding.passwordSha256) &&
    s.sources.any fun b =>
      decide (b.id = f.sourceId) && decide (b.nameNorm = source.nameNorm)

/-- Nobody was remediated later than `f`. -/
def latest (candidates : List Finding) (f : Finding) : Bool :=
  candidates.all fun g => g.remediatedAt.all fun u =>
    f.remediatedAt.any fun v => decide (u ≤ v)

/-- `tie` picks among the rows that `ORDER BY` leaves first. -/
def findRemediatedPredecessor (env : Env) (s : FindingStore)
    (finding : Finding) (source : SourceIdentity) (tie : ℕ) :
    Option Finding :=
  if source.nameNorm = env.unicode.casefold unknownSource ∨
      finding.identityKey = none then none
  else
    let candidates := s.findings.filter (isPredecessor s finding source)
    let first := candidates.filter (latest candidates)
    first[tie % first.length]?

/-- Rewrites the finding of an id. -/
def updateFinding (s : FindingStore) (i : Uuid) (g : Finding → Finding) :
    Except IngestError FindingStore :=
  ofRows { s.toStoreRows with
    findings := s.findings.map fun f => if f.id = i then g f else f }

def linkReleak (previous current : Uuid) (s : FindingStore) :
    Except IngestError FindingStore := do
  let s ← s.updateFinding previous fun f =>
    { f with supersededById := some current }
  s.updateFinding current fun f => { f with severity := .high }

def addEvent (event : FindingEvent) (s : FindingStore) :
    Except IngestError FindingStore :=
  ofRows { s.toStoreRows with events := s.events ++ [event] }

/-- The text a change stores. -/
def changeNote : Change → Option PyStr
  | .remediate _ note _ => note
  | .unremediate .. => none

/-- `remediate_finding` and `unremediate_finding`. -/
def change (c : Change) (findingId eventId : Uuid) (s : FindingStore) :
    Except IngestError FindingStore :=
  match s.findings.find? fun f => decide (f.id = findingId) with
  | none => .error .notFound
  | some f =>
      if c.applies f then do
        let _ ← nullable (fun note => column .badText note.storeText)
          (changeNote c)
        let s ← s.updateFinding findingId fun f => c.apply f
        s.addEvent (c.event eventId findingId)
      else .ok s

/-- The rows a purge's select may return. -/
def eligible (cutoff : Timestamp) (s : FindingStore) : List Finding :=
  s.findings.filter (expired cutoff)

/-- `purge_expired_findings`, for the rows its select returned. -/
def purge (ids : List Uuid) (s : FindingStore) :
    Except IngestError FindingStore :=
  if ids.isEmpty then .ok s
  else do
    let s ← ofRows { s.toStoreRows with
      events := s.events.filter fun e => decide (e.findingId ∉ ids) }
    ofRows { s.toStoreRows with
      findings := s.findings.filter fun f => decide (f.id ∉ ids) }

end FindingStore

/-! ## §3  Updates that keep constraints -/

variable {s s' : FindingStore} {rows : StoreRows} {f g : Finding} {i : Uuid}

theorem ofRows_eq_ok :
    FindingStore.ofRows rows = .ok s ↔ s.toStoreRows = rows := by
  unfold FindingStore.ofRows
  split
  · rename_i h
    rw [Except.ok.injEq]
    constructor
    · rintro rfl
      rfl
    · rintro rfl
      rfl
  · rename_i h
    constructor
    · intro hs
      cases hs
    · rintro rfl
      exact absurd s.intact h

theorem ofRows_spec (h : FindingStore.ofRows rows = .ok s) :
    s.sources = rows.sources ∧ s.findings = rows.findings ∧
      s.events = rows.events := by
  rw [ofRows_eq_ok] at h
  rw [h]
  exact ⟨rfl, rfl, rfl⟩

theorem exists_ofRows (h : Intact rows) :
    ∃ s, FindingStore.ofRows rows = .ok s :=
  ⟨⟨rows, h⟩, dif_pos h⟩

namespace FindingStore

theorem eq_of_id (hf : f ∈ s.findings) (hg : g ∈ s.findings)
    (h : f.id = g.id) : f = g :=
  List.inj_on_of_nodup_map s.intact.findingIds hf hg h

theorem eq_of_fingerprint (hf : f ∈ s.findings) (hg : g ∈ s.findings)
    (h : f.fingerprint = g.fingerprint) : f = g :=
  List.inj_on_of_nodup_map s.intact.fingerprints hf hg h

theorem eventFinding {e : FindingEvent} (he : e ∈ s.events) :
    ∃ f ∈ s.findings, f.id = e.findingId := by
  have h := List.all_eq_true.mp s.intact.eventFinding e he
  exact List.mem_map.mp (of_decide_eq_true h)

theorem supersededBy (hf : f ∈ s.findings)
    (hi : f.supersededById = some i) : ∃ g ∈ s.findings, g.id = i := by
  have h := List.all_eq_true.mp s.intact.supersededBy f hf
  rw [hi, Option.all_some] at h
  exact List.mem_map.mp (of_decide_eq_true h)

end FindingStore

/-- A rewrite of findings that no constraint but the self-reference sees. -/
structure Unconstrained (h : Finding → Finding) : Prop where
  id : ∀ f, (h f).id = f.id
  fingerprint : ∀ f, (h f).fingerprint = f.fingerprint
  sourceId : ∀ f, (h f).sourceId = f.sourceId
  checked : ∀ f, Findings.checked (h f) = Findings.checked f

theorem map_if_id (l : List Finding) (i : Uuid) {h : Finding → Finding}
    (hid : ∀ f, (h f).id = f.id) :
    (l.map fun f => if f.id = i then h f else f).map Finding.id =
      l.map Finding.id := by
  rw [List.map_map]
  refine List.map_congr_left fun f _ => ?_
  change (if f.id = i then h f else f).id = f.id
  split
  · exact hid f
  · rfl

/-- Such a rewrite goes through where the references it writes exist. -/
theorem intact_rewrite {h : Finding → Finding} (hh : Unconstrained h)
    (hsup : ∀ f ∈ s.findings, f.id = i → ∀ j, (h f).supersededById = some j →
      ∃ g ∈ s.findings, g.id = j) :
    Intact { s.toStoreRows with
      findings := s.findings.map fun f => if f.id = i then h f else f } := by
  have hids := map_if_id s.findings i hh.id
  have hmem : ∀ f ∈ s.findings.map (fun f => if f.id = i then h f else f),
      ∃ o ∈ s.findings, f = if o.id = i then h o else o := by
    intro f hf
    obtain ⟨o, ho, rfl⟩ := List.mem_map.mp hf
    exact ⟨o, ho, rfl⟩
  constructor
  case sourceIds =>
    exact s.intact.sourceIds
  case sourceIdentities =>
    exact s.intact.sourceIdentities
  case findingIds =>
    rw [hids]
    exact s.intact.findingIds
  case fingerprints =>
    have hfps : (s.findings.map fun f => if f.id = i then h f else f).map
        Finding.fingerprint = s.findings.map Finding.fingerprint := by
      rw [List.map_map]
      refine List.map_congr_left fun f _ => ?_
      change (if f.id = i then h f else f).fingerprint = f.fingerprint
      split
      · exact hh.fingerprint f
      · rfl
    rw [hfps]
    exact s.intact.fingerprints
  case eventIds =>
    exact s.intact.eventIds
  case checks =>
    rw [List.all_eq_true]
    intro f hf
    obtain ⟨o, ho, rfl⟩ := hmem f hf
    have hold := List.all_eq_true.mp s.intact.checks o ho
    split
    · rw [hh.checked]
      exact hold
    · exact hold
  case findingSource =>
    rw [List.all_eq_true]
    intro f hf
    obtain ⟨o, ho, rfl⟩ := hmem f hf
    have hold := List.all_eq_true.mp s.intact.findingSource o ho
    split
    · rw [hh.sourceId]
      exact hold
    · exact hold
  case supersededBy =>
    rw [List.all_eq_true, hids]
    intro f hf
    obtain ⟨o, ho, rfl⟩ := hmem f hf
    have hold := List.all_eq_true.mp s.intact.supersededBy o ho
    split
    · rename_i hoi
      cases hj : (h o).supersededById with
      | none => rfl
      | some j =>
          obtain ⟨g, hg, rfl⟩ := hsup o ho hoi j hj
          exact decide_eq_true (List.mem_map_of_mem hg)
    · exact hold
  case eventFinding =>
    rw [hids]
    exact s.intact.eventFinding

theorem intact_refreshSource (row : BreachSource) (i : Uuid) :
    Intact { s.toStoreRows with
      sources := s.sources.map fun b =>
        if b.id = i then FindingStore.refreshSource row b else b } := by
  have hids : (s.sources.map fun b =>
      if b.id = i then FindingStore.refreshSource row b else b).map
        BreachSource.id = s.sources.map BreachSource.id := by
    rw [List.map_map]
    refine List.map_congr_left fun b _ => ?_
    change (if b.id = i then FindingStore.refreshSource row b else b).id = b.id
    split <;> rfl
  have hidentities : (s.sources.map fun b =>
      if b.id = i then FindingStore.refreshSource row b else b).map
        BreachSource.identity = s.sources.map BreachSource.identity := by
    rw [List.map_map]
    refine List.map_congr_left fun b _ => ?_
    change (if b.id = i then FindingStore.refreshSource row b
      else b).identity = b.identity
    split <;> rfl
  constructor
  case sourceIds =>
    rw [hids]
    exact s.intact.sourceIds
  case sourceIdentities =>
    rw [hidentities]
    exact s.intact.sourceIdentities
  case findingIds =>
    exact s.intact.findingIds
  case fingerprints =>
    exact s.intact.fingerprints
  case eventIds =>
    exact s.intact.eventIds
  case checks =>
    exact s.intact.checks
  case findingSource =>
    rw [hids]
    exact s.intact.findingSource
  case supersededBy =>
    exact s.intact.supersededBy
  case eventFinding =>
    exact s.intact.eventFinding

theorem intact_addSource {row : BreachSource}
    (hid : row.id ∉ s.sources.map BreachSource.id)
    (hidentity : ∀ b ∈ s.sources, b.identity ≠ row.identity) :
    Intact { s.toStoreRows with sources := s.sources ++ [row] } := by
  constructor
  case sourceIds =>
    rw [List.map_append, List.nodup_append]
    refine ⟨s.intact.sourceIds, List.nodup_singleton _, ?_⟩
    intro i hi j hj heq
    rw [heq, List.mem_singleton.mp hj] at hi
    exact hid hi
  case sourceIdentities =>
    rw [List.map_append, List.nodup_append]
    refine ⟨s.intact.sourceIdentities, List.nodup_singleton _, ?_⟩
    intro i hi j hj heq
    obtain ⟨b, hb, rfl⟩ := List.mem_map.mp hi
    exact hidentity b hb (heq.trans (List.mem_singleton.mp hj))
  case findingIds => exact s.intact.findingIds
  case fingerprints => exact s.intact.fingerprints
  case eventIds => exact s.intact.eventIds
  case checks => exact s.intact.checks
  case findingSource =>
    rw [List.all_eq_true]
    intro f hf
    have hold := List.all_eq_true.mp s.intact.findingSource f hf
    rw [List.map_append]
    exact decide_eq_true (List.mem_append_left _ (of_decide_eq_true hold))
  case supersededBy => exact s.intact.supersededBy
  case eventFinding => exact s.intact.eventFinding

theorem intact_addFinding {row : Finding}
    (hid : row.id ∉ s.findings.map Finding.id)
    (hfingerprint : ∀ f ∈ s.findings, f.fingerprint ≠ row.fingerprint)
    (hchecked : checked row = true)
    (hsource : row.sourceId ∈ s.sources.map BreachSource.id)
    (hsuperseded : row.supersededById = none) :
    Intact { s.toStoreRows with findings := s.findings ++ [row] } := by
  have hids : ∀ i ∈ s.findings.map Finding.id,
      i ∈ (s.findings ++ [row]).map Finding.id := by
    intro i hi
    rw [List.map_append]
    exact List.mem_append_left _ hi
  constructor
  case sourceIds => exact s.intact.sourceIds
  case sourceIdentities => exact s.intact.sourceIdentities
  case findingIds =>
    rw [List.map_append, List.nodup_append]
    refine ⟨s.intact.findingIds, List.nodup_singleton _, ?_⟩
    intro i hi j hj heq
    rw [heq, List.mem_singleton.mp hj] at hi
    exact hid hi
  case fingerprints =>
    rw [List.map_append, List.nodup_append]
    refine ⟨s.intact.fingerprints, List.nodup_singleton _, ?_⟩
    intro i hi j hj heq
    obtain ⟨f, hf, rfl⟩ := List.mem_map.mp hi
    exact hfingerprint f hf (heq.trans (List.mem_singleton.mp hj))
  case eventIds => exact s.intact.eventIds
  case checks =>
    rw [List.all_append, Bool.and_eq_true]
    refine ⟨s.intact.checks, ?_⟩
    rw [List.all_cons, List.all_nil, Bool.and_true]
    exact hchecked
  case findingSource =>
    rw [List.all_append, Bool.and_eq_true]
    refine ⟨s.intact.findingSource, ?_⟩
    rw [List.all_cons, List.all_nil, Bool.and_true]
    exact decide_eq_true hsource
  case supersededBy =>
    rw [List.all_append, Bool.and_eq_true, List.all_eq_true]
    constructor
    · intro f hf
      cases hj : f.supersededById with
      | none => rfl
      | some j =>
          obtain ⟨g, hg, rfl⟩ := FindingStore.supersededBy hf hj
          exact decide_eq_true (hids _ (List.mem_map_of_mem hg))
    · rw [List.all_cons, List.all_nil, Bool.and_true, hsuperseded]
      rfl
  case eventFinding =>
    rw [List.all_eq_true]
    intro e he
    have hold := List.all_eq_true.mp s.intact.eventFinding e he
    exact decide_eq_true (hids _ (of_decide_eq_true hold))

theorem intact_addEvent {event : FindingEvent}
    (hid : event.id ∉ s.events.map FindingEvent.id)
    (hfinding : ∃ f ∈ s.findings, f.id = event.findingId) :
    Intact { s.toStoreRows with events := s.events ++ [event] } := by
  constructor
  case sourceIds => exact s.intact.sourceIds
  case sourceIdentities => exact s.intact.sourceIdentities
  case findingIds => exact s.intact.findingIds
  case fingerprints => exact s.intact.fingerprints
  case eventIds =>
    rw [List.map_append, List.nodup_append]
    refine ⟨s.intact.eventIds, List.nodup_singleton _, ?_⟩
    intro i hi j hj heq
    rw [heq, List.mem_singleton.mp hj] at hi
    exact hid hi
  case checks => exact s.intact.checks
  case findingSource => exact s.intact.findingSource
  case supersededBy => exact s.intact.supersededBy
  case eventFinding =>
    rw [List.all_append, Bool.and_eq_true]
    refine ⟨s.intact.eventFinding, ?_⟩
    obtain ⟨f, hf, hf'⟩ := hfinding
    simp only [List.all_cons, List.all_nil, Bool.and_true]
    exact decide_eq_true (List.mem_map.mpr ⟨f, hf, hf'⟩)

/-- Such a rewrite goes through where it keeps the self-reference. -/
theorem updateFinding_succeeds {h : Finding → Finding} (hh : Unconstrained h)
    (hsup : ∀ f, (h f).supersededById = f.supersededById) :
    ∃ s', s.updateFinding i h = .ok s' := by
  refine exists_ofRows (intact_rewrite hh fun f hf _ j hj => ?_)
  rw [hsup] at hj
  exact FindingStore.supersededBy hf hj

theorem addEvent_succeeds {event : FindingEvent}
    (hid : event.id ∉ s.events.map FindingEvent.id)
    (hfinding : ∃ f ∈ s.findings, f.id = event.findingId) :
    ∃ s', s.addEvent event = .ok s' :=
  exists_ofRows (intact_addEvent hid hfinding)

end LeakcheckHub.Findings
