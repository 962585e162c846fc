import LeakcheckHub.Findings.Discovery
import LeakcheckHub.Outbox.Fanout
import LeakcheckHub.Scans.Admission

/-!
# Executing a scan

`execute_scan` of `app/scan_runtime.py` and `run_scan` of `app/scans.py`. The
vendor query, every call of the repository and every statement of the fan-out
may raise; `execute_scan` commits once before and once after, and the fan-out
runs in a savepoint.

§1 the repository with faults · §2 `run_scan` · §3 `execute_scan` ·
§4 an ingest that gets through · §5 the law.
-/

set_option linter.unusedSectionVars false

namespace LeakcheckHub.Scans

open Foundation Findings FindingStore Outbox

/-! ## §1  The repository with faults -/

/-- `faults` raises in a call, `raises` is the exception of a call or of a
draft that fails by itself, `draws` are those of each record. -/
structure IngestCalls where
  faults : ℕ → Option PyException
  raises : IngestError → PyException
  draws : ℕ → RecordDraws

section Ingest

variable (env : Env) (k : IngestCalls) (subject : Subject)
  (actorId : Option Uuid) (seenAt : Timestamp)

/-- A call with a result. -/
def asks {α : Type} (f : FindingStore → Except IngestError (FindingStore × α))
    (c : Counted FindingStore) :
    Except PyException (Counted FindingStore × α) :=
  call k.faults (fun s => (f s).mapError k.raises) c

/-- A call without one. -/
def tells (f : FindingStore → Except IngestError FindingStore)
    (c : Counted FindingStore) :
    Except PyException (Counted FindingStore) := do
  let (c, _) ← asks k (fun s => do
    let s ← f s
    .ok (s, ())) c
  .ok c

/-- What the loop does for a finding that its upsert inserted. -/
def recordNewCalls (source : SourceIdentity) (draws : RecordDraws)
    (finding : Finding) (c : Counted FindingStore) :
    Except PyException (Counted FindingStore × ℕ) := do
  let c ← tells k
    (fun s => s.addEvent (discovered draws finding.id actorId seenAt)) c
  let (c, previous) ← asks k (fun s =>
    .ok (s, findRemediatedPredecessor env s finding source draws.tie)) c
  match previous with
  | none => .ok (c, 0)
  | some previous => do
      let c ← tells k (fun s => s.linkReleak previous.id finding.id) c
      let c ← tells k (fun s => s.addEvent
        (reLeaked draws finding.id previous.id actorId seenAt)) c
      .ok (c, 1)

/-- One iteration. -/
def ingestRecordCalls (acc : Counted FindingStore × IngestSummary)
    (entry : LeakRecord × RecordDraws) :
    Except PyException (Counted FindingStore × IngestSummary) := do
  let source := normalizeSource env.unicode entry.1.source
  let (c, sourceId) ← asks k
    (fun s => s.resolveSource env source entry.2.sourceId) acc.1
  let draft ← (buildFindingDraft env subject sourceId source entry.1 entry.2
    seenAt).mapError k.raises
  let (c, finding, isNew) ← asks k (fun s => s.upsertFinding env draft) c
  if isNew then
    let (c, reLeaks) ←
      recordNewCalls env k actorId seenAt source entry.2 finding c
    .ok (c, {
      findings := acc.2.findings ++ [finding.id]
      newCount := acc.2.newCount + 1
      reLeakedCount := acc.2.reLeakedCount + reLeaks
      newFindingIds := acc.2.newFindingIds ++ [finding.id] })
  else
    .ok (c, { acc.2 with findings := acc.2.findings ++ [finding.id] })

/-- Each record with its draws. -/
def withDraws : ℕ → List LeakRecord → Batch
  | _, [] => []
  | n, record :: records => (record, k.draws n) :: withDraws (n + 1) records

/-- `ingest_records` over a repository whose calls may raise. -/
def ingestCalls (records : List LeakRecord) (s : FindingStore) :
    Except PyException (FindingStore × IngestSummary) := do
  let (c, summary) ← (withDraws k 0 records).foldlM
    (ingestRecordCalls env k subject actorId seenAt) (⟨0, s⟩, .empty)
  .ok (c.state, summary)

end Ingest

/-! ## §2  `run_scan` -/

structure QueryResult where
  records : List LeakRecord
  quota : Option ℕ
  found : ℕ
  truncated : Bool

/-- The mapped objects that `execute_scan` and `run_scan` both change. -/
structure ScanObjects where
  scan : Scan
  subject : ScannedSubject
deriving DecidableEq

/-- `QueryType(subject.kind.value)`: the two enumerations have the same
values. -/
abbrev Client : Type := SubjectKind → PyStr → Except PyException QueryResult

def ScannedSubject.firstScan (at_ : Timestamp) (subject : ScannedSubject) :
    ScannedSubject :=
  { subject with firstScannedAt := subject.firstScannedAt.or (some at_) }

def ScannedSubject.lastScan (at_ : Timestamp) (subject : ScannedSubject) :
    ScannedSubject :=
  { subject with lastScannedAt := some at_ }

/-- `RUNNING`, `started_at` and `first_scanned_at`, as both functions set
them. -/
def ScanObjects.start (at_ : Timestamp) (o : ScanObjects) : ScanObjects :=
  ⟨startedRow at_ o.scan, ScannedSubject.firstScan at_ o.subject⟩

/-- What either way to fail leaves in the objects. -/
def ScanObjects.fail (exc : PyException) (at_ : Timestamp) (o : ScanObjects) :
    ScanObjects :=
  ⟨finishedRow (.failed exc.typeName) at_ o.scan,
    ScannedSubject.lastScan at_ o.subject⟩

def completeScan (result : QueryResult) (summary : IngestSummary)
    (at_ : Timestamp) (o : ScanObjects) : ScanObjects :=
  ⟨finishedRow (.succeeded result.records.length summary.newCount result.quota
      result.truncated) at_ o.scan, ScannedSubject.lastScan at_ o.subject⟩

/-- The objects as `run_scan` leaves them, with what it returns or raises. -/
def runScan (env : Env) (k : IngestCalls) (client : Client) (now : Timestamp)
    (query : PyStr) (o : ScanObjects) (s : FindingStore) :
    ScanObjects × Except PyException (FindingStore × IngestSummary) :=
  let o := o.start now
  let body : Except PyException
      (QueryResult × FindingStore × IngestSummary) := do
    let result ← client o.subject.kind query
    let (s, summary) ← ingestCalls env k o.subject.toSubject
      o.scan.requestedBy now result.records s
    .ok (result, s, summary)
  match body with
  | .error exc => (o.fail exc now, .error exc)
  | .ok (result, s, summary) =>
      (completeScan result summary now o, .ok (s, summary))

/-! ## §3  `execute_scan` -/

/-- The tables of one scan: `scan` and `subject` are the rows of the ids it is
called with. -/
structure Database where
  store : FindingStore
  outboxes : Outboxes
  watchlist : List WatchlistEntry
  scan : Option Scan
  subject : Option ScannedSubject

/-- The three times `execute_scan` and `run_scan` read the clock. -/
structure Clock where
  startedAt : Timestamp
  runAt : Timestamp
  failedAt : Timestamp

/-- Whether the Integer columns of the row take its values. -/
def storable (scan : Scan) : Bool :=
  decide (scan.resultCount < 2 ^ 31) && decide (scan.newCount < 2 ^ 31) &&
    scan.quota.all fun quota => decide (quota < 2 ^ 31)

/-- The flush of changed objects. -/
def flush (o : ScanObjects) (db : Database) : Option Database :=
  if storable o.scan then
    some { db with scan := some o.scan, subject := some o.subject }
  else none

/-- A commit after a flush that failed: the session has no transaction. -/
def pendingRollback : PyException := ⟨PyStr.lit "PendingRollbackError", []⟩

/-- The database as committed at the end, with what a commit raised. -/
def executeScan (env : Env) (k : IngestCalls) (client : Client)
    (st : Statements) (clock : Clock) (query : PyStr) (db : Database) :
    Database × Option PyException :=
  match db.scan, db.subject with
  | some scan, some subject =>
      let o := ScanObjects.start clock.startedAt ⟨scan, subject⟩
      let begun := { db with scan := some o.scan, subject := some o.subject }
      match runScan env k client clock.runAt query o begun.store with
      | (_, .error exc) =>
          -- after the rollback both rows are selected again
          let o := o.fail exc clock.failedAt
          ({ begun with scan := some o.scan, subject := some o.subject }, none)
      | (o, .ok (store, summary)) =>
          -- entering the savepoint flushes; a flush that fails takes the
          -- transaction with it, and the handler of the fan-out swallows it
          match flush o { begun with store := store } with
          | none => (begun, some pendingRollback)
          | some ingested =>
              match fanOut env st ingested.watchlist ingested.store.findings
                  o.subject summary.newFindingIds ingested.outboxes with
              | .ok outboxes => ({ ingested with outboxes := outboxes }, none)
              | .error _ => (ingested, none)
  | _, _ => (db, none)

/-! ## §4  An ingest that gets through -/

variable {env : Env} {k : IngestCalls} {subject : Subject}
  {actorId : Option Uuid} {seenAt : Timestamp} {s : FindingStore}
  {c c' : Counted FindingStore} {sum sum' : IngestSummary}

theorem asks_eq_ok {α : Type}
    {f : FindingStore → Except IngestError (FindingStore × α)} {a : α}
    (h : asks k f c = .ok (c', a)) : f c.state = .ok (c'.state, a) :=
  mapError_eq_ok.mp (call_eq_ok.mp h).2.2

theorem tells_eq_ok {f : FindingStore → Except IngestError FindingStore}
    (h : tells k f c = .ok c') : f c.state = .ok c'.state := by
  obtain ⟨⟨c₁, u⟩, h₁, h⟩ := bind_eq_ok.mp h
  cases h
  obtain ⟨s, hs, h₁⟩ := bind_eq_ok.mp (asks_eq_ok h₁)
  cases h₁
  exact hs

theorem recordNewCalls_eq_ok {source : SourceIdentity} {draws : RecordDraws}
    {finding : Finding} {reLeaks : ℕ}
    (h : recordNewCalls env k actorId seenAt source draws finding c =
      .ok (c', reLeaks)) :
    recordNew env actorId seenAt source draws finding c.state =
      .ok (c'.state, reLeaks) := by
  obtain ⟨c₁, h₁, h⟩ := bind_eq_ok.mp h
  obtain ⟨⟨c₂, previous⟩, h₂, h⟩ := bind_eq_ok.mp h
  have h₁ := tells_eq_ok h₁
  have h₂ := asks_eq_ok h₂
  rw [Except.ok.injEq, Prod.mk.injEq] at h₂
  refine bind_eq_ok.mpr ⟨c₁.state, h₁, ?_⟩
  rw [h₂.2]
  cases previous with
  | none =>
      cases h
      rw [h₂.1]
  | some previous =>
      obtain ⟨c₃, h₃, h⟩ := bind_eq_ok.mp h
      obtain ⟨c₄, h₄, h⟩ := bind_eq_ok.mp h
      cases h
      have h₃ := tells_eq_ok h₃
      rw [← h₂.1] at h₃
      refine bind_eq_ok.mpr ⟨c₃.state, h₃, ?_⟩
      exact bind_eq_ok.mpr ⟨c'.state, tells_eq_ok h₄, rfl⟩

theorem ingestRecordCalls_eq_ok {entry : LeakRecord × RecordDraws}
    (h : ingestRecordCalls env k subject actorId seenAt (c, sum) entry =
      .ok (c', sum')) :
    ingestRecord env subject actorId seenAt (c.state, sum) entry =
      .ok (c'.state, sum') := by
  obtain ⟨⟨c₁, sourceId⟩, h₁, h⟩ := bind_eq_ok.mp h
  obtain ⟨draft, hdraft, h⟩ := bind_eq_ok.mp h
  obtain ⟨⟨c₂, finding, isNew⟩, h₂, h⟩ := bind_eq_ok.mp h
  refine bind_eq_ok.mpr ⟨(c₁.state, sourceId), asks_eq_ok h₁, ?_⟩
  refine bind_eq_ok.mpr ⟨draft, mapError_eq_ok.mp hdraft, ?_⟩
  refine bind_eq_ok.mpr ⟨(c₂.state, finding, isNew), asks_eq_ok h₂, ?_⟩
  cases isNew with
  | true =>
      obtain ⟨⟨c₃, reLeaks⟩, h₃, h⟩ := bind_eq_ok.mp h
      cases h
      exact bind_eq_ok.mpr ⟨_, recordNewCalls_eq_ok h₃, rfl⟩
  | false =>
      cases h
      rfl

/-- A loop whose calls all got through is the loop without faults. -/
theorem ingestLoopCalls_eq_ok {records : Batch}
    (h : records.foldlM (ingestRecordCalls env k subject actorId seenAt)
      (c, sum) = .ok (c', sum')) :
    records.foldlM (ingestRecord env subject actorId seenAt) (c.state, sum) =
      .ok (c'.state, sum') := by
  induction records generalizing c sum with
  | nil =>
      rw [foldlM_nil_eq_ok] at h
      cases h
      rfl
  | cons entry records ih =>
      obtain ⟨⟨c₁, sum₁⟩, h₁, hrest⟩ := foldlM_cons_eq_ok.mp h
      exact foldlM_cons_eq_ok.mpr
        ⟨(c₁.state, sum₁), ingestRecordCalls_eq_ok h₁, ih hrest⟩

theorem ingestCalls_eq_ok {records : List LeakRecord} {s' : FindingStore}
    (h : ingestCalls env k subject actorId seenAt records s = .ok (s', sum)) :
    ingestRecords env subject actorId seenAt (withDraws k 0 records) s =
      .ok (s', sum) := by
  obtain ⟨⟨c, sum₁⟩, hloop, h⟩ := bind_eq_ok.mp h
  cases h
  exact ingestLoopCalls_eq_ok hloop

theorem withDraws_records :
    ∀ (n : ℕ) (records : List LeakRecord),
      (withDraws k n records).map Prod.fst = records
  | _, [] => rfl
  | n, record :: records => by
      rw [withDraws, List.map_cons, withDraws_records]

theorem withDraws_length (n : ℕ) (records : List LeakRecord) :
    (withDraws k n records).length = records.length := by
  rw [← List.length_map Prod.fst, withDraws_records]

/-! ## §5  The law -/

variable {client : Client} {st : Statements} {clock : Clock} {query : PyStr}
  {db : Database} {o o' : ScanObjects} {now : Timestamp}

/-- The database after a `run_scan` that raised: `scan` and `subject` are the
rows it began with. Of the exception, its class name is stored. -/
structure Undone (db : Database) (scan : Scan) (subject : ScannedSubject)
    (exc : PyException) (done : Database) : Prop where
  store : done.store = db.store
  outboxes : done.outboxes = db.outboxes
  watchlist : done.watchlist = db.watchlist
  scan : ∃ row, done.scan = some row ∧ row.status = .failed ∧
    row.resultCount = 0 ∧ row.newCount = 0 ∧
    row = { scan with
      status := .failed
      startedAt := row.startedAt
      finishedAt := row.finishedAt
      error := some exc.typeName }
  subject : ∃ first last, done.subject = some
    { subject with firstScannedAt := first, lastScannedAt := last }

/-- The database after a `run_scan` that returned. -/
structure Completed (env : Env) (k : IngestCalls) (st : Statements)
    (clock : Clock) (db : Database) (scan : Scan) (subject : ScannedSubject)
    (result : QueryResult) (summary : IngestSummary) (done : Database) :
    Prop where
  ingested : ingestRecords env subject.toSubject scan.requestedBy clock.runAt
    (withDraws k 0 result.records) db.store = .ok (done.store, summary)
  covered : ∀ record ∈ result.records,
    Covers env subject.toSubject record done.store
  inserted : done.store.findings.map Finding.id =
    db.store.findings.map Finding.id ++ summary.newFindingIds
  scan : ∃ row, done.scan = some row ∧ row.status = .succeeded ∧
    row.resultCount = result.records.length ∧
    row.newCount = summary.newFindingIds.length ∧ row.error = none
  fanOut : ∃ subject', subject'.toSubject = subject.toSubject ∧
    subject'.linkedUserId = subject.linkedUserId ∧
    match fanOut env st db.watchlist done.store.findings subject'
      summary.newFindingIds db.outboxes with
    | .ok outboxes =>
        done.outboxes = outboxes ∧ Queues db.outboxes outboxes
    | .error _ => done.outboxes = db.outboxes

theorem runScan_of_ok {store : FindingStore} {summary : IngestSummary}
    (h : runScan env k client now query o s = (o', .ok (store, summary))) :
    ∃ result, client o.subject.kind query = .ok result ∧
      ingestCalls env k o.subject.toSubject o.scan.requestedBy now
        result.records s = .ok (store, summary) ∧
      o' = completeScan result summary now (o.start now) := by
  unfold runScan at h
  simp only at h
  split at h
  · rw [Prod.mk.injEq] at h
    cases h.2
  · rename_i result s₁ summary₁ hbody
    rw [Prod.mk.injEq, Except.ok.injEq, Prod.mk.injEq] at h
    obtain ⟨ho, rfl, rfl⟩ := h
    obtain ⟨result₁, hquery, hbody⟩ := bind_eq_ok.mp hbody
    obtain ⟨⟨s₂, summary₂⟩, hingest, hbody⟩ := bind_eq_ok.mp hbody
    cases hbody
    exact ⟨result, hquery, hingest, ho.symm⟩

theorem runScan_of_ingested {result : QueryResult} {store : FindingStore}
    {summary : IngestSummary}
    (hquery : client o.subject.kind query = .ok result)
    (hingest : ingestCalls env k o.subject.toSubject o.scan.requestedBy now
      result.records s = .ok (store, summary)) :
    runScan env k client now query o s =
      (completeScan result summary now (o.start now), .ok (store, summary)) := by
  have hquery' : client (o.start now).subject.kind query = .ok result := hquery
  have hingest' : ingestCalls env k (o.start now).subject.toSubject
      (o.start now).scan.requestedBy now result.records s =
        .ok (store, summary) := hingest
  unfold runScan
  dsimp only
  rw [hquery']
  dsimp only [bind, Except.bind]
  rw [hingest']

/-- The Integer columns take the number of records and the quota. -/
structure QueryResult.Fits (result : QueryResult) : Prop where
  records : result.records.length < 2 ^ 31
  quota : ∀ quota, result.quota = some quota → quota < 2 ^ 31

/-- Of the three columns, `new_count` never decides. -/
theorem storable_completeScan_iff {result : QueryResult}
    {summary : IngestSummary}
    (hnew : summary.newCount ≤ result.records.length) :
    storable (completeScan result summary now o).scan = true ↔ result.Fits := by
  have hquota : (result.quota.all fun quota => decide (quota < 2 ^ 31)) = true ↔
      ∀ quota, result.quota = some quota → quota < 2 ^ 31 := by
    cases result.quota with
    | none => exact iff_of_true rfl nofun
    | some quota => simp
  simp only [storable, completeScan, finishedRow, Bool.and_eq_true,
    hquota]
  constructor
  · rintro ⟨⟨hrecords, -⟩, hquota⟩
    exact ⟨of_decide_eq_true hrecords, hquota⟩
  · rintro ⟨hrecords, hquota⟩
    exact ⟨⟨decide_eq_true hrecords, decide_eq_true (hnew.trans_lt hrecords)⟩,
      hquota⟩

/-- The commits of `execute_scan` go through exactly when the row `run_scan`
leaves fits its columns. -/
theorem commits_iff_storable {scan : Scan} {subject : ScannedSubject}
    (hscan : db.scan = some scan) (hsubject : db.subject = some subject) :
    (executeScan env k client st clock query db).2 = none ↔
      ∀ o' store summary, runScan env k client clock.runAt query
        (ScanObjects.start clock.startedAt ⟨scan, subject⟩) db.store =
          (o', .ok (store, summary)) → storable o'.scan = true := by
  unfold executeScan
  rw [hscan, hsubject]
  simp only
  cases hrun : runScan env k client clock.runAt query
      (ScanObjects.start clock.startedAt ⟨scan, subject⟩) db.store with
  | mk o₁ r =>
      cases r with
      | error exc => simp
      | ok pair =>
          simp only [flush]
          by_cases hst : storable o₁.scan = true
          · simp only [hst, if_true]
            constructor
            · intro _ o' store summary heq
              cases heq
              exact hst
            · intro _
              split <;> rfl
          · simp only [hst]
            constructor
            · intro h
              cases h
            · intro h
              exact absurd (h o₁ pair.1 pair.2 rfl) hst

/-- A `run_scan` that raised leaves nothing but its failure. -/
theorem executeScan_of_error {scan : Scan} {subject : ScannedSubject}
    {exc : PyException} (hscan : db.scan = some scan)
    (hsubject : db.subject = some subject) (hresult : scan.resultCount = 0)
    (hnew : scan.newCount = 0)
    (hrun : (runScan env k client clock.runAt query
      (ScanObjects.start clock.startedAt ⟨scan, subject⟩) db.store).2 =
        .error exc) :
    Undone db scan subject exc
      (executeScan env k client st clock query db).1 := by
  unfold executeScan
  rw [hscan, hsubject]
  simp only
  cases hpair : runScan env k client clock.runAt query
      (ScanObjects.start clock.startedAt ⟨scan, subject⟩) db.store with
  | mk o' r =>
      rw [hpair] at hrun
      have hr : r = .error exc := hrun
      subst hr
      refine ⟨rfl, rfl, rfl, ?_, ?_⟩
      · exact ⟨_, rfl, rfl, hresult, hnew, rfl⟩
      · exact ⟨_, _, rfl⟩

/-- The outboxes after the savepoint. -/
def afterSavepoint (fanned : Except PyException Outboxes)
    (outboxes : Outboxes) : Outboxes :=
  match fanned with
  | .ok outboxes => outboxes
  | .error _ => outboxes

/-- What is committed of a `run_scan` that returned: whatever becomes of the
fan-out, the ingest and both rows stay. -/
theorem executeScan_done {scan : Scan} {subject : ScannedSubject}
    {store : FindingStore} {summary : IngestSummary}
    (hscan : db.scan = some scan) (hsubject : db.subject = some subject)
    (hrun : runScan env k client clock.runAt query
      (ScanObjects.start clock.startedAt ⟨scan, subject⟩) db.store =
        (o', .ok (store, summary)))
    (hst : storable o'.scan = true) :
    (executeScan env k client st clock query db).1 =
      { store := store
        outboxes := afterSavepoint (fanOut env st db.watchlist store.findings
          o'.subject summary.newFindingIds db.outboxes) db.outboxes
        watchlist := db.watchlist
        scan := some o'.scan
        subject := some o'.subject } := by
  unfold executeScan
  rw [hscan, hsubject]
  simp only [hrun, flush, hst, if_true]
  split
  · rename_i outboxes hfan
    rw [hfan]
    rfl
  · rename_i exc hfan
    rw [hfan]
    rfl

/-- A `run_scan` that returned, in a run whose commits go through. -/
theorem executeScan_of_ok {scan : Scan} {subject : ScannedSubject}
    {store : FindingStore} {summary : IngestSummary}
    (hscan : db.scan = some scan) (hsubject : db.subject = some subject)
    (hrun : (runScan env k client clock.runAt query
      (ScanObjects.start clock.startedAt ⟨scan, subject⟩) db.store).2 =
        .ok (store, summary))
    (hcommit : (executeScan env k client st clock query db).2 = none) :
    ∃ result, client subject.kind query = .ok result ∧
      Completed env k st clock db scan subject result summary
        (executeScan env k client st clock query db).1 := by
  have hst := (commits_iff_storable hscan hsubject).mp hcommit
  cases hpair : runScan env k client clock.runAt query
      (ScanObjects.start clock.startedAt ⟨scan, subject⟩) db.store with
  | mk o' r =>
      rw [hpair] at hrun
      have hr : r = .ok (store, summary) := hrun
      subst hr
      have hfits := hst o' store summary hpair
      rw [executeScan_done hscan hsubject hpair hfits]
      obtain ⟨result, hquery, hcalls, rfl⟩ := runScan_of_ok hpair
      have hingested := ingestCalls_eq_ok hcalls
      have hreports := ingestRecords_reports hingested
      have hcovered := (ingestLoop_covers hingested).2
      rw [withDraws_records] at hcovered
      refine ⟨result, hquery, hingested, hcovered, hreports.ids, ?_, ?_⟩
      · exact ⟨_, rfl, rfl, rfl, hreports.count, rfl⟩
      · let ended := (completeScan result summary clock.runAt
          (ScanObjects.start clock.runAt (ScanObjects.start clock.startedAt
            ⟨scan, subject⟩))).subject
        refine ⟨ended, rfl, rfl, ?_⟩
        cases hfan : fanOut env st db.watchlist store.findings ended
            summary.newFindingIds db.outboxes with
        | ok outboxes => exact ⟨rfl, fanOut_queues hfan⟩
        | error exc => rfl

/-- What a scan promises, whether its `run_scan` raises or returns. -/
def AllOrNothing (env : Env) (k : IngestCalls) (client : Client)
    (st : Statements) (clock : Clock) (query : PyStr) (db : Database)
    (scan : Scan) (subject : ScannedSubject) : Prop :=
  let ran := runScan env k client clock.runAt query
    (ScanObjects.start clock.startedAt ⟨scan, subject⟩) db.store
  let done := executeScan env k client st clock query db
  (∀ exc, ran.2 = .error exc → Undone db scan subject exc done.1) ∧
  ∀ store summary, ran.2 = .ok (store, summary) →
    ∃ result, client subject.kind query = .ok result ∧
      Completed env k st clock db scan subject result summary done.1

/-- A row that does not fit is lost in a flush that nobody reports, and the scan
stays RUNNING. -/
theorem executeScan_of_not_storable {scan : Scan} {subject : ScannedSubject}
    {store : FindingStore} {summary : IngestSummary}
    (hscan : db.scan = some scan) (hsubject : db.subject = some subject)
    (hrun : runScan env k client clock.runAt query
      (ScanObjects.start clock.startedAt ⟨scan, subject⟩) db.store =
        (o', .ok (store, summary)))
    (hst : storable o'.scan ≠ true) :
    (executeScan env k client st clock query db).1.scan =
      some (startedRow clock.startedAt scan) := by
  unfold executeScan
  rw [hscan, hsubject]
  dsimp only
  rw [hrun]
  dsimp only [flush]
  rw [if_neg hst]
  rfl

/-- **All or nothing.** A scan keeps its promise exactly when the Integer
columns take what an ingest that goes through is to report. -/
theorem all_or_nothing (env : Env) (k : IngestCalls) (client : Client)
    (st : Statements) (clock : Clock) (query : PyStr) {i : Uuid}
    {requestedBy : Option Uuid} {trigger : ScanTrigger}
    {subject : ScannedSubject}
    (hscan : db.scan =
      some (Scan.requested i subject.id requestedBy trigger))
    (hsubject : db.subject = some subject) :
    AllOrNothing env k client st clock query db
        (Scan.requested i subject.id requestedBy trigger) subject ↔
      ∀ result store summary, client subject.kind query = .ok result →
        ingestCalls env k subject.toSubject requestedBy clock.runAt
          result.records db.store = .ok (store, summary) → result.Fits := by
  have hstorable : ∀ {result store summary},
      ingestCalls env k subject.toSubject requestedBy clock.runAt
        result.records db.store = .ok (store, summary) →
      ∀ {o}, storable (completeScan result summary clock.runAt o).scan = true ↔
        result.Fits := by
    intro result store summary hingest o
    have hnew := ingestRecords_newCount_le (ingestCalls_eq_ok hingest)
    rw [withDraws_length] at hnew
    exact storable_completeScan_iff hnew
  constructor
  · rintro ⟨-, hreturned⟩ result store summary hquery hingest
    have hrun : runScan env k client clock.runAt query
        (ScanObjects.start clock.startedAt
          ⟨Scan.requested i subject.id requestedBy trigger, subject⟩) db.store =
        _ := runScan_of_ingested hquery hingest
    obtain ⟨_, -, hdone⟩ := hreturned store summary (congrArg Prod.snd hrun)
    obtain ⟨row, hrow, hstatus, -⟩ := hdone.scan
    by_contra hfits
    rw [executeScan_of_not_storable hscan hsubject hrun
      (mt (hstorable hingest).mp hfits), Option.some.injEq] at hrow
    rw [← hrow] at hstatus
    cases hstatus
  · intro hfits
    refine ⟨fun exc hrun => executeScan_of_error hscan hsubject rfl rfl hrun,
      fun store summary hrun => executeScan_of_ok hscan hsubject hrun ?_⟩
    refine (commits_iff_storable hscan hsubject).mpr ?_
    intro o' store summary hrun
    obtain ⟨result, hquery, hingest, rfl⟩ := runScan_of_ok hrun
    exact (hstorable hingest).mpr (hfits result store summary hquery hingest)

/-- A subject of a portal user, never scanned. -/
def sampleScanned : ScannedSubject := ⟨sampleSubject, some 60, none, none⟩

def sampleRequested : Scan :=
  Scan.requested 70 sampleSubject.id none .manual

def sampleDatabase : Database :=
  ⟨FindingStore.empty, ⟨[], []⟩, [], some sampleRequested, some sampleScanned⟩

def sampleCalls : IngestCalls :=
  ⟨fun _ => none, fun _ => integrityError, fun _ => sampleDraws 6⟩

/-- Each statement of the fan-out raises. -/
def brokenFanOut : Statements := ⟨fun _ => some interfaceError, fun _ => 800, 4⟩

def oneRecord : QueryResult :=
  ⟨[sampleRecord none "2019-05-24"], some 7, 1, false⟩

theorem oneRecord_fits : oneRecord.Fits := by
  refine ⟨by decide, fun quota hquota => ?_⟩
  cases hquota
  decide

/-- One record is ingested although the fan-out raises, and nothing when the
vendor raises. -/
theorem sample_all_or_nothing :
    (∃ row, (executeScan sampleEnv sampleCalls (fun _ _ => .ok oneRecord)
        brokenFanOut ⟨1, 2, 3⟩ [] sampleDatabase).1.scan = some row ∧
      row.status = .succeeded ∧ row.resultCount = 1) ∧
    (executeScan sampleEnv sampleCalls (fun _ _ => .error interfaceError)
      brokenFanOut ⟨1, 2, 3⟩ [] sampleDatabase).1.store =
        FindingStore.empty := by
  have hscan : sampleDatabase.scan =
    some (Scan.requested 70 sampleScanned.id none .manual) := rfl
  have hsubject : sampleDatabase.subject = some sampleScanned := rfl
  constructor
  · have hok : ((runScan sampleEnv sampleCalls (fun _ _ => .ok oneRecord) 2 []
        (ScanObjects.start 1 ⟨sampleRequested, sampleScanned⟩)
        FindingStore.empty).2.toOption.isSome) = true := by decide
    cases hrun : (runScan sampleEnv sampleCalls (fun _ _ => .ok oneRecord) 2 []
        (ScanObjects.start 1 ⟨sampleRequested, sampleScanned⟩)
        FindingStore.empty).2 with
    | error exc =>
        rw [hrun] at hok
        cases hok
    | ok pair =>
        obtain ⟨-, hreturned⟩ := (all_or_nothing sampleEnv sampleCalls
          (fun _ _ => .ok oneRecord) brokenFanOut ⟨1, 2, 3⟩ [] hscan
          hsubject).mpr fun _ _ _ hquery _ => by
            cases hquery
            exact oneRecord_fits
        obtain ⟨result, hquery, hdone⟩ := hreturned pair.1 pair.2 hrun
        cases hquery
        obtain ⟨row, hrow, hstatus, hcount, -⟩ := hdone.scan
        exact ⟨row, hrow, hstatus, hcount⟩
  · obtain ⟨hraised, -⟩ := (all_or_nothing sampleEnv sampleCalls
      (fun _ _ => .error interfaceError) brokenFanOut ⟨1, 2, 3⟩ [] hscan
      hsubject).mpr fun _ _ _ hquery _ => nomatch hquery
    exact (hraised interfaceError rfl).store

/-- The same record with the first quota that an Integer column does not take. -/
def largeQuota : QueryResult := { oneRecord with quota := some (2 ^ 31) }

/-- No statement of the fan-out raises. -/
def soundFanOut : Statements := ⟨fun _ => none, fun _ => 800, 4⟩

/-- `run_scan` has ingested the record and returned; the flush that enters the
savepoint loses it, and the scan stays RUNNING. -/
theorem large_quota_loses_the_ingest : ¬ AllOrNothing sampleEnv sampleCalls
    (fun _ _ => .ok largeQuota) soundFanOut ⟨1, 2, 3⟩ [] sampleDatabase
    sampleRequested sampleScanned := by
  rintro ⟨-, hreturned⟩
  have hok : ((ingestCalls sampleEnv sampleCalls sampleSubject none 2
      largeQuota.records FindingStore.empty).toOption.isSome) = true := by decide
  cases hingest : ingestCalls sampleEnv sampleCalls sampleSubject none 2
      largeQuota.records FindingStore.empty with
  | error exc =>
      rw [hingest] at hok
      cases hok
  | ok pair =>
      have hrun : runScan sampleEnv sampleCalls (fun _ _ => .ok largeQuota) 2 []
          (ScanObjects.start 1 ⟨sampleRequested, sampleScanned⟩)
          FindingStore.empty = _ := runScan_of_ingested rfl hingest
      obtain ⟨_, -, hdone⟩ := hreturned pair.1 pair.2 (congrArg Prod.snd hrun)
      obtain ⟨row, hrow, hstatus, -⟩ := hdone.scan
      have hlost : storable (completeScan largeQuota pair.2 2 (ScanObjects.start 2
          (ScanObjects.start 1 ⟨sampleRequested, sampleScanned⟩))).scan ≠
            true := by
        intro h
        have hquota : decide (2 ^ 31 < 2 ^ 31) = true :=
          ((Bool.and_eq_true _ _).mp h).2
        exact absurd hquota (by decide)
      rw [executeScan_of_not_storable rfl rfl hrun hlost, Option.some.injEq] at hrow
      rw [← hrow] at hstatus
      cases hstatus

end LeakcheckHub.Scans
