import LeakcheckHub.Findings.Ingest
import LeakcheckHub.Foundation.RowVersions

/-!
# When a finding was seen

Scans of one subject that overlap: `run_scan` of `app/scans.py` takes its
timestamp when it starts, `upsert_finding` of `app/ingest.py` writes it when
the vendor has answered. Every upsert and link of an ingest is a step of its
own, in a transaction that locks the rows it writes.

§1 scans and steps · §2 sightings and a scan that comes late ·
§3 the invariant · §4 steps · §5 the law.
-/

set_option linter.unusedSectionVars false

namespace LeakcheckHub.Findings.Sightings

open Foundation FindingStore

/-! ## §1  Scans and steps -/

/-- `startedAt` is the `now` of `ingest_records`; `written` are the
fingerprints of the findings written so far. -/
inductive ScanPhase where
  | waiting
  | querying (startedAt : Timestamp)
  | ingesting (startedAt : Timestamp) (records : List LeakRecord)
      (written : List Bytes)
  | done

inductive Action (Scan : Type) where
  | start (k : Scan) (now : Timestamp)
  | respond (k : Scan) (records : List LeakRecord)
  | ingest (k : Scan) (sourceId : Uuid) (draws : RecordDraws)
  | link (k : Scan) (previous current : Bytes)
  | commit (k : Scan)
  | fail (k : Scan)

/-- `uq_findings_fingerprint` makes the fingerprint a key. -/
structure State (Scan : Type) where
  findings : Table Bytes Scan Finding
  scan : Scan → ScanPhase

/-- The row the next record proposes, with the source `resolve_source`
returned. -/
def proposed (env : Env) (subject : Subject) (sourceId : Uuid)
    (record : LeakRecord) (draws : RecordDraws) (seenAt : Timestamp) :
    Except IngestError Finding := do
  let source := normalizeSource env.unicode record.source
  let draft ←
    buildFindingDraft env subject sourceId source record draws seenAt
  findingRow env draft

section Step

variable {Scan : Type} [DecidableEq Scan]

def State.setScan (s : State Scan) (k : Scan) (x : ScanPhase) : State Scan :=
  { s with scan := fun j => if j = k then x else s.scan j }

/-- `INSERT … ON CONFLICT (fingerprint) DO UPDATE`; a row that another
transaction has written makes the statement wait. -/
def upsertRow (tb : Table Bytes Scan Finding) (k : Scan) (row : Finding) :
    Option (Table Bytes Scan Finding) :=
  if (tb.cell row.fingerprint).heldByOther k then none
  else
    let new := match tb.read k row.fingerprint with
      | some old => refreshFinding row old
      | none => row
    some (tb.put k row.fingerprint (some new))

/-- `link_releak`: both updates of its flush. -/
def linkRows (tb : Table Bytes Scan Finding) (k : Scan)
    (previous current : Bytes) : Option (Table Bytes Scan Finding) :=
  (tb.read k current).bind fun g =>
    (tb.updateWhere k previous (fun _ => true) fun f =>
      { f with supersededById := some g.id }).bind fun tb =>
        tb.updateWhere k current (fun _ => true) fun f =>
          { f with severity := .high }

/-- A record that cannot be stored leaves its scan no step but `fail`. -/
def step (env : Env) (subject : Subject) (s : State Scan) :
    Action Scan → Option (State Scan)
  | .start k now =>
      match s.scan k with
      | .waiting => some (s.setScan k (.querying now))
      | _ => none
  | .respond k records =>
      match s.scan k with
      | .querying startedAt =>
          some (s.setScan k (.ingesting startedAt records []))
      | _ => none
  | .ingest k sourceId draws =>
      match s.scan k with
      | .ingesting startedAt (record :: records) written =>
          match proposed env subject sourceId record draws startedAt with
          | .ok row =>
              (upsertRow s.findings k row).map fun findings =>
                { s with findings }.setScan k
                  (.ingesting startedAt records (row.fingerprint :: written))
          | .error _ => none
      | _ => none
  | .link k previous current =>
      match s.scan k with
      | .ingesting .. =>
          (linkRows s.findings k previous current).map fun findings =>
            { s with findings }
      | _ => none
  | .commit k =>
      match s.scan k with
      | .ingesting _ [] _ =>
          some ({ s with findings := s.findings.commit k }.setScan k .done)
      | _ => none
  | .fail k =>
      some ({ s with findings := s.findings.rollback k }.setScan k .done)

def init : State Scan := ⟨Table.empty, fun _ => .waiting⟩

def system (env : Env) (subject : Subject) :
    System (State Scan) (Action Scan) where
  init := fun s => s = init
  step := step env subject

/-- What committed scans have written: fingerprints, each with the start of
its scan. -/
def note (s : State Scan) (writes : List (Bytes × Timestamp)) :
    Action Scan → List (Bytes × Timestamp)
  | .commit k =>
      match s.scan k with
      | .ingesting startedAt [] written =>
          written.map (·, startedAt) ++ writes
      | _ => writes
  | _ => writes

def watched (env : Env) (subject : Subject) :
    System (Recorded (State Scan) (List (Bytes × Timestamp)))
      (Action Scan) :=
  (system env subject).record [] note

end Step

/-! ## §2  Sightings -/

variable {Scan : Type} [DecidableEq Scan] {env : Env} {subject : Subject}

def FirstBeforeLast (s : State Scan) : Prop :=
  ∀ fp f, s.findings.committedRow fp = some f → f.firstSeenAt ≤ f.lastSeenAt

/-- Every finding is still there and was last seen no earlier. -/
def NoEarlier (s t : State Scan) : Prop :=
  ∀ fp f, s.findings.committedRow fp = some f →
    ∃ g, t.findings.committedRow fp = some g ∧ f.lastSeenAt ≤ g.lastSeenAt

/-- The second of two scans is answered first. -/
def overtaken : List (Action Bool) :=
  [.start false 1, .start true 2,
    .respond true [sampleRecord none "2019-05-24"],
    .ingest true 9 (sampleDraws 6), .commit true,
    .respond false [sampleRecord none "2019-05-24"],
    .ingest false 9 (sampleDraws 7)]

theorem overtaken_goes_back :
    ∃ x y, (watched sampleEnv sampleSubject).run ⟨init, []⟩ overtaken =
        some x ∧
      (watched sampleEnv sampleSubject).step x (.commit false) = some y ∧
      ∃ fp, (x.state.findings.committedRow fp).map
          (fun f => (f.firstSeenAt, f.lastSeenAt)) = some (2, 2) ∧
        (y.state.findings.committedRow fp).map
          (fun f => (f.firstSeenAt, f.lastSeenAt)) = some (2, 1) := by
  have hex : ∃ x, (watched sampleEnv sampleSubject).run ⟨init, []⟩
      overtaken = some x ∧
      (((watched sampleEnv sampleSubject).step x (.commit false)).any fun y =>
        x.state.findings.ids.any fun fp => decide
          ((x.state.findings.committedRow fp).map
              (fun f => (f.firstSeenAt, f.lastSeenAt)) = some (2, 2) ∧
            (y.state.findings.committedRow fp).map
              (fun f => (f.firstSeenAt, f.lastSeenAt)) = some (2, 1))) =
        true :=
    System.exists_of_runUnder (by decide)
  obtain ⟨x, hrun, hany⟩ := hex
  obtain ⟨y, hy, hids⟩ := (Option.any_eq_true _ _).mp hany
  obtain ⟨fp, -, hp⟩ := List.any_eq_true.mp hids
  exact ⟨x, y, hrun, hy, fp, of_decide_eq_true hp⟩

/-- A finding first seen at 2 and last seen at 1, which was last seen at 2
before. -/
theorem sightings_can_go_back :
    ¬ ∀ x, (watched sampleEnv sampleSubject).Reachable x →
      FirstBeforeLast (x.state : State Bool) ∧
        ∀ y, (watched sampleEnv sampleSubject).Leads (fun _ _ => True) x y →
          NoEarlier x.state y.state := by
  intro hall
  obtain ⟨x, y, hrun, hy, fp, hx, hy'⟩ := overtaken_goes_back
  have hinit : (watched sampleEnv sampleSubject).init
      ⟨(init : State Bool), []⟩ := ⟨rfl, rfl⟩
  obtain ⟨-, hlater⟩ := hall x (System.reachable_of_runUnder hinit hrun)
  have hno := hlater y ((System.Leads.refl x).tail trivial hy)
  obtain ⟨f, hf, hfx⟩ := Option.map_eq_some_iff.mp hx
  obtain ⟨g, hg, hle⟩ := hno fp f hf
  rw [hg, Option.map_some, Option.some.injEq, Prod.mk.injEq] at hy'
  rw [Prod.mk.injEq] at hfx
  rw [hfx.2, hy'.2] at hle
  exact absurd hle (by decide)

/-- The row the next record of a scan proposes, with the start of the scan. -/
def ScanPhase.next (env : Env) (subject : Subject) (sourceId : Uuid)
    (draws : RecordDraws) : ScanPhase → Option (Timestamp × Finding)
  | .ingesting startedAt (record :: _) _ =>
      (proposed env subject sourceId record draws startedAt).toOption.map
        (startedAt, ·)
  | _ => none

/-- A finding is written only by a scan that started no earlier than those
whose writes of it are committed. -/
def InOrder (env : Env) (subject : Subject)
    (x : Recorded (State Scan) (List (Bytes × Timestamp))) :
    Action Scan → Prop
  | .ingest k sourceId draws =>
      ∀ p ∈ (x.state.scan k).next env subject sourceId draws,
        ∀ e ∈ x.history, e.1 = p.2.fingerprint → e.2 ≤ p.1
  | _ => True

/-! ## §3  The invariant -/

structure Ordered (tb : Table Bytes Scan Finding) (scan : Scan → ScanPhase)
    (writes : List (Bytes × Timestamp)) : Prop where
  committed : ∀ fp f, tb.committedRow fp = some f →
    f.firstSeenAt ≤ f.lastSeenAt ∧ (fp, f.lastSeenAt) ∈ writes
  pending : ∀ k fp x, (tb.cell fp).pending = some (k, x) →
    ∃ f startedAt records written, x = some f ∧
      scan k = .ingesting startedAt records written ∧
      f.firstSeenAt ≤ f.lastSeenAt ∧
      (∀ o, tb.committedRow fp = some o → o.lastSeenAt ≤ f.lastSeenAt) ∧
      (f.lastSeenAt = startedAt ∧ fp ∈ written ∨
        ∃ o, tb.committedRow fp = some o ∧ f.lastSeenAt = o.lastSeenAt)

variable {tb tb' : Table Bytes Scan Finding} {scan : Scan → ScanPhase}
  {writes : List (Bytes × Timestamp)} {k : Scan} {startedAt : Timestamp}
  {records : List LeakRecord} {written : List Bytes} {fp : Bytes}

/-- An ingesting scan sees a finding last seen by its own scan, or by the one
that committed the row. -/
theorem Ordered.seen (h : Ordered tb scan writes)
    (hk : scan k = .ingesting startedAt records written) {f : Finding}
    (hr : tb.read k fp = some f) :
    f.firstSeenAt ≤ f.lastSeenAt ∧
      (f.lastSeenAt = startedAt ∧ fp ∈ written ∨
        ∃ o, tb.committedRow fp = some o ∧ f.lastSeenAt = o.lastSeenAt) := by
  rcases Cell.read_cases k (tb.cell fp) with ⟨x, hp, hread⟩ | ⟨-, hread⟩
  · obtain ⟨f', t, rs, ws, rfl, hscan, hfirst, -, hlast⟩ := h.pending k fp x hp
    rw [Table.read, hread, Option.some.injEq] at hr
    subst hr
    rw [hk] at hscan
    cases hscan
    exact ⟨hfirst, hlast⟩
  · rw [Table.read, hread] at hr
    exact ⟨(h.committed fp f hr).1, .inr ⟨f, hr, rfl⟩⟩

/-- What it sees of a finding that no later scan has written. -/
theorem Ordered.read (h : Ordered tb scan writes)
    (hk : scan k = .ingesting startedAt records written)
    (hord : ∀ e ∈ writes, e.1 = fp → e.2 ≤ startedAt) {old : Finding}
    (hr : tb.read k fp = some old) :
    old.firstSeenAt ≤ old.lastSeenAt ∧ old.lastSeenAt ≤ startedAt := by
  obtain ⟨hfirst, hlast⟩ := h.seen hk hr
  refine ⟨hfirst, ?_⟩
  rcases hlast with ⟨heq, -⟩ | ⟨o, ho, heq⟩
  · exact Int.le_of_eq heq
  · rw [heq]
    exact hord _ (h.committed fp o ho).2 rfl

/-- Nothing is committed to a row that its own transaction has not locked. -/
theorem Ordered.committed_le_read (h : Ordered tb scan writes) {o f : Finding}
    (ho : tb.committedRow fp = some o) (hr : tb.read k fp = some f) :
    o.lastSeenAt ≤ f.lastSeenAt := by
  rcases Cell.read_cases k (tb.cell fp) with ⟨x, hp, hread⟩ | ⟨-, hread⟩
  · obtain ⟨g, t, rs, ws, rfl, -, -, hle, -⟩ := h.pending k fp x hp
    rw [Table.read, hread, Option.some.injEq] at hr
    exact hr ▸ hle o ho
  · rw [Table.read, hread] at hr
    have hr : tb.committedRow fp = some f := hr
    rw [ho, Option.some.injEq] at hr
    exact hr ▸ Int.le_refl _

/-! ## §4  Steps -/

/-- `k` moves on; if it has written rows, it keeps its start and what it has
written. -/
theorem Ordered.move (h : Ordered tb scan writes) {y : ScanPhase}
    (hy : ∀ t rs ws, scan k = .ingesting t rs ws →
      ∃ rs' ws', y = .ingesting t rs' ws' ∧ ∀ fp ∈ ws, fp ∈ ws') :
    Ordered tb (fun j => if j = k then y else scan j) writes where
  committed := h.committed
  pending := by
    intro j fp x hp
    obtain ⟨f, t, rs, ws, hx, hscan, hfirst, hle, hlast⟩ := h.pending j fp x hp
    by_cases hjk : j = k
    · subst hjk
      obtain ⟨rs', ws', rfl, hsub⟩ := hy t rs ws hscan
      refine ⟨f, t, rs', ws', hx, if_pos rfl, hfirst, hle, ?_⟩
      exact hlast.imp_left fun hw => ⟨hw.1, hsub fp hw.2⟩
    · exact ⟨f, t, rs, ws, hx, (if_neg hjk).trans hscan, hfirst, hle, hlast⟩

/-- `k` writes one row. -/
theorem Ordered.put (h : Ordered tb scan writes)
    (hk : scan k = .ingesting startedAt records written)
    (hfree : (tb.cell fp).heldByOther k = false) {new : Finding}
    (hfirst : new.firstSeenAt ≤ new.lastSeenAt)
    (hle : ∀ o, tb.committedRow fp = some o → o.lastSeenAt ≤ new.lastSeenAt)
    (hlast : new.lastSeenAt = startedAt ∧ fp ∈ written ∨
      ∃ o, tb.committedRow fp = some o ∧ new.lastSeenAt = o.lastSeenAt) :
    Ordered (tb.put k fp (some new)) scan writes where
  committed := by
    intro i f hf
    rw [Table.put_committedRow] at hf
    exact h.committed i f hf
  pending := by
    intro j i x hp
    simp only [Table.put_committedRow]
    by_cases hjk : j = k
    · subst hjk
      by_cases hi : i = fp
      · subst hi
        rw [Table.put_cell_self, Cell.put_pending, Option.some.injEq,
          Prod.mk.injEq] at hp
        exact ⟨new, startedAt, records, written, hp.2.symm, hk, hfirst, hle,
          hlast⟩
      · rw [Table.put_cell_ne hi] at hp
        exact h.pending j i x hp
    · exact h.pending j i x ((Table.put_pending_other hjk hfree).mp hp)

/-- A write that leaves both sightings as it found them. -/
theorem Ordered.rewrite (h : Ordered tb scan writes)
    (hk : scan k = .ingesting startedAt records written)
    {g : Finding → Finding} (hfirst : ∀ f, (g f).firstSeenAt = f.firstSeenAt)
    (hlast : ∀ f, (g f).lastSeenAt = f.lastSeenAt)
    (hup : tb.updateWhere k fp (fun _ => true) g = some tb') :
    Ordered tb' scan writes := by
  rcases Table.updateWhere_cases hup with ⟨rfl, -⟩ | ⟨f, hr, -, hfree, rfl⟩
  · exact h
  · obtain ⟨hfl, hby⟩ := h.seen hk hr
    refine h.put hk hfree ?_ ?_ ?_
    · rw [hfirst, hlast]
      exact hfl
    · intro o ho
      rw [hlast]
      exact h.committed_le_read ho hr
    · rw [hlast]
      exact hby

theorem Ordered.link (h : Ordered tb scan writes)
    (hk : scan k = .ingesting startedAt records written)
    {previous current : Bytes}
    (hup : linkRows tb k previous current = some tb') :
    Ordered tb' scan writes := by
  obtain ⟨g, -, hup⟩ := Option.bind_eq_some_iff.mp hup
  obtain ⟨tb₁, h₁, h₂⟩ := Option.bind_eq_some_iff.mp hup
  have hmid : Ordered tb₁ scan writes := by
    refine h.rewrite hk ?_ ?_ h₁
    · intro f
      rfl
    · intro f
      rfl
  refine hmid.rewrite hk ?_ ?_ h₂
  · intro f
    rfl
  · intro f
    rfl

theorem linkRows_committedRow {previous current : Bytes}
    (h : linkRows tb k previous current = some tb') :
    tb'.committedRow fp = tb.committedRow fp := by
  obtain ⟨g, -, h⟩ := Option.bind_eq_some_iff.mp h
  obtain ⟨tb₁, h₁, h₂⟩ := Option.bind_eq_some_iff.mp h
  exact (Table.updateWhere_committedRow h₂).trans
    (Table.updateWhere_committedRow h₁)

theorem upsertRow_committedRow {row : Finding}
    (h : upsertRow tb k row = some tb') :
    tb'.committedRow fp = tb.committedRow fp := by
  unfold upsertRow at h
  split at h
  · cases h
  · simp only [Option.some.injEq] at h
    rw [← h]
    exact Table.put_committedRow

theorem proposed_spec {sourceId : Uuid} {record : LeakRecord}
    {draws : RecordDraws} {row : Finding}
    (h : proposed env subject sourceId record draws startedAt = .ok row) :
    row.firstSeenAt = startedAt ∧ row.lastSeenAt = startedAt := by
  obtain ⟨draft, hdraft, hrow⟩ := bind_eq_ok.mp h
  have hp := findingRow_proposes hrow
  have hd := buildFindingDraft_spec hdraft
  exact ⟨hp.firstSeenAt.trans hd.seenAt, hp.lastSeenAt.trans hd.seenAt⟩

/-- An upsert by a scan that comes in order. -/
theorem Ordered.upsert (h : Ordered tb scan writes)
    (hk : scan k = .ingesting startedAt records written) {row : Finding}
    (hfirst : row.firstSeenAt = startedAt) (hlast : row.lastSeenAt = startedAt)
    (hmem : row.fingerprint ∈ written)
    (hord : ∀ e ∈ writes, e.1 = row.fingerprint → e.2 ≤ startedAt)
    (hup : upsertRow tb k row = some tb') : Ordered tb' scan writes := by
  unfold upsertRow at hup
  split at hup
  · cases hup
  · rename_i hfree
    rw [Bool.not_eq_true] at hfree
    simp only [Option.some.injEq] at hup
    subst hup
    have hle : ∀ o, tb.committedRow row.fingerprint = some o →
        o.lastSeenAt ≤ startedAt := by
      intro o ho
      exact hord _ (h.committed _ o ho).2 rfl
    cases hr : tb.read k row.fingerprint with
    | none =>
        refine h.put hk hfree ?_ ?_ (.inl ⟨hlast, hmem⟩)
        · exact Int.le_of_eq (hfirst.trans hlast.symm)
        · rw [hlast]
          exact hle
    | some old =>
        obtain ⟨hfl, hold⟩ := h.read hk hord hr
        have hnew : (refreshFinding row old).lastSeenAt = startedAt := hlast
        refine h.put hk hfree ?_ ?_ (.inl ⟨hnew, hmem⟩)
        · rw [hnew]
          exact Int.le_trans hfl hold
        · rw [hnew]
          exact hle

/-- The rows of `k` are committed, and its writes noted. -/
theorem Ordered.commit (h : Ordered tb scan writes)
    (hk : scan k = .ingesting startedAt records written) {y : ScanPhase} :
    Ordered (tb.commit k) (fun j => if j = k then y else scan j)
      (written.map (·, startedAt) ++ writes) where
  committed := by
    intro fp f hf
    rw [Table.commit_committedRow] at hf
    obtain ⟨hfirst, hlast⟩ := h.seen hk hf
    refine ⟨hfirst, List.mem_append.mpr ?_⟩
    rcases hlast with ⟨heq, hmem⟩ | ⟨o, ho, heq⟩
    · exact .inl (List.mem_map.mpr ⟨fp, hmem, by rw [heq]⟩)
    · rw [heq]
      exact .inr (h.committed fp o ho).2
  pending := by
    intro j fp x hp
    rw [Table.commit_cell] at hp
    have hjk : j ≠ k := by
      rintro rfl
      exact Cell.commit_pending_ne hp
    rw [Cell.commit_pending_other hjk] at hp
    obtain ⟨f, t, rs, ws, hx, hscan, hfirst, hle, hlast⟩ := h.pending j fp x hp
    -- the row is locked by `j`, so `k` committed nothing into it
    have hsame : (tb.commit k).committedRow fp = tb.committedRow fp := by
      rw [Table.commit_committedRow]
      exact Cell.read_of_locked hp hjk
    rw [hsame]
    exact ⟨f, t, rs, ws, hx, (if_neg hjk).trans hscan, hfirst, hle, hlast⟩

/-- No commit takes a sighting back. -/
theorem Ordered.committed_le_commit (h : Ordered tb scan writes) (k : Scan)
    {f : Finding} (hf : tb.committedRow fp = some f) :
    ∃ g, (tb.commit k).committedRow fp = some g ∧
      f.lastSeenAt ≤ g.lastSeenAt := by
  rw [Table.commit_committedRow]
  rcases Cell.read_cases k (tb.cell fp) with ⟨x, hp, hread⟩ | ⟨-, hread⟩
  · obtain ⟨g, t, rs, ws, rfl, -⟩ := h.pending k fp x hp
    exact ⟨g, hread, h.committed_le_read hf hread⟩
  · exact ⟨f, hread.trans hf, Int.le_refl _⟩

theorem Ordered.rollback (h : Ordered tb scan writes) {y : ScanPhase} :
    Ordered (tb.rollback k) (fun j => if j = k then y else scan j) writes where
  committed := by
    intro fp f hf
    rw [Table.rollback_committedRow] at hf
    exact h.committed fp f hf
  pending := by
    intro j fp x hp
    rw [Table.rollback_cell] at hp
    have hjk : j ≠ k := by
      rintro rfl
      exact Cell.rollback_pending_ne hp
    rw [Cell.rollback_pending_other hjk] at hp
    obtain ⟨f, t, rs, ws, hx, hscan, hfirst, hle, hlast⟩ := h.pending j fp x hp
    rw [Table.rollback_committedRow]
    exact ⟨f, t, rs, ws, hx, (if_neg hjk).trans hscan, hfirst, hle, hlast⟩

theorem ordered_init :
    Ordered (init : State Scan).findings (init : State Scan).scan [] where
  committed := by
    intro fp f h
    cases h
  pending := by
    intro k fp x h
    cases h

/-- **Step lemma.** A step in order keeps the sightings in order, and takes no
committed one back. -/
theorem ordered_step {x : Recorded (State Scan) (List (Bytes × Timestamp))}
    {s' : State Scan} {a : Action Scan}
    (h : Ordered x.state.findings x.state.scan x.history)
    (hG : InOrder env subject x a)
    (hstep : step env subject x.state a = some s') :
    Ordered s'.findings s'.scan (note x.state x.history a) ∧
      NoEarlier x.state s' := by
  -- a step that commits nothing
  have hself : ∀ {t : State Scan},
      (∀ fp, t.findings.committedRow fp = x.state.findings.committedRow fp) →
        NoEarlier x.state t := by
    intro t hsame fp f hf
    exact ⟨f, (hsame fp).trans hf, Int.le_refl _⟩
  cases a with
  | start k now =>
      cases hk : x.state.scan k with
      | waiting =>
          simp only [step, hk, Option.some.injEq] at hstep
          subst hstep
          refine ⟨h.move fun t rs ws hi => ?_, hself fun _ => rfl⟩
          rw [hk] at hi
          cases hi
      | _ => simp [step, hk] at hstep
  | respond k records =>
      cases hk : x.state.scan k with
      | querying startedAt =>
          simp only [step, hk, Option.some.injEq] at hstep
          subst hstep
          refine ⟨h.move fun t rs ws hi => ?_, hself fun _ => rfl⟩
          rw [hk] at hi
          cases hi
      | _ => simp [step, hk] at hstep
  | ingest k sourceId draws =>
      cases hk : x.state.scan k with
      | ingesting startedAt records written =>
          cases records with
          | nil => simp [step, hk] at hstep
          | cons record records =>
              cases hrow : proposed env subject sourceId record draws
                  startedAt with
              | error e => simp [step, hk, hrow] at hstep
              | ok row =>
                  simp only [step, hk, hrow, Option.map_eq_some_iff] at hstep
                  obtain ⟨tb, htb, rfl⟩ := hstep
                  -- the condition is about the row that is proposed now
                  have hnext : (startedAt, row) ∈
                      (x.state.scan k).next env subject sourceId draws := by
                    rw [hk, ScanPhase.next, hrow]
                    rfl
                  have hord := hG _ hnext
                  obtain ⟨hfirst, hlast⟩ := proposed_spec hrow
                  have hmoved := h.move (k := k) (y := .ingesting startedAt
                    records (row.fingerprint :: written)) (by
                      intro t rs ws hi
                      rw [hk] at hi
                      cases hi
                      exact ⟨_, _, rfl, fun _ => List.mem_cons_of_mem _⟩)
                  refine ⟨hmoved.upsert (if_pos rfl) hfirst hlast
                    List.mem_cons_self hord htb, hself fun fp => ?_⟩
                  exact upsertRow_committedRow htb
      | _ => simp [step, hk] at hstep
  | link k previous current =>
      cases hk : x.state.scan k with
      | ingesting startedAt records written =>
          simp only [step, hk, Option.map_eq_some_iff] at hstep
          obtain ⟨tb, htb, rfl⟩ := hstep
          exact ⟨h.link hk htb, hself fun fp => linkRows_committedRow htb⟩
      | _ => simp [step, hk] at hstep
  | commit k =>
      cases hk : x.state.scan k with
      | ingesting startedAt records written =>
          cases records with
          | cons => simp [step, hk] at hstep
          | nil =>
              simp only [step, hk, Option.some.injEq] at hstep
              subst hstep
              simp only [note, hk]
              refine ⟨h.commit hk, ?_⟩
              intro fp f hf
              obtain ⟨g, hg, hle⟩ := h.committed_le_commit k hf
              exact ⟨g, hg, hle⟩
      | _ => simp [step, hk] at hstep
  | fail k =>
      simp only [step, Option.some.injEq] at hstep
      subst hstep
      refine ⟨h.rollback, hself fun fp => ?_⟩
      exact Table.rollback_committedRow

theorem ordered_reachable
    {x : Recorded (State Scan) (List (Bytes × Timestamp))}
    (h : (watched env subject).ReachableUnder (InOrder env subject) x) :
    Ordered x.state.findings x.state.scan x.history := by
  refine h.invariant
    (I := fun x => Ordered x.state.findings x.state.scan x.history) ?_ ?_
  · rintro ⟨s, writes⟩ ⟨rfl, rfl⟩
    exact ordered_init
  · intro x a y hx hG hstep
    obtain ⟨hs, hn⟩ := System.record_step hstep
    rw [hn]
    exact (ordered_step hx hG hs).1

/-! ## §5  The law -/

theorem NoEarlier.trans {s t u : State Scan} (hst : NoEarlier s t)
    (htu : NoEarlier t u) : NoEarlier s u := by
  intro fp f hf
  obtain ⟨g, hg, hfg⟩ := hst fp f hf
  obtain ⟨i, hi, hgi⟩ := htu fp g hg
  exact ⟨i, hi, Int.le_trans hfg hgi⟩

theorem sightings {x : Recorded (State Scan) (List (Bytes × Timestamp))}
    (h : (watched env subject).ReachableUnder (InOrder env subject) x) :
    FirstBeforeLast x.state ∧
      ∀ y, (watched env subject).Leads (InOrder env subject) x y →
        NoEarlier x.state y.state := by
  have hx := ordered_reachable h
  refine ⟨fun fp f hf => (hx.committed fp f hf).1, ?_⟩
  intro y hrun
  have hboth : Ordered y.state.findings y.state.scan y.history ∧
      NoEarlier x.state y.state := by
    refine hrun.invariant (I := fun y =>
      Ordered y.state.findings y.state.scan y.history ∧
        NoEarlier x.state y.state) ?_ ?_
    · rintro y a z ⟨hy, hxy⟩ hG hstep
      obtain ⟨hs, hn⟩ := System.record_step hstep
      obtain ⟨hz, hyz⟩ := ordered_step hy hG hs
      rw [hn]
      exact ⟨hz, hxy.trans hyz⟩
    · exact ⟨hx, fun fp f hf => ⟨f, hf, Int.le_refl _⟩⟩
  exact hboth.2

instance (x : Recorded (State Scan) (List (Bytes × Timestamp)))
    (a : Action Scan) : Decidable (InOrder sampleEnv sampleSubject x a) :=
  match a with
  | .ingest k sourceId draws =>
      inferInstanceAs (Decidable (∀ p ∈ (x.state.scan k).next sampleEnv
        sampleSubject sourceId draws, ∀ e ∈ x.history,
          e.1 = p.2.fingerprint → e.2 ≤ p.1))
  | .start .. | .respond .. | .link .. | .commit .. | .fail .. => isTrue trivial

/-- Both scans answered in the order of their starts. -/
def inOrder : List (Action Bool) :=
  [.start false 1, .start true 2,
    .respond false [sampleRecord none "2019-05-24"],
    .ingest false 9 (sampleDraws 6), .commit false,
    .respond true [sampleRecord none "2019-05-24"],
    .ingest true 9 (sampleDraws 7), .commit true]

theorem inOrder_seen :
    ∃ x, (watched sampleEnv sampleSubject).runUnder
        (InOrder sampleEnv sampleSubject) ⟨init, []⟩ inOrder = some x ∧
      x.history.length = 2 ∧ FirstBeforeLast x.state := by
  have hex : ∃ x, (watched sampleEnv sampleSubject).runUnder
      (InOrder sampleEnv sampleSubject) ⟨init, []⟩ inOrder = some x ∧
      x.history.length = 2 :=
    System.exists_of_runUnder (by decide)
  obtain ⟨x, hrun, hwrites⟩ := hex
  have hinit : (watched sampleEnv sampleSubject).init
      ⟨(init : State Bool), []⟩ := ⟨rfl, rfl⟩
  have hseen := sightings (System.reachable_of_runUnder hinit hrun)
  exact ⟨x, hrun, hwrites, hseen.1⟩

end LeakcheckHub.Findings.Sightings
