import LeakcheckHub.Batches.WriteSets

/-!
# Completion of a batch

`finish_work` counts the rows of its batch in one statement and writes the
counts in another. Each count is exact for what its worker sees; whether the
batch row is right at the end depends on how the counts of concurrent
`finish_work` transactions interleave.

§1 accuracy and a run that loses a completion · §2 counting rows ·
§3 the invariant of runs whose counts do not overlap · §4 steps ·
§5 the law.
-/

set_option linter.unusedSectionVars false

namespace LeakcheckHub.Batches

open Foundation

variable {Worker : Type} [DecidableEq Worker] {env : Env Worker}
  {s s' : State Worker} {a : Action Worker}

/-! ## §1  Accuracy -/

/-- The batch row of a batch all of whose rows are done: a terminal status and
the exact counts. -/
def BatchAccurate (s : State Worker) : Prop :=
  (∀ w, (s.worker w).inTransaction = false) →
    ∀ b row, s.batches.committedRow b = some row →
      (∀ x ∈ s.queue.committedRows,
        x.2.batchId = b → x.2.status.terminal = true) →
      row.status.terminal = true ∧
      row.completedCount = s.queue.committedRows.countP (fun x =>
        x.2.batchId == b && x.2.status == .succeeded) ∧
      row.failedCount = s.queue.committedRows.countP (fun x =>
        x.2.batchId == b && x.2.status == .failed)

/-- A `finish_work` whose counts are taken and not committed, so that another
transaction's counts miss its row or are overwritten by its own. -/
def FinishStage.settling : FinishStage → Bool
  | .updated _ => false
  | .counted _ _ => true
  | .written changed => changed

def WorkerState.settling (batchId : Uuid) : WorkerState → Bool
  | .finishing work stage => work.batchId == batchId && stage.settling
  | _ => false

/-- The batch of the `finish_work` a worker is in. -/
def WorkerState.finishingBatch : WorkerState → Option Uuid
  | .finishing work _ => some work.batchId
  | _ => none

/-- The rows of a batch are counted by one `finish_work` at a time. -/
def CountsAlone (s : State Worker) : Action Worker → Prop
  | .count w =>
      ∀ v, v ≠ w → ∀ b ∈ (s.worker w).finishingBatch,
        (s.worker v).settling b = false
  | _ => True

/-- Two workers, two rows of one batch: both count before either commits. -/
def lostCompletion : List (Action Bool) :=
  [.createBatch 1 2 [(10, 100), (11, 101)] 0,
    .claim false 0, .readSubject false, .startBatch false 0, .commit false,
    .claim true 0, .readSubject true, .startBatch true 0, .commit true,
    .finish false true none 1, .finish true true none 1,
    .count false, .count true,
    .writeCounts false 2, .commit false,
    .writeCounts true 2, .commit true]

def quietEnv : Env Bool := ⟨fun _ => [], fun _ => []⟩

/-- Both rows are done, one of them is counted, and the batch runs for
ever. -/
theorem lostCompletion_row :
    ∃ s, (system quietEnv).run init lostCompletion = some s ∧
      (∀ w, (s.worker w).inTransaction = false) ∧
      s.batches.committedRow 1 = some ⟨.running, 2, 1, 0, 0, some 0, none⟩ ∧
      ∀ x ∈ s.queue.committedRows, x.2.status.terminal = true :=
  System.exists_of_runUnder (by decide)

theorem completion_can_be_lost :
    ¬ ∀ s, (system quietEnv).Reachable s → BatchAccurate s := by
  intro hall
  obtain ⟨s, hrun, hquiet, hrow, hdone⟩ := lostCompletion_row
  have hacc := hall s (System.reachable_of_runUnder rfl hrun)
  obtain ⟨hterm, -⟩ := hacc hquiet 1 _ hrow fun x hx _ => hdone x hx
  cases hterm

/-! ## §2  Counting rows -/

/-- What one row contributes to the three counts of a batch. -/
def share (b : Uuid) (r : ScanQueue) : Bool × Bool × Bool :=
  (r.batchId == b && r.status == .succeeded,
    r.batchId == b && r.status == .failed, r.batchId == b)

theorem share_foreign {b : Uuid} {r : ScanQueue} (h : r.batchId ≠ b) :
    share b r = (false, false, false) := by
  simp [share, h]

/-- A claim moves a row between two unfinished statuses. -/
theorem share_claims {b : Uuid} {old new : ScanQueue} (h : Claims old new) :
    share b new = share b old := by
  obtain ⟨name, at_, hc, rfl⟩ := h
  have hs : old.status = .queued ∨ old.status = .running := by
    simp only [claimable, Bool.or_eq_true, Bool.and_eq_true, beq_iff_eq] at hc
    exact hc.imp id And.left
  unfold share
  rcases hs with hs | hs <;> rw [hs] <;> rfl

theorem share_finishes {b : Uuid} {old new : ScanQueue}
    (h : Finishes old new) (hb : old.batchId ≠ b) :
    share b new = share b old := by
  obtain ⟨-, ok, err, now, rfl⟩ := h
  rw [share_foreign hb, share_foreign (by simpa [finishRow] using hb)]

theorem countRows_rowsBy {q : Table Uuid Worker ScanQueue} {b : Uuid}
    {look : Cell Worker ScanQueue → Option ScanQueue} :
    countRows b (q.rowsBy look) =
      ⟨q.ids.countP fun i => (look (q.cell i)).any fun r => (share b r).1,
        q.ids.countP fun i => (look (q.cell i)).any fun r => (share b r).2.1,
        q.ids.countP fun i => (look (q.cell i)).any fun r => (share b r).2.2⟩ := by
  simp only [countRows, Counts.mk.injEq]
  exact ⟨Table.countP_rowsBy fun r => (share b r).1,
    Table.countP_rowsBy fun r => (share b r).2.1,
    Table.countP_rowsBy fun r => (share b r).2.2⟩

/-- Two views of the same identifiers with the same shares count the same. -/
theorem countRows_congr {q q' : Table Uuid Worker ScanQueue} {b : Uuid}
    {look look' : Cell Worker ScanQueue → Option ScanQueue}
    (hids : q'.ids = q.ids)
    (h : ∀ i, (look' (q'.cell i)).map (share b) =
      (look (q.cell i)).map (share b)) :
    countRows b (q'.rowsBy look') = countRows b (q.rowsBy look) := by
  have hany : ∀ (f : Bool × Bool × Bool → Bool) (i : Uuid),
      ((look' (q'.cell i)).any fun r => f (share b r)) =
        (look (q.cell i)).any fun r => f (share b r) := by
    intro f i
    have hi := congrArg (Option.any f) (h i)
    rwa [Option.any_map, Option.any_map] at hi
  rw [countRows_rowsBy, countRows_rowsBy, hids]
  simp only [hany Prod.fst, hany (fun x => x.2.1), hany (fun x => x.2.2)]

/-- When every row of a batch is done, each is in one of the two counts. -/
theorem countRows_done {b : Uuid} {rows : List (Uuid × ScanQueue)}
    (h : ∀ x ∈ rows, x.2.batchId = b → x.2.status.terminal = true) :
    (countRows b rows).completed + (countRows b rows).failed =
      (countRows b rows).total := by
  induction rows with
  | nil => rfl
  | cons x rows ih =>
      have ih := ih fun y hy => h y (List.mem_cons_of_mem _ hy)
      have hx := h x List.mem_cons_self
      simp only [countRows, List.countP_cons] at ih ⊢
      by_cases hb : x.2.batchId = b
      · have hx := hx hb
        cases hs : x.2.status <;> simp [hb, hs, QueueStatus.terminal] at hx ⊢ <;>
          omega
      · simp [hb]
        omega

/-- A row of another batch changes nothing. -/
theorem countRows_insert_foreign {q : Table Uuid Worker ScanQueue}
    {b i : Uuid} {r : ScanQueue}
    {look : Cell Worker ScanQueue → Option ScanQueue}
    (hlook : look ⟨some r, none⟩ = some r) (hi : i ∉ q.ids)
    (hb : r.batchId ≠ b) :
    countRows b ((q.insertCommitted i r).rowsBy look) =
      countRows b (q.rowsBy look) := by
  have hcell : ∀ j ∈ q.ids, (q.insertCommitted i r).cell j = q.cell j := by
    intro j hj
    refine Table.setCell_cell_ne ?_
    rintro rfl
    exact hi hj
  have hnew : (q.insertCommitted i r).cell i = ⟨some r, none⟩ :=
    Table.setCell_cell_self
  have hcount : ∀ p : ScanQueue → Bool, p r = false →
      (q.insertCommitted i r).ids.countP (fun j =>
        (look ((q.insertCommitted i r).cell j)).any p) =
      q.ids.countP fun j => (look (q.cell j)).any p := by
    intro p hp
    rw [Table.insertCommitted_ids hi, List.countP_cons, hnew, hlook]
    simp only [Option.any_some, hp, Bool.false_eq_true, if_false, Nat.add_zero]
    refine List.countP_congr fun j hj => ?_
    rw [hcell j hj]
  have hsh := share_foreign hb
  rw [countRows_rowsBy, countRows_rowsBy]
  rw [hcount (fun r => (share b r).1) (by simp [hsh]),
    hcount (fun r => (share b r).2.1) (by simp [hsh]),
    hcount (fun r => (share b r).2.2) (by simp [hsh])]

theorem countRows_create_foreign {b c : Uuid} {now : Timestamp}
    {look : Cell Worker ScanQueue → Option ScanQueue}
    (hlook : ∀ r, look ⟨some r, none⟩ = some r) (hbc : b ≠ c) :
    ∀ {items : List (Uuid × Uuid)} {q : Table Uuid Worker ScanQueue},
      (items.map Prod.fst).Nodup → (∀ i ∈ items.map Prod.fst, i ∉ q.ids) →
        countRows c ((insertQueueRows b now items q).rowsBy look) =
          countRows c (q.rowsBy look)
  | [], _, _, _ => rfl
  | (i, subj) :: items, q, hnd, hfresh => by
      rw [List.map_cons, List.nodup_cons] at hnd
      have hi : i ∉ q.ids := hfresh i (by simp)
      rw [insertQueueRows, countRows_create_foreign hlook hbc hnd.2]
      · exact countRows_insert_foreign (hlook _) hi hbc
      · intro j hj
        rw [Table.insertCommitted_ids hi, List.mem_cons, not_or]
        refine ⟨?_, hfresh j (List.mem_cons_of_mem _ hj)⟩
        rintro rfl
        exact hnd.1 hj

/-- No row of a new batch is done and there is at least one. -/
theorem countRows_create (h : WriteSets s) {b : Uuid} (now : Timestamp)
    {items : List (Uuid × Uuid)} (hc : createEnabled s b items = true) :
    let c := countRows b (insertQueueRows b now items s.queue).committedRows
    c.completed = 0 ∧ c.failed = 0 ∧ c.total ≠ 0 := by
  obtain ⟨hb, hne, hnd, -⟩ := createEnabled_spec hc
  have hqueued : ∀ x ∈ (insertQueueRows b now items s.queue).committedRows,
      x.2.batchId = b → x.2.status = .queued := by
    rintro ⟨i, r⟩ hx rfl
    rw [Table.mem_committedRows, Table.committedRow] at hx
    rcases insertQueueRows_cell items s.queue with hsame | ⟨subj, hnew⟩
    · rw [hsame] at hx
      obtain ⟨row, hrow⟩ := h.foreign i r hx
      exact absurd (Table.mem_ids_of_committedRow hrow) hb
    · rw [hnew, Option.some.injEq] at hx
      exact hx ▸ rfl
  have hnone : ∀ st : QueueStatus, st ≠ .queued →
      (insertQueueRows b now items s.queue).committedRows.countP
        (fun x => x.2.batchId == b && x.2.status == st) = 0 := by
    intro st hst
    refine List.countP_eq_zero.mpr fun x hx hdone => hst ?_
    rw [Bool.and_eq_true, beq_iff_eq, beq_iff_eq] at hdone
    exact hdone.2.symm.trans (hqueued x hx hdone.1)
  refine ⟨?_, ?_, ?_⟩
  · exact hnone .succeeded (by decide)
  · exact hnone .failed (by decide)
  · obtain ⟨x, items', rfl⟩ := List.exists_cons_of_ne_nil hne
    obtain ⟨subj, hnew⟩ :
        ∃ subj, (insertQueueRows b now (x :: items') s.queue).cell x.1 =
          ⟨some (newQueueRow b subj now), none⟩ :=
      insertQueueRows_cell_of_mem hnd List.mem_cons_self
    have hmem : (x.1, newQueueRow b subj now) ∈
        (insertQueueRows b now (x :: items') s.queue).committedRows := by
      rw [Table.mem_committedRows]
      exact congrArg Cell.committed hnew
    refine Nat.pos_iff_ne_zero.mp (List.countP_pos_iff.mpr ⟨_, hmem, ?_⟩)
    exact beq_self_eq_true b

/-! ## §3  The invariant -/

/-- A batch row says what the counts say. -/
def Agrees (c : Counts) (row : ScanBatch) : Prop :=
  row.completedCount = c.completed ∧ row.failedCount = c.failed ∧
    (c.completed + c.failed = c.total → row.status.terminal = true)

theorem agrees_applyCounts {c : Counts} {now : Timestamp} {row : ScanBatch} :
    Agrees c (applyCounts c now row) := by
  unfold applyCounts
  split
  · refine ⟨rfl, rfl, fun _ => ?_⟩
    by_cases hf : c.failed = 0 <;> simp [hf, BatchStatus.terminal]
  · rename_i hne
    exact ⟨rfl, rfl, fun h => absurd h hne⟩

/-- A pending batch has rows to do, so starting it contradicts no count. -/
theorem agrees_startRow {c : Counts} {now : Timestamp} {row : ScanBatch}
    (h : Agrees c row) (hp : row.status = .pending) :
    Agrees c (startRow now row) := by
  refine ⟨h.1, h.2.1, fun hall => ?_⟩
  have := h.2.2 hall
  rw [hp] at this
  cases this

/-- The stages after the counts are taken. -/
def FinishStage.hasCounted : FinishStage → Bool
  | .updated _ => false
  | .counted _ _ | .written _ => true

structure Accounted (s : State Worker) : Prop where
  row : ∀ b row, s.batches.committedRow b = some row →
    Agrees (countRows b s.queue.committedRows) row
  counted : ∀ w work ch c, s.worker w = .finishing work (.counted ch c) →
    c = countRows work.batchId (s.queue.rows w)
  written : ∀ w work ch, s.worker w = .finishing work (.written ch) →
    ∃ row, (s.batches.cell work.batchId).pending = some (w, some row) ∧
      Agrees (countRows work.batchId (s.queue.rows w)) row
  alone : ∀ v w work work' st st', v ≠ w →
    s.worker v = .finishing work st → s.worker w = .finishing work' st' →
      work.batchId = work'.batchId → st.settling = true → st'.settling = false

/-- What one worker's step has to show, everything else being untouched. -/
theorem Accounted.frame (h : Accounted s) {w : Worker}
    (hrow : ∀ b row, s'.batches.committedRow b = some row →
      Agrees (countRows b s'.queue.committedRows) row)
    (hothers : ∀ v, v ≠ w → s'.worker v = s.worker v)
    (hview : ∀ v, v ≠ w → ∀ work st, s.worker v = .finishing work st →
      st.hasCounted = true → countRows work.batchId (s'.queue.rows v) =
        countRows work.batchId (s.queue.rows v))
    (hpend : ∀ v, v ≠ w → ∀ b x, (s.batches.cell b).pending = some (v, x) →
      (s'.batches.cell b).pending = some (v, x))
    (hcounted : ∀ work ch c, s'.worker w = .finishing work (.counted ch c) →
      c = countRows work.batchId (s'.queue.rows w))
    (hwritten : ∀ work ch, s'.worker w = .finishing work (.written ch) →
      ∃ row, (s'.batches.cell work.batchId).pending = some (w, some row) ∧
        Agrees (countRows work.batchId (s'.queue.rows w)) row)
    (halone : ∀ work st, s'.worker w = .finishing work st →
      st.settling = true → ∀ v work' st', v ≠ w →
        s.worker v = .finishing work' st' → work'.batchId = work.batchId →
          st'.settling = false) :
    Accounted s' where
  row := hrow
  counted := by
    intro v work ch c hv
    by_cases hvw : v = w
    · subst hvw
      exact hcounted work ch c hv
    · rw [hothers v hvw] at hv
      rw [hview v hvw work _ hv rfl]
      exact h.counted v work ch c hv
  written := by
    intro v work ch hv
    by_cases hvw : v = w
    · subst hvw
      exact hwritten work ch hv
    · rw [hothers v hvw] at hv
      obtain ⟨row, hp, hag⟩ := h.written v work ch hv
      refine ⟨row, hpend v hvw _ _ hp, ?_⟩
      rwa [hview v hvw work _ hv rfl]
  alone := by
    intro v u work work' st st' hne hv hu hb hst
    by_cases hvw : v = w
    · subst hvw
      rw [hothers u hne.symm] at hu
      exact halone work st hv hst u work' st' hne.symm hu hb.symm
    · rw [hothers v hvw] at hv
      by_cases huw : u = w
      · subst huw
        cases hst' : st'.settling with
        | false => rfl
        | true =>
            have := halone work' st' hu hst' v work st hvw hv hb
            rw [hst] at this
            cases this
      · rw [hothers u huw] at hu
        exact h.alone v u work work' st st' hne hv hu hb hst

/-- `w` has nothing pending that changes a count of batch `b`. -/
def KeepsShares (s : State Worker) (w : Worker) (b : Uuid) : Prop :=
  ∀ i old new, s.queue.committedRow i = some old →
    queueWrites (s.worker w) i old new → share b new = share b old

section Views

variable {w v : Worker} {b : Uuid}

theorem WriteSets.countRows_view (h : WriteSets s) (hk : KeepsShares s w b) :
    countRows b (s.queue.rows w) = countRows b s.queue.committedRows := by
  refine countRows_congr rfl fun i => ?_
  rcases Cell.read_cases w (s.queue.cell i) with ⟨x, hp, hread⟩ | ⟨-, hread⟩
  · obtain ⟨old, new, ho, rfl, hw⟩ := h.queue w i x hp
    rw [hread]
    have ho' : (s.queue.cell i).committed = some old := ho
    rw [ho', Option.map_some, Option.map_some, hk i old new ho hw]
  · rw [hread]

theorem WriteSets.countRows_commit (h : WriteSets s) (hvw : v ≠ w)
    (hk : KeepsShares s w b) :
    countRows b ((s.queue.commit w).rows v) = countRows b (s.queue.rows v) := by
  refine countRows_congr rfl fun i => ?_
  rw [Table.commit_cell]
  rcases Cell.read_commit_other hvw with hsame | ⟨⟨x, hp⟩, hread⟩
  · rw [hsame]
  · obtain ⟨old, new, ho, rfl, hw⟩ := h.queue w i x hp
    have hv : (s.queue.cell i).read v = some old :=
      (Cell.read_of_locked hp hvw.symm).trans ho
    rw [hread, hv, Cell.read_of_pending hp, Option.map_some, Option.map_some,
      hk i old new ho hw]

theorem WriteSets.countRows_put (h : WriteSets s) {i : Uuid}
    {old new : ScanQueue} (hvw : v ≠ w)
    (hq : ∀ i o n, ¬ queueWrites (s.worker w) i o n)
    (hr : s.queue.read w i = some old)
    (hfree : (s.queue.cell i).heldByOther w = false) :
    countRows b ((s.queue.put w i (some new)).rows v) =
      countRows b (s.queue.rows v) := by
  refine countRows_congr (Table.put_ids (Table.mem_ids_of_read hr)) fun j => ?_
  by_cases hj : j = i
  · subst hj
    obtain ⟨hp, -⟩ := unlocked (h.no_queue hq j) hfree
    rw [Table.put_cell_self, Cell.read_put_other hvw.symm,
      Cell.read_of_unowned (by simp [hp])]
  · rw [Table.put_cell_ne hj]

end Views

/-! ## §4  Steps -/

section Steps

variable {w : Worker}

/-- A step of `w` up to its counts: nothing is committed, and the others see
what they saw. -/
theorem Accounted.quiet (h : Accounted s)
    (hothers : ∀ v, v ≠ w → s'.worker v = s.worker v)
    (hy : ∀ work st, s'.worker w = .finishing work st → st.hasCounted = false)
    (hq : s'.queue.committedRows = s.queue.committedRows)
    (hb : ∀ b, s'.batches.committedRow b = s.batches.committedRow b)
    (hview : ∀ v, v ≠ w → ∀ b, countRows b (s'.queue.rows v) =
      countRows b (s.queue.rows v))
    (hpend : ∀ v, v ≠ w → ∀ b x, (s.batches.cell b).pending = some (v, x) →
      (s'.batches.cell b).pending = some (v, x)) :
    Accounted s' := by
  refine h.frame ?_ hothers (fun v hv work _ _ _ => hview v hv _) hpend
    ?_ ?_ ?_
  · intro b row hrow
    rw [hb] at hrow
    rw [hq]
    exact h.row b row hrow
  · intro work ch c hw
    have := hy work _ hw
    cases this
  · intro work ch hw
    have := hy work _ hw
    cases this
  · intro work st hw hst
    have hno := hy work st hw
    cases st with
    | updated => cases hst
    | _ => cases hno

/-- `w` only moves on, to a point before its counts. -/
theorem Accounted.move (h : Accounted s) {y : WorkerState}
    (hy : ∀ work st, y = .finishing work st → st.hasCounted = false) :
    Accounted (s.setWorker w y) := by
  refine h.quiet (fun v hv => setWorker_worker_ne hv) ?_ rfl (fun _ => rfl)
    (fun _ _ _ => rfl) (fun _ _ _ _ hp => hp)
  intro work st hw
  rw [setWorker_worker_self] at hw
  exact hy work st hw

/-- `w` writes a queue row and moves on, to a point before its counts. -/
theorem Accounted.putQueue (h : Accounted s) (hws : WriteSets s)
    {i : Uuid} {old new : ScanQueue} {y : WorkerState}
    (hq : ∀ i o n, ¬ queueWrites (s.worker w) i o n)
    (hr : s.queue.read w i = some old)
    (hfree : (s.queue.cell i).heldByOther w = false)
    (hy : ∀ work st, y = .finishing work st → st.hasCounted = false) :
    Accounted ({ s with queue := s.queue.put w i (some new) }.setWorker
      w y) := by
  refine h.quiet (fun v hv => setWorker_worker_ne hv) ?_ ?_ (fun _ => rfl)
    ?_ (fun _ _ _ _ hp => hp)
  · intro work st hw
    rw [setWorker_worker_self] at hw
    exact hy work st hw
  · exact Table.put_committedRows (Table.mem_ids_of_read hr)
  · intro v hv b
    exact hws.countRows_put hv hq hr hfree

/-- Pending batch rows of others survive a write under the row lock. -/
theorem Accounted.startBatch (h : Accounted s) {work : ClaimedWork}
    {row : ScanBatch}
    (hfree : (s.batches.cell work.batchId).heldByOther w = false) :
    Accounted ({ s with
      batches := s.batches.put w work.batchId (some row) }.setWorker
        w (.batchStarted work)) := by
  refine h.quiet (fun v hv => setWorker_worker_ne hv) ?_ rfl ?_
    (fun _ _ _ => rfl) (fun v hv b x hp => (Table.put_pending_other hv hfree).mpr hp)
  · intro work' st hw
    rw [setWorker_worker_self] at hw
    cases hw
  · intro b
    exact Table.put_committedRow

/-- The counts are taken alone and are exact for what `w` sees. -/
theorem Accounted.count (h : Accounted s) {work : ClaimedWork} {ch : Bool}
    (hw : s.worker w = .finishing work (.updated ch))
    (hg : CountsAlone s (.count w)) :
    Accounted (s.setWorker w (.finishing work
      (.counted ch (countRows work.batchId (s.queue.rows w))))) := by
  refine h.frame (w := w) h.row (fun v hv => setWorker_worker_ne hv)
    (fun _ _ _ _ _ _ => rfl) (fun _ _ _ _ hp => hp) ?_ ?_ ?_
  · intro work' ch' c hy
    rw [setWorker_worker_self] at hy
    cases hy
    rfl
  · intro work' ch' hy
    rw [setWorker_worker_self] at hy
    cases hy
  · intro work' st hy _ v work'' st' hv hst hb
    rw [setWorker_worker_self] at hy
    cases hy
    have := hg v hv work.batchId (by rw [hw]; rfl)
    rwa [hst, WorkerState.settling, hb, beq_self_eq_true, Bool.true_and]
      at this

theorem Accounted.writeCounts (h : Accounted s) {work : ClaimedWork}
    {ch : Bool} {c : Counts} {now : Timestamp} {row : ScanBatch}
    (hw : s.worker w = .finishing work (.counted ch c))
    (hfree : (s.batches.cell work.batchId).heldByOther w = false) :
    Accounted ({ s with
      batches := s.batches.put w work.batchId
        (some (applyCounts c now row)) }.setWorker
          w (.finishing work (.written ch))) := by
  refine h.frame (w := w) ?_ (fun v hv => setWorker_worker_ne hv)
    (fun _ _ _ _ _ _ => rfl)
    (fun v hv b x hp => (Table.put_pending_other hv hfree).mpr hp) ?_ ?_ ?_
  · intro b r hr
    rw [setWorker_batches, Table.put_committedRow] at hr
    exact h.row b r hr
  · intro work' ch' c' hy
    rw [setWorker_worker_self] at hy
    cases hy
  · intro work' ch' hy
    rw [setWorker_worker_self] at hy
    cases hy
    refine ⟨applyCounts c now row, ?_, ?_⟩
    · simp
    · rw [setWorker_queue, ← h.counted w work ch c hw]
      exact agrees_applyCounts
  · intro work' st hy hst v work'' st' hv hst' hb
    rw [setWorker_worker_self] at hy
    cases hy
    exact h.alone w v work work'' _ st' hv.symm hw hst' hb.symm rfl

/-- A commit makes its own view the committed one: the counts it writes are
exact, and it changes the counts of no other open `finish_work`. -/
theorem Accounted.commit (h : Accounted s) (hws : WriteSets s)
    {work : ClaimedWork}
    (hw : s.worker w = .batchStarted work ∨
      ∃ ch, s.worker w = .finishing work (.written ch)) :
    Accounted ((s.commit w).setWorker w (.ready (some work))) := by
  -- only a call that finished a row changes counts, and those of its batch
  have hkeep : ∀ b, (∀ ch, s.worker w = .finishing work (.written ch) →
      b = work.batchId → ch = false) → KeepsShares s w b := by
    intro b hb i old new ho hq
    rcases hw with hw | ⟨ch, hw⟩
    · rw [hw] at hq
      exact share_claims hq.2
    · obtain ⟨r, hr, hrb⟩ := hws.holds w work.queueId work.batchId
        (by rw [hw]; rfl)
      have hch := hb ch hw
      rw [hw] at hq
      obtain ⟨hchanged, rfl, hfin⟩ := hq
      rw [ho, Option.some.injEq] at hr
      subst hr
      refine share_finishes hfin ?_
      rintro rfl
      have hfalse := hch hrb
      rw [FinishStage.changed, hfalse] at hchanged
      cases hchanged
  -- what `w` wrote is right for what `w` sees
  have hown : ∀ b row, s.batches.read w b = some row →
      Agrees (countRows b (s.queue.rows w)) row := by
    intro b row hrow
    rcases Cell.read_cases w (s.batches.cell b) with ⟨x, hp, hread⟩ | ⟨hp, hread⟩
    · obtain ⟨old, new, ho, rfl, hbw⟩ := hws.batch w b x hp
      rw [Table.read, hread, Option.some.injEq] at hrow
      subst hrow
      rcases hw with hw | ⟨ch, hw⟩
      · rw [hw] at hbw
        obtain ⟨-, hpend, now, rfl⟩ := hbw
        rw [hws.countRows_view (hkeep b fun ch hc => by rw [hw] at hc; cases hc)]
        exact agrees_startRow (h.row b old ho) hpend
      · rw [hw] at hbw
        obtain ⟨rfl, -⟩ := hbw
        obtain ⟨row, hpend, hag⟩ := h.written w work ch hw
        rw [hp, Option.some.injEq, Prod.mk.injEq, Option.some.injEq] at hpend
        exact hpend.2 ▸ hag
    · rw [Table.read, hread] at hrow
      rw [hws.countRows_view (hkeep b ?_)]
      · exact h.row b row hrow
      · rintro ch hc rfl
        obtain ⟨row, hpend, -⟩ := h.written w work ch hc
        exact absurd hpend (hp _)
  refine h.frame (w := w) ?_ (fun v hv => setWorker_worker_ne hv) ?_ ?_
    ?_ ?_ ?_
  · intro b row hrow
    rw [setWorker_batches, State.commit, Table.commit_committedRow] at hrow
    rw [setWorker_queue, State.commit, Table.commit_committedRows]
    exact hown b row hrow
  · intro v hv work' st hst hcount
    refine hws.countRows_commit hv (hkeep _ fun ch hc hb => ?_)
    cases st with
    | updated => cases hcount
    | counted ch' c =>
        exact h.alone v w work' work _ _ hv hst hc hb rfl
    | written ch' =>
        -- both hold the row lock of the batch
        obtain ⟨row, hpend, -⟩ := h.written w work ch hc
        obtain ⟨row', hpend', -⟩ := h.written v work' ch' hst
        rw [hb, hpend, Option.some.injEq, Prod.mk.injEq] at hpend'
        exact absurd hpend'.1.symm hv
  · intro v hv b x hp
    rw [setWorker_batches, State.commit, Table.commit_cell,
      Cell.commit_pending_other hv]
    exact hp
  · intro work' ch c hy
    rw [setWorker_worker_self] at hy
    cases hy
  · intro work' ch hy
    rw [setWorker_worker_self] at hy
    cases hy
  · intro work' st hy
    rw [setWorker_worker_self] at hy
    cases hy

theorem Accounted.rollback (h : Accounted s) :
    Accounted ((s.rollback w).setWorker w (.ready none)) := by
  refine h.quiet (w := w) (fun v hv => setWorker_worker_ne hv) ?_ ?_ ?_ ?_ ?_
  · intro work st hy
    rw [setWorker_worker_self] at hy
    cases hy
  · exact Table.rollback_committedRows
  · intro b
    exact Table.rollback_committedRow
  · intro v hv b
    rw [setWorker_queue, State.rollback, Table.rollback_rows_other hv]
  · intro v hv b x hp
    rw [setWorker_batches, State.rollback, Table.rollback_cell,
      Cell.rollback_pending_other hv]
    exact hp

/-- A new batch has nothing done; the others do not see its rows. -/
theorem Accounted.create (h : Accounted s) (hws : WriteSets s) {b : Uuid}
    {n : ℕ} {items : List (Uuid × Uuid)} {now : Timestamp}
    (hc : createEnabled s b items = true) :
    Accounted { s with
      queue := insertQueueRows b now items s.queue
      batches := s.batches.insertCommitted b (newBatch n now) } := by
  obtain ⟨hb, -, hnd, hfresh⟩ := createEnabled_spec hc
  -- whoever finishes work does it in a batch that was there before
  have hwork : ∀ v work st, s.worker v = .finishing work st →
      b ≠ work.batchId := by
    rintro v work st hv rfl
    obtain ⟨r, hr, hrb⟩ := hws.holds v work.queueId work.batchId
      (by rw [hv]; rfl)
    obtain ⟨row, hrow⟩ := hws.foreign _ r hr
    exact hb (hrb ▸ Table.mem_ids_of_committedRow hrow)
  have hview : ∀ v work st, s.worker v = .finishing work st →
      countRows work.batchId ((insertQueueRows b now items s.queue).rows v) =
        countRows work.batchId (s.queue.rows v) := by
    intro v work st hv
    exact countRows_create_foreign (fun _ => rfl) (hwork v work st hv) hnd
      hfresh
  constructor
  case row =>
    intro c row hrow
    by_cases hcb : c = b
    · subst hcb
      have hrow' : some (newBatch n now) = some row := by
        rw [← hrow, Table.committedRow, Table.insertCommitted,
          Table.setCell_cell_self]
      rw [Option.some.injEq] at hrow'
      obtain ⟨h0, h1, h2⟩ := countRows_create hws now hc
      subst hrow'
      refine ⟨h0.symm, h1.symm, fun hall => ?_⟩
      rw [h0, h1] at hall
      exact absurd hall.symm h2
    · rw [Table.committedRow, Table.insertCommitted_cell_ne hcb] at hrow
      have hcount : countRows c
          (insertQueueRows b now items s.queue).committedRows =
            countRows c s.queue.committedRows :=
        countRows_create_foreign (fun _ => rfl) (Ne.symm hcb) hnd hfresh
      rw [hcount]
      exact h.row c row hrow
  case counted =>
    intro v work ch c hv
    rw [hview v work _ hv]
    exact h.counted v work ch c hv
  case written =>
    intro v work ch hv
    obtain ⟨row, hp, hag⟩ := h.written v work ch hv
    refine ⟨row, ?_, ?_⟩
    · rw [Table.insertCommitted_cell_ne (hwork v work _ hv).symm]
      exact hp
    · rw [hview v work _ hv]
      exact hag
  case alone =>
    exact h.alone

end Steps

theorem accounted_init : Accounted (init : State Worker) where
  row := by
    intro b row h
    cases h
  counted := by
    intro w work ch c h
    cases h
  written := by
    intro w work ch h
    cases h
  alone := by
    intro v w work work' st st' _ h
    cases h

/-- **Step lemma.** A step that counts alone keeps the books. -/
theorem accounted_step (h : Accounted s) (hws : WriteSets s)
    (hg : CountsAlone s a) (hs : StepOf env s a s') : Accounted s' := by
  cases hs with
  | createBatch hc => exact h.create hws hc
  | claimNothing hw => exact h.move (fun _ _ hy => by cases hy)
  | claim hw hc =>
      obtain ⟨hr, -, hfree⟩ := candidate_spec hc
      exact h.putQueue hws (fun _ _ _ hq => by rw [hw] at hq; exact hq) hr
        hfree (fun _ _ hy => by cases hy)
  | readSubject hw => exact h.move (fun _ _ hy => by cases hy)
  | startSkip hw => exact h.move (fun _ _ hy => by cases hy)
  | startBatch hw hb hp hfree => exact h.startBatch hfree
  | finishSkip hw => exact h.move (fun _ _ hy => by cases hy; rfl)
  | finish hw hr hp hfree =>
      exact h.putQueue hws (fun _ _ _ hq => by rw [hw] at hq; exact hq) hr
        hfree (fun _ _ hy => by cases hy; rfl)
  | count hw => exact h.count hw hg
  | writeSkip hw hb =>
      -- the batch of a held row exists
      obtain ⟨r, hr, hrb⟩ := hws.holds _ _ _ (by rw [hw]; rfl)
      obtain ⟨row, hrow⟩ := hws.foreign _ r hr
      obtain ⟨row', hrow'⟩ := hws.read_batch (hrb ▸ hrow)
      rw [hb] at hrow'
      cases hrow'
  | writeCounts hw hb hfree => exact h.writeCounts hw hfree
  | commit hw => exact h.commit hws hw
  | abort => exact h.rollback

/-- **Run lemma.** -/
theorem accounted_reachable (h : (system env).ReachableUnder CountsAlone s) :
    WriteSets s ∧ Accounted s := by
  refine h.invariant (I := fun s => WriteSets s ∧ Accounted s) ?_ ?_
  · rintro s rfl
    exact ⟨writeSets_init, accounted_init⟩
  · rintro s a t ⟨hws, hac⟩ hg hstep
    have hs := step_cases hstep
    exact ⟨writeSets_step hws hs, accounted_step hac hws hg hs⟩

/-! ## §5  The law -/

/-- The books of a run are what accuracy asks for. -/
theorem Accounted.accurate (h : Accounted s) : BatchAccurate s := by
  intro _ b row hrow hdone
  obtain ⟨hcompleted, hfailed, hterm⟩ := h.row b row hrow
  refine ⟨hterm ?_, hcompleted, hfailed⟩
  exact countRows_done hdone

/-- Batches are accurate in every run that counts the rows of a batch in one
`finish_work` at a time. -/
theorem batch_accurate_of_counts_alone
    (h : (system env).ReachableUnder CountsAlone s) : BatchAccurate s :=
  (accounted_reachable h).2.accurate

/-- Two workers that finish one after the other. -/
def orderlyCompletion : List (Action Bool) :=
  [.createBatch 1 2 [(10, 100), (11, 101)] 0,
    .claim false 0, .readSubject false, .startBatch false 0, .commit false,
    .claim true 0, .readSubject true, .startBatch true 0, .commit true,
    .finish false true none 1, .finish true false none 1,
    .count false, .writeCounts false 2, .commit false,
    .count true, .writeCounts true 2, .commit true]

/-- With two workers the guard looks at the other one. -/
theorem countsAlone_bool {s : State Bool} {a : Action Bool} :
    (match a with
      | .count w => (s.worker w).finishingBatch.all fun b =>
          !(s.worker (!w)).settling b
      | _ => true) = true ↔ CountsAlone s a := by
  cases a with
  | count w =>
      simp only [Option.all_eq_true, Bool.not_eq_true', CountsAlone]
      constructor
      · intro h v hv b hb
        rw [Bool.eq_not.mpr hv]
        exact h b hb
      · intro h b hb
        exact h (!w) (by simp) b hb
  | _ => simp [CountsAlone]

instance (s : State Bool) (a : Action Bool) : Decidable (CountsAlone s a) :=
  decidable_of_iff _ countsAlone_bool

theorem orderly_completion_accurate :
    ∃ s, (system quietEnv).runUnder CountsAlone init orderlyCompletion =
        some s ∧
      s.batches.committedRow 1 =
        some ⟨.partialSuccess, 2, 1, 1, 0, some 0, some 2⟩ ∧
      BatchAccurate s := by
  have hrun : ∃ s, (system quietEnv).runUnder CountsAlone init
      orderlyCompletion = some s ∧ s.batches.committedRow 1 =
        some ⟨.partialSuccess, 2, 1, 1, 0, some 0, some 2⟩ :=
    System.exists_of_runUnder (by decide)
  obtain ⟨s, hrun, hrow⟩ := hrun
  exact ⟨s, hrun, hrow,
    batch_accurate_of_counts_alone (System.reachable_of_runUnder rfl hrun)⟩

end LeakcheckHub.Batches
