import LeakcheckHub.Batches.Leases

/-!
# Calls of `finish_work` that come late

A claim ends when its row is claimed again or finished, and a worker is not
told. The first statement of `finish_work` asks only whether the row is
RUNNING, and the third rewrites the batch row whatever the first one did.

§1 late calls and a run they disturb · §2 when a late call finds nothing to
do · §3 the invariant · §4 steps · §5 the law.
-/

set_option linter.unusedSectionVars false

namespace LeakcheckHub.Batches

open Foundation

variable {Worker : Type} [DecidableEq Worker] {env : Env Worker}
  {s s' : State Worker} {h : History Worker} {a : Action Worker}

/-! ## §1  Late calls -/

/-- The transaction of a late `finish_work` commits no change. -/
def LateCallsChangeNothing (env : Env Worker)
    (x : Recorded (State Worker) (History Worker)) : Prop :=
  ∀ w work stage, x.state.worker w = .finishing work stage →
    x.history.late w = true →
      ∀ y, (watched env).step x (.commit w) = some y →
        (∀ i, y.state.queue.committedRow i = x.state.queue.committedRow i) ∧
        ∀ b, y.state.batches.committedRow b = x.state.batches.committedRow b

def idleEnv : Env Bool := ⟨fun _ => [], fun _ => []⟩

/-- The first worker finishes after the second has taken its row over. -/
def overtaken : List (Action Bool) :=
  takenOver ++ [.finish false false none (staleAfter + 2), .count false,
    .writeCounts false (staleAfter + 3)]

/-- The late worker decides: the row the other one is at work on has FAILED,
and so has its batch. -/
theorem overtaken_decides :
    ∃ x y, (watched idleEnv).run ⟨init, noHistory⟩ overtaken = some x ∧
      (watched idleEnv).step x (.commit false) = some y ∧
      (x.state.worker false = .finishing ⟨10, 1, 100, []⟩ (.written true) ∧
        x.history.late false = true) ∧
      (x.state.queue.committedRow 10).map ScanQueue.status = some .running ∧
      (y.state.queue.committedRow 10).map ScanQueue.status = some .failed := by
  have hex : ∃ x, (watched idleEnv).run ⟨init, noHistory⟩ overtaken = some x ∧
      (((watched idleEnv).step x (.commit false)).any fun y => decide
        (((x.state.worker false = .finishing ⟨10, 1, 100, []⟩ (.written true) ∧
            x.history.late false = true) ∧
          (x.state.queue.committedRow 10).map ScanQueue.status =
            some .running) ∧
          (y.state.queue.committedRow 10).map ScanQueue.status =
            some .failed)) = true :=
    System.exists_of_runUnder (by decide)
  obtain ⟨x, hrun, hany⟩ := hex
  obtain ⟨y, hy, hp⟩ := (Option.any_eq_true _ _).mp hany
  have hp := of_decide_eq_true hp
  exact ⟨x, y, hrun, hy, hp.1.1, hp.1.2, hp.2⟩

theorem late_calls_can_decide :
    ¬ ∀ x, (watched idleEnv).Reachable x →
      LateCallsChangeNothing idleEnv x := by
  intro hall
  obtain ⟨x, y, hrun, hy, ⟨hw, hlate⟩, hx, hfailed⟩ := overtaken_decides
  have hinit : (watched idleEnv).init ⟨init, noHistory⟩ := ⟨rfl, rfl⟩
  have hno := hall x (System.reachable_of_runUnder hinit hrun)
  obtain ⟨hqueue, -⟩ := hno false _ _ hw hlate y hy
  rw [hqueue 10, hx] at hfailed
  cases hfailed

/-! ## §2  When a late call finds nothing to do -/

def WorkerState.idleWork : WorkerState → Option ClaimedWork
  | .ready work => work
  | _ => none

def WorkerState.finishingWork : WorkerState → Option ClaimedWork
  | .finishing work _ => some work
  | _ => none

/-- The work of a `finish_work` between its counts and their update. -/
def WorkerState.countedWork : WorkerState → Option ClaimedWork
  | .finishing work (.counted _ _) => some work
  | _ => none

/-- The work of a `finish_work` about to commit a row it finished. -/
def WorkerState.finishedWork : WorkerState → Option ClaimedWork
  | .finishing work (.written true) => some work
  | _ => none

/-- Some row of the batch is unfinished and the batch row carries the counts
of those that are finished. -/
def UpToDate (s : State Worker) (b : Uuid) : Prop :=
  (∃ x ∈ s.queue.committedRows,
    x.2.batchId = b ∧ x.2.status.terminal = false) ∧
  ∀ row ∈ s.batches.committedRow b,
    row.completedCount = s.queue.committedRows.countP (fun x =>
      x.2.batchId == b && x.2.status == .succeeded) ∧
    row.failedCount = s.queue.committedRows.countP (fun x =>
      x.2.batchId == b && x.2.status == .failed)

/-- A row still RUNNING is finished under its newest claim only; a late call
counts while its batch is up to date; and no row of that batch is finished
before the late call has written its counts. -/
def Undisturbed (x : Recorded (State Worker) (History Worker)) :
    Action Worker → Prop
  | .finish w _ _ _ =>
      ∀ work ∈ (x.state.worker w).idleWork,
        ∀ r ∈ x.state.queue.committedRow work.queueId,
          r.status = .running → x.history.holds w work.queueId = true
  | .count w =>
      x.history.late w = true →
        ∀ work ∈ (x.state.worker w).finishingWork,
          UpToDate x.state work.batchId
  | .commit v =>
      ∀ work ∈ (x.state.worker v).finishedWork, ∀ w, x.history.late w = true →
        ∀ work' ∈ (x.state.worker w).countedWork,
          work'.batchId ≠ work.batchId
  | _ => True

/-- No row is in both counts. -/
theorem countRows_le (b : Uuid) (rows : List (Uuid × ScanQueue)) :
    (countRows b rows).completed + (countRows b rows).failed ≤
      (countRows b rows).total := by
  induction rows with
  | nil => exact Nat.le_refl _
  | cons y ys ih =>
      simp only [countRows, List.countP_cons] at ih ⊢
      by_cases hy : y.2.batchId = b
      · cases y.2.status <;> simp [hy] <;> omega
      · simp [hy]
        omega

/-- An unfinished row is in neither count. -/
theorem countRows_undone {b : Uuid} {rows : List (Uuid × ScanQueue)}
    {x : Uuid × ScanQueue} (hx : x ∈ rows) (hb : x.2.batchId = b)
    (ht : x.2.status.terminal = false) :
    (countRows b rows).completed + (countRows b rows).failed <
      (countRows b rows).total := by
  induction rows with
  | nil => cases hx
  | cons y ys ih =>
      rcases List.mem_cons.mp hx with rfl | hx
      · have hys := countRows_le b ys
        simp only [countRows, List.countP_cons] at hys ⊢
        cases hs : x.2.status with
        | queued | running =>
            simp [hb]
            omega
        | succeeded | failed =>
            rw [hs] at ht
            cases ht
      · have ih := ih hx
        simp only [countRows, List.countP_cons] at ih ⊢
        by_cases hy : y.2.batchId = b
        · cases y.2.status <;> simp [hy] <;> omega
        · simp [hy]
          omega

/-- Counts a batch row carries already, of a batch that is not done. -/
def Carries (row : ScanBatch) (c : Counts) : Prop :=
  row.completedCount = c.completed ∧ row.failedCount = c.failed

theorem Carries.applyCounts {row : ScanBatch} {c : Counts} {now : Timestamp}
    (hrow : Carries row c) (hc : c.completed + c.failed ≠ c.total) :
    applyCounts c now row = row := by
  unfold Batches.applyCounts
  rw [if_neg hc, ← hrow.1, ← hrow.2]

theorem Carries.startRow {row : ScanBatch} {c : Counts} {now : Timestamp}
    (hrow : Carries row c) : Carries (startRow now row) c := hrow

/-! ## §3  The invariant -/

structure Harmless (s : State Worker) (h : History Worker) : Prop where
  changed : ∀ w work st, s.worker w = .finishing work st →
    (st.changed = false ↔ h.late w = true)
  counted : ∀ w work ch c, h.late w = true →
    s.worker w = .finishing work (.counted ch c) →
      c.completed + c.failed ≠ c.total ∧
      ∀ row, s.batches.committedRow work.batchId = some row → Carries row c
  written : ∀ w work ch b x, h.late w = true →
    s.worker w = .finishing work (.written ch) →
      (s.batches.cell b).pending = some (w, x) →
        x = s.batches.committedRow b

/-- What a step of `w` has to show, the other workers being where they
were. -/
theorem Harmless.frame {h' : History Worker} {w : Worker} (hh : Harmless s h)
    (hothers : ∀ v, v ≠ w → s'.worker v = s.worker v)
    (hlate : ∀ v, v ≠ w → h'.late v = h.late v)
    (hcounts : ∀ v, v ≠ w → h.late v = true → ∀ work ch c,
      s.worker v = .finishing work (.counted ch c) →
        ∀ row', s'.batches.committedRow work.batchId = some row' →
          ∃ row, s.batches.committedRow work.batchId = some row ∧
            (Carries row c → Carries row' c))
    (hpend : ∀ v, v ≠ w → ∀ b x,
      (s'.batches.cell b).pending = some (v, x) →
        (s.batches.cell b).pending = some (v, x) ∧
          s'.batches.committedRow b = s.batches.committedRow b)
    (hchanged : ∀ work st, s'.worker w = .finishing work st →
      (st.changed = false ↔ h'.late w = true))
    (hcounted : ∀ work ch c, h'.late w = true →
      s'.worker w = .finishing work (.counted ch c) →
        c.completed + c.failed ≠ c.total ∧
        ∀ row, s'.batches.committedRow work.batchId = some row →
          Carries row c)
    (hwritten : ∀ work ch b x, h'.late w = true →
      s'.worker w = .finishing work (.written ch) →
        (s'.batches.cell b).pending = some (w, x) →
          x = s'.batches.committedRow b) : Harmless s' h' where
  changed := by
    intro v work st hv
    by_cases hvw : v = w
    · subst hvw
      exact hchanged work st hv
    · rw [hothers v hvw] at hv
      rw [hlate v hvw]
      exact hh.changed v work st hv
  counted := by
    intro v work ch c hl hv
    by_cases hvw : v = w
    · subst hvw
      exact hcounted work ch c hl hv
    · rw [hothers v hvw] at hv
      rw [hlate v hvw] at hl
      obtain ⟨hne, hcar⟩ := hh.counted v work ch c hl hv
      refine ⟨hne, fun row' hrow' => ?_⟩
      obtain ⟨row, hrow, himp⟩ := hcounts v hvw hl work ch c hv row' hrow'
      exact himp (hcar row hrow)
  written := by
    intro v work ch b x hl hv hp
    by_cases hvw : v = w
    · subst hvw
      exact hwritten work ch b x hl hv hp
    · rw [hothers v hvw] at hv
      rw [hlate v hvw] at hl
      obtain ⟨hp, hrow⟩ := hpend v hvw b x hp
      rw [hrow]
      exact hh.written v work ch b x hl hv hp

/-- The work a worker finishes is in the queue, under a batch that exists. -/
theorem WriteSets.batch_exists (hws : WriteSets s) {w : Worker}
    {work : ClaimedWork} {st : FinishStage}
    (hw : s.worker w = .finishing work st) :
    ∃ row, s.batches.committedRow work.batchId = some row := by
  have hheld : held (s.worker w) = some (work.queueId, work.batchId) := by
    rw [hw]
    rfl
  obtain ⟨r, hr, hb⟩ := hws.holds w _ _ hheld
  exact hb ▸ hws.foreign _ r hr

/-- A late call whose first statement found nothing sees the committed rows. -/
theorem Harmless.rows_eq (hh : Harmless s h) (hws : WriteSets s) {w : Worker}
    {work : ClaimedWork} {st : FinishStage}
    (hw : s.worker w = .finishing work st) (hl : h.late w = true) :
    s.queue.rows w = s.queue.committedRows := by
  have hno : ∀ i o n, ¬ queueWrites (s.worker w) i o n := by
    intro i o n hq
    rw [hw] at hq
    have hch : st.changed = true := hq.1
    rw [(hh.changed w work st hw).mpr hl] at hch
    cases hch
  unfold Table.rows Table.committedRows Table.rowsBy
  refine List.filterMap_congr fun i _ => ?_
  rw [Cell.read_of_unowned (hws.no_queue hno i)]

/-! ## §4  Steps -/

section Steps

variable {h' : History Worker} {w : Worker}

/-- `w` moves on without writing a batch row. -/
theorem Harmless.move (hh : Harmless s h) (hws : WriteSets s)
    (hbatch : s'.batches = s.batches)
    (hothers : ∀ v, v ≠ w → s'.worker v = s.worker v)
    (hlate : ∀ v, v ≠ w → h'.late v = h.late v)
    (hchanged : ∀ work st, s'.worker w = .finishing work st →
      (st.changed = false ↔ h'.late w = true))
    (hcounted : ∀ work ch c, h'.late w = true →
      s'.worker w = .finishing work (.counted ch c) →
        c.completed + c.failed ≠ c.total ∧
        ∀ row, s.batches.committedRow work.batchId = some row →
          Carries row c)
    (hwritten : ∀ work ch, s'.worker w = .finishing work (.written ch) →
      ∀ b o n, ¬ batchWrites (s.worker w) b o n) : Harmless s' h' := by
  refine hh.frame hothers hlate ?_ ?_ hchanged ?_ ?_
  · intro v hv hl work ch c hvw row hrow
    rw [hbatch] at hrow
    exact ⟨row, hrow, id⟩
  · intro v hv b x hp
    rw [hbatch] at hp ⊢
    exact ⟨hp, rfl⟩
  · intro work ch c hl hw
    rw [hbatch]
    exact hcounted work ch c hl hw
  · intro work ch b x hl hw hp
    rw [hbatch] at hp
    exact absurd hp (hws.no_batch (hwritten work ch hw) b x)

/-- `w` goes to a point outside `finish_work`, so only the other workers have
to be looked at. -/
theorem Harmless.leave (hh : Harmless s h) {y : WorkerState}
    (hw : s'.worker w = y) (hout : ∀ work st, y ≠ .finishing work st)
    (hothers : ∀ v, v ≠ w → s'.worker v = s.worker v)
    (hlate : h'.late = h.late)
    (hcounts : ∀ v, v ≠ w → h.late v = true → ∀ work ch c,
      s.worker v = .finishing work (.counted ch c) →
        ∀ row', s'.batches.committedRow work.batchId = some row' →
          ∃ row, s.batches.committedRow work.batchId = some row ∧
            (Carries row c → Carries row' c))
    (hpend : ∀ v, v ≠ w → ∀ b x,
      (s'.batches.cell b).pending = some (v, x) →
        (s.batches.cell b).pending = some (v, x) ∧
          s'.batches.committedRow b = s.batches.committedRow b) :
    Harmless s' h' := by
  subst hw
  apply hh.frame hothers (fun v _ => by rw [hlate]) hcounts hpend
  · intro work st hst
    exact absurd hst (hout work st)
  · intro work ch c _ hst
    exact absurd hst (hout work _)
  · intro work ch b x _ hst
    exact absurd hst (hout work _)

/-- The same, with every batch row left alone. -/
theorem Harmless.pass (hh : Harmless s h) {y : WorkerState}
    (hw : s'.worker w = y) (hout : ∀ work st, y ≠ .finishing work st)
    (hbatch : s'.batches = s.batches)
    (hothers : ∀ v, v ≠ w → s'.worker v = s.worker v)
    (hlate : h'.late = h.late) : Harmless s' h' := by
  apply hh.leave hw hout hothers hlate
  · intro v hv hl work ch c hvw row hrow
    rw [hbatch] at hrow
    exact ⟨row, hrow, id⟩
  · intro v hv b x hp
    rw [hbatch] at hp ⊢
    exact ⟨hp, rfl⟩

/-- `w` writes a batch row. -/
theorem Harmless.put (hh : Harmless s h) (hws : WriteSets s) {b : Uuid}
    {new : ScanBatch} {y : WorkerState}
    (hfree : (s.batches.cell b).heldByOther w = false)
    (hno : ∀ b o n, ¬ batchWrites (s.worker w) b o n)
    (hchanged : ∀ work st, y = .finishing work st →
      (st.changed = false ↔ h.late w = true))
    (hcounted : ∀ work ch c, y ≠ .finishing work (.counted ch c))
    (hwritten : ∀ work ch, h.late w = true →
      y = .finishing work (.written ch) →
        some new = s.batches.committedRow b) :
    Harmless ({ s with batches := s.batches.put w b (some new) }.setWorker
      w y) h := by
  refine hh.frame (w := w) (fun v hv => setWorker_worker_ne hv)
    (fun _ _ => rfl) ?_ ?_ ?_ ?_ ?_
  · intro v hv hl work ch c hvw row hrow
    rw [setWorker_batches, Table.put_committedRow] at hrow
    exact ⟨row, hrow, id⟩
  · intro v hv c x hp
    rw [setWorker_batches, Table.put_committedRow]
    exact ⟨(Table.put_pending_other hv hfree).mp hp, rfl⟩
  · intro work st hw
    rw [setWorker_worker_self] at hw
    exact hchanged work st hw
  · intro work ch c hl hw
    rw [setWorker_worker_self] at hw
    exact absurd hw (hcounted work ch c)
  · intro work ch c x hl hw hp
    rw [setWorker_worker_self] at hw
    rw [setWorker_batches] at hp ⊢
    rw [Table.put_committedRow]
    by_cases hcb : c = b
    · subst hcb
      rw [Table.put_cell_self, Cell.put_pending, Option.some.injEq,
        Prod.mk.injEq] at hp
      exact hp.2 ▸ hwritten work ch hl hw
    · rw [Table.put_cell_ne hcb] at hp
      exact absurd hp (hws.no_batch hno c x)

/-- `w` ends its transaction with its versions dropped. -/
theorem Harmless.abort (hh : Harmless s h) :
    Harmless ((s.rollback w).setWorker w (.ready none)) h := by
  refine hh.leave (w := w) setWorker_worker_self (fun _ _ hy => by cases hy)
    (fun v hv => setWorker_worker_ne hv) rfl ?_ ?_
  · intro v hv hl work ch c hvw row hrow
    rw [setWorker_batches, State.rollback, Table.rollback_committedRow] at hrow
    exact ⟨row, hrow, id⟩
  · intro v hv b x hp
    rw [setWorker_batches, State.rollback, Table.rollback_committedRow]
    exact ⟨(Cell.rollback_pending_other hv).mp hp, rfl⟩

/-- `w` commits: a batch row it has written is started, or was counted by a
call that finished a row, or is as it was. -/
theorem Harmless.commit (hh : Harmless s h) (hws : WriteSets s)
    {work : ClaimedWork} {h' : History Worker} (hlate : h'.late = h.late)
    (hw : s.worker w = .batchStarted work ∨
      ∃ ch, s.worker w = .finishing work (.written ch))
    (hG : Undisturbed ⟨s, h⟩ (.commit w)) :
    Harmless ((s.commit w).setWorker w (.ready (some work))) h' := by
  refine hh.leave (w := w) setWorker_worker_self (fun _ _ hy => by cases hy)
    (fun v hv => setWorker_worker_ne hv) hlate ?_ ?_
  · intro v hv hl work' ch' c hvw row' hrow'
    rw [setWorker_batches, State.commit, Table.commit_committedRow] at hrow'
    rcases Cell.read_cases w (s.batches.cell work'.batchId) with
      ⟨x, hp, hread⟩ | ⟨-, hread⟩
    · obtain ⟨old, new, ho, rfl, hb⟩ := hws.batch w _ x hp
      rw [Table.read, hread, Option.some.injEq] at hrow'
      subst hrow'
      refine ⟨old, ho, ?_⟩
      rcases hw with hw | ⟨ch, hw⟩
      · rw [hw] at hb
        obtain ⟨-, -, now, rfl⟩ := hb
        exact Carries.startRow
      · cases ch with
        | true =>
            -- a call that finished a row of this batch has to wait
            have hne := hG work (by rw [hw]; rfl) v hl work' (by rw [hvw]; rfl)
            rw [hw] at hb
            exact absurd hb.1 hne
        | false =>
            have hlw := (hh.changed w work _ hw).mp rfl
            have hsame := hh.written w work false _ _ hlw hw hp
            rw [ho, Option.some.injEq] at hsame
            exact fun hc => hsame ▸ hc
    · rw [Table.read, hread] at hrow'
      exact ⟨row', hrow', id⟩
  · intro v hv b x hp
    have hp := (Cell.commit_pending_other hv).mp hp
    refine ⟨hp, ?_⟩
    -- the row is locked by `v`, so `w` committed nothing into it
    rw [setWorker_batches, State.commit, Table.commit_committedRow]
    exact Cell.read_of_locked hp hv

end Steps

theorem Harmless.create (hh : Harmless s h) (hws : WriteSets s) {b : Uuid}
    {n : ℕ} {items : List (Uuid × Uuid)} {now : Timestamp}
    (hc : createEnabled s b items = true) :
    Harmless { s with
      queue := insertQueueRows b now items s.queue
      batches := s.batches.insertCommitted b (newBatch n now) } h := by
  obtain ⟨hb, -, -, -⟩ := createEnabled_spec hc
  have hcell : ∀ {c}, c ≠ b →
      (s.batches.insertCommitted b (newBatch n now)).cell c =
        s.batches.cell c := fun hne => Table.insertCommitted_cell_ne hne
  constructor
  · exact hh.changed
  · intro w work ch c hl hw
    obtain ⟨hne, hcar⟩ := hh.counted w work ch c hl hw
    obtain ⟨row, hrow⟩ := hws.batch_exists hw
    have hold : work.batchId ≠ b := by
      rintro rfl
      exact hb (Table.mem_ids_of_committedRow hrow)
    refine ⟨hne, fun row' hrow' => ?_⟩
    exact hcar row' ((congrArg Cell.committed (hcell hold)).symm.trans hrow')
  · intro w work ch c x hl hw hp
    have hcb : c ≠ b := by
      rintro rfl
      rw [Table.insertCommitted, Table.setCell_cell_self] at hp
      cases hp
    rw [hcell hcb] at hp
    have hsame := hh.written w work ch c x hl hw hp
    exact hsame.trans (congrArg Cell.committed (hcell hcb)).symm

/-- What `finish_work` finds decides its first stage. -/
theorem finish_stage {w : Worker} {work : ClaimedWork} {ok : Bool}
    {err : Option PyStr} {now : Timestamp}
    (hw : s.worker w = .ready (some work))
    (hstep : step env s (.finish w ok err now) = some s') :
    s'.worker w = .finishing work (.updated
      ((s.queue.read w work.queueId).any fun r => r.status == .running)) := by
  simp only [step, hw, Option.map_eq_some_iff] at hstep
  obtain ⟨tb, -, rfl⟩ := hstep
  exact setWorker_worker_self

/-- The first statement takes effect for a current claim and for no other. -/
theorem Harmless.finish (hh : Harmless s h) (hws : WriteSets s) {w : Worker}
    {work : ClaimedWork} {ok : Bool} {err : Option PyStr} {now : Timestamp}
    (hw : s.worker w = .ready (some work))
    (hG : Undisturbed ⟨s, h⟩ (.finish w ok err now))
    (hstep : step env s (.finish w ok err now) = some s')
    (hbatch : s'.batches = s.batches)
    (hothers : ∀ v, v ≠ w → s'.worker v = s.worker v) :
    Harmless s' (note s h (.finish w ok err now)) := by
  have hstage := finish_stage hw hstep
  have hread : s.queue.read w work.queueId =
      s.queue.committedRow work.queueId := by
    have hno : ∀ i o n, ¬ queueWrites (s.worker w) i o n := by
      rw [hw]
      exact fun _ _ _ hq => hq
    exact Cell.read_of_unowned (hws.no_queue hno _)
  rw [hread] at hstage
  have hlate : ∀ v, v ≠ w →
      (note s h (.finish w ok err now)).late v = h.late v := by
    intro v hv
    simp only [note, hw]
    exact if_neg hv
  have hlw : (note s h (.finish w ok err now)).late w =
      !current s h w work := by
    simp [note, hw]
  refine hh.move (w := w) hws hbatch hothers hlate ?_ ?_ ?_
  · intro work' st hst
    rw [hstage] at hst
    cases hst
    rw [hlw]
    simp only [FinishStage.changed, current, Bool.not_eq_true']
    cases hrow : s.queue.committedRow work.queueId with
    | none => simp
    | some r =>
        by_cases hrun : r.status = .running
        · have hholds := hG work (by rw [hw]; rfl) r hrow hrun
          simp [hrun, hholds]
        · simp [hrun]
  · intro work' ch c hl hst
    rw [hstage] at hst
    cases hst
  · intro work' ch hst
    rw [hstage] at hst
    cases hst

theorem harmless_init : Harmless (init : State Worker) noHistory where
  changed := by
    intro w work st h
    cases h
  counted := by
    intro w work ch c h
    cases h
  written := by
    intro w work ch b x h
    cases h

/-- **Step lemma.** A step that meets the condition leaves late calls nothing
to change. -/
theorem harmless_step (hh : Harmless s h) (hws : WriteSets s)
    (hG : Undisturbed ⟨s, h⟩ a) (hstep : step env s a = some s') :
    Harmless s' (note s h a) := by
  have hs := step_cases hstep
  cases hs with
  | createBatch hc => exact hh.create hws hc
  | claimNothing hw =>
      exact hh.pass setWorker_worker_self (fun _ _ hy => by cases hy) rfl
        (fun v hv => setWorker_worker_ne hv) rfl
  | claim hw hc =>
      exact hh.pass setWorker_worker_self (fun _ _ hy => by cases hy) rfl
        (fun v hv => setWorker_worker_ne hv) rfl
  | readSubject hw =>
      exact hh.pass setWorker_worker_self (fun _ _ hy => by cases hy) rfl
        (fun v hv => setWorker_worker_ne hv) rfl
  | startSkip hw =>
      exact hh.pass setWorker_worker_self (fun _ _ hy => by cases hy) rfl
        (fun v hv => setWorker_worker_ne hv) rfl
  | startBatch hw hb hp hfree =>
      refine hh.put hws hfree (by rw [hw]; exact fun _ _ _ hb => hb) ?_ ?_ ?_
      · intro work st hst
        cases hst
      · intro work ch c hst
        cases hst
      · intro work ch hl hst
        cases hst
  | finishSkip hw =>
      exact hh.finish hws hw hG hstep rfl (fun v hv => setWorker_worker_ne hv)
  | finish hw hr hp hfree =>
      exact hh.finish hws hw hG hstep rfl (fun v hv => setWorker_worker_ne hv)
  | @count w work ch hw =>
      refine hh.move (w := w) hws rfl (fun v hv => setWorker_worker_ne hv)
        (fun _ _ => rfl) ?_ ?_ ?_
      · intro work' st hst
        rw [setWorker_worker_self] at hst
        cases hst
        exact hh.changed w work (.updated ch) hw
      · intro work' ch' c hl hst
        rw [setWorker_worker_self] at hst
        cases hst
        obtain ⟨⟨x, hx, hb, ht⟩, hrow⟩ := hG hl work (by rw [hw]; rfl)
        rw [hh.rows_eq hws hw hl]
        -- an unfinished row keeps the batch from being done
        have hlt := countRows_undone hx hb ht
        exact ⟨Nat.ne_of_lt hlt, hrow⟩
      · intro work' ch' hst
        rw [setWorker_worker_self] at hst
        cases hst
  | @writeSkip w work ch c now hw hb =>
      refine hh.move (w := w) hws rfl (fun v hv => setWorker_worker_ne hv)
        (fun _ _ => rfl) ?_ ?_ ?_
      · intro work' st hst
        rw [setWorker_worker_self] at hst
        cases hst
        exact hh.changed w work (.counted ch c) hw
      · intro work' ch' c' hl hst
        rw [setWorker_worker_self] at hst
        cases hst
      · intro work' ch' hst
        rw [hw]
        exact fun _ _ _ hb => hb
  | @writeCounts w work ch c now b hw hb hfree =>
      have hno : ∀ b o n, ¬ batchWrites (s.worker w) b o n := by
        rw [hw]
        exact fun _ _ _ hb => hb
      refine hh.put hws hfree hno ?_ ?_ ?_
      · intro work' st hst
        cases hst
        exact hh.changed w work (.counted ch c) hw
      · intro work' ch' c' hst
        cases hst
      · intro work' ch' hl hst
        cases hst
        -- the counts are those the row has, so the row is written as it is
        have hrow := (unlocked (hws.no_batch hno work.batchId) hfree).2
        rw [hb] at hrow
        obtain ⟨hne, hcar⟩ := hh.counted w work ch c hl hw
        rw [(hcar b hrow.symm).applyCounts hne]
        exact hrow
  | commit hw =>
      refine hh.commit hws ?_ hw hG
      rcases hw with hw | ⟨ch, hw⟩
      · simp only [note, hw]
      · simp only [note, hw]
  | abort => exact hh.abort

theorem harmless_reachable
    {x : Recorded (State Worker) (History Worker)}
    (hx : (watched env).ReachableUnder Undisturbed x) :
    WriteSets x.state ∧ Harmless x.state x.history := by
  refine hx.invariant
    (I := fun x => WriteSets x.state ∧ Harmless x.state x.history) ?_ ?_
  · rintro ⟨s, h⟩ ⟨rfl, rfl⟩
    exact ⟨writeSets_init, harmless_init⟩
  · rintro x a y ⟨hws, hh⟩ hG hstep
    obtain ⟨hs, hn⟩ := System.record_step hstep
    rw [hn]
    exact ⟨writeSets_step hws (step_cases hs), harmless_step hh hws hG hs⟩

/-! ## §5  The law -/

/-- What a late call would commit is what is there. -/
theorem Harmless.reads (hh : Harmless s h) (hws : WriteSets s) {w : Worker}
    {work : ClaimedWork} {ch : Bool} (hl : h.late w = true)
    (hw : s.worker w = .finishing work (.written ch)) :
    (∀ i, s.queue.read w i = s.queue.committedRow i) ∧
      ∀ b, s.batches.read w b = s.batches.committedRow b := by
  constructor
  · intro i
    refine Cell.read_of_unowned fun x hp => ?_
    obtain ⟨old, new, -, -, hq⟩ := hws.queue w i x hp
    rw [hw] at hq
    have hch : ch = true := hq.1
    have := (hh.changed w work _ hw).mpr hl
    rw [FinishStage.changed, hch] at this
    cases this
  · intro b
    rcases Cell.read_cases w (s.batches.cell b) with ⟨x, hp, hread⟩ | ⟨-, hread⟩
    · exact hread.trans (hh.written w work ch b x hl hw hp)
    · exact hread

theorem late_calls_change_nothing
    {x : Recorded (State Worker) (History Worker)}
    (hx : (watched env).ReachableUnder Undisturbed x) :
    LateCallsChangeNothing env x := by
  obtain ⟨hws, hh⟩ := harmless_reachable hx
  intro w work stage hw hl y hstep
  have hs : StepOf env x.state (.commit w) y.state :=
    step_cases (System.record_step hstep).1
  generalize x.state = s at *
  generalize y.state = t at *
  cases hs with
  | commit hcases =>
      rcases hcases with hw' | ⟨ch, hw'⟩
      · rw [hw] at hw'
        cases hw'
      · obtain ⟨hqueue, hbatch⟩ := hh.reads hws hl hw'
        simp only [setWorker_queue, setWorker_batches, State.commit,
          Table.commit_committedRow]
        exact ⟨hqueue, hbatch⟩

instance (s : State Worker) (b : Uuid) : Decidable (UpToDate s b) :=
  inferInstanceAs (Decidable ((∃ x ∈ s.queue.committedRows,
    x.2.batchId = b ∧ x.2.status.terminal = false) ∧ _))

instance (x : Recorded (State Bool) (History Bool)) (a : Action Bool) :
    Decidable (Undisturbed x a) :=
  match a with
  | .finish w _ _ _ =>
      inferInstanceAs (Decidable (∀ work ∈ (x.state.worker w).idleWork,
        ∀ r ∈ x.state.queue.committedRow work.queueId,
          r.status = .running → x.history.holds w work.queueId = true))
  | .count w =>
      inferInstanceAs (Decidable (x.history.late w = true →
        ∀ work ∈ (x.state.worker w).finishingWork,
          UpToDate x.state work.batchId))
  | .commit v =>
      inferInstanceAs (Decidable (∀ work ∈ (x.state.worker v).finishedWork,
        ∀ w, x.history.late w = true →
          ∀ work' ∈ (x.state.worker w).countedWork,
            work'.batchId ≠ work.batchId))
  | .createBatch .. | .claim .. | .readSubject .. | .startBatch ..
  | .writeCounts .. | .abort .. => isTrue trivial

/-- The first worker comes back when the second has finished its row, with
another row of the batch still to do. -/
def lateButHarmless : List (Action Bool) :=
  [.createBatch 1 2 [(10, 100), (11, 101)] 0,
    .claim false 0, .readSubject false, .startBatch false 0, .commit false,
    .claim true (staleAfter + 1), .readSubject true,
    .startBatch true (staleAfter + 1), .commit true,
    .finish true true none 700, .count true, .writeCounts true 701,
    .commit true,
    .finish false false none 800, .count false, .writeCounts false 801]

theorem lateButHarmless_changes_nothing :
    ∃ x y, (watched idleEnv).runUnder Undisturbed ⟨init, noHistory⟩
        lateButHarmless = some x ∧
      x.history.late false = true ∧
      (watched idleEnv).step x (.commit false) = some y ∧
      ∀ b, y.state.batches.committedRow b = x.state.batches.committedRow b := by
  have hex : ∃ x, (watched idleEnv).runUnder Undisturbed ⟨init, noHistory⟩
      lateButHarmless = some x ∧
      (x.state.worker false = .finishing ⟨10, 1, 100, []⟩ (.written false) ∧
        x.history.late false = true ∧
        ((watched idleEnv).step x (.commit false)).isSome = true) :=
    System.exists_of_runUnder (by decide)
  obtain ⟨x, hrun, hw, hlate, hsome⟩ := hex
  obtain ⟨y, hy⟩ := Option.isSome_iff_exists.mp hsome
  have hinit : (watched idleEnv).init ⟨init, noHistory⟩ := ⟨rfl, rfl⟩
  have hno := late_calls_change_nothing
    (System.reachable_of_runUnder hinit hrun) false _ _ hw hlate y hy
  exact ⟨x, y, hrun, hlate, hy, hno.2⟩

end LeakcheckHub.Batches
