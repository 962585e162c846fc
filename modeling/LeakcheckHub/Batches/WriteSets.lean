import LeakcheckHub.Batches.Queue

/-!
# Write sets of the queue's workers

What a worker may have pending at each point of `claim_next` and
`finish_work`, as an invariant of every run: no guard is needed for it. The
case analysis of the step function is done once (`step_cases`); everything
later argues about its outcomes.
-/

set_option linter.unusedSectionVars false

namespace LeakcheckHub.Batches

open Foundation

variable {Worker : Type} [DecidableEq Worker] {env : Env Worker}
  {s s' : State Worker} {a : Action Worker}

/-! ## §1  What a step does -/

inductive StepOf (env : Env Worker) (s : State Worker) :
    Action Worker → State Worker → Prop
  | createBatch {b n items now} (h : createEnabled s b items = true) :
      StepOf env s (.createBatch b n items now)
        { s with
          queue := insertQueueRows b now items s.queue
          batches := s.batches.insertCommitted b (newBatch n now) }
  | claimNothing {w work at_} (hw : s.worker w = .ready work) :
      StepOf env s (.claim w at_) (s.setWorker w (.ready none))
  | claim {w work at_ i r} (hw : s.worker w = .ready work)
      (hc : candidate s.queue w at_ = some (i, r)) :
      StepOf env s (.claim w at_)
        ({ s with
            queue := s.queue.put w i
              (some (claimRow (env.workerId w) at_ r)) }.setWorker w
                (.claimed i r.batchId r.subjectId))
  | readSubject {w i b subj} (hw : s.worker w = .claimed i b subj) :
      StepOf env s (.readSubject w) (s.setWorker w
        (.subjectRead ⟨i, b, subj, env.subjectValue subj⟩))
  | startSkip {w work now} (hw : s.worker w = .subjectRead work) :
      StepOf env s (.startBatch w now) (s.setWorker w (.batchStarted work))
  | startBatch {w work now b} (hw : s.worker w = .subjectRead work)
      (hb : s.batches.read w work.batchId = some b)
      (hp : b.status = .pending)
      (hfree : (s.batches.cell work.batchId).heldByOther w = false) :
      StepOf env s (.startBatch w now)
        ({ s with
            batches := s.batches.put w work.batchId
              (some (startRow now b)) }.setWorker w (.batchStarted work))
  | finishSkip {w work ok err now}
      (hw : s.worker w = .ready (some work)) :
      StepOf env s (.finish w ok err now)
        (s.setWorker w (.finishing work (.updated false)))
  | finish {w work ok err now r} (hw : s.worker w = .ready (some work))
      (hr : s.queue.read w work.queueId = some r)
      (hp : r.status = .running)
      (hfree : (s.queue.cell work.queueId).heldByOther w = false) :
      StepOf env s (.finish w ok err now)
        ({ s with
            queue := s.queue.put w work.queueId
              (some (finishRow ok err now r)) }.setWorker w
                (.finishing work (.updated true)))
  | count {w work ch}
      (hw : s.worker w = .finishing work (.updated ch)) :
      StepOf env s (.count w) (s.setWorker w (.finishing work
        (.counted ch (countRows work.batchId (s.queue.rows w)))))
  | writeSkip {w work ch c now}
      (hw : s.worker w = .finishing work (.counted ch c))
      (hb : s.batches.read w work.batchId = none) :
      StepOf env s (.writeCounts w now)
        (s.setWorker w (.finishing work (.written ch)))
  | writeCounts {w work ch c now b}
      (hw : s.worker w = .finishing work (.counted ch c))
      (hb : s.batches.read w work.batchId = some b)
      (hfree : (s.batches.cell work.batchId).heldByOther w = false) :
      StepOf env s (.writeCounts w now)
        ({ s with
            batches := s.batches.put w work.batchId
              (some (applyCounts c now b)) }.setWorker w
                (.finishing work (.written ch)))
  | commit {w work}
      (hw : s.worker w = .batchStarted work ∨
        ∃ ch, s.worker w = .finishing work (.written ch)) :
      StepOf env s (.commit w)
        ((s.commit w).setWorker w (.ready (some work)))
  | abort {w} :
      StepOf env s (.abort w)
        ((s.rollback w).setWorker w (.ready none))

theorem step_cases (h : step env s a = some s') : StepOf env s a s' := by
  cases a with
  | createBatch b n items now =>
      simp only [step] at h
      split at h
      · rename_i hc
        cases h
        exact .createBatch hc
      · cases h
  | claim w at_ =>
      cases hw : s.worker w with
      | ready work =>
          cases hc : candidate s.queue w at_ with
          | none =>
              simp only [step, hw, hc, Option.some.injEq] at h
              exact h ▸ .claimNothing hw
          | some x =>
              simp only [step, hw, hc, Option.some.injEq] at h
              exact h ▸ .claim hw hc
      | _ => simp [step, hw] at h
  | readSubject w =>
      cases hw : s.worker w with
      | claimed i b subj =>
          simp only [step, hw, Option.some.injEq] at h
          exact h ▸ .readSubject hw
      | _ => simp [step, hw] at h
  | startBatch w now =>
      cases hw : s.worker w with
      | subjectRead work =>
          simp only [step, hw, Option.map_eq_some_iff] at h
          obtain ⟨tb, htb, rfl⟩ := h
          rcases Table.updateWhere_cases htb with ⟨rfl, -⟩ | ⟨b, hb, hp, hfree, rfl⟩
          · exact .startSkip hw
          · exact .startBatch hw hb (by simpa using hp) hfree
      | _ => simp [step, hw] at h
  | finish w ok err now =>
      cases hw : s.worker w with
      | ready work =>
          cases work with
          | none => simp [step, hw] at h
          | some work =>
              simp only [step, hw, Option.map_eq_some_iff] at h
              obtain ⟨tb, htb, rfl⟩ := h
              rcases Table.updateWhere_cases htb with
                ⟨rfl, hno⟩ | ⟨r, hr, hp, hfree, rfl⟩
              · have hch : ((s.queue.read w work.queueId).any fun r =>
                    r.status == .running) = false := by
                  cases hr : s.queue.read w work.queueId with
                  | none => rfl
                  | some r => exact hno r hr
                rw [hch]
                exact .finishSkip hw
              · have hch : ((s.queue.read w work.queueId).any fun r =>
                    r.status == .running) = true := by
                  rw [hr]
                  exact hp
                rw [hch]
                exact .finish hw hr (by simpa using hp) hfree
      | _ => simp [step, hw] at h
  | count w =>
      cases hw : s.worker w with
      | finishing work st =>
          cases st with
          | updated ch =>
              simp only [step, hw, Option.some.injEq] at h
              exact h ▸ .count hw
          | _ => simp [step, hw] at h
      | _ => simp [step, hw] at h
  | writeCounts w now =>
      cases hw : s.worker w with
      | finishing work st =>
          cases st with
          | counted ch c =>
              simp only [step, hw, Option.map_eq_some_iff] at h
              obtain ⟨tb, htb, rfl⟩ := h
              rcases Table.updateWhere_cases htb with
                ⟨rfl, hno⟩ | ⟨b, hb, -, hfree, rfl⟩
              · refine .writeSkip hw ?_
                cases hb : s.batches.read w work.batchId with
                | none => rfl
                | some b => exact absurd (hno b hb) (by simp)
              · exact .writeCounts hw hb hfree
          | _ => simp [step, hw] at h
      | _ => simp [step, hw] at h
  | commit w =>
      cases hw : s.worker w with
      | batchStarted work =>
          simp only [step, hw, Option.some.injEq] at h
          exact h ▸ .commit (.inl hw)
      | finishing work st =>
          cases st with
          | written ch =>
              simp only [step, hw, Option.some.injEq] at h
              exact h ▸ .commit (.inr ⟨ch, hw⟩)
          | _ => simp [step, hw] at h
      | _ => simp [step, hw] at h
  | abort w =>
      simp only [step, Option.some.injEq] at h
      exact h ▸ .abort

/-! ## §2  Write sets -/

/-- What a claim does to a row. -/
def Claims (old new : ScanQueue) : Prop :=
  ∃ name at_, claimable at_ old = true ∧ new = claimRow name at_ old

/-- What the first statement of `finish_work` does to a row. -/
def Finishes (old new : ScanQueue) : Prop :=
  old.status = .running ∧ ∃ ok err now, new = finishRow ok err now old

def FinishStage.changed : FinishStage → Bool
  | .updated ch | .counted ch _ | .written ch => ch

/-- The queue rows a worker may have pending. -/
def queueWrites : WorkerState → Uuid → ScanQueue → ScanQueue → Prop
  | .ready _, _, _, _ => False
  | .claimed q _ _, i, old, new => i = q ∧ Claims old new
  | .subjectRead work, i, old, new => i = work.queueId ∧ Claims old new
  | .batchStarted work, i, old, new => i = work.queueId ∧ Claims old new
  | .finishing work st, i, old, new =>
      st.changed = true ∧ i = work.queueId ∧ Finishes old new

/-- The batch rows a worker may have pending. -/
def batchWrites : WorkerState → Uuid → ScanBatch → ScanBatch → Prop
  | .batchStarted work, b, old, new =>
      b = work.batchId ∧ old.status = .pending ∧ ∃ now, new = startRow now old
  | .finishing work (.written _), b, old, new =>
      b = work.batchId ∧ ∃ c now, new = applyCounts c now old
  | _, _, _, _ => False

/-- The queue row a worker works on, with the batch it takes it to be of. -/
def held : WorkerState → Option (Uuid × Uuid)
  | .ready none => none
  | .ready (some work) => some (work.queueId, work.batchId)
  | .claimed q b _ => some (q, b)
  | .subjectRead work => some (work.queueId, work.batchId)
  | .batchStarted work => some (work.queueId, work.batchId)
  | .finishing work _ => some (work.queueId, work.batchId)

structure WriteSets (s : State Worker) : Prop where
  foreign : ∀ i r, s.queue.committedRow i = some r →
    ∃ b, s.batches.committedRow r.batchId = some b
  holds : ∀ w i b, held (s.worker w) = some (i, b) →
    ∃ r, s.queue.committedRow i = some r ∧ r.batchId = b
  queue : ∀ w i x, (s.queue.cell i).pending = some (w, x) →
    ∃ old new, s.queue.committedRow i = some old ∧ x = some new ∧
      queueWrites (s.worker w) i old new
  batch : ∀ w b x, (s.batches.cell b).pending = some (w, x) →
    ∃ old new, s.batches.committedRow b = some old ∧ x = some new ∧
      batchWrites (s.worker w) b old new

@[simp] theorem setWorker_queue {w : Worker} {x : WorkerState} :
    (s.setWorker w x).queue = s.queue := rfl

@[simp] theorem setWorker_batches {w : Worker} {x : WorkerState} :
    (s.setWorker w x).batches = s.batches := rfl

@[simp] theorem setWorker_worker_self {w : Worker} {x : WorkerState} :
    (s.setWorker w x).worker w = x := if_pos rfl

theorem setWorker_worker_ne {w v : Worker} {x : WorkerState} (h : v ≠ w) :
    (s.setWorker w x).worker v = s.worker v := if_neg h

theorem queueWrites_batchId {x : WorkerState} {i : Uuid}
    {old new : ScanQueue} (h : queueWrites x i old new) :
    new.batchId = old.batchId := by
  cases x with
  | ready => exact h.elim
  | finishing =>
      obtain ⟨-, -, -, ok, err, now, rfl⟩ := h
      rfl
  | _ =>
      obtain ⟨-, name, at_, -, rfl⟩ := h
      rfl

theorem earliest_mem {x : Uuid × ScanQueue} :
    ∀ {xs : List (Uuid × ScanQueue)}, earliest xs = some x → x ∈ xs
  | y :: ys, h => by
      rw [earliest] at h
      split at h
      · cases h
        exact List.mem_cons_self
      · rename_i z hz
        rw [Option.some.injEq] at h
        split at h
        · exact h ▸ List.mem_cons_of_mem _ (earliest_mem hz)
        · exact h ▸ List.mem_cons_self

/-- A candidate is a row the worker sees, may claim, and is not locked by
another transaction. -/
theorem candidate_spec {q : Table Uuid Worker ScanQueue} {w : Worker}
    {at_ : Timestamp} {i : Uuid} {r : ScanQueue}
    (h : candidate q w at_ = some (i, r)) :
    q.read w i = some r ∧ claimable at_ r = true ∧
      (q.cell i).heldByOther w = false := by
  have hx := List.mem_filter.mp (earliest_mem h)
  rw [Bool.and_eq_true, Bool.not_eq_true'] at hx
  exact ⟨Table.mem_rows.mp hx.1, hx.2⟩

/-! ## §3  The invariant -/

section Preserved

variable {w : Worker} {x y : WorkerState}

/-- A worker that has nothing pending and meets no lock sees the committed
row. -/
theorem unlocked {Row : Type} {tb : Table Uuid Worker Row} {i : Uuid}
    (hnone : ∀ x, (tb.cell i).pending ≠ some (w, x))
    (hfree : (tb.cell i).heldByOther w = false) :
    (tb.cell i).pending = none ∧ tb.read w i = tb.committedRow i := by
  refine ⟨?_, Cell.read_of_unowned hnone⟩
  cases hp : (tb.cell i).pending with
  | none => rfl
  | some p =>
      obtain ⟨o, x⟩ := p
      have ho := Cell.heldByOther_eq_false.mp hfree o x hp
      exact absurd hp (ho ▸ hnone x)

theorem WriteSets.no_queue (h : WriteSets s)
    (hx : ∀ i o n, ¬ queueWrites (s.worker w) i o n) (i : Uuid)
    (x : Option ScanQueue) : (s.queue.cell i).pending ≠ some (w, x) := by
  intro hp
  obtain ⟨old, new, -, -, hw⟩ := h.queue w i x hp
  exact hx i old new hw

theorem WriteSets.no_batch (h : WriteSets s)
    (hx : ∀ b o n, ¬ batchWrites (s.worker w) b o n) (b : Uuid)
    (x : Option ScanBatch) : (s.batches.cell b).pending ≠ some (w, x) := by
  intro hp
  obtain ⟨old, new, -, -, hw⟩ := h.batch w b x hp
  exact hx b old new hw

/-- A worker that moves on and holds no new queue row. -/
theorem WriteSets.holds_setWorker (h : WriteSets s) (hw : s.worker w = x)
    (hh : ∀ p, held y = some p → held x = some p) {v : Worker} {i b : Uuid}
    (hv : held ((s.setWorker w y).worker v) = some (i, b)) :
    ∃ r, s.queue.committedRow i = some r ∧ r.batchId = b := by
  by_cases hvw : v = w
  · subst hvw
    rw [setWorker_worker_self] at hv
    exact h.holds v i b (hw ▸ hh _ hv)
  · rw [setWorker_worker_ne hvw] at hv
    exact h.holds v i b hv

/-- A step that only moves a worker on, to a point where it may have at least
as much pending. -/
theorem WriteSets.move (h : WriteSets s) (hw : s.worker w = x)
    (hq : ∀ i o n, queueWrites x i o n → queueWrites y i o n)
    (hb : ∀ b o n, batchWrites x b o n → batchWrites y b o n)
    (hh : ∀ p, held y = some p → held x = some p) :
    WriteSets (s.setWorker w y) where
  foreign := h.foreign
  holds := by
    intro v i b hv
    exact h.holds_setWorker hw hh hv
  queue := by
    intro v i x hp
    obtain ⟨old, new, ho, hx, hv⟩ := h.queue v i x hp
    refine ⟨old, new, ho, hx, ?_⟩
    by_cases hvw : v = w
    · subst hvw
      rw [setWorker_worker_self]
      exact hq i old new (hw ▸ hv)
    · rw [setWorker_worker_ne hvw]
      exact hv
  batch := by
    intro v b x hp
    obtain ⟨old, new, ho, hx, hv⟩ := h.batch v b x hp
    refine ⟨old, new, ho, hx, ?_⟩
    by_cases hvw : v = w
    · subst hvw
      rw [setWorker_worker_self]
      exact hb b old new (hw ▸ hv)
    · rw [setWorker_worker_ne hvw]
      exact hv

/-- A worker with nothing pending writes a queue row under its lock. -/
theorem WriteSets.putQueue (h : WriteSets s) (hw : s.worker w = x)
    {i : Uuid} {old new : ScanQueue}
    (hfree : (s.queue.cell i).heldByOther w = false)
    (hr : s.queue.read w i = some old)
    (hq : ∀ i o n, ¬ queueWrites x i o n)
    (hb : ∀ b o n, ¬ batchWrites x b o n)
    (hy : queueWrites y i old new)
    (hh : ∀ j b, held y = some (j, b) →
      ∃ r, s.queue.committedRow j = some r ∧ r.batchId = b) :
    WriteSets ({ s with queue := s.queue.put w i (some new) }.setWorker
      w y) where
  foreign := by
    intro j r hj
    rw [setWorker_queue, Table.put_committedRow] at hj
    exact h.foreign j r hj
  holds := by
    intro v j b hv
    simp only [setWorker_queue, Table.put_committedRow]
    by_cases hvw : v = w
    · subst hvw
      rw [setWorker_worker_self] at hv
      exact hh j b hv
    · rw [setWorker_worker_ne hvw] at hv
      exact h.holds v j b hv
  queue := by
    intro v j x hp
    simp only [setWorker_queue, Table.put_committedRow] at hp ⊢
    by_cases hji : j = i
    · subst hji
      rw [Table.put_cell_self, Cell.put_pending, Option.some.injEq,
        Prod.mk.injEq] at hp
      obtain ⟨rfl, rfl⟩ := hp
      rw [setWorker_worker_self]
      rw [(unlocked (h.no_queue (hw ▸ hq) j) hfree).2] at hr
      exact ⟨old, new, hr, rfl, hy⟩
    · rw [Table.put_cell_ne hji] at hp
      obtain ⟨o, n, ho, hx, hv⟩ := h.queue v j x hp
      have hvw : v ≠ w := by
        rintro rfl
        exact hq j o n (hw ▸ hv)
      rw [setWorker_worker_ne hvw]
      exact ⟨o, n, ho, hx, hv⟩
  batch := by
    intro v b x hp
    obtain ⟨o, n, ho, hx, hv⟩ := h.batch v b x hp
    have hvw : v ≠ w := by
      rintro rfl
      exact hb b o n (hw ▸ hv)
    rw [setWorker_worker_ne hvw]
    exact ⟨o, n, ho, hx, hv⟩

/-- A worker writes a batch row under its lock and keeps its queue row. -/
theorem WriteSets.putBatch (h : WriteSets s) (hw : s.worker w = x)
    {b : Uuid} {old new : ScanBatch}
    (hfree : (s.batches.cell b).heldByOther w = false)
    (hr : s.batches.read w b = some old)
    (hq : ∀ i o n, queueWrites x i o n → queueWrites y i o n)
    (hb : ∀ b o n, ¬ batchWrites x b o n)
    (hy : batchWrites y b old new)
    (hh : ∀ p, held y = some p → held x = some p) :
    WriteSets ({ s with batches := s.batches.put w b (some new) }.setWorker
      w y) where
  foreign := by
    intro i r hi
    simp only [setWorker_batches, Table.put_committedRow]
    exact h.foreign i r hi
  holds := by
    intro v i b' hv
    exact h.holds_setWorker hw hh hv
  queue := by
    intro v i x hp
    obtain ⟨o, n, ho, hx, hv⟩ := h.queue v i x hp
    refine ⟨o, n, ho, hx, ?_⟩
    by_cases hvw : v = w
    · subst hvw
      rw [setWorker_worker_self]
      exact hq i o n (hw ▸ hv)
    · rw [setWorker_worker_ne hvw]
      exact hv
  batch := by
    intro v b' x hp
    simp only [setWorker_batches, Table.put_committedRow] at hp ⊢
    by_cases hb' : b' = b
    · subst hb'
      rw [Table.put_cell_self, Cell.put_pending, Option.some.injEq,
        Prod.mk.injEq] at hp
      obtain ⟨rfl, rfl⟩ := hp
      rw [setWorker_worker_self]
      rw [(unlocked (h.no_batch (hw ▸ hb) b') hfree).2] at hr
      exact ⟨old, new, hr, rfl, hy⟩
    · rw [Table.put_cell_ne hb'] at hp
      obtain ⟨o, n, ho, hx, hv⟩ := h.batch v b' x hp
      have hvw : v ≠ w := by
        rintro rfl
        exact hb b' o n (hw ▸ hv)
      rw [setWorker_worker_ne hvw]
      exact ⟨o, n, ho, hx, hv⟩

/-- What a worker sees of a committed row: a row of the same batch. -/
theorem WriteSets.read_batchId (h : WriteSets s) {i : Uuid}
    {r : ScanQueue} (hr : s.queue.committedRow i = some r) :
    ∃ r', s.queue.read w i = some r' ∧ r'.batchId = r.batchId := by
  rcases Cell.read_cases w (s.queue.cell i) with ⟨x, hp, hread⟩ | ⟨-, hread⟩
  · obtain ⟨old, new, ho, rfl, hw⟩ := h.queue w i x hp
    rw [hr, Option.some.injEq] at ho
    subst ho
    exact ⟨new, hread, queueWrites_batchId hw⟩
  · exact ⟨r, hread.trans hr, rfl⟩

theorem WriteSets.read_queue (h : WriteSets s) {i : Uuid} {r : ScanQueue}
    (hr : s.queue.read w i = some r) :
    ∃ old, s.queue.committedRow i = some old ∧ r.batchId = old.batchId := by
  rcases Cell.read_cases w (s.queue.cell i) with ⟨x, hp, hread⟩ | ⟨-, hread⟩
  · obtain ⟨old, new, ho, rfl, hw⟩ := h.queue w i x hp
    rw [Table.read, hread, Option.some.injEq] at hr
    subst hr
    exact ⟨old, ho, queueWrites_batchId hw⟩
  · rw [Table.read, hread] at hr
    exact ⟨r, hr, rfl⟩

theorem WriteSets.read_batch (h : WriteSets s) {b : Uuid} {r : ScanBatch}
    (hr : s.batches.committedRow b = some r) :
    ∃ r', s.batches.read w b = some r' := by
  rcases Cell.read_cases w (s.batches.cell b) with ⟨x, hp, hread⟩ | ⟨-, hread⟩
  · obtain ⟨old, new, -, rfl, -⟩ := h.batch w b x hp
    exact ⟨new, hread⟩
  · exact ⟨r, hread.trans hr⟩

theorem WriteSets.commit (h : WriteSets s) (hw : s.worker w = x)
    (hh : ∀ p, held y = some p → held x = some p) :
    WriteSets ((s.commit w).setWorker w y) where
  foreign := by
    intro i r hi
    simp only [setWorker_queue, setWorker_batches, State.commit,
      Table.commit_committedRow] at hi ⊢
    obtain ⟨old, ho, hb⟩ := h.read_queue hi
    obtain ⟨b, hrow⟩ := h.foreign i old ho
    rw [hb]
    exact h.read_batch hrow
  holds := by
    intro v i b hv
    simp only [setWorker_queue, State.commit, Table.commit_committedRow]
    obtain ⟨r, hr, rfl⟩ := h.holds_setWorker hw hh hv
    exact h.read_batchId hr
  queue := by
    intro v i x hp
    simp only [setWorker_queue, State.commit, Table.commit_cell] at hp
    have hvw : v ≠ w := by
      rintro rfl
      exact Cell.commit_pending_ne hp
    rw [Cell.commit_pending_other hvw] at hp
    obtain ⟨old, new, ho, hx, hv⟩ := h.queue v i x hp
    rw [setWorker_worker_ne hvw]
    refine ⟨old, new, ?_, hx, hv⟩
    -- the row is locked by `v`, so `w` committed nothing into it
    simp only [setWorker_queue, State.commit, Table.commit_committedRow]
    exact (Cell.read_of_locked hp hvw).trans ho
  batch := by
    intro v b x hp
    simp only [setWorker_batches, State.commit, Table.commit_cell] at hp
    have hvw : v ≠ w := by
      rintro rfl
      exact Cell.commit_pending_ne hp
    rw [Cell.commit_pending_other hvw] at hp
    obtain ⟨old, new, ho, hx, hv⟩ := h.batch v b x hp
    rw [setWorker_worker_ne hvw]
    refine ⟨old, new, ?_, hx, hv⟩
    simp only [setWorker_batches, State.commit, Table.commit_committedRow]
    exact (Cell.read_of_locked hp hvw).trans ho

theorem WriteSets.rollback (h : WriteSets s) (hw : s.worker w = x)
    (hh : ∀ p, held y = some p → held x = some p) :
    WriteSets ((s.rollback w).setWorker w y) where
  foreign := by
    intro i r hi
    simp only [setWorker_queue, setWorker_batches, State.rollback,
      Table.rollback_committedRow] at hi ⊢
    exact h.foreign i r hi
  holds := by
    intro v i b hv
    simp only [setWorker_queue, State.rollback, Table.rollback_committedRow]
    exact h.holds_setWorker hw hh hv
  queue := by
    intro v i x hp
    simp only [setWorker_queue, State.rollback, Table.rollback_cell,
      Table.rollback_committedRow] at hp ⊢
    have hvw : v ≠ w := by
      rintro rfl
      exact Cell.rollback_pending_ne hp
    rw [Cell.rollback_pending_other hvw] at hp
    rw [setWorker_worker_ne hvw]
    exact h.queue v i x hp
  batch := by
    intro v b x hp
    simp only [setWorker_batches, State.rollback, Table.rollback_cell,
      Table.rollback_committedRow] at hp ⊢
    have hvw : v ≠ w := by
      rintro rfl
      exact Cell.rollback_pending_ne hp
    rw [Cell.rollback_pending_other hvw] at hp
    rw [setWorker_worker_ne hvw]
    exact h.batch v b x hp

end Preserved

/-- The rows of a new batch are committed; every other row is as before. -/
theorem insertQueueRows_cell {b : Uuid} {now : Timestamp} {i : Uuid} :
    ∀ (items : List (Uuid × Uuid)) (q : Table Uuid Worker ScanQueue),
      (insertQueueRows b now items q).cell i = q.cell i ∨
        ∃ subj, (insertQueueRows b now items q).cell i =
          ⟨some (newQueueRow b subj now), none⟩
  | [], _ => .inl rfl
  | (j, subj) :: items, q => by
      rw [insertQueueRows]
      rcases insertQueueRows_cell items
        (q.insertCommitted j (newQueueRow b subj now)) with h | ⟨x, h⟩
      · by_cases hij : i = j
        · right
          refine ⟨subj, h.trans ?_⟩
          rw [hij]
          exact Table.setCell_cell_self
        · exact .inl (h.trans (Table.setCell_cell_ne hij))
      · exact .inr ⟨x, h⟩

theorem insertQueueRows_of_notMem {b : Uuid} {now : Timestamp} {i : Uuid} :
    ∀ {items : List (Uuid × Uuid)} {q : Table Uuid Worker ScanQueue},
      i ∉ items.map Prod.fst →
        (insertQueueRows b now items q).cell i = q.cell i
  | [], _, _ => rfl
  | (j, subj) :: items, q, hi => by
      rw [List.map_cons, List.mem_cons, not_or] at hi
      rw [insertQueueRows, insertQueueRows_of_notMem hi.2]
      exact Table.setCell_cell_ne hi.1

theorem insertQueueRows_cell_of_mem {b i : Uuid} {now : Timestamp} :
    ∀ {items : List (Uuid × Uuid)} {q : Table Uuid Worker ScanQueue},
      (items.map Prod.fst).Nodup → i ∈ items.map Prod.fst →
        ∃ subj, (insertQueueRows b now items q).cell i =
          ⟨some (newQueueRow b subj now), none⟩
  | (j, subj) :: items, q, hnd, hi => by
      rw [List.map_cons, List.nodup_cons] at hnd
      rw [List.map_cons, List.mem_cons] at hi
      rw [insertQueueRows]
      rcases hi with rfl | hi
      · refine ⟨subj, ?_⟩
        rw [insertQueueRows_of_notMem hnd.1]
        exact Table.setCell_cell_self
      · exact insertQueueRows_cell_of_mem hnd.2 hi

theorem createEnabled_spec {b : Uuid} {items : List (Uuid × Uuid)}
    (h : createEnabled s b items = true) :
    b ∉ s.batches.ids ∧ items ≠ [] ∧ (items.map Prod.fst).Nodup ∧
      ∀ i ∈ items.map Prod.fst, i ∉ s.queue.ids := by
  simp only [createEnabled, Bool.and_eq_true, decide_eq_true_eq,
    Bool.not_eq_true', List.all_eq_true] at h
  obtain ⟨⟨⟨⟨hb, hne⟩, hnd⟩, -⟩, hall⟩ := h
  refine ⟨hb, by simpa using hne, hnd, ?_⟩
  intro i hi
  obtain ⟨x, hx, rfl⟩ := List.mem_map.mp hi
  exact hall x hx

/-- `create_batch` adds rows nobody has seen and touches no other. -/
theorem WriteSets.create (h : WriteSets s) {b : Uuid} {n : ℕ}
    {items : List (Uuid × Uuid)} {now : Timestamp}
    (hc : createEnabled s b items = true) :
    WriteSets { s with
      queue := insertQueueRows b now items s.queue
      batches := s.batches.insertCommitted b (newBatch n now) } := by
  obtain ⟨hb, -, -, hfresh⟩ := createEnabled_spec hc
  have hbatch : ∀ {c r}, s.batches.committedRow c = some r →
      (s.batches.insertCommitted b (newBatch n now)).cell c =
        s.batches.cell c := by
    intro c r hr
    refine Table.insertCommitted_cell_ne ?_
    rintro rfl
    exact hb (Table.mem_ids_of_committedRow hr)
  have hqueue : ∀ {i r}, s.queue.committedRow i = some r →
      (insertQueueRows b now items s.queue).cell i = s.queue.cell i := by
    intro i r hr
    exact insertQueueRows_of_notMem fun hi =>
      hfresh i hi (Table.mem_ids_of_committedRow hr)
  constructor
  case foreign =>
    intro i r hi
    rcases insertQueueRows_cell items s.queue with hsame | ⟨subj, hnew⟩
    · rw [Table.committedRow, hsame] at hi
      obtain ⟨x, hx⟩ := h.foreign i r hi
      exact ⟨x, (congrArg Cell.committed (hbatch hx)).trans hx⟩
    · rw [Table.committedRow, hnew, Option.some.injEq] at hi
      subst hi
      exact ⟨newBatch n now,
        congrArg Cell.committed Table.setCell_cell_self⟩
  case holds =>
    intro v i c hv
    obtain ⟨r, hr, hrc⟩ := h.holds v i c hv
    exact ⟨r, (congrArg Cell.committed (hqueue hr)).trans hr, hrc⟩
  case queue =>
    intro v i x hp
    rcases insertQueueRows_cell items s.queue with hsame | ⟨subj, hnew⟩
    · rw [hsame] at hp
      obtain ⟨o, m, ho, hx, hv⟩ := h.queue v i x hp
      exact ⟨o, m, (congrArg Cell.committed hsame).trans ho, hx, hv⟩
    · rw [hnew] at hp
      cases hp
  case batch =>
    intro v c x hp
    by_cases hcb : c = b
    · subst hcb
      rw [Table.insertCommitted, Table.setCell_cell_self] at hp
      cases hp
    · rw [Table.insertCommitted_cell_ne hcb] at hp
      obtain ⟨o, m, ho, hx, hv⟩ := h.batch v c x hp
      exact ⟨o, m, (congrArg Cell.committed (hbatch ho)).trans ho, hx, hv⟩

theorem writeSets_init : WriteSets (init : State Worker) where
  foreign := by
    intro i r h
    cases h
  holds := by
    intro w i b h
    cases h
  queue := by
    intro w i x h
    cases h
  batch := by
    intro w b x h
    cases h

/-- **Step lemma.** Every step of every worker keeps the write sets. -/
theorem writeSets_step (h : WriteSets s) (hs : StepOf env s a s') :
    WriteSets s' := by
  cases hs with
  | createBatch hc => exact h.create hc
  | claimNothing hw =>
      exact h.move hw (fun _ _ _ hq => hq.elim) (fun _ _ _ hb => hb.elim)
        (fun _ hp => by cases hp)
  | claim hw hc =>
      obtain ⟨hr, hcl, hfree⟩ := candidate_spec hc
      refine h.putQueue hw hfree hr (fun _ _ _ hq => hq) (fun _ _ _ hb => hb)
        ⟨rfl, _, _, hcl, rfl⟩ ?_
      intro j b hj
      cases hj
      obtain ⟨old, ho, hb⟩ := h.read_queue hr
      exact ⟨old, ho, hb.symm⟩
  | readSubject hw =>
      exact h.move hw (fun _ _ _ hq => hq) (fun _ _ _ hb => hb.elim)
        (fun _ hp => hp)
  | startSkip hw =>
      exact h.move hw (fun _ _ _ hq => hq) (fun _ _ _ hb => hb.elim)
        (fun _ hp => hp)
  | startBatch hw hb hp hfree =>
      exact h.putBatch hw hfree hb (fun _ _ _ hq => hq) (fun _ _ _ hb => hb)
        ⟨rfl, hp, _, rfl⟩ (fun _ hp => hp)
  | finishSkip hw =>
      exact h.move hw (fun _ _ _ hq => hq.elim) (fun _ _ _ hb => hb.elim)
        (fun _ hp => hp)
  | finish hw hr hp hfree =>
      exact h.putQueue hw hfree hr (fun _ _ _ hq => hq) (fun _ _ _ hb => hb)
        ⟨rfl, rfl, hp, _, _, _, rfl⟩ (fun j b hj => h.holds _ j b (by rw [hw]; exact hj))
  | count hw =>
      exact h.move hw (fun _ _ _ hq => hq) (fun _ _ _ hb => hb.elim)
        (fun _ hp => hp)
  | writeSkip hw hb =>
      exact h.move hw (fun _ _ _ hq => hq) (fun _ _ _ hb => hb.elim)
        (fun _ hp => hp)
  | writeCounts hw hb hfree =>
      exact h.putBatch hw hfree hb (fun _ _ _ hq => hq) (fun _ _ _ hb => hb)
        ⟨rfl, _, _, rfl⟩ (fun _ hp => hp)
  | commit hw =>
      rcases hw with hw | ⟨ch, hw⟩
      · exact h.commit hw (fun _ hp => hp)
      · exact h.commit hw (fun _ hp => hp)
  | abort => exact h.rollback rfl (fun _ hp => by cases hp)

theorem writeSets_reachable {G : State Worker → Action Worker → Prop}
    (h : (system env).ReachableUnder G s) : WriteSets s := by
  refine h.invariant ?_ ?_
  · rintro s rfl
    exact writeSets_init
  · intro s a t hs _ hstep
    exact writeSets_step hs (step_cases hstep)

end LeakcheckHub.Batches
