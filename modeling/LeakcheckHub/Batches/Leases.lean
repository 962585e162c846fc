import LeakcheckHub.Batches.WriteSets

/-!
# Leases on queue rows

A claim of a row is good for ten minutes, and nothing but the row itself says
so: `status`, `locked_at` and the row lock of the claiming statement. The run
is watched by an observer that notes who claimed what and when, so that two
claims of one row can be compared.

§1 the observer · §2 what holds of the queue · §3 the invariant ·
§4 steps of one worker · §5 the law.
-/

set_option linter.unusedSectionVars false

namespace LeakcheckHub.Batches

open Foundation

variable {Worker : Type} [DecidableEq Worker] {env : Env Worker}
  {s s' : State Worker} {a : Action Worker}

/-! ## §1  The observer -/

/-- One committed claim. -/
structure Claim (Worker : Type) where
  queueId : Uuid
  worker : Worker
  claimedAt : Timestamp

/-- `claimedAt` is that of each worker's last claim statement, `claims` the
committed claims with the newest first. `late` says of the `finish_work` a
worker is in whether it was called for a claim no longer current. -/
structure History (Worker : Type) where
  claimedAt : Worker → Timestamp
  claims : List (Claim Worker)
  late : Worker → Bool

def History.newest (h : History Worker) (i : Uuid) : Option (Claim Worker) :=
  h.claims.find? fun c => c.queueId == i

/-- The newest claim of the row is the worker's own. -/
def History.holds (h : History Worker) (w : Worker) (i : Uuid) : Bool :=
  (h.newest i).any fun c => decide (c.worker = w)

/-- A claim is current while the row is RUNNING under it. -/
def current (s : State Worker) (h : History Worker) (w : Worker)
    (work : ClaimedWork) : Bool :=
  h.holds w work.queueId &&
    (s.queue.committedRow work.queueId).any fun r => r.status == .running

def note (s : State Worker) (h : History Worker) :
    Action Worker → History Worker
  | .claim w claimedAt =>
      { h with claimedAt := fun v => if v = w then claimedAt else h.claimedAt v }
  | .finish w _ _ _ =>
      match s.worker w with
      | .ready (some work) =>
          { h with late := fun v =>
              if v = w then !current s h w work else h.late v }
      | _ => h
  | .commit w =>
      match s.worker w with
      | .batchStarted work =>
          { h with
            claims := ⟨work.queueId, w, h.claimedAt w⟩ :: h.claims }
      | _ => h
  | _ => h

def noHistory : History Worker where
  claimedAt := fun _ => 0
  claims := []
  late := fun _ => false

/-- The queue with its observer. -/
def watched (env : Env Worker) :
    System (Recorded (State Worker) (History Worker)) (Action Worker) :=
  (system env).record noHistory note

/-! ## §2  What holds of the queue -/

/-- A finished row stays as it is. -/
def DoneForGood (env : Env Worker)
    (x : Recorded (State Worker) (History Worker)) : Prop :=
  ∀ y, (watched env).Leads (fun _ _ => True) x y → ∀ i r,
    x.state.queue.committedRow i = some r → r.status.terminal = true →
      y.state.queue.committedRow i = some r

/-- Claims of one row are more than a lease apart. -/
def ClaimsApart (h : History Worker) : Prop :=
  h.claims.Pairwise fun later earlier =>
    later.queueId = earlier.queueId →
      earlier.claimedAt + staleAfter < later.claimedAt

/-- The lock columns and the attempts of a row say what its status says. -/
def StatusMatches (s : State Worker) : Prop :=
  ∀ i r, s.queue.committedRow i = some r →
    (r.status = .running ↔ r.lockedBy.isSome) ∧
    (r.status = .running ↔ r.lockedAt.isSome) ∧
    (r.status = .queued ↔ r.attempts = 0)

/-- Every unfinished row can be claimed once its lease, if it has one, is
over: a worker that claims then, and meets no lock on the row, gets this row or
one ordered before it. -/
def NothingLost (s : State Worker) : Prop :=
  ∀ i r, s.queue.committedRow i = some r → r.status.terminal = false →
    ∀ now, (∀ at_ ∈ r.lockedAt, at_ + staleAfter < now) →
      claimable now r = true ∧
      ∀ w work, s.worker w = .ready work →
        (s.queue.cell i).heldByOther w = false →
          ∃ x, candidate s.queue w now = some x ∧ before (i, r) x = false

/-- Two workers at work on one row claimed it more than a lease apart. -/
def HeldOnce (s : State Worker) (h : History Worker) : Prop :=
  ∀ v w i b c, v ≠ w → held (s.worker v) = some (i, b) →
    held (s.worker w) = some (i, c) →
      h.claimedAt v + staleAfter < h.claimedAt w ∨
      h.claimedAt w + staleAfter < h.claimedAt v

/-! ## §3  The invariant -/

/-- The row of a claim that is not committed yet. -/
def WorkerState.claiming : WorkerState → Option Uuid
  | .claimed q _ _ => some q
  | .subjectRead work => some work.queueId
  | .batchStarted work => some work.queueId
  | .ready _ | .finishing _ _ => none

/-- The row of a committed claim. -/
def WorkerState.working : WorkerState → Option Uuid
  | .ready (some work) => some work.queueId
  | .finishing work _ => some work.queueId
  | _ => none

/-- What a row says of its newest claim. -/
def OfClaim (r : ScanQueue) (newest : Option (Claim Worker)) : Prop :=
  match r.status with
  | .queued =>
      r.attempts = 0 ∧ r.lockedBy = none ∧ r.lockedAt = none ∧ newest = none
  | .running =>
      r.attempts ≠ 0 ∧ r.lockedBy.isSome ∧
        ∃ c, newest = some c ∧ r.lockedAt = some c.claimedAt
  | .succeeded | .failed =>
      r.attempts ≠ 0 ∧ r.lockedBy = none ∧ r.lockedAt = none

structure Leased (env : Env Worker) (s : State Worker)
    (h : History Worker) : Prop where
  row : ∀ i r, s.queue.committedRow i = some r → OfClaim r (h.newest i)
  known : ∀ c ∈ h.claims, c.queueId ∈ s.queue.ids
  apart : ClaimsApart h
  opened : ∀ w i, (s.worker w).claiming = some i →
    ∃ old, s.queue.committedRow i = some old ∧
      claimable (h.claimedAt w) old = true ∧
      (s.queue.cell i).pending =
        some (w, some (claimRow (env.workerId w) (h.claimedAt w) old))
  settled : ∀ w i, (s.worker w).working = some i →
    ⟨i, w, h.claimedAt w⟩ ∈ h.claims

theorem OfClaim.statusMatches {r : ScanQueue} {n : Option (Claim Worker)}
    (h : OfClaim r n) :
    (r.status = .running ↔ r.lockedBy.isSome) ∧
    (r.status = .running ↔ r.lockedAt.isSome) ∧
    (r.status = .queued ↔ r.attempts = 0) := by
  unfold OfClaim at h
  cases hs : r.status with
  | queued =>
      rw [hs] at h
      obtain ⟨ha, hb, hl, -⟩ := h
      simp [ha, hb, hl]
  | running =>
      rw [hs] at h
      obtain ⟨ha, hb, c, -, hl⟩ := h
      simp [ha, hb, hl]
  | succeeded | failed =>
      rw [hs] at h
      obtain ⟨ha, hb, hl⟩ := h
      simp [ha, hb, hl]

/-- A row can be claimed when it is waiting, or when its newest claim is more
than a lease old. -/
theorem OfClaim.of_claimable {r : ScanQueue} {n : Option (Claim Worker)}
    {now : Timestamp} (h : OfClaim r n) (hc : claimable now r = true) :
    ∀ c ∈ n, c.claimedAt + staleAfter < now := by
  intro c hn
  rw [Option.mem_def] at hn
  subst hn
  unfold OfClaim at h
  cases hs : r.status with
  | queued =>
      rw [hs] at h
      cases h.2.2.2
  | running =>
      rw [hs] at h
      obtain ⟨-, -, d, hd, hl⟩ := h
      cases hd
      simp only [claimable, hs, hl, Option.any_some, Bool.or_eq_true,
        Bool.and_eq_true, beq_iff_eq, reduceCtorEq, false_or,
        decide_eq_true_eq] at hc
      exact Int.add_lt_of_lt_sub_right hc.2
  | succeeded | failed => simp [claimable, hs] at hc

/-- What the claim statement leaves is a row of the new claim. -/
theorem ofClaim_claimRow {r : ScanQueue} {name : PyStr} {c : Claim Worker} :
    OfClaim (claimRow name c.claimedAt r) (some c) :=
  ⟨Nat.succ_ne_zero _, rfl, c, rfl, rfl⟩

theorem OfClaim.finishes {old new : ScanQueue} {n m : Option (Claim Worker)}
    (h : OfClaim old n) (hf : Finishes old new) : OfClaim new m := by
  obtain ⟨hs, ok, err, now, rfl⟩ := hf
  unfold OfClaim at h
  rw [hs] at h
  cases ok with
  | false => exact ⟨h.1, rfl, rfl⟩
  | true => exact ⟨h.1, rfl, rfl⟩

theorem staleAfter_pos : 0 < staleAfter := by decide

/-- No claim of a row is later than its newest. -/
theorem ClaimsApart.le_newest {h : History Worker} (hap : ClaimsApart h)
    {i : Uuid} {c d : Claim Worker} (hn : h.newest i = some c)
    (hd : d ∈ h.claims) (hi : d.queueId = i) : d.claimedAt ≤ c.claimedAt := by
  unfold History.newest at hn
  unfold ClaimsApart at hap
  generalize h.claims = claims at hap hn hd
  induction claims with
  | nil => cases hn
  | cons x xs ih =>
      rw [List.pairwise_cons] at hap
      rw [List.find?_cons] at hn
      split at hn
      · -- the newest claim of the list is one of this row
        rename_i hx
        rw [Option.some.injEq] at hn
        subst hn
        rcases List.mem_cons.mp hd with rfl | hd
        · exact Int.le_refl _
        · have hlt := hap.1 d hd ((beq_iff_eq.mp hx).trans hi.symm)
          have hle := Int.lt_add_of_pos_right d.claimedAt staleAfter_pos
          exact Int.le_of_lt (Int.lt_trans hle hlt)
      · rename_i hx
        rcases List.mem_cons.mp hd with rfl | hd
        · exact absurd hi (beq_eq_false_iff_ne.mp hx)
        · exact ih hap.2 hn hd

theorem ClaimsApart.of_ne {h : History Worker} (hap : ClaimsApart h)
    {c d : Claim Worker} (hc : c ∈ h.claims) (hd : d ∈ h.claims)
    (hne : c ≠ d) (hi : c.queueId = d.queueId) :
    c.claimedAt + staleAfter < d.claimedAt ∨
      d.claimedAt + staleAfter < c.claimedAt := by
  have hpair := List.Pairwise.forall_of_forall_of_flip
    (R := fun c d : Claim Worker => c ≠ d → c.queueId = d.queueId →
      c.claimedAt + staleAfter < d.claimedAt ∨
        d.claimedAt + staleAfter < c.claimedAt)
    (fun x _ hx => absurd rfl hx)
    (hap.imp fun hlt _ heq => .inr (hlt heq))
    (hap.imp fun hlt _ heq => .inl (hlt heq.symm))
  exact hpair hc hd hne hi

theorem History.newest_eq_none {h : History Worker} {i : Uuid}
    (hno : ∀ c ∈ h.claims, c.queueId ≠ i) : h.newest i = none := by
  refine List.find?_eq_none.mpr fun c hc heq => ?_
  exact hno c hc (beq_iff_eq.mp heq)

/-- What a claim at `now` may follow. -/
theorem Leased.claims_before {h : History Worker} (hl : Leased env s h)
    {i : Uuid} {r : ScanQueue} {now : Timestamp} {c : Claim Worker}
    (hr : s.queue.committedRow i = some r) (hc : claimable now r = true)
    (hmem : c ∈ h.claims) (hi : c.queueId = i) :
    c.claimedAt + staleAfter < now := by
  cases hn : h.newest i with
  | none =>
      have hno := List.find?_eq_none.mp hn c hmem
      exact absurd (beq_iff_eq.mpr hi) hno
  | some d =>
      have hd := (hl.row i r hr).of_claimable hc d hn
      have hle := hl.apart.le_newest hn hmem hi
      exact Int.lt_of_le_of_lt (Int.add_le_add_right hle staleAfter) hd

/-! ## §4  Steps of one worker -/

section Steps

variable {h h' : History Worker} {w : Worker}

/-- `w` acts without committing: the rows and the claims stay. -/
theorem Leased.act (hl : Leased env s h)
    (hrow : ∀ i, s'.queue.committedRow i = s.queue.committedRow i)
    (hids : ∀ i ∈ s.queue.ids, i ∈ s'.queue.ids)
    (hothers : ∀ v, v ≠ w → s'.worker v = s.worker v)
    (hpend : ∀ v, v ≠ w → ∀ i x, (s.queue.cell i).pending = some (v, x) →
      (s'.queue.cell i).pending = some (v, x))
    (hclaims : h'.claims = h.claims)
    (hat : ∀ v, v ≠ w → h'.claimedAt v = h.claimedAt v)
    (hopen : ∀ i, (s'.worker w).claiming = some i →
      ∃ old, s.queue.committedRow i = some old ∧
        claimable (h'.claimedAt w) old = true ∧
        (s'.queue.cell i).pending =
          some (w, some (claimRow (env.workerId w) (h'.claimedAt w) old)))
    (hset : ∀ i, (s'.worker w).working = some i →
      ⟨i, w, h'.claimedAt w⟩ ∈ h.claims) : Leased env s' h' where
  row := by
    intro i r hr
    rw [hrow] at hr
    unfold History.newest
    rw [hclaims]
    exact hl.row i r hr
  known := by
    intro c hc
    rw [hclaims] at hc
    exact hids _ (hl.known c hc)
  apart := by
    unfold ClaimsApart
    rw [hclaims]
    exact hl.apart
  opened := by
    intro v i hv
    by_cases hvw : v = w
    · subst hvw
      obtain ⟨old, ho, hc, hp⟩ := hopen i hv
      exact ⟨old, (hrow i).trans ho, hc, hp⟩
    · rw [hothers v hvw] at hv
      obtain ⟨old, ho, hc, hp⟩ := hl.opened v i hv
      rw [hat v hvw]
      exact ⟨old, (hrow i).trans ho, hc, hpend v hvw i _ hp⟩
  settled := by
    intro v i hv
    rw [hclaims]
    by_cases hvw : v = w
    · subst hvw
      exact hset i hv
    · rw [hothers v hvw] at hv
      rw [hat v hvw]
      exact hl.settled v i hv

/-- `w` only moves on, with the work it has. -/
theorem Leased.move (hl : Leased env s h) {x y : WorkerState}
    (hw : s.worker w = x) (hy : s'.worker w = y)
    (hqueue : s'.queue = s.queue)
    (hothers : ∀ v, v ≠ w → s'.worker v = s.worker v)
    (hclaims : h'.claims = h.claims) (hat : h'.claimedAt = h.claimedAt)
    (hopen : ∀ i, y.claiming = some i → x.claiming = some i)
    (hset : ∀ i, y.working = some i → x.working = some i) :
    Leased env s' h' := by
  refine hl.act (w := w) (fun i => by rw [hqueue])
    (fun i hi => by rw [hqueue]; exact hi) hothers
    (fun v _ i z hp => by rw [hqueue]; exact hp) hclaims
    (fun v _ => by rw [hat]) ?_ ?_
  · intro i hi
    rw [hy] at hi
    rw [hat, hqueue]
    exact hl.opened w i (hw ▸ hopen i hi)
  · intro i hi
    rw [hy] at hi
    rw [hat]
    exact hl.settled w i (hw ▸ hset i hi)

theorem Leased.claim (hl : Leased env s h) (hws : WriteSets s)
    {work : Option ClaimedWork} {at_ : Timestamp} {i : Uuid} {r : ScanQueue}
    (hw : s.worker w = .ready work)
    (hc : candidate s.queue w at_ = some (i, r)) :
    Leased env ({ s with
        queue := s.queue.put w i
          (some (claimRow (env.workerId w) at_ r)) }.setWorker w
            (.claimed i r.batchId r.subjectId))
      { h with claimedAt := fun v => if v = w then at_ else h.claimedAt v } := by
  obtain ⟨hr, hcl, hfree⟩ := candidate_spec hc
  have hnone := hws.no_queue (w := w) (by rw [hw]; exact fun _ _ _ hq => hq) i
  rw [(unlocked hnone hfree).2] at hr
  refine hl.act (w := w) ?_ ?_ (fun v hv => setWorker_worker_ne hv) ?_ rfl
    (fun v hv => if_neg hv) ?_ ?_
  · intro j
    rw [setWorker_queue, Table.put_committedRow]
  · intro j hj
    exact Table.mem_put_ids hj
  · intro v hv j x hp
    exact (Table.put_pending_other hv hfree).mpr hp
  · intro j hj
    rw [setWorker_worker_self] at hj
    cases hj
    simp only [if_true]
    refine ⟨r, hr, hcl, ?_⟩
    rw [setWorker_queue, Table.put_cell_self]
    rfl
  · intro j hj
    rw [setWorker_worker_self] at hj
    cases hj

theorem Leased.finish (hl : Leased env s h) {work : ClaimedWork}
    {x : Option ScanQueue} {late : Worker → Bool}
    (hw : s.worker w = .ready (some work))
    (hfree : (s.queue.cell work.queueId).heldByOther w = false) :
    Leased env ({ s with queue := s.queue.put w work.queueId x }.setWorker w
      (.finishing work (.updated true))) { h with late } := by
  refine hl.act (w := w) ?_ ?_ (fun v hv => setWorker_worker_ne hv) ?_ rfl
    (fun _ _ => rfl) ?_ ?_
  · intro j
    rw [setWorker_queue, Table.put_committedRow]
  · intro j hj
    exact Table.mem_put_ids hj
  · intro v hv j y hp
    exact (Table.put_pending_other hv hfree).mpr hp
  · intro j hj
    rw [setWorker_worker_self] at hj
    cases hj
  · intro j hj
    rw [setWorker_worker_self] at hj
    exact hl.settled w j (by rw [hw]; exact hj)

/-- `w` has no work left. -/
theorem Leased.release (hl : Leased env s h)
    (hw : s'.worker w = .ready none)
    (hrow : ∀ i, s'.queue.committedRow i = s.queue.committedRow i)
    (hids : ∀ i ∈ s.queue.ids, i ∈ s'.queue.ids)
    (hothers : ∀ v, v ≠ w → s'.worker v = s.worker v)
    (hpend : ∀ v, v ≠ w → ∀ i x, (s.queue.cell i).pending = some (v, x) →
      (s'.queue.cell i).pending = some (v, x))
    (hclaims : h'.claims = h.claims)
    (hat : ∀ v, v ≠ w → h'.claimedAt v = h.claimedAt v) :
    Leased env s' h' := by
  apply hl.act hrow hids hothers hpend hclaims hat
  · intro i hi
    rw [hw] at hi
    cases hi
  · intro i hi
    rw [hw] at hi
    cases hi

theorem Leased.abort (hl : Leased env s h) :
    Leased env ((s.rollback w).setWorker w (.ready none)) h := by
  refine hl.release (w := w) setWorker_worker_self ?_ (fun _ hi => hi)
    (fun v hv => setWorker_worker_ne hv) ?_ rfl (fun _ _ => rfl)
  · intro j
    rw [setWorker_queue, State.rollback, Table.rollback_committedRow]
  · intro v hv j x hp
    exact (Cell.rollback_pending_other hv).mpr hp

/-- `w` commits a row that says the right thing of its newest claim. -/
theorem Leased.install (hl : Leased env s h) {i : Uuid} {y : WorkerState}
    (hother : ∀ j x, j ≠ i → (s.queue.cell j).pending ≠ some (w, x))
    (hrow : ∀ r, (s.queue.cell i).read w = some r → OfClaim r (h'.newest i))
    (hnewest : ∀ j, j ≠ i → h'.newest j = h.newest j)
    (hsub : ∀ c ∈ h.claims, c ∈ h'.claims)
    (hknown : ∀ c ∈ h'.claims, c.queueId ∈ s.queue.ids)
    (hapart : ClaimsApart h') (hat : h'.claimedAt = h.claimedAt)
    (hopen : y.claiming = none)
    (hset : ∀ j, y.working = some j → ⟨j, w, h.claimedAt w⟩ ∈ h'.claims) :
    Leased env ((s.commit w).setWorker w y) h' where
  row := by
    intro j r hr
    rw [setWorker_queue, State.commit, Table.commit_committedRow] at hr
    by_cases hj : j = i
    · subst hj
      exact hrow r hr
    · rw [Table.read, Cell.read_of_unowned (hother j · hj)] at hr
      rw [hnewest j hj]
      exact hl.row j r hr
  known := hknown
  apart := hapart
  opened := by
    intro v i hv
    have hvw : v ≠ w := by
      rintro rfl
      rw [setWorker_worker_self, hopen] at hv
      cases hv
    rw [setWorker_worker_ne hvw] at hv
    obtain ⟨old, ho, hc, hp⟩ := hl.opened v i hv
    rw [hat]
    refine ⟨old, ?_, hc, ?_⟩
    · -- the row is locked by `v`, so `w` committed nothing into it
      rw [setWorker_queue, State.commit, Table.commit_committedRow]
      exact (Cell.read_of_locked hp hvw).trans ho
    · exact (Cell.commit_pending_other hvw).mpr hp
  settled := by
    intro v i hv
    rw [hat]
    by_cases hvw : v = w
    · subst hvw
      rw [setWorker_worker_self] at hv
      exact hset i hv
    · rw [setWorker_worker_ne hvw] at hv
      exact hsub _ (hl.settled v i hv)

/-- The claim transaction commits: its claim is now the newest of the row. -/
theorem Leased.commitClaim (hl : Leased env s h) (hws : WriteSets s)
    {work : ClaimedWork} (hw : s.worker w = .batchStarted work) :
    Leased env ((s.commit w).setWorker w (.ready (some work)))
      { h with claims := ⟨work.queueId, w, h.claimedAt w⟩ :: h.claims } := by
  obtain ⟨old, ho, hc, hp⟩ := hl.opened w work.queueId (by rw [hw]; rfl)
  have hmem : work.queueId ∈ s.queue.ids := Table.mem_ids_of_committedRow ho
  refine hl.install (i := work.queueId) ?_ ?_ ?_ ?_ ?_ ?_ rfl rfl ?_
  · intro i x hi hpi
    obtain ⟨_, _, -, -, hq⟩ := hws.queue w i x hpi
    rw [hw] at hq
    exact hi hq.1
  · intro r hr
    rw [Cell.read_of_pending hp, Option.some.injEq] at hr
    subst hr
    have hnew : History.newest
        { h with claims := ⟨work.queueId, w, h.claimedAt w⟩ :: h.claims }
        work.queueId = some ⟨work.queueId, w, h.claimedAt w⟩ :=
      List.find?_cons_of_pos (beq_self_eq_true _)
    rw [hnew]
    exact ofClaim_claimRow (c := ⟨work.queueId, w, h.claimedAt w⟩)
  · intro i hi
    refine List.find?_cons_of_neg ?_
    rw [beq_iff_eq]
    exact fun heq => hi heq.symm
  · intro c hcl
    exact List.mem_cons_of_mem _ hcl
  · intro c hcl
    rcases List.mem_cons.mp hcl with rfl | hcl
    · exact hmem
    · exact hl.known c hcl
  · refine List.pairwise_cons.mpr ⟨?_, hl.apart⟩
    intro c hcl heq
    exact hl.claims_before ho hc hcl heq.symm
  · intro i hi
    cases hi
    exact List.mem_cons_self

/-- The transaction of a `finish_work` commits: the row is finished or as it
was. -/
theorem Leased.commitFinish (hl : Leased env s h) (hws : WriteSets s)
    {work : ClaimedWork} {ch : Bool}
    (hw : s.worker w = .finishing work (.written ch)) :
    Leased env ((s.commit w).setWorker w (.ready (some work))) h := by
  refine hl.install (i := work.queueId) ?_ ?_ (fun _ _ => rfl)
    (fun _ hc => hc) hl.known hl.apart rfl rfl ?_
  · intro i x hi hpi
    obtain ⟨_, _, -, -, hq⟩ := hws.queue w i x hpi
    rw [hw] at hq
    exact hi hq.2.1
  · intro r hr
    rcases Cell.read_cases w (s.queue.cell work.queueId) with
      ⟨x, hp, hread⟩ | ⟨-, hread⟩
    · obtain ⟨old, new, ho, rfl, hq⟩ := hws.queue w _ x hp
      rw [hw] at hq
      rw [hread, Option.some.injEq] at hr
      subst hr
      exact (hl.row _ old ho).finishes hq.2.2
    · rw [hread] at hr
      exact hl.row _ r hr
  · intro i hi
    exact hl.settled w i (by rw [hw]; exact hi)

end Steps

theorem mem_insertQueueRows_ids {b : Uuid} {now : Timestamp} {i : Uuid} :
    ∀ {items : List (Uuid × Uuid)} {q : Table Uuid Worker ScanQueue},
      i ∈ q.ids → i ∈ (insertQueueRows b now items q).ids
  | [], _, hi => hi
  | x :: items, q, hi => by
      rw [insertQueueRows]
      refine mem_insertQueueRows_ids ?_
      exact List.mem_insert_of_mem hi

/-- New rows are waiting and nobody has claimed them. -/
theorem Leased.create {h : History Worker} (hl : Leased env s h) {b : Uuid}
    {n : ℕ} {items : List (Uuid × Uuid)} {now : Timestamp}
    (hc : createEnabled s b items = true) :
    Leased env { s with
      queue := insertQueueRows b now items s.queue
      batches := s.batches.insertCommitted b (newBatch n now) } h := by
  obtain ⟨-, -, hnd, hfresh⟩ := createEnabled_spec hc
  constructor
  case row =>
    intro i r hr
    by_cases hi : i ∈ items.map Prod.fst
    · have hcell : ∃ subj, (insertQueueRows b now items s.queue).cell i =
          ⟨some (newQueueRow b subj now), none⟩ :=
        insertQueueRows_cell_of_mem hnd hi
      obtain ⟨subj, hnew⟩ := hcell
      rw [Table.committedRow, hnew, Option.some.injEq] at hr
      subst hr
      have hnone : h.newest i = none := by
        refine History.newest_eq_none ?_
        rintro c hcl rfl
        exact hfresh _ hi (hl.known c hcl)
      exact ⟨rfl, rfl, rfl, hnone⟩
    · rw [Table.committedRow, insertQueueRows_of_notMem hi] at hr
      exact hl.row i r hr
  case known =>
    intro c hcl
    exact mem_insertQueueRows_ids (hl.known c hcl)
  case apart =>
    exact hl.apart
  case opened =>
    intro v i hv
    obtain ⟨old, ho, hcl, hp⟩ := hl.opened v i hv
    have hi : i ∉ items.map Prod.fst := fun hmem =>
      hfresh i hmem (Table.mem_ids_of_committedRow ho)
    have hcell : (insertQueueRows b now items s.queue).cell i =
        s.queue.cell i := insertQueueRows_of_notMem hi
    exact ⟨old, (congrArg Cell.committed hcell).trans ho, hcl,
      (congrArg Cell.pending hcell).trans hp⟩
  case settled =>
    exact hl.settled

theorem leased_init : Leased env (init : State Worker) noHistory where
  row := by
    intro i r h
    cases h
  known := by
    intro c h
    cases h
  apart := .nil
  opened := by
    intro w i h
    cases h
  settled := by
    intro w i h
    cases h

/-- **Step lemma.** Every step keeps what rows say of their claims. -/
theorem leased_step {h : History Worker} (hl : Leased env s h)
    (hws : WriteSets s) (hs : StepOf env s a s') :
    Leased env s' (note s h a) := by
  cases hs with
  | createBatch hc => exact hl.create hc
  | claimNothing hw =>
      exact hl.release setWorker_worker_self (fun _ => rfl) (fun _ hi => hi)
        (fun v hv => setWorker_worker_ne hv) (fun _ _ _ _ hp => hp) rfl
        (fun v hv => if_neg hv)
  | claim hw hc => exact hl.claim hws hw hc
  | readSubject hw =>
      exact hl.move hw setWorker_worker_self rfl
        (fun v hv => setWorker_worker_ne hv) rfl rfl
        (fun _ hi => hi) (fun _ hi => hi)
  | startSkip hw =>
      exact hl.move hw setWorker_worker_self rfl
        (fun v hv => setWorker_worker_ne hv) rfl rfl
        (fun _ hi => hi) (fun _ hi => hi)
  | startBatch hw hb hp hfree =>
      exact hl.move hw setWorker_worker_self rfl
        (fun v hv => setWorker_worker_ne hv) rfl rfl
        (fun _ hi => hi) (fun _ hi => hi)
  | finishSkip hw =>
      simp only [note, hw]
      exact hl.move hw setWorker_worker_self rfl
        (fun v hv => setWorker_worker_ne hv) rfl rfl
        (fun _ hi => by cases hi) (fun _ hi => hi)
  | finish hw hr hp hfree =>
      simp only [note, hw]
      exact hl.finish hw hfree
  | count hw =>
      exact hl.move hw setWorker_worker_self rfl
        (fun v hv => setWorker_worker_ne hv) rfl rfl
        (fun _ hi => hi) (fun _ hi => hi)
  | writeSkip hw hb =>
      exact hl.move hw setWorker_worker_self rfl
        (fun v hv => setWorker_worker_ne hv) rfl rfl
        (fun _ hi => hi) (fun _ hi => hi)
  | writeCounts hw hb hfree =>
      exact hl.move hw setWorker_worker_self rfl
        (fun v hv => setWorker_worker_ne hv) rfl rfl
        (fun _ hi => hi) (fun _ hi => hi)
  | commit hw =>
      rcases hw with hw | ⟨ch, hw⟩
      · simp only [note, hw]
        exact hl.commitClaim hws hw
      · simp only [note, hw]
        exact hl.commitFinish hws hw
  | abort => exact hl.abort

/-- **Run lemma.** -/
theorem leased_reachable
    {G : Recorded (State Worker) (History Worker) → Action Worker → Prop}
    {x : Recorded (State Worker) (History Worker)}
    (h : (watched env).ReachableUnder G x) : Leased env x.state x.history := by
  have hboth : WriteSets x.state ∧ Leased env x.state x.history := by
    refine h.invariant
      (I := fun x => WriteSets x.state ∧ Leased env x.state x.history) ?_ ?_
    · rintro ⟨s, h⟩ ⟨rfl, rfl⟩
      exact ⟨writeSets_init, leased_init⟩
    · rintro x a y ⟨hws, hl⟩ - hstep
      obtain ⟨hs, hn⟩ := System.record_step hstep
      have hs := step_cases hs
      rw [hn]
      exact ⟨writeSets_step hws hs, leased_step hl hws hs⟩
  exact hboth.2

/-! ## §5  The law -/

/-- No transaction has a finished row to write. -/
theorem queueWrites_not_done {w : WorkerState} {i : Uuid}
    {old new : ScanQueue} (h : queueWrites w i old new) :
    old.status.terminal = false := by
  have hclaims : Claims old new → old.status.terminal = false := by
    rintro ⟨name, at_, hc, -⟩
    cases hs : old.status with
    | queued | running => rfl
    | succeeded | failed => simp [claimable, hs] at hc
  cases w with
  | ready => exact h.elim
  | finishing =>
      obtain ⟨-, -, hs, -⟩ := h
      rw [hs]
      rfl
  | claimed => exact hclaims h.2
  | subjectRead => exact hclaims h.2
  | batchStarted => exact hclaims h.2

/-- **Step lemma.** A finished row stays as it is. -/
theorem done_step (hws : WriteSets s) (hs : StepOf env s a s') {i : Uuid}
    {r : ScanQueue} (hr : s.queue.committedRow i = some r)
    (ht : r.status.terminal = true) : s'.queue.committedRow i = some r := by
  cases hs with
  | createBatch hc =>
      obtain ⟨-, -, -, hfresh⟩ := createEnabled_spec hc
      have hi : i ∉ List.map Prod.fst _ := fun hmem =>
        hfresh i hmem (Table.mem_ids_of_committedRow hr)
      exact (congrArg Cell.committed (insertQueueRows_of_notMem hi)).trans hr
  | claim hw hc =>
      rw [setWorker_queue, Table.put_committedRow]
      exact hr
  | finish hw hread hp hfree =>
      rw [setWorker_queue, Table.put_committedRow]
      exact hr
  | abort =>
      rw [setWorker_queue, State.rollback, Table.rollback_committedRow]
      exact hr
  | @commit w work hw =>
      rw [setWorker_queue, State.commit, Table.commit_committedRow]
      refine (Cell.read_of_unowned fun x hp => ?_).trans hr
      obtain ⟨old, new, ho, -, hq⟩ := hws.queue w i x hp
      rw [hr, Option.some.injEq] at ho
      subst ho
      have := queueWrites_not_done hq
      rw [ht] at this
      cases this
  | _ => exact hr

theorem before_eq_false {x y : Uuid × ScanQueue} :
    before x y = false ↔ y.2.createdAt < x.2.createdAt ∨
      (y.2.createdAt = x.2.createdAt ∧ y.1.toNat ≤ x.1.toNat) := by
  have htri := Int.lt_trichotomy x.2.createdAt y.2.createdAt
  simp only [before, Bool.or_eq_false_iff, decide_eq_false_iff_not,
    Bool.and_eq_false_iff, beq_eq_false_iff_ne, ne_eq, BitVec.lt_def,
    Nat.not_lt]
  rcases htri with h | h | h
  · have h' := Int.not_lt.mpr (Int.le_of_lt h)
    have hne := Int.ne_of_gt h
    simp [h, h', hne]
  · simp [h]
  · have h' := Int.not_lt.mpr (Int.le_of_lt h)
    have hne := Int.ne_of_gt h
    simp [h, h', hne]

theorem before_trans_false {x y z : Uuid × ScanQueue}
    (hxy : before x y = false) (hyz : before y z = false) :
    before x z = false := by
  rw [before_eq_false] at *
  rcases hxy with hxy | ⟨hxy, hi⟩
  · rcases hyz with hyz | ⟨hyz, -⟩
    · exact .inl (Int.lt_trans hyz hxy)
    · exact .inl (hyz ▸ hxy)
  · rcases hyz with hyz | ⟨hyz, hj⟩
    · exact .inl (hxy ▸ hyz)
    · exact .inr ⟨hyz.trans hxy, Nat.le_trans hj hi⟩

theorem before_asymm {x y : Uuid × ScanQueue} (h : before x y = true) :
    before y x = false := by
  have hno : ¬ before x y = false := by
    rw [h]
    exact Bool.noConfusion
  rw [before_eq_false, not_or] at hno
  rw [before_eq_false]
  rcases Int.lt_trichotomy x.2.createdAt y.2.createdAt with hlt | heq | hgt
  · exact .inl hlt
  · have hid : ¬ y.1.toNat ≤ x.1.toNat := fun hle => hno.2 ⟨heq.symm, hle⟩
    exact .inr ⟨heq, by omega⟩
  · exact absurd hgt hno.1

/-- `ORDER BY … LIMIT 1` finds a row whenever there is one, and none goes
before it. -/
theorem earliest_least {y : Uuid × ScanQueue} :
    ∀ {xs : List (Uuid × ScanQueue)}, y ∈ xs →
      ∃ x, earliest xs = some x ∧ before y x = false
  | z :: zs, hy => by
      have hself : before z z = false :=
        before_eq_false.mpr (.inr ⟨rfl, Nat.le_refl _⟩)
      rw [earliest]
      cases hzs : earliest zs with
      | none =>
          refine ⟨z, rfl, ?_⟩
          rcases List.mem_cons.mp hy with rfl | hy
          · exact hself
          · obtain ⟨x, hx, -⟩ := earliest_least hy
            rw [hzs] at hx
            cases hx
      | some m =>
          by_cases hb : before m z = true
          · refine ⟨m, congrArg some (if_pos hb), ?_⟩
            rcases List.mem_cons.mp hy with rfl | hy
            · exact before_asymm hb
            · obtain ⟨x, hx, hle⟩ := earliest_least hy
              rw [hzs, Option.some.injEq] at hx
              exact hx ▸ hle
          · refine ⟨z, congrArg some (if_neg hb), ?_⟩
            rcases List.mem_cons.mp hy with rfl | hy
            · exact hself
            · obtain ⟨x, hx, hle⟩ := earliest_least hy
              rw [hzs, Option.some.injEq] at hx
              subst hx
              exact before_trans_false hle (Bool.eq_false_iff.mpr hb)

theorem Leased.nothingLost {h : History Worker} (hl : Leased env s h)
    (hws : WriteSets s) : NothingLost s := by
  intro i r hr ht now hlease
  have hcl : claimable now r = true := by
    have hof := hl.row i r hr
    unfold OfClaim at hof
    cases hs : r.status with
    | queued => simp [claimable, hs]
    | running =>
        rw [hs] at hof
        -- the lease of the claim that has the row is out
        obtain ⟨-, -, c, -, hat⟩ := hof
        have hlt := hlease c.claimedAt (by rw [hat]; rfl)
        simp only [claimable, hs, hat, Option.any_some, Bool.or_eq_true,
          Bool.and_eq_true, decide_eq_true_eq]
        exact .inr ⟨rfl, Int.lt_sub_right_of_add_lt hlt⟩
    | succeeded | failed =>
        rw [hs] at ht
        cases ht
  refine ⟨hcl, ?_⟩
  intro w work hw hfree
  have hnone := hws.no_queue (w := w) (by rw [hw]; exact fun _ _ _ hq => hq) i
  have hread : s.queue.read w i = some r := (unlocked hnone hfree).2.trans hr
  have hmem : (i, r) ∈ (s.queue.rows w).filter fun x =>
      claimable now x.2 && !(s.queue.cell x.1).heldByOther w := by
    refine List.mem_filter.mpr ⟨Table.mem_rows.mpr hread, ?_⟩
    rw [Bool.and_eq_true, Bool.not_eq_true']
    exact ⟨hcl, hfree⟩
  exact earliest_least hmem

/-- An open claim was made more than a lease after every committed one. -/
theorem Leased.opened_apart {h : History Worker} (hl : Leased env s h)
    {w : Worker} {i : Uuid} {c : Claim Worker}
    (hw : (s.worker w).claiming = some i) (hc : c ∈ h.claims)
    (hi : c.queueId = i) : c.claimedAt + staleAfter < h.claimedAt w := by
  obtain ⟨old, ho, hcl, -⟩ := hl.opened w i hw
  exact hl.claims_before ho hcl hc hi

theorem held_cases {x : WorkerState} {i b : Uuid} (h : held x = some (i, b)) :
    x.claiming = some i ∨ x.working = some i := by
  cases x with
  | ready work =>
      cases work with
      | none => cases h
      | some work =>
          cases h
          exact .inr rfl
  | claimed | subjectRead | batchStarted =>
      cases h
      exact .inl rfl
  | finishing =>
      cases h
      exact .inr rfl

theorem Leased.heldOnce {h : History Worker} (hl : Leased env s h) :
    HeldOnce s h := by
  intro v w i b c hvw hv hw
  rcases held_cases hv with hv | hv
  · rcases held_cases hw with hw | hw
    · -- both would hold the row's lock
      obtain ⟨_, -, -, hp⟩ := hl.opened v i hv
      obtain ⟨_, -, -, hq⟩ := hl.opened w i hw
      rw [hp, Option.some.injEq, Prod.mk.injEq] at hq
      exact absurd hq.1 hvw
    · exact .inr (hl.opened_apart hv (hl.settled w i hw) rfl)
  · rcases held_cases hw with hw | hw
    · exact .inl (hl.opened_apart hw (hl.settled v i hv) rfl)
    · have hne : (⟨i, v, h.claimedAt v⟩ : Claim Worker) ≠
          ⟨i, w, h.claimedAt w⟩ := by
        intro heq
        exact hvw (congrArg Claim.worker heq)
      exact hl.apart.of_ne (hl.settled v i hv) (hl.settled w i hw) hne rfl

theorem leases {x : Recorded (State Worker) (History Worker)}
    (h : (watched env).Reachable x) :
    DoneForGood env x ∧ ClaimsApart x.history ∧ StatusMatches x.state ∧
      NothingLost x.state ∧ HeldOnce x.state x.history := by
  have hl := leased_reachable h
  have hws := writeSets_reachable h.of_record
  refine ⟨?_, hl.apart, fun i r hr => (hl.row i r hr).statusMatches,
    hl.nothingLost hws, hl.heldOnce⟩
  intro y hrun i r hr ht
  have hkept : WriteSets y.state ∧ y.state.queue.committedRow i = some r := by
    refine hrun.invariant (I := fun y => WriteSets y.state ∧
      y.state.queue.committedRow i = some r) ?_ ⟨hws, hr⟩
    rintro y a z ⟨hws, hr⟩ - hstep
    have hs := step_cases (System.record_step hstep).1
    exact ⟨writeSets_step hws hs, done_step hws hs hr ht⟩
  exact hkept.2

/-- A worker that never came back, and one that took its row over as soon as
the lease was out. -/
def takenOver : List (Action Bool) :=
  [.createBatch 1 1 [(10, 100)] 0,
    .claim false 0, .readSubject false, .startBatch false 0, .commit false,
    .claim true (staleAfter + 1), .readSubject true,
    .startBatch true (staleAfter + 1), .commit true]

theorem takenOver_leased :
    ∃ x, (watched ⟨fun _ => [], fun _ => []⟩).run ⟨init, noHistory⟩ takenOver =
        some x ∧
      (held (x.state.worker false) = some (10, 1) ∧
        held (x.state.worker true) = some (10, 1)) ∧
      HeldOnce x.state x.history := by
  have hex : ∃ x, (watched ⟨fun _ => [], fun _ => []⟩).run
      ⟨init, noHistory⟩ takenOver = some x ∧
      (held (x.state.worker false) = some (10, 1) ∧
        held (x.state.worker true) = some (10, 1)) :=
    System.exists_of_runUnder (by decide)
  obtain ⟨x, hrun, hheld⟩ := hex
  have hinit : (watched ⟨fun _ => [], fun _ => []⟩).init
      ⟨(init : State Bool), noHistory⟩ := ⟨rfl, rfl⟩
  obtain ⟨-, -, -, -, honce⟩ :=
    leases (System.reachable_of_runUnder hinit hrun)
  exact ⟨x, hrun, hheld, honce⟩

end LeakcheckHub.Batches
