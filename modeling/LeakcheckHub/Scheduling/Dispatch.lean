import LeakcheckHub.Foundation.RowVersions
import LeakcheckHub.Foundation.System
import LeakcheckHub.Models
import Mathlib.Data.List.Sort
import Mathlib.Algebra.Order.Ring.Int
import Mathlib.Tactic.Linarith

/-!
# Recurring dispatch

`app/scheduling.py` and `toggle_schedule` of `app/routers/schedules.py`, one
SQL statement at a time: any number of workers tick, one of them leads, and
analysts toggle schedules meanwhile. A transaction may crash at any point and
is then rolled back.

§1 cron · §2 one schedule · §3 the system · §4 what a handled schedule looks
like · §5 the invariant · §6 its preservation.
-/

set_option linter.unusedSectionVars false

namespace LeakcheckHub.Scheduling

open Foundation

/-! ## §1  Cron -/

/-- A cron trigger: its slots, and the least of them at or after a
reference. -/
structure CronTrigger where
  slot : Timestamp → Prop
  getNextFireTime : Timestamp → Option Timestamp
  least : ∀ ref s, getNextFireTime ref = some s ↔
    slot s ∧ ref ≤ s ∧ ∀ s', slot s' → ref ≤ s' → s ≤ s'

/-- `CronTrigger.from_crontab` of an expression in a zone; `none` is the
`ValueError` or the `ZoneInfoNotFoundError`. -/
abbrev Crontab : Type := PyStr → PyStr → Option CronTrigger

/-- `next_fire_time`; `none` is the `ScheduleValidationError`. -/
def nextFireTime (fromCrontab : Crontab) (cron timezone : PyStr)
    (now : Timestamp) : Option Timestamp := do
  let trigger ← fromCrontab cron timezone
  -- an exact boundary is eligible, so the reference is past `now`
  trigger.getNextFireTime (now + 1)

theorem nextFireTime_gt {fromCrontab : Crontab} {cron timezone : PyStr}
    {now s : Timestamp}
    (h : nextFireTime fromCrontab cron timezone now = some s) : now < s := by
  obtain ⟨trigger, -, h⟩ := Option.bind_eq_some_iff.mp h
  have hle := ((trigger.least _ _).mp h).2.1
  exact Int.lt_of_add_one_le hle

/-! ## §2  One schedule -/

inductive ScheduleKind where
  | scanOu
  | scanDomain
  | digest
deriving DecidableEq, Repr

inductive BatchTarget where
  | ou
  | domain
  | selection
deriving DecidableEq, Repr

structure Schedule where
  kind : ScheduleKind
  target : PyStr
  cron : PyStr
  timezone : PyStr
  enabled : Bool
  misfireGraceSeconds : ℕ
  lastRunAt : Option Timestamp
  lastBatchId : Option Uuid
  nextRunAt : Timestamp
  lastError : Option PyStr
  createdBy : Uuid
deriving DecidableEq, Repr

/-- What a dispatch calls. -/
inductive Job where
  | digest (now : Timestamp)
  | batch (actorId : Uuid) (targetType : BatchTarget) (targetValue : PyStr)
deriving DecidableEq, Repr

def Schedule.job (s : Schedule) (tick : Timestamp) : Job :=
  match s.kind with
  | .digest => .digest tick
  | .scanOu => .batch s.createdBy .ou s.target
  | .scanDomain => .batch s.createdBy .domain s.target

/-- How the called function ends. -/
inductive Outcome where
  | done (batchId : Uuid)
  | valueError (message : PyStr)
  | raised
deriving DecidableEq, Repr

/-- What one iteration did: the misfire branch, the `except` or the `else`. -/
inductive Handling where
  | skipped
  | failed (job : Job)
  | ran (job : Job) (batchId : Option Uuid)
deriving DecidableEq, Repr

/-- The batch or the digest was attempted. -/
def Handling.attempted : Handling → Bool
  | .skipped => false
  | .failed _ | .ran _ _ => true

def misfireGraceExceeded : PyStr := PyStr.lit "misfire grace exceeded"

/-- The schedule is late by more than its grace. -/
def Schedule.misfired (s : Schedule) (tick : Timestamp) : Bool :=
  decide (seconds s.misfireGraceSeconds < tick - s.nextRunAt)

/-- One iteration of the loop; `none` is an exception that escapes it. -/
def dispatchOne (fromCrontab : Crontab) (tick : Timestamp) (o : Outcome)
    (schedule : Schedule) : Option (Schedule × Handling) := do
  let next ← nextFireTime fromCrontab schedule.cron schedule.timezone tick
  let advanced := { schedule with nextRunAt := next }
  if schedule.misfired tick then
    some ({ advanced with lastError := some misfireGraceExceeded }, .skipped)
  else
    let job := schedule.job tick
    match o with
    | .raised => none
    | .valueError message =>
        some ({ advanced with lastError := some (message.take 255) },
          .failed job)
    | .done batchId =>
        let batch := if schedule.kind = .digest then none else some batchId
        some ({ advanced with
            lastBatchId := batch.or schedule.lastBatchId
            lastRunAt := some tick
            lastError := none },
          .ran job batch)

/-- The assignments of `toggle_schedule`. -/
def toggle (fromCrontab : Crontab) (now : Timestamp) (schedule : Schedule) :
    Option Schedule :=
  if schedule.enabled then some { schedule with enabled := false }
  else do
    let next ←
      nextFireTime fromCrontab schedule.cron schedule.timezone now
    some { schedule with enabled := true, nextRunAt := next }

/-! ## §3  The system -/

/-- A tick between its select and its commit. -/
structure Tick (Tx : Type) where
  now : Timestamp
  /-- The table as the select met it. -/
  seen : Table Uuid Tx Schedule
  todo : List (Uuid × Schedule)
  /-- The handled rows, as they were selected. -/
  handled : List (Uuid × Schedule × Handling)

/-- Where a transaction is. -/
inductive Stage (Tx : Type) where
  | idle
  /-- A tick has read the clock. -/
  | begun (tick : Timestamp)
  /-- It holds the advisory lock. -/
  | leading (tick : Timestamp)
  | dispatching (T : Tick Tx)
  /-- A toggle has locked its row. -/
  | locked (id : Uuid) (schedule : Schedule)
  | toggled (id : Uuid)

/-- A committed batch or digest, with the slot it was due for. -/
structure Run where
  schedule : Uuid
  slot : Timestamp
  job : Job
  batchId : Option Uuid
deriving DecidableEq, Repr

structure State (Tx : Type) where
  clock : Timestamp
  schedules : Table Uuid Tx Schedule
  leader : Option Tx
  stage : Tx → Stage Tx
  runs : List Run

inductive Action (Tx : Type) where
  | advance (dt : ℕ)
  /-- `tick = datetime.now(UTC)`. -/
  | begin (w : Tx)
  | tryLead (w : Tx)
  | select (w : Tx)
  | handle (w : Tx) (o : Outcome)
  | lock (w : Tx) (id : Uuid)
  | flip (w : Tx)
  | commit (w : Tx)
  | crash (w : Tx)

section System

variable {Tx : Type} [DecidableEq Tx] (fromCrontab : Crontab)

def Schedule.due (tick : Timestamp) (s : Schedule) : Bool :=
  s.enabled && decide (s.nextRunAt ≤ tick)

/-- `ORDER BY next_run_at, id`. -/
def dueBefore (x y : Uuid × Schedule) : Prop :=
  x.2.nextRunAt < y.2.nextRunAt ∨
    x.2.nextRunAt = y.2.nextRunAt ∧ x.1.toNat ≤ y.1.toNat

instance : DecidableRel dueBefore := fun _ _ =>
  inferInstanceAs (Decidable (_ ∨ _))

def Handling.run (id : Uuid) (s : Schedule) : Handling → Option Run
  | .ran job batchId => some ⟨id, s.nextRunAt, job, batchId⟩
  | .skipped | .failed _ => none

/-- The batches and digests of a tick. -/
def Tick.runs (T : Tick Tx) : List Run :=
  T.handled.filterMap fun x => x.2.2.run x.1 x.2.1

namespace State

def setStage (s : State Tx) (w : Tx) (stage : Stage Tx) : State Tx :=
  { s with stage := Function.update s.stage w stage }

/-- The end of a transaction: its locks are released. -/
def finish (s : State Tx) (w : Tx) : State Tx :=
  { s with
    stage := Function.update s.stage w .idle
    leader := if s.leader = some w then none else s.leader }

def abort (s : State Tx) (w : Tx) : State Tx :=
  { s.finish w with schedules := s.schedules.rollback w }

/-- Rewrites a row that the transaction holds. -/
def write (s : State Tx) (w : Tx) (id : Uuid) (schedule : Schedule) :
    State Tx :=
  { s with schedules := s.schedules.put w id (some schedule) }

def step (s : State Tx) : Action Tx → Option (State Tx)
  | .advance dt => some { s with clock := s.clock + dt }
  | .begin w =>
      match s.stage w with
      | .idle => some (s.setStage w (.begun s.clock))
      | _ => none
  | .tryLead w =>
      match s.stage w with
      | .begun tick =>
          if s.leader.isSome then some (s.abort w)
          else some { s.setStage w (.leading tick) with leader := some w }
      | _ => none
  | .select w =>
      match s.stage w with
      | .leading tick =>
          let rows := (s.schedules.freeRows w).filter fun x => x.2.due tick
          let todo := rows.insertionSort dueBefore
          some { s.setStage w (.dispatching ⟨tick, s.schedules, todo, []⟩) with
            schedules := s.schedules.lockFree w (Schedule.due tick) }
      | _ => none
  | .handle w o =>
      match s.stage w with
      | .dispatching ⟨tick, seen, (id, schedule) :: todo, handled⟩ =>
          match dispatchOne fromCrontab tick o schedule with
          | none => some (s.abort w)
          | some (schedule', h) =>
              some ((s.write w id schedule').setStage w
                (.dispatching ⟨tick, seen, todo, (id, schedule, h) :: handled⟩))
      | _ => none
  | .lock w id =>
      match s.stage w with
      | .idle =>
          if (s.schedules.cell id).heldByOther w then none
          else
            match s.schedules.read w id with
            | none => some s
            | some schedule =>
                some ((s.write w id schedule).setStage w (.locked id schedule))
      | _ => none
  | .flip w =>
      match s.stage w with
      | .locked id schedule =>
          match toggle fromCrontab s.clock schedule with
          | none => some (s.abort w)
          | some schedule' =>
              some ((s.write w id schedule').setStage w (.toggled id))
      | _ => none
  | .commit w =>
      match s.stage w with
      | .dispatching ⟨tick, seen, [], handled⟩ =>
          some { s.finish w with
            schedules := s.schedules.commit w
            runs := (Tick.runs ⟨tick, seen, [], handled⟩) ++ s.runs }
      | .toggled _ =>
          some { s.finish w with schedules := s.schedules.commit w }
      | _ => none
  | .crash w => some (s.abort w)

end State

/-- Nothing has run, and no transaction is open. -/
structure Quiet (s : State Tx) : Prop where
  idle : ∀ w, s.stage w = .idle
  unlocked : s.schedules.Unlocked
  fresh : s.runs = []

def scheduler : System (State Tx) (Action Tx) where
  init := Quiet
  step := State.step fromCrontab

end System

/-! ## §4  What a handled schedule looks like -/

section Handled

variable {fromCrontab : Crontab} {tick : Timestamp} {o : Outcome}
  {r r' : Schedule} {h : Handling}

/-- What every path of an iteration has in common. -/
theorem dispatchOne_next (hd : dispatchOne fromCrontab tick o r = some (r', h)) :
    nextFireTime fromCrontab r.cron r.timezone tick = some r'.nextRunAt := by
  obtain ⟨next, hnext, hd⟩ := Option.bind_eq_some_iff.mp hd
  split at hd
  · cases hd
    exact hnext
  · simp only at hd
    split at hd
    · cases hd
    · cases hd
      exact hnext
    · cases hd
      exact hnext

/-- The misfire branch is taken exactly past the grace. -/
theorem dispatchOne_attempted
    (hd : dispatchOne fromCrontab tick o r = some (r', h)) :
    h.attempted = !r.misfired tick ∧
      (r.misfired tick = true → r'.lastError = some misfireGraceExceeded) := by
  obtain ⟨next, -, hd⟩ := Option.bind_eq_some_iff.mp hd
  split at hd
  · rename_i hmisfired
    cases hd
    rw [hmisfired]
    exact ⟨rfl, fun _ => rfl⟩
  · rename_i hgrace
    rw [Bool.not_eq_true] at hgrace
    rw [hgrace]
    simp only at hd
    split at hd
    · cases hd
    · cases hd
      exact ⟨rfl, nofun⟩
    · cases hd
      exact ⟨rfl, nofun⟩

theorem due_iff : r.due tick = true ↔ r.enabled = true ∧ r.nextRunAt ≤ tick := by
  rw [Schedule.due, Bool.and_eq_true, decide_eq_true_eq]

theorem toggle_spec {now : Timestamp}
    (ht : toggle fromCrontab now r = some r') :
    r'.nextRunAt = r.nextRunAt ∨ now < r'.nextRunAt := by
  unfold toggle at ht
  split at ht
  · cases ht
    exact .inl rfl
  · obtain ⟨next, hnext, ht⟩ := Option.bind_eq_some_iff.mp ht
    cases ht
    exact .inr (nextFireTime_gt hnext)

end Handled

/-! ## §5  The invariant -/

section Invariant

variable {Tx : Type} [DecidableEq Tx] {fromCrontab : Crontab}
  {tb : Table Uuid Tx Schedule} {w u : Tx} {i : Uuid} {r r' : Schedule}

/-- The transaction holds a row committed as `r` and will leave it as `r'`. -/
def Held (tb : Table Uuid Tx Schedule) (w : Tx) (i : Uuid) (r r' : Schedule) :
    Prop :=
  (tb.cell i).committed = some r ∧ (tb.cell i).pending = some (w, some r')

theorem Held.rollback (h : Held tb w i r r') (hne : w ≠ u) :
    Held (tb.rollback u) w i r r' := by
  refine ⟨?_, ?_⟩
  · rw [Table.rollback_cell, Cell.rollback_committed]
    exact h.1
  · exact (Cell.rollback_pending_other hne).mpr h.2

theorem Held.commit (h : Held tb w i r r') (hne : w ≠ u) :
    Held (tb.commit u) w i r r' := by
  refine ⟨?_, ?_⟩
  · rw [Table.commit_cell, Cell.commit_committed, Cell.read_of_locked h.2 hne]
    exact h.1
  · exact (Cell.commit_pending_other hne).mpr h.2

theorem Held.lockFree (h : Held tb w i r r') (hne : w ≠ u)
    {p : Schedule → Bool} : Held (tb.lockFree u p) w i r r' := by
  refine ⟨?_, (Table.lockFree_pending_other hne).mpr h.2⟩
  have hcommitted : (tb.lockFree u p).committedRow i = tb.committedRow i :=
    Table.lockFree_committedRow
  exact hcommitted.trans h.1

/-- A write elsewhere, or by nobody who could write here. -/
theorem Held.put (h : Held tb w i r r') (hne : w ≠ u) {j : Uuid}
    {x : Option Schedule} (hfree : (tb.cell j).heldByOther u = false) :
    Held (tb.put u j x) w i r r' := by
  refine ⟨?_, (Table.put_pending_other hne hfree).mpr h.2⟩
  exact Table.put_committedRow.trans h.1

theorem Held.put_ne (h : Held tb w i r r') {j : Uuid} (hne : i ≠ j)
    {x : Option Schedule} : Held (tb.put w j x) w i r r' := by
  rw [Held, Table.put_cell_ne hne]
  exact h

/-- What holds of a tick between its select and its commit: every due row that
was free is held, as it was selected or as its iteration left it. -/
structure Dispatching (fromCrontab : Crontab) (tb : Table Uuid Tx Schedule)
    (w : Tx) (T : Tick Tx) : Prop where
  cover : ∀ x ∈ T.seen.freeRows w, x.2.due T.now = true →
    x ∈ T.todo ∨ ∃ h, (x.1, x.2, h) ∈ T.handled
  nodup : (T.handled.map (·.1) ++ T.todo.map (·.1)).Nodup
  todo : ∀ x ∈ T.todo, x.2.due T.now = true ∧ Held tb w x.1 x.2 x.2
  handled : ∀ x ∈ T.handled, x.2.1.due T.now = true ∧ ∃ o r',
    dispatchOne fromCrontab T.now o x.2.1 = some (r', x.2.2) ∧
      Held tb w x.1 x.2.1 r'

/-- What holds of a transaction at its stage. -/
def Coherent (fromCrontab : Crontab) (clock : Timestamp)
    (tb : Table Uuid Tx Schedule) (w : Tx) : Stage Tx → Prop
  | .idle => ∀ i x, (tb.cell i).pending ≠ some (w, x)
  | .begun tick | .leading tick =>
      tick ≤ clock ∧ ∀ i x, (tb.cell i).pending ≠ some (w, x)
  | .dispatching T => T.now ≤ clock ∧ Dispatching fromCrontab tb w T
  | .locked i r => Held tb w i r r
  | .toggled _ => True

/-- A version of a schedule is past the slot of a run. -/
def Past (tb : Table Uuid Tx Schedule) (run : Run) : Prop :=
  (∀ r, (tb.cell run.schedule).committed = some r → run.slot < r.nextRunAt) ∧
    ∀ w r, (tb.cell run.schedule).pending = some (w, some r) →
      run.slot < r.nextRunAt

def Run.key (run : Run) : Uuid × Timestamp := (run.schedule, run.slot)

structure Inv (fromCrontab : Crontab) (s : State Tx) : Prop where
  coherent : ∀ w, Coherent fromCrontab s.clock s.schedules w (s.stage w)
  past : ∀ run ∈ s.runs, run.slot ≤ s.clock ∧ Past s.schedules run
  nodup : (s.runs.map Run.key).Nodup

/-- The rows a tick has done are of its own making. -/
theorem Dispatching.of_held {T : Tick Tx} {tb' : Table Uuid Tx Schedule}
    (h : Dispatching fromCrontab tb w T)
    (hheld : ∀ i r r', Held tb w i r r' → Held tb' w i r r') :
    Dispatching fromCrontab tb' w T := by
  refine { h with todo := ?_, handled := ?_ }
  · intro x hx
    exact ⟨(h.todo x hx).1, hheld _ _ _ (h.todo x hx).2⟩
  · intro x hx
    obtain ⟨hdue, o, r', hd, hx⟩ := h.handled x hx
    exact ⟨hdue, o, r', hd, hheld _ _ _ hx⟩

/-- A step of another transaction, in which this one's rows stay as they are. -/
theorem Coherent.of_other {clock clock' : Timestamp}
    {tb' : Table Uuid Tx Schedule} {stage : Stage Tx}
    (h : Coherent fromCrontab clock tb w stage) (hle : clock ≤ clock')
    (hheld : ∀ i r r', Held tb w i r r' → Held tb' w i r r')
    (hpending : ∀ i x, (tb'.cell i).pending = some (w, x) →
      (tb.cell i).pending = some (w, x)) :
    Coherent fromCrontab clock' tb' w stage := by
  cases stage with
  | idle => exact fun i x hx => h i x (hpending i x hx)
  | begun tick =>
      exact ⟨h.1.trans hle, fun i x hx => h.2 i x (hpending i x hx)⟩
  | leading tick =>
      exact ⟨h.1.trans hle, fun i x hx => h.2 i x (hpending i x hx)⟩
  | dispatching T => exact ⟨h.1.trans hle, h.2.of_held hheld⟩
  | locked i r => exact hheld i r r h
  | toggled i => trivial

/-! ## §6  Its preservation -/

variable {s s' : State Tx}

theorem inv_of_quiet (h : Quiet s) : Inv fromCrontab s where
  coherent w := by
    rw [h.idle w]
    exact fun i x => h.unlocked i _
  past := by
    rw [h.fresh]
    nofun
  nodup := by
    rw [h.fresh]
    exact List.nodup_nil

/-- A transaction moves on to another stage, over the same rows. -/
theorem Inv.setStage (h : Inv fromCrontab s) {stage : Stage Tx}
    (hstage : Coherent fromCrontab s.clock s.schedules w stage) :
    Inv fromCrontab (s.setStage w stage) := by
  refine { h with coherent := fun u => ?_ }
  by_cases hu : u = w
  · subst hu
    simpa [State.setStage] using hstage
  · simpa [State.setStage, hu] using h.coherent u

theorem Past.rollback {run : Run} (h : Past tb run) :
    Past (tb.rollback w) run := by
  refine ⟨?_, ?_⟩
  · intro r hr
    rw [Table.rollback_cell, Cell.rollback_committed] at hr
    exact h.1 r hr
  · intro u r hr
    by_cases hu : u = w
    · subst hu
      exact absurd hr Cell.rollback_pending_ne
    · exact h.2 u r ((Cell.rollback_pending_other hu).mp hr)

theorem Past.commit {run : Run} (h : Past tb run) : Past (tb.commit w) run := by
  refine ⟨?_, ?_⟩
  · -- what is committed was committed or pending before
    intro r hr
    rw [Table.commit_cell, Cell.commit_committed] at hr
    rcases Cell.read_cases w (tb.cell run.schedule) with
      ⟨x, hx, hread⟩ | ⟨-, hread⟩
    · rw [hread] at hr
      rw [hr] at hx
      exact h.2 w r hx
    · rw [hread] at hr
      exact h.1 r hr
  · intro u r hr
    by_cases hu : u = w
    · subst hu
      exact absurd hr Cell.commit_pending_ne
    · exact h.2 u r ((Cell.commit_pending_other hu).mp hr)

theorem Past.put {run : Run} (h : Past tb run)
    (hx : run.schedule = i → run.slot < r.nextRunAt) :
    Past (tb.put w i (some r)) run := by
  by_cases hi : run.schedule = i
  · subst hi
    refine ⟨?_, ?_⟩
    · intro r' hr'
      rw [Table.put_cell_self, Cell.put_committed] at hr'
      exact h.1 r' hr'
    · intro u r' hr'
      rw [Table.put_cell_self, Cell.put_pending] at hr'
      cases hr'
      exact hx rfl
  · rw [Past, Table.put_cell_ne hi]
    exact h

theorem Past.lockFree {run : Run} (h : Past tb run)
    (hnone : ∀ i x, (tb.cell i).pending ≠ some (w, x)) {p : Schedule → Bool} :
    Past (tb.lockFree w p) run := by
  rcases Table.lockFree_cell tb w run.schedule p with
    ⟨x, hx, -, hcell⟩ | ⟨-, hcell⟩
  · have hread := (Table.freeRow_eq_some.mp hx).2
    rw [Table.read, Cell.read_of_unowned (hnone run.schedule)] at hread
    rw [Past, hcell]
    refine ⟨h.1, ?_⟩
    intro u r hr
    rw [Cell.put_pending] at hr
    cases hr
    exact h.1 x hread
  · rw [Past, hcell]
    exact h

theorem inv_abort (h : Inv fromCrontab s) : Inv fromCrontab (s.abort w) := by
  refine ⟨fun u => ?_, ?_, h.nodup⟩
  · by_cases hu : u = w
    · subst hu
      simp only [State.abort, State.finish, Function.update_self]
      exact fun i x => Cell.rollback_pending_ne
    · simp only [State.abort, State.finish, Function.update_of_ne hu]
      refine (h.coherent u).of_other le_rfl ?_ ?_
      · exact fun i r r' hheld => hheld.rollback hu
      · exact fun i x hx => (Cell.rollback_pending_other hu).mp hx
  · intro run hrun
    exact ⟨(h.past run hrun).1, (h.past run hrun).2.rollback⟩

/-- A write of a row that the transaction holds or that nobody else does. -/
theorem inv_write (h : Inv fromCrontab s) {stage : Stage Tx}
    (hfree : (s.schedules.cell i).heldByOther w = false)
    (hpast : ∀ run ∈ s.runs, run.schedule = i → run.slot < r.nextRunAt)
    (hstage : Coherent fromCrontab s.clock (s.schedules.put w i (some r)) w
      stage) :
    Inv fromCrontab ((s.write w i r).setStage w stage) := by
  refine ⟨fun u => ?_, ?_, h.nodup⟩
  · by_cases hu : u = w
    · subst hu
      simpa [State.setStage, State.write] using hstage
    · simp only [State.setStage, State.write, Function.update_of_ne hu]
      refine (h.coherent u).of_other le_rfl ?_ ?_
      · exact fun j r r' hheld => hheld.put hu hfree
      · exact fun j x hx => (Table.put_pending_other hu hfree).mp hx
  · intro run hrun
    exact ⟨(h.past run hrun).1, (h.past run hrun).2.put (hpast run hrun)⟩

theorem inv_select {tick : Timestamp} (h : Inv fromCrontab s)
    (hstage : s.stage w = .leading tick)
    (hstep : s.step fromCrontab (.select w) = some s') :
    Inv fromCrontab s' := by
  simp only [State.step, hstage, Option.some.injEq] at hstep
  subst hstep
  have hc := h.coherent w
  rw [hstage] at hc
  obtain ⟨hclock, hnone⟩ := hc
  -- a due free row is committed as it is read, and is now held
  have hheld : ∀ x ∈ s.schedules.freeRows w, x.2.due tick = true →
      Held (s.schedules.lockFree w (Schedule.due tick)) w x.1 x.2 x.2 := by
    rintro ⟨i, r⟩ hx hdue
    have hfree := Table.mem_freeRows.mp hx
    have hread := (Table.freeRow_eq_some.mp hfree).2
    rw [Table.read, Cell.read_of_unowned (hnone i)] at hread
    rcases Table.lockFree_cell s.schedules w i (Schedule.due tick) with
      ⟨y, hy, -, hcell⟩ | ⟨hno, -⟩
    · rw [hfree, Option.some.injEq] at hy
      subst hy
      rw [Held, hcell]
      exact ⟨hread, rfl⟩
    · rw [hno r hfree] at hdue
      cases hdue
  refine ⟨fun u => ?_, ?_, h.nodup⟩
  · by_cases hu : u = w
    · subst hu
      simp only [State.setStage, Function.update_self]
      refine ⟨hclock, ?_, ?_, ?_, ?_⟩
      · intro x hx hdue
        left
        rw [List.mem_insertionSort, List.mem_filter]
        exact ⟨hx, hdue⟩
      · have hperm := List.perm_insertionSort dueBefore
          ((s.schedules.freeRows u).filter fun x => x.2.due tick)
        refine (hperm.map _).nodup_iff.mpr ?_
        exact (List.filter_sublist.map _).nodup Table.nodup_freeRows
      · intro x hx
        rw [List.mem_insertionSort, List.mem_filter] at hx
        exact ⟨hx.2, hheld x hx.1 hx.2⟩
      · intro x hx
        cases hx
    · simp only [State.setStage, Function.update_of_ne hu]
      refine (h.coherent u).of_other le_rfl ?_ ?_
      · exact fun i r r' hheld => hheld.lockFree hu
      · exact fun i x hx => (Table.lockFree_pending_other hu).mp hx
  · intro run hrun
    exact ⟨(h.past run hrun).1, (h.past run hrun).2.lockFree hnone⟩

theorem inv_handle {o : Outcome} (h : Inv fromCrontab s)
    (hstep : s.step fromCrontab (.handle w o) = some s') :
    Inv fromCrontab s' := by
  simp only [State.step] at hstep
  split at hstep
  · rename_i tick seen i r todo handled hstage
    split at hstep
    · cases hstep
      exact inv_abort h
    · rename_i r' hd hone
      cases hstep
      have hc := h.coherent w
      rw [hstage] at hc
      obtain ⟨hclock, hT⟩ := hc
      obtain ⟨hdue, hheld⟩ := hT.todo (i, r) List.mem_cons_self
      have hnext : tick < r'.nextRunAt := nextFireTime_gt (dispatchOne_next hone)
      have hnodup := hT.nodup
      rw [List.map_cons, List.nodup_middle] at hnodup
      obtain ⟨hfresh, hrest⟩ := List.nodup_cons.mp hnodup
      rw [List.mem_append, not_or] at hfresh
      refine inv_write h (Cell.heldByOther_of_pending hheld.2) ?_ ?_
      · -- the version before this one was past the slots run so far
        intro run hrun hi
        have hslot := (h.past run hrun).2.1 r (hi ▸ hheld.1)
        have hle := (due_iff.mp hdue).2
        exact hslot.trans_le (hle.trans hnext.le)
      · refine ⟨hclock, ?_⟩
        constructor
        case cover =>
          intro x hx hxdue
          rcases hT.cover x hx hxdue with hx | ⟨h', hx⟩
          · rcases List.mem_cons.mp hx with rfl | hx
            · exact .inr ⟨hd, List.mem_cons_self⟩
            · exact .inl hx
          · exact .inr ⟨h', List.mem_cons_of_mem _ hx⟩
        case nodup =>
          rw [List.map_cons, List.cons_append]
          exact List.nodup_cons.mpr
            ⟨by rw [List.mem_append, not_or]; exact hfresh, hrest⟩
        case todo =>
          intro x hx
          obtain ⟨hxdue, hxheld⟩ := hT.todo x (List.mem_cons_of_mem _ hx)
          have hmem : x.1 ∈ todo.map (·.1) := List.mem_map_of_mem hx
          have hne : x.1 ≠ i := fun heq => hfresh.2 (heq ▸ hmem)
          exact ⟨hxdue, hxheld.put_ne hne⟩
        case handled =>
          intro x hx
          rcases List.mem_cons.mp hx with rfl | hx
          · refine ⟨hdue, o, r', hone, ?_, ?_⟩
            · exact Table.put_committedRow.trans hheld.1
            · rw [Table.put_cell_self, Cell.put_pending]
          · obtain ⟨hxdue, o', r'', hone', hxheld⟩ := hT.handled x hx
            have hmem : x.1 ∈ handled.map (·.1) := List.mem_map_of_mem hx
            have hne : x.1 ≠ i := fun heq => hfresh.1 (heq ▸ hmem)
            exact ⟨hxdue, o', r'', hone', hxheld.put_ne hne⟩
  · cases hstep

theorem inv_lock (h : Inv fromCrontab s)
    (hstep : s.step fromCrontab (.lock w i) = some s') :
    Inv fromCrontab s' := by
  simp only [State.step] at hstep
  split at hstep
  · rename_i hstage
    split at hstep
    · cases hstep
    · rename_i hfree
      rw [Bool.not_eq_true] at hfree
      have hnone := h.coherent w
      rw [hstage] at hnone
      split at hstep
      · cases hstep
        exact h
      · rename_i r hread
        cases hstep
        rw [Table.read, Cell.read_of_unowned (hnone i)] at hread
        refine inv_write h hfree ?_ ⟨?_, ?_⟩
        · intro run hrun hi
          exact (h.past run hrun).2.1 r (hi ▸ hread)
        · exact Table.put_committedRow.trans hread
        · rw [Table.put_cell_self, Cell.put_pending]
  · cases hstep

theorem inv_flip (h : Inv fromCrontab s)
    (hstep : s.step fromCrontab (.flip w) = some s') :
    Inv fromCrontab s' := by
  simp only [State.step] at hstep
  split at hstep
  · rename_i i r hstage
    split at hstep
    · cases hstep
      exact inv_abort h
    · rename_i r' htoggle
      cases hstep
      have hheld := h.coherent w
      rw [hstage] at hheld
      refine inv_write h (Cell.heldByOther_of_pending hheld.2) ?_ trivial
      intro run hrun hi
      obtain ⟨hclock, hpast⟩ := h.past run hrun
      rcases toggle_spec htoggle with hsame | hlater
      · rw [hsame]
        exact hpast.1 r (hi ▸ hheld.1)
      · exact hclock.trans_lt hlater
  · cases hstep

/-! ### Commits -/

theorem mem_runs {T : Tick Tx} {run : Run} :
    run ∈ T.runs ↔ ∃ i r job b, (i, r, Handling.ran job b) ∈ T.handled ∧
      run = ⟨i, r.nextRunAt, job, b⟩ := by
  unfold Tick.runs
  rw [List.mem_filterMap]
  constructor
  · rintro ⟨⟨i, r, h⟩, hx, hrun⟩
    cases h with
    | ran job b =>
        cases hrun
        exact ⟨i, r, job, b, hx, rfl⟩
    | skipped => cases hrun
    | failed job => cases hrun
  · rintro ⟨i, r, job, b, hx, rfl⟩
    exact ⟨(i, r, .ran job b), hx, rfl⟩

/-- A tick runs a schedule once at most. -/
theorem nodup_runs {T : Tick Tx} (h : (T.handled.map (·.1)).Nodup) :
    (T.runs.map Run.schedule).Nodup := by
  unfold Tick.runs
  rw [List.map_filterMap]
  have hsub : (T.handled.filterMap fun x =>
      (x.2.2.run x.1 x.2.1).map Run.schedule).Sublist (T.handled.map (·.1)) := by
    induction T.handled with
    | nil => exact List.Sublist.refl _
    | cons x xs ih =>
        rw [List.filterMap_cons, List.map_cons]
        split
        · exact ih.cons _
        · rename_i j hj
          obtain ⟨run, hrun, rfl⟩ := Option.map_eq_some_iff.mp hj
          have hid : run.schedule = x.1 := by
            obtain ⟨i, r, h⟩ := x
            cases h with
            | ran job b =>
                cases hrun
                rfl
            | skipped => cases hrun
            | failed job => cases hrun
          rw [hid]
          exact ih.cons_cons _
  exact hsub.nodup h

/-- The end of a transaction that installs its rows. -/
theorem coherent_commit (h : Inv fromCrontab s) (u : Tx) :
    Coherent fromCrontab s.clock (s.schedules.commit w) u
      ((s.finish w).stage u) := by
  by_cases hu : u = w
  · subst hu
    simp only [State.finish, Function.update_self]
    exact fun i x => Cell.commit_pending_ne
  · simp only [State.finish, Function.update_of_ne hu]
    refine (h.coherent u).of_other le_rfl ?_ ?_
    · exact fun i r r' hheld => hheld.commit hu
    · exact fun i x hx => (Cell.commit_pending_other hu).mp hx

/-- A run of a tick is past its slot once the tick has committed. -/
theorem past_of_handled {T : Tick Tx} (hT : Dispatching fromCrontab tb w T)
    {run : Run} (hrun : run ∈ T.runs) :
    run.slot ≤ T.now ∧ Past (tb.commit w) run := by
  obtain ⟨i, r, job, b, hx, rfl⟩ := mem_runs.mp hrun
  obtain ⟨hdue, o, r', hone, hheld⟩ := hT.handled _ hx
  have hle : r.nextRunAt ≤ T.now := (due_iff.mp hdue).2
  have hnext : T.now < r'.nextRunAt := nextFireTime_gt (dispatchOne_next hone)
  refine ⟨hle, ?_, ?_⟩
  · intro x hxc
    rw [Table.commit_cell, Cell.commit_committed, Cell.read_of_pending hheld.2,
      Option.some.injEq] at hxc
    rw [← hxc]
    exact hle.trans_lt hnext
  · intro u x hxp
    by_cases hu : u = w
    · subst hu
      exact absurd hxp Cell.commit_pending_ne
    · rw [Table.commit_cell, Cell.commit_pending_other hu, hheld.2,
        Option.some.injEq, Prod.mk.injEq] at hxp
      exact absurd hxp.1.symm hu

theorem inv_commit (h : Inv fromCrontab s)
    (hstep : s.step fromCrontab (.commit w) = some s') :
    Inv fromCrontab s' := by
  simp only [State.step] at hstep
  split at hstep
  · rename_i tick seen handled hstage
    cases hstep
    have hc := h.coherent w
    rw [hstage] at hc
    obtain ⟨hclock, hT⟩ := hc
    refine ⟨coherent_commit h, ?_, ?_⟩
    · intro run hrun
      rcases List.mem_append.mp hrun with hrun | hrun
      · obtain ⟨hslot, hpast⟩ := past_of_handled hT hrun
        exact ⟨hslot.trans hclock, hpast⟩
      · exact ⟨(h.past run hrun).1, (h.past run hrun).2.commit⟩
    · -- new slots are those of the committed rows, which old runs are past
      rw [List.map_append]
      refine List.nodup_append.mpr ⟨?_, h.nodup, ?_⟩
      · refine List.Nodup.of_map Prod.fst ?_
        rw [List.map_map]
        have hids := (List.nodup_append.mp hT.nodup).1
        exact nodup_runs hids
      · rintro k hnew k' hold rfl
        obtain ⟨run, hrun, rfl⟩ := List.mem_map.mp hnew
        obtain ⟨run', hrun', hkey⟩ := List.mem_map.mp hold
        obtain ⟨i, r, job, b, hx, rfl⟩ := mem_runs.mp hrun
        obtain ⟨-, o, r', -, hheld⟩ := hT.handled _ hx
        rw [Run.key, Run.key, Prod.mk.injEq] at hkey
        have hslot := (h.past run' hrun').2.1 r (by rw [hkey.1]; exact hheld.1)
        rw [hkey.2] at hslot
        exact lt_irrefl _ hslot
  · cases hstep
    refine ⟨coherent_commit h, ?_, h.nodup⟩
    intro run hrun
    exact ⟨(h.past run hrun).1, (h.past run hrun).2.commit⟩
  · cases hstep

theorem inv_step {a : Action Tx} (h : Inv fromCrontab s)
    (hstep : s.step fromCrontab a = some s') : Inv fromCrontab s' := by
  cases a with
  | advance dt =>
      cases hstep
      have hle : s.clock ≤ s.clock + dt :=
        Int.le_add_of_nonneg_right (Int.natCast_nonneg dt)
      refine ⟨fun u => ?_, ?_, h.nodup⟩
      · exact (h.coherent u).of_other hle (fun _ _ _ => id) fun _ _ => id
      · intro run hrun
        exact ⟨(h.past run hrun).1.trans hle, (h.past run hrun).2⟩
  | begin w =>
      simp only [State.step] at hstep
      split at hstep
      · rename_i hstage
        cases hstep
        have hc := h.coherent w
        rw [hstage] at hc
        exact h.setStage ⟨le_rfl, hc⟩
      · cases hstep
  | tryLead w =>
      simp only [State.step] at hstep
      split at hstep
      · rename_i tick hstage
        split at hstep
        · cases hstep
          exact inv_abort h
        · cases hstep
          have hc := h.coherent w
          rw [hstage] at hc
          have hled : Inv fromCrontab (s.setStage w (.leading tick)) :=
            h.setStage hc
          exact ⟨hled.coherent, hled.past, hled.nodup⟩
      · cases hstep
  | select w =>
      cases hstage : s.stage w with
      | leading tick => exact inv_select h hstage hstep
      | _ =>
          simp only [State.step, hstage] at hstep
          cases hstep
  | handle w o => exact inv_handle h hstep
  | lock w i => exact inv_lock h hstep
  | flip w => exact inv_flip h hstep
  | commit w => exact inv_commit h hstep
  | crash w =>
      cases hstep
      exact inv_abort h

theorem inv_reachable (h : (scheduler fromCrontab).Reachable s) :
    Inv fromCrontab s :=
  System.ReachableUnder.invariant h (fun _ hs => inv_of_quiet hs)
    fun _ _ _ hs _ hstep => inv_step hs hstep

end Invariant

end LeakcheckHub.Scheduling
