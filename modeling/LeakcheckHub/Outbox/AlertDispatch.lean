import LeakcheckHub.Foundation.PyText
import LeakcheckHub.Foundation.RowLocks
import LeakcheckHub.Foundation.System
import LeakcheckHub.Models
import Mathlib.Algebra.Order.Ring.Int
import Mathlib.Data.List.Sort
import Mathlib.Tactic.Linarith

/-!
# Dispatch of alerts

`dispatch_next_alert` of `app/alerts.py`, one SQL statement at a time: any
number of workers attempt the alerts of one outbox, each in a transaction that
locks its alert from the select to the commit, while others enqueue and time
passes.

§1 one attempt · §2 the system · §3 locks · §4 an alert and its attempts ·
§5 what a step does to them · §6 the law.
-/

set_option linter.unusedSectionVars false

namespace LeakcheckHub.Outbox.Dispatch

open Foundation

/-! ## §1  One attempt -/

/-- `type(exc).__name__`, as `last_error` can hold it. -/
structure ErrorName where
  name : PyStr
  fits : name.length ≤ 255
deriving DecidableEq

/-- `LookupError("sink adapter is not configured")`. -/
def lookupError : ErrorName := ⟨PyStr.lit "LookupError", by decide⟩

/-- `_MAX_ATTEMPTS`. -/
def maxAttempts : ℕ := 5

/-- `min(15 * (2 ** (alert.attempts - 1)), 15 * 60)` seconds. -/
def retryDelay (attempts : ℕ) : Timestamp :=
  seconds (min (15 * 2 ^ (attempts - 1)) (15 * 60) : ℕ)

/-- The configured adapters: what `send` of each raises, if anything. -/
abbrev Sinks : Type := AlertSinkName → Option (Option ErrorName)

/-- What the `try` block raises for an alert of `sink`. -/
def raised (sinks : Sinks) (sink : AlertSinkName) : Option ErrorName :=
  match sinks sink with
  | none => some lookupError
  | some error => error

/-- `alert.attempts += 1`. -/
def countAttempt (alert : AlertOutbox) : AlertOutbox :=
  { alert with attempts := alert.attempts + 1 }

/-- The `except` and the `else` block. -/
def conclude (current : Timestamp) (alert : AlertOutbox) :
    Option ErrorName → AlertOutbox
  | some error =>
      let alert := { alert with lastError := some error.name }
      if maxAttempts ≤ alert.attempts then
        { alert with status := .deadLetter }
      else
        { alert with nextAttemptAt := current + retryDelay alert.attempts }
  | none =>
      { alert with
        status := .delivered
        deliveredAt := some current
        lastError := none }

/-- The `WHERE` of the select. -/
def due (current : Timestamp) (alert : AlertOutbox) : Bool :=
  alert.status == .pending && decide (alert.nextAttemptAt ≤ current)

/-- `ORDER BY next_attempt_at, id`. -/
def attemptedBefore (x y : Uuid × AlertOutbox) : Prop :=
  x.2.nextAttemptAt < y.2.nextAttemptAt ∨
    x.2.nextAttemptAt = y.2.nextAttemptAt ∧ x.1.toNat ≤ y.1.toNat

instance : DecidableRel attemptedBefore := fun _ _ =>
  inferInstanceAs (Decidable (_ ∨ _))

/-! ## §2  The system -/

/-- The alert of a worker, as its select read it. -/
structure Taken where
  current : Timestamp
  id : Uuid
  alert : AlertOutbox

/-- Where a call of `dispatch_next_alert` is. -/
inductive Stage where
  | idle
  /-- It has read the clock, or got its `now`. -/
  | begun (current : Timestamp)
  | taken (t : Taken)
  /-- The attempt is made, and `row` is assigned and not committed. -/
  | attempted (t : Taken) (row : AlertOutbox)

def Stage.took : Stage → Option Taken
  | .idle | .begun _ => none
  | .taken t | .attempted t _ => some t

/-- The locked row. -/
def Stage.held (stage : Stage) : Option (Uuid × AlertOutbox) :=
  stage.took.map fun t => (t.id, t.alert)

structure State (Tx : Type) where
  alerts : Table Uuid Tx AlertOutbox
  stage : Tx → Stage
  clock : Timestamp

inductive Action (Tx : Type) where
  | tick (elapsed : ℕ)
  /-- Another transaction commits a new alert. -/
  | enqueue (alert : AlertOutbox)
  /-- A call, with its `now`. -/
  | begin (w : Tx) (now : Option Timestamp)
  | select (w : Tx)
  /-- The `try` statement ends; `send` takes the time since the select. -/
  | attempt (w : Tx) (sinks : Sinks)
  | commit (w : Tx)
  /-- The call ends in an exception or a crash, before its attempt. -/
  | abort (w : Tx)

/-- The columns of an alert that `enqueue_alert` has written. -/
def New (alert : AlertOutbox) : Prop :=
  alert.status = .pending ∧ alert.attempts = 0 ∧ alert.lastError = none

instance (alert : AlertOutbox) : Decidable (New alert) :=
  inferInstanceAs (Decidable (_ ∧ _))

section System

variable {Tx : Type} [DecidableEq Tx]

/-- `SELECT … LIMIT 1 FOR UPDATE SKIP LOCKED`. -/
def nextAlert (alerts : Table Uuid Tx AlertOutbox) (w : Tx)
    (current : Timestamp) : Option (Uuid × AlertOutbox) :=
  (((alerts.freeRows w).filter fun x => due current x.2).insertionSort
    attemptedBefore).head?

namespace State

def setStage (s : State Tx) (w : Tx) (stage : Stage) : State Tx :=
  { s with stage := Function.update s.stage w stage }

def abort (s : State Tx) (w : Tx) : State Tx :=
  { s with
    alerts := s.alerts.rollback w
    stage := Function.update s.stage w .idle }

def take (s : State Tx) (w : Tx) (t : Taken) : State Tx :=
  { s with
    alerts := s.alerts.put w t.id (some t.alert)
    stage := Function.update s.stage w (.taken t) }

/-- The assigned columns are flushed, and the transaction commits. -/
def save (s : State Tx) (w : Tx) (t : Taken) (row : AlertOutbox) : State Tx :=
  { s with
    alerts := (s.alerts.put w t.id (some row)).commit w
    stage := Function.update s.stage w .idle }

def step (s : State Tx) : Action Tx → Option (State Tx)
  | .tick elapsed => some { s with clock := s.clock + elapsed }
  | .enqueue alert =>
      if alert.id ∉ s.alerts.ids ∧ New alert then
        some { s with alerts := s.alerts.insertCommitted alert.id alert }
      else none
  | .begin w now =>
      match s.stage w with
      | .idle => some (s.setStage w (.begun (now.getD s.clock)))
      | _ => none
  | .select w =>
      match s.stage w with
      | .begun current =>
          match nextAlert s.alerts w current with
          | none => some (s.abort w)
          | some (id, alert) => some (s.take w ⟨current, id, alert⟩)
      | _ => none
  | .attempt w sinks =>
      match s.stage w with
      | .taken t =>
          let alert := countAttempt t.alert
          some (s.setStage w (.attempted t
            (conclude t.current alert (raised sinks alert.sink))))
      | _ => none
  | .commit w =>
      match s.stage w with
      | .attempted t row => some (s.save w t row)
      | _ => none
  | .abort w =>
      match s.stage w with
      | .attempted _ _ => none
      | _ => some (s.abort w)

end State

/-- No call is in progress, and all alerts are new. -/
structure Quiet (s : State Tx) : Prop where
  idle : ∀ w, s.stage w = .idle
  unlocked : s.alerts.Unlocked
  new : ∀ i alert, s.alerts.committedRow i = some alert → New alert

structure Attempt where
  id : Uuid
  /-- The clock reading of the call, from before its select and its `send`. -/
  current : Timestamp
  /-- When it delivered or failed. -/
  ended : Timestamp
  /-- The adapter's `send` was called. -/
  sent : Bool
  error : Option ErrorName

def noteAttempt (s : State Tx) (done : List Attempt) :
    Action Tx → List Attempt
  | .attempt w sinks =>
      match s.stage w with
      | .taken t => done ++ [⟨t.id, t.current, s.clock,
          (sinks t.alert.sink).isSome, raised sinks t.alert.sink⟩]
      | _ => done
  | _ => done

end System

/-- The system, and the attempts that were made. -/
def dispatching (Tx : Type) [DecidableEq Tx] :
    System (Recorded (State Tx) (List Attempt)) (Action Tx) :=
  (System.mk Quiet State.step).record [] noteAttempt

/-- The attempts of one alert. -/
def attemptsOf (id : Uuid) (done : List Attempt) : List Attempt :=
  done.filter fun e => decide (e.id = id)

/-! ## §3  Locks -/

section Step

variable {Tx : Type} [DecidableEq Tx] {s s' : State Tx} {w v : Tx} {t t' : Taken}
  {row : AlertOutbox} {stage : Stage} {a : Action Tx}
  {x y : Recorded (State Tx) (List Attempt)} {i : Uuid}

/-- The alert that a select takes. -/
structure Takes (s : State Tx) (w : Tx) (t : Taken) : Prop where
  begun : s.stage w = .begun t.current
  free : (s.alerts.cell t.id).heldByOther w = false
  seen : s.alerts.read w t.id = some t.alert
  due : due t.current t.alert = true

/-- Every step is one of these, with the attempt that it makes. -/
inductive Effect (s : State Tx) : State Tx → Option Attempt → Prop
  | ticked {elapsed : ℕ} : Effect s { s with clock := s.clock + elapsed } none
  | enqueued {alert : AlertOutbox} : alert.id ∉ s.alerts.ids → New alert →
      Effect s { s with
        alerts := s.alerts.insertCommitted alert.id alert } none
  | begun {w : Tx} {current : Timestamp} : s.stage w = .idle →
      Effect s (s.setStage w (.begun current)) none
  | took {w : Tx} {t : Taken} : Takes s w t → Effect s (s.take w t) none
  | attempted {w : Tx} {t : Taken} {sent : Bool} {error : Option ErrorName} :
      s.stage w = .taken t →
      Effect s (s.setStage w (.attempted t
          (conclude t.current (countAttempt t.alert) error)))
        (some ⟨t.id, t.current, s.clock, sent, error⟩)
  | saved {w : Tx} {t : Taken} {row : AlertOutbox} :
      s.stage w = .attempted t row → Effect s (s.save w t row) none
  | aborted {w : Tx} : (∀ t row, s.stage w ≠ .attempted t row) →
      Effect s (s.abort w) none

theorem takes_of_nextAlert {current : Timestamp} {id : Uuid}
    {alert : AlertOutbox} (hstage : s.stage w = .begun current)
    (h : nextAlert s.alerts w current = some (id, alert)) :
    Takes s w ⟨current, id, alert⟩ := by
  have hmem := List.mem_of_head? h
  rw [List.mem_insertionSort, List.mem_filter] at hmem
  obtain ⟨hfree, hread⟩ :=
    Table.freeRow_eq_some.mp (Table.mem_freeRows.mp hmem.1)
  exact ⟨hstage, hfree, hread, hmem.2⟩

theorem step_effect (h : (dispatching Tx).step x a = some y) :
    ∃ e, Effect x.state y.state e ∧ y.history = x.history ++ e.toList := by
  obtain ⟨hstep, hnote⟩ := System.record_step h
  have hstep : x.state.step a = some y.state := hstep
  cases a with
  | tick elapsed =>
      refine ⟨none, ?_, hnote.trans (List.append_nil _).symm⟩
      rw [← Option.some.inj hstep]
      exact .ticked
  | enqueue alert =>
      simp only [State.step] at hstep
      split at hstep
      · rename_i hnew
        refine ⟨none, ?_, hnote.trans (List.append_nil _).symm⟩
        rw [← Option.some.inj hstep]
        exact .enqueued hnew.1 hnew.2
      · cases hstep
  | begin w now =>
      simp only [State.step] at hstep
      split at hstep
      · rename_i hstage
        refine ⟨none, ?_, hnote.trans (List.append_nil _).symm⟩
        rw [← Option.some.inj hstep]
        exact .begun hstage
      · cases hstep
  | select w =>
      simp only [State.step] at hstep
      split at hstep
      · rename_i current hstage
        refine ⟨none, ?_, hnote.trans (List.append_nil _).symm⟩
        split at hstep
        · rw [← Option.some.inj hstep]
          refine .aborted fun t row hrow => ?_
          rw [hstage] at hrow
          cases hrow
        · rename_i id alert hnext
          rw [← Option.some.inj hstep]
          exact .took (takes_of_nextAlert hstage hnext)
      · cases hstep
  | attempt w sinks =>
      simp only [State.step] at hstep
      split at hstep
      · rename_i t hstage
        refine ⟨some ⟨t.id, t.current, x.state.clock,
          (sinks t.alert.sink).isSome, raised sinks t.alert.sink⟩, ?_, ?_⟩
        · rw [← Option.some.inj hstep]
          exact .attempted hstage
        · simpa [noteAttempt, hstage] using hnote
      · cases hstep
  | commit w =>
      simp only [State.step] at hstep
      split at hstep
      · rename_i t row hstage
        refine ⟨none, ?_, hnote.trans (List.append_nil _).symm⟩
        rw [← Option.some.inj hstep]
        exact .saved hstage
      · cases hstep
  | abort w =>
      simp only [State.step] at hstep
      split at hstep
      · cases hstep
      · rename_i hstage
        refine ⟨none, ?_, hnote.trans (List.append_nil _).symm⟩
        rw [← Option.some.inj hstep]
        exact .aborted hstage

/-- A worker that has taken an alert holds its row, which is committed as the
worker read it, and due. -/
structure Locked (s : State Tx) : Prop where
  locks : OneRow s.alerts fun w => (s.stage w).held
  row : ∀ w t, (s.stage w).took = some t →
    s.alerts.committedRow t.id = some t.alert ∧ due t.current t.alert = true

theorem held_of_took (h : stage.took = some t) :
    stage.held = some (t.id, t.alert) := by
  unfold Stage.held
  rw [h]
  rfl

theorem Quiet.locked (h : Quiet s) : Locked s := by
  refine ⟨.of_unlocked h.unlocked fun w => ?_, fun w t ht => ?_⟩
  · rw [h.idle w]
    rfl
  · rw [h.idle w] at ht
    cases ht

/-- Two workers never hold one alert. -/
theorem Locked.id_ne (h : Locked s) (ht : (s.stage w).took = some t)
    (ht' : (s.stage v).took = some t') (hne : v ≠ w) : t'.id ≠ t.id := by
  intro hid
  have hv := held_of_took ht'
  rw [hid] at hv
  exact hne (h.locks.inj hv (held_of_took ht))

theorem setStage_self : (s.setStage w stage).stage w = stage :=
  Function.update_self _ _ _

theorem setStage_ne (h : v ≠ w) : (s.setStage w stage).stage v = s.stage v :=
  Function.update_of_ne h _ _

/-- A worker moves on with the alert that it has. -/
theorem Locked.setStage (h : Locked s) (hstage : stage.took = (s.stage w).took) :
    Locked (s.setStage w stage) := by
  have htook : ∀ v, ((s.setStage w stage).stage v).took = (s.stage v).took := by
    intro v
    by_cases hv : v = w
    · rw [hv, setStage_self, hstage]
    · rw [setStage_ne hv]
  have hheld : (fun v => ((s.setStage w stage).stage v).held) =
      fun v => (s.stage v).held := by
    funext v
    unfold Stage.held
    rw [htook v]
  refine ⟨?_, fun v t ht => ?_⟩
  · rw [hheld]
    exact h.locks
  · rw [htook v] at ht
    exact h.row v t ht

theorem Locked.take (h : Locked s) (ht : Takes s w t) : Locked (s.take w t) := by
  have hnone : (s.stage w).held = none := by
    rw [ht.begun]
    rfl
  have hself : ((s.take w t).stage w).took = some t := by
    show (Function.update s.stage w (.taken t) w).took = _
    rw [Function.update_self]
    rfl
  have hothers : ∀ v, v ≠ w → (s.take w t).stage v = s.stage v :=
    fun v hv => Function.update_of_ne hv _ _
  refine ⟨h.locks.put ht.free ?_ (held_of_took hself) ?_, ?_⟩
  · intro j r hj
    rw [hnone] at hj
    cases hj
  · intro v hv
    rw [hothers v hv]
  · intro v t' ht'
    have hcommitted : (s.take w t).alerts.committedRow t'.id =
        s.alerts.committedRow t'.id := Table.put_committedRow
    rw [hcommitted]
    by_cases hv : v = w
    · subst hv
      rw [hself, Option.some.injEq] at ht'
      subst ht'
      refine ⟨?_, ht.due⟩
      rw [← ht.seen]
      refine (h.locks.read_eq fun r hr => ?_).symm
      rw [hnone] at hr
      cases hr
    · rw [hothers v hv] at ht'
      exact h.row v t' ht'

theorem Locked.abort (h : Locked s) : Locked (s.abort w) := by
  have hself : (s.abort w).stage w = .idle := Function.update_self _ _ _
  have hothers : ∀ v, v ≠ w → (s.abort w).stage v = s.stage v :=
    fun v hv => Function.update_of_ne hv _ _
  refine ⟨h.locks.rollback ?_ fun v hv => ?_, ?_⟩
  · rw [hself]
    rfl
  · rw [hothers v hv]
  · intro v t ht
    have hv : v ≠ w := by
      rintro rfl
      rw [hself] at ht
      cases ht
    rw [hothers v hv] at ht
    have hrow := h.row v t ht
    rw [← Table.rollback_committedRow (t := w)] at hrow
    exact hrow

/-- The row that a worker has assigned, under its lock. -/
theorem Locked.flush (h : Locked s) (hstage : s.stage w = .attempted t row) :
    OneRow (s.alerts.put w t.id (some row)) (Function.update
      (fun v => (s.stage v).held) w (some (t.id, row))) := by
  have hheld : (s.stage w).held = some (t.id, t.alert) := by
    rw [hstage]
    rfl
  refine h.locks.put (h.locks.free hheld) ?_ (Function.update_self _ _ _)
    fun v hv => Function.update_of_ne hv _ _
  intro j r hj
  rw [hheld, Option.some.injEq, Prod.mk.injEq] at hj
  exact hj.1.symm

/-- A commit changes the row of its worker, and no other. -/
theorem Locked.save_committedRow (h : Locked s)
    (hstage : s.stage w = .attempted t row) (i : Uuid) :
    (s.save w t row).alerts.committedRow i =
      if i = t.id then some row else s.alerts.committedRow i := by
  have hcommit := (h.flush hstage).commit_committedRow (j := i)
    (Function.update_self _ _ _)
  rw [Table.put_committedRow] at hcommit
  exact hcommit

theorem Locked.save (h : Locked s) (hstage : s.stage w = .attempted t row) :
    Locked (s.save w t row) := by
  have hself : (s.save w t row).stage w = .idle := Function.update_self _ _ _
  have hothers : ∀ v, v ≠ w → (s.save w t row).stage v = s.stage v :=
    fun v hv => Function.update_of_ne hv _ _
  have htook : (s.stage w).took = some t := by
    rw [hstage]
    rfl
  refine ⟨(h.flush hstage).commit ?_ fun v hv => ?_, ?_⟩
  · rw [hself]
    rfl
  · rw [hothers v hv, Function.update_of_ne hv]
  · intro v t' ht'
    have hv : v ≠ w := by
      rintro rfl
      rw [hself] at ht'
      cases ht'
    rw [hothers v hv] at ht'
    rw [h.save_committedRow hstage, if_neg (h.id_ne htook ht' hv)]
    exact h.row v t' ht'

theorem Locked.enqueue (h : Locked s) {alert : AlertOutbox}
    (hnew : alert.id ∉ s.alerts.ids) :
    Locked { s with
      alerts := s.alerts.insertCommitted alert.id alert } := by
  refine ⟨h.locks.insertCommitted hnew, fun w t ht => ?_⟩
  obtain ⟨hrow, hdue⟩ := h.row w t ht
  have hne : t.id ≠ alert.id :=
    fun hid => hnew (hid ▸ Table.mem_ids_of_committedRow hrow)
  refine ⟨?_, hdue⟩
  show ((s.alerts.insertCommitted alert.id alert).cell t.id).committed = _
  rw [Table.insertCommitted_cell_ne hne]
  exact hrow

theorem Locked.effect {e : Option Attempt} (h : Locked s) (he : Effect s s' e) :
    Locked s' := by
  cases he with
  | ticked => exact ⟨h.locks, h.row⟩
  | enqueued hnew _ => exact h.enqueue hnew
  | begun hstage => exact h.setStage (by rw [hstage]; rfl)
  | took ht => exact h.take ht
  | attempted hstage => exact h.setStage (by rw [hstage]; rfl)
  | saved hstage => exact h.save hstage
  | aborted _ => exact h.abort

end Step

/-! ## §4  An alert and its attempts -/

/-- At most five attempts, all of them failures before the last. The back-off of
a failure lies between the clock readings of two calls. -/
structure Orderly (done : List Attempt) : Prop where
  length : done.length ≤ maxAttempts
  failed : ∀ e ∈ done.dropLast, e.error ≠ none
  spaced : ∀ k e e', done[k]? = some e → done[k + 1]? = some e' →
    e.current + seconds (15 * 2 ^ k) ≤ e'.current

/-- The row tells of the attempts. -/
structure Follows (done : List Attempt) (alert : AlertOutbox) : Prop where
  orderly : Orderly done
  attempts : alert.attempts = done.length
  pending : alert.status = .pending → done.length < maxAttempts ∧
    (∀ e ∈ done, e.error ≠ none) ∧ ∀ e, done.getLast? = some e →
      alert.nextAttemptAt = e.current + retryDelay done.length
  deadLetter : alert.status = .deadLetter →
    done.length = maxAttempts ∧ ∀ e ∈ done, e.error ≠ none
  delivered : alert.status = .delivered →
    ∃ e, done.getLast? = some e ∧ e.error = none
  lastError : alert.lastError = none ↔
    ∀ e, done.getLast? = some e → e.error = none

section Attempts

variable {done : List Attempt} {alert : AlertOutbox} {e : Attempt}
  {current : Timestamp}

theorem New.follows (h : New alert) : Follows [] alert := by
  obtain ⟨hstatus, hattempts, herror⟩ := h
  refine ⟨⟨Nat.zero_le _, List.forall_mem_nil _, ?_⟩, hattempts, ?_, ?_, ?_, ?_⟩
  · intro k e e' he
    cases he
  · intro _
    refine ⟨by decide, List.forall_mem_nil _, fun e he => ?_⟩
    cases he
  · intro hdead
    rw [hstatus] at hdead
    cases hdead
  · intro hdelivered
    rw [hstatus] at hdelivered
    cases hdelivered
  · refine iff_of_true herror fun e he => ?_
    cases he

/-- The bound of fifteen minutes is never reached. -/
theorem retryDelay_eq (h : done.length < maxAttempts) :
    retryDelay done.length = seconds (15 * 2 ^ (done.length - 1)) := by
  have hlt : done.length - 1 ≤ 3 := by
    unfold maxAttempts at h
    omega
  have hpow : 2 ^ (done.length - 1) ≤ 2 ^ 3 :=
    Nat.pow_le_pow_right (by decide) hlt
  have hmin : min (15 * 2 ^ (done.length - 1)) (15 * 60) =
      15 * 2 ^ (done.length - 1) := min_eq_left (by omega)
  unfold retryDelay
  rw [hmin]
  push_cast
  rfl

theorem Orderly.append (h : Orderly done) (hlength : done.length < maxAttempts)
    (hfailed : ∀ e ∈ done, e.error ≠ none)
    (hdue : ∀ e', done.getLast? = some e' →
      e'.current + retryDelay done.length ≤ e.current) : Orderly (done ++ [e]) := by
  refine ⟨?_, ?_, ?_⟩
  · rw [List.length_append]
    exact hlength
  · rw [List.dropLast_concat]
    exact hfailed
  · intro k e₁ e₂ h₁ h₂
    have hk : k + 1 < (done ++ [e]).length := List.getElem?_eq_some_iff.mp h₂ |>.1
    rw [List.length_append, List.length_singleton] at hk
    have hlt : k < done.length := by omega
    rw [List.getElem?_append_left hlt] at h₁
    by_cases hlast : k + 1 < done.length
    · rw [List.getElem?_append_left hlast] at h₂
      exact h.spaced k e₁ e₂ h₁ h₂
    · -- the new attempt comes after the last one
      have heq : k + 1 = done.length := by omega
      rw [heq, List.getElem?_concat_length, Option.some.injEq] at h₂
      have hgetLast : done.getLast? = some e₁ := by
        rw [List.getLast?_eq_getElem?, ← heq]
        exact h₁
      have hspaced := hdue e₁ hgetLast
      rw [retryDelay_eq hlength, ← heq, Nat.add_sub_cancel] at hspaced
      rw [← h₂]
      exact hspaced

/-- What an attempt at a due alert leaves. -/
theorem Follows.attempt (h : Follows done alert)
    (hdue : due e.current alert = true) :
    Follows (done ++ [e]) (conclude e.current (countAttempt alert) e.error) := by
  obtain ⟨hstatus, hnext⟩ : alert.status = .pending ∧
      alert.nextAttemptAt ≤ e.current := by
    simpa [due] using hdue
  obtain ⟨hlength, hfailed, hbackoff⟩ := h.pending hstatus
  have horderly : Orderly (done ++ [e]) := by
    refine h.orderly.append hlength hfailed fun e' he' => ?_
    rw [← hbackoff e' he']
    exact hnext
  have hattempts : (countAttempt alert).attempts = (done ++ [e]).length := by
    rw [List.length_append]
    exact congrArg (· + 1) h.attempts
  have hlast : (done ++ [e]).getLast? = some e := List.getLast?_concat
  cases herror : e.error with
  | none =>
      refine ⟨horderly, hattempts, nofun, nofun, fun _ => ⟨e, hlast, herror⟩, ?_⟩
      refine iff_of_true rfl fun e' he' => ?_
      rw [hlast, Option.some.injEq] at he'
      rw [← he', herror]
  | some error =>
      have hall : ∀ e' ∈ done ++ [e], e'.error ≠ none := by
        intro e' he'
        rcases List.mem_append.mp he' with he' | he'
        · exact hfailed e' he'
        · rw [List.mem_singleton.mp he', herror]
          exact Option.some_ne_none _
      have hlastError : (some error.name : Option PyStr) = none ↔
          ∀ e', (done ++ [e]).getLast? = some e' → e'.error = none := by
        refine iff_of_false (Option.some_ne_none _) fun hnone => ?_
        have := hnone e hlast
        rw [herror] at this
        cases this
      unfold conclude
      dsimp only
      split
      · rename_i hmax
        rw [hattempts] at hmax
        refine ⟨horderly, hattempts, nofun, fun _ => ⟨?_, hall⟩, nofun, hlastError⟩
        exact le_antisymm horderly.length hmax
      · rename_i hmore
        rw [hattempts] at hmore
        have hpending : (countAttempt alert).status = .pending := hstatus
        refine ⟨horderly, hattempts, fun _ => ⟨?_, hall, ?_⟩, ?_, ?_, hlastError⟩
        · exact Nat.lt_of_not_le hmore
        · intro e' he'
          rw [hlast, Option.some.injEq] at he'
          rw [← he', ← hattempts]
        · intro hdead
          rw [hpending] at hdead
          cases hdead
        · intro hdelivered
          rw [hpending] at hdelivered
          cases hdelivered

end Attempts

/-! ## §5  What a step does to them -/

section Run

variable {Tx : Type} [DecidableEq Tx] {s s' : State Tx} {w v : Tx} {t t' : Taken}
  {row : AlertOutbox} {done : List Attempt} {e : Attempt}
  {a : Action Tx} {x y : Recorded (State Tx) (List Attempt)} {i : Uuid}

theorem attemptsOf_append_self (h : e.id = i) :
    attemptsOf i (done ++ [e]) = attemptsOf i done ++ [e] := by
  unfold attemptsOf
  rw [List.filter_append, List.filter_singleton, decide_eq_true h]
  rfl

theorem attemptsOf_append_ne (h : e.id ≠ i) :
    attemptsOf i (done ++ [e]) = attemptsOf i done := by
  unfold attemptsOf
  rw [List.filter_append, List.filter_singleton, decide_eq_false h]
  exact List.append_nil _

/-- Every committed row tells of the attempts, without the one of a worker that
has not committed; what that worker has assigned tells of that one too. -/
structure Kept (s : State Tx) (done : List Attempt) : Prop where
  locked : Locked s
  settled : ∀ i alert, s.alerts.committedRow i = some alert →
    (∀ w t row, s.stage w = .attempted t row → t.id ≠ i) →
      Follows (attemptsOf i done) alert
  inFlight : ∀ w t row, s.stage w = .attempted t row → ∃ past e,
    attemptsOf t.id done = past ++ [e] ∧ Follows past t.alert ∧
      Follows (past ++ [e]) row
  unknown : ∀ i, s.alerts.committedRow i = none → attemptsOf i done = []

theorem Quiet.kept (h : Quiet s) : Kept s [] := by
  refine ⟨h.locked, fun i alert hrow _ => (h.new i alert hrow).follows, ?_,
    fun _ _ => rfl⟩
  intro w t row hstage
  rw [h.idle w] at hstage
  cases hstage

/-- No attempt is begun or committed, and no row changes. -/
theorem Kept.of_same (h : Kept s done) (hlocked : Locked s')
    (hrows : ∀ i, s'.alerts.committedRow i = s.alerts.committedRow i)
    (hstage : ∀ w t row, s'.stage w = .attempted t row ↔
      s.stage w = .attempted t row) : Kept s' done := by
  refine ⟨hlocked, ?_, ?_, ?_⟩
  · intro i alert hrow hidle
    rw [hrows i] at hrow
    exact h.settled i alert hrow fun w t row hw =>
      hidle w t row ((hstage w t row).mpr hw)
  · intro w t row hw
    exact h.inFlight w t row ((hstage w t row).mp hw)
  · intro i hnone
    rw [hrows i] at hnone
    exact h.unknown i hnone

/-- The attempts under way are those of the other workers and of `w`. -/
theorem attempted_update {stage : Stage}
    (hold : ∀ t row, s.stage w ≠ .attempted t row)
    (hnew : ∀ t row, stage ≠ .attempted t row) (v : Tx) (t : Taken)
    (row : AlertOutbox) :
    Function.update s.stage w stage v = .attempted t row ↔
      s.stage v = .attempted t row := by
  by_cases hv : v = w
  · subst hv
    rw [Function.update_self]
    exact iff_of_false (hnew t row) (hold t row)
  · rw [Function.update_of_ne hv]

theorem Kept.enqueue (h : Kept s done) {alert : AlertOutbox}
    (hid : alert.id ∉ s.alerts.ids) (hnew : New alert) :
    Kept { s with alerts := s.alerts.insertCommitted alert.id alert } done := by
  have hnone : s.alerts.committedRow alert.id = none := by
    show (s.alerts.cell alert.id).committed = none
    rw [s.alerts.absent _ hid]
    rfl
  have hself : (s.alerts.insertCommitted alert.id alert).committedRow alert.id =
      some alert := by
    show ((s.alerts.insertCommitted alert.id alert).cell alert.id).committed = _
    rw [Table.insertCommitted, Table.setCell_cell_self]
  have hother : ∀ i, i ≠ alert.id →
      (s.alerts.insertCommitted alert.id alert).committedRow i =
        s.alerts.committedRow i := by
    intro i hi
    show ((s.alerts.insertCommitted alert.id alert).cell i).committed = _
    rw [Table.insertCommitted_cell_ne hi]
    rfl
  refine ⟨h.locked.enqueue hid, ?_, h.inFlight, ?_⟩
  · intro i stored hrow hidle
    by_cases hi : i = alert.id
    · subst hi
      rw [hself, Option.some.injEq] at hrow
      rw [← hrow, h.unknown _ hnone]
      exact hnew.follows
    · rw [hother i hi] at hrow
      exact h.settled i stored hrow hidle
  · intro i hrow
    by_cases hi : i = alert.id
    · subst hi
      rw [hself] at hrow
      cases hrow
    · rw [hother i hi] at hrow
      exact h.unknown i hrow

theorem took_of_attempted (h : s.stage w = .attempted t row) :
    (s.stage w).took = some t := by
  rw [h]
  rfl

/-- The attempt of a worker at the alert that it holds. -/
theorem Kept.attempt (h : Kept s done) (hstage : s.stage w = .taken t)
    (hid : e.id = t.id) (hcurrent : e.current = t.current) :
    Kept (s.setStage w (.attempted t
      (conclude t.current (countAttempt t.alert) e.error))) (done ++ [e]) := by
  have htook : (s.stage w).took = some t := by
    rw [hstage]
    rfl
  have hothers : ∀ v t' row, s.stage v = .attempted t' row → t'.id ≠ t.id := by
    intro v t' row hv
    refine h.locked.id_ne htook (took_of_attempted hv) ?_
    rintro rfl
    rw [hstage] at hv
    cases hv
  obtain ⟨hrow, hdue⟩ := h.locked.row w t htook
  have hfollows := h.settled t.id t.alert hrow hothers
  have hlocked : Locked (s.setStage w (.attempted t
      (conclude t.current (countAttempt t.alert) e.error))) :=
    h.locked.setStage (by rw [hstage]; rfl)
  refine ⟨hlocked, ?_, ?_, ?_⟩
  · intro i alert hi hidle
    have hne : t.id ≠ i := hidle w t _ setStage_self
    rw [attemptsOf_append_ne (hid ▸ hne)]
    refine h.settled i alert hi fun v t' row' hv => ?_
    refine hidle v t' row' ?_
    rw [setStage_ne]
    · exact hv
    · rintro rfl
      rw [hstage] at hv
      cases hv
  · intro v t' row' hv
    by_cases hvw : v = w
    · subst hvw
      rw [setStage_self] at hv
      cases hv
      refine ⟨_, e, attemptsOf_append_self hid, hfollows, ?_⟩
      rw [← hcurrent] at hdue ⊢
      exact hfollows.attempt hdue
    · rw [setStage_ne hvw] at hv
      rw [attemptsOf_append_ne (hid ▸ (hothers v t' row' hv).symm)]
      exact h.inFlight v t' row' hv
  · intro i hnone
    have hne : t.id ≠ i := by
      rintro rfl
      have hnone : s.alerts.committedRow t.id = none := hnone
      rw [hrow] at hnone
      cases hnone
    rw [attemptsOf_append_ne (hid ▸ hne)]
    exact h.unknown i hnone

/-- The commit of an attempt. -/
theorem Kept.save (h : Kept s done) (hstage : s.stage w = .attempted t row) :
    Kept (s.save w t row) done := by
  have htook := took_of_attempted hstage
  have hothers : ∀ v, v ≠ w → (s.save w t row).stage v = s.stage v :=
    fun v hv => Function.update_of_ne hv _ _
  have hself : (s.save w t row).stage w = .idle := Function.update_self _ _ _
  obtain ⟨past, e, hattempts, -, hfollows⟩ := h.inFlight w t row hstage
  refine ⟨h.locked.save hstage, ?_, ?_, ?_⟩
  · intro i alert hrow hidle
    rw [h.locked.save_committedRow hstage] at hrow
    by_cases hi : i = t.id
    · rw [if_pos hi, Option.some.injEq] at hrow
      rw [hi, hattempts, ← hrow]
      exact hfollows
    · rw [if_neg hi] at hrow
      refine h.settled i alert hrow fun v t' row' hv => ?_
      by_cases hvw : v = w
      · subst hvw
        rw [hstage] at hv
        cases hv
        exact fun hid => hi hid.symm
      · exact hidle v t' row' ((hothers v hvw).trans hv)
  · intro v t' row' hv
    have hvw : v ≠ w := by
      rintro rfl
      rw [hself] at hv
      cases hv
    rw [hothers v hvw] at hv
    exact h.inFlight v t' row' hv
  · intro i hnone
    rw [h.locked.save_committedRow hstage] at hnone
    by_cases hi : i = t.id
    · rw [if_pos hi] at hnone
      cases hnone
    · rw [if_neg hi] at hnone
      exact h.unknown i hnone

theorem kept_step (h : Kept x.state x.history)
    (hstep : (dispatching Tx).step x a = some y) : Kept y.state y.history := by
  obtain ⟨e, heffect, hhistory⟩ := step_effect hstep
  have hlocked := h.locked.effect heffect
  rw [hhistory]
  generalize y.state = s' at heffect hlocked
  cases heffect with
  | ticked =>
      rw [Option.toList_none, List.append_nil]
      exact h.of_same hlocked (fun _ => rfl) fun _ _ _ => Iff.rfl
  | enqueued hid hnew =>
      simpa using h.enqueue hid hnew
  | @begun w current hstage =>
      rw [Option.toList_none, List.append_nil]
      refine h.of_same hlocked (fun _ => rfl) (attempted_update ?_ ?_)
      · intro t row hrow
        rw [hstage] at hrow
        cases hrow
      · intro t row hrow
        cases hrow
  | @took w t ht =>
      rw [Option.toList_none, List.append_nil]
      refine h.of_same hlocked (fun _ => Table.put_committedRow)
        (attempted_update ?_ ?_)
      · intro t row hrow
        rw [ht.begun] at hrow
        cases hrow
      · intro t row hrow
        cases hrow
  | @attempted w t sent error hstage =>
      exact h.attempt (e := ⟨t.id, t.current, x.state.clock, sent, error⟩)
        hstage rfl rfl
  | saved hstage =>
      rw [Option.toList_none, List.append_nil]
      exact h.save hstage
  | aborted hold =>
      rw [Option.toList_none, List.append_nil]
      refine h.of_same hlocked (fun _ => Table.rollback_committedRow)
        (attempted_update hold ?_)
      intro t row hrow
      cases hrow

theorem kept_reachable (h : (dispatching Tx).Reachable x) :
    Kept x.state x.history := by
  refine System.ReachableUnder.invariant (I := fun x =>
    Kept x.state x.history) h ?_ fun x a y hx _ hstep => kept_step hx hstep
  intro x hx
  rw [hx.2]
  exact Quiet.kept hx.1

/-- What becomes of a committed row in one step: it stays, or a worker attempts
it while it is PENDING. -/
theorem Kept.committedRow {alert : AlertOutbox} (h : Kept x.state x.history)
    (hstep : (dispatching Tx).step x a = some y)
    (hrow : x.state.alerts.committedRow i = some alert) :
    ∃ alert', y.state.alerts.committedRow i = some alert' ∧
      (alert.status ≠ .pending → alert' = alert) := by
  obtain ⟨e, heffect, -⟩ := step_effect hstep
  generalize y.state = s' at heffect
  cases heffect with
  | ticked => exact ⟨alert, hrow, fun _ => rfl⟩
  | @enqueued new hid hnew =>
      have hne : i ≠ new.id := by
        rintro rfl
        exact hid (Table.mem_ids_of_committedRow hrow)
      refine ⟨alert, ?_, fun _ => rfl⟩
      show ((x.state.alerts.insertCommitted new.id new).cell i).committed = _
      rw [Table.insertCommitted_cell_ne hne]
      exact hrow
  | begun _ => exact ⟨alert, hrow, fun _ => rfl⟩
  | took _ => exact ⟨alert, Table.put_committedRow.trans hrow, fun _ => rfl⟩
  | attempted _ => exact ⟨alert, hrow, fun _ => rfl⟩
  | @saved w t row hstage =>
      rw [h.locked.save_committedRow hstage]
      by_cases hi : i = t.id
      · rw [if_pos hi]
        refine ⟨row, rfl, fun hstatus => ?_⟩
        obtain ⟨htaken, hdue⟩ := h.locked.row w t (took_of_attempted hstage)
        rw [← hi, hrow, Option.some.injEq] at htaken
        have hpending : t.alert.status = .pending := by
          simp only [due, Bool.and_eq_true, beq_iff_eq] at hdue
          exact hdue.1
        exact absurd (htaken ▸ hpending) hstatus
      · rw [if_neg hi]
        exact ⟨alert, hrow, fun _ => rfl⟩
  | aborted _ =>
      exact ⟨alert, Table.rollback_committedRow.trans hrow, fun _ => rfl⟩

end Run

/-! ## §6  The law -/

/-- **Alert dispatch.** In every run of any number of workers: the attempts at
an alert are orderly, so that it is sent five times at most, never after a
success, and again after a failure only by a call whose clock reading is the
back-off later than that of the call that failed; its committed row tells of
them, but for one that is made and not committed; and a row that has left
PENDING stays as it is. -/
theorem alert_dispatch {Tx : Type} [DecidableEq Tx]
    {x : Recorded (State Tx) (List Attempt)} (h : (dispatching Tx).Reachable x)
    (id : Uuid) :
    Orderly (attemptsOf id x.history) ∧
    (attemptsOf id x.history).countP Attempt.sent ≤ maxAttempts ∧
    (∀ alert, x.state.alerts.committedRow id = some alert →
      ∃ done underWay, attemptsOf id x.history = done ++ underWay ∧
        Follows done alert ∧ underWay.length ≤ 1 ∧
        (underWay ≠ [] → ∃ w t row,
          x.state.stage w = .attempted t row ∧ t.id = id)) ∧
    ∀ y, (dispatching Tx).Leads (fun _ _ => True) x y →
      ∀ alert, x.state.alerts.committedRow id = some alert →
        ∃ alert', y.state.alerts.committedRow id = some alert' ∧
          (alert.status ≠ .pending → alert' = alert) := by
  have hkept := kept_reachable h
  have hrow : ∀ alert, x.state.alerts.committedRow id = some alert →
      ∃ done underWay, attemptsOf id x.history = done ++ underWay ∧
        Follows done alert ∧ underWay.length ≤ 1 ∧
        Orderly (attemptsOf id x.history) ∧
        (underWay ≠ [] → ∃ w t row,
          x.state.stage w = .attempted t row ∧ t.id = id) := by
    intro alert halert
    by_cases hbusy : ∃ w t row, x.state.stage w = .attempted t row ∧ t.id = id
    · obtain ⟨w, t, row, hstage, hid⟩ := hbusy
      obtain ⟨past, e, hattempts, hpast, hfollows⟩ := hkept.inFlight w t row hstage
      obtain ⟨hcommitted, -⟩ := hkept.locked.row w t (took_of_attempted hstage)
      rw [hid] at hattempts hcommitted
      rw [halert, Option.some.injEq] at hcommitted
      refine ⟨past, [e], hattempts, hcommitted ▸ hpast, le_refl _, ?_,
        fun _ => ⟨w, t, row, hstage, hid⟩⟩
      rw [hattempts]
      exact hfollows.orderly
    · have hfollows := hkept.settled id alert halert fun w t row hstage hid =>
        hbusy ⟨w, t, row, hstage, hid⟩
      exact ⟨_, [], (List.append_nil _).symm, hfollows, Nat.zero_le _,
        hfollows.orderly, fun hne => absurd rfl hne⟩
  have horderly : Orderly (attemptsOf id x.history) := by
    cases halert : x.state.alerts.committedRow id with
    | none =>
        rw [hkept.unknown id halert]
        exact ⟨Nat.zero_le _, List.forall_mem_nil _, fun k e e' he => by cases he⟩
    | some alert =>
        obtain ⟨_, _, -, -, -, horderly, -⟩ := hrow alert halert
        exact horderly
  refine ⟨horderly, List.countP_le_length.trans horderly.length, ?_, ?_⟩
  · intro alert halert
    obtain ⟨done, underWay, hattempts, hfollows, hone, -, hbusy⟩ :=
      hrow alert halert
    exact ⟨done, underWay, hattempts, hfollows, hone, hbusy⟩
  · intro y hleads alert halert
    -- along the run: the row stays, or is still followed from PENDING
    refine (hleads.invariant (I := fun y => Kept y.state y.history ∧
      ∃ alert', y.state.alerts.committedRow id = some alert' ∧
        (alert.status ≠ .pending → alert' = alert)) ?_
      ⟨hkept, alert, halert, fun _ => rfl⟩).2
    rintro y a z ⟨hy, alert', halert', hsame⟩ - hstep
    obtain ⟨alert'', halert'', hsame'⟩ := hy.committedRow hstep halert'
    refine ⟨kept_step hy hstep, alert'', halert'', fun hstatus => ?_⟩
    have heq := hsame hstatus
    rw [← heq] at hstatus ⊢
    exact hsame' hstatus

/-- An alert for finding 7, of which two workers make three attempts. -/
def sampleAlert : AlertOutbox where
  id := 9
  sink := .wazuh
  payload := ⟨.newFinding, 7, 50, .email, PyStr.lit "bob@x.org", 0⟩
  status := .pending
  dedupeKey := []
  attempts := 0
  nextAttemptAt := 0
  lastError := none
  createdAt := 0
  deliveredAt := none

/-- No adapter, then one that raises, then one that works; the second worker
asks once before the alert is due. -/
def threeAttempts : List (Action Bool) :=
  [.enqueue sampleAlert, .begin true none, .select true,
    .attempt true fun _ => none, .tick 10000000, .begin false none, .commit true,
    .select false, .tick 5000000, .begin false none, .select false, .tick 30000000,
    .attempt false fun _ => some (some ⟨PyStr.lit "TimeoutError", by decide⟩),
    .commit false, .begin true (some (seconds 45)), .select true,
    .attempt true fun _ => some none, .commit true]

def emptyOutbox : Recorded (State Bool) (List Attempt) :=
  ⟨⟨Table.empty, fun _ => .idle, 0⟩, []⟩

theorem emptyOutbox_init : (dispatching Bool).init emptyOutbox := by
  refine ⟨⟨fun _ => rfl, Table.unlocked_empty, fun i alert hrow => ?_⟩, rfl⟩
  cases hrow

theorem third_attempt_delivers : ∃ x alert,
    (dispatching Bool).runUnder (fun _ _ => True) emptyOutbox threeAttempts =
        some x ∧
      x.state.alerts.committedRow 9 = some alert ∧ alert.status = .delivered ∧
      Follows (attemptsOf 9 x.history) alert := by
  have hrun : ∃ x, (dispatching Bool).runUnder (fun _ _ => True) emptyOutbox
      threeAttempts = some x ∧
      (((x.state.alerts.committedRow 9).any fun alert =>
        alert.status == .delivered && alert.attempts == 3) &&
        (attemptsOf 9 x.history).length == 3) = true :=
    System.exists_of_runUnder (by decide +kernel)
  obtain ⟨x, hrun, hcheck⟩ := hrun
  obtain ⟨halert, hlength⟩ := (Bool.and_eq_true _ _).mp hcheck
  obtain ⟨alert, hrow, halert⟩ := (Option.any_eq_true _ _).mp halert
  simp only [Bool.and_eq_true, beq_iff_eq] at halert hlength
  obtain ⟨-, -, hrows, -⟩ :=
    alert_dispatch (System.reachable_of_runUnder emptyOutbox_init hrun) 9
  obtain ⟨done, underWay, hattempts, hfollows, -, -⟩ := hrows alert hrow
  refine ⟨x, alert, hrun, hrow, halert.1, ?_⟩
  -- all three attempts are committed
  have hnone : underWay = [] := by
    have hcount := congrArg List.length hattempts
    rw [List.length_append, hlength, ← hfollows.attempts, halert.2] at hcount
    exact List.eq_nil_of_length_eq_zero (by omega)
  rw [hattempts, hnone, List.append_nil]
  exact hfollows

/-- Each failure is followed by its back-off before the next attempt is over,
as the clock on the wall shows it. -/
def BackedOff (done : List Attempt) : Prop :=
  ∀ k e e', done[k]? = some e → done[k + 1]? = some e' →
    e.ended + seconds (15 * 2 ^ k) ≤ e'.ended

/-- A `send` that runs into its time-out after fifteen seconds, and the attempt
right behind its commit. -/
def slowFailure : List (Action Bool) :=
  [.enqueue sampleAlert, .begin true none, .select true, .tick 15000000,
    .attempt true fun _ => some (some ⟨PyStr.lit "TimeoutError", by decide⟩),
    .commit true, .begin true none, .select true,
    .attempt true fun _ => some none, .commit true]

theorem slow_failure_retried_at_once : ∃ x, (dispatching Bool).Reachable x ∧
    ¬ BackedOff (attemptsOf 9 x.history) := by
  have hrun : ∃ x, (dispatching Bool).runUnder (fun _ _ => True) emptyOutbox
      slowFailure = some x ∧
      (attemptsOf 9 x.history).map Attempt.ended = [seconds 15, seconds 15] :=
    System.exists_of_runUnder (by decide +kernel)
  obtain ⟨x, hrun, hended⟩ := hrun
  refine ⟨x, System.reachable_of_runUnder emptyOutbox_init hrun, fun hbacked => ?_⟩
  obtain ⟨e, rest, hattempts, he, hrest⟩ := List.map_eq_cons_iff.mp hended
  obtain ⟨e', rest, rfl, he', -⟩ := List.map_eq_cons_iff.mp hrest
  have hle := hbacked 0 e e' (by rw [hattempts]; rfl) (by rw [hattempts]; rfl)
  rw [he, he'] at hle
  exact absurd hle (by decide)

end LeakcheckHub.Outbox.Dispatch
