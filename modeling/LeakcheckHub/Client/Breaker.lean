import LeakcheckHub.Client.Pacing

/-!
# The circuit breaker under concurrent callers

`_request_page` looks at the breaker before it waits for a token and for the
semaphore, and not again. A failure that trips the breaker meanwhile does not
stop the attempts that are already through the check.

§1 open circuits and cleared tasks · §2 the invariant · §3 the promise.
-/

set_option linter.unusedSectionVars false

namespace LeakcheckHub.Client

open Foundation

variable {Task : Type} [DecidableEq Task] {cfg : Config} {s s' : State Task}
  {a : Action Task} {t u : Task}

/-! ## §1  Open circuits -/

/-- `_circuit_opened_at` is set and the reset time is not over. -/
def Circuit.IsOpen (cfg : Config) (now : ℚ) (c : Circuit) : Prop :=
  ∃ openedAt ∈ c.openedAt, now - openedAt < cfg.circuitResetSeconds

instance (now : ℚ) (c : Circuit) : Decidable (c.IsOpen cfg now) :=
  match h : c.openedAt with
  | none => .isFalse (by simp [Circuit.IsOpen, h])
  | some openedAt =>
      decidable_of_iff (now - openedAt < cfg.circuitResetSeconds)
        (by simp [Circuit.IsOpen, h])

def State.circuitOpen (cfg : Config) (s : State Task) : Prop :=
  s.circuit.IsOpen cfg s.now

/-- Past `_ensure_circuit_available`, with the attempt not started. -/
def TaskState.cleared : TaskState → Bool
  | .waitingForLock _ | .holdingLock _ | .sleeping _ _ | .granted _
  | .admitted _ => true
  | .idle _ | .sending _ | .backingOff _ _ => false

/-- `_record_failure` runs on this outcome. -/
def Verdict.countsAsFailure : Verdict → Bool
  | .retry _ => true
  | .raise .. | .page _ => false

/-- The outcome is recorded as a failure, and this one opens the circuit. -/
def Trips (cfg : Config) (s : State Task) (outcome : SendOutcome) : Prop :=
  (classify outcome).countsAsFailure = true ∧
    cfg.circuitFailureThreshold ≤ s.circuit.failures + 1 ∧
    0 < cfg.circuitResetSeconds

/-- No failure trips the breaker while another task is between its check and
its start. -/
def TripsAlone (cfg : Config) (s : State Task) : Action Task → Prop
  | .receive t outcome =>
      Trips cfg s outcome → ∀ u, u ≠ t → (s.task u).cleared = false
  | _ => True

/-- An attempt starts only while the circuit lets it. -/
def FailsFast (cfg : Config) (s : State Task) : Prop :=
  ∀ t s', step cfg s (.send t) = some s' → ¬ s.circuitOpen cfg

theorem Verdict.eq_retry {v : Verdict} (h : v.countsAsFailure = true) :
    ∃ final, v = .retry final := by
  cases v with
  | retry final => exact ⟨final, rfl⟩
  | raise | page => cases h

theorem Circuit.not_isOpen_of_none {now : ℚ} {c : Circuit}
    (h : c.openedAt = none) : ¬ c.IsOpen cfg now := by
  rintro ⟨openedAt, hopened, -⟩
  rw [h] at hopened
  cases hopened

/-- Time only closes the window. -/
theorem Circuit.IsOpen.earlier {now d : ℚ} {c : Circuit} (hd : 0 ≤ d)
    (h : c.IsOpen cfg (now + d)) : c.IsOpen cfg now := by
  obtain ⟨openedAt, hopened, hlt⟩ := h
  refine ⟨openedAt, hopened, lt_of_le_of_lt ?_ hlt⟩
  exact sub_le_sub_right (le_add_of_nonneg_right hd) openedAt

theorem Circuit.ensureAvailable_openedAt {now : ℚ} {c c' : Circuit}
    (h : c.ensureAvailable cfg now = some c') : c'.openedAt = none := by
  unfold ensureAvailable at h
  split at h
  · rename_i hnone
    cases h
    exact hnone
  · split at h
    · cases h
    · cases h
      rfl

/-- A failure below the threshold leaves the circuit as it is; one that
reaches it opens the circuit for the whole reset time. -/
theorem Circuit.recordFailure_isOpen {now : ℚ} {c : Circuit}
    (h : (c.recordFailure cfg now).IsOpen cfg now) :
    c.IsOpen cfg now ∨ cfg.circuitFailureThreshold ≤ c.failures + 1 ∧
      0 < cfg.circuitResetSeconds := by
  obtain ⟨openedAt, hopened, hlt⟩ := h
  unfold recordFailure at hopened
  simp only [Nat.cast_add, Nat.cast_one] at hopened
  split at hopened
  · rename_i hthreshold
    cases hopened
    rw [sub_self] at hlt
    exact .inr ⟨hthreshold, hlt⟩
  · exact .inl ⟨openedAt, hopened, hlt⟩

/-! ## §2  The invariant -/

/-- While the circuit is open nobody is between the check and the start. -/
def Guarded (cfg : Config) (s : State Task) : Prop :=
  s.circuitOpen cfg → ∀ t, (s.task t).cleared = false

/-- A task moves from one wait to the next, or starts. -/
theorem Guarded.advance (h : Guarded cfg s)
    (ht : (s.task t).cleared = true) (hcircuit : s'.circuit = s.circuit)
    (hnow : s'.now = s.now) : Guarded cfg s' := by
  intro hopen
  unfold State.circuitOpen at hopen
  rw [hcircuit, hnow] at hopen
  have hclear := h hopen t
  rw [ht] at hclear
  cases hclear

/-- A task ends outside the stretch between check and start, and the circuit
is open only where it was. -/
theorem Guarded.settled (h : Guarded cfg s)
    (hopen : s'.circuitOpen cfg → s.circuitOpen cfg)
    (ht : (s'.task t).cleared = false)
    (hothers : ∀ u, u ≠ t → s'.task u = s.task u) : Guarded cfg s' := by
  intro ho u
  by_cases hu : u = t
  · rw [hu, ht]
  · rw [hothers u hu]
    exact h (hopen ho) u

theorem Guarded.beginAttempt (h : Guarded cfg s) {k : ℕ} :
    Guarded cfg (beginAttempt cfg s t k) := by
  unfold Client.beginAttempt
  split
  · refine h.settled id ?_ (fun u hu => setTask_task_ne hu)
    rw [setTask_task_self]
    rfl
  · rename_i c hc
    -- the check leaves the circuit closed
    intro hopen
    exact absurd hopen
      (Circuit.not_isOpen_of_none (Circuit.ensureAvailable_openedAt hc))

theorem Guarded.settle (h : Guarded cfg s) {outcome : SendOutcome} {n k : ℕ}
    (htrips : Trips cfg s outcome →
      ∀ u, u ≠ t → (s.task u).cleared = false) :
    Guarded cfg
      (settle cfg { s with admittedCount := n } t k outcome) := by
  unfold Client.settle
  split
  · rename_i final hfinal
    have hself : ∀ x : TaskState, x.cleared = false →
        ((({ s with
          admittedCount := n
          circuit := s.circuit.recordFailure cfg s.now } :
            State Task).setTask t x).task t).cleared = false := by
      intro x hx
      rw [setTask_task_self, hx]
    intro hopen u
    by_cases hu : u = t
    · rw [hu]
      apply hself
      split <;> rfl
    · rw [setTask_task_ne hu]
      rcases Circuit.recordFailure_isOpen hopen with hbefore | htripped
      · exact h hbefore u
      · exact htrips ⟨by rw [hfinal]; rfl, htripped⟩ u hu
  · intro hopen
    exact absurd hopen (Circuit.not_isOpen_of_none rfl)
  · refine h.settled id ?_ (fun u hu => setTask_task_ne hu)
    rw [setTask_task_self]
    rfl
  · intro hopen
    exact absurd hopen (Circuit.not_isOpen_of_none rfl)

theorem guarded_step (h : Guarded cfg s) (hg : TripsAlone cfg s a)
    (hs : StepOf cfg s a s') : Guarded cfg s' := by
  cases hs with
  | tick hd => exact fun hopen t => h (Circuit.IsOpen.earlier hd hopen) t
  | request => exact h.beginAttempt
  | takeLock ht => exact h.advance (by rw [ht]; rfl) rfl rfl
  | grant ht => exact h.advance (by rw [ht]; rfl) rfl rfl
  | sleep ht => exact h.advance (by rw [ht]; rfl) rfl rfl
  | wake ht => exact h.advance (by rw [ht]; rfl) rfl rfl
  | enterSemaphore ht => exact h.advance (by rw [ht]; rfl) rfl rfl
  | send ht => exact h.advance (by rw [ht]; rfl) rfl rfl
  | receive => exact h.settle hg
  | retry => exact h.beginAttempt

theorem guarded_reachable
    (h : (system Task cfg).ReachableUnder (TripsAlone cfg) s) :
    Guarded cfg s := by
  refine h.invariant ?_ ?_
  · rintro s ⟨now, rfl⟩ hopen
    exact absurd hopen (Circuit.not_isOpen_of_none rfl)
  · intro s a s' hs hg hstep
    exact guarded_step hs hg (step_cases hstep)

/-! ## §3  The promise -/

/-- Where the breaker trips with nobody through its check, no attempt starts
while it is open. -/
theorem fails_fast_of_trips_alone
    (h : (system Task cfg).ReachableUnder (TripsAlone cfg) s) :
    FailsFast cfg s := by
  intro t s' hstep hopen
  have hcleared := guarded_reachable h hopen t
  cases step_cases hstep with
  | send ht =>
      rw [ht] at hcleared
      cases hcleared

/-- A task that is through the semaphore when the breaker trips can start at
once. -/
theorem admitted_starts_after_trip (hu : u ≠ t) {k m : ℕ}
    {outcome : SendOutcome} (hsending : s.task t = .sending k)
    (hadmitted : s.task u = .admitted m) (htrips : Trips cfg s outcome) :
    ∃ s', step cfg s (.receive t outcome) = some s' ∧ ¬ FailsFast cfg s' := by
  obtain ⟨hcounts, hthreshold, hreset⟩ := htrips
  obtain ⟨final, hfinal⟩ := Verdict.eq_retry hcounts
  refine ⟨_, by simp only [step, hsending]; rfl, ?_⟩
  intro hfast
  have hstill : (Client.settle cfg { s with
      admittedCount := s.admittedCount - 1 } t k outcome).task u =
        .admitted m := by
    simp only [Client.settle, hfinal]
    rw [setTask_task_ne hu]
    exact hadmitted
  refine hfast u _ (by simp only [step, hstill]; rfl) ⟨s.now, ?_, ?_⟩
  · simp only [Client.settle, hfinal, State.setTask, Circuit.recordFailure,
      Nat.cast_add, Nat.cast_one, if_pos hthreshold]
    rfl
  · simp only [Client.settle, hfinal, State.setTask, sub_self]
    exact hreset

instance {n : ℕ} (s : State (Fin n)) :
    (a : Action (Fin n)) → Decidable (TripsAlone cfg s a)
  | .receive t outcome => inferInstanceAs (Decidable
      ((classify outcome).countsAsFailure = true ∧
        cfg.circuitFailureThreshold ≤ s.circuit.failures + 1 ∧
        0 < cfg.circuitResetSeconds →
          ∀ u, u ≠ t → (s.task u).cleared = false))
  | .tick _ | .request _ | .takeLock _ | .acquire _ | .wake _
  | .enterSemaphore _ | .send _ | .retry _ => .isTrue trivial

/-- From the check to the start, with a token in the bucket. -/
def throughTheCheck (t : Fin 2) : List (Action (Fin 2)) :=
  [.takeLock t, .acquire t, .enterSemaphore t, .send t]

/-- One caller fails four times and gives up; at its second request the fifth
attempt is under way. -/
def fiveAttempts : List (Action (Fin 2)) :=
  .request 0 :: throughTheCheck 0 ++
  [.receive 0 .transportError, .tick 1, .retry 0] ++ throughTheCheck 0 ++
  [.receive 0 .transportError, .tick 2, .retry 0] ++ throughTheCheck 0 ++
  [.receive 0 (.response 503 []), .tick 4, .retry 0] ++ throughTheCheck 0 ++
  [.receive 0 (.response 503 []), .tick 1, .request 0] ++ throughTheCheck 0

/-- The fifth failure trips the breaker, and the next request is refused. -/
theorem lone_caller_fails_fast :
    ∃ s, (system (Fin 2) oneByOne).runUnder (TripsAlone oneByOne) (init _ 0)
        (fiveAttempts ++ [.receive 0 (.response 429 []), .request 1]) =
          some s ∧
      s.circuitOpen oneByOne ∧ s.starts.length = 5 ∧ FailsFast oneByOne s := by
  have hrun : ∃ s, (system (Fin 2) oneByOne).runUnder (TripsAlone oneByOne)
      (init _ 0)
      (fiveAttempts ++ [.receive 0 (.response 429 []), .request 1]) = some s ∧
        s.circuit.IsOpen oneByOne s.now ∧ s.starts.length = 5 :=
    System.exists_of_runUnder (by decide +kernel)
  obtain ⟨s, hrun, hopen, hstarts⟩ := hrun
  exact ⟨s, hrun, hopen, hstarts, fails_fast_of_trips_alone
    (System.reachable_of_runUnder ⟨0, rfl⟩ hrun)⟩

/-- Another caller passes the check while the fifth attempt is under way and
waits for its token and for the semaphore. -/
def secondCallerWaits : List (Action (Fin 2)) :=
  fiveAttempts ++ [.request 1, .takeLock 1, .acquire 1, .tick 1, .wake 1,
    .takeLock 1, .acquire 1, .receive 0 .transportError, .enterSemaphore 1]

theorem waiting_caller_starts_while_open :
    ¬ ∀ s, (system (Fin 2) oneByOne).Reachable s → FailsFast oneByOne s := by
  intro hall
  have hrun : ∃ s, (system (Fin 2) oneByOne).run (init _ 0)
      secondCallerWaits = some s ∧ s.circuit.IsOpen oneByOne s.now ∧
        (step oneByOne s (.send 1)).isSome = true :=
    System.exists_of_runUnder (by decide +kernel)
  obtain ⟨s, hrun, hopen, hsends⟩ := hrun
  obtain ⟨s', hs'⟩ := Option.isSome_iff_exists.mp hsends
  exact hall s (System.reachable_of_runUnder ⟨0, rfl⟩ hrun) 1 s' hs' hopen

end LeakcheckHub.Client
