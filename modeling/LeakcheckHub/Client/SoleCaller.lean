import LeakcheckHub.Client.Breaker

/-!
# The reference machine of a sole caller

What `_request_page` and the circuit breaker promise a caller that asks for
one page after another. The reference reads nothing but the record of a run:
when a page began, when an attempt was sent, how it ended and when it was tried
again.

§1 the record · §2 the reference breaker · §3 pages · §4 the circuit refines
the reference · §5 the caller's page · §6 the law.
-/

set_option linter.unusedSectionVars false

namespace LeakcheckHub.Client

open Foundation

/-! ## §1  The record -/

inductive Event where
  | began (at_ : ℚ)
  | sent (at_ : ℚ)
  | ended (outcome : SendOutcome) (at_ : ℚ)
  | retried (at_ : ℚ)
deriving DecidableEq

variable {Task : Type} [DecidableEq Task]

/-- The record of a step, newest event first. -/
def note (s : State Task) (h : List Event) : Action Task → List Event
  | .request _ => .began s.now :: h
  | .send _ => .sent s.now :: h
  | .receive _ outcome => .ended outcome s.now :: h
  | .retry _ => .retried s.now :: h
  | .tick _ | .takeLock _ | .acquire _ | .wake _ | .enterSemaphore _ => h

/-- A client and the record of its run. -/
abbrev Watched (Task : Type) : Type := Recorded (State Task) (List Event)

def watched (Task : Type) [DecidableEq Task] (cfg : Config) :
    System (Watched Task) (Action Task) :=
  (system Task cfg).record [] note

/-- A page is asked for only when no other is under way. -/
def OneCaller (x : Watched Task) : Action Task → Prop
  | .request _ => ∀ u, ∃ last, x.state.task u = .idle last
  | _ => True

/-! ## §2  The reference breaker -/

/-- A transport error, 429 or 5xx; a number above 599, which is no HTTP status,
goes with 5xx. -/
def SendOutcome.isFailure : SendOutcome → Bool
  | .transportError => true
  | .raised _ => false
  | .response status _ => decide (status = 429 ∨ 500 ≤ status)

/-- An answer with any other status. An error of `_send` itself, such as that
of an oversized body, is neither. -/
def SendOutcome.isSuccess : SendOutcome → Bool
  | .transportError | .raised _ => false
  | .response status _ => !decide (status = 429 ∨ 500 ≤ status)

variable {cfg : Config}

/-- The failures since the last success or reset are so many that the breaker
is open. -/
def Tripped (cfg : Config) (failures : List ℚ) : Prop :=
  cfg.circuitFailureThreshold ≤ failures.length

/-- The breaker is open, and less than the reset time has passed since the last
failure. -/
def Refuses (cfg : Config) (now : ℚ) (failures : List ℚ) : Prop :=
  Tripped cfg failures ∧
    ∀ last ∈ failures.head?, now - last < cfg.circuitResetSeconds

instance (failures : List ℚ) : Decidable (Tripped cfg failures) :=
  inferInstanceAs (Decidable (_ ≤ _))

instance (now : ℚ) (failures : List ℚ) : Decidable (Refuses cfg now failures) :=
  match failures with
  | [] => decidable_of_iff (Tripped cfg []) (by simp [Refuses])
  | last :: rest => decidable_of_iff
      (Tripped cfg (last :: rest) ∧ now - last < cfg.circuitResetSeconds)
      (by simp [Refuses])

/-- An attempt resets a breaker that is open and does not refuse it. -/
def afterCheck (cfg : Config) (now : ℚ) (failures : List ℚ) : List ℚ :=
  if Tripped cfg failures ∧ ¬ Refuses cfg now failures then [] else failures

/-- The times of the failures since the last success or reset, newest
first. -/
def failuresSince (cfg : Config) : List Event → List ℚ
  | [] => []
  | .ended outcome at_ :: h =>
      if outcome.isFailure then at_ :: failuresSince cfg h
      else if outcome.isSuccess then []
      else failuresSince cfg h
  | .began at_ :: h | .retried at_ :: h => afterCheck cfg at_ (failuresSince cfg h)
  | .sent _ :: h => failuresSince cfg h

/-! ## §3  Pages -/

def Event.isBegan : Event → Bool
  | .began _ => true
  | .sent _ | .ended .. | .retried _ => false

def Event.isSent : Event → Bool
  | .sent _ => true
  | .began _ | .ended .. | .retried _ => false

def Event.isRetried : Event → Bool
  | .retried _ => true
  | .began _ | .sent _ | .ended .. => false

/-- The events of the page that began last. -/
def lastPage (h : List Event) : List Event :=
  h.takeWhile fun e => !e.isBegan

/-- How many requests the last page has sent. -/
def sends (h : List Event) : ℕ := (lastPage h).countP Event.isSent

/-- How many times the last page was tried again. -/
def retries (h : List Event) : ℕ := (lastPage h).countP Event.isRetried

section Pages

variable (h : List Event) (at_ : ℚ) (outcome : SendOutcome)

@[simp] theorem sends_began : sends (.began at_ :: h) = 0 := rfl
@[simp] theorem retries_began : retries (.began at_ :: h) = 0 := rfl

@[simp] theorem sends_sent : sends (.sent at_ :: h) = sends h + 1 := by
  show (Event.sent at_ :: lastPage h).countP _ = _
  exact List.countP_cons_of_pos rfl

@[simp] theorem retries_sent : retries (.sent at_ :: h) = retries h := by
  simp [retries, lastPage, Event.isBegan, Event.isRetried]

@[simp] theorem sends_ended : sends (.ended outcome at_ :: h) = sends h := by
  simp [sends, lastPage, Event.isBegan, Event.isSent]

@[simp] theorem retries_ended : retries (.ended outcome at_ :: h) = retries h := by
  simp [retries, lastPage, Event.isBegan, Event.isRetried]

@[simp] theorem sends_retried : sends (.retried at_ :: h) = sends h := by
  simp [sends, lastPage, Event.isBegan, Event.isSent]

@[simp] theorem retries_retried :
    retries (.retried at_ :: h) = retries h + 1 := by
  show (Event.retried at_ :: lastPage h).countP _ = _
  exact List.countP_cons_of_pos rfl

end Pages

/-! ## §4  The circuit refines the reference -/

attribute [ext] Circuit

/-- The circuit's two fields are what the reference makes of its failures. -/
structure Circuit.Matches (cfg : Config) (c : Circuit) (failures : List ℚ) :
    Prop where
  count : c.failures = failures.length
  openedAt : c.openedAt = if Tripped cfg failures then failures.head? else none

namespace Circuit.Matches

variable {c c' : Circuit} {failures : List ℚ} {now : ℚ} {outcome : SendOutcome}

theorem closed (hk : 1 ≤ cfg.circuitFailureThreshold) :
    Circuit.closed.Matches cfg [] where
  count := rfl
  openedAt := by
    have hnot : ¬ Tripped cfg [] := by
      unfold Tripped
      rw [List.length_nil]
      omega
    rw [if_neg hnot]
    rfl

theorem tripped_ne_nil (hk : 1 ≤ cfg.circuitFailureThreshold)
    (ht : Tripped cfg failures) : ∃ last rest, failures = last :: rest := by
  cases failures with
  | nil =>
      unfold Tripped at ht
      rw [List.length_nil] at ht
      omega
  | cons last rest => exact ⟨last, rest, rfl⟩

theorem check_none (h : c.Matches cfg failures)
    (hc : c.ensureAvailable cfg now = none) : Refuses cfg now failures := by
  unfold ensureAvailable at hc
  split at hc
  · cases hc
  · rename_i openedAt hopened
    split at hc
    · rename_i hearly
      rw [h.openedAt] at hopened
      split at hopened
      · rename_i ht
        refine ⟨ht, ?_⟩
        intro last hlast
        rw [hopened, Option.mem_some_iff] at hlast
        rw [← hlast]
        exact hearly
      · cases hopened
    · cases hc

theorem check_some (h : c.Matches cfg failures)
    (hk : 1 ≤ cfg.circuitFailureThreshold)
    (hc : c.ensureAvailable cfg now = some c') :
    ¬ Refuses cfg now failures ∧ c'.Matches cfg (afterCheck cfg now failures) := by
  unfold ensureAvailable at hc
  split at hc
  · rename_i hnone
    cases hc
    have hnot : ¬ Tripped cfg failures := by
      intro ht
      obtain ⟨last, rest, rfl⟩ := tripped_ne_nil hk ht
      rw [h.openedAt, if_pos ht] at hnone
      cases hnone
    refine ⟨fun hr => hnot hr.1, ?_⟩
    rw [afterCheck, if_neg fun hr => hnot hr.1]
    exact h
  · rename_i openedAt hopened
    split at hc
    · cases hc
    · rename_i hlate
      cases hc
      rw [h.openedAt] at hopened
      split at hopened
      · rename_i ht
        have hpasses : ¬ Refuses cfg now failures := by
          intro hr
          exact hlate (hr.2 openedAt hopened)
        refine ⟨hpasses, ?_⟩
        rw [afterCheck, if_pos ⟨ht, hpasses⟩]
        exact .closed hk
      · cases hopened

theorem recordFailure (h : c.Matches cfg failures) (now : ℚ) :
    (c.recordFailure cfg now).Matches cfg (now :: failures) := by
  unfold Circuit.recordFailure
  simp only [h.count]
  split
  · rename_i htrip
    refine ⟨rfl, ?_⟩
    rw [if_pos (by simpa [Tripped] using htrip)]
    rfl
  · rename_i hfew
    have hbefore : ¬ Tripped cfg failures := by
      unfold Tripped
      push_cast at hfew
      omega
    refine ⟨rfl, ?_⟩
    rw [if_neg (by simpa [Tripped] using hfew)]
    show c.openedAt = none
    rw [h.openedAt, if_neg hbefore]

end Circuit.Matches

/-- What `classify` makes of a failure, a success and an error of `_send`. -/
theorem classify_cases (outcome : SendOutcome) :
    (outcome.isFailure = true ∧ ∃ final, final.kind = .unavailable ∧
      classify outcome = .retry final) ∨
    (outcome.isFailure = false ∧ outcome.isSuccess = true ∧
      ((∃ e, classify outcome = .raise true e) ∨
        ∃ body, classify outcome = .page body)) ∨
    (outcome.isFailure = false ∧ outcome.isSuccess = false ∧
      ∃ e, classify outcome = .raise false e) := by
  cases outcome with
  | transportError => exact .inl ⟨rfl, failed, rfl, rfl⟩
  | raised e => exact .inr (.inr ⟨rfl, rfl, e, rfl⟩)
  | response status body =>
      by_cases hfails : status = 429 ∨ 500 ≤ status
      · have h401 : status ≠ 401 := by omega
        have h400 : status ≠ 400 := by omega
        refine .inl ⟨decide_eq_true hfails, _, ?_, by
          simp only [classify, if_neg h401, if_neg h400, if_pos hfails]; rfl⟩
        rfl
      · have hnot : decide (status = 429 ∨ 500 ≤ status) = false :=
          decide_eq_false hfails
        refine .inr (.inl ⟨hnot, by simp [SendOutcome.isSuccess, hnot], ?_⟩)
        unfold classify
        simp only [if_neg hfails]
        split
        · exact .inl ⟨_, rfl⟩
        · split
          · exact .inl ⟨_, rfl⟩
          · split
            · exact .inl ⟨_, rfl⟩
            · exact .inr ⟨body, rfl⟩

section Refines

variable {s s' : State Task} {x y : Watched Task} {a : Action Task} {t u : Task}
  {failures : List ℚ} {h : List Event} {outcome : SendOutcome} {i n : ℕ}

/-- How an attempt begins, by the reference. -/
theorem beginAttempt_cases (hm : s.circuit.Matches cfg failures)
    (hk : 1 ≤ cfg.circuitFailureThreshold) (t : Task) (i : ℕ) :
    (Refuses cfg s.now failures ∧
      beginAttempt cfg s t i = s.setTask t (.idle (some (.error circuitOpen)))) ∨
    (¬ Refuses cfg s.now failures ∧ ∃ circuit,
      circuit.Matches cfg (afterCheck cfg s.now failures) ∧
      beginAttempt cfg s t i =
        { s with circuit := circuit }.setTask t (.waitingForLock i)) := by
  unfold beginAttempt
  cases hc : s.circuit.ensureAvailable cfg s.now with
  | none => exact .inl ⟨hm.check_none hc, rfl⟩
  | some circuit =>
      obtain ⟨hpasses, hafter⟩ := hm.check_some hk hc
      exact .inr ⟨hpasses, circuit, hafter, rfl⟩

theorem matches_beginAttempt (hm : s.circuit.Matches cfg failures)
    (hk : 1 ≤ cfg.circuitFailureThreshold) :
    (beginAttempt cfg s t i).circuit.Matches cfg
      (afterCheck cfg s.now failures) := by
  rcases beginAttempt_cases hm hk t i with ⟨hr, heq⟩ | ⟨-, c, hafter, heq⟩
  · rw [heq, afterCheck, if_neg fun hboth => hboth.2 hr]
    exact hm
  · rw [heq]
    exact hafter

theorem matches_settle (hk : 1 ≤ cfg.circuitFailureThreshold)
    (hm : s.circuit.Matches cfg (failuresSince cfg h)) :
    (settle cfg { s with admittedCount := n } t i outcome).circuit.Matches cfg
      (failuresSince cfg (.ended outcome s.now :: h)) := by
  rcases classify_cases outcome with ⟨hfails, final, -, hc⟩ |
    ⟨hfails, hsucceeds, ⟨e, hc⟩ | ⟨body, hc⟩⟩ | ⟨hfails, hsucceeds, e, hc⟩
  · simp only [settle, hc, failuresSince, hfails, if_true]
    exact hm.recordFailure s.now
  · simp only [settle, hc, failuresSince, hfails, hsucceeds, if_true]
    exact .closed hk
  · simp only [settle, hc, failuresSince, hfails, hsucceeds, if_true]
    exact .closed hk
  · simp only [settle, hc, failuresSince, hfails, hsucceeds]
    exact hm

theorem matches_step (hk : 1 ≤ cfg.circuitFailureThreshold)
    (hm : s.circuit.Matches cfg (failuresSince cfg h))
    (hs : StepOf cfg s a s') :
    s'.circuit.Matches cfg (failuresSince cfg (note s h a)) := by
  cases hs with
  | request => exact matches_beginAttempt hm hk
  | retry => exact matches_beginAttempt hm hk
  | receive => exact matches_settle hk hm
  | tick | takeLock | grant | sleep | wake | enterSemaphore | send => exact hm

/-- In every run, of any number of callers, the circuit is the reference
breaker. -/
theorem matches_reachable (hk : 1 ≤ cfg.circuitFailureThreshold)
    {K : Watched Task → Action Task → Prop}
    (hx : (watched Task cfg).ReachableUnder K x) :
    x.state.circuit.Matches cfg (failuresSince cfg x.history) := by
  refine hx.invariant (I := fun x : Watched Task =>
    x.state.circuit.Matches cfg (failuresSince cfg x.history)) ?_ ?_
  · rintro ⟨s, h⟩ ⟨⟨now, rfl⟩, rfl⟩
    exact .closed hk
  · intro x a y hm _ hstep
    obtain ⟨hs, hh⟩ := System.record_step hstep
    rw [hh]
    exact matches_step hk hm (step_cases hs)

/-! ## §5  The caller's page -/

/-- What the record says of a page whose task is in this state. -/
def PhaseOf (cfg : Config) (h : List Event) : TaskState → Prop
  | .idle _ => sends h ≤ cfg.maxRetries + 1
  | .waitingForLock i | .holdingLock i | .sleeping i _ | .granted i
  | .admitted i => i ≤ cfg.maxRetries ∧ retries h = i ∧ sends h = i
  | .sending i => i ≤ cfg.maxRetries ∧ retries h = i ∧ sends h = i + 1
  | .backingOff i wakeAt =>
      (i < cfg.maxRetries ∧ retries h = i ∧ sends h = i + 1) ∧
        ∃ outcome at_ before, h = .ended outcome at_ :: before ∧
          outcome.isFailure = true ∧ wakeAt = at_ + min (2 ^ i) 8

/-- Every task is where the record has it, and at most one is not idle. -/
structure OnePage (cfg : Config) (s : State Task) (h : List Event) : Prop where
  bound : sends h ≤ cfg.maxRetries + 1
  phase : ∀ u, PhaseOf cfg h (s.task u)
  sole : ∀ t u, (∀ last, s.task t ≠ .idle last) → t ≠ u →
    ∃ last, s.task u = .idle last

theorem PhaseOf.sends_le {x : TaskState} (hp : PhaseOf cfg h x) :
    sends h ≤ cfg.maxRetries + 1 := by
  cases x with
  | idle last => exact hp
  | waitingForLock i | holdingLock i | sleeping i w | granted i | admitted i =>
      obtain ⟨hi, -, hsends⟩ := hp
      omega
  | sending i =>
      obtain ⟨hi, -, hsends⟩ := hp
      omega
  | backingOff i w =>
      obtain ⟨⟨hi, -, hsends⟩, -⟩ := hp
      omega

/-- The page's task moves on, and the others are idle. -/
theorem OnePage.move {m : State Task} {h' : List Event} {x : TaskState}
    (hm : m.task = s.task) (hothers : ∀ u, u ≠ t → ∃ last, s.task u = .idle last)
    (hx : PhaseOf cfg h' x) : OnePage cfg (m.setTask t x) h' := by
  have hidle : ∀ u, u ≠ t → ∃ last, (m.setTask t x).task u = .idle last := by
    intro u hu
    rw [setTask_task_ne hu, hm]
    exact hothers u hu
  refine ⟨hx.sends_le, ?_, ?_⟩
  · intro u
    by_cases hu : u = t
    · rw [hu, setTask_task_self]
      exact hx
    · obtain ⟨last, hlast⟩ := hidle u hu
      rw [hlast]
      exact hx.sends_le
  · intro v u hv hne
    by_cases hu : u = t
    · have hvt : v ≠ t := fun heq => hne (heq.trans hu.symm)
      obtain ⟨last, hlast⟩ := hidle v hvt
      exact absurd hlast (hv last)
    · exact hidle u hu

/-- The others of a task that is not idle. -/
theorem OnePage.others (ho : OnePage cfg s h)
    (ht : ∀ last, s.task t ≠ .idle last) :
    ∀ u, u ≠ t → ∃ last, s.task u = .idle last :=
  fun u hu => ho.sole t u ht (Ne.symm hu)

theorem OnePage.beginAttempt {h' : List Event}
    (hothers : ∀ u, u ≠ t → ∃ last, s.task u = .idle last)
    (hi : i ≤ cfg.maxRetries) (hretries : retries h' = i) (hsends : sends h' = i) :
    OnePage cfg (beginAttempt cfg s t i) h' := by
  unfold Client.beginAttempt
  split
  · refine .move rfl hothers ?_
    show sends h' ≤ _
    omega
  · exact .move rfl hothers ⟨hi, hretries, hsends⟩

theorem OnePage.settle {s : State Task}
    (hothers : ∀ u, u ≠ t → ∃ last, s.task u = .idle last)
    (hi : i ≤ cfg.maxRetries) (hretries : retries h = i)
    (hsends : sends h = i + 1) :
    OnePage cfg (settle cfg { s with admittedCount := n } t i outcome)
      (.ended outcome s.now :: h) := by
  have hidle : ∀ last, PhaseOf cfg (.ended outcome s.now :: h) (.idle last) := by
    intro last
    show sends _ ≤ _
    rw [sends_ended]
    omega
  rcases classify_cases outcome with ⟨hfails, final, -, hc⟩ |
    ⟨-, -, ⟨e, hc⟩ | ⟨body, hc⟩⟩ | ⟨-, -, e, hc⟩
  · simp only [Client.settle, hc]
    refine .move rfl hothers ?_
    split
    · rename_i hlt
      refine ⟨⟨hlt, ?_, ?_⟩, outcome, s.now, h, rfl, hfails, rfl⟩
      · rw [retries_ended, hretries]
      · rw [sends_ended, hsends]
    · exact hidle _
  · simp only [Client.settle, hc]
    exact .move rfl hothers (hidle _)
  · simp only [Client.settle, hc]
    exact .move rfl hothers (hidle _)
  · simp only [Client.settle, hc]
    exact .move rfl hothers (hidle _)

theorem onePage_step (ho : OnePage cfg s h) (hg : OneCaller ⟨s, h⟩ a)
    (hs : StepOf cfg s a s') : OnePage cfg s' (note s h a) := by
  have hphase := fun u => ho.phase u
  cases hs with
  | tick => exact ⟨ho.bound, ho.phase, ho.sole⟩
  | request =>
      exact .beginAttempt (fun u _ => hg u) (Nat.zero_le _) rfl rfl
  | @takeLock t k ht =>
      have hp := ht ▸ hphase t
      exact .move rfl (ho.others (by simp [ht])) hp
  | @grant t k b ht =>
      have hp := ht ▸ hphase t
      exact .move rfl (ho.others (by simp [ht])) hp
  | @sleep t k b delay ht =>
      have hp := ht ▸ hphase t
      exact .move rfl (ho.others (by simp [ht])) hp
  | @wake t k at_ ht =>
      have hp := ht ▸ hphase t
      exact .move rfl (ho.others (by simp [ht])) hp
  | @enterSemaphore t k ht =>
      have hp := ht ▸ hphase t
      exact .move rfl (ho.others (by simp [ht])) hp
  | @send t k ht =>
      obtain ⟨hk, hretries, hsends⟩ : PhaseOf cfg h (.admitted k) :=
        ht ▸ hphase t
      refine .move rfl (ho.others (by simp [ht])) ⟨hk, ?_, ?_⟩
      · rw [note, retries_sent, hretries]
      · rw [note, sends_sent, hsends]
  | @receive t k outcome ht =>
      obtain ⟨hk, hretries, hsends⟩ : PhaseOf cfg h (.sending k) :=
        ht ▸ hphase t
      exact .settle (ho.others (by simp [ht])) hk hretries hsends
  | @retry t k at_ ht =>
      obtain ⟨⟨hk, hretries, hsends⟩, -⟩ : PhaseOf cfg h (.backingOff k at_) :=
        ht ▸ hphase t
      refine .beginAttempt (ho.others (by simp [ht])) hk ?_ ?_
      · rw [note, retries_retried, hretries]
      · rw [note, sends_retried, hsends]

theorem onePage_reachable (hx : (watched Task cfg).ReachableUnder OneCaller x) :
    OnePage cfg x.state x.history := by
  refine hx.invariant
    (I := fun x : Watched Task => OnePage cfg x.state x.history) ?_ ?_
  · rintro ⟨s, h⟩ ⟨⟨now, rfl⟩, rfl⟩
    exact ⟨Nat.zero_le _, fun _ => Nat.zero_le _,
      fun t u ht _ => absurd rfl (ht none)⟩
  · intro x a y ho hg hstep
    obtain ⟨hs, hh⟩ := System.record_step hstep
    rw [hh]
    exact onePage_step ho hg (step_cases hs)

/-! ## §6  The law -/

/-- The breaker is open exactly at so many failures, since the last of them. -/
def OpensByCount (cfg : Config) (x : Watched Task) : Prop :=
  let failures := failuresSince cfg x.history
  x.state.circuit.failures = failures.length ∧
    (x.state.circuit.openedAt.isSome = true ↔ Tripped cfg failures) ∧
    ∀ openedAt ∈ x.state.circuit.openedAt, openedAt ∈ failures.head?

/-- An attempt that the breaker refuses raises and sends nothing; any other
goes on, with the breaker reset where it was open. -/
def BeginsAttempt (cfg : Config) (x : Watched Task) (t : Task) (attempt : ℕ)
    (s' : State Task) : Prop :=
  let failures := failuresSince cfg x.history
  if Refuses cfg x.state.now failures then
    s' = x.state.setTask t (.idle (some (.error circuitOpen)))
  else s'.task t = .waitingForLock attempt ∧
    (Tripped cfg failures → s'.circuit = .closed) ∧
    (¬ Tripped cfg failures → s'.circuit = x.state.circuit)

/-- A page is tried again after a failure only, with its delay over. -/
def RetriesAfterFailure (cfg : Config) (x : Watched Task) : Prop :=
  retries x.history < cfg.maxRetries ∧
    ∃ outcome at_ before, x.history = .ended outcome at_ :: before ∧
      outcome.isFailure = true ∧
      at_ + min (2 ^ retries x.history) 8 ≤ x.state.now

/-- What becomes of an outcome: a failure backs off or is the page's last, any
other outcome ends the page and adds no failure. -/
def EndsAttempt (cfg : Config) (x : Watched Task) (t : Task)
    (outcome : SendOutcome) (s' : State Task) : Prop :=
  if outcome.isFailure then
    s'.circuit.failures = x.state.circuit.failures + 1 ∧
    if retries x.history < cfg.maxRetries then
      s'.task t = .backingOff (retries x.history)
        (x.state.now + min (2 ^ retries x.history) 8)
    else ∃ e, e.kind = .unavailable ∧ s'.task t = .idle (some (.error e))
  else s'.circuit.failures ≤ x.state.circuit.failures ∧
    ∃ result, s'.task t = .idle (some result)

theorem Circuit.Matches.opensByCount
    (hm : x.state.circuit.Matches cfg (failuresSince cfg x.history))
    (hk : 1 ≤ cfg.circuitFailureThreshold) : OpensByCount cfg x := by
  refine ⟨hm.count, ?_, ?_⟩
  · rw [hm.openedAt]
    constructor
    · intro hopen
      split at hopen
      · assumption
      · cases hopen
    · intro ht
      obtain ⟨last, rest, heq⟩ := tripped_ne_nil hk ht
      rw [if_pos ht, heq]
      rfl
  · intro openedAt hopened
    rw [hm.openedAt] at hopened
    split at hopened
    · exact hopened
    · cases hopened

theorem Circuit.Matches.eq_closed {c : Circuit}
    (hk : 1 ≤ cfg.circuitFailureThreshold) (hm : c.Matches cfg []) :
    c = .closed :=
  Circuit.ext hm.count
    (hm.openedAt.trans (Circuit.Matches.closed hk).openedAt.symm)

theorem begins_of_matches (hk : 1 ≤ cfg.circuitFailureThreshold)
    (hm : x.state.circuit.Matches cfg (failuresSince cfg x.history)) :
    BeginsAttempt cfg x t i (beginAttempt cfg x.state t i) := by
  unfold BeginsAttempt
  rcases beginAttempt_cases hm hk t i with ⟨hr, heq⟩ | ⟨hr, c, hafter, heq⟩
  · rw [if_pos hr]
    exact heq
  · rw [if_neg hr, heq]
    refine ⟨setTask_task_self, ?_, ?_⟩
    · intro ht
      rw [afterCheck, if_pos ⟨ht, hr⟩] at hafter
      exact hafter.eq_closed hk
    · intro ht
      rw [afterCheck, if_neg fun hboth => ht hboth.1] at hafter
      exact Circuit.ext (hafter.count.trans hm.count.symm)
        (hafter.openedAt.trans hm.openedAt.symm)

theorem ends_of_onePage (ho : OnePage cfg x.state x.history)
    (ht : x.state.task t = .sending i) {n : ℕ} :
    EndsAttempt cfg x t outcome
      (settle cfg { x.state with admittedCount := n } t i outcome) := by
  obtain ⟨-, hretries, -⟩ : PhaseOf cfg x.history (.sending i) := ht ▸ ho.phase t
  unfold EndsAttempt
  rw [hretries]
  rcases classify_cases outcome with ⟨hfails, final, hkind, hc⟩ |
    ⟨hfails, -, ⟨e, hc⟩ | ⟨body, hc⟩⟩ | ⟨hfails, -, e, hc⟩
  · rw [if_pos hfails]
    simp only [settle, hc, setTask_task_self]
    refine ⟨?_, ?_⟩
    · show (x.state.circuit.recordFailure cfg x.state.now).failures = _
      simp only [Circuit.recordFailure]
      split <;> rfl
    · split
      · rfl
      · exact ⟨final, hkind, rfl⟩
  · rw [if_neg (by simp [hfails])]
    simp only [settle, hc, setTask_task_self]
    exact ⟨Nat.zero_le _, _, rfl⟩
  · rw [if_neg (by simp [hfails])]
    simp only [settle, hc, setTask_task_self]
    exact ⟨Nat.zero_le _, _, rfl⟩
  · rw [if_neg (by simp [hfails])]
    simp only [settle, hc, setTask_task_self]
    exact ⟨le_refl _, _, rfl⟩

/-- A sole caller meets the reference machine at every point of its run. -/
theorem sole_caller_refines (hk : 1 ≤ cfg.circuitFailureThreshold)
    (hx : (watched Task cfg).ReachableUnder OneCaller x) :
    OpensByCount cfg x ∧
    sends x.history ≤ cfg.maxRetries + 1 ∧
    (∀ t s', step cfg x.state (.request t) = some s' →
      BeginsAttempt cfg x t 0 s') ∧
    (∀ t s', step cfg x.state (.retry t) = some s' →
      RetriesAfterFailure cfg x ∧
        BeginsAttempt cfg x t (retries x.history + 1) s') ∧
    ∀ t outcome s', step cfg x.state (.receive t outcome) = some s' →
      EndsAttempt cfg x t outcome s' := by
  have hm := matches_reachable hk hx
  have ho := onePage_reachable hx
  refine ⟨hm.opensByCount hk, ?_, ?_, ?_, ?_⟩
  · exact ho.bound
  · intro t s' hstep
    cases step_cases hstep with
    | request => exact begins_of_matches hk hm
  · intro t s' hstep
    cases step_cases hstep with
    | @retry t k at_ ht hat =>
        obtain ⟨⟨hlt, hretries, -⟩, outcome, ended, before, hh, hfails, hwake⟩ :
          PhaseOf cfg x.history (.backingOff k at_) := ht ▸ ho.phase t
        rw [hretries]
        refine ⟨⟨hretries ▸ hlt, outcome, ended, before, hh, hfails, ?_⟩,
          begins_of_matches hk hm⟩
        rw [hretries, ← hwake]
        exact hat
  · intro t outcome s' hstep
    cases step_cases hstep with
    | receive ht => exact ends_of_onePage ho ht

end Refines

instance {n : ℕ} (x : Watched (Fin n)) :
    (a : Action (Fin n)) → Decidable (OneCaller x a)
  | .request _ => decidable_of_iff
      (∀ u, (match x.state.task u with | .idle _ => true | _ => false) = true)
      (forall_congr' fun u => by cases x.state.task u <;> simp)
  | .tick _ | .takeLock _ | .acquire _ | .wake _ | .enterSemaphore _ | .send _
  | .receive .. | .retry _ => .isTrue trivial

/-- The fifth failure opens the breaker inside a page, and the page's next
attempt is refused. -/
theorem fifth_failure_refuses :
    ∃ x s', (watched (Fin 2) oneByOne).runUnder OneCaller ⟨init _ 0, []⟩
        (fiveAttempts ++ [.receive 0 (.response 429 []), .tick 1]) = some x ∧
      x.state.circuit.failures = 4 + 1 ∧
      step oneByOne x.state (.retry 0) = some s' ∧
      s' = x.state.setTask 0 (.idle (some (.error circuitOpen))) := by
  have hrun : ∃ x, (watched (Fin 2) oneByOne).runUnder OneCaller
      ⟨init _ 0, []⟩
      (fiveAttempts ++ [.receive 0 (.response 429 []), .tick 1]) = some x ∧
        ((step oneByOne x.state (.retry 0)).isSome = true ∧
          Refuses oneByOne x.state.now (failuresSince oneByOne x.history) ∧
          (failuresSince oneByOne x.history).length = 5) :=
    System.exists_of_runUnder (by decide +kernel)
  obtain ⟨x, hx, hsome, hrefuses, hcount⟩ := hrun
  obtain ⟨s', hstep⟩ := Option.isSome_iff_exists.mp hsome
  have hreached : (watched (Fin 2) oneByOne).ReachableUnder OneCaller x :=
    System.reachable_of_runUnder ⟨⟨0, rfl⟩, rfl⟩ hx
  obtain ⟨⟨hopens, -⟩, -, -, hretries, -⟩ :=
    sole_caller_refines (by decide) hreached
  have hnext := (hretries 0 s' hstep).2
  simp only [BeginsAttempt, if_pos hrefuses] at hnext
  exact ⟨x, s', hx, hopens.trans hcount, hstep, hnext⟩

end LeakcheckHub.Client
