import LeakcheckHub.Foundation.System
import LeakcheckHub.Foundation.PyText
import Mathlib.Algebra.Order.Field.Rat

/-!
# The LeakCheck client's request loop

`TokenBucket` and `LeakCheckClient._request_page` of `app/leakcheck.py`, with
any number of tasks on one client. A task is suspended at each `await`; code
between two of them runs in one step at the clock's present time. The clock
is an exact rational and moves only in `tick`.

§1 token bucket · §2 configuration and circuit breaker · §3 tasks and
actions · §4 steps · §5 what a step does.
-/

namespace LeakcheckHub.Client

open Foundation

/-! ## §1  The token bucket -/

structure TokenBucket where
  tokens : ℚ
  updatedAt : Option ℚ
deriving DecidableEq, Repr

namespace TokenBucket

/-- `_capacity`. -/
def capacity : ℚ := 1

def new : TokenBucket := ⟨1, none⟩

/-- The bucket after the elapsed time has been credited. -/
def refill (rate now : ℚ) (b : TokenBucket) : TokenBucket :=
  match b.updatedAt with
  | none => { b with updatedAt := some now }
  | some updatedAt =>
      let elapsed := max 0 (now - updatedAt)
      ⟨min capacity (b.tokens + elapsed * rate), some now⟩

/-- One pass of `acquire` under the lock: the bucket it leaves, and the delay
to sleep when no token was there. -/
def tryAcquire (rate now : ℚ) (b : TokenBucket) : TokenBucket × Option ℚ :=
  let b := b.refill rate now
  if 1 ≤ b.tokens then ({ b with tokens := b.tokens - 1 }, none)
  else (b, some ((1 - b.tokens) / rate))

end TokenBucket

/-! ## §2  Configuration and circuit breaker -/

/-- The limits `LeakCheckClient` and `TokenBucket` accept. -/
structure Config where
  rate : ℚ
  concurrency : ℕ
  maxRetries : ℕ
  circuitFailureThreshold : ℤ
  circuitResetSeconds : ℚ
  rate_ge : 1 ≤ rate
  concurrency_pos : 1 ≤ concurrency

structure Circuit where
  failures : ℕ
  openedAt : Option ℚ
deriving DecidableEq, Repr

namespace Circuit

def closed : Circuit := ⟨0, none⟩

/-- `_ensure_circuit_available`; `none` raises. -/
def ensureAvailable (cfg : Config) (now : ℚ) (c : Circuit) : Option Circuit :=
  match c.openedAt with
  | none => some c
  | some openedAt =>
      if now - openedAt < cfg.circuitResetSeconds then none else some closed

def recordFailure (cfg : Config) (now : ℚ) (c : Circuit) : Circuit :=
  let failures := c.failures + 1
  if cfg.circuitFailureThreshold ≤ failures then ⟨failures, some now⟩
  else { c with failures }

def recordSuccess (_ : Circuit) : Circuit := closed

end Circuit

/-! ## §3  Tasks and actions -/

inductive ErrorKind where
  | configuration
  | protocol
  | responseTooLarge
  | unavailable
deriving DecidableEq, Repr

/-- `LeakCheckError` and its subclasses. -/
structure LeakCheckError where
  kind : ErrorKind
  message : PyStr
deriving DecidableEq, Repr

/-- How `_send` ends: `httpx.HTTPError` or `TimeoutError`, one of its own
errors, or a status and a body. -/
inductive SendOutcome where
  | transportError
  | raised (e : LeakCheckError)
  | response (statusCode : ℕ) (body : Bytes)
deriving DecidableEq, Repr

/-- What `_request_page` does with an outcome: try again, raise, or hand the
body to `_parse_page`. -/
inductive Verdict where
  | retry (final : LeakCheckError)
  | raise (countsAsSuccess : Bool) (e : LeakCheckError)
  | page (body : Bytes)
deriving DecidableEq, Repr

def failed : LeakCheckError :=
  ⟨.unavailable, PyStr.lit "LeakCheck request failed"⟩

def circuitOpen : LeakCheckError :=
  ⟨.unavailable, PyStr.lit "LeakCheck circuit breaker is open"⟩

def classify : SendOutcome → Verdict
  | .transportError => .retry failed
  | .raised e => .raise false e
  | .response status body =>
      if status = 401 then
        .raise true ⟨.configuration,
          PyStr.lit "LeakCheck rejected the configured API key"⟩
      else if status = 400 then
        .raise true ⟨.protocol,
          PyStr.lit "LeakCheck rejected a client-generated request"⟩
      else if status = 429 ∨ 500 ≤ status then
        .retry ⟨.unavailable, PyStr.lit
          ("LeakCheck remained unavailable (HTTP " ++ toString status ++ ")")⟩
      else if status ≠ 200 then
        .raise true ⟨.protocol, PyStr.lit
          ("unexpected LeakCheck HTTP status " ++ toString status)⟩
      else .page body

/-- The delay before the attempt after `attempt`. -/
def backoff (attempt : ℕ) : ℚ := min (2 ^ attempt) 8

/-- Where a task is suspended. `idle` is outside `_request_page`, with the
error its last page raised or the body it got. -/
inductive TaskState where
  | idle (last : Option (Except LeakCheckError Bytes))
  | waitingForLock (attempt : ℕ)
  | holdingLock (attempt : ℕ)
  | sleeping (attempt : ℕ) (wakeAt : ℚ)
  | granted (attempt : ℕ)
  | admitted (attempt : ℕ)
  | sending (attempt : ℕ)
  | backingOff (attempt : ℕ) (wakeAt : ℚ)

/-- Whether the task has a token it has not used. -/
def TaskState.holdsToken : TaskState → Bool
  | .granted _ | .admitted _ => true
  | _ => false

inductive Action (Task : Type) where
  | tick (d : ℚ)
  | request (t : Task)
  | takeLock (t : Task)
  | acquire (t : Task)
  | wake (t : Task)
  | enterSemaphore (t : Task)
  | send (t : Task)
  | receive (t : Task) (outcome : SendOutcome)
  | retry (t : Task)

/-- `starts` and `grants` record when `_send` was called and when `acquire`
returned, newest first; no step reads them. -/
structure State (Task : Type) where
  now : ℚ
  bucket : TokenBucket
  lockHolder : Option Task
  admittedCount : ℕ
  circuit : Circuit
  task : Task → TaskState
  grants : List ℚ
  starts : List ℚ

/-! ## §4  Steps -/

section Step

variable {Task : Type} [DecidableEq Task]

def State.setTask (s : State Task) (t : Task) (x : TaskState) : State Task :=
  { s with task := fun u => if u = t then x else s.task u }

/-- The head of the loop body, up to the first `await` of `acquire`. -/
def beginAttempt (cfg : Config) (s : State Task) (t : Task) (attempt : ℕ) :
    State Task :=
  match s.circuit.ensureAvailable cfg s.now with
  | none => s.setTask t (.idle (some (.error circuitOpen)))
  | some circuit => { s with circuit }.setTask t (.waitingForLock attempt)

/-- The rest of the loop body once `_send` is over and the semaphore left. -/
def settle (cfg : Config) (s : State Task) (t : Task) (attempt : ℕ)
    (outcome : SendOutcome) : State Task :=
  match classify outcome with
  | .retry final =>
      { s with circuit := s.circuit.recordFailure cfg s.now }.setTask t
        (if attempt < cfg.maxRetries then
          .backingOff attempt (s.now + backoff attempt)
        else .idle (some (.error final)))
  | .raise true e =>
      { s with circuit := s.circuit.recordSuccess }.setTask t
        (.idle (some (.error e)))
  | .raise false e => s.setTask t (.idle (some (.error e)))
  | .page body =>
      { s with circuit := s.circuit.recordSuccess }.setTask t
        (.idle (some (.ok body)))

def step (cfg : Config) (s : State Task) : Action Task → Option (State Task)
  | .tick d => if 0 ≤ d then some { s with now := s.now + d } else none
  | .request t =>
      match s.task t with
      | .idle _ => some (beginAttempt cfg s t 0)
      | _ => none
  | .takeLock t =>
      match s.task t, s.lockHolder with
      | .waitingForLock attempt, none =>
          some ({ s with lockHolder := some t }.setTask t
            (.holdingLock attempt))
      | _, _ => none
  | .acquire t =>
      match s.task t with
      | .holdingLock attempt =>
          match s.bucket.tryAcquire cfg.rate s.now with
          | (bucket, none) =>
              some ({ s with
                bucket
                lockHolder := none
                grants := s.now :: s.grants }.setTask t (.granted attempt))
          | (bucket, some delay) =>
              some ({ s with bucket, lockHolder := none }.setTask t
                (.sleeping attempt (s.now + delay)))
      | _ => none
  | .wake t =>
      match s.task t with
      | .sleeping attempt wakeAt =>
          if wakeAt ≤ s.now then some (s.setTask t (.waitingForLock attempt))
          else none
      | _ => none
  | .enterSemaphore t =>
      match s.task t with
      | .granted attempt =>
          if s.admittedCount < cfg.concurrency then
            some ({ s with admittedCount := s.admittedCount + 1 }.setTask t
              (.admitted attempt))
          else none
      | _ => none
  | .send t =>
      match s.task t with
      | .admitted attempt =>
          some ({ s with starts := s.now :: s.starts }.setTask t
            (.sending attempt))
      | _ => none
  | .receive t outcome =>
      match s.task t with
      | .sending attempt =>
          some (settle cfg { s with admittedCount := s.admittedCount - 1 } t
            attempt outcome)
      | _ => none
  | .retry t =>
      match s.task t with
      | .backingOff attempt wakeAt =>
          if wakeAt ≤ s.now then some (beginAttempt cfg s t (attempt + 1))
          else none
      | _ => none

/-- A new client, at any reading of the clock. -/
def init (Task : Type) (now : ℚ) : State Task where
  now := now
  bucket := .new
  lockHolder := none
  admittedCount := 0
  circuit := .closed
  task := fun _ => .idle none
  grants := []
  starts := []

def system (Task : Type) [DecidableEq Task] (cfg : Config) :
    System (State Task) (Action Task) where
  init := fun s => ∃ now, s = init Task now
  step := step cfg

end Step

/-! ## §5  What a step does -/

section Inversion

variable {Task : Type} [DecidableEq Task] {cfg : Config} {s s' : State Task}
  {a : Action Task} {t u : Task} {x : TaskState} {attempt : ℕ}
  {outcome : SendOutcome}

inductive StepOf (cfg : Config) (s : State Task) :
    Action Task → State Task → Prop
  | tick {d} (hd : 0 ≤ d) : StepOf cfg s (.tick d) { s with now := s.now + d }
  | request {t last} (ht : s.task t = .idle last) :
      StepOf cfg s (.request t) (beginAttempt cfg s t 0)
  | takeLock {t k} (ht : s.task t = .waitingForLock k)
      (hl : s.lockHolder = none) :
      StepOf cfg s (.takeLock t)
        ({ s with lockHolder := some t }.setTask t (.holdingLock k))
  | grant {t k b} (ht : s.task t = .holdingLock k)
      (hb : s.bucket.tryAcquire cfg.rate s.now = (b, none)) :
      StepOf cfg s (.acquire t)
        ({ s with
            bucket := b
            lockHolder := none
            grants := s.now :: s.grants }.setTask t (.granted k))
  | sleep {t k b delay} (ht : s.task t = .holdingLock k)
      (hb : s.bucket.tryAcquire cfg.rate s.now = (b, some delay)) :
      StepOf cfg s (.acquire t)
        ({ s with bucket := b, lockHolder := none }.setTask t
          (.sleeping k (s.now + delay)))
  | wake {t k at_} (ht : s.task t = .sleeping k at_) (hat : at_ ≤ s.now) :
      StepOf cfg s (.wake t) (s.setTask t (.waitingForLock k))
  | enterSemaphore {t k} (ht : s.task t = .granted k)
      (hc : s.admittedCount < cfg.concurrency) :
      StepOf cfg s (.enterSemaphore t)
        ({ s with admittedCount := s.admittedCount + 1 }.setTask t
          (.admitted k))
  | send {t k} (ht : s.task t = .admitted k) :
      StepOf cfg s (.send t)
        ({ s with starts := s.now :: s.starts }.setTask t (.sending k))
  | receive {t k outcome} (ht : s.task t = .sending k) :
      StepOf cfg s (.receive t outcome)
        (settle cfg { s with admittedCount := s.admittedCount - 1 } t k
          outcome)
  | retry {t k at_} (ht : s.task t = .backingOff k at_) (hat : at_ ≤ s.now) :
      StepOf cfg s (.retry t) (beginAttempt cfg s t (k + 1))

theorem step_cases (h : step cfg s a = some s') : StepOf cfg s a s' := by
  cases a with
  | tick d =>
      simp only [step, Option.ite_none_right_eq_some, Option.some.injEq] at h
      exact h.2 ▸ .tick h.1
  | request t =>
      cases ht : s.task t with
      | idle last =>
          simp only [step, ht, Option.some.injEq] at h
          exact h ▸ .request ht
      | _ => simp [step, ht] at h
  | takeLock t =>
      cases ht : s.task t with
      | waitingForLock k =>
          cases hl : s.lockHolder with
          | none =>
              simp only [step, ht, hl, Option.some.injEq] at h
              exact h ▸ .takeLock ht hl
          | some u => simp [step, ht, hl] at h
      | _ => simp [step, ht] at h
  | acquire t =>
      cases ht : s.task t with
      | holdingLock k =>
          rcases hb : s.bucket.tryAcquire cfg.rate s.now with ⟨b, _ | delay⟩
          · simp only [step, ht, hb, Option.some.injEq] at h
            exact h ▸ .grant ht hb
          · simp only [step, ht, hb, Option.some.injEq] at h
            exact h ▸ .sleep ht hb
      | _ => simp [step, ht] at h
  | wake t =>
      cases ht : s.task t with
      | sleeping k at_ =>
          simp only [step, ht, Option.ite_none_right_eq_some,
            Option.some.injEq] at h
          exact h.2 ▸ .wake ht h.1
      | _ => simp [step, ht] at h
  | enterSemaphore t =>
      cases ht : s.task t with
      | granted k =>
          simp only [step, ht, Option.ite_none_right_eq_some,
            Option.some.injEq] at h
          exact h.2 ▸ .enterSemaphore ht h.1
      | _ => simp [step, ht] at h
  | send t =>
      cases ht : s.task t with
      | admitted k =>
          simp only [step, ht, Option.some.injEq] at h
          exact h ▸ .send ht
      | _ => simp [step, ht] at h
  | receive t outcome =>
      cases ht : s.task t with
      | sending k =>
          simp only [step, ht, Option.some.injEq] at h
          exact h ▸ .receive ht
      | _ => simp [step, ht] at h
  | retry t =>
      cases ht : s.task t with
      | backingOff k at_ =>
          simp only [step, ht, Option.ite_none_right_eq_some,
            Option.some.injEq] at h
          exact h.2 ▸ .retry ht h.1
      | _ => simp [step, ht] at h

@[simp] theorem setTask_task_self : (s.setTask t x).task t = x := if_pos rfl

theorem setTask_task_ne (h : u ≠ t) : (s.setTask t x).task u = s.task u :=
  if_neg h

/-- A step of `t` that touches neither the clock nor the bucket nor the
records, and leaves `t` without a token. -/
structure LocalStep (s s' : State Task) (t : Task) : Prop where
  now : s'.now = s.now
  bucket : s'.bucket = s.bucket
  grants : s'.grants = s.grants
  starts : s'.starts = s.starts
  others : ∀ u, u ≠ t → s'.task u = s.task u
  token : (s'.task t).holdsToken = false

theorem localStep_setTask (hx : x.holdsToken = false) {c : Circuit} {n : ℕ}
    {l : Option Task} :
    LocalStep s ({ s with
      circuit := c, admittedCount := n, lockHolder := l }.setTask t x) t where
  now := rfl
  bucket := rfl
  grants := rfl
  starts := rfl
  others := fun _ hu => setTask_task_ne hu
  token := by rw [setTask_task_self, hx]

theorem localStep_beginAttempt :
    LocalStep s (beginAttempt cfg s t attempt) t := by
  unfold beginAttempt
  split
  · exact localStep_setTask rfl
  · exact localStep_setTask rfl

theorem localStep_settle {n : ℕ} :
    LocalStep s
      (settle cfg { s with admittedCount := n } t attempt outcome) t := by
  unfold settle
  split
  · refine localStep_setTask ?_
    split <;> rfl
  · exact localStep_setTask rfl
  · exact localStep_setTask rfl
  · exact localStep_setTask rfl

end Inversion

end LeakcheckHub.Client
