import LeakcheckHub.Foundation.System
import LeakcheckHub.Models

/-!
# Admitting interactive scans

`run_analyst_scan` and `self_check` of `app/routers`, with the `execute_scan`
tasks they spawn, in one web process that may stop and start again. Every
statement of a request is a step of its own; the advisory lock of an actor is
held until the transaction ends. The two starts that a task gives its scan are
read from the clock in one step and committed in another.

§1 queries · §2 requests, tasks and actions · §3 steps · §4 what a step does ·
§5 what holds in every run · §6 a sample lock.
-/

set_option linter.unusedSectionVars false

namespace LeakcheckHub.Scans

open Foundation

/-! ## §1  Queries -/

/-- `actor_scan_lock`: the first eight bytes of a digest, as a signed
integer. -/
def actorScanLock (sha256 : Bytes → Bytes) (actorId : Uuid) : ℤ :=
  let digest := sha256
    (PyStr.asciiLit "leakcheck/interactive-scan/v1" ++ [0] ++ actorId.bytes)
  let n := (digest.take 8).foldl (fun (n : ℕ) b => n * 256 + b.toNat) 0
  if n < 2 ^ 63 then (n : ℤ) else n - 2 ^ 64

inductive Route where
  | analyst
  | selfCheck
deriving DecidableEq, Repr

def Route.trigger : Route → ScanTrigger
  | .analyst => .manual
  | .selfCheck => .self

/-- The `WHERE` of a route's query for an active scan: `self_check` asks for
the actor's self-checks only. -/
def activeFor (route : Route) (actorId : Uuid) (scan : Scan) : Bool :=
  scan.requestedBy == some actorId && scan.status.active &&
    match route with
    | .analyst => true
    | .selfCheck => scan.trigger == .self

/-- When the latest of the user's self-checks that have started did start:
`_latest_self_scan`. -/
def latestSelfStart (scans : List Scan) (userId : Uuid) : Option Timestamp :=
  ((scans.filter fun scan =>
    scan.requestedBy == some userId && scan.trigger == .self).filterMap
      Scan.startedAt).max?

/-- `cooldown_remaining`. -/
def cooldownRemaining (startedAt : Option Timestamp) (cooldownSeconds : ℕ)
    (now : Timestamp) : ℕ :=
  match startedAt with
  | none => 0
  | some startedAt =>
      cooldownSeconds - ((now - startedAt).tdiv 1000000).toNat

/-! ## §2  Requests, tasks and actions -/

/-- A refusal by its response: 409, 429 with `Retry-After`, or 503. -/
inductive Refusal where
  | inProgress
  | cooldown (retryAfter : ℕ)
  | unconfigured
deriving DecidableEq, Repr

inductive RequestState where
  | idle
  | arrived (route : Route) (actorId : Uuid)
  | locked (route : Route) (actorId : Uuid)
  | activeRead (actorId : Uuid) (found : Bool)
  | latestRead (actorId : Uuid) (found : Bool) (latest : Option Timestamp)
  | admitted (route : Route) (actorId : Uuid)
  | configured (route : Route) (actorId subjectId : Uuid)
  | inserted (route : Route) (actorId : Uuid) (scan : Scan)
  | committed (scanId : Uuid)
  | refused (actorId : Uuid) (refusal : Refusal)
deriving DecidableEq, Repr

/-- How `run_scan` ended. -/
inductive ScanOutcome where
  | succeeded (resultCount newCount : ℕ) (quota : Option ℕ) (truncated : Bool)
  | failed (error : PyStr)
deriving DecidableEq, Repr

inductive TaskState where
  | idle
  | queued
  | starting (startedAt : Timestamp)
  | working
  | scanning (startedAt : Timestamp)
  | concluding (startedAt : Timestamp) (outcome : ScanOutcome)
deriving DecidableEq, Repr

/-- `fail` is an exception that ends a request, `crash` one that escapes from
`execute_scan`. -/
inductive Action (Request : Type) where
  | arrive (r : Request) (route : Route) (actorId : Uuid)
  | lock (r : Request)
  | active (r : Request)
  | latest (r : Request)
  | settle (r : Request) (cooldownSeconds : ℕ)
  | configure (r : Request) (subjectId : Option Uuid)
  | insert (r : Request) (scanId : Uuid)
  | commit (r : Request)
  | addTask (r : Request)
  | respond (r : Request)
  | fail (r : Request)
  | start (i : Uuid)
  | begin (i : Uuid)
  | scan (i : Uuid)
  | conclude (i : Uuid) (outcome : ScanOutcome)
  | finish (i : Uuid)
  | crash (i : Uuid)
  | stop
  | restart
  | tick (d : ℕ)

structure State (Request : Type) where
  scans : List Scan
  locks : ℤ → Option Request
  request : Request → RequestState
  task : Uuid → TaskState
  up : Bool
  now : Timestamp

/-! ## §3  Steps -/

/-- The row with `RUNNING` and its start. -/
def startedRow (now : Timestamp) (scan : Scan) : Scan :=
  { scan with status := .running, startedAt := some now }

/-- The row as `complete_scan` or a failure ends it. -/
def finishedRow (outcome : ScanOutcome) (now : Timestamp) (scan : Scan) :
    Scan :=
  match outcome with
  | .succeeded resultCount newCount quota truncated =>
      { scan with
        status := .succeeded
        finishedAt := some now
        resultCount := resultCount
        newCount := newCount
        quota := quota
        truncated := truncated
        error := none }
  | .failed error =>
      { scan with
        status := .failed
        finishedAt := some now
        error := some error }

/-- The row that the final commit of `execute_scan` leaves: `run_scan` has
started the scan anew and ends it at that start; the rollback of a failure
takes the new start back. -/
def concludedRow (startedAt : Timestamp) (outcome : ScanOutcome)
    (now : Timestamp) (scan : Scan) : Scan :=
  match outcome with
  | .succeeded .. => finishedRow outcome startedAt (startedRow startedAt scan)
  | .failed _ => finishedRow outcome now scan

/-- Rewrites the row of an id. -/
def updateScan (i : Uuid) (f : Scan → Scan) (scans : List Scan) : List Scan :=
  scans.map fun scan => if scan.id = i then f scan else scan

section Step

variable {Request : Type} [DecidableEq Request] (key : Uuid → ℤ)

def State.setRequest (s : State Request) (r : Request) (x : RequestState) :
    State Request :=
  { s with request := fun q => if q = r then x else s.request q }

def State.setTask (s : State Request) (i : Uuid) (x : TaskState) :
    State Request :=
  { s with task := fun j => if j = i then x else s.task j }

def State.setLock (s : State Request) (k : ℤ) (holder : Option Request) :
    State Request :=
  { s with locks := fun l => if l = k then holder else s.locks l }

/-- Whose advisory lock the transaction holds. -/
def RequestState.holder : RequestState → Option Uuid
  | .idle | .arrived .. | .committed _ => none
  | .locked _ actorId | .activeRead actorId _ | .latestRead actorId _ _
  | .admitted _ actorId | .configured _ actorId _ | .inserted _ actorId _
  | .refused actorId _ => some actorId

/-- The end of a request's transaction. -/
def State.release (s : State Request) (r : Request) : State Request :=
  match (s.request r).holder with
  | none => s
  | some actorId => s.setLock (key actorId) none

/-- The web process is gone, with its requests, tasks and connections. -/
def State.stopped (s : State Request) : State Request :=
  { s with
    locks := fun _ => none
    request := fun _ => .idle
    task := fun _ => .idle
    up := false }

def step (s : State Request) : Action Request → Option (State Request)
  | .arrive r route actorId =>
      match s.request r with
      | .idle =>
          if s.up then some (s.setRequest r (.arrived route actorId)) else none
      | _ => none
  | .lock r =>
      match s.request r with
      | .arrived route actorId =>
          match s.locks (key actorId) with
          | none => some ((s.setLock (key actorId) (some r)).setRequest r
              (.locked route actorId))
          | some _ => none
      | _ => none
  | .active r =>
      match s.request r with
      | .locked route actorId =>
          let found := s.scans.any (activeFor route actorId)
          some (s.setRequest r
            (match route with
              | .selfCheck => .activeRead actorId found
              | .analyst =>
                  if found then .refused actorId .inProgress
                  else .admitted route actorId))
      | _ => none
  | .latest r =>
      match s.request r with
      | .activeRead actorId found =>
          some (s.setRequest r
            (.latestRead actorId found (latestSelfStart s.scans actorId)))
      | _ => none
  | .settle r cooldownSeconds =>
      match s.request r with
      | .latestRead actorId found latest =>
          let remaining := cooldownRemaining latest cooldownSeconds s.now
          some (s.setRequest r
            (if found then .refused actorId .inProgress
            else if 0 < remaining then .refused actorId (.cooldown remaining)
            else .admitted .selfCheck actorId))
      | _ => none
  | .configure r subjectId =>
      match s.request r with
      | .admitted route actorId =>
          some (s.setRequest r
            (match subjectId with
              | none => .refused actorId .unconfigured
              | some subjectId => .configured route actorId subjectId))
      | _ => none
  | .insert r scanId =>
      match s.request r with
      | .configured route actorId subjectId =>
          some (s.setRequest r (.inserted route actorId
            (.requested scanId subjectId (some actorId) route.trigger)))
      | _ => none
  | .commit r =>
      match s.request r with
      | .inserted _ _ scan =>
          if scan.id ∈ s.scans.map Scan.id then none
          else some ({ s.release key r with
            scans := s.scans ++ [scan] }.setRequest r (.committed scan.id))
      | _ => none
  | .addTask r =>
      match s.request r with
      | .committed scanId =>
          some ((s.setTask scanId .queued).setRequest r .idle)
      | _ => none
  | .respond r =>
      match s.request r with
      | .refused _ _ => some ((s.release key r).setRequest r .idle)
      | _ => none
  | .fail r =>
      match s.request r with
      | .idle => none
      | _ => some ((s.release key r).setRequest r .idle)
  | .start i =>
      match s.task i with
      | .queued =>
          some (s.setTask i
            (if i ∈ s.scans.map Scan.id then .starting s.now else .idle))
      | _ => none
  | .begin i =>
      match s.task i with
      | .starting startedAt =>
          some ({ s with
            scans := updateScan i (startedRow startedAt) s.scans }.setTask i
              .working)
      | _ => none
  | .scan i =>
      match s.task i with
      | .working => some (s.setTask i (.scanning s.now))
      | _ => none
  | .conclude i outcome =>
      match s.task i with
      | .scanning startedAt =>
          some (s.setTask i (.concluding startedAt outcome))
      | _ => none
  | .finish i =>
      match s.task i with
      | .concluding startedAt outcome =>
          some ({ s with
            scans := updateScan i (concludedRow startedAt outcome s.now)
              s.scans }.setTask i .idle)
      | _ => none
  | .crash i =>
      match s.task i with
      | .idle => none
      | _ => some (s.setTask i .idle)
  | .stop => some s.stopped
  | .restart => if s.up then none else some { s with up := true }
  | .tick d => some { s with now := s.now + d }

/-- A process that has just started, on a database whose scans have all
ended. -/
structure Initial (s : State Request) : Prop where
  ids : (s.scans.map Scan.id).Nodup
  ended : ∀ scan ∈ s.scans, scan.status.active = false
  locks : ∀ k, s.locks k = none
  request : ∀ r, s.request r = .idle
  task : ∀ i, s.task i = .idle

def system : System (State Request) (Action Request) where
  init := Initial
  step := step key

/-- On a database without scans. -/
def blank : State Request where
  scans := []
  locks := fun _ => none
  request := fun _ => .idle
  task := fun _ => .idle
  up := true
  now := 0

theorem blank_initial : (system key).init (blank : State Request) :=
  ⟨List.nodup_nil, fun _ h => (nomatch h), fun _ => rfl, fun _ => rfl,
    fun _ => rfl⟩

end Step

/-! ## §4  What a step does -/

/-- Past the query for an active scan, which found none. -/
def RequestState.cleared : RequestState → Option Uuid
  | .activeRead actorId false | .latestRead actorId false _
  | .admitted _ actorId | .configured _ actorId _
  | .inserted _ actorId _ => some actorId
  | _ => none

/-- The scan that a request has committed and not yet handed over. -/
def RequestState.handover : RequestState → Option Uuid
  | .committed scanId => some scanId
  | _ => none

section Effects

variable {Request : Type} [DecidableEq Request] {key : Uuid → ℤ}
  {s s' : State Request} {a : Action Request} {r q : Request} {i j : Uuid}
  {x : RequestState} {y : TaskState}

@[simp] theorem setRequest_self : (s.setRequest r x).request r = x :=
  if_pos rfl

@[simp] theorem setRequest_ne (h : q ≠ r) :
    (s.setRequest r x).request q = s.request q := if_neg h

@[simp] theorem setTask_self : (s.setTask i y).task i = y := if_pos rfl

@[simp] theorem setTask_ne (h : j ≠ i) : (s.setTask i y).task j = s.task j :=
  if_neg h

theorem handover_eq_some : x.handover = some i ↔ x = .committed i := by
  cases x <;> simp [RequestState.handover]

/-- The commit has ended the transaction, and with it the lock. -/
theorem release_of_committed (h : s.request r = .committed i) :
    s.release key r = s := by
  unfold State.release
  rw [h]
  rfl

/-- What a step does to the scans, to the tasks and to the locks. -/
inductive Effect (key : Uuid → ℤ) (s : State Request) :
    Action Request → State Request → Prop
  | move {b : Action Request} (r : Request) (x : RequestState)
      (hholder : x.holder = (s.request r).holder)
      (hbefore : (s.request r).handover = none) (hafter : x.handover = none)
      (hcleared : ∀ actorId, x.cleared = some actorId →
        (s.request r).cleared = some actorId ∨
          ∃ route, s.request r = .locked route actorId ∧ b = .active r ∧
            s.scans.any (activeFor route actorId) = false)
      (hinserted : ∀ route actorId scan, x = .inserted route actorId scan →
        scan.requestedBy = some actorId ∧ scan.status = .pending) :
      Effect key s b (s.setRequest r x)
  | acquire (r : Request) (route : Route) (actorId : Uuid)
      (hrequest : s.request r = .arrived route actorId)
      (hfree : s.locks (key actorId) = none) :
      Effect key s (.lock r) ((s.setLock (key actorId) (some r)).setRequest r
        (.locked route actorId))
  | leave {b : Action Request} (r : Request) (hbefore : (s.request r).handover = none) :
      Effect key s b ((s.release key r).setRequest r .idle)
  | commit (r : Request) (route : Route) (actorId : Uuid) (scan : Scan)
      (hrequest : s.request r = .inserted route actorId scan)
      (hfresh : scan.id ∉ s.scans.map Scan.id) :
      Effect key s (.commit r) ({ s.release key r with
        scans := s.scans ++ [scan] }.setRequest r (.committed scan.id))
  | addTask (r : Request) (i : Uuid) (hrequest : s.request r = .committed i) :
      Effect key s (.addTask r) ((s.setTask i .queued).setRequest r .idle)
  | lose (r : Request) (i : Uuid) (hrequest : s.request r = .committed i) :
      Effect key s (.fail r) (s.setRequest r .idle)
  | start (i : Uuid) (htask : s.task i = .queued)
      (hrow : i ∈ s.scans.map Scan.id) :
      Effect key s (.start i) (s.setTask i (.starting s.now))
  | vanish (i : Uuid) (htask : s.task i = .queued)
      (hrow : i ∉ s.scans.map Scan.id) :
      Effect key s (.start i) (s.setTask i .idle)
  | begin (i : Uuid) (startedAt : Timestamp)
      (htask : s.task i = .starting startedAt) :
      Effect key s (.begin i) ({ s with
        scans := updateScan i (startedRow startedAt) s.scans }.setTask i
          .working)
  | scan (i : Uuid) (htask : s.task i = .working) :
      Effect key s (.scan i) (s.setTask i (.scanning s.now))
  | conclude (i : Uuid) (startedAt : Timestamp) (outcome : ScanOutcome)
      (htask : s.task i = .scanning startedAt) :
      Effect key s (.conclude i outcome)
        (s.setTask i (.concluding startedAt outcome))
  | finish (i : Uuid) (startedAt : Timestamp) (outcome : ScanOutcome)
      (htask : s.task i = .concluding startedAt outcome) :
      Effect key s (.finish i) ({ s with
        scans := updateScan i (concludedRow startedAt outcome s.now)
          s.scans }.setTask i .idle)
  | crash (i : Uuid) (htask : s.task i ≠ .idle) :
      Effect key s (.crash i) (s.setTask i .idle)
  | stop : Effect key s .stop s.stopped
  | clock {b : Action Request} (up : Bool) (now : Timestamp) :
      Effect key s b { s with up := up, now := now }

/-- A request is past the query only if the query found nothing. -/
theorem effect_active (h : step key s (.active r) = some s') :
    Effect key s (.active r) s' := by
  simp only [step] at h
  split at h
  · rename_i route actorId hr
    cases h
    refine .move r _ ?_ (by rw [hr]; rfl) ?_ ?_ ?_
    · rw [hr]
      cases route
      · dsimp only
        split <;> rfl
      · rfl
    · cases route
      · dsimp only
        split <;> rfl
      · rfl
    · intro b hx
      right
      cases hfound : s.scans.any (activeFor route actorId) with
      | true =>
          rw [hfound] at hx
          cases route <;> cases hx
      | false =>
          rw [hfound] at hx
          have hb : actorId = b := by
            cases route <;> exact Option.some.inj hx
          rw [← hb]
          exact ⟨route, hr, rfl, hfound⟩
    · intro _ _ _ hx
      cases route
      · dsimp only at hx
        split at hx <;> cases hx
      · cases hx
  · cases h

/-- The cooldown admits only a request whose query found nothing. -/
theorem effect_settle {cooldownSeconds : ℕ}
    (h : step key s (.settle r cooldownSeconds) = some s') :
    Effect key s (.settle r cooldownSeconds) s' := by
  simp only [step] at h
  split at h
  · rename_i actorId found latest hr
    cases h
    refine .move r _ ?_ (by rw [hr]; rfl) ?_ ?_ ?_
    · rw [hr]
      cases found
      · simp only [Bool.false_eq_true, if_false]
        split <;> rfl
      · rfl
    · cases found
      · simp only [Bool.false_eq_true, if_false]
        split <;> rfl
      · rfl
    · intro b hx
      left
      rw [hr]
      cases found
      · simp only [Bool.false_eq_true, if_false] at hx
        split at hx
        · cases hx
        · exact hx
      · cases hx
    · intro _ _ _ hx
      split at hx
      · cases hx
      · split at hx <;> cases hx
  · cases h

theorem effect_fail (h : step key s (.fail r) = some s') :
    Effect key s (.fail r) s' := by
  simp only [step] at h
  split at h
  · cases h
  · cases h
    cases hr : (s.request r).handover with
    | none => exact .leave r hr
    | some i =>
        -- the transaction is over, so there is no lock to give back
        have hcommitted := handover_eq_some.mp hr
        rw [release_of_committed hcommitted]
        exact .lose r i hcommitted

theorem step_effect (h : step key s a = some s') : Effect key s a s' := by
  cases a with
  | arrive r route actorId =>
      simp only [step] at h
      split at h
      · rename_i hr
        split at h
        · cases h
          exact .move r _ (by rw [hr]; rfl) (by rw [hr]; rfl) rfl
            (fun _ hx => nomatch hx) (fun _ _ _ hx => nomatch hx)
        · cases h
      · cases h
  | lock r =>
      simp only [step] at h
      split at h
      · rename_i route actorId hr
        split at h
        · rename_i hfree
          cases h
          exact .acquire r route actorId hr hfree
        · cases h
      · cases h
  | active r => exact effect_active h
  | latest r =>
      simp only [step] at h
      split at h
      · rename_i actorId found hr
        cases h
        refine .move r _ (by rw [hr]; rfl) (by rw [hr]; rfl) rfl ?_
          (fun _ _ _ hx => nomatch hx)
        intro b hx
        left
        rw [hr]
        cases found <;> exact hx
      · cases h
  | settle r cooldownSeconds => exact effect_settle h
  | configure r subjectId =>
      simp only [step] at h
      split at h
      · rename_i route actorId hr
        cases h
        cases subjectId with
        | none =>
            exact .move r _ (by rw [hr]; rfl) (by rw [hr]; rfl) rfl
              (fun _ hx => nomatch hx) (fun _ _ _ hx => nomatch hx)
        | some subjectId =>
            exact .move r _ (by rw [hr]; rfl) (by rw [hr]; rfl) rfl
              (fun _ hx => .inl (by rw [hr]; exact hx))
              (fun _ _ _ hx => nomatch hx)
      · cases h
  | insert r scanId =>
      simp only [step] at h
      split at h
      · rename_i route actorId subjectId hr
        cases h
        refine .move r _ (by rw [hr]; rfl) (by rw [hr]; rfl) rfl
          (fun _ hx => .inl (by rw [hr]; exact hx)) ?_
        rintro _ _ _ hx
        cases hx
        exact ⟨rfl, rfl⟩
      · cases h
  | commit r =>
      simp only [step] at h
      split at h
      · rename_i route actorId scan hr
        split at h
        · cases h
        · rename_i hfresh
          cases h
          exact .commit r route actorId scan hr hfresh
      · cases h
  | addTask r =>
      simp only [step] at h
      split at h
      · rename_i i hr
        cases h
        exact .addTask r i hr
      · cases h
  | respond r =>
      simp only [step] at h
      split at h
      · rename_i hr
        cases h
        exact .leave r (by rw [hr]; rfl)
      · cases h
  | fail r => exact effect_fail h
  | start i =>
      simp only [step] at h
      split at h
      · rename_i htask
        cases h
        by_cases hrow : i ∈ s.scans.map Scan.id
        · rw [if_pos hrow]
          exact .start i htask hrow
        · rw [if_neg hrow]
          exact .vanish i htask hrow
      · cases h
  | begin i =>
      simp only [step] at h
      split at h
      · rename_i startedAt htask
        cases h
        exact .begin i startedAt htask
      · cases h
  | scan i =>
      simp only [step] at h
      split at h
      · rename_i htask
        cases h
        exact .scan i htask
      · cases h
  | conclude i outcome =>
      simp only [step] at h
      split at h
      · rename_i startedAt htask
        cases h
        exact .conclude i startedAt outcome htask
      · cases h
  | finish i =>
      simp only [step] at h
      split at h
      · rename_i startedAt outcome htask
        cases h
        exact .finish i startedAt outcome htask
      · cases h
  | crash i =>
      simp only [step] at h
      split at h
      · cases h
      · rename_i htask
        cases h
        exact .crash i htask
  | stop =>
      cases h
      exact .stop
  | restart =>
      simp only [step] at h
      split at h
      · cases h
      · cases h
        exact .clock true s.now
  | tick d =>
      cases h
      exact .clock s.up (s.now + d)

/-! ## §5  What holds in every run -/

theorem updateScan_ids {f : Scan → Scan} {scans : List Scan}
    (hf : ∀ scan, (f scan).id = scan.id) :
    (updateScan i f scans).map Scan.id = scans.map Scan.id := by
  unfold updateScan
  rw [List.map_map]
  refine List.map_congr_left fun scan _ => ?_
  show (if scan.id = i then f scan else scan).id = scan.id
  split
  · exact hf scan
  · rfl

theorem mem_updateScan_self {f : Scan → Scan} {scans : List Scan} {scan : Scan}
    (h : scan ∈ scans) (hid : scan.id = i) : f scan ∈ updateScan i f scans :=
  List.mem_map.mpr ⟨scan, h, if_pos hid⟩

theorem mem_updateScan_ne {f : Scan → Scan} {scans : List Scan} {scan : Scan}
    (h : scan ∈ scans) (hid : scan.id ≠ i) : scan ∈ updateScan i f scans :=
  List.mem_map.mpr ⟨scan, h, if_neg hid⟩

theorem startedRow_id (now : Timestamp) (scan : Scan) :
    (startedRow now scan).id = scan.id := rfl

theorem concludedRow_id (startedAt : Timestamp) (outcome : ScanOutcome)
    (now : Timestamp) (scan : Scan) :
    (concludedRow startedAt outcome now scan).id = scan.id := by
  cases outcome <;> rfl

theorem concludedRow_ended (startedAt : Timestamp) (outcome : ScanOutcome)
    (now : Timestamp) (scan : Scan) :
    (concludedRow startedAt outcome now scan).status.active = false := by
  cases outcome <;> rfl

/-- The status of the row while its task is alive. -/
def TaskState.status : TaskState → ScanStatus
  | .idle | .queued | .starting _ => .pending
  | .working | .scanning _ | .concluding .. => .running

/-- Locks are held by those who took them, and every task and every request
that is about to add one has its row. -/
structure Sane (key : Uuid → ℤ) (s : State Request) : Prop where
  ids : (s.scans.map Scan.id).Nodup
  held : ∀ r actorId, (s.request r).holder = some actorId →
    s.locks (key actorId) = some r
  inserted : ∀ r route actorId scan,
    s.request r = .inserted route actorId scan →
      scan.requestedBy = some actorId ∧ scan.status = .pending
  task : ∀ i, s.task i ≠ .idle →
    ∃ scan ∈ s.scans, scan.id = i ∧ scan.status = (s.task i).status
  handover : ∀ r i, s.request r = .committed i → s.task i = .idle ∧
    ∃ scan ∈ s.scans, scan.id = i ∧ scan.status = .pending
  once : ∀ r q i, s.request r = .committed i → s.request q = .committed i →
    r = q

@[simp] theorem release_scans : (s.release key r).scans = s.scans := by
  unfold State.release
  split <;> rfl

@[simp] theorem release_request :
    (s.release key r).request = s.request := by
  unfold State.release
  split <;> rfl

@[simp] theorem release_task : (s.release key r).task = s.task := by
  unfold State.release
  split <;> rfl

/-- The locks of the others stay. -/
theorem Sane.release_locks {actorId : Uuid} (hs : Sane key s) (hq : q ≠ r)
    (h : (s.request q).holder = some actorId) :
    (s.release key r).locks (key actorId) = some q := by
  have hlock := hs.held q actorId h
  unfold State.release
  split
  · exact hlock
  · rename_i other hr
    show (if key actorId = key other then none else _) = some q
    split
    · rename_i hkey
      rw [hkey, hs.held r other hr, Option.some.injEq] at hlock
      exact absurd hlock.symm hq
    · exact hlock

/-- A request that neither commits nor hands over. -/
theorem Sane.request (hs : Sane key s)
    (hscans : s'.scans = s.scans) (htask : s'.task = s.task)
    (hother : ∀ q, q ≠ r → s'.request q = s.request q)
    (hlocks : ∀ q actorId, q ≠ r → (s.request q).holder = some actorId →
      s'.locks (key actorId) = some q)
    (hself : ∀ actorId, (s'.request r).holder = some actorId →
      s'.locks (key actorId) = some r)
    (hafter : (s'.request r).handover = none)
    (hinserted : ∀ route actorId scan,
      s'.request r = .inserted route actorId scan →
        scan.requestedBy = some actorId ∧ scan.status = .pending) :
    Sane key s' := by
  have hcommitted : ∀ q i, s'.request q = .committed i →
      s.request q = .committed i := by
    intro q i hq
    by_cases hqr : q = r
    · rw [hqr] at hq
      rw [hq] at hafter
      cases hafter
    · rw [← hother q hqr]
      exact hq
  constructor
  case ids =>
    rw [hscans]
    exact hs.ids
  case held =>
    intro q actorId hq
    by_cases hqr : q = r
    · rw [hqr] at hq ⊢
      exact hself actorId hq
    · rw [hother q hqr] at hq
      exact hlocks q actorId hqr hq
  case inserted =>
    intro q route actorId scan hq
    by_cases hqr : q = r
    · rw [hqr] at hq
      exact hinserted route actorId scan hq
    · rw [hother q hqr] at hq
      exact hs.inserted q route actorId scan hq
  case task =>
    intro i hi
    rw [htask] at hi ⊢
    rw [hscans]
    exact hs.task i hi
  case handover =>
    intro q i hq
    rw [htask, hscans]
    exact hs.handover q i (hcommitted q i hq)
  case once =>
    intro q q' i hq hq'
    exact hs.once q q' i (hcommitted q i hq) (hcommitted q' i hq')

/-- A step of the task of `i`. -/
theorem Sane.taskStep (hs : Sane key s) (hrequest : s'.request = s.request)
    (hlocks : s'.locks = s.locks)
    (hids : s'.scans.map Scan.id = s.scans.map Scan.id)
    (hrows : ∀ scan ∈ s.scans, scan.id ≠ i → scan ∈ s'.scans)
    (hother : ∀ j, j ≠ i → s'.task j = s.task j) (halive : s.task i ≠ .idle)
    (hself : s'.task i ≠ .idle →
      ∃ scan ∈ s'.scans, scan.id = i ∧ scan.status = (s'.task i).status) :
    Sane key s' := by
  constructor
  case ids =>
    rw [hids]
    exact hs.ids
  case held =>
    rw [hrequest, hlocks]
    exact hs.held
  case inserted =>
    rw [hrequest]
    exact hs.inserted
  case task =>
    intro j hj
    by_cases hji : j = i
    · rw [hji] at hj ⊢
      exact hself hj
    · rw [hother j hji] at hj ⊢
      obtain ⟨scan, hscan, hid, hstatus⟩ := hs.task j hj
      exact ⟨scan, hrows scan hscan (hid ▸ hji), hid, hstatus⟩
  case handover =>
    intro r j hr
    rw [hrequest] at hr
    obtain ⟨hidle, scan, hscan, hid, hstatus⟩ := hs.handover r j hr
    -- a committed request has no task yet
    have hji : j ≠ i := fun h => halive (h ▸ hidle)
    rw [hother j hji]
    exact ⟨hidle, scan, hrows scan hscan (hid ▸ hji), hid, hstatus⟩
  case once =>
    rw [hrequest]
    exact hs.once

/-- A task that goes on, or ends, without touching its row. -/
theorem Sane.setTask {x : TaskState} (hs : Sane key s)
    (hbusy : s.task i ≠ .idle)
    (hstatus : x ≠ .idle → x.status = (s.task i).status) :
    Sane key (s.setTask i x) := by
  refine hs.taskStep (i := i) rfl rfl rfl (fun scan hscan _ => hscan)
    (fun j hj => setTask_ne hj) hbusy fun hx => ?_
  rw [setTask_self] at hx ⊢
  obtain ⟨scan, hscan, hid, hrow⟩ := hs.task i hbusy
  exact ⟨scan, hscan, hid, hrow.trans (hstatus hx).symm⟩

/-- A commit makes the row visible and gives the lock back. -/
theorem Sane.commit {route : Route} {actorId : Uuid} {scan : Scan}
    (hs : Sane key s) (hrequest : s.request r = .inserted route actorId scan)
    (hfresh : scan.id ∉ s.scans.map Scan.id) :
    Sane key ({ s.release key r with
      scans := s.scans ++ [scan] }.setRequest r (.committed scan.id)) := by
  have hother : ∀ q, q ≠ r → ({ s.release key r with
      scans := s.scans ++ [scan] }.setRequest r
        (.committed scan.id)).request q = s.request q := by
    intro q hq
    rw [setRequest_ne hq]
    exact congrFun release_request q
  have hfreshTask : s.task scan.id = .idle := by
    by_contra hbusy
    obtain ⟨old, hold, hid, -⟩ := hs.task scan.id hbusy
    exact hfresh (List.mem_map.mpr ⟨old, hold, hid⟩)
  have hfreshRequest : ∀ q, s.request q ≠ .committed scan.id := by
    intro q hq
    obtain ⟨-, old, hold, hid, -⟩ := hs.handover q scan.id hq
    exact hfresh (List.mem_map.mpr ⟨old, hold, hid⟩)
  constructor
  case ids =>
    show ((s.scans ++ [scan]).map Scan.id).Nodup
    rw [List.map_append, List.map_singleton, List.nodup_append]
    refine ⟨hs.ids, List.nodup_cons.mpr ⟨List.not_mem_nil, .nil⟩, ?_⟩
    intro i hi j hj
    rw [List.mem_singleton.mp hj]
    exact fun h => hfresh (h ▸ hi)
  case held =>
    intro q other hq
    by_cases hqr : q = r
    · rw [hqr, setRequest_self] at hq
      cases hq
    · rw [hother q hqr] at hq
      exact hs.release_locks hqr hq
  case inserted =>
    intro q route' actorId' scan' hq
    by_cases hqr : q = r
    · rw [hqr, setRequest_self] at hq
      cases hq
    · rw [hother q hqr] at hq
      exact hs.inserted q route' actorId' scan' hq
  case task =>
    intro i hi
    have htask : ({ s.release key r with
        scans := s.scans ++ [scan] }.setRequest r
          (.committed scan.id)).task i = s.task i :=
      congrFun release_task i
    rw [htask] at hi ⊢
    obtain ⟨old, hold, h⟩ := hs.task i hi
    exact ⟨old, List.mem_append_left _ hold, h⟩
  case handover =>
    intro q i hq
    refine ⟨(congrFun release_task i).trans ?_, ?_⟩
    · by_cases hqr : q = r
      · rw [hqr, setRequest_self, RequestState.committed.injEq] at hq
        exact hq ▸ hfreshTask
      · rw [hother q hqr] at hq
        exact (hs.handover q i hq).1
    · by_cases hqr : q = r
      · rw [hqr, setRequest_self, RequestState.committed.injEq] at hq
        exact ⟨scan, List.mem_append_right _ List.mem_cons_self, hq,
          (hs.inserted r route actorId scan hrequest).2⟩
      · rw [hother q hqr] at hq
        obtain ⟨-, old, hold, h⟩ := hs.handover q i hq
        exact ⟨old, List.mem_append_left _ hold, h⟩
  case once =>
    intro q q' i hq hq'
    by_cases hqr : q = r
    · by_cases hqr' : q' = r
      · rw [hqr, hqr']
      · -- the identifier is new, so no other request has committed it
        rw [hqr, setRequest_self, RequestState.committed.injEq] at hq
        rw [hother q' hqr', ← hq] at hq'
        exact absurd hq' (hfreshRequest q')
    · rw [hother q hqr] at hq
      by_cases hqr' : q' = r
      · rw [hqr', setRequest_self, RequestState.committed.injEq] at hq'
        rw [← hq'] at hq
        exact absurd hq (hfreshRequest q)
      · rw [hother q' hqr'] at hq'
        exact hs.once q q' i hq hq'

/-- The scan goes from its request to its task. -/
theorem Sane.addTask (hs : Sane key s) (hrequest : s.request r = .committed i) :
    Sane key ((s.setTask i .queued).setRequest r .idle) := by
  have hother : ∀ q, q ≠ r → ((s.setTask i .queued).setRequest r .idle).request
      q = s.request q := fun q hq => setRequest_ne hq
  have htask : ∀ j, j ≠ i → ((s.setTask i .queued).setRequest r .idle).task j =
      s.task j := fun j hj => setTask_ne hj
  constructor
  case ids =>
    exact hs.ids
  case held =>
    intro q actorId hq
    by_cases hqr : q = r
    · rw [hqr, setRequest_self] at hq
      cases hq
    · rw [hother q hqr] at hq
      exact hs.held q actorId hq
  case inserted =>
    intro q route actorId scan hq
    by_cases hqr : q = r
    · rw [hqr, setRequest_self] at hq
      cases hq
    · rw [hother q hqr] at hq
      exact hs.inserted q route actorId scan hq
  case task =>
    intro j hj
    by_cases hji : j = i
    · -- the row of the new task is the one the request has committed
      obtain ⟨-, scan, hscan, hid, hstatus⟩ := hs.handover r i hrequest
      refine ⟨scan, hscan, hid.trans hji.symm, hstatus.trans ?_⟩
      rw [hji]
      show _ = (if i = i then TaskState.queued else s.task i).status
      rw [if_pos rfl]
      rfl
    · rw [htask j hji] at hj ⊢
      exact hs.task j hj
  case handover =>
    intro q j hq
    by_cases hqr : q = r
    · rw [hqr, setRequest_self] at hq
      cases hq
    · rw [hother q hqr] at hq
      -- nobody else has committed this scan
      have hji : j ≠ i := by
        rintro rfl
        exact hqr (hs.once q r j hq hrequest)
      rw [htask j hji]
      exact hs.handover q j hq
  case once =>
    intro q q' j hq hq'
    by_cases hqr : q = r
    · rw [hqr, setRequest_self] at hq
      cases hq
    · by_cases hqr' : q' = r
      · rw [hqr', setRequest_self] at hq'
        cases hq'
      · rw [hother q hqr] at hq
        rw [hother q' hqr'] at hq'
        exact hs.once q q' j hq hq'

theorem sane_step (hs : Sane key s) (h : step key s a = some s') :
    Sane key s' := by
  cases step_effect h with
  | move r x hholder hbefore hafter hcleared hinserted =>
      refine hs.request (r := r) rfl rfl (fun q hq => setRequest_ne hq)
        (fun q actorId _ hq => hs.held q actorId hq) ?_ ?_ ?_
      · intro actorId hx
        rw [setRequest_self, hholder] at hx
        exact hs.held r actorId hx
      · rw [setRequest_self]
        exact hafter
      · rw [setRequest_self]
        exact hinserted
  | acquire r route actorId hrequest hfree =>
      refine hs.request (r := r) rfl rfl (fun q hq => setRequest_ne hq)
        (fun q other _ hq => ?_) ?_ ?_ ?_
      · -- nobody held the key that `r` takes
        have hlock := hs.held q other hq
        show (if key other = key actorId then some r else _) = some q
        rw [if_neg]
        · exact hlock
        · intro hkey
          rw [hkey, hfree] at hlock
          cases hlock
      · intro other hother
        rw [setRequest_self] at hother
        cases hother
        exact if_pos rfl
      · rw [setRequest_self]
        rfl
      · rw [setRequest_self]
        exact fun _ _ _ hx => nomatch hx
  | leave r hbefore =>
      refine hs.request (r := r) release_scans release_task
        (fun q hq => ?_) (fun q actorId hq hholder => ?_) ?_ ?_ ?_
      · rw [setRequest_ne hq, release_request]
      · exact hs.release_locks hq hholder
      · rw [setRequest_self]
        exact fun _ hx => nomatch hx
      · rw [setRequest_self]
        rfl
      · rw [setRequest_self]
        exact fun _ _ _ hx => nomatch hx
  | commit r route actorId scan hrequest hfresh =>
      exact hs.commit hrequest hfresh
  | addTask r i hrequest => exact hs.addTask hrequest
  | lose r i hrequest =>
      refine hs.request (r := r) rfl rfl (fun q hq => setRequest_ne hq)
        (fun q actorId _ hq => hs.held q actorId hq) ?_ ?_ ?_
      · rw [setRequest_self]
        exact fun _ hx => nomatch hx
      · rw [setRequest_self]
        rfl
      · rw [setRequest_self]
        exact fun _ _ _ hx => nomatch hx
  | start i htask hrow =>
      refine hs.setTask ?_ fun _ => ?_ <;> rw [htask]
      · decide
      · rfl
  | begin i startedAt htask =>
      have hbusy : s.task i ≠ .idle := by
        rw [htask]
        exact fun h => nomatch h
      refine hs.taskStep (i := i) rfl rfl
        (updateScan_ids (startedRow_id startedAt))
        (fun scan hscan hid => mem_updateScan_ne hscan hid)
        (fun j hj => setTask_ne hj) hbusy fun _ => ?_
      obtain ⟨scan, hscan, hid, -⟩ := hs.task i hbusy
      refine ⟨_, mem_updateScan_self hscan hid, hid, ?_⟩
      rw [setTask_self]
      rfl
  | vanish i htask hrow =>
      refine hs.setTask ?_ fun h => absurd rfl h
      rw [htask]
      decide
  | scan i htask =>
      refine hs.setTask ?_ fun _ => ?_ <;> rw [htask]
      · decide
      · rfl
  | conclude i startedAt outcome htask =>
      refine hs.setTask ?_ fun _ => ?_ <;> rw [htask]
      · exact fun h => nomatch h
      · rfl
  | finish i startedAt outcome htask =>
      have hbusy : s.task i ≠ .idle := by
        rw [htask]
        exact fun h => nomatch h
      exact hs.taskStep (i := i) rfl rfl
        (updateScan_ids (concludedRow_id startedAt outcome s.now))
        (fun scan hscan hid => mem_updateScan_ne hscan hid)
        (fun j hj => setTask_ne hj) hbusy fun h => absurd setTask_self h
  | crash i hbusy => exact hs.setTask hbusy fun h => absurd rfl h
  | stop =>
      exact ⟨hs.ids, fun _ _ h => (nomatch h), fun _ _ _ _ h => (nomatch h),
        fun _ h => absurd rfl h, fun _ _ h => (nomatch h),
        fun _ _ _ h => (nomatch h)⟩
  | clock up now =>
      exact ⟨hs.ids, hs.held, hs.inserted, hs.task, hs.handover, hs.once⟩

theorem sane_initial (h : Initial s) : Sane key s := by
  refine ⟨h.ids, ?_, ?_, ?_, ?_, ?_⟩
  · intro r actorId hr
    rw [h.request r] at hr
    cases hr
  · intro r route actorId scan hr
    rw [h.request r] at hr
    cases hr
  · exact fun i hi => absurd (h.task i) hi
  · intro r i hr
    rw [h.request r] at hr
    cases hr
  · intro r q i hr
    rw [h.request r] at hr
    cases hr

/-- **Run lemma.** -/
theorem sane_reachable {G : State Request → Action Request → Prop}
    (h : (system key).ReachableUnder G s) : Sane key s :=
  h.invariant (fun _ hinit => sane_initial hinit)
    fun _ _ _ hs _ hstep => sane_step hs hstep

end Effects

/-! ## §6  A sample lock -/

/-- SHA-256 of what the lock of actor 5 is derived from. -/
def sampleSha256 (b : Bytes) : Bytes :=
  if b = PyStr.asciiLit "leakcheck/interactive-scan/v1" ++ [0] ++
      Uuid.bytes 5 then
    [0x7b, 0xab, 0x42, 0x4e, 0xa7, 0xf7, 0x34, 0x8f, 0xb1, 0xd2, 0x3f, 0x93,
      0x20, 0xc3, 0x5d, 0xb3, 0xc6, 0x90, 0x2e, 0x91, 0xb0, 0xc1, 0x4e, 0x68,
      0x58, 0x0e, 0x4a, 0xc0, 0xfd, 0x34, 0x71, 0xad]
  else List.replicate 32 0

def sampleLock : Uuid → ℤ := actorScanLock sampleSha256

example : sampleLock 5 = 8911289193275536527 := by decide

/-- Actor 5 asks for a scan of subject 50 and gets its task. -/
def askFor (r : Bool) (route : Route) (scanId : Uuid) : List (Action Bool) :=
  [.arrive r route 5, .lock r, .active r] ++
    (match route with
      | .analyst => []
      | .selfCheck => [.latest r, .settle r 60]) ++
    [.configure r (some 50), .insert r scanId, .commit r, .addTask r]

end LeakcheckHub.Scans
