import LeakcheckHub.Foundation.System
import LeakcheckHub.Foundation.RowVersions
import LeakcheckHub.Models

/-!
# The batch queue: claiming and finishing work

`app/batches.py` as run by any number of workers (`app/worker.py`). Every
statement of `claim_next` and `finish_work` is a step of its own; between two
statements any other worker may run. `create_batch` enters as the committed
rows it leaves.

§1 statements · §2 worker states and actions · §3 the step function.
-/

namespace LeakcheckHub.Batches

open Foundation

/-! ## §1  The statements -/

/-- `_STALE_AFTER`: a claim's lease. -/
def staleAfter : ℤ := seconds (10 * 60)

structure ClaimedWork where
  queueId : Uuid
  batchId : Uuid
  subjectId : Uuid
  query : PyStr
deriving DecidableEq, Repr

/-- The `WHERE` of `claim_statement`; a NULL `locked_at` compares as false. -/
def claimable (claimedAt : Timestamp) (r : ScanQueue) : Bool :=
  r.status == .queued ||
    (r.status == .running &&
      r.lockedAt.any fun at_ => decide (at_ < claimedAt - staleAfter))

/-- `ORDER BY created_at, id`. -/
def before (x y : Uuid × ScanQueue) : Bool :=
  decide (x.2.createdAt < y.2.createdAt) ||
    (x.2.createdAt == y.2.createdAt && decide (x.1 < y.1))

/-- `ORDER BY … LIMIT 1`. -/
def earliest : List (Uuid × ScanQueue) → Option (Uuid × ScanQueue)
  | [] => none
  | x :: xs =>
      match earliest xs with
      | none => some x
      | some y => some (if before y x then y else x)

/-- The columns `claim_statement` sets. -/
def claimRow (workerId : PyStr) (claimedAt : Timestamp) (r : ScanQueue) :
    ScanQueue :=
  { r with
    status := .running
    lockedBy := some (workerId.take 255)
    lockedAt := some claimedAt
    attempts := r.attempts + 1
    lastError := none }

/-- The columns the first statement of `finish_work` sets. -/
def finishRow (succeeded : Bool) (error : Option PyStr) (now : Timestamp)
    (r : ScanQueue) : ScanQueue :=
  { r with
    status := if succeeded then .succeeded else .failed
    finishedAt := some now
    lockedBy := none
    lockedAt := none
    lastError :=
      if succeeded then none
      else
        let text := match error with
          | none | some [] => PyStr.lit "scan failed"
          | some e => e
        some (text.take 255) }

structure Counts where
  completed : ℕ
  failed : ℕ
  total : ℕ
deriving DecidableEq, Repr

/-- The second statement of `finish_work`, over the rows it sees. -/
def countRows (batchId : Uuid) (rows : List (Uuid × ScanQueue)) : Counts where
  completed := rows.countP fun x =>
    x.2.batchId == batchId && x.2.status == .succeeded
  failed := rows.countP fun x =>
    x.2.batchId == batchId && x.2.status == .failed
  total := rows.countP fun x => x.2.batchId == batchId

/-- The third statement of `finish_work`: `status` and `finished_at` are part
of the update only when the counts say that every row is done. -/
def applyCounts (c : Counts) (now : Timestamp) (b : ScanBatch) : ScanBatch :=
  if c.completed + c.failed = c.total then
    { b with
      completedCount := c.completed
      failedCount := c.failed
      status := if c.failed = 0 then .succeeded else .partialSuccess
      finishedAt := some now }
  else
    { b with completedCount := c.completed, failedCount := c.failed }

/-- `claim_next` marks a batch as started with its first claim. -/
def startRow (now : Timestamp) (b : ScanBatch) : ScanBatch :=
  { b with status := .running, startedAt := some now }

/-! ## §2  Worker states and actions -/

/-- Progress inside `finish_work`. `changed` is the row count of the first
statement; the code does not look at it. -/
inductive FinishStage where
  | updated (changed : Bool)
  | counted (changed : Bool) (counts : Counts)
  | written (changed : Bool)
deriving DecidableEq, Repr

/-- The loop of `run` finishes each claim once. A worker here may call
`finish_work` for the work it holds any number of times, which is the loop
and more. -/
inductive WorkerState where
  | ready (work : Option ClaimedWork)
  | claimed (queueId batchId subjectId : Uuid)
  | subjectRead (work : ClaimedWork)
  | batchStarted (work : ClaimedWork)
  | finishing (work : ClaimedWork) (stage : FinishStage)
deriving DecidableEq, Repr

/-- Whether a database transaction of the worker is open. -/
def WorkerState.inTransaction : WorkerState → Bool
  | .ready _ => false
  | _ => true

inductive Action (Worker : Type) where
  | createBatch (batchId : Uuid) (totalCount : ℕ)
      (items : List (Uuid × Uuid)) (now : Timestamp)
  | claim (w : Worker) (claimedAt : Timestamp)
  | readSubject (w : Worker)
  | startBatch (w : Worker) (now : Timestamp)
  | finish (w : Worker) (succeeded : Bool) (error : Option PyStr)
      (now : Timestamp)
  | count (w : Worker)
  | writeCounts (w : Worker) (now : Timestamp)
  | commit (w : Worker)
  | abort (w : Worker)

structure State (Worker : Type) where
  queue : Table Uuid Worker ScanQueue
  batches : Table Uuid Worker ScanBatch
  worker : Worker → WorkerState

/-- What the queue reads and never writes: `value_norm` of each subject and
each worker's `worker_id`. -/
structure Env (Worker : Type) where
  subjectValue : Uuid → PyStr
  workerId : Worker → PyStr

/-! ## §3  Steps -/

section Step

variable {Worker : Type} [DecidableEq Worker]

def State.setWorker (s : State Worker) (w : Worker) (x : WorkerState) :
    State Worker :=
  { s with worker := fun v => if v = w then x else s.worker v }

/-- Ends the transaction of `w` with its versions installed. -/
def State.commit (s : State Worker) (w : Worker) : State Worker :=
  { s with queue := s.queue.commit w, batches := s.batches.commit w }

/-- Ends the transaction of `w` with its versions dropped. -/
def State.rollback (s : State Worker) (w : Worker) : State Worker :=
  { s with queue := s.queue.rollback w, batches := s.batches.rollback w }

/-- The sub-select of `claim_statement`: rows locked by another transaction
are skipped, not waited for. -/
def candidate (q : Table Uuid Worker ScanQueue) (w : Worker)
    (claimedAt : Timestamp) : Option (Uuid × ScanQueue) :=
  earliest ((q.rows w).filter fun x =>
    claimable claimedAt x.2 && !(q.cell x.1).heldByOther w)

def newQueueRow (batchId subjectId : Uuid) (now : Timestamp) : ScanQueue :=
  ⟨batchId, subjectId, .queued, 0, none, none, none, now, none⟩

def newBatch (totalCount : ℕ) (now : Timestamp) : ScanBatch :=
  ⟨.pending, totalCount, 0, 0, now, none, none⟩

/-- The rows `create_batch` leaves: one batch and one queued row for each
distinct subject. -/
def insertQueueRows (batchId : Uuid) (now : Timestamp) :
    List (Uuid × Uuid) → Table Uuid Worker ScanQueue →
      Table Uuid Worker ScanQueue
  | [], q => q
  | (queueId, subjectId) :: items, q =>
      insertQueueRows batchId now items
        (q.insertCommitted queueId (newQueueRow batchId subjectId now))

/-- Primary keys are new and a batch has at least one row. -/
def createEnabled (s : State Worker) (batchId : Uuid)
    (items : List (Uuid × Uuid)) : Bool :=
  decide (batchId ∉ s.batches.ids) && !items.isEmpty &&
    decide (items.map Prod.fst).Nodup &&
    decide (items.map Prod.snd).Nodup &&
    items.all fun x => decide (x.1 ∉ s.queue.ids)

def step (env : Env Worker) (s : State Worker) :
    Action Worker → Option (State Worker)
  | .createBatch batchId totalCount items now =>
      if createEnabled s batchId items then
        some { s with
          queue := insertQueueRows batchId now items s.queue
          batches :=
            s.batches.insertCommitted batchId (newBatch totalCount now) }
      else none
  | .claim w claimedAt =>
      match s.worker w with
      | .ready _ =>
          match candidate s.queue w claimedAt with
          | none => some (s.setWorker w (.ready none))
          | some (i, r) =>
              some ({ s with
                queue := s.queue.put w i
                  (some (claimRow (env.workerId w) claimedAt r)) }.setWorker w
                    (.claimed i r.batchId r.subjectId))
      | _ => none
  | .readSubject w =>
      match s.worker w with
      | .claimed i b subjectId =>
          some (s.setWorker w
            (.subjectRead ⟨i, b, subjectId, env.subjectValue subjectId⟩))
      | _ => none
  | .startBatch w now =>
      match s.worker w with
      | .subjectRead work =>
          (s.batches.updateWhere w work.batchId
            (fun b => b.status == .pending) (startRow now)).map fun batches =>
              { s with batches }.setWorker w (.batchStarted work)
      | _ => none
  | .finish w succeeded error now =>
      match s.worker w with
      | .ready (some work) =>
          let changed := (s.queue.read w work.queueId).any
            fun r => r.status == .running
          (s.queue.updateWhere w work.queueId (fun r => r.status == .running)
            (finishRow succeeded error now)).map fun queue =>
              { s with queue }.setWorker w (.finishing work (.updated changed))
      | _ => none
  | .count w =>
      match s.worker w with
      | .finishing work (.updated changed) =>
          some (s.setWorker w (.finishing work
            (.counted changed (countRows work.batchId (s.queue.rows w)))))
      | _ => none
  | .writeCounts w now =>
      match s.worker w with
      | .finishing work (.counted changed counts) =>
          (s.batches.updateWhere w work.batchId (fun _ => true)
            (applyCounts counts now)).map fun batches =>
              { s with batches }.setWorker w
                (.finishing work (.written changed))
      | _ => none
  | .commit w =>
      match s.worker w with
      | .batchStarted work | .finishing work (.written _) =>
          some ((s.commit w).setWorker w (.ready (some work)))
      | _ => none
  | .abort w => some ((s.rollback w).setWorker w (.ready none))

/-- The queue starts empty, with no worker in a transaction. -/
def init : State Worker where
  queue := Table.empty
  batches := Table.empty
  worker := fun _ => .ready none

def system (env : Env Worker) : System (State Worker) (Action Worker) where
  init := fun s => s = init
  step := step env

end Step

end LeakcheckHub.Batches
