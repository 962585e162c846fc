import LeakcheckHub.Batches.Queue
import LeakcheckHub.Batches.Targets
import LeakcheckHub.Foundation.Json
import LeakcheckHub.Portal.BatchSubjects
import Mathlib.Data.List.Nodup

/-!
# Creation of a batch

`create_batch` of `app/batches.py`. The count of the batch is that of the
selected users; the rows of the queue go through an upsert into `subjects`
and an insert that skips a subject which the batch has already.

§1 tables · §2 the function · §3 one subject · §4 the loop · §5 counting ·
§6 the law.
-/

namespace LeakcheckHub.Batches

open Foundation Portal
open Outbox (TextTables)
open Scheduling (BatchTarget)

/-! ## §1  Tables -/

structure BatchRow extends ScanBatch where
  id : Uuid
  targetType : BatchTarget
  target : Json
  createdBy : Uuid

/-- `uq_scan_queue_batch_subject`. -/
def workKey (row : Uuid × ScanQueue) : Uuid × Uuid :=
  (row.2.batchId, row.2.subjectId)

/-- The tables that `create_batch` writes, with their keys and the foreign key
of the queue. -/
structure QueueTables where
  subjects : SubjectTable
  batches : KeyedRows BatchRow.id
  queue : List (Uuid × ScanQueue)
  subjectIds : (subjects.rows.map fun r => r.id).Nodup
  queueIds : (queue.map Prod.fst).Nodup
  work : (queue.map workKey).Nodup
  owned : ∀ r ∈ queue, r.2.batchId ∈ batches.rows.map BatchRow.id

/-- The upsert finds the row of the key or inserts one. -/
theorem batchSubject_cases {U : UnicodeData} {user : User}
    {newId subjectId : Uuid} {t t' : SubjectTable}
    (h : batchSubject U user newId t = .ok (t', subjectId)) :
    ∃ valueNorm valueDisplay,
      (batchKey U user.email).storeVarchar 4096 = some valueNorm ∧
      ((∃ row, t.find (.email, valueNorm) = some row ∧ subjectId = row.id ∧
        t' = t.updateWhere (fun r => decide (r.key = (.email, valueNorm)))
          (SubjectRow.link user.id) (SubjectRow.key_link user.id)) ∨
      newId ∉ t.rows.map (fun r => r.id) ∧ subjectId = newId ∧
        t.insert ⟨⟨newId, .email, valueNorm⟩, valueDisplay, some user.id⟩ =
          some t') := by
  unfold batchSubject at h
  split at h
  · rename_i valueNorm valueDisplay hnorm _
    refine ⟨valueNorm, valueDisplay, hnorm, ?_⟩
    split at h
    · rename_i row hrow
      cases h
      exact .inl ⟨row, hrow, rfl, rfl⟩
    · split at h
      · cases h
      · rename_i hfresh
        split at h
        · rename_i inserted hinsert
          cases h
          exact .inr ⟨hfresh, rfl, hinsert⟩
        · cases h
  · cases h

theorem batchSubject_ids {U : UnicodeData} {user : User}
    {newId subjectId : Uuid} {t t' : SubjectTable}
    (ht : (t.rows.map fun r => r.id).Nodup)
    (h : batchSubject U user newId t = .ok (t', subjectId)) :
    (t'.rows.map fun r => r.id).Nodup := by
  obtain ⟨valueNorm, valueDisplay, -, ⟨row, -, -, rfl⟩ | ⟨hfresh, -, hinsert⟩⟩ :=
    batchSubject_cases h
  · have hids : ((t.updateWhere
        (fun r => decide (r.key = (.email, valueNorm)))
        (SubjectRow.link user.id) (SubjectRow.key_link user.id)).rows.map
          fun r => r.id) = t.rows.map fun r => r.id := by
      simp only [KeyedRows.updateWhere, List.map_map]
      apply List.map_congr_left
      intro r _
      simp only [Function.comp_apply]
      split <;> rfl
    rw [hids]
    exact ht
  · rw [KeyedRows.insert_rows hinsert, List.map_append, List.map_singleton]
    apply List.Nodup.append ht (List.nodup_singleton _)
    intro i hi hnew
    rw [List.mem_singleton.mp hnew] at hi
    exact hfresh hi

namespace QueueTables

variable (U : UnicodeData) (db : QueueTables)

/-- `db.add(batch)` and the flush. -/
def insertBatch (row : BatchRow) : Except DbError QueueTables :=
  match h : db.batches.insert row with
  | none => .error .uniqueViolation
  | some batches =>
      .ok { db with
        batches
        owned := by
          intro r hr
          rw [KeyedRows.insert_rows h, List.map_append]
          exact List.mem_append_left _ (db.owned r hr) }

def upsertSubject (user : User) (newId : Uuid) :
    Except DbError (QueueTables × Uuid) :=
  match h : batchSubject U user newId db.subjects with
  | .error e => .error e
  | .ok (subjects, subjectId) =>
      .ok ({ db with
        subjects
        subjectIds := batchSubject_ids db.subjectIds h }, subjectId)

/-- `INSERT INTO scan_queue … ON CONFLICT (batch_id, subject_id) DO NOTHING`. -/
def enqueue (newId batchId subjectId : Uuid) (now : Timestamp) :
    Except DbError QueueTables :=
  if hwork : (batchId, subjectId) ∈ db.queue.map workKey then .ok db
  else if hid : newId ∈ db.queue.map Prod.fst then .error .uniqueViolation
  else if hbatch : batchId ∈ db.batches.rows.map BatchRow.id then
    .ok { db with
      queue := db.queue ++ [(newId, newQueueRow batchId subjectId now)]
      queueIds := by
        rw [List.map_append]
        apply List.Nodup.append db.queueIds (List.nodup_singleton _)
        intro i hi hnew
        rw [List.mem_singleton.mp hnew] at hi
        exact hid hi
      work := by
        rw [List.map_append]
        apply List.Nodup.append db.work (List.nodup_singleton _)
        intro k hk hnew
        rw [List.mem_singleton.mp hnew] at hk
        exact hwork hk
      owned := by
        intro r hr
        rcases List.mem_append.mp hr with hr | hr
        · exact db.owned r hr
        · rw [List.mem_singleton.mp hr]
          exact hbatch }
  else .error .integrityViolation

end QueueTables

/-! ## §2  The function -/

/-- What the driver or the database raises. -/
def dbException : DbError → PyException
  | .uniqueViolation | .integrityViolation => Outbox.integrityError
  | .badText | .badJson | .badInteger | .tooManyParameters =>
      ⟨PyStr.lit "DBAPIError", []⟩

section Create

variable (U : UnicodeData) (decimal : CodePoint → Option ℕ)
  (citext : PyStr → PyStr) (emailLe : PyStr → PyStr → Bool)

def textTables : TextTables := ⟨U.casefold, decimal⟩

/-- The text that the select binds. -/
def boundText : TargetValue → PyStr
  | .text value => value
  | .ids _ => []

/-- The column `target`. -/
def targetJson (targetType : BatchTarget) : TargetValue → Json
  | .text value =>
      match targetType with
      | .domain =>
          .obj [(PyStr.lit "domain", .str (domainOf (textTables U decimal) value))]
      | .ou | .selection => .obj [(PyStr.lit "ou_path", .str value)]
  | .ids ids =>
      .obj [(PyStr.lit "user_ids", .arr (ids.map fun i => .str i.str))]

/-- The id of the batch, then for each user those of a subject and of a row of
the queue. -/
structure Draws where
  batchId : Uuid
  subjectId : ℕ → Uuid
  queueId : ℕ → Uuid

/-- One iteration of the loop. -/
def fileUser (draws : Draws) (now : Timestamp) (db : QueueTables)
    (x : User × ℕ) : Except DbError QueueTables := do
  let (db, subjectId) ← db.upsertSubject U x.1 (draws.subjectId x.2)
  db.enqueue (draws.queueId x.2) draws.batchId subjectId now

/-- `batch` and the rows that go with it. -/
def fileBatch (actorId : Uuid) (targetType : BatchTarget) (target : TargetValue)
    (users : List User) (draws : Draws) (now : Timestamp) (db : QueueTables) :
    Except DbError QueueTables := do
  if 2147483647 < users.length then .error .badInteger
  else
    let db ← db.insertBatch
      ⟨newBatch users.length now, draws.batchId, targetType,
        targetJson U decimal targetType target, actorId⟩
    users.zipIdx.foldlM (fileUser U draws now) db

/-- `create_batch` on the table `table` of users. -/
def createBatch (table : List User) (actorId : Uuid) (targetType : BatchTarget)
    (target : TargetValue) (draws : Draws) (now : Timestamp)
    (db : QueueTables) : Except PyException QueueTables := do
  let users ← batchUsers (textTables U decimal) citext emailLe table targetType
    target
  if (boundText target).storeText = none then .error (dbException .badText)
  else if users = [] then
    .error (valueError "batch target matched no active users")
  else if actorId ∉ table.map User.id then
    .error (dbException .integrityViolation)
  else
    (fileBatch U decimal actorId targetType target users draws now db).mapError
      dbException

/-- The tables after the transaction of the caller. -/
def afterCreateBatch (table : List User) (actorId : Uuid)
    (targetType : BatchTarget) (target : TargetValue) (draws : Draws)
    (now : Timestamp) (db : QueueTables) : QueueTables :=
  match createBatch U decimal citext emailLe table actorId targetType target
      draws now db with
  | .ok db' => db'
  | .error _ => db

end Create

/-! ## §3  One subject -/

section Subjects

variable {U : UnicodeData} {user : User} {newId subjectId batchId : Uuid}
  {now : Timestamp} {db db' : QueueTables}

def subjectKey (user : User) : SubjectKind × PyStr := (.email, user.email)

theorem storeVarchar_unpadded {s u : PyStr} {n : ℕ}
    (hlast : s.getLast? ≠ some 32) (h : s.storeVarchar n = some u) : u = s := by
  rcases (PyStr.storeVarchar_eq_some h).2 with ⟨-, heq⟩ | ⟨hlong, hblanks, -⟩
  · exact heq
  · exfalso
    apply hlast
    have hne : s.drop n ≠ [] := by
      intro hnil
      have hlen := List.drop_eq_nil_iff.mp hnil
      omega
    have hend : (s.drop n).getLast? = some ((s.drop n).getLast hne) :=
      List.getLast?_eq_some_getLast hne
    have hblank := List.all_eq_true.mp hblanks _ (List.getLast_mem hne)
    rw [List.getLast?_drop, if_neg (Nat.not_le.mpr hlong)] at hend
    rw [hend, Option.some.injEq]
    exact Fin.ext (of_decide_eq_true hblank)

theorem upsertSubject_spec (hfolded : U.casefold user.email = user.email)
    (hlast : user.email.getLast? ≠ some 32)
    (h : db.upsertSubject U user newId = .ok (db', subjectId)) :
    db'.batches = db.batches ∧ db'.queue = db.queue ∧
      (∃ row, db'.subjects.find (subjectKey user) = some row ∧
        row.id = subjectId ∧ row.linkedUserId = some user.id) ∧
      ∀ k, k ≠ subjectKey user →
        db'.subjects.find k = db.subjects.find k := by
  unfold QueueTables.upsertSubject at h
  split at h
  · cases h
  · rename_i t i hsubject
    cases h
    refine ⟨rfl, rfl, ?_⟩
    obtain ⟨valueNorm, valueDisplay, hnorm, hcase⟩ := batchSubject_cases hsubject
    rw [batchKey, hfolded] at hnorm
    have hvalue := storeVarchar_unpadded hlast hnorm
    subst hvalue
    show (∃ row, t.find (subjectKey user) = some row ∧ _) ∧ ∀ k, _ → t.find k = _
    rcases hcase with ⟨row, hrow, rfl, rfl⟩ | ⟨-, rfl, hinsert⟩
    · have hkey : row.key = subjectKey user := KeyedRows.key_of_find hrow
      refine ⟨⟨row.link user.id, ?_, rfl, rfl⟩, ?_⟩
      · rw [KeyedRows.find_updateWhere]
        have hpos : decide (row.key = (.email, user.email)) = true :=
          decide_eq_true hkey
        show (db.subjects.find (.email, user.email)).map _ = _
        rw [hrow, Option.map_some, if_pos hpos]
      · intro k hk
        rw [KeyedRows.find_updateWhere]
        cases hfound : db.subjects.find k with
        | none => rfl
        | some other =>
            have hother : other.key ≠ subjectKey user := by
              rw [KeyedRows.key_of_find hfound]
              exact hk
            have hneg : ¬ decide (other.key = (.email, user.email)) = true := by
              rw [decide_eq_true_eq]
              exact hother
            rw [Option.map_some, if_neg hneg]
    · refine ⟨⟨⟨⟨_, .email, user.email⟩, valueDisplay, some user.id⟩, ?_, rfl,
        rfl⟩, ?_⟩
      · rw [KeyedRows.find_insert hinsert]
        exact if_pos rfl
      · intro k hk
        rw [KeyedRows.find_insert hinsert]
        exact if_neg (Ne.symm hk)

theorem enqueue_spec (h : db.enqueue newId batchId subjectId now = .ok db') :
    db'.subjects = db.subjects ∧ db'.batches = db.batches ∧
      ((batchId, subjectId) ∈ db.queue.map workKey ∨
        db'.queue = db.queue ++ [(newId, newQueueRow batchId subjectId now)]) := by
  unfold QueueTables.enqueue at h
  split at h
  · rename_i hwork
    cases h
    exact ⟨rfl, rfl, .inl hwork⟩
  · split at h
    · cases h
    · split at h
      · cases h
        exact ⟨rfl, rfl, .inr rfl⟩
      · cases h

end Subjects

/-! ## §4  The loop -/

/-- The row is for the scan of the user's own subject. -/
def OnSubject (db : QueueTables) (user : User) (r : Uuid × ScanQueue) : Prop :=
  ∃ subject, db.subjects.find (subjectKey user) = some subject ∧
    subject.linkedUserId = some user.id ∧ r.2.subjectId = subject.id

/-- What the loop adds for a user. -/
def Files (batchId : Uuid) (db : QueueTables) (user : User)
    (r : Uuid × ScanQueue) : Prop :=
  r.2.batchId = batchId ∧ r.2.status = .queued ∧ OnSubject db user r

section Loop

variable {U : UnicodeData} {draws : Draws} {now : Timestamp}
  {db db' : QueueTables}

/-- The batch has no row yet for the subject of a user to come. -/
def Unfiled (batchId : Uuid) (db : QueueTables) (users : List User) : Prop :=
  ∀ r ∈ db.queue, r.2.batchId = batchId →
    ∃ k row, db.subjects.find k = some row ∧ row.id = r.2.subjectId ∧
      ∀ user ∈ users, k ≠ subjectKey user

/-- Rows of one id are one row. -/
theorem key_eq_of_id_eq {k k' : SubjectKind × PyStr} {row row' : SubjectRow}
    (h : db.subjects.find k = some row) (h' : db.subjects.find k' = some row')
    (hid : row.id = row'.id) : k = k' := by
  obtain ⟨hmem, rfl⟩ := KeyedRows.find_eq_some.mp h
  obtain ⟨hmem', rfl⟩ := KeyedRows.find_eq_some.mp h'
  rw [List.inj_on_of_nodup_map db.subjectIds hmem hmem' hid]

/-- One user: the upsert never merges it with one before. -/
theorem fileUser_spec {x : User × ℕ} {users : List User}
    (hfolded : U.casefold x.1.email = x.1.email)
    (hlast : x.1.email.getLast? ≠ some 32)
    (hfresh : Unfiled draws.batchId db (x.1 :: users))
    (hnew : ∀ user ∈ users, subjectKey x.1 ≠ subjectKey user)
    (h : fileUser U draws now db x = .ok db') :
    db'.batches = db.batches ∧ Unfiled draws.batchId db' users ∧
      (∀ k, k ≠ subjectKey x.1 → db'.subjects.find k = db.subjects.find k) ∧
      ∃ r, db'.queue = db.queue ++ [r] ∧ Files draws.batchId db' x.1 r := by
  obtain ⟨⟨db₁, subjectId⟩, hupsert, henqueue⟩ := bind_eq_ok.mp h
  obtain ⟨hbatches, hqueue, ⟨subject, hfound, rfl, hlink⟩, hothers⟩ :=
    upsertSubject_spec hfolded hlast hupsert
  obtain ⟨hsubjects, hbatches', hdone | hadded⟩ := enqueue_spec henqueue
  · exfalso
    -- a row of the batch on this subject would be on one of another key
    obtain ⟨r, hr, hwork⟩ := List.mem_map.mp hdone
    rw [hqueue] at hr
    obtain ⟨k, row, hk, hid, hother⟩ :=
      hfresh r hr (congrArg Prod.fst hwork)
    have hne := hother x.1 List.mem_cons_self
    have hk₁ : db₁.subjects.find k = some row := by
      rw [hothers k hne]
      exact hk
    apply hne
    apply key_eq_of_id_eq hk₁ hfound
    rw [hid]
    exact congrArg Prod.snd hwork
  · refine ⟨by rw [hbatches', hbatches], ?_, ?_, _, by rw [hadded, hqueue], ?_⟩
    · intro r hr hbatch
      rw [hadded, hqueue] at hr
      rcases List.mem_append.mp hr with hold | hr
      · obtain ⟨k, row, hk, hid, hother⟩ := hfresh r hold hbatch
        refine ⟨k, row, ?_, hid, fun user hmem => ?_⟩
        · rw [hsubjects, hothers k (hother x.1 List.mem_cons_self)]
          exact hk
        · exact hother user (List.mem_cons_of_mem _ hmem)
      · rw [List.mem_singleton.mp hr]
        refine ⟨subjectKey x.1, subject, ?_, rfl, hnew⟩
        rw [hsubjects]
        exact hfound
    · intro k hk
      rw [hsubjects]
      exact hothers k hk
    · refine ⟨rfl, rfl, subject, ?_, hlink, rfl⟩
      rw [hsubjects]
      exact hfound

/-- By induction on the users that are left. -/
theorem fileUsers_spec {xs : List (User × ℕ)}
    (hfolded : ∀ x ∈ xs, U.casefold x.1.email = x.1.email)
    (hlast : ∀ x ∈ xs, x.1.email.getLast? ≠ some 32)
    (hdistinct : (xs.map fun x => x.1.email).Nodup)
    (hfresh : Unfiled draws.batchId db (xs.map Prod.fst))
    (h : xs.foldlM (fileUser U draws now) db = .ok db') :
    db'.batches = db.batches ∧
      (∀ k, (∀ user ∈ xs.map Prod.fst, k ≠ subjectKey user) →
        db'.subjects.find k = db.subjects.find k) ∧
      ∃ rows, db'.queue = db.queue ++ rows ∧
        List.Forall₂ (Files draws.batchId db') (xs.map Prod.fst) rows := by
  induction xs generalizing db with
  | nil =>
      rw [foldlM_nil_eq_ok] at h
      subst h
      exact ⟨rfl, fun _ _ => rfl, [], (List.append_nil _).symm, .nil⟩
  | cons x xs ih =>
      obtain ⟨db₁, hone, hrest⟩ := foldlM_cons_eq_ok.mp h
      rw [List.map_cons, List.nodup_cons] at hdistinct
      have hnew : ∀ user ∈ xs.map Prod.fst,
          subjectKey x.1 ≠ subjectKey user := by
        intro user hmem hsame
        obtain ⟨y, hy, rfl⟩ := List.mem_map.mp hmem
        apply hdistinct.1
        rw [show x.1.email = y.1.email from congrArg Prod.snd hsame]
        exact List.mem_map_of_mem hy
      obtain ⟨hbatches, hfresh₁, hothers, r, hqueue, hfiles⟩ :=
        fileUser_spec (hfolded x List.mem_cons_self)
          (hlast x List.mem_cons_self) hfresh hnew hone
      obtain ⟨hbatches', hothers', rows, hqueue', hrows⟩ :=
        ih (fun y hy => hfolded y (List.mem_cons_of_mem _ hy))
          (fun y hy => hlast y (List.mem_cons_of_mem _ hy)) hdistinct.2 hfresh₁
          hrest
      refine ⟨by rw [hbatches', hbatches], ?_, r :: rows, ?_, ?_⟩
      · intro k hk
        rw [List.map_cons, List.forall_mem_cons] at hk
        rw [hothers' k hk.2, hothers k hk.1]
      · rw [hqueue', hqueue, List.append_assoc]
        rfl
      · refine .cons ?_ hrows
        obtain ⟨hbatch, hstatus, subject, hfound, hlink, hid⟩ := hfiles
        refine ⟨hbatch, hstatus, subject, ?_, hlink, hid⟩
        rw [hothers' _ hnew]
        exact hfound

end Loop

/-! ## §5  Counting -/

def batchRows (batchId : Uuid) (queue : List (Uuid × ScanQueue)) :
    List (Uuid × ScanQueue) :=
  queue.filter fun r => r.2.batchId == batchId

theorem mem_batchRows {batchId : Uuid} {queue : List (Uuid × ScanQueue)}
    {r : Uuid × ScanQueue} :
    r ∈ batchRows batchId queue ↔ r ∈ queue ∧ r.2.batchId = batchId := by
  rw [batchRows, List.mem_filter, beq_iff_eq]

/-- The rows of the batch in a later queue: nothing but their progress has
changed. -/
def SameWork (batchId : Uuid) (queue later : List (Uuid × ScanQueue)) : Prop :=
  ((batchRows batchId later).map fun r => (r.1, workKey r)).Perm
    ((batchRows batchId queue).map fun r => (r.1, workKey r))

theorem sameWork_map {batchId : Uuid} {queue : List (Uuid × ScanQueue)}
    {p : Uuid × ScanQueue → Bool} {f : ScanQueue → ScanQueue}
    (hf : ∀ r, (f r).batchId = r.batchId ∧ (f r).subjectId = r.subjectId) :
    SameWork batchId queue
      (queue.map fun r => if p r then (r.1, f r.2) else r) := by
  have hkeep : ∀ r : Uuid × ScanQueue,
      ((if p r then (r.1, f r.2) else r).1 = r.1) ∧
        workKey (if p r then (r.1, f r.2) else r) = workKey r := by
    intro r
    split
    · exact ⟨rfl, Prod.ext (hf r.2).1 (hf r.2).2⟩
    · exact ⟨rfl, rfl⟩
  have heq : (batchRows batchId
      (queue.map fun r => if p r then (r.1, f r.2) else r)).map
        (fun r => (r.1, workKey r)) =
      (batchRows batchId queue).map fun r => (r.1, workKey r) := by
    unfold batchRows
    rw [List.filter_map, List.map_map]
    have hfilter : queue.filter ((fun r => r.2.batchId == batchId) ∘
        fun r => if p r then (r.1, f r.2) else r) =
        queue.filter fun r => r.2.batchId == batchId := by
      apply List.filter_congr
      intro r _
      have hbatch := congrArg Prod.fst (hkeep r).2
      exact congrArg (· == batchId) hbatch
    rw [hfilter]
    apply List.map_congr_left
    intro r _
    exact Prod.ext (hkeep r).1 (hkeep r).2
  unfold SameWork
  rw [heq]

/-- Claiming rows leaves the same work, -/
theorem sameWork_claim {batchId : Uuid} {queue : List (Uuid × ScanQueue)}
    (p : Uuid × ScanQueue → Bool) (workerId : PyStr) (claimedAt : Timestamp) :
    SameWork batchId queue (queue.map fun r =>
      if p r then (r.1, claimRow workerId claimedAt r.2) else r) :=
  sameWork_map fun _ => ⟨rfl, rfl⟩

/-- and so does finishing them. -/
theorem sameWork_finish {batchId : Uuid} {queue : List (Uuid × ScanQueue)}
    (p : Uuid × ScanQueue → Bool) (succeeded : Bool) (error : Option PyStr)
    (now : Timestamp) :
    SameWork batchId queue (queue.map fun r =>
      if p r then (r.1, finishRow succeeded error now r.2) else r) :=
  sameWork_map fun _ => ⟨rfl, rfl⟩

/-- What `finish_work` counts as done. -/
theorem countRows_finished (batchId : Uuid) (rows : List (Uuid × ScanQueue)) :
    (countRows batchId rows).completed + (countRows batchId rows).failed =
      (batchRows batchId rows).countP fun r => r.2.status.terminal := by
  induction rows with
  | nil => rfl
  | cons r rows ih =>
      simp only [countRows, batchRows, List.countP_cons, List.filter_cons] at ih ⊢
      by_cases hbatch : r.2.batchId = batchId
      · cases hs : r.2.status <;>
          simp [hbatch, hs, QueueStatus.terminal] at ih ⊢ <;> omega
      · simp [hbatch] at ih ⊢
        omega

theorem finished_eq_length_iff {batchId : Uuid}
    {queue later : List (Uuid × ScanQueue)}
    (hsame : SameWork batchId queue later) :
    (countRows batchId later).completed + (countRows batchId later).failed =
        (batchRows batchId queue).length ↔
      ∀ r ∈ batchRows batchId later, r.2.status.terminal = true := by
  have hlength := hsame.length_eq
  rw [List.length_map, List.length_map] at hlength
  rw [countRows_finished, ← hlength, List.countP_eq_length]

/-! ## §6  The law -/

/-- What a created batch leaves. -/
structure Created (selected : User → Prop) (batchId : Uuid)
    (db db' : QueueTables) : Prop where
  each : ∀ user, selected user →
    ∃! r, r ∈ batchRows batchId db'.queue ∧ OnSubject db' user r
  only : ∀ r ∈ batchRows batchId db'.queue,
    ∃ user, selected user ∧ Files batchId db' user r
  total : ∃ row, db'.batches.find batchId = some row ∧
    row.totalCount = (batchRows batchId db'.queue).length
  otherRows : db'.queue = db.queue ++ batchRows batchId db'.queue
  otherSubjects : ∀ k, (∀ user, selected user → k ≠ subjectKey user) →
    db'.subjects.find k = db.subjects.find k
  scanned : ∀ row later, db'.batches.find batchId = some row →
    SameWork batchId db'.queue later →
    ((countRows batchId later).completed + (countRows batchId later).failed =
        row.totalCount ↔
      ∀ user, selected user → ∃ r ∈ batchRows batchId later,
        OnSubject db' user r ∧ r.2.status.terminal = true)

/-- What provisioning writes: distinct addresses, with their case folded and
no blank at their end. -/
structure Provisioned (U : UnicodeData) (table : List User) : Prop where
  distinct : (table.map User.email).Nodup
  folded : ∀ user ∈ table, U.casefold user.email = user.email
  unpadded : ∀ user ∈ table, user.email.getLast? ≠ some 32

section Law

variable {U : UnicodeData} {decimal : CodePoint → Option ℕ}
  {citext : PyStr → PyStr} {emailLe : PyStr → PyStr → Bool}
  {table users : List User} {actorId : Uuid} {targetType : BatchTarget}
  {target : TargetValue} {draws : Draws} {now : Timestamp}
  {batchId : Uuid} {db db' : QueueTables}

/-- A row of the queue belongs to one user. -/
theorem onSubject_unique {user : User} {r r' : Uuid × ScanQueue}
    (hr : r ∈ batchRows batchId db.queue)
    (hr' : r' ∈ batchRows batchId db.queue)
    (h : OnSubject db user r) (h' : OnSubject db user r') : r = r' := by
  obtain ⟨hmem, hbatch⟩ := mem_batchRows.mp hr
  obtain ⟨hmem', hbatch'⟩ := mem_batchRows.mp hr'
  obtain ⟨subject, hfound, -, hid⟩ := h
  obtain ⟨subject', hfound', -, hid'⟩ := h'
  rw [hfound, Option.some.injEq] at hfound'
  subst hfound'
  have hwork : workKey r = workKey r' :=
    Prod.ext (hbatch.trans hbatch'.symm) (hid.trans hid'.symm)
  exact List.inj_on_of_nodup_map db.work hmem hmem' hwork

theorem exists_files_of_mem {rows : List (Uuid × ScanQueue)}
    (h : List.Forall₂ (Files batchId db) users rows) :
    (∀ user ∈ users, ∃ r ∈ rows, Files batchId db user r) ∧
      ∀ r ∈ rows, ∃ user ∈ users, Files batchId db user r := by
  induction h with
  | nil => exact ⟨nofun, nofun⟩
  | cons hone _ ih =>
      refine ⟨?_, ?_⟩
      · intro user hmem
        rcases List.mem_cons.mp hmem with rfl | hmem
        · exact ⟨_, List.mem_cons_self, hone⟩
        · obtain ⟨r, hr, hfiles⟩ := ih.1 user hmem
          exact ⟨r, List.mem_cons_of_mem _ hr, hfiles⟩
      · intro r hmem
        rcases List.mem_cons.mp hmem with rfl | hmem
        · exact ⟨_, List.mem_cons_self, hone⟩
        · obtain ⟨user, hu, hfiles⟩ := ih.2 r hmem
          exact ⟨user, List.mem_cons_of_mem _ hu, hfiles⟩

/-- The rows of a new batch are those that the loop adds. -/
theorem batchRows_append {queue rows : List (Uuid × ScanQueue)}
    (hold : ∀ r ∈ queue, r.2.batchId ≠ batchId)
    (hnew : ∀ r ∈ rows, r.2.batchId = batchId) :
    batchRows batchId (queue ++ rows) = rows := by
  unfold batchRows
  rw [List.filter_append]
  have hnone : queue.filter (fun r => r.2.batchId == batchId) = [] := by
    apply List.filter_eq_nil_iff.mpr
    intro r hr
    simpa using hold r hr
  have hall : rows.filter (fun r => r.2.batchId == batchId) = rows := by
    apply List.filter_eq_self.mpr
    intro r hr
    simpa using hnew r hr
  rw [hnone, hall, List.nil_append]

/-- A fresh batch has no rows. -/
theorem insertBatch_spec {row : BatchRow}
    (h : db.insertBatch row = .ok db') :
    db'.subjects = db.subjects ∧ db'.queue = db.queue ∧
      db'.batches.find row.id = some row ∧
      ∀ r ∈ db.queue, r.2.batchId ≠ row.id := by
  unfold QueueTables.insertBatch at h
  split at h
  · cases h
  · rename_i batches hinsert
    cases h
    refine ⟨rfl, rfl, ?_, ?_⟩
    · show batches.find row.id = some row
      rw [KeyedRows.find_insert hinsert]
      exact if_pos rfl
    · intro r hr hbatch
      have hfree := KeyedRows.find_of_insert hinsert rfl
      obtain ⟨other, hother, hid⟩ := List.mem_map.mp (db.owned r hr)
      exact KeyedRows.find_eq_none.mp hfree other hother (hid.trans hbatch)

/-- Finished work is the work of every selected user. -/
theorem scanned_iff {selected : User → Prop}
    {later : List (Uuid × ScanQueue)}
    (heach : ∀ user, selected user →
      ∃! r, r ∈ batchRows batchId db.queue ∧ OnSubject db user r)
    (honly : ∀ r ∈ batchRows batchId db.queue,
      ∃ user, selected user ∧ Files batchId db user r)
    (hsame : SameWork batchId db.queue later) :
    (∀ r ∈ batchRows batchId later, r.2.status.terminal = true) ↔
      ∀ user, selected user → ∃ r ∈ batchRows batchId later,
        OnSubject db user r ∧ r.2.status.terminal = true := by
  -- a row of either queue has its counterpart, on the same subject
  have hcounterpart : ∀ r ∈ batchRows batchId db.queue,
      ∃ r' ∈ batchRows batchId later, r'.1 = r.1 ∧ workKey r' = workKey r := by
    intro r hr
    have hmem := hsame.symm.subset (List.mem_map_of_mem hr)
    obtain ⟨r', hr', heq⟩ := List.mem_map.mp hmem
    obtain ⟨hid, hwork⟩ := Prod.ext_iff.mp heq
    exact ⟨r', hr', hid, hwork⟩
  have hback : ∀ r' ∈ batchRows batchId later,
      ∃ r ∈ batchRows batchId db.queue, r'.1 = r.1 ∧ workKey r' = workKey r := by
    intro r' hr'
    have hmem := hsame.subset (List.mem_map_of_mem hr')
    obtain ⟨r, hr, heq⟩ := List.mem_map.mp hmem
    obtain ⟨hid, hwork⟩ := Prod.ext_iff.mp heq
    exact ⟨r, hr, hid.symm, hwork.symm⟩
  constructor
  · intro hall user huser
    obtain ⟨r, ⟨hr, subject, hfound, hlink, hid⟩, -⟩ := heach user huser
    obtain ⟨r', hr', -, hwork⟩ := hcounterpart r hr
    refine ⟨r', hr', ⟨subject, hfound, hlink, ?_⟩, hall r' hr'⟩
    rw [← hid]
    exact congrArg Prod.snd hwork
  · intro hall r' hr'
    obtain ⟨r, hr, hid, hwork⟩ := hback r' hr'
    obtain ⟨user, huser, -, -, subject, hfound, hlink, hsubject⟩ := honly r hr
    obtain ⟨r₂, hr₂, ⟨subject₂, hfound₂, -, hsubject₂⟩, hdone⟩ := hall user huser
    rw [hfound, Option.some.injEq] at hfound₂
    subst hfound₂
    -- two rows of the batch on one subject are one row
    obtain ⟨r₃, hr₃, hid₃, hwork₃⟩ := hback r₂ hr₂
    have hsame₃ : r₃ = r := by
      apply onSubject_unique hr₃ hr ⟨subject, hfound, hlink, ?_⟩
        ⟨subject, hfound, hlink, hsubject⟩
      rw [← hsubject₂]
      exact (congrArg Prod.snd hwork₃).symm
    have hids : ((batchRows batchId later).map Prod.fst).Nodup := by
      have hperm := hsame.map Prod.fst
      rw [List.map_map, List.map_map] at hperm
      exact hperm.nodup_iff.mpr (db.queueIds.sublist (List.filter_sublist.map _))
    have hone : r' = r₂ := by
      apply List.inj_on_of_nodup_map hids hr' hr₂
      rw [hid, hid₃, hsame₃]
    rw [hone]
    exact hdone

theorem fileBatch_created (hprovisioned : Provisioned U users)
    (h : fileBatch U decimal actorId targetType target users draws now db =
      .ok db') :
    Created (· ∈ users) draws.batchId db db' := by
  unfold fileBatch at h
  split at h
  · cases h
  · obtain ⟨db₁, hbatch, hloop⟩ := bind_eq_ok.mp h
    obtain ⟨hsubjects, hqueue, hrow, hfresh⟩ := insertBatch_spec hbatch
    have husers : users.zipIdx.map Prod.fst = users := List.zipIdx_map_fst _ _
    have hmem : ∀ x ∈ users.zipIdx, x.1 ∈ users := by
      intro x hx
      rw [← husers]
      exact List.mem_map_of_mem hx
    have hdistinct : (users.zipIdx.map fun x => x.1.email).Nodup := by
      rw [show (fun x : User × ℕ => x.1.email) = User.email ∘ Prod.fst from rfl,
        ← List.map_map, husers]
      exact hprovisioned.distinct
    have hunfiled : Unfiled draws.batchId db₁ (users.zipIdx.map Prod.fst) := by
      intro r hr hbatch
      rw [hqueue] at hr
      exact absurd hbatch (hfresh r hr)
    obtain ⟨hbatches, hothers, rows, hrows, hfiles⟩ := fileUsers_spec
      (fun x hx => hprovisioned.folded x.1 (hmem x hx))
      (fun x hx => hprovisioned.unpadded x.1 (hmem x hx)) hdistinct hunfiled hloop
    rw [husers] at hothers hfiles
    obtain ⟨hforth, hback⟩ := exists_files_of_mem hfiles
    have hown : batchRows draws.batchId db'.queue = rows := by
      rw [hrows, hqueue]
      apply batchRows_append hfresh
      intro r hr
      obtain ⟨user, -, hfiled⟩ := hback r hr
      exact hfiled.1
    have heach : ∀ user, user ∈ users →
        ∃! r, r ∈ batchRows draws.batchId db'.queue ∧ OnSubject db' user r := by
      intro user huser
      obtain ⟨r, hr, hfiled⟩ := hforth user huser
      rw [← hown] at hr
      refine ⟨r, ⟨hr, hfiled.2.2⟩, ?_⟩
      rintro r' ⟨hr', hon⟩
      exact onSubject_unique hr' hr hon hfiled.2.2
    have honly : ∀ r ∈ batchRows draws.batchId db'.queue,
        ∃ user, user ∈ users ∧ Files draws.batchId db' user r := by
      intro r hr
      rw [hown] at hr
      exact hback r hr
    have htotal : users.length = (batchRows draws.batchId db'.queue).length := by
      rw [hown]
      exact hfiles.length_eq
    have hfound : db'.batches.find draws.batchId = some
        ⟨newBatch users.length now, draws.batchId, targetType,
          targetJson U decimal targetType target, actorId⟩ := by
      rw [hbatches]
      exact hrow
    refine ⟨heach, honly, ⟨_, hfound, htotal⟩, ?_, ?_, ?_⟩
    · rw [hown, hrows, hqueue]
    · intro k hk
      rw [hothers k hk, hsubjects]
    · intro row later hlater hsame
      rw [hfound, Option.some.injEq] at hlater
      subst hlater
      show _ = users.length ↔ _
      rw [htotal, finished_eq_length_iff hsame]
      exact scanned_iff heach honly hsame

theorem Provisioned.selected {p : User → Bool} (h : Provisioned U table)
    (hperm : users.Perm (table.filter p)) : Provisioned U users := by
  have hmem : ∀ user ∈ users, user ∈ table := by
    intro user huser
    exact (List.mem_filter.mp (hperm.subset huser)).1
  refine ⟨?_, fun user huser => h.folded user (hmem user huser),
    fun user huser => h.unpadded user (hmem user huser)⟩
  apply (hperm.map User.email).nodup_iff.mpr
  exact h.distinct.sublist (List.filter_sublist.map _)

/-- **Creating a batch.** It raises and adds nothing, or it queues one row for
each selected user, on the user's own subject, and counts these rows; the
counts of the batch reach its total just when all these users are scanned. -/
theorem createBatch_files (hprovisioned : Provisioned U table)
    (actorId : Uuid) (targetType : BatchTarget) (target : TargetValue)
    (draws : Draws) (now : Timestamp) (db : QueueTables) :
    (∃ e, createBatch U decimal citext emailLe table actorId targetType target
        draws now db = .error e ∧
      afterCreateBatch U decimal citext emailLe table actorId targetType target
        draws now db = db) ∨
    ∃ p db', targeted (textTables U decimal) citext targetType target = .ok p ∧
      createBatch U decimal citext emailLe table actorId targetType target
        draws now db = .ok db' ∧
      afterCreateBatch U decimal citext emailLe table actorId targetType target
        draws now db = db' ∧
      Created (fun user => user ∈ table ∧ user.isActive = true ∧ p user = true)
        draws.batchId db db' := by
  unfold afterCreateBatch
  cases hcreate : createBatch U decimal citext emailLe table actorId targetType
      target draws now db with
  | error e => exact .inl ⟨e, rfl, rfl⟩
  | ok db' =>
      right
      obtain ⟨users, husers, hrest⟩ := bind_eq_ok.mp hcreate
      obtain ⟨p, hp, hsorted⟩ := bind_eq_ok.mp husers
      rw [Except.ok.injEq] at hsorted
      have hperm : users.Perm
          (table.filter fun user => user.isActive && p user) := by
        rw [← hsorted]
        exact List.perm_insertionSort _ _
      refine ⟨p, db', hp, rfl, rfl, ?_⟩
      have hfile : fileBatch U decimal actorId targetType target users draws now
          db = .ok db' := by
        split at hrest
        · cases hrest
        · split at hrest
          · cases hrest
          · split at hrest
            · cases hrest
            · exact mapError_eq_ok.mp hrest
      have hselected : (fun user => user ∈ table ∧ user.isActive = true ∧
          p user = true) = (· ∈ users) := by
        funext user
        rw [hperm.mem_iff, List.mem_filter, Bool.and_eq_true]
      rw [hselected]
      exact fileBatch_created (hprovisioned.selected hperm) hfile

end Law

/-- Ana and Bea, who is in a unit below that of Ana. -/
def sampleTable : List User :=
  [{ Outbox.sampleUser with ouPath := some (PyStr.lit "/SOC") },
    { Outbox.sampleUser with
      id := 2
      email := PyStr.lit "bea@corp.example"
      ouPath := some (PyStr.lit "/SOC/Night") }]

def sampleDraws : Draws := ⟨9, fun n => BitVec.ofNat 128 (20 + n),
  fun n => BitVec.ofNat 128 (40 + n)⟩

theorem provisioned_sampleTable : Provisioned asciiData sampleTable :=
  ⟨by decide, by decide, by decide⟩

/-- The subject of Ana's address is that of user 7, and an earlier batch has a
row for it. -/
def earlierBatch : QueueTables where
  subjects := ⟨[⟨⟨60, .email, PyStr.lit "ana@corp.example"⟩,
    PyStr.lit "ana@corp.example", some 7⟩], List.nodup_singleton _⟩
  batches := ⟨[⟨newBatch 1 0, 8, .selection,
    .obj [(PyStr.lit "user_ids", .arr [])], 7⟩], List.nodup_singleton _⟩
  queue := [(30, newQueueRow 8 60 0)]
  subjectIds := List.nodup_singleton _
  queueIds := List.nodup_singleton _
  work := List.nodup_singleton _
  owned := by decide

theorem createBatch_files_soc :
    ∃ p db', targeted (textTables asciiData fun _ => none) PyStr.asciiLower .ou
        (.text (PyStr.lit "/SOC")) = .ok p ∧
      createBatch asciiData (fun _ => none) PyStr.asciiLower (fun _ _ => true)
        sampleTable 1 .ou (.text (PyStr.lit "/SOC")) sampleDraws 0
          earlierBatch = .ok db' ∧
      db'.subjects.rows.map (fun r => (r.id, r.linkedUserId)) =
        [(60, some 1), (21, some 2)] ∧
      db'.queue.map workKey = [(8, 60), (9, 60), (9, 21)] ∧
      Created (fun user => user ∈ sampleTable ∧ user.isActive = true ∧
        p user = true) 9 earlierBatch db' := by
  have hrun : (createBatch asciiData (fun _ => none) PyStr.asciiLower
      (fun _ _ => true) sampleTable 1 .ou (.text (PyStr.lit "/SOC"))
      sampleDraws 0 earlierBatch).toOption.map (fun db' =>
        (db'.subjects.rows.map fun r => (r.id, r.linkedUserId),
          db'.queue.map workKey)) =
      some ([(60, some 1), (21, some 2)], [(8, 60), (9, 60), (9, 21)]) := by
    decide +kernel
  rcases createBatch_files (U := asciiData) provisioned_sampleTable 1 .ou
    (.text (PyStr.lit "/SOC")) sampleDraws 0 earlierBatch with
    ⟨e, herror, -⟩ | ⟨p, db', hp, hok, -, hcreated⟩
  · rw [herror] at hrun
    cases hrun
  · rw [hok] at hrun
    obtain ⟨hsubjects, hqueue⟩ := Prod.ext_iff.mp (Option.some.inj hrun)
    exact ⟨p, db', hp, hok, hsubjects, hqueue, hcreated⟩

end LeakcheckHub.Batches
