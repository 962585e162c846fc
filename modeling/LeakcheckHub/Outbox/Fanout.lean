import LeakcheckHub.Foundation.Calls
import LeakcheckHub.Findings.Store

/-!
# Fan-out after a scan

`enqueue_new_findings` and `enqueue_notification` of `app/notifications.py`,
`fanout_watchlisted_findings` and `enqueue_alert` of `app/alerts.py`, as the
statements they send.
-/

namespace LeakcheckHub.Outbox

open Foundation Findings

/-! ## Rows -/

structure Outboxes where
  notifications : List Notification
  alerts : List AlertOutbox
deriving DecidableEq, Repr

/-- A subject with the columns the scan and the fan-out read. -/
structure ScannedSubject extends Subject where
  linkedUserId : Option Uuid
  firstScannedAt : Option Timestamp
  lastScannedAt : Option Timestamp
deriving DecidableEq, Repr

/-- What the fan-out meets: `faults` raises in a statement, `newId` is the
`uuid.uuid4()` made for it, `now` is `func.now()`. -/
structure Statements where
  faults : ℕ → Option PyException
  newId : ℕ → Uuid
  now : Timestamp

def integrityError : PyException := ⟨PyStr.lit "IntegrityError", []⟩

/-- `str.encode("ascii")`. -/
def encodeAscii (s : PyStr) : Except PyException Bytes :=
  if s.isAscii then .ok (s.map fun c => UInt8.ofNat c.val)
  else .error ⟨PyStr.lit "UnicodeEncodeError", []⟩

/-- A statement that leaves the rows as they are. -/
def select {σ α : Type} (faults : ℕ → Option PyException) (a : α) :
    Counted σ → Except PyException (Counted σ × α) :=
  call faults fun s => .ok (s, a)

/-! ## Notifications -/

/-- `_TEMPLATE`. -/
def newFindingsTemplate : PyStr := PyStr.lit "new_findings"

def textLt : PyStr → PyStr → Bool
  | _, [] => false
  | [], _ :: _ => true
  | x :: xs, y :: ys => decide (x < y) || (x == y && textLt xs ys)

def insertText (s : PyStr) : List PyStr → List PyStr
  | [] => [s]
  | t :: ts =>
      if s = t then t :: ts
      else if textLt s t then s :: t :: ts
      else t :: insertText s ts

/-- `sorted({str(item) for item in finding_ids})`. -/
def sortedIds (findingIds : List Uuid) : List PyStr :=
  (findingIds.map Uuid.str).foldr insertText []

/-- `_dedupe_key` of `app/notifications.py`. -/
def notificationKey (env : Env) (userId : Uuid) (template : PyStr)
    (ids : List PyStr) : Except PyException Bytes := do
  let template ← encodeAscii template
  let ids ← ids.mapM encodeAscii
  .ok (env.sha256 (PyStr.asciiLit "leakcheck/notification/v1" ++ [0] ++
    userId.bytes ++ template ++ ids.flatten))

/-- `INSERT … ON CONFLICT (dedupe_key) DO NOTHING`. -/
def insertNotification (row : Notification) (o : Outboxes) :
    Except PyException (Outboxes × Unit) :=
  if row.dedupeKey.length ≠ 32 then .error integrityError
  else if o.notifications.any fun n => n.dedupeKey == row.dedupeKey then
    .ok (o, ())
  else if o.notifications.any fun n => n.id == row.id then
    .error integrityError
  else .ok ({ o with notifications := o.notifications ++ [row] }, ())

def enqueueNotification (env : Env) (st : Statements) (userId : Uuid)
    (findingIds : List Uuid) (template : PyStr) (c : Counted Outboxes) :
    Except PyException (Counted Outboxes) :=
  let ids := sortedIds findingIds
  if ids.isEmpty then .ok c
  else do
    let key ← notificationKey env userId template ids
    let (c, _) ← call st.faults (insertNotification
      { id := st.newId c.calls
        userId := userId
        template := template
        findingIds := ids
        status := .pending
        dedupeKey := key
        attempts := 0
        error := none
        createdAt := st.now
        sentAt := none }) c
    .ok c

def enqueueNewFindings (env : Env) (st : Statements)
    (subject : ScannedSubject) (findingIds : List Uuid)
    (c : Counted Outboxes) : Except PyException (Counted Outboxes) :=
  match subject.linkedUserId with
  | some userId =>
      if findingIds.isEmpty then .ok c
      else enqueueNotification env st userId findingIds newFindingsTemplate c
  | none => .ok c

/-! ## Alerts -/

def sinkValue : AlertSinkName → PyStr
  | .wazuh => PyStr.lit "wazuh"
  | .dfirIris => PyStr.lit "dfir_iris"

def eventValue : AlertEvent → PyStr
  | .newFinding => PyStr.lit "new_finding"
  | .reLeaked => PyStr.lit "re_leaked"

/-- `_dedupe_key` of `app/alerts.py`. -/
def alertKey (env : Env) (sink : AlertSinkName) (scope : PyStr) :
    Except PyException Bytes := do
  let value ← encodeAscii (sinkValue sink)
  let scope ← encodeAscii scope
  .ok (env.sha256 (PyStr.asciiLit "leakcheck/alert-outbox/v1" ++ [0] ++
    value ++ [0] ++ scope))

def insertAlert (row : AlertOutbox) (o : Outboxes) :
    Except PyException (Outboxes × Unit) :=
  if row.dedupeKey.length ≠ 32 then .error integrityError
  else if o.alerts.any fun a => a.dedupeKey == row.dedupeKey then .ok (o, ())
  else if o.alerts.any fun a => a.id == row.id then .error integrityError
  else .ok ({ o with alerts := o.alerts ++ [row] }, ())

def enqueueAlert (env : Env) (st : Statements) (sink : AlertSinkName)
    (payload : AlertPayload) (dedupeScope : PyStr) (c : Counted Outboxes) :
    Except PyException (Counted Outboxes) := do
  let key ← alertKey env sink dedupeScope
  let (c, _) ← call st.faults (insertAlert
    { id := st.newId c.calls
      sink := sink
      payload := payload
      status := .pending
      dedupeKey := key
      attempts := 0
      nextAttemptAt := st.now
      lastError := none
      createdAt := st.now
      deliveredAt := none }) c
  .ok c

/-- What asyncpg raises for a statement with too many parameters. -/
def interfaceError : PyException := ⟨PyStr.lit "InterfaceError", []⟩

/-- `select(Finding).where(Finding.id.in_(finding_ids))`, which binds one
parameter an id. -/
def selectFindings (st : Statements) (stored : List Finding)
    (findingIds : List Uuid) :
    Counted Outboxes → Except PyException (Counted Outboxes × List Finding) :=
  call st.faults fun o =>
    if bindLimit < findingIds.length then .error interfaceError
    else .ok (o, stored.filter fun f => decide (f.id ∈ findingIds))

/-- The `WHERE` of the watchlist select. -/
def watches (subject : ScannedSubject) (entry : WatchlistEntry) : Bool :=
  entry.enabled &&
    (entry.subjectId == some subject.id ||
      (subject.linkedUserId.isSome && entry.userId == subject.linkedUserId))

def alertPayload (subject : ScannedSubject) (finding : Finding) :
    AlertPayload where
  event := if finding.severity = .high then .reLeaked else .newFinding
  findingId := finding.id
  subjectId := subject.id
  subjectKind := subject.kind
  subjectValue := subject.valueNorm
  observedAt := finding.lastSeenAt

/-- `f"{finding.id}:{event}"`. -/
def alertScope (payload : AlertPayload) : PyStr :=
  payload.findingId.str ++ PyStr.lit ":" ++ eventValue payload.event

/-- The sinks some entry has switched on. -/
def enabledSinks (entries : List WatchlistEntry) : List AlertSinkName :=
  (if entries.any WatchlistEntry.alertWazuh then [.wazuh] else []) ++
    (if entries.any WatchlistEntry.alertIris then [.dfirIris] else [])

/-- The loop over findings and sinks, with the number of alerts queued. -/
def alertFindings (env : Env) (st : Statements) (subject : ScannedSubject)
    (sinks : List AlertSinkName) (findings : List Finding)
    (c : Counted Outboxes) : Except PyException (Counted Outboxes × ℕ) :=
  findings.foldlM (fun acc finding =>
    let payload := alertPayload subject finding
    sinks.foldlM (fun acc sink => do
      let c ← enqueueAlert env st sink payload (alertScope payload) acc.1
      .ok (c, acc.2 + 1)) acc) (c, 0)

def fanoutWatchlistedFindings (env : Env) (st : Statements)
    (watchlist : List WatchlistEntry) (stored : List Finding)
    (subject : ScannedSubject) (findingIds : List Uuid)
    (c : Counted Outboxes) : Except PyException (Counted Outboxes × ℕ) :=
  if findingIds.isEmpty then .ok (c, 0)
  else do
    let (c, entries) ← select st.faults (watchlist.filter (watches subject)) c
    if entries.isEmpty then .ok (c, 0)
    else do
      let (c, findings) ← selectFindings st stored findingIds c
      let (c, queued) ←
        alertFindings env st subject (enabledSinks entries) findings c
      match subject.linkedUserId with
      | some userId =>
          if entries.any WatchlistEntry.alertUser then do
            let c ← enqueueNotification env st userId findingIds
              newFindingsTemplate c
            .ok (c, queued)
          else .ok (c, queued)
      | none => .ok (c, queued)

/-- The body of the savepoint in `execute_scan`. -/
def fanOut (env : Env) (st : Statements) (watchlist : List WatchlistEntry)
    (stored : List Finding) (subject : ScannedSubject)
    (findingIds : List Uuid) (o : Outboxes) :
    Except PyException Outboxes := do
  let c ← enqueueNewFindings env st subject findingIds ⟨0, o⟩
  let (c, _) ← fanoutWatchlistedFindings env st watchlist stored subject
    findingIds c
  .ok c.state

/-! ## What the fan-out queues -/

/-- Rows are added behind those that are there. -/
structure Queues (o o' : Outboxes) : Prop where
  notifications : o.notifications <+: o'.notifications
  alerts : o.alerts <+: o'.alerts

theorem Queues.refl (o : Outboxes) : Queues o o :=
  ⟨List.prefix_rfl, List.prefix_rfl⟩

theorem Queues.trans {o o' o'' : Outboxes} (h : Queues o o')
    (h' : Queues o' o'') : Queues o o'' :=
  ⟨h.notifications.trans h'.notifications, h.alerts.trans h'.alerts⟩

variable {env : Env} {st : Statements} {c c' : Counted Outboxes}

theorem insertNotification_queues {row : Notification} {o o' : Outboxes}
    (h : insertNotification row o = .ok (o', ())) : Queues o o' := by
  unfold insertNotification at h
  split at h
  · cases h
  · split at h
    · cases h
      exact .refl o
    · split at h
      · cases h
      · cases h
        exact ⟨List.prefix_append _ _, List.prefix_rfl⟩

theorem insertAlert_queues {row : AlertOutbox} {o o' : Outboxes}
    (h : insertAlert row o = .ok (o', ())) : Queues o o' := by
  unfold insertAlert at h
  split at h
  · cases h
  · split at h
    · cases h
      exact .refl o
    · split at h
      · cases h
      · cases h
        exact ⟨List.prefix_rfl, List.prefix_append _ _⟩

theorem enqueueNotification_queues {userId : Uuid} {findingIds : List Uuid}
    {template : PyStr}
    (h : enqueueNotification env st userId findingIds template c = .ok c') :
    Queues c.state c'.state := by
  unfold enqueueNotification at h
  simp only at h
  split at h
  · cases h
    exact .refl _
  · obtain ⟨key, -, h⟩ := bind_eq_ok.mp h
    obtain ⟨⟨c₁, u⟩, hcall, h⟩ := bind_eq_ok.mp h
    cases h
    obtain ⟨-, -, hins⟩ := call_eq_ok.mp hcall
    exact insertNotification_queues hins

theorem enqueueAlert_queues {sink : AlertSinkName} {payload : AlertPayload}
    {scope : PyStr} (h : enqueueAlert env st sink payload scope c = .ok c') :
    Queues c.state c'.state := by
  obtain ⟨key, -, h⟩ := bind_eq_ok.mp h
  obtain ⟨⟨c₁, u⟩, hcall, h⟩ := bind_eq_ok.mp h
  cases h
  obtain ⟨-, -, hins⟩ := call_eq_ok.mp hcall
  exact insertAlert_queues hins

theorem enqueueNewFindings_queues {subject : ScannedSubject}
    {findingIds : List Uuid}
    (h : enqueueNewFindings env st subject findingIds c = .ok c') :
    Queues c.state c'.state := by
  unfold enqueueNewFindings at h
  split at h
  · split at h
    · cases h
      exact .refl _
    · exact enqueueNotification_queues h
  · cases h
    exact .refl _

/-- Each alert of the loop is added behind the ones before it. -/
theorem alertFindings_queues {subject : ScannedSubject}
    {sinks : List AlertSinkName} {findings : List Finding} {queued : ℕ}
    (h : alertFindings env st subject sinks findings c = .ok (c', queued)) :
    Queues c.state c'.state := by
  -- the invariant of both loops, over the findings and over the sinks
  have houter := foldlM_invariant
    (I := fun acc : Counted Outboxes × ℕ => Queues c.state acc.1.state) h ?_
    (.refl _)
  · exact houter
  · intro finding _ acc acc' hacc hinner
    refine foldlM_invariant
      (I := fun acc : Counted Outboxes × ℕ => Queues c.state acc.1.state)
      hinner ?_ hacc
    intro sink _ acc acc' hacc hone
    obtain ⟨c₁, halert, hone⟩ := bind_eq_ok.mp hone
    cases hone
    exact hacc.trans (enqueueAlert_queues halert)

theorem select_state {α : Type} {a a' : α}
    (h : select st.faults a c = .ok (c', a')) : c'.state = c.state := by
  obtain ⟨-, -, h⟩ := call_eq_ok.mp h
  rw [Except.ok.injEq, Prod.mk.injEq] at h
  exact h.1.symm

theorem selectFindings_eq_ok {stored findings : List Finding}
    {findingIds : List Uuid}
    (h : selectFindings st stored findingIds c = .ok (c', findings)) :
    c'.state = c.state ∧
      findings = stored.filter fun f => decide (f.id ∈ findingIds) := by
  obtain ⟨-, -, h⟩ := call_eq_ok.mp h
  split at h
  · cases h
  · rw [Except.ok.injEq, Prod.mk.injEq] at h
    exact ⟨h.1.symm, h.2.symm⟩

theorem fanoutWatchlistedFindings_queues {watchlist : List WatchlistEntry}
    {stored : List Finding} {subject : ScannedSubject}
    {findingIds : List Uuid} {queued : ℕ}
    (h : fanoutWatchlistedFindings env st watchlist stored subject findingIds
      c = .ok (c', queued)) : Queues c.state c'.state := by
  unfold fanoutWatchlistedFindings at h
  split at h
  · cases h
    exact .refl _
  · obtain ⟨⟨c₁, entries⟩, h₁, h⟩ := bind_eq_ok.mp h
    have h₁ := select_state h₁
    simp only at h
    split at h
    · cases h
      exact h₁ ▸ .refl _
    · obtain ⟨⟨c₂, findings⟩, h₂, h⟩ := bind_eq_ok.mp h
      have h₂ := (selectFindings_eq_ok h₂).1
      obtain ⟨⟨c₃, n⟩, h₃, h⟩ := bind_eq_ok.mp h
      have hqueued : Queues c.state c₃.state := by
        have hloop := alertFindings_queues h₃
        rw [h₂, h₁] at hloop
        exact hloop
      simp only at h
      split at h
      · split at h
        · obtain ⟨c₄, h₄, h⟩ := bind_eq_ok.mp h
          cases h
          exact hqueued.trans (enqueueNotification_queues h₄)
        · cases h
          exact hqueued
      · cases h
        exact hqueued

/-- A fan-out that gets through adds rows to the outboxes and changes none. -/
theorem fanOut_queues {watchlist : List WatchlistEntry}
    {stored : List Finding} {subject : ScannedSubject}
    {findingIds : List Uuid} {o o' : Outboxes}
    (h : fanOut env st watchlist stored subject findingIds o = .ok o') :
    Queues o o' := by
  obtain ⟨c₁, h₁, h⟩ := bind_eq_ok.mp h
  obtain ⟨⟨c₂, n⟩, h₂, h⟩ := bind_eq_ok.mp h
  cases h
  exact (enqueueNewFindings_queues h₁).trans
    (fanoutWatchlistedFindings_queues h₂)

end LeakcheckHub.Outbox
