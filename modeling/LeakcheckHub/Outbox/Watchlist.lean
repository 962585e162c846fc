import LeakcheckHub.Outbox.DedupeKeys
import Mathlib.Data.List.ProdSigma

/-!
# Watchlist fan-out

What `fanout_watchlisted_findings` of `app/alerts.py` leaves in the outboxes,
alone, repeated and next to `enqueue_new_findings` of `app/notifications.py`.

§1 switches · §2 keys · §3 one row · §4 the loop of alerts · §5 one call ·
§6 further calls · §7 the law.
-/

namespace LeakcheckHub.Outbox

open Foundation Findings

/-! ## §1  Switches -/

/-- The entry is for the subject or for its linked user. -/
def Targets (subject : ScannedSubject) (entry : WatchlistEntry) : Prop :=
  entry.subjectId = some subject.id ∨
    ∃ userId, subject.linkedUserId = some userId ∧ entry.userId = some userId

/-- Some enabled entry for the subject or its user has the switch on. -/
def Wanted (watchlist : List WatchlistEntry) (subject : ScannedSubject)
    (switch : WatchlistEntry → Bool) : Prop :=
  ∃ entry ∈ watchlist, entry.enabled = true ∧ Targets subject entry ∧
    switch entry = true

def sinkSwitch : AlertSinkName → WatchlistEntry → Bool
  | .wazuh => WatchlistEntry.alertWazuh
  | .dfirIris => WatchlistEntry.alertIris

section Switches

variable {watchlist : List WatchlistEntry} {subject : ScannedSubject}
  {switch : WatchlistEntry → Bool} {sink : AlertSinkName}

theorem watches_iff {entry : WatchlistEntry} :
    watches subject entry = true ↔
      entry.enabled = true ∧ Targets subject entry := by
  unfold watches Targets
  rw [Bool.and_eq_true, Bool.or_eq_true, Bool.and_eq_true, beq_iff_eq, beq_iff_eq]
  refine and_congr_right fun _ => or_congr_right ?_
  constructor
  · rintro ⟨hlinked, hsame⟩
    obtain ⟨userId, huser⟩ := Option.isSome_iff_exists.mp hlinked
    exact ⟨userId, huser, hsame.trans huser⟩
  · rintro ⟨userId, huser, hsame⟩
    rw [huser]
    exact ⟨rfl, hsame⟩

theorem any_watches : (watchlist.filter (watches subject)).any switch = true ↔
    Wanted watchlist subject switch := by
  unfold Wanted
  rw [List.any_eq_true]
  refine exists_congr fun entry => ?_
  rw [List.mem_filter, watches_iff, and_assoc, and_assoc]

instance : Decidable (Wanted watchlist subject switch) :=
  decidable_of_iff _ any_watches

theorem mem_enabledSinks : sink ∈ enabledSinks (watchlist.filter (watches subject)) ↔
    Wanted watchlist subject (sinkSwitch sink) := by
  rw [← any_watches]
  unfold enabledSinks
  rw [List.mem_append]
  cases sink
  · show _ ↔ (watchlist.filter (watches subject)).any WatchlistEntry.alertWazuh =
      true
    split <;> split <;> simp_all
  · show _ ↔ (watchlist.filter (watches subject)).any WatchlistEntry.alertIris =
      true
    split <;> split <;> simp_all

theorem nodup_enabledSinks (entries : List WatchlistEntry) :
    (enabledSinks entries).Nodup := by
  unfold enabledSinks
  split <;> split <;> decide

end Switches

/-! ## §2  Keys -/

theorem alertScope_isAscii (payload : AlertPayload) :
    (alertScope payload).isAscii = true := by
  have hid : payload.findingId.str.all (fun c => decide (c.val < 128)) = true :=
    payload.findingId.str_isAscii
  unfold alertScope PyStr.isAscii
  rw [List.all_append, List.all_append, hid]
  cases payload.event <;> decide

/-- The key of the alert for a finding. -/
def findingAlertKey (env : Env) (subject : ScannedSubject)
    (p : Finding × AlertSinkName) : Bytes :=
  env.sha256 (alertMessage p.2 (alertScope (alertPayload subject p.1)))

/-- The key of the notification for these findings. -/
def newFindingsKey (env : Env) (userId : Uuid) (findingIds : List Uuid) : Bytes :=
  env.sha256 (notificationMessage userId newFindingsTemplate findingIds)

theorem newFindingsTemplate_isTemplate : IsTemplate newFindingsTemplate := .inl rfl

/-! ## §3  One row -/

section Rows

variable {env : Env} {st : Statements} {c c' : Counted Outboxes}
  {subject : ScannedSubject} {p : Finding × AlertSinkName} {userId : Uuid}
  {template : PyStr} {ids : List Uuid}

/-- The row that an alert adds. -/
def alertRow (env : Env) (st : Statements) (subject : ScannedSubject)
    (calls : ℕ) (p : Finding × AlertSinkName) : AlertOutbox where
  id := st.newId calls
  sink := p.2
  payload := alertPayload subject p.1
  status := .pending
  dedupeKey := findingAlertKey env subject p
  attempts := 0
  nextAttemptAt := st.now
  lastError := none
  createdAt := st.now
  deliveredAt := none

/-- The row that a notification adds. -/
def notificationRow (env : Env) (st : Statements) (userId : Uuid)
    (template : PyStr) (ids : List Uuid) (calls : ℕ) : Notification where
  id := st.newId calls
  userId := userId
  template := template
  findingIds := sortedIds ids
  status := .pending
  dedupeKey := env.sha256 (notificationMessage userId template ids)
  attempts := 0
  error := none
  createdAt := st.now
  sentAt := none

/-- One iteration of the loop of alerts, as the statement that it sends. -/
theorem enqueueAlert_eq :
    enqueueAlert env st p.2 (alertPayload subject p.1)
        (alertScope (alertPayload subject p.1)) c =
      (call st.faults (insertAlert (alertRow env st subject c.calls p)) c).map
        Prod.fst := by
  unfold enqueueAlert
  rw [alertKey_eq env p.2 (alertScope_isAscii _)]
  show (call st.faults (insertAlert (alertRow env st subject c.calls p)) c >>=
    fun x => Except.ok x.1) = _
  cases call st.faults (insertAlert (alertRow env st subject c.calls p)) c <;> rfl

theorem enqueueNotification_eq (htemplate : IsTemplate template)
    (hids : ids ≠ []) :
    enqueueNotification env st userId ids template c =
      (call st.faults (insertNotification
        (notificationRow env st userId template ids c.calls)) c).map Prod.fst := by
  have hne : (sortedIds ids).isEmpty = false :=
    List.isEmpty_eq_false_iff.mpr (sortedIds_ne_nil hids)
  unfold enqueueNotification
  simp only [hne]
  rw [notificationKey_eq env userId ids htemplate.isAscii]
  show (call st.faults (insertNotification
    (notificationRow env st userId template ids c.calls)) c >>=
      fun x => Except.ok x.1) = _
  cases call st.faults (insertNotification
    (notificationRow env st userId template ids c.calls)) c <;> rfl

/-- A statement that meets no fault. -/
theorem call_ok {σ α : Type} {faults : ℕ → Option PyException}
    {f : σ → Except PyException (σ × α)} {c : Counted σ} {s : σ} {a : α}
    (hfaults : faults c.calls = none) (hf : f c.state = .ok (s, a)) :
    call faults f c = .ok (⟨c.calls + 1, s⟩, a) :=
  call_eq_ok.mpr ⟨hfaults, rfl, hf⟩

theorem insertAlert_new {row : AlertOutbox} {o : Outboxes}
    (hlength : row.dedupeKey.length = 32)
    (hkey : ∀ a ∈ o.alerts, a.dedupeKey ≠ row.dedupeKey)
    (hid : ∀ a ∈ o.alerts, a.id ≠ row.id) :
    insertAlert row o = .ok ({ o with alerts := o.alerts ++ [row] }, ()) := by
  have hnokey : (o.alerts.any fun a => a.dedupeKey == row.dedupeKey) = false := by
    rw [List.any_eq_false]
    intro a ha
    simpa using hkey a ha
  have hnoid : (o.alerts.any fun a => a.id == row.id) = false := by
    rw [List.any_eq_false]
    intro a ha
    simpa using hid a ha
  unfold insertAlert
  simp [hlength, hnokey, hnoid]

theorem insertAlert_known {row : AlertOutbox} {o : Outboxes}
    (hkey : ∃ a ∈ o.alerts, a.dedupeKey = row.dedupeKey) {x : Outboxes × Unit}
    (h : insertAlert row o = .ok x) : x = (o, ()) := by
  have hany : (o.alerts.any fun a => a.dedupeKey == row.dedupeKey) = true := by
    obtain ⟨a, ha, heq⟩ := hkey
    exact List.any_eq_true.mpr ⟨a, ha, beq_iff_eq.mpr heq⟩
  unfold insertAlert at h
  split at h
  · cases h
  · cases h
    rfl

theorem insertNotification_new {row : Notification} {o : Outboxes}
    (hlength : row.dedupeKey.length = 32)
    (hkey : ∀ n ∈ o.notifications, n.dedupeKey ≠ row.dedupeKey)
    (hid : ∀ n ∈ o.notifications, n.id ≠ row.id) :
    insertNotification row o =
      .ok ({ o with notifications := o.notifications ++ [row] }, ()) := by
  have hnokey : (o.notifications.any fun n => n.dedupeKey == row.dedupeKey) =
      false := by
    rw [List.any_eq_false]
    intro n hn
    simpa using hkey n hn
  have hnoid : (o.notifications.any fun n => n.id == row.id) = false := by
    rw [List.any_eq_false]
    intro n hn
    simpa using hid n hn
  unfold insertNotification
  simp [hlength, hnokey, hnoid]

theorem insertNotification_known {row : Notification} {o : Outboxes}
    (hkey : ∃ n ∈ o.notifications, n.dedupeKey = row.dedupeKey)
    {x : Outboxes × Unit} (h : insertNotification row o = .ok x) : x = (o, ()) := by
  have hany : (o.notifications.any fun n => n.dedupeKey == row.dedupeKey) =
      true := by
    obtain ⟨n, hn, heq⟩ := hkey
    exact List.any_eq_true.mpr ⟨n, hn, beq_iff_eq.mpr heq⟩
  unfold insertNotification at h
  split at h
  · cases h
  · cases h
    rfl

end Rows

/-! ## §4  The loop of alerts -/

section Loop

variable {env : Env} {st : Statements} {c c' : Counted Outboxes}
  {subject : ScannedSubject} {sinks : List AlertSinkName}
  {findings : List Finding} {pairs : List (Finding × AlertSinkName)} {n n' : ℕ}

/-- The loop's iterations, findings before sinks. -/
def alertPairs (sinks : List AlertSinkName) (findings : List Finding) :
    List (Finding × AlertSinkName) :=
  findings.flatMap fun finding => sinks.map fun sink => (finding, sink)

/-- The body of the inner loop. -/
def queueAlert (env : Env) (st : Statements) (subject : ScannedSubject)
    (acc : Counted Outboxes × ℕ) (p : Finding × AlertSinkName) :
    Except PyException (Counted Outboxes × ℕ) := do
  let (c, _) ← call st.faults (insertAlert
    (alertRow env st subject acc.1.calls p)) acc.1
  .ok (c, acc.2 + 1)

theorem alertFindings_eq : alertFindings env st subject sinks findings c =
    (alertPairs sinks findings).foldlM (queueAlert env st subject) (c, 0) := by
  have hbody : ∀ (acc : Counted Outboxes × ℕ) (p : Finding × AlertSinkName),
      (do
        let c ← enqueueAlert env st p.2 (alertPayload subject p.1)
          (alertScope (alertPayload subject p.1)) acc.1
        Except.ok (c, acc.2 + 1)) = queueAlert env st subject acc p := by
    intro acc p
    rw [enqueueAlert_eq]
    unfold queueAlert
    cases call st.faults (insertAlert (alertRow env st subject acc.1.calls p))
      acc.1 <;> rfl
  unfold alertFindings alertPairs
  generalize (c, 0) = acc
  induction findings generalizing acc with
  | nil => rfl
  | cons finding rest ih =>
      rw [List.foldlM_cons, List.flatMap_cons, List.foldlM_append,
        List.foldlM_map]
      have hinner : sinks.foldlM (fun acc sink => do
            let c ← enqueueAlert env st sink (alertPayload subject finding)
              (alertScope (alertPayload subject finding)) acc.1
            Except.ok (c, acc.2 + 1)) acc =
          sinks.foldlM (fun acc sink =>
            queueAlert env st subject acc (finding, sink)) acc := by
        congr 1
        funext acc sink
        exact hbody acc (finding, sink)
      dsimp only
      rw [hinner]
      congr 1
      funext acc'
      exact ih acc'

/-- Statements that meet no fault, of which the first `calls` make new and
different ids. -/
structure Statements.Fresh (st : Statements) (o : Outboxes) (calls : ℕ) :
    Prop where
  faults : ∀ i, st.faults i = none
  distinct : Set.InjOn st.newId (Set.Iio calls)
  alerts : ∀ a ∈ o.alerts, ∀ i, a.id ≠ st.newId i
  notifications : ∀ n ∈ o.notifications, ∀ i, n.id ≠ st.newId i

/-- Alerts whose keys are new and distinct get a row each. By induction on the
iterations; the rows so far have the ids of the calls so far. -/
theorem queueAlerts_new (hlength : ∀ m, (env.sha256 m).length = 32)
    (hfaults : ∀ i, st.faults i = none)
    (hdistinct : Set.InjOn st.newId (Set.Iio (c.calls + pairs.length)))
    (hids : ∀ a ∈ c.state.alerts, ∀ i, c.calls ≤ i →
      i < c.calls + pairs.length → a.id ≠ st.newId i)
    (hkeys : (pairs.map (findingAlertKey env subject)).Nodup)
    (hnew : ∀ p ∈ pairs, ∀ a ∈ c.state.alerts,
      a.dedupeKey ≠ findingAlertKey env subject p) :
    ∃ rows, pairs.foldlM (queueAlert env st subject) (c, n) =
        .ok (⟨c.calls + pairs.length,
          { c.state with alerts := c.state.alerts ++ rows }⟩, n + pairs.length) ∧
      rows.map (fun a => (a.payload, a.sink)) =
        pairs.map (fun p => (alertPayload subject p.1, p.2)) ∧
      rows.map AlertOutbox.dedupeKey = pairs.map (findingAlertKey env subject) := by
  induction pairs generalizing c n with
  | nil =>
      refine ⟨[], ?_, rfl, rfl⟩
      rw [List.append_nil]
      rfl
  | cons p rest ih =>
      obtain ⟨hfirst, hrest⟩ := List.nodup_cons.mp hkeys
      have hinsert : insertAlert (alertRow env st subject c.calls p) c.state =
          .ok ({ c.state with
            alerts := c.state.alerts ++ [alertRow env st subject c.calls p] }, ()) :=
        insertAlert_new (hlength _) (hnew p List.mem_cons_self)
          fun a ha => hids a ha c.calls (le_refl _)
            (Nat.lt_add_of_pos_right (Nat.succ_pos _))
      have hone : queueAlert env st subject (c, n) p = .ok (⟨c.calls + 1,
          { c.state with
            alerts := c.state.alerts ++ [alertRow env st subject c.calls p] }⟩,
          n + 1) := by
        unfold queueAlert
        rw [call_ok (hfaults _) hinsert]
        rfl
      have hids' : ∀ a ∈ c.state.alerts ++ [alertRow env st subject c.calls p],
          ∀ i, c.calls + 1 ≤ i → i < c.calls + 1 + rest.length →
            a.id ≠ st.newId i := by
        intro a ha i hi hlt
        rw [Nat.add_right_comm] at hlt
        rcases List.mem_append.mp ha with ha | ha
        · exact hids a ha i (Nat.le_of_succ_le hi) hlt
        · rw [List.mem_singleton.mp ha]
          intro heq
          have hcall : c.calls < c.calls + (p :: rest).length :=
            Nat.lt_add_of_pos_right (Nat.succ_pos _)
          have hsame := hdistinct (Set.mem_Iio.mpr hcall) (Set.mem_Iio.mpr hlt) heq
          omega
      have hdistinct' : Set.InjOn st.newId
          (Set.Iio (c.calls + 1 + rest.length)) := by
        rw [Nat.add_right_comm]
        exact hdistinct
      have hnew' : ∀ q ∈ rest,
          ∀ a ∈ c.state.alerts ++ [alertRow env st subject c.calls p],
            a.dedupeKey ≠ findingAlertKey env subject q := by
        intro q hq a ha
        rcases List.mem_append.mp ha with ha | ha
        · exact hnew q (List.mem_cons_of_mem _ hq) a ha
        · rw [List.mem_singleton.mp ha]
          intro heq
          exact hfirst (List.mem_map.mpr ⟨q, hq, heq.symm⟩)
      obtain ⟨rows, hrun, hpayloads, hrowkeys⟩ := ih
        (c := ⟨c.calls + 1, { c.state with
          alerts := c.state.alerts ++ [alertRow env st subject c.calls p] }⟩)
        (n := n + 1) hdistinct' hids' hrest hnew'
      refine ⟨alertRow env st subject c.calls p :: rows, ?_, ?_, ?_⟩
      · rw [List.foldlM_cons, hone]
        show rest.foldlM (queueAlert env st subject) _ = _
        rw [hrun]
        simp [Nat.add_comm, Nat.add_left_comm]
      · rw [List.map_cons, List.map_cons, hpayloads]
        rfl
      · rw [List.map_cons, List.map_cons, hrowkeys]
        rfl

/-- Where every key has its row, the loop leaves the outboxes as they are. -/
theorem queueAlerts_known
    (hknown : ∀ p ∈ pairs, ∃ a ∈ c.state.alerts,
      a.dedupeKey = findingAlertKey env subject p)
    (h : pairs.foldlM (queueAlert env st subject) (c, n) = .ok (c', n')) :
    c'.state = c.state := by
  refine foldlM_invariant (I := fun acc : Counted Outboxes × ℕ =>
    acc.1.state = c.state) h ?_ rfl
  intro p hp acc acc' hacc hone
  obtain ⟨⟨c₁, u⟩, hcall, hok⟩ := bind_eq_ok.mp hone
  cases hok
  obtain ⟨-, -, hinsert⟩ := call_eq_ok.mp hcall
  have hsame := insertAlert_known (by rw [hacc]; exact hknown p hp) hinsert
  rw [Prod.mk.injEq] at hsame
  exact hsame.1.trans hacc

end Loop

/-! ## §5  One call -/

/-- The user's notification of these findings. -/
def IsNewFindings (userId : Uuid) (ids : List Uuid) (n : Notification) : Prop :=
  n.userId = userId ∧ n.template = newFindingsTemplate ∧
    n.findingIds = sortedIds ids

instance (userId : Uuid) (ids : List Uuid) (n : Notification) :
    Decidable (IsNewFindings userId ids n) :=
  inferInstanceAs (Decidable (_ ∧ _))

/-- The alert for this finding and sink. -/
def IsAlert (id : Uuid) (sink : AlertSinkName) (a : AlertOutbox) : Prop :=
  a.payload.findingId = id ∧ a.sink = sink

instance (id : Uuid) (sink : AlertSinkName) (a : AlertOutbox) :
    Decidable (IsAlert id sink a) :=
  inferInstanceAs (Decidable (_ ∧ _))

/-- The outboxes hold no row for these findings, nor one under a key of
theirs. -/
structure Untouched (env : Env) (stored : List Finding)
    (subject : ScannedSubject) (ids : List Uuid) (o : Outboxes) : Prop where
  alerts : ∀ a ∈ o.alerts, a.payload.findingId ∉ ids
  alertKeys : ∀ a ∈ o.alerts, ∀ p : Finding × AlertSinkName, p.1 ∈ stored →
    p.1.id ∈ ids → a.dedupeKey ≠ findingAlertKey env subject p
  notifications : ∀ n ∈ o.notifications, ∀ userId ∈ subject.linkedUserId,
    ¬ IsNewFindings userId ids n
  notificationKeys : ∀ n ∈ o.notifications, ∀ userId ∈ subject.linkedUserId,
    n.dedupeKey ≠ newFindingsKey env userId ids

/-- The messages of the alerts for these findings. -/
def alertMessages (stored : List Finding) (subject : ScannedSubject)
    (ids : List Uuid) : Set Bytes :=
  { m | ∃ finding ∈ stored, finding.id ∈ ids ∧ ∃ sink,
    m = alertMessage sink (alertScope (alertPayload subject finding)) }

/-- Rows that carry the digests of their own messages, as the two producers
write them, and of which none is for these findings, are under no key of theirs
where SHA-256 tells the messages apart. -/
theorem Untouched.of_keyed
    (halerts : ∀ a ∈ o.alerts, a.payload.findingId ∉ ids ∧
      ∃ scope : PyStr, scope.isAscii = true ∧
        a.dedupeKey = env.sha256 (alertMessage a.sink scope) ∧
        (∀ p : Finding × AlertSinkName, p.1.id ∈ ids →
          scope ≠ alertScope (alertPayload subject p.1)) ∧
        ∀ m ∈ alertMessages stored subject ids,
          NoCollision env.sha256 (alertMessage a.sink scope) m)
    (hnotifications : ∀ n ∈ o.notifications, IsTemplate n.template ∧
      ∃ others, n.findingIds = sortedIds others ∧
        n.dedupeKey =
          env.sha256 (notificationMessage n.userId n.template others) ∧
        ∀ userId ∈ subject.linkedUserId, ¬ IsNewFindings userId ids n ∧
          NoCollision env.sha256
            (notificationMessage n.userId n.template others)
            (notificationMessage userId newFindingsTemplate ids)) :
    Untouched env stored subject ids o where
  alerts := fun a ha => (halerts a ha).1
  alertKeys := by
    intro a ha p hp hid hkey
    obtain ⟨-, scope, hascii, hown, hother, hcollision⟩ := halerts a ha
    have hmessage := hcollision _ ⟨p.1, hp, hid, p.2, rfl⟩ (hown.symm.trans hkey)
    exact hother p hid ((alertMessage_inj hascii (alertScope_isAscii _)).mp
      hmessage).2
  notifications := by
    intro n hn userId huser
    obtain ⟨-, others, -, -, hnone⟩ := hnotifications n hn
    exact (hnone userId huser).1
  notificationKeys := by
    intro n hn userId huser hkey
    obtain ⟨htemplate, others, hsorted, hown, hnone⟩ := hnotifications n hn
    obtain ⟨hother, hcollision⟩ := hnone userId huser
    obtain ⟨hsame, hnew, hids⟩ := (notificationMessage_inj htemplate
      newFindingsTemplate_isTemplate).mp (hcollision (hown.symm.trans hkey))
    refine hother ⟨hsame, hnew, ?_⟩
    rw [hsorted, sortedIds_eq_iff]
    exact hids

/-- The outboxes after a call, compared with those before it. -/
structure FannedOut (watchlist : List WatchlistEntry) (subject : ScannedSubject)
    (ids : List Uuid) (o o' : Outboxes) : Prop where
  alerts : ∃ new, o'.alerts = o.alerts ++ new ∧
    ∀ a ∈ new, a.payload.findingId ∈ ids
  alertCount : ∀ id ∈ ids, ∀ sink,
    o'.alerts.countP (fun a => decide (IsAlert id sink a)) =
      if Wanted watchlist subject (sinkSwitch sink) then 1 else 0
  notifications : ∃ new, o'.notifications = o.notifications ++ new ∧
    ∀ n ∈ new, ∃ userId, subject.linkedUserId = some userId ∧
      IsNewFindings userId ids n
  notificationCount : ∀ userId, subject.linkedUserId = some userId →
    o'.notifications.countP (fun n => decide (IsNewFindings userId ids n)) =
      if Wanted watchlist subject WatchlistEntry.alertUser then 1 else 0

/-- Every row that a call would add is there. -/
structure Known (env : Env) (watchlist : List WatchlistEntry)
    (stored : List Finding) (subject : ScannedSubject) (ids : List Uuid)
    (o : Outboxes) : Prop where
  alerts : ∀ finding ∈ stored, finding.id ∈ ids → ∀ sink,
    Wanted watchlist subject (sinkSwitch sink) →
      ∃ a ∈ o.alerts, a.dedupeKey = findingAlertKey env subject (finding, sink)
  notification : ∀ userId, subject.linkedUserId = some userId →
    Wanted watchlist subject WatchlistEntry.alertUser →
      ∃ n ∈ o.notifications, n.dedupeKey = newFindingsKey env userId ids

/-- The rows of the wanted alerts for these findings, and no others. -/
structure AlertRows (env : Env) (watchlist : List WatchlistEntry)
    (stored : List Finding) (subject : ScannedSubject) (ids : List Uuid)
    (rows : List AlertOutbox) : Prop where
  findings : ∀ a ∈ rows, a.payload.findingId ∈ ids
  count : ∀ id ∈ ids, ∀ sink,
    rows.countP (fun a => decide (IsAlert id sink a)) =
      if Wanted watchlist subject (sinkSwitch sink) then 1 else 0
  keys : ∀ finding ∈ stored, finding.id ∈ ids → ∀ sink,
    Wanted watchlist subject (sinkSwitch sink) →
      ∃ a ∈ rows, a.dedupeKey = findingAlertKey env subject (finding, sink)

section Call

variable {env : Env} {st : Statements} {c c' : Counted Outboxes}
  {watchlist : List WatchlistEntry} {stored findings : List Finding}
  {subject : ScannedSubject} {sinks : List AlertSinkName} {ids : List Uuid}
  {o o' : Outboxes}

theorem length_alertPairs_le : (alertPairs
    (enabledSinks (watchlist.filter (watches subject)))
    (stored.filter fun f => decide (f.id ∈ ids))).length ≤ 2 * stored.length := by
  have hsinks : (enabledSinks (watchlist.filter (watches subject))).length ≤ 2 := by
    unfold enabledSinks
    split <;> split <;> decide
  have hfound : (stored.filter fun f => decide (f.id ∈ ids)).length ≤
      stored.length := List.length_filter_le _ _
  have hlength := List.length_product
    (stored.filter fun f => decide (f.id ∈ ids))
    (enabledSinks (watchlist.filter (watches subject)))
  refine hlength.le.trans ?_
  rw [Nat.mul_comm]
  exact Nat.mul_le_mul hsinks hfound

theorem alertScope_inj {f g : Finding}
    (h : alertScope (alertPayload subject f) = alertScope (alertPayload subject g)) :
    f.id = g.id := by
  unfold alertScope at h
  rw [List.append_assoc, List.append_assoc] at h
  have hlength : (alertPayload subject f).findingId.str.length =
      (alertPayload subject g).findingId.str.length := rfl
  exact Uuid.str_injective (List.append_inj h hlength).1

theorem mem_alertPairs {p : Finding × AlertSinkName}
    (hp : p ∈ alertPairs sinks (stored.filter fun f => decide (f.id ∈ ids))) :
    p.1 ∈ stored ∧ p.1.id ∈ ids := by
  obtain ⟨f, hf, hp⟩ := List.mem_flatMap.mp hp
  obtain ⟨sink, -, rfl⟩ := List.mem_map.mp hp
  obtain ⟨hf, hid⟩ := List.mem_filter.mp hf
  exact ⟨hf, of_decide_eq_true hid⟩

/-- The alerts of a call have different keys. -/
theorem nodup_alertKeys (hstored : (stored.map Finding.id).Nodup)
    (hcollision : Set.InjOn env.sha256 (alertMessages stored subject ids))
    (hsinks : sinks.Nodup) :
    ((alertPairs sinks (stored.filter fun f => decide (f.id ∈ ids))).map
      (findingAlertKey env subject)).Nodup := by
  have hfindings : (stored.filter fun f => decide (f.id ∈ ids)).Nodup :=
    hstored.of_map.filter _
  refine List.Nodup.map_on ?_ (List.Nodup.product hfindings hsinks)
  intro p hp q hq hkey
  obtain ⟨hpstored, hpid⟩ := mem_alertPairs hp
  obtain ⟨hqstored, hqid⟩ := mem_alertPairs hq
  have hmessage := hcollision ⟨p.1, hpstored, hpid, p.2, rfl⟩
    ⟨q.1, hqstored, hqid, q.2, rfl⟩ hkey
  obtain ⟨hsink, hscope⟩ := (alertMessage_inj (alertScope_isAscii _)
    (alertScope_isAscii _)).mp hmessage
  have hfinding : p.1 = q.1 :=
    List.inj_on_of_nodup_map hstored hpstored hqstored (alertScope_inj hscope)
  exact Prod.ext hfinding hsink

/-- What the loop adds, counted by finding and sink. -/
theorem count_alertPairs {rows : List AlertOutbox} {id : Uuid}
    {sink : AlertSinkName} (hstored : (findings.map Finding.id).Nodup)
    (hsinks : sinks.Nodup)
    (hrows : rows.map (fun a => (a.payload, a.sink)) =
      (alertPairs sinks findings).map
        (fun p => (alertPayload subject p.1, p.2))) :
    rows.countP (fun a => decide (IsAlert id sink a)) =
      if id ∈ findings.map Finding.id ∧ sink ∈ sinks then 1 else 0 := by
  have hpairs : rows.map (fun a => (a.payload.findingId, a.sink)) =
      (findings.map Finding.id).product sinks := by
    have hmap := congrArg (List.map fun x : AlertPayload × AlertSinkName =>
      (x.1.findingId, x.2)) hrows
    rw [List.map_map, List.map_map] at hmap
    refine hmap.trans ?_
    unfold alertPairs List.product
    rw [List.map_flatMap, List.flatMap_map]
    congr 1
    funext f
    rw [List.map_map]
    rfl
  have hnodup : ((findings.map Finding.id).product sinks).Nodup :=
    hstored.product hsinks
  have hcount : rows.countP (fun a => decide (IsAlert id sink a)) =
      (rows.map (fun a => (a.payload.findingId, a.sink))).count (id, sink) := by
    rw [List.count, List.countP_map]
    congr 1
    funext a
    rw [Function.comp_apply, Bool.eq_iff_iff, decide_eq_true_eq, beq_iff_eq,
      Prod.mk.injEq]
    rfl
  rw [hcount, hpairs, hnodup.count]
  congr 1
  rw [List.pair_mem_product]

/-- The rows that the loop adds, by what they carry and by their keys. -/
theorem alertRows_of_maps {rows : List AlertOutbox}
    (hstored : (stored.map Finding.id).Nodup)
    (hexist : ∀ id ∈ ids, ∃ finding ∈ stored, finding.id = id)
    (hpayloads : rows.map (fun a => (a.payload, a.sink)) =
      (alertPairs (enabledSinks (watchlist.filter (watches subject)))
        (stored.filter fun f => decide (f.id ∈ ids))).map
          (fun p => (alertPayload subject p.1, p.2)))
    (hkeys : rows.map AlertOutbox.dedupeKey =
      (alertPairs (enabledSinks (watchlist.filter (watches subject)))
        (stored.filter fun f => decide (f.id ∈ ids))).map
          (findingAlertKey env subject)) :
    AlertRows env watchlist stored subject ids rows where
  findings := by
    intro a ha
    have hmem := List.mem_map_of_mem (f := fun a : AlertOutbox =>
      (a.payload, a.sink)) ha
    rw [hpayloads] at hmem
    obtain ⟨p, hp, heq⟩ := List.mem_map.mp hmem
    have hid : p.1.id = a.payload.findingId :=
      congrArg (fun x : AlertPayload × AlertSinkName => x.1.findingId) heq
    rw [← hid]
    exact (mem_alertPairs hp).2
  count := by
    intro id hid sink
    obtain ⟨finding, hfinding, rfl⟩ := hexist id hid
    have hfound : finding.id ∈
        (stored.filter fun f => decide (f.id ∈ ids)).map Finding.id :=
      List.mem_map_of_mem (List.mem_filter.mpr ⟨hfinding, decide_eq_true hid⟩)
    rw [count_alertPairs (hstored.sublist (List.filter_sublist.map _))
      (nodup_enabledSinks _) hpayloads]
    simp only [hfound, true_and, mem_enabledSinks]
  keys := by
    intro finding hfinding hid sink hwanted
    have hpair : (finding, sink) ∈ alertPairs
        (enabledSinks (watchlist.filter (watches subject)))
        (stored.filter fun f => decide (f.id ∈ ids)) :=
      List.mem_flatMap.mpr ⟨finding,
        List.mem_filter.mpr ⟨hfinding, decide_eq_true hid⟩,
        List.mem_map_of_mem (mem_enabledSinks.mpr hwanted)⟩
    have hmem := List.mem_map_of_mem (f := findingAlertKey env subject) hpair
    rw [← hkeys] at hmem
    exact List.mem_map.mp hmem

theorem select_ok {α : Type} {a : α} (h : st.faults c.calls = none) :
    select st.faults a c = .ok (⟨c.calls + 1, c.state⟩, a) :=
  call_ok h rfl

theorem selectFindings_ok (h : st.faults c.calls = none)
    (hbound : ids.length ≤ bindLimit) :
    selectFindings st stored ids c = .ok (⟨c.calls + 1, c.state⟩,
      stored.filter fun f => decide (f.id ∈ ids)) :=
  call_ok h (if_neg (Nat.not_lt.mpr hbound))

/-- The alerts of a call, from outboxes that hold none of them. -/
theorem alertFindings_new (watchlist : List WatchlistEntry)
    (c : Counted Outboxes) (hlength : ∀ m, (env.sha256 m).length = 32)
    (hfresh : st.Fresh c.state (c.calls + 2 * stored.length))
    (hstored : (stored.map Finding.id).Nodup)
    (hexist : ∀ id ∈ ids, ∃ finding ∈ stored, finding.id = id)
    (hcollision : Set.InjOn env.sha256 (alertMessages stored subject ids))
    (huntouched : Untouched env stored subject ids c.state) :
    ∃ c' queued rows, alertFindings env st subject
        (enabledSinks (watchlist.filter (watches subject)))
        (stored.filter fun f => decide (f.id ∈ ids)) c = .ok (c', queued) ∧
      c'.state = { c.state with alerts := c.state.alerts ++ rows } ∧
      AlertRows env watchlist stored subject ids rows := by
  have hnew : ∀ p ∈ alertPairs
      (enabledSinks (watchlist.filter (watches subject)))
      (stored.filter fun f => decide (f.id ∈ ids)),
      ∀ a ∈ c.state.alerts, a.dedupeKey ≠ findingAlertKey env subject p := by
    intro p hp a ha
    obtain ⟨hstored, hid⟩ := mem_alertPairs hp
    exact huntouched.alertKeys a ha p hstored hid
  obtain ⟨rows, hrun, hpayloads, hkeys⟩ := queueAlerts_new (n := 0) hlength
    hfresh.faults (hfresh.distinct.mono (Set.Iio_subset_Iio
      (Nat.add_le_add_left length_alertPairs_le _)))
    (fun a ha i _ _ => hfresh.alerts a ha i)
    (nodup_alertKeys hstored hcollision (nodup_enabledSinks _)) hnew
  exact ⟨_, _, rows, alertFindings_eq.trans hrun, rfl,
    alertRows_of_maps hstored hexist hpayloads hkeys⟩

/-- The notification of a call, from outboxes that hold none. -/
theorem enqueueNotification_new (userId : Uuid)
    (hlength : ∀ m, (env.sha256 m).length = 32) (hids : ids ≠ [])
    (hfaults : ∀ i, st.faults i = none)
    (hrowids : ∀ n ∈ c.state.notifications, ∀ i, n.id ≠ st.newId i)
    (hkey : ∀ n ∈ c.state.notifications,
      n.dedupeKey ≠ newFindingsKey env userId ids) :
    ∃ n, IsNewFindings userId ids n ∧
      n.dedupeKey = newFindingsKey env userId ids ∧
      enqueueNotification env st userId ids newFindingsTemplate c =
        .ok ⟨c.calls + 1, { c.state with
          notifications := c.state.notifications ++ [n] }⟩ := by
  refine ⟨notificationRow env st userId newFindingsTemplate ids c.calls,
    ⟨rfl, rfl, rfl⟩, rfl, ?_⟩
  have hinsert : insertNotification
      (notificationRow env st userId newFindingsTemplate ids c.calls)
      c.state = .ok ({ c.state with notifications := c.state.notifications ++
        [notificationRow env st userId newFindingsTemplate ids c.calls] }, ()) :=
    insertNotification_new (hlength _) hkey fun n hn => hrowids n hn _
  rw [enqueueNotification_eq newFindingsTemplate_isTemplate hids,
    call_ok (hfaults _) hinsert]
  rfl

/-- The counts of the outboxes are those of the rows that were added. -/
theorem FannedOut.of_rows (rows : List AlertOutbox) (new : List Notification)
    (huntouched : Untouched env stored subject ids o)
    (halerts : o'.alerts = o.alerts ++ rows)
    (hrows : AlertRows env watchlist stored subject ids rows)
    (hnotifications : o'.notifications = o.notifications ++ new)
    (hnew : ∀ n ∈ new, ∃ userId, subject.linkedUserId = some userId ∧
      IsNewFindings userId ids n)
    (hnewcount : ∀ userId, subject.linkedUserId = some userId →
      new.countP (fun n => decide (IsNewFindings userId ids n)) =
        if Wanted watchlist subject WatchlistEntry.alertUser then 1 else 0) :
    FannedOut watchlist subject ids o o' where
  alerts := ⟨rows, halerts, hrows.findings⟩
  alertCount := by
    intro id hid sink
    have hold : o.alerts.countP (fun a => decide (IsAlert id sink a)) = 0 := by
      rw [List.countP_eq_zero]
      intro a ha hmatch
      exact huntouched.alerts a ha ((of_decide_eq_true hmatch).1 ▸ hid)
    rw [halerts, List.countP_append, hold, Nat.zero_add]
    exact hrows.count id hid sink
  notifications := ⟨new, hnotifications, hnew⟩
  notificationCount := by
    intro userId huser
    have hold : o.notifications.countP
        (fun n => decide (IsNewFindings userId ids n)) = 0 := by
      rw [List.countP_eq_zero]
      intro n hn hmatch
      exact huntouched.notifications n hn userId huser (of_decide_eq_true hmatch)
    rw [hnotifications, List.countP_append, hold, Nat.zero_add]
    exact hnewcount userId huser

theorem AlertRows.known (hrows : AlertRows env watchlist stored subject ids rows)
    (halerts : o'.alerts = o.alerts ++ rows) :
    ∀ finding ∈ stored, finding.id ∈ ids → ∀ sink,
      Wanted watchlist subject (sinkSwitch sink) →
        ∃ a ∈ o'.alerts,
          a.dedupeKey = findingAlertKey env subject (finding, sink) := by
  intro finding hfinding hid sink hwanted
  obtain ⟨a, ha, hkey⟩ := hrows.keys finding hfinding hid sink hwanted
  exact ⟨a, halerts ▸ List.mem_append_right _ ha, hkey⟩

/-- Where no notification is wanted, the alerts are all that is queued. -/
theorem fannedOut_of_alerts
    (huntouched : Untouched env stored subject ids o)
    (halerts : o'.alerts = o.alerts ++ rows)
    (hrows : AlertRows env watchlist stored subject ids rows)
    (hnotifications : o'.notifications = o.notifications)
    (hunwanted : ∀ userId, subject.linkedUserId = some userId →
      ¬ Wanted watchlist subject WatchlistEntry.alertUser) :
    FannedOut watchlist subject ids o o' ∧
      Known env watchlist stored subject ids o' := by
  refine ⟨.of_rows rows [] huntouched halerts hrows ?_ (List.forall_mem_nil _)
      fun userId huser => (if_neg (hunwanted userId huser)).symm,
    hrows.known halerts, fun userId huser hwanted =>
      absurd hwanted (hunwanted userId huser)⟩
  rw [hnotifications, List.append_nil]

/-- A call that meets no fault, from outboxes without a row for its
findings. -/
theorem fanout_new (watchlist : List WatchlistEntry)
    (hlength : ∀ m, (env.sha256 m).length = 32)
    (hfresh : st.Fresh o (2 + 2 * stored.length))
    (hstored : (stored.map Finding.id).Nodup)
    (hexist : ∀ id ∈ ids, ∃ finding ∈ stored, finding.id = id) (hids : ids ≠ [])
    (hbound : watchlist.any (watches subject) = true → ids.length ≤ bindLimit)
    (hcollision : Set.InjOn env.sha256 (alertMessages stored subject ids))
    (huntouched : Untouched env stored subject ids o) :
    ∃ c' queued, fanoutWatchlistedFindings env st watchlist stored subject ids
        ⟨0, o⟩ = .ok (c', queued) ∧
      FannedOut watchlist subject ids o c'.state ∧
      Known env watchlist stored subject ids c'.state := by
  have hsome : ids.isEmpty = false := List.isEmpty_eq_false_iff.mpr hids
  unfold fanoutWatchlistedFindings
  simp only [hsome, Bool.false_eq_true, if_false]
  rw [select_ok (hfresh.faults _)]
  dsimp only [bind, Except.bind]
  split
  · rename_i hnone
    have hunwanted : ∀ switch, ¬ Wanted watchlist subject switch := by
      intro switch hwanted
      rw [← any_watches, List.isEmpty_iff.mp hnone] at hwanted
      cases hwanted
    have hrows : AlertRows env watchlist stored subject ids [] :=
      ⟨List.forall_mem_nil _, fun _ _ _ => (if_neg (hunwanted _)).symm,
        fun _ _ _ _ hwanted => absurd hwanted (hunwanted _)⟩
    exact ⟨_, _, rfl, fannedOut_of_alerts huntouched (List.append_nil _).symm
      hrows rfl fun _ _ => hunwanted _⟩
  · rename_i hsome
    have hany : watchlist.any (watches subject) = true := by
      obtain ⟨entry, hentry⟩ := List.exists_mem_of_ne_nil _
        (mt List.isEmpty_iff.mpr hsome)
      obtain ⟨hentry, hwatches⟩ := List.mem_filter.mp hentry
      exact List.any_eq_true.mpr ⟨entry, hentry, hwatches⟩
    rw [selectFindings_ok (hfresh.faults _) (hbound hany)]
    dsimp only
    obtain ⟨c₁, queued, rows, hloop, hstate, hrows⟩ :=
      alertFindings_new watchlist ⟨0 + 1 + 1, o⟩ hlength hfresh hstored hexist
        hcollision huntouched
    rw [hloop]
    dsimp only
    have halerts : c₁.state.alerts = o.alerts ++ rows := by rw [hstate]
    have hnotifications : c₁.state.notifications = o.notifications := by
      rw [hstate]
    split
    · rename_i userId huser
      have hsole : ∀ other, subject.linkedUserId = some other → userId = other :=
        fun other hother => Option.some.inj (huser.symm.trans hother)
      split
      · rename_i hany
        have hwanted := any_watches.mp hany
        obtain ⟨n, hn, hkey, henqueue⟩ := enqueueNotification_new (c := c₁)
          userId hlength hids hfresh.faults
          (hnotifications ▸ hfresh.notifications)
          (hnotifications ▸ fun n hn =>
            huntouched.notificationKeys n hn userId huser)
        rw [henqueue]
        refine ⟨_, _, rfl, ?_, hrows.known halerts, ?_⟩
        · refine .of_rows rows [n] huntouched halerts hrows
            (by rw [hnotifications]) ?_ ?_
          · intro m hm
            rw [List.mem_singleton.mp hm]
            exact ⟨userId, huser, hn⟩
          · intro other hother
            rw [← hsole other hother, if_pos hwanted, List.countP_singleton,
              if_pos (decide_eq_true hn)]
        · intro other hother _
          exact ⟨n, List.mem_append_right _ List.mem_cons_self,
            hsole other hother ▸ hkey⟩
      · rename_i hany
        exact ⟨_, _, rfl, fannedOut_of_alerts huntouched halerts hrows
          hnotifications fun _ _ hwanted => hany (any_watches.mpr hwanted)⟩
    · rename_i hunlinked
      refine ⟨_, _, rfl, fannedOut_of_alerts huntouched halerts hrows
        hnotifications fun userId huser => ?_⟩
      rw [hunlinked] at huser
      cases huser

end Call

/-! ## §6  Further calls -/

/-- The two producers of a scan. -/
inductive Producer where
  | newFindings
  | watchlisted
deriving DecidableEq

section Producers

variable (env : Env) (watchlist : List WatchlistEntry) (stored : List Finding)
  (subject : ScannedSubject) (ids : List Uuid)

/-- The outboxes after a call of either producer; what raises is rolled
back. -/
def produce (o : Outboxes) (call : Producer × Statements) : Outboxes :=
  match call.1 with
  | .newFindings =>
      match enqueueNewFindings env call.2 subject ids ⟨0, o⟩ with
      | .ok c => c.state
      | .error _ => o
  | .watchlisted =>
      match fanoutWatchlistedFindings env call.2 watchlist stored subject ids
          ⟨0, o⟩ with
      | .ok (c, _) => c.state
      | .error _ => o

def produceAll (o : Outboxes) (calls : List (Producer × Statements)) : Outboxes :=
  calls.foldl (produce env watchlist stored subject ids) o

end Producers

section Further

variable {env : Env} {st : Statements} {c c' : Counted Outboxes}
  {watchlist : List WatchlistEntry} {stored : List Finding}
  {subject : ScannedSubject} {ids : List Uuid} {o o' : Outboxes} {queued : ℕ}
  {userId : Uuid} {findings : List Finding} {sinks : List AlertSinkName}

theorem enqueueNotification_state {template : PyStr}
    (htemplate : IsTemplate template) (hids : ids ≠ [])
    (h : enqueueNotification env st userId ids template c = .ok c') :
    insertNotification (notificationRow env st userId template ids c.calls)
      c.state = .ok (c'.state, ()) := by
  rw [enqueueNotification_eq htemplate hids] at h
  cases hcall : call st.faults (insertNotification
      (notificationRow env st userId template ids c.calls)) c with
  | error e =>
      rw [hcall] at h
      cases h
  | ok x =>
      rw [hcall] at h
      cases h
      exact (call_eq_ok.mp hcall).2.2

/-- The loop touches the alerts only. -/
theorem alertFindings_notifications
    (h : alertFindings env st subject sinks findings c = .ok (c', queued)) :
    c'.state.notifications = c.state.notifications := by
  rw [alertFindings_eq] at h
  refine foldlM_invariant (I := fun acc : Counted Outboxes × ℕ =>
    acc.1.state.notifications = c.state.notifications) h ?_ rfl
  intro p _ acc acc' hacc hone
  obtain ⟨⟨c₁, u⟩, hcall, hok⟩ := bind_eq_ok.mp hone
  cases hok
  obtain ⟨-, -, hinsert⟩ := call_eq_ok.mp hcall
  refine Eq.trans ?_ hacc
  unfold insertAlert at hinsert
  split at hinsert
  · cases hinsert
  · split at hinsert
    · rw [Except.ok.injEq, Prod.mk.injEq] at hinsert
      rw [hinsert.1]
    · split at hinsert
      · cases hinsert
      · rw [Except.ok.injEq, Prod.mk.injEq] at hinsert
        rw [← hinsert.1]

/-- How a call gets through: nothing to do, or its alerts and after them, where
the subject is linked and the switch is on, its notification. -/
theorem fanout_cases (h : fanoutWatchlistedFindings env st watchlist stored
      subject ids c = .ok (c', queued)) :
    c'.state = c.state ∨ ids ≠ [] ∧ ∃ c₁ c₂ n, c₁.state = c.state ∧
      alertFindings env st subject
        (enabledSinks (watchlist.filter (watches subject)))
        (stored.filter fun f => decide (f.id ∈ ids)) c₁ = .ok (c₂, n) ∧
      (c'.state = c₂.state ∨ ∃ userId, subject.linkedUserId = some userId ∧
        Wanted watchlist subject WatchlistEntry.alertUser ∧
        enqueueNotification env st userId ids newFindingsTemplate c₂ = .ok c') := by
  unfold fanoutWatchlistedFindings at h
  split at h
  · cases h
    exact .inl rfl
  · rename_i hids
    obtain ⟨⟨c₁, entries⟩, h₁, h⟩ := bind_eq_ok.mp h
    have hstate₁ := select_state h₁
    obtain ⟨-, -, hentries⟩ := call_eq_ok.mp h₁
    rw [Except.ok.injEq, Prod.mk.injEq] at hentries
    obtain ⟨-, rfl⟩ := hentries
    simp only at h
    split at h
    · cases h
      exact .inl hstate₁
    · obtain ⟨⟨c₂, findings⟩, h₂, h⟩ := bind_eq_ok.mp h
      obtain ⟨hstate₂, rfl⟩ := selectFindings_eq_ok h₂
      obtain ⟨⟨c₃, n⟩, h₃, h⟩ := bind_eq_ok.mp h
      refine .inr ⟨by simpa using hids, c₂, c₃, n, hstate₂.trans hstate₁, h₃, ?_⟩
      simp only at h
      split at h
      · rename_i userId huser
        split at h
        · rename_i hany
          obtain ⟨c₄, h₄, h⟩ := bind_eq_ok.mp h
          cases h
          exact .inr ⟨userId, huser, any_watches.mp hany, h₄⟩
        · cases h
          exact .inl rfl
      · cases h
        exact .inl rfl

/-- Where every row is there, a call leaves the outboxes as they are. -/
theorem fanout_known (hknown : Known env watchlist stored subject ids o)
    (h : fanoutWatchlistedFindings env st watchlist stored subject ids ⟨0, o⟩ =
      .ok (c', queued)) : c'.state = o := by
  rcases fanout_cases h with hsame | ⟨hids, c₁, c₂, n, hstate, hloop, hend⟩
  · exact hsame
  · have hloopstate : c₂.state = o := by
      rw [alertFindings_eq] at hloop
      refine (queueAlerts_known ?_ hloop).trans hstate
      intro p hp
      obtain ⟨finding, hfinding, hp⟩ := List.mem_flatMap.mp hp
      obtain ⟨sink, hsink, rfl⟩ := List.mem_map.mp hp
      obtain ⟨hstored, hid⟩ := List.mem_filter.mp hfinding
      rw [hstate]
      exact hknown.alerts finding hstored (of_decide_eq_true hid) sink
        (mem_enabledSinks.mp hsink)
    rcases hend with hsame | ⟨userId, huser, hwanted, henqueue⟩
    · exact hsame.trans hloopstate
    · have hinsert := enqueueNotification_state newFindingsTemplate_isTemplate hids
              henqueue
      rw [hloopstate] at hinsert
      have hsame := insertNotification_known
        (hknown.notification userId huser hwanted) hinsert
      exact (Prod.mk.inj hsame).1

theorem produceAll_known (hknown : Known env watchlist stored subject ids o)
    (calls : List Statements) :
    produceAll env watchlist stored subject ids o
      (calls.map fun st => (.watchlisted, st)) = o := by
  induction calls with
  | nil => rfl
  | cons st rest ih =>
      have hone : produce env watchlist stored subject ids o (.watchlisted, st) =
          o := by
        unfold produce
        dsimp only
        split
        · rename_i c queued hcall
          exact fanout_known hknown hcall
        · rfl
      unfold produceAll at ih ⊢
      rw [List.map_cons, List.foldl_cons, hone, ih]

theorem insertNotification_cases {row : Notification} {x : Unit}
    (h : insertNotification row o = .ok (o', x)) :
    ((∃ n ∈ o.notifications, n.dedupeKey = row.dedupeKey) ∧ o' = o) ∨
      (∀ n ∈ o.notifications, n.dedupeKey ≠ row.dedupeKey) ∧
        o'.notifications = o.notifications ++ [row] := by
  unfold insertNotification at h
  split at h
  · cases h
  · split at h
    · rename_i hany
      cases h
      obtain ⟨n, hn, heq⟩ := List.any_eq_true.mp hany
      exact .inl ⟨⟨n, hn, beq_iff_eq.mp heq⟩, rfl⟩
    · rename_i hnokey
      split at h
      · cases h
      · cases h
        refine .inr ⟨fun n hn heq => hnokey ?_, rfl⟩
        exact List.any_eq_true.mpr ⟨n, hn, beq_iff_eq.mpr heq⟩

/-- What a call of either producer does to the notifications. -/
theorem produce_notifications (o : Outboxes) (call : Producer × Statements) :
    (produce env watchlist stored subject ids o call).notifications =
        o.notifications ∨
      ∃ userId row, subject.linkedUserId = some userId ∧
        row.dedupeKey = newFindingsKey env userId ids ∧
        (∀ n ∈ o.notifications, n.dedupeKey ≠ newFindingsKey env userId ids) ∧
        (produce env watchlist stored subject ids o call).notifications =
          o.notifications ++ [row] := by
  rcases call with ⟨producer, st⟩
  cases producer with
  | newFindings =>
      unfold produce
      dsimp only
      split
      · rename_i c hcall
        unfold enqueueNewFindings at hcall
        split at hcall
        · rename_i userId huser
          split at hcall
          · cases hcall
            exact .inl rfl
          · rename_i hids
            have hinsert := enqueueNotification_state
              newFindingsTemplate_isTemplate (by simpa using hids) hcall
            rcases insertNotification_cases hinsert with ⟨-, hsame⟩ |
              ⟨hfree, hrow⟩
            · exact .inl (by rw [hsame])
            · exact .inr ⟨userId, _, huser, rfl, hfree, hrow⟩
        · cases hcall
          exact .inl rfl
      · exact .inl rfl
  | watchlisted =>
      unfold produce
      dsimp only
      split
      · rename_i c queued hcall
        rcases fanout_cases hcall with hsame | ⟨hids, c₁, c₂, n, hstate, hloop, hend⟩
        · exact .inl (by rw [hsame])
        · have hloopstate : c₂.state.notifications = o.notifications := by
            rw [alertFindings_notifications hloop, hstate]
          rcases hend with hsame | ⟨userId, huser, -, henqueue⟩
          · exact .inl (by rw [hsame, hloopstate])
          · have hinsert := enqueueNotification_state newFindingsTemplate_isTemplate hids
              henqueue
            rcases insertNotification_cases hinsert with ⟨-, hsame⟩ |
              ⟨hfree, hrow⟩
            · exact .inl (by rw [hsame, hloopstate])
            · rw [hloopstate] at hfree hrow
              exact .inr ⟨userId, _, huser, rfl, hfree, hrow⟩
      · exact .inl rfl

/-- By induction on the calls: the first notification that is added has the key
of any further one. -/
theorem produceAll_notifications (calls : List (Producer × Statements)) :
    ∀ o : Outboxes, ∃ new, (produceAll env watchlist stored subject ids o
        calls).notifications = o.notifications ++ new ∧ new.length ≤ 1 := by
  have hkeep : ∀ (calls : List (Producer × Statements)) (o : Outboxes),
      (∀ userId, subject.linkedUserId = some userId →
        ∃ n ∈ o.notifications, n.dedupeKey = newFindingsKey env userId ids) →
      (produceAll env watchlist stored subject ids o calls).notifications =
        o.notifications := by
    intro calls
    induction calls with
    | nil => exact fun _ _ => rfl
    | cons call rest ih =>
        intro o hkey
        have hone : (produce env watchlist stored subject ids o
            call).notifications = o.notifications := by
          rcases produce_notifications o call with hsame |
            ⟨userId, row, huser, -, hfree, -⟩
          · exact hsame
          · obtain ⟨n, hn, heq⟩ := hkey userId huser
            exact absurd heq (hfree n hn)
        have hrest := ih (produce env watchlist stored subject ids o call)
          (by rw [hone]; exact hkey)
        exact hrest.trans hone
  induction calls with
  | nil => exact fun o => ⟨[], (List.append_nil _).symm, Nat.zero_le _⟩
  | cons call rest ih =>
      intro o
      rcases produce_notifications o call with hsame |
        ⟨userId, row, huser, hkey, -, hrow⟩
      · obtain ⟨new, hnew, hlen⟩ := ih (produce env watchlist stored subject ids o
          call)
        refine ⟨new, ?_, hlen⟩
        rw [← hsame]
        exact hnew
      · have hdone := hkeep rest (produce env watchlist stored subject ids o call)
          (by
            intro other hother
            rw [huser, Option.some.injEq] at hother
            exact ⟨row, hrow ▸ List.mem_append_right _ List.mem_cons_self,
              hother ▸ hkey⟩)
        exact ⟨[row], hdone.trans hrow, le_refl _⟩

end Further

/-! ## §7  The law -/

/-- Entries that are disabled, or for others, change nothing. -/
theorem fanout_others (env : Env) (st : Statements) (stored : List Finding)
    (ids : List Uuid) (c : Counted Outboxes) {subject : ScannedSubject}
    {watchlist others : List WatchlistEntry}
    (h : ∀ entry ∈ others, ¬ (entry.enabled = true ∧ Targets subject entry)) :
    fanoutWatchlistedFindings env st (watchlist ++ others) stored subject ids c =
      fanoutWatchlistedFindings env st watchlist stored subject ids c := by
  have hnone : others.filter (watches subject) = [] := by
    rw [List.filter_eq_nil_iff]
    intro entry hentry hwatches
    exact h entry hentry (watches_iff.mp hwatches)
  unfold fanoutWatchlistedFindings
  rw [List.filter_append, hnone, List.append_nil]

/-- **Watchlist fan-out.** A call for some findings (no more of them than one
statement binds, where the subject is watched), of which the outboxes hold no
row, adds an alert for each of them and each sink that an enabled entry for
the subject or its user wants, and the user's notification where it is wanted.
Entries that are disabled or for others make no difference, repeating the call
adds nothing, and with `enqueue_new_findings` in any order there is one
notification at most. -/
theorem watchlist_fanout {env : Env} {st : Statements}
    (watchlist : List WatchlistEntry) {stored : List Finding}
    {subject : ScannedSubject} {ids : List Uuid} {o : Outboxes}
    (hlength : ∀ m, (env.sha256 m).length = 32)
    (hfresh : st.Fresh o (2 + 2 * stored.length))
    (hstored : (stored.map Finding.id).Nodup)
    (hexist : ∀ id ∈ ids, ∃ finding ∈ stored, finding.id = id) (hids : ids ≠ [])
    (hbound : watchlist.any (watches subject) = true → ids.length ≤ bindLimit)
    (hcollision : Set.InjOn env.sha256 (alertMessages stored subject ids))
    (huntouched : Untouched env stored subject ids o) :
    (∃ c' queued, fanoutWatchlistedFindings env st watchlist stored subject ids
        ⟨0, o⟩ = .ok (c', queued) ∧
      FannedOut watchlist subject ids o c'.state ∧
      ∀ calls : List Statements, produceAll env watchlist stored subject ids
        c'.state (calls.map fun st => (.watchlisted, st)) = c'.state) ∧
    (∀ others : List WatchlistEntry,
      (∀ entry ∈ others, ¬ (entry.enabled = true ∧ Targets subject entry)) →
      fanoutWatchlistedFindings env st (watchlist ++ others) stored subject ids
          ⟨0, o⟩ =
        fanoutWatchlistedFindings env st watchlist stored subject ids ⟨0, o⟩) ∧
    ∀ calls, ∃ new, (produceAll env watchlist stored subject ids o
      calls).notifications = o.notifications ++ new ∧ new.length ≤ 1 := by
  obtain ⟨c', queued, hcall, hfanned, hknown⟩ := fanout_new watchlist hlength
    hfresh hstored hexist hids hbound hcollision huntouched
  exact ⟨⟨c', queued, hcall, hfanned, produceAll_known hknown⟩,
    fun _ => fanout_others env st stored ids ⟨0, o⟩,
    fun calls => produceAll_notifications calls o⟩

/-- SHA-256 on the messages of finding 7. -/
def watchlistEnv : Env where
  __ := sampleEnv
  sha256 b := (((sampleMessage, digestOf
      0xc9d0630af71dbb87016fa9aa67293262524910685d800cf6366293f121aac5c2) ::
    keyDigests).find? fun x => x.1 == b).elim zeroPasswordHash Prod.snd

def watchedSubject : ScannedSubject :=
  ⟨⟨50, .email, sampleUser.email⟩, some 1, none, none⟩

def watchedFindings : List Finding := [Finding.blank 7 50 2 0]

/-- Every channel of the subject, and a channel of its user that is off. -/
def sampleWatchlist : List WatchlistEntry :=
  [⟨some 50, none, true, true, true, true⟩, ⟨none, some 1, true, false, true, false⟩]

theorem watchlistEnv_length (m : Bytes) : (watchlistEnv.sha256 m).length = 32 := by
  show (Option.elim _ zeroPasswordHash Prod.snd).length = 32
  cases h : ((sampleMessage, digestOf
      0xc9d0630af71dbb87016fa9aa67293262524910685d800cf6366293f121aac5c2) ::
    keyDigests).find? fun x => x.1 == m with
  | none => rfl
  | some x =>
      have hx := List.mem_of_find?_eq_some h
      simp only [keyDigests, List.mem_cons, List.not_mem_nil, or_false] at hx
      rcases hx with rfl | rfl | rfl | rfl | rfl <;> rfl

theorem sampleStatements_fresh (n : ℕ) (hn : n ≤ 2 ^ 128) :
    sampleStatements.Fresh ⟨[], []⟩ n where
  faults := fun _ => rfl
  distinct := by
    intro i hi j hj h
    have htoNat := congrArg BitVec.toNat h
    simp only [sampleStatements, BitVec.toNat_ofNat] at htoNat
    rwa [Nat.mod_eq_of_lt (lt_of_lt_of_le hi hn),
      Nat.mod_eq_of_lt (lt_of_lt_of_le hj hn)] at htoNat
  alerts := List.forall_mem_nil _
  notifications := List.forall_mem_nil _

/-- A subject with every channel on gets an alert for each sink and one
notification. -/
theorem sample_fanout :
    ∃ c' queued, fanoutWatchlistedFindings watchlistEnv sampleStatements
        sampleWatchlist watchedFindings watchedSubject [7] ⟨0, ⟨[], []⟩⟩ =
          .ok (c', queued) ∧
      (∀ sink, c'.state.alerts.countP (fun a => decide (IsAlert 7 sink a)) = 1) ∧
      c'.state.notifications.countP
        (fun n => decide (IsNewFindings 1 [7] n)) = 1 := by
  have hcollision : Set.InjOn watchlistEnv.sha256
      (alertMessages watchedFindings watchedSubject [7]) := by
    rintro _ ⟨f, hf, -, sink, rfl⟩ _ ⟨g, hg, -, sink', rfl⟩ h
    rw [List.mem_singleton.mp hf, List.mem_singleton.mp hg] at h ⊢
    cases sink <;> cases sink'
    · rfl
    · exact absurd h (by decide +kernel)
    · exact absurd h (by decide +kernel)
    · rfl
  have huntouched : Untouched watchlistEnv watchedFindings watchedSubject [7]
      ⟨[], []⟩ :=
    ⟨List.forall_mem_nil _, List.forall_mem_nil _, List.forall_mem_nil _,
      List.forall_mem_nil _⟩
  have hids : (watchedFindings.map Finding.id).Nodup := List.nodup_singleton _
  have hexist : ∀ id ∈ [(7 : Uuid)], ∃ finding ∈ watchedFindings,
      finding.id = id :=
    fun id hid => ⟨_, List.mem_cons_self, (List.mem_singleton.mp hid).symm⟩
  have hfresh := sampleStatements_fresh (2 + 2 * watchedFindings.length)
    (by decide)
  obtain ⟨⟨c', queued, hcall, hfanned, -⟩, -⟩ :=
    watchlist_fanout sampleWatchlist watchlistEnv_length hfresh hids hexist
      (List.cons_ne_nil _ _) (fun _ => by decide) hcollision huntouched
  have hwanted : ∀ sink, Wanted sampleWatchlist watchedSubject
      (sinkSwitch sink) := by
    intro sink
    cases sink <;> decide
  refine ⟨c', queued, hcall, fun sink => ?_, ?_⟩
  · rw [hfanned.alertCount 7 List.mem_cons_self sink, if_pos (hwanted sink)]
  · rw [hfanned.notificationCount 1 rfl, if_pos (by decide)]

/-- For no findings nothing is queued, whatever is wanted. -/
theorem empty_fanout_queues_nothing :
    ∃ c' queued, fanoutWatchlistedFindings watchlistEnv sampleStatements
        sampleWatchlist watchedFindings watchedSubject [] ⟨0, ⟨[], []⟩⟩ =
          .ok (c', queued) ∧
      ¬ FannedOut sampleWatchlist watchedSubject [] ⟨[], []⟩ c'.state := by
  refine ⟨⟨0, ⟨[], []⟩⟩, 0, rfl, fun hfanned => ?_⟩
  have hcount := hfanned.notificationCount 1 rfl
  rw [if_pos (by decide)] at hcount
  cases hcount

end LeakcheckHub.Outbox
