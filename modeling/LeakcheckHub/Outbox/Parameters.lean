import LeakcheckHub.Outbox.Fanout
import LeakcheckHub.Findings.Ingest
import LeakcheckHub.Accounts.DirectorySync

/-!
# Bind parameters

The driver sends a statement with at most 32767 parameters, and an `IN` or
`NOT IN` list binds one for each element. Here are the numbers of parameters
of the statements that the fan-out after a scan and the Directory sync send,
in order; a statement that raises is the last one.
-/

namespace LeakcheckHub.Outbox

open Foundation Findings Accounts

/-! ## The fan-out -/

/-- `id`, `user_id`, `template`, `finding_ids` (one document), `dedupe_key`
and the defaults of `status` and `attempts`. -/
def notificationParameters : ℕ := 7

/-- `id`, `sink`, `payload`, `dedupe_key` and the defaults of `status` and
`attempts`. -/
def alertParameters : ℕ := 6

/-- The clauses of the watchlist select. -/
def watchlistParameters (subject : ScannedSubject) : ℕ :=
  if subject.linkedUserId.isSome then 2 else 1

/-- `Finding.id.in_(finding_ids)`. -/
def findingsParameters (findingIds : List Uuid) : ℕ := findingIds.length

/-- `enqueue_notification`, once its key is computed. -/
def sentByNotification (env : Env) (userId : Uuid) (findingIds : List Uuid)
    (template : PyStr) : List ℕ :=
  let ids := sortedIds findingIds
  if ids.isEmpty then []
  else match notificationKey env userId template ids with
    | .ok _ => [notificationParameters]
    | .error _ => []

def sentByNewFindings (env : Env) (subject : ScannedSubject)
    (findingIds : List Uuid) : List ℕ :=
  match subject.linkedUserId with
  | some userId =>
      if findingIds.isEmpty then []
      else sentByNotification env userId findingIds newFindingsTemplate
  | none => []

/-- The alerts of the loop, one for each finding and sink. -/
def sentByAlerts (env : Env) (st : Statements) (subject : ScannedSubject) :
    List (Finding × AlertSinkName) → Counted Outboxes → List ℕ
  | [], _ => []
  | (finding, sink) :: rest, c =>
      let payload := alertPayload subject finding
      alertParameters ::
        match enqueueAlert env st sink payload (alertScope payload) c with
        | .ok c => sentByAlerts env st subject rest c
        | .error _ => []

/-- What follows the select of the findings. -/
def sentForFindings (env : Env) (st : Statements) (subject : ScannedSubject)
    (findingIds : List Uuid) (entries : List WatchlistEntry)
    (findings : List Finding) (c : Counted Outboxes) : List ℕ :=
  let sinks := enabledSinks entries
  sentByAlerts env st subject (findings.flatMap fun f => sinks.map (f, ·)) c ++
    match alertFindings env st subject sinks findings c,
      subject.linkedUserId with
    | .ok _, some userId =>
        if entries.any WatchlistEntry.alertUser then
          sentByNotification env userId findingIds newFindingsTemplate
        else []
    | _, _ => []

def sentByWatchlisted (env : Env) (st : Statements)
    (watchlist : List WatchlistEntry) (stored : List Finding)
    (subject : ScannedSubject) (findingIds : List Uuid)
    (c : Counted Outboxes) : List ℕ :=
  if findingIds.isEmpty then []
  else watchlistParameters subject ::
    match select st.faults (watchlist.filter (watches subject)) c with
    | .error _ => []
    | .ok (c, entries) =>
        if entries.isEmpty then []
        else findingsParameters findingIds ::
          match select st.faults
            (stored.filter fun f => decide (f.id ∈ findingIds)) c with
          | .error _ => []
          | .ok (c, findings) =>
              sentForFindings env st subject findingIds entries findings c

def sentByFanOut (env : Env) (st : Statements)
    (watchlist : List WatchlistEntry) (stored : List Finding)
    (subject : ScannedSubject) (findingIds : List Uuid) (o : Outboxes) :
    List ℕ :=
  sentByNewFindings env subject findingIds ++
    match enqueueNewFindings env st subject findingIds ⟨0, o⟩ with
    | .error _ => []
    | .ok c =>
        sentByWatchlisted env st watchlist stored subject findingIds c

/-- The fan-out gets to its select of the findings: there is something new,
somebody watches the subject, and the statements before it went through. -/
def SelectsFindings (env : Env) (st : Statements)
    (watchlist : List WatchlistEntry) (subject : ScannedSubject)
    (findingIds : List Uuid) (o : Outboxes) : Prop :=
  findingIds ≠ [] ∧ watchlist.any (watches subject) = true ∧
    ∃ c, enqueueNewFindings env st subject findingIds ⟨0, o⟩ = .ok c ∧
      st.faults c.calls = none

/-- Every statement of a list stays within the limit. -/
def WithinLimit (sent : List ℕ) : Prop := ∀ n ∈ sent, n ≤ bindLimit

section FanOut

variable {env : Env} {st : Statements} {subject : ScannedSubject}
  {findingIds : List Uuid} {sent sent' : List ℕ} {n : ℕ}

theorem withinLimit_nil : WithinLimit [] := fun _ h => by cases h

theorem withinLimit_cons :
    WithinLimit (n :: sent) ↔ n ≤ bindLimit ∧ WithinLimit sent :=
  List.forall_mem_cons

theorem withinLimit_append :
    WithinLimit (sent ++ sent') ↔ WithinLimit sent ∧ WithinLimit sent' :=
  List.forall_mem_append

theorem sentByNotification_within {userId : Uuid} {template : PyStr} :
    WithinLimit (sentByNotification env userId findingIds template) := by
  unfold sentByNotification
  simp only
  split
  · exact withinLimit_nil
  · split
    · exact withinLimit_cons.mpr ⟨by decide, withinLimit_nil⟩
    · exact withinLimit_nil

theorem sentByNewFindings_within :
    WithinLimit (sentByNewFindings env subject findingIds) := by
  unfold sentByNewFindings
  split
  · split
    · exact withinLimit_nil
    · exact sentByNotification_within
  · exact withinLimit_nil

theorem sentByAlerts_within {pairs : List (Finding × AlertSinkName)} :
    ∀ {c : Counted Outboxes},
      WithinLimit (sentByAlerts env st subject pairs c) := by
  induction pairs with
  | nil => exact withinLimit_nil
  | cons pair pairs ih =>
      intro c
      refine withinLimit_cons.mpr ⟨by decide, ?_⟩
      split
      · exact ih
      · exact withinLimit_nil

theorem watchlistParameters_le :
    watchlistParameters subject ≤ bindLimit := by
  unfold watchlistParameters
  split <;> decide

theorem sentForFindings_within {entries : List WatchlistEntry}
    {findings : List Finding} {c : Counted Outboxes} :
    WithinLimit
      (sentForFindings env st subject findingIds entries findings c) := by
  refine withinLimit_append.mpr ⟨sentByAlerts_within, ?_⟩
  split
  · split
    · exact sentByNotification_within
    · exact withinLimit_nil
  · exact withinLimit_nil

theorem sentByWatchlisted_within_iff {watchlist : List WatchlistEntry}
    {stored : List Finding} {c : Counted Outboxes} :
    WithinLimit
        (sentByWatchlisted env st watchlist stored subject findingIds c) ↔
      (findingIds ≠ [] → watchlist.any (watches subject) = true →
        st.faults c.calls = none → findingIds.length ≤ bindLimit) := by
  unfold sentByWatchlisted
  split
  · rename_i hempty
    refine iff_of_true withinLimit_nil fun hne => ?_
    exact absurd (List.isEmpty_iff.mp hempty) hne
  · rename_i hne
    rw [List.isEmpty_iff] at hne
    rw [withinLimit_cons, and_iff_right watchlistParameters_le]
    unfold select call
    cases hfault : st.faults c.calls with
    | some e => exact iff_of_true withinLimit_nil fun _ _ h => by cases h
    | none =>
        cases hany : watchlist.any (watches subject) with
        | false =>
            have hnil : watchlist.filter (watches subject) = [] := by
              rw [List.filter_eq_nil_iff]
              intro x hx hw
              rw [List.any_eq_false] at hany
              exact hany x hx hw
            rw [hnil]
            exact iff_of_true withinLimit_nil fun _ h => by cases h
        | true =>
            have hsome : (watchlist.filter (watches subject)).isEmpty =
                false := by
              obtain ⟨x, hx, hw⟩ := List.any_eq_true.mp hany
              rw [List.isEmpty_eq_false_iff_exists_mem]
              exact ⟨x, List.mem_filter.mpr ⟨hx, hw⟩⟩
            have hrest : ∀ r : Except PyException
                (Counted Outboxes × List Finding),
                WithinLimit (match r with
                  | .error _ => []
                  | .ok (c, findings) => sentForFindings env st subject
                      findingIds (watchlist.filter (watches subject))
                      findings c) := by
              intro r
              cases r with
              | error e => exact withinLimit_nil
              | ok p => exact sentForFindings_within
            show WithinLimit (if (watchlist.filter
                (watches subject)).isEmpty then [] else _) ↔ _
            rw [if_neg (by rw [hsome]; decide), withinLimit_cons,
              and_iff_left (hrest _)]
            exact ⟨fun h _ _ _ => h, fun h => h hne rfl rfl⟩

/-- Only the select of the findings can exceed the limit. -/
theorem sentByFanOut_within_iff {watchlist : List WatchlistEntry}
    {stored : List Finding} {o : Outboxes} :
    WithinLimit (sentByFanOut env st watchlist stored subject findingIds o) ↔
      (SelectsFindings env st watchlist subject findingIds o →
        findingIds.length ≤ bindLimit) := by
  unfold sentByFanOut SelectsFindings
  rw [withinLimit_append, and_iff_right sentByNewFindings_within]
  cases hnew : enqueueNewFindings env st subject findingIds ⟨0, o⟩ with
  | error e =>
      refine iff_of_true withinLimit_nil ?_
      rintro ⟨-, -, c, hc, -⟩
      cases hc
  | ok c =>
      rw [sentByWatchlisted_within_iff]
      constructor
      · rintro h ⟨hne, hany, c', hc', hfault⟩
        cases hc'
        exact h hne hany hfault
      · intro h hne hany hfault
        exact h ⟨hne, hany, c, rfl, hfault⟩

end FanOut

/-! ## The Directory sync -/

section Sync

variable (ops : TextOps) (now : Timestamp)

/-- The seven values of the upsert and the default of `id`. -/
def upsertParameters : ℕ := 8

/-- The upserts that are left, and the update of the departed users. -/
def sentByUpserts (users : Snapshot) : Snapshot → UserTable ops → List ℕ
  | [], _ => [departedParameters ops users]
  | entry :: rest, t =>
      upsertParameters ::
        match upsert ops now t entry with
        | .ok t => sentByUpserts users rest t
        | .error _ => []

def sentBySync (users : Snapshot) (t : UserTable ops) : List ℕ :=
  sentByUpserts ops now users users t

/-- The database takes every upsert. -/
def Upserts (users : Snapshot) (t : UserTable ops) : Prop :=
  ∃ t', users.foldlM (upsert ops now) t = .ok t'

variable {ops now} {users : Snapshot} {t : UserTable ops}

theorem sentByUpserts_within_iff {rest : Snapshot} :
    ∀ {t : UserTable ops}, WithinLimit (sentByUpserts ops now users rest t) ↔
      (Upserts ops now rest t → departedParameters ops users ≤ bindLimit) := by
  induction rest with
  | nil =>
      intro t
      rw [sentByUpserts, withinLimit_cons, and_iff_left withinLimit_nil]
      exact ⟨fun h _ => h, fun h => h ⟨t, rfl⟩⟩
  | cons entry rest ih =>
      intro t
      have hhead : upsertParameters ≤ bindLimit := by decide
      rw [sentByUpserts, withinLimit_cons, and_iff_right hhead]
      unfold Upserts
      cases hup : upsert ops now t entry with
      | error e =>
          refine iff_of_true withinLimit_nil ?_
          rintro ⟨t', ht'⟩
          obtain ⟨t₁, h₁, -⟩ := foldlM_cons_eq_ok.mp ht'
          rw [hup] at h₁
          cases h₁
      | ok t₁ =>
          refine ih.trans (imp_congr_left ⟨?_, ?_⟩)
          · rintro ⟨t', ht'⟩
            exact ⟨t', foldlM_cons_eq_ok.mpr ⟨t₁, hup, ht'⟩⟩
          · rintro ⟨t', ht'⟩
            obtain ⟨t₂, h₂, hrest⟩ := foldlM_cons_eq_ok.mp ht'
            rw [hup] at h₂
            cases h₂
            exact ⟨t', hrest⟩

end Sync

/-! ## Which statements the driver refuses -/

/-- A fan-out sends too many parameters exactly when it gets to look up more
than 32767 new findings, and a Directory sync exactly when the directory has
more than 32765 addresses and all its upserts go through. -/
theorem statements_within_limit_iff {env : Env} {st : Statements}
    {watchlist : List WatchlistEntry} {stored : List Finding}
    {subject : ScannedSubject} {findingIds : List Uuid} {o : Outboxes}
    {ops : TextOps} {now : Timestamp} {users : Snapshot} {t : UserTable ops} :
    (WithinLimit
        (sentByFanOut env st watchlist stored subject findingIds o) ↔
      (SelectsFindings env st watchlist subject findingIds o →
        findingIds.length ≤ 32767)) ∧
    (WithinLimit (sentBySync ops now users t) ↔
      (Upserts ops now users t →
        (activeEmails ops users).length ≤ 32765)) := by
  refine ⟨sentByFanOut_within_iff, sentByUpserts_within_iff.trans ?_⟩
  refine imp_congr_right fun _ => ?_
  show (activeEmails ops users).length + 2 ≤ 32767 ↔ _
  omega

/-- A watched domain nobody is linked to. -/
def watchedDomain : ScannedSubject where
  id := 1
  kind := .domain
  valueNorm := PyStr.lit "example.com"
  linkedUserId := none
  firstScannedAt := none
  lastScannedAt := none

def domainWatch : WatchlistEntry where
  subjectId := some 1
  userId := none
  alertUser := false
  alertWazuh := true
  alertIris := false
  enabled := true

def healthy : Statements where
  faults := fun _ => none
  newId := fun n => BitVec.ofNat 128 n
  now := 0

/-- The findings of 33 full pages. -/
def manyFindings : List Uuid :=
  (List.range 33000).map fun n => BitVec.ofNat 128 n

theorem large_scan_exceeds_limit :
    ¬ WithinLimit (sentByFanOut sampleEnv healthy [domainWatch]
      (manyFindings.map fun id => Finding.blank id 1 2 0) watchedDomain
      manyFindings ⟨[], []⟩) := by
  rw [sentByFanOut_within_iff]
  intro h
  have hlen : manyFindings.length = 33000 := by
    rw [manyFindings, List.length_map, List.length_range]
  have hselects : SelectsFindings sampleEnv healthy [domainWatch] watchedDomain
      manyFindings ⟨[], []⟩ := by
    refine ⟨?_, by decide, ⟨0, ⟨[], []⟩⟩, rfl, rfl⟩
    exact List.ne_nil_of_length_pos (by rw [hlen]; decide)
  have hle := h hselects
  rw [hlen] at hle
  exact absurd hle (by decide)

end LeakcheckHub.Outbox
