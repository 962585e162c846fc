import LeakcheckHub.Findings.Ingest
import LeakcheckHub.Foundation.Selections
import LeakcheckHub.Portal.Pages
import LeakcheckHub.Scans.Cooldown

/-!
# The own-account portal

Four routes of `app/routers/user.py` on the database of a request, for the
user of its session. A response depends on the user's own rows and on nothing
else, and a remediation reaches no other finding.

§1 the database · §2 queries · §3 routes · §4 the user's own rows · §5 equal
answers · §6 what a remediation changes · §7 the law.
-/

namespace LeakcheckHub.Portal

open Foundation Crypto Findings Scans

/-! ## §1  The database -/

structure AuditLog where
  id : Uuid
  actorId : Option Uuid
  action : PyStr
  targetType : Option PyStr
  targetId : Option PyStr
  ipHash : Bytes
  at_ : Timestamp
  meta_ : List (PyStr × Json)

/-- The tables that the routes use, with their primary keys, and the rest. -/
structure Database (Rest : Type) where
  store : FindingStore
  subjects : List Subject
  scans : List Scan
  settings : List PlatformSetting
  audit : List AuditLog
  rest : Rest
  subjectIds : (subjects.map Subject.id).Nodup
  scanIds : (scans.map Scan.id).Nodup
  settingKeys : (settings.map PlatformSetting.key).Nodup
  auditIds : (audit.map AuditLog.id).Nodup

variable {Rest : Type} (env : Env) (decimal : CodePoint → Option ℕ)

/-! ## §2  Queries -/

def isOwnSubject (valueNorm : PyStr) (subject : Subject) : Bool :=
  decide (subject.kind = .email) && decide (subject.valueNorm = valueNorm)

/-- The join with `subjects` and its `WHERE`. -/
def owned (db : Database Rest) (valueNorm : PyStr) (finding : Finding) : Bool :=
  db.subjects.any fun subject =>
    decide (subject.id = finding.subjectId) && isOwnSubject valueNorm subject

def ownFindings (db : Database Rest) (valueNorm : PyStr) : List Finding :=
  db.store.findings.filter (owned db valueNorm)

/-- The rows of `_user_findings_statement` before its order and limit. -/
def joined (db : Database Rest) (valueNorm : PyStr) :
    List (Finding × BreachSource) :=
  (ownFindings db valueNorm).filterMap fun finding =>
    (db.store.sources.find? fun source =>
      decide (source.id = finding.sourceId)).map fun source => (finding, source)

/-- `ORDER BY first_seen_at DESC`. -/
def newer (a b : Finding × BreachSource) : Prop :=
  b.1.firstSeenAt < a.1.firstSeenAt

/-- `_owned_finding_statement`. -/
def ownedFinding (db : Database Rest) (findingId : Uuid) (valueNorm : PyStr) :
    Option Finding :=
  db.store.findings.find? fun finding =>
    decide (finding.id = findingId) && owned db valueNorm finding

/-- `_owned_scan_or_404`. -/
def ownedScanOr404 (db : Database Rest) (scanId userId : Uuid) :
    Except PortalError Scan :=
  match db.scans.find? fun scan =>
      decide (scan.id = scanId) && isSelfCheck userId scan with
  | none => .error (.http 404 (PyStr.lit "Scan not found."))
  | some scan => .ok scan

/-- `_current_subject`, by its `value_norm`. -/
def currentSubject (user : User) : Except PortalError PyStr :=
  (Normalization.normalizeEmailSubject env.unicode user.email).mapError
    .normalization

/-! ## §3  Routes -/

/-- `user_dashboard`, for the rows that its select returned. -/
def dashboardOf (now : Timestamp) (db : Database Rest) (user : User)
    (rows : List (Finding × BreachSource)) : Except PortalError Response := do
  let findings ← rows.mapM projection
  let cooldown ← cooldownSeconds env decimal db.settings
  let active := db.scans.any (activeFor .selfCheck user.id)
  let latest := latestSelfStart db.scans user.id
  let canCheck := !active && cooldownRemaining latest cooldown now == 0
  let serialized ← findings.mapM (serializeUserFinding env.unicode)
  pure (html (.dashboardPage user serialized canCheck) [])

/-- `user_dashboard` may answer so: the order leaves open how findings that
were first seen at the same time are listed. -/
def UserDashboard (now : Timestamp) (db : Database Rest) (user : User)
    (answer : Except PortalError Response) : Prop :=
  match currentSubject env user with
  | .error e => answer = .error e
  | .ok valueNorm =>
      ∃ rows, OrderedSelection newer (joined db valueNorm) 1000 rows ∧
        answer = dashboardOf env decimal now db user rows

def selfScanProgress (db : Database Rest) (user : User) (scanId : Uuid) :
    Except PortalError Response := do
  let scan ← ownedScanOr404 db scanId user.id
  if scan.status = .succeeded then pure (seeOther (PyStr.lit "/portal"))
  else pure (html (.progressPage user (progressFragment scan)) [])

def selfScanStatus (db : Database Rest) (user : User) (scanId : Uuid) :
    Except PortalError Response := do
  let scan ← ownedScanOr404 db scanId user.id
  if scan.status = .succeeded then
    pure (html (.text []) [(PyStr.lit "HX-Redirect", PyStr.lit "/portal")])
  else pure (html (.text (progressFragment scan)) [])

/-- What a remediation draws, and what it takes from its request. -/
structure Draws where
  eventId : Uuid
  auditId : Uuid
  ipHash : Bytes
  now : Timestamp

def findingNotFound : PortalError :=
  .http 404 (PyStr.lit "Finding not found.")

def affectedUserNote : PyStr := PyStr.lit "Marked fixed by the affected user"

/-- The call of `remediate_finding`. -/
def Draws.remediation (d : Draws) (user : User) : Change :=
  .remediate user.id (some affectedUserNote) d.now

def remediatedEntry (user : User) (findingId : Uuid) (d : Draws) : AuditLog where
  id := d.auditId
  actorId := some user.id
  action := PyStr.lit "self.finding_remediated"
  targetType := some (PyStr.lit "finding")
  targetId := some findingId.str
  ipHash := d.ipHash
  at_ := d.now
  meta_ := []

/-- The rows of a remediation, and its audit row with them. -/
def remediated (db : Database Rest) (user : User) (findingId : Uuid)
    (d : Draws) : Except PortalError (Database Rest) := do
  let store ← (db.store.change (d.remediation user) findingId
    d.eventId).mapError fun e =>
      if e = .notFound then findingNotFound else .store e
  if h : d.auditId ∈ db.audit.map AuditLog.id then
    .error (.store (.database .integrityViolation))
  else
    pure { db with
      store := store
      audit := db.audit ++ [remediatedEntry user findingId d]
      auditIds := by
        rw [List.map_append, List.nodup_append]
        refine ⟨db.auditIds, List.nodup_singleton _, ?_⟩
        intro i hi j hj
        rw [List.mem_singleton.mp hj]
        intro heq
        rw [heq] at hi
        exact h hi }

/-- `self_remediate`: the committed database, and the answer. An exception
rolls back. -/
def selfRemediate (db : Database Rest) (user : User) (findingId : Uuid)
    (d : Draws) : Database Rest × Except PortalError Response :=
  match currentSubject env user with
  | .error e => (db, .error e)
  | .ok valueNorm =>
      match ownedFinding db findingId valueNorm with
      | none => (db, .error findingNotFound)
      | some _ =>
          match remediated db user findingId d with
          | .error e => (db, .error e)
          | .ok db' =>
              (db', .ok (html (.text (remediationComplete findingId.str)) []))

/-! ## §4  The user's own rows -/

/-- The two databases agree on the user's subject with its findings and their
breach sources, on the self-checks that the user requested, and on the platform
settings. -/
structure Agree (user : User) (db₁ db₂ : Database Rest) : Prop where
  subjects : ∀ valueNorm, currentSubject env user = .ok valueNorm →
    ∀ subject, isOwnSubject valueNorm subject = true →
      (subject ∈ db₁.subjects ↔ subject ∈ db₂.subjects)
  findings : ∀ valueNorm, currentSubject env user = .ok valueNorm →
    ∀ subject ∈ db₁.subjects, isOwnSubject valueNorm subject = true →
      ∀ finding : Finding, finding.subjectId = subject.id →
        (finding ∈ db₁.store.findings ↔ finding ∈ db₂.store.findings)
  sources : ∀ valueNorm, currentSubject env user = .ok valueNorm →
    ∀ finding ∈ ownFindings db₁ valueNorm, ∀ source : BreachSource,
      source.id = finding.sourceId →
        (source ∈ db₁.store.sources ↔ source ∈ db₂.store.sources)
  scans : ∀ scan, isSelfCheck user.id scan = true →
    (scan ∈ db₁.scans ↔ scan ∈ db₂.scans)
  settings : ∀ row, row ∈ db₁.settings ↔ row ∈ db₂.settings

section Agreement

variable {env} {user : User} {db db₁ db₂ : Database Rest} {valueNorm : PyStr}
  {finding : Finding} {findingId : Uuid}

theorem owned_eq_true :
    owned db valueNorm finding = true ↔ ∃ subject ∈ db.subjects,
      subject.id = finding.subjectId ∧
        isOwnSubject valueNorm subject = true := by
  simp [owned, List.any_eq_true]

theorem mem_ownFindings : finding ∈ ownFindings db valueNorm ↔
    finding ∈ db.store.findings ∧ owned db valueNorm finding = true :=
  List.mem_filter

theorem Agree.owned_iff (h : Agree env user db₁ db₂)
    (hnorm : currentSubject env user = .ok valueNorm) :
    owned db₁ valueNorm finding = owned db₂ valueNorm finding := by
  apply any_eq_of_mem_iff
  intro subject hsubject
  rw [Bool.and_eq_true] at hsubject
  exact h.subjects valueNorm hnorm subject hsubject.2

theorem Agree.mem_ownFindings_iff (h : Agree env user db₁ db₂)
    (hnorm : currentSubject env user = .ok valueNorm) :
    finding ∈ ownFindings db₁ valueNorm ↔
      finding ∈ ownFindings db₂ valueNorm := by
  rw [mem_ownFindings, mem_ownFindings, ← h.owned_iff hnorm]
  constructor
  · rintro ⟨hmem, hown⟩
    obtain ⟨subject, hs, hid, hsubject⟩ := owned_eq_true.mp hown
    exact ⟨(h.findings valueNorm hnorm subject hs hsubject finding
      hid.symm).mp hmem, hown⟩
  · rintro ⟨hmem, hown⟩
    obtain ⟨subject, hs, hid, hsubject⟩ := owned_eq_true.mp hown
    exact ⟨(h.findings valueNorm hnorm subject hs hsubject finding
      hid.symm).mpr hmem, hown⟩

/-! ## §5  Equal answers -/

theorem mem_joined {row : Finding × BreachSource} :
    row ∈ joined db valueNorm ↔ row.1 ∈ ownFindings db valueNorm ∧
      (db.store.sources.find? fun source =>
        decide (source.id = row.1.sourceId)) = some row.2 := by
  rw [joined, List.mem_filterMap]
  constructor
  · rintro ⟨finding, hfinding, hrow⟩
    obtain ⟨source, hsource, rfl⟩ := Option.map_eq_some_iff.mp hrow
    exact ⟨hfinding, hsource⟩
  · rintro ⟨hfinding, hsource⟩
    exact ⟨row.1, hfinding, Option.map_eq_some_iff.mpr ⟨row.2, hsource, rfl⟩⟩

theorem joined_nodup (db : Database Rest) (valueNorm : PyStr) :
    (joined db valueNorm).Nodup := by
  have hfindings : (ownFindings db valueNorm).Nodup :=
    (List.Nodup.of_map _ db.store.intact.findingIds).filter _
  refine hfindings.filterMap fun f g row hf hg => ?_
  obtain ⟨b, -, rfl⟩ := Option.map_eq_some_iff.mp hf
  obtain ⟨c, -, hc⟩ := Option.map_eq_some_iff.mp hg
  exact (congrArg Prod.fst hc).symm

theorem Agree.mem_joined_iff (h : Agree env user db₁ db₂)
    (hnorm : currentSubject env user = .ok valueNorm)
    (row : Finding × BreachSource) :
    row ∈ joined db₁ valueNorm ↔ row ∈ joined db₂ valueNorm := by
  rw [mem_joined, mem_joined, h.mem_ownFindings_iff hnorm]
  refine and_congr_right fun hfinding => ?_
  rw [find?_eq_of_mem_iff db₂.store.sources]
  · intro a ha b hb hpa hpb
    refine List.inj_on_of_nodup_map db₁.store.intact.sourceIds ha hb ?_
    exact (of_decide_eq_true hpa).trans (of_decide_eq_true hpb).symm
  · intro source hp
    exact h.sources valueNorm hnorm row.1
      ((h.mem_ownFindings_iff hnorm).mpr hfinding) source
      (of_decide_eq_true hp)

theorem Agree.readSetting_eq (h : Agree env user db₁ db₂) (key : SettingKey) :
    readSetting env db₁.settings key = readSetting env db₂.settings key := by
  unfold readSetting
  rw [find?_eq_of_mem_iff db₂.settings]
  · intro a ha b hb hpa hpb
    refine List.inj_on_of_nodup_map db₁.settingKeys ha hb ?_
    exact (of_decide_eq_true hpa).trans (of_decide_eq_true hpb).symm
  · exact fun row _ => h.settings row

theorem Agree.latestSelfStart_eq (h : Agree env user db₁ db₂) :
    latestSelfStart db₁.scans user.id = latestSelfStart db₂.scans user.id := by
  apply max?_eq_of_mem_iff
  intro t
  rw [List.mem_filterMap, List.mem_filterMap]
  constructor
  · rintro ⟨scan, hscan, ht⟩
    obtain ⟨hmem, hown⟩ := List.mem_filter.mp hscan
    exact ⟨scan, List.mem_filter.mpr ⟨(h.scans scan hown).mp hmem, hown⟩, ht⟩
  · rintro ⟨scan, hscan, ht⟩
    obtain ⟨hmem, hown⟩ := List.mem_filter.mp hscan
    exact ⟨scan, List.mem_filter.mpr ⟨(h.scans scan hown).mpr hmem, hown⟩, ht⟩

theorem Agree.active_eq (h : Agree env user db₁ db₂) :
    db₁.scans.any (activeFor .selfCheck user.id) =
      db₂.scans.any (activeFor .selfCheck user.id) := by
  apply any_eq_of_mem_iff
  intro scan hactive
  apply h.scans scan
  obtain ⟨hby, htrigger⟩ := Bool.and_eq_true_iff.mp hactive
  rw [isSelfCheck, (Bool.and_eq_true_iff.mp hby).1, Bool.true_and]
  exact htrigger

theorem Agree.dashboardOf_eq (h : Agree env user db₁ db₂) (now : Timestamp)
    (rows : List (Finding × BreachSource)) :
    dashboardOf env decimal now db₁ user rows =
      dashboardOf env decimal now db₂ user rows := by
  unfold dashboardOf cooldownSeconds
  rw [h.readSetting_eq, h.active_eq, h.latestSelfStart_eq]

theorem Agree.ownedScan_eq (h : Agree env user db₁ db₂) (scanId : Uuid) :
    ownedScanOr404 db₁ scanId user.id = ownedScanOr404 db₂ scanId user.id := by
  unfold ownedScanOr404
  rw [find?_eq_of_mem_iff db₂.scans]
  · intro a ha b hb hpa hpb
    rw [Bool.and_eq_true] at hpa hpb
    refine List.inj_on_of_nodup_map db₁.scanIds ha hb ?_
    exact (of_decide_eq_true hpa.1).trans (of_decide_eq_true hpb.1).symm
  · intro scan hp
    rw [Bool.and_eq_true] at hp
    exact h.scans scan hp.2

theorem Agree.ownedFinding_eq (h : Agree env user db₁ db₂)
    (hnorm : currentSubject env user = .ok valueNorm) (findingId : Uuid) :
    ownedFinding db₁ findingId valueNorm =
      ownedFinding db₂ findingId valueNorm := by
  unfold ownedFinding
  have howned : owned db₁ valueNorm = owned db₂ valueNorm :=
    funext fun _ => h.owned_iff hnorm
  rw [← howned, find?_eq_of_mem_iff db₂.store.findings]
  · intro a ha b hb hpa hpb
    rw [Bool.and_eq_true] at hpa hpb
    refine FindingStore.eq_of_id ha hb ?_
    exact (of_decide_eq_true hpa.1).trans (of_decide_eq_true hpb.1).symm
  · intro finding hp
    rw [Bool.and_eq_true] at hp
    obtain ⟨subject, hs, hid, hsubject⟩ := owned_eq_true.mp hp.2
    exact h.findings valueNorm hnorm subject hs hsubject finding hid.symm

/-! ## §6  What a remediation changes -/

theorem ownedFinding_spec (h : ownedFinding db findingId valueNorm =
    some finding) :
    finding ∈ ownFindings db valueNorm ∧ finding.id = findingId := by
  have hp := List.find?_some h
  rw [Bool.and_eq_true] at hp
  exact ⟨mem_ownFindings.mpr ⟨List.mem_of_find?_eq_some h, hp.2⟩,
    of_decide_eq_true hp.1⟩

theorem ownedFinding_eq_none : ownedFinding db findingId valueNorm = none ↔
    ∀ finding ∈ ownFindings db valueNorm, finding.id ≠ findingId := by
  rw [ownedFinding, List.find?_eq_none]
  constructor
  · intro h finding hfinding hid
    obtain ⟨hmem, hown⟩ := mem_ownFindings.mp hfinding
    refine h finding hmem ?_
    rw [Bool.and_eq_true]
    exact ⟨decide_eq_true hid, hown⟩
  · intro h finding hmem hp
    rw [Bool.and_eq_true] at hp
    exact h finding (mem_ownFindings.mpr ⟨hmem, hp.2⟩)
      (of_decide_eq_true hp.1)

/-- The identifiers that a remediation draws are new. -/
structure Fresh (db : Database Rest) (d : Draws) : Prop where
  event : d.eventId ∉ db.store.events.map FindingEvent.id
  audit : d.auditId ∉ db.audit.map AuditLog.id

theorem affectedUserNote_stored :
    affectedUserNote.storeText = some affectedUserNote := by
  decide

/-- A remediation of a finding that is there goes through. -/
theorem change_succeeds (user : User) {s : FindingStore} {d : Draws}
    (hmem : finding ∈ s.findings)
    (hevent : d.eventId ∉ s.events.map FindingEvent.id) :
    ∃ s', s.change (d.remediation user) finding.id d.eventId = .ok s' := by
  have hfind : s.findings.find? (fun f => decide (f.id = finding.id)) =
      some finding := by
    cases hf : s.findings.find? fun f => decide (f.id = finding.id) with
    | none =>
        exact absurd (decide_eq_true rfl) (List.find?_eq_none.mp hf _ hmem)
    | some f =>
        have hid := List.find?_some hf
        rw [FindingStore.eq_of_id (List.mem_of_find?_eq_some hf) hmem
          (of_decide_eq_true hid)]
  unfold FindingStore.change
  rw [hfind]
  by_cases happlies : (d.remediation user).applies finding = true
  · have hunconstrained := change_apply_unconstrained (d.remediation user)
    obtain ⟨s₁, h₁⟩ : ∃ s₁, s.updateFinding finding.id
        (fun f => (d.remediation user).apply f) = .ok s₁ :=
      updateFinding_succeeds hunconstrained fun _ => rfl
    obtain ⟨-, hevents, hfindings⟩ := updateFinding_spec h₁
    have hthere : finding.id ∈ s₁.findings.map Finding.id := by
      rw [hfindings, map_if_id s.findings finding.id hunconstrained.id]
      exact List.mem_map_of_mem hmem
    obtain ⟨s₂, h₂⟩ : ∃ s₂, s₁.addEvent
        ((d.remediation user).event d.eventId finding.id) = .ok s₂ := by
      refine addEvent_succeeds ?_ (List.mem_map.mp hthere)
      rw [hevents]
      exact hevent
    refine ⟨s₂, ?_⟩
    simp only [happlies, if_true]
    refine bind_eq_ok.mpr ⟨some affectedUserNote, ?_, ?_⟩
    · simp only [Draws.remediation, FindingStore.changeNote, nullable,
        affectedUserNote_stored, column]
      rfl
    · exact bind_eq_ok.mpr ⟨s₁, h₁, h₂⟩
  · simp only [happlies]
    exact ⟨s, rfl⟩

theorem remediated_succeeds (user : User) {d : Draws}
    (hmem : finding ∈ db.store.findings) (hfresh : Fresh db d) :
    ∃ db', remediated db user finding.id d = .ok db' := by
  obtain ⟨store, hstore⟩ := change_succeeds user hmem hfresh.event
  unfold remediated
  rw [hstore]
  simp only [Except.mapError, bind, Except.bind, dif_neg hfresh.audit]
  exact ⟨_, rfl⟩

theorem selfRemediate_not_found {d : Draws}
    (hnorm : currentSubject env user = .ok valueNorm)
    (hown : ownedFinding db findingId valueNorm = none) :
    selfRemediate env db user findingId d = (db, .error findingNotFound) := by
  simp only [selfRemediate, hnorm, hown]

theorem selfRemediate_of_owned {d : Draws} {db' : Database Rest}
    (hnorm : currentSubject env user = .ok valueNorm)
    (hown : ownedFinding db findingId valueNorm = some finding)
    (h : remediated db user findingId d = .ok db') :
    selfRemediate env db user findingId d =
      (db', .ok (html (.text (remediationComplete findingId.str)) [])) := by
  simp only [selfRemediate, hnorm, hown, h]

/-- A dashboard answers. -/
theorem userDashboard_answers (now : Timestamp) (db : Database Rest)
    (user : User) : ∃ answer, UserDashboard env decimal now db user answer := by
  unfold UserDashboard
  cases currentSubject env user with
  | error e => exact ⟨_, rfl⟩
  | ok valueNorm =>
      obtain ⟨rows, hrows⟩ := exists_orderedSelection (joined_nodup db valueNorm)
        1000
      exact ⟨_, rows, hrows, rfl⟩

theorem Agree.userDashboard_iff (h : Agree env user db₁ db₂)
    (now : Timestamp) (answer : Except PortalError Response) :
    UserDashboard env decimal now db₁ user answer ↔
      UserDashboard env decimal now db₂ user answer := by
  unfold UserDashboard
  cases hnorm : currentSubject env user with
  | error e => rfl
  | ok valueNorm =>
      have hmem := h.mem_joined_iff hnorm
      constructor
      · rintro ⟨rows, hrows, rfl⟩
        exact ⟨rows, hrows.congr (joined_nodup _ _) (joined_nodup _ _) hmem,
          h.dashboardOf_eq decimal now rows⟩
      · rintro ⟨rows, hrows, rfl⟩
        exact ⟨rows, hrows.congr (joined_nodup _ _) (joined_nodup _ _)
          fun row => (hmem row).symm, (h.dashboardOf_eq decimal now rows).symm⟩

/-- No two findings of the user were first seen at the same time. -/
def ToldApart (db : Database Rest) (valueNorm : PyStr) : Prop :=
  ∀ f ∈ ownFindings db valueNorm, ∀ g ∈ ownFindings db valueNorm,
    f.firstSeenAt = g.firstSeenAt → f = g

theorem userDashboard_unique {now : Timestamp}
    {answer answer' : Except PortalError Response}
    (hapart : ∀ valueNorm, currentSubject env user = .ok valueNorm →
      ToldApart db valueNorm)
    (h : UserDashboard env decimal now db user answer)
    (h' : UserDashboard env decimal now db user answer') : answer = answer' := by
  unfold UserDashboard at h h'
  cases hnorm : currentSubject env user with
  | error e =>
      rw [hnorm] at h h'
      rw [h, h']
  | ok valueNorm =>
      rw [hnorm] at h h'
      obtain ⟨rows, hrows, rfl⟩ := h
      obtain ⟨rows', hrows', rfl⟩ := h'
      rw [hrows.unique ?_ hrows']
      intro a ha b hb hne
      obtain ⟨hfa, hsa⟩ := mem_joined.mp ha
      obtain ⟨hfb, hsb⟩ := mem_joined.mp hb
      rcases lt_trichotomy b.1.firstSeenAt a.1.firstSeenAt with hlt | heq | hlt
      · exact .inl hlt
      · -- the same finding has the same source
        have hf := hapart valueNorm hnorm b.1 hfb a.1 hfa heq
        rw [hf, hsa, Option.some.injEq] at hsb
        exact absurd (Prod.ext hf.symm hsb) hne
      · exact .inr hlt

/-- The answer of a remediation says whether the finding is the user's. -/
theorem selfRemediate_answer {d : Draws}
    (hnorm : currentSubject env user = .ok valueNorm) (hfresh : Fresh db d)
    (findingId : Uuid) :
    (selfRemediate env db user findingId d).2 =
      if (ownedFinding db findingId valueNorm).isSome then
        .ok (html (.text (remediationComplete findingId.str)) [])
      else .error findingNotFound := by
  cases hown : ownedFinding db findingId valueNorm with
  | none =>
      rw [selfRemediate_not_found hnorm hown]
      rfl
  | some finding =>
      obtain ⟨hfinding, hid⟩ := ownedFinding_spec hown
      obtain ⟨db', hdb'⟩ := remediated_succeeds user
        (mem_ownFindings.mp hfinding).1 hfresh
      rw [hid] at hdb'
      rw [selfRemediate_of_owned hnorm hown hdb']
      rfl

theorem Agree.selfRemediate_eq {d : Draws} (h : Agree env user db₁ db₂)
    (h₁ : Fresh db₁ d) (h₂ : Fresh db₂ d) (findingId : Uuid) :
    (selfRemediate env db₁ user findingId d).2 =
      (selfRemediate env db₂ user findingId d).2 := by
  cases hnorm : currentSubject env user with
  | error e =>
      unfold selfRemediate
      rw [hnorm]
  | ok valueNorm =>
      rw [selfRemediate_answer hnorm h₁, selfRemediate_answer hnorm h₂,
        h.ownedFinding_eq hnorm]

/-- What a committed remediation leaves: the finding with its event, unless it
was remediated before, and the audit row. -/
structure Touched (user : User) (findingId : Uuid) (d : Draws)
    (db db' : Database Rest) : Prop where
  subjects : db'.subjects = db.subjects
  scans : db'.scans = db.scans
  settings : db'.settings = db.settings
  rest : db'.rest = db.rest
  store : db'.store = db.store ∨
    db'.store.sources = db.store.sources ∧
      (db'.store.findings = db.store.findings.map fun finding =>
        if finding.id = findingId then (d.remediation user).apply finding
        else finding) ∧
      db'.store.events = db.store.events ++
        [(d.remediation user).event d.eventId findingId]
  audit : db'.audit = db.audit ++ [remediatedEntry user findingId d]

theorem remediated_touched {db' : Database Rest} {d : Draws}
    (h : remediated db user findingId d = .ok db') :
    Touched user findingId d db db' := by
  obtain ⟨store, hstore, h⟩ := bind_eq_ok.mp h
  have hchange := change_spec (mapError_eq_ok.mp hstore)
  split at h
  · cases h
  · cases h
    exact ⟨rfl, rfl, rfl, rfl, hchange, rfl⟩

theorem selfRemediate_changes (db : Database Rest) (findingId : Uuid)
    (d : Draws) :
    (selfRemediate env db user findingId d).1 = db ∨
      ∃ valueNorm, currentSubject env user = .ok valueNorm ∧
        (∃ finding ∈ ownFindings db valueNorm, finding.id = findingId) ∧
        Touched user findingId d db
          (selfRemediate env db user findingId d).1 := by
  cases hnorm : currentSubject env user with
  | error e =>
      left
      unfold selfRemediate
      rw [hnorm]
  | ok valueNorm =>
      cases hown : ownedFinding db findingId valueNorm with
      | none => exact .inl (congrArg Prod.fst (selfRemediate_not_found hnorm hown))
      | some finding =>
          obtain ⟨hfinding, hid⟩ := ownedFinding_spec hown
          cases hdb' : remediated db user findingId d with
          | error e =>
              left
              simp only [selfRemediate, hnorm, hown, hdb']
          | ok db' =>
              right
              refine ⟨valueNorm, rfl, ⟨finding, hfinding, hid⟩, ?_⟩
              rw [selfRemediate_of_owned hnorm hown hdb']
              exact remediated_touched hdb'

/-! ## §7  The law -/

/-- **Own account only.** On two databases that agree on the user's own rows
the four routes answer alike, whatever identifier they are asked for, up to the
order in which the database lists findings first seen at the same time; a
remediation changes the named finding of the user's, adds its event and the
audit row, or changes nothing; for any other finding it answers 404. -/
theorem own_account_only (h : Agree env user db₁ db₂) (now : Timestamp) :
    (∀ answer, UserDashboard env decimal now db₁ user answer ↔
      UserDashboard env decimal now db₂ user answer) ∧
    ((∀ valueNorm, currentSubject env user = .ok valueNorm →
        ToldApart db₁ valueNorm) →
      ∀ answer answer', UserDashboard env decimal now db₁ user answer →
        UserDashboard env decimal now db₂ user answer' → answer = answer') ∧
    (∀ scanId, selfScanProgress db₁ user scanId =
      selfScanProgress db₂ user scanId) ∧
    (∀ scanId, selfScanStatus db₁ user scanId =
      selfScanStatus db₂ user scanId) ∧
    (∀ findingId d, Fresh db₁ d → Fresh db₂ d →
      (selfRemediate env db₁ user findingId d).2 =
        (selfRemediate env db₂ user findingId d).2) ∧
    ∀ (db : Database Rest) findingId d,
      ((selfRemediate env db user findingId d).1 = db ∨
        ∃ valueNorm, currentSubject env user = .ok valueNorm ∧
          (∃ finding ∈ ownFindings db valueNorm, finding.id = findingId) ∧
          Touched user findingId d db
            (selfRemediate env db user findingId d).1) ∧
      ∀ valueNorm, currentSubject env user = .ok valueNorm →
        (∀ finding ∈ ownFindings db valueNorm, finding.id ≠ findingId) →
        selfRemediate env db user findingId d =
          (db, .error findingNotFound) := by
  refine ⟨h.userDashboard_iff decimal now, ?_, ?_, ?_, ?_, ?_⟩
  · intro hapart answer answer' h₁ h₂
    exact userDashboard_unique decimal hapart h₁
      ((h.userDashboard_iff decimal now answer').mpr h₂)
  · intro scanId
    unfold selfScanProgress
    rw [h.ownedScan_eq]
  · intro scanId
    unfold selfScanStatus
    rw [h.ownedScan_eq]
  · exact fun findingId d h₁ h₂ => h.selfRemediate_eq h₁ h₂ findingId
  · intro db findingId d
    exact ⟨selfRemediate_changes db findingId d,
      fun valueNorm hnorm hforeign =>
        selfRemediate_not_found hnorm (ownedFinding_eq_none.mpr hforeign)⟩

end Agreement

/-! ### A portal with and without a stranger -/

def sampleUser : User where
  id := 5
  email := PyStr.lit "Bob@X.org"
  googleSub := none
  displayName := PyStr.lit "Bob"
  ouPath := none
  role := .user
  isActive := true
  source := .google
  createdAt := 0
  lastLoginAt := none

def sampleSource : BreachSource where
  id := 2
  name := PyStr.lit "Forum"
  nameNorm := PyStr.lit "forum"
  breachDate := none
  breachDateNorm := unknownDate
  unverified := none
  passwordless := none
  compilation := none
  extra := .obj []

def ownRow : Finding := Finding.blank 7 50 2 0

/-- A finding of a subject that is not the user's. -/
def strangeRow : Finding :=
  { Finding.blank 8 60 2 0 with fingerprint := List.replicate 32 1 }

/-- The user's subject with one finding. -/
def alone : Database Unit where
  store := ⟨⟨[sampleSource], [ownRow], []⟩, by decide⟩
  subjects := [sampleSubject]
  scans := []
  settings := []
  audit := []
  rest := ()
  subjectIds := by decide
  scanIds := by decide
  settingKeys := by decide
  auditIds := by decide

/-- And somebody else's subject, finding and self-check. -/
def crowded : Database Unit where
  store := ⟨⟨[sampleSource], [strangeRow, ownRow], []⟩, by decide⟩
  subjects := [⟨60, .email, PyStr.lit "eve@x.org"⟩, sampleSubject]
  scans := [.requested 70 60 (some 6) .self]
  settings := []
  audit := []
  rest := ()
  subjectIds := by decide
  scanIds := by decide
  settingKeys := by decide
  auditIds := by decide

theorem sampleUser_subject :
    currentSubject sampleEnv sampleUser = .ok (PyStr.lit "bob@x.org") := by
  decide

theorem alone_agrees_crowded : Agree sampleEnv sampleUser alone crowded := by
  constructor
  case subjects =>
    intro valueNorm hnorm subject hsubject
    rw [sampleUser_subject] at hnorm
    cases hnorm
    simp only [alone, crowded, List.mem_cons, List.not_mem_nil, or_false]
    refine ⟨.inr, fun h => h.resolve_left ?_⟩
    rintro rfl
    revert hsubject
    decide
  case findings =>
    intro valueNorm hnorm subject hmem hsubject finding hid
    rw [List.mem_singleton.mp hmem] at hid
    simp only [alone, crowded, List.mem_cons, List.not_mem_nil, or_false]
    refine ⟨.inr, fun h => h.resolve_left ?_⟩
    rintro rfl
    revert hid
    decide
  case sources => exact fun _ _ _ _ _ _ => Iff.rfl
  case scans =>
    intro scan hown
    simp only [alone, crowded, List.mem_cons, List.not_mem_nil, or_false]
    constructor
    · intro h
      cases h
    · rintro rfl
      revert hown
      decide
  case settings => exact fun _ => Iff.rfl

theorem stranger_is_invisible :
    (selfRemediate sampleEnv alone sampleUser 7 ⟨90, 91, [], 9⟩).2 =
      (selfRemediate sampleEnv crowded sampleUser 7 ⟨90, 91, [], 9⟩).2 ∧
    selfRemediate sampleEnv crowded sampleUser 8 ⟨90, 91, [], 9⟩ =
      (crowded, .error findingNotFound) := by
  have h := own_account_only (fun _ => none) alone_agrees_crowded 9
  refine ⟨h.2.2.2.2.1 7 ⟨90, 91, [], 9⟩ ⟨by decide, by decide⟩
    ⟨by decide, by decide⟩, ?_⟩
  refine (h.2.2.2.2.2 crowded 8 ⟨90, 91, [], 9⟩).2 _ sampleUser_subject ?_
  intro finding hfinding
  obtain ⟨hmem, hown⟩ := mem_ownFindings.mp hfinding
  rcases List.mem_cons.mp hmem with rfl | hmem
  · revert hown
    decide
  · rw [List.mem_singleton.mp hmem]
    decide

end LeakcheckHub.Portal
