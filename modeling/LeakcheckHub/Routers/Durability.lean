import LeakcheckHub.Routers.Recorders

/-!
# Durability of audit events

An audit event shares the transaction of its request, so it is kept when the
handler returns and lost when an `HTTPException` leaves it. All handlers but
one raise their `HTTPException`s before they record anything.

§1 parts of handlers · §2 each handler · §3 the law.
-/

set_option linter.unusedSectionVars false

namespace LeakcheckHub.Routers

open Foundation Accounts Auth
open Portal (AuditLog)

variable {ops : TextOps} {Db α β : Type} {S : Services ops Db}
  {ctx : AuditContext} {currentUser : User}

/-! ## §1  Parts of handlers -/

theorem silent_given {result : Except Raised α} :
    Work.Silent (given result : Handler Db α) := by
  cases result with
  | ok a => exact Work.Silent.pure
  | error e => exact Work.Silent.raise

theorem silent_compute {result : Except Fault α} :
    Work.Silent (compute result : Handler Db α) :=
  silent_perform

theorem neverAborts_audit {action : String} {t : AuditTarget}
    {m : List (PyStr × Json)} :
    NeverAborts (audit ctx currentUser action t m : Handler Db Unit) :=
  neverAborts_auditEvent

/-- The end of most handlers: an event, and the response. -/
theorem abortsFirst_recorded {h : Handler Db Unit} (hh : NeverAborts h)
    {answer : α} : AbortsFirst (h >>= fun _ => pure answer) := by
  apply Work.Avoids.raisesFirst
  exact hh.bind fun _ => Work.Avoids.pure

theorem abortsFirst_pure {a : α} : AbortsFirst (pure a : Handler Db α) :=
  Work.Silent.pure.raisesFirst

theorem abortsFirst_abort {status : ℕ} {text : String} :
    AbortsFirst (abort status text : Handler Db α) :=
  silent_abort.raisesFirst

theorem neverAborts_openSession {s : SignInServices ops Db} {r : SignInRequest}
    {userId : Uuid} {host : PyStr} {action : String} :
    NeverAborts (openSession s r userId host action) := by
  apply neverAborts_perform.bind
  intro _
  apply neverAborts_perform.bind
  intro issued
  apply neverAborts_perform.bind
  intro _
  exact neverAborts_auditEvent.bind fun _ => Work.Avoids.pure

/-- A handler that never aborts: its exceptions are those of the modules
below. -/
theorem neverAborts_excepting {h : Handler Db α} {caught : Fault → Bool}
    {handler : Fault → Handler Db α} (hh : NeverAborts h)
    (hk : ∀ fault, NeverAborts (handler fault)) :
    NeverAborts (excepting h caught handler) := by
  apply Work.Avoids.catching hh
  intro e k hcatch
  exact of_caught hk hcatch

/-! ## §2  Each handler -/

theorem neverAborts_googleFailed {r : SignInRequest}
    {m : List (PyStr × Json)} {answer : α} :
    NeverAborts (googleFailed r m >>= fun _ => pure answer : Handler Db α) :=
  neverAborts_auditEvent.bind fun _ => Work.Avoids.pure

theorem neverAborts_configuredGoogleOidc {s : SignInServices ops Db}
    {cached : Option (GoogleOidc ops)} :
    NeverAborts (configuredGoogleOidc s cached) := by
  unfold configuredGoogleOidc
  cases cached with
  | some oidc => exact Work.Avoids.pure
  | none => exact neverAborts_perform

theorem neverAborts_startGoogleLogin {s : SignInServices ops Db}
    {r : SignInRequest} {cached : Option (GoogleOidc ops)} {now : ℤ} :
    NeverAborts (startGoogleLogin s r cached now) := by
  apply neverAborts_configuredGoogleOidc.bind
  intro client
  cases client with
  | none => exact neverAborts_googleFailed
  | some googleOidc =>
      apply Work.Avoids.bind
      · apply neverAborts_excepting neverAborts_perform
        intro _
        exact neverAborts_googleFailed
      · intro url
        cases url with
        | none => exact Work.Avoids.pure
        | some url =>
            exact neverAborts_auditEvent.bind fun _ => Work.Avoids.pure

theorem neverAborts_finishGoogleLogin {s : SignInServices ops Db}
    {r : SignInRequest} {q : Callback ops} :
    NeverAborts (finishGoogleLogin s r q) := by
  apply neverAborts_configuredGoogleOidc.bind
  intro client
  cases client with
  | none => exact neverAborts_googleFailed
  | some googleOidc =>
      rcases haccepted : accepted r q
          (googleOidc.readTransactionCookie q.transactionCookie) with
        _ | ⟨code, transaction, clientHost⟩
      · simp only [haccepted]
        exact neverAborts_googleFailed
      · simp only [haccepted]
        apply Work.Avoids.bind
        · apply neverAborts_excepting
          · apply neverAborts_perform.bind
            intro identity
            apply neverAborts_perform.bind
            intro user
            split
            · exact neverAborts_openSession.bind fun _ => Work.Avoids.pure
            · exact Work.Avoids.pure
          · intro _
            exact neverAborts_googleFailed
        · intro outcome
          cases outcome with
          | inl answer => exact Work.Avoids.pure
          | inr issued => exact Work.Avoids.pure

theorem neverAborts_localFailed {r : SignInRequest} :
    NeverAborts (localFailed r : Handler Db Response) :=
  neverAborts_auditEvent.bind fun _ => Work.Avoids.pure

theorem neverAborts_finishLocalLogin {s : SignInServices ops Db}
    {r : SignInRequest} {post : LoginPost} :
    NeverAborts (finishLocalLogin s r post) := by
  unfold finishLocalLogin
  split
  · apply neverAborts_perform.bind
    intro found
    cases found with
    | none => exact neverAborts_localFailed
    | some user =>
        exact neverAborts_openSession.bind fun _ => Work.Avoids.pure
  · exact neverAborts_localFailed

theorem abortsFirst_enableMfa {code : Option PyStr} :
    AbortsFirst (enableMfa S ctx currentUser code) := by
  apply silent_perform.then
  intro credential
  split
  · apply Work.Silent.then
    · apply silent_excepting silent_compute
      intro _
      exact Work.Silent.pure
    · intro secret
      cases secret with
      | none => exact abortsFirst_pure
      | some secret =>
          dsimp only
          split
          · apply silent_perform.then
            intro _
            exact abortsFirst_recorded neverAborts_audit
          · exact abortsFirst_pure
  · exact abortsFirst_pure

theorem abortsFirst_changePassword {form : Option PasswordChange} :
    AbortsFirst (changePassword S ctx currentUser form) := by
  cases form with
  | none => exact abortsFirst_pure
  | some form =>
      apply silent_perform.then
      intro credential
      cases credential with
      | none => exact abortsFirst_pure
      | some credential =>
          dsimp only
          split
          · exact abortsFirst_pure
          · split
            · exact abortsFirst_pure
            · apply Work.Silent.then
              · apply silent_excepting silent_compute
                intro _
                exact Work.Silent.pure
              · intro hash
                cases hash with
                | none => exact abortsFirst_pure
                | some hash =>
                    apply silent_perform.then
                    intro _
                    exact abortsFirst_recorded neverAborts_audit

theorem abortsFirst_logout {token : Option PyStr} :
    AbortsFirst (logout S ctx currentUser token) := by
  apply silent_perform.then
  intro _
  exact abortsFirst_recorded neverAborts_audit

theorem abortsFirst_updateSettings
    {values : Except Raised (List (PyStr × Option PyStr))} :
    AbortsFirst (updateSettings S ctx currentUser values) := by
  apply silent_given.then
  intro values
  apply silent_perform.then
  intro _
  apply neverAborts_audit.raisesFirst.then
  intro _
  exact neverAborts_perform.bind fun _ => Work.Avoids.pure

theorem abortsFirst_createUser {payload : Except Raised UserCreate} :
    AbortsFirst (createUser S ctx currentUser payload) := by
  apply silent_given.then
  intro payload
  apply silent_compute.then
  intro email
  apply silent_compute.then
  intro name
  apply silent_perform.then
  intro existing
  cases existing with
  | some user => exact abortsFirst_abort
  | none =>
      apply silent_perform.then
      intro user
      exact abortsFirst_recorded neverAborts_audit

theorem silent_leavesNoSuperAdmin {user : User} {payload : UserUpdate} :
    Work.Silent (leavesNoSuperAdmin S user payload) := by
  unfold leavesNoSuperAdmin
  split
  · exact silent_perform.bind fun _ => Work.Silent.pure
  · exact Work.Silent.pure

theorem abortsFirst_updateUser {userId : Uuid}
    {payload : Except Raised UserUpdate} :
    AbortsFirst (updateUser S ctx currentUser userId payload) := by
  apply silent_given.then
  intro payload
  apply silent_perform.then
  intro user
  cases user with
  | none => exact abortsFirst_abort
  | some user =>
      dsimp only
      split
      · exact abortsFirst_abort
      · apply silent_leavesNoSuperAdmin.then
        intro last
        split
        · exact abortsFirst_abort
        · apply silent_compute.then
          intro after
          apply silent_perform.then
          intro _
          exact abortsFirst_recorded neverAborts_audit

theorem silent_updateName {payload : BrandingUpdate} :
    Work.Silent (updateName S payload) := by
  unfold updateName
  split
  · exact Work.Silent.pure
  · exact silent_perform.bind fun _ => Work.Silent.pure

theorem silent_updateLogo {payload : BrandingUpdate} :
    Work.Silent (updateLogo S payload) := by
  unfold updateLogo
  split
  · exact silent_perform.bind fun _ => Work.Silent.pure
  · split
    · exact Work.Silent.pure
    · exact silent_abort
    · apply Work.Silent.bind
      · exact silent_excepting silent_perform fun _ => Work.Silent.raise
      · intro _
        exact Work.Silent.pure

theorem abortsFirst_updateBranding {payload : Except Raised BrandingUpdate} :
    AbortsFirst (updateBranding S ctx currentUser payload) := by
  apply silent_given.then
  intro payload
  apply silent_updateName.then
  intro named
  apply silent_updateLogo.then
  intro pictured
  dsimp only
  split
  · exact abortsFirst_abort
  · apply neverAborts_audit.raisesFirst.then
    intro _
    exact neverAborts_perform.bind fun _ => Work.Avoids.pure

theorem abortsFirst_revokeUserSessions {userId : Uuid} :
    AbortsFirst (revokeUserSessions S ctx currentUser userId) := by
  apply silent_perform.then
  intro user
  cases user with
  | none => exact abortsFirst_abort
  | some user =>
      apply silent_perform.then
      intro revoked
      exact abortsFirst_recorded neverAborts_audit

theorem abortsFirst_queueTestAlert {sink : AlertSinkName} :
    AbortsFirst (queueTestAlert S ctx currentUser sink) := by
  apply silent_perform.then
  intro _
  exact abortsFirst_recorded neverAborts_audit

theorem neverAborts_queueScan {rejected requested : String}
    {rejectedTarget : AuditTarget} {kind : SubjectKind}
    {rejectedMeta : List (PyStr × Json)} {unavailable : String}
    {subjectId : Uuid} {trigger : ScanTrigger} {scans : String} {htmx : Bool} :
    NeverAborts (queueScan S ctx currentUser rejected requested rejectedTarget
      kind rejectedMeta unavailable subjectId trigger scans htmx) := by
  apply Work.Avoids.bind
  · apply neverAborts_excepting
    · exact neverAborts_perform.bind fun _ => Work.Avoids.pure
    · intro fault
      exact neverAborts_audit.bind fun _ => Work.Avoids.pure
  · intro configured
    split
    · exact Work.Avoids.pure
    · apply neverAborts_perform.bind
      intro scanId
      apply neverAborts_audit.bind
      intro _
      exact Work.Avoids.commit.bind fun _ => Work.Avoids.pure

theorem abortsFirst_runAnalystScan {kind : SubjectKind}
    {query : Except Raised PyStr} {htmx : Bool} :
    AbortsFirst (runAnalystScan S ctx currentUser kind query htmx) := by
  apply silent_given.then
  intro query
  apply Work.Silent.then
  · exact silent_excepting silent_compute fun _ => Work.Silent.pure
  · intro normalized
    cases normalized with
    | inl fault => exact abortsFirst_pure
    | inr normalized =>
        apply silent_perform.then
        intro _
        apply silent_perform.then
        intro active
        split
        · exact abortsFirst_pure
        · apply silent_perform.then
          intro subjectId
          exact neverAborts_queueScan.raisesFirst

theorem abortsFirst_selfCheck {htmx : Bool} :
    AbortsFirst (selfCheck S ctx currentUser htmx) := by
  apply silent_compute.then
  intro normalized
  apply silent_perform.then
  intro _
  apply silent_perform.then
  intro active
  apply silent_perform.then
  intro remaining
  split
  · exact abortsFirst_pure
  · split
    · exact abortsFirst_pure
    · apply silent_perform.then
      intro subjectId
      exact neverAborts_queueScan.raisesFirst

theorem abortsFirst_revealFindingPassword {findingId : Uuid} :
    AbortsFirst (revealFindingPassword S ctx currentUser findingId) := by
  apply silent_perform.then
  intro finding
  cases finding with
  | none => exact abortsFirst_abort
  | some finding =>
      dsimp only
      split
      · apply Work.Silent.then
        · exact silent_excepting silent_compute fun _ => silent_abort
        · intro password
          apply silent_perform.then
          intro _
          exact abortsFirst_recorded neverAborts_audit
      · exact abortsFirst_abort

theorem abortsFirst_changeFinding {change : Callee Db Uuid} {action : String}
    {answer : Uuid → Response} :
    AbortsFirst (changeFinding ctx currentUser change action answer) := by
  apply Work.Silent.then
  · exact silent_excepting silent_perform fun _ => silent_abort
  · intro findingId
    exact abortsFirst_recorded neverAborts_audit

theorem abortsFirst_selfRemediate {findingId : Uuid} :
    AbortsFirst (selfRemediate S ctx currentUser findingId) := by
  apply silent_compute.then
  intro normalized
  apply silent_perform.then
  intro owned
  split
  · exact abortsFirst_changeFinding
  · exact abortsFirst_abort

theorem abortsFirst_exportSubjectCsv {subjectId : Uuid}
    {filters : Except Raised (List (PyStr × Json))} :
    AbortsFirst (exportSubjectCsv S ctx currentUser subjectId filters) := by
  apply silent_perform.then
  intro subject
  cases subject with
  | none => exact abortsFirst_abort
  | some subject =>
      apply silent_given.then
      intro filters
      apply silent_perform.then
      intro rows
      exact abortsFirst_recorded neverAborts_audit

theorem abortsFirst_createSchedule {form : Except Raised NewSchedule} :
    AbortsFirst (createSchedule S ctx currentUser form) := by
  apply silent_given.then
  intro schedule
  apply silent_perform.then
  intro scheduleId
  exact abortsFirst_recorded neverAborts_audit

theorem silent_lockedSchedule {scheduleId : Uuid} :
    Work.Silent (lockedSchedule S scheduleId) := by
  apply silent_perform.bind
  intro kind
  cases kind with
  | none => exact silent_abort
  | some kind => exact Work.Silent.pure

theorem abortsFirst_toggleSchedule {scheduleId : Uuid} :
    AbortsFirst (toggleSchedule S ctx currentUser scheduleId) := by
  apply silent_lockedSchedule.then
  intro kind
  apply silent_perform.then
  intro _
  exact abortsFirst_recorded neverAborts_audit

theorem abortsFirst_removeSchedule {scheduleId : Uuid} :
    AbortsFirst (removeSchedule S ctx currentUser scheduleId) := by
  apply silent_lockedSchedule.then
  intro kind
  apply neverAborts_audit.raisesFirst.then
  intro _
  exact neverAborts_perform.bind fun _ => Work.Avoids.pure

theorem silent_watchlistTarget {target : WatchlistTarget} :
    Work.Silent (watchlistTarget S target) := by
  cases target with
  | user email =>
      apply Work.Silent.bind
      · exact silent_excepting silent_compute fun _ => silent_abort
      · intro email
        apply silent_perform.bind
        intro userId
        cases userId with
        | none => exact silent_abort
        | some userId => exact Work.Silent.pure
  | subject id =>
      cases id with
      | none => exact silent_abort
      | some subjectId =>
          apply silent_perform.bind
          intro found
          split
          · exact Work.Silent.pure
          · exact silent_abort
  | unknown => exact silent_abort

theorem abortsFirst_addWatchlistEntry
    {form : Except Raised (WatchlistTarget × WatchlistFlags)} :
    AbortsFirst (addWatchlistEntry S ctx currentUser form) := by
  apply silent_given.then
  rintro ⟨target, flags⟩
  apply silent_watchlistTarget.then
  intro target
  apply silent_perform.then
  intro listed
  split
  · exact abortsFirst_abort
  · apply silent_perform.then
    intro entryId
    exact abortsFirst_recorded neverAborts_audit

theorem abortsFirst_removeWatchlistEntry {entryId : Uuid} :
    AbortsFirst (removeWatchlistEntry S ctx currentUser entryId) := by
  apply silent_perform.then
  intro found
  split
  · apply neverAborts_audit.raisesFirst.then
    intro _
    exact neverAborts_perform.bind fun _ => Work.Avoids.pure
  · exact abortsFirst_abort

theorem abortsFirst_toggleWatchlistChannel {entryId : Uuid} {channel : PyStr} :
    AbortsFirst (toggleWatchlistChannel S ctx currentUser entryId channel) := by
  unfold toggleWatchlistChannel
  split
  · exact abortsFirst_abort
  · apply silent_perform.then
    intro found
    split
    · apply silent_perform.then
      intro _
      exact abortsFirst_recorded neverAborts_audit
    · exact abortsFirst_abort

theorem abortsFirst_addBatch {form : Except Raised (BatchTarget × PyStr)} :
    AbortsFirst (addBatch S ctx currentUser form) := by
  apply silent_given.then
  rintro ⟨targetType, targetValue⟩
  apply Work.Silent.then
  · exact silent_excepting silent_perform fun _ => silent_abort
  · rintro ⟨batchId, total⟩
    apply neverAborts_audit.raisesFirst.then
    intro _
    exact Work.Avoids.commit.bind fun _ => Work.Avoids.pure

/-- By induction on the recipients. -/
theorem silent_enqueueAll (recipients : List (Uuid × List Uuid)) :
    Work.Silent (enqueueAll S recipients) := by
  induction recipients with
  | nil => exact Work.Silent.pure
  | cons recipient rest ih =>
      apply silent_perform.bind
      intro _
      exact ih

theorem abortsFirst_confirmNotifications
    {form : Except Raised (PyStr × PyStr)} :
    AbortsFirst (confirmNotifications S ctx currentUser form) := by
  apply silent_given.then
  rintro ⟨targetType, targetValue⟩
  apply silent_perform.then
  intro recipients
  apply (silent_enqueueAll recipients).then
  intro _
  exact abortsFirst_recorded neverAborts_audit

/-! ## §3  The law -/

/-- The request ends in a response or in an `HTTPException`. -/
def Answered (result : Except Raised Response) : Prop :=
  ∀ e, result = .error e → e.IsHttp

/-- A workspace sync whose client cannot be configured or cannot list its
users. -/
def Call.ListingFails (S : Services ops Db) (db : Db) : Call ops → Prop
  | .syncWorkspace => ∃ fault, S.listWorkspaceUsers db = .error fault ∧
      isWorkspaceFailure fault = true
  | _ => False

variable {u u' : UnitOfWork Db AuditLog}

theorem workspaceSyncFailed_not_ok {fault : Fault} {users : Snapshot} :
    workspaceSyncFailed ctx currentUser fault u ≠ (.ok users, u') := by
  intro h
  obtain ⟨x, v, -, h⟩ := Work.bind_ok.mp h
  cases h

/-- A sync that returns has listed its users. -/
theorem syncWorkspace_lists {answer : Response}
    (h : syncWorkspace S ctx currentUser u = (.ok answer, u')) :
    ∃ users db, S.listWorkspaceUsers u.world = .ok (users, db) := by
  obtain ⟨users, v, husers, -⟩ := Work.bind_ok.mp h
  rcases excepting_ok.mp husers with hlist | ⟨fault, w, -, -, hhandler⟩
  · obtain ⟨db, hdb, -⟩ := perform_ok.mp hlist
    exact ⟨users, db, hdb⟩
  · exact absurd hhandler workspaceSyncFailed_not_ok

/-- The one way in which a sync raises an `HTTPException`. -/
theorem syncWorkspace_aborts {e : Raised} (he : e.IsHttp)
    (h : syncWorkspace S ctx currentUser u = (.error e, u')) :
    (∃ fault, S.listWorkspaceUsers u.world = .error fault ∧
      isWorkspaceFailure fault = true) ∧
      ∃ event, event ∉ u.journal ∧ u' = { u with journal := u.journal ++ [event] } := by
  rcases Work.bind_error.mp h with h | ⟨users, v, -, h⟩
  · unfold excepting Work.catching at h
    rcases hlist : (perform S.listWorkspaceUsers : Handler Db Snapshot) u with
      ⟨e' | users, v⟩
    · obtain ⟨fault, hfault, rfl, rfl⟩ := perform_error.mp hlist
      rw [hlist] at h
      dsimp only at h
      by_cases hcaught : isWorkspaceFailure fault = true
      · rw [if_pos hcaught] at h
        refine ⟨⟨fault, hfault, hcaught⟩, ?_⟩
        rcases Work.bind_error.mp h with h | ⟨x, w, haudit, h⟩
        · exact absurd he (neverAborts_audit _ _ _ h)
        · cases h
          obtain ⟨event, -, hnew, hu'⟩ := auditEvent_ok haudit
          exact ⟨event, hnew, hu'⟩
      · rw [if_neg hcaught] at h
        cases h
        exact absurd he id
    · rw [hlist] at h
      cases h
  · rcases Work.bind_error.mp h with h | ⟨counts, w, -, h⟩
    · exact absurd he (neverAborts_perform _ _ _ h)
    · rcases Work.bind_error.mp h with h | ⟨x, w', -, h⟩
      · exact absurd he (neverAborts_audit _ _ _ h)
      · cases h

theorem abortsFirst_of_not_sync {x : Call ops} (hx : x ≠ .syncWorkspace) :
    AbortsFirst (x.handler S ctx currentUser) := by
  cases x with
  | startGoogleLogin => exact neverAborts_startGoogleLogin.raisesFirst
  | finishGoogleLogin => exact neverAborts_finishGoogleLogin.raisesFirst
  | finishLocalLogin => exact neverAborts_finishLocalLogin.raisesFirst
  | enableMfa => exact abortsFirst_enableMfa
  | changePassword => exact abortsFirst_changePassword
  | logout => exact abortsFirst_logout
  | updateSettings => exact abortsFirst_updateSettings
  | createUser => exact abortsFirst_createUser
  | updateUser => exact abortsFirst_updateUser
  | updateBranding => exact abortsFirst_updateBranding
  | revokeUserSessions => exact abortsFirst_revokeUserSessions
  | syncWorkspace => exact absurd rfl hx
  | queueTestAlert => exact abortsFirst_queueTestAlert
  | runAnalystScan => exact abortsFirst_runAnalystScan
  | selfCheck => exact abortsFirst_selfCheck
  | revealFindingPassword => exact abortsFirst_revealFindingPassword
  | markRemediated => exact abortsFirst_changeFinding
  | markUnremediated => exact abortsFirst_changeFinding
  | remediate => exact abortsFirst_changeFinding
  | unremediate => exact abortsFirst_changeFinding
  | selfRemediate => exact abortsFirst_selfRemediate
  | exportSubjectCsv => exact abortsFirst_exportSubjectCsv
  | createSchedule => exact abortsFirst_createSchedule
  | toggleSchedule => exact abortsFirst_toggleSchedule
  | removeSchedule => exact abortsFirst_removeSchedule
  | addWatchlistEntry => exact abortsFirst_addWatchlistEntry
  | removeWatchlistEntry => exact abortsFirst_removeWatchlistEntry
  | toggleWatchlistChannel => exact abortsFirst_toggleWatchlistChannel
  | addBatch => exact abortsFirst_addBatch
  | confirmNotifications => exact abortsFirst_confirmNotifications

/-- A sync keeps its events unless its listing fails. -/
theorem syncWorkspace_durable_iff {saved : Db × List AuditLog}
    (hends : Answered
      (getDbSession (syncWorkspace S ctx currentUser) saved).1) :
    (∀ event ∈ recorded (syncWorkspace S ctx currentUser) saved,
        event ∈ (getDbSession (syncWorkspace S ctx currentUser) saved).2.2) ↔
      ¬ ∃ fault, S.listWorkspaceUsers saved.1 = .error fault ∧
        isWorkspaceFailure fault = true := by
  rcases hrun : getDbSession (syncWorkspace S ctx currentUser) saved with
    ⟨e | answer, after⟩
  · have he : e.IsHttp := hends e (by rw [hrun])
    obtain ⟨v, hv, rfl⟩ := Work.run_error.mp hrun
    obtain ⟨hfails, event, hnew, rfl⟩ := syncWorkspace_aborts he hv
    refine iff_of_false ?_ (not_not_intro hfails)
    intro hkept
    -- the event stands past the end of what was there
    have hrecorded : event ∈ recorded (syncWorkspace S ctx currentUser) saved := by
      unfold recorded Work.appended
      rw [hv]
      show event ∈ (saved.2 ++ [event]).drop saved.2.length
      rw [List.drop_left]
      exact List.mem_singleton_self event
    exact hnew (hkept event hrecorded)
  · refine iff_of_true (Work.appended_kept hrun) ?_
    rintro ⟨fault, hfault, -⟩
    obtain ⟨v, hv, -⟩ := Work.run_ok.mp hrun
    obtain ⟨users, db, hdb⟩ := syncWorkspace_lists hv
    have hsame : S.listWorkspaceUsers saved.1 = .ok (users, db) := hdb
    rw [hfault] at hsame
    cases hsame

/-- **Audit events are durable.** Where a request ends in a response or in an
`HTTPException`, every audit event that it recorded is in the log afterwards:
unless it is a workspace sync whose client cannot be configured or cannot list
its users, which records that and then raises. -/
theorem audit_events_durable_iff (S : Services ops Db) (ctx : AuditContext)
    (currentUser : User) (x : Call ops) (saved : Db × List AuditLog)
    (hends : Answered (getDbSession (x.handler S ctx currentUser) saved).1) :
    (∀ event ∈ recorded (x.handler S ctx currentUser) saved,
        event ∈ (getDbSession (x.handler S ctx currentUser) saved).2.2) ↔
      ¬ x.ListingFails S saved.1 := by
  by_cases hx : x = .syncWorkspace
  · subst hx
    exact syncWorkspace_durable_iff hends
  · have hnever : ¬ x.ListingFails S saved.1 := by
      intro hfails
      cases x with
      | syncWorkspace => exact hx rfl
      | _ => exact hfails
    exact iff_of_true ((abortsFirst_of_not_sync hx).durable hends) hnever

/-- A deployment whose directory answers with `listing`. A sync calls no other
function, and they all fail. -/
def sampleServices {Db : Type} (listing : Except Fault Snapshot)
    (sync : Snapshot → Callee Db (ℕ × ℕ)) : Services asciiOps Db where
  __ := failing
  listWorkspaceUsers := fun db => listing.map fun users => (users, db)
  syncWorkspaceUsers := sync
where
  failing : Services asciiOps Db := default

/-- On the table of the accounts. -/
def syncAccounts (users : Snapshot) : Callee (UserTable asciiOps) (ℕ × ℕ) :=
  fun accounts =>
    match syncWorkspaceUsers asciiOps 0 users accounts with
    | .ok (accounts, result) => .ok ((result.seen, result.deactivated), accounts)
    | .error e => .error (.database e)

/-- An account, and one that the directory has suspended. -/
def sampleListing : Snapshot :=
  [(⟨PyStr.lit "g2", PyStr.lit "Ben@corp.example", PyStr.lit "Ben",
      PyStr.lit "/SOC", false⟩, 2),
    (⟨PyStr.lit "g3", PyStr.lit "eve@corp.example", PyStr.lit "Eve",
      PyStr.lit "/", true⟩, 3)]

def sampleSync : Handler (UserTable asciiOps) Response :=
  (Call.syncWorkspace : Call asciiOps).handler
    (sampleServices (.ok sampleListing) syncAccounts) sampleRequest.audit employee

theorem sampleSync_result :
    (getDbSession sampleSync (employees, [])).1.toOption.isSome = true ∧
      (getDbSession sampleSync (employees, [])).2.1.rows.map User.isActive =
        [true, true, false] ∧
      (recorded sampleSync (employees, [])).length = 1 := by
  decide +kernel

/-- The sync of a directory with users is recorded, and stays recorded. -/
theorem directory_sync_durable :
    (getDbSession sampleSync (employees, [])).2.1.rows.map User.isActive =
        [true, true, false] ∧
      (recorded sampleSync (employees, [])).length = 1 ∧
      ∀ event ∈ recorded sampleSync (employees, []),
        event ∈ (getDbSession sampleSync (employees, [])).2.2 := by
  obtain ⟨hreturns, hrows, hlength⟩ := sampleSync_result
  refine ⟨hrows, hlength, ?_⟩
  refine (audit_events_durable_iff (sampleServices (.ok sampleListing)
    syncAccounts) sampleRequest.audit employee .syncWorkspace (employees, [])
    ?_).mpr ?_
  · -- it is answered with the counts
    intro e he
    have hfails : (getDbSession sampleSync (employees, [])).1 = .error e := he
    rw [hfails] at hreturns
    cases hreturns
  · rintro ⟨fault, hfault, -⟩
    cases hfault

def unreachableSync : Handler Unit Response :=
  (Call.syncWorkspace : Call asciiOps).handler
    (sampleServices (.error .workspaceApi) fun _ _ => .error .key)
    sampleRequest.audit employee

/-- A directory that cannot be reached: the failure is recorded, and the
rollback takes the record away. -/
theorem unreachable_directory_unrecorded :
    ¬ ∀ (S : Services asciiOps Unit) (ctx : AuditContext) (currentUser : User)
      (x : Call asciiOps) (saved : Unit × List AuditLog),
      Answered (getDbSession (x.handler S ctx currentUser) saved).1 →
        ∀ event ∈ recorded (x.handler S ctx currentUser) saved,
          event ∈ (getDbSession (x.handler S ctx currentUser) saved).2.2 := by
  intro hall
  have hkept := hall (sampleServices (.error .workspaceApi) fun _ _ => .error .key)
    sampleRequest.audit employee .syncWorkspace ((), []) (by
      intro e he
      cases he
      exact trivial)
  have hrecorded : (recorded unreachableSync ((), [])).length = 1 := by
    decide +kernel
  obtain ⟨event, hevent⟩ := List.length_eq_one_iff.mp hrecorded
  have hlost := hkept event (by
    show event ∈ recorded unreachableSync ((), [])
    rw [hevent]
    exact List.mem_singleton_self event)
  cases hlost

end LeakcheckHub.Routers
