import LeakcheckHub.Scans.Admission

/-!
# Scans in progress

Admission refuses an actor as long as a scan of theirs is pending or running.
Such a scan is in somebody's hands as long as the process stays up and nothing
escapes from its task; nobody takes it up again after a stop.

§1 alive scans · §2 they finish · §3 runs · §4 the law.
-/

set_option linter.unusedSectionVars false

namespace LeakcheckHub.Scans

open Foundation

variable {Request : Type} [DecidableEq Request] {key : Uuid → ℤ}
  {s s' : State Request} {a : Action Request} {r q : Request} {i j : Uuid}

/-! ## §1  Alive scans -/

/-- A task works on the scan, or a request is about to add one. -/
def Alive (s : State Request) (i : Uuid) : Prop :=
  s.task i ≠ .idle ∨ ∃ r, s.request r = .committed i

/-- Nothing is pending or running that is not alive. -/
def Attended (s : State Request) : Prop :=
  ∀ scan ∈ s.scans, scan.status.active = true → Alive s scan.id

/-- The process is not stopped while a scan is pending or running, and no
exception escapes from a task, or from a request between the commit of its
scan and its task. -/
def Undisturbed (s : State Request) : Action Request → Prop
  | .stop => ∀ scan ∈ s.scans, scan.status.active = false
  | .crash _ => False
  | .fail r => (s.request r).handover = none
  | _ => True

instance (s : State Request) (a : Action Request) :
    Decidable (Undisturbed s a) :=
  match a with
  | .stop => inferInstanceAs (Decidable (∀ scan ∈ s.scans, scan.status.active = false))
  | .crash _ => .isFalse id
  | .fail r => inferInstanceAs (Decidable ((s.request r).handover = none))
  | .arrive .. | .lock _ | .active _ | .latest _ | .settle .. | .configure ..
  | .insert .. | .commit _ | .addTask _ | .respond _ | .start _ | .begin _
  | .scan _
  | .conclude .. | .finish _ | .restart | .tick _ => .isTrue trivial

/-! ## §2  They finish -/

/-- The steps of whoever has the scan. -/
def Own (i : Uuid) (s : State Request) : Action Request → Prop
  | .addTask r => s.request r = .committed i
  | .start j | .begin j | .scan j | .conclude j _ | .finish j => j = i
  | _ => False

/-- Those steps alone lead to its end. -/
def Finishes (key : Uuid → ℤ) (s : State Request) (i : Uuid) : Prop :=
  ∃ s', (system key).Leads (Own i) s s' ∧
    ∃ scan ∈ s'.scans, scan.id = i ∧ scan.status.active = false

theorem Finishes.step (h : Finishes key s' i) (ha : Own i s a)
    (hstep : step key s a = some s') : Finishes key s i := by
  obtain ⟨t, hrun, hended⟩ := h
  exact ⟨t, ((System.Leads.refl s).tail ha hstep).trans hrun, hended⟩

theorem finishes_of_concluding {startedAt : Timestamp} {outcome : ScanOutcome}
    (hs : Sane key s) (h : s.task i = .concluding startedAt outcome) :
    Finishes key s i := by
  obtain ⟨scan, hscan, hid, -⟩ := hs.task i (by rw [h]; exact fun h => nomatch h)
  refine ⟨{ s with
    scans := updateScan i (concludedRow startedAt outcome s.now)
      s.scans }.setTask i .idle,
    (System.Leads.refl s).tail (a := .finish i) rfl ?_,
    _, mem_updateScan_self hscan hid, (concludedRow_id _ _ _ _).trans hid, ?_⟩
  · simp only [system, Scans.step, h]
  · cases outcome <;> rfl

theorem finishes_of_scanning {startedAt : Timestamp} (hs : Sane key s)
    (h : s.task i = .scanning startedAt) : Finishes key s i := by
  have hstep : Scans.step key s (.conclude i (.failed [])) =
      some (s.setTask i (.concluding startedAt (.failed []))) := by
    simp only [Scans.step, h]
  exact (finishes_of_concluding (sane_step hs hstep) setTask_self).step
    (a := .conclude i (.failed [])) rfl hstep

theorem finishes_of_working (hs : Sane key s) (h : s.task i = .working) :
    Finishes key s i := by
  have hstep : Scans.step key s (.scan i) =
      some (s.setTask i (.scanning s.now)) := by
    simp only [Scans.step, h]
  exact (finishes_of_scanning (sane_step hs hstep) setTask_self).step
    (a := .scan i) rfl hstep

theorem finishes_of_starting {startedAt : Timestamp} (hs : Sane key s)
    (h : s.task i = .starting startedAt) : Finishes key s i := by
  have hstep : Scans.step key s (.begin i) = some ({ s with
      scans := updateScan i (startedRow startedAt) s.scans }.setTask i
        .working) := by
    simp only [Scans.step, h]
  exact (finishes_of_working (sane_step hs hstep) setTask_self).step
    (a := .begin i) rfl hstep

theorem finishes_of_queued (hs : Sane key s) (h : s.task i = .queued) :
    Finishes key s i := by
  obtain ⟨scan, hscan, hid, -⟩ := hs.task i (by rw [h]; decide)
  have hrow : i ∈ s.scans.map Scan.id := List.mem_map.mpr ⟨scan, hscan, hid⟩
  have hstep : Scans.step key s (.start i) =
      some (s.setTask i (.starting s.now)) := by
    simp only [Scans.step, h, if_pos hrow]
  exact (finishes_of_starting (sane_step hs hstep) setTask_self).step
    (a := .start i) rfl hstep

theorem finishes_of_alive (hs : Sane key s) (h : Alive s i) :
    Finishes key s i := by
  rcases h with hbusy | ⟨r, hr⟩
  · cases htask : s.task i with
    | idle => exact absurd htask hbusy
    | queued => exact finishes_of_queued hs htask
    | starting startedAt => exact finishes_of_starting hs htask
    | working => exact finishes_of_working hs htask
    | scanning startedAt => exact finishes_of_scanning hs htask
    | concluding startedAt outcome => exact finishes_of_concluding hs htask
  · have hstep : Scans.step key s (.addTask r) =
        some ((s.setTask i .queued).setRequest r .idle) := by
      simp only [Scans.step, hr]
    exact (finishes_of_queued (sane_step hs hstep) setTask_self).step
      (a := .addTask r) hr hstep

/-! ## §3  Runs -/

/-- Nobody loses a scan when `r` goes on without one. -/
theorem Alive.keep (h : Alive s i) (htask : s'.task = s.task)
    (hother : ∀ q, q ≠ r → s'.request q = s.request q)
    (hbefore : (s.request r).handover = none) : Alive s' i := by
  rcases h with hbusy | ⟨q, hq⟩
  · left
    rw [htask]
    exact hbusy
  · right
    refine ⟨q, ?_⟩
    rw [hother q, hq]
    rintro rfl
    rw [hq] at hbefore
    cases hbefore

/-- Nobody but the task of `i` does. -/
theorem Alive.keep_task (h : Alive s j) (hrequest : s'.request = s.request)
    (hother : ∀ k, k ≠ i → s'.task k = s.task k) (hj : j ≠ i) :
    Alive s' j := by
  rcases h with hbusy | ⟨q, hq⟩
  · left
    rw [hother j hj]
    exact hbusy
  · right
    exact ⟨q, hrequest ▸ hq⟩

theorem active_updateScan {f : Scan → Scan} {scans : List Scan} {scan : Scan}
    (hf : ∀ scan, (f scan).id = scan.id) (h : scan ∈ updateScan i f scans)
    (hi : scan.id ≠ i) : scan ∈ scans := by
  obtain ⟨old, hold, rfl⟩ := List.mem_map.mp h
  by_cases hid : old.id = i
  · rw [if_pos hid, hf] at hi
    exact absurd hid hi
  · rw [if_neg hid]
    exact hold

/-- A task that goes on attends its own scan. -/
theorem Attended.setTask {x : TaskState} (h : Attended s)
    (hrequest : s'.request = s.request)
    (htask : s'.task = (s.setTask i x).task) (hx : x ≠ .idle)
    (hrows : ∀ scan ∈ s'.scans, scan.id ≠ i → scan ∈ s.scans) :
    Attended s' := by
  intro scan hscan hactive
  by_cases hi : scan.id = i
  · left
    rw [hi, htask, setTask_self]
    exact hx
  · refine (h scan (hrows scan hscan hi) hactive).keep_task hrequest
      (fun k hk => ?_) hi
    rw [htask, setTask_ne hk]

/-- **Step lemma.** -/
theorem attended_step (hs : Sane key s) (hattended : Attended s)
    (ha : Undisturbed s a) (h : step key s a = some s') : Attended s' := by
  cases step_effect h with
  | move r x _ hbefore _ _ _ =>
      intro scan hscan hactive
      exact (hattended scan hscan hactive).keep rfl
        (fun q hq => setRequest_ne hq) hbefore
  | acquire r route actorId hrequest _ =>
      intro scan hscan hactive
      refine (hattended scan hscan hactive).keep (r := r) rfl
        (fun q hq => setRequest_ne hq) ?_
      rw [hrequest]
      rfl
  | leave r hbefore =>
      have hscans : ((s.release key r).setRequest r .idle).scans = s.scans :=
        release_scans
      intro scan hscan hactive
      rw [hscans] at hscan
      refine (hattended scan hscan hactive).keep release_task
        (fun q hq => ?_) hbefore
      rw [setRequest_ne hq, release_request]
  | commit r route actorId scan hrequest _ =>
      intro other hother hactive
      rcases List.mem_append.mp hother with hold | hnew
      · refine (hattended other hold hactive).keep (r := r) release_task
          (fun q hq => ?_) ?_
        · rw [setRequest_ne hq]
          exact congrFun release_request q
        · rw [hrequest]
          rfl
      · -- the new row is attended by the request that committed it
        right
        refine ⟨r, ?_⟩
        rw [List.mem_singleton.mp hnew, setRequest_self]
  | addTask r i hrequest =>
      intro scan hscan hactive
      by_cases hi : scan.id = i
      · left
        rw [hi]
        show (if i = i then TaskState.queued else s.task i) ≠ .idle
        rw [if_pos rfl]
        decide
      · rcases hattended scan hscan hactive with hbusy | ⟨q, hq⟩
        · left
          show (if scan.id = i then TaskState.queued else s.task scan.id) ≠
            .idle
          rw [if_neg hi]
          exact hbusy
        · right
          refine ⟨q, ?_⟩
          rw [setRequest_ne]
          · exact hq
          · rintro rfl
            rw [hrequest, RequestState.committed.injEq] at hq
            exact hi hq.symm
  | lose r i hrequest =>
      -- the condition keeps a request that has committed from failing
      rw [Undisturbed, hrequest] at ha
      cases ha
  | start i htask hrow =>
      exact hattended.setTask rfl rfl (fun h => nomatch h)
        fun _ hscan _ => hscan
  | vanish i htask hrow =>
      -- a queued task has its row
      obtain ⟨scan, hscan, hid, -⟩ := hs.task i (by rw [htask]; decide)
      exact absurd (List.mem_map.mpr ⟨scan, hscan, hid⟩) hrow
  | begin i startedAt htask =>
      refine hattended.setTask (i := i) (x := .working) rfl ?_ (by decide) ?_
      · rfl
      · exact fun _ hscan hi =>
          active_updateScan (startedRow_id startedAt) hscan hi
  | scan i htask =>
      exact hattended.setTask rfl rfl (fun h => nomatch h)
        fun _ hscan _ => hscan
  | conclude i startedAt outcome htask =>
      exact hattended.setTask rfl rfl (fun h => nomatch h)
        fun _ hscan _ => hscan
  | finish i startedAt outcome htask =>
      intro scan hscan hactive
      by_cases hi : scan.id = i
      · obtain ⟨old, -, rfl⟩ := List.mem_map.mp hscan
        by_cases hid : old.id = i
        · -- the row of the task is not active any more
          rw [if_pos hid, concludedRow_ended] at hactive
          cases hactive
        · rw [if_neg hid] at hi
          exact absurd hi hid
      · have hold :=
          active_updateScan (concludedRow_id startedAt outcome s.now) hscan hi
        exact (hattended scan hold hactive).keep_task rfl
          (fun k hk => setTask_ne hk) hi
  | crash i htask => exact absurd ha not_false
  | stop =>
      intro scan hscan hactive
      rw [ha scan hscan] at hactive
      cases hactive
  | clock up now =>
      intro scan hscan hactive
      exact hattended scan hscan hactive

/-- The steps that the condition excludes leave a scan to nobody. -/
theorem undisturbed_of_attended (hs : Sane key s)
    (h : step key s a = some s') (hattended : Attended s') :
    Undisturbed s a := by
  cases a with
  | stop =>
      cases h
      intro scan hscan
      by_contra hactive
      -- after a stop there is no task and no request to attend it
      rcases hattended scan hscan (Bool.of_not_eq_false hactive) with
        hbusy | ⟨r, hr⟩
      · exact hbusy rfl
      · cases hr
  | crash i =>
      simp only [step] at h
      split at h
      · cases h
      · rename_i hbusy
        cases h
        obtain ⟨scan, hscan, rfl, hstatus⟩ := hs.task i hbusy
        have hactive : scan.status.active = true := by
          rw [hstatus]
          cases s.task scan.id <;> rfl
        rcases hattended scan hscan hactive with hbusy' | ⟨r, hr⟩
        · exact hbusy' setTask_self
        · exact hbusy (hs.handover r scan.id hr).1
  | fail r =>
      simp only [step] at h
      split at h
      · cases h
      · cases h
        show (s.request r).handover = none
        cases hr : (s.request r).handover with
        | none => rfl
        | some i =>
            have hcommitted := handover_eq_some.mp hr
            rw [release_of_committed hcommitted] at hattended
            obtain ⟨hidle, scan, hscan, rfl, hstatus⟩ :=
              hs.handover r i hcommitted
            have hactive : scan.status.active = true := by
              rw [hstatus]
              rfl
            rcases hattended scan hscan hactive with hbusy | ⟨q, hq⟩
            · exact absurd hidle hbusy
            · by_cases hqr : q = r
              · rw [hqr, setRequest_self] at hq
                cases hq
              · rw [setRequest_ne hqr] at hq
                exact absurd (hs.once q r scan.id hq hcommitted) hqr
  | _ => exact trivial

/-- **Run lemma.** -/
theorem attended_reachable (h : (system key).ReachableUnder Undisturbed s) :
    Attended s := by
  have hboth : Sane key s ∧ Attended s := by
    refine h.invariant (I := fun s => Sane key s ∧ Attended s)
      (fun s₀ hinit => ?_) ?_
    · refine ⟨sane_initial hinit, ?_⟩
      intro scan hscan hactive
      rw [hinit.ended scan hscan] at hactive
      cases hactive
    · intro s₁ a s₂ hs ha hstep
      exact ⟨sane_step hs.1 hstep, attended_step hs.1 hs.2 ha hstep⟩
  exact hboth.2

/-! ## §4  The law -/

/-- The query for an active scan found one: the answer will be 409. -/
def RequestState.refusing : RequestState → Option Uuid
  | .activeRead actorId true | .refused actorId .inProgress => some actorId
  | _ => none

theorem activeFor_spec {route : Route} {actorId : Uuid} {scan : Scan}
    (h : activeFor route actorId scan = true) :
    scan.requestedBy = some actorId ∧ scan.status.active = true := by
  unfold activeFor at h
  rw [Bool.and_eq_true, Bool.and_eq_true, beq_iff_eq] at h
  exact h.1

/-- A query that makes its request refuse has seen an active scan. -/
theorem refusing_spec {actorId : Uuid}
    (h : step key s (.active r) = some s')
    (hrefusing : (s'.request r).refusing = some actorId) :
    ∃ scan ∈ s.scans, scan.requestedBy = some actorId ∧
      scan.status.active = true := by
  simp only [step] at h
  split at h
  · rename_i route actor hr
    cases h
    rw [setRequest_self] at hrefusing
    cases hfound : s.scans.any (activeFor route actor) with
    | false =>
        rw [hfound] at hrefusing
        cases route <;> cases hrefusing
    | true =>
        rw [hfound] at hrefusing
        have hactor : actor = actorId := by
          cases route <;> exact Option.some.inj hrefusing
        obtain ⟨scan, hscan, hactive⟩ := List.any_eq_true.mp hfound
        obtain ⟨hby, hstatus⟩ := activeFor_spec hactive
        exact ⟨scan, hscan, hactor ▸ hby, hstatus⟩
  · cases h

/-- **Attendance.** In every undisturbed run each pending or running scan is
alive and finishes by the steps of whoever has it; an actor is refused only
while such a scan of theirs is there; and the next step keeps all scans alive
exactly when it disturbs nothing. -/
theorem attendance (h : (system key).ReachableUnder Undisturbed s) :
    (∀ scan ∈ s.scans, scan.status.active = true →
      Alive s scan.id ∧ Finishes key s scan.id) ∧
    (∀ r s' actorId, step key s (.active r) = some s' →
      (s'.request r).refusing = some actorId →
        ∃ scan ∈ s.scans, scan.requestedBy = some actorId ∧
          Alive s scan.id ∧ Finishes key s scan.id) ∧
    ∀ a s', step key s a = some s' → (Attended s' ↔ Undisturbed s a) := by
  have hs := sane_reachable h
  have hattended := attended_reachable h
  refine ⟨?_, ?_, ?_⟩
  · intro scan hscan hactive
    have halive := hattended scan hscan hactive
    exact ⟨halive, finishes_of_alive hs halive⟩
  · intro r s' actorId hstep hrefusing
    obtain ⟨scan, hscan, hby, hactive⟩ := refusing_spec hstep hrefusing
    have halive := hattended scan hscan hactive
    exact ⟨scan, hscan, hby, halive, finishes_of_alive hs halive⟩
  · intro a s' hstep
    exact ⟨undisturbed_of_attended hs hstep,
      fun ha => attended_step hs hattended ha hstep⟩

theorem second_request_sees_a_live_scan :
    ∃ s s' scan, (system sampleLock).runUnder Undisturbed blank
        (askFor false .analyst 70 ++
          [.start 70, .begin 70, .arrive true .analyst 5, .lock true]) = some s ∧
      step sampleLock s (.active true) = some s' ∧
      s'.request true = .refused 5 .inProgress ∧
      scan ∈ s.scans ∧ Alive s scan.id ∧ Finishes sampleLock s scan.id := by
  have hrun : (system sampleLock).runUnder Undisturbed blank
      (askFor false .analyst 70 ++
        [.start 70, .begin 70, .arrive true .analyst 5, .lock true]) = some _ := rfl
  obtain ⟨scan, hscan, -, halive, hfinishes⟩ :=
    (attendance (System.reachable_of_runUnder (blank_initial sampleLock)
      hrun)).2.1 true _ 5 rfl rfl
  exact ⟨_, _, scan, hrun, rfl, rfl, hscan, halive, hfinishes⟩

/-- The process stops before the task has started, and starts again. -/
def stoppedInFlight : List (Action Bool) :=
  askFor false .analyst 70 ++
    [.stop, .restart, .arrive true .analyst 5, .lock true, .active true]

/-- The actor is refused for a scan that nobody will ever finish. -/
theorem stopped_scan_locks_out :
    ∃ s, (system sampleLock).runUnder (fun _ _ => True) blank
        stoppedInFlight = some s ∧
      s.request true = .refused 5 .inProgress ∧ ∀ i, ¬ Alive s i := by
  refine ⟨_, rfl, rfl, ?_⟩
  rintro i (hbusy | ⟨r, hr⟩)
  · exact hbusy rfl
  · cases r <;> cases hr

end LeakcheckHub.Scans
