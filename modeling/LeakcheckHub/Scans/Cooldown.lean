import LeakcheckHub.Scans.Admission
import Mathlib.Data.List.Nodup
import Mathlib.Tactic.Linarith

/-!
# The cooldown between self-checks

`self_check` refuses a user for the rest of a cooldown that counts from the
start of their latest self-check. The start is moved twice, by `execute_scan`
and by `run_scan`, but never before the request was admitted, and no more once
the scan has ended.

§1 the remaining cooldown · §2 a user's self-checks · §3 requests · §4 what
holds in every run · §5 what a request has seen · §6 admissions · §7 the law.
-/

set_option linter.unusedSectionVars false

namespace LeakcheckHub.Scans

open Foundation

/-! ## §1  The remaining cooldown -/

section Remaining

/-- Truncated seconds make up for no more than what has elapsed. -/
theorem le_elapsed_add_remaining {elapsed : ℤ} (h : 0 ≤ elapsed) (n : ℕ) :
    seconds n ≤
      elapsed + seconds (n - (elapsed.tdiv 1000000).toNat : ℕ) := by
  rw [Int.tdiv_eq_ediv_of_nonneg h]
  unfold seconds
  omega

theorem remaining_eq_zero {elapsed : ℤ} {n : ℕ} (h : seconds n ≤ elapsed) :
    n - (elapsed.tdiv 1000000).toNat = 0 := by
  unfold seconds at h
  have hnonneg : 0 ≤ elapsed := by omega
  rw [Int.tdiv_eq_ediv_of_nonneg hnonneg]
  omega

variable {startedAt now : Timestamp}

/-- After the remaining seconds the cooldown is over. -/
theorem cooldown_le (cooldownSeconds : ℕ) (h : startedAt ≤ now) :
    startedAt + seconds cooldownSeconds ≤
      now + seconds (cooldownRemaining (some startedAt) cooldownSeconds now) := by
  have hle := le_elapsed_add_remaining (Int.sub_nonneg_of_le h) cooldownSeconds
  unfold cooldownRemaining
  linarith

theorem cooldown_over {cooldownSeconds : ℕ}
    (h : startedAt + seconds cooldownSeconds ≤ now) :
    cooldownRemaining (some startedAt) cooldownSeconds now = 0 :=
  remaining_eq_zero (Int.le_sub_left_of_add_le h)

end Remaining

/-! ## §2  A user's self-checks -/

def isSelfCheck (userId : Uuid) (scan : Scan) : Bool :=
  scan.requestedBy == some userId && scan.trigger == .self

def selfChecks (scans : List Scan) (userId : Uuid) : List Scan :=
  scans.filter (isSelfCheck userId)

theorem mem_selfChecks {scans : List Scan} {userId : Uuid} {scan : Scan} :
    scan ∈ selfChecks scans userId ↔
      scan ∈ scans ∧ isSelfCheck userId scan = true := List.mem_filter

theorem latestSelfStart_eq (scans : List Scan) (userId : Uuid) :
    latestSelfStart scans userId =
      ((selfChecks scans userId).filterMap Scan.startedAt).max? := rfl

theorem selfChecks_updateScan {i : Uuid} {f : Scan → Scan} {userId : Uuid}
    {scans : List Scan}
    (hf : ∀ scan ∈ scans, scan.id = i → isSelfCheck userId scan = false ∧
      isSelfCheck userId (f scan) = false) :
    selfChecks (updateScan i f scans) userId = selfChecks scans userId := by
  induction scans with
  | nil => rfl
  | cons scan scans ih =>
      have hrest := ih fun x hx => hf x (List.mem_cons_of_mem _ hx)
      simp only [selfChecks, updateScan] at hrest ⊢
      rw [List.map_cons, List.filter_cons, List.filter_cons, hrest]
      by_cases hi : scan.id = i
      · obtain ⟨h, h'⟩ := hf scan List.mem_cons_self hi
        simp [hi, h, h']
      · simp [hi]

theorem selfChecks_append {scan : Scan} {userId : Uuid} {scans : List Scan}
    (h : isSelfCheck userId scan = false) :
    selfChecks (scans ++ [scan]) userId = selfChecks scans userId := by
  simp [selfChecks, List.filter_append, h]

theorem concludedRow_isSelfCheck (userId : Uuid) (startedAt : Timestamp)
    (outcome : ScanOutcome) (now : Timestamp) (scan : Scan) :
    isSelfCheck userId (concludedRow startedAt outcome now scan) =
      isSelfCheck userId scan := by
  cases outcome <;> rfl

theorem latestSelfStart_spec {scans : List Scan} {userId : Uuid}
    {m : Timestamp} (h : latestSelfStart scans userId = some m) :
    (∃ scan ∈ selfChecks scans userId, scan.startedAt = some m) ∧
      ∀ scan ∈ selfChecks scans userId, ∀ t, scan.startedAt = some t →
        t ≤ m := by
  rw [latestSelfStart_eq] at h
  constructor
  · obtain ⟨scan, hscan, ht⟩ := List.mem_filterMap.mp (List.max?_mem h)
    exact ⟨scan, hscan, ht⟩
  · intro scan hscan t ht
    exact (List.max?_le_iff h).mp (le_refl m) t
      (List.mem_filterMap.mpr ⟨scan, hscan, ht⟩)

theorem latestSelfStart_none {scans : List Scan} {userId : Uuid}
    (h : latestSelfStart scans userId = none) :
    ∀ scan ∈ selfChecks scans userId, scan.startedAt = none := by
  rw [latestSelfStart_eq, List.max?_eq_none_iff] at h
  exact List.filterMap_eq_nil_iff.mp h

variable {Request : Type} [DecidableEq Request] {key : Uuid → ℤ}
  {s s' t : State Request} {a : Action Request} {r q : Request} {i : Uuid}
  {userId : Uuid} {cooldownSeconds : ℕ}

/-! ## §3  Requests -/

/-- How a request moves on past its query for an active scan. -/
inductive Turn (s : State Request) (r : Request) :
    Action Request → RequestState → Prop
  | active (userId : Uuid) (hrequest : s.request r = .locked .selfCheck userId) :
      Turn s r (.active r)
        (.activeRead userId (s.scans.any (activeFor .selfCheck userId)))
  | grant (userId : Uuid) (hrequest : s.request r = .locked .analyst userId)
      (hfound : s.scans.any (activeFor .analyst userId) = false) :
      Turn s r (.active r) (.admitted .analyst userId)
  | latest (userId : Uuid) (found : Bool)
      (hrequest : s.request r = .activeRead userId found) :
      Turn s r (.latest r)
        (.latestRead userId found (latestSelfStart s.scans userId))
  | settle (userId : Uuid) (latest : Option Timestamp) (cooldownSeconds : ℕ)
      (hrequest : s.request r = .latestRead userId false latest)
      (hover : cooldownRemaining latest cooldownSeconds s.now = 0) :
      Turn s r (.settle r cooldownSeconds) (.admitted .selfCheck userId)
  | configure (route : Route) (userId subjectId : Uuid)
      (hrequest : s.request r = .admitted route userId) :
      Turn s r (.configure r (some subjectId))
        (.configured route userId subjectId)
  | insert (route : Route) (userId subjectId scanId : Uuid)
      (hrequest : s.request r = .configured route userId subjectId) :
      Turn s r (.insert r scanId) (.inserted route userId
        (.requested scanId subjectId (some userId) route.trigger))

/-- Between the query for an active scan and the answer. -/
def RequestState.checking : RequestState → Bool
  | .activeRead .. | .latestRead .. | .admitted .. | .configured ..
  | .inserted .. => true
  | _ => false

theorem turn_setRequest {x : RequestState} (hrequest : t.request = s.request)
    (hx : x.checking = true → Turn s q a x)
    (hchecking : ((t.setRequest q x).request r).checking = true) :
    (t.setRequest q x).request r = s.request r ∨
      Turn s r a ((t.setRequest q x).request r) := by
  by_cases hrq : r = q
  · right
    rw [hrq, setRequest_self] at hchecking ⊢
    exact hx hchecking
  · left
    rw [setRequest_ne hrq, hrequest]

theorem turn_of_unchecked {x : RequestState} (hrequest : t.request = s.request)
    (hx : x.checking = false)
    (hchecking : ((t.setRequest q x).request r).checking = true) :
    (t.setRequest q x).request r = s.request r ∨
      Turn s r a ((t.setRequest q x).request r) :=
  turn_setRequest hrequest
    (fun h => absurd (hx.symm.trans h) Bool.false_ne_true) hchecking

/-- Nothing but its own turns takes a request there. -/
theorem request_turn (h : step key s a = some s') (r : Request)
    (hchecking : (s'.request r).checking = true) :
    s'.request r = s.request r ∨ Turn s r a (s'.request r) := by
  cases a with
  | arrive q route userId =>
      simp only [step] at h
      split at h
      · split at h
        · cases h
          exact turn_of_unchecked rfl rfl hchecking
        · cases h
      · cases h
  | lock q =>
      simp only [step] at h
      split at h
      · split at h
        · cases h
          exact turn_of_unchecked rfl rfl hchecking
        · cases h
      · cases h
  | active q =>
      simp only [step] at h
      split at h
      · rename_i route userId hq
        cases h
        refine turn_setRequest rfl ?_ hchecking
        cases route with
        | analyst =>
            intro hx
            cases hfound : s.scans.any (activeFor .analyst userId) with
            | true =>
                rw [hfound] at hx
                cases hx
            | false => exact .grant userId hq hfound
        | selfCheck => exact fun _ => .active userId hq
      · cases h
  | latest q =>
      simp only [step] at h
      split at h
      · rename_i userId found hq
        cases h
        exact turn_setRequest rfl (fun _ => .latest userId found hq) hchecking
      · cases h
  | settle q cooldownSeconds =>
      simp only [step] at h
      split at h
      · rename_i userId found latest hq
        cases h
        refine turn_setRequest rfl (fun hx => ?_) hchecking
        cases found with
        | true => cases hx
        | false =>
            rcases Nat.eq_zero_or_pos
              (cooldownRemaining latest cooldownSeconds s.now) with hover | hpos
            · simp only [hover]
              exact .settle userId latest cooldownSeconds hq hover
            · simp only [hpos, if_true] at hx
              cases hx
      · cases h
  | configure q subjectId =>
      simp only [step] at h
      split at h
      · rename_i route userId hq
        cases h
        refine turn_setRequest rfl ?_ hchecking
        cases subjectId with
        | none => exact fun hx => absurd hx Bool.false_ne_true
        | some subjectId => exact fun _ => .configure route userId subjectId hq
      · cases h
  | insert q scanId =>
      simp only [step] at h
      split at h
      · rename_i route userId subjectId hq
        cases h
        exact turn_setRequest rfl
          (fun _ => .insert route userId subjectId scanId hq) hchecking
      · cases h
  | commit q =>
      simp only [step] at h
      split at h
      · split at h
        · cases h
        · cases h
          exact turn_of_unchecked release_request rfl hchecking
      · cases h
  | addTask q =>
      simp only [step] at h
      split at h
      · cases h
        exact turn_of_unchecked rfl rfl hchecking
      · cases h
  | respond q =>
      simp only [step] at h
      split at h
      · cases h
        exact turn_of_unchecked release_request rfl hchecking
      · cases h
  | fail q =>
      simp only [step] at h
      split at h
      · cases h
      · cases h
        exact turn_of_unchecked release_request rfl hchecking
  | stop =>
      cases h
      exact absurd hchecking Bool.false_ne_true
  | _ =>
      -- the steps of a task and of the clock move no request
      left
      simp only [step] at h
      repeat' split at h
      all_goals cases h <;> rfl

/-! ## §4  What holds in every run -/

/-- Nothing of the user's self-checks is pending or running. -/
def Quiet (s : State Request) (userId : Uuid) : Prop :=
  ∀ scan ∈ selfChecks s.scans userId, scan.status.active = false

/-- The step commits a self-check of the user. -/
def Admits (s : State Request) (userId : Uuid) : Action Request → Prop
  | .commit r => ∃ scan, s.request r = .inserted .selfCheck userId scan
  | _ => False

/-- The start that a task has read and not yet given its scan. -/
def TaskState.startingAt : TaskState → Option Timestamp
  | .starting startedAt => some startedAt
  | _ => none

/-- The start that a task has given its scan, or is about to give it anew. -/
def TaskState.begun (now : Timestamp) : TaskState → Option Timestamp
  | .idle | .queued | .starting _ => none
  | .working => some now
  | .scanning startedAt | .concluding startedAt _ => some startedAt

/-- It is past, and not before the start that the row has. -/
def TaskStamped (s : State Request) (i : Uuid) : Prop :=
  ∀ t, (s.task i).begun s.now = some t → t ≤ s.now ∧
    ∃ scan ∈ s.scans, scan.id = i ∧ ∃ t₀, scan.startedAt = some t₀ ∧ t₀ ≤ t

/-- No start is in the future. -/
def Stamped (s : State Request) : Prop :=
  ∀ scan ∈ s.scans, ∀ t, scan.startedAt = some t → t ≤ s.now

structure Clocked (key : Uuid → ℤ) (s : State Request) : Prop where
  sane : Sane key s
  fresh : ∀ r route userId scan, s.request r = .inserted route userId scan →
    scan.trigger = route.trigger ∧ scan.startedAt = none
  stamped : Stamped s
  starting : ∀ i t, (s.task i).startingAt = some t → t ≤ s.now
  tasks : ∀ i, TaskStamped s i

@[simp] theorem release_now : (s.release key r).now = s.now := by
  unfold State.release
  split <;> rfl

theorem now_le (h : step key s a = some s') : s.now ≤ s'.now := by
  cases a with
  | tick d =>
      cases h
      exact Int.le_add_of_nonneg_right (Int.natCast_nonneg d)
  | _ =>
      have hsame : s'.now = s.now := by
        simp only [step] at h
        repeat' split at h
        all_goals cases h <;> first | rfl | exact release_now
      exact le_of_eq hsame.symm

/-- The row of a task is not one of a user without active self-checks. -/
theorem Quiet.not_task (hquiet : Quiet s userId) (hs : Sane key s)
    (hbusy : s.task i ≠ .idle) :
    ∀ scan ∈ s.scans, scan.id = i → isSelfCheck userId scan = false := by
  intro scan hscan hid
  by_contra hown
  obtain ⟨row, hrow, hrowid, hstatus⟩ := hs.task i hbusy
  have heq : scan = row :=
    List.inj_on_of_nodup_map hs.ids hscan hrow (hid.trans hrowid.symm)
  have hended := hquiet scan
    (mem_selfChecks.mpr ⟨hscan, Bool.of_not_eq_false hown⟩)
  rw [heq, hstatus] at hended
  cases htask : s.task i <;> rw [htask] at hended <;> cases hended

/-- As long as nothing is admitted, the self-checks that have ended stay as
they are. -/
theorem selfChecks_step (hc : Clocked key s) (hquiet : Quiet s userId)
    (h : step key s a = some s') (ha : ¬ Admits s userId a) :
    selfChecks s'.scans userId = selfChecks s.scans userId := by
  cases step_effect h with
  | leave r hbefore =>
      show selfChecks (s.release key r).scans userId = _
      rw [release_scans]
  | commit r route actorId scan hrequest hfresh =>
      apply selfChecks_append
      by_contra hown
      rw [Bool.not_eq_false, isSelfCheck, Bool.and_eq_true, beq_iff_eq,
        beq_iff_eq, (hc.sane.inserted r route actorId scan hrequest).1,
        (hc.fresh r route actorId scan hrequest).1] at hown
      obtain ⟨hby, htrigger⟩ := hown
      cases hby
      cases route with
      | analyst => cases htrigger
      | selfCheck => exact ha ⟨scan, hrequest⟩
  | begin i startedAt htask =>
      apply selfChecks_updateScan
      intro scan hscan hid
      have hother := hquiet.not_task hc.sane
        (by rw [htask]; exact fun h => nomatch h) scan hscan hid
      exact ⟨hother, hother⟩
  | finish i startedAt outcome htask =>
      apply selfChecks_updateScan
      intro scan hscan hid
      have hother := hquiet.not_task hc.sane
        (by rw [htask]; exact fun h => nomatch h) scan hscan hid
      exact ⟨hother, (concludedRow_isSelfCheck _ _ _ _ _).trans hother⟩
  | _ => rfl

theorem mem_updateScan {f : Scan → Scan} {scans : List Scan} {scan : Scan}
    (h : scan ∈ updateScan i f scans) :
    scan ∈ scans ∨ ∃ old ∈ scans, old.id = i ∧ scan = f old := by
  obtain ⟨old, hold, rfl⟩ := List.mem_map.mp h
  by_cases hi : old.id = i
  · rw [if_pos hi]
    exact .inr ⟨old, hold, hi, rfl⟩
  · rw [if_neg hi]
    exact .inl hold

theorem TaskStamped.keep (h : TaskStamped s i) (htask : s'.task i = s.task i)
    (hrows : ∀ scan ∈ s.scans, scan.id = i → scan ∈ s'.scans)
    (hnow : s.now ≤ s'.now) : TaskStamped s' i := by
  intro t ht
  rw [htask] at ht
  cases hi : s.task i with
  | idle =>
      rw [hi] at ht
      cases ht
  | queued =>
      rw [hi] at ht
      cases ht
  | starting startedAt =>
      rw [hi] at ht
      cases ht
  | working =>
      rw [hi] at ht
      cases ht
      obtain ⟨-, scan, hscan, hid, t₀, ht₀, hle⟩ := h s.now (by rw [hi]; rfl)
      exact ⟨le_refl _, scan, hrows scan hscan hid, hid, t₀, ht₀,
        hle.trans hnow⟩
  | scanning startedAt =>
      rw [hi] at ht
      cases ht
      obtain ⟨hpast, scan, hscan, hid, hrow⟩ := h t (by rw [hi]; rfl)
      exact ⟨hpast.trans hnow, scan, hrows scan hscan hid, hid, hrow⟩
  | concluding startedAt outcome =>
      rw [hi] at ht
      cases ht
      obtain ⟨hpast, scan, hscan, hid, hrow⟩ := h t (by rw [hi]; rfl)
      exact ⟨hpast.trans hnow, scan, hrows scan hscan hid, hid, hrow⟩

theorem taskStamped_idle (h : s.task i = .idle) : TaskStamped s i := by
  intro t ht
  rw [h] at ht
  cases ht

/-- One task moves, and the others keep their rows. -/
theorem taskStamped_setTask {x : TaskState} (h : ∀ j, TaskStamped s j)
    (htask : s'.task = (s.setTask i x).task)
    (hrows : ∀ scan ∈ s.scans, scan.id ≠ i → scan ∈ s'.scans)
    (hnow : s.now ≤ s'.now) (hself : TaskStamped s' i) (j : Uuid) :
    TaskStamped s' j := by
  by_cases hji : j = i
  · rw [hji]
    exact hself
  · refine (h j).keep ((congrFun htask j).trans (setTask_ne hji)) ?_ hnow
    intro scan hscan hid
    exact hrows scan hscan (hid ▸ hji)

/-- One that has begun a scan goes on with the start that it had. -/
theorem TaskStamped.go_on {x : TaskState} (h : TaskStamped s i)
    (htask : s'.task = (s.setTask i x).task) (hscans : s'.scans = s.scans)
    (hnow : s.now ≤ s'.now)
    (hbegun : ∀ t, x.begun s'.now = some t →
      (s.task i).begun s.now = some t) : TaskStamped s' i := by
  intro t ht
  rw [htask, setTask_self] at ht
  obtain ⟨hpast, hrow⟩ := h t (hbegun t ht)
  rw [hscans]
  exact ⟨hpast.trans hnow, hrow⟩

theorem stamped_step (hc : Clocked key s) (h : step key s a = some s') :
    Stamped s' := by
  have hnow := now_le h
  cases step_effect h with
  | leave r hbefore =>
      intro scan hscan t ht
      have hold : scan ∈ s.scans := by
        rwa [show ((s.release key r).setRequest r .idle).scans = s.scans from
          release_scans] at hscan
      exact (hc.stamped scan hold t ht).trans hnow
  | commit r route actorId scan hrequest hfresh =>
      intro x hx t ht
      rcases List.mem_append.mp hx with hold | hnew
      · exact (hc.stamped x hold t ht).trans hnow
      · rw [List.mem_singleton.mp hnew,
          (hc.fresh r route actorId scan hrequest).2] at ht
        cases ht
  | begin i startedAt htask =>
      intro x hx t ht
      rcases mem_updateScan hx with hold | ⟨old, hold, -, rfl⟩
      · exact hc.stamped x hold t ht
      · cases ht
        exact hc.starting i startedAt (by rw [htask]; rfl)
  | finish i startedAt outcome htask =>
      intro x hx t ht
      rcases mem_updateScan hx with hold | ⟨old, hold, -, rfl⟩
      · exact hc.stamped x hold t ht
      · cases outcome with
        | succeeded resultCount newCount quota truncated =>
            cases ht
            exact (hc.tasks i startedAt (by rw [htask]; rfl)).1
        | failed error => exact hc.stamped old hold t ht
  | _ => exact fun scan hscan t ht => (hc.stamped scan hscan t ht).trans hnow

/-- The clock that a task starts with is read where it starts. -/
theorem starting_cases (h : step key s a = some s') {t : Timestamp}
    (ht : (s'.task i).startingAt = some t) :
    s'.task i = s.task i ∨ a = .start i ∧ t = s.now := by
  have hset : ∀ {j x}, s'.task = (s.setTask j x).task → x.startingAt = none →
      s'.task i = s.task i := by
    intro j x htask hx
    rw [htask] at ht ⊢
    by_cases hij : i = j
    · rw [hij, setTask_self, hx] at ht
      cases ht
    · exact setTask_ne hij
  cases step_effect h with
  | leave r hbefore => exact .inl (congrFun release_task i)
  | commit r route actorId scan hrequest hfresh =>
      exact .inl (congrFun release_task i)
  | addTask r j hrequest => exact .inl (hset (x := .queued) rfl rfl)
  | start j htask hrow =>
      by_cases hij : i = j
      · rw [hij, setTask_self] at ht
        cases ht
        exact .inr ⟨by rw [hij], rfl⟩
      · exact .inl (setTask_ne hij)
  | vanish j htask hrow => exact .inl (hset rfl rfl)
  | begin j startedAt htask => exact .inl (hset (x := .working) rfl rfl)
  | scan j htask => exact .inl (hset rfl rfl)
  | conclude j startedAt outcome htask => exact .inl (hset rfl rfl)
  | finish j startedAt outcome htask =>
      exact .inl (hset (x := .idle) rfl rfl)
  | crash j htask => exact .inl (hset rfl rfl)
  | stop => cases ht
  | _ => exact .inl rfl

theorem starting_step (hc : Clocked key s) (h : step key s a = some s')
    (i : Uuid) (t : Timestamp) (ht : (s'.task i).startingAt = some t) :
    t ≤ s'.now := by
  rcases starting_cases h ht with hsame | ⟨-, rfl⟩
  · rw [hsame] at ht
    exact (hc.starting i t ht).trans (now_le h)
  · exact now_le h

theorem taskStamped_step (hc : Clocked key s) (h : step key s a = some s')
    (j : Uuid) : TaskStamped s' j := by
  have hnow := now_le h
  have hold := hc.tasks j
  cases step_effect h with
  | leave r hbefore =>
      refine hold.keep (congrFun release_task j) ?_ hnow
      intro scan hscan _
      rwa [show ((s.release key r).setRequest r .idle).scans = s.scans from
        release_scans]
  | commit r route actorId scan hrequest hfresh =>
      exact hold.keep (congrFun release_task j)
        (fun _ hscan _ => List.mem_append_left _ hscan) hnow
  | addTask r i hrequest =>
      refine taskStamped_setTask hc.tasks rfl (fun _ hscan _ => hscan) hnow
        ((hc.tasks i).go_on (x := .queued) rfl rfl hnow fun t ht => ?_) j
      cases ht
  | start i htask hrow =>
      refine taskStamped_setTask hc.tasks rfl (fun _ hscan _ => hscan) hnow
        ((hc.tasks i).go_on rfl rfl hnow fun t ht => ?_) j
      cases ht
  | begin i startedAt htask =>
      refine taskStamped_setTask (i := i) (x := .working) hc.tasks ?_ ?_ hnow
        ?_ j
      · rfl
      · exact fun _ hscan hne => mem_updateScan_ne hscan hne
      · intro t ht
        rw [setTask_self] at ht
        cases ht
        obtain ⟨scan, hscan, hid, -⟩ :=
          hc.sane.task i (by rw [htask]; exact fun h => nomatch h)
        exact ⟨le_refl _, _, mem_updateScan_self hscan hid, hid, startedAt, rfl,
          hc.starting i startedAt (by rw [htask]; rfl)⟩
  | vanish i htask hrow =>
      exact taskStamped_setTask hc.tasks rfl (fun _ hscan _ => hscan) hnow
        (taskStamped_idle setTask_self) j
  | scan i htask =>
      refine taskStamped_setTask hc.tasks rfl (fun _ hscan _ => hscan) hnow
        ((hc.tasks i).go_on rfl rfl hnow fun t ht => ?_) j
      rw [htask]
      exact ht
  | conclude i startedAt outcome htask =>
      refine taskStamped_setTask hc.tasks rfl (fun _ hscan _ => hscan) hnow
        ((hc.tasks i).go_on rfl rfl hnow fun t ht => ?_) j
      rw [htask]
      exact ht
  | finish i startedAt outcome htask =>
      refine taskStamped_setTask (i := i) (x := .idle) hc.tasks ?_ ?_ hnow
        (taskStamped_idle setTask_self) j
      · rfl
      · exact fun _ hscan hne => mem_updateScan_ne hscan hne
  | crash i htask =>
      exact taskStamped_setTask hc.tasks rfl (fun _ hscan _ => hscan) hnow
        (taskStamped_idle setTask_self) j
  | stop => exact taskStamped_idle rfl
  | _ => exact hold.keep rfl (fun _ hscan _ => hscan) hnow

theorem clocked_step (hc : Clocked key s) (h : step key s a = some s') :
    Clocked key s' := by
  refine ⟨sane_step hc.sane h, ?_, stamped_step hc h, starting_step hc h,
    taskStamped_step hc h⟩
  intro r route userId scan hr
  rcases request_turn h r (by rw [hr]; rfl) with hsame | hturn
  · rw [hsame] at hr
    exact hc.fresh r route userId scan hr
  · rw [hr] at hturn
    cases hturn with
    | insert route userId subjectId scanId hrequest => exact ⟨rfl, rfl⟩

/-! ## §5  What a request has seen -/

/-- Under its lock, what a self-check has read stays true. -/
structure Looked (s : State Request) : Prop where
  active : ∀ r userId, s.request r = .activeRead userId false →
    Quiet s userId
  latest : ∀ r userId latest, s.request r = .latestRead userId false latest →
    Quiet s userId ∧ latest = latestSelfStart s.scans userId

theorem quiet_of_query
    (h : s.scans.any (activeFor .selfCheck userId) = false) :
    Quiet s userId := by
  intro scan hscan
  obtain ⟨hmem, hown⟩ := mem_selfChecks.mp hscan
  rw [isSelfCheck, Bool.and_eq_true] at hown
  by_contra hactive
  refine List.any_eq_false.mp h scan hmem ?_
  rw [activeFor, hown.1, Bool.of_not_eq_false hactive]
  exact hown.2

/-- Who has the user's lock keeps the others from committing. -/
theorem not_admits_of_holder (hs : Sane key s)
    (hr : (s.request r).holder = some userId)
    (hne : ∀ scan, s.request r ≠ .inserted .selfCheck userId scan) :
    ¬ Admits s userId a := by
  cases a with
  | commit q =>
      rintro ⟨scan, hq⟩
      have hlock := hs.held q userId (by rw [hq]; rfl)
      rw [hs.held r userId hr, Option.some.injEq] at hlock
      exact hne scan (hlock ▸ hq)
  | _ => exact not_false

theorem Quiet.step (hquiet : Quiet s userId) (hc : Clocked key s)
    (h : step key s a = some s') (ha : ¬ Admits s userId a) :
    Quiet s' userId := by
  intro scan hscan
  rw [selfChecks_step hc hquiet h ha] at hscan
  exact hquiet scan hscan

theorem latestSelfStart_step (hquiet : Quiet s userId) (hc : Clocked key s)
    (h : step key s a = some s') (ha : ¬ Admits s userId a) :
    latestSelfStart s'.scans userId = latestSelfStart s.scans userId := by
  rw [latestSelfStart_eq, latestSelfStart_eq, selfChecks_step hc hquiet h ha]

theorem looked_step (hc : Clocked key s) (hl : Looked s)
    (h : step key s a = some s') : Looked s' := by
  constructor
  case active =>
    intro r userId hr
    rcases request_turn h r (by rw [hr]; rfl) with hsame | hturn
    · rw [hr] at hsame
      refine (hl.active r userId hsame.symm).step hc h ?_
      exact not_admits_of_holder hc.sane (by rw [← hsame]; rfl)
        (fun scan hi => by rw [← hsame] at hi; cases hi)
    · rw [hr] at hturn
      generalize hfound : false = found at hturn
      cases hturn with
      | active userId hrequest =>
          exact (quiet_of_query hfound.symm).step hc h not_false
  case latest =>
    intro r userId latest hr
    rcases request_turn h r (by rw [hr]; rfl) with hsame | hturn
    · rw [hr] at hsame
      obtain ⟨hquiet, heq⟩ := hl.latest r userId latest hsame.symm
      have ha : ¬ Admits s userId a :=
        not_admits_of_holder hc.sane (by rw [← hsame]; rfl)
          (fun scan hi => by rw [← hsame] at hi; cases hi)
      exact ⟨hquiet.step hc h ha,
        heq.trans (latestSelfStart_step hquiet hc h ha).symm⟩
    · rw [hr] at hturn
      cases hturn with
      | latest userId found hrequest =>
          have hquiet := hl.active r userId hrequest
          exact ⟨hquiet.step hc h not_false,
            (latestSelfStart_step hquiet hc h not_false).symm⟩

/-- `Initial`, with no start in the future. -/
def clockedSystem (key : Uuid → ℤ) :
    System (State Request) (Action Request) where
  init := fun s => Initial s ∧ Stamped s
  step := step key

theorem clocked_initial (h : Initial s) (hstamped : Stamped s) :
    Clocked key s ∧ Looked s := by
  refine ⟨⟨sane_initial h, ?_, hstamped, ?_,
    fun i => taskStamped_idle (h.task i)⟩, ?_, ?_⟩
  · intro r route userId scan hr
    rw [h.request r] at hr
    cases hr
  · intro i t ht
    rw [h.task i] at ht
    cases ht
  · intro r userId hr
    rw [h.request r] at hr
    cases hr
  · intro r userId latest hr
    rw [h.request r] at hr
    cases hr

/-! ## §6  Admissions -/

/-- An admitted self-check: when its cooldown was found to be over, and when
its scan was committed. -/
structure Admission where
  userId : Uuid
  scanId : Uuid
  decidedAt : Timestamp
  admittedAt : Timestamp
deriving DecidableEq, Repr

/-- What an observer notes of a run; the newest admission is the first. -/
structure Ledger (Request : Type) where
  decidedAt : Request → Timestamp
  admissions : List Admission

def Ledger.empty : Ledger Request := ⟨fun _ => 0, []⟩

def noteCheck (s : State Request) (h : Ledger Request) :
    Action Request → Ledger Request
  | .settle r _ =>
      { h with decidedAt := fun q => if q = r then s.now else h.decidedAt q }
  | .commit r =>
      match s.request r with
      | .inserted .selfCheck userId scan =>
          { h with admissions :=
            ⟨userId, scan.id, h.decidedAt r, s.now⟩ :: h.admissions }
      | _ => h
  | _ => h

/-- The configured cooldown is the same in every request. -/
def Constant (cooldownSeconds : ℕ) (_ : State Request) :
    Action Request → Prop
  | .settle _ n => n = cooldownSeconds
  | _ => True

instance (n : ℕ) (s : State Request) (a : Action Request) :
    Decidable (Constant n s a) :=
  match a with
  | .settle _ m => inferInstanceAs (Decidable (m = n))
  | .arrive .. | .lock _ | .active _ | .latest _ | .configure .. | .insert ..
  | .commit _ | .addTask _ | .respond _ | .fail _ | .start _ | .begin _
  | .scan _ | .conclude .. | .finish _ | .crash _ | .stop | .restart | .tick _ =>
      .isTrue trivial

/-- A self-check past its cooldown. -/
def RequestState.granted : RequestState → Option Uuid
  | .admitted .selfCheck userId | .configured .selfCheck userId _
  | .inserted .selfCheck userId _ => some userId
  | _ => none

/-- The row of an admission is pending, or started no earlier. -/
def StartedSince (s : State Request) (e : Admission) : Prop :=
  ∃ scan ∈ s.scans, scan.id = e.scanId ∧ isSelfCheck e.userId scan = true ∧
    (scan.status = .pending ∨
      ∃ t, scan.startedAt = some t ∧ e.admittedAt ≤ t)

/-- Nor is its task about to start it with an earlier clock. -/
def Rowed (s : State Request) (e : Admission) : Prop :=
  StartedSince s e ∧
    ∀ t, (s.task e.scanId).startingAt = some t → e.admittedAt ≤ t

/-- Between the admissions of a user, the newest first, lies the cooldown. -/
def Apart (cooldownSeconds : ℕ) (admissions : List Admission) : Prop :=
  admissions.Pairwise fun later earlier => later.userId = earlier.userId →
    earlier.admittedAt + seconds cooldownSeconds ≤ later.decidedAt ∧
      later.decidedAt ≤ later.admittedAt

structure Spaced (key : Uuid → ℤ) (cooldownSeconds : ℕ)
    (x : Recorded (State Request) (Ledger Request)) : Prop where
  clocked : Clocked key x.state
  looked : Looked x.state
  past : ∀ e ∈ x.history.admissions, e.admittedAt ≤ x.state.now
  rows : ∀ e ∈ x.history.admissions, Rowed x.state e
  granted : ∀ r userId, (x.state.request r).granted = some userId →
    ∀ e ∈ x.history.admissions, e.userId = userId →
      e.admittedAt + seconds cooldownSeconds ≤ x.history.decidedAt r
  decided : ∀ r userId, (x.state.request r).granted = some userId →
    x.history.decidedAt r ≤ x.state.now
  apart : Apart cooldownSeconds x.history.admissions

/-- The row itself. -/
theorem row_step {e : Admission} (hc : Clocked key s)
    (he : StartedSince s e)
    (hstarting : ∀ t, (s.task e.scanId).startingAt = some t →
      e.admittedAt ≤ t)
    (h : step key s a = some s') : StartedSince s' e := by
  have hkeep : (∀ scan ∈ s.scans, scan ∈ s'.scans) → StartedSince s' e := by
    intro hrows
    obtain ⟨scan, hscan, hrest⟩ := he
    exact ⟨scan, hrows scan hscan, hrest⟩
  cases step_effect h with
  | leave r hbefore =>
      refine hkeep fun scan hscan => ?_
      rwa [show ((s.release key r).setRequest r .idle).scans = s.scans from
        release_scans]
  | commit r route actorId scan hrequest hfresh =>
      exact hkeep fun _ hscan => List.mem_append_left _ hscan
  | begin i startedAt htask =>
      obtain ⟨scan, hscan, hid, hown, hrest⟩ := he
      by_cases hi : scan.id = i
      · refine ⟨_, mem_updateScan_self hscan hi, hid, hown,
          .inr ⟨startedAt, rfl, hstarting startedAt ?_⟩⟩
        rw [← hid, hi, htask]
        rfl
      · exact ⟨scan, mem_updateScan_ne hscan hi, hid, hown, hrest⟩
  | finish i startedAt outcome htask =>
      obtain ⟨scan, hscan, hid, hown, hrest⟩ := he
      by_cases hi : scan.id = i
      · have hbusy : s.task i ≠ .idle := by
          rw [htask]
          exact fun h => nomatch h
        -- the task has started the row, before it read the clock again
        obtain ⟨-, row, hrow, hrowid, t₀, ht₀, hle⟩ :=
          hc.tasks i startedAt (by rw [htask]; rfl)
        obtain ⟨row', hrow', hrowid', hstatus⟩ := hc.sane.task i hbusy
        have heq : row = scan :=
          List.inj_on_of_nodup_map hc.sane.ids hrow hscan
            (hrowid.trans hi.symm)
        have heq' : row' = scan :=
          List.inj_on_of_nodup_map hc.sane.ids hrow' hscan
            (hrowid'.trans hi.symm)
        rw [heq] at ht₀
        rw [heq', htask] at hstatus
        obtain hpending | ⟨t, ht, hadmitted⟩ := hrest
        · rw [hpending] at hstatus
          cases hstatus
        · refine ⟨_, mem_updateScan_self hscan hi,
            (concludedRow_id _ _ _ _).trans hid,
            (concludedRow_isSelfCheck _ _ _ _ _).trans hown, .inr ?_⟩
          cases outcome with
          | succeeded resultCount newCount quota truncated =>
              rw [ht₀, Option.some.injEq] at ht
              exact ⟨startedAt, rfl, hadmitted.trans (ht ▸ hle)⟩
          | failed error => exact ⟨t, ht, hadmitted⟩
      · exact ⟨scan, mem_updateScan_ne hscan hi, hid, hown, hrest⟩
  | _ => exact hkeep fun _ hscan => hscan

theorem rowed_step {e : Admission} (hc : Clocked key s)
    (hpast : e.admittedAt ≤ s.now) (he : Rowed s e)
    (h : step key s a = some s') : Rowed s' e := by
  obtain ⟨hrow, hstarting⟩ := he
  refine ⟨?_, fun t ht => ?_⟩
  · exact row_step hc hrow hstarting h
  · rcases starting_cases h ht with hsame | ⟨-, rfl⟩
    · rw [hsame] at ht
      exact hstarting t ht
    · exact hpast

theorem holder_of_granted {x : RequestState} (h : x.granted = some userId) :
    x.holder = some userId ∧ x.checking = true := by
  cases x with
  | admitted route u => cases route <;> first | exact ⟨h, rfl⟩ | cases h
  | configured route u subjectId =>
      cases route <;> first | exact ⟨h, rfl⟩ | cases h
  | inserted route u scan => cases route <;> first | exact ⟨h, rfl⟩ | cases h
  | _ => cases h

/-- Only the commit of a self-check adds an admission. -/
theorem admissions_cases (s : State Request) (h : Ledger Request)
    (a : Action Request) :
    (noteCheck s h a).admissions = h.admissions ∨
      ∃ r userId scan, a = .commit r ∧
        s.request r = .inserted .selfCheck userId scan ∧
        (noteCheck s h a).admissions =
          ⟨userId, scan.id, h.decidedAt r, s.now⟩ :: h.admissions := by
  cases a with
  | commit r =>
      cases hr : s.request r with
      | inserted route userId scan =>
          cases route with
          | analyst =>
              left
              simp only [noteCheck, hr]
          | selfCheck =>
              right
              refine ⟨r, userId, scan, rfl, hr, ?_⟩
              simp only [noteCheck, hr]
      | _ =>
          left
          simp only [noteCheck, hr]
  | _ => exact .inl rfl

theorem mem_admissions {h : Ledger Request} {e : Admission}
    (he : e ∈ (noteCheck s h a).admissions) :
    e ∈ h.admissions ∨ ∃ r userId scan, a = .commit r ∧
      s.request r = .inserted .selfCheck userId scan ∧
      e = ⟨userId, scan.id, h.decidedAt r, s.now⟩ := by
  rcases admissions_cases s h a with heq | ⟨r, userId, scan, ha, hr, heq⟩
  · rw [heq] at he
    exact .inl he
  · rw [heq] at he
    rcases List.mem_cons.mp he with hnew | hold
    · exact .inr ⟨r, userId, scan, ha, hr, hnew⟩
    · exact .inl hold

theorem rowed_of_commit {scan : Scan} {d now : Timestamp} (hc : Clocked key s)
    (h : step key s (.commit r) = some s')
    (hr : s.request r = .inserted .selfCheck userId scan) :
    Rowed s' ⟨userId, scan.id, d, now⟩ := by
  obtain ⟨hby, hpending⟩ := hc.sane.inserted r .selfCheck userId scan hr
  obtain ⟨htrigger, -⟩ := hc.fresh r .selfCheck userId scan hr
  have hown : isSelfCheck userId scan = true := by
    rw [isSelfCheck, hby, htrigger]
    simp [Route.trigger]
  simp only [step, hr] at h
  split at h
  · cases h
  · rename_i hfresh
    cases h
    refine ⟨⟨scan, List.mem_append_right _ List.mem_cons_self, rfl, hown,
      .inl hpending⟩, fun t ht => ?_⟩
    -- a new identifier has no task yet
    have htask : (s.task scan.id).startingAt = some t :=
      (congrArg TaskState.startingAt (congrFun release_task scan.id)).symm.trans
        ht
    obtain ⟨old, hold, hid, -⟩ := hc.sane.task scan.id
      (fun hidle => by rw [hidle] at htask; cases htask)
    exact absurd (List.mem_map.mpr ⟨old, hold, hid⟩) hfresh

/-- A cooldown that is over is over since every admission. -/
theorem over_since {latest : Option Timestamp} {n : ℕ} {e : Admission}
    (hc : Clocked key s) (hquiet : Quiet s userId)
    (hlatest : latest = latestSelfStart s.scans userId)
    (hover : cooldownRemaining latest n s.now = 0) (he : Rowed s e)
    (huser : e.userId = userId) : e.admittedAt + seconds n ≤ s.now := by
  obtain ⟨⟨scan, hscan, -, hown, hrest⟩, -⟩ := he
  rw [huser] at hown
  have hmem := mem_selfChecks.mpr ⟨hscan, hown⟩
  obtain hpending | ⟨t, ht, hadmitted⟩ := hrest
  · have hended := hquiet scan hmem
    rw [hpending] at hended
    cases hended
  · cases hm : latestSelfStart s.scans userId with
    | none =>
        rw [latestSelfStart_none hm scan hmem] at ht
        cases ht
    | some m =>
        obtain ⟨⟨row, hrow, hstart⟩, hmax⟩ := latestSelfStart_spec hm
        have hpast := hc.stamped row (mem_selfChecks.mp hrow).1 m hstart
        have hle := cooldown_le n hpast
        rw [hlatest, hm] at hover
        rw [hover] at hle
        calc e.admittedAt + seconds n
            ≤ m + seconds n := by
              have := hmax scan hmem t ht
              linarith
          _ ≤ s.now + seconds ((0 : ℕ) : ℤ) := hle
          _ = s.now := by simp [seconds]

/-- Who settles is not past the cooldown yet. -/
theorem decidedAt_of_granted {g : Ledger Request}
    (h : step key s a = some s') (hr : (s.request r).granted = some userId) :
    (noteCheck s g a).decidedAt r = g.decidedAt r := by
  cases a with
  | settle q n =>
      apply if_neg
      rintro rfl
      simp only [step] at h
      split at h
      · rename_i hq
        rw [hq] at hr
        cases hr
      · cases h
  | commit q =>
      simp only [noteCheck]
      split <;> rfl
  | _ => rfl

/-- A request gets past the cooldown where it settles, and takes its other
turns there unnoticed. -/
theorem Turn.granted {x : RequestState} (h : Turn s r a x)
    (hx : x.granted = some userId) :
    (∃ latest n, a = .settle r n ∧
        s.request r = .latestRead userId false latest ∧
        cooldownRemaining latest n s.now = 0) ∨
      ((s.request r).granted = some userId ∧
        ∀ g : Ledger Request, noteCheck s g a = g) := by
  cases h with
  | active u hrequest => cases hx
  | grant u hrequest hfound => cases hx
  | latest u found hrequest => cases hx
  | settle u latest n hrequest hover =>
      cases hx
      exact .inl ⟨latest, n, rfl, hrequest, hover⟩
  | configure route u subjectId hrequest =>
      refine .inr ⟨?_, fun _ => rfl⟩
      rw [hrequest]
      cases route with
      | analyst => cases hx
      | selfCheck => exact hx
  | insert route u subjectId scanId hrequest =>
      refine .inr ⟨?_, fun _ => rfl⟩
      rw [hrequest]
      cases route with
      | analyst => cases hx
      | selfCheck => exact hx

section Steps

variable {x y : Recorded (State Request) (Ledger Request)}

theorem granted_step (hx : Spaced key cooldownSeconds x)
    (ha : Constant cooldownSeconds x.state a)
    (h : step key x.state a = some y.state)
    (hh : y.history = noteCheck x.state x.history a) (r : Request)
    (hr : (y.state.request r).granted = some userId) :
    ∀ e ∈ y.history.admissions, e.userId = userId →
      e.admittedAt + seconds cooldownSeconds ≤ y.history.decidedAt r := by
  rw [hh]
  intro e he huser
  rcases request_turn h r (holder_of_granted hr).2 with hsame | hturn
  · rw [hsame] at hr
    rw [decidedAt_of_granted h hr]
    rcases mem_admissions he with hold | ⟨q, u, scan, rfl, hq, rfl⟩
    · exact hx.granted r userId hr e hold huser
    · -- two requests would have the lock of one user
      have hlock := hx.clocked.sane.held q u (by rw [hq]; rfl)
      rw [show u = userId from huser,
        hx.clocked.sane.held r userId (holder_of_granted hr).1,
        Option.some.injEq] at hlock
      rw [← hlock] at hq
      simp only [step, ← hlock, hq] at h
      split at h
      · cases h
      · have hy := congrArg (fun t => t.request r) (Option.some.inj h)
        rw [setRequest_self, hsame, hq] at hy
        cases hy
  · rcases hturn.granted hr with
      ⟨latest, n, rfl, hrequest, hover⟩ | ⟨hgranted, hnote⟩
    · cases ha
      obtain ⟨hquiet, hlatest⟩ := hx.looked.latest r userId latest hrequest
      have hsince := over_since hx.clocked hquiet hlatest hover
        (hx.rows e he) huser
      simpa [noteCheck] using hsince
    · rw [hnote] at he ⊢
      exact hx.granted r userId hgranted e he huser

theorem decided_step (hx : Spaced key cooldownSeconds x)
    (h : step key x.state a = some y.state)
    (hh : y.history = noteCheck x.state x.history a) (r : Request)
    (hr : (y.state.request r).granted = some userId) :
    y.history.decidedAt r ≤ y.state.now := by
  have hnow := now_le h
  rw [hh]
  rcases request_turn h r (holder_of_granted hr).2 with hsame | hturn
  · rw [hsame] at hr
    rw [decidedAt_of_granted h hr]
    exact (hx.decided r userId hr).trans hnow
  · rcases hturn.granted hr with ⟨latest, n, rfl, -, -⟩ | ⟨hgranted, hnote⟩
    · simpa [noteCheck] using hnow
    · rw [hnote]
      exact (hx.decided r userId hgranted).trans hnow

/-- **Step lemma.** -/
theorem spaced_step (hx : Spaced key cooldownSeconds x)
    (ha : Constant cooldownSeconds x.state a)
    (h : step key x.state a = some y.state)
    (hh : y.history = noteCheck x.state x.history a) :
    Spaced key cooldownSeconds y := by
  have hnow := now_le h
  constructor
  case clocked => exact clocked_step hx.clocked h
  case looked => exact looked_step hx.clocked hx.looked h
  case granted => exact fun r userId hr => granted_step hx ha h hh r hr
  case decided => exact fun r userId hr => decided_step hx h hh r hr
  case past =>
    rw [hh]
    intro e he
    rcases mem_admissions he with hold | ⟨q, u, scan, rfl, hq, rfl⟩
    · exact (hx.past e hold).trans hnow
    · exact hnow
  case rows =>
    rw [hh]
    intro e he
    rcases mem_admissions he with hold | ⟨q, u, scan, rfl, hq, rfl⟩
    · exact rowed_step hx.clocked (hx.past e hold) (hx.rows e hold) h
    · exact rowed_of_commit hx.clocked h hq
  case apart =>
    rw [hh]
    rcases admissions_cases x.state x.history a with
      heq | ⟨q, u, scan, rfl, hq, heq⟩
    · rw [heq]
      exact hx.apart
    · rw [heq]
      have hgranted : (x.state.request q).granted = some u := by rw [hq]; rfl
      refine List.pairwise_cons.mpr ⟨fun e he huser => ?_, hx.apart⟩
      exact ⟨hx.granted q u hgranted e he huser.symm, hx.decided q u hgranted⟩

/-- **Run lemma.** -/
theorem spaced_reachable
    (h : ((clockedSystem key).record .empty noteCheck).ReachableUnder
      (fun x a => Constant cooldownSeconds x.state a) x) :
    Spaced key cooldownSeconds x := by
  refine h.invariant (fun x₀ hinit => ?_) ?_
  · obtain ⟨⟨hinitial, hstamped⟩, hempty⟩ := hinit
    obtain ⟨hc, hl⟩ := clocked_initial hinitial hstamped
    have hnone : x₀.history.admissions = [] := by rw [hempty]; rfl
    refine ⟨hc, hl, ?_, ?_, ?_, ?_, ?_⟩
    · rw [hnone]
      exact fun _ he => nomatch he
    · rw [hnone]
      exact fun _ he => nomatch he
    · rw [hnone]
      exact fun _ _ _ _ he => nomatch he
    · intro r userId hr
      rw [hinitial.request r] at hr
      cases hr
    · rw [hnone]
      exact .nil
  · intro x₁ a x₂ hx ha hstep
    obtain ⟨h₁, h₂⟩ := System.record_step hstep
    exact spaced_step hx ha h₁ h₂

end Steps

/-! ## §7  The law -/

/-- What a request knows that is refused for the cooldown. -/
theorem settle_refused {n retryAfter : ℕ}
    (h : step key s (.settle r n) = some s')
    (hr : s'.request r = .refused userId (.cooldown retryAfter)) :
    ∃ latest, s.request r = .latestRead userId false latest ∧
      retryAfter = cooldownRemaining latest n s.now ∧ 0 < retryAfter := by
  simp only [step] at h
  split at h
  · rename_i u found latest hq
    cases h
    rw [setRequest_self] at hr
    cases found with
    | true => cases hr
    | false =>
        simp only [Bool.false_eq_true, if_false] at hr
        split at hr
        · rename_i hpos
          cases hr
          exact ⟨latest, hq, rfl, hpos⟩
        · cases hr
  · cases h

/-- The latest start stays the latest as long as nothing is admitted. -/
theorem latest_leads {m : Timestamp} (hc : Clocked key s) (hl : Looked s)
    (hquiet : Quiet s userId)
    (hlatest : latestSelfStart s.scans userId = some m)
    (h : (clockedSystem key).Leads (fun s a =>
      Constant cooldownSeconds s a ∧ ¬ Admits s userId a) s t) :
    Looked t ∧ latestSelfStart t.scans userId = some m := by
  have hall : Clocked key t ∧ Looked t ∧ Quiet t userId ∧
      latestSelfStart t.scans userId = some m := by
    refine h.invariant (I := fun s => Clocked key s ∧ Looked s ∧
      Quiet s userId ∧ latestSelfStart s.scans userId = some m) ?_
      ⟨hc, hl, hquiet, hlatest⟩
    rintro s₁ a s₂ ⟨hc, hl, hquiet, hlatest⟩ ⟨-, ha⟩ hstep
    exact ⟨clocked_step hc hstep, looked_step hc hl hstep,
      hquiet.step hc hstep ha,
      (latestSelfStart_step hquiet hc hstep ha).trans hlatest⟩
  exact ⟨hall.2.1, hall.2.2.2⟩

/-- **Cooldown.** In every run with one cooldown, a user's admitted self-checks
are at least that far apart, and once the seconds of a refusal have passed, no
request of the user is refused for the cooldown until another self-check of
theirs is admitted. -/
theorem self_check_cooldown
    {x : Recorded (State Request) (Ledger Request)}
    (h : ((clockedSystem key).record .empty noteCheck).ReachableUnder
      (fun x a => Constant cooldownSeconds x.state a) x) :
    Apart cooldownSeconds x.history.admissions ∧
    ∀ r userId retryAfter y,
      step key x.state (.settle r cooldownSeconds) = some y →
      y.request r = .refused userId (.cooldown retryAfter) →
      ∀ z, (clockedSystem key).Leads (fun s a =>
          Constant cooldownSeconds s a ∧ ¬ Admits s userId a) y z →
        x.state.now + seconds retryAfter ≤ z.now →
        ∀ q z', step key z (.settle q cooldownSeconds) = some z' →
          ∀ k, z'.request q ≠ .refused userId (.cooldown k) := by
  have hx := spaced_reachable h
  refine ⟨hx.apart, ?_⟩
  intro r userId retryAfter y hstep hrefused z hrun hlater q z' hstep' k hk
  obtain ⟨latest, hr, hretry, hpos⟩ := settle_refused hstep hrefused
  obtain ⟨hquiet, hlatest⟩ := hx.looked.latest r userId latest hr
  cases hm : latestSelfStart x.state.scans userId with
  | none =>
      rw [hlatest, hm] at hretry
      rw [hretry] at hpos
      cases hpos
  | some m =>
      obtain ⟨⟨row, hrow, hstart⟩, -⟩ := latestSelfStart_spec hm
      have hpast := hx.clocked.stamped row (mem_selfChecks.mp hrow).1 m hstart
      have hle := cooldown_le cooldownSeconds hpast
      rw [hlatest, hm] at hretry
      rw [← hretry] at hle
      have hno : ¬ Admits x.state userId (.settle r cooldownSeconds) :=
        not_false
      obtain ⟨hlooked, hlatest'⟩ := latest_leads
        (clocked_step hx.clocked hstep)
        (looked_step hx.clocked hx.looked hstep)
        (hquiet.step hx.clocked hstep hno)
        ((latestSelfStart_step hquiet hx.clocked hstep hno).trans hm) hrun
      obtain ⟨latest', hq, hk', hkpos⟩ := settle_refused hstep' hk
      -- the later request has read the same start
      rw [(hlooked.latest q userId latest' hq).2, hlatest',
        cooldown_over (hle.trans hlater)] at hk'
      rw [hk'] at hkpos
      cases hkpos

/-- Actor 5 checks, asks again ten seconds and a half after the start that
`run_scan` has set, checks a second time once the cooldown is over, and asks
again. -/
def askedAgain : List (Action Bool) :=
  askFor false .selfCheck 70 ++
    [.tick 1000000, .start 70, .tick 500000, .begin 70, .tick 1500000,
      .scan 70, .tick 500000, .conclude 70 (.succeeded 0 0 none false),
      .finish 70, .tick 10000000, .arrive true .selfCheck 5, .lock true,
      .active true, .latest true, .settle true 60, .respond true,
      .tick 49500000] ++
  askFor true .selfCheck 71 ++
    [.start 71, .tick 500000, .begin 71, .scan 71,
      .conclude 71 (.failed []), .finish 71, .tick 10000000,
      .arrive false .selfCheck 5, .lock false, .active false, .latest false]

theorem asked_again_waits_out_the_cooldown :
    ∃ x y, ((clockedSystem sampleLock).record .empty noteCheck).runUnder
        (fun x a => Constant 60 x.state a) ⟨blank, .empty⟩ askedAgain =
          some x ∧
      x.history.admissions =
        [⟨5, 71, 63000000, 63000000⟩, ⟨5, 70, 0, 0⟩] ∧
      Apart 60 x.history.admissions ∧
      step sampleLock x.state (.settle false 60) = some y ∧
      y.request false = .refused 5 (.cooldown 50) ∧
      ∀ z, (clockedSystem sampleLock).Leads (fun s a =>
          Constant 60 s a ∧ ¬ Admits s 5 a) y z →
        x.state.now + seconds (50 : ℕ) ≤ z.now →
        ∀ q z', step sampleLock z (.settle q 60) = some z' →
          ∀ k, z'.request q ≠ .refused 5 (.cooldown k) := by
  have hrun : ((clockedSystem sampleLock).record .empty noteCheck).runUnder
      (fun x a => Constant 60 x.state a) ⟨blank, .empty⟩ askedAgain =
        some _ := rfl
  have hinit : ((clockedSystem sampleLock).record .empty noteCheck).init
      (⟨blank, .empty⟩ : Recorded (State Bool) (Ledger Bool)) :=
    ⟨⟨blank_initial sampleLock, fun _ h => nomatch h⟩, rfl⟩
  obtain ⟨hapart, hrefused⟩ :=
    self_check_cooldown (System.reachable_of_runUnder hinit hrun)
  exact ⟨_, _, hrun, rfl, hapart, rfl, rfl, hrefused false 5 50 _ rfl rfl⟩

end LeakcheckHub.Scans
