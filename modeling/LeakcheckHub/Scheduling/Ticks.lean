import LeakcheckHub.Scheduling.Dispatch

/-!
# What committed ticks have done

Which schedules a tick attempts (§1), and that no slot runs twice (§2). A tick
skips the rows that a toggle has locked, and goes by the oldest missed slot of
a schedule alone; both have runs to show it.
-/

namespace LeakcheckHub.Scheduling

open Foundation

variable {Tx : Type} [DecidableEq Tx] {fromCrontab : Crontab} {w : Tx}
  {T : Tick Tx} {s s' : State Tx} {i : Uuid} {r : Schedule}

/-- The tick called `create_batch` or `enqueue_digest_notifications` for the
schedule. -/
def Tick.Attempted (T : Tick Tx) (i : Uuid) : Prop :=
  ∃ r h, (i, r, h) ∈ T.handled ∧ h.attempted = true

instance (T : Tick Tx) (i : Uuid) : Decidable (T.Attempted i) :=
  decidable_of_iff
    (T.handled.any (fun x => decide (x.1 = i) && x.2.2.attempted) = true) <| by
    rw [List.any_eq_true]
    constructor
    · rintro ⟨⟨j, r, h⟩, hx, hp⟩
      rw [Bool.and_eq_true, decide_eq_true_eq] at hp
      exact ⟨r, h, hp.1 ▸ hx, hp.2⟩
    · rintro ⟨r, h, hx, hp⟩
      exact ⟨(i, r, h), hx, by simpa using hp⟩

/-- A schedule as a tick met it: enabled, due, and locked by nobody. -/
structure Tick.Free (T : Tick Tx) (i : Uuid) (r : Schedule) : Prop where
  committed : T.seen.committedRow i = some r
  unlocked : ∀ p, (T.seen.cell i).pending ≠ some p
  enabled : r.enabled = true
  due : r.nextRunAt ≤ T.now

/-! ## §1  Which schedules are attempted -/

/-- At its commit a tick has handled every schedule that was free and due. -/
theorem handled_of_commit (h : (scheduler fromCrontab).Reachable s)
    (hstage : s.stage w = .dispatching T)
    (hcommit : s.step fromCrontab (.commit w) = some s') (hfree : T.Free i r) :
    ∃ hd o r', (i, r, hd) ∈ T.handled ∧
      dispatchOne fromCrontab T.now o r = some (r', hd) ∧
      s'.schedules.committedRow i = some r' ∧
      (T.handled.map (·.1)).Nodup := by
  have hc := (inv_reachable h).coherent w
  rw [hstage] at hc
  obtain ⟨-, hT⟩ := hc
  obtain ⟨tick, seen, todo, handled⟩ := T
  -- only a tick with nothing left to do commits
  cases todo with
  | cons x todo =>
      simp only [State.step, hstage] at hcommit
      cases hcommit
  | nil =>
      simp only [State.step, hstage, Option.some.injEq] at hcommit
      have hnone : (seen.cell i).heldByOther w = false :=
        Cell.heldByOther_eq_false.mpr fun o x hp =>
          absurd hp (hfree.unlocked (o, x))
      have hread : seen.read w i = some r := by
        rw [Table.read, Cell.read_of_unowned fun x hx =>
          hfree.unlocked (w, x) hx]
        exact hfree.committed
      have hmem : (i, r) ∈ seen.freeRows w :=
        Table.mem_freeRows.mpr (Table.freeRow_eq_some.mpr ⟨hnone, hread⟩)
      rcases hT.cover (i, r) hmem (due_iff.mpr ⟨hfree.enabled, hfree.due⟩) with
        htodo | ⟨hd, hx⟩
      · cases htodo
      · obtain ⟨-, o, r', hone, hheld⟩ := hT.handled _ hx
        refine ⟨hd, o, r', hx, hone, ?_, (List.nodup_append.mp hT.nodup).1⟩
        rw [← hcommit]
        simp only [Table.commit_committedRow]
        exact Cell.read_of_pending hheld.2

/-- **The oldest missed slot decides.** A committed tick attempts a free due
schedule exactly if the slot stored in `next_run_at` is within the grace, and
notes a misfire otherwise; either way the schedule moves to its least slot
after the tick. -/
theorem tick_attempts_within_grace
    (h : (scheduler fromCrontab).Reachable s)
    (hstage : s.stage w = .dispatching T)
    (hcommit : s.step fromCrontab (.commit w) = some s') (hfree : T.Free i r) :
    (T.Attempted i ↔ T.now - r.nextRunAt ≤ seconds r.misfireGraceSeconds) ∧
      ∃ r', s'.schedules.committedRow i = some r' ∧
        nextFireTime fromCrontab r.cron r.timezone T.now = some r'.nextRunAt ∧
        (¬ T.Attempted i → r'.lastError = some misfireGraceExceeded) := by
  obtain ⟨hd, o, r', hx, hone, hrow, hnodup⟩ :=
    handled_of_commit h hstage hcommit hfree
  obtain ⟨hattempted, herror⟩ := dispatchOne_attempted hone
  -- the row is handled once, so that its handling is the only one
  have hiff : T.Attempted i ↔ hd.attempted = true := by
    constructor
    · rintro ⟨r₂, h₂, hx₂, hp⟩
      have := List.inj_on_of_nodup_map hnodup hx hx₂ rfl
      cases this
      exact hp
    · exact fun hp => ⟨r, hd, hx, hp⟩
  have hgrace : hd.attempted = true ↔
      T.now - r.nextRunAt ≤ seconds r.misfireGraceSeconds := by
    rw [hattempted, Bool.not_eq_true', Schedule.misfired, decide_eq_false_iff_not,
      Int.not_lt]
  refine ⟨hiff.trans hgrace, r', hrow, dispatchOne_next hone, fun hnot => ?_⟩
  refine herror ?_
  rw [hiff, hattempted, Bool.not_eq_true', Bool.not_eq_false] at hnot
  exact hnot

/-! ### Runs that end in a commit -/

/-- A decidable property of the tick that a run commits, and of what it
leaves. -/
theorem exists_commit (fromCrontab : Crontab) (w : Tx) {s₀ : State Tx}
    (as : List (Action Tx)) (p : Tick Tx → State Tx → Bool) (hinit : Quiet s₀)
    (h : ((scheduler fromCrontab).run s₀ as).any (fun s =>
      match s.stage w, s.step fromCrontab (.commit w) with
      | .dispatching T, some s' => p T s'
      | _, _ => false) = true) :
    ∃ s T s', (scheduler fromCrontab).Reachable s ∧
      s.stage w = .dispatching T ∧ s.step fromCrontab (.commit w) = some s' ∧
      p T s' = true := by
  obtain ⟨s, hrun, hp⟩ := (Option.any_eq_true _ _).mp h
  split at hp
  · rename_i T s' hstage hcommit
    exact ⟨s, T, s', System.reachable_of_runUnder hinit hrun, hstage, hcommit, hp⟩
  · cases hp

/-- Every full hour. -/
def hourly : CronTrigger where
  slot s := seconds 3600 ∣ s
  getNextFireTime ref := some (-(-ref / seconds 3600) * seconds 3600)
  least := by
    intro ref s
    have hpos : (0 : ℤ) < seconds 3600 := by decide
    have hmod := Int.emod_add_mul_ediv (-ref) (seconds 3600)
    have hlo := Int.emod_nonneg (-ref) hpos.ne'
    have hhi := Int.emod_lt_of_pos (-ref) hpos
    have hleast : ∀ s', seconds 3600 ∣ s' → ref ≤ s' →
        -(-ref / seconds 3600) * seconds 3600 ≤ s' := by
      rintro s' ⟨k, rfl⟩ hle
      have hk : -(-ref / seconds 3600) ≤ k := by
        by_contra hnot
        have hlt : k + 1 ≤ -(-ref / seconds 3600) :=
          Int.add_one_le_of_lt (Int.not_le.mp hnot)
        nlinarith
      nlinarith
    have hge : ref ≤ -(-ref / seconds 3600) * seconds 3600 := by nlinarith
    constructor
    · intro h
      rw [Option.some.injEq] at h
      rw [← h]
      exact ⟨Dvd.intro_left _ rfl, hge, hleast⟩
    · rintro ⟨hs, hle, hmin⟩
      rw [Option.some.injEq]
      exact le_antisymm (hleast s hs hle) (hmin _ (Dvd.intro_left _ rfl) hge)

/-- `0 * * * *` in UTC. -/
def onlyHourly : Crontab := fun cron timezone =>
  if cron = PyStr.lit "0 * * * *" ∧ timezone = PyStr.lit "UTC" then some hourly
  else none

/-- A scan of a domain every hour, with a minute of grace. -/
def hourlyScan (nextRunAt : Timestamp) : Schedule where
  kind := .scanDomain
  target := PyStr.lit "example.com"
  cron := PyStr.lit "0 * * * *"
  timezone := PyStr.lit "UTC"
  enabled := true
  misfireGraceSeconds := 60
  lastRunAt := none
  lastBatchId := none
  nextRunAt := nextRunAt
  lastError := none
  createdBy := 5

/-- The scan is due since eleven. -/
def dueSinceEleven (clock : Timestamp) : State (Fin 2) where
  clock := clock
  schedules := Table.empty.insertCommitted 1 (hourlyScan (seconds (11 * 3600)))
  leader := none
  stage _ := .idle
  runs := []

theorem quiet_dueSinceEleven (clock : Timestamp) : Quiet (dueSinceEleven clock) where
  idle _ := rfl
  unlocked := Table.unlocked_empty.insertCommitted
  fresh := rfl

/-- The tick sees that scan, and no one writes it. -/
def waiting (T : Tick (Fin 2)) : Bool :=
  decide (T.seen.committedRow 1 = some (hourlyScan (seconds (11 * 3600)))) &&
    decide ((T.seen.cell 1).pending = none)

theorem free_of_waiting {T : Tick (Fin 2)} (hdue : seconds (11 * 3600) ≤ T.now)
    (h : waiting T = true) : T.Free 1 (hourlyScan (seconds (11 * 3600))) := by
  simp only [waiting, Bool.and_eq_true, decide_eq_true_eq] at h
  obtain ⟨hrow, hpending⟩ := h
  refine ⟨hrow, ?_, rfl, hdue⟩
  intro p hp
  rw [hpending] at hp
  cases hp

/-- One tick from its start to its commit. -/
def oneTick : List (Action (Fin 2)) :=
  [.begin 0, .tryLead 0, .select 0, .handle 0 (.done 9)]

/-- At noon the slot of noon is not late at all, but that of eleven is. -/
theorem noon_is_skipped :
    ¬ ∀ (fromCrontab : Crontab) (s s' : State (Fin 2)) (w : Fin 2)
      (T : Tick (Fin 2)), (scheduler fromCrontab).Reachable s →
      s.stage w = .dispatching T →
      s.step fromCrontab (.commit w) = some s' →
      ∀ i r, T.Free i r → ∀ trigger,
        fromCrontab r.cron r.timezone = some trigger →
        ∀ slot, trigger.slot slot → r.nextRunAt ≤ slot → slot ≤ T.now →
          T.now - slot ≤ seconds r.misfireGraceSeconds → T.Attempted i := by
  intro hall
  obtain ⟨s, T, s', hreach, hstage, hcommit, hp⟩ :=
    exists_commit onlyHourly 0 oneTick
      (fun T _ => decide (T.now = seconds (12 * 3600)) &&
        decide (¬ T.Attempted 1) && waiting T)
      (quiet_dueSinceEleven (seconds (12 * 3600))) (by decide +kernel)
  simp only [Bool.and_eq_true, decide_eq_true_eq] at hp
  obtain ⟨⟨hnow, hnot⟩, hwaiting⟩ := hp
  have hfree := free_of_waiting (by rw [hnow]; decide) hwaiting
  refine hnot (hall onlyHourly s s' 0 T hreach hstage hcommit 1 _ hfree hourly
    rfl (seconds (12 * 3600)) ?_ ?_ ?_ ?_)
  · exact ⟨12, by decide⟩
  · decide
  · exact hnow.ge
  · rw [hnow]
    decide

/-- Half a minute after eleven the slot of eleven is within the grace. -/
theorem half_a_minute_late_is_attempted :
    ∃ (s s' : State (Fin 2)) (T : Tick (Fin 2)),
      s.stage 0 = .dispatching T ∧
      s.step onlyHourly (.commit 0) = some s' ∧ T.Attempted 1 := by
  obtain ⟨s, T, s', hreach, hstage, hcommit, hp⟩ :=
    exists_commit onlyHourly 0 oneTick
      (fun T _ => decide (T.now = seconds (11 * 3600 + 30)) && waiting T)
      (quiet_dueSinceEleven (seconds (11 * 3600 + 30))) (by decide +kernel)
  simp only [Bool.and_eq_true, decide_eq_true_eq] at hp
  obtain ⟨hnow, hwaiting⟩ := hp
  have hfree := free_of_waiting (by rw [hnow]; decide) hwaiting
  refine ⟨s, s', T, hstage, hcommit, ?_⟩
  refine (tick_attempts_within_grace hreach hstage hcommit hfree).1.mpr ?_
  rw [hnow]
  decide

/-! ## §2  No slot runs twice -/

/-- **Once per slot.** However ticks, toggles and crashes interleave, no slot of
a schedule has two committed runs, and a committed tick leaves every schedule
that was free and due past itself. -/
theorem slots_run_once (h : (scheduler fromCrontab).Reachable s) :
    (s.runs.map fun run => (run.schedule, run.slot)).Nodup ∧
      ∀ w T s', s.stage w = .dispatching T →
        s.step fromCrontab (.commit w) = some s' →
        ∀ i r, T.Free i r →
          ∃ r', s'.schedules.committedRow i = some r' ∧ T.now < r'.nextRunAt := by
  refine ⟨(inv_reachable h).nodup, ?_⟩
  intro w T s' hstage hcommit i r hfree
  obtain ⟨hd, o, r', -, hone, hrow, -⟩ :=
    handled_of_commit h hstage hcommit hfree
  exact ⟨r', hrow, nextFireTime_gt (dispatchOne_next hone)⟩

/-- A tick at noon while a toggle holds the row. -/
def tickUnderToggle : List (Action (Fin 2)) :=
  [.lock 1 1, .begin 0, .tryLead 0, .select 0]

/-- The tick commits past a row that a toggle has locked, and leaves it due. -/
theorem locked_schedule_stays_due :
    ¬ ∀ (fromCrontab : Crontab) (s : State (Fin 2)),
      (scheduler fromCrontab).Reachable s →
      (s.runs.map fun run => (run.schedule, run.slot)).Nodup ∧
        ∀ w T s', s.stage w = .dispatching T →
          s.step fromCrontab (.commit w) = some s' →
          ∀ i r, T.seen.committedRow i = some r → r.enabled = true →
            r.nextRunAt ≤ T.now →
            ∀ r', s'.schedules.committedRow i = some r' → r'.enabled = true →
              T.now < r'.nextRunAt := by
  intro hall
  obtain ⟨s, T, s', hreach, hstage, hcommit, hp⟩ :=
    exists_commit onlyHourly 0 tickUnderToggle
      (fun T s' => decide (T.now = seconds (12 * 3600)) &&
        decide (T.seen.committedRow 1 = some (hourlyScan (seconds (11 * 3600)))) &&
        decide (s'.schedules.committedRow 1 =
          some (hourlyScan (seconds (11 * 3600)))))
      (quiet_dueSinceEleven (seconds (12 * 3600))) (by decide +kernel)
  simp only [Bool.and_eq_true, decide_eq_true_eq] at hp
  obtain ⟨⟨hnow, hseen⟩, hrow⟩ := hp
  have hlate := (hall onlyHourly s hreach).2 0 T s' hstage hcommit 1 _ hseen rfl
    (by rw [hnow]; decide) _ hrow rfl
  rw [hnow] at hlate
  exact absurd hlate (by decide)

/-- Two workers tick at half a minute past eleven; the leader runs the scan. -/
def twoWorkers : List (Action (Fin 2)) :=
  [.begin 0, .begin 1, .tryLead 0, .tryLead 1, .select 0, .handle 0 (.done 9)]

theorem one_worker_runs_the_scan :
    ∃ (s : State (Fin 2)) (T : Tick (Fin 2)) (r' : Schedule),
      (s.runs.map fun run => (run.schedule, run.slot)).Nodup ∧
      T.now = seconds (11 * 3600 + 30) ∧ T.now < r'.nextRunAt := by
  obtain ⟨s, T, s', hreach, hstage, hcommit, hp⟩ :=
    exists_commit onlyHourly 0 twoWorkers
      (fun T _ => decide (T.now = seconds (11 * 3600 + 30)) && waiting T)
      (quiet_dueSinceEleven (seconds (11 * 3600 + 30))) (by decide +kernel)
  simp only [Bool.and_eq_true, decide_eq_true_eq] at hp
  obtain ⟨hnow, hwaiting⟩ := hp
  obtain ⟨hnodup, hadvanced⟩ := slots_run_once hreach
  obtain ⟨r', -, hlater⟩ := hadvanced 0 T s' hstage hcommit 1 _
    (free_of_waiting (by rw [hnow]; decide) hwaiting)
  exact ⟨s, T, r', hnodup, hnow, hlater⟩

end LeakcheckHub.Scheduling
