import LeakcheckHub.Client.Bucket

/-!
# Pacing of grants and of requests

The bucket spaces its grants by `1 / rate` in every run. A request starts
when its task is through the semaphore as well, which may be much later, so
the starts are spaced like the grants only when no task sits on a token while
the clock moves.

§1 the bucket's grants · §2 starts that follow their grants at once ·
§3 requests that queue up behind the semaphore.
-/

set_option linter.unusedSectionVars false

namespace LeakcheckHub.Client

open Foundation

variable {Task : Type} [DecidableEq Task] {cfg : Config} {s s' : State Task}
  {a : Action Task} {t : Task}

/-! ## §1  Grants -/

/-- The tokens in the bucket were credited since the last grant. -/
structure GrantsPaced (cfg : Config) (s : State Task) : Prop where
  tokens : s.bucket.tokens ≤ 1
  updated : ∀ u ∈ s.bucket.updatedAt, u ≤ s.now
  credit : ∀ g ∈ s.grants.head?, ∃ u, s.bucket.updatedAt = some u ∧
    s.bucket.tokens ≤ (u - g) * cfg.rate
  spaced : Spaced (1 / cfg.rate) s.grants

theorem Config.rate_pos (cfg : Config) : 0 < cfg.rate :=
  lt_of_lt_of_le one_pos cfg.rate_ge

/-- The bucket's ledger, in a run of the client. -/
theorem ledger_reachable {G : State Task → Action Task → Prop}
    (h : (system Task cfg).ReachableUnder G s) :
    Ledger cfg.rate s.now s.bucket s.grants :=
  Bucket.ledger_reachable cfg.rate_pos (callers_reachable h)

/-- In every run any two grants are at least `1 / rate` apart. -/
theorem grantsPaced_reachable {G : State Task → Action Task → Prop}
    (h : (system Task cfg).ReachableUnder G s) : GrantsPaced cfg s := by
  have hledger := ledger_reachable h
  exact ⟨hledger.le_one, hledger.updated, hledger.credit, hledger.spaced⟩

/-! ## §2  Starts -/

/-- The clock does not move while a task has a token it has not used. -/
def StartsAtOnce (s : State Task) : Action Task → Prop
  | .tick d => 0 < d → ∀ t, (s.task t).holdsToken = false
  | _ => True

/-- Every grant has its start, except one just granted. -/
structure Prompt (s : State Task) : Prop where
  settled : (∀ t, (s.task t).holdsToken = false) → s.starts = s.grants
  pending : ∀ t, (s.task t).holdsToken = true → s.grants = s.now :: s.starts
  unique : ∀ t u, (s.task t).holdsToken = true →
    (s.task u).holdsToken = true → t = u

/-- A step that leaves the records, the clock and every task's hold on a
token as they are. -/
theorem Prompt.congr (h : Prompt s) (hnow : s'.now = s.now)
    (hgrants : s'.grants = s.grants) (hstarts : s'.starts = s.starts)
    (htoken : ∀ u, (s'.task u).holdsToken = (s.task u).holdsToken) :
    Prompt s' := by
  constructor
  · intro hall
    rw [hstarts, hgrants]
    exact h.settled fun u => htoken u ▸ hall u
  · intro u hu
    rw [hgrants, hnow, hstarts]
    exact h.pending u (htoken u ▸ hu)
  · intro u v hu hv
    exact h.unique u v (htoken u ▸ hu) (htoken v ▸ hv)

/-- Moving one task on keeps the holds when it keeps that task's. -/
theorem holdsToken_setTask {x : TaskState} {m : State Task}
    (hm : m.task = s.task) (hx : x.holdsToken = (s.task t).holdsToken)
    (u : Task) : ((m.setTask t x).task u).holdsToken =
      (s.task u).holdsToken := by
  by_cases hu : u = t
  · rw [hu, setTask_task_self, hx]
  · rw [setTask_task_ne hu, hm]

theorem Prompt.local (h : Prompt s) (ht : (s.task t).holdsToken = false)
    (hl : LocalStep s s' t) : Prompt s' := by
  refine h.congr hl.now hl.grants hl.starts fun u => ?_
  by_cases hu : u = t
  · rw [hu, ht, hl.token]
  · rw [hl.others u hu]

/-- A grant finds no token about: it would have been granted at this very
instant. -/
theorem Prompt.none_pending (h : Prompt s)
    (hp : Ledger cfg.rate s.now s.bucket s.grants)
    {b : TokenBucket}
    (hb : s.bucket.tryAcquire cfg.rate s.now = (b, none)) (u : Task) :
    (s.task u).holdsToken = false := by
  by_contra hu
  rw [Bool.not_eq_false] at hu
  have hlast : s.now ∈ s.grants.head? := by
    rw [h.pending u hu]
    rfl
  have hgap := hp.gap cfg.rate_pos hb hlast
  rw [sub_self] at hgap
  exact absurd (one_div_pos.mpr cfg.rate_pos) (not_lt.mpr hgap)

theorem prompt_step (h : Prompt s)
    (hp : Ledger cfg.rate s.now s.bucket s.grants)
    (hg : StartsAtOnce s a) (hs : StepOf cfg s a s') : Prompt s' := by
  cases hs with
  | @tick d hd =>
      refine ⟨h.settled, fun t ht => ?_, h.unique⟩
      -- with a token about the tick is empty
      have hzero : d = 0 := by
        by_contra hne
        have hpos : 0 < d := lt_of_le_of_ne hd (Ne.symm hne)
        have := hg hpos t
        rw [this] at ht
        cases ht
      rw [hzero]
      simpa using h.pending t ht
  | request ht => exact h.local (by rw [ht]; rfl) localStep_beginAttempt
  | takeLock ht => exact h.local (by rw [ht]; rfl) (localStep_setTask rfl)
  | @grant t k b ht hb =>
      have hnone := h.none_pending hp hb
      -- the bucket had a token, so none was about
      have honly : ∀ w, (({ s with
          bucket := b
          lockHolder := none
          grants := s.now :: s.grants }.setTask t
            (.granted k)).task w).holdsToken = true → w = t := by
        intro w hw
        by_contra hne
        rw [setTask_task_ne hne] at hw
        exact absurd hw (by rw [hnone w]; decide)
      refine ⟨?_, ?_, ?_⟩
      · intro hall
        have := hall t
        rw [setTask_task_self] at this
        cases this
      · intro u _
        show s.now :: s.grants = s.now :: s.starts
        rw [h.settled hnone]
      · intro u v hu hv
        rw [honly u hu, honly v hv]
  | sleep ht hb =>
      exact h.congr rfl rfl rfl
        (holdsToken_setTask rfl (by rw [ht]; rfl))
  | wake ht => exact h.local (by rw [ht]; rfl) (localStep_setTask rfl)
  | enterSemaphore ht hc =>
      exact h.congr rfl rfl rfl
        (holdsToken_setTask rfl (by rw [ht]; rfl))
  | @send t k ht =>
      have hheld : (s.task t).holdsToken = true := by
        rw [ht]
        rfl
      have hnone : ∀ u, (({ s with
          starts := s.now :: s.starts }.setTask t
            (.sending k)).task u).holdsToken = false := by
        intro u
        by_cases hu : u = t
        · rw [hu, setTask_task_self]
          rfl
        · rw [setTask_task_ne hu]
          by_contra hother
          rw [Bool.not_eq_false] at hother
          exact hu (h.unique u t hother hheld)
      refine ⟨fun _ => (h.pending t hheld).symm, ?_, ?_⟩
      · intro u hu
        rw [hnone u] at hu
        cases hu
      · intro u v hu
        rw [hnone u] at hu
        cases hu
  | receive ht => exact h.local (by rw [ht]; rfl) localStep_settle
  | retry ht => exact h.local (by rw [ht]; rfl) localStep_beginAttempt

theorem prompt_init (now : ℚ) : Prompt (init Task now) where
  settled := fun _ => rfl
  pending := by
    intro t ht
    cases ht
  unique := by
    intro t u ht
    cases ht

theorem prompt_reachable
    (h : (system Task cfg).ReachableUnder StartsAtOnce s) :
    GrantsPaced cfg s ∧ Prompt s := by
  refine ⟨grantsPaced_reachable h, ?_⟩
  have hboth : (system Task cfg).Reachable s ∧ Prompt s := by
    refine h.invariant
      (I := fun s => (system Task cfg).Reachable s ∧ Prompt s) ?_ ?_
    · rintro s ⟨now, rfl⟩
      exact ⟨⟨_, ⟨now, rfl⟩, .refl _⟩, prompt_init now⟩
    · rintro s a s' ⟨⟨s₀, h₀, hrun⟩, hprompt⟩ hg hstep
      have hledger := ledger_reachable ⟨s₀, h₀, hrun⟩
      exact ⟨⟨s₀, h₀, hrun.tail trivial hstep⟩,
        prompt_step hprompt hledger hg (step_cases hstep)⟩
  exact hboth.2

/-- The starts are among the grants. -/
theorem Prompt.sublist (h : Prompt s) : s.starts.Sublist s.grants := by
  by_cases hall : ∀ t, (s.task t).holdsToken = false
  · rw [h.settled hall]
  · rw [not_forall] at hall
    obtain ⟨t, ht⟩ := hall
    rw [Bool.not_eq_false] at ht
    rw [h.pending t ht]
    exact List.sublist_cons_self _ _

/-! ## §3  The promise -/

/-- At most `r` starts in every half-open window of one second. -/
def Paced (r : ℕ) (s : State Task) : Prop :=
  ∀ from_ : ℚ, (inWindow from_ 1 s.starts).length ≤ r

/-- A client whose requests start as soon as they are granted keeps its
integer rate. -/
theorem paced_of_starts_at_once {r : ℕ} (hr : cfg.rate = r)
    (h : (system Task cfg).ReachableUnder StartsAtOnce s) : Paced r s := by
  intro from_
  obtain ⟨hpaced, hprompt⟩ := prompt_reachable h
  have hspaced : Spaced (1 / cfg.rate) s.starts :=
    hpaced.spaced.sublist hprompt.sublist
  have hgap : 0 < 1 / cfg.rate := one_div_pos.mpr cfg.rate_pos
  refine hspaced.length_inWindow_le hgap ?_
  rw [← hr, mul_one_div_cancel cfg.rate_pos.ne']

instance {n : ℕ} (s : State (Fin n)) :
    (a : Action (Fin n)) → Decidable (StartsAtOnce s a)
  | .tick d => inferInstanceAs
      (Decidable (0 < d → ∀ t, (s.task t).holdsToken = false))
  | .request _ | .takeLock _ | .acquire _ | .wake _ | .enterSemaphore _
  | .send _ | .receive .. | .retry _ => .isTrue trivial

/-- One request a second, one at a time. -/
def oneByOne : Config where
  rate := 1
  concurrency := 1
  maxRetries := 3
  circuitFailureThreshold := 5
  circuitResetSeconds := 30
  rate_ge := le_refl 1
  concurrency_pos := le_refl 1

/-- Two quick requests, the second a second after the first. -/
def quickRequests : List (Action (Fin 2)) :=
  [.request 0, .takeLock 0, .acquire 0, .enterSemaphore 0, .send 0,
    .request 1, .takeLock 1, .acquire 1,
    .tick (1 / 2), .receive 0 (.response 200 []),
    .tick (1 / 2), .wake 1, .takeLock 1, .acquire 1, .enterSemaphore 1,
    .send 1]

theorem quick_requests_paced :
    ∃ s, (system (Fin 2) oneByOne).runUnder StartsAtOnce (init _ 0)
        quickRequests = some s ∧ s.starts = [1, 0] ∧ Paced 1 s := by
  have hrun : ∃ s, (system (Fin 2) oneByOne).runUnder StartsAtOnce (init _ 0)
      quickRequests = some s ∧ s.starts = [1, 0] :=
    System.exists_of_runUnder (by decide +kernel)
  obtain ⟨s, hrun, hstarts⟩ := hrun
  exact ⟨s, hrun, hstarts, paced_of_starts_at_once Nat.cast_one.symm
    (System.reachable_of_runUnder ⟨0, rfl⟩ hrun)⟩

/-- Two tasks get their tokens a second apart and both wait for the request of
a third one; when it ends they start in the same second. -/
def queuedRequests : List (Action (Fin 3)) :=
  [.request 0, .takeLock 0, .acquire 0, .enterSemaphore 0, .send 0,
    .request 1, .takeLock 1, .acquire 1, .request 2, .takeLock 2, .acquire 2,
    .tick 1, .wake 1, .takeLock 1, .acquire 1,
    .tick 1, .wake 2, .takeLock 2, .acquire 2,
    .receive 0 (.response 200 []), .enterSemaphore 1, .send 1,
    .receive 1 (.response 200 []), .enterSemaphore 2, .send 2]

theorem queued_requests_burst :
    ¬ ∀ s, (system (Fin 3) oneByOne).Reachable s → Paced 1 s := by
  intro hall
  have hrun : ∃ s, (system (Fin 3) oneByOne).run (init _ 0) queuedRequests =
      some s ∧ s.starts = [2, 2, 0] :=
    System.exists_of_runUnder (by decide +kernel)
  obtain ⟨s, hrun, hstarts⟩ := hrun
  have hpaced := hall s (System.reachable_of_runUnder ⟨0, rfl⟩ hrun) 2
  rw [hstarts] at hpaced
  exact absurd hpaced (by decide +kernel)

end LeakcheckHub.Client
