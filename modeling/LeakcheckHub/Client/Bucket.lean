import LeakcheckHub.Client.Requests
import LeakcheckHub.Foundation.Spacing
import Mathlib.Data.Rat.Floor

/-!
# Callers of the token bucket

`TokenBucket.acquire` of `app/leakcheck.py` on its own, with any number of
tasks on one bucket. A call waits for the lock, holds it, and under it makes
one pass over the tokens; a pass that finds none sleeps and waits for the lock
again. A sleep may end at any time.

§1 the system · §2 one pass · §3 the ledger · §4 a task's turn · §5 the law ·
§6 the client's calls.
-/

namespace LeakcheckHub.Client

open Foundation

/-! ## §1  The system -/

namespace Bucket

/-- Where a task is suspended in `acquire`; `idle` is outside. -/
inductive Caller where
  | idle
  | waitingForLock
  | holdingLock
  | sleeping (wakeAt : ℚ)
deriving DecidableEq

/-- `grants` records when `acquire` returned, newest first; no step reads
it. -/
structure State (Task : Type) where
  now : ℚ
  bucket : TokenBucket
  lockHolder : Option Task
  task : Task → Caller
  grants : List ℚ

inductive Action (Task : Type) where
  | tick (d : ℚ)
  | call (t : Task)
  | takeLock (t : Task)
  /-- The body of `async with self._lock`. -/
  | pass (t : Task)
  | wake (t : Task)
deriving DecidableEq

variable {Task : Type} [DecidableEq Task]

def State.setTask (s : State Task) (t : Task) (x : Caller) : State Task :=
  { s with task := Function.update s.task t x }

def step (rate : ℚ) (s : State Task) : Action Task → Option (State Task)
  | .tick d => if 0 ≤ d then some { s with now := s.now + d } else none
  | .call t =>
      match s.task t with
      | .idle => some (s.setTask t .waitingForLock)
      | _ => none
  | .takeLock t =>
      match s.task t, s.lockHolder with
      | .waitingForLock, none =>
          some ({ s with lockHolder := some t }.setTask t .holdingLock)
      | _, _ => none
  | .pass t =>
      match s.task t with
      | .holdingLock =>
          match s.bucket.tryAcquire rate s.now with
          | (bucket, none) =>
              some ({ s with
                bucket
                lockHolder := none
                grants := s.now :: s.grants }.setTask t .idle)
          | (bucket, some delay) =>
              some ({ s with bucket, lockHolder := none }.setTask t
                (.sleeping (s.now + delay)))
      | _ => none
  | .wake t =>
      match s.task t with
      | .sleeping _ => some (s.setTask t .waitingForLock)
      | _ => none

def init (Task : Type) (now : ℚ) : State Task where
  now := now
  bucket := .new
  lockHolder := none
  task := fun _ => .idle
  grants := []

def system (Task : Type) [DecidableEq Task] (rate : ℚ) :
    System (State Task) (Action Task) where
  init := fun s => ∃ now, s = init Task now
  step := step rate

inductive StepOf (rate : ℚ) (s : State Task) :
    Action Task → State Task → Prop
  | tick {d} (hd : 0 ≤ d) : StepOf rate s (.tick d) { s with now := s.now + d }
  | call {t} (ht : s.task t = .idle) :
      StepOf rate s (.call t) (s.setTask t .waitingForLock)
  | takeLock {t} (ht : s.task t = .waitingForLock) (hl : s.lockHolder = none) :
      StepOf rate s (.takeLock t)
        ({ s with lockHolder := some t }.setTask t .holdingLock)
  | grant {t b} (ht : s.task t = .holdingLock)
      (hb : s.bucket.tryAcquire rate s.now = (b, none)) :
      StepOf rate s (.pass t)
        ({ s with
            bucket := b
            lockHolder := none
            grants := s.now :: s.grants }.setTask t .idle)
  | sleep {t b delay} (ht : s.task t = .holdingLock)
      (hb : s.bucket.tryAcquire rate s.now = (b, some delay)) :
      StepOf rate s (.pass t)
        ({ s with bucket := b, lockHolder := none }.setTask t
          (.sleeping (s.now + delay)))
  | wake {t at_} (ht : s.task t = .sleeping at_) :
      StepOf rate s (.wake t) (s.setTask t .waitingForLock)

theorem step_cases {rate : ℚ} {s s' : State Task} {a : Action Task}
    (h : step rate s a = some s') : StepOf rate s a s' := by
  cases a with
  | tick d =>
      simp only [step, Option.ite_none_right_eq_some, Option.some.injEq] at h
      exact h.2 ▸ .tick h.1
  | call t =>
      cases ht : s.task t with
      | idle =>
          simp only [step, ht, Option.some.injEq] at h
          exact h ▸ .call ht
      | _ => simp [step, ht] at h
  | takeLock t =>
      cases ht : s.task t with
      | waitingForLock =>
          cases hl : s.lockHolder with
          | none =>
              simp only [step, ht, hl, Option.some.injEq] at h
              exact h ▸ .takeLock ht hl
          | some u => simp [step, ht, hl] at h
      | _ => simp [step, ht] at h
  | pass t =>
      cases ht : s.task t with
      | holdingLock =>
          rcases hb : s.bucket.tryAcquire rate s.now with ⟨b, _ | delay⟩
          · simp only [step, ht, hb, Option.some.injEq] at h
            exact h ▸ .grant ht hb
          · simp only [step, ht, hb, Option.some.injEq] at h
            exact h ▸ .sleep ht hb
      | _ => simp [step, ht] at h
  | wake t =>
      cases ht : s.task t with
      | sleeping at_ =>
          simp only [step, ht, Option.some.injEq] at h
          exact h ▸ .wake ht
      | _ => simp [step, ht] at h

end Bucket

/-! ## §2  One pass -/

namespace TokenBucket

variable {rate now u : ℚ} {b b' : TokenBucket}

theorem refill_tokens_le_one (rate now : ℚ) {b : TokenBucket}
    (h : b.tokens ≤ 1) : (b.refill rate now).tokens ≤ 1 := by
  unfold refill
  split
  · exact h
  · exact min_le_left _ _

@[simp] theorem refill_updatedAt : (b.refill rate now).updatedAt = some now := by
  unfold refill
  split <;> rfl

theorem refill_tokens (hu : b.updatedAt = some u) (hnow : u ≤ now) :
    (b.refill rate now).tokens = min 1 (b.tokens + (now - u) * rate) := by
  simp only [refill, hu, capacity, max_eq_right (sub_nonneg.mpr hnow)]

/-- Time credits at most `rate` tokens a second. -/
theorem refill_tokens_le (rate : ℚ) {now u : ℚ} {b : TokenBucket}
    (hu : b.updatedAt = some u) (hnow : u ≤ now) :
    (b.refill rate now).tokens ≤ b.tokens + (now - u) * rate := by
  rw [refill_tokens hu hnow]
  exact min_le_right _ _

theorem le_refill_tokens (hrate : 0 ≤ rate) (h : b.tokens ≤ 1) :
    b.tokens ≤ (b.refill rate now).tokens := by
  unfold refill
  split
  · exact le_refl _
  · refine le_min h (le_add_of_nonneg_right ?_)
    exact mul_nonneg (le_max_left _ _) hrate

theorem tryAcquire_updatedAt {d : Option ℚ}
    (h : b.tryAcquire rate now = (b', d)) : b'.updatedAt = some now := by
  simp only [tryAcquire] at h
  split at h <;> cases h <;> simp

theorem tryAcquire_granted (h : b.tryAcquire rate now = (b', none)) :
    1 ≤ (b.refill rate now).tokens ∧
      b'.tokens = (b.refill rate now).tokens - 1 := by
  simp only [tryAcquire] at h
  split at h
  · rename_i hfull
    cases h
    exact ⟨hfull, rfl⟩
  · cases h

theorem tryAcquire_refused {delay : ℚ}
    (h : b.tryAcquire rate now = (b', some delay)) :
    b' = b.refill rate now ∧ b'.tokens < 1 ∧
      delay = (1 - b'.tokens) / rate := by
  simp only [tryAcquire] at h
  split at h
  · cases h
  · rename_i hlow
    cases h
    exact ⟨rfl, not_le.mp hlow, rfl⟩

end TokenBucket

/-! ## §3  The ledger -/

/-- What the bucket owes to its past grants: its tokens were credited since the
last of them. -/
structure Ledger (rate now : ℚ) (b : TokenBucket) (grants : List ℚ) : Prop where
  nonneg : 0 ≤ b.tokens
  le_one : b.tokens ≤ 1
  fresh : b.updatedAt = none → b.tokens = 1
  updated : ∀ u ∈ b.updatedAt, u ≤ now
  credit : ∀ g ∈ grants.head?, ∃ u, b.updatedAt = some u ∧
    b.tokens ≤ (u - g) * rate
  spaced : Spaced (1 / rate) grants

namespace Ledger

variable {rate now later : ℚ} {b b' : TokenBucket} {grants : List ℚ}

theorem new (rate now : ℚ) : Ledger rate now .new [] where
  nonneg := zero_le_one
  le_one := le_refl _
  fresh := fun _ => rfl
  updated := by
    intro u hu
    cases hu
  credit := by
    intro g hg
    cases hg
  spaced := Spaced.nil

theorem mono (h : Ledger rate now b grants) (hle : now ≤ later) :
    Ledger rate later b grants :=
  { h with updated := fun u hu => (h.updated u hu).trans hle }

/-- A refill credits the time since the last update. -/
theorem refill_tokens (h : Ledger rate now b grants) (hrate : 0 ≤ rate) :
    b.tokens ≤ (b.refill rate now).tokens :=
  TokenBucket.le_refill_tokens hrate h.le_one

/-- What a refill leaves is covered by the time since the last grant. -/
theorem refill_credit (h : Ledger rate now b grants) {g : ℚ}
    (hg : g ∈ grants.head?) :
    (b.refill rate now).tokens ≤ (now - g) * rate := by
  obtain ⟨u, hu, hcredit⟩ := h.credit g hg
  have hle := TokenBucket.refill_tokens_le rate hu (h.updated u hu)
  calc (b.refill rate now).tokens
      ≤ b.tokens + (now - u) * rate := hle
    _ ≤ (u - g) * rate + (now - u) * rate := by linarith
    _ = (now - g) * rate := by ring

/-- A grant comes at least `1 / rate` after the one before. -/
theorem gap (h : Ledger rate now b grants) (hrate : 0 < rate)
    (hb : b.tryAcquire rate now = (b', none)) {g : ℚ}
    (hg : g ∈ grants.head?) : 1 / rate ≤ now - g := by
  rw [div_le_iff₀ hrate]
  exact (TokenBucket.tryAcquire_granted hb).1.trans (h.refill_credit hg)

theorem grant (h : Ledger rate now b grants) (hrate : 0 < rate)
    (hb : b.tryAcquire rate now = (b', none)) :
    Ledger rate now b' (now :: grants) := by
  obtain ⟨hfull, htokens⟩ := TokenBucket.tryAcquire_granted hb
  have hupd := TokenBucket.tryAcquire_updatedAt hb
  have hone := TokenBucket.refill_tokens_le_one rate now h.le_one
  constructor
  case nonneg => linarith
  case le_one => linarith
  case fresh =>
    intro hnone
    rw [hupd] at hnone
    cases hnone
  case updated =>
    intro u hu
    rw [hupd, Option.mem_some_iff] at hu
    exact hu.ge
  case credit =>
    intro g hg
    rw [List.head?_cons, Option.mem_some_iff] at hg
    refine ⟨now, hupd, ?_⟩
    rw [← hg, sub_self, zero_mul]
    linarith
  case spaced =>
    exact h.spaced.cons (one_div_pos.mpr hrate).le fun g hg => h.gap hrate hb hg

theorem refuse (h : Ledger rate now b grants) (hrate : 0 ≤ rate) :
    Ledger rate now (b.refill rate now) grants where
  nonneg := h.nonneg.trans (h.refill_tokens hrate)
  le_one := TokenBucket.refill_tokens_le_one _ _ h.le_one
  fresh := by
    intro hnone
    rw [TokenBucket.refill_updatedAt] at hnone
    cases hnone
  updated := by
    intro u hu
    rw [TokenBucket.refill_updatedAt, Option.mem_some_iff] at hu
    exact hu.ge
  credit := fun g hg => ⟨now, TokenBucket.refill_updatedAt, h.refill_credit hg⟩
  spaced := h.spaced

/-- Crediting in two steps is crediting at once. -/
theorem refill_refill (h : Ledger rate now b grants) (hrate : 0 ≤ rate)
    (hle : now ≤ later) :
    ((b.refill rate now).refill rate later).tokens =
      (b.refill rate later).tokens := by
  have hpassed : 0 ≤ (later - now) * rate :=
    mul_nonneg (sub_nonneg.mpr hle) hrate
  rw [TokenBucket.refill_tokens TokenBucket.refill_updatedAt hle]
  cases hu : b.updatedAt with
  | none =>
      have hone := h.fresh hu
      simp only [TokenBucket.refill, hu, hone]
      exact min_eq_left (le_add_of_nonneg_right hpassed)
  | some u =>
      have hnow := h.updated u hu
      have hsplit : (later - u) * rate =
          (now - u) * rate + (later - now) * rate := by ring
      rw [TokenBucket.refill_tokens hu hnow,
        TokenBucket.refill_tokens hu (hnow.trans hle), hsplit, ← add_assoc]
      rcases le_total 1 (b.tokens + (now - u) * rate) with hcap | hcap
      · rw [min_eq_left hcap, min_eq_left (le_add_of_nonneg_right hpassed),
          min_eq_left (hcap.trans (le_add_of_nonneg_right hpassed))]
      · rw [min_eq_right hcap]

end Ledger

/-! ## §4  A task's turn -/

/-- A pass from `due` on finds a token, if none is granted before. -/
def Charged (rate now : ℚ) (b : TokenBucket) (due : ℚ) : Prop :=
  ∀ later, now ≤ later → due ≤ later → 1 ≤ (b.refill rate later).tokens

namespace Charged

variable {rate now later due delay : ℚ} {b b' : TokenBucket} {grants : List ℚ}

theorem mono (h : Charged rate now b due) (hle : now ≤ later) :
    Charged rate later b due :=
  fun at_ hat hdue => h at_ (hle.trans hat) hdue

/-- A pass that is refused credits only what a later pass would. -/
theorem refuse (h : Charged rate now b due) (hledger : Ledger rate now b grants)
    (hrate : 0 ≤ rate) : Charged rate now (b.refill rate now) due := by
  intro at_ hat hdue
  rw [hledger.refill_refill hrate hat]
  exact h at_ hat hdue

/-- A bucket that is full now stays full. -/
theorem of_full (hledger : Ledger rate now b grants) (hrate : 0 ≤ rate)
    (hfull : 1 ≤ (b.refill rate now).tokens) : Charged rate now b now := by
  intro at_ hat _
  rw [← hledger.refill_refill hrate hat]
  exact hfull.trans ((hledger.refuse hrate).mono hat |>.refill_tokens hrate)

/-- The delay of a refused pass is the time until the token is there. -/
theorem of_refused (hrate : 0 < rate)
    (hb : b.tryAcquire rate now = (b', some delay)) :
    Charged rate now b' (now + delay) := by
  obtain ⟨rfl, -, rfl⟩ := TokenBucket.tryAcquire_refused hb
  intro at_ hat hdue
  rw [TokenBucket.refill_tokens TokenBucket.refill_updatedAt hat]
  refine le_min (le_refl _) ?_
  have hwaited : (1 - (b.refill rate now).tokens) / rate ≤ at_ - now := by
    linarith
  have hcredit := (div_le_iff₀ hrate).mp hwaited
  linarith

end Charged

/-! ## §5  The law -/

namespace Bucket

variable {Task : Type} [DecidableEq Task] {rate due : ℚ}
  {s s' s'' : State Task} {a : Action Task} {t : Task}

theorem ledger_step (hrate : 0 < rate)
    (h : Ledger rate s.now s.bucket s.grants) (hs : StepOf rate s a s') :
    Ledger rate s'.now s'.bucket s'.grants := by
  cases hs with
  | tick hd => exact h.mono (le_add_of_nonneg_right hd)
  | grant ht hb => exact h.grant hrate hb
  | sleep ht hb =>
      obtain ⟨rfl, -, -⟩ := TokenBucket.tryAcquire_refused hb
      exact h.refuse hrate.le
  | call | takeLock | wake => exact h

theorem ledger_reachable (hrate : 0 < rate)
    {G : State Task → Action Task → Prop}
    (h : (system Task rate).ReachableUnder G s) :
    Ledger rate s.now s.bucket s.grants := by
  refine h.invariant (I := fun s => Ledger rate s.now s.bucket s.grants) ?_ ?_
  · rintro s ⟨now, rfl⟩
    exact Ledger.new rate now
  · intro s a s' hs _ hstep
    exact ledger_step hrate hs (step_cases hstep)

@[simp] theorem setTask_task_self {x : Caller} : (s.setTask t x).task t = x :=
  Function.update_self _ _ _

theorem now_le_run {G : State Task → Action Task → Prop}
    (h : (system Task rate).Leads G s s') : s.now ≤ s'.now := by
  induction h with
  | refl => exact le_refl _
  | tail _ _ hstep ih =>
      refine ih.trans ?_
      cases step_cases hstep with
      | tick hd => exact le_add_of_nonneg_right hd
      | call | takeLock | grant | sleep | wake => exact le_refl _

/-- No step takes a grant back. -/
theorem grants_suffix (hs : StepOf rate s a s') : s.grants <:+ s'.grants := by
  cases hs with
  | grant => exact List.suffix_cons _ _
  | tick | call | takeLock | sleep | wake => exact List.suffix_rfl

/-- As long as nobody is granted, a charged bucket stays charged. -/
theorem charged_step (hrate : 0 < rate)
    (hledger : Ledger rate s.now s.bucket s.grants)
    (h : Charged rate s.now s.bucket due) (hs : StepOf rate s a s')
    (hsame : s'.grants = s.grants) : Charged rate s'.now s'.bucket due := by
  cases hs with
  | tick hd => exact h.mono (le_add_of_nonneg_right hd)
  | grant => exact absurd hsame (List.cons_ne_self _ _)
  | sleep ht hb =>
      obtain ⟨rfl, -, -⟩ := TokenBucket.tryAcquire_refused hb
      exact h.refuse hledger hrate.le
  | call | takeLock | wake => exact h

/-- By induction on the run, whose steps grant nothing: what is granted once
stays in the record. -/
theorem charged_run (hrate : 0 < rate) {G : State Task → Action Task → Prop}
    (hrun : (system Task rate).Leads G s s')
    (hledger : Ledger rate s.now s.bucket s.grants)
    (h : Charged rate s.now s.bucket due) :
    Ledger rate s'.now s'.bucket s'.grants ∧ s.grants <:+ s'.grants ∧
      (s'.grants = s.grants → Charged rate s'.now s'.bucket due) := by
  induction hrun with
  | refl => exact ⟨hledger, List.suffix_rfl, fun _ => h⟩
  | tail _ _ hstep ih =>
      obtain ⟨hl, hgrown, hcharged⟩ := ih
      have hs := step_cases hstep
      have hnext := grants_suffix hs
      refine ⟨ledger_step hrate hl hs, hgrown.trans hnext, ?_⟩
      intro hsame
      rw [hsame] at hnext
      have hbefore := hnext.eq_of_length_le hgrown.length_le
      exact charged_step hrate hl (hcharged hbefore) hs (hsame.trans hbefore.symm)

/-- `acquire` returns to the task in this pass. -/
def Returns (s : State Task) (t : Task) (s' : State Task) : Prop :=
  s'.task t = .idle ∧ s'.grants = s.now :: s.grants

theorem returns_of_charged (h : Charged rate s.now s.bucket due)
    (hdue : due ≤ s.now) (hpass : step rate s (.pass t) = some s') :
    Returns s t s' := by
  cases step_cases hpass with
  | grant => exact ⟨setTask_task_self, rfl⟩
  | sleep ht hb =>
      obtain ⟨rfl, hlow, -⟩ := TokenBucket.tryAcquire_refused hb
      exact absurd (h s.now (le_refl _) hdue) (not_le.mpr hlow)

/-- With the elapsed time credited, the bucket is at its capacity. -/
def State.Full (rate : ℚ) (s : State Task) : Prop :=
  TokenBucket.capacity ≤ (s.bucket.refill rate s.now).tokens

instance : Decidable (s.Full rate) :=
  inferInstanceAs (Decidable (TokenBucket.capacity ≤ _))

/-- The bucket keeps its promises to any number of tasks: its tokens stay
between none and one, grants are `1 / rate` apart, and a task that has slept
its delay, or has called with a full bucket, is granted at its next pass unless
another task was granted since. -/
theorem acquire_paces (hrate : 1 ≤ rate) (Task : Type) [DecidableEq Task] :
    (∀ s : State Task, (system Task rate).Reachable s →
      (0 ≤ s.bucket.tokens ∧ s.bucket.tokens ≤ 1) ∧
      Spaced (1 / rate) s.grants ∧
      ∀ from_ : ℚ, (inWindow from_ 1 s.grants).length ≤ ⌈rate⌉₊) ∧
    (∀ (s₀ s₁ s₂ s₃ : State Task) (t : Task) (wakeAt : ℚ),
      (system Task rate).Reachable s₀ → step rate s₀ (.pass t) = some s₁ →
      s₁.task t = .sleeping wakeAt →
      (system Task rate).Leads (fun _ _ => True) s₁ s₂ → wakeAt ≤ s₂.now →
      s₂.grants = s₁.grants → step rate s₂ (.pass t) = some s₃ →
        Returns s₂ t s₃) ∧
    (∀ (s₀ s₁ s₂ s₃ : State Task) (t : Task),
      (system Task rate).Reachable s₀ → s₀.Full rate →
      step rate s₀ (.call t) = some s₁ →
      (system Task rate).Leads (fun _ _ => True) s₁ s₂ →
      s₂.grants = s₁.grants → step rate s₂ (.pass t) = some s₃ →
        Returns s₂ t s₃) := by
  have hpos : 0 < rate := lt_of_lt_of_le one_pos hrate
  refine ⟨?_, ?_, ?_⟩
  · intro s hs
    have hledger := ledger_reachable hpos hs
    refine ⟨⟨hledger.nonneg, hledger.le_one⟩, hledger.spaced, ?_⟩
    intro from_
    refine hledger.spaced.length_inWindow_le (one_div_pos.mpr hpos) ?_
    rw [mul_one_div, le_div_iff₀ hpos, one_mul]
    exact Nat.le_ceil rate
  · intro s₀ s₁ s₂ s₃ t wakeAt hs₀ hsleep htask hrun hdue hsame hpass
    have hledger := ledger_reachable hpos hs₀
    have hs := step_cases hsleep
    have hcharged : Charged rate s₁.now s₁.bucket wakeAt := by
      cases hs with
      | grant ht hb =>
          rw [setTask_task_self] at htask
          cases htask
      | sleep ht hb =>
          rw [setTask_task_self] at htask
          cases htask
          exact .of_refused hpos hb
    obtain ⟨-, -, hstill⟩ :=
      charged_run hpos hrun (ledger_step hpos hledger hs) hcharged
    exact returns_of_charged (hstill hsame) hdue hpass
  · intro s₀ s₁ s₂ s₃ t hs₀ hfull hcall hrun hsame hpass
    have hledger := ledger_reachable hpos hs₀
    cases step_cases hcall with
    | call ht =>
        have hcharged := Charged.of_full hledger hpos.le hfull
        obtain ⟨hl, -, hstill⟩ := charged_run hpos hrun hledger hcharged
        have hnow := now_le_run hrun
        exact returns_of_charged (hstill hsame) hnow hpass

/-- Task 0 takes the only token, and task 1 is about to find none. -/
def takingTurns : List (Action (Fin 2)) :=
  [.call 0, .takeLock 0, .pass 0, .call 1, .takeLock 1]

theorem sleeper_is_granted :
    ∃ s₀ s₁ s₂ s₃, (system (Fin 2) (3 / 2)).run (init _ 0) takingTurns =
        some s₀ ∧
      step (3 / 2) s₀ (.pass 1) = some s₁ ∧ s₁.task 1 = .sleeping (2 / 3) ∧
      (system (Fin 2) (3 / 2)).run s₁ [.tick 1, .wake 1, .takeLock 1] =
        some s₂ ∧
      step (3 / 2) s₂ (.pass 1) = some s₃ ∧ Returns s₂ 1 s₃ := by
  have hrun : ∃ s₀, (system (Fin 2) (3 / 2)).run (init _ 0) takingTurns =
      some s₀ ∧ ((step (3 / 2) s₀ (.pass 1)).any fun s₁ =>
        decide (s₁.task 1 = .sleeping (2 / 3)) &&
        ((system (Fin 2) (3 / 2)).run s₁ [.tick 1, .wake 1, .takeLock 1]).any
          fun s₂ => decide (2 / 3 ≤ s₂.now ∧ s₂.grants = s₁.grants) &&
            (step (3 / 2) s₂ (.pass 1)).isSome) = true :=
    System.exists_of_runUnder (by decide +kernel)
  obtain ⟨s₀, hs₀, h⟩ := hrun
  obtain ⟨s₁, hsleep, h⟩ := (Option.any_eq_true _ _).mp h
  obtain ⟨htask, h⟩ := (Bool.and_eq_true _ _).mp h
  obtain ⟨s₂, hrun, h⟩ := (Option.any_eq_true _ _).mp h
  obtain ⟨hsame, h⟩ := (Bool.and_eq_true _ _).mp h
  obtain ⟨hdue, hsame⟩ := of_decide_eq_true hsame
  obtain ⟨s₃, hpass⟩ := Option.isSome_iff_exists.mp h
  have hrate : (1 : ℚ) ≤ 3 / 2 := by norm_num
  have hlaw := (acquire_paces hrate (Fin 2)).2.1
  refine ⟨s₀, s₁, s₂, s₃, hs₀, hsleep, of_decide_eq_true htask, hrun, hpass, ?_⟩
  exact hlaw s₀ s₁ s₂ s₃ 1 (2 / 3) (System.reachable_of_runUnder ⟨0, rfl⟩ hs₀)
    hsleep (of_decide_eq_true htask) (System.leads_of_runUnder hrun) hdue hsame
    hpass

/-- The bucket has one token, whoever else calls while it is there or takes it
from a task that has just woken. -/
theorem contended_calls_wait :
    (¬ ∀ (s₀ s₁ s₂ s₃ : State (Fin 2)) (t : Fin 2),
      (system (Fin 2) 1).Reachable s₀ → s₀.Full 1 →
      step 1 s₀ (.call t) = some s₁ →
      (system (Fin 2) 1).Leads (fun _ a => a ≠ .pass t) s₁ s₂ →
      step 1 s₂ (.pass t) = some s₃ → s₃.task t = .idle) ∧
    ¬ ∀ (s₀ s₁ s₂ s₃ s₄ : State (Fin 2)) (t : Fin 2) (wakeAt : ℚ),
      (system (Fin 2) 1).Reachable s₀ → s₀.task t = .sleeping wakeAt →
      (system (Fin 2) 1).Leads (fun _ _ => True) s₀ s₁ →
      s₁.task t = .sleeping wakeAt → wakeAt ≤ s₁.now →
      s₁.grants = s₀.grants → step 1 s₁ (.wake t) = some s₂ →
      (system (Fin 2) 1).Leads (fun _ a => a ≠ .pass t) s₂ s₃ →
      step 1 s₃ (.pass t) = some s₄ → s₄.task t = .idle := by
  constructor
  · intro hall
    -- both call at once, and task 0 is first under the lock
    have hrun : ∃ s₀, (system (Fin 2) 1).run (init _ 0) [.call 0, .takeLock 0] =
        some s₀ ∧ (decide (s₀.Full 1) &&
          (step 1 s₀ (.call 1)).any fun s₁ =>
            ((system (Fin 2) 1).runUnder (fun _ a => a ≠ .pass 1) s₁
                [.pass 0, .takeLock 1]).any fun s₂ =>
              (step 1 s₂ (.pass 1)).any fun s₃ =>
                decide (s₃.task 1 ≠ .idle)) = true :=
      System.exists_of_runUnder (by decide +kernel)
    obtain ⟨s₀, hs₀, h⟩ := hrun
    obtain ⟨hfull, h⟩ := (Bool.and_eq_true _ _).mp h
    obtain ⟨s₁, hcall, h⟩ := (Option.any_eq_true _ _).mp h
    obtain ⟨s₂, hrun, h⟩ := (Option.any_eq_true _ _).mp h
    obtain ⟨s₃, hpass, h⟩ := (Option.any_eq_true _ _).mp h
    exact of_decide_eq_true h (hall s₀ s₁ s₂ s₃ 1
      (System.reachable_of_runUnder ⟨0, rfl⟩ hs₀) (of_decide_eq_true hfull)
      hcall (System.leads_of_runUnder hrun) hpass)
  · intro hall
    -- task 0 calls again when task 1 has woken, and is first under the lock
    have hrun : ∃ s₀, (system (Fin 2) 1).run (init _ 0)
        [.call 0, .takeLock 0, .pass 0, .call 1, .takeLock 1, .pass 1] =
        some s₀ ∧ (decide (s₀.task 1 = .sleeping 1) &&
          ((system (Fin 2) 1).run s₀ [.tick 1]).any fun s₁ =>
            decide (s₁.task 1 = .sleeping 1 ∧ 1 ≤ s₁.now ∧
              s₁.grants = s₀.grants) &&
            (step 1 s₁ (.wake 1)).any fun s₂ =>
              ((system (Fin 2) 1).runUnder (fun _ a => a ≠ .pass 1) s₂
                  [.call 0, .takeLock 0, .pass 0, .takeLock 1]).any fun s₃ =>
                (step 1 s₃ (.pass 1)).any fun s₄ =>
                  decide (s₄.task 1 ≠ .idle)) = true :=
      System.exists_of_runUnder (by decide +kernel)
    obtain ⟨s₀, hs₀, h⟩ := hrun
    obtain ⟨hsleeps, h⟩ := (Bool.and_eq_true _ _).mp h
    obtain ⟨s₁, htick, h⟩ := (Option.any_eq_true _ _).mp h
    obtain ⟨hslept, h⟩ := (Bool.and_eq_true _ _).mp h
    obtain ⟨hstill, hdue, hsame⟩ := of_decide_eq_true hslept
    obtain ⟨s₂, hwake, h⟩ := (Option.any_eq_true _ _).mp h
    obtain ⟨s₃, hrun, h⟩ := (Option.any_eq_true _ _).mp h
    obtain ⟨s₄, hpass, h⟩ := (Option.any_eq_true _ _).mp h
    exact of_decide_eq_true h (hall s₀ s₁ s₂ s₃ s₄ 1 1
      (System.reachable_of_runUnder ⟨0, rfl⟩ hs₀) (of_decide_eq_true hsleeps)
      (System.leads_of_runUnder htick) hstill hdue hsame hwake
      (System.leads_of_runUnder hrun) hpass)

end Bucket

/-! ## §6  The client's calls -/

section Callers

variable {Task : Type} [DecidableEq Task] {cfg : Config} {s s' : State Task}
  {a : Action Task} {t : Task}

/-- Where a task of the client stands towards the bucket. -/
def TaskState.caller : TaskState → Bucket.Caller
  | .waitingForLock _ => .waitingForLock
  | .holdingLock _ => .holdingLock
  | .sleeping _ wakeAt => .sleeping wakeAt
  | .idle _ | .granted _ | .admitted _ | .sending _ | .backingOff _ _ => .idle

/-- The client as its bucket sees it. -/
def State.callers (s : State Task) : Bucket.State Task where
  now := s.now
  bucket := s.bucket
  lockHolder := s.lockHolder
  task := fun t => (s.task t).caller
  grants := s.grants

theorem callers_setTask (s : State Task) (t : Task) (x : TaskState) :
    (s.setTask t x).callers = s.callers.setTask t x.caller := by
  unfold State.callers Bucket.State.setTask
  congr 1
  funext u
  by_cases hu : u = t
  · subst hu
    simp
  · simp [setTask_task_ne hu, Function.update_of_ne hu]

/-- A task that neither enters nor leaves the bucket, whatever else moves. -/
theorem callers_setTask_same {x : TaskState} {m : State Task}
    (hm : m.callers = s.callers) (hx : x.caller = (s.task t).caller) :
    (m.setTask t x).callers = s.callers := by
  rw [callers_setTask, hm, hx]
  unfold Bucket.State.setTask
  rw [show (s.task t).caller = s.callers.task t from rfl,
    Function.update_eq_self]

theorem callers_beginAttempt {attempt : ℕ} (ht : (s.task t).caller = .idle) :
    (Bucket.system Task cfg.rate).Leads (fun _ _ => True) s.callers
      (beginAttempt cfg s t attempt).callers := by
  unfold beginAttempt
  split
  · rw [callers_setTask_same rfl (by rw [ht]; rfl)]
    exact .refl _
  · rw [callers_setTask]
    refine (System.Leads.refl _).tail (a := .call t) trivial ?_
    show Bucket.step cfg.rate s.callers (.call t) = _
    simp only [Bucket.step, show s.callers.task t = .idle from ht]
    rfl

theorem callers_settle {n attempt : ℕ} {outcome : SendOutcome}
    (ht : (s.task t).caller = .idle) :
    (settle cfg { s with admittedCount := n } t attempt outcome).callers =
      s.callers := by
  unfold settle
  split
  · refine callers_setTask_same rfl ?_
    rw [ht]
    split <;> rfl
  · exact callers_setTask_same rfl (by rw [ht]; rfl)
  · exact callers_setTask_same rfl (by rw [ht]; rfl)
  · exact callers_setTask_same rfl (by rw [ht]; rfl)

/-- A step of the client is a step of its bucket's callers, or none. -/
theorem callers_step (hs : StepOf cfg s a s') :
    (Bucket.system Task cfg.rate).Leads (fun _ _ => True) s.callers
      s'.callers := by
  cases hs with
  | @tick d hd =>
      refine (System.Leads.refl _).tail (a := .tick d) trivial ?_
      exact if_pos hd
  | request ht => exact callers_beginAttempt (by rw [ht]; rfl)
  | @takeLock t k ht hl =>
      rw [callers_setTask]
      refine (System.Leads.refl _).tail (a := .takeLock t) trivial ?_
      show Bucket.step cfg.rate s.callers (.takeLock t) = _
      have htask : s.callers.task t = .waitingForLock := by
        simp [State.callers, ht, TaskState.caller]
      simp only [Bucket.step, htask, show s.callers.lockHolder = none from hl]
      rfl
  | @grant t k b ht hb =>
      rw [callers_setTask]
      refine (System.Leads.refl _).tail (a := .pass t) trivial ?_
      show Bucket.step cfg.rate s.callers (.pass t) = _
      have htask : s.callers.task t = .holdingLock := by
        simp [State.callers, ht, TaskState.caller]
      have hpass : s.callers.bucket.tryAcquire cfg.rate s.callers.now =
          (b, none) := hb
      simp only [Bucket.step, htask, hpass]
      rfl
  | @sleep t k b delay ht hb =>
      rw [callers_setTask]
      refine (System.Leads.refl _).tail (a := .pass t) trivial ?_
      show Bucket.step cfg.rate s.callers (.pass t) = _
      have htask : s.callers.task t = .holdingLock := by
        simp [State.callers, ht, TaskState.caller]
      have hpass : s.callers.bucket.tryAcquire cfg.rate s.callers.now =
          (b, some delay) := hb
      simp only [Bucket.step, htask, hpass]
      rfl
  | @wake t k at_ ht hat =>
      rw [callers_setTask]
      refine (System.Leads.refl _).tail (a := .wake t) trivial ?_
      show Bucket.step cfg.rate s.callers (.wake t) = _
      have htask : s.callers.task t = .sleeping at_ := by
        simp [State.callers, ht, TaskState.caller]
      simp only [Bucket.step, htask]
      rfl
  | enterSemaphore ht _ =>
      rw [callers_setTask_same rfl (by rw [ht]; rfl)]
      exact .refl _
  | send ht =>
      rw [callers_setTask_same rfl (by rw [ht]; rfl)]
      exact .refl _
  | receive ht =>
      rw [callers_settle (by rw [ht]; rfl)]
      exact .refl _
  | retry ht => exact callers_beginAttempt (by rw [ht]; rfl)

/-- What the bucket's callers keep in every run, the client's tasks keep. -/
theorem callers_reachable {G : State Task → Action Task → Prop}
    (h : (system Task cfg).ReachableUnder G s) :
    (Bucket.system Task cfg.rate).Reachable s.callers := by
  refine h.invariant
    (I := fun s => (Bucket.system Task cfg.rate).Reachable s.callers) ?_ ?_
  · rintro s ⟨now, rfl⟩
    exact ⟨Bucket.init Task now, ⟨now, rfl⟩, .refl _⟩
  · rintro s a s' ⟨s₀, h₀, hrun⟩ _ hstep
    exact ⟨s₀, h₀, hrun.trans (callers_step (step_cases hstep))⟩

end Callers

end LeakcheckHub.Client
