import LeakcheckHub.Auth.Local
import LeakcheckHub.Foundation.Rations
import LeakcheckHub.Foundation.System

/-!
# Guessing under the throttles

Runs of `authenticate` under one clock, with every other transaction as an
arbitrary edit of the tables: what an account's lock leaves of an attack on it
(§3), and what an address's bucket leaves of an attack from there (§5).
-/

set_option linter.unusedSectionVars false

namespace LeakcheckHub.Auth

open Foundation Accounts

/-! ## §1  Runs of sign-ins -/

structure Logins (ops : TextOps) where
  tables : LoginTables ops
  now : Timestamp

inductive LoginAction (ops : TextOps) where
  | authenticate (req : LoginRequest) (salt : Bytes)
  /-- Any other transaction on these tables. -/
  | edit (tables : LoginTables ops)
  | tick (dt : ℕ)

section Runs

variable {ops : TextOps} (A : Authenticator ops)

/-- A call that raises is rolled back. -/
def Logins.step (s : Logins ops) : LoginAction ops → Option (Logins ops)
  | .authenticate req salt =>
      match authenticate A req salt s.now s.tables with
      | .ok (_, tables) => some { s with tables }
      | .error _ => some s
  | .edit tables => some { s with tables }
  | .tick dt => some { s with now := s.now + dt }

def logins : System (Logins ops) (LoginAction ops) where
  init _ := True
  step := Logins.step A

/-- How a call returns; `none` for one that raises. -/
def Logins.verdict (s : Logins ops) (req : LoginRequest) (salt : Bytes) :
    Option Verdict :=
  (authenticate A req salt s.now s.tables).toOption.map Prod.fst

variable {A} {s s' : Logins ops} {req : LoginRequest} {salt : Bytes}

theorem step_authenticate
    (h : s.step A (.authenticate req salt) = some s') :
    (s.verdict A req salt = none ∧ s' = s) ∨
      ∃ v t, s.verdict A req salt = some v ∧ s' = { s with tables := t } ∧
        Returned A req s.now s.tables v t := by
  unfold Logins.verdict
  simp only [Logins.step] at h
  cases hcall : authenticate A req salt s.now s.tables with
  | error e =>
      rw [hcall, Option.some.injEq] at h
      exact .inl ⟨rfl, h.symm⟩
  | ok r =>
      obtain ⟨v, t⟩ := r
      rw [hcall, Option.some.injEq] at h
      exact .inr ⟨v, t, rfl, h.symm, authenticate_cases hcall⟩

/-- What a call that signs in has checked of the account it signs in to. -/
theorem verdict_accepted {user : User}
    (hv : s.verdict A req salt = some (.accepted user)) :
    ∃ c, s.tables.credentials user.id = some c ∧
      pending s.now c.lockedUntil = false ∧
      verifyPassword A c.passwordHash req.password = true ∧
      totpValid A user.id c req.totpCode s.now = true := by
  obtain ⟨⟨v, t⟩, hr, hfst⟩ := Option.map_eq_some_iff.mp hv
  cases hcall : authenticate A req salt s.now s.tables with
  | error e =>
      rw [hcall] at hr
      cases hr
  | ok r =>
      rw [hcall] at hr
      cases hr
      cases hfst
      cases authenticate_cases hcall with
      | attempted key v t haddr hfree hattempt =>
          cases hattempt with
          | accepted user₀ user c c' users huser hactive hrole hcred hopen
              hpassword htotp hrehash huser' hwrite =>
              subst huser'
              exact ⟨c, hcred, hopen, hpassword, htotp⟩

end Runs

/-! ## §2  The lock of an account -/

section Account

variable {ops : TextOps} {A : Authenticator ops} {t₀ now now' : Timestamp}
  {times : List Timestamp} {c : AdminCredential}

theorem accountLockout_pos : 0 < accountLockout A := by
  have h := A.lockout.1
  unfold accountLockout seconds
  positivity

/-- The guesses at an account so far are within the budget of its lock. -/
structure AccountBudget (A : Authenticator ops) (t₀ : Timestamp)
    (times : List Timestamp) (c : AdminCredential) (now start : Timestamp)
    (used : ℕ) : Prop where
  budget : Budget A.adminLoginMaxFailures (accountLockout A) t₀ times start used
  begun : start ≤ now
  unlocked : c.lockedUntil = none →
    used ≤ c.failedAttempts ∧ used < A.adminLoginMaxFailures
  locked : ∀ u, c.lockedUntil = some u → start + accountLockout A ≤ u

/-- The budget of an account in some phase. -/
def AccountBudgeted (A : Authenticator ops) (t₀ : Timestamp)
    (times : List Timestamp) (c : AdminCredential) (now : Timestamp) : Prop :=
  ∃ start used, AccountBudget A t₀ times c now start used

theorem AccountBudgeted.later (h : AccountBudgeted A t₀ times c now)
    (hle : now ≤ now') : AccountBudgeted A t₀ times c now' := by
  obtain ⟨start, used, h⟩ := h
  exact ⟨start, used, { h with begun := h.begun.trans hle }⟩

/-- Only the counter and the lock are looked at. -/
theorem AccountBudgeted.congr {c' : AdminCredential}
    (h : AccountBudgeted A t₀ times c now)
    (hfailed : c'.failedAttempts = c.failedAttempts)
    (hlocked : c'.lockedUntil = c.lockedUntil) :
    AccountBudgeted A t₀ times c' now := by
  obtain ⟨start, used, h⟩ := h
  refine ⟨start, used, h.budget, h.begun, ?_, ?_⟩
  · rw [hfailed, hlocked]
    exact h.unlocked
  · rw [hlocked]
    exact h.locked

/-- The first guess opens a phase, whatever was counted before. -/
theorem AccountBudgeted.first (hnone : c.lockedUntil = none) :
    AccountBudgeted A now [] c now := by
  refine ⟨now, 0, Budget.init _ _ _, le_rfl, ?_, ?_⟩
  · intro _
    exact ⟨Nat.zero_le _, A.max_failures.1⟩
  · intro u hu
    rw [hnone] at hu
    cases hu

theorem lockedUntil_unlock (c : AdminCredential) :
    (unlock c).lockedUntil = none := by
  unfold unlock
  split
  · rfl
  · rename_i h
    simpa using h

/-- An elapsed lock ends its phase. -/
theorem AccountBudgeted.unlock (h : AccountBudgeted A t₀ times c now)
    (hopen : pending now c.lockedUntil = false) :
    AccountBudgeted A t₀ times (unlock c) now := by
  obtain ⟨start, used, h⟩ := h
  cases hlock : c.lockedUntil with
  | none =>
      refine ⟨start, used, ?_⟩
      simpa [Auth.unlock, hlock] using h
  | some u =>
      have hu : u ≤ now := by
        simpa [pending, hlock] using hopen
      refine ⟨now, 0, h.budget.renew ((h.locked u hlock).trans hu), le_rfl, ?_, ?_⟩
      · intro _
        exact ⟨Nat.zero_le _, A.max_failures.1⟩
      · intro u' hu'
        rw [lockedUntil_unlock] at hu'
        cases hu'

/-- A guess is spent, and the last one of a phase locks the account. -/
theorem AccountBudgeted.recordFailure (h : AccountBudgeted A t₀ times c now)
    (hnone : c.lockedUntil = none) :
    AccountBudgeted A t₀ (now :: times) (recordFailure A now c) now := by
  obtain ⟨start, used, h⟩ := h
  obtain ⟨hused, hlt⟩ := h.unlocked hnone
  refine ⟨start, used + 1,
    h.budget.spend accountLockout_pos.le hlt h.begun, h.begun, ?_, ?_⟩
  · intro hopen
    simp only [Auth.recordFailure] at hopen ⊢
    split at hopen
    · cases hopen
    · rename_i hfew
      rw [if_neg hfew]
      simp only at hfew ⊢
      omega
  · intro u hu
    simp only [Auth.recordFailure] at hu
    split at hu
    · rw [Option.some.injEq] at hu
      rw [← hu]
      exact Int.add_le_add_right h.begun _
    · rw [hnone] at hu
      cases hu

end Account

/-! ## §3  An attack on an account -/

section AccountRuns

variable {ops : TextOps} (A : Authenticator ops) (account : Uuid)

/-- The counter and the lock of an account. -/
def LoginTables.lock (t : LoginTables ops) (i : Uuid) :
    Option (ℕ × Option Timestamp) :=
  (t.credentials i).map fun c => (c.failedAttempts, c.lockedUntil)

/-- Steps of a run in which no call signs in to the account and nothing but
`authenticate` touches its counter and its lock. -/
def Unsuccessful (s : Logins ops) : LoginAction ops → Prop
  | .authenticate req salt =>
      ((s.verdict A req salt).bind Verdict.user).map User.id ≠ some account
  | .edit t => t.lock account = s.tables.lock account
  | .tick _ => True

instance (s : Logins ops) (a : LoginAction ops) :
    Decidable (Unsuccessful A account s a) :=
  match a with
  | .authenticate _ _ => inferInstanceAs (Decidable (_ ≠ _))
  | .edit _ => inferInstanceAs (Decidable (_ = _))
  | .tick _ => inferInstanceAs (Decidable True)

/-- Notes the instants at which a guess at the account was evaluated and was
wrong. -/
def noteGuess (s : Logins ops) (guesses : List Timestamp) :
    LoginAction ops → List Timestamp
  | .authenticate req salt =>
      if s.verdict A req salt = some (.refused account) then s.now :: guesses
      else guesses
  | .edit _ | .tick _ => guesses

def guessing : System (Recorded (Logins ops) (List Timestamp))
    (LoginAction ops) :=
  (logins A).record [] (noteGuess A account)

/-- What a call leaves of an account it does not sign in to. -/
theorem credentials_of_returned {req : LoginRequest} {now : Timestamp}
    {t t' : LoginTables ops} {v : Verdict} (h : Returned A req now t v t')
    (hfail : ∀ user, v = .accepted user → user.id ≠ account) :
    (v ≠ .refused account ∧ t'.credentials account = t.credentials account) ∨
      (v = .refused account ∧ ∃ c, t.credentials account = some c ∧
        pending now c.lockedUntil = false ∧
        t'.credentials account =
          some (recordFailure A now (unlock c))) := by
  cases h with
  | badAddress => exact .inl ⟨nofun, rfl⟩
  | throttled => exact .inl ⟨nofun, rfl⟩
  | attempted key v t' haddr hfree hattempt =>
      cases hattempt with
      | ineligible => exact .inl ⟨nofun, rfl⟩
      | locked => exact .inl ⟨nofun, rfl⟩
      | refused user c hcred hopen =>
          by_cases hid : user.id = account
          · subst hid
            refine .inr ⟨rfl, c, hcred, hopen, ?_⟩
            rw [credentials_putLimit, credentials_putCredential_self]
          · refine .inl ⟨fun hv => hid (by cases hv; rfl), ?_⟩
            rw [credentials_putLimit,
              credentials_putCredential_of_ne (Ne.symm hid)]
      | accepted user user' c c' users huser hactive hrole hcred hopen hpassword
          htotp hrehash huser' hwrite =>
          have hid : user.id ≠ account := by
            have := hfail user' rfl
            rwa [huser'] at this
          refine .inl ⟨nofun, ?_⟩
          exact credentials_putCredential_of_ne (Ne.symm hid)

/-- The guesses of a run so far are within the budget of the account. -/
def Guessed (x : Recorded (Logins ops) (List Timestamp)) : Prop :=
  x.history = [] ∨
    ∃ c t₀, x.state.tables.credentials account = some c ∧
      x.history.getLast? = some t₀ ∧
      AccountBudgeted A t₀ x.history c x.state.now

variable {A account} {x y : Recorded (Logins ops) (List Timestamp)}

/-- The budget follows the row through a step that leaves the counter and the
lock alone. -/
theorem Guessed.of_lock (h : Guessed A account x)
    (hhistory : y.history = x.history) (hnow : x.state.now ≤ y.state.now)
    (hlock : y.state.tables.lock account = x.state.tables.lock account) :
    Guessed A account y := by
  rcases h with hnil | ⟨c, t₀, hcred, hlast, hbudget⟩
  · exact .inl (hhistory.trans hnil)
  · rw [LoginTables.lock, LoginTables.lock, hcred] at hlock
    obtain ⟨c', hcred', heq⟩ := Option.map_eq_some_iff.mp hlock
    rw [Prod.mk.injEq] at heq
    refine .inr ⟨c', t₀, hcred', ?_, ?_⟩
    · rw [hhistory]
      exact hlast
    · rw [hhistory]
      exact (hbudget.congr heq.1 heq.2).later hnow

/-- One more wrong guess. -/
theorem Guessed.guess (h : Guessed A account x) {c : AdminCredential}
    (hcred : x.state.tables.credentials account = some c)
    (hopen : pending x.state.now c.lockedUntil = false)
    (hhistory : y.history = x.state.now :: x.history)
    (hnow : y.state.now = x.state.now)
    (hcred' : y.state.tables.credentials account =
      some (recordFailure A x.state.now (unlock c))) :
    Guessed A account y := by
  rw [Guessed, hhistory, hnow]
  right
  rcases h with hnil | ⟨c', t₀, hc', hlast, hbudget⟩
  · -- the first guess of the run begins the first phase
    rw [hnil]
    refine ⟨_, x.state.now, hcred', rfl, ?_⟩
    exact (AccountBudgeted.first (lockedUntil_unlock c)).recordFailure
      (lockedUntil_unlock c)
  · rw [hcred, Option.some.injEq] at hc'
    subst hc'
    refine ⟨_, t₀, hcred', ?_, ?_⟩
    · rw [List.getLast?_cons, hlast]
      rfl
    · exact (hbudget.unlock hopen).recordFailure (lockedUntil_unlock c)

theorem guessed_step {a : LoginAction ops} (h : Guessed A account x)
    (hg : Unsuccessful A account x.state a)
    (hstep : (guessing A account).step x a = some y) : Guessed A account y := by
  obtain ⟨hstep, hnote⟩ := System.record_step hstep
  cases a with
  | authenticate req salt =>
      rcases step_authenticate hstep with ⟨hnone, hsame⟩ | ⟨v, t, hv, hs, hret⟩
      · -- a call that raised left nothing
        rw [noteGuess, hnone, if_neg nofun] at hnote
        exact h.of_lock hnote (by rw [hsame]) (by rw [hsame])
      · have hfail : ∀ user, v = .accepted user → user.id ≠ account := by
          rintro user rfl hid
          refine hg ?_
          rw [hv, ← hid]
          rfl
        rw [noteGuess, hv] at hnote
        rcases credentials_of_returned A account hret hfail with
          ⟨hne, hsame⟩ | ⟨hrefused, c, hcred, hopen, hcred'⟩
        · rw [if_neg (by simpa using hne)] at hnote
          refine h.of_lock hnote (by rw [hs]) ?_
          rw [hs, LoginTables.lock, LoginTables.lock, hsame]
        · rw [if_pos (by rw [hrefused])] at hnote
          exact h.guess hcred hopen hnote (by rw [hs]) (by rw [hs]; exact hcred')
  | edit t =>
      have hs : { x.state with tables := t } = y.state := Option.some.inj hstep
      refine h.of_lock hnote (by rw [← hs]) ?_
      rw [← hs]
      exact hg
  | tick dt =>
      have hs : { x.state with now := x.state.now + dt } = y.state :=
        Option.some.inj hstep
      refine h.of_lock hnote ?_ (by rw [← hs])
      rw [← hs]
      exact Int.le_add_of_nonneg_right (Int.natCast_nonneg dt)

theorem guessed_reachable
    (h : (guessing A account).ReachableUnder
      (fun x => Unsuccessful A account x.state) x) : Guessed A account x := by
  refine h.invariant ?_ fun x a y hx hg hstep => guessed_step hx hg hstep
  intro x hx
  exact .inl hx.2

/-- No call signs in to an account while its lock is pending. -/
theorem locked_of_pending {s : Logins ops} {req : LoginRequest} {salt : Bytes}
    {c : AdminCredential} {user : User}
    (hcred : s.tables.credentials account = some c)
    (hlocked : pending s.now c.lockedUntil = true)
    (hv : s.verdict A req salt = some (.accepted user)) :
    user.id ≠ account := by
  rintro rfl
  obtain ⟨c', hcred', hopen, -⟩ := verdict_accepted hv
  have heq : c = c' := Option.some.inj (hcred.symm.trans hcred')
  rw [heq, hopen] at hlocked
  cases hlocked

/-- **The lock rations guesses.** A locked account accepts no one, and in a run
without a successful sign-in the wrong guesses that are evaluated up to `T`,
the first one at `t₀`, are at most `m * (1 + ⌊(T - t₀) / L⌋)`. -/
theorem account_lock_rations_guesses (A : Authenticator ops) (account : Uuid) :
    (∀ (s : Logins ops) (req : LoginRequest) (salt : Bytes)
        (c : AdminCredential) (u : Timestamp) (user : User),
        s.tables.credentials account = some c → c.lockedUntil = some u →
        s.now < u → s.verdict A req salt = some (.accepted user) →
        user.id ≠ account) ∧
      ∀ x, (guessing A account).ReachableUnder
          (fun x => Unsuccessful A account x.state) x →
        ∀ t₀, x.history.getLast? = some t₀ → ∀ T : Timestamp,
          (x.history.filter fun t => decide (t ≤ T)).length ≤
            A.adminLoginMaxFailures *
              (1 + ((T - t₀) / accountLockout A).toNat) := by
  constructor
  · intro s req salt c u user hcred hlock hnow hv
    refine locked_of_pending hcred ?_ hv
    rw [hlock]
    exact decide_eq_true hnow
  · intro x hx t₀ hfirst T
    rcases guessed_reachable hx with hnil | ⟨c, t₁, -, hlast, start, used, h⟩
    · rw [hnil]
      exact Nat.zero_le _
    · have heq : t₁ = t₀ := Option.some.inj (hlast.symm.trans hfirst)
      rw [← heq]
      exact h.budget.length_filter_le A.max_failures.1 accountLockout_pos T

def guessTwice : List (LoginAction asciiOps) :=
  [.authenticate sampleGuess [], .tick 60000000, .authenticate sampleGuess []]

theorem two_guesses_in_a_minute :
    ∃ x : Recorded (Logins asciiOps) (List Timestamp),
      x.history = [60000000, 0] ∧
        (x.history.filter fun t => decide (t ≤ 60000000)).length ≤
          1 * (1 + ((60000000 - 0) / accountLockout strict).toNat) := by
  obtain ⟨x, hrun, hhistory⟩ : ∃ x,
      (guessing strict 1).runUnder (fun x => Unsuccessful strict 1 x.state)
        ⟨⟨sampleTables, 0⟩, []⟩ guessTwice = some x ∧
      x.history = [60000000, 0] :=
    System.exists_of_runUnder (by decide +kernel)
  have hinit : (guessing strict 1).init ⟨⟨sampleTables, 0⟩, []⟩ :=
    ⟨trivial, rfl⟩
  have hreach := System.reachable_of_runUnder hinit hrun
  refine ⟨x, hhistory, ?_⟩
  exact (account_lock_rations_guesses strict 1).2 x hreach 0
    (by rw [hhistory]; rfl) 60000000

end AccountRuns

/-! ## §4  The bucket of an address -/

section Bucket

variable {ops : TextOps} {A : Authenticator ops} {t₀ now now' : Timestamp}
  {times : List Timestamp} {b : AdminLoginRateLimit}

/-- How long a phase of a bucket lasts at least. -/
def bucketPhase (A : Authenticator ops) : ℤ := min (ipWindow A) (ipLockout A)

theorem bucketPhase_pos : 0 < bucketPhase A := by
  have hw := A.ip_window.1
  have hl := A.ip_lockout.1
  unfold bucketPhase ipWindow ipLockout seconds
  refine lt_min ?_ ?_ <;> positivity

/-- The failures from an address so far are within the budget of its bucket. -/
structure BucketBudget (A : Authenticator ops) (t₀ : Timestamp)
    (times : List Timestamp) (b : AdminLoginRateLimit) (now : Timestamp) :
    Prop where
  budget : Budget A.adminLoginIpMaxFailures (bucketPhase A) t₀ times
    b.windowStartedAt b.attempts
  begun : b.windowStartedAt ≤ now
  unblocked : b.blockedUntil = none → b.attempts < A.adminLoginIpMaxFailures
  blocked : ∀ u, b.blockedUntil = some u → b.windowStartedAt + ipLockout A ≤ u

namespace BucketBudget

theorem later (h : BucketBudget A t₀ times b now) (hle : now ≤ now') :
    BucketBudget A t₀ times b now' :=
  { h with begun := h.begun.trans hle }

/-- A bucket as it is inserted. -/
theorem fresh : BucketBudget A now [] ⟨now, 0, none⟩ now where
  budget := Budget.init _ _ _
  begun := le_rfl
  unblocked := fun _ => A.ip_max_failures.1
  blocked := nofun

/-- Any phase that may end has lasted its time. -/
theorem anew (h : BucketBudget A t₀ times b now)
    (hend : b.windowStartedAt + ipWindow A ≤ now ∨
      b.windowStartedAt + ipLockout A ≤ now) :
    BucketBudget A t₀ times ⟨now, 0, none⟩ now := by
  refine { fresh with budget := h.budget.renew ?_ }
  have hwindow : bucketPhase A ≤ ipWindow A := min_le_left _ _
  have hlockout : bucketPhase A ≤ ipLockout A := min_le_right _ _
  rcases hend with hend | hend <;> linarith

theorem reset (h : BucketBudget A t₀ times b now)
    (hfree : pending now b.blockedUntil = false) :
    BucketBudget A t₀ times (resetIpLimitIfElapsed A now b) now ∧
      (resetIpLimitIfElapsed A now b).blockedUntil = none := by
  unfold resetIpLimitIfElapsed
  cases hb : b.blockedUntil with
  | some u =>
      -- a block that is not pending is over
      have hu : u ≤ now := by
        simpa [pending, hb] using hfree
      rw [Option.any_some, if_pos (decide_eq_true hu)]
      exact ⟨h.anew (.inr ((h.blocked u hb).trans hu)), rfl⟩
  | none =>
      rw [Option.any_none, if_neg Bool.false_ne_true]
      split
      · rename_i hwindow
        exact ⟨h.anew (.inl hwindow), rfl⟩
      · exact ⟨h, hb⟩

/-- One more failure; the `k`-th blocks the bucket. -/
theorem recordIpFailure (h : BucketBudget A t₀ times b now)
    (hnone : b.blockedUntil = none) :
    BucketBudget A t₀ (now :: times) (recordIpFailure A now b) now := by
  have hfree : pending now b.blockedUntil = false := by
    rw [hnone]
    rfl
  obtain ⟨h', hnone'⟩ := h.reset hfree
  have hspent := h'.budget.spend bucketPhase_pos.le (h'.unblocked hnone')
    h'.begun
  unfold Auth.recordIpFailure
  simp only
  split
  · refine ⟨hspent, h'.begun, nofun, ?_⟩
    intro u hu
    rw [Option.some.injEq] at hu
    rw [← hu]
    exact Int.add_le_add_right h'.begun _
  · rename_i hfew
    refine ⟨hspent, h'.begun, fun _ => Nat.lt_of_not_le hfew, ?_⟩
    intro u hu
    rw [hnone'] at hu
    cases hu

end BucketBudget

end Bucket

/-! ## §5  An attack from an address -/

section BucketRuns

variable {ops : TextOps} (A : Authenticator ops) (key : Bytes)

/-- The returns that record a failure of the address. -/
def Verdict.failed : Verdict → Bool
  | .ineligible | .locked _ | .refused _ => true
  | .badAddress | .throttled | .accepted _ => false

/-- When the bucket of an address was inserted, and the instants of the failed
attempts from there. -/
structure BucketLog where
  createdAt : Option Timestamp
  failures : List Timestamp
deriving DecidableEq

def BucketLog.empty : BucketLog := ⟨none, []⟩

/-- Nothing but `authenticate` touches the bucket. -/
def BucketKept (s : Logins ops) : LoginAction ops → Prop
  | .edit t => t.limits key = s.tables.limits key
  | .authenticate _ _ | .tick _ => True

instance (s : Logins ops) (a : LoginAction ops) :
    Decidable (BucketKept key s a) :=
  match a with
  | .edit _ => inferInstanceAs (Decidable (_ = _))
  | .authenticate _ _ => inferInstanceAs (Decidable True)
  | .tick _ => inferInstanceAs (Decidable True)

def BucketLog.note (log : BucketLog) (now : Timestamp) (v : Verdict) :
    BucketLog where
  createdAt := log.createdAt.or (some now)
  failures := if v.failed then now :: log.failures else log.failures

def noteFailure (s : Logins ops) (log : BucketLog) :
    LoginAction ops → BucketLog
  | .authenticate req salt =>
      match s.verdict A req salt, ipHash A req.clientIp with
      | some v, some k => if k = key then log.note s.now v else log
      | _, _ => log
  | .edit _ | .tick _ => log

def knocking : System (Recorded (Logins ops) BucketLog) (LoginAction ops) :=
  (logins A).record .empty (noteFailure A key)

/-- What a call leaves in the bucket of the address it comes from. -/
theorem limits_of_attempted {req : LoginRequest} {now : Timestamp}
    {b : AdminLoginRateLimit} {t t' : LoginTables ops} {v : Verdict}
    (h : Attempted A req now key b t v t') :
    t'.limits key =
      some (if v.failed then recordIpFailure A now b else b) := by
  cases h with
  | ineligible => exact limits_putLimit_self
  | locked => exact limits_putLimit_self
  | refused => exact limits_putLimit_self
  | accepted => exact limits_putLimit_self

/-- And in all other buckets. -/
theorem limits_of_attempted_of_ne {req : LoginRequest} {now : Timestamp}
    {b : AdminLoginRateLimit} {t t' : LoginTables ops} {v : Verdict} {k : Bytes}
    (h : Attempted A req now k b t v t') (hne : key ≠ k) :
    t'.limits key = t.limits key := by
  cases h with
  | ineligible => exact Function.update_of_ne hne ..
  | locked => exact Function.update_of_ne hne ..
  | refused => exact Function.update_of_ne hne ..
  | accepted => exact Function.update_of_ne hne ..

/-- The failures of a run so far are within the budget of the bucket. -/
def Knocked (x : Recorded (Logins ops) BucketLog) : Prop :=
  match x.state.tables.limits key with
  | none => x.history = .empty
  | some b => ∃ t₀, x.history.createdAt = some t₀ ∧
      BucketBudget A t₀ x.history.failures b x.state.now

variable {A key} {x y : Recorded (Logins ops) BucketLog}

theorem Knocked.of_limits (h : Knocked A key x) (hlog : y.history = x.history)
    (hnow : x.state.now ≤ y.state.now)
    (hlimits : y.state.tables.limits key = x.state.tables.limits key) :
    Knocked A key y := by
  rw [Knocked, hlimits, hlog]
  rw [Knocked] at h
  split at h
  · exact h
  · obtain ⟨t₀, hcreated, hbudget⟩ := h
    exact ⟨t₀, hcreated, hbudget.later hnow⟩

/-- The bucket that a call locks: the stored one, or a fresh one. -/
theorem Knocked.load (h : Knocked A key x) :
    ∃ t₀, x.history.createdAt.or (some x.state.now) = some t₀ ∧
      BucketBudget A t₀ x.history.failures
        (loadIpLimit x.state.tables key x.state.now) x.state.now := by
  rw [Knocked] at h
  unfold loadIpLimit
  cases hb : x.state.tables.limits key with
  | none =>
      simp only [hb] at h
      rw [h]
      exact ⟨x.state.now, rfl, .fresh⟩
  | some b =>
      simp only [hb] at h
      obtain ⟨t₀, hcreated, hbudget⟩ := h
      exact ⟨t₀, by rw [hcreated]; rfl, hbudget⟩

/-- A call from the address itself. -/
theorem Knocked.call (h : Knocked A key x) {req : LoginRequest} {v : Verdict}
    {t : LoginTables ops} (haddr : ipHash A req.clientIp = some key)
    (hret : Returned A req x.state.now x.state.tables v t)
    (hstate : y.state = { x.state with tables := t })
    (hlog : y.history = x.history.note x.state.now v) : Knocked A key y := by
  obtain ⟨t₀, hcreated, hbudget⟩ := h.load
  rw [Knocked, hstate, hlog]
  cases hret with
  | badAddress hnone =>
      rw [haddr] at hnone
      cases hnone
  | throttled k hk hblocked =>
      obtain rfl : key = k := Option.some.inj (haddr.symm.trans hk)
      rw [limits_putLimit_self]
      exact ⟨t₀, hcreated, hbudget⟩
  | attempted k v t hk hfree hattempt =>
      obtain rfl : key = k := Option.some.inj (haddr.symm.trans hk)
      obtain ⟨hreset, hnone⟩ := hbudget.reset hfree
      simp only [limits_of_attempted A key hattempt]
      refine ⟨t₀, hcreated, ?_⟩
      unfold BucketLog.note
      cases v.failed with
      | true => exact hreset.recordIpFailure hnone
      | false => exact hreset

/-- A call from any other address. -/
theorem limits_of_other_address {req : LoginRequest} {now : Timestamp}
    {v : Verdict} {t t' : LoginTables ops}
    (haddr : ipHash A req.clientIp ≠ some key)
    (hret : Returned A req now t v t') : t'.limits key = t.limits key := by
  cases hret with
  | badAddress => rfl
  | throttled k hk hblocked =>
      have hne : key ≠ k := fun heq => haddr (heq ▸ hk)
      exact Function.update_of_ne hne ..
  | attempted k v t' hk hfree hattempt =>
      have hne : key ≠ k := fun heq => haddr (heq ▸ hk)
      exact limits_of_attempted_of_ne A key hattempt hne

theorem knocked_step {a : LoginAction ops} (h : Knocked A key x)
    (hg : BucketKept key x.state a)
    (hstep : (knocking A key).step x a = some y) : Knocked A key y := by
  obtain ⟨hstep, hnote⟩ := System.record_step hstep
  cases a with
  | authenticate req salt =>
      rcases step_authenticate hstep with ⟨hnone, hsame⟩ | ⟨v, t, hv, hs, hret⟩
      · rw [noteFailure, hnone] at hnote
        exact h.of_limits hnote (by rw [hsame]) (by rw [hsame])
      · by_cases haddr : ipHash A req.clientIp = some key
        · rw [noteFailure, hv, haddr] at hnote
          simp only [if_pos] at hnote
          exact h.call haddr hret hs hnote
        · refine h.of_limits ?_ (by rw [hs]) ?_
          · rw [hnote, noteFailure]
            split
            · rename_i v' k hv' hk
              have hne : k ≠ key := fun heq => haddr (heq ▸ hk)
              rw [if_neg hne]
            · rfl
          · rw [hs]
            exact limits_of_other_address haddr hret
  | edit t =>
      have hs : { x.state with tables := t } = y.state := Option.some.inj hstep
      refine h.of_limits hnote (by rw [← hs]) ?_
      rw [← hs]
      exact hg
  | tick dt =>
      have hs : { x.state with now := x.state.now + dt } = y.state :=
        Option.some.inj hstep
      refine h.of_limits hnote ?_ (by rw [← hs])
      rw [← hs]
      exact Int.le_add_of_nonneg_right (Int.natCast_nonneg dt)

/-- A blocked address gets its answer without the accounts. -/
theorem authenticate_of_blocked {req : LoginRequest} {salt : Bytes}
    {now u : Timestamp} {t : LoginTables ops} {b : AdminLoginRateLimit}
    (haddr : ipHash A req.clientIp = some key) (hb : t.limits key = some b)
    (hblocked : b.blockedUntil = some u) (hnow : now < u) :
    authenticate A req salt now t = .ok (.throttled, t) := by
  have hload : loadIpLimit t key now = b := by
    rw [loadIpLimit, hb]
    rfl
  have hpending : pending now b.blockedUntil = true := by
    rw [hblocked]
    exact decide_eq_true hnow
  have hsame : t.putLimit key b = t := by
    rw [LoginTables.putLimit, ← hb, Function.update_eq_self]
  simp only [authenticate, haddr, hload, hpending, if_true, hsame]

/-- **The bucket rations failures.** While an address is blocked its calls
return without the account tables, whatever these hold. From the insertion of
its bucket at `t₀` on, the attempts stay at `k` at most, a bucket at `k` is
blocked, and the failed attempts up to `T` are at most
`k * (1 + ⌊(T - t₀) / min W B⌋)`. -/
theorem address_bucket_rations_failures (A : Authenticator ops) (key : Bytes) :
    (∀ (req : LoginRequest) (salt : Bytes) (now u : Timestamp)
        (limits : Bytes → Option AdminLoginRateLimit)
        (b : AdminLoginRateLimit),
        ipHash A req.clientIp = some key → limits key = some b →
        b.blockedUntil = some u → now < u →
        ∀ users credentials,
          authenticate A req salt now ⟨users, credentials, limits⟩ =
            .ok (.throttled, ⟨users, credentials, limits⟩)) ∧
      ∀ (s : Logins ops) (x : Recorded (Logins ops) BucketLog),
        s.tables.limits key = none →
        (knocking A key).Leads (fun x => BucketKept key x.state)
          ⟨s, .empty⟩ x →
        ∀ b, x.state.tables.limits key = some b →
          b.attempts ≤ A.adminLoginIpMaxFailures ∧
          (b.attempts = A.adminLoginIpMaxFailures →
            b.blockedUntil.isSome = true) ∧
          ∃ t₀, x.history.createdAt = some t₀ ∧ ∀ T : Timestamp,
            (x.history.failures.filter fun t => decide (t ≤ T)).length ≤
              A.adminLoginIpMaxFailures *
                (1 + ((T - t₀) / min (ipWindow A) (ipLockout A)).toNat) := by
  constructor
  · intro req salt now u limits b haddr hb hblocked hnow users credentials
    exact authenticate_of_blocked haddr hb hblocked hnow
  · intro s x habsent hrun b hb
    have hknocked : Knocked A key x := by
      refine hrun.invariant (fun x a y hx hg hstep => knocked_step hx hg hstep) ?_
      rw [Knocked, habsent]
    rw [Knocked, hb] at hknocked
    obtain ⟨t₀, hcreated, h⟩ := hknocked
    refine ⟨h.budget.used_le, ?_, t₀, hcreated, fun T => ?_⟩
    · intro hfull
      by_contra hnone
      rw [Option.not_isSome_iff_eq_none] at hnone
      have := h.unblocked hnone
      omega
    · exact h.budget.length_filter_le A.ip_max_failures.1 bucketPhase_pos T

def sampleBucket : Bytes := strict.ipDigest sampleGuess.clientIp

def knockTwice : List (LoginAction asciiOps) :=
  [.authenticate sampleGuess [], .authenticate sampleGuess [], .tick 60000000,
    .authenticate sampleGuess []]

/-- The second failure blocks the address for a minute. -/
theorem three_failures_in_a_minute :
    ∃ x : Recorded (Logins asciiOps) BucketLog,
      x.history = ⟨some 0, [60000000, 0, 0]⟩ ∧
        (x.history.failures.filter fun t => decide (t ≤ 60000000)).length ≤
          2 * (1 + ((60000000 - 0) /
            min (ipWindow strict) (ipLockout strict)).toNat) := by
  obtain ⟨x, hrun, hlog, hsome⟩ : ∃ x,
      (knocking strict sampleBucket).runUnder
        (fun x => BucketKept sampleBucket x.state) ⟨⟨sampleTables, 0⟩, .empty⟩
        knockTwice = some x ∧
      (x.history = ⟨some 0, [60000000, 0, 0]⟩ ∧
        (x.state.tables.limits sampleBucket).isSome = true) :=
    System.exists_of_runUnder (by decide +kernel)
  obtain ⟨b, hb⟩ := Option.isSome_iff_exists.mp hsome
  refine ⟨x, hlog, ?_⟩
  obtain ⟨-, -, t₀, hcreated, hcount⟩ :=
    (address_bucket_rations_failures strict sampleBucket).2 ⟨sampleTables, 0⟩ x
      rfl (System.leads_of_runUnder hrun) b hb
  rw [hlog, Option.some.injEq] at hcreated
  rw [hcreated]
  exact hcount 60000000

end BucketRuns

end LeakcheckHub.Auth
