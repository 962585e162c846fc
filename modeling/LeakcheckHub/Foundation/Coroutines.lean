import LeakcheckHub.Foundation.Outcome
import LeakcheckHub.Foundation.System
import Mathlib.Algebra.GroupWithZero.Nat
import Mathlib.Algebra.Order.Group.Int
import Mathlib.Logic.Function.Basic

/-!
# Cooperative tasks

Tasks over one shared state that wait for the outside world in requests, and
run without interruption between two of them. Any number of them run
interleaved, the outside world answers as it likes and as late as it likes.

A task is judged on its own: it is *safe* where every request it makes is
allowed, every change of the shared state keeps an invariant, and whatever it
returns meets a postcondition, for all that the others and the outside world
may do in between. Facts about the past are stated over the history of
answers, which only grows.

§1 tasks · §2 the pool · §3 safe tasks · §4 safe runs · §5 what a task may spend ·
§6 a task alone.
-/

namespace LeakcheckHub.Foundation

/-! ## §1  Tasks -/

/-- A program that reads the clock and the shared state, changes the state,
makes requests and returns or raises. -/
inductive Task (σ Q A ε α : Type) where
  | done (result : Except ε α)
  | act (update : ℤ → σ → σ) (next : ℤ → σ → Task σ Q A ε α)
  | ask (request : Q) (next : A → Task σ Q A ε α)

namespace Task

variable {σ Q A ε α β : Type}

def bind : Task σ Q A ε α → (α → Task σ Q A ε β) → Task σ Q A ε β
  | done (.ok a), f => f a
  | done (.error e), _ => done (.error e)
  | act update next, f => act update fun t s => (next t s).bind f
  | ask request next, f => ask request fun a => (next a).bind f

instance : Monad (Task σ Q A ε) where
  pure a := done (.ok a)
  bind := bind

/-- A step that neither waits nor touches the state. -/
def ofExcept (x : Except ε α) : Task σ Q A ε α := done x

/-- Looks at the clock and the state. -/
def inspect (f : ℤ → σ → α) : Task σ Q A ε α :=
  act (fun _ s => s) fun t s => done (.ok (f t s))

def modify (f : ℤ → σ → σ) : Task σ Q A ε Unit :=
  act f fun _ _ => done (.ok ())

def request (q : Q) : Task σ Q A ε A := ask q fun a => done (.ok a)

/-- Runs a task at a time until it waits, returns or raises. -/
def settle (t : ℤ) : Task σ Q A ε α → σ → σ × Task σ Q A ε α
  | done result, s => (s, done result)
  | act update next, s => settle t (next t s) (update t s)
  | ask request next, s => (s, ask request next)

theorem settle_bind_done {f : α → Task σ Q A ε β} {t : ℤ} {a : α} {s' : σ} :
    ∀ (task : Task σ Q A ε α) (s : σ), task.settle t s = (s', done (.ok a)) →
      (task >>= f).settle t s = (f a).settle t s'
  | done _, _, h => by
      cases h
      rfl
  | act update next, s, h => settle_bind_done (next t s) (update t s) h
  | ask _ _, _, h => by cases h

theorem settle_bind_ask {f : α → Task σ Q A ε β} {t : ℤ} {q : Q} {s' : σ}
    {k : A → Task σ Q A ε α} :
    ∀ (task : Task σ Q A ε α) (s : σ), task.settle t s = (s', ask q k) →
      (task >>= f).settle t s = (s', ask q fun a => k a >>= f)
  | done _, _, h => by cases h
  | act update next, s, h => settle_bind_ask (next t s) (update t s) h
  | ask _ _, _, h => by
      cases h
      rfl

end Task

/-! ## §2  The pool -/

/-- An answer that was given: to which task, to what, and when. -/
structure Exchange (Q A : Type) where
  task : ℕ
  request : Q
  answer : A
  at_ : ℤ

structure Pool (Job σ Q A ε α : Type) where
  shared : σ
  now : ℤ
  /-- The job of each task that has started, with what is left of it. -/
  tasks : ℕ → Option (Job × Task σ Q A ε α)
  /-- When each task has run last. -/
  ranAt : ℕ → ℤ
  log : List (Exchange Q A)

inductive PoolAction (Job A : Type) where
  | start (i : ℕ) (job : Job)
  | answer (i : ℕ) (a : A)
  | tick (duration : ℕ)

namespace Pool

variable {Job σ Q A ε α : Type}

def resume (c : Pool Job σ Q A ε α) (i : ℕ) (job : Job)
    (task : Task σ Q A ε α) : Pool Job σ Q A ε α :=
  { c with
    shared := (task.settle c.now c.shared).1
    tasks := Function.update c.tasks i
      (some (job, (task.settle c.now c.shared).2))
    ranAt := Function.update c.ranAt i c.now }

@[simp] theorem shared_resume (c : Pool Job σ Q A ε α) (i : ℕ) (job : Job)
    (task : Task σ Q A ε α) :
    (c.resume i job task).shared = (task.settle c.now c.shared).1 := rfl

@[simp] theorem now_resume (c : Pool Job σ Q A ε α) (i : ℕ) (job : Job)
    (task : Task σ Q A ε α) : (c.resume i job task).now = c.now := rfl

@[simp] theorem log_resume (c : Pool Job σ Q A ε α) (i : ℕ) (job : Job)
    (task : Task σ Q A ε α) : (c.resume i job task).log = c.log := rfl

theorem tasks_resume_self (c : Pool Job σ Q A ε α) (i : ℕ) (job : Job)
    (task : Task σ Q A ε α) : (c.resume i job task).tasks i =
      some (job, (task.settle c.now c.shared).2) :=
  Function.update_self _ _ _

theorem ranAt_resume_self (c : Pool Job σ Q A ε α) (i : ℕ) (job : Job)
    (task : Task σ Q A ε α) : (c.resume i job task).ranAt i = c.now :=
  Function.update_self _ _ _

theorem ranAt_resume_of_ne (c : Pool Job σ Q A ε α) {i j : ℕ} (h : j ≠ i)
    (job : Job) (task : Task σ Q A ε α) :
    (c.resume i job task).ranAt j = c.ranAt j :=
  Function.update_of_ne h _ _

theorem tasks_resume_of_ne (c : Pool Job σ Q A ε α) {i j : ℕ} (h : j ≠ i)
    (job : Job) (task : Task σ Q A ε α) :
    (c.resume i job task).tasks j = c.tasks j :=
  Function.update_of_ne h _ _

variable (program : Job → Task σ Q A ε α)

def step (c : Pool Job σ Q A ε α) : PoolAction Job A → Option (Pool Job σ Q A ε α)
  | .start i job =>
      match c.tasks i with
      | none => some (c.resume i job (program job))
      | some _ => none
  | .answer i a =>
      match c.tasks i with
      | some (job, .ask request next) =>
          some (resume { c with log := ⟨i, request, a, c.now⟩ :: c.log } i job
            (next a))
      | _ => none
  | .tick duration => some { c with now := c.now + duration }

def system (s₀ : σ) : System (Pool Job σ Q A ε α) (PoolAction Job A) where
  init c := c.shared = s₀ ∧ (∀ i, c.tasks i = none) ∧ c.log = []
  step := step program

variable {program} {c c' : Pool Job σ Q A ε α} {a : PoolAction Job A}

theorem step_answer {i : ℕ} {job : Job} {request : Q}
    {next : A → Task σ Q A ε α} (a : A)
    (h : c.tasks i = some (job, .ask request next)) :
    step program c (.answer i a) = some (resume
      { c with log := ⟨i, request, a, c.now⟩ :: c.log } i job (next a)) := by
  simp only [step, h]

/-- What a step can do. -/
theorem step_cases (h : step program c a = some c') :
    (∃ i job, c.tasks i = none ∧ c' = c.resume i job (program job)) ∨
    (∃ i job request next answer, c.tasks i = some (job, .ask request next) ∧
      c' = resume { c with log := ⟨i, request, answer, c.now⟩ :: c.log } i job
        (next answer)) ∨
    ∃ duration : ℕ, c' = { c with now := c.now + duration } := by
  cases a with
  | start i job =>
      left
      cases hi : c.tasks i with
      | none =>
          simp only [step, hi, Option.some.injEq] at h
          exact ⟨i, job, hi, h.symm⟩
      | some task =>
          simp only [step, hi] at h
          cases h
  | answer i answer =>
      right
      left
      cases hi : c.tasks i with
      | none =>
          simp only [step, hi] at h
          cases h
      | some entry =>
          obtain ⟨job, task⟩ := entry
          cases task with
          | done result =>
              simp only [step, hi] at h
              cases h
          | act update next =>
              simp only [step, hi] at h
              cases h
          | ask request next =>
              simp only [step, hi, Option.some.injEq] at h
              exact ⟨i, job, request, next, answer, hi, h.symm⟩
  | tick duration =>
      right
      right
      rw [step, Option.some.injEq] at h
      exact ⟨duration, h.symm⟩

end Pool

/-! ## §3  Safe tasks -/

/-- A history of answers: what was answered to which request, and when. -/
abbrev History (Q A : Type) : Type := ℤ → Q → A → Prop

namespace Task

variable {σ Q A ε α β : Type} {I : ℤ → σ → Prop} {L : History Q A}
  {P : ℤ → Q → Prop} {post post' : ℤ → α → Prop} {t : ℤ}

/-- The task, from the time `t` on, keeps `I`, makes requests that meet `P` at
their time and returns what meets `post`, if others keep `I` while it waits and
its answers are among those of `L`. -/
def Safe (I : ℤ → σ → Prop) (L : History Q A) (P : ℤ → Q → Prop)
    (post : ℤ → α → Prop) : ℤ → Task σ Q A ε α → Prop
  | t, done (.ok a) => post t a
  | _, done (.error _) => True
  | t, act update next => ∀ s, I t s →
      I t (update t s) ∧ Safe I L P post t (next t s)
  | t, ask request next => P t request ∧
      ∀ t' a, t ≤ t' → L t' request a → Safe I L P post t' (next a)

theorem Safe.mono (hpost : ∀ t a, post t a → post' t a) :
    ∀ {task : Task σ Q A ε α} {t : ℤ}, task.Safe I L P post t →
      task.Safe I L P post' t
  | done (.ok a), t, h => hpost t a h
  | done (.error _), _, _ => trivial
  | act _ _, _, h => fun s hs => ⟨(h s hs).1, (h s hs).2.mono hpost⟩
  | ask _ _, _, h => ⟨h.1, fun t' a ht ha => (h.2 t' a ht ha).mono hpost⟩

/-- **Sequence rule.** -/
theorem Safe.bind {f : α → Task σ Q A ε β} {post : ℤ → β → Prop} :
    ∀ {task : Task σ Q A ε α} {t : ℤ},
      task.Safe I L P (fun t a => (f a).Safe I L P post t) t →
      (task >>= f).Safe I L P post t
  | done (.ok _), _, h => h
  | done (.error _), _, _ => trivial
  | act _ _, _, h => fun s hs => ⟨(h s hs).1, (h s hs).2.bind⟩
  | ask _ _, _, h => ⟨h.1, fun t' a ht ha => (h.2 t' a ht ha).bind⟩

theorem safe_pure {a : α} (h : post t a) :
    (pure a : Task σ Q A ε α).Safe I L P post t := h

theorem safe_ofExcept {x : Except ε α} (h : ∀ a, x = .ok a → post t a) :
    (ofExcept x : Task σ Q A ε α).Safe I L P post t := by
  cases x with
  | error e => exact trivial
  | ok a => exact h a rfl

theorem safe_inspect {f : ℤ → σ → α} (h : ∀ s, I t s → post t (f t s)) :
    (inspect f : Task σ Q A ε α).Safe I L P post t :=
  fun s hs => ⟨hs, h s hs⟩

theorem safe_modify {f : ℤ → σ → σ} {post : ℤ → Unit → Prop}
    (hI : ∀ s, I t s → I t (f t s)) (h : post t ()) :
    (modify f : Task σ Q A ε Unit).Safe I L P post t :=
  fun s hs => ⟨hI s hs, h⟩

theorem safe_request {q : Q} {post : ℤ → A → Prop} (hq : P t q)
    (h : ∀ t' a, t ≤ t' → L t' q a → post t' a) :
    (request q : Task σ Q A ε A).Safe I L P post t :=
  ⟨hq, h⟩

/-- What is left where a safe task waits is safe, and so is the state. -/
theorem Safe.settle : ∀ {task : Task σ Q A ε α} {s : σ},
    task.Safe I L P post t → I t s →
      I t (task.settle t s).1 ∧ (task.settle t s).2.Safe I L P post t
  | done _, _, h, hs => ⟨hs, h⟩
  | act _ _, s, h, hs => (h s hs).2.settle (h s hs).1
  | ask _ _, _, h, hs => ⟨hs, h⟩

end Task

/-! ## §4  Safe runs -/

namespace Pool

variable {Job σ Q A ε α : Type} {program : Job → Task σ Q A ε α} {s₀ : σ}
  {c : Pool Job σ Q A ε α}

/-- The answers that were given so far. -/
def answered (c : Pool Job σ Q A ε α) : History Q A :=
  fun t q a => ∃ i, ⟨i, q, a, t⟩ ∈ c.log

/-- What holds of a pool whose tasks are safe for the history `L`. -/
structure SafeFor (I : ℤ → σ → Prop) (L : History Q A) (P : Job → ℤ → Q → Prop)
    (post : Job → ℤ → α → Prop) (c : Pool Job σ Q A ε α) : Prop where
  shared : I c.now c.shared
  tasks : ∀ i job task, c.tasks i = some (job, task) →
    c.ranAt i ≤ c.now ∧ task.Safe I L (P job) (post job) (c.ranAt i)

section Runs

variable {I : ℤ → σ → Prop} {L : History Q A} {P : Job → ℤ → Q → Prop}
  {post : Job → ℤ → α → Prop} {i : ℕ} {job : Job} {task : Task σ Q A ε α}

theorem SafeFor.resume (h : SafeFor I L P post c)
    (htask : task.Safe I L (P job) (post job) c.now) :
    SafeFor I L P post (c.resume i job task) := by
  have hsettled := htask.settle h.shared
  refine ⟨hsettled.1, ?_⟩
  intro j job' task' hj
  by_cases hji : j = i
  · subst hji
    rw [tasks_resume_self] at hj
    cases hj
    rw [ranAt_resume_self]
    exact ⟨le_refl _, hsettled.2⟩
  · rw [tasks_resume_of_ne c hji] at hj
    rw [ranAt_resume_of_ne c hji]
    exact h.tasks j job' task' hj

theorem SafeFor.step {a : PoolAction Job A} {c' : Pool Job σ Q A ε α}
    (hlasts : ∀ t t' s, t ≤ t' → I t s → I t' s)
    (hprogram : ∀ job t, (program job).Safe I L (P job) (post job) t)
    (hstep : Pool.step program c a = some c')
    (hlog : ∀ e ∈ c'.log, L e.at_ e.request e.answer)
    (h : SafeFor I L P post c) : SafeFor I L P post c' := by
  obtain ⟨i, job, -, rfl⟩ | ⟨i, job, request, next, answer, hi, rfl⟩ |
    ⟨duration, rfl⟩ := step_cases hstep
  · exact h.resume (hprogram job c.now)
  · obtain ⟨ht, -, hnext⟩ := h.tasks i job _ hi
    have hanswer : L c.now request answer := hlog _ List.mem_cons_self
    have hpool : SafeFor I L P post
        { c with log := ⟨i, request, answer, c.now⟩ :: c.log } :=
      ⟨h.shared, h.tasks⟩
    exact hpool.resume (hnext c.now answer ht hanswer)
  · have hnow : c.now ≤ c.now + duration := by omega
    refine ⟨hlasts _ _ _ hnow h.shared, fun i job task hi => ?_⟩
    obtain ⟨ht, htask⟩ := h.tasks i job task hi
    exact ⟨ht.trans hnow, htask⟩

end Runs

theorem log_step {a : PoolAction Job A} {c' : Pool Job σ Q A ε α}
    (h : Pool.step program c a = some c') : c.log <:+ c'.log := by
  obtain ⟨i, job, -, rfl⟩ | ⟨i, job, request, next, answer, -, rfl⟩ |
    ⟨duration, rfl⟩ := step_cases h
  · exact List.suffix_refl _
  · exact List.suffix_cons _ _
  · exact List.suffix_refl _

/-- **Run rule.** Where every program is safe, for whatever history, a pool of
them is safe for its own history in every state of every run. -/
theorem safeFor_of_reachable {I : History Q A → ℤ → σ → Prop}
    {P : History Q A → Job → ℤ → Q → Prop}
    {post : History Q A → Job → ℤ → α → Prop}
    (hinit : ∀ L t, I L t s₀) (hlasts : ∀ L t t' s, t ≤ t' → I L t s → I L t' s)
    (hprogram : ∀ L job t, (program job).Safe (I L) L (P L job) (post L job) t)
    (h : (system program s₀).Reachable c) :
    SafeFor (I c.answered) c.answered (P c.answered) (post c.answered) c := by
  -- the history of the last state serves for all states before it
  have hall : ∀ L : History Q A, (∀ e ∈ c.log, L e.at_ e.request e.answer) →
      SafeFor (I L) L (P L) (post L) c := by
    refine System.ReachableUnder.invariant (I := fun c => ∀ L : History Q A,
      (∀ e ∈ c.log, L e.at_ e.request e.answer) →
        SafeFor (I L) L (P L) (post L) c) h ?_ ?_
    · rintro c ⟨hshared, htasks, -⟩ L -
      refine ⟨hshared ▸ hinit L c.now, fun i job task hi => ?_⟩
      rw [htasks i] at hi
      cases hi
    · intro c a c' ih _ hstep L hlog
      refine SafeFor.step (hlasts L) (hprogram L) hstep hlog (ih L fun e he => ?_)
      exact hlog e ((log_step hstep).subset he)
  exact hall c.answered fun e he => ⟨e.task, he⟩

/-- What a safe pool's task waits for was allowed when it asked. -/
theorem SafeFor.asking {I : ℤ → σ → Prop} {L : History Q A}
    {P : Job → ℤ → Q → Prop} {post : Job → ℤ → α → Prop} {i : ℕ} {job : Job}
    {request : Q} {next : A → Task σ Q A ε α} (h : SafeFor I L P post c)
    (hi : c.tasks i = some (job, .ask request next)) :
    c.ranAt i ≤ c.now ∧ P job (c.ranAt i) request := by
  obtain ⟨ht, hrequest, -⟩ := h.tasks i job _ hi
  exact ⟨ht, hrequest⟩

/-- What a safe pool's task has returned meets its postcondition at the time
when it returned. -/
theorem SafeFor.returned {I : ℤ → σ → Prop} {L : History Q A}
    {P : Job → ℤ → Q → Prop} {post : Job → ℤ → α → Prop} {i : ℕ} {job : Job} {a : α}
    (h : SafeFor I L P post c) (hi : c.tasks i = some (job, .done (.ok a))) :
    c.ranAt i ≤ c.now ∧ post job (c.ranAt i) a :=
  h.tasks i job _ hi

end Pool

/-! ## §5  What a task may spend -/

namespace Task

variable {σ Q A ε α β : Type} {cost : Q → ℕ} {n : ℕ}

/-- The requests of the task cost at most `n`, whatever it reads and is
answered. -/
def AtMost (cost : Q → ℕ) : ℕ → Task σ Q A ε α → Prop
  | _, done _ => True
  | n, act _ next => ∀ t s, AtMost cost n (next t s)
  | n, ask request next =>
      cost request ≤ n ∧ ∀ a, AtMost cost (n - cost request) (next a)

theorem AtMost.mono : ∀ {task : Task σ Q A ε α} {m n : ℕ}, task.AtMost cost m →
    m ≤ n → task.AtMost cost n
  | done _, _, _, _, _ => trivial
  | act _ _, _, _, h, hmn => fun t s => (h t s).mono hmn
  | ask _ _, _, _, h, hmn =>
      ⟨h.1.trans hmn, fun a => (h.2 a).mono (Nat.sub_le_sub_right hmn _)⟩

/-- **Sequence rule.** -/
theorem AtMost.bind {f : α → Task σ Q A ε β} (hf : ∀ a, (f a).AtMost cost n) :
    ∀ {task : Task σ Q A ε α} {m : ℕ}, task.AtMost cost m →
      (task >>= f).AtMost cost (m + n)
  | done (.ok a), m, _ => (hf a).mono (Nat.le_add_left n m)
  | done (.error _), _, _ => trivial
  | act _ _, _, h => fun t s => (h t s).bind hf
  | ask _ _, m, h => by
      refine ⟨h.1.trans (Nat.le_add_right m n), fun a => ?_⟩
      rw [Nat.sub_add_comm h.1]
      exact (h.2 a).bind hf

/-- A step in front that makes no request. -/
theorem AtMost.free {f : α → Task σ Q A ε β} {task : Task σ Q A ε α}
    (h : task.AtMost cost 0) (hf : ∀ a, (f a).AtMost cost n) :
    (task >>= f).AtMost cost n :=
  (h.bind hf).mono (Nat.le_of_eq (Nat.zero_add n))

/-- What follows makes no request. -/
theorem AtMost.last {f : α → Task σ Q A ε β} {task : Task σ Q A ε α}
    (h : task.AtMost cost n) (hf : ∀ a, (f a).AtMost cost 0) :
    (task >>= f).AtMost cost n :=
  h.bind hf

theorem atMost_pure (a : α) : (pure a : Task σ Q A ε α).AtMost cost n := trivial

theorem atMost_ofExcept (x : Except ε α) :
    (ofExcept x : Task σ Q A ε α).AtMost cost n := trivial

theorem atMost_inspect (f : ℤ → σ → α) :
    (inspect f : Task σ Q A ε α).AtMost cost n := fun _ _ => trivial

theorem atMost_modify (f : ℤ → σ → σ) :
    (modify f : Task σ Q A ε Unit).AtMost cost n := fun _ _ => trivial

theorem atMost_request (q : Q) :
    (request q : Task σ Q A ε A).AtMost cost (cost q) :=
  ⟨le_refl _, fun _ => trivial⟩

theorem AtMost.settle : ∀ {task : Task σ Q A ε α} {s : σ} (t : ℤ),
    task.AtMost cost n → (task.settle t s).2.AtMost cost n
  | done _, _, _, h => h
  | act _ _, _, t, h => (h t _).settle t
  | ask _ _, _, _, h => h

end Task

namespace Pool

variable {Job σ Q A ε α : Type} {program : Job → Task σ Q A ε α} {s₀ : σ}
  {c : Pool Job σ Q A ε α} {cost : Q → ℕ} {bound : Job → ℕ}

/-- What the answered requests of the task `i` cost. -/
def spent (cost : Q → ℕ) (i : ℕ) (log : List (Exchange Q A)) : ℕ :=
  ((log.filter fun e => e.task == i).map fun e => cost e.request).sum

theorem spent_cons_self (i : ℕ) (q : Q) (a : A) (t : ℤ)
    (log : List (Exchange Q A)) :
    spent cost i (⟨i, q, a, t⟩ :: log) = cost q + spent cost i log := by
  unfold spent
  rw [List.filter_cons_of_pos, List.map_cons, List.sum_cons]
  exact beq_self_eq_true i

theorem spent_cons_of_ne {i j : ℕ} (h : i ≠ j) (q : Q) (a : A) (t : ℤ)
    (log : List (Exchange Q A)) :
    spent cost j (⟨i, q, a, t⟩ :: log) = spent cost j log := by
  unfold spent
  rw [List.filter_cons_of_neg]
  rw [beq_iff_eq]
  exact h

/-- Every task keeps within its bound, with what it has spent and what it may
still spend. -/
def Bounded (cost : Q → ℕ) (bound : Job → ℕ) (c : Pool Job σ Q A ε α) : Prop :=
  (∀ i, c.tasks i = none → spent cost i c.log = 0) ∧
    ∀ i job task, c.tasks i = some (job, task) →
      ∃ left, task.AtMost cost left ∧ spent cost i c.log + left ≤ bound job

theorem Bounded.resume {i : ℕ} {job : Job} {task : Task σ Q A ε α} {left : ℕ}
    (hnone : ∀ j, j ≠ i → c.tasks j = none → spent cost j c.log = 0)
    (hsome : ∀ j, j ≠ i → ∀ job task, c.tasks j = some (job, task) →
      ∃ left, task.AtMost cost left ∧ spent cost j c.log + left ≤ bound job)
    (htask : task.AtMost cost left) (hleft : spent cost i c.log + left ≤ bound job) :
    Bounded cost bound (c.resume i job task) := by
  constructor
  · intro j hj
    by_cases hji : j = i
    · subst hji
      rw [tasks_resume_self] at hj
      cases hj
    · rw [tasks_resume_of_ne c hji] at hj
      exact hnone j hji hj
  · intro j job' task' hj
    by_cases hji : j = i
    · subst hji
      rw [tasks_resume_self] at hj
      cases hj
      exact ⟨left, htask.settle c.now, hleft⟩
    · rw [tasks_resume_of_ne c hji] at hj
      exact hsome j hji job' task' hj

theorem Bounded.step {a : PoolAction Job A} {c' : Pool Job σ Q A ε α}
    (hprogram : ∀ job, (program job).AtMost cost (bound job))
    (hstep : Pool.step program c a = some c') (h : Bounded cost bound c) :
    Bounded cost bound c' := by
  obtain ⟨i, job, hi, rfl⟩ | ⟨i, job, request, next, answer, hi, rfl⟩ |
    ⟨duration, rfl⟩ := step_cases hstep
  · refine Bounded.resume (fun j _ => h.1 j) (fun j _ => h.2 j) (hprogram job) ?_
    rw [h.1 i hi, Nat.zero_add]
  · obtain ⟨left, ⟨hcost, hnext⟩, hleft⟩ := h.2 i job _ hi
    refine Bounded.resume (fun j hji hj => ?_)
      (fun j hji job' task' hj => ?_) (hnext answer) ?_
    · dsimp only
      rw [spent_cons_of_ne (Ne.symm hji)]
      exact h.1 j hj
    · dsimp only
      rw [spent_cons_of_ne (Ne.symm hji)]
      exact h.2 j job' task' hj
    · dsimp only
      rw [spent_cons_self]
      omega
  · exact h

/-- **Spending rule.** -/
theorem bounded_of_reachable
    (hprogram : ∀ job, (program job).AtMost cost (bound job))
    (h : (system program s₀).Reachable c) : Bounded cost bound c := by
  refine System.ReachableUnder.invariant (I := Bounded cost bound) h ?_ ?_
  · rintro c ⟨-, htasks, hlog⟩
    refine ⟨fun i _ => ?_, fun i job task hi => ?_⟩
    · rw [hlog]
      rfl
    · rw [htasks i] at hi
      cases hi
  · intro c a c' hc _ hstep
    exact hc.step hprogram hstep

/-- What a task waits for fits in its bound. -/
theorem Bounded.asking {i : ℕ} {job : Job} {request : Q}
    {next : A → Task σ Q A ε α} (h : Bounded cost bound c)
    (hi : c.tasks i = some (job, .ask request next)) :
    spent cost i c.log + cost request ≤ bound job := by
  obtain ⟨left, ⟨hcost, -⟩, hleft⟩ := h.2 i job _ hi
  omega

end Pool

/-! ## §6  A task alone -/

namespace Task

variable {σ Q A ε α β : Type}

/-- A task that nothing interrupts, its requests answered by a function and
without delay. -/
def runAlone (answer : Q → A) (t : ℤ) : Task σ Q A ε α → σ → σ × Except ε α
  | done result, s => (s, result)
  | act update next, s => runAlone answer t (next t s) (update t s)
  | ask request next, s => runAlone answer t (next (answer request)) s

variable {answer : Q → A} {t : ℤ}

theorem runAlone_bind {f : α → Task σ Q A ε β} :
    ∀ (task : Task σ Q A ε α) (s : σ), (task >>= f).runAlone answer t s =
      match task.runAlone answer t s with
      | (s', .ok a) => (f a).runAlone answer t s'
      | (s', .error e) => (s', .error e)
  | done (.ok _), _ => rfl
  | done (.error _), _ => rfl
  | act update next, s => runAlone_bind (next t s) (update t s)
  | ask request next, s => runAlone_bind (next (answer request)) s

theorem runAlone_bind_ok {f : α → Task σ Q A ε β} {task : Task σ Q A ε α} {s s' : σ}
    {a : α} (h : task.runAlone answer t s = (s', .ok a)) :
    (task >>= f).runAlone answer t s = (f a).runAlone answer t s' := by
  rw [runAlone_bind, h]

theorem runAlone_ofExcept (x : Except ε α) (s : σ) :
    (ofExcept x : Task σ Q A ε α).runAlone answer t s = (s, x) := rfl

theorem runAlone_inspect (f : ℤ → σ → α) (s : σ) :
    (inspect f : Task σ Q A ε α).runAlone answer t s = (s, .ok (f t s)) := rfl

theorem runAlone_modify (f : ℤ → σ → σ) (s : σ) :
    (modify f : Task σ Q A ε Unit).runAlone answer t s = (f t s, .ok ()) := rfl

theorem runAlone_request (q : Q) (s : σ) :
    (request q : Task σ Q A ε A).runAlone answer t s = (s, .ok (answer q)) := rfl

end Task

namespace Pool

variable {Job σ Q A ε α : Type} {program : Job → Task σ Q A ε α}
  {answer : Q → A}

/-- What the pool comes to while `answer` answers the task `i`. -/
theorem leads_runAlone (i : ℕ) (job : Job) :
    ∀ (task : Task σ Q A ε α) (c : Pool Job σ Q A ε α),
      ∃ c', (c'.tasks i = some (job,
          .done (task.runAlone answer c.now c.shared).2)) ∧
        c'.shared = (task.runAlone answer c.now c.shared).1 ∧ c'.now = c.now ∧
        (∀ e ∈ c'.log, e ∈ c.log ∨ e.answer = answer e.request) ∧
        ∀ s₀, (system program s₀).Leads (fun _ _ => True) (c.resume i job task) c'
  | .done result, c => by
      refine ⟨c.resume i job (.done result), tasks_resume_self c i job _, rfl, rfl,
        fun e he => .inl he, fun s₀ => .refl _⟩
  | .act update next, c =>
      leads_runAlone i job (next c.now c.shared)
        { c with shared := update c.now c.shared }
  | .ask request next, c => by
      let waiting := c.resume i job (.ask request next)
      obtain ⟨c', htask, hshared, hnow, hlog, hrun⟩ := leads_runAlone i job
        (next (answer request))
        { waiting with log := ⟨i, request, answer request, c.now⟩ :: c.log }
      refine ⟨c', htask, hshared, hnow, fun e he => ?_, fun s₀ => ?_⟩
      · rcases hlog e he with he | he
        · rcases List.mem_cons.mp he with rfl | he
          · exact .inr rfl
          · exact .inl he
        · exact .inr he
      · have hstep : (system program s₀).step waiting (.answer i (answer request)) =
            some (resume { waiting with
              log := ⟨i, request, answer request, c.now⟩ :: c.log } i job
                (next (answer request))) := by
          simp only [system, step]
          rw [tasks_resume_self c i job]
          rfl
        exact ((System.Leads.refl waiting).tail trivial hstep).trans (hrun s₀)

/-- **A task alone is one of the runs.** -/
theorem reachable_alone {s₀ : σ} {start : Pool Job σ Q A ε α}
    (hinit : (system program s₀).init start) (i : ℕ) {job : Job} {result : Except ε α}
    (h : ((program job).runAlone answer start.now s₀).2 = result) :
    ∃ c, c.tasks i = some (job, .done result) ∧ (system program s₀).Reachable c ∧
      ∀ e ∈ c.log, e.answer = answer e.request := by
  obtain ⟨hshared, htasks, hlog₀⟩ := hinit
  obtain ⟨c, htask, -, -, hlog, hrun⟩ :=
    @leads_runAlone _ _ _ _ _ _ program answer i job (program job) start
  have hstep : (system program s₀).step start (.start i job) =
      some (start.resume i job (program job)) := by
    simp only [system, step]
    rw [htasks i]
  rw [hshared, h] at htask
  refine ⟨c, htask, ⟨start, ⟨hshared, htasks, hlog₀⟩,
    ((System.Leads.refl start).tail trivial hstep).trans (hrun _)⟩, fun e he => ?_⟩
  rcases hlog e he with he | he
  · rw [hlog₀] at he
    cases he
  · exact he

end Pool

end LeakcheckHub.Foundation
