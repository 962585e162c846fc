import Mathlib.Logic.Basic

/-!
# Transition systems with partial steps

A system is a set of initial states and a step function on labelled actions;
`none` says that the action is not enabled (a lock is held, a timer has not
run out). Runs may be restricted by a *guard* on the state before a step and
its action, so that "every run whose steps all meet a condition" is a
reachability notion of its own and carries the same invariant rule.
-/

namespace LeakcheckHub.Foundation

-- The parties of an example run are numbered by `Fin 2`; its literals use the
-- zero of the core library.
instance System.neZero_two : @NeZero Nat Zero.ofOfNat0 2 := ⟨by decide⟩

structure System (State Action : Type) where
  init : State → Prop
  step : State → Action → Option State

/-- A state together with what an observer has noted of the run so far. -/
structure Recorded (State History : Type) where
  state : State
  history : History

namespace System

variable {State Action : Type} {S : System State Action}
  {G H : State → Action → Prop} {s t u : State}

/-- Executes a list of actions; `none` as soon as one is not enabled or does
not meet the guard. -/
def runUnder (S : System State Action) (G : State → Action → Prop)
    [∀ s a, Decidable (G s a)] : State → List Action → Option State
  | s, [] => some s
  | s, a :: as =>
      if G s a then (S.step s a).bind fun t => S.runUnder G t as else none

/-- Executes a list of actions without a guard. -/
def run (S : System State Action) : State → List Action → Option State :=
  S.runUnder fun _ _ => True

/-- Runs from one state to another all of whose steps meet the guard. -/
inductive Leads (S : System State Action) (G : State → Action → Prop) :
    State → State → Prop
  | refl (s : State) : Leads S G s s
  | tail {s t u : State} {a : Action} : Leads S G s t → G t a →
      S.step t a = some u → Leads S G s u

/-- The states that guarded runs reach from an initial state. -/
def ReachableUnder (S : System State Action) (G : State → Action → Prop)
    (s : State) : Prop :=
  ∃ s₀, S.init s₀ ∧ S.Leads G s₀ s

/-- The states that unrestricted runs reach. -/
def Reachable (S : System State Action) (s : State) : Prop :=
  S.ReachableUnder (fun _ _ => True) s

theorem Leads.trans (h₁ : S.Leads G s t) (h₂ : S.Leads G t u) :
    S.Leads G s u := by
  induction h₂ with
  | refl => exact h₁
  | tail _ hg hstep ih => exact ih.tail hg hstep

theorem Leads.mono (hGH : ∀ s a, G s a → H s a) (h : S.Leads G s t) :
    S.Leads H s t := by
  induction h with
  | refl => exact .refl _
  | tail _ hg hstep ih => exact ih.tail (hGH _ _ hg) hstep

/-- **Invariant rule.** What every guarded step preserves holds along the
whole guarded run. -/
theorem Leads.invariant {I : State → Prop} (h : S.Leads G s t)
    (hstep : ∀ s a t, I s → G s a → S.step s a = some t → I t) (hs : I s) :
    I t := by
  induction h with
  | refl => exact hs
  | tail _ hg hst ih => exact hstep _ _ _ ih hg hst

theorem ReachableUnder.invariant {I : State → Prop}
    (h : S.ReachableUnder G s) (hinit : ∀ s, S.init s → I s)
    (hstep : ∀ s a t, I s → G s a → S.step s a = some t → I t) : I s := by
  obtain ⟨s₀, h₀, hrun⟩ := h
  exact hrun.invariant hstep (hinit s₀ h₀)

theorem ReachableUnder.mono (hGH : ∀ s a, G s a → H s a)
    (h : S.ReachableUnder G s) : S.ReachableUnder H s := by
  obtain ⟨s₀, h₀, h₁⟩ := h
  exact ⟨s₀, h₀, h₁.mono hGH⟩

/-- The same system watched by an observer: `note` may read the state before
a step and its action, and never blocks the step. -/
def record {History : Type} (S : System State Action) (h₀ : History)
    (note : State → History → Action → History) :
    System (Recorded State History) Action where
  init := fun x => S.init x.state ∧ x.history = h₀
  step := fun x a =>
    (S.step x.state a).map fun t => ⟨t, note x.state x.history a⟩

section Record

variable {History : Type} {h₀ : History}
  {note : State → History → Action → History} {x y : Recorded State History}
  {a : Action}

theorem record_step (h : (S.record h₀ note).step x a = some y) :
    S.step x.state a = some y.state ∧
      y.history = note x.state x.history a := by
  obtain ⟨t, ht, rfl⟩ := Option.map_eq_some_iff.mp h
  exact ⟨ht, rfl⟩

/-- What is recorded is a run of the system itself. -/
theorem ReachableUnder.of_record
    {K : Recorded State History → Action → Prop}
    (h : (S.record h₀ note).ReachableUnder K x) : S.Reachable x.state := by
  refine h.invariant (I := fun x => S.Reachable x.state) ?_ ?_
  · intro x hx
    exact ⟨x.state, hx.1, .refl _⟩
  · rintro x a y ⟨s₀, h₀, hrun⟩ - hstep
    exact ⟨s₀, h₀, hrun.tail trivial (record_step hstep).1⟩

end Record

theorem leads_of_runUnder [∀ s a, Decidable (G s a)] :
    ∀ {as : List Action} {s : State},
      S.runUnder G s as = some t → S.Leads G s t
  | [], s, h => by
      rw [runUnder, Option.some.injEq] at h
      exact h ▸ .refl s
  | a :: as, s, h => by
      rw [runUnder] at h
      split at h
      · rename_i hg
        obtain ⟨m, hm, hrest⟩ := Option.bind_eq_some_iff.mp h
        exact ((Leads.refl s).tail hg hm).trans (leads_of_runUnder hrest)
      · cases h

/-- A concrete execution from an initial state witnesses reachability. -/
theorem reachable_of_runUnder [∀ s a, Decidable (G s a)] {as : List Action}
    (hinit : S.init s) (hrun : S.runUnder G s as = some t) :
    S.ReachableUnder G t :=
  ⟨s, hinit, leads_of_runUnder hrun⟩

/-- A decidable property of the outcome of a concrete execution. -/
theorem exists_of_runUnder [∀ s a, Decidable (G s a)] {as : List Action}
    {p : State → Prop} [DecidablePred p]
    (h : ((S.runUnder G s as).any fun t => decide (p t)) = true) :
    ∃ t, S.runUnder G s as = some t ∧ p t := by
  obtain ⟨t, ht, hp⟩ := (Option.any_eq_true _ _).mp h
  exact ⟨t, ht, of_decide_eq_true hp⟩

end System

end LeakcheckHub.Foundation
