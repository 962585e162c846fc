import LeakcheckHub.Foundation.Outcome
import LeakcheckHub.Foundation.PyText

/-!
# Calls that may raise

A program that talks to a database in calls, any of which may raise for a
reason of its own: the connection, the driver, the server. Calls are numbered,
and a fault says which of them raises what. A program that gets through has
met no fault.
-/

namespace LeakcheckHub.Foundation

/-- `type(exc).__name__` and `str(exc)`. -/
structure PyException where
  typeName : PyStr
  message : PyStr
deriving DecidableEq, Repr

/-- A state with the number of calls made on it. -/
structure Counted (σ : Type) where
  calls : ℕ
  state : σ

variable {σ ε α : Type} {faults : ℕ → Option ε}

/-- One call. -/
def call (faults : ℕ → Option ε) (f : σ → Except ε (σ × α))
    (c : Counted σ) : Except ε (Counted σ × α) :=
  match faults c.calls with
  | some e => .error e
  | none => do
      let (s, a) ← f c.state
      .ok (⟨c.calls + 1, s⟩, a)

theorem call_eq_ok {f : σ → Except ε (σ × α)} {c c' : Counted σ} {a : α} :
    call faults f c = .ok (c', a) ↔
      faults c.calls = none ∧ c'.calls = c.calls + 1 ∧
        f c.state = .ok (c'.state, a) := by
  unfold call
  cases hf : faults c.calls with
  | some e =>
      constructor
      · intro h
        cases h
      · rintro ⟨h, -⟩
        cases h
  | none =>
      rw [bind_eq_ok]
      constructor
      · rintro ⟨⟨s, b⟩, hs, h⟩
        cases h
        exact ⟨rfl, rfl, hs⟩
      · rintro ⟨-, hcalls, hs⟩
        refine ⟨(c'.state, a), hs, ?_⟩
        rw [← hcalls]

end LeakcheckHub.Foundation
