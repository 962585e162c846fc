import Mathlib.Data.List.Basic
import Mathlib.Data.Int.Order.Lemmas
import Mathlib.Algebra.Order.Ring.Int
import Mathlib.Tactic.Ring
import Mathlib.Tactic.Linarith
import Mathlib.Tactic.Positivity

/-!
# Rationed events

A counter that is spent in phases: at most `k` events in a phase, and a new
phase starts at least `d` after the last one started. The event that follows
`n` others then comes no earlier than `⌊n / k⌋` phases after the start, so that
at most `k * (1 + ⌊(T - t₀) / d⌋)` events fall up to `T`.
-/

namespace LeakcheckHub.Foundation

/-- The instants of the events so far, newest first. -/
def Rationed (k : ℕ) (d t₀ : ℤ) : List ℤ → Prop
  | [] => True
  | t :: times => t₀ + (times.length / k : ℕ) * d ≤ t ∧ Rationed k d t₀ times

/-- The events so far, of which the current phase, begun at `start`, has
`used` at most. -/
structure Budget (k : ℕ) (d t₀ : ℤ) (times : List ℤ) (start : ℤ)
    (used : ℕ) : Prop where
  rationed : Rationed k d t₀ times
  closed : ∃ j : ℕ, times.length ≤ k * j + used ∧ t₀ + j * d ≤ start
  used_le : used ≤ k

variable {k used used' : ℕ} {d t₀ start t : ℤ} {times : List ℤ}

theorem Rationed.length_filter_le (hk : 0 < k) (hd : 0 < d) (T : ℤ) :
    ∀ {times : List ℤ}, Rationed k d t₀ times →
      (times.filter fun t => decide (t ≤ T)).length ≤
        k * (1 + ((T - t₀) / d).toNat)
  | [], _ => Nat.zero_le _
  | t :: times, ⟨ht, hrest⟩ => by
      by_cases hT : t ≤ T
      · -- all the events before this one started `times.length / k` phases
        have hphases : ((times.length / k : ℕ) : ℤ) ≤ (T - t₀) / d := by
          refine (Int.le_ediv_iff_mul_le hd).mpr ?_
          linarith
        have hq : times.length / k ≤ ((T - t₀) / d).toNat :=
          by omega
        calc ((t :: times).filter fun t => decide (t ≤ T)).length
            ≤ (t :: times).length := List.length_filter_le _ _
          _ = times.length + 1 := List.length_cons
          _ ≤ k * (times.length / k + 1) := Nat.lt_mul_div_succ _ hk
          _ ≤ k * (1 + ((T - t₀) / d).toNat) := by
              rw [Nat.add_comm 1]
              exact Nat.mul_le_mul_left k (Nat.succ_le_succ hq)
      · rw [List.filter_cons_of_neg (by simpa using hT)]
        exact hrest.length_filter_le hk hd T

namespace Budget

theorem init (k : ℕ) (d t₀ : ℤ) : Budget k d t₀ [] t₀ 0 where
  rationed := trivial
  closed := ⟨0, Nat.zero_le _, by simp⟩
  used_le := Nat.zero_le k

/-- A phase may be thought to have used more than it has. -/
theorem mono (h : Budget k d t₀ times start used) (hle : used ≤ used')
    (hk : used' ≤ k) : Budget k d t₀ times start used' := by
  obtain ⟨j, hlen, hstart⟩ := h.closed
  exact ⟨h.rationed, ⟨j, hlen.trans (Nat.add_le_add_left hle _), hstart⟩, hk⟩

/-- One more event in the current phase. -/
theorem spend (h : Budget k d t₀ times start used) (hd : 0 ≤ d)
    (hused : used < k) (ht : start ≤ t) :
    Budget k d t₀ (t :: times) start (used + 1) := by
  obtain ⟨j, hlen, hstart⟩ := h.closed
  refine ⟨⟨?_, h.rationed⟩, ⟨j, ?_, hstart⟩, hused⟩
  · -- the phase is the `j`-th at most, and there is room in it
    have hdiv : times.length / k ≤ j := by
      refine Nat.lt_succ_iff.mp ((Nat.div_lt_iff_lt_mul (by omega)).mpr ?_)
      rw [Nat.succ_mul, Nat.mul_comm j k]
      omega
    have hmul : ((times.length / k : ℕ) : ℤ) * d ≤ j * d :=
      mul_le_mul_of_nonneg_right (by exact_mod_cast hdiv) hd
    linarith
  · rw [List.length_cons]
    omega

/-- A new phase. -/
theorem renew (h : Budget k d t₀ times start used) (ht : start + d ≤ t) :
    Budget k d t₀ times t 0 := by
  obtain ⟨j, hlen, hstart⟩ := h.closed
  refine ⟨h.rationed, ⟨j + 1, ?_, ?_⟩, Nat.zero_le k⟩
  · have hused := h.used_le
    rw [Nat.mul_succ]
    omega
  · push_cast
    linarith

theorem length_filter_le (h : Budget k d t₀ times start used) (hk : 0 < k)
    (hd : 0 < d) (T : ℤ) :
    (times.filter fun t => decide (t ≤ T)).length ≤
      k * (1 + ((T - t₀) / d).toNat) :=
  h.rationed.length_filter_le hk hd T

end Budget

end LeakcheckHub.Foundation
