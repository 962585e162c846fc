import Mathlib.Algebra.Order.Field.Basic
import Mathlib.Data.List.Pairwise
import Mathlib.Tactic.Ring
import Mathlib.Tactic.Linarith

/-!
# Spaced instants and windows

A history of instants, newest first, is `δ`-spaced when consecutive ones (and
so any two) are at least `δ` apart. A half-open window of width at most
`k * δ` then contains at most `k` of them.
-/

set_option linter.unusedSectionVars false

namespace LeakcheckHub.Foundation

variable {K : Type} [Field K] [LinearOrder K] [IsStrictOrderedRing K]

def Spaced (δ : K) (times : List K) : Prop :=
  times.Pairwise fun later earlier => δ ≤ later - earlier

/-- The instants in `[a, a + w)`. -/
def inWindow (a w : K) (times : List K) : List K :=
  times.filter fun t => decide (a ≤ t ∧ t < a + w)

namespace Spaced

variable {δ a w : K} {times : List K} {t : K} {k : ℕ}

theorem nil : Spaced δ [] := List.Pairwise.nil

theorem sublist {times' : List K} (h : Spaced δ times)
    (hsub : times'.Sublist times) : Spaced δ times' :=
  List.Pairwise.sublist hsub h

/-- A new instant keeps the spacing when it is far enough from the newest
one. -/
theorem cons (hδ : 0 ≤ δ) (h : Spaced δ times)
    (ht : ∀ last ∈ times.head?, δ ≤ t - last) : Spaced δ (t :: times) := by
  cases times with
  | nil => exact List.pairwise_singleton _ _
  | cons last rest =>
      have hlast : δ ≤ t - last := ht last rfl
      refine List.pairwise_cons.mpr ⟨?_, h⟩
      intro u hu
      rcases List.mem_cons.mp hu with rfl | hu
      · exact hlast
      · have hstep : δ ≤ last - u := (List.pairwise_cons.mp h).1 u hu
        linarith

/-- `n + 1` spaced instants span at least `n` gaps. -/
theorem span : ∀ {times : List K} {t : K}, Spaced δ (t :: times) →
    ∃ u ∈ t :: times, times.length * δ ≤ t - u
  | [], t, _ => ⟨t, List.mem_cons_self, by simp⟩
  | s :: times, t, h => by
      obtain ⟨hhead, htail⟩ := List.pairwise_cons.mp h
      obtain ⟨u, hu, hspan⟩ := span htail
      refine ⟨u, List.mem_cons_of_mem _ hu, ?_⟩
      have hgap : δ ≤ t - s := hhead s List.mem_cons_self
      rw [List.length_cons, Nat.cast_succ]
      linarith

theorem length_inWindow_le (hδ : 0 < δ) (h : Spaced δ times)
    (hw : w ≤ k * δ) : (inWindow a w times).length ≤ k := by
  have hwin : Spaced δ (inWindow a w times) := h.sublist List.filter_sublist
  cases hl : inWindow a w times with
  | nil => exact Nat.zero_le k
  | cons t rest =>
      rw [hl] at hwin
      obtain ⟨u, hu, hspan⟩ := span hwin
      have hmem : ∀ x ∈ t :: rest, a ≤ x ∧ x < a + w := by
        intro x hx
        rw [← hl] at hx
        exact of_decide_eq_true (List.mem_filter.mp hx).2
      have hlt : (rest.length : K) * δ < k * δ := by
        have ht := (hmem t List.mem_cons_self).2
        have ha := (hmem u hu).1
        linarith
      have hcast : (rest.length : K) < k := lt_of_mul_lt_mul_right hlt hδ.le
      exact Nat.succ_le_of_lt (Nat.cast_lt.mp hcast)

end Spaced

end LeakcheckHub.Foundation
