import Mathlib.Algebra.Order.Ring.Nat
import Mathlib.Data.Nat.Log
import Mathlib.Tactic.Ring

/-!
# Quotients in double precision

`int(n / d)` of two integers, as `/` rounds to the nearest number of 53
significant bits and a tie to the even one. The rounding may cross the next
integer: how close a quotient must be to it depends on its size alone.
-/

namespace LeakcheckHub.Foundation

/-- `n / d` to the nearest integer, a tie to the even one. -/
def divNearest (n d : ℕ) : ℕ :=
  if 2 * (n % d) < d then n / d
  else if d < 2 * (n % d) then n / d + 1
  else n / d + n / d % 2

/-- The binary places of the double nearest to `n / d`, for quotients below
`2 ^ 53`. -/
def doublePlaces (n d : ℕ) : ℕ :=
  if n < d then 53 + Nat.log2 ((d - 1) / n) else 52 - Nat.log2 (n / d)

/-- `int(n / d)` of quotients below `2 ^ 53`. -/
def truncQuotient (n d : ℕ) : ℕ :=
  divNearest (n * 2 ^ doublePlaces n d) d / 2 ^ doublePlaces n d

variable {n d k : ℕ}

theorem le_divNearest (n d : ℕ) : n / d ≤ divNearest n d := by
  unfold divNearest
  split
  · exact le_refl _
  · split
    · exact Nat.le_succ _
    · exact Nat.le_add_right _ _

/-- It is at most half a unit too large. -/
theorem mul_divNearest_le (n d : ℕ) : 2 * (d * divNearest n d) ≤ 2 * n + d := by
  have hdiv := Nat.div_add_mod n d
  unfold divNearest
  split
  · omega
  · rename_i hlow
    split
    · rw [Nat.mul_add, Nat.mul_one]
      omega
    · rename_i hhigh
      have hodd : n / d % 2 < 2 := Nat.mod_lt _ (by decide)
      have hpart : d * (n / d % 2) ≤ d := by
        calc d * (n / d % 2) ≤ d * 1 :=
              Nat.mul_le_mul_left d (Nat.le_of_lt_succ hodd)
          _ = d := Nat.mul_one d
      rw [Nat.mul_add]
      omega

theorem doublePlaces_ge (hd : 0 < d) (h : n / d < 2 ^ k) (hk : k ≤ 53) :
    53 - k ≤ doublePlaces n d := by
  unfold doublePlaces
  split
  · omega
  · rename_i hle
    have hne : n / d ≠ 0 := fun hzero =>
      hle ((Nat.div_eq_zero_iff_lt hd).mp hzero)
    have hlog := (Nat.log2_lt hne).mpr h
    omega

theorem le_truncQuotient (hd : 0 < d) : n / d ≤ truncQuotient n d := by
  unfold truncQuotient
  generalize doublePlaces n d = p
  rw [Nat.le_div_iff_mul_le (Nat.two_pow_pos p)]
  have hfloor : n / d * 2 ^ p ≤ n * 2 ^ p / d := by
    rw [Nat.le_div_iff_mul_le hd]
    calc n / d * 2 ^ p * d = n / d * d * 2 ^ p := Nat.mul_right_comm _ _ _
      _ ≤ n * 2 ^ p := Nat.mul_le_mul_right _ (Nat.div_mul_le_self n d)
  exact hfloor.trans (le_divNearest _ _)

/-- Where half a unit does not reach `m`. -/
theorem truncQuotient_lt {m : ℕ} (hle : n ≤ d * m)
    (h : d < 2 ^ (doublePlaces n d + 1) * (d * m - n)) :
    truncQuotient n d < m := by
  unfold truncQuotient
  generalize doublePlaces n d = p at h ⊢
  rw [Nat.div_lt_iff_lt_mul (Nat.two_pow_pos p)]
  have hnearest := mul_divNearest_le (n * 2 ^ p) d
  obtain ⟨gap, hgap⟩ := Nat.exists_eq_add_of_le hle
  have hroom : d * (m * 2 ^ p) = n * 2 ^ p + gap * 2 ^ p := by
    rw [← Nat.mul_assoc, hgap, Nat.add_mul]
  have hunit : d < 2 * (gap * 2 ^ p) := by
    rw [hgap, Nat.add_sub_cancel_left, Nat.pow_succ] at h
    calc d < 2 ^ p * 2 * gap := h
      _ = 2 * (gap * 2 ^ p) := by ring
  have hlt : d * divNearest (n * 2 ^ p) d < d * (m * 2 ^ p) := by
    rw [hroom]
    omega
  exact Nat.lt_of_mul_lt_mul_left hlt

theorem truncQuotient_le (hd : 0 < d) : truncQuotient n d ≤ n / d + 1 := by
  have hlt : n < d * (n / d + 1) := Nat.lt_mul_div_succ n hd
  apply Nat.lt_succ_iff.mp
  apply truncQuotient_lt
  · rw [Nat.mul_succ]
    omega
  · have hgap : d < d * (n / d + 1 + 1) - n := by
      rw [Nat.mul_succ]
      omega
    calc d < d * (n / d + 1 + 1) - n := hgap
      _ ≤ 2 ^ (doublePlaces n d + 1) * (d * (n / d + 1 + 1) - n) :=
        Nat.le_mul_of_pos_left _ (Nat.two_pow_pos _)

/-- A quotient below `2 ^ k` that is far enough from the next integer. -/
theorem truncQuotient_eq (hd : 0 < d) (h : n / d < 2 ^ k) (hk : k ≤ 53)
    (hgap : d < 2 ^ (54 - k) * (d * (n / d + 1) - n)) :
    truncQuotient n d = n / d := by
  have hlt : n < d * (n / d + 1) := Nat.lt_mul_div_succ n hd
  have hplaces := doublePlaces_ge hd h hk
  have hpow : 2 ^ (54 - k) ≤ 2 ^ (doublePlaces n d + 1) :=
    Nat.pow_le_pow_right (by decide) (by omega)
  apply Nat.le_antisymm
  · apply Nat.lt_succ_iff.mp
    apply truncQuotient_lt hlt.le
    exact hgap.trans_le (Nat.mul_le_mul_right _ hpow)
  · exact le_truncQuotient hd

end LeakcheckHub.Foundation
