import LeakcheckHub.Foundation.PyText
import Mathlib.Algebra.Order.Ring.Nat
import Mathlib.Data.Nat.ModEq

/-!
# Messages under a digest

No digest tells all messages apart; it tells apart two that do not collide.
What is left to show of a key is that its message can be read back: numbers
from their digits, chunks of one length from their concatenation, and parts of
any length from the concatenation of their frames.
-/

namespace LeakcheckHub.Foundation

/-- The digests of these two messages tell them apart. -/
def NoCollision {α β : Type} (f : α → β) (x y : α) : Prop :=
  f x = f y → x = y

theorem NoCollision.eq_iff {α β : Type} {f : α → β} {x y : α}
    (h : NoCollision f x y) : f x = f y ↔ x = y :=
  ⟨h, fun hxy => hxy ▸ rfl⟩

/-! ## Digits -/

theorem mod_pow_eq_of_digits {b x y : ℕ} : ∀ {n : ℕ},
    (∀ i, i < n → x / b ^ i % b = y / b ^ i % b) → x % b ^ n = y % b ^ n
  | 0, _ => by rw [pow_zero, Nat.mod_one, Nat.mod_one]
  | n + 1, h => by
      have hlow : x % b ^ n = y % b ^ n :=
        mod_pow_eq_of_digits fun i hi => h i (Nat.lt_succ_of_lt hi)
      rw [Nat.mod_pow_succ, Nat.mod_pow_succ, hlow, h n (Nat.lt_succ_self n)]

/-- A number below `b ^ n` is known by its `n` digits. -/
theorem eq_of_digits {b n x y : ℕ} (hx : x < b ^ n) (hy : y < b ^ n)
    (h : ∀ i, i < n → x / b ^ i % b = y / b ^ i % b) : x = y := by
  rw [← Nat.mod_eq_of_lt hx, ← Nat.mod_eq_of_lt hy]
  exact mod_pow_eq_of_digits h

/-! ## Lists -/

theorem map_inj_on {α β : Type} {f : α → β} {P : α → Prop}
    (hf : ∀ x y, P x → P y → f x = f y → x = y) : ∀ {xs ys : List α},
    (∀ x ∈ xs, P x) → (∀ y ∈ ys, P y) → xs.map f = ys.map f → xs = ys
  | [], [], _, _, _ => rfl
  | [], _ :: _, _, _, h => nomatch h
  | _ :: _, [], _, _, h => nomatch h
  | x :: xs, y :: ys, hx, hy, h => by
      obtain ⟨hhead, htail⟩ := List.cons.inj h
      rw [hf x y (hx x List.mem_cons_self) (hy y List.mem_cons_self) hhead,
        map_inj_on hf (fun z hz => hx z (List.mem_cons_of_mem _ hz))
          (fun z hz => hy z (List.mem_cons_of_mem _ hz)) htail]

/-! ## Chunks -/

section Chunks

variable {α : Type} {k : ℕ}

theorem flatten_inj_of_length (hk : 0 < k) : ∀ {xs ys : List (List α)},
    (∀ x ∈ xs, x.length = k) → (∀ y ∈ ys, y.length = k) →
      xs.flatten = ys.flatten → xs = ys
  | [], [], _, _, _ => rfl
  | [], y :: ys, _, hy, h => by
      have hlen := hy y List.mem_cons_self
      rw [List.flatten_nil, List.flatten_cons, eq_comm,
        List.append_eq_nil_iff] at h
      rw [h.1, List.length_nil] at hlen
      omega
  | x :: xs, [], hx, _, h => by
      have hlen := hx x List.mem_cons_self
      rw [List.flatten_nil, List.flatten_cons, List.append_eq_nil_iff] at h
      rw [h.1, List.length_nil] at hlen
      omega
  | x :: xs, y :: ys, hx, hy, h => by
      rw [List.flatten_cons, List.flatten_cons] at h
      have hlen : x.length = y.length :=
        (hx x List.mem_cons_self).trans (hy y List.mem_cons_self).symm
      obtain ⟨hhead, htail⟩ := List.append_inj h hlen
      rw [hhead, flatten_inj_of_length hk
        (fun z hz => hx z (List.mem_cons_of_mem _ hz))
        (fun z hz => hy z (List.mem_cons_of_mem _ hz)) htail]

end Chunks

/-! ## Frames -/

/-- `len(part).to_bytes(4, "big") + part`, for a part that is short enough. -/
def frame (part : Bytes) : Bytes :=
  [UInt8.ofNat (part.length / 2 ^ 24), UInt8.ofNat (part.length / 2 ^ 16),
    UInt8.ofNat (part.length / 2 ^ 8), UInt8.ofNat part.length] ++ part

theorem frame_append_inj {x y u v : Bytes} (hx : x.length < 2 ^ 32)
    (hy : y.length < 2 ^ 32) (h : frame x ++ u = frame y ++ v) :
    x = y ∧ u = v := by
  simp only [frame, List.cons_append, List.nil_append, List.cons.injEq,
    ← UInt8.toNat_inj, UInt8.toNat_ofNat'] at h
  obtain ⟨h₃, h₂, h₁, h₀, hrest⟩ := h
  have hlen : x.length = y.length := by omega
  exact List.append_inj hrest hlen

theorem flatten_frame_inj : ∀ {xs ys : List Bytes},
    (∀ x ∈ xs, x.length < 2 ^ 32) → (∀ y ∈ ys, y.length < 2 ^ 32) →
      (xs.map frame).flatten = (ys.map frame).flatten → xs = ys
  | [], [], _, _, _ => rfl
  | [], _ :: _, _, _, h => by simp [frame] at h
  | _ :: _, [], _, _, h => by simp [frame] at h
  | x :: xs, y :: ys, hx, hy, h => by
      rw [List.map_cons, List.map_cons, List.flatten_cons,
        List.flatten_cons] at h
      obtain ⟨hhead, htail⟩ := frame_append_inj (hx x List.mem_cons_self)
        (hy y List.mem_cons_self) h
      rw [hhead, flatten_frame_inj (fun z hz => hx z (List.mem_cons_of_mem _ hz))
        (fun z hz => hy z (List.mem_cons_of_mem _ hz)) htail]

end LeakcheckHub.Foundation
