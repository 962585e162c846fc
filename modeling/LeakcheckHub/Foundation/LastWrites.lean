import Mathlib.Data.List.Basic

/-!
# The last write of each key

A log of writes read as a map: a key has the value of its last write, if there
is one. What a later part of the log adds, and what it leaves alone.
-/

namespace LeakcheckHub.Foundation

variable {K V : Type} [DecidableEq K] {log later : List (K × V)} {k k' : K}
  {v : V}

def lastWrite (log : List (K × V)) (k : K) : Option V :=
  (log.reverse.find? fun x => decide (x.1 = k)).map Prod.snd

theorem lastWrite_append : lastWrite (log ++ later) k =
    (lastWrite later k).or (lastWrite log k) := by
  unfold lastWrite
  rw [List.reverse_append, List.find?_append]
  cases later.reverse.find? fun x => decide (x.1 = k) with
  | none => rfl
  | some x => rfl

theorem lastWrite_concat : lastWrite (log ++ [(k', v)]) k =
    if k' = k then some v else lastWrite log k := by
  rw [lastWrite_append]
  by_cases h : k' = k
  · simp [lastWrite, h]
  · simp [lastWrite, h]

theorem lastWrite_eq_none : lastWrite log k = none ↔ ∀ x ∈ log, x.1 ≠ k := by
  simp [lastWrite]

theorem lastWrite_append_of_absent (h : ∀ x ∈ later, x.1 ≠ k) :
    lastWrite (log ++ later) k = lastWrite log k := by
  rw [lastWrite_append, lastWrite_eq_none.mpr h, Option.none_or]

end LeakcheckHub.Foundation
