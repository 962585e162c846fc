import LeakcheckHub.Foundation.RowVersions
import Mathlib.Logic.Function.Basic

/-!
# One locked row a transaction

Transactions each of which holds the lock of at most one row of a table:
`held w` is the row of `w` with the version that `w` has of it.
-/

set_option linter.unusedSectionVars false

namespace LeakcheckHub.Foundation

/-- The locks of the table are those of `held`, and no others. -/
structure OneRow {Id Tx Row : Type} (tb : Table Id Tx Row)
    (held : Tx → Option (Id × Row)) : Prop where
  locked : ∀ w i r, held w = some (i, r) →
    (tb.cell i).pending = some (w, some r)
  only : ∀ w i r, (tb.cell i).pending = some (w, r) → ∃ r', held w = some (i, r')

namespace OneRow

variable {Id Tx Row : Type} [DecidableEq Id] [DecidableEq Tx]
  {tb : Table Id Tx Row} {held held' : Tx → Option (Id × Row)} {v w : Tx}
  {i j : Id} {r r' : Row}

theorem of_unlocked (h : tb.Unlocked) (hnone : ∀ w, held w = none) :
    OneRow tb held := by
  refine ⟨?_, ?_⟩
  · intro w i r hw
    rw [hnone w] at hw
    cases hw
  · intro w i r hw
    exact absurd hw (h i (w, r))

/-- A row has one holder. -/
theorem inj (h : OneRow tb held) (hv : held v = some (i, r))
    (hw : held w = some (i, r')) : v = w := by
  have hcell := h.locked v i r hv
  rw [h.locked w i r' hw, Option.some.injEq, Prod.mk.injEq] at hcell
  exact hcell.1.symm

theorem free (h : OneRow tb held) (hw : held w = some (i, r)) :
    (tb.cell i).heldByOther w = false :=
  Cell.heldByOther_of_pending (h.locked w i r hw)

/-- What a transaction sees of a row that it does not hold is committed. -/
theorem read_eq (h : OneRow tb held) (hnone : ∀ r, held w ≠ some (i, r)) :
    tb.read w i = tb.committedRow i := by
  apply Cell.read_of_unowned
  intro r hr
  obtain ⟨r', hw⟩ := h.only w i r hr
  exact hnone r' hw

theorem insertCommitted (h : OneRow tb held) (hi : i ∉ tb.ids) {x : Row} :
    OneRow (tb.insertCommitted i x) held := by
  have hempty : tb.cell i = Cell.empty := tb.absent i hi
  refine ⟨?_, ?_⟩
  · intro w j r hw
    have hne : j ≠ i := by
      rintro rfl
      have hcell := h.locked w j r hw
      rw [hempty] at hcell
      cases hcell
    rw [Table.insertCommitted_cell_ne hne]
    exact h.locked w j r hw
  · intro w j r hr
    by_cases hj : j = i
    · rw [hj, Table.insertCommitted, Table.setCell_cell_self] at hr
      cases hr
    · rw [Table.insertCommitted_cell_ne hj] at hr
      exact h.only w j r hr

/-- A transaction locks a free row, or writes over the one that it holds. -/
theorem put (h : OneRow tb held) (hfree : (tb.cell i).heldByOther w = false)
    (hown : ∀ j r, held w = some (j, r) → j = i)
    (hself : held' w = some (i, r))
    (hothers : ∀ v, v ≠ w → held' v = held v) :
    OneRow (tb.put w i (some r)) held' := by
  refine ⟨?_, ?_⟩
  · intro v j r' hv
    by_cases hvw : v = w
    · subst hvw
      rw [hself, Option.some.injEq, Prod.mk.injEq] at hv
      rw [← hv.1, ← hv.2, Table.put_cell_self]
      rfl
    · rw [hothers v hvw] at hv
      exact (Table.put_pending_other hvw hfree).mpr (h.locked v j r' hv)
  · intro v j r' hr
    by_cases hvw : v = w
    · subst hvw
      by_cases hj : j = i
      · exact ⟨r, hj ▸ hself⟩
      · rw [Table.put_cell_ne hj] at hr
        obtain ⟨r'', hv⟩ := h.only v j r' hr
        exact absurd (hown j r'' hv) hj
    · obtain ⟨r'', hv⟩ :=
        h.only v j r' ((Table.put_pending_other hvw hfree).mp hr)
      exact ⟨r'', (hothers v hvw).trans hv⟩

/-- The end of a transaction frees its row. -/
theorem rollback (h : OneRow tb held) (hself : held' w = none)
    (hothers : ∀ v, v ≠ w → held' v = held v) :
    OneRow (tb.rollback w) held' := by
  refine ⟨?_, ?_⟩
  · intro v j r hv
    by_cases hvw : v = w
    · rw [hvw, hself] at hv
      cases hv
    · rw [hothers v hvw] at hv
      exact (Cell.rollback_pending_other hvw).mpr (h.locked v j r hv)
  · intro v j r hr
    by_cases hvw : v = w
    · subst hvw
      exact absurd hr Cell.rollback_pending_ne
    · obtain ⟨r', hv⟩ := h.only v j r ((Cell.rollback_pending_other hvw).mp hr)
      exact ⟨r', (hothers v hvw).trans hv⟩

theorem commit (h : OneRow tb held) (hself : held' w = none)
    (hothers : ∀ v, v ≠ w → held' v = held v) : OneRow (tb.commit w) held' := by
  have hrollback := h.rollback hself hothers
  have hpending : ∀ j, ((tb.commit w).cell j).pending =
      ((tb.rollback w).cell j).pending := fun _ => Cell.commit_pending
  refine ⟨?_, ?_⟩
  · intro v j r hv
    rw [hpending]
    exact hrollback.locked v j r hv
  · intro v j r hr
    rw [hpending] at hr
    exact hrollback.only v j r hr

/-- A commit installs the row that the transaction holds. -/
theorem commit_committedRow (h : OneRow tb held) (hw : held w = some (i, r)) :
    (tb.commit w).committedRow j =
      if j = i then some r else tb.committedRow j := by
  rw [Table.commit_committedRow]
  by_cases hj : j = i
  · rw [if_pos hj, hj]
    exact Cell.read_of_pending (h.locked w i r hw)
  · rw [if_neg hj]
    apply h.read_eq
    intro r' hr'
    rw [hw, Option.some.injEq, Prod.mk.injEq] at hr'
    exact hj hr'.1.symm

end OneRow

end LeakcheckHub.Foundation
