import Mathlib.Data.List.Nodup
import Mathlib.Logic.Relation

/-!
# Precedence in a list

One element before another in a list without duplicates: a strict order, kept
by rewriting the elements and by appending. A relation contained in it has no
cycle.
-/

namespace LeakcheckHub.Foundation

variable {α β : Type} {l : List α} {a b c : α}

/-- `a` stands before `b`. -/
def Precedes (l : List α) (a b : α) : Prop := [a, b].Sublist l

namespace Precedes

theorem right_mem (h : Precedes l a b) : b ∈ l :=
  h.subset (List.mem_cons_of_mem a List.mem_cons_self)

theorem irrefl (hl : l.Nodup) : ¬ Precedes l a a :=
  List.nodup_iff_sublist.mp hl a

theorem trans (hl : l.Nodup) (hab : Precedes l a b) (hbc : Precedes l b c) :
    Precedes l a c := by
  induction l with
  | nil => cases hab
  | cons x l ih =>
      have hnodup := List.nodup_cons.mp hl
      rcases List.cons_sublist_cons'.mp hbc with hbc | ⟨rfl, -⟩
      · have hc : c ∈ l := right_mem hbc
        rcases List.cons_sublist_cons'.mp hab with hab | ⟨rfl, -⟩
        · exact (ih hnodup.2 hab hbc).cons x
        · exact (List.singleton_sublist.mpr hc).cons_cons a
      · -- `b` is the head, so nothing stands before it
        rcases List.cons_sublist_cons'.mp hab with hab | ⟨rfl, hb⟩
        · exact absurd (right_mem hab) hnodup.1
        · exact absurd (List.singleton_sublist.mp hb) hnodup.1

theorem map (f : α → β) (h : Precedes l a b) :
    Precedes (l.map f) (f a) (f b) := List.Sublist.map f h

theorem append (l' : List α) (h : Precedes l a b) :
    Precedes (l ++ l') a b :=
  List.Sublist.trans h (List.sublist_append_left l l')

/-- Everything stands before what is appended. -/
theorem append_last (h : a ∈ l) : Precedes (l ++ [b]) a b :=
  (List.singleton_sublist.mpr h).append (List.Sublist.refl [b])

theorem transGen {r : α → α → Prop} (hl : l.Nodup)
    (hr : ∀ a b, r a b → Precedes l a b) (h : Relation.TransGen r a b) :
    Precedes l a b := by
  induction h with
  | single h => exact hr _ _ h
  | tail _ h ih => exact ih.trans hl (hr _ _ h)

/-- A relation within the order of a list has no cycle. -/
theorem acyclic {r : α → α → Prop} (hl : l.Nodup)
    (hr : ∀ a b, r a b → Precedes l a b) : ¬ Relation.TransGen r a a :=
  fun h => irrefl hl (transGen hl hr h)

end Precedes

end LeakcheckHub.Foundation
