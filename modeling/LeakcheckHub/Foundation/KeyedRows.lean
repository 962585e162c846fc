import Mathlib.Data.List.Nodup

/-!
# Tables by primary key

The rows of a table with a primary key, as `SELECT … WHERE key = k`, `INSERT`
and `UPDATE … WHERE p` see them. The uniqueness of the key is part of the
type; an insert that would break it is an error.
-/

namespace LeakcheckHub.Foundation

structure KeyedRows {K Row : Type} (key : Row → K) where
  rows : List Row
  nodup : (rows.map key).Nodup

namespace KeyedRows

variable {K Row : Type} [DecidableEq K] {key : Row → K}

def empty : KeyedRows key := ⟨[], List.nodup_nil⟩

/-- The row of a key. -/
def find (t : KeyedRows key) (k : K) : Option Row :=
  t.rows.find? fun r => decide (key r = k)

/-- `INSERT`; `none` is a violation of the key. -/
def insert (t : KeyedRows key) (r : Row) : Option (KeyedRows key) :=
  if h : ((t.rows ++ [r]).map key).Nodup then some ⟨t.rows ++ [r], h⟩ else none

/-- `UPDATE … WHERE p` of columns outside the key. -/
def updateWhere (t : KeyedRows key) (p : Row → Bool) (f : Row → Row)
    (hf : ∀ r, key (f r) = key r) : KeyedRows key where
  rows := t.rows.map fun r => if p r then f r else r
  nodup := by
    have hkeys : (t.rows.map fun r => if p r then f r else r).map key =
        t.rows.map key := by
      rw [List.map_map]
      refine List.map_congr_left fun r _ => ?_
      change key (if p r then f r else r) = key r
      split
      · exact hf r
      · rfl
    rw [hkeys]
    exact t.nodup

variable {t t' : KeyedRows key} {k : K} {r r' : Row}

theorem key_of_find (h : t.find k = some r) : key r = k := by
  simpa [find] using List.find?_some h

theorem find_eq_some : t.find k = some r ↔ r ∈ t.rows ∧ key r = k := by
  refine ⟨fun h => ⟨List.mem_of_find?_eq_some h, key_of_find h⟩, ?_⟩
  rintro ⟨hr, rfl⟩
  cases hf : t.find (key r) with
  | none =>
      have := List.find?_eq_none.mp hf r hr
      exact absurd (decide_eq_true rfl) this
  | some r' =>
      have hr' := List.mem_of_find?_eq_some hf
      rw [List.inj_on_of_nodup_map t.nodup hr' hr (key_of_find hf)]

theorem find_eq_none : t.find k = none ↔ ∀ r ∈ t.rows, key r ≠ k := by
  simp [find]

/-- An update acts on each row by itself. -/
theorem find_updateWhere {p : Row → Bool} {f : Row → Row}
    {hf : ∀ r, key (f r) = key r} :
    (t.updateWhere p f hf).find k =
      (t.find k).map fun r => if p r then f r else r := by
  have hkey : ∀ r, key (if p r then f r else r) = key r := by
    intro r
    split
    · exact hf r
    · rfl
  unfold find updateWhere
  rw [List.find?_map]
  congr 2
  funext r
  simp only [Function.comp_apply, hkey]

theorem insert_rows (h : t.insert r = some t') :
    t'.rows = t.rows ++ [r] := by
  unfold insert at h
  split at h
  · cases h
    rfl
  · cases h

/-- An inserted key was free. -/
theorem find_of_insert (h : t.insert r = some t') (hk : key r = k) :
    t.find k = none := by
  unfold insert at h
  split at h
  · rename_i hnodup
    rw [List.map_append, List.map_singleton] at hnodup
    have hfresh : key r ∉ t.rows.map key := fun hmem =>
      (List.nodup_append.mp hnodup).2.2 _ hmem _ (List.mem_singleton_self _) rfl
    refine find_eq_none.mpr fun r' hr' hk' => hfresh ?_
    rw [hk, ← hk']
    exact List.mem_map_of_mem hr'
  · cases h

theorem find_insert (h : t.insert r = some t') :
    t'.find k = if key r = k then some r else t.find k := by
  have hfree := find_of_insert h rfl
  unfold insert at h
  split at h
  · cases h
    unfold find at hfree ⊢
    rw [List.find?_append]
    by_cases hk : key r = k
    · subst hk
      simp [hfree]
    · simp [hk]
  · cases h

end KeyedRows

end LeakcheckHub.Foundation
