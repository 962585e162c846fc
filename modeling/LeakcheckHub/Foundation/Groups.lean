import Mathlib.Data.List.Induction
import Mathlib.Data.List.Nodup

/-!
# Grouping by key

A dictionary of lists built with `setdefault(key, []).append(value)`: keys in
the order of their first value, values in the order of the rows.
-/

namespace LeakcheckHub.Foundation

variable {κ α : Type} [DecidableEq κ]

/-- `groups.setdefault(key, []).append(value)`. -/
def appendTo (key : κ) (value : α) : List (κ × List α) → List (κ × List α)
  | [] => [(key, [value])]
  | (k, values) :: rest =>
      if k = key then (k, values ++ [value]) :: rest
      else (k, values) :: appendTo key value rest

def groupByKey (rows : List (κ × α)) : List (κ × List α) :=
  rows.foldl (fun groups row => appendTo row.1 row.2 groups) []

/-- The values of one key. -/
def valuesOf (rows : List (κ × α)) (key : κ) : List α :=
  (rows.filter fun row => decide (row.1 = key)).map Prod.snd

/-- `groups` has every key of `rows` once, with its values. -/
structure Groups (rows : List (κ × α)) (groups : List (κ × List α)) : Prop where
  keys : (groups.map Prod.fst).Nodup
  values : ∀ key values, (key, values) ∈ groups →
    values = valuesOf rows key ∧ values ≠ []
  covers : ∀ row ∈ rows, row.1 ∈ groups.map Prod.fst

variable {rows : List (κ × α)} {groups : List (κ × List α)} {key k : κ}
  {value : α} {values : List α}

theorem valuesOf_snoc :
    valuesOf (rows ++ [(key, value)]) k =
      if key = k then valuesOf rows k ++ [value] else valuesOf rows k := by
  unfold valuesOf
  rw [List.filter_append, List.map_append]
  by_cases h : key = k
  · simp [h]
  · simp [h]

theorem valuesOf_eq_nil (h : ∀ row ∈ rows, row.1 ≠ k) : valuesOf rows k = [] := by
  unfold valuesOf
  rw [List.filter_eq_nil_iff.mpr]
  · rfl
  · intro row hrow
    rw [decide_eq_true_iff]
    exact h row hrow

theorem mem_keys_appendTo :
    k ∈ (appendTo key value groups).map Prod.fst ↔
      k ∈ groups.map Prod.fst ∨ k = key := by
  induction groups with
  | nil => simp [appendTo]
  | cons g rest ih =>
      by_cases h : g.1 = key
      · simp only [appendTo, if_pos h, List.map_cons, List.mem_cons]
        constructor
        · rintro (hk | hk)
          · exact .inl (.inl hk)
          · exact .inl (.inr hk)
        · rintro ((hk | hk) | hk)
          · exact .inl hk
          · exact .inr hk
          · exact .inl (hk.trans h.symm)
      · simp only [appendTo, if_neg h, List.map_cons, List.mem_cons, ih, or_assoc]

theorem nodup_keys_appendTo (h : (groups.map Prod.fst).Nodup) :
    ((appendTo key value groups).map Prod.fst).Nodup := by
  induction groups with
  | nil => simp [appendTo]
  | cons g rest ih =>
      rw [List.map_cons, List.nodup_cons] at h
      by_cases hg : g.1 = key
      · simp only [appendTo, if_pos hg, List.map_cons, List.nodup_cons]
        exact h
      · simp only [appendTo, if_neg hg, List.map_cons, List.nodup_cons]
        refine ⟨?_, ih h.2⟩
        rw [mem_keys_appendTo, not_or]
        exact ⟨h.1, hg⟩

/-- The group of the key gets the value, and the others stay. -/
theorem mem_appendTo (h : (groups.map Prod.fst).Nodup)
    (hmem : (k, values) ∈ appendTo key value groups) :
    (k ≠ key ∧ (k, values) ∈ groups) ∨
    (k = key ∧ ∃ old, values = old ++ [value] ∧ (key, old) ∈ groups) ∨
    (k = key ∧ values = [value] ∧ key ∉ groups.map Prod.fst) := by
  induction groups with
  | nil =>
      simp only [appendTo, List.mem_singleton, Prod.mk.injEq] at hmem
      exact .inr (.inr ⟨hmem.1, hmem.2, List.not_mem_nil⟩)
  | cons g rest ih =>
      rw [List.map_cons, List.nodup_cons] at h
      by_cases hg : g.1 = key
      · simp only [appendTo, if_pos hg, List.mem_cons] at hmem
        rcases hmem with heq | hrest
        · rw [Prod.mk.injEq] at heq
          refine .inr (.inl ⟨heq.1.trans hg, g.2, heq.2, ?_⟩)
          rw [← hg]
          exact List.mem_cons_self
        · left
          refine ⟨?_, List.mem_cons_of_mem _ hrest⟩
          rintro rfl
          apply h.1
          rw [hg]
          exact List.mem_map.mpr ⟨(k, values), hrest, rfl⟩
      · simp only [appendTo, if_neg hg, List.mem_cons] at hmem
        rcases hmem with heq | hrest
        · left
          cases heq
          exact ⟨hg, List.mem_cons_self⟩
        · rcases ih h.2 hrest with ⟨hne, hold⟩ | ⟨hk, old, hv, hold⟩ |
            ⟨hk, hv, hnew⟩
          · exact .inl ⟨hne, List.mem_cons_of_mem _ hold⟩
          · exact .inr (.inl ⟨hk, old, hv, List.mem_cons_of_mem _ hold⟩)
          · refine .inr (.inr ⟨hk, hv, ?_⟩)
            rw [List.map_cons, List.mem_cons, not_or]
            exact ⟨fun hkey => hg hkey.symm, hnew⟩

theorem Groups.snoc (h : Groups rows groups) :
    Groups (rows ++ [(key, value)]) (appendTo key value groups) := by
  refine ⟨nodup_keys_appendTo h.keys, ?_, ?_⟩
  · intro k values hmem
    rw [valuesOf_snoc]
    rcases mem_appendTo h.keys hmem with ⟨hne, hold⟩ | ⟨hk, old, hv, hold⟩ |
      ⟨hk, hv, hnew⟩
    · rw [if_neg (Ne.symm hne)]
      exact h.values k values hold
    · subst hk
      rw [if_pos rfl, hv, (h.values k old hold).1]
      exact ⟨rfl, List.concat_ne_nil _ _⟩
    · subst hk
      have hnone : valuesOf rows k = [] := by
        apply valuesOf_eq_nil
        intro row hrow hkey
        exact hnew (hkey ▸ h.covers row hrow)
      rw [if_pos rfl, hv, hnone]
      exact ⟨rfl, List.cons_ne_nil _ _⟩
  · intro row hrow
    rw [mem_keys_appendTo]
    rcases List.mem_append.mp hrow with hold | hnew
    · exact .inl (h.covers row hold)
    · rw [List.mem_singleton.mp hnew]
      exact .inr rfl

/-- By induction from the end of the rows. -/
theorem groups_groupByKey (rows : List (κ × α)) :
    Groups rows (groupByKey rows) := by
  induction rows using List.reverseRecOn with
  | nil =>
      refine ⟨List.nodup_nil, ?_, ?_⟩
      · intro key values h
        cases h
      · intro row h
        cases h
  | append_singleton rows row ih =>
      unfold groupByKey
      rw [List.foldl_concat]
      show Groups (rows ++ [(row.1, row.2)]) (appendTo row.1 row.2 _)
      exact ih.snoc

end LeakcheckHub.Foundation
