import Mathlib.Data.List.Nodup
import Mathlib.Data.List.Perm.Subperm
import Mathlib.Order.Defs.LinearOrder
import Mathlib.Order.Basic
import Mathlib.Data.Int.Order.Basic

/-!
# Selections

`LIMIT k` without an order: any rows, as many as there are up to the limit.
Which selections exist, and what they must contain. With an `ORDER BY` the rows
come in order, and rows that the order does not tell apart in any.
-/

namespace LeakcheckHub.Foundation

variable {α : Type} {l c : List α} {k : ℕ} {f g : α}

structure Selection (l : List α) (k : ℕ) (c : List α) : Prop where
  nodup : c.Nodup
  subset : c ⊆ l
  length : c.length = min k l.length

/-- A limit that is not exceeded selects everything. -/
theorem Selection.mem_of_le (h : Selection l k c) (hk : l.length ≤ k)
    (hf : f ∈ l) : f ∈ c := by
  have hlen : l.length ≤ c.length := by
    rw [h.length]
    omega
  have hperm := (h.nodup.subperm h.subset).perm_of_length_le hlen
  exact hperm.symm.subset hf

/-- What a selection leaves. -/
theorem Selection.length_rest [DecidableEq α] (h : Selection l k c)
    (hl : l.Nodup) : (l.filter fun a => decide (a ∉ c)).length = l.length - k := by
  have hperm : (l.filter fun a => decide (a ∈ c)).Perm c := by
    refine (List.perm_ext_iff_of_nodup (hl.filter _) h.nodup).mpr fun a => ?_
    rw [List.mem_filter, decide_eq_true_eq]
    exact ⟨fun ha => ha.2, fun ha => ⟨h.subset ha, ha⟩⟩
  have hsplit : l.length = (l.filter fun a => decide (a ∈ c)).length +
      (l.filter fun a => !decide (a ∈ c)).length :=
    List.length_eq_length_filter_add _
  have hlength := h.length
  rw [← hperm.length_eq] at hlength
  simp only [decide_not]
  omega

theorem Selection.eq_nil (h : Selection l 0 c) : c = [] := by
  have hlen := h.length
  rw [Nat.zero_min] at hlen
  exact List.eq_nil_of_length_eq_zero hlen

/-- Where the predicate meets one row at most, the row found depends on what is
stored of it alone. -/
theorem find?_eq_of_mem_iff (l' : List α) {p : α → Bool}
    (hone : ∀ a ∈ l, ∀ b ∈ l, p a = true → p b = true → a = b)
    (hmem : ∀ a, p a = true → (a ∈ l ↔ a ∈ l')) : l.find? p = l'.find? p := by
  cases h : l.find? p with
  | none =>
      refine (List.find?_eq_none.mpr fun a ha hp => ?_).symm
      exact List.find?_eq_none.mp h a ((hmem a hp).mpr ha) hp
  | some a =>
      have ha := List.mem_of_find?_eq_some h
      have hp := List.find?_some h
      have ha' := (hmem a hp).mp ha
      cases h' : l'.find? p with
      | none => exact absurd hp (List.find?_eq_none.mp h' a ha')
      | some b =>
          have hpb := List.find?_some h'
          have hb := (hmem b hpb).mpr (List.mem_of_find?_eq_some h')
          rw [hone a ha b hb hp hpb]

theorem any_eq_of_mem_iff {l' : List α} {p : α → Bool}
    (hmem : ∀ a, p a = true → (a ∈ l ↔ a ∈ l')) : l.any p = l'.any p := by
  rw [Bool.eq_iff_iff, List.any_eq_true, List.any_eq_true]
  constructor
  · rintro ⟨a, ha, hp⟩
    exact ⟨a, (hmem a hp).mp ha, hp⟩
  · rintro ⟨a, ha, hp⟩
    exact ⟨a, (hmem a hp).mpr ha, hp⟩

theorem max?_eq_of_mem_iff {l l' : List ℤ} (hmem : ∀ a, a ∈ l ↔ a ∈ l') :
    l.max? = l'.max? := by
  cases h : l.max? with
  | none =>
      have hnil := List.max?_eq_none_iff.mp h
      have hnil' : l' = [] := by
        refine List.eq_nil_iff_forall_not_mem.mpr fun a ha => ?_
        have hal := (hmem a).mpr ha
        rw [hnil] at hal
        cases hal
      rw [hnil']
      rfl
  | some m =>
      obtain ⟨hm, hmax⟩ := List.max?_eq_some_iff.mp h
      exact (List.max?_eq_some_iff.mpr ⟨(hmem m).mp hm,
        fun b hb => hmax b ((hmem b).mpr hb)⟩).symm

/-! ## Orders -/

/-- `ORDER BY … LIMIT k`, where `before` is what the order tells apart. -/
structure OrderedSelection (before : α → α → Prop) (l : List α) (k : ℕ)
    (c : List α) : Prop extends Selection l k c where
  ordered : c.Pairwise fun a b => ¬ before b a
  first : ∀ a ∈ l, a ∉ c → ∀ b ∈ c, ¬ before a b

/-- What is selected depends on the rows alone, not on how they are stored. -/
theorem OrderedSelection.congr {before : α → α → Prop} {l' : List α}
    (hl : l.Nodup) (hl' : l'.Nodup) (hmem : ∀ a, a ∈ l ↔ a ∈ l')
    (h : OrderedSelection before l k c) : OrderedSelection before l' k c := by
  have hperm : l.Perm l' := (List.perm_ext_iff_of_nodup hl hl').mpr hmem
  refine ⟨⟨h.nodup, fun a ha => (hmem a).mp (h.subset ha), ?_⟩, h.ordered, ?_⟩
  · rw [h.length, hperm.length_eq]
  · exact fun a ha => h.first a ((hmem a).mpr ha)

/-- An order that tells all rows apart selects the same ones. -/
theorem OrderedSelection.subset_of_total {before : α → α → Prop} {c' : List α}
    (htotal : ∀ a ∈ l, ∀ b ∈ l, a ≠ b → before a b ∨ before b a)
    (h : OrderedSelection before l k c) (h' : OrderedSelection before l k c') :
    c ⊆ c' := by
  intro a ha
  by_contra hnot
  -- as many rows are selected, so `c'` has one that `c` leaves out
  obtain ⟨b, hb, hbc⟩ : ∃ b ∈ c', b ∉ c := by
    by_contra hall
    have hsub : c' ⊆ c := by
      intro b hb
      by_contra hbc
      exact hall ⟨b, hb, hbc⟩
    have hperm := (h'.nodup.subperm hsub).perm_of_length_le
      (Nat.le_of_eq (h.length.trans h'.length.symm))
    exact hnot (hperm.symm.subset ha)
  have hne : a ≠ b := fun heq => hbc (heq ▸ ha)
  rcases htotal a (h.subset ha) b (h'.subset hb) hne with hab | hba
  · exact h'.first a (h.subset ha) hnot b hb hab
  · exact h.first b (h'.subset hb) hbc a ha hba

theorem OrderedSelection.unique {before : α → α → Prop} {c' : List α}
    (htotal : ∀ a ∈ l, ∀ b ∈ l, a ≠ b → before a b ∨ before b a)
    (h : OrderedSelection before l k c) (h' : OrderedSelection before l k c') :
    c = c' := by
  have hperm : c.Perm c' := (List.perm_ext_iff_of_nodup h.nodup h'.nodup).mpr
    fun a => ⟨fun ha => h.subset_of_total htotal h' ha,
      fun ha => h'.subset_of_total htotal h ha⟩
  refine List.Perm.eq_of_pairwise ?_ h.ordered h'.ordered hperm
  intro a b ha hb hab hba
  by_contra hne
  rcases htotal a (h.subset ha) b (h'.subset hb) hne with hlt | hlt
  · exact hba hlt
  · exact hab hlt

theorem Selection.filter_subperm (h : Selection l k c) (p : α → Bool) :
    (c.filter p).Subperm (l.filter p) := by
  refine (h.nodup.filter p).subperm fun a ha => ?_
  obtain ⟨hc, hp⟩ := List.mem_filter.mp ha
  exact List.mem_filter.mpr ⟨h.subset hc, hp⟩

/-- If nothing is filtered out of a selection, or nothing outside of it would
be kept, filtering it selects from what was filtered. -/
theorem OrderedSelection.filter {before : α → α → Prop} {p : α → Bool}
    (hl : l.Nodup) (h : OrderedSelection before l k c)
    (hcases : (∀ a ∈ c, p a = true) ∨ ∀ a ∈ l, a ∉ c → p a = false) :
    OrderedSelection before (l.filter p) k (c.filter p) := by
  have hle := (h.filter_subperm p).length_le
  have hlength := h.length
  have hfewer : (l.filter p).length ≤ l.length := List.length_filter_le _ _
  refine ⟨⟨h.nodup.filter p, (h.filter_subperm p).subset, ?_⟩,
    h.ordered.filter p, ?_⟩
  · rcases hcases with hall | hnone
    · rw [List.filter_eq_self.mpr hall] at hle ⊢
      omega
    · have hback : l.filter p ⊆ c.filter p := by
        intro a ha
        obtain ⟨hmem, hp⟩ := List.mem_filter.mp ha
        refine List.mem_filter.mpr ⟨?_, hp⟩
        by_contra hout
        rw [hnone a hmem hout] at hp
        cases hp
      have hge := ((hl.filter p).subperm hback).length_le
      have hkept : (c.filter p).length ≤ c.length :=
        List.length_filter_le _ _
      omega
  · intro a ha hout b hb
    obtain ⟨hmem, hp⟩ := List.mem_filter.mp ha
    refine h.first a hmem (fun hc => ?_) b (List.mem_of_mem_filter hb)
    exact hout (List.mem_filter.mpr ⟨hc, hp⟩)

/-- Otherwise too few rows are left. -/
theorem Selection.of_length_filter {p : α → Bool} (h : Selection l k c)
    (hlen : (c.filter p).length = min k (l.filter p).length) :
    (∀ a ∈ c, p a = true) ∨ ∀ a ∈ l, a ∉ c → p a = false := by
  by_cases hall : ∀ a ∈ c, p a = true
  · exact .inl hall
  · right
    intro a ha hout
    by_contra hp
    rw [Bool.not_eq_false] at hp
    -- `a` was there to fill the place of a row that was filtered out
    have hlt : (c.filter p).length < c.length := by
      refine Nat.lt_of_le_of_ne (List.length_filter_le _ _) fun hsame => ?_
      exact hall (List.length_filter_eq_length_iff.mp hsame)
    have hlength := h.length
    have hperm := (h.filter_subperm p).perm_of_length_le (by omega)
    have hmem := hperm.symm.subset (List.mem_filter.mpr ⟨ha, hp⟩)
    exact hout (List.mem_of_mem_filter hmem)

/-- Some rows are selected. -/
theorem exists_orderedSelection {key : α → ℤ} (hl : l.Nodup) (k : ℕ) :
    ∃ c, OrderedSelection (fun a b => key b < key a) l k c := by
  let sorted := l.mergeSort fun a b => decide (key b ≤ key a)
  have hperm : sorted.Perm l := List.mergeSort_perm _ _
  have hsorted : sorted.Pairwise fun a b => key b ≤ key a := by
    have htotal : ∀ a b, (decide (key b ≤ key a) || decide (key a ≤ key b)) =
        true := by
      intro a b
      rcases le_total (key b) (key a) with h | h
      · simp [h]
      · simp [h]
    have h : sorted.Pairwise fun a b => decide (key b ≤ key a) = true :=
      List.pairwise_mergeSort (fun a b c hab hbc => decide_eq_true
        ((of_decide_eq_true hbc).trans (of_decide_eq_true hab))) htotal l
    exact h.imp of_decide_eq_true
  have hsplit : (sorted.take k ++ sorted.drop k).Pairwise
      fun a b => key b ≤ key a := by
    rw [List.take_append_drop]
    exact hsorted
  obtain ⟨htake, -, hacross⟩ := List.pairwise_append.mp hsplit
  refine ⟨sorted.take k, ⟨?_, ?_, ?_⟩, ?_, ?_⟩
  · exact (hperm.nodup_iff.mpr hl).sublist (List.take_sublist _ _)
  · exact fun a ha => hperm.subset (List.mem_of_mem_take ha)
  · rw [List.length_take, hperm.length_eq]
  · exact htake.imp fun hab => not_lt.mpr hab
  · intro a ha hnot b hb
    have hdrop : a ∈ sorted.drop k := by
      have hmem : a ∈ sorted.take k ++ sorted.drop k := by
        rw [List.take_append_drop]
        exact hperm.symm.subset ha
      exact (List.mem_append.mp hmem).resolve_left hnot
    exact not_lt.mpr (hacross b hb a hdrop)

variable [DecidableEq α]

/-- Where one row may be left out, some selection has `g` and not `f`. -/
theorem exists_selection (hl : l.Nodup) (hg : g ∈ l) (hfg : f ≠ g)
    (hk : 0 < k) (hroom : f ∉ l ∨ k < l.length) :
    ∃ c, Selection l k c ∧ g ∈ c ∧ f ∉ c := by
  have hpos : 0 < l.length := List.length_pos_of_mem hg
  let rest := (l.erase g).erase f
  have hrest : ∀ i ∈ rest, i ∈ l ∧ i ≠ g ∧ i ≠ f := by
    intro i hi
    obtain ⟨hif, hi⟩ := (hl.erase g).mem_erase_iff.mp hi
    obtain ⟨hig, hi⟩ := hl.mem_erase_iff.mp hi
    exact ⟨hi, hig, hif⟩
  have hlen : min k l.length ≤ rest.length + 1 := by
    have herase : (l.erase g).length = l.length - 1 :=
      List.length_erase_of_mem hg
    rcases hroom with hf | hlt
    · have hf' : f ∉ l.erase g := fun h => hf (List.mem_of_mem_erase h)
      rw [show rest = l.erase g from List.erase_of_not_mem hf', herase]
      omega
    · have hdrop : (l.erase g).length - 1 ≤ rest.length :=
        List.le_length_erase
      rw [herase] at hdrop
      omega
  refine ⟨g :: rest.take (min k l.length - 1), ⟨?_, ?_, ?_⟩,
    List.mem_cons_self, ?_⟩
  · rw [List.nodup_cons]
    refine ⟨fun hmem => (hrest g (List.mem_of_mem_take hmem)).2.1 rfl, ?_⟩
    exact ((hl.erase g).erase f).sublist (List.take_sublist _ _)
  · intro i hi
    rcases List.mem_cons.mp hi with rfl | hi
    · exact hg
    · exact (hrest i (List.mem_of_mem_take hi)).1
  · rw [List.length_cons, List.length_take]
    omega
  · intro hmem
    rcases List.mem_cons.mp hmem with heq | hmem
    · exact hfg heq
    · exact (hrest f (List.mem_of_mem_take hmem)).2.2 rfl

end LeakcheckHub.Foundation
