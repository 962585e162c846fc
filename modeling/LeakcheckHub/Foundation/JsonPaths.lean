import LeakcheckHub.Foundation.Json

/-!
# Paths into JSON values

Where a value stands inside another one, and what is left of a value when some
keys are dropped from every object of it: nothing stands below a dropped key,
and at every other path stands what stood there, pruned the same way.
-/

namespace LeakcheckHub.Foundation

inductive PathStep where
  | key (k : PyStr)
  | index (i : ℕ)

namespace Json

/-- `Occurs v path x`: following `path` from `v` leads to `x`. -/
inductive Occurs : Json → List PathStep → Json → Prop where
  | here (v : Json) : Occurs v [] v
  | member {entries : List (PyStr × Json)} {k : PyStr} {v x : Json}
      {path : List PathStep} : (k, v) ∈ entries → Occurs v path x →
      Occurs (.obj entries) (.key k :: path) x
  | item {items : List Json} {i : ℕ} {v x : Json} {path : List PathStep} :
      items[i]? = some v → Occurs v path x →
      Occurs (.arr items) (.index i :: path) x

theorem occurs_nil {v x : Json} : Occurs v [] x ↔ x = v := by
  constructor
  · rintro ⟨⟩
    rfl
  · rintro rfl
    exact .here x

theorem occurs_key {v x : Json} {k : PyStr} {path : List PathStep} :
    Occurs v (.key k :: path) x ↔
      ∃ entries child, v = .obj entries ∧ (k, child) ∈ entries ∧
        Occurs child path x := by
  constructor
  · intro h
    cases h with
    | member hmem hchild => exact ⟨_, _, rfl, hmem, hchild⟩
  · rintro ⟨entries, child, rfl, hmem, hchild⟩
    exact .member hmem hchild

theorem occurs_index {v x : Json} {i : ℕ} {path : List PathStep} :
    Occurs v (.index i :: path) x ↔
      ∃ items child, v = .arr items ∧ items[i]? = some child ∧
        Occurs child path x := by
  constructor
  · intro h
    cases h with
    | item hget hchild => exact ⟨_, _, rfl, hget, hchild⟩
  · rintro ⟨items, child, rfl, hget, hchild⟩
    exact .item hget hchild

/-! ## Dropping keys -/

section

variable (keep : PyStr → Bool)

mutual

def prune : Json → Json
  | .obj entries => .obj (pruneEntries entries)
  | .arr items => .arr (pruneItems items)
  | .null => .null
  | .bool b => .bool b
  | .int n => .int n
  | .float bits => .float bits
  | .str s => .str s

def pruneEntries : List (PyStr × Json) → List (PyStr × Json)
  | [] => []
  | (k, v) :: rest =>
      if keep k then (k, prune v) :: pruneEntries rest else pruneEntries rest

def pruneItems : List Json → List Json
  | [] => []
  | v :: rest => prune v :: pruneItems rest

end

theorem pruneItems_eq_map (items : List Json) :
    pruneItems keep items = items.map (prune keep) := by
  induction items with
  | nil => rfl
  | cons v rest ih => rw [pruneItems, ih, List.map_cons]

theorem pruneEntries_keys (entries : List (PyStr × Json)) :
    (pruneEntries keep entries).map Prod.fst =
      (entries.map Prod.fst).filter keep := by
  induction entries with
  | nil => rfl
  | cons entry rest ih =>
      obtain ⟨k, v⟩ := entry
      by_cases hk : keep k = true
      · simp [pruneEntries, hk, ih]
      · simp [pruneEntries, hk, ih]

theorem mem_pruneEntries {entries : List (PyStr × Json)} {k : PyStr}
    {y : Json} :
    (k, y) ∈ pruneEntries keep entries ↔
      keep k = true ∧ ∃ v, (k, v) ∈ entries ∧ y = prune keep v := by
  induction entries with
  | nil => simp [pruneEntries]
  | cons entry rest ih =>
      obtain ⟨k', v'⟩ := entry
      by_cases hk : keep k' = true
      · rw [pruneEntries, if_pos hk, List.mem_cons, ih]
        constructor
        · rintro (heq | ⟨hkeep, v, hmem, rfl⟩)
          · obtain ⟨rfl, rfl⟩ := Prod.mk.inj heq
            exact ⟨hk, v', List.mem_cons_self, rfl⟩
          · exact ⟨hkeep, v, List.mem_cons_of_mem _ hmem, rfl⟩
        · rintro ⟨hkeep, v, hmem, rfl⟩
          rcases List.mem_cons.mp hmem with heq | hmem
          · obtain ⟨rfl, rfl⟩ := Prod.mk.inj heq
            exact Or.inl rfl
          · exact Or.inr ⟨hkeep, v, hmem, rfl⟩
      · rw [pruneEntries, if_neg hk, ih]
        constructor
        · rintro ⟨hkeep, v, hmem, rfl⟩
          exact ⟨hkeep, v, List.mem_cons_of_mem _ hmem, rfl⟩
        · rintro ⟨hkeep, v, hmem, rfl⟩
          rcases List.mem_cons.mp hmem with heq | hmem
          · obtain ⟨rfl, rfl⟩ := Prod.mk.inj heq
            exact absurd hkeep hk
          · exact ⟨hkeep, v, hmem, rfl⟩

/-! ## What is left -/

/-- No step of the path goes through a dropped key. -/
def Kept : List PathStep → Prop
  | [] => True
  | .key k :: path => keep k = true ∧ Kept path
  | .index _ :: path => Kept path

/-- The same leaf, an array of the same length, or an object with the kept
keys in their order. -/
def Alike : Json → Json → Prop
  | .obj entries, .obj left =>
      left.map Prod.fst = (entries.map Prod.fst).filter keep
  | .arr items, .arr left => left.length = items.length
  | .null, .null => True
  | .bool b, .bool c => c = b
  | .int n, .int m => m = n
  | .float bits, .float image => image = bits
  | .str s, .str t => t = s
  | _, _ => False

theorem alike_prune (v : Json) : Alike keep v (prune keep v) := by
  cases v with
  | obj entries => exact pruneEntries_keys keep entries
  | arr items =>
      show (pruneItems keep items).length = items.length
      rw [pruneItems_eq_map, List.length_map]
  | null => trivial
  | bool b => rfl
  | int n => rfl
  | float bits => rfl
  | str s => rfl

theorem prune_eq_obj {v : Json} {left : List (PyStr × Json)}
    (h : prune keep v = .obj left) :
    ∃ entries, v = .obj entries ∧ left = pruneEntries keep entries := by
  cases v with
  | obj entries => exact ⟨entries, rfl, (Json.obj.inj h).symm⟩
  | arr items => exact nomatch h
  | null => exact nomatch h
  | bool b => exact nomatch h
  | int n => exact nomatch h
  | float bits => exact nomatch h
  | str s => exact nomatch h

theorem prune_eq_arr {v : Json} {left : List Json}
    (h : prune keep v = .arr left) :
    ∃ items, v = .arr items ∧ left = pruneItems keep items := by
  cases v with
  | arr items => exact ⟨items, rfl, (Json.arr.inj h).symm⟩
  | obj entries => exact nomatch h
  | null => exact nomatch h
  | bool b => exact nomatch h
  | int n => exact nomatch h
  | float bits => exact nomatch h
  | str s => exact nomatch h

theorem occurs_prune {v y : Json} {path : List PathStep} :
    Occurs (prune keep v) path y ↔
      Kept keep path ∧ ∃ x, Occurs v path x ∧ y = prune keep x := by
  induction path generalizing v with
  | nil => simp [occurs_nil, Kept]
  | cons step path ih =>
      cases step with
      | key k =>
          rw [occurs_key]
          constructor
          · rintro ⟨left, child, hv, hmem, hchild⟩
            obtain ⟨entries, rfl, rfl⟩ := prune_eq_obj keep hv
            obtain ⟨hk, w, hw, rfl⟩ := (mem_pruneEntries keep).mp hmem
            obtain ⟨hkept, x, hx, rfl⟩ := ih.mp hchild
            exact ⟨⟨hk, hkept⟩, x, .member hw hx, rfl⟩
          · rintro ⟨⟨hk, hkept⟩, x, hx, rfl⟩
            obtain ⟨entries, w, rfl, hw, hx⟩ := occurs_key.mp hx
            exact ⟨_, _, rfl, (mem_pruneEntries keep).mpr ⟨hk, w, hw, rfl⟩,
              ih.mpr ⟨hkept, x, hx, rfl⟩⟩
      | index i =>
          rw [occurs_index]
          constructor
          · rintro ⟨left, child, hv, hget, hchild⟩
            obtain ⟨items, rfl, rfl⟩ := prune_eq_arr keep hv
            rw [pruneItems_eq_map, List.getElem?_map,
              Option.map_eq_some_iff] at hget
            obtain ⟨w, hw, rfl⟩ := hget
            obtain ⟨hkept, x, hx, rfl⟩ := ih.mp hchild
            exact ⟨hkept, x, .item hw hx, rfl⟩
          · rintro ⟨hkept, x, hx, rfl⟩
            obtain ⟨items, w, rfl, hw, hx⟩ := occurs_index.mp hx
            refine ⟨_, prune keep w, rfl, ?_, ih.mpr ⟨hkept, x, hx, rfl⟩⟩
            rw [pruneItems_eq_map, List.getElem?_map, hw, Option.map_some]

theorem prune_occurrence_keys {v : Json} {path : List PathStep}
    {left : List (PyStr × Json)}
    (h : Occurs (prune keep v) path (.obj left)) :
    ∀ k ∈ left.map Prod.fst, keep k = true := by
  intro k hk
  obtain ⟨_, x, -, hx⟩ := (occurs_prune keep).mp h
  obtain ⟨entries, -, rfl⟩ := prune_eq_obj keep hx.symm
  rw [pruneEntries_keys] at hk
  exact (List.mem_filter.mp hk).2

mutual

theorem prune_prune (v : Json) :
    prune keep (prune keep v) = prune keep v := by
  match v with
  | .obj entries =>
      simp only [prune]
      rw [pruneEntries_pruneEntries entries]
  | .arr items =>
      simp only [prune]
      rw [pruneItems_pruneItems items]
  | .null => rfl
  | .bool b => rfl
  | .int n => rfl
  | .float bits => rfl
  | .str s => rfl

theorem pruneEntries_pruneEntries (entries : List (PyStr × Json)) :
    pruneEntries keep (pruneEntries keep entries) =
      pruneEntries keep entries := by
  match entries with
  | [] => rfl
  | (k, v) :: rest =>
      by_cases hk : keep k = true
      · simp only [pruneEntries, if_pos hk]
        rw [prune_prune v, pruneEntries_pruneEntries rest]
      · simp only [pruneEntries, if_neg hk]
        exact pruneEntries_pruneEntries rest

theorem pruneItems_pruneItems (items : List Json) :
    pruneItems keep (pruneItems keep items) = pruneItems keep items := by
  match items with
  | [] => rfl
  | v :: rest =>
      simp only [pruneItems]
      rw [prune_prune v, pruneItems_pruneItems rest]

end

end

end Json

end LeakcheckHub.Foundation
