import Mathlib.Data.List.Basic

/-!
# Fallible loops

Rules for programs in `Except`: when a sequence of two steps succeeds, and what
a loop that stops at its first error preserves.
-/

namespace LeakcheckHub.Foundation

variable {ε α β γ : Type}

theorem bind_eq_ok {x : Except ε α} {f : α → Except ε β} {b : β} :
    x >>= f = .ok b ↔ ∃ a, x = .ok a ∧ f a = .ok b := by
  cases x with
  | error e =>
      constructor
      · intro h
        cases h
      · rintro ⟨a, h, -⟩
        cases h
  | ok a =>
      constructor
      · intro h
        exact ⟨a, rfl, h⟩
      · rintro ⟨a', h, hf⟩
        cases h
        exact hf

theorem mapError_eq_ok {ε' : Type} {g : ε → ε'} {x : Except ε α} {a : α} :
    x.mapError g = .ok a ↔ x = .ok a := by
  cases x with
  | error e =>
      constructor
      · intro h
        cases h
      · intro h
        cases h
  | ok b =>
      change Except.ok b = Except.ok a ↔ _
      rw [Except.ok.injEq, Except.ok.injEq]

theorem foldlM_cons_eq_ok {f : β → α → Except ε β} {x : α} {xs : List α}
    {b c : β} :
    (x :: xs).foldlM f b = .ok c ↔
      ∃ b', f b x = .ok b' ∧ xs.foldlM f b' = .ok c := by
  rw [List.foldlM_cons, bind_eq_ok]

theorem foldlM_nil_eq_ok {f : β → α → Except ε β} {b c : β} :
    ([] : List α).foldlM f b = .ok c ↔ b = c := by
  rw [List.foldlM_nil]
  exact Except.ok.injEq b c ▸ Iff.rfl

/-- **Loop rule.** What each successful iteration preserves holds after a
successful loop. -/
theorem foldlM_invariant {f : β → α → Except ε β} {I : β → Prop} :
    ∀ {xs : List α} {b c : β}, xs.foldlM f b = .ok c →
      (∀ x ∈ xs, ∀ b b', I b → f b x = .ok b' → I b') → I b → I c
  | [], b, c, h, _, hb => by
      rw [foldlM_nil_eq_ok] at h
      exact h ▸ hb
  | x :: xs, b, c, h, hstep, hb => by
      obtain ⟨b', hx, hrest⟩ := foldlM_cons_eq_ok.mp h
      refine foldlM_invariant hrest ?_ (hstep x List.mem_cons_self b b' hb hx)
      intro y hy
      exact hstep y (List.mem_cons_of_mem _ hy)

/-- A successful loop ran a successful iteration for each of its elements. -/
theorem foldlM_mem {f : β → α → Except ε β} {x : α} :
    ∀ {xs : List α} {b c : β}, xs.foldlM f b = .ok c → x ∈ xs →
      ∃ b' b'', f b' x = .ok b''
  | [], _, _, _, hx => nomatch hx
  | y :: ys, b, c, h, hx => by
      obtain ⟨b', hy, hrest⟩ := foldlM_cons_eq_ok.mp h
      rcases List.mem_cons.mp hx with rfl | hx
      · exact ⟨b, b', hy⟩
      · exact foldlM_mem hrest hx

/-- Where every element succeeds with `P`, so does the whole list. -/
theorem mapM_eq_ok {f : α → Except ε β} {P : β → Prop} :
    ∀ {xs : List α}, (∀ x ∈ xs, ∃ y, f x = .ok y ∧ P y) →
      ∃ ys, xs.mapM f = .ok ys ∧ ∀ y ∈ ys, P y
  | [], _ => ⟨[], rfl, fun _ hy => nomatch hy⟩
  | x :: xs, h => by
      obtain ⟨y, hy, hPy⟩ := h x List.mem_cons_self
      obtain ⟨ys, hys, hPys⟩ := mapM_eq_ok fun x' hx' =>
        h x' (List.mem_cons_of_mem x hx')
      refine ⟨y :: ys, ?_, ?_⟩
      · rw [List.mapM_cons]
        exact bind_eq_ok.mpr ⟨y, hy, bind_eq_ok.mpr ⟨ys, hys, rfl⟩⟩
      · intro z hz
        rcases List.mem_cons.mp hz with rfl | hz
        · exact hPy
        · exact hPys z hz

theorem mapM_cons_eq_ok {f : α → Except ε β} {x : α} {xs : List α}
    {zs : List β} : (x :: xs).mapM f = .ok zs ↔
      ∃ y ys, f x = .ok y ∧ xs.mapM f = .ok ys ∧ zs = y :: ys := by
  rw [List.mapM_cons, bind_eq_ok]
  constructor
  · rintro ⟨y, hy, h⟩
    obtain ⟨ys, hys, h⟩ := bind_eq_ok.mp h
    cases h
    exact ⟨y, ys, hy, hys, rfl⟩
  · rintro ⟨y, ys, hy, hys, rfl⟩
    exact ⟨y, hy, bind_eq_ok.mpr ⟨ys, hys, rfl⟩⟩

/-- Where every element succeeds, the list is mapped. -/
theorem mapM_eq_map {f : α → Except ε β} {g : α → β} :
    ∀ {xs : List α}, (∀ x ∈ xs, f x = .ok (g x)) → xs.mapM f = .ok (xs.map g)
  | [], _ => rfl
  | x :: xs, h => mapM_cons_eq_ok.mpr ⟨g x, xs.map g, h x List.mem_cons_self,
      mapM_eq_map fun x' hx' => h x' (List.mem_cons_of_mem x hx'), rfl⟩

theorem length_of_mapM {f : α → Except ε β} :
    ∀ {xs : List α} {ys : List β}, xs.mapM f = .ok ys → xs.length = ys.length
  | [], ys, h => by
      cases h
      rfl
  | x :: xs, zs, h => by
      obtain ⟨y, ys, -, hys, rfl⟩ := mapM_cons_eq_ok.mp h
      rw [List.length_cons, List.length_cons, length_of_mapM hys]

/-- What an element is filtered by may be read off its image. -/
theorem mapM_filter {f : α → Except ε β} {p : α → Bool} {q : β → Bool} :
    ∀ {xs : List α} {ys : List β}, xs.mapM f = .ok ys →
      (∀ x ∈ xs, ∀ y, f x = .ok y → q y = p x) →
      (xs.filter p).mapM f = .ok (ys.filter q)
  | [], ys, h, _ => by
      cases h
      rfl
  | x :: xs, zs, h, hpq => by
      obtain ⟨y, ys, hy, hys, rfl⟩ := mapM_cons_eq_ok.mp h
      have ih := mapM_filter hys fun x' hx' => hpq x' (List.mem_cons_of_mem x hx')
      have hq := hpq x List.mem_cons_self y hy
      rw [List.filter_cons, List.filter_cons, hq]
      by_cases hp : p x = true
      · rw [if_pos hp, if_pos hp]
        exact mapM_cons_eq_ok.mpr ⟨y, _, hy, ih, rfl⟩
      · rw [if_neg hp, if_neg hp]
        exact ih

end LeakcheckHub.Foundation
