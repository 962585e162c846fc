import LeakcheckHub.Foundation.Json
import LeakcheckHub.Foundation.Utf8

/-!
# Text and JSON columns

What PostgreSQL keeps of a Python `str` sent to a text column. The driver
encodes it as UTF-8, the server rejects NUL, and `varchar(n)` rejects a longer
value unless all that exceeds the bound is spaces, which it cuts off. A `jsonb`
column rejects a document with such a text in it, and numbers that `numeric`
does not have.
-/

namespace LeakcheckHub.Foundation

/-- What makes a statement fail. -/
inductive DbError where
  | uniqueViolation
  | integrityViolation
  | badText
  | badJson
  | badInteger
  | tooManyParameters
deriving DecidableEq, Repr

/-- A statement may bind at most 32767 parameters. -/
def bindLimit : ℕ := 32767

namespace PyStr

/-- The value of a `text` or `citext` column; `none` is an error. -/
def storeText (s : PyStr) : Option PyStr :=
  if s.any fun c => isSurrogate c || c.val == 0 then none else some s

def storeVarchar (n : ℕ) (s : PyStr) : Option PyStr := do
  let s ← storeText s
  if s.length ≤ n then some s
  else if (s.drop n).all fun c => c.val == 32 then some (s.take n)
  else none

variable {s u : PyStr} {n : ℕ}

theorem storeText_eq (h : storeText s = some u) : u = s := by
  unfold storeText at h
  split at h
  · cases h
  · rw [Option.some.injEq] at h
    exact h.symm

theorem scalar_of_storeText (h : storeText s = some u) : Scalar u := by
  have heq := storeText_eq h
  subst heq
  unfold storeText at h
  split at h
  · cases h
  · rename_i hclean
    intro c hc
    by_contra hsurrogate
    refine hclean (List.any_eq_true.mpr ⟨c, hc, ?_⟩)
    rw [Bool.of_not_eq_false hsurrogate, Bool.true_or]

theorem storeText_take (h : storeText s = some u) :
    storeText (s.take n) = some (s.take n) := by
  unfold storeText at h ⊢
  split at h
  · cases h
  · rename_i hclean
    refine if_neg fun hany => hclean ?_
    obtain ⟨c, hc, hbad⟩ := List.any_eq_true.mp hany
    exact List.any_eq_true.mpr ⟨c, List.mem_of_mem_take hc, hbad⟩

/-- What a column stores: the value, or its first `n` characters. -/
theorem storeVarchar_eq_some (h : storeVarchar n s = some u) :
    storeText s = some s ∧
      (s.length ≤ n ∧ u = s ∨
        n < s.length ∧ (s.drop n).all (fun c => c.val == 32) = true ∧
          u = s.take n) := by
  obtain ⟨t, ht, hfit⟩ := Option.bind_eq_some_iff.mp h
  have heq : t = s := storeText_eq ht
  rw [heq] at ht hfit
  refine ⟨ht, ?_⟩
  split at hfit
  · rename_i hlen
    cases hfit
    exact .inl ⟨hlen, rfl⟩
  · rename_i hlen
    split at hfit
    · rename_i hspaces
      cases hfit
      exact .inr ⟨Nat.lt_of_not_le hlen, hspaces, rfl⟩
    · cases hfit

theorem storeVarchar_of_le (h : storeText s = some s) (hlen : s.length ≤ n) :
    storeVarchar n s = some s := by
  rw [storeVarchar, h]
  exact if_pos hlen

theorem length_storeVarchar (h : storeVarchar n s = some u) :
    u.length ≤ n := by
  obtain ⟨-, ⟨hlen, rfl⟩ | ⟨-, -, rfl⟩⟩ := storeVarchar_eq_some h
  · exact hlen
  · exact List.length_take_le n s

/-- Text that the server takes. -/
def Sendable (s : PyStr) : Prop := ∀ c ∈ s, isSurrogate c = false ∧ c.val ≠ 0

/-- Nothing but spaces from the `n`-th character on. -/
def BlankFrom (n : ℕ) (s : PyStr) : Prop := ∀ c ∈ s.drop n, c.val = 32

instance (s : PyStr) : Decidable (Sendable s) :=
  inferInstanceAs (Decidable (∀ c ∈ s, _))

instance (n : ℕ) (s : PyStr) : Decidable (BlankFrom n s) :=
  inferInstanceAs (Decidable (∀ c ∈ s.drop n, _))

theorem storeText_eq_some_iff : storeText s = some s ↔ Sendable s := by
  unfold storeText Sendable
  split
  · rename_i hany
    refine iff_of_false nofun fun hsendable => ?_
    obtain ⟨c, hc, hbad⟩ := List.any_eq_true.mp hany
    obtain ⟨hsurrogate, hnul⟩ := hsendable c hc
    rw [hsurrogate, Bool.false_or, beq_iff_eq] at hbad
    exact hnul hbad
  · rename_i hnone
    refine iff_of_true rfl fun c hc => ⟨?_, fun hnul => ?_⟩
    · by_contra hsurrogate
      refine hnone (List.any_eq_true.mpr ⟨c, hc, ?_⟩)
      rw [Bool.of_not_eq_false hsurrogate, Bool.true_or]
    · refine hnone (List.any_eq_true.mpr ⟨c, hc, ?_⟩)
      rw [beq_iff_eq.mpr hnul, Bool.or_true]

theorem blankFrom_of_le (h : s.length ≤ n) : BlankFrom n s := by
  unfold BlankFrom
  rw [List.drop_eq_nil_of_le h]
  exact List.forall_mem_nil _

theorem storeVarchar_succeeds :
    (∃ u, storeVarchar n s = some u) ↔ Sendable s ∧ BlankFrom n s := by
  constructor
  · rintro ⟨u, hu⟩
    obtain ⟨htext, ⟨hlen, -⟩ | ⟨-, hspaces, -⟩⟩ := storeVarchar_eq_some hu
    · exact ⟨storeText_eq_some_iff.mp htext, blankFrom_of_le hlen⟩
    · refine ⟨storeText_eq_some_iff.mp htext, fun c hc => ?_⟩
      exact beq_iff_eq.mp (List.all_eq_true.mp hspaces c hc)
  · rintro ⟨hsendable, hblank⟩
    rw [storeVarchar, storeText_eq_some_iff.mpr hsendable]
    by_cases hlen : s.length ≤ n
    · exact ⟨s, if_pos hlen⟩
    · refine ⟨s.take n, (if_neg hlen).trans (if_pos ?_)⟩
      exact List.all_eq_true.mpr fun c hc => beq_iff_eq.mpr (hblank c hc)

/-- A stored value is stored again as it is. -/
theorem storeVarchar_stored (h : storeVarchar n s = some u) :
    storeVarchar n u = some u := by
  obtain ⟨ht, ⟨hlen, rfl⟩ | ⟨-, -, rfl⟩⟩ := storeVarchar_eq_some h
  · exact storeVarchar_of_le ht hlen
  · exact storeVarchar_of_le (storeText_take ht) (List.length_take_le n s)

end PyStr

namespace Json

/-- `numeric` has 131072 digits before the decimal point. -/
def numericBound : ℕ := 10 ^ 131072

/-- Neither an infinity nor a NaN. -/
def isFinite (bits : BitVec 64) : Bool :=
  decide (bits.toNat / 2 ^ 52 % 2 ^ 11 < 2047)

mutual

/-- Whether a `jsonb` column takes a document. -/
def storable : Json → Bool
  | .null => true
  | .bool _ => true
  | .int n => decide (n.natAbs < numericBound)
  | .float bits => isFinite bits
  | .str s => decide s.Sendable
  | .arr items => storableItems items
  | .obj entries => storableEntries entries

def storableItems : List Json → Bool
  | [] => true
  | item :: rest => storable item && storableItems rest

def storableEntries : List (PyStr × Json) → Bool
  | [] => true
  | (key, item) :: rest =>
      decide key.Sendable && storable item && storableEntries rest

end

theorem storableItems_strings {texts : List PyStr} :
    storableItems (texts.map Json.str) = true ↔ ∀ s ∈ texts, s.Sendable := by
  induction texts with
  | nil => exact iff_of_true rfl (List.forall_mem_nil _)
  | cons s rest ih =>
      rw [List.map_cons, storableItems, Bool.and_eq_true, ih, storable,
        decide_eq_true_eq, List.forall_mem_cons]

end Json

end LeakcheckHub.Foundation
