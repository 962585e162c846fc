import LeakcheckHub.Foundation.JsonPaths
import LeakcheckHub.Findings.Drafts

/-!
# What is kept of a provider record's raw object

`_sanitized_raw` drops the `password` keys of the record, in any letter case
and at any depth, before the record is stored as JSON next to the encrypted
password.
-/

namespace LeakcheckHub.Findings

open Foundation
open Foundation.Json (Occurs Kept Alike)

section

variable (U : UnicodeData)

/-- The loop goes on with such a key. -/
def retainedKey (key : PyStr) : Bool :=
  !decide (U.casefold key = PyStr.lit "password")

theorem retainedKey_eq_true {key : PyStr} :
    retainedKey U key = true ↔ U.casefold key ≠ PyStr.lit "password" := by
  simp [retainedKey]

mutual

theorem sanitizeValue_eq_prune (v : Json) :
    sanitizeValue U v = v.prune (retainedKey U) := by
  match v with
  | .obj entries =>
      rw [sanitizeValue, Json.prune, sanitizedRaw_eq_prune entries]
  | .arr items =>
      rw [sanitizeValue, Json.prune, sanitizeItems_eq_prune items]
  | .null => rfl
  | .bool b => rfl
  | .int n => rfl
  | .float bits => rfl
  | .str s => rfl

theorem sanitizedRaw_eq_prune (raw : List (PyStr × Json)) :
    sanitizedRaw U raw = Json.pruneEntries (retainedKey U) raw := by
  match raw with
  | [] => rfl
  | (key, item) :: rest =>
      rw [sanitizedRaw, Json.pruneEntries]
      by_cases hkey : U.casefold key = PyStr.lit "password"
      · have hdrop : ¬ retainedKey U key = true := by simp [retainedKey, hkey]
        rw [if_pos hkey, if_neg hdrop]
        exact sanitizedRaw_eq_prune rest
      · rw [if_neg hkey, if_pos ((retainedKey_eq_true U).mpr hkey),
          sanitizeValue_eq_prune item, sanitizedRaw_eq_prune rest]

theorem sanitizeItems_eq_prune (items : List Json) :
    sanitizeItems U items = Json.pruneItems (retainedKey U) items := by
  match items with
  | [] => rfl
  | item :: rest =>
      rw [sanitizeItems, Json.pruneItems, sanitizeValue_eq_prune item,
        sanitizeItems_eq_prune rest]

end

theorem sanitizedRaw_obj (raw : List (PyStr × Json)) :
    Json.obj (sanitizedRaw U raw) =
      (Json.obj raw).prune (retainedKey U) := by
  rw [sanitizedRaw_eq_prune, Json.prune]

theorem sanitizedRaw_keys {raw entries : List (PyStr × Json)}
    {path : List PathStep}
    (h : Occurs (.obj (sanitizedRaw U raw)) path (.obj entries)) :
    ∀ key ∈ entries.map Prod.fst,
      U.casefold key ≠ PyStr.lit "password" := by
  rw [sanitizedRaw_obj] at h
  intro key hkey
  exact (retainedKey_eq_true U).mp
    (Json.prune_occurrence_keys (retainedKey U) h key hkey)

theorem sanitizedRaw_idem (raw : List (PyStr × Json)) :
    sanitizedRaw U (sanitizedRaw U raw) = sanitizedRaw U raw := by
  rw [sanitizedRaw_eq_prune, sanitizedRaw_eq_prune,
    Json.pruneEntries_pruneEntries]

/-- `Kept` paths avoid the removed keys, and `Alike` values have the same leaf,
the same length or the same remaining keys in the same order. -/
theorem sanitizedRaw_complete (raw : List (PyStr × Json)) :
    (∀ path entries, Occurs (.obj (sanitizedRaw U raw)) path (.obj entries) →
      ∀ key ∈ entries.map Prod.fst,
        U.casefold key ≠ PyStr.lit "password") ∧
    (∀ path left, Occurs (.obj (sanitizedRaw U raw)) path left →
      Kept (retainedKey U) path ∧
        ∃ x, Occurs (.obj raw) path x ∧ Alike (retainedKey U) x left) ∧
    (∀ path x, Occurs (.obj raw) path x → Kept (retainedKey U) path →
      ∃ left, Occurs (.obj (sanitizedRaw U raw)) path left ∧
        Alike (retainedKey U) x left) ∧
    sanitizedRaw U (sanitizedRaw U raw) = sanitizedRaw U raw := by
  refine ⟨fun path entries h => sanitizedRaw_keys U h, ?_, ?_,
    sanitizedRaw_idem U raw⟩
  · intro path left h
    rw [sanitizedRaw_obj] at h
    obtain ⟨hkept, x, hx, rfl⟩ := (Json.occurs_prune (retainedKey U)).mp h
    exact ⟨hkept, x, hx, Json.alike_prune (retainedKey U) x⟩
  · intro path x hx hkept
    rw [sanitizedRaw_obj]
    exact ⟨x.prune (retainedKey U),
      (Json.occurs_prune (retainedKey U)).mpr ⟨hkept, x, hx, rfl⟩,
      Json.alike_prune (retainedKey U) x⟩

end

end LeakcheckHub.Findings
