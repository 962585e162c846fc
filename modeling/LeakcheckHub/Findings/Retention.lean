import LeakcheckHub.Models

/-!
# Retention policies

`RetentionPolicy` of `app/retention.py` and the rows it makes eligible for
deletion.
-/

namespace LeakcheckHub.Findings

open Foundation

/-- The modes `load_policy` returns. -/
inductive RetentionMode where
  | indefinite
  | immediate
  | days
deriving DecidableEq, Repr

structure RetentionPolicy where
  mode : RetentionMode
  days : Option ℤ
deriving DecidableEq, Repr

/-- `timedelta(days=…)`. -/
def days (n : ℤ) : ℤ := seconds (n * 86400)

/-- `datetime.min` in UTC. -/
def datetimeMin : Timestamp := seconds (-62135596800)

namespace RetentionPolicy

def deletesAnything (p : RetentionPolicy) : Bool :=
  p.mode == .immediate || p.mode == .days

/-- `none` raises: there is no cutoff, or it is before `datetime.min`. -/
def cutoff (p : RetentionPolicy) (now : Timestamp) : Option Timestamp :=
  match p.mode, p.days with
  | .immediate, _ => some now
  | .days, some n =>
      if datetimeMin ≤ now - Findings.days n then some (now - Findings.days n)
      else none
  | _, _ => none

end RetentionPolicy

/-- The `WHERE` of the purge's select. -/
def expired (cutoff : Timestamp) (f : Finding) : Bool :=
  f.remediatedAt.any fun at_ => decide (at_ ≤ cutoff)

/-- `LIMIT` without `ORDER BY`: any rows, as many as there are up to the
limit. -/
def chosen (rows : List (Uuid × Finding)) (cutoff : Timestamp) (limit : ℕ)
    (ids : List Uuid) : Bool :=
  let eligible := (rows.filter fun x => expired cutoff x.2).map Prod.fst
  decide ids.Nodup && ids.all (fun i => decide (i ∈ eligible)) &&
    ids.length == min limit eligible.length

theorem chosen_mem {rows : List (Uuid × Finding)} {cutoff : Timestamp}
    {limit : ℕ} {ids : List Uuid} (h : chosen rows cutoff limit ids = true)
    {i : Uuid} (hi : i ∈ ids) :
    ∃ f, (i, f) ∈ rows ∧ expired cutoff f = true := by
  simp only [chosen, Bool.and_eq_true, List.all_eq_true,
    decide_eq_true_eq] at h
  obtain ⟨⟨j, f⟩, hmem, rfl⟩ := List.mem_map.mp (h.1.2 i hi)
  obtain ⟨hrow, hexp⟩ := List.mem_filter.mp hmem
  exact ⟨f, hrow, hexp⟩

end LeakcheckHub.Findings
