import Mathlib.Data.List.Basic
import Mathlib.Data.List.Nodup
import Mathlib.Data.Option.Basic

/-!
# Row versions under READ COMMITTED

A table row has one committed version and at most one uncommitted version,
owned by the transaction that holds the row lock. A statement of a
transaction sees its own version where it has one and the committed version
everywhere else, so each statement reads what was committed before it. That a
row has a single pending owner is the row lock; it is held until `commit`
installs the version or `rollback` drops it.

`Table` keeps the row identifiers it ever held in a list, so that a query
over the table can be executed.
-/

set_option linter.unusedSectionVars false

namespace LeakcheckHub.Foundation

/-! ## One row -/

/-- `pending = some (t, r)`: transaction `t` holds the row lock and will leave
the row as `r` (`none` deletes it). -/
structure Cell (Tx Row : Type) where
  committed : Option Row
  pending : Option (Tx × Option Row)

namespace Cell

variable {Tx Row : Type} [DecidableEq Tx] {t u : Tx} {c : Cell Tx Row}
  {r : Option Row}

def empty : Cell Tx Row := ⟨none, none⟩

/-- What a statement of `t` sees. -/
def read (t : Tx) (c : Cell Tx Row) : Option Row :=
  match c.pending with
  | some (o, r) => if o = t then r else c.committed
  | none => c.committed

def heldByOther (t : Tx) (c : Cell Tx Row) : Bool :=
  match c.pending with
  | some (o, _) => decide (o ≠ t)
  | none => false

def put (t : Tx) (r : Option Row) (c : Cell Tx Row) : Cell Tx Row :=
  { c with pending := some (t, r) }

def commit (t : Tx) (c : Cell Tx Row) : Cell Tx Row :=
  match c.pending with
  | some (o, r) => if o = t then ⟨r, none⟩ else c
  | none => c

def rollback (t : Tx) (c : Cell Tx Row) : Cell Tx Row :=
  match c.pending with
  | some (o, _) => if o = t then ⟨c.committed, none⟩ else c
  | none => c

@[simp] theorem read_empty : (empty : Cell Tx Row).read t = none := rfl

@[simp] theorem commit_empty : (empty : Cell Tx Row).commit t = empty := rfl

@[simp] theorem rollback_empty : (empty : Cell Tx Row).rollback t = empty := rfl

@[simp] theorem put_committed : (c.put t r).committed = c.committed := rfl

@[simp] theorem put_pending : (c.put t r).pending = some (t, r) := rfl

theorem read_put_other (h : t ≠ u) : (c.put t r).read u = c.committed := by
  simp [read, put, h]

theorem read_of_pending (h : c.pending = some (t, r)) : c.read t = r := by
  simp [read, h]

theorem read_of_unowned (h : ∀ r, c.pending ≠ some (t, r)) :
    c.read t = c.committed := by
  unfold read
  split
  · rename_i o r hp
    rw [if_neg]
    rintro rfl
    exact h r hp
  · rfl

/-- A transaction reads what it has pending, and the committed row where it
has nothing. -/
theorem read_cases (t : Tx) (c : Cell Tx Row) :
    (∃ r, c.pending = some (t, r) ∧ c.read t = r) ∨
      (∀ r, c.pending ≠ some (t, r)) ∧ c.read t = c.committed := by
  by_cases h : ∃ r, c.pending = some (t, r)
  · obtain ⟨r, hr⟩ := h
    exact .inl ⟨r, hr, read_of_pending hr⟩
  · rw [not_exists] at h
    exact .inr ⟨h, read_of_unowned h⟩

/-- A row that another transaction has locked is read as it is committed. -/
theorem read_of_locked (h : c.pending = some (u, r)) (hu : u ≠ t) :
    c.read t = c.committed := by
  apply read_of_unowned
  intro x hx
  rw [h, Option.some.injEq, Prod.mk.injEq] at hx
  exact hu hx.1

/-- Committing installs exactly what the transaction saw. -/
@[simp] theorem commit_committed : (c.commit t).committed = c.read t := by
  unfold commit read
  split
  · split <;> rfl
  · rfl

@[simp] theorem rollback_committed :
    (c.rollback t).committed = c.committed := by
  unfold rollback
  split
  · split <;> rfl
  · rfl

/-- Either end of a transaction drops the version it has pending. -/
theorem commit_pending : (c.commit t).pending = (c.rollback t).pending := by
  unfold commit rollback
  split
  · split <;> rfl
  · rfl

theorem rollback_pending_ne : (c.rollback t).pending ≠ some (t, r) := by
  unfold rollback
  split
  · rename_i o r' hp
    split
    · simp
    · rename_i hne
      rw [hp]
      simp [hne]
  · rename_i hp
    simp [hp]

theorem commit_pending_ne : (c.commit t).pending ≠ some (t, r) := by
  rw [commit_pending]
  exact rollback_pending_ne

/-- The end of `t` does not touch what another transaction has pending. -/
theorem rollback_pending_other (h : u ≠ t) :
    (c.rollback t).pending = some (u, r) ↔ c.pending = some (u, r) := by
  unfold rollback
  split
  · rename_i o r' hp
    split
    · rename_i ho
      simp [hp, ho, h.symm]
    · rfl
  · rfl

theorem commit_pending_other (h : u ≠ t) :
    (c.commit t).pending = some (u, r) ↔ c.pending = some (u, r) := by
  rw [commit_pending]
  exact rollback_pending_other h

/-- Another transaction's commit changes what `u` sees only where `u` has no
version of its own, and there to what the committing transaction saw. -/
theorem read_commit_other (h : u ≠ t) :
    (c.commit t).read u = c.read u ∨
      (∃ r, c.pending = some (t, r)) ∧ (c.commit t).read u = c.read t := by
  cases hp : c.pending with
  | none =>
      left
      simp [commit, hp]
  | some p =>
      obtain ⟨o, r⟩ := p
      by_cases ho : o = t
      · subst ho
        right
        refine ⟨⟨r, rfl⟩, ?_⟩
        simp [commit, read, hp]
      · left
        simp [commit, hp, ho]

@[simp] theorem read_rollback_other (h : u ≠ t) :
    (c.rollback t).read u = c.read u := by
  cases hp : c.pending with
  | none => simp [rollback, hp]
  | some p =>
      obtain ⟨o, r⟩ := p
      by_cases ho : o = t
      · simp [rollback, read, hp, ho, h.symm]
      · simp [rollback, hp, ho]

theorem heldByOther_eq_false :
    c.heldByOther t = false ↔ ∀ o r, c.pending = some (o, r) → o = t := by
  unfold heldByOther
  split
  · rename_i o r hp
    simp [hp]
  · rename_i hp
    simp [hp]

/-- A transaction does not wait for its own lock. -/
theorem heldByOther_of_pending (h : c.pending = some (t, r)) :
    c.heldByOther t = false := by
  rw [heldByOther_eq_false]
  intro o x ho
  rw [h, Option.some.injEq, Prod.mk.injEq] at ho
  exact ho.1.symm

end Cell

/-! ## A table of rows -/

structure Table (Id Tx Row : Type) where
  ids : List Id
  cell : Id → Cell Tx Row
  nodup : ids.Nodup
  absent : ∀ i, i ∉ ids → cell i = Cell.empty

namespace Table

variable {Id Tx Row : Type} [DecidableEq Id] [DecidableEq Tx]

def empty : Table Id Tx Row where
  ids := []
  cell := fun _ => Cell.empty
  nodup := List.nodup_nil
  absent := fun _ _ => rfl

instance : Inhabited (Table Id Tx Row) := ⟨empty⟩

/-- Replaces one row's versions; a new identifier enters the table. -/
def setCell (tb : Table Id Tx Row) (i : Id) (c : Cell Tx Row) :
    Table Id Tx Row where
  ids := tb.ids.insert i
  cell := fun j => if j = i then c else tb.cell j
  nodup := tb.nodup.insert
  absent := by
    intro j hj
    rw [List.mem_insert_iff, not_or] at hj
    rw [if_neg hj.1]
    exact tb.absent j hj.2

/-- Applies to every row a change that keeps an empty row empty. -/
def mapCells (tb : Table Id Tx Row) (f : Cell Tx Row → Cell Tx Row)
    (hf : f Cell.empty = Cell.empty) : Table Id Tx Row where
  ids := tb.ids
  cell := fun i => f (tb.cell i)
  nodup := tb.nodup
  absent := by
    intro i hi
    rw [tb.absent i hi, hf]

def read (tb : Table Id Tx Row) (t : Tx) (i : Id) : Option Row :=
  (tb.cell i).read t

def committedRow (tb : Table Id Tx Row) (i : Id) : Option Row :=
  (tb.cell i).committed

/-- The rows present under one way of looking at a cell, with their
identifiers. -/
def rowsBy (tb : Table Id Tx Row) (look : Cell Tx Row → Option Row) :
    List (Id × Row) :=
  tb.ids.filterMap fun i => (look (tb.cell i)).map (i, ·)

/-- The rows a statement of `t` sees. -/
def rows (tb : Table Id Tx Row) (t : Tx) : List (Id × Row) :=
  tb.rowsBy (Cell.read t)

def committedRows (tb : Table Id Tx Row) : List (Id × Row) :=
  tb.rowsBy Cell.committed

def put (tb : Table Id Tx Row) (t : Tx) (i : Id) (r : Option Row) :
    Table Id Tx Row :=
  tb.setCell i ((tb.cell i).put t r)

/-- A row committed by a transaction outside the modelled ones. -/
def insertCommitted (tb : Table Id Tx Row) (i : Id) (r : Row) :
    Table Id Tx Row :=
  tb.setCell i ⟨some r, none⟩

def commit (tb : Table Id Tx Row) (t : Tx) : Table Id Tx Row :=
  tb.mapCells (Cell.commit t) Cell.commit_empty

def rollback (tb : Table Id Tx Row) (t : Tx) : Table Id Tx Row :=
  tb.mapCells (Cell.rollback t) Cell.rollback_empty

/-- `UPDATE … WHERE id = i AND p`: no row, or one that does not satisfy `p`, is
skipped; a matching row locked by another transaction makes the statement
wait (`none`); otherwise the new version is written over the one the
statement sees. -/
def updateWhere (tb : Table Id Tx Row) (t : Tx) (i : Id) (p : Row → Bool)
    (f : Row → Row) : Option (Table Id Tx Row) :=
  match tb.read t i with
  | none => some tb
  | some r =>
      if p r then
        if (tb.cell i).heldByOther t then none
        else some (tb.put t i (some (f r)))
      else some tb

/-- Marks every row that `t` sees and `p` selects as deleted by `t`. -/
def deleteVisible (tb : Table Id Tx Row) (t : Tx) (p : Id → Row → Bool) :
    Table Id Tx Row where
  ids := tb.ids
  cell := fun i =>
    if (tb.read t i).any (p i) then (tb.cell i).put t none else tb.cell i
  nodup := tb.nodup
  absent := by
    intro i hi
    have hcell := tb.absent i hi
    rw [read, hcell, Cell.read_empty]
    rfl

/-- `DELETE … WHERE p`, which waits (`none`) for a selected row that another
transaction has locked. -/
def deleteWhere (tb : Table Id Tx Row) (t : Tx) (p : Id → Row → Bool) :
    Option (Table Id Tx Row) :=
  if tb.ids.any fun i =>
      (tb.read t i).any (p i) && (tb.cell i).heldByOther t then none
  else some (tb.deleteVisible t p)

variable {tb tb' : Table Id Tx Row} {t u : Tx} {i j : Id} {r : Option Row}

@[simp] theorem setCell_cell_self {c : Cell Tx Row} :
    (tb.setCell i c).cell i = c := if_pos rfl

theorem setCell_cell_ne {c : Cell Tx Row} (h : j ≠ i) :
    (tb.setCell i c).cell j = tb.cell j := if_neg h

@[simp] theorem commit_cell : (tb.commit t).cell i = (tb.cell i).commit t := rfl

@[simp] theorem rollback_cell :
    (tb.rollback t).cell i = (tb.cell i).rollback t := rfl

@[simp] theorem put_cell_self :
    (tb.put t i r).cell i = (tb.cell i).put t r := if_pos rfl

theorem put_cell_ne (h : j ≠ i) : (tb.put t i r).cell j = tb.cell j :=
  if_neg h

@[simp] theorem put_committedRow :
    (tb.put t i r).committedRow j = tb.committedRow j := by
  unfold committedRow
  by_cases h : j = i
  · subst h
    simp
  · rw [put_cell_ne h]

@[simp] theorem commit_committedRow :
    (tb.commit t).committedRow i = tb.read t i := by
  simp [committedRow, read]

@[simp] theorem rollback_committedRow :
    (tb.rollback t).committedRow i = tb.committedRow i := by
  simp [committedRow]

theorem mem_ids_of_committedRow {x : Row} (h : tb.committedRow i = some x) :
    i ∈ tb.ids := by
  by_contra hi
  rw [committedRow, tb.absent i hi] at h
  simp [Cell.empty] at h

theorem mem_ids_of_read {x : Row} (h : tb.read t i = some x) : i ∈ tb.ids := by
  by_contra hi
  rw [read, tb.absent i hi, Cell.read_empty] at h
  exact absurd h (by simp)

theorem mem_rows {x : Row} : (i, x) ∈ tb.rows t ↔ tb.read t i = some x := by
  simp only [rows, rowsBy, List.mem_filterMap, Option.map_eq_some_iff, Prod.mk.injEq]
  constructor
  · rintro ⟨j, -, y, hy, rfl, rfl⟩
    exact hy
  · intro h
    exact ⟨i, mem_ids_of_read h, x, h, rfl, rfl⟩

theorem mem_committedRows {x : Row} :
    (i, x) ∈ tb.committedRows ↔ tb.committedRow i = some x := by
  simp only [committedRows, rowsBy, List.mem_filterMap, Option.map_eq_some_iff,
    Prod.mk.injEq]
  constructor
  · rintro ⟨j, -, y, hy, rfl, rfl⟩
    exact hy
  · intro h
    exact ⟨i, mem_ids_of_committedRow h, x, h, rfl, rfl⟩

/-- After the commit of `t` everyone sees the table as `t` saw it. -/
@[simp] theorem commit_committedRows :
    (tb.commit t).committedRows = tb.rows t := by
  simp only [committedRows, rows, rowsBy, commit_cell, Cell.commit_committed]
  rfl

@[simp] theorem rollback_committedRows :
    (tb.rollback t).committedRows = tb.committedRows := by
  simp only [committedRows, rowsBy, rollback_cell, Cell.rollback_committed]
  rfl

theorem rollback_rows_other (h : u ≠ t) :
    (tb.rollback t).rows u = tb.rows u := by
  simp only [rows, rowsBy, rollback_cell, Cell.read_rollback_other h]
  rfl

/-- Counting rows is counting identifiers: a count depends on the versions of
a row only through the predicate. -/
theorem countP_rowsBy {look : Cell Tx Row → Option Row} (p : Row → Bool) :
    (tb.rowsBy look).countP (fun x => p x.2) =
      tb.ids.countP fun i => (look (tb.cell i)).any p := by
  unfold rowsBy
  rw [List.countP_filterMap]
  refine List.countP_congr fun i _ => ?_
  cases look (tb.cell i) <;> simp

/-- However a table is looked at, an identifier has one row. -/
theorem nodup_rowsBy (tb : Table Id Tx Row) (look : Cell Tx Row → Option Row) :
    ((tb.rowsBy look).map Prod.fst).Nodup := by
  have hsub : ((tb.rowsBy look).map Prod.fst).Sublist tb.ids := by
    unfold rowsBy
    rw [List.map_filterMap]
    have hsome : ∀ i, Option.map Prod.fst ((look (tb.cell i)).map (i, ·)) =
        if (look (tb.cell i)).isSome then some i else none := by
      intro i
      cases look (tb.cell i) with
      | none => rfl
      | some x => rfl
    simp only [hsome]
    induction tb.ids with
    | nil => exact List.Sublist.refl _
    | cons i ids ih =>
        rw [List.filterMap_cons]
        split
        · exact ih.cons i
        · rename_i j hj
          split at hj
          · cases hj
            exact ih.cons_cons i
          · cases hj
  exact hsub.nodup tb.nodup

theorem put_ids (h : i ∈ tb.ids) : (tb.put t i r).ids = tb.ids :=
  List.insert_of_mem h

theorem mem_put_ids (h : j ∈ tb.ids) : j ∈ (tb.put t i r).ids :=
  List.mem_insert_of_mem h

theorem put_committedRows (h : i ∈ tb.ids) :
    (tb.put t i r).committedRows = tb.committedRows := by
  unfold committedRows rowsBy
  rw [put_ids h]
  refine List.filterMap_congr fun j _ => ?_
  exact congrArg (Option.map (j, ·)) put_committedRow

theorem insertCommitted_cell_ne {x : Row} (h : j ≠ i) :
    (tb.insertCommitted i x).cell j = tb.cell j :=
  setCell_cell_ne h

theorem insertCommitted_ids {x : Row} (h : i ∉ tb.ids) :
    (tb.insertCommitted i x).ids = i :: tb.ids :=
  List.insert_of_not_mem h

/-- What a successful `updateWhere` did: nothing, for want of a row that
satisfies the condition, or one write under the row lock. -/
theorem updateWhere_cases {p : Row → Bool} {f : Row → Row}
    (h : tb.updateWhere t i p f = some tb') :
    (tb' = tb ∧ ∀ x, tb.read t i = some x → p x = false) ∨
    ∃ x, tb.read t i = some x ∧ p x = true ∧
      (tb.cell i).heldByOther t = false ∧ tb' = tb.put t i (some (f x)) := by
  unfold updateWhere at h
  split at h
  · rename_i hr
    rw [Option.some.injEq] at h
    exact .inl ⟨h.symm, fun x hx => by rw [hr] at hx; cases hx⟩
  · rename_i x hr
    split at h
    · rename_i hp
      split at h
      · cases h
      · rename_i hfree
        rw [Option.some.injEq] at h
        exact .inr ⟨x, hr, hp, by simpa using hfree, h.symm⟩
    · rename_i hp
      rw [Option.some.injEq] at h
      refine .inl ⟨h.symm, fun y hy => ?_⟩
      rw [hr, Option.some.injEq] at hy
      subst hy
      simpa using hp

theorem updateWhere_committedRow {p : Row → Bool} {f : Row → Row}
    (h : tb.updateWhere t i p f = some tb') :
    tb'.committedRow j = tb.committedRow j := by
  rcases updateWhere_cases h with ⟨rfl, -⟩ | ⟨x, -, -, -, rfl⟩
  · rfl
  · exact put_committedRow

theorem deleteWhere_spec {p : Id → Row → Bool}
    (h : tb.deleteWhere t p = some tb') :
    tb' = tb.deleteVisible t p ∧ ∀ i x, tb.read t i = some x → p i x = true →
      (tb.cell i).heldByOther t = false := by
  unfold deleteWhere at h
  split at h
  · cases h
  · rename_i hfree
    rw [Option.some.injEq] at h
    refine ⟨h.symm, ?_⟩
    intro i x hx hp
    rw [List.any_eq_true, not_exists] at hfree
    have hi := hfree i
    rw [hx, Option.any_some, hp, Bool.true_and] at hi
    cases hheld : (tb.cell i).heldByOther t with
    | false => rfl
    | true => exact absurd ⟨mem_ids_of_read hx, hheld⟩ hi

theorem deleteVisible_cell_of_match {p : Id → Row → Bool} {x : Row}
    (hx : tb.read t i = some x) (hp : p i x = true) :
    (tb.deleteVisible t p).cell i = (tb.cell i).put t none := by
  refine if_pos ?_
  rw [hx, Option.any_some, hp]

theorem deleteVisible_cell_of_no_match {p : Id → Row → Bool}
    (h : ∀ x, tb.read t i = some x → p i x = false) :
    (tb.deleteVisible t p).cell i = tb.cell i := by
  refine if_neg ?_
  cases hx : tb.read t i with
  | none => simp
  | some x =>
      rw [Option.any_some, h x hx]
      decide

@[simp] theorem deleteVisible_committedRow {p : Id → Row → Bool} :
    (tb.deleteVisible t p).committedRow i = tb.committedRow i := by
  simp only [committedRow, deleteVisible]
  split <;> rfl

/-- A delete takes only rows that no other transaction holds. -/
theorem deleteWhere_pending_other {p : Id → Row → Bool}
    (h : tb.deleteWhere t p = some tb') (hu : u ≠ t) :
    (tb'.cell i).pending = some (u, r) ↔ (tb.cell i).pending = some (u, r) := by
  obtain ⟨rfl, hfree⟩ := deleteWhere_spec h
  by_cases hm : ∃ x, tb.read t i = some x ∧ p i x = true
  · obtain ⟨x, hx, hp⟩ := hm
    rw [deleteVisible_cell_of_match hx hp, Cell.put_pending]
    constructor
    · intro heq
      rw [Option.some.injEq, Prod.mk.injEq] at heq
      exact absurd heq.1.symm hu
    · intro hpend
      exact absurd (Cell.heldByOther_eq_false.mp (hfree i x hx hp) u r hpend) hu
  · rw [deleteVisible_cell_of_no_match]
    intro x hx
    cases hpx : p i x with
    | false => rfl
    | true => exact absurd ⟨x, hx, hpx⟩ hm

/-- Writing a row under its lock takes nothing from the others. -/
theorem put_pending_other {x : Option Row} (hu : u ≠ t)
    (hfree : (tb.cell i).heldByOther t = false) :
    ((tb.put t i r).cell j).pending = some (u, x) ↔
      (tb.cell j).pending = some (u, x) := by
  by_cases hj : j = i
  · subst hj
    rw [put_cell_self, Cell.put_pending]
    constructor
    · intro h
      rw [Option.some.injEq, Prod.mk.injEq] at h
      exact absurd h.1.symm hu
    · intro h
      exact absurd (Cell.heldByOther_eq_false.mp hfree u x h) hu
  · rw [put_cell_ne hj]

/-! ### Locking what is free -/

/-- The row that `t` sees where no other transaction has it locked. -/
def freeRow (tb : Table Id Tx Row) (t : Tx) (i : Id) : Option Row :=
  if (tb.cell i).heldByOther t then none else tb.read t i

def freeRows (tb : Table Id Tx Row) (t : Tx) : List (Id × Row) :=
  tb.ids.filterMap fun i => (tb.freeRow t i).map (i, ·)

/-- `SELECT … WHERE p FOR UPDATE SKIP LOCKED`, as far as locks go. -/
def lockFree (tb : Table Id Tx Row) (t : Tx) (p : Row → Bool) :
    Table Id Tx Row where
  ids := tb.ids
  cell := fun i =>
    match (tb.freeRow t i).filter p with
    | some r => (tb.cell i).put t (some r)
    | none => tb.cell i
  nodup := tb.nodup
  absent := by
    intro i hi
    have hcell := tb.absent i hi
    rw [freeRow, read, hcell, Cell.read_empty, ite_self]
    rfl

theorem mem_freeRows {x : Row} :
    (i, x) ∈ tb.freeRows t ↔ tb.freeRow t i = some x := by
  simp only [freeRows, List.mem_filterMap, Option.map_eq_some_iff, Prod.mk.injEq]
  constructor
  · rintro ⟨j, -, y, hy, rfl, rfl⟩
    exact hy
  · intro h
    refine ⟨i, ?_, x, h, rfl, rfl⟩
    unfold freeRow at h
    split at h
    · cases h
    · exact mem_ids_of_read h

theorem freeRow_eq_some {x : Row} :
    tb.freeRow t i = some x ↔
      (tb.cell i).heldByOther t = false ∧ tb.read t i = some x := by
  unfold freeRow
  cases (tb.cell i).heldByOther t with
  | false => simp
  | true => simp

theorem nodup_freeRows : ((tb.freeRows t).map Prod.fst).Nodup :=
  tb.nodup_rowsBy fun c => if c.heldByOther t then none else c.read t

theorem lockFree_cell (tb : Table Id Tx Row) (t : Tx) (i : Id)
    (p : Row → Bool) :
    (∃ x, tb.freeRow t i = some x ∧ p x = true ∧
      (tb.lockFree t p).cell i = (tb.cell i).put t (some x)) ∨
    ((∀ x, tb.freeRow t i = some x → p x = false) ∧
      (tb.lockFree t p).cell i = tb.cell i) := by
  simp only [lockFree]
  cases hfree : tb.freeRow t i with
  | none => exact .inr ⟨nofun, rfl⟩
  | some x =>
      cases hp : p x with
      | true =>
          refine .inl ⟨x, rfl, hp, ?_⟩
          rw [Option.filter_some, if_pos hp]
      | false =>
          refine .inr ⟨?_, ?_⟩
          · intro y hy
            rw [Option.some.injEq] at hy
            exact hy ▸ hp
          · rw [Option.filter_some, if_neg (Bool.eq_false_iff.mp hp)]

@[simp] theorem lockFree_committedRow {p : Row → Bool} :
    (tb.lockFree t p).committedRow i = tb.committedRow i := by
  unfold committedRow
  rcases lockFree_cell tb t i p with ⟨x, -, -, hcell⟩ | ⟨-, hcell⟩
  · rw [hcell, Cell.put_committed]
  · rw [hcell]

theorem lockFree_pending_other {p : Row → Bool} (hu : u ≠ t) :
    ((tb.lockFree t p).cell i).pending = some (u, r) ↔
      (tb.cell i).pending = some (u, r) := by
  rcases lockFree_cell tb t i p with ⟨x, hx, -, hcell⟩ | ⟨-, hcell⟩
  · rw [hcell, Cell.put_pending]
    constructor
    · intro h
      rw [Option.some.injEq, Prod.mk.injEq] at h
      exact absurd h.1.symm hu
    · intro h
      have hheld := (freeRow_eq_some.mp hx).1
      exact absurd (Cell.heldByOther_eq_false.mp hheld u r h) hu
  · rw [hcell]

/-- No row of the table is locked. -/
def Unlocked (tb : Table Id Tx Row) : Prop :=
  ∀ i p, (tb.cell i).pending ≠ some p

/-- A table between transactions. -/
def ofRows (ids : List Id) (row : Id → Option Row) (hids : ids.Nodup)
    (hrow : ∀ i, i ∉ ids → row i = none) : Table Id Tx Row where
  ids := ids
  cell := fun i => ⟨row i, none⟩
  nodup := hids
  absent := by
    intro i hi
    rw [hrow i hi]
    rfl

theorem unlocked_ofRows {ids : List Id} {row : Id → Option Row}
    (hids : ids.Nodup) (hrow : ∀ i, i ∉ ids → row i = none) :
    (ofRows ids row hids hrow : Table Id Tx Row).Unlocked := by
  intro i p hp
  cases hp

theorem unlocked_empty : (empty : Table Id Tx Row).Unlocked := by
  intro i p hp
  cases hp

theorem Unlocked.insertCommitted (h : tb.Unlocked) {x : Row} :
    (tb.insertCommitted i x).Unlocked := by
  intro j p
  by_cases hj : j = i
  · subst hj
    rw [Table.insertCommitted, setCell_cell_self]
    exact Option.some_ne_none p |>.symm
  · rw [insertCommitted_cell_ne hj]
    exact h j p

/-! ### Without open transactions -/

theorem Unlocked.freeRow (h : tb.Unlocked) :
    tb.freeRow t i = tb.committedRow i := by
  have hnone : ∀ o r, (tb.cell i).pending ≠ some (o, r) := fun o r => h i (o, r)
  have hfree : (tb.cell i).heldByOther t = false :=
    Cell.heldByOther_eq_false.mpr fun o r ho => absurd ho (hnone o r)
  unfold Table.freeRow
  rw [hfree]
  exact Cell.read_of_unowned (hnone t)

theorem Unlocked.freeRows (h : tb.Unlocked) :
    tb.freeRows t = tb.committedRows := by
  unfold Table.freeRows committedRows rowsBy
  refine List.filterMap_congr fun i _ => ?_
  rw [h.freeRow]
  rfl

theorem Unlocked.rollback (h : tb.Unlocked) : (tb.rollback t).Unlocked := by
  rintro i ⟨o, r⟩ hp
  rw [rollback_cell] at hp
  by_cases ho : o = t
  · exact Cell.rollback_pending_ne (ho ▸ hp)
  · exact h i (o, r) ((Cell.rollback_pending_other ho).mp hp)

/-- A transaction on its own leaves no lock behind when it rolls back. -/
theorem Unlocked.put_rollback (h : tb.Unlocked) :
    ((tb.put t i r).rollback t).Unlocked := by
  rintro j ⟨o, x⟩ hp
  rw [rollback_cell] at hp
  by_cases ho : o = t
  · exact Cell.rollback_pending_ne (ho ▸ hp)
  · rw [Cell.rollback_pending_other ho] at hp
    by_cases hj : j = i
    · rw [hj, put_cell_self, Cell.put_pending, Option.some.injEq,
        Prod.mk.injEq] at hp
      exact ho hp.1.symm
    · rw [put_cell_ne hj] at hp
      exact h j (o, x) hp

theorem Unlocked.put_commit (h : tb.Unlocked) :
    ((tb.put t i r).commit t).Unlocked := by
  intro j p hp
  rw [commit_cell, Cell.commit_pending, ← rollback_cell] at hp
  exact h.put_rollback j p hp

theorem eq_of_cells (hids : tb.ids = tb'.ids) (hcell : tb.cell = tb'.cell) :
    tb = tb' := by
  cases tb
  cases tb'
  cases hids
  cases hcell
  rfl

/-- The later of two writes is the one that counts. -/
theorem put_put {x : Option Row} : (tb.put t i r).put t i x = tb.put t i x := by
  apply eq_of_cells
  · exact List.insert_of_mem List.mem_insert_self
  · funext j
    by_cases hj : j = i
    · rw [hj, put_cell_self, put_cell_self, put_cell_self]
      rfl
    · rw [put_cell_ne hj, put_cell_ne hj, put_cell_ne hj]

/-- What one write and its commit leave. -/
theorem Unlocked.put_commit_row (h : tb.Unlocked) :
    ((tb.put t i r).commit t).committedRow j =
      if j = i then r else tb.committedRow j := by
  rw [commit_committedRow, read]
  split
  · rename_i hj
    rw [hj, put_cell_self]
    exact Cell.read_of_pending Cell.put_pending
  · rename_i hj
    rw [put_cell_ne hj]
    exact Cell.read_of_unowned fun x => h j (t, x)

end Table

end LeakcheckHub.Foundation
