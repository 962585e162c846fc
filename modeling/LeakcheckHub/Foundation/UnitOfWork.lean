import Mathlib.Data.List.Basic

/-!
# Units of work

A program that runs in one transaction, with a journal among its tables: its
statements act on the tables or raise, it appends entries to the journal, and
it may commit on its way. It is committed when it returns and rolled back to
its last commit when it ends in an exception.

§1 programs · §2 outcomes · §3 when exceptions leave the journal alone ·
§4 programs without a commit of their own.
-/

namespace LeakcheckHub.Foundation

/-! ## §1  Programs -/

/-- An open transaction: what was committed last, and what its own statements
see. -/
structure UnitOfWork (World Entry : Type) where
  saved : World × List Entry
  world : World
  journal : List Entry

/-- A program in a transaction, which returns or raises. -/
def Work (Err World Entry α : Type) : Type :=
  UnitOfWork World Entry → Except Err α × UnitOfWork World Entry

namespace Work

variable {Err World Entry α β : Type}

instance : Monad (Work Err World Entry) where
  pure a := fun u => (.ok a, u)
  bind h k := fun u =>
    match h u with
    | (.ok a, u') => k a u'
    | (.error e, u') => (.error e, u')

def raise (e : Err) : Work Err World Entry α := fun u => (.error e, u)

/-- A statement on the tables; one that raises leaves them as they were. -/
def statement (f : World → Except Err (α × World)) :
    Work Err World Entry α := fun u =>
  match f u.world with
  | .ok (a, world) => (.ok a, { u with world })
  | .error e => (.error e, u)

/-- Appends to the journal, unless `refuses` has an objection. -/
def note (refuses : List Entry → Option Err) (entry : Entry) :
    Work Err World Entry Unit := fun u =>
  match refuses u.journal with
  | some e => (.error e, u)
  | none => (.ok (), { u with journal := u.journal ++ [entry] })

def commit : Work Err World Entry Unit := fun u =>
  (.ok (), { u with saved := (u.world, u.journal) })

/-- `try … except`, for the exceptions that `handler` knows. -/
def catching (h : Work Err World Entry α)
    (handler : Err → Option (Work Err World Entry α)) :
    Work Err World Entry α := fun u =>
  match h u with
  | (.ok a, u') => (.ok a, u')
  | (.error e, u') =>
      match handler e with
      | some k => k u'
      | none => (.error e, u')

def start (saved : World × List Entry) : UnitOfWork World Entry :=
  ⟨saved, saved.1, saved.2⟩

/-- Commits what returns and rolls back what raises. -/
def run (h : Work Err World Entry α) (saved : World × List Entry) :
    Except Err α × (World × List Entry) :=
  match h (start saved) with
  | (.ok a, u) => (.ok a, (u.world, u.journal))
  | (.error e, u) => (.error e, u.saved)

/-- What the program appended to the journal, kept or not. -/
def appended (h : Work Err World Entry α) (saved : World × List Entry) :
    List Entry :=
  (h (start saved)).2.journal.drop saved.2.length

/-! ## §2  Outcomes -/

variable {h : Work Err World Entry α} {k : α → Work Err World Entry β}
  {u u' : UnitOfWork World Entry} {saved after : World × List Entry}
  {a : α} {b : β} {e : Err} {P : Err → Prop}

theorem bind_apply : (h >>= k) u =
    match h u with
    | (.ok a, u') => k a u'
    | (.error e, u') => (.error e, u') := rfl

theorem bind_ok : (h >>= k) u = (.ok b, u') ↔
    ∃ a v, h u = (.ok a, v) ∧ k a v = (.ok b, u') := by
  rw [bind_apply]
  rcases h u with ⟨_ | a, v⟩
  · simp
  · simp

theorem bind_error : (h >>= k) u = (.error e, u') ↔
    h u = (.error e, u') ∨ ∃ a v, h u = (.ok a, v) ∧ k a v = (.error e, u') := by
  rw [bind_apply]
  rcases h u with ⟨_ | a, v⟩
  · simp
  · simp

theorem statement_ok {f : World → Except Err (α × World)} :
    (statement f : Work Err World Entry α) u = (.ok a, u') ↔
      ∃ world, f u.world = .ok (a, world) ∧ u' = { u with world } := by
  unfold statement
  rcases hf : f u.world with _ | ⟨a', world⟩
  · simp
  · simp only [Prod.mk.injEq, Except.ok.injEq]
    constructor
    · rintro ⟨rfl, rfl⟩
      exact ⟨world, ⟨rfl, rfl⟩, rfl⟩
    · rintro ⟨world', ⟨rfl, rfl⟩, rfl⟩
      exact ⟨rfl, rfl⟩

theorem note_ok {refuses : List Entry → Option Err} {entry : Entry} {x : Unit} :
    (note refuses entry : Work Err World Entry Unit) u = (.ok x, u') ↔
      refuses u.journal = none ∧
        u' = { u with journal := u.journal ++ [entry] } := by
  unfold note
  cases refuses u.journal with
  | none => simp [eq_comm]
  | some e => simp

theorem catching_ok {handler : Err → Option (Work Err World Entry α)} :
    catching h handler u = (.ok a, u') ↔
      h u = (.ok a, u') ∨
        ∃ e v k, h u = (.error e, v) ∧ handler e = some k ∧
          k v = (.ok a, u') := by
  unfold catching
  rcases h u with ⟨e | a', v⟩
  · cases hk : handler e with
    | none => simp [hk]
    | some k => simp [hk]
  · simp

theorem run_ok : run h saved = (.ok a, after) ↔
    ∃ u, h (start saved) = (.ok a, u) ∧ after = (u.world, u.journal) := by
  unfold run
  rcases h (start saved) with ⟨_ | a', v⟩
  · simp
  · simp only [Prod.mk.injEq, Except.ok.injEq]
    constructor
    · rintro ⟨rfl, rfl⟩
      exact ⟨v, ⟨rfl, rfl⟩, rfl⟩
    · rintro ⟨u, ⟨rfl, rfl⟩, rfl⟩
      exact ⟨rfl, rfl⟩

theorem run_error : run h saved = (.error e, after) ↔
    ∃ u, h (start saved) = (.error e, u) ∧ after = u.saved := by
  unfold run
  rcases h (start saved) with ⟨e' | _, v⟩
  · simp only [Prod.mk.injEq, Except.error.injEq]
    constructor
    · rintro ⟨rfl, rfl⟩
      exact ⟨v, ⟨rfl, rfl⟩, rfl⟩
    · rintro ⟨u, ⟨rfl, rfl⟩, rfl⟩
      exact ⟨rfl, rfl⟩
  · simp

/-- What a program appended before it returned is kept. -/
theorem appended_kept (hrun : run h saved = (.ok a, after)) :
    ∀ entry ∈ appended h saved, entry ∈ after.2 := by
  obtain ⟨u, hu, rfl⟩ := run_ok.mp hrun
  intro entry hentry
  rw [appended, hu] at hentry
  exact List.mem_of_mem_drop hentry

/-! ## §3  Exceptions before the first entry -/

/-- The program leaves the journal as it is. -/
def Silent (h : Work Err World Entry α) : Prop :=
  ∀ u, (h u).2.journal = u.journal

/-- The program raises no exception of a kind. -/
def Avoids (P : Err → Prop) (h : Work Err World Entry α) : Prop :=
  ∀ u e u', h u = (.error e, u') → ¬ P e

/-- The program raises exceptions of a kind only with the journal as it was. -/
def RaisesFirst (P : Err → Prop) (h : Work Err World Entry α) : Prop :=
  ∀ u e u', h u = (.error e, u') → P e → u'.journal = u.journal

theorem Silent.raisesFirst (hs : Silent h) : RaisesFirst P h := by
  intro u e u' hu _
  have hjournal := hs u
  rw [hu] at hjournal
  exact hjournal

theorem Avoids.raisesFirst (ha : Avoids P h) : RaisesFirst P h := by
  intro u e u' hu hP
  exact absurd hP (ha u e u' hu)

theorem Silent.pure : Silent (pure a : Work Err World Entry α) := fun _ => rfl

theorem Silent.raise : Silent (raise e : Work Err World Entry α) := fun _ => rfl

theorem Silent.statement {f : World → Except Err (α × World)} :
    Silent (statement f : Work Err World Entry α) := by
  intro u
  unfold Work.statement
  split <;> rfl

theorem Silent.bind (hs : Silent h) (hk : ∀ a, Silent (k a)) :
    Silent (h >>= k) := by
  intro u
  have hjournal := hs u
  rw [bind_apply]
  rcases hcall : h u with ⟨_ | a, v⟩
  · rw [hcall] at hjournal
    exact hjournal
  · rw [hcall] at hjournal
    exact (hk a v).trans hjournal

theorem Silent.catching (hs : Silent h)
    {handler : Err → Option (Work Err World Entry α)}
    (hk : ∀ e k, handler e = some k → Silent k) :
    Silent (Work.catching h handler) := by
  intro u
  have hjournal := hs u
  unfold Work.catching
  rcases hcall : h u with ⟨e | a, v⟩
  · rw [hcall] at hjournal
    cases hcatch : handler e with
    | none =>
        simp only [hcatch]
        exact hjournal
    | some k =>
        simp only [hcatch]
        exact (hk e k hcatch v).trans hjournal
  · rw [hcall] at hjournal
    exact hjournal

theorem Avoids.pure : Avoids P (pure a : Work Err World Entry α) := by
  intro u e u' hu
  cases hu

theorem Avoids.commit : Avoids P (commit : Work Err World Entry Unit) := by
  intro u e u' hu
  cases hu

theorem Avoids.statement {f : World → Except Err (α × World)}
    (hf : ∀ world e, f world = .error e → ¬ P e) :
    Avoids P (statement f : Work Err World Entry α) := by
  intro u e u' hu
  unfold Work.statement at hu
  split at hu
  · cases hu
  · rename_i e' he'
    cases hu
    exact hf _ _ he'

theorem Avoids.note {refuses : List Entry → Option Err} {entry : Entry}
    (hr : ∀ journal e, refuses journal = some e → ¬ P e) :
    Avoids P (note refuses entry : Work Err World Entry Unit) := by
  intro u e u' hu
  unfold Work.note at hu
  split at hu
  · rename_i e' he'
    cases hu
    exact hr _ _ he'
  · cases hu

theorem Avoids.bind (ha : Avoids P h) (hk : ∀ a, Avoids P (k a)) :
    Avoids P (h >>= k) := by
  intro u e u' hu
  rcases bind_error.mp hu with hu | ⟨a, v, -, hu⟩
  · exact ha _ _ _ hu
  · exact hk a _ _ _ hu

theorem Avoids.catching (ha : Avoids P h)
    {handler : Err → Option (Work Err World Entry α)}
    (hk : ∀ e k, handler e = some k → Avoids P k) :
    Avoids P (Work.catching h handler) := by
  intro u e u' hu
  unfold Work.catching at hu
  rcases hcall : h u with ⟨e' | a, v⟩
  · rw [hcall] at hu
    cases hcatch : handler e' with
    | none =>
        simp only [hcatch] at hu
        cases hu
        exact ha _ _ _ hcall
    | some k =>
        simp only [hcatch] at hu
        exact hk e' k hcatch _ _ _ hu
  · rw [hcall] at hu
    cases hu

/-- Nothing was appended yet when the rest begins. -/
theorem Silent.then (hs : Silent h) (hk : ∀ a, RaisesFirst P (k a)) :
    RaisesFirst P (h >>= k) := by
  intro u e u' hu hP
  rcases bind_error.mp hu with hu | ⟨a, v, ha, hu⟩
  · exact hs.raisesFirst _ _ _ hu hP
  · have hjournal := hs u
    rw [ha] at hjournal
    rw [hk a _ _ _ hu hP]
    exact hjournal

/-- Once the rest begins no such exception comes. -/
theorem RaisesFirst.then (hr : RaisesFirst P h) (hk : ∀ a, Avoids P (k a)) :
    RaisesFirst P (h >>= k) := by
  intro u e u' hu hP
  rcases bind_error.mp hu with hu | ⟨a, v, ha, hu⟩
  · exact hr _ _ _ hu hP
  · exact absurd hP (hk a _ _ _ hu)

/-- **Durable entries.** A program that raises exceptions of a kind only
before its first entry keeps every entry when it returns or raises one. -/
theorem RaisesFirst.durable (hr : RaisesFirst P h)
    (hends : ∀ e, (run h saved).1 = .error e → P e) :
    ∀ entry ∈ appended h saved, entry ∈ (run h saved).2.2 := by
  rcases hrun : run h saved with ⟨e | a, after⟩
  · obtain ⟨u, hu, rfl⟩ := run_error.mp hrun
    have hP : P e := hends e (by rw [hrun])
    have hjournal := hr _ _ _ hu hP
    intro entry hentry
    rw [appended, hu, hjournal] at hentry
    have hnone : (start saved : UnitOfWork World Entry).journal.drop
        saved.2.length = [] := List.drop_length
    rw [hnone] at hentry
    cases hentry
  · exact appended_kept hrun

/-! ## §4  Programs without a commit of their own -/

/-- The program does not commit on its way. -/
def Whole (h : Work Err World Entry α) : Prop :=
  ∀ u, (h u).2.saved = u.saved

theorem Whole.pure : Whole (pure a : Work Err World Entry α) := fun _ => rfl

theorem Whole.raise : Whole (raise e : Work Err World Entry α) := fun _ => rfl

theorem Whole.statement {f : World → Except Err (α × World)} :
    Whole (statement f : Work Err World Entry α) := by
  intro u
  unfold Work.statement
  cases f u.world <;> rfl

theorem Whole.note {refuses : List Entry → Option Err} {entry : Entry} :
    Whole (note refuses entry : Work Err World Entry Unit) := by
  intro u
  unfold Work.note
  cases refuses u.journal <;> rfl

theorem Whole.bind (hw : Whole h) (hk : ∀ a, Whole (k a)) : Whole (h >>= k) := by
  intro u
  have hsaved := hw u
  rw [bind_apply]
  rcases hcall : h u with ⟨_ | a, v⟩
  · rw [hcall] at hsaved
    exact hsaved
  · rw [hcall] at hsaved
    exact (hk a v).trans hsaved

/-- **Atomicity.** What raises leaves everything as it was. -/
theorem Whole.rolled_back (hw : Whole h) (hrun : run h saved = (.error e, after)) :
    after = saved := by
  obtain ⟨u, hu, rfl⟩ := run_error.mp hrun
  have hsaved := hw (start saved)
  rw [hu] at hsaved
  exact hsaved

end Work

end LeakcheckHub.Foundation
