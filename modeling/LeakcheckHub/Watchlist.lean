import LeakcheckHub.Foundation.RowVersions
import LeakcheckHub.Foundation.System
import LeakcheckHub.Outbox.Watchlist
import Mathlib.Data.List.Nodup
import Mathlib.Data.List.Perm.Subperm
import Mathlib.Logic.Function.Basic

/-!
# Edits of the watchlist

The routes of `app/routers/watchlist.py` that write, one SQL statement at a
time: any number of requests add, remove and toggle entries, each in a
transaction that may end in an exception at any point and is then rolled back.
What they leave is what their changes leave one after another, in the order of
the commits; only a removal may come a second time.

§1 entries · §2 one change after another · §3 requests · §4 what a step does ·
§5 locks and versions · §6 the law · §7 what the alerts read.
-/

set_option linter.unusedSectionVars false

namespace LeakcheckHub.Watchlist

open Foundation Outbox

/-! ## §1  Entries -/

/-- `_CHANNELS`. -/
inductive Channel where
  | alertSoc
  | alertUser
  | alertWazuh
  | alertIris
  | enabled
deriving DecidableEq, Repr

/-- A row with its one target, a user or a subject. -/
structure Entry where
  target : Uuid ⊕ Uuid
  alertSoc : Bool
  alertUser : Bool
  alertWazuh : Bool
  alertIris : Bool
  enabled : Bool
  createdBy : Uuid
deriving DecidableEq, Repr

/-- The `setattr` of `toggle_watchlist_channel`. -/
def Entry.toggle (entry : Entry) : Channel → Entry
  | .alertSoc => { entry with alertSoc := !entry.alertSoc }
  | .alertUser => { entry with alertUser := !entry.alertUser }
  | .alertWazuh => { entry with alertWazuh := !entry.alertWazuh }
  | .alertIris => { entry with alertIris := !entry.alertIris }
  | .enabled => { entry with enabled := !entry.enabled }

@[simp] theorem Entry.toggle_target (entry : Entry) (channel : Channel) :
    (entry.toggle channel).target = entry.target := by
  cases channel <;> rfl

/-- What a request that commits has done. -/
inductive Change where
  | created (entryId : Uuid) (entry : Entry)
  | deleted (entryId : Uuid)
  | toggled (entryId : Uuid) (channel : Channel)
deriving DecidableEq, Repr

def Change.entryId : Change → Uuid
  | .created i _ => i
  | .deleted i => i
  | .toggled i _ => i

/-! ## §2  One change after another -/

/-- The rows that changes leave one after another. An id is given once, a
target has one entry, a toggle finds its entry; a removal may find that it was
removed before. -/
inductive Serial : List Change → (Uuid → Option Entry) → Prop
  | empty : Serial [] fun _ => none
  | created {log : List Change} {rows : Uuid → Option Entry} (i : Uuid)
      (entry : Entry) (h : Serial log rows)
      (hfresh : ∀ e, .created i e ∉ log)
      (htarget : ∀ j e, rows j = some e → e.target ≠ entry.target) :
      Serial (log ++ [.created i entry]) (Function.update rows i (some entry))
  | deleted {log : List Change} {rows : Uuid → Option Entry} (i : Uuid)
      (h : Serial log rows) (hcreated : ∃ e, .created i e ∈ log) :
      Serial (log ++ [.deleted i]) (Function.update rows i none)
  | toggled {log : List Change} {rows : Uuid → Option Entry} (i : Uuid)
      (channel : Channel) (entry : Entry) (h : Serial log rows)
      (hrow : rows i = some entry) :
      Serial (log ++ [.toggled i channel])
        (Function.update rows i (some (entry.toggle channel)))

variable {log : List Change} {rows : Uuid → Option Entry}

/-- A row was created. -/
theorem Serial.created_of_row (h : Serial log rows) :
    ∀ {i e}, rows i = some e → ∃ e', .created i e' ∈ log := by
  induction h with
  | empty =>
      intro i e hi
      cases hi
  | created i' entry _ _ _ ih =>
      intro i e hi
      by_cases hii : i = i'
      · subst hii
        exact ⟨entry, List.mem_append_right _ (List.mem_singleton_self _)⟩
      · rw [Function.update_of_ne hii] at hi
        obtain ⟨e', he'⟩ := ih hi
        exact ⟨e', List.mem_append_left _ he'⟩
  | deleted i' _ _ ih =>
      intro i e hi
      by_cases hii : i = i'
      · subst hii
        rw [Function.update_self] at hi
        cases hi
      · rw [Function.update_of_ne hii] at hi
        obtain ⟨e', he'⟩ := ih hi
        exact ⟨e', List.mem_append_left _ he'⟩
  | @toggled log rows i' channel entry _ hrow ih =>
      intro i e hi
      have hbefore : ∃ e₀, rows i = some e₀ := by
        by_cases hii : i = i'
        · exact ⟨entry, hii ▸ hrow⟩
        · rw [Function.update_of_ne hii] at hi
          exact ⟨e, hi⟩
      obtain ⟨e₀, he₀⟩ := hbefore
      obtain ⟨e', he'⟩ := ih he₀
      exact ⟨e', List.mem_append_left _ he'⟩

/-! ## §3  Requests -/

/-- Where a request stands. -/
inductive Stage where
  | idle
  /-- Its target has no entry that it can see. -/
  | adding (entry : Entry)
  /-- The entry is there. -/
  | removing (entryId : Uuid)
  /-- Written, with its audit event. -/
  | done (change : Change)
deriving DecidableEq, Repr

/-- `log` has what was committed, in the order of the commits. -/
structure State (Tx : Type) where
  entries : Table Uuid Tx Entry
  stage : Tx → Stage
  log : List Change

inductive Action (Tx : Type) where
  /-- `add_watchlist_entry`, up to its check for a duplicate. -/
  | add (w : Tx) (entry : Entry)
  /-- Its `INSERT`, with the id that `uuid4` draws. -/
  | insert (w : Tx) (entryId : Uuid)
  /-- `remove_watchlist_entry`, up to its check that the entry exists. -/
  | remove (w : Tx) (entryId : Uuid)
  /-- Its `DELETE`. -/
  | delete (w : Tx)
  /-- `toggle_watchlist_channel`, with its `SELECT … FOR UPDATE`. -/
  | toggle (w : Tx) (entryId : Uuid) (channel : Channel)
  | commit (w : Tx)
  /-- An exception. -/
  | abort (w : Tx)

variable {Tx : Type}

/-- A version of the row, committed or not, has this target. -/
def hasTarget (target : Uuid ⊕ Uuid) (c : Cell Tx Entry) : Bool :=
  c.committed.any (fun e => decide (e.target = target)) ||
    c.pending.any fun p => p.2.any fun e => decide (e.target = target)

namespace State

variable [DecidableEq Tx]

def setStage (s : State Tx) (w : Tx) (stage : Stage) : State Tx :=
  { s with stage := Function.update s.stage w stage }

def abort (s : State Tx) (w : Tx) : State Tx :=
  { s.setStage w .idle with entries := s.entries.rollback w }

/-- A write waits for the lock of its row. -/
def write (s : State Tx) (w : Tx) (row : Option Entry) (change : Change) :
    Option (State Tx) :=
  if (s.entries.cell change.entryId).heldByOther w then none
  else some { s.setStage w (.done change) with
    entries := s.entries.put w change.entryId row }

/-- The rows that stand in the way of an `INSERT`, by the unique constraints. -/
def conflicts (s : State Tx) (target : Uuid ⊕ Uuid) : List Uuid :=
  s.entries.ids.filter fun i => hasTarget target (s.entries.cell i)

def commit (s : State Tx) (w : Tx) (change : Change) : State Tx :=
  { s.setStage w .idle with
    entries := s.entries.commit w
    log := s.log ++ [change] }

def step (s : State Tx) : Action Tx → Option (State Tx)
  | .add w entry =>
      match s.stage w with
      | .idle =>
          if (s.entries.rows w).any fun x => decide (x.2.target = entry.target) then
            some (s.abort w)
          else some (s.setStage w (.adding entry))
      | _ => none
  | .insert w entryId =>
      match s.stage w with
      | .adding entry =>
          -- a conflict that is not committed yet is waited for
          if (s.entries.cell entryId).heldByOther w then none
          else if (s.entries.read w entryId).isSome then some (s.abort w)
          else if (s.conflicts entry.target).any fun i =>
              (s.entries.cell i).heldByOther w then none
          else if (s.conflicts entry.target).isEmpty then
            s.write w (some entry) (.created entryId entry)
          else some (s.abort w)
      | _ => none
  | .remove w entryId =>
      match s.stage w with
      | .idle =>
          match s.entries.read w entryId with
          | none => some (s.abort w)
          | some _ => some (s.setStage w (.removing entryId))
      | _ => none
  | .delete w =>
      match s.stage w with
      | .removing entryId =>
          match s.entries.read w entryId with
          | none => some (s.setStage w (.done (.deleted entryId)))
          | some _ => s.write w none (.deleted entryId)
      | _ => none
  | .toggle w entryId channel =>
      match s.stage w with
      | .idle =>
          match s.entries.read w entryId with
          | none => some (s.abort w)
          | some entry =>
              s.write w (some (entry.toggle channel)) (.toggled entryId channel)
      | _ => none
  | .commit w =>
      match s.stage w with
      | .done change => some (s.commit w change)
      | _ => none
  | .abort w => some (s.abort w)

end State

/-- `uuid4` draws no id that an entry has or had. -/
def Unused (s : State Tx) : Action Tx → Prop
  | .insert _ entryId => entryId ∉ s.entries.ids
  | _ => True

instance (s : State Tx) (a : Action Tx) : Decidable (Unused s a) :=
  match a with
  | .insert _ entryId => inferInstanceAs (Decidable (entryId ∉ s.entries.ids))
  | .add .. | .remove .. | .delete _ | .toggle .. | .commit _ | .abort _ =>
      .isTrue trivial

def edits (Tx : Type) [DecidableEq Tx] : System (State Tx) (Action Tx) where
  init s := s.entries = .empty ∧ (∀ w, s.stage w = .idle) ∧ s.log = []
  step := State.step

/-! ## §4  What a step does -/

section Steps

variable [DecidableEq Tx] {s s' : State Tx} {w : Tx}

theorem stage_self (s : State Tx) (w : Tx) (stage : Stage) :
    (s.setStage w stage).stage w = stage := by
  dsimp only [State.setStage]
  rw [Function.update_self]

theorem stage_of_ne {u : Tx} (h : u ≠ w) (s : State Tx) (stage : Stage) :
    (s.setStage w stage).stage u = s.stage u := by
  dsimp only [State.setStage]
  rw [Function.update_of_ne h]

/-- Behind the end of `w`, whoever stands anywhere is another request. -/
theorem stage_of_ended {u : Tx} {stage : Stage}
    (h : (s.setStage w .idle).stage u = stage) (hne : Stage.idle ≠ stage) :
    u ≠ w ∧ s.stage u = stage := by
  have hu : u ≠ w := by
    rintro rfl
    exact hne ((stage_self s u .idle).symm.trans h)
  exact ⟨hu, (stage_of_ne hu s .idle).symm.trans h⟩

/-- What a request may write, with its change. -/
inductive Writes (s : State Tx) (w : Tx) : Change → Option Entry → Prop
  | created (i : Uuid) (entry : Entry) (hnew : i ∉ s.entries.ids)
      (htarget : ∀ j, hasTarget entry.target (s.entries.cell j) = false) :
      Writes s w (.created i entry) (some entry)
  | deleted (i : Uuid) (entry : Entry) (hrow : s.entries.read w i = some entry) :
      Writes s w (.deleted i) none
  | toggled (i : Uuid) (channel : Channel) (entry : Entry)
      (hrow : s.entries.read w i = some entry) :
      Writes s w (.toggled i channel) (some (entry.toggle channel))

inductive Effect (s : State Tx) : State Tx → Prop
  | aborted (w : Tx) : Effect s (s.abort w)
  | adding (w : Tx) (entry : Entry) (hidle : s.stage w = .idle) :
      Effect s (s.setStage w (.adding entry))
  | removing (w : Tx) (i : Uuid) (entry : Entry) (hidle : s.stage w = .idle)
      (hrow : s.entries.read w i = some entry) :
      Effect s (s.setStage w (.removing i))
  | wrote (w : Tx) (change : Change) (row : Option Entry)
      (hbefore : ∀ c, s.stage w ≠ .done c) (h : Writes s w change row)
      (hfree : (s.entries.cell change.entryId).heldByOther w = false) :
      Effect s { s.setStage w (.done change) with
        entries := s.entries.put w change.entryId row }
  /-- The entry was removed by another request. -/
  | missed (w : Tx) (i : Uuid) (hstage : s.stage w = .removing i)
      (hrow : s.entries.read w i = none) :
      Effect s (s.setStage w (.done (.deleted i)))
  | committed (w : Tx) (change : Change) (hstage : s.stage w = .done change) :
      Effect s (s.commit w change)

theorem hasTarget_eq_false {target : Uuid ⊕ Uuid}
    (h : (s.conflicts target).isEmpty = true) (j : Uuid) :
    hasTarget target (s.entries.cell j) = false := by
  rw [List.isEmpty_iff] at h
  by_cases hj : j ∈ s.entries.ids
  · have hfilter := List.filter_eq_nil_iff.mp h j hj
    exact Bool.eq_false_iff.mpr hfilter
  · rw [s.entries.absent j hj]
    rfl

theorem effect_of_write {change : Change} {row : Option Entry}
    (h : s.write w row change = some s') (hbefore : ∀ c, s.stage w ≠ .done c)
    (hwrites : Writes s w change row) : Effect s s' := by
  unfold State.write at h
  split at h
  · cases h
  · rename_i hfree
    cases h
    exact .wrote w change row hbefore hwrites (Bool.eq_false_iff.mpr hfree)

theorem step_effect {a : Action Tx} (ha : Unused s a)
    (h : s.step a = some s') : Effect s s' := by
  cases a with
  | add w entry =>
      simp only [State.step] at h
      split at h
      · rename_i hidle
        split at h
        · cases h
          exact .aborted w
        · cases h
          exact .adding w entry hidle
      · cases h
  | insert w i =>
      simp only [State.step] at h
      split at h
      · rename_i entry hstage
        split at h
        · cases h
        split at h
        · cases h
          exact .aborted w
        split at h
        · cases h
        split at h
        · rename_i hempty
          refine effect_of_write h (fun c hc => ?_) (.created i entry ha
            (hasTarget_eq_false hempty))
          rw [hstage] at hc
          cases hc
        · cases h
          exact .aborted w
      · cases h
  | remove w i =>
      simp only [State.step] at h
      split at h
      · rename_i hidle
        split at h
        · cases h
          exact .aborted w
        · rename_i entry hrow
          cases h
          exact .removing w i entry hidle hrow
      · cases h
  | delete w =>
      simp only [State.step] at h
      split at h
      · rename_i i hstage
        split at h
        · rename_i hrow
          cases h
          exact .missed w i hstage hrow
        · rename_i entry hrow
          refine effect_of_write h (fun c hc => ?_) (.deleted i entry hrow)
          rw [hstage] at hc
          cases hc
      · cases h
  | toggle w i channel =>
      simp only [State.step] at h
      split at h
      · rename_i hidle
        split at h
        · cases h
          exact .aborted w
        · rename_i entry hrow
          refine effect_of_write h (fun c hc => ?_) (.toggled i channel entry hrow)
          rw [hidle] at hc
          cases hc
      · cases h
  | commit w =>
      simp only [State.step] at h
      split at h
      · rename_i change hstage
        cases h
        exact .committed w change hstage
      · cases h
  | abort w =>
      cases h
      exact .aborted w

end Steps

/-! ## §5  Locks and versions -/

section Cells

variable [DecidableEq Tx] {c : Cell Tx Entry} {u w : Tx} {target : Uuid ⊕ Uuid}

theorem commit_of_unowned (h : ∀ row, c.pending ≠ some (w, row)) : c.commit w = c := by
  unfold Cell.commit
  split
  · rename_i o row hp
    rw [if_neg]
    rintro rfl
    exact h row hp
  · rfl

theorem rollback_of_unowned (h : ∀ row, c.pending ≠ some (w, row)) :
    c.rollback w = c := by
  unfold Cell.rollback
  split
  · rename_i o row hp
    rw [if_neg]
    rintro rfl
    exact h row hp
  · rfl

theorem hasTarget_iff : hasTarget target c = true ↔
    (∃ e, c.committed = some e ∧ e.target = target) ∨
      ∃ o e, c.pending = some (o, some e) ∧ e.target = target := by
  unfold hasTarget
  rw [Bool.or_eq_true, Option.any_eq_true, Option.any_eq_true]
  constructor
  · rintro (⟨e, he, ht⟩ | ⟨⟨o, row⟩, hp, hrow⟩)
    · exact .inl ⟨e, he, of_decide_eq_true ht⟩
    · obtain ⟨e, he, ht⟩ := (Option.any_eq_true _ _).mp hrow
      dsimp only at he
      subst he
      exact .inr ⟨o, e, hp, of_decide_eq_true ht⟩
  · rintro (⟨e, he, rfl⟩ | ⟨o, e, hp, rfl⟩)
    · exact .inl ⟨e, he, decide_eq_true rfl⟩
    · exact .inr ⟨_, hp, (Option.any_eq_true _ _).mpr ⟨e, rfl, decide_eq_true rfl⟩⟩

/-- The end of a transaction makes no version. -/
theorem hasTarget_of_rollback (h : hasTarget target (c.rollback w) = true) :
    hasTarget target c = true := by
  by_cases hw : ∃ row, c.pending = some (w, row)
  · obtain ⟨row, hw⟩ := hw
    rw [hasTarget_iff] at h ⊢
    rcases h with ⟨e, he, ht⟩ | ⟨o, e, hp, ht⟩
    · rw [Cell.rollback_committed] at he
      exact .inl ⟨e, he, ht⟩
    · have ho : o ≠ w := by
        rintro rfl
        exact Cell.rollback_pending_ne hp
      exact .inr ⟨o, e, (Cell.rollback_pending_other ho).mp hp, ht⟩
  · rwa [rollback_of_unowned (not_exists.mp hw)] at h

theorem hasTarget_of_commit (h : hasTarget target (c.commit w) = true) :
    hasTarget target c = true := by
  by_cases hw : ∃ row, c.pending = some (w, row)
  · obtain ⟨row, hw⟩ := hw
    rw [hasTarget_iff] at h ⊢
    rcases h with ⟨e, he, ht⟩ | ⟨o, e, hp, ht⟩
    · rw [Cell.commit_committed, Cell.read_of_pending hw] at he
      subst he
      exact .inr ⟨w, e, hw, ht⟩
    · have ho : o ≠ w := by
        rintro rfl
        exact Cell.commit_pending_ne hp
      exact .inr ⟨o, e, (Cell.commit_pending_other ho).mp hp, ht⟩
  · rwa [commit_of_unowned (not_exists.mp hw)] at h

theorem hasTarget_put {row : Option Entry} :
    hasTarget target (c.put w row) = true ↔
      (∃ e, c.committed = some e ∧ e.target = target) ∨
        ∃ e, row = some e ∧ e.target = target := by
  rw [hasTarget_iff, Cell.put_committed, Cell.put_pending]
  refine or_congr_right ⟨?_, ?_⟩
  · rintro ⟨o, e, hp, ht⟩
    rw [Option.some.injEq, Prod.mk.injEq] at hp
    exact ⟨e, hp.2, ht⟩
  · rintro ⟨e, rfl, ht⟩
    exact ⟨w, e, rfl, ht⟩

/-- What a request that has written holds of its row. -/
inductive Held (log : List Change) (w : Tx) (c : Cell Tx Entry) : Change → Prop
  | created (i : Uuid) (entry : Entry) (hrow : c.committed = none)
      (hp : c.pending = some (w, some entry)) : Held log w c (.created i entry)
  | deleted (i : Uuid) (entry : Entry) (hrow : c.committed = some entry)
      (hp : c.pending = some (w, none)) : Held log w c (.deleted i)
  | missed (i : Uuid) (hcreated : ∃ e, .created i e ∈ log) (hrow : c.committed = none)
      (hp : c.pending = none) : Held log w c (.deleted i)
  | toggled (i : Uuid) (channel : Channel) (entry : Entry)
      (hrow : c.committed = some entry)
      (hp : c.pending = some (w, some (entry.toggle channel))) :
      Held log w c (.toggled i channel)

variable {log log' : List Change} {change : Change}

theorem Held.mono (h : Held log w c change) (hlog : log ⊆ log') :
    Held log' w c change := by
  cases h with
  | created i entry hrow hp => exact .created i entry hrow hp
  | deleted i entry hrow hp => exact .deleted i entry hrow hp
  | missed i hcreated hrow hp =>
      exact .missed i (hcreated.imp fun _ he => hlog he) hrow hp
  | toggled i channel entry hrow hp => exact .toggled i channel entry hrow hp

/-- Nobody else has a version of the row. -/
theorem Held.unowned (h : Held log u c change) (hw : u ≠ w) (row : Option Entry) :
    c.pending ≠ some (w, row) := by
  intro hp
  cases h with
  | missed _ _ _ hnone =>
      rw [hnone] at hp
      cases hp
  | created _ _ _ hu | deleted _ _ _ hu | toggled _ _ _ _ hu =>
      rw [hu, Option.some.injEq, Prod.mk.injEq] at hp
      exact hw hp.1

/-- A written row is locked, or was removed before. -/
theorem Held.locked_or_gone (h : Held log w c change) :
    (∃ row, c.pending = some (w, row)) ∨
      (∃ e, .created change.entryId e ∈ log) ∧ c.committed = none := by
  cases h with
  | missed i hcreated hrow _ => exact .inr ⟨hcreated, hrow⟩
  | created _ _ _ hw | deleted _ _ _ hw | toggled _ _ _ _ hw => exact .inl ⟨_, hw⟩

theorem Held.commit_pending (h : Held log w c change) : (c.commit w).pending = none := by
  cases h with
  | missed _ _ _ hnone =>
      rw [commit_of_unowned fun row hp => by rw [hnone] at hp; cases hp]
      exact hnone
  | created _ _ _ hw | deleted _ _ _ hw | toggled _ _ _ _ hw =>
      unfold Cell.commit
      rw [hw]
      dsimp only
      rw [if_pos rfl]

end Cells

section Invariant

variable [DecidableEq Tx] {s s' : State Tx} {w : Tx}

/-- No two rows have versions with one target. -/
def Apart (entries : Table Uuid Tx Entry) : Prop :=
  ∀ target i j, hasTarget target (entries.cell i) = true →
    hasTarget target (entries.cell j) = true → i = j

/-- What holds in every run. -/
structure Coherent (s : State Tx) : Prop where
  serial : Serial s.log s.entries.committedRow
  held : ∀ w i row, (s.entries.cell i).pending = some (w, row) →
    ∃ change, s.stage w = .done change ∧ change.entryId = i
  done : ∀ w change, s.stage w = .done change →
    Held s.log w (s.entries.cell change.entryId) change
  removing : ∀ w i, s.stage w = .removing i → ∃ e, .created i e ∈ s.log
  known : ∀ i e, .created i e ∈ s.log → i ∈ s.entries.ids ∧
    ((s.entries.cell i).committed = none → (s.entries.cell i).pending = none)
  apart : Apart s.entries

theorem Apart.mono {entries entries' : Table Uuid Tx Entry} (h : Apart entries)
    (hcell : ∀ i target, hasTarget target (entries'.cell i) = true →
      hasTarget target (entries.cell i) = true) : Apart entries' :=
  fun target i j hi hj => h target i j (hcell i target hi) (hcell j target hj)

theorem coherent_init (h : (edits Tx).init s) : Coherent s := by
  obtain ⟨hentries, hstage, hlog⟩ := h
  have hcell : ∀ i, s.entries.cell i = .empty := fun i => by rw [hentries]; rfl
  constructor
  · have hrows : s.entries.committedRow = fun _ => none := by
      funext i
      rw [Table.committedRow, hcell]
      rfl
    rw [hlog, hrows]
    exact .empty
  · intro w i row hp
    rw [hcell] at hp
    cases hp
  · intro w change hdone
    rw [hstage] at hdone
    cases hdone
  · intro w i hremoving
    rw [hstage] at hremoving
    cases hremoving
  · intro i e hcreated
    rw [hlog] at hcreated
    cases hcreated
  · intro target i j hi
    rw [hcell] at hi
    cases hi

namespace Coherent

/-- A request that has not written has nothing pending. -/
theorem unowned (h : Coherent s) (hw : ∀ c, s.stage w ≠ .done c) (i : Uuid)
    (row : Option Entry) : (s.entries.cell i).pending ≠ some (w, row) := by
  intro hp
  obtain ⟨change, hdone, -⟩ := h.held w i row hp
  exact hw change hdone

theorem read_eq (h : Coherent s) (hw : ∀ c, s.stage w ≠ .done c) (i : Uuid) :
    s.entries.read w i = s.entries.committedRow i :=
  Cell.read_of_unowned (h.unowned hw i)

theorem setStage {stage : Stage} (h : Coherent s) (hw : ∀ c, s.stage w ≠ .done c)
    (hdone : ∀ c, stage = .done c → Held s.log w (s.entries.cell c.entryId) c)
    (hremoving : ∀ i, stage = .removing i → ∃ e, .created i e ∈ s.log) :
    Coherent (s.setStage w stage) where
  serial := h.serial
  held := by
    intro u i row hp
    have hu : u ≠ w := by
      rintro rfl
      exact h.unowned hw i row hp
    obtain ⟨change, hstage, hi⟩ := h.held u i row hp
    exact ⟨change, (stage_of_ne hu s _).trans hstage, hi⟩
  done := by
    intro u change hstage
    by_cases hu : u = w
    · subst hu
      exact hdone change ((stage_self s u stage).symm.trans hstage)
    · exact h.done u change ((stage_of_ne hu s _).symm.trans hstage)
  removing := by
    intro u i hstage
    by_cases hu : u = w
    · subst hu
      exact hremoving i ((stage_self s u stage).symm.trans hstage)
    · exact h.removing u i ((stage_of_ne hu s _).symm.trans hstage)
  known := h.known
  apart := h.apart

theorem aborted (h : Coherent s) (w : Tx) : Coherent (s.abort w) where
  serial := by
    have hrows : (s.abort w).entries.committedRow = s.entries.committedRow :=
      funext fun i => Table.rollback_committedRow
    rw [hrows]
    exact h.serial
  held := by
    intro u i row hp
    have hu : u ≠ w := by
      rintro rfl
      exact Cell.rollback_pending_ne hp
    obtain ⟨change, hstage, hi⟩ :=
      h.held u i row ((Cell.rollback_pending_other hu).mp hp)
    exact ⟨change, (stage_of_ne hu s _).trans hstage, hi⟩
  done := by
    intro u change hstage
    obtain ⟨hu, hstage⟩ := stage_of_ended hstage Stage.noConfusion
    have hheld := h.done u change hstage
    have hcell : (s.abort w).entries.cell change.entryId =
        s.entries.cell change.entryId := rollback_of_unowned (hheld.unowned hu)
    rw [hcell]
    exact hheld
  removing := by
    intro u i hstage
    obtain ⟨-, hstage⟩ := stage_of_ended hstage Stage.noConfusion
    exact h.removing u i hstage
  known := by
    intro i e hcreated
    obtain ⟨hi, hsettled⟩ := h.known i e hcreated
    refine ⟨hi, fun hrow => ?_⟩
    have hp := hsettled ((Cell.rollback_committed).symm.trans hrow)
    have hcell : (s.abort w).entries.cell i = s.entries.cell i :=
      rollback_of_unowned fun row hrow => by rw [hp] at hrow; cases hrow
    rw [hcell]
    exact hp
  apart := h.apart.mono fun _ _ => hasTarget_of_rollback

/-- The row of a written change, before and after. -/
theorem held_of_writes (h : Coherent s) (hw : ∀ c, s.stage w ≠ .done c)
    {change : Change} {row : Option Entry} (hwrites : Writes s w change row) :
    Held s.log w ((s.entries.cell change.entryId).put w row) change := by
  cases hwrites with
  | created i entry hnew htarget =>
      refine .created i entry ?_ rfl
      rw [Cell.put_committed, Change.entryId, s.entries.absent i hnew]
      rfl
  | deleted i entry hrow =>
      exact .deleted i entry ((h.read_eq hw i).symm.trans hrow) rfl
  | toggled i channel entry hrow =>
      exact .toggled i channel entry ((h.read_eq hw i).symm.trans hrow) rfl

/-- A row that was created and is gone is not written any more. -/
theorem writes_row (h : Coherent s) (hw : ∀ c, s.stage w ≠ .done c)
    {change : Change} {row : Option Entry} (hwrites : Writes s w change row)
    (hcreated : ∃ e, .created change.entryId e ∈ s.log) :
    (s.entries.cell change.entryId).committed ≠ none := by
  obtain ⟨e, hcreated⟩ := hcreated
  intro hnone
  cases hwrites with
  | created i entry hnew _ => exact hnew (h.known i e hcreated).1
  | deleted i entry hrow =>
      cases hnone.symm.trans ((h.read_eq hw i).symm.trans hrow)
  | toggled i channel entry hrow =>
      cases hnone.symm.trans ((h.read_eq hw i).symm.trans hrow)

theorem apart_of_writes (h : Coherent s) (hw : ∀ c, s.stage w ≠ .done c)
    {change : Change} {row : Option Entry} (hwrites : Writes s w change row) :
    Apart (s.entries.put w change.entryId row) := by
  have hold : ∀ i target, i ≠ change.entryId →
      hasTarget target ((s.entries.put w change.entryId row).cell i) =
        hasTarget target (s.entries.cell i) := by
    intro i target hi
    rw [Table.put_cell_ne hi]
  cases hwrites with
  | created i entry hnew htarget =>
      -- the row is new, and its target is nobody's
      have hnone : (s.entries.cell i).committed = none := by
        rw [s.entries.absent i hnew]
        rfl
      have hself : ∀ target, hasTarget target
          ((s.entries.put w i (some entry)).cell i) = true → target = entry.target := by
        intro target hi
        rw [Table.put_cell_self, hasTarget_put, hnone] at hi
        rcases hi with ⟨e, he, -⟩ | ⟨e, he, ht⟩
        · cases he
        · cases he
          exact ht.symm
      intro target j k hj hk
      by_cases hji : j = i <;> by_cases hki : k = i
      · rw [hji, hki]
      · subst hji
        cases hself target hj
        rw [hold k _ hki, htarget k] at hk
        cases hk
      · subst hki
        cases hself target hk
        rw [hold j _ hji, htarget j] at hj
        cases hj
      · rw [hold j _ hji] at hj
        rw [hold k _ hki] at hk
        exact h.apart target j k hj hk
  | deleted i entry hrow =>
      refine h.apart.mono fun j target hj => ?_
      by_cases hji : j = i
      · subst hji
        rw [Change.entryId, Table.put_cell_self, hasTarget_put] at hj
        rcases hj with hj | ⟨e, he, -⟩
        · exact hasTarget_iff.mpr (.inl hj)
        · cases he
      · rwa [hold j target hji] at hj
  | toggled i channel entry hrow =>
      have hcommitted : (s.entries.cell i).committed = some entry :=
        (h.read_eq hw i).symm.trans hrow
      refine h.apart.mono fun j target hj => ?_
      by_cases hji : j = i
      · subst hji
        rw [Change.entryId, Table.put_cell_self, hasTarget_put] at hj
        rcases hj with hj | ⟨e, he, ht⟩
        · exact hasTarget_iff.mpr (.inl hj)
        · cases he
          rw [Entry.toggle_target] at ht
          exact hasTarget_iff.mpr (.inl ⟨entry, hcommitted, ht⟩)
      · rwa [hold j target hji] at hj

theorem wrote (h : Coherent s) (hw : ∀ c, s.stage w ≠ .done c) {change : Change}
    {row : Option Entry} (hwrites : Writes s w change row)
    (hfree : (s.entries.cell change.entryId).heldByOther w = false) :
    Coherent { s.setStage w (.done change) with
      entries := s.entries.put w change.entryId row } where
  serial := by
    have hrows : (s.entries.put w change.entryId row).committedRow =
        s.entries.committedRow := funext fun i => Table.put_committedRow
    dsimp only
    rw [hrows]
    exact h.serial
  held := by
    intro u i row' hp
    by_cases hu : u = w
    · subst hu
      refine ⟨change, stage_self s u _, ?_⟩
      by_contra hi
      dsimp only at hp
      rw [Table.put_cell_ne (Ne.symm hi)] at hp
      exact h.unowned hw i row' hp
    · obtain ⟨change', hstage, hi⟩ :=
        h.held u i row' ((Table.put_pending_other hu hfree).mp hp)
      exact ⟨change', (stage_of_ne hu s _).trans hstage, hi⟩
  done := by
    intro u change' hstage
    by_cases hu : u = w
    · subst hu
      have hchange := Stage.done.inj ((stage_self s u _).symm.trans hstage)
      subst hchange
      dsimp only
      rw [Table.put_cell_self]
      exact h.held_of_writes hw hwrites
    · have hheld := h.done u change' ((stage_of_ne hu s _).symm.trans hstage)
      have hne : change'.entryId ≠ change.entryId := by
        intro heq
        rw [heq] at hheld
        rcases hheld.locked_or_gone with ⟨row', hp⟩ | ⟨hcreated, hnone⟩
        · exact hu (Cell.heldByOther_eq_false.mp hfree u row' hp)
        · rw [heq] at hcreated
          exact h.writes_row hw hwrites hcreated hnone
      dsimp only
      rw [Table.put_cell_ne hne]
      exact hheld
  removing := by
    intro u i hstage
    by_cases hu : u = w
    · subst hu
      exact Stage.noConfusion ((stage_self s u _).symm.trans hstage)
    · exact h.removing u i ((stage_of_ne hu s _).symm.trans hstage)
  known := by
    intro i e hcreated
    obtain ⟨hi, hsettled⟩ := h.known i e hcreated
    refine ⟨Table.mem_put_ids hi, fun hrow => ?_⟩
    dsimp only at hrow ⊢
    by_cases hid : i = change.entryId
    · subst hid
      rw [Table.put_cell_self, Cell.put_committed] at hrow
      exact absurd hrow (h.writes_row hw hwrites ⟨e, hcreated⟩)
    · rw [Table.put_cell_ne hid] at hrow ⊢
      exact hsettled hrow
  apart := h.apart_of_writes hw hwrites

/-- A commit touches the row of its change alone. -/
theorem commit_cell_ne (h : Coherent s) {change : Change}
    (hstage : s.stage w = .done change) {i : Uuid} (hi : i ≠ change.entryId) :
    (s.entries.cell i).commit w = s.entries.cell i := by
  refine commit_of_unowned fun row hp => ?_
  obtain ⟨change', hstage', hid⟩ := h.held w i row hp
  cases hstage.symm.trans hstage'
  exact hi hid.symm

theorem commit_rows (h : Coherent s) {change : Change}
    (hstage : s.stage w = .done change) {row : Option Entry}
    (hrow : (s.entries.cell change.entryId).read w = row) :
    (s.entries.commit w).committedRow =
      Function.update s.entries.committedRow change.entryId row := by
  funext i
  by_cases hi : i = change.entryId
  · subst hi
    rw [Function.update_self, ← hrow]
    exact Cell.commit_committed
  · rw [Function.update_of_ne hi]
    exact congrArg Cell.committed (h.commit_cell_ne hstage hi)

/-- The change of a commit comes after those before it. -/
theorem commit_serial (h : Coherent s) {change : Change}
    (hstage : s.stage w = .done change) :
    Serial (s.log ++ [change]) (s.entries.commit w).committedRow := by
  cases h.done w change hstage with
  | created i entry hrow hp =>
      rw [h.commit_rows hstage (Cell.read_of_pending hp)]
      refine .created i entry h.serial (fun e he => ?_) fun j e hj ht => ?_
      · cases hp.symm.trans ((h.known i e he).2 hrow)
      · have hji : j = i := h.apart entry.target j i
          (hasTarget_iff.mpr (.inl ⟨e, hj, ht⟩))
          (hasTarget_iff.mpr (.inr ⟨w, entry, hp, rfl⟩))
        subst hji
        cases hrow.symm.trans hj
  | deleted i entry hrow hp =>
      rw [h.commit_rows hstage (Cell.read_of_pending hp)]
      exact .deleted i h.serial (h.serial.created_of_row hrow)
  | missed i hcreated hrow hp =>
      have hread : (s.entries.cell i).read w = none :=
        (Cell.read_of_unowned fun row hw => by cases hp.symm.trans hw).trans hrow
      rw [h.commit_rows hstage hread]
      exact .deleted i h.serial hcreated
  | toggled i channel entry hrow hp =>
      rw [h.commit_rows hstage (Cell.read_of_pending hp)]
      exact .toggled i channel entry h.serial hrow

theorem committed (h : Coherent s) {change : Change}
    (hstage : s.stage w = .done change) : Coherent (s.commit w change) where
  serial := h.commit_serial hstage
  held := by
    intro u i row hp
    have hu : u ≠ w := by
      rintro rfl
      exact Cell.commit_pending_ne hp
    obtain ⟨change', hstage', hi⟩ :=
      h.held u i row ((Cell.commit_pending_other hu).mp hp)
    exact ⟨change', (stage_of_ne hu s _).trans hstage', hi⟩
  done := by
    intro u change' hstage'
    obtain ⟨hu, hstage'⟩ := stage_of_ended hstage' Stage.noConfusion
    have hheld := h.done u change' hstage'
    have hcell : (s.commit w change).entries.cell change'.entryId =
        s.entries.cell change'.entryId := commit_of_unowned (hheld.unowned hu)
    rw [hcell]
    exact hheld.mono (List.subset_append_left _ _)
  removing := by
    intro u i hstage'
    obtain ⟨-, hstage'⟩ := stage_of_ended hstage' Stage.noConfusion
    obtain ⟨e, he⟩ := h.removing u i hstage'
    exact ⟨e, List.mem_append_left _ he⟩
  known := by
    intro i e hcreated
    have hheld := h.done w change hstage
    have hids : i ∈ s.entries.ids := by
      rcases List.mem_append.mp hcreated with hold | hnow
      · exact (h.known i e hold).1
      · have hchange := List.mem_singleton.mp hnow
        subst hchange
        by_contra hnew
        have hempty : (s.entries.cell i).pending = none := by
          rw [s.entries.absent i hnew]
          rfl
        cases hheld with
        | created _ _ _ hp => cases hempty.symm.trans hp
    refine ⟨hids, fun hrow => ?_⟩
    by_cases hi : i = change.entryId
    · subst hi
      exact hheld.commit_pending
    · have hcell : (s.commit w change).entries.cell i = s.entries.cell i :=
        h.commit_cell_ne hstage hi
      rcases List.mem_append.mp hcreated with hold | hnow
      · rw [hcell] at hrow ⊢
        exact (h.known i e hold).2 hrow
      · exact absurd (congrArg Change.entryId (List.mem_singleton.mp hnow)) hi
  apart := h.apart.mono fun _ _ => hasTarget_of_commit

/-- **Step lemma.** -/
theorem step {a : Action Tx} (h : Coherent s) (ha : Unused s a)
    (hstep : s.step a = some s') : Coherent s' := by
  cases step_effect ha hstep with
  | aborted w => exact h.aborted w
  | adding w entry hidle =>
      exact h.setStage (fun c hc => Stage.noConfusion (hidle.symm.trans hc))
        (fun c hc => Stage.noConfusion hc) fun i hi => Stage.noConfusion hi
  | removing w i entry hidle hrow =>
      have hw : ∀ c, s.stage w ≠ .done c := fun c hc =>
        Stage.noConfusion (hidle.symm.trans hc)
      refine h.setStage hw (fun c hc => Stage.noConfusion hc) fun j hj => ?_
      cases hj
      exact h.serial.created_of_row ((h.read_eq hw i).symm.trans hrow)
  | wrote w change row hbefore hwrites hfree => exact h.wrote hbefore hwrites hfree
  | missed w i hstage hrow =>
      have hw : ∀ c, s.stage w ≠ .done c := fun c hc =>
        Stage.noConfusion (hstage.symm.trans hc)
      refine h.setStage hw (fun c hc => ?_) fun j hj => Stage.noConfusion hj
      cases hc
      obtain ⟨e, hcreated⟩ := h.removing w i hstage
      have hnone : (s.entries.cell i).committed = none :=
        (h.read_eq hw i).symm.trans hrow
      exact .missed i ⟨e, hcreated⟩ hnone ((h.known i e hcreated).2 hnone)
  | committed w change hstage => exact h.committed hstage

end Coherent

/-- **Run lemma.** -/
theorem coherent_of_reachable (h : (edits Tx).ReachableUnder Unused s) :
    Coherent s :=
  h.invariant (fun _ => coherent_init)
    fun _ _ _ hcoherent ha hstep => hcoherent.step ha hstep

/-! ## §6  The law -/

/-- **As if one after another.** After any interleaving of requests that draw
new ids the watchlist is what the committed changes make of it in the order of
their commits, with no toggle and no removal lost; and no user and no subject
has two entries. -/
theorem edits_serial (h : (edits Tx).ReachableUnder Unused s) :
    Serial s.log s.entries.committedRow ∧
      ∀ i j e f, s.entries.committedRow i = some e →
        s.entries.committedRow j = some f → e.target = f.target → i = j := by
  have hcoherent := coherent_of_reachable h
  refine ⟨hcoherent.serial, fun i j e f hi hj htarget => ?_⟩
  exact hcoherent.apart f.target i j (hasTarget_iff.mpr (.inl ⟨e, hi, htarget⟩))
    (hasTarget_iff.mpr (.inl ⟨f, hj, rfl⟩))

end Invariant

def sampleEntry : Entry where
  target := .inl 7
  alertSoc := true
  alertUser := true
  alertWazuh := false
  alertIris := false
  enabled := true
  createdBy := 3

/-- An entry is added and toggled; then two requests see it, and both remove
it. -/
def removedTwice : List (Action Bool) :=
  [.add true sampleEntry, .insert true 1, .commit true, .toggle false 1 .alertIris,
    .commit false, .remove true 1, .remove false 1, .delete true, .commit true,
    .delete false, .commit false]

def noEdits : State Bool := ⟨.empty, fun _ => .idle, []⟩

theorem noEdits_init : (edits Bool).init noEdits := ⟨rfl, fun _ => rfl, rfl⟩

theorem second_removal_commits : ∃ s : State Bool,
    s.log = [.created 1 sampleEntry, .toggled 1 .alertIris, .deleted 1, .deleted 1] ∧
      Serial s.log s.entries.committedRow ∧
      ∀ i j e f, s.entries.committedRow i = some e →
        s.entries.committedRow j = some f → e.target = f.target → i = j := by
  have hrun : ∃ s, (edits Bool).runUnder Unused noEdits removedTwice =
      some s ∧ s.log = [.created 1 sampleEntry, .toggled 1 .alertIris, .deleted 1,
        .deleted 1] :=
    System.exists_of_runUnder (by decide +kernel)
  obtain ⟨s, hrun, hlog⟩ := hrun
  exact ⟨s, hlog, edits_serial (System.reachable_of_runUnder noEdits_init hrun)⟩

/-! ## §7  What the alerts read -/

/-- The columns that the fan-out reads. -/
def Entry.row (entry : Entry) : WatchlistEntry where
  subjectId := entry.target.getRight?
  userId := entry.target.getLeft?
  alertUser := entry.alertUser
  alertWazuh := entry.alertWazuh
  alertIris := entry.alertIris
  enabled := entry.enabled

/-- What can be watched of a subject: itself, and its linked user. -/
def targetsOf (subject : ScannedSubject) : List (Uuid ⊕ Uuid) :=
  .inr subject.id :: subject.linkedUserId.toList.map .inl

theorem length_targetsOf (subject : ScannedSubject) : (targetsOf subject).length ≤ 2 := by
  unfold targetsOf
  cases subject.linkedUserId with
  | none => exact Nat.le_succ 1
  | some userId => exact Nat.le_refl 2

theorem target_of_watches {subject : ScannedSubject} {entry : Entry}
    (h : watches subject entry.row = true) : entry.target ∈ targetsOf subject := by
  obtain ⟨-, hsubject | ⟨userId, hlinked, huser⟩⟩ := watches_iff.mp h
  · rw [Sum.getRight?_eq_some_iff.mp hsubject]
    exact List.mem_cons_self
  · rw [Sum.getLeft?_eq_some_iff.mp huser]
    unfold targetsOf
    rw [hlinked]
    exact List.mem_cons_of_mem _ (List.mem_singleton_self _)

section Watching

variable [DecidableEq Tx] {s : State Tx}

/-- However the watchlist is edited, a finding is matched by two of its entries
at most. -/
theorem watching_le_two (h : (edits Tx).ReachableUnder Unused s)
    (subject : ScannedSubject) :
    (s.entries.committedRows.filter fun x => watches subject x.2.row).length ≤ 2 := by
  have hcoherent := coherent_of_reachable h
  generalize hwatching : (s.entries.committedRows.filter fun x =>
    watches subject x.2.row) = watching
  have hmem : ∀ x ∈ watching, s.entries.committedRow x.1 = some x.2 ∧
      watches subject x.2.row = true := by
    intro x hx
    rw [← hwatching, List.mem_filter] at hx
    exact ⟨Table.mem_committedRows.mp hx.1, hx.2⟩
  have hnodup : (watching.map fun x => x.2.target).Nodup := by
    refine List.Nodup.map_on (fun x hx y hy htarget => ?_)
      (hwatching ▸ (s.entries.nodup_rowsBy Cell.committed).of_map.filter _)
    have hxrow := (hmem x hx).1
    have hyrow := (hmem y hy).1
    have hid : x.1 = y.1 := hcoherent.apart y.2.target x.1 y.1
      (hasTarget_iff.mpr (.inl ⟨x.2, hxrow, htarget⟩))
      (hasTarget_iff.mpr (.inl ⟨y.2, hyrow, rfl⟩))
    rw [hid] at hxrow
    exact Prod.ext hid (Option.some.inj (hxrow.symm.trans hyrow))
  have hsubset : (watching.map fun x => x.2.target) ⊆ targetsOf subject := by
    intro target htarget
    obtain ⟨x, hx, rfl⟩ := List.mem_map.mp htarget
    exact target_of_watches (hmem x hx).2
  calc watching.length
      = (watching.map fun x => x.2.target).length := (List.length_map _).symm
    _ ≤ (targetsOf subject).length := (hnodup.subperm hsubset).length_le
    _ ≤ 2 := length_targetsOf subject

end Watching

end LeakcheckHub.Watchlist
