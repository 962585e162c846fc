import LeakcheckHub.Outbox.Campaigns
import Mathlib.Data.List.Dedup

/-!
# A worker on its own

The `deliverNext` that campaigns are stated with is the delivery of a worker
whom nobody meets: the statements of its call, one after another, take tables
that hold the rows of an outbox to tables that hold the rows which
`deliverNext` leaves.

§1 what the tables hold · §2 the row that is taken · §3 a row in hand ·
§4 the steps of a call · §5 the call.
-/

set_option linter.unusedSectionVars false

namespace LeakcheckHub.Outbox

open Foundation Crypto

/-! ## §1  What the tables hold -/

/-- No call is in progress, and the tables hold these rows. -/
structure Represents {Tx : Type} (s : State Tx) (rows : List Notification)
    (users : List User) : Prop where
  quiet : Quiet s
  row : ∀ {id n}, s.notifications.committedRow id = some n ↔
    n ∈ rows ∧ n.id = id
  nodup : (rows.map Notification.id).Nodup
  user : ∀ id, s.users.committedRow id =
    users.find? fun user => decide (user.id = id)

section SoleWorker

variable {Tx : Type} [DecidableEq Tx] {tables : TextTables} {s s₁ s₂ : State Tx}
  {rows : List Notification} {users : List User} {d : DeliveryCall} {w : Tx}
  {t : Taken} {stage : Stage}

/-- Every outbox has tables that hold its rows. -/
theorem exists_represents (hrows : (rows.map Notification.id).Nodup)
    (stored : SettingKey → Except SettingError (Option PyStr)) :
    ∃ s : State Tx, Represents s rows users ∧ s.stored = stored := by
  have habsent : ∀ id, id ∉ rows.map Notification.id →
      rows.find? (fun n => decide (n.id = id)) = none := by
    intro id hid
    rw [List.find?_eq_none]
    intro n hn heq
    exact hid (List.mem_map.mpr ⟨n, hn, of_decide_eq_true heq⟩)
  have hnobody : ∀ id, id ∉ (users.map User.id).dedup →
      users.find? (fun user => decide (user.id = id)) = none := by
    intro id hid
    rw [List.mem_dedup] at hid
    rw [List.find?_eq_none]
    intro user huser heq
    exact hid (List.mem_map.mpr ⟨user, huser, of_decide_eq_true heq⟩)
  have hfind : ∀ {id n}, rows.find? (fun n => decide (n.id = id)) = some n ↔
      n ∈ rows ∧ n.id = id := by
    intro id n
    constructor
    · intro h
      have hid := List.find?_some h
      exact ⟨List.mem_of_find?_eq_some h, of_decide_eq_true hid⟩
    · rintro ⟨hn, rfl⟩
      cases hfound : rows.find? fun m => decide (m.id = n.id) with
      | none =>
          have hnone := List.find?_eq_none.mp hfound n hn
          exact absurd (decide_eq_true rfl) hnone
      | some n' =>
          have hid := List.find?_some hfound
          rw [List.inj_on_of_nodup_map hrows (List.mem_of_find?_eq_some hfound) hn
            (of_decide_eq_true hid)]
  have hids := List.nodup_dedup (users.map User.id)
  exact ⟨{
    notifications := .ofRows _ _ hrows habsent
    users := .ofRows _ _ hids hnobody
    stored := stored
    stage := fun _ => .idle
    mails := [] },
    ⟨⟨fun _ => rfl, Table.unlocked_ofRows hrows habsent,
      Table.unlocked_ofRows hids hnobody⟩, hfind, hrows, fun _ => rfl⟩, rfl⟩

theorem Represents.perm (h : Represents s rows users) :
    s.notifications.committedRows.Perm (rows.map fun n => (n.id, n)) := by
  have hkeys : (s.notifications.committedRows.map Prod.fst).Nodup :=
    s.notifications.nodup_rowsBy Cell.committed
  have hpairs : ((rows.map fun n => (n.id, n)).map Prod.fst).Nodup := by
    rw [List.map_map]
    exact h.nodup
  rw [List.perm_ext_iff_of_nodup hkeys.of_map hpairs.of_map]
  rintro ⟨id, n⟩
  rw [Table.mem_committedRows, h.row, List.mem_map]
  constructor
  · rintro ⟨hn, rfl⟩
    exact ⟨n, hn, rfl⟩
  · rintro ⟨n', hn', heq⟩
    rw [Prod.mk.injEq] at heq
    obtain ⟨rfl, rfl⟩ := heq
    exact ⟨hn', rfl⟩

/-! ## §2  The row that is taken -/

instance : Std.Total deliveredBefore where
  total x y := by
    rcases lt_trichotomy x.2.createdAt y.2.createdAt with hlt | heq | hgt
    · exact .inl (.inl hlt)
    · rcases Nat.le_total x.1.toNat y.1.toNat with hle | hge
      · exact .inl (.inr ⟨heq, hle⟩)
      · exact .inr (.inr ⟨heq.symm, hge⟩)
    · exact .inr (.inl hgt)

instance : IsTrans (Uuid × Notification) deliveredBefore where
  trans x y z := by
    rintro (hxy | ⟨hxy, hxy'⟩) (hyz | ⟨hyz, hyz'⟩)
    · exact .inl (hxy.trans hyz)
    · exact .inl (hyz ▸ hxy)
    · exact .inl (hxy ▸ hyz)
    · exact .inr ⟨hxy.trans hyz, hxy'.trans hyz'⟩

theorem eq_of_deliveredBefore {x y : Uuid × Notification}
    (hxy : deliveredBefore x y) (hyx : deliveredBefore y x) : x.1 = y.1 := by
  apply BitVec.eq_of_toNat_eq
  rcases hxy with hlt | ⟨heq, hle⟩
  · rcases hyx with hlt' | ⟨heq', -⟩
    · exact absurd hlt' hlt.asymm
    · exact absurd heq' hlt.ne'
  · rcases hyx with hlt' | ⟨-, hle'⟩
    · exact absurd heq hlt'.ne'
    · exact Nat.le_antisymm hle hle'

/-- Rows have ids of their own, so the order of the queue leaves no choice. -/
theorem Represents.queue (h : Represents s rows users) :
    (s.notifications.committedRows.filter fun x =>
        x.2.status == .pending).insertionSort deliveredBefore =
      ((rows.filter fun n => n.status == .pending).map fun n =>
        (n.id, n)).insertionSort deliveredBefore := by
  have hperm := h.perm.filter fun x => x.2.status == .pending
  rw [List.filter_map] at hperm
  refine List.Perm.eq_of_pairwise ?_
    (List.pairwise_insertionSort deliveredBefore _)
    (List.pairwise_insertionSort deliveredBefore _)
    ((List.perm_insertionSort _ _).trans
      (hperm.trans (List.perm_insertionSort _ _).symm))
  intro x y hx hy hxy hyx
  have hmem : ∀ z ∈ ((rows.filter fun n => n.status == .pending).map fun n =>
      (n.id, n)), ∃ n ∈ rows, (n.id, n) = z := by
    intro z hz
    obtain ⟨n, hn, hnz⟩ := List.mem_map.mp hz
    exact ⟨n, List.mem_of_mem_filter hn, hnz⟩
  rw [List.mem_insertionSort] at hx hy
  obtain ⟨n, hn, rfl⟩ := hmem x (hperm.mem_iff.mp hx)
  obtain ⟨n', hn', rfl⟩ := hmem y hy
  have hid : n.id = n'.id := eq_of_deliveredBefore hxy hyx
  rw [List.inj_on_of_nodup_map h.nodup hn hn' hid]

/-- A select that meets no lock takes the row that `next` does. -/
theorem Represents.candidate (h : Represents s rows d.users) (w : Tx) :
    (candidates s.notifications s.users w fun _ => false).head? =
      (d.next rows).map fun x => ((x.1.id, x.1), x.2) := by
  have hqueue := h.queue
  unfold candidates DeliveryCall.next
  simp only [Bool.not_false, Bool.and_true, h.quiet.notifications.freeRows,
    h.quiet.users.freeRow, h.user]
  rw [hqueue, List.map_findSome?, ← List.head?_filterMap]
  congr 1
  apply List.filterMap_congr
  intro x hx
  rw [List.mem_insertionSort] at hx
  obtain ⟨n, -, rfl⟩ := List.mem_map.mp hx
  cases hfound : d.users.find? fun user => decide (user.id = n.userId) with
  | none =>
      simp only [Function.comp_apply, hfound, Option.filter_none, Option.map_none]
  | some user =>
      have hid := List.find?_some hfound
      simp only [Function.comp_apply, Option.filter_some, hid, if_true, hfound,
        Option.map_some]

/-! ## §3  A row in hand -/

/-- Since `s`, `w` has locked the rows of `t` and come to `stage`. -/
structure Holding (s : State Tx) (w : Tx) (t : Taken) (stage : Stage)
    (s₁ : State Tx) : Prop where
  notifications : s₁.notifications =
    s.notifications.put w t.id (some t.notification)
  users : s₁.users = s.users.put w t.user.id (some t.user)
  stored : s₁.stored = s.stored
  stages : s₁.stage = Function.update s.stage w stage

/-- The row and its user, before and after they are taken. -/
structure TakenFrom (rows : List Notification) (users : List User) (t : Taken)
    (n : Notification) : Prop where
  mem : n ∈ rows
  id : t.id = n.id
  attempted : t.notification = attempt n
  user : (users.find? fun user => decide (user.id = t.user.id)) = some t.user

theorem Holding.stage_eq (h : Holding s w t stage s₁) : s₁.stage w = stage := by
  rw [h.stages, Function.update_self]

theorem Holding.move (h : Holding s w t stage s₁) (stage' : Stage) :
    Holding s w t stage' (s₁.setStage w stage') := by
  refine ⟨h.notifications, h.users, h.stored, ?_⟩
  show Function.update s₁.stage w stage' = _
  rw [h.stages, Function.update_idem]

theorem Represents.idle (h : Represents s rows users)
    (hstages : s₁.stage = Function.update s.stage w .idle) :
    ∀ v, s₁.stage v = .idle := by
  intro v
  rw [hstages]
  by_cases hv : v = w
  · rw [hv, Function.update_self]
  · rw [Function.update_of_ne hv]
    exact h.quiet.idle v

/-- A call that found nothing to take. -/
theorem Represents.left (h : Represents s rows users) (w : Tx) (stage : Stage) :
    Represents ((s.setStage w stage).abort w) rows users := by
  refine ⟨⟨h.idle (Function.update_idem _ _ _), h.quiet.notifications.rollback,
    h.quiet.users.rollback⟩, ?_, h.nodup, ?_⟩
  · intro id n
    exact Iff.trans (by rw [State.abort, Table.rollback_committedRow]; rfl) h.row
  · intro id
    exact Eq.trans Table.rollback_committedRow (h.user id)

theorem Holding.aborted (hs₁ : Holding s w t stage s₁)
    (h : Represents s rows users) : Represents (s₁.abort w) rows users := by
  have hnotifications : (s₁.abort w).notifications =
      (s.notifications.put w t.id (some t.notification)).rollback w :=
    congrArg (Table.rollback · w) hs₁.notifications
  have husers : (s₁.abort w).users =
      (s.users.put w t.user.id (some t.user)).rollback w :=
    congrArg (Table.rollback · w) hs₁.users
  have hstages : (s₁.abort w).stage = Function.update s.stage w .idle :=
    (hs₁.move .idle).stages
  refine ⟨⟨h.idle hstages, ?_, ?_⟩, ?_, h.nodup, ?_⟩
  · rw [hnotifications]
    exact h.quiet.notifications.put_rollback
  · rw [husers]
    exact h.quiet.users.put_rollback
  · intro id n
    rw [hnotifications, Table.rollback_committedRow, Table.put_committedRow]
    exact h.row
  · intro id
    rw [husers, Table.rollback_committedRow, Table.put_committedRow]
    exact h.user id

/-- The rows after the end of `n`. -/
def ended (n : Notification) (ending : Ending) (rows : List Notification) :
    List Notification :=
  rows.map fun m => if m.id = n.id then finish (attempt m) ending else m

theorem finish_id (n : Notification) (ending : Ending) :
    (finish (attempt n) ending).id = n.id := by
  cases ending <;> rfl

theorem ended_ids (n : Notification) (ending : Ending) (rows : List Notification) :
    (ended n ending rows).map Notification.id = rows.map Notification.id := by
  unfold ended
  rw [List.map_map]
  refine List.map_congr_left fun m _ => ?_
  show (if m.id = n.id then finish (attempt m) ending else m).id = m.id
  split
  · exact finish_id m ending
  · rfl

theorem mem_ended {n m : Notification} {ending : Ending}
    (hnodup : (rows.map Notification.id).Nodup) (hn : n ∈ rows) :
    m ∈ ended n ending rows ↔
      m = finish (attempt n) ending ∨ m ∈ rows ∧ m.id ≠ n.id := by
  unfold ended
  rw [List.mem_map]
  constructor
  · rintro ⟨x, hx, rfl⟩
    split
    · rename_i hid
      rw [List.inj_on_of_nodup_map hnodup hx hn hid]
      exact .inl rfl
    · rename_i hid
      exact .inr ⟨hx, hid⟩
  · rintro (rfl | ⟨hm, hid⟩)
    · exact ⟨n, hn, if_pos rfl⟩
    · exact ⟨m, hm, if_neg hid⟩

theorem Holding.saved {n : Notification} {ending : Ending}
    (hs₁ : Holding s w t stage s₁) (h : Represents s rows users)
    (ht : TakenFrom rows users t n) :
    Represents (s₁.save w t ending) (ended n ending rows) users := by
  have hnotifications : (s₁.save w t ending).notifications =
      (s.notifications.put w n.id
        (some (finish (attempt n) ending))).commit w := by
    show (s₁.notifications.put w t.id _).commit w = _
    rw [hs₁.notifications, Table.put_put, ht.id, ht.attempted]
  have husers : (s₁.save w t ending).users =
      (s.users.put w t.user.id (some t.user)).commit w :=
    congrArg (Table.commit · w) hs₁.users
  have hstages : (s₁.save w t ending).stage = Function.update s.stage w .idle :=
    (hs₁.move .idle).stages
  refine ⟨⟨h.idle hstages, ?_, ?_⟩, ?_, ?_, ?_⟩
  · rw [hnotifications]
    exact h.quiet.notifications.put_commit
  · rw [husers]
    exact h.quiet.users.put_commit
  · intro id m
    rw [hnotifications, h.quiet.notifications.put_commit_row,
      mem_ended h.nodup ht.mem]
    split
    · rename_i hid
      rw [Option.some.injEq, hid]
      constructor
      · rintro rfl
        exact ⟨.inl rfl, finish_id n ending⟩
      · rintro ⟨rfl | ⟨-, hne⟩, heq⟩
        · rfl
        · exact absurd heq hne
    · rename_i hid
      rw [h.row]
      constructor
      · rintro ⟨hm, rfl⟩
        exact ⟨.inr ⟨hm, hid⟩, rfl⟩
      · rintro ⟨rfl | ⟨hm, -⟩, rfl⟩
        · exact absurd (finish_id n ending) hid
        · exact ⟨hm, rfl⟩
  · rw [ended_ids]
    exact h.nodup
  · intro id
    rw [husers, h.quiet.users.put_commit_row]
    split
    · rename_i hid
      rw [hid, ht.user]
    · exact h.user id

/-- The count of the cooldown does not tell an attempted row from the row. -/
theorem Holding.recent {n : Notification} (hs₁ : Holding s w t stage s₁)
    (h : Represents s rows users) (ht : TakenFrom rows users t n)
    (cooldown : ℤ) : s₁.recent w t cooldown = rows.countP
      (recentlySent t.user.id (t.current - seconds cooldown)) := by
  have hrow : s.notifications.committedRow n.id = some n :=
    h.row.mpr ⟨ht.mem, rfl⟩
  have hcells : ∀ i, (((s.notifications.put w n.id
      (some (attempt n))).cell i).read w).any
        (recentlySent t.user.id (t.current - seconds cooldown)) =
      (s.notifications.cell i).committed.any
        (recentlySent t.user.id (t.current - seconds cooldown)) := by
    intro i
    by_cases hi : i = n.id
    · rw [hi, Table.put_cell_self, Cell.read_of_pending Cell.put_pending,
        show (s.notifications.cell n.id).committed = some n from hrow]
      rfl
    · rw [Table.put_cell_ne hi, Cell.read_of_unowned
        fun r => h.quiet.notifications i (w, r)]
  unfold State.recent
  rw [hs₁.notifications, ht.id, ht.attempted, Table.rows, Table.countP_rowsBy,
    Table.put_ids (Table.mem_ids_of_committedRow hrow)]
  simp only [hcells]
  rw [← Table.countP_rowsBy, ← Table.committedRows, h.perm.countP_eq,
    List.countP_map]
  rfl

/-! ## §4  The steps of a call -/

/-- A step of `w` in the call `d`, where no other transaction has a lock. -/
def DeliveryCall.Makes (d : DeliveryCall) (w : Tx) : Action Tx → Prop
  | .select v busy => v = w ∧ busy = fun _ => false
  | .read v _ | .resolve v | .count v | .commit v => v = w
  | .deliver v ownSender raised =>
      v = w ∧ ownSender = d.ownSender ∧ raised = d.raised
  | .enqueue _ | .store _ _ | .begin _ _ | .abort _ => False

/-- The call leads from `s` to tables with these rows. -/
def EndsWith (tables : TextTables) (d : DeliveryCall) (w : Tx) (s : State Tx)
    (rows : List Notification) : Prop :=
  ∃ s', (delivery tables).Leads (fun _ a => d.Makes w a) s s' ∧
    Represents s' rows d.users ∧ s'.stored = s.stored

theorem EndsWith.step {a : Action Tx} (h : EndsWith tables d w s₂ rows)
    (ha : d.Makes w a) (hstep : s₁.step tables a = some s₂)
    (hstored : s₂.stored = s₁.stored) : EndsWith tables d w s₁ rows := by
  obtain ⟨s', hleads, hrows, hkept⟩ := h
  exact ⟨s', ((System.Leads.refl s₁).tail ha hstep).trans hleads, hrows,
    hkept.trans hstored⟩

theorem EndsWith.now (h : Represents s₁ rows d.users) :
    EndsWith tables d w s₁ rows :=
  ⟨s₁, .refl s₁, h, rfl⟩

/-- The rows that are left, once it is known what becomes of `n`. -/
def outcome (n : Notification) (rows : List Notification) :
    Except SettingError Ending → List Notification
  | .ok ending => ended n ending rows
  | .error _ => rows

variable {n : Notification} {values : Settings} {todo : List SettingKey}

theorem Holding.commits {ending : Ending}
    (hs₁ : Holding s w t (.finished t ending) s₁)
    (h : Represents s rows d.users) (ht : TakenFrom rows d.users t n) :
    EndsWith tables d w s₁ (ended n ending rows) := by
  have hstep : s₁.step tables (.commit w) = some (s₁.save w t ending) := by
    simp only [State.step, hs₁.stage_eq]
  exact (EndsWith.now (hs₁.saved h ht)).step (a := .commit w) rfl hstep rfl

theorem Holding.sends (hs₁ : Holding s w t (.sending t values) s₁)
    (h : Represents s rows d.users) (ht : TakenFrom rows d.users t n)
    (hcurrent : t.current = d.current) :
    EndsWith tables d w s₁ (ended n (d.sending tables t.user values) rows) := by
  have hmakes : d.Makes w (.deliver w d.ownSender d.raised) := ⟨rfl, rfl, rfl⟩
  unfold DeliveryCall.sending
  cases hprepared : prepare tables d.ownSender values t.user.email with
  | error e =>
      refine ((hs₁.move (.finished t (.failed e.name))).commits h ht).step
        hmakes ?_ rfl
      simp only [State.step, hs₁.stage_eq, hprepared]
  | ok message =>
      have hmailed : ∀ ending, Holding s w t (.finished t ending)
          { s₁.setStage w (.finished t ending) with
            mails := s₁.mails ++ [message] } := by
        intro ending
        obtain ⟨hn, hu, hs, hstages⟩ := hs₁.move (.finished t ending)
        exact ⟨hn, hu, hs, hstages⟩
      cases hraised : d.raised with
      | some exception =>
          refine ((hmailed (.failed exception)).commits h ht).step hmakes ?_ rfl
          simp only [State.step, hs₁.stage_eq, hprepared, hraised]
      | none =>
          refine ((hmailed (.sent d.current)).commits h ht).step hmakes ?_ rfl
          simp only [State.step, hs₁.stage_eq, hprepared, hraised, hcurrent]

theorem Holding.counts {cooldown : ℤ}
    (hs₁ : Holding s w t (.counting t values cooldown) s₁)
    (h : Represents s rows d.users) (ht : TakenFrom rows d.users t n)
    (hcurrent : t.current = d.current) :
    EndsWith tables d w s₁ (outcome n rows
      (if cooldown ≠ 0 ∧ 0 < rows.countP
          (recentlySent t.user.id (d.current - seconds cooldown)) then
        .ok .suppressed
      else .ok (d.sending tables t.user values))) := by
  have hrecent := hs₁.recent h ht cooldown
  rw [hcurrent] at hrecent
  rw [← hrecent]
  split
  · rename_i hcool
    refine ((hs₁.move (.finished t .suppressed)).commits h ht).step
      (a := .count w) rfl ?_ rfl
    simp only [State.step, hs₁.stage_eq, if_pos hcool]
  · rename_i hcool
    refine ((hs₁.move (.sending t values)).sends h ht hcurrent).step
      (a := .count w) rfl ?_ rfl
    simp only [State.step, hs₁.stage_eq, if_neg hcool]

theorem Holding.resolves (hs₁ : Holding s w t (.reading t [] values) s₁)
    (h : Represents s rows d.users) (ht : TakenFrom rows d.users t n)
    (hcurrent : t.current = d.current) :
    EndsWith tables d w s₁
      (outcome n rows (d.settled tables t.user rows values)) := by
  have habort : EndsWith tables d w (s₁.abort w) rows := .now (hs₁.aborted h)
  unfold DeliveryCall.settled
  cases hdry : dryRunSetting tables (values .notifyDryRun) with
  | error e =>
      refine habort.step (a := .resolve w) rfl ?_ rfl
      simp only [State.step, hs₁.stage_eq, hdry]
  | ok dryRun =>
      cases dryRun with
      | true =>
          refine ((hs₁.move (.finished t .dryRun)).commits h ht).step
            (a := .resolve w) rfl ?_ rfl
          simp only [State.step, hs₁.stage_eq, hdry]
      | false =>
          cases hcooldown : cooldownSetting tables
              (values .notifyCooldownSeconds) with
          | error e =>
              refine habort.step (a := .resolve w) rfl ?_ rfl
              simp only [State.step, hs₁.stage_eq, hdry, hcooldown]
          | ok cooldown =>
              refine ((hs₁.move (.counting t values cooldown)).counts h ht
                hcurrent).step (a := .resolve w) rfl ?_ rfl
              simp only [State.step, hs₁.stage_eq, hdry, hcooldown]

/-- By induction on the settings that are still to be read. -/
theorem Holding.reads (h : Represents s rows d.users)
    (ht : TakenFrom rows d.users t n) (hcurrent : t.current = d.current)
    (hstored : s.stored = d.stored) (htodo : todo.Nodup)
    (hs₁ : Holding s w t (.reading t todo values) s₁) :
    EndsWith tables d w s₁ (outcome n rows
      (todo.foldlM (fun values key => do
        let value ← d.stored key
        .ok (Function.update values key value)) values >>=
          d.settled tables t.user rows)) := by
  induction todo generalizing values s₁ with
  | nil => exact hs₁.resolves h ht hcurrent
  | cons key rest ih =>
      obtain ⟨hfresh, hrest⟩ := List.nodup_cons.mp htodo
      have hfilter : (key :: rest).filter (fun k => decide (k ≠ key)) = rest := by
        rw [List.filter_cons_of_neg (by simp), List.filter_eq_self]
        intro k hk
        exact decide_eq_true fun heq => hfresh (heq ▸ hk)
      have hread : s₁.stored key = d.stored key := by rw [hs₁.stored, hstored]
      rw [List.foldlM_cons]
      cases hvalue : d.stored key with
      | error e =>
          refine (EndsWith.now (hs₁.aborted h)).step (a := .read w key) rfl ?_ rfl
          simp only [State.step, hs₁.stage_eq, List.mem_cons_self, if_true, hread,
            hvalue]
      | ok value =>
          refine (ih hrest (hs₁.move _)).step (a := .read w key) rfl ?_ rfl
          simp only [State.step, hs₁.stage_eq, List.mem_cons_self, if_true, hread,
            hvalue, hfilter]

/-! ## §5  The call -/

theorem takenFrom_of_next {user : User} (h : d.next rows = some (n, user)) :
    TakenFrom rows d.users ⟨d.current, n.id, attempt n, user⟩ n := by
  obtain ⟨x, hx, hfound⟩ := List.exists_of_findSome?_eq_some h
  rw [List.mem_insertionSort] at hx
  obtain ⟨m, hm, rfl⟩ := List.mem_map.mp hx
  obtain ⟨user', huser, heq⟩ := Option.map_eq_some_iff.mp hfound
  rw [Prod.mk.injEq] at heq
  obtain ⟨rfl, rfl⟩ := heq
  refine ⟨List.mem_of_mem_filter hm, rfl, rfl, ?_⟩
  have hfind := List.find?_some huser
  have hid : user'.id = m.userId := of_decide_eq_true hfind
  show (d.users.find? fun user => decide (user.id = user'.id)) = some user'
  rw [hid]
  exact huser

/-- **A worker on its own.** From tables that hold the rows of an outbox, the
steps of one call of `deliver_next` alone lead to the end of the call, with
tables that hold the rows which `deliverNext` leaves. -/
theorem deliverNext_alone {o : Outboxes} (h : Represents s o.notifications d.users)
    (hstored : s.stored = d.stored) (w : Tx) :
    ∃ s₁, s.step tables (.begin w d.current) = some s₁ ∧
      EndsWith tables d w s₁
        ((deliverNext tables d o).toOption.getD o).notifications := by
  have hbegun : s.step tables (.begin w d.current) =
      some (s.setStage w (.begun d.current)) := by
    simp only [State.step, h.quiet.idle w]
  have hstage : (s.setStage w (.begun d.current)).stage w = .begun d.current :=
    Function.update_self _ _ _
  have hcandidate : (candidates (s.setStage w (.begun d.current)).notifications
      (s.setStage w (.begun d.current)).users w fun _ => false).head? =
        (d.next o.notifications).map fun x => ((x.1.id, x.1), x.2) := h.candidate w
  have hmakes : d.Makes w (.select w fun _ => false) := ⟨rfl, rfl⟩
  refine ⟨_, hbegun, ?_⟩
  cases hnext : d.next o.notifications with
  | none =>
      have hsame : deliverNext tables d o = .ok o := by
        rw [deliverNext, hnext]
      rw [hsame]
      refine (EndsWith.now (h.left w (.begun d.current))).step hmakes ?_ rfl
      simp only [State.step, hstage, hcandidate, hnext, Option.map_none]
  | some x =>
      obtain ⟨n, user⟩ := x
      have ht := takenFrom_of_next hnext
      have houtcome : ((deliverNext tables d o).toOption.getD o).notifications =
          outcome n o.notifications (d.ending tables user o.notifications) := by
        rw [deliverNext, hnext]
        dsimp only
        cases d.ending tables user o.notifications <;> rfl
      have htaken : Holding s w ⟨d.current, n.id, attempt n, user⟩
          (.reading ⟨d.current, n.id, attempt n, user⟩ SettingKey.all fun _ => none)
          ((s.setStage w (.begun d.current)).take w
            ⟨d.current, n.id, attempt n, user⟩) :=
        ⟨rfl, rfl, rfl, Function.update_idem _ _ _⟩
      rw [houtcome]
      refine (htaken.reads h ht rfl hstored ?_).step hmakes ?_ rfl
      · decide
      · simp only [State.step, hstage, hcandidate, hnext, Option.map_some]

end SoleWorker

end LeakcheckHub.Outbox
