import LeakcheckHub.Foundation.RowVersions
import LeakcheckHub.Foundation.System
import LeakcheckHub.Outbox.Mail
import Mathlib.Data.List.Sort
import Mathlib.Algebra.Order.Ring.Int
import Mathlib.Tactic.Linarith

/-!
# Delivery of notifications

`deliver_next` of `app/notifications.py`, one SQL statement at a time: any
number of workers deliver from one outbox, each in a transaction that locks
its notification and the user of it, while others enqueue and an administrator
changes the settings. A transaction may end in an exception at any point and
is then rolled back.

§1 one notification · §2 the system · §3 what a step does · §4 locks ·
§5 cooldown · §6 dry run · §7 the law.
-/

set_option linter.unusedSectionVars false

namespace LeakcheckHub.Outbox

open Foundation Crypto

/-! ## §1  One notification -/

/-- What becomes of the notification that `deliver_next` took. -/
inductive Ending where
  | dryRun
  | suppressed
  /-- The class of the exception. -/
  | failed (exception : PyStr)
  | sent (current : Timestamp)
deriving DecidableEq, Repr

def cooldownActive : PyStr := PyStr.lit "notification cooldown active"

def finish (n : Notification) : Ending → Notification
  | .dryRun => { n with status := .dryRun }
  | .suppressed => { n with status := .suppressed, error := some cooldownActive }
  | .failed exception => { n with status := .failed, error := some exception }
  | .sent current =>
      { n with status := .sent, sentAt := some current, error := none }

/-- `notification.attempts += 1`. -/
def attempt (n : Notification) : Notification :=
  { n with attempts := n.attempts + 1 }

/-- The `WHERE` of the cooldown's count. -/
def recentlySent (userId : Uuid) (since : Timestamp) (n : Notification) : Bool :=
  n.userId == userId && n.status == .sent &&
    n.sentAt.any fun sentAt => decide (since < sentAt)

/-- `ORDER BY created_at, id`. -/
def deliveredBefore (x y : Uuid × Notification) : Prop :=
  x.2.createdAt < y.2.createdAt ∨
    x.2.createdAt = y.2.createdAt ∧ x.1.toNat ≤ y.1.toNat

instance : DecidableRel deliveredBefore := fun _ _ =>
  inferInstanceAs (Decidable (_ ∨ _))

section Message

variable (tables : TextTables)

/-- The `try` up to the call of the sender; without a sender of its own,
`deliver_next` makes one from the settings. -/
def prepare (ownSender : Bool) (values : Settings) (recipient : PyStr) :
    Except SettingError MailMessage := do
  let base ← baseUrl values
  if ownSender then .ok (renderPortalMessage recipient base)
  else do
    let _ ← smtpConfig tables values
    .ok (renderPortalMessage recipient base)

end Message

/-! ## §2  The system -/

/-- The row of a worker, with `attempts` counted up. -/
structure Taken where
  current : Timestamp
  id : Uuid
  notification : Notification
  user : User

/-- Where a call of `deliver_next` is. -/
inductive Stage where
  | idle
  /-- It has read the clock. -/
  | begun (current : Timestamp)
  /-- `read_many`, with the keys that it has still to read. -/
  | reading (t : Taken) (todo : List SettingKey) (values : Settings)
  | counting (t : Taken) (values : Settings) (cooldown : ℤ)
  | sending (t : Taken) (values : Settings)
  /-- The notification is assigned, and not committed. -/
  | finished (t : Taken) (ending : Ending)

def Stage.taken : Stage → Option Taken
  | .idle | .begun _ => none
  | .reading t _ _ | .counting t _ _ | .sending t _ | .finished t _ => some t

structure State (Tx : Type) where
  notifications : Table Uuid Tx Notification
  users : Table Uuid Tx User
  /-- What `read` of a key returns or raises. -/
  stored : SettingKey → Except SettingError (Option PyStr)
  stage : Tx → Stage
  /-- The messages that senders were called with. -/
  mails : List MailMessage

inductive Action (Tx : Type) where
  /-- Another transaction commits a new notification. -/
  | enqueue (n : Notification)
  /-- An administrator's write, seen by the reads after it. -/
  | store (key : SettingKey) (value : Except SettingError (Option PyStr))
  /-- `current = now or datetime.now(UTC)`. -/
  | begin (w : Tx) (current : Timestamp)
  /-- `busy` are the rows that transactions of other kinds have locked. -/
  | select (w : Tx) (busy : Uuid → Bool)
  | read (w : Tx) (key : SettingKey)
  | resolve (w : Tx)
  | count (w : Tx)
  /-- `raised` is the class of what `send` raises. -/
  | deliver (w : Tx) (ownSender : Bool) (raised : Option PyStr)
  | commit (w : Tx)
  | abort (w : Tx)

section System

variable {Tx : Type} [DecidableEq Tx] (tables : TextTables)

/-- The rows of the join that no other transaction has locked. -/
def candidates (notifications : Table Uuid Tx Notification)
    (users : Table Uuid Tx User) (w : Tx) (busy : Uuid → Bool) :
    List ((Uuid × Notification) × User) :=
  let free := (notifications.freeRows w).filter fun x =>
    x.2.status == .pending && !busy x.1
  (free.insertionSort deliveredBefore).filterMap fun x =>
    ((users.freeRow w x.2.userId).filter fun u =>
      decide (u.id = x.2.userId) && !busy u.id).map (x, ·)

namespace State

def setStage (s : State Tx) (w : Tx) (stage : Stage) : State Tx :=
  { s with stage := Function.update s.stage w stage }

def abort (s : State Tx) (w : Tx) : State Tx :=
  { s with
    notifications := s.notifications.rollback w
    users := s.users.rollback w
    stage := Function.update s.stage w .idle }

/-- Both rows of the join are locked. The new `attempts` is sent before the
next statement, which flushes it. -/
def take (s : State Tx) (w : Tx) (t : Taken) : State Tx :=
  { s with
    notifications := s.notifications.put w t.id (some t.notification)
    users := s.users.put w t.user.id (some t.user)
    stage := Function.update s.stage w
      (.reading t SettingKey.all fun _ => none) }

/-- The assigned columns are flushed, and the transaction commits. -/
def save (s : State Tx) (w : Tx) (t : Taken) (ending : Ending) : State Tx :=
  { s with
    notifications := (s.notifications.put w t.id
      (some (finish t.notification ending))).commit w
    users := s.users.commit w
    stage := Function.update s.stage w .idle }

/-- How many rows the count of `w` selects. -/
def recent (s : State Tx) (w : Tx) (t : Taken) (cooldown : ℤ) : ℕ :=
  (s.notifications.rows w).countP fun x =>
    recentlySent t.user.id (t.current - seconds cooldown) x.2

def step (s : State Tx) : Action Tx → Option (State Tx)
  | .enqueue n =>
      if n.id ∈ s.notifications.ids ∨ n.status ≠ .pending then none
      else some { s with
        notifications := s.notifications.insertCommitted n.id n }
  | .store key value =>
      some { s with stored := Function.update s.stored key value }
  | .begin w current =>
      match s.stage w with
      | .idle => some (s.setStage w (.begun current))
      | _ => none
  | .select w busy =>
      match s.stage w with
      | .begun current =>
          match (candidates s.notifications s.users w busy).head? with
          | none => some (s.abort w)
          | some ((id, n), user) =>
              some (s.take w ⟨current, id, attempt n, user⟩)
      | _ => none
  | .read w key =>
      match s.stage w with
      | .reading t todo values =>
          if key ∈ todo then
            match s.stored key with
            | .error _ => some (s.abort w)
            | .ok value =>
                some (s.setStage w (.reading t (todo.filter (· ≠ key))
                  (Function.update values key value)))
          else none
      | _ => none
  | .resolve w =>
      match s.stage w with
      | .reading t [] values =>
          match dryRunSetting tables (values .notifyDryRun) with
          | .error _ => some (s.abort w)
          | .ok true => some (s.setStage w (.finished t .dryRun))
          | .ok false =>
              match cooldownSetting tables
                  (values .notifyCooldownSeconds) with
              | .error _ => some (s.abort w)
              | .ok cooldown =>
                  some (s.setStage w (.counting t values cooldown))
      | _ => none
  | .count w =>
      match s.stage w with
      | .counting t values cooldown =>
          if cooldown ≠ 0 ∧ 0 < s.recent w t cooldown then
            some (s.setStage w (.finished t .suppressed))
          else some (s.setStage w (.sending t values))
      | _ => none
  | .deliver w ownSender raised =>
      match s.stage w with
      | .sending t values =>
          match prepare tables ownSender values t.user.email with
          | .error e => some (s.setStage w (.finished t (.failed e.name)))
          | .ok message =>
              let ending := match raised with
                | some exception => .failed exception
                | none => .sent t.current
              some { s.setStage w (.finished t ending) with
                mails := s.mails ++ [message] }
      | _ => none
  | .commit w =>
      match s.stage w with
      | .finished t ending => some (s.save w t ending)
      | _ => none
  | .abort w => some (s.abort w)

end State

/-- No call is in progress, and no row is locked. -/
structure Quiet (s : State Tx) : Prop where
  idle : ∀ w, s.stage w = .idle
  notifications : s.notifications.Unlocked
  users : s.users.Unlocked

def delivery : System (State Tx) (Action Tx) where
  init := Quiet
  step := State.step tables

/-- `deliver_next` would read the cooldown as `c` seconds. -/
def State.CooldownIs (s : State Tx) (c : ℤ) : Prop :=
  (s.stored .notifyCooldownSeconds).bind (cooldownSetting tables) = .ok c

instance (s : State Tx) (c : ℤ) : Decidable (s.CooldownIs tables c) :=
  inferInstanceAs (Decidable (_ = _))

/-- `deliver_next` would read the dry-run switch as on. -/
def State.DryRun (s : State Tx) : Prop :=
  (s.stored .notifyDryRun).bind (dryRunSetting tables) = .ok true

end System

/-! ## §3  What a step does -/

section Step

variable {Tx : Type} [DecidableEq Tx] {tables : TextTables} {s₀ s s' : State Tx}
  {a : Action Tx} {w v : Tx} {t : Taken} {ending : Ending} {c : ℤ}

/-- The steps of a worker between its select and its commit, with the messages
that its sender is called with. -/
inductive Moves (tables : TextTables) (s : State Tx) (w : Tx) :
    Stage → List MailMessage → Prop
  | begin {current : Timestamp} : s.stage w = .idle →
      Moves tables s w (.begun current) []
  | read {t : Taken} {todo : List SettingKey} {values : Settings}
      {key : SettingKey} {value : Option PyStr} :
      s.stage w = .reading t todo values → s.stored key = .ok value →
      Moves tables s w (.reading t (todo.filter (· ≠ key))
        (Function.update values key value)) []
  | dryRun {t : Taken} {values : Settings} :
      s.stage w = .reading t [] values →
      Moves tables s w (.finished t .dryRun) []
  | live {t : Taken} {values : Settings} {cooldown : ℤ} :
      s.stage w = .reading t [] values →
      dryRunSetting tables (values .notifyDryRun) = .ok false →
      cooldownSetting tables (values .notifyCooldownSeconds) = .ok cooldown →
      Moves tables s w (.counting t values cooldown) []
  | suppressed {t : Taken} {values : Settings} {cooldown : ℤ} :
      s.stage w = .counting t values cooldown →
      Moves tables s w (.finished t .suppressed) []
  | clear {t : Taken} {values : Settings} {cooldown : ℤ} :
      s.stage w = .counting t values cooldown →
      (cooldown ≠ 0 → s.recent w t cooldown = 0) →
      Moves tables s w (.sending t values) []
  | unprepared {t : Taken} {values : Settings} {exception : PyStr} :
      s.stage w = .sending t values →
      Moves tables s w (.finished t (.failed exception)) []
  | failed {t : Taken} {values : Settings} {message : MailMessage}
      {exception : PyStr} : s.stage w = .sending t values →
      Moves tables s w (.finished t (.failed exception)) [message]
  | sent {t : Taken} {values : Settings} {message : MailMessage} :
      s.stage w = .sending t values →
      Moves tables s w (.finished t (.sent t.current)) [message]

/-- The row that a select takes. -/
structure Takes (s : State Tx) (w : Tx) (t : Taken) : Prop where
  begun : s.stage w = .begun t.current
  free : (s.notifications.cell t.id).heldByOther w = false
  seen : ∃ n, s.notifications.read w t.id = some n ∧ n.status = .pending ∧
    t.notification = attempt n
  userFree : (s.users.cell t.user.id).heldByOther w = false
  userSeen : s.users.read w t.user.id = some t.user
  joined : t.user.id = t.notification.userId

theorem takes_of_candidate {current : Timestamp} {busy : Uuid → Bool}
    {id : Uuid} {n : Notification} {user : User}
    (hstage : s.stage w = .begun current)
    (h : (candidates s.notifications s.users w busy).head? =
      some ((id, n), user)) : Takes s w ⟨current, id, attempt n, user⟩ := by
  have hmem := List.mem_of_head? h
  obtain ⟨x, hx, hmap⟩ := List.mem_filterMap.mp hmem
  rw [List.mem_insertionSort, List.mem_filter] at hx
  obtain ⟨hfree, hpending⟩ := hx
  obtain ⟨u, hfilter, heq⟩ := Option.map_eq_some_iff.mp hmap
  obtain ⟨hu, hjoin⟩ := Option.filter_eq_some_iff.mp hfilter
  rw [Prod.mk.injEq] at heq
  obtain ⟨rfl, rfl⟩ := heq
  simp only [Bool.and_eq_true, beq_iff_eq, decide_eq_true_eq] at hpending hjoin
  have hrow := Table.freeRow_eq_some.mp (Table.mem_freeRows.mp hfree)
  have huser := Table.freeRow_eq_some.mp hu
  rw [← hjoin.1] at huser
  exact ⟨hstage, hrow.1, ⟨n, hrow.2, hpending.1, rfl⟩, huser.1, huser.2, hjoin.1⟩

/-- Every step is one of these. -/
inductive Effect (tables : TextTables) (s : State Tx) : State Tx → Prop
  | enqueued {n : Notification} : n.id ∉ s.notifications.ids →
      n.status = .pending →
      Effect tables s { s with
        notifications := s.notifications.insertCommitted n.id n }
  | stored {key : SettingKey} {value : Except SettingError (Option PyStr)} :
      Effect tables s { s with stored := Function.update s.stored key value }
  | moved {w : Tx} {stage : Stage} {mails : List MailMessage} :
      Moves tables s w stage mails →
      Effect tables s { s.setStage w stage with mails := s.mails ++ mails }
  | took {w : Tx} {t : Taken} : Takes s w t → Effect tables s (s.take w t)
  | saved {w : Tx} {t : Taken} {ending : Ending} :
      s.stage w = .finished t ending → Effect tables s (s.save w t ending)
  | aborted {w : Tx} : Effect tables s (s.abort w)

/-- A move without a message. -/
theorem Effect.silent {stage : Stage} (h : Moves tables s w stage []) :
    Effect tables s (s.setStage w stage) := by
  have heffect := Effect.moved h
  rw [List.append_nil] at heffect
  exact heffect

theorem step_effect (h : s.step tables a = some s') : Effect tables s s' := by
  cases a with
  | enqueue n =>
      simp only [State.step] at h
      split at h
      · cases h
      · rename_i hnew
        rw [not_or, not_not] at hnew
        cases h
        exact .enqueued hnew.1 hnew.2
  | store key value =>
      cases h
      exact .stored
  | begin w current =>
      simp only [State.step] at h
      split at h
      · rename_i hstage
        cases h
        exact .silent (.begin hstage)
      · cases h
  | select w busy =>
      simp only [State.step] at h
      split at h
      · rename_i current hstage
        split at h
        · cases h
          exact .aborted
        · rename_i id n user hhead
          cases h
          exact .took (takes_of_candidate hstage hhead)
      · cases h
  | read w key =>
      simp only [State.step] at h
      split at h
      · rename_i t todo values hstage
        split at h
        · split at h
          · cases h
            exact .aborted
          · rename_i value hvalue
            cases h
            exact .silent (.read hstage hvalue)
        · cases h
      · cases h
  | resolve w =>
      simp only [State.step] at h
      split at h
      · rename_i t values hstage
        split at h
        · cases h
          exact .aborted
        · cases h
          exact .silent (.dryRun hstage)
        · rename_i hlive
          split at h
          · cases h
            exact .aborted
          · rename_i cooldown hcooldown
            cases h
            exact .silent (.live hstage hlive hcooldown)
      · cases h
  | count w =>
      simp only [State.step] at h
      split at h
      · rename_i t values cooldown hstage
        split at h
        · cases h
          exact .silent (.suppressed hstage)
        · rename_i hclear
          cases h
          refine .silent (.clear hstage ?_)
          intro hne
          have hle := fun hpos => hclear ⟨hne, hpos⟩
          exact Nat.eq_zero_of_not_pos hle
      · cases h
  | deliver w ownSender raised =>
      simp only [State.step] at h
      split at h
      · rename_i t values hstage
        split at h
        · cases h
          exact .silent (.unprepared hstage)
        · cases raised with
          | none =>
              cases h
              exact .moved (.sent hstage)
          | some exception =>
              cases h
              exact .moved (.failed hstage)
      · cases h
  | commit w =>
      simp only [State.step] at h
      split at h
      · rename_i t ending hstage
        cases h
        exact .saved hstage
      · cases h
  | abort w =>
      cases h
      exact .aborted

/-! ## §4  Locks -/

/-- A worker that has taken a row holds it and the user of it, and nothing
else of the outbox. -/
structure Locked (s : State Tx) : Prop where
  row : ∀ w t, (s.stage w).taken = some t →
    ∃ n, s.notifications.committedRow t.id = some n ∧ n.status = .pending ∧
      t.notification = attempt n
  held : ∀ w t, (s.stage w).taken = some t →
    (s.notifications.cell t.id).pending = some (w, some t.notification)
  user : ∀ w t, (s.stage w).taken = some t →
    (s.users.cell t.user.id).pending = some (w, some t.user) ∧
      t.user.id = t.notification.userId
  only : ∀ w i r, (s.notifications.cell i).pending = some (w, r) →
    ∃ t, (s.stage w).taken = some t ∧ t.id = i

theorem Quiet.locked (h : Quiet s) : Locked s := by
  have hnone : ∀ w t, (s.stage w).taken ≠ some t := by
    intro w t
    rw [h.idle w]
    exact nofun
  refine ⟨?_, ?_, ?_, ?_⟩
  · intro w t ht
    exact absurd ht (hnone w t)
  · intro w t ht
    exact absurd ht (hnone w t)
  · intro w t ht
    exact absurd ht (hnone w t)
  · intro w i r hr
    exact absurd hr (h.notifications i (w, r))

/-- What a worker sees of the rows that it has not taken is committed. -/
theorem Locked.read_eq (h : Locked s) {i : Uuid}
    (hi : ∀ t, (s.stage w).taken = some t → t.id ≠ i) :
    s.notifications.read w i = s.notifications.committedRow i := by
  apply Cell.read_of_unowned
  intro r hr
  obtain ⟨t, ht, hid⟩ := h.only w i r hr
  exact hi t ht hid

/-- Two workers never hold one user. -/
theorem Locked.user_inj (h : Locked s) {t' : Taken}
    (ht : (s.stage w).taken = some t) (ht' : (s.stage v).taken = some t')
    (hu : t.user.id = t'.user.id) : w = v := by
  have hw := (h.user w t ht).1
  have hv := (h.user v t' ht').1
  rw [hu, hv, Option.some.injEq, Prod.mk.injEq] at hw
  exact hw.1.symm

theorem Locked.id_ne (h : Locked s) {t' : Taken}
    (ht : (s.stage w).taken = some t) (ht' : (s.stage v).taken = some t')
    (hne : v ≠ w) : t'.id ≠ t.id := by
  intro hid
  have hw := h.held w t ht
  have hv := h.held v t' ht'
  rw [hid, hw, Option.some.injEq, Prod.mk.injEq] at hv
  exact hne hv.1.symm

theorem Moves.taken {stage : Stage} {mails : List MailMessage}
    (h : Moves tables s w stage mails) : stage.taken = (s.stage w).taken := by
  cases h with
  | begin h | read h | dryRun h | live h | suppressed h | clear h
  | unprepared h | failed h | sent h =>
      rw [h]
      rfl

theorem taken_of_finished (hstage : s.stage w = .finished t ending) :
    (s.stage w).taken = some t := by
  rw [hstage]
  rfl

/-- The commit of a worker changes the row that it took, and no other. -/
theorem Locked.save_committedRow (h : Locked s)
    (hstage : s.stage w = .finished t ending) (i : Uuid) :
    (s.save w t ending).notifications.committedRow i =
      if i = t.id then some (finish t.notification ending)
      else s.notifications.committedRow i := by
  have htaken := taken_of_finished hstage
  show ((s.notifications.put w t.id _).commit w).committedRow i = _
  rw [Table.commit_committedRow]
  by_cases hi : i = t.id
  · rw [if_pos hi, hi, Table.read, Table.put_cell_self]
    exact Cell.read_of_pending rfl
  · rw [if_neg hi, Table.read, Table.put_cell_ne hi]
    apply h.read_eq
    intro t' ht' hid
    rw [htaken, Option.some.injEq] at ht'
    exact hi (ht' ▸ hid.symm)

/-- The rows of the other workers survive the end of `w`. -/
theorem Locked.of_others (h : Locked s)
    (hstage : ∀ v, v ≠ w → s'.stage v = s.stage v)
    (hidle : s'.stage w = .idle)
    (hrow : ∀ v t, v ≠ w → (s.stage v).taken = some t →
      s'.notifications.committedRow t.id = s.notifications.committedRow t.id)
    (hpending : ∀ v i r, (s'.notifications.cell i).pending = some (v, r) ↔
      v ≠ w ∧ (s.notifications.cell i).pending = some (v, r))
    (husers : ∀ v i r, v ≠ w → ((s'.users.cell i).pending = some (v, r) ↔
      (s.users.cell i).pending = some (v, r))) : Locked s' := by
  have hother : ∀ v t, (s'.stage v).taken = some t →
      v ≠ w ∧ (s.stage v).taken = some t := by
    intro v t ht
    by_cases hv : v = w
    · rw [hv, hidle] at ht
      cases ht
    · rw [hstage v hv] at ht
      exact ⟨hv, ht⟩
  refine ⟨?_, ?_, ?_, ?_⟩
  · intro v t ht
    obtain ⟨hv, ht⟩ := hother v t ht
    rw [hrow v t hv ht]
    exact h.row v t ht
  · intro v t ht
    obtain ⟨hv, ht⟩ := hother v t ht
    exact (hpending v t.id _).mpr ⟨hv, h.held v t ht⟩
  · intro v t ht
    obtain ⟨hv, ht⟩ := hother v t ht
    obtain ⟨huser, hjoin⟩ := h.user v t ht
    exact ⟨(husers v t.user.id _ hv).mpr huser, hjoin⟩
  · intro v i r hr
    obtain ⟨hv, hr⟩ := (hpending v i r).mp hr
    obtain ⟨t, ht, hid⟩ := h.only v i r hr
    exact ⟨t, by rw [hstage v hv]; exact ht, hid⟩

theorem Locked.abort (h : Locked s) : Locked (s.abort w) := by
  apply h.of_others (w := w)
  · intro v hv
    exact Function.update_of_ne hv _ _
  · exact Function.update_self _ _ _
  · intro v t _ _
    exact Table.rollback_committedRow
  · intro v i r
    by_cases hv : v = w
    · refine iff_of_false ?_ fun hx => hx.1 hv
      rw [hv]
      exact Cell.rollback_pending_ne
    · rw [and_iff_right hv]
      exact Cell.rollback_pending_other hv
  · intro v i r hv
    exact Cell.rollback_pending_other hv

theorem Locked.save (h : Locked s) (hstage : s.stage w = .finished t ending) :
    Locked (s.save w t ending) := by
  have htaken := taken_of_finished hstage
  apply h.of_others (w := w)
  · intro v hv
    exact Function.update_of_ne hv _ _
  · exact Function.update_self _ _ _
  · intro v t' hv ht'
    rw [h.save_committedRow hstage, if_neg (h.id_ne htaken ht' hv)]
  · intro v i r
    by_cases hv : v = w
    · refine iff_of_false ?_ fun hx => hx.1 hv
      rw [hv]
      exact Cell.commit_pending_ne
    · rw [and_iff_right hv]
      refine (Cell.commit_pending_other hv).trans (Table.put_pending_other hv ?_)
      exact Cell.heldByOther_of_pending (h.held w t htaken)
  · intro v i r hv
    exact Cell.commit_pending_other hv

theorem Locked.take (h : Locked s) (ht : Takes s w t) : Locked (s.take w t) := by
  have hnone : (s.stage w).taken = none := by rw [ht.begun]; rfl
  have hothers : ∀ v, v ≠ w → (s.take w t).stage v = s.stage v :=
    fun v hv => Function.update_of_ne hv _ _
  have hself : ((s.take w t).stage w).taken = some t := by
    show (Function.update s.stage w _ w).taken = _
    rw [Function.update_self]
    rfl
  refine ⟨?_, ?_, ?_, ?_⟩
  · intro v t' ht'
    have hcommitted : (s.take w t).notifications.committedRow t'.id =
        s.notifications.committedRow t'.id := Table.put_committedRow
    rw [hcommitted]
    by_cases hv : v = w
    · rw [hv, hself, Option.some.injEq] at ht'
      subst ht'
      -- it held nothing before, so what it read is committed
      obtain ⟨n, hread, hn⟩ := ht.seen
      refine ⟨n, ?_, hn⟩
      rw [← h.read_eq (w := w)]
      · exact hread
      · intro t' ht'
        rw [hnone] at ht'
        cases ht'
    · rw [hothers v hv] at ht'
      exact h.row v t' ht'
  · intro v t' ht'
    by_cases hv : v = w
    · rw [hv, hself, Option.some.injEq] at ht'
      subst ht'
      show ((s.notifications.put w t.id _).cell t.id).pending = _
      rw [Table.put_cell_self, hv]
      rfl
    · rw [hothers v hv] at ht'
      exact (Table.put_pending_other hv ht.free).mpr (h.held v t' ht')
  · intro v t' ht'
    by_cases hv : v = w
    · rw [hv, hself, Option.some.injEq] at ht'
      subst ht'
      refine ⟨?_, ht.joined⟩
      show ((s.users.put w t.user.id _).cell t.user.id).pending = _
      rw [Table.put_cell_self, hv]
      rfl
    · rw [hothers v hv] at ht'
      obtain ⟨huser, hjoin⟩ := h.user v t' ht'
      exact ⟨(Table.put_pending_other hv ht.userFree).mpr huser, hjoin⟩
  · intro v i r hr
    by_cases hv : v = w
    · subst hv
      refine ⟨t, hself, ?_⟩
      by_contra hi
      have hr' : ((s.notifications.put v t.id _).cell i).pending = some (v, r) := hr
      rw [Table.put_cell_ne (Ne.symm hi)] at hr'
      obtain ⟨t', ht', -⟩ := h.only v i r hr'
      rw [hnone] at ht'
      cases ht'
    · have hr' := (Table.put_pending_other hv ht.free).mp hr
      obtain ⟨t', ht', hid⟩ := h.only v i r hr'
      exact ⟨t', by rw [hothers v hv]; exact ht', hid⟩

theorem Locked.move (h : Locked s) {stage : Stage} {mails : List MailMessage}
    (hm : Moves tables s w stage mails) :
    Locked { s.setStage w stage with mails := s.mails ++ mails } := by
  have hsame : ∀ v, (Function.update s.stage w stage v).taken =
      (s.stage v).taken := by
    intro v
    by_cases hv : v = w
    · rw [hv, Function.update_self]
      exact hm.taken
    · rw [Function.update_of_ne hv]
  refine ⟨?_, ?_, ?_, ?_⟩
  · intro v t ht
    exact h.row v t ((hsame v).symm.trans ht)
  · intro v t ht
    exact h.held v t ((hsame v).symm.trans ht)
  · intro v t ht
    exact h.user v t ((hsame v).symm.trans ht)
  · intro v i r hr
    obtain ⟨t, ht, hid⟩ := h.only v i r hr
    exact ⟨t, (hsame v).trans ht, hid⟩

theorem Locked.enqueue (h : Locked s) {n : Notification}
    (hn : n.id ∉ s.notifications.ids) :
    Locked { s with
      notifications := s.notifications.insertCommitted n.id n } := by
  have hne : ∀ w t, (s.stage w).taken = some t → t.id ≠ n.id := by
    intro w t ht hid
    obtain ⟨m, hm, -⟩ := h.row w t ht
    exact hn (hid ▸ Table.mem_ids_of_committedRow hm)
  refine ⟨?_, ?_, h.user, ?_⟩
  · intro w t ht
    have hcell : (s.notifications.insertCommitted n.id n).cell t.id =
        s.notifications.cell t.id := Table.insertCommitted_cell_ne (hne w t ht)
    show ∃ m, ((s.notifications.insertCommitted n.id n).cell t.id).committed =
      some m ∧ _
    rw [hcell]
    exact h.row w t ht
  · intro w t ht
    show ((s.notifications.insertCommitted n.id n).cell t.id).pending = _
    rw [Table.insertCommitted_cell_ne (hne w t ht)]
    exact h.held w t ht
  · intro w i r hr
    by_cases hi : i = n.id
    · subst hi
      have hr' : ((s.notifications.insertCommitted n.id n).cell n.id).pending =
        some (w, r) := hr
      rw [Table.insertCommitted, Table.setCell_cell_self] at hr'
      cases hr'
    · have hr' : ((s.notifications.insertCommitted n.id n).cell i).pending =
        some (w, r) := hr
      rw [Table.insertCommitted_cell_ne hi] at hr'
      exact h.only w i r hr'

theorem Locked.effect (h : Locked s) (he : Effect tables s s') : Locked s' := by
  cases he with
  | enqueued hn _ => exact h.enqueue hn
  | stored => exact ⟨h.row, h.held, h.user, h.only⟩
  | moved hm => exact h.move hm
  | took ht => exact h.take ht
  | saved hstage => exact h.save hstage
  | aborted => exact h.abort

/-- What becomes of a committed row in one step. -/
theorem Locked.committedRow (h : Locked s) (he : Effect tables s s') (i : Uuid) :
    s'.notifications.committedRow i = s.notifications.committedRow i ∨
    (s.notifications.committedRow i = none ∧
      ∃ n, s'.notifications.committedRow i = some n ∧ n.status = .pending) ∨
    ∃ w t ending, s.stage w = .finished t ending ∧ t.id = i ∧
      s' = s.save w t ending ∧
      s'.notifications.committedRow i = some (finish t.notification ending) := by
  cases he with
  | @enqueued n hn hpending =>
      by_cases hi : i = n.id
      · right; left
        subst hi
        refine ⟨?_, n, ?_, hpending⟩
        · show (s.notifications.cell n.id).committed = none
          rw [s.notifications.absent _ hn]
          rfl
        · show ((s.notifications.insertCommitted n.id n).cell n.id).committed = _
          rw [Table.insertCommitted, Table.setCell_cell_self]
      · left
        show ((s.notifications.insertCommitted n.id n).cell i).committed = _
        rw [Table.insertCommitted_cell_ne hi]
        rfl
  | stored => exact .inl rfl
  | moved hm => exact .inl rfl
  | took ht => exact .inl Table.put_committedRow
  | @saved w t ending hstage =>
      have hrow := h.save_committedRow hstage i
      by_cases hi : i = t.id
      · rw [if_pos hi] at hrow
        exact .inr (.inr ⟨w, t, ending, hstage, hi.symm, rfl, hrow⟩)
      · rw [if_neg hi] at hrow
        exact .inl hrow
  | aborted => exact .inl Table.rollback_committedRow

/-- A notification that has left PENDING stays as it is. -/
theorem Locked.settled (h : Locked s) (he : Effect tables s s') {i : Uuid}
    {n : Notification} (hn : s.notifications.committedRow i = some n)
    (hstatus : n.status ≠ .pending) :
    s'.notifications.committedRow i = some n := by
  rcases h.committedRow he i with hsame | ⟨hnone, -⟩ | ⟨w, t, e, hstage, hid, -, -⟩
  · rw [hsame, hn]
  · rw [hn] at hnone
    cases hnone
  · have htaken := taken_of_finished hstage
    obtain ⟨m, hm, hpending, -⟩ := h.row w t htaken
    rw [hid, hn, Option.some.injEq] at hm
    exact absurd (hm ▸ hpending) hstatus

/-! ## §5  Cooldown -/

/-- The notification was not SENT in `s₀`. -/
def BecameSent (s₀ : State Tx) (i : Uuid) : Prop :=
  ∀ n, s₀.notifications.committedRow i = some n → n.status ≠ .sent

/-- A notification that became SENT keeps its distance from every other SENT
notification of its user. -/
def Apart (c : ℤ) (s₀ s : State Tx) : Prop :=
  ∀ i j n m, i ≠ j → s.notifications.committedRow i = some n →
    s.notifications.committedRow j = some m → n.status = .sent →
    m.status = .sent → n.userId = m.userId → BecameSent s₀ i →
      ∃ a, n.sentAt = some a ∧ ∀ b, m.sentAt = some b → seconds c ≤ |a - b|

/-- The cooldown that a call has read is `c`, and the time that it will write
is that of its clock. -/
def Stage.ReadsAs (tables : TextTables) (c : ℤ) : Stage → Prop
  | .reading _ todo values => .notifyCooldownSeconds ∉ todo →
      cooldownSetting tables (values .notifyCooldownSeconds) = .ok c
  | .counting _ _ cooldown => cooldown = c
  | .finished t (.sent current) => current = t.current
  | _ => True

/-- The row of a call whose count found nothing. -/
def Stage.cleared : Stage → Option Taken
  | .sending t _ | .finished t (.sent _) => some t
  | _ => none

theorem Stage.taken_of_cleared {stage : Stage} (h : stage.cleared = some t) :
    stage.taken = some t := by
  unfold Stage.cleared at h
  split at h
  · exact h
  · exact h
  · cases h

/-- What is SENT to the user was sent a cooldown ago. -/
def ClearOf (c : ℤ) (s : State Tx) (t : Taken) : Prop :=
  ∀ j m b, s.notifications.committedRow j = some m → m.status = .sent →
    m.userId = t.user.id → m.sentAt = some b → b ≤ t.current - seconds c

structure Spaced (c : ℤ) (s₀ s : State Tx) : Prop where
  clear : ∀ w t, (s.stage w).cleared = some t → ClearOf c s t
  stamped : ∀ i n, s.notifications.committedRow i = some n →
    n.status = .sent → BecameSent s₀ i → ∃ a, n.sentAt = some a
  apart : Apart c s₀ s

theorem Quiet.spaced (h : Quiet s) : Spaced c s s := by
  refine ⟨?_, ?_, ?_⟩
  · intro w t ht
    rw [h.idle w] at ht
    cases ht
  · intro i n hn hsent hbecame
    exact absurd hsent (hbecame n hn)
  · intro i j n m _ hn _ hsent _ _ hbecame
    exact absurd hsent (hbecame n hn)

/-- The stages after a step. -/
theorem effect_stage (he : Effect tables s s') (v : Tx) :
    s'.stage v = s.stage v ∨ s'.stage v = .idle ∨
    (∃ t, s'.stage v = .reading t SettingKey.all fun _ => none) ∨
    ∃ mails, Moves tables s v (s'.stage v) mails := by
  cases he with
  | enqueued | stored => exact .inl rfl
  | @moved w stage mails hm =>
      by_cases hv : v = w
      · subst hv
        right; right; right
        refine ⟨mails, ?_⟩
        show Moves tables s v (Function.update s.stage v stage v) mails
        rw [Function.update_self]
        exact hm
      · exact .inl (Function.update_of_ne hv _ _)
  | @took w t ht =>
      by_cases hv : v = w
      · subst hv
        exact .inr (.inr (.inl ⟨t, Function.update_self _ _ _⟩))
      · exact .inl (Function.update_of_ne hv _ _)
  | @saved w t ending hstage =>
      by_cases hv : v = w
      · subst hv
        exact .inr (.inl (Function.update_self _ _ _))
      · exact .inl (Function.update_of_ne hv _ _)
  | @aborted w =>
      by_cases hv : v = w
      · subst hv
        exact .inr (.inl (Function.update_self _ _ _))
      · exact .inl (Function.update_of_ne hv _ _)

theorem Moves.readsAs {stage : Stage} {mails : List MailMessage}
    (hm : Moves tables s w stage mails) (hc : s.CooldownIs tables c)
    (h : (s.stage w).ReadsAs tables c) : stage.ReadsAs tables c := by
  cases hm with
  | begin | dryRun | suppressed | clear | unprepared | failed => trivial
  | @read t todo values key value hstage hvalue =>
      rw [hstage] at h
      intro hnot
      by_cases hkey : key = .notifyCooldownSeconds
      · subst hkey
        rw [Function.update_self]
        have hread := hc
        unfold State.CooldownIs at hread
        rw [hvalue] at hread
        exact hread
      · rw [Function.update_of_ne (Ne.symm hkey)]
        apply h
        intro hmem
        apply hnot
        rw [List.mem_filter]
        exact ⟨hmem, decide_eq_true (Ne.symm hkey)⟩
  | live hstage _ hcooldown =>
      rw [hstage] at h
      have hread := h List.not_mem_nil
      rw [hcooldown, Except.ok.injEq] at hread
      exact hread
  | sent => rfl

theorem readsAs_effect (he : Effect tables s s') (hc : s.CooldownIs tables c)
    (h : ∀ w, (s.stage w).ReadsAs tables c) (v : Tx) :
    (s'.stage v).ReadsAs tables c := by
  rcases effect_stage he v with hsame | hidle | ⟨t, hreading⟩ | ⟨mails, hm⟩
  · rw [hsame]
    exact h v
  · rw [hidle]
    trivial
  · rw [hreading]
    intro hnot
    exact absurd (by decide) hnot
  · exact hm.readsAs hc (h v)

/-- **The count.** A call goes on only when all that is SENT to its user was
sent a cooldown before its clock. -/
theorem Locked.clear_of_count (h : Locked s) (hpos : 0 < c)
    (hcount : c ≠ 0 → s.recent w t c = 0) : ClearOf c s t := by
  intro j m b hm hsent huser hb
  by_contra hlate
  have hj : ∀ t', (s.stage w).taken = some t' → t'.id ≠ j := by
    intro t' ht' hid
    obtain ⟨n, hn, hpending, -⟩ := h.row w t' ht'
    rw [hid, hm, Option.some.injEq] at hn
    rw [← hn, hsent] at hpending
    cases hpending
  -- so the count sees it
  have hread : s.notifications.read w j = some m := by
    rw [h.read_eq hj]
    exact hm
  have hnone := List.countP_eq_zero.mp (hcount (Int.ne_of_gt hpos)) (j, m)
    (Table.mem_rows.mpr hread)
  apply hnone
  have hlt : t.current - seconds c < b := Int.not_le.mp hlate
  simp [recentlySent, huser, hsent, hb, hlt]

theorem Moves.cleared {stage : Stage} {mails : List MailMessage}
    (hm : Moves tables s w stage mails) (hl : Locked s) (hpos : 0 < c)
    (hr : (s.stage w).ReadsAs tables c)
    (h : ∀ t, (s.stage w).cleared = some t → ClearOf c s t)
    (ht : stage.cleared = some t) : ClearOf c s t := by
  cases hm with
  | begin | read | dryRun | live | suppressed | unprepared | failed => cases ht
  | clear hstage hcount =>
      cases ht
      rw [hstage] at hr
      have hcooldown := hr
      rw [show _ = c from hcooldown] at hcount
      exact hl.clear_of_count hpos hcount
  | sent hstage =>
      cases ht
      exact h _ (by rw [hstage]; rfl)

/-- A step after which nothing else is SENT. -/
theorem Spaced.of_no_new (h : Spaced c s₀ s)
    (hrows : ∀ i n, s'.notifications.committedRow i = some n →
      n.status = .sent → s.notifications.committedRow i = some n)
    (hclear : ∀ w t, (s'.stage w).cleared = some t → ClearOf c s t) :
    Spaced c s₀ s' := by
  refine ⟨?_, ?_, ?_⟩
  · intro w t ht j m b hm hsent
    exact hclear w t ht j m b (hrows j m hm hsent) hsent
  · intro i n hn hsent
    exact h.stamped i n (hrows i n hn hsent) hsent
  · intro i j n m hij hn hm hsent hsent'
    exact h.apart i j n m hij (hrows i n hn hsent) (hrows j m hm hsent') hsent
      hsent'

theorem finish_status_sent {n : Notification}
    (h : (finish n ending).status = .sent) : ∃ current, ending = .sent current := by
  cases ending with
  | sent current => exact ⟨current, rfl⟩
  | dryRun | suppressed | failed => cases h

theorem apart_of_le {a b x : ℤ} (h : b ≤ a - x) : x ≤ |a - b| := by
  have hle : x ≤ a - b := by linarith
  exact hle.trans (le_abs_self _)

/-- The commit of a SENT notification. -/
theorem Spaced.sent (h : Spaced c s₀ s) (hl : Locked s)
    (hstage : s.stage w = .finished t (.sent t.current)) :
    Spaced c s₀ (s.save w t (.sent t.current)) := by
  have htaken := taken_of_finished hstage
  have hclear : ClearOf c s t := h.clear w t (by rw [hstage]; rfl)
  have hrow := hl.save_committedRow hstage
  have huser : (finish t.notification (.sent t.current)).userId = t.user.id :=
    (hl.user w t htaken).2.symm
  refine ⟨?_, ?_, ?_⟩
  · intro v t' ht' j m b hm hsent hof hb
    have hv : v ≠ w := by
      rintro rfl
      have hidle : (s.save v t (.sent t.current)).stage v = .idle :=
        Function.update_self _ _ _
      rw [hidle] at ht'
      cases ht'
    have hsame : (s.save w t (.sent t.current)).stage v = s.stage v :=
      Function.update_of_ne hv _ _
    rw [hsame] at ht'
    rw [hrow j] at hm
    split at hm
    · -- the new row is of another user: that user is locked
      cases hm
      have heq := hl.user_inj htaken (Stage.taken_of_cleared ht')
        (huser.symm.trans hof)
      exact absurd heq.symm hv
    · exact h.clear v t' ht' j m b hm hsent hof hb
  · intro i n hn hsent hbecame
    rw [hrow i] at hn
    split at hn
    · cases hn
      exact ⟨t.current, rfl⟩
    · exact h.stamped i n hn hsent hbecame
  · intro i j n m hij hn hm hsent hsent' hof hbecame
    rw [hrow i] at hn
    rw [hrow j] at hm
    split at hn
    · rename_i hi
      rw [if_neg (fun hj => hij (hi.trans hj.symm))] at hm
      cases hn
      refine ⟨t.current, rfl, fun b hb => ?_⟩
      exact apart_of_le (hclear j m b hm hsent' (hof.symm.trans huser) hb)
    · obtain ⟨a, ha⟩ := h.stamped i n hn hsent hbecame
      split at hm
      · cases hm
        refine ⟨a, ha, fun b hb => ?_⟩
        cases hb
        rw [abs_sub_comm]
        exact apart_of_le (hclear i n a hn hsent (hof.trans huser) ha)
      · exact h.apart i j n m hij hn hm hsent hsent' hof hbecame

theorem Spaced.effect (h : Spaced c s₀ s) (hl : Locked s) (hpos : 0 < c)
    (hr : ∀ w, (s.stage w).ReadsAs tables c) (he : Effect tables s s') :
    Spaced c s₀ s' := by
  by_cases hsent : ∃ w t x, s.stage w = .finished t (.sent x) ∧
      s' = s.save w t (.sent x)
  · obtain ⟨w, t, x, hstage, rfl⟩ := hsent
    have hx : x = t.current := by
      have hreads := hr w
      rw [hstage] at hreads
      exact hreads
    subst hx
    exact h.sent hl hstage
  · apply h.of_no_new
    · intro i n hn hstatus
      rcases hl.committedRow he i with hsame | ⟨-, m, hm, hpending⟩ |
        ⟨w, t, ending, hstage, -, hsave, hrow⟩
      · rw [← hsame]
        exact hn
      · rw [hn, Option.some.injEq] at hm
        rw [← hm, hstatus] at hpending
        cases hpending
      · rw [hn, Option.some.injEq] at hrow
        rw [hrow] at hstatus
        obtain ⟨x, rfl⟩ := finish_status_sent hstatus
        exact absurd ⟨w, t, x, hstage, hsave⟩ hsent
    · intro v t ht
      rcases effect_stage he v with hsame | hidle | ⟨t', hreading⟩ | ⟨mails, hm⟩
      · rw [hsame] at ht
        exact h.clear v t ht
      · rw [hidle] at ht
        cases ht
      · rw [hreading] at ht
        cases ht
      · exact hm.cleared hl hpos (hr v) (h.clear v) ht

/-! ## §6  Dry run -/

/-- The call has not read the switch, or has read it as on. -/
def Stage.Dry (tables : TextTables) : Stage → Prop
  | .reading _ todo values => .notifyDryRun ∉ todo →
      dryRunSetting tables (values .notifyDryRun) = .ok true
  | .counting _ _ _ | .sending _ _ => False
  | .idle | .begun _ | .finished _ _ => True

theorem Moves.dry {stage : Stage} {mails : List MailMessage}
    (hm : Moves tables s w stage mails) (hdry : s.DryRun tables)
    (h : (s.stage w).Dry tables) : stage.Dry tables ∧ mails = [] := by
  cases hm with
  | begin | dryRun => exact ⟨trivial, rfl⟩
  | @read t todo values key value hstage hvalue =>
      rw [hstage] at h
      refine ⟨?_, rfl⟩
      intro hnot
      by_cases hkey : key = .notifyDryRun
      · subst hkey
        rw [Function.update_self]
        have hread := hdry
        unfold State.DryRun at hread
        rw [hvalue] at hread
        exact hread
      · rw [Function.update_of_ne (Ne.symm hkey)]
        apply h
        intro hmem
        apply hnot
        rw [List.mem_filter]
        exact ⟨hmem, decide_eq_true (Ne.symm hkey)⟩
  | live hstage hlive _ =>
      rw [hstage] at h
      have hon := h List.not_mem_nil
      rw [hlive] at hon
      cases hon
  | suppressed hstage | clear hstage _ | unprepared hstage | failed hstage
  | sent hstage =>
      rw [hstage] at h
      exact absurd h id

theorem dry_effect (he : Effect tables s s') (hdry : s.DryRun tables)
    (h : ∀ w, (s.stage w).Dry tables) :
    (∀ w, (s'.stage w).Dry tables) ∧ s'.mails = s.mails := by
  refine ⟨?_, ?_⟩
  · intro v
    rcases effect_stage he v with hsame | hidle | ⟨t, hreading⟩ | ⟨mails, hm⟩
    · rw [hsame]
      exact h v
    · rw [hidle]
      trivial
    · rw [hreading]
      intro hnot
      exact absurd (by decide) hnot
    · exact (hm.dry hdry (h v)).1
  · cases he with
    | enqueued | stored | took | saved | aborted => rfl
    | @moved w stage mails hm =>
        have hnone := (hm.dry hdry (h w)).2
        rw [hnone]
        exact List.append_nil _

/-! ## §7  The law -/

/-- A notification that is not PENDING in `s` is never touched again. -/
def LeftForGood (tables : TextTables) (s : State Tx) : Prop :=
  ∀ s', (delivery tables).Leads (fun _ _ => True) s s' → ∀ i n,
    s.notifications.committedRow i = some n → n.status ≠ .pending →
      s'.notifications.committedRow i = some n

/-- From `s` on, and as long as the switch is on, no sender is called; no call
that is in progress in `s` has read the switch as off. -/
def SilentInDryRun (tables : TextTables) (s : State Tx) : Prop :=
  (∀ w, (s.stage w).Dry tables) → ∀ s',
    (delivery tables).Leads (fun s _ => s.DryRun tables) s s' →
      s'.mails = s.mails

theorem Locked.leads {G : State Tx → Action Tx → Prop}
    (h : Locked s) (hrun : (delivery tables).Leads G s s') : Locked s' := by
  apply hrun.invariant _ h
  intro x a y hx _ hstep
  exact hx.effect (step_effect hstep)

theorem Locked.leftForGood (h : Locked s) : LeftForGood tables s := by
  intro s' hrun i n hn hstatus
  have hinv : Locked s' ∧ s'.notifications.committedRow i = some n := by
    apply hrun.invariant (I := fun x =>
      Locked x ∧ x.notifications.committedRow i = some n) _ ⟨h, hn⟩
    rintro x a y ⟨hx, hrow⟩ - hstep
    have he := step_effect hstep
    exact ⟨hx.effect he, hx.settled he hrow hstatus⟩
  exact hinv.2

theorem silentInDryRun (s : State Tx) : SilentInDryRun tables s := by
  intro hdry s' hrun
  have hinv : (∀ w, (s'.stage w).Dry tables) ∧ s'.mails = s.mails := by
    apply hrun.invariant (I := fun x =>
      (∀ w, (x.stage w).Dry tables) ∧ x.mails = s.mails) _ ⟨hdry, rfl⟩
    rintro x a y ⟨hx, hmails⟩ hon hstep
    obtain ⟨hy, hsame⟩ := dry_effect (step_effect hstep) hon hx
    exact ⟨hy, hsame.trans hmails⟩
  exact hinv.2

/-- **Delivery.** Along every run of any number of workers with a constant
positive cooldown, the notifications of one user that become SENT are a
cooldown apart, each leaves PENDING once, and no sender is called in dry
run. -/
theorem deliveries_law (hpos : 0 < c) (h₀ : Quiet s₀)
    (hrun : (delivery tables).Leads (fun s _ => s.CooldownIs tables c) s₀ s) :
    Apart c s₀ s ∧ LeftForGood tables s ∧ SilentInDryRun tables s := by
  have hinv : Locked s ∧ (∀ w, (s.stage w).ReadsAs tables c) ∧
      Spaced c s₀ s := by
    apply hrun.invariant (I := fun x =>
      Locked x ∧ (∀ w, (x.stage w).ReadsAs tables c) ∧ Spaced c s₀ x)
    · rintro x a y ⟨hl, hr, hs⟩ hc hstep
      have he := step_effect hstep
      exact ⟨hl.effect he, readsAs_effect he hc hr, hs.effect hl hpos hr he⟩
    · refine ⟨h₀.locked, ?_, h₀.spaced⟩
      intro w
      rw [h₀.idle w]
      trivial
  obtain ⟨hl, -, hs⟩ := hinv
  exact ⟨hs.apart, hl.leftForGood, silentInDryRun s⟩

end Step

/-- ASCII letters and digits. -/
def asciiTables : TextTables where
  casefold := PyStr.asciiLower
  decimal := fun _ => none

def sampleNotification (id : Uuid) (createdAt : Timestamp) : Notification where
  id := id
  userId := 1
  template := PyStr.lit "new_findings"
  findingIds := []
  status := .pending
  dedupeKey := id.bytes
  attempts := 0
  error := none
  createdAt := createdAt
  sentAt := none

def sampleUser : User where
  id := 1
  email := PyStr.lit "ana@corp.example"
  googleSub := none
  displayName := PyStr.lit "Ana"
  ouPath := none
  role := .user
  isActive := true
  source := .google
  createdAt := 0
  lastLoginAt := none

/-- Two notifications of one user; deliveries are on, with the default
cooldown of a day. -/
def sampleOutbox : State (Fin 2) where
  notifications := (Table.empty.insertCommitted 1 (sampleNotification 1 0)).insertCommitted
    2 (sampleNotification 2 1)
  users := Table.empty.insertCommitted 1 sampleUser
  stored
    | .notifyDryRun => .ok (some (PyStr.lit "Off"))
    | .publicBaseUrl => .ok (some (PyStr.lit "https://hub.example/"))
    | _ => .ok none
  stage := fun _ => .idle
  mails := []

theorem sampleOutbox_quiet : Quiet sampleOutbox where
  idle := fun _ => rfl
  notifications := Table.unlocked_empty.insertCommitted.insertCommitted
  users := Table.unlocked_empty.insertCommitted

/-- A whole call of `deliver_next`. -/
def sampleCall (w : Fin 2) (current : Timestamp) : List (Action (Fin 2)) :=
  [.begin w current, .select w fun _ => false] ++
    SettingKey.all.map (.read w) ++
    [.resolve w, .count w, .deliver w true none, .commit w]

/-- The second worker meets the lock on the user, and comes back a day
later. -/
def sampleDeliveries : List (Action (Fin 2)) :=
  [.begin 1 5, .begin 0 0, .select 0 fun _ => false,
    .select 1 fun _ => false] ++
    SettingKey.all.map (.read 0) ++
    [.resolve 0, .count 0, .deliver 0 true none, .commit 0] ++
    sampleCall 1 (seconds 86400)

/-- Both are sent, a day apart. -/
theorem sampleDeliveries_apart : ∃ s,
    (s.notifications.committedRow 1).bind Notification.sentAt = some 0 ∧
    (s.notifications.committedRow 2).bind Notification.sentAt =
      some (seconds 86400) ∧
    Apart 86400 sampleOutbox s ∧ LeftForGood asciiTables s ∧
    SilentInDryRun asciiTables s := by
  have hrun : ∃ s, (delivery asciiTables).runUnder
      (fun s _ => s.CooldownIs asciiTables 86400) sampleOutbox
      sampleDeliveries = some s ∧
      (s.notifications.committedRow 1).bind Notification.sentAt = some 0 ∧
      (s.notifications.committedRow 2).bind Notification.sentAt =
        some (seconds 86400) :=
    System.exists_of_runUnder (by decide +kernel)
  obtain ⟨s, hrun, hfirst, hsecond⟩ := hrun
  exact ⟨s, hfirst, hsecond, deliveries_law (by decide) sampleOutbox_quiet
    (System.leads_of_runUnder hrun)⟩

end LeakcheckHub.Outbox
