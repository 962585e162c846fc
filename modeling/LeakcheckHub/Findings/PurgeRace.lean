import LeakcheckHub.Foundation.System
import LeakcheckHub.Foundation.RowVersions
import LeakcheckHub.Findings.Remediation
import LeakcheckHub.Findings.Retention

/-!
# Purging while analysts work

`purge_expired_findings` in transactions of its own, interleaved statement by
statement with `remediate_finding` and `unremediate_finding`. The purge
selects ids without a lock and deletes by id in two further statements.

§1 sessions and steps · §2 what a step does · §3 what sessions hold ·
§4 one session among others · §5 the law · §6 a reopened finding is lost.
-/

set_option linter.unusedSectionVars false

namespace LeakcheckHub.Findings

open Foundation

/-! ## §1  Sessions and steps -/

/-- Progress of a transaction. `changed` tells whether the locked finding was
in another state than the requested one. -/
inductive Stage where
  | idle
  | locked (c : Change) (id : Uuid)
  | updated (c : Change) (id : Uuid)
  | recorded (c : Change) (id : Uuid) (changed : Bool)
  | selected (cutoff : Timestamp) (ids : List Uuid)
  | eventsDeleted (cutoff : Timestamp) (ids : List Uuid)
  | deleted (cutoff : Timestamp) (ids : List Uuid)
deriving DecidableEq

inductive Action (Session : Type) where
  | lock (t : Session) (c : Change) (id : Uuid)
  | update (t : Session)
  | insertEvent (t : Session) (eventId : Uuid)
  | select (t : Session) (policy : RetentionPolicy) (now : Timestamp)
      (limit : ℕ) (ids : List Uuid)
  | deleteEvents (t : Session)
  | deleteFindings (t : Session)
  | commit (t : Session)
  | abort (t : Session)

structure State (Session : Type) where
  findings : Table Uuid Session Finding
  events : Table Uuid Session FindingEvent
  session : Session → Stage

section Step

variable {Session : Type} [DecidableEq Session]

def State.setSession (s : State Session) (t : Session) (x : Stage) :
    State Session :=
  { s with session := fun u => if u = t then x else s.session u }

def State.commit (s : State Session) (t : Session) : State Session :=
  { s with findings := s.findings.commit t, events := s.events.commit t }

def State.rollback (s : State Session) (t : Session) : State Session :=
  { s with findings := s.findings.rollback t, events := s.events.rollback t }

/-- A row that the transaction sees still refers to a finding it has just
deleted: through `finding_events.finding_id` or `findings.superseded_by_id`,
both without an `ON DELETE` action. -/
def referenced (s : State Session) (t : Session)
    (remaining : Table Uuid Session Finding) (ids : List Uuid) : Bool :=
  let gone := fun i => decide (i ∈ ids) && (s.findings.read t i).isSome
  (s.events.rows t).any (fun x => gone x.2.findingId) ||
    (remaining.rows t).any fun x => x.2.supersededById.any gone

def step (s : State Session) : Action Session → Option (State Session)
  | .lock t c id =>
      match s.session t with
      | .idle =>
          match s.findings.read t id with
          | none => some s
          | some f =>
              if (s.findings.cell id).heldByOther t then none
              else some ({ s with
                findings := s.findings.put t id (some f) }.setSession t
                  (.locked c id))
      | _ => none
  | .update t =>
      match s.session t with
      | .locked c id =>
          match s.findings.read t id with
          | none => none
          | some f =>
              if c.applies f then
                some ({ s with
                  findings := s.findings.put t id
                    (some (c.apply f)) }.setSession t (.updated c id))
              else some (s.setSession t (.recorded c id false))
      | _ => none
  | .insertEvent t eventId =>
      match s.session t with
      | .updated c id =>
          if eventId ∈ s.events.ids then none
          else some ({ s with
            events := s.events.put t eventId
              (some (c.event eventId id)) }.setSession t
                (.recorded c id true))
      | _ => none
  | .select t policy now limit ids =>
      match s.session t, policy.cutoff now with
      | .idle, some cutoff =>
          if policy.deletesAnything &&
              chosen (s.findings.rows t) cutoff limit ids then
            some (s.setSession t
              (if ids.isEmpty then .idle else .selected cutoff ids))
          else none
      | _, _ => none
  | .deleteEvents t =>
      match s.session t with
      | .selected cutoff ids =>
          (s.events.deleteWhere t fun _ e => decide (e.findingId ∈ ids)).map
            fun events => { s with events }.setSession t
              (.eventsDeleted cutoff ids)
      | _ => none
  | .deleteFindings t =>
      match s.session t with
      | .eventsDeleted cutoff ids =>
          (s.findings.deleteWhere t fun i _ => decide (i ∈ ids)).map
            fun findings =>
              if referenced s t findings ids then
                (s.rollback t).setSession t .idle
              else { s with findings }.setSession t (.deleted cutoff ids)
      | _ => none
  | .commit t =>
      match s.session t with
      | .recorded .. | .deleted .. => some ((s.commit t).setSession t .idle)
      | _ => none
  | .abort t => some ((s.rollback t).setSession t .idle)

/-- Any committed findings and events, with no transaction open. -/
def Quiescent (s : State Session) : Prop :=
  (∀ t, s.session t = .idle) ∧ s.findings.Unlocked ∧ s.events.Unlocked

def system (Session : Type) [DecidableEq Session] :
    System (State Session) (Action Session) where
  init := Quiescent
  step := step

end Step

variable {Session : Type} [DecidableEq Session] {s s' : State Session}
  {a : Action Session} {t u : Session}

/-- A purge deletes only findings that are remediated and past its cutoff in
the committed state its `DELETE` runs in. -/
def DeletesOnlyExpired (s : State Session) : Prop :=
  ∀ t cutoff ids s', s.session t = .eventsDeleted cutoff ids →
    step s (.deleteFindings t) = some s' →
      ∀ i f, s.findings.committedRow i = some f →
        s'.findings.read t i = none → expired cutoff f = true

/-- The finding that the commit of a session reopens. -/
def Stage.reopens : Stage → Option Uuid
  | .recorded (.unremediate ..) id true => some id
  | _ => none

/-- What an open purge has selected and not begun to delete. -/
def Stage.chosenIds : Stage → List Uuid
  | .selected _ ids => ids
  | _ => []

/-- No finding is reopened between the select of a purge that chose it and
that purge's delete of its events. -/
def NoReopenUnderPurge (s : State Session) : Action Session → Prop
  | .commit u =>
      ∀ t, ∀ i ∈ (s.session u).reopens, i ∉ (s.session t).chosenIds
  | _ => True

/-! ## §2  What a step does -/

inductive StepOf (s : State Session) : Action Session → State Session → Prop
  | notFound {t c id} (ht : s.session t = .idle)
      (hr : s.findings.read t id = none) : StepOf s (.lock t c id) s
  | lock {t c id f} (ht : s.session t = .idle)
      (hr : s.findings.read t id = some f)
      (hfree : (s.findings.cell id).heldByOther t = false) :
      StepOf s (.lock t c id)
        ({ s with findings := s.findings.put t id (some f) }.setSession t
          (.locked c id))
  | update {t c id f} (ht : s.session t = .locked c id)
      (hr : s.findings.read t id = some f) (hc : c.applies f = true) :
      StepOf s (.update t)
        ({ s with
            findings := s.findings.put t id (some (c.apply f)) }.setSession t
              (.updated c id))
  | leave {t c id f} (ht : s.session t = .locked c id)
      (hr : s.findings.read t id = some f) (hc : c.applies f = false) :
      StepOf s (.update t) (s.setSession t (.recorded c id false))
  | insertEvent {t c id eventId} (ht : s.session t = .updated c id)
      (hnew : eventId ∉ s.events.ids) :
      StepOf s (.insertEvent t eventId)
        ({ s with
            events := s.events.put t eventId
              (some (c.event eventId id)) }.setSession t
                (.recorded c id true))
  | selectNone {t policy now limit ids} (ht : s.session t = .idle) :
      StepOf s (.select t policy now limit ids) (s.setSession t .idle)
  | select {t policy now limit ids cutoff} (ht : s.session t = .idle)
      (hids : chosen (s.findings.rows t) cutoff limit ids = true) :
      StepOf s (.select t policy now limit ids)
        (s.setSession t (.selected cutoff ids))
  | deleteEvents {t cutoff ids events} (ht : s.session t = .selected cutoff ids)
      (hdel : s.events.deleteWhere t (fun _ e => decide (e.findingId ∈ ids)) =
        some events) :
      StepOf s (.deleteEvents t)
        ({ s with events }.setSession t (.eventsDeleted cutoff ids))
  | violation {t cutoff ids} (ht : s.session t = .eventsDeleted cutoff ids) :
      StepOf s (.deleteFindings t) ((s.rollback t).setSession t .idle)
  | deleteFindings {t cutoff ids findings}
      (ht : s.session t = .eventsDeleted cutoff ids)
      (hdel : s.findings.deleteWhere t (fun i _ => decide (i ∈ ids)) =
        some findings)
      (href : referenced s t findings ids = false) :
      StepOf s (.deleteFindings t)
        ({ s with findings }.setSession t (.deleted cutoff ids))
  | commitChange {t c id changed} (ht : s.session t = .recorded c id changed) :
      StepOf s (.commit t) ((s.commit t).setSession t .idle)
  | commitPurge {t cutoff ids} (ht : s.session t = .deleted cutoff ids) :
      StepOf s (.commit t) ((s.commit t).setSession t .idle)
  | abort {v} : StepOf s (.abort v) ((s.rollback v).setSession v .idle)

theorem step_cases (h : step s a = some s') : StepOf s a s' := by
  cases a with
  | lock t c id =>
      cases ht : s.session t with
      | idle =>
          cases hr : s.findings.read t id with
          | none =>
              simp only [step, ht, hr, Option.some.injEq] at h
              exact h ▸ .notFound ht hr
          | some f =>
              simp only [step, ht, hr] at h
              split at h
              · cases h
              · rename_i hfree
                rw [Option.some.injEq] at h
                exact h ▸ .lock ht hr (by simpa using hfree)
      | _ => simp [step, ht] at h
  | update t =>
      cases ht : s.session t with
      | locked c id =>
          cases hr : s.findings.read t id with
          | none => simp [step, ht, hr] at h
          | some f =>
              simp only [step, ht, hr] at h
              split at h
              · rename_i hc
                rw [Option.some.injEq] at h
                exact h ▸ .update ht hr hc
              · rename_i hc
                rw [Option.some.injEq] at h
                exact h ▸ .leave ht hr (by simpa using hc)
      | _ => simp [step, ht] at h
  | insertEvent t eventId =>
      cases ht : s.session t with
      | updated c id =>
          simp only [step, ht] at h
          split at h
          · cases h
          · rename_i hnew
            rw [Option.some.injEq] at h
            exact h ▸ .insertEvent ht hnew
      | _ => simp [step, ht] at h
  | select t policy now limit ids =>
      cases ht : s.session t with
      | idle =>
          cases hc : policy.cutoff now with
          | none => simp [step, ht, hc] at h
          | some cutoff =>
              simp only [step, ht, hc, Option.ite_none_right_eq_some,
                Bool.and_eq_true, Option.some.injEq] at h
              obtain ⟨⟨-, hids⟩, rfl⟩ := h
              cases hempty : ids.isEmpty with
              | true => exact .selectNone ht
              | false => exact .select ht hids
      | _ => simp [step, ht] at h
  | deleteEvents t =>
      cases ht : s.session t with
      | selected cutoff ids =>
          simp only [step, ht, Option.map_eq_some_iff] at h
          obtain ⟨events, hdel, rfl⟩ := h
          exact .deleteEvents ht hdel
      | _ => simp [step, ht] at h
  | deleteFindings t =>
      cases ht : s.session t with
      | eventsDeleted cutoff ids =>
          simp only [step, ht, Option.map_eq_some_iff] at h
          obtain ⟨findings, hdel, rfl⟩ := h
          cases href : referenced s t findings ids with
          | true => exact .violation ht
          | false => exact .deleteFindings ht hdel href
      | _ => simp [step, ht] at h
  | commit t =>
      cases ht : s.session t with
      | recorded c id changed =>
          simp only [step, ht, Option.some.injEq] at h
          exact h ▸ .commitChange ht
      | deleted cutoff ids =>
          simp only [step, ht, Option.some.injEq] at h
          exact h ▸ .commitPurge ht
      | _ => simp [step, ht] at h
  | abort t =>
      simp only [step, Option.some.injEq] at h
      exact h ▸ .abort

/-! ## §3  What sessions hold -/

/-- The finding rows a session may have pending. -/
def findingWrite : Stage → Uuid → Finding → Option Finding → Prop
  | .locked _ id, i, f, x => i = id ∧ x = some f
  | .updated c id, i, f, x =>
      i = id ∧ c.applies f = true ∧ x = some (c.apply f)
  | .recorded c id true, i, f, x =>
      i = id ∧ c.applies f = true ∧ x = some (c.apply f)
  | .recorded _ id false, i, f, x => i = id ∧ x = some f
  | .deleted _ ids, i, _, x => i ∈ ids ∧ x = none
  | _, _, _, _ => False

/-- The event rows a session may have pending, over the committed ones. -/
def eventWrite : Stage → Option FindingEvent → Option FindingEvent → Prop
  | .recorded c id true, old, new =>
      old = none ∧ ∃ e, new = some (c.event e id)
  | .eventsDeleted _ ids, old, new =>
      new = none ∧ ∃ ev, old = some ev ∧ ev.findingId ∈ ids
  | .deleted _ ids, old, new =>
      new = none ∧ ∃ ev, old = some ev ∧ ev.findingId ∈ ids
  | _, _, _ => False

/-- The finding a session has locked to change it. -/
def Stage.row : Stage → Option Uuid
  | .locked _ id | .updated _ id | .recorded _ id _ => some id
  | _ => none

/-- Neither about to delete nor with an event to commit. -/
def Stage.plain : Stage → Bool
  | .idle | .locked .. | .updated .. | .recorded _ _ false => true
  | _ => false

/-- An event that will make the delete of its finding fail: `t` sees it. -/
def Protected (s : State Session) (t : Session) (i : Uuid) : Prop :=
  ∃ e ev, s.events.committedRow e = some ev ∧ ev.findingId = i ∧
    ∀ x, (s.events.cell e).pending ≠ some (t, x)

structure SessionSafe (s : State Session) (t : Session) : Prop where
  findings : ∀ i x, (s.findings.cell i).pending = some (t, x) →
    ∃ f, s.findings.committedRow i = some f ∧
      findingWrite (s.session t) i f x
  events : ∀ e x, (s.events.cell e).pending = some (t, x) →
    eventWrite (s.session t) (s.events.committedRow e) x
  holds : ∀ i, (s.session t).row = some i →
    ∃ x, (s.findings.cell i).pending = some (t, x)
  recorded : ∀ c i, s.session t = .recorded c i true →
    ∃ e ev, (s.events.cell e).pending = some (t, some ev) ∧
      ev.findingId = i
  removed : ∀ cutoff ids, s.session t = .deleted cutoff ids →
    ∀ i ∈ ids, ∀ f, s.findings.committedRow i = some f →
      (s.findings.cell i).pending = some (t, none)
  selected : ∀ cutoff ids, s.session t = .selected cutoff ids →
    ∀ i ∈ ids, ∀ f, s.findings.committedRow i = some f →
      expired cutoff f = true
  eventsDeleted : ∀ cutoff ids, s.session t = .eventsDeleted cutoff ids →
    ∀ i ∈ ids, ∀ f, s.findings.committedRow i = some f →
      expired cutoff f = true ∨ Protected s t i

def Safe (s : State Session) : Prop := ∀ t, SessionSafe s t

@[simp] theorem setSession_findings {x : Stage} :
    (s.setSession t x).findings = s.findings := rfl

@[simp] theorem setSession_events {x : Stage} :
    (s.setSession t x).events = s.events := rfl

@[simp] theorem setSession_self {x : Stage} :
    (s.setSession t x).session t = x := if_pos rfl

theorem setSession_ne {x : Stage} (h : u ≠ t) :
    (s.setSession t x).session u = s.session u := if_neg h

theorem setSession_same : s.setSession t (s.session t) = s := by
  have hsession : (fun u => if u = t then s.session t else s.session u) =
      s.session := by
    funext u
    split
    · rename_i hu
      rw [hu]
    · rfl
  rw [State.setSession, hsession]

/-! ## §4  One session among others -/

/-- A statement of `t` commits nothing and leaves the other sessions and what
they hold as they are. -/
structure Statement (s s' : State Session) (t : Session) : Prop where
  sessions : ∀ u, u ≠ t → s'.session u = s.session u
  findingRows : ∀ i, s'.findings.committedRow i = s.findings.committedRow i
  eventRows : ∀ e, s'.events.committedRow e = s.events.committedRow e
  findingLocks : ∀ u, u ≠ t → ∀ i x,
    (s'.findings.cell i).pending = some (u, x) ↔
      (s.findings.cell i).pending = some (u, x)
  eventLocks : ∀ u, u ≠ t → ∀ e x,
    (s'.events.cell e).pending = some (u, x) ↔
      (s.events.cell e).pending = some (u, x)

/-- The other sessions do not notice a statement. -/
theorem SessionSafe.frame (h : SessionSafe s u) (hs : Statement s s' t)
    (hut : u ≠ t) : SessionSafe s' u := by
  have hsess := hs.sessions u hut
  constructor
  case findings =>
    intro i x hp
    rw [hs.findingLocks u hut] at hp
    rw [hs.findingRows, hsess]
    exact h.findings i x hp
  case events =>
    intro e x hp
    rw [hs.eventLocks u hut] at hp
    rw [hs.eventRows, hsess]
    exact h.events e x hp
  case holds =>
    intro i hrow
    rw [hsess] at hrow
    obtain ⟨x, hp⟩ := h.holds i hrow
    exact ⟨x, (hs.findingLocks u hut i x).mpr hp⟩
  case recorded =>
    intro c i hrec
    rw [hsess] at hrec
    obtain ⟨e, ev, hp, hev⟩ := h.recorded c i hrec
    exact ⟨e, ev, (hs.eventLocks u hut e _).mpr hp, hev⟩
  case removed =>
    intro cutoff ids hdel i hi f hf
    rw [hsess] at hdel
    rw [hs.findingRows] at hf
    exact (hs.findingLocks u hut i _).mpr (h.removed cutoff ids hdel i hi f hf)
  case selected =>
    intro cutoff ids hsel i hi f hf
    rw [hsess] at hsel
    rw [hs.findingRows] at hf
    exact h.selected cutoff ids hsel i hi f hf
  case eventsDeleted =>
    intro cutoff ids hdel i hi f hf
    rw [hsess] at hdel
    rw [hs.findingRows] at hf
    refine (h.eventsDeleted cutoff ids hdel i hi f hf).imp_right ?_
    rintro ⟨e, ev, hev, hid, hown⟩
    refine ⟨e, ev, (hs.eventRows e).trans hev, hid, fun x hp => hown x ?_⟩
    exact (hs.eventLocks u hut e x).mp hp

theorem Safe.statement (h : Safe s) (hs : Statement s s' t)
    (ht : SessionSafe s' t) : Safe s' := by
  intro u
  by_cases hut : u = t
  · exact hut ▸ ht
  · exact (h u).frame hs hut

/-- A session whose stage allows no pending rows has none. -/
theorem SessionSafe.no_finding (h : SessionSafe s t)
    (hw : ∀ i f x, ¬ findingWrite (s.session t) i f x) (i : Uuid)
    (x : Option Finding) : (s.findings.cell i).pending ≠ some (t, x) := by
  intro hp
  obtain ⟨f, -, hf⟩ := h.findings i x hp
  exact hw i f x hf

theorem SessionSafe.no_event (h : SessionSafe s t)
    (hw : ∀ o n, ¬ eventWrite (s.session t) o n) (e : Uuid)
    (x : Option FindingEvent) : (s.events.cell e).pending ≠ some (t, x) :=
  fun hp => hw _ x (h.events e x hp)

theorem statement_setSession {x : Stage} :
    Statement s (s.setSession t x) t where
  sessions := fun _ hu => setSession_ne hu
  findingRows := fun _ => rfl
  eventRows := fun _ => rfl
  findingLocks := fun _ _ _ _ => Iff.rfl
  eventLocks := fun _ _ _ _ => Iff.rfl

theorem statement_putFinding {i : Uuid} {r : Option Finding} {x : Stage}
    (hfree : (s.findings.cell i).heldByOther t = false) :
    Statement s ({ s with findings := s.findings.put t i r }.setSession t x)
      t where
  sessions := fun _ hu => setSession_ne hu
  findingRows := fun _ => Table.put_committedRow
  eventRows := fun _ => rfl
  findingLocks := fun _ hu _ _ => Table.put_pending_other hu hfree
  eventLocks := fun _ _ _ _ => Iff.rfl

theorem statement_putEvent {e : Uuid} {r : Option FindingEvent} {x : Stage}
    (hfree : (s.events.cell e).heldByOther t = false) :
    Statement s ({ s with events := s.events.put t e r }.setSession t x)
      t where
  sessions := fun _ hu => setSession_ne hu
  findingRows := fun _ => rfl
  eventRows := fun _ => Table.put_committedRow
  findingLocks := fun _ _ _ _ => Iff.rfl
  eventLocks := fun _ hu _ _ => Table.put_pending_other hu hfree

theorem statement_rollback {x : Stage} :
    Statement s ((s.rollback t).setSession t x) t where
  sessions := fun _ hu => setSession_ne hu
  findingRows := fun _ => Table.rollback_committedRow
  eventRows := fun _ => Table.rollback_committedRow
  findingLocks := fun _ hu _ _ => Cell.rollback_pending_other hu
  eventLocks := fun _ hu _ _ => Cell.rollback_pending_other hu

theorem statement_deleteEvents {p : Uuid → FindingEvent → Bool}
    {events : Table Uuid Session FindingEvent} {x : Stage}
    (hdel : s.events.deleteWhere t p = some events) :
    Statement s ({ s with events }.setSession t x) t where
  sessions := fun _ hu => setSession_ne hu
  findingRows := fun _ => rfl
  eventRows := by
    intro e
    obtain ⟨rfl, -⟩ := Table.deleteWhere_spec hdel
    exact Table.deleteVisible_committedRow
  findingLocks := fun _ _ _ _ => Iff.rfl
  eventLocks := fun _ hu _ _ => Table.deleteWhere_pending_other hdel hu

theorem statement_deleteFindings {p : Uuid → Finding → Bool}
    {findings : Table Uuid Session Finding} {x : Stage}
    (hdel : s.findings.deleteWhere t p = some findings) :
    Statement s ({ s with findings }.setSession t x) t where
  sessions := fun _ hu => setSession_ne hu
  findingRows := by
    intro i
    obtain ⟨rfl, -⟩ := Table.deleteWhere_spec hdel
    exact Table.deleteVisible_committedRow
  eventRows := fun _ => rfl
  findingLocks := fun _ hu _ _ => Table.deleteWhere_pending_other hdel hu
  eventLocks := fun _ _ _ _ => Iff.rfl

/-! ### Each statement, for its own session -/

/-- A session that neither waits to delete nor has an event pending. -/
theorem sessionSafe_of_plain {x : Stage} (hx : s.session t = x)
    (hplain : x.plain = true)
    (hfindings : ∀ i r, (s.findings.cell i).pending = some (t, r) →
      ∃ f, s.findings.committedRow i = some f ∧ findingWrite x i f r)
    (hevents : ∀ e r, (s.events.cell e).pending ≠ some (t, r))
    (hholds : ∀ i, x.row = some i →
      ∃ r, (s.findings.cell i).pending = some (t, r)) :
    SessionSafe s t := by
  subst hx
  constructor
  case findings =>
    exact hfindings
  case events =>
    intro e r hp
    exact absurd hp (hevents e r)
  case holds =>
    exact hholds
  case recorded =>
    intro c i hrec
    rw [hrec] at hplain
    cases hplain
  case removed =>
    intro cutoff ids hdel
    rw [hdel] at hplain
    cases hplain
  case selected =>
    intro cutoff ids hsel
    rw [hsel] at hplain
    cases hplain
  case eventsDeleted =>
    intro cutoff ids hdel
    rw [hdel] at hplain
    cases hplain

/-- What an unlocked session reads is committed. -/
theorem SessionSafe.read_finding (h : SessionSafe s t)
    (hw : ∀ i f x, ¬ findingWrite (s.session t) i f x) (i : Uuid) :
    s.findings.read t i = s.findings.committedRow i :=
  Cell.read_of_unowned (h.no_finding hw i)

theorem SessionSafe.read_event (h : SessionSafe s t)
    (hw : ∀ o n, ¬ eventWrite (s.session t) o n) (e : Uuid) :
    s.events.read t e = s.events.committedRow e :=
  Cell.read_of_unowned (h.no_event hw e)

theorem SessionSafe.lock (h : SessionSafe s t) (ht : s.session t = .idle)
    {c : Change} {id : Uuid} {f : Finding}
    (hr : s.findings.read t id = some f) :
    SessionSafe ({ s with
      findings := s.findings.put t id (some f) }.setSession t
        (.locked c id)) t := by
  have hidle : ∀ i f x, ¬ findingWrite (s.session t) i f x := by
    intro i f x
    rw [ht]
    exact fun hw => hw
  rw [h.read_finding hidle] at hr
  refine sessionSafe_of_plain setSession_self rfl ?_ ?_ ?_
  · intro i r hp
    simp only [setSession_findings, Table.put_committedRow] at hp ⊢
    by_cases hi : i = id
    · subst hi
      rw [Table.put_cell_self, Cell.put_pending, Option.some.injEq,
        Prod.mk.injEq] at hp
      exact ⟨f, hr, rfl, hp.2.symm⟩
    · rw [Table.put_cell_ne hi] at hp
      exact absurd hp (h.no_finding hidle i r)
  · exact h.no_event (by rw [ht]; exact fun _ _ hw => hw)
  · intro i hrow
    cases hrow
    exact ⟨some f, by rw [setSession_findings, Table.put_cell_self]; rfl⟩

theorem SessionSafe.update (h : SessionSafe s t) {c : Change} {id : Uuid}
    {f : Finding} (ht : s.session t = .locked c id)
    (hr : s.findings.read t id = some f) (hc : c.applies f = true) :
    SessionSafe ({ s with
      findings := s.findings.put t id (some (c.apply f)) }.setSession t
        (.updated c id)) t := by
  refine sessionSafe_of_plain setSession_self rfl ?_ ?_ ?_
  · intro i r hp
    simp only [setSession_findings, Table.put_committedRow] at hp ⊢
    by_cases hi : i = id
    · subst hi
      obtain ⟨x, hheld⟩ := h.holds i (by rw [ht]; rfl)
      obtain ⟨f₀, hf₀, hw⟩ := h.findings i x hheld
      rw [ht] at hw
      obtain ⟨-, rfl⟩ := hw
      rw [Table.read, Cell.read_of_pending hheld] at hr
      cases hr
      rw [Table.put_cell_self, Cell.put_pending, Option.some.injEq,
        Prod.mk.injEq] at hp
      exact ⟨f, hf₀, rfl, hc, hp.2.symm⟩
    · rw [Table.put_cell_ne hi] at hp
      obtain ⟨f₀, -, hw⟩ := h.findings i r hp
      rw [ht] at hw
      exact absurd hw.1 hi
  · exact h.no_event (by rw [ht]; exact fun _ _ hw => hw)
  · intro i hrow
    cases hrow
    exact ⟨_, by rw [setSession_findings, Table.put_cell_self]; rfl⟩

theorem SessionSafe.leave (h : SessionSafe s t) {c : Change} {id : Uuid}
    (ht : s.session t = .locked c id) :
    SessionSafe (s.setSession t (.recorded c id false)) t := by
  refine sessionSafe_of_plain setSession_self rfl ?_ ?_ ?_
  · intro i r hp
    obtain ⟨f, hf, hw⟩ := h.findings i r hp
    rw [ht] at hw
    exact ⟨f, hf, hw⟩
  · exact h.no_event (by rw [ht]; exact fun _ _ hw => hw)
  · intro i hrow
    cases hrow
    exact h.holds id (by rw [ht]; rfl)

theorem SessionSafe.insertEvent (h : SessionSafe s t) {c : Change}
    {id eventId : Uuid} (ht : s.session t = .updated c id)
    (hnew : eventId ∉ s.events.ids) :
    SessionSafe ({ s with
      events := s.events.put t eventId
        (some (c.event eventId id)) }.setSession t
          (.recorded c id true)) t := by
  have hnone : s.events.committedRow eventId = none := by
    rw [Table.committedRow, s.events.absent eventId hnew]
    rfl
  constructor
  · intro i r hp
    obtain ⟨f, hf, hw⟩ := h.findings i r hp
    rw [ht] at hw
    exact ⟨f, hf, by rw [setSession_self]; exact hw⟩
  · intro e r hp
    simp only [setSession_events, setSession_self,
      Table.put_committedRow] at hp ⊢
    by_cases he : e = eventId
    · subst he
      rw [Table.put_cell_self, Cell.put_pending, Option.some.injEq,
        Prod.mk.injEq] at hp
      exact ⟨hnone, e, hp.2.symm⟩
    · rw [Table.put_cell_ne he] at hp
      have hw := h.events e r hp
      rw [ht] at hw
      exact hw.elim
  · intro i hrow
    rw [setSession_self] at hrow
    cases hrow
    exact h.holds id (by rw [ht]; rfl)
  · intro c' i hrec
    rw [setSession_self] at hrec
    cases hrec
    refine ⟨eventId, c.event eventId id, ?_, rfl⟩
    rw [setSession_events, Table.put_cell_self]
    rfl
  all_goals
    intro cutoff ids hstage
    rw [setSession_self] at hstage
    cases hstage

theorem SessionSafe.select (h : SessionSafe s t) (ht : s.session t = .idle)
    {cutoff : Timestamp} {limit : ℕ} {ids : List Uuid}
    (hids : chosen (s.findings.rows t) cutoff limit ids = true) :
    SessionSafe (s.setSession t (.selected cutoff ids)) t := by
  have hidle : ∀ i f x, ¬ findingWrite (s.session t) i f x := by
    intro i f x
    rw [ht]
    exact fun hw => hw
  constructor
  case findings =>
    intro i r hp
    exact absurd hp (h.no_finding hidle i r)
  case events =>
    intro e r hp
    exact absurd hp (h.no_event (by rw [ht]; exact fun _ _ hw => hw) e r)
  case holds =>
    intro i hrow
    rw [setSession_self] at hrow
    cases hrow
  case recorded =>
    intro c i hrec
    rw [setSession_self] at hrec
    cases hrec
  case removed =>
    intro cutoff' ids' hdel
    rw [setSession_self] at hdel
    cases hdel
  case selected =>
    intro cutoff' ids' hsel i hi f hf
    rw [setSession_self] at hsel
    cases hsel
    obtain ⟨f', hmem, hexp⟩ := chosen_mem hids hi
    rw [Table.mem_rows, h.read_finding hidle] at hmem
    rw [setSession_findings, hmem] at hf
    cases hf
    exact hexp
  case eventsDeleted =>
    intro cutoff' ids' hdel
    rw [setSession_self] at hdel
    cases hdel

theorem SessionSafe.deleteEvents (h : SessionSafe s t) {cutoff : Timestamp}
    {ids : List Uuid} {events : Table Uuid Session FindingEvent}
    (ht : s.session t = .selected cutoff ids)
    (hdel : s.events.deleteWhere t (fun _ e => decide (e.findingId ∈ ids)) =
      some events) :
    SessionSafe ({ s with events }.setSession t
      (.eventsDeleted cutoff ids)) t := by
  have hnoEvent : ∀ o n, ¬ eventWrite (s.session t) o n := by
    intro o n
    rw [ht]
    exact fun hw => hw
  obtain ⟨rfl, -⟩ := Table.deleteWhere_spec hdel
  constructor
  case findings =>
    intro i r hp
    refine absurd hp (h.no_finding ?_ i r)
    rw [ht]
    exact fun _ _ _ hw => hw
  case events =>
    intro e r hp
    simp only [setSession_events, setSession_self,
      Table.deleteVisible_committedRow] at hp ⊢
    -- an event that the statement deleted, or one that it left alone
    by_cases hm : ∃ ev, s.events.read t e = some ev ∧ ev.findingId ∈ ids
    · obtain ⟨ev, hev, hid⟩ := hm
      rw [Table.deleteVisible_cell_of_match hev (decide_eq_true hid),
        Cell.put_pending, Option.some.injEq, Prod.mk.injEq] at hp
      rw [h.read_event hnoEvent] at hev
      exact ⟨hp.2.symm, ev, hev, hid⟩
    · rw [Table.deleteVisible_cell_of_no_match] at hp
      · exact absurd hp (h.no_event hnoEvent e r)
      · intro ev hev
        exact decide_eq_false fun hid => hm ⟨ev, hev, hid⟩
  case holds =>
    intro i hrow
    rw [setSession_self] at hrow
    cases hrow
  case recorded =>
    intro c i hrec
    rw [setSession_self] at hrec
    cases hrec
  case removed =>
    intro cutoff' ids' hstage
    rw [setSession_self] at hstage
    cases hstage
  case selected =>
    intro cutoff' ids' hstage
    rw [setSession_self] at hstage
    cases hstage
  case eventsDeleted =>
    intro cutoff' ids' hstage i hi f hf
    rw [setSession_self] at hstage
    cases hstage
    exact .inl (h.selected cutoff ids ht i hi f hf)

theorem SessionSafe.deleteFindings (h : SessionSafe s t)
    {cutoff : Timestamp} {ids : List Uuid}
    {findings : Table Uuid Session Finding}
    (ht : s.session t = .eventsDeleted cutoff ids)
    (hdel : s.findings.deleteWhere t (fun i _ => decide (i ∈ ids)) =
      some findings) :
    SessionSafe ({ s with findings }.setSession t (.deleted cutoff ids))
      t := by
  have hnoFinding : ∀ i f x, ¬ findingWrite (s.session t) i f x := by
    intro i f x
    rw [ht]
    exact fun hw => hw
  obtain ⟨rfl, -⟩ := Table.deleteWhere_spec hdel
  constructor
  case findings =>
    intro i r hp
    simp only [setSession_findings, setSession_self,
      Table.deleteVisible_committedRow] at hp ⊢
    by_cases hm : ∃ f, s.findings.read t i = some f ∧ i ∈ ids
    · obtain ⟨f, hf, hi⟩ := hm
      rw [Table.deleteVisible_cell_of_match hf (decide_eq_true hi),
        Cell.put_pending, Option.some.injEq, Prod.mk.injEq] at hp
      rw [h.read_finding hnoFinding] at hf
      exact ⟨f, hf, hi, hp.2.symm⟩
    · rw [Table.deleteVisible_cell_of_no_match] at hp
      · exact absurd hp (h.no_finding hnoFinding i r)
      · intro f hf
        exact decide_eq_false fun hi => hm ⟨f, hf, hi⟩
  case events =>
    intro e r hp
    have hw := h.events e r hp
    rw [ht] at hw
    rw [setSession_self]
    exact hw
  case holds =>
    intro i hrow
    rw [setSession_self] at hrow
    cases hrow
  case recorded =>
    intro c i hrec
    rw [setSession_self] at hrec
    cases hrec
  case removed =>
    intro cutoff' ids' hstage i hi f hf
    rw [setSession_self] at hstage
    cases hstage
    simp only [setSession_findings,
      Table.deleteVisible_committedRow] at hf ⊢
    rw [Table.deleteVisible_cell_of_match
      ((h.read_finding hnoFinding i).trans hf) (decide_eq_true hi),
      Cell.put_pending]
  case selected =>
    intro cutoff' ids' hstage
    rw [setSession_self] at hstage
    cases hstage
  case eventsDeleted =>
    intro cutoff' ids' hstage
    rw [setSession_self] at hstage
    cases hstage

theorem sessionSafe_rollback :
    SessionSafe ((s.rollback t).setSession t .idle) t := by
  refine sessionSafe_of_plain setSession_self rfl ?_ ?_ ?_
  · intro i r hp
    exact absurd hp Cell.rollback_pending_ne
  · intro e r
    exact Cell.rollback_pending_ne
  · intro i hrow
    cases hrow

/-! ### The end of a transaction, for the others -/

/-- A commit replaces a finding only by what its change makes of it. -/
theorem SessionSafe.commit_finding (h : SessionSafe s t) {i : Uuid}
    {f : Finding} (hf : (s.findings.commit t).committedRow i = some f) :
    s.findings.committedRow i = some f ∨
      ∃ c f₀, (s.session t = .updated c i ∨ s.session t = .recorded c i true) ∧
        s.findings.committedRow i = some f₀ ∧ c.applies f₀ = true ∧
          f = c.apply f₀ := by
  rw [Table.commit_committedRow] at hf
  rcases Cell.read_cases t (s.findings.cell i) with ⟨x, hp, hread⟩ | ⟨-, hread⟩
  · rw [Table.read, hread] at hf
    subst hf
    obtain ⟨f₀, hf₀, hw⟩ := h.findings i (some f) hp
    cases hst : s.session t with
    | locked c id =>
        rw [hst] at hw
        obtain ⟨rfl, hx⟩ := hw
        exact .inl (hf₀.trans hx.symm)
    | updated c id =>
        rw [hst] at hw
        obtain ⟨rfl, hc, hx⟩ := hw
        rw [Option.some.injEq] at hx
        exact .inr ⟨c, f₀, .inl rfl, hf₀, hc, hx⟩
    | recorded c id changed =>
        rw [hst] at hw
        cases changed with
        | false =>
            obtain ⟨rfl, hx⟩ := hw
            exact .inl (hf₀.trans hx.symm)
        | true =>
            obtain ⟨rfl, hc, hx⟩ := hw
            rw [Option.some.injEq] at hx
            exact .inr ⟨c, f₀, .inr rfl, hf₀, hc, hx⟩
    | deleted cutoff ids =>
        rw [hst] at hw
        cases hw.2
    | _ =>
        rw [hst] at hw
        exact hw.elim
  · rw [Table.read, hread] at hf
    exact .inl hf

theorem sessionSafe_commit :
    SessionSafe ((s.commit t).setSession t .idle) t := by
  refine sessionSafe_of_plain setSession_self rfl ?_ ?_ ?_
  · intro i r hp
    exact absurd hp Cell.commit_pending_ne
  · intro e r
    exact Cell.commit_pending_ne
  · intro i hrow
    cases hrow

/-- What protects a finding from `u` outlasts the commit of `t`, unless `t`
deletes the finding itself. -/
theorem Protected.commit {i : Uuid} (hp : Protected s u i)
    (ht : SessionSafe s t) (hut : u ≠ t)
    (hdone : (∃ c id ch, s.session t = .recorded c id ch) ∨
      ∃ cutoff ids, s.session t = .deleted cutoff ids)
    (hi : (s.findings.commit t).committedRow i ≠ none)  :
    Protected ((s.commit t).setSession t .idle) u i := by
  obtain ⟨e, ev, hev, hid, hown⟩ := hp
  refine ⟨e, ev, ?_, hid, ?_⟩
  · rw [setSession_events, State.commit, Table.commit_committedRow]
    rcases Cell.read_cases t (s.events.cell e) with ⟨x, hpend, -⟩ | ⟨-, hread⟩
    · have hw := ht.events e x hpend
      rcases hdone with ⟨c, id, ch, hst⟩ | ⟨cutoff, ids, hst⟩
      · rw [hst] at hw
        cases ch with
        | false => exact hw.elim
        | true =>
            rw [hw.1] at hev
            cases hev
      · rw [hst, hev] at hw
        obtain ⟨-, ev', hev', hmem⟩ := hw
        cases hev'
        -- `t` took the finding along with the event
        refine absurd ?_ hi
        rw [Table.commit_committedRow]
        cases hf : s.findings.committedRow i with
        | none =>
            refine (Cell.read_of_unowned fun x hx => ?_).trans hf
            obtain ⟨f, hf', -⟩ := ht.findings i x hx
            rw [hf] at hf'
            cases hf'
        | some f =>
            have hgone := ht.removed cutoff ids hst i (hid ▸ hmem) f hf
            exact Cell.read_of_pending hgone
    · exact hread.trans hev
  · intro x hx
    rw [setSession_events, State.commit, Table.commit_cell,
      Cell.commit_pending_other hut] at hx
    exact hown x hx

/-- A change that applies to an expired finding reopens it. -/
theorem reopens_of_expired {cutoff : Timestamp} {f : Finding} {c : Change}
    (hexp : expired cutoff f = true) (hc : c.applies f = true) :
    ∃ actor now, c = .unremediate actor now := by
  cases c with
  | unremediate actor now => exact ⟨actor, now, rfl⟩
  | remediate actor note now =>
      have hnone : f.remediatedAt = none := Option.isNone_iff_eq_none.mp hc
      rw [expired, hnone] at hexp
      cases hexp

/-- The event of a committed change protects its finding. -/
theorem protected_of_recorded {c : Change} {i : Uuid} (ht : SessionSafe s t)
    (hut : u ≠ t) (hst : s.session t = .recorded c i true) :
    Protected ((s.commit t).setSession t .idle) u i := by
  obtain ⟨e, ev, hp, hev⟩ := ht.recorded c i hst
  refine ⟨e, ev, ?_, hev, ?_⟩
  · rw [setSession_events, State.commit, Table.commit_committedRow]
    exact Cell.read_of_pending hp
  · intro x hx
    rw [setSession_events, State.commit, Table.commit_cell,
      Cell.commit_pending_other hut, hp, Option.some.injEq,
      Prod.mk.injEq] at hx
    exact hut hx.1.symm

/-- The commit of `t`, for another session. -/
theorem SessionSafe.commit_other (h : SessionSafe s u) (ht : SessionSafe s t)
    (hut : u ≠ t)
    (hdone : (∃ c id ch, s.session t = .recorded c id ch) ∨
      ∃ cutoff ids, s.session t = .deleted cutoff ids)
    (hg : NoReopenUnderPurge s (.commit t)) :
    SessionSafe ((s.commit t).setSession t .idle) u := by
  have hfp : ∀ i x, (((s.commit t).setSession t .idle).findings.cell
      i).pending = some (u, x) ↔ (s.findings.cell i).pending = some (u, x) :=
    fun i x => Cell.commit_pending_other hut
  have hep : ∀ e x, (((s.commit t).setSession t .idle).events.cell
      e).pending = some (u, x) ↔ (s.events.cell e).pending = some (u, x) :=
    fun e x => Cell.commit_pending_other hut
  have hsess : ((s.commit t).setSession t .idle).session u = s.session u :=
    setSession_ne hut
  have hrecorded : ∀ {c i}, s.session t = .updated c i ∨
      s.session t = .recorded c i true → s.session t = .recorded c i true := by
    rintro c i (hst | hst)
    · rcases hdone with ⟨c', id, ch, hst'⟩ | ⟨cutoff, ids, hst'⟩
      · rw [hst] at hst'
        cases hst'
      · rw [hst] at hst'
        cases hst'
    · exact hst
  -- rows that `u` has pending are not `t`'s to commit
  have hfkeep : ∀ i x, (s.findings.cell i).pending = some (u, x) →
      ((s.commit t).setSession t .idle).findings.committedRow i =
        s.findings.committedRow i := by
    intro i x hp
    rw [setSession_findings, State.commit, Table.commit_committedRow]
    exact Cell.read_of_locked hp hut
  have hekeep : ∀ e x, (s.events.cell e).pending = some (u, x) →
      ((s.commit t).setSession t .idle).events.committedRow e =
        s.events.committedRow e := by
    intro e x hp
    rw [setSession_events, State.commit, Table.commit_committedRow]
    exact Cell.read_of_locked hp hut
  constructor
  case findings =>
    intro i x hp
    rw [hfp] at hp
    rw [hfkeep i x hp, hsess]
    exact h.findings i x hp
  case events =>
    intro e x hp
    rw [hep] at hp
    rw [hekeep e x hp, hsess]
    exact h.events e x hp
  case holds =>
    intro i hrow
    rw [hsess] at hrow
    obtain ⟨x, hp⟩ := h.holds i hrow
    exact ⟨x, (hfp i x).mpr hp⟩
  case recorded =>
    intro c i hrec
    rw [hsess] at hrec
    obtain ⟨e, ev, hp, hev⟩ := h.recorded c i hrec
    exact ⟨e, ev, (hep e _).mpr hp, hev⟩
  case removed =>
    intro cutoff ids hdel i hi f hf
    rw [hsess] at hdel
    rcases ht.commit_finding hf with hsame | ⟨c, f₀, -, hf₀, -, -⟩
    · exact (hfp i _).mpr (h.removed cutoff ids hdel i hi f hsame)
    · exact (hfp i _).mpr (h.removed cutoff ids hdel i hi f₀ hf₀)
  case selected =>
    intro cutoff ids hsel i hi f hf
    rw [hsess] at hsel
    rcases ht.commit_finding hf with hsame | ⟨c, f₀, hst, hf₀, hc, rfl⟩
    · exact h.selected cutoff ids hsel i hi f hsame
    · -- only a reopening changes an expired finding, and none is committed of
      -- a finding that `u` has chosen
      have hexp := h.selected cutoff ids hsel i hi f₀ hf₀
      obtain ⟨actor, now, rfl⟩ := reopens_of_expired hexp hc
      have hkeep := hg u i (by rw [hrecorded hst]; rfl)
      rw [hsel] at hkeep
      exact absurd hi hkeep
  case eventsDeleted =>
    intro cutoff ids hdel i hi f hf
    rw [hsess] at hdel
    have hkept : (s.findings.commit t).committedRow i ≠ none := by
      have hf' : (s.findings.commit t).committedRow i = some f := hf
      rw [hf']
      exact Option.some_ne_none f
    rcases ht.commit_finding hf with hsame | ⟨c, f₀, hst, hf₀, hc, rfl⟩
    · exact (h.eventsDeleted cutoff ids hdel i hi f hsame).imp_right
        fun hp => hp.commit ht hut hdone hkept
    · rcases h.eventsDeleted cutoff ids hdel i hi f₀ hf₀ with hexp | hp
      · -- it is expired no longer, but has the event of the change
        exact .inr (protected_of_recorded ht hut (hrecorded hst))
      · exact .inr (hp.commit ht hut hdone hkept)

/-! ## §5  The law -/

theorem safe_of_quiescent (h : Quiescent s) : Safe s := by
  obtain ⟨hidle, hf, he⟩ := h
  intro t
  refine sessionSafe_of_plain (hidle t) rfl ?_ ?_ ?_
  · intro i r hp
    exact absurd hp (hf i _)
  · intro e r hp
    exact absurd hp (he e _)
  · intro i hrow
    cases hrow

/-- The lock of a session that has a finding pending is its own. -/
theorem SessionSafe.not_held (h : SessionSafe s t) {i : Uuid}
    (hrow : (s.session t).row = some i) :
    (s.findings.cell i).heldByOther t = false := by
  obtain ⟨x, hp⟩ := h.holds i hrow
  exact Cell.heldByOther_of_pending hp

/-- **Step lemma.** -/
theorem safe_step (h : Safe s) (hg : NoReopenUnderPurge s a)
    (hs : StepOf s a s') : Safe s' := by
  cases hs with
  | notFound => exact h
  | @lock t c id f ht hr hfree =>
      exact h.statement (statement_putFinding hfree) ((h t).lock ht hr)
  | @update t c id f ht hr hc =>
      refine h.statement (statement_putFinding ?_) ((h t).update ht hr hc)
      exact (h t).not_held (by rw [ht]; rfl)
  | @leave t c id f ht hr hc =>
      exact h.statement statement_setSession ((h t).leave ht)
  | @insertEvent t c id eventId ht hnew =>
      refine h.statement (statement_putEvent ?_) ((h t).insertEvent ht hnew)
      rw [s.events.absent eventId hnew]
      rfl
  | @selectNone t _ _ _ _ ht =>
      have hsame : s.setSession t .idle = s := by
        rw [← ht]
        exact setSession_same
      rw [hsame]
      exact h
  | @select t _ _ _ _ _ ht hids =>
      exact h.statement statement_setSession ((h t).select ht hids)
  | @deleteEvents t _ _ _ ht hdel =>
      exact h.statement (statement_deleteEvents hdel)
        ((h t).deleteEvents ht hdel)
  | violation => exact h.statement statement_rollback sessionSafe_rollback
  | @deleteFindings t _ _ _ ht hdel href =>
      exact h.statement (statement_deleteFindings hdel)
        ((h t).deleteFindings ht hdel)
  | @commitChange t c id ch ht =>
      intro u
      by_cases hut : u = t
      · exact hut ▸ sessionSafe_commit
      · exact (h u).commit_other (h t) hut (.inl ⟨c, id, ch, ht⟩) hg
  | @commitPurge t cutoff ids ht =>
      intro u
      by_cases hut : u = t
      · exact hut ▸ sessionSafe_commit
      · exact (h u).commit_other (h t) hut (.inr ⟨cutoff, ids, ht⟩) hg
  | abort => exact h.statement statement_rollback sessionSafe_rollback

/-- **Run lemma.** -/
theorem safe_reachable
    (h : (system Session).ReachableUnder NoReopenUnderPurge s) : Safe s := by
  refine h.invariant (I := Safe) ?_ ?_
  · intro s hs
    exact safe_of_quiescent hs
  · intro s a t hs hg hstep
    exact safe_step hs hg (step_cases hstep)

/-- A delete that goes through left no reference, so what it took was not
protected. -/
theorem Safe.deletes_only_expired (h : Safe s) : DeletesOnlyExpired s := by
  intro t cutoff ids s' ht hstep i f hf hgone
  have hnoFinding : ∀ i f x, ¬ findingWrite (s.session t) i f x := by
    intro i f x
    rw [ht]
    exact fun hw => hw
  have hread := (h t).read_finding hnoFinding i
  rw [hf] at hread
  simp only [step, ht, Option.map_eq_some_iff] at hstep
  obtain ⟨findings, hdel, hs'⟩ := hstep
  split at hs'
  · -- the transaction was rolled back
    subst hs'
    have hback : ((s.findings.rollback t).cell i).read t = none := hgone
    rw [Table.rollback_cell, Cell.read_of_unowned
      (fun r => Cell.rollback_pending_ne), Cell.rollback_committed] at hback
    rw [Table.committedRow, hback] at hf
    cases hf
  · rename_i href
    obtain ⟨rfl, -⟩ := Table.deleteWhere_spec hdel
    subst hs'
    have hmem : i ∈ ids := by
      by_contra hni
      have hcell : (s.findings.deleteVisible t fun i _ =>
          decide (i ∈ ids)).cell i = s.findings.cell i :=
        Table.deleteVisible_cell_of_no_match fun _ _ => decide_eq_false hni
      have hnone : ((s.findings.deleteVisible t fun i _ =>
          decide (i ∈ ids)).cell i).read t = none := hgone
      rw [hcell] at hnone
      rw [Table.read, hnone] at hread
      cases hread
    rcases (h t).eventsDeleted cutoff ids ht i hmem f hf with hexp | hprot
    · exact hexp
    · obtain ⟨e, ev, hev, hid, hown⟩ := hprot
      have hseen : (e, ev) ∈ s.events.rows t :=
        Table.mem_rows.mpr ((Cell.read_of_unowned hown).trans hev)
      have hgone : (decide (ev.findingId ∈ ids) &&
          (s.findings.read t ev.findingId).isSome) = true := by
        rw [hid, hread, decide_eq_true hmem]
        rfl
      refine absurd ?_ href
      rw [referenced, Bool.or_eq_true]
      exact .inl (List.any_eq_true.mpr ⟨(e, ev), hseen, hgone⟩)

/-- An open exposure is not purged as long as nobody reopens a finding that a
running purge has chosen and not begun to delete. -/
theorem purge_deletes_only_expired
    (h : (system Session).ReachableUnder NoReopenUnderPurge s) :
    DeletesOnlyExpired s :=
  (safe_reachable h).deletes_only_expired

instance {n : ℕ} (s : State (Fin n)) :
    (a : Action (Fin n)) → Decidable (NoReopenUnderPurge s a)
  | .commit u => decidable_of_iff
      (∀ t, ((s.session u).reopens.all fun i =>
        decide (i ∉ (s.session t).chosenIds)) = true)
      (by simp only [Option.all_eq_true, decide_eq_true_eq,
        NoReopenUnderPurge, Option.mem_def])
  | .lock .. | .update _ | .insertEvent .. | .select .. | .deleteEvents _
  | .deleteFindings _ | .abort _ => .isTrue trivial

/-- Two findings, of which the first was remediated at 0. -/
def twoFindings : State (Fin 2) where
  findings := (Table.empty.insertCommitted 7
      { Finding.blank 7 1 2 0 with remediatedAt := some 0 }).insertCommitted 8
    (Finding.blank 8 1 3 0)
  events := Table.empty
  session := fun _ => .idle

theorem twoFindings_quiescent : Quiescent twoFindings :=
  ⟨fun _ => rfl, Table.unlocked_empty.insertCommitted.insertCommitted,
    Table.unlocked_empty⟩

/-- A purge of everything remediated, while an analyst closes the other
finding and comes too late to reopen the first. -/
def lateReopen : List (Action (Fin 2)) :=
  [.select 0 ⟨.immediate, none⟩ 10 500 [7],
    .lock 1 (.remediate 5 none 9) 8, .update 1, .insertEvent 1 100, .commit 1,
    .deleteEvents 0,
    .lock 1 (.unremediate 5 11) 7, .update 1, .insertEvent 1 101, .commit 1]

theorem late_reopen_deletes_only_expired :
    ∃ s, (system (Fin 2)).runUnder NoReopenUnderPurge twoFindings lateReopen =
      some s ∧ DeletesOnlyExpired s := by
  have hrun : ∃ s, (system (Fin 2)).runUnder NoReopenUnderPurge twoFindings
      lateReopen = some s ∧ True :=
    System.exists_of_runUnder (by decide)
  obtain ⟨s, hrun, -⟩ := hrun
  exact ⟨s, hrun, purge_deletes_only_expired
    (System.reachable_of_runUnder twoFindings_quiescent hrun)⟩

/-! ## §6  A reopened finding is lost -/

/-- An analyst reopens the finding between the purge's select and its
deletes. -/
def reopenUnderPurge : List (Action (Fin 2)) :=
  [.select 0 ⟨.immediate, none⟩ 10 500 [7],
    .lock 1 (.unremediate 5 11) 7, .update 1, .insertEvent 1 100, .commit 1,
    .deleteEvents 0]

theorem reopenUnderPurge_outcome :
    ∃ s, (system (Fin 2)).run twoFindings reopenUnderPurge = some s ∧
      s.session 0 = .eventsDeleted 10 [7] ∧
      ((s.findings.committedRow 7).map fun f => f.remediatedAt) = some none ∧
      ((step s (.deleteFindings 0)).any fun s' =>
        (s'.findings.read 0 7).isNone) = true :=
  System.exists_of_runUnder (by decide)

theorem open_exposure_is_purged :
    ¬ ∀ s, (system (Fin 2)).Reachable s → DeletesOnlyExpired s := by
  intro hall
  obtain ⟨s, hrun, hpurge, hopen, hdel⟩ := reopenUnderPurge_outcome
  obtain ⟨s', hstep, hgone⟩ := (Option.any_eq_true _ _).mp hdel
  obtain ⟨f, hf, hnone⟩ := Option.map_eq_some_iff.mp hopen
  have hexp := hall s (System.reachable_of_runUnder twoFindings_quiescent hrun)
    0 10 [7] s' hpurge hstep 7 f hf (Option.isNone_iff_eq_none.mp hgone)
  rw [expired, hnone] at hexp
  cases hexp

end LeakcheckHub.Findings
