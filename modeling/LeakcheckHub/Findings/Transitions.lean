import LeakcheckHub.Findings.PurgeRace
import LeakcheckHub.Findings.Store

/-!
# A finding and its transition events

Calls of `remediate_finding` and `unremediate_finding` on the sessions of
`PurgeRace`, with no purge among them. Every router takes the row lock before
it reads the columns (`self_remediate` takes it with its ownership select
already), so the row and the append-only log tell the same story.

§1 what a finding has gone through · §2 one row and its calls · §3 what the
sessions see of the log · §4 one step · §5 the law.
-/

set_option linter.unusedSectionVars false

namespace LeakcheckHub.Findings

open Foundation

/-! ## §1  What a finding has gone through -/

/-- A REMEDIATED or UNREMEDIATED event of the finding. -/
def isTransitionOf (i : Uuid) (e : FindingEvent) : Bool :=
  decide (e.findingId = i) &&
    (decide (e.event = .remediated) || decide (e.event = .unremediated))

section Log

variable {Session : Type} [DecidableEq Session]

/-- The transition events of a finding under one way of looking at a row, in
append order: a table keeps its newest identifier first. -/
def transitionsBy (look : Cell Session FindingEvent → Option FindingEvent)
    (s : State Session) (i : Uuid) : List FindingEvent :=
  (s.events.ids.filterMap fun e =>
    (look (s.events.cell e)).filter (isTransitionOf i)).reverse

def transitions (s : State Session) (i : Uuid) : List FindingEvent :=
  transitionsBy Cell.committed s i

/-- The transition events a statement of `t` sees. -/
def transitionsSeen (s : State Session) (t : Session) (i : Uuid) :
    List FindingEvent :=
  transitionsBy (Cell.read t) s i

/-- The calls that changed a finding, as their transactions commit. -/
def noteChange (s : State Session) (done : List (Uuid × Change)) :
    Action Session → List (Uuid × Change)
  | .commit t =>
      match s.session t with
      | .recorded c i true => done ++ [(i, c)]
      | _ => done
  | _ => done

/-- The sessions, with the changes committed so far. -/
def watched (Session : Type) [DecidableEq Session] :
    System (Recorded (State Session) (List (Uuid × Change)))
      (Action Session) :=
  (system Session).record [] noteChange

/-- No purge begins. -/
def NoPurge (_ : Recorded (State Session) (List (Uuid × Change))) :
    Action Session → Prop
  | .select .. => False
  | _ => True

end Log

/-- The calls that changed one finding. -/
def changesOf (i : Uuid) (done : List (Uuid × Change)) : List Change :=
  (done.filter fun x => decide (x.1 = i)).map Prod.snd

/-- The finding as its discovery left it. -/
def Undecided (f : Finding) : Prop :=
  f.remediatedAt = none ∧ f.remediatedBy = none ∧ f.remediationNote = none

/-- The finding is stored and has no transition event. -/
structure Discovered {Session : Type} [DecidableEq Session]
    (s : State Session) (i : Uuid) : Prop where
  row : ∃ f, s.findings.committedRow i = some f ∧ Undecided f
  noEvents : ∀ e ev, s.events.committedRow e = some ev →
    isTransitionOf i ev = false

/-- Whose turn it is after `k` transitions. -/
def turn (k : ℕ) : FindingEventType :=
  if k % 2 = 0 then .remediated else .unremediated

/-- The columns of a row after the calls that changed it. -/
def Stands (f : Finding) (calls : List Change) : Prop :=
  match calls.getLast? with
  | some (.remediate actorId note now) =>
      f.remediatedAt = some now ∧ f.remediatedBy = some actorId ∧
        f.remediationNote = note
  | _ => Undecided f

/-- An event is the one its call appended. -/
def appendedBy (i : Uuid) (c : Change) (e : FindingEvent) : Prop :=
  e = c.event e.id i

/-- Row, log and calls agree. -/
structure RowAndLogAgree {Session : Type} [DecidableEq Session]
    (s : State Session) (i : Uuid) (calls : List Change) : Prop where
  appended : List.Forall₂ (appendedBy i) calls (transitions s i)
  alternates : ∀ k e, (transitions s i)[k]? = some e → e.event = turn k
  row : ∃ f, s.findings.committedRow i = some f ∧
    (f.remediatedAt.isSome = true ↔
      ∃ e, (transitions s i).getLast? = some e ∧ e.event = .remediated) ∧
    (∀ e, (transitions s i).getLast? = some e → e.event = .remediated →
      f.remediatedAt = some e.at_ ∧ f.remediatedBy = e.actorId ∧
        calls.getLast?.map FindingStore.changeNote = some f.remediationNote) ∧
    (f.remediatedAt = none → Undecided f)

/-! ## §2  One row and its calls -/

section Calls

variable {f : Finding} {c : Change} {calls : List Change} {i id : Uuid}

theorem stands_append : Stands (c.apply f) (calls ++ [c]) := by
  unfold Stands
  rw [List.getLast?_concat]
  cases c with
  | remediate actorId note now => exact ⟨rfl, rfl, rfl⟩
  | unremediate actorId now => exact ⟨rfl, rfl, rfl⟩

theorem turn_succ_of_remediated {k : ℕ} (h : turn k = .remediated) :
    turn (k + 1) = .unremediated := by
  unfold turn at h ⊢
  split at h
  · rw [if_neg (by omega)]
  · cases h

theorem turn_succ_of_unremediated {k : ℕ} (h : turn k = .unremediated) :
    turn (k + 1) = .remediated := by
  unfold turn at h ⊢
  split at h
  · cases h
  · rw [if_pos (by omega)]

/-- Every call had its turn. -/
def TakeTurns (calls : List Change) : Prop :=
  ∀ k c, calls[k]? = some c → c.eventType = turn k

/-- A call that applies is the one whose turn it is. -/
theorem eventType_of_applies (hstands : Stands f calls)
    (hturns : TakeTurns calls) (hc : c.applies f = true) :
    c.eventType = turn calls.length := by
  unfold Stands at hstands
  rcases List.eq_nil_or_concat' calls with rfl | ⟨before, last, rfl⟩
  · -- the finding is as discovered, and only a remediation applies
    cases c with
    | remediate actorId note now => rfl
    | unremediate actorId now =>
        rw [Change.applies, hstands.1] at hc
        cases hc
  · rw [List.getLast?_concat] at hstands
    have hlast := hturns before.length last List.getElem?_concat_length
    rw [List.length_append, List.length_singleton]
    cases last with
    | remediate actorId note now =>
        have hnext := turn_succ_of_remediated hlast.symm
        cases c with
        | remediate _ _ _ =>
            rw [Change.applies, hstands.1] at hc
            cases hc
        | unremediate _ _ => exact hnext.symm
    | unremediate actorId now =>
        have hnext := turn_succ_of_unremediated hlast.symm
        cases c with
        | remediate _ _ _ => exact hnext.symm
        | unremediate _ _ =>
            rw [Change.applies, hstands.1] at hc
            cases hc

theorem TakeTurns.append (h : TakeTurns calls)
    (hc : c.eventType = turn calls.length) : TakeTurns (calls ++ [c]) := by
  intro k d hd
  rcases Nat.lt_or_ge k calls.length with hk | hk
  · rw [List.getElem?_append_left hk] at hd
    exact h k d hd
  · rw [List.getElem?_append_right hk, List.getElem?_singleton] at hd
    split at hd
    · rename_i hzero
      rw [Option.some.injEq] at hd
      rw [← hd, hc, show k = calls.length by omega]
    · cases hd

theorem isTransitionOf_event {e : Uuid} :
    isTransitionOf i (c.event e id) = decide (id = i) := by
  cases c with
  | remediate actorId note now => exact Bool.and_true _
  | unremediate actorId now => exact Bool.and_true _

theorem changesOf_append_self {done : List (Uuid × Change)} :
    changesOf i (done ++ [(i, c)]) = changesOf i done ++ [c] := by
  simp [changesOf]

theorem changesOf_append_ne {done : List (Uuid × Change)} (h : id ≠ i) :
    changesOf i (done ++ [(id, c)]) = changesOf i done := by
  simp [changesOf, h]

end Calls

/-! ## §3  What the sessions see of the log -/

section Seen

variable {Session : Type} [DecidableEq Session] {s s' : State Session}
  {a : Action Session} {t u : Session} {i id : Uuid}

/-- Only what two looks show of the finding's transition events counts. -/
theorem transitionsBy_congr
    {look look' : Cell Session FindingEvent → Option FindingEvent}
    (hids : s'.events.ids = s.events.ids)
    (h : ∀ e, (look' (s'.events.cell e)).filter (isTransitionOf i) =
      (look (s.events.cell e)).filter (isTransitionOf i)) :
    transitionsBy look' s' i = transitionsBy look s i := by
  unfold transitionsBy
  rw [hids]
  congr 1
  exact List.filterMap_congr fun e _ => h e

theorem transitionsSeen_commit :
    transitions (s.commit t) i = transitionsSeen s t i := by
  refine transitionsBy_congr rfl fun e => ?_
  rw [State.commit, Table.commit_cell, Cell.commit_committed]

/-- A new row of `t` stands behind the events that are there. -/
theorem transitionsBy_insert
    {look : Cell Session FindingEvent → Option FindingEvent}
    {s' : State Session} {eventId : Uuid} {ev : FindingEvent}
    (hnew : eventId ∉ s.events.ids)
    (hs' : s'.events = s.events.put t eventId (some ev)) :
    transitionsBy look s' i = transitionsBy look s i ++
      ((look (Cell.empty.put t (some ev))).filter
        (isTransitionOf i)).toList := by
  have hids : s'.events.ids = eventId :: s.events.ids := by
    rw [hs']
    exact List.insert_of_not_mem hnew
  have hself : s'.events.cell eventId = Cell.empty.put t (some ev) := by
    rw [hs', Table.put_cell_self, s.events.absent eventId hnew]
  have hrest : ∀ e ∈ s.events.ids,
      (look (s'.events.cell e)).filter (isTransitionOf i) =
        (look (s.events.cell e)).filter (isTransitionOf i) := by
    intro e he
    have hne : e ≠ eventId := fun heq => hnew (heq ▸ he)
    rw [hs', Table.put_cell_ne hne]
  unfold transitionsBy
  rw [hids, List.filterMap_cons, hself, List.filterMap_congr hrest]
  cases (look (Cell.empty.put t (some ev))).filter (isTransitionOf i) with
  | none => exact (List.append_nil _).symm
  | some e => exact List.reverse_cons

/-- A purge is under way in the session. -/
def Stage.purging : Stage → Bool
  | .selected .. | .eventsDeleted .. | .deleted .. => true
  | _ => false

/-- A session that has no transition of the finding to commit has no event of
it pending. -/
theorem SessionSafe.foreign (h : SessionSafe s t)
    (hpurge : (s.session t).purging = false)
    (hnot : ∀ c, s.session t ≠ .recorded c i true) {e : Uuid}
    {x : Option FindingEvent} (hp : (s.events.cell e).pending = some (t, x)) :
    (s.events.cell e).committed = none ∧
      x.filter (isTransitionOf i) = none := by
  have hw := h.events e x hp
  cases hst : s.session t with
  | recorded c id changed =>
      rw [hst] at hw
      cases changed with
      | false => exact hw.elim
      | true =>
          obtain ⟨hold, e', rfl⟩ := hw
          have hid : id ≠ i := fun heq => hnot c (heq ▸ hst)
          refine ⟨hold, ?_⟩
          rw [Option.filter_some, isTransitionOf_event, decide_eq_false hid]
          rfl
  | idle | locked | updated =>
      rw [hst] at hw
      exact hw.elim
  | selected | eventsDeleted | deleted =>
      rw [hst] at hpurge
      cases hpurge

theorem SessionSafe.seen_eq (h : SessionSafe s t)
    (hpurge : (s.session t).purging = false)
    (hnot : ∀ c, s.session t ≠ .recorded c i true) :
    transitionsSeen s t i = transitions s i := by
  refine transitionsBy_congr rfl fun e => ?_
  rcases Cell.read_cases t (s.events.cell e) with ⟨x, hp, hread⟩ | ⟨-, hread⟩
  · obtain ⟨hold, hx⟩ := h.foreign hpurge hnot hp
    rw [hread, hx, hold]
    rfl
  · rw [hread]

/-- Nor does its commit change what another session sees of the finding. -/
theorem SessionSafe.seen_commit (h : SessionSafe s t)
    (hpurge : (s.session t).purging = false)
    (hnot : ∀ c, s.session t ≠ .recorded c i true) (hut : u ≠ t) :
    transitionsSeen (s.commit t) u i = transitionsSeen s u i := by
  refine transitionsBy_congr rfl fun e => ?_
  rw [State.commit, Table.commit_cell]
  rcases Cell.read_commit_other (c := s.events.cell e) hut with
    hsame | ⟨⟨x, hp⟩, hnew⟩
  · rw [hsame]
  · obtain ⟨hold, hx⟩ := h.foreign hpurge hnot hp
    rw [hnew, Cell.read_of_pending hp, hx, Cell.read_of_locked hp hut.symm, hold]
    rfl

end Seen

/-! ## §4  One step -/

section Steps

variable {Session : Type} [DecidableEq Session] {s s' : State Session}
  {x y : Recorded (State Session) (List (Uuid × Change))}
  {a : Action Session} {t u : Session} {i id : Uuid}

structure Tells (s : State Session) (i : Uuid) (calls : List Change) :
    Prop where
  safe : Safe s
  noPurge : ∀ t, (s.session t).purging = false
  row : ∃ f, s.findings.committedRow i = some f ∧ Stands f calls
  turns : TakeTurns calls
  log : List.Forall₂ (appendedBy i) calls (transitions s i)
  next : ∀ t c, s.session t = .recorded c i true →
    ∃ e, transitionsSeen s t i = transitions s i ++ [e] ∧ appendedBy i c e

variable {calls : List Change}

/-- A step that commits nothing about the finding. -/
theorem Tells.frame (h : Tells s i calls) (hsafe : Safe s')
    (hpurge : ∀ t, (s'.session t).purging = false)
    (hrow : s'.findings.committedRow i = s.findings.committedRow i)
    (hlog : transitions s' i = transitions s i)
    (hnext : ∀ u c, s'.session u = .recorded c i true →
      s.session u = .recorded c i true ∧
        transitionsSeen s' u i = transitionsSeen s u i) :
    Tells s' i calls where
  safe := hsafe
  noPurge := hpurge
  row := by
    rw [hrow]
    exact h.row
  turns := h.turns
  log := by
    rw [hlog]
    exact h.log
  next := by
    intro u c hu
    obtain ⟨hbefore, hseen⟩ := hnext u c hu
    rw [hseen, hlog]
    exact h.next u c hbefore

theorem purging_setSession {x : Stage}
    (h : ∀ u, (s.session u).purging = false) (hx : x.purging = false)
    (u : Session) : ((s.setSession t x).session u).purging = false := by
  by_cases hu : u = t
  · rw [hu, setSession_self]
    exact hx
  · rw [setSession_ne hu]
    exact h u

/-- The new stage of `t` is not about to commit an event of the finding. -/
theorem recorded_setSession {x : Stage} {c : Change}
    (hx : ∀ c, x ≠ .recorded c i true)
    (h : (s.setSession t x).session u = .recorded c i true) :
    u ≠ t ∧ s.session u = .recorded c i true := by
  by_cases hu : u = t
  · rw [hu, setSession_self] at h
    exact absurd h (hx c)
  · rw [setSession_ne hu] at h
    exact ⟨hu, h⟩

/-- A statement about the row or about nothing. -/
theorem Tells.statement {x : Stage} (h : Tells s i calls)
    (hsafe : Safe (s'.setSession t x)) (hsession : s'.session = s.session)
    (hevents : s'.events = s.events)
    (hrow : s'.findings.committedRow i = s.findings.committedRow i)
    (hx : x.purging = false) (hnot : ∀ c, x ≠ .recorded c i true) :
    Tells (s'.setSession t x) i calls := by
  have hlook : ∀ look, transitionsBy look (s'.setSession t x) i =
      transitionsBy look s i := by
    intro look
    apply transitionsBy_congr
    · rw [setSession_events, hevents]
    · intro e
      rw [setSession_events, hevents]
  refine h.frame hsafe ?_ hrow (hlook _) ?_
  · apply purging_setSession _ hx
    rw [hsession]
    exact h.noPurge
  · intro u c hu
    have hu' := (recorded_setSession hnot hu).2
    rw [hsession] at hu'
    exact ⟨hu', hlook _⟩

theorem Tells.insertEvent (h : Tells s i calls) {c : Change} {eventId : Uuid}
    (ht : s.session t = .updated c id) (hnew : eventId ∉ s.events.ids)
    (hevents : s'.events = s.events.put t eventId (some (c.event eventId id)))
    (hfindings : s'.findings = s.findings) (hsession : s'.session = s.session)
    (hsafe : Safe (s'.setSession t (.recorded c id true))) :
    Tells (s'.setSession t (.recorded c id true)) i calls := by
  have hput : ∀ look, transitionsBy look
      (s'.setSession t (.recorded c id true)) i = transitionsBy look s i ++
        ((look (Cell.empty.put t (some (c.event eventId id)))).filter
          (isTransitionOf i)).toList :=
    fun look => transitionsBy_insert hnew hevents
  have hlog : transitions (s'.setSession t (.recorded c id true)) i =
      transitions s i := (hput Cell.committed).trans (List.append_nil _)
  have hother : ∀ u, u ≠ t →
      transitionsSeen (s'.setSession t (.recorded c id true)) u i =
        transitionsSeen s u i := by
    intro u hu
    rw [transitionsSeen, hput, Cell.read_put_other hu.symm]
    exact List.append_nil _
  have hrow : (s'.setSession t (.recorded c id true)).findings.committedRow i =
      s.findings.committedRow i := by
    rw [setSession_findings, hfindings]
  have hpurge : ∀ u, (s'.session u).purging = false := by
    rw [hsession]
    exact h.noPurge
  by_cases hid : id = i
  · subst hid
    refine ⟨hsafe, purging_setSession hpurge rfl, ?_, h.turns, ?_, ?_⟩
    · rw [hrow]
      exact h.row
    · rw [hlog]
      exact h.log
    · intro u d hu
      rw [hlog]
      by_cases hut : u = t
      · -- the event of `t` is the newest that `t` sees
        subst hut
        rw [setSession_self] at hu
        cases hu
        have hseen := (h.safe u).seen_eq (h.noPurge u) (i := id)
          (fun d hd => by rw [ht] at hd; cases hd)
        refine ⟨c.event eventId id, ?_, rfl⟩
        rw [transitionsSeen, hput, Cell.read_of_pending Cell.put_pending,
          Option.filter_some, isTransitionOf_event, if_pos (decide_eq_true rfl)]
        exact congrArg (· ++ [c.event eventId id]) hseen
      · rw [setSession_ne hut, hsession] at hu
        rw [hother u hut]
        exact h.next u d hu
  · refine h.frame hsafe (purging_setSession hpurge rfl) hrow hlog ?_
    intro u d hu
    have hnot : ∀ d, Stage.recorded c id true ≠ .recorded d i true := by
      intro d heq
      injection heq with _ hi
      exact hid hi
    obtain ⟨hut, hbefore⟩ := recorded_setSession hnot hu
    rw [hsession] at hbefore
    exact ⟨hbefore, hother u hut⟩

theorem Tells.abort (h : Tells s i calls)
    (hsafe : Safe ((s.rollback t).setSession t .idle)) :
    Tells ((s.rollback t).setSession t .idle) i calls := by
  refine h.frame hsafe (purging_setSession h.noPurge rfl)
    Table.rollback_committedRow ?_ ?_
  · refine transitionsBy_congr rfl fun e => ?_
    exact congrArg (Option.filter _) Cell.rollback_committed
  · intro u c hu
    obtain ⟨hut, hbefore⟩ := recorded_setSession
      (fun c hidle => by cases hidle) hu
    refine ⟨hbefore, transitionsBy_congr rfl fun e => ?_⟩
    exact congrArg (Option.filter _) (Cell.read_rollback_other hut)

/-- The row of a session that changes another finding, or finds nothing to
do. -/
theorem SessionSafe.row_commit (h : SessionSafe s t) {c : Change}
    {changed : Bool} (ht : s.session t = .recorded c id changed)
    (hnot : ∀ c, s.session t ≠ .recorded c i true) :
    (s.commit t).findings.committedRow i = s.findings.committedRow i := by
  rw [State.commit, Table.commit_committedRow]
  rcases Cell.read_cases t (s.findings.cell i) with ⟨x, hp, hread⟩ | ⟨-, hread⟩
  · obtain ⟨f, hf, hw⟩ := h.findings i x hp
    rw [ht] at hw
    cases changed with
    | false =>
        rw [hf]
        exact hread.trans hw.2
    | true => exact absurd (hw.1 ▸ ht) (hnot c)
  · exact hread

theorem Tells.commit_other (h : Tells s i calls) {c : Change} {changed : Bool}
    (ht : s.session t = .recorded c id changed)
    (hnot : ∀ c, s.session t ≠ .recorded c i true)
    (hsafe : Safe ((s.commit t).setSession t .idle)) :
    Tells ((s.commit t).setSession t .idle) i calls := by
  have hseen := (h.safe t).seen_eq (h.noPurge t) hnot
  refine h.frame hsafe (purging_setSession h.noPurge rfl)
    ((h.safe t).row_commit ht hnot) (transitionsSeen_commit.trans hseen) ?_
  intro u d hu
  obtain ⟨hut, hbefore⟩ := recorded_setSession
    (fun c hidle => by cases hidle) hu
  exact ⟨hbefore, (h.safe t).seen_commit (h.noPurge t) hnot hut⟩

/-- The row lock keeps every other session from recording a transition of the
same finding. -/
theorem Safe.recorded_unique (h : Safe s) {c d : Change}
    (ht : s.session t = .recorded c i true)
    (hu : s.session u = .recorded d i true) : u = t := by
  obtain ⟨x, hx⟩ := (h t).holds i (by rw [ht]; rfl)
  obtain ⟨y, hy⟩ := (h u).holds i (by rw [hu]; rfl)
  rw [hx, Option.some.injEq, Prod.mk.injEq] at hy
  exact hy.1.symm

theorem Tells.commit_change (h : Tells s i calls) {c : Change}
    (ht : s.session t = .recorded c i true)
    (hsafe : Safe ((s.commit t).setSession t .idle)) :
    Tells ((s.commit t).setSession t .idle) i (calls ++ [c]) := by
  obtain ⟨x, hp⟩ := (h.safe t).holds i (by rw [ht]; rfl)
  obtain ⟨f, hf, hw⟩ := (h.safe t).findings i x hp
  rw [ht] at hw
  obtain ⟨-, happlies, rfl⟩ := hw
  obtain ⟨f', hf', hstands⟩ := h.row
  rw [hf, Option.some.injEq] at hf'
  subst hf'
  obtain ⟨e, hseen, happ⟩ := h.next t c ht
  refine ⟨hsafe, purging_setSession h.noPurge rfl, ?_, ?_, ?_, ?_⟩
  · refine ⟨c.apply f, ?_, stands_append⟩
    rw [setSession_findings, State.commit, Table.commit_committedRow]
    exact Cell.read_of_pending hp
  · exact h.turns.append (eventType_of_applies hstands h.turns happlies)
  · have hlog : transitions ((s.commit t).setSession t .idle) i =
        transitions s i ++ [e] := transitionsSeen_commit.trans hseen
    rw [hlog]
    exact List.rel_append h.log (.cons happ .nil)
  · intro u d hu
    obtain ⟨hut, hbefore⟩ := recorded_setSession
      (fun c hidle => by cases hidle) hu
    exact absurd (h.safe.recorded_unique ht hbefore) hut

/-- **Step lemma.** -/
theorem Tells.step (h : Tells x.state i (changesOf i x.history))
    (hg : NoPurge x a) (hs : (watched Session).step x a = some y) :
    Tells y.state i (changesOf i y.history) := by
  obtain ⟨hstep, hnote⟩ := System.record_step hs
  have hof := step_cases hstep
  have hguard : NoReopenUnderPurge x.state a := by
    cases a with
    | commit u =>
        intro t j _ hj
        -- no session has chosen anything to delete
        have hnone := h.noPurge t
        cases hst : x.state.session t with
        | selected cutoff ids =>
            rw [hst] at hnone
            cases hnone
        | _ =>
            rw [hst] at hj
            cases hj
    | _ => trivial
  have hsafe := safe_step h.safe hguard hof
  rw [hnote]
  generalize hy : y.state = s' at hof hsafe ⊢
  cases hof with
  | notFound => exact h
  | lock ht hr hfree =>
      exact h.statement hsafe rfl rfl Table.put_committedRow rfl
        (fun c hc => by cases hc)
  | update ht hr hc =>
      exact h.statement hsafe rfl rfl Table.put_committedRow rfl
        (fun c hc => by cases hc)
  | leave ht hr hc =>
      exact h.statement hsafe rfl rfl rfl rfl (fun c hc => by cases hc)
  | insertEvent ht hnew =>
      exact h.insertEvent ht hnew rfl rfl rfl hsafe
  | selectNone | select => exact hg.elim
  | deleteEvents ht | violation ht | deleteFindings ht | commitPurge ht =>
      have hnone := congrArg Stage.purging ht
      rw [h.noPurge] at hnone
      cases hnone
  | @commitChange t c id changed ht =>
      by_cases hmine : id = i ∧ changed = true
      · obtain ⟨rfl, rfl⟩ := hmine
        simp only [noteChange, ht, changesOf_append_self]
        exact h.commit_change ht hsafe
      · have hnot : ∀ d, x.state.session t ≠ .recorded d i true := by
          intro d hd
          rw [ht] at hd
          cases hd
          exact hmine ⟨rfl, rfl⟩
        have hcalls : changesOf i (noteChange x.state x.history (.commit t)) =
            changesOf i x.history := by
          simp only [noteChange, ht]
          cases changed with
          | false => rfl
          | true => exact changesOf_append_ne fun hid => hmine ⟨hid, rfl⟩
        rw [hcalls]
        exact h.commit_other ht hnot hsafe
  | abort => exact h.abort hsafe

/-- **Run lemma.** -/
theorem Tells.run {s₀ : State Session} (hquiet : Quiescent s₀)
    (hfound : Discovered s₀ i)
    (hrun : (watched Session).Leads NoPurge ⟨s₀, []⟩ x) :
    Tells x.state i (changesOf i x.history) := by
  refine hrun.invariant (I := fun x => Tells x.state i (changesOf i x.history))
    (fun x a y h hg hs => h.step hg hs) ?_
  obtain ⟨f, hf, hcolumns⟩ := hfound.row
  have hnone : transitions s₀ i = [] := by
    rw [transitions, transitionsBy, List.reverse_eq_nil_iff,
      List.filterMap_eq_nil_iff]
    intro e _
    cases hev : (s₀.events.cell e).committed with
    | none => rfl
    | some ev =>
        rw [Option.filter_some, hfound.noEvents e ev hev]
        rfl
  refine ⟨safe_of_quiescent hquiet, ?_, ⟨f, hf, hcolumns⟩, ?_, ?_, ?_⟩
  · intro t
    rw [hquiet.1 t]
    rfl
  · intro k c hc
    cases hc
  · rw [hnone]
    exact .nil
  · intro t c ht
    rw [hquiet.1 t] at ht
    cases ht

end Steps

/-! ## §5  The law -/

section Law

variable {Session : Type} [DecidableEq Session] {s s' : State Session}
  {x : Recorded (State Session) (List (Uuid × Change))} {t : Session}
  {i : Uuid} {calls : List Change}

theorem event_of_appendedBy {c : Change} {e : FindingEvent}
    (h : appendedBy i c e) :
    e.event = c.eventType ∧ e.actorId = some c.actorId ∧ e.at_ = c.now := by
  rw [h]
  exact ⟨rfl, rfl, rfl⟩

/-- The last call and the last event. -/
theorem getLast?_forall₂ {events : List FindingEvent}
    (h : List.Forall₂ (appendedBy i) calls events) :
    (calls.getLast? = none ∧ events.getLast? = none) ∨
      ∃ c e, calls.getLast? = some c ∧ events.getLast? = some e ∧
        appendedBy i c e := by
  induction h with
  | nil => exact .inl ⟨rfl, rfl⟩
  | @cons c e calls events happ _ ih =>
      right
      rw [List.getLast?_cons, List.getLast?_cons]
      rcases ih with ⟨hc, he⟩ | ⟨c', e', hc, he, happ'⟩
      · rw [hc, he]
        exact ⟨c, e, rfl, rfl, happ⟩
      · rw [hc, he]
        exact ⟨c', e', rfl, rfl, happ'⟩

theorem Tells.rowAndLogAgree (h : Tells s i calls) : RowAndLogAgree s i calls := by
  obtain ⟨f, hf, hstands⟩ := h.row
  refine ⟨h.log, ?_, f, hf, ?_⟩
  · intro k e he
    have hlen := h.log.length_eq
    have hk : k < calls.length := by
      rw [hlen]
      exact (List.getElem?_eq_some_iff.mp he).1
    have hcall : calls[k]? = some calls[k] := List.getElem?_eq_getElem hk
    have happ : appendedBy i calls[k] e := by
      have hget := h.log.get (i := k) hk (hlen ▸ hk)
      rw [List.getElem?_eq_getElem (hlen ▸ hk), Option.some.injEq] at he
      rw [← he]
      exact hget
    rw [(event_of_appendedBy happ).1]
    exact h.turns k _ hcall
  · unfold Stands at hstands
    rcases getLast?_forall₂ h.log with ⟨hc, he⟩ | ⟨c, e, hc, he, happ⟩
    · rw [hc] at hstands
      rw [he, hstands.1]
      exact ⟨⟨nofun, fun ⟨_, hnone, _⟩ => by cases hnone⟩, nofun,
        fun _ => hstands⟩
    · obtain ⟨hevent, hactor, hat⟩ := event_of_appendedBy happ
      rw [hc] at hstands
      rw [hc, he]
      cases c with
      | remediate actorId note now =>
          obtain ⟨hwhen, hwho, hnote⟩ := hstands
          refine ⟨⟨fun _ => ⟨e, rfl, hevent⟩, fun _ => by rw [hwhen]; rfl⟩,
            ?_, ?_⟩
          · intro e' he' _
            cases he'
            refine ⟨hwhen.trans (congrArg some hat.symm),
              hwho.trans hactor.symm, ?_⟩
            rw [hnote]
            rfl
          · intro hnone
            rw [hwhen] at hnone
            cases hnone
      | unremediate actorId now =>
          refine ⟨⟨?_, ?_⟩, ?_, fun _ => hstands⟩
          · intro hsome
            rw [hstands.1] at hsome
            cases hsome
          · rintro ⟨e', he', hrem⟩
            cases he'
            rw [hevent] at hrem
            cases hrem
          · intro e' he' hrem
            cases he'
            rw [hevent] at hrem
            cases hrem

/-- A call that finds the finding in the requested state, from its lock to its
commit. -/
structure LeavesAlone (s : State Session) : Prop where
  update : ∀ t c id f s', s.session t = .locked c id →
    s.findings.read t id = some f → c.applies f = false →
      step s (.update t) = some s' →
        s' = s.setSession t (.recorded c id false)
  commit : ∀ t c id s', s.session t = .recorded c id false →
    step s (.commit t) = some s' →
      (∀ j, s'.findings.committedRow j = s.findings.committedRow j) ∧
        ∀ e, s'.events.committedRow e = s.events.committedRow e

theorem Safe.leavesAlone (h : Safe s) : LeavesAlone s where
  update := by
    intro t c id f s' ht hr hc hstep
    simp only [step, ht, hr, hc] at hstep
    exact (Option.some.inj hstep).symm
  commit := by
    intro t c id s' ht hstep
    simp only [step, ht, Option.some.injEq] at hstep
    subst hstep
    constructor
    · intro j
      exact (h t).row_commit ht fun d hd => by rw [ht] at hd; cases hd
    · intro e
      rw [setSession_events, State.commit, Table.commit_committedRow]
      refine Cell.read_of_unowned fun x hp => ?_
      have hw := (h t).events e x hp
      rw [ht] at hw
      exact hw

/-- From its discovery on, a finding's columns and its transition events tell
of the same calls, whatever sessions remediate and reopen it; a call that
finds nothing to do leaves no trace. -/
theorem transitions_tell_the_calls {s₀ : State Session}
    (hquiet : Quiescent s₀) (hfound : Discovered s₀ i)
    (hrun : (watched Session).Leads NoPurge ⟨s₀, []⟩ x) :
    RowAndLogAgree x.state i (changesOf i x.history) ∧ LeavesAlone x.state :=
  have htells := Tells.run hquiet hfound hrun
  ⟨htells.rowAndLogAgree, htells.safe.leavesAlone⟩

end Law

/-! An analyst and the affected user at the same finding. -/

def oneFinding : State (Fin 2) where
  findings := Table.empty.insertCommitted 7 (Finding.blank 7 1 2 0)
  events := Table.empty
  session := fun _ => .idle

theorem oneFinding_quiescent : Quiescent oneFinding :=
  ⟨fun _ => rfl, Table.unlocked_empty.insertCommitted, Table.unlocked_empty⟩

theorem oneFinding_discovered : Discovered oneFinding 7 where
  row := ⟨Finding.blank 7 1 2 0, rfl, rfl, rfl, rfl⟩
  noEvents := by
    intro e ev hev
    cases hev

/-- The user's remediation waits for the analyst's and then finds nothing to
do; the analyst reopens the finding. -/
def doubleSubmit : List (Action (Fin 2)) :=
  [.lock 0 (.remediate 5 none 9) 7, .update 0, .insertEvent 0 100, .commit 0,
    .lock 1 (.remediate 6 none 10) 7, .update 1, .commit 1,
    .lock 0 (.unremediate 5 11) 7, .update 0, .insertEvent 0 101, .commit 0]

instance : ∀ (x : Recorded (State (Fin 2)) (List (Uuid × Change)))
    (a : Action (Fin 2)), Decidable (NoPurge x a)
  | _, .select .. => .isFalse id
  | _, .lock .. | _, .update _ | _, .insertEvent .. | _, .deleteEvents _
  | _, .deleteFindings _ | _, .commit _ | _, .abort _ => .isTrue trivial

theorem doubleSubmit_tells_the_calls :
    ∃ x, (watched (Fin 2)).runUnder NoPurge ⟨oneFinding, []⟩ doubleSubmit =
        some x ∧
      (transitions x.state 7).map FindingEvent.event =
        [.remediated, .unremediated] ∧
      RowAndLogAgree x.state 7 (changesOf 7 x.history) ∧ LeavesAlone x.state := by
  have hrun : ∃ x, (watched (Fin 2)).runUnder NoPurge ⟨oneFinding, []⟩
      doubleSubmit = some x ∧ (transitions x.state 7).map FindingEvent.event =
        [.remediated, .unremediated] :=
    System.exists_of_runUnder (by decide)
  obtain ⟨x, hrun, hevents⟩ := hrun
  exact ⟨x, hrun, hevents, transitions_tell_the_calls oneFinding_quiescent
    oneFinding_discovered (System.leads_of_runUnder hrun)⟩

end LeakcheckHub.Findings
