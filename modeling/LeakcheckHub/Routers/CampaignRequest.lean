import LeakcheckHub.Outbox.Campaigns
import LeakcheckHub.Routers.Recorders

/-!
# The request of a campaign

`confirm_notifications` of `app/routers/notifications.py`, as the handler with
its audit event, over the functions that read the directory and fill the
outbox. What the request leaves in the outbox is what a campaign is said to do
to it.

§1 the functions below · §2 the handler · §3 the request.
-/

set_option linter.unusedSectionVars false

namespace LeakcheckHub.Routers

open Foundation Accounts
open Outbox (Directory Outboxes Statements TargetType TextTables)
open Portal (AuditLog)

/-! ## §1  The functions below -/

/-- The values of `_TARGET_TYPES`. -/
def targetTypeText : TargetType → PyStr
  | .user => PyStr.lit "user"
  | .ou => PyStr.lit "ou"
  | .domain => PyStr.lit "domain"
  | .selection => PyStr.lit "selection"

/-- The branch that `_recipient_findings` takes. -/
def targetTypeOf (text : PyStr) : TargetType :=
  if text = PyStr.lit "user" then .user
  else if text = PyStr.lit "ou" then .ou
  else if text = PyStr.lit "domain" then .domain
  else .selection

theorem targetTypeOf_text (type : TargetType) :
    targetTypeOf (targetTypeText type) = type := by
  cases type <;> decide

section Request

variable (env : Findings.Env) (tables : TextTables) (citext : PyStr → PyStr)
  (st : Statements) (db : Directory)

/-- An exception that is no `HTTPException`. -/
def Fault.ofException (e : PyException) : Fault := .other e.typeName

/-- The form, with the check of a selection that `_recipient_findings` makes
before its select. -/
def targetForm (form : TargetType × PyStr) : Except Raised (PyStr × PyStr) :=
  match Outbox.targeted tables citext form.1 form.2 with
  | .ok _ => .ok (targetTypeText form.1, form.2)
  | .error _ => .error (.http 422 (PyStr.lit "Invalid user selection."))

def selectRecipients (targetType target : PyStr) :
    Callee (Counted Outboxes) (List (Uuid × List Uuid)) := fun c =>
  ((Outbox.recipientFindings tables citext db (targetTypeOf targetType, target)
    >>= fun recipients => Outbox.select st.faults recipients c).mapError
      Fault.ofException).map Prod.swap

def queueNotification (userId : Uuid) (findingIds : List Uuid) :
    Callee (Counted Outboxes) Unit := fun c =>
  ((Outbox.enqueueNotification env st userId findingIds
    Outbox.newFindingsTemplate c).mapError Fault.ofException).map fun c => ((), c)

variable {ops : TextOps} (S : Services ops (Counted Outboxes))
  (ctx : AuditContext) (currentUser : User)

def campaignServices : Services ops (Counted Outboxes) :=
  { S with
    recipientFindings := selectRecipients tables citext st db
    enqueueNotification := queueNotification env st }

/-- The handler over these functions. -/
def campaignRequest (form : TargetType × PyStr) :
    Handler (Counted Outboxes) Response :=
  confirmNotifications (campaignServices env tables citext st db S) ctx
    currentUser (targetForm tables citext form)

def campaignEvent (form : TargetType × PyStr) (recipients : ℕ) (draw : ℕ) :
    AuditLog :=
  ctx.event draw "notifications.campaign_queued" (some currentUser.id)
    (some (PyStr.lit "notification_campaign"), none)
    [(PyStr.lit "target_type", .str (targetTypeText form.1)),
      (PyStr.lit "recipient_count", .int recipients)]

end Request

/-! ## §2  The handler -/

section Handler

variable {env : Findings.Env} {tables : TextTables} {citext : PyStr → PyStr}
  {st : Statements} {db : Directory} {ops : TextOps}
  {S : Services ops (Counted Outboxes)} {ctx : AuditContext} {currentUser : User}
  {form : TargetType × PyStr} {recipients : List (Uuid × List Uuid)}
  {c : Counted Outboxes} {u u' : UnitOfWork (Counted Outboxes) AuditLog}

theorem perform_queueNotification {userId : Uuid} {findingIds : List Uuid} :
    perform (queueNotification env st userId findingIds) u = (.ok (), u') ↔
      ∃ c, Outbox.enqueueNotification env st userId findingIds
        Outbox.newFindingsTemplate u.world = .ok c ∧ u' = { u with world := c } := by
  rw [perform_ok]
  unfold queueNotification
  cases Outbox.enqueueNotification env st userId findingIds
      Outbox.newFindingsTemplate u.world with
  | error e => simp [Except.mapError, Except.map]
  | ok c => simp [Except.mapError, Except.map]

/-- The loop of the handler is the loop on the outbox. -/
theorem enqueueAll_campaign :
    enqueueAll (campaignServices env tables citext st db S) recipients u =
        (.ok (), u') ↔
      ∃ c, Outbox.enqueueAll env st Outbox.newFindingsTemplate recipients u.world =
        .ok c ∧ u' = { u with world := c } := by
  induction recipients generalizing u with
  | nil =>
      constructor
      · intro h
        cases h
        exact ⟨_, rfl, rfl⟩
      · rintro ⟨c, hc, rfl⟩
        cases hc
        rfl
  | cons r rest ih =>
      have hcons : enqueueAll (campaignServices env tables citext st db S)
          (r :: rest) = (perform (queueNotification env st r.1 r.2) >>= fun _ =>
            enqueueAll (campaignServices env tables citext st db S) rest) := rfl
      rw [hcons, Work.bind_ok]
      unfold Outbox.enqueueAll
      simp only [foldlM_cons_eq_ok]
      constructor
      · rintro ⟨_, v, hone, hrest⟩
        obtain ⟨c, hc, rfl⟩ := perform_queueNotification.mp hone
        obtain ⟨c', hc', rfl⟩ := ih.mp hrest
        exact ⟨c', ⟨c, hc, hc'⟩, rfl⟩
      · rintro ⟨c', ⟨c, hc, hc'⟩, rfl⟩
        exact ⟨(), { u with world := c },
          perform_queueNotification.mpr ⟨c, hc, rfl⟩, ih.mpr ⟨c', hc', rfl⟩⟩

theorem swapped_eq_ok {ε α β : Type} {x : Except ε (α × β)} {a : α} {b : β} :
    x.map Prod.swap = .ok (b, a) ↔ x = .ok (a, b) := by
  cases x with
  | error e => simp [Except.map]
  | ok p => simp [Except.map, Prod.ext_iff, and_comm]

theorem select_value {faults : ℕ → Option PyException} {σ α : Type} {a a' : α}
    {c c' : Counted σ} (h : Outbox.select faults a c = .ok (c', a')) : a' = a := by
  obtain ⟨-, -, hstate⟩ := call_eq_ok.mp h
  rw [Except.ok.injEq, Prod.mk.injEq] at hstate
  exact hstate.2.symm

theorem perform_selectRecipients {found : List (Uuid × List Uuid)} :
    perform (selectRecipients tables citext st db (targetTypeText form.1) form.2) u =
        (.ok found, u') ↔
      Outbox.recipientFindings tables citext db form = .ok found ∧
        ∃ c, Outbox.select st.faults found u.world = .ok (c, found) ∧
          u' = { u with world := c } := by
  rw [perform_ok]
  unfold selectRecipients
  rw [targetTypeOf_text]
  simp only [swapped_eq_ok, mapError_eq_ok, bind_eq_ok]
  constructor
  · rintro ⟨c, ⟨recipients, hrecipients, hselect⟩, rfl⟩
    cases select_value hselect
    exact ⟨hrecipients, c, hselect, rfl⟩
  · rintro ⟨hrecipients, c, hselect, rfl⟩
    exact ⟨c, ⟨found, hrecipients, hselect⟩, rfl⟩

theorem given_targetForm {target : PyStr × PyStr} :
    given (targetForm tables citext form) u = (.ok target, u') ↔
      target = (targetTypeText form.1, form.2) ∧ u' = u ∧
        ∃ p, Outbox.targeted tables citext form.1 form.2 = .ok p := by
  unfold targetForm
  cases Outbox.targeted tables citext form.1 form.2 with
  | error e =>
      constructor
      · intro h
        cases h
      · rintro ⟨-, -, p, hp⟩
        cases hp
  | ok p =>
      constructor
      · intro h
        cases h
        exact ⟨rfl, rfl, p, rfl⟩
      · rintro ⟨rfl, rfl, -⟩
        rfl

theorem campaignRequest_eq :
    campaignRequest env tables citext st db S ctx currentUser form =
      (given (targetForm tables citext form) >>= fun target =>
        perform (selectRecipients tables citext st db target.1 target.2) >>=
          fun recipients =>
            enqueueAll (campaignServices env tables citext st db S) recipients >>=
              fun _ => audit ctx currentUser "notifications.campaign_queued"
                (some (PyStr.lit "notification_campaign"), none)
                [(PyStr.lit "target_type", .str target.1),
                  (PyStr.lit "recipient_count", .int recipients.length)] >>=
                fun _ => pure (redirect (PyStr.lit "/analyst/notifications"))) :=
  rfl

/-- What a request that returns has done. -/
theorem campaignRequest_ok {r : Response} :
    campaignRequest env tables citext st db S ctx currentUser form u = (.ok r, u') ↔
      r = redirect (PyStr.lit "/analyst/notifications") ∧
      ∃ recipients c c',
        Outbox.recipientFindings tables citext db form = .ok recipients ∧
        Outbox.select st.faults recipients u.world = .ok (c, recipients) ∧
        Outbox.enqueueAll env st Outbox.newFindingsTemplate recipients c = .ok c' ∧
        ctx.refuses (campaignEvent ctx currentUser form recipients.length
          u.journal.length) u.journal = none ∧
        u' = { u with
          world := c'
          journal := u.journal ++ [campaignEvent ctx currentUser form
            recipients.length u.journal.length] } := by
  rw [campaignRequest_eq, Work.bind_ok]
  constructor
  · rintro ⟨target, v, hgiven, hrest⟩
    obtain ⟨rfl, rfl, -⟩ := given_targetForm.mp hgiven
    obtain ⟨recipients, v₁, hfound, hrest⟩ := Work.bind_ok.mp hrest
    obtain ⟨hrecipients, c, hselect, rfl⟩ := perform_selectRecipients.mp hfound
    obtain ⟨_, v₂, hqueued, hrest⟩ := Work.bind_ok.mp hrest
    obtain ⟨c', hloop, rfl⟩ := enqueueAll_campaign.mp hqueued
    obtain ⟨_, v₃, haudit, hend⟩ := Work.bind_ok.mp hrest
    obtain ⟨hrefuses, rfl⟩ := Work.note_ok.mp haudit
    cases hend
    exact ⟨rfl, recipients, c, c', hrecipients, hselect, hloop, hrefuses, rfl⟩
  · rintro ⟨rfl, recipients, c, c', hrecipients, hselect, hloop, hrefuses, rfl⟩
    obtain ⟨p, hp, -⟩ := bind_eq_ok.mp hrecipients
    have hgiven := (given_targetForm (u := u)).mpr ⟨rfl, rfl, p, hp⟩
    have hfound := perform_selectRecipients.mpr ⟨hrecipients, c, hselect, rfl⟩
    refine ⟨_, u, hgiven, Work.bind_ok.mpr ⟨recipients, _, hfound,
      Work.bind_ok.mpr ⟨(), { u with world := c' }, ?_,
        Work.bind_ok.mpr ⟨(), _, ?_, rfl⟩⟩⟩⟩
    · exact enqueueAll_campaign.mpr ⟨c', hloop, rfl⟩
    · exact Work.note_ok.mpr ⟨hrefuses, rfl⟩

theorem whole_given {α : Type} {result : Except Raised α} :
    Work.Whole (given result : Handler (Counted Outboxes) α) := by
  cases result with
  | ok a => exact Work.Whole.pure
  | error e => exact Work.Whole.raise

theorem whole_campaignRequest :
    Work.Whole (campaignRequest env tables citext st db S ctx currentUser form) := by
  have hloop : ∀ recipients, Work.Whole
      (enqueueAll (campaignServices env tables citext st db S) recipients) := by
    intro recipients
    induction recipients with
    | nil => exact Work.Whole.pure
    | cons r rest ih => exact Work.Whole.statement.bind fun _ => ih
  rw [campaignRequest_eq]
  refine whole_given.bind fun target => ?_
  refine Work.Whole.bind Work.Whole.statement fun recipients => ?_
  refine (hloop recipients).bind fun _ => ?_
  exact Work.Whole.bind (fun u => Work.Whole.note u) fun _ => Work.Whole.pure

/-! ## §3  The request -/

/-- The last statement of the campaign is the insert of its audit event. -/
def AuditIsLast (env : Findings.Env) (tables : TextTables) (citext : PyStr → PyStr)
    (st : Statements) (db : Directory) (ctx : AuditContext) (currentUser : User)
    (form : TargetType × PyStr) (o : Outboxes) (log : List AuditLog) : Prop :=
  ∀ recipients c c',
    Outbox.recipientFindings tables citext db form = .ok recipients →
    Outbox.select st.faults recipients ⟨0, o⟩ = .ok (c, recipients) →
    Outbox.enqueueAll env st Outbox.newFindingsTemplate recipients c = .ok c' →
    (st.faults c'.calls = none ↔ ctx.refuses (campaignEvent ctx currentUser form
      recipients.length log.length) log = none)

theorem confirmNotifications_eq_ok {o o' : Outboxes} :
    Outbox.confirmNotifications env tables citext st db form o = .ok o' ↔
      ∃ recipients c c',
        Outbox.recipientFindings tables citext db form = .ok recipients ∧
        Outbox.select st.faults recipients ⟨0, o⟩ = .ok (c, recipients) ∧
        Outbox.enqueueAll env st Outbox.newFindingsTemplate recipients c = .ok c' ∧
        st.faults c'.calls = none ∧ o' = c'.state := by
  unfold Outbox.confirmNotifications
  constructor
  · intro h
    obtain ⟨recipients, hrecipients, h⟩ := bind_eq_ok.mp h
    obtain ⟨⟨c, found⟩, hselect, h⟩ := bind_eq_ok.mp h
    cases select_value hselect
    obtain ⟨c', hloop, h⟩ := bind_eq_ok.mp h
    obtain ⟨⟨c'', x⟩, haudit, h⟩ := bind_eq_ok.mp h
    obtain ⟨hfault, -, hstate⟩ := call_eq_ok.mp haudit
    rw [Except.ok.injEq, Prod.mk.injEq] at hstate
    cases h
    exact ⟨recipients, c, c', hrecipients, hselect, hloop, hfault, hstate.1.symm⟩
  · rintro ⟨recipients, c, c', hrecipients, hselect, hloop, hfault, rfl⟩
    refine bind_eq_ok.mpr ⟨recipients, hrecipients, bind_eq_ok.mpr ⟨_, hselect,
      bind_eq_ok.mpr ⟨c', hloop, bind_eq_ok.mpr
        ⟨(⟨c'.calls + 1, c'.state⟩, ()), ?_, rfl⟩⟩⟩⟩
    exact call_eq_ok.mpr ⟨hfault, rfl, rfl⟩

/-- **The request of a campaign.** It returns just when the campaign goes
through, with the outbox as the campaign leaves it and one event more, and
leaves everything as it was otherwise. -/
theorem campaignRequest_refines {o : Outboxes} {log : List AuditLog}
    (haudit : AuditIsLast env tables citext st db ctx currentUser form o log) :
    match Outbox.confirmNotifications env tables citext st db form o with
    | .ok o' => ∃ calls event, getDbSession
        (campaignRequest env tables citext st db S ctx currentUser form) (⟨0, o⟩, log) =
          (.ok (redirect (PyStr.lit "/analyst/notifications")),
            (⟨calls, o'⟩, log ++ [event]))
    | .error _ => ∃ raised, getDbSession
        (campaignRequest env tables citext st db S ctx currentUser form) (⟨0, o⟩, log) =
          (.error raised, (⟨0, o⟩, log)) := by
  cases hcampaign : Outbox.confirmNotifications env tables citext st db form o with
  | ok o' =>
      obtain ⟨recipients, c, c', hrecipients, hselect, hloop, hfault, rfl⟩ :=
        confirmNotifications_eq_ok.mp hcampaign
      have hrefuses := (haudit recipients c c' hrecipients hselect hloop).mp hfault
      refine ⟨c'.calls, campaignEvent ctx currentUser form recipients.length
        log.length, ?_⟩
      refine Work.run_ok.mpr ⟨_, campaignRequest_ok.mpr ⟨rfl, recipients, c, c',
        hrecipients, hselect, hloop, hrefuses, rfl⟩, rfl⟩
  | error e =>
      cases hrun : getDbSession
          (campaignRequest env tables citext st db S ctx currentUser form)
          (⟨0, o⟩, log) with
      | mk result after =>
          cases result with
          | error raised =>
              rw [whole_campaignRequest.rolled_back hrun]
              exact ⟨raised, rfl⟩
          | ok r =>
              obtain ⟨u, hu, -⟩ := Work.run_ok.mp hrun
              obtain ⟨-, recipients, c, c', hrecipients, hselect, hloop, hrefuses,
                -⟩ := campaignRequest_ok.mp hu
              have hfault :=
                (haudit recipients c c' hrecipients hselect hloop).mpr hrefuses
              rw [confirmNotifications_eq_ok.mpr ⟨recipients, c, c', hrecipients,
                hselect, hloop, hfault, rfl⟩] at hcampaign
              cases hcampaign

end Handler

end LeakcheckHub.Routers
