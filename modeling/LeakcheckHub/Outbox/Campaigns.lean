import LeakcheckHub.Findings.Ingest
import LeakcheckHub.Foundation.Dates
import LeakcheckHub.Foundation.Groups
import LeakcheckHub.Foundation.System
import LeakcheckHub.Outbox.Delivery
import LeakcheckHub.Outbox.Fanout

/-!
# Campaigns

`confirm_notifications` of `app/routers/notifications.py` on an outbox that
`enqueue_notification`, the fan-out of a scan, the digest and `deliver_next`
have filled and worked off. A message is queued under a key made of its user,
its template and its findings, whatever has become of the row that has it.

§1 open findings · §2 targets · §3 calls on the outbox · §4 recipients ·
§5 what a campaign queues · §6 the law.
-/

set_option linter.unusedSectionVars false

namespace LeakcheckHub.Outbox

open Foundation Crypto Findings

/-! ## §1  Open findings -/

/-- The tables that the digest and a campaign join. -/
structure Directory where
  users : List User
  subjects : List ScannedSubject
  findings : List Finding

/-- `ORDER BY users.id, findings.id`. -/
def joinedBefore (x y : User × Uuid) : Prop :=
  x.1.id.toNat < y.1.id.toNat ∨
    x.1.id = y.1.id ∧ x.2.toNat ≤ y.2.toNat

instance : DecidableRel joinedBefore := fun _ _ =>
  inferInstanceAs (Decidable (_ ∨ _))

/-- The open findings of all users. -/
def Directory.joined (db : Directory) : List (User × Uuid) :=
  (db.users.flatMap fun user =>
    (db.subjects.filter fun subject =>
      decide (subject.linkedUserId = some user.id)).flatMap fun subject =>
        (db.findings.filter fun finding =>
          decide (finding.subjectId = subject.id) &&
            finding.remediatedAt.isNone).map fun finding =>
              (user, finding.id)).insertionSort joinedBefore

/-- `SELECT users.id, findings.id … WHERE p`. -/
def Directory.openRows (db : Directory) (p : User → Bool) :
    List (Uuid × Uuid) :=
  (db.joined.filter fun x => p x.1).map fun x => (x.1.id, x.2)

/-- The open findings of one user. -/
def Directory.openFindings (db : Directory) (userId : Uuid) : List Uuid :=
  valuesOf (db.openRows fun _ => true) userId

/-! ## §2  Targets -/

inductive TargetType where
  | user
  | ou
  | domain
  | selection
deriving DecidableEq, Repr

/-- `_escape_like`. -/
def escapeLike (value : PyStr) : PyStr :=
  value.flatMap fun c =>
    if c = 92 ∨ c = 37 ∨ c = 95 then [92, c] else [c]

/-- `text LIKE pattern ESCAPE '\'`. No pattern here ends in its escape. -/
def like : PyStr → PyStr → Bool
  | [], text => text.isEmpty
  | p :: pattern, text =>
      if p = 37 then
        -- any number of characters
        text.tails.any (like pattern)
      else
        match text with
        | [] => false
        | c :: text =>
            if p = 95 then like pattern text
            else if p = 92 then
              match pattern with
              | [] => false
              | q :: pattern => c == q && like pattern text
            else c == p && like pattern text

/-- `text.replace(old, "")`; `skip` characters belong to an occurrence. -/
def removeAll (old : PyStr) : ℕ → PyStr → PyStr
  | _, [] => []
  | skip + 1, _ :: text => removeAll old skip text
  | 0, c :: text =>
      if old.isPrefixOf (c :: text) then removeAll old (old.length - 1) text
      else c :: removeAll old 0 text

/-- Groups of hexadecimal digits between single underscores. -/
def hexadecimal (text : PyStr) : Option ℕ :=
  let groups := text.splitOn 95
  if groups.any List.isEmpty then none
  else (groups.flatten.mapM hexValue).map (List.foldl (fun n d => n * 16 + d) 0)

/-- `int(text, 16)`, which takes a sign and a prefix. -/
def intOfHex (decimal : CodePoint → Option ℕ) (text : PyStr) : Option ℤ :=
  let text := text.map (PyStr.intChar decimal)
  let text := ((text.dropWhile PyStr.isAsciiSpace).reverse.dropWhile
    PyStr.isAsciiSpace).reverse
  let (negative, text) := match text with
    | 43 :: rest => (false, rest)
    | 45 :: rest => (true, rest)
    | _ => (false, text)
  let text := match text with
    | 48 :: 120 :: 95 :: rest | 48 :: 88 :: 95 :: rest => rest
    | 48 :: 120 :: rest | 48 :: 88 :: rest => rest
    | _ => text
  (hexadecimal text).map fun n => if negative then -(n : ℤ) else n

/-- `uuid.UUID(text)`; `none` is the `ValueError`. -/
def uuidOf (decimal : CodePoint → Option ℕ) (text : PyStr) : Option Uuid := do
  let text := removeAll (PyStr.lit "uuid:") 0
    (removeAll (PyStr.lit "urn:") 0 text)
  let isBrace := fun c : CodePoint => c == 123 || c == 125
  let text := ((text.dropWhile isBrace).reverse.dropWhile isBrace).reverse
  let text := text.filter (· ≠ 45)
  let n ← if text.length = 32 then intOfHex decimal text else none
  if 0 ≤ n ∧ n < 2 ^ 128 then some (BitVec.ofInt 128 n) else none

section Targets

variable (tables : TextTables) (citext : PyStr → PyStr)

/-- `HTTPException(422, …)`. -/
def invalidSelection : PyException :=
  ⟨PyStr.lit "HTTPException", PyStr.lit "422: Invalid user selection."⟩

/-- The users of the inner select of `_recipient_findings`; `CITEXT` compares
without regard to case. -/
def targeted (targetType : TargetType) (target : PyStr) :
    Except PyException (User → Bool) :=
  match targetType with
  | .user =>
      .ok fun user => citext user.email == citext (tables.casefold target)
  | .ou =>
      let escaped :=
        escapeLike (rstripSlashes target ++ PyStr.lit "/") ++ PyStr.lit "%"
      .ok fun user =>
        user.ouPath == some target || user.ouPath.any (like escaped)
  | .domain =>
      let domain := escapeLike ((tables.casefold target).dropWhile (· == 64))
      .ok fun user =>
        like (citext (PyStr.lit "%@" ++ domain)) (citext user.email)
  | .selection =>
      let items := ((target.splitOn 44).map PyStr.strip).filter (· ≠ [])
      match items.mapM (uuidOf tables.decimal) with
      | some ids => .ok fun user => decide (user.id ∈ ids)
      | none => .error invalidSelection

/-- `_recipient_findings`: users with their open findings. -/
def recipientFindings (db : Directory) (form : TargetType × PyStr) :
    Except PyException (List (Uuid × List Uuid)) := do
  let p ← targeted tables citext form.1 form.2
  let ids := (db.users.filter fun user => user.isActive && p user).map User.id
  .ok (groupByKey (db.openRows fun user => decide (user.id ∈ ids)))

end Targets

/-! ## §3  Calls on the outbox -/

section Calls

variable (env : Env) (tables : TextTables) (citext : PyStr → PyStr)

/-- The loop of `confirm_notifications` and of the digest. -/
def enqueueAll (st : Statements) (template : PyStr)
    (recipients : List (Uuid × List Uuid)) (c : Counted Outboxes) :
    Except PyException (Counted Outboxes) :=
  recipients.foldlM (fun c r => enqueueNotification env st r.1 r.2 template c) c

/-- `confirm_notifications`, whose session commits when it returns. The audit
event is a row of another table. -/
def confirmNotifications (st : Statements) (db : Directory)
    (form : TargetType × PyStr) (o : Outboxes) :
    Except PyException Outboxes := do
  let recipients ← recipientFindings tables citext db form
  let (c, recipients) ← select st.faults recipients ⟨0, o⟩
  let c ← enqueueAll env st newFindingsTemplate recipients c
  let (c, _) ← select st.faults () c
  .ok c.state

/-- `f"{_DIGEST_TEMPLATE}:{date.isoformat()}"`. -/
def digestTemplate (date : Date) : PyStr :=
  PyStr.lit "findings_digest:" ++ date.isoformat

/-- `enqueue_digest_notifications`. -/
def enqueueDigestNotifications (st : Statements) (db : Directory) (date : Date)
    (o : Outboxes) : Except PyException Outboxes := do
  let (c, rows) ← select st.faults (db.openRows User.isActive) ⟨0, o⟩
  let c ← enqueueAll env st (digestTemplate date) (groupByKey rows) c
  .ok c.state

/-- What a delivery meets: the stored settings, its own sender or none, what
`send` raises, the clock, and the users. -/
structure DeliveryCall where
  stored : SettingKey → Except SettingError (Option PyStr)
  ownSender : Bool
  raised : Option PyStr
  current : Timestamp
  users : List User

/-- The `try` with the sender. -/
def DeliveryCall.sending (d : DeliveryCall) (user : User) (values : Settings) :
    Ending :=
  match prepare tables d.ownSender values user.email, d.raised with
  | .error e, _ => .failed e.name
  | .ok _, some exception => .failed exception
  | .ok _, none => .sent d.current

/-- What becomes of the notification of `user`, by the settings. -/
def DeliveryCall.settled (d : DeliveryCall) (user : User)
    (notifications : List Notification) (values : Settings) :
    Except SettingError Ending := do
  let dryRun ← dryRunSetting tables (values .notifyDryRun)
  if dryRun then .ok .dryRun
  else do
    let cooldown ← cooldownSetting tables (values .notifyCooldownSeconds)
    let recent := notifications.countP
      (recentlySent user.id (d.current - seconds cooldown))
    if cooldown ≠ 0 ∧ 0 < recent then .ok .suppressed
    else .ok (d.sending tables user values)

def DeliveryCall.ending (d : DeliveryCall) (user : User)
    (notifications : List Notification) : Except SettingError Ending := do
  let values ← readMany d.stored
  d.settled tables user notifications values

/-- The row of the join that is first in the queue. -/
def DeliveryCall.next (d : DeliveryCall) (notifications : List Notification) :
    Option (Notification × User) :=
  let pending := notifications.filter fun n => n.status == .pending
  let queue := (pending.map fun n => (n.id, n)).insertionSort deliveredBefore
  queue.findSome? fun x =>
    (d.users.find? fun user => decide (user.id = x.2.userId)).map (x.2, ·)

/-- `deliver_next` on its own; what raises is rolled back. -/
def deliverNext (d : DeliveryCall) (o : Outboxes) :
    Except SettingError Outboxes :=
  match d.next o.notifications with
  | none => .ok o
  | some (notification, user) => do
      let ending ← d.ending tables user o.notifications
      .ok { o with
        notifications := o.notifications.map fun n =>
          if n.id = notification.id then finish (attempt n) ending else n }

inductive Call where
  | enqueue (st : Statements) (userId : Uuid) (findingIds : List Uuid)
      (template : PyStr)
  | fanOut (st : Statements) (watchlist : List WatchlistEntry)
      (stored : List Finding) (subject : ScannedSubject)
      (findingIds : List Uuid)
  | digest (st : Statements) (db : Directory) (date : Date)
  | deliver (d : DeliveryCall)

/-- The outbox as a call leaves it; what raises is rolled back. -/
def Call.run (o : Outboxes) : Call → Outboxes
  | .enqueue st userId findingIds template =>
      match enqueueNotification env st userId findingIds template ⟨0, o⟩ with
      | .ok c => c.state
      | .error _ => o
  | .fanOut st watchlist stored subject findingIds =>
      (Outbox.fanOut env st watchlist stored subject findingIds o).toOption.getD o
  | .digest st db date =>
      (enqueueDigestNotifications env st db date o).toOption.getD o
  | .deliver d => (deliverNext tables d o).toOption.getD o

/-- The outbox from an empty one on. -/
def outbox : System Outboxes Call where
  init o := o = ⟨[], []⟩
  step o call := some (call.run env tables o)

end Calls

/-! ## §4  Recipients -/

section Recipients

variable {tables : TextTables} {citext : PyStr → PyStr} {db : Directory}
  {form : TargetType × PyStr} {recipients : List (Uuid × List Uuid)}

/-- A restriction by user keeps all findings of a user or none. -/
theorem valuesOf_openRows {p : User → Bool} {userId : Uuid}
    (h : ∀ user : User, user.id = userId → p user = true) :
    valuesOf (db.openRows p) userId = db.openFindings userId := by
  unfold Directory.openFindings valuesOf Directory.openRows
  rw [List.filter_map, List.filter_map, List.filter_filter, List.filter_filter]
  congr 2
  apply List.filter_congr
  intro x _
  by_cases hx : x.1.id = userId
  · simp [hx, h x.1 hx]
  · simp [hx]

/-- A campaign goes to each of its users once, for their open findings. -/
theorem recipientFindings_spec
    (h : recipientFindings tables citext db form = .ok recipients) :
    (recipients.map Prod.fst).Nodup ∧ ∀ r ∈ recipients,
      r.2 = db.openFindings r.1 ∧ r.2 ≠ [] := by
  obtain ⟨p, -, hok⟩ := bind_eq_ok.mp h
  cases hok
  have hgroups := groups_groupByKey (db.openRows fun user => decide
    (user.id ∈ (db.users.filter fun user => user.isActive && p user).map User.id))
  refine ⟨hgroups.keys, ?_⟩
  intro r hr
  obtain ⟨hvalues, hne⟩ := hgroups.values r.1 r.2 hr
  refine ⟨?_, hne⟩
  -- the user has a row, so it is one of the selected
  have hrow : ∃ x ∈ db.joined, x.1.id = r.1 ∧ x.1.id ∈
      (db.users.filter fun user => user.isActive && p user).map User.id := by
    by_contra hnone
    apply hne
    rw [hvalues]
    apply valuesOf_eq_nil
    intro row hmem hkey
    obtain ⟨x, hx, hxrow⟩ := List.mem_map.mp hmem
    obtain ⟨hx, hsel⟩ := List.mem_filter.mp hx
    rw [← hxrow] at hkey
    exact hnone ⟨x, hx, hkey, of_decide_eq_true hsel⟩
  obtain ⟨x, -, hid, hsel⟩ := hrow
  rw [hvalues]
  apply valuesOf_openRows
  intro user huser
  rw [huser, ← hid]
  exact decide_eq_true hsel

end Recipients

/-! ## §5  What a campaign queues -/

/-- A row of the user for exactly these findings will be sent or was sent. -/
def Served (o : Outboxes) (userId : Uuid) (findingIds : List Uuid) : Prop :=
  ∃ n ∈ o.notifications, n.userId = userId ∧
    n.findingIds = sortedIds findingIds ∧
    (n.status = .pending ∨ n.status = .sent)

/-- The key of a campaign's message. -/
def messageKey (env : Env) (r : Uuid × List Uuid) : Except PyException Bytes :=
  notificationKey env r.1 newFindingsTemplate (sortedIds r.2)

/-- No row has the key of the message. -/
def KeyFree (env : Env) (o : Outboxes) (r : Uuid × List Uuid) : Prop :=
  ∀ n ∈ o.notifications, messageKey env r ≠ .ok n.dedupeKey

/-- No recipient before `r` has its key. -/
def FirstWithKey (env : Env) (recipients : List (Uuid × List Uuid))
    (r : Uuid × List Uuid) : Prop :=
  recipients.find? (fun r' => decide (messageKey env r' = messageKey env r)) =
    some r

/-- The row that a campaign adds for `r`. -/
structure Queued (env : Env) (r : Uuid × List Uuid) (n : Notification) :
    Prop where
  user : n.userId = r.1
  findings : n.findingIds = sortedIds r.2
  pending : n.status = .pending
  key : messageKey env r = .ok n.dedupeKey

section Queue

variable {env : Env} {st : Statements} {c c' : Counted Outboxes}
  {r : Uuid × List Uuid} {recipients : List (Uuid × List Uuid)}

theorem insertText_ne_nil (t : PyStr) (ts : List PyStr) :
    insertText t ts ≠ [] := by
  cases ts with
  | nil => exact List.cons_ne_nil _ _
  | cons u us =>
      unfold insertText
      split
      · exact List.cons_ne_nil _ _
      · split
        · exact List.cons_ne_nil _ _
        · exact List.cons_ne_nil _ _

theorem sortedIds_ne_nil {ids : List Uuid} (h : ids ≠ []) : sortedIds ids ≠ [] := by
  cases ids with
  | nil => exact absurd rfl h
  | cons i ids => exact insertText_ne_nil _ _

/-- One message: its key is taken, or it gets a row. -/
theorem enqueueNotification_spec (hids : r.2 ≠ [])
    (h : enqueueNotification env st r.1 r.2 newFindingsTemplate c = .ok c') :
    (¬ KeyFree env c.state r ∧ c'.state = c.state) ∨
    (KeyFree env c.state r ∧ ∃ n, Queued env r n ∧
      c'.state.notifications = c.state.notifications ++ [n]) := by
  unfold enqueueNotification at h
  have hne : (sortedIds r.2).isEmpty = false := by
    rw [List.isEmpty_eq_false_iff]
    exact sortedIds_ne_nil hids
  simp only [hne] at h
  obtain ⟨key, hkey, hrest⟩ := bind_eq_ok.mp h
  obtain ⟨⟨c₁, u⟩, hcall, hok⟩ := bind_eq_ok.mp hrest
  cases hok
  obtain ⟨-, -, hinsert⟩ := call_eq_ok.mp hcall
  have hmessage : messageKey env r = .ok key := hkey
  unfold insertNotification at hinsert
  split at hinsert
  · cases hinsert
  · split at hinsert
    · rename_i htaken
      left
      rw [Except.ok.injEq, Prod.mk.injEq] at hinsert
      refine ⟨?_, hinsert.1.symm⟩
      intro hfree
      obtain ⟨n, hn, heq⟩ := List.any_eq_true.mp htaken
      apply hfree n hn
      rw [hmessage, beq_iff_eq.mp heq]
    · rename_i hnew
      split at hinsert
      · cases hinsert
      · right
        rw [Except.ok.injEq, Prod.mk.injEq] at hinsert
        have hrows := congrArg Outboxes.notifications hinsert.1
        refine ⟨?_, _, ?_, hrows.symm⟩
        · intro n hn hsame
          apply hnew
          rw [hmessage, Except.ok.injEq] at hsame
          rw [List.any_eq_true]
          exact ⟨n, hn, beq_iff_eq.mpr hsame.symm⟩
        · exact ⟨rfl, rfl, rfl, hmessage⟩

/-- What the loop adds: a row for each recipient whose key was free and which
is the first to have it. -/
structure Adds (env : Env) (o : Outboxes) (recipients : List (Uuid × List Uuid))
    (new : List Notification) : Prop where
  sound : ∀ n ∈ new, ∃ r ∈ recipients, Queued env r n ∧ KeyFree env o r ∧
    FirstWithKey env recipients r
  complete : ∀ r ∈ recipients, KeyFree env o r →
    FirstWithKey env recipients r → ∃ n ∈ new, Queued env r n

theorem firstWithKey_cons {r₀ : Uuid × List Uuid} :
    FirstWithKey env (r₀ :: recipients) r ↔
      r₀ = r ∨ messageKey env r₀ ≠ messageKey env r ∧
        FirstWithKey env recipients r := by
  unfold FirstWithKey
  rw [List.find?_cons]
  by_cases h : messageKey env r₀ = messageKey env r
  · simp [h]
  · have hne : r₀ ≠ r := fun heq => h (congrArg _ heq)
    simp [h, hne]

/-- The key of the first recipient was taken. -/
theorem Adds.skip {o : Outboxes} {r₀ : Uuid × List Uuid}
    {new : List Notification} (h : Adds env o recipients new)
    (htaken : ¬ KeyFree env o r₀) : Adds env o (r₀ :: recipients) new := by
  have hne : ∀ r, KeyFree env o r → messageKey env r₀ ≠ messageKey env r := by
    intro r hfree heq
    apply htaken
    intro n hn
    rw [heq]
    exact hfree n hn
  refine ⟨?_, ?_⟩
  · intro n hn
    obtain ⟨r, hr, hqueued, hfree, hfirst⟩ := h.sound n hn
    refine ⟨r, List.mem_cons_of_mem _ hr, hqueued, hfree, ?_⟩
    exact firstWithKey_cons.mpr (.inr ⟨hne r hfree, hfirst⟩)
  · intro r hr hfree hfirst
    rcases List.mem_cons.mp hr with rfl | hr
    · exact absurd hfree htaken
    · rcases firstWithKey_cons.mp hfirst with rfl | ⟨-, hfirst⟩
      · exact absurd hfree htaken
      · exact h.complete r hr hfree hfirst

/-- The first recipient got the row `n₀`. -/
theorem Adds.push {o o₁ : Outboxes} {r₀ : Uuid × List Uuid} {n₀ : Notification}
    {new : List Notification} (h : Adds env o₁ recipients new)
    (hrows : o₁.notifications = o.notifications ++ [n₀])
    (hfree₀ : KeyFree env o r₀) (hqueued₀ : Queued env r₀ n₀) :
    Adds env o (r₀ :: recipients) (n₀ :: new) := by
  have hiff : ∀ r, KeyFree env o₁ r ↔
      KeyFree env o r ∧ messageKey env r₀ ≠ messageKey env r := by
    intro r
    unfold KeyFree
    rw [hrows, hqueued₀.key]
    constructor
    · intro hall
      refine ⟨fun n hn => hall n (List.mem_append_left _ hn), ?_⟩
      exact Ne.symm (hall n₀ (List.mem_append_right _ List.mem_cons_self))
    · rintro ⟨hold, hnew⟩ n hn
      rcases List.mem_append.mp hn with hn | hn
      · exact hold n hn
      · rw [List.mem_singleton.mp hn]
        exact Ne.symm hnew
  refine ⟨?_, ?_⟩
  · intro n hn
    rcases List.mem_cons.mp hn with rfl | hn
    · exact ⟨r₀, List.mem_cons_self, hqueued₀, hfree₀,
        firstWithKey_cons.mpr (.inl rfl)⟩
    · obtain ⟨r, hr, hqueued, hfree, hfirst⟩ := h.sound n hn
      obtain ⟨hfree, hne⟩ := (hiff r).mp hfree
      exact ⟨r, List.mem_cons_of_mem _ hr, hqueued, hfree,
        firstWithKey_cons.mpr (.inr ⟨hne, hfirst⟩)⟩
  · intro r hr hfree hfirst
    rcases firstWithKey_cons.mp hfirst with rfl | ⟨hne, hfirst⟩
    · exact ⟨n₀, List.mem_cons_self, hqueued₀⟩
    · have hr : r ∈ recipients := List.mem_of_find?_eq_some hfirst
      obtain ⟨n, hn, hqueued⟩ := h.complete r hr ((hiff r).mpr ⟨hfree, hne⟩) hfirst
      exact ⟨n, List.mem_cons_of_mem _ hn, hqueued⟩

/-- By induction on the recipients. -/
theorem enqueueAll_adds (hids : ∀ r ∈ recipients, r.2 ≠ [])
    (h : enqueueAll env st newFindingsTemplate recipients c = .ok c') :
    ∃ new, c'.state.notifications = c.state.notifications ++ new ∧
      Adds env c.state recipients new := by
  induction recipients generalizing c with
  | nil =>
      cases h
      exact ⟨[], (List.append_nil _).symm, nofun, nofun⟩
  | cons r₀ rest ih =>
      obtain ⟨c₁, hone, hrest⟩ := foldlM_cons_eq_ok.mp h
      have hids₀ : r₀.2 ≠ [] := hids r₀ List.mem_cons_self
      obtain ⟨new, hnew, hadds⟩ :=
        ih (fun r hr => hids r (List.mem_cons_of_mem _ hr)) hrest
      rcases enqueueNotification_spec hids₀ hone with ⟨htaken, hsame⟩ |
        ⟨hfree, n, hqueued, hrows⟩
      · rw [hsame] at hnew hadds
        exact ⟨new, hnew, hadds.skip htaken⟩
      · refine ⟨n :: new, ?_, hadds.push hrows hfree hqueued⟩
        rw [hnew, hrows, List.append_assoc]
        rfl

theorem confirmNotifications_adds {tables : TextTables}
    {citext : PyStr → PyStr} {db : Directory} {form : TargetType × PyStr}
    {o o' : Outboxes}
    (hr : recipientFindings tables citext db form = .ok recipients)
    (h : confirmNotifications env tables citext st db form o = .ok o') :
    ∃ new, o'.notifications = o.notifications ++ new ∧
      Adds env o recipients new := by
  obtain ⟨found, hfound, h₁⟩ := bind_eq_ok.mp h
  rw [hr, Except.ok.injEq] at hfound
  subst hfound
  obtain ⟨⟨c₁, selected⟩, hselect, h₂⟩ := bind_eq_ok.mp h₁
  obtain ⟨-, -, hstate⟩ := call_eq_ok.mp hselect
  rw [Except.ok.injEq, Prod.mk.injEq] at hstate
  obtain ⟨c₂, hloop, h₃⟩ := bind_eq_ok.mp h₂
  obtain ⟨⟨c₃, u⟩, haudit, hok⟩ := bind_eq_ok.mp h₃
  cases hok
  rw [← hstate.2] at hloop
  have hids : ∀ r ∈ recipients, r.2 ≠ [] :=
    fun r hmem => ((recipientFindings_spec hr).2 r hmem).2
  obtain ⟨new, hnew, hadds⟩ := enqueueAll_adds hids hloop
  rw [← hstate.1] at hnew hadds
  refine ⟨new, ?_, hadds⟩
  rw [select_state haudit]
  exact hnew

end Queue

/-! ## §6  The law -/

/-- **Campaigns.** After a confirmed campaign a recipient has a row for
exactly the findings that are open, PENDING or SENT, just when there was one
before, or when no row had the key of the message, and no recipient before it
in the same campaign. -/
theorem campaign_queued_iff {env : Env} {tables : TextTables}
    {citext : PyStr → PyStr} {st : Statements} {db : Directory}
    {form : TargetType × PyStr} {recipients : List (Uuid × List Uuid)}
    {o o' : Outboxes}
    (hr : recipientFindings tables citext db form = .ok recipients)
    (h : confirmNotifications env tables citext st db form o = .ok o') :
    (∀ r ∈ recipients, Served o' r.1 (db.openFindings r.1)) ↔
      ∀ r ∈ recipients, Served o r.1 (db.openFindings r.1) ∨
        KeyFree env o r ∧ FirstWithKey env recipients r := by
  obtain ⟨new, hnew, hadds⟩ := confirmNotifications_adds hr h
  obtain ⟨hnodup, hspec⟩ := recipientFindings_spec hr
  refine forall_congr' fun r => ?_
  refine forall_congr' fun hmem => ?_
  have hopen := (hspec r hmem).1
  rw [← hopen]
  unfold Served
  rw [hnew]
  constructor
  · rintro ⟨n, hn, huser, hfindings, hstatus⟩
    rcases List.mem_append.mp hn with hold | hn
    · exact .inl ⟨n, hold, huser, hfindings, hstatus⟩
    · -- a new row of the user is the one that the campaign added for it
      right
      obtain ⟨r', hr', hqueued, hfree, hfirst⟩ := hadds.sound n hn
      have heq : r' = r := by
        apply List.inj_on_of_nodup_map hnodup hr' hmem
        exact hqueued.user.symm.trans huser
      rw [← heq]
      exact ⟨hfree, hfirst⟩
  · rintro (⟨n, hn, hserved⟩ | ⟨hfree, hfirst⟩)
    · exact ⟨n, List.mem_append_left _ hn, hserved⟩
    · obtain ⟨n, hn, hqueued⟩ := hadds.complete r hmem hfree hfirst
      exact ⟨n, List.mem_append_right _ hn, hqueued.user, hqueued.findings,
        .inl hqueued.pending⟩

def sampleStatements : Statements := ⟨fun _ => none, BitVec.ofNat 128, 0⟩

def sampleMessage : Bytes :=
  PyStr.asciiLit "leakcheck/notification/v1" ++ [0] ++ (1 : Uuid).bytes ++
    PyStr.asciiLit "new_findings" ++
    PyStr.asciiLit "00000000-0000-0000-0000-000000000007"

def benMessage : Bytes :=
  PyStr.asciiLit "leakcheck/notification/v1" ++ [0] ++ (2 : Uuid).bytes ++
    PyStr.asciiLit "new_findings" ++
    PyStr.asciiLit "00000000-0000-0000-0000-000000000008"

/-- SHA-256 on the two messages. -/
def campaignEnv : Env where
  __ := sampleEnv
  sha256 b :=
    if b = sampleMessage then digestOf
      0xc9d0630af71dbb87016fa9aa67293262524910685d800cf6366293f121aac5c2
    else if b = benMessage then digestOf
      0x4daa4e3c2d839cfb782a30f709c4e8635be9e514b39730e2ecbefbea66068821
    else zeroPasswordHash

def ben : User :=
  { sampleUser with id := 2, email := PyStr.lit "ben@corp.example" }

/-- Ana and Ben, with one open finding each. -/
def sampleTeam : Directory where
  users := [sampleUser, ben]
  subjects := [⟨⟨50, .email, sampleUser.email⟩, some 1, none, none⟩,
    ⟨⟨51, .email, ben.email⟩, some 2, none, none⟩]
  findings := [Finding.blank 7 50 2 0, Finding.blank 8 51 2 0]

/-- Ana was told of her finding, and Ben of another one. -/
def earlierRows : Outboxes where
  notifications := [
    { id := 300, userId := 1, template := newFindingsTemplate,
      findingIds := sortedIds [7], status := .sent,
      dedupeKey := campaignEnv.sha256 sampleMessage, attempts := 1,
      error := none, createdAt := 0, sentAt := some 1 },
    { id := 301, userId := 2, template := newFindingsTemplate,
      findingIds := sortedIds [6], status := .failed,
      dedupeKey := digestOf
        0xde8baddd8ccd7220487077d090405d54f7f4bb7e8ef0c8a7a9c1d93e2038d915,
      attempts := 1, error := some (PyStr.lit "OSError"), createdAt := 0,
      sentAt := none }]
  alerts := []

def teamRecipients : List (Uuid × List Uuid) := [(1, [7]), (2, [8])]

theorem sampleTeam_recipients :
    recipientFindings asciiTables PyStr.asciiLower sampleTeam
      (.domain, PyStr.lit "@corp.example") = .ok teamRecipients := by
  decide +kernel

/-- Ana keeps her row and Ben gets one. -/
theorem team_campaign_queued :
    ∃ o', confirmNotifications campaignEnv asciiTables PyStr.asciiLower
        sampleStatements sampleTeam (.domain, PyStr.lit "@corp.example")
        earlierRows = .ok o' ∧
      ∀ r ∈ teamRecipients, Served o' r.1 (sampleTeam.openFindings r.1) := by
  have hrun : ∃ o', confirmNotifications campaignEnv asciiTables PyStr.asciiLower
      sampleStatements sampleTeam (.domain, PyStr.lit "@corp.example")
      earlierRows = .ok o' :=
    ⟨(confirmNotifications campaignEnv asciiTables PyStr.asciiLower
      sampleStatements sampleTeam (.domain, PyStr.lit "@corp.example")
      earlierRows).toOption.getD ⟨[], []⟩, by decide +kernel⟩
  obtain ⟨o', hrun⟩ := hrun
  refine ⟨o', hrun, (campaign_queued_iff sampleTeam_recipients hrun).mpr ?_⟩
  have hopen : sampleTeam.openFindings 1 = [7] := by decide +kernel
  intro r hr
  rcases List.mem_cons.mp hr with rfl | hr
  · left
    exact ⟨_, List.mem_cons_self, rfl, by rw [hopen], .inr rfl⟩
  · rw [List.mem_singleton.mp hr]
    right
    have hfree : ∀ n ∈ earlierRows.notifications,
        messageKey campaignEnv (2, [8]) ≠ .ok n.dedupeKey := by
      decide +kernel
    have hfirst : teamRecipients.find? (fun r' => decide
        (messageKey campaignEnv r' = messageKey campaignEnv (2, [8]))) =
          some (2, [8]) := by
      decide +kernel
    exact ⟨hfree, hfirst⟩

/-- Ana, with one open finding. -/
def sampleDirectory : Directory where
  users := [sampleUser]
  subjects := [⟨⟨50, .email, sampleUser.email⟩, some 1, none, none⟩]
  findings := [Finding.blank 7 50 2 0]

def sampleForm : TargetType × PyStr := (.user, PyStr.lit "Ana@corp.example")

def sampleCampaign (o : Outboxes) : Except PyException Outboxes :=
  confirmNotifications campaignEnv asciiTables PyStr.asciiLower sampleStatements
    sampleDirectory sampleForm o

theorem sampleForm_recipients :
    recipientFindings asciiTables PyStr.asciiLower sampleDirectory sampleForm =
      .ok [(1, [7])] := by
  decide +kernel

/-- The same message, worked off while the switch was on. -/
def dryRunFirst : List Call :=
  [.enqueue sampleStatements 1 [7] newFindingsTemplate,
    .deliver ⟨fun _ => .ok none, false, none, 0, [sampleUser]⟩]

theorem dryRunFirst_reached : ∃ o,
    (outbox campaignEnv asciiTables).runUnder (fun _ _ => True) ⟨[], []⟩
      dryRunFirst = some o ∧ sampleCampaign o = .ok o ∧
      ∀ n ∈ o.notifications, n.status = .dryRun :=
  System.exists_of_runUnder (by decide +kernel)

/-- A campaign after a dry run of the same message queues nothing. -/
theorem dry_run_campaign_dropped :
    ¬ ∀ (env : Env) (tables : TextTables) (citext : PyStr → PyStr)
      (st : Statements) (db : Directory) (form : TargetType × PyStr)
      (recipients : List (Uuid × List Uuid)) (o o' : Outboxes),
      (outbox env tables).Reachable o →
        recipientFindings tables citext db form = .ok recipients →
        confirmNotifications env tables citext st db form o = .ok o' →
          ∀ r ∈ recipients, Served o' r.1 (db.openFindings r.1) := by
  intro hall
  obtain ⟨o, hrun, hcampaign, hstatus⟩ := dryRunFirst_reached
  have hserved := hall campaignEnv asciiTables PyStr.asciiLower sampleStatements
    sampleDirectory sampleForm _ o o (System.reachable_of_runUnder rfl hrun)
    sampleForm_recipients hcampaign (1, [7]) List.mem_cons_self
  obtain ⟨n, hn, -, -, hpending | hsent⟩ := hserved
  · rw [hstatus n hn] at hpending
    cases hpending
  · rw [hstatus n hn] at hsent
    cases hsent

end LeakcheckHub.Outbox
