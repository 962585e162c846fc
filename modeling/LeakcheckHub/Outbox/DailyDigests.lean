import LeakcheckHub.Outbox.Watchlist

/-!
# Digests of a day

`enqueue_digest_notifications` of `app/notifications.py` between ingests,
remediations and changes of the accounts. The key of a digest is made of its
user, its day and the findings that are open, so a second digest of the day is
dropped just when the user's open findings are those of the first.

§1 runs · §2 one recipient · §3 one call · §4 the law.
-/

namespace LeakcheckHub.Outbox

open Foundation Findings

/-! ## §1  Runs -/

/-- The tables that a digest reads and writes. -/
structure Mailing where
  users : List User
  subjects : List ScannedSubject
  store : FindingStore
  outboxes : Outboxes

def Mailing.directory (s : Mailing) : Directory :=
  ⟨s.users, s.subjects, s.store.findings⟩

/-- The active users with open findings, as the digest groups them. -/
def Directory.digestRecipients (db : Directory) : List (Uuid × List Uuid) :=
  groupByKey (db.openRows User.isActive)

/-- `digest` for the UTC day of its `now`; `accounts` is any other transaction
on users and subjects. -/
inductive Mailing.Action where
  | digest (st : Statements) (day : Date)
  | findings (op : Op)
  | accounts (users : List User) (subjects : List ScannedSubject)

/-- What raises is rolled back. -/
def mailing (env : Env) : System Mailing Mailing.Action where
  init s := s.outboxes.notifications = []
  step s
    | .digest st day => some { s with
        outboxes := (enqueueDigestNotifications env st s.directory day
          s.outboxes).toOption.getD s.outboxes }
    | .findings op =>
        ((ledger env).step s.store op).map fun store => { s with store := store }
    | .accounts users subjects =>
        some { s with users := users, subjects := subjects }

/-- A digest of the user's for the day. -/
def IsDigest (userId : Uuid) (day : Date) (n : Notification) : Prop :=
  n.userId = userId ∧ n.template = digestTemplate day

instance (userId : Uuid) (day : Date) (n : Notification) :
    Decidable (IsDigest userId day n) :=
  inferInstanceAs (Decidable (_ ∧ _))

/-- What the day's digests to a recipient list is what is open. -/
def Unchanged (db : Directory) (day : Date) (o : Outboxes) : Prop :=
  ∀ r ∈ db.digestRecipients, ∀ n ∈ o.notifications, IsDigest r.1 day n →
    n.findingIds = sortedIds r.2

instance (db : Directory) (day : Date) (o : Outboxes) :
    Decidable (Unchanged db day o) :=
  inferInstanceAs (Decidable (∀ r ∈ db.digestRecipients, ∀ n ∈ o.notifications,
    IsDigest r.1 day n → n.findingIds = sortedIds r.2))

/-- Between two digests of a day no recipient's open findings change. -/
def Undisturbed (s : Mailing) : Mailing.Action → Prop
  | .digest _ day => Unchanged s.directory day s.outboxes
  | _ => True

instance : ∀ (s : Mailing) (a : Mailing.Action), Decidable (Undisturbed s a)
  | _, .digest .. => inferInstanceAs (Decidable (Unchanged _ _ _))
  | _, .findings _ => .isTrue trivial
  | _, .accounts .. => .isTrue trivial

/-- At most one digest per user and day. -/
def OncePerDay (o : Outboxes) : Prop :=
  ∀ userId day,
    o.notifications.countP (fun n => decide (IsDigest userId day n)) ≤ 1

/-- Every notification is under the digest of its own message. -/
def Keyed (env : Env) (o : Outboxes) : Prop :=
  ∀ n ∈ o.notifications, IsTemplate n.template ∧
    ∃ ids, n.findingIds = sortedIds ids ∧
      n.dedupeKey = env.sha256 (notificationMessage n.userId n.template ids)

/-! ## §2  One recipient -/

section Recipient

variable {env : Env} {st : Statements} {day : Date} {c c' : Counted Outboxes}
  {r : Uuid × List Uuid} {recipients : List (Uuid × List Uuid)}
  {o o' : Outboxes} {db : Directory}

/-- The key of a recipient's digest. -/
def digestKey (env : Env) (day : Date) (r : Uuid × List Uuid) : Bytes :=
  env.sha256 (notificationMessage r.1 (digestTemplate day) r.2)

theorem digestTemplate_isTemplate (day : Date) :
    IsTemplate (digestTemplate day) := .inr ⟨day, rfl⟩

theorem notificationMessage_congr {userId : Uuid} {template : PyStr}
    {ids ids' : List Uuid} (h : sortedIds ids = sortedIds ids') :
    notificationMessage userId template ids =
      notificationMessage userId template ids' := by
  unfold notificationMessage
  rw [h]

/-- A recipient's digest: its key is taken, or it gets a row. -/
theorem enqueueDigest_cases (hids : r.2 ≠ [])
    (h : enqueueNotification env st r.1 r.2 (digestTemplate day) c = .ok c') :
    ((∃ n ∈ c.state.notifications, n.dedupeKey = digestKey env day r) ∧
        c'.state = c.state) ∨
      (∀ n ∈ c.state.notifications, n.dedupeKey ≠ digestKey env day r) ∧
        ∃ row, IsDigest r.1 day row ∧ row.findingIds = sortedIds r.2 ∧
          row.dedupeKey = digestKey env day r ∧
          c'.state.notifications = c.state.notifications ++ [row] := by
  have hinsert := enqueueNotification_state (digestTemplate_isTemplate day) hids h
  rcases insertNotification_cases hinsert with hknown | ⟨hfree, hrow⟩
  · exact .inl hknown
  · exact .inr ⟨hfree, _, ⟨rfl, rfl⟩, rfl, rfl, hrow⟩

theorem Keyed.append {row : Notification} (h : Keyed env o)
    (hrow : IsDigest r.1 day row) (hids : row.findingIds = sortedIds r.2)
    (hkey : row.dedupeKey = digestKey env day r)
    (ho : o'.notifications = o.notifications ++ [row]) : Keyed env o' := by
  intro n hn
  rw [ho] at hn
  rcases List.mem_append.mp hn with hn | hn
  · exact h n hn
  · rw [List.mem_singleton.mp hn, hrow.1, hrow.2]
    exact ⟨digestTemplate_isTemplate day, r.2, hids, hkey⟩

/-- A digest that lists what is open has the recipient's key. -/
theorem Keyed.key_eq {n : Notification} (h : Keyed env o)
    (hn : n ∈ o.notifications) (hdigest : IsDigest r.1 day n)
    (hids : n.findingIds = sortedIds r.2) : n.dedupeKey = digestKey env day r := by
  obtain ⟨-, ids, hsorted, hkey⟩ := h n hn
  rw [hkey, hdigest.1, hdigest.2]
  unfold digestKey
  rw [notificationMessage_congr (hsorted.symm.trans hids)]

/-- Where SHA-256 tells the messages apart, only a digest of the recipient's
that lists what is open has its key. -/
theorem Keyed.of_key_eq {n : Notification} (h : Keyed env o)
    (hn : n ∈ o.notifications)
    (hcollision : ∀ ids, n.findingIds = sortedIds ids → NoCollision env.sha256
      (notificationMessage n.userId n.template ids)
      (notificationMessage r.1 (digestTemplate day) r.2))
    (hkey : n.dedupeKey = digestKey env day r) :
    IsDigest r.1 day n ∧ n.findingIds = sortedIds r.2 := by
  obtain ⟨htemplate, ids, hsorted, hown⟩ := h n hn
  have hmessage := hcollision ids hsorted (hown.symm.trans hkey)
  obtain ⟨huser, hday, hids⟩ := (notificationMessage_inj htemplate
    (digestTemplate_isTemplate day)).mp hmessage
  refine ⟨⟨huser, hday⟩, ?_⟩
  rw [hsorted, sortedIds_eq_iff]
  exact hids

theorem OncePerDay.append {row : Notification} (h : OncePerDay o)
    (hnone : ∀ n ∈ o.notifications, ¬ IsDigest r.1 day n)
    (hrow : IsDigest r.1 day row)
    (ho : o'.notifications = o.notifications ++ [row]) : OncePerDay o' := by
  intro userId other
  rw [ho, List.countP_append, List.countP_singleton]
  by_cases hsame : IsDigest userId other row
  · have hzero : o.notifications.countP
        (fun n => decide (IsDigest userId other n)) = 0 := by
      refine List.countP_eq_zero.mpr fun n hn hdigest => hnone n hn ?_
      obtain ⟨huser, hday⟩ := of_decide_eq_true hdigest
      exact ⟨huser.trans (hsame.1.symm.trans hrow.1),
        hday.trans (hsame.2.symm.trans hrow.2)⟩
    rw [hzero, if_pos (decide_eq_true hsame)]
  · rw [if_neg (by simpa using hsame)]
    exact h userId other

/-- Two digests of a user for one day are one row. -/
theorem OncePerDay.unique {n m : Notification} {userId : Uuid} (h : OncePerDay o)
    (hn : n ∈ o.notifications) (hm : m ∈ o.notifications)
    (hdigest : IsDigest userId day n) (hdigest' : IsDigest userId day m) :
    n = m := by
  have hone := h userId day
  rw [List.countP_eq_length_filter] at hone
  have hn' : n ∈ o.notifications.filter fun n => decide (IsDigest userId day n) :=
    List.mem_filter.mpr ⟨hn, decide_eq_true hdigest⟩
  have hm' : m ∈ o.notifications.filter fun n => decide (IsDigest userId day n) :=
    List.mem_filter.mpr ⟨hm, decide_eq_true hdigest'⟩
  cases hrows : o.notifications.filter fun n => decide (IsDigest userId day n) with
  | nil =>
      rw [hrows] at hn'
      cases hn'
  | cons x rest =>
      rw [hrows, List.length_cons] at hone
      have hrest : rest = [] := List.eq_nil_of_length_eq_zero (by omega)
      rw [hrows, hrest, List.mem_singleton] at hn' hm'
      exact hn'.trans hm'.symm

end Recipient

/-! ## §3  One call -/

section OneCall

variable {env : Env} {st : Statements} {day : Date} {c c' : Counted Outboxes}
  {recipients : List (Uuid × List Uuid)} {o o' : Outboxes} {db : Directory}

/-- The rows after the loop, by induction on the recipients: those before it,
and one under the key of each recipient. -/
theorem enqueueAll_rows (hids : ∀ r ∈ recipients, r.2 ≠ [])
    (h : enqueueAll env st (digestTemplate day) recipients c = .ok c')
    (hkeyed : Keyed env c.state) :
    Keyed env c'.state ∧ c.state.notifications <+: c'.state.notifications ∧
      ∀ r ∈ recipients, ∃ n ∈ c'.state.notifications,
        n.dedupeKey = digestKey env day r := by
  induction recipients generalizing c with
  | nil =>
      cases h
      exact ⟨hkeyed, List.prefix_rfl, List.forall_mem_nil _⟩
  | cons r rest ih =>
      obtain ⟨c₁, hone, hrest⟩ := foldlM_cons_eq_ok.mp h
      have hids' : ∀ r ∈ rest, r.2 ≠ [] :=
        fun r hr => hids r (List.mem_cons_of_mem _ hr)
      have hfirst : Keyed env c₁.state ∧
          c.state.notifications <+: c₁.state.notifications ∧
          ∃ n ∈ c₁.state.notifications, n.dedupeKey = digestKey env day r := by
        rcases enqueueDigest_cases (hids r List.mem_cons_self) hone with
          ⟨htaken, hsame⟩ | ⟨-, row, hrow, hsorted, hkey, hnew⟩
        · rw [hsame]
          exact ⟨hkeyed, List.prefix_rfl, htaken⟩
        · refine ⟨hkeyed.append hrow hsorted hkey hnew, ?_, row, ?_, hkey⟩
          · rw [hnew]
            exact List.prefix_append _ _
          · rw [hnew]
            exact List.mem_append_right _ List.mem_cons_self
      obtain ⟨hkeyed₁, hkept₁, n, hn, hkey⟩ := hfirst
      obtain ⟨hkeyed', hkept', hserved⟩ := ih hids' hrest hkeyed₁
      refine ⟨hkeyed', hkept₁.trans hkept', ?_⟩
      intro r' hr'
      rcases List.mem_cons.mp hr' with rfl | hr'
      · exact ⟨n, hkept'.subset hn, hkey⟩
      · exact hserved r' hr'

/-- Recipients whose digests of the day list what is open keep at most one
each: such a digest has the key, and a row that is added is the first. -/
theorem enqueueAll_once (hnodup : (recipients.map Prod.fst).Nodup)
    (hids : ∀ r ∈ recipients, r.2 ≠ [])
    (h : enqueueAll env st (digestTemplate day) recipients c = .ok c')
    (hkeyed : Keyed env c.state)
    (hsame : ∀ r ∈ recipients, ∀ n ∈ c.state.notifications,
      IsDigest r.1 day n → n.findingIds = sortedIds r.2)
    (honce : OncePerDay c.state) : OncePerDay c'.state := by
  induction recipients generalizing c with
  | nil =>
      cases h
      exact honce
  | cons r rest ih =>
      obtain ⟨c₁, hone, hrest⟩ := foldlM_cons_eq_ok.mp h
      rw [List.map_cons, List.nodup_cons] at hnodup
      have hids' : ∀ r ∈ rest, r.2 ≠ [] :=
        fun r hr => hids r (List.mem_cons_of_mem _ hr)
      have hsame' : ∀ r ∈ rest, ∀ n ∈ c.state.notifications,
          IsDigest r.1 day n → n.findingIds = sortedIds r.2 :=
        fun r hr => hsame r (List.mem_cons_of_mem _ hr)
      rcases enqueueDigest_cases (hids r List.mem_cons_self) hone with
        ⟨-, hstate⟩ | ⟨hfree, row, hrow, hsorted, hkey, hnew⟩
      · rw [← hstate] at hkeyed hsame' honce
        exact ih hnodup.2 hids' hrest hkeyed hsame' honce
      · have hnone : ∀ n ∈ c.state.notifications, ¬ IsDigest r.1 day n := by
          intro n hn hdigest
          exact hfree n hn (hkeyed.key_eq hn hdigest
            (hsame r List.mem_cons_self n hn hdigest))
        refine ih hnodup.2 hids' hrest (hkeyed.append hrow hsorted hkey hnew) ?_
          (honce.append hnone hrow hnew)
        intro r' hr' n hn hdigest
        rw [hnew] at hn
        rcases List.mem_append.mp hn with hn | hn
        · exact hsame' r' hr' n hn hdigest
        · -- the new row is for another recipient
          rw [List.mem_singleton.mp hn] at hdigest
          have huser : r.1 = r'.1 := hrow.1.symm.trans hdigest.1
          exact absurd (List.mem_map.mpr ⟨r', hr', huser.symm⟩) hnodup.1

theorem digestRecipients_spec (db : Directory) :
    (db.digestRecipients.map Prod.fst).Nodup ∧
      ∀ r ∈ db.digestRecipients, r.2 ≠ [] := by
  have hgroups := groups_groupByKey (db.openRows User.isActive)
  exact ⟨hgroups.keys, fun r hr => (hgroups.values r.1 r.2 hr).2⟩

theorem digest_eq_ok
    (h : enqueueDigestNotifications env st db day o = .ok o') :
    ∃ c c' : Counted Outboxes, c.state = o ∧ c'.state = o' ∧
      enqueueAll env st (digestTemplate day) db.digestRecipients c = .ok c' := by
  obtain ⟨⟨c, rows⟩, hselect, h₁⟩ := bind_eq_ok.mp h
  obtain ⟨c', hloop, hok⟩ := bind_eq_ok.mp h₁
  cases hok
  obtain ⟨-, -, hrows⟩ := call_eq_ok.mp hselect
  rw [Except.ok.injEq, Prod.mk.injEq] at hrows
  rw [← hrows.2] at hloop
  exact ⟨c, c', hrows.1.symm, rfl, hloop⟩

/-- A call that succeeds leaves one digest a day just when the day's digests
list what is open; SHA-256 has to tell the messages apart. -/
theorem digest_once_iff (hkeyed : Keyed env o) (honce : OncePerDay o)
    (h : enqueueDigestNotifications env st db day o = .ok o')
    (hcollision : ∀ r ∈ db.digestRecipients, ∀ n ∈ o'.notifications, ∀ ids,
      n.findingIds = sortedIds ids → NoCollision env.sha256
        (notificationMessage n.userId n.template ids)
        (notificationMessage r.1 (digestTemplate day) r.2)) :
    OncePerDay o' ↔ Unchanged db day o := by
  obtain ⟨c, c', rfl, rfl, hloop⟩ := digest_eq_ok h
  obtain ⟨hnodup, hids⟩ := digestRecipients_spec db
  constructor
  · intro honce' r hr n hn hdigest
    obtain ⟨hkeyed', hkept, hserved⟩ := enqueueAll_rows hids hloop hkeyed
    obtain ⟨m, hm, hkey⟩ := hserved r hr
    obtain ⟨hmdigest, hmids⟩ := hkeyed'.of_key_eq hm (hcollision r hr m hm) hkey
    have hsame := honce'.unique (hkept.subset hn) hm hdigest hmdigest
    rw [hsame]
    exact hmids
  · intro hunchanged
    exact enqueueAll_once hnodup hids hloop hkeyed hunchanged honce

end OneCall

/-! ## §4  The law -/

/-- What holds in every state of a run whose digests find the day's digests
unchanged. -/
structure Mailed (env : Env) (s : Mailing) : Prop where
  keyed : Keyed env s.outboxes
  once : OncePerDay s.outboxes

theorem mailed_step {env : Env} {s s' : Mailing} {a : Mailing.Action}
    (h : Mailed env s) (hundisturbed : Undisturbed s a)
    (hstep : (mailing env).step s a = some s') : Mailed env s' := by
  cases a with
  | digest st day =>
      have hs' : s' = { s with
          outboxes := (enqueueDigestNotifications env st s.directory day
            s.outboxes).toOption.getD s.outboxes } := (Option.some.inj hstep).symm
      subst hs'
      cases hcall : enqueueDigestNotifications env st s.directory day
          s.outboxes with
      | error e =>
          exact h
      | ok o' =>
          obtain ⟨c, c', hstate, hstate', hloop⟩ := digest_eq_ok hcall
          obtain ⟨hnodup, hids⟩ := digestRecipients_spec s.directory
          have hkeyed := h.keyed
          have honce := h.once
          have hsame : Unchanged s.directory day s.outboxes := hundisturbed
          rw [← hstate] at hkeyed honce hsame
          refine ⟨?_, ?_⟩
          · show Keyed env o'
            rw [← hstate']
            exact (enqueueAll_rows hids hloop hkeyed).1
          · show OncePerDay o'
            rw [← hstate']
            exact enqueueAll_once hnodup hids hloop hkeyed hsame honce
  | findings op =>
      obtain ⟨store, -, rfl⟩ := Option.map_eq_some_iff.mp hstep
      exact ⟨h.keyed, h.once⟩
  | accounts users subjects =>
      cases hstep
      exact ⟨h.keyed, h.once⟩

theorem mailed_reachable {env : Env} {s : Mailing}
    (h : (mailing env).ReachableUnder Undisturbed s) : Mailed env s := by
  refine h.invariant ?_ fun s a s' hs hg hstep => mailed_step hs hg hstep
  intro s hinit
  have hempty : s.outboxes.notifications = [] := hinit
  refine ⟨?_, ?_⟩
  · intro n hn
    rw [hempty] at hn
    cases hn
  · intro userId day
    rw [hempty]
    exact Nat.zero_le _

/-- **Digests of a day.** In a run of any length, in which each digest finds
that what the day's earlier ones list to its recipients is what is open, every
user has one digest a day at most. -/
theorem digests_once_a_day {env : Env} {s : Mailing}
    (h : (mailing env).ReachableUnder Undisturbed s) (userId : Uuid)
    (day : Date) :
    s.outboxes.notifications.countP
      (fun n => decide (IsDigest userId day n)) ≤ 1 :=
  (mailed_reachable h).once userId day

/-- SHA-256 on Ana's digests of one and of two findings. -/
def dailyEnv : Env where
  __ := sampleEnv
  sha256 b := (([(notificationMessage 1 (digestTemplate sampleDay) [6], digestOf
      0x3d21ffe33af5e7d9615cb16abd5dba49a9d95a75f6ef09930b60122bfeeb7e85),
    (notificationMessage 1 (digestTemplate sampleDay) [6, 7], digestOf
      0x9564b1294d2ade297acfec4fd99e6c5feceac9e3556b555237c462a927613ef0)] ++
    sampleDigests).find? fun x => x.1 == b).elim zeroPasswordHash Prod.snd

def dailyStart : Mailing where
  users := [sampleUser]
  subjects := [⟨sampleSubject, some 1, none, none⟩]
  store := FindingStore.empty
  outboxes := ⟨[], []⟩

theorem dailyStart_init : (mailing dailyEnv).init dailyStart := rfl

/-- The digest whose row is `id`. -/
def digestOn (id : ℕ) : Mailing.Action :=
  .digest ⟨fun _ => none, fun i => BitVec.ofNat 128 (id + i), 0⟩ sampleDay

def ingestOf (entry : LeakRecord × RecordDraws) : Mailing.Action :=
  .findings (.ingest sampleSubject [entry] none 0)

/-- A finding that is remediated and opened again between two digests. -/
def reopened : List Mailing.Action :=
  [ingestOf firstLeak, digestOn 60, .findings (.change (.remediate 1 none 0) 6 61),
    .findings (.change (.unremediate 1 0) 6 62), digestOn 63]

theorem reopened_once : ∃ s,
    (mailing dailyEnv).runUnder Undisturbed dailyStart reopened = some s ∧
      s.outboxes.notifications.length = 1 ∧
      s.outboxes.notifications.countP
        (fun n => decide (IsDigest 1 sampleDay n)) ≤ 1 := by
  have hrun : ∃ s, (mailing dailyEnv).runUnder Undisturbed dailyStart reopened =
      some s ∧ s.outboxes.notifications.length = 1 :=
    System.exists_of_runUnder (by decide +kernel)
  obtain ⟨s, hrun, hlength⟩ := hrun
  exact ⟨s, hrun, hlength,
    digests_once_a_day (System.reachable_of_runUnder dailyStart_init hrun) 1 sampleDay⟩

/-- A leak that is found between two digests. -/
def leakBetween : List Mailing.Action :=
  [ingestOf firstLeak, digestOn 60, ingestOf secondLeak, digestOn 63]

/-- Ana gets two digests on one day. -/
theorem leak_between_digests :
    ¬ ∀ (env : Env) (s : Mailing), (mailing env).Reachable s →
      ∀ userId day, s.outboxes.notifications.countP
        (fun n => decide (IsDigest userId day n)) ≤ 1 := by
  intro hall
  have hrun : ∃ s, (mailing dailyEnv).runUnder (fun _ _ => True) dailyStart
      leakBetween = some s ∧ s.outboxes.notifications.countP
        (fun n => decide (IsDigest 1 sampleDay n)) = 2 :=
    System.exists_of_runUnder (by decide +kernel)
  obtain ⟨s, hrun, htwo⟩ := hrun
  have hone := hall dailyEnv s (System.reachable_of_runUnder dailyStart_init hrun) 1 sampleDay
  omega

end LeakcheckHub.Outbox
