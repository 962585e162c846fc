import LeakcheckHub.Accounts.Users
import LeakcheckHub.Foundation.KeyedRows
import LeakcheckHub.Foundation.System
import Mathlib.Algebra.Order.Ring.Int
import Mathlib.Tactic.Linarith

/-!
# Sessions

`SessionManager` of `app/auth/session.py`: `issue`, `verify`, `revoke` and
`revoke_all` under one clock, with arbitrary changes of the users between them.

§1 rows and settings · §2 the operations · §3 runs · §4 what a step does to
one session · §5 deadlines and revocation.
-/

set_option linter.unusedSectionVars false

namespace LeakcheckHub.Auth

open Foundation Accounts

/-! ## §1  Rows and settings -/

structure Session where
  idHash : Bytes
  userId : Uuid
  createdAt : Timestamp
  expiresAt : Timestamp
  lastSeenAt : Timestamp
  idleExpiresAt : Timestamp
  ipHash : Bytes
  uaHash : Bytes
  revokedAt : Option Timestamp
deriving DecidableEq, Repr

/-- `ck_sessions_expires_after_created` and
`ck_sessions_idle_expires_after_created`. -/
def Session.checks (s : Session) : Bool :=
  decide (s.createdAt < s.expiresAt) && decide (s.createdAt < s.idleExpiresAt)

abbrev SessionRows : Type := KeyedRows Session.idHash

structure SessionTables (ops : TextOps) where
  users : UserTable ops
  sessions : SessionRows

/-- The settings of a manager with the functions it calls. -/
structure SessionManager where
  idleTtlSeconds : ℕ
  absoluteTtlSeconds : ℕ
  idle_pos : 1 ≤ idleTtlSeconds
  absolute_pos : 1 ≤ absoluteTtlSeconds
  idle_le : idleTtlSeconds ≤ absoluteTtlSeconds
  /-- SHA-256 of a token. -/
  tokenHash : PyStr → Bytes
  /-- HMAC-SHA256 under the session secret. -/
  metadataHash : PyStr → Bytes
  /-- `str(ipaddress.ip_address(value))`; `none` is the `ValueError`. -/
  canonicalIp : PyStr → Option PyStr

inductive SessionError where
  | malformedAddress
  | integrity
deriving DecidableEq, Repr

structure IssuedSession where
  token : PyStr
  expiresAt : Timestamp

structure VerifiedSession where
  user : User
  expiresAt : Timestamp
deriving DecidableEq

/-! ## §2  The operations -/

def tokenLength : ℕ := 43

/-- A full match of `_TOKEN_PATTERN`. -/
def isToken (s : PyStr) : Bool :=
  s.length == tokenLength && s.all fun c =>
    (48 ≤ c.val && c.val ≤ 57) || (65 ≤ c.val && c.val ≤ 90) ||
      (97 ≤ c.val && c.val ≤ 122) || c.val == 45 || c.val == 95

namespace SessionManager

variable {ops : TextOps} (M : SessionManager)

def idleTtl : ℤ := seconds M.idleTtlSeconds

def absoluteTtl : ℤ := seconds M.absoluteTtlSeconds

/-- `_validated_token_hash`. -/
def validatedTokenHash (token : Option PyStr) : Option Bytes :=
  (token.filter fun token => isToken token).map M.tokenHash

def issue (userId : Uuid) (clientIp : PyStr) (userAgent : Option PyStr)
    (rawToken : PyStr) (now : Timestamp) (t : SessionTables ops) :
    Except SessionError (IssuedSession × SessionTables ops) :=
  let expiresAt := now + M.absoluteTtl
  match M.canonicalIp clientIp with
  | none => .error .malformedAddress
  | some ip =>
      let session : Session :=
        { idHash := M.tokenHash rawToken
          userId := userId
          createdAt := now
          expiresAt := expiresAt
          lastSeenAt := now
          idleExpiresAt := min (now + M.idleTtl) expiresAt
          ipHash := M.metadataHash ip
          uaHash := M.metadataHash (userAgent.getD [])
          revokedAt := none }
      if (t.users.byId userId).isNone || !session.checks then
        .error .integrity
      else
        match t.sessions.insert session with
        | none => .error .integrity
        | some sessions => .ok (⟨rawToken, expiresAt⟩, { t with sessions })

/-- The row of the join of `sessions` and `users` on a digest. -/
def join (t : SessionTables ops) (digest : Bytes) : Option (Session × User) :=
  (t.sessions.find digest).bind fun session =>
    (t.users.byId session.userId).map fun user => (session, user)

/-- The assignments of a successful `verify`. -/
def slide (now : Timestamp) (s : Session) : Session :=
  { s with
    lastSeenAt := now
    idleExpiresAt := min s.expiresAt (now + M.idleTtl) }

theorem slide_idHash (now : Timestamp) (s : Session) :
    (M.slide now s).idHash = s.idHash := rfl

/-- A session past a deadline. -/
def expired (now : Timestamp) (s : Session) : Bool :=
  decide (s.expiresAt ≤ now) || decide (s.idleExpiresAt ≤ now)

def verify (token : Option PyStr) (now : Timestamp) (t : SessionTables ops) :
    Except SessionError (Option VerifiedSession × SessionTables ops) :=
  match M.validatedTokenHash token with
  | none => .ok (none, t)
  | some digest =>
      match join t digest with
      | none => .ok (none, t)
      | some (session, user) =>
          if session.revokedAt.isSome || !user.isActive ||
              expired now session then .ok (none, t)
          else if !(M.slide now session).checks then .error .integrity
          else
            .ok (some ⟨user, session.expiresAt⟩,
              { t with
                sessions := t.sessions.updateWhere
                  (fun s => decide (s.idHash = digest)) (M.slide now)
                  (M.slide_idHash now) })

def markRevoked (now : Timestamp) (s : Session) : Session :=
  { s with revokedAt := some now }

theorem markRevoked_idHash (now : Timestamp) (s : Session) :
    (markRevoked now s).idHash = s.idHash := rfl

def revoke (token : Option PyStr) (now : Timestamp) (t : SessionTables ops) :
    Bool × SessionTables ops :=
  match M.validatedTokenHash token with
  | none => (false, t)
  | some digest =>
      match t.sessions.find digest with
      | none => (false, t)
      | some session =>
          if session.revokedAt.isSome then (false, t)
          else
            (true, { t with
              sessions := t.sessions.updateWhere
                (fun s => decide (s.idHash = digest)) (markRevoked now)
                (markRevoked_idHash now) })

/-- The rows that `revoke_all` selects. -/
def revocable (userId : Uuid) (s : Session) : Bool :=
  decide (s.userId = userId) && s.revokedAt.isNone

def revokeAll (userId : Uuid) (now : Timestamp) (t : SessionTables ops) :
    ℕ × SessionTables ops :=
  (t.sessions.rows.countP (revocable userId),
    { t with
      sessions := t.sessions.updateWhere (revocable userId) (markRevoked now)
        (markRevoked_idHash now) })

end SessionManager

/-! ## §3  Runs -/

structure Sessions (ops : TextOps) where
  tables : SessionTables ops
  now : Timestamp

inductive SessionAction (ops : TextOps) where
  | issue (userId : Uuid) (clientIp : PyStr) (userAgent : Option PyStr)
      (rawToken : PyStr)
  | verify (token : Option PyStr)
  | revoke (token : Option PyStr)
  | revokeAll (userId : Uuid)
  /-- Users are created, changed, deactivated and activated. -/
  | edit (users : UserTable ops)
  | tick (dt : ℕ)

/-- What became of a session: when it was issued and last used, and whether a
revocation has named it. -/
structure SessionLog where
  issuedAt : Option Timestamp
  lastUse : Option Timestamp
  revoked : Bool
deriving DecidableEq

section Runs

variable {ops : TextOps} (M : SessionManager) (key : Bytes)

/-- A call that raises is rolled back. -/
def Sessions.step (s : Sessions ops) : SessionAction ops → Option (Sessions ops)
  | .issue userId clientIp userAgent rawToken =>
      match M.issue userId clientIp userAgent rawToken s.now s.tables with
      | .error _ => some s
      | .ok (_, tables) => some { s with tables }
  | .verify token =>
      match M.verify token s.now s.tables with
      | .error _ => some s
      | .ok (_, tables) => some { s with tables }
  | .revoke token => some { s with tables := (M.revoke token s.now s.tables).2 }
  | .revokeAll userId =>
      some { s with
        tables := (SessionManager.revokeAll userId s.now s.tables).2 }
  | .edit users => some { s with tables := { s.tables with users } }
  | .tick dt => some { s with now := s.now + dt }

def SessionLog.note (s : Sessions ops) (log : SessionLog) :
    SessionAction ops → SessionLog
  | .issue userId clientIp userAgent rawToken =>
      match M.issue userId clientIp userAgent rawToken s.now s.tables with
      | .error _ => log
      | .ok _ =>
          if M.tokenHash rawToken = key then ⟨some s.now, some s.now, false⟩
          else log
  | .verify token =>
      match M.verify token s.now s.tables with
      | .ok (some _, _) =>
          if M.validatedTokenHash token = some key then
            { log with lastUse := some s.now }
          else log
      | _ => log
  | .revoke token =>
      if M.validatedTokenHash token = some key ∧
          (s.tables.sessions.find key).isSome then { log with revoked := true }
      else log
  | .revokeAll userId =>
      if (s.tables.sessions.find key).any fun r => decide (r.userId = userId)
      then { log with revoked := true } else log
  | .edit _ | .tick _ => log

/-- Runs from an empty table. -/
def signedSessions :
    System (Recorded (Sessions ops) SessionLog) (SessionAction ops) where
  init x := x.state.tables.sessions.rows = [] ∧ x.history = ⟨none, none, false⟩
  step x a := (x.state.step M a).map fun t =>
    ⟨t, SessionLog.note M key x.state x.history a⟩

end Runs

/-! ## §4  What a step does to one session -/

section Steps

variable {ops : TextOps} {M : SessionManager} {key : Bytes} {now : Timestamp}
  {log log' : SessionLog} {r r' : Option Session} {t t' : SessionTables ops}

/-- The ways in which a step treats the session of a digest. -/
inductive SessionChange (M : SessionManager) (log : SessionLog)
    (now : Timestamp) : Option Session → Option Session → SessionLog → Prop
  | kept (r : Option Session) : SessionChange M log now r r log
  | issued (s : Session) (hcreated : s.createdAt = now)
      (hexpires : s.expiresAt = now + M.absoluteTtl)
      (hidle : s.idleExpiresAt = min s.expiresAt (now + M.idleTtl)) :
      SessionChange M log now none (some s) ⟨some now, some now, false⟩
  | used (s : Session) (hlive : s.revokedAt = none)
      (hfresh : SessionManager.expired now s = false) :
      SessionChange M log now (some s) (some (M.slide now s))
        { log with lastUse := some now }
  | revoked (s : Session) (u : Timestamp) :
      SessionChange M log now (some s)
        (some (if s.revokedAt.isSome then s else { s with revokedAt := some u }))
        { log with revoked := true }

theorem join_spec {digest : Bytes} {session : Session} {user : User}
    (h : SessionManager.join t digest = some (session, user)) :
    t.sessions.find digest = some session ∧
      t.users.byId session.userId = some user := by
  obtain ⟨s, hs, h⟩ := Option.bind_eq_some_iff.mp h
  obtain ⟨u, hu, h⟩ := Option.map_eq_some_iff.mp h
  cases h
  exact ⟨hs, hu⟩

/-- What a successful `verify` has checked, and what it writes. -/
theorem verify_spec {token : Option PyStr} {v : VerifiedSession}
    (h : M.verify token now t = .ok (some v, t')) :
    ∃ digest session, M.validatedTokenHash token = some digest ∧
      t.sessions.find digest = some session ∧
      t.users.byId session.userId = some v.user ∧
      session.revokedAt = none ∧ v.user.isActive = true ∧
      SessionManager.expired now session = false ∧
      t' = { t with
        sessions := t.sessions.updateWhere
          (fun s => decide (s.idHash = digest)) (M.slide now)
          (M.slide_idHash now) } := by
  unfold SessionManager.verify at h
  split at h
  · cases h
  · rename_i digest hdigest
    split at h
    · cases h
    · rename_i session user hjoin
      obtain ⟨hfind, huser⟩ := join_spec hjoin
      split at h
      · cases h
      · rename_i hlive
        simp only [Bool.or_eq_true, Bool.not_eq_true', not_or,
          Bool.not_eq_true, Bool.not_eq_false, Option.isSome_eq_false_iff,
          Option.isNone_iff_eq_none] at hlive
        split at h
        · cases h
        · cases h
          exact ⟨digest, session, hdigest, hfind, huser, hlive.1.1, hlive.1.2,
            hlive.2, rfl⟩

/-- **A rejected verify changes nothing.** -/
theorem verify_rejected {token : Option PyStr}
    (h : M.verify token now t = .ok (none, t')) : t' = t := by
  unfold SessionManager.verify at h
  split at h
  · cases h
    rfl
  · split at h
    · cases h
      rfl
    · split at h
      · cases h
        rfl
      · split at h
        · cases h
        · cases h

theorem find_slide {digest : Bytes} :
    (t.sessions.updateWhere (fun s => decide (s.idHash = digest)) (M.slide now)
        (M.slide_idHash now)).find key =
      (t.sessions.find key).map fun s =>
        if digest = key then M.slide now s else s := by
  rw [KeyedRows.find_updateWhere]
  cases hfind : t.sessions.find key with
  | none => rfl
  | some s =>
      have hkey : s.idHash = key := KeyedRows.key_of_find hfind
      by_cases hd : digest = key
      · simp [hkey, hd]
      · simp [hkey, hd, Ne.symm hd]

/-- `revoke` marks the named session, if it is not marked yet, and no other. -/
theorem find_revoke {token : Option PyStr} :
    (M.revoke token now t).2.sessions.find key =
      (t.sessions.find key).map fun s =>
        if M.validatedTokenHash token = some key ∧ s.revokedAt = none then
          SessionManager.markRevoked now s
        else s := by
  unfold SessionManager.revoke
  split
  · rename_i hnone
    simp [hnone]
  · rename_i digest hdigest
    simp only [hdigest, Option.some.injEq]
    cases hfind : t.sessions.find digest with
    | none =>
        cases hkey : t.sessions.find key with
        | none => rfl
        | some s =>
            have hne : digest ≠ key := by
              rintro rfl
              rw [hfind] at hkey
              cases hkey
            simp [hne]
    | some session =>
        simp only
        split
        · rename_i hrevoked
          cases hkey : t.sessions.find key with
          | none => rfl
          | some s =>
              have hnot : ¬ (digest = key ∧ s.revokedAt = none) := by
                rintro ⟨rfl, hnone⟩
                rw [hfind, Option.some.injEq] at hkey
                rw [hkey, hnone] at hrevoked
                cases hrevoked
              simp [hnot]
        · rename_i hlive
          rw [Option.not_isSome_iff_eq_none] at hlive
          simp only [KeyedRows.find_updateWhere]
          cases hkey : t.sessions.find key with
          | none => simp
          | some s =>
              have hid : s.idHash = key := KeyedRows.key_of_find hkey
              simp only [Option.map_some, hid, decide_eq_true_eq]
              by_cases hdk : digest = key
              · subst hdk
                rw [hfind, Option.some.injEq] at hkey
                subst hkey
                simp [hlive]
              · simp [hdk, Ne.symm hdk]

/-- `revoke_all` marks the unmarked sessions of the user and no others. -/
theorem find_revokeAll {userId : Uuid} :
    (SessionManager.revokeAll userId now t).2.sessions.find key =
      (t.sessions.find key).map fun s =>
        if s.userId = userId ∧ s.revokedAt = none then
          SessionManager.markRevoked now s
        else s := by
  simp only [SessionManager.revokeAll, KeyedRows.find_updateWhere,
    SessionManager.revocable, Bool.and_eq_true, decide_eq_true_eq,
    Option.isNone_iff_eq_none]

variable {x y : Recorded (Sessions ops) SessionLog} {a : SessionAction ops}

theorem issue_spec {userId : Uuid} {clientIp rawToken : PyStr}
    {userAgent : Option PyStr} {issued : IssuedSession}
    (h : M.issue userId clientIp userAgent rawToken now t = .ok (issued, t')) :
    ∃ session : Session, session.idHash = M.tokenHash rawToken ∧
      session.createdAt = now ∧ session.expiresAt = now + M.absoluteTtl ∧
      session.idleExpiresAt = min session.expiresAt (now + M.idleTtl) ∧
      t.sessions.insert session = some t'.sessions := by
  unfold SessionManager.issue at h
  simp only at h
  split at h
  · cases h
  · split at h
    · cases h
    · split at h
      · cases h
      · rename_i hinsert
        cases h
        exact ⟨_, rfl, rfl, rfl, min_comm _ _, hinsert⟩

/-- Both revocations treat a session they name alike. -/
theorem revoked_change (s : Session) :
    SessionChange M log now (some s)
      (some (if s.revokedAt = none then SessionManager.markRevoked now s else s))
      { log with revoked := true } := by
  have hmark : (if s.revokedAt = none then SessionManager.markRevoked now s
      else s) =
      if s.revokedAt.isSome then s else { s with revokedAt := some now } := by
    cases s.revokedAt with
    | none => rfl
    | some u => rfl
  rw [hmark]
  exact .revoked s now

theorem sessionChange_of_step (h : (signedSessions M key).step x a = some y) :
    SessionChange M x.history x.state.now
      (x.state.tables.sessions.find key) (y.state.tables.sessions.find key)
      y.history := by
  obtain ⟨s, hs, rfl⟩ := Option.map_eq_some_iff.mp h
  cases a with
  | issue userId clientIp userAgent rawToken =>
      simp only [Sessions.step] at hs
      simp only [SessionLog.note]
      cases hissue : M.issue userId clientIp userAgent rawToken x.state.now
          x.state.tables with
      | error e =>
          rw [hissue, Option.some.injEq] at hs
          rw [← hs]
          exact .kept _
      | ok r =>
          obtain ⟨issued, t⟩ := r
          rw [hissue, Option.some.injEq] at hs
          obtain ⟨session, hid, hcreated, hexpires, hidle, hinsert⟩ :=
            issue_spec hissue
          rw [← hs]
          simp only [KeyedRows.find_insert hinsert, hid]
          split
          · rename_i hkey
            have hfree : x.state.tables.sessions.find key = none :=
              KeyedRows.find_of_insert hinsert (hid.trans hkey)
            rw [hfree]
            exact .issued session hcreated hexpires hidle
          · exact .kept _
  | verify token =>
      simp only [Sessions.step] at hs
      simp only [SessionLog.note]
      cases hverify : M.verify token x.state.now x.state.tables with
      | error e =>
          rw [hverify, Option.some.injEq] at hs
          rw [← hs]
          exact .kept _
      | ok r =>
          obtain ⟨v, t⟩ := r
          rw [hverify, Option.some.injEq] at hs
          rw [← hs]
          cases v with
          | none =>
              simp only [verify_rejected hverify]
              exact .kept _
          | some v =>
              obtain ⟨digest, session, hdigest, hfind, huser, hlive, hactive,
                hfresh, rfl⟩ := verify_spec hverify
              simp only [find_slide, hdigest, Option.some.injEq]
              by_cases hkey : digest = key
              · subst hkey
                simp only [hfind, Option.map_some, if_true]
                exact .used session hlive hfresh
              · simp only [if_neg hkey, Option.map_id']
                exact .kept _
  | revoke token =>
      rw [← Option.some.inj hs]
      simp only [SessionLog.note, find_revoke]
      cases hfind : x.state.tables.sessions.find key with
      | none =>
          simp only [Option.isSome_none, Bool.false_eq_true, and_false, if_false]
          exact .kept _
      | some session =>
          by_cases hnamed : M.validatedTokenHash token = some key
          · simp only [hnamed, true_and, Option.isSome_some, if_true,
              Option.map_some]
            exact revoked_change session
          · simp only [hnamed, false_and, if_false, Option.map_some]
            exact .kept _
  | revokeAll userId =>
      rw [← Option.some.inj hs]
      simp only [SessionLog.note, find_revokeAll]
      cases hfind : x.state.tables.sessions.find key with
      | none => exact .kept _
      | some session =>
          by_cases huser : session.userId = userId
          · simp only [huser, true_and, Option.any_some, decide_true, if_true,
              Option.map_some]
            exact revoked_change session
          · simp only [huser, false_and, Option.any_some, decide_false,
              Bool.false_eq_true, if_false, Option.map_some]
            exact .kept _
  | edit users =>
      rw [← Option.some.inj hs]
      exact .kept _
  | tick dt =>
      rw [← Option.some.inj hs]
      exact .kept _

/-- The clock does not go back. -/
theorem now_le_of_step (h : (signedSessions M key).step x a = some y) :
    x.state.now ≤ y.state.now := by
  obtain ⟨s, hs, rfl⟩ := Option.map_eq_some_iff.mp h
  cases a with
  | issue userId clientIp userAgent rawToken =>
      simp only [Sessions.step] at hs
      split at hs <;> cases hs <;> exact le_rfl
  | verify token =>
      simp only [Sessions.step] at hs
      split at hs <;> cases hs <;> exact le_rfl
  | revoke token =>
      cases hs
      exact le_rfl
  | revokeAll userId =>
      cases hs
      exact le_rfl
  | edit users =>
      cases hs
      exact le_rfl
  | tick dt =>
      cases hs
      exact Int.le_add_of_nonneg_right (Int.natCast_nonneg dt)

end Steps

/-! ## §5  Deadlines and revocation -/

section Lifetime

variable {ops : TextOps} {M : SessionManager} {key : Bytes} {now now' : Timestamp}
  {log log' : SessionLog} {r r' : Option Session} {s : Session}
  {x y : Recorded (Sessions ops) SessionLog}

/-- What the row of a session says of its life. -/
structure Faithful (M : SessionManager) (log : SessionLog) (s : Session) :
    Prop where
  issued : log.issuedAt = some s.createdAt
  absolute : s.expiresAt = s.createdAt + M.absoluteTtl
  used : ∃ last, log.lastUse = some last ∧
    s.idleExpiresAt = min s.expiresAt (last + M.idleTtl)
  marked : log.revoked = true → s.revokedAt.isSome = true

/-- A session that is marked or past a deadline. -/
def Dead (now : Timestamp) (s : Session) : Prop :=
  s.revokedAt.isSome = true ∨ SessionManager.expired now s = true

theorem expired_eq_false :
    SessionManager.expired now s = false ↔
      now < s.expiresAt ∧ now < s.idleExpiresAt := by
  simp [SessionManager.expired]

theorem Dead.later (h : Dead now s) (hle : now ≤ now') : Dead now' s := by
  rcases h with hmarked | hexpired
  · exact .inl hmarked
  · refine .inr ?_
    simp only [SessionManager.expired, Bool.or_eq_true, decide_eq_true_eq]
      at hexpired ⊢
    exact hexpired.imp (·.trans hle) (·.trans hle)

theorem faithful_change (h : SessionChange M log now r r' log')
    (hr : ∀ s, r = some s → Faithful M log s) :
    ∀ s, r' = some s → Faithful M log' s := by
  intro s' hs'
  cases h with
  | kept => exact hr s' hs'
  | issued s hcreated hexpires hidle =>
      cases hs'
      refine ⟨?_, ?_, ⟨now, rfl, hidle⟩, nofun⟩
      · rw [hcreated]
      · rw [hcreated]
        exact hexpires
  | used s hlive hfresh =>
      cases hs'
      have hs := hr s rfl
      exact ⟨hs.issued, hs.absolute, ⟨now, rfl, rfl⟩, hs.marked⟩
  | revoked s u =>
      cases hs'
      have hs := hr s rfl
      split
      · rename_i hmarked
        exact ⟨hs.issued, hs.absolute, hs.used, fun _ => hmarked⟩
      · exact ⟨hs.issued, hs.absolute, hs.used, fun _ => rfl⟩

theorem faithful_reachable (h : (signedSessions M key).Reachable x) :
    ∀ s, x.state.tables.sessions.find key = some s →
      Faithful M x.history s := by
  refine h.invariant (I := fun x => ∀ s,
    x.state.tables.sessions.find key = some s → Faithful M x.history s) ?_ ?_
  · intro x hx s hs
    rw [KeyedRows.find_eq_some, hx.1] at hs
    exact nomatch hs.1
  · intro x a y hx _ hstep
    exact faithful_change (sessionChange_of_step hstep) hx

/-- A session stays with its absolute deadline, and a dead one stays dead. -/
theorem session_change (h : SessionChange M log now r r' log')
    (hr : r = some s) :
    ∃ s', r' = some s' ∧ s'.expiresAt = s.expiresAt ∧
      (Dead now s → Dead now s') := by
  cases h with
  | kept => exact ⟨s, hr, rfl, id⟩
  | issued => cases hr
  | used s₀ hlive hfresh =>
      cases hr
      refine ⟨_, rfl, rfl, fun hdead => ?_⟩
      -- a session in use is not dead
      rcases hdead with hmarked | hexpired
      · rw [hlive] at hmarked
        cases hmarked
      · rw [hfresh] at hexpired
        cases hexpired
  | revoked s₀ u =>
      cases hr
      refine ⟨_, rfl, ?_, fun hdead => .inl ?_⟩
      · split <;> rfl
      · split
        · rename_i hmarked
          exact hmarked
        · rfl

theorem session_leads
    {G : Recorded (Sessions ops) SessionLog → SessionAction ops → Prop}
    (h : (signedSessions M key).Leads G x y)
    (hs : x.state.tables.sessions.find key = some s) :
    ∃ s', y.state.tables.sessions.find key = some s' ∧
      s'.expiresAt = s.expiresAt ∧
      (Dead x.state.now s → Dead y.state.now s') := by
  refine h.invariant (I := fun y => ∃ s',
    y.state.tables.sessions.find key = some s' ∧
      s'.expiresAt = s.expiresAt ∧
      (Dead x.state.now s → Dead y.state.now s')) ?_ ⟨s, hs, rfl, id⟩
  rintro y a z ⟨s', hs', hexpires, hdead⟩ - hstep
  obtain ⟨s'', hs'', hexpires', hdead'⟩ :=
    session_change (sessionChange_of_step hstep) hs'
  refine ⟨s'', hs'', hexpires'.trans hexpires, fun hd => ?_⟩
  exact (hdead' (hdead hd)).later (now_le_of_step hstep)

/-- Over a run the absolute deadline stays, and it bounds the idle one. -/
theorem deadline_fixed (hx : (signedSessions M key).Reachable x)
    (hs : x.state.tables.sessions.find key = some s) :
    s.idleExpiresAt ≤ s.expiresAt ∧
      ∀ y, (signedSessions M key).Leads (fun _ _ => True) x y →
        ∃ s', y.state.tables.sessions.find key = some s' ∧
          s'.expiresAt = s.expiresAt := by
  obtain ⟨last, -, hidle⟩ := (faithful_reachable hx s hs).used
  refine ⟨hidle ▸ min_le_left _ _, fun y hrun => ?_⟩
  obtain ⟨s', hs', hexpires, -⟩ := session_leads hrun hs
  exact ⟨s', hs', hexpires⟩

/-- What `verify` accepts is unrevoked and within both time limits. -/
theorem verified_in_time (hx : (signedSessions M key).Reachable x)
    {token : Option PyStr} {v : VerifiedSession} {t : SessionTables ops}
    (htoken : M.validatedTokenHash token = some key)
    (hverify : M.verify token x.state.now x.state.tables = .ok (some v, t)) :
    v.user.isActive = true ∧
      (∃ s, x.state.tables.sessions.find key = some s ∧
        x.state.tables.users.byId s.userId = some v.user) ∧
      x.history.revoked = false ∧
      (∃ created, x.history.issuedAt = some created ∧
        x.state.now < created + M.absoluteTtl) ∧
      ∃ last, x.history.lastUse = some last ∧
        x.state.now < last + M.idleTtl := by
  obtain ⟨digest, s, hdigest, hfind, huser, hlive, hactive, hfresh, -⟩ :=
    verify_spec hverify
  obtain rfl : key = digest := Option.some.inj (htoken.symm.trans hdigest)
  have hs := faithful_reachable hx s hfind
  obtain ⟨last, hlast, hidle⟩ := hs.used
  obtain ⟨habsolute, hidle'⟩ := expired_eq_false.mp hfresh
  refine ⟨hactive, ⟨s, hfind, huser⟩, ?_, ⟨s.createdAt, hs.issued, ?_⟩, last,
    hlast, ?_⟩
  · refine Bool.eq_false_iff.mpr fun hrevoked => ?_
    have hmarked := hs.marked hrevoked
    rw [hlive] at hmarked
    cases hmarked
  · rw [← hs.absolute]
    exact habsolute
  · rw [hidle] at hidle'
    exact hidle'.trans_le (min_le_right _ _)

theorem dead_stays_rejected
    (hrun : (signedSessions M key).Leads (fun _ _ => True) x y)
    (hs : x.state.tables.sessions.find key = some s)
    (hdead : Dead x.state.now s) {token : Option PyStr} {v : VerifiedSession}
    {t : SessionTables ops} (htoken : M.validatedTokenHash token = some key) :
    M.verify token y.state.now y.state.tables ≠ .ok (some v, t) := by
  intro hverify
  obtain ⟨s', hs', -, hstays⟩ := session_leads hrun hs
  obtain ⟨digest, s'', hdigest, hfind, -, hlive, -, hfresh, -⟩ :=
    verify_spec hverify
  obtain rfl : key = digest := Option.some.inj (htoken.symm.trans hdigest)
  obtain rfl : s' = s'' := Option.some.inj (hs'.symm.trans hfind)
  rcases hstays hdead with hmarked | hexpired
  · rw [hlive] at hmarked
    cases hmarked
  · rw [hfresh] at hexpired
    cases hexpired

theorem users_revoke (M : SessionManager) (token : Option PyStr) (now : Timestamp)
    (t : SessionTables ops) : (M.revoke token now t).2.users = t.users := by
  unfold SessionManager.revoke
  split
  · rfl
  · split
    · rfl
    · split <;> rfl

/-- **Sessions.** Over every run: the absolute deadline of a session is fixed
and bounds the idle one; `verify` answers with the active user of a session that
no revocation has named, within both time limits; a session that was refused for
revocation or expiry stays refused; a refusal changes nothing; and revocations
mark the sessions they name. -/
theorem session_lifetime (M : SessionManager) (key : Bytes) :
    (∀ x : Recorded (Sessions ops) SessionLog,
      (signedSessions M key).Reachable x →
      ∀ s, x.state.tables.sessions.find key = some s →
        s.idleExpiresAt ≤ s.expiresAt ∧
        ∀ y, (signedSessions M key).Leads (fun _ _ => True) x y →
          ∃ s', y.state.tables.sessions.find key = some s' ∧
            s'.expiresAt = s.expiresAt) ∧
      (∀ x : Recorded (Sessions ops) SessionLog,
        (signedSessions M key).Reachable x →
        ∀ token v t, M.validatedTokenHash token = some key →
          M.verify token x.state.now x.state.tables = .ok (some v, t) →
          v.user.isActive = true ∧
          (∃ s, x.state.tables.sessions.find key = some s ∧
            x.state.tables.users.byId s.userId = some v.user) ∧
          x.history.revoked = false ∧
          (∃ created, x.history.issuedAt = some created ∧
            x.state.now < created + M.absoluteTtl) ∧
          ∃ last, x.history.lastUse = some last ∧
            x.state.now < last + M.idleTtl) ∧
      (∀ x y : Recorded (Sessions ops) SessionLog,
        (signedSessions M key).Reachable x →
        (signedSessions M key).Leads (fun _ _ => True) x y →
        ∀ s, x.state.tables.sessions.find key = some s →
          s.revokedAt.isSome = true ∨ s.expiresAt ≤ x.state.now ∨
            s.idleExpiresAt ≤ x.state.now →
          ∀ token v t, M.validatedTokenHash token = some key →
            M.verify token y.state.now y.state.tables ≠ .ok (some v, t)) ∧
      (∀ token now (t t' : SessionTables ops),
        M.verify token now t = .ok (none, t') → t' = t) ∧
      (∀ token now (t : SessionTables ops),
        (M.revoke token now t).2.users = t.users ∧
        (M.revoke token now t).2.sessions.find key =
          (t.sessions.find key).map fun s =>
            if M.validatedTokenHash token = some key ∧ s.revokedAt = none then
              { s with revokedAt := some now }
            else s) ∧
      ∀ userId now (t : SessionTables ops),
        (SessionManager.revokeAll userId now t).2.users = t.users ∧
        (SessionManager.revokeAll userId now t).2.sessions.find key =
          (t.sessions.find key).map fun s =>
            if s.userId = userId ∧ s.revokedAt = none then
              { s with revokedAt := some now }
            else s := by
  refine ⟨?_, ?_, ?_, ?_, ?_, ?_⟩
  · intro x hx s hs
    exact deadline_fixed hx hs
  · intro x hx token v t htoken hverify
    exact verified_in_time hx htoken hverify
  · intro x y hx hrun s hs hdead token v t htoken
    have hd : Dead x.state.now s := by
      simpa [Dead, SessionManager.expired] using hdead
    exact dead_stays_rejected hrun hs hd htoken
  · intro token now t t' hverify
    exact verify_rejected hverify
  · intro token now t
    exact ⟨users_revoke M token now t, find_revoke⟩
  · intro userId now t
    exact ⟨rfl, find_revokeAll⟩

/-- The default lifetimes, with SHA-256 on the token of 43 letters `x` and
HMAC-SHA256 on the address `192.0.2.1` and the empty user agent. -/
def defaultSessions : SessionManager where
  idleTtlSeconds := 60 * 60
  absoluteTtlSeconds := 12 * 60 * 60
  idle_pos := by decide
  absolute_pos := by decide
  idle_le := by decide
  tokenHash token := if token = List.replicate 43 (PyStr.ofChar 'x') then
      [204, 11, 28, 44, 102, 243, 187, 159, 209, 160, 129, 198, 38, 186, 27, 239,
        98, 246, 249, 100, 65, 164, 59, 225, 82, 104, 82, 55, 118, 172, 38, 161]
    else []
  metadataHash value := if value = [] then
      [174, 245, 50, 200, 35, 28, 150, 64, 6, 0, 42, 49, 244, 168, 108, 90, 209,
        242, 111, 133, 217, 77, 135, 9, 227, 66, 105, 45, 246, 246, 126, 237]
    else
      [152, 240, 28, 176, 191, 31, 230, 230, 248, 159, 124, 34, 168, 94, 202, 18,
        74, 209, 176, 30, 118, 133, 56, 244, 185, 221, 35, 173, 187, 71, 88, 162]
  canonicalIp := some

def sampleToken : PyStr := List.replicate 43 (PyStr.ofChar 'x')

def sampleDigest : Bytes := defaultSessions.tokenHash sampleToken

def employee : User :=
  ⟨1, PyStr.lit "ana@corp.example", none, PyStr.lit "Ana", none, .user, true,
    .google, 0, none⟩

def employees : UserTable asciiOps := ⟨[employee], by decide⟩

def issuedAndUsed : List (SessionAction asciiOps) :=
  [.issue 1 (PyStr.lit "192.0.2.1") none sampleToken, .tick 3000000000,
    .verify (some sampleToken), .tick 3000000000]

/-- A second use, past the first idle deadline and within the slid one. -/
theorem used_within_the_slid_deadline :
    ∃ (x : Recorded (Sessions asciiOps) SessionLog) (v : VerifiedSession),
      (signedSessions defaultSessions sampleDigest).Reachable x ∧
      x.state.now = 6000000000 ∧ v.user.isActive = true ∧
      ∃ last, x.history.lastUse = some last ∧
        x.state.now < last + defaultSessions.idleTtl := by
  obtain ⟨x, hrun, hnow, hverify⟩ : ∃ x,
      (signedSessions defaultSessions sampleDigest).run
        ⟨⟨⟨employees, .empty⟩, 0⟩, ⟨none, none, false⟩⟩ issuedAndUsed = some x ∧
      (x.state.now = 6000000000 ∧
        (match defaultSessions.verify (some sampleToken) x.state.now
            x.state.tables with
          | .ok (v, _) => v.isSome
          | .error _ => false) = true) :=
    System.exists_of_runUnder (by decide +kernel)
  have hinit : (signedSessions defaultSessions sampleDigest :
      System (Recorded (Sessions asciiOps) SessionLog)
        (SessionAction asciiOps)).init
      ⟨⟨⟨employees, .empty⟩, 0⟩, ⟨none, none, false⟩⟩ := ⟨rfl, rfl⟩
  have hreach := System.reachable_of_runUnder hinit hrun
  split at hverify
  · rename_i v t hok
    obtain ⟨v', rfl⟩ := Option.isSome_iff_exists.mp hverify
    obtain ⟨hactive, -, -, -, hlast⟩ :=
      (session_lifetime defaultSessions sampleDigest).2.1 x hreach
        (some sampleToken) v' t (by decide) hok
    exact ⟨x, v', hreach, hnow, hactive, hlast⟩
  · cases hverify

end Lifetime

end LeakcheckHub.Auth
