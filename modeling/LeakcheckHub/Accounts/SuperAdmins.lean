import LeakcheckHub.Accounts.Requests
import LeakcheckHub.Foundation.RowVersions
import LeakcheckHub.Foundation.System

/-!
# The last super-admin

`update_user` requests in transactions of their own, interleaved statement by
statement. `verify` locks the row of the acting super-admin for the whole
transaction, and nobody may remove their own access: whoever commits is still
a super-admin, whatever the count of the others was worth.

§1 requests and steps · §2 what a request holds · §3 the law.
-/

set_option linter.unusedSectionVars false

namespace LeakcheckHub.Accounts

open Foundation

/-! ## §1  Requests and steps -/

inductive UpdateStage where
  | idle
  | verified (actor : Uuid)
  | targeted (actor userId : Uuid) (payload : UserUpdate)
  | counted (actor userId : Uuid) (payload : UserUpdate)
  | flushed (actor : Uuid)
  | refused (e : RequestError)

inductive UpdateAction (Session : Type) where
  | verify (t : Session) (actor : Uuid)
  | lockTarget (t : Session) (userId : Uuid) (payload : UserUpdate)
  | countOthers (t : Session)
  | flush (t : Session)
  | commit (t : Session)
  | abort (t : Session)

structure UpdateState (Session : Type) where
  users : Table Uuid Session User
  stage : Session → UpdateStage

section Step

variable {Session : Type} [DecidableEq Session]

/-- `t` leaves the table as `users` and goes on at `x`. -/
def UpdateState.next (s : UpdateState Session) (t : Session)
    (users : Table Uuid Session User) (x : UpdateStage) :
    UpdateState Session where
  users := users
  stage := fun u => if u = t then x else s.stage u

def updateStep (s : UpdateState Session) :
    UpdateAction Session → Option (UpdateState Session)
  | .verify t actor =>
      match s.stage t with
      | .idle =>
          match s.users.read t actor with
          | none =>
              some (s.next t s.users
                (.refused (.http 401 "Authentication required.")))
          | some user =>
              if (s.users.cell actor).heldByOther t then none
              else some (s.next t (s.users.put t actor (some user))
                (match requireSuperAdmin (some user) with
                  | .ok _ => .verified actor
                  | .error e => .refused e))
      | _ => none
  | .lockTarget t userId payload =>
      match s.stage t with
      | .verified actor =>
          match s.users.read t userId with
          | none =>
              some (s.next t s.users (.refused (.http 404 "No such user.")))
          | some user =>
              if (s.users.cell userId).heldByOther t then none
              else some (s.next t (s.users.put t userId (some user))
                (if userId = actor ∧ payload.removesAccess then
                  .refused ownAccess
                else .targeted actor userId payload))
      | _ => none
  | .countOthers t =>
      match s.stage t with
      | .targeted actor userId payload =>
          match s.users.read t userId with
          | none => none
          | some user =>
              some (s.next t s.users
                (if user.role = .superAdmin ∧ payload.removesAccess ∧
                    remainingSuperAdmins ((s.users.rows t).map Prod.snd)
                      userId = 0 then
                  .refused lastSuperAdmin
                else .counted actor userId payload))
      | _ => none
  | .flush t =>
      match s.stage t with
      | .counted actor userId payload =>
          match s.users.read t userId with
          | none => none
          | some user =>
              match payload.apply user with
              | .error e => some (s.next t s.users (.refused e))
              | .ok user' =>
                  some (s.next t (s.users.put t userId (some user'))
                    (.flushed actor))
      | _ => none
  | .commit t =>
      match s.stage t with
      | .flushed _ => some (s.next t (s.users.commit t) .idle)
      | _ => none
  | .abort t => some (s.next t (s.users.rollback t) .idle)

def IsSuperAdmin (r : User) : Prop :=
  r.isActive = true ∧ r.role = .superAdmin

instance (r : User) : Decidable (IsSuperAdmin r) :=
  inferInstanceAs (Decidable (_ ∧ _))

/-- An active super-admin in the committed state. -/
def HasSuperAdmin (s : UpdateState Session) : Prop :=
  ∃ i r, s.users.committedRow i = some r ∧ IsSuperAdmin r

/-- Committed users under their own ids, an active super-admin among them, and
no transaction open. -/
structure Administrable (s : UpdateState Session) : Prop where
  idle : ∀ t, s.stage t = .idle
  unlocked : s.users.Unlocked
  keyed : ∀ i r, s.users.committedRow i = some r → r.id = i
  administered : HasSuperAdmin s

def updates (Session : Type) [DecidableEq Session] :
    System (UpdateState Session) (UpdateAction Session) where
  init := Administrable
  step := updateStep

end Step

/-- The super-admin a request acts for. -/
def UpdateStage.actor : UpdateStage → Option Uuid
  | .verified actor | .targeted actor _ _ | .counted actor _ _
  | .flushed actor => some actor
  | .idle | .refused _ => none

/-- The account a request is about to change, and how. -/
def UpdateStage.change : UpdateStage → Option (Uuid × UserUpdate)
  | .targeted _ userId payload | .counted _ userId payload =>
      some (userId, payload)
  | _ => none

variable {Session : Type} [DecidableEq Session]
  {s s' : UpdateState Session} {a : UpdateAction Session} {t u : Session}
  {users users' : Table Uuid Session User} {x : UpdateStage}
  {actor userId : Uuid} {payload : UserUpdate} {user user' : User}

/-! ## §2  What a request holds -/

/-- A request holds its actor's row, there as an active super-admin, holds its
target's row, and does not take its actor's access away. -/
structure Secure (users : Table Uuid Session User) (t : Session)
    (x : UpdateStage) : Prop where
  actor : ∀ i, x.actor = some i → ∃ r,
    (users.cell i).pending = some (t, some r) ∧ IsSuperAdmin r
  target : ∀ i payload, x.change = some (i, payload) →
    ∃ r, (users.cell i).pending = some (t, r)
  own : ∀ i payload, x.change = some (i, payload) → x.actor = some i →
    payload.removesAccess = false

theorem secure_of_inert (hactor : x.actor = none) (hchange : x.change = none) :
    Secure users t x := by
  constructor
  · intro i h
    rw [hactor] at h
    cases h
  · intro i payload h
    rw [hchange] at h
    cases h
  · intro i payload h
    rw [hchange] at h
    cases h

/-- The other requests keep what they hold. -/
theorem Secure.frame (h : Secure users u x)
    (hlocks : ∀ i r, (users.cell i).pending = some (u, r) →
      (users'.cell i).pending = some (u, r)) : Secure users' u x where
  actor := by
    intro i hi
    obtain ⟨r, hp, hr⟩ := h.actor i hi
    exact ⟨r, hlocks i _ hp, hr⟩
  target := by
    intro i payload hc
    obtain ⟨r, hp⟩ := h.target i payload hc
    exact ⟨r, hlocks i _ hp⟩
  own := h.own

theorem Secure.verify (hr : IsSuperAdmin user) :
    Secure (users.put t actor (some user)) t (.verified actor) where
  actor := by
    rintro i ⟨⟩
    exact ⟨user, by rw [Table.put_cell_self]; rfl, hr⟩
  target := fun _ _ h => nomatch h
  own := fun _ _ h => nomatch h

/-- Locking the target again after the actor changes nothing if they are the
same row. -/
theorem Secure.lockTarget (h : Secure users t (.verified actor))
    (hread : users.read t userId = some user)
    (hown : ¬ (userId = actor ∧ payload.removesAccess = true)) :
    Secure (users.put t userId (some user)) t
      (.targeted actor userId payload) where
  actor := by
    rintro i ⟨⟩
    obtain ⟨r, hp, hr⟩ := h.actor actor rfl
    by_cases hi : actor = userId
    · subst hi
      rw [Table.read, Cell.read_of_pending hp, Option.some.injEq] at hread
      subst hread
      exact ⟨r, by rw [Table.put_cell_self]; rfl, hr⟩
    · rw [Table.put_cell_ne hi]
      exact ⟨r, hp, hr⟩
  target := by
    rintro i p ⟨⟩
    exact ⟨_, by rw [Table.put_cell_self]; rfl⟩
  own := by
    rintro i p ⟨⟩ ⟨⟩
    rw [← Bool.not_eq_true]
    exact fun hremoves => hown ⟨rfl, hremoves⟩

theorem Secure.count (h : Secure users t (.targeted actor userId payload)) :
    Secure users t (.counted actor userId payload) :=
  ⟨h.actor, h.target, h.own⟩

/-- Changes other than a removal keep a super-admin. -/
theorem isSuperAdmin_apply (hr : IsSuperAdmin user)
    (happly : payload.apply user = .ok user')
    (hkeep : payload.removesAccess = false) : IsSuperAdmin user' := by
  obtain ⟨-, hrole, hactive⟩ := apply_spec happly
  rw [UserUpdate.removesAccess, Bool.or_eq_false_iff] at hkeep
  obtain ⟨hdemoted, hdeactivated⟩ := hkeep
  constructor
  · rw [hactive]
    cases hp : payload.isActive with
    | none => exact hr.1
    | some active =>
        rw [UserUpdate.deactivated, hp] at hdeactivated
        cases active with
        | true => rfl
        | false => cases hdeactivated
  · rw [hrole]
    cases hp : payload.role with
    | none => exact hr.2
    | some role =>
        rw [UserUpdate.demoted, hp] at hdemoted
        cases role with
        | superAdmin => rfl
        | _ => cases hdemoted

theorem Secure.flush (h : Secure users t (.counted actor userId payload))
    (hread : users.read t userId = some user)
    (happly : payload.apply user = .ok user') :
    Secure (users.put t userId (some user')) t (.flushed actor) where
  actor := by
    rintro i ⟨⟩
    obtain ⟨r, hp, hr⟩ := h.actor actor rfl
    by_cases hi : actor = userId
    · subst hi
      rw [Table.read, Cell.read_of_pending hp, Option.some.injEq] at hread
      subst hread
      refine ⟨user', by rw [Table.put_cell_self]; rfl, ?_⟩
      exact isSuperAdmin_apply hr happly (h.own actor payload rfl rfl)
    · rw [Table.put_cell_ne hi]
      exact ⟨r, hp, hr⟩
  target := fun _ _ h => nomatch h
  own := fun _ _ h => nomatch h

/-! ## §3  The law -/

def AllSecure (s : UpdateState Session) : Prop :=
  ∀ t, Secure s.users t (s.stage t)

/-- One request moves; the rest hold what they held. -/
theorem AllSecure.next (h : AllSecure s) (ht : Secure users t x)
    (hlocks : ∀ u, u ≠ t → ∀ i r,
      (s.users.cell i).pending = some (u, r) →
        (users.cell i).pending = some (u, r)) :
    AllSecure (s.next t users x) := by
  intro u
  by_cases hu : u = t
  · subst hu
    have hx : (s.next u users x).stage u = x := if_pos rfl
    rw [hx]
    exact ht
  · have hx : (s.next t users x).stage u = s.stage u := if_neg hu
    rw [hx]
    exact (h u).frame (hlocks u hu)

/-- A statement keeps the committed state; a commit keeps an administrator. -/
structure Kept (s : UpdateState Session) : Prop where
  secure : AllSecure s
  administered : HasSuperAdmin s

theorem Kept.stay (h : Kept s) (ht : Secure s.users t x) :
    Kept (s.next t s.users x) :=
  ⟨h.secure.next ht fun _ _ _ _ hp => hp, h.administered⟩

theorem Kept.put (h : Kept s) {i : Uuid} {r : Option User}
    (hfree : (s.users.cell i).heldByOther t = false)
    (ht : Secure (s.users.put t i r) t x) :
    Kept (s.next t (s.users.put t i r) x) where
  secure := h.secure.next ht fun _ hu _ _ hp =>
    (Table.put_pending_other hu hfree).mpr hp
  administered := by
    obtain ⟨j, o, ho, hadmin⟩ := h.administered
    exact ⟨j, o, Table.put_committedRow.trans ho, hadmin⟩

/-- Whoever commits is an active super-admin afterwards. -/
theorem Kept.commit (h : Kept s) (ht : s.stage t = .flushed actor) :
    Kept (s.next t (s.users.commit t) .idle) where
  secure := h.secure.next (secure_of_inert rfl rfl) fun _ hu _ _ hp =>
    (Cell.commit_pending_other hu).mpr hp
  administered := by
    obtain ⟨r, hp, hr⟩ := (h.secure t).actor actor (by rw [ht]; rfl)
    refine ⟨actor, r, ?_, hr⟩
    change (s.users.commit t).committedRow actor = some r
    rw [Table.commit_committedRow, Table.read, Cell.read_of_pending hp]

theorem Kept.abort (h : Kept s) :
    Kept (s.next t (s.users.rollback t) .idle) where
  secure := h.secure.next (secure_of_inert rfl rfl) fun _ hu _ _ hp =>
    (Cell.rollback_pending_other hu).mpr hp
  administered := by
    obtain ⟨j, o, ho, hadmin⟩ := h.administered
    exact ⟨j, o, Table.rollback_committedRow.trans ho, hadmin⟩

theorem kept_step (h : Kept s) (hstep : updateStep s a = some s') :
    Kept s' := by
  cases a with
  | verify t actor =>
      cases ht : s.stage t with
      | idle =>
          cases hread : s.users.read t actor with
          | none =>
              simp only [updateStep, ht, hread, Option.some.injEq] at hstep
              exact hstep ▸ h.stay (secure_of_inert rfl rfl)
          | some user =>
              simp only [updateStep, ht, hread] at hstep
              split at hstep
              · cases hstep
              · rename_i hfree
                rw [Option.some.injEq] at hstep
                refine hstep ▸ h.put (by simpa using hfree) ?_
                cases hcheck : requireSuperAdmin (some user) with
                | error e => exact secure_of_inert rfl rfl
                | ok admin =>
                    obtain ⟨heq, hactive, hrole⟩ := requireSuperAdmin_spec hcheck
                    cases heq
                    exact .verify ⟨hactive, hrole⟩
      | _ => simp [updateStep, ht] at hstep
  | lockTarget t userId payload =>
      cases ht : s.stage t with
      | verified actor =>
          have hsecure := h.secure t
          rw [ht] at hsecure
          cases hread : s.users.read t userId with
          | none =>
              simp only [updateStep, ht, hread, Option.some.injEq] at hstep
              exact hstep ▸ h.stay (secure_of_inert rfl rfl)
          | some user =>
              simp only [updateStep, ht, hread] at hstep
              split at hstep
              · cases hstep
              · rename_i hfree
                rw [Option.some.injEq] at hstep
                refine hstep ▸ h.put (by simpa using hfree) ?_
                split
                · exact secure_of_inert rfl rfl
                · rename_i hown
                  exact hsecure.lockTarget hread hown
      | _ => simp [updateStep, ht] at hstep
  | countOthers t =>
      cases ht : s.stage t with
      | targeted actor userId payload =>
          have hsecure := h.secure t
          rw [ht] at hsecure
          cases hread : s.users.read t userId with
          | none => simp [updateStep, ht, hread] at hstep
          | some user =>
              simp only [updateStep, ht, hread, Option.some.injEq] at hstep
              refine hstep ▸ h.stay ?_
              split
              · exact secure_of_inert rfl rfl
              · exact hsecure.count
      | _ => simp [updateStep, ht] at hstep
  | flush t =>
      cases ht : s.stage t with
      | counted actor userId payload =>
          have hsecure := h.secure t
          rw [ht] at hsecure
          cases hread : s.users.read t userId with
          | none => simp [updateStep, ht, hread] at hstep
          | some user =>
              cases happly : payload.apply user with
              | error e =>
                  simp only [updateStep, ht, hread, happly,
                    Option.some.injEq] at hstep
                  exact hstep ▸ h.stay (secure_of_inert rfl rfl)
              | ok user' =>
                  simp only [updateStep, ht, hread, happly,
                    Option.some.injEq] at hstep
                  -- The target has been locked since `lockTarget`.
                  obtain ⟨r, hp⟩ := hsecure.target userId payload rfl
                  have hfree :
                      (s.users.cell userId).heldByOther t = false :=
                    Cell.heldByOther_of_pending hp
                  exact hstep ▸ h.put hfree (hsecure.flush hread happly)
      | _ => simp [updateStep, ht] at hstep
  | commit t =>
      cases ht : s.stage t with
      | flushed actor =>
          simp only [updateStep, ht, Option.some.injEq] at hstep
          exact hstep ▸ h.commit ht
      | _ => simp [updateStep, ht] at hstep
  | abort t =>
      simp only [updateStep, Option.some.injEq] at hstep
      exact hstep ▸ h.abort

theorem kept_reachable (h : (updates Session).Reachable s) : Kept s := by
  refine h.invariant (fun s hinit => ?_)
    fun s a s' hs _ hstep => kept_step hs hstep
  refine ⟨fun t => ?_, hinit.administered⟩
  rw [hinit.idle t]
  exact secure_of_inert rfl rfl

/-- **The last super-admin.** However update requests interleave, every
committed state has an active super-admin if the first one did. -/
theorem super_admin_remains (h : (updates Session).Reachable s) :
    HasSuperAdmin s :=
  (kept_reachable h).administered

def administrator (id : Uuid) (email : String) : User :=
  ⟨id, PyStr.lit email, none, PyStr.lit "N", none, .superAdmin, true, .manual,
    0, none⟩

def twoAdministrators : UpdateState (Fin 2) where
  users := (Table.empty.insertCommitted 1
    (administrator 1 "a@x")).insertCommitted 2 (administrator 2 "b@x")
  stage := fun _ => .idle

theorem twoAdministrators_administrable : Administrable twoAdministrators where
  idle := fun _ => rfl
  unlocked := Table.unlocked_empty.insertCommitted.insertCommitted
  keyed := by
    intro i r hr
    have hi := Table.mem_committedRows.mpr hr
    revert i r
    have hrows : ∀ x ∈ twoAdministrators.users.committedRows,
        x.2.id = x.1 := by decide
    exact fun i r _ hmem => hrows (i, r) hmem
  administered := ⟨1, administrator 1 "a@x", rfl, by decide⟩

def demotion : UserUpdate := ⟨none, some .analyst, none, unnamed_valid⟩

/-- Both demote each other: each waits for the other's row, one is aborted,
and comes back without the role. -/
def mutualDemotion : List (UpdateAction (Fin 2)) :=
  [.verify 0 1, .verify 1 2, .abort 1, .lockTarget 0 2 demotion,
    .countOthers 0, .flush 0, .commit 0, .verify 1 2]

theorem mutual_demotion_keeps_one :
    ∃ s, (updates (Fin 2)).run twoAdministrators mutualDemotion = some s ∧
      HasSuperAdmin s := by
  have hrun : ∃ s, (updates (Fin 2)).run twoAdministrators mutualDemotion =
      some s ∧ True := System.exists_of_runUnder (by decide)
  obtain ⟨s, hrun, -⟩ := hrun
  exact ⟨s, hrun, super_admin_remains
    (System.reachable_of_runUnder twoAdministrators_administrable hrun)⟩

end LeakcheckHub.Accounts
