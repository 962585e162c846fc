import LeakcheckHub.Accounts.Requests
import LeakcheckHub.Foundation.System

/-!
# Offboarding

The accounts under any sequence of requests, and how long an account that a
super-admin deactivated stays so.
-/

namespace LeakcheckHub.Accounts

open Foundation

inductive Request (ops : TextOps) where
  | updateUser (actor userId : Uuid) (payload : UserUpdate)
  | syncWorkspace (actor : Uuid) (users : Snapshot) (now : Timestamp)
  | createUser (actor : Uuid) (payload : UserCreate) (newId : Uuid)
      (now : Timestamp)
  | provisionGoogleUser (identity : GoogleIdentity ops) (newId : Uuid)
      (now : Timestamp)

variable {ops : TextOps}

def Request.handle (t : UserTable ops) :
    Request ops → Except RequestError (UserTable ops)
  | .updateUser actor userId payload => Accounts.updateUser actor userId payload t
  | .syncWorkspace actor users now => syncRequest actor users now t
  | .createUser actor payload newId now =>
      Accounts.createUser actor payload newId now t
  | .provisionGoogleUser identity newId now =>
      Accounts.provisionGoogleUser identity newId now t

/-- One request after another; a failed one leaves the table as it was. -/
def accounts (ops : TextOps) : System (UserTable ops) (Request ops) where
  init _ := True
  step t request :=
    match request.handle t with
    | .ok t' => some t'
    | .error _ => some t

/-- An `update_user` that goes through and activates `u`. -/
def Reactivates (u : Uuid) (t : UserTable ops) : Request ops → Prop
  | .updateUser actor userId payload =>
      userId = u ∧ payload.isActive = some true ∧
        ∃ t', updateUser actor userId payload t = .ok t'
  | _ => False

/-- A sync that goes through while the directory lists the email of `u`, last
as not suspended. -/
def ListsAsActive (u : Uuid) (t : UserTable ops) : Request ops → Prop
  | .syncWorkspace actor users _ =>
      (∃ admin, requireSuperAdmin (t.byId actor) = .ok admin) ∧
        Admissible ops t.subAt users ∧
        departedParameters ops users ≤ bindLimit ∧
        ∃ r ∈ t.rows, r.id = u ∧ ∃ x,
          lastEntry ops (ops.citext r.email) users = some x ∧
            x.suspended = false
  | _ => False

def Deactivated (u : Uuid) (t : UserTable ops) : Prop :=
  ∃ r ∈ t.rows, r.id = u ∧ r.isActive = false

variable {u actor : Uuid} {payload : UserUpdate} {t t' s₀ s₁ s : UserTable ops}
  {request : Request ops}

theorem Deactivated.update {userId : Uuid} (hd : Deactivated u t)
    (h : updateUser actor userId payload t = .ok t')
    (hkeep : userId = u → payload.isActive ≠ some true) :
    Deactivated u t' := by
  obtain ⟨r, hr, rfl, hactive⟩ := hd
  obtain ⟨r', hr', hid, hactive'⟩ := updateUser_row h hr
  refine ⟨r', hr', hid, ?_⟩
  rw [hactive', hactive]
  split
  · rename_i heq
    cases hp : payload.isActive with
    | none => rfl
    | some active =>
        cases active with
        | false => rfl
        | true => exact absurd hp (hkeep heq.symm)
  · rfl

theorem Deactivated.sync {users : Snapshot} {now : Timestamp}
    (hd : Deactivated u t) (h : syncRequest actor users now t = .ok t')
    (hkeep : ∀ r ∈ t.rows, r.id = u →
      ∀ x, lastEntry ops (ops.citext r.email) users = some x →
        x.suspended = true) : Deactivated u t' := by
  obtain ⟨r, hr, rfl, hactive⟩ := hd
  obtain ⟨result, hsync⟩ := syncRequest_spec h
  obtain ⟨r', hr', hsame, hactive'⟩ := sync_row hsync hr
  refine ⟨r', hr', hsame.id, ?_⟩
  rw [hactive', syncedActive]
  cases hl : lastEntry ops (ops.citext r.email) users with
  | none =>
      change (r.isActive && _) = false
      rw [hactive, Bool.false_and]
  | some x =>
      change (!x.suspended) = false
      rw [hkeep r hr rfl x hl, Bool.not_true]

/-- The directory is the only other way back. -/
theorem deactivated_step (hd : Deactivated u t)
    (hguard : ¬ Reactivates u t request ∧ ¬ ListsAsActive u t request)
    (hstep : (accounts ops).step t request = some t') : Deactivated u t' := by
  simp only [accounts] at hstep
  split at hstep
  · rename_i t₁ hok
    cases hstep
    cases request with
    | updateUser actor userId payload =>
        refine hd.update hok fun huser hactive => ?_
        exact hguard.1 ⟨huser, hactive, t', hok⟩
    | syncWorkspace actor users now =>
        refine hd.sync hok fun r hr hid x hx => ?_
        by_contra hactive
        rw [Bool.not_eq_true] at hactive
        obtain ⟨admin, hadmin, -⟩ := bind_eq_ok.mp hok
        obtain ⟨result, hsync⟩ := syncRequest_spec hok
        obtain ⟨t₁, h₁, hlim, -⟩ := syncWorkspaceUsers_eq_ok.mp hsync
        exact hguard.2 ⟨⟨admin, hadmin⟩, admissible_of_upserts h₁, hlim,
          r, hr, hid, x, hx, hactive⟩
    | createUser actor payload newId now =>
        obtain ⟨r, hr, hid, hactive⟩ := hd
        exact ⟨r, createUser_row hok hr, hid, hactive⟩
    | provisionGoogleUser identity newId now =>
        obtain ⟨r, hr, rfl, hactive⟩ := hd
        obtain ⟨r', hr', hid, hactive'⟩ := provisionGoogleUser_row hok hr
        exact ⟨r', hr', hid, hactive'.trans hactive⟩
  · cases hstep
    exact hd

/-- **Offboarding.** An account that `update_user` deactivated stays inactive
until `update_user` activates it, in every run without a sync that goes
through while the directory lists the account's email as not suspended. -/
theorem deactivated_until_reactivated
    (hdeactivate : updateUser actor u payload s₀ = .ok s₁)
    (hpayload : payload.isActive = some false)
    (hrun : (accounts ops).Leads (fun t request =>
      ¬ Reactivates u t request ∧ ¬ ListsAsActive u t request) s₁ s) :
    Deactivated u s := by
  refine hrun.invariant (fun t request t' hd hg hstep =>
    deactivated_step hd hg hstep) ?_
  obtain ⟨-, user, -, -, huser, -⟩ := updateUser_spec hdeactivate
  obtain ⟨hmem, hid⟩ := UserTable.byId_eq_some.mp huser
  obtain ⟨r', hr', hid', hactive⟩ := updateUser_row hdeactivate hmem
  rw [if_pos hid, hpayload] at hactive
  exact ⟨r', hr', hid'.trans hid, hactive⟩

def officeRow (id : Uuid) (email sub : String) (role : UserRole)
    (isActive : Bool) : User :=
  ⟨id, PyStr.lit email, some (PyStr.lit sub), PyStr.lit "N",
    some (PyStr.lit "/"), role, isActive, .workspaceSync, 0, none⟩

def office : UserTable asciiOps :=
  ⟨[officeRow 1 "a@x" "g1" .superAdmin true,
    officeRow 2 "b@x" "g2" .user true], by decide⟩

def dismissal : UserUpdate := ⟨none, none, some false, unnamed_valid⟩

def officeAfterDismissal : UserTable asciiOps :=
  ⟨[officeRow 1 "a@x" "g1" .superAdmin true,
    officeRow 2 "b@x" "g2" .user false], by decide⟩

/-- What the directory says after the dismissal. -/
def officeDirectory (suspended : Bool) : Snapshot :=
  [(⟨PyStr.lit "g1", PyStr.lit "a@x", PyStr.lit "N", PyStr.lit "/", false⟩, 3),
    (⟨PyStr.lit "g2", PyStr.lit "b@x", PyStr.lit "N", PyStr.lit "/",
      suspended⟩, 4)]

theorem suspended_entry_keeps_dismissed :
    ∃ s, (accounts asciiOps).step officeAfterDismissal
        (.syncWorkspace 1 (officeDirectory true) 0) = some s ∧
      Deactivated 2 s := by
  obtain ⟨s, hs⟩ : ∃ s, (accounts asciiOps).step officeAfterDismissal
      (.syncWorkspace 1 (officeDirectory true) 0) = some s :=
    Option.isSome_iff_exists.mp (by decide)
  have hdismissed :
      updateUser 1 2 dismissal office = .ok officeAfterDismissal := rfl
  refine ⟨s, hs, deactivated_until_reactivated hdismissed rfl
    ((System.Leads.refl _).tail ⟨id, ?_⟩ hs)⟩
  rintro ⟨-, -, -, hlisted⟩
  have hnone : ¬ ∃ r ∈ officeAfterDismissal.rows, r.id = 2 ∧
      (lastEntry asciiOps (asciiOps.citext r.email)
        (officeDirectory true)).any (fun x => !x.suspended) = true := by
    decide
  obtain ⟨r, hr, hid, x, hx, hactive⟩ := hlisted
  refine hnone ⟨r, hr, hid, ?_⟩
  rw [hx, Option.any_some, hactive]
  rfl

/-- The dismissed account is back after the next sync. -/
theorem sync_reactivates_dismissed :
    updateUser 1 2 dismissal office = .ok officeAfterDismissal ∧
      Deactivated 2 officeAfterDismissal ∧
      ∃ s, (accounts asciiOps).step officeAfterDismissal
          (.syncWorkspace 1 (officeDirectory false) 0) = some s ∧
        ∃ r ∈ s.rows, r.id = 2 ∧ r.isActive = true := by
  refine ⟨rfl, ⟨officeRow 2 "b@x" "g2" .user false, by decide⟩, ?_⟩
  have hrun : ((accounts asciiOps).step officeAfterDismissal
      (.syncWorkspace 1 (officeDirectory false) 0)).any (fun s =>
        decide (∃ r ∈ s.rows, r.id = 2 ∧ r.isActive = true)) = true := by
    decide
  obtain ⟨s, hs, hback⟩ := (Option.any_eq_true _ _).mp hrun
  exact ⟨s, hs, of_decide_eq_true hback⟩

end LeakcheckHub.Accounts
