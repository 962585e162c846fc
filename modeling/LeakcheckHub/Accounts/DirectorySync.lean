import LeakcheckHub.Accounts.Users
import LeakcheckHub.Foundation.Outcome
import Mathlib.Data.List.Dedup
import Mathlib.Logic.Function.Basic

/-!
# Directory synchronisation

`sync_workspace_users` of `app/google_workspace.py`: one upsert for each
directory user, in the order of the snapshot, then one update of the
sync-owned accounts that the snapshot does not list.

§1 the function · §2 one upsert · §3 when the upserts succeed ·
§4 what they leave · §5 accounts the directory does not own.
-/

namespace LeakcheckHub.Accounts

open Foundation

/-! ## §1  The function -/

structure WorkspaceUser where
  externalId : PyStr
  email : PyStr
  displayName : PyStr
  ouPath : PyStr
  suspended : Bool
deriving DecidableEq, Repr

structure SyncResult where
  seen : ℕ
  deactivated : ℕ
deriving DecidableEq, Repr

/-- The column values of one `INSERT`. -/
structure StoredEntry where
  email : PyStr
  googleSub : PyStr
  displayName : PyStr
  ouPath : PyStr
  isActive : Bool
deriving DecidableEq, Repr

/-- A snapshot. With each entry comes the `uuid4` its row gets if the upsert
inserts one. -/
abbrev Snapshot : Type := List (WorkspaceUser × Uuid)

section Sync

variable (ops : TextOps)

def storedEntry (x : WorkspaceUser) : Option StoredEntry := do
  let email ← (ops.casefold x.email).storeText
  let googleSub ← x.externalId.storeVarchar 255
  let displayName ← x.displayName.storeVarchar 255
  let ouPath ← x.ouPath.storeVarchar 1024
  some ⟨email, googleSub, displayName, ouPath, !x.suspended⟩

/-- `ON CONFLICT … DO UPDATE SET`. -/
def overwrite (v : StoredEntry) (r : User) : User :=
  { r with
    displayName := v.displayName
    ouPath := some v.ouPath
    isActive := v.isActive
    googleSub := some v.googleSub }

def insertedRow (v : StoredEntry) (newId : Uuid) (now : Timestamp) : User :=
  ⟨newId, v.email, some v.googleSub, v.displayName, some v.ouPath, .user,
    v.isActive, .workspaceSync, now, none⟩

def overwriteAt (v : StoredEntry) (r : User) : User :=
  if ops.citext r.email = ops.citext v.email then overwrite v r else r

def upsert (now : Timestamp) (t : UserTable ops) (entry : WorkspaceUser × Uuid) :
    Except DbError (UserTable ops) :=
  match storedEntry ops entry.1 with
  | none => .error .badText
  | some v =>
      if (t.byEmail (ops.citext v.email)).isSome then
        UserTable.ofRows ops (t.rows.map (overwriteAt ops v))
      else UserTable.ofRows ops (t.rows ++ [insertedRow v entry.2 now])

/-- The set `active_emails`. -/
def activeEmails (users : Snapshot) : List PyStr :=
  (users.map fun x => ops.casefold x.1.email).dedup

/-- The last statement binds the source, the new value and every active
email. -/
def departedParameters (users : Snapshot) : ℕ :=
  (activeEmails ops users).length + 2

/-- The `WHERE` of the last statement. -/
def departed (users : Snapshot) (r : User) : Bool :=
  r.source == .workspaceSync && r.isActive &&
    (activeEmails ops users).all fun e =>
      decide (ops.citext r.email ≠ ops.citext e)

def deactivate (users : Snapshot) (r : User) : User :=
  if departed ops users r then { r with isActive := false } else r

def syncWorkspaceUsers (now : Timestamp) (users : Snapshot)
    (t : UserTable ops) : Except DbError (UserTable ops × SyncResult) := do
  let t ← users.foldlM (upsert ops now) t
  if bindLimit < departedParameters ops users then throw .tooManyParameters
  let t' ← UserTable.ofRows ops (t.rows.map (deactivate ops users))
  pure (t', ⟨users.length, t.rows.countP (departed ops users)⟩)

/-- The transaction of the request: it commits, or leaves no trace. -/
def syncWorkspace (now : Timestamp) (users : Snapshot) (t : UserTable ops) :
    UserTable ops :=
  match syncWorkspaceUsers ops now users t with
  | .ok (t', _) => t'
  | .error _ => t

/-- The key under which an entry finds its row. -/
def entryKey (x : WorkspaceUser) : PyStr := ops.citext (ops.casefold x.email)

/-- The last entry of the snapshot for an email. -/
def lastEntry (k : PyStr) : Snapshot → Option WorkspaceUser
  | [] => none
  | (x, _) :: users =>
      match lastEntry k users with
      | some y => some y
      | none => if entryKey ops x = k then some x else none

end Sync

variable {ops : TextOps} {now : Timestamp} {t t' : UserTable ops}
  {users : Snapshot} {x : WorkspaceUser} {newId : Uuid} {v : StoredEntry}
  {k : PyStr}

/-! ## §2  One upsert -/

/-- An entry is stored column by column. -/
theorem storedEntry_spec (h : storedEntry ops x = some v) :
    (ops.casefold x.email).storeText = some v.email ∧
      x.externalId.storeVarchar 255 = some v.googleSub ∧
      v.isActive = !x.suspended := by
  obtain ⟨email, hemail, h⟩ := Option.bind_eq_some_iff.mp h
  obtain ⟨sub, hsub, h⟩ := Option.bind_eq_some_iff.mp h
  obtain ⟨name, -, h⟩ := Option.bind_eq_some_iff.mp h
  obtain ⟨ou, -, h⟩ := Option.bind_eq_some_iff.mp h
  cases h
  exact ⟨hemail, hsub, rfl⟩

theorem storedEntry_email (h : storedEntry ops x = some v) :
    ops.citext v.email = entryKey ops x := by
  rw [entryKey, PyStr.storeText_eq (storedEntry_spec h).1]

theorem storedEntry_isActive (h : storedEntry ops x = some v) :
    v.isActive = !x.suspended := (storedEntry_spec h).2.2

@[simp] theorem overwriteAt_id (r : User) :
    (overwriteAt ops v r).id = r.id := by
  unfold overwriteAt
  split <;> rfl

@[simp] theorem overwriteAt_email (r : User) :
    (overwriteAt ops v r).email = r.email := by
  unfold overwriteAt
  split <;> rfl

theorem overwriteAt_of_ne {r : User}
    (h : ops.citext r.email ≠ ops.citext v.email) :
    overwriteAt ops v r = r := if_neg h

theorem overwriteAt_sub_of_eq {r : User}
    (h : ops.citext r.email = ops.citext v.email) :
    (overwriteAt ops v r).googleSub = some v.googleSub := by
  rw [overwriteAt, if_pos h]
  rfl

/-- Overwriting keeps the constraints when no other email holds the external
id. -/
theorem uniqueRows_overwrite
    (hfree : ∀ k, k ≠ ops.citext v.email → t.subAt k ≠ some v.googleSub) :
    UniqueRows ops (t.rows.map (overwriteAt ops v)) := by
  have hother : ∀ r ∈ t.rows, ops.citext r.email ≠ ops.citext v.email →
      r.googleSub ≠ some v.googleSub := by
    intro r hr hne hsub
    exact hfree _ hne (UserTable.subAt_eq_some.mpr ⟨r, hr, rfl, hsub⟩)
  refine t.unique.map_of_subs overwriteAt_id overwriteAt_email ?_
  intro o ho o' ho' hs
  -- two rows can only meet where both, or neither, are rewritten
  by_cases hk : ops.citext o.email = ops.citext v.email
  · by_cases hk' : ops.citext o'.email = ops.citext v.email
    · exact .inr (t.unique.emails o ho o' ho' (hk.trans hk'.symm))
    · rw [overwriteAt_sub_of_eq hk, overwriteAt_of_ne hk'] at hs
      exact absurd hs.symm (hother o' ho' hk')
  · rw [overwriteAt_of_ne hk] at hs ⊢
    by_cases hk' : ops.citext o'.email = ops.citext v.email
    · rw [overwriteAt_sub_of_eq hk'] at hs
      exact absurd hs (hother o ho hk)
    · rw [overwriteAt_of_ne hk'] at hs
      exact t.unique.subs o ho o' ho' hs

theorem uniqueRows_insert (hid : newId ∉ t.rows.map User.id)
    (hemail : t.byEmail (ops.citext v.email) = none)
    (hfree : ∀ k, k ≠ ops.citext v.email → t.subAt k ≠ some v.googleSub) :
    UniqueRows ops (t.rows ++ [insertedRow v newId now]) := by
  have hkey : ∀ r ∈ t.rows, ops.citext r.email ≠ ops.citext v.email := by
    intro r hr hk
    have hsome := UserTable.byEmail_eq_some.mpr ⟨hr, hk⟩
    rw [hemail] at hsome
    cases hsome
  have hsub : ∀ r ∈ t.rows, r.googleSub ≠ some v.googleSub := by
    intro r hr hs
    exact hfree _ (hkey r hr) (UserTable.subAt_eq_some.mpr ⟨r, hr, rfl, hs⟩)
  constructor
  · rw [List.map_append, List.nodup_append]
    refine ⟨t.unique.ids, List.nodup_singleton _, ?_⟩
    rintro i hi j hj rfl
    rw [List.map_singleton, List.mem_singleton] at hj
    subst hj
    exact hid hi
  · intro r hr r' hr' hk
    rw [List.mem_append, List.mem_singleton] at hr hr'
    rcases hr with hr | rfl <;> rcases hr' with hr' | rfl
    · exact t.unique.emails r hr r' hr' hk
    · exact absurd hk (hkey r hr)
    · exact absurd hk.symm (hkey r' hr')
    · rfl
  · intro r hr r' hr' hs
    rw [List.mem_append, List.mem_singleton] at hr hr'
    rcases hr with hr | rfl <;> rcases hr' with hr' | rfl
    · exact t.unique.subs r hr r' hr' hs
    · exact absurd hs (hsub r hr)
    · exact absurd hs.symm (hsub r' hr')
    · exact .inr rfl

theorem upsert_stored (h : upsert ops now t (x, newId) = .ok t') :
    ∃ v, storedEntry ops x = some v := by
  unfold upsert at h
  cases hv : storedEntry ops x with
  | none =>
      simp only [hv] at h
      cases h
  | some v => exact ⟨v, rfl⟩

/-- The rows an upsert leaves. -/
theorem mem_upsert (hv : storedEntry ops x = some v)
    (h : upsert ops now t (x, newId) = .ok t') {r' : User} :
    r' ∈ t'.rows ↔ (∃ r ∈ t.rows, overwriteAt ops v r = r') ∨
      (t.byEmail (entryKey ops x) = none ∧ r' = insertedRow v newId now) := by
  simp only [upsert, hv, storedEntry_email hv] at h
  split at h
  · rename_i hsome
    rw [UserTable.ofRows_eq_ok.mp h, List.mem_map]
    constructor
    · exact .inl
    · rintro (hr | ⟨hnone, -⟩)
      · exact hr
      · rw [hnone] at hsome
        cases hsome
  · rename_i hnone
    rw [Option.not_isSome_iff_eq_none] at hnone
    have hkeep : ∀ r ∈ t.rows, overwriteAt ops v r = r := by
      intro r hr
      refine overwriteAt_of_ne fun hk => ?_
      rw [storedEntry_email hv] at hk
      rw [UserTable.byEmail_eq_some.mpr ⟨hr, hk⟩] at hnone
      cases hnone
    rw [UserTable.ofRows_eq_ok.mp h, List.mem_append, List.mem_singleton]
    constructor
    · rintro (hr | rfl)
      · exact .inl ⟨r', hr, hkeep r' hr⟩
      · exact .inr ⟨hnone, rfl⟩
    · rintro (⟨r, hr, rfl⟩ | ⟨-, rfl⟩)
      · rw [hkeep r hr]
        exact .inl hr
      · exact .inr rfl

/-- An upsert gives the row of its email the external id of its entry. -/
theorem subAt_upsert (hv : storedEntry ops x = some v)
    (h : upsert ops now t (x, newId) = .ok t') :
    t'.subAt =
      Function.update t.subAt (entryKey ops x) (some v.googleSub) := by
  funext k
  have hkey := storedEntry_email hv
  by_cases hk : k = entryKey ops x
  · subst hk
    rw [Function.update_self, UserTable.subAt_eq_some]
    cases hb : t.byEmail (entryKey ops x) with
    | none =>
        exact ⟨_, (mem_upsert hv h).mpr (.inr ⟨hb, rfl⟩), hkey, rfl⟩
    | some r =>
        obtain ⟨hr, hrk⟩ := UserTable.byEmail_spec hb
        refine ⟨_, (mem_upsert hv h).mpr (.inl ⟨r, hr, rfl⟩), ?_, ?_⟩
        · rw [overwriteAt_email]
          exact hrk
        · exact overwriteAt_sub_of_eq (hrk.trans hkey.symm)
  · rw [Function.update_of_ne hk]
    refine Option.ext fun sub => ?_
    rw [UserTable.subAt_eq_some, UserTable.subAt_eq_some]
    constructor
    · rintro ⟨r', hr', hrk, hs⟩
      rcases (mem_upsert hv h).mp hr' with ⟨r, hr, rfl⟩ | ⟨-, rfl⟩
      · rw [overwriteAt_email] at hrk
        rw [overwriteAt_of_ne (by rw [hrk, hkey]; exact hk)] at hs
        exact ⟨r, hr, hrk, hs⟩
      · exact absurd (hrk.symm.trans hkey) hk
    · rintro ⟨r, hr, hrk, hs⟩
      refine ⟨r, (mem_upsert hv h).mpr (.inl ⟨r, hr, ?_⟩), hrk, hs⟩
      exact overwriteAt_of_ne (by rw [hrk, hkey]; exact hk)

/-- `uq_users_google_sub`: no other email may hold the external id. -/
theorem upsert_free (hv : storedEntry ops x = some v)
    (h : upsert ops now t (x, newId) = .ok t') {k : PyStr}
    (hk : k ≠ entryKey ops x) : t.subAt k ≠ some v.googleSub := by
  intro hs
  have hself : t'.subAt (entryKey ops x) = some v.googleSub := by
    rw [subAt_upsert hv h, Function.update_self]
  have hother : t'.subAt k = some v.googleSub := by
    rw [subAt_upsert hv h, Function.update_of_ne hk, hs]
  obtain ⟨r, hr, hrk, hrs⟩ := UserTable.subAt_eq_some.mp hself
  obtain ⟨r', hr', hrk', hrs'⟩ := UserTable.subAt_eq_some.mp hother
  have heq := UserTable.eq_of_sub hr hr' hrs hrs'
  subst heq
  exact hk (hrk'.symm.trans hrk)

theorem upsert_ok (now : Timestamp) (hv : storedEntry ops x = some v)
    (hid : newId ∉ t.rows.map User.id)
    (hfree : ∀ k, k ≠ entryKey ops x → t.subAt k ≠ some v.googleSub) :
    ∃ t', upsert ops now t (x, newId) = .ok t' := by
  rw [← storedEntry_email hv] at hfree
  simp only [upsert, hv]
  split
  · exact ⟨_, UserTable.ofRows_ok (uniqueRows_overwrite hfree)⟩
  · rename_i hnone
    rw [Option.not_isSome_iff_eq_none] at hnone
    exact ⟨_, UserTable.ofRows_ok (uniqueRows_insert hid hnone hfree)⟩

/-! ## §3  When the upserts succeed -/

/-- The `uuid4` draws of a run collide neither with each other nor with the
table. -/
structure FreshDraws (t : UserTable ops) (users : Snapshot) : Prop where
  nodup : (users.map Prod.snd).Nodup
  fresh : ∀ x ∈ users, x.2 ∉ t.rows.map User.id

theorem FreshDraws.tail (hf : FreshDraws t ((x, newId) :: users))
    (h : upsert ops now t (x, newId) = .ok t') : FreshDraws t' users := by
  obtain ⟨v, hv⟩ := upsert_stored h
  have hnodup := hf.nodup
  rw [List.map_cons, List.nodup_cons] at hnodup
  refine ⟨hnodup.2, ?_⟩
  intro y hy hmem
  obtain ⟨r', hr', hid⟩ := List.mem_map.mp hmem
  rcases (mem_upsert hv h).mp hr' with ⟨r, hr, rfl⟩ | ⟨-, rfl⟩
  · refine hf.fresh y (List.mem_cons_of_mem _ hy) ?_
    rw [← hid, overwriteAt_id]
    exact List.mem_map_of_mem hr
  · exact hnodup.1 (List.mem_map.mpr ⟨y, hy, hid.symm⟩)

/-- Every entry can be stored, and at its turn no other email holds its
external id. -/
def Admissible (ops : TextOps) : (PyStr → Option PyStr) → Snapshot → Prop
  | _, [] => True
  | subs, (x, _) :: users =>
      ∃ v, storedEntry ops x = some v ∧
        (∀ k, k ≠ entryKey ops x → subs k ≠ some v.googleSub) ∧
        Admissible ops
          (Function.update subs (entryKey ops x) (some v.googleSub)) users

theorem admissible_of_upserts (h : users.foldlM (upsert ops now) t = .ok t') :
    Admissible ops t.subAt users := by
  induction users generalizing t with
  | nil => trivial
  | cons entry users ih =>
      obtain ⟨x, newId⟩ := entry
      obtain ⟨t₁, h₁, hrest⟩ := foldlM_cons_eq_ok.mp h
      obtain ⟨v, hv⟩ := upsert_stored h₁
      refine ⟨v, hv, fun k hk => upsert_free hv h₁ hk, ?_⟩
      rw [← subAt_upsert hv h₁]
      exact ih hrest

theorem upserts_of_admissible (now : Timestamp) (hf : FreshDraws t users)
    (h : Admissible ops t.subAt users) :
    ∃ t', users.foldlM (upsert ops now) t = .ok t' := by
  induction users generalizing t with
  | nil => exact ⟨t, rfl⟩
  | cons entry users ih =>
      obtain ⟨x, newId⟩ := entry
      obtain ⟨v, hv, hfree, hrest⟩ := h
      have hid : newId ∉ t.rows.map User.id := hf.fresh _ List.mem_cons_self
      obtain ⟨t₁, h₁⟩ := upsert_ok now hv hid hfree
      rw [← subAt_upsert hv h₁] at hrest
      obtain ⟨t', h⟩ := ih (hf.tail h₁) hrest
      exact ⟨t', foldlM_cons_eq_ok.mpr ⟨t₁, h₁, h⟩⟩

/-! ## §4  What they leave -/

theorem lastEntry_isSome :
    (lastEntry ops k users).isSome ↔ ∃ x ∈ users, entryKey ops x.1 = k := by
  induction users with
  | nil =>
      constructor
      · intro h
        cases h
      · rintro ⟨x, hx, -⟩
        cases hx
  | cons entry users ih =>
      obtain ⟨x, newId⟩ := entry
      cases hl : lastEntry ops k users with
      | some y =>
          rw [hl] at ih
          obtain ⟨z, hz, hk⟩ := ih.mp rfl
          simp only [lastEntry, hl, Option.isSome_some, true_iff]
          exact ⟨z, List.mem_cons_of_mem _ hz, hk⟩
      | none =>
          rw [hl] at ih
          simp only [lastEntry, hl]
          constructor
          · intro h
            split at h
            · exact ⟨_, List.mem_cons_self, ‹_›⟩
            · cases h
          · rintro ⟨z, hz, hk⟩
            rcases List.mem_cons.mp hz with rfl | hz
            · rw [if_pos hk]
              rfl
            · exact absurd (ih.mpr ⟨z, hz, hk⟩) Bool.false_ne_true

theorem lastEntry_eq_none :
    lastEntry ops k users = none ↔ ∀ x ∈ users, entryKey ops x.1 ≠ k := by
  have hsome : (lastEntry ops k users).isSome ↔ _ := lastEntry_isSome
  rw [← Option.not_isSome_iff_eq_none, hsome]
  constructor
  · rintro hno x hx hk
    exact hno ⟨x, hx, hk⟩
  · rintro hall ⟨x, hx, hk⟩
    exact hall x hx hk

/-- The last entry is one for the email. -/
theorem lastEntry_mem (h : lastEntry ops k users = some x) :
    x ∈ users.map Prod.fst ∧ entryKey ops x = k := by
  induction users with
  | nil => cases h
  | cons entry users ih =>
      obtain ⟨y, newId⟩ := entry
      cases hl : lastEntry ops k users with
      | some z =>
          rw [lastEntry, hl] at h
          cases h
          obtain ⟨hz, hkey⟩ := ih hl
          exact ⟨List.mem_cons_of_mem _ hz, hkey⟩
      | none =>
          rw [lastEntry, hl] at h
          dsimp only at h
          split at h
          · rename_i hkey
            cases h
            exact ⟨List.mem_cons_self, hkey⟩
          · cases h

theorem lastEntry_cons_of_ne (hk : entryKey ops x ≠ k) :
    lastEntry ops k ((x, newId) :: users) = lastEntry ops k users := by
  rw [lastEntry]
  cases lastEntry ops k users with
  | some y => rfl
  | none => exact if_neg hk

theorem lastEntry_cons_of_some {y : WorkspaceUser}
    (h : lastEntry ops k users = some y) :
    lastEntry ops k ((x, newId) :: users) = some y := by
  rw [lastEntry, h]

theorem lastEntry_cons_of_none (h : lastEntry ops k users = none)
    (hk : entryKey ops x = k) :
    lastEntry ops k ((x, newId) :: users) = some x := by
  rw [lastEntry, h]
  exact if_pos hk

theorem lastEntry_cons_eq_none
    (h : lastEntry ops k ((x, newId) :: users) = none) :
    entryKey ops x ≠ k ∧ lastEntry ops k users = none := by
  rw [lastEntry_eq_none] at h ⊢
  exact ⟨h _ List.mem_cons_self, fun y hy => h y (List.mem_cons_of_mem _ hy)⟩

/-- The same account: what a sync never writes. -/
structure SameAccount (r r' : User) : Prop where
  id : r'.id = r.id
  email : r'.email = r.email
  role : r'.role = r.role
  source : r'.source = r.source

theorem SameAccount.refl (r : User) : SameAccount r r := ⟨rfl, rfl, rfl, rfl⟩

theorem SameAccount.trans {r r' r'' : User} (h : SameAccount r r')
    (h' : SameAccount r' r'') : SameAccount r r'' :=
  ⟨h'.id.trans h.id, h'.email.trans h.email, h'.role.trans h.role,
    h'.source.trans h.source⟩

theorem sameAccount_overwriteAt (r : User) :
    SameAccount r (overwriteAt ops v r) := by
  unfold overwriteAt
  split <;> exact ⟨rfl, rfl, rfl, rfl⟩

theorem sameAccount_deactivate (r : User) :
    SameAccount r (deactivate ops users r) := by
  unfold deactivate
  split <;> exact ⟨rfl, rfl, rfl, rfl⟩

theorem deactivate_googleSub (r : User) :
    (deactivate ops users r).googleSub = r.googleSub := by
  unfold deactivate
  split <;> rfl

/-- The upserts leave an account the state of the last entry for its email. -/
theorem upserts_row (h : users.foldlM (upsert ops now) t = .ok t') {r : User}
    (hr : r ∈ t.rows) :
    ∃ r' ∈ t'.rows, SameAccount r r' ∧
      r'.isActive = match lastEntry ops (ops.citext r.email) users with
        | some x => !x.suspended
        | none => r.isActive := by
  induction users generalizing t r with
  | nil =>
      rw [foldlM_nil_eq_ok] at h
      subst h
      exact ⟨r, hr, .refl r, rfl⟩
  | cons entry users ih =>
      obtain ⟨x, newId⟩ := entry
      obtain ⟨t₁, h₁, hrest⟩ := foldlM_cons_eq_ok.mp h
      obtain ⟨v, hv⟩ := upsert_stored h₁
      obtain ⟨r', hr', hsame, hactive⟩ :=
        ih hrest ((mem_upsert hv h₁).mpr (.inl ⟨r, hr, rfl⟩))
      refine ⟨r', hr', (sameAccount_overwriteAt r).trans hsame, ?_⟩
      rw [overwriteAt_email] at hactive
      rw [hactive, lastEntry]
      cases lastEntry ops (ops.citext r.email) users with
      | some y => rfl
      | none =>
          by_cases hk : ops.citext r.email = entryKey ops x
          · rw [overwriteAt, if_pos (hk.trans (storedEntry_email hv).symm),
              if_pos hk.symm]
            exact storedEntry_isActive hv
          · rw [overwriteAt_of_ne (by rw [storedEntry_email hv]; exact hk),
              if_neg (Ne.symm hk)]

theorem syncWorkspaceUsers_eq_ok {result : SyncResult} :
    syncWorkspaceUsers ops now users t = .ok (t', result) ↔
      ∃ t₁, users.foldlM (upsert ops now) t = .ok t₁ ∧
        departedParameters ops users ≤ bindLimit ∧
        t'.rows = t₁.rows.map (deactivate ops users) ∧
        result = ⟨users.length, t₁.rows.countP (departed ops users)⟩ := by
  unfold syncWorkspaceUsers
  rw [bind_eq_ok]
  refine exists_congr fun t₁ => and_congr_right fun _ => ?_
  by_cases hlim : bindLimit < departedParameters ops users
  · rw [if_pos hlim]
    constructor
    · intro h
      cases h
    · rintro ⟨hle, -⟩
      exact absurd hlim (Nat.not_lt.mpr hle)
  · rw [if_neg hlim, bind_eq_ok]
    constructor
    · rintro ⟨t₂, h₂, h⟩
      cases h
      exact ⟨Nat.not_lt.mp hlim, UserTable.ofRows_eq_ok.mp h₂, rfl⟩
    · rintro ⟨-, hrows, rfl⟩
      exact ⟨t', UserTable.ofRows_eq_ok.mpr hrows, rfl⟩

/-- The whole sync goes through when its upserts do and the last statement
does not bind too much. -/
theorem sync_ok_iff (now : Timestamp) (hf : FreshDraws t users) :
    (∃ t' result, syncWorkspaceUsers ops now users t = .ok (t', result)) ↔
      Admissible ops t.subAt users ∧
        departedParameters ops users ≤ bindLimit := by
  constructor
  · rintro ⟨t', result, h⟩
    obtain ⟨t₁, h₁, hlim, -⟩ := syncWorkspaceUsers_eq_ok.mp h
    exact ⟨admissible_of_upserts h₁, hlim⟩
  · rintro ⟨hadm, hlim⟩
    obtain ⟨t₁, h₁⟩ := upserts_of_admissible now hf hadm
    have hunique : UniqueRows ops (t₁.rows.map (deactivate ops users)) :=
      t₁.unique.map (fun r => (sameAccount_deactivate r).id)
        (fun r => (sameAccount_deactivate r).email) deactivate_googleSub
    exact ⟨⟨_, hunique⟩, _,
      syncWorkspaceUsers_eq_ok.mpr ⟨t₁, h₁, hlim, rfl, rfl⟩⟩

/-- `is_active` of an account after a sync. -/
def syncedActive (ops : TextOps) (users : Snapshot) (r : User) : Bool :=
  match lastEntry ops (ops.citext r.email) users with
  | some x => !x.suspended
  | none => r.isActive && r.source != .workspaceSync

/-- The departed accounts are those without an entry. -/
theorem departed_eq (r : User) :
    departed ops users r = (r.source == .workspaceSync && r.isActive &&
      (lastEntry ops (ops.citext r.email) users).isNone) := by
  have hlisted : (∀ e ∈ activeEmails ops users,
      ops.citext r.email ≠ ops.citext e) ↔
      ¬ (lastEntry ops (ops.citext r.email) users).isSome := by
    rw [lastEntry_isSome]
    constructor
    · rintro hall ⟨x, hx, hk⟩
      refine hall (ops.casefold x.1.email) ?_ hk.symm
      exact List.mem_dedup.mpr (List.mem_map.mpr ⟨x, hx, rfl⟩)
    · rintro hno e he hk
      obtain ⟨x, hx, rfl⟩ := List.mem_map.mp (List.mem_dedup.mp he)
      exact hno ⟨x, hx, hk.symm⟩
  unfold departed
  congr 1
  rw [Bool.eq_iff_iff, List.all_eq_true]
  simp only [decide_eq_true_eq, hlisted, Option.not_isSome_iff_eq_none,
    Option.isNone_iff_eq_none]

/-- A sync never deletes an account, and this is how it leaves it. -/
theorem sync_row {result : SyncResult}
    (h : syncWorkspaceUsers ops now users t = .ok (t', result)) {r : User}
    (hr : r ∈ t.rows) :
    ∃ r' ∈ t'.rows, SameAccount r r' ∧
      r'.isActive = syncedActive ops users r := by
  obtain ⟨t₁, h₁, -, hrows, -⟩ := syncWorkspaceUsers_eq_ok.mp h
  obtain ⟨r₁, hr₁, hsame, hactive⟩ := upserts_row h₁ hr
  refine ⟨deactivate ops users r₁, hrows ▸ List.mem_map_of_mem hr₁,
    hsame.trans (sameAccount_deactivate r₁), ?_⟩
  rw [syncedActive, ← hsame.email, ← hsame.source]
  rw [← hsame.email] at hactive
  cases hl : lastEntry ops (ops.citext r₁.email) users with
  | some x =>
      rw [hl] at hactive
      rw [deactivate, departed_eq, hl, Option.isNone_some, Bool.and_false]
      exact hactive
  | none =>
      have hactive : r₁.isActive = r.isActive := by
        rw [hactive, hl]
      rw [deactivate, departed_eq, hl, Option.isNone_none, Bool.and_true,
        ← hactive]
      cases hs : r₁.source <;> cases ha : r₁.isActive <;> simp [ha]

/-! ## §5  Accounts the directory does not own -/

/-- **Ownership.** A sync that goes through keeps `is_active` of every account
of another source exactly when the directory lists none of them with another
state. -/
theorem foreign_accounts_kept_iff (hf : FreshDraws t users) :
    (∀ r ∈ t.rows, r.source ≠ .workspaceSync →
      ∃ r' ∈ (syncWorkspace ops now users t).rows,
        r'.id = r.id ∧ r'.isActive = r.isActive) ↔
      ¬ (Admissible ops t.subAt users ∧
        departedParameters ops users ≤ bindLimit) ∨
      ∀ r ∈ t.rows, r.source ≠ .workspaceSync →
        ∀ x, lastEntry ops (ops.citext r.email) users = some x →
          r.isActive = !x.suspended := by
  rw [← sync_ok_iff now hf]
  unfold syncWorkspace
  cases h : syncWorkspaceUsers ops now users t with
  | error e =>
      constructor
      · rintro -
        refine .inl ?_
        rintro ⟨t', result, hok⟩
        cases hok
      · rintro - r hr -
        exact ⟨r, hr, rfl, rfl⟩
  | ok out =>
      obtain ⟨t', result⟩ := out
      have hsynced : ∀ r ∈ t.rows, r.source ≠ .workspaceSync →
          ((∃ r' ∈ t'.rows, r'.id = r.id ∧ r'.isActive = r.isActive) ↔
            ∀ x, lastEntry ops (ops.citext r.email) users = some x →
              r.isActive = !x.suspended) := by
        intro r hr hsource
        obtain ⟨r', hr', hsame, hactive⟩ := sync_row h hr
        -- identifiers are unique, so the account found is the synced one
        have huniq : (∃ r' ∈ t'.rows, r'.id = r.id ∧
            r'.isActive = r.isActive) ↔
            r.isActive = syncedActive ops users r := by
          constructor
          · rintro ⟨o, ho, hid, ha⟩
            rw [UserTable.eq_of_id ho hr' (hid.trans hsame.id.symm)] at ha
            exact ha.symm.trans hactive
          · intro ha
            exact ⟨r', hr', hsame.id, hactive.trans ha.symm⟩
        rw [huniq, syncedActive]
        cases hl : lastEntry ops (ops.citext r.email) users with
        | some x => simp only [Option.some.injEq, forall_eq']
        | none => simp [hsource]
      constructor
      · intro hkept
        refine .inr fun r hr hsource => ?_
        exact (hsynced r hr hsource).mp (hkept r hr hsource)
      · rintro (hno | hagree) r hr hsource
        · exact absurd ⟨t', result, rfl⟩ hno
        · exact (hsynced r hr hsource).mpr (hagree r hr hsource)

/-- A super-admin entered by hand, and the directory user of that email. -/
def portalAdmin : User :=
  ⟨1, PyStr.lit "a@x", none, PyStr.lit "A", none, .superAdmin, true, .manual,
    0, none⟩

def directoryAdmin (suspended : Bool) : Snapshot :=
  [(⟨PyStr.lit "g1", PyStr.lit "a@x", PyStr.lit "A", PyStr.lit "/",
    suspended⟩, 2)]

def portalAdmins : UserTable asciiOps := ⟨[portalAdmin], by decide⟩

theorem active_listing_keeps_admin :
    FreshDraws portalAdmins (directoryAdmin false) ∧
      ∀ r ∈ portalAdmins.rows, r.source ≠ .workspaceSync →
        ∃ r' ∈ (syncWorkspace asciiOps 0 (directoryAdmin false)
          portalAdmins).rows, r'.id = r.id ∧ r'.isActive = r.isActive := by
  have hf : FreshDraws portalAdmins (directoryAdmin false) :=
    ⟨by decide, by decide⟩
  refine ⟨hf, (foreign_accounts_kept_iff hf).mpr (.inr ?_)⟩
  intro r hr _ x hx
  obtain rfl : r = portalAdmin := List.mem_singleton.mp hr
  have hlast : lastEntry asciiOps (asciiOps.citext portalAdmin.email)
      (directoryAdmin false) = some ⟨PyStr.lit "g1", PyStr.lit "a@x",
        PyStr.lit "A", PyStr.lit "/", false⟩ := by decide
  rw [hlast, Option.some.injEq] at hx
  rw [← hx]
  rfl

/-- A suspended directory user disables the super-admin of that email. -/
theorem sync_disables_super_admin :
    ∃ r ∈ portalAdmins.rows, r.source ≠ .workspaceSync ∧
      r.role = .superAdmin ∧ r.isActive = true ∧
      ∃ r' ∈ (syncWorkspace asciiOps 0 (directoryAdmin true)
        portalAdmins).rows, r'.id = r.id ∧ r'.isActive = false := by
  decide

end LeakcheckHub.Accounts
