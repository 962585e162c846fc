import LeakcheckHub.Accounts.DirectorySync

/-!
# Requests that write accounts

`update_user` and `create_user` of `app/routers/admin.py` and
`provision_google_user` of `app/auth/google.py`, each as the transaction it
runs: a raised exception rolls it back.

§1 what requests carry · §2 the handlers · §3 their effect on the rows.
-/

set_option linter.unusedSectionVars false

namespace LeakcheckHub.Accounts

open Foundation

/-! ## §1  What requests carry -/

inductive RequestError where
  | http (status : ℕ) (detail : String)
  | localAuthentication
  | googleOidc
  | database (e : DbError)
deriving DecidableEq, Repr

/-- A string field with `min_length` and `max_length`; pydantic also rejects
lone surrogates. -/
def boundedText (lo hi : ℕ) (s : PyStr) : Bool :=
  decide (lo ≤ s.length) && decide (s.length ≤ hi) &&
    s.all fun c => !PyStr.isSurrogate c

/-- A validated `UserUpdate`. -/
structure UserUpdate where
  displayName : Option PyStr
  role : Option UserRole
  isActive : Option Bool
  valid : displayName.all (boundedText 1 255) = true

theorem unnamed_valid : (none : Option PyStr).all (boundedText 1 255) = true :=
  rfl

/-- A validated `UserCreate`. -/
structure UserCreate where
  email : PyStr
  displayName : PyStr
  role : UserRole
  valid : (boundedText 3 255 email && boundedText 1 255 displayName) = true

/-- `_valid_email`. -/
def validEmail (ops : TextOps) (s : PyStr) : Bool :=
  decide (3 ≤ s.length) && decide (s.length ≤ 320) &&
    s.count (PyStr.ofChar '@') == 1 &&
    s.all fun c => !PyStr.isSpace c && ops.isPrintable c

/-- The identity of a verified ID token. -/
structure GoogleIdentity (ops : TextOps) where
  subject : PyStr
  email : PyStr
  displayName : PyStr
  hostedDomain : PyStr
  subject_bound : subject ≠ [] ∧ subject.length ≤ 255
  email_verified : ∃ claim, validEmail ops claim = true ∧
    email = ops.casefold claim
  displayName_bound : displayName.length ≤ 255

/-! ## §2  The handlers -/

section Handlers

variable {ops : TextOps}

def maxEmailLength : ℕ := 255

def maxDisplayNameLength : ℕ := 255

def isAlnum (c : CodePoint) : Bool :=
  (48 ≤ c.val && c.val ≤ 57) || (65 ≤ c.val && c.val ≤ 90) ||
    (97 ≤ c.val && c.val ≤ 122)

def hyphen : CodePoint := PyStr.ofChar '-'

def isLocalChar (c : CodePoint) : Bool :=
  isAlnum c || (PyStr.lit ".!#$%&'*+/=?^_\x60\x7b|\x7d~-").contains c

/-- `[A-Za-z0-9](?:[A-Za-z0-9-]{0,61}[A-Za-z0-9])?`. -/
def isDomainLabel (s : PyStr) : Bool :=
  s.head?.any isAlnum && s.getLast?.any isAlnum && decide (s.length ≤ 63) &&
    s.all fun c => isAlnum c || c == hyphen

/-- A full match of `_EMAIL_PATTERN`. -/
def matchesEmailPattern (s : PyStr) : Bool :=
  match s.splitOn (PyStr.ofChar '@') with
  | [name, domain] =>
      let labels := domain.splitOn (PyStr.ofChar '.')
      !name.isEmpty && name.all isLocalChar && decide (2 ≤ labels.length) &&
        labels.all isDomainLabel
  | _ => false

def normaliseAdminEmail (ops : TextOps) (email : PyStr) :
    Except RequestError PyStr :=
  let normalised := ops.lower email.strip
  if !normalised.isAscii || maxEmailLength < normalised.length ||
      !matchesEmailPattern normalised then
    .error .localAuthentication
  else .ok normalised

def normaliseDisplayName (displayName : PyStr) : Except RequestError PyStr :=
  let normalised := displayName.strip
  if normalised.isEmpty || maxDisplayNameLength < normalised.length then
    .error .localAuthentication
  else .ok normalised

/-- `verify` and `require_role(SUPER_ADMIN)` on the user of a live session. -/
def requireSuperAdmin : Option User → Except RequestError User
  | none => .error (.http 401 "Authentication required.")
  | some user =>
      if !user.isActive then .error (.http 401 "Authentication required.")
      else if user.role = .superAdmin then .ok user
      else .error (.http 403 "Insufficient role.")

/-- A text parameter of a statement. -/
def bindParam (param : Option PyStr) : Except RequestError PyStr :=
  match param with
  | none => .error (.database .badText)
  | some s => .ok s

namespace UserUpdate

def demoted (payload : UserUpdate) : Bool :=
  payload.role.any fun role => role != .superAdmin

def deactivated (payload : UserUpdate) : Bool := payload.isActive == some false

def removesAccess (payload : UserUpdate) : Bool :=
  payload.demoted || payload.deactivated

/-- The assignments of the handler and their flush. -/
def apply (payload : UserUpdate) (user : User) : Except RequestError User := do
  let displayName ←
    payload.displayName.elim (pure user.displayName) normaliseDisplayName
  let displayName ← bindParam (displayName.storeVarchar 255)
  pure { user with
    displayName := displayName
    role := payload.role.getD user.role
    isActive := payload.isActive.getD user.isActive }

end UserUpdate

/-- `_remaining_super_admins`. -/
def remainingSuperAdmins (rows : List User) (excluding : Uuid) : ℕ :=
  rows.countP fun r =>
    r.role == .superAdmin && r.isActive && r.id != excluding

def ownAccess : RequestError :=
  .http 409 "You cannot remove your own super-admin access. Ask another super-admin."

def lastSuperAdmin : RequestError :=
  .http 409
    "This is the last active super-admin. Grant the role to someone else first."

/-- Rewrites the row of an id. -/
def UserTable.write (t : UserTable ops) (user : User) :
    Except RequestError (UserTable ops) :=
  (UserTable.ofRows ops
    (t.rows.map fun r => if r.id = user.id then user else r)).mapError
    .database

def UserTable.insert (t : UserTable ops) (user : User) :
    Except RequestError (UserTable ops) :=
  (UserTable.ofRows ops (t.rows ++ [user])).mapError .database

def updateUser (actor userId : Uuid) (payload : UserUpdate)
    (t : UserTable ops) : Except RequestError (UserTable ops) := do
  let currentUser ← requireSuperAdmin (t.byId actor)
  match t.byId userId with
  | none => .error (.http 404 "No such user.")
  | some user =>
      if user.id = currentUser.id ∧ payload.removesAccess then
        .error ownAccess
      else if user.role = .superAdmin ∧ payload.removesAccess ∧
          remainingSuperAdmins t.rows user.id = 0 then
        .error lastSuperAdmin
      else t.write (← payload.apply user)

def createUser (actor : Uuid) (payload : UserCreate) (newId : Uuid)
    (now : Timestamp) (t : UserTable ops) :
    Except RequestError (UserTable ops) := do
  let _ ← requireSuperAdmin (t.byId actor)
  let email ← normaliseAdminEmail ops payload.email
  let name ← normaliseDisplayName payload.displayName
  match t.byEmail (ops.citext email) with
  | some _ => .error (.http 409 "A user with this email already exists.")
  | none =>
      let name ← bindParam (name.storeVarchar 255)
      t.insert ⟨newId, email, none, name, none, payload.role, true, .manual,
        now, none⟩

def provisionGoogleUser (identity : GoogleIdentity ops) (newId : Uuid)
    (now : Timestamp) (t : UserTable ops) :
    Except RequestError (UserTable ops) := do
  let subject ← bindParam (identity.subject.storeVarchar 255)
  let email ← bindParam identity.email.storeText
  match t.bySub subject, t.byEmail (ops.citext email) with
  | some user, emailUser =>
      if emailUser.any fun other => other.id != user.id then
        .error .googleOidc
      else
        let displayName ← bindParam (identity.displayName.storeVarchar 255)
        t.write { user with
          email := email
          displayName := displayName }
  | none, some emailUser =>
      if emailUser.googleSub.any fun sub => sub != subject then
        .error .googleOidc
      else
        let displayName ← bindParam (identity.displayName.storeVarchar 255)
        t.write { emailUser with
          googleSub := some subject
          displayName := displayName }
  | none, none =>
      let displayName ← bindParam (identity.displayName.storeVarchar 255)
      t.insert ⟨newId, email, some subject, displayName, none, .user, true,
        .google, now, none⟩

/-- `sync_workspace`, past the directory client. -/
def syncRequest (actor : Uuid) (users : Snapshot) (now : Timestamp)
    (t : UserTable ops) : Except RequestError (UserTable ops) := do
  let _ ← requireSuperAdmin (t.byId actor)
  let (t', _) ← (syncWorkspaceUsers ops now users t).mapError .database
  pure t'

end Handlers

variable {ops : TextOps} {now : Timestamp} {t t' : UserTable ops}
  {actor userId newId : Uuid} {user r : User} {payload : UserUpdate}

/-! ## §3  Their effect on the rows -/

theorem bindParam_eq_ok {param : Option PyStr} {s : PyStr} :
    bindParam param = .ok s ↔ param = some s := by
  cases param with
  | none => simp [bindParam]
  | some value => simp [bindParam]

theorem write_rows (h : t.write user = .ok t') :
    t'.rows = t.rows.map fun r => if r.id = user.id then user else r :=
  UserTable.ofRows_eq_ok.mp (mapError_eq_ok.mp h)

theorem insert_rows (h : t.insert user = .ok t') :
    t'.rows = t.rows ++ [user] :=
  UserTable.ofRows_eq_ok.mp (mapError_eq_ok.mp h)

theorem write_row (h : t.write user = .ok t') (hr : r ∈ t.rows) :
    ∃ r' ∈ t'.rows, r'.id = r.id ∧
      r'.isActive = if r.id = user.id then user.isActive else r.isActive := by
  refine ⟨if r.id = user.id then user else r, ?_, ?_, ?_⟩
  · rw [write_rows h]
    exact List.mem_map_of_mem hr
  · split
    · rename_i heq
      exact heq.symm
    · rfl
  · split <;> rfl

/-- A rewrite that keeps the state of its account keeps every state. -/
theorem write_keeps {o : User} (h : t.write user = .ok t') (ho : o ∈ t.rows)
    (hid : user.id = o.id) (hactive : user.isActive = o.isActive)
    (hr : r ∈ t.rows) :
    ∃ r' ∈ t'.rows, r'.id = r.id ∧ r'.isActive = r.isActive := by
  obtain ⟨r', hr', hid', hactive'⟩ := write_row h hr
  refine ⟨r', hr', hid', hactive'.trans ?_⟩
  split
  · rename_i heq
    rw [hactive, UserTable.eq_of_id ho hr (hid.symm.trans heq.symm)]
  · rfl

theorem apply_spec {user' : User} (h : payload.apply user = .ok user') :
    user'.id = user.id ∧ user'.role = payload.role.getD user.role ∧
      user'.isActive = payload.isActive.getD user.isActive := by
  obtain ⟨name, -, h⟩ := bind_eq_ok.mp h
  obtain ⟨stored, -, h⟩ := bind_eq_ok.mp h
  cases h
  exact ⟨rfl, rfl, rfl⟩

theorem requireSuperAdmin_spec {found : Option User}
    (h : requireSuperAdmin found = .ok user) :
    found = some user ∧ user.isActive = true ∧ user.role = .superAdmin := by
  cases found with
  | none => cases h
  | some r =>
      simp only [requireSuperAdmin] at h
      split at h
      · cases h
      · rename_i hactive
        split at h
        · rename_i hrole
          cases h
          exact ⟨rfl, by simpa using hactive, hrole⟩
        · cases h

/-- What `update_user` checks and writes. -/
theorem updateUser_spec (h : updateUser actor userId payload t = .ok t') :
    ∃ currentUser user user', requireSuperAdmin (t.byId actor) = .ok currentUser ∧
      t.byId userId = some user ∧
      ¬ (user.id = currentUser.id ∧
        payload.removesAccess = true) ∧
      payload.apply user = .ok user' ∧ t.write user' = .ok t' := by
  obtain ⟨currentUser, hactor, h⟩ := bind_eq_ok.mp h
  split at h
  · cases h
  · rename_i user huser
    split at h
    · cases h
    · rename_i hown
      split at h
      · cases h
      · obtain ⟨user', happly, hwrite⟩ := bind_eq_ok.mp h
        exact ⟨currentUser, user, user', hactor, huser, hown, happly, hwrite⟩

theorem updateUser_row (h : updateUser actor userId payload t = .ok t')
    (hr : r ∈ t.rows) :
    ∃ r' ∈ t'.rows, r'.id = r.id ∧ r'.isActive =
      if r.id = userId then payload.isActive.getD r.isActive
      else r.isActive := by
  obtain ⟨-, user, user', -, huser, -, happly, hwrite⟩ := updateUser_spec h
  obtain ⟨hmem, rfl⟩ := UserTable.byId_eq_some.mp huser
  obtain ⟨hid, -, hactive⟩ := apply_spec happly
  obtain ⟨r', hr', hid', hactive'⟩ := write_row hwrite hr
  refine ⟨r', hr', hid', hactive'.trans ?_⟩
  rw [hid]
  split
  · rename_i heq
    rw [hactive, UserTable.eq_of_id hmem hr heq.symm]
  · rfl

theorem createUser_row {payload : UserCreate}
    (h : createUser actor payload newId now t = .ok t') (hr : r ∈ t.rows) :
    r ∈ t'.rows := by
  obtain ⟨-, -, h⟩ := bind_eq_ok.mp h
  obtain ⟨email, -, h⟩ := bind_eq_ok.mp h
  obtain ⟨name, -, h⟩ := bind_eq_ok.mp h
  split at h
  · cases h
  · obtain ⟨stored, -, hinsert⟩ := bind_eq_ok.mp h
    rw [insert_rows hinsert]
    exact List.mem_append_left _ hr

/-- A sign-in keeps every account and its state. -/
theorem provisionGoogleUser_row {identity : GoogleIdentity ops}
    (h : provisionGoogleUser identity newId now t = .ok t')
    (hr : r ∈ t.rows) :
    ∃ r' ∈ t'.rows, r'.id = r.id ∧ r'.isActive = r.isActive := by
  obtain ⟨subject, -, h⟩ := bind_eq_ok.mp h
  obtain ⟨email, -, h⟩ := bind_eq_ok.mp h
  split at h
  · rename_i user emailUser hsub
    split at h
    · cases h
    · obtain ⟨name, -, hwrite⟩ := bind_eq_ok.mp h
      exact write_keeps hwrite (UserTable.bySub_spec hsub).1 rfl rfl hr
  · rename_i emailUser hsub hemail
    split at h
    · cases h
    · obtain ⟨name, -, hwrite⟩ := bind_eq_ok.mp h
      exact write_keeps hwrite (UserTable.byEmail_spec hemail).1 rfl rfl hr
  · obtain ⟨name, -, hinsert⟩ := bind_eq_ok.mp h
    refine ⟨r, ?_, rfl, rfl⟩
    rw [insert_rows hinsert]
    exact List.mem_append_left _ hr

theorem syncRequest_spec {users : Snapshot}
    (h : syncRequest actor users now t = .ok t') :
    ∃ result, syncWorkspaceUsers ops now users t = .ok (t', result) := by
  obtain ⟨-, -, h⟩ := bind_eq_ok.mp h
  obtain ⟨⟨t₁, result⟩, hsync, h⟩ := bind_eq_ok.mp h
  cases h
  exact ⟨result, mapError_eq_ok.mp hsync⟩

end LeakcheckHub.Accounts
