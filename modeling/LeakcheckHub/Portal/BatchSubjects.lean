import LeakcheckHub.Accounts.Addresses
import LeakcheckHub.Accounts.Offboarding
import LeakcheckHub.Auth.Mfa
import LeakcheckHub.Foundation.KeyedRows
import LeakcheckHub.Portal.Own

/-!
# Subjects of a batch

`create_batch` of `app/batches.py` files the scan of a user under the stored
address with its case folded, where every other caller normalises it. The
portal looks the user up under the normal form. The addresses are those that
`create_superadmin`, administrators, sign-ins and the directory may store.

§1 stored addresses · §2 the subject of a batch · §3 the law.
-/

namespace LeakcheckHub.Portal

open Foundation Accounts Auth Findings Normalization

/-! ## §1  Stored addresses -/

inductive Provisioning (ops : TextOps) where
  | request (request : Request ops)
  | createSuperadmin (email displayName password : PyStr) (newId : Uuid)
      (salt : Bytes) (now : Timestamp)

/-- Everything that writes users, from an empty table on; what raises leaves
the tables as they were. -/
def provisioning {ops : TextOps} (A : Authenticator ops) :
    System (LoginTables ops) (Provisioning ops) where
  init t := t.users.rows = []
  step t
    | .request request =>
        match request.handle t.users with
        | .ok users => some { t with users }
        | .error _ => some t
    | .createSuperadmin email displayName password newId salt now =>
        match createSuperadmin A email displayName password newId salt now t with
        | .ok t' => some t'
        | .error _ => some t

/-- Every address has its case folded. -/
def Folded {ops : TextOps} (t : UserTable ops) : Prop :=
  ∀ r ∈ t.rows, ops.casefold r.email = r.email

section Stored

variable {ops : TextOps} {A : Authenticator ops} {t t' : UserTable ops}
  {user : User} {now : Timestamp} {newId : Uuid}

theorem Folded.write (ht : Folded t) (h : t.write user = .ok t')
    (huser : ops.casefold user.email = user.email) : Folded t' := by
  intro r hr
  rw [write_rows h] at hr
  obtain ⟨o, ho, rfl⟩ := List.mem_map.mp hr
  split
  · exact huser
  · exact ht o ho

theorem Folded.insert (ht : Folded t) (h : t.insert user = .ok t')
    (huser : ops.casefold user.email = user.email) : Folded t' := by
  intro r hr
  rw [insert_rows h] at hr
  rcases List.mem_append.mp hr with hr | hr
  · exact ht r hr
  · rw [List.mem_singleton.mp hr]
    exact huser

theorem apply_email {payload : UserUpdate} {user' : User}
    (h : payload.apply user = .ok user') : user'.email = user.email := by
  obtain ⟨name, -, h⟩ := bind_eq_ok.mp h
  obtain ⟨stored, -, h⟩ := bind_eq_ok.mp h
  cases h
  rfl

theorem Folded.updateUser {actor userId : Uuid} {payload : UserUpdate}
    (ht : Folded t) (h : updateUser actor userId payload t = .ok t') :
    Folded t' := by
  obtain ⟨-, user, user', -, huser, -, happly, hwrite⟩ := updateUser_spec h
  refine ht.write hwrite ?_
  rw [apply_email happly]
  exact ht user (UserTable.byId_eq_some.mp huser).1

theorem Folded.createUser (hops : AddressTables ops.toUnicodeData)
    {actor : Uuid} {payload : UserCreate} (ht : Folded t)
    (h : createUser actor payload newId now t = .ok t') : Folded t' := by
  obtain ⟨-, -, h⟩ := bind_eq_ok.mp h
  obtain ⟨email, hemail, h⟩ := bind_eq_ok.mp h
  obtain ⟨name, -, h⟩ := bind_eq_ok.mp h
  split at h
  · cases h
  · obtain ⟨stored, -, hinsert⟩ := bind_eq_ok.mp h
    exact ht.insert hinsert (folded_of_normaliseAdminEmail hops hemail)

theorem Folded.provisionGoogleUser (hops : AddressTables ops.toUnicodeData)
    {identity : GoogleIdentity ops} (ht : Folded t)
    (h : provisionGoogleUser identity newId now t = .ok t') : Folded t' := by
  obtain ⟨subject, -, h⟩ := bind_eq_ok.mp h
  obtain ⟨email, hstored, h⟩ := bind_eq_ok.mp h
  have hemail : ops.casefold email = email := by
    obtain ⟨claim, -, hclaim⟩ := identity.email_verified
    have heq : email = identity.email := by
      cases hs : identity.email.storeText with
      | none =>
          rw [hs] at hstored
          cases hstored
      | some s =>
          rw [hs] at hstored
          cases hstored
          exact PyStr.storeText_eq hs
    rw [heq, hclaim, hops.casefold_idem]
  split at h
  · split at h
    · cases h
    · obtain ⟨name, -, hwrite⟩ := bind_eq_ok.mp h
      exact ht.write hwrite hemail
  · rename_i emailUser _ hfound
    split at h
    · cases h
    · obtain ⟨name, -, hwrite⟩ := bind_eq_ok.mp h
      exact ht.write hwrite (ht emailUser (UserTable.byEmail_spec hfound).1)
  · obtain ⟨name, -, hinsert⟩ := bind_eq_ok.mp h
    exact ht.insert hinsert hemail

theorem Folded.upsert (hops : AddressTables ops.toUnicodeData)
    {entry : WorkspaceUser × Uuid} (ht : Folded t)
    (h : upsert ops now t entry = .ok t') : Folded t' := by
  obtain ⟨x, newId⟩ := entry
  obtain ⟨v, hv⟩ := upsert_stored h
  intro r hr
  rcases (mem_upsert hv h).mp hr with ⟨o, ho, rfl⟩ | ⟨-, rfl⟩
  · rw [overwriteAt_email]
    exact ht o ho
  · change ops.casefold v.email = v.email
    rw [PyStr.storeText_eq (storedEntry_spec hv).1, hops.casefold_idem]

theorem Folded.syncRequest (hops : AddressTables ops.toUnicodeData)
    {actor : Uuid} {users : Snapshot} (ht : Folded t)
    (h : syncRequest actor users now t = .ok t') : Folded t' := by
  obtain ⟨result, hsync⟩ := syncRequest_spec h
  obtain ⟨t₁, h₁, -, hrows, -⟩ := syncWorkspaceUsers_eq_ok.mp hsync
  have hupserted : Folded t₁ :=
    foldlM_invariant h₁ (fun _ _ _ _ ht h => Folded.upsert hops ht h) ht
  intro r hr
  rw [hrows] at hr
  obtain ⟨o, ho, rfl⟩ := List.mem_map.mp hr
  have hemail : (deactivate ops users o).email = o.email := by
    unfold deactivate
    split <;> rfl
  rw [hemail]
  exact hupserted o ho

theorem Folded.createSuperadmin (hops : AddressTables ops.toUnicodeData)
    {t t' : LoginTables ops} {email displayName password : PyStr}
    {salt : Bytes} (ht : Folded t.users)
    (h : createSuperadmin A email displayName password newId salt now t =
      .ok t') : Folded t'.users := by
  obtain ⟨stored, hstored, h⟩ := bind_eq_ok.mp h
  obtain ⟨name, -, h⟩ := bind_eq_ok.mp h
  split at h
  · cases h
  · obtain ⟨passwordHash, -, h⟩ := bind_eq_ok.mp h
    obtain ⟨name, -, h⟩ := bind_eq_ok.mp h
    obtain ⟨users, husers, h⟩ := bind_eq_ok.mp h
    split at h
    · cases h
    · cases h
      refine ht.insert (mapError_eq_ok.mp husers) ?_
      exact folded_of_normaliseAdminEmail hops (mapError_eq_ok.mp hstored)

theorem folded_step (hops : AddressTables ops.toUnicodeData)
    {t t' : LoginTables ops} {a : Provisioning ops} (ht : Folded t.users)
    (hstep : (provisioning A).step t a = some t') : Folded t'.users := by
  cases a with
  | request request =>
      simp only [provisioning] at hstep
      split at hstep
      · rename_i users hok
        cases hstep
        cases request with
        | updateUser actor userId payload => exact ht.updateUser hok
        | syncWorkspace actor users now => exact ht.syncRequest hops hok
        | createUser actor payload newId now => exact ht.createUser hops hok
        | provisionGoogleUser identity newId now =>
            exact ht.provisionGoogleUser hops hok
      · cases hstep
        exact ht
  | createSuperadmin email displayName password newId salt now =>
      simp only [provisioning] at hstep
      split at hstep
      · rename_i t₁ hok
        cases hstep
        exact Folded.createSuperadmin hops ht hok
      · cases hstep
        exact ht

/-- Whatever is stored is folded. -/
theorem folded_reachable (hops : AddressTables ops.toUnicodeData)
    {t : LoginTables ops} (h : (provisioning A).Reachable t) :
    Folded t.users := by
  refine h.invariant (I := fun t => Folded t.users) ?_ ?_
  · intro t ht r hr
    rw [show t.users.rows = [] from ht] at hr
    cases hr
  · intro t a t' ht _ hstep
    exact folded_step hops ht hstep

end Stored

/-! ## §2  The subject of a batch -/

structure SubjectRow extends Subject where
  valueDisplay : PyStr
  linkedUserId : Option Uuid

def SubjectRow.key (row : SubjectRow) : SubjectKind × PyStr :=
  (row.kind, row.valueNorm)

/-- `subjects`, with `uq_subjects_kind_value_norm`. -/
abbrev SubjectTable : Type := KeyedRows SubjectRow.key

/-- `str(user.email).casefold()`. -/
def batchKey (U : UnicodeData) (email : PyStr) : PyStr := U.casefold email

def SubjectRow.link (userId : Uuid) (row : SubjectRow) : SubjectRow :=
  { row with linkedUserId := some userId }

theorem SubjectRow.key_link (userId : Uuid) (row : SubjectRow) :
    (row.link userId).key = row.key := rfl

/-- The subject statement of `create_batch` for one user, with the id that it
returns: an upsert on the unique key. -/
def batchSubject (U : UnicodeData) (user : User) (newId : Uuid)
    (t : SubjectTable) : Except DbError (SubjectTable × Uuid) :=
  match (batchKey U user.email).storeVarchar 4096,
      user.email.storeVarchar 4096 with
  | some valueNorm, some valueDisplay =>
      match t.find (.email, valueNorm) with
      | some row =>
          .ok (t.updateWhere (fun r => decide (r.key = (.email, valueNorm)))
            (SubjectRow.link user.id) (SubjectRow.key_link user.id), row.id)
      | none =>
          if newId ∈ t.rows.map (fun r => r.id) then .error .uniqueViolation
          else
            match t.insert ⟨⟨newId, .email, valueNorm⟩, valueDisplay,
                some user.id⟩ with
            | some t' => .ok (t', newId)
            | none => .error .uniqueViolation
  | _, _ => .error .badText

variable {U : UnicodeData} {user : User} {newId subjectId : Uuid}
  {t t' : SubjectTable}

/-- The id returned is that of the row of the key. -/
theorem batchSubject_spec (hlen : (batchKey U user.email).length ≤ 4096)
    (h : batchSubject U user newId t = .ok (t', subjectId)) :
    ∃ row, t'.find (.email, batchKey U user.email) = some row ∧
      row.id = subjectId := by
  unfold batchSubject at h
  split at h
  · rename_i valueNorm valueDisplay hnorm _
    have hkey : valueNorm = batchKey U user.email := by
      rcases (PyStr.storeVarchar_eq_some hnorm).2 with ⟨-, heq⟩ | ⟨hlong, -⟩
      · exact heq
      · exact absurd hlen (Nat.not_le.mpr hlong)
    subst hkey
    split at h
    · rename_i row hrow
      cases h
      refine ⟨row.link user.id, ?_, rfl⟩
      rw [KeyedRows.find_updateWhere, hrow, Option.map_some,
        decide_eq_true (KeyedRows.key_of_find hrow)]
      rfl
    · split at h
      · cases h
      · split at h
        · rename_i inserted hinsert
          cases h
          refine ⟨⟨⟨newId, .email, batchKey U user.email⟩, valueDisplay,
            some user.id⟩, ?_, rfl⟩
          rw [KeyedRows.find_insert hinsert]
          exact if_pos rfl
        · cases h
  · cases h

/-! ## §3  The law -/

/-- The findings that the portal joins to the key of a batch are those of the
subject that the batch filed. -/
theorem ownFindings_of_batchSubject {Rest : Type} {db : Database Rest}
    (hlen : (batchKey U user.email).length ≤ 4096)
    (h : batchSubject U user newId t = .ok (t', subjectId))
    (hdb : db.subjects = t'.rows.map SubjectRow.toSubject) :
    ownFindings db (batchKey U user.email) =
      db.store.findings.filter fun f => decide (f.subjectId = subjectId) := by
  obtain ⟨row, hrow, rfl⟩ := batchSubject_spec hlen h
  obtain ⟨hmem, hkey⟩ := KeyedRows.find_eq_some.mp hrow
  apply List.filter_congr
  intro finding _
  rw [Bool.eq_iff_iff, owned_eq_true, decide_eq_true_eq, hdb]
  constructor
  · rintro ⟨subject, hsubject, hid, hown⟩
    obtain ⟨r, hr, rfl⟩ := List.mem_map.mp hsubject
    rw [isOwnSubject, Bool.and_eq_true] at hown
    have hsame : r.key = row.key :=
      (Prod.ext (of_decide_eq_true hown.1) (of_decide_eq_true hown.2)).trans
        hkey.symm
    rw [← hid, List.inj_on_of_nodup_map t'.nodup hr hmem hsame]
  · intro hid
    refine ⟨row.toSubject, List.mem_map_of_mem hmem, hid.symm, ?_⟩
    rw [isOwnSubject, Bool.and_eq_true]
    exact ⟨decide_eq_true (congrArg Prod.fst hkey),
      decide_eq_true (congrArg Prod.snd hkey)⟩

/-- **One key for batches and portal.** The portal looks up the user of any
stored address under the key that a batch files the subject under if and only
if the address is in canonical form; its findings are then the findings that
the portal shows. -/
theorem portal_finds_batch_subject {ops : TextOps} {A : Authenticator ops}
    (hops : AddressTables ops.toUnicodeData) {tables : LoginTables ops}
    (htables : (provisioning A).Reachable tables) {user : User}
    (huser : user ∈ tables.users.rows) :
    (normalizeEmailSubject ops.toUnicodeData user.email =
        .ok (batchKey ops.toUnicodeData user.email) ↔
      Canonical ops.toUnicodeData user.email) ∧
    (Canonical ops.toUnicodeData user.email →
      ∀ (t t' : SubjectTable) (newId subjectId : Uuid),
        batchSubject ops.toUnicodeData user newId t = .ok (t', subjectId) →
        ∀ (Rest : Type) (db : Database Rest),
          db.subjects = t'.rows.map SubjectRow.toSubject →
          ownFindings db (batchKey ops.toUnicodeData user.email) =
            db.store.findings.filter fun f =>
              decide (f.subjectId = subjectId)) := by
  have hkey : batchKey ops.toUnicodeData user.email = user.email :=
    folded_reachable hops htables user huser
  constructor
  · rw [hkey]
    exact normalizeEmailSubject_eq_self hops hkey
  · intro hcanonical t t' newId subjectId h Rest db hdb
    refine ownFindings_of_batchSubject ?_ h hdb
    rw [hkey]
    exact Nat.le_trans hcanonical.short (by decide)

/-- The identity of an account that Google knows by `email`. -/
def knownTo (email : PyStr)
    (h : validEmail asciiOps email = true ∧ asciiOps.casefold email = email) :
    GoogleIdentity asciiOps where
  subject := PyStr.lit "sub:" ++ email.take 100
  email := email
  displayName := PyStr.lit "Bob"
  hostedDomain := PyStr.lit "x.org"
  subject_bound := ⟨by simp [PyStr.lit], by
    rw [List.length_append, List.length_take]
    exact Nat.le_trans (Nat.add_le_add_left (Nat.min_le_left _ _) _)
      (by decide)⟩
  email_verified := ⟨email, h.1, h.2.symm⟩
  displayName_bound := by decide

def firstSignIns : List (Provisioning asciiOps) :=
  [.request (.provisionGoogleUser
      (knownTo (PyStr.lit "bob@x.org") (by decide)) 1 0),
    .request (.provisionGoogleUser
      (knownTo (PyStr.lit "bob@x.org.") (by decide)) 2 0),
    .request (.provisionGoogleUser
      (knownTo (PyStr.lit "bob@localhost") (by decide)) 3 0)]

/-- The accounts after them. -/
theorem firstSignIns_reach :
    ∃ t, (provisioning strict).Reachable t ∧
      t.users.rows.map User.email = [PyStr.lit "bob@x.org",
        PyStr.lit "bob@x.org.", PyStr.lit "bob@localhost"] := by
  obtain ⟨t, hrun, hrows⟩ : ∃ t,
      (provisioning strict).run noTables firstSignIns = some t ∧
        t.users.rows.map User.email = [PyStr.lit "bob@x.org",
          PyStr.lit "bob@x.org.", PyStr.lit "bob@localhost"] :=
    System.exists_of_runUnder (by decide +kernel)
  have hinit : (provisioning strict).init noTables := rfl
  exact ⟨t, System.reachable_of_runUnder hinit hrun, hrows⟩

theorem portal_finds_bob :
    ∃ t, (provisioning strict).Reachable t ∧ ∃ user ∈ t.users.rows,
      normalizeEmailSubject asciiOps.toUnicodeData user.email =
        .ok (batchKey asciiOps.toUnicodeData user.email) ∧
      ∀ (subjects subjects' : SubjectTable) (newId subjectId : Uuid),
        batchSubject asciiOps.toUnicodeData user newId subjects =
          .ok (subjects', subjectId) →
        ∀ (Rest : Type) (db : Database Rest),
          db.subjects = subjects'.rows.map SubjectRow.toSubject →
          ownFindings db (batchKey asciiOps.toUnicodeData user.email) =
            db.store.findings.filter fun f =>
              decide (f.subjectId = subjectId) := by
  obtain ⟨t, hreach, hrows⟩ := firstSignIns_reach
  have hmem : PyStr.lit "bob@x.org" ∈ t.users.rows.map User.email := by
    rw [hrows]
    exact List.mem_cons_self
  obtain ⟨user, huser, hemail⟩ := List.mem_map.mp hmem
  have hcanonical : Canonical asciiOps.toUnicodeData user.email := by
    rw [hemail]
    decide +kernel
  obtain ⟨hiff, hfindings⟩ :=
    portal_finds_batch_subject addressTables_ascii hreach huser
  exact ⟨t, hreach, user, huser, hiff.mpr hcanonical, hfindings hcanonical⟩

/-- A final dot is dropped from the normal form, and a name of one label has
none. -/
theorem portal_misses_batch_subject :
    ∃ t, (provisioning strict).Reachable t ∧
      (∃ user ∈ t.users.rows, user.email = PyStr.lit "bob@x.org." ∧
        batchKey asciiOps.toUnicodeData user.email =
          PyStr.lit "bob@x.org." ∧
        normalizeEmailSubject asciiOps.toUnicodeData user.email =
          .ok (PyStr.lit "bob@x.org") ∧
        normalizeEmailSubject asciiOps.toUnicodeData user.email ≠
          .ok (batchKey asciiOps.toUnicodeData user.email)) ∧
      ∃ user ∈ t.users.rows, user.email = PyStr.lit "bob@localhost" ∧
        normalizeEmailSubject asciiOps.toUnicodeData user.email =
          .error "domain is invalid" := by
  obtain ⟨t, hreach, hrows⟩ := firstSignIns_reach
  have hdotted : PyStr.lit "bob@x.org." ∈ t.users.rows.map User.email := by
    rw [hrows]
    exact List.mem_cons_of_mem _ List.mem_cons_self
  have hlocal : PyStr.lit "bob@localhost" ∈ t.users.rows.map User.email := by
    rw [hrows]
    exact List.mem_cons_of_mem _ (List.mem_cons_of_mem _ List.mem_cons_self)
  obtain ⟨user, huser, hemail⟩ := List.mem_map.mp hdotted
  obtain ⟨user', huser', hemail'⟩ := List.mem_map.mp hlocal
  refine ⟨t, hreach, ⟨user, huser, hemail, ?_⟩, user', huser', hemail', ?_⟩
  · rw [hemail]
    have hnormal : normalizeEmailSubject asciiOps.toUnicodeData
        (PyStr.lit "bob@x.org.") = .ok (PyStr.lit "bob@x.org") := by
      decide +kernel
    refine ⟨by decide, hnormal, ?_⟩
    rw [hnormal]
    decide
  · rw [hemail']
    decide +kernel

end LeakcheckHub.Portal
