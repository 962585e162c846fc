import LeakcheckHub.Accounts.Requests

/-!
# Sign-in and accounts

What `provision_google_user` of `app/auth/google.py` does to the table of
users: the identity matches the account that holds its subject, else the one
that has its address, else none.

§1 what a sign-in leaves · §2 a matched account · §3 a new account ·
§4 the law.
-/

namespace LeakcheckHub.Accounts

open Foundation

variable {ops : TextOps}

/-! ## §1  What a sign-in leaves -/

/-- The subject and the address of the identity match no account. -/
def Unmatched (identity : GoogleIdentity ops) (t : UserTable ops) : Prop :=
  ∀ r ∈ t.rows, r.googleSub ≠ some identity.subject ∧
    ops.citext r.email ≠ ops.citext identity.email

/-- An account before and after: a sign-in writes the address, the subject and
the name, and a subject only where there was none. -/
structure KeepsAccount (subject : PyStr) (r r' : User) : Prop where
  columns : r' = { r with
    email := r'.email
    googleSub := r'.googleSub
    displayName := r'.displayName }
  sub : ∀ sub, r.googleSub = some sub → r'.googleSub = some sub
  others : r'.googleSub ≠ some subject → r' = r

structure SignedIn (identity : GoogleIdentity ops) (t t' : UserTable ops) :
    Prop where
  unique : UniqueRows ops t'.rows
  holder : ∃! r, r ∈ t'.rows ∧ r.googleSub = some identity.subject
  email : ∀ r ∈ t'.rows, r.googleSub = some identity.subject →
    ops.citext r.email = ops.citext identity.email ∧
      (r.email = identity.email ∨
        ∃ o ∈ t.rows, o.id = r.id ∧ o.googleSub = none ∧ o.email = r.email)
  kept : ∀ r ∈ t.rows, ∃ r' ∈ t'.rows, KeepsAccount identity.subject r r'
  created : ∀ r ∈ t'.rows, r.id ∉ t.rows.map User.id →
    r.role = .user ∧ r.googleSub = some identity.subject
  createdIff : (∃ r ∈ t'.rows, r.id ∉ t.rows.map User.id) ↔
    Unmatched identity t

/-- The table after the transaction of the sign-in. -/
def afterSignIn (identity : GoogleIdentity ops) (newId : Uuid)
    (now : Timestamp) (t : UserTable ops) : UserTable ops :=
  match provisionGoogleUser identity newId now t with
  | .ok t' => t'
  | .error _ => t

section Rules

variable {identity : GoogleIdentity ops} {newId : Uuid} {now : Timestamp}
  {t t' : UserTable ops} {o user : User} {name : PyStr}

/-- One row holds the subject where all that do have the same id. -/
theorem holder_of_mem {sub : PyStr} (hmem : user ∈ t.rows)
    (hsub : user.googleSub = some sub) :
    ∃! r, r ∈ t.rows ∧ r.googleSub = some sub := by
  refine ⟨user, ⟨hmem, hsub⟩, ?_⟩
  rintro r ⟨hr, hrsub⟩
  exact UserTable.eq_of_sub hr hmem hrsub hsub

/-! ## §2  A matched account -/

/-- The account `o` gets the subject and the address `email`. -/
theorem signedIn_of_write {email : PyStr} (ho : o ∈ t.rows)
    (hsub : o.googleSub = none ∨ o.googleSub = some identity.subject)
    (hothers : ∀ r ∈ t.rows, r.googleSub = some identity.subject → r = o)
    (hmatch : o.googleSub = some identity.subject ∨
      ops.citext o.email = ops.citext identity.email)
    (hemail : ops.citext email = ops.citext identity.email)
    (htext : email = identity.email ∨ o.googleSub = none ∧ o.email = email)
    (h : t.write { o with
      email := email
      googleSub := some identity.subject
      displayName := name } = .ok t') : SignedIn identity t t' := by
  have hrows := write_rows h
  have hmem : ∀ r ∈ t'.rows, (r ∈ t.rows ∧ r ≠ o) ∨ r = { o with
      email := email
      googleSub := some identity.subject
      displayName := name } := by
    intro r hr
    rw [hrows] at hr
    obtain ⟨r₀, hr₀, rfl⟩ := List.mem_map.mp hr
    by_cases hid : r₀.id = o.id
    · rw [if_pos hid]
      exact .inr rfl
    · rw [if_neg hid]
      exact .inl ⟨hr₀, fun heq => hid (congrArg User.id heq)⟩
  have hnew : { o with
      email := email
      googleSub := some identity.subject
      displayName := name } ∈ t'.rows := by
    rw [hrows]
    exact List.mem_map.mpr ⟨o, ho, if_pos rfl⟩
  have hids : ∀ r ∈ t'.rows, r.id ∈ t.rows.map User.id := by
    intro r hr
    rcases hmem r hr with ⟨hold, -⟩ | rfl
    · exact List.mem_map_of_mem hold
    · exact List.mem_map.mpr ⟨o, ho, rfl⟩
  refine ⟨t'.unique, holder_of_mem hnew rfl, ?_, ?_, ?_, ?_⟩
  · intro r hr hrsub
    rcases hmem r hr with ⟨hold, hne⟩ | rfl
    · exact absurd (hothers r hold hrsub) hne
    · refine ⟨hemail, ?_⟩
      rcases htext with heq | ⟨hnone, heq⟩
      · exact .inl heq
      · exact .inr ⟨o, ho, rfl, hnone, heq⟩
  · intro r hr
    by_cases hid : r.id = o.id
    · have heq := UserTable.eq_of_id hr ho hid
      subst heq
      refine ⟨_, hnew, rfl, ?_, fun hne => absurd rfl hne⟩
      intro sub hrsub
      rcases hsub with hnone | hsame
      · rw [hnone] at hrsub
        cases hrsub
      · rw [← hrsub, hsame]
    · refine ⟨r, ?_, rfl, fun _ hrsub => hrsub, fun _ => rfl⟩
      rw [hrows]
      exact List.mem_map.mpr ⟨r, hr, if_neg hid⟩
  · intro r hr hfresh
    exact absurd (hids r hr) hfresh
  · constructor
    · rintro ⟨r, hr, hfresh⟩
      exact absurd (hids r hr) hfresh
    · intro hnone
      rcases hmatch with hheld | hsame
      · exact absurd hheld (hnone o ho).1
      · exact absurd hsame (hnone o ho).2

/-! ## §3  A new account -/

theorem signedIn_of_insert (hnone : Unmatched identity t)
    (hemail : user.email = identity.email)
    (hsub : user.googleSub = some identity.subject) (hrole : user.role = .user)
    (h : t.insert user = .ok t') : SignedIn identity t t' := by
  have hrows := insert_rows h
  have hnew : user ∈ t'.rows := by
    rw [hrows]
    exact List.mem_append_right _ List.mem_cons_self
  have hmem : ∀ r ∈ t'.rows, r ∈ t.rows ∨ r = user := by
    intro r hr
    rw [hrows] at hr
    rcases List.mem_append.mp hr with hold | hr
    · exact .inl hold
    · exact .inr (List.mem_singleton.mp hr)
  have hfresh : user.id ∉ t.rows.map User.id := by
    have hnodup := t'.unique.ids
    rw [hrows, List.map_append] at hnodup
    intro hold
    exact (List.nodup_append.mp hnodup).2.2 _ hold _ List.mem_cons_self rfl
  refine ⟨t'.unique, holder_of_mem hnew hsub, ?_, ?_, ?_, ?_⟩
  · intro r hr hrsub
    rcases hmem r hr with hold | rfl
    · exact absurd hrsub (hnone r hold).1
    · exact ⟨congrArg ops.citext hemail, .inl hemail⟩
  · intro r hr
    refine ⟨r, ?_, rfl, fun _ hrsub => hrsub, fun _ => rfl⟩
    rw [hrows]
    exact List.mem_append_left _ hr
  · intro r hr hid
    rcases hmem r hr with hold | rfl
    · exact absurd (List.mem_map_of_mem hold) hid
    · exact ⟨hrole, hsub⟩
  · constructor
    · intro _
      exact hnone
    · intro _
      exact ⟨user, hnew, hfresh⟩

theorem bySub_none {sub : PyStr} (h : t.bySub sub = none) :
    ∀ r ∈ t.rows, r.googleSub ≠ some sub := by
  intro r hr
  simpa using List.find?_eq_none.mp h r hr

theorem byEmail_none {k : PyStr} (h : t.byEmail k = none) :
    ∀ r ∈ t.rows, ops.citext r.email ≠ k := by
  intro r hr
  simpa using List.find?_eq_none.mp h r hr

/-! ## §4  The law -/

theorem provisionGoogleUser_signedIn
    (h : provisionGoogleUser identity newId now t = .ok t') :
    SignedIn identity t t' := by
  obtain ⟨subject, hsubject, h₁⟩ := bind_eq_ok.mp h
  obtain ⟨email, hemail, h₂⟩ := bind_eq_ok.mp h₁
  have hstored : subject = identity.subject := by
    rcases (PyStr.storeVarchar_eq_some (bindParam_eq_ok.mp hsubject)).2 with
      ⟨-, heq⟩ | ⟨hlong, -⟩
    · exact heq
    · exact absurd identity.subject_bound.2 (Nat.not_le.mpr hlong)
  have haddress : email = identity.email :=
    PyStr.storeText_eq (bindParam_eq_ok.mp hemail)
  subst hstored haddress
  split at h₂
  · rename_i user hsub
    obtain ⟨hmem, hheld⟩ := UserTable.bySub_spec hsub
    split at h₂
    · cases h₂
    · obtain ⟨name, -, hwrite⟩ := bind_eq_ok.mp h₂
      rw [hheld] at hwrite
      refine signedIn_of_write hmem (.inr hheld) ?_ (.inl hheld) rfl (.inl rfl)
        hwrite
      intro r hr hrsub
      exact UserTable.eq_of_sub hr hmem hrsub hheld
  · rename_i emailUser hsub hfound
    obtain ⟨hmem, hsame⟩ := UserTable.byEmail_spec hfound
    have hfree := bySub_none hsub
    split at h₂
    · cases h₂
    · rename_i hallowed
      obtain ⟨name, -, hwrite⟩ := bind_eq_ok.mp h₂
      -- the account held no subject, for it cannot hold this one
      have hnone : emailUser.googleSub = none := by
        cases hheld : emailUser.googleSub with
        | none => rfl
        | some sub =>
            rw [hheld, Option.any_some, bne_iff_ne, not_not] at hallowed
            rw [hallowed] at hheld
            exact absurd hheld (hfree emailUser hmem)
      refine signedIn_of_write hmem (.inl hnone) ?_ (.inr hsame) hsame
        (.inr ⟨hnone, rfl⟩) hwrite
      intro r hr hrsub
      exact absurd hrsub (hfree r hr)
  · rename_i hsub hfound
    obtain ⟨name, -, hinsert⟩ := bind_eq_ok.mp h₂
    have hnone : Unmatched identity t := fun r hr =>
      ⟨bySub_none hsub r hr, byEmail_none hfound r hr⟩
    exact signedIn_of_insert hnone rfl rfl rfl hinsert

/-- **Sign-in.** It raises and leaves the table as it was, or the identity has
one account, whose role, activity and source are what they were, and all other
accounts are untouched; an account is created just when the identity matched
none. -/
theorem signIn_links (identity : GoogleIdentity ops) (newId : Uuid)
    (now : Timestamp) (t : UserTable ops) :
    (∃ e, provisionGoogleUser identity newId now t = .error e ∧
      afterSignIn identity newId now t = t) ∨
    ∃ t', provisionGoogleUser identity newId now t = .ok t' ∧
      afterSignIn identity newId now t = t' ∧ SignedIn identity t t' := by
  unfold afterSignIn
  cases h : provisionGoogleUser identity newId now t with
  | error e => exact .inl ⟨e, rfl, rfl⟩
  | ok t' => exact .inr ⟨t', rfl, rfl, provisionGoogleUser_signedIn h⟩

end Rules

/-- Ana, whom an administrator created. -/
def manualAccounts : UserTable asciiOps where
  rows := [⟨1, PyStr.lit "ana@x.org", none, PyStr.lit "Ana", none, .analyst,
    true, .manual, 0, none⟩]
  unique := by decide

def anaAtGoogle : GoogleIdentity asciiOps where
  subject := PyStr.lit "1001"
  email := PyStr.lit "ana@x.org"
  displayName := PyStr.lit "Ana"
  hostedDomain := PyStr.lit "x.org"
  subject_bound := by decide
  email_verified := ⟨PyStr.lit "ana@x.org", by decide, by decide⟩
  displayName_bound := by decide

example : (afterSignIn anaAtGoogle 2 0 manualAccounts).rows.map
    (fun r => (r.id, r.googleSub, r.role)) =
      [(1, some (PyStr.lit "1001"), .analyst)] := by
  decide +kernel

end LeakcheckHub.Accounts
