import LeakcheckHub.Accounts.ExternalIds

/-!
# What a sync leaves, and syncing again

`sync_workspace_users` as a whole: the table that mirrors a snapshot after the
upserts and the last update, and the second run with the same snapshot.

§1 the same listing · §2 the rows after the upserts · §3 upserts of
emails that have a row · §4 the second run · §5 the law.
-/

namespace LeakcheckHub.Accounts

open Foundation

variable {ops : TextOps} {now : Timestamp} {t t' : UserTable ops}
  {users users' : Snapshot} {x : WorkspaceUser} {newId : Uuid}
  {v : StoredEntry} {k : PyStr} {r : User}

/-! ## §1  The same listing -/

/-- The same listing, with other draws. -/
def SameListing (users users' : Snapshot) : Prop :=
  users'.map Prod.fst = users.map Prod.fst

theorem SameListing.cons {x' : WorkspaceUser × Uuid} {y : WorkspaceUser × Uuid}
    (h : SameListing (y :: users) (x' :: users')) :
    x'.1 = y.1 ∧ SameListing users users' := by
  rw [SameListing, List.map_cons, List.map_cons, List.cons.injEq] at h
  exact h

theorem SameListing.lastEntry_eq (h : SameListing users users') (k : PyStr) :
    lastEntry ops k users' = lastEntry ops k users := by
  induction users generalizing users' with
  | nil =>
      rw [SameListing, List.map_nil, List.map_eq_nil_iff] at h
      rw [h]
  | cons entry users ih =>
      cases users' with
      | nil => cases h
      | cons entry' users' =>
          obtain ⟨hfirst, hrest⟩ := h.cons
          simp only [lastEntry, ih hrest, hfirst]

theorem SameListing.admissible_iff (h : SameListing users users')
    {subs : PyStr → Option PyStr} :
    Admissible ops subs users' ↔ Admissible ops subs users := by
  induction users generalizing users' subs with
  | nil =>
      rw [SameListing, List.map_nil, List.map_eq_nil_iff] at h
      rw [h]
  | cons entry users ih =>
      cases users' with
      | nil => cases h
      | cons entry' users' =>
          obtain ⟨hfirst, hrest⟩ := h.cons
          simp only [Admissible, hfirst, ih hrest]

theorem SameListing.activeEmails_eq (h : SameListing users users') :
    activeEmails ops users' = activeEmails ops users := by
  have hmap : ∀ s : Snapshot, (s.map fun x => ops.casefold x.1.email) =
      (s.map Prod.fst).map fun x => ops.casefold x.email := by
    intro s
    rw [List.map_map]
    rfl
  rw [activeEmails, activeEmails, hmap, hmap, h]

theorem SameListing.departed_eq (h : SameListing users users') :
    departed ops users' = departed ops users := by
  funext r
  rw [departed, departed, h.activeEmails_eq]

theorem SameListing.length_eq (h : SameListing users users') :
    users'.length = users.length := by
  have hlen := congrArg List.length h
  rw [List.length_map, List.length_map] at hlen
  exact hlen

/-! ## §2  The rows after the upserts -/

/-- The row holds the values of the entry. -/
structure Holds (v : StoredEntry) (r : User) : Prop where
  displayName : r.displayName = v.displayName
  ouPath : r.ouPath = some v.ouPath
  isActive : r.isActive = v.isActive
  googleSub : r.googleSub = some v.googleSub

theorem holds_overwrite (v : StoredEntry) (r : User) : Holds v (overwrite v r) :=
  ⟨rfl, rfl, rfl, rfl⟩

theorem overwrite_of_holds (h : Holds v r) : overwrite v r = r := by
  obtain ⟨hname, hou, hactive, hsub⟩ := h
  cases r
  simp only at hname hou hactive hsub
  rw [overwrite, hname, hou, hactive, hsub]

/-- An upsert does not touch the rows of other emails. -/
theorem mem_upsert_of_ne (hv : storedEntry ops x = some v)
    (h : upsert ops now t (x, newId) = .ok t')
    (hk : ops.citext r.email ≠ entryKey ops x) :
    r ∈ t'.rows ↔ r ∈ t.rows := by
  rw [mem_upsert hv h]
  constructor
  · rintro (⟨o, ho, rfl⟩ | ⟨-, rfl⟩)
    · rw [overwriteAt_email, ← storedEntry_email hv] at hk
      rw [overwriteAt_of_ne hk]
      exact ho
    · exact absurd (storedEntry_email hv) hk
  · intro hr
    refine .inl ⟨r, hr, overwriteAt_of_ne ?_⟩
    rw [storedEntry_email hv]
    exact hk

/-- The row of its email holds the entry. -/
theorem holds_of_upsert (hv : storedEntry ops x = some v)
    (h : upsert ops now t (x, newId) = .ok t') (hr : r ∈ t'.rows)
    (hk : ops.citext r.email = entryKey ops x) : Holds v r := by
  rcases (mem_upsert hv h).mp hr with ⟨o, -, rfl⟩ | ⟨-, rfl⟩
  · rw [overwriteAt_email, ← storedEntry_email hv] at hk
    rw [overwriteAt, if_pos hk]
    exact holds_overwrite v o
  · exact ⟨rfl, rfl, rfl, rfl⟩

theorem upserts_unlisted (h : users.foldlM (upsert ops now) t = .ok t')
    (hk : lastEntry ops (ops.citext r.email) users = none) :
    r ∈ t'.rows ↔ r ∈ t.rows := by
  induction users generalizing t with
  | nil => rw [foldlM_nil_eq_ok.mp h]
  | cons entry users ih =>
      obtain ⟨x, newId⟩ := entry
      obtain ⟨t₁, h₁, hrest⟩ := foldlM_cons_eq_ok.mp h
      obtain ⟨v, hv⟩ := upsert_stored h₁
      obtain ⟨hne, hlater⟩ := lastEntry_cons_eq_none hk
      rw [ih hrest hlater, mem_upsert_of_ne hv h₁ (Ne.symm hne)]

/-- After the upserts, a row of a listed email holds its last entry. -/
theorem upserts_listed (h : users.foldlM (upsert ops now) t = .ok t')
    (hr : r ∈ t'.rows)
    (hx : lastEntry ops (ops.citext r.email) users = some x) :
    ∃ v, storedEntry ops x = some v ∧ Holds v r := by
  induction users generalizing t with
  | nil => cases hx
  | cons entry users ih =>
      obtain ⟨y, newId⟩ := entry
      obtain ⟨t₁, h₁, hrest⟩ := foldlM_cons_eq_ok.mp h
      obtain ⟨v, hv⟩ := upsert_stored h₁
      cases hl : lastEntry ops (ops.citext r.email) users with
      | some z =>
          rw [lastEntry_cons_of_some hl, Option.some.injEq] at hx
          subst hx
          exact ih hrest hl
      | none =>
          have hkey : entryKey ops y = ops.citext r.email := by
            by_contra hne
            rw [lastEntry_cons_of_ne hne, hl] at hx
            cases hx
          rw [lastEntry_cons_of_none hl hkey, Option.some.injEq] at hx
          subst hx
          refine ⟨v, hv, holds_of_upsert hv h₁ ?_ hkey.symm⟩
          exact (upserts_unlisted hrest hl).mp hr

/-- The row that the upsert of its email leaves. -/
theorem upsert_present (h : upsert ops now t (x, newId) = .ok t') :
    (t'.byEmail (entryKey ops x)).isSome := by
  obtain ⟨v, hv⟩ := upsert_stored h
  cases hb : t.byEmail (entryKey ops x) with
  | none =>
      have hr := (mem_upsert hv h).mpr (.inr ⟨hb, rfl⟩)
      have hk := storedEntry_email hv
      exact Option.isSome_of_eq_some (UserTable.byEmail_eq_some.mpr ⟨hr, hk⟩)
  | some r =>
      obtain ⟨hr, hk⟩ := UserTable.byEmail_spec hb
      have hr' := (mem_upsert hv h).mpr (.inl ⟨r, hr, rfl⟩)
      refine Option.isSome_of_eq_some
        (UserTable.byEmail_eq_some.mpr ⟨hr', ?_⟩)
      rw [overwriteAt_email]
      exact hk

theorem upserts_keep (h : users.foldlM (upsert ops now) t = .ok t')
    (hk : (t.byEmail k).isSome) : (t'.byEmail k).isSome := by
  obtain ⟨r, hb⟩ := Option.isSome_iff_exists.mp hk
  obtain ⟨hr, rfl⟩ := UserTable.byEmail_spec hb
  obtain ⟨r', hr', hsame, -⟩ := upserts_row h hr
  refine Option.isSome_of_eq_some (UserTable.byEmail_eq_some.mpr ⟨hr', ?_⟩)
  rw [hsame.email]

theorem upsert_keep {entry : WorkspaceUser × Uuid}
    (h : upsert ops now t entry = .ok t') (hk : (t.byEmail k).isSome) :
    (t'.byEmail k).isSome := by
  have hone : [entry].foldlM (upsert ops now) t = .ok t' :=
    foldlM_cons_eq_ok.mpr ⟨t', h, rfl⟩
  exact upserts_keep hone hk

/-- Every listed email has a row after the upserts. -/
theorem upserts_present (h : users.foldlM (upsert ops now) t = .ok t')
    {entry : WorkspaceUser × Uuid} (hx : entry ∈ users) :
    (t'.byEmail (entryKey ops entry.1)).isSome := by
  induction users generalizing t with
  | nil => cases hx
  | cons first users ih =>
      obtain ⟨t₁, h₁, hrest⟩ := foldlM_cons_eq_ok.mp h
      rcases List.mem_cons.mp hx with rfl | hx
      · exact upserts_keep hrest (upsert_present h₁)
      · exact ih hrest hx

/-- A row that an upsert leaves is an account there was, or a new one. -/
theorem upsert_origin (h : upsert ops now t (x, newId) = .ok t')
    (hr : r ∈ t'.rows) :
    (∃ o ∈ t.rows, SameAccount o r) ∨
      (t.byEmail (ops.citext r.email) = none ∧ r.role = .user ∧
        r.source = .workspaceSync ∧ entryKey ops x = ops.citext r.email) := by
  obtain ⟨v, hv⟩ := upsert_stored h
  rcases (mem_upsert hv h).mp hr with ⟨o, ho, rfl⟩ | ⟨hnone, rfl⟩
  · exact .inl ⟨o, ho, sameAccount_overwriteAt o⟩
  · have hkey : ops.citext (insertedRow v newId now).email = entryKey ops x :=
      storedEntry_email hv
    refine .inr ⟨?_, rfl, rfl, hkey.symm⟩
    rw [hkey]
    exact hnone

theorem upserts_origin (h : users.foldlM (upsert ops now) t = .ok t')
    (hr : r ∈ t'.rows) :
    (∃ o ∈ t.rows, SameAccount o r) ∨
      (t.byEmail (ops.citext r.email) = none ∧ r.role = .user ∧
        r.source = .workspaceSync ∧
        ∃ x ∈ users, entryKey ops x.1 = ops.citext r.email) := by
  induction users generalizing t with
  | nil =>
      rw [foldlM_nil_eq_ok] at h
      subst h
      exact .inl ⟨r, hr, .refl r⟩
  | cons entry users ih =>
      obtain ⟨t₁, h₁, hrest⟩ := foldlM_cons_eq_ok.mp h
      rcases ih hrest with ⟨o, ho, hsame⟩ | ⟨hnone, hrole, hsource, y, hy, hk⟩
      · -- it was there after the first upsert
        rcases upsert_origin h₁ ho with
          ⟨o', ho', hsame'⟩ | ⟨hnone, hrole, hsource, hk⟩
        · exact .inl ⟨o', ho', hsame'.trans hsame⟩
        · rw [← hsame.email] at hnone hk
          exact .inr ⟨hnone, hsame.role.trans hrole,
            hsame.source.trans hsource, entry, List.mem_cons_self, hk⟩
      · -- a row of that email would still be there
        refine .inr ⟨?_, hrole, hsource, y, List.mem_cons_of_mem _ hy, hk⟩
        rw [← Option.not_isSome_iff_eq_none] at hnone ⊢
        intro hsome
        exact hnone (upsert_keep h₁ hsome)

theorem departed_of_listed
    (h : (lastEntry ops (ops.citext r.email) users).isSome) :
    departed ops users r = false := by
  rw [departed_eq, Option.isNone_eq_false_iff.mpr h, Bool.and_false]

theorem overwriteAt_departed {all : Snapshot}
    (hx : (lastEntry ops (ops.citext v.email) all).isSome) (r : User) :
    departed ops all (overwriteAt ops v r) = departed ops all r := by
  by_cases hk : ops.citext r.email = ops.citext v.email
  · rw [departed_of_listed (r := r) (by rw [hk]; exact hx), departed_of_listed]
    rw [overwriteAt_email, hk]
    exact hx
  · rw [overwriteAt_of_ne hk]

/-- The upserts are of listed emails, so they neither add nor remove a
departed account. -/
theorem countP_departed_upserts {all : Snapshot}
    (h : users.foldlM (upsert ops now) t = .ok t')
    (hall : ∀ x ∈ users, (lastEntry ops (entryKey ops x.1) all).isSome) :
    t'.rows.countP (departed ops all) = t.rows.countP (departed ops all) := by
  induction users generalizing t with
  | nil => rw [foldlM_nil_eq_ok.mp h]
  | cons entry users ih =>
      obtain ⟨x, newId⟩ := entry
      obtain ⟨t₁, h₁, hrest⟩ := foldlM_cons_eq_ok.mp h
      obtain ⟨v, hv⟩ := upsert_stored h₁
      have hx : (lastEntry ops (ops.citext v.email) all).isSome := by
        rw [storedEntry_email hv]
        exact hall _ List.mem_cons_self
      rw [ih hrest fun y hy => hall y (List.mem_cons_of_mem _ hy)]
      simp only [upsert, hv] at h₁
      split at h₁
      · rw [UserTable.ofRows_eq_ok.mp h₁, List.countP_map]
        exact List.countP_congr fun r _ => by
          rw [Function.comp_apply, overwriteAt_departed hx]
      · have hnew : departed ops all (insertedRow v newId now) = false :=
          departed_of_listed hx
        rw [UserTable.ofRows_eq_ok.mp h₁, List.countP_append,
          List.countP_singleton, hnew]
        rfl

/-! ## §3  Upserts of emails that have a row -/

/-- What the upserts of a snapshot make of a row. -/
def rewritten (ops : TextOps) (users : Snapshot) (r : User) : User :=
  match (lastEntry ops (ops.citext r.email) users).bind (storedEntry ops) with
  | some v => overwrite v r
  | none => r

theorem overwrite_overwrite (v w : StoredEntry) (r : User) :
    overwrite v (overwrite w r) = overwrite v r := rfl

theorem rewritten_cons (hv : storedEntry ops x = some v)
    (hstored : ∀ y ∈ users, (storedEntry ops y.1).isSome) (r : User) :
    rewritten ops users (overwriteAt ops v r) =
      rewritten ops ((x, newId) :: users) r := by
  rw [rewritten, rewritten, overwriteAt_email]
  cases hl : lastEntry ops (ops.citext r.email) users with
  | some y =>
      obtain ⟨hy, -⟩ := lastEntry_mem hl
      obtain ⟨entry, hentry, rfl⟩ := List.mem_map.mp hy
      obtain ⟨w, hw⟩ := Option.isSome_iff_exists.mp (hstored entry hentry)
      rw [lastEntry_cons_of_some hl, Option.bind_some, hw]
      dsimp only
      unfold overwriteAt
      split
      · rw [overwrite_overwrite]
      · rfl
  | none =>
      by_cases hk : entryKey ops x = ops.citext r.email
      · rw [lastEntry_cons_of_none hl hk, Option.bind_some, hv, overwriteAt,
          if_pos (hk.symm.trans (storedEntry_email hv).symm)]
        rfl
      · have hne : ops.citext r.email ≠ ops.citext v.email := by
          rw [storedEntry_email hv]
          exact Ne.symm hk
        rw [lastEntry_cons_of_ne hk, hl, overwriteAt_of_ne hne]

theorem Admissible.stored {subs : PyStr → Option PyStr}
    (h : Admissible ops subs users) :
    ∀ y ∈ users, (storedEntry ops y.1).isSome := by
  induction users generalizing subs with
  | nil =>
      rintro y hy
      cases hy
  | cons entry users ih =>
      obtain ⟨v, hv, -, hrest⟩ := h
      rintro y hy
      rcases List.mem_cons.mp hy with rfl | hy
      · exact Option.isSome_of_eq_some hv
      · exact ih hrest y hy

/-- With a row for every email, no draw is used, and the upserts rewrite the
rows where they are. -/
theorem upserts_rewrite (hadm : Admissible ops t.subAt users)
    (hrow : ∀ y ∈ users, (t.byEmail (entryKey ops y.1)).isSome) :
    ∃ t', users.foldlM (upsert ops now) t = .ok t' ∧
      t'.rows = t.rows.map (rewritten ops users) := by
  induction users generalizing t with
  | nil =>
      refine ⟨t, rfl, ?_⟩
      exact (List.map_id t.rows).symm
  | cons entry users ih =>
      obtain ⟨x, newId⟩ := entry
      obtain ⟨v, hv, hfree, hrest⟩ := hadm
      rw [← storedEntry_email hv] at hfree
      obtain ⟨t₁, hrows⟩ : ∃ t₁ : UserTable ops,
          t₁.rows = t.rows.map (overwriteAt ops v) :=
        ⟨⟨_, uniqueRows_overwrite hfree⟩, rfl⟩
      have hsome : (t.byEmail (ops.citext v.email)).isSome := by
        rw [storedEntry_email hv]
        exact hrow _ List.mem_cons_self
      have h₁ : upsert ops now t (x, newId) = .ok t₁ := by
        simp only [upsert, hv]
        rw [if_pos hsome]
        exact UserTable.ofRows_eq_ok.mpr hrows
      have hkeep : ∀ y ∈ users, (t₁.byEmail (entryKey ops y.1)).isSome :=
        fun y hy => upsert_keep h₁ (hrow y (List.mem_cons_of_mem _ hy))
      have hstored := hrest.stored
      rw [← subAt_upsert hv h₁] at hrest
      obtain ⟨t', h, hrows'⟩ := ih hrest hkeep
      refine ⟨t', foldlM_cons_eq_ok.mpr ⟨t₁, h₁, h⟩, ?_⟩
      rw [hrows', hrows, List.map_map]
      exact List.map_congr_left fun r _ => rewritten_cons hv hstored r

/-! ## §4  The second run -/

theorem deactivate_of_listed
    (h : (lastEntry ops (ops.citext r.email) users).isSome) :
    deactivate ops users r = r := by
  rw [deactivate, departed_of_listed h]
  rfl

theorem departed_deactivate (r : User) :
    departed ops users (deactivate ops users r) = false := by
  unfold deactivate
  split
  · rw [departed, Bool.and_false, Bool.false_and]
  · rename_i h
    exact Bool.eq_false_iff.mpr h

variable {result : SyncResult}

/-- A synced row is as another run of the same upserts would make it. -/
theorem rewritten_synced
    (h : syncWorkspaceUsers ops now users t = .ok (t', result))
    (hr : r ∈ t'.rows) : rewritten ops users r = r := by
  obtain ⟨t₁, h₁, -, hrows, -⟩ := syncWorkspaceUsers_eq_ok.mp h
  rw [hrows] at hr
  obtain ⟨o, ho, rfl⟩ := List.mem_map.mp hr
  rw [rewritten, (sameAccount_deactivate o).email]
  cases hl : lastEntry ops (ops.citext o.email) users with
  | none => rfl
  | some x =>
      obtain ⟨v, hv, hholds⟩ := upserts_listed h₁ ho hl
      rw [Option.bind_some, hv,
        deactivate_of_listed (Option.isSome_of_eq_some hl)]
      exact overwrite_of_holds hholds

theorem SameListing.rewritten_eq (hs : SameListing users users') :
    rewritten ops users' = rewritten ops users := by
  funext r
  rw [rewritten, rewritten, hs.lastEntry_eq]

theorem SameListing.deactivate_eq (hs : SameListing users users') :
    deactivate ops users' = deactivate ops users := by
  funext r
  rw [deactivate, deactivate, hs.departed_eq]

theorem SameListing.keys (hs : SameListing users users') {y}
    (hy : y ∈ users') : ∃ x ∈ users, entryKey ops x.1 = entryKey ops y.1 := by
  have hmem : y.1 ∈ users'.map Prod.fst := List.mem_map_of_mem hy
  rw [hs] at hmem
  obtain ⟨x, hx, heq⟩ := List.mem_map.mp hmem
  exact ⟨x, hx, by rw [heq]⟩

/-- Every listed email has a row after a sync. -/
theorem synced_present
    (h : syncWorkspaceUsers ops now users t = .ok (t', result))
    {entry : WorkspaceUser × Uuid} (hx : entry ∈ users) :
    ∃ r ∈ t'.rows, ops.citext r.email = entryKey ops entry.1 := by
  obtain ⟨t₁, h₁, -, hrows, -⟩ := syncWorkspaceUsers_eq_ok.mp h
  obtain ⟨o, hb⟩ := Option.isSome_iff_exists.mp (upserts_present h₁ hx)
  obtain ⟨ho, hk⟩ := UserTable.byEmail_spec hb
  refine ⟨deactivate ops users o, ?_, ?_⟩
  · rw [hrows]
    exact List.mem_map_of_mem ho
  · rw [(sameAccount_deactivate o).email]
    exact hk

/-- Syncing the same listing again changes nothing, exactly when it goes
through. -/
theorem resync_iff (h : syncWorkspaceUsers ops now users t = .ok (t', result))
    (hs : SameListing users users') (now' : Timestamp) :
    syncWorkspaceUsers ops now' users' t' = .ok (t', ⟨users'.length, 0⟩) ↔
      Admissible ops t'.subAt users := by
  constructor
  · intro hagain
    obtain ⟨t₂, h₂, -⟩ := syncWorkspaceUsers_eq_ok.mp hagain
    exact hs.admissible_iff.mp (admissible_of_upserts h₂)
  · intro hadm
    obtain ⟨t₁, -, hlim, hrows, -⟩ := syncWorkspaceUsers_eq_ok.mp h
    have hrow : ∀ y ∈ users', (t'.byEmail (entryKey ops y.1)).isSome := by
      intro y hy
      obtain ⟨x, hx, hk⟩ := hs.keys hy
      obtain ⟨r, hr, hrk⟩ := synced_present h hx
      exact Option.isSome_of_eq_some
        (UserTable.byEmail_eq_some.mpr ⟨hr, hrk.trans hk⟩)
    obtain ⟨t₂, h₂, hrows₂⟩ : ∃ t₂, users'.foldlM (upsert ops now') t' =
        .ok t₂ ∧ t₂.rows = t'.rows.map (rewritten ops users') :=
      upserts_rewrite (hs.admissible_iff.mpr hadm) hrow
    have hsame : t₂.rows = t'.rows := by
      rw [hrows₂, hs.rewritten_eq]
      calc t'.rows.map (rewritten ops users) = t'.rows.map id :=
            List.map_congr_left fun r hr => rewritten_synced h hr
        _ = t'.rows := List.map_id _
    have hstays : ∀ r ∈ t'.rows, departed ops users r = false := by
      intro r hr
      rw [hrows] at hr
      obtain ⟨o, -, rfl⟩ := List.mem_map.mp hr
      exact departed_deactivate o
    refine syncWorkspaceUsers_eq_ok.mpr ⟨t₂, h₂, ?_, ?_, ?_⟩
    · rw [departedParameters, hs.activeEmails_eq]
      exact hlim
    · rw [hsame, hs.deactivate_eq]
      calc t'.rows = t'.rows.map id := (List.map_id _).symm
        _ = t'.rows.map (deactivate ops users) := by
            refine List.map_congr_left fun r hr => ?_
            rw [deactivate, hstays r hr]
            rfl
    · rw [hsame, hs.departed_eq, List.countP_eq_zero.mpr]
      intro r hr
      rw [hstays r hr]
      exact Bool.false_ne_true

/-- An entry lists the external id that a later one leaves on the row of
another email, one that no entry before it rewrites. -/
def HandsOn (ops : TextOps) (before : Snapshot) (x : WorkspaceUser)
    (after : Snapshot) : Prop :=
  ∃ k y, lastEntry ops k after = some y ∧ k ≠ entryKey ops x ∧
    lastEntry ops k before = none ∧
    y.externalId.storeVarchar 255 = x.externalId.storeVarchar 255

def HandedOn (ops : TextOps) (users : Snapshot) : Prop :=
  ∃ before x after, users = before ++ x :: after ∧
    HandsOn ops before x.1 after

theorem lastEntry_append_eq_none {users users' : Snapshot} :
    lastEntry ops k (users ++ users') = none ↔
      lastEntry ops k users = none ∧ lastEntry ops k users' = none := by
  simp only [lastEntry_eq_none, List.mem_append, or_imp, forall_and]

/-- External ids in the middle of a second run: what the first run had there
where an entry has been replayed, and its last entry's elsewhere. -/
def ReplaySubs (ops : TextOps) (pre rest : Snapshot)
    (first again : PyStr → Option PyStr) : Prop :=
  ∀ k, again k = if (lastEntry ops k pre).isSome then first k else
    match lastEntry ops k rest with
    | some y => y.externalId.storeVarchar 255
    | none => first k

theorem ReplaySubs.step {pre rest : Snapshot}
    {first again : PyStr → Option PyStr} (sub : Option PyStr)
    (h : ReplaySubs ops pre ((x, newId) :: rest) first again) :
    ReplaySubs ops (pre ++ [(x, newId)]) rest
      (Function.update first (entryKey ops x) sub)
      (Function.update again (entryKey ops x) sub) := by
  intro k
  by_cases hk : k = entryKey ops x
  · subst hk
    have hsome : (lastEntry ops (entryKey ops x)
        (pre ++ [(x, newId)])).isSome :=
      lastEntry_isSome.mpr ⟨(x, newId), by simp, rfl⟩
    rw [if_pos hsome, Function.update_self, Function.update_self]
  · rw [Function.update_of_ne hk, Function.update_of_ne hk, h k,
      lastEntry_cons_of_ne (Ne.symm hk)]
    have hpre : (lastEntry ops k (pre ++ [(x, newId)])).isSome ↔
        (lastEntry ops k pre).isSome := by
      rw [← not_iff_not, Option.not_isSome_iff_eq_none,
        Option.not_isSome_iff_eq_none, lastEntry_append_eq_none,
        and_iff_left_iff_imp]
      intro _
      rw [lastEntry_cons_of_ne (Ne.symm hk)]
      rfl
    simp only [hpre]

theorem replay_admissible_iff {pre rest : Snapshot}
    {first again : PyStr → Option PyStr}
    (hagain : ReplaySubs ops pre rest first again)
    (hfirst : Admissible ops first rest) :
    Admissible ops again rest ↔ ∀ mid x after, rest = mid ++ x :: after →
      ¬ HandsOn ops (pre ++ mid) x.1 after := by
  induction rest generalizing pre first again with
  | nil =>
      refine ⟨fun _ mid x after h => ?_, fun _ => trivial⟩
      cases mid <;> cases h
  | cons entry rest ih =>
      obtain ⟨x, newId⟩ := entry
      obtain ⟨v, hv, hfree, hrest⟩ := hfirst
      have hsub := storedEntry_googleSub hv
      have hih := ih (hagain.step (some v.googleSub)) hrest
      -- the rows that the second run has not reached
      have hturn : (∀ k, k ≠ entryKey ops x → again k ≠ some v.googleSub) ↔
          ¬ HandsOn ops pre x rest := by
        constructor
        · rintro hno ⟨k, y, hy, hk, hpre, hsame⟩
          refine hno k hk ?_
          rw [hagain k, hpre, lastEntry_cons_of_ne (Ne.symm hk), hy]
          exact hsame.trans hsub
        · intro hno k hk hs
          rw [hagain k, lastEntry_cons_of_ne (Ne.symm hk)] at hs
          split at hs
          · exact hfree k hk hs
          · rename_i hpre
            rw [Option.not_isSome_iff_eq_none] at hpre
            cases hy : lastEntry ops k rest with
            | none =>
                rw [hy] at hs
                exact hfree k hk hs
            | some y =>
                rw [hy] at hs
                exact hno ⟨k, y, hy, hk, hpre, hs.trans hsub.symm⟩
      constructor
      · rintro ⟨w, hw, hfree', hrest'⟩ mid y after heq
        obtain rfl : w = v := Option.some.inj (hw.symm.trans hv)
        cases mid with
        | nil =>
            cases heq
            rw [List.append_nil]
            exact hturn.mp hfree'
        | cons z mid =>
            cases heq
            rw [List.append_cons]
            exact hih.mp hrest' mid y after rfl
      · intro hno
        refine ⟨v, hv, hturn.mpr ?_, hih.mpr ?_⟩
        · have hhere := hno [] (x, newId) rest rfl
          rw [List.append_nil] at hhere
          exact hhere
        · rintro mid y after rfl
          rw [← List.append_cons]
          exact hno ((x, newId) :: mid) y after rfl

/-- The second run goes through unless an external id is handed on. -/
theorem resync_admissible_iff
    (h : syncWorkspaceUsers ops now users t = .ok (t', result)) :
    Admissible ops t'.subAt users ↔ ¬ HandedOn ops users := by
  obtain ⟨t₁, h₁, -, hrows, -⟩ := syncWorkspaceUsers_eq_ok.mp h
  have hsub : t'.subAt = t₁.subAt := UserTable.subAt_map hrows
    (fun r => (sameAccount_deactivate r).email) deactivate_googleSub
  have hagain : ReplaySubs ops [] users t.subAt t'.subAt := by
    intro k
    rw [hsub]
    exact subAt_upserts_last h₁
  rw [replay_admissible_iff hagain (admissible_of_upserts h₁)]
  constructor
  · rintro hno ⟨before, x, after, heq, hands⟩
    exact hno before x after heq hands
  · intro hno before x after heq hands
    exact hno ⟨before, x, after, heq, hands⟩

/-- Where external ids differ, none is handed on. -/
theorem not_handedOn
    (hids : (users.map fun x => x.1.externalId.storeVarchar 255).Nodup) :
    ¬ HandedOn ops users := by
  rintro ⟨before, x, after, rfl, k, y, hy, -, -, hsame⟩
  obtain ⟨hmem, -⟩ := lastEntry_mem hy
  obtain ⟨entry, hentry, rfl⟩ := List.mem_map.mp hmem
  rw [List.map_append, List.map_cons] at hids
  have htail := (List.nodup_append.mp hids).2.1
  rw [List.nodup_cons] at htail
  exact htail.1 (List.mem_map.mpr ⟨entry, hentry, hsame⟩)

/-! ## §5  The law -/

/-- The table mirrors the snapshot. -/
structure Mirrors (users : Snapshot) (t t' : UserTable ops)
    (result : SyncResult) : Prop where
  active : ∀ r ∈ t'.rows, r.source = .workspaceSync →
    (r.isActive = true ↔ ∃ x,
      lastEntry ops (ops.citext r.email) users = some x ∧
        x.suspended = false)
  listed : ∀ r ∈ t'.rows, ∀ x,
    lastEntry ops (ops.citext r.email) users = some x →
      r.displayName = x.displayName ∧ r.ouPath = some x.ouPath
  inserted : ∀ x ∈ users, t.byEmail (entryKey ops x.1) = none →
    ∃ r ∈ t'.rows, ops.citext r.email = entryKey ops x.1 ∧
      r.id ∉ t.rows.map User.id ∧ r.role = .user ∧ r.source = .workspaceSync
  kept : ∀ r ∈ t.rows, ∃ r' ∈ t'.rows, SameAccount r r'
  onlyListed : ∀ r' ∈ t'.rows, (∃ r ∈ t.rows, SameAccount r r') ∨
    ∃ x ∈ users, entryKey ops x.1 = ops.citext r'.email
  deactivated : result.deactivated = t.rows.countP fun r =>
    r.source == .workspaceSync && r.isActive &&
      (lastEntry ops (ops.citext r.email) users).isNone

/-- The columns take the names and paths of last entries as they are. -/
def TextsFit (ops : TextOps) (users : Snapshot) : Prop :=
  ∀ k x, lastEntry ops k users = some x →
    x.displayName.storeVarchar 255 = some x.displayName ∧
      x.ouPath.storeVarchar 1024 = some x.ouPath

theorem storedEntry_texts (hv : storedEntry ops x = some v) :
    x.displayName.storeVarchar 255 = some v.displayName ∧
      x.ouPath.storeVarchar 1024 = some v.ouPath := by
  obtain ⟨email, -, hv⟩ := Option.bind_eq_some_iff.mp hv
  obtain ⟨sub, -, hv⟩ := Option.bind_eq_some_iff.mp hv
  obtain ⟨name, hname, hv⟩ := Option.bind_eq_some_iff.mp hv
  obtain ⟨ou, hou, hv⟩ := Option.bind_eq_some_iff.mp hv
  cases hv
  exact ⟨hname, hou⟩

/-- A synced row of a listed email holds its last entry. -/
theorem synced_listed
    (h : syncWorkspaceUsers ops now users t = .ok (t', result))
    (hr : r ∈ t'.rows)
    (hx : lastEntry ops (ops.citext r.email) users = some x) :
    ∃ v, storedEntry ops x = some v ∧ Holds v r := by
  obtain ⟨t₁, h₁, -, hrows, -⟩ := syncWorkspaceUsers_eq_ok.mp h
  rw [hrows] at hr
  obtain ⟨o, ho, rfl⟩ := List.mem_map.mp hr
  rw [(sameAccount_deactivate o).email] at hx
  rw [deactivate_of_listed (Option.isSome_of_eq_some hx)]
  exact upserts_listed h₁ ho hx

theorem synced_active
    (h : syncWorkspaceUsers ops now users t = .ok (t', result))
    (hr : r ∈ t'.rows) (hsource : r.source = .workspaceSync) :
    r.isActive = true ↔ ∃ x,
      lastEntry ops (ops.citext r.email) users = some x ∧
        x.suspended = false := by
  cases hl : lastEntry ops (ops.citext r.email) users with
  | some x =>
      obtain ⟨v, hv, hholds⟩ := synced_listed h hr hl
      rw [hholds.isActive, storedEntry_isActive hv, Bool.not_eq_true']
      constructor
      · intro hx
        exact ⟨x, rfl, hx⟩
      · rintro ⟨y, hy, hsuspended⟩
        cases hy
        exact hsuspended
  | none =>
      -- unlisted and still active, it would have departed
      obtain ⟨t₁, -, -, hrows, -⟩ := syncWorkspaceUsers_eq_ok.mp h
      rw [hrows] at hr
      obtain ⟨o, -, rfl⟩ := List.mem_map.mp hr
      have hstays : departed ops users (deactivate ops users o) = false :=
        departed_deactivate o
      rw [departed_eq, hl, hsource] at hstays
      constructor
      · intro hactive
        rw [hactive] at hstays
        cases hstays
      · rintro ⟨x, hx, -⟩
        cases hx

theorem synced_origin
    (h : syncWorkspaceUsers ops now users t = .ok (t', result))
    (hr : r ∈ t'.rows) :
    (∃ o ∈ t.rows, SameAccount o r) ∨
      (t.byEmail (ops.citext r.email) = none ∧ r.role = .user ∧
        r.source = .workspaceSync ∧
        ∃ x ∈ users, entryKey ops x.1 = ops.citext r.email) := by
  obtain ⟨t₁, h₁, -, hrows, -⟩ := syncWorkspaceUsers_eq_ok.mp h
  rw [hrows] at hr
  obtain ⟨o, ho, rfl⟩ := List.mem_map.mp hr
  have hsame : SameAccount o (deactivate ops users o) :=
    sameAccount_deactivate o
  rcases upserts_origin h₁ ho with ⟨o', ho', hsame'⟩ | hnew
  · exact .inl ⟨o', ho', hsame'.trans hsame⟩
  · rw [← hsame.email, ← hsame.role, ← hsame.source] at hnew
    exact .inr hnew

theorem synced_inserted
    (h : syncWorkspaceUsers ops now users t = .ok (t', result))
    {entry : WorkspaceUser × Uuid} (hx : entry ∈ users)
    (hnone : t.byEmail (entryKey ops entry.1) = none) :
    ∃ r ∈ t'.rows, ops.citext r.email = entryKey ops entry.1 ∧
      r.id ∉ t.rows.map User.id ∧ r.role = .user ∧
      r.source = .workspaceSync := by
  obtain ⟨r, hr, hk⟩ := synced_present h hx
  have hnot : ∀ o ∈ t.rows, ops.citext o.email ≠ ops.citext r.email := by
    intro o ho heq
    rw [UserTable.byEmail_eq_some.mpr ⟨ho, heq.trans hk⟩] at hnone
    cases hnone
  rcases synced_origin h hr with ⟨o, ho, hsame⟩ | ⟨-, hrole, hsource, -⟩
  · exact absurd (by rw [hsame.email]) (hnot o ho)
  · refine ⟨r, hr, hk, ?_, hrole, hsource⟩
    intro hid
    obtain ⟨o, ho, hoid⟩ := List.mem_map.mp hid
    obtain ⟨o', ho', hsame, -⟩ := sync_row h ho
    have heq : o' = r :=
      UserTable.eq_of_id ho' hr (hsame.id.trans hoid)
    refine hnot o ho ?_
    rw [← heq, hsame.email]

theorem synced_deactivated
    (h : syncWorkspaceUsers ops now users t = .ok (t', result)) :
    result.deactivated = t.rows.countP fun r =>
      r.source == .workspaceSync && r.isActive &&
        (lastEntry ops (ops.citext r.email) users).isNone := by
  obtain ⟨t₁, h₁, -, -, rfl⟩ := syncWorkspaceUsers_eq_ok.mp h
  have hcount : t₁.rows.countP (departed ops users) =
      t.rows.countP (departed ops users) :=
    countP_departed_upserts h₁ fun x hx => lastEntry_isSome.mpr ⟨x, hx, rfl⟩
  rw [hcount]
  exact List.countP_congr fun r _ => by rw [departed_eq]

/-- The rows of listed emails show their last entries' texts exactly when the
columns take these as they are. -/
theorem synced_texts_iff
    (h : syncWorkspaceUsers ops now users t = .ok (t', result)) :
    (∀ r ∈ t'.rows, ∀ x,
      lastEntry ops (ops.citext r.email) users = some x →
        r.displayName = x.displayName ∧ r.ouPath = some x.ouPath) ↔
      TextsFit ops users := by
  constructor
  · intro hlisted k x hx
    obtain ⟨hmem, rfl⟩ := lastEntry_mem hx
    obtain ⟨entry, hentry, rfl⟩ := List.mem_map.mp hmem
    obtain ⟨r, hr, hk⟩ := synced_present h hentry
    rw [← hk] at hx
    obtain ⟨v, hv, hholds⟩ := synced_listed h hr hx
    obtain ⟨hname, hou⟩ := storedEntry_texts hv
    obtain ⟨hrname, hrou⟩ := hlisted r hr _ hx
    rw [hholds.ouPath, Option.some.injEq] at hrou
    rw [hholds.displayName] at hrname
    rw [hrname] at hname
    rw [hrou] at hou
    exact ⟨hname, hou⟩
  · intro hfit r hr x hx
    obtain ⟨v, hv, hholds⟩ := synced_listed h hr hx
    obtain ⟨hname, hou⟩ := storedEntry_texts hv
    obtain ⟨hxname, hxou⟩ := hfit _ x hx
    rw [hxname, Option.some.injEq] at hname
    rw [hxou, Option.some.injEq] at hou
    rw [hholds.displayName, hholds.ouPath, hname, hou]
    exact ⟨rfl, rfl⟩

/-- **Mirror.** A sync that goes through leaves a table that mirrors the
snapshot and that the same sync leaves as it is, exactly when no external id
is handed on within the snapshot and the columns take the last entries' texts
as they are. -/
theorem sync_mirrors_iff
    (h : syncWorkspaceUsers ops now users t = .ok (t', result)) :
    (Mirrors users t t' result ∧
      ∀ now' users', SameListing users users' →
        syncWorkspaceUsers ops now' users' t' =
          .ok (t', ⟨users'.length, 0⟩)) ↔
      ¬ HandedOn ops users ∧ TextsFit ops users := by
  rw [← synced_texts_iff h, ← resync_admissible_iff h]
  constructor
  · rintro ⟨hmirrors, hagain⟩
    exact ⟨(resync_iff h rfl now).mp (hagain now users rfl),
      hmirrors.listed⟩
  · rintro ⟨hadm, hlisted⟩
    refine ⟨?_, fun now' users' hs => (resync_iff h hs now').mpr hadm⟩
    exact {
      active := fun r hr => synced_active h hr
      listed := hlisted
      inserted := fun x hx => synced_inserted h hx
      kept := by
        intro r hr
        obtain ⟨r', hr', hsame, -⟩ := sync_row h hr
        exact ⟨r', hr', hsame⟩
      onlyListed := by
        intro r hr
        rcases synced_origin h hr with hold | ⟨-, -, -, hlisted⟩
        · exact .inl hold
        · exact .inr hlisted
      deactivated := synced_deactivated h }

/-- One user returns, one departs, one is new and listed twice. -/
def changedDirectory : Snapshot :=
  [directoryUser "g2" "b@x" 4, directoryUser "g3" "C@x" 5,
    directoryUser "g4" "c@x" 6]

def returningPair : UserTable asciiOps :=
  ⟨[⟨1, PyStr.lit "a@x", some (PyStr.lit "g1"), [], none, .user, true,
      .workspaceSync, 0, none⟩,
    ⟨2, PyStr.lit "b@x", some (PyStr.lit "g2"), [], none, .superAdmin, false,
      .workspaceSync, 0, none⟩], by decide⟩

theorem ok_of_isOk {users : Snapshot} {t : UserTable asciiOps}
    (h : (match syncWorkspaceUsers asciiOps 0 users t with
      | .ok _ => true
      | .error _ => false) = true) :
    ∃ t' result, syncWorkspaceUsers asciiOps 0 users t = .ok (t', result) := by
  cases hs : syncWorkspaceUsers asciiOps 0 users t with
  | ok out => exact ⟨out.1, out.2, rfl⟩
  | error e =>
      rw [hs] at h
      cases h

theorem changed_directory_mirrored :
    ∃ t' result, syncWorkspaceUsers asciiOps 0 changedDirectory returningPair =
        .ok (t', result) ∧
      Mirrors changedDirectory returningPair t' result ∧
      ∀ now' users', SameListing changedDirectory users' →
        syncWorkspaceUsers asciiOps now' users' t' =
          .ok (t', ⟨users'.length, 0⟩) := by
  obtain ⟨t', result, h⟩ : ∃ t' result, syncWorkspaceUsers asciiOps 0
      changedDirectory returningPair = .ok (t', result) :=
    ok_of_isOk (by decide)
  have hfit : TextsFit asciiOps changedDirectory := by
    intro k x hx
    obtain ⟨hmem, -⟩ := lastEntry_mem hx
    have hall : ∀ x ∈ changedDirectory.map Prod.fst,
        x.displayName.storeVarchar 255 = some x.displayName ∧
          x.ouPath.storeVarchar 1024 = some x.ouPath := by decide
    exact hall x hmem
  exact ⟨t', result, h,
    (sync_mirrors_iff h).mpr ⟨not_handedOn (by decide), hfit⟩⟩

/-- The first user was renamed, and another got the address, while the pages
were read. -/
def handedOnDirectory : Snapshot :=
  [directoryUser "g1" "a@x" 1, directoryUser "g2" "a@x" 2,
    directoryUser "g1" "b@x" 3]

def noUsers : UserTable asciiOps := ⟨[], .nil⟩

/-- The sync goes through once, and never again: at its turn, the first entry
finds its external id on the row that the third has left. -/
theorem handed_on_stops_second_sync :
    ∃ t' result, syncWorkspaceUsers asciiOps 0 handedOnDirectory noUsers =
        .ok (t', result) ∧
      ∀ now' users', SameListing handedOnDirectory users' →
        ¬ ∃ t'' again, syncWorkspaceUsers asciiOps now' users' t' =
          .ok (t'', again) := by
  obtain ⟨t', result, h⟩ : ∃ t' result, syncWorkspaceUsers asciiOps 0
      handedOnDirectory noUsers = .ok (t', result) :=
    ok_of_isOk (by decide)
  refine ⟨t', result, h, ?_⟩
  rintro now' users' hs ⟨t'', again, hagain⟩
  obtain ⟨t₂, h₂, -⟩ := syncWorkspaceUsers_eq_ok.mp hagain
  have hadm := hs.admissible_iff.mp (admissible_of_upserts h₂)
  refine (resync_admissible_iff h).mp hadm ?_
  exact ⟨[], directoryUser "g1" "a@x" 1, _, rfl, PyStr.lit "b@x",
    (directoryUser "g1" "b@x" 3).1, by decide, by decide, rfl, by decide⟩

end LeakcheckHub.Accounts
