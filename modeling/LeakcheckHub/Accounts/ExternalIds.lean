import LeakcheckHub.Accounts.DirectorySync

/-!
# External ids

Whether a sync leaves every directory user's external id on one row, that of
their email: the one collision the upsert does not resolve is an external id
that another email still holds.
-/

set_option linter.unusedSectionVars false

namespace LeakcheckHub.Accounts

open Foundation

variable {ops : TextOps} {now : Timestamp} {t t' : UserTable ops}
  {users : Snapshot} {x : WorkspaceUser} {v : StoredEntry}

theorem storedEntry_googleSub (hv : storedEntry ops x = some v) :
    x.externalId.storeVarchar 255 = some v.googleSub :=
  (storedEntry_spec hv).2.1

/-- The last entry's external id is the one on the row of its email. -/
theorem subAt_upserts_last {k : PyStr}
    (h : users.foldlM (upsert ops now) t = .ok t') :
    t'.subAt k = match lastEntry ops k users with
      | some x => x.externalId.storeVarchar 255
      | none => t.subAt k := by
  induction users generalizing t with
  | nil =>
      rw [foldlM_nil_eq_ok.mp h]
      rfl
  | cons entry users ih =>
      obtain ⟨x, newId⟩ := entry
      obtain ⟨t₁, h₁, hrest⟩ := foldlM_cons_eq_ok.mp h
      obtain ⟨v, hv⟩ := upsert_stored h₁
      rw [ih hrest]
      cases hl : lastEntry ops k users with
      | some y => rw [lastEntry_cons_of_some hl]
      | none =>
          dsimp only
          by_cases hk : entryKey ops x = k
          · rw [lastEntry_cons_of_none hl hk, subAt_upsert hv h₁, ← hk,
              Function.update_self]
            exact (storedEntry_googleSub hv).symm
          · rw [lastEntry_cons_of_ne hk, hl, subAt_upsert hv h₁,
              Function.update_of_ne (Ne.symm hk)]

theorem subAt_upserts (h : users.foldlM (upsert ops now) t = .ok t')
    {k : PyStr} (hk : ∀ x ∈ users, entryKey ops x.1 ≠ k) :
    t'.subAt k = t.subAt k := by
  rw [subAt_upserts_last h, lastEntry_eq_none.mpr hk]

/-- Where no two entries share an email, each one's external id survives the
later upserts. -/
theorem subAt_upserts_of_mem (h : users.foldlM (upsert ops now) t = .ok t')
    (hkeys : (users.map fun x => entryKey ops x.1).Nodup) {x : WorkspaceUser}
    (hx : x ∈ users.map Prod.fst) :
    ∃ v, storedEntry ops x = some v ∧
      t'.subAt (entryKey ops x) = some v.googleSub := by
  induction users generalizing t with
  | nil => cases hx
  | cons entry users ih =>
      obtain ⟨y, newId⟩ := entry
      obtain ⟨t₁, h₁, hrest⟩ := foldlM_cons_eq_ok.mp h
      rw [List.map_cons, List.nodup_cons] at hkeys
      rcases List.mem_cons.mp hx with rfl | hx
      · obtain ⟨v, hv⟩ := upsert_stored h₁
        refine ⟨v, hv, ?_⟩
        have hlater : ∀ z ∈ users, entryKey ops z.1 ≠ entryKey ops x :=
          fun z hz heq => hkeys.1 (List.mem_map.mpr ⟨z, hz, heq⟩)
        rw [subAt_upserts hrest hlater, subAt_upsert hv h₁,
          Function.update_self]
      · exact ih hrest hkeys.2 hx

/-- The columns take the entry as it is. -/
def StoredExactly (ops : TextOps) (x : WorkspaceUser) : Prop :=
  (storedEntry ops x).isSome ∧
    x.externalId.storeVarchar 255 = some x.externalId

instance : Decidable (StoredExactly ops x) :=
  inferInstanceAs (Decidable (_ ∧ _))

/-- Whoever holds the external id of an entry has the entry's email, or that
of an entry before it. -/
def HoldersListed (subs : PyStr → Option PyStr) (ops : TextOps)
    (users : Snapshot) : Prop :=
  ∀ before x after, users = before ++ x :: after →
    ∀ k, subs k = some x.1.externalId →
      k = entryKey ops x.1 ∨ ∃ y ∈ before, entryKey ops y.1 = k

theorem admissible_iff {subs : PyStr → Option PyStr}
    (hids : (users.map fun x => x.1.externalId).Nodup)
    (hexact : ∀ x ∈ users, StoredExactly ops x.1) :
    Admissible ops subs users ↔ HoldersListed subs ops users := by
  induction users generalizing subs with
  | nil =>
      refine ⟨fun _ before x after h => ?_, fun _ => trivial⟩
      cases before <;> cases h
  | cons entry users ih =>
      obtain ⟨x, newId⟩ := entry
      rw [List.map_cons, List.nodup_cons] at hids
      obtain ⟨hstored, hsub⟩ := hexact _ List.mem_cons_self
      obtain ⟨v, hv⟩ := Option.isSome_iff_exists.mp hstored
      have hgoogle : v.googleSub = x.externalId := by
        rw [storedEntry_googleSub hv, Option.some.injEq] at hsub
        exact hsub
      have hrest : ∀ y ∈ users, StoredExactly ops y.1 := fun y hy =>
        hexact y (List.mem_cons_of_mem _ hy)
      constructor
      · rintro ⟨v', hv', hfree, htail⟩ before y after heq k hk
        rw [hv, Option.some.injEq] at hv'
        subst hv'
        cases before with
        | nil =>
            cases heq
            by_contra hne
            rw [not_or] at hne
            exact hfree k hne.1 (hgoogle ▸ hk)
        | cons z before =>
            cases heq
            by_cases hkx : k = entryKey ops x
            · exact .inr ⟨_, List.mem_cons_self, hkx.symm⟩
            · -- the first entry has not touched the row of `k`
              rcases (ih hids.2 hrest).mp htail before y after rfl k
                (by rw [Function.update_of_ne hkx]; exact hk)
                with hky | ⟨w, hw, hwk⟩
              · exact .inl hky
              · exact .inr ⟨w, List.mem_cons_of_mem _ hw, hwk⟩
      · intro hlisted
        refine ⟨v, hv, ?_, (ih hids.2 hrest).mpr ?_⟩
        · intro k hk hs
          rw [hgoogle] at hs
          rcases hlisted [] (x, newId) users rfl k hs with hkx | ⟨w, hw, -⟩
          · exact hk hkx
          · cases hw
        · -- the row the first entry has written holds its own external id,
          -- which no later entry has
          rintro before y after rfl k hk
          have hkx : k ≠ entryKey ops x := by
            rintro rfl
            rw [Function.update_self, Option.some.injEq, hgoogle] at hk
            refine hids.1 (List.mem_map.mpr ⟨y, ?_, hk.symm⟩)
            exact List.mem_append_right _ List.mem_cons_self
          rw [Function.update_of_ne hkx] at hk
          rcases hlisted ((x, newId) :: before) y after rfl k hk
            with hky | ⟨w, hw, hwk⟩
          · exact .inl hky
          · rcases List.mem_cons.mp hw with rfl | hw
            · exact absurd hwk.symm hkx
            · exact .inr ⟨w, hw, hwk⟩

/-- Exactly one row holds the external id of `x`, and its email is that of
`x`. -/
def Linked (t : UserTable ops) (x : WorkspaceUser) : Prop :=
  (∃! r, r ∈ t.rows ∧ r.googleSub = some x.externalId) ∧
    ∀ r ∈ t.rows, r.googleSub = some x.externalId →
      ops.citext r.email = entryKey ops x

theorem linked_iff {x : WorkspaceUser} :
    Linked t x ↔ t.subAt (entryKey ops x) = some x.externalId := by
  rw [UserTable.subAt_eq_some]
  constructor
  · rintro ⟨⟨r, ⟨hr, hs⟩, -⟩, hemail⟩
    exact ⟨r, hr, hemail r hr hs, hs⟩
  · rintro ⟨r, hr, hk, hs⟩
    refine ⟨⟨r, ⟨hr, hs⟩, ?_⟩, ?_⟩
    · rintro r' ⟨hr', hs'⟩
      exact UserTable.eq_of_sub hr' hr hs' hs
    · intro r' hr' hs'
      rw [UserTable.eq_of_sub hr' hr hs' hs]
      exact hk

/-- **External ids.** A sync links every directory user exactly when emails
differ as the table compares them, every entry is stored as it is, the last
statement can bind all emails, and nobody but an entry's own row, or one that
the sync has rewritten by then, holds its external id. -/
theorem sync_links_iff (hf : FreshDraws t users)
    (hids : (users.map fun x => x.1.externalId).Nodup) :
    (∃ t' result, syncWorkspaceUsers ops now users t = .ok (t', result) ∧
      ∀ x ∈ users, Linked t' x.1) ↔
      (users.map fun x => entryKey ops x.1).Nodup ∧
      (∀ x ∈ users, StoredExactly ops x.1) ∧
      departedParameters ops users ≤ bindLimit ∧
      HoldersListed t.subAt ops users := by
  constructor
  · rintro ⟨t', result, h, hlinked⟩
    obtain ⟨t₁, h₁, hlim, hrows, -⟩ := syncWorkspaceUsers_eq_ok.mp h
    have hsub : t'.subAt = t₁.subAt := UserTable.subAt_map hrows
      (fun r => (sameAccount_deactivate r).email) deactivate_googleSub
    -- two entries of one row would give it two external ids
    have hkeys : (users.map fun x => entryKey ops x.1).Nodup := by
      refine List.Nodup.of_map t'.subAt ?_
      have hmap : (users.map fun x => entryKey ops x.1).map t'.subAt =
          (users.map fun x => x.1.externalId).map some := by
        rw [List.map_map, List.map_map]
        exact List.map_congr_left fun x hx => linked_iff.mp (hlinked x hx)
      rw [hmap]
      exact hids.map fun _ _ h => Option.some.inj h
    have hexact : ∀ x ∈ users, StoredExactly ops x.1 := by
      intro x hx
      obtain ⟨v, hv, hs⟩ :=
        subAt_upserts_of_mem h₁ hkeys (List.mem_map_of_mem hx)
      refine ⟨Option.isSome_of_eq_some hv, ?_⟩
      rw [storedEntry_googleSub hv, ← hs, ← hsub, linked_iff.mp (hlinked x hx)]
    refine ⟨hkeys, hexact, hlim, (admissible_iff hids hexact).mp ?_⟩
    exact admissible_of_upserts h₁
  · rintro ⟨hkeys, hexact, hlim, hlisted⟩
    have hadm := (admissible_iff hids hexact).mpr hlisted
    obtain ⟨t', result, h⟩ := (sync_ok_iff now hf).mpr ⟨hadm, hlim⟩
    refine ⟨t', result, h, fun x hx => linked_iff.mpr ?_⟩
    obtain ⟨t₁, h₁, -, hrows, -⟩ := syncWorkspaceUsers_eq_ok.mp h
    obtain ⟨v, hv, hs⟩ :=
      subAt_upserts_of_mem h₁ hkeys (List.mem_map_of_mem hx)
    rw [UserTable.subAt_map hrows
      (fun r => (sameAccount_deactivate r).email) deactivate_googleSub, hs,
      ← storedEntry_googleSub hv]
    exact (hexact x hx).2

/-- Two accounts that an earlier sync linked. -/
def linkedPair : UserTable asciiOps :=
  ⟨[⟨1, PyStr.lit "a@x", some (PyStr.lit "g1"), [], none, .user, true,
      .workspaceSync, 0, none⟩,
    ⟨2, PyStr.lit "b@x", some (PyStr.lit "g2"), [], none, .user, true,
      .workspaceSync, 0, none⟩], by decide⟩

def directoryUser (externalId email : String) (newId : Uuid) :
    WorkspaceUser × Uuid :=
  (⟨PyStr.lit externalId, PyStr.lit email, [], PyStr.lit "/", false⟩, newId)

/-- The same two users and a new one. -/
def unchangedDirectory : Snapshot :=
  [directoryUser "g1" "a@x" 3, directoryUser "g2" "b@x" 4,
    directoryUser "g3" "c@x" 5]

theorem unchanged_directory_links :
    ∃ t' result, syncWorkspaceUsers asciiOps 0 unchangedDirectory linkedPair =
        .ok (t', result) ∧
      ∀ x ∈ unchangedDirectory, Linked t' x.1 := by
  have hf : FreshDraws linkedPair unchangedDirectory :=
    ⟨by decide, by decide⟩
  have hown : ∀ x ∈ unchangedDirectory, ∀ r ∈ linkedPair.rows,
      r.googleSub = some x.1.externalId →
        asciiOps.citext r.email = entryKey asciiOps x.1 := by decide
  have hlisted :
      HoldersListed linkedPair.subAt asciiOps unchangedDirectory := by
    intro before x after heq k hk
    have hx : x ∈ unchangedDirectory := by
      rw [heq]
      exact List.mem_append_right _ List.mem_cons_self
    obtain ⟨r, hr, hrk, hs⟩ := UserTable.subAt_eq_some.mp hk
    exact .inl (hrk.symm.trans (hown x hx r hr hs))
  exact (sync_links_iff hf (by decide)).mpr
    ⟨by decide, by decide, by decide, hlisted⟩

/-- The first user was renamed. -/
def renamedDirectory : Snapshot :=
  [directoryUser "g1" "c@x" 3, directoryUser "g2" "b@x" 4]

/-- The two users swapped addresses. -/
def swappedDirectory : Snapshot :=
  [directoryUser "g2" "a@x" 3, directoryUser "g1" "b@x" 4]

/-- Ids and emails are distinct, and yet the sync does not go through. -/
def Stops (t : UserTable asciiOps) (users : Snapshot) : Prop :=
  (users.map fun x => x.1.externalId).Nodup ∧
    (users.map fun x => entryKey asciiOps x.1).Nodup ∧
    FreshDraws t users ∧
    ¬ ∃ t' result, syncWorkspaceUsers asciiOps 0 users t = .ok (t', result)

theorem not_ok_of_uniqueViolation {users : Snapshot} {t : UserTable asciiOps}
    (h : (match syncWorkspaceUsers asciiOps 0 users t with
      | .ok _ => false
      | .error e => e = .uniqueViolation) = true) :
    ¬ ∃ t' result, syncWorkspaceUsers asciiOps 0 users t =
      .ok (t', result) := by
  rintro ⟨t', result, hok⟩
  rw [hok] at h
  cases h

theorem renamed_user_stops_sync :
    Stops linkedPair renamedDirectory ∧ Stops linkedPair swappedDirectory :=
  ⟨⟨by decide, by decide, ⟨by decide, by decide⟩,
      not_ok_of_uniqueViolation (by decide)⟩,
    ⟨by decide, by decide, ⟨by decide, by decide⟩,
      not_ok_of_uniqueViolation (by decide)⟩⟩

end LeakcheckHub.Accounts
