import LeakcheckHub.Accounts.DirectorySync
import LeakcheckHub.Analyst.FindingViews
import LeakcheckHub.Findings.SelfReference
import LeakcheckHub.Settings.Consumers

/-!
# Purges as the settings say

`purge_expired_findings` of `app/retention.py` with the policy it loads, called
again and again on the same rows. Its statements bind one parameter a finding,
and the driver sends at most 32767.

§1 the call · §2 which settings delete · §3 one call · §4 repetition ·
§5 the law · §6 calls that raise.
-/

namespace LeakcheckHub.Findings.Configured

open Foundation
open Outbox (Settings TextTables)
open Settings (keepEverything loadPolicy modeOf modeText)

/-! ## §1  The call -/

section Call

variable (tables : TextTables) (values : Settings) (now : Timestamp) (limit : ℤ)

/-- `none` where the select would not return these ids. `LIMIT` takes a bigint
and none that is negative. -/
def purgeExpiredFindings (ids : List Uuid) (s : FindingStore) :
    Option (Except IngestError (FindingStore × ℕ)) :=
  let policy := loadPolicy tables values
  if policy.deletesAnything then
    match policy.cutoff now with
    | none => some (.error .noCutoff)
    | some cutoff =>
        if limit < 0 ∨ 2 ^ 63 ≤ limit then
          some (.error (.database .badInteger))
        else if Selectable s cutoff limit.toNat ids then
          if bindLimit < ids.length then
            some (.error (.database .tooManyParameters))
          else some ((s.purge ids).map fun s' => (s', ids.length))
        else none
  else some (.ok (s, 0))

/-- Calls with the same settings at the same time. An exception leaves no
trace. -/
def purges : System FindingStore (List Uuid) where
  init _ := True
  step s ids := (purgeExpiredFindings tables values now limit ids s).map fun
    | .ok (s', _) => s'
    | .error _ => s

/-- The calls are counted. -/
def countedPurges : System (Recorded FindingStore ℕ) (List Uuid) :=
  (purges tables values now limit).record 0 fun _ calls _ => calls + 1

end Call

/-! ## §2  Which settings delete -/

/-- The settings name a policy that deletes: `none` with no days or with any
number of them, or `days` with at least one. -/
inductive Deleting (tables : TextTables) (values : Settings) :
    RetentionPolicy → Prop
  | immediate {text : PyStr} {days : Option ℤ}
      (hmode : values .retentionMode = some text)
      (hstrip : text.strip = PyStr.lit "none")
      (hdays : (values .retentionDays).map (PyStr.toInt tables.decimal) =
        days.map some) : Deleting tables values ⟨.immediate, days⟩
  | days {text : PyStr} {n : ℤ} (hmode : values .retentionMode = some text)
      (hstrip : text.strip = PyStr.lit "days")
      (hdays : (values .retentionDays).map (PyStr.toInt tables.decimal) =
        some (some n)) (hn : 1 ≤ n) : Deleting tables values ⟨.days, some n⟩

variable {tables : TextTables} {values : Settings} {now cutoff : Timestamp}
  {limit : ℤ} {ids : List Uuid} {s s' : FindingStore} {p : RetentionPolicy}
  {out : Except IngestError (FindingStore × ℕ)}

/-- A stored text that is not blank is what is stripped. -/
theorem stored_of_strip {text : PyStr} {mode : String}
    (hmode : values .retentionMode = some text)
    (hstrip : text.strip = PyStr.lit mode) (hne : PyStr.lit mode ≠ []) :
    ((values .retentionMode).filter fun text => !text.isEmpty).getD
      (modeText .indefinite) = text := by
  have htext : text ≠ [] := by
    rintro rfl
    exact hne hstrip.symm
  rw [hmode, Option.filter_some, if_pos, Option.getD_some]
  rw [Bool.not_eq_true', List.isEmpty_eq_false_iff]
  exact htext

theorem loadPolicy_of_deleting (h : Deleting tables values p) :
    loadPolicy tables values = p := by
  unfold loadPolicy
  cases h with
  | @immediate text days hmode hstrip hdays =>
      have hmodeOf : modeOf (PyStr.lit "none") = some .immediate := by decide
      rw [stored_of_strip hmode hstrip (by decide), hdays]
      dsimp only
      rw [hstrip, hmodeOf]
      cases days with
      | none => rfl
      | some n => rfl
  | @days text n hmode hstrip hdays hn =>
      have hmodeOf : modeOf (PyStr.lit "days") = some .days := by decide
      rw [stored_of_strip hmode hstrip (by decide), hdays]
      dsimp only
      rw [hstrip, hmodeOf]
      refine if_neg ?_
      simpa using hn

theorem modeText_of_modeOf {text : PyStr} {mode : RetentionMode}
    (h : modeOf text = some mode) : text = modeText mode := by
  have hfound := List.find?_some h
  exact (beq_iff_eq.mp hfound).symm

/-- What is stripped is the stored text, unless keeping everything is what is
stripped. -/
theorem mode_of_strip {mode : RetentionMode} (hne : mode ≠ .indefinite)
    (h : modeOf (((values .retentionMode).filter fun text =>
      !text.isEmpty).getD (modeText .indefinite)).strip = some mode) :
    ∃ text, values .retentionMode = some text ∧ text.strip = modeText mode := by
  cases hfilter : (values .retentionMode).filter fun text => !text.isEmpty with
  | none =>
      rw [hfilter] at h
      have hdefault : modeOf (modeText .indefinite).strip = some .indefinite := by
        decide
      rw [Option.getD_none, hdefault, Option.some.injEq] at h
      exact absurd h.symm hne
  | some text =>
      rw [hfilter] at h
      exact ⟨text, (Option.filter_eq_some_iff.mp hfilter).1,
        modeText_of_modeOf h⟩

theorem deleting_of_loadPolicy
    (h : (loadPolicy tables values).deletesAnything = true) :
    Deleting tables values (loadPolicy tables values) := by
  unfold loadPolicy at h ⊢
  dsimp only at h ⊢
  split at h
  · cases h
  · rename_i mode hmode
    split at h
    · cases h
    · rename_i hreadable
      generalize hdays : (values .retentionDays).map
        (PyStr.toInt tables.decimal) = parsed at h hreadable ⊢
      split at h
      · cases h
      · rename_i hguard
        rw [if_neg hguard]
        cases mode with
        | indefinite => cases h
        | immediate =>
            obtain ⟨text, hstored, hstrip⟩ := mode_of_strip (by decide) hmode
            refine .immediate hstored hstrip (hdays.trans ?_)
            rcases parsed with _ | _ | n
            · rfl
            · exact (hreadable rfl).elim
            · rfl
        | days =>
            obtain ⟨text, hstored, hstrip⟩ := mode_of_strip (by decide) hmode
            rcases parsed with _ | _ | n
            · exact absurd rfl hguard
            · exact (hreadable rfl).elim
            · refine .days hstored hstrip hdays ?_
              simpa using hguard

/-! ## §3  One call -/

theorem purge_of_not_deleting (h : ∀ p, ¬ Deleting tables values p) :
    purgeExpiredFindings tables values now limit ids s = some (.ok (s, 0)) := by
  unfold purgeExpiredFindings
  dsimp only
  rw [if_neg fun hdel => h _ (deleting_of_loadPolicy hdel)]

theorem Deleting.deletesAnything (h : Deleting tables values p) :
    p.deletesAnything = true := by
  cases h with
  | immediate => rfl
  | days => rfl

theorem purge_of_no_cutoff (h : Deleting tables values p)
    (hcut : p.cutoff now = none) :
    purgeExpiredFindings tables values now limit ids s =
      some (.error .noCutoff) := by
  unfold purgeExpiredFindings
  dsimp only
  rw [loadPolicy_of_deleting h, if_pos h.deletesAnything, hcut]

theorem purge_of_cutoff (h : Deleting tables values p)
    (hcut : p.cutoff now = some cutoff) :
    purgeExpiredFindings tables values now limit ids s =
      if limit < 0 ∨ 2 ^ 63 ≤ limit then some (.error (.database .badInteger))
      else if Selectable s cutoff limit.toNat ids then
        if bindLimit < ids.length then
          some (.error (.database .tooManyParameters))
        else some ((s.purge ids).map fun s' => (s', ids.length))
      else none := by
  unfold purgeExpiredFindings
  dsimp only
  rw [loadPolicy_of_deleting h, if_pos h.deletesAnything, hcut]

/-- Where the server takes the limit and the driver the ids, a call is a purge
of the ledger that counts its rows. -/
theorem purgeExpiredFindings_eq (hlimit : ¬ (limit < 0 ∨ 2 ^ 63 ≤ limit))
    (hids : ids.length ≤ bindLimit) :
    (purgeExpiredFindings tables values now limit ids s).map
        (Except.map Prod.fst) =
      Findings.purgeExpiredFindings (loadPolicy tables values) now limit.toNat
        ids s := by
  unfold purgeExpiredFindings Findings.purgeExpiredFindings
  dsimp only
  by_cases hdel : (loadPolicy tables values).deletesAnything = true
  · rw [if_pos hdel, if_pos hdel]
    cases (loadPolicy tables values).cutoff now with
    | none => rfl
    | some cutoff =>
        dsimp only
        rw [if_neg hlimit, if_neg (Nat.not_lt.mpr hids)]
        by_cases hselect : Selectable s cutoff limit.toNat ids
        · rw [if_pos hselect, if_pos hselect]
          cases s.purge ids <;> rfl
        · rw [if_neg hselect, if_neg hselect]
          rfl
  · rw [if_neg hdel, if_neg hdel]
    rfl

/-- Outside of these bounds it selects nothing or raises. -/
theorem purge_out_of_bounds {out : Except IngestError (FindingStore × ℕ)}
    (hbounds : (limit < 0 ∨ 2 ^ 63 ≤ limit) ∨ bindLimit < ids.length)
    (hout : purgeExpiredFindings tables values now limit ids s = some out) :
    out = .ok (s, 0) ∨ ∃ e, out = .error e := by
  unfold purgeExpiredFindings at hout
  dsimp only at hout
  split at hout
  · split at hout
    · cases hout
      exact .inr ⟨_, rfl⟩
    · split at hout
      · cases hout
        exact .inr ⟨_, rfl⟩
      · rename_i hlimit
        split at hout
        · rw [if_pos (hbounds.resolve_left hlimit)] at hout
          cases hout
          exact .inr ⟨_, rfl⟩
        · cases hout
  · cases hout
    exact .inl rfl

/-- **Refinement.** What a call does to the store, a purge of the ledger with the
loaded policy does, or nothing is done. -/
theorem purges_refine (env : Env)
    (h : (purges tables values now limit).step s ids = some s') :
    s' = s ∨ (ledger env).step s
      (.purge (loadPolicy tables values) now limit.toNat ids) = some s' := by
  obtain ⟨out, hout, hs⟩ := Option.map_eq_some_iff.mp h
  by_cases hbounds : (limit < 0 ∨ 2 ^ 63 ≤ limit) ∨ bindLimit < ids.length
  · left
    rcases purge_out_of_bounds hbounds hout with rfl | ⟨e, rfl⟩
    · exact hs.symm
    · exact hs.symm
  · right
    obtain ⟨hlimit, hids⟩ := not_or.mp hbounds
    have heq : (purgeExpiredFindings tables values now limit ids s).map
        (Except.map Prod.fst) = Findings.purgeExpiredFindings
          (loadPolicy tables values) now limit.toNat ids s :=
      purgeExpiredFindings_eq hlimit (Nat.not_lt.mp hids)
    rw [hout, Option.map_some] at heq
    show (Findings.purgeExpiredFindings _ _ _ _ _).map _ = _
    rw [← heq, Option.map_some, ← hs]
    cases out <;> rfl

/-- The limit is a bigint, and no more rows are selected than the driver sends
parameters. -/
structure Allowed (limit : ℤ) (n : ℕ) : Prop where
  nonneg : 0 ≤ limit
  bigint : limit < 2 ^ 63
  bound : min limit.toNat n ≤ bindLimit

theorem Allowed.of_le {n m : ℕ} (h : Allowed limit n) (hle : m ≤ n) :
    Allowed limit m :=
  ⟨h.nonneg, h.bigint, (min_le_min_left _ hle).trans h.bound⟩

/-- Some eligible findings are gone with their events, as many as there are up
to the limit, and nothing else has changed. -/
structure Purged (s : FindingStore) (cutoff : Timestamp) (limit : ℕ)
    (ids : List Uuid) (s' : FindingStore) : Prop where
  chosen : Selection ((s.eligible cutoff).map Finding.id) limit ids
  findings : s'.findings = s.findings.filter fun f => decide (f.id ∉ ids)
  events : s'.events = s.events.filter fun e => decide (e.findingId ∉ ids)
  sources : s'.sources = s.sources

theorem purged_of_purge {n : ℕ} (hids : Selectable s cutoff n ids)
    (h : s.purge ids = .ok s') : Purged s cutoff n ids s' := by
  obtain ⟨hfindings, hevents, hsources⟩ := purge_rows h
  exact ⟨selectable_iff.mp hids, hfindings, hevents, hsources⟩

/-- **Step lemma.** A call that may delete what it selects does so, and returns
how many findings that were. -/
theorem purge_call (h : Deleting tables values p)
    (hcut : p.cutoff now = some cutoff)
    (hallowed : Allowed limit (s.eligible cutoff).length)
    (hout : purgeExpiredFindings tables values now limit ids s = some out)
    (href : LeavesNoReference s ids) :
    ∃ s', out = .ok (s', min limit.toNat (s.eligible cutoff).length) ∧
      Purged s cutoff limit.toNat ids s' := by
  have hrange : ¬ (limit < 0 ∨ 2 ^ 63 ≤ limit) := by
    have hnonneg := hallowed.nonneg
    have hbigint := hallowed.bigint
    omega
  rw [purge_of_cutoff h hcut, if_neg hrange] at hout
  split at hout
  · rename_i hids
    have hlength := (selectable_iff.mp hids).length
    rw [List.length_map] at hlength
    obtain ⟨s', hs'⟩ := purge_ok_iff.mpr href
    rw [if_neg (Nat.not_lt.mpr (hlength ▸ hallowed.bound)), hs', hlength] at hout
    cases hout
    exact ⟨s', rfl, purged_of_purge hids hs'⟩
  · cases hout

/-- Any other call of such settings raises. -/
theorem purge_raises (h : Deleting tables values p)
    (hnot : ∀ cutoff, p.cutoff now = some cutoff →
      ¬ Allowed limit (s.eligible cutoff).length)
    (hout : purgeExpiredFindings tables values now limit ids s = some out) :
    ∃ e, out = .error e := by
  cases hcut : p.cutoff now with
  | none =>
      rw [purge_of_no_cutoff h hcut] at hout
      cases hout
      exact ⟨_, rfl⟩
  | some cutoff =>
      rw [purge_of_cutoff h hcut] at hout
      split at hout
      · cases hout
        exact ⟨_, rfl⟩
      · rename_i hrange
        split at hout
        · rename_i hids
          have hlength := (selectable_iff.mp hids).length
          rw [List.length_map] at hlength
          split at hout
          · cases hout
            exact ⟨_, rfl⟩
          · rename_i hbound
            refine absurd ⟨?_, ?_, ?_⟩ (hnot cutoff hcut)
            · omega
            · omega
            · exact hlength ▸ Nat.not_lt.mp hbound
        · cases hout

/-- No call waits. -/
theorem purge_enabled (tables : TextTables) (values : Settings)
    (now : Timestamp) (limit : ℤ) (s : FindingStore) :
    ∃ ids out, purgeExpiredFindings tables values now limit ids s = some out := by
  by_cases hdel : (loadPolicy tables values).deletesAnything = true
  · have h := deleting_of_loadPolicy hdel
    cases hcut : (loadPolicy tables values).cutoff now with
    | none => exact ⟨[], _, purge_of_no_cutoff h hcut⟩
    | some cutoff =>
        obtain ⟨ids, hids⟩ := exists_selectable s cutoff limit.toNat
        refine ⟨ids, ?_⟩
        rw [purge_of_cutoff h hcut, if_pos hids]
        split
        · exact ⟨_, rfl⟩
        · split
          · exact ⟨_, rfl⟩
          · exact ⟨_, rfl⟩
  · refine ⟨[], _, purge_of_not_deleting fun p hp => hdel ?_⟩
    rw [loadPolicy_of_deleting hp]
    exact hp.deletesAnything

/-! ## §4  Repetition -/

theorem Purged.eligible {n : ℕ} (h : Purged s cutoff n ids s') :
    s'.eligible cutoff =
      (s.eligible cutoff).filter fun f => decide (f.id ∉ ids) := by
  unfold FindingStore.eligible
  rw [h.findings, List.filter_comm]

theorem Purged.length_eligible {n : ℕ} (h : Purged s cutoff n ids s') :
    (s'.eligible cutoff).length = (s.eligible cutoff).length - n := by
  have hrest := h.chosen.length_rest eligible_ids_nodup
  rw [List.filter_map, List.length_map, List.length_map] at hrest
  rw [h.eligible]
  exact hrest

/-- Nobody refers to a finding that is eligible. -/
def Unlinked (s : FindingStore) (cutoff : Timestamp) : Prop :=
  ∀ f ∈ s.findings, ∀ g ∈ s.eligible cutoff, f.supersededById ≠ some g.id

theorem Unlinked.leavesNoReference {n : ℕ} (h : Unlinked s cutoff)
    (hids : Selectable s cutoff n ids) : LeavesNoReference s ids := by
  rintro f hf - j hj hgone
  obtain ⟨g, hg, rfl⟩ := List.mem_map.mp ((selectable_iff.mp hids).subset hgone)
  exact h f hf g hg hj

theorem Unlinked.of_purged {n : ℕ} (h : Unlinked s cutoff)
    (hpurged : Purged s cutoff n ids s') : Unlinked s' cutoff := by
  intro f hf g hg
  rw [hpurged.findings] at hf
  rw [hpurged.eligible] at hg
  exact h f (List.mem_of_mem_filter hf) g (List.mem_of_mem_filter hg)

theorem purges_step (h : Deleting tables values p)
    (hcut : p.cutoff now = some cutoff)
    (hallowed : Allowed limit (s.eligible cutoff).length)
    (hstep : (purges tables values now limit).step s ids = some s')
    (href : LeavesNoReference s ids) : Purged s cutoff limit.toNat ids s' := by
  obtain ⟨out, hout, rfl⟩ := Option.map_eq_some_iff.mp hstep
  obtain ⟨s', rfl, hpurged⟩ := purge_call h hcut hallowed hout href
  exact hpurged

/-- **Run lemma.** What is left after some calls. -/
theorem length_eligible_after (h : Deleting tables values p)
    (hcut : p.cutoff now = some cutoff)
    (hallowed : Allowed limit (s.eligible cutoff).length)
    {x : Recorded FindingStore ℕ}
    (hrun : (countedPurges tables values now limit).Leads
      (fun x ids => LeavesNoReference x.state ids) ⟨s, 0⟩ x) :
    (x.state.eligible cutoff).length =
      (s.eligible cutoff).length - x.history * limit.toNat := by
  refine hrun.invariant (I := fun x => (x.state.eligible cutoff).length =
    (s.eligible cutoff).length - x.history * limit.toNat) ?_ ?_
  · rintro x ids y hx href hstep
    obtain ⟨hpurge, hcalls⟩ := System.record_step hstep
    have hpurged := purges_step h hcut
      (hallowed.of_le (hx.trans_le (Nat.sub_le _ _))) hpurge href
    rw [hpurged.length_eligible, hx, hcalls, Nat.sub_sub, Nat.add_mul,
      Nat.one_mul]
  · rw [Nat.zero_mul, Nat.sub_zero]

theorem exists_purges (h : Deleting tables values p)
    (hcut : p.cutoff now = some cutoff)
    (hallowed : Allowed limit (s.eligible cutoff).length)
    (hs : Unlinked s cutoff) (calls : ℕ) :
    ∃ s', (countedPurges tables values now limit).Leads
      (fun x ids => LeavesNoReference x.state ids) ⟨s, 0⟩ ⟨s', calls⟩ ∧
      Unlinked s' cutoff := by
  induction calls with
  | zero => exact ⟨s, .refl _, hs⟩
  | succ calls ih =>
      obtain ⟨t, hrun, ht⟩ := ih
      have hleft := length_eligible_after h hcut hallowed hrun
      have hallowed' := hallowed.of_le (hleft.trans_le (Nat.sub_le _ _))
      obtain ⟨ids, hids⟩ := exists_selectable t cutoff limit.toNat
      have href := ht.leavesNoReference hids
      obtain ⟨t', ht'⟩ := purge_ok_iff.mpr href
      have hstep : (purges tables values now limit).step t ids = some t' := by
        have hlength := (selectable_iff.mp hids).length
        rw [List.length_map] at hlength
        have hnonneg := hallowed.nonneg
        have hbigint := hallowed.bigint
        refine Option.map_eq_some_iff.mpr ⟨.ok (t', ids.length), ?_, rfl⟩
        rw [purge_of_cutoff h hcut, if_neg (by omega), if_pos hids,
          if_neg (Nat.not_lt.mpr (hlength ▸ hallowed'.bound)), ht']
        rfl
      have hrecord : (countedPurges tables values now limit).step ⟨t, calls⟩ ids =
          some ⟨t', calls + 1⟩ := by
        unfold countedPurges System.record
        dsimp only
        rw [hstep, Option.map_some]
      exact ⟨t', hrun.tail href hrecord, ht.of_purged (purged_of_purge hids ht')⟩

/-! ## §5  The law -/

/-- Unless the settings name a policy that deletes, nothing is deleted.
Otherwise a call deletes as many eligible findings as there are up to the
limit, with their events and nothing else, and returns how many; enough calls
leave none. A call without a cutoff, or with a limit that the database or the
driver refuses, raises. -/
theorem retention_purge :
    ((∀ p, ¬ Deleting tables values p) → ∀ ids,
      purgeExpiredFindings tables values now limit ids s = some (.ok (s, 0))) ∧
    (∃ ids out,
      purgeExpiredFindings tables values now limit ids s = some out) ∧
    ∀ p, Deleting tables values p →
      (∀ cutoff, p.cutoff now = some cutoff →
        Allowed limit (s.eligible cutoff).length →
        (∀ ids out, purgeExpiredFindings tables values now limit ids s = some out →
          LeavesNoReference s ids →
          ∃ s', out = .ok (s', min limit.toNat (s.eligible cutoff).length) ∧
            Purged s cutoff limit.toNat ids s') ∧
        (∀ s' calls, (countedPurges tables values now limit).Leads
            (fun x ids => LeavesNoReference x.state ids) ⟨s, 0⟩ ⟨s', calls⟩ →
          (s.eligible cutoff).length ≤ calls * limit.toNat →
          s'.eligible cutoff = []) ∧
        (Unlinked s cutoff → ∀ calls, ∃ s',
          (countedPurges tables values now limit).Leads
            (fun x ids => LeavesNoReference x.state ids) ⟨s, 0⟩
            ⟨s', calls⟩)) ∧
      ((∀ cutoff, p.cutoff now = some cutoff →
          ¬ Allowed limit (s.eligible cutoff).length) →
        ∀ ids out, purgeExpiredFindings tables values now limit ids s = some out →
          ∃ e, out = .error e) := by
  refine ⟨fun h ids => purge_of_not_deleting h,
    purge_enabled tables values now limit s, fun p h => ⟨?_, ?_⟩⟩
  · intro cutoff hcut hallowed
    refine ⟨fun ids out => purge_call h hcut hallowed, ?_, ?_⟩
    · intro s' calls hrun hcalls
      have hleft := length_eligible_after h hcut hallowed hrun
      refine List.eq_nil_of_length_eq_zero (hleft.trans ?_)
      exact Nat.sub_eq_zero_of_le hcalls
    · intro hs calls
      obtain ⟨s', hrun, -⟩ := exists_purges h hcut hallowed hs calls
      exact ⟨s', hrun⟩
  · exact fun hnot ids out => purge_raises h hnot

/-- Two findings closed at different times, the second with an event, and an
open one. -/
def shelf : FindingStore where
  sources := [Analyst.sampleSource]
  findings := [{ Analyst.sampleFinding 1 with remediatedAt := some 10 },
    { Analyst.sampleFinding 2 with remediatedAt := some 20 },
    Analyst.sampleFinding 3]
  events := [⟨4, 2, .remediated, none, 20, []⟩, ⟨5, 3, .discovered, none, 0, []⟩]
  intact := by decide

def stored (mode days : Option String) : Settings
  | .retentionMode => mode.map PyStr.lit
  | .retentionDays => days.map PyStr.lit
  | _ => none

/-- Blanks around the mode and the number are ignored. -/
def thirtyDays : Settings := stored (some " days ") (some " 30 ")

theorem thirtyDays_deleting :
    Deleting Outbox.asciiTables thirtyDays ⟨.days, some 30⟩ :=
  .days rfl rfl rfl (by decide)

/-- One finding a call, thirty days after the later one was closed. -/
theorem shelf_cleared : ∃ s',
    (countedPurges Outbox.asciiTables thirtyDays (days 30 + 20) 1).Leads
      (fun x ids => LeavesNoReference x.state ids) ⟨shelf, 0⟩ ⟨s', 2⟩ ∧
    shelf.eligible 20 ≠ [] ∧ s'.eligible 20 = [] := by
  obtain ⟨-, -, hdeleting⟩ :=
    @retention_purge Outbox.asciiTables thirtyDays (days 30 + 20) 1 shelf
  obtain ⟨hcalls, -⟩ := hdeleting _ thirtyDays_deleting
  obtain ⟨-, hcleared, hexists⟩ := hcalls 20 (by decide)
    ⟨by decide, by decide, by decide⟩
  have hunlinked : Unlinked shelf 20 := by
    intro f hf g _ hlink
    have hnone : ∀ f ∈ shelf.findings, f.supersededById.isNone = true := by
      decide
    have hf := hnone f hf
    rw [hlink] at hf
    cases hf
  obtain ⟨s', hrun⟩ := hexists hunlinked 2
  exact ⟨s', hrun, by decide, hcleared s' 2 hrun (by decide)⟩

/-! ## §6  Calls that raise -/

def closed (f : Finding) : Finding := { f with remediatedAt := some 0 }

def closedRows (n : ℕ) : StoreRows :=
  { Analyst.sampleRows n with
    findings := (Analyst.sampleRows n).findings.map closed }

theorem nodup_map_closed {β : Type} {f : Finding → β} {n : ℕ}
    (hf : ∀ x, f (closed x) = f x)
    (h : ((Analyst.sampleRows n).findings.map f).Nodup) :
    ((closedRows n).findings.map f).Nodup := by
  have hmap : ((Analyst.sampleRows n).findings.map closed).map f =
      (Analyst.sampleRows n).findings.map f := by
    rw [List.map_map]
    exact List.map_congr_left fun x _ => hf x
  show (((Analyst.sampleRows n).findings.map closed).map f).Nodup
  rw [hmap]
  exact h

theorem all_closed {n : ℕ} {p : Finding → Bool}
    (h : ∀ i, p (closed (Analyst.sampleFinding i)) = true) :
    (closedRows n).findings.all p = true := by
  show ((Analyst.sampleRows n).findings.map closed).all p = true
  rw [List.all_map]
  exact Analyst.all_sample h

def closedStore (n : ℕ) (hn : n ≤ 65536) : FindingStore where
  toStoreRows := closedRows n
  intact := {
    sourceIds := List.nodup_singleton _
    sourceIdentities := List.nodup_singleton _
    findingIds := nodup_map_closed (fun _ => rfl)
      (Analyst.nodup_map_sample hn Analyst.sampleFinding_id_inj)
    fingerprints := nodup_map_closed (fun _ => rfl)
      (Analyst.nodup_map_sample hn Analyst.sampleFinding_fingerprint_inj)
    eventIds := List.nodup_nil
    checks := all_closed fun _ => rfl
    findingSource := all_closed fun _ => rfl
    supersededBy := all_closed fun _ => rfl
    eventFinding := rfl }

theorem eligible_closed {n : ℕ} (hn : n ≤ 65536) :
    (closedStore n hn).eligible 0 = (closedRows n).findings :=
  List.filter_eq_self.mpr fun f hf =>
    List.all_eq_true.mp (all_closed fun _ => rfl) f hf

theorem length_closed (n : ℕ) : (closedRows n).findings.length = n := by
  show (((List.range n).map Analyst.sampleFinding).map closed).length = n
  rw [List.length_map, List.length_map, List.length_range]

/-- Closed findings, one more than the driver sends parameters. -/
def tooMany : FindingStore := closedStore 32768 (by omega)

theorem immediate_deleting : Deleting Outbox.asciiTables
    (stored (some "none") none) ⟨.immediate, none⟩ :=
  .immediate rfl rfl rfl

/-- The settings name a policy that deletes and nobody refers to anybody: the
cutoff of one day is before year 1, the limit is negative, and the findings
are too many for one statement. -/
theorem purges_that_raise :
    (Deleting Outbox.asciiTables (stored (some "days") (some "1"))
        ⟨.days, some 1⟩ ∧
      purgeExpiredFindings Outbox.asciiTables (stored (some "days") (some "1"))
        datetimeMin 500 [] FindingStore.empty = some (.error .noCutoff)) ∧
    (Deleting Outbox.asciiTables (stored (some "none") none)
        ⟨.immediate, none⟩ ∧
      purgeExpiredFindings Outbox.asciiTables (stored (some "none") none)
        0 (-1) [] FindingStore.empty = some (.error (.database .badInteger))) ∧
    Unlinked tooMany 0 ∧ (tooMany.eligible 0).length = 32768 ∧
      purgeExpiredFindings Outbox.asciiTables (stored (some "none") none)
        0 32768 ((tooMany.eligible 0).map Finding.id) tooMany =
          some (.error (.database .tooManyParameters)) := by
  have hlength : (tooMany.eligible 0).length = 32768 := by
    unfold tooMany
    rw [eligible_closed, length_closed]
  refine ⟨⟨.days rfl rfl rfl (by decide), rfl⟩, ⟨immediate_deleting, rfl⟩,
    ?_, hlength, ?_⟩
  · intro f hf g _ hlink
    have hnone := List.all_eq_true.mp (all_closed (n := 32768)
      (p := fun f => f.supersededById.isNone) fun _ => rfl) f hf
    rw [hlink] at hnone
    cases hnone
  · have hids : Selectable tooMany 0 (32768 : ℤ).toNat
        ((tooMany.eligible 0).map Finding.id) := by
      refine selectable_iff.mpr ⟨eligible_ids_nodup, fun _ h => h, ?_⟩
      rw [List.length_map, hlength]
      rfl
    rw [purge_of_cutoff immediate_deleting rfl, if_neg (by decide), if_pos hids,
      if_pos]
    rw [List.length_map, hlength]
    decide

end LeakcheckHub.Findings.Configured
