import LeakcheckHub.Findings.Ingest
import LeakcheckHub.Foundation.Selections

/-!
# Purging superseded findings

Which purges the self-reference `findings.superseded_by_id` lets through: a
deleted finding must take its predecessor with it, and the select may leave
the predecessor out.

§1 no self-links · §2 one purge · §3 the law · §4 a purge that fails.
-/

set_option linter.unusedSectionVars false

namespace LeakcheckHub.Findings

open Foundation FindingStore

variable {env : Env} {subject : Subject} {actorId : Option Uuid}
  {seenAt : Timestamp} {s s' : FindingStore} {f g : Finding}
  {entry : LeakRecord × RecordDraws} {sum sum' : IngestSummary}
  {ids : List Uuid} {policy : RetentionPolicy} {now cutoff : Timestamp}
  {limit : ℕ} {source : SourceIdentity}

/-! ## §1  No self-links -/

/-- No finding is superseded by itself. -/
def NoSelfLink (s : FindingStore) : Prop :=
  ∀ f ∈ s.findings, f.supersededById ≠ some f.id

theorem NoSelfLink.of_map {h : Finding → Finding} (hs : NoSelfLink s)
    (hfindings : s'.findings = s.findings.map h)
    (hkeep : ∀ f ∈ s.findings, (h f).id = f.id ∧
      ((h f).supersededById = f.supersededById ∨
        (h f).supersededById ≠ some f.id)) : NoSelfLink s' := by
  intro f hf
  rw [hfindings] at hf
  obtain ⟨o, ho, rfl⟩ := List.mem_map.mp hf
  obtain ⟨hid, hsup⟩ := hkeep o ho
  rw [hid]
  rcases hsup with hsame | hother
  · rw [hsame]
    exact hs o ho
  · exact hother

theorem NewlyRecorded.noSelfLink {draws : RecordDraws} {reLeaks : ℕ}
    (h : NewlyRecorded env source draws g actorId seenAt s s' reLeaks)
    (hs : NoSelfLink s) : NoSelfLink s' := by
  cases h with
  | plain _ hfindings _ =>
      intro f hf
      exact hs f (hfindings ▸ hf)
  | @reLeak previous _ hpred _ hfindings _ =>
      refine hs.of_map hfindings fun f _ => ?_
      unfold linked
      dsimp only
      by_cases hp : f.id = previous.id
      · rw [if_pos hp]
        dsimp only
        rw [if_neg (fun hg => hpred.ne (hp.symm.trans hg))]
        refine ⟨rfl, .inr fun hself => hpred.ne ?_⟩
        rw [Option.some.injEq] at hself
        exact hp.symm.trans hself.symm
      · rw [if_neg hp]
        split
        · exact ⟨rfl, .inl rfl⟩
        · exact ⟨rfl, .inl rfl⟩

theorem Ingested.noSelfLink
    (h : Ingested env subject actorId seenAt entry s sum s' sum')
    (hs : NoSelfLink s) : NoSelfLink s' := by
  cases h with
  | known _ _ _ _ _ _ hfindings _ =>
      refine hs.of_map hfindings fun f _ => ?_
      split
      · exact ⟨rfl, .inl rfl⟩
      · exact ⟨rfl, .inl rfl⟩
  | @fresh s₁ s₂ _ _ row _ _ _ hrow _ _ hfindings _ hrecorded =>
      refine hrecorded.noSelfLink fun f hf => ?_
      rw [hfindings] at hf
      rcases List.mem_append.mp hf with hf | hf
      · exact hs f hf
      · rw [List.mem_singleton.mp hf, (findingRow_spec hrow).2.2.1]
        exact fun hnone => nomatch hnone

/-- The rows a purge leaves. -/
theorem purge_rows (h : s.purge ids = .ok s') :
    (s'.findings = s.findings.filter fun f => decide (f.id ∉ ids)) ∧
      (s'.events = s.events.filter fun e => decide (e.findingId ∉ ids)) ∧
      s'.sources = s.sources := by
  unfold FindingStore.purge at h
  split at h
  · rename_i hempty
    cases h
    rw [List.isEmpty_iff] at hempty
    subst hempty
    refine ⟨(List.filter_eq_self.mpr fun f _ => ?_).symm,
      (List.filter_eq_self.mpr fun e _ => ?_).symm, rfl⟩
    · exact decide_eq_true List.not_mem_nil
    · exact decide_eq_true List.not_mem_nil
  · obtain ⟨s₁, h₁, h₂⟩ := bind_eq_ok.mp h
    obtain ⟨hsources₁, hfindings₁, hevents₁⟩ := ofRows_spec h₁
    obtain ⟨hsources₂, hfindings₂, hevents₂⟩ := ofRows_spec h₂
    refine ⟨hfindings₂.trans ?_, hevents₂.trans hevents₁,
      hsources₂.trans hsources₁⟩
    show s₁.findings.filter _ = _
    rw [hfindings₁]

theorem purge_spec (h : s.purge ids = .ok s') :
    s'.findings = s.findings.filter fun f => decide (f.id ∉ ids) :=
  (purge_rows h).1

theorem noSelfLink_step {op : Op} (hs : NoSelfLink s)
    (h : (ledger env).step s op = some s') : NoSelfLink s' := by
  cases ledger_step h with
  | rolledBack => exact hs
  | ingest hok =>
      refine foldlM_invariant (I := fun acc => NoSelfLink acc.1) hok ?_ hs
      rintro entry - ⟨s₁, sum⟩ ⟨s₂, sum₂⟩ hI hone
      exact (ingestRecord_spec hone).noSelfLink hI
  | change hok =>
      rename_i c findingId eventId
      rcases change_spec hok with rfl | ⟨-, hfindings, -⟩
      · exact hs
      · refine hs.of_map hfindings fun f _ => ?_
        split
        · cases c <;> exact ⟨rfl, .inl rfl⟩
        · exact ⟨rfl, .inl rfl⟩
  | purge hok =>
      intro f hf
      rw [purge_spec hok] at hf
      exact hs f (List.mem_filter.mp hf).1

theorem noSelfLink_reachable (h : (ledger env).Reachable s) :
    NoSelfLink s := by
  refine h.invariant (fun s₀ hinit f hf => ?_)
    fun _ _ _ hs _ hstep => noSelfLink_step hs hstep
  rw [hinit.1] at hf
  cases hf

/-! ## §2  One purge -/

/-- Nobody who stays refers to a deleted finding. -/
def LeavesNoReference (s : FindingStore) (ids : List Uuid) : Prop :=
  ∀ f ∈ s.findings, f.id ∉ ids → ∀ j, f.supersededById = some j → j ∉ ids

theorem intact_deleteEvents (p : FindingEvent → Bool) :
    Intact { s.toStoreRows with events := s.events.filter p } where
  sourceIds := s.intact.sourceIds
  sourceIdentities := s.intact.sourceIdentities
  findingIds := s.intact.findingIds
  fingerprints := s.intact.fingerprints
  eventIds := s.intact.eventIds.sublist (List.filter_sublist.map _)
  checks := s.intact.checks
  findingSource := s.intact.findingSource
  supersededBy := s.intact.supersededBy
  eventFinding := by
    rw [List.all_eq_true]
    intro e he
    exact List.all_eq_true.mp s.intact.eventFinding e (List.mem_filter.mp he).1

theorem mem_ids_filter {i : Uuid} (hi : i ∉ ids)
    (h : i ∈ s.findings.map Finding.id) :
    i ∈ (s.findings.filter fun f => decide (f.id ∉ ids)).map Finding.id := by
  obtain ⟨f, hf, rfl⟩ := List.mem_map.mp h
  exact List.mem_map_of_mem (List.mem_filter.mpr ⟨hf, decide_eq_true hi⟩)

/-- Once its events are gone, a finding can go if its references can. -/
theorem intact_deleteFindings (href : LeavesNoReference s ids)
    (hevents : ∀ e ∈ s.events, e.findingId ∉ ids) :
    Intact { s.toStoreRows with
      findings := s.findings.filter fun f => decide (f.id ∉ ids) } where
  sourceIds := s.intact.sourceIds
  sourceIdentities := s.intact.sourceIdentities
  findingIds := s.intact.findingIds.sublist (List.filter_sublist.map _)
  fingerprints := s.intact.fingerprints.sublist (List.filter_sublist.map _)
  eventIds := s.intact.eventIds
  checks := by
    rw [List.all_eq_true]
    intro f hf
    exact List.all_eq_true.mp s.intact.checks f (List.mem_filter.mp hf).1
  findingSource := by
    rw [List.all_eq_true]
    intro f hf
    exact List.all_eq_true.mp s.intact.findingSource f (List.mem_filter.mp hf).1
  supersededBy := by
    rw [List.all_eq_true]
    intro f hf
    obtain ⟨hf, hstays⟩ := List.mem_filter.mp hf
    cases hj : f.supersededById with
    | none => rfl
    | some j =>
        have hold := List.all_eq_true.mp s.intact.supersededBy f hf
        rw [hj, Option.all_some] at hold
        refine decide_eq_true (mem_ids_filter ?_ (of_decide_eq_true hold))
        exact href f hf (of_decide_eq_true hstays) j hj
  eventFinding := by
    rw [List.all_eq_true]
    intro e he
    have hold := List.all_eq_true.mp s.intact.eventFinding e he
    exact decide_eq_true
      (mem_ids_filter (hevents e he) (of_decide_eq_true hold))

theorem purge_ok_iff :
    (∃ s', s.purge ids = .ok s') ↔ LeavesNoReference s ids := by
  constructor
  · rintro ⟨s', h⟩ f hf hstays j hj hgone
    have hrows := purge_spec h
    have hf' : f ∈ s'.findings := by
      rw [hrows]
      exact List.mem_filter.mpr ⟨hf, decide_eq_true hstays⟩
    obtain ⟨o, ho, rfl⟩ := supersededBy hf' hj
    rw [hrows] at ho
    exact of_decide_eq_true (List.mem_filter.mp ho).2 hgone
  · intro href
    unfold FindingStore.purge
    split
    · exact ⟨s, rfl⟩
    · obtain ⟨s₁, h₁⟩ := exists_ofRows (intact_deleteEvents (s := s)
        fun e => decide (e.findingId ∉ ids))
      obtain ⟨-, hf₁, he₁⟩ := ofRows_spec h₁
      have href₁ : LeavesNoReference s₁ ids := by
        unfold LeavesNoReference
        rw [hf₁]
        exact href
      have hevents₁ : ∀ e ∈ s₁.events, e.findingId ∉ ids := by
        intro e he
        rw [he₁] at he
        exact of_decide_eq_true (List.mem_filter.mp he).2
      obtain ⟨s₂, h₂⟩ := exists_ofRows (intact_deleteFindings href₁ hevents₁)
      exact ⟨s₂, bind_eq_ok.mpr ⟨s₁, h₁, h₂⟩⟩

theorem selectable_iff :
    Selectable s cutoff limit ids ↔
      Selection ((s.eligible cutoff).map Finding.id) limit ids := by
  have heligible : ((s.findings.map fun f => (f.id, f)).filter
      fun x => expired cutoff x.2).map Prod.fst =
        (s.eligible cutoff).map Finding.id := by
    rw [List.filter_map, List.map_map]
    rfl
  simp only [Selectable, chosen, heligible, Bool.and_eq_true,
    decide_eq_true_eq, List.all_eq_true, beq_iff_eq]
  constructor
  · rintro ⟨⟨hnodup, hsub⟩, hlen⟩
    exact ⟨hnodup, hsub, hlen⟩
  · rintro ⟨hnodup, hsub, hlen⟩
    exact ⟨⟨hnodup, hsub⟩, hlen⟩

/-! ## §3  The law -/

/-- Whatever its select returns, the purge goes through, and nobody left
refers to a deleted finding. -/
def PurgeCompletes (s : FindingStore) (policy : RetentionPolicy)
    (now : Timestamp) (limit : ℕ) : Prop :=
  ∀ ids out, purgeExpiredFindings policy now limit ids s = some out →
    ∃ s', out = .ok s' ∧ ∀ f ∈ s'.findings, ∀ j, f.supersededById = some j →
      ∃ g ∈ s'.findings, g.id = j

/-- Every predecessor of an eligible finding is eligible itself, and the batch
takes all that is eligible. -/
def PredecessorsGoToo (s : FindingStore) (cutoff : Timestamp) (limit : ℕ) :
    Prop :=
  ∀ f ∈ s.findings, ∀ g ∈ s.eligible cutoff, f.supersededById = some g.id →
    f ∈ s.eligible cutoff ∧ (s.eligible cutoff).length ≤ limit

theorem eligible_ids_nodup :
    ((s.eligible cutoff).map Finding.id).Nodup :=
  s.intact.findingIds.sublist (List.filter_sublist.map _)

theorem selections_leave_no_reference_iff (hs : NoSelfLink s) :
    (∀ ids, Selectable s cutoff limit ids → LeavesNoReference s ids) ↔
      limit = 0 ∨ PredecessorsGoToo s cutoff limit := by
  constructor
  · intro hall
    by_cases hlimit : limit = 0
    · exact .inl hlimit
    refine .inr fun f hf g hg hsup => ?_
    by_contra hnot
    -- a selection with the successor and without the predecessor
    have hroom : f.id ∉ (s.eligible cutoff).map Finding.id ∨
        limit < ((s.eligible cutoff).map Finding.id).length := by
      rw [List.length_map]
      by_cases hfe : f ∈ s.eligible cutoff
      · exact .inr (Nat.not_le.mp fun hle => hnot ⟨hfe, hle⟩)
      · refine .inl fun hmem => hfe ?_
        obtain ⟨o, ho, hid⟩ := List.mem_map.mp hmem
        rw [eq_of_id hf (List.mem_filter.mp ho).1 hid.symm]
        exact ho
    have hne : f.id ≠ g.id := fun heq => hs f hf (heq ▸ hsup)
    obtain ⟨ids, hsel, hgi, hfi⟩ := exists_selection eligible_ids_nodup
      (List.mem_map_of_mem hg) hne (Nat.pos_of_ne_zero hlimit) hroom
    exact hall ids (selectable_iff.mpr hsel) f hf hfi g.id hsup hgi
  · rintro hcond ids hids f hf hstays j hj hgone
    have hsel := selectable_iff.mp hids
    obtain ⟨g, hg, rfl⟩ := List.mem_map.mp (hsel.subset hgone)
    rcases hcond with rfl | hpred
    · rw [hsel.eq_nil] at hgone
      cases hgone
    · obtain ⟨hfe, hle⟩ := hpred f hf g hg hj
      refine hstays (hsel.mem_of_le ?_ (List.mem_map_of_mem hfe))
      rw [List.length_map]
      exact hle

/-- Some selection always exists. -/
theorem exists_selectable (s : FindingStore) (cutoff : Timestamp)
    (limit : ℕ) : ∃ ids, Selectable s cutoff limit ids := by
  refine ⟨((s.eligible cutoff).map Finding.id).take limit,
    selectable_iff.mpr ⟨?_, List.take_subset _ _, List.length_take⟩⟩
  exact eligible_ids_nodup.sublist (List.take_sublist _ _)

theorem purgeExpiredFindings_of_cutoff (hdel : policy.deletesAnything = true)
    (hcut : policy.cutoff now = some cutoff) :
    purgeExpiredFindings policy now limit ids s =
      if Selectable s cutoff limit ids then some (s.purge ids) else none := by
  unfold purgeExpiredFindings
  rw [if_pos hdel, hcut]

/-- A purge without a cutoff raises before its select. -/
theorem purgeExpiredFindings_of_no_cutoff
    (hdel : policy.deletesAnything = true)
    (hcut : policy.cutoff now = none) :
    purgeExpiredFindings policy now limit ids s =
      some (.error .noCutoff) := by
  unfold purgeExpiredFindings
  rw [if_pos hdel, hcut]

theorem purgeExpiredFindings_of_indefinite
    (hdel : policy.deletesAnything = false) :
    purgeExpiredFindings policy now limit ids s = some (.ok s) := by
  unfold purgeExpiredFindings
  rw [if_neg (Bool.eq_false_iff.mp hdel)]

/-- With a cutoff the purge completes when no selection leaves a reference. -/
theorem purgeCompletes_of_cutoff (hdel : policy.deletesAnything = true)
    (hcut : policy.cutoff now = some cutoff) :
    PurgeCompletes s policy now limit ↔
      ∀ ids, Selectable s cutoff limit ids → LeavesNoReference s ids := by
  constructor
  · intro hall ids hids
    have hrun : purgeExpiredFindings policy now limit ids s =
        some (s.purge ids) := by
      rw [purgeExpiredFindings_of_cutoff hdel hcut, if_pos hids]
    obtain ⟨s', hs', -⟩ := hall ids _ hrun
    exact purge_ok_iff.mp ⟨s', hs'⟩
  · intro hall ids out hout
    rw [purgeExpiredFindings_of_cutoff hdel hcut] at hout
    by_cases hids : Selectable s cutoff limit ids
    · rw [if_pos hids, Option.some.injEq] at hout
      obtain ⟨s', hs'⟩ := purge_ok_iff.mpr (hall ids hids)
      exact ⟨s', hout.symm.trans hs', fun f hf j hj => supersededBy hf hj⟩
    · rw [if_neg hids] at hout
      cases hout

/-- A leak is found and closed, and found again with another password. -/
def superseded : List Op :=
  [.ingest sampleSubject [firstLeak] none 10,
    .change (.remediate 5 none 20) 6 401,
    .ingest sampleSubject [secondLeak] none 30]

/-- The old finding is reopened, the new one closed. -/
def successorClosed : List Op :=
  superseded ++ [.change (.unremediate 5 40) 6 402,
    .change (.remediate 5 none 50) 7 403]

def bothClosed : List Op :=
  superseded ++ [.change (.remediate 5 none 50) 7 403]

/-- The database refuses. -/
def refused : Except IngestError FindingStore → Bool
  | .error (.database .integrityViolation) => true
  | _ => false

theorem eq_of_refused {out : Except IngestError FindingStore}
    (h : refused out = true) :
    out = .error (.database .integrityViolation) := by
  unfold refused at h
  split at h
  · rfl
  · cases h

end LeakcheckHub.Findings
