import LeakcheckHub.Findings.Ingest

/-!
# Discoveries

What any sequence of ingests, remediations and reopenings keeps of the
findings store: each fingerprint is discovered once, every call reports
exactly the findings it inserted, and a known record only refreshes its row.

§1 discovered once · §2 what a call reports · §3 a known record ·
§4 ingesting again · §5 the law.
-/

set_option linter.unusedSectionVars false

namespace LeakcheckHub.Findings

open Foundation FindingStore

variable {env : Env} {subject : Subject} {actorId : Option Uuid}
  {seenAt : Timestamp} {s s₁ s₂ s' : FindingStore} {f row : Finding}
  {entry : LeakRecord × RecordDraws} {sum sum' : IngestSummary}
  {records : Batch} {i : Uuid} {source : SourceIdentity}

/-! ## §1  Discovered once -/

def isDiscovery (i : Uuid) (e : FindingEvent) : Bool :=
  decide (e.findingId = i) && e.event == .discovered

/-- Every finding has exactly one `DISCOVERED` event. -/
def DiscoveredOnce (s : FindingStore) : Prop :=
  ∀ f ∈ s.findings, s.events.countP (isDiscovery f.id) = 1

theorem DiscoveredOnce.congr (h : DiscoveredOnce s)
    (hids : s'.findings.map Finding.id = s.findings.map Finding.id)
    (hevents : ∀ i, s'.events.countP (isDiscovery i) =
      s.events.countP (isDiscovery i)) : DiscoveredOnce s' := by
  intro f hf
  have hmem : f.id ∈ s.findings.map Finding.id :=
    hids ▸ List.mem_map_of_mem hf
  obtain ⟨o, ho, hid⟩ := List.mem_map.mp hmem
  rw [hevents, ← hid]
  exact h o ho

/-- No event mentions a finding that is not there. -/
theorem countP_absent (hi : i ∉ s.findings.map Finding.id) :
    s.events.countP (isDiscovery i) = 0 := by
  rw [List.countP_eq_zero]
  intro e he hdisc
  obtain ⟨f, hf, hid⟩ := eventFinding he
  simp only [isDiscovery, Bool.and_eq_true, decide_eq_true_eq] at hdisc
  exact hi (List.mem_map.mpr ⟨f, hf, hid.trans hdisc.1⟩)

theorem linked_id (previous current : Uuid) (f : Finding) :
    (linked previous current f).id = f.id := by
  unfold linked
  dsimp only
  split <;> split <;> rfl

theorem linked_fingerprint (previous current : Uuid) (f : Finding) :
    (linked previous current f).fingerprint = f.fingerprint := by
  unfold linked
  dsimp only
  split <;> split <;> rfl

theorem NewlyRecorded.ids {draws : RecordDraws} {reLeaks : ℕ}
    (h : NewlyRecorded env source draws row actorId seenAt s s' reLeaks) :
    s'.findings.map Finding.id = s.findings.map Finding.id := by
  cases h with
  | plain _ hfindings _ => rw [hfindings]
  | reLeak _ _ _ hfindings _ =>
      rw [hfindings, List.map_map]
      exact List.map_congr_left fun f _ => linked_id _ _ f

/-- Of the events of a new finding, one is its discovery. -/
theorem NewlyRecorded.countP {draws : RecordDraws} {reLeaks : ℕ}
    (h : NewlyRecorded env source draws row actorId seenAt s s' reLeaks) (i : Uuid) :
    s'.events.countP (isDiscovery i) =
      s.events.countP (isDiscovery i) + if row.id = i then 1 else 0 := by
  have hdiscovered : isDiscovery i (discovered draws row.id actorId seenAt) =
      decide (row.id = i) := by
    rw [isDiscovery, discovered]
    exact Bool.and_true _
  cases h with
  | plain _ _ hevents =>
      rw [hevents, List.countP_append, List.countP_singleton, hdiscovered]
      simp only [decide_eq_true_eq]
  | reLeak _ _ _ _ hevents =>
      have hreLeaked : ∀ p, isDiscovery i
          (reLeaked draws row.id p actorId seenAt) = false := by
        intro p
        rw [isDiscovery, reLeaked]
        exact Bool.and_false _
      rw [hevents, List.countP_append, List.countP_cons, List.countP_singleton,
        hdiscovered, hreLeaked]
      simp only [decide_eq_true_eq, Bool.false_eq_true, if_false, Nat.zero_add]

theorem refresh_ids (old row : Finding) (l : List Finding) :
    (l.map fun f => if f.id = old.id then refreshFinding row f else f).map
      Finding.id = l.map Finding.id :=
  map_if_id l old.id fun _ => rfl

theorem Ingested.discoveredOnce
    (h : Ingested env subject actorId seenAt entry s sum s' sum')
    (hs : DiscoveredOnce s) : DiscoveredOnce s' := by
  cases h with
  | known _ _ _ _ _ _ hfindings hevents =>
      refine hs.congr ?_ fun i => by rw [hevents]
      rw [hfindings]
      exact refresh_ids _ _ _
  | @fresh s₁ s₂ _ _ row _ _ _ _ hnew _ hfindings hevents hrecorded =>
      have hids : s'.findings.map Finding.id =
          s.findings.map Finding.id ++ [row.id] := by
        rw [hrecorded.ids, hfindings, List.map_append, List.map_singleton]
      -- the constraints of `s'` tell the new id from the old ones
      have hrow : row.id ∉ s.findings.map Finding.id := by
        have hnodup := s'.intact.findingIds
        rw [hids, List.nodup_append] at hnodup
        intro hmem
        exact hnodup.2.2 row.id hmem row.id List.mem_cons_self rfl
      intro f hf
      have hmem : f.id ∈ s.findings.map Finding.id ++ [row.id] :=
        hids ▸ List.mem_map_of_mem hf
      rw [hrecorded.countP, hevents]
      rcases List.mem_append.mp hmem with hold | hself
      · obtain ⟨o, ho, hid⟩ := List.mem_map.mp hold
        rw [← hid, hs o ho, if_neg]
        intro heq
        exact hrow (heq ▸ List.mem_map_of_mem ho)
      · rw [List.mem_singleton] at hself
        rw [hself, countP_absent hrow, if_pos rfl]

/-! ## §2  What a call reports -/

/-- The summary counts and lists what was inserted since `s`. -/
structure Reports (s : FindingStore) (s' : FindingStore)
    (sum : IngestSummary) : Prop where
  ids : s'.findings.map Finding.id =
    s.findings.map Finding.id ++ sum.newFindingIds
  count : sum.newCount = sum.newFindingIds.length

theorem Ingested.reports
    (h : Ingested env subject actorId seenAt entry s₁ sum s' sum')
    (hs : Reports s s₁ sum) : Reports s s' sum' := by
  cases h with
  | known _ _ _ _ _ _ hfindings _ =>
      refine ⟨?_, hs.count⟩
      rw [hfindings, refresh_ids]
      exact hs.ids
  | fresh _ _ _ _ _ hfindings _ hrecorded =>
      constructor
      · rw [hrecorded.ids, hfindings, List.map_append, List.map_singleton,
          hs.ids, List.append_assoc]
      · simp only [List.length_append, List.length_singleton, hs.count]

/-- The loop rule for `ingest_records`. -/
theorem ingestRecords_invariant {I : FindingStore → IngestSummary → Prop}
    (h : ingestRecords env subject actorId seenAt records s = .ok (s', sum'))
    (hstep : ∀ entry ∈ records, ∀ s₁ sum s₂ sum₂, I s₁ sum →
      Ingested env subject actorId seenAt entry s₁ sum s₂ sum₂ → I s₂ sum₂)
    (hs : I s .empty) : I s' sum' := by
  have := foldlM_invariant (I := fun acc => I acc.1 acc.2) h ?_ hs
  · exact this
  · rintro entry hentry ⟨s₁, sum⟩ ⟨s₂, sum₂⟩ hI hok
    exact hstep entry hentry s₁ sum s₂ sum₂ hI (ingestRecord_spec hok)

theorem ingestRecords_reports
    (h : ingestRecords env subject actorId seenAt records s = .ok (s', sum)) :
    Reports s s' sum := by
  refine ingestRecords_invariant h
    (fun _ _ _ _ _ _ hI hstep => hstep.reports hI) ⟨?_, rfl⟩
  exact (List.append_nil _).symm

theorem Ingested.newCount_le
    (h : Ingested env subject actorId seenAt entry s sum s' sum') :
    sum'.newCount ≤ sum.newCount + 1 := by
  cases h with
  | known => exact Nat.le_succ _
  | fresh => exact le_refl _

theorem ingestLoop_newCount_le {acc acc' : FindingStore × IngestSummary}
    (h : records.foldlM (ingestRecord env subject actorId seenAt) acc =
      .ok acc') : acc'.2.newCount ≤ acc.2.newCount + records.length := by
  induction records generalizing acc with
  | nil =>
      rw [foldlM_nil_eq_ok] at h
      subst h
      exact Nat.le_add_right _ _
  | cons entry records ih =>
      obtain ⟨acc₁, h₁, hrest⟩ := foldlM_cons_eq_ok.mp h
      have hone := (ingestRecord_spec h₁).newCount_le
      have hrest := ih hrest
      rw [List.length_cons]
      omega

/-- No more rows are inserted than there are records. -/
theorem ingestRecords_newCount_le
    (h : ingestRecords env subject actorId seenAt records s = .ok (s', sum')) :
    sum'.newCount ≤ records.length := by
  have hloop := ingestLoop_newCount_le h
  rwa [show (IngestSummary.empty).newCount = 0 from rfl, Nat.zero_add] at hloop

theorem ingestRecords_discoveredOnce (hs : DiscoveredOnce s)
    (h : ingestRecords env subject actorId seenAt records s = .ok (s', sum)) :
    DiscoveredOnce s' :=
  ingestRecords_invariant (I := fun s _ => DiscoveredOnce s) h
    (fun _ _ _ _ _ _ hI hstep => hstep.discoveredOnce hI) hs

theorem discoveredOnce_step {op : Op} (hs : DiscoveredOnce s)
    (hop : op.isPurge = false) (h : (ledger env).step s op = some s') :
    DiscoveredOnce s' := by
  cases ledger_step h with
  | rolledBack => exact hs
  | ingest hok => exact ingestRecords_discoveredOnce hs hok
  | change hok =>
      rename_i c findingId eventId
      rcases change_spec hok with rfl | ⟨-, hfindings, hevents⟩
      · exact hs
      · refine hs.congr ?_ fun i => ?_
        · rw [hfindings]
          exact map_if_id _ _ (change_apply_unconstrained c).id
        · have hnot : isDiscovery i (c.event eventId findingId) = false := by
            rw [isDiscovery]
            cases c <;> exact Bool.and_false _
          rw [hevents, List.countP_append, List.countP_singleton, hnot,
            if_neg Bool.false_ne_true, Nat.add_zero]
  | purge => cases hop

/-! ## §3  A known record -/

/-- The fingerprint of a record, whatever its draws. -/
def recordFingerprint (env : Env) (subject : Subject) (record : LeakRecord) :
    Except IngestError Bytes := do
  let plaintext ← nullable encode record.password
  let emailNorm ← normalized
    (Normalization.normalizeOptionalEmail env.unicode record.email)
  let usernameNorm ← normalized
    (Normalization.normalizeOptionalUsername env.unicode record.username)
  let phoneNorm ← normalized
    (Normalization.normalizeOptionalPhone env.unicode record.phone)
  findingFingerprint env subject (normalizeSource env.unicode record.source)
    emailNorm usernameNorm phoneNorm (plaintext.map env.sha256)

theorem protectOptional_plaintext {draws : RecordDraws} {password : Option PyStr}
    {p : Option ProtectedPassword}
    (h : protectOptional env draws password = .ok p) :
    ∃ plaintext, nullable encode password = .ok plaintext ∧
      p.map ProtectedPassword.sha256 = plaintext.map env.sha256 := by
  rcases protectOptional_eq_ok.mp h with ⟨rfl, rfl⟩ | ⟨text, q, rfl, rfl, hq⟩
  · exact ⟨none, rfl, rfl⟩
  · obtain ⟨plaintext, hplain, rfl⟩ := protectPassword_eq_ok.mp hq
    exact ⟨some plaintext, bind_eq_ok.mpr ⟨plaintext, hplain, rfl⟩, rfl⟩

theorem buildFindingDraft_fingerprint {sourceId : Uuid} {draft : FindingDraft}
    (h : buildFindingDraft env subject sourceId
      (normalizeSource env.unicode entry.1.source) entry.1 entry.2 seenAt =
        .ok draft) :
    recordFingerprint env subject entry.1 = .ok draft.fingerprint := by
  obtain ⟨password, hpassword, h⟩ := bind_eq_ok.mp h
  obtain ⟨email, hemail, h⟩ := bind_eq_ok.mp h
  obtain ⟨username, husername, h⟩ := bind_eq_ok.mp h
  obtain ⟨phone, hphone, h⟩ := bind_eq_ok.mp h
  obtain ⟨key, -, h⟩ := bind_eq_ok.mp h
  obtain ⟨fingerprint, hfp, h⟩ := bind_eq_ok.mp h
  cases h
  obtain ⟨plaintext, hplain, hsha⟩ := protectOptional_plaintext hpassword
  refine bind_eq_ok.mpr ⟨plaintext, hplain, bind_eq_ok.mpr ⟨email, hemail,
    bind_eq_ok.mpr ⟨username, husername, bind_eq_ok.mpr ⟨phone, hphone, ?_⟩⟩⟩⟩
  rw [← hsha]
  exact hfp

/-- A record whose fingerprint is there refreshes that row and nothing
else. -/
theorem ingestRecord_known (hf : f ∈ s.findings)
    (hfp : recordFingerprint env subject entry.1 = .ok f.fingerprint)
    (h : ingestRecord env subject actorId seenAt (s, sum) entry =
      .ok (s', sum')) :
    s'.events = s.events ∧ (∃ row : Finding, row.lastSeenAt = seenAt ∧
      s'.findings = s.findings.map fun g =>
        if g.id = f.id then refreshFinding row g else g) ∧
      sum' = { sum with findings := sum.findings ++ [f.id] } := by
  cases ingestRecord_spec h with
  | @known _ _ draft row old _ hdraft hrow hold hold_fp _ hfindings hevents =>
      have hdfp := buildFindingDraft_fingerprint hdraft
      rw [hfp, Except.ok.injEq] at hdfp
      have heq : old = f := by
        refine eq_of_fingerprint hold hf ?_
        rw [hold_fp, (findingRow_spec hrow).2.1, hdfp]
      subst heq
      refine ⟨hevents, ⟨row, ?_, hfindings⟩, rfl⟩
      rw [(findingRow_spec hrow).2.2.2]
      exact (buildFindingDraft_spec hdraft).seenAt
  | fresh _ hdraft hrow hnew _ _ _ _ =>
      have hdfp := buildFindingDraft_fingerprint hdraft
      rw [hfp, Except.ok.injEq] at hdfp
      refine absurd ?_ (hnew f hf)
      rw [(findingRow_spec hrow).2.1, hdfp]

/-! ## §4  Ingesting again -/

/-- No source and no fingerprint is lost. -/
structure Retains (s s' : FindingStore) : Prop where
  sources : KeepsSources s s'
  fingerprints : ∀ f ∈ s.findings, ∃ f' ∈ s'.findings,
    f'.fingerprint = f.fingerprint

theorem Retains.refl (s : FindingStore) : Retains s s :=
  ⟨.refl s, fun f hf => ⟨f, hf, rfl⟩⟩

theorem Retains.trans {s'' : FindingStore} (h : Retains s s')
    (h' : Retains s' s'') : Retains s s'' := by
  refine ⟨h.sources.trans h'.sources, fun f hf => ?_⟩
  obtain ⟨f', hf', hfp⟩ := h.fingerprints f hf
  obtain ⟨f'', hf'', hfp'⟩ := h'.fingerprints f' hf'
  exact ⟨f'', hf'', hfp'.trans hfp⟩

theorem Retains.of_map {g : Finding → Finding} (hsources : KeepsSources s s')
    (hfindings : s'.findings = s.findings.map g)
    (hg : ∀ f, (g f).fingerprint = f.fingerprint) : Retains s s' :=
  ⟨hsources, fun f hf =>
    ⟨g f, hfindings ▸ List.mem_map_of_mem hf, hg f⟩⟩

theorem fingerprint_if {g : Finding → Finding} (i : Uuid)
    (hg : ∀ f, (g f).fingerprint = f.fingerprint) (f : Finding) :
    (if f.id = i then g f else f).fingerprint = f.fingerprint := by
  split
  · exact hg f
  · rfl

theorem NewlyRecorded.retains {draws : RecordDraws} {reLeaks : ℕ}
    (h : NewlyRecorded env source draws row actorId seenAt s s' reLeaks) :
    Retains s s' := by
  cases h with
  | plain hsources hfindings _ =>
      exact ⟨.of_eq hsources, fun f hf => ⟨f, hfindings ▸ hf, rfl⟩⟩
  | reLeak _ _ hsources hfindings _ =>
      exact .of_map (.of_eq hsources) hfindings (linked_fingerprint _ _)

theorem Ingested.retains
    (h : Ingested env subject actorId seenAt entry s sum s' sum') :
    Retains s s' := by
  cases h with
  | known hsource _ _ _ _ hsources hfindings _ =>
      refine .of_map (hsource.keeps.trans (.of_eq hsources)) hfindings ?_
      exact fingerprint_if _ fun _ => rfl
  | fresh hsource _ _ _ hsources hfindings _ hrecorded =>
      refine Retains.trans ⟨hsource.keeps.trans (.of_eq hsources), ?_⟩
        hrecorded.retains
      intro f hf
      exact ⟨f, hfindings ▸ List.mem_append_left _ hf, rfl⟩

theorem retains_step {op : Op} (hop : op.isPurge = false)
    (h : (ledger env).step s op = some s') : Retains s s' := by
  cases ledger_step h with
  | rolledBack => exact .refl s
  | ingest hok =>
      exact ingestRecords_invariant (I := fun t _ => Retains s t) hok
        (fun _ _ _ _ _ _ hI hstep => hI.trans hstep.retains) (.refl s)
  | change hok =>
      rename_i c findingId eventId
      rcases change_spec hok with rfl | ⟨hsources, hfindings, -⟩
      · exact .refl _
      · refine .of_map (.of_eq hsources) hfindings ?_
        exact fingerprint_if _ (change_apply_unconstrained c).fingerprint
  | purge => cases hop

theorem retains_run
    (h : (ledger env).Leads (fun _ op => op.isPurge = false) s s') :
    Retains s s' :=
  h.invariant (fun _ _ _ hI hop hstep => hI.trans (retains_step hop hstep))
    (.refl s)

/-- The store has the source and the fingerprint of a record that some draws
could ingest. -/
def Covers (env : Env) (subject : Subject) (record : LeakRecord)
    (s : FindingStore) : Prop :=
  ∃ draws seenAt sourceId sourceRow₀ draft row,
    sourceRow env (normalizeSource env.unicode record.source) sourceId =
      .ok sourceRow₀ ∧
    (∃ b ∈ s.sources, b.identity = sourceRow₀.identity) ∧
    buildFindingDraft env subject sourceId
      (normalizeSource env.unicode record.source) record draws seenAt =
        .ok draft ∧
    findingRow env draft = .ok row ∧
    ∃ f ∈ s.findings, f.fingerprint = row.fingerprint

theorem Covers.mono {record : LeakRecord}
    (h : Covers env subject record s) (hs : Retains s s') :
    Covers env subject record s' := by
  obtain ⟨draws, seenAt, sourceId, srow, draft, row, hsrow,
    ⟨b, hb, hident⟩, hdraft, hrow, f, hf, hfp⟩ := h
  obtain ⟨b', hb', -, hident'⟩ := hs.sources b hb
  obtain ⟨f', hf', hfp'⟩ := hs.fingerprints f hf
  exact ⟨draws, seenAt, sourceId, srow, draft, row, hsrow,
    ⟨b', hb', hident'.trans hident⟩, hdraft, hrow, f', hf', hfp'.trans hfp⟩

/-- Draws enter a source row as its id only. -/
theorem sourceRow_redraw {source : SourceIdentity} {i j : Uuid}
    {srow : BreachSource} (h : sourceRow env source i = .ok srow) :
    sourceRow env source j = .ok { srow with id := j } := by
  obtain ⟨name, hname, h⟩ := bind_eq_ok.mp h
  obtain ⟨nameNorm, hnorm, h⟩ := bind_eq_ok.mp h
  obtain ⟨extra, hextra, h⟩ := bind_eq_ok.mp h
  cases h
  exact bind_eq_ok.mpr ⟨name, hname, bind_eq_ok.mpr ⟨nameNorm, hnorm,
    bind_eq_ok.mpr ⟨extra, hextra, rfl⟩⟩⟩

/-- What two drafts of one record share. -/
structure SameRecord (a b : FindingDraft) : Prop where
  email : b.email = a.email
  username : b.username = a.username
  phone : b.phone = a.phone
  origin : b.origin = a.origin
  identityKey : b.identityKey = a.identityKey
  fields : b.fields = a.fields
  raw : b.raw = a.raw
  fingerprint : b.fingerprint = a.fingerprint
  sha256 : b.password.map ProtectedPassword.sha256 =
    a.password.map ProtectedPassword.sha256
  mask : b.password.map ProtectedPassword.mask =
    a.password.map ProtectedPassword.mask
  length : b.password.map ProtectedPassword.length =
    a.password.map ProtectedPassword.length
  charset : b.password.map ProtectedPassword.charset =
    a.password.map ProtectedPassword.charset
  nonce : lengthIs 12 (b.password.map ProtectedPassword.nonce) = true

/-- Another nonce and another finding id. -/
theorem protectOptional_redraw {draws : RecordDraws} (draws' : RecordDraws)
    {password : Option PyStr} {p : Option ProtectedPassword}
    (h : protectOptional env draws password = .ok p) :
    ∃ q, protectOptional env draws' password = .ok q ∧
      q.map ProtectedPassword.sha256 = p.map ProtectedPassword.sha256 ∧
      q.map ProtectedPassword.mask = p.map ProtectedPassword.mask ∧
      q.map ProtectedPassword.length = p.map ProtectedPassword.length ∧
      q.map ProtectedPassword.charset = p.map ProtectedPassword.charset ∧
      lengthIs 12 (q.map ProtectedPassword.nonce) = true := by
  cases password with
  | none =>
      cases h
      exact ⟨none, rfl, rfl, rfl, rfl, rfl, rfl⟩
  | some text =>
      obtain ⟨a, ha, h⟩ := bind_eq_ok.mp h
      cases h
      obtain ⟨plaintext, hplain, ha⟩ := bind_eq_ok.mp ha
      cases ha
      refine ⟨some _, bind_eq_ok.mpr ⟨_, bind_eq_ok.mpr
        ⟨plaintext, hplain, rfl⟩, rfl⟩, rfl, rfl, rfl, rfl, ?_⟩
      exact beq_iff_eq.mpr draws'.nonce.length_eq

theorem buildFindingDraft_redraw {sourceId : Uuid} {source : SourceIdentity}
    {record : LeakRecord} {draws : RecordDraws} {draft : FindingDraft}
    (sourceId' : Uuid) (draws' : RecordDraws) (seenAt' : Timestamp)
    (h : buildFindingDraft env subject sourceId source record draws seenAt =
      .ok draft) :
    ∃ draft', buildFindingDraft env subject sourceId' source record draws'
      seenAt' = .ok draft' ∧ SameRecord draft draft' := by
  obtain ⟨password, hpassword, h⟩ := bind_eq_ok.mp h
  obtain ⟨email, hemail, h⟩ := bind_eq_ok.mp h
  obtain ⟨username, husername, h⟩ := bind_eq_ok.mp h
  obtain ⟨phone, hphone, h⟩ := bind_eq_ok.mp h
  obtain ⟨key, hkey, h⟩ := bind_eq_ok.mp h
  obtain ⟨fingerprint, hfp, h⟩ := bind_eq_ok.mp h
  cases h
  obtain ⟨q, hq, hsha, hmask, hlength, hcharset, hnonce⟩ :=
    protectOptional_redraw draws' hpassword
  rw [← hsha] at hfp
  refine ⟨_, bind_eq_ok.mpr ⟨q, hq, bind_eq_ok.mpr ⟨email, hemail,
    bind_eq_ok.mpr ⟨username, husername, bind_eq_ok.mpr ⟨phone, hphone,
      bind_eq_ok.mpr ⟨key, hkey, bind_eq_ok.mpr ⟨fingerprint, hfp, rfl⟩⟩⟩⟩⟩⟩,
    ?_⟩
  exact ⟨rfl, rfl, rfl, rfl, rfl, rfl, rfl, rfl, hsha, hmask, hlength,
    hcharset, hnonce⟩

theorem findingRow_redraw {draft draft' : FindingDraft}
    (hsame : SameRecord draft draft') (h : findingRow env draft = .ok row) :
    ∃ row', findingRow env draft' = .ok row' ∧
      row'.fingerprint = row.fingerprint := by
  obtain ⟨email, hemail, h⟩ := bind_eq_ok.mp h
  obtain ⟨username, husername, h⟩ := bind_eq_ok.mp h
  obtain ⟨phone, hphone, h⟩ := bind_eq_ok.mp h
  obtain ⟨origin, horigin, h⟩ := bind_eq_ok.mp h
  obtain ⟨mask, hmask, h⟩ := bind_eq_ok.mp h
  obtain ⟨length, hlength, h⟩ := bind_eq_ok.mp h
  obtain ⟨charset, hcharset, h⟩ := bind_eq_ok.mp h
  obtain ⟨fields, hfields, h⟩ := bind_eq_ok.mp h
  obtain ⟨raw, hraw, h⟩ := bind_eq_ok.mp h
  simp only at h
  split at h
  · rename_i hchecked
    cases h
    rw [← hsame.email] at hemail
    rw [← hsame.username] at husername
    rw [← hsame.phone] at hphone
    rw [← hsame.origin] at horigin
    rw [← hsame.mask] at hmask
    rw [← hsame.length] at hlength
    rw [← hsame.charset] at hcharset
    rw [← hsame.fields] at hfields
    rw [← hsame.raw] at hraw
    simp only [checked, Bool.and_eq_true] at hchecked
    refine ⟨_, bind_eq_ok.mpr ⟨email, hemail, bind_eq_ok.mpr ⟨username,
      husername, bind_eq_ok.mpr ⟨phone, hphone, bind_eq_ok.mpr ⟨origin,
        horigin, bind_eq_ok.mpr ⟨mask, hmask, bind_eq_ok.mpr ⟨length, hlength,
          bind_eq_ok.mpr ⟨charset, hcharset, bind_eq_ok.mpr ⟨fields, hfields,
            bind_eq_ok.mpr ⟨raw, hraw, if_pos ?_⟩⟩⟩⟩⟩⟩⟩⟩⟩, ?_⟩
    · simp only [checked, Bool.and_eq_true]
      rw [hsame.fingerprint, hsame.identityKey, hsame.sha256]
      exact ⟨⟨⟨hchecked.1.1.1, hchecked.1.1.2⟩, hchecked.1.2⟩, hsame.nonce⟩
    · exact hsame.fingerprint
  · cases h

theorem resolveSource_known {source : SourceIdentity} {i : Uuid}
    {srow : BreachSource} (newId : Uuid) (hsrow : sourceRow env source i = .ok srow)
    (hb : ∃ b ∈ s.sources, b.identity = srow.identity) :
    ∃ s₁ sourceId, s.resolveSource env source newId = .ok (s₁, sourceId) := by
  cases hfind : s.sources.find? fun b => decide (b.identity = srow.identity) with
  | none =>
      obtain ⟨b, hb, hident⟩ := hb
      have hno := List.find?_eq_none.mp hfind b hb
      exact absurd (decide_eq_true hident) hno
  | some old =>
      obtain ⟨s₁, h₁⟩ := exists_ofRows
        (intact_refreshSource (s := s) { srow with id := newId } old.id)
      refine ⟨s₁, old.id, bind_eq_ok.mpr ⟨_, sourceRow_redraw hsrow, ?_⟩⟩
      have hfind' : (s.sources.find? fun b => decide (b.identity =
          BreachSource.identity { srow with id := newId })) = some old := hfind
      simp only [hfind']
      exact bind_eq_ok.mpr ⟨s₁, h₁, rfl⟩

theorem refreshFinding_unconstrained (row : Finding) :
    Unconstrained (refreshFinding row) :=
  ⟨fun _ => rfl, fun _ => rfl, fun _ => rfl, fun _ => rfl⟩

theorem upsertFinding_known {draft : FindingDraft}
    (hrow : findingRow env draft = .ok row)
    (hf : ∃ f ∈ s.findings, f.fingerprint = row.fingerprint) :
    ∃ s' finding, s.upsertFinding env draft = .ok (s', finding, false) := by
  cases hfind : s.findings.find? fun f =>
      decide (f.fingerprint = row.fingerprint) with
  | none =>
      obtain ⟨f, hf, hfp⟩ := hf
      have hno := List.find?_eq_none.mp hfind f hf
      exact absurd (decide_eq_true hfp) hno
  | some old =>
      obtain ⟨s', h'⟩ := exists_ofRows (intact_rewrite (s := s) (i := old.id)
        (refreshFinding_unconstrained row) fun f hf _ j hj =>
          supersededBy hf hj)
      refine ⟨s', refreshFinding row old, bind_eq_ok.mpr ⟨row, hrow, ?_⟩⟩
      simp only [hfind]
      exact bind_eq_ok.mpr ⟨s', h', rfl⟩

/-- A covered record is ingested, and is not new. -/
theorem ingestRecord_covered (actorId : Option Uuid) (seenAt : Timestamp)
    (sum : IngestSummary) (h : Covers env subject entry.1 s) :
    ∃ s' sum', ingestRecord env subject actorId seenAt (s, sum) entry =
        .ok (s', sum') ∧ sum'.newCount = sum.newCount ∧
      sum'.reLeakedCount = sum.reLeakedCount := by
  obtain ⟨draws, seenAt₀, sourceId₀, srow, draft₀, row₀, hsrow, hb, hdraft₀,
    hrow₀, f, hf, hfp⟩ := h
  obtain ⟨s₁, sourceId, h₁⟩ :=
    resolveSource_known entry.2.sourceId hsrow hb
  obtain ⟨draft, hdraft, hsame⟩ :=
    buildFindingDraft_redraw sourceId entry.2 seenAt hdraft₀
  obtain ⟨row, hrow, hrowfp⟩ := findingRow_redraw hsame hrow₀
  have hf₁ : ∃ f ∈ s₁.findings, f.fingerprint = row.fingerprint :=
    ⟨f, (resolveSource_spec h₁).findings ▸ hf, hfp.trans hrowfp.symm⟩
  obtain ⟨s', finding, h'⟩ := upsertFinding_known hrow hf₁
  refine ⟨s', { sum with findings := sum.findings ++ [finding.id] }, ?_, rfl,
    rfl⟩
  exact bind_eq_ok.mpr ⟨(s₁, sourceId), h₁, bind_eq_ok.mpr ⟨draft, hdraft,
    bind_eq_ok.mpr ⟨(s', finding, false), h', rfl⟩⟩⟩

theorem Ingested.covers
    (h : Ingested env subject actorId seenAt entry s sum s' sum') :
    Covers env subject entry.1 s' := by
  have hretains := h.retains
  cases h with
  | @known s₁ sourceId draft row old hsource hdraft hrow hold hfp hsources _ _ =>
      obtain ⟨srow, hsrow, b, hb, -, hident⟩ := hsource.source
      obtain ⟨f, hf, hffp⟩ := hretains.fingerprints old hold
      refine ⟨entry.2, seenAt, sourceId, { srow with id := sourceId }, draft,
        row, sourceRow_redraw hsrow, ⟨b, hsources ▸ hb, hident⟩, hdraft, hrow,
        f, hf, hffp.trans hfp⟩
  | @fresh s₁ s₂ sourceId draft row _ hsource hdraft hrow _ hsources hfindings
      _ hrecorded =>
      obtain ⟨srow, hsrow, b, hb, -, hident⟩ := hsource.source
      have hlast := hrecorded.retains
      obtain ⟨b', hb', -, hident'⟩ := hlast.sources b (hsources ▸ hb)
      obtain ⟨f, hf, hffp⟩ := hlast.fingerprints row
        (hfindings ▸ List.mem_append_right _ List.mem_cons_self)
      exact ⟨entry.2, seenAt, sourceId, { srow with id := sourceId }, draft,
        row, sourceRow_redraw hsrow, ⟨b', hb', hident'.trans hident⟩, hdraft,
        hrow, f, hf, hffp⟩

/-- After a call the store covers all its records. -/
theorem ingestLoop_covers {acc acc' : FindingStore × IngestSummary}
    (h : records.foldlM (ingestRecord env subject actorId seenAt) acc =
      .ok acc') :
    Retains acc.1 acc'.1 ∧
      ∀ record ∈ records.map Prod.fst, Covers env subject record acc'.1 := by
  induction records generalizing acc with
  | nil =>
      rw [foldlM_nil_eq_ok] at h
      subst h
      exact ⟨.refl _, fun _ hr => nomatch hr⟩
  | cons entry records ih =>
      obtain ⟨acc₁, h₁, hrest⟩ := foldlM_cons_eq_ok.mp h
      have hone := ingestRecord_spec h₁
      obtain ⟨hretains, hcovers⟩ := ih hrest
      refine ⟨hone.retains.trans hretains, fun record hr => ?_⟩
      rcases List.mem_cons.mp hr with rfl | hr
      · exact hone.covers.mono hretains
      · exact hcovers record hr

/-- Ingesting covered records inserts nothing. -/
theorem ingestLoop_covered (actorId : Option Uuid) (seenAt : Timestamp)
    (acc : FindingStore × IngestSummary)
    (h : ∀ record ∈ records.map Prod.fst, Covers env subject record acc.1) :
    ∃ acc', records.foldlM (ingestRecord env subject actorId seenAt) acc =
        .ok acc' ∧ acc'.2.newCount = acc.2.newCount ∧
      acc'.2.reLeakedCount = acc.2.reLeakedCount := by
  induction records generalizing acc with
  | nil => exact ⟨acc, rfl, rfl, rfl⟩
  | cons entry records ih =>
      obtain ⟨s, sum⟩ := acc
      obtain ⟨s₁, sum₁, h₁, hnew, hre⟩ :=
        ingestRecord_covered actorId seenAt sum (h entry.1 List.mem_cons_self)
      have hretains := (ingestRecord_spec h₁).retains
      obtain ⟨acc', hrest, hnew', hre'⟩ := ih (s₁, sum₁)
        fun record hr => (h record (List.mem_cons_of_mem _ hr)).mono hretains
      exact ⟨acc', foldlM_cons_eq_ok.mpr ⟨_, h₁, hrest⟩, hnew'.trans hnew,
        hre'.trans hre⟩

/-! ## §5  The law -/

/-- **Discoveries.** In every state that ingests, remediations and reopenings
reach, fingerprints are unique and each finding was discovered once; a call
reports exactly the findings it inserted, and the same records ingested again
at any later point report nothing; a record whose fingerprint is known changes
its row in `last_seen_at`, `raw`, `fields` and `origin` and nothing else. -/
theorem discoveries (h : (ledger env).ReachableUnder
      (fun _ op => op.isPurge = false) s) :
    (s.findings.map Finding.fingerprint).Nodup ∧
    (∀ f ∈ s.findings, s.events.countP (isDiscovery f.id) = 1) ∧
    (∀ subject records actorId now s₁ sum,
      ingestRecords env subject actorId now records s = .ok (s₁, sum) →
        s₁.findings.map Finding.id =
          s.findings.map Finding.id ++ sum.newFindingIds ∧
        sum.newCount = sum.newFindingIds.length ∧
        ∀ s₂, (ledger env).Leads (fun _ op => op.isPurge = false) s₁ s₂ →
          ∀ again : Batch, again.map Prod.fst = records.map Prod.fst →
            ∀ actorId' now', ∃ s₃ sum',
              ingestRecords env subject actorId' now' again s₂ =
                .ok (s₃, sum') ∧
              sum'.newCount = 0 ∧ sum'.reLeakedCount = 0) ∧
    ∀ (t t' : FindingStore) subject actorId now sum sum' entry f,
      f ∈ t.findings →
      recordFingerprint env subject entry.1 = .ok f.fingerprint →
      ingestRecord env subject actorId now (t, sum) entry = .ok (t', sum') →
        t'.events = t.events ∧ ∃ raw fields origin,
          t'.findings = t.findings.map fun g =>
            if g.id = f.id then { g with
              lastSeenAt := now
              raw := raw
              fields := fields
              origin := origin }
            else g := by
  refine ⟨s.intact.fingerprints, ?_, ?_, ?_⟩
  · refine h.invariant (I := DiscoveredOnce) ?_
      fun _ _ _ hs hop hstep => discoveredOnce_step hs hop hstep
    intro s₀ hinit f hf
    rw [hinit.1] at hf
    cases hf
  · intro subject records actorId now s₁ sum hok
    have hreports := ingestRecords_reports hok
    refine ⟨hreports.ids, hreports.count, ?_⟩
    intro s₂ hrun again hagain actorId' now'
    have hcovers := (ingestLoop_covers hok).2
    have hcovered : ∀ record ∈ again.map Prod.fst,
        Covers env subject record s₂ := by
      intro record hr
      rw [hagain] at hr
      exact (hcovers record hr).mono (retains_run hrun)
    obtain ⟨acc, hacc, hnew, hre⟩ :=
      ingestLoop_covered actorId' now' (s₂, .empty) hcovered
    exact ⟨acc.1, acc.2, hacc, hnew, hre⟩
  · intro t t' subject actorId now sum sum' entry f hf hfp hok
    obtain ⟨hevents, ⟨row, hseen, hfindings⟩, -⟩ :=
      ingestRecord_known hf hfp hok
    refine ⟨hevents, row.raw, row.fields, row.origin, ?_⟩
    rw [hfindings, ← hseen]
    rfl

/-- A leak is found, closed, and found again with another password. -/
def closedAndLeakedAgain : List Op :=
  [.ingest sampleSubject [firstLeak] none 10,
    .change (.remediate 5 none 20) 6 401,
    .ingest sampleSubject [firstLeak, secondLeak] none 30]

theorem leaked_again_discovered_once :
    ∃ s, (ledger sampleEnv).runUnder (fun _ op => op.isPurge = false)
        FindingStore.empty closedAndLeakedAgain = some s ∧
      s.findings.map Finding.id = [6, 7] ∧
      ∀ f ∈ s.findings, s.events.countP (isDiscovery f.id) = 1 := by
  obtain ⟨s, hrun, hids⟩ := System.exists_of_runUnder
    (p := fun s : FindingStore => s.findings.map Finding.id = [6, 7])
    (show ((ledger sampleEnv).runUnder (fun _ op => op.isPurge = false)
      FindingStore.empty closedAndLeakedAgain).any _ = true by decide)
  exact ⟨s, hrun, hids, (discoveries (System.reachable_of_runUnder
    (empty_initial sampleEnv) hrun)).2.1⟩

end LeakcheckHub.Findings
