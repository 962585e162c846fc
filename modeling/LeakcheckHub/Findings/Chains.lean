import LeakcheckHub.Findings.Ingest
import LeakcheckHub.Foundation.Precedence

/-!
# Chains of re-leaks

A re-leak link goes from a remediated finding to a newer one of the same
identity. Findings are reopened, remediated again and joined by others of
their identity, and the links still form disjoint chains in insertion order,
which severities and events agree with.

§1 links · §2 the invariant · §3 what keeps links · §4 a new link · §5 runs ·
§6 the law.
-/

set_option linter.unusedSectionVars false

namespace LeakcheckHub.Findings

open Foundation FindingStore

variable {env : Env} {subject : Subject} {actorId : Option Uuid}
  {seenAt : Timestamp} {s s₁ s' : FindingStore} {f f' g g' row : Finding}
  {previous : Finding} {entry : LeakRecord × RecordDraws}
  {sum sum' : IngestSummary} {source : SourceIdentity}

/-! ## §1  Links -/

def isReLeak (i : Uuid) (e : FindingEvent) : Bool :=
  decide (e.findingId = i) && e.event == .reLeaked

/-- `g` supersedes `f`. -/
def SupersededBy (s : FindingStore) (f g : Finding) : Prop :=
  f ∈ s.findings ∧ g ∈ s.findings ∧ f.supersededById = some g.id

/-- The normalized name of the source of a finding. -/
def SourceNamed (s : FindingStore) (f : Finding) (name : PyStr) : Prop :=
  ∃ b ∈ s.sources, b.id = f.sourceId ∧ b.nameNorm = name

/-- The same identity in the same, known source, with another password. -/
structure ReLeak (env : Env) (s : FindingStore) (f g : Finding) : Prop where
  subjectId : f.subjectId = g.subjectId
  identityKey : f.identityKey = g.identityKey
  keyed : f.identityKey ≠ none
  source : ∃ name, name ≠ env.unicode.casefold unknownSource ∧
    SourceNamed s f name ∧ SourceNamed s g name
  sha256 : f.passwordSha256 ≠ g.passwordSha256

/-- What a re-leak compares. -/
structure SameIdentity (f f' : Finding) : Prop where
  id : f'.id = f.id
  subjectId : f'.subjectId = f.subjectId
  sourceId : f'.sourceId = f.sourceId
  identityKey : f'.identityKey = f.identityKey
  sha256 : f'.passwordSha256 = f.passwordSha256

/-- And what a link writes. -/
structure SameLinks (f f' : Finding) : Prop extends SameIdentity f f' where
  severity : f'.severity = f.severity
  supersededById : f'.supersededById = f.supersededById

theorem SameLinks.refl (f : Finding) : SameLinks f f :=
  ⟨⟨rfl, rfl, rfl, rfl, rfl⟩, rfl, rfl⟩

theorem sameLinks_if {h : Finding → Finding} (i : Uuid)
    (hh : ∀ f, SameLinks f (h f)) (f : Finding) :
    SameLinks f (if f.id = i then h f else f) := by
  split
  · exact hh f
  · exact .refl f

/-- Sources are never renamed. -/
theorem SourceNamed.keep {name : PyStr} (hs : KeepsSources s s')
    (h : SourceNamed s f name) (hf : f'.sourceId = f.sourceId) :
    SourceNamed s' f' name := by
  obtain ⟨b, hb, hid, hname⟩ := h
  obtain ⟨b', hb', hid', hident⟩ := hs b hb
  refine ⟨b', hb', ?_, ?_⟩
  · rw [hid', hid, hf]
  · exact (congrArg Prod.fst hident).trans hname

theorem ReLeak.keep (h : ReLeak env s f g) (hs : KeepsSources s s')
    (hf : SameIdentity f f') (hg : SameIdentity g g') :
    ReLeak env s' f' g' := by
  obtain ⟨name, hknown, hfname, hgname⟩ := h.source
  constructor
  case subjectId =>
    rw [hf.subjectId, hg.subjectId]
    exact h.subjectId
  case identityKey =>
    rw [hf.identityKey, hg.identityKey]
    exact h.identityKey
  case keyed =>
    rw [hf.identityKey]
    exact h.keyed
  case source =>
    exact ⟨name, hknown, hfname.keep hs hf.sourceId,
      hgname.keep hs hg.sourceId⟩
  case sha256 =>
    rw [hf.sha256, hg.sha256]
    exact h.sha256

/-! ## §2  The invariant -/

structure Chained (env : Env) (s : FindingStore) : Prop where
  link : ∀ f g, SupersededBy s f g → ReLeak env s f g
  order : ∀ f g, SupersededBy s f g → Precedes s.findings f g
  once : ∀ f f' g, SupersededBy s f g → SupersededBy s f' g → f = f'
  severity : ∀ g ∈ s.findings,
    (g.severity = .high ↔ ∃ f, SupersededBy s f g)
  reLeaks : ∀ g ∈ s.findings, s.events.countP (isReLeak g.id) =
    if g.severity = .high then 1 else 0
  previous : ∀ e ∈ s.events, e.event = .reLeaked →
    ∃ f ∈ s.findings, f.supersededById = some e.findingId ∧
      e.meta_ = [(PyStr.lit "previous_finding_id", .str f.id.str)]
  stored : ∀ f ∈ s.findings, ∀ b ∈ s.sources, b.id = f.sourceId →
    b.nameNorm.storeVarchar 1024 = some b.nameNorm

/-- The name of a finding's source is one the column holds as it is. -/
theorem stored_keep (hs : KeepsSources s s')
    (h : ∀ b ∈ s.sources, b.id = f.sourceId →
      b.nameNorm.storeVarchar 1024 = some b.nameNorm)
    (hf : f ∈ s.findings) :
    ∀ b ∈ s'.sources, b.id = f.sourceId →
      b.nameNorm.storeVarchar 1024 = some b.nameNorm := by
  intro b hb hid
  have hmem := List.all_eq_true.mp s.intact.findingSource f hf
  obtain ⟨o, ho, hoid⟩ := List.mem_map.mp (of_decide_eq_true hmem)
  obtain ⟨b', hb', hid', hident⟩ := hs o ho
  -- ids are unique, so `b` is what `o` became
  have heq : b = b' := List.inj_on_of_nodup_map s'.intact.sourceIds hb hb'
    (hid.trans (hoid.symm.trans hid'.symm))
  have hname : b.nameNorm = o.nameNorm := by
    rw [heq]
    exact congrArg Prod.fst hident
  rw [hname]
  exact h o ho hoid

theorem countP_no_reLeak {es : List FindingEvent}
    (hes : ∀ e ∈ es, e.event ≠ .reLeaked) (i : Uuid) :
    es.countP (isReLeak i) = 0 := by
  rw [List.countP_eq_zero]
  intro e he hre
  rw [isReLeak, Bool.and_eq_true, beq_iff_eq] at hre
  exact hes e he hre.2

/-! ## §3  What keeps links -/

theorem supersededBy_map {h : Finding → Finding}
    (hh : ∀ f, SameLinks f (h f)) (hfindings : s'.findings = s.findings.map h)
    (hsup : SupersededBy s' f' g') :
    ∃ f g, f' = h f ∧ g' = h g ∧ SupersededBy s f g := by
  obtain ⟨hf, hg, hid⟩ := hsup
  rw [hfindings] at hf hg
  obtain ⟨f, hfmem, rfl⟩ := List.mem_map.mp hf
  obtain ⟨g, hgmem, rfl⟩ := List.mem_map.mp hg
  rw [(hh f).supersededById, (hh g).id] at hid
  exact ⟨f, g, rfl, rfl, hfmem, hgmem, hid⟩

theorem SupersededBy.map {h : Finding → Finding}
    (hh : ∀ f, SameLinks f (h f)) (hfindings : s'.findings = s.findings.map h)
    (hsup : SupersededBy s f g) : SupersededBy s' (h f) (h g) := by
  obtain ⟨hf, hg, hid⟩ := hsup
  refine ⟨?_, ?_, ?_⟩
  · rw [hfindings]
    exact List.mem_map_of_mem hf
  · rw [hfindings]
    exact List.mem_map_of_mem hg
  · rw [(hh f).supersededById, (hh g).id]
    exact hid

/-- A rewrite that touches no link, with events that record none. -/
theorem Chained.rewrite {h : Finding → Finding} {es : List FindingEvent}
    (hc : Chained env s) (hs : KeepsSources s s')
    (hh : ∀ f, SameLinks f (h f)) (hfindings : s'.findings = s.findings.map h)
    (hevents : s'.events = s.events ++ es)
    (hes : ∀ e ∈ es, e.event ≠ .reLeaked) : Chained env s' where
  link := by
    intro f' g' hsup
    obtain ⟨f, g, rfl, rfl, hold⟩ := supersededBy_map hh hfindings hsup
    exact (hc.link f g hold).keep hs (hh f).toSameIdentity
      (hh g).toSameIdentity
  order := by
    intro f' g' hsup
    obtain ⟨f, g, rfl, rfl, hold⟩ := supersededBy_map hh hfindings hsup
    rw [hfindings]
    exact (hc.order f g hold).map h
  once := by
    intro f₁ f₂ g' h₁ h₂
    obtain ⟨f, g, rfl, rfl, hold⟩ := supersededBy_map hh hfindings h₁
    obtain ⟨o, g₂, rfl, hg, hold₂⟩ := supersededBy_map hh hfindings h₂
    have hid : g.id = g₂.id := by
      rw [← (hh g).id, hg, (hh g₂).id]
    have heq : g₂ = g := eq_of_id hold₂.2.1 hold.2.1 hid.symm
    rw [heq] at hold₂
    rw [hc.once f o g hold hold₂]
  severity := by
    intro g' hg'
    rw [hfindings] at hg'
    obtain ⟨g, hg, rfl⟩ := List.mem_map.mp hg'
    rw [(hh g).severity, hc.severity g hg]
    constructor
    · rintro ⟨f, hsup⟩
      exact ⟨h f, hsup.map hh hfindings⟩
    · rintro ⟨f', hsup⟩
      obtain ⟨f, o, rfl, ho, hold⟩ := supersededBy_map hh hfindings hsup
      have hid : g.id = o.id := by
        rw [← (hh g).id, ho, (hh o).id]
      have heq : o = g := eq_of_id hold.2.1 hg hid.symm
      exact ⟨f, heq ▸ hold⟩
  reLeaks := by
    intro g' hg'
    rw [hfindings] at hg'
    obtain ⟨g, hg, rfl⟩ := List.mem_map.mp hg'
    rw [(hh g).severity, (hh g).id, hevents, List.countP_append,
      countP_no_reLeak hes, Nat.add_zero]
    exact hc.reLeaks g hg
  previous := by
    intro e he hre
    rw [hevents] at he
    rcases List.mem_append.mp he with he | he
    · obtain ⟨f, hf, hsup, hmeta⟩ := hc.previous e he hre
      refine ⟨h f, ?_, ?_, ?_⟩
      · rw [hfindings]
        exact List.mem_map_of_mem hf
      · rw [(hh f).supersededById]
        exact hsup
      · rw [(hh f).id]
        exact hmeta
    · exact absurd hre (hes e he)
  stored := by
    intro f' hf'
    rw [hfindings] at hf'
    obtain ⟨f, hf, rfl⟩ := List.mem_map.mp hf'
    rw [(hh f).sourceId]
    exact stored_keep hs (hc.stored f hf) hf

/-- A finding that nothing points to joins at the end. -/
theorem Chained.insert (hc : Chained env s) (hs : KeepsSources s s')
    (hfindings : s'.findings = s.findings ++ [row])
    (hevents : s'.events = s.events) (hsup : row.supersededById = none)
    (hmedium : row.severity ≠ .high)
    (hstored : ∀ b ∈ s'.sources, b.id = row.sourceId →
      b.nameNorm.storeVarchar 1024 = some b.nameNorm) : Chained env s' := by
  have hrow : row.id ∉ s.findings.map Finding.id := by
    have hnodup := s'.intact.findingIds
    rw [hfindings, List.map_append, List.nodup_append] at hnodup
    intro hmem
    exact hnodup.2.2 row.id hmem row.id List.mem_cons_self rfl
  have hmem : ∀ f, f ∈ s'.findings ↔ f ∈ s.findings ∨ f = row := by
    intro f
    rw [hfindings, List.mem_append, List.mem_singleton]
  -- an old reference leads to an old finding
  have hlinks : ∀ f g, SupersededBy s' f g ↔ SupersededBy s f g := by
    intro f g
    constructor
    · rintro ⟨hf, hg, hid⟩
      rcases (hmem f).mp hf with hf | rfl
      · obtain ⟨o, ho, hoid⟩ := supersededBy hf hid
        rcases (hmem g).mp hg with hg | rfl
        · exact ⟨hf, hg, hid⟩
        · exact absurd (hoid ▸ List.mem_map_of_mem ho) hrow
      · rw [hsup] at hid
        cases hid
    · rintro ⟨hf, hg, hid⟩
      exact ⟨(hmem f).mpr (.inl hf), (hmem g).mpr (.inl hg), hid⟩
  constructor
  case link =>
    intro f g h
    exact (hc.link f g ((hlinks f g).mp h)).keep hs
      (SameLinks.refl f).toSameIdentity (SameLinks.refl g).toSameIdentity
  case order =>
    intro f g h
    rw [hfindings]
    exact (hc.order f g ((hlinks f g).mp h)).append [row]
  case once =>
    intro f f' g h h'
    exact hc.once f f' g ((hlinks f g).mp h) ((hlinks f' g).mp h')
  case severity =>
    intro g hg
    rcases (hmem g).mp hg with hg | rfl
    · rw [hc.severity g hg]
      exact exists_congr fun f => (hlinks f g).symm
    · -- the new finding is medium and nothing leads to it
      constructor
      · exact fun hhigh => absurd hhigh hmedium
      · rintro ⟨f, h⟩
        have hold := ((hlinks f g).mp h).2.1
        exact absurd (List.mem_map_of_mem hold) hrow
  case reLeaks =>
    intro g hg
    rw [hevents]
    rcases (hmem g).mp hg with hg | rfl
    · exact hc.reLeaks g hg
    · -- an event of the new finding would be about one that was there
      rw [if_neg hmedium, List.countP_eq_zero]
      intro e he hre
      rw [isReLeak, Bool.and_eq_true, decide_eq_true_eq] at hre
      obtain ⟨f, hf, hid⟩ := eventFinding he
      exact hrow (List.mem_map.mpr ⟨f, hf, hid.trans hre.1⟩)
  case previous =>
    intro e he hre
    rw [hevents] at he
    obtain ⟨f, hf, h⟩ := hc.previous e he hre
    exact ⟨f, (hmem f).mpr (.inl hf), h⟩
  case stored =>
    intro f hf
    rcases (hmem f).mp hf with hf | rfl
    · exact stored_keep hs (hc.stored f hf) hf
    · exact hstored

/-! ## §4  A new link -/

theorem linked_sameIdentity (p c : Uuid) (f : Finding) :
    SameIdentity f (linked p c f) := by
  unfold linked
  dsimp only
  split <;> split <;> exact ⟨rfl, rfl, rfl, rfl, rfl⟩

theorem linked_severity (p c : Uuid) (f : Finding) :
    (linked p c f).severity = if f.id = c then .high else f.severity := by
  unfold linked
  dsimp only
  split <;> split <;> simp_all

theorem linked_supersededById (p c : Uuid) (f : Finding) :
    (linked p c f).supersededById =
      if f.id = p then some c else f.supersededById := by
  unfold linked
  dsimp only
  split <;> split <;> simp_all

/-- After a link the old links are there, and the new one. -/
theorem supersededBy_linked (hprevious : previous ∈ s.findings)
    (hrow : row ∈ s.findings) (hfree : previous.supersededById = none)
    (hfindings : s'.findings = s.findings.map (linked previous.id row.id)) :
    SupersededBy s' f' g' ↔ ∃ f g,
      f' = linked previous.id row.id f ∧ g' = linked previous.id row.id g ∧
        (f = previous ∧ g = row ∨ SupersededBy s f g) := by
  have hmap : ∀ {f}, f ∈ s.findings →
      linked previous.id row.id f ∈ s'.findings := by
    intro f hf
    rw [hfindings]
    exact List.mem_map_of_mem hf
  constructor
  · rintro ⟨hf', hg', hid⟩
    rw [hfindings] at hf' hg'
    obtain ⟨f, hf, rfl⟩ := List.mem_map.mp hf'
    obtain ⟨g, hg, rfl⟩ := List.mem_map.mp hg'
    refine ⟨f, g, rfl, rfl, ?_⟩
    rw [linked_supersededById, (linked_sameIdentity _ _ g).id] at hid
    by_cases hp : f.id = previous.id
    · rw [if_pos hp, Option.some.injEq] at hid
      exact .inl ⟨eq_of_id hf hprevious hp, eq_of_id hg hrow hid.symm⟩
    · rw [if_neg hp] at hid
      exact .inr ⟨hf, hg, hid⟩
  · rintro ⟨f, g, rfl, rfl, ⟨rfl, rfl⟩ | ⟨hf, hg, hid⟩⟩
    · refine ⟨hmap hprevious, hmap hrow, ?_⟩
      rw [linked_supersededById, if_pos rfl, (linked_sameIdentity _ _ g).id]
    · refine ⟨hmap hf, hmap hg, ?_⟩
      have hp : f.id ≠ previous.id := by
        intro hp
        rw [eq_of_id hf hprevious hp, hfree] at hid
        cases hid
      rw [linked_supersededById, if_neg hp, (linked_sameIdentity _ _ g).id]
      exact hid

theorem countP_reLeaked {es : List FindingEvent} {draws : RecordDraws}
    (c p i : Uuid) :
    (es ++ [discovered draws c actorId seenAt,
      reLeaked draws c p actorId seenAt]).countP (isReLeak i) =
        es.countP (isReLeak i) + if c = i then 1 else 0 := by
  have hdiscovered : isReLeak i (discovered draws c actorId seenAt) =
      false := by
    rw [isReLeak, discovered]
    exact Bool.and_false _
  have hreLeaked : isReLeak i (reLeaked draws c p actorId seenAt) =
      decide (c = i) := by
    rw [isReLeak, reLeaked]
    exact Bool.and_true _
  rw [List.countP_append, List.countP_cons, List.countP_singleton,
    hdiscovered, hreLeaked]
  simp only [decide_eq_true_eq, Bool.false_eq_true, if_false, Nat.add_zero]

/-- The name that the predecessor's source and the new finding's share. -/
theorem Predecessor.reLeak (hp : Predecessor env s row source previous)
    (hstored : ∀ b ∈ s.sources, b.id = previous.sourceId →
      b.nameNorm.storeVarchar 1024 = some b.nameNorm)
    (hsource : ∃ b ∈ s.sources, b.id = row.sourceId ∧
      source.nameNorm.storeVarchar 1024 = some b.nameNorm) :
    ReLeak env s previous row := by
  obtain ⟨b, hb, hid, hname⟩ := hp.source
  obtain ⟨c, hc, hcid, hcname⟩ := hsource
  -- the compared name is in a column, so it was stored as it is
  have heq : c.nameNorm = source.nameNorm := by
    have hkept := hstored b hb hid
    rw [hname, hcname, Option.some.injEq] at hkept
    exact hkept
  exact ⟨hp.subjectId, hp.identityKey, hp.identityKey ▸ hp.key,
    ⟨source.nameNorm, hp.known, ⟨b, hb, hid, hname⟩, ⟨c, hc, hcid, heq⟩⟩,
    hp.sha256⟩

/-- `link_releak` between a predecessor and the newest finding, with the
events the loop appends. -/
theorem Chained.link_newest {draws : RecordDraws} (hc : Chained env s)
    (hprevious : previous ∈ s.findings) (hrow : row ∈ s.findings)
    (hmedium : row.severity ≠ .high)
    (hbefore : Precedes s.findings previous row)
    (hp : Predecessor env s row source previous)
    (hsource : ∃ b ∈ s.sources, b.id = row.sourceId ∧
      source.nameNorm.storeVarchar 1024 = some b.nameNorm)
    (hsources : s'.sources = s.sources)
    (hfindings : s'.findings = s.findings.map (linked previous.id row.id))
    (hevents : s'.events = s.events ++
      [discovered draws row.id actorId seenAt,
        reLeaked draws row.id previous.id actorId seenAt]) :
    Chained env s' := by
  have hlinks : ∀ {f' g'}, SupersededBy s' f' g' ↔ ∃ f g,
      f' = linked previous.id row.id f ∧ g' = linked previous.id row.id g ∧
        (f = previous ∧ g = row ∨ SupersededBy s f g) :=
    supersededBy_linked hprevious hrow hp.free hfindings
  have hsame := linked_sameIdentity previous.id row.id
  have hnobody : ∀ f, ¬ SupersededBy s f row := fun f hsup =>
    hmedium ((hc.severity row hrow).mpr ⟨f, hsup⟩)
  have hlinked_eq : ∀ {g o}, g ∈ s.findings → o ∈ s.findings →
      linked previous.id row.id g = linked previous.id row.id o → g = o := by
    intro g o hg ho heq
    refine eq_of_id hg ho ?_
    rw [← (hsame g).id, heq, (hsame o).id]
  have hkeep : KeepsSources s s' := .of_eq hsources
  constructor
  case link =>
    intro f' g' hsup
    obtain ⟨f, g, rfl, rfl, ⟨rfl, rfl⟩ | hold⟩ := hlinks.mp hsup
    · exact (hp.reLeak (hc.stored f hprevious) hsource).keep hkeep
        (hsame f) (hsame g)
    · exact (hc.link f g hold).keep hkeep (hsame f) (hsame g)
  case order =>
    intro f' g' hsup
    rw [hfindings]
    obtain ⟨f, g, rfl, rfl, ⟨rfl, rfl⟩ | hold⟩ := hlinks.mp hsup
    · exact hbefore.map _
    · exact (hc.order f g hold).map _
  case once =>
    intro f₁ f₂ g' h₁ h₂
    obtain ⟨f, g, rfl, rfl, ⟨rfl, rfl⟩ | hold⟩ := hlinks.mp h₁
    · obtain ⟨o, g₂, rfl, hg, ⟨rfl, rfl⟩ | hold₂⟩ := hlinks.mp h₂
      · rfl
      · -- nothing led to the newest finding before
        exact absurd (hlinked_eq hrow hold₂.2.1 hg ▸ hold₂) (hnobody o)
    · obtain ⟨o, g₂, rfl, hg, ⟨rfl, rfl⟩ | hold₂⟩ := hlinks.mp h₂
      · exact absurd (hlinked_eq hold.2.1 hrow hg ▸ hold) (hnobody f)
      · have heq := hlinked_eq hold.2.1 hold₂.2.1 hg
        rw [hc.once f o g hold (heq ▸ hold₂)]
  case severity =>
    intro g' hg'
    rw [hfindings] at hg'
    obtain ⟨g, hg, rfl⟩ := List.mem_map.mp hg'
    rw [linked_severity]
    by_cases hgr : g.id = row.id
    · -- the newest finding turns high, and the new link leads to it
      obtain rfl : g = row := eq_of_id hg hrow hgr
      rw [if_pos rfl]
      exact ⟨fun _ => ⟨_, hlinks.mpr ⟨previous, g, rfl, rfl,
        .inl ⟨rfl, rfl⟩⟩⟩, fun _ => rfl⟩
    · rw [if_neg hgr, hc.severity g hg]
      constructor
      · rintro ⟨f, hsup⟩
        exact ⟨_, hlinks.mpr ⟨f, g, rfl, rfl, .inr hsup⟩⟩
      · rintro ⟨f', hsup⟩
        obtain ⟨f, o, -, ho, ⟨-, rfl⟩ | hold⟩ := hlinks.mp hsup
        · rw [hlinked_eq hg hrow ho] at hgr
          exact absurd rfl hgr
        · exact ⟨f, hlinked_eq hg hold.2.1 ho ▸ hold⟩
  case reLeaks =>
    intro g' hg'
    rw [hfindings] at hg'
    obtain ⟨g, hg, rfl⟩ := List.mem_map.mp hg'
    rw [linked_severity, (hsame g).id, hevents, countP_reLeaked,
      hc.reLeaks g hg]
    by_cases hgr : g.id = row.id
    · obtain rfl : g = row := eq_of_id hg hrow hgr
      rw [if_neg hmedium, if_pos rfl, if_pos rfl, if_pos rfl]
    · rw [if_neg (Ne.symm hgr), if_neg hgr, Nat.add_zero]
  case previous =>
    intro e he hre
    rw [hevents] at he
    rcases List.mem_append.mp he with he | he
    · obtain ⟨f, hf, hsup, hmeta⟩ := hc.previous e he hre
      refine ⟨linked previous.id row.id f, ?_, ?_, ?_⟩
      · rw [hfindings]
        exact List.mem_map_of_mem hf
      · -- the predecessor was free, so no old event is about it
        have hpf : f.id ≠ previous.id := by
          intro hpf
          rw [eq_of_id hf hprevious hpf, hp.free] at hsup
          cases hsup
        rw [linked_supersededById, if_neg hpf]
        exact hsup
      · rw [(hsame f).id]
        exact hmeta
    · rcases List.mem_cons.mp he with rfl | he
      · cases hre
      · rw [List.mem_singleton.mp he]
        refine ⟨linked previous.id row.id previous, ?_, ?_, ?_⟩
        · rw [hfindings]
          exact List.mem_map_of_mem hprevious
        · rw [linked_supersededById, if_pos rfl]
          rfl
        · rw [(hsame previous).id]
          rfl
  case stored =>
    intro f' hf'
    rw [hfindings] at hf'
    obtain ⟨f, hf, rfl⟩ := List.mem_map.mp hf'
    rw [(hsame f).sourceId]
    exact stored_keep hkeep (hc.stored f hf) hf

/-! ## §5  Runs -/

theorem sourceRow_nameNorm {newId : Uuid} {b : BreachSource}
    (h : sourceRow env source newId = .ok b) :
    source.nameNorm.storeVarchar 1024 = some b.nameNorm := by
  obtain ⟨name, -, h⟩ := bind_eq_ok.mp h
  obtain ⟨nameNorm, hnorm, h⟩ := bind_eq_ok.mp h
  obtain ⟨extra, -, h⟩ := bind_eq_ok.mp h
  cases h
  unfold varcharColumn column at hnorm
  split at hnorm
  · cases hnorm
  · rename_i hsome
    cases hnorm
    exact hsome

/-- The source a record is filed under bears its name. -/
theorem Resolved.nameNorm {newId sourceId : Uuid}
    (h : Resolved env source newId s s₁ sourceId) :
    ∃ b ∈ s₁.sources, b.id = sourceId ∧
      source.nameNorm.storeVarchar 1024 = some b.nameNorm := by
  obtain ⟨row, hrow, b, hb, hid, hident⟩ := h.source
  have hname : b.nameNorm = row.nameNorm := congrArg Prod.fst hident
  exact ⟨b, hb, hid, hname ▸ sourceRow_nameNorm hrow⟩

theorem refreshFinding_sameLinks (row f : Finding) :
    SameLinks f (refreshFinding row f) :=
  ⟨⟨rfl, rfl, rfl, rfl, rfl⟩, rfl, rfl⟩

theorem change_sameLinks (c : Change) (f : Finding) :
    SameLinks f (c.apply f) := by
  cases c <;> exact ⟨⟨rfl, rfl, rfl, rfl, rfl⟩, rfl, rfl⟩

/-- **Step lemma** for one record. -/
theorem Ingested.chained
    (h : Ingested env subject actorId seenAt entry s sum s' sum')
    (hc : Chained env s) : Chained env s' := by
  cases h with
  | @known s₁ _ _ row old hsource _ _ _ _ hsources hfindings hevents =>
      have hnone : s'.events = s.events ++ [] := by
        rw [hevents, List.append_nil]
      exact hc.rewrite (hsource.keeps.trans (.of_eq hsources))
        (sameLinks_if old.id (refreshFinding_sameLinks row)) hfindings hnone
        (fun _ he => nomatch he)
  | @fresh s₁ s₂ sourceId draft row _ hsource hdraft hrow _ hsources hfindings
      hevents hrecorded =>
      have hproposes := findingRow_proposes hrow
      have hmedium : row.severity ≠ .high := by
        rw [hproposes.severity]
        decide
      have hnamed : ∃ b ∈ s₂.sources, b.id = row.sourceId ∧
          (normalizeSource env.unicode entry.1.source).nameNorm.storeVarchar
            1024 = some b.nameNorm := by
        rw [hsources, hproposes.sourceId,
          (buildFindingDraft_spec hdraft).sourceId]
        exact hsource.nameNorm
      have hstored : ∀ b ∈ s₂.sources, b.id = row.sourceId →
          b.nameNorm.storeVarchar 1024 = some b.nameNorm := by
        intro b hb hid
        obtain ⟨c, hc', hcid, hcname⟩ := hnamed
        have heq : b = c := List.inj_on_of_nodup_map
          s₂.intact.sourceIds hb hc' (hid.trans hcid.symm)
        rw [heq]
        exact PyStr.storeVarchar_stored hcname
      have hc₂ : Chained env s₂ := hc.insert
        (hsource.keeps.trans (.of_eq hsources)) hfindings hevents
        hproposes.supersededById hmedium hstored
      cases hrecorded with
      | plain hsources' hfindings' hevents' =>
          refine hc₂.rewrite (.of_eq hsources') SameLinks.refl ?_ hevents' ?_
          · rw [hfindings', List.map_id']
          · intro e he
            rw [List.mem_singleton.mp he]
            exact fun hre => nomatch hre
      | reLeak hprevious hpred hsources' hfindings' hevents' =>
          rename_i previous
          have hold : previous ∈ s.findings := by
            rw [hfindings] at hprevious
            rcases List.mem_append.mp hprevious with hold | hself
            · exact hold
            · rw [List.mem_singleton.mp hself] at hpred
              exact absurd rfl hpred.ne
          have hlast : row ∈ s₂.findings := by
            rw [hfindings]
            exact List.mem_append_right _ List.mem_cons_self
          refine hc₂.link_newest hprevious hlast hmedium ?_ hpred hnamed
            hsources' hfindings' hevents'
          rw [hfindings]
          exact Precedes.append_last hold

theorem chained_step {op : Op} (hc : Chained env s)
    (hop : op.isPurge = false) (h : (ledger env).step s op = some s') :
    Chained env s' := by
  cases ledger_step h with
  | rolledBack => exact hc
  | ingest hok =>
      refine foldlM_invariant (I := fun acc => Chained env acc.1) hok ?_ hc
      rintro entry - ⟨s₁, sum⟩ ⟨s₂, sum₂⟩ hI hone
      exact (ingestRecord_spec hone).chained hI
  | change hok =>
      rename_i c findingId eventId
      rcases change_spec hok with rfl | ⟨hsources, hfindings, hevents⟩
      · exact hc
      · refine hc.rewrite (.of_eq hsources)
          (sameLinks_if findingId (change_sameLinks c)) hfindings hevents ?_
        intro e he
        rw [List.mem_singleton.mp he]
        cases c <;> exact fun hre => nomatch hre
  | purge => cases hop

/-- **Run lemma.** -/
theorem chained_reachable (h : (ledger env).ReachableUnder
    (fun _ op => op.isPurge = false) s) : Chained env s := by
  refine h.invariant (fun s₀ hinit => ?_)
    fun _ _ _ hc hop hstep => chained_step hc hop hstep
  obtain ⟨hfindings, hevents⟩ := hinit
  have hnone : ∀ f, f ∉ s₀.findings := by
    intro f hf
    rw [hfindings] at hf
    cases hf
  constructor
  case link =>
    exact fun f _ hsup => absurd hsup.1 (hnone f)
  case order =>
    exact fun f _ hsup => absurd hsup.1 (hnone f)
  case once =>
    exact fun f _ _ hsup _ => absurd hsup.1 (hnone f)
  case severity =>
    exact fun g hg => absurd hg (hnone g)
  case reLeaks =>
    exact fun g hg => absurd hg (hnone g)
  case previous =>
    intro e he
    rw [hevents] at he
    cases he
  case stored =>
    exact fun f hf => absurd hf (hnone f)

/-! ## §6  The law -/

/-- **Chains.** In every state that ingests, remediations and reopenings
reach: a finding and the one that supersedes it are of the same subject,
identity and known source with different passwords; links form disjoint
chains in insertion order; and a finding is severe exactly when it supersedes
one, which its single `RE_LEAKED` event names. -/
theorem chains (h : (ledger env).ReachableUnder
      (fun _ op => op.isPurge = false) s) :
    (∀ f g, SupersededBy s f g → ReLeak env s f g) ∧
    (∀ f f' g, SupersededBy s f g → SupersededBy s f' g → f = f') ∧
    (∀ f g g', SupersededBy s f g → SupersededBy s f g' → g = g') ∧
    (∀ f g, SupersededBy s f g → Precedes s.findings f g) ∧
    (∀ f, ¬ Relation.TransGen (SupersededBy s) f f) ∧
    (∀ g ∈ s.findings,
      (g.severity = .high ↔ ∃ f, SupersededBy s f g) ∧
      (g.severity = .high ↔ s.events.countP (isReLeak g.id) = 1)) ∧
    ∀ e ∈ s.events, e.event = .reLeaked →
      ∃ f g, SupersededBy s f g ∧ g.id = e.findingId ∧
        e.meta_ = [(PyStr.lit "previous_finding_id", .str f.id.str)] := by
  have hc := chained_reachable h
  refine ⟨hc.link, hc.once, ?_, hc.order, ?_, ?_, ?_⟩
  · rintro f g g' ⟨-, hg, hid⟩ ⟨-, hg', hid'⟩
    rw [hid, Option.some.injEq] at hid'
    exact eq_of_id hg hg' hid'
  · intro f
    exact Precedes.acyclic (List.Nodup.of_map _ s.intact.findingIds) hc.order
  · intro g hg
    refine ⟨hc.severity g hg, ?_⟩
    rw [hc.reLeaks g hg]
    split
    · rename_i hhigh
      exact ⟨fun _ => rfl, fun _ => hhigh⟩
    · rename_i hnot
      exact ⟨fun hhigh => absurd hhigh hnot, fun hone => nomatch hone⟩
  · intro e he hre
    obtain ⟨f, hf, hsup, hmeta⟩ := hc.previous e he hre
    obtain ⟨g, hg, hid⟩ := supersededBy hf hsup
    exact ⟨f, g, ⟨hf, hg, hid ▸ hsup⟩, hid, hmeta⟩

/-- A leak without a password is closed, comes back with one, is reopened and
closed once more, and the record comes in again. -/
def closedAndChained : List Op :=
  [.ingest sampleSubject [firstLeak] none 10,
    .change (.remediate 5 none 20) 6 401,
    .ingest sampleSubject [secondLeak] none 30,
    .change (.unremediate 5 40) 6 402, .change (.remediate 5 none 50) 6 403,
    .ingest sampleSubject [firstLeak, secondLeak] none 60]

theorem closed_and_chained :
    ∃ s f g, (ledger sampleEnv).runUnder (fun _ op => op.isPurge = false)
        FindingStore.empty closedAndChained = some s ∧
      f.id = 6 ∧ g.id = 7 ∧ SupersededBy s f g ∧
      ReLeak sampleEnv s f g ∧ Precedes s.findings f g ∧
      g.severity = .high ∧ s.events.countP (isReLeak g.id) = 1 := by
  obtain ⟨s, hrun, hids⟩ := System.exists_of_runUnder
    (p := fun s : FindingStore => s.findings.map
      (fun f => (f.id, f.supersededById)) = [(6, some 7), (7, none)])
    (show ((ledger sampleEnv).runUnder (fun _ op => op.isPurge = false)
      FindingStore.empty closedAndChained).any _ = true by decide)
  obtain ⟨hlink, -, -, horder, -, hsevere, -⟩ :=
    chains (System.reachable_of_runUnder (empty_initial sampleEnv) hrun)
  have hsix : ((6 : Uuid), some (7 : Uuid)) ∈ s.findings.map
      (fun f => (f.id, f.supersededById)) := hids ▸ List.mem_cons_self
  have hseven : ((7 : Uuid), (none : Option Uuid)) ∈ s.findings.map
      (fun f => (f.id, f.supersededById)) :=
    hids ▸ List.mem_cons_of_mem _ List.mem_cons_self
  obtain ⟨f, hf, hfid⟩ := List.mem_map.mp hsix
  obtain ⟨g, hg, hgid⟩ := List.mem_map.mp hseven
  obtain ⟨hf6, hf7⟩ := Prod.mk.inj hfid
  obtain ⟨hg7, -⟩ := Prod.mk.inj hgid
  have hsup : SupersededBy s f g := ⟨hf, hg, hf7.trans (by rw [hg7])⟩
  have hhigh := (hsevere g hg).1.mpr ⟨f, hsup⟩
  exact ⟨s, f, g, hrun, hf6, hg7, hsup, hlink f g hsup, horder f g hsup,
    hhigh, (hsevere g hg).2.mp hhigh⟩

end LeakcheckHub.Findings
