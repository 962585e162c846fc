import LeakcheckHub.Accounts.Addresses
import LeakcheckHub.Foundation.Csv
import LeakcheckHub.Pages.Analyst

/-!
# The export of a subject's findings

`export_subject_csv` of `app/routers/analyst.py`, and the link to it on the
subject's page: what the file is read back as, and that it is asked for with
the filters of the page.

§1 the export · §2 the file read back · §3 the link.
-/

namespace LeakcheckHub.Analyst

open Foundation Findings Portal

/-! ## §1  The export -/

def csvHeader : List PyStr :=
  ["source", "breach_date", "collected_date", "email", "username", "phone",
    "origin", "url", "fields", "password_mask", "state", "re_leaked",
    "first_seen_at", "last_seen_at"].map PyStr.lit

section Export

variable (U : UnicodeData) (decimal : CodePoint → Option ℕ)
  (floatText : BitVec 64 → PyStr)

/-- The text of `export_subject_csv`, for the rows that its select returned. -/
def exportSubjectCsv (filters : FindingFilters) (rows : List Row) :
    Except PortalError PyStr := do
  let findings ← findingViews U decimal floatText filters rows
  let cells ← findings.mapM csvRow
  pure (Csv.writeRows (csvHeader :: cells))

end Export

/-! ## §2  The file read back -/

section ReadBack

variable {U : UnicodeData} {decimal : CodePoint → Option ℕ}
  {floatText : BitVec 64 → PyStr} {filters : FindingFilters} {rows : List Row}
  {text : PyStr} {item : FindingView} {cells : List PyStr}

/-- A cell that no spreadsheet takes for a formula. -/
def Inert (cell : PyStr) : Prop := ∀ c, cell.head? = some c → c ∉ formulaStarts

theorem csvHeader_inert {cell : PyStr} (h : cell ∈ csvHeader) : Inert cell := by
  intro c hc
  have hall : ∀ cell ∈ csvHeader, (cell.head?.any fun c =>
      formulaStarts.contains c) = false := by decide
  have hcell := hall cell h
  rw [hc, Option.any_some, List.contains_eq_mem, decide_eq_false_iff_not] at hcell
  exact hcell

theorem length_csvRow (h : csvRow item = .ok cells) :
    cells.length = csvHeader.length := by
  obtain ⟨fields, -, h⟩ := bind_eq_ok.mp h
  obtain ⟨firstSeenAt, -, h⟩ := bind_eq_ok.mp h
  obtain ⟨lastSeenAt, -, h⟩ := bind_eq_ok.mp h
  cases h
  rfl

/-- What a `mapM` returns, item by item. -/
theorem forall₂_of_mapM {ε α β : Type} {f : α → Except ε β} {xs : List α}
    {ys : List β} (h : xs.mapM f = .ok ys) :
    List.Forall₂ (fun x y => f x = .ok y) xs ys := by
  induction xs generalizing ys with
  | nil =>
      cases h
      exact List.Forall₂.nil
  | cons x xs ih =>
      rw [List.mapM_cons] at h
      obtain ⟨y, hy, h⟩ := bind_eq_ok.mp h
      obtain ⟨ys, hys, h⟩ := bind_eq_ok.mp h
      cases h
      exact List.Forall₂.cons hy (ih hys)

theorem exists_of_forall₂ {α β : Type} {R : α → β → Prop} {xs : List α}
    {ys : List β} (h : List.Forall₂ R xs ys) {y : β} (hy : y ∈ ys) :
    ∃ x, R x y := by
  induction h with
  | nil => cases hy
  | @cons x y' _ _ hxy _ ih =>
      rcases List.mem_cons.mp hy with rfl | hy
      · exact ⟨x, hxy⟩
      · exact ih hy

/-- Read back, the file is the header and one record for each finding that the
page shows, in that order; every record has the header's columns, and no cell
is a formula. -/
theorem export_reads_back (h : exportSubjectCsv U decimal floatText filters rows =
    .ok text) : ∃ views records,
      findingViews U decimal floatText filters rows = .ok views ∧
      Csv.read text = csvHeader :: records ∧
      List.Forall₂ (fun item record => csvRow item = .ok record) views records ∧
      ∀ record ∈ Csv.read text, record.length = csvHeader.length ∧
        ∀ cell ∈ record, Inert cell := by
  obtain ⟨views, hviews, h⟩ := bind_eq_ok.mp h
  obtain ⟨records, hrecords, h⟩ := bind_eq_ok.mp h
  cases h
  have hall := forall₂_of_mapM hrecords
  refine ⟨views, records, hviews, Csv.read_writeRows _, hall, ?_⟩
  intro record hrecord
  rw [Csv.read_writeRows] at hrecord
  rcases List.mem_cons.mp hrecord with rfl | hrecord
  · exact ⟨rfl, fun cell hcell => csvHeader_inert hcell⟩
  · obtain ⟨item, hrow⟩ := exists_of_forall₂ hall hrecord
    exact ⟨length_csvRow hrow, fun cell hcell c hc => csvRow_start hrow hcell hc⟩

/-- A username with a comma, quotes and a line break, which looks like a
formula. -/
def quotedRow : Row :=
  ({ sampleFinding 0 with
    username := some (PyStr.lit "=ana \"ops\",\nbea")
    fields := .arr [.str (PyStr.lit "email"), .str (PyStr.lit "phone")] },
    sampleSource)

theorem export_reads_back_sample : ∃ text views records,
    exportSubjectCsv asciiData (fun _ => none) (fun _ => []) (sampleFilters [])
      [quotedRow, sampleRow 1] = .ok text ∧
      PyStr.lit "\"'=ana \"\"ops\"\",\nbea\"" <:+: text ∧
      records.map (fun record => record.getD 4 []) =
        [PyStr.lit "'=ana \"ops\",\nbea", []] ∧
      findingViews asciiData (fun _ => none) (fun _ => []) (sampleFilters [])
        [quotedRow, sampleRow 1] = .ok views ∧
      Csv.read text = csvHeader :: records ∧
      List.Forall₂ (fun item record => csvRow item = .ok record) views records ∧
      ∀ record ∈ Csv.read text, record.length = csvHeader.length ∧
        ∀ cell ∈ record, Inert cell := by
  have hrun : ((exportSubjectCsv asciiData (fun _ => none) (fun _ => [])
      (sampleFilters []) [quotedRow, sampleRow 1]).toOption.any fun text =>
        decide (PyStr.lit "\"'=ana \"\"ops\"\",\nbea\"" <:+: text ∧
          (Csv.read text).tail.map (fun record => record.getD 4 []) =
            [PyStr.lit "'=ana \"ops\",\nbea", []])) = true := by
    decide +kernel
  cases hok : exportSubjectCsv asciiData (fun _ => none) (fun _ => [])
      (sampleFilters []) [quotedRow, sampleRow 1] with
  | error e =>
      rw [hok] at hrun
      cases hrun
  | ok text =>
      rw [hok] at hrun
      obtain ⟨hquoted, hcells⟩ := of_decide_eq_true hrun
      obtain ⟨views, records, hviews, hread, hall⟩ := export_reads_back hok
      rw [hread] at hcells
      exact ⟨text, views, records, rfl, hquoted, hcells, hviews, hread, hall⟩

end ReadBack

/-! ## §3  The link -/

section Link

variable {U : UnicodeData} {queryParams : String → Option PyStr}
  {filters : FindingFilters} {text : PyStr}

def dateText (value : Option Date) : PyStr := (value.map Date.isoformat).getD []

theorem parseFilterDate_dateText (value : Option Date) :
    parseFilterDate (dateText value) = .ok value := by
  cases value with
  | none => rfl
  | some day =>
      have hfull : day.isoformat.isEmpty = false := by
        cases htext : day.isoformat with
        | nil =>
            have hlength := congrArg List.length htext
            simp [Date.isoformat, Date.length_digits] at hlength
        | cons => rfl
      simp [dateText, parseFilterDate, hfull, Date.fromisoformat_isoformat]

/-- What `from_request` accepts. -/
structure Accepted (U : UnicodeData) (filters : FindingFilters) : Prop where
  state : filters.state ∈ filterStates
  stripped : filters.source.strip = filters.source
  short : filters.source.length ≤ 1024
  printable : ∀ c ∈ filters.source, U.isPrintable c = true
  ordered : ¬ (filters.dateFrom.isSome ∧ filters.dateTo.isSome ∧
    dateKey filters.dateFrom > dateKey filters.dateTo)

theorem accepted_of_fromRequest
    (h : FindingFilters.fromRequest U queryParams = .ok filters) :
    Accepted U filters := by
  unfold FindingFilters.fromRequest at h
  dsimp only at h
  split at h
  · rename_i hstate
    split at h
    · cases h
    · rename_i hsource
      obtain ⟨dateFrom, -, h⟩ := bind_eq_ok.mp h
      obtain ⟨dateTo, -, h⟩ := bind_eq_ok.mp h
      split at h
      · cases h
      · rename_i hordered
        cases h
        rw [not_or, Nat.not_lt, Bool.not_eq_true, List.any_eq_false] at hsource
        refine ⟨List.contains_iff_mem.mp hstate, Normalization.strip_idem _,
          hsource.1, fun c hc => ?_, hordered⟩
        simpa using hsource.2 c hc
  · cases h

/-- Accepted filters are read back from their texts. -/
theorem fromRequest_of_accepted (h : Accepted U filters)
    (hstate : queryParams "state" = some filters.state)
    (hsource : queryParams "source" = some filters.source)
    (hfrom : queryParams "date_from" = some (dateText filters.dateFrom))
    (hto : queryParams "date_to" = some (dateText filters.dateTo)) :
    FindingFilters.fromRequest U queryParams = .ok filters := by
  have hprintable : (filters.source.any fun c => !U.isPrintable c) = false := by
    rw [List.any_eq_false]
    intro c hc
    simp [h.printable c hc]
  unfold FindingFilters.fromRequest
  simp only [hstate, hsource, hfrom, hto, Option.getD_some, h.stripped,
    List.contains_iff_mem.mpr h.state, if_true, hprintable, Bool.false_eq_true,
    or_false, Nat.not_lt.mpr h.short, if_false, parseFilterDate_dateText]
  exact if_neg h.ordered

theorem dateText_scalar (value : Option Date) : PyStr.Scalar (dateText value) := by
  cases value with
  | none => exact fun c hc => absurd hc List.not_mem_nil
  | some day => exact PyStr.scalar_of_isAscii (Date.isoformat_isAscii day)

/-- The fields of the link. -/
def linkFields (filters : FindingFilters) : List (PyStr × PyStr) :=
  [(PyStr.lit "state", filters.state), (PyStr.lit "source", filters.source),
    (PyStr.lit "date_from", dateText filters.dateFrom),
    (PyStr.lit "date_to", dateText filters.dateTo)]

theorem linkFields_scalar
    (hsurrogate : ∀ c, PyStr.isSurrogate c = true → U.isPrintable c = false)
    (h : Accepted U filters) : ∀ field ∈ linkFields filters,
      PyStr.Scalar field.1 ∧ PyStr.Scalar field.2 := by
  have hsource : PyStr.Scalar filters.source := by
    intro c hc
    refine Bool.eq_false_iff.mpr fun hbad => ?_
    have hprint := h.printable c hc
    rw [hsurrogate c hbad] at hprint
    exact Bool.false_ne_true hprint
  have hstate : PyStr.Scalar filters.state := by
    have hall : ∀ state ∈ filterStates, state.isAscii = true := by decide
    exact PyStr.scalar_of_isAscii (hall _ h.state)
  have hnames : ∀ name ∈ ["state", "source", "date_from", "date_to"],
      PyStr.Scalar (PyStr.lit name) := by
    intro name hname
    have hall : ∀ name ∈ ["state", "source", "date_from", "date_to"],
        (PyStr.lit name).isAscii = true := by decide
    exact PyStr.scalar_of_isAscii (hall name hname)
  simp only [linkFields, List.forall_mem_cons, List.not_mem_nil, false_implies,
    implies_true, and_true]
  simp only [List.forall_mem_cons] at hnames
  exact ⟨⟨hnames.1, hstate⟩, ⟨hnames.2.1, hsource⟩,
    ⟨hnames.2.2.1, dateText_scalar _⟩, ⟨hnames.2.2.2.1, dateText_scalar _⟩⟩

/-- The link of the page asks for the filters of the page, whatever text is
searched for: what the browser sends is parsed to them again. `hsurrogate`
says that lone surrogates are not printable. -/
theorem export_link_same_filters
    (hsurrogate : ∀ c, PyStr.isSurrogate c = true → U.isPrintable c = false)
    (h : FindingFilters.fromRequest U queryParams = .ok filters) (subjectId : Uuid) :
    ∃ query, Pages.exportUrl subjectId filters.state filters.source
        (dateText filters.dateFrom) (dateText filters.dateTo) =
          some (PyStr.lit "/analyst/subjects/" ++ subjectId.str ++
            PyStr.lit "/export.csv?" ++ query) ∧
      FindingFilters.fromRequest U (fun name =>
        queryParam (parseQsl query) (PyStr.lit name)) = .ok filters := by
  have haccepted := accepted_of_fromRequest h
  obtain ⟨query, hquery⟩ := urlencode_scalar (linkFields_scalar hsurrogate haccepted)
  refine ⟨query, ?_, ?_⟩
  · rw [linkFields] at hquery
    rw [Pages.exportUrl, hquery]
    rfl
  · rw [parseQsl_urlencode hquery]
    exact fromRequest_of_accepted haccepted rfl rfl rfl rfl

theorem export_link_same_filters_sample : ∃ query,
    Pages.exportUrl 7 (PyStr.lit "all") (PyStr.lit "a&b=c +d%") [] [] =
      some (PyStr.lit "/analyst/subjects/" ++ Uuid.str 7 ++
        PyStr.lit "/export.csv?" ++ query) ∧
    FindingFilters.fromRequest asciiData (fun name =>
      queryParam (parseQsl query) (PyStr.lit name)) =
        .ok ⟨PyStr.lit "all", PyStr.lit "a&b=c +d%", none, none⟩ := by
  have hsurrogate : ∀ c, PyStr.isSurrogate c = true →
      asciiData.isPrintable c = false := by
    intro c hc
    simp only [PyStr.isSurrogate, Bool.and_eq_true, decide_eq_true_eq] at hc
    simp only [asciiData, Bool.and_eq_false_iff, decide_eq_false_iff_not]
    omega
  have hrequest : FindingFilters.fromRequest asciiData (fun name =>
      if name = "source" then some (PyStr.lit " a&b=c +d% ") else none) =
        .ok ⟨PyStr.lit "all", PyStr.lit "a&b=c +d%", none, none⟩ := rfl
  exact export_link_same_filters hsurrogate hrequest 7

end Link

end LeakcheckHub.Analyst
