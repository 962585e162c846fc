import LeakcheckHub.Client.Pages
import LeakcheckHub.Foundation.Decimal
import LeakcheckHub.Foundation.Selections
import LeakcheckHub.Portal.Pages
import Mathlib.Data.List.Infix

/-!
# The findings of a subject

`_finding_views` of `app/routers/analyst.py`, for the subject page and for the
CSV export. State and dates are filtered by the database before its limit, the
text by the application after it.

§1 filters · §2 the select · §3 views · §4 the export · §5 what is shown.
-/

namespace LeakcheckHub.Analyst

open Foundation Findings Portal

/-! ## §1  Filters -/

structure FindingFilters where
  state : PyStr
  source : PyStr
  dateFrom : Option Date
  dateTo : Option Date

/-- The calendar order of dates; `0` comes before all of them. -/
def dateKey : Option Date → ℕ
  | none => 0
  | some d => d.year * 10000 + d.month * 100 + d.day

/-- `_parse_filter_date`. -/
def parseFilterDate (value : PyStr) : Except PortalError (Option Date) :=
  if value.isEmpty then .ok none
  else
    match Date.fromisoformat value with
    | none => .error (.http 422 (PyStr.lit "Invalid date filter."))
    | some d => .ok (some d)

def filterStates : List PyStr :=
  ["all", "unremediated", "remediated", "releaked"].map PyStr.lit

/-- `FindingFilters.from_request`. -/
def FindingFilters.fromRequest (U : UnicodeData)
    (queryParams : String → Option PyStr) :
    Except PortalError FindingFilters := do
  let state := (queryParams "state").getD (PyStr.lit "all")
  if filterStates.contains state then
    let source := ((queryParams "source").getD []).strip
    if source.length > 1024 ∨ (source.any fun c => !U.isPrintable c) = true then
      .error (.http 422 (PyStr.lit "Invalid source filter."))
    else do
      let dateFrom ← parseFilterDate ((queryParams "date_from").getD [])
      let dateTo ← parseFilterDate ((queryParams "date_to").getD [])
      if dateFrom.isSome ∧ dateTo.isSome ∧ dateKey dateFrom > dateKey dateTo then
        .error (.http 422
          (PyStr.lit "The start date must not follow the end date."))
      else .ok ⟨state, source, dateFrom, dateTo⟩
  else .error (.http 422 (PyStr.lit "Invalid finding state filter."))

/-! ## §2  The select -/

abbrev Row : Type := Finding × BreachSource

/-- `_apply_filters`. No date is within a bound that it is `NULL` for. -/
def applyFilters (filters : FindingFilters) (row : Row) : Bool :=
  (if filters.state = PyStr.lit "unremediated" then row.1.remediatedAt.isNone
    else if filters.state = PyStr.lit "remediated" then
      row.1.remediatedAt.isSome
    else if filters.state = PyStr.lit "releaked" then row.1.severity == .high
    else true) &&
  (filters.dateFrom.all fun d =>
    row.2.breachDate.any fun at_ => dateKey (some d) ≤ dateKey (some at_)) &&
  filters.dateTo.all fun d =>
    row.2.breachDate.any fun at_ => dateKey (some at_) ≤ dateKey (some d)

/-- The join with `breach_sources`. -/
def findingsOf (store : FindingStore) (subjectId : Uuid) : List Row :=
  (store.findings.filter fun f => decide (f.subjectId = subjectId)).filterMap
    fun f => (store.sources.find? fun source =>
      decide (source.id = f.sourceId)).map fun source => (f, source)

/-- The rows of the statement before its order and limit. -/
def statement (store : FindingStore) (subjectId : Uuid)
    (filters : FindingFilters) : List Row :=
  (findingsOf store subjectId).filter (applyFilters filters)

/-- `ORDER BY breach_date DESC NULLS LAST, first_seen_at DESC`. -/
def displayBefore (a b : Row) : Prop :=
  dateKey b.2.breachDate < dateKey a.2.breachDate ∨
    dateKey a.2.breachDate = dateKey b.2.breachDate ∧
      b.1.firstSeenAt < a.1.firstSeenAt

/-- `_MAX_RESULTS`. -/
def maxResults : ℕ := 2000

/-! ## §3  Views -/

structure FindingView where
  id : Uuid
  source : PyStr
  breachDate : Option Date
  breachDateText : Option PyStr
  collectedDate : Option Date
  fields : List Json
  email : Option PyStr
  username : Option PyStr
  phone : Option PyStr
  origin : Option PyStr
  url : Option PyStr
  passwordMask : Option PyStr
  hasPassword : Bool
  remediatedAt : Option Timestamp
  reLeaked : Bool
  firstSeenAt : Timestamp
  lastSeenAt : Timestamp
  raw : List (PyStr × Json)

/-- `value.get` of a value that only an object has. -/
def entriesOf : Json → Except PortalError (List (PyStr × Json))
  | .obj entries => .ok entries
  | _ => .error .attributeError

/-- A text that is there and not empty. -/
def nonEmpty (value : Option PyStr) : Option PyStr :=
  value.filter fun s => !s.isEmpty

/-- `_raw_url`. -/
def rawUrl (raw : List (PyStr × Json)) : Option PyStr :=
  (nonEmpty (Client.optionalOrigin (Client.get raw "url"))).or
    (nonEmpty (Client.optionalOrigin (Client.get raw "URL")))

/-- `_raw_date`. -/
def rawDate : Option Json → Option Date
  | some (.str value) => Date.fromisoformat (value.take 10)
  | _ => none

/-- `date(year, month, 1)`, with the `ValueError` of each argument. -/
def monthOf (year month : Option ℤ) : Option Date := do
  let year ← year
  let month ← month
  if 0 ≤ year ∧ 0 ≤ month then Date.ofParts year.toNat month.toNat 1 else none

/-- One turn of the loop of `_raw_breach_date`: a year, a month or a day. -/
def breachDateText (decimal : CodePoint → Option ℕ) :
    Option Json → Option PyStr
  | some (.str value) =>
      let parsed := match value.splitOn (PyStr.ofChar '-') with
        | [year] =>
            if year.length = 4 then monthOf (PyStr.toInt decimal year) (some 1)
            else none
        | [year, month] =>
            if year.length = 4 ∧ month.length = 2 then
              monthOf (PyStr.toInt decimal year) (PyStr.toInt decimal month)
            else none
        | [_, _, _] => Date.fromisoformat value
        | _ => none
      if parsed.isSome then some value else none
  | _ => none

/-- `_raw_breach_date`. -/
def rawBreachDate (decimal : CodePoint → Option ℕ)
    (raw extra : List (PyStr × Json)) : Option PyStr :=
  let rawValue := match Client.get raw "source" with
    | some (.obj source) => Client.get source "breach_date"
    | _ => none
  (breachDateText decimal rawValue).or
    (breachDateText decimal (Client.get extra "vendor_breach_date"))

mutual

/-- `_raw_value_text`; `floatText` is `str` of a float. -/
def rawValueText (floatText : BitVec 64 → PyStr) : Json → PyStr
  | .obj entries => (PyStr.lit " ").intercalate (entryTexts floatText entries)
  | .arr items => (PyStr.lit " ").intercalate (itemTexts floatText items)
  | .null => []
  | .bool b => PyStr.lit (if b then "True" else "False")
  | .int n => PyStr.ofInt n
  | .float bits => floatText bits
  | .str s => s

def entryTexts (floatText : BitVec 64 → PyStr) :
    List (PyStr × Json) → List PyStr
  | [] => []
  | (_, item) :: rest =>
      rawValueText floatText item :: entryTexts floatText rest

def itemTexts (floatText : BitVec 64 → PyStr) : List Json → List PyStr
  | [] => []
  | item :: rest => rawValueText floatText item :: itemTexts floatText rest

end

variable (U : UnicodeData) (decimal : CodePoint → Option ℕ)
  (floatText : BitVec 64 → PyStr)

def findingView (row : Row) : Except PortalError FindingView := do
  let raw ← entriesOf row.1.raw
  let extra ← entriesOf row.2.extra
  let fields ← tupleOf row.1.fields
  pure
    { id := row.1.id
      source := row.2.name
      breachDate := row.2.breachDate
      breachDateText := rawBreachDate decimal raw extra
      collectedDate := rawDate (Client.get raw "collected")
      fields := fields
      email := row.1.email
      username := row.1.username
      phone := row.1.phone
      origin := (nonEmpty row.1.origin).or
        (Client.optionalOrigin (Client.get raw "origin"))
      url := rawUrl raw
      passwordMask := row.1.passwordMask
      hasPassword := row.1.passwordSha256.isSome
      remediatedAt := row.1.remediatedAt
      reLeaked := row.1.severity == .high
      firstSeenAt := row.1.firstSeenAt
      lastSeenAt := row.1.lastSeenAt
      raw := raw }

/-- The text filter: what is searched for occurs in the values of `raw`. -/
def mentions (filters : FindingFilters) (raw : Json) : Bool :=
  filters.source.isEmpty ||
    decide (U.casefold filters.source <:+:
      U.casefold (rawValueText floatText raw))

/-- `_finding_views`, for the rows that its select returned. -/
def findingViews (filters : FindingFilters) (rows : List Row) :
    Except PortalError (List FindingView) := do
  let views ← rows.mapM (findingView decimal)
  if filters.source.isEmpty then pure views
  else
    pure (views.filter fun item => mentions U floatText filters (.obj item.raw))

/-! ## §4  The export -/

/-- The characters a spreadsheet takes for the start of a formula. -/
def formulaStarts : List CodePoint :=
  ['=', '+', '-', '@', '\t', '\r'].map PyStr.ofChar

/-- `_csv_cell`. -/
def csvCell (value : PyStr) : PyStr :=
  if value.head?.any fun c => formulaStarts.contains c then
    39 :: value
  else value

/-- `datetime.isoformat()` of a UTC time: its microseconds only if there are
any. -/
def isoformat (t : Timestamp) : Except PortalError PyStr :=
  match Date.timestampIsoformat t with
  | none => .error .overflow
  | some text =>
      .ok (if t % 1000000 = 0 then text
        else text.take 19 ++ PyStr.lit "." ++
          Date.digits 6 (t % 1000000).toNat ++ text.drop 19)

/-- A part of `", ".join`. -/
def textOf : Json → Except PortalError PyStr
  | .str s => .ok s
  | _ => .error .typeError

def csvRow (item : FindingView) : Except PortalError (List PyStr) := do
  let fields ← item.fields.mapM textOf
  let firstSeenAt ← isoformat item.firstSeenAt
  let lastSeenAt ← isoformat item.lastSeenAt
  pure ([
    item.source,
    (item.breachDate.map Date.isoformat).getD (item.breachDateText.getD []),
    (item.collectedDate.map Date.isoformat).getD [],
    item.email.getD [],
    item.username.getD [],
    item.phone.getD [],
    item.origin.getD [],
    item.url.getD [],
    (PyStr.lit ", ").intercalate fields,
    item.passwordMask.getD [],
    PyStr.lit (if item.remediatedAt.isSome then "remediated"
      else "unremediated"),
    PyStr.lit (if item.reLeaked then "true" else "false"),
    firstSeenAt,
    lastSeenAt].map csvCell)

/-! ## §5  What is shown -/

section Shown

variable {U decimal floatText} {store : FindingStore} {subjectId : Uuid}
  {filters : FindingFilters} {rows : List Row} {row : Row}
  {views : List FindingView} {view : FindingView}

theorem csvCell_start (value : PyStr) {c : CodePoint}
    (h : (csvCell value).head? = some c) : c ∉ formulaStarts := by
  unfold csvCell at h
  split at h
  · cases h
    decide
  · rename_i hstart
    rw [h, Option.any_some, List.contains_iff_mem] at hstart
    exact hstart

/-- No exported cell is one that a spreadsheet would evaluate. -/
theorem csvRow_start {cells : List PyStr} (hrow : csvRow view = .ok cells)
    {cell : PyStr} (hcell : cell ∈ cells) {c : CodePoint}
    (hc : cell.head? = some c) : c ∉ formulaStarts := by
  obtain ⟨fields, -, hrow⟩ := bind_eq_ok.mp hrow
  obtain ⟨firstSeenAt, -, hrow⟩ := bind_eq_ok.mp hrow
  obtain ⟨lastSeenAt, -, hrow⟩ := bind_eq_ok.mp hrow
  cases hrow
  obtain ⟨value, -, rfl⟩ := List.mem_map.mp hcell
  exact csvCell_start value hc

theorem findingsOf_nodup : (findingsOf store subjectId).Nodup := by
  have hfindings := (List.Nodup.of_map _ store.intact.findingIds).filter
    fun f => decide (f.subjectId = subjectId)
  refine hfindings.filterMap fun f g row hf hg => ?_
  obtain ⟨b, -, rfl⟩ := Option.map_eq_some_iff.mp hf
  obtain ⟨c, -, hc⟩ := Option.map_eq_some_iff.mp hg
  exact (congrArg Prod.fst hc).symm

/-- No finding of the subject is lost in the join. -/
theorem mem_findingsOf : row ∈ findingsOf store subjectId ↔
    row.1 ∈ store.findings ∧ row.1.subjectId = subjectId ∧
      row.2 ∈ store.sources ∧ row.2.id = row.1.sourceId := by
  rw [findingsOf, List.mem_filterMap]
  constructor
  · rintro ⟨f, hf, hrow⟩
    obtain ⟨hmem, hsubject⟩ := List.mem_filter.mp hf
    obtain ⟨source, hsource, rfl⟩ := Option.map_eq_some_iff.mp hrow
    have hid := List.find?_some hsource
    exact ⟨hmem, of_decide_eq_true hsubject, List.mem_of_find?_eq_some hsource,
      of_decide_eq_true hid⟩
  · rintro ⟨hmem, hsubject, hsource, hid⟩
    refine ⟨row.1, List.mem_filter.mpr ⟨hmem, decide_eq_true hsubject⟩, ?_⟩
    cases hfind : store.sources.find? fun source =>
        decide (source.id = row.1.sourceId) with
    | none =>
        have hnone := List.find?_eq_none.mp hfind row.2 hsource
        exact absurd (decide_eq_true hid) hnone
    | some source =>
        have hfound := List.find?_some hfind
        have hid' : source.id = row.1.sourceId := of_decide_eq_true hfound
        have heq := List.inj_on_of_nodup_map store.intact.sourceIds
          (List.mem_of_find?_eq_some hfind) hsource (hid'.trans hid.symm)
        rw [heq]
        rfl

theorem findingView_raw (h : findingView decimal row = .ok view) :
    row.1.raw = .obj view.raw := by
  obtain ⟨raw, hraw, h⟩ := bind_eq_ok.mp h
  obtain ⟨extra, -, h⟩ := bind_eq_ok.mp h
  obtain ⟨fields, -, h⟩ := bind_eq_ok.mp h
  cases h
  unfold entriesOf at hraw
  split at hraw
  · rename_i heq
    cases hraw
    exact heq
  · cases hraw

/-- What the application writes to the columns of type `JSONB`. -/
structure Written (row : Row) : Prop where
  raw : ∃ entries, row.1.raw = .obj entries
  fields : ∃ items, row.1.fields = .arr items
  extra : ∃ entries, row.2.extra = .obj entries

theorem findingView_succeeds (h : Written row) :
    ∃ view, findingView decimal row = .ok view := by
  obtain ⟨raw, hraw⟩ := h.raw
  obtain ⟨items, hfields⟩ := h.fields
  obtain ⟨extra, hextra⟩ := h.extra
  unfold findingView
  rw [hraw, hextra, hfields]
  exact ⟨_, rfl⟩

variable (U decimal floatText filters) in
theorem findingViews_succeeds (h : ∀ row ∈ rows, Written row) :
    ∃ views, findingViews U decimal floatText filters rows = .ok views := by
  have hview : ∀ row ∈ rows,
      ∃ view, findingView decimal row = .ok view ∧ True := by
    intro row hrow
    obtain ⟨view, hview⟩ := findingView_succeeds (h row hrow)
    exact ⟨view, hview, trivial⟩
  obtain ⟨views, hviews, -⟩ := mapM_eq_ok hview
  by_cases hempty : filters.source.isEmpty = true
  · exact ⟨views, bind_eq_ok.mpr ⟨views, hviews, if_pos hempty⟩⟩
  · exact ⟨_, bind_eq_ok.mpr ⟨views, hviews, if_neg hempty⟩⟩

/-- The text filter drops the rows whose findings do not mention the text. -/
theorem findingViews_filter
    (h : findingViews U decimal floatText filters rows = .ok views) :
    (rows.filter fun row => mentions U floatText filters row.1.raw).mapM
      (findingView decimal) = .ok views := by
  obtain ⟨all, hall, h⟩ := bind_eq_ok.mp h
  have hfilter : (rows.filter fun row =>
      mentions U floatText filters row.1.raw).mapM (findingView decimal) =
        .ok (all.filter fun item =>
          mentions U floatText filters (.obj item.raw)) := by
    refine mapM_filter hall fun row _ view hview => ?_
    rw [findingView_raw hview]
  rw [hfilter]
  split at h
  · rename_i hempty
    have hself : all.filter (fun item =>
        mentions U floatText filters (.obj item.raw)) = all := by
      refine List.filter_eq_self.mpr fun item _ => ?_
      rw [mentions, hempty, Bool.true_or]
    rw [hself]
    exact h
  · exact h

/-! ### All that matches, up to the limit -/

variable (U floatText) in
/-- The subject's findings that match all filters. -/
def matching (store : FindingStore) (subjectId : Uuid)
    (filters : FindingFilters) : List Row :=
  (findingsOf store subjectId).filter fun row =>
    applyFilters filters row && mentions U floatText filters row.1.raw

variable (U decimal floatText) in
/-- The views are those of the first matching findings in display order. -/
def ShowsFirst (store : FindingStore) (subjectId : Uuid)
    (filters : FindingFilters) (views : List FindingView) : Prop :=
  ∃ first, OrderedSelection displayBefore
      (matching U floatText store subjectId filters) maxResults first ∧
    first.mapM (findingView decimal) = .ok views

theorem matching_eq : matching U floatText store subjectId filters =
    (statement store subjectId filters).filter fun row =>
      mentions U floatText filters row.1.raw := by
  rw [matching, statement, List.filter_filter]
  congr 1
  funext row
  exact Bool.and_comm _ _

/-- **The views are complete** exactly if the text filter drops none of the
rows that the limit let through, or all that it held back. -/
theorem findingViews_first_iff
    (hrows : OrderedSelection displayBefore
      (statement store subjectId filters) maxResults rows)
    (hviews : findingViews U decimal floatText filters rows = .ok views) :
    ShowsFirst U decimal floatText store subjectId filters views ↔
      (∀ row ∈ rows, mentions U floatText filters row.1.raw = true) ∨
        ∀ row ∈ statement store subjectId filters, row ∉ rows →
          mentions U floatText filters row.1.raw = false := by
  have hnodup : (statement store subjectId filters).Nodup :=
    findingsOf_nodup.filter _
  have hkept := findingViews_filter hviews
  unfold ShowsFirst
  rw [matching_eq]
  constructor
  · rintro ⟨first, hfirst, hshown⟩
    apply hrows.of_length_filter
    rw [length_of_mapM hkept, ← length_of_mapM hshown, hfirst.length]
  · intro hcases
    exact ⟨_, hrows.filter hnodup hcases, hkept⟩

end Shown

/-! ### A match behind the limit -/

def sampleSource : BreachSource :=
  ⟨2, PyStr.lit "Breach", PyStr.lit "breach", none, unknownDate, none, none,
    none, .obj []⟩

/-- The findings of one subject, each seen before the one listed before it.
The one behind the limit names an address. -/
def sampleFinding (i : ℕ) : Finding :=
  { Finding.blank (BitVec.ofNat 128 i) 1 2 (-i) with
    fingerprint := List.replicate 30 0 ++ [UInt8.ofNat (i / 256), UInt8.ofNat i]
    raw := .obj (if i = maxResults then
        [(PyStr.lit "email", .str (PyStr.lit "ada@acme.example"))]
      else []) }

def sampleRow (i : ℕ) : Row := (sampleFinding i, sampleSource)

def sampleRows (n : ℕ) : StoreRows where
  sources := [sampleSource]
  findings := (List.range n).map sampleFinding
  events := []

def sampleFilters (source : PyStr) : FindingFilters :=
  ⟨PyStr.lit "all", source, none, none⟩

def acme : FindingFilters := sampleFilters (PyStr.lit "acme")

theorem sampleFinding_id_inj {i j : ℕ} (hi : i < 65536) (hj : j < 65536)
    (h : (sampleFinding i).id = (sampleFinding j).id) : i = j := by
  have hnat := congrArg BitVec.toNat h
  simp only [sampleFinding, Finding.blank, BitVec.toNat_ofNat] at hnat
  omega

theorem sampleFinding_fingerprint_inj {i j : ℕ} (hi : i < 65536)
    (hj : j < 65536)
    (h : (sampleFinding i).fingerprint = (sampleFinding j).fingerprint) :
    i = j := by
  have hlast := List.append_cancel_left h
  rw [List.cons.injEq, List.cons.injEq] at hlast
  have hhigh := congrArg UInt8.toNat hlast.1
  have hlow := congrArg UInt8.toNat hlast.2.1
  rw [UInt8.toNat_ofNat', UInt8.toNat_ofNat'] at hhigh hlow
  omega

section Sample

variable {n : ℕ} (source : PyStr)

theorem nodup_map_sample {β : Type} {f : Finding → β}
    (hn : n ≤ 65536) (h : ∀ {i j}, i < 65536 → j < 65536 →
      f (sampleFinding i) = f (sampleFinding j) → i = j) :
    ((sampleRows n).findings.map f).Nodup := by
  show (((List.range n).map sampleFinding).map f).Nodup
  rw [List.map_map]
  refine List.Nodup.map_on ?_ List.nodup_range
  intro i hi j hj heq
  exact h (Nat.lt_of_lt_of_le (List.mem_range.mp hi) hn)
    (Nat.lt_of_lt_of_le (List.mem_range.mp hj) hn) heq

theorem all_sample {p : Finding → Bool} (h : ∀ i, p (sampleFinding i) = true) :
    (sampleRows n).findings.all p = true := by
  refine List.all_eq_true.mpr fun f hf => ?_
  obtain ⟨i, -, rfl⟩ := List.mem_map.mp hf
  exact h i

theorem sampleRows_intact (hn : n ≤ 65536) : Intact (sampleRows n) where
  sourceIds := List.nodup_singleton _
  sourceIdentities := List.nodup_singleton _
  findingIds := nodup_map_sample hn sampleFinding_id_inj
  fingerprints := nodup_map_sample hn sampleFinding_fingerprint_inj
  eventIds := List.nodup_nil
  checks := all_sample fun _ => rfl
  findingSource := all_sample fun _ => rfl
  supersededBy := all_sample fun _ => rfl
  eventFinding := rfl

def sampleStore (n : ℕ) (hn : n ≤ 65536) : FindingStore :=
  ⟨sampleRows n, sampleRows_intact hn⟩

theorem statement_sample (hn : n ≤ 65536) :
    statement (sampleStore n hn) 1 (sampleFilters source) =
      (List.range n).map sampleRow := by
  have hof : findingsOf (sampleStore n hn) 1 =
      (List.range n).map sampleRow := by
    have hsubject : (sampleStore n hn).findings.filter
        (fun f => decide (f.subjectId = 1)) =
          (List.range n).map sampleFinding := by
      refine List.filter_eq_self.mpr fun f hf => ?_
      obtain ⟨i, -, rfl⟩ := List.mem_map.mp hf
      rfl
    rw [findingsOf, hsubject, List.filterMap_map]
    exact congrFun (List.filterMap_eq_map (f := sampleRow)) _
  rw [statement, hof]
  refine List.filter_eq_self.mpr fun row hrow => ?_
  obtain ⟨i, -, rfl⟩ := List.mem_map.mp hrow
  rfl

theorem mentions_sample (i : ℕ) :
    mentions asciiData (fun _ => []) acme (sampleFinding i).raw =
      decide (i = maxResults) := by
  by_cases hi : i = maxResults
  · subst hi
    decide
  · have hraw : (sampleFinding i).raw = .obj [] := by
      show Json.obj (if i = maxResults then _ else _) = _
      rw [if_neg hi]
    rw [hraw, decide_eq_false hi]
    decide

theorem displayBefore_sample {i j : ℕ} :
    displayBefore (sampleRow i) (sampleRow j) ↔ i < j := by
  show (0 < 0 ∨ 0 = 0 ∧ -(j : ℤ) < -(i : ℤ)) ↔ i < j
  omega

theorem sampleRow_injective : Function.Injective sampleRow := by
  intro i j h
  have hseen : -(i : ℤ) = -(j : ℤ) :=
    congrArg (fun row : Row => row.1.firstSeenAt) h
  omega

/-- The order leaves nothing open here. -/
theorem sample_selection (hn : maxResults + 1 ≤ 65536) :
    OrderedSelection displayBefore
      (statement (sampleStore (maxResults + 1) hn) 1 (sampleFilters source))
      maxResults ((List.range maxResults).map sampleRow) := by
  rw [statement_sample]
  refine ⟨⟨?_, ?_, ?_⟩, ?_, ?_⟩
  · exact List.nodup_range.map sampleRow_injective
  · refine List.map_subset _ fun i hi => ?_
    rw [List.mem_range] at hi ⊢
    omega
  · rw [List.length_map, List.length_map, List.length_range, List.length_range]
    omega
  · rw [List.pairwise_map]
    refine List.pairwise_lt_range.imp fun hlt hback => ?_
    rw [displayBefore_sample] at hback
    omega
  · intro a ha hout b hb hbefore
    obtain ⟨i, hi, rfl⟩ := List.mem_map.mp ha
    obtain ⟨j, hj, rfl⟩ := List.mem_map.mp hb
    rw [displayBefore_sample] at hbefore
    rw [List.mem_range] at hj
    exact hout (List.mem_map_of_mem (List.mem_range.mpr (by omega)))

theorem sample_written : ∀ row ∈ (List.range n).map sampleRow, Written row := by
  intro row hrow
  obtain ⟨i, -, rfl⟩ := List.mem_map.mp hrow
  exact ⟨⟨_, rfl⟩, ⟨_, rfl⟩, ⟨_, rfl⟩⟩

theorem sample_views : findingViews asciiData (fun _ => none) (fun _ => [])
    acme ((List.range maxResults).map sampleRow) = .ok [] := by
  obtain ⟨views, hviews⟩ := findingViews_succeeds asciiData (fun _ => none)
    (fun _ => []) acme (sample_written (n := maxResults))
  have hnone : ((List.range maxResults).map sampleRow).filter (fun row =>
      mentions asciiData (fun _ => []) acme row.1.raw) = [] := by
    refine List.filter_eq_nil_iff.mpr fun row hrow => ?_
    obtain ⟨i, hi, rfl⟩ := List.mem_map.mp hrow
    rw [List.mem_range] at hi
    show ¬ mentions asciiData (fun _ => []) acme (sampleFinding i).raw = true
    rw [mentions_sample, decide_eq_true_eq]
    omega
  have hkept := findingViews_filter hviews
  rw [hnone] at hkept
  cases hkept
  exact hviews

/-- The 2001st finding is the only one that mentions the text, and none is
shown. -/
theorem match_behind_limit : ∃ hn : maxResults + 1 ≤ 65536,
    OrderedSelection displayBefore
      (statement (sampleStore (maxResults + 1) hn) 1 acme) maxResults
      ((List.range maxResults).map sampleRow) ∧
    findingViews asciiData (fun _ => none) (fun _ => []) acme
      ((List.range maxResults).map sampleRow) = .ok [] ∧
    ¬ ShowsFirst asciiData (fun _ => none) (fun _ => [])
      (sampleStore (maxResults + 1) hn) 1 acme [] := by
  refine ⟨by decide, sample_selection _ _, sample_views, ?_⟩
  rintro ⟨first, hfirst, hshown⟩
  have hstatement : statement (sampleStore (maxResults + 1) (by decide)) 1
      acme = (List.range (maxResults + 1)).map sampleRow :=
    statement_sample _ _
  have hlen := hfirst.length
  rw [length_of_mapM hshown, matching_eq, hstatement] at hlen
  have hmem : sampleRow maxResults ∈ ((List.range (maxResults + 1)).map
      sampleRow).filter fun row =>
        mentions asciiData (fun _ => []) acme row.1.raw := by
    refine List.mem_filter.mpr
      ⟨List.mem_map_of_mem (List.mem_range.mpr (Nat.lt_succ_self _)), ?_⟩
    exact (mentions_sample maxResults).trans (decide_eq_true rfl)
  have hpos := List.length_pos_of_mem hmem
  have hmax : maxResults = 2000 := rfl
  rw [List.length_nil] at hlen
  omega

/-- Without a text filter the first 2000 of them are shown. -/
theorem findingViews_first_unfiltered : ∃ hn : maxResults + 1 ≤ 65536, ∃ views,
    findingViews asciiData (fun _ => none) (fun _ => []) (sampleFilters [])
      ((List.range maxResults).map sampleRow) = .ok views ∧
    ShowsFirst asciiData (fun _ => none) (fun _ => [])
      (sampleStore (maxResults + 1) hn) 1 (sampleFilters []) views := by
  obtain ⟨views, hviews⟩ := findingViews_succeeds asciiData (fun _ => none)
    (fun _ => []) (sampleFilters []) (sample_written (n := maxResults))
  refine ⟨by decide, views, hviews, ?_⟩
  exact (findingViews_first_iff (sample_selection [] (by decide)) hviews).mpr
    (.inl fun _ _ => rfl)

end Sample

end LeakcheckHub.Analyst
