import LeakcheckHub.Client.Pages
import LeakcheckHub.Foundation.Decimal
import LeakcheckHub.Foundation.Outcome
import Mathlib.Data.List.Range

/-!
# Vendor queries

`LeakCheckClient.query`, with the pages of a domain and the attempts at each,
of `app/leakcheck.py`. What happens to an attempt, whether the circuit breaker
lets it pass and how `_send` ends, is given by the world that the client runs
in; when it happens is the concern of the request loop.

§1 one page · §2 the pages of a query · §3 slices · §4 the loop · §5 the law.
-/

namespace LeakcheckHub.Client

open Foundation Findings

/-! ## §1  One page -/

/-- `QueryType`, which has the values of `SubjectKind`. -/
abbrev QueryType : Type := SubjectKind

/-- The arguments of `_request_page`. -/
structure PageRequest where
  queryType : QueryType
  query : PyStr
  parameters : List (PyStr × PyStr)
deriving DecidableEq

/-- What becomes of an attempt; `none` where the circuit breaker is open. -/
abbrev World : Type := PageRequest → ℕ → Option SendOutcome

/-- The `for` of `_request_page`, with `left` attempts left. -/
def attempts (maxRetries : ℕ) (outcome : ℕ → Option SendOutcome) :
    ℕ → ℕ → Except LeakCheckError Bytes
  | 0, _ => .error failed
  | left + 1, attempt =>
      match outcome attempt with
      | none => .error circuitOpen
      | some sent =>
          match classify sent with
          | .retry final =>
              if attempt < maxRetries then
                attempts maxRetries outcome left (attempt + 1)
              else .error final
          | .raise _ e => .error e
          | .page body => .ok body

section Query

variable (loads : Bytes → Option Json) (world : World)
  (maxRetries maxDomainPages : ℕ)

/-- `_request_page`. -/
def requestPage (request : PageRequest) : Except LeakCheckError ParsedPage := do
  let body ← attempts maxRetries (world request) (maxRetries + 1) 0
  parsePage loads body

/-! ## §2  The pages of a query -/

structure QueryResult where
  queryType : QueryType
  records : List LeakRecord
  quota : Option ℕ
  found : ℕ
  truncated : Bool

/-- `_DOMAIN_PAGE_SIZE`. -/
def domainPageSize : ℕ := 1000

def domainRequest (query : PyStr) (pageNumber : ℕ) : PageRequest where
  queryType := .domain
  query := query
  parameters := [(PyStr.lit "limit", PyStr.ofNat domainPageSize),
    (PyStr.lit "offset", PyStr.ofNat (pageNumber * domainPageSize))]

/-- The loop of `_query_domain`, with `left` pages left: the requests that it
makes, and how it ends. -/
def domainPages (query : PyStr) : ℕ → ℕ → List LeakRecord → Option ℕ → ℕ →
    List PageRequest × Except LeakCheckError QueryResult
  | 0, _, records, quota, found =>
      ([], .ok ⟨.domain, records, quota, found, true⟩)
  | left + 1, pageNumber, records, _, found =>
      let request := domainRequest query pageNumber
      match requestPage loads world maxRetries request with
      | .error e => ([request], .error e)
      | .ok page =>
          let records := records ++ page.records
          let found := found + page.records.length
          if page.records.length < domainPageSize then
            ([request], .ok ⟨.domain, records, page.quota, found, false⟩)
          else
            let (sent, result) :=
              domainPages query left (pageNumber + 1) records page.quota found
            (request :: sent, result)

/-- `_query_domain`. -/
def queryDomain (query : PyStr) :
    List PageRequest × Except LeakCheckError QueryResult :=
  domainPages loads world maxRetries query maxDomainPages 0 [] none 0

/-- A `ValueError`, of which a `UnicodeEncodeError` is one, or an error of the
client. -/
inductive QueryError where
  | value
  | client (e : LeakCheckError)
deriving DecidableEq

/-- The text has between 1 and 4096 bytes of UTF-8. -/
def acceptable (query : PyStr) : Bool :=
  !query.isEmpty && query.encode.any fun bytes => decide (bytes.length ≤ 4096)

/-- `query`. -/
def query (queryType : QueryType) (query : PyStr) :
    List PageRequest × Except QueryError QueryResult :=
  if !acceptable query then ([], .error .value)
  else if queryType = .domain then
    let (sent, result) :=
      queryDomain loads world maxRetries maxDomainPages query
    (sent, result.mapError .client)
  else
    let request := ⟨queryType, query, []⟩
    ([request], (do
      let page ← requestPage loads world maxRetries request
      .ok ⟨queryType, page.records, page.quota, page.found, false⟩ :
        Except LeakCheckError QueryResult).mapError .client)

/-! ## §3  Slices -/

/-- The server answers with the records that limit and offset cut out; the
count and the quota of an answer may be anything. -/
def Slices (query : PyStr) (records : List LeakRecord) : Prop :=
  ∀ limit offset attempt body page,
    world ⟨.domain, query, [(PyStr.lit "limit", PyStr.ofNat limit),
      (PyStr.lit "offset", PyStr.ofNat offset)]⟩ attempt =
        some (.response 200 body) →
    parsePage loads body = .ok page →
      page.records = (records.drop offset).take limit

end Query

section Pages

variable {loads : Bytes → Option Json} {world : World}
  {maxRetries left pageNumber : ℕ} {q : PyStr} {records : List LeakRecord}
  {page : ParsedPage}

theorem classify_page {sent : SendOutcome} {body : Bytes}
    (h : classify sent = .page body) : sent = .response 200 body := by
  cases sent with
  | transportError => cases h
  | raised e => cases h
  | response status bytes =>
      simp only [classify] at h
      split at h
      · cases h
      · split at h
        · cases h
        · split at h
          · cases h
          · split at h
            · cases h
            · rename_i hstatus
              cases h
              rw [not_not.mp hstatus]

/-- A body comes from an attempt that the server answered. -/
theorem attempts_eq_ok {outcome : ℕ → Option SendOutcome} {body : Bytes}
    {attempt : ℕ} (h : attempts maxRetries outcome left attempt = .ok body) :
    ∃ n, outcome n = some (.response 200 body) := by
  induction left generalizing attempt with
  | zero => cases h
  | succ left ih =>
      unfold attempts at h
      split at h
      · cases h
      · rename_i sent hsent
        split at h
        · split at h
          · exact ih h
          · cases h
        · cases h
        · rename_i bytes hpage
          cases h
          exact ⟨attempt, by rw [hsent, classify_page hpage]⟩

theorem requestPage_records (hslices : Slices loads world q records)
    (h : requestPage loads world maxRetries (domainRequest q pageNumber) =
      .ok page) :
    page.records = (records.drop (pageNumber * domainPageSize)).take
      domainPageSize := by
  obtain ⟨body, hbody, hparse⟩ := bind_eq_ok.mp h
  obtain ⟨n, hn⟩ := attempts_eq_ok hbody
  exact hslices domainPageSize (pageNumber * domainPageSize) n body page hn hparse

/-! ## §4  The loop -/

/-- The page succeeds, after as many attempts as it takes. -/
def PageSucceeds (loads : Bytes → Option Json) (world : World)
    (maxRetries : ℕ) (q : PyStr) (pageNumber : ℕ) : Prop :=
  ∃ page, requestPage loads world maxRetries (domainRequest q pageNumber) =
    .ok page

/-- Where the loop stops: after its last page, or after the first that is not
full. -/
def pagesFrom (left pageNumber total : ℕ) : ℕ :=
  min left (total / domainPageSize + 1 - pageNumber)

theorem pagesFrom_stop {total : ℕ}
    (hstart : pageNumber * domainPageSize ≤ total)
    (hshort : total - pageNumber * domainPageSize < domainPageSize) :
    pagesFrom (left + 1) pageNumber total = 1 := by
  have hdiv : total / domainPageSize = pageNumber := by
    unfold domainPageSize at *
    omega
  rw [pagesFrom, hdiv]
  omega

theorem pagesFrom_next (left : ℕ) {total : ℕ}
    (hfull : (pageNumber + 1) * domainPageSize ≤ total) :
    pagesFrom (left + 1) pageNumber total =
      pagesFrom left (pageNumber + 1) total + 1 := by
  have hdiv : pageNumber + 1 ≤ total / domainPageSize :=
    (Nat.le_div_iff_mul_le (by decide)).mpr hfull
  unfold pagesFrom
  omega

/-- What is left of the records from one page on. -/
theorem length_page (hslices : Slices loads world q records)
    (h : requestPage loads world maxRetries (domainRequest q pageNumber) =
      .ok page) :
    page.records.length =
      min domainPageSize (records.length - pageNumber * domainPageSize) := by
  rw [requestPage_records hslices h, List.length_take, List.length_drop]

/-- After so many full pages the loop has their records. -/
theorem take_append_page (hslices : Slices loads world q records)
    (h : requestPage loads world maxRetries (domainRequest q pageNumber) =
      .ok page) :
    records.take (pageNumber * domainPageSize) ++ page.records =
      records.take ((pageNumber + 1) * domainPageSize) := by
  rw [requestPage_records hslices h, Nat.succ_mul, List.take_add]

/-- By induction on the pages left; the pages before were full. -/
theorem domainPages_ok (quota : Option ℕ)
    (hslices : Slices loads world q records)
    (hstart : pageNumber * domainPageSize ≤ records.length)
    (hpages : ∀ i, i < pagesFrom left pageNumber records.length →
      PageSucceeds loads world maxRetries q (pageNumber + i)) :
    ∃ quota', domainPages loads world maxRetries q left pageNumber
        (records.take (pageNumber * domainPageSize)) quota
        (pageNumber * domainPageSize) =
      ((List.range' pageNumber (pagesFrom left pageNumber records.length)).map
          (domainRequest q),
        .ok ⟨.domain, records.take ((pageNumber + left) * domainPageSize), quota',
          min records.length ((pageNumber + left) * domainPageSize),
          decide ((pageNumber + left) * domainPageSize ≤ records.length)⟩) := by
  induction left generalizing pageNumber quota with
  | zero =>
      refine ⟨quota, ?_⟩
      have hzero : pagesFrom 0 pageNumber records.length = 0 := Nat.zero_min _
      rw [domainPages, hzero, Nat.add_zero, Nat.min_eq_right hstart,
        decide_eq_true hstart]
      rfl
  | succ left ih =>
      have hfirst : 0 < pagesFrom (left + 1) pageNumber records.length := by
        have hdiv : pageNumber ≤ records.length / domainPageSize :=
          (Nat.le_div_iff_mul_le (by decide)).mpr hstart
        unfold pagesFrom
        omega
      obtain ⟨page, hpage⟩ := hpages 0 hfirst
      rw [Nat.add_zero] at hpage
      have hlength := length_page hslices hpage
      rw [domainPages]
      dsimp only
      rw [hpage]
      dsimp only
      by_cases hshort :
          records.length - pageNumber * domainPageSize < domainPageSize
      · -- the page is short, so it was the last
        have hrest : page.records.length =
            records.length - pageNumber * domainPageSize := by
          rw [hlength]
          omega
        have hall : records.length ≤ (pageNumber + 1) * domainPageSize := by
          rw [Nat.succ_mul]
          omega
        have hlast : records.length < (pageNumber + (left + 1)) * domainPageSize :=
          by
          unfold domainPageSize at *
          omega
        refine ⟨page.quota, ?_⟩
        rw [if_pos (by rw [hrest]; exact hshort), pagesFrom_stop hstart hshort,
          take_append_page hslices hpage, List.take_of_length_le hall,
          List.take_of_length_le (Nat.le_of_lt hlast),
          Nat.min_eq_left (Nat.le_of_lt hlast),
          decide_eq_false (Nat.not_le.mpr hlast), hrest,
          Nat.add_sub_cancel' hstart]
        rfl
      · have hfull : (pageNumber + 1) * domainPageSize ≤ records.length := by
          rw [Nat.succ_mul]
          omega
        have hsize : page.records.length = domainPageSize := by
          rw [hlength]
          omega
        have hnext := pagesFrom_next left hfull
        have hlater : ∀ i, i < pagesFrom left (pageNumber + 1) records.length →
            PageSucceeds loads world maxRetries q (pageNumber + 1 + i) := by
          intro i hi
          have hpage := hpages (i + 1) (by omega)
          rwa [← Nat.add_assoc, Nat.add_right_comm] at hpage
        obtain ⟨quota', hloop⟩ := ih page.quota hfull hlater
        refine ⟨quota', ?_⟩
        rw [if_neg (by rw [hsize]; exact Nat.lt_irrefl _),
          take_append_page hslices hpage, hsize, ← Nat.succ_mul, hloop, hnext,
          List.range'_succ, List.map_cons, Nat.add_assoc, Nat.add_comm 1 left]

/-- A page that fails among those that the loop comes to ends it. -/
theorem domainPages_error (quota : Option ℕ)
    (hslices : Slices loads world q records)
    (hstart : pageNumber * domainPageSize ≤ records.length)
    {i : ℕ} (hi : i < pagesFrom left pageNumber records.length)
    (hfails : ¬ PageSucceeds loads world maxRetries q (pageNumber + i))
    (before : List LeakRecord) (found : ℕ) :
    ∃ e, (domainPages loads world maxRetries q left pageNumber before quota
      found).2 = .error e := by
  induction left generalizing pageNumber quota before found i with
  | zero =>
      unfold pagesFrom at hi
      omega
  | succ left ih =>
      rw [domainPages]
      dsimp only
      cases hpage : requestPage loads world maxRetries
          (domainRequest q pageNumber) with
      | error e => exact ⟨e, rfl⟩
      | ok page =>
          cases i with
          | zero => exact absurd ⟨page, hpage⟩ hfails
          | succ i =>
              -- the loop came to a later page, so this one was full
              have hlength := length_page hslices hpage
              have hfull : (pageNumber + 1) * domainPageSize ≤ records.length := by
                by_contra hshort
                rw [pagesFrom_stop hstart (by rw [Nat.succ_mul] at hshort; omega)]
                  at hi
                omega
              have hsize : page.records.length = domainPageSize := by
                rw [hlength]
                rw [Nat.succ_mul] at hfull
                omega
              have hnext := pagesFrom_next left hfull
              dsimp only
              rw [if_neg (by rw [hsize]; exact Nat.lt_irrefl _)]
              have hfails' : ¬ PageSucceeds loads world maxRetries q
                  (pageNumber + 1 + i) := by
                rwa [Nat.add_assoc, Nat.add_comm 1 i]
              obtain ⟨e, he⟩ := ih page.quota hfull (by omega) hfails'
                (before ++ page.records) (found + page.records.length)
              exact ⟨e, he⟩

/-! ## §5  The law -/

/-- **The pages of a domain.** The query returns the first records that its
page bound allows, in the order of the server, after one request for each page
that has them; it says that they are all of them only where they are; and a
page that fails leaves no result. -/
theorem query_domain_pages (hq : acceptable q = true)
    (hslices : Slices loads world q records) (maxRetries maxDomainPages : ℕ) :
    let pages := min maxDomainPages (records.length / 1000 + 1)
    ((∀ i < pages, PageSucceeds loads world maxRetries q i) →
      ∃ quota, query loads world maxRetries maxDomainPages .domain q =
        ((List.range pages).map (domainRequest q),
          .ok ⟨.domain, records.take (1000 * maxDomainPages), quota,
            min records.length (1000 * maxDomainPages),
            decide (1000 * maxDomainPages ≤ records.length)⟩)) ∧
    ((∃ i < pages, ¬ PageSucceeds loads world maxRetries q i) →
      ∃ e, (query loads world maxRetries maxDomainPages .domain q).2 =
        .error e) ∧
    ∀ result,
      (query loads world maxRetries maxDomainPages .domain q).2 = .ok result →
        result.truncated = false → result.records = records := by
  intro pages
  have hpages : pagesFrom maxDomainPages 0 records.length = pages := rfl
  have hstart : 0 * domainPageSize ≤ records.length := by
    rw [Nat.zero_mul]
    exact Nat.zero_le _
  have hquery : query loads world maxRetries maxDomainPages .domain q =
      ((queryDomain loads world maxRetries maxDomainPages q).1,
        (queryDomain loads world maxRetries maxDomainPages q).2.mapError
          .client) := by
    unfold query
    rw [hq]
    rfl
  have hok : (∀ i < pages, PageSucceeds loads world maxRetries q i) →
      ∃ quota, query loads world maxRetries maxDomainPages .domain q =
        ((List.range pages).map (domainRequest q),
          .ok ⟨.domain, records.take (1000 * maxDomainPages), quota,
            min records.length (1000 * maxDomainPages),
            decide (1000 * maxDomainPages ≤ records.length)⟩) := by
    intro hall
    have hall' : ∀ i, i < pagesFrom maxDomainPages 0 records.length →
        PageSucceeds loads world maxRetries q (0 + i) := by
      intro i hi
      rw [Nat.zero_add]
      exact hall i hi
    obtain ⟨quota, hloop⟩ := domainPages_ok none hslices hstart hall'
    rw [Nat.zero_mul, List.take_zero, Nat.zero_add, hpages,
      ← List.range_eq_range', Nat.mul_comm] at hloop
    refine ⟨quota, ?_⟩
    rw [hquery]
    unfold queryDomain
    rw [hloop]
    rfl
  have herror : (∃ i < pages, ¬ PageSucceeds loads world maxRetries q i) →
      ∃ e, (query loads world maxRetries maxDomainPages .domain q).2 =
        .error e := by
    rintro ⟨i, hi, hfails⟩
    rw [← Nat.zero_add i] at hfails
    obtain ⟨e, he⟩ := domainPages_error none hslices hstart hi hfails [] 0
    refine ⟨.client e, ?_⟩
    rw [hquery]
    unfold queryDomain
    rw [he]
    rfl
  refine ⟨hok, herror, ?_⟩
  intro result hresult hcomplete
  by_cases hall : ∀ i < pages, PageSucceeds loads world maxRetries q i
  · obtain ⟨quota, heq⟩ := hok hall
    rw [heq, Except.ok.injEq] at hresult
    subst hresult
    have hshort := of_decide_eq_false hcomplete
    exact List.take_of_length_le (by omega)
  · simp only [not_forall] at hall
    obtain ⟨i, hi, hfails⟩ := hall
    obtain ⟨e, he⟩ := herror ⟨i, hi, hfails⟩
    rw [he] at hresult
    cases hresult

end Pages

def sampleQuery : PyStr := PyStr.lit "x.org"

/-- A page of `n` empty records, with a page-local count of seven. -/
def pageOf (n : ℕ) : Json :=
  .obj [(PyStr.lit "success", .bool true), (PyStr.lit "found", .int 7),
    (PyStr.lit "result", .arr (List.replicate n (.obj [])))]

/-- A full page and a page of 500 records. -/
def sampleLoads (body : Bytes) : Option Json :=
  if body = [1] then some (pageOf 1000)
  else if body = [2] then some (pageOf 500)
  else none

/-- The first page arrives at the second attempt. -/
def sampleWorld : World := fun request attempt =>
  if request = domainRequest sampleQuery 0 then
    if attempt = 0 then some .transportError else some (.response 200 [1])
  else if request = domainRequest sampleQuery 1 then some (.response 200 [2])
  else none

def blankRecord : LeakRecord :=
  ⟨none, none, none, none, none, [], ⟨none, none, none, none, none⟩, []⟩

def sampleRecords : List LeakRecord := List.replicate 1500 blankRecord

theorem parsePage_pageOf {loads : Bytes → Option Json} {body : Bytes} {n : ℕ}
    (h : loads body = some (pageOf n)) :
    parsePage loads body = .ok ⟨List.replicate n blankRecord, none, 7⟩ := by
  have hrecords : (List.replicate n (Json.obj [])).mapM parseRecord =
      .ok (List.replicate n blankRecord) := by
    clear h
    induction n with
    | zero => rfl
    | succ n ih =>
        rw [List.replicate_succ, List.mapM_cons, ih]
        rfl
  unfold parsePage
  rw [h]
  change (do
    let records ← (List.replicate n (Json.obj [])).mapM parseRecord
    Except.ok (ParsedPage.mk records none 7)) = _
  rw [hrecords]
  rfl

/-- The page of a request tells its limit and its offset. -/
theorem domainRequest_parameters {limit offset pageNumber : ℕ}
    (h : (⟨.domain, sampleQuery, [(PyStr.lit "limit", PyStr.ofNat limit),
      (PyStr.lit "offset", PyStr.ofNat offset)]⟩ : PageRequest) =
        domainRequest sampleQuery pageNumber) :
    limit = domainPageSize ∧ offset = pageNumber * domainPageSize := by
  have hparameters := congrArg PageRequest.parameters h
  simp only [domainRequest, List.cons.injEq, Prod.mk.injEq, true_and,
    and_true] at hparameters
  exact ⟨PyStr.ofNat_injective hparameters.1,
    PyStr.ofNat_injective hparameters.2⟩

theorem domainRequest_one_ne :
    domainRequest sampleQuery 1 ≠ domainRequest sampleQuery 0 := by
  intro h
  have hoffset := (domainRequest_parameters h).2
  exact absurd hoffset (by decide)

theorem sampleWorld_slices :
    Slices sampleLoads sampleWorld sampleQuery sampleRecords := by
  intro limit offset attempt body page hsent hparse
  have hcut : ∀ n, parsePage sampleLoads body =
      .ok ⟨List.replicate n blankRecord, none, 7⟩ →
      n = min limit (1500 - offset) →
        page.records = (sampleRecords.drop offset).take limit := by
    intro n hpage hn
    rw [hpage, Except.ok.injEq] at hparse
    rw [← hparse, sampleRecords, List.drop_replicate, List.take_replicate, hn]
  unfold sampleWorld at hsent
  split at hsent
  · rename_i hrequest
    obtain ⟨rfl, rfl⟩ := domainRequest_parameters hrequest
    split at hsent
    · cases hsent
    · cases hsent
      exact hcut 1000 (parsePage_pageOf rfl) rfl
  · split at hsent
    · rename_i hrequest
      obtain ⟨rfl, rfl⟩ := domainRequest_parameters hrequest
      cases hsent
      exact hcut 500 (parsePage_pageOf rfl) rfl
    · cases hsent

theorem sampleWorld_succeeds {i : ℕ} (hi : i < 2) :
    PageSucceeds sampleLoads sampleWorld 1 sampleQuery i := by
  rcases (by omega : i = 0 ∨ i = 1) with rfl | rfl
  · refine ⟨_, bind_eq_ok.mpr ⟨[1], ?_, parsePage_pageOf rfl⟩⟩
    rfl
  · refine ⟨_, bind_eq_ok.mpr ⟨[2], ?_, parsePage_pageOf rfl⟩⟩
    have hworld : sampleWorld (domainRequest sampleQuery 1) =
        fun _ => some (.response 200 [2]) := by
      funext attempt
      unfold sampleWorld
      rw [if_neg domainRequest_one_ne, if_pos rfl]
    rw [hworld]
    rfl

/-- Both pages where the bound allows them, and the first one where not. -/
theorem query_domain_pages_sample :
    (∃ quota, query sampleLoads sampleWorld 1 5 .domain sampleQuery =
      ([domainRequest sampleQuery 0, domainRequest sampleQuery 1],
        .ok ⟨.domain, sampleRecords, quota, 1500, false⟩)) ∧
    ∃ quota, query sampleLoads sampleWorld 1 1 .domain sampleQuery =
      ([domainRequest sampleQuery 0],
        .ok ⟨.domain, sampleRecords.take 1000, quota, 1000, true⟩) := by
  have hlength : sampleRecords.length = 1500 := List.length_replicate
  constructor
  · obtain ⟨hall, -⟩ := query_domain_pages (by decide) sampleWorld_slices 1 5
    rw [hlength] at hall
    obtain ⟨quota, hquota⟩ := hall fun i hi => sampleWorld_succeeds hi
    rw [List.take_of_length_le (by rw [hlength]; decide)] at hquota
    exact ⟨quota, hquota⟩
  · obtain ⟨hfirst, -⟩ := query_domain_pages (by decide) sampleWorld_slices 1 1
    rw [hlength] at hfirst
    obtain ⟨quota, hquota⟩ :=
      hfirst fun i hi => sampleWorld_succeeds (Nat.lt_succ_of_lt hi)
    exact ⟨quota, hquota⟩

end LeakcheckHub.Client
