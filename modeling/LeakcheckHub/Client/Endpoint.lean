import LeakcheckHub.Client.Queries
import LeakcheckHub.Foundation.PathSegments

/-!
# The URL of a query

The URL that `_request_page` of `app/leakcheck.py` builds and `_send` requests.
`quote` leaves letters, digits, `-`, `.`, `_` and `~` alone, and httpx removes
dot segments from an absolute URL, so the two queries `.` and `..` are no
segment of what is requested.

§1 the URL · §2 what httpx requests · §3 the law.
-/

namespace LeakcheckHub.Client

open Foundation

/-! ## §1  The URL -/

def origin : PyStr := PyStr.lit "https://leakcheck.io"

/-- `_BASE_URL`. -/
def baseUrl : PyStr := origin ++ PyStr.lit "/api/v2/query"

/-- `f"{_BASE_URL}/{quote(query, safe='')}"`. -/
def PageRequest.url (request : PageRequest) : Option PyStr :=
  (quote request.query).map fun segment => baseUrl ++ PyStr.lit "/" ++ segment

/-- The segments of `_BASE_URL`. -/
def endpoint : List Bytes :=
  [PyStr.asciiLit "api", PyStr.asciiLit "v2", PyStr.asciiLit "query"]

theorem baseUrl_eq : baseUrl = origin ++ pathFrom endpoint := by decide

theorem endpoint_not_dots : ∀ b ∈ endpoint, ¬ IsDotSegment (percentEncode b) := by
  decide

/-- The path behind the origin: the endpoint and the query. -/
theorem url_eq {request : PageRequest} {bytes : Bytes}
    (h : request.query.encode = some bytes) :
    request.url = some (origin ++ pathFrom (endpoint ++ [bytes])) := by
  have hslash : pathFrom [bytes] = PyStr.lit "/" ++ percentEncode bytes := by
    show 47 :: percentEncode bytes ++ [] = _
    rw [List.append_nil]
    rfl
  unfold PageRequest.url quote
  rw [h, baseUrl_eq, pathFrom_append, hslash]
  simp

/-! ## §2  What httpx requests -/

/-- The path of the request that httpx sends for an absolute URL: dot segments
are removed, and a path that has none is kept as it is encoded. -/
structure RemovesDots (pathOf : PyStr → PyStr) : Prop where
  keeps : ∀ segments : List Bytes,
    (∀ b ∈ segments, ¬ IsDotSegment (percentEncode b)) →
      pathOf (origin ++ pathFrom segments) = pathFrom segments
  removes : ∀ segments : List Bytes,
    DotsRemoved segments (pathOf (origin ++ pathFrom segments))

/-- The path is that of the endpoint and one segment, which stands for the
query. -/
def Addresses (pathOf : PyStr → PyStr) (request : PageRequest)
    (query : PyStr) : Prop :=
  ∃ url segment, request.url = some url ∧
    pathOf url = pathFrom endpoint ++ 47 :: segment ∧ 47 ∉ segment ∧
    unquote segment = some query

/-- No other query is requested at the path. -/
def Alone (pathOf : PyStr → PyStr) (request : PageRequest) : Prop :=
  ∀ other : PageRequest, acceptable other.query = true →
    other.url.map pathOf = request.url.map pathOf → other.query = request.query

section Paths

variable {pathOf : PyStr → PyStr} {request other : PageRequest} {query : PyStr}
  {bytes : Bytes}

theorem acceptable_spec (h : acceptable query = true) :
    query ≠ [] ∧ ∃ bytes, query.encode = some bytes := by
  unfold acceptable at h
  rw [Bool.and_eq_true, Option.any_eq_true] at h
  obtain ⟨hne, bytes, hbytes, -⟩ := h
  refine ⟨?_, bytes, hbytes⟩
  rintro rfl
  cases hne

theorem quote_of_encode (h : query.encode = some bytes) :
    quote query = some (percentEncode bytes) := by
  unfold quote
  rw [h]
  rfl

theorem dot_iff (h : query.encode = some bytes) :
    IsDotSegment (percentEncode bytes) ↔ IsDotSegment query :=
  quote_dot_iff (quote_of_encode h)

/-- A query that is no dot segment is requested at its own path. -/
theorem pathOf_url (hpath : RemovesDots pathOf)
    (h : request.query.encode = some bytes)
    (hdot : ¬ IsDotSegment request.query) :
    pathOf (origin ++ pathFrom (endpoint ++ [bytes])) =
      pathFrom (endpoint ++ [bytes]) := by
  refine hpath.keeps _ fun b hb => ?_
  rcases List.mem_append.mp hb with hb | hb
  · exact endpoint_not_dots b hb
  · rw [List.mem_singleton.mp hb, dot_iff h]
    exact hdot

theorem pathFrom_endpoint (bytes : Bytes) : pathFrom (endpoint ++ [bytes]) =
    pathFrom endpoint ++ 47 :: percentEncode bytes := by
  rw [pathFrom_append]
  show pathFrom endpoint ++ (47 :: percentEncode bytes ++ []) = _
  rw [List.append_nil]

/-- The path of a dot segment has nothing but a slash behind the endpoint. -/
theorem segment_of_dot (hpath : RemovesDots pathOf)
    (h : request.query.encode = some bytes) (hdot : IsDotSegment request.query)
    {segment : PyStr} (hslash : 47 ∉ segment)
    (heq : pathOf (origin ++ pathFrom (endpoint ++ [bytes])) =
      pathFrom endpoint ++ 47 :: segment) : segment = [] := by
  have hsplit : (pathOf (origin ++ pathFrom (endpoint ++ [bytes]))).splitOn 47 =
      [] :: (endpoint.map percentEncode ++ [segment]) := by
    rw [heq]
    exact splitOn_pathFrom_segment endpoint hslash
  exact (hpath.removes (endpoint ++ [bytes])).last ((dot_iff h).mpr hdot) hsplit
    (by decide)

theorem addresses_iff (hpath : RemovesDots pathOf)
    (haccept : acceptable request.query = true) :
    Addresses pathOf request request.query ↔ ¬ IsDotSegment request.query := by
  obtain ⟨hne, bytes, h⟩ := acceptable_spec haccept
  constructor
  · rintro ⟨url, segment, hurl, heq, hslash, hunquote⟩ hdot
    rw [url_eq h, Option.some.injEq] at hurl
    subst hurl
    rw [segment_of_dot hpath h hdot hslash heq] at hunquote
    exact hne (Option.some.inj hunquote).symm
  · intro hdot
    refine ⟨_, percentEncode bytes, url_eq h, ?_, slash_not_mem_percentEncode _,
      unquote_quote (quote_of_encode h)⟩
    rw [pathOf_url hpath h hdot, pathFrom_endpoint]

theorem alone_of_not_dot (hpath : RemovesDots pathOf)
    (haccept : acceptable request.query = true)
    (hdot : ¬ IsDotSegment request.query) : Alone pathOf request := by
  obtain ⟨-, bytes, h⟩ := acceptable_spec haccept
  intro other hother hsame
  obtain ⟨hne, bytes', h'⟩ := acceptable_spec hother
  rw [url_eq h, url_eq h', Option.map_some, Option.map_some, Option.some.injEq,
    pathOf_url hpath h hdot] at hsame
  by_cases hdot' : IsDotSegment other.query
  · -- it would have to be requested at the endpoint with an empty segment
    rw [pathFrom_endpoint bytes] at hsame
    have hempty := segment_of_dot hpath h' hdot'
      (slash_not_mem_percentEncode bytes) hsame
    have hquery := unquote_quote (quote_of_encode h)
    rw [hempty] at hquery
    obtain ⟨hnonempty, -⟩ := acceptable_spec haccept
    exact absurd (Option.some.inj hquery).symm hnonempty
  · rw [pathOf_url hpath h' hdot'] at hsame
    have hbytes := List.append_cancel_left (pathFrom_injective hsame)
    rw [List.singleton_inj] at hbytes
    subst hbytes
    exact PyStr.encode_inj h' h

end Paths

/-! ## §3  The law -/

section Law

variable {loads : Bytes → Option Json} {world : World}
  {maxRetries maxDomainPages : ℕ} {queryType : QueryType} {q : PyStr}
  {request : PageRequest}

theorem domainPages_query : ∀ (left pageNumber : ℕ)
    (records : List Findings.LeakRecord) (quota : Option ℕ) (found : ℕ),
    ∀ request ∈ (domainPages loads world maxRetries q left pageNumber records
      quota found).1, request.query = q := by
  intro left
  induction left with
  | zero => exact fun _ _ _ _ => List.forall_mem_nil _
  | succ left ih =>
      intro pageNumber records quota found request hrequest
      unfold domainPages at hrequest
      dsimp only at hrequest
      split at hrequest
      · rw [List.mem_singleton.mp hrequest]
        rfl
      · split at hrequest
        · rw [List.mem_singleton.mp hrequest]
          rfl
        · rcases List.mem_cons.mp hrequest with rfl | hrest
          · rfl
          · exact ih _ _ _ _ request hrest

/-- Every request of a call is for its query, which was accepted. -/
theorem sent_query (h : request ∈ (query loads world maxRetries maxDomainPages
    queryType q).1) : request.query = q ∧ acceptable q = true := by
  unfold query at h
  split at h
  · cases h
  · rename_i haccept
    refine ⟨?_, by simpa using haccept⟩
    split at h
    · exact domainPages_query _ _ _ _ _ request h
    · rw [List.mem_singleton.mp h]

end Law

/-- **The URL of a query.** A request is for the endpoint and one segment that
stands for the query, and no other query is requested at its path, just when
the query is neither `.` nor `..`. -/
theorem query_path_iff {pathOf : PyStr → PyStr} (hpath : RemovesDots pathOf)
    {loads : Bytes → Option Json} {world : World} {maxRetries maxDomainPages : ℕ}
    {queryType : QueryType} {q : PyStr} :
    ∀ request ∈ (query loads world maxRetries maxDomainPages queryType q).1,
      (Addresses pathOf request q ∧ Alone pathOf request ↔
        q ≠ PyStr.lit "." ∧ q ≠ PyStr.lit "..") := by
  intro request hrequest
  obtain ⟨rfl, haccept⟩ := sent_query hrequest
  have hdot : ¬ IsDotSegment request.query ↔
      request.query ≠ PyStr.lit "." ∧ request.query ≠ PyStr.lit ".." := not_or
  rw [← hdot]
  constructor
  · rintro ⟨haddresses, -⟩
    exact (addresses_iff hpath haccept).mp haddresses
  · intro hplain
    exact ⟨(addresses_iff hpath haccept).mpr hplain,
      alone_of_not_dot hpath haccept hplain⟩

/-- httpx's `normalize_path`, over the components of the path. -/
def normalizeComponents (components : List PyStr) : List PyStr :=
  components.foldl (fun output component =>
    if component = PyStr.lit "." then output
    else if component = PyStr.lit ".." then
      if output ≠ [] ∧ output ≠ [[]] then output.dropLast else output
    else output ++ [component]) []

def normalizePath (path : PyStr) : PyStr :=
  let components := path.splitOn 47
  if PyStr.lit "." ∈ components ∨ PyStr.lit ".." ∈ components then
    [47].intercalate (normalizeComponents components)
  else path

def httpxPath (url : PyStr) : PyStr := normalizePath (url.drop origin.length)

/-- By induction from the last component: the empty one in front stays. -/
theorem normalizeComponents_spec (components : List PyStr) :
    ∃ kept : List PyStr, kept.Sublist components ∧
      (∀ s ∈ kept, ¬ IsDotSegment s) ∧
      normalizeComponents ([] :: components) = [] :: kept := by
  induction components using List.reverseRecOn with
  | nil => exact ⟨[], List.Sublist.refl _, List.forall_mem_nil _, by decide⟩
  | append_singleton components c ih =>
      obtain ⟨kept, hsublist, hkept, heq⟩ := ih
      have hgrow : kept.Sublist (components ++ [c]) :=
        hsublist.trans (List.sublist_append_left _ _)
      unfold normalizeComponents at heq ⊢
      rw [← List.cons_append, List.foldl_append, heq, List.foldl_cons,
        List.foldl_nil]
      split
      · exact ⟨kept, hgrow, hkept, rfl⟩
      · rename_i hone
        split
        · split
          · rename_i hpop
            have hne : kept ≠ [] := by
              rintro rfl
              exact hpop.2 rfl
            refine ⟨kept.dropLast, (List.dropLast_sublist _).trans hgrow, ?_,
              List.dropLast_cons_of_ne_nil hne⟩
            exact fun s hs => hkept s (List.mem_of_mem_dropLast hs)
          · exact ⟨kept, hgrow, hkept, rfl⟩
        · rename_i htwo
          refine ⟨kept ++ [c], hsublist.append_right _, ?_, List.cons_append⟩
          intro s hs
          rcases List.mem_append.mp hs with hs | hs
          · exact hkept s hs
          · rw [List.mem_singleton.mp hs]
            exact not_or.mpr ⟨hone, htwo⟩

theorem httpxPath_origin (segments : List Bytes) :
    httpxPath (origin ++ pathFrom segments) = normalizePath (pathFrom segments) := by
  unfold httpxPath
  rw [List.drop_left]

theorem httpxPath_removesDots : RemovesDots httpxPath where
  keeps := by
    intro segments hplain
    rw [httpxPath_origin]
    unfold normalizePath
    dsimp only
    rw [splitOn_pathFrom, if_neg]
    have hnone : ∀ s, IsDotSegment s → s ∉ [] :: segments.map percentEncode := by
      intro s hdot hs
      rcases List.mem_cons.mp hs with rfl | hs
      · exact absurd hdot (by decide)
      · obtain ⟨b, hb, rfl⟩ := List.mem_map.mp hs
        exact hplain b hb hdot
    exact not_or.mpr ⟨hnone _ (.inl rfl), hnone _ (.inr rfl)⟩
  removes := by
    intro segments
    rw [httpxPath_origin]
    unfold normalizePath
    dsimp only
    rw [splitOn_pathFrom]
    split
    · obtain ⟨texts, hsublist, hplain, heq⟩ :=
        normalizeComponents_spec (segments.map percentEncode)
      obtain ⟨kept, hkept, rfl⟩ := List.sublist_map_iff.mp hsublist
      refine ⟨kept, hkept, ?_, .inl ?_⟩
      · exact fun b hb => hplain _ (List.mem_map_of_mem hb)
      · rw [heq, ← pathFrom_eq_intercalate]
    · rename_i hnone
      rw [not_or] at hnone
      refine ⟨segments, List.Sublist.refl _, ?_, .inl rfl⟩
      rintro b hb (hone | htwo)
      · exact hnone.1 (hone ▸ List.mem_cons_of_mem _ (List.mem_map_of_mem hb))
      · exact hnone.2 (htwo ▸ List.mem_cons_of_mem _ (List.mem_map_of_mem hb))

/-- The requests for one query while the circuit breaker is open. -/
def requestsFor (q : PyStr) : List PageRequest :=
  (query (fun _ => none) (fun _ _ => none) 0 1 .username q).1

/-- A name with a slash in it is one segment. -/
theorem slashed_name_addressed :
    requestsFor (PyStr.lit "../x y") = [⟨.username, PyStr.lit "../x y", []⟩] ∧
      ∀ request ∈ requestsFor (PyStr.lit "../x y"),
        Addresses httpxPath request (PyStr.lit "../x y") :=
  ⟨by decide, fun request hrequest =>
    ((query_path_iff httpxPath_removesDots request hrequest).mpr
      (by decide)).1⟩

/-- `..` is requested at `/api/v2`. -/
theorem dots_leave_the_endpoint :
    ¬ ∀ (pathOf : PyStr → PyStr), RemovesDots pathOf →
      ∀ (loads : Bytes → Option Json) (world : World)
        (maxRetries maxDomainPages : ℕ) (queryType : QueryType) (q : PyStr),
        ∀ request ∈ (query loads world maxRetries maxDomainPages queryType q).1,
          Addresses pathOf request q := by
  intro hall
  have hsent : (⟨.username, PyStr.lit "..", []⟩ : PageRequest) ∈
      requestsFor (PyStr.lit "..") := by decide
  obtain ⟨url, segment, hurl, hpath, -, -⟩ :=
    hall httpxPath httpxPath_removesDots _ _ _ _ _ _ _ hsent
  have hreal : (⟨.username, PyStr.lit "..", []⟩ : PageRequest).url.map httpxPath =
      some (PyStr.lit "/api/v2") := by decide +kernel
  rw [hurl, Option.map_some, Option.some.injEq, hpath] at hreal
  have hlength := congrArg List.length hreal
  rw [List.length_append] at hlength
  have hendpoint : (pathFrom endpoint).length = 13 := by decide
  have hshort : (PyStr.lit "/api/v2").length = 7 := by decide
  omega

end LeakcheckHub.Client
