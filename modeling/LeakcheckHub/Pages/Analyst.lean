import LeakcheckHub.Foundation.Forms
import LeakcheckHub.Pages.Layout
import LeakcheckHub.Settings.Update

/-!
# Analyst pages

`app/analyst_ui.py`. `none` is an exception that escapes while a page is
rendered. `timestampText` is `str` of `datetime.timestamp()`, a number.

§1 checks and their progress · §2 one finding · §3 the history of a subject ·
§4 the pages are closed.
-/

namespace LeakcheckHub.Pages

open Foundation Html
open Analyst (FindingView FindingFilters textOf rawValueText)

/-! ## §1  Checks and their progress -/

/-- `_KINDS`. -/
def kinds : List SubjectKind :=
  [.domain, .email, .password, .username, .origin, .phone]

def description : SubjectKind → String
  | .domain => "Review exposure across a company domain."
  | .email => "Investigate one exact mailbox identity."
  | .password =>
      "Search a credential without storing the query. The cleartext is sent to " ++
      "LeakCheck; use their phash workflow instead when you already have a hash."
  | .username => "Find reused handles across breach sources."
  | .origin => "Trace records associated with a service origin."
  | .phone => "Check an international E.164 telephone number."

def placeholder : SubjectKind → String
  | .domain => "example.com"
  | .email => "person@example.com"
  | .password => "Enter password"
  | .username => "username"
  | .origin => "https://service.example.com"
  | .phone => "+85512345678"

/-- `_check_card`. -/
def checkCard (kind : SubjectKind) : Markup :=
  let value := Routers.kindValue kind
  let label := title value
  let secret := kind = .password
  [ .lit "<article class=\"check-card\"><div><span class=\"kind\">", .text value,
    .lit "</span><h2>", .text label, .lit "</h2><p>",
    .text (PyStr.lit (description kind)), .lit "</p></div>",
    .lit "<form action=\"/analyst/scans/", .markup value,
    .lit "\" method=\"post\" hx-post=\"/analyst/scans/", .markup value,
    .lit "\" hx-target=\"find .form-error\" ",
    .lit "hx-swap=\"innerHTML\" hx-indicator=\"closest article\">",
    .lit "<label for=\"query-", .markup value, .lit "\">", .text label,
    .lit " value</label>", .lit "<input id=\"query-", .markup value,
    .lit "\" name=\"query\" type=\"", .lit (if secret then "password" else "text"),
    .lit "\" placeholder=\"", .text (PyStr.lit (placeholder kind)),
    .lit "\" autocomplete=\"", .lit (if secret then "new-password" else "off"),
    .lit "\" required maxlength=\"4096\">",
    .lit "<button type=\"submit\">Run check</button>",
    .lit "<span class=\"htmx-indicator\">Checking…</span>",
    .lit "<output class=\"form-error\" aria-live=\"polite\"></output>",
    .lit "</form></article>" ]

/-- A subject with the text it is shown by. -/
structure ShownSubject where
  id : Uuid
  kind : SubjectKind
  valueDisplay : PyStr

structure RecentSubject where
  subject : ShownSubject
  actor : Option PyStr
  trigger : Option ScanTrigger

/-- `RecentSubject.attribution`. -/
def RecentSubject.attribution (item : RecentSubject) : PyStr :=
  match item.actor with
  | some (c :: rest) => c :: rest
  | _ =>
      PyStr.lit <| match item.trigger with
        | some .scheduled => "scheduled scan"
        | some .batch => "batch scan"
        | some .self => "self-check"
        | _ => "unknown"

def recentItem (item : RecentSubject) : Markup :=
  [ .lit "<li><a href=\"/analyst/subjects/", .plain (uuid item.subject.id),
    .lit "\"><span class=\"kind\">", .text (Routers.kindValue item.subject.kind),
    .lit "</span> ", .text item.subject.valueDisplay,
    .lit "</a><span class=\"searched-by\">searched by ", .text item.attribution,
    .lit "</span></li>" ]

/-- `analyst_dashboard`. -/
def analystDashboard (user : User) (recent : List RecentSubject) : Markup :=
  page (PyStr.lit "Analyst checks")
    (cat [
     [ .lit "<section class=\"hero\"><p class=\"eyebrow\">Exposure intelligence</p>",
       .lit "<h1>Run a controlled check</h1>",
       .lit "<p>Choose an identifier type. Queries are normalized before scanning, ",
       .lit "and searched passwords are never stored in cleartext.</p></section>",
       .lit "<section class=\"check-grid\" aria-label=\"Leak checks\">" ],
     kinds.flatMap checkCard,
     [ .lit "</section>",
       .lit "<section class=\"panel recent\"><div class=\"section-heading\"><div>",
       .lit "<p class=\"eyebrow\">Investigation trail</p>",
       .lit "<h2>Recent subjects</h2></div></div>",
       .lit "<ul class=\"recent-list\">" ],
     joined recent recentItem
       [.lit "<li class=\"empty\">No scans have been run yet.</li>"],
     [.lit "</ul></section>"] ])
    user Assets.none

/-- `scan_status_fragment`. -/
def scanStatusFragment (scan : Scan) : Markup :=
  match scan.status with
  | .succeeded =>
      [ .lit "<p class=\"scan-state success-text\">Complete. Loading findings…</p>" ]
  | .failed =>
      [ .lit "<div class=\"scan-state\"><span class=\"badge danger\">Failed</span>",
        .lit "<h2>The check could not be completed</h2>",
        .lit "<p>No query value or vendor response was retained. Return to checks and ",
        .lit "try again.</p>",
        .lit "<a class=\"button secondary\" href=\"/analyst\">Back to checks</a></div>" ]
  | status =>
      [ .lit "<div class=\"scan-state\" hx-get=\"/analyst/scans/",
        .plain (uuid scan.id), .lit "/status\" ",
        .lit "hx-trigger=\"load delay:1s\" hx-swap=\"outerHTML\">",
        .lit "<span class=\"pulse\" aria-hidden=\"true\"></span>", .lit "<h2>",
        .text (PyStr.lit (if status = .running then "Running" else "Queued")),
        .lit " controlled check</h2>",
        .lit "<p>Waiting for the bounded LeakCheck request and local ingest to ",
        .lit "finish…</p></div>" ]

/-- `scan_progress_page`. -/
def scanProgressPage (user : User) (scan : Scan) (subject : ShownSubject) : Markup :=
  page (PyStr.lit "Scan progress")
    (cat [
     [ .lit "<section class=\"hero compact\"><p class=\"eyebrow\">Scan in progress</p>",
       .lit "<h1>", .text subject.valueDisplay,
       .lit "</h1><p>Large lookups can take up to two minutes. This page updates ",
       .lit "without holding the original request open.</p></section>",
       .lit "<section class=\"panel\" aria-live=\"polite\">" ],
     scanStatusFragment scan, [.lit "</section>"] ])
    user Assets.none

/-! ## §2  One finding -/

/-- `_copy_value`. -/
def copyValue (value : PyStr) (label : String) : Markup :=
  [ .lit "<button type=\"button\" class=\"copy-value\" data-copy-value=\"",
    .text value, .lit "\" title=\"Copy ",
    .markup (PyStr.asciiLower (PyStr.lit label)), .lit "\">", .text value,
    .lit "</button>" ]

/-- `_identity_value`. -/
def identityValue (label : String) (value : PyStr) (copy : Bool) : Markup :=
  cat [ [.lit "<span><strong>", .text (PyStr.lit label), .lit "</strong> "],
    if copy then copyValue value label else [.text value], [.lit "</span>"] ]

/-- `_date_cell`. -/
def dateCell : Option Date → Markup
  | some day =>
      [ .lit "<td data-sort-value=\"", .plain (isoDate day), .lit "\">",
        .plain (shortDate day), .lit "</td>" ]
  | none => [.lit "<td data-sort-value=\"", .lit "\">", .lit "Unknown", .lit "</td>"]

/-- `_breach_date_cell`. -/
def breachDateCell (item : FindingView) : Markup :=
  match item.breachDate, item.breachDateText with
  | some day, _ => dateCell (some day)
  | none, none => dateCell none
  | none, some value =>
      let display := match value.splitOn (PyStr.ofChar '-') with
        | [year, month] => month ++ PyStr.lit "-" ++ year
        | _ => value
      [ .lit "<td data-sort-value=\"", .text value, .lit "\">", .text display,
        .lit "</td>" ]

/-- `_status_sort`. -/
def statusSort (item : FindingView) : String :=
  if item.reLeaked then "re-leaked"
  else if item.remediatedAt.isSome then "remediated"
  else "open"

/-- `remediation_markup`. -/
def remediationMarkup (findingId : Uuid) (remediated : Bool) : Markup :=
  let badge := if remediated then "success\">Remediated" else "warning\">Open"
  let action := if remediated then "/unremediate\" " else "/remediate\" "
  let label := if remediated then "Reopen" else "Mark remediated"
  [ .lit "<div class=\"remediation-control\"><span class=\"badge ", .lit badge,
    .lit "</span>", .lit "<button type=\"button\" class=\"link-button\" ",
    .lit "hx-post=\"/analyst/findings/", .plain (uuid findingId), .lit action,
    .lit "hx-target=\"closest .remediation-control\" hx-swap=\"outerHTML\">",
    .lit label, .lit "</button></div>" ]

/-- `remediation_control`. -/
def remediationControl (item : FindingView) : Markup :=
  remediationMarkup item.id item.remediatedAt.isSome

/-- What `reveal_finding_password` answers. -/
def revealedPassword (password : PyStr) : Markup :=
  [ .lit "<button type=\"button\" class=\"revealed-password copy-value\" ",
    .lit "data-copy-value=\"", .text password, .lit "\" title=\"Copy password\">",
    .text password, .lit "</button>" ]

section Finding

variable (U : UnicodeData) (floatText : BitVec 64 → PyStr)
  (timestampText : Timestamp → Plain)

/-- The identities of a finding, those that it has. -/
def identities (item : FindingView) : List Markup :=
  ([("Email", item.email), ("User", item.username), ("Phone", item.phone)].filterMap
    fun (label, value) => value.map fun value =>
      identityValue label value (label == "Email"))

/-- `_identity_sort`. -/
def identitySort (item : FindingView) : PyStr :=
  U.casefold ((PyStr.lit " ").intercalate
    ([item.email, item.username, item.phone].filterMap Analyst.nonEmpty))

def dashed (parts : List Markup) (separator : String) : Markup :=
  if parts.isEmpty then [.lit "—"] else [.lit separator].intercalate parts

/-- The fields' texts; other values have no `casefold` to be joined for. -/
def fieldTexts (item : FindingView) : Option (List PyStr) :=
  (item.fields.mapM textOf).toOption

def fieldList (texts : List PyStr) : Markup :=
  if ((PyStr.lit ", ").intercalate texts).isEmpty then [.lit "—"]
  else [.lit ", "].intercalate (texts.map fun text => [.text text])

/-- The button of a stored password. -/
def revealSlot (findingId : Uuid) : Markup :=
  [ .lit "<div id=\"password-", .plain (uuid findingId),
    .lit "\" class=\"password-slot\">",
    .lit "<button type=\"button\" class=\"link-button\" ",
    .lit "hx-post=\"/analyst/findings/", .plain (uuid findingId), .lit "/reveal\" ",
    .lit "hx-target=\"#password-", .plain (uuid findingId),
    .lit "\" hx-swap=\"innerHTML\">Reveal once</button></div>" ]

def orDash (value : Option PyStr) : Markup :=
  match value with
  | some value => [.text value]
  | none => [.lit "—"]

/-- A cell with the key it is sorted by. -/
def sortedCell (start : String) (key : PyStr) (content : Markup) : Markup :=
  cat [[.lit start, .text key, .lit "\">"], content, [.lit "</td>"]]

def sourceName (item : FindingView) : Markup := cat
  [ [.lit "<strong>", .text item.source, .lit "</strong>"],
    if item.reLeaked then [.lit "<span class=\"badge danger\">Re-leaked</span>"]
    else [] ]

def urlValue (item : FindingView) : Markup :=
  match Analyst.nonEmpty item.url with
  | some url => copyValue url "URL"
  | none => [.lit "—"]

def passwordValue (item : FindingView) : Markup := cat
  [orDash item.passwordMask, if item.hasPassword then revealSlot item.id else []]

/-- `finding_row`. -/
def findingRow (item : FindingView) : Option Markup := do
  let texts ← fieldTexts item
  let cell := sortedCell "<td data-sort-value=\""
  pure <| cat
    [ [ .lit "<tr class=\"", .lit (if item.reLeaked then "releaked" else ""),
        .lit "\" data-search-values=\"",
        .text (U.casefold (rawValueText floatText (.obj item.raw))), .lit "\">" ],
      cell (U.casefold item.source) (sourceName item),
      breachDateCell item,
      dateCell item.collectedDate,
      cell (identitySort U item) (dashed (identities item) "<br>"),
      cell (U.casefold ((PyStr.lit ", ").intercalate texts)) (cat
        [ fieldList texts,
          [ .lit "<details><summary>Raw fields</summary><pre>",
            .text (jsonDisplay floatText (.obj item.raw)),
            .lit "</pre></details>" ] ]),
      cell (U.casefold (item.origin.getD [])) (orDash (Analyst.nonEmpty item.origin)),
      cell (U.casefold (item.url.getD [])) (urlValue item),
      sortedCell "<td class=\"password-cell\" data-sort-value=\""
        (item.passwordMask.getD []) (passwordValue item),
      [ .lit "<td data-sort-value=\"", .plain (timestampText item.firstSeenAt),
        .lit "\">", .lit "<span class=\"seen-label\">First</span> ",
        .text (minuteText item.firstSeenAt), .lit "<br>",
        .lit "<span class=\"seen-label\">Last</span> ",
        .text (minuteText item.lastSeenAt), .lit "</td>",
        .lit "<td class=\"status-cell\" data-sort-value=\"", .lit (statusSort item),
        .lit "\">" ],
      remediationControl item,
      [.lit "</td><td><a href=\"#events\">Event trail</a></td></tr>"] ]

end Finding

/-! ## §3  The history of a subject -/

/-- `EventView`. -/
structure EventView where
  event : FindingEventType
  at_ : Timestamp
  actor : Option PyStr
  meta_ : List (PyStr × Json)

/-- `event.value`. -/
def eventValue : FindingEventType → PyStr
  | .discovered => PyStr.lit "discovered"
  | .remediated => PyStr.lit "remediated"
  | .unremediated => PyStr.lit "unremediated"
  | .reLeaked => PyStr.lit "re_leaked"
  | .passwordViewed => PyStr.lit "password_viewed"
  | .notified => PyStr.lit "notified"
  | .alerted => PyStr.lit "alerted"

/-- `_event_item`. -/
def eventItem (floatText : BitVec 64 → PyStr) (event : EventView) : Markup := cat [
  [ .lit "<li><span class=\"event-dot\" aria-hidden=\"true\"></span><div>",
    .lit "<strong>", .text (title (spaced (eventValue event.event))),
    .lit "</strong>" ],
  (match Analyst.nonEmpty event.actor with
    | some actor => [.lit " by ", .text actor]
    | none => []),
  [ .lit "<time>", .text (minuteText event.at_), .lit "</time>",
    .lit "<details><summary>Metadata</summary><pre>",
    .text (jsonDisplay floatText (.obj event.meta_)),
    .lit "</pre></details></div></li>" ] ]

/-- `_option`. -/
def option (value label : String) (selected : PyStr) : Markup :=
  [ .lit "<option value=\"", .text (PyStr.lit value), .lit "\"",
    .lit (if PyStr.lit value = selected then " selected" else ""), .lit ">",
    .text (PyStr.lit label), .lit "</option>" ]

/-- `_export_url`, before it is escaped. -/
def exportUrl (subjectId : Uuid) (state source dateFrom dateTo : PyStr) :
    Option PyStr := do
  let query ← urlencode [(PyStr.lit "state", state), (PyStr.lit "source", source),
    (PyStr.lit "date_from", dateFrom), (PyStr.lit "date_to", dateTo)]
  pure (PyStr.lit "/analyst/subjects/" ++ subjectId.str ++
    PyStr.lit "/export.csv?" ++ query)

/-- `_sort_header`. -/
def sortHeader (label : String) (column : ℕ) (kind : String) : Markup :=
  [ .lit "<th><button type=\"button\" class=\"sort-button\" data-sort-column=\"",
    .plain (number column), .lit "\" data-sort-kind=\"", .text (PyStr.lit kind),
    .lit "\">", .text (PyStr.lit label),
    .lit " <span aria-hidden=\"true\">↕</span></button>",
    .lit "<span class=\"column-resizer\" data-resize-handle aria-hidden=\"true\">",
    .lit "</span></th>" ]

def sortHeaders : List (String × ℕ × String) :=
  [ ("Source", 0, "text"), ("Breached", 1, "date"), ("Collected", 2, "date"),
    ("Identity", 3, "text"), ("Fields", 4, "text"), ("Origin", 5, "text"),
    ("URL", 6, "text"), ("Password", 7, "text"), ("First / last seen", 8, "date"),
    ("Status", 9, "text") ]

/-- `_column_picker`. -/
def columnPicker : Markup := cat [
  [ .lit "<details class=\"column-picker\">",
    .lit "<summary class=\"button secondary\">Columns</summary>",
    .lit "<fieldset><legend>Show columns</legend>" ],
  (sortHeaders.map (·.1) ++ ["Actions"]).zipIdx.flatMap (fun (label, index) =>
    [ .lit "<label><input type=\"checkbox\" value=\"", .plain (number index),
      .lit "\" data-column-toggle checked> ", .text (PyStr.lit label),
      .lit "</label>" ]),
  [.lit "</fieldset></details>"] ]

/-- The filters as the page shows them. -/
structure FilterTexts where
  state : PyStr
  source : PyStr
  dateFrom : PyStr
  dateTo : PyStr

def filterForm (filters : FilterTexts) (url : PyStr) : Markup := cat [
  [ .lit "<form class=\"filters\" method=\"get\">",
    .lit "<label>State<select name=\"state\">" ],
  option "all" "All" filters.state,
  option "unremediated" "Unremediated" filters.state,
  option "remediated" "Remediated" filters.state,
  option "releaked" "Re-leaked" filters.state,
  [ .lit "</select></label>",
    .lit "<label>Search raw values<input type=\"search\" id=\"result-search\" ",
    .lit "name=\"source\" value=\"", .text filters.source,
    .lit "\" maxlength=\"1024\" placeholder=\"Email, origin, date, source…\"></label>",
    .lit "<label>From<input type=\"date\" name=\"date_from\" value=\"",
    .text filters.dateFrom,
    .lit "\"></label><label>To<input type=\"date\" name=\"date_to\" value=\"",
    .text filters.dateTo,
    .lit "\"></label><button type=\"submit\">Apply filters</button>",
    .lit "<a class=\"button secondary\" href=\"", .text url,
    .lit "\">Export CSV</a></form>" ] ]

/-- The table's head, up to its body. -/
def findingsHead (count : ℕ) (form : Markup) : Markup := cat [
  [ .lit "<section class=\"panel\"><div class=\"section-heading\"><div>",
    .lit "<p class=\"eyebrow\">", .lit "Evidence</p><h2>Findings</h2></div>",
    .lit "<span class=\"count\" id=\"findings-count\" ", .lit "data-total=\"",
    .plain (number count), .lit "\">", .plain (number count),
    .lit " shown</span></div>" ],
  form,
  [ .lit "<div class=\"table-tools\"><div class=\"table-config\">",
    .lit "<label>Rows per page", .lit "<select id=\"findings-page-size\">",
    .lit "<option value=\"10\" selected>10</option>",
    .lit "<option value=\"20\">20</option>",
    .lit "<option value=\"50\">50</option><option value=\"100\">100</option>",
    .lit "<option value=\"all\">All</option></select></label>" ],
  columnPicker,
  [ .lit "</div><div class=\"pagination\">",
    .lit "<button type=\"button\" id=\"findings-prev\" class=\"button secondary\">",
    .lit "Previous</button>",
    .lit "<span id=\"findings-page-status\">Page 1 of 1</span>",
    .lit "<button type=\"button\" id=\"findings-next\" class=\"button secondary\">",
    .lit "Next</button>",
    .lit "</div></div><div class=\"table-wrap\"><table id=\"findings-table\" ",
    .lit "class=\"resizable-table\"><colgroup>",
    .lit "<col style=\"width:11rem\"><col style=\"width:8rem\">",
    .lit "<col style=\"width:8rem\"><col style=\"width:18rem\">",
    .lit "<col style=\"width:15rem\"><col style=\"width:12rem\">",
    .lit "<col style=\"width:18rem\"><col style=\"width:12rem\">",
    .lit "<col style=\"width:14rem\"><col style=\"width:10rem\">",
    .lit "<col style=\"width:7rem\"></colgroup><thead><tr>" ],
  sortHeaders.flatMap (fun (label, column, kind) => sortHeader label column kind),
  [ .lit "<th>Actions<span class=\"column-resizer\" data-resize-handle ",
    .lit "aria-hidden=\"true\"></span>",
    .lit "</th></tr></thead><tbody data-findings-body>" ] ]

section History

variable (U : UnicodeData) (floatText : BitVec 64 → PyStr)
  (timestampText : Timestamp → Plain)

def historyContent (subject : ShownSubject) (head : Markup) (rows : List Markup)
    (events : List EventView) : Markup := cat [
  [ .lit "<header class=\"subject-header\"><div><p class=\"eyebrow\">",
    .text (Routers.kindValue subject.kind), .lit " investigation</p><h1>",
    .text subject.valueDisplay,
    .lit "</h1></div><a class=\"button secondary\" href=\"/analyst\">New check</a>",
    .lit "</header>" ],
  head,
  joined rows id
    [ .lit "<tr><td colspan=\"11\" class=\"empty\">",
      .lit "No findings match these filters.</td></tr>" ],
  [ .lit "</tbody></table></div></section>",
    .lit "<section id=\"events\" class=\"panel timeline\">",
    .lit "<div class=\"section-heading\"><div>",
    .lit "<p class=\"eyebrow\">Immutable history</p><h2>Event trail</h2></div></div>",
    .lit "<ol class=\"event-list\">" ],
  joined events (eventItem floatText)
    [.lit "<li class=\"empty\">No recorded finding events.</li>"],
  [.lit "</ol></section>"] ]

/-- `subject_history_page`. -/
def subjectHistoryPage (user : User) (subject : ShownSubject)
    (findings : List FindingView) (events : List EventView)
    (filters : FilterTexts) : Option Markup := do
  let url ← exportUrl subject.id filters.state filters.source filters.dateFrom
    filters.dateTo
  let rows ← findings.mapM (findingRow U floatText timestampText)
  let head := findingsHead findings.length (filterForm filters url)
  pure (page (PyStr.lit "History · " ++ subject.valueDisplay)
    (historyContent floatText subject head rows events) user Assets.none)

end History

/-! ## §4  The pages are closed -/

section Closed

variable {U : UnicodeData} {floatText : BitVec 64 → PyStr}
  {timestampText : Timestamp → Plain}

theorem checkCard_closed (kind : SubjectKind) : (checkCard kind).Closed := by
  cases kind
  all_goals
    simp only [Markup.Closed, checkCard, Routers.kindValue, reduceCtorEq,
      if_true, if_false, shape_nil, shape_lit, shape_text, shape_markup]
    repeat rw [lit_ofList]
    rfl

theorem recentItem_closed (item : RecentSubject) : (recentItem item).Closed := by
  simp only [Markup.Closed, recentItem, shape_nil, shape_lit, shape_text, shape_plain]
  repeat rw [lit_ofList]
  rfl

theorem analystDashboard_closed (user : User) (recent : List RecentSubject) :
    (analystDashboard user recent).Closed := by
  refine page_closed (closed_cat_cons ?_ (closed_cat_cons
    (closed_flatMap fun kind _ => checkCard_closed kind) (closed_cat_cons ?_
    (closed_cat_cons (closed_joined (fun item _ => recentItem_closed item) ?_)
    (closed_cat_cons ?_ closed_cat_nil))))) _ _ _
  all_goals
    simp only [Markup.Closed, shape_nil, shape_lit]
    repeat rw [lit_ofList]
    rfl

theorem scanStatusFragment_closed (scan : Scan) : (scanStatusFragment scan).Closed := by
  unfold scanStatusFragment
  split
  all_goals
    simp only [Markup.Closed, shape_nil, shape_lit, shape_text, shape_plain]
    repeat rw [lit_ofList]
    rfl

theorem scanProgressPage_closed (user : User) (scan : Scan) (subject : ShownSubject) :
    (scanProgressPage user scan subject).Closed := by
  refine page_closed (closed_cat_cons ?_ (closed_cat_cons
    (scanStatusFragment_closed scan) (closed_cat_cons ?_ closed_cat_nil))) _ _ _
  all_goals
    simp only [Markup.Closed, shape_nil, shape_lit, shape_text]
    repeat rw [lit_ofList]
    rfl

theorem copyValue_closed (value : PyStr) {label : String}
    (h : label = "Email" ∨ label = "URL") : (copyValue value label).Closed := by
  rcases h with rfl | rfl
  all_goals
    simp only [Markup.Closed, copyValue, shape_nil, shape_lit, shape_text,
      shape_markup]
    repeat rw [lit_ofList]
    rfl

theorem text_closed (value : PyStr) : Markup.Closed [.text value] := rfl

theorem dash_closed : Markup.Closed [.lit "—"] := by
  simp only [Markup.Closed, shape_nil, shape_lit]
  rfl

theorem identityValue_closed (label : String) (value : PyStr) {copy : Bool}
    (h : copy = true → label = "Email") :
    (identityValue label value copy).Closed := by
  refine closed_cat_cons ?_ (closed_cat_cons ?_ (closed_cat_cons ?_ closed_cat_nil))
  · simp only [Markup.Closed, shape_nil, shape_lit, shape_text]
    rfl
  · split
    · rename_i hcopy
      exact copyValue_closed value (.inl (h hcopy))
    · exact text_closed value
  · simp only [Markup.Closed, shape_nil, shape_lit]
    rfl

theorem dateCell_closed (value : Option Date) : (dateCell value).Closed := by
  cases value
  all_goals
    simp only [Markup.Closed, dateCell, shape_nil, shape_lit, shape_plain]
    repeat rw [lit_ofList]
    rfl

theorem breachDateCell_closed (item : FindingView) : (breachDateCell item).Closed := by
  unfold breachDateCell
  split
  · exact dateCell_closed _
  · exact dateCell_closed _
  · simp only [Markup.Closed, shape_nil, shape_lit, shape_text]
    repeat rw [lit_ofList]
    rfl

theorem remediationMarkup_closed (findingId : Uuid) (remediated : Bool) :
    (remediationMarkup findingId remediated).Closed := by
  cases remediated
  all_goals
    simp only [Markup.Closed, remediationMarkup, Bool.false_eq_true, if_true,
      if_false, shape_nil, shape_lit, shape_plain]
    repeat rw [lit_ofList]
    rfl

theorem revealedPassword_closed (password : PyStr) :
    (revealedPassword password).Closed := by
  simp only [Markup.Closed, revealedPassword, shape_nil, shape_lit, shape_text]
  repeat rw [lit_ofList]
  rfl

theorem identities_closed (item : FindingView) {part : Markup}
    (h : part ∈ identities item) : part.Closed := by
  obtain ⟨⟨label, value⟩, -, hpart⟩ := List.mem_filterMap.mp h
  obtain ⟨value, -, rfl⟩ := Option.map_eq_some_iff.mp hpart
  exact identityValue_closed label value fun hcopy => beq_iff_eq.mp hcopy

theorem dashed_closed {parts : List Markup}
    (h : ∀ part ∈ parts, Markup.Closed part) : (dashed parts "<br>").Closed := by
  unfold dashed
  split
  · exact dash_closed
  · refine closed_intercalate ?_ h
    simp only [Markup.Closed, shape_nil, shape_lit]
    rfl

theorem fieldList_closed (texts : List PyStr) : (fieldList texts).Closed := by
  unfold fieldList
  split
  · exact dash_closed
  · refine closed_intercalate ?_ fun part hpart => ?_
    · simp only [Markup.Closed, shape_nil, shape_lit]
      rfl
    · obtain ⟨text, -, rfl⟩ := List.mem_map.mp hpart
      exact text_closed text

theorem revealSlot_closed (findingId : Uuid) : (revealSlot findingId).Closed := by
  simp only [Markup.Closed, revealSlot, shape_nil, shape_lit, shape_plain]
  repeat rw [lit_ofList]
  rfl

theorem orDash_closed (value : Option PyStr) : (orDash value).Closed := by
  cases value with
  | none => exact dash_closed
  | some value => exact text_closed value

/-- A cell is closed when its start leads into a value and its content is. -/
theorem sortedCell_closed {start : String} {key : PyStr} {content : Markup}
    (hstart : Markup.Closed [.lit start, .text key, .lit "\">"])
    (h : content.Closed) : (sortedCell start key content).Closed := by
  refine closed_cat_cons hstart (closed_cat_cons h (closed_cat_cons ?_ closed_cat_nil))
  simp only [Markup.Closed, shape_nil, shape_lit]
  rfl

theorem cell_closed {key : PyStr} {content : Markup} (h : content.Closed) :
    (sortedCell "<td data-sort-value=\"" key content).Closed := by
  refine sortedCell_closed ?_ h
  simp only [Markup.Closed, shape_nil, shape_lit, shape_text]
  rfl

theorem sourceName_closed (item : FindingView) : (sourceName item).Closed := by
  refine closed_cat_cons ?_ (closed_cat_cons ?_ closed_cat_nil)
  · simp only [Markup.Closed, shape_nil, shape_lit, shape_text]
    rfl
  · split
    · simp only [Markup.Closed, shape_nil, shape_lit]
      rfl
    · exact closed_nil

theorem urlValue_closed (item : FindingView) : (urlValue item).Closed := by
  unfold urlValue
  split
  · exact copyValue_closed _ (.inr rfl)
  · exact dash_closed

theorem passwordValue_closed (item : FindingView) : (passwordValue item).Closed := by
  refine closed_cat_cons (orDash_closed _) (closed_cat_cons ?_ closed_cat_nil)
  split
  · exact revealSlot_closed _
  · exact closed_nil

theorem findingRow_closed {item : FindingView} {row : Markup}
    (h : findingRow U floatText timestampText item = some row) : row.Closed := by
  simp only [findingRow, Option.bind_eq_bind, Option.bind_eq_some_iff] at h
  obtain ⟨texts, -, h⟩ := h
  rw [← Option.some.inj h]
  refine closed_cat_cons ?start (closed_cat_cons (cell_closed (sourceName_closed item))
    (closed_cat_cons (breachDateCell_closed item) (closed_cat_cons (dateCell_closed _)
    (closed_cat_cons (cell_closed (dashed_closed fun part hpart =>
      identities_closed item hpart)) (closed_cat_cons (cell_closed ?fields)
    (closed_cat_cons (cell_closed (orDash_closed _))
    (closed_cat_cons (cell_closed (urlValue_closed item))
    (closed_cat_cons (sortedCell_closed ?cell (passwordValue_closed item))
    (closed_cat_cons ?seen (closed_cat_cons (remediationMarkup_closed _ _)
    (closed_cat_cons ?ending closed_cat_nil)))))))))))
  case start =>
    cases item.reLeaked
    all_goals
      simp only [Markup.Closed, Bool.false_eq_true, if_true, if_false, shape_nil,
        shape_lit, shape_text]
      repeat rw [lit_ofList]
      rfl
  case fields =>
    refine closed_cat_cons (fieldList_closed texts) (closed_cat_cons ?_ closed_cat_nil)
    simp only [Markup.Closed, shape_nil, shape_lit, shape_text]
    repeat rw [lit_ofList]
    rfl
  case cell =>
    simp only [Markup.Closed, shape_nil, shape_lit, shape_text]
    rfl
  case seen =>
    obtain hsort | hsort | hsort : statusSort item = "re-leaked" ∨
        statusSort item = "remediated" ∨ statusSort item = "open" := by
      unfold statusSort
      split
      · exact .inl rfl
      · split
        · exact .inr (.inl rfl)
        · exact .inr (.inr rfl)
    all_goals
      rw [hsort]
      simp only [Markup.Closed, shape_nil, shape_lit, shape_text, shape_plain]
      repeat rw [lit_ofList]
      rfl
  case ending =>
    simp only [Markup.Closed, shape_nil, shape_lit]
    rfl

theorem eventItem_closed (event : EventView) : (eventItem floatText event).Closed := by
  refine closed_cat_cons ?_ (closed_cat_cons ?_ (closed_cat_cons ?_ closed_cat_nil))
  · simp only [Markup.Closed, shape_nil, shape_lit, shape_text]
    repeat rw [lit_ofList]
    rfl
  · split
    · simp only [Markup.Closed, shape_nil, shape_lit, shape_text]
      rfl
    · exact closed_nil
  · simp only [Markup.Closed, shape_nil, shape_lit, shape_text]
    repeat rw [lit_ofList]
    rfl

theorem option_closed (value label : String) (selected : PyStr) :
    (option value label selected).Closed := by
  unfold option
  split
  all_goals
    simp only [Markup.Closed, shape_nil, shape_lit, shape_text]
    rfl

theorem sortHeader_closed (label : String) (column : ℕ) (kind : String) :
    (sortHeader label column kind).Closed := by
  simp only [Markup.Closed, sortHeader, shape_nil, shape_lit, shape_text, shape_plain]
  repeat rw [lit_ofList]
  rfl

theorem columnPicker_closed : columnPicker.Closed := by
  refine closed_cat_cons ?_ (closed_cat_cons (closed_flatMap fun entry _ => ?_)
    (closed_cat_cons ?_ closed_cat_nil))
  all_goals
    simp only [Markup.Closed, shape_nil, shape_lit, shape_text, shape_plain]
    repeat rw [lit_ofList]
    rfl

theorem filterForm_closed (filters : FilterTexts) (url : PyStr) :
    (filterForm filters url).Closed := by
  refine closed_cat_cons ?_ (closed_cat_cons (option_closed _ _ _) (closed_cat_cons
    (option_closed _ _ _) (closed_cat_cons (option_closed _ _ _) (closed_cat_cons
    (option_closed _ _ _) (closed_cat_cons ?_ closed_cat_nil)))))
  all_goals
    simp only [Markup.Closed, shape_nil, shape_lit, shape_text]
    repeat rw [lit_ofList]
    rfl

theorem findingsHead_closed (count : ℕ) {form : Markup} (h : form.Closed) :
    (findingsHead count form).Closed := by
  refine closed_cat_cons ?_ (closed_cat_cons h (closed_cat_cons ?_ (closed_cat_cons
    columnPicker_closed (closed_cat_cons ?_ (closed_cat_cons
    (closed_flatMap fun entry _ => sortHeader_closed _ _ _)
    (closed_cat_cons ?_ closed_cat_nil))))))
  all_goals
    simp only [Markup.Closed, shape_nil, shape_lit, shape_plain]
    repeat rw [lit_ofList]
    rfl

theorem historyContent_closed (subject : ShownSubject) {head : Markup}
    {rows : List Markup} (hhead : head.Closed) (hrows : ∀ row ∈ rows, row.Closed)
    (events : List EventView) :
    (historyContent floatText subject head rows events).Closed := by
  refine closed_cat_cons ?_ (closed_cat_cons hhead (closed_cat_cons
    (closed_joined hrows ?_) (closed_cat_cons ?_ (closed_cat_cons
    (closed_joined (fun event _ => eventItem_closed event) ?_)
    (closed_cat_cons ?_ closed_cat_nil)))))
  all_goals
    simp only [Markup.Closed, shape_nil, shape_lit, shape_text]
    repeat rw [lit_ofList]
    rfl

theorem subjectHistoryPage_closed {user : User} {subject : ShownSubject}
    {findings : List FindingView} {events : List EventView} {filters : FilterTexts}
    {m : Markup} (h : subjectHistoryPage U floatText timestampText user subject findings
      events filters = some m) : m.Closed := by
  simp only [subjectHistoryPage, Option.bind_eq_bind, Option.bind_eq_some_iff] at h
  obtain ⟨url, -, rows, hrows, h⟩ := h
  rw [← Option.some.inj h]
  refine page_closed (historyContent_closed subject
    (findingsHead_closed _ (filterForm_closed filters url)) ?_ events) _ _ _
  intro row hrow
  obtain ⟨item, -, hitem⟩ := Settings.exists_of_mem_mapM hrows hrow
  exact findingRow_closed hitem

end Closed

end LeakcheckHub.Pages
