import LeakcheckHub.Pages.Layout
import LeakcheckHub.Scheduling.Dispatch

/-!
# Pages of the background operations

`app/watchlist_ui.py`, `app/schedule_ui.py`, `app/batch_ui.py` and
`app/notification_ui.py`.

§1 the watchlist · §2 schedules · §3 batches · §4 notifications · §5 the pages
are closed.
-/

namespace LeakcheckHub.Pages

open Foundation Html
open Scheduling (Schedule ScheduleKind)

/-! ## §1  The watchlist -/

/-- `WatchlistView`, with the columns of the entry that the page reads. -/
structure WatchlistView where
  id : Uuid
  alertSoc : Bool
  alertUser : Bool
  alertWazuh : Bool
  alertIris : Bool
  enabled : Bool
  targetLabel : PyStr

/-- `_toggle_cell`. -/
def toggleCell (entryId : Uuid) (channel : String) (value : Bool) : Markup :=
  [ .lit "<td><form method=\"post\" action=\"/analyst/watchlist/",
    .plain (uuid entryId), .lit "/toggle/", .lit channel,
    .lit "\"><button type=\"submit\" class=\"link-button\">",
    .lit (if value then "yes" else "no"), .lit "</button></form></td>" ]

/-- `_row`. -/
def watchlistRow (view : WatchlistView) : Markup := cat [
  [.lit "<tr><td>", .text view.targetLabel, .lit "</td>"],
  toggleCell view.id "alert_soc" view.alertSoc,
  toggleCell view.id "alert_user" view.alertUser,
  toggleCell view.id "alert_wazuh" view.alertWazuh,
  toggleCell view.id "alert_iris" view.alertIris,
  toggleCell view.id "enabled" view.enabled,
  [ .lit "<td>", .lit "<form method=\"post\" action=\"/analyst/watchlist/",
    .plain (uuid view.id), .lit "/delete\">",
    .lit "<button type=\"submit\" class=\"secondary\">Remove</button></form></td></tr>" ]]

/-- `_checkbox`, which the page only shows checked. -/
def checkbox (name label : String) : Markup :=
  [ .lit "<label><input type=\"checkbox\" name=\"", .lit name,
    .lit "\" value=\"true\"", .lit " checked", .lit "> ", .text (PyStr.lit label),
    .lit "</label>" ]

/-- `watchlist_page`. -/
def watchlistPage (user : User) (entries : List WatchlistView) : Markup :=
  page (PyStr.lit "Watchlist")
    (cat [
     [ .lit "<section class=\"hero compact\"><p class=\"eyebrow\">",
       .lit "High-value identities</p>",
       .lit "<h1>Watchlist</h1><p>New and re-leaked findings are copied to the durable ",
       .lit "alert outbox. SIEM adapters remain inactive until their live contracts are ",
       .lit "verified.</p>",
       .lit "</section><section class=\"panel\"><h2>Add entry</h2>",
       .lit "<form method=\"post\" action=\"/analyst/watchlist\">",
       .lit "<label>Target type<select name=\"target_type\">",
       .lit "<option value=\"user\">User email</option>",
       .lit "<option value=\"subject\">Subject UUID</option></select></label>",
       .lit "<label>Target<input name=\"target\" maxlength=\"320\" required></label>" ],
     checkbox "alert_soc" "SOC email", checkbox "alert_user" "User email",
     checkbox "alert_wazuh" "Wazuh", checkbox "alert_iris" "DFIR-IRIS",
     [ .lit "<button type=\"submit\">Add to watchlist</button></form></section>",
       .lit "<section class=\"panel\"><h2>Entries</h2>",
       .lit "<div class=\"table-wrap\"><table>",
       .lit "<thead><tr><th>Target</th><th>SOC</th><th>User</th><th>Wazuh</th>",
       .lit "<th>IRIS</th><th>Enabled</th><th>Action</th></tr></thead><tbody>" ],
     joined entries watchlistRow
       [ .lit "<tr><td colspan=\"7\" class=\"empty\">No watchlist entries.</td></tr>" ],
     [.lit "</tbody>", .lit "</table></div></section>"] ])
    user Assets.none

/-! ## §2  Schedules -/

/-- `kind.value`. -/
def scheduleKindValue : ScheduleKind → PyStr
  | .scanOu => PyStr.lit "scan_ou"
  | .scanDomain => PyStr.lit "scan_domain"
  | .digest => PyStr.lit "digest"

/-- `preview_fragment`. -/
def previewFragment (nextRun : Timestamp) : Markup :=
  [.lit "Next run: <strong>", .text (isoTime nextRun), .lit "</strong>"]

def scheduleError (schedule : Schedule) : Markup :=
  match Analyst.nonEmpty schedule.lastError with
  | some error => [.lit "<br><small>", .text error, .lit "</small>"]
  | none => []

def latestResults (schedule : Schedule) : Markup :=
  match schedule.lastBatchId with
  | some batchId =>
      [ .lit "<a href=\"/analyst/batches/", .plain (uuid batchId),
        .lit "\">View latest results</a>" ]
  | none => [.lit "Not run yet"]

/-- `_row`. -/
def scheduleRow (entry : Uuid × Schedule) : Markup := cat [
  [ .lit "<tr><td>", .text (scheduleKindValue entry.2.kind), .lit "</td><td>",
    .text entry.2.target, .lit "</td>", .lit "<td><code>", .text entry.2.cron,
    .lit "</code></td><td>", .text entry.2.timezone, .lit "</td>", .lit "<td>",
    .text (isoTime entry.2.nextRunAt) ],
  scheduleError entry.2,
  [.lit "</td>", .lit "<td>"],
  latestResults entry.2,
  [ .lit "</td><td>", .lit (if entry.2.enabled then "enabled" else "disabled"),
    .lit "</td><td>", .lit "<form method=\"post\" action=\"/analyst/schedules/",
    .plain (uuid entry.1), .lit "/toggle\">", .lit "<button type=\"submit\">",
    .lit (if entry.2.enabled then "Disable" else "Enable"), .lit "</button></form>",
    .lit "<form method=\"post\" action=\"/analyst/schedules/", .plain (uuid entry.1),
    .lit "/delete\">",
    .lit "<button type=\"submit\" class=\"secondary\">Delete</button>",
    .lit "</form></td></tr>" ]]

/-- `schedules_page`. -/
def schedulesPage (user : User) (schedules : List (Uuid × Schedule)) : Markup :=
  page (PyStr.lit "Schedules")
    (cat [
     [ .lit "<section class=\"hero compact\"><p class=\"eyebrow\">",
       .lit "Recurring operations</p>",
       .lit "<h1>Schedules</h1><p>Cron times use the selected IANA timezone. ",
       .lit "Runs are persisted and dispatched by one advisory-lock leader.</p></section>",
       .lit "<section class=\"panel\"><h2>Create schedule</h2>",
       .lit "<form method=\"post\" action=\"/analyst/schedules\">",
       .lit "<label>Kind<select name=\"kind\">",
       .lit "<option value=\"scan_ou\">OU scan</option>",
       .lit "<option value=\"scan_domain\">Domain scan</option>",
       .lit "<option value=\"digest\">Unremediated findings digest</option>",
       .lit "</select></label>",
       .lit "<label>OU path or domain<input name=\"target\" maxlength=\"1024\" required>",
       .lit "</label>",
       .lit "<label>Cron<input name=\"cron\" value=\"0 2 * * *\" maxlength=\"255\" ",
       .lit "required></label>",
       .lit "<label>Timezone<input name=\"timezone\" value=\"UTC\" maxlength=\"255\" ",
       .lit "required ",
       .lit "hx-get=\"/analyst/schedules/preview\" hx-trigger=\"change delay:300ms\" ",
       .lit "hx-include=\"closest form\" hx-target=\"#next-preview\"></label>",
       .lit "<label>Misfire grace (seconds)",
       .lit "<input type=\"number\" name=\"misfire_grace_seconds\" ",
       .lit "value=\"300\" min=\"0\" max=\"86400\"></label>",
       .lit "<p id=\"next-preview\">Enter a valid cron and timezone to preview the next ",
       .lit "run.</p>",
       .lit "<button type=\"submit\">Create schedule</button></form></section>",
       .lit "<section class=\"panel\"><h2>Configured schedules</h2>",
       .lit "<div class=\"table-wrap\">",
       .lit "<table><thead><tr><th>Kind</th><th>Target</th><th>Cron</th>",
       .lit "<th>Timezone</th>",
       .lit "<th>Next run</th><th>Latest results</th><th>Status</th><th>Actions</th>",
       .lit "</tr></thead>", .lit "<tbody>" ],
     joined schedules scheduleRow
       [ .lit "<tr><td colspan=\"8\" class=\"empty\">No schedules configured.</td></tr>" ],
     [.lit "</tbody></table></div></section>"] ])
    user Assets.none

/-! ## §3  Batches -/

/-- `status.value`. -/
def batchStatusValue : BatchStatus → PyStr
  | .pending => PyStr.lit "pending"
  | .running => PyStr.lit "running"
  | .succeeded => PyStr.lit "succeeded"
  | .partialSuccess => PyStr.lit "partial"
  | .failed => PyStr.lit "failed"

/-- A batch with the columns that only its pages read. -/
structure BatchView where
  id : Uuid
  targetType : Routers.BatchTarget
  target : Json
  batch : ScanBatch

def BatchView.done (view : BatchView) : ℕ :=
  view.batch.completedCount + view.batch.failedCount

/-- `batch_progress_fragment`. -/
def batchProgressFragment (view : BatchView) : Markup := cat [
  [.lit "<div class=\"scan-state\""],
  if view.batch.status.terminal then []
  else
    [ .lit " hx-get=\"/analyst/batches/", .plain (uuid view.id), .lit "/status\" ",
      .lit "hx-trigger=\"load delay:2s\" hx-swap=\"outerHTML\"" ],
  [ .lit "><h2>", .text (title (batchStatusValue view.batch.status)), .lit "</h2>",
    .lit "<p>", .plain (number view.done), .lit " of ",
    .plain (number view.batch.totalCount), .lit " processed; ",
    .plain (number view.batch.failedCount), .lit " failed.</p>",
    .lit "<progress value=\"", .plain (number view.done), .lit "\" max=\"",
    .plain (number (max view.batch.totalCount 1)), .lit "\">",
    .plain (number view.done), .lit "</progress></div>" ]]

/-- `batch_progress_page`. -/
def batchProgressPage (user : User) (view : BatchView) : Markup :=
  page (PyStr.lit "Batch progress")
    (cat [
     [ .lit "<section class=\"hero compact\"><p class=\"eyebrow\">",
       .lit "Durable background batch</p><h1>", .text view.targetType.value,
       .lit " scan</h1></section><section class=\"panel\" aria-live=\"polite\">" ],
     batchProgressFragment view, [.lit "</section>"] ])
    user Assets.none

section Batches

variable (U : UnicodeData) (floatText : BitVec 64 → PyStr)

def batchRow (view : BatchView) : Markup :=
  [ .lit "<tr><td><a href=\"/analyst/batches/", .plain (uuid view.id), .lit "\">",
    .text view.targetType.value, .lit "</a></td><td>",
    .text (strValue U floatText view.target), .lit "</td><td>",
    .text (batchStatusValue view.batch.status), .lit "</td><td>",
    .plain (number view.done), .lit " / ", .plain (number view.batch.totalCount),
    .lit "</td></tr>" ]

/-- `batch_builder_page`. -/
def batchBuilderPage (user : User) (batches : List BatchView) : Markup :=
  page (PyStr.lit "Batch scans")
    (cat [
     [ .lit "<section class=\"hero compact\"><p class=\"eyebrow\">",
       .lit "Background operations</p>",
       .lit "<h1>Workspace batch scans</h1><p>Targets are resolved from active synced ",
       .lit "users. The worker processes each email under the platform rate limit.</p>",
       .lit "</section>", .lit "<section class=\"panel\"><h2>Create batch</h2>",
       .lit "<form method=\"post\" action=\"/analyst/batches\">",
       .lit "<label>Target type<select name=\"target_type\">",
       .lit "<option value=\"ou\">Organizational unit</option>",
       .lit "<option value=\"domain\">Domain</option>",
       .lit "<option value=\"selection\">Selected user UUIDs</option></select></label>",
       .lit "<label>OU path, domain, or comma-separated user UUIDs",
       .lit "<input name=\"target\" maxlength=\"8192\" required></label>",
       .lit "<button type=\"submit\">Queue background batch</button></form></section>",
       .lit "<section class=\"panel\"><h2>Recent batches</h2>",
       .lit "<div class=\"table-wrap\">",
       .lit "<table><thead><tr><th>Type</th><th>Target</th><th>Status</th>",
       .lit "<th>Progress</th></tr></thead><tbody>" ],
     joined batches (batchRow U floatText)
       [.lit "<tr><td colspan=\"4\" class=\"empty\">No batches yet.</td></tr>"],
     [.lit "</tbody></table></div></section>"] ])
    user Assets.none

end Batches

/-! ## §4  Notifications -/

/-- `status.value`. -/
def notificationStatusValue : NotificationStatus → PyStr
  | .pending => PyStr.lit "pending"
  | .dryRun => PyStr.lit "dry_run"
  | .sent => PyStr.lit "sent"
  | .suppressed => PyStr.lit "suppressed"
  | .failed => PyStr.lit "failed"

def notificationRow (item : Notification) : Markup :=
  [ .lit "<tr><td>", .plain (time item.createdAt), .lit "</td><td>",
    .text item.template, .lit "</td>", .lit "<td>",
    .text (notificationStatusValue item.status), .lit "</td><td>",
    .plain (number item.findingIds.length), .lit "</td></tr>" ]

/-- `notifications_page`. -/
def notificationsPage (user : User) (notifications : List Notification) : Markup :=
  page (PyStr.lit "Notifications")
    (cat [
     [ .lit "<section class=\"hero compact\"><p class=\"eyebrow\">Safe outreach</p>",
       .lit "<h1>User notifications</h1><p>Messages contain only a portal link. ",
       .lit "Dry-run is enabled unless a super-admin explicitly disables it.</p></section>",
       .lit "<section class=\"panel\"><h2>Prepare campaign</h2>",
       .lit "<form method=\"post\" action=\"/analyst/notifications/preview\">",
       .lit "<label>Target type<select name=\"target_type\">",
       .lit "<option value=\"user\">User email</option>",
       .lit "<option value=\"ou\">Organizational unit</option>",
       .lit "<option value=\"domain\">Domain</option>",
       .lit "<option value=\"selection\">Selected user UUIDs</option></select></label>",
       .lit "<label>Email, OU path, domain, or comma-separated UUIDs",
       .lit "<input name=\"target\" maxlength=\"8192\" required></label>",
       .lit "<button type=\"submit\">Preview recipients</button></form></section>",
       .lit "<section class=\"panel\"><h2>Recent attempts</h2>",
       .lit "<div class=\"table-wrap\">",
       .lit "<table><thead><tr><th>Created</th><th>Template</th><th>Status</th>",
       .lit "<th>Findings</th></tr></thead><tbody>" ],
     joined notifications notificationRow
       [.lit "<tr><td colspan=\"4\" class=\"empty\">No notification attempts.</td></tr>"],
     [.lit "</tbody></table></div></section>"] ])
    user Assets.none

/-- `confirmation_page`. -/
def confirmationPage (user : User) (targetType target : PyStr)
    (recipientCount : ℕ) : Markup :=
  page (PyStr.lit "Confirm notifications")
    [ .lit "<section class=\"hero compact\"><p class=\"eyebrow\">",
      .lit "Explicit confirmation</p>",
      .lit "<h1>Confirm notification campaign</h1></section><section class=\"panel\">",
      .lit "<p><strong>", .plain (number recipientCount),
      .lit "</strong> active users with open findings ",
      .lit "match this target.</p>",
      .lit "<p>Email bodies will contain only a link to the authenticated portal.</p>",
      .lit "<form method=\"post\" action=\"/analyst/notifications/confirm\">",
      .lit "<input type=\"hidden\" name=\"target_type\" value=\"", .text targetType,
      .lit "\">", .lit "<input type=\"hidden\" name=\"target\" value=\"",
      .text target, .lit "\">",
      .lit "<button type=\"submit\">Confirm and queue</button>",
      .lit "<a class=\"button secondary\" href=\"/analyst/notifications\">Cancel</a>",
      .lit "</form></section>" ]
    user Assets.none

/-! ## §5  The pages are closed -/

section Closed

variable {U : UnicodeData} {floatText : BitVec 64 → PyStr}

theorem toggleCell_closed (entryId : Uuid) {channel : String} (value : Bool)
    (h : channel ∈ ["alert_soc", "alert_user", "alert_wazuh", "alert_iris",
      "enabled"]) : (toggleCell entryId channel value).Closed := by
  simp only [List.mem_cons, List.not_mem_nil, or_false] at h
  rcases h with rfl | rfl | rfl | rfl | rfl
  all_goals
    cases value
    all_goals
      simp only [Markup.Closed, toggleCell, Bool.false_eq_true, if_true, if_false,
        shape_nil, shape_lit, shape_plain]
      repeat rw [lit_ofList]
      rfl

theorem watchlistRow_closed (view : WatchlistView) : (watchlistRow view).Closed := by
  refine closed_cat_cons ?_ (closed_cat_cons (toggleCell_closed _ _ (by simp))
    (closed_cat_cons (toggleCell_closed _ _ (by simp))
    (closed_cat_cons (toggleCell_closed _ _ (by simp))
    (closed_cat_cons (toggleCell_closed _ _ (by simp))
    (closed_cat_cons (toggleCell_closed _ _ (by simp))
    (closed_cat_cons ?_ closed_cat_nil))))))
  all_goals
    simp only [Markup.Closed, shape_nil, shape_lit, shape_text, shape_plain]
    repeat rw [lit_ofList]
    rfl

theorem checkbox_closed {name : String} (label : String)
    (h : name ∈ ["alert_soc", "alert_user", "alert_wazuh", "alert_iris"]) :
    (checkbox name label).Closed := by
  simp only [List.mem_cons, List.not_mem_nil, or_false] at h
  rcases h with rfl | rfl | rfl | rfl
  all_goals
    simp only [Markup.Closed, checkbox, shape_nil, shape_lit, shape_text]
    repeat rw [lit_ofList]
    rfl

theorem watchlistPage_closed (user : User) (entries : List WatchlistView) :
    (watchlistPage user entries).Closed := by
  refine page_closed (closed_cat_cons ?_ (closed_cat_cons
    (checkbox_closed _ (by simp)) (closed_cat_cons (checkbox_closed _ (by simp))
    (closed_cat_cons (checkbox_closed _ (by simp)) (closed_cat_cons
    (checkbox_closed _ (by simp)) (closed_cat_cons ?_ (closed_cat_cons
    (closed_joined (fun view _ => watchlistRow_closed view) ?_)
    (closed_cat_cons ?_ closed_cat_nil)))))))) _ _ _
  all_goals
    simp only [Markup.Closed, shape_nil, shape_lit]
    repeat rw [lit_ofList]
    rfl

theorem previewFragment_closed (nextRun : Timestamp) :
    (previewFragment nextRun).Closed := by
  simp only [Markup.Closed, previewFragment, shape_nil, shape_lit, shape_text]
  repeat rw [lit_ofList]
  rfl

theorem scheduleError_closed (schedule : Schedule) :
    (scheduleError schedule).Closed := by
  unfold scheduleError
  split
  · simp only [Markup.Closed, shape_nil, shape_lit, shape_text]
    repeat rw [lit_ofList]
    rfl
  · exact closed_nil

theorem latestResults_closed (schedule : Schedule) :
    (latestResults schedule).Closed := by
  unfold latestResults
  split
  all_goals
    simp only [Markup.Closed, shape_nil, shape_lit, shape_plain]
    repeat rw [lit_ofList]
    rfl

theorem scheduleRow_closed (entry : Uuid × Schedule) : (scheduleRow entry).Closed := by
  refine closed_cat_cons ?start (closed_cat_cons (scheduleError_closed _)
    (closed_cat_cons ?middle (closed_cat_cons (latestResults_closed _)
      (closed_cat_cons ?actions closed_cat_nil))))
  case actions =>
    cases entry.2.enabled
    all_goals
      simp only [Markup.Closed, Bool.false_eq_true, if_true, if_false, shape_nil,
        shape_lit, shape_plain]
      repeat rw [lit_ofList]
      rfl
  all_goals
    simp only [Markup.Closed, shape_nil, shape_lit, shape_text]
    repeat rw [lit_ofList]
    rfl

theorem schedulesPage_closed (user : User) (schedules : List (Uuid × Schedule)) :
    (schedulesPage user schedules).Closed := by
  refine page_closed (closed_cat_cons ?_ (closed_cat_cons
    (closed_joined (fun entry _ => scheduleRow_closed entry) ?_)
    (closed_cat_cons ?_ closed_cat_nil))) _ _ _
  all_goals
    simp only [Markup.Closed, shape_nil, shape_lit]
    repeat rw [lit_ofList]
    rfl

/-- The polling attributes stand inside the tag, so both forms are walked. -/
theorem batchProgressFragment_closed (view : BatchView) :
    (batchProgressFragment view).Closed := by
  unfold batchProgressFragment
  cases view.batch.status.terminal
  all_goals
    simp only [Markup.Closed, cat, Bool.false_eq_true, if_true, if_false,
      List.flatten_cons, List.flatten_nil, List.cons_append, List.nil_append,
      shape_nil, shape_lit, shape_text, shape_plain]
    repeat rw [lit_ofList]
    rfl

theorem batchProgressPage_closed (user : User) (view : BatchView) :
    (batchProgressPage user view).Closed := by
  refine page_closed (closed_cat_cons ?_ (closed_cat_cons
    (batchProgressFragment_closed view) (closed_cat_cons ?_ closed_cat_nil))) _ _ _
  all_goals
    simp only [Markup.Closed, shape_nil, shape_lit, shape_text]
    repeat rw [lit_ofList]
    rfl

theorem batchRow_closed (view : BatchView) : (batchRow U floatText view).Closed := by
  simp only [Markup.Closed, batchRow, shape_nil, shape_lit, shape_text, shape_plain]
  repeat rw [lit_ofList]
  rfl

theorem batchBuilderPage_closed (user : User) (batches : List BatchView) :
    (batchBuilderPage U floatText user batches).Closed := by
  refine page_closed (closed_cat_cons ?_ (closed_cat_cons
    (closed_joined (fun view _ => batchRow_closed view) ?_)
    (closed_cat_cons ?_ closed_cat_nil))) _ _ _
  all_goals
    simp only [Markup.Closed, shape_nil, shape_lit]
    repeat rw [lit_ofList]
    rfl

theorem notificationRow_closed (item : Notification) :
    (notificationRow item).Closed := by
  simp only [Markup.Closed, notificationRow, shape_nil, shape_lit, shape_text,
    shape_plain]
  repeat rw [lit_ofList]
  rfl

theorem notificationsPage_closed (user : User) (notifications : List Notification) :
    (notificationsPage user notifications).Closed := by
  refine page_closed (closed_cat_cons ?_ (closed_cat_cons
    (closed_joined (fun item _ => notificationRow_closed item) ?_)
    (closed_cat_cons ?_ closed_cat_nil))) _ _ _
  all_goals
    simp only [Markup.Closed, shape_nil, shape_lit]
    repeat rw [lit_ofList]
    rfl

theorem confirmationPage_closed (user : User) (targetType target : PyStr)
    (recipientCount : ℕ) :
    (confirmationPage user targetType target recipientCount).Closed := by
  refine page_closed ?_ _ _ _
  simp only [Markup.Closed, shape_nil, shape_lit, shape_text, shape_plain]
  repeat rw [lit_ofList]
  rfl

end Closed

end LeakcheckHub.Pages
