import LeakcheckHub.Pages.Administration
import LeakcheckHub.Pages.Analyst
import LeakcheckHub.Pages.Operations
import LeakcheckHub.Pages.Portal

/-!
# No value changes a page

Whatever was scanned, synchronised, typed or returned by the vendor, a page has
the tags and attributes of its template.

§1 what the application renders · §2 every body is sealed.
-/

namespace LeakcheckHub.Pages

open Foundation Html

/-! ## §1  What the application renders -/

/-- The bodies of the routes that answer with HTML, with what each is rendered
from. -/
inductive Rendered where
  | analystDashboard (user : User) (recent : List RecentSubject)
  | scanProgressPage (user : User) (scan : Scan) (subject : ShownSubject)
  | scanStatusFragment (scan : Scan)
  | subjectHistoryPage (user : User) (subject : ShownSubject)
      (findings : List Analyst.FindingView) (events : List EventView)
      (filters : FilterTexts)
  | revealedPassword (password : PyStr)
  | remediationMarkup (findingId : Uuid) (remediated : Bool)
  | dashboardPage (user : User) (findings : List Portal.SerializedFinding)
      (canCheck : Bool)
  | progressPage (user : User) (scan : Scan)
  | progressFragment (scan : Scan)
  | remediationComplete (findingId : PyStr)
  | watchlistPage (user : User) (entries : List WatchlistView)
  | schedulesPage (user : User) (schedules : List (Uuid × Scheduling.Schedule))
  | previewFragment (nextRun : Timestamp)
  | batchBuilderPage (user : User) (batches : List BatchView)
  | batchProgressPage (user : User) (view : BatchView)
  | batchProgressFragment (view : BatchView)
  | notificationsPage (user : User) (notifications : List Notification)
  | confirmationPage (user : User) (targetType target : PyStr) (recipientCount : ℕ)
  | settingsPage (view : SettingsView) (currentUser : User)
  | auditFilters (action actor since until_ : PyStr)
  | auditRows (entries : List AuditEntry)
  | landingPage (brand : Routers.Branding)
  | profilePage (user : User) (mfaEnabled : Bool)
  | mfaEnabledPage (user : User)

section Sealed

variable (U : UnicodeData) (floatText : BitVec 64 → PyStr)
  (timestampText : Timestamp → Plain)

/-- `none` where rendering raises. -/
def Rendered.markup : Rendered → Option Markup
  | .analystDashboard user recent => some (Pages.analystDashboard user recent)
  | .scanProgressPage user scan subject =>
      some (Pages.scanProgressPage user scan subject)
  | .scanStatusFragment scan => some (Pages.scanStatusFragment scan)
  | .subjectHistoryPage user subject findings events filters =>
      Pages.subjectHistoryPage U floatText timestampText user subject findings events
        filters
  | .revealedPassword password => some (Pages.revealedPassword password)
  | .remediationMarkup findingId remediated =>
      some (Pages.remediationMarkup findingId remediated)
  | .dashboardPage user findings canCheck =>
      some (Pages.dashboardPage U floatText user findings canCheck)
  | .progressPage user scan =>
      some (Pages.progressPage user (Pages.progressFragment scan))
  | .progressFragment scan => some (Pages.progressFragment scan)
  | .remediationComplete findingId => some (Pages.remediationComplete findingId)
  | .watchlistPage user entries => some (Pages.watchlistPage user entries)
  | .schedulesPage user schedules => some (Pages.schedulesPage user schedules)
  | .previewFragment nextRun => some (Pages.previewFragment nextRun)
  | .batchBuilderPage user batches =>
      some (Pages.batchBuilderPage U floatText user batches)
  | .batchProgressPage user view => some (Pages.batchProgressPage user view)
  | .batchProgressFragment view => some (Pages.batchProgressFragment view)
  | .notificationsPage user notifications =>
      some (Pages.notificationsPage user notifications)
  | .confirmationPage user targetType target recipientCount =>
      some (Pages.confirmationPage user targetType target recipientCount)
  | .settingsPage view currentUser => some (Pages.settingsPage view currentUser)
  | .auditFilters action actor since until_ =>
      some (Pages.auditFilters action actor since until_)
  | .auditRows entries => some (Pages.auditRows U floatText entries)
  | .landingPage brand => some (Pages.landingPage brand)
  | .profilePage user mfaEnabled => some (Pages.profilePage user mfaEnabled)
  | .mfaEnabledPage user => some (Pages.mfaEnabledPage user)

/-! ## §2  Every body is sealed -/

theorem markup_closed {body : Rendered} {m : Markup}
    (h : body.markup U floatText timestampText = some m) : m.Closed := by
  cases body with
  | subjectHistoryPage user subject findings events filters =>
      exact subjectHistoryPage_closed h
  | analystDashboard user recent =>
      exact Option.some.inj h ▸ analystDashboard_closed user recent
  | scanProgressPage user scan subject =>
      exact Option.some.inj h ▸ scanProgressPage_closed user scan subject
  | scanStatusFragment scan => exact Option.some.inj h ▸ scanStatusFragment_closed scan
  | revealedPassword password =>
      exact Option.some.inj h ▸ revealedPassword_closed password
  | remediationMarkup findingId remediated =>
      exact Option.some.inj h ▸ remediationMarkup_closed findingId remediated
  | dashboardPage user findings canCheck =>
      exact Option.some.inj h ▸ dashboardPage_closed user findings canCheck
  | progressPage user scan =>
      exact Option.some.inj h ▸ progressPage_closed user (progressFragment_closed scan)
  | progressFragment scan => exact Option.some.inj h ▸ progressFragment_closed scan
  | remediationComplete findingId =>
      exact Option.some.inj h ▸ remediationComplete_closed findingId
  | watchlistPage user entries =>
      exact Option.some.inj h ▸ watchlistPage_closed user entries
  | schedulesPage user schedules =>
      exact Option.some.inj h ▸ schedulesPage_closed user schedules
  | previewFragment nextRun => exact Option.some.inj h ▸ previewFragment_closed nextRun
  | batchBuilderPage user batches =>
      exact Option.some.inj h ▸ batchBuilderPage_closed user batches
  | batchProgressPage user view =>
      exact Option.some.inj h ▸ batchProgressPage_closed user view
  | batchProgressFragment view =>
      exact Option.some.inj h ▸ batchProgressFragment_closed view
  | notificationsPage user notifications =>
      exact Option.some.inj h ▸ notificationsPage_closed user notifications
  | confirmationPage user targetType target recipientCount =>
      exact Option.some.inj h ▸ confirmationPage_closed user targetType target _
  | settingsPage view currentUser =>
      exact Option.some.inj h ▸ settingsPage_closed view currentUser
  | auditFilters action actor since until_ =>
      exact Option.some.inj h ▸ auditFilters_closed action actor since until_
  | auditRows entries => exact Option.some.inj h ▸ auditRows_closed entries
  | landingPage brand => exact Option.some.inj h ▸ landingPage_closed brand
  | profilePage user mfaEnabled =>
      exact Option.some.inj h ▸ profilePage_closed user mfaEnabled
  | mfaEnabledPage user => exact Option.some.inj h ▸ mfaEnabledPage_closed user

/-- Every body reads as its template with the values as data, and has the tags
and attributes that it has without them. -/
theorem rendered_sealed {body : Rendered} {m : Markup}
    (h : body.markup U floatText timestampText = some m) : m.Sealed :=
  sealed_of_closed (markup_closed U floatText timestampText h)

/-- A password that is markup is shown, not read. -/
theorem rendered_sealed_password :
    Markup.Sealed (Pages.revealedPassword
      (PyStr.lit "\"><script src='//x'></script>&amp;")) :=
  @rendered_sealed asciiData (fun _ => []) (fun _ => number 0)
    (.revealedPassword (PyStr.lit "\"><script src='//x'></script>&amp;")) _ rfl

end Sealed

end LeakcheckHub.Pages
