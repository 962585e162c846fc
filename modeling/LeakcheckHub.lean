import LeakcheckHub.Foundation.Aead
import LeakcheckHub.Foundation.Base64
import LeakcheckHub.Foundation.Calls
import LeakcheckHub.Foundation.Coroutines
import LeakcheckHub.Foundation.Csv
import LeakcheckHub.Foundation.Dates
import LeakcheckHub.Foundation.Decimal
import LeakcheckHub.Foundation.Digests
import LeakcheckHub.Foundation.Doubles
import LeakcheckHub.Foundation.Forms
import LeakcheckHub.Foundation.Groups
import LeakcheckHub.Foundation.Html
import LeakcheckHub.Foundation.Json
import LeakcheckHub.Foundation.JsonDocument
import LeakcheckHub.Foundation.JsonPaths
import LeakcheckHub.Foundation.JsonText
import LeakcheckHub.Foundation.KeyedRows
import LeakcheckHub.Foundation.LastWrites
import LeakcheckHub.Foundation.Outcome
import LeakcheckHub.Foundation.PathSegments
import LeakcheckHub.Foundation.PgText
import LeakcheckHub.Foundation.Precedence
import LeakcheckHub.Foundation.PyText
import LeakcheckHub.Foundation.Rations
import LeakcheckHub.Foundation.RowLocks
import LeakcheckHub.Foundation.RowVersions
import LeakcheckHub.Foundation.Secrets
import LeakcheckHub.Foundation.Selections
import LeakcheckHub.Foundation.Spacing
import LeakcheckHub.Foundation.System
import LeakcheckHub.Foundation.UnitOfWork
import LeakcheckHub.Foundation.Url
import LeakcheckHub.Foundation.Utf8
import LeakcheckHub.Models
import LeakcheckHub.Branding
import LeakcheckHub.Normalization
import LeakcheckHub.Accounts.Addresses
import LeakcheckHub.Accounts.DirectorySync
import LeakcheckHub.Accounts.ExternalIds
import LeakcheckHub.Accounts.Linking
import LeakcheckHub.Accounts.Offboarding
import LeakcheckHub.Accounts.Requests
import LeakcheckHub.Accounts.Resync
import LeakcheckHub.Accounts.SuperAdmins
import LeakcheckHub.Accounts.Users
import LeakcheckHub.Normalization.Origins
import LeakcheckHub.Normalization.Subjects
import LeakcheckHub.Analyst.Export
import LeakcheckHub.Analyst.FindingViews
import LeakcheckHub.Auth.Csrf
import LeakcheckHub.Auth.Local
import LeakcheckHub.Auth.Mfa
import LeakcheckHub.Auth.Sessions
import LeakcheckHub.Auth.Throttling
import LeakcheckHub.Auth.Totp
import LeakcheckHub.Crypto.AssociatedData
import LeakcheckHub.Crypto.DataKeys
import LeakcheckHub.Crypto.Reencrypt
import LeakcheckHub.Crypto.Rotation
import LeakcheckHub.Crypto.Slots
import LeakcheckHub.Client.Breaker
import LeakcheckHub.Client.Bucket
import LeakcheckHub.Client.Endpoint
import LeakcheckHub.Client.Pacing
import LeakcheckHub.Client.Pages
import LeakcheckHub.Client.Queries
import LeakcheckHub.Client.Requests
import LeakcheckHub.Client.SoleCaller
import LeakcheckHub.Findings.Chains
import LeakcheckHub.Findings.Columns
import LeakcheckHub.Findings.ConfiguredPurges
import LeakcheckHub.Findings.Discovery
import LeakcheckHub.Findings.Drafts
import LeakcheckHub.Findings.Fingerprints
import LeakcheckHub.Findings.Ingest
import LeakcheckHub.Findings.Passwords
import LeakcheckHub.Findings.PurgeRace
import LeakcheckHub.Findings.Transitions
import LeakcheckHub.Findings.Remediation
import LeakcheckHub.Findings.Retention
import LeakcheckHub.Findings.Reveal
import LeakcheckHub.Findings.SanitizedRaw
import LeakcheckHub.Findings.SelfReference
import LeakcheckHub.Findings.Sightings
import LeakcheckHub.Findings.Store
import LeakcheckHub.Findings.VendorRecords
import LeakcheckHub.Deployment.Bootstrap
import LeakcheckHub.Scans.Admission
import LeakcheckHub.Scans.Attendance
import LeakcheckHub.Scans.Cooldown
import LeakcheckHub.Scans.Exclusion
import LeakcheckHub.Scans.Execution
import LeakcheckHub.Scans.SharedClient
import LeakcheckHub.Batches.Completion
import LeakcheckHub.Batches.Creation
import LeakcheckHub.Batches.LateFinish
import LeakcheckHub.Batches.Leases
import LeakcheckHub.Batches.Queue
import LeakcheckHub.Batches.Targets
import LeakcheckHub.Batches.WriteSets
import LeakcheckHub.Scheduling.Dispatch
import LeakcheckHub.Scheduling.Ticks
import LeakcheckHub.Outbox.AlertDispatch
import LeakcheckHub.Outbox.Campaigns
import LeakcheckHub.Outbox.DailyDigests
import LeakcheckHub.Outbox.DedupeKeys
import LeakcheckHub.Outbox.Delivery
import LeakcheckHub.Outbox.Fanout
import LeakcheckHub.Outbox.Mail
import LeakcheckHub.Outbox.Parameters
import LeakcheckHub.Outbox.SoleWorker
import LeakcheckHub.Outbox.Watchlist
import LeakcheckHub.Pages.Administration
import LeakcheckHub.Pages.Analyst
import LeakcheckHub.Pages.Layout
import LeakcheckHub.Pages.Operations
import LeakcheckHub.Pages.Portal
import LeakcheckHub.Pages.Sealed
import LeakcheckHub.Accounts.DirectoryClient
import LeakcheckHub.Portal.BatchSubjects
import LeakcheckHub.Portal.Own
import LeakcheckHub.Portal.Pages
import LeakcheckHub.Routers.CampaignRequest
import LeakcheckHub.Routers.Durability
import LeakcheckHub.Routers.Handlers
import LeakcheckHub.Routers.OAuthCookie
import LeakcheckHub.Routers.Recorders
import LeakcheckHub.Routers.SignIn
import LeakcheckHub.Settings.Consumers
import LeakcheckHub.Settings.History
import LeakcheckHub.Settings.Store
import LeakcheckHub.Settings.Update
import LeakcheckHub.Routers.GoogleClient
import LeakcheckHub.Watchlist
