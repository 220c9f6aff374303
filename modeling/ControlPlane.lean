import ControlPlane.Credits.BalanceRead
import ControlPlane.Credits.Ledger
import ControlPlane.JobIndex.FirstTerminal
import ControlPlane.JobIndex.Harvest
import ControlPlane.JobIndex.Isolation
import ControlPlane.JobLifecycle.ClosedRecord
import ControlPlane.JobLifecycle.Fencing
import ControlPlane.JobLifecycle.Outcome
import ControlPlane.Kek.Convergence
import ControlPlane.Kek.Custody
import ControlPlane.Kek.Rotation
import ControlPlane.Kek.TokenCrypto
import ControlPlane.Library.HalfOpenWindows
import ControlPlane.Library.JsonText
import ControlPlane.Library.KeyedTables
import ControlPlane.Library.Leases
import ControlPlane.Library.Pages
import ControlPlane.Library.Programs
import ControlPlane.Library.Runs
import ControlPlane.Library.SlidingWindows
import ControlPlane.LlmSpend.Completeness
import ControlPlane.LlmSpend.Ingest
import ControlPlane.LlmSpend.Partition
import ControlPlane.LlmSpend.Records
import ControlPlane.LlmSpend.Rollup
import ControlPlane.LlmSpend.Settlement
import ControlPlane.LlmSpend.Watermark
import ControlPlane.LlmSpend.Window
import ControlPlane.Meter.Debit
import ControlPlane.Meter.Settlement
import ControlPlane.Migrations.CrashSafety
import ControlPlane.Migrations.Runner
import ControlPlane.Migrations.SqlText
import ControlPlane.Modules.Catalog
import ControlPlane.Provision.Calm
import ControlPlane.Provision.Driving
import ControlPlane.Provision.Endpoints
import ControlPlane.Provision.Health
import ControlPlane.Provision.Invocation
import ControlPlane.Provision.Progress
import ControlPlane.Provision.Record
import ControlPlane.Provision.Refusals
import ControlPlane.Provision.Soundness
import ControlPlane.Provision.Stepping
import ControlPlane.Provision.Steps
import ControlPlane.Smoke.SpendBound
import ControlPlane.Store.Credits
import ControlPlane.Store.LlmSpend
import ControlPlane.Store.Ownership
import ControlPlane.Store.ProvisionJobs
import ControlPlane.Store.Rows
import ControlPlane.Store.RunpodJobs
import ControlPlane.Store.SmokeRenders
import ControlPlane.Store.StudioTokens
import ControlPlane.Store.TenantResources
import ControlPlane.Store.Tenants
import ControlPlane.Teardown.Guard
import ControlPlane.Teardown.Legs
import ControlPlane.Teardown.Pass
import ControlPlane.TenantLifecycle.Exclusion
import ControlPlane.TenantLifecycle.Tokens
import ControlPlane.Workers.Bindings
import ControlPlane.Modules.OneRoute
import ControlPlane.Onboarding.Requests
import ControlPlane.Onboarding.OneStudio
import ControlPlane.TenantLifecycle.GoLive
import ControlPlane.TenantLifecycle.Finality
import ControlPlane.Provision.LiveDriver
import ControlPlane.Ownership.Claims
import ControlPlane.Ownership.Steals
import ControlPlane.Workers.Settings
import ControlPlane.StudioBindings.Variables
import ControlPlane.StudioBindings.Writers
import ControlPlane.StudioBindings.Projections
import ControlPlane.StudioBindings.Convergence
import ControlPlane.StudioUpgrade.Driver
import ControlPlane.StudioUpgrade.Stepping
import ControlPlane.StudioUpgrade.Truth
import ControlPlane.StudioCredentials.NeverDead
import ControlPlane.Library.WriteMaps
import ControlPlane.Reconcile.Report
import ControlPlane.Reconcile.InUse
import ControlPlane.Reconcile.Orphans
import ControlPlane.Library.TextParts
import ControlPlane.Routing.Cookies
import ControlPlane.Store.Accounts
import ControlPlane.Routing.Dispatch
import ControlPlane.Routing.Privilege
import ControlPlane.Library.OneUse
import ControlPlane.Identity.Calls
import ControlPlane.Identity.OneLink
import ControlPlane.Identity.SoundSignIn
import ControlPlane.LlmSpend.Retention
import ControlPlane.LlmSpend.RetentionLoss
import ControlPlane.Teardown.Harvest
import ControlPlane.Teardown.Truth
import ControlPlane.Provision.OneRelease
import ControlPlane.Modules.Upgrade
import ControlPlane.Modules.UpgradeOutcome
import ControlPlane.StudioBindings.Readback
import ControlPlane.StudioBindings.ReadbackVerdict
import ControlPlane.RunpodProxy.Gate
import ControlPlane.RunpodProxy.SubmitGate
import ControlPlane.RunpodProxy.Closers
import ControlPlane.RunpodProxy.Evidence
import ControlPlane.RunpodProxy.SweepTally
import ControlPlane.RunpodProxy.ClosedOnEvidence
import ControlPlane.PayPal.Amounts
import ControlPlane.InvokeKey.Scope
import ControlPlane.Cloudflare.TokenCensus
import ControlPlane.Modules.Readiness
import ControlPlane.Modules.ReadyRounds
import ControlPlane.Modules.ReadyPartition
import ControlPlane.Onboarding.SlugCheck
import ControlPlane.Library.Listings
import ControlPlane.Buckets.Emptying
import ControlPlane.Buckets.EmptiesSoundly
import ControlPlane.Buckets.KeyText
import ControlPlane.Buckets.ObjectKeys
import ControlPlane.Buckets.DeleteBody
import ControlPlane.Library.PercentText
import ControlPlane.Library.UrlPaths
import ControlPlane.Library.TextOrder
import ControlPlane.SigV4.Signing
import ControlPlane.SigV4.Canonical
import ControlPlane.SigV4.KeyPaths
import ControlPlane.Credits.Activity
import ControlPlane.Credits.ActivityCut
import ControlPlane.Reconcile.Accounting
import ControlPlane.Reconcile.ReadOn
import ControlPlane.Library.SqliteTokens
import ControlPlane.Migrations.CommentFree
import ControlPlane.Migrations.TokensKept
import ControlPlane.Migrations.Stripping
import ControlPlane.PayPal.Rail
import ControlPlane.PayPal.Reports
import ControlPlane.PayPal.CreditedOnce
import ControlPlane.Onboarding.SlugHint
import ControlPlane.PayPal.RoundTrip
import ControlPlane.R2Usage.Report
import ControlPlane.R2Usage.AlertSound
import ControlPlane.Library.HexText
import ControlPlane.RunpodProxy.TokenCodec
import ControlPlane.Teardown.NamesApart
import ControlPlane.Library.PaddedDigits
import ControlPlane.Library.Calendar
import ControlPlane.Meter.Periods
import ControlPlane.Cron.Heartbeat
import ControlPlane.Library.HttpsUrls
import ControlPlane.RunpodProxy.RouteMatch
import ControlPlane.Library.Dialogues
import ControlPlane.Smoke.Renders
import ControlPlane.Smoke.RenderTruth
import ControlPlane.Reconcile.NameOwners
import ControlPlane.Reconcile.RowOrder
import ControlPlane.Library.Patterns
import ControlPlane.Onboarding.PolicyUrl
import ControlPlane.Onboarding.PolicyPinning
import ControlPlane.Library.Words
import ControlPlane.Library.PartialIndexes
import ControlPlane.Crypto.Digests
import ControlPlane.FrontDoor.Responses
import ControlPlane.Operators.Scopes
import ControlPlane.Library.RoutePatterns
import ControlPlane.Operators.Credentials
import ControlPlane.Operators.Routes
import ControlPlane.Operators.Requests
import ControlPlane.Operators.AdminPlane
import ControlPlane.Operators.Grants
import ControlPlane.Operators.GrantedTable
import ControlPlane.Operators.Attribution
import ControlPlane.FrontDoor.Sessions
import ControlPlane.FrontDoor.Requests
import ControlPlane.FrontDoor.AccountPlane
import ControlPlane.FrontDoor.SignedIn
import ControlPlane.FrontDoor.Consent
import ControlPlane.Library.RouteSources
import ControlPlane.Operators.Console
import ControlPlane.Doors.Providers
import ControlPlane.Doors.Requests
import ControlPlane.Doors.Vouched
import ControlPlane.Library.Pools
import ControlPlane.Teardown.Holds
import ControlPlane.Teardown.Interlock
import ControlPlane.ApiTokens.Requests
import ControlPlane.ApiTokens.Standing
