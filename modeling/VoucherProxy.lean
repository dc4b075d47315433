import VoucherProxy.Foundation.Program
import VoucherProxy.Foundation.Pool
import VoucherProxy.Foundation.Accounting
import VoucherProxy.Foundation.Totals
import VoucherProxy.Foundation.Timeline
import VoucherProxy.Foundation.Budget
import VoucherProxy.Foundation.Likeness
import VoucherProxy.Foundation.Peers
import VoucherProxy.Foundation.Surroundings
import VoucherProxy.Foundation.Base64
import VoucherProxy.Foundation.Pacing
import VoucherProxy.Foundation.Contract
import VoucherProxy.Foundation.Alike
import VoucherProxy.Foundation.Gcra
import VoucherProxy.Foundation.Text
import VoucherProxy.Foundation.Hex
import VoucherProxy.Foundation.Checks
import VoucherProxy.Foundation.SortedMap
import VoucherProxy.Foundation.Json
import VoucherProxy.Foundation.Codec
import VoucherProxy.Tls
import VoucherProxy.Config
import VoucherProxy.Pinning
import VoucherProxy.Overlay
import VoucherProxy.RateLimit
import VoucherProxy.Quotas
import VoucherProxy.Error
import VoucherProxy.Policy
import VoucherProxy.Model
import VoucherProxy.Upstream
import VoucherProxy.Auth
import VoucherProxy.Metrics
import VoucherProxy.Http
import VoucherProxy.State
import VoucherProxy.Caller
import VoucherProxy.Operation
import VoucherProxy.GraphQl
import VoucherProxy.Routes
import VoucherProxy.Charging
import VoucherProxy.Acting
import VoucherProxy.Discipline
import VoucherProxy.Runs
import VoucherProxy.Sample
import VoucherProxy.Snapshots
import VoucherProxy.Mediation
import VoucherProxy.Consistency
import VoucherProxy.Surfaces
import VoucherProxy.Reloading
import VoucherProxy.AuthCache
import VoucherProxy.Exits
import VoucherProxy.SiteFilter
import VoucherProxy.CreatePolicy
import VoucherProxy.Confinement
import VoucherProxy.Endpoints
import VoucherProxy.Records
import VoucherProxy.Completion
import VoucherProxy.Documents
import VoucherProxy.Counting
import VoucherProxy.Measured
import VoucherProxy.Demands
import VoucherProxy.Issued
import VoucherProxy.Failures
import VoucherProxy.Labels
import VoucherProxy.Trail
import VoucherProxy.Charges
import VoucherProxy.Windows
import VoucherProxy.Forgiving
import VoucherProxy.SiteViews
import VoucherProxy.Information
import VoucherProxy.Hosts
import VoucherProxy.Diagnosis
import VoucherProxy.Minting
import VoucherProxy.Crossing
import VoucherProxy.Interrupted
import VoucherProxy.Described
import VoucherProxy.Mutations
import VoucherProxy.CheckConfig
import VoucherProxy.Spellings
import VoucherProxy.Probe
import VoucherProxy.Sweeping
import VoucherProxy.Rendering
import VoucherProxy.Snippet
import VoucherProxy.Allowance
import VoucherProxy.Appearance
import VoucherProxy.Isolation
import VoucherProxy.Secrecy
import VoucherProxy.Scraping
import VoucherProxy.Console
import VoucherProxy.Deployment
import VoucherProxy.Inventory
import VoucherProxy.Onboarding
import VoucherProxy.Throttling
import VoucherProxy.Repinning
import VoucherProxy.Guessing
import VoucherProxy.Warnings
