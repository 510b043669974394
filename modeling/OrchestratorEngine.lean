import OrchestratorEngine.Applicability.Admissions
import OrchestratorEngine.Applicability.Artifacts
import OrchestratorEngine.Applicability.Declarations
import OrchestratorEngine.Applicability.Replays
import OrchestratorEngine.Applicability.Retention
import OrchestratorEngine.Applicability.RoundTrips
import OrchestratorEngine.Applicability.Tidiness
import OrchestratorEngine.Applicability.Values
import OrchestratorEngine.Captures.Alignment
import OrchestratorEngine.Captures.Cuts
import OrchestratorEngine.Captures.Headers
import OrchestratorEngine.Captures.Leaks
import OrchestratorEngine.Captures.Redaction
import OrchestratorEngine.Captures.Streams
import OrchestratorEngine.Captures.Tokens
import OrchestratorEngine.Captures.Words
import OrchestratorEngine.CodexApp.Authorization
import OrchestratorEngine.CodexApp.Delivery
import OrchestratorEngine.CodexApp.Receipts
import OrchestratorEngine.Continuity.Acknowledgements
import OrchestratorEngine.Continuity.Activations
import OrchestratorEngine.Continuity.Advances
import OrchestratorEngine.Continuity.AssignmentClaims
import OrchestratorEngine.Continuity.Calls
import OrchestratorEngine.Continuity.Checkpoints
import OrchestratorEngine.Continuity.Claiming
import OrchestratorEngine.Continuity.Commands
import OrchestratorEngine.Continuity.Creations
import OrchestratorEngine.Continuity.Deliveries
import OrchestratorEngine.Continuity.DependencyCycles
import OrchestratorEngine.Continuity.Diagnostics
import OrchestratorEngine.Continuity.Edits
import OrchestratorEngine.Continuity.Endings
import OrchestratorEngine.Continuity.Fences
import OrchestratorEngine.Continuity.Growth
import OrchestratorEngine.Continuity.Inspections
import OrchestratorEngine.Continuity.Ledgers
import OrchestratorEngine.Continuity.Moves
import OrchestratorEngine.Continuity.Outcomes
import OrchestratorEngine.Continuity.Performed
import OrchestratorEngine.Continuity.PublicationOrder
import OrchestratorEngine.Continuity.Queries
import OrchestratorEngine.Continuity.Rearming
import OrchestratorEngine.Continuity.Rebinding
import OrchestratorEngine.Continuity.Records
import OrchestratorEngine.Continuity.Recovery
import OrchestratorEngine.Continuity.Repairs
import OrchestratorEngine.Continuity.Requests
import OrchestratorEngine.Continuity.Results
import OrchestratorEngine.Continuity.Routes
import OrchestratorEngine.Continuity.Runs
import OrchestratorEngine.Continuity.Scans
import OrchestratorEngine.Continuity.SelfCheck
import OrchestratorEngine.Continuity.Sendings
import OrchestratorEngine.Continuity.Settlements
import OrchestratorEngine.Continuity.Soundness
import OrchestratorEngine.Continuity.Transitions
import OrchestratorEngine.Continuity.Upkeep
import OrchestratorEngine.Continuity.Waits
import OrchestratorEngine.Foundation.Alike
import OrchestratorEngine.Foundation.Claims
import OrchestratorEngine.Foundation.Dict
import OrchestratorEngine.Foundation.DirectedCycles
import OrchestratorEngine.Foundation.Durable
import OrchestratorEngine.Foundation.Floats
import OrchestratorEngine.Foundation.Grouping
import OrchestratorEngine.Foundation.Interleaving
import OrchestratorEngine.Foundation.Journal
import OrchestratorEngine.Foundation.Outcome
import OrchestratorEngine.Foundation.Pooling
import OrchestratorEngine.Foundation.Raising
import OrchestratorEngine.Foundation.RelyGuarantee
import OrchestratorEngine.Foundation.Replacement
import OrchestratorEngine.Foundation.Scanning
import OrchestratorEngine.Foundation.Selection
import OrchestratorEngine.Foundation.Selector
import OrchestratorEngine.Foundation.Table
import OrchestratorEngine.Foundation.Threads
import OrchestratorEngine.Foundation.Transaction
import OrchestratorEngine.Foundation.Utf8
import OrchestratorEngine.LocalChecks.Agreement
import OrchestratorEngine.LocalChecks.Checks
import OrchestratorEngine.LocalChecks.Coherence
import OrchestratorEngine.LocalChecks.Moves
import OrchestratorEngine.LocalChecks.Records
import OrchestratorEngine.LocalChecks.Single
import OrchestratorEngine.Metrics.Acceptances
import OrchestratorEngine.Metrics.Advisor
import OrchestratorEngine.Metrics.Attribution
import OrchestratorEngine.Metrics.Bindings
import OrchestratorEngine.Metrics.Decisions
import OrchestratorEngine.Metrics.Eligibility
import OrchestratorEngine.Metrics.Failures
import OrchestratorEngine.Metrics.Logical
import OrchestratorEngine.Metrics.Modules
import OrchestratorEngine.Metrics.Progress
import OrchestratorEngine.Metrics.QualifiedUsage
import OrchestratorEngine.Metrics.Records
import OrchestratorEngine.Metrics.Selection
import OrchestratorEngine.Metrics.Usage
import OrchestratorEngine.Metrics.Values
import OrchestratorEngine.MetricsStore.Calls
import OrchestratorEngine.MetricsStore.Commits
import OrchestratorEngine.MetricsStore.CrashAtomicity
import OrchestratorEngine.MetricsStore.Effects
import OrchestratorEngine.MetricsStore.Performed
import OrchestratorEngine.MetricsStore.Records
import OrchestratorEngine.MetricsStore.Recovery
import OrchestratorEngine.MetricsStore.Retries
import OrchestratorEngine.MetricsStore.Soundness
import OrchestratorEngine.Monitors.Exclusivity
import OrchestratorEngine.Monitors.Github
import OrchestratorEngine.Monitors.Life
import OrchestratorEngine.Monitors.Lifecycle
import OrchestratorEngine.Monitors.Moves
import OrchestratorEngine.Monitors.Ownership
import OrchestratorEngine.Monitors.Publication
import OrchestratorEngine.Monitors.Records
import OrchestratorEngine.Monitors.Recoverable
import OrchestratorEngine.Monitors.Reports
import OrchestratorEngine.Monitors.Transitions
import OrchestratorEngine.ResourceAdapters.Acceptance
import OrchestratorEngine.ResourceAdapters.Recipes
import OrchestratorEngine.ResourceAdapters.Results
import OrchestratorEngine.ResourceAdapters.Runnable
import OrchestratorEngine.ResourceAdapters.Values
import OrchestratorEngine.ResourceQueue.Assignments
import OrchestratorEngine.ResourceQueue.Blame
import OrchestratorEngine.ResourceQueue.Blockers
import OrchestratorEngine.ResourceQueue.Choices
import OrchestratorEngine.ResourceQueue.Conservation
import OrchestratorEngine.ResourceQueue.Durations
import OrchestratorEngine.ResourceQueue.Gate
import OrchestratorEngine.ResourceQueue.Invariant
import OrchestratorEngine.ResourceQueue.Landings
import OrchestratorEngine.ResourceQueue.Launches
import OrchestratorEngine.ResourceQueue.Ledger
import OrchestratorEngine.ResourceQueue.Moves
import OrchestratorEngine.ResourceQueue.Normalization
import OrchestratorEngine.ResourceQueue.Notices
import OrchestratorEngine.ResourceQueue.Operations
import OrchestratorEngine.ResourceQueue.Outcomes
import OrchestratorEngine.ResourceQueue.Passes
import OrchestratorEngine.ResourceQueue.Registry
import OrchestratorEngine.ResourceQueue.Rows
import OrchestratorEngine.ResourceQueue.Runs
import OrchestratorEngine.ResourceQueue.Schedule
import OrchestratorEngine.ResourceQueue.Search
import OrchestratorEngine.ResourceQueue.Selectors
import OrchestratorEngine.ResourceQueue.Skips
import OrchestratorEngine.ResourceQueue.Submission
import OrchestratorEngine.ResourceQueue.Timelines
import OrchestratorEngine.ResourceQueue.Visits
import OrchestratorEngine.ResourceQueue.Waits
import OrchestratorEngine.ResourceService.Configuration
import OrchestratorEngine.ResourceService.CrashAtomicity
import OrchestratorEngine.ResourceService.Deliveries
import OrchestratorEngine.ResourceService.Outbox
import OrchestratorEngine.ResourceService.Snapshots
import OrchestratorEngine.ResourceService.Submissions
import OrchestratorEngine.ResourceService.Updates
import OrchestratorEngine.Watcher.Channels
import OrchestratorEngine.Watcher.Consumption
import OrchestratorEngine.Watcher.FaultIsolation
import OrchestratorEngine.Watcher.Gating
import OrchestratorEngine.Watcher.Handling
import OrchestratorEngine.Watcher.Isolated
import OrchestratorEngine.Watcher.Isolation
import OrchestratorEngine.Watcher.LostUpdates
import OrchestratorEngine.Watcher.Migration
import OrchestratorEngine.Watcher.Processes
import OrchestratorEngine.Watcher.Projects
import OrchestratorEngine.Watcher.Readers
import OrchestratorEngine.Watcher.Scans
import OrchestratorEngine.Watcher.ServiceSafety
import OrchestratorEngine.Watcher.Services
import OrchestratorEngine.Watcher.Signals
import OrchestratorEngine.WorkerLease.GroupVerdicts
import OrchestratorEngine.WorkerLease.Identity
import OrchestratorEngine.WorkerLease.Probes
import OrchestratorEngine.WorkerLease.ProcStat
import OrchestratorEngine.WorkerLease.ProcessGroups
import OrchestratorEngine.Workers.Dispatch
import OrchestratorEngine.Workers.DispatchRecovery
import OrchestratorEngine.Workers.Publication
import OrchestratorEngine.Workers.Reaping
import OrchestratorEngine.Workers.Records
import OrchestratorEngine.Workers.Recoverable
import OrchestratorEngine.Workers.Supervision
import OrchestratorEngine.Workers.WakePolicy
import OrchestratorEngine.Workstreams.Authorization
import OrchestratorEngine.Workstreams.CrashRecovery
import OrchestratorEngine.Workstreams.Files
import OrchestratorEngine.Workstreams.Finality
import OrchestratorEngine.Workstreams.History
import OrchestratorEngine.Workstreams.Operations
import OrchestratorEngine.Workstreams.Progress
import OrchestratorEngine.Workstreams.Reconciliation
