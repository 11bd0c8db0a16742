import Orihsus.Runs
import Orihsus.FirstMatch
import Orihsus.Pool
import Orihsus.KeySteps
import Orihsus.Cooldowns
import Orihsus.StaleReports
import Orihsus.FillFirst
import Orihsus.Attempts
import Orihsus.Recovery
import Orihsus.Segments
import Orihsus.Sse
import Orihsus.Headers
import Orihsus.RateLimit
import Orihsus.Upstream
import Orihsus.Failover
import Orihsus.FailoverRuns
import Orihsus.Admission
import Orihsus.Streaming
import Orihsus.Config
import Orihsus.HotReload
import Orihsus.ReloadRuns
import Orihsus.ModelSync
import Orihsus.Queue
import Orihsus.BodyBudget
import Orihsus.Forward
import Orihsus.Answers
import Orihsus.Handler
import Orihsus.Summaries
import Orihsus.AuditRuns
import Orihsus.Disclosure
import Orihsus.AuditWriter
import Orihsus.AuditDelivery
import Orihsus.AuditLines
import Orihsus.PoolInvariant
import Orihsus.Startup
import Orihsus.Allowlist
import Orihsus.Debounce
import Orihsus.Endings
import Orihsus.CommitState
import Orihsus.Reads
import Orihsus.Telemetry
import Orihsus.Deadlines
import Orihsus.Backoff
import Orihsus.Probes
import Orihsus.Waiting
import Orihsus.Collectors
import Orihsus.Chunking
import Orihsus.Watchdog
import Orihsus.ResetsIn
import Orihsus.UsageMonitor
import Orihsus.Status
import Orihsus.FullCycle
import Orihsus.Jitter
import Orihsus.Serving
import Orihsus.ServingRuns
import Orihsus.UsageWorker
import Orihsus.UsageAccounts
import Orihsus.UsageRounds
import Orihsus.AuditJson
import Orihsus.AuditSummary
import Orihsus.Traffic
import Orihsus.TrafficSteps
import Orihsus.TrafficRuns
import Orihsus.TrafficBounds
import Orihsus.LoopProgress
import Orihsus.TrafficProgress
