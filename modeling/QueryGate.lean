import QueryGate.Validation.References
import QueryGate.Validation.WindowGuardrails
import QueryGate.Validation.SchemaValidation
import QueryGate.Compiler.NestedQueries
import QueryGate.Compiler.Where
import QueryGate.Compiler.PolicySoundness
import QueryGate.Compiler.RankReferences
import QueryGate.Validation.Masking
import QueryGate.Audit.Noninterference
import QueryGate.Audit.Coverage
import QueryGate.Execution.DisclosureLimiter
import QueryGate.Compiler.WriteFilter
import QueryGate.Execution.WriteAuditing
import QueryGate.Execution.WriteRowFilters
import QueryGate.Execution.ShapeOutline
import QueryGate.Audit.WormBuffer
import QueryGate.Execution.QuotaLimiter
import QueryGate.Execution.RedisKeys
import QueryGate.Audit.Ledger
import QueryGate.Audit.ChainedSink
import QueryGate.Execution.ApprovalToken
import QueryGate.Execution.ApprovalGate
import QueryGate.Execution.Concurrency
import QueryGate.Admin.LiveConfiguration
import QueryGate.Catalog.VersionIds
import QueryGate.Compiler.DateBuckets
import QueryGate.Mcp.Elicitation
import QueryGate.Identity.Lockout
import QueryGate.Identity.SpentCodes
import QueryGate.Audit.WormSegment
import QueryGate.Audit.SearchCursor
import QueryGate.Audit.WormPaging
import QueryGate.Audit.FileReader
import QueryGate.Audit.WormSplits
import QueryGate.Validation.NarrowedAcceptance
import QueryGate.Validation.ScopeDepths
import QueryGate.Compiler.WindowPlacement
import QueryGate.Catalog.Staleness
import QueryGate.Identity.ReturnTarget
import QueryGate.Mcp.TransportGuard
import QueryGate.Admin.ShapeNoninterference
import QueryGate.Admin.CompleteScan
import QueryGate.Catalog.SchemaDiffs
import QueryGate.Catalog.UsageConservation
import QueryGate.Catalog.ReviewLifecycle
import QueryGate.Execution.AsyncExecution
import QueryGate.Execution.AsyncRuns
import QueryGate.Execution.RedisBudget
import QueryGate.Execution.RedisConcurrency
import QueryGate.Foundation.ExpiringDict
import QueryGate.Identity.RedisSessions
import QueryGate.Identity.SessionBooks
import QueryGate.Identity.SessionRevocation
