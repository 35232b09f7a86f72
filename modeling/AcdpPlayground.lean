import AcdpPlayground.Foundation.Calendar
import AcdpPlayground.Foundation.LockedTransactions
import AcdpPlayground.Foundation.TaskTable
import AcdpPlayground.Foundation.CallSequence
import AcdpPlayground.Foundation.KeyedTable
import AcdpPlayground.Foundation.PythonText
import AcdpPlayground.Foundation.TextMethods
import AcdpPlayground.Foundation.TextPattern
import AcdpPlayground.Foundation.JsonText
import AcdpPlayground.Foundation.JsonReading
import AcdpPlayground.Foundation.JsonMeaning
import AcdpPlayground.Foundation.TextEncoding
import AcdpPlayground.Foundation.Base64Url
import AcdpPlayground.Foundation.PercentEncoding
import AcdpPlayground.Foundation.HttpDate
import AcdpPlayground.Foundation.JsonValue
import AcdpPlayground.Foundation.JsonPath
import AcdpPlayground.Foundation.IpAddress
import AcdpPlayground.Foundation.TransitionRun
import AcdpPlayground.Foundation.Strands
import AcdpPlayground.Foundation.Gather
import AcdpPlayground.Events
import AcdpPlayground.Quota.Counters
import AcdpPlayground.Quota.MemoryStore
import AcdpPlayground.Quota.Windows
import AcdpPlayground.Quota.PostgresStore
import AcdpPlayground.Quota.ConcurrentCalls
import AcdpPlayground.Quota.StoreAgreement
import AcdpPlayground.Quota.Guard
import AcdpPlayground.Auth.TokenManager
import AcdpPlayground.Auth.RejectedToken
import AcdpPlayground.Auth.TokenHistory
import AcdpPlayground.Auth.TokenCall
import AcdpPlayground.Auth.TokenFreshness
import AcdpPlayground.Auth.RefreshTelemetry
import AcdpPlayground.Client.WireModels
import AcdpPlayground.Client.ServedBinding
import AcdpPlayground.Client.SafeFetch
import AcdpPlayground.Client.Sending
import AcdpPlayground.Client.UnauthorizedRetry
import AcdpPlayground.Client.Operations
import AcdpPlayground.Client.TenantPolicy
import AcdpPlayground.Client.Identifiers
import AcdpPlayground.Client.SyntheticIds
import AcdpPlayground.Runs.Runner
import AcdpPlayground.Runs.EventStream
import AcdpPlayground.Runs.StreamOutcome
import AcdpPlayground.Runs.Delivery
import AcdpPlayground.Runs.RunVisibility
import AcdpPlayground.Runs.FanOut
import AcdpPlayground.Runs.RunLimiter
import AcdpPlayground.Runs.LaunchWindow
import AcdpPlayground.Runs.LaunchRetry
import AcdpPlayground.Keys.EnvCodec
import AcdpPlayground.Keys.LockStep
import AcdpPlayground.Keys.EnvRoundTrip
import AcdpPlayground.Keys.DiffGuard
import AcdpPlayground.Bridge.RetryAfter
import AcdpPlayground.Bridge.ControlPlane
import AcdpPlayground.Bridge.Operations
import AcdpPlayground.Client.SearchPages
import AcdpPlayground.Auth.Mint
import AcdpPlayground.Auth.MintFailures
import AcdpPlayground.Auth.ClaimsPeek
import AcdpPlayground.Webhooks.Receiver
import AcdpPlayground.Webhooks.TenantAgreement
import AcdpPlayground.Runs.Lifecycle
import AcdpPlayground.A2a.Sidecar
import AcdpPlayground.A2a.ReplyPairing
import AcdpPlayground.A2a.CitedInputs
import AcdpPlayground.A2a.Bridge
import AcdpPlayground.A2a.Executor
import AcdpPlayground.A2a.OwnReplies
import AcdpPlayground.A2a.ExecutionCalls
import AcdpPlayground.A2a.SessionTable
import AcdpPlayground.A2a.VerifiedCitations
import AcdpPlayground.A2a.Tampering
import AcdpPlayground.A2a.CallAgent
import AcdpPlayground.Access.ApiKey
import AcdpPlayground.Access.ClientAddress
import AcdpPlayground.Access.Gate
import AcdpPlayground.Access.Noninterference
import AcdpPlayground.Access.RegistryProxy
import AcdpPlayground.Access.ContextRouting
import AcdpPlayground.Agents.MockFallback
import AcdpPlayground.Agents.AgentRun
import AcdpPlayground.Scenarios.AgentBundle
import AcdpPlayground.Scenarios.Chain
import AcdpPlayground.Scenarios.Fanout
import AcdpPlayground.Conformance.SpecLine
