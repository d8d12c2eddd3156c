import NantianGateway.Ir.EndpointEligibility
import NantianGateway.Ir.MeshDefault
import NantianGateway.Xds.AckSoundness
import NantianGateway.Http.OidcSession
import NantianGateway.Http.JwtValidators
import NantianGateway.Http.PolicyEnforcement
import NantianGateway.Ir.EndpointCoverage
import NantianGateway.Xds.Publication
import NantianGateway.Http.RateLimitGuards
import NantianGateway.Observability.Admission
import NantianGateway.Http.UpstreamLimits
import NantianGateway.Ir.EndpointHealth
import NantianGateway.Http.Materialization
import NantianGateway.SharedTls.BackendAgreement
import NantianGateway.Stream.PooledSessions
import NantianGateway.Ai.TokenBudget
import NantianGateway.Ai.TenantEnforcement
import NantianGateway.Ai.CacheProvenance
import NantianGateway.App.AdminAuth
import NantianGateway.Http.AiResponses
import NantianGateway.Http.CachedResponses
import NantianGateway.Wasm.InvokeHook
import NantianGateway.Wasm.PluginSync
import NantianGateway.Http.BodyReplay
import NantianGateway.Http.OidcState
import NantianGateway.Observability.RetryBudget
import NantianGateway.Http.CorsSafety
import NantianGateway.Http.PathPrefix
import NantianGateway.Http.RetryExclusions
import NantianGateway.Http.ConfigCache
import NantianGateway.Ir.HostLiterals
import NantianGateway.Stream.ListenerUpdates
import NantianGateway.SharedTls.IdentityOrder
import NantianGateway.Stream.RelayFidelity
import NantianGateway.Stream.PoolCapacity
import NantianGateway.Stream.UdpSessions
import NantianGateway.Stream.PoolAccounting
import NantianGateway.Stream.ServerName
import NantianGateway.Xds.StatusReport
import NantianGateway.Ai.IdleMasking
import NantianGateway.Ir.MirrorSampling
import NantianGateway.Ai.PromptVariables
import NantianGateway.HttpRuntime.ApplyReports
import NantianGateway.HttpRuntime.Filters
