import NantianGateway.Http.Retry
import NantianGateway.Observability.CircuitBreaker

/-!
# The request context and its reset

`reset_request_context` and `clear_completed_request_context` clear the context field by field, and
the list is two short: `wasm_response_headers` and `ai_context` stay until the response filter and
the body filter use them.
-/

namespace NantianGateway.Http
namespace RequestLifecycle

open Observability.CircuitBreaker

/-! ## The context -/

structure ContextTypes where
  Span : Type
  RuntimeId : Type
  SelectedBackendConfig : Type
  TrafficTopology : Type
  ResolvedSession : Type
  MirrorRequestSession : Type
  HttpAdmissionPermit : Type
  RoutePolicyConfig : Type
  HttpCache : Type
  AIContext : Type

structure SelectedBackendRuntimeIds (RuntimeId : Type) where
  listener : Option RuntimeId := none
  route : Option RuntimeId := none
  rule : Option RuntimeId := none
  backend : Option RuntimeId := none
  endpoint : Option RuntimeId := none

def upstreamConnectLatencyMsBucketCount : ℕ := 12

/-- `RequestContext`, in the order of the source.  The defaults are those of
`RequestContext::default`. -/
structure RequestContext (T : ContextTypes) where
  startedAt : Option Instant := none
  startedAtUnixMs : ℕ := 0
  upstreamConnectStartedAt : Option Instant := none
  requestSpan : Option T.Span := none
  snapshotVersion : String := ""
  cachedSnapshot : Option Snapshot := none
  clientIp : String := ""
  host : String := ""
  method : String := ""
  path : String := ""
  requestId : String := ""
  requestHeaders : Option (BTreeMap (List String)) := none
  status : UInt16 := 0
  listenerName : String := ""
  listenerProtocol : String := ""
  routeName : String := ""
  routeNamespace : String := ""
  backend : String := ""
  routeKind : String := ""
  routeAnnotations : BTreeMap String := .empty
  responseFlags : String := ""
  bytesReceived : ℕ := 0
  declaredRequestBodyBytes : ℕ := 0
  runtimeIds : SelectedBackendRuntimeIds T.RuntimeId := {}
  selectedBackend : Option SelectedBackend := none
  fastSelectedBackend : Option CompiledSelectedHttpBackend := none
  selectedBackendConfig : Option T.SelectedBackendConfig := none
  externalAuthResponseHeaders : BTreeMap (List String) := .empty
  wasmResponseHeaders : BTreeMap String := .empty
  localResponseTrafficTopology : Option T.TrafficTopology := none
  transportRetryExcludedEndpoints : List TransportRetryExcludedEndpoint := []
  retryBackoff : Option Duration := none
  retryAttempts : UInt32 := 0
  upstreamPoolHits : UInt32 := 0
  upstreamPoolMisses : UInt32 := 0
  upstreamPeerBuildFailures : UInt32 := 0
  upstreamConnectLatencyMs : UInt64 := 0
  upstreamConnectLatencyMsMax : UInt64 := 0
  upstreamConnectLatencyMsBuckets : Fin upstreamConnectLatencyMsBucketCount → UInt32 := fun _ => 0
  resolvedSession : Option T.ResolvedSession := none
  requestMirrors : List T.MirrorRequestSession := []
  isMirrorSubrequest : Bool := false
  admissionPermit : Option T.HttpAdmissionPermit := none
  circuitBreakerPermit : Option HttpCircuitBreakerPermit := none
  rateLimitApplied : Bool := false
  retryBudgetSeeded : Bool := false
  backendObservationRecorded : Bool := false
  requestBodyBytesSeen : ℕ := 0
  routePolicy : Option T.RoutePolicyConfig := none
  accessLogRequestHeaders : BTreeMap String := .empty
  accessLogSentResponseHeaders : BTreeMap String := .empty
  accessLogUpstreamResponseHeaders : BTreeMap String := .empty
  accessLogUpstreamStatuses : List UInt16 := []
  accessLogScheme : String := ""
  accessLogRemotePort : Option UInt16 := none
  httpVersion : String := ""
  queryString : String := ""
  upstreamAddr : String := ""
  responseContentType : String := ""
  connectionId : String := ""
  httpCache : Option T.HttpCache := none
  cachedResponseBody : List (List UInt8) := []
  cachedResponseBodyBytes : ℕ := 0
  aiContext : Option T.AIContext := none

section

variable {T : ContextTypes} (ctx : RequestContext T)

def clearRequestContext : RequestContext T :=
  { ctx with
    startedAt := none
    startedAtUnixMs := 0
    upstreamConnectStartedAt := none
    requestSpan := none
    snapshotVersion := ""
    clientIp := ""
    host := ""
    method := ""
    path := ""
    requestId := ""
    requestHeaders := none
    accessLogRequestHeaders := .empty
    accessLogSentResponseHeaders := .empty
    accessLogUpstreamResponseHeaders := .empty
    accessLogUpstreamStatuses := []
    accessLogScheme := ""
    accessLogRemotePort := none
    status := 0
    listenerName := ""
    listenerProtocol := ""
    routeName := ""
    routeNamespace := ""
    backend := ""
    routeKind := ""
    routeAnnotations := .empty
    responseFlags := ""
    bytesReceived := 0
    declaredRequestBodyBytes := 0
    runtimeIds := {}
    selectedBackend := none
    fastSelectedBackend := none
    selectedBackendConfig := none
    externalAuthResponseHeaders := .empty
    localResponseTrafficTopology := none
    transportRetryExcludedEndpoints := []
    retryBackoff := none
    retryAttempts := 0
    upstreamPoolHits := 0
    upstreamPoolMisses := 0
    upstreamPeerBuildFailures := 0
    upstreamConnectLatencyMs := 0
    upstreamConnectLatencyMsMax := 0
    upstreamConnectLatencyMsBuckets := fun _ => 0
    resolvedSession := none
    requestMirrors := []
    isMirrorSubrequest := false
    httpCache := none
    cachedResponseBody := []
    cachedResponseBodyBytes := 0
    admissionPermit := none
    circuitBreakerPermit := none
    cachedSnapshot := none
    rateLimitApplied := false
    retryBudgetSeeded := false
    backendObservationRecorded := false
    requestBodyBytesSeen := 0
    routePolicy := none
    httpVersion := ""
    queryString := ""
    upstreamAddr := ""
    responseContentType := ""
    connectionId := "" }

structure StartClocks where
  now : Instant
  epochMillis : ℕ

variable (clocks : StartClocks)

def requestStartTimeUnixMs (enabled : Bool) : ℕ :=
  if enabled then clocks.epochMillis else 0

variable (recordStartTimeUnixMs : Bool)

def resetRequestContext (ctx : RequestContext T) : RequestContext T :=
  { clearRequestContext ctx with
    startedAt := some clocks.now
    startedAtUnixMs := requestStartTimeUnixMs clocks recordStartTimeUnixMs }

def newCtx : RequestContext T :=
  { startedAt := some clocks.now
    startedAtUnixMs := requestStartTimeUnixMs clocks recordStartTimeUnixMs }

def withoutClocks : RequestContext T :=
  { ctx with startedAt := none, startedAtUnixMs := 0 }

theorem withoutClocks_resetRequestContext (ctx : RequestContext T) :
    withoutClocks (resetRequestContext clocks recordStartTimeUnixMs ctx)
      = { wasmResponseHeaders := ctx.wasmResponseHeaders, aiContext := ctx.aiContext } := rfl

/-! ## A request -/

structure Stores (T : ContextTypes) where
  apply : RequestContext T → RequestContext T
  wasm_eq : ∀ ctx, (apply ctx).wasmResponseHeaders = ctx.wasmResponseHeaders
  ai_eq : ∀ ctx, (apply ctx).aiContext = ctx.aiContext

/-- How the `on_request` hooks of the plugins end, where `do_request_filter` comes to them. -/
inductive WasmOutcome where
  | skipped
  | wants (headers : BTreeMap String)
  | rejected (code : ℤ)
  | failed

/-- How the AI gateway's part of `do_request_filter` ends, where it comes to it. -/
inductive AIOutcome (T : ContextTypes) where
  | skipped
  | bodyTooLarge
  | bodyUnreadable
  | accepted (path : String) (context : T.AIContext)
  | unsupported (path : String)
  | failed (path : String)

/-- The status of a request that a plugin rejects: `code.clamp(400, 599)`. -/
def rejectionStatus (code : ℤ) : UInt16 := .ofNat (max 400 (min code 599)).toNat

def runWasm (ctx : RequestContext T) : WasmOutcome → RequestContext T
  | .skipped | .failed => ctx
  | .wants headers =>
    if headers.entries.isEmpty then ctx else { ctx with wasmResponseHeaders := headers }
  | .rejected code => { ctx with status := rejectionStatus code, responseFlags := "WR" }

def runAI (ctx : RequestContext T) : AIOutcome T → RequestContext T
  | .skipped => ctx
  | .bodyTooLarge => { ctx with status := 413, responseFlags := "RB" }
  | .bodyUnreadable => { ctx with status := 500, responseFlags := "AR" }
  | .accepted path context => { ctx with path := path, aiContext := some context }
  | .unsupported path => { ctx with path := path }
  | .failed path => { ctx with path := path, status := 500, responseFlags := "AR" }

/-- What becomes of a request. A plugin that rejects it ends `do_request_filter` before the AI
gateway. The response filter runs if an upstream answers; the body filter may see the end of the
response. -/
structure RequestRun (T : ContextTypes) where
  clocks : StartClocks
  recordStartTimeUnixMs : Bool
  before : Stores T
  wasm : WasmOutcome
  ai : AIOutcome T
  after : Stores T
  responseFilter : Bool
  bodyEnds : Bool
  ai_skipped : ∀ code, wasm = .rejected code → ai = .skipped

variable (run : RequestRun T)

def RequestRun.filtered (ctx : RequestContext T) : RequestContext T :=
  run.after.apply (runAI (runWasm
    (run.before.apply (resetRequestContext run.clocks run.recordStartTimeUnixMs ctx)) run.wasm)
      run.ai)

def RequestRun.insertedHeaders (ctx : RequestContext T) : BTreeMap String :=
  if run.responseFilter then (run.filtered ctx).wasmResponseHeaders else .empty

/-- The context after a request: the response filter has taken the headers, the body filter the AI
context, and the rest is cleared. -/
def RequestRun.serve (ctx : RequestContext T) (run : RequestRun T) : RequestContext T :=
  let ctx := run.filtered ctx
  let ctx := if run.responseFilter then { ctx with wasmResponseHeaders := .empty } else ctx
  let ctx :=
    if run.bodyEnds then
      { ctx with aiContext := none, cachedResponseBody := [], cachedResponseBodyBytes := 0 }
    else ctx
  clearRequestContext ctx

variable (history : List (RequestRun T))

def served : RequestContext T :=
  history.foldl RequestRun.serve (newCtx clocks recordStartTimeUnixMs)

/-! ## What requests leave behind -/

def WasmOutcome.wanted : WasmOutcome → Option (BTreeMap String)
  | .wants headers => if headers.entries.isEmpty then none else some headers
  | .skipped | .rejected _ | .failed => none

def AIOutcome.found : AIOutcome T → Option T.AIContext
  | .accepted _ context => some context
  | .skipped | .bodyTooLarge | .bodyUnreadable | .unsupported _ | .failed _ => none

/-- What there is for the next request: the headers that no response filter has inserted and the
AI context that no body filter has used. -/
structure LeftBehind (T : ContextTypes) where
  headers : BTreeMap String := .empty
  aiContext : Option T.AIContext := none

def RequestRun.leaves (left : LeftBehind T) (run : RequestRun T) : LeftBehind T where
  headers := if run.responseFilter then .empty else run.wasm.wanted.getD left.headers
  aiContext := if run.bodyEnds then none else run.ai.found.or left.aiContext

def leftBehind : LeftBehind T :=
  history.foldl RequestRun.leaves {}

theorem wasmResponseHeaders_runWasm (ctx : RequestContext T) (outcome : WasmOutcome) :
    (runWasm ctx outcome).wasmResponseHeaders = outcome.wanted.getD ctx.wasmResponseHeaders := by
  cases outcome with
  | wants headers =>
    rw [runWasm, WasmOutcome.wanted]
    split <;> rfl
  | _ => rfl

theorem aiContext_runWasm (ctx : RequestContext T) (outcome : WasmOutcome) :
    (runWasm ctx outcome).aiContext = ctx.aiContext := by
  cases outcome with
  | wants headers =>
    rw [runWasm]
    split <;> rfl
  | _ => rfl

theorem wasmResponseHeaders_runAI (ctx : RequestContext T) (outcome : AIOutcome T) :
    (runAI ctx outcome).wasmResponseHeaders = ctx.wasmResponseHeaders := by
  cases outcome <;> rfl

theorem aiContext_runAI (ctx : RequestContext T) (outcome : AIOutcome T) :
    (runAI ctx outcome).aiContext = outcome.found.or ctx.aiContext := by
  cases outcome <;> rfl

theorem filtered_fields (ctx : RequestContext T) :
    (run.filtered ctx).wasmResponseHeaders = run.wasm.wanted.getD ctx.wasmResponseHeaders ∧
      (run.filtered ctx).aiContext = run.ai.found.or ctx.aiContext := by
  constructor
  · rw [RequestRun.filtered, run.after.wasm_eq, wasmResponseHeaders_runAI,
      wasmResponseHeaders_runWasm, run.before.wasm_eq]
    rfl
  · rw [RequestRun.filtered, run.after.ai_eq, aiContext_runAI, aiContext_runWasm, run.before.ai_eq]
    rfl

def uncleared (ctx : RequestContext T) : LeftBehind T where
  headers := ctx.wasmResponseHeaders
  aiContext := ctx.aiContext

theorem left_serve (ctx : RequestContext T) :
    uncleared (RequestRun.serve ctx run) = run.leaves (uncleared ctx) := by
  obtain ⟨hwasm, hai⟩ := filtered_fields run ctx
  rw [RequestRun.leaves, uncleared, uncleared, ← hwasm, ← hai, RequestRun.serve]
  cases run.responseFilter <;> cases run.bodyEnds <;> rfl

theorem left_served (clocks : StartClocks) (recordStartTimeUnixMs : Bool)
    (history : List (RequestRun T)) :
    uncleared (served clocks recordStartTimeUnixMs history) = leftBehind history := by
  have hrun (ctx : RequestContext T) : uncleared (history.foldl RequestRun.serve ctx)
        = history.foldl RequestRun.leaves (uncleared ctx) := by
    induction history generalizing ctx with
    | nil => rfl
    | cons run history ih =>
      rw [List.foldl_cons, List.foldl_cons, ih, left_serve]
  exact hrun _

/-! ## Isolation -/

/-- **When a reset isolates a request from the history of its context**: exactly if the histories
leave the same headers and the same AI context behind. -/
theorem context_isolated_iff (clocks clocks' resetClocks resetClocks' : StartClocks)
    (recordStartTimeUnixMs : Bool) (history history' : List (RequestRun T)) :
    withoutClocks (resetRequestContext resetClocks recordStartTimeUnixMs
        (served clocks recordStartTimeUnixMs history))
      = withoutClocks (resetRequestContext resetClocks' recordStartTimeUnixMs
          (served clocks' recordStartTimeUnixMs history')) ↔
    leftBehind history = leftBehind history' := by
  rw [← left_served clocks recordStartTimeUnixMs history,
    ← left_served clocks' recordStartTimeUnixMs history', withoutClocks_resetRequestContext,
    withoutClocks_resetRequestContext]
  constructor
  · intro h
    have hkept := congrArg uncleared h
    exact hkept
  · intro h
    injection h with hheaders hai
    rw [hheaders, hai]

end

private def unitTypes : ContextTypes :=
  ⟨Unit, Unit, Unit, Unit, Unit, Unit, Unit, Unit, Unit, Unit⟩

private def storesNothing : Stores unitTypes := ⟨id, fun _ => rfl, fun _ => rfl⟩

private def pluginRequest (wasm : List (String × String))
    (sorted : wasm.Pairwise fun a b => a.1 < b.1)
    (responseFilter : Bool) : RequestRun unitTypes where
  clocks := ⟨0, 0⟩
  recordStartTimeUnixMs := false
  before := storesNothing
  wasm := .wants ⟨wasm, sorted⟩
  ai := .skipped
  after := storesNothing
  responseFilter := responseFilter
  bodyEnds := true
  ai_skipped _ h := by cases h

/-- **A header of one request is in the response to the next**: a plugin wants it in the response to
a request that no upstream answers. -/
theorem earlier_plugin_header_in_response :
    (pluginRequest [] List.Pairwise.nil true).insertedHeaders
        (served ⟨0, 0⟩ false [pluginRequest [("x-user", "alice")]
          (List.pairwise_singleton _ _) false])
      = ⟨[("x-user", "alice")], List.pairwise_singleton _ _⟩ ∧
    (pluginRequest [] List.Pairwise.nil true).insertedHeaders (served ⟨0, 0⟩ false []) = .empty ∧
    leftBehind [pluginRequest [("x-user", "alice")] (List.pairwise_singleton _ _) false]
      ≠ leftBehind [] := by
  refine ⟨rfl, rfl, fun h => ?_⟩
  have hheaders := congrArg (fun left => left.headers.entries.length) h
  exact Nat.one_ne_zero hheaders

end RequestLifecycle
end NantianGateway.Http
