import NantianGateway.Http.IpFilter
import NantianGateway.Http.SessionToken
import NantianGateway.Ir.HttpFastPath
import NantianGateway.Lib.Stages

/-!
# The request filter

`do_request_filter` refuses what is too large or comes to the wrong listener, asks admission and
rate limits, selects a backend on one of four paths (compiled fast path, gRPC routes, HTTP routes,
fallback) and runs the filters of that path.  `Ok(true)` says that a response has been written,
`Ok(false)` that the request goes on.  What a stage meets on the outside is a record of outcomes;
the state keeps a history of responses and of policy sections checked.
-/

namespace NantianGateway.Http

open Text Stages

/-! ## Filters of a route -/

variable (filters : List Filter)

def requestRedirectFilter : Option RequestRedirectFilter :=
  filters.findSome? (·.requestRedirect)

def jwtAuthFilter : Option JwtAuthFilter :=
  filters.findSome? (·.jwtAuth)

def externalAuthFilter : Option ExternalAuthFilter :=
  filters.findSome? (·.externalAuth)

def directResponseFilter : Option DirectResponseFilter :=
  filters.findSome? fun filter =>
    (filter.extensionRef.filter (·.resolved)).bind fun item =>
      if item.extensionType = "DirectResponse" then item.directResponse else none

def isSupportedFilterType (filterType : String) : Bool :=
  filterType ∈ ["RequestHeaderModifier", "ResponseHeaderModifier", "CORS", "RequestRedirect",
    "URLRewrite", "RequestMirror", "ExternalAuth", "ExtensionRef", "JwtAuth"]

def extensionFilterSupported (filter : ExtensionFilter) : Bool :=
  filter.resolved && filter.extensionType == "DirectResponse" && filter.directResponse.isSome

def ensureSupportedFilters : Bool :=
  filters.all (fun filter => isSupportedFilterType filter.filterType) &&
    filters.all (fun filter => filter.extensionRef.all extensionFilterSupported) &&
    filters.all fun filter => filter.externalAuth.all fun auth =>
      eqIgnoreAsciiCase auth.protocol "HTTP" || eqIgnoreAsciiCase auth.protocol "GRPC"

/-! ## Responses and outcomes -/

inductive Reply where
  | misdirected
  | headerTooLarge
  | bodyTooLarge
  | overloaded
  | rateLimited
  | cacheHit
  | directResponse
  | corsPreflight
  | redirect
  | routeNotFound
  | grpcNoRoute
  | ipDenied
  | oidc
  | basicAuth
  | jwt
  | authUnavailable
  | authBodyTooLarge
  | authDenied
  | authError
  | wasmRejected (code : ℤ)
  | aiBodyTooLarge
  | aiReadFailed
  | aiRejected
  deriving DecidableEq

inductive PolicySection where
  | ip (config : SecurityIpConfig)
  | oidc (config : OidcAuthConfig)
  | basicAuth (config : BasicAuthConfig)
  | jwt (config : JwtAuthConfig)
  deriving DecidableEq

inductive FilterEvent where
  | responded (reply : Reply)
  | checked (policy : PolicySection) (passed : Bool)
  | jwtFilterChecked (filter : JwtAuthFilter) (passed : Bool)
  deriving DecidableEq

/-- The part of the request context that outlives the filter, with the history. -/
structure FilterState where
  events : List FilterEvent := []
  isMirrorSubrequest : Bool := false
  selectedBackend : Option SelectedBackend := none
  fastSelectedBackend : Option CompiledSelectedHttpBackend := none
  deriving DecidableEq

/-- How a handler ends: it lets the request pass, has written a response, or fails. -/
inductive HandlerOutcome where
  | passes
  | handles
  | fails
  deriving DecidableEq

inductive BodyRead where
  | chunk (len : ℕ)
  | done
  | error
  deriving DecidableEq

inductive AuthDecision where
  | allow
  /-- The response of the authorizer, and whether the response filters apply to it. -/
  | deny (filtersApply : Bool)
  | error
  deriving DecidableEq

inductive WasmOutcome where
  | accepted
  | rejected (code : ℤ)
  | failed
  deriving DecidableEq

inductive AiPreProcess where
  | processed
  | unsupportedFormat
  | failed
  deriving DecidableEq

structure AiOutcome where
  processesPath : Bool
  bodyReads : List BodyRead
  maxRequestBodyBytes : ℕ
  preProcess : AiPreProcess
  deriving DecidableEq

/-- What the outside decides about a request. -/
structure Outcomes where
  initialFails : Bool := false
  misdirected : Bool := false
  mirrorSubrequest : Option SelectedBackend := none
  maxRequestHeaderBytes : ℕ := 0
  requestHeaderBytes : ℕ := 0
  maxRequestBodyBytes : ℕ := 0
  declaredRequestBodyBytes : ℕ := 0
  requestHasBody : Bool := false
  listenerAdmitted : Bool := true
  listenerWithinRate : Bool := true
  /-- The listener closes connections without a valid client certificate, and there is none. -/
  certificateMissing : String → Bool := fun _ => false
  routeAdmitted : Bool := true
  routeWithinRate : Bool := true
  configFails : String → Bool := fun _ => false
  corsPreflight : List Filter → HandlerOutcome := fun _ => .passes
  clientAddr : Option String := none
  oidc : OidcAuthConfig → HandlerOutcome := fun _ => .passes
  basicAuth : BasicAuthConfig → HandlerOutcome := fun _ => .passes
  jwt : JwtAuthFilter → HandlerOutcome := fun _ => .passes
  /-- The endpoint of the authorizer, which `select_backend_ref` finds or not. -/
  authEndpoint : BackendTarget → Bool := fun _ => true
  authBodyReads : List BodyRead := []
  authDecision : AuthDecision := .allow
  cacheHit : HandlerOutcome := .passes
  accessLogEnabled : Bool := false
  requestIsGrpc : Bool := false
  wasm : Option WasmOutcome := none
  ai : Option AiOutcome := none
  writes : Reply → Bool := fun _ => true

/-- What the snapshot selects for a request, on each of the paths. -/
structure Selections where
  fastPath : Option CompiledSelectedHttpBackend := none
  grpc : Option SelectedBackend := none
  http : Option SelectedHttpRoute := none
  fallback : Option SelectedBackend := none

/-! ## Stages -/

def FilterState.record (st : FilterState) (event : FilterEvent) : FilterState :=
  { st with events := st.events ++ [event] }

/-- `reset_request_context`: the events are the session's, not the context's. -/
def resetRequestContext (st : FilterState) : FilterState := { events := st.events }

inductive BodyOutcome where
  | complete
  | tooLarge
  | error
  deriving DecidableEq

/-- Read the body until it ends, fails or exceeds a limit on the length so far and the next
chunk. -/
def readBody (exceeds : ℕ → ℕ → Bool) : List BodyRead → ℕ → BodyOutcome
  | [], _ => .complete
  | .done :: _, _ => .complete
  | .error :: _, _ => .error
  | .chunk len :: reads, total =>
    if exceeds total len then .tooLarge else readBody exceeds reads (total + len)

def aiRequestBodyLimitExceeded (currentLen chunkLen limit : ℕ) : Bool :=
  decide (0 < limit ∧ limit < saturatingAdd currentLen chunkLen)

section

variable (crate : IpNetCrate) (o : Outcomes)

def respond (reply : Reply) : Stage FilterState := fun st =>
  if o.writes reply then (.done true, st.record (.responded reply)) else (.failed, st)

def handler (reply : Reply) : HandlerOutcome → Stage FilterState
  | .passes => pass
  | .handles => fun st => (.done true, st.record (.responded reply))
  | .fails => fail

def guardStage (admitted : Bool) (reply : Reply) : Stage FilterState :=
  (respond o reply).when !admitted

def certificateStage (listenerName : String) : Stage FilterState :=
  Stage.when (o.certificateMissing listenerName) fail

def checkStage (policy : PolicySection) (reply : Reply) (outcome : HandlerOutcome) :
    Stage FilterState :=
  (update fun st => st.record (.checked policy (outcome == .passes))).andThen
    (handler reply outcome)

variable (route : SelectedHttpRoute)

def ipFilterStage : Stage FilterState :=
  match route.securityPolicy.bind (·.ip) with
  | none => pass
  | some config =>
    checkStage (.ip config) .ipDenied
      (match handleIpFilter crate route.securityPolicy o.clientAddr with
        | none => .passes
        | some _ => if o.writes .ipDenied then .handles else .fails)

def oidcStage : Stage FilterState :=
  match (route.securityPolicy.bind (·.authn)).bind (·.oidc) with
  | none => pass
  | some config => checkStage (.oidc config) .oidc (o.oidc config)

def basicAuthStage : Stage FilterState :=
  match (route.securityPolicy.bind (·.authn)).bind (·.basicAuth) with
  | none => pass
  | some config => checkStage (.basicAuth config) .basicAuth (o.basicAuth config)

/-- `handle_jwt_auth` reads the filters of the route, not the policy. -/
def jwtAuthStage : Stage FilterState :=
  match jwtAuthFilter route.filters with
  | none => pass
  | some filter =>
    (update fun st => st.record (.jwtFilterChecked filter (o.jwt filter == .passes))).andThen
      (handler .jwt (o.jwt filter))

def directResponseStage (filters : List Filter) : Stage FilterState :=
  (respond o .directResponse).when (directResponseFilter filters).isSome

def redirectStage (filters : List Filter) : Stage FilterState :=
  (respond o .redirect).when (requestRedirectFilter filters).isSome

def supportedFiltersStage (filters : List Filter) : Stage FilterState :=
  Stage.when (!ensureSupportedFilters filters) fail

def authBodyStage (auth : ExternalAuthFilter) : Stage FilterState :=
  match auth.forwardBodyMaxSize.filter (0 < ·) with
  | none => pass
  | some maxSize =>
    match readBody (fun total len => decide (maxSize.toNat < total + len)) o.authBodyReads 0 with
    | .complete => pass
    | .tooLarge => respond o .authBodyTooLarge
    | .error => fail

def authDecisionStage : Stage FilterState :=
  match o.authDecision with
  | .allow => pass
  | .deny filtersApply => if filtersApply then respond o .authDenied else fail
  | .error => respond o .authError

def externalAuthStage : Stage FilterState :=
  match externalAuthFilter route.filters with
  | none => pass
  | some auth =>
    runStages [(respond o .authUnavailable).when !(o.authEndpoint auth.backendRef),
      authBodyStage o auth, authDecisionStage o]

def selectedBackendFromHttpRoute (accessLogEnabled : Bool) :
    Except BackendSelectionError (Option SelectedBackend) :=
  match route.backend, route.backendName, route.backendError with
  | some backend, some backendName, _ =>
    .ok (some
      { routeKind := .http
        routeName := route.routeName
        routeNamespace := route.routeNamespace
        ruleIndex := route.ruleIndex
        routeAnnotations := if accessLogEnabled then route.routeAnnotations else .empty
        listenerName := route.listenerName
        listenerProtocol := route.listenerProtocol
        backend := backend
        backendName := backendName
        filters := route.filters
        matchedHttpPath := some route.matchedHttpPath
        timeouts := route.timeouts
        retry := route.retry
        sessionPersistence := route.sessionPersistence
        backendTls := route.backendTls })
  | _, _, some err => .error err
  | _, _, none => .ok none

variable (selected : SelectedBackend)

def cacheSelectedBackendState : Stage FilterState :=
  update fun st => { st with selectedBackend := some selected, fastSelectedBackend := none }

def backendStage : Stage FilterState :=
  match selectedBackendFromHttpRoute route o.accessLogEnabled with
  | .error _ => fail
  | .ok none => pass
  | .ok (some selected) =>
    runStages [Stage.when (o.configFails selected.backendName) fail,
      cacheSelectedBackendState selected, handler .cacheHit o.cacheHit]

def wasmStage : Stage FilterState :=
  match o.wasm with
  | some (.rejected code) => respond o (.wasmRejected (max 400 (min code 599)))
  | _ => pass

/-- The last stage.  A failed pre-processing is answered, but the request is not ended. -/
def aiStage : Stage FilterState :=
  match o.ai with
  | none => pass
  | some ai =>
    if !ai.processesPath then finish false
    else
      match readBody (aiRequestBodyLimitExceeded · · ai.maxRequestBodyBytes) ai.bodyReads 0 with
      | .tooLarge => respond o .aiBodyTooLarge
      | .error => respond o .aiReadFailed
      | .complete =>
        match ai.preProcess with
        | .processed | .unsupportedFormat => pass
        | .failed => fun st =>
          if o.writes .aiRejected then (.next, st.record (.responded .aiRejected))
          else (.failed, st)

/-! ## The paths -/

def fastPathStages (selected : CompiledSelectedHttpBackend) : List (Stage FilterState) :=
  [certificateStage o selected.listenerName, guardStage o o.routeAdmitted .overloaded,
    guardStage o o.routeWithinRate .rateLimited,
    update fun st => { st with selectedBackend := none, fastSelectedBackend := some selected },
    handler .cacheHit o.cacheHit,
    finish false]

def grpcStages : List (Stage FilterState) :=
  [Stage.when (o.configFails selected.backendName) fail, certificateStage o selected.listenerName,
    guardStage o o.routeAdmitted .overloaded,
    guardStage o o.routeWithinRate .rateLimited,
    supportedFiltersStage selected.filters,
    directResponseStage o selected.filters,
    handler .corsPreflight (o.corsPreflight selected.filters),
    cacheSelectedBackendState selected,
    finish false]

def fallbackStages : List (Stage FilterState) :=
  [Stage.when (o.configFails selected.backendName) fail, certificateStage o selected.listenerName,
    supportedFiltersStage selected.filters,
    handler .corsPreflight (o.corsPreflight selected.filters),
    cacheSelectedBackendState selected,
    handler .cacheHit o.cacheHit,
    finish false]

/-- The HTTP path up to the last stage. -/
def httpRouteStages : List (Stage FilterState) :=
  [certificateStage o route.listenerName, guardStage o o.routeAdmitted .overloaded,
    guardStage o o.routeWithinRate .rateLimited,
    supportedFiltersStage route.filters,
    handler .corsPreflight (o.corsPreflight route.filters),
    directResponseStage o route.filters,
    redirectStage o route.filters,
    ipFilterStage crate o route,
    oidcStage o route,
    basicAuthStage o route,
    jwtAuthStage o route,
    externalAuthStage o route,
    backendStage o route,
    wasmStage o]

/-- A mirrored copy of a request carries its backend with it. -/
def mirrorStage : Stage FilterState :=
  match o.mirrorSubrequest with
  | none => pass
  | some selected =>
    (update fun st =>
      { st with
        isMirrorSubrequest := true
        selectedBackend := some selected
        fastSelectedBackend := none }).andThen (finish false)

def entryStages : List (Stage FilterState) :=
  [update resetRequestContext, Stage.when o.initialFails fail,
    (respond o .misdirected).when o.misdirected,
    mirrorStage o,
    (respond o .headerTooLarge).when
      (decide (0 < o.maxRequestHeaderBytes ∧ o.maxRequestHeaderBytes < o.requestHeaderBytes)),
    (respond o .bodyTooLarge).when
      (decide (0 < o.maxRequestBodyBytes ∧ o.maxRequestBodyBytes < o.declaredRequestBodyBytes) &&
        o.requestHasBody),
    guardStage o o.listenerAdmitted .overloaded,
    guardStage o o.listenerWithinRate .rateLimited]

variable (selections : Selections)

def pathStages : List (Stage FilterState) :=
  match selections.fastPath, selections.grpc, selections.http, selections.fallback with
  | some selected, _, _, _ => fastPathStages o selected
  | none, some selected, _, _ => grpcStages o selected
  | none, none, some route, _ => httpRouteStages crate o route
  | none, none, none, some selected => fallbackStages o selected
  | none, none, none, none =>
    [respond o (if o.requestIsGrpc then .grpcNoRoute else .routeNotFound)]

def doRequestFilter : Stage FilterState :=
  (runStages (entryStages o ++ pathStages crate o selections)).andThen
    ((aiStage o).andThen (finish false))

end

end NantianGateway.Http
