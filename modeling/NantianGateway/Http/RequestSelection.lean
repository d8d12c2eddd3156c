import NantianGateway.Http.Forwarding
import NantianGateway.Http.ResponseCache
import NantianGateway.Ir.RuleChoice

/-!
# What is selected for a request

`build_selection_request_meta` describes a request when it comes in, `build_request_meta` when a
backend has to be selected again; the two do not start from the same port, and only the first one
puts headers in.  A `Moment` is what one selection finds around it.
-/

namespace NantianGateway

open Text Stages

/-- What a call of a selection finds besides the snapshot and the request. -/
structure Moment where
  now : Instant := 0
  endpointRuntime : EndpointRuntimeStore := .empty
  state : SelectionState := {}

def Snapshot.asOf (s : Snapshot) (moment : Moment) : Snapshot :=
  { s with endpointRuntime := moment.endpointRuntime }

theorem Snapshot.Indexed.asOf {cr : Crates} {s : Snapshot} (h : s.Indexed cr) (moment : Moment) :
    (s.asOf moment).Indexed cr :=
  ⟨h.ready, h.compiled_http, h.compiled_grpc, h.backendNames, h.backendIndex,
    h.backendServiceIndex, h.workloadNamespaceIndex, h.listenerNameIndex, h.httpListenerIndices,
    h.grpcListenerIndices, h.httpListenerPortIndex, h.grpcListenerPortIndex,
    h.serviceFrontendIndex, h.serviceFrontendListenerPortIndex, h.serviceFrontendAttachmentIndex,
    h.httpRouteHostnameIndex, h.grpcRouteHostnameIndex, h.routeAttachmentListenerIndex,
    h.requestMaterialization, h.httpFastPath, h.streamListenerRouteIndex, h.streamFastPath⟩

namespace Http

/-! ## Descriptions of a request -/

/-- What a session shows of a request; the headers are the readable ones, by lower-case name. -/
structure DownstreamRequest extends RequestView where
  headers : BTreeMap (List String) := .empty
  serverPort : UInt32 := 0
  clientIp : Option String := none

def RequestView.pathAndQuery (view : RequestView) : String :=
  match view.query with
  | none => view.path
  | some query => view.path ++ "?" ++ query

def grpcContentTypeHeaders (headers : BTreeMap (List String)) : BTreeMap (List String) :=
  match ((headers.get "content-type").getD []).filter fun value =>
    startsWith value "application/grpc" with
  | [] => .empty
  | values => ⟨[("content-type", values)], List.pairwise_singleton _ _⟩

section

variable (cr : Crates)

def RequestView.materialize (view : RequestView) (port : UInt32) : RequestMeta :=
  RequestMeta.withPort cr view.rawHost port view.pathAndQuery view.method .empty

variable (request : DownstreamRequest)

def buildRequestMeta : RequestMeta :=
  { request.toRequestView.materialize cr request.serverPort with sourceIp := request.clientIp }

def buildSelectionRequestMeta (sourceIp : Option String)
    (port : UInt32) (materializeHeaders : Bool) : RequestMeta :=
  { request.toRequestView.materialize cr port with
    headers :=
      if materializeHeaders then request.headers else grpcContentTypeHeaders request.headers
    sourceIp := sourceIp }

end

def fastPathRequestFromHeader (request : DownstreamRequest) (port : UInt32) :
    HttpFastPathRequest where
  host := request.rawHost
  port := port
  path := request.path
  method := request.method
  isGrpc := ((request.headers.get "content-type").getD []).any fun value =>
    startsWith value "application/grpc"

/-! ## The selections -/

structure GatewayProxy extends ProxyOptions where
  listenerPortHint : Option UInt32 := none
  /-- The target that a session of the request's headers points at. -/
  resolveTarget : BTreeMap (List String) → SessionPersistence → Option PersistentSessionTarget :=
    fun _ _ => none

def GatewayProxy.requestServerPort (proxy : GatewayProxy) (request : DownstreamRequest) : UInt32 :=
  proxy.listenerPortHint.getD request.serverPort

def fastPathRequestFeaturesAreSafe (requestHeadersRequired requestSourceIpRequired : Bool) : Bool :=
  !requestHeadersRequired && !requestSourceIpRequired

structure InitialMoments where
  fastPath : Moment := {}
  grpc : Moment := {}
  http : Moment := {}
  fallback : Moment := {}

section

variable (cr : Crates) (s : Snapshot) (proxy : GatewayProxy) (request : DownstreamRequest)

def initialRequestMeta : RequestMeta :=
  buildSelectionRequestMeta cr request
    (if s.requestMaterialization.sourceIp || proxy.observes then request.clientIp else none)
    (proxy.requestServerPort request) s.requestMaterialization.requiresFullHeaders

variable (moments : InitialMoments)

def initialFastPath : Option CompiledSelectedHttpBackend :=
  if fastPathRequestFeaturesAreSafe s.requestMaterialization.requiresFullHeaders
      s.requestMaterialization.sourceIp then
    ((s.asOf moments.fastPath).selectHttpFastPath cr
      (fastPathRequestFromHeader request (proxy.requestServerPort request)) moments.fastPath.now
        moments.fastPath.state).1
  else none

def initialGrpc : Option SelectedBackend :=
  (selectGrpcBackend cr (s.asOf moments.grpc) (initialRequestMeta cr s proxy request)
    (proxy.resolveTarget (initialRequestMeta cr s proxy request).headers) moments.grpc.now
      moments.grpc.state).1

def initialHttp : Option SelectedHttpRoute :=
  if (initialGrpc cr s proxy request moments).isNone then
    (selectHttpRoute cr (s.asOf moments.http) (initialRequestMeta cr s proxy request)
      (proxy.resolveTarget (initialRequestMeta cr s proxy request).headers) moments.http.now
        moments.http.state).1
  else none

def initialFallback : Option SelectedBackend :=
  if (initialGrpc cr s proxy request moments).isNone &&
      (initialHttp cr s proxy request moments).isNone then
    (selectBackend cr (s.asOf moments.fallback) (initialRequestMeta cr s proxy request)
      (proxy.resolveTarget (initialRequestMeta cr s proxy request).headers) moments.fallback.now
        moments.fallback.state).1
  else none

/-- The selections that `do_request_filter` makes. -/
def initialSelections : Selections where
  fastPath := initialFastPath cr s proxy request moments
  grpc := initialGrpc cr s proxy request moments
  http := initialHttp cr s proxy request moments
  fallback := initialFallback cr s proxy request moments

end

def ByHttpRoute (selections : Selections) : Prop :=
  selections.fastPath = none ∧ selections.grpc = none ∧ selections.http.isSome = true

/-! ## The two descriptions -/

section

variable {cr : Crates} {s : Snapshot} {proxy : GatewayProxy} {request : DownstreamRequest}

theorem bare_buildRequestMeta (hport : proxy.requestServerPort request = request.serverPort) :
    Bare (buildRequestMeta cr request) (initialRequestMeta cr s proxy request) where
  host := rfl
  port := by rw [initialRequestMeta, hport]; rfl
  path := rfl
  method := rfl
  queryParams := rfl
  headers := rfl

theorem not_isGrpcRequest_buildRequestMeta :
    isGrpcRequest (buildRequestMeta cr request) = false := rfl

end

end Http
end NantianGateway
