import NantianGateway.Ir.HttpFastPath
import NantianGateway.Ir.StreamSelection

/-!
# Rebuilding the indexes

`rebuild_runtime_indexes`: the matchers are compiled, every index and both plans are derived from
the configuration, and the flag is raised.

What the rest of the development knows of a rebuilt snapshot is `Indexed`: each derived field is
the one its builder makes from the configuration the snapshot holds now.
-/

namespace NantianGateway

open Text

section

variable (cr : Crates)

/-! ## Compiling matchers -/

def normalizeMatchName (name : String) : String :=
  if hasAsciiUppercase name then asciiLower name else name

def HeaderMatch.compileRuntimeState (item : HeaderMatch) : HeaderMatch :=
  { item with
    name := normalizeMatchName item.name
    compiledRegex := compileRegex cr item.value (item.matchType == "RegularExpression") }

def QueryMatch.compileRuntimeState (item : QueryMatch) : QueryMatch :=
  { item with
    name := normalizeMatchName item.name
    compiledRegex := compileRegex cr item.value (item.matchType == "RegularExpression") }

def HttpMatch.compileRuntimeState (matcher : HttpMatch) : HttpMatch :=
  { matcher with
    compiledPathRegex := compileRegex cr matcher.path (matcher.pathType == "RegularExpression")
    headers := matcher.headers.map (HeaderMatch.compileRuntimeState cr)
    queryParams := matcher.queryParams.map (QueryMatch.compileRuntimeState cr) }

def GrpcMatch.compileRuntimeState (matcher : GrpcMatch) : GrpcMatch :=
  let regexEnabled := matcher.matchType == "RegularExpression"
  { matcher with
    compiledServiceRegex := compileRegex cr matcher.service (regexEnabled && matcher.service != "")
    compiledMethodRegex := compileRegex cr matcher.method (regexEnabled && matcher.method != "")
    headers := matcher.headers.map (HeaderMatch.compileRuntimeState cr) }

def HttpRule.compileMatchers (rule : HttpRule) : HttpRule :=
  { rule with «matches» := rule.matches.map (HttpMatch.compileRuntimeState cr) }

def HttpRoute.compileMatchers (route : HttpRoute) : HttpRoute :=
  { route with rules := route.rules.map (HttpRule.compileMatchers cr) }

def GrpcRule.compileMatchers (rule : GrpcRule) : GrpcRule :=
  { rule with «matches» := rule.matches.map (GrpcMatch.compileRuntimeState cr) }

def GrpcRoute.compileMatchers (route : GrpcRoute) : GrpcRoute :=
  { route with rules := route.rules.map (GrpcRule.compileMatchers cr) }

/-! ## Building the indexes -/

variable (listeners : List Listener)

def buildListenerIndices (kind : ListenerKind) : List ℕ :=
  (listeners.zipIdx.filter fun entry => matchesListenerKind entry.1 kind).map Prod.snd

/-- The indices of the listeners of a kind, by port. -/
def buildListenerPortIndex (kind : ListenerKind) : Table UInt32 (List ℕ) :=
  .pushAll ((listeners.zipIdx.filter fun entry => matchesListenerKind entry.1 kind).map
    fun entry => (entry.1.port, entry.2))

def buildListenerNameIndex : Table String ℕ :=
  .ofFirst (listeners.zipIdx.map fun entry => (entry.1.name, entry.2))

def buildServiceFrontendIndex : Table String ServiceFrontendRef :=
  .ofEntries (listeners.filterMap fun listener =>
    (serviceFrontend listener).map fun frontend => (listener.name, frontend))

def buildServiceFrontendListenerPortIndex : Table UInt32 (List ℕ) :=
  .pushAll ((listeners.zipIdx.filter fun entry => (serviceFrontend entry.1).isSome).map
    fun entry => (entry.1.port, entry.2))

def buildServiceFrontendAttachmentIndex : Table String (List String) :=
  .pushAll ((listeners.filter fun listener => !listener.attachedRoutes.isEmpty).filterMap
    fun listener => (serviceFrontend listener).map fun frontend =>
      (frontend.namespace, frontend.name))

def buildBackendIndex (backends : List BackendCluster) : Table String ℕ :=
  .ofEntries ((backends.map backendClusterName).zipIdx)

def buildWorkloadNamespaceIndex (workloads : List Workload) : Table String String :=
  .ofEntries (workloads.map fun workload => (workload.ip, workload.namespace))

variable (routes : List StreamRoute)

def streamRouteIndices : Table String (List ℕ) :=
  .pushAll (routes.zipIdx.map fun entry => (streamRouteName entry.1, entry.2))

/-- The indices of the stream routes attached to a listener, in the order of its
attachments. -/
def attachedStreamRoutes (listener : Listener) : List ℕ :=
  listener.attachedRoutes.flatMap fun routeName => (streamRouteIndices routes routeName).getD []

def buildStreamListenerRouteIndex : Table String (List ℕ) :=
  .ofEntries ((listeners.filter fun listener => attachedStreamRoutes routes listener ≠ []).map
    fun listener => (listener.name, attachedStreamRoutes routes listener))

def hashesOn (keyType : String) (policy : BackendPolicy) : Bool :=
  ((policy.loadBalancing.filter fun loadBalancing =>
    loadBalancing.policyType = "ConsistentHash").bind fun loadBalancing =>
      loadBalancing.consistentHash).any fun hash => hash.keyType == keyType

def buildRequestMaterializationHints (s : Snapshot) : RequestMaterializationHints :=
  let routeSessionHeaders :=
    (s.httpRoutes.any fun route => route.rules.any fun rule => rule.sessionPersistence.isSome)
      || s.grpcRoutes.any fun route => route.rules.any fun rule => rule.sessionPersistence.isSome
  let policySessionHeaders :=
    s.backendPolicies.values.any fun policy => policy.sessionPersistence.isSome
  { httpRouteHeaders := s.httpRoutes.any fun route => route.rules.any fun rule =>
      rule.matches.any fun matcher => !matcher.headers.isEmpty
    grpcRouteHeaders := s.grpcRoutes.any fun route => route.rules.any fun rule =>
      rule.matches.any fun matcher => !matcher.headers.isEmpty
    sessionHeaders := routeSessionHeaders || policySessionHeaders
    backendHashHeaders := s.backendPolicies.values.any (hashesOn "Header")
    sourceIp := s.backendPolicies.values.any (hashesOn "SourceIP") || !s.workloads.isEmpty }

/-! ## The rebuild -/

namespace Snapshot

variable (s : Snapshot)

def compileMatchers : Snapshot :=
  { s with
    httpRoutes := s.httpRoutes.map (HttpRoute.compileMatchers cr)
    grpcRoutes := s.grpcRoutes.map (GrpcRoute.compileMatchers cr) }

def rebuildListenerIndexes : Snapshot :=
  { s with
    listenerNameIndex := buildListenerNameIndex s.listeners
    httpListenerIndices := buildListenerIndices s.listeners .http
    grpcListenerIndices := buildListenerIndices s.listeners .grpc
    httpListenerPortIndex := buildListenerPortIndex s.listeners .http
    grpcListenerPortIndex := buildListenerPortIndex s.listeners .grpc
    serviceFrontendIndex := buildServiceFrontendIndex s.listeners
    serviceFrontendListenerPortIndex := buildServiceFrontendListenerPortIndex s.listeners
    serviceFrontendAttachmentIndex := buildServiceFrontendAttachmentIndex s.listeners }

def rebuildRuntimeIndexes : Snapshot :=
  let s := s.compileMatchers cr
  let s :=
    { s with
      backendNames := s.backends.map backendClusterName
      backendIndex := buildBackendIndex s.backends
      backendServiceIndex := .build s.backends
      workloadNamespaceIndex := buildWorkloadNamespaceIndex s.workloads }
  let s := s.rebuildListenerIndexes
  let s :=
    { s with
      httpRouteHostnameIndex := buildHostnameRouteIndex (s.httpRoutes.map HttpRoute.hostnames)
      grpcRouteHostnameIndex := buildHostnameRouteIndex (s.grpcRoutes.map GrpcRoute.hostnames)
      routeAttachmentListenerIndex := .fromListeners s.listeners }
  let s := { s with requestMaterialization := buildRequestMaterializationHints s }
  let s := { s with httpFastPath := s.buildHttpFastPathPlan }
  let s :=
    { s with streamListenerRouteIndex := buildStreamListenerRouteIndex s.listeners s.streamRoutes }
  { s with streamFastPath := s.buildStreamFastPathPlan, runtimeIndexesReady := true }

/-- **Every derived field is the one its builder makes from the configuration.** -/
structure Indexed : Prop where
  ready : s.runtimeIndexesReady = true
  compiled_http : ∀ route ∈ s.httpRoutes, route.compileMatchers cr = route
  compiled_grpc : ∀ route ∈ s.grpcRoutes, route.compileMatchers cr = route
  backendNames : s.backendNames = s.backends.map backendClusterName
  backendIndex : s.backendIndex = buildBackendIndex s.backends
  backendServiceIndex : s.backendServiceIndex = .build s.backends
  workloadNamespaceIndex : s.workloadNamespaceIndex = buildWorkloadNamespaceIndex s.workloads
  listenerNameIndex : s.listenerNameIndex = buildListenerNameIndex s.listeners
  httpListenerIndices : s.httpListenerIndices = buildListenerIndices s.listeners .http
  grpcListenerIndices : s.grpcListenerIndices = buildListenerIndices s.listeners .grpc
  httpListenerPortIndex : s.httpListenerPortIndex = buildListenerPortIndex s.listeners .http
  grpcListenerPortIndex : s.grpcListenerPortIndex = buildListenerPortIndex s.listeners .grpc
  serviceFrontendIndex : s.serviceFrontendIndex = buildServiceFrontendIndex s.listeners
  serviceFrontendListenerPortIndex :
    s.serviceFrontendListenerPortIndex = buildServiceFrontendListenerPortIndex s.listeners
  serviceFrontendAttachmentIndex :
    s.serviceFrontendAttachmentIndex = buildServiceFrontendAttachmentIndex s.listeners
  httpRouteHostnameIndex :
    s.httpRouteHostnameIndex = buildHostnameRouteIndex (s.httpRoutes.map HttpRoute.hostnames)
  grpcRouteHostnameIndex :
    s.grpcRouteHostnameIndex = buildHostnameRouteIndex (s.grpcRoutes.map GrpcRoute.hostnames)
  routeAttachmentListenerIndex : s.routeAttachmentListenerIndex = .fromListeners s.listeners
  requestMaterialization : s.requestMaterialization = buildRequestMaterializationHints s
  httpFastPath : s.httpFastPath = s.buildHttpFastPathPlan
  streamListenerRouteIndex :
    s.streamListenerRouteIndex = buildStreamListenerRouteIndex s.listeners s.streamRoutes
  streamFastPath : s.streamFastPath = s.buildStreamFastPathPlan

end Snapshot

/-! ## Compiling twice is compiling once -/

theorem normalizeMatchName_eq (name : String) : normalizeMatchName name = asciiLower name :=
  lookupMatchName_eq name

theorem HeaderMatch.compile_idem (item : HeaderMatch) :
    (item.compileRuntimeState cr).compileRuntimeState cr = item.compileRuntimeState cr := by
  simp [HeaderMatch.compileRuntimeState, normalizeMatchName_eq]

theorem QueryMatch.compile_idem (item : QueryMatch) :
    (item.compileRuntimeState cr).compileRuntimeState cr = item.compileRuntimeState cr := by
  simp [QueryMatch.compileRuntimeState, normalizeMatchName_eq]

theorem HttpMatch.compile_idem (matcher : HttpMatch) :
    (matcher.compileRuntimeState cr).compileRuntimeState cr = matcher.compileRuntimeState cr := by
  simp [HttpMatch.compileRuntimeState, HeaderMatch.compile_idem, QueryMatch.compile_idem]

theorem GrpcMatch.compile_idem (matcher : GrpcMatch) :
    (matcher.compileRuntimeState cr).compileRuntimeState cr = matcher.compileRuntimeState cr := by
  simp [GrpcMatch.compileRuntimeState, HeaderMatch.compile_idem]

theorem HttpRoute.compileMatchers_idem (route : HttpRoute) :
    (route.compileMatchers cr).compileMatchers cr = route.compileMatchers cr := by
  simp [HttpRoute.compileMatchers, HttpRule.compileMatchers, HttpMatch.compile_idem]

theorem GrpcRoute.compileMatchers_idem (route : GrpcRoute) :
    (route.compileMatchers cr).compileMatchers cr = route.compileMatchers cr := by
  simp [GrpcRoute.compileMatchers, GrpcRule.compileMatchers, GrpcMatch.compile_idem]

theorem indexed_rebuild (s : Snapshot) : (s.rebuildRuntimeIndexes cr).Indexed cr where
  ready := rfl
  compiled_http := by
    intro route hroute
    obtain ⟨route, -, rfl⟩ := List.mem_map.mp hroute
    exact route.compileMatchers_idem cr
  compiled_grpc := by
    intro route hroute
    obtain ⟨route, -, rfl⟩ := List.mem_map.mp hroute
    exact route.compileMatchers_idem cr
  backendNames := rfl
  backendIndex := rfl
  backendServiceIndex := rfl
  workloadNamespaceIndex := rfl
  listenerNameIndex := rfl
  httpListenerIndices := rfl
  grpcListenerIndices := rfl
  httpListenerPortIndex := rfl
  grpcListenerPortIndex := rfl
  serviceFrontendIndex := rfl
  serviceFrontendListenerPortIndex := rfl
  serviceFrontendAttachmentIndex := rfl
  httpRouteHostnameIndex := rfl
  grpcRouteHostnameIndex := rfl
  routeAttachmentListenerIndex := rfl
  requestMaterialization := rfl
  httpFastPath := rfl
  streamListenerRouteIndex := rfl
  streamFastPath := rfl

variable {cr} {s t : Snapshot}

end

end NantianGateway
