import NantianGateway.Ir.Rebuild

/-!
# Selecting a backend for a request

`select_backend_with_session_resolver` tries a gRPC route for a gRPC request, then an HTTP route,
then the default backend of a mesh listener, if no route of a mesh listener could have been meant,
then, where there are no routes at all, the first healthy backend.
-/

namespace NantianGateway

open Text

/-! ## Requests to a service of the mesh -/

namespace Snapshot

variable (s : Snapshot)

def backendNamespaceForService (name : String) (port : UInt32) : Option String :=
  if name = "" then none
  else if s.runtimeIndexesReady then s.backendServiceIndex.uniqueNamespace name port
  else
    uniqueNamespace (s.backends.filterMap fun cluster =>
      (backendClusterServiceKey cluster.name).bind fun key =>
        if key = (name, port) then some cluster.namespace else none)

variable (request : RequestMeta)

/-- The namespace of the workload a request comes from. -/
def sourceNamespace : Option String :=
  request.sourceIp.bind fun sourceIp =>
    ((if s.runtimeIndexesReady then s.workloadNamespaceIndex sourceIp else none).or
      ((s.workloads.find? fun workload => workload.ip = sourceIp).map fun workload =>
        workload.namespace))

/-- The service that the host and the port of a request address: `name`, `name.namespace` or
`name.namespace.svc` with anything behind. -/
def requestServiceFrontendRef : Option ServiceFrontendRef :=
  if request.port = 0 then none
  else
    request.host.bind fun host =>
      match (((normalizeHostRef host).toList.splitOn '.').filter (· ≠ [])).map String.ofList with
      | [] => none
      | [name] =>
        ((s.sourceNamespace request).or (s.backendNamespaceForService name request.port)).map
          fun «namespace» => ⟨«namespace», name, request.port⟩
      | [name, «namespace»] => some ⟨«namespace», name, request.port⟩
      | name :: «namespace» :: zone :: _ =>
        if zone = "svc" then some ⟨«namespace», name, request.port⟩ else none

def requestTargetsMeshServiceFrontend : Bool :=
  (s.requestServiceFrontendRef request).any fun frontend =>
    (s.backendClusterForService frontend.namespace frontend.name frontend.port).isSome

/-- A listener of the mesh fits the request. -/
def matchesServiceFrontendListener (kind : ListenerKind) : Bool :=
  (s.matchedListeners request.host request.port kind).listeners.any fun listenerMatch =>
    (s.serviceFrontendForListener listenerMatch.listener).isSome

/-- A route is reached through a listener of the mesh; `routeMeta` reads its namespace, name and
parents. -/
def hasServiceFrontendRouteCandidate {ρ : Type} (request : RequestMeta) (kind : ListenerKind)
    (routes : List ρ) (index : HostnameRouteIndex)
    (routeMeta : ρ → String × String × List ParentRef) : Bool :=
  let listeners := s.matchedListeners request.host request.port kind
  listeners.enforceAttachments && listeners.listeners.any fun listenerMatch =>
    (s.serviceFrontendForListener listenerMatch.listener).isSome &&
      (hostnameRouteCandidates routes index request.host s.runtimeIndexesReady).any fun entry =>
        let (routeNamespace, routeName, parentRefs) := routeMeta entry.1
        ((s.routeListenerMatch listeners routeNamespace routeName).any fun matchedListener =>
          matchedListener.listenerIndex == listenerMatch.listenerIndex) &&
        s.routeAcceptsServiceFrontend parentRefs routeNamespace listenerMatch.listener

def hasServiceFrontendHttpRouteCandidate : Bool :=
  s.hasServiceFrontendRouteCandidate request .http s.httpRoutes s.httpRouteHostnameIndex
    fun route => (route.namespace, route.name, route.parentRefs)

def hasServiceFrontendGrpcRouteCandidate : Bool :=
  s.hasServiceFrontendRouteCandidate request .grpc s.grpcRoutes s.grpcRouteHostnameIndex
    fun route => (route.namespace, route.name, route.parentRefs)

def hasL7Routes : Bool := !s.httpRoutes.isEmpty || !s.grpcRoutes.isEmpty

/-- The first endpoint without a failure, of the first cluster that has one. -/
def selectFirstHealthyBackend (now : Instant) : Option SelectedBackend :=
  s.backends.findSome? fun cluster =>
    (cluster.endpoints.find? fun endpoint =>
      s.endpointAvailabilityAt (backendClusterName cluster) endpoint now = .primary).map
        fun endpoint =>
          { routeKind := .http
            routeName := ""
            routeNamespace := ""
            ruleIndex := none
            routeAnnotations := .empty
            listenerName := ""
            listenerProtocol := ""
            backend := endpoint
            backendName := backendClusterName cluster
            filters := []
            matchedHttpPath := none
            timeouts := none
            retry := none
            sessionPersistence := none
            backendTls := none }

end Snapshot

/-! ## The selection -/

def SelectedHttpRoute.intoBackend (route : SelectedHttpRoute) : Option SelectedBackend :=
  route.backend.bind fun backend =>
    route.backendName.map fun backendName =>
      { routeKind := .http
        routeName := route.routeName
        routeNamespace := route.routeNamespace
        ruleIndex := route.ruleIndex
        routeAnnotations := route.routeAnnotations
        listenerName := route.listenerName
        listenerProtocol := route.listenerProtocol
        backend := backend
        backendName := backendName
        filters := route.filters
        matchedHttpPath := some route.matchedHttpPath
        timeouts := route.timeouts
        retry := route.retry
        sessionPersistence := route.sessionPersistence
        backendTls := route.backendTls }

section

variable (cr : Crates) (s : Snapshot) (request : RequestMeta)
  (sessionResolver : SessionPersistence → Option PersistentSessionTarget) (now : Instant)

def selectHttpBackend (st : SelectionState) : Option SelectedBackend × SelectionState :=
  let (route, st) := selectHttpRoute cr s request sessionResolver now st
  (route.bind SelectedHttpRoute.intoBackend, st)

def selectBackend (st : SelectionState) : Option SelectedBackend × SelectionState :=
  let targetsMeshServiceFrontend := s.requestTargetsMeshServiceFrontend request ||
    s.matchesServiceFrontendListener request (if isGrpcRequest request then .grpc else .http)
  -- a request that is not a gRPC one draws no ticket here
  match selectGrpcBackend cr s request sessionResolver now st with
  | (some selected, st) => (some selected, st)
  | (none, st) =>
    let allowMeshServiceFallback :=
      if isGrpcRequest request then !s.hasServiceFrontendGrpcRouteCandidate request
      else !s.hasServiceFrontendHttpRouteCandidate request
    match selectHttpBackend cr s request sessionResolver now st with
    | (some selected, st) => (some selected, st)
    | (none, st) =>
      match (if allowMeshServiceFallback then s.selectListenerDefaultBackend request now st
        else (none, st)) with
      | (some selected, st) => (some selected, st)
      | (none, st) =>
        (if !targetsMeshServiceFrontend && !s.hasL7Routes then
          s.selectFirstHealthyBackend now else none, st)

variable {cr s request sessionResolver now}

theorem selectGrpcBackend_of_not_grpc (h : isGrpcRequest request = false) (st : SelectionState) :
    selectGrpcBackend cr s request sessionResolver now st = (none, st) := by
  rw [selectGrpcBackend, if_pos h]

/-- **Where the backend of a request without gRPC comes from**: its HTTP route, the default of
a mesh listener, or a snapshot without routes. -/
theorem selectBackend_cases (h : isGrpcRequest request = false) {st : SelectionState}
    {selected : SelectedBackend}
    (hselected : (selectBackend cr s request sessionResolver now st).1 = some selected) :
    (∃ route, (selectHttpRoute cr s request sessionResolver now st).1 = some route ∧
        route.intoBackend = some selected) ∨
      (s.hasServiceFrontendHttpRouteCandidate request = false ∧
        ∃ st', (s.selectListenerDefaultBackend request now st').1 = some selected) ∨
      s.hasL7Routes = false := by
  rw [selectBackend, selectGrpcBackend_of_not_grpc h] at hselected
  simp only [h, Bool.false_eq_true, if_false] at hselected
  split at hselected
  next selected' st₁ hhttp =>
    obtain rfl := Option.some.inj hselected
    rw [selectHttpBackend] at hhttp
    exact .inl (Option.bind_eq_some_iff.mp (congrArg Prod.fst hhttp))
  next st₁ hhttp =>
    split at hselected
    next selected' st₂ hdefault =>
      obtain rfl := Option.some.inj hselected
      split at hdefault
      next hallow => exact .inr (.inl ⟨by simpa using hallow, st₁, congrArg Prod.fst hdefault⟩)
      next => cases hdefault
    next st₂ hdefault =>
      refine .inr (.inr ?_)
      split at hselected
      next hnone => simpa using ((Bool.and_eq_true _ _).mp hnone).2
      next => cases hselected

end

end NantianGateway
