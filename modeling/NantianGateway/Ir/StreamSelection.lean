import NantianGateway.Ir.HttpSelection

/-!
# Streams, and the default backends of the mesh

A connection on a listener is matched against the stream routes attached to it, by port, server name
and TLS mode.  A candidate is made only when its score beats the incumbent, so the tickets depend on
the order in which the routes are visited.
-/

namespace NantianGateway

open Text

/-! ## Kinds -/

def routeKindForListener (protocol : String) : Option RouteKind :=
  match protocol with
  | "LISTENER_PROTOCOL_TCP" | "TCP" => some .tcp
  | "LISTENER_PROTOCOL_UDP" | "UDP" => some .udp
  | "LISTENER_PROTOCOL_TLS" | "LISTENER_PROTOCOL_TLS_PASSTHROUGH" | "TLS" | "TLS_PASSTHROUGH" =>
    some .tls
  | _ => none

def routeKindFromName (kind : String) : Option RouteKind :=
  match kind with
  | "ROUTE_KIND_TCP" | "TCP" => some .tcp
  | "ROUTE_KIND_UDP" | "UDP" => some .udp
  | "ROUTE_KIND_TLS" | "TLS" => some .tls
  | "ROUTE_KIND_HTTP" | "HTTP" => some .http
  | "ROUTE_KIND_GRPC" | "GRPC" => some .grpc
  | _ => none

/-- The kinds the plan knows, which are not quite those of `routeKindFromName`. -/
def streamRouteKind (route : StreamRoute) : Option RouteKind :=
  match route.kind with
  | "ROUTE_KIND_TCP" | "TCPRoute" | "TCP" => some .tcp
  | "ROUTE_KIND_UDP" | "UDPRoute" | "UDP" => some .udp
  | "ROUTE_KIND_TLS" | "TLSRoute" | "TLS" => some .tls
  | _ => none

def streamRouteName (route : StreamRoute) : String := route.namespace ++ "/" ++ route.name

def listenerAttachesRoute (listener : Listener) (route : StreamRoute) : Bool :=
  listener.attachedRoutes.any fun item => item == streamRouteName route

/-! ## The scan -/

/-- A stream rule that accepts the connection, with its score. -/
structure StreamContext where
  route : StreamRoute
  rule : StreamRule
  ruleIndex : ℕ
  score : StreamMatchScore

/-- A rule of a stream route, if it accepts the connection. -/
def streamContext (listener : Listener) (serverName : Option String)
    (tlsMode : Option TlsRouteMode) (route : StreamRoute) (entry : StreamRule × ℕ) :
    Option StreamContext :=
  (bestStreamRuleMatchWithTlsMode entry.1.matches listener.port serverName tlsMode).map
    fun score => ⟨route, entry.1, entry.2, score⟩

def streamContexts (listener : Listener) (serverName : Option String)
    (tlsMode : Option TlsRouteMode) (route : StreamRoute) : List StreamContext :=
  route.rules.zipIdx.filterMap (streamContext listener serverName tlsMode route)

def streamSelection (kind : RouteKind) (listener : Listener) (route : StreamRoute) (ruleIndex : ℕ)
    (backend : BackendEndpoint) (backendName : String) : SelectedBackend :=
  { routeKind := kind
    routeName := route.name
    routeNamespace := route.namespace
    ruleIndex := some ruleIndex
    routeAnnotations := route.annotations
    listenerName := listener.name
    listenerProtocol := listener.protocol
    backend := backend
    backendName := backendName
    filters := []
    matchedHttpPath := none
    timeouts := none
    retry := none
    sessionPersistence := none
    backendTls := none }

def defaultSelection (kind : RouteKind) (listener : Listener) (frontend : ServiceFrontendRef)
    (backendTls : Option BackendTlsConfig) (backend : BackendEndpoint × String) : SelectedBackend :=
  { routeKind := kind
    routeName := ""
    routeNamespace := frontend.namespace
    ruleIndex := none
    routeAnnotations := .empty
    listenerName := listener.name
    listenerProtocol := listener.protocol
    backend := backend.1
    backendName := backend.2
    filters := []
    matchedHttpPath := none
    timeouts := none
    retry := none
    sessionPersistence := none
    backendTls := backendTls }

namespace Snapshot

variable (s : Snapshot)

def streamRouteCandidates (listener : Listener) (expectedKind : RouteKind) : List StreamRoute :=
  s.streamRoutes.filter fun route =>
    routeKindFromName route.kind == some expectedKind && listenerAttachesRoute listener route

def defaultStreamBackend (listener : Listener) (now : Instant) (st : SelectionState) :
    Option SelectedBackend × SelectionState :=
  match s.serviceFrontendForListener listener with
  | none => (none, st)
  | some frontend =>
    match routeKindForListener listener.protocol with
    | none => (none, st)
    | some routeKind =>
      let (backend, st) := s.defaultServiceBackend frontend.namespace frontend.name
        frontend.port now st
      (backend.map (defaultSelection routeKind listener frontend none), st)

end Snapshot

/-! ## The plan -/

structure StreamFastCandidate where
  routeIndex : ℕ
  ruleIndex : ℕ
  selected : CompiledHttpFastBackendSelection
  score : StreamMatchScore

/-- A rule with at least one reference that can be compiled. -/
def Snapshot.compileStreamFastRule (s : Snapshot) (entry : StreamRule × ℕ) :
    Option CompiledStreamFastRule :=
  let backendRefs := entry.1.backendRefs.filterMap s.compileHttpFastBackendRef
  if backendRefs.isEmpty then none else some ⟨entry.2, backendRefs⟩

def Snapshot.compileStreamFastRoute (s : Snapshot) (route : StreamRoute) :
    Option CompiledStreamFastRoute :=
  let rules := route.rules.zipIdx.filterMap s.compileStreamFastRule
  if rules.isEmpty then none else some ⟨rules⟩

def Snapshot.buildStreamFastPathPlan (s : Snapshot) : StreamFastPathPlan :=
  ⟨s.streamRoutes.map s.compileStreamFastRoute⟩

namespace StreamFastPathPlan

variable (plan : StreamFastPathPlan) (s : Snapshot) (listener : Listener)
  (expectedKind : RouteKind) (serverName : Option String) (tlsMode : Option TlsRouteMode)
  (now : Instant)

/-- One compiled rule: skip it, replace the incumbent, or give up. -/
def ruleStep (route : StreamRoute) (routeIndex : ℕ)
    (acc : Option (Option StreamFastCandidate) × SelectionState)
    (compiled : CompiledStreamFastRule) :
    Option (Option StreamFastCandidate) × SelectionState :=
  match acc.1 with
  | none => acc
  | some best =>
    match route.rules[compiled.ruleIndex]? with
    | none => (none, acc.2)
    | some rule =>
      match bestStreamRuleMatchWithTlsMode rule.matches listener.port serverName tlsMode with
      | none => acc
      | some score =>
        if best.any fun candidate => score ≤ candidate.score then acc
        else
          let (selected, st) :=
            s.selectCompiledHttpFastBackend compiled.backendRefs now acc.2
          match selected with
          | none => (some best, st)
          | some selected =>
            (some (some ⟨routeIndex, compiled.ruleIndex, selected, score⟩), st)

def routeStep (acc : Option (Option StreamFastCandidate) × SelectionState) (routeIndex : ℕ) :
    Option (Option StreamFastCandidate) × SelectionState :=
  match acc.1 with
  | none => acc
  | some _ =>
    match s.streamRoutes[routeIndex]? with
    | none => (none, acc.2)
    | some route =>
      if streamRouteKind route ≠ some expectedKind then acc
      else
        match plan.routes[routeIndex]?.join with
        | none => acc
        | some compiled =>
          compiled.rules.foldl
            (ruleStep s listener serverName tlsMode now route routeIndex) acc

def select (st : SelectionState) : Option SelectedBackend × SelectionState :=
  match s.streamListenerRouteIndex listener.name with
  | none => (none, st)
  | some routeIndices =>
    let (best, st) := routeIndices.foldl
      (plan.routeStep s listener expectedKind serverName tlsMode now) (some none, st)
    (best.join.bind fun candidate =>
      s.streamRoutes[candidate.routeIndex]?.map fun route =>
        streamSelection expectedKind listener route candidate.ruleIndex
          candidate.selected.endpoint candidate.selected.backendName, st)

end StreamFastPathPlan

/-! ## Stream selection -/

namespace Snapshot

variable (s : Snapshot)

/-- Use the default backend when nothing was selected and it is allowed. -/
def orDefaultStreamBackend (listener : Listener) (allowDefaultBackend : Bool) (now : Instant)
    (result : Option SelectedBackend × SelectionState) : Option SelectedBackend × SelectionState :=
  match result.1 with
  | some selected => (some selected, result.2)
  | none =>
    if allowDefaultBackend then s.defaultStreamBackend listener now result.2 else (none, result.2)

def selectStreamBackendForListener (listener : Listener) (expectedKind : RouteKind)
    (serverName : Option String) (tlsMode : Option TlsRouteMode) (allowDefaultBackend : Bool)
    (now : Instant) (st : SelectionState) : Option SelectedBackend × SelectionState :=
  if routeKindForListener listener.protocol ≠ some expectedKind then (none, st)
  else if s.runtimeIndexesReady then
    s.orDefaultStreamBackend listener allowDefaultBackend now
      (s.streamFastPath.select s listener expectedKind serverName tlsMode now st)
  else
    let (best, st) :=
      ((s.streamRouteCandidates listener expectedKind).flatMap
        (streamContexts listener serverName tlsMode)).foldl
          (Best.lazyStep StreamContext.score fun context st =>
            s.resolveBackendRefs context.rule.backendRefs now st) (none, st)
    s.orDefaultStreamBackend listener allowDefaultBackend now (best.map fun winner =>
        streamSelection expectedKind listener winner.1.route winner.1.ruleIndex winner.2.1
          winner.2.2, st)

def selectStreamBackend (listenerName : String) (serverName : Option String) (now : Instant)
    (st : SelectionState) : Option SelectedBackend × SelectionState :=
  match s.listenerByName listenerName with
  | none => (none, st)
  | some listener =>
    match streamListenerServerNameScore listener serverName,
      routeKindForListener listener.protocol with
    | some _, some expectedKind =>
      s.selectStreamBackendForListener listener expectedKind serverName none true now st
    | _, _ => (none, st)

def selectTlsStreamBackend (listenerName : String) (serverName : Option String)
    (mode : TlsRouteMode) (now : Instant) (st : SelectionState) :
    Option SelectedBackend × SelectionState :=
  match s.listenerByName listenerName with
  | none => (none, st)
  | some listener =>
    match streamListenerServerNameScore listener serverName,
      routeKindForListener listener.protocol with
    | some _, some .tls =>
      s.selectStreamBackendForListener listener .tls serverName (some mode) false now st
    | _, _ => (none, st)

/-! ## The default backend of a mesh listener -/

def serviceFrontendHasAttachedRoutes (frontend : ServiceFrontendRef) : Bool :=
  if s.runtimeIndexesReady then
    (s.serviceFrontendAttachmentIndex frontend.namespace).any fun names => frontend.name ∈ names
  else
    s.listeners.any fun listener =>
      !listener.attachedRoutes.isEmpty
        && (s.serviceFrontendForListener listener).any fun candidate =>
          candidate.namespace == frontend.namespace && candidate.name == frontend.name

/-- A listener without attachments of its own, in front of a service without any. -/
def hasNoAttachedRoutes (listener : Listener) (frontend : ServiceFrontendRef) : Bool :=
  listener.attachedRoutes.isEmpty && !s.serviceFrontendHasAttachedRoutes frontend

def defaultRouteKind (listener : Listener) : RouteKind :=
  if listener.protocol = "LISTENER_PROTOCOL_GRPC" ∨ listener.protocol = "GRPC" then .grpc
  else .http

def listenerDefaultBackend (listener : Listener) (frontend : ServiceFrontendRef) (now : Instant)
    (st : SelectionState) : Option SelectedBackend × SelectionState :=
  let (backend, st) := s.defaultServiceBackend frontend.namespace frontend.name frontend.port now st
  (backend.map
    (defaultSelection (defaultRouteKind listener) listener frontend listener.backendTls), st)

/-- The indexed path passes over the frontends without attached routes. -/
def defaultBackendFromIndices (now : Instant) :
    List ℕ → SelectionState → Option SelectedBackend × SelectionState
  | [], st => (none, st)
  | index :: indices, st =>
    match s.listeners[index]? with
    | none => (none, st)
    | some listener =>
      match s.serviceFrontendForListener listener with
      | none => (none, st)
      | some frontend =>
        if s.hasNoAttachedRoutes listener frontend then
          defaultBackendFromIndices now indices st
        else s.listenerDefaultBackend listener frontend now st

def selectListenerDefaultBackendFromIndices (request : RequestMeta) (now : Instant)
    (st : SelectionState) : Option SelectedBackend × SelectionState :=
  match s.serviceFrontendListenerPortIndex request.port with
  | none => (none, st)
  | some indices => s.defaultBackendFromIndices now indices st

def selectListenerDefaultBackendSlowPath (request : RequestMeta) (now : Instant)
    (st : SelectionState) : Option SelectedBackend × SelectionState :=
  match s.listeners.findSome? fun listener =>
    if listener.port = request.port then
      (s.serviceFrontendForListener listener).map fun frontend => (listener, frontend)
    else none with
  | none => (none, st)
  | some (listener, frontend) =>
    if s.hasNoAttachedRoutes listener frontend then (none, st)
    else s.listenerDefaultBackend listener frontend now st

def selectListenerDefaultBackend (request : RequestMeta) (now : Instant) (st : SelectionState) :
    Option SelectedBackend × SelectionState :=
  if s.runtimeIndexesReady then
    match s.selectListenerDefaultBackendFromIndices request now st with
    | (some selected, st) => (some selected, st)
    | (none, st) => s.selectListenerDefaultBackendSlowPath request now st
  else s.selectListenerDefaultBackendSlowPath request now st

end Snapshot

end NantianGateway
