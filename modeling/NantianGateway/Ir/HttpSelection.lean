import NantianGateway.Ir.BackendResolution

/-!
# Selecting an HTTP or gRPC route

Among the rules that accept the request, of the routes attached to the listeners that fit the host
best, the one with the greatest score.  Each rule makes a candidate, resolving its backends and
drawing tickets *before* its score is looked at, and `Best.scanStep` keeps it if it wins.
-/

namespace NantianGateway

open Text

/-! ## Listeners -/

inductive ListenerKind where
  | http
  | grpc
  deriving DecidableEq

structure MatchedListener where
  listenerIndex : ℕ
  listener : Listener
  hostScore : HostnameScore
  deriving DecidableEq

structure CandidateListeners where
  listeners : List MatchedListener
  enforceAttachments : Bool

def isHttpListener (protocol : String) : Bool :=
  protocol ∈ ["LISTENER_PROTOCOL_HTTP", "LISTENER_PROTOCOL_HTTPS", "LISTENER_PROTOCOL_HTTP3",
    "HTTP", "HTTPS", "HTTP3"]

def isGrpcListener (protocol : String) : Bool :=
  protocol ∈ ["LISTENER_PROTOCOL_GRPC", "LISTENER_PROTOCOL_HTTP", "LISTENER_PROTOCOL_HTTPS",
    "GRPC", "HTTP", "HTTPS"]

def matchesListenerKind (listener : Listener) (kind : ListenerKind) : Bool :=
  match kind with
  | .http => isHttpListener listener.protocol
  | .grpc => isGrpcListener listener.protocol

namespace Snapshot

variable (s : Snapshot)

def listenerIndices (requestPort : UInt32) (kind : ListenerKind) : List ℕ :=
  match kind with
  | .http =>
    if requestPort = 0 then s.httpListenerIndices
    else (s.httpListenerPortIndex requestPort).getD []
  | .grpc =>
    if requestPort = 0 then s.grpcListenerIndices
    else (s.grpcListenerPortIndex requestPort).getD []

/-- The listeners of a kind on a port, with their indices; port zero stands for any. -/
def visitCandidateListeners (requestPort : UInt32) (kind : ListenerKind) : List (Listener × ℕ) :=
  if s.runtimeIndexesReady = false then
    s.listeners.zipIdx.filter fun entry =>
      matchesListenerKind entry.1 kind && (requestPort == 0 || entry.1.port == requestPort)
  else
    (s.listenerIndices requestPort kind).filterMap fun index =>
      s.listeners[index]?.map fun listener => (listener, index)

variable (requestHost : Option String)

/-- The scored listeners among those visited. -/
def scoredListeners (visited : List (Listener × ℕ)) : List MatchedListener :=
  visited.filterMap fun entry =>
    (listenerHostnameScore entry.1 requestHost).map fun hostScore =>
      ⟨entry.2, entry.1, hostScore⟩

/-- The listeners with the best score for the host.  Attachments are enforced as soon as
there is any listener on the port, whatever its hostnames. -/
def matchedListeners (requestPort : UInt32) (kind : ListenerKind) : CandidateListeners where
  listeners := ((scoredListeners requestHost (s.visitCandidateListeners requestPort kind)).foldl
    (Best.keepTies MatchedListener.hostScore) (none, [])).2
  enforceAttachments := s.visitCandidateListeners requestPort kind ≠ []

/-- The listener among those matched that a route is attached to; of several, the last. -/
def routeListenerMatch (listeners : CandidateListeners) (routeNamespace routeName : String) :
    Option MatchedListener :=
  if listeners.enforceAttachments = false then none
  else if s.runtimeIndexesReady then
    Best.maxBy MatchedListener.hostScore (listeners.listeners.filter fun item =>
      s.routeAttachmentListenerIndex.containsListener routeNamespace routeName item.listenerIndex)
  else
    Best.maxBy MatchedListener.hostScore (listeners.listeners.filter fun item =>
      item.listener.attachedRoutes.any fun attached =>
        routeAttachmentMatches attached routeNamespace routeName)

/-! ## Routes -/

/-- What a route has to pass before its rules are looked at: attached to a matched
listener, accepted by its frontend, and with hostnames that score the host. -/
def routeGate (listeners : CandidateListeners) (requestHost : Option String)
    (routeNamespace routeName : String) (hostnames : List String) (parentRefs : List ParentRef) :
    Option (Option MatchedListener × HostnameScore) :=
  let listenerMatch := s.routeListenerMatch listeners routeNamespace routeName
  if listeners.enforceAttachments && listenerMatch.isNone then none
  else if listenerMatch.any fun item =>
      !s.routeAcceptsServiceFrontend parentRefs routeNamespace item.listener then none
  else (bestHostnameScore hostnames requestHost).map fun routeHost => (listenerMatch, routeHost)

end Snapshot

/-- The routes a host can match, with their indices: all of them, or those the index
lists. -/
def hostnameRouteCandidates {ρ : Type} (routes : List ρ) (index : HostnameRouteIndex)
    (requestHost : Option String) (runtimeIndexesReady : Bool) : List (ρ × ℕ) :=
  (if runtimeIndexesReady = false then List.range routes.length
    else index.candidateIndices requestHost).filterMap fun routeIndex =>
      routes[routeIndex]?.map fun route => (route, routeIndex)

/-- A rule in the loop: its route, the listener the route was matched through, and the
score of the route's hostnames. -/
structure RuleContext (ρ δ : Type) where
  route : ρ
  routeIndex : ℕ
  listenerMatch : Option MatchedListener
  routeHost : HostnameScore
  rule : δ
  ruleIndex : ℕ

def RuleContext.listenerHost {ρ δ : Type} (context : RuleContext ρ δ) : HostnameScore :=
  (context.listenerMatch.map fun item => item.hostScore).getD {}

def routeContexts {ρ δ : Type} (gate : ρ → Option (Option MatchedListener × HostnameScore))
    (rules : ρ → List δ) (entry : ρ × ℕ) : List (RuleContext ρ δ) :=
  match gate entry.1 with
  | none => []
  | some (listenerMatch, routeHost) =>
    (rules entry.1).zipIdx.map fun rule =>
      ⟨entry.1, entry.2, listenerMatch, routeHost, rule.1, rule.2⟩

namespace Snapshot

variable (s : Snapshot) (request : RequestMeta)

/-- The gate of an HTTP route for a request. -/
def httpRouteGate (route : HttpRoute) : Option (Option MatchedListener × HostnameScore) :=
  s.routeGate (s.matchedListeners request.host request.port .http) request.host route.namespace
    route.name route.hostnames route.parentRefs

def httpRuleContexts : List (RuleContext HttpRoute HttpRule) :=
  (hostnameRouteCandidates s.httpRoutes s.httpRouteHostnameIndex request.host
    s.runtimeIndexesReady).flatMap (routeContexts (s.httpRouteGate request) HttpRoute.rules)

def grpcRouteGate (route : GrpcRoute) : Option (Option MatchedListener × HostnameScore) :=
  s.routeGate (s.matchedListeners request.host request.port .grpc) request.host route.namespace
    route.name route.hostnames route.parentRefs

def grpcRuleContexts : List (RuleContext GrpcRoute GrpcRule) :=
  (hostnameRouteCandidates s.grpcRoutes s.grpcRouteHostnameIndex request.host
    s.runtimeIndexesReady).flatMap (routeContexts (s.grpcRouteGate request) GrpcRoute.rules)

end Snapshot

/-! ## HTTP -/

structure HttpCandidate where
  context : RuleContext HttpRoute HttpRule
  matchedHttpPath : MatchedHttpPath
  resolution : HttpBackendResolution
  score : HttpCandidateScore

/-- A resolution that lets a rule be chosen: a backend, an error to answer with, or a
filter that needs no backend. -/
def admissibleResolution (rule : HttpRule) (resolution : HttpBackendResolution) : Bool :=
  resolution.selected.isSome || resolution.error.isSome || hasNonBackendHttpFilter rule.filters

section Http

variable (cr : Crates) (s : Snapshot) (request : RequestMeta)
  (sessionResolver : SessionPersistence → Option PersistentSessionTarget) (now : Instant)

/-- The candidate of a rule, if the rule accepts the request and resolves to something. -/
def httpRuleCandidate (context : RuleContext HttpRoute HttpRule) (st : SelectionState) :
    Option HttpCandidate × SelectionState :=
  match bestHttpRuleMatch cr context.rule request with
  | none => (none, st)
  | some (matchedHttpPath, ruleScore) =>
    let (resolution, st) := s.resolveHttpBackendRefsWithSession context.rule.backendRefs
      context.rule.sessionPersistence request sessionResolver now st
    if admissibleResolution context.rule resolution then
      (some
        { context := context
          matchedHttpPath := matchedHttpPath
          resolution := resolution
          score := ⟨context.listenerHost, context.routeHost, ruleScore⟩ }, st)
    else (none, st)

def HttpCandidate.toSelected (candidate : HttpCandidate) : SelectedHttpRoute :=
  let rule := candidate.context.rule
  let selected := candidate.resolution.selected
  let backendName := selected.map fun item => item.backendName
  { routeName := candidate.context.route.name
    routeNamespace := candidate.context.route.namespace
    ruleIndex := some candidate.context.ruleIndex
    routeAnnotations := candidate.context.route.annotations
    listenerName := (candidate.context.listenerMatch.map fun item => item.listener.name).getD ""
    listenerProtocol :=
      (candidate.context.listenerMatch.map fun item => item.listener.protocol).getD ""
    filters := rule.filters ++ (selected.map fun item => item.filters).getD []
    matchedHttpPath := candidate.matchedHttpPath
    backend := selected.map fun item => item.endpoint
    backendName := backendName
    backendError := candidate.resolution.error
    timeouts := rule.timeouts
    retry := rule.retry
    sessionPersistence :=
      rule.sessionPersistence.or (selected.bind fun item => item.sessionPersistence)
    backendTls := candidate.context.listenerMatch.bind fun item => item.listener.backendTls
    securityPolicy := backendName.bind fun name =>
      (s.backendIndex name).bind fun index =>
        s.backends[index]?.bind fun backend => backend.securityPolicy }

def selectHttpRoute (st : SelectionState) : Option SelectedHttpRoute × SelectionState :=
  let listeners := s.matchedListeners request.host request.port .http
  if listeners.enforceAttachments ∧ listeners.listeners = [] then (none, st)
  else
    let (best, st) := (s.httpRuleContexts request).foldl
      (Best.scanStep (httpRuleCandidate cr s request sessionResolver now) HttpCandidate.score)
      (none, st)
    (best.map fun candidate => candidate.toSelected s, st)

end Http

/-! ## gRPC -/

structure GrpcCandidate where
  context : RuleContext GrpcRoute GrpcRule
  selectedBackend : ResolvedHttpBackend
  score : GrpcCandidateScore

section Grpc

variable (cr : Crates) (s : Snapshot) (request : RequestMeta)
  (sessionResolver : SessionPersistence → Option PersistentSessionTarget) (now : Instant)

def grpcRuleCandidate (context : RuleContext GrpcRoute GrpcRule) (st : SelectionState) :
    Option GrpcCandidate × SelectionState :=
  match bestGrpcRuleMatch cr context.rule request (parseGrpcPath request.path) with
  | none => (none, st)
  | some ruleScore =>
    let (resolution, st) := s.resolveHttpBackendRefsWithSession context.rule.backendRefs
      context.rule.sessionPersistence request sessionResolver now st
    (resolution.selected.map fun selectedBackend =>
      { context := context
        selectedBackend := selectedBackend
        score := ⟨context.listenerHost, context.routeHost, ruleScore⟩ }, st)

def GrpcCandidate.toSelected (candidate : GrpcCandidate) : SelectedBackend :=
  { routeKind := .grpc
    routeName := candidate.context.route.name
    routeNamespace := candidate.context.route.namespace
    ruleIndex := some candidate.context.ruleIndex
    routeAnnotations := candidate.context.route.annotations
    listenerName := (candidate.context.listenerMatch.map fun item => item.listener.name).getD ""
    listenerProtocol :=
      (candidate.context.listenerMatch.map fun item => item.listener.protocol).getD ""
    backend := candidate.selectedBackend.endpoint
    backendName := candidate.selectedBackend.backendName
    filters := candidate.context.rule.filters ++ candidate.selectedBackend.filters
    matchedHttpPath := none
    timeouts := none
    retry := none
    sessionPersistence :=
      candidate.context.rule.sessionPersistence.or candidate.selectedBackend.sessionPersistence
    backendTls := candidate.context.listenerMatch.bind fun item => item.listener.backendTls }

def selectGrpcBackend (st : SelectionState) : Option SelectedBackend × SelectionState :=
  if isGrpcRequest request = false then (none, st)
  else
    let listeners := s.matchedListeners request.host request.port .grpc
    if listeners.enforceAttachments ∧ listeners.listeners = [] then (none, st)
    else
      let (best, st) := (s.grpcRuleContexts request).foldl
        (Best.scanStep (grpcRuleCandidate cr s request sessionResolver now) GrpcCandidate.score)
        (none, st)
      (best.map GrpcCandidate.toSelected, st)

end Grpc

end NantianGateway
