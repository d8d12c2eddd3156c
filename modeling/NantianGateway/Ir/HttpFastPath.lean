import NantianGateway.Ir.HttpSelection

/-!
# The HTTP fast path

A plan compiled when the indexes are built, and a selection that walks it without looking at
headers, filters or sessions.  It may be used only while every rule is plain (`selectionSafe`), and
where the walk meets something it cannot handle it gives up: `none` in the accumulator of
`Best.strictStep`.
-/

namespace NantianGateway

open Text

/-! ## The plan -/

def httpMatchIsFastPathEligible (matcher : HttpMatch) : Bool :=
  matcher.headers.isEmpty && matcher.queryParams.isEmpty

def fastHttpPathRank (pathType : String) : ℕ :=
  match pathType with
  | "Exact" => 3
  | "RegularExpression" => 2
  | _ => 1

def compileHttpFastMatch (matcher : HttpMatch) : CompiledHttpFastMatch :=
  let matchedHttpPath := normalizeHttpPathMatch matcher
  { path := matcher.path
    pathType := matcher.pathType
    method := matcher.method
    compiledPathRegex := matcher.compiledPathRegex
    matchedHttpPath := matchedHttpPath
    score :=
      { pathRank := fastHttpPathRank matchedHttpPath.pathType
        pathLength := len matchedHttpPath.path
        methodSpecified := matcher.method ≠ "" } }

def compileHttpFastMatches (rule : HttpRule) : List CompiledHttpFastMatch :=
  rule.matches.map compileHttpFastMatch

def httpRuleHasSelectableBackend (rule : HttpRule) : Bool :=
  rule.backendRefs.any fun backendRef => backendRef.weight ≠ 0

namespace Snapshot

variable (s : Snapshot)

def backendRefIsFastPathEligible (backendRef : BackendRef) : Bool :=
  if backendRef.filters ≠ [] then false
  else
    (s.backendPolicy (requestedBackendName backendRef.toBackendTarget)).all fun policy =>
      policy.sessionPersistence.isNone && policy.loadBalancing.all fun loadBalancing =>
          loadBalancing.policyType ≠ "ConsistentHash"

def httpRuleIsFastPathSelectionSafe (rule : HttpRule) : Bool :=
  rule.timeouts.isNone && rule.retry.isNone && rule.sessionPersistence.isNone
    && rule.filters.isEmpty && rule.matches.all httpMatchIsFastPathEligible
    && (rule.backendRefs.filter fun backendRef => backendRef.weight ≠ 0).all
      s.backendRefIsFastPathEligible

/-- All references with weight, compiled; none if one of them cannot be, or there is
none. -/
def compileHttpFastBackendRefs (rule : HttpRule) : Option (List CompiledHttpFastBackendRef) :=
  ((rule.backendRefs.filter fun backendRef => backendRef.weight ≠ 0).mapM
    s.compileHttpFastBackendRef).filter fun compiled => compiled ≠ []

/-- The compiled rule, if the rule is plain and all its references can be compiled. -/
def compileHttpFastRule (entry : HttpRule × ℕ) : Option CompiledHttpFastRule :=
  if s.httpRuleIsFastPathSelectionSafe entry.1 = false then none
  else
    (s.compileHttpFastBackendRefs entry.1).map fun backendRefs =>
      { ruleIndex := entry.2
        «matches» := compileHttpFastMatches entry.1
        defaultMatchedHttpPath := defaultHttpPathMatch
        backendRefs := backendRefs }

/-- A rule that the plan has to leave out although it could be selected. -/
def httpRuleSpoilsFastPath (rule : HttpRule) : Bool :=
  s.httpRuleIsFastPathSelectionSafe rule = false
    || ((s.compileHttpFastBackendRefs rule).isNone && httpRuleHasSelectableBackend rule)

/-- The compiled route, if it has a compiled rule. -/
def compileHttpFastRoute (entry : HttpRoute × ℕ) : Option CompiledHttpFastRoute :=
  let eligibleRules := entry.1.rules.zipIdx.filterMap s.compileHttpFastRule
  if eligibleRules.isEmpty then none
  else
    some
      { routeIndex := entry.2
        routeName := entry.1.name
        routeNamespace := entry.1.namespace
        routeAnnotations := entry.1.annotations
        eligibleRules := eligibleRules }

/-- Append a route to the plan, and where it stands there, or nothing. -/
def planRoute (plan : List CompiledHttpFastRoute × List (Option ℕ)) (entry : HttpRoute × ℕ) :
    List CompiledHttpFastRoute × List (Option ℕ) :=
  match s.compileHttpFastRoute entry with
  | none => (plan.1, plan.2 ++ [none])
  | some compiled => (plan.1 ++ [compiled], plan.2 ++ [some plan.1.length])

def buildHttpFastPathPlan : HttpFastPathPlan :=
  let planned := s.httpRoutes.zipIdx.foldl s.planRoute ([], [])
  { listeners := s.listeners.map fun listener =>
      ⟨listener.name, listener.protocol, listener.backendTls.isSome⟩
    routes := planned.1
    routePlanIndices := planned.2
    selectionSafe :=
      s.httpRoutes.all fun route => route.rules.all fun rule => !s.httpRuleSpoilsFastPath rule }

end Snapshot

/-! ## Matching -/

structure HttpFastPathRequest where
  host : Option String
  port : UInt32
  path : String
  method : String
  isGrpc : Bool

abbrev FastCandidateScore := CandidateScore FastHttpRuleScore

structure FastMatchedListener where
  listenerIndex : ℕ
  hostScore : HostnameScore

/-- The source keeps the first match apart from the others; here they are one list. -/
structure FastCandidateListeners where
  «matches» : List FastMatchedListener
  enforceAttachments : Bool

def requestPathWithoutQuery (path : String) : String :=
  ((splitOnce '?' path).map Prod.fst).getD path

def fastMatchesPathPrefix (front path : String) : Bool :=
  if front = "/" ∨ path = front then true
  else if endsWithChar front '/' then startsWith path front
  else startsWith path front && ((stripFront front path).any fun rest => startsWith rest "/")

def fastMatchesHttpPath (cr : Crates) (matcher : CompiledHttpFastMatch) (requestPath : String) :
    Bool :=
  if matcher.path = "" then true
  else
    match matcher.pathType with
    | "Exact" => requestPath == matcher.path
    | "RegularExpression" =>
      matcher.compiledPathRegex.any fun regex => cr.regexIsMatch regex.pattern requestPath
    | _ => fastMatchesPathPrefix matcher.path requestPath

def fastMatchesHttpRule (cr : Crates) (matcher : CompiledHttpFastMatch)
    (requestPath requestMethod : String) : Bool :=
  fastMatchesHttpPath cr matcher requestPath
    && (matcher.method == "" || eqIgnoreAsciiCase matcher.method requestMethod)

def fastBestHttpRuleMatch (cr : Crates) (rule : CompiledHttpFastRule)
    (requestPath requestMethod : String) : Option (MatchedHttpPath × FastHttpRuleScore) :=
  if rule.matches.isEmpty then some (rule.defaultMatchedHttpPath, {})
  else
    Best.maxBy Prod.snd ((rule.matches.filter fun matcher =>
        fastMatchesHttpRule cr matcher requestPath requestMethod).map fun matcher =>
          (matcher.matchedHttpPath, matcher.score))

def fastHostnameScore (pattern requestHost : String) : Option HostnameScore :=
  let requestHost := normalizeHostRef requestHost
  match stripFront "*." pattern with
  | some suffix =>
    if hostnameMatches pattern requestHost then
      some { rank := 1, length := len (normalizeHostRef suffix) }
    else none
  | none =>
    if normalizeHostRef pattern = requestHost then
      some { rank := 2, length := len (normalizeHostRef pattern) }
    else none

def fastBestHostnameScore (hostnames : List String) (requestHost : Option String) :
    Option HostnameScore :=
  if hostnames = [] then some {}
  else
    requestHost.bind fun requestHost =>
      Best.maxBy id (hostnames.filterMap fun hostname => fastHostnameScore hostname requestHost)

def attachedRouteMatches (attached routeNamespace routeName : String) : Bool :=
  (splitOnce '/' attached).any fun parts => parts.1 == routeNamespace && parts.2 == routeName

namespace Snapshot

variable (s : Snapshot)

def visitFastCandidateListeners (requestPort : UInt32) : List (Listener × ℕ) :=
  if s.runtimeIndexesReady = false ∨ requestPort = 0 then
    s.listeners.zipIdx.filter fun entry =>
      isHttpListener entry.1.protocol && (requestPort == 0 || entry.1.port == requestPort)
  else
    ((s.httpListenerPortIndex requestPort).getD []).filterMap fun listenerIndex =>
      s.listeners[listenerIndex]?.map fun listener => (listener, listenerIndex)

def fastMatchedListeners (requestHost : Option String) (requestPort : UInt32) :
    FastCandidateListeners :=
  let visited := s.visitFastCandidateListeners requestPort
  { «matches» := ((visited.filterMap fun entry =>
      (fastBestHostnameScore entry.1.hostnames requestHost).map fun hostScore =>
        FastMatchedListener.mk entry.2 hostScore).foldl
          (Best.keepTies FastMatchedListener.hostScore) (none, [])).2
    enforceAttachments := visited ≠ [] }

def fastRouteListenerMatch (listeners : FastCandidateListeners)
    (routeNamespace routeName : String) : Option FastMatchedListener :=
  if listeners.enforceAttachments = false then none
  else if s.runtimeIndexesReady then
    (s.routeAttachmentListenerIndex.listenersForRoute routeNamespace routeName).bind
      fun attached =>
        Best.maxBy FastMatchedListener.hostScore
          (listeners.matches.filter fun item => item.listenerIndex ∈ attached)
  else
    Best.maxBy FastMatchedListener.hostScore (listeners.matches.filter fun item =>
      s.listeners[item.listenerIndex]?.any fun listener =>
        listener.attachedRoutes.any fun attached =>
          attachedRouteMatches attached routeNamespace routeName)

end Snapshot

/-! ## Selecting -/

/-- A compiled rule that accepts the request, with all that its score is made of. -/
structure FastContext where
  route : CompiledHttpFastRoute
  listenerMatch : Option FastMatchedListener
  routeHost : HostnameScore
  rule : CompiledHttpFastRule
  matchedHttpPath : MatchedHttpPath
  ruleScore : FastHttpRuleScore

def FastContext.score (context : FastContext) : FastCandidateScore :=
  ⟨(context.listenerMatch.map fun item => item.hostScore).getD {}, context.routeHost,
    context.ruleScore⟩

/-- What the plan selects for a rule: a backend, and the listener it was reached through. -/
structure FastSelection where
  selected : CompiledHttpFastBackendSelection
  listener : Option CompiledHttpFastListener

structure CompiledSelectedHttpBackend where
  routeName : String
  routeNamespace : String
  ruleIndex : Option ℕ
  routeAnnotations : BTreeMap String
  listenerName : String
  listenerProtocol : String
  backend : BackendEndpoint
  backendName : String
  matchedHttpPath : MatchedHttpPath
  deriving DecidableEq

namespace HttpFastPathPlan

variable (plan : HttpFastPathPlan) (cr : Crates) (s : Snapshot) (request : HttpFastPathRequest)

def requestHost : Option String := request.host.map normalizeHostRef

/-- The compiled routes to visit, in order. -/
def candidateRoutes (requestHost : Option String) : List CompiledHttpFastRoute :=
  if s.runtimeIndexesReady = false then plan.routes
  else
    (s.httpRouteHostnameIndex.candidateIndices requestHost).filterMap fun routeIndex =>
      plan.routePlanIndices[routeIndex]?.join.bind fun routePlanIndex =>
        plan.routes[routePlanIndex]?

/-- Does the frontend of the matched listener accept the route?  `none` gives up. -/
def frontendAccepts (route : HttpRoute) (listenerMatch : Option FastMatchedListener) :
    Option Bool :=
  match listenerMatch with
  | none => some true
  | some item => s.listeners[item.listenerIndex]?.map fun listener =>
    s.routeAcceptsServiceFrontend route.parentRefs route.namespace listener

/-- The rules of a compiled route that accept the request; `none` gives up. -/
def routeContexts (compiled : CompiledHttpFastRoute) : Option (List FastContext) :=
  s.httpRoutes[compiled.routeIndex]?.bind fun route =>
    let requestHost := requestHost request
    let listeners := s.fastMatchedListeners requestHost request.port
    let listenerMatch := s.fastRouteListenerMatch listeners route.namespace route.name
    if listeners.enforceAttachments && listenerMatch.isNone then some []
    else
      (frontendAccepts s route listenerMatch).map fun accepted =>
        if accepted = false then []
        else
          match fastBestHostnameScore route.hostnames requestHost with
          | none => []
          | some routeHost =>
            compiled.eligibleRules.filterMap fun rule =>
              (fastBestHttpRuleMatch cr rule (requestPathWithoutQuery request.path)
                request.method).map fun best =>
                  ⟨compiled, listenerMatch, routeHost, rule, best.1, best.2⟩

def listenerInfo (listenerMatch : Option FastMatchedListener) :
    Option (Option CompiledHttpFastListener) :=
  match listenerMatch with
  | none => some none
  | some item => plan.listeners[item.listenerIndex]?.map some

/-- Select a backend for a rule; `none` gives up. -/
def makeSelection (now : Instant) (context : FastContext) (st : SelectionState) :
    Option FastSelection × SelectionState :=
  match plan.listenerInfo context.listenerMatch with
  | none => (none, st)
  | some listener =>
    if listener.any fun listener => listener.hasBackendTls then (none, st)
    else
      let (selected, st) := s.selectCompiledHttpFastBackend context.rule.backendRefs now st
      (selected.map fun selected => ⟨selected, listener⟩, st)

def routeStep (now : Instant) (acc : Option (Option (FastContext × FastSelection)) × SelectionState)
    (compiled : CompiledHttpFastRoute) :
    Option (Option (FastContext × FastSelection)) × SelectionState :=
  match acc.1 with
  | none => acc
  | some _ =>
    match routeContexts cr s request compiled with
    | none => (none, acc.2)
    | some contexts =>
      contexts.foldl (Best.strictStep FastContext.score (plan.makeSelection s now)) acc

def toSelected (winner : FastContext × FastSelection) : CompiledSelectedHttpBackend :=
  { routeName := winner.1.route.routeName
    routeNamespace := winner.1.route.routeNamespace
    ruleIndex := some winner.1.rule.ruleIndex
    routeAnnotations := winner.1.route.routeAnnotations
    listenerName := (winner.2.listener.map fun listener => listener.name).getD ""
    listenerProtocol := (winner.2.listener.map fun listener => listener.protocol).getD ""
    backend := winner.2.selected.endpoint
    backendName := winner.2.selected.backendName
    matchedHttpPath := winner.1.matchedHttpPath }

def select (now : Instant) (st : SelectionState) :
    Option CompiledSelectedHttpBackend × SelectionState :=
  if plan.selectionSafe = false ∨ request.isGrpc ∨
      s.requestMaterialization.requiresFullHeaders ∨ s.requestMaterialization.sourceIp then
    (none, st)
  else
    let (best, st) := (plan.candidateRoutes s (requestHost request)).foldl
      (plan.routeStep cr s request now) (some none, st)
    (best.join.map toSelected, st)

end HttpFastPathPlan

def Snapshot.selectHttpFastPath (cr : Crates) (s : Snapshot) (request : HttpFastPathRequest)
    (now : Instant) (st : SelectionState) : Option CompiledSelectedHttpBackend × SelectionState :=
  s.httpFastPath.select cr s request now st

end NantianGateway
