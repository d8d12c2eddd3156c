import NantianGateway.Ir.HostnameIndex
import NantianGateway.Ir.Runtime
import NantianGateway.Ir.ServiceIndex

/-!
# Snapshots

The configuration the gateway serves, together with the indexes and compiled plans that
`rebuild_runtime_indexes` derives from it and the endpoint health it reads.  Almost every lookup has
two bodies, one through an index, if `runtimeIndexesReady`, and one that scans.
-/

namespace NantianGateway

open Text

/-! ## Compiled plans -/

structure FastHttpRuleScore where
  pathRank : ℕ := 0
  pathLength : ℕ := 0
  methodSpecified : Bool := false
  deriving DecidableEq

instance : LinearOrder FastHttpRuleScore :=
  LinearOrder.lift' (fun s => toLex (s.pathRank, toLex (s.pathLength, s.methodSpecified)))
    fun s t h => by
    cases s; cases t; cases h; rfl

structure CompiledHttpFastListener where
  name : String
  protocol : String
  hasBackendTls : Bool

structure CompiledHttpFastMatch where
  path : String
  pathType : String
  method : String
  compiledPathRegex : Option Regex
  matchedHttpPath : MatchedHttpPath
  score : FastHttpRuleScore

structure CompiledHttpFastEndpoint where
  endpoint : BackendEndpoint

structure CompiledHttpFastBackendRef where
  backendIndex : ℕ
  backendName : String
  weight : UInt32
  endpoints : List CompiledHttpFastEndpoint

structure CompiledHttpFastRule where
  ruleIndex : ℕ
  «matches» : List CompiledHttpFastMatch
  defaultMatchedHttpPath : MatchedHttpPath
  backendRefs : List CompiledHttpFastBackendRef

structure CompiledHttpFastRoute where
  routeIndex : ℕ
  routeName : String
  routeNamespace : String
  routeAnnotations : BTreeMap String
  eligibleRules : List CompiledHttpFastRule

structure HttpFastPathPlan where
  listeners : List CompiledHttpFastListener := []
  routes : List CompiledHttpFastRoute := []
  routePlanIndices : List (Option ℕ) := []
  selectionSafe : Bool := false

structure CompiledStreamFastRule where
  ruleIndex : ℕ
  backendRefs : List CompiledHttpFastBackendRef

structure CompiledStreamFastRoute where
  rules : List CompiledStreamFastRule

structure StreamFastPathPlan where
  routes : List (Option CompiledStreamFastRoute) := []

structure RequestMaterializationHints where
  httpRouteHeaders : Bool := false
  grpcRouteHeaders : Bool := false
  sessionHeaders : Bool := false
  backendHashHeaders : Bool := false
  sourceIp : Bool := false
  deriving DecidableEq

def RequestMaterializationHints.requiresFullHeaders (hints : RequestMaterializationHints) : Bool :=
  hints.httpRouteHeaders || hints.grpcRouteHeaders || hints.sessionHeaders
    || hints.backendHashHeaders

/-! ## The snapshot -/

structure Snapshot where
  listeners : List Listener := []
  httpRoutes : List HttpRoute := []
  grpcRoutes : List GrpcRoute := []
  streamRoutes : List StreamRoute := []
  backends : List BackendCluster := []
  backendPolicies : BTreeMap BackendPolicy := .empty
  workloads : List Workload := []
  endpointRuntime : EndpointRuntimeStore := .empty
  backendNames : List String := []
  backendIndex : Table String ℕ := .empty
  backendServiceIndex : BackendServiceIndex := {}
  workloadNamespaceIndex : Table String String := .empty
  runtimeIndexesReady : Bool := false
  listenerNameIndex : Table String ℕ := .empty
  httpListenerIndices : List ℕ := []
  grpcListenerIndices : List ℕ := []
  httpListenerPortIndex : Table UInt32 (List ℕ) := .empty
  grpcListenerPortIndex : Table UInt32 (List ℕ) := .empty
  serviceFrontendIndex : Table String ServiceFrontendRef := .empty
  serviceFrontendListenerPortIndex : Table UInt32 (List ℕ) := .empty
  /-- The names with attached routes, by namespace; a set is the list of its insertions. -/
  serviceFrontendAttachmentIndex : Table String (List String) := .empty
  routeAttachmentListenerIndex : RouteAttachmentListenerIndex := {}
  httpRouteHostnameIndex : HostnameRouteIndex := .empty
  grpcRouteHostnameIndex : HostnameRouteIndex := .empty
  streamListenerRouteIndex : Table String (List ℕ) := .empty
  requestMaterialization : RequestMaterializationHints := {}
  httpFastPath : HttpFastPathPlan := {}
  streamFastPath : StreamFastPathPlan := {}

/-! ## Mesh frontends -/

/-- The service a listener stands in front of, if its metadata says so. -/
def serviceFrontend (listener : Listener) : Option ServiceFrontendRef :=
  if listener.metadata.get "nantian.dev/frontend-kind" = some "Service" then
    (listener.metadata.get "nantian.dev/frontend-namespace").bind fun «namespace» =>
      (listener.metadata.get "nantian.dev/frontend-name").bind fun name =>
        (listener.metadata.get "nantian.dev/frontend-port").bind fun port =>
          (parseU32 port).map fun port => ⟨«namespace», name, port⟩
  else none

def isServiceParent (parentRef : ParentRef) : Bool :=
  parentRef.group == "" && parentRef.kind == "Service"

namespace Snapshot

variable (s : Snapshot) (backendName : String)

def backendPolicy : Option BackendPolicy := s.backendPolicies.get backendName

def backendSessionPersistence : Option SessionPersistence :=
  (s.backendPolicy backendName).bind fun policy => policy.sessionPersistence

def backendLoadBalancing : Option LoadBalancingPolicy :=
  (s.backendPolicy backendName).bind fun policy => policy.loadBalancing

def listenerByName (listenerName : String) : Option Listener :=
  if s.runtimeIndexesReady then
    (s.listenerNameIndex listenerName).bind fun index => s.listeners[index]?
  else s.listeners.find? fun listener => listener.name = listenerName

def serviceFrontendForListener (listener : Listener) : Option ServiceFrontendRef :=
  if s.runtimeIndexesReady then s.serviceFrontendIndex listener.name else serviceFrontend listener

variable (parentRefs : List ParentRef) (routeNamespace : String) (listener : Listener)

/-- `mesh::route_accepts_service_frontend`.  A parent reference that names the frontend
accepts the route, and so does the absence of one. -/
def routeAcceptsServiceFrontend : Bool :=
  match s.serviceFrontendForListener listener with
  | none => true
  | some frontend =>
    if parentRefs.any fun parentRef =>
        isServiceParent parentRef
          && (if parentRef.namespace = "" then routeNamespace else parentRef.namespace)
              == frontend.namespace
          && parentRef.name == frontend.name
          && (parentRef.port == 0 || parentRef.port == frontend.port)
    then true
    else true

@[simp] theorem acceptsFrontend_eq_true :
    s.routeAcceptsServiceFrontend parentRefs routeNamespace listener = true := by
  rw [routeAcceptsServiceFrontend]
  split
  · rfl
  · exact ite_self _

/-! ## Backend lookups -/

variable («namespace» name : String) (port : UInt32)

/-- The cluster that serves a namespace, name and port, with its position. -/
def backendClusterForServiceIndex : Option (ℕ × BackendCluster) :=
  if s.runtimeIndexesReady then
    (s.backendServiceIndex.indexFor «namespace» name port).bind fun index =>
      s.backends[index]?.map fun cluster => (index, cluster)
  else
    (s.backends.zipIdx.find? fun entry =>
      backendClusterMatchesRef entry.1 «namespace» name port).map fun entry => (entry.2, entry.1)

def backendClusterForService : Option BackendCluster :=
  (s.backendClusterForServiceIndex «namespace» name port).map Prod.snd

def backendNameForIndex (index : ℕ) (cluster : BackendCluster) : String :=
  if s.runtimeIndexesReady then s.backendNames[index]?.getD (backendClusterName cluster)
  else backendClusterName cluster

end Snapshot

end NantianGateway
