import NantianGateway.Lib.Table

/-!
# The intermediate representation

The data the gateway routes by, and the request metadata that is matched against them.  Field names
and default values are those of the source structs.  `BackendTarget` is the part of a backend
reference that selection reads, so that filters, which may name a backend, need no recursion.
-/

namespace NantianGateway

/-- Durations, in nanoseconds. -/
abbrev Duration := ℕ

/-- Points of the monotonic clock, in nanoseconds. -/
abbrev Instant := ℕ

/-- A compiled regular expression, remembered by its pattern. -/
structure Regex where
  pattern : String
  deriving DecidableEq

/-! ## Sessions, timeouts, retries -/

structure CookieConfig where
  lifetimeType : String := ""
  deriving DecidableEq

structure SessionPersistence where
  sessionName : String := ""
  sessionType : String := ""
  absoluteTimeout : Option Duration := none
  idleTimeout : Option Duration := none
  cookie : Option CookieConfig := none
  deriving DecidableEq

def SessionPersistence.isCookie (policy : SessionPersistence) : Bool :=
  policy.sessionType != "Header"

structure RouteTimeouts where
  request : Option Duration := none
  backendRequest : Option Duration := none
  connect : Option Duration := none
  nextUpstream : Option Duration := none
  deriving DecidableEq

structure RetryPolicy where
  codes : List UInt32 := []
  attempts : UInt32 := 0
  backoff : Option Duration := none
  deriving DecidableEq

/-! ## Backends -/

structure BackendEndpoint where
  address : String := ""
  port : UInt32 := 0
  healthy : Bool := false
  deriving DecidableEq

/-- A backend reference without its filters. -/
structure BackendTarget where
  group : String := ""
  kind : String := ""
  «namespace» : String := ""
  name : String := ""
  port : UInt32 := 0
  weight : UInt32 := 1
  metadata : BTreeMap String := .empty
  deriving DecidableEq

structure ConsistentHashPolicy where
  keyType : String := ""
  headerName : String := ""
  deriving DecidableEq

structure SlowStartConfig where
  window : Option Duration := none
  deriving DecidableEq

structure LoadBalancingPolicy where
  policyType : String := ""
  consistentHash : Option ConsistentHashPolicy := none
  slowStart : Option SlowStartConfig := none
  deriving DecidableEq

structure BackendPolicy where
  sessionPersistence : Option SessionPersistence := none
  loadBalancing : Option LoadBalancingPolicy := none
  deriving DecidableEq

structure PersistentSessionTarget where
  backendName : String := ""
  endpoint : BackendEndpoint := {}
  deriving DecidableEq

/-! ## Security policies -/

structure JwtAuthConfig where
  issuer : String := ""
  jwksUrl : String := ""
  audience : String := ""
  headerName : String := ""
  tokenPrefix : String := ""
  claimsToHeaders : BTreeMap String := .empty
  cacheTtlSecs : Int := 0
  deriving DecidableEq

structure OidcAuthConfig where
  providerAuthorizationUrl : String := ""
  providerTokenUrl : String := ""
  providerJwksUrl : String := ""
  providerUserinfoUrl : String := ""
  clientId : String := ""
  clientSecretRef : String := ""
  callbackPath : String := ""
  scopes : List String := []
  redirectUrl : String := ""
  sessionSigningKeyRef : String := ""
  sessionCookieName : String := ""
  sessionTtlSecs : Int := 0
  deriving DecidableEq

structure BasicAuthConfig where
  htpasswdRef : String := ""
  bcrypt : Bool := false
  realm : String := ""
  deriving DecidableEq

structure SecurityAuthNConfig where
  jwt : Option JwtAuthConfig := none
  oidc : Option OidcAuthConfig := none
  basicAuth : Option BasicAuthConfig := none
  deriving DecidableEq

structure SecurityIpConfig where
  allowCidrs : List String := []
  denyCidrs : List String := []
  deriving DecidableEq

structure SecurityPolicyConfig where
  authn : Option SecurityAuthNConfig := none
  ip : Option SecurityIpConfig := none
  deriving DecidableEq

structure CircuitBreakerConfig where
  maxInflightRequests : UInt32
  deriving DecidableEq

structure BackendCluster where
  name : String := ""
  «namespace» : String := ""
  endpoints : List BackendEndpoint := []
  circuitBreaker : Option CircuitBreakerConfig := none
  securityPolicy : Option SecurityPolicyConfig := none
  deriving DecidableEq

/-! ## Filters -/

structure HeaderOperation where
  name : String := ""
  value : String := ""
  deriving DecidableEq

structure HeaderModifier where
  set : List HeaderOperation := []
  add : List HeaderOperation := []
  remove : List String := []
  deriving DecidableEq

structure CorsFilter where
  allowOrigins : List String := []
  allowMethods : List String := []
  allowHeaders : List String := []
  exposeHeaders : List String := []
  allowCredentials : Bool := false
  maxAge : Option UInt32 := none
  deriving DecidableEq

structure PathModifier where
  modifierType : String := ""
  replaceFullPath : String := ""
  replacePrefixMatch : String := ""
  deriving DecidableEq

structure RequestRedirectFilter where
  scheme : String := ""
  hostname : String := ""
  path : Option PathModifier := none
  port : UInt32 := 0
  statusCode : UInt16 := 0
  deriving DecidableEq

structure UrlRewriteFilter where
  hostname : String := ""
  path : Option PathModifier := none
  deriving DecidableEq

structure Fraction where
  numerator : UInt32 := 0
  denominator : UInt32 := 100
  deriving DecidableEq

structure RequestMirrorFilter where
  backendRef : BackendTarget := {}
  percent : Option UInt32 := none
  fraction : Option Fraction := none
  deriving DecidableEq

structure ExternalHTTPAuthConfig where
  path : String := ""
  allowedHeaders : List String := []
  allowedResponseHeaders : List String := []
  deriving DecidableEq

structure ExternalAuthFilter where
  protocol : String := ""
  backendRef : BackendTarget := {}
  http : ExternalHTTPAuthConfig := {}
  grpcAllowedHeaders : List String := []
  forwardBodyMaxSize : Option UInt32 := none
  deriving DecidableEq

structure DirectResponseFilter where
  statusCode : UInt16 := 0
  body : String := ""
  contentType : String := ""
  headers : List HeaderOperation := []
  deriving DecidableEq

structure ExtensionFilter where
  resolved : Bool := false
  message : String := ""
  extensionType : String := ""
  directResponse : Option DirectResponseFilter := none
  deriving DecidableEq

structure ClaimToHeader where
  claim : String := ""
  header : String := ""
  deriving DecidableEq

structure JwtAuthFilter where
  jwksUrl : String := ""
  issuer : Option String := none
  audience : Option String := none
  headerName : String := ""
  tokenPrefix : String := ""
  claimsToHeaders : List ClaimToHeader := []
  cacheTtlSecs : Option UInt64 := none
  deriving DecidableEq

structure Filter where
  filterType : String := ""
  headerModifier : Option HeaderModifier := none
  cors : Option CorsFilter := none
  requestRedirect : Option RequestRedirectFilter := none
  urlRewrite : Option UrlRewriteFilter := none
  requestMirror : Option RequestMirrorFilter := none
  externalAuth : Option ExternalAuthFilter := none
  extensionRef : Option ExtensionFilter := none
  jwtAuth : Option JwtAuthFilter := none
  deriving DecidableEq

/-- A backend reference of a rule. -/
structure BackendRef extends BackendTarget where
  filters : List Filter := []
  deriving DecidableEq

/-! ## Routes -/

structure ParentRef where
  group : String := ""
  kind : String := ""
  «namespace» : String := ""
  name : String := ""
  sectionName : String := ""
  port : UInt32 := 0
  deriving DecidableEq

structure HeaderMatch where
  name : String := ""
  value : String := ""
  matchType : String := ""
  compiledRegex : Option Regex := none
  deriving DecidableEq

structure QueryMatch where
  name : String := ""
  value : String := ""
  matchType : String := ""
  compiledRegex : Option Regex := none
  deriving DecidableEq

structure HttpMatch where
  path : String := ""
  pathType : String := ""
  method : String := ""
  headers : List HeaderMatch := []
  queryParams : List QueryMatch := []
  compiledPathRegex : Option Regex := none
  deriving DecidableEq

structure HttpRule where
  «matches» : List HttpMatch := []
  filters : List Filter := []
  backendRefs : List BackendRef := []
  timeouts : Option RouteTimeouts := none
  retry : Option RetryPolicy := none
  sessionPersistence : Option SessionPersistence := none
  deriving DecidableEq

structure HttpRoute where
  name : String := ""
  «namespace» : String := ""
  hostnames : List String := []
  parentRefs : List ParentRef := []
  rules : List HttpRule := []
  annotations : BTreeMap String := .empty
  deriving DecidableEq

structure GrpcMatch where
  service : String := ""
  method : String := ""
  matchType : String := ""
  headers : List HeaderMatch := []
  compiledServiceRegex : Option Regex := none
  compiledMethodRegex : Option Regex := none
  deriving DecidableEq

structure GrpcRule where
  «matches» : List GrpcMatch := []
  filters : List Filter := []
  backendRefs : List BackendRef := []
  sessionPersistence : Option SessionPersistence := none
  deriving DecidableEq

structure GrpcRoute where
  name : String := ""
  «namespace» : String := ""
  hostnames : List String := []
  parentRefs : List ParentRef := []
  rules : List GrpcRule := []
  annotations : BTreeMap String := .empty
  deriving DecidableEq

inductive TlsRouteMode where
  | passthrough
  | terminate
  deriving DecidableEq

structure StreamMatch where
  port : UInt32 := 0
  sniHostname : String := ""
  mode : TlsRouteMode := .passthrough
  deriving DecidableEq

structure StreamRule where
  «matches» : List StreamMatch := []
  backendRefs : List BackendRef := []
  deriving DecidableEq

structure StreamRoute where
  name : String := ""
  «namespace» : String := ""
  kind : String := ""
  rules : List StreamRule := []
  annotations : BTreeMap String := .empty
  deriving DecidableEq

/-! ## Listeners and workloads -/

structure BackendTlsConfig where
  clientCertificateRef : String := ""
  deriving DecidableEq

structure Listener where
  name : String := ""
  port : UInt32 := 0
  protocol : String := ""
  hostnames : List String := []
  attachedRoutes : List String := []
  backendTls : Option BackendTlsConfig := none
  metadata : BTreeMap String := .empty
  deriving DecidableEq

structure Workload where
  «namespace» : String := ""
  name : String := ""
  ip : String := ""
  deriving DecidableEq

structure ServiceFrontendRef where
  «namespace» : String
  name : String
  port : UInt32
  deriving DecidableEq

/-! ## Requests and selections -/

structure RequestMeta where
  host : Option String := none
  port : UInt32 := 0
  path : String := ""
  method : String := ""
  sourceIp : Option String := none
  headers : BTreeMap (List String) := .empty
  queryParams : BTreeMap (List String) := .empty
  deriving DecidableEq

inductive RouteKind where
  | http
  | grpc
  | tcp
  | udp
  | tls
  deriving DecidableEq

inductive BackendSelectionError where
  | invalidBackendRefs
  | noHealthyBackends
  deriving DecidableEq

structure MatchedHttpPath where
  path : String := ""
  pathType : String := ""
  deriving DecidableEq

structure SelectedBackend where
  routeKind : RouteKind
  routeName : String
  routeNamespace : String
  ruleIndex : Option ℕ
  routeAnnotations : BTreeMap String
  listenerName : String
  listenerProtocol : String
  backend : BackendEndpoint
  backendName : String
  filters : List Filter
  matchedHttpPath : Option MatchedHttpPath
  timeouts : Option RouteTimeouts
  retry : Option RetryPolicy
  sessionPersistence : Option SessionPersistence
  backendTls : Option BackendTlsConfig
  deriving DecidableEq

structure SelectedHttpRoute where
  routeName : String
  routeNamespace : String
  ruleIndex : Option ℕ
  routeAnnotations : BTreeMap String
  listenerName : String
  listenerProtocol : String
  filters : List Filter
  matchedHttpPath : MatchedHttpPath
  backend : Option BackendEndpoint
  backendName : Option String
  backendError : Option BackendSelectionError
  timeouts : Option RouteTimeouts
  retry : Option RetryPolicy
  sessionPersistence : Option SessionPersistence
  backendTls : Option BackendTlsConfig
  securityPolicy : Option SecurityPolicyConfig
  deriving DecidableEq

structure ResolvedHttpBackend where
  endpoint : BackendEndpoint
  backendName : String
  filters : List Filter
  sessionPersistence : Option SessionPersistence
  deriving DecidableEq

structure HttpBackendResolution where
  selected : Option ResolvedHttpBackend := none
  error : Option BackendSelectionError := none
  deriving DecidableEq

end NantianGateway
